import SourceText.Compact.Script
import SourceText.Compact.Stylesheet
import SourceText.Json.Reader
import SourceText.Json.Writer

/-!
# Minifiers

The languages of the web have minifiers of their own. A minifier may fail, and one that is brought
along may also answer with something that is no text.
-/

namespace SourceText.Compact

/-- A JSON document without blanks. -/
def minifyJson (text : RawText) : Except Json.ReadError RawText :=
  (Json.read text).map (Json.write Json.minified)

/-- What a minifier answers. -/
inductive Minified where
  /-- A text, which may be blank. -/
  | text (text : RawText)
  /-- Nothing at all. -/
  | nothing
  /-- A value of the named kind that is no text. -/
  | foreign (kind : String)
  /-- No answer, for a reason. -/
  | failed (reason : String)
  deriving DecidableEq, Repr

/-- A minifier. -/
abbrev Minifier : Type := Text → Minified

/-- The minifiers that are known from the start. -/
inductive StandardMinifier where
  | script
  | json
  | stylesheet
  deriving DecidableEq, Repr

/-- What a standard minifier does. -/
def StandardMinifier.run : StandardMinifier → Minifier
  | script, text => .text (Script.minify text).raw
  | stylesheet, text => .text (Stylesheet.minify text).raw
  | json, text =>
    match minifyJson text.raw with
    | .ok minified => .text minified
    | .error e => .failed e.message

/-- The standard minifier of a canonical tag. -/
def standardMinifier? (language : String) : Option StandardMinifier :=
  if language = "javascript" || language = "typescript" then some .script
  else if language = "json" then some .json
  else if language = "css" then some .stylesheet
  else none

end SourceText.Compact
