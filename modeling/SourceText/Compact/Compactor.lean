import SourceText.Compact.Collapse
import SourceText.Compact.Minifier
import SourceText.Language.Standard
import SourceText.Number.Decimal
import SourceText.Record

/-!
# Compaction

A text is made compact in the way of its language's family. Languages of the web are minified, and
treated like the bracket languages when that gives nothing. Compaction always has a result: when the
way of a family fails, the text stays as it is.
-/

namespace SourceText

/-- What compaction works with: a registry of languages, the minifiers of canonical tags, and for
every family the reason why its way fails, if it does. A look-up of a minifier may fail as well. -/
structure Compactor where
  registry : Registry
  minifier : String → Except String (Option Compact.Minifier)
  refusal : Family → Option String

namespace Compactor

/-- The compactor with the standard languages and minifiers, in which nothing fails. -/
def standard : Compactor where
  registry := Registry.standard
  minifier language := .ok ((Compact.standardMinifier? language).map (·.run))
  refusal _ := none

/-- The warning after a minifier that failed. -/
def minifierFailure (language reason : String) : Recorded Unit :=
  .log .warning s!"Minification error for {language}: {reason}"

/-- The warning after a minifier that answered with nothing. -/
def minifierEmpty (language : String) : Recorded Unit :=
  .log .warning s!"Minifier for {language} returned empty output, using fallback"

/-- The minifier's text if it is not blank, and the collapsed text otherwise. -/
def minifyOrCollapse (minifier : Compact.Minifier) (language : String) (text : Text) :
    Recorded RawText :=
  match minifier text with
  | .text minified =>
    if minified.isAllBlank then do
      minifierEmpty language
      pure (collapseCode text).raw
    else pure minified
  | .nothing => do
    minifierEmpty language
    pure (collapseCode text).raw
  | .foreign kind => do
    minifierFailure language s!"'{kind}' object has no attribute 'strip'"
    pure (collapseCode text).raw
  | .failed reason => do
    minifierFailure language reason
    pure (collapseCode text).raw

/-- The way of the web languages. -/
def compactWeb (c : Compactor) (text : Text) (language : String) :
    Recorded (Except String RawText) :=
  match c.minifier language with
  | .error reason => pure (.error reason)
  | .ok none => pure (.ok (collapseCode text).raw)
  | .ok (some minifier) => do pure (.ok (← minifyOrCollapse minifier language text))

/-- The way of a family. -/
def handle (c : Compactor) (family : Family) (text : Text) (language : String) :
    Recorded (Except String RawText) :=
  match c.refusal family with
  | some reason => pure (.error reason)
  | none =>
    match family with
    | .web => c.compactWeb text language
    | .cStyle | .unknown => pure (.ok (collapseCode text).raw)
    | .indentation => pure (.ok (dropBlankLines text).raw)
    | .other => pure (.ok (collapseBlanks text).raw)

/-- By how many percent a text has become shorter. -/
def reduction (before after : Nat) : Binary64 :=
  Binary64.ofInt 100 - Binary64.ofQuotient (after * 100) before

/-- The message after a compaction. -/
def summary (language : String) (family : Family) (before after : Nat) : String :=
  let percent := (reduction before after).fixed 1
  s!"Compacted {language} ({family.name}): {before} -> {after} chars ({percent}% reduction)"

/-- The compact form of a text in the given language. -/
def compact (c : Compactor) (text : Text) (language : Option String) : Recorded RawText :=
  if text.isEmpty then pure text.raw
  else
    let tag := c.registry.normalize language
    let family := c.registry.familyOf (some tag)
    c.handle family text tag >>= fun
      | .error reason => do
        .log .error s!"Compaction failed for language={tag}: {reason}"
        pure text.raw
      | .ok compacted => do
        .log .debug (summary tag family text.length compacted.length)
        pure compacted

end Compactor

end SourceText
