import SourceText.Language.Family
import SourceText.Text
import SourceText.Unicode.Case

/-!
# The registry of languages

Classifiers and people name the same language in many ways. A registry maps every raw identifier to
one canonical tag and every tag to its family. It is the history of what was registered, the latest
first, and the latest entry for a key counts. Identifiers are strings, or whatever else has keys as
strings have.
-/

namespace SourceText

/-- What can name languages. -/
class Identifier (ι : Type) where
  /-- An identifier as it is looked up. -/
  key : ι → ι
  /-- Whether a key names nothing. -/
  isEmpty : ι → Bool
  /-- The tag of texts whose language is not known. -/
  unknown : ι
  /-- An identifier in a message. -/
  shown : ι → String

/-- The tag of texts whose language is not known. -/
def unknownLanguage : String := "unknown"

/-- A string without blanks around it and in lower case. -/
def lowerTrimmed (raw : String) : String :=
  String.ofList (Unicode.lower (Text.trim raw.toList))

instance : Identifier String := ⟨lowerTrimmed, String.isEmpty, unknownLanguage, id⟩

/-- The key of an identifier in the registry. -/
def languageKey {ι : Type} [Identifier ι] (raw : ι) : ι := Identifier.key raw

/-- Raw identifiers with their tags and tags with their families, the latest first. -/
structure Registry (ι : Type := String) where
  tags : List (ι × ι) := []
  families : List (ι × Family) := []
  deriving Repr

namespace Registry

variable {ι : Type} [DecidableEq ι] [Identifier ι]

/-- The registry in which nothing has been registered. -/
def empty : Registry ι := {}

/-- Registers a language with its family and its aliases. -/
def register (r : Registry ι) (language : ι) (family : Family) (aliases : List ι) : Registry ι :=
  let tag := languageKey language
  { tags := (aliases.map fun raw => (languageKey raw, tag)).reverse ++ (tag, tag) :: r.tags
    families := (tag, family) :: r.families }

/-- The tag of a key; a key that was never registered is its own tag. -/
def tagOfKey (r : Registry ι) (key : ι) : ι := (r.tags.lookup key).getD key

/-- The canonical tag of a raw identifier. -/
def normalize (r : Registry ι) (raw : Option ι) : ι :=
  match raw with
  | none => Identifier.unknown
  | some raw =>
    let key := languageKey raw
    if Identifier.isEmpty key then Identifier.unknown else r.tagOfKey key

/-- The family of a tag; languages that were never registered belong to the others. -/
def familyOfTag (r : Registry ι) (tag : ι) : Family :=
  if tag = Identifier.unknown then .unknown else (r.families.lookup tag).getD .other

/-- The family of a raw identifier. -/
def familyOf (r : Registry ι) (raw : Option ι) : Family := r.familyOfTag (r.normalize raw)

/-- The raw identifiers other than the tag itself that have the tag of `language`. -/
def aliases (r : Registry ι) (language : Option ι) : List ι :=
  let tag := r.normalize language
  ((r.tags.map (·.1)).eraseDups).filter fun key => r.tagOfKey key = tag && key != tag

/-- The registered tags. -/
def languages (r : Registry ι) : List ι := (r.families.map (·.1)).eraseDups

/-- Whether the identifier belongs to a registered language. -/
def isSupported (r : Registry ι) (raw : Option ι) : Bool :=
  (r.families.lookup (r.normalize raw)).isSome

end Registry

end SourceText
