import SourceText.Language.Standard

/-!
# Parsers

A formatter works with a parser for the language. Not every language has one.
-/

namespace SourceText.Format

/-- The parsers of canonical tags. -/
def parsers : List (String × String) :=
  [("javascript", "babel"), ("typescript", "babel-ts"), ("json", "json"), ("css", "css"),
    ("html", "html"), ("php", "php"), ("java", "java"), ("kotlin", "kotlin"), ("bash", "sh")]

/-- The parser of a language, given by any of its identifiers. -/
def parserOf? (language : Option String) : Option String :=
  parsers.lookup (normalizeLanguage language)

/-- Whether some language has the parser. -/
def isParser (parser : String) : Bool := parsers.any (·.2 == parser)

/-- The parser of JSON. -/
def jsonParser : String := "json"

end SourceText.Format
