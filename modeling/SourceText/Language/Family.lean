/-!
# Families of languages

A family says what carries the structure of a text, and so how it can be made compact.
-/

namespace SourceText

/-- The families of languages. -/
inductive Family where
  /-- Languages of the web, with a minifier of their own. -/
  | web
  /-- Brackets and semicolons, with comments behind two slashes or between slashes and asterisks. -/
  | cStyle
  /-- Languages whose lines and indentation carry the structure. -/
  | indentation
  /-- Languages in which any blank is as good as another. -/
  | other
  /-- Texts of which nothing is known. -/
  | unknown
  deriving DecidableEq, Repr, Inhabited

namespace Family

/-- The name of a family in documents and messages. -/
def name : Family → String
  | web => "web"
  | cStyle => "c_style"
  | indentation => "indentation"
  | other => "other"
  | unknown => "unknown"

/-- Every family. -/
def all : List Family := [web, cStyle, indentation, other, unknown]

end Family

end SourceText
