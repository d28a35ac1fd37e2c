import SourceText.Text

/-!
# Paths

The way to a file as the names on it. Empty names and single dots say nothing and are left out.
-/

namespace SourceText

/-- A path: the slashes that it starts with, and the names on the way. -/
structure Path where
  root : String := ""
  parts : List String
  deriving DecidableEq, Repr

namespace Path

/-- The path of a text. Two slashes at its start are kept as two, any other number as one. -/
def ofString (s : String) : Path :=
  let text := s.toList
  let slashes := (text.takeWhile (· = '/')).length
  { root := if slashes = 0 then "" else if slashes = 2 then "//" else "/"
    parts := ((Text.splitOn (· = '/') text).map String.ofList).filter fun part =>
      !part.isEmpty && part != "." }

/-- The text of a path. -/
def text (p : Path) : String :=
  if p.root.isEmpty && p.parts.isEmpty then "." else p.root ++ "/".intercalate p.parts

/-- Where a path starts. -/
def start (p : Path) : Path := { p with parts := [] }

/-- Whether a path leads nowhere but up, if anywhere. -/
def leadsUp (p : Path) : Bool := p.parts.all (· == "..")

/-- The path one name further. Two dots take back the last name; above its start they are kept, and
above a slash there is nothing. -/
def enter (p : Path) (name : String) : Path :=
  if name != ".." then { p with parts := p.parts ++ [name] }
  else if !p.leadsUp then { p with parts := p.parts.dropLast }
  else if p.root.isEmpty then { p with parts := p.parts ++ [name] }
  else p

/-- The path without its last name. -/
def parent (p : Path) : Path := { p with parts := p.parts.dropLast }

/-- The last name of a path. -/
def name (p : Path) : String := p.parts.getLastD ""

/-- The end of a name from its last dot on, none if that is the first or the last character. -/
def suffixOf (name : Text) : Text :=
  let reversed := name.reverse
  let ending := reversed.takeWhile (· != '.')
  if ending.isEmpty || reversed.length ≤ ending.length + 1 then [] else '.' :: ending.reverse

/-- The suffix of the last name of a path. -/
def suffix (p : Path) : String := String.ofList (suffixOf p.name.toList)

end Path

end SourceText
