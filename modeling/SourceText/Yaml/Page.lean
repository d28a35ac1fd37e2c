import SourceText.Text

/-!
# Writing with indentation

A page is a text that is being written, together with what the next piece depends on: the column,
whether the last piece ends with a blank, and whether the line holds nothing but indentation and
indicators so far.
-/

namespace SourceText.Yaml

/-- A text that is being written, the latest character first. -/
structure Page where
  written : Text := []
  column : Nat := 0
  spaced : Bool := true
  fresh : Bool := true

namespace Page

/-- The text of the page. -/
def text (p : Page) : Text := p.written.reverse

/-- Writes characters. -/
def put (p : Page) (piece : Text) : Page :=
  { p with written := piece.reverse ++ p.written, column := p.column + piece.length }

/-- Writes an indicator, after a space where one is needed and missing. The line stays fresh if
`keepsFresh` holds. -/
def indicator (p : Page) (piece : String) (needsSpace : Bool) (keepsFresh : Bool := false) : Page :=
  let piece := if p.spaced || !needsSpace then piece.toList else ' ' :: piece.toList
  { p.put piece with spaced := false, fresh := p.fresh && keepsFresh }

/-- Ends the line. -/
def endLine (p : Page) : Page :=
  { written := '\n' :: p.written, column := 0, spaced := true, fresh := true }

/-- Goes to the given column, on a new line unless the present one is fresh and short enough. -/
def indentTo (p : Page) (column : Nat) : Page :=
  let p :=
    if !p.fresh || column < p.column || (p.column = column && !p.spaced) then p.endLine else p
  if p.column < column then
    { p.put (List.replicate (column - p.column) ' ') with spaced := true }
  else p

/-- The page after a piece of a scalar. -/
def inScalar (p : Page) : Page := { p with spaced := false, fresh := false }

end Page

end SourceText.Yaml
