import SourceText.Console.Markup
import SourceText.Console.Table
import SourceText.RawText

/-!
# The page

What is printed goes to a page of eighty columns. Messages may have tags and are set in lines; the
text of a program is put there as it is, except that tabulators become spaces. Other consoles may
have rules of their own.
-/

namespace SourceText.Console

/-- The columns of the page. -/
def pageColumns : Nat := 80

/-- Lines with a line feed after each. -/
def ended (lines : List Text) : Text := lines.flatMap (· ++ ['\n'])

/-- The text of a program on the page. -/
def program (text : Text) : Text := ended ((lines (strip text)).map expandTabs)

/-- A message on the page; `none` if its tags do not match. -/
def message (text : Text) : Option Text :=
  (renderMarkup text).map fun plain => ended (wrap .fold pageColumns (strip plain))

/-- A table on the page, whose rows may have tags as well. -/
def table (t : Table) : Option Text := do
  let rows ← t.rows.mapM fun row => row.mapM fun cell => (renderMarkup cell).map strip
  some (ended ({ t with rows := rows }.lines pageColumns))

/-- The rules of a console: the page of a program, of a message and of a table, if it can be
printed. -/
structure Rules where
  program : RawText → Option Text
  message : Text → Option Text
  table : Table → Option Text

/-- The rules of the plain page; halves of pairs cannot be printed. -/
def Rules.plain : Rules :=
  ⟨fun raw => raw.text?.map Console.program, Console.message, Console.table⟩

end SourceText.Console
