import SourceText.Scan

/-!
# Collapsing blanks

Three ways to take the blanks out of source text, for languages in which brackets, blanks alone or
lines and their indentation carry the structure.
-/

namespace SourceText

namespace Compact

/-- Writes out scanned characters without comments and with one space for every run of blanks and
comments between two others. `started` tells whether a character has been written, `gap` whether
blanks or comments have come since. -/
def collapseMarks : (started gap : Bool) → List (Char × Region) → Text
  | _, _, [] => []
  | started, gap, (c, region) :: rest =>
    if region = .comment || (region = .code && isBlank c) then collapseMarks started true rest
    else if gap && started then ' ' :: c :: collapseMarks true false rest
    else c :: collapseMarks true false rest

end Compact

/-- The text on one line, without comments and with one space for every run of blanks outside
literals. -/
def collapseCode (text : Text) : Text := (Compact.collapseMarks false false (scan true text)).trim

/-- The words of the text with one space between them. -/
def collapseBlanks (text : Text) : Text := Text.join [' '] text.words

/-- The lines of the text without their trailing blanks; blank lines are dropped. -/
def dropBlankLines (text : Text) : Text :=
  Text.join ['\n'] ((text.lines.map Text.trimRight).filter (!·.isEmpty))

end SourceText
