import SourceText.Text

/-!
# Comments between asterisks

Recognition of one block comment at the start of a text, for minifiers that work on the text itself.
-/

namespace SourceText.Compact

/-- The text after the first end of a block comment. -/
def afterCommentEnd : Text → Option Text
  | [] => none
  | '*' :: '/' :: rest => some rest
  | _ :: rest => afterCommentEnd rest

/-- The text after the block comment that it starts with. -/
def skipBlockComment : Text → Option Text
  | '/' :: '*' :: rest => afterCommentEnd rest
  | _ => none

/-- The part of `text` in front of `rest`, which is its end. -/
def partBefore (text rest : Text) : Text := text.take (text.length - rest.length)

end SourceText.Compact
