import SourceText.Text
import SourceText.Unicode.Case

/-!
# Markup

A message can have tags in square brackets, which say how what follows is to look. On a plain page
the tags vanish, but they still have to match: a closing tag closes the last open tag of its name,
and one without a name the last of all. A backslash before a tag makes it an ordinary text.
-/

namespace SourceText.Console

/-- A part of a message. -/
inductive Token where
  | text (text : Text)
  | opening (name : Text)
  /-- A closing tag; its name is empty if it closes any tag. -/
  | closing (name : Text)
  deriving DecidableEq, Repr

/-- Whether a tag can start with a character. -/
def startsTag (c : Char) : Bool := c.isLower || c == '#' || c == '/' || c == '@'

/-- The inside of a tag whose bracket was opened, and the rest of the message. -/
def takeTag : Text → Option (Text × Text)
  | [] => none
  | c :: rest =>
    let inside := c :: rest.takeWhile fun d => d != '[' && d != ']'
    match rest.drop (inside.length - 1) with
    | ']' :: after => if startsTag c then some (inside, after) else none
    | _ => none

/-- The token of a tag. What follows an equals sign is not part of the name. -/
def tagToken (inside : Text) : Token :=
  match inside.takeWhile (· != '=') with
  | '/' :: name => .closing (Text.trim name)
  | name => .opening name

/-- A text in which a backslash before an opening bracket says nothing. -/
def unescape : Text → Text
  | [] => []
  | '\\' :: '[' :: rest => '[' :: unescape rest
  | c :: rest => c :: unescape rest

/-- The tokens of a message; `pending` is the text before it that belongs to no token yet, the last
character first, and `fuel` the length of the message. -/
def tokensFrom : (fuel : Nat) → (pending : Text) → Text → List Token
  | 0, pending, rest => [.text (pending.reverse ++ rest)]
  | _, pending, [] => [.text pending.reverse]
  | fuel + 1, pending, c :: rest =>
    let slashes := (c :: rest).takeWhile (· = '\\')
    match (c :: rest).drop slashes.length with
    | '[' :: after =>
      match takeTag after with
      | none => tokensFrom fuel ('[' :: slashes ++ pending) after
      | some (inside, after) =>
        let before := [.text pending.reverse, .text (slashes.take (slashes.length / 2))]
        if slashes.length % 2 = 1 then
          before ++ .text ('[' :: inside ++ [']']) :: tokensFrom fuel [] after
        else before ++ tagToken inside :: tokensFrom fuel [] after
    | d :: after =>
      tokensFrom fuel (d :: slashes ++ pending) after
    | [] => [.text (pending.reverse ++ slashes)]

/-- The tokens of a message. -/
def tokens (message : Text) : List Token := tokensFrom message.length [] message

/-! ### Names of tags -/

/-- The attributes that tags can name, with their short names. -/
def attributes : List (String × String) :=
  [("b", "bold"), ("d", "dim"), ("i", "italic"), ("u", "underline"), ("r", "reverse"),
    ("c", "conceal"), ("s", "strike"), ("uu", "underline2"), ("o", "overline")]

/-- The name of a tag as it is compared: without case, outer blanks and short names. -/
def tagName (name : Text) : Text :=
  let plain := Unicode.lower (Text.trim name)
  match attributes.lookup (String.ofList plain) with
  | some long => long.toList
  | none => plain

/-- The open tags, the last one first, without the last one of the name. -/
def closeTag (name : Text) : List Text → Option (List Text)
  | [] => none
  | tag :: tags =>
    if name.isEmpty || tag == tagName name then some tags
    else (closeTag name tags).map (tag :: ·)

/-- The text of tokens under the given open tags; `none` if there is a closing tag that closes
none. -/
def plainText : List Text → List Token → Option Text
  | _, [] => some []
  | tags, .text text :: rest => (plainText tags rest).map (unescape text ++ ·)
  | tags, .opening name :: rest => plainText (tagName name :: tags) rest
  | tags, .closing name :: rest => (closeTag name tags).bind fun tags => plainText tags rest

/-- The text of a message without its tags. -/
def renderMarkup (message : Text) : Option Text := plainText [] (tokens message)

end SourceText.Console
