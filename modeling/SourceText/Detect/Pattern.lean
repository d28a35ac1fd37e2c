import SourceText.Text
import SourceText.Unicode.Digit
import SourceText.Unicode.Word

/-!
# Patterns

Patterns of characters that are looked for in a text. A pattern is read as a function on sets of
places: from the places at which a match may begin to the places at which it may end. A set of
places of a text is a list with one truth value for each of its characters and one for its end, so
a search takes time in proportion to the length of the text for every part of the pattern.
-/

namespace SourceText.Detect

/-- A pattern. -/
inductive Pattern where
  /-- Nothing at all. -/
  | empty
  /-- One character that is accepted. -/
  | char (accepts : Char → Bool)
  /-- A place, by the characters before and after it. -/
  | place (accepts : Option Char → Option Char → Bool)
  /-- Two patterns one after the other. -/
  | both (first second : Pattern)
  /-- One of two patterns. -/
  | either (first second : Pattern)
  /-- A pattern any number of times. -/
  | many (repeated : Pattern)

namespace Pattern

/-- A set of places of a text. -/
abbrev Places : Type := List Bool

/-- The places right after an accepted character; `here` is whether a match may begin at the first
place, `places` tells it of the others. -/
def afterChar (accepts : Char → Bool) : Bool → Text → Places → Places
  | here, c :: rest, next :: places => (here && accepts c) :: afterChar accepts next rest places
  | _, _, _ => []

/-- The places among `places` that are accepted; `before` is the character before the first. -/
def filterPlaces (accepts : Option Char → Option Char → Bool) (before : Option Char) :
    Text → Places → Places
  | c :: rest, here :: places =>
    (here && accepts before (some c)) :: filterPlaces accepts (some c) rest places
  | [], here :: _ => [here && accepts before none]
  | _, [] => []

/-- The places reached by any number of accepted characters; `reached` is whether the place before
has been and its character is accepted. -/
def afterChars (accepts : Char → Bool) (reached : Bool) : Text → Places → Places
  | c :: rest, here :: places =>
    let now := here || reached
    now :: afterChars accepts (now && accepts c) rest places
  | [], here :: _ => [here || reached]
  | _, [] => []

/-- The union of two sets. -/
def union (a b : Places) : Places := List.zipWith (· || ·) a b

/-- The places reached by repeating a step, which is done until nothing is added or `fuel` runs
out. -/
def closure (step : Places → Places) : Nat → Places → Places
  | 0, places => places
  | fuel + 1, places =>
    let more := union places (step places)
    if more = places then places else closure step fuel more

/-- The places at which a match that begins at one of `places` may end. -/
def reach (text : Text) : Pattern → Places → Places
  | empty, places => places
  | char accepts, places =>
    match places with
    | [] => []
    | here :: rest => false :: afterChar accepts here text rest
  | place accepts, places => filterPlaces accepts none text places
  | both first second, places => reach text second (reach text first places)
  | either first second, places => union (reach text first places) (reach text second places)
  | many (char accepts), places => afterChars accepts false text places
  | many repeated, places => closure (reach text repeated) (text.length + 1) places

/-- Whether the pattern matches somewhere in the text. -/
def found (pattern : Pattern) (text : Text) : Bool :=
  (pattern.reach text (List.replicate (text.length + 1) true)).any id

/-! ### Building patterns -/

/-- Patterns one after the other. -/
def seq : List Pattern → Pattern
  | [] => empty
  | [p] => p
  | p :: ps => both p (seq ps)

/-- The word itself. -/
def lit (word : String) : Pattern := seq (word.toList.map fun c => char (· == c))

/-- Whether two characters are the same letter, up to case. The long s, the Kelvin sign and the two
further forms of the letter i count as the letters of ASCII that they come from. -/
def sameLetter (letter c : Char) : Bool :=
  letter.toLower == c.toLower ||
    match letter.toLower with
    | 'i' => c == 'ı' || c == 'İ'
    | 's' => c == 'ſ'
    | 'k' => c == '\u212a'
    | _ => false

/-- The word in any case. -/
def caseless (word : String) : Pattern := seq (word.toList.map fun c => char (sameLetter c))

/-- One of some patterns, of which there is at least one. -/
def anyOf : List Pattern → Pattern
  | [] => char fun _ => false
  | [p] => p
  | p :: ps => either p (anyOf ps)

/-- One of some words. -/
def oneWordOf (words : List String) : Pattern := anyOf (words.map lit)

/-- The pattern or nothing. -/
def maybe (p : Pattern) : Pattern := either p empty

/-- The pattern at least once. -/
def some1 (p : Pattern) : Pattern := both p (many p)

/-- A character of the given ones. -/
def oneOf (these : String) : Pattern := char these.toList.contains

/-- A character other than the given ones. -/
def noneOf (these : String) : Pattern := char fun c => !these.toList.contains c

/-- Any character. -/
def anyChar : Pattern := char fun _ => true

/-- Any character but a line feed. -/
def anyInLine : Pattern := char (· != '\n')

/-- A blank. -/
def blank : Pattern := char isBlank

/-- Any number of blanks. -/
def blanks : Pattern := many blank

/-- At least one blank. -/
def gap : Pattern := some1 blank

/-- A word character. -/
def letter : Pattern := char Unicode.isWord

/-- A word character or one of the given ones. -/
def letterOr (these : String) : Pattern :=
  char fun c => Unicode.isWord c || these.toList.contains c

/-- Any number of word characters. -/
def letters : Pattern := many letter

/-- At least one word character. -/
def name : Pattern := some1 letter

/-- A decimal digit. -/
def digit : Pattern := char Unicode.isDigit

/-- A capital letter of ASCII. -/
def capital : Pattern := char Char.isUpper

/-- A capital letter of ASCII or the low line. -/
def capitalOrLine : Pattern := char fun c => c.isUpper || c == '_'

/-- A letter of ASCII or the low line. -/
def latinOrLine : Pattern := char fun c => c.isAlpha || c == '_'

/-- The start of a line. -/
def lineStart : Pattern := place fun before _ => before.all (· == '\n')

/-- The end of a line. -/
def lineEnd : Pattern := place fun _ after => after.all (· == '\n')

/-- The start of the text. -/
def textStart : Pattern := place fun before _ => before.isNone

/-- A place between a word character and anything else. -/
def wordEdge : Pattern :=
  place fun before after => before.any Unicode.isWord != after.any Unicode.isWord

end Pattern

end SourceText.Detect
