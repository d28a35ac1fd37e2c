import SourceText.Proofs.Json.Number
import SourceText.Proofs.Text.Hexadecimal
import SourceText.Proofs.Text.Raw
import SourceText.Yaml.Library

/-!
# Documents without carriage returns

A text file is read with line ends of all kinds made one, which changes nothing but carriage
returns. No document has any: neither the JSON text of a value (`Json.return_not_mem_write`) nor its
YAML text (`Yaml.return_not_mem_write`), whatever stands in the value.
-/

namespace SourceText

theorem Text.unifyLineEnds_of_return_not_mem {t : Text} (h : '\r' ∉ t) : t.unifyLineEnds = t := by
  induction t with
  | nil => rfl
  | cons c rest ih =>
    rw [List.mem_cons, not_or] at h
    rw [unifyLineEnds.eq_def]
    split
    · next heq => exact absurd heq nofun
    · next heq => exact absurd (List.cons.inj heq).1.symm h.1
    · next heq =>
      obtain ⟨rfl, rfl⟩ := List.cons.inj heq
      rw [if_neg (Ne.symm h.1), ih h.2]

theorem Text.return_not_mem_hexDigits (width n : Nat) : '\r' ∉ Text.hexDigits width n := by
  intro hmem
  obtain ⟨d, hd, heq⟩ := Text.exists_of_mem_hexDigits hmem
  have hall : ∀ d < 16, '\r' ≠ Nat.digitChar d := by decide
  exact hall d hd heq

theorem Text.return_not_mem_upperHexDigits (width n : Nat) :
    '\r' ∉ Text.upperHexDigits width n := by
  intro hmem
  obtain ⟨c, hc, hupper⟩ := List.mem_map.mp hmem
  obtain ⟨d, hd, rfl⟩ := Text.exists_of_mem_hexDigits hc
  have hall : ∀ d < 16, (Nat.digitChar d).toUpper ≠ '\r' := by decide
  exact hall d hd hupper

/-! ### Numbers and times -/

theorem return_not_mem_of_digits {ds : Text} (h : Json.Digits ds) : '\r' ∉ ds :=
  fun hmem => absurd (h _ hmem) (by decide)

theorem return_not_mem_repr (n : Nat) : '\r' ∉ (Nat.repr n).toList := by
  rw [Nat.repr_eq_ofList_toDigits, String.toList_ofList]
  exact return_not_mem_of_digits (Json.digits_toDigits n)

theorem return_not_mem_integerText (n : Int) : '\r' ∉ (integerText n).toList := by
  have hrepr := return_not_mem_repr n.natAbs
  unfold integerText
  split
  · simpa using hrepr
  · exact hrepr

namespace Binary64

theorem return_not_mem_signText (negative : Bool) : '\r' ∉ (signText negative).toList := by
  cases negative <;> decide

theorem return_not_mem_positional {digits : Text} (h : '\r' ∉ digits) (point : Int) :
    '\r' ∉ (positional digits point).toList := by
  have htake : '\r' ∉ digits.take point.toNat := fun hmem => h (List.mem_of_mem_take hmem)
  have hdrop : '\r' ∉ digits.drop point.toNat := fun hmem => h (List.mem_of_mem_drop hmem)
  unfold positional
  split
  · simp [h]
  · split
    · simp [h]
    · simp [htake, hdrop]

theorem return_not_mem_scientific {digits : Text} (h : '\r' ∉ digits) (exponent : Int) :
    '\r' ∉ (scientific digits exponent).toList := by
  have htake : '\r' ∉ digits.take 1 := fun hmem => h (List.mem_of_mem_take hmem)
  have hdrop : '\r' ∉ digits.drop 1 := fun hmem => h (List.mem_of_mem_drop hmem)
  have hpoint : '\r' ∉ (if (String.ofList (digits.drop 1)).isEmpty then ""
      else "." ++ String.ofList (digits.drop 1)).toList := by
    split
    · decide
    · simpa using hdrop
  have hpower : '\r' ∉ (exponentText exponent).toList := by
    rw [Json.exponentText_toList, List.mem_cons, not_or]
    refine ⟨?_, return_not_mem_of_digits (Json.digits_exponentDigits exponent)⟩
    cases decide (exponent < 0) <;> decide
  simp only [scientific, String.toList_append, List.mem_append, String.toList_ofList, not_or]
  exact ⟨⟨⟨htake, hpoint⟩, by decide⟩, hpower⟩

theorem return_not_mem_text {style : NumberStyle} (hinfinity : '\r' ∉ style.infinity.toList)
    (hminus : '\r' ∉ style.minusInfinity.toList) (hnan : '\r' ∉ style.notNumber.toList)
    (x : Binary64) : '\r' ∉ (x.text style).toList := by
  cases x with
  | nan => exact hnan
  | infinite negative =>
    cases negative with
    | true => exact hminus
    | false => exact hinfinity
  | finite negative mantissa exponent =>
    have hdigits := return_not_mem_repr (shortestDigits mantissa exponent).digits
    simp only [text, String.toList_append, List.mem_append, not_or]
    refine ⟨return_not_mem_signText negative, ?_⟩
    split
    · exact return_not_mem_positional hdigits _
    · exact return_not_mem_scientific hdigits _

end Binary64

theorem Timestamp.return_not_mem_padded (width n : Nat) : '\r' ∉ (padded width n).toList := by
  have hrepr := return_not_mem_repr n
  simpa [padded] using hrepr

theorem Timestamp.return_not_mem_isoText (t : Timestamp) : '\r' ∉ (t.isoText " ").toList := by
  have hoffset : ∀ minutes, '\r' ∉ (offsetText minutes).toList := by
    intro minutes
    unfold offsetText
    split <;> simp [return_not_mem_padded]
  have htime : ∀ c, '\r' ∉ (timeText c).toList := by
    intro c
    unfold timeText
    cases c.offset with
    | none => split <;> simp [return_not_mem_padded]
    | some minutes => split <;> simp [return_not_mem_padded, hoffset]
  unfold isoText dateText
  cases t.time with
  | none => simp [return_not_mem_padded]
  | some c => simp [return_not_mem_padded, htime]

/-! ### JSON -/

namespace Json

theorem return_not_mem_unitEscape (unit : Nat) : '\r' ∉ unitEscape unit := by
  simp [unitEscape, Text.return_not_mem_hexDigits]

theorem return_not_mem_charText (asciiOnly : Bool) (c : Char) : '\r' ∉ charText asciiOnly c := by
  rw [charText.eq_def]
  split
  · decide
  · decide
  · decide
  · decide
  · decide
  · decide
  · decide
  · next hreturn _ _ _ =>
    dsimp only
    split_ifs
    · exact return_not_mem_unitEscape _
    · exact return_not_mem_unitEscape _
    · simp [return_not_mem_unitEscape]
    · exact fun hmem => hreturn (List.mem_singleton.mp hmem).symm

/-- A property that all code points have but carriage returns, and halves of pairs where they are
escaped. -/
structure Usual (style : Style) (P : Point → Prop) : Prop where
  char : ∀ c, c ≠ '\r' → P (.char c)
  half : style.asciiOnly = false → ∀ offset, P (.half offset)

section Written

variable {style : Style} {P : Point → Prop} (h : Usual style P)

include h

theorem forall_mem_raw {text : Text} (hreturn : '\r' ∉ text) : ∀ point ∈ text.raw, P point := by
  intro point hpoint
  obtain ⟨c, hc, rfl⟩ := List.mem_map.mp hpoint
  exact h.char c fun heq => hreturn (heq ▸ hc)

theorem forall_mem_pointText (point : Point) : ∀ p ∈ pointText style.asciiOnly point, P p := by
  cases point with
  | char c => exact forall_mem_raw h (return_not_mem_charText _ c)
  | half offset =>
    unfold pointText
    dsimp only
    split
    · exact forall_mem_raw h (return_not_mem_unitEscape _)
    · next hwide => exact List.forall_mem_singleton.mpr (h.half (Bool.eq_false_of_not_eq_true hwide) _)

theorem forall_mem_stringText (s : RawText) : ∀ p ∈ stringText style.asciiOnly s, P p := by
  have hquote : P (.char '"') := h.char _ (by decide)
  simp only [stringText, List.cons_append, List.forall_mem_cons, List.forall_mem_append,
    List.mem_flatMap]
  exact ⟨hquote, fun p ⟨point, _, hp⟩ => forall_mem_pointText h point p hp, hquote,
    List.forall_mem_nil _⟩

theorem forall_mem_lineStart (level : Nat) : ∀ p ∈ lineStart style level, P p := by
  unfold lineStart
  split
  · exact List.forall_mem_nil _
  · refine List.forall_mem_cons.mpr ⟨h.char _ (by decide), fun p hp => ?_⟩
    rw [List.eq_of_mem_replicate hp]
    exact h.char _ (by decide)

theorem forall_mem_colon : ∀ p ∈ colon style, P p := by
  unfold colon
  split
  · exact forall_mem_raw h (show '\r' ∉ [':', ' '] by decide)
  · exact forall_mem_raw h (show '\r' ∉ [':'] by decide)

mutual

theorem forall_mem_writeAt : ∀ (level : Nat) (value : Json), ∀ p ∈ writeAt style level value, P p
  | _, .null => by
    rw [writeAt]
    exact forall_mem_raw h (by decide)
  | _, .bool b => by
    rw [writeAt]
    exact forall_mem_raw h (by cases b <;> decide)
  | _, .integer n => by
    rw [writeAt]
    exact forall_mem_raw h (return_not_mem_integerText n)
  | _, .number x => by
    rw [writeAt]
    exact forall_mem_raw h
      (Binary64.return_not_mem_text (by decide) (by decide) (by decide) x)
  | _, .string s => by
    rw [writeAt]
    exact forall_mem_stringText h s
  | _, .array [] => by
    rw [writeAt]
    exact forall_mem_raw h (show '\r' ∉ ['[', ']'] by decide)
  | level, .array (element :: elements) => by
    have hopen : P (.char '[') := h.char _ (by decide)
    have hclose : P (.char ']') := h.char _ (by decide)
    simp only [writeAt, List.cons_append, List.append_assoc, List.forall_mem_cons,
      List.forall_mem_append]
    exact ⟨hopen, forall_mem_lineStart h _, forall_mem_writeAt (level + 1) element,
      forall_mem_writeElements (level + 1) elements, forall_mem_lineStart h _, hclose,
      List.forall_mem_nil _⟩
  | _, .object [] => by
    rw [writeAt]
    exact forall_mem_raw h (show '\r' ∉ ['{', '}'] by decide)
  | level, .object ((name, value) :: members) => by
    have hopen : P (.char '{') := h.char _ (by decide)
    have hclose : P (.char '}') := h.char _ (by decide)
    simp only [writeAt, List.cons_append, List.append_assoc, List.forall_mem_cons,
      List.forall_mem_append]
    exact ⟨hopen, forall_mem_lineStart h _, forall_mem_stringText h name,
      forall_mem_colon h, forall_mem_writeAt (level + 1) value,
      forall_mem_writeMembers (level + 1) members, forall_mem_lineStart h _, hclose,
      List.forall_mem_nil _⟩

theorem forall_mem_writeElements :
    ∀ (level : Nat) (elements : List Json), ∀ p ∈ writeElements style level elements, P p
  | _, [] => by
    rw [writeElements]
    exact List.forall_mem_nil _
  | level, element :: elements => by
    simp only [writeElements, List.cons_append, List.append_assoc, List.forall_mem_cons,
      List.forall_mem_append]
    exact ⟨h.char _ (by decide), forall_mem_lineStart h _, forall_mem_writeAt level element,
      forall_mem_writeElements level elements⟩

theorem forall_mem_writeMembers : ∀ (level : Nat) (members : List (RawText × Json)),
    ∀ p ∈ writeMembers style level members, P p
  | _, [] => by
    rw [writeMembers]
    exact List.forall_mem_nil _
  | level, (name, value) :: members => by
    simp only [writeMembers, List.cons_append, List.append_assoc, List.forall_mem_cons,
      List.forall_mem_append]
    exact ⟨h.char _ (by decide), forall_mem_lineStart h _,
      forall_mem_stringText h name, forall_mem_colon h,
      forall_mem_writeAt level value, forall_mem_writeMembers level members⟩

end

end Written

theorem return_not_mem_write (style : Style) (value : Json) : .char '\r' ∉ write style value := by
  have hall : ∀ p ∈ write style value, p ≠ .char '\r' :=
    forall_mem_writeAt ⟨fun c hc heq => hc (Point.char.inj heq), fun _ _ => nofun⟩ 0 value
  exact fun hmem => hall _ hmem rfl

/-- Where all but ASCII is escaped, a document is a text of characters. -/
theorem raw_chars_write {style : Style} (hascii : style.asciiOnly = true) (value : Json) :
    (write style value).chars.raw = write style value := by
  have hall : ∀ p ∈ write style value, p.isChar = true :=
    forall_mem_writeAt ⟨fun _ _ => rfl, fun hwide => absurd (hascii.symm.trans hwide) nofun⟩ 0 value
  exact RawText.raw_chars (List.all_eq_true.mpr hall)

end Json

/-! ### YAML -/

namespace Yaml

/-- A page without carriage returns. -/
def Page.Clean (p : Page) : Prop := '\r' ∉ p.written

namespace Page

variable {p : Page} (hp : p.Clean)

include hp

theorem clean_put {piece : Text} (h : '\r' ∉ piece) : (p.put piece).Clean := by
  simpa [Clean, put] using ⟨h, hp⟩

theorem clean_indicator {piece : String} (h : '\r' ∉ piece.toList) (needsSpace keepsFresh : Bool) :
    (p.indicator piece needsSpace keepsFresh).Clean := by
  unfold indicator
  split
  · exact clean_put hp h
  · exact clean_put hp (by simpa using h)

theorem clean_endLine : p.endLine.Clean := by
  simpa [Clean, endLine] using hp

theorem clean_indentTo (column : Nat) : (p.indentTo column).Clean := by
  have hline : Clean (if !p.fresh || column < p.column || (p.column = column && !p.spaced)
      then p.endLine else p) := by
    split
    · exact clean_endLine hp
    · exact hp
  have hspaces : ∀ q : Page, q.Clean → Clean (if q.column < column
      then { q.put (List.replicate (column - q.column) ' ') with spaced := true } else q) := by
    intro q hq
    split
    · exact clean_put hq (by simp)
    · exact hq
  exact hspaces _ hline

theorem clean_inScalar : p.inScalar.Clean := hp

end Page

section Scalars

variable {indent : Nat} {folds : Bool} {text : Text} (ht : '\r' ∉ text) {p : Page} (hp : p.Clean)

theorem return_not_mem_takeWhile {text : Text} (h : '\r' ∉ text) (test : Char → Bool) :
    '\r' ∉ text.takeWhile test :=
  fun hmem => h ((List.takeWhile_sublist _).subset hmem)

theorem return_not_mem_drop {text : Text} (h : '\r' ∉ text) (count : Nat) :
    '\r' ∉ text.drop count :=
  fun hmem => h (List.mem_of_mem_drop hmem)

include hp in
theorem clean_putSpaces (indent : Nat) (inner : Bool) (count : Nat) :
    (putSpaces p indent inner count).Clean := by
  unfold putSpaces
  split
  · exact Page.clean_indentTo hp indent
  · exact Page.clean_put hp (by simp)

include ht hp

theorem clean_putPlain (fuel : Nat) : (putPlain indent folds fuel text p).Clean := by
  induction fuel generalizing text p with
  | zero => exact hp
  | succ fuel ih =>
    unfold putPlain
    split
    · exact hp
    · exact ih (return_not_mem_drop ht _) (Page.clean_inScalar (clean_putSpaces hp _ _ _))
    · exact ih (return_not_mem_drop ht _) (Page.clean_put hp (return_not_mem_takeWhile ht _))

theorem clean_writePlain : (writePlain indent folds text p).Clean := by
  have hspaced : Page.Clean (if p.spaced || text.isEmpty then p else p.put [' ']) := by
    split
    · exact hp
    · exact Page.clean_put hp (by decide)
  unfold writePlain
  dsimp only
  split
  · exact hspaced
  · exact clean_putPlain ht (Page.clean_inScalar hspaced) _

omit ht in
theorem clean_putBreaks (count : Nat) : (putBreaks count p).Clean := by
  induction count generalizing p with
  | zero => exact hp
  | succ count ih => exact ih (Page.clean_endLine hp)

theorem clean_putSingle (fuel : Nat) (first : Bool) :
    (putSingle indent folds fuel first text p).Clean := by
  induction fuel generalizing text p first with
  | zero => exact hp
  | succ fuel ih =>
    unfold putSingle
    split
    · exact hp
    · exact ih (fun hmem => ht (List.mem_cons_of_mem _ hmem)) (Page.clean_put hp (by decide)) _
    · exact ih (return_not_mem_drop ht _) (clean_putSpaces hp _ _ _) _
    · exact ih (return_not_mem_drop ht _) (Page.clean_indentTo (clean_putBreaks hp _) _) _
    · exact ih (return_not_mem_drop ht _) (Page.clean_put hp (return_not_mem_takeWhile ht _)) _

theorem clean_writeSingle : (writeSingle indent folds text p).Clean := by
  have hopen := Page.clean_indicator hp (show '\r' ∉ "'".toList by decide) true false
  exact Page.clean_indicator (clean_putSingle ht hopen _ _) (by decide) _ _

omit ht hp

theorem return_not_mem_escapedChar (c : Char) : '\r' ∉ escapedChar c := by
  rw [escapedChar.eq_def]
  split <;> try decide
  split_ifs <;> simp [Text.return_not_mem_upperHexDigits]

theorem return_not_mem_escaped (point : Point) : '\r' ∉ escaped point := by
  cases point with
  | char c => exact return_not_mem_escapedChar c
  | half offset => simp [escaped, Text.return_not_mem_upperHexDigits]

theorem ne_return_of_isUnescaped {point : Point} (h : isUnescaped point = true) :
    '\r' ≠ point.shown := by
  cases point with
  | char c =>
    rintro rfl
    exact absurd h (by decide)
  | half offset => exact absurd h Bool.false_ne_true

include hp

theorem clean_breakDouble {pending : Text} (hpending : '\r' ∉ pending) (following : Point) :
    Page.Clean
      (if following = .char ' ' then
        ((((p.put pending.reverse).put ['\\']).indentTo indent).inScalar).put ['\\']
      else (((p.put pending.reverse).put ['\\']).indentTo indent).inScalar) := by
  have hput := Page.clean_put hp (show '\r' ∉ pending.reverse by simpa using hpending)
  have hbroken := Page.clean_inScalar
    (Page.clean_indentTo (Page.clean_put hput (show '\r' ∉ ['\\'] by decide)) indent)
  split
  · exact Page.clean_put hbroken (by decide)
  · exact hbroken

/-- Whatever the text is: what cannot stand for itself is escaped. -/
theorem clean_putDouble (text : RawText) {pending : Text} (hpending : '\r' ∉ pending)
    (first : Bool) : (putDouble indent folds first pending text p).Clean := by
  induction text generalizing p pending first with
  | nil => exact Page.clean_put hp (by simpa using hpending)
  | cons point rest ih =>
    cases hplain : isUnescaped point with
    | true =>
      have hc := ne_return_of_isUnescaped hplain
      simp only [putDouble, hplain, if_true]
      split
      · exact ih (clean_breakDouble hp hpending point) (by simpa using hc) _
      · exact ih hp (by simp [hc, hpending]) _
    | false =>
      have hescaped := Page.clean_put
        (Page.clean_put hp (show '\r' ∉ pending.reverse by simpa using hpending))
        (return_not_mem_escaped point)
      simp only [putDouble, hplain, Bool.false_eq_true, if_false]
      split
      · exact ih (clean_breakDouble hescaped List.not_mem_nil _) List.not_mem_nil _
      · exact ih hescaped List.not_mem_nil _

theorem clean_writeDouble (text : RawText) : (writeDouble indent folds text p).Clean := by
  have hopen := Page.clean_indicator hp (show '\r' ∉ "\"".toList by decide) true false
  exact Page.clean_indicator (clean_putDouble hopen text List.not_mem_nil _) (by decide) _ _

omit hp

theorem return_not_mem_of_ordinary {text : Text} (h : text.all isOrdinary = true) :
    '\r' ∉ text :=
  fun hmem => absurd (List.all_eq_true.mp h _ hmem) (by decide)

theorem return_not_mem_of_allowsPlain {text : Text} (h : allowsPlain text = true) :
    '\r' ∉ text := by
  cases text with
  | nil => exact List.not_mem_nil
  | cons c rest =>
    simp only [allowsPlain, Bool.and_eq_true] at h
    intro hmem
    have hordinary := List.all_eq_true.mp h.1.1.1.1.2 _ hmem
    exact absurd hordinary (by decide)

include hp

theorem clean_writeText (text : Text) : (writeText indent folds text p).Clean := by
  unfold writeText styleOf
  split
  · next hstyle =>
    split at hstyle
    · next hplain =>
      exact clean_writePlain
        (return_not_mem_of_allowsPlain (Bool.and_eq_true_iff.mp hplain).1) hp
    · split at hstyle <;> exact nomatch hstyle
  · next hstyle =>
    split at hstyle
    · exact nomatch hstyle
    · split at hstyle
      · next hordinary =>
        exact clean_writeSingle
          (return_not_mem_of_ordinary (Bool.and_eq_true_iff.mp hordinary).1) hp
      · exact nomatch hstyle
  · exact clean_writeDouble hp text.raw

end Scalars

/-! ### YAML values -/

theorem return_not_mem_encodeBase64 (bytes : List UInt8) : '\r' ∉ encodeBase64 bytes := by
  have hsextet : ∀ n, '\r' ≠ sextetChar n := by
    intro n heq
    unfold sextetChar at heq
    split at heq
    · next hn =>
      have hall : ∀ n < 26, '\r' ≠ Char.ofNat (n + 65) := by decide
      exact hall n hn heq
    · split at heq
      · next hn =>
        have hall : ∀ n < 52, '\r' ≠ Char.ofNat (n + 71) := by decide
        exact hall n hn heq
      · split at heq
        · next hletter hn =>
          have hall : ∀ n < 62, ¬ n < 52 → '\r' ≠ Char.ofNat (n - 4) := by decide
          exact hall n hn hletter heq
        · split at heq <;> exact absurd heq (by decide)
  induction bytes using encodeBase64.induct with
  | case1 a b c rest ih => simp [encodeBase64, hsextet, ih]
  | case2 a b => simp [encodeBase64, hsextet]
  | case3 a => simp [encodeBase64, hsextet]
  | case4 => exact List.not_mem_nil

theorem return_not_mem_numberText (x : Binary64) : '\r' ∉ numberText x := by
  have htext : '\r' ∉ (x.text numberStyle).toList :=
    Binary64.return_not_mem_text (by decide) (by decide) (by decide) x
  unfold numberText
  dsimp only
  split
  · exact htext
  · intro hmem
    obtain ⟨c, hc, hpiece⟩ := List.mem_flatMap.mp hmem
    split at hpiece
    · exact absurd hpiece (by decide)
    · exact htext (List.mem_singleton.mp hpiece ▸ hc)

theorem return_not_mem_wordOf (value : Value) : '\r' ∉ wordOf value := by
  cases value with
  | null => decide
  | bool b => cases b <;> decide
  | integer n => exact return_not_mem_integerText n
  | number x => exact return_not_mem_numberText x
  | timestamp t => exact Timestamp.return_not_mem_isoText t
  | _ => exact List.not_mem_nil

section Values

variable {p : Page} (hp : p.Clean)

include hp

theorem clean_putDataLines (indent fuel : Nat) {text : Text} (ht : '\r' ∉ text) :
    (putDataLines indent fuel text p).Clean := by
  induction fuel generalizing text p with
  | zero => exact hp
  | succ fuel ih =>
    unfold putDataLines
    split
    · exact hp
    · have htake : '\r' ∉ text.take 76 := fun hmem => ht (List.mem_of_mem_take hmem)
      exact ih (Page.clean_inScalar (Page.clean_put (Page.clean_indentTo hp indent) htake))
        (return_not_mem_drop ht 76)

theorem clean_writeBytes (indent : Nat) (bytes : List UInt8) :
    (writeBytes indent bytes p).Clean := by
  have htag := Page.clean_indicator hp (show '\r' ∉ "!!binary".toList by decide) true false
  unfold writeBytes
  dsimp only
  split
  · exact Page.clean_indicator (Page.clean_indicator htag (by decide) _ _) (by decide) _ _
  · have hbar := Page.clean_indicator htag (show '\r' ∉ "|".toList by decide) true false
    exact Page.clean_endLine (clean_putDataLines (Page.clean_endLine hbar) indent _
      (return_not_mem_encodeBase64 bytes))

theorem clean_writeScalar (indent : Nat) (folds : Bool) (value : Value) :
    (writeScalar indent folds value p).Clean := by
  unfold writeScalar
  split
  · exact clean_writeText hp _
  · exact clean_writeDouble hp _
  · exact clean_writeBytes hp _ _
  · exact clean_writePlain (return_not_mem_wordOf value) hp

end Values

mutual

theorem clean_writeValue : ∀ (outer : Option Nat) (inMapping : Bool) (value : Value) {p : Page},
    p.Clean → (writeValue outer inMapping value p).Clean
  | _, _, .mapping [], _, hp => by
    rw [writeValue]
    exact Page.clean_indicator (Page.clean_indicator hp (by decide) _ _) (by decide) _ _
  | _, _, .mapping (entry :: entries), _, hp => by
    rw [writeValue]
    exact clean_writeEntries _ (entry :: entries) hp
  | _, _, .set [], _, hp => by
    rw [writeValue]
    exact Page.clean_indicator (Page.clean_indicator (Page.clean_indicator hp (by decide) _ _)
      (by decide) _ _) (by decide) _ _
  | _, _, .set (member :: members), _, hp => by
    rw [writeValue]
    · exact clean_writeMembers _ (member :: members) (Page.clean_indicator hp (by decide) _ _)
    · exact nofun
  | _, _, .list [], _, hp => by
    rw [writeValue]
    exact Page.clean_indicator (Page.clean_indicator hp (by decide) _ _) (by decide) _ _
  | _, _, .list (item :: items), _, hp => by
    rw [writeValue]
    exact clean_writeItems _ (item :: items) hp
  | outer, _, .pair first second, _, hp => by
    rw [writeValue]
    have hdash : '\r' ∉ "-".toList := by decide
    have hfirst := clean_writeValue (some (innerColumn outer)) false first
      (Page.clean_indicator (Page.clean_indentTo hp (innerColumn outer)) hdash true true)
    exact clean_writeValue _ _ second
      (Page.clean_indicator (Page.clean_indentTo hfirst _) hdash true true)
  | _, _, .null, _, hp => by
    simpa only [writeValue] using clean_writeScalar hp _ _ _
  | _, _, .bool b, _, hp => by
    simpa only [writeValue] using clean_writeScalar hp _ _ _
  | _, _, .integer n, _, hp => by
    simpa only [writeValue] using clean_writeScalar hp _ _ _
  | _, _, .number x, _, hp => by
    simpa only [writeValue] using clean_writeScalar hp _ _ _
  | _, _, .string s, _, hp => by
    simpa only [writeValue] using clean_writeScalar hp _ _ _
  | _, _, .halved s, _, hp => by
    simpa only [writeValue] using clean_writeScalar hp _ _ _
  | _, _, .timestamp t, _, hp => by
    simpa only [writeValue] using clean_writeScalar hp _ _ _
  | _, _, .bytes bs, _, hp => by
    simpa only [writeValue] using clean_writeScalar hp _ _ _

theorem clean_writeItems : ∀ (column : Nat) (items : List Value) {p : Page},
    p.Clean → (writeItems column items p).Clean
  | _, [], _, hp => hp
  | column, item :: items, _, hp => by
    rw [writeItems]
    exact clean_writeItems column items (clean_writeValue _ _ item
      (Page.clean_indicator (Page.clean_indentTo hp column) (by decide) _ _))

theorem clean_writeEntries : ∀ (column : Nat) (entries : List (Value × Value)) {p : Page},
    p.Clean → (writeEntries column entries p).Clean
  | _, [], _, hp => hp
  | column, (key, value) :: entries, _, hp => by
    have hstart := Page.clean_indentTo hp column
    rw [writeEntries]
    refine clean_writeEntries column entries (clean_writeValue _ _ value ?_)
    split
    · exact Page.clean_indicator (clean_writeScalar hstart _ _ key) (by decide) _ _
    · have hkey := clean_writeScalar (Page.clean_indicator hstart
        (show '\r' ∉ "?".toList by decide) true true) (column + 2) true key
      exact Page.clean_indicator (Page.clean_indentTo hkey column) (by decide) _ _

theorem clean_writeMembers : ∀ (column : Nat) (members : List Value) {p : Page},
    p.Clean → (writeMembers column members p).Clean
  | _, [], _, hp => hp
  | column, member :: members, _, hp => by
    have hkey := Page.clean_indicator
      (clean_writeScalar (Page.clean_indentTo hp column) (column + 2) false member)
      (show '\r' ∉ ":".toList by decide) false false
    rw [writeMembers]
    exact clean_writeMembers column members (clean_writePlain (by decide) hkey)

end

theorem return_not_mem_write (value : Value) : '\r' ∉ write value := by
  have hempty : Page.Clean {} := List.not_mem_nil
  have hclean := Page.clean_indentTo (clean_writeValue none false value hempty) 0
  exact fun hmem => hclean (List.mem_reverse.mp hmem)

/-- What is asked of a library that documents are saved with: it reads a document back from a text
file with what it wrote for it. -/
def Library.Returns (library : Library) (document : Value) : Prop :=
  ∃ text, library.write document = .ok text ∧
    library.read (Text.unifyLineEnds text) = .ok document

/-- The standard library has only to read what it wrote, since a text file changes nothing there. -/
theorem returns_standard {document : Value} (hwritable : document.isWritable = true)
    (h : read (write document) = .ok document) : standard.Returns document := by
  refine ⟨write document, if_pos hwritable, ?_⟩
  rw [Text.unifyLineEnds_of_return_not_mem (return_not_mem_write document)]
  exact congrArg (Except.mapError Fault.asLoadFault) h

end Yaml

end SourceText
