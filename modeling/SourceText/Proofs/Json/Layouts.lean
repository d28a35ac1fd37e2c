import SourceText.Compact.Minifier
import SourceText.Format.Backend
import SourceText.Proofs.Json.Admitted
import SourceText.Proofs.Json.Quoted

/-!
# Layouts of JSON documents

A value that is read from a text is read again from every layout of it (`read_write`), so that
making a document compact and laying it out take each other back (`layouts_carry_value`).
-/

namespace SourceText.Json

/-! ### Where values start -/

/-- Whether a word or a number can start with a character. -/
def startsScalar (c : Char) : Bool := c.isDigit || ['n', 't', 'f', 'N', 'I', '-'].contains c

/-- Whether a value can start with a character. -/
def startsValue (c : Char) : Bool := startsScalar c || ['"', '{', '['].contains c

theorem ne_of_startsValue {c d : Char} (hc : startsValue c = true) (hd : startsValue d = false) :
    c ≠ d := by
  rintro rfl
  exact absurd hc (hd ▸ Bool.false_ne_true)

theorem exists_cons_of_readNumber {text rest : Text} {value : Json}
    (h : readNumber text = .ok (value, rest)) :
    ∃ c tail, text = c :: tail ∧ startsScalar c = true := by
  cases text with
  | nil => cases h
  | cons c tail =>
    refine ⟨c, tail, rfl, ?_⟩
    by_cases hminus : c = '-'
    · rw [hminus]
      rfl
    · rw [readNumber.eq_def] at h
      dsimp only at h
      split at h
      · cases h
      next whole afterWhole hne hwhole =>
      split at hwhole
      · next heq => exact absurd (List.cons.inj heq).1 hminus
      -- Without a digit in front there is no whole part.
      cases hdigit : c.isDigit with
      | true => rw [startsScalar, hdigit, Bool.true_or]
      | false =>
        have hzero : c ≠ '0' := by
          rintro rfl
          exact absurd hdigit (by decide)
        rw [wholePart.eq_def] at hwhole
        split at hwhole
        · next heq => exact absurd (List.cons.inj heq).1 hzero
        · have hempty : spanAsciiDigits (c :: tail) = ([], c :: tail) :=
            spanAsciiDigits_append (digits_zeros 0) (endsDigits_cons hdigit)
          rw [hempty] at hwhole
          exact absurd (Prod.mk.inj hwhole).1.symm hne

theorem exists_cons_of_readScalar {text rest : Text} {value : Json}
    (h : readScalar text = .ok (value, rest)) :
    ∃ c tail, text = c :: tail ∧ startsScalar c = true := by
  rw [readScalar] at h
  split at h
  · next word found hfind =>
    have hstart : ∀ w ∈ words, ∃ c tail, w.1.toList = c :: tail ∧ startsScalar c = true := by
      simp only [words, List.forall_mem_cons]
      exact ⟨⟨_, _, rfl, rfl⟩, ⟨_, _, rfl, rfl⟩, ⟨_, _, rfl, rfl⟩, ⟨_, _, rfl, rfl⟩,
        ⟨_, _, rfl, rfl⟩, ⟨_, _, rfl, rfl⟩, List.forall_mem_nil _⟩
    obtain ⟨c, tail, hword, hc⟩ := hstart _ (List.mem_of_find?_eq_some hfind)
    have hmatch : word.toList.isPrefixOf text = true := by simpa using List.find?_some hfind
    have hprefix := List.isPrefixOf_iff_prefix.mp hmatch
    rw [hword] at hprefix
    obtain ⟨more, rfl⟩ := hprefix
    exact ⟨c, tail ++ more, rfl, hc⟩
  · exact exists_cons_of_readNumber h

theorem readValue_eq_readPlain {c : Char} (hc : startsScalar c = true) (fuel : ℕ) (tail : RawText) :
    readValue (fuel + 1) (.char c :: tail) = readPlain (.char c :: tail) := by
  have hne : ∀ d, startsScalar d = false → Point.char c ≠ .char d := by
    intro d hd heq
    obtain rfl := Point.char.inj heq
    exact absurd hc (hd ▸ Bool.false_ne_true)
  rw [readValue.eq_def]
  dsimp only
  split
  · next heq => exact nomatch heq
  · next heq => exact absurd (List.cons.inj heq).1 (hne '"' rfl)
  · next heq => exact absurd (List.cons.inj heq).1 (hne '{' rfl)
  · next heq => exact absurd (List.cons.inj heq).1 (hne '[' rfl)
  · rfl

theorem exists_cons_of_readPlain {text rest : RawText} {value : Json}
    (h : readPlain text = .ok (value, rest)) :
    ∃ c tail, text = .char c :: tail ∧ startsScalar c = true := by
  rw [readPlain] at h
  split at h
  · next found after hread =>
    obtain ⟨c, chars, hchars, hc⟩ := exists_cons_of_readScalar hread
    obtain ⟨tail, htext⟩ := RawText.exists_cons_of_leading hchars
    exact ⟨c, tail, htext, hc⟩
  · cases h
  · cases h

theorem exists_cons_of_readValue {fuel : ℕ} {text rest : RawText} {value : Json}
    (h : readValue fuel text = .ok (value, rest)) :
    ∃ c tail, text = .char c :: tail ∧ startsValue c = true := by
  cases fuel with
  | zero => exact nomatch h
  | succ fuel =>
    rw [readValue.eq_def] at h
    dsimp only at h
    split at h
    · exact nomatch h
    · exact ⟨_, _, rfl, rfl⟩
    · exact ⟨_, _, rfl, rfl⟩
    · exact ⟨_, _, rfl, rfl⟩
    · obtain ⟨c, tail, rfl, hc⟩ := exists_cons_of_readPlain h
      exact ⟨c, tail, rfl, by rw [startsValue, hc, Bool.true_or]⟩

/-! ### Blanks -/

theorem skipSpace_append {blanks text : RawText} (h : ∀ point ∈ blanks, isSpace point = true) :
    skipSpace (blanks ++ text) = skipSpace text :=
  List.dropWhile_append_of_pos h

theorem skipSpace_cons {point : Point} (h : isSpace point = false) (tail : RawText) :
    skipSpace (point :: tail) = point :: tail := by
  rw [skipSpace, List.dropWhile_cons_of_neg (by rw [h]; exact Bool.false_ne_true)]

theorem isSpace_of_startsValue {c : Char} (hc : startsValue c = true) :
    isSpace (.char c) = false := by
  have hne : ∀ d, startsValue d = false → (Point.char c == .char d) = false := fun d hd =>
    beq_eq_false_iff_ne.mpr fun heq => ne_of_startsValue hc hd (Point.char.inj heq)
  simp only [isSpace, hne ' ' rfl, hne '\t' rfl, hne '\n' rfl, hne '\r' rfl, Bool.or_false]

theorem skipSpace_stringText (asciiOnly : Bool) (name text : RawText) :
    skipSpace (stringText asciiOnly name ++ text) = stringText asciiOnly name ++ text :=
  skipSpace_cons rfl _

theorem isSpace_of_mem_lineStart {style : Style} {level : ℕ} :
    ∀ point ∈ lineStart style level, isSpace point = true := by
  intro point hpoint
  unfold lineStart at hpoint
  split at hpoint
  · exact nomatch hpoint
  · rcases List.mem_cons.mp hpoint with rfl | hpoint
    · rfl
    · rw [List.eq_of_mem_replicate hpoint]
      rfl

/-! ### What follows a value -/

/-- The characters that can follow a value in a layout. -/
def followers : List Char := [',', ']', '}', '\n']

/-- Whether a text can follow a value in a layout. -/
def Ended (rest : RawText) : Prop :=
  ∀ point, rest.head? = some point → ∃ c ∈ followers, point = .char c

theorem ended_nil : Ended [] := fun _ h => (nomatch h)

theorem ended_cons {c : Char} (hc : c ∈ followers) (rest : RawText) : Ended (.char c :: rest) :=
  fun _ hpoint => ⟨c, hc, (Option.some.inj hpoint).symm⟩

theorem Ended.delimited {rest : RawText} (h : Ended rest) : Delimited rest.leading := by
  intro c hc
  obtain ⟨chars, hchars⟩ := List.head?_eq_some_iff.mp hc
  obtain ⟨tail, rfl⟩ := RawText.exists_cons_of_leading hchars
  obtain ⟨d, hd, heq⟩ := h _ rfl
  exact Point.char.inj heq ▸ hd

/-- A line starts with a break if it starts at all, so that it can follow a value. -/
theorem ended_lineStart (style : Style) (level : ℕ) {c : Char} (hc : c ∈ followers)
    (rest : RawText) : Ended (lineStart style level ++ .char c :: rest) := by
  unfold lineStart
  split
  · exact ended_cons hc rest
  · exact ended_cons (by decide) _

theorem ended_writeElements (style : Style) (level : ℕ) (elements : List Json) {rest : RawText}
    (hrest : Ended rest) : Ended (writeElements style level elements ++ rest) := by
  cases elements with
  | nil => exact hrest
  | cons element elements => exact ended_cons (by decide) _

theorem ended_writeMembers (style : Style) (level : ℕ) (members : List (RawText × Json))
    {rest : RawText} (hrest : Ended rest) :
    Ended (writeMembers style level members ++ rest) := by
  cases members with
  | nil => exact hrest
  | cons m members => exact ended_cons (by decide) _

/-! ### What is written is read back -/

/-- Whether a value is read back from its text, whatever may follow. -/
def ReadsBack (style : Style) (value : Json) : Prop :=
  ∀ level fuel rest, Ended rest → 2 * (writeAt style level value).length ≤ fuel →
    readValue fuel (writeAt style level value ++ rest) = .ok (value, rest)

section ReadsBack

variable {style : Style} {value : Json}

theorem readPlain_append {text : Text} {rest : RawText}
    (h : readScalar (text ++ rest.leading) = .ok (value, rest.leading)) :
    readPlain (text.raw ++ rest) = .ok (value, rest) := by
  rw [readPlain, RawText.leading_append, h]
  simp only [RawText.afterLeading_append, RawText.leading_append_afterLeading]

theorem readsBack_of_readScalar {text : Text} (htext : ∀ level, writeAt style level value = text.raw)
    (h : ∀ rest, Delimited rest → readScalar (text ++ rest) = .ok (value, rest)) :
    ReadsBack style value := by
  intro level fuel rest hrest hfuel
  have hplain : readPlain (text.raw ++ rest) = .ok (value, rest) :=
    readPlain_append (h _ hrest.delimited)
  obtain ⟨c, tail, heq, hc⟩ := exists_cons_of_readPlain hplain
  obtain ⟨d, more, hcons, -⟩ := exists_cons_of_readScalar (h [] fun _ hd => nomatch hd)
  rw [List.append_nil] at hcons
  have hlength : 0 < (writeAt style level value).length := by
    rw [htext, hcons]
    exact Nat.succ_pos _
  obtain ⟨fuel, rfl⟩ := Nat.exists_eq_add_one_of_ne_zero (show fuel ≠ 0 by omega)
  rw [htext, heq, readValue_eq_readPlain hc, ← heq]
  exact hplain

theorem ReadsBack.skipSpace_eq (h : ReadsBack style value) (level : ℕ) {rest : RawText}
    (hrest : Ended rest) :
    skipSpace (writeAt style level value ++ rest) = writeAt style level value ++ rest := by
  obtain ⟨c, tail, htext, hc⟩ := exists_cons_of_readValue (h level _ rest hrest le_rfl)
  rw [htext, skipSpace_cons (isSpace_of_startsValue hc)]

theorem skipSpace_lineStart_append (style : Style) (level : ℕ) {point : Point}
    (h : isSpace point = false) (rest : RawText) :
    skipSpace (lineStart style level ++ point :: rest) = point :: rest := by
  rw [skipSpace_append isSpace_of_mem_lineStart, skipSpace_cons h]

/-- Between a name and its value there is a colon, and nothing else but blanks. -/
theorem member_append (style : Style) (name text : RawText) :
    ∃ blanks, (∀ point ∈ blanks, isSpace point = true) ∧ stringText style.asciiOnly name
      ++ (colon style ++ text)
        = .char '"' :: (name.flatMap (pointText style.asciiOnly)
          ++ .char '"' :: .char ':' :: (blanks ++ text)) := by
  unfold colon stringText
  split
  · exact ⟨[.char ' '], fun point hpoint => by rw [List.mem_singleton.mp hpoint]; rfl, by simp⟩
  · exact ⟨[], fun point hpoint => (nomatch hpoint), by simp⟩

section Step

variable (h : ReadsBack style value) (level : ℕ) {fuel : ℕ} {rest tail : RawText}
  (hrest : Ended rest) (hfuel : 2 * (writeAt style level value).length ≤ fuel)

include h hrest hfuel

theorem readElements_last (hclose : skipSpace rest = .char ']' :: tail) :
    readElements (fuel + 1) (writeAt style level value ++ rest) = .ok ([value], tail) := by
  rw [readElements]
  simp only [h level fuel rest hrest hfuel, hclose]

theorem readElements_more (hcomma : skipSpace rest = .char ',' :: tail) :
    readElements (fuel + 1) (writeAt style level value ++ rest)
      = (readElements fuel (skipSpace tail)).map fun (es, tail) => (value :: es, tail) := by
  rw [readElements]
  simp only [h level fuel rest hrest hfuel, hcomma]

theorem readMembers_last {name : RawText}
    (hname : Legible style.asciiOnly name) (hclose : skipSpace rest = .char '}' :: tail) :
    readMembers (fuel + 1) (stringText style.asciiOnly name
      ++ (colon style ++ (writeAt style level value ++ rest))) = .ok ([(name, value)], tail) := by
  obtain ⟨blanks, hblanks, htext⟩ := member_append style name (writeAt style level value ++ rest)
  rw [htext, readMembers.eq_def]
  simp only [readString_written hname, skipSpace_cons (show isSpace (.char ':') = false from rfl),
    skipSpace_append hblanks, h.skipSpace_eq level hrest, h level fuel rest hrest hfuel, hclose]

theorem readMembers_more {name : RawText}
    (hname : Legible style.asciiOnly name) (hcomma : skipSpace rest = .char ',' :: tail) :
    readMembers (fuel + 1) (stringText style.asciiOnly name
      ++ (colon style ++ (writeAt style level value ++ rest)))
      = (readMembers fuel (skipSpace tail)).map fun (ms, tail) => ((name, value) :: ms, tail) := by
  obtain ⟨blanks, hblanks, htext⟩ := member_append style name (writeAt style level value ++ rest)
  rw [htext, readMembers.eq_def]
  simp only [readString_written hname, skipSpace_cons (show isSpace (.char ':') = false from rfl),
    skipSpace_append hblanks, h.skipSpace_eq level hrest, h level fuel rest hrest hfuel, hcomma]

end Step

theorem readElements_written {element : Json} {elements : List Json}
    (h : ∀ e ∈ element :: elements, ReadsBack style e) (level outer : ℕ) (rest : RawText) {fuel : ℕ}
    (hfuel : 2 * (writeAt style level element ++ writeElements style level elements).length + 1
      ≤ fuel) :
    readElements fuel (writeAt style level element ++ (writeElements style level elements
      ++ (lineStart style outer ++ .char ']' :: rest))) = .ok (element :: elements, rest) := by
  have hclose : Ended (lineStart style outer ++ .char ']' :: rest) :=
    ended_lineStart style outer (by decide) rest
  induction elements generalizing element fuel with
  | nil =>
    obtain ⟨fuel, rfl⟩ := Nat.exists_eq_add_one_of_ne_zero (show fuel ≠ 0 by omega)
    exact readElements_last (h element List.mem_cons_self) level hclose
      (by simpa [writeElements] using hfuel) (skipSpace_lineStart_append _ _ rfl rest)
  | cons next elements ih =>
    obtain ⟨fuel, rfl⟩ := Nat.exists_eq_add_one_of_ne_zero (show fuel ≠ 0 by omega)
    simp only [writeElements, List.length_append, List.length_cons] at hfuel
    have hrest : readElements fuel (writeAt style level next ++ _) = .ok (next :: elements, rest) :=
      ih (fun e he => h e (List.mem_cons_of_mem _ he)) (by rw [List.length_append]; omega)
    have hnext := (h next (List.mem_cons_of_mem _ List.mem_cons_self)).skipSpace_eq level
      (ended_writeElements style level elements hclose)
    have htext : writeElements style level (next :: elements)
          ++ (lineStart style outer ++ .char ']' :: rest)
        = .char ',' :: (lineStart style level ++ (writeAt style level next
          ++ (writeElements style level elements
            ++ (lineStart style outer ++ .char ']' :: rest)))) := by
      simp [writeElements]
    rw [readElements_more (h element List.mem_cons_self) level
      (ended_writeElements style level _ hclose) (by omega)
      (by rw [htext, skipSpace_cons rfl]), skipSpace_append isSpace_of_mem_lineStart, hnext, hrest]
    rfl

theorem readMembers_written {name : RawText} {value : Json} {members : List (RawText × Json)}
    (h : ∀ m ∈ (name, value) :: members, Legible style.asciiOnly m.1 ∧ ReadsBack style m.2)
    (level outer : ℕ) (rest : RawText) {fuel : ℕ}
    (hfuel : 2 * (writeAt style level value ++ writeMembers style level members).length + 1
      ≤ fuel) :
    readMembers fuel (stringText style.asciiOnly name ++ (colon style ++ (writeAt style level value
      ++ (writeMembers style level members ++ (lineStart style outer ++ .char '}' :: rest)))))
      = .ok ((name, value) :: members, rest) := by
  have hclose : Ended (lineStart style outer ++ .char '}' :: rest) :=
    ended_lineStart style outer (by decide) rest
  obtain ⟨hname, hvalue⟩ : Legible style.asciiOnly name ∧ ReadsBack style value :=
    h (name, value) List.mem_cons_self
  induction members generalizing name value fuel with
  | nil =>
    obtain ⟨fuel, rfl⟩ := Nat.exists_eq_add_one_of_ne_zero (show fuel ≠ 0 by omega)
    exact readMembers_last hvalue level hclose (by simpa [writeMembers] using hfuel) hname
      (skipSpace_lineStart_append _ _ rfl rest)
  | cons next members ih =>
    obtain ⟨name', value'⟩ := next
    obtain ⟨fuel, rfl⟩ := Nat.exists_eq_add_one_of_ne_zero (show fuel ≠ 0 by omega)
    simp only [writeMembers, List.length_append, List.length_cons] at hfuel
    have hrest : readMembers fuel (stringText style.asciiOnly name' ++ _)
        = .ok ((name', value') :: members, rest) :=
      ih (fun m hm => h m (List.mem_cons_of_mem _ hm)) (by rw [List.length_append]; omega)
        (h (name', value') (List.mem_cons_of_mem _ List.mem_cons_self)).1
        (h (name', value') (List.mem_cons_of_mem _ List.mem_cons_self)).2
    have htext : writeMembers style level ((name', value') :: members)
          ++ (lineStart style outer ++ .char '}' :: rest)
        = .char ',' :: (lineStart style level ++ (stringText style.asciiOnly name' ++ (colon style
          ++ (writeAt style level value' ++ (writeMembers style level members
            ++ (lineStart style outer ++ .char '}' :: rest)))))) := by
      simp [writeMembers]
    rw [readMembers_more hvalue level (ended_writeMembers style level _ hclose) (by omega)
      hname (by rw [htext, skipSpace_cons rfl]), skipSpace_append isSpace_of_mem_lineStart,
      skipSpace_stringText, hrest]
    rfl

theorem readsBack_array {elements : List Json} (h : ∀ e ∈ elements, ReadsBack style e) :
    ReadsBack style (.array elements) := by
  intro level fuel rest hrest hfuel
  cases elements with
  | nil =>
    rw [writeAt] at hfuel
    obtain ⟨fuel, rfl⟩ := Nat.exists_eq_add_one_of_ne_zero (show fuel ≠ 0 by simp at hfuel; omega)
    rfl
  | cons element elements =>
    simp only [writeAt, List.length_append, List.length_cons] at hfuel
    obtain ⟨fuel, rfl⟩ := Nat.exists_eq_add_one_of_ne_zero (show fuel ≠ 0 by omega)
    have htext : writeAt style level (.array (element :: elements)) ++ rest
        = .char '[' :: (lineStart style (level + 1) ++ (writeAt style (level + 1) element
          ++ (writeElements style (level + 1) elements
            ++ (lineStart style level ++ .char ']' :: rest)))) := by
      simp [writeAt]
    have hread : readElements fuel _ = .ok (element :: elements, rest) :=
      readElements_written h (level + 1) level rest (by rw [List.length_append]; omega)
    have helement := h element List.mem_cons_self
    have hfollow : Ended (writeElements style (level + 1) elements
        ++ (lineStart style level ++ .char ']' :: rest)) :=
      ended_writeElements style _ _ (ended_lineStart style level (by decide) rest)
    obtain ⟨c, tail, hcons, hc⟩ :=
      exists_cons_of_readValue (helement (level + 1) _ _ hfollow le_rfl)
    have hskip := helement.skipSpace_eq (level + 1) hfollow
    have hopen : Point.char c ≠ .char ']' := fun heq =>
      ne_of_startsValue hc rfl (Point.char.inj heq)
    rw [htext, readValue.eq_def]
    simp only [skipSpace_append isSpace_of_mem_lineStart, hskip]
    split
    · next heq => exact absurd (List.cons.inj (hcons.symm.trans heq)).1 hopen
    · rw [hread]
      rfl

theorem readsBack_object {members : List (RawText × Json)} (hnames : (members.map (·.1)).Nodup)
    (h : ∀ m ∈ members, Legible style.asciiOnly m.1 ∧ ReadsBack style m.2) :
    ReadsBack style (.object members) := by
  intro level fuel rest hrest hfuel
  cases members with
  | nil =>
    rw [writeAt] at hfuel
    obtain ⟨fuel, rfl⟩ := Nat.exists_eq_add_one_of_ne_zero (show fuel ≠ 0 by simp at hfuel; omega)
    rfl
  | cons m members =>
    obtain ⟨name, value⟩ := m
    simp only [writeAt, List.length_append, List.length_cons] at hfuel
    obtain ⟨fuel, rfl⟩ := Nat.exists_eq_add_one_of_ne_zero (show fuel ≠ 0 by omega)
    have htext : writeAt style level (.object ((name, value) :: members)) ++ rest
        = .char '{' :: (lineStart style (level + 1) ++ (stringText style.asciiOnly name
          ++ (colon style ++ (writeAt style (level + 1) value
            ++ (writeMembers style (level + 1) members
              ++ (lineStart style level ++ .char '}' :: rest)))))) := by
      simp [writeAt]
    have hread : readMembers fuel _ = .ok ((name, value) :: members, rest) :=
      readMembers_written h (level + 1) level rest (by rw [List.length_append]; omega)
    rw [htext, readValue.eq_def]
    simp only [skipSpace_append isSpace_of_mem_lineStart, skipSpace_stringText]
    split
    · next heq => exact absurd (List.cons.inj heq).1 (by decide)
    · rw [hread]
      show Except.ok (object (mergeMembers ((name, value) :: members)), rest) = _
      rw [mergeMembers_of_nodup hnames]

theorem readsBack_of_admitted (h : Admitted style.asciiOnly value) : ReadsBack style value := by
  induction h with
  | null => exact readsBack_of_readScalar (fun level => by rw [writeAt]; rfl) fun rest _ => rfl
  | bool b =>
    exact readsBack_of_readScalar (fun level => by rw [writeAt]; rfl) fun rest _ => by
      cases b <;> rfl
  | integer h =>
    exact readsBack_of_readScalar (fun level => by rw [writeAt]; rfl) fun rest hrest =>
      readScalar_integerText hrest h
  | number h =>
    exact readsBack_of_readScalar (fun level => by rw [writeAt]; rfl) fun rest hrest =>
      readScalar_text hrest h
  | @string s hs =>
    intro level fuel rest hrest hfuel
    rw [writeAt, stringText, List.length_append] at hfuel
    obtain ⟨fuel, rfl⟩ := Nat.exists_eq_add_one_of_ne_zero (show fuel ≠ 0 by simp at hfuel; omega)
    have htext : writeAt style level (.string s) ++ rest
        = .char '"' :: (s.flatMap (pointText style.asciiOnly) ++ .char '"' :: rest) := by
      simp [writeAt, stringText]
    rw [htext, readValue]
    simp only [readString_written hs]
    rfl
  | array h ih => exact readsBack_array ih
  | object hnames hlegible h ih =>
    exact readsBack_object hnames fun m hm => ⟨hlegible m hm, ih m hm⟩

end ReadsBack

/-! ### Layouts of a document -/

/-- A document is read again from every layout of it, with or without a break at its end. -/
theorem read_write {style : Style} {value : Json} {text ending : RawText}
    (htext : text = write style value ++ ending) (h : Admitted style.asciiOnly value)
    (hending : ending ∈ [[], [.char '\n']]) : read text = .ok value := by
  subst htext
  have hended : Ended ending ∧ skipSpace ending = [] := by
    rcases List.mem_cons.mp hending with rfl | hending
    · exact ⟨ended_nil, rfl⟩
    · rw [List.mem_singleton.mp hending]
      exact ⟨ended_cons (by decide) [], rfl⟩
  have hback : ReadsBack style value := readsBack_of_admitted h
  have hread := hback 0 (2 * (write style value ++ ending).length + 2) ending hended.1
    (by rw [write, List.length_append]; omega)
  have hskip := hback.skipSpace_eq 0 hended.1
  obtain ⟨c, tail, hcons, hc⟩ := exists_cons_of_readValue hread
  have hmark : Point.char c ≠ .char '\ufeff' := fun heq =>
    ne_of_startsValue hc (by decide) (Point.char.inj heq)
  have hdocument : readDocument (write style value ++ ending) = .ok value := by
    rw [readDocument.eq_def]
    split
    · next heq => exact absurd (List.cons.inj (hcons.symm.trans heq)).1 hmark
    · rw [write] at hread ⊢
      rw [hskip, hread]
      simp only [bind, Except.bind, hended.2]
  rw [read, hdocument]

/-- The backend for JSON lays code out, whatever its parser is called. Making a JSON text compact
and laying it out fail for the same texts. Otherwise both results are read as the document that the
text is read as, each is made into the other, and what is done twice stays as it is. -/
theorem layouts_carry_value (indent : ℕ) (text : RawText) :
    (∀ parser,
      (Format.Backend.json indent).format parser text = pure (Format.layOutJson indent text)) ∧
    ((∃ e, read text = .error e ∧ Compact.minifyJson text = .error e ∧
      Format.layOutJson indent text = .error (.json e)) ∨
    ∃ document compacted laidOut,
      (read text = .ok document ∧ read compacted = .ok document ∧ read laidOut = .ok document) ∧
      Compact.minifyJson text = .ok compacted ∧
      Format.layOutJson indent text = .ok laidOut ∧
      Compact.minifyJson laidOut = .ok compacted ∧
      Format.layOutJson indent compacted = .ok laidOut ∧
      Compact.minifyJson compacted = .ok compacted ∧
      Format.layOutJson indent laidOut = .ok laidOut) := by
  refine ⟨fun parser => rfl, ?_⟩
  cases hread : read text with
  | error e =>
    refine .inl ⟨e, rfl, ?_, ?_⟩
    · rw [Compact.minifyJson, hread]
      rfl
    · rw [Format.layOutJson, hread]
  | ok document =>
    have hadmitted := admitted_of_read hread
    obtain ⟨compacted, hcompacted⟩ : ∃ t, t = write minified document := ⟨_, rfl⟩
    obtain ⟨laidOut, hlaidOut⟩ : ∃ t,
        t = write { indent := some indent } document ++ [.char '\n'] :=
      ⟨_, rfl⟩
    have hreadCompacted : read compacted = .ok document := by
      have hwritten : read (write minified document ++ []) = .ok document :=
        read_write rfl hadmitted (by decide)
      rwa [List.append_nil, ← hcompacted] at hwritten
    have hreadLaidOut : read laidOut = .ok document := by
      rw [hlaidOut]
      exact read_write rfl hadmitted (by decide)
    have hminify : ∀ t, read t = .ok document → Compact.minifyJson t = .ok compacted := by
      intro t ht
      rw [Compact.minifyJson, ht, hcompacted]
      rfl
    have hlayOut : ∀ t, read t = .ok document → Format.layOutJson indent t = .ok laidOut := by
      intro t ht
      rw [Format.layOutJson, ht, hlaidOut]
    exact .inr ⟨document, compacted, laidOut, ⟨rfl, hreadCompacted, hreadLaidOut⟩,
      hminify _ hread, hlayOut _ hread, hminify _ hreadLaidOut, hlayOut _ hreadCompacted,
      hminify _ hreadCompacted, hlayOut _ hreadLaidOut⟩

end SourceText.Json
