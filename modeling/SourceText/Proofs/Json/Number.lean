import SourceText.Json.Reader
import SourceText.Json.Writer
import SourceText.Proofs.Number.Shortest

/-!
# Numbers in JSON texts

An integer with no more digits than may be read, and every number, is read back from what is written
for it, whatever part of a document follows (`readScalar_integerText`, `readScalar_text`).
-/

namespace SourceText.Json

/-! ### What follows a value -/

/-- Whether a text can stand behind a value in a document as it is written. -/
def Delimited (rest : Text) : Prop := ∀ c, rest.head? = some c → c ∈ [',', ']', '}', '\n']

theorem Delimited.head?_ne {rest : Text} (h : Delimited rest) {c : Char}
    (hc : c ∉ [',', ']', '}', '\n']) : rest.head? ≠ some c := fun heq => hc (h c heq)

/-! ### Digits -/

/-- Whether all characters are digits of ASCII. -/
def Digits (ds : Text) : Prop := ∀ c ∈ ds, c.isDigit = true

/-- Whether a text does not go on with a digit. -/
def EndsDigits (rest : Text) : Prop := ∀ c, rest.head? = some c → c.isDigit = false

theorem Delimited.endsDigits {rest : Text} (h : Delimited rest) : EndsDigits rest := by
  intro c hc
  have hmem := h c hc
  simp only [List.mem_cons, List.not_mem_nil, or_false] at hmem
  rcases hmem with rfl | rfl | rfl | rfl <;> rfl

theorem endsDigits_cons {c : Char} {rest : Text} (h : c.isDigit = false) : EndsDigits (c :: rest) :=
  fun _ hd => Option.some.inj hd ▸ h

theorem digitValue?_of_isDigit {c : Char} (h : c.isDigit = true) :
    Unicode.digitValue? c = some (c.toNat - 48) := by
  have hrange : c.toNat < 128 := by
    simp only [Char.isDigit, Bool.and_eq_true, decide_eq_true_eq] at h
    have := UInt32.le_iff_toNat_le.mp h.2
    exact Nat.lt_of_le_of_lt this (by decide)
  rw [Unicode.digitValue?, if_pos hrange, if_pos h]

theorem spanDigits_of_digits {ds : Text} (h : Digits ds) :
    Number.spanDigits ds = (ds.map (·.toNat - 48), []) := by
  induction ds with
  | nil => rfl
  | cons c ds ih =>
    rw [Number.spanDigits, digitValue?_of_isDigit (h c List.mem_cons_self)]
    simp only [ih fun d hd => h d (List.mem_cons_of_mem c hd), List.map_cons]

theorem ofDigits_of_digits {ds : Text} (h : Digits ds) :
    Number.ofDigits (Number.spanDigits ds).1 = Nat.ofDigitChars 10 ds 0 := by
  rw [spanDigits_of_digits h, Nat.ofDigitChars_eq_foldl, Number.ofDigits, List.foldl_map]
  rfl

theorem digits_toDigits (n : ℕ) : Digits (Nat.toDigits 10 n) :=
  fun _ hc => Nat.isDigit_of_mem_toDigits (by decide) (by decide) hc

theorem digits_zeros (n : ℕ) : Digits (List.replicate n '0') := by
  intro c hc
  rw [List.eq_of_mem_replicate hc]
  rfl

theorem Digits.append {ds ds' : Text} (h : Digits ds) (h' : Digits ds') : Digits (ds ++ ds') :=
  fun c hc => (List.mem_append.mp hc).elim (h c) (h' c)

theorem spanAsciiDigits_append {ds rest : Text} (h : Digits ds)
    (hrest : EndsDigits rest) :
    spanAsciiDigits (ds ++ rest) = (ds, rest) := by
  rw [spanAsciiDigits, List.span_eq_takeWhile_dropWhile, List.takeWhile_append_of_pos h,
    List.dropWhile_append_of_pos h]
  cases rest with
  | nil => simp
  | cons c rest => simp [hrest c rfl]

/-! ### The parts of a number -/

/-- Whether digits can be the whole part of a number. -/
def WholePart (ds : Text) : Prop := ds = ['0'] ∨ Digits ds ∧ ∃ c tail, ds = c :: tail ∧ c ≠ '0'

theorem WholePart.digits {ds : Text} (h : WholePart ds) : Digits ds := by
  rcases h with rfl | h
  · exact digits_zeros 1
  · exact h.1

theorem WholePart.exists_cons {ds : Text} (h : WholePart ds) :
    ∃ c tail, ds = c :: tail ∧ c.isDigit = true := by
  rcases h with rfl | ⟨hdigits, c, tail, rfl, -⟩
  · exact ⟨'0', [], rfl, rfl⟩
  · exact ⟨c, tail, rfl, hdigits c List.mem_cons_self⟩

theorem WholePart.take {ds : Text} (h : WholePart ds) {k : ℕ} (hk : 0 < k) :
    WholePart (ds.take k) := by
  obtain ⟨k, rfl⟩ := Nat.exists_eq_add_one_of_ne_zero hk.ne'
  rcases h with rfl | ⟨hdigits, c, tail, rfl, hc⟩
  · exact .inl (by simp)
  · exact .inr ⟨fun d hd => hdigits d (List.mem_of_mem_take hd), c, tail.take k, rfl, hc⟩

theorem WholePart.append_zeros {ds : Text} (h : WholePart ds) {k : ℕ} (hk : ds = ['0'] → k = 0) :
    WholePart (ds ++ List.replicate k '0') := by
  rcases h with rfl | ⟨hdigits, c, tail, rfl, hc⟩
  · rw [hk rfl]
    exact .inl rfl
  · exact .inr ⟨hdigits.append (digits_zeros k), c, _, rfl, hc⟩

theorem wholePart_append {ds rest : Text} (h : WholePart ds)
    (hrest : EndsDigits rest) : wholePart (ds ++ rest) = (ds, rest) := by
  rcases h with rfl | ⟨hdigits, c, tail, rfl, hc⟩
  · rfl
  · rw [wholePart.eq_def]
    split
    · next heq => exact absurd (List.cons.inj heq).1 hc
    · exact spanAsciiDigits_append hdigits hrest

theorem fractionPart_append {ds rest : Text} (h : Digits ds) (hne : ds ≠ [])
    (hrest : EndsDigits rest) : fractionPart ('.' :: (ds ++ rest)) = (ds, rest) := by
  rw [fractionPart, spanAsciiDigits_append h hrest]
  cases ds with
  | nil => exact absurd rfl hne
  | cons c ds => rfl

theorem fractionPart_of_head?_ne {rest : Text} (h : rest.head? ≠ some '.') :
    fractionPart rest = ([], rest) := by
  rw [fractionPart.eq_def]
  split
  · exact absurd rfl h
  · rfl

/-- The fraction of a number with its point, if there is one. -/
def pointed (fraction : Text) : Text := if fraction = [] then [] else '.' :: fraction

theorem fractionPart_pointed {fraction rest : Text} (h : Digits fraction) (hrest : EndsDigits rest)
    (hpoint : rest.head? ≠ some '.') :
    fractionPart (pointed fraction ++ rest) = (fraction, rest) := by
  unfold pointed
  split
  · next hempty =>
    rw [hempty]
    exact fractionPart_of_head?_ne hpoint
  · next hne => exact fractionPart_append h hne hrest

/-- The sign in front of a power of ten that is written. -/
def exponentSign (negative : Bool) : Char := if negative then '-' else '+'

theorem exponentPart?_append (negative : Bool) {ds rest : Text} (h : Digits ds) (hne : ds ≠ [])
    (hrest : EndsDigits rest) :
    exponentPart? ('e' :: exponentSign negative :: (ds ++ rest))
      = (some (if negative then -(Nat.ofDigitChars 10 ds 0 : ℤ) else Nat.ofDigitChars 10 ds 0),
        rest) := by
  have hsign : Number.takeSign (exponentSign negative :: (ds ++ rest))
      = (negative, ds ++ rest) := by
    cases negative <;> rfl
  rw [exponentPart?, if_pos (by decide), hsign]
  simp only [spanAsciiDigits_append h hrest, ofDigits_of_digits h]

theorem exponentPart?_of_head?_ne {rest : Text} (h : rest.head? ≠ some 'e')
    (h' : rest.head? ≠ some 'E') : exponentPart? rest = (none, rest) := by
  cases rest with
  | nil => rfl
  | cons c rest =>
    have hc : ¬ (c = 'e' || c = 'E') = true := by
      simp only [Bool.or_eq_true, decide_eq_true_eq]
      rintro (rfl | rfl)
      · exact h rfl
      · exact h' rfl
    rw [exponentPart?, if_neg hc]

/-! ### Numbers -/

section Parts

variable {negative : Bool} {whole fraction : Text} {exponent? : Option ℤ}
  {afterWhole afterFraction rest : Text} (hwhole : WholePart whole) (hfraction : Digits fraction)
  (hreadWhole : wholePart (whole ++ afterWhole) = (whole, afterWhole))
  (hreadFraction : fractionPart afterWhole = (fraction, afterFraction))
  (hreadExponent : exponentPart? afterFraction = (exponent?, rest))

include hwhole hfraction hreadWhole hreadFraction hreadExponent

/-- A number is read part by part. -/
theorem readNumber_parts :
    readNumber ((Binary64.signText negative).toList ++ (whole ++ afterWhole))
      = if fraction = [] ∧ exponent? = none then
          if Number.maxDigits < whole.length then .error (.tooLong whole.length)
          else .ok (.integer (if negative then -(Nat.ofDigitChars 10 whole 0 : ℤ)
            else Nat.ofDigitChars 10 whole 0), rest)
        else .ok (.number (Binary64.ofDecimal negative (Nat.ofDigitChars 10 (whole ++ fraction) 0)
          (exponent?.getD 0 - fraction.length)), rest) := by
  obtain ⟨c, tail, hcons, hc⟩ := hwhole.exists_cons
  have hminus : c ≠ '-' := by
    rintro rfl
    exact absurd hc (by decide)
  have hplain : (fraction.isEmpty && exponent?.isNone) = true
      ↔ fraction = [] ∧ exponent? = none := by
    rw [Bool.and_eq_true, List.isEmpty_iff, Option.isNone_iff_eq_none]
  have hreadWhole' : wholePart (c :: (tail ++ afterWhole)) = (c :: tail, afterWhole) := by
    rw [hcons] at hreadWhole
    exact hreadWhole
  have hdigits : Digits (c :: tail) := hcons ▸ hwhole.digits
  rw [hcons]
  cases negative with
  | true =>
    show readNumber ('-' :: c :: (tail ++ afterWhole)) = _
    rw [readNumber]
    simp only [hreadWhole', hreadFraction, hreadExponent, hplain, ofDigits_of_digits hdigits,
      ofDigits_of_digits (hdigits.append hfraction)]
  | false =>
    show readNumber (c :: (tail ++ afterWhole)) = _
    rw [readNumber]
    · simp only [hreadWhole', hreadFraction, hreadExponent, hplain, ofDigits_of_digits hdigits,
        ofDigits_of_digits (hdigits.append hfraction)]
    · exact fun _ heq => hminus (List.cons.inj heq).1

end Parts

/-- No word of JSON starts like a number. -/
theorem readScalar_eq_readNumber (negative : Bool) {ds rest : Text} (h : WholePart ds) :
    readScalar ((Binary64.signText negative).toList ++ (ds ++ rest))
      = readNumber ((Binary64.signText negative).toList ++ (ds ++ rest)) := by
  obtain ⟨c, tail, rfl, hc⟩ := h.exists_cons
  have hne : ∀ d : Char, d.isDigit = false → d ≠ c := by
    rintro d hd rfl
    exact absurd hc (hd ▸ Bool.false_ne_true)
  have hwords : ∀ w ∈ words,
      ¬ w.1.toList <+: (Binary64.signText negative).toList ++ (c :: tail ++ rest) := by
    have hI := hne 'I' rfl
    cases negative with
    | true => simp [words, Binary64.signText, hI]
    | false =>
      simp [words, Binary64.signText, hI, hne 'n' rfl, hne 't' rfl, hne 'f' rfl, hne 'N' rfl,
        hne '-' rfl]
  rw [readScalar]
  split
  · next word value hfind =>
    have hprefix : word.toList <+: _ :=
      List.isPrefixOf_iff_prefix.mp (by simpa using List.find?_some hfind)
    exact absurd hprefix (hwords _ (List.mem_of_find?_eq_some hfind))
  · rfl

theorem head?_toDigits_ne {n : ℕ} (hn : 0 < n) : (Nat.toDigits 10 n).head? ≠ some '0' := by
  induction n using Nat.strong_induction_on with
  | _ n ih =>
    rw [Nat.toDigits_eq_if (by decide)]
    split
    · next hlt =>
      have hall : ∀ n < 10, 0 < n → [n.digitChar].head? ≠ some '0' := by decide
      exact hall n hlt hn
    · next hge =>
      rw [List.head?_append_of_ne_nil _ Nat.toDigits_ne_nil]
      exact ih (n / 10) (by omega) (by omega)

theorem wholePart_toDigits (n : ℕ) : WholePart (Nat.toDigits 10 n) := by
  obtain rfl | hn := Nat.eq_zero_or_pos n
  · exact .inl (Nat.toDigits_zero 10)
  · refine .inr ⟨digits_toDigits n, ?_⟩
    have hhead := head?_toDigits_ne hn
    cases hdigits : Nat.toDigits 10 n with
    | nil => exact absurd hdigits Nat.toDigits_ne_nil
    | cons c tail =>
      rw [hdigits] at hhead
      exact ⟨c, tail, rfl, fun hc => hhead (congrArg some hc)⟩

theorem integerText_toList (n : ℤ) : (integerText n).toList
    = (Binary64.signText (decide (n < 0))).toList ++ Nat.toDigits 10 n.natAbs := by
  rw [integerText, Binary64.signText]
  by_cases hn : n < 0 <;> simp [hn, Nat.repr_eq_ofList_toDigits]

section Rest

variable {rest : Text} (hrest : Delimited rest)

include hrest

theorem readScalar_integerText {n : ℤ} (hn : n.natAbs < 10 ^ Number.maxDigits) :
    readScalar ((integerText n).toList ++ rest) = .ok (.integer n, rest) := by
  have hwhole := wholePart_toDigits n.natAbs
  have hlength : ¬ Number.maxDigits < (Nat.toDigits 10 n.natAbs).length :=
    not_lt.mpr ((Nat.length_toDigits_le_iff (by decide) (by decide)).mpr hn)
  have hsign : (if decide (n < 0) = true then -(n.natAbs : ℤ) else n.natAbs) = n := by
    by_cases hneg : n < 0
    · rw [if_pos (decide_eq_true hneg)]
      omega
    · rw [if_neg (by simpa using hneg)]
      omega
  rw [integerText_toList, List.append_assoc, readScalar_eq_readNumber _ hwhole,
    readNumber_parts hwhole (digits_zeros 0) (wholePart_append hwhole hrest.endsDigits)
      (fractionPart_of_head?_ne (hrest.head?_ne (by decide)))
      (exponentPart?_of_head?_ne (hrest.head?_ne (by decide)) (hrest.head?_ne (by decide))),
    if_pos ⟨rfl, rfl⟩, if_neg hlength, Nat.ofDigitChars_ten_toDigits, hsign]

theorem readScalar_fraction (negative : Bool) {whole fraction : Text} (hwhole : WholePart whole)
    (hfraction : Digits fraction) (hne : fraction ≠ []) :
    readScalar ((Binary64.signText negative).toList ++ (whole ++ '.' :: (fraction ++ rest)))
      = .ok (.number (Binary64.ofDecimal negative (Nat.ofDigitChars 10 (whole ++ fraction) 0)
          (-fraction.length)), rest) := by
  rw [readScalar_eq_readNumber _ hwhole,
    readNumber_parts hwhole hfraction (wholePart_append hwhole (endsDigits_cons rfl))
      (fractionPart_append hfraction hne hrest.endsDigits)
      (exponentPart?_of_head?_ne (hrest.head?_ne (by decide)) (hrest.head?_ne (by decide))),
    if_neg fun h => hne h.1, Option.getD_none, zero_sub]

end Rest

/-! ### The text of a number -/

theorem positional_parts (n : ℕ) (point : ℤ) (hzero : n = 0 → point ≤ 1) :
    ∃ whole fraction, (Binary64.positional (Nat.toDigits 10 n) point).toList
        = whole ++ '.' :: fraction ∧ WholePart whole ∧ Digits fraction ∧ fraction ≠ [] ∧
      (Nat.ofDigitChars 10 (whole ++ fraction) 0 : ℚ) * 10 ^ (-(fraction.length : ℤ))
        = n * 10 ^ (point - (Nat.toDigits 10 n).length) := by
  have hten : (10 : ℚ) ≠ 0 := by norm_num
  have hdigits := digits_toDigits n
  have hvalue : Nat.ofDigitChars 10 (Nat.toDigits 10 n) 0 = n := Nat.ofDigitChars_ten_toDigits
  have hwhole := wholePart_toDigits n
  have hne : Nat.toDigits 10 n ≠ [] := Nat.toDigits_ne_nil
  generalize Nat.toDigits 10 n = ds at *
  unfold Binary64.positional
  split_ifs with hpoint hlong
  -- The point stands before the digits, behind them or between them.
  · refine ⟨['0'], List.replicate (-point).toNat '0' ++ ds, by simp, .inl rfl,
      (digits_zeros _).append hdigits, by simp [hne], ?_⟩
    have hvalue' : Nat.ofDigitChars 10 (['0'] ++ (List.replicate (-point).toNat '0' ++ ds)) 0
        = n := by
      simp [Nat.ofDigitChars_append, Nat.ofDigitChars_replicate_zero, Nat.ofDigitChars_cons, hvalue]
    have hplaces : -((List.replicate (-point).toNat '0' ++ ds).length : ℤ) = point - ds.length := by
      rw [List.length_append, List.length_replicate]
      omega
    rw [hvalue', hplaces]
  · have hsingle : ds = ['0'] → point.toNat - ds.length = 0 := by
      rintro rfl
      have := hzero hvalue.symm
      rw [List.length_singleton]
      omega
    refine ⟨ds ++ List.replicate (point.toNat - ds.length) '0', ['0'], by simp,
      hwhole.append_zeros hsingle, digits_zeros 1, by simp, ?_⟩
    have hvalue' : Nat.ofDigitChars 10
        (ds ++ List.replicate (point.toNat - ds.length) '0' ++ ['0']) 0
        = n * 10 ^ (point.toNat - ds.length) * 10 := by
      simp only [Nat.ofDigitChars_append, Nat.ofDigitChars_replicate_zero, Nat.ofDigitChars_cons,
        Nat.ofDigitChars_nil, hvalue, Nat.sub_self]
      ring
    have hplaces : point - ds.length = (point.toNat - ds.length : ℕ) := by omega
    rw [hvalue', hplaces, zpow_natCast, List.length_singleton]
    push_cast
    rw [zpow_neg_one, mul_assoc, mul_inv_cancel₀ hten, mul_one]
  · refine ⟨ds.take point.toNat, ds.drop point.toNat, by simp, hwhole.take (by omega),
      fun c hc => hdigits c (List.mem_of_mem_drop hc), by simpa using hlong, ?_⟩
    have hplaces : -((ds.drop point.toNat).length : ℤ) = point - ds.length := by
      rw [List.length_drop]
      omega
    rw [List.take_append_drop, hvalue, hplaces]

/-- The digits of a power of ten that is written. -/
def exponentDigits (exponent : ℤ) : Text :=
  let ds := Nat.toDigits 10 exponent.natAbs
  if ds.length < 2 then '0' :: ds else ds

theorem exponentText_toList (exponent : ℤ) : (Binary64.exponentText exponent).toList
    = exponentSign (decide (exponent < 0)) :: exponentDigits exponent := by
  simp only [Binary64.exponentText, exponentDigits, exponentSign, decide_eq_true_eq,
    Nat.repr_eq_ofList_toDigits, String.length_ofList]
  split_ifs <;> simp

theorem digits_exponentDigits (exponent : ℤ) : Digits (exponentDigits exponent) := by
  unfold exponentDigits
  dsimp only
  split
  · exact (digits_zeros 1).append (digits_toDigits _)
  · exact digits_toDigits _

theorem ofDigitChars_exponentDigits (exponent : ℤ) :
    Nat.ofDigitChars 10 (exponentDigits exponent) 0 = exponent.natAbs := by
  unfold exponentDigits
  dsimp only
  split
  · rw [Nat.ofDigitChars_cons]
    exact Nat.ofDigitChars_ten_toDigits
  · exact Nat.ofDigitChars_ten_toDigits

theorem exponentDigits_ne_nil (exponent : ℤ) : exponentDigits exponent ≠ [] := by
  unfold exponentDigits
  dsimp only
  split
  · exact List.cons_ne_nil _ _
  · exact Nat.toDigits_ne_nil

theorem scientific_toList (c : Char) (fraction : Text) (leading : ℤ) :
    (Binary64.scientific (c :: fraction) leading).toList = c :: (pointed fraction
      ++ 'e' :: exponentSign (decide (leading < 0)) :: exponentDigits leading) := by
  unfold Binary64.scientific pointed
  rw [← exponentText_toList]
  by_cases hfraction : fraction = [] <;> simp [hfraction]

theorem readScalar_scientific {rest : Text} (hrest : Delimited rest) (negative : Bool) {c : Char}
    {fraction : Text} (hdigits : Digits (c :: fraction)) (leading : ℤ) :
    readScalar ((Binary64.signText negative).toList
        ++ ((Binary64.scientific (c :: fraction) leading).toList ++ rest))
      = .ok (.number (Binary64.ofDecimal negative (Nat.ofDigitChars 10 (c :: fraction) 0)
          (leading - fraction.length)), rest) := by
  have hwhole : WholePart [c] := by
    by_cases hc : c = '0'
    · exact .inl (by rw [hc])
    · exact .inr ⟨fun d hd => hdigits d (by simp_all), c, [], rfl, hc⟩
  have hfraction : Digits fraction := fun d hd => hdigits d (List.mem_cons_of_mem c hd)
  have hends : EndsDigits (pointed fraction ++ 'e' :: exponentSign (decide (leading < 0))
      :: (exponentDigits leading ++ rest)) := by
    unfold pointed
    split <;> exact endsDigits_cons rfl
  have hreadFraction : fractionPart (pointed fraction ++ 'e' :: exponentSign (decide (leading < 0))
      :: (exponentDigits leading ++ rest)) = _ :=
    fractionPart_pointed hfraction (endsDigits_cons rfl) (by simp)
  have hreadExponent := exponentPart?_append (decide (leading < 0)) (digits_exponentDigits leading)
    (exponentDigits_ne_nil leading) hrest.endsDigits
  have hexponent : (if decide (leading < 0) = true then -(leading.natAbs : ℤ) else leading.natAbs)
      = leading := by
    simp only [decide_eq_true_eq]
    split <;> omega
  rw [ofDigitChars_exponentDigits, hexponent] at hreadExponent
  have htext : (Binary64.scientific (c :: fraction) leading).toList ++ rest
      = [c] ++ (pointed fraction ++ 'e' :: exponentSign (decide (leading < 0))
        :: (exponentDigits leading ++ rest)) := by
    rw [scientific_toList]
    simp
  rw [htext, readScalar_eq_readNumber _ hwhole, readNumber_parts hwhole hfraction
    (wholePart_append hwhole hends) hreadFraction hreadExponent, if_neg fun h => nomatch h.2]
  rfl

/-- A number is read back from its text. -/
theorem readScalar_text {rest : Text} (hrest : Delimited rest) {x : Binary64} (hx : x.WellFormed) :
    readScalar ((x.text numberStyle).toList ++ rest) = .ok (.number x, rest) := by
  cases x with
  | nan => rfl
  | infinite negative => cases negative <;> rfl
  | finite negative m e =>
    have hzero : (Binary64.shortestDigits m e).digits = 0 →
        (Binary64.shortestDigits m e).exponent = 0 := by
      intro hdigits
      obtain rfl | hm := Nat.eq_zero_or_pos m
      · rfl
      · exact absurd hdigits (Binary64.digits_shortestDigits_pos hm hx).ne'
    have hread : ∀ (digits : ℕ) (exponent : ℤ), _ → Binary64.ofDecimal negative digits exponent
        = .finite negative m e :=
      fun digits exponent => Binary64.ofDecimal_of_eq_shortestDigits negative hx
    simp only [Binary64.text, Nat.repr_eq_ofList_toDigits, String.toList_ofList,
      String.toList_append, List.append_assoc]
    generalize Binary64.shortestDigits m e = shortest at *
    split
    · obtain ⟨whole, fraction, htext, hwhole, hfraction, hne, hvalue⟩ :=
        positional_parts shortest.digits
          ((Nat.toDigits 10 shortest.digits).length + shortest.exponent - 1 + 1) (by
            intro hdigits
            rw [hdigits, hzero hdigits]
            decide)
      rw [htext, List.append_assoc, List.cons_append,
        readScalar_fraction hrest negative hwhole hfraction hne, hread _ _ ?_]
      rw [hvalue]
      congr 2
      ring
    · have hvalue := @Nat.ofDigitChars_ten_toDigits shortest.digits
      have hdigits := digits_toDigits shortest.digits
      cases hds : Nat.toDigits 10 shortest.digits with
      | nil => exact absurd hds Nat.toDigits_ne_nil
      | cons c fraction =>
        rw [hds] at hvalue hdigits
        rw [readScalar_scientific hrest negative hdigits, hvalue, hread _ _ ?_]
        congr 2
        rw [List.length_cons]
        push_cast
        ring

end SourceText.Json
