import SourceText.Proofs.Scan.Cursor
import SourceText.Proofs.Scan.Regions

/-!
# Scanning a text that more text follows

A scan looks one character ahead. So what follows a text can change the region of its last
character, but of no other, and of that only when it is a slash of code, which may open a comment. A
text behind one that leaves nothing open has the regions that it has alone, unless the two together
open a comment (`regions_append`).
-/

namespace SourceText.Scan

/-! ### Marks before a character -/

/-- The marks of `text`, read from `cursor` on after the character `previous?`, when the character
`next?` follows it. -/
def marksBefore (track : Bool) (next? previous? : Option Char) (cursor : Cursor) :
    Text → List Mark
  | [] => []
  | c :: rest =>
    let (context, region) :=
      step track cursor.position previous? cursor.context c (rest.head?.or next?)
    ⟨c, region, ⟨cursor.position, context⟩⟩ ::
      marksBefore track next? (some c) ⟨cursor.position + 1, context⟩ rest

/-- Where a scan stands that started at `cursor` and has made some marks. -/
def cursorAfter (cursor : Cursor) (seen : List Mark) : Cursor :=
  ⟨cursor.position + seen.length,
    (seen.getLast?.map (·.cursor.context)).getD cursor.context⟩

theorem cursorAfter_cons (cursor : Cursor) (mark : Mark) (seen : List Mark) :
    cursorAfter cursor (mark :: seen)
      = cursorAfter ⟨cursor.position + 1, mark.cursor.context⟩ seen := by
  have hposition : cursor.position + (seen.length + 1) = cursor.position + 1 + seen.length := by
    omega
  cases hlast : seen.getLast? <;>
    simp [cursorAfter, List.getLast?_cons, hlast, hposition]

section Marks

variable (track : Bool) (next? previous? : Option Char) (cursor : Cursor)

theorem marksBefore_none (text : Text) :
    marksBefore track none previous? cursor text = marksFrom track previous? cursor text := by
  induction text generalizing previous? cursor with
  | nil => rfl
  | cons c rest ih => simp only [marksBefore, marksFrom, Option.or_none, ih]

theorem length_marksBefore (text : Text) :
    (marksBefore track next? previous? cursor text).length = text.length := by
  induction text generalizing previous? cursor with
  | nil => rfl
  | cons c rest ih => simp only [marksBefore, List.length_cons, ih]

/-- Of what follows a text, its marks depend on the first character alone. -/
theorem marksBefore_append (a b : Text) :
    marksBefore track next? previous? cursor (a ++ b)
      = marksBefore track (b.head?.or next?) previous? cursor a
        ++ marksBefore track next? (a.getLast?.or previous?)
          (cursorAfter cursor (marksBefore track (b.head?.or next?) previous? cursor a)) b := by
  induction a generalizing previous? cursor with
  | nil => simp [marksBefore, cursorAfter]
  | cons c rest ih =>
    have hprevious : (c :: rest).getLast?.or previous? = rest.getLast?.or (some c) := by
      cases hlast : rest.getLast? <;> simp [List.getLast?_cons, hlast]
    have hhead : (rest ++ b).head?.or next? = rest.head?.or (b.head?.or next?) := by
      rw [List.head?_append, Option.or_assoc]
    simp only [List.cons_append, marksBefore, hhead, hprevious, cursorAfter_cons, ih]

end Marks

/-! ### The only place where the next character counts -/

/-- The character ahead counts only for a slash of code in front of a slash or an asterisk. -/
theorem step_next (track : Bool) (position : Nat) (previous? : Option Char) (context : Context)
    (c : Char) (next? : Option Char) :
    step track position previous? context c next? = step track position previous? context c none ∨
      track = true ∧ c = '/' ∧ (next? = some '/' ∨ next? = some '*') ∧
        (step track position previous? context c none).2 = .code := by
  cases context with
  | literal quote template escaped => exact .inl rfl
  | lineComment => exact .inl rfl
  | blockComment start => exact .inl rfl
  | code =>
    by_cases hopens : track = true ∧ c = '/' ∧ (next? = some '/' ∨ next? = some '*')
    · obtain ⟨rfl, rfl, hnext⟩ := hopens
      exact .inr ⟨rfl, rfl, hnext, rfl⟩
    · refine .inl ?_
      cases hquote : isQuote c with
      | true =>
        exact (codeStep_quote track position next? hquote).trans
          (codeStep_quote track position none hquote).symm
      | false =>
        have hplain : track = true → c = '/' → next? ≠ some '/' ∧ next? ≠ some '*' :=
          fun htrack hslash => ⟨fun h => hopens ⟨htrack, hslash, .inl h⟩,
            fun h => hopens ⟨htrack, hslash, .inr h⟩⟩
        exact (codeStep_plain position hquote hplain).trans
          (codeStep_plain position hquote fun _ _ => by decide).symm

/-- Whether a text ends with a slash of code, with which a comment can begin. -/
def EndsWithSlash (track : Bool) (text : Text) : Prop :=
  track = true ∧ (scan track text).getLast? = some ('/', .code)

/-- What follows a text changes no mark of it but the last, and that one only at a slash of code
which opens a comment together with what follows. -/
theorem marksBefore_cases (track : Bool) (text : Text) (next? : Option Char) :
    marksBefore track next? none {} text = marks track text ∨
      EndsWithSlash track text ∧ (next? = some '/' ∨ next? = some '*') ∧
        (marksBefore track next? none {} text).dropLast = (marks track text).dropLast := by
  rcases text.eq_nil_or_concat' with rfl | ⟨text, c, rfl⟩
  · exact .inl rfl
  have hmarks : ∀ n : Option Char, marksBefore track n none {} (text ++ [c])
      = marksBefore track (some c) none {} text ++ marksBefore track n (text.getLast?.or none)
          (cursorAfter {} (marksBefore track (some c) none {} text)) [c] := fun n =>
    marksBefore_append track n none {} text [c]
  rw [marks, ← marksBefore_none, hmarks next?, hmarks none]
  generalize cursorAfter {} (marksBefore track (some c) none {} text) = cursor at hmarks ⊢
  generalize text.getLast?.or none = previous? at hmarks ⊢
  rcases step_next track cursor.position previous? cursor.context c next? with
    hsame | ⟨htrack, hslash, hnext, hcode⟩
  · left
    simp [marksBefore, hsame]
  · right
    refine ⟨⟨htrack, ?_⟩, hnext, ?_⟩
    · rw [scan, marks, ← marksBefore_none, hmarks none]
      simpa [marksBefore, hslash] using hcode
    · simp [marksBefore]

/-! ### Two texts -/

/-- Whether two texts open a comment where they meet. -/
def OpensComment (track : Bool) (a b : Text) : Prop :=
  EndsWithSlash track a ∧ (b.head? = some '/' ∨ b.head? = some '*')

instance (track : Bool) (a b : Text) : Decidable (OpensComment track a b) := by
  unfold OpensComment EndsWithSlash
  infer_instance

theorem eq_code_of_isOpaque {context : Context} (h : context.isOpaque = false) :
    context = .code := by
  cases context with
  | code => rfl
  | _ => exact nomatch h

section Append

variable (track : Bool) (a b : Text)

theorem marks_append : marks track (a ++ b)
    = marksBefore track b.head? none {} a
      ++ marksFrom track a.getLast? (cursorAfter {} (marksBefore track b.head? none {} a)) b := by
  rw [marks, ← marksBefore_none, marksBefore_append, marksBefore_none, Option.or_none,
    Option.or_none]

theorem final_eq_cursorAfter : final track a = cursorAfter {} (marks track a) := by
  rw [final, finalFrom_eq, cursorAfter, marks, ← marksBefore_none, length_marksBefore]

/-- A scan from between literals and comments is a scan on its own. -/
theorem regions_marksFrom (previous? : Option Char) (position : Nat) (text : Text) :
    (marksFrom track previous? ⟨position, .code⟩ text).map (·.region) = regions track text := by
  have halone : scanFrom track previous? ⟨position, .code⟩ text = scan track text := by
    rw [scan_eq_marked]
    exact scansTo_lexemes track text previous? position
  rw [regions, ← halone, scanFrom, List.map_map]
  rfl

theorem regions_eq_map (text : Text) : regions track text = (marks track text).map (·.region) := by
  rw [regions, scan, List.map_map]
  rfl

end Append

/-- Scanning two texts as one: the first keeps its regions, but for a slash at its end that opens a
comment, and the second has those that it has alone when the first leaves nothing open. -/
theorem regions_append (track : Bool) (a b : Text) :
    (∀ i < a.length, (regions track (a ++ b))[i]? ≠ (regions track a)[i]? →
      i + 1 = a.length ∧ OpensComment track a b) ∧
    ((final track a).context.isOpaque = false → ¬ OpensComment track a b →
      regions track (a ++ b) = regions track a ++ regions track b) := by
  have hmarks := marks_append track a b
  have hlength := length_marksBefore track b.head? none {} a
  have hlength' : (marks track a).length = a.length := by
    rw [marks, ← marksBefore_none, length_marksBefore]
  constructor
  · intro i hi hne
    rw [regions_eq_map, regions_eq_map, hmarks, List.map_append,
      List.getElem?_append_left (by rwa [List.length_map, hlength])] at hne
    rcases marksBefore_cases track a b.head? with hsame | ⟨hslash, hnext, hinit⟩
    · exact absurd (by rw [hsame]) hne
    · refine ⟨?_, hslash, hnext⟩
      by_contra hi'
      -- In front of the last character both scans have made the same marks.
      have hearlier : i < a.length - 1 := by omega
      refine hne ?_
      have hbefore := congrArg (·[i]?) hinit
      simp only [List.getElem?_dropLast, hlength, hlength', if_pos hearlier] at hbefore
      rw [List.getElem?_map, List.getElem?_map, hbefore]
  · intro hclosed hapart
    have hsame : marksBefore track b.head? none {} a = marks track a :=
      (marksBefore_cases track a b.head?).resolve_right fun h => hapart ⟨h.1, h.2.1⟩
    obtain ⟨position, hfinal⟩ : ∃ position, final track a = ⟨position, .code⟩ :=
      ⟨_, congrArg (Cursor.mk _) (eq_code_of_isOpaque hclosed)⟩
    rw [hsame, ← final_eq_cursorAfter, hfinal] at hmarks
    rw [regions_eq_map, hmarks, List.map_append, regions_marksFrom, ← regions_eq_map]

/-- The slash that closes a comment opens none with the slash behind it. -/
theorem regions_append_closed_comment :
    (final true "/**/".toList).context.isOpaque = false ∧
      ¬ OpensComment true "/**/".toList "/ '".toList ∧
      regions true ("/**/".toList ++ "/ '".toList)
        = regions true "/**/".toList ++ regions true "/ '".toList :=
  have hclosed : (final true "/**/".toList).context.isOpaque = false := by decide
  have hapart : ¬ OpensComment true "/**/".toList "/ '".toList := by decide
  ⟨hclosed, hapart, (regions_append true _ _).2 hclosed hapart⟩

/-- A slash of code at the end is the one character that can change. -/
example : regions true ['/'] = [.code] ∧ regions true ['/', '*'] = [.comment, .comment] := by decide

end SourceText.Scan
