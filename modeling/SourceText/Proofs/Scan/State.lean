import SourceText.Proofs.Scan.Cursor
import SourceText.Scan.State

/-!
# What the fields of a scan say

After every character the fields of a scan say which string or comment is open and how much has been
read of it (`cursor_follows_text`). That no two of them contradict one another is nothing that a
step looks after by itself. It holds because a scan with a context in their place reads the same
(`snapshots_eq`).
-/

namespace SourceText.Scan

/-! ### Cursors in fields -/

/-- The fields in which a cursor shows. -/
def State.ofCursor (cursor : Cursor) : State where
  position := cursor.position
  inString := cursor.context.inLiteral
  stringDelimiter := cursor.context.quote?
  inTemplate := cursor.context.inTemplate
  escapeNext := cursor.context.escapesNext
  inLineComment := cursor.context.inLineComment
  inBlockComment := cursor.context.inBlockComment
  blockCommentStart := cursor.context.blockCommentStart?.elim (-1) fun start => start

/-- The snapshot in which a mark shows. -/
def Snapshot.ofMark (mark : Mark) : Snapshot := ⟨mark.char, mark.region, .ofCursor mark.cursor⟩

section Fields

variable (position : Nat)

@[simp] theorem State.ofCursor_code : ofCursor ⟨position, .code⟩ = { position := position } := rfl

@[simp] theorem State.ofCursor_literal (quote : Char) (template escaped : Bool) :
    ofCursor ⟨position, .literal quote template escaped⟩
      = { position := position, inString := true, stringDelimiter := some quote,
          inTemplate := template, escapeNext := escaped } := rfl

@[simp] theorem State.ofCursor_lineComment :
    ofCursor ⟨position, .lineComment⟩ = { position := position, inLineComment := true } := rfl

@[simp] theorem State.ofCursor_blockComment (start : Nat) :
    ofCursor ⟨position, .blockComment start⟩
      = { position := position, inBlockComment := true, blockCommentStart := start } := rfl

end Fields

/-! ### One character -/

theorem advanceString_ofCursor (position : Nat) (quote : Char) (template escaped : Bool)
    (c : Char) : (State.ofCursor ⟨position, .literal quote template escaped⟩).advanceString c
      = .ofCursor ⟨position, literalStep quote template escaped c⟩ := by
  simp only [State.advanceString, literalStep, State.ofCursor_literal, beq_iff_eq]
  by_cases hescaped : escaped = true
  · simp only [hescaped, if_true, State.ofCursor_literal]
  · by_cases hslash : c = '\\'
    · simp only [hescaped, hslash, if_true, if_false, Bool.false_eq_true, State.ofCursor_literal]
    · by_cases hquote : c = quote
      · subst hquote
        cases htemplate : isTemplateQuote c <;> simp [hescaped, hslash]
      · cases htemplate : isTemplateQuote c <;> simp [hescaped, hslash, hquote, Ne.symm hquote]

/-- What a step makes of the fields is what it makes of the cursor that shows in them. -/
theorem advance_ofCursor (track : Bool) {text : Text} {cursor : Cursor} {previous? : Option Char}
    (hprevious : 0 < cursor.position → previous? = text[cursor.position - 1]?) (c : Char)
    (next? : Option Char) :
    (State.ofCursor cursor).advance track text c next?
      = (.ofCursor ⟨cursor.position,
            (step track cursor.position previous? cursor.context c next?).1⟩,
          (step track cursor.position previous? cursor.context c next?).2) := by
  obtain ⟨position, context⟩ := cursor
  cases context with
  | code =>
    simp only [State.advance, step, codeStep, State.ofCursor_code]
    split_ifs <;> simp_all
  | literal quote template escaped =>
    exact Prod.ext (advanceString_ofCursor position quote template escaped c) rfl
  | lineComment =>
    simp only [State.advance, step, State.ofCursor_lineComment]
    split_ifs <;> simp_all
  | blockComment start =>
    have hcloses : (c == '/' && State.charBefore? text position == some '*' &&
          decide (3 ≤ (position : Int) - start)) =
        (c == '/' && previous? == some '*' && decide (start + 3 ≤ position)) := by
      by_cases hfar : start + 3 ≤ position
      · have hpositive : 0 < position := by omega
        have hbefore : State.charBefore? text position = previous? := by
          rw [State.charBefore?, if_neg (Nat.ne_of_gt hpositive), hprevious hpositive]
        rw [hbefore, decide_eq_true hfar, decide_eq_true (by omega)]
      · rw [decide_eq_false hfar, decide_eq_false (by omega), Bool.and_false, Bool.and_false]
    have hadvance : (State.ofCursor ⟨position, .blockComment start⟩).advance track text c next?
        = if c == '/' && State.charBefore? text position == some '*' &&
            decide (3 ≤ (position : Int) - start)
          then (.ofCursor ⟨position, .code⟩, .comment)
          else (.ofCursor ⟨position, .blockComment start⟩, .comment) := rfl
    rw [hadvance, hcloses, step]
    split <;> rfl

/-! ### The run -/

section Run

variable (track : Bool) {text before rest : Text} (cursor : Cursor)
  (htext : text = before ++ rest) (hposition : cursor.position = before.length)

include htext hposition

theorem getLast?_before (hpositive : 0 < cursor.position) :
    before.getLast? = text[cursor.position - 1]? := by
  rw [hposition] at hpositive ⊢
  rw [htext, List.getLast?_eq_getElem?, List.getElem?_append_left (by omega)]

/-- A scan field by field makes the snapshots in which the marks show, and ends in the fields in
which the last cursor shows. -/
theorem run_ofCursor : snapshotsFrom track text (.ofCursor cursor) rest
      = (marksFrom track before.getLast? cursor rest).map .ofMark ∧
    finalStateFrom track text (.ofCursor cursor) rest
      = .ofCursor (finalFrom track before.getLast? cursor rest) := by
  induction rest generalizing before cursor with
  | nil => exact ⟨rfl, rfl⟩
  | cons c rest ih =>
    have hnext : text = (before ++ [c]) ++ rest := by simpa using htext
    have hlength : cursor.position + 1 = (before ++ [c]).length := by simp [hposition]
    have hstep := advance_ofCursor track (getLast?_before cursor htext hposition) c rest.head?
    have hlast : (before ++ [c]).getLast? = some c := List.getLast?_concat
    obtain ⟨hsnapshots, hfinal⟩ := ih ⟨cursor.position + 1, (step track cursor.position
      before.getLast? cursor.context c rest.head?).1⟩ hnext hlength
    rw [snapshotsFrom, marksFrom, finalStateFrom, finalFrom, hstep, List.map_cons, ← hlast]
    exact ⟨congrArg (_ :: ·) hsnapshots, hfinal⟩

end Run

theorem snapshots_eq (track : Bool) (text : Text) :
    snapshots track text = (marks track text).map .ofMark :=
  (run_ofCursor track {} (List.nil_append text).symm rfl).1

theorem finalState_eq (track : Bool) (text : Text) :
    finalState track text = .ofCursor (final track text) :=
  (run_ofCursor track {} (List.nil_append text).symm rfl).2

/-! ### What is open -/

/-- The state after some snapshots, still at the position of the last. -/
def stateAfter (seen : List Snapshot) : State := (seen.getLast?.map (·.state)).getD {}

/-- The string that is open after some snapshots: `quote` opened it, and `body` are the characters
since. -/
def OpenString (seen : List Snapshot) (quote : Char) (body : Text) : Prop :=
  ∃ before opening inside, seen = before ++ opening :: inside ∧
    (stateAfter before).inString = false ∧ opening.char = quote ∧ isQuote quote = true ∧
    (∀ snapshot ∈ opening :: inside, snapshot.state.inString = true) ∧
    inside.map (·.char) = body

/-- What a state says about the text and the snapshots up to where it stands. -/
structure State.Follows (track : Bool) (text : Text) (seen : List Snapshot) (s : State) : Prop where
  one_open : [s.inString, s.inLineComment, s.inBlockComment].count true ≤ 1
  delimiter_open : s.stringDelimiter.isSome = s.inString
  string : ∀ quote, s.stringDelimiter = some quote → ∃ body, OpenString seen quote body ∧
    (s.escapeNext = true ↔ backslashRun body % 2 = 1) ∧
    (s.inTemplate = true ↔ isTemplateQuote quote = true ∨ templateQuotes body % 2 = 1)
  escape_open : s.escapeNext = true → s.inString = true
  template_open : s.inTemplate = true → s.inString = true
  start_open : s.blockCommentStart = -1 ↔ s.inBlockComment = false
  start : s.inBlockComment = true → ∃ start : Nat, s.blockCommentStart = start ∧
    text[start]? = some '/' ∧ text[start + 1]? = some '*'
  untracked : track = false → s.inLineComment = false ∧ s.inBlockComment = false

/-- Which region a character has between two states. -/
structure RegionFits (before after : State) (region : Region) : Prop where
  literal : region = .literal ↔ before.inString = true ∨ after.inString = true
  comment : region = .comment ↔ before.inBlockComment = true ∨ after.inComment = true
  code : region = .code ↔ ¬ (before.inString = true ∨ after.inString = true) ∧
    ¬ (before.inBlockComment = true ∨ after.inComment = true)

theorem stateAfter_map (seen : List Mark) : ∃ position,
    stateAfter (seen.map .ofMark) = .ofCursor ⟨position, contextAfter seen⟩ := by
  rw [stateAfter, contextAfter, List.getLast?_map]
  cases seen.getLast? with
  | none => exact ⟨0, rfl⟩
  | some mark => exact ⟨mark.cursor.position, rfl⟩

theorem OpenLiteral.openString {seen : List Mark} {quote : Char} {body : Text}
    (h : OpenLiteral seen quote body) : OpenString (seen.map .ofMark) quote body := by
  obtain ⟨before, opening, inside, rfl, hbefore, hchar, hquote, hinside, hbody⟩ := h
  refine ⟨before.map .ofMark, .ofMark opening, inside.map .ofMark, by simp, ?_, hchar, hquote, ?_,
    ?_⟩
  · obtain ⟨position, hstate⟩ := stateAfter_map before
    rw [hstate]
    exact hbefore
  · rw [← List.map_cons, List.forall_mem_map]
    exact hinside
  · rw [← hbody, List.map_map]
    rfl

theorem Follows.state {track : Bool} {text : Text} {seen : List Mark} {context : Context}
    (h : Follows track text seen context) (position : Nat) :
    State.Follows track text (seen.map .ofMark) (.ofCursor ⟨position, context⟩) where
  one_open := by cases context <;> simp
  delimiter_open := by cases context <;> rfl
  string quote hquote := by
    obtain ⟨body, hopen, hswitches⟩ := h.literal quote hquote
    exact ⟨body, hopen.openString, hswitches⟩
  escape_open := by cases context <;> simp
  template_open := by cases context <;> simp
  start_open := by cases context <;> simp
  start hblock := by
    cases context with
    | blockComment start => exact ⟨start, rfl, h.start start rfl⟩
    | _ => exact absurd hblock Bool.false_ne_true
  untracked := h.untracked

theorem regionFits_step (track : Bool) (position : Nat) (previous? : Option Char)
    (context : Context) (c : Char) (next? : Option Char) (before after : Nat) :
    RegionFits (.ofCursor ⟨before, context⟩)
      (.ofCursor ⟨after, (step track position previous? context c next?).1⟩)
      (step track position previous? context c next?).2 := by
  cases context with
  | code =>
    simp only [step, codeStep]
    split_ifs <;>
      exact ⟨by simp, by simp [State.inComment], by simp [State.inComment]⟩
  | literal quote template escaped =>
    have hnoComment : (State.ofCursor ⟨after, literalStep quote template escaped c⟩).inComment
        = false := by
      unfold literalStep
      split_ifs <;> rfl
    simp only [step]
    exact ⟨by simp, by simp [hnoComment], by simp⟩
  | lineComment =>
    simp only [step]
    split_ifs <;> exact ⟨by simp, by simp [State.inComment], by simp [State.inComment]⟩
  | blockComment start =>
    simp only [step]
    split_ifs <;> exact ⟨by simp, by simp [State.inComment], by simp [State.inComment]⟩

/-- After every character, and after the whole text, the state says what is open and how much has
been read of it, and the region of the character is that between two states. -/
theorem cursor_follows_text (track : Bool) (text : Text) :
    (∀ seen last rest, snapshots track text = seen ++ last :: rest →
      text[seen.length]? = some last.char ∧ last.state.position = seen.length ∧
        State.Follows track text (seen ++ [last]) last.state ∧
        RegionFits (stateAfter seen) last.state last.region) ∧
      (finalState track text).position = text.length ∧
      State.Follows track text (snapshots track text) (finalState track text) ∧
      snapshots track text = (marks track text).map .ofMark ∧
      finalState track text = .ofCursor (final track text) := by
  refine ⟨?_, ?_, ?_, snapshots_eq track text, finalState_eq track text⟩
  · intro seen last rest h
    rw [snapshots_eq] at h
    obtain ⟨seen, tail, hmarks, rfl, htail⟩ := List.map_eq_append_iff.mp h
    obtain ⟨mark, rest, rfl, rfl, rfl⟩ := List.map_eq_cons_iff.mp htail
    obtain ⟨hposition, before?, hstep⟩ := marksFrom_split hmarks
    have hfollows : Follows track text (seen ++ [mark]) (contextAfter (seen ++ [mark])) :=
      follows_seen rest (by simpa using hmarks)
    rw [contextAfter_concat] at hfollows
    obtain ⟨before, hbefore⟩ := stateAfter_map seen
    have hregion := regionFits_step track (0 + seen.length) before? (contextAfter seen) mark.char
      (rest.map (·.char)).head? before mark.cursor.position
    rw [contextAfter, ← hstep] at hregion
    refine ⟨?_, ?_, ?_, ?_⟩
    · rw [chars_split hmarks]
      simp [Snapshot.ofMark]
    · rw [List.length_map]
      exact hposition.trans (Nat.zero_add _)
    · have hstate := hfollows.state mark.cursor.position
      rwa [List.map_append] at hstate
    · rw [hbefore]
      exact hregion
  · rw [finalState_eq, final, finalFrom_eq]
    exact Nat.zero_add _
  · have hcontext : (final track text).context = contextAfter (marks track text) := by
      rw [final, finalFrom_eq]
      rfl
    have hfollows : Follows track text (marks track text) (final track text).context :=
      hcontext ▸ follows_seen [] (List.append_nil _).symm
    rw [finalState_eq, snapshots_eq]
    exact hfollows.state (final track text).position

end SourceText.Scan
