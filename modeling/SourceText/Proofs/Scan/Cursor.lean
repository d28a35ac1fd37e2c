import Mathlib.Data.List.Induction
import SourceText.Scan

/-!
# What the context of a scan remembers

Of all that it has read, a scan keeps a context only. After every character the two switches of the
context say something about all characters since the literal was opened: whether the last of them
ends an odd run of backslashes, and whether the template quotes among them are odd in number
(`Follows`).
-/

namespace SourceText.Scan

/-- The context after some marks of a scan. -/
def contextAfter (seen : List Mark) : Context :=
  (seen.getLast?.map (·.cursor.context)).getD .code

@[simp] theorem contextAfter_concat (seen : List Mark) (mark : Mark) :
    contextAfter (seen ++ [mark]) = mark.cursor.context := by
  simp [contextAfter]

/-! ### The body of a literal -/

/-- The count of backslashes at the end of a literal's body. -/
def backslashRun (body : Text) : Nat := (body.reverse.takeWhile (· == '\\')).length

/-- The count of template quotes in a literal's body that no odd run of backslashes stands before.
-/
def templateQuotes (body : Text) : Nat :=
  (List.range body.length).countP fun i =>
    body[i]?.any isTemplateQuote && backslashRun (body.take i) % 2 == 0

theorem backslashRun_concat (body : Text) (c : Char) :
    backslashRun (body ++ [c]) = if c = '\\' then backslashRun body + 1 else 0 := by
  by_cases hc : c = '\\' <;> simp [backslashRun, hc]

theorem templateQuotes_concat (body : Text) (c : Char) :
    templateQuotes (body ++ [c])
      = templateQuotes body
        + if isTemplateQuote c && backslashRun body % 2 == 0 then 1 else 0 := by
  have hearlier : (List.range body.length).countP (fun i =>
      (body ++ [c])[i]?.any isTemplateQuote && backslashRun ((body ++ [c]).take i) % 2 == 0)
      = templateQuotes body := by
    refine List.countP_congr fun i hi => ?_
    have hlt := List.mem_range.mp hi
    rw [List.getElem?_append_left hlt, List.take_append_of_le_length (Nat.le_of_lt hlt)]
  rw [templateQuotes, List.length_append, List.length_singleton, List.range_succ,
    List.countP_append, hearlier, List.countP_singleton, List.getElem?_concat_length,
    List.take_left, Option.any_some]

/-- The literal that is open after some marks: `quote` opened it, and `body` are the characters
since. -/
def OpenLiteral (seen : List Mark) (quote : Char) (body : Text) : Prop :=
  ∃ before opening inside, seen = before ++ opening :: inside ∧
    (contextAfter before).inLiteral = false ∧ opening.char = quote ∧ isQuote quote = true ∧
    (∀ mark ∈ opening :: inside, mark.cursor.context.inLiteral = true) ∧
    inside.map (·.char) = body

theorem OpenLiteral.concat {seen : List Mark} {quote : Char} {body : Text}
    (h : OpenLiteral seen quote body) (mark : Mark) (hmark : mark.cursor.context.inLiteral = true) :
    OpenLiteral (seen ++ [mark]) quote (body ++ [mark.char]) := by
  obtain ⟨before, opening, inside, rfl, hbefore, hchar, hquote, hinside, rfl⟩ := h
  refine ⟨before, opening, inside ++ [mark], by simp, hbefore, hchar, hquote, ?_, by simp⟩
  intro m hm
  rcases List.mem_append.mp (show m ∈ (opening :: inside) ++ [mark] from hm) with hm | hm
  · exact hinside m hm
  · rw [List.mem_singleton.mp hm]
    exact hmark

/-! ### One character -/

/-- What a context says about the text and the marks up to where it stands. -/
structure Follows (track : Bool) (text : Text) (seen : List Mark) (context : Context) : Prop where
  literal : ∀ quote, context.quote? = some quote → ∃ body, OpenLiteral seen quote body ∧
    (context.escapesNext = true ↔ backslashRun body % 2 = 1) ∧
    (context.inTemplate = true ↔ isTemplateQuote quote = true ∨ templateQuotes body % 2 = 1)
  start : ∀ start, context.blockCommentStart? = some start →
    text[start]? = some '/' ∧ text[start + 1]? = some '*'
  untracked : track = false → context.inLineComment = false ∧ context.inBlockComment = false

theorem Follows.tracked {track : Bool} {text : Text} {seen : List Mark} {context : Context}
    (h : Follows track text seen context) (hcomment : context.inComment = true) : track = true := by
  cases track with
  | true => rfl
  | false =>
    rw [Context.inComment, (h.untracked rfl).1, (h.untracked rfl).2] at hcomment
    exact absurd hcomment Bool.false_ne_true

theorem follows_code (track : Bool) (text : Text) (seen : List Mark) :
    Follows track text seen .code where
  literal := by simp [Context.quote?]
  start := by simp [Context.blockCommentStart?]
  untracked := fun _ => ⟨rfl, rfl⟩

theorem follows_literal (track : Bool) (text : Text) {seen : List Mark} {quote : Char} {body : Text}
    {template escaped : Bool} (hopen : OpenLiteral seen quote body)
    (hescaped : escaped = true ↔ backslashRun body % 2 = 1)
    (htemplate : template = true ↔ isTemplateQuote quote = true ∨ templateQuotes body % 2 = 1) :
    Follows track text seen (.literal quote template escaped) where
  literal := by
    rintro _ ⟨⟩
    exact ⟨body, hopen, hescaped, htemplate⟩
  start := by simp [Context.blockCommentStart?]
  untracked := fun _ => ⟨rfl, rfl⟩

theorem follows_lineComment {track : Bool} (htrack : track = true) (text : Text)
    (seen : List Mark) : Follows track text seen .lineComment where
  literal := by simp [Context.quote?]
  start := by simp [Context.blockCommentStart?]
  untracked := fun h => absurd (h.symm.trans htrack) (by decide)

theorem follows_blockComment {track : Bool} (htrack : track = true) {text : Text} {start : Nat}
    (hslash : text[start]? = some '/') (hstar : text[start + 1]? = some '*') (seen : List Mark) :
    Follows track text seen (.blockComment start) where
  literal := by simp [Context.quote?]
  start := by
    rintro _ ⟨⟩
    exact ⟨hslash, hstar⟩
  untracked := fun h => absurd (h.symm.trans htrack) (by decide)

section Step

variable {track : Bool} {text : Text} {seen : List Mark} {mark : Mark}

theorem follows_literalStep {quote : Char} {body : Text} {template escaped : Bool}
    (hopen : OpenLiteral seen quote body) (hescaped : escaped = true ↔ backslashRun body % 2 = 1)
    (htemplate : template = true ↔ isTemplateQuote quote = true ∨ templateQuotes body % 2 = 1)
    (hcontext : mark.cursor.context = literalStep quote template escaped mark.char) :
    Follows track text (seen ++ [mark]) mark.cursor.context := by
  have hrun := backslashRun_concat body mark.char
  have hcount := templateQuotes_concat body mark.char
  by_cases he : escaped = true
  · -- What is escaped ends no odd run, and is no quote that counts.
    have hodd := hescaped.mp he
    have hnew : mark.cursor.context = .literal quote template false := by
      rw [hcontext, literalStep, if_pos he]
    have hopen' := hopen.concat mark (by rw [hnew]; rfl)
    rw [hnew]
    refine follows_literal track text hopen' (iff_of_false Bool.false_ne_true ?_) ?_
    · rw [hrun]
      split <;> omega
    · rw [hcount, hodd]
      simpa using htemplate
  · have heven : backslashRun body % 2 = 0 := by
      have := mt hescaped.mpr he
      omega
    rw [literalStep, if_neg he] at hcontext
    by_cases hslash : mark.char = '\\'
    · rw [if_pos hslash] at hcontext
      have hopen' := hopen.concat mark (by rw [hcontext]; rfl)
      rw [hcontext]
      refine follows_literal track text hopen' (iff_of_true rfl ?_) ?_
      · rw [hrun, if_pos hslash]
        omega
      · have hplain : isTemplateQuote mark.char = false := by
          rw [hslash]
          rfl
        rw [hcount, hplain, Bool.false_and, if_neg Bool.false_ne_true, Nat.add_zero]
        exact htemplate
    · rw [if_neg hslash] at hcontext
      by_cases hquote : mark.char = quote
      · rw [if_pos hquote] at hcontext
        rw [hcontext]
        exact follows_code track text _
      · rw [if_neg hquote] at hcontext
        have hopen' := hopen.concat mark (by rw [hcontext]; rfl)
        rw [hcontext]
        refine follows_literal track text hopen' (iff_of_false Bool.false_ne_true ?_) ?_
        · rw [hrun, if_neg hslash]
          decide
        · rw [hcount, heven]
          cases hchar : isTemplateQuote mark.char with
          | false => simpa using htemplate
          | true =>
            -- A template quote that does not close the literal is not the one that opened it.
            have hother : isTemplateQuote quote = false := by
              rw [isTemplateQuote, beq_iff_eq] at hchar
              rw [isTemplateQuote, beq_eq_false_iff_ne]
              exact fun h => hquote (hchar.trans h.symm)
            rw [hother] at htemplate ⊢
            simp only [Bool.false_eq_true, false_or] at htemplate ⊢
            cases template with
            | false =>
              have := mt htemplate.mpr Bool.false_ne_true
              simp only [Bool.false_bne, true_iff, beq_self_eq_true, Bool.and_self, if_true]
              omega
            | true =>
              have := htemplate.mp rfl
              simp only [bne_self_eq_false, Bool.false_eq_true, false_iff, beq_self_eq_true,
                Bool.and_self, if_true]
              omega

theorem follows_codeStep {rest : Text} (htext : text = seen.map (·.char) ++ mark.char :: rest)
    (hseen : contextAfter seen = .code)
    (hcontext : mark.cursor.context = (codeStep track seen.length mark.char rest.head?).1) :
    Follows track text (seen ++ [mark]) mark.cursor.context := by
  rw [codeStep] at hcontext
  split at hcontext
  · next h =>
    rw [hcontext]
    simp only [Bool.and_eq_true] at h
    exact follows_lineComment h.1.1 text _
  · split at hcontext
    · next h =>
      simp only [Bool.and_eq_true, beq_iff_eq] at h
      obtain ⟨⟨htrack, hslash⟩, hstar⟩ := h
      obtain ⟨more, rfl⟩ : ∃ more, rest = '*' :: more := by
        cases rest with
        | nil => exact absurd hstar (by simp)
        | cons d more =>
          rw [List.head?_cons, Option.some.injEq] at hstar
          exact ⟨more, by rw [hstar]⟩
      rw [hcontext]
      refine follows_blockComment htrack ?_ ?_ _
      · simp [htext, hslash]
      · simp [htext]
    · split at hcontext
      · next hquote =>
        have hopen : OpenLiteral (seen ++ [mark]) mark.char [] := by
          refine ⟨seen, mark, [], rfl, by rw [hseen]; rfl, rfl, hquote, ?_, rfl⟩
          intro m hm
          rw [List.mem_singleton.mp hm, hcontext]
          rfl
        rw [hcontext]
        exact follows_literal track text hopen (by decide) (by simp [templateQuotes])
      · rw [hcontext]
        exact follows_code track text _

theorem follows_step {rest : Text} {previous? : Option Char}
    (htext : text = seen.map (·.char) ++ mark.char :: rest)
    (hfollows : Follows track text seen (contextAfter seen))
    (hstep : (mark.cursor.context, mark.region)
      = step track seen.length previous? (contextAfter seen) mark.char rest.head?) :
    Follows track text (seen ++ [mark]) mark.cursor.context := by
  cases hseen : contextAfter seen with
  | code =>
    rw [hseen, step] at hstep
    exact follows_codeStep htext hseen (congrArg Prod.fst hstep)
  | literal quote template escaped =>
    rw [hseen] at hfollows hstep
    obtain ⟨body, hopen, hescaped, htemplate⟩ := hfollows.literal quote rfl
    exact follows_literalStep hopen hescaped htemplate (congrArg Prod.fst hstep)
  | lineComment =>
    rw [hseen] at hfollows hstep
    have htrack := hfollows.tracked rfl
    rw [step] at hstep
    split at hstep
    · rw [(Prod.mk.inj hstep).1]
      exact follows_code track text _
    · rw [(Prod.mk.inj hstep).1]
      exact follows_lineComment htrack text _
  | blockComment start =>
    rw [hseen] at hfollows hstep
    have htrack := hfollows.tracked rfl
    obtain ⟨hslash, hstar⟩ := hfollows.start start rfl
    rw [step] at hstep
    split at hstep
    · rw [(Prod.mk.inj hstep).1]
      exact follows_code track text _
    · rw [(Prod.mk.inj hstep).1]
      exact follows_blockComment htrack hslash hstar _

end Step

/-! ### The run -/

/-- Every mark of a scan is a step from the context of the mark before it. -/
theorem marksFrom_split {track : Bool} {previous? : Option Char} {cursor : Cursor} {text : Text}
    {seen rest : List Mark} {mark : Mark}
    (h : marksFrom track previous? cursor text = seen ++ mark :: rest) :
    mark.cursor.position = cursor.position + seen.length ∧
      ∃ before?, (mark.cursor.context, mark.region)
        = step track (cursor.position + seen.length) before?
            ((seen.getLast?.map (·.cursor.context)).getD cursor.context) mark.char
            (rest.map (·.char)).head? := by
  induction seen generalizing previous? cursor text with
  | nil =>
    cases text with
    | nil => exact absurd h (by simp [marksFrom])
    | cons c text =>
      simp only [marksFrom, List.nil_append, List.cons.injEq] at h
      obtain ⟨rfl, rfl⟩ := h
      rw [chars_marksFrom]
      exact ⟨rfl, previous?, rfl⟩
  | cons first seen ih =>
    cases text with
    | nil => exact absurd h (by simp [marksFrom])
    | cons c text =>
      simp only [marksFrom, List.cons_append, List.cons.injEq] at h
      obtain ⟨rfl, htail⟩ := h
      obtain ⟨hposition, before?, hstep⟩ := ih htail
      simp only [List.length_cons, List.getLast?_cons, Option.map_some, Option.getD_some]
      rw [show cursor.position + (seen.length + 1) = cursor.position + 1 + seen.length by omega]
      refine ⟨hposition, before?, hstep.trans ?_⟩
      cases hlast : seen.getLast? with
      | none => rfl
      | some last => rfl

theorem finalFrom_eq (track : Bool) (previous? : Option Char) (cursor : Cursor) (text : Text) :
    finalFrom track previous? cursor text
      = ⟨cursor.position + text.length,
          ((marksFrom track previous? cursor text).getLast?.map (·.cursor.context)).getD
            cursor.context⟩ := by
  induction text generalizing previous? cursor with
  | nil => rfl
  | cons c rest ih =>
    rw [finalFrom, marksFrom]
    simp only [ih, List.getLast?_cons, Option.map_some, Option.getD_some, List.length_cons,
      Nat.add_comm rest.length 1, Nat.add_assoc]
    cases hlast : (marksFrom track (some c) _ rest).getLast? with
    | none => rfl
    | some last => rfl

section Run

variable {track : Bool} {text : Text}

theorem chars_split {seen rest : List Mark} {mark : Mark}
    (h : marks track text = seen ++ mark :: rest) :
    text = seen.map (·.char) ++ mark.char :: rest.map (·.char) := by
  have hchars := congrArg (List.map (·.char)) h
  rwa [marks, chars_marksFrom, List.map_append, List.map_cons] at hchars

theorem follows_seen {seen : List Mark} (rest : List Mark) (h : marks track text = seen ++ rest) :
    Follows track text seen (contextAfter seen) := by
  induction seen using List.reverseRecOn generalizing rest with
  | nil => exact follows_code track text []
  | append_singleton seen mark ih =>
    have hsplit : marks track text = seen ++ mark :: rest := by simpa using h
    obtain ⟨-, before?, hstep⟩ := marksFrom_split hsplit
    rw [Nat.zero_add] at hstep
    rw [contextAfter_concat]
    exact follows_step (chars_split hsplit) (ih _ hsplit) hstep

end Run

end SourceText.Scan
