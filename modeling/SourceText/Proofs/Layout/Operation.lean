import Mathlib.Data.List.Induction
import SourceText.Proofs.Layout.Writing

/-!
# Operations of the writer in any order

The writer puts punctuation behind its latest line and looks at the latest character that it has
gathered. Both have to be there. What guarantees it is kept by every operation, in whatever order
the operations come and whatever their characters are (`foldl_perform_upholds`): while the writer is
behind a closing bracket, its latest line is that of the bracket.
-/

namespace SourceText.Layout

/-- Something that the writer can be told to do. -/
inductive Operation where
  | append (c : Char)
  | appendLiteral (c : Char)
  | flush
  | openBlock (c : Char)
  | closeBlock (c : Char)
  | endStatement
  deriving DecidableEq, Repr

namespace Operation

/-- Whether a block is opened or closed. -/
def isBlock : Operation → Bool
  | openBlock _ => true
  | closeBlock _ => true
  | _ => false

/-- The count of open blocks after an operation. There is none to close when none is open. -/
def blocks (opened : Nat) : Operation → Nat
  | openBlock _ => opened + 1
  | closeBlock _ => opened - 1
  | _ => opened

/-- What a character of a scanned text tells the writer to do. -/
def ofMark : Char × Region → Operation
  | (c, .code) =>
    if isOpener c then openBlock c
    else if isCloser c then closeBlock c
    else if c = ';' then endStatement
    else if isLineBreak c then flush
    else append c
  | (c, _) => appendLiteral c

end Operation

/-- The count of open blocks after some operations. -/
def openBlocks (ops : List Operation) : Nat := ops.foldl Operation.blocks 0

namespace Writer

/-- Does what the writer is told. -/
def perform (w : Writer) : Operation → Writer
  | .append c => w.append c
  | .appendLiteral c => w.appendLiteral c
  | .flush => w.flush
  | .openBlock c => w.openBlock c
  | .closeBlock c => w.closeBlock c
  | .endStatement => w.endStatement

/-- Puts a character behind the latest line; `none` when there is no line. -/
def extendLast? (w : Writer) (c : Char) : Option Writer :=
  match w.written with
  | [] => none
  | line :: earlier => some { w with written := (line ++ [c]) :: earlier }

/-- Whether the latest gathered character is blank; `none` when there is no character. -/
def endsBlank? (w : Writer) : Option Bool := w.gathered.head?.map isBlank

/-- Does what the writer is told; `none` when it would look for a line or a character that is not
there. -/
def perform? (w : Writer) : Operation → Option Writer
  | .append c =>
    if w.afterCloser && !isBlank c then
      if isTrailing c && w.pending.isEmpty then w.extendLast? c
      else some { w.gather c with afterCloser := false }
    else some (w.gather c)
  | .appendLiteral c => some (w.appendLiteral c)
  | .flush => some w.flush
  | .openBlock c => do
    let line ←
      if w.pending.isEmpty then some [c]
      else (w.endsBlank?).map fun spaced => attachOpener w.pending c spaced
    some { w.emit line with gathered := [], depth := w.depth.indent, afterCloser := false }
  | .closeBlock c => some (w.closeBlock c)
  | .endStatement =>
    if w.afterCloser && w.pending.isEmpty then
      (w.extendLast? ';').map fun extended => { extended with gathered := [] }
    else some (w.gather ';').flush

theorem take_eq_perform (w : Writer) (mark : Char × Region) :
    w.take mark = w.perform (Operation.ofMark mark) := by
  obtain ⟨c, region⟩ := mark
  cases region with
  | code =>
    simp only [take, Operation.ofMark]
    split_ifs <;> rfl
  | literal => rfl
  | comment => rfl

end Writer

/-- What holds of a writer after some operations. -/
structure Upholds (unit : Text) (ops : List Operation) (w : Writer) : Prop where
  same_unit : w.unit = unit
  /-- The depth is the count of open blocks, so that it is never below zero. -/
  level : w.depth.level = openBlocks ops
  /-- Behind a closing bracket the latest line is that of the bracket: its margin, the character
  that closed the latest block, and nothing but punctuation. -/
  line : w.afterCloser = true → ∃ closer trailing,
    (ops.filter Operation.isBlock).getLast? = some (.closeBlock closer) ∧
    w.lines.getLast? = some (w.depth.margin unit ++ closer :: trailing) ∧
    ∀ c ∈ trailing, isTrailing c = true
  /-- Only blanks have been gathered since. -/
  blank : w.afterCloser = true → w.buffer.isAllBlank = true

/-! ### Blocks -/

theorem openBlocks_concat (ops : List Operation) (op : Operation) :
    openBlocks (ops ++ [op]) = op.blocks (openBlocks ops) := by
  rw [openBlocks, List.foldl_append]
  rfl

theorem filter_isBlock_concat {op : Operation} (h : op.isBlock = false) (ops : List Operation) :
    (ops ++ [op]).filter Operation.isBlock = ops.filter Operation.isBlock := by
  rw [List.filter_append, List.filter_singleton, h]
  exact List.append_nil _

theorem blocks_of_not_isBlock {op : Operation} (h : op.isBlock = false) (opened : Nat) :
    op.blocks opened = opened := by
  cases op with
  | openBlock c => exact absurd h nofun
  | closeBlock c => exact absurd h nofun
  | _ => rfl

/-! ### Parts of operations -/

theorem pending_of_blank {w : Writer} (h : w.buffer.isAllBlank = true) :
    w.pending.isEmpty = true := by
  rw [Writer.pending, Text.trim_of_isAllBlank h]
  rfl

theorem gathered_ne_nil {w : Writer} (h : w.pending.isEmpty = false) : w.gathered ≠ [] := by
  intro hnil
  have hblank : w.buffer.isAllBlank = true := by
    rw [Writer.buffer, hnil]
    rfl
  exact absurd (pending_of_blank hblank) (by rw [h]; exact Bool.false_ne_true)

theorem gathered_flush (w : Writer) : w.flush.gathered = [] := by
  rw [Writer.flush]
  split <;> rfl

/-- Ending a line leaves the depth as it is, and the writer is not behind a closing bracket unless
it was. -/
theorem flush_keeps (w : Writer) :
    w.flush.unit = w.unit ∧ w.flush.depth = w.depth ∧
      (w.afterCloser = false → w.flush.afterCloser = false) := by
  rw [Writer.flush]
  split
  · exact ⟨rfl, rfl, id⟩
  · exact ⟨rfl, rfl, fun _ => rfl⟩

/-! ### One operation -/

section Upholds

variable {unit : Text} {ops : List Operation} {w : Writer}

/-- A writer that is not behind a closing bracket has only its depth to keep. -/
theorem upholds_of_apart (hunit : w.unit = unit) (hlevel : w.depth.level = openBlocks ops)
    (hapart : w.afterCloser = false) : Upholds unit ops w := by
  refine ⟨hunit, hlevel, fun hcloser => ?_, fun hcloser => ?_⟩
  all_goals
    rw [hapart] at hcloser
    exact absurd hcloser Bool.false_ne_true

theorem upholds_start (unit : Text) : Upholds unit [] { unit } := upholds_of_apart rfl rfl rfl

namespace Upholds

variable (h : Upholds unit ops w)

include h

theorem written_ne_nil (hcloser : w.afterCloser = true) : w.written ≠ [] := by
  obtain ⟨closer, trailing, -, hline, -⟩ := h.line hcloser
  intro hnil
  rw [Writer.lines, hnil] at hline
  exact absurd hline.symm (Option.some_ne_none _)

/-- An operation that neither opens nor closes a block is nothing to a writer that it leaves alone.
-/
theorem idle {op : Operation} (hop : op.isBlock = false) : Upholds unit (ops ++ [op]) w := by
  refine ⟨h.same_unit, ?_, fun hcloser => ?_, h.blank⟩
  · rw [openBlocks_concat, blocks_of_not_isBlock hop, h.level]
  · rw [filter_isBlock_concat hop]
    exact h.line hcloser

/-- Away from closing brackets anything may be gathered. -/
theorem apart (gathered : Text) : Upholds unit ops { w with gathered, afterCloser := false } :=
  upholds_of_apart h.same_unit h.level rfl

/-- Behind a closing bracket blanks may be gathered or dropped. -/
theorem regather {gathered : Text}
    (hblank : w.afterCloser = true → Text.isAllBlank gathered.reverse = true) :
    Upholds unit ops { w with gathered } :=
  ⟨h.same_unit, h.level, h.line, hblank⟩

/-- Punctuation is put behind the line of a closing bracket. -/
theorem extendLast (hcloser : w.afterCloser = true) {c : Char} (hc : isTrailing c = true) :
    Upholds unit ops (w.extendLast c) := by
  obtain ⟨closer, trailing, hlatest, hline, htrailing⟩ := h.line hcloser
  obtain ⟨line, earlier, hwritten⟩ := List.exists_cons_of_ne_nil (h.written_ne_nil hcloser)
  have hextend : w.extendLast c = { w with written := (line ++ [c]) :: earlier } := by
    rw [Writer.extendLast, hwritten]
  have hlast : line = w.depth.margin unit ++ closer :: trailing := by
    rw [Writer.lines, hwritten, List.reverse_cons, List.getLast?_concat] at hline
    exact Option.some.inj hline
  rw [hextend]
  refine ⟨h.same_unit, h.level, fun _ => ⟨closer, trailing ++ [c], hlatest, ?_, ?_⟩, h.blank⟩
  · rw [Writer.lines, List.reverse_cons, List.getLast?_concat, hlast, List.append_assoc,
      List.cons_append]
  · intro d hd
    rcases List.mem_append.mp hd with hd | hd
    · exact htrailing d hd
    · rw [List.mem_singleton.mp hd]
      exact hc

theorem append (c : Char) : Upholds unit (ops ++ [.append c]) (w.append c) := by
  have hidle : Upholds unit (ops ++ [.append c]) w := h.idle rfl
  rw [Writer.append]
  cases hcloser : w.afterCloser with
  | false =>
    rw [Bool.false_and, if_neg Bool.false_ne_true]
    exact hidle.regather fun htrue => absurd (hcloser.symm.trans htrue) Bool.false_ne_true
  | true =>
    cases hc : isBlank c with
    | true =>
      refine hidle.regather fun _ => ?_
      rw [List.reverse_cons]
      exact Text.isAllBlank_append (h.blank hcloser) (by simpa [Text.isAllBlank] using hc)
    | false =>
      rw [Bool.not_false, Bool.and_self, if_pos rfl]
      split
      · next htrailing => exact hidle.extendLast hcloser (Bool.and_eq_true_iff.mp htrailing).1
      · exact hidle.apart (c :: w.gathered)

theorem appendLiteral (c : Char) : Upholds unit (ops ++ [.appendLiteral c]) (w.appendLiteral c) :=
  (h.idle rfl).apart (c :: w.gathered)

/-- Ending the gathered line is nothing to the line of a closing bracket. -/
theorem flushed : Upholds unit ops w.flush := by
  cases hcloser : w.afterCloser with
  | false =>
    obtain ⟨hunit, hdepth, hapart⟩ := flush_keeps w
    exact upholds_of_apart (hunit.trans h.same_unit) (hdepth ▸ h.level) (hapart hcloser)
  | true =>
    rw [flush_of_blank (h.blank hcloser)]
    exact h.regather fun _ => rfl

theorem openBlock (c : Char) : Upholds unit (ops ++ [.openBlock c]) (w.openBlock c) := by
  refine upholds_of_apart h.same_unit ?_ rfl
  show w.depth.level + 1 = _
  rw [openBlocks_concat, h.level, Operation.blocks]
  omega

theorem closeBlock (c : Char) : Upholds unit (ops ++ [.closeBlock c]) (w.closeBlock c) := by
  have hflushed := h.flushed
  refine ⟨hflushed.same_unit, ?_, fun _ => ⟨c, [], ?_, ?_, nofun⟩, fun _ => ?_⟩
  · show max 0 (w.flush.depth.level - 1) = _
    rw [openBlocks_concat, hflushed.level, Operation.blocks]
    omega
  · rw [List.filter_append, List.getLast?_append]
    rfl
  · show (Writer.emit { w.flush with depth := w.flush.depth.dedent } [c]).lines.getLast? = _
    rw [lines_emit, List.getLast?_concat, ← hflushed.same_unit]
    rfl
  · show w.flush.buffer.isAllBlank = true
    rw [Writer.buffer, gathered_flush]
    rfl

theorem endStatement : Upholds unit (ops ++ [.endStatement]) w.endStatement := by
  have hidle : Upholds unit (ops ++ [.endStatement]) w := h.idle rfl
  rw [Writer.endStatement]
  cases hcloser : w.afterCloser with
  | true =>
    rw [Bool.true_and, if_pos (pending_of_blank (h.blank hcloser))]
    exact (hidle.extendLast hcloser rfl).regather fun _ => rfl
  | false =>
    rw [Bool.false_and, if_neg Bool.false_ne_true]
    exact (hidle.regather fun htrue => absurd (hcloser.symm.trans htrue) Bool.false_ne_true).flushed

theorem perform (op : Operation) : Upholds unit (ops ++ [op]) (w.perform op) := by
  cases op with
  | append c => exact h.append c
  | appendLiteral c => exact h.appendLiteral c
  | flush => exact (h.idle rfl).flushed
  | openBlock c => exact h.openBlock c
  | closeBlock c => exact h.closeBlock c
  | endStatement => exact h.endStatement

/-! ### Nothing is looked for that is not there -/

theorem extendLast?_eq (hcloser : w.afterCloser = true) (c : Char) :
    w.extendLast? c = some (w.extendLast c) := by
  obtain ⟨line, earlier, hwritten⟩ := List.exists_cons_of_ne_nil (h.written_ne_nil hcloser)
  rw [Writer.extendLast?, Writer.extendLast, hwritten]

theorem perform?_eq (op : Operation) : w.perform? op = some (w.perform op) := by
  cases op with
  | append c =>
    simp only [Writer.perform?, Writer.perform, Writer.append]
    split
    · next hclosed =>
      split
      · exact h.extendLast?_eq (Bool.and_eq_true_iff.mp hclosed).1 c
      · rfl
    · rfl
  | openBlock c =>
    simp only [Writer.perform?, Writer.perform, Writer.openBlock]
    cases hpending : w.pending.isEmpty with
    | true => rfl
    | false =>
      obtain ⟨d, gathered, hgathered⟩ := List.exists_cons_of_ne_nil (gathered_ne_nil hpending)
      rw [Writer.endsBlank?, hgathered]
      rfl
  | endStatement =>
    simp only [Writer.perform?, Writer.perform, Writer.endStatement]
    split
    · next hclosed =>
      rw [h.extendLast?_eq (Bool.and_eq_true_iff.mp hclosed).1 ';']
      rfl
    · rfl
  | appendLiteral c => rfl
  | flush => rfl
  | closeBlock c => rfl

end Upholds

end Upholds

/-! ### Any operations in any order -/

section Run

variable (unit : Text) (ops : List Operation)

theorem foldl_perform_concat (w : Writer) (op : Operation) :
    (ops ++ [op]).foldl Writer.perform w = (ops.foldl Writer.perform w).perform op := by
  rw [List.foldl_append]
  rfl

theorem upholds_foldl : Upholds unit ops (ops.foldl Writer.perform { unit }) := by
  induction ops using List.reverseRecOn with
  | nil => exact upholds_start unit
  | append_singleton ops op ih =>
    rw [foldl_perform_concat]
    exact ih.perform op

theorem foldlM_perform? :
    ops.foldlM Writer.perform? { unit } = some (ops.foldl Writer.perform { unit }) := by
  induction ops using List.reverseRecOn with
  | nil => rfl
  | append_singleton ops op ih =>
    rw [foldl_perform_concat, List.foldlM_append, ih, Option.bind_eq_bind, Option.bind_some,
      List.foldlM_cons, (upholds_foldl unit ops).perform?_eq op]
    rfl

/-- After any operations the depth is the count of open blocks, a writer behind a closing bracket
has the line of that bracket as its latest one and nothing but blanks gathered, and no operation has
looked for a line or a character that was not there. -/
theorem foldl_perform_upholds :
    Upholds unit ops (ops.foldl Writer.perform { unit }) ∧
      ops.foldlM Writer.perform? { unit } = some (ops.foldl Writer.perform { unit }) :=
  ⟨upholds_foldl unit ops, foldlM_perform? unit ops⟩

/-- A layout is such a run, with the end of the last line as its last operation. -/
theorem upholds_layout (text : Text) :
    Upholds unit ((scan true text).map Operation.ofMark ++ [Operation.flush]) (layout unit text) := by
  have htake : Writer.take = fun w mark => w.perform (Operation.ofMark mark) :=
    funext₂ Writer.take_eq_perform
  have hrun : layout unit text
      = ((scan true text).map Operation.ofMark ++ [Operation.flush]).foldl Writer.perform
        { unit } := by
    rw [foldl_perform_concat, List.foldl_map, layout, htake]
    rfl
  rw [hrun]
  exact upholds_foldl unit _

end Run

/-- Closing more blocks than were opened leaves the depth at zero. Punctuation goes behind the last
of them, whichever character closed it. -/
example :
    ([.openBlock 'x', .closeBlock 'y', .closeBlock '}', .append ' ', .flush, .append ',',
      .endStatement].foldl Writer.perform {}).lines = [['x'], ['y'], ['}', ',', ';']] := by
  decide

end SourceText.Layout
