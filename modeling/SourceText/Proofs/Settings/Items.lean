import SourceText.Proofs.Text.Split
import SourceText.Settings.Environment

/-!
# Items between commas

A list is written into a variable as items with commas between them. Blanks around an item and slots
without one mean nothing, so a text gives some items just when it is one of their layouts
(`parseItems_reads_slots`).
-/

namespace SourceText.Settings
open Text

/-- What can be an item: a text without a comma in it and without blanks at its ends. -/
structure IsItem (item : Text) : Prop where
  solid : Solid item
  unseparated : ',' ∉ item

/-- The slots of a layout of some items: each item has one in which blanks may stand around it, and
there may be blank ones anywhere. -/
inductive Slots : (items slots : List Text) → Prop where
  | nil : Slots [] []
  | blank {items slots : List Text} {blanks : Text} :
    blanks.isAllBlank = true → Slots items slots → Slots items (blanks :: slots)
  | item {items slots : List Text} {item before after : Text} :
    IsItem item → before.isAllBlank = true → after.isAllBlank = true → Slots items slots →
    Slots (item :: items) ((before ++ item ++ after) :: slots)

theorem IsItem.isEmpty {item : Text} (h : IsItem item) : item.isEmpty = false :=
  List.isEmpty_eq_false_iff.mpr h.solid.ne_nil

theorem comma_not_mem_of_isAllBlank {blanks : Text} (h : blanks.isAllBlank = true) :
    ',' ∉ blanks := by
  intro hmem
  have hcomma : isBlank ',' = true := List.all_eq_true.mp h ',' hmem
  exact absurd hcomma (by decide)

/-! ### From slots to items -/

section Slots

variable {items slots : List Text}

theorem Slots.unseparated (h : Slots items slots) : ∀ slot ∈ slots, ',' ∉ slot := by
  induction h with
  | nil => simp
  | blank hblanks _ ih =>
    intro slot hslot
    rcases List.mem_cons.mp hslot with rfl | hslot
    · exact comma_not_mem_of_isAllBlank hblanks
    · exact ih slot hslot
  | item hitem hbefore hafter _ ih =>
    intro slot hslot
    rcases List.mem_cons.mp hslot with rfl | hslot
    · simp only [List.mem_append, not_or]
      exact ⟨⟨comma_not_mem_of_isAllBlank hbefore, hitem.unseparated⟩,
        comma_not_mem_of_isAllBlank hafter⟩
    · exact ih slot hslot

theorem Slots.isItem (h : Slots items slots) : ∀ item ∈ items, IsItem item := by
  induction h with
  | nil => simp
  | blank _ _ ih => exact ih
  | item hitem _ _ _ ih =>
    intro item hmem
    rcases List.mem_cons.mp hmem with rfl | hmem
    · exact hitem
    · exact ih item hmem

/-- Trimming the slots and leaving out the empty ones gives the items. -/
theorem Slots.filter_map_trim (h : Slots items slots) :
    (slots.map trim).filter (!·.isEmpty) = items := by
  induction h with
  | nil => rfl
  | blank hblanks _ ih =>
    rw [List.map_cons, trim_of_isAllBlank hblanks]
    exact ih
  | item hitem hbefore hafter _ ih =>
    rw [List.map_cons, trim_of_solid hbefore hitem.solid hafter, List.filter_cons, hitem.isEmpty, ih]
    rfl

theorem Slots.parseItems_join (h : Slots items slots) : parseItems (join [','] slots) = items := by
  cases slots with
  | nil =>
    cases h
    rfl
  | cons slot slots =>
    have hsplit : splitOn (· = ',') (join [','] (slot :: slots)) = slot :: slots := by
      refine splitOn_join (by decide) (List.cons_ne_nil slot slots) fun piece hpiece c hc => ?_
      rw [decide_eq_false_iff_not]
      rintro rfl
      exact h.unseparated piece hpiece hc
    rw [parseItems, hsplit, h.filter_map_trim]

end Slots

/-! ### From a text to slots -/

/-- The pieces between commas are the slots of the items that are read from them. -/
theorem slots_of_unseparated {pieces : List Text} (h : ∀ piece ∈ pieces, ',' ∉ piece) :
    Slots ((pieces.map trim).filter (!·.isEmpty)) pieces := by
  induction pieces with
  | nil => exact .nil
  | cons piece pieces ih =>
    have hrest := ih fun p hp => h p (List.mem_cons_of_mem piece hp)
    obtain ⟨before, after, hbefore, hafter, hpiece⟩ := exists_trim_append piece
    rw [List.map_cons]
    rcases trim_eq_nil_or_solid piece with hnil | hsolid
    · rw [hnil, List.filter_cons_of_neg (by decide)]
      exact .blank ((trim_eq_nil_iff piece).mp hnil) hrest
    · have hitem : IsItem piece.trim := by
        refine ⟨hsolid, fun hmem => h piece (List.mem_cons_self ..) ?_⟩
        rw [hpiece]
        exact List.mem_append_left _ (List.mem_append_right _ hmem)
      have hslots := Slots.item hitem hbefore hafter hrest
      rw [← hpiece] at hslots
      rw [List.filter_cons, hitem.isEmpty]
      exact hslots

theorem slots_parseItems (text : Text) : Slots (parseItems text) (splitOn (· = ',') text) := by
  refine slots_of_unseparated fun piece hpiece hmem => ?_
  have hother := unseparated_of_mem_splitOn text piece hpiece ',' hmem
  exact absurd hother (by decide)

theorem slots_of_items {items : List Text} (h : ∀ item ∈ items, IsItem item) :
    Slots items items := by
  induction items with
  | nil => exact .nil
  | cons item items ih =>
    have hrest := ih fun i hi => h i (List.mem_cons_of_mem item hi)
    have hslots : Slots (item :: items) (([] ++ item ++ []) :: items) :=
      .item (h item (List.mem_cons_self ..)) rfl rfl hrest
    rwa [List.nil_append, List.append_nil] at hslots

/-- A text gives some items just when it is a layout of them. What it gives are items, and they are
read back from the text that they make with commas between them. -/
theorem parseItems_reads_slots (text : Text) (items : List Text) :
    (parseItems text = items ↔ ∃ slots, Slots items slots ∧ text = join [','] slots) ∧
      (∀ item ∈ parseItems text, IsItem item) ∧
      parseItems (join [','] (parseItems text)) = parseItems text := by
  have hslots := slots_parseItems text
  refine ⟨⟨?_, ?_⟩, hslots.isItem, (slots_of_items hslots.isItem).parseItems_join⟩
  · rintro rfl
    exact ⟨splitOn (· = ',') text, hslots, (join_splitOn ',' text).symm⟩
  · rintro ⟨slots, h, rfl⟩
    exact h.parseItems_join

/-- Blanks of any script mean nothing around an item, and are kept inside it. -/
example : parseItems " a b\u3000,, \t,c,".toList = ["a b".toList, "c".toList] := by decide

end SourceText.Settings
