import SourceText.Record

/-!
# Computations that succeed

What the parts of a computation came to, when the whole of it came to a value.
-/

namespace SourceText

theorem exists_of_map_eq_ok {ε α β : Type} {x : Except ε α} {f : α → β} {b : β}
    (h : x.map f = .ok b) : ∃ a, x = .ok a ∧ f a = b := by
  cases x with
  | error e => exact nomatch h
  | ok a => exact ⟨a, rfl, Except.ok.inj h⟩

theorem exists_of_bind_eq_ok {ε α β : Type} {x : Except ε α} {f : α → Except ε β} {b : β}
    (h : x >>= f = .ok b) : ∃ a, x = .ok a ∧ f a = .ok b := by
  cases x with
  | error e => exact absurd h nofun
  | ok a => exact ⟨a, rfl, h⟩

theorem eq_ok_of_mapError_eq_ok {ε δ α : Type} {x : Except ε α} {f : ε → δ} {a : α}
    (h : x.mapError f = .ok a) : x = .ok a := by
  cases x with
  | error e => exact nomatch h
  | ok b => exact congrArg Except.ok (Except.ok.inj h)

theorem exists_of_any {ε α : Type} {x : Except ε α} {p : α → Bool}
    (h : x.toOption.any p = true) : ∃ a, x = .ok a ∧ p a = true := by
  cases x with
  | error e => exact absurd h Bool.false_ne_true
  | ok a => exact ⟨a, rfl, h⟩

theorem mapM_eq_ok {α β ε : Type} {f : α → Except ε β} {g : α → β} {items : List α}
    (h : ∀ a ∈ items, f a = .ok (g a)) : items.mapM f = .ok (items.map g) := by
  induction items with
  | nil => rfl
  | cons a items ih =>
    rw [List.mapM_cons, h a List.mem_cons_self, ih fun b hb => h b (List.mem_cons_of_mem a hb)]
    rfl

theorem exists_of_mem_mapM {α β ε : Type} {f : α → Except ε β} {items : List α} {made : List β}
    (h : items.mapM f = .ok made) {b : β} (hb : b ∈ made) : ∃ a ∈ items, f a = .ok b := by
  induction items generalizing made with
  | nil =>
    obtain rfl := Except.ok.inj h
    exact absurd hb List.not_mem_nil
  | cons a items ih =>
    rw [List.mapM_cons] at h
    obtain ⟨first, hfirst, hrest⟩ := exists_of_bind_eq_ok h
    obtain ⟨others, hothers, hmade⟩ := exists_of_bind_eq_ok hrest
    obtain rfl := Except.ok.inj hmade
    rcases List.mem_cons.mp hb with rfl | hmem
    · exact ⟨a, List.mem_cons_self, hfirst⟩
    · obtain ⟨a', ha', hf⟩ := ih hothers hmem
      exact ⟨a', List.mem_cons_of_mem a ha', hf⟩

/-- A list is gone through to its end, or up to the first item that fails. -/
theorem mapM_ok_or_first {α β ε : Type} (f : α → Except ε β) (items : List α) :
    (∃ made, items.mapM f = .ok made) ∨ ∃ before item after e, items = before ++ item :: after ∧
      (∀ b ∈ before, ∃ made, f b = .ok made) ∧ f item = .error e := by
  induction items with
  | nil => exact .inl ⟨[], rfl⟩
  | cons item items ih =>
    cases hitem : f item with
    | error e => exact .inr ⟨[], item, items, e, rfl, fun _ h => absurd h List.not_mem_nil, hitem⟩
    | ok made =>
      rcases ih with ⟨others, hothers⟩ | ⟨before, first, after, e, rfl, hbefore, hfirst⟩
      · refine .inl ⟨made :: others, ?_⟩
        rw [List.mapM_cons, hitem, hothers]
        rfl
      · exact .inr ⟨item :: before, first, after, e, rfl,
          List.forall_mem_cons.mpr ⟨⟨made, hitem⟩, hbefore⟩, hfirst⟩

theorem mapM_eq_error {α β ε : Type} {f : α → Except ε β} {before : List α} {item : α} {e : ε}
    (hbefore : ∀ b ∈ before, ∃ made, f b = .ok made) (hitem : f item = .error e) (after : List α) :
    (before ++ item :: after).mapM f = .error e := by
  induction before with
  | nil =>
    rw [List.nil_append, List.mapM_cons, hitem]
    rfl
  | cons b before ih =>
    obtain ⟨⟨made, hb⟩, hothers⟩ := List.forall_mem_cons.mp hbefore
    rw [List.cons_append, List.mapM_cons, hb, ih hothers]
    rfl

/-- What every step of a fold keeps is kept by a fold that succeeds. -/
theorem foldlM_ok_induction {α σ ε : Type} {f : σ → α → Except ε σ} {P : σ → Prop}
    (hstep : ∀ s a s', P s → f s a = .ok s' → P s') {items : List α} {s s' : σ} (hs : P s)
    (h : items.foldlM f s = .ok s') : P s' := by
  induction items generalizing s with
  | nil => exact Except.ok.inj h ▸ hs
  | cons a items ih =>
    rw [List.foldlM_cons] at h
    obtain ⟨next, hnext, hrest⟩ := exists_of_bind_eq_ok h
    exact ih (hstep s a next hs hnext) hrest

/-! ### With a record -/

theorem exists_of_andThen {ε α β : Type} {x : Recorded (Except ε α)}
    {f : α → Recorded (Except ε β)} {b : β} (h : (x.andThen f).value = .ok b) :
    ∃ a, x.value = .ok a ∧ (f a).value = .ok b := by
  rw [Recorded.andThen, Recorded.value_bind] at h
  cases hvalue : x.value with
  | ok a =>
    rw [hvalue] at h
    exact ⟨a, rfl, h⟩
  | error e =>
    rw [hvalue] at h
    exact nomatch h

theorem value_andThen {ε α β : Type} {x : Recorded (Except ε α)} {a : α} (h : x.value = .ok a)
    (f : α → Recorded (Except ε β)) : (x.andThen f).value = (f a).value := by
  rw [Recorded.andThen, Recorded.value_bind, h]

theorem value_andThen_error {ε α β : Type} {x : Recorded (Except ε α)} {e : ε}
    (h : x.value = .error e) (f : α → Recorded (Except ε β)) : (x.andThen f).value = .error e := by
  rw [Recorded.andThen, Recorded.value_bind, h]
  rfl

theorem andThen_pure_ok {ε α : Type} (x : Recorded (Except ε α)) :
    x.andThen (fun a => pure (.ok a)) = x := by
  obtain ⟨value, events⟩ := x
  cases value <;> simp [Recorded.andThen, bind, pure]

end SourceText
