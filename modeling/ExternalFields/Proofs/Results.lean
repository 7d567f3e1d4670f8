import Mathlib.Data.List.Basic
import Mathlib.Tactic.Lemma

/-!
# Computations that succeed or fail

A chain of steps succeeds only if each of its steps does.  `bind_eq_ok`, `map_eq_ok` and
`mapError_eq_ok` take such a chain apart, so that the proofs about readers and injection follow the
steps one by one; `exists_bind_eq_ok` does so where only success matters, and `mapM_eq_ok` and
`filterM_eq_ok` for steps over a list.
`failureOf?` is what a computation fails with, if it does, and `FailsOnly` bounds what that can be.
-/

namespace ExternalFields

variable {ε α β : Type}

/-- A chain succeeds exactly if its first step does and the rest does on what that step gives. -/
lemma bind_eq_ok {x : Except ε α} {f : α → Except ε β} {b : β} :
    (x >>= f) = .ok b ↔ ∃ a, x = .ok a ∧ f a = .ok b := by
  cases x <;> simp [bind, Except.bind]

/-- Changing a result changes nothing about success. -/
lemma map_eq_ok {x : Except ε α} {f : α → β} {b : β} :
    (f <$> x) = .ok b ↔ ∃ a, x = .ok a ∧ f a = b := by
  cases x <;> simp [Functor.map, Except.map]

/-- Changing a failure changes nothing about success. -/
lemma mapError_eq_ok {ε' : Type} {x : Except ε α} {wrap : ε → ε'} {a : α} :
    x.mapError wrap = .ok a ↔ x = .ok a := by
  cases x <;> simp [Except.mapError]

/-- A chain succeeds if its first step does and so does the rest. -/
lemma exists_bind_eq_ok {x : Except ε α} {f : α → Except ε β} :
    (∃ b, (x >>= f) = .ok b) ↔ ∃ a, x = .ok a ∧ ∃ b, f a = .ok b := by
  cases x <;> simp [bind, Except.bind]

lemma exists_map_eq_ok {x : Except ε α} {f : α → β} :
    (∃ b, (f <$> x) = .ok b) ↔ ∃ a, x = .ok a := by
  cases x <;> simp [Functor.map, Except.map]

@[simp] lemma ok_bind (a : α) (f : α → Except ε β) : (Except.ok a >>= f) = f a := rfl

@[simp] lemma error_bind (e : ε) (f : α → Except ε β) : (Except.error e >>= f) = .error e := rfl

@[simp] lemma pure_eq_ok (a : α) : (pure a : Except ε α) = .ok a := rfl

/-- Chains agree if their first steps give the same up to what the rest looks at. -/
lemma bind_congr_of_map {γ : Type} {x y : Except ε α} {g : α → γ} {f h : α → Except ε β}
    (same : g <$> x = g <$> y) (rest : ∀ a b, g a = g b → f a = h b) : (x >>= f) = (y >>= h) := by
  cases x with
  | error e =>
      cases y with
      | error other => cases same; rfl
      | ok b => cases same
  | ok a =>
      cases y with
      | error other => cases same
      | ok b => exact rest a b (Except.ok.inj same)

/-- The failure that a computation ends with, if it fails. -/
def failureOf? : Except ε α → Option ε
  | .error e => some e
  | .ok _ => none

@[simp] lemma failureOf?_eq_some {x : Except ε α} {e : ε} :
    failureOf? x = some e ↔ x = .error e := by
  cases x <;> simp [failureOf?]

lemma failureOf?_eq_none {x : Except ε α} : failureOf? x = none ↔ ∃ a, x = .ok a := by
  cases x <;> simp [failureOf?]

@[simp] lemma failureOf?_map (x : Except ε α) (f : α → β) :
    failureOf? (f <$> x) = failureOf? x := by
  cases x <;> rfl

/-- Results over a list are those of its items, all of which succeed. -/
lemma mapM_eq_ok {f : α → Except ε β} {items : List α} {results : List β}
    (h : items.mapM f = .ok results) : items.map f = results.map .ok := by
  induction items generalizing results with
  | nil =>
      rw [List.mapM_nil] at h
      cases h
      rfl
  | cons item rest ih =>
      simp only [List.mapM_cons, bind_eq_ok, pure_eq_ok] at h
      obtain ⟨first, made, others, made_others, h⟩ := h
      cases h
      rw [List.map_cons, List.map_cons, made, ih made_others]

lemma filterAuxM_eq_ok {p : α → Except ε Bool} : ∀ {items kept chosen : List α},
    items.filterAuxM p kept = .ok chosen → ∃ more : List α, chosen = more.reverse ++ kept
      ∧ more.Sublist items ∧ (∀ item, item ∈ more ↔ item ∈ items ∧ p item = .ok true)
      ∧ ∀ item ∈ items, ∃ fits, p item = .ok fits
  | [], kept, chosen, h => by
      cases h
      exact ⟨[], rfl, .slnil, by simp, by simp⟩
  | item :: rest, kept, chosen, h => by
      simp only [List.filterAuxM, bind_eq_ok] at h
      obtain ⟨fits, tested, h⟩ := h
      obtain ⟨more, rfl, sublist, mem, all_tested⟩ := filterAuxM_eq_ok h
      have tests : ∀ other ∈ item :: rest, ∃ fits, p other = .ok fits := by
        rintro other (_ | ⟨_, there⟩)
        · exact ⟨fits, tested⟩
        · exact all_tested other there
      cases fits with
      | true =>
          refine ⟨item :: more, by simp, sublist.cons_cons item, fun other => ?_, tests⟩
          simp only [List.mem_cons, mem]
          constructor
          · rintro (rfl | ⟨there, fits⟩)
            · exact ⟨.inl rfl, tested⟩
            · exact ⟨.inr there, fits⟩
          · rintro ⟨rfl | there, fits⟩
            · exact .inl rfl
            · exact .inr ⟨there, fits⟩
      | false =>
          refine ⟨more, rfl, sublist.cons item, fun other => ?_, tests⟩
          rw [mem, List.mem_cons]
          refine ⟨fun ⟨there, fits⟩ => ⟨.inr there, fits⟩, ?_⟩
          rintro ⟨rfl | there, fits⟩
          · cases tested.symm.trans fits
          · exact ⟨there, fits⟩

/-- A filter whose tests succeed keeps the items that pass. -/
lemma filterM_eq_ok {p : α → Except ε Bool} {items chosen : List α}
    (h : items.filterM p = .ok chosen) :
    chosen.Sublist items ∧ (∀ item, item ∈ chosen ↔ item ∈ items ∧ p item = .ok true)
      ∧ ∀ item ∈ items, ∃ fits, p item = .ok fits := by
  simp only [List.filterM, bind_eq_ok, pure_eq_ok] at h
  obtain ⟨reversed, kept, h⟩ := h
  cases h
  obtain ⟨more, rfl, sublist, mem, tests⟩ := filterAuxM_eq_ok kept
  rw [List.append_nil, List.reverse_reverse]
  exact ⟨sublist, mem, tests⟩

/-! ## Sorts of failures -/

/-- A computation all of whose failures are of a sort. -/
def FailsOnly (sort : ε → Prop) (x : Except ε α) : Prop := ∀ e, x = .error e → sort e

namespace FailsOnly

variable {sort : ε → Prop}

lemma ok (a : α) : FailsOnly sort (.ok a : Except ε α) := by
  rintro e ⟨⟩

lemma error {e : ε} (of_sort : sort e) : FailsOnly sort (.error e : Except ε α) := by
  rintro _ ⟨⟩
  exact of_sort

/-- The failures of a chain are those of its steps. -/
lemma bind {x : Except ε α} {f : α → Except ε β} (step : FailsOnly sort x)
    (rest : ∀ a, x = .ok a → FailsOnly sort (f a)) : FailsOnly sort (x >>= f) := by
  cases x with
  | error e => exact error (step e rfl)
  | ok a => exact rest a rfl

lemma map {x : Except ε α} (step : FailsOnly sort x) (f : α → β) : FailsOnly sort (f <$> x) := by
  rw [map_eq_pure_bind]
  exact step.bind fun a _ => ok (f a)

lemma mapError {ε' : Type} {x : Except ε' α} {wrap : ε' → ε}
    (steps : ∀ e, x = .error e → sort (wrap e)) : FailsOnly sort (x.mapError wrap) := by
  cases x with
  | error e => exact error (steps e rfl)
  | ok a => exact ok a

lemma mono {other : ε → Prop} {x : Except ε α} (step : FailsOnly sort x)
    (wider : ∀ e, sort e → other e) : FailsOnly other x :=
  fun e failed => wider e (step e failed)

/-- The failures of steps over a list are those of the steps. -/
lemma mapM {f : α → Except ε β} {items : List α} (steps : ∀ item ∈ items, FailsOnly sort (f item)) :
    FailsOnly sort (items.mapM f) := by
  induction items with
  | nil => exact ok []
  | cons item rest ih =>
      rw [List.mapM_cons]
      refine (steps item List.mem_cons_self).bind fun first _ => ?_
      refine (ih fun other there => steps other (List.mem_cons_of_mem item there)).bind fun _ _ => ?_
      exact ok _

lemma forIn {f : α → β → Except ε (ForInStep β)} : ∀ {items : List α} {b : β},
    (∀ item ∈ items, ∀ b, FailsOnly sort (f item b)) → FailsOnly sort (ForIn.forIn items b f)
  | [], b, _ => ok b
  | item :: rest, b, steps => by
      rw [List.forIn_cons]
      refine (steps item List.mem_cons_self b).bind fun step _ => ?_
      cases step with
      | done b => exact ok b
      | yield b => exact forIn fun other there => steps other (List.mem_cons_of_mem item there)

lemma filterAuxM {p : α → Except ε Bool} : ∀ {items kept : List α},
    (∀ item ∈ items, FailsOnly sort (p item)) → FailsOnly sort (items.filterAuxM p kept)
  | [], kept, _ => ok kept
  | item :: rest, kept, steps => by
      rw [List.filterAuxM]
      refine (steps item List.mem_cons_self).bind fun _ _ => ?_
      exact filterAuxM fun other there => steps other (List.mem_cons_of_mem item there)

lemma filterM {p : α → Except ε Bool} {items : List α}
    (steps : ∀ item ∈ items, FailsOnly sort (p item)) : FailsOnly sort (items.filterM p) :=
  (filterAuxM steps).bind fun _ _ => ok _

end FailsOnly

/-- A list that passes the check for emptiness is not empty. -/
lemma ne_nil_of_checked {e : ε} {items list : List α}
    (checked : (if items.isEmpty then Except.error e else .ok items) = .ok list) : list ≠ [] := by
  split at checked
  · cases checked
  · next present =>
      cases checked
      simpa using present

end ExternalFields
