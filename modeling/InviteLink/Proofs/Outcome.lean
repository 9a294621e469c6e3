set_option autoImplicit false

/-! # Outcomes

When a step that may fail gives a value, and when a fault: after a function on its value or on its
fault, in front of another step, and in a list of steps. A reader is opened by these laws from the
outside in, without looking at the faults that it does not speak of. -/

namespace InviteLink

variable {ε ε' α β : Type}

theorem map_eq_error_iff {f : α → β} {x : Except ε α} {e : ε} :
    x.map f = .error e ↔ x = .error e := by
  cases x <;> simp [Except.map]

@[simp] theorem mapError_eq_ok_iff {f : ε → ε'} {x : Except ε α} {a : α} :
    x.mapError f = .ok a ↔ x = .ok a := by
  cases x with
  | error e => exact ⟨nofun, nofun⟩
  | ok b =>
      show (Except.ok b : Except ε' α) = .ok a ↔ _
      simp only [Except.ok.injEq]

@[simp] theorem mapError_eq_error_iff {f : ε → ε'} {x : Except ε α} {e' : ε'} :
    x.mapError f = .error e' ↔ ∃ e, x = .error e ∧ f e = e' := by
  cases x with
  | error e =>
      show (Except.error (f e) : Except ε' α) = .error e' ↔ _
      simp only [Except.error.injEq, exists_eq_left']
  | ok b =>
      constructor
      · exact nofun
      · rintro ⟨e, h, -⟩
        cases h

/-- There is a fault just when there is no value. -/
theorem exists_eq_error_iff {x : Except ε α} : (∃ e, x = .error e) ↔ ¬∃ a, x = .ok a := by
  cases x <;> simp

/-! ## That there is a value -/

theorem exists_map_eq_ok_iff {f : α → β} {x : Except ε α} :
    (∃ b, x.map f = .ok b) ↔ ∃ a, x = .ok a := by
  cases x <;> simp [Except.map]

theorem map_eq_ok_iff {f : α → β} {x : Except ε α} {b : β} :
    x.map f = .ok b ↔ ∃ a, x = .ok a ∧ f a = b := by
  cases x <;> simp [Except.map]

theorem bind_eq_ok_iff {x : Except ε α} {f : α → Except ε β} {b : β} :
    x.bind f = .ok b ↔ ∃ a, x = .ok a ∧ f a = .ok b := by
  cases x <;> simp [Except.bind]

theorem exists_bind_eq_ok_iff {x : Except ε α} {f : α → Except ε β} :
    (∃ b, x.bind f = .ok b) ↔ ∃ a, x = .ok a ∧ ∃ b, f a = .ok b := by
  cases x <;> simp [Except.bind]

/-- Every value of a list of steps is that of one of them. -/
theorem exists_of_mem_mapM {f : α → Except ε β} {xs : List α} {ys : List β}
    (h : xs.mapM f = .ok ys) {y : β} (hy : y ∈ ys) : ∃ x ∈ xs, f x = .ok y := by
  induction xs generalizing ys with
  | nil =>
      cases h
      cases hy
  | cons x xs ih =>
      rw [List.mapM_cons] at h
      obtain ⟨y', hy', h⟩ := bind_eq_ok_iff.1 h
      obtain ⟨ys', hys', h⟩ := bind_eq_ok_iff.1 h
      cases h
      obtain rfl | hy := List.mem_cons.1 hy
      · exact ⟨x, List.mem_cons_self, hy'⟩
      · obtain ⟨x', hx', hstep⟩ := ih hys' hy
        exact ⟨x', List.mem_cons_of_mem _ hx', hstep⟩

theorem exists_mapM_eq_ok_iff {f : α → Except ε β} {xs : List α} :
    (∃ ys, xs.mapM f = .ok ys) ↔ ∀ x ∈ xs, ∃ y, f x = .ok y := by
  induction xs with
  | nil => simp [pure, Except.pure]
  | cons x xs ih =>
      rw [List.mapM_cons, List.forall_mem_cons, ← ih]
      cases f x <;> cases xs.mapM f <;> simp [bind, Except.bind, pure, Except.pure]

end InviteLink
