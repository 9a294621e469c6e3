import InviteLink.Log.Traced
import InviteLink.Proofs.Outcome

set_option autoImplicit false

/-! # Refusals of traced computations

A step after the other is refused where the first step is, or where the second is after the first
gave a value (`refusedAs_bind`). With one such law for each way to build a computation, the class
of a refusal is read off the text of a definition. The same goes for what is logged on the way: a
stage logs nothing but a notice of the cause for which it refuses (`Notices`), and so does one such
stage after the other (`Notices.bind`). -/

namespace InviteLink

/-- What the stage that refuses logs of a cause before anyone else does; `size` is the number of
    octets where octets are what it refuses. -/
def Refusal.notice (size : Nat) : Refusal → List Event
  | .unshareable t => [.groupRefused t]
  | .unsupportedFraming tag => [.unsupportedFraming tag]
  | .unknownTag tag => [.unknownTag tag]
  | .malformedBlob f => [.blobRejected size f]
  | _ => []

namespace Traced

variable {α β : Type}

/-- The computation ends in a refusal of the class. -/
def RefusedAs (x : Traced Refusal α) (c : RefusalClass) : Prop :=
  ∃ e, x.outcome = .error e ∧ e.refusalClass = c

@[simp] theorem outcome_fail {ε : Type} (e : ε) : (fail e : Traced ε α).outcome = .error e := rfl

@[simp] theorem outcome_ofExcept {ε : Type} (x : Except ε α) : (ofExcept x).outcome = x := rfl

/-- A fault in front is the fault of the whole. -/
theorem outcome_bind_of_error {ε : Type} {x : Traced ε α} {e : ε} (h : x.outcome = .error e)
    (f : α → Traced ε β) : (x >>= f).outcome = .error e := by
  rw [outcome_bind, h]
  rfl

/-- Behind a fault nothing is logged. -/
theorem events_bind_of_error {ε : Type} {x : Traced ε α} {e : ε} (h : x.outcome = .error e)
    (f : α → Traced ε β) : (x >>= f).events = x.events := by
  obtain ⟨events, outcome⟩ := x
  subst h
  rfl

theorem events_bind_of_ok {ε : Type} {x : Traced ε α} {a : α} (h : x.outcome = .ok a)
    (f : α → Traced ε β) : (x >>= f).events = x.events ++ (f a).events := by
  obtain ⟨events, outcome⟩ := x
  subst h
  rfl

theorem logFault_of_ok {ε : Type} {event : ε → Event} {x : Traced ε α} {a : α}
    (h : x.outcome = .ok a) : x.logFault event = x := by
  rw [logFault, h]

/-- A fault is logged last, as nothing comes after it. -/
theorem events_logFault_bind {ε : Type} {event : ε → Event} {x : Traced ε α} {e : ε}
    (h : x.outcome = .error e) (f : α → Traced ε β) :
    (x.logFault event >>= f).events = x.events ++ [event e] := by
  obtain ⟨events, outcome⟩ := x
  subst h
  rfl

@[simp] theorem refusedAs_fail (e : Refusal) (c : RefusalClass) :
    (fail e : Traced Refusal α).RefusedAs c ↔ e.refusalClass = c := by
  simp [RefusedAs]

@[simp] theorem refusedAs_pure (a : α) (c : RefusalClass) :
    (pure a : Traced Refusal α).RefusedAs c ↔ False := by
  simp [RefusedAs]

@[simp] theorem refusedAs_log (e : Event) (c : RefusalClass) : (log e).RefusedAs c ↔ False := by
  simp [RefusedAs, log]

@[simp] theorem refusedAs_ofExcept (x : Except Refusal α) (c : RefusalClass) :
    (ofExcept x).RefusedAs c ↔ ∃ e, x = .error e ∧ e.refusalClass = c := Iff.rfl

theorem refusedAs_bind (x : Traced Refusal α) (f : α → Traced Refusal β) (c : RefusalClass) :
    (x >>= f).RefusedAs c ↔ x.RefusedAs c ∨ ∃ a, x.outcome = .ok a ∧ (f a).RefusedAs c := by
  simp only [RefusedAs, outcome_bind]
  cases x.outcome <;> simp [Except.bind]

/-- Logging in front does not change how a computation is refused. -/
@[simp] theorem refusedAs_log_bind (e : Event) (f : Unit → Traced Refusal β) (c : RefusalClass) :
    (log e >>= f).RefusedAs c ↔ (f ()).RefusedAs c := by
  rw [refusedAs_bind, refusedAs_log, false_or]
  constructor
  · rintro ⟨_, _, h⟩
    exact h
  · intro h
    exact ⟨(), rfl, h⟩

/-- A computation gives a value or is refused as some class. -/
theorem ok_or_refusedAs (x : Traced Refusal α) :
    (∃ a, x.outcome = .ok a) ∨ ∃ c, x.RefusedAs c := by
  cases houtcome : x.outcome with
  | ok a => exact Or.inl ⟨a, rfl⟩
  | error e => exact Or.inr ⟨e.refusalClass, e, houtcome, rfl⟩

/-- A computation has one outcome, so it is refused as one class at most. -/
theorem RefusedAs.unique {x : Traced Refusal α} {c c' : RefusalClass} (h : x.RefusedAs c)
    (h' : x.RefusedAs c') : c = c' := by
  obtain ⟨e, he, rfl⟩ := h
  obtain ⟨e', he', rfl⟩ := h'
  rw [he, Except.error.injEq] at he'
  rw [he']

/-! ## What is logged -/

/-- What a computation writes to the log. -/
def lines {ε : Type} (x : Traced ε α) : List (String × String × String) := x.events.map Event.line

/-- The computation logs the notice of the cause that it is refused for, and nothing else. -/
def Notices (size : Nat) (x : Traced Refusal α) : Prop :=
  x.events = match x.outcome with
    | .ok _ => []
    | .error e => e.notice size

variable {size : Nat}

theorem notices_pure (a : α) : (pure a : Traced Refusal α).Notices size := rfl

theorem notices_fail {e : Refusal} (h : e.notice size = []) :
    (fail e : Traced Refusal α).Notices size := h.symm

theorem notices_log_fail {event : Event} {e : Refusal} (h : e.notice size = [event]) :
    (log event >>= fun _ => fail e : Traced Refusal α).Notices size := h.symm

theorem notices_ofExcept {x : Except Refusal α} (h : ∀ e, x = .error e → e.notice size = []) :
    (ofExcept x).Notices size := by
  cases x with
  | ok a => rfl
  | error e => exact (h e rfl).symm

/-- A stage behind one that gave a value is the only one with something to log. -/
theorem Notices.bind {x : Traced Refusal α} {f : α → Traced Refusal β} (hx : x.Notices size)
    (hf : ∀ a, x.outcome = .ok a → (f a).Notices size) : (x >>= f).Notices size := by
  obtain ⟨events, outcome⟩ := x
  cases outcome with
  | error e => exact hx
  | ok a =>
      have hevents : events = [] := hx
      rw [hevents]
      exact hf a rfl

end Traced

end InviteLink
