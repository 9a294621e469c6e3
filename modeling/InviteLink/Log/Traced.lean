import InviteLink.Log.Event

set_option autoImplicit false

/-! # Computations that log

A traced computation gives a value or a fault, and the events on the way there. What was logged
before a fault stays logged. -/

namespace InviteLink

/-- The events of a computation and what came of it. -/
structure Traced (ε α : Type) where
  events : List Event
  outcome : Except ε α

namespace Traced

variable {ε ε' α β : Type}

/-- Runs `f` on the value, if there is one. -/
def bind (x : Traced ε α) (f : α → Traced ε β) : Traced ε β :=
  match x.outcome with
  | .error e => ⟨x.events, .error e⟩
  | .ok a => ⟨x.events ++ (f a).events, (f a).outcome⟩

instance : Monad (Traced ε) where
  pure a := ⟨[], .ok a⟩
  bind := bind

/-- Stops with a fault. -/
def fail (e : ε) : Traced ε α := ⟨[], .error e⟩

/-- Logs one event. -/
def log (e : Event) : Traced ε Unit := ⟨[e], .ok ()⟩

/-- A computation that logs nothing. -/
def ofExcept (x : Except ε α) : Traced ε α := ⟨[], x⟩

/-- Logs `event e` when the computation ends in fault `e`, which it still ends in. -/
def logFault (event : ε → Event) (x : Traced ε α) : Traced ε α :=
  match x.outcome with
  | .error e => ⟨x.events ++ [event e], .error e⟩
  | .ok _ => x

/-- The computation with its faults renamed. -/
def mapFault (f : ε → ε') (x : Traced ε α) : Traced ε' α := ⟨x.events, x.outcome.mapError f⟩

@[simp] theorem events_pure (a : α) : (pure a : Traced ε α).events = [] := rfl

@[simp] theorem outcome_pure (a : α) : (pure a : Traced ε α).outcome = .ok a := rfl

/-- Logging does not change what comes of a computation. -/
theorem outcome_bind (x : Traced ε α) (f : α → Traced ε β) :
    (x >>= f).outcome = x.outcome.bind fun a => (f a).outcome := by
  show (bind x f).outcome = _
  unfold bind
  cases x.outcome <;> rfl

@[simp] theorem outcome_mapFault (f : ε → ε') (x : Traced ε α) :
    (x.mapFault f).outcome = x.outcome.mapError f := rfl

/-- A fault that is logged is the same fault. -/
@[simp] theorem outcome_logFault (event : ε → Event) (x : Traced ε α) :
    (x.logFault event).outcome = x.outcome := by
  unfold logFault
  cases h : x.outcome <;> simp [h]

end Traced

end InviteLink
