/-!
# How running code ends

Code that runs on a state returns a value, fails with an error, panics, or exhausts the number of
steps it was given. The state that it leaves survives all four (`Run`), as what has happened before
a panic has happened.
-/

namespace NestedRouting

/-- What a panic carries. -/
inductive Payload
  | message (s : String)
  /-- A value that is not a message. -/
  | other
  deriving DecidableEq, Repr

/-- The message of a panic. -/
def Payload.text : Payload → String
  | message s => s
  | other => "unknown panic"

/-- How code ends. -/
inductive Outcome (ε α : Type)
  | returned (a : α)
  | failed (e : ε)
  | panicked (p : Payload)
  /-- The code was given too few steps to end. -/
  | exhausted
  deriving DecidableEq, Repr

/-- Code on a state of type `σ` that may fail with an `ε`. -/
def Run (σ ε α : Type) : Type := σ → Outcome ε α × σ

namespace Run

variable {σ ε α β : Type}

/-- Code that returns at once. -/
def ret (a : α) : Run σ ε α := fun s => (.returned a, s)

/-- One after the other; the second runs only if the first returns. -/
def andThen (r : Run σ ε α) (f : α → Run σ ε β) : Run σ ε β := fun s =>
  match r s with
  | (.returned a, s) => f a s
  | (.failed e, s) => (.failed e, s)
  | (.panicked p, s) => (.panicked p, s)
  | (.exhausted, s) => (.exhausted, s)

instance : Monad (Run σ ε) where
  pure := ret
  bind := andThen

/-- The state. -/
def get : Run σ ε σ := fun s => (.returned s, s)

/-- A part of the state. -/
def gets (f : σ → α) : Run σ ε α := fun s => (.returned (f s), s)

/-- Changes the state. -/
def modify (f : σ → σ) : Run σ ε Unit := fun s => (.returned (), f s)

/-- Fails. -/
def fail (e : ε) : Run σ ε α := fun s => (.failed e, s)

/-- Panics. -/
def panic (p : Payload) : Run σ ε α := fun s => (.panicked p, s)

/-- Gives up for want of steps. -/
def exhaust : Run σ ε α := fun s => (.exhausted, s)

/-- Changes the state when the code has ended, however it ends. -/
def finish (r : Run σ ε α) (f : σ → σ) : Run σ ε α := fun s =>
  let (o, s) := r s
  (o, f s)

/-- Code that cannot fail, where code that can fail is wanted. -/
def lift (r : Run σ Empty α) : Run σ ε α := fun s =>
  match r s with
  | (.returned a, s) => (.returned a, s)
  | (.failed e, _) => nomatch e
  | (.panicked p, s) => (.panicked p, s)
  | (.exhausted, s) => (.exhausted, s)

/-- Runs code for each element of a list, in order. -/
def forEach (f : α → Run σ ε Unit) : List α → Run σ ε Unit
  | [] => ret ()
  | a :: as => (f a).andThen fun _ => forEach f as

end Run

end NestedRouting
