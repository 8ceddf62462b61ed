/-!
# Channels

A channel is a list of listeners in the order of their subscription. Each has a number, by which it
can be removed; a number is never used again. To emit is to notify the listeners that are registered
when emitting starts (`Channel.listeners`).
-/

namespace NestedRouting

/-- Listeners of a type `ℓ`, and the number that the next one is given. -/
structure Channel (ℓ : Type) where
  next : Nat
  entries : List (Nat × ℓ)
  deriving DecidableEq, Repr

namespace Channel

variable {ℓ : Type}

/-- A channel without listeners. -/
def empty : Channel ℓ := ⟨0, []⟩

instance : Inhabited (Channel ℓ) := ⟨empty⟩

/-- Registers a listener, under the number `c.next`. -/
def subscribe (c : Channel ℓ) (listener : ℓ) : Channel ℓ :=
  ⟨c.next + 1, c.entries ++ [(c.next, listener)]⟩

/-- Removes the listener with a number, if it is registered. -/
def cancel (c : Channel ℓ) (number : Nat) : Channel ℓ :=
  { c with entries := c.entries.filter (·.1 ≠ number) }

/-- The listeners in the order of their subscription. -/
def listeners (c : Channel ℓ) : List ℓ := c.entries.map Prod.snd

/-- The number of listeners. -/
def size (c : Channel ℓ) : Nat := c.entries.length

end Channel

end NestedRouting
