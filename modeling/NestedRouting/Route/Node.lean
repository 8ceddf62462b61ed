import NestedRouting.Text.Basic

/-!
# Route trees

A tree of routes with content at the leaves. What content and fallbacks are is left to the caller: a
tree holds content of a type `κ` and fallbacks of a type `φ`.
-/

namespace NestedRouting

/-- An error boundary: the identity under which its failure is remembered, and what it shows
instead. -/
structure Boundary (φ : Type) where
  id : Nat
  fallback : φ
  deriving DecidableEq, Repr

/-- A node of a route tree. -/
inductive Node (κ φ : Type)
  | content (c : κ)
  /-- A route with a pattern renders when the pattern matches, one without a pattern unless a sibling
  before it has. -/
  | route (pattern : Option Text) (boundary : Option (Boundary φ)) (children : List (Node κ φ))

instance {κ φ : Type} : Inhabited (Node κ φ) := ⟨.route none none []⟩

/-- The shape of a tree, with the state of its boundaries. -/
inductive Description
  | content
  /-- A route with its pattern, whether its boundary has failed if it has one, and its children. -/
  | route (pattern : Option Text) (failed : Option Bool) (children : List Description)

namespace Node

variable {κ φ : Type}

mutual

/-- Describes a node; `failed` tells which boundaries have failed. -/
def describe (failed : Nat → Bool) : Node κ φ → Description
  | content _ => .content
  | route pattern boundary children =>
    .route pattern (boundary.map fun b => failed b.id) (describeAll failed children)

/-- Describes nodes. -/
def describeAll (failed : Nat → Bool) : List (Node κ φ) → List Description
  | [] => []
  | n :: ns => describe failed n :: describeAll failed ns

end

end Node

end NestedRouting
