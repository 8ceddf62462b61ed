import NestedRouting.Route.Context

/-!
# Rendered trees

What a pass over a route tree yields: the routes that rendered, with the context that their children
saw, around views of type `ν`.
-/

namespace NestedRouting

/-- The output of a pass. -/
inductive Rendered (ν : Type)
  | route (context : Context) (children : List (Rendered ν))
  | content (view : ν)
  /-- What a boundary shows in place of the children of its route. -/
  | fallback (failure : Failure) (view : ν)
  /-- Shown in place of a route that must not inherit parameters. -/
  | diagnostic (violation : Violation)

namespace Rendered

variable {ν : Type}

/-- The context of a route. -/
def context? : Rendered ν → Option Context
  | route context _ => some context
  | _ => none

/-- The children of a route. -/
def children : Rendered ν → List (Rendered ν)
  | route _ children => children
  | _ => []

/-- Whether it is shown by a boundary. -/
def isFallback : Rendered ν → Bool
  | fallback .. => true
  | _ => false

mutual

/-- The views of content and fallbacks, depth first. -/
def contents : Rendered ν → List ν
  | route _ children => contentsOf children
  | content view | fallback _ view => [view]
  | diagnostic _ => []

/-- The views in trees, from left to right. -/
def contentsOf : List (Rendered ν) → List ν
  | [] => []
  | r :: rs => contents r ++ contentsOf rs

end

mutual

/-- The first violation shown in a tree. -/
def violation? : Rendered ν → Option Violation
  | route _ children => firstViolation? children
  | diagnostic violation => some violation
  | content _ | fallback .. => none

/-- The first violation shown in trees, from left to right. -/
def firstViolation? : List (Rendered ν) → Option Violation
  | [] => none
  | r :: rs => violation? r <|> firstViolation? rs

end

end Rendered

end NestedRouting
