import NestedRouting.Pattern.Match
import NestedRouting.Route.Failure
import NestedRouting.Text.Quoted

/-!
# Contexts of routes

The routes below a route share a `Context`: the path prefix and the parameters they inherit, and a
record of the siblings evaluated so far, their matches and the failure that a boundary has recovered.
A route without a pattern must not inherit parameters other than the first positional one
(`Context.violation?`).
-/

namespace NestedRouting

/-- What the routes of one level share. -/
structure Context where
  /-- The pattern text behind which the routes write their patterns. -/
  path : Text
  /-- The parameters of the route above. -/
  params : Params
  /-- The matches of the siblings so far. -/
  matched : List Match
  /-- The failure recorded by a sibling's boundary. -/
  failure : Option Failure
  deriving DecidableEq

/-- Inherited parameters, by sorted name, where none are allowed. -/
structure Violation where
  keys : List Text
  deriving DecidableEq, Repr

/-- The wording of a violation. -/
def Violation.message (v : Violation) : String :=
  let names := v.keys.map fun k => String.ofList (Text.quoted k)
  "parameters are not allowed in parent routes (inherited: [" ++ ", ".intercalate names ++ "])"

namespace Context

/-- The context below a route: inherited values, and no siblings yet. -/
def child (path : Text) (params : Params) : Context := ⟨path, params, [], none⟩

/-- The context of a tree without a prefix. -/
def root : Context := child [] ∅

instance : Inhabited Context := ⟨root⟩

/-- Whether a sibling has matched or failed. -/
def isClaimed (c : Context) : Bool := !c.matched.isEmpty || c.failure.isSome

/-- The first positional name. -/
def positionalName : Text := ['0']

/-- The violation of a route without a pattern, if there are inherited parameters other than the
first positional one. -/
def violation? (c : Context) : Option Violation :=
  if c.params.isEmpty || c.params.names = [positionalName] then none
  else some ⟨c.params.names.mergeSort Text.atMost⟩

end Context

end NestedRouting
