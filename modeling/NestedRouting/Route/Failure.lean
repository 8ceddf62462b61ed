import NestedRouting.Outcome
import NestedRouting.Pattern.SyntaxError

/-!
# Failures

Content that fails is recorded as a `Failure`: the route it belongs to and a chain of messages. A
panic is recorded in the same way, with the message of its payload. `RouteError` adds the errors of
the tree itself, which no boundary recovers.
-/

namespace NestedRouting

/-- A failure of the content of a route. -/
structure Failure where
  /-- The path of the route. -/
  route : Text
  /-- The outermost message. -/
  message : String
  /-- The messages of the causes, outermost first. -/
  causes : List String
  /-- Whether the content panicked. -/
  panicked : Bool
  deriving DecidableEq, Repr

namespace Failure

/-- The failure with a chain of messages, outermost first. -/
def ofChain (route : Text) (chain : List String) : Failure :=
  ⟨route, chain.head?.getD "", chain.tail, false⟩

/-- The failure of content that panicked. -/
def ofPanic (route : Text) (p : Payload) : Failure := ⟨route, p.text, [], true⟩

/-- The wording of a failure. -/
def display (f : Failure) : String :=
  "route \x60" ++ String.ofList f.route ++ "\x60 failed to render: " ++ f.message

end Failure

/-- Why routes cannot be evaluated. -/
inductive RouteError
  /-- There is nothing to match routes with. -/
  | missingMatcher
  /-- The full pattern of a route is malformed. -/
  | badPattern (pattern : Text) (source : SyntaxError)
  /-- Content failed, and no boundary recovered it. -/
  | render (failure : Failure)
  deriving DecidableEq, Repr

/-- The wording of an error, where its parts have one. -/
def RouteError.message? : RouteError → Option String
  | missingMatcher => some "route requires a match function in the router context"
  | badPattern pattern source => source.message?.map fun m =>
      "invalid route pattern \x60" ++ String.ofList pattern ++ "\x60: " ++ m
  | render failure => some failure.display

end NestedRouting
