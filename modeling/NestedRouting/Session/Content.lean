import NestedRouting.Route.Shown
import NestedRouting.Outcome

/-!
# Scripted content

Content and fallbacks of a session are given as data: what they show, and what they do before.
-/

namespace NestedRouting

/-- Content of a route. -/
inductive Content
  /-- Shows a value. -/
  | text (d : Data)
  /-- Shows a parameter, or null. -/
  | param (name : Text)
  /-- Shows its context. -/
  | context
  /-- Fails with a chain of messages. -/
  | fail (chain : List String)
  | panic (p : Payload)
  /-- Logs a value, then goes on. -/
  | log (d : Data) (next : Content)
  /-- Goes on as a flag says. -/
  | flag (name : String) (on off : Content)
  /-- Sets a flag, then goes on. -/
  | setFlag (name : String) (value : Bool) (next : Content)
  /-- Navigates if there is a navigator, then goes on. -/
  | navigate (path : String) (data : Option Data) (replace : Bool) (next : Content)
  /-- Resets a named boundary if there is one, then goes on. -/
  | reset (name : String) (next : Content)
  deriving Inhabited

/-- The number of parts of content. -/
def Content.size : Content → Nat
  | log _ next | setFlag _ _ next | navigate _ _ _ next | reset _ next => next.size + 1
  | flag _ on off => on.size + off.size + 1
  | _ => 1

/-- What a boundary shows: its label and the wording of the failure. Before that it may reset itself
or panic. -/
structure Fallback where
  /-- The name by which it is logged. -/
  name : String
  label : String
  resets : Bool
  panic : Option Payload
  deriving DecidableEq, Repr

end NestedRouting
