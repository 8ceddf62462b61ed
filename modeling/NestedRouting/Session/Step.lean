import NestedRouting.Route.Evaluate
import NestedRouting.Session.Content

/-!
# Steps of a session

What a host can do in a session, and what it is answered. Listeners are of a type `ℓ`: they take
steps themselves when they are notified. Histories are numbered; the navigator's own is number zero.
-/

namespace NestedRouting

/-- A step of a session. -/
inductive Step (ℓ : Type)
  | navigate (path : String) (data : Option Data) (replace : Bool)
  /-- Lets the navigator read the current path again. -/
  | refresh
  /-- Lets the navigator observe an event of a history, in place of what it observes. -/
  | attach (history : Nat) (event : String)
  | detach
  /-- Registers a listener for changes of the path, as the subscription `id`. -/
  | subscribe (id : String) (listener : ℓ)
  | push (history : Nat) (path : String) (data : Option Data)
  | replace (history : Nat) (path : String) (data : Option Data)
  /-- Registers a listener for an event of a history, as the subscription `id`. -/
  | hostSubscribe (history : Nat) (id event : String) (listener : ℓ)
  | back (history : Nat)
  | forward (history : Nat)
  | go (history : Nat) (delta : Int)
  | dispatch (history : Nat) (event : String)
  /-- Removes the listener of a subscription. -/
  | unsubscribe (id : String)
  /-- Forgets a subscription, which removes its listener. -/
  | drop (id : String)
  /-- Forgets a subscription and keeps its listener. -/
  | keep (id : String)
  | render
  | matchPath (pattern path : Text)
  | describe
  /-- Gives up the router and all handles of the navigator. -/
  | close
  /-- Sets the cell that can stand for the current path. -/
  | setCell (path : String)
  | setFlag (name : String) (value : Bool)
  /-- Resets a named boundary. -/
  | reset (name : String)
  | panic (p : Payload)
  deriving Inhabited

/-- What a step is answered. -/
inductive Answer
  | nothing
  | flag (b : Bool)
  /-- There is no navigator, history or router for the step. -/
  | noTarget
  | rendered (r : Except RouteError (List (Rendered Data)))
  | matched (r : Except SyntaxError (Option Match))
  /-- The routes, and the current path. -/
  | described (routes : List Description) (path : String)

/-- What is logged in a session. -/
inductive LogEntry (ℓ : Type)
  /-- A listener of the path was notified. -/
  | heard (id path : String)
  /-- A listener of a history was notified. -/
  | hostHeard (id : String)
  /-- A listener took a step. -/
  | nested (step : Step ℓ) (answer : Answer)
  | content (value : Data) (path : Text)
  | fallback (name message : String)
  /-- A pass rendered another path than the pass before. -/
  | updated (path : String)
  | navigate (path : String) (data : Option Data) (replace : Bool)

end NestedRouting
