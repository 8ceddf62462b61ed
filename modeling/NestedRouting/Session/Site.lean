import NestedRouting.Navigation.Channel
import NestedRouting.Navigation.History
import NestedRouting.Session.Step

/-!
# Sites

The state of a session: histories with the listeners of their events, a navigator with the listeners
of its path, and what passes over the route tree leave behind. The navigator lives as long as it has
handles or is in use; with it goes its observation of a history.
-/

namespace NestedRouting

/-- An event of a numbered history. -/
abbrev Source := Nat × String

/-- Who listens to an event of a history: the navigator, or a numbered listener of the session. -/
inductive Hearer
  | navigator
  | listener (number : Nat)
  deriving DecidableEq, Repr

/-- The observation of an event: the event, and the number of the navigator among its hearers. -/
structure Attachment where
  source : Source
  number : Nat
  deriving DecidableEq, Repr

/-- The navigator: the path that it has read last, whether it is notifying its listeners, the newest
path read meanwhile, the listeners, and the event it observes. -/
structure Navigator where
  path : String
  dispatching : Bool
  pending : Option String
  listeners : Channel Nat
  attachment : Option Attachment

/-- A handle to a registered listener. -/
inductive Subscription
  /-- Of the path. -/
  | path (number : Nat)
  /-- Of an event of a history. -/
  | event (source : Source) (number : Nat)
  deriving DecidableEq, Repr

/-- How the navigator navigates. -/
inductive NavigateMode
  /-- It pushes to its history or replaces the current entry. -/
  | history
  /-- The navigation is only logged. -/
  | logged
  /-- The navigation is logged and sets the cell. -/
  | cell
  deriving DecidableEq, Repr

/-- A tree of routes as a router holds it. -/
structure Tree where
  routes : List (Node Content Fallback)
  base : Text
  matcher : Option Matcher
  /-- Whether updates of the path are reported, which is logged. -/
  reportsUpdates : Bool
  /-- The number of a listener that takes its turns when an update is reported. -/
  updater : Option Nat := none

/-- What stays the same in a session. A listener of type `ℓ` that is notified takes turns: `listen`
gives the steps of a turn, counted from zero, and the listener that it is from then on, or nothing
when it is done. -/
structure Setup (ℓ : Type) where
  listen : ℓ → Nat → Option String → Option (List (Step ℓ) × ℓ)
  navigating : NavigateMode
  /-- Whether the current path is read from the cell and not from the history. -/
  readsCell : Bool
  /-- Whether the history belongs to the router and is out of reach otherwise. -/
  ownsHistory : Bool
  tree : Option Tree
  /-- The boundaries that have names. -/
  boundaries : List (String × Nat)

/-- What happens while the path is made known. -/
inductive Notice
  /-- A round of notifications of a path starts. -/
  | round (path : String)
  /-- A numbered listener is notified of a path. -/
  | heard (number : Nat) (path : String)
  deriving DecidableEq, Repr

/-- The state of a session. -/
structure Site (ℓ : Type) where
  histories : List History
  /-- The hearers of each event. -/
  hearers : List (Source × Channel Hearer)
  navigator : Option Navigator
  /-- How many handles of the navigator the host has. -/
  handles : Nat
  /-- How many calls are using the navigator. -/
  held : Nat
  /-- All listeners there have been, with the names by which they are logged. -/
  listeners : List (String × ℓ)
  subscriptions : List (String × Subscription)
  /-- The cell that can stand for the current path. -/
  cell : String
  lastRendered : Option String
  flags : List (String × Bool)
  log : List (LogEntry ℓ)
  /-- How paths were made known so far. The log has it only in part: a listener is logged under a name
  that others can have too, and a round without listeners leaves no entry. -/
  notices : List Notice
  /-- The paths that the navigator has read again so far, whether they had changed or not. -/
  readings : List String
  /-- The paths of the passes that have rendered so far, in the order in which the passes ended. -/
  passes : List String

namespace Site

variable {ℓ : Type}

/-- Adds an entry to the log. -/
def logged (s : Site ℓ) (e : LogEntry ℓ) : Site ℓ := { s with log := s.log ++ [e] }

/-- Adds a notice. -/
def noted (s : Site ℓ) (e : Notice) : Site ℓ := { s with notices := s.notices ++ [e] }

/-- Adds a path that the navigator reads again. -/
def reread (s : Site ℓ) (path : String) : Site ℓ := { s with readings := s.readings ++ [path] }

/-- Adds the path of a pass that has rendered. -/
def passed (s : Site ℓ) (path : String) : Site ℓ := { s with passes := s.passes ++ [path] }

/-- The hearers of an event. -/
def hearersOf (s : Site ℓ) (source : Source) : Channel Hearer :=
  (s.hearers.lookup source).getD .empty

/-- Changes the hearers of an event. -/
def changeHearers (s : Site ℓ) (source : Source) (f : Channel Hearer → Channel Hearer) : Site ℓ :=
  { s with
    hearers := (source, f (s.hearersOf source)) :: s.hearers.filter (·.1 ≠ source) }

/-- Changes the navigator, if there is one. -/
def changeNavigator (s : Site ℓ) (f : Navigator → Navigator) : Site ℓ :=
  { s with navigator := s.navigator.map f }

/-- Changes a history. -/
def changeHistory (s : Site ℓ) (history : Nat) (f : History → History) : Site ℓ :=
  { s with histories := s.histories.modify history f }

/-- Ends the observation of an event. -/
def detach (s : Site ℓ) : Site ℓ :=
  match s.navigator.bind Navigator.attachment with
  | none => s
  | some a =>
    (s.changeHearers a.source fun c => c.cancel a.number).changeNavigator
      fun n => { n with attachment := none }

/-- Observes an event in place of what is observed; an empty name observes nothing. -/
def attach (s : Site ℓ) (source : Source) : Site ℓ :=
  if source.2.isEmpty then s.detach
  else
    let number := (s.hearersOf source).next
    ((s.changeHearers source fun c => c.subscribe .navigator).detach).changeNavigator
      fun n => { n with attachment := some ⟨source, number⟩ }

/-- Lets the navigator go when nobody has a handle and nobody is using it. -/
def settle (s : Site ℓ) : Site ℓ :=
  if s.handles = 0 ∧ s.held = 0 then { s.detach with navigator := none } else s

/-- Uses the navigator. -/
def hold (s : Site ℓ) : Site ℓ := { s with held := s.held + 1 }

/-- Ends a use of the navigator. -/
def release (s : Site ℓ) : Site ℓ := ({ s with held := s.held - 1 }).settle

/-- Makes another handle of the navigator, from one that the host has. -/
def clone (s : Site ℓ) : Site ℓ := if s.handles = 0 then s else { s with handles := s.handles + 1 }

/-- Gives up one handle. -/
def drop (s : Site ℓ) : Site ℓ := ({ s with handles := s.handles - 1 }).settle

/-- Gives up all handles. -/
def close (s : Site ℓ) : Site ℓ := ({ s with handles := 0 }).settle

/-- Removes the listener of a subscription. -/
def cancel (s : Site ℓ) : Subscription → Site ℓ
  | .path number => s.changeNavigator fun n => { n with listeners := n.listeners.cancel number }
  | .event source number => s.changeHearers source fun c => c.cancel number

/-- The subscription with a name. -/
def subscription? (s : Site ℓ) (id : String) : Option Subscription := s.subscriptions.lookup id

/-- Forgets a subscription; its listener stays. -/
def forget (s : Site ℓ) (id : String) : Site ℓ :=
  { s with subscriptions := s.subscriptions.filter (·.1 ≠ id) }

/-- Gives a name to a subscription. The listener of one that had the name is removed. -/
def store (s : Site ℓ) (id : String) (sub : Subscription) : Site ℓ :=
  let old := s.subscription? id
  let s := { s.forget id with subscriptions := (id, sub) :: (s.forget id).subscriptions }
  old.elim s s.cancel

/-- Adds a listener of the path. -/
def subscribe (s : Site ℓ) (id : String) (listener : ℓ) : Site ℓ :=
  match s.navigator with
  | none => s
  | some n =>
    let s := { s with
      navigator := some { n with listeners := n.listeners.subscribe s.listeners.length }
      listeners := s.listeners ++ [(id, listener)] }
    s.store id (.path n.listeners.next)

/-- Adds a listener of an event. -/
def hostSubscribe (s : Site ℓ) (source : Source) (id : String) (listener : ℓ) : Site ℓ :=
  let number := (s.hearersOf source).next
  let s := { s.changeHearers source (·.subscribe (.listener s.listeners.length)) with
    listeners := s.listeners ++ [(id, listener)] }
  s.store id (.event source number)

/-- The navigator, if the host has a handle of it. -/
def reachable? (s : Site ℓ) : Option Navigator := if s.handles = 0 then none else s.navigator

/-- The value of a flag. -/
def flag (s : Site ℓ) (name : String) : Bool := (s.flags.lookup name).getD false

/-- Sets a flag. -/
def setFlag (s : Site ℓ) (name : String) (value : Bool) : Site ℓ :=
  { s with flags := (name, value) :: s.flags.filter (·.1 ≠ name) }

end Site

namespace Setup

variable {ℓ : Type}

/-- The history that steps can reach, if there is one with the number. -/
def history? (env : Setup ℓ) (s : Site ℓ) (history : Nat) : Option History :=
  if env.ownsHistory ∧ s.handles = 0 then none else s.histories[history]?

/-- Whether steps can traverse the histories and dispatch their events. -/
def traverses (env : Setup ℓ) : Bool := !env.ownsHistory

/-- The current path as the navigator reads it. -/
def currentPath (env : Setup ℓ) (s : Site ℓ) : String :=
  if env.readsCell then s.cell else (s.histories[0]?.map History.location).getD ""

/-- What a navigation does to the site, before the current path is read again. -/
def navigate (env : Setup ℓ) (s : Site ℓ) (path : String) (data : Option Data) (replace : Bool) :
    Site ℓ :=
  match env.navigating with
  | .history =>
    s.changeHistory 0 fun h => if replace then h.replace ⟨path, data⟩ else h.push ⟨path, data⟩
  | .logged => s.logged (.navigate path data replace)
  | .cell => { s.logged (.navigate path data replace) with cell := path }

end Setup

/-- A site together with the failures that boundaries remember. -/
abbrev World (ℓ : Type) := Stage (Site ℓ)

end NestedRouting
