import NestedRouting.Config
import NestedRouting.Session.Perform
import NestedRouting.Session.Reaction

/-!
# Opening and playing sessions

A session is opened on a history, with a navigator on a history, or with a router. `play` takes the
steps of a script one after the other; a step that panics leaves the state in which it ended to the
next one.
-/

namespace NestedRouting

variable {ℓ : Type}

/-- A site with histories and no navigator. The first history is the one that a navigator navigates. -/
def Site.onHistories (histories : List History) (cell : String) : Site ℓ where
  histories := histories
  hearers := []
  navigator := none
  handles := 0
  held := 0
  listeners := []
  subscriptions := []
  cell := cell
  lastRendered := none
  flags := []
  log := []
  notices := []
  readings := []
  passes := []

/-- A site with one history and no navigator. -/
def Site.start (path cell : String) : Site ℓ := .onHistories [.start path] cell

/-- Makes a navigator that has read the current path and observes an event of the history; an empty
name stands for none. -/
def Site.openNavigator (s : Site ℓ) (env : Setup ℓ) (event : String) : Site ℓ :=
  Site.attach
    { s with
      navigator := some ⟨env.currentPath s, false, none, .empty, none⟩
      handles := 1 }
    (0, event)

/-- A session of scripted listeners: what stays the same, and the state. -/
structure Session where
  setup : Setup (List Reaction)
  world : World (List Reaction)

namespace Session

/-- A session on a history. -/
def ofHistory (path : String) : Session where
  setup := ⟨Reaction.listen, .history, false, false, none, []⟩
  world := ⟨[], .start path ""⟩

/-- A session with a navigator on a history. -/
def ofNavigator (path : String) (navigating : NavigateMode) (readsCell : Bool) (cell event : String) :
    Session :=
  let setup : Setup (List Reaction) := ⟨Reaction.listen, navigating, readsCell, false, none, []⟩
  ⟨setup, [], (Site.start path cell).openNavigator setup event⟩

/-- What a router is made of. -/
structure RouterPlan where
  config : Config
  /-- Where the history of the host starts; without one the router has its own. -/
  history : Option String
  /-- How routes are matched, if not by compiled patterns. -/
  matcher : Option Matcher
  navigating : NavigateMode
  readsCell : Bool
  cell : String
  /-- In place of the settings. -/
  changeEvent : Option String
  /-- In place of the settings. -/
  initialPath : Option String
  reportsUpdates : Bool
  routes : List (Node Content Fallback)
  boundaries : List (String × Nat)

/-- A session with a router. -/
def ofRouter (plan : RouterPlan) : Session :=
  let c := plan.config
  let tree : Tree := {
    routes := plan.routes
    base := (c.routing.basePath.getD "").toList
    matcher := some (plan.matcher.getD (.compiled c.routing.options))
    reportsUpdates := plan.reportsUpdates }
  let setup : Setup (List Reaction) := {
    listen := Reaction.listen
    navigating := plan.navigating
    readsCell := plan.readsCell
    ownsHistory := plan.history.isNone
    tree := some tree
    boundaries := plan.boundaries }
  let path := plan.history.getD (plan.initialPath.getD c.navigation.initialPath)
  let event := plan.changeEvent.getD c.navigation.changeEvent
  ⟨setup, [], (Site.start path plan.cell).openNavigator setup event⟩

/-- How each of the steps of a script ends, and the state after it with what was logged meanwhile. -/
def playAll (env : Setup (List Reaction)) (depth : Nat) (w : World (List Reaction)) :
    List ScriptStep → List (Outcome Empty Answer × World (List Reaction))
  | [] => []
  | s :: steps =>
    let (o, w) := run env depth (.step s) { w with host := { w.host with log := [] } }
    (o, w) :: playAll env depth w steps

/-- Plays a script. -/
def play (s : Session) (steps : List ScriptStep) :
    List (Outcome Empty Answer × World (List Reaction)) :=
  playAll s.setup (depthOf s.setup steps) s.world steps

end Session

end NestedRouting
