import NestedRouting.Session.Site

/-!
# Performing steps

Listeners take steps while they are notified, and content while it is rendered, so steps are nested.
A `Task` is what calls one another: a step, a re-reading of the path, a round of notifications, an
event, or a turn of a listener. `perform` does a task, given a way to do the tasks inside it, and
`run` does a task whose tasks are nested at most as deep as it is told.

While the navigator notifies its listeners, a change of the path only waits in a slot of its own: the
round that is going on ends first, and then the newest path is the next round's.
-/

namespace NestedRouting

/-- Something that is done in a session. -/
inductive Task (ℓ : Type)
  | step (s : Step ℓ)
  /-- Reads the current path again, and notifies the listeners if it has changed. -/
  | refresh
  /-- Notifies the listeners of a path, and then of the paths that came up meanwhile. -/
  | round (path : String)
  /-- Notifies the hearers of an event. -/
  | fire (source : Source)
  /-- The turns of a listener from the given one on, after it was notified of a value. -/
  | turns (listener turn : Nat) (value : Option String)

/-- A way to do tasks. -/
abbrev Performer (ℓ : Type) := Task ℓ → Run (World ℓ) Empty Answer

variable {ℓ : Type}

/-- Code on the site of a session. -/
abbrev Act (ℓ α : Type) := Run (World ℓ) Empty α

namespace Act

/-- A part of the site. -/
def site {α : Type} (f : Site ℓ → α) : Act ℓ α := Run.gets fun w => f w.host

/-- Changes the site. -/
def change (f : Site ℓ → Site ℓ) : Act ℓ Unit := Run.modify fun w => { w with host := f w.host }

/-- Changes the site when the code has ended, however it ends. -/
def atEnd {α : Type} (r : Act ℓ α) (f : Site ℓ → Site ℓ) : Act ℓ α :=
  r.finish fun w => { w with host := f w.host }

/-- Runs code that uses the navigator. -/
def holding {α : Type} (r : Act ℓ α) : Act ℓ α := do
  change Site.hold
  atEnd r Site.release

/-- Runs code if there is a target for it. -/
def onTarget {α : Type} (target : Option α) (r : α → Act ℓ Answer) : Act ℓ Answer :=
  match target with
  | none => pure .noTarget
  | some a => r a

/-- Does a task for its effect. -/
def silently (rec : Performer ℓ) (t : Task ℓ) : Act ℓ Unit := do
  let _ ← rec t
  return ()

end Act

open Act

/-! ## Notifications -/

/-- Reads the current path again; the listeners are notified if it has changed. -/
def performRefresh (env : Setup ℓ) (rec : Performer ℓ) : Act ℓ Answer := do
  let path ← site env.currentPath
  let navigator ← site Site.navigator
  match navigator with
  | none => return .flag false
  | some n =>
    if n.path = path then return .flag false
    if n.dispatching then
      change fun s => s.changeNavigator fun n => { n with path, pending := some path }
    else
      change fun s => s.changeNavigator fun n => { n with path, dispatching := true }
      atEnd (silently rec (.round path))
        fun s => s.changeNavigator fun n => { n with dispatching := false, pending := none }
    return .flag true

/-- Takes the path that is waiting. -/
def takePending : Act ℓ (Option String) := do
  let waiting ← site fun s => s.navigator.bind Navigator.pending
  change fun s => s.changeNavigator fun n => { n with pending := none }
  return waiting

/-- Notifies a listener: logs the notification, then lets it take its turns. -/
def notify (rec : Performer ℓ) (value : Option String) (number : Nat) : Act ℓ Unit := do
  let listener ← site fun s => s.listeners[number]?
  match listener with
  | none => return ()
  | some (id, _) =>
    change fun s => match value with
      | some path => (s.logged (.heard id path)).noted (.heard number path)
      | none => s.logged (.hostHeard id)
    silently rec (.turns number 0 value)

/-- A round of notifications, and the rounds of the paths that came up meanwhile. -/
def performRound (rec : Performer ℓ) (path : String) : Act ℓ Answer := do
  change fun s => s.noted (.round path)
  let listeners ← site fun s => (s.navigator.map fun n => n.listeners.listeners).getD []
  Run.forEach (notify rec (some path)) listeners
  let waiting ← takePending
  match waiting with
  | none => return .nothing
  | some path => rec (.round path)

/-- Lets a hearer of an event act: the navigator reads the path again, a listener takes its turns. -/
def hear (rec : Performer ℓ) : Hearer → Act ℓ Unit
  | .navigator => do
    let navigator ← site Site.navigator
    if navigator.isSome then holding (silently rec .refresh)
  | .listener number => notify rec none number

/-- Notifies the hearers of an event. -/
def performFire (rec : Performer ℓ) (source : Source) : Act ℓ Answer := do
  let hearers ← site fun s => (s.hearersOf source).listeners
  Run.forEach (hear rec) hearers
  return .nothing

/-- A step that a listener takes. -/
def nestedStep (rec : Performer ℓ) (s : Step ℓ) : Act ℓ Unit := do
  let answer ← rec (.step s)
  change fun site => site.logged (.nested s answer)

/-- A turn of a listener, and the turns after it. -/
def performTurns (env : Setup ℓ) (rec : Performer ℓ) (number turn : Nat) (value : Option String) :
    Act ℓ Answer := do
  let listener ← site fun s => s.listeners[number]?
  match listener.bind fun l => env.listen l.2 turn value with
  | none => return .nothing
  | some (steps, after) =>
    change fun s =>
      { s with listeners := s.listeners.modify number fun l => (l.1, after) }
    Run.forEach (nestedStep rec) steps
    rec (.turns number (turn + 1) value)

/-! ## Rendering -/

/-- The view of content. -/
def Content.view (env : Setup ℓ) (rec : Performer ℓ) (c : Context) :
    Content → Run (World ℓ) (List String) Data
  | text d => pure d
  | param name => pure (.ofOption .ofText (c.params.get? name))
  | context => pure c.toData
  | fail chain => Run.fail chain
  | panic p => Run.panic p
  | log d next => do
    Run.lift (change fun s => s.logged (.content d c.path))
    next.view env rec c
  | flag name on off => do
    let set ← Run.lift (site fun s => s.flag name)
    if set then on.view env rec c else off.view env rec c
  | setFlag name value next => do
    Run.lift (change fun s => s.setFlag name value)
    next.view env rec c
  | navigate path data replace next => do
    let navigator ← Run.lift (site Site.reachable?)
    if navigator.isSome then Run.lift (silently rec (.step (.navigate path data replace)))
    next.view env rec c
  | reset name next => do
    Run.modify fun w => (env.boundaries.lookup name).elim w w.heal
    next.view env rec c

/-- The view of a fallback. -/
def Fallback.view (b : Boundary Fallback) (f : Failure) : Act ℓ Data := do
  change fun s => s.logged (.fallback b.fallback.name f.message)
  Run.modify fun w => if b.fallback.resets then w.heal b.id else w
  match b.fallback.panic with
  | some p => Run.panic p
  | none => return .string (b.fallback.label ++ ": " ++ f.display)

/-- How the content of a session is rendered. -/
def renderer (env : Setup ℓ) (rec : Performer ℓ) (matcher : Option Matcher) :
    Renderer Content Fallback (Site ℓ) Data where
  matcher := matcher
  content := fun c context => c.view env rec context
  fallback := Fallback.view

/-- Notes that a path has been rendered, and logs it as an update if it is another than before. -/
def markRendered (tree : Tree) (path : String) (s : Site ℓ) : Site ℓ :=
  let s := s.passed path
  if s.lastRendered = some path then s
  else
    let s := { s with lastRendered := some path }
    if tree.reportsUpdates then s.logged (.updated path) else s

/-- Ends a pass that has rendered. If that updates the path, the listener of updates takes its turns. -/
def endPass (rec : Performer ℓ) (tree : Tree) (path : String) : Act ℓ Unit := do
  let last ← site Site.lastRendered
  change (markRendered tree path)
  if tree.reportsUpdates && last != some path then
    match tree.updater with
    | none => return ()
    | some number => silently rec (.turns number 0 (some path))

/-- A pass over the routes with the current path of the navigator. -/
def performRender (env : Setup ℓ) (rec : Performer ℓ) (tree : Tree) (path : String) :
    Act ℓ Answer := fun w =>
  let level := Context.child tree.base ∅
  let p := evaluateAll (renderer env rec tree.matcher) path.toList tree.base tree.routes level w
  match p.outcome with
  | .returned views =>
    let ended : Act ℓ Answer := do
      endPass rec tree path
      return .rendered (.ok views)
    ended p.stage
  | .failed e => (.returned (.rendered (.error e)), p.stage)
  | .panicked x => (.panicked x, p.stage)
  | .exhausted => (.exhausted, p.stage)

/-! ## Steps -/

/-- Moves the cursor of a history, and emits the event of traversals if it has moved. -/
def traverse (env : Setup ℓ) (rec : Performer ℓ) (history : Nat) (delta : Int) : Act ℓ Answer := do
  let h ← site fun s => if env.traverses then env.history? s history else none
  onTarget h fun h =>
    match h.go delta with
    | none => pure (.flag false)
    | some h => do
      change fun s => s.changeHistory history fun _ => h
      silently rec (.fire (history, popstate))
      return .flag true

/-- Forgets a subscription; `remove` tells whether its listener is removed. -/
def endSubscription (id : String) (remove : Bool) : Act ℓ Answer := do
  let sub ← site fun s => s.subscription? id
  match sub with
  | none => return .flag false
  | some sub =>
    change fun s => let s := s.forget id; if remove then s.cancel sub else s
    return .flag true

/-- Changes the site if a navigator can be reached. -/
def onNavigator (f : Site ℓ → Site ℓ) : Act ℓ Answer := do
  let navigator ← site Site.reachable?
  onTarget navigator fun _ => do
    change f
    return .nothing

/-- Changes the site if a history can be reached. -/
def onHistory (env : Setup ℓ) (history : Nat) (f : Site ℓ → Site ℓ) : Act ℓ Answer := do
  let h ← site fun s => env.history? s history
  onTarget h fun _ => do
    change f
    return .nothing

/-- The tree of the router, if it can be reached, with the current path of the navigator. -/
def Setup.tree? (env : Setup ℓ) (s : Site ℓ) : Option (Tree × String) := do
  let n ← s.reachable?
  let tree ← env.tree
  return (tree, n.path)

/-- Does a step. -/
def performStep (env : Setup ℓ) (rec : Performer ℓ) : Step ℓ → Act ℓ Answer
  | .navigate path data replace => do
    let navigator ← site Site.reachable?
    onTarget navigator fun _ => holding do
      change fun s => env.navigate s path data replace
      silently rec .refresh
      return .nothing
  | .refresh => do
    let navigator ← site Site.reachable?
    onTarget navigator fun _ => holding (rec .refresh)
  | .attach history event => do
    let h ← site fun s => env.history? s history
    onTarget h fun _ => onNavigator fun s => s.attach (history, event)
  | .detach => onNavigator Site.detach
  | .subscribe id listener => onNavigator fun s => s.subscribe id listener
  | .push history path data =>
    onHistory env history fun s => s.changeHistory history fun h => h.push ⟨path, data⟩
  | .replace history path data =>
    onHistory env history fun s => s.changeHistory history fun h => h.replace ⟨path, data⟩
  | .hostSubscribe history id event listener =>
    onHistory env history fun s => s.hostSubscribe (history, event) id listener
  | .back history => traverse env rec history (-1)
  | .forward history => traverse env rec history 1
  | .go history delta => traverse env rec history delta
  | .dispatch history event => do
    let h ← site fun s => if env.traverses then env.history? s history else none
    onTarget h fun _ => do
      silently rec (.fire (history, event))
      return .nothing
  | .unsubscribe id | .drop id => endSubscription id true
  | .keep id => endSubscription id false
  | .render => do
    let target ← site env.tree?
    onTarget target fun (tree, path) => holding (performRender env rec tree path)
  | .matchPath pattern path => do
    let target ← site env.tree?
    onTarget target fun (tree, _) =>
      onTarget tree.matcher fun matcher => pure (.matched (matcher pattern path))
  | .describe => fun w =>
    onTarget (env.tree? w.host) (fun (tree, path) =>
      pure (.described (Node.describeAll (fun id => (w.failure? id).isSome) tree.routes) path)) w
  | .close => do
    change Site.close
    return .nothing
  | .setCell path => do
    change fun s => { s with cell := path }
    return .nothing
  | .setFlag name value => do
    change fun s => s.setFlag name value
    return .nothing
  | .reset name =>
    match env.boundaries.lookup name with
    | none => pure (.flag false)
    | some id => do
      Run.modify fun w => w.heal id
      return .flag true
  | .panic p => Run.panic p

/-- Does a task, given a way to do the tasks inside it. -/
def perform (env : Setup ℓ) (rec : Performer ℓ) : Performer ℓ
  | .step s => performStep env rec s
  | .refresh => do
    change fun s => s.reread (env.currentPath s)
    performRefresh env rec
  | .round path => performRound rec path
  | .fire source => performFire rec source
  | .turns number turn value => performTurns env rec number turn value

/-- Does a task in which tasks are nested less than `depth` deep. -/
def run (env : Setup ℓ) : Nat → Performer ℓ
  | 0 => fun _ => Run.exhaust
  | depth + 1 => perform env (run env depth)

end NestedRouting
