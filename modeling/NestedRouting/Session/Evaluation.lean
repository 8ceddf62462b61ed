import NestedRouting.Session.Open

/-!
# Evaluating nodes one at a time

A session without a router: nodes are evaluated against one level, which they change and which can be
set anew. Content finds no navigator.
-/

namespace NestedRouting.Evaluation

/-- A step of such a session. -/
inductive Step
  /-- Sets the level, unless there is a syntax error in its description. -/
  | level (l : Except SyntaxError Context)
  | eval (node : Nat) (path : Text)
  | setFlag (name : String) (value : Bool)
  | reset (name : String)
  | describe

/-- What a step is answered. -/
inductive Answer
  | nothing
  | refused (e : SyntaxError)
  | evaluated (r : Except RouteError (Option (Rendered Data)))
  | flag (b : Bool)
  | described (routes : List Description)

/-- What stays the same: the nodes, the matcher and the named boundaries. -/
structure Setup where
  nodes : List (Node Content Fallback)
  matcher : Option Matcher
  boundaries : List (String × Nat)

/-- The level, and what evaluations leave behind. -/
structure State where
  level : Context
  world : World (List Reaction)

/-- The state before the first step. -/
def State.start : State := ⟨.root, [], .start "" ""⟩

/-- How content is rendered. -/
def Setup.renderer (env : Setup) : Renderer Content Fallback (Site (List Reaction)) Data :=
  NestedRouting.renderer ⟨Reaction.listen, .history, false, false, none, env.boundaries⟩
    (fun _ => Run.exhaust) env.matcher

/-- Takes a step. -/
def take (env : Setup) (s : State) : Step → Outcome Empty Answer × State
  | .level (.ok level) => (.returned .nothing, { s with level })
  | .level (.error e) => (.returned (.refused e), s)
  | .eval node path =>
    match env.nodes[node]? with
    | none => (.returned .nothing, s)
    | some n =>
      let p := evaluate env.renderer path s.level.path n s.level s.world
      let s := ⟨p.level, p.stage⟩
      match p.outcome with
      | .returned r => (.returned (.evaluated (.ok r)), s)
      | .failed e => (.returned (.evaluated (.error e)), s)
      | .panicked x => (.panicked x, s)
      | .exhausted => (.exhausted, s)
  | .setFlag name value =>
    (.returned .nothing,
      { s with world := { s.world with host := s.world.host.setFlag name value } })
  | .reset name =>
    match env.boundaries.lookup name with
    | none => (.returned (.flag false), s)
    | some id => (.returned (.flag true), { s with world := s.world.heal id })
  | .describe =>
    let failed := fun id => (s.world.failure? id).isSome
    (.returned (.described (Node.describeAll failed env.nodes)), s)

/-- How each of the given steps ends, and the state after it with what was logged meanwhile. -/
def play (env : Setup) (s : State) : List Step → List (Outcome Empty Answer × State)
  | [] => []
  | x :: steps =>
    let cleared := { s.world with host := { s.world.host with log := [] } }
    let (o, s) := take env { s with world := cleared } x
    (o, s) :: play env s steps

end NestedRouting.Evaluation
