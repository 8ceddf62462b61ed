import NestedRouting.Session.Site

/-!
# Reactions

The listeners of a session given as data: lists of reactions. A reaction takes its steps when the
value that the listener is notified of is the one it waits for, as long as it has runs left. The
number of steps that a script can lead to (`stepsWeight`) bounds how deeply they can be nested.
-/

namespace NestedRouting

/-- What a listener does: the value it waits for, if it does not react to every value; how many times
it reacts; and the steps that it takes. -/
inductive Reaction
  | mk (on : Option String) (times : Nat) (steps : List (Step (List Reaction)))

/-- A step whose listeners are given as data. -/
abbrev ScriptStep := Step (List Reaction)

namespace Reaction

/-- Whether runs are left and the value is the one that is waited for. -/
def fires (on : Option String) (times : Nat) (value : Option String) : Bool :=
  times != 0 && (on.isNone || on == value)

/-- The turns of a listener: one for each reaction. A run is counted before its steps are taken. -/
def listen (rs : List Reaction) (turn : Nat) (value : Option String) :
    Option (List ScriptStep × List Reaction) :=
  match rs[turn]? with
  | none => none
  | some (mk on times steps) =>
    if fires on times value then some (steps, rs.set turn (mk on (times - 1) steps))
    else some ([], rs)

end Reaction

mutual

/-- How many steps a reaction can lead to. -/
def Reaction.weight : Reaction → Nat
  | .mk _ times steps => 1 + times * (1 + stepsWeight steps)

/-- How many steps the reactions of a listener can lead to. -/
def reactionsWeight : List Reaction → Nat
  | [] => 0
  | r :: rs => r.weight + reactionsWeight rs

/-- How many steps a step can lead to, itself included. -/
def stepWeight : ScriptStep → Nat
  | .subscribe _ rs => 1 + reactionsWeight rs
  | .hostSubscribe _ _ _ rs => 1 + reactionsWeight rs
  | .navigate .. | .refresh | .attach .. | .detach | .push .. | .replace .. | .back _ | .forward _
  | .go .. | .dispatch .. | .unsubscribe _ | .drop _ | .keep _ | .render | .matchPath .. | .describe
  | .close | .setCell _ | .setFlag .. | .reset _ | .panic _ => 1

/-- How many steps a list of steps can lead to. -/
def stepsWeight : List ScriptStep → Nat
  | [] => 0
  | s :: ss => stepWeight s + stepsWeight ss

end

mutual

/-- The number of parts of the content of a node. -/
def contentSize : Node Content Fallback → Nat
  | .content c => c.size
  | .route _ _ children => contentsSize children

/-- The number of parts of the content of nodes. -/
def contentsSize : List (Node Content Fallback) → Nat
  | [] => 0
  | n :: ns => contentSize n + contentsSize ns

end

/-- How deeply tasks can be nested in a session of the given steps. On the way down to a task lie at
most as many steps as the script can lead to and as many again that content takes; each adds the turns
of one listener, and each step taken meanwhile one more round of notifications. -/
def depthOf (env : Setup (List Reaction)) (steps : List ScriptStep) : Nat :=
  let weight := stepsWeight steps
  let contents := (env.tree.map fun t => contentsSize t.routes).getD 0
  4 * (weight + 4) * (weight + contents + 8)

end NestedRouting
