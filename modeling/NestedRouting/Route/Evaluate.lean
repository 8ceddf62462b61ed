import NestedRouting.Route.Node
import NestedRouting.Route.Rendered

/-!
# Evaluating route trees

`evaluate` renders a node for one pass. The path is the same for the whole pass; the level is handed
from sibling to sibling, each of which adds its match or the failure that its boundary recovered.

A boundary that has failed shows its fallback in every pass in which its route renders, until it is
reset or its route renders nothing. It recovers failures and panics of the content below it, but not
the errors of the tree itself: those reach the caller.
-/

namespace NestedRouting

/-- Matches a full pattern against a path. -/
abbrev Matcher := Text → Text → Except SyntaxError (Option Match)

namespace Matcher

/-- Matches nothing. -/
def never : Matcher := fun _ _ => .ok none

/-- Matches a path that is spelled like the pattern. -/
def exact : Matcher := fun pattern path =>
  .ok (if pattern = path then some ⟨[some path], 0, path, ∅, pattern⟩ else none)

/-- Fails at the end of every pattern. -/
def failing : Matcher := fun pattern _ => .error (.unbalancedGroup pattern.byteLength)

/-- Compiles the pattern and matches the path. -/
def compiled (options : Options) : Matcher := fun pattern path =>
  (Pattern.compile options pattern).map fun p => p.exec path

end Matcher

/-- What passes leave behind: the failures that boundaries remember, and the state of the host. -/
structure Stage (σ : Type) where
  failures : List (Nat × Failure)
  host : σ

namespace Stage

variable {σ : Type}

/-- The failure of a boundary, if it has failed. -/
def failure? (s : Stage σ) (id : Nat) : Option Failure := s.failures.lookup id

/-- Lets a boundary forget its failure. -/
def heal (s : Stage σ) (id : Nat) : Stage σ :=
  { s with failures := s.failures.filter (·.1 ≠ id) }

/-- Lets a boundary remember a failure. -/
def fail (s : Stage σ) (id : Nat) (f : Failure) : Stage σ :=
  { s with failures := (id, f) :: (s.heal id).failures }

/-- Lets the boundary of a route that renders nothing forget its failure. -/
def release {φ : Type} (s : Stage σ) (b : Option (Boundary φ)) : Stage σ :=
  match b with
  | none => s
  | some b => s.heal b.id

end Stage

/-- What a pass needs from the host: a matcher, and how content and fallbacks make views of type `ν`.
Content can fail with a chain of messages. Both may change what passes leave behind. -/
structure Renderer (κ φ σ ν : Type) where
  matcher : Option Matcher
  content : κ → Context → Run (Stage σ) (List String) ν
  fallback : Boundary φ → Failure → Run (Stage σ) Empty ν

/-- What becomes of a route before its children are rendered. -/
inductive Entry
  /-- The tree is in error. -/
  | refused (e : RouteError)
  /-- The route renders nothing. -/
  | absent
  /-- The route shows that it must not inherit its parameters. -/
  | violates (v : Violation)
  /-- The children are rendered in the context `child`; the route is called `name`, and the level is
  now `level`. -/
  | enters (name : Text) (child level : Context)

/-- Decides what becomes of a route. -/
def enter (matcher : Option Matcher) (path : Text) (level : Context) (pattern : Option Text) :
    Entry :=
  match matcher with
  | none => .refused .missingMatcher
  | some matcher =>
    match pattern with
    | none =>
      match level.violation? with
      | some v => .violates v
      | none =>
        if level.isClaimed then .absent
        else .enters level.path (.child level.path level.params) level
    | some pattern =>
      let full := level.path ++ pattern
      match matcher full path with
      | .error e => .refused (.badPattern full e)
      | .ok none => .absent
      | .ok (some m) =>
        .enters full (.child m.consumed m.params) { level with matched := level.matched ++ [m] }

/-- The end of a pass over a part of a tree: how it ended, and the level and stage it left. -/
structure Pass (σ α : Type) where
  outcome : Outcome RouteError α
  level : Context
  stage : Stage σ

variable {κ φ σ ν : Type}

/-- Shows the fallback of a boundary in the route whose children failed: the boundary and the level
remember the failure. `inner` is the context of the children. -/
def recover (r : Renderer κ φ σ ν) (b : Boundary φ) (f : Failure) (inner level : Context)
    (stage : Stage σ) : Pass σ (Option (Rendered ν)) :=
  let level := { level with failure := some f }
  match r.fallback b f (stage.fail b.id f) with
  | (.returned view, stage) =>
    ⟨.returned (some (.route inner [.fallback f view])), level, stage⟩
  | (.failed e, _) => nomatch e
  | (.panicked p, stage) => ⟨.panicked p, level, stage⟩
  | (.exhausted, stage) => ⟨.exhausted, level, stage⟩

/-- Ends a route whose children have been rendered, where a boundary recovers what it can. -/
def settle (r : Renderer κ φ σ ν) (boundary : Option (Boundary φ)) (name : Text) (level : Context)
    (p : Pass σ (List (Rendered ν))) : Pass σ (Option (Rendered ν)) :=
  match p.outcome, boundary with
  | .returned views, _ => ⟨.returned (some (.route p.level views)), level, p.stage⟩
  | .failed (.render f), some b => recover r b f p.level level p.stage
  | .panicked x, some b => recover r b (.ofPanic name x) p.level level p.stage
  | .failed e, _ => ⟨.failed e, level, p.stage⟩
  | .panicked x, none => ⟨.panicked x, level, p.stage⟩
  | .exhausted, _ => ⟨.exhausted, level, p.stage⟩

/-- The failure that a boundary remembers, with the boundary. -/
def remembered? (boundary : Option (Boundary φ)) (stage : Stage σ) :
    Option (Boundary φ × Failure) := do
  let b ← boundary
  let f ← stage.failure? b.id
  return (b, f)

mutual

/-- Renders a node. The failures of content are those of the route called `owner`. A node that
renders nothing yields none. -/
def evaluate (r : Renderer κ φ σ ν) (path owner : Text) :
    Node κ φ → Context → Stage σ → Pass σ (Option (Rendered ν))
  | .content c, level, stage =>
    match r.content c level stage with
    | (.returned view, stage) => ⟨.returned (some (.content view)), level, stage⟩
    | (.failed chain, stage) => ⟨.failed (.render (.ofChain owner chain)), level, stage⟩
    | (.panicked x, stage) => ⟨.panicked x, level, stage⟩
    | (.exhausted, stage) => ⟨.exhausted, level, stage⟩
  | .route pattern boundary children, level, stage =>
    match enter r.matcher path level pattern with
    | .refused e => ⟨.failed e, level, stage⟩
    | .absent => ⟨.returned none, level, stage.release boundary⟩
    | .violates v => ⟨.returned (some (.diagnostic v)), level, stage.release boundary⟩
    | .enters name child level =>
      match remembered? boundary stage with
      | some (b, f) => recover r b f child level stage
      | none => settle r boundary name level (evaluateAll r path name children child stage)

/-- Renders siblings in order, until one fails or panics. -/
def evaluateAll (r : Renderer κ φ σ ν) (path owner : Text) :
    List (Node κ φ) → Context → Stage σ → Pass σ (List (Rendered ν))
  | [], level, stage => ⟨.returned [], level, stage⟩
  | n :: ns, level, stage =>
    let p := evaluate r path owner n level stage
    match p.outcome with
    | .returned view =>
      let q := evaluateAll r path owner ns p.level p.stage
      match q.outcome with
      | .returned views => ⟨.returned (view.toList ++ views), q.level, q.stage⟩
      | .failed e => ⟨.failed e, q.level, q.stage⟩
      | .panicked x => ⟨.panicked x, q.level, q.stage⟩
      | .exhausted => ⟨.exhausted, q.level, q.stage⟩
    | .failed e => ⟨.failed e, p.level, p.stage⟩
    | .panicked x => ⟨.panicked x, p.level, p.stage⟩
    | .exhausted => ⟨.exhausted, p.level, p.stage⟩

end

end NestedRouting
