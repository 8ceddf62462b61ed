import NestedRouting.Proofs.Route.Boundaries
import Mathlib.Logic.Relation

/-!
# Where errors go

A pass over a node visits nodes below it: a `Visit` is a node with the level and the stage that it
is evaluated from, and one visit stands `Below` another when the pass over the second comes to the
first. What goes wrong at a visit ends the siblings it stands among (`evaluateAll_passed`); what the
route above makes of that is said by `settle`. So an error of the tree goes through every boundary
and changes nothing on its way, a failure or panic of content goes through routes without a boundary,
and neither leaves a route that has one (`evaluate_routes_errors`).
-/

namespace NestedRouting

/-- A node in a pass: the route that owns its content, and the level and the stage from which it is
evaluated. -/
structure Visit (κ φ σ : Type) where
  node : Node κ φ
  owner : Text
  level : Context
  stage : Stage σ

/-- Two pieces of code go wrong in the same way. -/
inductive Outcome.Passed {ε α β : Type} : Outcome ε α → Outcome ε β → Prop
  | failed (e : ε) : Passed (.failed e) (.failed e)
  | panicked (p : Payload) : Passed (.panicked p) (.panicked p)
  | exhausted : Passed .exhausted .exhausted

/-- A failure that is passed on is the same failure. -/
theorem Outcome.Passed.eq_failed {ε α β : Type} {e : ε} {o : Outcome ε β}
    (h : (Outcome.failed e : Outcome ε α).Passed o) : o = .failed e := by
  cases h
  rfl

/-- Whether an error is one of the tree itself, which no boundary recovers. -/
def RouteError.IsStructural : RouteError → Prop
  | missingMatcher | badPattern .. => True
  | render _ => False

section
variable {κ φ σ ν : Type}

namespace Node

/-- The pattern of a route, if it has one. -/
def pattern? : Node κ φ → Option Text
  | content _ => none
  | route pattern _ _ => pattern

/-- The boundary of a route, if it has one. -/
def boundary? : Node κ φ → Option (Boundary φ)
  | content _ => none
  | route _ boundary _ => boundary

end Node

/-- Every fallback returns. -/
def Renderer.FallbacksReturn (r : Renderer κ φ σ ν) : Prop :=
  ∀ b f stage, ∃ view after, r.fallback b f stage = (.returned view, after)

namespace Visit

/-- What a route is called in a pass: the path of its level, with its pattern behind it if it has
one. -/
def name (v : Visit κ φ σ) : Text := v.level.path ++ v.node.pattern?.getD []

/-- The pass over the node of a visit. -/
def pass (r : Renderer κ φ σ ν) (path : Text) (v : Visit κ φ σ) :
    Pass σ (Option (Rendered ν)) :=
  evaluate r path v.owner v.node v.level v.stage

/-- A visit leads to another one directly below it: the route enters, its boundary has not failed, and
the children before the other node return. -/
inductive Leads (r : Renderer κ φ σ ν) (path : Text) : Visit κ φ σ → Visit κ φ σ → Prop
  | intro {owner name : Text} {pattern : Option Text} {boundary : Option (Boundary φ)}
      {before behind : List (Node κ φ)} {node : Node κ φ} {level child entered : Context}
      {stage : Stage σ} {views : List (Rendered ν)}
      (henter : enter r.matcher path level pattern = .enters name child entered)
      (hhealthy : remembered? boundary stage = none)
      (hbefore : (evaluateAll r path name before child stage).outcome = .returned views) :
      Leads r path ⟨.route pattern boundary (before ++ node :: behind), owner, level, stage⟩
        ⟨node, name, (evaluateAll r path name before child stage).level,
          (evaluateAll r path name before child stage).stage⟩

/-- A visit is another one, or stands below it. -/
def Below (r : Renderer κ φ σ ν) (path : Text) : Visit κ φ σ → Visit κ φ σ → Prop :=
  Relation.ReflTransGen (Leads r path)

/-- The error that the node of a visit raises itself. -/
def Raises (r : Renderer κ φ σ ν) (path : Text) (v : Visit κ φ σ) (e : RouteError) : Prop :=
  ∃ pattern boundary children, v.node = .route pattern boundary children ∧
    enter r.matcher path v.level pattern = .refused e

/-- The node of a visit is content, and it fails with a chain of messages. -/
def Fails (r : Renderer κ φ σ ν) (v : Visit κ φ σ) (chain : List String) : Prop :=
  ∃ c after, v.node = .content c ∧ r.content c v.level v.stage = (.failed chain, after)

end Visit

variable {r : Renderer κ φ σ ν} {path owner : Text} {level : Context} {stage : Stage σ}
  {e : RouteError}

/-! ## One route -/

/-- The errors that routes raise themselves are errors of the tree. -/
theorem isStructural_of_enter {pattern : Option Text}
    (h : enter r.matcher path level pattern = .refused e) : e.IsStructural := by
  unfold enter at h
  split at h
  · cases h
    trivial
  · split at h
    · split at h
      · cases h
      · split at h <;> cases h
    · simp only at h
      split at h
      · cases h
        trivial
      · cases h
      · cases h

/-- A route is called by the path of its level and its pattern. -/
theorem name_of_enter {pattern : Option Text} {name : Text} {child entered : Context}
    (h : enter r.matcher path level pattern = .enters name child entered) :
    name = level.path ++ pattern.getD [] := by
  unfold enter at h
  split at h
  · cases h
  · split at h
    · split at h
      · cases h
      · split at h
        · cases h
        · cases h
          exact (List.append_nil _).symm
    · simp only at h
      split at h <;> cases h
      rfl

/-- A route that enters renders its children in a fresh context. It adds its match to the level, if it
has one, and nothing else. -/
theorem contexts_of_enter {pattern : Option Text} {name : Text} {child entered : Context}
    (h : enter r.matcher path level pattern = .enters name child entered) :
    child = .child child.path child.params ∧
      ∃ found : List Match, entered = { level with matched := level.matched ++ found } := by
  unfold enter at h
  split at h
  · cases h
  · split at h
    · split at h
      · cases h
      · split at h
        · cases h
        · cases h
          exact ⟨rfl, [], by rw [List.append_nil]⟩
    · simp only at h
      split at h
      · cases h
      · cases h
      · cases h
        exact ⟨rfl, _, rfl⟩

/-- What goes wrong at a node ends the siblings it stands among, where those before it return. -/
theorem evaluateAll_passed {before : List (Node κ φ)} {node : Node κ φ}
    (behind : List (Node κ φ)) :
    ∀ {level : Context} {stage : Stage σ} {views : List (Rendered ν)}
      {o : Outcome RouteError (Option (Rendered ν))} {l : Context} {s : Stage σ},
      (evaluateAll r path owner before level stage).outcome = .returned views →
      evaluate r path owner node (evaluateAll r path owner before level stage).level
        (evaluateAll r path owner before level stage).stage = ⟨o, l, s⟩ →
      (∀ view, o ≠ .returned view) →
      ∃ o', o.Passed o' ∧
        evaluateAll r path owner (before ++ node :: behind) level stage = ⟨o', l, s⟩ := by
  induction before with
  | nil =>
    intro level stage views o l s _ hnode hwrong
    simp only [evaluateAll] at hnode
    simp only [List.nil_append, evaluateAll, hnode]
    cases o with
    | returned view => exact absurd rfl (hwrong view)
    | failed e => exact ⟨_, .failed e, rfl⟩
    | panicked p => exact ⟨_, .panicked p, rfl⟩
    | exhausted => exact ⟨_, .exhausted, rfl⟩
  | cons n before ih =>
    intro level stage views o l s hbefore hnode hwrong
    obtain ⟨view, later, hview, hlater, -, hlevel, hstage⟩ := evaluateAll_cons_returned hbefore
    rw [hlevel, hstage] at hnode
    obtain ⟨o', hpassed, hall⟩ := ih hlater hnode hwrong
    refine ⟨o', hpassed, ?_⟩
    simp only [List.cons_append, evaluateAll, hview, hall]
    cases hpassed <;> rfl

/-- A route that enters with a boundary that has not failed ends its children. -/
theorem evaluate_of_enters {pattern : Option Text} {boundary : Option (Boundary φ)}
    {children : List (Node κ φ)} {name : Text} {child entered : Context}
    (henter : enter r.matcher path level pattern = .enters name child entered)
    (hhealthy : remembered? boundary stage = none) :
    evaluate r path owner (.route pattern boundary children) level stage =
      settle r boundary name entered (evaluateAll r path name children child stage) := by
  simp only [evaluate, henter, hhealthy]

/-- An error of the tree goes through every route. -/
theorem settle_structural {boundary : Option (Boundary φ)} {name : Text}
    {p : Pass σ (List (Rendered ν))} (he : e.IsStructural) (h : p.outcome = .failed e) :
    settle r boundary name level p = ⟨.failed e, level, p.stage⟩ := by
  unfold settle
  rw [h]
  cases e with
  | render f => exact he.elim
  | missingMatcher | badPattern => cases boundary <;> rfl

/-- What goes wrong goes through a route without a boundary. -/
theorem settle_unguarded {name : Text} {p : Pass σ (List (Rendered ν))}
    {o : Outcome RouteError (Option (Rendered ν))} (h : o.Passed p.outcome) :
    settle r none name level p = ⟨o, level, p.stage⟩ := by
  unfold settle
  generalize p.outcome = o' at h
  cases h with
  | failed e => cases e <;> rfl
  | panicked | exhausted => rfl

/-- A route without a boundary fails as its children do. -/
theorem failed_of_settle {name : Text} {p : Pass σ (List (Rendered ν))}
    (h : (settle r none name level p).outcome = .failed e) : p.outcome = .failed e := by
  obtain ⟨o, inner, after⟩ := p
  cases o with
  | failed e' =>
    cases e' <;>
    · cases h
      rfl
  | returned | panicked | exhausted => cases h

/-! ## Boundaries -/

/-- Neither a failure of content nor a panic. -/
def Outcome.IsContained {α : Type} : Outcome RouteError α → Prop
  | .failed (.render _) | .panicked _ => False
  | .returned _ | .failed .missingMatcher | .failed (.badPattern ..) | .exhausted => True

/-- What is contained is neither a failure of content nor a panic. -/
theorem Outcome.IsContained.ne {α : Type} {o : Outcome RouteError α} (h : o.IsContained) :
    (∀ f, o ≠ .failed (.render f)) ∧ ∀ p, o ≠ .panicked p :=
  ⟨fun _ ho => by rw [ho] at h; exact h, fun _ ho => by rw [ho] at h; exact h⟩

/-- A boundary whose fallback returns recovers. -/
theorem recover_isContained (hr : r.FallbacksReturn) (b : Boundary φ) (f : Failure)
    (inner level : Context) (stage : Stage σ) :
    (recover r b f inner level stage).outcome.IsContained := by
  obtain ⟨view, after, h⟩ := hr b f (stage.fail b.id f)
  rw [outcome_recover h]
  trivial

/-- A route with a boundary contains what goes wrong below it. -/
theorem settle_isContained (hr : r.FallbacksReturn) (b : Boundary φ) (name : Text)
    (level : Context) (p : Pass σ (List (Rendered ν))) :
    (settle r (some b) name level p).outcome.IsContained := by
  obtain ⟨o, inner, after⟩ := p
  cases o with
  | returned views => trivial
  | failed e =>
    cases e with
    | render f => exact recover_isContained hr b f inner level after
    | missingMatcher | badPattern => trivial
  | panicked x => exact recover_isContained hr b (.ofPanic name x) inner level after
  | exhausted => trivial

/-- A route with a boundary lets out neither a failure of content nor a panic. -/
theorem evaluate_isContained (hr : r.FallbacksReturn) (pattern : Option Text) (b : Boundary φ)
    (children : List (Node κ φ)) (owner : Text) (level : Context) (stage : Stage σ) :
    (evaluate r path owner (.route pattern (some b) children) level stage).outcome.IsContained := by
  simp only [evaluate]
  cases henter : enter r.matcher path level pattern with
  | refused e =>
    cases e with
    | render f => exact (isStructural_of_enter henter).elim
    | missingMatcher | badPattern => trivial
  | absent | violates => trivial
  | enters name child entered =>
    simp only
    split
    · next b' f _ => exact recover_isContained hr b' f child entered stage
    · exact settle_isContained hr b name entered _

/-! ## From a visit to the visits above it -/

/-- The boundaries of a node are among those of the siblings it stands among. -/
theorem Node.boundaryIds_subset {n : Node κ φ} {ns : List (Node κ φ)} (h : n ∈ ns) :
    n.boundaryIds ⊆ Node.boundaryIdsAll ns := by
  induction ns with
  | nil => cases h
  | cons m ns ih =>
    rw [Node.boundaryIdsAll]
    rcases List.mem_cons.1 h with rfl | h
    · exact List.subset_append_left _ _
    · exact List.subset_append_of_subset_right _ (ih h)

/-- A node without boundaries has none of its own. -/
theorem Node.boundary?_eq_none {n : Node κ φ} (h : n.boundaryIds = []) : n.boundary? = none := by
  cases n with
  | content => rfl
  | route pattern boundary children =>
    cases boundary with
    | none => rfl
    | some b => cases h

namespace Visit

variable {u v w : Visit κ φ σ}

/-- The content of a route fails as content of the route. -/
theorem Leads.owner_eq (h : Leads r path u v) : v.owner = u.name := by
  cases h with
  | intro henter => exact name_of_enter henter

/-- What goes wrong at a visit is what the route above it has to settle, on the stage that the visit
left. -/
theorem Leads.settle (h : Leads r path u v)
    (hwrong : ∀ view, (v.pass r path).outcome ≠ .returned view) :
    ∃ (entered : Context) (p : Pass σ (List (Rendered ν))),
      entered.failure = u.level.failure ∧ (v.pass r path).outcome.Passed p.outcome ∧
      p.stage = (v.pass r path).stage ∧
      u.pass r path = NestedRouting.settle r u.node.boundary? u.name entered p := by
  cases h with
  | @intro owner name pattern boundary before behind node level child entered stage views henter
      hhealthy hbefore =>
    obtain ⟨o, hpassed, hall⟩ := evaluateAll_passed behind hbefore rfl hwrong
    obtain ⟨-, found, hentered⟩ := contexts_of_enter henter
    have hname := congrArg (NestedRouting.settle r boundary · entered
      (evaluateAll r path name (before ++ node :: behind) child stage)) (name_of_enter henter)
    refine ⟨entered, _, by rw [hentered], ?_, ?_,
      (evaluate_of_enters henter hhealthy).trans hname⟩
    · rw [hall]
      exact hpassed
    · rw [hall]
      rfl

/-- An error of the tree goes from a visit to the one above it: it ends that one too, and leaves the
stage and the failure of its level as they are. -/
theorem Leads.structural (h : Leads r path u v) (he : e.IsStructural)
    (hv : (v.pass r path).outcome = .failed e) :
    (u.pass r path).outcome = .failed e ∧ (u.pass r path).stage = (v.pass r path).stage ∧
      (u.pass r path).level.failure = u.level.failure := by
  have hwrong : ∀ view, (v.pass r path).outcome ≠ .returned view := by
    rw [hv]
    exact nofun
  obtain ⟨entered, p, hfailure, hpassed, hstage, hu⟩ := h.settle hwrong
  rw [hu, settle_structural he (hv ▸ hpassed).eq_failed]
  exact ⟨rfl, hstage, hfailure⟩

/-- The boundaries below a visit are among those of the tree. -/
theorem Leads.boundaryIds (h : Leads r path u v) : v.node.boundaryIds ⊆ u.node.boundaryIds := by
  cases h with
  | intro =>
    rw [Node.boundaryIds]
    exact List.subset_append_of_subset_right _
      (Node.boundaryIds_subset (List.mem_append_right _ (List.mem_cons_self ..)))

/-- In a tree without boundaries what goes wrong at a visit goes wrong at the one above it. -/
theorem Leads.unguarded (h : Leads r path u v) (hu : u.node.boundaryIds = [])
    (hwrong : ∀ view, (v.pass r path).outcome ≠ .returned view) :
    (u.pass r path).outcome = (v.pass r path).outcome := by
  obtain ⟨entered, p, -, hpassed, -, hpass⟩ := h.settle hwrong
  rw [hpass, Node.boundary?_eq_none hu, settle_unguarded hpassed]

/-- An error of the tree reaches every visit above the one that raises it. On the way the stage stays
as it is, and no level notes a failure. -/
theorem Below.structural (h : Below r path u v) (he : v.Raises r path e) :
    (u.pass r path).outcome = .failed e ∧ (u.pass r path).stage = v.stage ∧
      (u.pass r path).level.failure = u.level.failure := by
  obtain ⟨pattern, boundary, children, hnode, henter⟩ := he
  induction h using Relation.ReflTransGen.head_induction_on with
  | refl =>
    obtain ⟨node, owner, level, stage⟩ := v
    subst hnode
    simp only [pass, evaluate, henter]
    exact ⟨trivial, trivial, trivial⟩
  | head hleads _ ih =>
    obtain ⟨houtcome, hstage, -⟩ := ih
    obtain ⟨houtcome', hstage', hfailure⟩ :=
      hleads.structural (isStructural_of_enter henter) houtcome
    exact ⟨houtcome', hstage'.trans hstage, hfailure⟩

/-- In a tree without boundaries what goes wrong at a visit goes wrong at every visit above it. -/
theorem Below.unguarded (h : Below r path u v) (hu : u.node.boundaryIds = [])
    (hwrong : ∀ view, (v.pass r path).outcome ≠ .returned view) :
    (u.pass r path).outcome = (v.pass r path).outcome := by
  induction h using Relation.ReflTransGen.head_induction_on with
  | refl => rfl
  | head hleads _ ih =>
    have hbelow := ih (List.subset_nil.1 (hu ▸ hleads.boundaryIds))
    rw [← hbelow] at hwrong
    exact (hleads.unguarded hu hwrong).trans hbelow

/-- Content that fails ends its pass with its failure. -/
theorem Fails.outcome_eq {chain : List String} (h : v.Fails r chain) :
    (v.pass r path).outcome = .failed (.render (.ofChain v.owner chain)) := by
  obtain ⟨c, after, hnode, hcontent⟩ := h
  obtain ⟨node, owner, level, stage⟩ := v
  subst hnode
  simp only [pass, evaluate, hcontent]

end Visit

/-! ## The content that fails -/

mutual

/-- In a tree without boundaries a failure is that of content below. -/
theorem exists_fails_of_evaluate {f : Failure} :
    ∀ (n : Node κ φ) (owner : Text) (level : Context) (stage : Stage σ), n.boundaryIds = [] →
      (evaluate r path owner n level stage).outcome = .failed (.render f) →
      ∃ (v : Visit κ φ σ) (chain : List String), Visit.Below r path ⟨n, owner, level, stage⟩ v ∧
        v.Fails r chain ∧ f = .ofChain v.owner chain
  | .content c, owner, level, stage, _, h => by
    simp only [evaluate] at h
    split at h
    · cases h
    · next chain after hcontent =>
      cases h
      exact ⟨_, chain, .refl, ⟨c, after, rfl, hcontent⟩, rfl⟩
    · cases h
    · cases h
  | .route pattern boundary children, owner, level, stage, hids, h => by
    rw [Node.boundaryIds, List.append_eq_nil_iff] at hids
    obtain ⟨hboundary, hchildren⟩ := hids
    obtain rfl : boundary = none := by
      cases boundary with
      | none => rfl
      | some b => cases hboundary
    cases henter : enter r.matcher path level pattern with
    | refused e =>
      simp only [evaluate, henter] at h
      cases h
      exact (isStructural_of_enter henter).elim
    | absent | violates =>
      simp only [evaluate, henter] at h
      cases h
    | enters name child entered =>
      rw [evaluate_of_enters henter rfl] at h
      have hfailed := failed_of_settle h
      obtain ⟨before, node, behind, views, v, chain, rfl, hbefore, hbelow, hfails, hf⟩ :=
        exists_fails_of_evaluateAll children name child stage hchildren hfailed
      exact ⟨v, chain, .head (.intro henter rfl hbefore) hbelow, hfails, hf⟩

/-- Among siblings without boundaries a failure is that of content below the one that ended them. -/
theorem exists_fails_of_evaluateAll {f : Failure} :
    ∀ (ns : List (Node κ φ)) (owner : Text) (level : Context) (stage : Stage σ),
      Node.boundaryIdsAll ns = [] →
      (evaluateAll r path owner ns level stage).outcome = .failed (.render f) →
      ∃ (before : List (Node κ φ)) (node : Node κ φ) (behind : List (Node κ φ))
        (views : List (Rendered ν)) (v : Visit κ φ σ) (chain : List String),
        ns = before ++ node :: behind ∧
        (evaluateAll r path owner before level stage).outcome = .returned views ∧
        Visit.Below r path ⟨node, owner, (evaluateAll r path owner before level stage).level,
          (evaluateAll r path owner before level stage).stage⟩ v ∧
        v.Fails r chain ∧ f = .ofChain v.owner chain
  | [], _, _, _, _, h => by
    simp only [evaluateAll] at h
    cases h
  | n :: ns, owner, level, stage, hids, h => by
    rw [Node.boundaryIdsAll, List.append_eq_nil_iff] at hids
    simp only [evaluateAll] at h
    cases hn : (evaluate r path owner n level stage).outcome with
    | returned view =>
      have hlater : (evaluateAll r path owner ns (evaluate r path owner n level stage).level
          (evaluate r path owner n level stage).stage).outcome = .failed (.render f) := by
        simp only [hn] at h
        split at h
        · cases h
        · next houtcome =>
          cases h
          exact houtcome
        · cases h
        · cases h
      obtain ⟨before, node, behind, views, v, chain, rfl, hbefore, hbelow, hfails, hf⟩ :=
        exists_fails_of_evaluateAll ns owner _ _ hids.2 hlater
      refine ⟨n :: before, node, behind, view.toList ++ views, v, chain, rfl, ?_, ?_, hfails, hf⟩
      · simp only [evaluateAll, hn, hbefore]
      · simpa only [evaluateAll, hn, hbefore] using hbelow
    | failed e =>
      simp only [hn] at h
      cases h
      obtain ⟨v, chain, hbelow, hfails, hf⟩ :=
        exists_fails_of_evaluate n owner level stage hids.1 hn
      exact ⟨[], n, ns, [], v, chain, rfl, by simp only [evaluateAll], by
        simpa only [evaluateAll] using hbelow, hfails, hf⟩
    | panicked | exhausted =>
      simp only [hn] at h
      cases h

end

/-! ## Errors of a pass -/

/-- Where errors go, over every tree, level and stage. A route with a boundary lets out neither a
failure of content nor a panic. An error of the tree reaches every visit above the one that raises it
unchanged, through boundaries too: none of them changes on the way, as the stage stays what it was
when the error was raised, and no level notes a failure. In a tree without boundaries a pass fails
with a failure if and only if it comes to content that fails, behind siblings that all return, and the
failure is that of this content. -/
theorem evaluate_routes_errors (hr : r.FallbacksReturn) (path : Text) :
    (∀ pattern b children owner level stage,
      (∀ f, (evaluate r path owner (.route pattern (some b) children) level stage).outcome ≠
        .failed (.render f)) ∧
      ∀ p, (evaluate r path owner (.route pattern (some b) children) level stage).outcome ≠
        .panicked p) ∧
    (∀ u v e, Visit.Below r path u v → v.Raises r path e → e.IsStructural ∧
      ∀ w, Visit.Below r path u w → Visit.Below r path w v →
        (w.pass r path).outcome = .failed e ∧ (w.pass r path).stage = v.stage ∧
          (w.pass r path).level.failure = w.level.failure) ∧
    ∀ u : Visit κ φ σ, u.node.boundaryIds = [] → ∀ f,
      (u.pass r path).outcome = .failed (.render f) ↔
        ∃ v chain, Visit.Below r path u v ∧ v.Fails r chain ∧ f = .ofChain v.owner chain := by
  refine ⟨fun pattern b children owner level stage =>
    (evaluate_isContained hr pattern b children owner level stage).ne, ?_, ?_⟩
  · intro u v e _ hraises
    obtain ⟨_, _, _, _, henter⟩ := id hraises
    exact ⟨isStructural_of_enter henter, fun w _ hwv => hwv.structural hraises⟩
  · intro u hu f
    constructor
    · exact exists_fails_of_evaluate u.node u.owner u.level u.stage hu
    · rintro ⟨v, chain, hbelow, hfails, rfl⟩
      have houtcome : (v.pass r path).outcome = .failed (.render (.ofChain v.owner chain)) :=
        hfails.outcome_eq
      rw [hbelow.unguarded hu (by rw [houtcome]; exact nofun), houtcome]

end

/-- A pattern that cannot be read, below two boundaries and behind content that renders: the error
comes out of both, and neither remembers a failure. -/
theorem badPattern_through_boundaries :
    let r := Renderer.ofTexts .failing
    let inner : Node (Option String) Unit :=
      .route none (some ⟨1, ()⟩) [.content (some "x"), .route (some ['y']) none []]
    let u : Visit (Option String) Unit Unit :=
      ⟨.route none (some ⟨0, ()⟩) [inner], [], .root, ⟨[], ()⟩⟩
    let v : Visit (Option String) Unit Unit := ⟨.route (some ['y']) none [], [], .root, ⟨[], ()⟩⟩
    let e : RouteError := .badPattern ['y'] (.unbalancedGroup 1)
    r.FallbacksReturn ∧ Visit.Below r [] u v ∧ v.Raises r [] e ∧
      (u.pass r []).outcome = .failed e ∧ (u.pass r []).stage.failures = [] := by
  intro r inner u v e
  have hr : r.FallbacksReturn := fun _ _ _ => ⟨_, _, rfl⟩
  let w : Visit (Option String) Unit Unit := ⟨inner, [], .root, ⟨[], ()⟩⟩
  have huw : Visit.Leads r [] u w :=
    @Visit.Leads.intro _ _ _ _ r [] [] [] none _ [] [] inner .root .root .root _ [] rfl rfl rfl
  have hwv : Visit.Leads r [] w v :=
    @Visit.Leads.intro _ _ _ _ r [] [] [] none _ [.content (some "x")] [] v.node .root .root .root _
      [.content "x"] rfl rfl rfl
  have hbelow : Visit.Below r [] u v := .head huw (.head hwv .refl)
  have hraises : v.Raises r [] e := ⟨_, _, _, rfl, rfl⟩
  obtain ⟨-, hthrough⟩ := (evaluate_routes_errors hr []).2.1 u v e hbelow hraises
  obtain ⟨houtcome, hstage, -⟩ := hthrough u .refl hbelow
  exact ⟨hr, hbelow, hraises, houtcome, by rw [hstage]⟩

end NestedRouting
