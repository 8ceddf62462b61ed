import NestedRouting.Proofs.Route.Repeated

/-!
# Boundaries that stay failed

A route with a boundary is evaluated again and again, from any level, over any path and with any
matcher: each time is a `Call`. Between two calls the stage may change, but for what the boundary
remembers: no one else has the boundary, and no one resets it. Then the boundary has two states. While
it is healthy the calls that reach the children run them. When they fail it remembers the failure, and
the calls that reach the children show the fallback and nothing of the children
(`evaluate_of_failed`), until the route is left out of a pass (`Pass.LeavesOut`): that makes the
boundary healthy (`failure?_of_leavesOut`), and nothing else does (`Call.failed_step`). So it goes over
calls in any number (`failed_boundary_holds`).
-/

namespace NestedRouting

/-- A route with a boundary. -/
structure Guarded (κ φ : Type) where
  pattern : Option Text
  boundary : Boundary φ
  children : List (Node κ φ)

/-- The node of a route with a boundary. -/
def Guarded.node {κ φ : Type} (g : Guarded κ φ) : Node κ φ :=
  .route g.pattern (some g.boundary) g.children

/-- An evaluation of a node, and what happens to the stage before it. -/
structure Call (σ : Type) where
  matcher : Option Matcher
  path : Text
  level : Context
  before : Stage σ → Stage σ

section
variable {κ φ σ ν : Type}

/-- The fallback of a boundary returns, and does not reset the boundary. -/
def Renderer.HoldsFallback (r : Renderer κ φ σ ν) (b : Boundary φ) : Prop :=
  ∀ f stage, ∃ view after, r.fallback b f stage = (.returned view, after) ∧
    after.failure? b.id = stage.failure? b.id

/-- The renderer as a call finds it, with the matcher of the call. -/
def Renderer.at (r : Renderer κ φ σ ν) (c : Call σ) : Renderer κ φ σ ν :=
  { r with matcher := c.matcher }

/-- The pass leaves the node out: it renders nothing, or a diagnostic. -/
def Pass.LeavesOut (p : Pass σ (Option (Rendered ν))) : Prop :=
  p.outcome = .returned none ∨ ∃ v, p.outcome = .returned (some (.diagnostic v))

namespace Call

/-- Before the call nothing happens to the boundary. -/
def Spares (c : Call σ) (id : Nat) : Prop := ∀ s, (c.before s).failure? id = s.failure? id

/-- The call on a route with a boundary. -/
def pass (r : Renderer κ φ σ ν) (g : Guarded κ φ) (c : Call σ) (s : Stage σ) :
    Pass σ (Option (Rendered ν)) :=
  evaluate (r.at c) c.path [] g.node c.level (c.before s)

/-- The call comes to the children: the route called `name` has the context `child` for them, and
leaves the level at `entered`. -/
def Reaches (c : Call σ) (g : Guarded κ φ) (name : Text) (child entered : Context) : Prop :=
  enter c.matcher c.path c.level g.pattern = .enters name child entered

/-- The children as the call renders them. -/
def below (r : Renderer κ φ σ ν) (g : Guarded κ φ) (c : Call σ) (name : Text) (child : Context)
    (s : Stage σ) : Pass σ (List (Rendered ν)) :=
  evaluateAll (r.at c) c.path name g.children child (c.before s)

/-- The boundary is healthy and the children fail: with a failure of content, or a panic that the
boundary records. -/
def ChildrenFail (r : Renderer κ φ σ ν) (g : Guarded κ φ) (c : Call σ) (s : Stage σ)
    (e : Failure) : Prop :=
  (c.before s).failure? g.boundary.id = none ∧
    ∃ name child entered, c.Reaches g name child entered ∧
      ((c.below r g name child s).outcome = .failed (.render e) ∨
        ∃ x, (c.below r g name child s).outcome = .panicked x ∧ e = .ofPanic name x)

/-- The stage after calls, each on the stage that the one before has left. -/
def stageAfter (r : Renderer κ φ σ ν) (g : Guarded κ φ) : List (Call σ) → Stage σ → Stage σ
  | [], s => s
  | c :: cs, s => stageAfter r g cs (c.pass r g s).stage

/-- None of the calls leaves the route out. -/
def AllShow (r : Renderer κ φ σ ν) (g : Guarded κ φ) : List (Call σ) → Stage σ → Prop
  | [], _ => True
  | c :: cs, s => ¬ (c.pass r g s).LeavesOut ∧ AllShow r g cs (c.pass r g s).stage

end Call

variable {r : Renderer κ φ σ ν} {g : Guarded κ φ} {c : Call σ} {cs : List (Call σ)}
  {s : Stage σ} {e : Failure} {name : Text} {child entered : Context}

/-- A pass over other trees does nothing to the boundary, where the host does not reset it. -/
theorem Call.spares_of_others {H : Nat → Prop} {other : Renderer κ φ σ ν} {id : Nat}
    {ns : List (Node κ φ)} (hr : other.ResetsOnly H) (hH : ¬ H id)
    (hunshared : id ∉ Node.boundaryIdsAll ns) (path owner : Text) (level : Context) (c : Call σ) :
    Call.Spares { c with before := fun s => (evaluateAll other path owner ns level s).stage } id :=
  fun s => (evaluateAll_kept hr ns owner level s
    (mt (mem_boundaryIdsAll_of_evaluationsAll ns owner level s) hunshared)).resolve_right
    fun h => hH h.1

/-! ## One call -/

/-- A fallback that returns is shown around the failure, and the boundary remembers it. -/
theorem recover_of_holdsFallback {b : Boundary φ} (hf : r.HoldsFallback b) (e : Failure)
    (inner level : Context) (stage : Stage σ) :
    ∃ view after, r.fallback b e (stage.fail b.id e) = (.returned view, after) ∧
      recover r b e inner level stage =
        ⟨.returned (some (.route inner [.fallback e view])), { level with failure := some e }, after⟩ ∧
      after.failure? b.id = some e := by
  obtain ⟨view, after, hview, hkept⟩ := hf e (stage.fail b.id e)
  refine ⟨view, after, hview, ?_, hkept.trans (Stage.failure?_fail_self stage b.id e)⟩
  unfold recover
  rw [hview]

/-- A call that reaches the children of a failed boundary shows the fallback. Neither the children nor
what content does have a part in it. -/
theorem evaluate_of_failed (hc : c.Spares g.boundary.id)
    (hs : s.failure? g.boundary.id = some e) (hreach : c.Reaches g name child entered)
    (content : κ → Context → Run (Stage σ) (List String) ν) (children : List (Node κ φ)) :
    evaluate { r.at c with content := content } c.path []
        (.route g.pattern (some g.boundary) children) c.level (c.before s) =
      recover r g.boundary e child entered (c.before s) := by
  have henter : enter (r.at c).matcher c.path c.level g.pattern = .enters name child entered := hreach
  simp only [evaluate, henter, remembered?_of_failed ((hc s).trans hs)]
  rfl

/-- A call that reaches the children of a healthy boundary runs them. -/
theorem pass_of_healthy (hs : (c.before s).failure? g.boundary.id = none)
    (hreach : c.Reaches g name child entered) :
    c.pass r g s = settle r (some g.boundary) name entered (c.below r g name child s) := by
  have hhealthy : remembered? (some g.boundary) (c.before s) = none :=
    remembered?_of_healthy fun b hb => by
      cases hb
      exact hs
  have hpass : c.pass r g s =
      settle (r.at c) (some g.boundary) name entered (c.below r g name child s) :=
    evaluate_of_enters hreach hhealthy
  exact hpass

/-- What becomes of a call: an error of the tree that changes nothing, a pass that leaves the route out
and makes its boundary healthy, or the children. -/
theorem Call.pass_cases (r : Renderer κ φ σ ν) (g : Guarded κ φ) (c : Call σ) (s : Stage σ) :
    (∃ error, c.pass r g s = ⟨.failed error, c.level, c.before s⟩) ∨
      ((c.pass r g s).LeavesOut ∧ (c.pass r g s).stage = (c.before s).heal g.boundary.id) ∨
      ∃ name child entered, c.Reaches g name child entered := by
  cases henter : enter (r.at c).matcher c.path c.level g.pattern with
  | refused error =>
    refine .inl ⟨error, ?_⟩
    simp only [pass, Guarded.node, evaluate, henter]
  | absent =>
    have hpass : c.pass r g s = ⟨.returned none, c.level, (c.before s).heal g.boundary.id⟩ := by
      simp only [pass, Guarded.node, evaluate, henter]
      rfl
    rw [hpass]
    exact .inr (.inl ⟨.inl rfl, rfl⟩)
  | violates v =>
    have hpass : c.pass r g s =
        ⟨.returned (some (.diagnostic v)), c.level, (c.before s).heal g.boundary.id⟩ := by
      simp only [pass, Guarded.node, evaluate, henter]
      rfl
    rw [hpass]
    exact .inr (.inl ⟨.inr ⟨v, rfl⟩, rfl⟩)
  | enters name child entered => exact .inr (.inr ⟨name, child, entered, henter⟩)

/-- A call that leaves the route out makes its boundary healthy. -/
theorem failure?_of_leavesOut (h : (c.pass r g s).LeavesOut) :
    (c.pass r g s).stage.failure? g.boundary.id = none := by
  rcases c.pass_cases r g s with ⟨error, hpass⟩ | ⟨-, hstage⟩ | ⟨name, child, entered, hreach⟩
  · rw [hpass] at h
    rcases h with h | ⟨v, h⟩ <;> cases h
  · rw [hstage]
    exact Stage.failure?_heal_self ..
  · rcases h with h | ⟨v, h⟩ <;>
    · obtain ⟨_, _, hview, -⟩ := evaluate_enters (r := r.at c) hreach h
      cases hview

/-- Children that fail leave the boundary failed. -/
theorem Call.ChildrenFail.failure? (hf : r.HoldsFallback g.boundary) (h : c.ChildrenFail r g s e) :
    (c.pass r g s).stage.failure? g.boundary.id = some e := by
  obtain ⟨hs, name, child, entered, hreach, hwrong⟩ := h
  have hsettle : settle r (some g.boundary) name entered (c.below r g name child s) =
      recover r g.boundary e (c.below r g name child s).level entered
        (c.below r g name child s).stage := by
    rcases hwrong with hwrong | ⟨x, hwrong, rfl⟩ <;> simp only [settle, hwrong]
  obtain ⟨view, after, -, hrecover, hafter⟩ := recover_of_holdsFallback hf e
    (c.below r g name child s).level entered (c.below r g name child s).stage
  rw [pass_of_healthy hs hreach, hsettle, hrecover]
  exact hafter

namespace Call

/-- A failed boundary remembers its failure over every call that does not leave the route out. -/
theorem failed_step (hf : r.HoldsFallback g.boundary) (hc : c.Spares g.boundary.id)
    (hs : s.failure? g.boundary.id = some e) (hshow : ¬ (c.pass r g s).LeavesOut) :
    (c.pass r g s).stage.failure? g.boundary.id = some e := by
  rcases c.pass_cases r g s with ⟨error, hpass⟩ | ⟨hleaves, -⟩ | ⟨name, child, entered, hreach⟩
  · rw [hpass]
    exact (hc s).trans hs
  · exact absurd hleaves hshow
  · obtain ⟨view, after, -, hrecover, hafter⟩ :=
      recover_of_holdsFallback hf e child entered (c.before s)
    have hpass : c.pass r g s = recover r g.boundary e child entered (c.before s) :=
      evaluate_of_failed hc hs hreach r.content g.children
    rw [hpass, hrecover]
    exact hafter

/-- A healthy boundary stays so over every call that does not reach the children. -/
theorem healthy_step (hc : c.Spares g.boundary.id) (hs : s.failure? g.boundary.id = none)
    (hidle : ∀ name child entered, ¬ c.Reaches g name child entered) :
    (c.pass r g s).stage.failure? g.boundary.id = none := by
  rcases c.pass_cases r g s with ⟨error, hpass⟩ | ⟨-, hstage⟩ | ⟨name, child, entered, hreach⟩
  · rw [hpass]
    exact (hc s).trans hs
  · rw [hstage]
    exact Stage.failure?_heal_self ..
  · exact absurd hreach (hidle name child entered)

/-! ## Calls one after the other -/

/-- A failed boundary remembers its failure over calls none of which leaves the route out. -/
theorem failed_stays (hf : r.HoldsFallback g.boundary) :
    ∀ (cs : List (Call σ)) (s : Stage σ), (∀ c ∈ cs, c.Spares g.boundary.id) →
      AllShow r g cs s → s.failure? g.boundary.id = some e →
      (stageAfter r g cs s).failure? g.boundary.id = some e
  | [], _, _, _, hs => hs
  | c :: cs, s, hspare, ⟨hshow, hlater⟩, hs =>
    failed_stays hf cs (c.pass r g s).stage (fun d hd => hspare d (List.mem_cons_of_mem c hd))
      hlater (failed_step hf (hspare c List.mem_cons_self) hs hshow)

/-- A healthy boundary stays so over calls none of which reaches the children. -/
theorem healthy_stays :
    ∀ (cs : List (Call σ)) (s : Stage σ), (∀ c ∈ cs, c.Spares g.boundary.id) →
      (∀ c ∈ cs, ∀ name child entered, ¬ c.Reaches g name child entered) →
      s.failure? g.boundary.id = none → (stageAfter r g cs s).failure? g.boundary.id = none
  | [], _, _, _, hs => hs
  | c :: cs, s, hspare, hidle, hs =>
    healthy_stays cs (c.pass r g s).stage (fun d hd => hspare d (List.mem_cons_of_mem c hd))
      (fun d hd => hidle d (List.mem_cons_of_mem c hd))
      (healthy_step (hspare c List.mem_cons_self) hs (hidle c List.mem_cons_self))

end Call

/-- What becomes of a boundary whose children have failed with `e` in a call `first`, after calls that
did not leave the route out: over all levels, paths and matchers, where the boundary is not reset and
the fallback returns. The next call shows the fallback and nothing else if it reaches the children, the
same with any other children and any other content, and the level notes `e`. If it leaves the route
out instead, the boundary is healthy, and the next call that reaches the children runs them. -/
theorem failed_boundary_holds (hf : r.HoldsFallback g.boundary) {first : Call σ} (next : Call σ)
    (hfail : first.ChildrenFail r g s e) (hspare : ∀ c ∈ next :: cs, c.Spares g.boundary.id)
    (hshow : Call.AllShow r g cs (first.pass r g s).stage) :
    let now := Call.stageAfter r g (first :: cs) s
    let p := next.pass r g now
    (∀ name child entered, next.Reaches g name child entered →
      ∃ view after,
        r.fallback g.boundary e ((next.before now).fail g.boundary.id e) = (.returned view, after) ∧
        p = ⟨.returned (some (.route child [.fallback e view])),
          { entered with failure := some e }, after⟩ ∧
        ∀ (content : κ → Context → Run (Stage σ) (List String) ν) (children : List (Node κ φ)),
          evaluate { r.at next with content := content } next.path []
            (.route g.pattern (some g.boundary) children) next.level (next.before now) = p) ∧
    (p.LeavesOut → p.stage.failure? g.boundary.id = none ∧
      ∀ (idle : List (Call σ)) (again : Call σ),
        (∀ c ∈ again :: idle, c.Spares g.boundary.id) →
        (∀ c ∈ idle, ∀ name child entered, ¬ c.Reaches g name child entered) →
        ∀ name child entered, again.Reaches g name child entered →
          again.pass r g (Call.stageAfter r g idle p.stage) =
            settle r (some g.boundary) name entered
              (again.below r g name child (Call.stageAfter r g idle p.stage))) := by
  intro now p
  have hnext : next.Spares g.boundary.id := hspare next List.mem_cons_self
  have hnow : now.failure? g.boundary.id = some e :=
    Call.failed_stays hf cs _ (fun c hc => hspare c (List.mem_cons_of_mem next hc)) hshow
      (hfail.failure? hf)
  refine ⟨fun name child entered hreach => ?_, fun hleaves => ?_⟩
  · obtain ⟨view, after, hview, hrecover, -⟩ :=
      recover_of_holdsFallback hf e child entered (next.before now)
    have hshown := evaluate_of_failed (r := r) hnext hnow hreach
    have hp : p = recover r g.boundary e child entered (next.before now) :=
      hshown r.content g.children
    exact ⟨view, after, hview, hp.trans hrecover, fun content children =>
      (hshown content children).trans hp.symm⟩
  · have hhealthy := failure?_of_leavesOut hleaves
    refine ⟨hhealthy, fun idle again hspare' hidle name child entered hreach => ?_⟩
    have hlater : (Call.stageAfter r g idle p.stage).failure? g.boundary.id = none :=
      Call.healthy_stays idle _ (fun c hc => hspare' c (List.mem_cons_of_mem again hc)) hidle hhealthy
    exact pass_of_healthy ((hspare' again List.mem_cons_self _).trans hlater) hreach

end

/-- The failure of the content below `/a` is shown again where another tree has failed before, and it
is forgotten once `/b` has been rendered. -/
theorem failure_held_until_left :
    let r := Renderer.ofTexts .exact
    let g : Guarded (Option String) Unit := ⟨some ['a'], ⟨0, ()⟩, [.content none]⟩
    let other : Node (Option String) Unit := .route (some ['a']) (some ⟨1, ()⟩) [.content none]
    let here : Call Unit := ⟨some .exact, ['a'], .root, id⟩
    let behind : Call Unit :=
      { here with before := fun s => (evaluateAll r ['a'] [] [other] .root s).stage }
    let away : Call Unit := ⟨some .exact, ['b'], .root, id⟩
    let s : Stage Unit := ⟨[], ()⟩
    let e : Failure := ⟨['a'], "down", [], false⟩
    let now := Call.stageAfter r g [here, behind] s
    here.ChildrenFail r g s e ∧
      (here.pass r g now).outcome =
        .returned (some (.route (.child ['a'] ∅) [.fallback e "down"])) ∧
      (away.pass r g now).stage.failure? 0 = none ∧
      let later := Call.stageAfter r g [away] (away.pass r g now).stage
      here.pass r g later =
        settle r (some g.boundary) ['a']
          { Context.root with matched := [⟨[some ['a']], 0, ['a'], ∅, ['a']⟩] }
          (here.below r g ['a'] (.child ['a'] ∅) later) := by
  intro r g other here behind away s e now
  have hf : r.HoldsFallback g.boundary := fun _ _ => ⟨_, _, rfl, rfl⟩
  have hfail : here.ChildrenFail r g s e := ⟨rfl, ['a'], _, _, rfl, .inl rfl⟩
  have hhere : here.Spares 0 := fun _ => rfl
  have haway : away.Spares 0 := fun _ => rfl
  have hbehind : behind.Spares 0 :=
    Call.spares_of_others (Renderer.ofTexts_resetsOnly .exact) id (by decide) ['a'] [] .root here
  have hshow : Call.AllShow r g [behind] (here.pass r g s).stage := by
    refine ⟨?_, trivial⟩
    rintro (h | ⟨v, h⟩) <;> cases h
  obtain ⟨hshown, -⟩ := failed_boundary_holds hf here hfail
    (List.forall_mem_cons.2 ⟨hhere, List.forall_mem_singleton.2 hbehind⟩) hshow
  obtain ⟨-, hleft⟩ := failed_boundary_holds hf away hfail
    (List.forall_mem_cons.2 ⟨haway, List.forall_mem_singleton.2 hbehind⟩) hshow
  obtain ⟨view, after, hview, hpass, -⟩ := hshown ['a'] _ _ rfl
  obtain ⟨hhealthy, hagain⟩ := hleft (.inl rfl)
  refine ⟨hfail, ?_, hhealthy, ?_⟩
  · cases hview
    rw [hpass]
    rfl
  · exact hagain [away] here
      (List.forall_mem_cons.2 ⟨hhere, List.forall_mem_singleton.2 haway⟩)
      (List.forall_mem_singleton.2 nofun) _ _ _ rfl

end NestedRouting
