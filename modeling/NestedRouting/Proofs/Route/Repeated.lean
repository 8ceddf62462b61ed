import NestedRouting.Proofs.Route.Errors

/-!
# Rendering again

When content and fallbacks depend on nothing but their arguments, all passes over the same path show
what the first one has shown (`evaluateAll_repeated`), though the later ones come there by another way:
a boundary that has failed in the first pass shows its fallback at once in the second, without rendering
the children. This leaves one trace. The context of a route that shows a fallback has the matches and
the failure of the children that were evaluated before the one that failed, and in the second pass and
all later ones there are none (`Rendered.reshown`, `second_pass_forgets_matches`).
-/

namespace NestedRouting

/-- Applies a function to what code returns. -/
def Outcome.map {ε α β : Type} (f : α → β) : Outcome ε α → Outcome ε β
  | .returned a => .returned (f a)
  | .failed e => .failed e
  | .panicked p => .panicked p
  | .exhausted => .exhausted

namespace Rendered

variable {ν : Type}

mutual

/-- A tree as it is shown again: where a route shows the fallback of its boundary, no child has been
evaluated. -/
def reshown : Rendered ν → Rendered ν
  | route context children =>
    route
      (if (route context children).recovered?.isSome then .child context.path context.params
        else context)
      (reshownAll children)
  | content view => content view
  | fallback failure view => fallback failure view
  | diagnostic violation => diagnostic violation

/-- Trees as they are shown again. -/
def reshownAll : List (Rendered ν) → List (Rendered ν)
  | [] => []
  | v :: vs => reshown v :: reshownAll vs

end

theorem reshownAll_eq_map (vs : List (Rendered ν)) : reshownAll vs = vs.map reshown := by
  induction vs with
  | nil => rfl
  | cons v vs ih => exact congrArg (reshown v :: ·) ih

end Rendered

section
variable {κ φ σ ν : Type}

/-- Content and fallbacks depend on their arguments only, and change nothing. -/
structure Renderer.IsPure (r : Renderer κ φ σ ν) : Prop where
  content : ∀ c level stage stage',
    r.content c level stage = ((r.content c level stage').1, stage)
  fallback : ∀ b f stage stage', r.fallback b f stage = ((r.fallback b f stage').1, stage)

/-- The boundaries with the given identities remember the same on both stages. -/
def SameOn (ids : List Nat) (s s' : Stage σ) : Prop := ∀ id ∈ ids, s.failure? id = s'.failure? id

/-- A pass again: it ends as the first one did up to `move`, leaves the same level, and keeps what the
boundaries in `ids` remembered on the stage `s` it started from. -/
structure Pass.Again {α : Type} (ids : List Nat) (move : α → α) (s : Stage σ) (p q : Pass σ α) :
    Prop where
  outcome_eq : q.outcome = p.outcome.map move
  level_eq : q.level = p.level
  same : SameOn ids q.stage s

variable {r : Renderer κ φ σ ν} {path owner : Text} {level : Context} {stage s s' : Stage σ}

/-! ## What a pass keeps -/

/-- Pure content resets no boundary. -/
theorem Renderer.IsPure.resetsOnly (hr : r.IsPure) : r.ResetsOnly fun _ => False where
  content c level stage id := by
    rw [hr.content c level stage stage]
    exact .refl
  fallback b f stage id _ := by
    rw [hr.fallback b f stage stage]
    exact .refl

/-- A pass over a node keeps what the boundaries of other nodes remember. -/
theorem evaluate_keeps (hr : r.IsPure) {n : Node κ φ} {id : Nat} (h : id ∉ n.boundaryIds) :
    (evaluate r path owner n level stage).stage.failure? id = stage.failure? id :=
  (evaluate_kept hr.resetsOnly n owner level stage
    (mt (mem_boundaryIds_of_evaluations n owner level stage) h)).resolve_right And.left

/-- A pass over siblings keeps what the boundaries of other nodes remember. -/
theorem evaluateAll_keeps (hr : r.IsPure) {ns : List (Node κ φ)} {id : Nat}
    (h : id ∉ Node.boundaryIdsAll ns) :
    (evaluateAll r path owner ns level stage).stage.failure? id = stage.failure? id :=
  (evaluateAll_kept hr.resetsOnly ns owner level stage
    (mt (mem_boundaryIdsAll_of_evaluationsAll ns owner level stage) h)).resolve_right And.left

/-- Whether two contexts have inherited the same. -/
def Context.Kin (c c' : Context) : Prop := c'.path = c.path ∧ c'.params = c.params

theorem Context.Kin.trans {a b c : Context} (h : a.Kin b) (h' : b.Kin c) : a.Kin c :=
  ⟨h'.1.trans h.1, h'.2.trans h.2⟩

/-- A boundary that recovers a failure leaves what the level has inherited. -/
theorem recover_kin (b : Boundary φ) (f : Failure) (inner level : Context) (stage : Stage σ) :
    level.Kin (recover r b f inner level stage).level := by
  rw [level_recover]
  exact ⟨rfl, rfl⟩

/-- The end of a route leaves what the level has inherited. -/
theorem settle_kin (boundary : Option (Boundary φ)) (name : Text) (level : Context)
    (p : Pass σ (List (Rendered ν))) : level.Kin (settle r boundary name level p).level := by
  unfold settle
  split
  · exact ⟨rfl, rfl⟩
  · exact recover_kin ..
  · exact recover_kin ..
  all_goals exact ⟨rfl, rfl⟩

/-- However a pass over a node ends, the level keeps what it has inherited. -/
theorem evaluate_kin (n : Node κ φ) : level.Kin (evaluate r path owner n level stage).level := by
  cases n with
  | content c =>
    simp only [evaluate]
    split <;> exact ⟨rfl, rfl⟩
  | route pattern boundary children =>
    simp only [evaluate]
    cases henter : enter r.matcher path level pattern with
    | refused | absent | violates => exact ⟨rfl, rfl⟩
    | enters name child entered =>
      obtain ⟨-, found, rfl⟩ := contexts_of_enter henter
      simp only
      split
      · exact recover_kin ..
      · exact settle_kin ..

/-- However a pass over siblings ends, the level keeps what it has inherited. -/
theorem evaluateAll_kin (ns : List (Node κ φ)) : ∀ {level : Context} {stage : Stage σ},
    level.Kin (evaluateAll r path owner ns level stage).level := by
  induction ns with
  | nil =>
    intro level stage
    simp only [evaluateAll]
    exact ⟨rfl, rfl⟩
  | cons n ns ih =>
    intro level stage
    have hn : level.Kin (evaluate r path owner n level stage).level := evaluate_kin n
    simp only [evaluateAll]
    split
    · split <;> exact hn.trans ih
    all_goals exact hn

/-! ## Boundaries on both stages -/

theorem SameOn.trans {ids : List Nat} {a b c : Stage σ} (h : SameOn ids a b) (h' : SameOn ids b c) :
    SameOn ids a c := fun id hid => (h id hid).trans (h' id hid)

/-- Boundaries that remember the same do so when only some of them are looked at. -/
theorem SameOn.mono {ids ids' : List Nat} (h : SameOn ids s s') (hsub : ids' ⊆ ids) :
    SameOn ids' s s' := fun id hid => h id (hsub hid)

/-- Two sets of boundaries remember the same if each does. -/
theorem SameOn.append {ids ids' : List Nat} (h : SameOn ids s s') (h' : SameOn ids' s s') :
    SameOn (ids ++ ids') s s' := fun id hid => (List.mem_append.1 hid).elim (h id) (h' id)

/-- A boundary that fails remembers the failure. -/
theorem Stage.failure?_fail_self (s : Stage σ) (id : Nat) (f : Failure) :
    (s.fail id f).failure? id = some f := by
  simp [Stage.failure?, Stage.fail]

/-- A boundary that fails again with what it remembers changes nothing. -/
theorem SameOn.fail {ids : List Nat} {id : Nat} {f : Failure} (h : s.failure? id = some f) :
    SameOn ids (s.fail id f) s := by
  intro id' _
  by_cases hid : id' = id
  · rw [hid, Stage.failure?_fail_self, h]
  · exact Stage.failure?_fail_of_ne s f hid

/-- A boundary that is healthy and released changes nothing. -/
theorem SameOn.release {ids : List Nat} {boundary : Option (Boundary φ)}
    (h : ∀ b ∈ boundary, s.failure? b.id = none) : SameOn ids (s.release boundary) s := by
  intro id _
  cases boundary with
  | none => rfl
  | some b =>
    by_cases hid : id = b.id
    · rw [hid, h b rfl]
      exact Stage.failure?_heal_self s b.id
    · exact Stage.failure?_heal_of_ne s hid

/-- A healthy boundary remembers no failure. -/
theorem remembered?_of_healthy {boundary : Option (Boundary φ)}
    (h : ∀ b ∈ boundary, s.failure? b.id = none) : remembered? boundary s = none := by
  cases boundary with
  | none => rfl
  | some b => simp [remembered?, h b rfl]

/-- A boundary that has failed remembers its failure. -/
theorem remembered?_of_failed {b : Boundary φ} {f : Failure} (h : s.failure? b.id = some f) :
    remembered? (some b) s = some (b, f) := by
  simp [remembered?, h]

/-! ## The second pass -/

/-- A pure fallback shows the same on every stage, and the boundary remembers its failure. -/
theorem recover_pure (hr : r.IsPure) (b : Boundary φ) (f : Failure) (inner level : Context)
    (s s' : Stage σ) :
    (recover r b f (.child inner.path inner.params) level s').outcome =
        (recover r b f inner level s).outcome.map (Option.map Rendered.reshown) ∧
      (recover r b f (.child inner.path inner.params) level s').level =
        (recover r b f inner level s).level ∧
      (recover r b f inner level s).stage = s.fail b.id f := by
  unfold recover
  rw [hr.fallback b f (s.fail b.id f) s, hr.fallback b f (s'.fail b.id f) s]
  cases (r.fallback b f s).1 with
  | returned view => exact ⟨rfl, rfl, rfl⟩
  | failed e => exact nomatch e
  | panicked | exhausted => exact ⟨rfl, rfl, rfl⟩

/-- A route around views that are no fallback of its own is shown again around the same views. -/
theorem reshown_route {c : Context} {views : List (Rendered ν)}
    (h : (Rendered.route c views).recovered? = none) :
    (Rendered.route c views).reshown = .route c (Rendered.reshownAll views) := by
  rw [Rendered.reshown, h]
  rfl

/-- A route either recovers a failure of its children, or ends as they do; in the second case it ends
again as they do. -/
theorem settle_again (r : Renderer κ φ σ ν) (boundary : Option (Boundary φ)) (name : Text)
    (level : Context) {p : Pass σ (List (Rendered ν))}
    (hviews : ∀ views, p.outcome = .returned views →
      (Rendered.route p.level views).recovered? = none) :
    (∃ b f, boundary = some b ∧
      settle r boundary name level p = recover r b f p.level level p.stage) ∨
    (settle r boundary name level p).stage = p.stage ∧
      ∀ after, settle r boundary name level ⟨p.outcome.map Rendered.reshownAll, p.level, after⟩ =
        ⟨(settle r boundary name level p).outcome.map (Option.map Rendered.reshown),
          (settle r boundary name level p).level, after⟩ := by
  obtain ⟨o, inner, stage⟩ := p
  cases o with
  | returned views =>
    refine .inr ⟨rfl, fun after => ?_⟩
    simp only [settle, Outcome.map, Option.map_some, reshown_route (hviews views rfl)]
  | failed e =>
    cases e with
    | render f =>
      cases boundary with
      | some b => exact .inl ⟨b, f, rfl, rfl⟩
      | none => exact .inr ⟨rfl, fun _ => rfl⟩
    | missingMatcher | badPattern =>
      cases boundary <;> exact .inr ⟨rfl, fun _ => rfl⟩
  | panicked x =>
    cases boundary with
    | some b => exact .inl ⟨b, .ofPanic name x, rfl, rfl⟩
    | none => exact .inr ⟨rfl, fun _ => rfl⟩
  | exhausted => exact .inr ⟨rfl, fun _ => rfl⟩

/-- A pass again, as the parts of the first one on another stage. -/
theorem Pass.Again.eq {α : Type} {ids : List Nat} {move : α → α} {p q : Pass σ α}
    (h : Pass.Again ids move s p q) : q = ⟨p.outcome.map move, p.level, q.stage⟩ := by
  obtain ⟨houtcome, hlevel, -⟩ := h
  rw [← houtcome, ← hlevel]

/-- A route that enters, again, where its children are rendered again as they were. -/
theorem evaluate_enters_again (hr : r.IsPure) {pattern : Option Text}
    {boundary : Option (Boundary φ)} {children : List (Node κ φ)} {name : Text}
    {child entered : Context}
    (henter : enter r.matcher path level pattern = .enters name child entered)
    (hhealthy : ∀ b ∈ boundary, s.failure? b.id = none)
    (hown : ∀ b ∈ boundary, b.id ∉ Node.boundaryIdsAll children)
    (hsame : SameOn (Node.route pattern boundary children).boundaryIds s'
      (evaluate r path owner (.route pattern boundary children) level s).stage)
    (hchildren : SameOn (Node.boundaryIdsAll children) s'
        (evaluateAll r path name children child s).stage →
      Pass.Again (Node.boundaryIdsAll children) Rendered.reshownAll s'
        (evaluateAll r path name children child s)
        (evaluateAll r path name children child s')) :
    Pass.Again (Node.route pattern boundary children).boundaryIds (Option.map Rendered.reshown) s'
      (evaluate r path owner (.route pattern boundary children) level s)
      (evaluate r path owner (.route pattern boundary children) level s') := by
  have hfirst : evaluate r path owner (.route pattern boundary children) level s =
      settle r boundary name entered (evaluateAll r path name children child s) :=
    evaluate_of_enters henter (remembered?_of_healthy hhealthy)
  rw [hfirst] at hsame ⊢
  have hfresh : child = .child (evaluateAll r path name children child s).level.path
      (evaluateAll r path name children child s).level.params := by
    have hkin : child.Kin (evaluateAll r path name children child s).level :=
      evaluateAll_kin children
    rw [hkin.1, hkin.2]
    exact (contexts_of_enter henter).1
  have hviews : ∀ views, (evaluateAll r path name children child s).outcome = .returned views →
      (Rendered.route (evaluateAll r path name children child s).level views).recovered? = none :=
    fun _ h => recovered?_of_evaluateAll h
  rcases settle_again r boundary name entered hviews with
    ⟨b, f, rfl, hsettle⟩ | ⟨hstage, hagain⟩
  · -- the first pass has recovered a failure: the second one shows the fallback at once
    rw [hsettle] at hsame ⊢
    obtain ⟨houtcome, hlevel, hstage⟩ := recover_pure hr b f
      (evaluateAll r path name children child s).level entered
      (evaluateAll r path name children child s).stage s'
    have hfailed : s'.failure? b.id = some f := by
      rw [hsame b.id (by simp [Node.boundaryIds]), hstage, Stage.failure?_fail_self]
    have hsecond : evaluate r path owner (.route pattern (some b) children) level s' =
        recover r b f child entered s' := by
      simp only [evaluate, henter, remembered?_of_failed hfailed]
    have hkept := (recover_pure hr b f child entered s' s').2.2
    rw [hsecond]
    rw [← hfresh] at houtcome hlevel
    refine ⟨houtcome, hlevel, ?_⟩
    rw [hkept]
    exact .fail hfailed
  · -- the first pass has not: the children are rendered again
    rw [hstage] at hsame
    have hhealthy' : ∀ b ∈ boundary, s'.failure? b.id = none := by
      rintro b hb
      have hmem : b.id ∈ (Node.route pattern boundary children).boundaryIds := by
        cases hb
        simp [Node.boundaryIds]
      rw [hsame b.id hmem, evaluateAll_keeps hr (hown b hb), hhealthy b hb]
    have hids : Node.boundaryIdsAll children ⊆
        (Node.route pattern boundary children).boundaryIds := by
      rw [Node.boundaryIds]
      exact List.subset_append_right _ _
    have hsecond := hchildren (hsame.mono hids)
    rw [evaluate_of_enters henter (remembered?_of_healthy hhealthy'), hsecond.eq, hagain]
    refine ⟨rfl, rfl, fun id hid => ?_⟩
    by_cases hchild : id ∈ Node.boundaryIdsAll children
    · exact hsecond.same id hchild
    · exact evaluateAll_keeps hr hchild

/-- A fallback and the views behind it, as they are shown again. -/
theorem Rendered.reshownAll_append (view : Option (Rendered ν)) (views : List (Rendered ν)) :
    Rendered.reshownAll (view.toList ++ views) =
      (view.map Rendered.reshown).toList ++ Rendered.reshownAll views := by
  cases view <;> rfl

/-- Two functions applied one after the other. -/
theorem Outcome.map_map {ε α β γ : Type} (o : Outcome ε α) (f : α → β) (g : β → γ) :
    (o.map f).map g = o.map (g ∘ f) := by
  cases o <;> rfl

/-- Behind a node that returns, siblings end as those behind it do. -/
theorem evaluateAll_cons_of_returned {n : Node κ φ} {ns : List (Node κ φ)}
    {view : Option (Rendered ν)}
    (h : (evaluate r path owner n level s).outcome = .returned view) :
    evaluateAll r path owner (n :: ns) level s =
      let q := evaluateAll r path owner ns (evaluate r path owner n level s).level
        (evaluate r path owner n level s).stage
      ⟨q.outcome.map (view.toList ++ ·), q.level, q.stage⟩ := by
  simp only [evaluateAll, h]
  generalize evaluateAll r path owner ns (evaluate r path owner n level s).level
    (evaluate r path owner n level s).stage = q
  cases hq : q.outcome <;> simp only [Outcome.map]

mutual

/-- A node again, on a stage where its boundaries remember what they did after the first pass. -/
theorem evaluate_again (hr : r.IsPure) : ∀ (n : Node κ φ) (owner : Text) (level : Context)
    (s s' : Stage σ), n.boundaryIds.Nodup → (∀ id ∈ n.boundaryIds, s.failure? id = none) →
    SameOn n.boundaryIds s' (evaluate r path owner n level s).stage →
    Pass.Again n.boundaryIds (Option.map Rendered.reshown) s' (evaluate r path owner n level s)
      (evaluate r path owner n level s')
  | .content c, owner, level, s, s', _, _, _ => by
    simp only [evaluate]
    rw [hr.content c level s s, hr.content c level s' s]
    cases (r.content c level s).1 <;> exact ⟨rfl, rfl, fun _ _ => rfl⟩
  | .route pattern boundary children, owner, level, s, s', hnodup, hhealthy, hsame => by
    have hids : ∀ b ∈ boundary, b.id ∈ (Node.route pattern boundary children).boundaryIds := by
      rintro b hb
      cases hb
      simp [Node.boundaryIds]
    cases henter : enter r.matcher path level pattern with
    | refused e =>
      simp only [evaluate, henter]
      exact ⟨rfl, rfl, fun _ _ => rfl⟩
    | absent | violates v =>
      simp only [evaluate, henter] at hsame ⊢
      have hreleased : ∀ b ∈ boundary, s'.failure? b.id = none := by
        rintro b hb
        rw [hsame b.id (hids b hb)]
        cases hb
        exact Stage.failure?_heal_self s b.id
      exact ⟨rfl, rfl, .release hreleased⟩
    | enters name child entered =>
      rw [Node.boundaryIds, List.nodup_append] at hnodup
      obtain ⟨-, hnodup, hdisjoint⟩ := hnodup
      have hchildren : ∀ id ∈ Node.boundaryIdsAll children, s.failure? id = none := by
        intro id hid
        refine hhealthy id ?_
        rw [Node.boundaryIds]
        exact List.mem_append_right _ hid
      refine evaluate_enters_again hr henter (fun b hb => hhealthy b.id (hids b hb)) ?_ hsame
        (evaluateAll_again hr children name child s s' hnodup hchildren)
      intro b hb hmem
      cases hb
      exact hdisjoint b.id (by simp) b.id hmem rfl

/-- Siblings again, on a stage where their boundaries remember what they did after the first pass. -/
theorem evaluateAll_again (hr : r.IsPure) : ∀ (ns : List (Node κ φ)) (owner : Text)
    (level : Context) (s s' : Stage σ), (Node.boundaryIdsAll ns).Nodup →
    (∀ id ∈ Node.boundaryIdsAll ns, s.failure? id = none) →
    SameOn (Node.boundaryIdsAll ns) s' (evaluateAll r path owner ns level s).stage →
    Pass.Again (Node.boundaryIdsAll ns) Rendered.reshownAll s' (evaluateAll r path owner ns level s)
      (evaluateAll r path owner ns level s')
  | [], _, _, _, _, _, _, _ => by
    simp only [evaluateAll]
    exact ⟨rfl, rfl, fun _ _ => rfl⟩
  | n :: ns, owner, level, s, s', hnodup, hhealthy, hsame => by
    rw [Node.boundaryIdsAll, List.nodup_append] at hnodup
    rw [Node.boundaryIdsAll] at hhealthy hsame ⊢
    obtain ⟨hn, hns, hdisjoint⟩ := hnodup
    have hnot : ∀ id ∈ Node.boundaryIdsAll ns, id ∉ n.boundaryIds :=
      fun id hid hid' => hdisjoint id hid' id hid rfl
    have hnot' : ∀ id ∈ n.boundaryIds, id ∉ Node.boundaryIdsAll ns :=
      fun id hid hid' => hdisjoint id hid id hid' rfl
    have hagain := evaluate_again hr n owner level s s' hn
      fun id hid => hhealthy id (List.mem_append_left _ hid)
    cases hp : (evaluate r path owner n level s).outcome with
    | returned view =>
      rw [evaluateAll_cons_of_returned hp] at hsame ⊢
      have hrest := evaluateAll_again hr ns owner (evaluate r path owner n level s).level
        (evaluate r path owner n level s).stage (evaluate r path owner n level s').stage hns
        fun id hid => (evaluate_keeps hr (hnot id hid)).trans
          (hhealthy id (List.mem_append_right _ hid))
      -- the boundaries of the node are not touched by the siblings behind it, and conversely
      have hagain := hagain fun id hid => (hsame id (List.mem_append_left _ hid)).trans
        (evaluateAll_keeps hr (hnot' id hid))
      have hrest := hrest fun id hid => (evaluate_keeps hr (hnot id hid)).trans
        (hsame id (List.mem_append_right _ hid))
      have hp' : (evaluate r path owner n level s').outcome =
          .returned (view.map Rendered.reshown) := by
        rw [hagain.outcome_eq, hp]
        rfl
      rw [evaluateAll_cons_of_returned hp', hagain.level_eq, hrest.eq]
      refine ⟨?_, rfl, .append ?_ ?_⟩
      · simp only [Outcome.map_map]
        congr 1
        funext views
        exact (Rendered.reshownAll_append view views).symm
      · intro id hid
        rw [evaluateAll_keeps hr (hnot' id hid)]
        exact hagain.same id hid
      · intro id hid
        exact (hrest.same id hid).trans (evaluate_keeps hr (hnot id hid))
    | failed e | panicked x | exhausted =>
      simp only [evaluateAll, hp] at hsame ⊢
      have hagain := hagain (hsame.mono (List.subset_append_left _ _))
      rw [hagain.eq, hp]
      refine ⟨rfl, rfl, hagain.same.append fun id hid => ?_⟩
      exact evaluate_keeps hr (hnot id hid)

end

/-- Passes one after the other over the same path: each starts from boundaries that remember what they
did after the one before it. From the second on, they start as the first one has ended. -/
theorem sameOn_after_first (hr : r.IsPure) {ns : List (Node κ φ)} {stages : Nat → Stage σ}
    (hu : (Node.boundaryIdsAll ns).Nodup)
    (hs : ∀ id ∈ Node.boundaryIdsAll ns, (stages 0).failure? id = none)
    (hnext : ∀ k, SameOn (Node.boundaryIdsAll ns) (stages (k + 1))
      (evaluateAll r path owner ns level (stages k)).stage) (k : Nat) :
    SameOn (Node.boundaryIdsAll ns) (stages (k + 1))
      (evaluateAll r path owner ns level (stages 0)).stage := by
  induction k with
  | zero => exact hnext 0
  | succ k ih =>
    have hagain := evaluateAll_again hr ns owner level (stages 0) (stages (k + 1)) hu hs ih
    exact ((hnext (k + 1)).trans hagain.same).trans ih

/-- Passes over trees, one after the other, for content and fallbacks that are pure. The first starts
from boundaries that are healthy, each of one node only; every other goes over the same path, and starts
from boundaries that remember what they did after the one before it. It ends as the first did, with the
same error, panic, or views; only a route that shows the fallback of its boundary has no matches and no
failure in its context any more. So from the second on all passes end equally. -/
theorem evaluateAll_repeated (hr : r.IsPure) {ns : List (Node κ φ)} {stages : Nat → Stage σ}
    (hu : (Node.boundaryIdsAll ns).Nodup)
    (hs : ∀ id ∈ Node.boundaryIdsAll ns, (stages 0).failure? id = none)
    (hnext : ∀ k, SameOn (Node.boundaryIdsAll ns) (stages (k + 1))
      (evaluateAll r path owner ns level (stages k)).stage) :
    (∀ k,
      (evaluateAll r path owner ns level (stages (k + 1))).outcome =
          (evaluateAll r path owner ns level (stages 0)).outcome.map (List.map Rendered.reshown) ∧
        (evaluateAll r path owner ns level (stages (k + 1))).level =
          (evaluateAll r path owner ns level (stages 0)).level) ∧
      ∀ j k, (evaluateAll r path owner ns level (stages (j + 1))).outcome =
        (evaluateAll r path owner ns level (stages (k + 1))).outcome := by
  have hmap : (Rendered.reshownAll : List (Rendered ν) → _) = List.map Rendered.reshown :=
    funext Rendered.reshownAll_eq_map
  have hagain (k : Nat) := evaluateAll_again hr ns owner level (stages 0) (stages (k + 1)) hu hs
    (sameOn_after_first hr hu hs hnext k)
  refine ⟨fun k => ⟨hmap ▸ (hagain k).outcome_eq, (hagain k).level_eq⟩, fun j k => ?_⟩
  rw [(hagain j).outcome_eq, (hagain k).outcome_eq]

end

/-- The renderer of texts is pure. -/
theorem Renderer.ofTexts_isPure (m : Matcher) : (Renderer.ofTexts m).IsPure where
  content c _ _ _ := by cases c <;> rfl
  fallback _ _ _ _ := rfl

/-- A second pass is not always equal to the first. Below a boundary one route matches, then content
fails: the context beside the fallback has the match in the first pass, and not in the second. -/
theorem second_pass_forgets_matches :
    let ns : List (Node (Option String) Unit) :=
      [.route (some ['a']) (some ⟨0, ()⟩) [.route (some []) none [], .content none]]
    let r := Renderer.ofTexts .exact
    let first := evaluateAll r ['a'] [] ns .root ⟨[], ()⟩
    let second := evaluateAll r ['a'] [] ns .root first.stage
    let shown : List (Rendered String) := [.fallback ⟨['a'], "down", [], false⟩ "down"]
    r.IsPure ∧ (Node.boundaryIdsAll ns).Nodup ∧
      first.outcome =
        .returned [.route ⟨['a'], ∅, [⟨[some ['a']], 0, ['a'], ∅, ['a']⟩], none⟩ shown] ∧
      second.outcome = .returned [.route ⟨['a'], ∅, [], none⟩ shown] ∧
      first.outcome ≠ second.outcome := by
  intro ns r first second shown
  refine ⟨Renderer.ofTexts_isPure .exact, by decide, rfl, rfl, fun h => ?_⟩
  have hfirst : first.outcome =
    .returned [.route ⟨['a'], ∅, [⟨[some ['a']], 0, ['a'], ∅, ['a']⟩], none⟩ shown] := rfl
  have hsecond : second.outcome = .returned [.route ⟨['a'], ∅, [], none⟩ shown] := rfl
  rw [hfirst, hsecond] at h
  cases h

/-- Passes that all go over the path `/a`, each from the stage that the one before it has left. -/
def stagesOf (ns : List (Node (Option String) Unit)) : Nat → Stage Unit
  | 0 => ⟨[], ()⟩
  | k + 1 => (evaluateAll (Renderer.ofTexts .exact) ['a'] [] ns .root (stagesOf ns k)).stage

/-- The passes behind a boundary that has failed in the first one, with content beside it. The fifth
pass ends as the second one does, without what the first one has matched. -/
theorem second_pass_beside_fallback :
    let ns : List (Node (Option String) Unit) :=
      [.route (some ['a']) (some ⟨0, ()⟩) [.route (some []) none [], .content none],
        .route (some ['a']) (some ⟨1, ()⟩) [.content (some "x")]]
    let r := Renderer.ofTexts .exact
    let pass := fun k => evaluateAll r ['a'] [] ns .root (stagesOf ns k)
    r.IsPure ∧ (Node.boundaryIdsAll ns).Nodup ∧
      (∀ id ∈ Node.boundaryIdsAll ns, (stagesOf ns 0).failure? id = none) ∧
      (stagesOf ns 1).failure? 0 = some ⟨['a'], "down", [], false⟩ ∧
      (pass 1).outcome = (pass 0).outcome.map (List.map Rendered.reshown) ∧
      (pass 4).outcome = (pass 1).outcome := by
  intro ns r pass
  have hr := Renderer.ofTexts_isPure .exact
  have hu : (Node.boundaryIdsAll ns).Nodup := by decide
  have hs : ∀ id ∈ Node.boundaryIdsAll ns, (stagesOf ns 0).failure? id = none := fun _ _ => rfl
  have hnext : ∀ k, SameOn (Node.boundaryIdsAll ns) (stagesOf ns (k + 1)) (pass k).stage :=
    fun _ _ _ => rfl
  obtain ⟨hfirst, hlater⟩ := evaluateAll_repeated hr hu hs hnext
  exact ⟨hr, hu, hs, rfl, (hfirst 0).1, hlater 3 0⟩

end NestedRouting
