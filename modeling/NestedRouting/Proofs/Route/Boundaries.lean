import NestedRouting.Proofs.Lookup
import NestedRouting.Proofs.Route.Siblings

/-!
# What a pass does to the boundaries of a tree

A pass changes what a boundary remembers only where it evaluates the route that has the boundary, or
where content or fallbacks of the host reset it (`evaluateAll_kept`). A route that is evaluated and
renders nothing leaves its boundary without a failure, whatever comes after it in the pass
(`evaluateAll_healed`). So among the routes that rendered nothing, the boundaries that are healthy
afterwards are those of the routes that were evaluated, and those that were healthy before
(`failure?_after_nothing`): a failure below a route that is absent outlives the pass
(`unevaluated_boundary_stays_failed`).
-/

namespace NestedRouting

section
variable {κ φ σ ν : Type}

mutual

/-- The identities of the boundaries in a tree. -/
def Node.boundaryIds : Node κ φ → List Nat
  | .content _ => []
  | .route _ boundary children => (boundary.toList.map Boundary.id) ++ boundaryIdsAll children

/-- The identities of the boundaries in trees. -/
def Node.boundaryIdsAll : List (Node κ φ) → List Nat
  | [] => []
  | n :: ns => boundaryIds n ++ boundaryIdsAll ns

end

mutual

/-- The routes with a boundary that a pass over a node evaluates, by the identity of the boundary,
with how each evaluation ended. A route that is absent or whose boundary has failed evaluates none
of the routes below it. -/
def evaluations (r : Renderer κ φ σ ν) (path owner : Text) :
    Node κ φ → Context → Stage σ → List (Nat × Outcome RouteError (Option (Rendered ν)))
  | .content _, _, _ => []
  | .route pattern boundary children, level, stage =>
    (boundary.toList.map fun b =>
      (b.id, (evaluate r path owner (.route pattern boundary children) level stage).outcome)) ++
    match enter r.matcher path level pattern with
    | .enters name child _ =>
      match remembered? boundary stage with
      | some _ => []
      | none => evaluationsAll r path name children child stage
    | _ => []

/-- The routes with a boundary that a pass over siblings evaluates. -/
def evaluationsAll (r : Renderer κ φ σ ν) (path owner : Text) :
    List (Node κ φ) → Context → Stage σ → List (Nat × Outcome RouteError (Option (Rendered ν)))
  | [], _, _ => []
  | n :: ns, level, stage =>
    let p := evaluate r path owner n level stage
    evaluations r path owner n level stage ++
      match p.outcome with
      | .returned _ => evaluationsAll r path owner ns p.level p.stage
      | _ => []

end

/-- What a boundary remembers is kept: it is the same as before, or the host, which may reset the
boundaries in `H`, has reset it. -/
def Kept (H : Nat → Prop) (id : Nat) (s s' : Stage σ) : Prop :=
  s'.failure? id = s.failure? id ∨ (H id ∧ s'.failure? id = none)

/-- Content resets no boundary but those in `H`, and the fallback of a boundary at most the boundary
itself besides. -/
structure Renderer.ResetsOnly (r : Renderer κ φ σ ν) (H : Nat → Prop) : Prop where
  content : ∀ c level stage id, Kept H id stage (r.content c level stage).2
  fallback : ∀ b f stage id, id ≠ b.id → Kept H id stage (r.fallback b f stage).2

variable {r : Renderer κ φ σ ν} {path : Text} {H : Nat → Prop} {id : Nat} {s s' s'' : Stage σ}

/-! ## Keeping what is remembered -/

theorem Kept.refl : Kept H id s s := .inl rfl

theorem Kept.trans (h : Kept H id s s') (h' : Kept H id s' s'') : Kept H id s s'' := by
  rcases h' with h' | h'
  · rcases h with h | h
    · exact .inl (h'.trans h)
    · exact .inr ⟨h.1, h'.trans h.2⟩
  · exact .inr h'

/-- Where nothing is remembered nothing comes up. -/
theorem Kept.none (h : Kept H id s s') (hs : s.failure? id = none) : s'.failure? id = none := by
  rcases h with h | h
  · exact h.trans hs
  · exact h.2

/-- A boundary that heals forgets its failure. -/
theorem Stage.failure?_heal_self (s : Stage σ) (id : Nat) : (s.heal id).failure? id = none := by
  simp only [Stage.failure?, Stage.heal, List.lookup_eq_none_iff]
  intro e he
  have hne : e.1 ≠ id := by simpa using (List.mem_filter.1 he).2
  exact bne_iff_ne.2 hne.symm

/-- A boundary that heals leaves the others. -/
theorem Stage.failure?_heal_of_ne {id other : Nat} (s : Stage σ) (h : id ≠ other) :
    (s.heal other).failure? id = s.failure? id := lookup_filter_ne h s.failures

/-- A boundary that fails leaves the others. -/
theorem Stage.failure?_fail_of_ne {id other : Nat} (s : Stage σ) (f : Failure) (h : id ≠ other) :
    (s.fail other f).failure? id = s.failure? id := by
  rw [← Stage.failure?_heal_of_ne s h]
  simp [Stage.failure?, Stage.fail, List.lookup_cons, beq_eq_false_iff_ne.2 h]

/-- Releasing the boundary of a route keeps what other boundaries remember. -/
theorem Stage.failure?_release {boundary : Option (Boundary φ)} (s : Stage σ)
    (h : id ∉ boundary.toList.map Boundary.id) :
    (s.release boundary).failure? id = s.failure? id := by
  cases boundary with
  | none => rfl
  | some b => exact Stage.failure?_heal_of_ne s (by simpa using h)

/-- A boundary that recovers a failure keeps what other boundaries remember. -/
theorem recover_kept (hr : r.ResetsOnly H) {b : Boundary φ} {f : Failure} {inner level : Context}
    (h : id ≠ b.id) : Kept H id s (recover r b f inner level s).stage := by
  have hf : Kept H id s (s.fail b.id f) := .inl (Stage.failure?_fail_of_ne s f h)
  rw [stage_recover]
  exact hf.trans (hr.fallback b f (s.fail b.id f) id h)

/-- A route whose children have been rendered keeps what boundaries other than its own remember. -/
theorem settle_kept (hr : r.ResetsOnly H) {boundary : Option (Boundary φ)} {name : Text}
    {level : Context} {p : Pass σ (List (Rendered ν))}
    (h : id ∉ boundary.toList.map Boundary.id) :
    Kept H id p.stage (settle r boundary name level p).stage := by
  unfold settle
  split
  · exact .refl
  · exact recover_kept hr (by simpa using h)
  · exact recover_kept hr (by simpa using h)
  all_goals exact .refl

mutual

/-- A pass over a node keeps what a boundary remembers whose route it does not evaluate. -/
theorem evaluate_kept (hr : r.ResetsOnly H) {id : Nat} :
    ∀ (n : Node κ φ) (owner : Text) (level : Context) (stage : Stage σ),
      id ∉ (evaluations r path owner n level stage).map Prod.fst →
      Kept H id stage (evaluate r path owner n level stage).stage
  | .content c, owner, level, stage, _ => by
    have hc := hr.content c level stage id
    simp only [evaluate]
    split <;> (next heq => rw [heq] at hc; exact hc)
  | .route pattern boundary children, owner, level, stage, h => by
    simp only [evaluations, List.map_append, List.mem_append, not_or] at h
    obtain ⟨hb, hbelow⟩ := h
    have hb : id ∉ boundary.toList.map Boundary.id := by simpa [Function.comp_def] using hb
    simp only [evaluate]
    cases he : enter r.matcher path level pattern with
    | refused e => exact .refl
    | absent => exact .inl (Stage.failure?_release stage hb)
    | violates v => exact .inl (Stage.failure?_release stage hb)
    | enters name child level' =>
      simp only [he] at hbelow ⊢
      cases hm : remembered? boundary stage with
      | some bf =>
        obtain ⟨b, f⟩ := bf
        have hmem : b ∈ boundary.toList := by
          cases boundary with
          | none => cases hm
          | some b' =>
            simp only [remembered?, Option.bind_eq_bind, Option.bind_some,
              Option.bind_eq_some_iff] at hm
            obtain ⟨_, _, hm⟩ := hm
            cases hm
            exact List.mem_singleton_self _
        exact recover_kept hr fun hid => hb (hid ▸ List.mem_map_of_mem hmem)
      | none =>
        simp only [hm] at hbelow
        exact (evaluateAll_kept hr children name child stage hbelow).trans (settle_kept hr hb)

/-- A pass over siblings keeps what a boundary remembers whose route it does not evaluate. -/
theorem evaluateAll_kept (hr : r.ResetsOnly H) {id : Nat} :
    ∀ (ns : List (Node κ φ)) (owner : Text) (level : Context) (stage : Stage σ),
      id ∉ (evaluationsAll r path owner ns level stage).map Prod.fst →
      Kept H id stage (evaluateAll r path owner ns level stage).stage
  | [], _, _, _, _ => .refl
  | n :: ns, owner, level, stage, h => by
    simp only [evaluationsAll, List.map_append, List.mem_append, not_or] at h
    have hfirst := evaluate_kept hr n owner level stage h.1
    simp only [evaluateAll]
    cases hp : (evaluate r path owner n level stage).outcome with
    | returned view =>
      simp only [hp] at h ⊢
      have hlater := evaluateAll_kept hr ns owner _ _ h.2
      split <;> exact hfirst.trans hlater
    | failed | panicked | exhausted => exact hfirst

end

/-! ## Routes that render nothing -/

mutual

/-- A pass over a node evaluates only routes of its tree. -/
theorem mem_boundaryIds_of_evaluations {id : Nat} :
    ∀ (n : Node κ φ) (owner : Text) (level : Context) (stage : Stage σ),
      id ∈ (evaluations r path owner n level stage).map Prod.fst → id ∈ n.boundaryIds
  | .content _, _, _, _, h => nomatch h
  | .route pattern boundary children, owner, level, stage, h => by
    simp only [evaluations, List.map_append, List.mem_append, List.map_map] at h
    rw [Node.boundaryIds, List.mem_append]
    refine h.imp_right fun h => ?_
    split at h
    · next name child level' _ =>
      split at h
      · cases h
      · exact mem_boundaryIdsAll_of_evaluationsAll children name child stage h
    · cases h

/-- A pass over siblings evaluates only routes of their trees. -/
theorem mem_boundaryIdsAll_of_evaluationsAll {id : Nat} :
    ∀ (ns : List (Node κ φ)) (owner : Text) (level : Context) (stage : Stage σ),
      id ∈ (evaluationsAll r path owner ns level stage).map Prod.fst → id ∈ Node.boundaryIdsAll ns
  | [], _, _, _, h => nomatch h
  | n :: ns, owner, level, stage, h => by
    simp only [evaluationsAll, List.map_append, List.mem_append] at h
    rw [Node.boundaryIdsAll, List.mem_append]
    refine h.imp (mem_boundaryIds_of_evaluations n owner level stage) fun h => ?_
    split at h
    · exact mem_boundaryIdsAll_of_evaluationsAll ns owner _ _ h
    · cases h

end

/-- A route that renders nothing leaves its boundary without a failure. -/
theorem failure?_of_returned_none {pattern : Option Text} {b : Boundary φ}
    {children : List (Node κ φ)} {owner : Text} {level : Context} {stage : Stage σ}
    (h : (evaluate r path owner (.route pattern (some b) children) level stage).outcome =
      .returned none) :
    (evaluate r path owner (.route pattern (some b) children) level stage).stage.failure? b.id =
      none := by
  cases he : enter r.matcher path level pattern with
  | refused e => simp only [evaluate, he] at h; cases h
  | absent => simp only [evaluate, he]; exact Stage.failure?_heal_self stage b.id
  | violates v => simp only [evaluate, he] at h; cases h
  | enters name child level' =>
    obtain ⟨_, _, hv, -⟩ := evaluate_enters he h
    cases hv

mutual

/-- Where a pass over a node evaluates a route that renders nothing, the boundary of the route is
healthy afterwards. -/
theorem evaluate_healed (hr : r.ResetsOnly H) {id : Nat} :
    ∀ (n : Node κ φ) (owner : Text) (level : Context) (stage : Stage σ), n.boundaryIds.Nodup →
      id ∈ (evaluations r path owner n level stage).map Prod.fst →
      (∀ o, (id, o) ∈ evaluations r path owner n level stage → o = .returned none) →
      (evaluate r path owner n level stage).stage.failure? id = none
  | .content _, _, _, _, _, h, _ => nomatch h
  | .route pattern boundary children, owner, level, stage, hu, h, hn => by
    rw [Node.boundaryIds, List.nodup_append] at hu
    by_cases hb : id ∈ boundary.toList.map Boundary.id
    · cases boundary with
      | none => cases hb
      | some b =>
        cases List.mem_singleton.1 hb
        exact failure?_of_returned_none (hn _ (by simp [evaluations]))
    · simp only [evaluations, List.map_append, List.mem_append, List.map_map] at h hn
      replace h := h.resolve_left hb
      simp only [evaluate]
      cases he : enter r.matcher path level pattern with
      | refused | absent | violates => simp [he] at h
      | enters name child level' =>
        cases hm : remembered? boundary stage with
        | some bf => simp [he, hm] at h
        | none =>
          simp only [he, hm] at h hn ⊢
          have hc := evaluateAll_healed hr children name child stage hu.2.1 h
            fun o ho => hn o (.inr ho)
          exact (settle_kept hr hb).none hc

/-- Where a pass over siblings evaluates a route that renders nothing, the boundary of the route is
healthy afterwards. -/
theorem evaluateAll_healed (hr : r.ResetsOnly H) {id : Nat} :
    ∀ (ns : List (Node κ φ)) (owner : Text) (level : Context) (stage : Stage σ),
      (Node.boundaryIdsAll ns).Nodup →
      id ∈ (evaluationsAll r path owner ns level stage).map Prod.fst →
      (∀ o, (id, o) ∈ evaluationsAll r path owner ns level stage → o = .returned none) →
      (evaluateAll r path owner ns level stage).stage.failure? id = none
  | [], _, _, _, _, h, _ => nomatch h
  | n :: ns, owner, level, stage, hu, h, hn => by
    rw [Node.boundaryIdsAll, List.nodup_append] at hu
    simp only [evaluationsAll, List.map_append, List.mem_append] at h hn
    by_cases hfirst : id ∈ (evaluations r path owner n level stage).map Prod.fst
    · have hs := evaluate_healed hr n owner level stage hu.1 hfirst fun o ho => hn o (.inl ho)
      have hmem := mem_boundaryIds_of_evaluations n owner level stage hfirst
      have hnot : ∀ l s, id ∉ (evaluationsAll r path owner ns l s).map Prod.fst := fun l s hl =>
        hu.2.2 id hmem id (mem_boundaryIdsAll_of_evaluationsAll ns owner l s hl) rfl
      simp only [evaluateAll]
      split
      · have hk := evaluateAll_kept hr ns owner _ _
          (hnot (evaluate r path owner n level stage).level
            (evaluate r path owner n level stage).stage)
        split <;> exact hk.none hs
      all_goals exact hs
    · replace h := h.resolve_left hfirst
      simp only [evaluateAll]
      cases hp : (evaluate r path owner n level stage).outcome with
      | returned view =>
        simp only [hp] at h hn ⊢
        have hs := evaluateAll_healed hr ns owner _ _ hu.2.1 h fun o ho => hn o (.inr ho)
        split <;> exact hs
      | failed | panicked | exhausted => simp [hp] at h

end

/-- A route that rendered nothing in a pass: if the pass evaluated the route, its boundary is
healthy afterwards; if not, the boundary remembers what it did before. So the boundary is healthy
afterwards if and only if the route was evaluated or its boundary was healthy. The boundaries in
`H`, which the host may reset, can be healthy besides. -/
theorem failure?_after_nothing (hr : r.ResetsOnly H) {ns : List (Node κ φ)} {owner : Text}
    {level : Context} {stage : Stage σ} (hu : (Node.boundaryIdsAll ns).Nodup) {id : Nat}
    (hn : ∀ o, (id, o) ∈ evaluationsAll r path owner ns level stage → o = .returned none) :
    ((∃ o, (id, o) ∈ evaluationsAll r path owner ns level stage) →
      (evaluateAll r path owner ns level stage).stage.failure? id = none) ∧
    (¬ H id → (¬ ∃ o, (id, o) ∈ evaluationsAll r path owner ns level stage) →
      (evaluateAll r path owner ns level stage).stage.failure? id = stage.failure? id) ∧
    (¬ H id → ((evaluateAll r path owner ns level stage).stage.failure? id = none ↔
      (∃ o, (id, o) ∈ evaluationsAll r path owner ns level stage) ∨ stage.failure? id = none)) := by
  have hmem : (∃ o, (id, o) ∈ evaluationsAll r path owner ns level stage) ↔
      id ∈ (evaluationsAll r path owner ns level stage).map Prod.fst := by simp
  have hreached : (∃ o, (id, o) ∈ evaluationsAll r path owner ns level stage) →
      (evaluateAll r path owner ns level stage).stage.failure? id = none :=
    fun h => evaluateAll_healed hr ns owner level stage hu (hmem.1 h) hn
  have hmissed : ¬ H id → (¬ ∃ o, (id, o) ∈ evaluationsAll r path owner ns level stage) →
      (evaluateAll r path owner ns level stage).stage.failure? id = stage.failure? id :=
    fun hH h => (evaluateAll_kept hr ns owner level stage (mt hmem.2 h)).resolve_right
      fun hk => hH hk.1
  refine ⟨hreached, hmissed, fun hH => ?_⟩
  by_cases he : ∃ o, (id, o) ∈ evaluationsAll r path owner ns level stage
  · exact ⟨fun _ => .inl he, fun _ => hreached he⟩
  · rw [hmissed hH he]
    exact ⟨.inr, fun h => h.resolve_left he⟩

end

/-- The renderer of texts resets no boundary. -/
theorem Renderer.ofTexts_resetsOnly (m : Matcher) :
    (Renderer.ofTexts m).ResetsOnly fun _ => False where
  content c _ _ _ := by cases c <;> exact .refl
  fallback _ _ _ _ _ := .refl

/-- A boundary below a route that is absent from a pass keeps the failure of an earlier one, though
its route rendered nothing. -/
theorem unevaluated_boundary_stays_failed :
    let ns : List (Node (Option String) Unit) :=
      [.route (some ['a']) none [.route (some []) (some ⟨0, ()⟩) [.content none]]]
    let first := evaluateAll (Renderer.ofTexts .exact) ['a'] [] ns .root ⟨[], ()⟩
    let second := evaluateAll (Renderer.ofTexts .exact) ['x'] [] ns .root first.stage
    (∃ views, first.outcome = .returned views) ∧ second.outcome = .returned [] ∧
      second.stage.failure? 0 = some ⟨['a'], "down", [], false⟩ :=
  ⟨⟨_, rfl⟩, rfl, rfl⟩

/-- Of two routes that render nothing, the one that is evaluated has a healthy boundary afterwards.
-/
theorem failure?_after_absent_sibling :
    let ns : List (Node (Option String) Unit) :=
      [.route (some ['a']) none [.route (some []) (some ⟨0, ()⟩) [.content none]],
        .route (some ['b']) (some ⟨1, ()⟩) [.content none]]
    let r := Renderer.ofTexts .exact
    let stage : Stage Unit :=
      ⟨[(0, ⟨['a'], "down", [], false⟩), (1, ⟨['b'], "down", [], false⟩)], ()⟩
    let after := (evaluateAll r ['x'] [] ns .root stage).stage
    r.ResetsOnly (fun _ => False) ∧ (Node.boundaryIdsAll ns).Nodup ∧
      (∀ o, (1, o) ∈ evaluationsAll r ['x'] [] ns .root stage → o = .returned none) ∧
      after.failure? 1 = none ∧ after.failure? 0 = some ⟨['a'], "down", [], false⟩ := by
  intro ns r stage after
  have hu : (Node.boundaryIdsAll ns).Nodup := by decide
  have hn : ∀ id o, (id, o) ∈ evaluationsAll r ['x'] [] ns .root stage → o = .returned none := by
    intro id o ho
    cases ho with
    | head => rfl
    | tail _ ho => cases ho
  have hr := Renderer.ofTexts_resetsOnly .exact
  refine ⟨hr, hu, hn 1, (failure?_after_nothing hr hu (hn 1)).1 ⟨_, .head _⟩, ?_⟩
  exact ((failure?_after_nothing hr hu (hn 0)).2.1 id fun ⟨_, ho⟩ => by
    cases ho with
    | tail _ ho => cases ho).trans rfl

end NestedRouting
