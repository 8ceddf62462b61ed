import NestedRouting.Route.Evaluate

/-!
# Sibling exclusivity

What one sibling does to the level it shares with the others is said once: it adds its match, if
its pattern matched, and the failure that its boundary recovered, if there was one
(`evaluate_level`). From there `evaluateAll_level` gives the level after a list of siblings, and
`evaluateAll_exclusive` says which of them render: a route with a pattern whenever it matches,
whatever stands before it, and a route without one only on a level that nobody has claimed.
-/

namespace NestedRouting

section
variable {κ φ σ ν : Type}

/-- The failure that the boundary of a rendered route has recovered. -/
def Rendered.recovered? : Rendered ν → Option Failure
  | .route _ [.fallback f _] => some f
  | _ => none

/-- The match of a route with a pattern, below a path prefix. -/
def Node.match? (m : Matcher) (base path : Text) : Node κ φ → Option Match
  | .route (some pattern) _ _ =>
    match m (base ++ pattern) path with
    | .ok found => found
    | .error _ => none
  | _ => none

/-- The level that siblings leave behind, by what they are and what they rendered. -/
def Context.after (m : Matcher) (path : Text) (level : Context) (ns : List (Node κ φ))
    (views : List (Rendered ν)) : Context :=
  { level with
    matched := level.matched ++ ns.filterMap (Node.match? m level.path path)
    failure := (views.filterMap Rendered.recovered?).getLast?.or level.failure }

/-- Inherited parameters are allowed if there are none, or only the first positional one. -/
def Context.isHygienic (c : Context) : Prop :=
  c.params.isEmpty ∨ c.params.names = [Context.positionalName]

variable {r : Renderer κ φ σ ν} {m : Matcher} {path owner : Text} {level : Context}
  {stage : Stage σ}

/-- Nothing is reported of a level with allowed parameters. -/
theorem Context.violation?_eq_none_iff {c : Context} : c.violation? = none ↔ c.isHygienic := by
  unfold Context.violation? Context.isHygienic
  split <;> simp_all

/-! ## Siblings one after the other -/

/-- The siblings behind the first go on from where it ended. -/
theorem evaluateAll_cons_returned {n : Node κ φ} {ns : List (Node κ φ)} {views : List (Rendered ν)}
    (h : (evaluateAll r path owner (n :: ns) level stage).outcome = .returned views) :
    ∃ view later,
      (evaluate r path owner n level stage).outcome = .returned view ∧
      (evaluateAll r path owner ns (evaluate r path owner n level stage).level
        (evaluate r path owner n level stage).stage).outcome = .returned later ∧
      views = view.toList ++ later ∧
      (evaluateAll r path owner (n :: ns) level stage).level =
        (evaluateAll r path owner ns (evaluate r path owner n level stage).level
          (evaluate r path owner n level stage).stage).level ∧
      (evaluateAll r path owner (n :: ns) level stage).stage =
        (evaluateAll r path owner ns (evaluate r path owner n level stage).level
          (evaluate r path owner n level stage).stage).stage := by
  simp only [evaluateAll] at h ⊢
  generalize evaluate r path owner n level stage = p at h ⊢
  cases hp : p.outcome with
  | returned view =>
    rw [hp] at h
    simp only at h ⊢
    generalize evaluateAll r path owner ns p.level p.stage = q at h ⊢
    cases hq : q.outcome with
    | returned later =>
      rw [hq] at h
      cases h
      exact ⟨view, later, rfl, rfl, rfl, rfl, rfl⟩
    | failed | panicked | exhausted => rw [hq] at h; cases h
  | failed | panicked | exhausted => rw [hp] at h; cases h

/-- A list of siblings that returns, cut in two: both parts return, the second from where the first
ended. -/
theorem evaluateAll_append_returned {ns ms : List (Node κ φ)} :
    ∀ {level : Context} {stage : Stage σ} {views : List (Rendered ν)},
      (evaluateAll r path owner (ns ++ ms) level stage).outcome = .returned views →
      ∃ earlier later,
        (evaluateAll r path owner ns level stage).outcome = .returned earlier ∧
        (evaluateAll r path owner ms (evaluateAll r path owner ns level stage).level
          (evaluateAll r path owner ns level stage).stage).outcome = .returned later ∧
        views = earlier ++ later := by
  induction ns with
  | nil => exact fun h => ⟨[], _, rfl, h, rfl⟩
  | cons n ns ih =>
    intro level stage views h
    rw [List.cons_append] at h
    obtain ⟨view, rest, hview, hrest, rfl, -, -⟩ := evaluateAll_cons_returned h
    obtain ⟨earlier, later, he, hl, rfl⟩ := ih hrest
    refine ⟨view.toList ++ earlier, later, ?_, ?_, (List.append_assoc ..).symm⟩
    · simp only [evaluateAll, hview, he]
    · simpa only [evaluateAll, hview, he] using hl

/-! ## What a boundary does -/

section
variable {b : Boundary φ} {f : Failure} {inner : Context}

/-- However the fallback ends, the level notes the failure. -/
@[simp] theorem level_recover :
    (recover r b f inner level stage).level = { level with failure := some f } := by
  unfold recover
  rcases r.fallback b f (stage.fail b.id f) with ⟨view | e | p | _, after⟩
  · rfl
  · exact nomatch e
  · rfl
  · rfl

/-- However the fallback ends, it ran where the boundary remembers the failure. -/
@[simp] theorem stage_recover :
    (recover r b f inner level stage).stage = (r.fallback b f (stage.fail b.id f)).2 := by
  unfold recover
  rcases r.fallback b f (stage.fail b.id f) with ⟨view | e | p | _, after⟩
  · rfl
  · exact nomatch e
  · rfl
  · rfl

/-- A fallback that returns is shown inside the route. -/
theorem outcome_recover {view : ν} {after : Stage σ}
    (h : r.fallback b f (stage.fail b.id f) = (.returned view, after)) :
    (recover r b f inner level stage).outcome =
      .returned (some (.route inner [.fallback f view])) := by
  unfold recover
  rw [h]

/-- A boundary that recovers a failure shows its fallback inside the route, and notes the failure on
the level. -/
theorem recover_returned {view : Option (Rendered ν)}
    (h : (recover r b f inner level stage).outcome = .returned view) :
    ∃ shown, view = some (.route inner [.fallback f shown]) ∧
      (recover r b f inner level stage).level = { level with failure := some f } := by
  unfold recover at h
  split at h
  · cases h
    exact ⟨_, rfl, level_recover⟩
  · next e _ _ => exact nomatch e
  · cases h
  · cases h

end

/-! ## What one sibling does -/

/-- A route whose children have been rendered is shown: around what they rendered, on a level that
stays as it is, or around the fallback of a failure that the level notes. -/
theorem settle_returned {boundary : Option (Boundary φ)} {name : Text}
    {p : Pass σ (List (Rendered ν))} {view : Option (Rendered ν)}
    (h : (settle r boundary name level p).outcome = .returned view) :
    (∃ shown, p.outcome = .returned shown ∧ view = some (.route p.level shown) ∧
      (settle r boundary name level p).level = level) ∨
    (∃ f shown, view = some (.route p.level [.fallback f shown]) ∧
      (settle r boundary name level p).level = { level with failure := some f }) := by
  unfold settle at h ⊢
  split at h
  · next hr =>
    cases h
    exact .inl ⟨_, hr, rfl, rfl⟩
  · obtain ⟨shown, rfl, hl⟩ := recover_returned h
    exact .inr ⟨_, _, rfl, hl⟩
  · obtain ⟨shown, rfl, hl⟩ := recover_returned h
    exact .inr ⟨_, _, rfl, hl⟩
  all_goals cases h

/-- Nothing that a node renders is a bare fallback: a boundary shows its fallback inside its
route. -/
theorem evaluate_ne_fallback {n : Node κ φ} {f : Failure} {view : ν} :
    (evaluate r path owner n level stage).outcome ≠ .returned (some (.fallback f view)) := by
  intro h
  cases n with
  | content c =>
    simp only [evaluate] at h
    split at h <;> cases h
  | route pattern boundary children =>
    simp only [evaluate] at h
    split at h
    · cases h
    · cases h
    · cases h
    · split at h
      · obtain ⟨_, hv, -⟩ := recover_returned h
        cases hv
      · rcases settle_returned h with ⟨_, -, hv, -⟩ | ⟨_, _, hv, -⟩ <;> cases hv

/-- Siblings that return render no bare fallback. -/
theorem fallback_notMem_evaluateAll {ns : List (Node κ φ)} :
    ∀ {level : Context} {stage : Stage σ} {views : List (Rendered ν)} {f : Failure} {view : ν},
      (evaluateAll r path owner ns level stage).outcome = .returned views →
      .fallback f view ∉ views := by
  induction ns with
  | nil =>
    intro level stage views f view h
    simp only [evaluateAll] at h
    cases h
    exact List.not_mem_nil
  | cons n ns ih =>
    intro level stage views f view h hmem
    obtain ⟨first, later, hfirst, hlater, rfl, -, -⟩ := evaluateAll_cons_returned h
    rcases List.mem_append.1 hmem with hmem | hmem
    · cases first with
      | none => cases hmem
      | some x =>
        simp only [Option.toList_some, List.mem_singleton] at hmem
        exact evaluate_ne_fallback (hmem ▸ hfirst)
    · exact ih hlater hmem

/-- A route around what its children rendered has recovered nothing. -/
theorem recovered?_of_evaluateAll {ns : List (Node κ φ)} {views : List (Rendered ν)} {c : Context}
    (h : (evaluateAll r path owner ns level stage).outcome = .returned views) :
    (Rendered.route c views).recovered? = none := by
  unfold Rendered.recovered?
  split
  · next heq =>
    cases heq
    exact absurd (List.mem_singleton_self _) (fallback_notMem_evaluateAll h)
  · rfl

/-- A route that enters is shown, and the level notes the failure that it recovered. -/
theorem evaluate_enters {pattern : Option Text} {boundary : Option (Boundary φ)}
    {children : List (Node κ φ)} {name : Text} {child entered : Context}
    {view : Option (Rendered ν)}
    (he : enter r.matcher path level pattern = .enters name child entered)
    (h : (evaluate r path owner (.route pattern boundary children) level stage).outcome =
      .returned view) :
    ∃ c shown, view = some (.route c shown) ∧
      (evaluate r path owner (.route pattern boundary children) level stage).level =
        { entered with failure := (Rendered.route c shown).recovered?.or entered.failure } := by
  simp only [evaluate, he] at h ⊢
  split at h
  · obtain ⟨shown, rfl, hl⟩ := recover_returned h
    exact ⟨_, _, rfl, hl⟩
  · rcases settle_returned h with ⟨shown, hr, rfl, hl⟩ | ⟨f, shown, rfl, hl⟩
    · exact ⟨_, _, rfl, by rw [hl, recovered?_of_evaluateAll hr]; rfl⟩
    · exact ⟨_, _, rfl, hl⟩

/-- What a sibling that returns has rendered: content always; a route with a pattern if and only if
the pattern matches; a route without one, where it may stand, if and only if the level is not yet
claimed. -/
inductive Yields (m : Matcher) (path : Text) (level : Context) :
    Node κ φ → Option (Rendered ν) → Prop
  | content (c : κ) (view : ν) : Yields m path level (.content c) (some (.content view))
  | unmatched {pattern boundary children} (h : m (level.path ++ pattern) path = .ok none) :
      Yields m path level (.route (some pattern) boundary children) none
  | matched {pattern boundary children found} (c : Context) (shown : List (Rendered ν))
      (h : m (level.path ++ pattern) path = .ok (some found)) :
      Yields m path level (.route (some pattern) boundary children) (some (.route c shown))
  | violates {boundary children v} (h : level.violation? = some v) :
      Yields m path level (.route none boundary children) (some (.diagnostic v))
  | claimed {boundary children} (h : level.violation? = none) (hc : level.isClaimed = true) :
      Yields m path level (.route none boundary children) none
  | stands {boundary children} (c : Context) (shown : List (Rendered ν))
      (h : level.violation? = none) (hc : level.isClaimed = false) :
      Yields m path level (.route none boundary children) (some (.route c shown))

/-- A sibling that returns: what it rendered, and the level that it leaves. -/
theorem evaluate_level (hm : r.matcher = some m) {n : Node κ φ} {view : Option (Rendered ν)}
    (h : (evaluate r path owner n level stage).outcome = .returned view) :
    Yields m path level n view ∧
      (evaluate r path owner n level stage).level = level.after m path [n] view.toList := by
  cases n with
  | content c =>
    simp only [evaluate] at h ⊢
    split at h
    · cases h
      exact ⟨.content c _,
        by simp [Context.after, List.filterMap_cons, Node.match?, Rendered.recovered?]⟩
    all_goals cases h
  | route pattern boundary children =>
    cases pattern with
    | none =>
      cases hv : level.violation? with
      | some v =>
        simp only [evaluate, enter, hm, hv] at h ⊢
        cases h
        exact ⟨.violates hv,
          by simp [Context.after, List.filterMap_cons, Node.match?, Rendered.recovered?]⟩
      | none =>
        cases hc : level.isClaimed with
        | true =>
          simp only [evaluate, enter, hm, hv, hc, if_true] at h ⊢
          cases h
          exact ⟨.claimed hv hc, by simp [Context.after, List.filterMap_cons, Node.match?]⟩
        | false =>
          have he : enter r.matcher path level none =
              .enters level.path (.child level.path level.params) level := by
            simp [enter, hm, hv, hc]
          obtain ⟨c, shown, rfl, hl⟩ := evaluate_enters he h
          refine ⟨.stands c shown hv hc, ?_⟩
          rw [hl]
          cases hr : (Rendered.route c shown).recovered? <;>
            simp [Context.after, Node.match?, hr]
    | some pattern =>
      cases hf : m (level.path ++ pattern) path with
      | error e =>
        simp only [evaluate, enter, hm, hf] at h
        cases h
      | ok found =>
        cases found with
        | none =>
          simp only [evaluate, enter, hm, hf] at h ⊢
          cases h
          exact ⟨.unmatched hf, by simp [Context.after, Node.match?, hf]⟩
        | some found =>
          have he : enter r.matcher path level (some pattern) =
              .enters (level.path ++ pattern) (.child found.consumed found.params)
                { level with matched := level.matched ++ [found] } := by
            simp [enter, hm, hf]
          obtain ⟨c, shown, rfl, hl⟩ := evaluate_enters he h
          refine ⟨.matched c shown hf, ?_⟩
          rw [hl]
          cases hr : (Rendered.route c shown).recovered? <;>
            simp [Context.after, Node.match?, hf, hr]

/-! ## What all siblings do -/

/-- Siblings leave the prefix of their level. -/
@[simp] theorem Context.after_path {ns : List (Node κ φ)} {views : List (Rendered ν)} :
    (level.after m path ns views).path = level.path := rfl

/-- Siblings leave the inherited parameters. -/
@[simp] theorem Context.after_params {ns : List (Node κ φ)} {views : List (Rendered ν)} :
    (level.after m path ns views).params = level.params := rfl

/-- Siblings do not change whether the inherited parameters are allowed. -/
@[simp] theorem Context.violation?_after {ns : List (Node κ φ)} {views : List (Rendered ν)} :
    (level.after m path ns views).violation? = level.violation? := rfl

/-- Siblings leave the level that they would leave in two parts. -/
theorem Context.after_after {ns ms : List (Node κ φ)} {views more : List (Rendered ν)} :
    (level.after m path ns views).after m path ms more =
      level.after m path (ns ++ ms) (views ++ more) := by
  simp only [Context.after, List.filterMap_append, List.append_assoc, List.getLast?_append,
    Option.or_assoc]

/-- The level after siblings that return: the path and the parameters stay, the matches are added in
order, and the failure is the last one that a sibling has recovered. -/
theorem evaluateAll_level (hm : r.matcher = some m) {ns : List (Node κ φ)} :
    ∀ {level : Context} {stage : Stage σ} {views : List (Rendered ν)},
      (evaluateAll r path owner ns level stage).outcome = .returned views →
      (evaluateAll r path owner ns level stage).level = level.after m path ns views := by
  induction ns with
  | nil =>
    intro level stage views h
    simp only [evaluateAll] at h ⊢
    cases h
    simp [Context.after]
  | cons n ns ih =>
    intro level stage views h
    obtain ⟨view, later, hview, hlater, rfl, hl, -⟩ := evaluateAll_cons_returned h
    rw [hl, ih hlater, (evaluate_level hm hview).2, Context.after_after]
    rfl

/-- A level is claimed after siblings if it was before, or if one of them matched or recovered a
failure. -/
theorem Context.isClaimed_after {ns : List (Node κ φ)} {views : List (Rendered ν)} :
    (level.after m path ns views).isClaimed = false ↔
      level.isClaimed = false ∧ (∀ n ∈ ns, n.match? m level.path path = none) ∧
        ∀ v ∈ views, v.recovered? = none := by
  have hlast : ((views.filterMap Rendered.recovered?).getLast?.or level.failure).isSome = false ↔
      (∀ v ∈ views, v.recovered? = none) ∧ level.failure.isSome = false := by
    simp
  simp only [Context.isClaimed, Context.after, Bool.or_eq_false_iff, hlast]
  simp [List.filterMap_eq_nil_iff, and_assoc, and_left_comm, and_comm]

/-! ## Exclusivity -/

/-- Sibling exclusivity, for siblings that rendered `views`. A sibling `n` is taken where it stands,
behind the siblings `before` it that rendered `earlier`. -/
structure Exclusive (r : Renderer κ φ σ ν) (m : Matcher) (path owner : Text) (ns : List (Node κ φ))
    (level : Context) (stage : Stage σ) (views : List (Rendered ν)) : Prop where
  /-- Every sibling returns, and `views` is what they rendered, in order. -/
  inOrder : ∀ before n behind, ns = before ++ n :: behind → ∃ earlier view later,
    (evaluateAll r path owner before level stage).outcome = .returned earlier ∧
    (evaluate r path owner n (evaluateAll r path owner before level stage).level
      (evaluateAll r path owner before level stage).stage).outcome = .returned view ∧
    views = earlier ++ view.toList ++ later
  /-- A route with a pattern renders if and only if the pattern matches. -/
  patterned : ∀ before pattern boundary children behind view,
    ns = before ++ .route (some pattern) boundary children :: behind →
    (evaluate r path owner (.route (some pattern) boundary children)
      (evaluateAll r path owner before level stage).level
      (evaluateAll r path owner before level stage).stage).outcome = .returned view →
    (view.isSome ↔ ∃ found, m (level.path ++ pattern) path = .ok (some found))
  /-- A route without a pattern shows a diagnostic if and only if it must not inherit its
  parameters; otherwise it renders if and only if the level was not claimed, no sibling before it
  matched and none recovered a failure; and there is no third way. -/
  unpatterned : ∀ before boundary children behind earlier view,
    ns = before ++ .route none boundary children :: behind →
    (evaluateAll r path owner before level stage).outcome = .returned earlier →
    (evaluate r path owner (.route none boundary children)
      (evaluateAll r path owner before level stage).level
      (evaluateAll r path owner before level stage).stage).outcome = .returned view →
    ((∃ v, view = some (.diagnostic v)) ↔ ¬ level.isHygienic) ∧
    ((∃ c shown, view = some (.route c shown)) ↔
      level.isHygienic ∧ (level.matched = [] ∧ level.failure = none) ∧
        (∀ n ∈ before, n.match? m level.path path = none) ∧ ∀ v ∈ earlier, v.recovered? = none) ∧
    (view = none ∨ (∃ v, view = some (.diagnostic v)) ∨ ∃ c shown, view = some (.route c shown))
  /-- The level keeps its path and its parameters. -/
  path_eq : (evaluateAll r path owner ns level stage).level.path = level.path
  params_eq : (evaluateAll r path owner ns level stage).level.params = level.params
  /-- The level has the matches of the siblings that matched behind those it had. -/
  matched_eq : (evaluateAll r path owner ns level stage).level.matched =
    level.matched ++ ns.filterMap (Node.match? m level.path path)

/-- A level is free as long as nothing has matched and nothing has failed. -/
theorem Context.isClaimed_eq_false_iff {c : Context} :
    c.isClaimed = false ↔ c.matched = [] ∧ c.failure = none := by
  simp [Context.isClaimed]

/-- Siblings that return are exclusive, on every level and behind every history of passes. -/
theorem evaluateAll_exclusive (hm : r.matcher = some m) {ns : List (Node κ φ)}
    {views : List (Rendered ν)}
    (h : (evaluateAll r path owner ns level stage).outcome = .returned views) :
    Exclusive r m path owner ns level stage views where
  inOrder := by
    rintro before n behind rfl
    obtain ⟨earlier, rest, he, hrest, rfl⟩ := evaluateAll_append_returned h
    obtain ⟨view, later, hview, -, rfl, -, -⟩ := evaluateAll_cons_returned hrest
    exact ⟨earlier, view, later, he, hview, (List.append_assoc ..).symm⟩
  patterned := by
    rintro before pattern boundary children behind view rfl hview
    obtain ⟨earlier, rest, he, -, rfl⟩ := evaluateAll_append_returned h
    have hl := evaluateAll_level hm he
    rw [hl] at hview
    cases (evaluate_level hm hview).1 with
    | unmatched hf =>
      rw [Context.after_path] at hf
      simp [hf]
    | matched c shown hf =>
      rw [Context.after_path] at hf
      simp [hf]
  unpatterned := by
    rintro before boundary children behind earlier view rfl he hview
    have hl := evaluateAll_level hm he
    rw [hl] at hview
    have hclaim : (level.after m path before earlier).isClaimed = false ↔ _ :=
      Context.isClaimed_after
    rw [← Context.isClaimed_eq_false_iff, ← hclaim, ← Context.violation?_eq_none_iff]
    cases (evaluate_level hm hview).1 with
    | violates hv => rw [Context.violation?_after] at hv; simp [hv]
    | claimed hv hc => rw [Context.violation?_after] at hv; simp [hv, hc]
    | stands c shown hv hc => rw [Context.violation?_after] at hv; simp [hv, hc]
  path_eq := by rw [evaluateAll_level hm h, Context.after_path]
  params_eq := by rw [evaluateAll_level hm h, Context.after_params]
  matched_eq := by rw [evaluateAll_level hm h]; rfl

end

/-- Renders texts: content shows its text, or fails where it has none, and a boundary shows the
message of the failure. -/
def Renderer.ofTexts (m : Matcher) : Renderer (Option String) Unit Unit String where
  matcher := some m
  content c _ := c.elim (Run.fail ["down"]) Run.ret
  fallback _ f := Run.ret f.message

/-- Behind a route that matches and recovers a failure, and one that does not match, the route
without a pattern stands down. -/
theorem exclusive_behind_recovered :
    let ns : List (Node (Option String) Unit) :=
      [.route (some ['a']) (some ⟨0, ()⟩) [.content none], .route (some ['b']) none [.content none],
        .route none none [.content (some "home")]]
    let views := [.route (.child ['a'] ∅) [.fallback ⟨['a'], "down", [], false⟩ "down"]]
    (Renderer.ofTexts .exact).matcher = some .exact ∧
    (evaluateAll (Renderer.ofTexts .exact) ['a'] [] ns .root ⟨[], ()⟩).outcome = .returned views ∧
    Exclusive (Renderer.ofTexts .exact) .exact ['a'] [] ns .root ⟨[], ()⟩ views :=
  ⟨rfl, rfl, evaluateAll_exclusive rfl rfl⟩

end NestedRouting
