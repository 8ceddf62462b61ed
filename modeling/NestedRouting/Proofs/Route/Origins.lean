import NestedRouting.Proofs.Route.Sticky

/-!
# Which route a recovered failure names

Content below a boundary goes wrong, in a route directly below or further down, with no other boundary
in between (`Visit.Holds`). The boundary recovers it: the level notes a failure, the boundary
remembers it and the fallback shows it (`Visit.Recovers`). A failure that content returns is labelled
where the content is called, with the route that owns it. A panic is labelled where it is caught, with
the route that has the boundary. So the two name the same route only if the routes are called the same
(`recovered_route`), and below a nested route a panic is recorded for a route above the one that failed
(`panic_names_guard`).
-/

namespace NestedRouting

section
variable {κ φ σ ν : Type} {r : Renderer κ φ σ ν} {path : Text}

namespace Visit

/-- The node of a visit is content, and it panics. -/
def Panics (r : Renderer κ φ σ ν) (v : Visit κ φ σ) (x : Payload) : Prop :=
  ∃ c after, v.node = .content c ∧ r.content c v.level v.stage = (.panicked x, after)

/-- A visit comes to the content of a route below it: the route `t` owns the visit `v` directly, and
below `u` down to `t` no route has a boundary. -/
inductive Holds (r : Renderer κ φ σ ν) (path : Text) : Visit κ φ σ → Visit κ φ σ → Visit κ φ σ → Prop
  | own {u v : Visit κ φ σ} : Leads r path u v → Holds r path u u v
  | through {u w t v : Visit κ φ σ} : Leads r path u w → w.node.boundary? = none →
    Holds r path w t v → Holds r path u t v

/-- The boundary of a visit recovers a failure. The level notes it, and the fallback is called for it
when the boundary remembers it; if the fallback returns, it is shown with the failure in place of the
children. -/
structure Recovers (r : Renderer κ φ σ ν) (path : Text) (u : Visit κ φ σ) (b : Boundary φ)
    (f : Failure) : Prop where
  noted : (u.pass r path).level.failure = some f
  shown : ∃ stage : Stage σ, stage.failure? b.id = some f ∧
    (u.pass r path).stage = (r.fallback b f stage).2 ∧
    ∀ view after, r.fallback b f stage = (.returned view, after) →
      ∃ inner, (u.pass r path).outcome = .returned (some (.route inner [.fallback f view]))

variable {u t v w : Visit κ φ σ} {b : Boundary φ} {f : Failure}

/-- A route leads to its first child. -/
theorem Leads.first {owner name : Text} {pattern : Option Text} {boundary : Option (Boundary φ)}
    {behind : List (Node κ φ)} {node : Node κ φ} {level child entered : Context} {stage : Stage σ}
    (henter : enter r.matcher path level pattern = .enters name child entered)
    (hhealthy : remembered? boundary stage = none) :
    Leads r path ⟨.route pattern boundary (node :: behind), owner, level, stage⟩
      ⟨node, name, child, stage⟩ :=
  @Leads.intro _ _ _ _ r path owner name pattern boundary [] behind node level child entered stage []
    henter hhealthy rfl

/-- Content that panics ends its pass with its panic. -/
theorem Panics.outcome_eq {x : Payload} (h : v.Panics r x) :
    (v.pass r path).outcome = .panicked x := by
  obtain ⟨c, after, hnode, hcontent⟩ := h
  obtain ⟨node, owner, level, stage⟩ := v
  subst hnode
  simp only [pass, evaluate, hcontent]

/-- A pass that ends with the fallback of a boundary has recovered its failure. -/
theorem recovers_of_recover {inner level : Context} {stage : Stage σ}
    (h : u.pass r path = recover r b f inner level stage) : u.Recovers r path b f := by
  have hremembers : (stage.fail b.id f).failure? b.id = some f :=
    Stage.failure?_fail_self stage b.id f
  refine ⟨by rw [h, level_recover], _, hremembers, by rw [h, stage_recover],
    fun view after hview => ?_⟩
  rw [h, outcome_recover hview]
  exact ⟨inner, rfl⟩

/-! ## From content to the boundary above it -/

/-- Content fails as content of the route that owns it, which is called by the path of its level and
its pattern. -/
theorem Holds.owner_eq (h : u.Holds r path t v) : v.owner = t.name := by
  induction h with
  | own hleads => exact hleads.owner_eq
  | through _ _ _ ih => exact ih

/-- What goes wrong below a route without a boundary goes wrong at the route. -/
theorem Holds.passes (h : u.Holds r path t v) (hu : u.node.boundary? = none)
    (hwrong : ∀ view, (v.pass r path).outcome ≠ .returned view) :
    (u.pass r path).outcome = (v.pass r path).outcome := by
  induction h with
  | own hleads =>
    obtain ⟨entered, p, -, hpassed, -, hpass⟩ := hleads.settle hwrong
    rw [hpass, hu, settle_unguarded hpassed]
  | through hleads hw _ ih =>
    have hlower := ih hw hwrong
    rw [← hlower] at hwrong
    obtain ⟨entered, p, -, hpassed, -, hpass⟩ := hleads.settle hwrong
    rw [hpass, hu, settle_unguarded hpassed, hlower]

/-- What goes wrong at content is what the boundary above it has to settle, for the route that has the
boundary. -/
theorem Holds.settle (h : u.Holds r path t v)
    (hwrong : ∀ view, (v.pass r path).outcome ≠ .returned view) :
    ∃ (entered : Context) (p : Pass σ (List (Rendered ν))),
      (v.pass r path).outcome.Passed p.outcome ∧
      u.pass r path = NestedRouting.settle r u.node.boundary? u.name entered p := by
  cases h with
  | own hleads =>
    obtain ⟨entered, p, -, hpassed, -, hpass⟩ := hleads.settle hwrong
    exact ⟨entered, p, hpassed, hpass⟩
  | through hleads hw hbelow =>
    have hlower := hbelow.passes hw hwrong
    rw [← hlower] at hwrong ⊢
    obtain ⟨entered, p, -, hpassed, -, hpass⟩ := hleads.settle hwrong
    exact ⟨entered, p, hpassed, hpass⟩

/-- Content that fails is recovered with the failure of the route that owns it. -/
theorem Holds.recovers_failure (h : u.Holds r path t v) (hb : u.node.boundary? = some b)
    {chain : List String} (hfails : v.Fails r chain) :
    u.Recovers r path b (.ofChain t.name chain) := by
  have houtcome : (v.pass r path).outcome = .failed (.render (.ofChain t.name chain)) := by
    rw [← h.owner_eq]
    exact hfails.outcome_eq
  obtain ⟨entered, p, hpassed, hpass⟩ := h.settle (by rw [houtcome]; exact nofun)
  rw [houtcome] at hpassed
  simp only [hb, NestedRouting.settle, hpassed.eq_failed] at hpass
  exact recovers_of_recover hpass

/-- Content that panics is recovered with a failure of the route that has the boundary. -/
theorem Holds.recovers_panic (h : u.Holds r path t v) (hb : u.node.boundary? = some b)
    {x : Payload} (hpanics : v.Panics r x) : u.Recovers r path b (.ofPanic u.name x) := by
  have houtcome : (v.pass r path).outcome = .panicked x := hpanics.outcome_eq
  obtain ⟨entered, p, hpassed, hpass⟩ := h.settle (by rw [houtcome]; exact nofun)
  rw [houtcome] at hpassed
  have hpanicked : p.outcome = .panicked x := by
    cases hp : p.outcome with
    | panicked => rw [hp] at hpassed; cases hpassed; rfl
    | returned | failed | exhausted => rw [hp] at hpassed; cases hpassed
  simp only [hb, NestedRouting.settle, hpanicked] at hpass
  exact recovers_of_recover hpass

end Visit

/-! ## The route that is named -/

/-- What a boundary records and shows of content below it, at any depth, that goes wrong with no other
boundary in between, over every tree, level and stage. The route of a failure that content returns is
that of the owner of the content: the path of its level with its pattern, or the path of its level
alone if it has no pattern. The route of a panic is that of the boundary, which is the owner's only if
no patterns stand in between. -/
theorem recovered_route {u t v : Visit κ φ σ} {b : Boundary φ} (h : u.Holds r path t v)
    (hb : u.node.boundary? = some b) :
    (∀ chain, v.Fails r chain →
      u.Recovers r path b (.ofChain (t.level.path ++ t.node.pattern?.getD []) chain)) ∧
    (∀ x, v.Panics r x →
      u.Recovers r path b (.ofPanic (u.level.path ++ u.node.pattern?.getD []) x)) :=
  ⟨fun _ => h.recovers_failure hb, fun _ => h.recovers_panic hb⟩

end

/-- A renderer whose content is what becomes of it. -/
def Renderer.ofOutcomes (m : Matcher) : Renderer (Outcome (List String) String) Unit Unit String where
  matcher := some m
  content o _ stage := (o, stage)
  fallback _ f stage := (.returned f.message, stage)

/-- A failure two routes below the boundary, in a route without a pattern: the level of that route
names it. -/
theorem failure_recovered_below_two_routes :
    let r := Renderer.ofOutcomes .exact
    let owner : Node (Outcome (List String) String) Unit :=
      .route none none [.content (.failed ["down", "lost"])]
    let u : Visit (Outcome (List String) String) Unit Unit :=
      ⟨.route none (some ⟨0, ()⟩) [.route (some ['a']) none [owner]], [], .root, ⟨[], ()⟩⟩
    let t : Visit (Outcome (List String) String) Unit Unit :=
      ⟨owner, ['a'], .child ['a'] ∅, ⟨[], ()⟩⟩
    ∃ v, u.Holds r ['a'] t v ∧ v.Fails r ["down", "lost"] ∧
      u.Recovers r ['a'] ⟨0, ()⟩ ⟨['a'], "down", ["lost"], false⟩ := by
  intro r owner u t
  let v : Visit (Outcome (List String) String) Unit Unit :=
    ⟨.content (.failed ["down", "lost"]), ['a'], .child ['a'] ∅, ⟨[], ()⟩⟩
  have hholds : u.Holds r ['a'] t v :=
    .through (.first rfl rfl) rfl (.through (.first rfl rfl) rfl (.own (.first rfl rfl)))
  have hfails : v.Fails r ["down", "lost"] := ⟨_, _, rfl, rfl⟩
  exact ⟨v, hholds, hfails, (recovered_route hholds rfl).1 _ hfails⟩

/-- One content, below the route of `/a` and a boundary of the route above it: its failure is recorded
for the route that owns it, its panic is not. -/
theorem panic_names_guard :
    let r := Renderer.ofOutcomes .exact
    let owner (o : Outcome (List String) String) : Node (Outcome (List String) String) Unit :=
      .route (some ['a']) none [.content o]
    let u (o : Outcome (List String) String) : Visit (Outcome (List String) String) Unit Unit :=
      ⟨.route none (some ⟨0, ()⟩) [owner o], [], .root, ⟨[], ()⟩⟩
    let t (o : Outcome (List String) String) : Visit (Outcome (List String) String) Unit Unit :=
      ⟨owner o, [], .child [] ∅, ⟨[], ()⟩⟩
    let v (o : Outcome (List String) String) : Visit (Outcome (List String) String) Unit Unit :=
      ⟨.content o, ['a'], .child ['a'] ∅, ⟨[], ()⟩⟩
    (∀ o, (u o).Holds r ['a'] (t o) (v o) ∧ (t o).name = ['a']) ∧
      (v (.failed ["boom"])).Fails r ["boom"] ∧
      ((u (.failed ["boom"])).pass r ['a']).level.failure = some ⟨['a'], "boom", [], false⟩ ∧
      (v (.panicked (.message "boom"))).Panics r (.message "boom") ∧
      ((u (.panicked (.message "boom"))).pass r ['a']).level.failure =
        some ⟨[], "boom", [], true⟩ := by
  intro r owner u t v
  have hholds (o) : (u o).Holds r ['a'] (t o) (v o) :=
    .through (.first rfl rfl) rfl (.own (.first rfl rfl))
  exact ⟨fun o => ⟨hholds o, rfl⟩, ⟨_, _, rfl, rfl⟩, rfl, ⟨_, _, rfl, rfl⟩, rfl⟩

end NestedRouting
