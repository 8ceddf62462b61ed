import NestedRouting.Proofs.Pattern.Parsing
import NestedRouting.Proofs.Route.Siblings

/-!
# Trees behind a base

A tree whose patterns have no groups of their own renders behind a base as it renders by itself,
with the base in front of every path (`evaluateAll_base`). The two passes go side by side: the level
and the stage of the second are those of the first behind the base (`Pass.Behind`), which every step
of a pass keeps. It rests on the prefix of a level being static text, so that a pattern is read
behind it as it is read by itself.
-/

namespace NestedRouting

/-! ## What stands behind a base -/

/-- A failure behind a base. -/
def Failure.mount (b : Text) (f : Failure) : Failure := { f with route := b ++ f.route }

/-- A context behind a base. -/
def Context.mount (b : Text) (c : Context) : Context where
  path := b ++ c.path
  params := c.params
  matched := c.matched.map (Match.mount b)
  failure := c.failure.map (Failure.mount b)

namespace Rendered

variable {ν : Type}

mutual

/-- A rendered tree behind a base: every context and every failure is moved, and all views stay. -/
def mount (b : Text) : Rendered ν → Rendered ν
  | route context children => .route (context.mount b) (mountAll b children)
  | content view => .content view
  | fallback failure view => .fallback (failure.mount b) view
  | diagnostic violation => .diagnostic violation

/-- Rendered trees behind a base. -/
def mountAll (b : Text) : List (Rendered ν) → List (Rendered ν)
  | [] => []
  | r :: rs => mount b r :: mountAll b rs

end

/-- Views and more views behind a base. -/
theorem mountAll_append (b : Text) (rs ss : List (Rendered ν)) :
    mountAll b (rs ++ ss) = mountAll b rs ++ mountAll b ss := by
  induction rs with
  | nil => rfl
  | cons r rs ih => exact congrArg (r.mount b :: ·) ih

/-- A view, if there is one, behind a base. -/
theorem mountAll_toList (b : Text) (view : Option (Rendered ν)) :
    mountAll b view.toList = (view.map (mount b)).toList := by
  cases view <;> rfl

end Rendered

/-- A stage behind a base: the boundaries remember the same failures behind the base. -/
def Stage.mount {σ : Type} (b : Text) (s : Stage σ) : Stage σ :=
  { s with failures := s.failures.map fun e => (e.1, e.2.mount b) }

/-- An error behind a base: a failure of content behind the base, or a malformed pattern, whose
error may be worded in another way there. -/
inductive RouteError.Behind (b : Text) : RouteError → RouteError → Prop
  | badPattern (pattern : Text) (u v : SyntaxError) :
    Behind b (.badPattern pattern u) (.badPattern (b ++ pattern) v)
  | render (f : Failure) : Behind b (.render f) (.render (f.mount b))

/-- How a pass ends behind a base, where `move` moves what it returns. -/
inductive Outcome.Behind {α : Type} (b : Text) (move : α → α) :
    Outcome RouteError α → Outcome RouteError α → Prop
  | returned (a : α) : Behind b move (.returned a) (.returned (move a))
  | failed {e e' : RouteError} : e.Behind b e' → Behind b move (.failed e) (.failed e')
  | panicked (p : Payload) : Behind b move (.panicked p) (.panicked p)
  | exhausted : Behind b move .exhausted .exhausted

/-- A pass behind a base: it ends behind the base, and so are the level and the stage it leaves. -/
structure Pass.Behind {σ α : Type} (b : Text) (move : α → α) (p q : Pass σ α) : Prop where
  outcome : p.outcome.Behind b move q.outcome
  level_eq : q.level = p.level.mount b
  stage_eq : q.stage = p.stage.mount b

/-- Whether the prefix of a level is static text, as it is spelled in a pattern. -/
def Context.IsStatic (c : Context) : Prop := ∃ t, c.path = escapeSource t

/-- What becomes of a route behind a base. The prefix of the routes below it is static. -/
inductive Entry.Behind (b : Text) : Entry → Entry → Prop
  | refused {e e' : RouteError} : e.Behind b e' → Behind b (.refused e) (.refused e')
  | absent : Behind b .absent .absent
  | violates (v : Violation) : Behind b (.violates v) (.violates v)
  | enters (name : Text) {child : Context} (level : Context) : child.IsStatic →
    Behind b (.enters name child level) (.enters (b ++ name) (child.mount b) (level.mount b))

/-- Content reads nothing of its context but the parameters, and fallbacks do not read the route of
the failure. What either does to the stage does not depend on the routes of remembered failures. -/
structure Renderer.IsBlind {κ φ σ ν : Type} (r : Renderer κ φ σ ν) : Prop where
  content : ∀ c level level', level.params = level'.params → r.content c level = r.content c level'
  fallback : ∀ bd f route, r.fallback bd { f with route } = r.fallback bd f
  content_mount : ∀ c level stage b, r.content c level (stage.mount b) =
    ((r.content c level stage).1, (r.content c level stage).2.mount b)
  fallback_mount : ∀ bd f stage b, r.fallback bd f (stage.mount b) =
    ((r.fallback bd f stage).1, (r.fallback bd f stage).2.mount b)

mutual

/-- Whether no pattern of a tree has a group of its own. -/
def Node.HasNoGroup {κ φ : Type} : Node κ φ → Prop
  | .content _ => True
  | .route pattern _ children =>
    (∀ p, pattern = some p → NestedRouting.HasNoGroup p) ∧ Node.HaveNoGroup children

/-- Whether no pattern of trees has a group of its own. -/
def Node.HaveNoGroup {κ φ : Type} : List (Node κ φ) → Prop
  | [] => True
  | n :: ns => Node.HasNoGroup n ∧ Node.HaveNoGroup ns

end

/-! ## The operations of a pass -/

section
variable {κ φ σ ν : Type} {b path : Text} {o : Options} {r : Renderer κ φ σ ν} {stage : Stage σ}

/-- A pattern without groups matches behind a base as it matches by itself. -/
theorem compiled_base (hb : b.IsBase) {pattern : Text} (hgroup : HasNoGroup pattern)
    (hpath : path.IsSegmented) (o : Options) :
    (∃ u v, Matcher.compiled o pattern path = .error u ∧
        Matcher.compiled o (b ++ pattern) (b ++ path) = .error v) ∨
      ∃ found, Matcher.compiled o pattern path = .ok found ∧
        Matcher.compiled o (b ++ pattern) (b ++ path) = .ok (found.map (Match.mount b)) ∧
        ∀ m, found = some m → ∃ t, m.consumed = escapeSource t := by
  unfold Matcher.compiled
  rcases compile_base hb hgroup o with ⟨u, v, hp, hq⟩ | ⟨p, q, hp, hq, h⟩
  · rw [hp, hq]
    exact .inl ⟨u, v, rfl, rfl⟩
  · rw [hp, hq]
    have hexec :=
      Pattern.exec_mount h.first h.second h.options_eq h.tokens_eq hb.plain h.literal hpath
    refine .inr ⟨p.exec path, rfl, congrArg Except.ok hexec, fun m hm => ?_⟩
    obtain ⟨w, -, rfl⟩ := Option.map_eq_some_iff.1 hm
    exact ⟨_, consumedPrefix_eq p.tokens⟩

/-- A boundary remembers behind a base what it remembers by itself. -/
theorem failure?_mount (s : Stage σ) (id : Nat) :
    (s.mount b).failure? id = (s.failure? id).map (Failure.mount b) := by
  simp only [Stage.failure?, Stage.mount]
  induction s.failures with
  | nil => rfl
  | cons e es ih =>
    rw [List.map_cons, List.lookup_cons, List.lookup_cons, ih]
    split <;> rfl

/-- A boundary heals behind a base. -/
theorem heal_mount (s : Stage σ) (id : Nat) : (s.mount b).heal id = (s.heal id).mount b := by
  simp only [Stage.heal, Stage.mount, List.filter_map]
  rfl

/-- A boundary fails behind a base. -/
theorem fail_mount (s : Stage σ) (id : Nat) (f : Failure) :
    (s.mount b).fail id (f.mount b) = (s.fail id f).mount b := by
  simp only [Stage.fail, heal_mount]
  rfl

/-- A boundary is released behind a base. -/
theorem release_mount (s : Stage σ) (boundary : Option (Boundary φ)) :
    (s.mount b).release boundary = (s.release boundary).mount b := by
  cases boundary with
  | none => rfl
  | some bd => exact heal_mount s bd.id

/-- The failure that a boundary remembers, behind a base. -/
theorem remembered?_mount (boundary : Option (Boundary φ)) (s : Stage σ) :
    remembered? boundary (s.mount b) =
      (remembered? boundary s).map fun p => (p.1, p.2.mount b) := by
  cases boundary with
  | none => rfl
  | some bd =>
    have h := failure?_mount (b := b) s bd.id
    cases hf : s.failure? bd.id with
    | none => simp [remembered?, h, hf]
    | some f => simp [remembered?, h, hf]

/-- A base does not change whether a level is claimed. -/
theorem isClaimed_mount (c : Context) : (c.mount b).isClaimed = c.isClaimed := by
  simp [Context.isClaimed, Context.mount]

/-- A base does not change whether parameters are missing. -/
theorem violation?_mount (c : Context) : (c.mount b).violation? = c.violation? := rfl

/-- A boundary recovers behind a base what it recovers by itself. -/
theorem recover_behind (hr : r.IsBlind) (bd : Boundary φ) (f : Failure) (inner level : Context)
    (stage : Stage σ) : (recover r bd f inner level stage).Behind b (Option.map (Rendered.mount b))
      (recover r bd (f.mount b) (inner.mount b) (level.mount b) (stage.mount b)) := by
  have hview : r.fallback bd (f.mount b) ((stage.mount b).fail bd.id (f.mount b)) =
      ((r.fallback bd f (stage.fail bd.id f)).1,
        (r.fallback bd f (stage.fail bd.id f)).2.mount b) := by
    rw [fail_mount, Failure.mount, hr.fallback, hr.fallback_mount]
  unfold recover
  simp only [hview]
  generalize r.fallback bd f (stage.fail bd.id f) = run
  obtain ⟨outcome, stage'⟩ := run
  cases outcome with
  | returned view => exact ⟨.returned _, rfl, rfl⟩
  | failed e => exact nomatch e
  | panicked p => exact ⟨.panicked p, rfl, rfl⟩
  | exhausted => exact ⟨.exhausted, rfl, rfl⟩

/-- A route ends behind a base as it ends by itself. -/
theorem settle_behind (hr : r.IsBlind) (boundary : Option (Boundary φ)) (name : Text)
    (level : Context) {p q : Pass σ (List (Rendered ν))} (h : p.Behind b (Rendered.mountAll b) q) :
    (settle r boundary name level p).Behind b (Option.map (Rendered.mount b))
      (settle r boundary (b ++ name) (level.mount b) q) := by
  obtain ⟨outcome, inner, stage⟩ := p
  obtain ⟨outcome', inner', stage'⟩ := q
  obtain ⟨houtcome, rfl, rfl⟩ := h
  cases houtcome with
  | returned views => exact ⟨.returned _, rfl, rfl⟩
  | failed he =>
    cases he with
    | badPattern pattern u v => exact ⟨.failed (.badPattern pattern u v), rfl, rfl⟩
    | render f =>
      cases boundary with
      | none => exact ⟨.failed (.render f), rfl, rfl⟩
      | some bd => exact recover_behind hr bd f inner level stage
  | panicked x =>
    cases boundary with
    | none => exact ⟨.panicked x, rfl, rfl⟩
    | some bd => exact recover_behind hr bd (.ofPanic name x) inner level stage
  | exhausted => exact ⟨.exhausted, rfl, rfl⟩

/-- What becomes of a route behind a base becomes of it by itself. -/
theorem enter_behind (hb : b.IsBase) (hpath : path.IsSegmented) {level : Context}
    (hlevel : level.IsStatic) {pattern : Option Text}
    (hpattern : ∀ p, pattern = some p → HasNoGroup p) :
    Entry.Behind b (enter (some (.compiled o)) path level pattern)
      (enter (some (.compiled o)) (b ++ path) (level.mount b) pattern) := by
  cases pattern with
  | none =>
    simp only [enter, violation?_mount, isClaimed_mount]
    cases level.violation? with
    | some v => exact .violates v
    | none =>
      cases level.isClaimed with
      | true => exact .absent
      | false => exact .enters level.path level hlevel
  | some pattern =>
    obtain ⟨t, ht⟩ := hlevel
    have hgroup : HasNoGroup (level.path ++ pattern) := ht ▸ (hpattern pattern rfl).escapeSource t
    have hfull : (level.mount b).path ++ pattern = b ++ (level.path ++ pattern) :=
      List.append_assoc b level.path pattern
    simp only [enter, hfull]
    rcases compiled_base hb hgroup hpath o with ⟨u, v, hu, hv⟩ | ⟨found, hfound, hmount, hstatic⟩
    · simp only [hu, hv]
      exact .refused (.badPattern _ u v)
    · simp only [hfound, hmount]
      cases found with
      | none => exact .absent
      | some m =>
        have hmatched : (level.mount b).matched ++ [m.mount b] =
            (level.matched ++ [m]).map (Match.mount b) := by
          rw [List.map_append]
          rfl
        have hchild : (Context.child m.consumed m.params).IsStatic := hstatic m rfl
        simp only [Option.map_some, hmatched]
        exact .enters _ { level with matched := level.matched ++ [m] } hchild

/-! ## A whole pass -/

mutual

/-- A node renders behind a base as it renders by itself. -/
theorem evaluate_behind (hb : b.IsBase) (hpath : path.IsSegmented)
    (hm : r.matcher = some (.compiled o)) (hr : r.IsBlind) :
    ∀ (n : Node κ φ) (owner : Text) (level : Context) (stage : Stage σ), n.HasNoGroup →
      level.IsStatic →
      (evaluate r path owner n level stage).Behind b (Option.map (Rendered.mount b))
        (evaluate r (b ++ path) (b ++ owner) n (level.mount b) (stage.mount b))
  | .content c, owner, level, stage, _, _ => by
    have hview : r.content c (level.mount b) (stage.mount b) =
        ((r.content c level stage).1, (r.content c level stage).2.mount b) := by
      rw [hr.content c (level.mount b) level rfl, hr.content_mount]
    simp only [evaluate, hview]
    generalize r.content c level stage = run
    obtain ⟨outcome, stage'⟩ := run
    cases outcome with
    | returned view => exact ⟨.returned _, rfl, rfl⟩
    | failed chain => exact ⟨.failed (.render (.ofChain owner chain)), rfl, rfl⟩
    | panicked x => exact ⟨.panicked x, rfl, rfl⟩
    | exhausted => exact ⟨.exhausted, rfl, rfl⟩
  | .route pattern boundary children, owner, level, stage, hn, hlevel => by
    obtain ⟨hpattern, hchildren⟩ := hn
    have hentry := enter_behind (o := o) hb hpath hlevel hpattern
    simp only [evaluate, hm]
    generalize enter (some (.compiled o)) path level pattern = entry at hentry
    generalize enter (some (.compiled o)) (b ++ path) (level.mount b) pattern = entry' at hentry
    cases hentry with
    | refused he => exact ⟨.failed he, rfl, rfl⟩
    | absent => exact ⟨.returned none, rfl, release_mount stage boundary⟩
    | violates v =>
      exact ⟨.returned (some (Rendered.diagnostic v)), rfl, release_mount stage boundary⟩
    | @enters name child level' hchild =>
      simp only [remembered?_mount]
      cases remembered? boundary stage with
      | some p => exact recover_behind hr p.1 p.2 child level' stage
      | none =>
        refine settle_behind hr boundary name level' ?_
        exact evaluateAll_behind hb hpath hm hr children name child stage hchildren
          hchild

/-- Siblings render behind a base as they render by themselves. -/
theorem evaluateAll_behind (hb : b.IsBase) (hpath : path.IsSegmented)
    (hm : r.matcher = some (.compiled o)) (hr : r.IsBlind) :
    ∀ (ns : List (Node κ φ)) (owner : Text) (level : Context) (stage : Stage σ),
      Node.HaveNoGroup ns → level.IsStatic →
      (evaluateAll r path owner ns level stage).Behind b (Rendered.mountAll b)
        (evaluateAll r (b ++ path) (b ++ owner) ns (level.mount b) (stage.mount b))
  | [], _, _, _, _, _ => ⟨.returned [], rfl, rfl⟩
  | n :: ns, owner, level, stage, hns, hlevel => by
    have hfirst := evaluate_behind hb hpath hm hr n owner level stage hns.1 hlevel
    have hpathAfter : ∀ view, (evaluate r path owner n level stage).outcome = .returned view →
        (evaluate r path owner n level stage).level.path = level.path := by
      intro view hview
      rw [(evaluate_level hm hview).2, Context.after_path]
    simp only [evaluateAll]
    generalize evaluate r path owner n level stage = p at hfirst hpathAfter
    generalize evaluate r (b ++ path) (b ++ owner) n (level.mount b) (stage.mount b) = q at hfirst
    obtain ⟨outcome, level', stage'⟩ := p
    obtain ⟨outcome', _, _⟩ := q
    obtain ⟨houtcome, rfl, rfl⟩ := hfirst
    cases houtcome with
    | failed he => exact ⟨.failed he, rfl, rfl⟩
    | panicked x => exact ⟨.panicked x, rfl, rfl⟩
    | exhausted => exact ⟨.exhausted, rfl, rfl⟩
    | returned view =>
      obtain ⟨t, ht⟩ := hlevel
      have hstatic : level'.IsStatic := ⟨t, (hpathAfter view rfl).trans ht⟩
      have hlater := evaluateAll_behind hb hpath hm hr ns owner level' stage' hns.2 hstatic
      generalize evaluateAll r path owner ns level' stage' = p at hlater
      generalize evaluateAll r (b ++ path) (b ++ owner) ns (level'.mount b) (stage'.mount b) = q
        at hlater
      obtain ⟨outcome, level'', stage''⟩ := p
      obtain ⟨outcome', _, _⟩ := q
      obtain ⟨houtcome, rfl, rfl⟩ := hlater
      cases houtcome with
      | failed he => exact ⟨.failed he, rfl, rfl⟩
      | panicked x => exact ⟨.panicked x, rfl, rfl⟩
      | exhausted => exact ⟨.exhausted, rfl, rfl⟩
      | returned views =>
        have houtcome : Outcome.Behind b (Rendered.mountAll b) (.returned (view.toList ++ views))
            (.returned ((view.map (Rendered.mount b)).toList ++ Rendered.mountAll b views)) := by
          rw [← Rendered.mountAll_toList, ← Rendered.mountAll_append]
          exact .returned _
        exact ⟨houtcome, rfl, rfl⟩

end

/-- Where no boundary has failed, a stage is the same behind a base. -/
theorem mount_of_healthy (h : ∀ id, stage.failure? id = none) : stage.mount b = stage := by
  obtain ⟨failures, host⟩ := stage
  cases failures with
  | nil => rfl
  | cons e es =>
    have he := h e.1
    rw [Stage.failure?, List.lookup_cons, beq_self_eq_true] at he
    cases he

/-- Mounting a tree under a base changes nothing but the base in front: with healthy boundaries, the
pass with the base on a path behind it and the pass without it on the path by itself both return,
both fail, or end otherwise in the same way. What they return is the same but for the base in front
of every context, consumed prefix, match and failure. -/
theorem evaluateAll_base (hm : r.matcher = some (.compiled o)) (hr : r.IsBlind) (hb : b.IsBase)
    (hpath : path.IsSegmented) {ns : List (Node κ φ)} (hns : Node.HaveNoGroup ns)
    (hhealthy : ∀ id, stage.failure? id = none) :
    (evaluateAll r path [] ns .root stage).Behind b (Rendered.mountAll b)
      (evaluateAll r (b ++ path) b ns (.child b ∅) stage) := by
  have h := evaluateAll_behind hb hpath hm hr ns [] .root stage hns ⟨[], rfl⟩
  have hroot : Context.root.mount b = .child b ∅ := by
    simp [Context.mount, Context.root, Context.child]
  rw [hroot, mount_of_healthy hhealthy, List.append_nil] at h
  exact h

end

/-- What code returned, if it did. -/
def Outcome.returned? {ε α : Type} : Outcome ε α → Option α
  | .returned a => some a
  | _ => none

/-- Renders parameters: content shows the value of a parameter, or fails where it has none, and a
boundary shows the message of the failure. -/
def Renderer.ofParams (m : Matcher) : Renderer Text Unit Unit String where
  matcher := some m
  content name c :=
    (c.params.get? name).elim (Run.fail ["absent"]) fun v => Run.ret (String.ofList v)
  fallback _ f := Run.ret f.message

/-- Content that shows parameters does not look at paths. -/
theorem Renderer.ofParams_isBlind (m : Matcher) : (Renderer.ofParams m).IsBlind where
  content c level level' h := by simp only [ofParams, h]
  fallback _ _ _ := rfl
  content_mount c level stage b := by
    simp only [ofParams]
    cases level.params.get? c <;> rfl
  fallback_mount _ _ _ _ := rfl

/-- A page of a user, with a part that fails inside a boundary, under a base and by itself. -/
theorem evaluateAll_base_user :
    let b := "/app".toList
    let path := "/users/7".toList
    let r := Renderer.ofParams (.compiled {})
    let ns : List (Node Text Unit) := [.route (some "/users/:id".toList) none
      [.content "id".toList, .route (some []) (some ⟨0, ()⟩) [.content "name".toList]]]
    let first := evaluateAll r path [] ns .root ⟨[], ()⟩
    let second := evaluateAll r (b ++ path) b ns (.child b ∅) ⟨[], ()⟩
    Text.IsBase b ∧ Text.IsSegmented path ∧ Node.HaveNoGroup ns ∧ r.IsBlind ∧
      ∃ views, first.outcome = .returned views ∧ Rendered.contentsOf views = ["7", "absent"] ∧
        second.outcome = .returned (Rendered.mountAll b views) := by
  intro b path r ns first second
  have hb : Text.IsBase b := by
    refine ⟨by decide, ?_, ?_⟩
    · simp [b, isSpecial]
    · rintro c ⟨⟩
      rfl
  have hpath : Text.IsSegmented path := .inr ⟨'/', "users/7".toList, rfl, rfl⟩
  have hgroup : HasNoGroup "/users/:id".toList ∧ HasNoGroup [] := by decide +kernel
  have hns : Node.HaveNoGroup ns := by
    refine ⟨⟨?_, trivial, ⟨?_, trivial, trivial⟩, trivial⟩, trivial⟩
    · rintro p ⟨⟩
      exact hgroup.1
    · rintro p ⟨⟩
      exact hgroup.2
  have hr : r.IsBlind := Renderer.ofParams_isBlind _
  have hcontents : first.outcome.returned?.map Rendered.contentsOf = some ["7", "absent"] := by
    decide +kernel
  have hbehind : first.Behind b (Rendered.mountAll b) second :=
    evaluateAll_base rfl hr hb hpath hns fun _ => rfl
  have houtcome := hbehind.outcome
  refine ⟨hb, hpath, hns, hr, ?_⟩
  generalize first.outcome = o at hcontents houtcome
  generalize second.outcome = o' at houtcome
  cases houtcome with
  | returned views => exact ⟨views, rfl, Option.some.inj hcontents, rfl⟩
  | failed | panicked | exhausted => cases hcontents

end NestedRouting
