import NestedRouting.Proofs.Pattern.Prefixed
import NestedRouting.Proofs.Route.Errors
import NestedRouting.Proofs.Route.Mounting

/-!
# Prefixes of levels

A level hands its path down to the routes on it, and the matcher reads it again in front of their
patterns. Static text that has been read again stays in front: what a match has consumed is static,
and it extends the path of the level (`consumed_compiled`). So in the output of a pass every route
shows a static path that extends the path of the level it stands on, at any depth
(`evaluateAll_extends`).
-/

namespace NestedRouting

mutual

/-- Whether the paths of routes are static and only grow: the path of a tree from `base`, the path of
the level that it was rendered on, and the paths of the routes below from the path of the route above
them. -/
def Rendered.Extends {ν : Type} (base : Text) : Rendered ν → Prop
  | .route context children =>
    context.IsStatic ∧ base <+: context.path ∧ Rendered.ExtendAll context.path children
  | .content _ | .fallback .. | .diagnostic _ => True

/-- Whether the paths of the routes in trees are static and only grow. -/
def Rendered.ExtendAll {ν : Type} (base : Text) : List (Rendered ν) → Prop
  | [] => True
  | v :: vs => Rendered.Extends base v ∧ Rendered.ExtendAll base vs

end

/-! ## What a match consumes -/

section
variable {t s path pattern : Text} {o : Options}

/-- A compiled pattern has the tokens that its source parses to. -/
theorem Pattern.parse_of_compile {p : Pattern} (h : Pattern.compile o pattern = .ok p) :
    parse pattern = .ok p.tokens := by
  obtain ⟨tokens, htokens, hp⟩ := bind_eq_ok_iff.1 h
  rw [htokens, (Pattern.tokens_of_ofTokens hp).1]

/-- A text in front of a pattern stands in front of its consumed prefix. -/
theorem ReadBehind.isPrefix {r : Except SyntaxError (List Token)} {ts : List Token}
    (h : ReadBehind t s r (.ok ts)) : t <+: consumedText ts := by
  cases h with
  | @apart tokens _ _ =>
    rw [consumedText_prependTokens]
    exact List.prefix_append t _
  | @joined u c key tokens _ ht _ _ _ =>
    -- the key has taken the last character as its lead, which is consumed with the literal
    rw [ht]
    cases u <;> exact List.prefix_refl _

/-- A pattern behind a static text consumes that text first. -/
theorem isPrefix_consumedText {ts : List Token} (h : parse (escapeSource t ++ s) = .ok ts) :
    t <+: consumedText ts := by
  by_cases ht : t = []
  · rw [ht]
    exact List.nil_prefix
  · have hread := parse_escapeSource ht s
    rw [h] at hread
    exact hread.isPrefix

/-- A match behind static text consumes static text that extends it. -/
theorem consumed_compiled {found : Match}
    (h : Matcher.compiled o (escapeSource t ++ pattern) path = .ok (some found)) :
    ∃ u, found.consumed = escapeSource (t ++ u) := by
  unfold Matcher.compiled at h
  cases hp : Pattern.compile o (escapeSource t ++ pattern) with
  | error e =>
    rw [hp] at h
    cases h
  | ok p =>
    rw [hp] at h
    obtain ⟨w, -, rfl⟩ := Option.map_eq_some_iff.1 (Except.ok.inj h)
    obtain ⟨u, hu⟩ := isPrefix_consumedText (Pattern.parse_of_compile hp)
    exact ⟨u, hu ▸ consumedPrefix_eq p.tokens⟩

end

/-! ## What a pass shows -/

section
variable {κ φ σ ν : Type} {r : Renderer κ φ σ ν} {o : Options} {path owner : Text}
  {level : Context} {stage : Stage σ}

/-- Views and more views that extend a prefix. -/
@[simp] theorem Rendered.extendAll_append {base : Text} {vs ws : List (Rendered ν)} :
    Rendered.ExtendAll base (vs ++ ws) ↔
      Rendered.ExtendAll base vs ∧ Rendered.ExtendAll base ws := by
  induction vs with
  | nil => simp [Rendered.ExtendAll]
  | cons v vs ih => simp [Rendered.ExtendAll, ih, and_assoc]

/-- A route hands down a static path that extends the one of its level. -/
theorem enter_extends (hm : r.matcher = some (.compiled o)) (hl : level.IsStatic)
    {pattern : Option Text} {name : Text} {child entered : Context}
    (h : enter r.matcher path level pattern = .enters name child entered) :
    child.IsStatic ∧ level.path <+: child.path := by
  rw [hm] at h
  cases pattern with
  | none =>
    simp only [enter] at h
    split at h
    · cases h
    · split at h
      · cases h
      · cases h
        exact ⟨hl, List.prefix_refl _⟩
  | some pattern =>
    obtain ⟨t, ht⟩ := hl
    simp only [enter] at h
    split at h
    · cases h
    · cases h
    · next found hfound =>
      cases h
      rw [ht] at hfound ⊢
      obtain ⟨u, hu⟩ := consumed_compiled hfound
      refine ⟨⟨t ++ u, hu⟩, ?_⟩
      show escapeSource t <+: found.consumed
      rw [hu, escapeSource_append]
      exact List.prefix_append _ _

/-- The end of a route leaves the prefix of the level. -/
@[simp] theorem settle_path {boundary : Option (Boundary φ)} {name : Text}
    {p : Pass σ (List (Rendered ν))} : (settle r boundary name level p).level.path = level.path := by
  unfold settle
  split <;> simp

/-- However it ends, a pass over a node leaves the path of the level as it is. -/
@[simp] theorem evaluate_path {n : Node κ φ} :
    (evaluate r path owner n level stage).level.path = level.path := by
  cases n with
  | content c =>
    simp only [evaluate]
    split <;> rfl
  | route pattern boundary children =>
    simp only [evaluate]
    cases he : enter r.matcher path level pattern with
    | refused | absent | violates => rfl
    | enters name child entered =>
      obtain ⟨-, found, rfl⟩ := contexts_of_enter he
      cases hb : remembered? boundary stage <;> simp

/-- However it ends, a pass over siblings leaves the path of the level as it is. -/
@[simp] theorem evaluateAll_path {ns : List (Node κ φ)} :
    (evaluateAll r path owner ns level stage).level.path = level.path := by
  induction ns generalizing level stage with
  | nil => rfl
  | cons n ns ih =>
    simp only [evaluateAll]
    split
    · split <;> simp [ih]
    all_goals simp

/-- A route around a fallback extends the path of the level that its children left. -/
theorem extendAll_fallback {base : Text} {c : Context} {f : Failure} {shown : ν} (hc : c.IsStatic)
    (hbase : base <+: c.path) : Rendered.ExtendAll base [.route c [.fallback f shown]] :=
  ⟨⟨hc, hbase, trivial, trivial⟩, trivial⟩

mutual

/-- What a node on a level with a static path renders. -/
theorem evaluate_extends (hm : r.matcher = some (.compiled o)) :
    ∀ (n : Node κ φ) (owner : Text) (level : Context) (stage : Stage σ)
      {view : Option (Rendered ν)}, level.IsStatic →
      (evaluate r path owner n level stage).outcome = .returned view →
      Rendered.ExtendAll level.path view.toList
  | .content c, owner, level, stage, view, _, h => by
    simp only [evaluate] at h
    split at h
    · cases h
      exact ⟨trivial, trivial⟩
    all_goals cases h
  | .route pattern boundary children, owner, level, stage, view, hl, h => by
    simp only [evaluate] at h
    cases he : enter r.matcher path level pattern with
    | refused e =>
      rw [he] at h
      cases h
    | absent =>
      rw [he] at h
      cases h
      trivial
    | violates v =>
      rw [he] at h
      cases h
      exact ⟨trivial, trivial⟩
    | enters name child entered =>
      obtain ⟨hc, hbase⟩ := enter_extends hm hl he
      simp only [he] at h
      split at h
      · obtain ⟨shown, rfl, -⟩ := recover_returned h
        exact extendAll_fallback hc hbase
      · -- the children leave the path of their level as it is, whether they return or fail
        have hpath : (evaluateAll r path name children child stage).level.path = child.path :=
          evaluateAll_path
        have hstatic : (evaluateAll r path name children child stage).level.IsStatic := by
          rwa [Context.IsStatic, hpath]
        rcases settle_returned h with ⟨shown, hr, rfl, -⟩ | ⟨f, shown, rfl, -⟩
        · refine ⟨⟨hstatic, hpath ▸ hbase, ?_⟩, trivial⟩
          rw [hpath]
          exact extendAll_of_evaluateAll hm children name child stage hc hr
        · exact extendAll_fallback hstatic (hpath ▸ hbase)

/-- What nodes on a level with a static path render. -/
theorem extendAll_of_evaluateAll (hm : r.matcher = some (.compiled o)) :
    ∀ (ns : List (Node κ φ)) (owner : Text) (level : Context) (stage : Stage σ)
      {views : List (Rendered ν)}, level.IsStatic →
      (evaluateAll r path owner ns level stage).outcome = .returned views →
      Rendered.ExtendAll level.path views
  | [], owner, level, stage, views, _, h => by
    simp only [evaluateAll] at h
    cases h
    trivial
  | n :: ns, owner, level, stage, views, hl, h => by
    obtain ⟨view, later, hview, hlater, rfl, -, -⟩ := evaluateAll_cons_returned h
    have hfirst := evaluate_extends hm n owner level stage hl hview
    have hpath : (evaluate r path owner n level stage).level.path = level.path := evaluate_path
    have hrest := extendAll_of_evaluateAll hm ns owner _ _ (by rwa [Context.IsStatic, hpath]) hlater
    rw [hpath] at hrest
    exact Rendered.extendAll_append.2 ⟨hfirst, hrest⟩

end

/-- In the output of a pass over trees on a level with a static path, every route, at any depth,
shows a static path that extends the path of the level it was evaluated on. -/
theorem evaluateAll_extends (hm : r.matcher = some (.compiled o)) {ns : List (Node κ φ)}
    {owner : Text} {level : Context} {stage : Stage σ} {views : List (Rendered ν)}
    (hl : level.IsStatic)
    (h : (evaluateAll r path owner ns level stage).outcome = .returned views) :
    Rendered.ExtendAll level.path views :=
  extendAll_of_evaluateAll hm ns owner level stage hl h

/-- Below the text `/a:b`, a key takes the slash in front of it, and the route below writes its
pattern behind both. -/
theorem evaluateAll_extends_escaped :
    let level := Context.child "/a\\:b".toList ∅
    let ns : List (Node Text Unit) := [.route (some "/:id".toList) none
      [.content "id".toList, .route (some ":part".toList) none [.content "part".toList]]]
    let p := evaluateAll (Renderer.ofParams (.compiled {})) "/a:b/7".toList [] ns level ⟨[], ()⟩
    level.IsStatic ∧ ∃ views, p.outcome = .returned views ∧
      Rendered.contentsOf views = ["7", "7"] ∧ Rendered.ExtendAll level.path views := by
  intro level ns p
  have hl : level.IsStatic := ⟨"/a:b".toList, by decide⟩
  have hcontents : p.outcome.returned?.map Rendered.contentsOf = some ["7", "7"] := by
    decide +kernel
  cases h : p.outcome with
  | returned views =>
    rw [h] at hcontents
    exact ⟨hl, views, rfl, Option.some.inj hcontents, evaluateAll_extends rfl hl h⟩
  | failed | panicked | exhausted =>
    rw [h] at hcontents
    cases hcontents

end

end NestedRouting
