import NestedRouting.Proofs.Route.Prefixes
import NestedRouting.Proofs.Route.Repeated
import Mathlib.Data.List.Forall2

/-!
# Chains of static routes

A static pattern has no key and no group. Its tokens are determined by its text, also behind a level
with a static path (`parse_behind`), so that it matches the paths that reach the text of both
(`Options.Reaches`) and hands down that text (`compiled_static`). In a chain of static routes the
texts therefore add up from level to level: the content at the end is rendered if and only if the
path reaches every one of the accumulated texts (`chain_renders_iff_reaches`).
-/

namespace NestedRouting

/-- Whether a pattern is static: it has neither a key nor a group, and its text is `t`. -/
def IsStaticPattern (pattern t : Text) : Prop :=
  ∃ tokens, parse pattern = .ok tokens ∧ (∀ x ∈ tokens, x.IsLiteral) ∧ staticText tokens = t

/-- Whether a path reaches a text, which must stand for whole segments there: the path starts with the
text, and either the text is empty or ends with a delimiter, or it is the whole path, or a delimiter
follows. -/
def Options.Reaches (o : Options) (t path : Text) : Prop :=
  ∃ u rest, path = u ++ rest ∧ o.Same t u ∧
    (t = [] ∨ (∃ d, t.getLast? = some d ∧ isDelimiter d = true) ∨ rest = [] ∨
      ∃ d s, rest = d :: s ∧ isDelimiter d = true)

/-- Routes with the given patterns, each the only child of the one before, and content in the last.
-/
def Node.chain {κ φ : Type} (c : κ) : List Text → Node κ φ
  | [] => .content c
  | pattern :: patterns => .route (some pattern) none [chain c patterns]

/-- Whether a pass ends as its only content ends by itself: with the view of the content and no
other, with a failure of a route that has the messages of the content, or with its panic. -/
inductive Outcome.Carries {ν : Type} :
    Outcome (List String) ν → Outcome RouteError (List (Rendered ν)) → Prop
  | returned {v : ν} {views : List (Rendered ν)} :
    Rendered.contentsOf views = [v] → Carries (.returned v) (.returned views)
  | failed (chain : List String) (owner : Text) :
    Carries (.failed chain) (.failed (.render (.ofChain owner chain)))
  | panicked (x : Payload) : Carries (.panicked x) (.panicked x)
  | exhausted : Carries .exhausted .exhausted

/-! ## Static patterns -/

section
variable {t b s pattern path : Text} {tokens : List Token} {d : Draft} {o : Options}

/-- The tokens that have been read are none, or one of them is no literal: only a key or a group ends
the literal before the end of the pattern. -/
def Draft.IsCut (d : Draft) : Prop := d.tokens = [] ∨ ∃ x ∈ d.tokens, ¬ x.IsLiteral

/-- A token that is no literal cuts the literal before it. -/
theorem Draft.isCut_pushToken {x : Token} (hx : ¬ x.IsLiteral) : (d.pushToken x).IsCut :=
  .inr ⟨x, List.mem_append_right _ (List.mem_singleton_self x), hx⟩

/-- What has been cut stays cut. -/
theorem Draft.IsCut.edits (h : d.IsCut) (es : List Edit) : (es.foldl Draft.edit d).IsCut := by
  induction es generalizing d with
  | nil => exact h
  | cons x es ih =>
    refine ih ?_
    cases x with
    | char c => exact h
    | group text modifier => exact isCut_pushToken id
    | slot slot lead tail modifier => cases slot <;> exact isCut_pushToken id

/-- Tokens without keys and groups are the literal of their text. -/
theorem eq_literalOf_of_parse (h : parse pattern = .ok tokens)
    (hliteral : ∀ x ∈ tokens, x.IsLiteral) : tokens = literalOf (staticText tokens) := by
  suffices hread : ∃ u, tokens = literalOf u by
    obtain ⟨u, rfl⟩ := hread
    rw [staticText_literalOf]
  cases hlex : lex pattern with
  | error e =>
    simp only [parse, hlex] at h
    cases h
  | ok xs =>
    simp only [parse, hlex] at h
    have hend : Ended (fun _ => True) xs := ended_lexFrom hlex fun _ _ => trivial
    rw [← parseFrom_moved_zero .empty xs] at h
    rcases parseFrom_edits hend with ⟨e, herror⟩ | ⟨es, -, hread⟩
    · rw [herror] at h
      cases h
    · rw [hread] at h
      obtain rfl := Except.ok.inj h
      have hcut : (es.foldl Draft.edit .empty).IsCut := Draft.IsCut.edits (.inl rfl) es
      rw [Draft.tokens_flush] at hliteral ⊢
      rcases hcut with hnil | ⟨x, hx, hno⟩
      · exact ⟨_, by rw [hnil, List.nil_append]; rfl⟩
      · exact absurd (hliteral x (List.mem_append_left _ hx)) hno

/-- A static pattern is read as the literal of its text. -/
theorem IsStaticPattern.parse_eq (h : IsStaticPattern pattern t) : parse pattern = .ok (literalOf t) := by
  obtain ⟨tokens, hparse, hliteral, rfl⟩ := h
  rw [hparse, ← eq_literalOf_of_parse hparse hliteral]

/-- A text behind a text is one text. -/
theorem prependTokens_literalOf (hb : b ≠ []) (t : Text) :
    prependTokens b (literalOf t) = literalOf (b ++ t) := by
  cases b with
  | nil => exact absurd rfl hb
  | cons c b =>
    cases t with
    | nil => exact congrArg (fun u => [Token.literal u]) (List.append_nil (c :: b)).symm
    | cons d t => rfl

/-- A text has no keys. -/
theorem key_notMem_literalOf {key : Key} : Token.key key ∉ literalOf t := by
  cases t <;> simp [literalOf]

/-- Behind static text, a static pattern is read as the literal of both texts. -/
theorem IsStaticPattern.parse_behind (h : IsStaticPattern pattern t) (b : Text) :
    parse (escapeSource b ++ pattern) = .ok (literalOf (b ++ t)) := by
  by_cases hb : b = []
  · rw [hb]
    exact h.parse_eq
  · have hread := parse_escapeSource hb pattern
    rw [h.parse_eq] at hread
    generalize htokens : literalOf t = tokens, parse (escapeSource b ++ pattern) = r at hread
    cases hread with
    | apart _ _ => rw [← htokens, prependTokens_literalOf hb]
    | joined _ _ _ _ _ =>
      exact absurd (htokens ▸ List.mem_cons_self) (key_notMem_literalOf (t := t))

/-! ## What static text matches -/

instance {u : Text} : Decidable (o.Same t u) :=
  inferInstanceAs (Decidable
    (if o.sensitive = true then t = u else t.map Unicode.fold = u.map Unicode.fold))

/-- Whether a path reaches a text is told from what stands in the path in place of the text. -/
theorem Options.reaches_iff_take : o.Reaches t path ↔ o.Same t (path.take t.length) ∧
    (t = [] ∨ t.getLast?.any isDelimiter = true ∨
      (path.drop t.length).head?.all isDelimiter = true) := by
  constructor
  · rintro ⟨u, rest, rfl, hsame, hrest⟩
    rw [← hsame.length_eq, List.take_left, List.drop_left]
    refine ⟨hsame, hrest.imp_right ?_⟩
    rintro (hlast | rfl | ⟨d, s, rfl, hd⟩)
    · exact .inl ((Option.any_eq_true _ _).2 hlast)
    · exact .inr rfl
    · exact .inr hd
  · rintro ⟨hsame, hrest⟩
    refine ⟨_, _, (List.take_append_drop t.length path).symm, hsame, hrest.imp_right ?_⟩
    rintro (hlast | hhead)
    · exact .inl ((Option.any_eq_true _ _).1 hlast)
    · cases hdrop : path.drop t.length with
      | nil => exact .inr (.inl rfl)
      | cons d s =>
        rw [hdrop] at hhead
        exact .inr (.inr ⟨d, s, rfl, hhead⟩)

instance : Decidable (o.Reaches t path) := decidable_of_iff _ Options.reaches_iff_take.symm

/-- The spellings of a literal. -/
theorem spells_literalOf_iff {u : Text} {values : List (Option Text)} :
    Spells o (literalOf t) u values ↔ o.Same t u ∧ values = [] := by
  cases t with
  | nil =>
    rw [same_nil]
    refine ⟨spells_nil, ?_⟩
    rintro ⟨rfl, rfl⟩
    exact .nil
  | cons c t =>
    constructor
    · intro h
      cases h with
      | literal hsame h =>
        obtain ⟨rfl, rfl⟩ := spells_nil h
        exact ⟨by rwa [List.append_nil], rfl⟩
    · rintro ⟨hsame, rfl⟩
      have h : Spells o [.literal (c :: t)] (u ++ []) [] := .literal hsame .nil
      rwa [List.append_nil] at h

/-- A text ends with a delimiter if its last character is one, or it is empty. -/
theorem endsWithDelimiter_literalOf : endsWithDelimiter (literalOf t) = true ↔
    t = [] ∨ ∃ d, t.getLast? = some d ∧ isDelimiter d = true := by
  cases t with
  | nil => simp [literalOf, endsWithDelimiter]
  | cons c t => simp [literalOf, endsWithDelimiter, Option.any_eq_true]

/-- A text is consumed as a whole. -/
theorem consumedPrefix_literalOf (t : Text) : consumedPrefix (literalOf t) = escapeSource t := by
  cases t <;> rfl

/-- A path reaches a text if it starts with a spelling of the literal, with a rest that may follow. -/
theorem reaches_iff (ho : o.whole = false) : o.Reaches t path ↔ ∃ u rest values,
    path = u ++ rest ∧ Spells o (literalOf t) u values ∧ o.AllowsRest (literalOf t) rest := by
  simp only [Options.Reaches, Options.AllowsRest, ho, spells_literalOf_iff,
    endsWithDelimiter_literalOf, or_assoc, Bool.false_eq_true, if_false]
  constructor
  · rintro ⟨u, rest, hpath, hsame, hrest⟩
    exact ⟨u, rest, [], hpath, ⟨hsame, rfl⟩, hrest⟩
  · rintro ⟨u, rest, values, hpath, ⟨hsame, -⟩, hrest⟩
    exact ⟨u, rest, hpath, hsame, hrest⟩

/-- A pattern that is read as a literal matches the paths that reach its text, and hands it down. -/
theorem compiled_static (ho : o.whole = false) (h : parse pattern = .ok (literalOf t))
    (path : Text) :
    (o.Reaches t path →
      ∃ found, Matcher.compiled o pattern path = .ok (some found) ∧
        found.consumed = escapeSource t) ∧
    (¬ o.Reaches t path → Matcher.compiled o pattern path = .ok none) := by
  have hkeys : ∀ key ∈ keysOf (literalOf t), False := by
    simp [keysOf_literalOf]
  obtain ⟨p, hp⟩ := (compile_isOk_iff (o := o) h fun key hkey => (hkeys key hkey).elim).2
    fun key hkey => (hkeys key hkey).elim
  obtain ⟨htokens, -⟩ := tokens_of_compile h hp
  have hplain : ∀ key ∈ p.keys, key.IsPlain := by
    rw [Pattern.keys, htokens]
    exact fun key hkey => (hkeys key hkey).elim
  have hcompiled : Matcher.compiled o pattern path = .ok (p.exec path) := by
    rw [Matcher.compiled, hp]
    rfl
  obtain ⟨hplain, rfl⟩ := Pattern.isPlain_of_compile hp hplain
  rw [hcompiled]
  constructor
  · intro hreach
    obtain ⟨u, rest, values, rfl, hspells, hrest⟩ := (reaches_iff ho).1 hreach
    rw [← htokens] at hspells hrest
    obtain ⟨found, hfound⟩ := Option.isSome_iff_exists.1 (Pattern.exec_isSome hplain hspells hrest)
    obtain ⟨_, _, _, -, -, -, hmatch⟩ := Pattern.matchOf_of_exec hplain hfound
    have hconsumed : found.consumed = consumedPrefix p.tokens := congrArg Match.consumed hmatch
    exact ⟨found, congrArg _ hfound, by rw [hconsumed, htokens, consumedPrefix_literalOf]⟩
  · intro hreach
    cases hfound : p.exec path with
    | none => rfl
    | some found =>
      obtain ⟨u, rest, values, hpath, hspells, hrest, -⟩ := Pattern.matchOf_of_exec hplain hfound
      rw [htokens] at hspells hrest
      exact absurd ((reaches_iff ho).2 ⟨u, rest, values, hpath, hspells, hrest⟩) hreach

end

/-! ## Chains -/

section
variable {κ φ σ ν : Type} {r : Renderer κ φ σ ν} {o : Options} {path owner : Text}
  {level : Context} {stage : Stage σ}

/-- Content alone on a level is carried by the pass over it. -/
theorem evaluateAll_content (c : κ) :
    (r.content c level stage).1.Carries
        (evaluateAll r path owner [.content c] level stage).outcome ∧
      (evaluateAll r path owner [.content c] level stage).stage = (r.content c level stage).2 := by
  simp only [evaluateAll, evaluate]
  obtain ⟨o, after⟩ := r.content c level stage
  cases o with
  | returned v => exact ⟨.returned rfl, rfl⟩
  | failed chain => exact ⟨.failed chain owner, rfl⟩
  | panicked x => exact ⟨.panicked x, rfl⟩
  | exhausted => exact ⟨.exhausted, rfl⟩

/-- A node alone on a level. -/
theorem evaluateAll_singleton (n : Node κ φ) :
    let p := evaluate r path owner n level stage
    evaluateAll r path owner [n] level stage = ⟨p.outcome.map Option.toList, p.level, p.stage⟩ := by
  intro p
  simp only [evaluateAll]
  show _ = Pass.mk (p.outcome.map _) p.level p.stage
  cases p.outcome <;> simp only [p, Outcome.map, List.append_nil]

/-- A route without a boundary ends as its children do, around what they rendered. -/
theorem settle_none (name : Text) (p : Pass σ (List (Rendered ν))) : settle r none name level p =
    ⟨p.outcome.map fun views => some (.route p.level views), level, p.stage⟩ := by
  cases hp : p.outcome with
  | returned views => simp only [settle, hp, Outcome.map]
  | failed e => exact settle_unguarded (hp.symm ▸ .failed e)
  | panicked x => exact settle_unguarded (hp.symm ▸ .panicked x)
  | exhausted => exact settle_unguarded (hp.symm ▸ .exhausted)

/-- A route without a boundary that enters, alone on a level. -/
theorem evaluateAll_route_alone {pattern : Option Text} {children : List (Node κ φ)} {name : Text}
    {child entered : Context}
    (he : enter r.matcher path level pattern = .enters name child entered) :
    let q := evaluateAll r path name children child stage
    evaluateAll r path owner [.route pattern none children] level stage =
      ⟨q.outcome.map fun views => [.route q.level views], entered, q.stage⟩ := by
  intro q
  have hhealthy : remembered? (none : Option (Boundary φ)) stage = none := rfl
  rw [evaluateAll_singleton, evaluate_of_enters he hhealthy, settle_none, Outcome.map_map]
  rfl

/-- A route around a tree carries what the tree carries. -/
theorem Outcome.Carries.inRoute {c : Context} {u : Outcome (List String) ν}
    {w : Outcome RouteError (List (Rendered ν))} (h : u.Carries w) :
    u.Carries (w.map fun views => [.route c views]) := by
  cases h with
  | returned hviews => exact .returned ((List.append_nil _).trans hviews)
  | failed chain owner => exact .failed chain owner
  | panicked x => exact .panicked x
  | exhausted => exact .exhausted

/-- A chain of static routes on a level with a static path. -/
theorem evaluateAll_chain (hm : r.matcher = some (.compiled o)) (ho : o.whole = false) (c : κ)
    {patterns texts : List Text} (hs : List.Forall₂ IsStaticPattern patterns texts) :
    ∀ (b owner : Text) (level : Context), level.path = escapeSource b →
      let p := evaluateAll r path owner [.chain c patterns] level stage
      ((∀ k < texts.length, o.Reaches (b ++ (texts.take (k + 1)).flatten) path) →
        ∃ ctx : Context, ctx.path = escapeSource (b ++ texts.flatten) ∧
          (r.content c ctx stage).1.Carries p.outcome ∧
          p.stage = (r.content c ctx stage).2) ∧
      ((¬ ∀ k < texts.length, o.Reaches (b ++ (texts.take (k + 1)).flatten) path) →
        ∃ views, p.outcome = .returned views ∧ Rendered.contentsOf views = [] ∧
          p.stage = stage) := by
  induction hs with
  | nil =>
    intro b owner level hpath p
    refine ⟨fun _ => ⟨level, by simpa using hpath, evaluateAll_content c⟩, fun hno => ?_⟩
    exact absurd nofun hno
  | @cons pattern t patterns texts hstatic _ ih =>
    intro b owner level hpath p
    -- the text of this route first, then those below it
    have hall : (∀ k < (t :: texts).length,
          o.Reaches (b ++ ((t :: texts).take (k + 1)).flatten) path) ↔
        o.Reaches (b ++ t) path ∧
          ∀ k < texts.length, o.Reaches (b ++ t ++ (texts.take (k + 1)).flatten) path := by
      have hfirst : ((t :: texts).take (0 + 1)).flatten = t := List.append_nil t
      have hlater (k : Nat) : b ++ ((t :: texts).take (k + 1 + 1)).flatten =
          b ++ t ++ (texts.take (k + 1)).flatten := (List.append_assoc _ _ _).symm
      simp only [List.length_cons, Nat.forall_lt_succ_left, hfirst, hlater]
    obtain ⟨hmatch, hmiss⟩ := compiled_static ho (hstatic.parse_behind b) path
    rw [hall]
    by_cases hreach : o.Reaches (b ++ t) path
    · obtain ⟨found, hfound, hconsumed⟩ := hmatch hreach
      have he : enter r.matcher path level (some pattern) =
          .enters (level.path ++ pattern) (.child found.consumed found.params)
            { level with matched := level.matched ++ [found] } := by
        simp only [enter, hm, hpath, hfound]
      have hchild : (Context.child found.consumed found.params).path = escapeSource (b ++ t) :=
        hconsumed
      obtain ⟨hrendered, hempty⟩ := ih (b ++ t) (level.path ++ pattern) _ hchild
      have hp : p = _ := evaluateAll_route_alone he
      rw [hp]
      constructor
      · rintro ⟨-, hrest⟩
        obtain ⟨ctx, hctx, hcarries, hstage⟩ := hrendered hrest
        refine ⟨ctx, ?_, hcarries.inRoute, hstage⟩
        rw [hctx, List.flatten_cons, List.append_assoc]
      · intro hno
        obtain ⟨views, hviews, hcontents, hstage⟩ := hempty fun hrest => hno ⟨hreach, hrest⟩
        exact ⟨_, congrArg (Outcome.map _) hviews, (List.append_nil _).trans hcontents, hstage⟩
    · have he : enter r.matcher path level (some pattern) = .absent := by
        simp only [enter, hm, hpath, hmiss hreach]
      refine ⟨fun h => absurd h.1 hreach, fun _ => ⟨[], ?_, rfl, ?_⟩⟩
      · simp only [p, Node.chain, evaluateAll, evaluate, he, Option.toList_none, List.append_nil]
      · simp only [p, Node.chain, evaluateAll, evaluate, he, Stage.release]

/-- Prefixes accumulate along a chain of static routes. Whatever the path, the content at the end of
the chain is rendered if and only if the path reaches each text that the routes add up to: then the
pass ends as the content ends in a context that has the whole text as its path. Otherwise the pass
returns without a view, and nothing has happened. -/
theorem chain_renders_iff_reaches (hm : r.matcher = some (.compiled o)) (ho : o.whole = false)
    (c : κ) {patterns texts : List Text} (hs : List.Forall₂ IsStaticPattern patterns texts) :
    let p := evaluateAll r path owner [.chain c patterns] .root stage
    ((∀ k < texts.length, o.Reaches (texts.take (k + 1)).flatten path) →
      ∃ ctx : Context, ctx.path = escapeSource texts.flatten ∧
        (r.content c ctx stage).1.Carries p.outcome ∧ p.stage = (r.content c ctx stage).2) ∧
    ((¬ ∀ k < texts.length, o.Reaches (texts.take (k + 1)).flatten path) →
      ∃ views, p.outcome = .returned views ∧ Rendered.contentsOf views = [] ∧
        p.stage = stage) :=
  evaluateAll_chain hm ho c hs [] owner .root rfl

/-- A chain with an escaped colon and an empty pattern. Letters may be of either case, but a text must
not end inside a segment of the path. -/
theorem chain_renders_escaped :
    let patterns := ["/a\\:b".toList, [], "/c".toList]
    let texts := ["/a:b".toList, [], "/c".toList]
    let pass := fun path : Text => (evaluateAll (Renderer.ofTexts (.compiled {})) path []
      [.chain (some "leaf") patterns] .root (⟨[], ()⟩ : Stage Unit)).outcome
    List.Forall₂ IsStaticPattern patterns texts ∧
      (∃ views, pass "/A:B/C/x".toList = .returned views ∧ Rendered.contentsOf views = ["leaf"]) ∧
      ∃ views, pass "/a:bc/c".toList = .returned views ∧ Rendered.contentsOf views = [] := by
  intro patterns texts pass
  have hs : List.Forall₂ IsStaticPattern patterns texts := by
    refine .cons ⟨[.literal "/a:b".toList], eq_ok_of_toOption (by decide +kernel), ?_, rfl⟩
      (.cons ⟨[], eq_ok_of_toOption (by decide +kernel), nofun, rfl⟩
        (.cons ⟨[.literal "/c".toList], eq_ok_of_toOption (by decide +kernel), ?_, rfl⟩ .nil))
    all_goals
      intro x hx
      rw [List.mem_singleton.1 hx]
      trivial
  have hpass : ∀ path : Text, _ := fun path =>
    @chain_renders_iff_reaches _ _ _ _ (Renderer.ofTexts (.compiled {})) {} path [] ⟨[], ()⟩
      rfl rfl (some "leaf") _ _ hs
  refine ⟨hs, ?_, ?_⟩
  · obtain ⟨ctx, -, hcarries, -⟩ := (hpass "/A:B/C/x".toList).1 (by decide +kernel)
    have hleaf : (Outcome.returned "leaf").Carries (pass "/A:B/C/x".toList) := hcarries
    generalize pass "/A:B/C/x".toList = u at hleaf
    cases hleaf with
    | returned hviews => exact ⟨_, rfl, hviews⟩
  · obtain ⟨views, hviews, hcontents, -⟩ := (hpass "/a:bc/c".toList).2 (by decide +kernel)
    exact ⟨views, hviews, hcontents⟩

end

end NestedRouting
