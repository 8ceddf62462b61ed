import Mathlib.Data.List.DropRight
import NestedRouting.Pattern.Cache
import NestedRouting.Proofs.Lookup

/-!
# What a cache changes

Nothing but the work: whatever a cache has been used for, it answers as if every pattern were compiled
afresh, and it has one entry for each source that has been compiled since it was last cleared
(`compile_uncached`). The serial number of a compiled pattern stands for the object that the caller is
given: until the cache is cleared a source has one number, and no number is given a second time.
-/

namespace NestedRouting.Cache

/-- A use of a cache. -/
inductive Use
  | compile (source : Text)
  | exec (source path : Text)
  | clear
  deriving DecidableEq

/-- The pattern that a use asks for. -/
def Use.source? : Use → Option Text
  | compile source | exec source _ => some source
  | clear => none

/-- A cache after a use. -/
def use (c : Cache) : Use → Cache
  | .compile source => (c.compile source).2
  | .exec source path => (c.exec source path).2
  | .clear => c.clear

/-- A cache after several uses. -/
def after (c : Cache) (uses : List Use) : Cache := uses.foldl use c

/-- What uses make of a new cache. -/
def ofUses (o : Options) (uses : List Use) : Cache := (empty o).after uses

/-- The uses behind the last one that clears the cache. -/
def sinceClear (uses : List Use) : List Use := uses.rtakeWhile (· ≠ .clear)

/-- The sources that a cache has patterns for. -/
def sources (c : Cache) : List Text := c.entries.map Prod.fst

variable {o : Options} {c : Cache} {source path : Text} {u : Use} {uses : List Use} {x : Cached}
  {n : Nat}

/-! ## One use -/

/-- What compiling a source does: the cache has it, or it is malformed, or it is compiled and gets an
entry. -/
theorem compile_cases (c : Cache) (source : Text) :
    (∃ x, c.entries.lookup source = some x ∧ c.compile source = (.ok x, c)) ∨
    c.entries.lookup source = none ∧
      ((∃ e, Pattern.compile c.options source = .error e ∧ c.compile source = (.error e, c)) ∨
      ∃ p, Pattern.compile c.options source = .ok p ∧ c.compile source = (.ok ⟨c.compiled, p⟩,
        { c with entries := (source, ⟨c.compiled, p⟩) :: c.entries, compiled := c.compiled + 1 })) := by
  unfold compile
  cases c.entries.lookup source with
  | some x => exact .inl ⟨x, rfl, rfl⟩
  | none =>
    refine .inr ⟨rfl, ?_⟩
    cases Pattern.compile c.options source with
    | error e => exact .inl ⟨e, rfl, rfl⟩
    | ok p => exact .inr ⟨p, rfl, rfl⟩

/-- Whatever is compiled or matched, the cache becomes what compiling the source makes of it. -/
theorem use_of_source (h : u.source? = some source) : c.use u = (c.compile source).2 := by
  cases u with
  | compile | exec =>
    cases h
    rfl
  | clear => cases h

/-- What is always so of a cache: each source has one entry, with the pattern that it is compiled to
and with a number that has been given. -/
structure Sound (o : Options) (c : Cache) : Prop where
  options_eq : c.options = o
  nodup : c.sources.Nodup
  pattern_eq : ∀ source x, (source, x) ∈ c.entries → Pattern.compile o source = .ok x.pattern
  serial_lt : ∀ source x, (source, x) ∈ c.entries → x.serial < c.compiled

/-- A new cache has no entries. -/
theorem sound_empty (o : Options) : (empty o).Sound o := ⟨rfl, List.nodup_nil, nofun, nofun⟩

/-- A cache has a source if the source is found in it. -/
theorem mem_sources_iff : source ∈ c.sources ↔ ∃ x, c.entries.lookup source = some x := by
  constructor
  · intro h
    obtain ⟨⟨source, x⟩, hx, rfl⟩ := List.mem_map.1 h
    cases hlookup : c.entries.lookup source with
    | some y => exact ⟨y, rfl⟩
    | none =>
      have hne := List.lookup_eq_none_iff.1 hlookup _ hx
      simp at hne
  · rintro ⟨x, hx⟩
    exact List.mem_map.2 ⟨(source, x), mem_of_lookup_eq_some hx, rfl⟩

/-- A cache stays sound when a source is compiled. -/
theorem Sound.compile (h : c.Sound o) (source : Text) : (c.compile source).2.Sound o := by
  obtain ⟨x, -, hc⟩ | ⟨hnone, ⟨e, -, hc⟩ | ⟨p, hp, hc⟩⟩ := c.compile_cases source
  · rwa [hc]
  · rwa [hc]
  · rw [hc]
    have hnew : source ∉ c.sources := by
      rw [mem_sources_iff, hnone]
      exact nofun
    refine ⟨h.options_eq, List.nodup_cons.2 ⟨hnew, h.nodup⟩, ?_, ?_⟩
    · intro s x hx
      rcases List.mem_cons.1 hx with hx | hx
      · cases hx
        rw [← h.options_eq]
        exact hp
      · exact h.pattern_eq s x hx
    · intro s x hx
      rcases List.mem_cons.1 hx with hx | hx
      · cases hx
        exact Nat.lt_succ_self _
      · exact Nat.lt_succ_of_lt (h.serial_lt s x hx)

/-- A cache stays sound when it is used. -/
theorem Sound.use (h : c.Sound o) (u : Use) : (c.use u).Sound o := by
  cases u with
  | compile source => exact h.compile source
  | exec source path => exact h.compile source
  | clear => exact ⟨h.options_eq, List.nodup_nil, nofun, nofun⟩

/-- A cache stays sound, however often it is used. -/
theorem Sound.after (h : c.Sound o) (uses : List Use) : (c.after uses).Sound o := by
  induction uses generalizing c with
  | nil => exact h
  | cons u uses ih => exact ih (h.use u)

/-- Whatever a new cache is used for, it is sound. -/
theorem sound_ofUses (o : Options) (uses : List Use) : (ofUses o uses).Sound o :=
  (sound_empty o).after uses

/-! ## Answers -/

/-- A cache gives the pattern that compiling afresh gives, or its error. -/
theorem Sound.compile_eq (h : c.Sound o) (source : Text) :
    (c.compile source).1.map Cached.pattern = Pattern.compile o source := by
  obtain rfl := h.options_eq
  obtain ⟨x, hx, hc⟩ | ⟨-, ⟨e, he, hc⟩ | ⟨p, hp, hc⟩⟩ := c.compile_cases source
  · rw [hc, h.pattern_eq source x (mem_of_lookup_eq_some hx)]
    rfl
  · rw [hc, he]
    rfl
  · rw [hc, hp]
    rfl

/-- A cache matches as a pattern that is compiled afresh does. -/
theorem Sound.exec_eq (h : c.Sound o) (source path : Text) :
    (c.exec source path).1 = (Pattern.compile o source).map (·.exec path) := by
  rw [← h.compile_eq source]
  show (c.compile source).1.map (fun x => x.pattern.exec path) = _
  cases (c.compile source).1 <;> rfl

/-- A source that is malformed leaves no trace. -/
theorem Sound.compile_of_error (h : c.Sound o) {e : SyntaxError}
    (he : Pattern.compile o source = .error e) : (c.compile source).2 = c := by
  obtain rfl := h.options_eq
  obtain ⟨x, hx, hc⟩ | ⟨-, ⟨e, -, hc⟩ | ⟨p, hp, hc⟩⟩ := c.compile_cases source
  · rw [h.pattern_eq source x (mem_of_lookup_eq_some hx)] at he
    cases he
  · rw [hc]
  · rw [hp] at he
    cases he

/-! ## Entries -/

/-- Compiling adds the source to those that the cache has, if it is well formed. -/
theorem Sound.mem_sources_compile (h : c.Sound o) {s : Text} :
    s ∈ (c.compile source).2.sources ↔
      s ∈ c.sources ∨ s = source ∧ ∃ p, Pattern.compile o source = .ok p := by
  obtain rfl := h.options_eq
  obtain ⟨x, hx, hc⟩ | ⟨-, ⟨e, he, hc⟩ | ⟨p, hp, hc⟩⟩ := c.compile_cases source
  · rw [hc]
    refine ⟨.inl, ?_⟩
    rintro (hs | ⟨rfl, -⟩)
    · exact hs
    · exact mem_sources_iff.2 ⟨x, hx⟩
  · rw [hc, he]
    simp
  · rw [hc, hp]
    simp [sources, or_comm]

/-- One more use is the last one since clearing, unless it clears. -/
theorem sinceClear_concat (uses : List Use) (u : Use) :
    sinceClear (uses ++ [u]) = if u = .clear then [] else sinceClear uses ++ [u] := by
  rw [sinceClear, List.rtakeWhile_concat]
  by_cases hu : u = .clear <;> simp [hu, sinceClear]

/-- A cache has the well-formed sources that it has been asked for since it was last cleared. -/
theorem mem_sources_ofUses {s : Text} : s ∈ (ofUses o uses).sources ↔
      (∃ u ∈ sinceClear uses, u.source? = some s) ∧ ∃ p, Pattern.compile o s = .ok p := by
  induction uses using List.reverseRecOn with
  | nil =>
    refine ⟨nofun, ?_⟩
    rintro ⟨⟨u, hu, -⟩, -⟩
    cases hu
  | append_singleton uses u ih =>
    have hconcat : ofUses o (uses ++ [u]) = (ofUses o uses).use u := List.foldl_concat ..
    rw [hconcat, sinceClear_concat]
    by_cases hu : u = .clear
    · subst hu
      refine ⟨nofun, ?_⟩
      rintro ⟨⟨u, hu, -⟩, -⟩
      cases hu
    · obtain ⟨source, hsource⟩ : ∃ source, u.source? = some source := by
        cases u with
        | compile source | exec source path => exact ⟨source, rfl⟩
        | clear => exact absurd rfl hu
      rw [use_of_source hsource, (sound_ofUses o uses).mem_sources_compile, ih, if_neg hu]
      constructor
      · rintro (⟨⟨v, hv, hs⟩, hp⟩ | ⟨rfl, hp⟩)
        · exact ⟨⟨v, List.mem_append_left _ hv, hs⟩, hp⟩
        · exact ⟨⟨u, by simp, hsource⟩, hp⟩
      · rintro ⟨⟨v, hv, hs⟩, hp⟩
        rcases List.mem_append.1 hv with hv | hv
        · exact .inl ⟨⟨v, hv, hs⟩, hp⟩
        · obtain rfl := List.mem_singleton.1 hv
          rw [hsource] at hs
          obtain rfl := Option.some.inj hs
          exact .inr ⟨rfl, hp⟩

/-! ## Numbers -/

/-- A source that has been compiled is found from then on. -/
theorem lookup_of_compile (h : (c.compile source).1 = .ok x) :
    (c.compile source).2.entries.lookup source = some x := by
  obtain ⟨y, hy, hc⟩ | ⟨-, ⟨e, -, hc⟩ | ⟨p, -, hc⟩⟩ := c.compile_cases source
  · rw [hc] at h ⊢
    cases h
    exact hy
  · rw [hc] at h
    cases h
  · rw [hc] at h ⊢
    cases h
    simp

/-- A source that is found is not compiled again. -/
theorem compile_of_lookup (h : c.entries.lookup source = some x) :
    c.compile source = (.ok x, c) := by
  simp only [Cache.compile, h]

/-- Only clearing makes a cache forget. -/
theorem lookup_use (h : c.entries.lookup source = some x) (hu : u ≠ .clear) :
    (c.use u).entries.lookup source = some x := by
  obtain ⟨s, hs⟩ : ∃ s, u.source? = some s := by
    cases u with
    | compile s | exec s path => exact ⟨s, rfl⟩
    | clear => exact absurd rfl hu
  rw [use_of_source hs]
  obtain ⟨y, -, hc⟩ | ⟨hnone, ⟨e, -, hc⟩ | ⟨p, -, hc⟩⟩ := c.compile_cases s
  · rwa [hc]
  · rwa [hc]
  · have hne : source ≠ s := by
      rintro rfl
      rw [hnone] at h
      cases h
    rw [hc, List.lookup_cons, beq_eq_false_iff_ne.2 hne]
    exact h

/-- What is found stays found until the cache is cleared. -/
theorem lookup_after (h : c.entries.lookup source = some x) (huses : .clear ∉ uses) :
    (c.after uses).entries.lookup source = some x := by
  induction uses generalizing c with
  | nil => exact h
  | cons u uses ih =>
    rw [List.mem_cons, not_or] at huses
    exact ih (lookup_use h (Ne.symm huses.1)) huses.2

/-- The numbers that are given grow. -/
theorem compiled_le_compile (c : Cache) (source : Text) :
    c.compiled ≤ (c.compile source).2.compiled := by
  obtain ⟨x, -, hc⟩ | ⟨-, ⟨e, -, hc⟩ | ⟨p, -, hc⟩⟩ := c.compile_cases source <;> rw [hc]
  exact Nat.le_succ _

/-- Whether the numbers that a cache has, and those that it will give, are not below `n`. -/
structure NotBelow (n : Nat) (c : Cache) : Prop where
  compiled : n ≤ c.compiled
  serial : ∀ source x, (source, x) ∈ c.entries → n ≤ x.serial

/-- Compiling gives no number below those that are to come. -/
theorem NotBelow.compile (h : c.NotBelow n) (source : Text) :
    (c.compile source).2.NotBelow n := by
  refine ⟨Nat.le_trans h.compiled (c.compiled_le_compile source), fun s x hx => ?_⟩
  obtain ⟨y, -, hc⟩ | ⟨-, ⟨e, -, hc⟩ | ⟨p, -, hc⟩⟩ := c.compile_cases source
  · rw [hc] at hx
    exact h.serial s x hx
  · rw [hc] at hx
    exact h.serial s x hx
  · rw [hc] at hx
    rcases List.mem_cons.1 hx with hx | hx
    · cases hx
      exact h.compiled
    · exact h.serial s x hx

/-- A cache that has been cleared has no numbers any more. -/
theorem notBelow_clear (h : n ≤ c.compiled) : c.clear.NotBelow n := ⟨h, nofun⟩

/-- No use gives a number below those that are to come. -/
theorem NotBelow.after (h : c.NotBelow n) (uses : List Use) : (c.after uses).NotBelow n := by
  induction uses generalizing c with
  | nil => exact h
  | cons u uses ih =>
    cases u with
    | compile source | exec source path => exact ih (h.compile source)
    | clear => exact ih (notBelow_clear h.compiled)

/-- Behind a clearing all numbers are new. -/
theorem notBelow_after (h : n ≤ c.compiled) (huses : .clear ∈ uses) :
    (c.after uses).NotBelow n := by
  induction uses generalizing c with
  | nil => cases huses
  | cons u uses ih =>
    cases u with
    | compile source | exec source path =>
      have huses : .clear ∈ uses := (List.mem_cons.1 huses).resolve_left nofun
      exact ih (Nat.le_trans h (c.compiled_le_compile source)) huses
    | clear => exact (notBelow_clear h).after uses

/-- A pattern that is compiled twice is the same object, with the same number, unless the cache has been
cleared in between; then it has another number. -/
theorem Sound.compile_again (h : c.Sound o) {y : Cached} (hx : (c.compile source).1 = .ok x)
    (hy : (((c.compile source).2.after uses).compile source).1 = .ok y) :
    (.clear ∉ uses → y = x) ∧ (.clear ∈ uses → y.serial ≠ x.serial) := by
  have hlookup := lookup_of_compile hx
  constructor
  · intro huses
    rw [compile_of_lookup (lookup_after hlookup huses)] at hy
    exact (Except.ok.inj hy).symm
  · intro huses
    have hlt := (h.compile source).serial_lt source x (mem_of_lookup_eq_some hlookup)
    have hle := ((notBelow_after (n := x.serial + 1) hlt huses).compile source).serial source y
      (mem_of_lookup_eq_some (lookup_of_compile hy))
    omega

/-- A cache is invisible but for the objects that it hands out again. After any uses, it answers as if the
source were compiled afresh; a malformed source leaves it as it is; it has one entry for each
well-formed source that it has been asked for since it was last cleared, and no other; and a source
that is compiled twice is the same object if and only if the cache is not cleared in between. -/
theorem compile_uncached (o : Options) (uses : List Use) :
    (∀ source, ((ofUses o uses).compile source).1.map Cached.pattern =
      Pattern.compile o source) ∧
    (∀ source path, ((ofUses o uses).exec source path).1 =
      (Pattern.compile o source).map (·.exec path)) ∧
    (∀ source e, Pattern.compile o source = .error e →
      ((ofUses o uses).compile source).2 = ofUses o uses ∧
      ∀ path, ((ofUses o uses).exec source path).2 = ofUses o uses) ∧
    (ofUses o uses).sources.Nodup ∧
    (∀ source, source ∈ (ofUses o uses).sources ↔
      (∃ u ∈ sinceClear uses, u.source? = some source) ∧
        ∃ p, Pattern.compile o source = .ok p) ∧
    ∀ source later x y, ((ofUses o uses).compile source).1 = .ok x →
      ((((ofUses o uses).compile source).2.after later).compile source).1 = .ok y →
      (.clear ∉ later → y = x) ∧ (.clear ∈ later → y.serial ≠ x.serial) := by
  have h := sound_ofUses o uses
  refine ⟨h.compile_eq, h.exec_eq, fun source e he => ?_, h.nodup, fun source =>
    mem_sources_ofUses, fun source later x y => h.compile_again⟩
  have hsame := h.compile_of_error he
  exact ⟨hsame, fun _ => hsame⟩

/-- Behind a match and a malformed source, a pattern is compiled again: beside another one, and behind a
clearing. -/
theorem compile_uncached_again :
    ∃ c x y z, c = ofUses {} [.exec "/a".toList "/a/b".toList, .compile "/:".toList] ∧
      (c.compile "/a".toList).1 = .ok x ∧
      (((c.compile "/a".toList).2.after [.compile "/b".toList]).compile "/a".toList).1 = .ok y ∧
      (((c.compile "/a".toList).2.after [.clear]).compile "/a".toList).1 = .ok z ∧
      y = x ∧ z.serial ≠ x.serial := by
  have hok : ∀ c : Cache, c.Sound {} → ∃ x, (c.compile "/a".toList).1 = .ok x := by
    intro c hc
    have hcompile : (Pattern.compile {} "/a".toList).toOption.isSome = true := by decide +kernel
    rw [← hc.compile_eq "/a".toList] at hcompile
    cases h : (c.compile "/a".toList).1 with
    | ok x => exact ⟨x, rfl⟩
    | error e =>
      rw [h] at hcompile
      cases hcompile
  have hsound := sound_ofUses {} [.exec "/a".toList "/a/b".toList, .compile "/:".toList]
  have hagain := (compile_uncached {} [.exec "/a".toList "/a/b".toList,
    .compile "/:".toList]).2.2.2.2.2 "/a".toList
  obtain ⟨x, hx⟩ := hok _ hsound
  obtain ⟨y, hy⟩ := hok _ ((hsound.compile "/a".toList).after [.compile "/b".toList])
  obtain ⟨z, hz⟩ := hok _ ((hsound.compile "/a".toList).after [.clear])
  exact ⟨_, x, y, z, rfl, hx, hy, hz, (hagain _ x y hx hy).1 (by decide),
    (hagain _ x z hx hz).2 (by decide)⟩

end NestedRouting.Cache
