import NestedRouting.Proofs.Regex.Nested

/-!
# The numbers and names of groups

A reader counts the capturing groups that it opens and refuses a name that it has seen. All other
steps of a reader make no groups (`readPart_cases`). So the groups of an expression have numbers from
one up to the number of groups that were opened, and no two groups have the same name
(`numbered_readParts`).
-/

namespace NestedRouting.Regex

/-! ## Groups of a reader -/

/-- A group in a level. -/
def Level.Has (l : Level) (g : Nat × Option Text) : Prop :=
  ∃ p, (p ∈ l.branches ∨ p ∈ l.parts) ∧ g ∈ p.regex.groups

/-- The group that is made of what stands inside. -/
def GroupKind.Is (kind : GroupKind) (g : Nat × Option Text) : Prop := kind = .capture g.1 g.2

/-- A group that a reader has read or opened. -/
def Reader.Has (st : Reader) (g : Nat × Option Text) : Prop :=
  st.level.Has g ∨ ∃ kind flags level, (kind, flags, level) ∈ st.outer ∧ (kind.Is g ∨ level.Has g)

/-- A step that opens no capturing group and makes no group. -/
structure Reader.Uncounted (st st' : Reader) : Prop where
  captures : st'.captures = st.captures
  names : st'.names = st.names
  has : ∀ g, st'.Has g → st.Has g

section
variable {g : Nat × Option Text} {l : Level} {st st' : Reader} {s r : Text}

/-- The groups of a sequence are those of its parts. -/
theorem mem_groups_foldl_seq {ps : List Part} {x : Regex}
    (h : g ∈ (ps.foldl (fun r q => .seq r q.regex) x).groups) :
    g ∈ x.groups ∨ ∃ p ∈ ps, g ∈ p.regex.groups := by
  induction ps generalizing x with
  | nil => exact .inl h
  | cons p ps ih =>
    rcases ih h with h | ⟨q, hq, h⟩
    · rcases List.mem_append.1 h with h | h
      · exact .inl h
      · exact .inr ⟨p, .head _, h⟩
    · exact .inr ⟨q, .tail _ hq, h⟩

/-- The groups of alternatives are those of the alternatives. -/
theorem mem_groups_foldl_alt {ps : List Part} {x : Regex}
    (h : g ∈ (ps.foldl (fun r q => .alt q.regex r) x).groups) :
    g ∈ x.groups ∨ ∃ p ∈ ps, g ∈ p.regex.groups := by
  induction ps generalizing x with
  | nil => exact .inl h
  | cons p ps ih =>
    rcases ih h with h | ⟨q, hq, h⟩
    · rcases List.mem_append.1 h with h | h
      · exact .inr ⟨p, .head _, h⟩
      · exact .inl h
    · exact .inr ⟨q, .tail _ hq, h⟩

/-- The groups of a branch are those of its parts. -/
theorem Level.has_of_branch (h : g ∈ l.branch.regex.groups) : ∃ p ∈ l.parts, g ∈ p.regex.groups := by
  have hfilter : ∀ p, p ∈ (l.parts.filter (!·.directive)).reverse → p ∈ l.parts := fun p hp =>
    (List.mem_filter.1 (List.mem_reverse.1 hp)).1
  unfold branch at h
  simp only at h
  split at h
  · cases h
  · next p hp => exact ⟨p, by rw [hp]; exact .head _, h⟩
  · cases hparts : (l.parts.filter (!·.directive)).reverse with
    | nil =>
      rw [hparts] at h
      cases h
    | cons p ps =>
      rw [hparts] at h hfilter
      rcases mem_groups_foldl_seq h with h | ⟨q, hq, h⟩
      · exact ⟨p, hfilter p (.head _), h⟩
      · exact ⟨q, hfilter q (.tail _ hq), h⟩

/-- The groups of a group that closes are those of the level inside. -/
theorem Level.has_of_close (h : g ∈ l.close.regex.groups) : l.Has g := by
  have hlast : g ∈ l.branch.regex.groups → l.Has g := by
    intro h
    obtain ⟨p, hp, h⟩ := has_of_branch h
    exact ⟨p, .inr hp, h⟩
  unfold close at h
  simp only at h
  split at h
  · exact hlast h
  · next p ps hbranches =>
    rcases mem_groups_foldl_alt h with h | ⟨q, hq, h⟩
    · exact hlast h
    · exact ⟨q, .inl (by rw [hbranches]; exact hq), h⟩

/-- A part that is read adds its own groups. -/
theorem Reader.has_of_push {regex : Regex} {height : Nat} (h : (st.push regex height).Has g) :
    st.Has g ∨ g ∈ regex.groups := by
  rcases h with ⟨p, hp | hp, h⟩ | h
  · exact .inl (.inl ⟨p, .inl hp, h⟩)
  · rcases List.mem_cons.1 hp with rfl | hp
    · exact .inr h
    · exact .inl (.inl ⟨p, .inr hp, h⟩)
  · exact .inl (.inr h)

/-- A group that is opened adds itself, if it captures. -/
theorem Reader.has_of_openGroup {kind : GroupKind} {flags : Flags}
    (h : (st.openGroup kind flags).Has g) : st.Has g ∨ kind.Is g := by
  rcases h with ⟨p, hp | hp, h⟩ | ⟨kind', flags', level, hmem, h⟩
  · cases hp
  · cases hp
  · rcases List.mem_cons.1 hmem with heq | hmem
    · cases heq
      exact h.symm.imp .inl id
    · exact .inl (.inr ⟨kind', flags', level, hmem, h⟩)

/-- A repetition adds no group. -/
theorem groups_repeated {x : Regex} {least : Nat} {most : Option Nat} {greedy : Bool}
    (h : g ∈ (repeated x least most greedy).groups) : g ∈ x.groups := by
  unfold repeated at h
  split at h
  · cases h
  · exact h

/-! ## Steps of a reader -/

/-- To read a part without groups makes no group. -/
theorem Reader.Uncounted.push {regex : Regex} (h : regex.groups = []) (height : Nat) :
    st.Uncounted (st.push regex height) where
  captures := rfl
  names := rfl
  has g hg := by
    rcases has_of_push hg with hg | hg
    · exact hg
    · rw [h] at hg
      cases hg

/-- To close a group opens none. -/
theorem Reader.uncounted_closeGroup (h : st.closeGroup = some st') : st.Uncounted st' := by
  obtain ⟨flags, captures, names, level, outer⟩ := st
  cases outer with
  | nil => cases h
  | cons x outer =>
    obtain ⟨kind, flags', level'⟩ := x
    cases h
    refine ⟨rfl, rfl, fun g hg => ?_⟩
    rcases has_of_push hg with (hg | ⟨kind', flags', level', hmem, hg⟩) | hg
    · exact .inr ⟨kind, _, _, .head _, .inr hg⟩
    · exact .inr ⟨kind', flags', level', .tail _ hmem, hg⟩
    · cases kind with
      | plain => exact .inl (Level.has_of_close hg)
      | capture number name =>
        rcases List.mem_cons.1 hg with rfl | hg
        · exact .inr ⟨_, _, _, .head _, .inl rfl⟩
        · exact .inl (Level.has_of_close hg)

/-- To repeat a part makes no group. -/
theorem Reader.uncounted_repeatPart {least : Nat} {most : Option Nat} {greedy : Bool}
    (h : repeatPart st least most greedy = some st') : st.Uncounted st' := by
  obtain ⟨flags, captures, names, ⟨branches, parts⟩, outer⟩ := st
  cases parts with
  | nil => cases h
  | cons p parts =>
    simp only [repeatPart] at h
    split at h
    · cases h
    · cases h
      refine ⟨rfl, rfl, fun g hg => ?_⟩
      rcases hg with ⟨q, hq | hq, hg⟩ | hg
      · exact .inl ⟨q, .inl hq, hg⟩
      · rcases List.mem_cons.1 hq with rfl | hq
        · exact .inl ⟨p, .inr (.head _), groups_repeated hg⟩
        · exact .inl ⟨q, .inr (.tail _ hq), hg⟩
      · exact .inr hg

/-- The name of a group that is read is new. -/
theorem readGroupName_fresh {names : List Text} {name : Text}
    (h : readGroupName names s = some (name, r)) : name ∉ names := by
  unfold readGroupName at h
  split at h
  · split at h
    · next hname =>
      cases h
      simp only [Bool.and_eq_true, Bool.not_eq_true', List.contains_eq_mem,
        decide_eq_false_iff_not] at hname
      exact hname.2
    · cases h
  · cases h

/-- Flags make no group. -/
theorem Reader.uncounted_withFlags {flags : Flags} {written : Bool} {c : Char}
    (h : st.withFlags flags written c = some st') : st.Uncounted st' := by
  unfold withFlags at h
  split at h
  · cases h
    refine ⟨rfl, rfl, fun g hg => ?_⟩
    rcases has_of_openGroup hg with hg | hg
    · exact hg
    · cases hg
  · split at h
    · cases h
      refine ⟨rfl, rfl, fun g hg => ?_⟩
      rcases hg with ⟨p, hp | hp, hg⟩ | hg
      · exact .inl ⟨p, .inl hp, hg⟩
      · rcases List.mem_cons.1 hp with rfl | hp
        · cases hg
        · exact .inl ⟨p, .inr hp, hg⟩
      · exact .inr hg
    · cases h

/-- To go on to the next branch makes no group. -/
theorem Reader.uncounted_nextBranch :
    st.Uncounted { st with level := st.level.nextBranch } := by
  refine ⟨rfl, rfl, fun g hg => ?_⟩
  rcases hg with ⟨p, hp | hp, hg⟩ | hg
  · rcases List.mem_cons.1 hp with rfl | hp
    · obtain ⟨q, hq, hg⟩ := Level.has_of_branch hg
      exact .inl ⟨q, .inr hq, hg⟩
    · exact .inl ⟨p, .inl hp, hg⟩
  · cases hp
  · exact .inr hg

/-- The start of a group opens a capturing group with a new name, or makes no group. -/
theorem readGroup_cases (h : readGroup st s = some (st', r)) :
    st.Uncounted st' ∨
      ∃ name, (∀ x, name = some x → x ∉ st.names) ∧ st' = st.openCapture name := by
  cases groupForm_of_readGroup h with
  | name hname =>
    rw [readGroup_of_name hname] at h
    obtain ⟨⟨name, rest⟩, hread, ⟨⟩⟩ := Option.map_eq_some_iff.1 h
    refine .inr ⟨some name, ?_, rfl⟩
    rintro _ ⟨⟩
    exact readGroupName_fresh hread
  | flags hflags =>
    rw [readGroup_of_flags hflags] at h
    obtain ⟨⟨flags, written, c, rest⟩, -, h⟩ := Option.bind_eq_some_iff.1 h
    obtain ⟨st', hopened, ⟨⟩⟩ := Option.map_eq_some_iff.1 h
    exact .inl (Reader.uncounted_withFlags hopened)
  | plain hplain =>
    rw [readGroup_of_plain hplain] at h
    cases h
    exact .inr ⟨none, nofun, rfl⟩

/-- A step opens a capturing group, whose name is new, or makes no groups. -/
theorem readPart_cases {c : Char} (h : readPart st c s = some (st', r)) :
    st.Uncounted st' ∨
      ∃ name, (∀ x, name = some x → x ∉ st.names) ∧ st' = st.openCapture name := by
  cases partStep_of_readPart h with
  | group hgroup => exact readGroup_cases hgroup
  | close hclose => exact .inl (Reader.uncounted_closeGroup hclose)
  | branch => exact .inl Reader.uncounted_nextBranch
  | brackets => exact .inl (.push rfl _)
  | sign _ hsign =>
    obtain ⟨st', hrepeat, ⟨⟩⟩ := Option.map_eq_some_iff.1 hsign
    exact .inl (Reader.uncounted_repeatPart hrepeat)
  | bounds _ hrepeat => exact .inl (Reader.uncounted_repeatPart hrepeat)
  | dot | anchor => exact .inl (.push rfl 0)
  | escape _ hregex | char _ hregex => exact .inl (.push (groups_of_regex? hregex) 0)

/-! ## Numbers -/

/-- The groups of a reader are numbered from one on, their names are known, and no two of them have
the same name. -/
structure Reader.Numbered (st : Reader) : Prop where
  positive : ∀ g, st.Has g → 0 < g.1
  counted : ∀ g, st.Has g → g.1 ≤ st.captures
  named : ∀ g, st.Has g → ∀ x, g.2 = some x → x ∈ st.names
  unique : ∀ g h, st.Has g → st.Has h → ∀ x, g.2 = some x → h.2 = some x → g = h

/-- At the start of a text there are no groups. -/
theorem Reader.numbered_start (ic : Bool) : (Reader.start ic).Numbered := by
  have hnone : ∀ g, ¬ (Reader.start ic).Has g := by
    rintro g (⟨p, hp | hp, -⟩ | ⟨_, _, _, hmem, -⟩)
    · cases hp
    · cases hp
    · cases hmem
  exact ⟨fun g hg => absurd hg (hnone g), fun g hg => absurd hg (hnone g),
    fun g hg => absurd hg (hnone g), fun g _ hg => absurd hg (hnone g)⟩

/-- A step that makes no group keeps them numbered. -/
theorem Reader.Numbered.uncounted (h : st.Numbered) (hstep : st.Uncounted st') : st'.Numbered where
  positive g hg := h.positive g (hstep.has g hg)
  counted g hg := hstep.captures ▸ h.counted g (hstep.has g hg)
  named g hg := hstep.names ▸ h.named g (hstep.has g hg)
  unique g g' hg hg' := h.unique g g' (hstep.has g hg) (hstep.has g' hg')

/-- A capturing group that is opened gets the next number. -/
theorem Reader.Numbered.openCapture (h : st.Numbered) {name : Option Text}
    (hname : ∀ x, name = some x → x ∉ st.names) : (st.openCapture name).Numbered := by
  have hhas : ∀ g, (st.openCapture name).Has g → st.Has g ∨ g = (st.captures + 1, name) := by
    intro g hg
    rcases has_of_openGroup hg with hg | hg
    · exact .inl hg
    · injection hg with hnumber hname
      exact .inr (Prod.ext hnumber.symm hname.symm)
  constructor
  · intro g hg
    rcases hhas g hg with hg | rfl
    · exact h.positive g hg
    · exact Nat.succ_pos _
  · intro g hg
    rcases hhas g hg with hg | rfl
    · exact Nat.le_succ_of_le (h.counted g hg)
    · exact Nat.le_refl _
  · intro g hg x hx
    rcases hhas g hg with hg | rfl
    · exact List.mem_append_right _ (h.named g hg x hx)
    · exact List.mem_append_left _ (by simpa using hx)
  · intro g g' hg hg' x hx hx'
    rcases hhas g hg with hg | rfl <;> rcases hhas g' hg' with hg' | rfl
    · exact h.unique g g' hg hg' x hx hx'
    · exact absurd (h.named g hg x hx) (hname x hx')
    · exact absurd (h.named g' hg' x hx') (hname x hx)
    · rfl

/-- What is read keeps groups numbered. -/
theorem numbered_readParts (h : readParts st s = some st') (hst : st.Numbered) : st'.Numbered := by
  fun_induction readParts st s with
  | case1 =>
    cases h
    exact hst
  | case2 | case4 => cases h
  | case3 st s c t hskip st₁ rest hpart hlt ih =>
    refine ih h ?_
    rcases readPart_cases hpart with hstep | ⟨name, hname, rfl⟩
    · exact hst.uncounted hstep
    · exact hst.openCapture hname

/-- No two groups of an expression have the same name. -/
theorem unique_of_read {ic : Bool} {regex : Regex} (h : read ic s = some regex)
    {g g' : Nat × Option Text} (hg : g ∈ regex.groups) (hg' : g' ∈ regex.groups) {x : Text}
    (hx : g.2 = some x) (hx' : g'.2 = some x) : g = g' := by
  obtain ⟨st, hst, h⟩ := Option.bind_eq_some_iff.1 h
  have hnumbered := numbered_readParts hst (Reader.numbered_start ic)
  simp only at h
  split at h
  · cases h
    exact hnumbered.unique g g' (.inl (Level.has_of_close hg)) (.inl (Level.has_of_close hg')) x hx hx'
  · cases h

end

end NestedRouting.Regex
