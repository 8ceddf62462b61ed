import NestedRouting.Proofs.Pattern.CustomGroups
import NestedRouting.Proofs.Pattern.Prefixed

/-!
# Groups that expressions add

Compiling refuses a pattern whose recognizer has more groups than it is expected to have. The group
of a delimiter at the end is expected wherever there is a group of its name. So when matching is
strict, an expression can add a group with that name unnoticed (`smuggled_trail`). Otherwise
expressions that can be read by themselves add no groups at all: the groups of the recognizer are the
route, the keys and, unless matching is strict, the delimiter at the end (`groups_of_compile`).
-/

namespace NestedRouting

open Regex

section
variable {ic : Bool} {number m : Nat} {key : Key} {tokens : List Token} {g : Nat × Option Text}

/-! ## Numbers of groups -/

/-- The groups of a key's own expression are numbered. -/
theorem numbered_ownReader (ic : Bool) (key : Key) : (ownReader ic key).Numbered := by
  unfold ownReader
  cases h : readParts (.start ic) key.pattern with
  | none => exact Reader.numbered_start ic
  | some st => exact numbered_readParts h (Reader.numbered_start ic)

/-- The groups of a key's own expression are numbered behind the groups before them. -/
theorem number_of_ownGroups (h : g ∈ ownGroups ic m key) :
    m < g.1 ∧ g.1 ≤ m + ownCaptures ic key := by
  obtain ⟨g, hg, rfl⟩ := List.mem_map.1 h
  have hnumbered := numbered_ownReader ic key
  have hhas : (ownReader ic key).Has g := .inl (Level.has_of_close hg)
  have hpositive := hnumbered.positive g hhas
  have hcounted : g.1 ≤ ownCaptures ic key := hnumbered.counted g hhas
  constructor <;> simp only <;> omega

/-- The group of a key and those inside it have numbers up to their count. -/
theorem number_of_customGroups (h : g ∈ customGroups ic number m key) :
    g.1 ≤ m + customCaptures ic key := by
  unfold customCaptures
  rcases List.mem_cons.1 h with rfl | h
  · simp only
    omega
  · rcases List.mem_append.1 h with h | h
    · have := (number_of_ownGroups h).2
      omega
    · split at h
      · next htwice =>
        have := (number_of_ownGroups h).2
        rw [if_pos htwice]
        omega
      · cases h

/-- The groups of tokens have numbers up to their count. -/
theorem number_of_customParts (h : g ∈ groupsOf (customParts ic number m tokens)) :
    g.1 ≤ m + routeCaptures ic tokens := by
  induction tokens generalizing number m with
  | nil => cases h
  | cons token tokens ih =>
    cases token with
    | literal text =>
      rw [groups_customParts_literal] at h
      exact ih h
    | group text modifier =>
      rw [groups_customParts_group] at h
      exact ih h
    | key key =>
      have hcount : routeCaptures ic (.key key :: tokens) =
          customCaptures ic key + routeCaptures ic tokens := rfl
      rw [groups_customParts_key] at h
      rcases List.mem_append.1 h with h | h
      · have := number_of_customGroups h
        omega
      · have := ih h
        omega

/-- The groups of a key come behind the groups before them. -/
theorem lt_number_of_customGroups (h : g ∈ customGroups ic number m key) : m < g.1 := by
  rcases List.mem_cons.1 h with rfl | h
  · exact Nat.lt_succ_self m
  · rcases List.mem_append.1 h with h | h
    · have := (number_of_ownGroups h).1
      omega
    · split at h
      · have := (number_of_ownGroups h).1
        omega
      · cases h

/-- The groups of tokens come behind the groups before them. -/
theorem lt_number_of_customParts (h : g ∈ groupsOf (customParts ic number m tokens)) : m < g.1 := by
  induction tokens generalizing number m with
  | nil => cases h
  | cons token tokens ih =>
    cases token with
    | literal text =>
      rw [groups_customParts_literal] at h
      exact ih h
    | group text modifier =>
      rw [groups_customParts_group] at h
      exact ih h
    | key key =>
      rw [groups_customParts_key] at h
      rcases List.mem_append.1 h with h | h
      · exact lt_number_of_customGroups h
      · have := ih h
        omega

/-- Behind the groups of all keys but the last there is the group of the last one. -/
theorem exists_group_of_last (number m : Nat) (h : keysOf tokens ≠ []) :
    ∃ g ∈ groupsOf (customParts ic number m tokens), m + (keysOf tokens).length ≤ g.1 := by
  induction tokens generalizing number m with
  | nil => exact absurd rfl h
  | cons token tokens ih =>
    cases token with
    | literal text =>
      rw [groups_customParts_literal]
      exact ih number m h
    | group text modifier =>
      rw [groups_customParts_group]
      exact ih number m h
    | key key =>
      have hkeys : (keysOf (.key key :: tokens)).length = (keysOf tokens).length + 1 := rfl
      rw [groups_customParts_key, hkeys]
      by_cases htokens : keysOf tokens = []
      · refine ⟨_, List.mem_append_left _ (.head _), ?_⟩
        rw [htokens]
        exact Nat.le_refl _
      · obtain ⟨g, hg, hnumber⟩ := ih (number + 1) (m + customCaptures ic key) htokens
        refine ⟨g, List.mem_append_right _ hg, ?_⟩
        have : 1 ≤ customCaptures ic key := Nat.le_add_right ..
        omega

/-- Tokens without keys have no groups. -/
theorem groups_without_keys (h : keysOf tokens = []) :
    groupsOf (customParts ic number m tokens) = [] := by
  induction tokens with
  | nil => rfl
  | cons token tokens ih =>
    cases token with
    | literal text =>
      rw [groups_customParts_literal]
      exact ih h
    | group text modifier =>
      rw [groups_customParts_group]
      exact ih h
    | key key => cases h

/-- A key whose expression has no groups has one group. -/
theorem customGroups_of_nil (h : (ownReader ic key).level.close.regex.groups = []) :
    customGroups ic number m key = [(m + 1, some (keyGroup number))] := by
  simp [customGroups, ownGroups, h]

/-- If no number of a group is higher than it would be with one group for each key, then the keys
have no other groups. -/
theorem groups_of_few
    (h : ∀ g ∈ groupsOf (customParts ic number (number + 1) tokens),
      g.1 ≤ number + 1 + (keysOf tokens).length) :
    (∀ key ∈ keysOf tokens, (ownReader ic key).level.close.regex.groups = []) ∧
      groupsOf (customParts ic number (number + 1) tokens) =
        keyGroupEntries number (keysOf tokens).length := by
  induction tokens generalizing number with
  | nil => exact ⟨nofun, rfl⟩
  | cons token tokens ih =>
    cases token with
    | literal text =>
      rw [groups_customParts_literal] at h ⊢
      exact ih h
    | group text modifier =>
      rw [groups_customParts_group] at h ⊢
      exact ih h
    | key key =>
      have hkeys : keysOf (.key key :: tokens) = key :: keysOf tokens := rfl
      have hentries : keyGroupEntries number ((keysOf tokens).length + 1) =
          (number + 2, some (keyGroup number)) ::
            keyGroupEntries (number + 1) (keysOf tokens).length := rfl
      rw [groups_customParts_key] at h ⊢
      rw [hkeys, List.length_cons] at h ⊢
      rw [hentries]
      by_cases htokens : keysOf tokens = []
      · -- groups of the last key would come behind all others
        have hown : (ownReader ic key).level.close.regex.groups = [] := by
          rw [List.eq_nil_iff_forall_not_mem]
          intro g hg
          have hmem : (number + 1 + 1 + g.1, g.2) ∈ customGroups ic number (number + 1) key :=
            .tail _ (List.mem_append_left _ (List.mem_map_of_mem hg))
          have hle := h _ (List.mem_append_left _ hmem)
          have hpositive := (numbered_ownReader ic key).positive g (.inl (Level.has_of_close hg))
          rw [htokens] at hle
          simp only [List.length_nil] at hle
          omega
        rw [htokens, customGroups_of_nil hown, groups_without_keys htokens]
        exact ⟨by simpa using hown, rfl⟩
      · -- groups of another key would move the last key
        obtain ⟨g, hg, hnumber⟩ :=
          exists_group_of_last (number + 1) (number + 1 + customCaptures ic key) htokens
        have hle := h g (List.mem_append_right _ hg)
        have hcount : customCaptures ic key = 1 := by
          have : 1 ≤ customCaptures ic key := Nat.le_add_right ..
          omega
        have hcaptures : ownCaptures ic key = 0 := by
          unfold customCaptures at hcount
          omega
        have hown : (ownReader ic key).level.close.regex.groups = [] := by
          rw [List.eq_nil_iff_forall_not_mem]
          intro g hg
          have hhas : (ownReader ic key).Has g := .inl (Level.has_of_close hg)
          have hpositive := (numbered_ownReader ic key).positive g hhas
          have hcounted : g.1 ≤ ownCaptures ic key := (numbered_ownReader ic key).counted g hhas
          omega
        rw [hcount] at h ⊢
        have hfew : ∀ g ∈ groupsOf (customParts ic (number + 1) (number + 1 + 1) tokens),
            g.1 ≤ number + 1 + 1 + (keysOf tokens).length := by
          intro g hg
          have := h g (List.mem_append_right _ hg)
          omega
        obtain ⟨hrest, hgroups⟩ := ih hfew
        rw [customGroups_of_nil hown, hgroups]
        exact ⟨List.forall_mem_cons.2 ⟨hown, hrest⟩, rfl⟩

/-- The name of a group is that of a key, or that of a group of an expression. -/
theorem name_of_customParts (h : g ∈ groupsOf (customParts ic number m tokens)) :
    (∃ i, g.2 = some (keyGroup i)) ∨
      ∃ key ∈ keysOf tokens, ∃ g' ∈ (ownReader ic key).level.close.regex.groups, g.2 = g'.2 := by
  induction tokens generalizing number m with
  | nil => cases h
  | cons token tokens ih =>
    cases token with
    | literal text =>
      rw [groups_customParts_literal] at h
      exact ih h
    | group text modifier =>
      rw [groups_customParts_group] at h
      exact ih h
    | key key =>
      have hown : ∀ {m}, g ∈ ownGroups ic m key →
          ∃ g' ∈ (ownReader ic key).level.close.regex.groups, g.2 = g'.2 := by
        intro m h
        obtain ⟨g', hg', rfl⟩ := List.mem_map.1 h
        exact ⟨g', hg', rfl⟩
      rw [groups_customParts_key] at h
      rcases List.mem_append.1 h with h | h
      · rcases List.mem_cons.1 h with rfl | h
        · exact .inl ⟨number, rfl⟩
        · rcases List.mem_append.1 h with h | h
          · exact .inr ⟨key, .head _, hown h⟩
          · split at h
            · exact .inr ⟨key, .head _, hown h⟩
            · cases h
      · rcases ih h with h | ⟨key', hkey, h⟩
        · exact .inl h
        · exact .inr ⟨key', .tail _ hkey, h⟩

end

/-! ## Groups of recognizers -/

section
variable {o : Options} {tokens : List Token} {p : Pattern} {path source : Text}

/-- No group has a number above the last. -/
theorem le_lastGroup {r : Regex} {g : Nat × Option Text} (h : g ∈ r.groups) :
    g.1 ≤ r.lastGroup := by
  have hfold : ∀ (groups : List (Nat × Option Text)) (k : Nat),
      k ≤ groups.foldl (fun n g => max n g.1) k ∧
        ∀ g ∈ groups, g.1 ≤ groups.foldl (fun n g => max n g.1) k := by
    intro groups
    induction groups with
    | nil => exact fun k => ⟨Nat.le_refl _, nofun⟩
    | cons g groups ih =>
      intro k
      obtain ⟨hk, hgroups⟩ := ih (max k g.1)
      exact ⟨Nat.le_trans (Nat.le_max_left ..) hk,
        List.forall_mem_cons.2 ⟨Nat.le_trans (Nat.le_max_right ..) hk, hgroups⟩⟩
  exact (hfold r.groups 0).2 g h

/-- Tokens have at least one group for each key. -/
theorem length_le_routeCaptures (ic : Bool) (tokens : List Token) :
    (keysOf tokens).length ≤ routeCaptures ic tokens := by
  induction tokens with
  | nil => exact Nat.le_refl _
  | cons token tokens ih =>
    cases token with
    | key key =>
      have hcount : 1 ≤ customCaptures ic key := Nat.le_add_right ..
      have hlength : (keysOf (.key key :: tokens)).length = (keysOf tokens).length + 1 := rfl
      rw [hlength, routeCaptures]
      omega
    | literal | group => exact ih

/-- A recognizer that has as many groups as expected has no groups of its keys' expressions. -/
theorem groups_of_expected
    (hcount : (customRegex tokens o).lastGroup + 1 =
      expectedGroups (keysOf tokens).length (customRegex tokens o))
    (htrail : o.strict = true → ∀ key ∈ keysOf tokens,
      ∀ g ∈ (ownReader (!o.sensitive) key).level.close.regex.groups, g.2 ≠ some trailGroup) :
    (∀ key ∈ keysOf tokens, (ownReader (!o.sensitive) key).level.close.regex.groups = []) ∧
      (customRegex tokens o).groups = recognizerGroups o.strict (keysOf tokens).length := by
  have hgroups := groups_customRegex tokens o
  have hroute : ∀ g ∈ groupsOf (customParts (!o.sensitive) 0 1 tokens),
      g.1 ≤ (customRegex tokens o).lastGroup := fun g hg =>
    le_lastGroup (by rw [hgroups]; exact .tail _ (List.mem_append_left _ hg))
  unfold expectedGroups at hcount
  cases hstrict : o.strict with
  | true =>
    -- no group has the name of the trail, so the groups of the keys are all that is allowed
    rw [hstrict, if_pos rfl, List.append_nil] at hgroups
    have hnone : groupNamed? (customRegex tokens o).groups trailGroup = none := by
      rw [groupNamed?, Option.map_eq_none_iff, List.find?_eq_none, hgroups]
      intro g hg hname
      have hname : g.2 = some trailGroup := of_decide_eq_true hname
      rcases List.mem_cons.1 hg with rfl | hg
      · exact absurd hname (by decide)
      · rcases name_of_customParts hg with ⟨i, hi⟩ | ⟨key, hkey, g', hg', hown⟩
        · rw [hi] at hname
          exact keyGroup_ne_trail i (Option.some.inj hname)
        · exact htrail hstrict key hkey g' hg' (hown.symm.trans hname)
    rw [hnone] at hcount
    simp only [Option.isSome_none, if_neg Bool.false_ne_true] at hcount
    have hfew : ∀ g ∈ groupsOf (customParts (!o.sensitive) 0 (0 + 1) tokens),
        g.1 ≤ 0 + 1 + (keysOf tokens).length := by
      intro g hg
      have := hroute g hg
      omega
    obtain ⟨hown, hkeys⟩ := groups_of_few hfew
    refine ⟨hown, ?_⟩
    rw [hgroups, hkeys, recognizerGroups, if_pos rfl, List.append_nil]
  | false =>
    -- the group of the trail has the last number, which leaves one number for each key
    rw [hstrict, if_neg Bool.false_ne_true] at hgroups
    have hlast : routeCaptures (!o.sensitive) tokens + 2 ≤ (customRegex tokens o).lastGroup :=
      le_lastGroup (g := (_, some trailGroup)) (by
        rw [hgroups]
        exact .tail _ (List.mem_append_right _ (.head _)))
    have hexpected : (if (groupNamed? (customRegex tokens o).groups trailGroup).isSome then 1 else 0) ≤
        1 := by
      split <;> decide
    have hlength := length_le_routeCaptures (!o.sensitive) tokens
    have hcaptures : routeCaptures (!o.sensitive) tokens = (keysOf tokens).length := by omega
    have hfew : ∀ g ∈ groupsOf (customParts (!o.sensitive) 0 (0 + 1) tokens),
        g.1 ≤ 0 + 1 + (keysOf tokens).length := by
      intro g hg
      have := number_of_customParts hg
      omega
    obtain ⟨hown, hkeys⟩ := groups_of_few hfew
    refine ⟨hown, ?_⟩
    rw [hgroups, hkeys, hcaptures, recognizerGroups, if_neg Bool.false_ne_true]

/-! ## Compiled patterns -/

/-- In a recognizer with the expected groups, the group of the route spans the route, unless the
delimiter at the end is noted. -/
theorem text_route {w : Way} (hstrict : o.strict = true)
    (hgroups : (customRegex tokens o).groups = recognizerGroups o.strict (keysOf tokens).length)
    (h : (customRegex tokens o).search path = some w) :
    ∃ n, w.noted? 1 true = some n ∧ w.text? path 1 = some (path.take n) := by
  obtain ⟨x, y, v, n, m, rfl, hroute, htail, hnotes⟩ := notes_of_customRegex h
  rw [groups_customRegex, hstrict, if_pos rfl, List.append_nil, recognizerGroups, if_pos rfl,
    List.append_nil] at hgroups
  have hkeys : ∀ note ∈ n, note.group ≠ 1 := by
    intro note hnote
    obtain ⟨⟨name, hmem⟩, -⟩ := notesOnly_takesAll _ _ _ _ _ hroute note hnote
    rw [(List.cons.inj hgroups).2] at hmem
    obtain ⟨i, -, hi⟩ := List.mem_map.1 hmem
    have := congrArg Prod.fst hi
    simp only at this
    omega
  obtain rfl : m = [] := by
    rw [List.eq_nil_iff_forall_not_mem]
    intro note hnote
    obtain ⟨⟨name, hmem⟩, -⟩ := notesOnly_takesAll _ _ _ _ _ htail note hnote
    rw [groups_tail, hstrict] at hmem
    cases hmem
  have hstop : w.noted? 1 true = some x.length := by
    simp [Way.noted?, hnotes, routeNotes]
  have hstart : w.noted? 1 false = some 0 := by
    rw [Way.noted?, hnotes, List.nil_append, routeNotes, List.find?_cons_of_neg (by simp),
      List.find?_append, find?_note_of_ne hkeys]
    rfl
  exact ⟨x.length, hstop, by simp [Way.text?, hstart, hstop]⟩

/-- The groups of a compiled pattern whose expressions can be read by themselves. If matching is
strict, no expression may have a group with the name of the delimiter at the end. Then no expression
has a group at all, the groups of the recognizer are those that it has by itself, and what is
matched strictly is the text of the group of the route. A group that is repeated zero times is none:
reading drops it. -/
theorem groups_of_compile (h : Pattern.compile o source = .ok p)
    (hown : ∀ key ∈ p.keys, ∃ r, Regex.read (!o.sensitive) key.pattern = some r ∧
      (o.strict = true → ∀ g ∈ r.groups, g.2 ≠ some trailGroup)) :
    (∀ key ∈ p.keys, ∀ r, Regex.read (!o.sensitive) key.pattern = some r → r.groups = []) ∧
      p.recognizer.groups = recognizerGroups o.strict p.keys.length ∧
      (o.strict = true → ∀ path result, p.exec path = some result →
        ∃ w, p.recognizer.search path = some w ∧ result.captures.head? = some (w.text? path 1)) := by
  have hp := Pattern.checked_of_compile h
  have hread : ∀ key ∈ p.keys, (Regex.read (!o.sensitive) key.pattern).isSome := by
    intro key hkey
    obtain ⟨r, hr, -⟩ := hown key hkey
    rw [hr]
    rfl
  have hrecognizer := recognizer_of_compile h hread
  have hcounted := hp.counted
  rw [hrecognizer] at hcounted
  obtain ⟨hnone, hgroups⟩ := groups_of_expected hcounted fun hstrict key hkey g hg => by
    obtain ⟨r, hr, htrail⟩ := hown key hkey
    rw [(ownReader_of_read hr).2.2] at hg
    exact htrail hstrict g hg
  refine ⟨fun key hkey r hr => ?_, hrecognizer ▸ hgroups, ?_⟩
  · rw [← (ownReader_of_read hr).2.2]
    exact hnone key hkey
  · intro hstrict path result hresult
    obtain ⟨w, hw, rfl⟩ := Option.map_eq_some_iff.1 hresult
    refine ⟨w, hw, ?_⟩
    have hnamed : p.recognizer.groups = recognizerGroups true p.keys.length := by
      rw [hrecognizer, ← hstrict]
      exact hgroups
    rw [hrecognizer] at hw
    obtain ⟨n, hstop, htext⟩ := text_route hstrict hgroups hw
    rw [htext]
    simp [Pattern.report, hnamed, groupNamed_trail_strict, groupNamed_route, hstop]

/-- An expression without groups: what is matched is the text of the group of the route. -/
theorem groups_of_numbered_user :
    ∃ p : Pattern, Pattern.compile { strict := true } "/user-:id([0-9]+)".toList = .ok p ∧
      p.recognizer.groups = [(1, some routeGroup), (2, some (keyGroup 0))] ∧
      ∃ result w, p.exec "/user-7/x".toList = some result ∧
        p.recognizer.search "/user-7/x".toList = some w ∧
        result.captures.head? = some (w.text? "/user-7/x".toList 1) := by
  let p := (Pattern.compile { strict := true } "/user-:id([0-9]+)".toList).toOption.get
    (by decide +kernel)
  have hp : Pattern.compile { strict := true } "/user-:id([0-9]+)".toList = .ok p :=
    eq_ok_of_toOption (Option.some_get _).symm
  have hown : ∀ key ∈ p.keys, (Regex.read true key.pattern).map Regex.groups = some [] := by
    decide +kernel
  have hcount : p.keys.length = 1 := by decide +kernel
  have hmatch : (p.exec "/user-7/x".toList).isSome := by decide +kernel
  obtain ⟨-, hgroups, htext⟩ := groups_of_compile hp fun key hkey => by
    obtain ⟨r, hr, hgroups⟩ := Option.map_eq_some_iff.1 (hown key hkey)
    exact ⟨r, hr, fun _ g hg => by rw [hgroups] at hg; cases hg⟩
  obtain ⟨result, hresult⟩ := Option.isSome_iff_exists.1 hmatch
  obtain ⟨w, hw, hcaptures⟩ := htext rfl _ result hresult
  rw [hcount] at hgroups
  exact ⟨p, hp, hgroups, result, w, hresult, hw, hcaptures⟩

/-- That expressions can be read by themselves is needed. This one is cut off behind a class in
brackets: it goes on outside the group of its key, has a group with the name of the next key's group,
and hides that one in a comment. -/
example :
    ((Pattern.compile {} "x:a([(?]a)(?x)(?P<k1>z) #):b\n".toList).toOption.map fun p =>
        (p.keys.map fun key => (Regex.read true key.pattern).isSome,
          (p.exec "x(az".toList).map Match.captures)) =
      some ([false, true], some [some "x(az".toList, some "(a".toList, some "z".toList]) := by
  decide +kernel

/-- When matching is strict, an expression can add a group with the name of the delimiter at the end:
the pattern is compiled, and what is matched ends where that group ends. -/
theorem smuggled_trail :
    ∃ p : Pattern, Pattern.compile { strict := true } "/:id((?P<trail>x)y)".toList = .ok p ∧
      (∃ key ∈ p.keys,
        (Regex.read true key.pattern).map Regex.groups = some [(1, some trailGroup)]) ∧
      p.recognizer.groups ≠ recognizerGroups true p.keys.length ∧
      (p.exec "/xy".toList).map (·.captures.head?) = some (some (some "/x".toList)) ∧
      (p.recognizer.search "/xy".toList).map (·.text? "/xy".toList 1) =
        some (some "/xy".toList) := by
  let p := (Pattern.compile { strict := true } "/:id((?P<trail>x)y)".toList).toOption.get
    (by decide +kernel)
  exact ⟨p, eq_ok_of_toOption (Option.some_get _).symm, by decide +kernel, by decide +kernel,
    by decide +kernel, by decide +kernel⟩

end

end NestedRouting
