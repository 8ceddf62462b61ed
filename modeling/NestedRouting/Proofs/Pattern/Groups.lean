import NestedRouting.Proofs.Pattern.Recognizer

/-!
# The groups of a recognizer

The route has the first group of a recognizer, the keys have the next ones in their order, and the
delimiter at the end has the last one, unless matching is strict (`groups_recognizerRegex`). Their
names are different, so each is found by its name (`groupNamed_route`, `groupNamed_key`,
`groupNamed_trail`). That is how many groups a recognizer is expected to have, so a pattern with
plain keys is compiled whenever its recognizer can be written (`ofTokens_eq_ok_iff`).
-/

namespace NestedRouting

open Regex

/-! ## Groups of parts -/

/-- The groups of parts, from left to right. -/
def groupsOf (ps : List Part) : List (Nat × Option Text) := ps.flatMap fun p => p.regex.groups

/-- The groups of a first part come first. -/
theorem groupsOf_cons (p : Part) (ps : List Part) :
    groupsOf (p :: ps) = p.regex.groups ++ groupsOf ps := List.flatMap_cons

/-- The groups of parts and more parts. -/
theorem groupsOf_append (ps qs : List Part) : groupsOf (ps ++ qs) = groupsOf ps ++ groupsOf qs :=
  List.flatMap_append

/-- Parts without groups have no groups together. -/
theorem groupsOf_eq_nil {ps : List Part} (h : ∀ p ∈ ps, p.regex.groups = []) : groupsOf ps = [] :=
  List.flatMap_eq_nil_iff.2 h

/-- An expression in sequence with parts has its groups and then theirs. -/
theorem groups_foldl_seq (r : Regex) (ps : List Part) :
    ((ps.map Part.regex).foldl .seq r).groups = r.groups ++ groupsOf ps := by
  induction ps generalizing r with
  | nil => exact (List.append_nil _).symm
  | cons p ps ih =>
    rw [List.map_cons, List.foldl_cons, ih, groupsOf_cons, Regex.groups, List.append_assoc]

/-- A sequence has the groups of its parts. -/
theorem groups_inSequence (ps : List Part) :
    (inSequence (ps.map Part.regex)).groups = groupsOf ps := by
  cases ps with
  | nil => rfl
  | cons p ps => exact groups_foldl_seq p.regex ps

/-- Joined parts have the groups of each if they have no directive. -/
theorem groups_joined {ps : List Part} (h : ∀ p ∈ ps, p.directive = false) :
    (Part.joined ps).regex.groups = groupsOf ps := by
  rw [Part.joined_regex h, groups_inSequence]

/-- A modifier adds no group. -/
theorem groups_modified (p : Part) (m : Modifier) :
    (p.modified m).regex.groups = p.regex.groups := by
  match m with
  | none | some .optional | some .zeroOrMore | some .oneOrMore => rfl

section
variable {ic : Bool}

/-- A literal has no groups. -/
theorem groupsOf_textParts (t : Text) : groupsOf (textParts ic t) = [] := by
  refine groupsOf_eq_nil fun p hp => ?_
  obtain ⟨c, -, rfl⟩ := List.mem_map.1 hp
  rfl

/-- The value of a key has no groups. -/
theorem groups_valuePart (pattern : Text) : (valuePart ic pattern).regex.groups = [] := by
  unfold valuePart
  split <;> rfl

/-- The group of a key is the only one around parts without groups. -/
theorem groups_capturePart {number : Nat} {ps : List Part} (h : ∀ p ∈ ps, p.directive = false)
    (hps : groupsOf ps = []) :
    (capturePart number ps).regex.groups = [(number + 2, some (keyGroup number))] := by
  have hgroups : (capturePart number ps).regex.groups =
      (number + 2, some (keyGroup number)) :: (Part.joined ps).regex.groups := rfl
  rw [hgroups, groups_joined h, hps]

/-- Repeated values of a key have no groups. -/
theorem groups_repeatParts (key : Key) : groupsOf (repeatParts ic key) = [] := by
  have hvalue : ((Part.joined [valuePart ic key.pattern]).wrapped .plain).regex.groups = [] :=
    groups_valuePart key.pattern
  refine groupsOf_eq_nil fun p hp => ?_
  rcases List.mem_cons.1 hp with rfl | hp
  · exact hvalue
  · obtain rfl := List.mem_singleton.1 hp
    have hseparated : (separated ic key).regex.groups = _ := groups_joined directive_separated
    rw [groups_modified, hseparated, groupsOf_append, groupsOf_append, groupsOf_textParts,
      groupsOf_textParts, groupsOf_cons, hvalue]
    rfl

/-- A key between lead and tail has one group. -/
theorem groups_framed {number : Nat} {key : Key} {ps : List Part}
    (h : ∀ p ∈ ps, p.directive = false) (hps : groupsOf ps = []) :
    (framed ic number key ps).regex.groups = [(number + 2, some (keyGroup number))] := by
  have hframed : (framed ic number key ps).regex.groups = _ := groups_joined directive_framed
  rw [hframed, groupsOf_append, groupsOf_append, groupsOf_textParts, groupsOf_textParts,
    groupsOf_cons, groups_capturePart h hps]
  rfl

/-- A key has one group. -/
theorem groups_keyPart (number : Nat) (key : Key) :
    (keyPart ic number key).regex.groups = [(number + 2, some (keyGroup number))] := by
  have hvalue : groupsOf [valuePart ic key.pattern] = [] := by
    rw [groupsOf_cons, groups_valuePart]
    rfl
  unfold keyPart
  simp only
  split
  · rw [groups_modified, groups_capturePart directive_value hvalue]
  · split
    · rw [groups_modified, groups_framed directive_repeatParts (groups_repeatParts key)]
    · rw [groups_modified, groups_framed directive_value hvalue]

/-- The groups of `count` keys, when `number` keys come before them. -/
def keyGroupEntries (number count : Nat) : List (Nat × Option Text) :=
  (List.range' number count).map fun i => (i + 2, some (keyGroup i))

/-- The route has a group for each of its keys. -/
theorem groups_routeParts (number : Nat) (tokens : List Token) :
    groupsOf (routeParts ic number tokens) =
      keyGroupEntries number (keysOf tokens).length := by
  induction tokens generalizing number with
  | nil => rfl
  | cons token tokens ih =>
    cases token with
    | literal text =>
      rw [routeParts, groupsOf_append, groupsOf_textParts, ih]
      rfl
    | group text modifier =>
      have hgroup : ((Part.joined (textParts ic text)).wrapped .plain).regex.groups = _ :=
        groups_joined fun _ => directive_textParts
      rw [routeParts, groupsOf_cons, groups_modified, hgroup, groupsOf_textParts, ih]
      rfl
    | key key =>
      rw [routeParts, groupsOf_cons, groups_keyPart, ih]
      rfl

/-- The tail has a group for the delimiter, unless matching is strict. -/
theorem groups_tail (tail : Tail) (strict : Bool) (captures : Nat) :
    groupsOf (tail.parts ic strict captures) =
      if strict then [] else [(captures + 1, some trailGroup)] := by
  cases tail <;> cases strict <;> rfl

end

/-! ## Groups of a recognizer -/

section
variable {tokens : List Token} {o : Options}

/-- The groups of a recognizer of `count` keys. -/
def recognizerGroups (strict : Bool) (count : Nat) : List (Nat × Option Text) :=
  (1, some routeGroup) :: (keyGroupEntries 0 count ++
    if strict then [] else [(count + 2, some trailGroup)])

/-- The groups of a recognizer are those of the route, the keys and the trail. -/
theorem groups_recognizerRegex : (recognizerRegex tokens o).groups =
    recognizerGroups o.strict (keysOf tokens).length := by
  have hroute : ((Part.joined (routeParts (!o.sensitive) 0 tokens)).wrapped
      (.capture 1 (some routeGroup))).regex.groups =
      (1, some routeGroup) :: (Part.joined (routeParts (!o.sensitive) 0 tokens)).regex.groups := rfl
  rw [recognizerRegex, groups_inSequence, recognizerParts, groupsOf_append, groupsOf_cons,
    groupsOf_cons, hroute, groups_joined (directive_routeParts 0 tokens), groups_routeParts,
    groups_tail]
  simp [recognizerGroups, groupsOf, Part.plain, Regex.groups]

/-- The names of the groups of a recognizer, in order. -/
theorem names_recognizerGroups (strict : Bool) (count : Nat) :
    (recognizerGroups strict count).map Prod.snd =
      (routeGroup :: keyGroupsFrom 0 count ++ tailGroups strict).map some := by
  cases strict <;> simp [recognizerGroups, keyGroupEntries, keyGroupsFrom, tailGroups]

/-- A group is found by its name, if the names are different. -/
theorem groupNamed?_of_mem {groups : List (Nat × Option Text)} {number : Nat} {name : Text}
    (hnodup : (groups.map Prod.snd).Nodup) (h : (number, some name) ∈ groups) :
    groupNamed? groups name = some number := by
  induction groups with
  | nil => cases h
  | cons g groups ih =>
    rw [List.map_cons, List.nodup_cons] at hnodup
    rcases List.mem_cons.1 h with rfl | h
    · simp [groupNamed?]
    · have hne : g.2 ≠ some name := by
        intro hg
        exact hnodup.1 (hg ▸ List.mem_map_of_mem h)
      have := ih hnodup.2 h
      simpa [groupNamed?, hne] using this

/-- The names of the groups of a recognizer are different. -/
theorem nodup_recognizerGroups (strict : Bool) (count : Nat) :
    ((recognizerGroups strict count).map Prod.snd).Nodup := by
  rw [names_recognizerGroups]
  exact List.Pairwise.map some (fun _ _ h => mt Option.some.inj h) (nodup_groups strict count)

/-- The group of the route is the first. -/
theorem groupNamed_route (strict : Bool) (count : Nat) :
    groupNamed? (recognizerGroups strict count) routeGroup = some 1 :=
  groupNamed?_of_mem (nodup_recognizerGroups strict count) (.head _)

/-- The group of a key is found by its name. -/
theorem groupNamed_key (strict : Bool) {count i : Nat} (h : i < count) :
    groupNamed? (recognizerGroups strict count) (keyGroup i) = some (i + 2) := by
  refine groupNamed?_of_mem (nodup_recognizerGroups strict count) (.tail _ ?_)
  refine List.mem_append_left _ (List.mem_map.2 ⟨i, ?_, rfl⟩)
  exact List.mem_range'_1.2 ⟨Nat.zero_le _, by omega⟩

/-- The group of the trail is the last. -/
theorem groupNamed_trail (count : Nat) :
    groupNamed? (recognizerGroups false count) trailGroup = some (count + 2) :=
  groupNamed?_of_mem (nodup_recognizerGroups false count)
    (.tail _ (List.mem_append_right _ (.head _)))

/-- Strict matching has no group for the trail. -/
theorem groupNamed_trail_strict (count : Nat) :
    groupNamed? (recognizerGroups true count) trailGroup = none := by
  have hnot : ∀ x ∈ recognizerGroups true count, ¬ x.2 = some trailGroup := by
    intro x hx hname
    have hx := List.mem_map_of_mem (f := Prod.snd) hx
    rw [hname, names_recognizerGroups] at hx
    obtain ⟨name, hname', ⟨⟩⟩ := List.mem_map.1 hx
    rcases List.mem_cons.1 (List.append_nil _ ▸ hname') with h | h
    · cases h
    · obtain ⟨i, -, hi⟩ := List.mem_map.1 h
      exact keyGroup_ne_trail i hi
  rw [groupNamed?, List.find?_eq_none.2 (by simpa using hnot)]
  rfl

end

/-! ## Compiling plain keys -/

section
variable {o : Options}

/-- A recognizer has as many groups as are expected of it. -/
theorem lastGroup_recognizerRegex (tokens : List Token) :
    (recognizerRegex tokens o).lastGroup + 1 =
      expectedGroups (keysOf tokens).length (recognizerRegex tokens o) := by
  have hfold : ∀ (number count k : Nat), k ≤ number + 1 →
      (keyGroupEntries number count).foldl (fun n g => max n g.1) k =
        if count = 0 then k else number + count + 1 := by
    intro number count
    induction count generalizing number with
    | zero => exact fun _ _ => rfl
    | succ count ih =>
      intro k hk
      have hcons : keyGroupEntries number (count + 1) =
          (number + 2, some (keyGroup number)) :: keyGroupEntries (number + 1) count := rfl
      rw [hcons, List.foldl_cons, ih (number + 1) _ (by omega), if_neg (Nat.succ_ne_zero count)]
      split <;> omega
  rw [Regex.lastGroup, expectedGroups, groups_recognizerRegex]
  cases o.strict with
  | true =>
    rw [groupNamed_trail_strict]
    simp only [recognizerGroups, if_true, List.append_nil, List.foldl_cons]
    rw [hfold 0 _ _ (by decide)]
    simp only [Option.isSome_none, if_neg Bool.false_ne_true]
    split <;> omega
  | false =>
    rw [groupNamed_trail]
    simp only [recognizerGroups, if_neg Bool.false_ne_true, List.foldl_cons, List.foldl_append,
      List.foldl_nil]
    rw [hfold 0 _ _ (by decide)]
    simp only [Option.isSome_some, if_true]
    split <;> omega

/-- The parts of the expression of the values that a key accepts. -/
def validatorParts (ignoreCase : Bool) (key : Key) : List Part :=
  [.plain (.look .textStart),
    (Part.joined [valuePart ignoreCase key.pattern]).wrapped .plain, endPart]

/-- The expression of the values that a key accepts. -/
def validatorRegex (o : Options) (key : Key) : Regex :=
  inSequence ((validatorParts (!o.sensitive) key).map Part.regex)

/-- The source of the values that a plain key accepts is read as their expression. -/
theorem readRegex_validator {key : Key} (h : key.IsPlain) :
    readRegex o (validatorSource key) = .ok (validatorRegex o key) := by
  have hvalue : Reads (!o.sensitive) 0 key.pattern [valuePart (!o.sensitive) key.pattern] [] :=
    .value h
  have hend : Reads (!o.sensitive) 0 "$".toList [endPart] [] := .textEnd
  have hwhole : Reads (!o.sensitive) 0 _ (validatorParts (!o.sensitive) key) [] :=
    (Reads.textStart.append (hvalue.framed none) (by simp)).append hend (by decide)
  have hsource : validatorSource key = ['^'] ++ ("(?:".toList ++ key.pattern ++ ")".toList ++
      Modifier.text none) ++ "$".toList := by
    simp [validatorSource, Modifier.text]
  have hparts : ∀ p ∈ validatorParts (!o.sensitive) key, p.height ≤ 4 ∧ p.directive = false := by
    intro p hp
    rcases List.mem_cons.1 hp with rfl | hp
    · exact ⟨Nat.zero_le _, rfl⟩
    · rcases List.mem_cons.1 hp with rfl | hp
      · exact ⟨Nat.succ_le_succ (height_valuePart key.pattern), rfl⟩
      · obtain rfl := List.mem_singleton.1 hp
        exact ⟨Nat.zero_le _, rfl⟩
  have hread := read_of_reads hwhole List.nodup_nil (fun p hp => (hparts p hp).2)
    (Nat.le_trans (height_joined_le fun p hp => (hparts p hp).1) (by decide))
  rw [readRegex, hsource, hread]
  rfl

/-- Steps that each succeed succeed together. -/
theorem mapM_ok {α β ε : Type} {f : α → Except ε β} {g : α → β} {xs : List α}
    (h : ∀ x ∈ xs, f x = .ok (g x)) : xs.mapM f = .ok (xs.map g) := by
  induction xs with
  | nil => rfl
  | cons x xs ih =>
    rw [List.mapM_cons, h x (.head _), ih fun y hy => h y (.tail _ hy)]
    rfl

/-- Tokens with plain keys are compiled whenever their recognizer can be written. -/
theorem ofTokens_eq {tokens : List Token} (hkeys : ∀ key ∈ keysOf tokens, key.IsPlain)
    (source : Text) : Pattern.ofTokens o source tokens =
      (recognizerSource tokens o).map fun recognizerSource =>
        { source, options := o, tokens, recognizerSource, recognizer := recognizerRegex tokens o
          validators := (keysOf tokens).map (validatorRegex o) } := by
  unfold Pattern.ofTokens
  cases hsource : NestedRouting.recognizerSource tokens o with
  | error e => rfl
  | ok recognizerSource =>
    have hread : readRegex o recognizerSource = .ok (recognizerRegex tokens o) := by
      rw [readRegex, read_recognizerSource hkeys hsource]
    have hvalidators : (keysOf tokens).mapM (fun key => readRegex o (validatorSource key)) =
        .ok ((keysOf tokens).map (validatorRegex o)) :=
      mapM_ok fun key hkey => readRegex_validator (hkeys key hkey)
    have hgroups : ((recognizerRegex tokens o).lastGroup + 1 !=
        expectedGroups (keysOf tokens).length (recognizerRegex tokens o)) = false := by
      rw [lastGroup_recognizerRegex, bne_self_eq_false]
    simp only [bind, Except.bind, hread, hgroups, hvalidators]
    rfl

/-- What a pattern with plain keys is compiled to. -/
theorem ofTokens_eq_ok_iff {tokens : List Token} {source : Text} {p : Pattern}
    (hkeys : ∀ key ∈ keysOf tokens, key.IsPlain) :
    Pattern.ofTokens o source tokens = .ok p ↔ ∃ rs, recognizerSource tokens o = .ok rs ∧
      p = ⟨source, o, tokens, rs, recognizerRegex tokens o,
        (keysOf tokens).map (validatorRegex o)⟩ := by
  rw [ofTokens_eq hkeys]
  cases recognizerSource tokens o with
  | error e => exact ⟨nofun, nofun⟩
  | ok rs =>
    constructor
    · intro h
      exact ⟨rs, rfl, (Except.ok.inj h).symm⟩
    · rintro ⟨_, ⟨⟩, rfl⟩
      rfl

end

end NestedRouting
