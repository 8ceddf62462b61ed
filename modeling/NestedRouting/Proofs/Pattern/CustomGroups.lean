import NestedRouting.Proofs.Pattern.Custom
import NestedRouting.Proofs.Regex.Noting

/-!
# The groups of expressions in a recognizer

Where keys have expressions of their own, the recognizer has the groups of the route, of the keys and
of the delimiter at the end, and behind the group of each key the groups of its expression
(`customGroups`), which are numbered behind all groups before (`groups_customRegex`). A part notes
only its own groups (`notesOnly_takesAll`).
-/

namespace NestedRouting

open Regex

/-! ## Groups of parts -/

/-- The groups of the expression of a key, behind `captures` others. -/
def ownGroups (ignoreCase : Bool) (captures : Nat) (key : Key) : List (Nat × Option Text) :=
  (ownReader ignoreCase key).level.close.regex.groups.map fun g => (captures + g.1, g.2)

/-- The groups of a key, behind `captures` others. -/
def customGroups (ignoreCase : Bool) (number captures : Nat) (key : Key) :
    List (Nat × Option Text) :=
  (captures + 1, some (keyGroup number)) :: (ownGroups ignoreCase (captures + 1) key ++
    if key.isTwice then ownGroups ignoreCase (captures + 1 + ownCaptures ignoreCase key) key else [])

section
variable {ic : Bool}

/-- The groups of the expression of a key. -/
theorem groups_ownPart (m : Nat) (key : Key) :
    (ownPart ic m key).regex.groups = ownGroups ic m key :=
  groups_renumbered m _

/-- The group of a key comes before the groups inside it. -/
theorem groups_customFramed (number m : Nat) (key : Key) (p : Part) :
    (customFramed ic number m key p).regex.groups =
      (m + 1, some (keyGroup number)) :: p.regex.groups := by
  have hjoined : (customFramed ic number m key p).regex.groups = _ :=
    groups_joined (directive_between (t := key.lead) (u := key.tail) fun q hq => by
      obtain rfl := List.mem_singleton.1 hq
      rfl)
  rw [hjoined, groupsOf_append, groupsOf_append, groupsOf_textParts, groupsOf_textParts]
  exact congrArg (_ :: ·) (by simp)

/-- The expression of a repeated key is written twice, and so are its groups. -/
theorem groups_customRepeat (m : Nat) (key : Key) : (customRepeat ic m key).regex.groups =
    ownGroups ic m key ++ ownGroups ic (m + ownCaptures ic key) key := by
  have hvalue : ∀ m, ((ownPart ic m key).wrapped .plain).regex.groups = ownGroups ic m key :=
    fun m => groups_ownPart m key
  have hmore : ((Part.joined (textParts ic key.tail ++ (textParts ic key.lead ++
      [(ownPart ic (m + ownCaptures ic key) key).wrapped .plain]))).wrapped .plain).regex.groups =
      ownGroups ic (m + ownCaptures ic key) key := by
    refine (groups_joined ?_).trans ?_
    · intro p hp
      rcases List.mem_append.1 hp with hp | hp
      · exact directive_textParts hp
      · rcases List.mem_append.1 hp with hp | hp
        · exact directive_textParts hp
        · obtain rfl := List.mem_singleton.1 hp
          rfl
    · rw [groupsOf_append, groupsOf_append, groupsOf_textParts, groupsOf_textParts, groupsOf_cons,
        hvalue]
      exact List.append_nil _
  refine (groups_joined ?_).trans ?_
  · intro p hp
    rcases List.mem_cons.1 hp with rfl | hp
    · rfl
    · obtain rfl := List.mem_singleton.1 hp
      exact directive_modified _ rfl
  · rw [groupsOf_cons, groupsOf_cons, hvalue, groups_modified, hmore]
    exact congrArg _ (List.append_nil _)

/-- The groups of the part of a key. -/
theorem groups_customPart (number m : Nat) (key : Key) :
    (customPart ic number m key).regex.groups = customGroups ic number m key := by
  have hcapture : ∀ p : Part, (customCapture number m p).regex.groups =
      (m + 1, some (keyGroup number)) :: p.regex.groups := fun _ => rfl
  unfold customPart customGroups Key.isTwice
  split
  · next hempty =>
    rw [groups_modified, hcapture, groups_ownPart, hempty]
    simp
  · next hne =>
    have hne : (key.lead.isEmpty && key.tail.isEmpty) = false := Bool.not_eq_true _ ▸ hne
    rw [hne]
    split
    · next hrep =>
      rw [groups_modified, groups_customFramed, groups_customRepeat, hrep]
      rfl
    · next hrep =>
      have hrep : key.modifier.isRepeat = false := Bool.not_eq_true _ ▸ hrep
      rw [groups_modified, groups_customFramed, groups_ownPart, hrep]
      simp

/-- The groups of a key, and those of the tokens behind it. -/
theorem groups_customParts_key (number m : Nat) (key : Key) (tokens : List Token) :
    groupsOf (customParts ic number m (.key key :: tokens)) = customGroups ic number m key ++
      groupsOf (customParts ic (number + 1) (m + customCaptures ic key) tokens) := by
  rw [customParts, groupsOf_cons, groups_customPart]

/-- A literal has no groups. -/
theorem groups_customParts_literal (number m : Nat) (text : Text) (tokens : List Token) :
    groupsOf (customParts ic number m (.literal text :: tokens)) =
      groupsOf (customParts ic number m tokens) := by
  rw [customParts, groupsOf_append, groupsOf_textParts, List.nil_append]

/-- A text without keys has no groups. -/
theorem groups_textGroup (text : Text) (modifier : Modifier) :
    (((Part.joined (textParts ic text)).wrapped .plain).modified modifier).regex.groups = [] := by
  have hgroup : ((Part.joined (textParts ic text)).wrapped .plain).regex.groups = _ :=
    groups_joined fun _ => directive_textParts
  rw [groups_modified, hgroup, groupsOf_textParts]

/-- A group of text has no groups of the expression. -/
theorem groups_customParts_group (number m : Nat) (text : Text) (modifier : Modifier)
    (tokens : List Token) : groupsOf (customParts ic number m (.group text modifier :: tokens)) =
      groupsOf (customParts ic number m tokens) := by
  rw [customParts, groupsOf_cons, groups_textGroup, List.nil_append]

/-- The groups of a recognizer are those of the route, the keys, their expressions and the trail. -/
theorem groups_customRegex (tokens : List Token) (o : Options) : (customRegex tokens o).groups =
    (1, some routeGroup) :: (groupsOf (customParts (!o.sensitive) 0 1 tokens) ++
      if o.strict then [] else [(routeCaptures (!o.sensitive) tokens + 2, some trailGroup)]) := by
  have hroute : ((Part.joined (customParts (!o.sensitive) 0 1 tokens)).wrapped
      (.capture 1 (some routeGroup))).regex.groups = (1, some routeGroup) ::
      (Part.joined (customParts (!o.sensitive) 0 1 tokens)).regex.groups := rfl
  rw [customRegex, groups_inSequence, customRecognizerParts, groupsOf_append, groupsOf_cons,
    groupsOf_cons, hroute, groups_joined (directive_customParts 0 1 tokens), groups_tail]
  simp [groupsOf, Part.plain, Regex.groups]

end

/-! ## Notes of parts -/

/-- Parts note only their own groups. -/
theorem notesOnly_takesAll (ps : List Part) :
    (takesAll ps).NotesOnly fun i => ∃ name, (i, name) ∈ groupsOf ps := by
  induction ps with
  | nil => exact Span.notesOnly_nothing
  | cons p ps ih =>
    refine Span.NotesOnly.andThen ((notesOnly_takes p.regex).mono fun i => ?_) (ih.mono fun i => ?_)
    · exact fun ⟨name, h⟩ => ⟨name, by rw [groupsOf_cons]; exact List.mem_append_left _ h⟩
    · exact fun ⟨name, h⟩ => ⟨name, by rw [groupsOf_cons]; exact List.mem_append_right _ h⟩

end NestedRouting
