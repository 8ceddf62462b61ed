import NestedRouting.Proofs.Pattern.CustomGroups
import NestedRouting.Proofs.Pattern.Prefixed

/-!
# Expressions stay inside their keys

The expression of a key stands in the group of the key. If every expression can be read by itself,
then it stays there: whatever matches starts with the literal that the pattern starts with, and every
key that may not be absent captures a text (`confined_of_compile`). A group of a pattern ends at a
parenthesis that is found without regard to classes in brackets, so an expression can be cut off
where it cannot be read by itself. Then a part of it stands outside the group (`escaped_alternative`).
-/

namespace NestedRouting

open Regex

/-! ## Marks of parts -/

section
variable {ic : Bool} {number m group : Nat} {key : Key} {tokens : List Token} {p : Part}
  {ps : List Part} {modifier : Modifier}

/-- A group that one of the parts notes is noted. -/
theorem marking_takesAll (hp : p ∈ ps) (h : p.regex.takes.Marking group) :
    (takesAll ps).Marking group := by
  induction ps with
  | nil => cases hp
  | cons q ps ih =>
    rcases List.mem_cons.1 hp with rfl | hp
    · exact h.andThen_left
    · exact (ih hp).andThen_right

/-- A group that one of joined parts notes is noted. -/
theorem marking_joined (hdirective : ∀ q ∈ ps, q.directive = false) (hp : p ∈ ps)
    (h : p.regex.takes.Marking group) : (Part.joined ps).regex.takes.Marking group :=
  fun _ _ _ _ ht => marking_takesAll hp h _ _ _ _ ((takes_joined hdirective).1 ht)

/-- A part that may not be absent marks what it marks once. -/
theorem marking_modified (hmodifier : modifier.isOptional = false)
    (h : p.regex.takes.Marking group) : (p.modified modifier).regex.takes.Marking group := by
  intro u t v n ht
  obtain ⟨k, ⟨hzero, -⟩, ht⟩ := (takes_modified p modifier).1 ht
  cases k with
  | zero => exact absurd (hzero rfl) (by simp [hmodifier])
  | succ k => exact h.times k _ _ _ _ ht

/-- A key between lead and tail notes its group. -/
theorem marking_customFramed (p : Part) :
    (customFramed ic number m key p).regex.takes.Marking (m + 1) := by
  have hdirective : ∀ q ∈ textParts ic key.lead ++ ([customCapture number m p] ++
      textParts ic key.tail), q.directive = false := by
    refine directive_between fun q hq => ?_
    obtain rfl := List.mem_singleton.1 hq
    rfl
  have hmem : customCapture number m p ∈ textParts ic key.lead ++ ([customCapture number m p] ++
      textParts ic key.tail) := List.mem_append_right _ (.head _)
  exact marking_joined hdirective hmem (marking_group _ _ _)

/-- A key that may not be absent marks its group. -/
theorem marking_customPart (h : key.modifier.isOptional = false) :
    (customPart ic number m key).regex.takes.Marking (m + 1) := by
  unfold customPart
  split
  · exact marking_modified h (marking_group _ _ _)
  · split
    · rw [h]
      exact marking_modified rfl (marking_customFramed _)
    · exact marking_modified h (marking_customFramed _)

/-- A key that may not be absent has a group in the route that is always marked. -/
theorem marking_customParts (number m : Nat) {i : Nat} (hkey : (keysOf tokens)[i]? = some key)
    (h : key.modifier.isOptional = false) :
    ∃ group, (group, some (keyGroup (number + i))) ∈ groupsOf (customParts ic number m tokens) ∧
      (takesAll (customParts ic number m tokens)).Marking group := by
  induction tokens generalizing number m i with
  | nil => cases hkey
  | cons token tokens ih =>
    cases token with
    | literal text =>
      obtain ⟨group, hgroup, hmarking⟩ := ih number m hkey
      refine ⟨group, by rwa [groups_customParts_literal], fun u t v n ht => ?_⟩
      exact hmarking.andThen_right _ _ _ _ ((takesAll_append (textParts ic text) _).1 ht)
    | group text modifier =>
      obtain ⟨group, hgroup, hmarking⟩ := ih number m hkey
      exact ⟨group, by rwa [groups_customParts_group], hmarking.andThen_right⟩
    | key k =>
      rw [groups_customParts_key]
      cases i with
      | zero =>
        obtain rfl : k = key := Option.some.inj hkey
        exact ⟨m + 1, List.mem_append_left _ (.head _), (marking_customPart h).andThen_left⟩
      | succ i =>
        obtain ⟨group, hgroup, hmarking⟩ := ih (number + 1) (m + customCaptures ic k) hkey
        rw [Nat.add_right_comm] at hgroup
        exact ⟨group, List.mem_append_right _ hgroup, hmarking.andThen_right⟩

/-- What a route takes starts with the literal that its tokens start with, and all places that it
notes lie behind. -/
theorem literal_of_takes {o : Options} {text x v : Text} {n : List Note}
    (h : takesAll (customParts (!o.sensitive) number m (.literal text :: tokens)) [] x v n) :
    ∃ t rest, x = t ++ rest ∧ o.Same text t ∧ ∀ note ∈ n, t.length ≤ note.index := by
  obtain ⟨t, rest, n₁, n₂, rfl, rfl, htext, hrest⟩ := (takesAll_append (textParts _ text) _).1 h
  obtain ⟨hsame, rfl⟩ := takes_textParts.1 htext
  refine ⟨t, rest, rfl, hsame, fun note hnote => ?_⟩
  rw [List.append_nil] at hnote
  exact (notesOnly_takesAll _ _ _ _ _ hrest note hnote).2.1

end

/-! ## Compiled patterns -/

/-- A group is found by its name, if no other group has the name. -/
theorem groupNamed?_of_unique {groups : List (Nat × Option Text)} {number : Nat} {name : Text}
    (h : (number, some name) ∈ groups)
    (hunique : ∀ g ∈ groups, g.2 = some name → g = (number, some name)) :
    groupNamed? groups name = some number := by
  have hfound : (groups.find? (·.2 = some name)).isSome := by
    rw [List.find?_isSome]
    exact ⟨_, h, by simp⟩
  obtain ⟨g, hg⟩ := Option.isSome_iff_exists.1 hfound
  have hname : g.2 = some name := by simpa using List.find?_some hg
  rw [groupNamed?, hg, hunique g (List.mem_of_find?_eq_some hg) hname]
  rfl

section
variable {p : Pattern} {path x : Text} {w : Way} {n m : List Note} {k : Nat}

/-- The matched text ends behind the delimiter at the end, or behind the route. -/
theorem matched_report (p : Pattern) (path : Text) (w : Way) : (p.report path w).matched =
    path.take (((groupNamed? p.recognizer.groups trailGroup).bind (w.noted? · true)).getD
      (((groupNamed? p.recognizer.groups routeGroup).bind (w.noted? · true)).getD 0)) := rfl

/-- The matched text reaches as far as every stop that is noted. -/
theorem matched_reaches (hroute : groupNamed? p.recognizer.groups routeGroup = some 1)
    (hstopped : ∃ i, w.noted? 1 true = some i)
    (hstop : ∀ group i, w.noted? group true = some i → k ≤ i) :
    ∃ j, k ≤ j ∧ (p.report path w).matched = path.take j := by
  obtain ⟨i, hi⟩ := hstopped
  rw [matched_report, hroute, Option.bind_some, hi, Option.getD_some]
  cases htrail : (groupNamed? p.recognizer.groups trailGroup).bind (w.noted? · true) with
  | none => exact ⟨i, hstop 1 i hi, rfl⟩
  | some j =>
    obtain ⟨group, -, hj⟩ := Option.bind_eq_some_iff.1 htrail
    exact ⟨j, hstop group j hj, rfl⟩

/-- Of the notes of a way only the start of the route can lie in front of a place in the route that
all others lie behind. -/
theorem le_of_stop (hnotes : w.notes = m ++ routeNotes x n) (hx : k ≤ x.length)
    (hn : ∀ note ∈ n, k ≤ note.index) (hm : ∀ note ∈ m, k ≤ note.index) (group i : Nat)
    (h : w.noted? group true = some i) : k ≤ i := by
  obtain ⟨note, hnote, -, hstop, rfl⟩ := Way.exists_of_noted? h
  rw [hnotes] at hnote
  rcases List.mem_append.1 hnote with hnote | hnote
  · exact hm note hnote
  · rcases List.mem_cons.1 hnote with rfl | hnote
    · simpa using hx
    · rcases List.mem_append.1 hnote with hnote | hnote
      · exact hn note hnote
      · obtain rfl := List.mem_singleton.1 hnote
        cases hstop

/-- The expressions of the keys of a compiled pattern stay inside their keys, if they can be read by
themselves: the matched text starts with the literal that the pattern starts with, up to case where
case does not matter, and every key that may not be absent has captured a text. -/
theorem confined_of_compile {o : Options} {source : Text} {result : Match}
    (h : Pattern.compile o source = .ok p)
    (hown : ∀ key ∈ p.keys, (Regex.read (!o.sensitive) key.pattern).isSome)
    (hmatch : p.exec path = some result) :
    (∀ text tokens, p.tokens = .literal text :: tokens →
      ∃ t rest, result.matched = t ++ rest ∧ o.Same text t) ∧
    ∀ i key, p.keys[i]? = some key → key.modifier = none ∨ key.modifier = some .oneOrMore →
      ∃ value, result.captures[i + 1]? = some (some value) := by
  have hread := (Pattern.checked_of_compile h).read
  have hrecognizer := recognizer_of_compile h hown
  obtain ⟨w, hw, rfl⟩ := Option.map_eq_some_iff.1 hmatch
  -- a name stands for the only group that has it
  have hnamed : ∀ {number : Nat} {name : Text}, (number, some name) ∈ p.recognizer.groups →
      groupNamed? p.recognizer.groups name = some number := fun hmem =>
    groupNamed?_of_unique hmem fun g hg hname => unique_of_read hread hg hmem hname rfl
  have hgroups := groups_customRegex p.tokens o
  rw [← hrecognizer] at hgroups
  rw [hrecognizer] at hw
  obtain ⟨x, y, v, n, m, rfl, hroute, htail, hnotes⟩ := notes_of_customRegex hw
  constructor
  · intro text tokens htokens
    rw [htokens] at hroute
    obtain ⟨t, rest, rfl, hsame, hplaces⟩ := literal_of_takes hroute
    have hlength : t.length ≤ (t ++ rest).length := List.length_append ▸ Nat.le_add_right ..
    have hbehind : ∀ note ∈ m, t.length ≤ note.index := fun note hnote =>
      Nat.le_trans hlength (notesOnly_takesAll _ _ _ _ _ htail note hnote).2.1
    have hfirst : groupNamed? p.recognizer.groups routeGroup = some 1 :=
      hnamed (by rw [hgroups]; exact .head _)
    have hstopped : ∃ i, w.noted? 1 true = some i := Way.noted?_isSome
      ⟨_, by rw [hnotes]; exact List.mem_append_right _ (.head _), rfl, rfl⟩
    obtain ⟨j, hj, hmatched⟩ :=
      matched_reaches hfirst hstopped (le_of_stop hnotes hlength hplaces hbehind)
    rw [hmatched, List.append_assoc, List.take_append, List.take_of_length_le hj]
    exact ⟨t, _, rfl, hsame⟩
  · intro i key hkey hmodifier
    have hrequired : key.modifier.isOptional = false := by
      rcases hmodifier with h | h <;> rw [h] <;> rfl
    obtain ⟨group, hgroup, hmarking⟩ := marking_customParts 0 1 hkey hrequired
    have hfound : groupNamed? p.recognizer.groups (keyGroup i) = some group := hnamed (by
      rw [hgroups, ← Nat.zero_add i]
      exact .tail _ (List.mem_append_left _ hgroup))
    have hmarked : ∀ isStop, ∃ note ∈ w.notes, note.group = group ∧ note.isStop = isStop := by
      intro isStop
      obtain ⟨note, hnote, hmark⟩ := hmarking _ _ _ _ hroute isStop
      refine ⟨note, ?_, hmark⟩
      rw [hnotes]
      exact List.mem_append_right _ (.tail _ (List.mem_append_left _ hnote))
    obtain ⟨value, hvalue⟩ := Way.text?_isSome hmarked (x ++ (y ++ v))
    have hi : i < p.keys.length := (List.getElem?_eq_some_iff.1 hkey).1
    exact ⟨value, by simp [Pattern.report, Pattern.keyGroups, hi, hfound, hvalue]⟩

end

/-- An expression with alternatives, in a pattern that is matched without regard to case. -/
theorem confined_user :
    ∃ (p : Pattern) (result : Match),
      Pattern.compile {} "/Users/:id([0-9]+|me)".toList = .ok p ∧
      p.exec "/users/ME/posts".toList = some result ∧
      (∃ t rest, result.matched = t ++ rest ∧ Options.Same {} "/Users".toList t) ∧
      ∃ value, result.captures[1]? = some (some value) := by
  let p := (Pattern.compile {} "/Users/:id([0-9]+|me)".toList).toOption.get (by decide +kernel)
  have hp : Pattern.compile {} "/Users/:id([0-9]+|me)".toList = .ok p :=
    eq_ok_of_toOption (Option.some_get _).symm
  have hown : ∀ key ∈ p.keys, (Regex.read true key.pattern).isSome := by decide +kernel
  have hmatch : (p.exec "/users/ME/posts".toList).isSome := by decide +kernel
  obtain ⟨result, hresult⟩ := Option.isSome_iff_exists.1 hmatch
  obtain ⟨hliteral, hkeys⟩ := confined_of_compile hp hown hresult
  have hfirst : p.tokens.head? = some (.literal "/Users".toList) := by decide +kernel
  have hkey : p.keys[0]?.map Key.modifier = some none := by decide +kernel
  obtain ⟨tokens, htokens⟩ := List.head?_eq_some_iff.1 hfirst
  obtain ⟨key, hkey, hmodifier⟩ := Option.map_eq_some_iff.1 hkey
  exact ⟨p, result, hp, hresult, hliteral _ tokens htokens, hkeys 0 key hkey (.inl hmodifier)⟩

/-- A class in brackets with a parenthesis moves the end of a group. What stands behind is an
alternative to the whole pattern: it matches without the literal that the pattern starts with, and
without its key. -/
theorem escaped_alternative :
    ∃ p : Pattern, Pattern.compile {} "/users([(?]a)|(?:b[)])".toList = .ok p ∧
      p.tokens.head? = some (.literal "/users".toList) ∧
      p.keys.map Key.modifier = [none] ∧
      (p.exec "b)".toList).map Match.captures = some [some "b)".toList, none] := by
  let p := (Pattern.compile {} "/users([(?]a)|(?:b[)])".toList).toOption.get (by decide +kernel)
  exact ⟨p, eq_ok_of_toOption (Option.some_get _).symm, by decide +kernel, by decide +kernel,
    by decide +kernel⟩

end NestedRouting
