import NestedRouting.Proofs.Pattern.Captured
import NestedRouting.Proofs.Pattern.Confined
import NestedRouting.Proofs.Pattern.Smuggled
import NestedRouting.Proofs.Pattern.Validating

/-!
# Building from what was captured

A path can be built if the parameters have what each key needs (`build_isOk_iff`). What a key captures
is a text that its expression takes somewhere in the path (`taken_of_captured`). So a key accepts what
it has captured if its expression has no conditions, and the path that is built from the parameters of
a match matches again (`build_of_exec`). Two kinds of keys are excluded, and each has to be
(`captured_not_built`): those whose expressions have conditions, and those that repeat and have
captured several values, which they do not accept as one.
-/

namespace NestedRouting

open Regex

/-! ## What groups capture -/

/-- Whatever a span takes, the text of a group, if it has one, satisfies `P`. -/
def Span.Captures (group : Nat) (P : Text → Prop) (R : Span) : Prop :=
  ∀ u t v n c, R u t v n → textOf n (u ++ (t ++ v)) group = some c → P c

/-- A span notes nothing of a group. -/
def Span.Lacks (group : Nat) (R : Span) : Prop := R.NotesOnly (· ≠ group)

section
variable {group : Nat} {P : Text → Prop} {R S : Span}

/-- What a group captures in the first span stays, if the second does not note it. -/
theorem Span.Captures.andThen_left (h : R.Captures group P) (hs : S.Lacks group) :
    (R.andThen S).Captures group P := by
  rintro u _ v _ c ⟨t₁, t₂, n₁, n₂, rfl, rfl, h₁, h₂⟩ hc
  rw [textOf_append_of_ne fun note hnote => (hs _ _ _ _ h₂ note hnote).1] at hc
  exact h _ _ _ _ c h₁ (by simpa using hc)

/-- What a group captures in the second span is what counts. -/
theorem Span.Captures.andThen_right (hr : R.Lacks group) (h : S.Captures group P) :
    (R.andThen S).Captures group P := by
  rintro u _ v _ c ⟨t₁, t₂, n₁, n₂, rfl, rfl, h₁, h₂⟩ hc
  rw [textOf_append_of_ne' fun note hnote => (hr _ _ _ _ h₁ note hnote).1] at hc
  exact h _ _ _ _ c h₂ (by simpa using hc)

/-- A group captures a text that its expression takes, if this does not note the group. -/
theorem captures_group {number : Nat} {name : Option Text} {r : Regex}
    (hr : r.takes.Lacks number) (hP : ∀ u t v n, r.takes u t v n → P t) :
    (Regex.group number name r).takes.Captures number P := by
  rintro u t v _ c ⟨m, rfl, ht⟩ hc
  have hinner : ∀ note ∈ m, note.group ≠ number := fun note hnote => (hr _ _ _ _ ht note hnote).1
  have hstart : (⟨number, true, u.length + t.length⟩ :: (m ++ [⟨number, false, u.length⟩])).find?
      (fun note => note.group == number && note.isStop == false) =
        some ⟨number, false, u.length⟩ := by
    rw [List.find?_cons_of_neg (by simp), List.find?_append, find?_note_of_ne hinner]
    simp
  have htext : textOf (⟨number, true, u.length + t.length⟩ :: (m ++ [⟨number, false, u.length⟩]))
      (u ++ (t ++ v)) number = some t := by
    rw [textOf, Way.text?, Way.noted?, hstart]
    simp [Way.noted?]
  obtain rfl : t = c := Option.some.inj (htext.symm.trans hc)
  exact hP _ _ _ _ ht

end

/-! ## What keys capture -/

section
variable {o : Options} {number m i group : Nat} {key : Key} {tokens : List Token} {P : Text → Prop}
  {p : Part} {ps : List Part} {modifier : Modifier}

/-- The expression of a key takes a text somewhere, behind some groups. -/
def Key.Takes (o : Options) (key : Key) (t : Text) : Prop :=
  ∃ m u v n, (ownPart (!o.sensitive) m key).regex.takes u t v n

/-- Parts without a group note nothing of it. -/
theorem lacks_of_groups (h : ∀ g ∈ groupsOf ps, g.1 ≠ group) : (takesAll ps).Lacks group :=
  (notesOnly_takesAll ps).mono fun i ⟨name, hi⟩ => h (i, name) hi

/-- A part that does not repeat captures what it captures once. -/
theorem captures_modified (hmodifier : modifier.isRepeat = false)
    (h : p.regex.takes.Captures group P) : (p.modified modifier).regex.takes.Captures group P := by
  intro u t v n c ht hc
  rcases (takes_modified_once hmodifier).1 ht with ⟨-, rfl, rfl⟩ | ht
  · cases hc
  · exact h _ _ _ _ c ht hc

/-- The group of a key that does not repeat captures what the expression of the key takes. -/
theorem captures_customPart (hrepeat : key.modifier.isRepeat = false) :
    (customPart (!o.sensitive) number m key).regex.takes.Captures (m + 1) (key.Takes o) := by
  have hown : (customCapture number m (ownPart (!o.sensitive) (m + 1) key)).regex.takes.Captures
      (m + 1) (key.Takes o) := by
    refine captures_group ((notesOnly_takes _).mono fun i ⟨name, hi⟩ => ?_)
      fun u t v n ht => ⟨m + 1, u, v, n, ht⟩
    rw [groups_ownPart] at hi
    have := (number_of_ownGroups hi).1
    simp only at this
    omega
  unfold customPart
  split
  · exact captures_modified hrepeat hown
  · rw [if_neg (by rw [hrepeat]; exact Bool.false_ne_true)]
    refine captures_modified hrepeat fun u t v n c ht hc => ?_
    obtain ⟨l, d, r, rfl, -, -, hd⟩ := takes_customFramed.1 ht
    exact hown _ _ _ _ c hd (by simpa using hc)

/-- A key that does not repeat has a group in the route, which captures what the expression of the key
takes. -/
theorem captures_customParts (number m : Nat) (hkey : (keysOf tokens)[i]? = some key)
    (hrepeat : key.modifier.isRepeat = false) :
    ∃ group, (group, some (keyGroup (number + i))) ∈
        groupsOf (customParts (!o.sensitive) number m tokens) ∧
      (takesAll (customParts (!o.sensitive) number m tokens)).Captures group (key.Takes o) := by
  induction tokens generalizing number m i with
  | nil => cases hkey
  | cons token tokens ih =>
    cases token with
    | literal text =>
      obtain ⟨group, hgroup, hcaptures⟩ := ih number m hkey
      refine ⟨group, by rwa [groups_customParts_literal], fun u t v n c ht hc => ?_⟩
      have htext : (takesAll (textParts (!o.sensitive) text)).Lacks group :=
        lacks_of_groups (by rw [groupsOf_textParts]; exact nofun)
      exact hcaptures.andThen_right htext _ _ _ _ c ((takesAll_append (textParts _ text) _).1 ht) hc
    | group text modifier =>
      obtain ⟨group, hgroup, hcaptures⟩ := ih number m hkey
      refine ⟨group, by rwa [groups_customParts_group], .andThen_right ?_ hcaptures⟩
      refine (notesOnly_takes _).mono fun j ⟨name, hj⟩ => ?_
      rw [groups_textGroup] at hj
      cases hj
    | key k =>
      rw [groups_customParts_key]
      cases i with
      | zero =>
        obtain rfl : k = key := Option.some.inj hkey
        refine ⟨m + 1, List.mem_append_left _ (.head _), .andThen_left (captures_customPart hrepeat) ?_⟩
        refine lacks_of_groups fun g hg => ?_
        have hcount : 1 ≤ customCaptures (!o.sensitive) k := Nat.le_add_right ..
        have hbehind := lt_number_of_customParts hg
        omega
      | succ i =>
        obtain ⟨group, hgroup, hcaptures⟩ := ih (number + 1) (m + customCaptures (!o.sensitive) k) hkey
        have hbehind := lt_number_of_customParts hgroup
        rw [Nat.add_right_comm] at hgroup
        refine ⟨group, List.mem_append_right _ hgroup, .andThen_right ?_ hcaptures⟩
        refine (notesOnly_takes _).mono fun j ⟨name, hj⟩ => ?_
        rw [groups_customPart] at hj
        have := number_of_customGroups hj
        simp only at this hbehind
        omega

end

/-! ## What a match reports -/

section
variable {o : Options} {i group : Nat} {key : Key} {tokens : List Token} {pattern : Pattern}
  {path source c : Text} {w : Way} {result : Match} {params : Params} {validators : List Regex}

/-- Around a route only the group of the route and that of the delimiter at the end are noted. -/
theorem text_in_route {x y v : Text} {n m : List Note}
    (hnotes : w.notes = m ++ routeNotes x n)
    (htail : takesAll ((tailOf tokens o).parts (!o.sensitive) o.strict
      (routeCaptures (!o.sensitive) tokens + 1)) x y v m)
    (hgroup : 1 < group) (hlast : group ≤ 1 + routeCaptures (!o.sensitive) tokens) :
    w.text? path group = textOf n path group := by
  have htrail : ∀ note ∈ m, note.group ≠ group := by
    intro note hnote
    obtain ⟨⟨name, hmem⟩, -⟩ := notesOnly_takesAll _ _ _ _ _ htail note hnote
    rw [groups_tail] at hmem
    split at hmem
    · cases hmem
    · have hnumber := congrArg Prod.fst (List.mem_singleton.1 hmem)
      simp only at hnumber
      omega
  have hroute : ∀ isStop index, ∀ note ∈ [(⟨1, isStop, index⟩ : Note)], note.group ≠ group := by
    intro isStop index note hnote
    rw [List.mem_singleton.1 hnote]
    exact Nat.ne_of_lt hgroup
  have htext : w.text? path group = textOf w.notes path group := rfl
  have hsplit : routeNotes x n = [⟨1, true, x.length⟩] ++ (n ++ [⟨1, false, 0⟩]) := rfl
  rw [htext, hnotes, textOf_append_of_ne htrail, hsplit, textOf_append_of_ne (hroute true _),
    textOf_append_of_ne' (hroute false _)]

/-- What a key that does not repeat captures is a text that its expression takes. -/
theorem taken_of_captured (h : Pattern.compile o source = .ok pattern)
    (hread : ∀ key ∈ pattern.keys, (Regex.read (!o.sensitive) key.pattern).isSome)
    (hmatch : pattern.exec path = some result) (hkey : pattern.keys[i]? = some key)
    (hrepeat : key.modifier.isRepeat = false) (hc : result.captures[i + 1]? = some (some c)) :
    key.Takes o c := by
  have hrecognizer := recognizer_of_compile h hread
  obtain ⟨w, hw, rfl⟩ := Option.map_eq_some_iff.1 hmatch
  rw [hrecognizer] at hw
  obtain ⟨x, y, v, n, m, rfl, hroute, htail, hnotes⟩ := notes_of_customRegex hw
  obtain ⟨group, hgroup, hcaptures⟩ := captures_customParts 0 1 hkey hrepeat
  rw [Nat.zero_add] at hgroup
  have hmem : (group, some (keyGroup i)) ∈ pattern.recognizer.groups := by
    rw [hrecognizer, groups_customRegex]
    exact .tail _ (List.mem_append_left _ hgroup)
  have hfound : groupNamed? pattern.recognizer.groups (keyGroup i) = some group :=
    groupNamed?_of_unique hmem fun g hg hname =>
      unique_of_read (Pattern.checked_of_compile h).read hg hmem hname rfl
  have hi : i < pattern.keys.length := (List.getElem?_eq_some_iff.1 hkey).1
  have htext : w.text? (x ++ (y ++ v)) group = some c := by
    simpa [Pattern.report, Pattern.keyGroups, hi, hfound] using hc
  rw [text_in_route hnotes htail (lt_number_of_customParts hgroup) (number_of_customParts hgroup)]
    at htext
  exact hcaptures [] x (y ++ v) n c hroute htext

/-! ## Building again -/

/-- The expression of a key accepts a value. -/
def Key.Accepts (o : Options) (key : Key) (v : Text) : Prop :=
  ∃ r, Regex.read (!o.sensitive) key.pattern = some r ∧ r.Accepts v

/-- Parameters have for a key what it needs: a value that it accepts, or none if it may be absent. -/
def Key.IsFilled (o : Options) (params : Params) (key : Key) : Prop :=
  match params.get? key.name with
  | none => key.modifier.isOptional = true
  | some v => key.Accepts o v

/-- A key accepts what its validator matches. -/
theorem Key.accepts_iff {validator : Regex}
    (hread : (Regex.read (!o.sensitive) key.pattern).isSome)
    (hv : Regex.read (!o.sensitive) (validatorSource key) = some validator) :
    key.Accepts o c ↔ validator.isMatch c = true := by
  obtain ⟨r, hr⟩ := Option.isSome_iff_exists.1 hread
  rw [isMatch_validator hr hv]
  constructor
  · rintro ⟨r', hr', h⟩
    rwa [Option.some.inj (hr.symm.trans hr')]
  · exact fun h => ⟨r, hr, h⟩

/-- A key is built if and only if it is filled. -/
theorem build_key_isOk_iff {validator : Regex}
    (hread : (Regex.read (!o.sensitive) key.pattern).isSome)
    (hv : Regex.read (!o.sensitive) (validatorSource key) = some validator) :
    (∃ t, key.build params (some validator) = .ok t) ↔ key.IsFilled o params := by
  unfold Key.build Key.IsFilled
  cases params.get? key.name with
  | none => cases key.modifier.isOptional <;> simp
  | some v =>
    simp only [Key.accepts_iff hread hv, Option.any_some]
    by_cases hmatch : validator.isMatch v = true <;> simp [hmatch]

/-- A path can be built from tokens if and only if the parameters have what each key needs. -/
theorem build_isOk_iff (hvalidators : Validates o tokens validators)
    (hread : ∀ key ∈ keysOf tokens, (Regex.read (!o.sensitive) key.pattern).isSome) :
    (∃ path, buildTokens params tokens validators = .ok path) ↔
      ∀ key ∈ keysOf tokens, key.IsFilled o params := by
  induction tokens generalizing validators with
  | nil => exact ⟨fun _ => nofun, fun _ => ⟨[], rfl⟩⟩
  | cons token tokens ih =>
    cases token with
    | literal text | group text modifier =>
      refine Iff.trans ?_ (ih hvalidators hread)
      constructor
      · rintro ⟨path, h⟩
        obtain ⟨rest, hrest, -⟩ := bind_eq_ok_iff.1 h
        exact ⟨rest, hrest⟩
      · rintro ⟨rest, hrest⟩
        exact ⟨_, bind_eq_ok_iff.2 ⟨rest, hrest, rfl⟩⟩
    | key key =>
      have hkeys : keysOf (.key key :: tokens) = key :: keysOf tokens := rfl
      obtain ⟨v, vs, rfl, hv, hvs⟩ := hvalidators.cons
      rw [hkeys, List.forall_mem_cons] at hread ⊢
      rw [← build_key_isOk_iff hread.1 hv, ← ih hvs hread.2]
      constructor
      · rintro ⟨path, h⟩
        obtain ⟨t, ht, h⟩ := bind_eq_ok_iff.1 h
        obtain ⟨rest, hrest, -⟩ := bind_eq_ok_iff.1 h
        exact ⟨⟨t, ht⟩, rest, hrest⟩
      · rintro ⟨⟨t, ht⟩, rest, hrest⟩
        exact ⟨t ++ rest, bind_eq_ok_iff.2 ⟨t, ht, bind_eq_ok_iff.2 ⟨rest, hrest, rfl⟩⟩⟩

/-- A key that does not repeat accepts what it captures, if its expression has no conditions. -/
theorem accepts_of_captured (h : Pattern.compile o source = .ok pattern)
    (hread : ∀ key ∈ pattern.keys, (Regex.read (!o.sensitive) key.pattern).isSome)
    (hmatch : pattern.exec path = some result) (hkey : pattern.keys[i]? = some key)
    (hrepeat : key.modifier.isRepeat = false) (hc : result.captures[i + 1]? = some (some c))
    {r : Regex} (hr : Regex.read (!o.sensitive) key.pattern = some r) (hlooks : r.looks = []) :
    key.Accepts o c := by
  obtain ⟨m, u, v, n, htakes⟩ := taken_of_captured h hread hmatch hkey hrepeat hc
  rw [regex_ownPart hr] at htakes
  exact ⟨r, hr, accepts_of_takes hlooks htakes⟩

/-- Building from the parameters of a match. The names of the keys are distinct, their expressions can
be read by themselves, those of the keys that have parameters have no conditions, and the keys that
must occur have captured a text that is not empty. Then a path can be built if and only if each key
that repeats accepts the text that it has captured as one value, and the path matches again. -/
theorem build_of_exec (h : Pattern.compile o source = .ok pattern)
    (hnames : pattern.paramNames.Nodup) (hmatch : pattern.exec path = some result)
    (hkeys : Unconditional o result.params pattern.keys)
    (hrequired : ∀ i key, pattern.keys[i]? = some key → key.modifier.isOptional = false →
      ∃ v, result.captures[i + 1]? = some (some v) ∧ v ≠ []) :
    ((∃ built, pattern.build result.params = .ok built) ↔
      ∀ i key v, pattern.keys[i]? = some key → key.modifier.isRepeat = true →
        result.captures[i + 1]? = some (some v) → v ≠ [] → key.Accepts o v) ∧
    ∀ built, pattern.build result.params = .ok built →
      ∃ again, pattern.exec built = some again := by
  have hread := hkeys.isSome_read
  refine ⟨(build_isOk_iff (validates_of_compile h) hread).trans ⟨?_, ?_⟩, fun built hbuilt => ?_⟩
  · intro hfilled i key v hkey _ hcapture hne
    have hvalue := Pattern.param_of_captured hnames hmatch hkey hcapture hne
    have hkeyfilled := hfilled key (List.mem_of_getElem? hkey)
    rwa [Key.IsFilled, hvalue] at hkeyfilled
  · intro hrepeated key hkey
    unfold Key.IsFilled
    cases hvalue : result.params.get? key.name with
    | none =>
      -- a key without a parameter has not captured a text that is not empty
      by_contra hoptional
      obtain ⟨i, hi⟩ := List.mem_iff_getElem?.1 hkey
      obtain ⟨v, hcapture, hne⟩ := hrequired i key hi (Bool.not_eq_true _ ▸ hoptional)
      rw [Pattern.param_of_captured hnames hmatch hi hcapture hne] at hvalue
      cases hvalue
    | some v =>
      obtain ⟨i, hi, hcapture, hne⟩ := Pattern.captured_of_param hnames hmatch hkey hvalue
      cases hrepeat : key.modifier.isRepeat with
      | true => exact hrepeated i key v hi hrepeat hcapture hne
      | false =>
        obtain ⟨r, hr, hlooks⟩ := hkeys key hkey
        exact accepts_of_captured h hread hmatch hi hrepeat hcapture hr (hlooks (by rw [hvalue]; rfl))
  · have hsearch := search_of_build (validates_of_compile h) hkeys hbuilt
    rw [← recognizer_of_compile h hread] at hsearch
    exact pattern.exec_of_search hsearch

end

/-- A match with a key that repeats and has one value, one with alternatives and one that takes no
part. -/
theorem build_of_exec_user :
    ∃ (p : Pattern) (result : Match) (built : Text) (again : Match),
      Pattern.compile {} "/:dir(a|bc)+/:id([0-9]+|me){.:ext}?".toList = .ok p ∧
      p.exec "/BC/me/posts".toList = some result ∧
      result.captures.tail = [some "BC".toList, some "me".toList, none] ∧
      p.build result.params = .ok built ∧ p.exec built = some again := by
  let p := (Pattern.compile {} "/:dir(a|bc)+/:id([0-9]+|me){.:ext}?".toList).toOption.get
    (by decide +kernel)
  have hp : Pattern.compile {} "/:dir(a|bc)+/:id([0-9]+|me){.:ext}?".toList = .ok p :=
    eq_ok_of_toOption (Option.some_get _).symm
  have hexec : (p.exec "/BC/me/posts".toList).map Match.captures =
      some [some "/BC/me".toList, some "BC".toList, some "me".toList, none] := by
    decide +kernel
  obtain ⟨result, hresult, hcaptures⟩ := Option.map_eq_some_iff.1 hexec
  have hlooks : ∀ key ∈ p.keys, (Regex.read true key.pattern).map Regex.looks = some [] := by
    decide +kernel
  have hkeys : Unconditional {} result.params p.keys := fun key hkey => by
    obtain ⟨r, hr, hnone⟩ := Option.map_eq_some_iff.1 (hlooks key hkey)
    exact ⟨r, hr, fun _ => hnone⟩
  have hmodifiers : p.keys.map Key.modifier = [some .oneOrMore, none, some .optional] := by
    decide +kernel
  have hvalidates : p.keys[0]?.map (fun key =>
      (Regex.read true (validatorSource key)).map (·.isMatch "BC".toList)) = some (some true) := by
    decide +kernel
  have hmodifier : ∀ (i : Nat) (key : Key), p.keys[i]? = some key →
      [some .oneOrMore, none, some .optional][i]? = some key.modifier := fun i key hkey => by
    rw [← hmodifiers, List.getElem?_map, hkey]
    rfl
  obtain ⟨hiff, hmatches⟩ := build_of_exec hp (by decide +kernel) hresult hkeys
    fun i key hkey hrequired => by
      have hi := hmodifier i key hkey
      rw [hcaptures]
      match i with
      | 0 => exact ⟨_, rfl, by decide⟩
      | 1 => exact ⟨_, rfl, by decide⟩
      | 2 =>
        rw [← Option.some.inj hi] at hrequired
        cases hrequired
  obtain ⟨built, hbuilt⟩ := hiff.2 fun i key v hkey hrepeat hcapture hne => by
    have hi := hmodifier i key hkey
    rw [hcaptures] at hcapture
    match i with
    | 0 =>
      obtain rfl := Option.some.inj (Option.some.inj hcapture)
      rw [hkey] at hvalidates
      obtain ⟨validator, hv, hmatch⟩ := Option.map_eq_some_iff.1 (Option.some.inj hvalidates)
      exact (Key.accepts_iff (hkeys.isSome_read key (List.mem_of_getElem? hkey)) hv).2 hmatch
    | 1 | 2 =>
      rw [← Option.some.inj hi] at hrepeat
      cases hrepeat
  obtain ⟨again, hagain⟩ := hmatches built hbuilt
  exact ⟨p, result, built, again, hp, hresult, by rw [hcaptures]; rfl, hbuilt, hagain⟩

/-- Three matches whose parameters cannot be built back. A key that repeats has captured two values
with the delimiter between them, which it does not accept as one value; a value that stands behind a
letter is not accepted by an expression that asks for this; and an expression that cannot be read by
itself captures only what stands before the place where it closes its group. -/
theorem captured_not_built :
    (∃ (p : Pattern) (result : Match), Pattern.compile {} "/:p+".toList = .ok p ∧
      p.exec "/a/b".toList = some result ∧
      result.captures = [some "/a/b".toList, some "a/b".toList] ∧
      p.build result.params =
        .error (.invalid "p".toList "a/b".toList "[^/#?]+?".toList)) ∧
    (∃ (p : Pattern) (result : Match), Pattern.compile {} "/a:id(\\Bx)".toList = .ok p ∧
      p.exec "/ax".toList = some result ∧
      result.captures = [some "/ax".toList, some "x".toList] ∧
      p.build result.params = .error (.invalid "id".toList "x".toList "\\Bx".toList)) ∧
    ∃ (p : Pattern) (result : Match),
      Pattern.compile {} "/:id([(?]a)x(?:b[)])".toList = .ok p ∧
      p.exec "/(axb)".toList = some result ∧
      result.captures = [some "/(axb)".toList, some "(a".toList] ∧
      p.build result.params =
        .error (.invalid "id".toList "(a".toList "[(?]a)x(?:b[)]".toList) := by
  have hmatch : ∀ (source path : Text) (p : Pattern) (captures : List (Option Text)) (e : BuildError),
      (Pattern.compile {} source).toOption = some p →
      (p.exec path).map (fun result => (result.captures, p.build result.params)) =
        some (captures, .error e) →
      ∃ result, Pattern.compile {} source = .ok p ∧ p.exec path = some result ∧
        result.captures = captures ∧ p.build result.params = .error e := by
    intro source path p captures e hp hexec
    obtain ⟨result, hresult, heq⟩ := Option.map_eq_some_iff.1 hexec
    obtain ⟨hcaptures, hbuild⟩ := Prod.mk.inj heq
    exact ⟨result, eq_ok_of_toOption hp, hresult, hcaptures, hbuild⟩
  refine ⟨?_, ?_, ?_⟩
  · let p := (Pattern.compile {} "/:p+".toList).toOption.get (by decide +kernel)
    exact ⟨p, hmatch _ _ p _ _ (Option.some_get _).symm (by decide +kernel)⟩
  · let p := (Pattern.compile {} "/a:id(\\Bx)".toList).toOption.get (by decide +kernel)
    exact ⟨p, hmatch _ _ p _ _ (Option.some_get _).symm (by decide +kernel)⟩
  · let p := (Pattern.compile {} "/:id([(?]a)x(?:b[)])".toList).toOption.get (by decide +kernel)
    exact ⟨p, hmatch _ _ p _ _ (Option.some_get _).symm (by decide +kernel)⟩

end NestedRouting
