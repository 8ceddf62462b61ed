import NestedRouting.Proofs.Regex.Bracketed
import NestedRouting.Proofs.Regex.Steps

/-!
# Expressions inside groups

An expression that is read by itself is read inside a group as well: the reader goes through the same
states there, with other groups around them and numbered behind other groups (`Reader.inside`).
Inside the group it may be refused, where a name is used a second time; otherwise it reaches the end
of the group as it reaches its own end (`readParts_inside`). There is one exception: a comment at the
end of the expression swallows up the end of the group.
-/

namespace NestedRouting.Regex

section
variable {s t u r : Text}

/-! ## Groups -/

/-- Flags end with a colon or a parenthesis, so it does not matter what follows. -/
theorem readFlags_append {flags flags' : Flags} {seen : List Char} {value written : Bool} {c : Char}
    (h : readFlags flags seen value s = some (flags', written, c, r)) (u : Text) :
    readFlags flags seen value (s ++ u) = some (flags', written, c, r ++ u) := by
  induction s generalizing flags seen value with
  | nil => cases h
  | cons d s ih =>
    rw [List.cons_append]
    unfold readFlags at h ⊢
    split at h
    · next hend =>
      rw [if_pos hend]
      split at h
      · cases h
      · next hseen =>
        rw [if_neg hseen]
        cases h
        rfl
    · next hend =>
      rw [if_neg hend]
      split at h
      · cases h
      · next hseen =>
        rw [if_neg hseen]
        split at h
        · next hhyphen =>
          rw [if_pos hhyphen]
          exact ih h
        · next hhyphen =>
          rw [if_neg hhyphen]
          split at h
          · cases h
          · exact ih h

/-- The name of a group ends with a bracket, so it does not matter what follows. -/
theorem readGroupName_append_right {names : List Text} (h : readGroupName names s = some (t, r))
    (u : Text) : readGroupName names (s ++ u) = some (t, r ++ u) := by
  unfold readGroupName at h ⊢
  split at h
  · next hcut =>
    rw [cutAt?_append_right hcut]
    simp only
    split at h
    · next hname =>
      rw [if_pos hname]
      cases h
      rfl
    · cases h
  · cases h

/-- A text that opens a group with a name still does so when more text follows. -/
theorem OpensName.append {v : Bool} (h : OpensName t (skipSpace v s)) (ht : t ≠ []) (u : Text) :
    OpensName (t ++ u) (skipSpace v (s ++ u)) := by
  generalize hskip : skipSpace v s = x at h
  cases h with
  | named =>
    rw [skipSpace_append hskip]
    exact .named
  | angled hahead hdenied =>
    rw [skipSpace_append hskip]
    obtain ⟨c, t, rfl⟩ := List.exists_cons_of_ne_nil ht
    exact .angled hahead hdenied

/-- A text that opens a group with flags still does so when more text follows. -/
theorem OpensFlags.append {v : Bool} (h : OpensFlags t (skipSpace v s)) (u : Text) :
    OpensFlags (t ++ u) (skipSpace v (s ++ u)) := by
  generalize hskip : skipSpace v s = x at h
  obtain ⟨hd⟩ := h
  rw [skipSpace_append hskip]
  exact .intro hd

/-- A capturing group without a name stops where the white space in front of it does. -/
theorem readGroup_plain_stops {st : Reader} (h : (skipSpace st.flags.verbose s).head? ≠ some '?') :
    Stops (fun u => readGroup st (s ++ u)) (st.openCapture none) (skipSpace st.flags.verbose s) := by
  rcases skipSpace_stops (st.openCapture none) st.flags.verbose s with hstops | ⟨hnil, hstops⟩
  · refine .inl fun u => ?_
    have hskip := (Prod.mk.inj (Option.some.inj (hstops u))).2
    show readGroup st (s ++ ')' :: u) = _
    rw [readGroup_of_plain, hskip]
    rw [hskip]
    exact head?_append_ne h (by simp)
  · refine .inr ⟨hnil, fun u hu => ?_⟩
    have hskip := (Prod.mk.inj (Option.some.inj (hstops u hu))).2
    show readGroup st (s ++ ')' :: u) = _
    rw [readGroup_of_plain, hskip]
    rw [hskip]
    exact nofun

/-- The start of a group stops in front of a closing parenthesis where it stops by itself. -/
theorem readGroup_stops {st st' : Reader} (h : readGroup st s = some (st', r)) :
    Stops (fun u => readGroup st (s ++ u)) st' r := by
  cases groupForm_of_readGroup h with
  | @name t hname =>
    rw [readGroup_of_name hname] at h
    obtain ⟨⟨name, rest⟩, hread, ⟨⟩⟩ := Option.map_eq_some_iff.1 h
    have ht : t ≠ [] := by
      rintro rfl
      cases hread
    refine .of_append fun u => ?_
    rw [readGroup_of_name (hname.append ht u), readGroupName_append_right hread u]
    rfl
  | flags hflags =>
    rw [readGroup_of_flags hflags] at h
    obtain ⟨⟨flags, written, c, rest⟩, hread, h⟩ := Option.bind_eq_some_iff.1 h
    obtain ⟨st', hopened, ⟨⟩⟩ := Option.map_eq_some_iff.1 h
    refine .of_append fun u => ?_
    rw [readGroup_of_flags (hflags.append u), readFlags_append hread u, Option.bind_some, hopened]
    rfl
  | plain hplain =>
    rw [readGroup_of_plain hplain] at h
    cases h
    exact readGroup_plain_stops hplain

/-! ## Parts -/

/-- A question mark that makes a repetition lazy stands in the text itself. -/
theorem takeLazy_append (s u : Text) :
    takeLazy (s ++ ')' :: u) = ((takeLazy s).1, (takeLazy s).2 ++ ')' :: u) := by
  cases s with
  | nil => rfl
  | cons c s =>
    by_cases hc : c = '?'
    · subst hc
      rfl
    · simp [takeLazy, hc]

/-- The sign of a repetition stops in front of a closing parenthesis where it stops by itself. -/
theorem readSign_stops {st st' : Reader} {least : Nat} {most : Option Nat}
    (h : readSign st least most s = some (st', r)) :
    Stops (fun u => readSign st least most (s ++ u)) st' r := by
  have hsign : ∀ s, readSign st least most s =
      (repeatPart st least most (takeLazy s).1).map fun st => (st, (takeLazy s).2) := fun _ => rfl
  rw [hsign] at h
  obtain ⟨st', hrepeat, ⟨⟩⟩ := Option.map_eq_some_iff.1 h
  exact .inl fun u => by simp only [hsign, takeLazy_append, hrepeat, Option.map_some]

/-- A part of an expression stops in front of a closing parenthesis where it stops by itself. -/
theorem readPart_stops {st st' : Reader} {c : Char} (h : readPart st c s = some (st', r)) :
    Stops (fun u => readPart st c (s ++ u)) st' r := by
  cases partStep_of_readPart h with
  | group hgroup => exact readGroup_stops hgroup
  | close hclose => exact .of_append fun u => by simp only [readPart, hclose, Option.map_some]
  | branch => exact .of_append fun _ => rfl
  | brackets hclass =>
    refine .inl fun u => ?_
    simp only [readPart, readClass_append hclass]
    rfl
  | sign hc hsign => simpa only [hc] using readSign_stops hsign
  | @bounds least most rest _ hbounds hrepeat =>
    rcases skipSpace_stops () st.flags.verbose rest with hstops | ⟨hnil, hstops⟩
    · refine .inl fun u => ?_
      have hskip := (Prod.mk.inj (Option.some.inj (hstops u))).2
      simp [readPart, readBounds_append hbounds, hskip, takeLazy_append, hrepeat]
    · -- the text ends behind the bounds, in a comment
      rw [hnil] at hrepeat ⊢
      refine .inr ⟨rfl, fun u hu => ?_⟩
      have hskip := (Prod.mk.inj (Option.some.inj (hstops u hu))).2
      simp [readPart, readBounds_append hbounds, hskip, hrepeat]
      rfl
  | dot hdot => exact .of_append fun u => by simp [readPart, hdot]
  | anchor look hc => exact .of_append fun u => hc st _
  | @escape x regex _ hescape hregex =>
    exact (readEscape_stops hescape).then
      (k := fun x => (x.1.regex? st.flags).bind fun r => some (st.push r 0, x.2))
      fun l => by rw [hregex, Option.bind_some]
  | char hc hregex => exact .of_append fun u => by rw [hc, hregex, Option.bind_some]

end

/-! ## Numbers -/

/-- An expression whose groups are numbered behind `m` others. -/
def renumbered (m : Nat) : Regex → Regex
  | empty => empty
  | set s => set s
  | look l => look l
  | seq r s => seq (r.renumbered m) (s.renumbered m)
  | alt r s => alt (r.renumbered m) (s.renumbered m)
  | loop r least most greedy => loop (r.renumbered m) least most greedy
  | group number name r => group (m + number) name (r.renumbered m)

/-- The groups of a renumbered expression have greater numbers and the same names. -/
theorem groups_renumbered (m : Nat) (r : Regex) :
    (r.renumbered m).groups = r.groups.map fun g => (m + g.1, g.2) := by
  induction r with
  | empty | set | look => rfl
  | seq r s ihr ihs | alt r s ihr ihs => simp [renumbered, groups, ihr, ihs]
  | loop r least most greedy ih => exact ih
  | group number name r ih => simp [renumbered, groups, ih]

/-- Without groups nothing is numbered. -/
theorem renumbered_of_groups {r : Regex} (h : r.groups = []) (m : Nat) : r.renumbered m = r := by
  induction r with
  | empty | set | look => rfl
  | seq r s ihr ihs | alt r s ihr ihs =>
    obtain ⟨hr, hs⟩ := List.append_eq_nil_iff.1 h
    rw [renumbered, ihr hr, ihs hs]
  | loop r least most greedy ih => rw [renumbered, ih h]
  | group => cases h

/-- A part whose groups are numbered behind `m` others. -/
def Part.renumbered (m : Nat) (p : Part) : Part := { p with regex := p.regex.renumbered m }

/-- A level whose groups are numbered behind `m` others. -/
def Level.renumbered (m : Nat) (l : Level) : Level :=
  ⟨l.branches.map (·.renumbered m), l.parts.map (·.renumbered m)⟩

/-- A kind of group that is numbered behind `m` others. -/
def GroupKind.renumbered (m : Nat) : GroupKind → GroupKind
  | capture number name => capture (m + number) name
  | plain => plain

section
variable {m : Nat}

/-- A repetition is renumbered inside. -/
theorem renumbered_repeated (r : Regex) (least : Nat) (most : Option Nat) (greedy : Bool) :
    (repeated r least most greedy).renumbered m =
      repeated (r.renumbered m) least most greedy := by
  unfold repeated
  split <;> rfl

/-- What stands in parentheses is renumbered, and the parentheses are. -/
theorem renumbered_wrap (kind : GroupKind) (r : Regex) :
    (kind.wrap r).renumbered m = (kind.renumbered m).wrap (r.renumbered m) := by
  cases kind <;> rfl

/-- The branch of a renumbered level is the renumbered branch. -/
theorem Level.renumbered_branch (l : Level) :
    (l.renumbered m).branch = l.branch.renumbered m := by
  have hregex : ∀ (ps : List Part) (r : Regex),
      (ps.map (·.renumbered m)).foldl (fun r q => .seq r q.regex) (r.renumbered m) =
        (ps.foldl (fun r q => .seq r q.regex) r).renumbered m := by
    intro ps
    induction ps with
    | nil => exact fun _ => rfl
    | cons p ps ih => exact fun r => ih (.seq r p.regex)
  have hfilter : ((l.parts.map (·.renumbered m)).filter (!·.directive)).reverse =
      ((l.parts.filter (!·.directive)).reverse).map (·.renumbered m) := by
    rw [List.filter_map, List.map_reverse]
    rfl
  have hheight : (l.parts.map (·.renumbered m)).foldl (fun n p => max n p.height) 0 =
      l.parts.foldl (fun n p => max n p.height) 0 := List.foldl_map
  unfold branch renumbered
  simp only [hfilter, hheight]
  match l.parts with
  | [] | [p] => rfl
  | p :: q :: ps =>
    cases ((p :: q :: ps).filter (!·.directive)).reverse with
    | nil => rfl
    | cons x xs => exact congrArg (Part.mk · _ false) (hregex xs x.regex)

/-- A renumbered level closes as a renumbered part. -/
theorem Level.renumbered_close (l : Level) : (l.renumbered m).close = l.close.renumbered m := by
  have hregex : ∀ (ps : List Part) (r : Regex),
      (ps.map (·.renumbered m)).foldl (fun r q => .alt q.regex r) (r.renumbered m) =
        (ps.foldl (fun r q => .alt q.regex r) r).renumbered m := by
    intro ps
    induction ps with
    | nil => exact fun _ => rfl
    | cons p ps ih => exact fun r => ih (.alt p.regex r)
  have hheight : ∀ (ps : List Part) (k : Nat),
      (ps.map (·.renumbered m)).foldl (fun n q => max n q.height) k =
        ps.foldl (fun n q => max n q.height) k := fun _ _ => List.foldl_map
  unfold close
  rw [renumbered_branch]
  cases hbranches : l.branches with
  | nil => simp [renumbered, hbranches]
  | cons p ps =>
    have hmap : (l.renumbered m).branches = (p :: ps).map (·.renumbered m) := by
      rw [← hbranches]
      rfl
    rw [hmap]
    have hclosed : ((p :: ps).map (·.renumbered m)).foldl (fun r q => .alt q.regex r)
        (l.branch.renumbered m).regex = _ := hregex (p :: ps) l.branch.regex
    have hdepth : ((p :: ps).map (·.renumbered m)).foldl (fun n q => max n q.height)
        (l.branch.renumbered m).height = _ := hheight (p :: ps) l.branch.height
    simp only [List.map_cons] at hclosed hdepth ⊢
    rw [hclosed, hdepth]
    rfl

end

/-! ## Readers inside a group -/

/-- A reader with the groups of another one around. -/
def Reader.inside (c st : Reader) : Reader where
  flags := st.flags
  captures := c.captures + st.captures
  names := st.names ++ c.names
  level := st.level.renumbered c.captures
  outer := st.outer.map (fun (kind, flags, level) =>
    (kind.renumbered c.captures, flags, level.renumbered c.captures)) ++ c.outer

section
variable {c st st' : Reader} {s r : Text}

/-- A part without groups is added inside a group as outside. -/
theorem Reader.inside_push (c st : Reader) {regex : Regex} (h : regex.groups = []) (height : Nat) :
    (c.inside st).push regex height = c.inside (st.push regex height) := by
  simp [Reader.inside, Reader.push, Level.renumbered, Part.renumbered, renumbered_of_groups h]

/-- A group closes inside another group as it closes outside. -/
theorem Reader.inside_closeGroup (h : st.closeGroup = some st') :
    (c.inside st).closeGroup = some (c.inside st') := by
  obtain ⟨flags, captures, names, level, outer⟩ := st
  cases outer with
  | nil => cases h
  | cons x outer =>
    obtain ⟨kind, flags', level'⟩ := x
    cases h
    have hclose : (level.renumbered c.captures).close = level.close.renumbered c.captures :=
      level.renumbered_close
    simp only [Reader.closeGroup, Reader.inside, List.map_cons, List.cons_append, hclose]
    simp [Reader.push, Level.renumbered, Part.renumbered, renumbered_wrap]

/-- A part is repeated inside a group as it is outside. -/
theorem Reader.inside_repeatPart {least : Nat} {most : Option Nat} {greedy : Bool}
    (h : repeatPart st least most greedy = some st') :
    repeatPart (c.inside st) least most greedy = some (c.inside st') := by
  obtain ⟨flags, captures, names, ⟨branches, parts⟩, outer⟩ := st
  cases parts with
  | nil => cases h
  | cons p parts =>
    simp only [repeatPart] at h
    split at h
    · cases h
    · next hdirective =>
      cases h
      simp [repeatPart, Reader.inside, Level.renumbered, Part.renumbered, renumbered_repeated,
        hdirective]

/-- The sign of a repetition is read inside a group as it is outside. -/
theorem Reader.inside_readSign {least : Nat} {most : Option Nat}
    (h : readSign st least most s = some (st', r)) :
    readSign (c.inside st) least most s = some (c.inside st', r) := by
  have hsign : ∀ st, readSign st least most s =
      (repeatPart st least most (takeLazy s).1).map fun st => (st, (takeLazy s).2) := fun _ => rfl
  rw [hsign] at h ⊢
  obtain ⟨st', hrepeat, ⟨⟩⟩ := Option.map_eq_some_iff.1 h
  rw [inside_repeatPart hrepeat]
  rfl

/-- A capturing group is opened inside another one with the next number there. -/
theorem Reader.inside_openCapture (name : Option Text) :
    (c.inside st).openCapture name = c.inside (st.openCapture name) := by
  simp [Reader.openCapture, Reader.openGroup, Reader.inside, Level.renumbered, Level.empty,
    GroupKind.renumbered, Nat.add_assoc]

/-- Inside a group a name may be refused, because it is used outside. -/
theorem readGroupName_inside {names : List Text} {name : Text}
    (h : readGroupName names s = some (name, r)) (more : List Text) :
    readGroupName (names ++ more) s = none ∨ readGroupName (names ++ more) s = some (name, r) := by
  unfold readGroupName at h ⊢
  split at h
  · split at h
    · cases h
      split
      · exact .inr rfl
      · exact .inl rfl
    · cases h
  · cases h

/-- Flags hold inside a group as they do outside. -/
theorem Reader.inside_withFlags {flags : Flags} {written : Bool} {k : Char}
    (h : st.withFlags flags written k = some st') :
    (c.inside st).withFlags flags written k = some (c.inside st') := by
  unfold withFlags at h ⊢
  split at h
  · next hk =>
    cases h
    exact if_pos hk
  · next hk =>
    rw [if_neg hk]
    split at h
    · next hwritten =>
      cases h
      exact if_pos hwritten
    · cases h

/-- A group is opened inside another one as it is outside, unless its name is refused. -/
theorem Reader.inside_readGroup (h : readGroup st s = some (st', r)) :
    readGroup (c.inside st) s = none ∨ readGroup (c.inside st) s = some (c.inside st', r) := by
  have hinside : (c.inside st).flags = st.flags := rfl
  cases groupForm_of_readGroup h with
  | name hname =>
    rw [readGroup_of_name hname] at h
    rw [readGroup_of_name (hinside ▸ hname)]
    obtain ⟨⟨name, rest⟩, hread, ⟨⟩⟩ := Option.map_eq_some_iff.1 h
    have hnames : (c.inside st).names = st.names ++ c.names := rfl
    rw [hnames]
    rcases readGroupName_inside hread c.names with hnone | hsome
    · rw [hnone]
      exact .inl rfl
    · rw [hsome, Option.map_some, inside_openCapture]
      exact .inr rfl
  | flags hflags =>
    rw [readGroup_of_flags hflags] at h
    rw [readGroup_of_flags (hinside ▸ hflags)]
    obtain ⟨⟨flags, written, k, rest⟩, hread, h⟩ := Option.bind_eq_some_iff.1 h
    obtain ⟨st', hopened, ⟨⟩⟩ := Option.map_eq_some_iff.1 h
    refine .inr ?_
    rw [hinside, hread, Option.bind_some, inside_withFlags hopened]
    rfl
  | plain hplain =>
    rw [readGroup_of_plain hplain] at h
    cases h
    rw [readGroup_of_plain (hinside ▸ hplain), inside_openCapture]
    exact .inr rfl

/-- A character or an escape has no groups. -/
theorem groups_of_regex? {f : Flags} {x : Primitive} {regex : Regex}
    (h : x.regex? f = some regex) : regex.groups = [] := by
  unfold Primitive.regex? at h
  split at h
  · cases h
    rfl
  · cases h
    rfl
  · repeat' split at h
    all_goals cases h
    all_goals rfl

/-- A part is read inside a group as it is read by itself, unless it is refused there. -/
theorem Reader.inside_readPart {k : Char} (h : readPart st k s = some (st', r)) :
    readPart (c.inside st) k s = none ∨ readPart (c.inside st) k s = some (c.inside st', r) := by
  have hinside : (c.inside st).flags = st.flags := rfl
  cases partStep_of_readPart h with
  | group hgroup => exact inside_readGroup hgroup
  | close hclose => exact .inr (by simp only [readPart, inside_closeGroup hclose, Option.map_some])
  | branch =>
    refine .inr ?_
    simp [readPart, Reader.inside, Level.renumbered, Level.nextBranch, ← Level.renumbered_branch]
  | @brackets cs height _ hclass =>
    have hpush : (c.inside st).push (.set cs) height = c.inside (st.push (.set cs) height) :=
      c.inside_push st rfl height
    exact .inr (by simp [readPart, hinside, hclass, hpush])
  | sign hc hsign =>
    rw [hc]
    exact .inr (inside_readSign hsign)
  | bounds hbounds hrepeat =>
    have hmore := inside_repeatPart (c := c) hrepeat
    exact .inr (by simp [readPart, hinside, hbounds, hmore])
  | @dot cs hdot =>
    have hpush : (c.inside st).push (.set cs) 0 = c.inside (st.push (.set cs) 0) :=
      c.inside_push st rfl 0
    exact .inr (by simp [readPart, hinside, hdot, hpush])
  | anchor look hc =>
    rw [hc, hinside, c.inside_push st rfl]
    exact .inr rfl
  | escape hescape hregex =>
    have hpush := c.inside_push st (groups_of_regex? hregex) 0
    exact .inr (by simp [readPart, hinside, hescape, hregex, hpush])
  | char hc hregex =>
    rw [hc, hinside, hregex, Option.bind_some, c.inside_push st (groups_of_regex? hregex)]
    exact .inr rfl

/-- At the end of a text the reader stays as it is. -/
theorem readParts_end (st : Reader) : readParts st [] = some st := by
  rw [readParts, skipSpace_nil]

/-- A closing parenthesis is not skipped. -/
theorem skipSpace_close (v : Bool) (u : Text) : skipSpace v (')' :: u) = ')' :: u := by
  cases v <;> simp [skipSpace, takeSpaced, isSpace_parenthesis]

/-- An expression that is read by itself, inside a group. If it is not refused there, then the reader
comes to the end of the group as it comes to the end of the text by itself; or else the text ends in a
comment, and the reader goes on in the comment. -/
theorem readParts_inside (h : readParts st s = some st') :
    (∀ c u x, readParts (Reader.inside c st) (s ++ ')' :: u) = some x →
      readParts (c.inside st') (')' :: u) = some x) ∨
    ∀ c u x, '\n' ∉ u → readParts (Reader.inside c st) (s ++ ')' :: u) = some x →
      x = c.inside st' := by
  have hflags : ∀ (c st : Reader), (c.inside st).flags = st.flags := fun _ _ => rfl
  fun_induction readParts st s with
  | case1 st₁ s hskip =>
    cases h
    rcases skipSpace_stops () st'.flags.verbose s with hstops | ⟨-, hstops⟩
    · refine .inl fun c u x hx => ?_
      have hclose := (Prod.mk.inj (Option.some.inj (hstops u))).2
      rw [hskip, List.nil_append] at hclose
      rw [readParts, hflags, hclose] at hx
      rw [readParts, hflags, skipSpace_close]
      simp only [readPart] at hx ⊢
      cases hgroup : (c.inside st').closeGroup with
      | none =>
        rw [hgroup] at hx
        cases hx
      | some st₁ =>
        rw [hgroup] at hx
        simp only [Option.map_some] at hx ⊢
        split at hx
        · simpa using hx
        · cases hx
    · refine .inr fun c u x hu hx => ?_
      have hcomment := (Prod.mk.inj (Option.some.inj (hstops u hu))).2
      rw [readParts, hflags, hcomment] at hx
      exact (Option.some.inj hx).symm
  | case2 | case4 => cases h
  | case3 st₀ s k t hskip st₁ rest hpart hlt ih =>
    -- the first part, and then the others
    have hstep : ∀ {c u x rest'}, readPart st₀ k (t ++ ')' :: u) = some (st₁, rest') →
        readParts (Reader.inside c st₀) (s ++ ')' :: u) = some x →
        readParts (c.inside st₁) rest' = some x := by
      intro c u x rest' hread hx
      rw [readParts, hflags, skipSpace_append hskip] at hx
      simp only at hx
      rcases Reader.inside_readPart (c := c) hread with hnone | hsome
      · rw [hnone] at hx
        cases hx
      · rw [hsome] at hx
        simp only at hx
        split at hx
        · exact hx
        · cases hx
    rcases readPart_stops hpart with hstops | ⟨rfl, hstops⟩
    · rcases ih h with hclose | hcomment
      · exact .inl fun c u x hx => hclose c u x (hstep (hstops u) hx)
      · exact .inr fun c u x hu hx => hcomment c u x hu (hstep (hstops u) hx)
    · rw [readParts_end] at h
      cases h
      refine .inr fun c u x hu hx => ?_
      have hend := hstep (hstops u hu) hx
      rw [readParts_end] at hend
      exact (Option.some.inj hend).symm

/-- The reader at the start of a text. -/
def Reader.start (ignoreCase : Bool) : Reader := ⟨.initial ignoreCase, 0, [], .empty, []⟩

/-- Inside a group that has just been opened a reader starts afresh. -/
theorem Reader.inside_start {ic : Bool} (hflags : c.flags = .initial ic) (hlevel : c.level = .empty) :
    c.inside (.start ic) = c := by
  obtain ⟨flags, captures, names, level, outer⟩ := c
  cases hflags
  cases hlevel
  rfl

/-- An expression that is read by itself and between the ends of a text comes to the end of every
group that it stands in, unless it is refused there. -/
theorem readParts_group {ic : Bool} (h : readParts (.start ic) s = some st)
    (hwhole : (read ic ("^(?:".toList ++ s ++ ")$".toList)).isSome) {c x : Reader} {u : Text}
    (hflags : c.flags = .initial ic) (hlevel : c.level = .empty)
    (hx : readParts c (s ++ ')' :: u) = some x) : readParts (c.inside st) (')' :: u) = some x := by
  rcases readParts_inside h with hclose | hcomment
  · rw [← Reader.inside_start hflags hlevel] at hx
    exact hclose c u x hx
  · -- in a comment the group of the whole text would be left open
    exfalso
    let opened := ((Reader.start ic).push (.look .textStart) 0).openGroup .plain (.initial ic)
    have hopened : readParts (.start ic) ("^(?:".toList ++ s ++ ")$".toList) =
        readParts opened (s ++ ')' :: ['$']) := by
      have hopen : readPart ((Reader.start ic).push (.look .textStart) 0) '('
          ('?' :: ':' :: (s ++ ')' :: ['$'])) = some (opened, s ++ ')' :: ['$']) := by
        simp [readPart, readGroup, Reader.push, Reader.start, readFlags, skipSpace_false,
          Flags.initial, opened]
      have hanchor : readPart (.start ic) '^' ('(' :: '?' :: ':' :: (s ++ ')' :: ['$'])) =
          some ((Reader.start ic).push (.look .textStart) 0,
            '(' :: '?' :: ':' :: (s ++ ')' :: ['$'])) := rfl
      show readParts (.start ic) ('^' :: '(' :: '?' :: ':' :: (s ++ ')' :: ['$'])) = _
      rw [readParts_cons rfl hanchor (Nat.le_refl _), readParts_cons rfl hopen (by simp)]
    obtain ⟨r, hr⟩ := Option.isSome_iff_exists.1 hwhole
    obtain ⟨y, hy, hr⟩ := Option.bind_eq_some_iff.1 hr
    have hy : readParts (.start ic) ("^(?:".toList ++ s ++ ")$".toList) = some y := hy
    have hstart : opened.inside (.start ic) = opened := Reader.inside_start rfl rfl
    rw [hopened, ← hstart] at hy
    obtain rfl := hcomment opened ['$'] y (by decide) hy
    have houter : ((opened.inside st).outer.isEmpty) = false := by
      simp [Reader.inside, opened, Reader.openGroup]
    simp [houter] at hr

end

end NestedRouting.Regex
