import NestedRouting.Regex.Reader

/-!
# The steps of a reader

An expression is read part by part, and a part is read by the character that it starts with. `PartStep`
has one constructor for each way to do so, with what is read there and what becomes of the reader, and
every part is read in one of these ways (`partStep_of_readPart`). Behind the parenthesis of a group
stands a name, or flags, or the group itself (`GroupForm`), and in each case one equation says how the
group is opened.
-/

namespace NestedRouting.Regex

variable {st st' : Reader} {s t r : Text}

/-! ## The start of a group -/

/-- Whether a text opens a group with a name, which stands at the start of `t`. -/
inductive OpensName (t : Text) : Text → Prop
  | named : OpensName t ('?' :: 'P' :: '<' :: t)
  /-- Behind the angle no assertion stands. -/
  | angled : t.head? ≠ some '=' → t.head? ≠ some '!' → OpensName t ('?' :: '<' :: t)

/-- Whether a text opens a group with flags, which stand at the start of `t`. -/
inductive OpensFlags : Text → Text → Prop
  | intro {d : Char} {t : Text} : d ∉ ['=', '!', '<', 'P'] → OpensFlags (d :: t) ('?' :: d :: t)

/-- What can stand behind the parenthesis of a group. -/
inductive GroupForm (s : Text) : Prop
  | name {t : Text} : OpensName t s → GroupForm s
  | flags {t : Text} : OpensFlags t s → GroupForm s
  | plain : s.head? ≠ some '?' → GroupForm s

/-- A reader behind flags, which end with `c`: they hold in the group that is opened, or from then on. -/
def Reader.withFlags (st : Reader) (flags : Flags) (written : Bool) (c : Char) : Option Reader :=
  if c = ':' then some (st.openGroup .plain flags)
  else if written then
    some { st with
      flags := flags
      level := { st.level with parts := ⟨.empty, 0, true⟩ :: st.level.parts } }
  else none

/-- A group with a name is opened if the name can be read. -/
theorem readGroup_of_name (h : OpensName t (skipSpace st.flags.verbose s)) : readGroup st s =
    (readGroupName st.names t).map fun x => (st.openCapture (some x.1), x.2) := by
  unfold readGroup
  generalize skipSpace st.flags.verbose s = u at h
  cases h with
  | named => rfl
  | angled hahead hdenied =>
    cases t with
    | nil => rfl
    | cons d t =>
      have hequals : ∀ t', d :: t = '=' :: t' → False := fun _ heq => hahead (by rw [heq]; rfl)
      have hbang : ∀ t', d :: t = '!' :: t' → False := fun _ heq => hdenied (by rw [heq]; rfl)
      simp only

/-- A group with flags is opened if the flags can be read. -/
theorem readGroup_of_flags (h : OpensFlags t (skipSpace st.flags.verbose s)) :
    readGroup st s = (readFlags st.flags [] true t).bind fun x =>
      (st.withFlags x.1 x.2.1 x.2.2.1).map (·, x.2.2.2) := by
  unfold readGroup
  generalize skipSpace st.flags.verbose s = u at h
  obtain @⟨d, t, hd⟩ := h
  simp only [List.mem_cons, List.not_mem_nil, or_false, not_or] at hd
  obtain ⟨hequals, hbang, hangle, hname⟩ := hd
  split
  case h_7 heq =>
    obtain rfl := (List.cons.inj heq).2
    cases readFlags st.flags [] true (d :: t) with
    | none => rfl
    | some x =>
      obtain ⟨flags, written, c, rest⟩ := x
      by_cases hc : c = ':'
      · subst hc
        rfl
      · cases written <;> simp [Reader.withFlags, hc]
  all_goals simp_all

/-- A parenthesis without a question mark opens a capturing group without a name. -/
theorem readGroup_of_plain (h : (skipSpace st.flags.verbose s).head? ≠ some '?') :
    readGroup st s = some (st.openCapture none, skipSpace st.flags.verbose s) := by
  unfold readGroup
  split <;> simp_all

/-- Where a group is opened, one of the forms stands. -/
theorem groupForm_of_readGroup (h : readGroup st s = some (st', r)) :
    GroupForm (skipSpace st.flags.verbose s) := by
  unfold readGroup at h
  generalize skipSpace st.flags.verbose s = u at h ⊢
  by_cases hquestion : u.head? = some '?'
  · obtain ⟨t, rfl⟩ := List.head?_eq_some_iff.1 hquestion
    cases t with
    | nil => cases h
    | cons d t =>
      by_cases hflags : d ∈ ['=', '!', '<', 'P']
      · simp only [List.mem_cons, List.not_mem_nil, or_false] at hflags
        rcases hflags with rfl | rfl | rfl | rfl
        -- an assertion, which is refused
        · cases h
        · cases h
        · refine .name (.angled (fun hahead => ?_) fun hdenied => ?_)
          · obtain ⟨t, rfl⟩ := List.head?_eq_some_iff.1 hahead
            cases h
          · obtain ⟨t, rfl⟩ := List.head?_eq_some_iff.1 hdenied
            cases h
        -- a `P`, which is not a flag
        · cases t with
          | nil => cases h
          | cons e t =>
            by_cases hangle : e = '<'
            · exact hangle ▸ .name .named
            · have hnone : readFlags st.flags [] true ('P' :: e :: t) = none := rfl
              split at h <;> simp_all
      · exact .flags (.intro hflags)
  · exact .plain hquestion

/-! ## Parts -/

/-- One step of a reader from the character that a part starts with: what becomes of the reader, and the
text that is left. -/
inductive PartStep (st : Reader) (s : Text) : Char → Reader → Text → Prop
  | group {st' : Reader} {r : Text} (hgroup : readGroup st s = some (st', r)) :
    PartStep st s '(' st' r
  | close {st' : Reader} (hclose : st.closeGroup = some st') : PartStep st s ')' st' s
  | branch : PartStep st s '|' { st with level := st.level.nextBranch } s
  | brackets {cs : CharSet} {height : Nat} {r : Text}
    (hclass : readClass st.flags s = some (cs, height, r)) :
    PartStep st s '[' (st.push (.set cs) height) r
  | sign {c : Char} {least : Nat} {most : Option Nat} {st' : Reader} {r : Text}
    (hc : ∀ st s, readPart st c s = readSign st least most s)
    (hsign : readSign st least most s = some (st', r)) : PartStep st s c st' r
  | bounds {least : Nat} {most : Option Nat} {r : Text} {st' : Reader}
    (hbounds : readBounds st.flags.verbose s = some (least, most, r))
    (hrepeat : repeatPart st least most (takeLazy (skipSpace st.flags.verbose r)).1 = some st') :
    PartStep st s '\x7b' st' (takeLazy (skipSpace st.flags.verbose r)).2
  | dot {cs : CharSet} (hdot : Regex.dot st.flags = some cs) :
    PartStep st s '.' (st.push (.set cs) 0) s
  /-- The character stands for the start or the end of a line or a text. -/
  | anchor {c : Char} (look : Flags → Look)
    (hc : ∀ st s, readPart st c s = some (st.push (.look (look st.flags)) 0, s)) :
    PartStep st s c (st.push (.look (look st.flags)) 0) s
  | escape {x : Primitive} {regex : Regex} {r : Text}
    (hescape : readEscape st.flags s = some (x, r)) (hregex : x.regex? st.flags = some regex) :
    PartStep st s '\\' (st.push regex 0) r
  /-- Every other character stands for itself. -/
  | char {c : Char} {regex : Regex}
    (hc : ∀ st s, readPart st c s =
      ((Primitive.literal c false).regex? st.flags).bind fun regex => some (st.push regex 0, s))
    (hregex : (Primitive.literal c false).regex? st.flags = some regex) :
    PartStep st s c (st.push regex 0) s

/-- What a reader does with a part is one of the steps. -/
theorem partStep_of_readPart {c : Char} (h : readPart st c s = some (st', r)) :
    PartStep st s c st' r := by
  unfold readPart at h
  simp only at h
  split at h
  case h_1 => exact .group h
  case h_2 =>
    obtain ⟨st', hclose, ⟨⟩⟩ := Option.map_eq_some_iff.1 h
    exact .close hclose
  case h_3 =>
    cases h
    exact .branch
  case h_4 =>
    obtain ⟨⟨cs, height, rest⟩, hclass, ⟨⟩⟩ := Option.bind_eq_some_iff.1 h
    exact .brackets hclass
  case h_5 | h_6 | h_7 => exact .sign (fun _ _ => rfl) h
  case h_8 =>
    obtain ⟨⟨least, most, rest⟩, hbounds, h⟩ := Option.bind_eq_some_iff.1 h
    obtain ⟨st', hrepeat, ⟨⟩⟩ := Option.bind_eq_some_iff.1 h
    exact .bounds hbounds hrepeat
  case h_9 =>
    obtain ⟨cs, hdot, ⟨⟩⟩ := Option.bind_eq_some_iff.1 h
    exact .dot hdot
  case h_10 =>
    cases h
    exact .anchor (fun f => if f.multiLine then .lineStart f.crlf else .textStart) fun _ _ => rfl
  case h_11 =>
    cases h
    exact .anchor (fun f => if f.multiLine then .lineEnd f.crlf else .textEnd) fun _ _ => rfl
  case h_12 =>
    obtain ⟨⟨x, rest⟩, hescape, h⟩ := Option.bind_eq_some_iff.1 h
    obtain ⟨regex, hregex, ⟨⟩⟩ := Option.bind_eq_some_iff.1 h
    exact .escape hescape hregex
  case h_13 =>
    obtain ⟨regex, hregex, ⟨⟩⟩ := Option.bind_eq_some_iff.1 h
    refine .char (fun st s => ?_) hregex
    simp only [readPart]
    rfl

end NestedRouting.Regex
