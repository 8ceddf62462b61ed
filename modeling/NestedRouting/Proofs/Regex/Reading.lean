import NestedRouting.Pattern.Recognizer
import NestedRouting.Regex.Reader

/-!
# Reading fragments of expressions

`Reads` says which parts a fragment of a regular expression is read as, wherever it stands;
fragments compose by `Reads.append`, and there is one lemma for each form a fragment can have: a
character, an escaped character, a dot, a class, an anchor, a group with what repeats it. No
fragment here sets flags, so those of the start hold throughout. The parts of a branch make an
expression (`Part.joined`), and a whole text that is read as some parts is read as their expression
(`read_of_reads`).
-/

namespace NestedRouting.Regex

/-! ## Parts -/

/-- Expressions one behind the other. -/
def inSequence : List Regex → Regex
  | [] => .empty
  | r :: rs => rs.foldl .seq r

namespace Part

/-- A part that is not nested. -/
def plain (r : Regex) : Part := ⟨r, 0, false⟩

/-- The parts of a branch as one. -/
def joined (ps : List Part) : Part := (Level.mk [] ps.reverse).branch

/-- A part in parentheses. -/
def wrapped (kind : GroupKind) (p : Part) : Part := ⟨kind.wrap p.regex, p.height + 1, false⟩

/-- A part with its repetition. -/
def repeated (least : Nat) (most : Option Nat) (greedy : Bool) (p : Part) : Part :=
  ⟨Regex.repeated p.regex least most greedy, p.height + 1, false⟩

/-- A part with the repetition that a modifier asks for. -/
def modified (m : Modifier) (p : Part) : Part :=
  match m with
  | none => p
  | some .optional => p.repeated 0 (some 1) true
  | some .zeroOrMore => p.repeated 0 none true
  | some .oneOrMore => p.repeated 1 none true

/-- Parts without directives make the sequence of their expressions. -/
theorem joined_regex {ps : List Part} (h : ∀ p ∈ ps, p.directive = false) :
    (joined ps).regex = inSequence (ps.map Part.regex) := by
  cases ps with
  | nil => rfl
  | cons p ps =>
    cases ps with
    | nil => rfl
    | cons q ps =>
      have hfilter : (p :: q :: ps).reverse.filter (!·.directive) = (p :: q :: ps).reverse :=
        List.filter_eq_self.2 fun x hx => by simp [h x (List.mem_reverse.1 hx)]
      -- a branch of more than one part is put in sequence
      obtain ⟨x, y, zs, hreverse⟩ : ∃ x y zs, (p :: q :: ps).reverse = x :: y :: zs := by
        have hlength : (p :: q :: ps).reverse.length = ps.length + 2 := List.length_reverse
        cases hreverse : (p :: q :: ps).reverse with
        | nil =>
          rw [hreverse] at hlength
          cases hlength
        | cons x xs =>
          cases xs with
          | nil =>
            rw [hreverse, List.length_singleton] at hlength
            omega
          | cons y zs => exact ⟨x, y, zs, rfl⟩
      unfold joined Level.branch
      simp only [hfilter, List.reverse_reverse]
      rw [hreverse]
      simp [inSequence, List.foldl_map]

end Part

/-! ## Fragments -/

/-- A reader that has read some more parts, with some more named groups. -/
def Reader.extend (st : Reader) (parts : List Part) (names : List Text) : Reader :=
  { st with
    captures := st.captures + names.length
    names := names.reverse ++ st.names
    level := { st.level with parts := parts.reverse ++ st.level.parts } }

/-- A fragment in front of `rest` is read as some parts, behind `captures` groups. It opens groups
with some names, which must be new. -/
def ReadsBefore (rest : Text) (ignoreCase : Bool) (captures : Nat) (source : Text)
    (parts : List Part) (names : List Text) : Prop :=
  ∀ st : Reader, st.flags = .initial ignoreCase → st.captures = captures →
    names.Nodup → (∀ x ∈ names, x ∉ st.names) →
    readParts st (source ++ rest) = readParts (st.extend parts names) rest

/-- A fragment is read as some parts wherever it stands, except in front of the sign that makes a
repetition lazy. -/
def Reads (ignoreCase : Bool) (captures : Nat) (source : Text) (parts : List Part)
    (names : List Text) : Prop :=
  ∀ rest : Text, rest.head? ≠ some '?' →
    ReadsBefore rest ignoreCase captures source parts names

section
variable {ic : Bool} {m : Nat} {st : Reader} {s t rest : Text} {ps qs : List Part}
  {xs ys : List Text}

/-- Outside verbose mode no white space is skipped on the way. -/
theorem takeSpaced_nothing (s : Text) : takeSpaced (fun _ => false) false false s = ([], s) := by
  cases s <;> rfl

/-- Outside verbose mode white space stands for itself. -/
theorem skipSpace_false (s : Text) : skipSpace false s = s := by
  rw [skipSpace, takeSpaced_nothing]

/-- At the end of a text nothing more is read. -/
theorem readParts_nil (h : st.flags = .initial ic) : readParts st [] = some st := by
  rw [readParts, h]
  simp [Flags.initial, skipSpace_false]

/-- Reading goes on behind the first part. -/
theorem readParts_cons {c : Char} {st' : Reader} (h : st.flags = .initial ic)
    (hp : readPart st c s = some (st', rest)) (hle : rest.length ≤ s.length) :
    readParts st (c :: s) = readParts st' rest := by
  rw [readParts, h]
  simp only [Flags.initial, skipSpace_false, hp, List.length_cons, Nat.lt_succ_of_le hle, if_true]

@[simp] theorem Reader.extend_captures : (st.extend ps xs).captures = st.captures + xs.length := rfl

@[simp] theorem Reader.extend_names : (st.extend ps xs).names = xs.reverse ++ st.names := rfl

/-- Some more parts, and then some more. -/
theorem Reader.extend_extend :
    (st.extend ps xs).extend qs ys = st.extend (ps ++ qs) (xs ++ ys) := by
  simp [Reader.extend, Nat.add_assoc]

/-- A text does not start with a character if neither of its parts does. -/
theorem head?_append_ne {c : Char} (hs : s.head? ≠ some c) (ht : t.head? ≠ some c) :
    (s ++ t).head? ≠ some c := by
  cases s with
  | nil => exact ht
  | cons => exact hs

theorem Reads.nil : Reads ic m [] [] [] := fun _ _ _ _ _ _ _ => rfl

/-- One fragment behind the other is read as the parts of both. -/
theorem Reads.append (hs : Reads ic m s ps xs) (ht : Reads ic (m + xs.length) t qs ys)
    (hhead : t.head? ≠ some '?') : Reads ic m (s ++ t) (ps ++ qs) (xs ++ ys) := by
  intro rest hrest st hf hm hnodup hnew
  obtain ⟨hx, hy, hxy⟩ := List.nodup_append.1 hnodup
  have hhead' : (t ++ rest).head? ≠ some '?' := head?_append_ne hhead hrest
  have hy' : ∀ y ∈ ys, y ∉ (st.extend ps xs).names := by
    intro y h hmem
    rw [Reader.extend_names, List.mem_append, List.mem_reverse] at hmem
    rcases hmem with hmem | hmem
    · exact hxy y hmem y h rfl
    · exact hnew y (List.mem_append_right _ h) hmem
  rw [List.append_assoc, hs _ hhead' st hf hm hx fun x h => hnew x (List.mem_append_left _ h),
    ht rest hrest (st.extend ps xs) hf (by rw [Reader.extend_captures, hm]) hy hy',
    Reader.extend_extend]

/-! ## Characters, anchors and classes -/

/-- A fragment that is read in one step, as one part. -/
theorem ReadsBefore.of_readPart {c : Char} {r : Regex} {height : Nat}
    (h : ∀ st, st.flags = .initial ic → readPart st c (s ++ rest) = some (st.push r height, rest)) :
    ReadsBefore rest ic m (c :: s) [⟨r, height, false⟩] [] := by
  intro st hf _ _ _
  rw [List.cons_append, readParts_cons hf (h st hf) (by simp)]
  rfl

/-- The expression of a character that means itself. -/
def ofChar (ignoreCase : Bool) (c : Char) : Regex :=
  .set (if ignoreCase then .alike c else .single c)

/-- A special character with a backslash in front means itself. -/
theorem Reads.escaped {c : Char} (hc : isRegexSpecial c = true) :
    Reads ic m ['\\', c] [.plain (ofChar ic c)] [] := by
  intro rest _
  refine .of_readPart fun st hf => ?_
  have hescape : readEscape st.flags (c :: rest) = some (.literal c false, rest) := by
    simp only [isRegexSpecial, Bool.or_eq_true, beq_iff_eq, or_assoc] at hc
    rcases hc with rfl | rfl | rfl | rfl | rfl | rfl | rfl | rfl | rfl | rfl | rfl | rfl | rfl | rfl |
      rfl | rfl | rfl | rfl <;> rfl
  simp only [readPart, List.cons_append, List.nil_append, hescape]
  rw [hf]
  rfl

/-- A character that is not special means itself. -/
theorem Reads.char {c : Char} (hc : isRegexSpecial c = false) :
    Reads ic m [c] [.plain (ofChar ic c)] [] := by
  intro rest _
  refine .of_readPart fun st hf => ?_
  simp only [isRegexSpecial, Bool.or_eq_false_iff, beq_eq_false_iff_ne] at hc
  unfold readPart
  split
  case h_13 =>
    rw [hf]
    rfl
  all_goals simp_all

/-- The anchor of the start of the text. -/
theorem Reads.textStart : Reads ic m ['^'] [.plain (.look .textStart)] [] := fun _ _ =>
  .of_readPart fun st hf => by
    simp only [readPart, hf]
    rfl

/-- The anchor of the end of the text. -/
theorem Reads.textEnd : Reads ic m ['$'] [.plain (.look .textEnd)] [] := fun _ _ =>
  .of_readPart fun st hf => by
    simp only [readPart, hf]
    rfl

/-- A dot stands for everything but a line feed. -/
theorem ReadsBefore.dot :
    ReadsBefore rest ic m ['.'] [.plain (.set (.compl (.single '\n')))] [] :=
  .of_readPart fun st hf => by
    simp only [readPart, hf]
    rfl

/-! ### Classes -/

/-- The set of the items of a class, one character each. -/
def ofItems : List Char → CharSet
  | [] => .empty
  | c :: cs => cs.foldl (fun set d => .union set (.single d)) (.single c)

/-- A character that means nothing else in a class is an item of it. -/
theorem readBrackets_item {f : Flags} {b : Bracket} {c d : Char}
    (hv : f.verbose = false) (hu : f.unicode = true) (hd : d ≠ '-')
    (hc : c ∉ ['-', ']', '[', '&', '~', '\\']) :
    readBrackets f b [] (c :: d :: s) = readBrackets f (b.push (.single c) 0) [] (d :: s) := by
  have hrange : readRange f (c :: d :: s) = some (.single c, d :: s) := by
    simp_all [readRange, takePrimitive, skipSpace_false, Primitive.classSet?, Primitive.char?]
  rw [readBrackets, hv, skipSpace_false]
  simp_all [classStep]

/-- The set of the delimiters of a path. -/
def delimiters (ignoreCase : Bool) : CharSet :=
  (Flags.initial ignoreCase).foldSet (ofItems ['/', '#', '?'])

/-- The delimiters are put into a class one after the other. -/
theorem readBrackets_delimiters (ic : Bool) (b : Bracket) (rest : Text) :
    readBrackets (.initial ic) b [] ("/#?]".toList ++ rest) = readBrackets (.initial ic)
      (((b.push (.single '/') 0).push (.single '#') 0).push (.single '?') 0) [] (']' :: rest) := by
  show readBrackets (.initial ic) b [] ('/' :: '#' :: '?' :: ']' :: rest) = _
  rw [readBrackets_item rfl rfl (by decide) (by decide),
    readBrackets_item rfl rfl (by decide) (by decide),
    readBrackets_item rfl rfl (by decide) (by decide)]

/-- The class of the delimiters. -/
theorem readClass_delimiters (ic : Bool) (rest : Text) :
    readClass (.initial ic) ("/#?]".toList ++ rest) = some (delimiters ic, 2, rest) := by
  show readBrackets (.initial ic) ⟨false, true, none, .empty⟩ [] ("/#?]".toList ++ rest) = _
  rw [readBrackets_delimiters, readBrackets]
  rfl

/-- The class of everything but the delimiters. -/
theorem readClass_others (ic : Bool) (rest : Text) :
    readClass (.initial ic) ("^/#?]".toList ++ rest) = some (.compl (delimiters ic), 2, rest) := by
  show readBrackets (.initial ic) ⟨true, true, none, .empty⟩ [] ("/#?]".toList ++ rest) = _
  rw [readBrackets_delimiters, readBrackets]
  rfl

/-- A delimiter, as a part. -/
theorem ReadsBefore.delimiter :
    ReadsBefore rest ic m "[/#?]".toList [⟨.set (delimiters ic), 2, false⟩] [] :=
  .of_readPart (s := "/#?]".toList) fun st hf => by
    have h := readClass_delimiters ic rest
    simp only [readPart, hf, h]
    rfl

/-- A character that is no delimiter, as a part. -/
theorem ReadsBefore.other :
    ReadsBefore rest ic m "[^/#?]".toList [⟨.set (.compl (delimiters ic)), 2, false⟩] [] :=
  .of_readPart (s := "^/#?]".toList) fun st hf => by
    have h := readClass_others ic rest
    simp only [readPart, hf, h]
    rfl

/-! ## Repetitions -/

/-- The sign behind a part repeats it. -/
theorem ReadsBefore.sign {p : Part} {c : Char} {least : Nat} {most : Option Nat}
    (h : ReadsBefore (c :: t ++ rest) ic m s [p] xs) (hp : p.directive = false)
    (hc : ∀ st s, readPart st c s = readSign st least most s) (greedy : Bool)
    (ht : takeLazy (t ++ rest) = (greedy, rest)) :
    ReadsBefore rest ic m (s ++ c :: t) [p.repeated least most greedy] xs := by
  intro st hf hm hnodup hnew
  rw [List.append_assoc, h st hf hm hnodup hnew, List.cons_append]
  have hf' : (st.extend [p] xs).flags = .initial ic := hf
  refine readParts_cons hf' ?_ (by simp)
  rw [hc, readSign, ht]
  have hgreed : st.flags.swapGreed = false := by rw [hf]; rfl
  simp [repeatPart, Reader.extend, hp, hgreed, Part.repeated]

/-- A repetition is greedy if no question mark follows. -/
theorem takeLazy_of_head_ne (h : rest.head? ≠ some '?') : takeLazy rest = (true, rest) := by
  unfold takeLazy
  split
  · exact absurd rfl h
  · rfl

/-- The text of a modifier behind a part repeats it, greedily. -/
theorem ReadsBefore.modified {p : Part} {modifier : Modifier}
    (h : ReadsBefore (modifier.text ++ rest) ic m s [p] xs) (hp : p.directive = false)
    (hrest : rest.head? ≠ some '?') :
    ReadsBefore rest ic m (s ++ modifier.text) [p.modified modifier] xs := by
  have hlazy := takeLazy_of_head_ne hrest
  cases modifier with
  | none =>
    rw [Modifier.text, List.nil_append] at h
    rwa [Modifier.text, List.append_nil]
  | some q =>
    cases q <;> exact .sign h hp (fun _ _ => rfl) true hlazy

/-! ## Groups -/

/-- A fragment that ends a group is read as the rest of what stands inside, behind some branches,
the latest first. -/
def ReadsInside (ignoreCase : Bool) (captures : Nat) (earlier : List Part) (source : Text)
    (whole : Part) (names : List Text) : Prop :=
  ∀ (st : Reader) (rest : Text), st.flags = .initial ignoreCase → st.captures = captures →
    st.level = ⟨earlier, []⟩ → names.Nodup → (∀ x ∈ names, x ∉ st.names) →
    ∃ level : Level, level.close = whole ∧
      readParts st (source ++ ')' :: rest) =
        readParts { st.extend [] names with level } (')' :: rest)

/-- The last branch of a group. -/
theorem Reads.inside (h : Reads ic m s ps xs) (earlier : List Part) :
    ReadsInside ic m earlier s (Level.mk earlier ps.reverse).close xs := by
  intro st rest hf hm hlevel hnodup hnew
  refine ⟨⟨earlier, ps.reverse⟩, rfl, ?_⟩
  rw [h _ (by simp) st hf hm hnodup hnew]
  simp [Reader.extend, hlevel]

/-- A branch in front of others. -/
theorem Reads.branch {earlier : List Part} {whole : Part} (h : Reads ic m s ps xs)
    (ht : ReadsInside ic (m + xs.length) (Part.joined ps :: earlier) t whole ys) :
    ReadsInside ic m earlier (s ++ '|' :: t) whole (xs ++ ys) := by
  intro st rest hf hm hlevel hnodup hnew
  obtain ⟨hx, hy, hxy⟩ := List.nodup_append.1 hnodup
  have hbranch : readPart (st.extend ps xs) '|' (t ++ ')' :: rest) =
      some ({ st.extend ps xs with level := ⟨Part.joined ps :: earlier, []⟩ },
        t ++ ')' :: rest) := by
    simp [readPart, Reader.extend, Level.nextBranch, hlevel, Part.joined, Level.branch]
  have hy' : ∀ y ∈ ys, y ∉ (st.extend ps xs).names := by
    intro y hmem h
    rcases List.mem_append.1 h with h | h
    · exact hxy y (List.mem_reverse.1 h) y hmem rfl
    · exact hnew y (List.mem_append_right _ hmem) h
  obtain ⟨level, hclose, hread⟩ := ht
    { st.extend ps xs with level := ⟨Part.joined ps :: earlier, []⟩ } rest hf
    (congrArg (· + xs.length) hm) rfl hy hy'
  refine ⟨level, hclose, ?_⟩
  have hf' : (st.extend ps xs).flags = .initial ic := hf
  rw [List.append_assoc, List.cons_append,
    h _ (by simp) st hf hm hx fun x h => hnew x (List.mem_append_left _ h),
    readParts_cons hf' hbranch (Nat.le_refl _), hread]
  simp [Reader.extend, Nat.add_assoc]

/-- A group that closes. -/
theorem readParts_close {kind : GroupKind} {flags : Flags} {level : Level}
    {outer : List (GroupKind × Flags × Level)} (hflags : st.flags = .initial ic)
    (houter : st.outer = (kind, flags, level) :: outer) :
    readParts st (')' :: rest) =
      readParts { st with
        flags, outer
        level := { level with parts := st.level.close.wrapped kind :: level.parts } } rest := by
  refine readParts_cons hflags ?_ (Nat.le_refl _)
  simp [readPart, Reader.closeGroup, houter, Reader.push, Part.wrapped]

/-- A group without a name. -/
theorem ReadsInside.group {whole : Part} (h : ReadsInside ic m [] s whole xs) (rest : Text) :
    ReadsBefore rest ic m ("(?:".toList ++ s ++ ")".toList) [whole.wrapped .plain] xs := by
  intro st hf hm hnodup hnew
  have hopen : readPart st '(' ("?:".toList ++ s ++ ")".toList ++ rest) =
      some (st.openGroup .plain st.flags, s ++ (')' :: rest)) := by
    simp only [readPart, readGroup, hf]
    simp [readFlags, skipSpace_false, Flags.initial]
  obtain ⟨level, rfl, hread⟩ := h (st.openGroup .plain st.flags) rest hf hm rfl hnodup hnew
  show readParts st ('(' :: ("?:".toList ++ s ++ ")".toList ++ rest)) = _
  rw [readParts_cons hf hopen (by simp; omega), hread]
  exact readParts_close hf rfl

/-- A name that a group can have. -/
structure IsGroupName (name : Text) : Prop where
  first : ∃ c cs, name = c :: cs ∧ isGroupNameChar true c = true
  all : ∀ c ∈ name, isGroupNameChar false c = true

/-- A name is cut off at the bracket behind it. -/
theorem cutAt?_append {name : Text} (h : '>' ∉ name) :
    cutAt? ['>'] (name ++ '>' :: rest) = some (name, rest) := by
  induction name with
  | nil => simp [cutAt?]
  | cons c name ih =>
    obtain ⟨hc, hname⟩ := not_or.1 (mt List.mem_cons.2 h)
    simp [cutAt?, ih hname, hc]

/-- A name that can be that of a group is read as one if it is new. -/
theorem readGroupName_append {name : Text} {names : List Text} (h : IsGroupName name)
    (hnew : name ∉ names) : readGroupName names (name ++ '>' :: rest) = some (name, rest) := by
  have hangle : '>' ∉ name := fun hmem => by
    have := h.all _ hmem
    revert this
    decide
  obtain ⟨c, cs, rfl, hc⟩ := h.first
  have hall : cs.all (isGroupNameChar false) = true :=
    List.all_eq_true.2 fun d hd => h.all d (.tail _ hd)
  rw [readGroupName, cutAt?_append hangle]
  simp [hc, hall, hnew]

/-- A group with a name. -/
theorem ReadsInside.capture {whole : Part} {name : Text}
    (h : ReadsInside ic (m + 1) [] s whole xs) (hname : IsGroupName name) (rest : Text) :
    ReadsBefore rest ic m ("(?P<".toList ++ name ++ ">".toList ++ s ++ ")".toList)
      [whole.wrapped (.capture (m + 1) (some name))] (name :: xs) := by
  intro st hf hm hnodup hnew
  subst hm
  obtain ⟨hfresh, hnodup⟩ := List.nodup_cons.1 hnodup
  have hread : readGroupName st.names (name ++ '>' :: (s ++ (')' :: rest))) =
      some (name, s ++ (')' :: rest)) := readGroupName_append hname (hnew name (.head _))
  have hopen : readPart st '(' ("?P<".toList ++ name ++ ">".toList ++ s ++ ")".toList ++ rest) =
      some (st.openCapture (some name), s ++ (')' :: rest)) := by
    simp only [readPart, readGroup, hf]
    simp [skipSpace_false, Flags.initial, hread]
  have hnew' : ∀ x ∈ xs, x ∉ (st.openCapture (some name)).names := by
    intro x hx hmem
    rcases List.mem_cons.1 hmem with rfl | hmem
    · exact hfresh hx
    · exact hnew x (.tail _ hx) hmem
  obtain ⟨level, rfl, hread⟩ := h (st.openCapture (some name)) rest hf rfl rfl hnodup hnew'
  show readParts st
    ('(' :: ("?P<".toList ++ name ++ ">".toList ++ s ++ ")".toList ++ rest)) = _
  rw [readParts_cons hf hopen (by simp; omega), hread]
  have hf' : { (st.openCapture (some name)).extend [] xs with level }.flags = .initial ic := hf
  refine (readParts_close hf' rfl).trans ?_
  simp [Reader.extend, Reader.openCapture, Reader.openGroup, Nat.add_assoc, Nat.add_comm 1]

/-! ## Whole expressions -/

/-- A text that is read as some parts is read as their expression, unless it is nested too deeply.
-/
theorem read_of_reads (h : Reads ic 0 s ps xs) (hxs : xs.Nodup)
    (hps : ∀ p ∈ ps, p.directive = false)
    (hheight : (Part.joined ps).height ≤ nestLimit) :
    read ic s = some (inSequence (ps.map Part.regex)) := by
  have hparts : readParts ⟨.initial ic, 0, [], .empty, []⟩ s =
      some ((Reader.mk (.initial ic) 0 [] .empty []).extend ps xs) := by
    have hread := h [] (by simp) ⟨.initial ic, 0, [], .empty, []⟩ rfl rfl hxs (by simp)
    have hflags : ((Reader.mk (.initial ic) 0 [] .empty []).extend ps xs).flags = .initial ic := rfl
    rw [List.append_nil] at hread
    rw [hread, readParts_nil hflags]
  have hclose : ((Reader.mk (.initial ic) 0 [] .empty []).extend ps xs).level.close =
      Part.joined ps := by
    simp [Reader.extend, Level.empty, Level.close, Part.joined]
  simp only [read, hparts, Option.bind_eq_bind, Option.bind_some, hclose]
  rw [if_pos (by simpa [Reader.extend] using hheight), Part.joined_regex hps]

end

end NestedRouting.Regex
