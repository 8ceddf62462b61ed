import NestedRouting.Proofs.Pattern.Groups
import NestedRouting.Proofs.Pattern.Matching
import NestedRouting.Proofs.Regex.Numbering

/-!
# Recognizers of keys with expressions of their own

A key may be written with an expression of its own, which stands in the recognizer between the
parentheses of the key's group. If the expression of every key can be read by itself, then the
recognizer is read as the parts of the tokens with those expressions in place of the values
(`customRegex`), or it is refused: what an expression does stays inside its group
(`recognizer_of_compile`). Only the numbers of groups depend on what comes before.
-/

namespace NestedRouting

open Regex

/-! ## Parts -/

section
variable (ignoreCase : Bool)

/-- The reader at the end of the expression of a key. -/
def ownReader (key : Key) : Reader :=
  (readParts (.start ignoreCase) key.pattern).getD (.start ignoreCase)

/-- The number of groups that the expression of a key opens. -/
def ownCaptures (key : Key) : Nat := (ownReader ignoreCase key).captures

/-- The expression of a key, behind `captures` groups. -/
def ownPart (captures : Nat) (key : Key) : Part :=
  (ownReader ignoreCase key).level.close.renumbered captures

/-- The group of a key, behind `captures` groups. -/
def customCapture (number captures : Nat) (p : Part) : Part :=
  p.wrapped (.capture (captures + 1) (some (keyGroup number)))

/-- The group of a key between the lead and the tail. -/
def customFramed (number captures : Nat) (key : Key) (p : Part) : Part :=
  (Part.joined (textParts ignoreCase key.lead ++
    ([customCapture number captures p] ++ textParts ignoreCase key.tail))).wrapped .plain

/-- What a repeated key captures: its expression, and then the expression again with what
separates two values. -/
def customRepeat (captures : Nat) (key : Key) : Part :=
  .joined [(ownPart ignoreCase captures key).wrapped .plain,
    ((Part.joined (textParts ignoreCase key.tail ++ (textParts ignoreCase key.lead ++
      [(ownPart ignoreCase (captures + ownCaptures ignoreCase key) key).wrapped .plain]))).wrapped
      .plain).modified (some .zeroOrMore)]

/-- Whether the expression of a key is written a second time, for more values. -/
def Key.isTwice (key : Key) : Bool :=
  !(key.lead.isEmpty && key.tail.isEmpty) && key.modifier.isRepeat

/-- The part of a key, behind `captures` groups. -/
def customPart (number captures : Nat) (key : Key) : Part :=
  if key.lead.isEmpty && key.tail.isEmpty then
    (customCapture number captures (ownPart ignoreCase (captures + 1) key)).modified key.modifier
  else if key.modifier.isRepeat then
    (customFramed ignoreCase number captures key
      (customRepeat ignoreCase (captures + 1) key)).modified
        (if key.modifier.isOptional then some .optional else none)
  else
    (customFramed ignoreCase number captures key
      (ownPart ignoreCase (captures + 1) key)).modified key.modifier

/-- The number of groups that a key opens. -/
def customCaptures (key : Key) : Nat :=
  1 + (ownCaptures ignoreCase key + if key.isTwice then ownCaptures ignoreCase key else 0)

/-- The parts of tokens, when `number` keys and `captures` groups come before them. -/
def customParts : Nat → Nat → List Token → List Part
  | _, _, [] => []
  | number, captures, .literal text :: tokens =>
    textParts ignoreCase text ++ customParts number captures tokens
  | number, captures, .group text modifier :: tokens =>
    ((Part.joined (textParts ignoreCase text)).wrapped .plain).modified modifier ::
      customParts number captures tokens
  | number, captures, .key key :: tokens =>
    customPart ignoreCase number captures key ::
      customParts (number + 1) (captures + customCaptures ignoreCase key) tokens

/-- The number of groups that tokens open. -/
def routeCaptures : List Token → Nat
  | [] => 0
  | .key key :: tokens => customCaptures ignoreCase key + routeCaptures tokens
  | _ :: tokens => routeCaptures tokens

end

/-- The parts of a recognizer whose keys have expressions of their own. -/
def customRecognizerParts (tokens : List Token) (options : Options) : List Part :=
  let ignoreCase := !options.sensitive
  let route := (Part.joined (customParts ignoreCase 0 1 tokens)).wrapped
    (.capture 1 (some routeGroup))
  [.plain (.look .textStart), route] ++
    (tailOf tokens options).parts ignoreCase options.strict (routeCaptures ignoreCase tokens + 1)

/-- The recognizer of a pattern whose keys have expressions of their own, as an expression. -/
def customRegex (tokens : List Token) (options : Options) : Regex :=
  inSequence ((customRecognizerParts tokens options).map Part.regex)

/-! ## Reading fragments that may be refused -/

/-- A reader that has read some more parts, with `n` more groups, and then knows some names. -/
def Regex.Reader.grown (st : Reader) (parts : List Part) (n : Nat) (names : List Text) : Reader :=
  { st with
    captures := st.captures + n
    names
    level := { st.level with parts := parts.reverse ++ st.level.parts } }

/-- A fragment behind `captures` groups is read as some parts, with `n` groups, unless the text that
it stands in is refused. -/
def MayRead (ignoreCase : Bool) (captures : Nat) (source : Text) (parts : List Part) (n : Nat) :
    Prop :=
  ∀ (st : Reader) (rest : Text) (x : Reader), rest.head? ≠ some '?' →
    st.flags = .initial ignoreCase → st.captures = captures →
    readParts st (source ++ rest) = some x →
    ∃ names, readParts (st.grown parts n names) rest = some x

/-- A fragment behind `captures` groups is read as the whole inside of a group, with `n` groups,
unless the text that it stands in is refused. -/
def MayClose (ignoreCase : Bool) (captures : Nat) (source : Text) (whole : Part) (n : Nat) : Prop :=
  ∀ (st : Reader) (rest : Text) (x : Reader), st.flags = .initial ignoreCase →
    st.captures = captures → st.level = .empty → readParts st (source ++ ')' :: rest) = some x →
    ∃ flags names level, level.close = whole ∧
      readParts ⟨flags, captures + n, names, level, st.outer⟩ (')' :: rest) = some x

section
variable {ic : Bool} {m n k : Nat} {s t : Text} {ps qs : List Part} {whole : Part}

/-- One fragment behind the other may be read as the parts of both. -/
theorem MayRead.append (hs : MayRead ic m s ps n) (ht : MayRead ic (m + n) t qs k)
    (hhead : t.head? ≠ some '?') : MayRead ic m (s ++ t) (ps ++ qs) (n + k) := by
  intro st rest x hrest hf hm hx
  rw [List.append_assoc] at hx
  obtain ⟨names, hx⟩ := hs st (t ++ rest) x (head?_append_ne hhead hrest) hf hm hx
  obtain ⟨names', hx⟩ := ht (st.grown ps n names) rest x hrest hf (congrArg (· + n) hm) hx
  exact ⟨names', by simpa [Reader.grown, Nat.add_assoc] using hx⟩

/-- A fragment that opens no groups with names is never refused. -/
theorem MayRead.of_reads (h : Reads ic m s ps []) : MayRead ic m s ps 0 := by
  intro st rest x hrest hf hm hx
  rw [h rest hrest st hf hm .nil nofun] at hx
  exact ⟨st.names, hx⟩

theorem MayRead.nil : MayRead ic m [] [] 0 := .of_reads .nil

/-- An escaped text is read as its characters. -/
theorem MayRead.text (t : Text) : MayRead ic m (escapeRegex t) (textParts ic t) 0 :=
  .of_reads (.text t)

/-- A fragment that ends a group is what stands inside. -/
theorem MayRead.inside (h : MayRead ic m s ps n) : MayClose ic m s (.joined ps) n := by
  intro st rest x hf hm hlevel hx
  obtain ⟨names, hx⟩ := h st (')' :: rest) x (by simp) hf hm hx
  refine ⟨st.flags, names, ⟨[], ps.reverse⟩, rfl, ?_⟩
  rw [← hm]
  simpa [Reader.grown, hlevel, Level.empty] using hx

/-- A group that closes, whatever flags hold inside. -/
theorem readParts_closes {flags flags' : Flags} {names : List Text} {level level' : Level}
    {kind : GroupKind} {outer : List (GroupKind × Flags × Level)} {rest : Text} :
    readParts ⟨flags, n, names, level, (kind, flags', level') :: outer⟩ (')' :: rest) =
      readParts ⟨flags', n, names,
        { level' with parts := level.close.wrapped kind :: level'.parts }, outer⟩ rest := by
  rw [readParts, skipSpace_close]
  simp [readPart, Reader.closeGroup, Reader.push, Part.wrapped]

/-- The text of a modifier behind a part. -/
theorem readParts_modifier {st : Reader} {p : Part} {rest : Text} {modifier : Modifier}
    (hf : st.flags = .initial ic) (hp : p.directive = false) (hrest : rest.head? ≠ some '?')
    {names : List Text} :
    readParts (st.grown [p] n names) (modifier.text ++ rest) =
      readParts (st.grown [p.modified modifier] n names) rest := by
  have hlazy := takeLazy_of_head_ne hrest
  have hgreed : st.flags.swapGreed = false := by rw [hf]; rfl
  have hsign : ∀ (c : Char) (least : Nat) (most : Option Nat),
      (∀ st s, readPart st c s = readSign st least most s) →
      readParts (st.grown [p] n names) (c :: rest) =
        readParts (st.grown [p.repeated least most true] n names) rest := by
    intro c least most hc
    have hf' : (st.grown [p] n names).flags = .initial ic := hf
    refine readParts_cons hf' ?_ (Nat.le_refl _)
    rw [hc, readSign, hlazy]
    simp [repeatPart, Reader.grown, hp, hgreed, Part.repeated]
  cases modifier with
  | none => rfl
  | some q =>
    cases q with
    | optional => exact hsign '?' 0 (some 1) fun _ _ => rfl
    | zeroOrMore => exact hsign '*' 0 none fun _ _ => rfl
    | oneOrMore => exact hsign '+' 1 none fun _ _ => rfl

/-- A group without a name, with its modifier. -/
theorem MayClose.group (h : MayClose ic m s whole n) (modifier : Modifier) :
    MayRead ic m ("(?:".toList ++ s ++ ")".toList ++ modifier.text)
      [(whole.wrapped .plain).modified modifier] n := by
  intro st rest x hrest hf hm hx
  have hopen : readPart st '(' ('?' :: ':' :: (s ++ ')' :: (modifier.text ++ rest))) =
      some (st.openGroup .plain st.flags, s ++ ')' :: (modifier.text ++ rest)) := by
    simp only [readPart, readGroup, hf]
    simp [readFlags, skipSpace_false, Flags.initial]
  have hread : readParts st ('(' :: '?' :: ':' :: (s ++ ')' :: (modifier.text ++ rest))) =
      some x := by simpa using hx
  rw [readParts_cons hf hopen (by simp; omega)] at hread
  obtain ⟨flags, names, level, rfl, hx⟩ := h (st.openGroup .plain st.flags) _ x hf hm rfl hread
  refine ⟨names, ?_⟩
  rw [← readParts_modifier hf rfl hrest, ← hx]
  subst hm
  exact readParts_closes.symm

/-- The start of a group whose name has been used is refused. -/
theorem readParts_refused {st : Reader} {name rest : Text} (hf : st.flags = .initial ic)
    (hname : IsGroupName name) (hused : name ∈ st.names) :
    readParts st ("(?P<".toList ++ name ++ ">".toList ++ rest) = none := by
  have hangle : '>' ∉ name := fun hmem => by
    have := hname.all _ hmem
    revert this
    decide
  have hcut : cutAt? ['>'] (name ++ '>' :: rest) = some (name, rest) := cutAt?_append hangle
  have hrefused : readGroupName st.names (name ++ '>' :: rest) = none := by
    rw [readGroupName, hcut]
    obtain ⟨c, cs, rfl, -⟩ := hname.first
    simp [hused]
  have hgroup : readPart st '(' ('?' :: 'P' :: '<' :: (name ++ '>' :: rest)) = none := by
    simp only [readPart, readGroup, hf]
    simp [skipSpace_false, Flags.initial, hrefused]
  have hread : readParts st ('(' :: '?' :: 'P' :: '<' :: (name ++ '>' :: rest)) = none := by
    rw [readParts, hf]
    simp only [Flags.initial, skipSpace_false, hgroup]
  simpa using hread

/-- A group with a name, with its modifier. -/
theorem MayClose.capture {name : Text} (h : MayClose ic (m + 1) s whole n)
    (hname : IsGroupName name) (modifier : Modifier) :
    MayRead ic m ("(?P<".toList ++ name ++ ">".toList ++ s ++ ")".toList ++ modifier.text)
      [(whole.wrapped (.capture (m + 1) (some name))).modified modifier] (1 + n) := by
  intro st rest x hrest hf hm hx
  have hread : readParts st ("(?P<".toList ++ name ++ ">".toList ++
      (s ++ ')' :: (modifier.text ++ rest))) = some x := by simpa using hx
  by_cases hused : name ∈ st.names
  · rw [readParts_refused hf hname hused] at hread
    cases hread
  · have hgroup : readGroupName st.names (name ++ '>' :: (s ++ ')' :: (modifier.text ++ rest))) =
        some (name, s ++ ')' :: (modifier.text ++ rest)) := readGroupName_append hname hused
    have hopen : readPart st '(' ('?' :: 'P' :: '<' :: (name ++ ['>'] ++
        (s ++ ')' :: (modifier.text ++ rest)))) =
        some (st.openCapture (some name), s ++ ')' :: (modifier.text ++ rest)) := by
      simp only [readPart, readGroup, hf]
      simp [skipSpace_false, Flags.initial, hgroup]
    have hread : readParts st ('(' :: '?' :: 'P' :: '<' :: (name ++ ['>'] ++
        (s ++ ')' :: (modifier.text ++ rest)))) = some x := hread
    rw [readParts_cons hf hopen (by simp; omega)] at hread
    obtain ⟨flags, names, level, rfl, hx⟩ := h (st.openCapture (some name)) _ x hf
      (congrArg (· + 1) hm) rfl hread
    refine ⟨names, ?_⟩
    rw [← readParts_modifier hf rfl hrest, ← hx]
    subst hm
    rw [Nat.add_assoc]
    exact readParts_closes.symm

/-! ## Reading keys -/

/-- An expression that is read by itself leaves no group open. -/
theorem ownReader_of_read {key : Key} {r : Regex} (h : Regex.read ic key.pattern = some r) :
    readParts (.start ic) key.pattern = some (ownReader ic key) ∧ (ownReader ic key).outer = [] ∧
      (ownReader ic key).level.close.regex = r := by
  obtain ⟨st, hst, h⟩ := Option.bind_eq_some_iff.1 h
  have hst : readParts (.start ic) key.pattern = some st := hst
  have hown : ownReader ic key = st := by
    rw [ownReader, hst]
    rfl
  rw [hown]
  simp only at h
  split at h
  · next hend =>
    rw [Bool.and_eq_true, List.isEmpty_iff] at hend
    exact ⟨hst, hend.1, Option.some.inj h⟩
  · cases h

/-- Whether the expression of a key is one by itself, and the expression of the values that the key
accepts is one too. -/
structure Key.IsClosed (ignoreCase : Bool) (key : Key) : Prop where
  alone : (Regex.read ignoreCase key.pattern).isSome
  validated : (Regex.read ignoreCase (validatorSource key)).isSome

/-- The expression of a key comes to the end of a group in front of which it stands. -/
theorem MayClose.own {key : Key} (h : key.IsClosed ic) (m : Nat) :
    MayClose ic m key.pattern (ownPart ic m key) (ownCaptures ic key) := by
  obtain ⟨r, hr⟩ := Option.isSome_iff_exists.1 h.alone
  obtain ⟨hread, houter, -⟩ := ownReader_of_read hr
  intro st rest x hf hm hlevel hx
  subst hm
  have hinside := readParts_group hread h.validated hf hlevel hx
  rw [Reader.inside, houter, List.map_nil, List.nil_append] at hinside
  exact ⟨_, _, _, Level.renumbered_close _, hinside⟩

/-- The source of a key is read as its part. -/
theorem mayRead_key {number : Nat} {key : Key} {source : Text} (hkey : key.IsClosed ic) (m : Nat)
    (h : keySource number key = .ok source) :
    MayRead ic m source [customPart ic number m key] (customCaptures ic key) := by
  have hname := isGroupName_key number
  -- the lead and the tail stand around the group, whatever it captures
  have hframed : ∀ {s : Text} {p : Part} {n : Nat} (modifier : Modifier),
      MayClose ic (m + 1) s p n → MayRead ic m
        ("(?:".toList ++ (escapeRegex key.lead ++ (("(?P<".toList ++ keyGroup number ++
          ">".toList ++ s ++ ")".toList ++ Modifier.text none) ++ escapeRegex key.tail)) ++
          ")".toList ++ modifier.text)
        [(customFramed ic number m key p).modified modifier] (1 + n) := by
    intro s p n modifier hs
    have hinner := (hs.capture hname none).append (.text key.tail) (escapeRegex_head _)
    have hwhole := ((MayRead.text key.lead).append hinner (by simp)).inside.group modifier
    rw [Nat.zero_add, Nat.add_zero] at hwhole
    exact hwhole
  unfold keySource at h
  unfold customPart customCaptures Key.isTwice
  simp only [escapeRegex_isEmpty] at h
  split at h
  · next hempty =>
    rw [if_pos hempty, hempty]
    split at h
    · cases h
    · cases h
      have h : MayRead ic m _ [(customCapture number m (ownPart ic (m + 1) key)).modified
          key.modifier] _ := (MayClose.own hkey (m + 1)).capture hname key.modifier
      simpa using h
  · next hne =>
    rw [if_neg hne]
    have hne : (key.lead.isEmpty && key.tail.isEmpty) = false := Bool.not_eq_true _ ▸ hne
    rw [hne]
    split at h
    · next hrep =>
      rw [if_pos hrep, hrep]
      cases h
      have hone : ∀ m, MayRead ic m ("(?:".toList ++ key.pattern ++ ")".toList ++ Modifier.text none)
          [(ownPart ic m key).wrapped .plain] (ownCaptures ic key) :=
        fun m => (MayClose.own hkey m).group none
      have hmore := ((MayRead.text key.tail).append ((MayRead.text key.lead).append
        (hone (m + 1 + ownCaptures ic key)) (by simp))
        (head?_append_ne (escapeRegex_head _) (by simp))).inside.group (some .zeroOrMore)
      have h := hframed (if key.modifier.isOptional then some .optional else none)
        ((hone (m + 1)).append hmore (by simp)).inside
      have hmany : ")*".toList = ")".toList ++ Modifier.text (some .zeroOrMore) := rfl
      have habsent : (if key.modifier.isOptional then "?".toList else []) =
          Modifier.text (if key.modifier.isOptional then some .optional else none) := by
        split <;> rfl
      have hnone : Modifier.text none = [] := rfl
      rw [hmany, habsent]
      simp only [hnone, List.append_assoc, List.nil_append, Nat.zero_add] at h ⊢
      exact h
    · next hrep =>
      rw [if_neg hrep]
      have hrep : key.modifier.isRepeat = false := Bool.not_eq_true _ ▸ hrep
      rw [hrep]
      cases h
      have h := hframed key.modifier (MayClose.own hkey (m + 1))
      simp only [List.append_assoc, Modifier.text, List.nil_append] at h ⊢
      exact h

/-! ## Reading recognizers -/

/-- The source of tokens is read as their parts. -/
theorem mayRead_route {number : Nat} {tokens : List Token} {source : Text}
    (hkeys : ∀ key ∈ keysOf tokens, key.IsClosed ic) (m : Nat)
    (h : routeSource number tokens = .ok source) :
    MayRead ic m source (customParts ic number m tokens) (routeCaptures ic tokens) := by
  induction tokens generalizing number m source with
  | nil =>
    cases h
    exact .nil
  | cons token tokens ih =>
    cases token with
    | literal text =>
      obtain ⟨rest, hrest, h⟩ := bind_eq_ok_iff.1 h
      cases h
      have h := (MayRead.text (m := m) text).append (ih hkeys _ hrest) (routeSource_head hrest)
      rw [Nat.zero_add] at h
      exact h
    | group text modifier =>
      obtain ⟨rest, hrest, h⟩ := bind_eq_ok_iff.1 h
      cases h
      have h := ((MayRead.text (m := m) text).inside.group modifier).append (ih hkeys _ hrest)
        (routeSource_head hrest)
      rw [Nat.zero_add] at h
      exact h
    | key key =>
      obtain ⟨first, hfirst, h⟩ := bind_eq_ok_iff.1 h
      obtain ⟨rest, hrest, h⟩ := bind_eq_ok_iff.1 h
      cases h
      have hkey : key.IsClosed ic := hkeys key (.head _)
      have htokens : ∀ key ∈ keysOf tokens, key.IsClosed ic := fun k hk => hkeys k (.tail _ hk)
      have h := (mayRead_key hkey m hfirst).append (ih htokens _ hrest) (routeSource_head hrest)
      exact h

/-- The source of the tail is read as its parts, or refused because an expression has a group with
the name of the delimiter at the end. -/
theorem mayRead_tail (ic : Bool) (m : Nat) (tail : Tail) (strict : Bool) :
    ∃ n, MayRead ic m (tail.source strict) (tail.parts ic strict m) n := by
  have hread := reads_tail ic m tail strict
  cases strict with
  | true => exact ⟨0, .of_reads hread⟩
  | false =>
    refine ⟨1, fun st rest x hrest hf hm hx => ?_⟩
    by_cases hused : trailGroup ∈ st.names
    · exfalso
      have hrefused : ∀ {st : Reader} (more : Text), st.flags = .initial ic →
          trailGroup ∈ st.names → readParts st ("(?P<trail>".toList ++ more) = none :=
        fun more hf => readParts_refused hf isGroupName_trail
      have hinside : ∀ more : Text, readParts st ("(?:(?P<trail>".toList ++ more) = none := by
        intro more
        have hopen : readPart st '(' ("?:(?P<trail>".toList ++ more) =
            some (st.openGroup .plain st.flags, "(?P<trail>".toList ++ more) := by
          simp only [readPart, readGroup, hf]
          simp [readFlags, skipSpace_false, Flags.initial]
        exact (readParts_cons hf hopen (by simp)).trans (hrefused more hf hused)
      cases tail with
      | pathEnd =>
        have hsource : Tail.pathEnd.source false = "(?P<trail>".toList ++ "[/#?])?$".toList := by
          decide
        rw [hsource, List.append_assoc, hrefused _ hf hused] at hx
        cases hx
      | anything =>
        have hsource : Tail.anything.source false =
            "(?:(?P<trail>".toList ++ "[/#?])$)?".toList := by decide
        rw [hsource, List.append_assoc, hinside] at hx
        cases hx
      | boundary =>
        have hsource : Tail.boundary.source false =
            "(?:(?P<trail>".toList ++ "[/#?])$|[/#?]|$)".toList := by decide
        rw [hsource, List.append_assoc, hinside] at hx
        cases hx
    · rw [hread rest hrest st hf hm (by simp [tailGroups]) (by simpa [tailGroups] using hused)] at hx
      exact ⟨trailGroup :: st.names, hx⟩

/-- The part of a key is no directive. -/
theorem directive_customPart (number captures : Nat) (key : Key) :
    (customPart ic number captures key).directive = false := by
  unfold customPart
  split
  · exact directive_modified _ rfl
  · split <;> exact directive_modified _ rfl

/-- The parts of tokens have no directive. -/
theorem directive_customParts (number captures : Nat) (tokens : List Token) :
    ∀ q ∈ customParts ic number captures tokens, q.directive = false := by
  induction tokens generalizing number captures with
  | nil => exact nofun
  | cons token tokens ih =>
    intro q hq
    cases token with
    | literal text =>
      rcases List.mem_append.1 hq with hq | hq
      · exact directive_textParts hq
      · exact ih number captures q hq
    | group text modifier =>
      rcases List.mem_cons.1 hq with rfl | hq
      · exact directive_modified _ rfl
      · exact ih number captures q hq
    | key key =>
      rcases List.mem_cons.1 hq with rfl | hq
      · exact directive_customPart number captures key
      · exact ih (number + 1) _ q hq

/-- A fragment that is a whole expression is read as its parts in sequence, or it is refused. -/
theorem read_of_mayRead {r : Regex} (h : MayRead ic 0 s ps n) (hps : ∀ p ∈ ps, p.directive = false)
    (hr : Regex.read ic s = some r) : r = inSequence (ps.map Part.regex) := by
  obtain ⟨st, hst, hr⟩ := Option.bind_eq_some_iff.1 hr
  rw [← List.append_nil s] at hst
  obtain ⟨names, hst⟩ := h (.start ic) [] st (by simp) rfl rfl hst
  rw [readParts_end] at hst
  cases hst
  simp only at hr
  split at hr
  · rw [← Option.some.inj hr, ← Part.joined_regex hps]
    simp [Reader.grown, Reader.start, Level.empty, Level.close, Part.joined]
  · cases hr

/-- The source of a recognizer is read as its expression, or it is refused. -/
theorem read_customSource {tokens : List Token} {o : Options} {source : Text} {r : Regex}
    (hkeys : ∀ key ∈ keysOf tokens, key.IsClosed (!o.sensitive))
    (hsource : recognizerSource tokens o = .ok source)
    (h : Regex.read (!o.sensitive) source = some r) : r = customRegex tokens o := by
  obtain ⟨route, hroute, hsource⟩ := bind_eq_ok_iff.1 hsource
  cases hsource
  have hgroup := (mayRead_route hkeys 1 hroute).inside.capture (m := 0) isGroupName_route none
  have hnone : Modifier.text none = [] := rfl
  rw [hnone, List.append_nil] at hgroup
  obtain ⟨n, htail⟩ := mayRead_tail (!o.sensitive)
    (routeCaptures (!o.sensitive) tokens + 1) (tailOf tokens o) o.strict
  have hcount : routeCaptures (!o.sensitive) tokens + 1 =
      0 + (0 + (1 + routeCaptures (!o.sensitive) tokens)) := by omega
  have hhead : ((tailOf tokens o).source o.strict).head? ≠ some '?' := by
    cases tailOf tokens o <;> cases o.strict <;> decide
  have htail : MayRead (!o.sensitive) (0 + (0 + (1 + routeCaptures (!o.sensitive) tokens)))
      ((tailOf tokens o).source o.strict)
      ((tailOf tokens o).parts (!o.sensitive) o.strict (routeCaptures (!o.sensitive) tokens + 1)) n := by
    rw [← hcount]
    exact htail
  have hwhole : MayRead (!o.sensitive) 0 _ (customRecognizerParts tokens o) _ :=
    ((MayRead.of_reads (m := 0) Reads.textStart).append hgroup (by simp)).append htail hhead
  have hdirective : ∀ p ∈ customRecognizerParts tokens o, p.directive = false := by
    intro p hp
    rcases List.mem_append.1 hp with hp | hp
    · rcases List.mem_cons.1 hp with rfl | hp
      · rfl
      · obtain rfl := List.mem_singleton.1 hp
        rfl
    · exact (height_tail _ _ _ _ p hp).2
  exact read_of_mayRead hwhole hdirective h

end

/-! ## Compiled patterns -/

/-- What compiling has checked. -/
structure Pattern.Checked (o : Options) (p : Pattern) : Prop where
  written : NestedRouting.recognizerSource p.tokens o = .ok p.recognizerSource
  read : Regex.read (!o.sensitive) p.recognizerSource = some p.recognizer
  counted : p.recognizer.lastGroup + 1 = expectedGroups p.keys.length p.recognizer
  validated : ∀ key ∈ p.keys, (Regex.read (!o.sensitive) (validatorSource key)).isSome
  options : p.options = o

/-- A source that compiles is read as the expression that is compiled. -/
theorem read_of_readRegex {o : Options} {source : Text} {r : Regex}
    (h : readRegex o source = .ok r) : Regex.read (!o.sensitive) source = some r := by
  unfold readRegex at h
  split at h
  · next hread =>
    cases h
    exact hread
  · cases h

/-- Steps that succeed together each succeed. -/
theorem exists_of_mapM {α β ε : Type} {f : α → Except ε β} {xs : List α} {ys : List β}
    (h : xs.mapM f = .ok ys) : ∀ x ∈ xs, ∃ y, f x = .ok y := by
  induction xs generalizing ys with
  | nil => exact nofun
  | cons x xs ih =>
    rw [List.mapM_cons] at h
    obtain ⟨y, hy, h⟩ := bind_eq_ok_iff.1 h
    obtain ⟨zs, hzs, -⟩ := bind_eq_ok_iff.1 h
    exact List.forall_mem_cons.2 ⟨⟨y, hy⟩, ih hzs⟩

/-- Compiling has made all its checks. -/
theorem Pattern.checked_of_compile {o : Options} {source : Text} {p : Pattern}
    (h : Pattern.compile o source = .ok p) : p.Checked o := by
  obtain ⟨tokens, -, h⟩ := bind_eq_ok_iff.1 h
  obtain ⟨rs, hwritten, h⟩ := bind_eq_ok_iff.1 h
  obtain ⟨r, hread, h⟩ := bind_eq_ok_iff.1 h
  simp only at h
  split at h
  · cases h
  · next hcounted =>
    obtain ⟨vs, hvalidated, h⟩ := bind_eq_ok_iff.1 h
    cases h
    have hcounted : r.lastGroup + 1 = expectedGroups (keysOf tokens).length r := by
      simpa using hcounted
    refine ⟨hwritten, read_of_readRegex hread, hcounted, fun key hkey => ?_, rfl⟩
    obtain ⟨v, hv⟩ := exists_of_mapM hvalidated key hkey
    rw [read_of_readRegex hv]
    rfl

/-- The recognizer of a pattern, if the expressions of its keys can be read by themselves. -/
theorem recognizer_of_compile {o : Options} {source : Text} {p : Pattern}
    (h : Pattern.compile o source = .ok p)
    (hkeys : ∀ key ∈ p.keys, (Regex.read (!o.sensitive) key.pattern).isSome) :
    p.recognizer = customRegex p.tokens o := by
  have hp := Pattern.checked_of_compile h
  exact read_customSource (fun key hkey => ⟨hkeys key hkey, hp.validated key hkey⟩) hp.written hp.read

/-! ## Search -/

/-- A search finds a route at the start of the path, with something behind it that the tail takes. -/
theorem notes_of_customRegex {tokens : List Token} {o : Options} {path : Text} {w : Way}
    (h : (customRegex tokens o).search path = some w) :
    ∃ x y v n m, path = x ++ (y ++ v) ∧
      takesAll (customParts (!o.sensitive) 0 1 tokens) [] x (y ++ v) n ∧
      takesAll ((tailOf tokens o).parts (!o.sensitive) o.strict
        (routeCaptures (!o.sensitive) tokens + 1)) x y v m ∧
      w.notes = m ++ routeNotes x n := by
  obtain ⟨u, _, v, _, rfl, htakes, rfl⟩ := takes_of_search h
  have htakes := (takes_inSequence (customRecognizerParts tokens o)).1 htakes
  obtain ⟨_, _, _, _, rfl, rfl, ⟨rfl, rfl, hstart⟩, x, y, _, m, rfl, rfl, hroute, htail⟩ := htakes
  obtain rfl : u = [] := by
    simpa [Look.holds, Position.between] using hstart
  obtain ⟨n, rfl, hn⟩ := hroute
  refine ⟨x, y, v, n, m, by simp, (takes_joined (directive_customParts 0 1 tokens)).1 ?_, ?_, ?_⟩
  · simpa using hn
  · simpa using htail
  · simp [Way.at, routeNotes]

end NestedRouting
