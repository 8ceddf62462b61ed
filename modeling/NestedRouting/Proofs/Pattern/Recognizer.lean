import NestedRouting.Pattern.Compiled
import NestedRouting.Proofs.Regex.Reading

/-!
# The recognizer as an expression

The recognizer of a pattern is written as text and then read. For a pattern without groups of its
own, whose keys all take a segment (`defaultPattern`) or the rest of a line (`wildcardPattern`),
`read_recognizerSource` says which expression the reading gives: the parts of the tokens
(`routeParts`) inside the group of the route, between the start of the path and the parts of the
tail (`Tail.parts`).
-/

namespace NestedRouting

open Regex

/-- A result of two steps is a result of the second with that of the first. -/
theorem bind_eq_ok_iff {ε α β : Type} {x : Except ε α} {f : α → Except ε β} {b : β} :
    (x >>= f) = .ok b ↔ ∃ a, x = .ok a ∧ f a = .ok b := by
  cases x with
  | error e => exact ⟨nofun, nofun⟩
  | ok a =>
    constructor
    · exact fun h => ⟨a, rfl, h⟩
    · rintro ⟨_, ⟨⟩, h⟩
      exact h

/-- Whether a key takes a segment or the rest of a line, and not an expression of its own. -/
def Key.IsPlain (k : Key) : Prop := k.pattern = defaultPattern ∨ k.pattern = wildcardPattern

/-! ## Parts -/

/-- The parts of a text. -/
def textParts (ignoreCase : Bool) (t : Text) : List Part :=
  t.map fun c => .plain (ofChar ignoreCase c)

/-- The part of the value of a key. -/
def valuePart (ignoreCase : Bool) (pattern : Text) : Part :=
  if pattern = wildcardPattern then
    .repeated 0 none true (.plain (.set (.compl (.single '\n'))))
  else .repeated 1 none false ⟨.set (.compl (delimiters ignoreCase)), 2, false⟩

/-- The group of a key. -/
def capturePart (number : Nat) (ps : List Part) : Part :=
  (Part.joined ps).wrapped (.capture (number + 2) (some (keyGroup number)))

/-- What separates two values of a key, and the second of them. -/
def separated (ignoreCase : Bool) (key : Key) : Part :=
  (Part.joined (textParts ignoreCase key.tail ++ (textParts ignoreCase key.lead ++
    [(Part.joined [valuePart ignoreCase key.pattern]).wrapped .plain]))).wrapped .plain

/-- What a repeated key captures: its value, and then values with what separates them. -/
def repeatParts (ignoreCase : Bool) (key : Key) : List Part :=
  [(Part.joined [valuePart ignoreCase key.pattern]).wrapped .plain,
    (separated ignoreCase key).modified (some .zeroOrMore)]

/-- The group of a key between the lead and the tail. -/
def framed (ignoreCase : Bool) (number : Nat) (key : Key) (captured : List Part) : Part :=
  (Part.joined (textParts ignoreCase key.lead ++
    ([capturePart number captured] ++ textParts ignoreCase key.tail))).wrapped .plain

/-- The part of a key. -/
def keyPart (ignoreCase : Bool) (number : Nat) (key : Key) : Part :=
  let value := valuePart ignoreCase key.pattern
  if key.lead.isEmpty && key.tail.isEmpty then (capturePart number [value]).modified key.modifier
  else if key.modifier.isRepeat then
    (framed ignoreCase number key (repeatParts ignoreCase key)).modified
      (if key.modifier.isOptional then some .optional else none)
  else (framed ignoreCase number key [value]).modified key.modifier

/-- The parts of tokens, when `number` keys come before them. -/
def routeParts (ignoreCase : Bool) : Nat → List Token → List Part
  | _, [] => []
  | number, .literal text :: tokens =>
    textParts ignoreCase text ++ routeParts ignoreCase number tokens
  | number, .group text modifier :: tokens =>
    ((Part.joined (textParts ignoreCase text)).wrapped .plain).modified modifier ::
      routeParts ignoreCase number tokens
  | number, .key key :: tokens =>
    keyPart ignoreCase number key :: routeParts ignoreCase (number + 1) tokens

/-- The part of a delimiter. -/
def delimiterPart (ignoreCase : Bool) : Part := ⟨.set (delimiters ignoreCase), 2, false⟩

/-- The group of a delimiter at the end, behind `captures` groups. -/
def trailPart (ignoreCase : Bool) (captures : Nat) : Part :=
  (Part.joined [delimiterPart ignoreCase]).wrapped (.capture (captures + 1) (some trailGroup))

/-- The part of the end of the path. -/
def endPart : Part := .plain (.look .textEnd)

/-- The parts of what may follow the route, behind `captures` groups. -/
def Tail.parts (ignoreCase strict : Bool) (captures : Nat) : Tail → List Part
  | pathEnd =>
    if strict then [endPart]
    else [(trailPart ignoreCase captures).modified (some .optional), endPart]
  | anything =>
    if strict then []
    else
      [((Part.joined [trailPart ignoreCase captures, endPart]).wrapped .plain).modified
        (some .optional)]
  | boundary =>
    let delimiter := Part.joined [delimiterPart ignoreCase]
    let trail := Part.joined [trailPart ignoreCase captures, endPart]
    let earlier := if strict then [delimiter] else [delimiter, trail]
    [(Level.mk earlier [endPart]).close.wrapped .plain]

/-- The parts of a recognizer. -/
def recognizerParts (tokens : List Token) (options : Options) : List Part :=
  let ignoreCase := !options.sensitive
  let route := (Part.joined (routeParts ignoreCase 0 tokens)).wrapped
    (.capture 1 (some routeGroup))
  [.plain (.look .textStart), route] ++
    (tailOf tokens options).parts ignoreCase options.strict ((keysOf tokens).length + 1)

/-! ## Names of groups -/

/-- Groups of different keys have different names. -/
theorem keyGroup_injective {i j : Nat} (h : keyGroup i = keyGroup j) : i = j := by
  have h := congrArg (Nat.ofDigitChars 10 · 0) (List.cons.inj h).2
  simpa [Text.ofNat, Nat.ofDigitChars_ten_toDigits] using h

/-- The group of a key does not have the name of the route. -/
theorem keyGroup_ne_route (i : Nat) : keyGroup i ≠ routeGroup := by
  intro h
  cases (List.cons.inj h).1

/-- The group of a key does not have the name of the trail. -/
theorem keyGroup_ne_trail (i : Nat) : keyGroup i ≠ trailGroup := by
  intro h
  cases (List.cons.inj h).1

/-- The name of the route can be the name of a group. -/
theorem isGroupName_route : IsGroupName routeGroup where
  first := ⟨_, _, rfl, by decide⟩
  all := List.all_eq_true.1 (by decide)

/-- The name of the trail can be the name of a group. -/
theorem isGroupName_trail : IsGroupName trailGroup where
  first := ⟨_, _, rfl, by decide⟩
  all := List.all_eq_true.1 (by decide)

/-- A digit can stand in the name of a group, but for its start. -/
theorem isGroupNameChar_of_isDigit {c : Char} (h : c.isDigit = true) :
    isGroupNameChar false c = true := by
  have hlt : c.toNat < 128 := by
    simp only [Char.isDigit, Bool.and_eq_true, decide_eq_true_eq] at h
    have := h.2
    exact Nat.lt_of_le_of_lt this (by decide)
  simp [isGroupNameChar, Unicode.isAlphanumeric, hlt, Char.isAlphanum, h]

/-- The name of a key's group can be the name of a group. -/
theorem isGroupName_key (i : Nat) : IsGroupName (keyGroup i) where
  first := ⟨_, _, rfl, by decide⟩
  all c hc := by
    rcases List.mem_cons.1 hc with rfl | hc
    · decide
    · exact isGroupNameChar_of_isDigit (Nat.isDigit_of_mem_toDigits (by decide) (by decide) hc)

/-- The names of the groups of `count` keys, when `number` keys come before them. -/
def keyGroupsFrom (number count : Nat) : List Text := (List.range' number count).map keyGroup

/-- The names of the groups of keys are different. -/
theorem nodup_keyGroupsFrom (number count : Nat) : (keyGroupsFrom number count).Nodup :=
  List.Pairwise.map keyGroup (fun _ _ h => mt keyGroup_injective h) (List.nodup_range' ..)

/-! ## Reading the source -/

section
variable {ic : Bool} {m : Nat} {rest : Text}

/-- An escaped text does not start with the sign that makes a repetition lazy. -/
theorem escapeRegex_head (t : Text) : (escapeRegex t).head? ≠ some '?' := by
  cases t with
  | nil => simp [escapeRegex]
  | cons c t =>
    by_cases hc : isRegexSpecial c = true
    · simp [escapeRegex, hc]
    · intro h
      have : c = '?' := by simpa [escapeRegex, hc] using h
      subst this
      exact hc rfl

/-- Only the empty text is escaped as the empty text. -/
theorem escapeRegex_isEmpty (t : Text) : (escapeRegex t).isEmpty = t.isEmpty := by
  cases t with
  | nil => rfl
  | cons c t =>
    rw [escapeRegex, List.flatMap_cons]
    split <;> rfl

/-- An escaped text is read as its characters. -/
theorem Regex.Reads.text (t : Text) : Reads ic m (escapeRegex t) (textParts ic t) [] := by
  induction t with
  | nil => exact .nil
  | cons c t ih =>
    rw [escapeRegex, List.flatMap_cons, textParts, List.map_cons]
    by_cases hc : isRegexSpecial c = true
    · rw [if_pos hc]
      exact (Reads.escaped hc).append ih (escapeRegex_head t)
    · rw [if_neg hc]
      exact (Reads.char (Bool.not_eq_true _ ▸ hc)).append ih (escapeRegex_head t)

/-- The value of a plain key is read as one part. -/
theorem Regex.Reads.value {key : Key} (h : key.IsPlain) :
    Reads ic m key.pattern [valuePart ic key.pattern] [] := by
  intro rest hrest
  rcases h with h | h <;> rw [h]
  · exact .sign (c := '+') (t := ['?']) .other rfl (fun _ _ => rfl) false rfl
  · exact .sign (c := '*') (t := []) .dot rfl (fun _ _ => rfl) true (takeLazy_of_head_ne hrest)

/-- A group without a name around a fragment, with its modifier. -/
theorem Regex.Reads.framed {s : Text} {ps : List Part} {xs : List Text} (h : Reads ic m s ps xs)
    (modifier : Modifier) :
    Reads ic m ("(?:".toList ++ s ++ ")".toList ++ modifier.text)
      [((Part.joined ps).wrapped .plain).modified modifier] xs :=
  fun _ hrest => ((h.inside []).group _).modified rfl hrest

/-- The group of a key around a fragment, with its modifier. -/
theorem Regex.Reads.captured {s : Text} {ps : List Part} {number : Nat}
    (h : Reads ic (number + 2) s ps []) (modifier : Modifier) :
    Reads ic (number + 1)
      ("(?P<".toList ++ keyGroup number ++ ">".toList ++ s ++ ")".toList ++ modifier.text)
      [(capturePart number ps).modified modifier] [keyGroup number] :=
  fun _ hrest => ((h.inside []).capture (isGroupName_key number) _).modified rfl hrest

/-- The source of a key is read as its part. -/
theorem reads_key {number : Nat} {key : Key} {source : Text} (hkey : key.IsPlain)
    (h : keySource number key = .ok source) :
    Reads ic (number + 1) source [keyPart ic number key] [keyGroup number] := by
  have hvalue : Reads ic (number + 2) key.pattern [valuePart ic key.pattern] [] := .value hkey
  -- the lead and the tail stand around the group, whatever it captures
  have hframed : ∀ {s : Text} {ps : List Part} (modifier : Modifier),
      Reads ic (number + 2) s ps [] → Reads ic (number + 1)
        ("(?:".toList ++ (escapeRegex key.lead ++ (("(?P<".toList ++ keyGroup number ++
          ">".toList ++ s ++ ")".toList ++ Modifier.text none) ++ escapeRegex key.tail)) ++
          ")".toList ++ modifier.text)
        [(framed ic number key ps).modified modifier] [keyGroup number] := by
    intro s ps modifier hs
    have hinner := (hs.captured none).append (.text key.tail) (escapeRegex_head _)
    exact ((Reads.text key.lead).append hinner (by simp)).framed modifier
  unfold keySource at h
  unfold keyPart
  simp only [escapeRegex_isEmpty] at h
  split at h
  · next hempty =>
    rw [if_pos hempty]
    split at h
    · cases h
    · cases h
      simpa only [List.append_assoc] using hvalue.captured key.modifier
  · next hne =>
    rw [if_neg hne]
    split at h
    · next hrep =>
      rw [if_pos hrep]
      cases h
      have hone := hvalue.framed none
      have hmore := ((Reads.text key.tail).append ((Reads.text key.lead).append hone (by simp))
        (head?_append_ne (escapeRegex_head _) (by simp))).framed (some .zeroOrMore)
      have h := hframed (if key.modifier.isOptional then some .optional else none)
        (hone.append hmore (by simp))
      have hmany : ")*".toList = ")".toList ++ Modifier.text (some .zeroOrMore) := rfl
      have habsent : (if key.modifier.isOptional then "?".toList else []) =
          Modifier.text (if key.modifier.isOptional then some .optional else none) := by
        split <;> rfl
      have hnone : Modifier.text none = [] := rfl
      rw [hmany, habsent]
      simp only [hnone, List.append_assoc, List.nil_append] at h ⊢
      exact h
    · next hrep =>
      rw [if_neg hrep]
      cases h
      simpa only [List.append_assoc, Modifier.text, List.nil_append]
        using hframed key.modifier hvalue

/-- The source of a key does not start with the sign that makes a repetition lazy. -/
theorem keySource_head {number : Nat} {key : Key} {source : Text}
    (h : keySource number key = .ok source) : source.head? ≠ some '?' := by
  unfold keySource at h
  simp only at h
  split at h
  · split at h
    · cases h
    · cases h
      simp
  · split at h <;> cases h <;> simp

/-- The source of tokens does not start with the sign that makes a repetition lazy. -/
theorem routeSource_head {number : Nat} {tokens : List Token} {source : Text}
    (h : routeSource number tokens = .ok source) : source.head? ≠ some '?' := by
  induction tokens generalizing number source with
  | nil =>
    cases h
    simp
  | cons token tokens ih =>
    cases token with
    | literal text =>
      obtain ⟨rest, hrest, h⟩ := bind_eq_ok_iff.1 h
      cases h
      exact head?_append_ne (escapeRegex_head text) (ih hrest)
    | group text modifier =>
      obtain ⟨rest, hrest, h⟩ := bind_eq_ok_iff.1 h
      cases h
      simp
    | key key =>
      obtain ⟨first, hfirst, h⟩ := bind_eq_ok_iff.1 h
      obtain ⟨rest, hrest, h⟩ := bind_eq_ok_iff.1 h
      cases h
      exact head?_append_ne (keySource_head hfirst) (ih hrest)

/-- A key that repeats has text around it that separates its values. -/
def Key.IsSeparated (key : Key) : Prop :=
  key.lead = [] → key.tail = [] → key.modifier.isRepeat = false

/-- The source of a key can be written if and only if its values are separated. -/
theorem keySource_isOk_iff {number : Nat} {key : Key} :
    (∃ source, keySource number key = .ok source) ↔ key.IsSeparated := by
  unfold keySource Key.IsSeparated
  simp only [escapeRegex_isEmpty, Bool.and_eq_true, List.isEmpty_iff]
  split
  · next hempty =>
    split
    · next hrep =>
      refine ⟨nofun, fun h => ?_⟩
      rw [h hempty.1 hempty.2] at hrep
      cases hrep
    · next hrep => exact ⟨fun _ _ _ => Bool.not_eq_true _ ▸ hrep, fun _ => ⟨_, rfl⟩⟩
  · next hne =>
    have h : key.lead = [] → key.tail = [] → key.modifier.isRepeat = false :=
      fun hlead htail => absurd ⟨hlead, htail⟩ hne
    split <;> exact ⟨fun _ => h, fun _ => ⟨_, rfl⟩⟩

/-- The source of tokens can be written if and only if their keys that repeat are separated. -/
theorem routeSource_isOk_iff (number : Nat) {tokens : List Token} :
    (∃ source, routeSource number tokens = .ok source) ↔
      ∀ key ∈ keysOf tokens, key.IsSeparated := by
  induction tokens generalizing number with
  | nil => exact ⟨fun _ => nofun, fun _ => ⟨[], rfl⟩⟩
  | cons token tokens ih =>
    have hrest : ∀ {number : Nat} {f : Text → Except SyntaxError Text}, (∀ s, ∃ r, f s = .ok r) →
        ((∃ source, (routeSource number tokens >>= f) = .ok source) ↔
          ∀ key ∈ keysOf tokens, key.IsSeparated) := by
      intro number f hf
      rw [← ih number]
      constructor
      · rintro ⟨source, h⟩
        obtain ⟨rest, hrest, -⟩ := bind_eq_ok_iff.1 h
        exact ⟨rest, hrest⟩
      · rintro ⟨rest, hrest⟩
        obtain ⟨source, hsource⟩ := hf rest
        exact ⟨source, bind_eq_ok_iff.2 ⟨rest, hrest, hsource⟩⟩
    cases token with
    | literal text => exact hrest fun _ => ⟨_, rfl⟩
    | group text modifier => exact hrest fun _ => ⟨_, rfl⟩
    | key key =>
      have hkeys : keysOf (.key key :: tokens) = key :: keysOf tokens := rfl
      rw [hkeys, List.forall_mem_cons, ← keySource_isOk_iff]
      constructor
      · rintro ⟨source, h⟩
        obtain ⟨first, hfirst, h⟩ := bind_eq_ok_iff.1 h
        exact ⟨⟨first, hfirst⟩, (hrest fun _ => ⟨_, rfl⟩).1 ⟨source, h⟩⟩
      · rintro ⟨⟨first, hfirst⟩, h⟩
        obtain ⟨source, hsource⟩ := (hrest fun rest => ⟨first ++ rest, rfl⟩).2 h
        exact ⟨source, bind_eq_ok_iff.2 ⟨first, hfirst, hsource⟩⟩

/-- The source of tokens is read as their parts. -/
theorem reads_route {number : Nat} {tokens : List Token} {source : Text}
    (hkeys : ∀ key ∈ keysOf tokens, key.IsPlain) (h : routeSource number tokens = .ok source) :
    Reads ic (number + 1) source (routeParts ic number tokens)
      (keyGroupsFrom number (keysOf tokens).length) := by
  induction tokens generalizing number source with
  | nil =>
    cases h
    exact .nil
  | cons token tokens ih =>
    cases token with
    | literal text =>
      obtain ⟨rest, hrest, h⟩ := bind_eq_ok_iff.1 h
      cases h
      exact (Reads.text text).append (ih hkeys hrest) (routeSource_head hrest)
    | group text modifier =>
      obtain ⟨rest, hrest, h⟩ := bind_eq_ok_iff.1 h
      cases h
      exact ((Reads.text text).framed modifier).append (ih hkeys hrest) (routeSource_head hrest)
    | key key =>
      obtain ⟨first, hfirst, h⟩ := bind_eq_ok_iff.1 h
      obtain ⟨rest, hrest, h⟩ := bind_eq_ok_iff.1 h
      cases h
      have hkey : key.IsPlain := hkeys key (.head _)
      have htokens : ∀ key ∈ keysOf tokens, key.IsPlain := fun k hk => hkeys k (.tail _ hk)
      exact (reads_key hkey hfirst).append (ih htokens hrest) (routeSource_head hrest)

/-- The names of the groups of the tail. -/
def tailGroups (strict : Bool) : List Text := if strict then [] else [trailGroup]

/-- The group of a delimiter at the end. -/
theorem reads_trail :
    ReadsBefore rest ic m "(?P<trail>[/#?])".toList [trailPart ic m] [trailGroup] := by
  have hdelimiter : Reads ic (m + 1) "[/#?]".toList [delimiterPart ic] [] := fun _ _ => .delimiter
  exact (hdelimiter.inside []).capture isGroupName_trail rest

/-- The source of the tail is read as its parts. -/
theorem reads_tail (ic : Bool) (m : Nat) (tail : Tail) (strict : Bool) :
    Reads ic m (tail.source strict) (tail.parts ic strict m) (tailGroups strict) := by
  have hend : ∀ {m}, Reads ic m "$".toList [endPart] [] := .textEnd
  have hdelimiter : ∀ {m}, Reads ic m "[/#?]".toList [delimiterPart ic] [] :=
    fun _ _ => .delimiter
  have htrail : Reads ic m ("(?P<trail>[/#?])".toList ++ "$".toList)
      [trailPart ic m, endPart] [trailGroup] :=
    Reads.append (fun _ _ => reads_trail) hend (by decide)
  cases tail with
  | pathEnd =>
    cases strict with
    | true => exact hend
    | false =>
      have hmaybe : Reads ic m ("(?P<trail>[/#?])".toList ++ Modifier.text (some .optional))
          [(trailPart ic m).modified (some .optional)] [trailGroup] :=
        fun _ hrest => reads_trail.modified rfl hrest
      have h := hmaybe.append hend (by decide)
      exact h
  | anything =>
    cases strict with
    | true => exact .nil
    | false =>
      have h := htrail.framed (some .optional)
      exact h
  | boundary =>
    cases strict with
    | true =>
      have h := (Reads.branch (m := m) hdelimiter
        (hend.inside [Part.joined [delimiterPart ic]])).group
      exact fun rest _ => h rest
    | false =>
      have h := (htrail.branch (hdelimiter.branch (hend.inside
        [Part.joined [delimiterPart ic], Part.joined [trailPart ic m, endPart]]))).group
      exact fun rest _ => h rest

/-! ## Nesting -/

section
variable {n : Nat} {ps : List Part} {p : Part}

/-- Parts in sequence are nested one deeper than the deepest of them. -/
theorem height_joined_le (h : ∀ q ∈ ps, q.height ≤ n) : (Part.joined ps).height ≤ n + 1 := by
  have hfold : ∀ (qs : List Part) (k : Nat), k ≤ n → (∀ q ∈ qs, q.height ≤ n) →
      qs.foldl (fun k q => max k q.height) k ≤ n := by
    intro qs
    induction qs with
    | nil => exact fun k hk _ => hk
    | cons q qs ih =>
      intro k hk hq
      exact ih _ (Nat.max_le.2 ⟨hk, hq q (.head _)⟩) fun q' h => hq q' (.tail _ h)
  have hrev : ∀ q ∈ ps.reverse, q.height ≤ n := fun q hq => h q (List.mem_reverse.1 hq)
  unfold Part.joined Level.branch
  simp only
  split
  · exact Nat.zero_le _
  · next q hq =>
    rw [hq] at hrev
    exact Nat.le_succ_of_le (hrev q (.head _))
  · exact Nat.succ_le_succ (hfold _ 0 (Nat.zero_le _) hrev)

/-- A part with a modifier is nested one deeper than without. -/
theorem height_modified_le (modifier : Modifier) (h : p.height ≤ n) :
    (p.modified modifier).height ≤ n + 1 := by
  cases modifier with
  | none => exact Nat.le_succ_of_le h
  | some q => cases q <;> exact Nat.succ_le_succ h

/-- A modifier makes no directive. -/
theorem directive_modified (modifier : Modifier) (h : p.directive = false) :
    (p.modified modifier).directive = false := by
  cases modifier with
  | none => exact h
  | some q => cases q <;> rfl

/-- A character is not nested at all. -/
theorem height_textParts {t : Text} (h : p ∈ textParts ic t) : p.height ≤ n := by
  obtain ⟨c, -, rfl⟩ := List.mem_map.1 h
  exact Nat.zero_le _

/-- A character is no directive. -/
theorem directive_textParts {t : Text} (h : p ∈ textParts ic t) : p.directive = false := by
  obtain ⟨c, -, rfl⟩ := List.mem_map.1 h
  rfl

/-- How deep the value of a key is nested. -/
theorem height_valuePart (pattern : Text) : (valuePart ic pattern).height ≤ 3 := by
  unfold valuePart
  split <;> simp [Part.repeated, Part.plain]

/-- Parts between two texts are nested no deeper than by themselves. -/
theorem height_between {qs : List Part} {t u : Text} (h : ∀ q ∈ qs, q.height ≤ n) :
    ∀ q ∈ textParts ic t ++ (qs ++ textParts ic u), q.height ≤ n := by
  intro q hq
  rcases List.mem_append.1 hq with hq | hq
  · exact height_textParts hq
  · rcases List.mem_append.1 hq with hq | hq
    · exact h q hq
    · exact height_textParts hq

/-- How deep repeated values of a key are nested. -/
theorem height_repeatParts (key : Key) : ∀ q ∈ repeatParts ic key, q.height ≤ 7 := by
  have hvalue : ((Part.joined [valuePart ic key.pattern]).wrapped .plain).height ≤ 4 :=
    Nat.succ_le_succ (height_valuePart key.pattern)
  have hmore : ∀ q ∈ textParts ic key.tail ++ (textParts ic key.lead ++
      [(Part.joined [valuePart ic key.pattern]).wrapped .plain]), q.height ≤ 4 := by
    intro q hq
    rw [← List.append_assoc] at hq
    rcases List.mem_append.1 hq with hq | hq
    · rcases List.mem_append.1 hq with hq | hq <;> exact height_textParts hq
    · obtain rfl := List.mem_singleton.1 hq
      exact hvalue
  intro q hq
  rcases List.mem_cons.1 hq with rfl | hq
  · exact Nat.le_trans hvalue (by decide)
  · obtain rfl := List.mem_singleton.1 hq
    exact height_modified_le _ (Nat.succ_le_succ (height_joined_le hmore))

/-- How deep the part of a key is nested. -/
theorem height_keyPart (number : Nat) (key : Key) : (keyPart ic number key).height ≤ 12 := by
  have hframed : ∀ {qs : List Part} (modifier : Modifier), (∀ q ∈ qs, q.height ≤ 7) →
      ((framed ic number key qs).modified modifier).height ≤ 12 := by
    intro qs modifier hqs
    have hcapture : ∀ q ∈ [capturePart number qs], q.height ≤ 9 := by
      intro q hq
      obtain rfl := List.mem_singleton.1 hq
      exact Nat.succ_le_succ (height_joined_le hqs)
    exact height_modified_le _ (Nat.succ_le_succ (height_joined_le (height_between hcapture)))
  have hvalue : ∀ q ∈ [valuePart ic key.pattern], q.height ≤ 7 := by
    intro q hq
    obtain rfl := List.mem_singleton.1 hq
    exact Nat.le_trans (height_valuePart key.pattern) (by decide)
  unfold keyPart
  simp only
  split
  · refine Nat.le_trans (height_modified_le _ (Nat.succ_le_succ (height_joined_le hvalue))) ?_
    decide
  · split
    · exact hframed _ (height_repeatParts key)
    · exact hframed _ hvalue

/-- How deep the parts of tokens are nested. -/
theorem height_routeParts (number : Nat) (tokens : List Token) :
    ∀ q ∈ routeParts ic number tokens, q.height ≤ 12 := by
  induction tokens generalizing number with
  | nil => exact nofun
  | cons token tokens ih =>
    intro q hq
    cases token with
    | literal text =>
      rcases List.mem_append.1 hq with hq | hq
      · exact height_textParts hq
      · exact ih number q hq
    | group text modifier =>
      rcases List.mem_cons.1 hq with rfl | hq
      · have htext : ∀ q ∈ textParts ic text, q.height ≤ 0 := fun _ => height_textParts
        refine Nat.le_trans (height_modified_le _ (Nat.succ_le_succ (height_joined_le htext))) ?_
        decide
      · exact ih number q hq
    | key key =>
      rcases List.mem_cons.1 hq with rfl | hq
      · exact height_keyPart number key
      · exact ih (number + 1) q hq

/-- How deep the parts of the tail are nested, none of which is a directive. -/
theorem height_tail (ic : Bool) (tail : Tail) (strict : Bool) (captures : Nat) :
    ∀ q ∈ tail.parts ic strict captures, q.height ≤ 12 ∧ q.directive = false := by
  have hall : ((tail.parts ic strict captures).all fun q => q.height ≤ 12 && !q.directive) =
      true := by
    cases tail <;> cases strict <;> rfl
  intro q hq
  simpa using List.all_eq_true.1 hall q hq

end

/-- The value of a key is no directive. -/
theorem directive_value {key : Key} : ∀ p ∈ [valuePart ic key.pattern], p.directive = false := by
  intro p hp
  obtain rfl := List.mem_singleton.1 hp
  unfold valuePart
  split <;> rfl

/-- Characters around parts add no directive. -/
theorem directive_between {qs : List Part} {t u : Text} (h : ∀ q ∈ qs, q.directive = false) :
    ∀ q ∈ textParts ic t ++ (qs ++ textParts ic u), q.directive = false := by
  intro q hq
  rcases List.mem_append.1 hq with hq | hq
  · exact directive_textParts hq
  · rcases List.mem_append.1 hq with hq | hq
    · exact h q hq
    · exact directive_textParts hq

/-- What separates two values of a key has no directive. -/
theorem directive_separated {key : Key} : ∀ p ∈ textParts ic key.tail ++ (textParts ic key.lead ++
    [(Part.joined [valuePart ic key.pattern]).wrapped .plain]), p.directive = false := by
  intro p hp
  rw [← List.append_assoc] at hp
  rcases List.mem_append.1 hp with hp | hp
  · rcases List.mem_append.1 hp with hp | hp <;> exact directive_textParts hp
  · obtain rfl := List.mem_singleton.1 hp
    rfl

/-- The group of a key between lead and tail has no directive. -/
theorem directive_framed {key : Key} {number : Nat} {qs : List Part} :
    ∀ q ∈ textParts ic key.lead ++ ([capturePart number qs] ++ textParts ic key.tail),
      q.directive = false := by
  refine directive_between fun q hq => ?_
  obtain rfl := List.mem_singleton.1 hq
  rfl

/-- Repeated values of a key have no directive. -/
theorem directive_repeatParts {key : Key} : ∀ p ∈ repeatParts ic key, p.directive = false := by
  intro p hp
  rcases List.mem_cons.1 hp with rfl | hp
  · rfl
  · obtain rfl := List.mem_singleton.1 hp
    exact directive_modified _ rfl

/-- The part of a key is no directive. -/
theorem directive_keyPart (number : Nat) (key : Key) :
    (keyPart ic number key).directive = false := by
  unfold keyPart
  simp only
  split
  · exact directive_modified _ rfl
  · split <;> exact directive_modified _ rfl

/-- The parts of tokens have no directive. -/
theorem directive_routeParts (number : Nat) (tokens : List Token) :
    ∀ q ∈ routeParts ic number tokens, q.directive = false := by
  induction tokens generalizing number with
  | nil => exact nofun
  | cons token tokens ih =>
    intro q hq
    cases token with
    | literal text =>
      rcases List.mem_append.1 hq with hq | hq
      · exact directive_textParts hq
      · exact ih number q hq
    | group text modifier =>
      rcases List.mem_cons.1 hq with rfl | hq
      · exact directive_modified _ rfl
      · exact ih number q hq
    | key key =>
      rcases List.mem_cons.1 hq with rfl | hq
      · exact directive_keyPart number key
      · exact ih (number + 1) q hq

end

/-! ## The whole recognizer -/

/-- The recognizer of a pattern whose keys have no expressions of their own, as an expression. -/
def recognizerRegex (tokens : List Token) (options : Options) : Regex :=
  inSequence ((recognizerParts tokens options).map Part.regex)

/-- There is one group for each key. -/
theorem length_keyGroupsFrom (number count : Nat) :
    (keyGroupsFrom number count).length = count := by
  rw [keyGroupsFrom, List.length_map, List.length_range']

/-- The names of all groups of a recognizer are different. -/
theorem nodup_groups (strict : Bool) (count : Nat) :
    (routeGroup :: keyGroupsFrom 0 count ++ tailGroups strict).Nodup := by
  have hkey : ∀ x ∈ keyGroupsFrom 0 count, x ≠ routeGroup ∧ x ≠ trailGroup := by
    intro x hx
    obtain ⟨i, -, rfl⟩ := List.mem_map.1 hx
    exact ⟨keyGroup_ne_route i, keyGroup_ne_trail i⟩
  refine List.nodup_append.2 ⟨List.nodup_cons.2 ⟨fun h => (hkey _ h).1 rfl,
    nodup_keyGroupsFrom 0 count⟩, ?_, ?_⟩
  · cases strict <;> simp [tailGroups]
  · intro x hx y hy
    have hy : y = trailGroup := by
      cases strict with
      | true => cases hy
      | false => exact List.mem_singleton.1 hy
    subst hy
    rcases List.mem_cons.1 hx with rfl | hx
    · decide
    · exact (hkey x hx).2

/-- The source of a recognizer is read as the expression of its parts. -/
theorem read_recognizerSource {tokens : List Token} {options : Options} {source : Text}
    (hkeys : ∀ key ∈ keysOf tokens, key.IsPlain)
    (h : recognizerSource tokens options = .ok source) :
    Regex.read (!options.sensitive) source = some (recognizerRegex tokens options) := by
  obtain ⟨route, hroute, h⟩ := bind_eq_ok_iff.1 h
  cases h
  have hinner : Reads (!options.sensitive) (0 + 1) route _ _ := reads_route hkeys hroute
  have hgroup : Reads (!options.sensitive) 0
      ("(?P<".toList ++ routeGroup ++ ">".toList ++ route ++ ")".toList) _ _ :=
    fun _ _ => (hinner.inside []).capture isGroupName_route _
  have hcount : (keysOf tokens).length + 1 =
      0 + ([] ++ routeGroup :: keyGroupsFrom 0 (keysOf tokens).length).length := by
    simp [length_keyGroupsFrom]
  have htail := reads_tail (!options.sensitive) ((keysOf tokens).length + 1)
    (tailOf tokens options) options.strict
  have hheight := height_tail (!options.sensitive) (tailOf tokens options) options.strict
    ((keysOf tokens).length + 1)
  have hroute : ((Part.joined (routeParts (!options.sensitive) 0 tokens)).wrapped
      (.capture 1 (some routeGroup))).height ≤ 14 :=
    Nat.succ_le_succ (height_joined_le (height_routeParts 0 tokens))
  have hparts : ∀ q ∈ recognizerParts tokens options, q.height ≤ 14 ∧ q.directive = false := by
    intro q hq
    rcases List.mem_append.1 hq with hq | hq
    · rcases List.mem_cons.1 hq with rfl | hq
      · exact ⟨Nat.zero_le _, rfl⟩
      · obtain rfl := List.mem_singleton.1 hq
        exact ⟨hroute, rfl⟩
    · exact ⟨Nat.le_trans (hheight q hq).1 (by decide), (hheight q hq).2⟩
  have hhead : ((tailOf tokens options).source options.strict).head? ≠ some '?' := by
    cases tailOf tokens options <;> cases options.strict <;> decide
  have hwhole : Reads (!options.sensitive) 0
      (['^'] ++ ("(?P<".toList ++ routeGroup ++ ">".toList ++ route ++ ")".toList) ++
        (tailOf tokens options).source options.strict)
      (recognizerParts tokens options)
      (routeGroup :: keyGroupsFrom 0 (keysOf tokens).length ++ tailGroups options.strict) :=
    (Reads.textStart.append hgroup (by simp)).append (by rw [← hcount]; exact htail) hhead
  refine read_of_reads hwhole (nodup_groups options.strict (keysOf tokens).length)
    (fun q hq => (hparts q hq).2) ?_
  exact Nat.le_trans (height_joined_le fun q hq => (hparts q hq).1) (by decide)

end NestedRouting
