import NestedRouting.Pattern.Lexeme

/-!
# From lexemes to tokens

`parse` reads a pattern into tokens. Plain characters gather into literals. A slot (a name with or
without a group, a group, or a bare star) becomes a key; a `/` or `.` written directly in front of
it becomes the lead of that key. In braces a key takes all the text around it.

Reading goes in steps: `step` reads the lexemes of one character or one key and says what is left,
which is always shorter (`step_shorter`).
-/

namespace NestedRouting

/-- The regular expression of a key without a group of its own. -/
def defaultPattern : Text := "[^/#?]+?".toList

/-- The regular expression of a wildcard. -/
def wildcardPattern : Text := ".*".toList

/-- Whether a character in front of a key belongs to the key. -/
def isLead (c : Char) : Bool := c == '/' || c == '.'

/-- The capturing part of a key as it is written. -/
inductive Slot
  | named (name : Text) (pattern : Option Text)
  | positional (pattern : Text)
  | wildcard
  deriving DecidableEq, Repr

/-- A name with or without a group, or a group, at the front. -/
def takeParameter : List Located → Option (Slot × List Located)
  | ⟨_, .name name⟩ :: ⟨_, .group body⟩ :: xs => some (.named name (some body), xs)
  | ⟨_, .name name⟩ :: xs => some (.named name none, xs)
  | ⟨_, .group body⟩ :: xs => some (.positional body, xs)
  | _ => none

/-- A slot at the front. -/
def takeSlot : List Located → Option (Slot × List Located)
  | ⟨_, .quantifier .zeroOrMore⟩ :: xs => some (.wildcard, xs)
  | xs => takeParameter xs

/-- A modifier at the front. -/
def takeModifier : List Located → Modifier × List Located
  | ⟨_, .quantifier q⟩ :: xs => (some q, xs)
  | xs => (none, xs)

/-- The plain and escaped characters at the front. -/
def takeText : List Located → Text × List Located
  | ⟨_, .char c⟩ :: xs => let (s, rest) := takeText xs; (c :: s, rest)
  | ⟨_, .escaped c⟩ :: xs => let (s, rest) := takeText xs; (c :: s, rest)
  | xs => ([], xs)

/-- What has been read of a pattern: the tokens, the literal text since the last of them, and how
many keys without a name there have been. -/
structure Draft where
  tokens : List Token
  literal : Text
  unnamed : Nat
  deriving DecidableEq, Repr

namespace Draft

/-- Nothing read. -/
def empty : Draft := ⟨[], [], 0⟩

/-- Adds a character to the literal. -/
def pushChar (d : Draft) (c : Char) : Draft := { d with literal := d.literal ++ [c] }

/-- Ends the literal, which becomes a token unless it is empty. -/
def flush (d : Draft) : Draft :=
  if d.literal.isEmpty then d
  else { d with tokens := d.tokens ++ [.literal d.literal], literal := [] }

/-- Ends the literal and adds a token. -/
def pushToken (d : Draft) (t : Token) : Draft :=
  let d := d.flush
  { d with tokens := d.tokens ++ [t] }

/-- Ends the literal and adds a key; a key without a name takes the next number. -/
def pushSlot (d : Draft) (slot : Slot) (lead tail : Text) (modifier : Modifier) : Draft :=
  match slot with
  | .named name pattern =>
    d.pushToken (.key ⟨name, .named, lead, tail, pattern.getD defaultPattern, modifier⟩)
  | .positional pattern =>
    { d.pushToken (.key ⟨Text.ofNat d.unnamed, .positional, lead, tail, pattern, modifier⟩) with
      unnamed := d.unnamed + 1 }
  | .wildcard =>
    { d.pushToken (.key ⟨Text.ofNat d.unnamed, .wildcard, lead, tail, wildcardPattern, modifier⟩) with
      unnamed := d.unnamed + 1 }

end Draft

/-- Adds the key of a slot and reads its modifier; a wildcard has none. -/
def finishSlot (d : Draft) (slot : Slot) (lead : Text) (xs : List Located) :
    Draft × List Located :=
  match slot with
  | .wildcard => (d.pushSlot .wildcard lead [] none, xs)
  | slot =>
    let (modifier, rest) := takeModifier xs
    (d.pushSlot slot lead [] modifier, rest)

/-- The error at the front of the lexemes, where another kind of lexeme is wanted. -/
def unexpectedAt (expected : LexemeKind) : List Located → SyntaxError
  | [] => .unexpected .finish 0 expected
  | x :: _ => .unexpected x.lexeme.kind x.index expected

/-- Reads what follows an opening brace: text, perhaps a parameter, text, the closing brace and a
modifier. -/
def readBraces (d : Draft) (xs : List Located) : Except SyntaxError (Draft × List Located) :=
  let (lead, xs) := takeText xs
  let (slot, xs) := match takeParameter xs with
    | some (slot, xs) => (some slot, xs)
    | none => (none, xs)
  let (tail, xs) := takeText xs
  match xs with
  | ⟨_, .closeBrace⟩ :: xs =>
    let (modifier, rest) := takeModifier xs
    match slot with
    | some slot => .ok (d.pushSlot slot lead tail modifier, rest)
    | none => .ok (d.pushToken (.group (lead ++ tail) modifier), rest)
  | xs => .error (unexpectedAt .closeBrace xs)

/-- Reads the lexemes of one character, one key or one group, or the end. -/
def step (d : Draft) (xs : List Located) : Except SyntaxError (Draft × List Located) :=
  match takeSlot xs with
  | some (slot, rest) => .ok (finishSlot d slot [] rest)
  | none =>
    match xs with
    | ⟨_, .char c⟩ :: rest =>
      match takeSlot rest with
      | some (slot, rest) =>
        if isLead c then .ok (finishSlot d slot [c] rest)
        else .ok (finishSlot (d.pushChar c) slot [] rest)
      | none => .ok (d.pushChar c, rest)
    | ⟨_, .escaped c⟩ :: rest => .ok (d.pushChar c, rest)
    | ⟨_, .openBrace⟩ :: rest => readBraces d rest
    | ⟨_, .finish⟩ :: rest => .ok (d.flush, rest)
    | xs => .error (unexpectedAt .finish xs)

/-- A parameter takes at least one lexeme. -/
theorem takeParameter_shorter {xs rest : List Located} {slot : Slot}
    (h : takeParameter xs = some (slot, rest)) : rest.length < xs.length := by
  unfold takeParameter at h
  split at h
  case h_4 => simp at h
  all_goals
    simp only [Option.some.injEq, Prod.mk.injEq] at h
    simp only [List.length_cons, ← h.2]
    omega

/-- A slot takes at least one lexeme. -/
theorem takeSlot_shorter {xs rest : List Located} {slot : Slot}
    (h : takeSlot xs = some (slot, rest)) : rest.length < xs.length := by
  unfold takeSlot at h
  split at h
  · simp_all
  · exact takeParameter_shorter h

/-- A modifier adds no lexemes to those that follow. -/
theorem takeModifier_le (xs : List Located) : (takeModifier xs).2.length ≤ xs.length := by
  unfold takeModifier
  split <;> simp

/-- A text adds no lexemes to those that follow. -/
theorem takeText_le (xs : List Located) : (takeText xs).2.length ≤ xs.length := by
  fun_induction takeText xs <;> simp_all <;> omega

/-- The end of a slot adds no lexemes to those that follow. -/
theorem finishSlot_le {d d' : Draft} {slot : Slot} {lead : Text} {xs rest : List Located}
    (h : finishSlot d slot lead xs = (d', rest)) : rest.length ≤ xs.length := by
  unfold finishSlot at h
  split at h
  · simp_all
  · have := takeModifier_le xs
    simp_all

/-- Braces add no lexemes to those that follow. -/
theorem readBraces_le {d d' : Draft} {xs rest : List Located}
    (h : readBraces d xs = .ok (d', rest)) : rest.length ≤ xs.length := by
  unfold readBraces at h
  have hlead := takeText_le xs
  generalize takeText xs = t at h hlead
  obtain ⟨lead, ys⟩ := t
  have hslot : ∀ slot zs, (match takeParameter ys with
      | some (slot, zs) => (some slot, zs)
      | none => (none, ys)) = (slot, zs) → zs.length ≤ ys.length := by
    intro slot zs hz
    split at hz
    · next hp =>
      have := takeParameter_shorter hp
      simp_all
      omega
    · simp_all
  simp only at h
  generalize hz : (match takeParameter ys with
      | some (slot, zs) => (some slot, zs)
      | none => (none, ys)) = z at h
  obtain ⟨slot, zs⟩ := z
  have hzs := hslot slot zs hz
  have htail := takeText_le zs
  generalize takeText zs = t at h htail
  obtain ⟨tail, ws⟩ := t
  simp only at h htail hlead
  split at h
  · next us =>
    have hm := takeModifier_le us
    simp only [List.length_cons] at htail
    split at h <;> simp only [Except.ok.injEq, Prod.mk.injEq] at h <;> rw [← h.2] <;> omega
  · simp at h

/-- A step takes at least one lexeme. -/
theorem step_shorter {d d' : Draft} {xs rest : List Located}
    (h : step d xs = .ok (d', rest)) : rest.length < xs.length := by
  unfold step at h
  split at h
  · next hs =>
    have := finishSlot_le (Except.ok.inj h)
    have := takeSlot_shorter hs
    omega
  · split at h
    · split at h
      · next hs =>
        have := takeSlot_shorter hs
        split at h <;>
        · have := finishSlot_le (Except.ok.inj h)
          simp only [List.length_cons]
          omega
      · simp_all
    · simp_all
    · exact Nat.lt_succ_of_le (readBraces_le h)
    · simp_all
    · simp at h

/-- Reads lexemes until none is left. -/
def parseFrom (d : Draft) (xs : List Located) : Except SyntaxError (List Token) :=
  match xs with
  | [] => .ok d.tokens
  | x :: xs =>
    match h : step d (x :: xs) with
    | .error e => .error e
    | .ok (d', rest) =>
      have : rest.length < (x :: xs).length := step_shorter h
      parseFrom d' rest
termination_by xs.length
decreasing_by
  simp only [List.length_cons] at this ⊢
  omega

/-- The tokens of a pattern. -/
def parse (source : Text) : Except SyntaxError (List Token) :=
  match lex source with
  | .error e => .error e
  | .ok xs => parseFrom .empty xs

end NestedRouting
