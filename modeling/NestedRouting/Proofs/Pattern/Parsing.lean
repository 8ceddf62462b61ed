import NestedRouting.Proofs.Pattern.Edits
import NestedRouting.Proofs.Pattern.Mounted

/-!
# Parsing behind a text

The reading of lexemes is a list of edits of a draft, the same wherever the lexemes stand and whatever
has been read before (`parseFrom_edits`). So behind a text the same tokens are read, with the text in
front of them, and only a key at the very start takes the last character of the text as its lead
(`parse_escapeSource`). A pattern without groups of its own parses to plain keys, and behind a base it
compiles if and only if it compiles by itself (`compile_base`).
-/

namespace NestedRouting

variable {P : Lexeme → Prop} {xs : List Located}

/-! ## Drafts behind a base -/

namespace Draft

variable {b : Text} {d e : Draft}

/-- Whether a draft is another one behind a base. -/
inductive Behind (b : Text) (d e : Draft) : Prop
  /-- No token has been read: the base is a part of the literal. -/
  | literal : d.tokens = [] → e.tokens = [] → e.literal = b ++ d.literal →
    e.unnamed = d.unnamed → Behind b d e
  | tokens : d.tokens ≠ [] → d.tokens.head? ≠ some (.literal []) →
    e.tokens = prependTokens b d.tokens → e.literal = d.literal → e.unnamed = d.unnamed →
    Behind b d e

/-- A text in front of tokens is in front of more tokens too. -/
theorem prependTokens_append {ts us : List Token} (h : ts ≠ []) :
    prependTokens b (ts ++ us) = prependTokens b ts ++ us := by
  match ts with
  | [] => exact absurd rfl h
  | .literal _ :: _ | .group .. :: _ | .key _ :: _ => rfl

/-- A literal that has come to an end is a token if it is not empty. -/
theorem tokens_flush (d : Draft) : d.flush.tokens =
    d.tokens ++ if d.literal = [] then [] else [.literal d.literal] := by
  unfold flush
  cases d.literal with
  | nil => exact (List.append_nil _).symm
  | cons c s => rfl

/-- No literal goes on behind its end. -/
theorem literal_flush (d : Draft) : d.flush.literal = [] := by
  unfold flush
  cases h : d.literal with
  | nil => exact h
  | cons c s => rfl

/-- The end of a literal gives no number to a key. -/
theorem unnamed_flush (d : Draft) : d.flush.unnamed = d.unnamed := by
  unfold flush
  split <;> rfl

/-- What tokens stand for, one by one, where literals stand for their characters one by one. -/
theorem flatMap_flush {α : Type} {f : Token → List α} {g : Char → α}
    (hf : ∀ t, f (.literal t) = t.map g) (d : Draft) :
    d.flush.tokens.flatMap f = d.tokens.flatMap f ++ d.literal.map g := by
  rw [tokens_flush, List.flatMap_append]
  split
  · next h =>
    rw [h]
    rfl
  · rw [List.flatMap_singleton, hf]

/-- A token that is read adds what it stands for, behind the literal before it. -/
theorem flatMap_pushToken {α : Type} {f : Token → List α} {g : Char → α}
    (hf : ∀ t, f (.literal t) = t.map g) (d : Draft) (t : Token) :
    (d.pushToken t).tokens.flatMap f ++ (d.pushToken t).literal.map g =
      d.tokens.flatMap f ++ d.literal.map g ++ f t := by
  show (d.flush.tokens ++ [t]).flatMap f ++ d.flush.literal.map g = _
  rw [List.flatMap_append, flatMap_flush hf, literal_flush, List.flatMap_singleton, List.map_nil,
    List.append_nil]

/-- A character that is read adds what it stands for. -/
theorem flatMap_pushChar {α : Type} {f : Token → List α} {g : Char → α} (d : Draft) (c : Char) :
    (d.pushChar c).tokens.flatMap f ++ (d.pushChar c).literal.map g =
      d.tokens.flatMap f ++ d.literal.map g ++ [g c] := by
  show d.tokens.flatMap f ++ (d.literal ++ [c]).map g = _
  rw [List.map_append, ← List.append_assoc]
  rfl

/-- The tokens of drafts that come to an end. -/
theorem Behind.flush (h : Behind b d e) (hb : b ≠ []) :
    e.flush.tokens = prependTokens b d.flush.tokens ∧
      d.flush.tokens.head? ≠ some (.literal []) := by
  rw [tokens_flush, tokens_flush]
  cases h with
  | literal hd he hliteral hunnamed =>
    have hne : b ++ d.literal ≠ [] := fun h => hb (List.append_eq_nil_iff.1 h).1
    rw [hd, he, hliteral, if_neg hne]
    split
    · next h =>
      rw [h, List.append_nil]
      exact ⟨rfl, nofun⟩
    · next h => exact ⟨rfl, fun hnil => h (Token.literal.inj (Option.some.inj hnil))⟩
  | tokens hne hhead htokens hliteral hunnamed =>
    rw [htokens, hliteral, prependTokens_append hne, List.head?_append,
      List.head?_eq_some_head hne, Option.some_or, ← List.head?_eq_some_head hne]
    exact ⟨rfl, hhead⟩

/-- A base has no keys, so as many keys without a name have been read. -/
theorem Behind.unnamed_eq (h : Behind b d e) : e.unnamed = d.unnamed := by
  cases h with
  | literal _ _ _ h | tokens _ _ _ _ h => exact h

/-- A group or a key behind a base. -/
theorem Behind.pushToken (h : Behind b d e) (hb : b ≠ []) {t : Token}
    (ht : ∀ text, t ≠ .literal text) : Behind b (d.pushToken t) (e.pushToken t) := by
  obtain ⟨htokens, hhead⟩ := h.flush hb
  have hunnamed := h.unnamed_eq
  have hdtokens : (d.pushToken t).tokens = d.flush.tokens ++ [t] := rfl
  have hetokens : (e.pushToken t).tokens = e.flush.tokens ++ [t] := rfl
  refine .tokens ?_ ?_ ?_ ((literal_flush e).trans (literal_flush d).symm)
    ((unnamed_flush e).trans (hunnamed.trans (unnamed_flush d).symm))
  · rw [hdtokens]
    exact List.append_ne_nil_of_right_ne_nil _ (List.cons_ne_nil t [])
  · rw [hdtokens]
    cases hflush : d.flush.tokens with
    | nil => exact fun h => ht [] (Option.some.inj h)
    | cons x xs =>
      rw [hflush] at hhead
      exact hhead
  · rw [hdtokens, hetokens, htokens]
    by_cases hflush : d.flush.tokens = []
    · rw [hflush]
      cases t with
      | literal text => exact absurd rfl (ht text)
      | group | key => rfl
    · exact (prependTokens_append hflush).symm

/-- A character goes to the literal, behind the base or not. -/
theorem Behind.pushChar (h : Behind b d e) (c : Char) : Behind b (d.pushChar c) (e.pushChar c) := by
  cases h with
  | literal hd he hliteral hunnamed =>
    refine .literal hd he ?_ hunnamed
    simp only [Draft.pushChar, hliteral, List.append_assoc]
  | tokens hne hhead htokens hliteral hunnamed =>
    refine .tokens hne hhead htokens ?_ hunnamed
    simp only [Draft.pushChar, hliteral]

/-- The number of keys without a name does not depend on a base. -/
theorem Behind.withUnnamed (h : Behind b d e) (n : Nat) :
    Behind b { d with unnamed := n } { e with unnamed := n } := by
  cases h with
  | literal hd he hliteral => exact .literal hd he hliteral rfl
  | tokens hne hhead htokens hliteral => exact .tokens hne hhead htokens hliteral rfl

/-- A key with its lead and tail behind a base. -/
theorem Behind.pushSlot (h : Behind b d e) (hb : b ≠ []) (slot : Slot) (lead tail : Text)
    (m : Modifier) : Behind b (d.pushSlot slot lead tail m) (e.pushSlot slot lead tail m) := by
  have hunnamed := h.unnamed_eq
  cases slot with
  | named name pattern => exact h.pushToken hb nofun
  | positional pattern | wildcard =>
    simp only [Draft.pushSlot, hunnamed]
    refine (h.pushToken hb ?_).withUnnamed _
    exact nofun

/-- Edits keep a draft behind a base. -/
theorem Behind.edits (h : Behind b d e) (hb : b ≠ []) (es : List Edit) :
    Behind b (es.foldl Draft.edit d) (es.foldl Draft.edit e) := by
  induction es generalizing d e with
  | nil => exact h
  | cons x es ih =>
    refine ih ?_
    cases x with
    | char c => exact h.pushChar c
    | group text modifier => exact h.pushToken hb nofun
    | slot slot lead tail modifier => exact h.pushSlot hb slot lead tail modifier

/-- Whether all keys that have been read are plain. -/
def IsPlain (d : Draft) : Prop := ∀ key ∈ keysOf d.tokens, key.IsPlain

/-- The keys of tokens and more tokens. -/
theorem keysOf_append (ts us : List Token) : keysOf (ts ++ us) = keysOf ts ++ keysOf us :=
  List.filterMap_append

/-- The end of a literal adds no key. -/
theorem IsPlain.flush (h : d.IsPlain) : d.flush.IsPlain := by
  have hkeys : keysOf d.flush.tokens = keysOf d.tokens := by
    rw [tokens_flush, keysOf_append]
    split <;> exact List.append_nil _
  rw [IsPlain, hkeys]
  exact h

/-- A token that is read adds a plain key, or none. -/
theorem IsPlain.pushToken (h : d.IsPlain) {t : Token}
    (ht : ∀ key, t.key? = some key → key.IsPlain) : (d.pushToken t).IsPlain := by
  have htokens : (d.pushToken t).tokens = d.flush.tokens ++ [t] := rfl
  intro key hkey
  rw [htokens, keysOf_append] at hkey
  rcases List.mem_append.1 hkey with hkey | hkey
  · exact h.flush key hkey
  · obtain ⟨u, hu, hkey'⟩ := List.mem_filterMap.1 hkey
    exact ht key (List.mem_singleton.1 hu ▸ hkey')

/-- Edits without groups add plain keys only. -/
theorem IsPlain.edits (h : d.IsPlain) {es : List Edit}
    (hes : ∀ e ∈ es, e.Admits fun x => ∀ body, x ≠ .group body) :
    (es.foldl Draft.edit d).IsPlain := by
  induction es generalizing d with
  | nil => exact h
  | cons x es ih =>
    refine ih ?_ fun e he => hes e (.tail _ he)
    have hx := hes x (.head _)
    cases x with
    | char c => exact h
    | group text modifier => exact h.pushToken nofun
    | slot slot lead tail modifier =>
      cases slot with
      | named name pattern =>
        have hnone : pattern = none := Option.eq_none_iff_forall_ne_some.2
          fun body hbody => hx body hbody body rfl
        subst hnone
        exact h.pushToken fun key hkey => Option.some.inj hkey ▸ .inl rfl
      | positional body => exact absurd rfl (hx body)
      | wildcard =>
        refine IsPlain.pushToken h fun key hkey => ?_
        exact Option.some.inj hkey ▸ .inr rfl

/-- A draft with tokens in front. -/
def prepend (ts : List Token) (d : Draft) : Draft := { d with tokens := ts ++ d.tokens }

/-- A literal ends in the same way behind other tokens. -/
theorem flush_prepend (ts : List Token) (d : Draft) : (d.prepend ts).flush = d.flush.prepend ts := by
  unfold flush prepend
  split
  · rfl
  · simp only [List.append_assoc]

/-- A token is read in the same way behind other tokens. -/
theorem pushToken_prepend (ts : List Token) (d : Draft) (t : Token) :
    (d.prepend ts).pushToken t = (d.pushToken t).prepend ts := by
  simp only [pushToken, flush_prepend]
  simp only [prepend, List.append_assoc]

/-- Edits leave the tokens in front as they are. -/
theorem edits_prepend (ts : List Token) (d : Draft) (es : List Edit) :
    es.foldl Draft.edit (d.prepend ts) = (es.foldl Draft.edit d).prepend ts := by
  induction es generalizing d with
  | nil => rfl
  | cons x es ih =>
    have hx : (d.prepend ts).edit x = (d.edit x).prepend ts := by
      cases x with
      | char c => rfl
      | group text modifier => exact pushToken_prepend ts d _
      | slot slot lead tail modifier =>
        cases slot with
        | named name pattern => exact pushToken_prepend ts d _
        | positional pattern | wildcard =>
          simp only [edit, pushSlot, pushToken_prepend]
          rfl
    rw [List.foldl_cons, List.foldl_cons, hx, ih]

end Draft

/-! ## Reading behind a text -/

section
variable {d d' : Draft} {xs ys rest : List Located}

/-- Where no lexeme is left the tokens have been read. -/
theorem parseFrom_nil (d : Draft) : parseFrom d [] = .ok d.tokens := by
  rw [parseFrom]

/-- A step reads a lexeme. -/
theorem ne_nil_of_step (h : step d xs = .ok (d', rest)) : xs ≠ [] := by
  rintro rfl
  cases h

/-- A step is followed by the reading of the rest. -/
theorem parseFrom_of_ok (h : step d xs = .ok (d', rest)) : parseFrom d xs = parseFrom d' rest := by
  cases xs with
  | nil => exact absurd rfl (ne_nil_of_step h)
  | cons x xs =>
    rw [parseFrom]
    split
    · next e herror =>
      rw [h] at herror
      cases herror
    · next d'' rest' hok =>
      rw [h] at hok
      cases hok
      rfl

/-- The reading fails where a step fails. -/
theorem parseFrom_of_error {e : SyntaxError} (hne : xs ≠ []) (h : step d xs = .error e) :
    parseFrom d xs = .error e := by
  cases xs with
  | nil => exact absurd rfl hne
  | cons x xs =>
    rw [parseFrom]
    split
    · next e' herror =>
      rw [h] at herror
      cases herror
      rfl
    · next d'' rest' hok =>
      rw [h] at hok
      cases hok

/-- Lexemes that are moved by nothing are read as they are. -/
theorem parseFrom_moved_zero (d : Draft) (xs : List Located) :
    parseFrom d (xs.map (.moved 0)) = parseFrom d xs := by
  rw [Located.map_moved_zero]

/-- The end of a pattern ends the literal. -/
theorem step_finish (d : Draft) (i : Nat) : step d [⟨i, .finish⟩] = .ok (d.flush, []) := rfl

/-- The reading of lexemes fails with the same error, or does the same edits, wherever the lexemes
stand and whatever has been read before. -/
theorem parseFrom_edits (h : Ended P xs) :
    (∃ e : SyntaxError, ∀ k d, parseFrom d (xs.map (.moved k)) = .error (e.moved k)) ∨
      ∃ es : List Edit, (∀ e ∈ es, e.Admits P) ∧
        ∀ k d, parseFrom d (xs.map (.moved k)) = .ok (es.foldl Draft.edit d).flush.tokens := by
  have hany : ∀ (n : Nat) (xs : List Located), xs.length ≤ n → Ended P xs →
      (∃ e : SyntaxError, ∀ k d, parseFrom d (xs.map (.moved k)) = .error (e.moved k)) ∨
        ∃ es : List Edit, (∀ e ∈ es, e.Admits P) ∧
          ∀ k d, parseFrom d (xs.map (.moved k)) = .ok (es.foldl Draft.edit d).flush.tokens := by
    intro n
    induction n with
    | zero =>
      intro xs hn h
      exact absurd (List.eq_nil_of_length_eq_zero (Nat.le_zero.1 hn)) h.ne_nil
    | succ n ih =>
      intro xs hn h
      rcases uniform_step h with ⟨i, rfl⟩ | ⟨e, herror⟩ | ⟨es, rest, hes, hrest, hstep⟩
      · refine .inr ⟨[], nofun, fun k d => ?_⟩
        exact (parseFrom_of_ok (step_finish d (k + i))).trans (parseFrom_nil d.flush)
      · refine .inl ⟨e, fun k d => parseFrom_of_error ?_ (herror k d)⟩
        exact fun hnil => h.ne_nil (List.map_eq_nil_iff.1 hnil)
      · have hshorter := step_shorter (hstep 0 .empty)
        rw [List.length_map, List.length_map] at hshorter
        rcases ih rest (by omega) hrest with ⟨e, herror⟩ | ⟨es', hes', hread⟩
        · exact .inl ⟨e, fun k d => (parseFrom_of_ok (hstep k d)).trans (herror k _)⟩
        · refine .inr ⟨es ++ es', fun e he => ?_, fun k d => ?_⟩
          · exact (List.mem_append.1 he).elim (hes e) (hes' e)
          · rw [parseFrom_of_ok (hstep k d), hread, List.foldl_append]
  exact hany xs.length xs (Nat.le_refl _) h

/-- A character that does not become the lead of a key is added to the literal. -/
theorem parseFrom_char {c : Char} (hc : isLead c = false ∨ takeSlot ys = none) (i : Nat)
    (d : Draft) :
    parseFrom d (⟨i, .char c⟩ :: ys) = parseFrom (d.pushChar c) ys := by
  have hnone : takeSlot (⟨i, .char c⟩ :: ys) = none := rfl
  cases hslot : takeSlot ys with
  | none =>
    refine parseFrom_of_ok ?_
    unfold step
    simp only [hnone, hslot]
  | some p =>
    obtain ⟨slot, rest⟩ := p
    have hlead : isLead c = false := hc.resolve_right (by rw [hslot]; exact nofun)
    have hstep : step d (⟨i, .char c⟩ :: ys) =
        .ok (finishSlot (d.pushChar c) slot [] rest) := by
      unfold step
      simp only [hnone, hslot, hlead]
      rfl
    rw [parseFrom_of_ok hstep, parseFrom_of_ok (step_slot hslot)]

/-- An escaped text of which no key takes the last character as its lead is added to the literal. -/
theorem parseFrom_escaped {t : Text} {zs : List Located}
    (hseam : (∀ c, t.getLast? = some c → isLead c = false) ∨ takeSlot ys = none)
    (hzs : zs.map Located.lexeme = escapedLexemes t) (d : Draft) :
    parseFrom d (zs ++ ys) = parseFrom { d with literal := d.literal ++ t } ys := by
  induction t generalizing zs d with
  | nil =>
    obtain rfl := List.map_eq_nil_iff.1 hzs
    rw [List.append_nil]
    rfl
  | cons c t ih =>
    obtain ⟨⟨i, x⟩, zs, rfl, hx, hzs⟩ := List.map_eq_cons_iff.1 hzs
    have hlast : (∀ c', t.getLast? = some c' → isLead c' = false) ∨ takeSlot ys = none := by
      refine hseam.imp_left fun h c' hc' => h c' ?_
      rw [List.getLast?_cons, hc']
      rfl
    have hchar : parseFrom d (⟨i, x⟩ :: (zs ++ ys)) = parseFrom (d.pushChar c) (zs ++ ys) := by
      have hx : x = if isSpecial c then .escaped c else .char c := hx
      cases hc : isSpecial c with
      | true =>
        rw [hx, hc]
        exact parseFrom_of_ok rfl
      | false =>
        rw [hx, hc]
        refine parseFrom_char ?_ i d
        match t, hzs with
        | [], hzs =>
          obtain rfl := List.map_eq_nil_iff.1 hzs
          exact hseam.imp_left fun h => h c rfl
        | c' :: t, hzs =>
          obtain ⟨⟨j, y⟩, zs', rfl, hy, -⟩ := List.map_eq_cons_iff.1 hzs
          have hy : y = if isSpecial c' then .escaped c' else .char c' := hy
          refine .inr ?_
          rw [hy]
          cases isSpecial c' <;> rfl
    rw [List.cons_append, hchar, ih hlast hzs]
    simp only [Draft.pushChar, List.append_assoc, List.singleton_append]

/-- Whether a pattern opens with a key that is not written in braces. -/
def opensWithKey (s : Text) : Bool := s.head?.any fun c => c == ':' || c == '(' || c == '*'

/-- Whether a lexeme opens a key. -/
def Lexeme.opensKey : Lexeme → Bool
  | quantifier .zeroOrMore | name _ | group _ => true
  | _ => false

/-- Whether there is a slot depends on the first lexeme only. -/
theorem isSome_takeSlot_cons (i : Nat) (x : Lexeme) (xs : List Located) :
    (takeSlot (⟨i, x⟩ :: xs)).isSome = x.opensKey := by
  cases x with
  | quantifier q => cases q <;> rfl
  | name n =>
    cases xs with
    | nil => rfl
    | cons y ys =>
      obtain ⟨j, y⟩ := y
      cases y <;> rfl
  | _ => rfl

/-- A lexeme opens a key if its first character does. -/
theorem Front.opensKey_eq {c : Char} {x : Lexeme} (h : Front c x) :
    x.opensKey = (c == ':' || c == '(' || c == '*') := by
  cases h with
  | quantifier q => cases q <;> rfl
  | char hcolon hopen hstar => simp [Lexeme.opensKey, hcolon, hopen, hstar]
  | escaped | openBrace | closeBrace | name | group => rfl

/-- The lexemes of a pattern start with a slot if and only if the pattern opens with a key. -/
theorem isSome_takeSlot {i : Nat} {s : Text} (h : lexFrom i s = .ok xs) :
    (takeSlot xs).isSome = opensWithKey s := by
  cases s with
  | nil =>
    rw [lexFrom] at h
    obtain rfl := Except.ok.inj h
    rfl
  | cons c s =>
    rw [lexFrom_cons] at h
    obtain ⟨⟨x, rest⟩, htake, h⟩ := bind_eq_ok_iff.1 h
    cases hrest : lexFrom (i + x.source.byteLength) rest with
    | error e =>
      rw [hrest] at h
      cases h
    | ok ys =>
      rw [hrest] at h
      obtain rfl := Except.ok.inj h
      rw [isSome_takeSlot_cons, (front_of_takeLexeme htake).opensKey_eq]
      rfl

/-- The literal of a text, if it is not empty. -/
def literalOf (t : Text) : List Token := if t = [] then [] else [.literal t]

/-- Two readings, the second of the same pattern behind a text `t`: the second fails with the same
error further right; or it gives what the first gives behind the text; or the pattern opens with a
key, which takes the last character of the text as its lead. -/
inductive ReadBehind (t s : Text) :
    Except SyntaxError (List Token) → Except SyntaxError (List Token) → Prop
  | error (e : SyntaxError) :
    ReadBehind t s (.error e) (.error (e.moved (escapeSource t).byteLength))
  | apart {tokens : List Token} :
    (opensWithKey s = true → ∀ c, t.getLast? = some c → isLead c = false) →
    tokens.head? ≠ some (.literal []) → ReadBehind t s (.ok tokens) (.ok (prependTokens t tokens))
  | joined {u : Text} {c : Char} {key : Key} {tokens : List Token} :
    opensWithKey s = true → t = u ++ [c] → isLead c = true → key.lead = [] → key.tail = [] →
    ReadBehind t s (.ok (.key key :: tokens))
      (.ok (literalOf u ++ .key { key with lead := [c] } :: tokens))

/-- A key that follows a text directly, with a lead or without. -/
theorem pushSlot_behind (slot : Slot) (m : Modifier) : ∃ (key : Key) (d : Draft),
    key.lead = [] ∧ key.tail = [] ∧ ∀ u lead,
      Draft.pushSlot ⟨[], u, 0⟩ slot lead [] m =
        d.prepend (literalOf u ++ [.key { key with lead := lead }]) := by
  have hpush : ∀ (u : Text) (t : Token),
      Draft.pushToken ⟨[], u, 0⟩ t = ⟨literalOf u ++ [t], [], 0⟩ := by
    intro u t
    cases u <;> rfl
  cases slot with
  | named name pattern =>
    refine ⟨⟨name, .named, [], [], pattern.getD defaultPattern, m⟩, ⟨[], [], 0⟩, rfl, rfl,
      fun u lead => ?_⟩
    simp only [Draft.pushSlot, hpush, Draft.prepend, List.append_nil]
  | positional pattern =>
    refine ⟨⟨Text.ofNat 0, .positional, [], [], pattern, m⟩, ⟨[], [], 1⟩, rfl, rfl,
      fun u lead => ?_⟩
    simp only [Draft.pushSlot, hpush, Draft.prepend, List.append_nil]
  | wildcard =>
    refine ⟨⟨Text.ofNat 0, .wildcard, [], [], wildcardPattern, m⟩, ⟨[], [], 1⟩, rfl, rfl,
      fun u lead => ?_⟩
    simp only [Draft.pushSlot, hpush, Draft.prepend, List.append_nil]

section
variable {t s : Text} {zs : List Located}

/-- The lexemes of a pattern behind a text of which no character becomes a lead. -/
theorem parseFrom_apart (ht : t ≠ []) (hzs : zs.map Located.lexeme = escapedLexemes t)
    (hs : lex s = .ok xs)
    (hapart : opensWithKey s = true → ∀ c, t.getLast? = some c → isLead c = false) :
    ReadBehind t s (parseFrom .empty xs) (parseFrom .empty
      (zs ++ xs.map (.moved (escapeSource t).byteLength))) := by
  have hend : Ended (fun _ => True) xs := ended_lexFrom hs fun _ _ => trivial
  have hseam : (∀ c, t.getLast? = some c → isLead c = false) ∨
      takeSlot (xs.map (.moved (escapeSource t).byteLength)) = none := by
    cases hkey : opensWithKey s with
    | true => exact .inl (hapart hkey)
    | false =>
      rcases takeSlot_ended hend with hnone | ⟨slot, rest, -, -, hsome⟩
      · exact .inr (hnone _)
      · have hopens := isSome_takeSlot hs
        rw [← Located.map_moved_zero xs, hsome, hkey] at hopens
        cases hopens
  rw [parseFrom_escaped hseam hzs, ← parseFrom_moved_zero .empty xs]
  rcases parseFrom_edits hend with ⟨e, herror⟩ | ⟨es, -, hread⟩
  · rw [herror, herror, SyntaxError.moved_zero]
    exact .error e
  · rw [hread, hread]
    have hstart : Draft.Behind t .empty { Draft.empty with literal := Draft.empty.literal ++ t } :=
      .literal rfl rfl (List.append_nil t).symm rfl
    obtain ⟨htokens, hhead⟩ := (hstart.edits ht es).flush ht
    rw [htokens]
    exact .apart hapart hhead

/-- The lexemes of a pattern that opens with a key, behind a text whose last character becomes the
lead of that key. -/
theorem parseFrom_joined {u : Text} {c : Char}
    (hzs : zs.map Located.lexeme = escapedLexemes (u ++ [c])) (hs : lex s = .ok xs)
    (hkey : opensWithKey s = true) (hc : isLead c = true) :
    ReadBehind (u ++ [c]) s (parseFrom .empty xs) (parseFrom .empty
      (zs ++ xs.map (.moved (escapeSource (u ++ [c])).byteLength))) := by
  have hend : Ended (fun _ => True) xs := ended_lexFrom hs fun _ _ => trivial
  -- the lexeme of the last character of the text
  have hplain : isSpecial c = false := by
    rcases Bool.or_eq_true_iff.1 hc with h | h <;> rw [eq_of_beq h] <;> rfl
  rw [escapedLexemes, List.map_append, ← escapedLexemes] at hzs
  obtain ⟨zs, ws, rfl, hfront, hws⟩ := List.map_eq_append_iff.1 hzs
  obtain ⟨⟨i, x⟩, rfl, hx⟩ := List.map_eq_singleton_iff.1 hws
  obtain rfl : x = .char c := by simpa [hplain] using hx
  rcases takeSlot_ended hend with hnone | ⟨slot, rest, -, hrest, hsome⟩
  · have hopens := isSome_takeSlot hs
    rw [← Located.map_moved_zero xs, hnone, hkey] at hopens
    cases hopens
  · obtain ⟨m, rest', hrest', hfinish⟩ := finishSlot_ended hrest slot
    obtain ⟨key, d, hlead, htail, hpush⟩ := pushSlot_behind slot m
    -- both readings go on behind the key
    have hfirst : parseFrom .empty xs = parseFrom (d.prepend [.key key]) (rest'.map (.moved 0)) := by
      have hstep := step_slot (d := .empty) (hsome 0)
      have hkey : ({ key with lead := [] } : Key) = key := by rw [← hlead]
      rw [Located.map_moved_zero, hfinish] at hstep
      rw [parseFrom_of_ok hstep, Draft.empty, hpush, hkey]
      rfl
    have hsecond : ∀ k, parseFrom .empty (zs ++ [⟨i, .char c⟩] ++ xs.map (.moved k)) =
        parseFrom (d.prepend (literalOf u ++ [.key { key with lead := [c] }]))
          (rest'.map (.moved k)) := by
      intro k
      have hstep : step ⟨[], u, 0⟩ (⟨i, .char c⟩ :: xs.map (.moved k)) =
          .ok (Draft.pushSlot ⟨[], u, 0⟩ slot [c] [] m, rest'.map (.moved k)) := by
        have hnone : takeSlot (⟨i, .char c⟩ :: xs.map (.moved k)) = none := rfl
        unfold step
        simp only [hnone, hsome, hc, hfinish]
        rfl
      rw [hpush] at hstep
      rw [List.append_assoc, parseFrom_escaped (.inr rfl) hfront]
      exact parseFrom_of_ok hstep
    rw [hfirst, hsecond]
    rcases parseFrom_edits hrest' with ⟨e, herror⟩ | ⟨es, -, hread⟩
    · rw [herror, herror, SyntaxError.moved_zero]
      exact .error e
    · rw [hread, hread, Draft.edits_prepend, Draft.flush_prepend, Draft.edits_prepend,
        Draft.flush_prepend]
      simp only [Draft.prepend, List.append_assoc, List.singleton_append]
      exact .joined hkey rfl hc hlead htail

end

/-- A pattern is read behind a text that has been escaped as it is read by itself, but for the lead
of a key at the very start. -/
theorem parse_escapeSource {t : Text} (ht : t ≠ []) (s : Text) :
    ReadBehind t s (parse s) (parse (escapeSource t ++ s)) := by
  obtain ⟨zs, hzs, hlex⟩ := lex_escapeSource t
  have hlex := hlex s
  cases hs : lex s with
  | error e =>
    rw [hs] at hlex
    simp only [parse, hs, hlex]
    exact .error e
  | ok xs =>
    rw [hs] at hlex
    simp only [parse, hs, hlex]
    by_cases hapart : opensWithKey s = true → ∀ c, t.getLast? = some c → isLead c = false
    · exact parseFrom_apart ht hzs hs hapart
    · obtain ⟨hkey, hlast⟩ := Classical.not_imp.1 hapart
      obtain ⟨c, hlast⟩ := Classical.not_forall.1 hlast
      obtain ⟨hlast, hc⟩ := Classical.not_imp.1 hlast
      obtain ⟨u, rfl⟩ := List.getLast?_eq_some_iff.1 hlast
      exact parseFrom_joined hzs hs hkey (Bool.not_eq_false _ ▸ hc)

/-- A base: a text that stands in front of patterns, without characters that a pattern must escape,
and which no key takes as its lead. -/
structure Text.IsBase (b : Text) : Prop where
  ne_nil : b ≠ []
  plain : ∀ c ∈ b, isSpecial c = false
  lead : ∀ c, b.getLast? = some c → isLead c = false

/-- A pattern without groups is read to plain keys. -/
theorem isPlain_of_parse {s : Text} {tokens : List Token} (hgroup : HasNoGroup s)
    (h : parse s = .ok tokens) : ∀ key ∈ keysOf tokens, key.IsPlain := by
  cases hs : lex s with
  | error e =>
    simp only [parse, hs] at h
    cases h
  | ok xs =>
    simp only [parse, hs] at h
    have hend : Ended (fun x => ∀ body, x ≠ .group body) xs := ended_lexFrom hs (hgroup xs hs)
    rw [← parseFrom_moved_zero .empty xs] at h
    rcases parseFrom_edits hend with ⟨e, herror⟩ | ⟨es, hes, hread⟩
    · rw [herror] at h
      cases h
    · rw [hread] at h
      obtain rfl := Except.ok.inj h
      have hempty : Draft.IsPlain .empty := nofun
      exact (hempty.edits hes).flush

end

/-! ## Compiling behind a base -/

section
variable {b pattern path : Text} {o : Options}

/-- A pattern that cannot be parsed does not compile, for the same reason. -/
theorem compile_of_error {u : SyntaxError} (h : parse pattern = .error u) :
    Pattern.compile o pattern = .error u := by
  rw [Pattern.compile, h]
  rfl

variable {tokens : List Token}

/-- A pattern that is read to plain keys compiles if and only if each key that repeats is separated.
-/
theorem compile_isOk_iff (h : parse pattern = .ok tokens)
    (hkeys : ∀ key ∈ keysOf tokens, key.IsPlain) :
    (∃ p, Pattern.compile o pattern = .ok p) ↔ ∀ key ∈ keysOf tokens, key.IsSeparated := by
  rw [← routeSource_isOk_iff 0]
  constructor
  · rintro ⟨p, hp⟩
    obtain ⟨tokens', htokens, hp⟩ := bind_eq_ok_iff.1 hp
    obtain rfl := Except.ok.inj (h.symm.trans htokens)
    obtain ⟨rs, hrs, -⟩ := (ofTokens_eq_ok_iff hkeys).1 hp
    obtain ⟨route, hroute, -⟩ := bind_eq_ok_iff.1 hrs
    exact ⟨route, hroute⟩
  · rintro ⟨route, hroute⟩
    have hsource : ∃ rs, recognizerSource tokens o = .ok rs :=
      ⟨_, bind_eq_ok_iff.2 ⟨route, hroute, rfl⟩⟩
    obtain ⟨rs, hrs⟩ := hsource
    exact ⟨_, bind_eq_ok_iff.2 ⟨tokens, h, (ofTokens_eq_ok_iff hkeys).2 ⟨rs, hrs, rfl⟩⟩⟩

/-- A compiled pattern has the tokens of its source and the given options. -/
theorem tokens_of_compile {p : Pattern} (h : parse pattern = .ok tokens)
    (hp : Pattern.compile o pattern = .ok p) : p.tokens = tokens ∧ p.options = o := by
  obtain ⟨tokens', htokens, hp⟩ := bind_eq_ok_iff.1 hp
  obtain rfl := Except.ok.inj (h.symm.trans htokens)
  exact Pattern.tokens_of_ofTokens hp

/-- Whether a pattern is another one behind a base. -/
structure Pattern.Behind (b : Text) (p q : Pattern) : Prop where
  first : p.IsPlain
  second : q.IsPlain
  options_eq : q.options = p.options
  tokens_eq : q.tokens = prependTokens b p.tokens
  literal : p.tokens.head? ≠ some (.literal [])

/-- A pattern without groups compiles behind a base if and only if it compiles by itself. -/
theorem compile_base (hb : b.IsBase) (hgroup : HasNoGroup pattern) (o : Options) :
    (∃ u v, Pattern.compile o pattern = .error u ∧ Pattern.compile o (b ++ pattern) = .error v) ∨
      ∃ p q, Pattern.compile o pattern = .ok p ∧ Pattern.compile o (b ++ pattern) = .ok q ∧
        p.Behind b q := by
  have hread := parse_escapeSource hb.ne_nil pattern
  rw [escapeSource_of_plain hb.plain] at hread
  generalize hparse : parse pattern = r, hparse' : parse (b ++ pattern) = r' at hread
  cases hread with
  | error u => exact .inl ⟨u, _, compile_of_error hparse, compile_of_error hparse'⟩
  | joined _ hjoin hc =>
    have hlead := hb.lead _ (by rw [hjoin, List.getLast?_concat])
    rw [hlead] at hc
    cases hc
  | @apart tokens _ hliteral =>
    have hkeys := isPlain_of_parse hgroup hparse
    have hkeys' : ∀ key ∈ keysOf (prependTokens b tokens), key.IsPlain := by
      rw [keysOf_prependTokens]
      exact hkeys
    have hiff : (∃ q, Pattern.compile o (b ++ pattern) = .ok q) ↔
        ∃ p, Pattern.compile o pattern = .ok p := by
      rw [compile_isOk_iff hparse' hkeys', keysOf_prependTokens, compile_isOk_iff hparse hkeys]
    cases hp : Pattern.compile o pattern with
    | error u =>
      cases hq : Pattern.compile o (b ++ pattern) with
      | error v => exact .inl ⟨u, v, rfl, rfl⟩
      | ok q =>
        obtain ⟨p, hok⟩ := hiff.1 ⟨q, hq⟩
        rw [hp] at hok
        cases hok
    | ok p =>
      obtain ⟨q, hq⟩ := hiff.2 ⟨p, hp⟩
      obtain ⟨rfl, ho⟩ := tokens_of_compile hparse hp
      obtain ⟨htokens, ho'⟩ := tokens_of_compile hparse' hq
      have hkeysq : ∀ key ∈ q.keys, key.IsPlain := by
        rw [Pattern.keys, htokens]
        exact hkeys'
      exact .inr ⟨p, q, rfl, hq, (Pattern.isPlain_of_compile hp hkeys).1,
        (Pattern.isPlain_of_compile hq hkeysq).1, ho'.trans ho.symm, htokens, hliteral⟩

end

end NestedRouting
