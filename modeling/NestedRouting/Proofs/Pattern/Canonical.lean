import NestedRouting.Proofs.Pattern.InPlace
import NestedRouting.Proofs.Pattern.Printing
import NestedRouting.Proofs.Pattern.Splitting
import Mathlib.Data.List.Chain

/-!
# The canonical form of tokens

The tokens that a pattern parses to are in canonical form, and every list of tokens in canonical
form is what some pattern parses to (`parse_canonical`). In one direction each edit keeps the form
(`Draft.IsCanonical.edit`), where the lexemes that are still to come say that no star stands where
it would have been a modifier (`Reading.canonical`). In the other direction the printed form of the
tokens is read by the edits that add them one by one (`reading_lexemes`, `tokens_edits`).
-/

namespace NestedRouting

/-! ## Canonical tokens -/

/-- The keys without a name from left to right. -/
def unnamedKeys (tokens : List Token) : List Key := (keysOf tokens).filter (·.kind ≠ .named)

/-- Whether a modifier directly behind a token is its own. -/
def Token.TakesModifier : Token → Prop
  | literal _ => False
  | group _ m => m = none
  | key k => k.kind ≠ .wildcard ∧ k.modifier = none

/-- Whether a token is a wildcard that is written as a star with nothing in front of it. -/
def Token.IsBareStar : Token → Prop
  | key k => k.kind = .wildcard ∧ k.lead = []
  | _ => False

/-- Whether a key is one that can be written. -/
structure Key.IsCanonical (k : Key) : Prop where
  wildcard : k.kind = .wildcard → k.pattern = ".*".toList ∧ k.modifier = none ∧ k.tail = [] ∧
    (k.lead = [] ∨ k.lead = ['/'] ∨ k.lead = ['.'])
  /-- The regular expression is not empty and does not start with a question mark, its parentheses
  that are not escaped balance, and an inner group starts with a question mark. -/
  pattern : IsBody k.pattern
  name : k.kind = .named → k.name ≠ [] ∧ ∀ c ∈ k.name, isNameChar c = true

/-- The canonical form of tokens, behind `n` keys without a name. -/
structure Canonical (n : Nat) (tokens : List Token) : Prop where
  literal_ne_nil : ∀ text, .literal text ∈ tokens → text ≠ []
  literals_apart : tokens.IsChain fun t u => ¬ (t.IsLiteral ∧ u.IsLiteral)
  /-- The keys without a name are called by the numbers from `n` on, from left to right. -/
  numbered : (unnamedKeys tokens).map Key.name =
    (List.range' n (unnamedKeys tokens).length).map Text.ofNat
  keys : ∀ k ∈ keysOf tokens, k.IsCanonical
  /-- No star stands where it would be a modifier. -/
  stars_apart : tokens.IsChain fun t u => ¬ (t.TakesModifier ∧ u.IsBareStar)

section
variable {tokens : List Token} {t : Token} {k : Key} {n : Nat}

/-- A token with a key is that key. -/
theorem Token.eq_key_of_key? (h : t.key? = some k) : t = .key k := by
  cases t with
  | literal | group => cases h
  | key => exact congrArg Token.key (Option.some.inj h)

/-- The keys behind a token are keys with it in front. -/
theorem mem_keysOf_cons (h : k ∈ keysOf tokens) : k ∈ keysOf (t :: tokens) :=
  Draft.keysOf_append [t] tokens ▸ List.mem_append_right _ h

/-- The keys without a name of tokens and more tokens. -/
theorem unnamedKeys_append (ts us : List Token) :
    unnamedKeys (ts ++ us) = unnamedKeys ts ++ unnamedKeys us := by
  rw [unnamedKeys, Draft.keysOf_append, List.filter_append]
  rfl

/-- A key without a name is one of them. -/
theorem unnamedKeys_key (h : k.kind ≠ .named) : unnamedKeys [.key k] = [k] :=
  List.filter_cons_of_pos (decide_eq_true h)

/-- A token behind canonical ones. -/
theorem Canonical.concat (h : Canonical n tokens) (hliteral : ∀ text, t = .literal text → text ≠ [])
    (hapart : ∀ u, tokens.getLast? = some u → ¬ (u.IsLiteral ∧ t.IsLiteral))
    (hstar : ∀ u, tokens.getLast? = some u → ¬ (u.TakesModifier ∧ t.IsBareStar))
    (hkey : ∀ k, t = .key k → k.IsCanonical)
    (hname : ∀ k, t = .key k → k.kind ≠ .named →
      k.name = Text.ofNat (n + (unnamedKeys tokens).length)) :
    Canonical n (tokens ++ [t]) where
  literal_ne_nil text htext := by
    rcases List.mem_append.1 htext with htext | htext
    · exact h.literal_ne_nil text htext
    · exact hliteral text (List.mem_singleton.1 htext).symm
  literals_apart := by
    refine h.literals_apart.append (List.isChain_singleton t) ?_
    rintro u hu _ ⟨⟩
    exact hapart u hu
  numbered := by
    rw [unnamedKeys_append, List.map_append, h.numbered, List.length_append]
    by_cases hunnamed : ∃ k, t = .key k ∧ k.kind ≠ .named
    · obtain ⟨k, rfl, hkind⟩ := hunnamed
      rw [unnamedKeys_key hkind, List.length_singleton, List.range'_1_concat, List.map_append,
        List.map_singleton, List.map_singleton, hname k rfl hkind]
    · have hnone : unnamedKeys [t] = [] := by
        cases t with
        | literal | group => rfl
        | key k => exact List.filter_cons_of_neg fun hk => hunnamed ⟨k, rfl, of_decide_eq_true hk⟩
      rw [hnone]
      exact List.append_nil _
  keys k hk := by
    rw [Draft.keysOf_append] at hk
    rcases List.mem_append.1 hk with hk | hk
    · exact h.keys k hk
    · obtain ⟨u, hu, huk⟩ := List.mem_filterMap.1 hk
      obtain rfl := List.mem_singleton.1 hu
      exact hkey k (Token.eq_key_of_key? huk)
  stars_apart := by
    refine h.stars_apart.append (List.isChain_singleton t) ?_
    rintro u hu _ ⟨⟩
    exact hstar u hu

/-- The numbers of the keys behind a token go on from those of the token. -/
theorem Canonical.numbered_cons (h : Canonical n (t :: tokens)) :
    (unnamedKeys [t]).map Key.name = (List.range' n (unnamedKeys [t]).length).map Text.ofNat ∧
      (unnamedKeys tokens).map Key.name =
        (List.range' (n + (unnamedKeys [t]).length) (unnamedKeys tokens).length).map
          Text.ofNat := by
  have hsplit : unnamedKeys (t :: tokens) = unnamedKeys [t] ++ unnamedKeys tokens :=
    unnamedKeys_append [t] tokens
  have hnumbered := h.numbered
  rw [hsplit, List.length_append, ← List.range'_append_1, List.map_append, List.map_append]
    at hnumbered
  exact List.append_inj hnumbered (by simp)

/-- A key without a name that stands in front is called by the number of those before it. -/
theorem Canonical.name (h : Canonical n (.key k :: tokens)) (hkind : k.kind ≠ .named) :
    k.name = Text.ofNat n := by
  have hname := h.numbered_cons.1
  rw [unnamedKeys_key hkind] at hname
  exact (List.cons.inj hname).1

/-- The tokens behind one of canonical tokens. -/
theorem Canonical.tail (h : Canonical n (t :: tokens)) :
    Canonical (n + (unnamedKeys [t]).length) tokens where
  literal_ne_nil text htext := h.literal_ne_nil text (.tail _ htext)
  literals_apart := h.literals_apart.tail
  numbered := h.numbered_cons.2
  keys k hk := h.keys k (mem_keysOf_cons hk)
  stars_apart := h.stars_apart.tail

end

/-! ## What parses is canonical -/

/-- The key of a slot, behind a number of keys without a name. -/
def Slot.key (n : Nat) (lead tail : Text) (m : Modifier) : Slot → Key
  | named name pattern => ⟨name, .named, lead, tail, pattern.getD defaultPattern, m⟩
  | positional body => ⟨Text.ofNat n, .positional, lead, tail, body, m⟩
  | wildcard => ⟨Text.ofNat n, .wildcard, lead, tail, wildcardPattern, m⟩

/-- The token that an edit adds behind a number of keys without a name. A character adds none. -/
def Edit.token? (n : Nat) : Edit → Option Token
  | char _ => none
  | group text m => some (.group text m)
  | slot s lead tail m => some (.key (s.key n lead tail m))

section
variable {e : Edit} {t u : Token} {k : Key} {n : Nat} {d : Draft} {xs : List Lexeme}
  {es : List Edit}

/-- An edit that adds a token adds no literal. -/
theorem Edit.not_isLiteral (h : e.token? n = some t) : ¬ t.IsLiteral := by
  cases e with
  | char => cases h
  | group | slot =>
    cases h
    exact id

/-- A key without a name is called by its number. -/
theorem Edit.name_of_token? (h : e.token? n = some (.key k)) (hkind : k.kind ≠ .named) :
    k.name = Text.ofNat n := by
  match e, h with
  | .slot (.named ..) .., h =>
    cases h
    exact absurd rfl hkind
  | .slot (.positional _) .., h | .slot .wildcard .., h =>
    cases h
    rfl

namespace Draft

/-- An edit ends the literal and adds its token. -/
theorem tokens_edit (h : e.token? d.unnamed = some t) :
    (d.edit e).tokens = d.flush.tokens ++ [t] ∧ (d.edit e).literal = [] := by
  match e, h with
  | .group .., h | .slot (.named ..) .., h | .slot (.positional _) .., h
  | .slot .wildcard .., h =>
    cases h
    exact ⟨rfl, literal_flush d⟩

/-- An edit adds its token behind the literal that it ends. -/
theorem flush_edit (h : e.token? d.unnamed = some t) :
    (d.edit e).flush.tokens = d.flush.tokens ++ [t] := by
  obtain ⟨htokens, hnil⟩ := tokens_edit h
  rw [tokens_flush, hnil, if_pos rfl, List.append_nil, htokens]

/-- An edit counts the key that it adds, if that has no name. -/
theorem unnamed_edit_of_token? (h : e.token? d.unnamed = some t) :
    (d.edit e).unnamed = d.unnamed + (unnamedKeys [t]).length := by
  rw [unnamed_edit]
  match e, h with
  | .group .., h | .slot (.named ..) .., h | .slot (.positional _) .., h
  | .slot .wildcard .., h =>
    cases h
    rfl

/-- The end of a literal adds no key. -/
theorem unnamedKeys_flush (d : Draft) : unnamedKeys d.flush.tokens = unnamedKeys d.tokens := by
  rw [tokens_flush, unnamedKeys_append]
  split <;> exact List.append_nil _

/-- Where the literal ends, the last token is that literal, or the one before if it is empty. -/
theorem getLast?_flush (h : d.flush.tokens.getLast? = some u) :
    u.IsLiteral ∨ d.literal = [] ∧ d.tokens.getLast? = some u := by
  rw [tokens_flush] at h
  split at h
  · next hnil =>
    rw [List.append_nil] at h
    exact .inr ⟨hnil, h⟩
  · rw [List.getLast?_concat] at h
    cases h
    exact .inl trivial

/-- Whether what has been read is canonical. The literal since the last token is none of the tokens,
so the last of them is no literal. -/
structure IsCanonical (d : Draft) : Prop where
  tokens : Canonical 0 d.tokens
  unnamed : (unnamedKeys d.tokens).length = d.unnamed
  last : ∀ t, d.tokens.getLast? = some t → ¬ t.IsLiteral

/-- Whether lexemes can go on behind a draft: behind a token that takes a modifier stands none. -/
def EndsBefore (d : Draft) (xs : List Lexeme) : Prop :=
  d.literal = [] → ∀ t, d.tokens.getLast? = some t → t.TakesModifier →
    ∀ q, xs.head? ≠ some (.quantifier q)

/-- Where nothing has been read, that is canonical. -/
theorem isCanonical_empty : empty.IsCanonical where
  tokens := ⟨nofun, .nil, rfl, nofun, .nil⟩
  unnamed := rfl
  last := nofun

/-- The end of the literal keeps tokens canonical. -/
theorem IsCanonical.flush (h : d.IsCanonical) : Canonical 0 d.flush.tokens := by
  rw [tokens_flush]
  split
  · rw [List.append_nil]
    exact h.tokens
  · next hne =>
    refine h.tokens.concat ?_ ?_ (fun _ _ hstar => hstar.2) nofun nofun
    · rintro _ ⟨⟩
      exact hne
    · exact fun u hu hliterals => h.last u hu hliterals.1

/-- A character that goes to the literal changes no token. -/
theorem IsCanonical.pushChar (h : d.IsCanonical) (c : Char) : (d.pushChar c).IsCanonical :=
  ⟨h.tokens, h.unnamed, h.last⟩

/-- An edit keeps what has been read canonical, if the key that it adds can be written and no star
stands where it would be a modifier. -/
theorem IsCanonical.edit (h : d.IsCanonical) (ht : e.token? d.unnamed = some t)
    (hkey : ∀ k, t = .key k → k.IsCanonical)
    (hstar : d.literal = [] → ∀ u, d.tokens.getLast? = some u → u.TakesModifier →
      ¬ t.IsBareStar) :
    (d.edit e).IsCanonical := by
  have hliteral := Edit.not_isLiteral ht
  have htokens := (tokens_edit ht).1
  have hunnamed : (unnamedKeys d.flush.tokens).length = d.unnamed := by
    rw [unnamedKeys_flush, h.unnamed]
  refine ⟨?_, ?_, fun u hu => ?_⟩
  · rw [htokens]
    refine h.flush.concat ?_ (fun u _ hliterals => hliteral hliterals.2) ?_ hkey ?_
    · rintro _ rfl
      exact absurd trivial hliteral
    · rintro u hu ⟨hmodifier, hbare⟩
      rcases getLast?_flush hu with hu | ⟨hnil, hu⟩
      · cases u with
        | literal => exact hmodifier
        | group | key => exact hu
      · exact hstar hnil u hu hmodifier hbare
    · rintro k rfl hkind
      rw [hunnamed, Nat.zero_add]
      exact Edit.name_of_token? ht hkind
  · rw [htokens, unnamedKeys_append, List.length_append, hunnamed, unnamed_edit_of_token? ht]
  · rw [htokens, List.getLast?_concat] at hu
    cases hu
    exact hliteral

/-- What comes behind an edit comes behind its token. -/
theorem endsBefore_edit (ht : e.token? d.unnamed = some t)
    (h : t.TakesModifier → ∀ q, xs.head? ≠ some (.quantifier q)) : (d.edit e).EndsBefore xs := by
  intro _ u hu
  rw [(tokens_edit ht).1, List.getLast?_concat] at hu
  cases hu
  exact h

end Draft

/-- A key with a name or a group of its own is canonical, if they can be written. -/
theorem Slot.isCanonical_key {slot : Slot} {lead tail : Text} {m : Modifier}
    (hslot : slot ≠ .wildcard) (h : (Edit.slot slot lead tail m).IsWritten) (n : Nat) :
    (slot.key n lead tail m).IsCanonical := by
  match slot, h with
  | .wildcard, _ => exact absurd rfl hslot
  | .named name pattern, h => exact ⟨nofun, isBody_iff_isWritten.2 h.2, fun _ => h.1⟩
  | .positional body, h => exact ⟨nofun, isBody_iff_isWritten.2 h, nofun⟩

/-- The leads that a key without braces can have. -/
theorem isBareLead_iff {t : Text} : IsBareLead t ↔ t = [] ∨ t = ['/'] ∨ t = ['.'] := by
  simp only [IsBareLead, isLead, Bool.or_eq_true, beq_iff_eq, or_and_right, exists_or,
    exists_eq_left]

/-- The regular expression of a wildcard can be the body of a group. -/
theorem isBody_wildcardPattern : IsBody wildcardPattern := by
  have hcloses : Closes 0 wildcardPattern :=
    .char (by decide) (by decide) (by decide) (.char (by decide) (by decide) (by decide) .nil)
  exact isBody_iff_isWritten.2 ⟨by decide, by decide, hcloses⟩

/-- A wildcard with a lead that it can have is canonical. -/
theorem isCanonical_wildcard {lead : Text} (h : IsBareLead lead) (n : Nat) :
    (Slot.wildcard.key n lead [] none).IsCanonical where
  wildcard _ := ⟨rfl, rfl, rfl, isBareLead_iff.1 h⟩
  pattern := isBody_wildcardPattern
  name := nofun

/-- What lexemes that can be written are read as is canonical. -/
theorem Reading.canonical (h : Reading xs es) (hes : ∀ e ∈ es, e.IsWritten) (hd : d.IsCanonical)
    (hends : d.EndsBefore xs) : Canonical 0 (es.foldl Draft.edit d).flush.tokens := by
  -- on the reading, for any canonical draft behind which its lexemes can go on
  induction h generalizing d with
  | finish => exact hd.flush
  | @char x c xs es _ _ _ ih =>
    refine ih (d := d.pushChar c) (fun e he => hes e (.tail _ he)) (hd.pushChar c) fun hnil => ?_
    exact absurd hnil (List.append_ne_nil_of_right_ne_nil _ (List.cons_ne_nil c []))
  | wildcard hlead _ ih =>
    refine ih (fun e he => hes e (.tail _ he)) (hd.edit rfl ?_ ?_) (Draft.endsBefore_edit rfl ?_)
    · rintro _ ⟨⟩
      exact isCanonical_wildcard hlead _
    · -- behind a token that takes a modifier the star would be one
      rintro hnil u hu hmodifier ⟨-, hbare⟩
      obtain rfl : _ = [] := hbare
      exact hends hnil u hu hmodifier .zeroOrMore rfl
    · exact fun hmodifier => absurd rfl hmodifier.1
  | @slot slot lead m xs es hslot _ _ hm _ ih | @braces _ _ xs slot lead _ m es hslot _ _ hm _ ih =>
    refine ih (fun e he => hes e (.tail _ he)) (hd.edit rfl ?_ ?_) (Draft.endsBefore_edit rfl ?_)
    · rintro _ ⟨⟩
      exact Slot.isCanonical_key hslot (hes _ (.head _)) _
    · rintro - - - - ⟨hkind, -⟩
      cases slot with
      | wildcard => exact hslot rfl
      | named | positional => cases hkind
    · intro hmodifier
      cases slot <;> exact hm hmodifier.2
  | group _ hm _ ih =>
    refine ih (fun e he => hes e (.tail _ he)) (hd.edit rfl nofun ?_) (Draft.endsBefore_edit rfl hm)
    exact fun _ _ _ _ hbare => hbare

end

/-! ## What is canonical parses -/

/-- The slot that a key is printed with. -/
def Key.slot (k : Key) : Slot :=
  match k.kind with
  | .named => .named k.name (some k.pattern)
  | .positional => .positional k.pattern
  | .wildcard => .wildcard

/-- The edits that add a token. -/
def Token.edits : Token → List Edit
  | literal text => text.map .char
  | group text m => [.group text m]
  | key k => [.slot k.slot k.lead k.tail k.modifier]

section
variable {tokens : List Token} {t : Token} {k : Key} {n : Nat} {d : Draft}

/-- A canonical key can be written. -/
theorem Key.IsCanonical.isWritten (h : k.IsCanonical) : k.IsWritten := by
  unfold Key.IsWritten
  cases hkind : k.kind with
  | named => exact ⟨h.name hkind, isBody_iff_isWritten.1 h.pattern⟩
  | positional => exact isBody_iff_isWritten.1 h.pattern
  | wildcard => exact isBareLead_iff.2 (h.wildcard hkind).2.2.2

/-! ### The lexemes of tokens -/

/-- The lexemes of a key that is printed in braces. -/
theorem Key.lexemes_eq (h : k.kind ≠ .wildcard) : k.slot ≠ .wildcard ∧
    k.lexemes = bracedLexemes k.lead k.slot.lexemes k.tail k.modifier := by
  unfold Key.slot Key.lexemes
  cases hkind : k.kind with
  | wildcard => exact absurd hkind h
  | named | positional => exact ⟨nofun, rfl⟩

/-- Canonical tokens do not start with a quantifier, unless they start with a bare star. -/
theorem Canonical.head?_lexemes (h : Canonical n tokens)
    (hstar : ∀ u, tokens.head? = some u → ¬ u.IsBareStar) (q : Quantifier) :
    (tokens.flatMap Token.lexemes ++ [Lexeme.finish]).head? ≠ some (.quantifier q) := by
  cases tokens with
  | nil => nofun
  | cons t ts =>
    cases t with
    | literal text =>
      cases text with
      | nil => exact absurd rfl (h.literal_ne_nil [] (.head _))
      | cons c text => nofun
    | group => nofun
    | key k =>
      rw [List.flatMap_cons, Token.lexemes]
      by_cases hkind : k.kind = .wildcard
      · rw [Key.lexemes, hkind]
        cases hlead : k.lead with
        | nil => exact absurd ⟨hkind, hlead⟩ (hstar _ rfl)
        | cons c lead => nofun
      · rw [(Key.lexemes_eq hkind).2]
        nofun

/-- The characters of a literal stand for themselves when they are escaped. -/
theorem Reading.escaped {xs : List Lexeme} {es : List Edit} (h : Reading xs es) (text : Text) :
    Reading (text.map .escaped ++ xs) (text.map .char ++ es) := by
  induction text with
  | nil => exact h
  | cons c text ih => exact .char rfl nofun ih

/-- The lexemes of canonical tokens are read by the edits that add them. -/
theorem reading_lexemes (h : Canonical n tokens) :
    Reading (tokens.flatMap Token.lexemes ++ [Lexeme.finish]) (tokens.flatMap Token.edits) := by
  induction tokens generalizing n with
  | nil => exact .finish
  | cons t ts ih =>
    have hread := ih h.tail
    have hends (ht : t.TakesModifier) := h.tail.head?_lexemes fun u hu hbare =>
      h.stars_apart.rel_head? hu ⟨ht, hbare⟩
    rw [List.flatMap_cons, List.flatMap_cons, List.append_assoc]
    cases t with
    | literal text => exact hread.escaped text
    | group text m =>
      rw [Token.lexemes, bracedLexemes]
      simp only [List.map_nil, List.nil_append, List.cons_append, List.append_assoc]
      exact .group (map_char?_escaped text) hends hread
    | key k =>
      have hk := h.keys k (List.mem_cons_self ..)
      by_cases hkind : k.kind = .wildcard
      · obtain ⟨-, hmodifier, htail, -⟩ := hk.wildcard hkind
        have hwritten := hk.isWritten
        simp only [Key.IsWritten, hkind] at hwritten
        simp only [Token.lexemes, Key.lexemes, Token.edits, Key.slot, hkind, hmodifier, htail,
          List.append_assoc]
        exact .wildcard hwritten hread
      · obtain ⟨hslot, hlexemes⟩ := Key.lexemes_eq hkind
        rw [Token.lexemes, hlexemes, bracedLexemes]
        simp only [List.cons_append, List.append_assoc]
        exact .braces hslot (map_char?_escaped _) (map_char?_escaped _)
          (fun hm => hends ⟨hkind, hm⟩) hread

/-! ### The edits of tokens -/

/-- A canonical key is the key of its slot behind as many keys as its number says. -/
theorem Key.IsCanonical.token?_slot (h : k.IsCanonical)
    (hname : k.kind ≠ .named → k.name = Text.ofNat n) :
    (Edit.slot k.slot k.lead k.tail k.modifier).token? n = some (.key k) := by
  obtain ⟨name, kind, lead, tail, pattern, modifier⟩ := k
  cases kind with
  | named => rfl
  | positional =>
    obtain rfl : name = Text.ofNat n := hname nofun
    rfl
  | wildcard =>
    obtain rfl : name = Text.ofNat n := hname nofun
    obtain rfl : pattern = wildcardPattern := (h.wildcard rfl).1
    rfl

/-- The edits of a literal add its characters. -/
theorem Draft.edits_literal (text : Text) (d : Draft) :
    (text.map Edit.char).foldl Draft.edit d = { d with literal := d.literal ++ text } := by
  induction text generalizing d with
  | nil => rw [List.append_nil]; rfl
  | cons c text ih =>
    rw [List.map_cons, List.foldl_cons, ih]
    show Draft.mk _ (d.literal ++ [c] ++ text) _ = _
    rw [List.append_assoc]
    rfl

/-- The edits of the first of canonical tokens add it, and they end the literal if it is none. -/
theorem Canonical.edits_head (h : Canonical d.unnamed (t :: tokens))
    (hstart : t.IsLiteral → d.literal = []) :
    (t.edits.foldl Draft.edit d).flush.tokens = d.flush.tokens ++ [t] ∧
      (t.edits.foldl Draft.edit d).unnamed = d.unnamed + (unnamedKeys [t]).length ∧
      (¬ t.IsLiteral → (t.edits.foldl Draft.edit d).literal = []) := by
  have hadded (e : Edit) (he : e.token? d.unnamed = some t) :
      (d.edit e).flush.tokens = d.flush.tokens ++ [t] ∧
        (d.edit e).unnamed = d.unnamed + (unnamedKeys [t]).length ∧
        (¬ t.IsLiteral → (d.edit e).literal = []) :=
    ⟨Draft.flush_edit he, Draft.unnamed_edit_of_token? he, fun _ => (Draft.tokens_edit he).2⟩
  cases t with
  | literal text =>
    have hnil : d.literal = [] := hstart trivial
    rw [Token.edits, Draft.edits_literal, hnil]
    refine ⟨?_, rfl, fun hno => absurd trivial hno⟩
    rw [Draft.tokens_flush, Draft.tokens_flush, hnil, if_pos rfl, List.append_nil]
    exact congrArg (d.tokens ++ ·) (if_neg (h.literal_ne_nil text (.head _)))
  | group text m => exact hadded (.group text m) rfl
  | key k => exact hadded _ ((h.keys k (List.mem_cons_self ..)).token?_slot h.name)

/-- The edits of canonical tokens add these tokens. -/
theorem tokens_edits (h : Canonical d.unnamed tokens)
    (hstart : ∀ t, tokens.head? = some t → t.IsLiteral → d.literal = []) :
    ((tokens.flatMap Token.edits).foldl Draft.edit d).flush.tokens = d.flush.tokens ++ tokens := by
  induction tokens generalizing d with
  | nil => exact (List.append_nil _).symm
  | cons t ts ih =>
    obtain ⟨hadded, hunnamed, hended⟩ := h.edits_head (hstart t rfl)
    rw [List.flatMap_cons, List.foldl_append, ih (hunnamed ▸ h.tail) fun u hu hliteral =>
      hended fun ht => h.literals_apart.rel_head? hu ⟨ht, hliteral⟩, hadded, List.append_assoc]
    rfl

/-- Canonical tokens are what their printed form parses to. -/
theorem Canonical.parse_printed_eq (h : Canonical 0 tokens) :
    parse (printed tokens) = .ok tokens := by
  obtain ⟨zs, hzs, hprinted⟩ := lexes_printed (fun k hk => (h.keys k hk).isWritten) 0
  have hlex := hprinted []
  rw [List.append_nil, lexFrom] at hlex
  refine parse_eq_ok_iff.2 ⟨_, tokens.flatMap Token.edits, hlex, ?_, ?_⟩
  · rw [lexemesOf, List.map_append, ← lexemesOf, hzs]
    exact reading_lexemes h
  · exact (tokens_edits (d := .empty) h fun _ _ _ => rfl).symm

end

/-- The token lists that patterns parse to are those in canonical form, with the keys without a name
numbered from zero. -/
theorem parse_canonical {tokens : List Token} :
    (∃ source, parse source = .ok tokens) ↔ Canonical 0 tokens := by
  constructor
  · rintro ⟨source, h⟩
    obtain ⟨xs, es, hlex, hread, rfl⟩ := parse_eq_ok_iff.1 h
    have hwritten := hread.isWritten (isWritten_of_lexFrom hlex)
    exact hread.canonical hwritten Draft.isCanonical_empty nofun
  · exact fun h => ⟨printed tokens, h.parse_printed_eq⟩

end NestedRouting
