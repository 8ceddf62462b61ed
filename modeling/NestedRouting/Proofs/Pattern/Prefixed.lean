import NestedRouting.Proofs.Pattern.Parsing

/-!
# Patterns behind a consumed prefix

A route writes its pattern behind the consumed prefix of the route above it. There it keeps its
meaning (`parse_consumedPrefix`): it is malformed in the same way, further right, or it has the same
keys and the same static text, behind the text of the prefix. Only where the static text is divided
can change: a key at the very start of the pattern takes a delimiter from the prefix as its lead.
-/

namespace NestedRouting

/-- Whether a token is literal text. -/
def Token.IsLiteral : Token → Prop
  | literal _ => True
  | _ => False

/-- The static text of a token. -/
def Token.staticText : Token → Text
  | literal text | group text _ => text
  | key k => k.lead ++ k.tail

/-- The static text of a pattern from left to right. -/
def staticText (tokens : List Token) : Text := tokens.flatMap Token.staticText

/-- The keys of a pattern behind a text: one that the pattern opens with takes the last character of
the text as its lead, if that can be a lead. -/
def takeLead (t s : Text) : List Key → List Key
  | [] => []
  | key :: keys =>
    match t.getLast? with
    | some c =>
      if opensWithKey s && isLead c then { key with lead := [c] } :: keys else key :: keys
    | none => key :: keys

section
variable {t s : Text} {tokens : List Token}

/-- The static text of tokens and more tokens. -/
theorem staticText_append (ts us : List Token) :
    staticText (ts ++ us) = staticText ts ++ staticText us := List.flatMap_append

/-- A text in front of tokens is static. -/
theorem staticText_prependTokens (t : Text) (tokens : List Token) :
    staticText (prependTokens t tokens) = t ++ staticText tokens := by
  match tokens with
  | .literal text :: _ => exact List.append_assoc t text _
  | [] | .group .. :: _ | .key _ :: _ => rfl

/-- The static text of a text is the text. -/
theorem staticText_literalOf (u : Text) : staticText (literalOf u) = u := by
  cases u with
  | nil => rfl
  | cons c u => exact List.append_nil _

/-- A text has no keys. -/
theorem keysOf_literalOf (u : Text) : keysOf (literalOf u) = [] := by
  cases u <;> rfl

/-- Behind the empty text no key takes a lead. -/
theorem takeLead_nil (s : Text) (keys : List Key) : takeLead [] s keys = keys := by
  cases keys <;> rfl

/-- A key takes no lead if the pattern does not open with it or the text does not end in one. -/
theorem takeLead_apart (h : opensWithKey s = true → ∀ c, t.getLast? = some c → isLead c = false)
    (keys : List Key) : takeLead t s keys = keys := by
  unfold takeLead
  split
  · rfl
  · split
    · next c hc =>
      refine if_neg fun hand => ?_
      obtain ⟨hs, hlead⟩ := Bool.and_eq_true_iff.1 hand
      rw [h hs c hc] at hlead
      cases hlead
    · rfl

/-- A key that the pattern opens with takes the lead at the end of the text. -/
theorem takeLead_joined {c : Char} (hs : opensWithKey s = true) (hc : isLead c = true) (u : Text)
    (key : Key) (keys : List Key) :
    takeLead (u ++ [c]) s (key :: keys) = { key with lead := [c] } :: keys := by
  unfold takeLead
  simp only [List.getLast?_concat, hs, hc]
  rfl

/-- A pattern that opens with a key is read to that key first, without a lead. -/
theorem head_of_opensWithKey (hs : opensWithKey s = true) (h : parse s = .ok tokens) :
    ∃ key us, tokens = .key key :: us ∧ key.lead = [] := by
  -- behind a text that can be a lead the key would take it
  have hread := parse_escapeSource (t := ['/']) (List.cons_ne_nil _ _) s
  rw [h] at hread
  generalize parse (escapeSource ['/'] ++ s) = r at hread
  cases hread with
  | apart hapart =>
    have hslash : isLead '/' = false := hapart hs '/' rfl
    cases hslash
  | @joined _ _ key us _ _ _ hlead => exact ⟨key, us, rfl, hlead⟩

/-- What a pattern means behind a text, when it is well formed. -/
theorem ReadBehind.meaning {ts : List Token} {r : Except SyntaxError (List Token)}
    (h : ReadBehind t s (.ok ts) r) : ∃ ts', r = .ok ts' ∧
      staticText ts' = t ++ staticText ts ∧ keysOf ts' = takeLead t s (keysOf ts) := by
  cases h with
  | apart hapart =>
    refine ⟨_, rfl, staticText_prependTokens t ts, ?_⟩
    rw [keysOf_prependTokens, takeLead_apart hapart]
  | @joined u c key us hs ht hc hlead htail =>
    subst ht
    refine ⟨_, rfl, ?_, ?_⟩
    · rw [staticText_append, staticText_literalOf]
      show u ++ ([c] ++ key.tail ++ staticText us) =
        u ++ [c] ++ (key.lead ++ key.tail ++ staticText us)
      simp only [hlead, List.nil_append, List.append_assoc]
    · rw [Draft.keysOf_append, keysOf_literalOf]
      exact (takeLead_joined hs hc u key (keysOf us)).symm

end

/-- A pattern behind a consumed prefix. The prefix spells the text `t`. A malformed pattern is
malformed in the same way behind it, further right by the bytes of the prefix. Of another pattern,
the static text stands behind `t`, and the keys are the same in the same order, but for the lead of
the first key where the pattern opens with it: written without a lead, it takes the last character
of `t` when that is one. -/
theorem parse_consumedPrefix (tokens : List Token) (s : Text) :
    let t := consumedText tokens
    consumedPrefix tokens = escapeSource t ∧
    (∀ e, parse s = .error e → parse (consumedPrefix tokens ++ s) =
      .error (e.moved (consumedPrefix tokens).byteLength)) ∧
    ∀ ts, parse s = .ok ts →
      (opensWithKey s = true → ∃ key us, ts = .key key :: us ∧ key.lead = []) ∧
      ∃ ts', parse (consumedPrefix tokens ++ s) = .ok ts' ∧
        staticText ts' = t ++ staticText ts ∧ keysOf ts' = takeLead t s (keysOf ts) := by
  intro t
  have hspelled : consumedPrefix tokens = escapeSource t := consumedPrefix_eq tokens
  rw [hspelled]
  by_cases ht : t = []
  · rw [ht]
    refine ⟨rfl, fun e he => ?_, fun ts hts => ⟨fun hs => head_of_opensWithKey hs hts, ts, hts,
      rfl, (takeLead_nil s _).symm⟩⟩
    show parse s = .error (e.moved 0)
    rw [he, SyntaxError.moved_zero]
  · have hread := parse_escapeSource ht s
    refine ⟨rfl, fun e he => ?_, fun ts hts => ⟨fun hs => head_of_opensWithKey hs hts, ?_⟩⟩
    · rw [he] at hread
      generalize parse (escapeSource t ++ s) = r at hread
      cases hread
      rfl
    · rw [hts] at hread
      exact hread.meaning

/-- A result that is there is the result. -/
theorem eq_ok_of_toOption {ε α : Type} {r : Except ε α} {a : α} (h : r.toOption = some a) :
    r = .ok a := by
  cases r with
  | error e => cases h
  | ok b => exact congrArg _ (Option.some.inj h)

/-- Below `/users/:id`, the pattern `:name` takes the slash of the prefix. -/
theorem lead_taken_from_users :
    ∃ tokens ts', parse "/users/:id".toList = .ok tokens ∧
      parse (consumedPrefix tokens ++ ":name".toList) = .ok ts' ∧
      staticText ts' = "/users/".toList ∧ (keysOf ts').map Key.lead = ["/".toList] := by
  let id : Key := ⟨"id".toList, .named, "/".toList, [], defaultPattern, none⟩
  let name : Key := ⟨"name".toList, .named, [], [], defaultPattern, none⟩
  have hparent : parse "/users/:id".toList = .ok [.literal "/users".toList, .key id] :=
    eq_ok_of_toOption (by decide +kernel)
  have hchild : parse ":name".toList = .ok [.key name] := eq_ok_of_toOption (by decide +kernel)
  obtain ⟨-, -, h⟩ := parse_consumedPrefix [.literal "/users".toList, .key id] ":name".toList
  obtain ⟨-, ts', hread, hstatic, hkeys⟩ := h [.key name] hchild
  refine ⟨_, ts', hparent, hread, hstatic, ?_⟩
  rw [hkeys]
  rfl

end NestedRouting
