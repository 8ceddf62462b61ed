import NestedRouting.Proofs.Pattern.Grammar
import NestedRouting.Proofs.Pattern.Prefixed

/-!
# Printing of patterns

Tokens are printed with every character of their text escaped, groups and keys in braces, and every
key with its regular expression; only a wildcard is written as a bare star. What a pattern parses to
survives this: its printed form parses to the same tokens (`parse_printed`).

The printed form lexes to the lexemes of the tokens, as the names and bodies in them have been lexed
before (`lexes_printed`). These lexemes are again of the form of a pattern, for the edits of the first
reading with every regular expression spelled out (`reading_printed`). The one danger is a wildcard
without a lead behind a token without a modifier, whose star would be taken for one; the first
reading would have taken it so as well.
-/

namespace NestedRouting

/-! ## Printed forms -/

/-- A text with a backslash in front of every character. -/
def backslashed (t : Text) : Text := t.flatMap fun c => ['\\', c]

/-- A slot in braces, between a lead and a tail. -/
def braced (lead slot tail : Text) (m : Modifier) : Text :=
  '\x7b' :: (backslashed lead ++ (slot ++ (backslashed tail ++ '\x7d' :: m.text)))

/-- A key as it is printed. -/
def Key.printed (k : Key) : Text :=
  match k.kind with
  | .named => braced k.lead (':' :: k.name ++ ('(' :: k.pattern ++ [')'])) k.tail k.modifier
  | .positional => braced k.lead ('(' :: k.pattern ++ [')']) k.tail k.modifier
  | .wildcard => k.lead ++ ['*']

/-- A token as it is printed. -/
def Token.printed : Token → Text
  | literal text => backslashed text
  | group text m => '\x7b' :: (backslashed text ++ '\x7d' :: m.text)
  | key k => k.printed

/-- The printed form of tokens. -/
def printed (tokens : List Token) : Text := tokens.flatMap Token.printed

/-- The lexemes of a slot in braces, between a lead and a tail that are escaped. -/
def bracedLexemes (lead : Text) (slot : List Lexeme) (tail : Text) (m : Modifier) : List Lexeme :=
  .openBrace :: (lead.map .escaped ++ (slot ++ (tail.map .escaped ++ .closeBrace :: m.lexemes)))

/-- The lexemes of a printed key. -/
def Key.lexemes (k : Key) : List Lexeme :=
  match k.kind with
  | .named => bracedLexemes k.lead [.name k.name, .group k.pattern] k.tail k.modifier
  | .positional => bracedLexemes k.lead [.group k.pattern] k.tail k.modifier
  | .wildcard => k.lead.map .char ++ [.quantifier .zeroOrMore]

/-- The lexemes of a printed token. -/
def Token.lexemes : Token → List Lexeme
  | literal text => text.map .escaped
  | group text m => bracedLexemes text [] [] m
  | key k => k.lexemes

/-! ## Lexing of printed forms -/

/-- Whether a text lexes to lexemes wherever it stands and whatever stands behind it. -/
def LexesTo (t : Text) (xs : List Lexeme) : Prop :=
  ∀ i, ∃ zs : List Located, lexemesOf zs = xs ∧
    ∀ s, lexFrom i (t ++ s) = (lexFrom (i + t.byteLength) s).map (zs ++ ·)

section
variable {t u : Text} {xs ys : List Lexeme}

theorem lexesTo_nil : LexesTo [] [] := by
  refine fun i => ⟨[], rfl, fun s => ?_⟩
  show lexFrom i s = (lexFrom i s).map id
  cases lexFrom i s <;> rfl

/-- One text behind the other lexes to the lexemes of both. -/
theorem LexesTo.append (ht : LexesTo t xs) (hu : LexesTo u ys) : LexesTo (t ++ u) (xs ++ ys) := by
  intro i
  obtain ⟨zs, hzs, h⟩ := ht i
  obtain ⟨zs', hzs', h'⟩ := hu (i + t.byteLength)
  refine ⟨zs ++ zs', by rw [lexemesOf, List.map_append, ← hzs, ← hzs']; rfl, fun s => ?_⟩
  rw [List.append_assoc, h, h', Text.byteLength_append, Nat.add_assoc]
  cases lexFrom (i + (t.byteLength + u.byteLength)) s with
  | error e => rfl
  | ok ws => exact congrArg Except.ok (List.append_assoc zs zs' ws).symm

/-- Texts in sequence lex to their lexemes in sequence. -/
theorem LexesTo.flatMap {α : Type} {f : α → Text} {g : α → List Lexeme} {as : List α}
    (h : ∀ a ∈ as, LexesTo (f a) (g a)) : LexesTo (as.flatMap f) (as.flatMap g) := by
  induction as with
  | nil => exact lexesTo_nil
  | cons a as ih => exact (h a (.head _)).append (ih fun b hb => h b (.tail _ hb))

/-- Lexemes that fill a text whatever stands behind it. -/
theorem LexesTo.of_tiles (h : ∀ rest, Tiles xs t rest) : LexesTo t xs := fun i =>
  ⟨locatedFrom i xs, lexemesOf_locatedFrom i xs, fun s => (h s).lexFrom_append i⟩

/-- A lexeme that can stand in front of anything lexes to itself. -/
theorem lexesTo_of_fits {x : Lexeme} (h : ∀ rest, x.Fits rest) : LexesTo x.source [x] :=
  .of_tiles fun rest => .single (h rest)

/-- A quantifier lexes to itself. -/
theorem lexesTo_quantifier (q : Quantifier) : LexesTo [q.symbol] [.quantifier q] :=
  lexesTo_of_fits (x := .quantifier q) fun _ => trivial

/-- An opening brace lexes to itself. -/
theorem lexesTo_openBrace : LexesTo ['\x7b'] [.openBrace] :=
  lexesTo_of_fits (x := .openBrace) fun _ => trivial

/-- A closing brace lexes to itself. -/
theorem lexesTo_closeBrace : LexesTo ['\x7d'] [.closeBrace] :=
  lexesTo_of_fits (x := .closeBrace) fun _ => trivial

/-- A text with backslashes lexes to escaped characters. -/
theorem lexesTo_backslashed (t : Text) : LexesTo (backslashed t) (t.map .escaped) := by
  rw [List.map_eq_flatMap]
  exact .flatMap fun c _ => lexesTo_of_fits (x := .escaped c) fun _ => trivial

/-- A modifier lexes to its quantifier, if it has one. -/
theorem lexesTo_modifier (m : Modifier) : LexesTo m.text m.lexemes := by
  cases m with
  | none => exact lexesTo_nil
  | some q => exact lexesTo_quantifier q

/-- A regular expression that can be written lexes to itself. -/
theorem lexesTo_group {body : Text} (h : (Lexeme.group body).IsWritten) :
    LexesTo (Lexeme.group body).source [.group body] :=
  lexesTo_of_fits fun _ => h

/-- A name ends where a group opens. -/
theorem lexesTo_named {n body : Text} (hn : (Lexeme.name n).IsWritten)
    (h : (Lexeme.group body).IsWritten) :
    LexesTo ((Lexeme.name n).source ++ (Lexeme.group body).source) [.name n, .group body] := by
  have hbody : ∀ rest, (Lexeme.group body).Fits rest := fun _ => h
  refine .of_tiles fun rest => .cons ⟨hn, ?_⟩ (.single (hbody rest))
  rintro c ⟨⟩
  rfl

/-- What stands in braces lexes to its lexemes, if the slot does. -/
theorem LexesTo.braced {slot : Text} (h : LexesTo slot xs) (lead tail : Text) (m : Modifier) :
    LexesTo (NestedRouting.braced lead slot tail m) (bracedLexemes lead xs tail m) :=
  lexesTo_openBrace.append ((lexesTo_backslashed lead).append (h.append
    ((lexesTo_backslashed tail).append (lexesTo_closeBrace.append (lexesTo_modifier m)))))

/-! ### Keys that can be printed -/

/-- Whether what a key is written with can be written: its name if it has one, and its regular
expression if it is not a wildcard. The lead of a wildcard is one for a key without braces. -/
def Key.IsWritten (k : Key) : Prop :=
  match k.kind with
  | .named => (Lexeme.name k.name).IsWritten ∧ (Lexeme.group k.pattern).IsWritten
  | .positional => (Lexeme.group k.pattern).IsWritten
  | .wildcard => IsBareLead k.lead

/-- The lead of a key without braces lexes to its character. -/
theorem IsBareLead.lexesTo {t : Text} (h : IsBareLead t) : LexesTo t (t.map .char) := by
  rcases h with rfl | ⟨c, hc, rfl⟩
  · exact lexesTo_nil
  · refine lexesTo_of_fits (x := .char c) fun _ => ?_
    rcases Bool.or_eq_true_iff.1 hc with h | h <;> rw [eq_of_beq h] <;> rfl

/-- A key lexes to its lexemes. -/
theorem Key.IsWritten.lexesTo {k : Key} (h : k.IsWritten) : LexesTo k.printed k.lexemes := by
  unfold Key.IsWritten at h
  unfold Key.printed Key.lexemes
  cases hkind : k.kind with
  | named =>
    rw [hkind] at h
    exact (lexesTo_named h.1 h.2).braced k.lead k.tail k.modifier
  | positional =>
    rw [hkind] at h
    exact (lexesTo_group h).braced k.lead k.tail k.modifier
  | wildcard =>
    rw [hkind] at h
    exact (IsBareLead.lexesTo h).append (lexesTo_quantifier .zeroOrMore)

/-- Tokens whose keys can be written lex to their lexemes. -/
theorem lexes_printed {tokens : List Token} (h : ∀ key ∈ keysOf tokens, key.IsWritten) :
    LexesTo (printed tokens) (tokens.flatMap Token.lexemes) := by
  refine .flatMap fun t ht => ?_
  cases t with
  | literal text => exact lexesTo_backslashed text
  | group text m => exact lexesTo_nil.braced text [] m
  | key k => exact (h k (List.mem_filterMap.2 ⟨_, ht, rfl⟩)).lexesTo

end

/-! ## Reading of printed forms -/

/-- A slot with its regular expression spelled out. -/
def Slot.spelledOut : Slot → Slot
  | named n pattern => named n (some (pattern.getD defaultPattern))
  | slot => slot

/-- To spell out a regular expression makes no wildcard. -/
theorem Slot.spelledOut_ne {slot : Slot} (h : slot ≠ .wildcard) : slot.spelledOut ≠ .wildcard := by
  cases slot with
  | wildcard => exact absurd rfl h
  | named | positional => nofun

namespace Edit

/-- The same edit, by a slot with its regular expression spelled out. -/
def spelledOut : Edit → Edit
  | slot s lead tail m => slot s.spelledOut lead tail m
  | e => e

/-- The lexemes of what an edit adds, as it is printed. -/
def lexemes : Edit → List Lexeme
  | char c => [.escaped c]
  | group text m => bracedLexemes text [] [] m
  | slot (.named n pattern) lead tail m =>
    bracedLexemes lead [.name n, .group (pattern.getD defaultPattern)] tail m
  | slot (.positional body) lead tail m => bracedLexemes lead [.group body] tail m
  | slot .wildcard lead _ _ => lead.map .char ++ [.quantifier .zeroOrMore]

/-- All slots but a wildcard are printed in braces. -/
theorem lexemes_slot {s : Slot} (h : s ≠ .wildcard) (lead tail : Text) (m : Modifier) :
    (slot s lead tail m).lexemes = bracedLexemes lead s.spelledOut.lexemes tail m := by
  cases s with
  | wildcard => exact absurd rfl h
  | named | positional => rfl

/-- Whether the key that an edit adds, if there is one, can be written. -/
def IsWritten : Edit → Prop
  | slot (.named n pattern) _ _ _ =>
    (Lexeme.name n).IsWritten ∧ (Lexeme.group (pattern.getD defaultPattern)).IsWritten
  | slot (.positional body) _ _ _ => (Lexeme.group body).IsWritten
  | slot .wildcard lead _ _ => IsBareLead lead
  | _ => True

end Edit

namespace Draft

variable {d : Draft}

/-- The lexemes of what has been read, as it is printed. -/
def lexemes (d : Draft) : List Lexeme :=
  d.tokens.flatMap Token.lexemes ++ d.literal.map .escaped

/-- An edit does the same with its regular expression spelled out. -/
theorem edit_spelledOut (d : Draft) (e : Edit) : d.edit e.spelledOut = d.edit e := by
  match e with
  | .char _ | .group .. | .slot (.named ..) .. | .slot (.positional _) .. | .slot .wildcard .. => rfl

/-- The end of a literal adds no lexeme. -/
theorem lexemes_flush (d : Draft) : d.flush.tokens.flatMap Token.lexemes = d.lexemes :=
  flatMap_flush (fun _ => rfl) d

/-- An edit adds its lexemes. -/
theorem lexemes_edit (d : Draft) (e : Edit) : (d.edit e).lexemes = d.lexemes ++ e.lexemes := by
  match e with
  | .char c => exact flatMap_pushChar d c
  | .group .. | .slot (.named ..) .. | .slot (.positional _) .. | .slot .wildcard .. =>
    exact flatMap_pushToken (fun _ => rfl) d _

/-- The lexemes of a draft are those of its edits. -/
theorem lexemes_edits (d : Draft) (es : List Edit) :
    (es.foldl edit d).lexemes = d.lexemes ++ es.flatMap Edit.lexemes := by
  induction es generalizing d with
  | nil => exact (List.append_nil _).symm
  | cons e es ih => rw [List.foldl_cons, ih, lexemes_edit, List.flatMap_cons, List.append_assoc]

/-- Edits that can be written add keys that can be written. -/
theorem isWritten_edits {es : List Edit} (hd : ∀ key ∈ keysOf d.tokens, key.IsWritten)
    (hes : ∀ e ∈ es, e.IsWritten) :
    ∀ key ∈ keysOf (es.foldl edit d).flush.tokens, key.IsWritten := by
  have hflush : ∀ d : Draft, keysOf d.flush.tokens = keysOf d.tokens := by
    intro d
    rw [tokens_flush, keysOf_append]
    split <;> exact List.append_nil _
  induction es generalizing d with
  | nil =>
    rw [List.foldl_nil, hflush]
    exact hd
  | cons e es ih =>
    refine ih ?_ fun e' he' => hes e' (.tail _ he')
    have he := hes e (.head _)
    have hpush : ∀ t : Token, (∀ key, t.key? = some key → key.IsWritten) →
        ∀ key ∈ keysOf (d.pushToken t).tokens, key.IsWritten := by
      intro t ht key hkey
      have hkey : key ∈ keysOf (d.flush.tokens ++ [t]) := hkey
      rw [keysOf_append, hflush] at hkey
      rcases List.mem_append.1 hkey with hkey | hkey
      · exact hd key hkey
      · obtain ⟨u, hu, hkey'⟩ := List.mem_filterMap.1 hkey
        exact ht key (List.mem_singleton.1 hu ▸ hkey')
    match e, he with
    | .char c, _ => exact hd
    | .group text m, _ => exact hpush _ nofun
    | .slot (.named ..) .., he | .slot (.positional _) .., he | .slot .wildcard .., he =>
      refine hpush _ ?_
      rintro key ⟨⟩
      exact he

end Draft

section
variable {xs : List Lexeme} {es : List Edit}

/-- The regular expression of a segment can be written. -/
theorem isWritten_defaultPattern : (Lexeme.group defaultPattern).IsWritten := by
  have htake : takeGroup 0 (defaultPattern ++ [')']) = .ok (.group defaultPattern, []) :=
    eq_ok_of_toOption (by decide +kernel)
  obtain ⟨_, ⟨⟩, -, h⟩ := takeGroup_eq_ok_iff.1 htake
  exact h

/-- What lexemes that can be written are read as can be written. -/
theorem Reading.isWritten (h : Reading xs es) (hxs : ∀ x ∈ xs, x.IsWritten) :
    ∀ e ∈ es, e.IsWritten := by
  have hslot : ∀ (slot : Slot) (lead tail : Text) (m : Modifier), slot ≠ .wildcard →
      (∀ x ∈ slot.lexemes, x.IsWritten) → (Edit.slot slot lead tail m).IsWritten := by
    intro slot lead tail m hne hx
    match slot with
    | .named n none => exact ⟨hx _ (.head _), isWritten_defaultPattern⟩
    | .named n (some body) => exact ⟨hx _ (.head _), hx _ (.tail _ (.head _))⟩
    | .positional body => exact hx _ (.head _)
    | .wildcard => exact absurd rfl hne
  induction h with
  | finish => exact nofun
  | char _ _ _ ih =>
    exact List.forall_mem_cons.2 ⟨trivial, ih fun x hx => hxs x (.tail _ hx)⟩
  | wildcard hlead _ ih =>
    exact List.forall_mem_cons.2 ⟨hlead, ih fun x hx => hxs x (by simp [hx])⟩
  | slot hne _ _ _ _ ih =>
    exact List.forall_mem_cons.2 ⟨hslot _ _ _ _ hne fun x hx => hxs x (by simp [hx]),
      ih fun x hx => hxs x (by simp [hx])⟩
  | group _ _ _ ih =>
    exact List.forall_mem_cons.2 ⟨trivial, ih fun x hx => hxs x (by simp [hx])⟩
  | braces hne _ _ _ _ ih =>
    exact List.forall_mem_cons.2 ⟨hslot _ _ _ _ hne fun x hx => hxs x (by simp [hx]),
      ih fun x hx => hxs x (by simp [hx])⟩

/-- Where no quantifier stands, none is printed: a star that opens a key is one in both. -/
theorem Reading.head?_printed (h : Reading xs es) (hxs : ∀ q, xs.head? ≠ some (.quantifier q))
    (q : Quantifier) :
    (es.flatMap Edit.lexemes ++ [Lexeme.finish]).head? ≠ some (.quantifier q) := by
  cases h with
  | finish | char | group => nofun
  | slot hne | braces hne =>
    rw [List.flatMap_cons, Edit.lexemes_slot hne]
    nofun
  | wildcard hlead =>
    rcases hlead with rfl | ⟨c, -, rfl⟩
    · exact absurd rfl (hxs .zeroOrMore)
    · nofun

/-- Escaped characters stand for themselves. -/
theorem map_char?_escaped (t : Text) : (t.map Lexeme.escaped).map Lexeme.char? = t.map some := by
  rw [List.map_map]
  rfl

/-- What is printed is read by the same edits, with all regular expressions spelled out. -/
theorem reading_printed (h : Reading xs es) :
    Reading (es.flatMap Edit.lexemes ++ [Lexeme.finish]) (es.map Edit.spelledOut) := by
  induction h with
  | finish => exact .finish
  | char _ _ _ ih => exact .char rfl nofun ih
  | wildcard hlead _ ih =>
    rw [List.flatMap_cons, Edit.lexemes, List.append_assoc, List.append_assoc]
    exact .wildcard hlead ih
  | @group ys xs text m es _ hends hrest ih =>
    rw [List.flatMap_cons, Edit.lexemes, bracedLexemes]
    simp only [List.map_nil, List.nil_append, List.cons_append, List.append_assoc]
    exact .group (map_char?_escaped text) (fun hm => hrest.head?_printed (hends hm)) ih
  | slot hne _ _ hends hrest ih | braces hne _ _ hends hrest ih =>
    rw [List.flatMap_cons, Edit.lexemes_slot hne, bracedLexemes]
    simp only [List.cons_append, List.append_assoc]
    exact .braces (Slot.spelledOut_ne hne) (map_char?_escaped _) (map_char?_escaped _)
      (fun hm => hrest.head?_printed (hends hm)) ih

end

/-- Parsing loses nothing that a pattern can express: what a pattern parses to, printed, parses to
the same tokens again. -/
theorem parse_printed {source : Text} {tokens : List Token} (h : parse source = .ok tokens) :
    parse (printed tokens) = .ok tokens := by
  obtain ⟨xs, es, hlex, hread, rfl⟩ := parse_eq_ok_iff.1 h
  have hwritten := isWritten_of_lexFrom hlex
  have hkeys := Draft.isWritten_edits (d := .empty) nofun (hread.isWritten hwritten)
  obtain ⟨zs, hzs, hprinted⟩ := lexes_printed hkeys 0
  have hprinted := hprinted []
  rw [List.append_nil, lexFrom] at hprinted
  refine parse_eq_ok_iff.2 ⟨_, es.map Edit.spelledOut, hprinted, ?_, ?_⟩
  · rw [lexemesOf, List.map_append, ← lexemesOf, hzs, Draft.lexemes_flush, Draft.lexemes_edits]
    exact reading_printed hread
  · rw [List.foldl_map]
    simp only [Draft.edit_spelledOut]

/-- A pattern with a wildcard behind a modifier, which is not taken for one in the printed form. -/
theorem parse_printed_star :
    let id : Key := ⟨"id".toList, .named, "-".toList, "\x7d".toList, defaultPattern, some .optional⟩
    let star : Key := ⟨"0".toList, .wildcard, [], [], wildcardPattern, none⟩
    let digits : Key := ⟨"1".toList, .positional, "/".toList, [], "\\d+(?:x)".toList, none⟩
    let tokens : List Token := [.literal "/a*".toList, .key id, .key star, .key digits]
    parse "/a\\*\x7b-:id\\\x7d\x7d?*/(\\d+(?:x))".toList = .ok tokens ∧
      printed tokens =
        "\\/\\a\\*\x7b\\-:id([^/#?]+?)\\\x7d\x7d?*\x7b\\/(\\d+(?:x))\x7d".toList ∧
      parse (printed tokens) = .ok tokens := by
  intro id star digits tokens
  have h : parse "/a\\*\x7b-:id\\\x7d\x7d?*/(\\d+(?:x))".toList = .ok tokens :=
    eq_ok_of_toOption (by decide +kernel)
  exact ⟨h, by decide +kernel, parse_printed h⟩

end NestedRouting
