import Mathlib.Control.Monad.Basic
import NestedRouting.Proofs.Pattern.Stuck

/-!
# What stands where a syntax error points

A syntax error of a pattern points between two characters, or at an end of the pattern, and what it
names begins there (`SyntaxError.Points`, `parse_error_points`). What stands in front has been cut into
lexemes, up to the group that the error is about if it is inside one. Whether a parenthesis closes is
a matter of nesting alone: `Nests` counts every parenthesis that is not escaped. A lexeme that is not
expected is the first at which no pattern goes on: every pattern that begins with the same lexemes has
the same error, and with what is expected in its place the pattern could have ended.
-/

namespace NestedRouting

/-- A text leads from a number of open parentheses to another one. A parenthesis counts unless it is
escaped. -/
inductive Nests : Nat → Text → Nat → Prop
  | nil (depth : Nat) : Nests depth [] depth
  | escaped {depth d : Nat} {s : Text} (c : Char) : Nests depth s d → Nests depth ('\\' :: c :: s) d
  | close {depth d : Nat} {s : Text} : Nests depth s d → Nests (depth + 1) (')' :: s) d
  | inner {depth d : Nat} {s : Text} : Nests (depth + 1) s d → Nests depth ('(' :: s) d
  | char {depth d : Nat} {s : Text} {c : Char} : c ≠ '\\' → c ≠ ')' → c ≠ '(' → Nests depth s d →
    Nests depth (c :: s) d

/-- Whether a lexeme stands at the front of a text, where the end of the pattern is the end of the
text. -/
def Lexeme.StandsAt : Lexeme → Text → Prop
  | finish, after => after = []
  | x, after => ∃ rest, after = x.source ++ rest ∧ x.Fits rest

/-- Whether a text in front of another one is cut into lexemes. -/
def IsCut (before after : Text) : Prop := ∃ xs, Tiles xs before after

/-- The lexemes `xs` stand in front, and behind them stands the lexeme `x` where another kind of
lexeme is expected. -/
structure Unexpected (e : SyntaxError) (expected : LexemeKind) (xs : List Lexeme) (x : Lexeme)
    (before after : Text) : Prop where
  cut : Tiles xs before after
  stands : x.StandsAt after
  kind_ne : x.kind ≠ expected
  atEnd : x = .finish ↔ after = []
  /-- No pattern begins with these lexemes. -/
  fails : ∀ s ys, lex s = .ok ys → xs ++ [x] <+: lexemesOf ys → parse s = .error e
  /-- A pattern begins with those in front, and with what is expected it ends. -/
  closes : ∃ closing, expected.closing? = some closing ∧
    ∃ tokens, parse (before ++ closing.flatMap Lexeme.source) = .ok tokens

/-- What an error says about the place between two texts. -/
def SyntaxError.Points (e : SyntaxError) (before after : Text) : Prop :=
  match e with
  | missingName _ => IsCut before after ∧
    ∃ rest, after = ':' :: rest ∧ ∀ c, rest.head? = some c → isNameChar c = false
  | unbalancedGroup _ => IsCut before after ∧
    ∃ rest, after = '(' :: rest ∧ ∀ body rest', rest = body ++ ')' :: rest' → ¬ Nests 0 body 0
  | capturingGroup _ => ∃ outer inner depth rest, before = outer ++ '(' :: inner ∧
    after = '(' :: rest ∧ IsCut outer ('(' :: inner ++ after) ∧ Nests 0 inner depth ∧
    rest.head? ≠ some '?'
  | questionAfterOpen _ => ∃ outer rest, before = outer ++ ['('] ∧ after = '?' :: rest ∧
    IsCut outer ('(' :: after)
  | emptyGroup _ => IsCut before after ∧ ∃ rest, after = '(' :: ')' :: rest
  | trailingEscape _ => IsCut before after ∧ after = ['\\']
  | unexpected found _ expected => ∃ xs x, x.kind = found ∧ Unexpected e expected xs x before after
  | repeatWithoutAffix _ | invalidRegex _ => False

section
variable {opened index depth : Nat} {c : Char} {s before after : Text} {xs : List Lexeme}
  {front rest : List Located} {x : Located} {expected : LexemeKind} {e : SyntaxError}

/-! ## Groups that cannot be cut off -/

/-- An error behind characters is the error by itself. -/
theorem prependBody_eq_error {cs : Text} {r : Except SyntaxError (Text × Text)}
    (h : prependBody cs r = .error e) : r = .error e := by
  cases r with
  | ok => cases h
  | error => exact h

/-- How the search for the end of a group fails: no parenthesis closes it, or a group opens inside that
would capture. -/
inductive Unclosed (opened index depth : Nat) (s : Text) : SyntaxError → Prop
  | unbalanced : (∀ body rest, s = body ++ ')' :: rest → ¬ Nests depth body 0) →
    Unclosed opened index depth s (.unbalancedGroup opened)
  | capturing {inner rest : Text} {d : Nat} : s = inner ++ '(' :: rest → Nests depth inner d →
    rest.head? ≠ some '?' → Unclosed opened index depth s (.capturingGroup (index + inner.byteLength))

/-- The search goes on behind characters that it passes. -/
theorem Unclosed.behind (cs : Text) {k depth' : Nat} (h : Unclosed opened k depth' s e)
    (hk : k = index + cs.byteLength)
    (hin : ∀ inner d, Nests depth' inner d → Nests depth (cs ++ inner) d)
    (hout : ∀ body rest, cs ++ s = body ++ ')' :: rest → Nests depth body 0 →
      ∃ body', body = cs ++ body' ∧ Nests depth' body' 0) :
    Unclosed opened index depth (cs ++ s) e := by
  subst hk
  cases h with
  | unbalanced hunclosed =>
    refine .unbalanced fun body rest hs hbody => ?_
    obtain ⟨body', rfl, hbody'⟩ := hout body rest hs hbody
    rw [List.append_assoc] at hs
    exact hunclosed body' rest (List.append_cancel_left hs) hbody'
  | @capturing inner rest d hs hinner hrest =>
    subst hs
    rw [Nat.add_assoc, ← Text.byteLength_append, ← List.append_assoc]
    exact .capturing rfl (hin inner d hinner) hrest

/-- The search for the end of a group fails only in one of these ways. -/
theorem unclosed_of_closeGroup (h : closeGroup opened index depth s = .error e) :
    Unclosed opened index depth s e := by
  fun_induction closeGroup opened index depth s with
  | case1 =>
    cases h
    exact .unbalanced fun body rest hs => by simp at hs
  | case2 index depth =>
    cases h
    refine .unbalanced fun body rest hs => ?_
    cases body <;> simp at hs
  | case3 index depth c s ih =>
    -- a body does not end between a backslash and the character behind it
    refine Unclosed.behind ['\\', c] (ih (prependBody_eq_error h)) (Nat.add_assoc ..)
      (fun _ _ => .escaped c) fun body rest hs hbody => ?_
    rcases body with - | ⟨b, - | ⟨b', body⟩⟩ <;> cases hs
    · cases hbody with
      | char h => exact absurd rfl h
    · cases hbody with
      | escaped _ hbody => exact ⟨body, rfl, hbody⟩
      | char h => exact absurd rfl h
  | case4 => cases h
  | case5 index s depth _ ih =>
    refine Unclosed.behind [')'] (ih (prependBody_eq_error h)) rfl (fun _ _ => .close)
      fun body rest hs hbody => ?_
    cases body with
    | nil => cases hbody
    | cons b body =>
      cases hs
      cases hbody with
      | close hbody => exact ⟨body, rfl, hbody⟩
      | char _ h => exact absurd rfl h
  | case6 index depth s hhead _ _ ih =>
    refine Unclosed.behind ['('] (ih (prependBody_eq_error h)) rfl (fun _ _ => .inner)
      fun body rest hs hbody => ?_
    cases body with
    | nil => cases hs
    | cons b body =>
      cases hs
      cases hbody with
      | inner hbody => exact ⟨body, rfl, hbody⟩
      | char _ _ h => exact absurd rfl h
  | case7 index depth s hhead =>
    cases h
    have hs : '(' :: s = [] ++ '(' :: s := rfl
    exact .capturing hs (.nil depth) hhead
  | case8 index depth c s hslash hclose hopen ih =>
    refine Unclosed.behind [c] (ih (prependBody_eq_error h)) rfl (fun _ _ => .char hslash hclose hopen)
      fun body rest hs hbody => ?_
    cases body with
    | nil => exact absurd (List.cons.inj hs).1 hclose
    | cons b body =>
      cases hs
      cases hbody with
      | char _ _ _ hbody => exact ⟨body, rfl, hbody⟩
      | _ => contradiction

/-! ## Lexemes that cannot be cut off -/

/-- The error of a group points into it. -/
theorem points_of_takeGroup (hcut : Tiles xs before ('(' :: s))
    (h : takeGroup before.byteLength s = .error e) :
    ∃ inner after, '(' :: s = inner ++ after ∧ e.index? = some (before ++ inner).byteLength ∧
      e.Points (before ++ inner) after := by
  unfold takeGroup at h
  split at h
  · next hhead =>
    cases h
    obtain ⟨rest, rfl⟩ := List.head?_eq_some_iff.1 hhead
    refine ⟨['('], '?' :: rest, rfl, ?_, before, rest, rfl, rfl, xs, hcut⟩
    rw [Text.byteLength_append]
    rfl
  · split at h
    · next hclose =>
      cases h
      cases unclosed_of_closeGroup hclose with
      | unbalanced hunclosed =>
        refine ⟨[], '(' :: s, rfl, by rw [List.append_nil]; rfl, ?_⟩
        rw [List.append_nil]
        exact ⟨⟨xs, hcut⟩, s, rfl, hunclosed⟩
      | @capturing inner rest d hs hinner hrest =>
        subst hs
        refine ⟨'(' :: inner, '(' :: rest, rfl, ?_, before, inner, d, rest, rfl, rfl, ⟨xs, hcut⟩,
          hinner, hrest⟩
        rw [Text.byteLength_append, Text.byteLength_cons, ← Nat.add_assoc]
        rfl
    · next rest hclose =>
      cases h
      obtain rfl := eq_of_closeGroup hclose
      refine ⟨[], '(' :: ')' :: rest, rfl, by rw [List.append_nil]; rfl, ?_⟩
      rw [List.append_nil]
      exact ⟨⟨xs, hcut⟩, rest, rfl⟩
    · cases h

/-- Where no lexeme can be cut off, the error says why. -/
theorem points_of_takeLexeme (hcut : Tiles xs before (c :: s))
    (h : takeLexeme before.byteLength c s = .error e) :
    ∃ inner after, c :: s = inner ++ after ∧ e.index? = some (before ++ inner).byteLength ∧
      e.Points (before ++ inner) after := by
  unfold takeLexeme at h
  split at h
  · cases h
  · split at h
    · next hc =>
      split at h <;> cases h
      refine ⟨[], [c], rfl, by rw [List.append_nil]; rfl, ?_⟩
      rw [List.append_nil]
      exact ⟨⟨xs, hcut⟩, congrArg (fun c => [c]) hc⟩
    · split at h
      · cases h
      · split at h
        · cases h
        · split at h
          · next hc =>
            split at h
            · next hname =>
              cases h
              refine ⟨[], c :: s, rfl, by rw [List.append_nil]; rfl, ?_⟩
              rw [List.append_nil]
              refine ⟨⟨xs, hcut⟩, s, congrArg (· :: s) hc, fun d hd => ?_⟩
              obtain ⟨s, rfl⟩ := List.head?_eq_some_iff.1 hd
              refine Bool.eq_false_iff.2 fun hd => ?_
              rw [List.takeWhile_cons_of_pos hd] at hname
              cases hname
            · cases h
          · split at h
            · next hc =>
              subst hc
              exact points_of_takeGroup hcut h
            · cases h

/-! ## Lexemes that are not expected -/

/-- A pattern that lexes is parsed from its lexemes. -/
theorem parse_of_lex {zs : List Located} (h : lex s = .ok zs) :
    parse s = parseFrom .empty zs := by
  simp only [parse, h]

/-- A lexeme that fits stands where it is cut off. -/
theorem Lexeme.Fits.standsAt {x : Lexeme} (h : x.Fits s) : x.StandsAt (x.source ++ s) := by
  cases x with
  | finish => cases h
  | openBrace | closeBrace | group | name | char | escaped | quantifier => exact ⟨s, rfl, h⟩

/-- A lexeme stands where those in front of it end. -/
theorem located_of_lex (h : lex s = .ok (front ++ x :: rest)) :
    front = locatedFrom 0 (lexemesOf front) ∧
      x.index = Text.byteLength ((lexemesOf front).flatMap Lexeme.source) := by
  obtain ⟨xs, -, hlocated⟩ := lexFrom_eq_ok_iff.1 h
  obtain ⟨hfront, hx⟩ := locatedFrom_cut hlocated
  refine ⟨hfront, ?_⟩
  rw [Nat.zero_add] at hx
  exact congrArg Located.index (List.cons.inj hx).1

/-- Where the lexemes of a pattern are cut, the pattern is cut. -/
theorem exists_cut_of_lex (h : lex s = .ok (front ++ x :: rest)) :
    ∃ before after, s = before ++ after ∧ Tiles (lexemesOf front) before after ∧
      x.lexeme.StandsAt after ∧ (x.lexeme = .finish ↔ after = []) := by
  obtain ⟨xs, htiles, hlocated⟩ := lexFrom_eq_ok_iff.1 h
  have hxs : lexemesOf front ++ x.lexeme :: lexemesOf rest = xs ++ [.finish] := by
    have hlexemes := congrArg lexemesOf hlocated
    rwa [lexemesOf_locatedFrom, lexemesOf, List.map_append] at hlexemes
  rcases List.eq_nil_or_concat (lexemesOf rest) with hrest | ⟨ys, y, hrest⟩
  · rw [hrest] at hxs
    obtain ⟨rfl, hfinish⟩ := List.append_singleton_inj.1 hxs
    rw [hfinish]
    exact ⟨s, [], (List.append_nil s).symm, htiles, rfl, by simp⟩
  · rw [hrest, List.concat_eq_append, ← List.cons_append, ← List.append_assoc] at hxs
    obtain ⟨rfl, -⟩ := List.append_singleton_inj.1 hxs
    obtain ⟨before, after, rfl, hfront, hafter⟩ := htiles.split
    rw [List.append_nil] at hfront
    refine ⟨before, after, rfl, hfront, ?_⟩
    cases hafter with
    | cons hfits _ =>
      rw [List.append_nil] at hfits
      refine ⟨hfits.standsAt, fun hfinish => ?_, fun hnil => ?_⟩
      · rw [hfinish] at hfits
        cases hfits
      · obtain ⟨c, t, hsource⟩ := hfits.exists_source
        rw [hsource] at hnil
        cases hnil

/-- Every pattern that begins with the lexemes at which reading is stuck has the same error. -/
theorem Stuck.parse_eq (hstuck : Stuck .empty front x expected)
    (h : lex s = .ok (front ++ x :: rest)) {s' : Text} {ys : List Located} (hlex : lex s' = .ok ys)
    (hys : lexemesOf front ++ [x.lexeme] <+: lexemesOf ys) :
    parse s' = .error (.unexpected x.lexeme.kind x.index expected) := by
  obtain ⟨hfront, hindex⟩ := located_of_lex h
  obtain ⟨zs, -, rfl⟩ := lexFrom_eq_ok_iff.1 hlex
  obtain ⟨ws, hws⟩ := hys
  rw [lexemesOf_locatedFrom, List.append_assoc] at hws
  rw [parse_of_lex hlex, ← hws, locatedFrom_append, ← hfront, Nat.zero_add, ← hindex]
  exact hstuck.fails _

/-- What stands in front of the lexeme at which reading is stuck is a pattern once it is closed. -/
theorem Stuck.exists_parse_closed (hstuck : Stuck .empty front x expected)
    (h : lex s = .ok (front ++ x :: rest)) (hcut : Tiles (lexemesOf front) before after) :
    ∃ closing, expected.closing? = some closing ∧
      ∃ tokens, parse (before ++ closing.flatMap Lexeme.source) = .ok tokens := by
  obtain ⟨hfront, -⟩ := located_of_lex h
  obtain ⟨closing, hclosing, hcloses⟩ := hstuck.closes
  refine ⟨closing, hclosing, ?_⟩
  -- the text that closes is cut as it is written, and it continues no name
  obtain ⟨hclosed, hname⟩ : Tiles closing (closing.flatMap Lexeme.source) [] ∧
      ∀ c, (closing.flatMap Lexeme.source).head? = some c → isNameChar c = false := by
    cases expected <;> cases hclosing
    · exact ⟨.cons trivial (.nil []), by rintro c ⟨⟩; rfl⟩
    · exact ⟨.nil [], nofun⟩
  have htiles : Tiles (lexemesOf front ++ closing) (before ++ closing.flatMap Lexeme.source) [] := by
    refine .append ?_ hclosed
    rw [List.append_nil]
    exact hcut.changed hname
  have hlex : lex (before ++ closing.flatMap Lexeme.source) = .ok _ :=
    lexFrom_eq_ok_iff.2 ⟨_, htiles, rfl⟩
  rw [parse_of_lex hlex, List.append_assoc, locatedFrom_append, ← hfront]
  exact hcloses _ (lexemesOf_locatedFrom _ _)

/-- What stands where reading is stuck. -/
theorem points_of_stuck (hstuck : Stuck .empty front x expected)
    (h : lex s = .ok (front ++ x :: rest)) :
    ∃ before after, s = before ++ after ∧ x.index = before.byteLength ∧
      (SyntaxError.unexpected x.lexeme.kind x.index expected).Points before after := by
  obtain ⟨before, after, hs, hcut, hstands, hend⟩ := exists_cut_of_lex h
  refine ⟨before, after, hs, ?_, lexemesOf front, x.lexeme, rfl, ?_⟩
  · rw [(located_of_lex h).2, hcut.eq_flatMap]
  · exact {
      cut := hcut
      stands := hstands
      kind_ne := hstuck.kind_ne
      atEnd := hend
      fails := fun _ _ => hstuck.parse_eq h
      closes := hstuck.exists_parse_closed h hcut }

end

/-- A pattern that does not parse has an error that points between two of its characters or at one of
its ends, and there stands what the error names. -/
theorem parse_error_points {source : Text} {e : SyntaxError} (h : parse source = .error e) :
    ∃ before after, source = before ++ after ∧ e.index? = some before.byteLength ∧
      e.Points before after := by
  unfold parse at h
  split at h
  · next e' hlex =>
    cases h
    obtain ⟨xs, before, c, s, rfl, hcut, htake⟩ := tiles_of_lexFrom_error hlex
    rw [Nat.zero_add] at htake
    obtain ⟨inner, after, hs, hindex, hpoints⟩ := points_of_takeLexeme hcut htake
    refine ⟨before ++ inner, after, ?_, hindex, hpoints⟩
    rw [hs, List.append_assoc]
  · next zs hlex =>
    have hend : Ended (fun _ => True) zs := ended_lexFrom hlex fun _ _ => trivial
    obtain ⟨front, x, rest, expected, rfl, hstuck⟩ := exists_stuck hend h
    obtain ⟨before, after, hs, hindex, hpoints⟩ := points_of_stuck hstuck hlex
    rw [hstuck.fails rest] at h
    cases h
    exact ⟨before, after, hs, congrArg some hindex, hpoints⟩

/-- Where the error of a pattern with a character of two bytes points: at the group that would capture
inside another one, and at the second of two modifiers. -/
theorem points_behind_two_bytes :
    (parse "/é(a(?:b(c)))".toList = .error (.capturingGroup 9) ∧
      ∃ before after : Text, "/é(a(?:b(c)))".toList = before ++ after ∧ before.byteLength = 9 ∧
        (SyntaxError.capturingGroup 9).Points before after) ∧
    parse "/é\x7b:id\x7d+?".toList = .error (.unexpected .quantifier 9 .finish) ∧
      ∃ before after : Text, "/é\x7b:id\x7d+?".toList = before ++ after ∧ before.byteLength = 9 ∧
        (SyntaxError.unexpected .quantifier 9 .finish).Points before after := by
  have hgroup : parse "/é(a(?:b(c)))".toList = .error (.capturingGroup 9) := by
    decide +kernel
  have hmodifier : parse "/é\x7b:id\x7d+?".toList = .error (.unexpected .quantifier 9 .finish) := by
    decide +kernel
  obtain ⟨before, after, hs, hindex, hpoints⟩ := parse_error_points hgroup
  obtain ⟨before', after', hs', hindex', hpoints'⟩ := parse_error_points hmodifier
  exact ⟨⟨hgroup, before, after, hs, (Option.some.inj hindex).symm, hpoints⟩,
    hmodifier, before', after', hs', (Option.some.inj hindex').symm, hpoints'⟩

end NestedRouting
