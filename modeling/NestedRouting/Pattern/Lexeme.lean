import NestedRouting.Pattern.SyntaxError
import NestedRouting.Pattern.Token

/-!
# Lexemes of a route pattern

`lex` cuts a pattern into lexemes, each with the byte offset at which it starts, and ends the list
with `Lexeme.finish`. A group runs from its parenthesis to the one that closes it
(`closeGroup`); a backslash takes the next character with it, inside groups too. What one lexeme
leaves is never longer than what it was given (`takeLexeme_le`), so cutting comes to an end.
-/

namespace NestedRouting

/-- A piece of a pattern. -/
inductive Lexeme
  | openBrace
  | closeBrace
  /-- A parenthesised group; the body stands without its parentheses. -/
  | group (body : Text)
  /-- A name after a colon. -/
  | name (name : Text)
  | char (c : Char)
  /-- The character behind a backslash. -/
  | escaped (c : Char)
  | quantifier (q : Quantifier)
  /-- The end of the pattern. -/
  | finish
  deriving DecidableEq, Repr

namespace Lexeme

/-- The kind of a lexeme. -/
def kind : Lexeme → LexemeKind
  | openBrace => .openBrace
  | closeBrace => .closeBrace
  | group _ => .group
  | name _ => .name
  | char _ => .char
  | escaped _ => .escaped
  | quantifier _ => .quantifier
  | finish => .finish

/-- The characters that a lexeme takes up in the pattern. -/
def source : Lexeme → Text
  | openBrace => ['\x7b']
  | closeBrace => ['\x7d']
  | group body => '(' :: body ++ [')']
  | name n => ':' :: n
  | char c => [c]
  | escaped c => ['\\', c]
  | quantifier q => [q.symbol]
  | finish => []

end Lexeme

/-- A lexeme and the byte offset at which it starts. -/
structure Located where
  index : Nat
  lexeme : Lexeme
  deriving DecidableEq, Repr

/-- The characters of parameter names. -/
def isNameChar (c : Char) : Bool := c.isAlphanum || c == '_'

/-- Puts characters in front of the body of a group. -/
def prependBody (cs : Text) :
    Except SyntaxError (Text × Text) → Except SyntaxError (Text × Text)
  | .ok (body, rest) => .ok (cs ++ body, rest)
  | .error e => .error e

/-- Splits the text behind an opening parenthesis into the body of the group and what follows the
parenthesis that closes it. `opened` is the offset of the group, `index` that of the text, `depth`
the number of inner groups still open. An inner group must start with a question mark. -/
def closeGroup (opened index depth : Nat) : Text → Except SyntaxError (Text × Text)
  | [] => .error (.unbalancedGroup opened)
  | c :: s =>
    if c = '\\' then
      match s with
      | [] => .error (.unbalancedGroup opened)
      | e :: s => prependBody [c, e] (closeGroup opened (index + c.utf8Size + e.utf8Size) depth s)
    else if c = ')' then
      match depth with
      | 0 => .ok ([], s)
      | depth + 1 => prependBody [c] (closeGroup opened (index + c.utf8Size) depth s)
    else if c = '(' then
      if s.head? = some '?' then
        prependBody [c] (closeGroup opened (index + c.utf8Size) (depth + 1) s)
      else .error (.capturingGroup index)
    else prependBody [c] (closeGroup opened (index + c.utf8Size) depth s)

/-- The group whose opening parenthesis stands at `index` in front of `s`, and what follows it. -/
def takeGroup (index : Nat) (s : Text) : Except SyntaxError (Lexeme × Text) :=
  if s.head? = some '?' then .error (.questionAfterOpen (index + '('.utf8Size))
  else
    match closeGroup index (index + '('.utf8Size) 0 s with
    | .error e => .error e
    | .ok ([], _) => .error (.emptyGroup index)
    | .ok (body, rest) => .ok (.group body, rest)

/-- The lexeme that starts with `c` at `index` in front of `s`, and what follows it. -/
def takeLexeme (index : Nat) (c : Char) (s : Text) : Except SyntaxError (Lexeme × Text) :=
  match Quantifier.ofChar? c with
  | some q => .ok (.quantifier q, s)
  | none =>
    if c = '\\' then
      match s with
      | [] => .error (.trailingEscape index)
      | e :: s => .ok (.escaped e, s)
    else if c = '\x7b' then .ok (.openBrace, s)
    else if c = '\x7d' then .ok (.closeBrace, s)
    else if c = ':' then
      match s.takeWhile isNameChar with
      | [] => .error (.missingName index)
      | name => .ok (.name name, s.dropWhile isNameChar)
    else if c = '(' then takeGroup index s
    else .ok (.char c, s)

/-- A body behind characters is the body that follows them. -/
theorem prependBody_eq_ok {cs body rest : Text} {r : Except SyntaxError (Text × Text)}
    (h : prependBody cs r = .ok (body, rest)) :
    ∃ inner, r = .ok (inner, rest) ∧ body = cs ++ inner := by
  unfold prependBody at h
  split at h
  · simp only [Except.ok.injEq, Prod.mk.injEq] at h
    exact ⟨_, by rw [h.2], h.1.symm⟩
  · simp at h

/-- A closed group is its body, the closing parenthesis and the rest. -/
theorem eq_of_closeGroup {opened index depth : Nat} {s body rest : Text}
    (h : closeGroup opened index depth s = .ok (body, rest)) : s = body ++ ')' :: rest := by
  fun_induction closeGroup opened index depth s generalizing body rest with
  | case1 | case2 | case7 => simp at h
  | case4 => simp_all
  | case3 _ _ _ _ ih | case5 _ _ _ _ ih | case6 _ _ _ _ _ _ ih | case8 _ _ _ _ _ _ _ ih =>
    obtain ⟨inner, hr, rfl⟩ := prependBody_eq_ok h
    simp [ih hr]

/-- A group adds nothing to the text behind it. -/
theorem takeGroup_le {index : Nat} {s : Text} {x : Lexeme} {rest : Text}
    (h : takeGroup index s = .ok (x, rest)) : rest.length ≤ s.length := by
  unfold takeGroup at h
  split at h
  · simp at h
  · split at h
    · simp at h
    · simp at h
    · next hg =>
      simp only [Except.ok.injEq, Prod.mk.injEq] at h
      rw [eq_of_closeGroup hg, ← h.2]
      simp only [List.length_append, List.length_cons]
      omega

/-- A lexeme adds nothing to the text behind it. -/
theorem takeLexeme_le {index : Nat} {c : Char} {s : Text} {x : Lexeme} {rest : Text}
    (h : takeLexeme index c s = .ok (x, rest)) : rest.length ≤ s.length := by
  unfold takeLexeme at h
  split at h
  · simp_all
  · split at h
    · split at h
      · simp at h
      · simp only [Except.ok.injEq, Prod.mk.injEq] at h
        simp only [← h.2, List.length_cons]
        omega
    · split at h
      · simp_all
      · split at h
        · simp_all
        · split at h
          · split at h
            · simp at h
            · simp only [Except.ok.injEq, Prod.mk.injEq] at h
              rw [← h.2]
              exact (List.dropWhile_sublist _).length_le
          · split at h
            · exact takeGroup_le h
            · simp_all

/-- The lexemes of a text that starts at `index`. -/
def lexFrom (index : Nat) (s : Text) : Except SyntaxError (List Located) :=
  match s with
  | [] => .ok [⟨index, .finish⟩]
  | c :: s =>
    match h : takeLexeme index c s with
    | .error e => .error e
    | .ok (x, rest) =>
      have : rest.length ≤ s.length := takeLexeme_le h
      match lexFrom (index + x.source.byteLength) rest with
      | .error e => .error e
      | .ok xs => .ok (⟨index, x⟩ :: xs)
termination_by s.length

/-- The lexemes of a pattern. -/
def lex (s : Text) : Except SyntaxError (List Located) := lexFrom 0 s

end NestedRouting
