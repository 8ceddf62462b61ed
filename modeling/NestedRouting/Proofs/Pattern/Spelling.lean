import NestedRouting.Pattern.Match
import NestedRouting.Unicode.CaseFold

/-!
# Spellings of a pattern

What it means that a path follows a pattern, without regular expressions. A text spells tokens
(`Spells`) if it is a text for each token, one behind the other: a literal its text, a group its
text as often as its modifier allows, a key its occurrences (`Occurrence`) as often as its modifier
allows. What a key captures reaches from the value of its first occurrence to the value of its last
(`captured`). What may follow in the path depends on the options (`Options.AllowsRest`).
-/

namespace NestedRouting

/-- Whether two texts are the same letter by letter, up to case folding unless case matters. -/
def Options.Same (o : Options) (s t : Text) : Prop :=
  if o.sensitive then s = t else s.map Unicode.fold = t.map Unicode.fold

/-- Every text is the same as itself. -/
theorem same_self (o : Options) (s : Text) : o.Same s s := by
  unfold Options.Same
  split <;> rfl

/-- Texts that are the same are of the same length. -/
theorem Options.Same.length_eq {o : Options} {s t : Text} (h : o.Same s t) :
    t.length = s.length := by
  unfold Options.Same at h
  split at h
  · rw [h]
  · simpa using (congrArg List.length h).symm

/-- Whether what is modified may occur `count` times. -/
def Modifier.Allows (m : Modifier) (count : Nat) : Prop :=
  (count = 0 → m.isOptional = true) ∧ (1 < count → m.isRepeat = true)

/-- Whether a text is a value of a key that takes a segment or the rest of a line. -/
def Key.HasValue (key : Key) (v : Text) : Prop :=
  if key.pattern = wildcardPattern then '\n' ∉ v
  else v ≠ [] ∧ ∀ c ∈ v, isDelimiter c = false

/-- An occurrence of a key: its value, and the texts in front and behind that stand for the lead and
the tail of the key. -/
structure Occurrence where
  lead : Text
  value : Text
  tail : Text

namespace Occurrence

/-- The text of an occurrence. -/
def text (x : Occurrence) : Text := x.lead ++ (x.value ++ x.tail)

/-- Whether an occurrence is one of a key. -/
def Fits (o : Options) (key : Key) (x : Occurrence) : Prop :=
  o.Same key.lead x.lead ∧ key.HasValue x.value ∧ o.Same key.tail x.tail

/-- The text from the value of the first of several occurrences to the value of the last. -/
def spread (x : Occurrence) : List Occurrence → Text
  | [] => x.value
  | y :: ys => x.value ++ (x.tail ++ (y.lead ++ spread y ys))

/-- The tail of the last of several occurrences. -/
def lastTail (x : Occurrence) : List Occurrence → Text
  | [] => x.tail
  | y :: ys => lastTail y ys

/-- Several occurrences are the lead of the first, what they spread over and the tail of the last.
-/
theorem flatMap_text (x : Occurrence) (xs : List Occurrence) :
    (x :: xs).flatMap text = x.lead ++ (x.spread xs ++ x.lastTail xs) := by
  induction xs generalizing x with
  | nil => simp [text, spread, lastTail]
  | cons y ys ih =>
    rw [List.flatMap_cons, ih]
    simp [text, spread, lastTail]

end Occurrence

/-- What a key captures: nothing if it does not occur, else the text from its first value to its
last. -/
def captured : List Occurrence → Option Text
  | [] => none
  | x :: xs => some (x.spread xs)

/-- A text spells tokens, with what their keys capture. -/
inductive Spells (o : Options) : List Token → Text → List (Option Text) → Prop
  | nil : Spells o [] [] []
  | literal {text : Text} {tokens : List Token} {u w : Text} {values : List (Option Text)} :
    o.Same text u → Spells o tokens w values → Spells o (.literal text :: tokens) (u ++ w) values
  | group {text : Text} {modifier : Modifier} {tokens : List Token} {us : List Text} {w : Text}
    {values : List (Option Text)} :
    (∀ u ∈ us, o.Same text u) → modifier.Allows us.length → Spells o tokens w values →
    Spells o (.group text modifier :: tokens) (us.flatten ++ w) values
  | key {key : Key} {tokens : List Token} {xs : List Occurrence} {w : Text}
    {values : List (Option Text)} :
    (∀ x ∈ xs, x.Fits o key) → key.modifier.Allows xs.length → Spells o tokens w values →
    Spells o (.key key :: tokens) (xs.flatMap Occurrence.text ++ w) (captured xs :: values)

/-- Whether something may follow a route in a path: nothing, or unless matching is strict one
delimiter, if the whole path must match; else anything behind a literal delimiter or an empty
pattern, and otherwise nothing or what starts with a delimiter. -/
def Options.AllowsRest (o : Options) (tokens : List Token) (rest : Text) : Prop :=
  if o.whole then rest = [] ∨ (o.strict = false ∧ ∃ d, rest = [d] ∧ isDelimiter d = true)
  else endsWithDelimiter tokens = true ∨ rest = [] ∨
    ∃ d s, rest = d :: s ∧ isDelimiter d = true

/-- The part of the rest of a path that a match takes up: a delimiter that is all of the rest,
unless matching is strict. -/
def Options.trailing (o : Options) (rest : Text) : Text :=
  match rest with
  | [d] => if !o.strict && isDelimiter d then [d] else []
  | _ => []

/-- Each key of the tokens captures a text or nothing. -/
theorem Spells.length_values {o : Options} {tokens : List Token} {w : Text}
    {values : List (Option Text)} (h : Spells o tokens w values) :
    values.length = (keysOf tokens).length := by
  induction h with
  | nil => rfl
  | literal _ _ ih => exact ih
  | group _ _ _ ih => exact ih
  | key _ _ _ ih => exact congrArg (· + 1) ih

end NestedRouting
