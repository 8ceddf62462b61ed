import NestedRouting.Proofs.Pattern.Grammar
import NestedRouting.Proofs.Pattern.Prefixed

/-!
# Parsing keeps everything in place

A pattern is read from left to right, and so are the tokens that it parses to: both give the same
marks in the same order (`parse_in_place`). A mark is a character that stands for itself, a key with
its name, its regular expression and its modifier, or an end of a group of text in braces.

The marks of tokens are what they hold (`Token.marks`). Those of a pattern are said by `written`, which
goes through its lexemes once and looks ahead only for a modifier, or in braces for a key: what stands
where, with no literal that is gathered and no lead that is taken back. Between the two stand the
edits that a reading of the pattern does (`Reading.written_eq`, `Draft.marks_edits`).
-/

namespace NestedRouting

/-! ## Marks of tokens -/

/-- What stands at one place of a pattern. -/
inductive Mark
  | char (c : Char)
  | key (name : Text) (kind : KeyKind) (pattern : Text) (modifier : Modifier)
  /-- The start of a group of text in braces. -/
  | groupStart
  /-- The end of a group of text in braces. -/
  | groupEnd (modifier : Modifier)
  deriving DecidableEq, Repr

/-- The marks of a token: the text around a key stands around it. -/
def Token.marks : Token → List Mark
  | literal text => text.map .char
  | group text modifier => .groupStart :: (text.map .char ++ [.groupEnd modifier])
  | key k => k.lead.map .char ++ .key k.name k.kind k.pattern k.modifier :: k.tail.map .char

/-- The character of a mark, if it is one. -/
def Mark.char? : Mark → Option Char
  | char c => some c
  | _ => none

/-! ## Marks of lexemes -/

/-- The modifier at the front of lexemes. -/
def modifierAt : List Lexeme → Modifier
  | .quantifier q :: _ => some q
  | _ => none

/-- The modifier behind the next closing brace. -/
def modifierBehindBrace : List Lexeme → Modifier
  | [] => none
  | .closeBrace :: xs => modifierAt xs
  | _ :: xs => modifierBehindBrace xs

/-- Whether a key stands in front of the next closing brace. -/
def holdsKey : List Lexeme → Bool
  | [] | .closeBrace :: _ => false
  | .name _ :: _ | .group _ :: _ => true
  | _ :: xs => holdsKey xs

/-- Where lexemes go on. -/
inductive Place
  | free
  /-- Directly behind a key or a closing brace, where a modifier may stand. -/
  | behind
  /-- In braces, which hold a key or do not. -/
  | within (key : Bool)
  deriving DecidableEq, Repr

namespace Place

/-- Behind a character. -/
def afterChar : Place → Place
  | within key => within key
  | _ => free

/-- Behind a key. -/
def afterKey : Place → Place
  | within key => within key
  | _ => behind

/-- The modifier of a key in front of lexemes: it stands behind the braces, if there are any. -/
def modifier : Place → List Lexeme → Modifier
  | within _, xs => modifierBehindBrace xs
  | _, xs => modifierAt xs

end Place

/-- The marks of lexemes, from a place on and behind a number of keys without a name. A quantifier that
is no modifier is the star of a wildcard. -/
def written : Place → Nat → List Lexeme → List Mark
  | _, _, [] => []
  | p, k, .char c :: xs | p, k, .escaped c :: xs => .char c :: written p.afterChar k xs
  | p, k, .name n :: .group body :: xs =>
    .key n .named body (p.modifier xs) :: written p.afterKey k xs
  | p, k, .name n :: xs => .key n .named defaultPattern (p.modifier xs) :: written p.afterKey k xs
  | p, k, .group body :: xs =>
    .key (Text.ofNat k) .positional body (p.modifier xs) :: written p.afterKey (k + 1) xs
  | .behind, k, .quantifier _ :: xs => written .free k xs
  | p, k, .quantifier _ :: xs =>
    .key (Text.ofNat k) .wildcard wildcardPattern none :: written p.afterChar (k + 1) xs
  | _, k, .openBrace :: xs =>
    if holdsKey xs then written (.within true) k xs
    else .groupStart :: written (.within false) k xs
  | .within false, k, .closeBrace :: xs => .groupEnd (modifierAt xs) :: written .behind k xs
  | _, k, .closeBrace :: xs => written .behind k xs
  | _, _, .finish :: _ => []

/-! ## Marks of edits -/

/-- The mark of a slot, behind a number of keys without a name. -/
def Slot.mark (k : Nat) (m : Modifier) : Slot → Mark
  | named n pattern => .key n .named (pattern.getD defaultPattern) m
  | positional body => .key (Text.ofNat k) .positional body m
  | wildcard => .key (Text.ofNat k) .wildcard wildcardPattern m

/-- How many keys without a name a slot is. -/
def Slot.unnamed : Slot → Nat
  | named .. => 0
  | positional _ | wildcard => 1

namespace Edit

/-- The marks of what an edit adds. -/
def marks (k : Nat) : Edit → List Mark
  | char c => [.char c]
  | group text m => (Token.group text m).marks
  | slot s lead tail m => lead.map .char ++ s.mark k m :: tail.map .char

/-- How many keys without a name an edit adds. -/
def unnamed : Edit → Nat
  | slot s _ _ _ => s.unnamed
  | _ => 0

end Edit

/-- The marks of what edits add, behind a number of keys without a name. -/
def marksOf : Nat → List Edit → List Mark
  | _, [] => []
  | k, e :: es => e.marks k ++ marksOf (k + e.unnamed) es

namespace Draft

/-- The marks of what has been read. -/
def marks (d : Draft) : List Mark := d.tokens.flatMap Token.marks ++ d.literal.map .char

/-- The end of a literal changes no mark. -/
theorem marks_flush (d : Draft) : d.flush.tokens.flatMap Token.marks = d.marks :=
  flatMap_flush (fun _ => rfl) d

/-- An edit adds its marks. -/
theorem marks_edit (d : Draft) (e : Edit) : (d.edit e).marks = d.marks ++ e.marks d.unnamed := by
  match e with
  | .char c => exact flatMap_pushChar d c
  | .group .. | .slot (.named ..) .. | .slot (.positional _) .. | .slot .wildcard .. =>
    exact flatMap_pushToken (fun _ => rfl) d _

/-- An edit counts the keys without a name that it adds. -/
theorem unnamed_edit (d : Draft) (e : Edit) : (d.edit e).unnamed = d.unnamed + e.unnamed := by
  match e with
  | .char _ => rfl
  | .group .. | .slot (.named ..) .. => exact unnamed_flush d
  | .slot (.positional _) .. | .slot .wildcard .. => rfl

/-- Edits add their marks behind those that have been read. -/
theorem marks_edits (d : Draft) (es : List Edit) :
    (es.foldl edit d).marks = d.marks ++ marksOf d.unnamed es := by
  induction es generalizing d with
  | nil => exact (List.append_nil _).symm
  | cons e es ih =>
    rw [List.foldl_cons, ih, marks_edit, unnamed_edit, List.append_assoc]
    rfl

end Draft

/-! ## Readings -/

section
variable {p : Place} {k : Nat} {key : Bool} {xs ys zs : List Lexeme} {t : Text} {es : List Edit}

/-- A character, plain or escaped, is a mark of its own. -/
theorem written_char {x : Lexeme} {c : Char} (hx : x.char? = some c) (p : Place) (k : Nat)
    (xs : List Lexeme) : written p k (x :: xs) = .char c :: written p.afterChar k xs := by
  cases x with
  | char | escaped =>
    cases hx
    rfl
  | _ => cases hx

/-- Plain characters stand for themselves. -/
theorem map_char?_char (t : Text) : (t.map Lexeme.char).map Lexeme.char? = t.map some := by
  rw [List.map_map]
  rfl

/-- A text gives its characters, where a character changes nothing about the place. -/
theorem written_text (hys : ys.map Lexeme.char? = t.map some) (hp : p.afterChar = p) (k : Nat)
    (xs : List Lexeme) : written p k (ys ++ xs) = t.map .char ++ written p k xs := by
  induction t generalizing ys with
  | nil =>
    obtain rfl := List.map_eq_nil_iff.1 hys
    rfl
  | cons c t ih =>
    obtain ⟨y, ys, rfl, hy, hys⟩ := List.map_eq_cons_iff.1 hys
    rw [List.cons_append, written_char hy, hp, ih hys]
    rfl

/-- A text in braces is no key. -/
theorem holdsKey_text (hys : ys.map Lexeme.char? = t.map some) :
    holdsKey (ys ++ xs) = holdsKey xs := by
  induction t generalizing ys with
  | nil =>
    obtain rfl := List.map_eq_nil_iff.1 hys
    rfl
  | cons c t ih =>
    obtain ⟨y, ys, rfl, hy, hys⟩ := List.map_eq_cons_iff.1 hys
    rw [List.cons_append, ← ih hys]
    cases y with
    | char | escaped => rfl
    | _ => cases hy

/-- A text in front of a brace changes nothing about the modifier behind it. -/
theorem modifierBehindBrace_text (hys : ys.map Lexeme.char? = t.map some) :
    modifierBehindBrace (ys ++ xs) = modifierBehindBrace xs := by
  induction t generalizing ys with
  | nil =>
    obtain rfl := List.map_eq_nil_iff.1 hys
    rfl
  | cons c t ih =>
    obtain ⟨y, ys, rfl, hy, hys⟩ := List.map_eq_cons_iff.1 hys
    rw [List.cons_append, ← ih hys]
    cases y with
    | char | escaped => rfl
    | _ => cases hy

/-- A modifier that is written is the one at the front. -/
theorem modifierAt_eq {m : Modifier} (h : m.EndsBefore xs) : modifierAt (m.lexemes ++ xs) = m := by
  cases m with
  | some q => rfl
  | none =>
    show modifierAt xs = none
    unfold modifierAt
    split
    · exact absurd rfl (h rfl _)
    · rfl

/-- A slot is one mark, with the modifier of its place. -/
theorem written_slot {slot : Slot} (hslot : slot ≠ .wildcard) (hends : slot.EndsBefore xs)
    (p : Place) (k : Nat) : written p k (slot.lexemes ++ xs) =
      slot.mark k (p.modifier xs) :: written p.afterKey (k + slot.unnamed) xs := by
  match slot with
  | .wildcard => exact absurd rfl hslot
  | .positional _ | .named _ (some _) => rfl
  | .named n none =>
    cases xs with
    | nil => rfl
    | cons x xs =>
      cases x with
      | group body => exact absurd rfl (hends body)
      | _ => rfl

/-- Behind a key or a closing brace a modifier is skipped. -/
theorem written_behind {m : Modifier} (h : m.EndsBefore xs) (k : Nat) :
    written .behind k (m.lexemes ++ xs) = written .free k xs := by
  cases m with
  | some q => rfl
  | none =>
    show written .behind k xs = written .free k xs
    match xs with
    | [] | .char _ :: _ | .escaped _ :: _ | [.name _] | .group _ :: _ | .openBrace :: _
    | .closeBrace :: _ | .finish :: _ => rfl
    | .name _ :: y :: _ => cases y <;> rfl
    | .quantifier q :: _ => exact absurd rfl (h rfl q)

/-- A slot that is not in braces. -/
theorem written_bare {slot : Slot} {m : Modifier} (hslot : slot ≠ .wildcard)
    (hends : slot.EndsBefore (m.lexemes ++ xs)) (hm : m.EndsBefore xs) (k : Nat) :
    written .free k (slot.lexemes ++ (m.lexemes ++ xs)) =
      slot.mark k m :: written .free (k + slot.unnamed) xs := by
  rw [written_slot hslot hends]
  show slot.mark k (modifierAt _) :: written .behind _ _ = _
  rw [modifierAt_eq hm, written_behind hm]

/-- The end of braces, with the modifier behind it. -/
theorem written_closeBrace {m : Modifier} (hm : m.EndsBefore xs) (k : Nat) :
    written (.within true) k (.closeBrace :: (m.lexemes ++ xs)) = written .free k xs ∧
      written (.within false) k (.closeBrace :: (m.lexemes ++ xs)) =
        .groupEnd m :: written .free k xs := by
  constructor
  · exact written_behind hm k
  · show Mark.groupEnd (modifierAt _) :: written .behind k _ = _
    rw [modifierAt_eq hm, written_behind hm]

/-- A group of text in braces. -/
theorem written_group {m : Modifier} (hys : ys.map Lexeme.char? = t.map some) (hm : m.EndsBefore xs)
    (k : Nat) : written .free k (.openBrace :: (ys ++ .closeBrace :: (m.lexemes ++ xs))) =
      (Token.group t m).marks ++ written .free k xs := by
  have hkey : holdsKey (ys ++ .closeBrace :: (m.lexemes ++ xs)) = false := holdsKey_text hys
  rw [written, hkey, if_neg Bool.false_ne_true, written_text hys rfl, (written_closeBrace hm k).2,
    Token.marks, List.cons_append, List.append_assoc]
  rfl

/-- A slot in braces. -/
theorem written_braces {slot : Slot} {lead tail : Text} {m : Modifier} (hslot : slot ≠ .wildcard)
    (hys : ys.map Lexeme.char? = lead.map some) (hzs : zs.map Lexeme.char? = tail.map some)
    (hm : m.EndsBefore xs) (k : Nat) :
    written .free k
        (.openBrace :: (ys ++ (slot.lexemes ++ (zs ++ .closeBrace :: (m.lexemes ++ xs))))) =
      lead.map .char ++ slot.mark k m ::
        (tail.map .char ++ written .free (k + slot.unnamed) xs) := by
  have hkey : holdsKey (ys ++ (slot.lexemes ++ (zs ++ .closeBrace :: (m.lexemes ++ xs)))) = true := by
    rw [holdsKey_text hys]
    match slot with
    | .wildcard => exact absurd rfl hslot
    | .positional _ | .named _ none | .named _ (some _) => rfl
  rw [written, if_pos hkey, written_text hys rfl, written_slot hslot (endsBefore_tail hzs)]
  show _ ++ slot.mark k (modifierBehindBrace _) :: written (.within true) _ _ = _
  rw [modifierBehindBrace_text hzs, written_text hzs rfl, (written_closeBrace hm _).1]
  show _ ++ slot.mark k (modifierAt _) :: _ = _
  rw [modifierAt_eq hm]

/-- The marks of lexemes are those of the edits that they are read as. -/
theorem Reading.written_eq (h : Reading xs es) (k : Nat) : written .free k xs = marksOf k es := by
  induction h generalizing k with
  | finish => rfl
  | char hx _ _ ih => exact (written_char hx .free k _).trans (congrArg (_ :: ·) (ih k))
  | wildcard _ _ ih =>
    rw [written_text (map_char?_char _) rfl, marksOf, Edit.marks, List.append_assoc]
    exact congrArg (_ ++ _ :: ·) (ih (k + 1))
  | slot hslot _ hends hm _ ih =>
    rw [written_text (map_char?_char _) rfl, written_bare hslot hends hm, ih, marksOf, Edit.marks,
      List.append_assoc]
    rfl
  | group hys hm _ ih =>
    rw [written_group hys hm, ih]
    rfl
  | braces hslot hys hzs hm _ ih =>
    rw [written_braces hslot hys hzs hm, ih, marksOf, Edit.marks, List.append_assoc]
    rfl

/-! ### Characters -/

/-- The characters of the lexemes of a text. -/
theorem filterMap_text (hys : ys.map Lexeme.char? = t.map some) : ys.filterMap Lexeme.char? = t := by
  have hsome : (t.map some).filterMap id = t := by
    rw [List.filterMap_map]
    exact List.filterMap_some
  rw [← hsome, ← hys, List.filterMap_map]
  rfl

/-- The characters of the marks of a text. -/
theorem filterMap_map_char (t : Text) : (t.map Mark.char).filterMap Mark.char? = t := by
  rw [List.filterMap_map]
  exact List.filterMap_some

/-- The characters that an edit adds. -/
def Edit.chars : Edit → Text
  | char c => [c]
  | group text _ => text
  | slot _ lead tail _ => lead ++ tail

/-- The characters among the marks of an edit. -/
theorem Edit.chars_marks (e : Edit) (k : Nat) : (e.marks k).filterMap Mark.char? = e.chars := by
  match e with
  | char c => rfl
  | group text m =>
    show (text.map Mark.char ++ [Mark.groupEnd m]).filterMap Mark.char? = text
    rw [List.filterMap_append, filterMap_map_char]
    exact List.append_nil text
  | slot s lead tail m =>
    have hkey : (s.mark k m).char? = none := by cases s <;> rfl
    rw [marks, List.filterMap_append, List.filterMap_cons_none hkey, filterMap_map_char,
      filterMap_map_char]
    rfl

/-- A slot has no characters of its own. -/
theorem Slot.chars_lexemes (slot : Slot) : slot.lexemes.filterMap Lexeme.char? = [] := by
  match slot with
  | .wildcard | .positional _ | .named _ none | .named _ (some _) => rfl

/-- A modifier has no characters of its own. -/
theorem Modifier.chars_lexemes (m : Modifier) : m.lexemes.filterMap Lexeme.char? = [] := by
  cases m <;> rfl

/-- Neither a closing brace nor a modifier behind it has characters. -/
theorem chars_closeBrace (m : Modifier) (xs : List Lexeme) :
    (Lexeme.closeBrace :: (m.lexemes ++ xs)).filterMap Lexeme.char? =
      xs.filterMap Lexeme.char? := by
  rw [List.filterMap_cons_none rfl, List.filterMap_append, Modifier.chars_lexemes, List.nil_append]

/-- The characters among the marks are those that are written. -/
theorem Reading.chars_eq (h : Reading xs es) (k : Nat) :
    (marksOf k es).filterMap Mark.char? = xs.filterMap Lexeme.char? := by
  induction h generalizing k with
  | finish => rfl
  | char hx _ _ ih =>
    rw [marksOf, List.filterMap_append, ih, Edit.chars_marks, List.filterMap_cons_some hx]
    rfl
  | wildcard _ _ ih =>
    rw [marksOf, List.filterMap_append, ih, Edit.chars_marks, Edit.chars]
    simp only [List.filterMap_append, filterMap_text (map_char?_char _), Slot.chars_lexemes,
      List.append_nil, List.nil_append]
  | slot _ _ _ _ _ ih =>
    rw [marksOf, List.filterMap_append, ih, Edit.chars_marks, Edit.chars]
    simp only [List.filterMap_append, filterMap_text (map_char?_char _), Slot.chars_lexemes,
      Modifier.chars_lexemes, List.append_nil, List.nil_append]
  | group hys _ _ ih =>
    rw [marksOf, List.filterMap_append, ih, Edit.chars_marks, List.filterMap_cons_none rfl,
      List.filterMap_append, filterMap_text hys, chars_closeBrace, Edit.chars]
  | braces _ hys hzs _ _ ih =>
    rw [marksOf, List.filterMap_append, ih, Edit.chars_marks, List.filterMap_cons_none rfl]
    simp only [List.filterMap_append, filterMap_text hys, filterMap_text hzs, Slot.chars_lexemes,
      chars_closeBrace, Edit.chars, List.nil_append, List.append_assoc]

end

/-- A pattern that parses is cut into lexemes in one way, and its tokens hold what is written, in order:
from left to right both give the same marks. So the characters of the tokens are the plain and the
escaped characters of the pattern, and between them stand the keys with the names, the regular
expressions and the modifiers that are written for them. -/
theorem parse_in_place {source : Text} {tokens : List Token} (h : parse source = .ok tokens) :
    ∃ xs, (∀ ys, Tiles ys source [] ↔ ys = xs) ∧
      tokens.flatMap Token.marks = written .free 0 (xs ++ [.finish]) ∧
      (tokens.flatMap Token.marks).filterMap Mark.char? = xs.filterMap Lexeme.char? := by
  obtain ⟨zs, es, hlex, hread, rfl⟩ := parse_eq_ok_iff.1 h
  obtain ⟨xs, htiles, rfl⟩ := lexFrom_eq_ok_iff.1 hlex
  rw [lexemesOf_locatedFrom] at hread
  have hmarks : (es.foldl Draft.edit .empty).flush.tokens.flatMap Token.marks = marksOf 0 es := by
    rw [Draft.marks_flush, Draft.marks_edits]
    rfl
  refine ⟨xs, fun ys => ⟨fun hys => hys.unique htiles, fun hys => hys ▸ htiles⟩, ?_, ?_⟩
  · rw [hmarks, hread.written_eq]
  · rw [hmarks, hread.chars_eq, List.filterMap_append]
    exact List.append_nil _

/-- The marks of a pattern with an escaped character, a key in braces, a wildcard behind its modifier,
a key with a lead and a group of text. -/
theorem marks_of_mixed_pattern :
    let id : Key := ⟨"id".toList, .named, "-".toList, "\x7d".toList, defaultPattern, some .optional⟩
    let star : Key := ⟨"0".toList, .wildcard, [], [], wildcardPattern, none⟩
    let digits : Key := ⟨"1".toList, .positional, "/".toList, [], "\\d+".toList, none⟩
    let tokens : List Token :=
      [.literal "a*".toList, .key id, .key star, .key digits, .group "x".toList (some .oneOrMore)]
    parse "a\\*\x7b-:id\\\x7d\x7d?*/(\\d+)\x7bx\x7d+".toList = .ok tokens ∧
      ∃ xs, Tiles xs "a\\*\x7b-:id\\\x7d\x7d?*/(\\d+)\x7bx\x7d+".toList [] ∧
        tokens.flatMap Token.marks = written .free 0 (xs ++ [.finish]) ∧
        written .free 0 (xs ++ [.finish]) =
          [.char 'a', .char '*', .char '-', .key "id".toList .named defaultPattern (some .optional),
            .char '\x7d', .key "0".toList .wildcard wildcardPattern none, .char '/',
            .key "1".toList .positional "\\d+".toList none, .groupStart, .char 'x',
            .groupEnd (some .oneOrMore)] := by
  intro id star digits tokens
  have h : parse "a\\*\x7b-:id\\\x7d\x7d?*/(\\d+)\x7bx\x7d+".toList = .ok tokens :=
    eq_ok_of_toOption (by decide +kernel)
  obtain ⟨xs, hxs, hmarks, -⟩ := parse_in_place h
  exact ⟨h, xs, (hxs xs).2 rfl, hmarks, hmarks.symm⟩

end NestedRouting
