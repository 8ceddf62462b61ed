import Mathlib.Data.Nat.Find
import NestedRouting.Proofs.Pattern.Building

/-!
# Patterns that end with a delimiter

Where a route ends with a delimiter, a segment of the path ends as well, whatever follows. A pattern
can end so in three ways: by a literal, by a group of text that occurs once, or by a key that may not
be absent and has the delimiter in its tail (`Token.EndsDelimited`); all that spells such a pattern
ends with a delimiter (`Spells.endsDelimited`). Only the literal is heeded. Behind a group or a key
the path has to end or go on with a second delimiter, so each of these patterns leaves out a path that
starts with a spelling of it (`exec_endsDelimited`), as `/a{/}` leaves out `/a/b`
(`braced_delimiter_unheeded`).
-/

namespace NestedRouting

/-- Whether a text ends with a delimiter. -/
def Text.EndsDelimited (t : Text) : Prop := ∃ s d, t = s ++ [d] ∧ isDelimiter d = true

/-- Whether a token stands for text that always ends with a delimiter. -/
def Token.EndsDelimited : Token → Prop
  | literal text => text.EndsDelimited
  | group text modifier => modifier = none ∧ text.EndsDelimited
  | key k => k.modifier.isOptional = false ∧ k.tail.EndsDelimited

/-- Whether a path starts with a text that spells tokens. -/
def Options.Opens (o : Options) (tokens : List Token) (path : Text) : Prop :=
  ∃ route rest values, path = route ++ rest ∧ Spells o tokens route values

section
variable {o : Options} {tokens : List Token} {t u w path : Text} {values : List (Option Text)}
  {last : Token}

/-! ## Spellings that end with a delimiter -/

/-- A text that ends with a delimiter does so behind another one. -/
theorem Text.EndsDelimited.append (h : t.EndsDelimited) (u : Text) :
    Text.EndsDelimited (u ++ t) := by
  obtain ⟨s, d, rfl, hd⟩ := h
  exact ⟨u ++ s, d, (List.append_assoc u s [d]).symm, hd⟩

/-- The last character of such a text is a delimiter. -/
theorem Text.EndsDelimited.isDelimiter_last {c : Char} (h : Text.EndsDelimited (t ++ [c])) :
    isDelimiter c = true := by
  obtain ⟨s, d, heq, hd⟩ := h
  obtain rfl := (List.append_singleton_inj.1 heq).2
  exact hd

/-- The same text ends with the same delimiter. -/
theorem Options.Same.endsDelimited (h : o.Same t u) (ht : t.EndsDelimited) : u.EndsDelimited := by
  obtain ⟨s, d, rfl, hd⟩ := ht
  induction s generalizing u with
  | nil =>
    obtain ⟨e, v, rfl, -, hv⟩ := same_cons.1 h
    obtain rfl := same_nil.1 hv
    exact ⟨[], d, by rw [eq_of_same_delimiter hd h]; rfl, hd⟩
  | cons c s ih =>
    obtain ⟨e, v, rfl, -, hv⟩ := same_cons.1 h
    exact (ih hv).append [e]

/-- Several occurrences end as the tail of their key does. -/
theorem endsDelimited_occurrences {k : Key} {xs : List Occurrence} (hxs : xs ≠ [])
    (hfits : ∀ x ∈ xs, x.Fits o k) (htail : k.tail.EndsDelimited) :
    Text.EndsDelimited (xs.flatMap Occurrence.text) := by
  obtain ⟨y, ys, rfl⟩ := List.exists_cons_of_ne_nil hxs
  rw [Occurrence.flatMap_text]
  exact ((Options.Same.endsDelimited (same_lastTail hfits) htail).append _).append _

/-- What spells a token that ends with a delimiter ends with one. -/
theorem endsDelimited_of_spells_singleton (h : Spells o [last] w values)
    (hlast : last.EndsDelimited) : w.EndsDelimited := by
  cases h with
  | @literal text _ u w _ hsame hrest =>
    obtain ⟨rfl, -⟩ := spells_nil hrest
    rw [List.append_nil]
    exact hsame.endsDelimited hlast
  | @group text modifier _ us w _ hsame hallows hrest =>
    obtain ⟨rfl, -⟩ := spells_nil hrest
    obtain ⟨rfl, htext⟩ := hlast
    match us with
    | [] => cases hallows.1 rfl
    | u :: us =>
      obtain rfl : us = [] := List.eq_nil_of_length_eq_zero
        (Nat.le_zero.1 (Nat.le_of_succ_le_succ (hallows.le_one rfl)))
      have hu := (hsame u (.head _)).endsDelimited htext
      simpa using hu
  | @key k _ xs w _ hfits hallows hrest =>
    obtain ⟨rfl, -⟩ := spells_nil hrest
    obtain ⟨hoptional, htail⟩ := hlast
    have hxs : xs ≠ [] := by
      rintro rfl
      rw [hallows.1 rfl] at hoptional
      cases hoptional
    rw [List.append_nil]
    exact endsDelimited_occurrences hxs hfits htail

/-- What spells tokens the last of which ends with a delimiter ends with one. -/
theorem Spells.endsDelimited (h : Spells o tokens w values) (hlast : tokens.getLast? = some last)
    (hends : last.EndsDelimited) : w.EndsDelimited := by
  induction h with
  | nil => cases hlast
  | @literal _ tokens _ _ _ _ hspells ih | @group _ _ tokens _ _ _ _ _ hspells ih
  | @key _ tokens _ _ _ _ _ hspells ih =>
    cases tokens with
    | nil =>
      obtain rfl := Option.some.inj hlast
      exact endsDelimited_of_spells_singleton (by constructor <;> assumption) hends
    | cons next tokens =>
      rw [List.getLast?_cons_cons] at hlast
      exact (ih hlast).append _

/-! ## Spellings that exist -/

/-- A key with one occurrence, spelled as it is written. -/
theorem spells_once {k : Key} {v : Text} (hv : k.HasValue v) (h : Spells o tokens w values) :
    Spells o (.key k :: tokens) (k.lead ++ (v ++ k.tail) ++ w) (some v :: values) := by
  have hfits : ∀ x ∈ [Occurrence.mk k.lead v k.tail], x.Fits o k := by
    intro x hx
    obtain rfl := List.mem_singleton.1 hx
    exact ⟨same_self o _, hv, same_self o _⟩
  have htext : [Occurrence.mk k.lead v k.tail].flatMap Occurrence.text =
      k.lead ++ (v ++ k.tail) := List.flatMap_singleton ..
  rw [← htext]
  exact .key hfits k.modifier.allows_one h

/-- A group of text that occurs once, spelled as it is written. -/
theorem spells_group_once (text : Text) (modifier : Modifier) (h : Spells o tokens w values) :
    Spells o (.group text modifier :: tokens) (text ++ w) values := by
  have hsame : ∀ u ∈ [text], o.Same text u := by
    intro u hu
    rw [List.mem_singleton.1 hu]
    exact same_self o text
  have h := Spells.group hsame modifier.allows_one h
  rwa [List.flatten_singleton] at h

/-- A character that divides no path is a value of every key. -/
theorem Key.hasValue_char (k : Key) {c : Char} (hline : c ≠ '\n') (hc : isDelimiter c = false) :
    k.HasValue [c] := by
  unfold Key.HasValue
  split
  · exact fun h => hline (List.mem_singleton.1 h).symm
  · refine ⟨List.cons_ne_nil _ _, fun d hd => ?_⟩
    rw [List.mem_singleton.1 hd, hc]

/-- Every list of tokens is spelled by some text. -/
theorem exists_spells (o : Options) : ∀ tokens, ∃ w values, Spells o tokens w values
  | [] => ⟨[], [], .nil⟩
  | .literal text :: tokens => by
    obtain ⟨w, values, h⟩ := exists_spells o tokens
    exact ⟨_, _, .literal (same_self o text) h⟩
  | .group text modifier :: tokens => by
    obtain ⟨w, values, h⟩ := exists_spells o tokens
    exact ⟨_, _, spells_group_once text modifier h⟩
  | .key k :: tokens => by
    obtain ⟨w, values, h⟩ := exists_spells o tokens
    have hvalue : k.HasValue ['a'] := k.hasValue_char (by decide) rfl
    exact ⟨_, _, spells_once hvalue h⟩

/-- Some text that spells tokens is a shortest one. -/
theorem exists_shortest (o : Options) (tokens : List Token) : ∃ w values, Spells o tokens w values ∧
    ∀ w' values', Spells o tokens w' values' → w.length ≤ w'.length := by
  classical
  have hex : ∃ n w values, Spells o tokens w values ∧ w.length = n := by
    obtain ⟨w, values, h⟩ := exists_spells o tokens
    exact ⟨_, w, values, h, rfl⟩
  obtain ⟨w, values, h, hlength⟩ := Nat.find_spec hex
  refine ⟨w, values, h, fun w' values' h' => ?_⟩
  rw [hlength]
  exact Nat.find_min' hex ⟨w', values', h', rfl⟩

/-- A shortest spelling that ends with a delimiter, and one character more: there is no other way to
cut this into a spelling and a rest. -/
theorem rest_of_shortest {c : Char} {route rest : Text} (hc : isDelimiter c = false)
    (hends : ∀ w values, Spells o tokens w values → w.EndsDelimited)
    (hshortest : ∀ w' values', Spells o tokens w' values' → w.length ≤ w'.length)
    (hspells : Spells o tokens route values) (hpath : w ++ [c] = route ++ rest) : rest = [c] := by
  have hlength := hshortest route values hspells
  rcases List.append_eq_append_iff.1 hpath with ⟨v, rfl, hv⟩ | ⟨v, rfl, rfl⟩
  · match v, hv with
    | [], hv => exact hv.symm
    | d :: v, hv =>
      -- the longer spelling would end with the character
      obtain ⟨rfl, hnil⟩ := List.cons.inj hv
      obtain ⟨rfl, -⟩ := List.append_eq_nil_iff.1 hnil.symm
      have hd := (hends _ _ hspells).isDelimiter_last
      rw [hc] at hd
      cases hd
  · rw [List.length_append] at hlength
    obtain rfl : v = [] := List.eq_nil_of_length_eq_zero (by omega)
    rfl

/-! ## Matching -/

/-- The rests that a pattern which ends with a delimiter allows, if it need not match as a whole:
all of them behind a literal, and else the empty one and those that start with another delimiter. -/
theorem Options.allowsRest_endsDelimited (hwhole : o.whole = false) (hlast : tokens.getLast? = some last)
    (hends : last.EndsDelimited) (rest : Text) : o.AllowsRest tokens rest ↔
      (∃ text, last = .literal text) ∨ rest = [] ∨ ∃ d s, rest = d :: s ∧ isDelimiter d = true := by
  unfold Options.AllowsRest
  rw [hwhole, if_neg nofun, endsWithDelimiter, hlast]
  refine or_congr_left ?_
  cases last with
  | literal text =>
    obtain ⟨s, d, rfl, hd⟩ := hends
    simp [hd]
  | group | key => simp

namespace Pattern

variable {p : Pattern} {source : Text}

/-- The patterns that end with a delimiter, in every way to do so, where the path need not match as a
whole. One that ends with a literal matches every path that starts with a spelling of its tokens. One
that ends with a group of text or a key matches such a path only if nothing or a second delimiter
follows, and so there is a path of this kind that it does not match. -/
theorem exec_endsDelimited (h : compile o source = .ok p) (hkeys : ∀ key ∈ p.keys, key.IsPlain)
    (hwhole : o.whole = false) (hlast : p.tokens.getLast? = some last)
    (hends : last.EndsDelimited) :
    ((∃ text, last = .literal text) → ∀ path, (p.exec path).isSome ↔ o.Opens p.tokens path) ∧
    ((¬ ∃ text, last = .literal text) →
      (∀ path, (p.exec path).isSome ↔ ∃ route rest values, path = route ++ rest ∧
        Spells o p.tokens route values ∧
        (rest = [] ∨ ∃ d s, rest = d :: s ∧ isDelimiter d = true)) ∧
      ∃ path, o.Opens p.tokens path ∧ p.exec path = none) := by
  have hspec := fun path => (exec_spec h hkeys path).1
  simp only [Options.allowsRest_endsDelimited hwhole hlast hends] at hspec
  refine ⟨fun hliteral path => ?_, fun hother => ?_⟩
  · simp only [hspec, hliteral, true_or, and_true]
    exact .rfl
  · simp only [hother, false_or] at hspec
    refine ⟨hspec, ?_⟩
    obtain ⟨w, values, hspells, hshortest⟩ := exists_shortest o p.tokens
    refine ⟨w ++ ['x'], ⟨w, ['x'], values, rfl, hspells⟩, ?_⟩
    refine Option.not_isSome_iff_eq_none.1 fun hsome => ?_
    obtain ⟨route, rest, values', hpath, hroute, hrest⟩ := (hspec _).1 hsome
    obtain rfl := rest_of_shortest rfl (fun _ _ h => h.endsDelimited hlast hends) hshortest hroute hpath
    rcases hrest with hrest | ⟨d, s, hrest, hd⟩
    · cases hrest
    · cases hrest
      cases hd

/-- A key in braces with a delimiter behind it: `/a/7/` is matched, and some path that goes on behind
such a text is not. -/
theorem exec_behind_braced_key : ∃ p, compile {} "/a\x7b/:id/\x7d".toList = .ok p ∧
    (p.exec "/a/7/".toList).isSome = true ∧ ∃ path, Options.Opens {} p.tokens path ∧
      p.exec path = none := by
  let id : Key := ⟨"id".toList, .named, "/".toList, "/".toList, defaultPattern, none⟩
  have hcompile : (compile {} "/a\x7b/:id/\x7d".toList).toOption.map Pattern.tokens =
      some [.literal "/a".toList, .key id] := by
    decide +kernel
  obtain ⟨p, hp, htokens⟩ := Option.map_eq_some_iff.1 hcompile
  have hp := eq_ok_of_toOption hp
  have hkeys : ∀ key ∈ p.keys, key.IsPlain := by
    intro key hkey
    rw [keys, htokens] at hkey
    obtain rfl := List.mem_singleton.1 hkey
    exact .inl rfl
  have hlast : p.tokens.getLast? = some (.key id) := by
    rw [htokens]
    rfl
  have hends : (Token.key id).EndsDelimited := ⟨rfl, [], '/', rfl, rfl⟩
  have hother : ¬ ∃ text, Token.key id = .literal text := by
    rintro ⟨text, h⟩
    cases h
  obtain ⟨hspec, hmissed⟩ := (exec_endsDelimited hp hkeys rfl hlast hends).2 hother
  have hvalue : id.HasValue "7".toList := id.hasValue_char (by decide) rfl
  have hspells : Spells {} p.tokens "/a/7/".toList [some "7".toList] := by
    rw [htokens]
    exact .literal (u := "/a".toList) rfl (spells_once hvalue .nil)
  exact ⟨p, hp, (hspec _).2 ⟨_, [], _, rfl, hspells, .inl rfl⟩, hmissed⟩

/-- The delimiter at the end of `/a{/}` and of `/a{/:id/}` does not count as the one at the end of
`/a/` does: the paths go on behind it, and only the literal matches. -/
theorem braced_delimiter_unheeded :
    (∃ p, compile {} "/a\x7b/\x7d".toList = .ok p ∧ Options.Opens {} p.tokens "/a/b".toList ∧
      p.exec "/a/b".toList = none) ∧
    (∃ p, compile {} "/a\x7b/:id/\x7d".toList = .ok p ∧
      Options.Opens {} p.tokens "/a/7/b".toList ∧ p.exec "/a/7/b".toList = none) ∧
    ∃ p, compile {} "/a/".toList = .ok p ∧ (p.exec "/a/b".toList).isSome = true := by
  refine ⟨?_, ?_, ?_⟩
  · let p := (compile {} "/a\x7b/\x7d".toList).toOption.get (by decide +kernel)
    have htokens : p.tokens = [.literal "/a".toList, .group "/".toList none] := by decide +kernel
    refine ⟨p, eq_ok_of_toOption (Option.some_get _).symm, ?_, by decide +kernel⟩
    rw [htokens]
    exact ⟨"/a/".toList, "b".toList, [], rfl,
      .literal (u := "/a".toList) rfl (spells_group_once "/".toList none .nil)⟩
  · let p := (compile {} "/a\x7b/:id/\x7d".toList).toOption.get (by decide +kernel)
    let id : Key := ⟨"id".toList, .named, "/".toList, "/".toList, defaultPattern, none⟩
    have htokens : p.tokens = [.literal "/a".toList, .key id] := by decide +kernel
    have hvalue : id.HasValue "7".toList := id.hasValue_char (by decide) rfl
    refine ⟨p, eq_ok_of_toOption (Option.some_get _).symm, ?_, by decide +kernel⟩
    rw [htokens]
    exact ⟨"/a/7/".toList, "b".toList, [some "7".toList], rfl,
      .literal (u := "/a".toList) rfl (spells_once hvalue .nil)⟩
  · let p := (compile {} "/a/".toList).toOption.get (by decide +kernel)
    exact ⟨p, eq_ok_of_toOption (Option.some_get _).symm, by decide +kernel⟩

end Pattern

end

end NestedRouting
