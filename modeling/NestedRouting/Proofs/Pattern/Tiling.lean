import NestedRouting.Proofs.Pattern.Lexing

/-!
# How lexemes fill a pattern

Lexing cuts a text from left to right, and each lexeme is cut off where it fits (`Lexeme.Fits`): a name
takes all the name characters there are, a character is a lexeme of its own only if it starts no other
kind of lexeme, and the body of a group closes with the parenthesis behind it and with no earlier one
(`closeGroup_eq_ok_iff`). The lexemes that a text is cut into fill it without a gap (`Tiles`), and there
is one way for them to do so (`Tiles.unique`). So lexing succeeds if and only if lexemes fill the text
to its end, each at the offset where those before it end (`lexFrom_eq_ok_iff`). If it fails, lexemes
fill the text up to the one that cannot be cut off (`tiles_of_lexFrom_error`).
-/

namespace NestedRouting

/-! ## Bodies of groups -/

/-- Whether a text closes as many inner groups as are open, and all that it opens itself. An escaped
character opens and closes nothing, and an inner group starts with a question mark. -/
inductive Closes : Nat → Text → Prop
  | nil : Closes 0 []
  | escaped {depth : Nat} {s : Text} (c : Char) : Closes depth s → Closes depth ('\\' :: c :: s)
  | close {depth : Nat} {s : Text} : Closes depth s → Closes (depth + 1) (')' :: s)
  | inner {depth : Nat} {s : Text} : s.head? = some '?' → Closes (depth + 1) s →
    Closes depth ('(' :: s)
  | char {depth : Nat} {s : Text} {c : Char} : c ≠ '\\' → c ≠ ')' → c ≠ '(' → Closes depth s →
    Closes depth (c :: s)

section
variable {opened index depth : Nat} {s body rest : Text}

/-- What is cut off as the body of a group closes all that it opens. -/
theorem closes_of_closeGroup (h : closeGroup opened index depth s = .ok (body, rest)) :
    Closes depth body := by
  fun_induction closeGroup opened index depth s generalizing body rest with
  | case1 | case2 | case7 => cases h
  | case3 _ _ _ _ ih =>
    obtain ⟨inner, hr, rfl⟩ := prependBody_eq_ok h
    exact .escaped _ (ih hr)
  | case4 =>
    cases h
    exact .nil
  | case5 _ _ _ _ ih =>
    obtain ⟨inner, hr, rfl⟩ := prependBody_eq_ok h
    exact .close (ih hr)
  | case6 _ _ s hhead _ _ ih =>
    obtain ⟨inner, hr, rfl⟩ := prependBody_eq_ok h
    have hinner := ih hr
    refine .inner ?_ hinner
    rw [eq_of_closeGroup hr] at hhead
    cases hinner <;> exact hhead
  | case8 _ _ _ _ hslash hclose hopen ih =>
    obtain ⟨inner, hr, rfl⟩ := prependBody_eq_ok h
    exact .char hslash hclose hopen (ih hr)

/-- A body that closes all that it opens is cut off at the next parenthesis. -/
theorem closeGroup_of_closes (h : Closes depth body) (opened index : Nat) (rest : Text) :
    closeGroup opened index depth (body ++ ')' :: rest) = .ok (body, rest) := by
  induction h generalizing index with
  | nil =>
    rw [closeGroup.eq_def]
    rfl
  | escaped c _ ih =>
    rw [closeGroup.eq_def]
    simp only [List.cons_append, ↓reduceIte, ih]
    rfl
  | close _ ih =>
    rw [closeGroup.eq_def]
    simp [ih, prependBody]
  | @inner depth s hhead _ ih =>
    have hhead : (s ++ ')' :: rest).head? = some '?' := by
      rw [List.head?_append, hhead]
      rfl
    rw [closeGroup.eq_def]
    simp [hhead, ih, prependBody]
  | char hslash hclose hopen _ ih =>
    rw [closeGroup.eq_def]
    simp [hslash, hclose, hopen, ih, prependBody]

/-- A group closes with the first parenthesis behind a text that closes. -/
theorem closeGroup_eq_ok_iff : closeGroup opened index depth s = .ok (body, rest) ↔
    s = body ++ ')' :: rest ∧ Closes depth body := by
  constructor
  · exact fun h => ⟨eq_of_closeGroup h, closes_of_closeGroup h⟩
  · rintro ⟨rfl, h⟩
    exact closeGroup_of_closes h opened index rest

end

/-! ## Lexemes -/

/-- Whether a lexeme can be written: a name is not empty and has name characters only; the body of a
group is not empty, does not start with a question mark, and closes. -/
def Lexeme.IsWritten : Lexeme → Prop
  | name n => n ≠ [] ∧ ∀ c ∈ n, isNameChar c = true
  | group body => body ≠ [] ∧ body.head? ≠ some '?' ∧ Closes 0 body
  | _ => True

/-- Whether a character starts a lexeme of another kind than a plain character. -/
def isMark (c : Char) : Bool :=
  (Quantifier.ofChar? c).isSome || c == '\\' || c == '\x7b' || c == '\x7d' || c == ':' || c == '('

/-- Whether a lexeme is what is cut off in front of a text. -/
def Lexeme.Fits : Lexeme → Text → Prop
  | char c, _ => isMark c = false
  | name n, rest => (name n).IsWritten ∧ ∀ c, rest.head? = some c → isNameChar c = false
  | group body, _ => (group body).IsWritten
  | finish, _ => False
  | _, _ => True

section
variable {i : Nat} {c : Char} {s t rest : Text} {x : Lexeme}

/-- A group is cut off if its body can be written and a parenthesis follows. -/
theorem takeGroup_eq_ok_iff : takeGroup i s = .ok (x, rest) ↔
    ∃ body, x = .group body ∧ s = body ++ ')' :: rest ∧ (Lexeme.group body).IsWritten := by
  constructor
  · intro h
    unfold takeGroup at h
    split at h
    · cases h
    · next hhead =>
      split at h
      · cases h
      · cases h
      · next body rest' hne hclose =>
        cases h
        obtain ⟨rfl, hcloses⟩ := closeGroup_eq_ok_iff.1 hclose
        refine ⟨body, rfl, rfl, hne, fun hbody => hhead ?_, hcloses⟩
        rw [List.head?_append, hbody]
        rfl
  · rintro ⟨body, rfl, rfl, hne, hhead, hcloses⟩
    have hhead : (body ++ ')' :: rest).head? ≠ some '?' := by
      rwa [List.head?_append, List.head?_eq_some_head hne, Option.some_or,
        ← List.head?_eq_some_head hne]
    rw [takeGroup, if_neg hhead, closeGroup_of_closes hcloses]
    cases body with
    | nil => exact absurd rfl hne
    | cons c body => rfl

/-- The name characters at the front of a text are a name if something else follows them. -/
theorem takeWhile_isNameChar {n : Text} (hn : ∀ c ∈ n, isNameChar c = true)
    (hrest : ∀ c, rest.head? = some c → isNameChar c = false) :
    (n ++ rest).takeWhile isNameChar = n ∧ (n ++ rest).dropWhile isNameChar = rest := by
  rw [List.takeWhile_append_of_pos hn, List.dropWhile_append_of_pos hn]
  cases rest with
  | nil => exact ⟨List.append_nil n, rfl⟩
  | cons c rest =>
    have hc : ¬ isNameChar c = true := by simp [hrest c rfl]
    rw [List.takeWhile_cons_of_neg hc, List.dropWhile_cons_of_neg hc, List.append_nil]
    exact ⟨rfl, rfl⟩

/-- The characters that stand for themselves are those that start no other lexeme. -/
theorem isMark_eq_false_iff : isMark c = false ↔ Quantifier.ofChar? c = none ∧ c ≠ '\\' ∧
    c ≠ '\x7b' ∧ c ≠ '\x7d' ∧ c ≠ ':' ∧ c ≠ '(' := by
  simp only [isMark, Bool.or_eq_false_iff, Option.isSome_eq_false_iff, Option.isNone_iff_eq_none,
    beq_eq_false_iff_ne, and_assoc, ne_eq]

/-- A lexeme that is cut off fits there. -/
theorem fits_of_takeLexeme (h : takeLexeme i c s = .ok (x, rest)) :
    c :: s = x.source ++ rest ∧ x.Fits rest := by
  unfold takeLexeme at h
  split at h
  · next q hq =>
    cases h
    exact ⟨congrArg (· :: s) (Quantifier.ofChar?_eq_some_iff.1 hq), trivial⟩
  · next hquantifier =>
    split at h
    · next hc =>
      split at h <;> cases h
      exact ⟨congrArg (· :: _) hc, trivial⟩
    · next hslash =>
      split at h
      · next hc =>
        cases h
        exact ⟨congrArg (· :: s) hc, trivial⟩
      · next hopen =>
        split at h
        · next hc =>
          cases h
          exact ⟨congrArg (· :: s) hc, trivial⟩
        · next hclose =>
          split at h
          · next hc =>
            split at h
            · cases h
            · next hne =>
              cases h
              refine ⟨?_, ⟨hne, List.all_eq_true.1 List.all_takeWhile⟩, fun d hd => ?_⟩
              · rw [Lexeme.source, List.cons_append, List.takeWhile_append_dropWhile, hc]
              · have hnot := List.head?_dropWhile_not isNameChar s
                rwa [hd] at hnot
          · next hcolon =>
            split at h
            · next hc =>
              obtain ⟨body, rfl, rfl, hbody⟩ := takeGroup_eq_ok_iff.1 h
              refine ⟨?_, hbody⟩
              rw [hc, Lexeme.source, List.append_assoc]
              rfl
            · next hparen =>
              cases h
              exact ⟨rfl, isMark_eq_false_iff.2
                ⟨hquantifier, hslash, hopen, hclose, hcolon, hparen⟩⟩

/-- A lexeme that fits is cut off. -/
theorem takeLexeme_of_fits (h : x.Fits rest) (hs : c :: s = x.source ++ rest) :
    takeLexeme i c s = .ok (x, rest) := by
  cases x with
  | finish => cases h
  | openBrace | closeBrace =>
    cases hs
    rfl
  | escaped d =>
    cases hs
    rfl
  | quantifier q =>
    cases hs
    cases q <;> rfl
  | name n =>
    obtain ⟨rfl, rfl⟩ : c = ':' ∧ s = n ++ rest := List.cons.inj hs
    obtain ⟨⟨hne, hn⟩, hrest⟩ := h
    obtain ⟨htake, hdrop⟩ := takeWhile_isNameChar hn hrest
    have hcolon : Quantifier.ofChar? ':' = none := rfl
    simp only [takeLexeme, hcolon, htake, hdrop]
    cases n with
    | nil => exact absurd rfl hne
    | cons d n => rfl
  | group body =>
    cases hs
    show takeGroup i _ = _
    exact takeGroup_eq_ok_iff.2 ⟨body, rfl, by simp, h⟩
  | char d =>
    cases hs
    obtain ⟨hquantifier, hslash, hopen, hclose, hcolon, hparen⟩ := isMark_eq_false_iff.1 h
    simp only [takeLexeme, hquantifier, hslash, hopen, hclose, hcolon, hparen, ↓reduceIte]
    rfl

/-- A lexeme that fits somewhere has at least one character. -/
theorem Lexeme.Fits.exists_source (h : x.Fits rest) : ∃ c s, x.source = c :: s := by
  cases x with
  | finish => cases h
  | openBrace | closeBrace | group | name | char | escaped | quantifier => exact ⟨_, _, rfl⟩

/-- A lexeme that fits somewhere can be written. -/
theorem Lexeme.Fits.isWritten (h : x.Fits rest) : x.IsWritten := by
  cases x with
  | name n => exact h.1
  | group body => exact h
  | openBrace | closeBrace | char | escaped | quantifier | finish => trivial

/-- A lexeme is cut off if and only if it fits there. -/
theorem takeLexeme_eq_ok_iff :
    takeLexeme i c s = .ok (x, rest) ↔ c :: s = x.source ++ rest ∧ x.Fits rest :=
  ⟨fits_of_takeLexeme, fun h => takeLexeme_of_fits h.2 h.1⟩

/-- A lexeme fits in front of any text that does not continue a name. -/
theorem Lexeme.Fits.changed {rest' : Text} (h : x.Fits (t ++ rest))
    (hrest : ∀ c, rest'.head? = some c → isNameChar c = false) : x.Fits (t ++ rest') := by
  cases x with
  | name n =>
    refine ⟨h.1, fun c hc => ?_⟩
    cases t with
    | nil => exact hrest c hc
    | cons d t => exact h.2 c hc
  | openBrace | closeBrace | group | char | escaped | quantifier | finish => exact h

end

/-! ## Lexemes in a row -/

/-- Lexemes fill a text that stands in front of another one. -/
inductive Tiles : List Lexeme → Text → Text → Prop
  | nil (rest : Text) : Tiles [] [] rest
  | cons {x : Lexeme} {xs : List Lexeme} {t rest : Text} : x.Fits (t ++ rest) → Tiles xs t rest →
    Tiles (x :: xs) (x.source ++ t) rest

/-- Lexemes one behind the other, the first at an offset. -/
def locatedFrom : Nat → List Lexeme → List Located
  | _, [] => []
  | i, x :: xs => ⟨i, x⟩ :: locatedFrom (i + x.source.byteLength) xs

/-- The lexemes without their places. -/
def lexemesOf (xs : List Located) : List Lexeme := xs.map Located.lexeme

section
variable {i : Nat} {s t rest : Text} {x : Lexeme} {xs ys : List Lexeme} {zs : List Located}
  {e : SyntaxError}

/-- A lexeme that fits fills its own text. -/
theorem Tiles.single (h : x.Fits rest) : Tiles [x] x.source rest := by
  have hx : Tiles [x] (x.source ++ []) rest := .cons h (.nil rest)
  rwa [List.append_nil] at hx

/-- Lexemes fill the text that they are written as. -/
theorem Tiles.eq_flatMap (h : Tiles xs t rest) : t = xs.flatMap Lexeme.source := by
  induction h with
  | nil => rfl
  | cons _ _ ih => rw [List.flatMap_cons, ← ih]

/-- Each of the lexemes that fill a text fits somewhere. -/
theorem Tiles.fits (h : Tiles xs t rest) : ∀ x ∈ xs, ∃ u, x.Fits u := by
  induction h with
  | nil => exact nofun
  | cons hfits _ ih => exact List.forall_mem_cons.2 ⟨⟨_, hfits⟩, ih⟩

/-- A text is filled by lexemes in one way. -/
theorem Tiles.unique (h : Tiles xs t rest) (h' : Tiles ys t rest) : xs = ys := by
  induction h generalizing ys with
  | nil rest =>
    generalize hs : ([] : Text) = s at h'
    cases h' with
    | nil => rfl
    | cons hfits _ =>
      obtain ⟨c, s, hc⟩ := hfits.exists_source
      rw [hc] at hs
      cases hs
  | @cons x xs t rest hfits _ ih =>
    obtain ⟨c, s, hc⟩ := hfits.exists_source
    generalize hu : x.source ++ t = u at h'
    cases h' with
    | nil =>
      rw [hc] at hu
      cases hu
    | @cons y ys t' _ hfits' h' =>
      have hx : c :: (s ++ t ++ rest) = x.source ++ (t ++ rest) := by
        rw [hc, List.cons_append, List.append_assoc]
      have hy : c :: (s ++ t ++ rest) = y.source ++ (t' ++ rest) := by
        rw [← List.append_assoc, ← hu, hc]
        rfl
      have heq := (takeLexeme_of_fits (i := 0) hfits hx).symm.trans (takeLexeme_of_fits hfits' hy)
      obtain ⟨rfl, ht⟩ := Prod.mk.inj (Except.ok.inj heq)
      obtain rfl := List.append_cancel_right ht
      rw [ih h']

/-- Lexemes that fill a text, and more lexemes that fill the text behind it. -/
theorem Tiles.append (h : Tiles xs s (t ++ rest)) (h' : Tiles ys t rest) :
    Tiles (xs ++ ys) (s ++ t) rest := by
  generalize hu : t ++ rest = u at h
  induction h with
  | nil => exact h'
  | @cons x xs s u hfits _ ih =>
    subst hu
    rw [List.cons_append, List.append_assoc]
    rw [← List.append_assoc] at hfits
    exact .cons hfits (ih rfl)

/-- Lexemes in two parts fill a text in two parts. -/
theorem Tiles.split (h : Tiles (xs ++ ys) s rest) :
    ∃ t u, s = t ++ u ∧ Tiles xs t (u ++ rest) ∧ Tiles ys u rest := by
  induction xs generalizing s with
  | nil => exact ⟨[], s, rfl, .nil _, h⟩
  | cons x xs ih =>
    cases h with
    | cons hfits h =>
      obtain ⟨t, u, rfl, hxs, hys⟩ := ih h
      rw [List.append_assoc] at hfits
      exact ⟨x.source ++ t, u, (List.append_assoc _ t u).symm, .cons hfits hxs, hys⟩

/-- Lexemes fill a text in front of any other that does not continue a name. -/
theorem Tiles.changed {rest' : Text} (h : Tiles xs t rest)
    (hrest : ∀ c, rest'.head? = some c → isNameChar c = false) : Tiles xs t rest' := by
  induction h with
  | nil => exact .nil _
  | cons hfits _ ih => exact .cons (hfits.changed hrest) ih

/-- The second part of lexemes stands where the first ends. -/
theorem locatedFrom_append : locatedFrom i (xs ++ ys) =
    locatedFrom i xs ++ locatedFrom (i + Text.byteLength (xs.flatMap Lexeme.source)) ys := by
  induction xs generalizing i with
  | nil => rfl
  | cons x xs ih =>
    rw [List.cons_append, locatedFrom, locatedFrom, ih, List.flatMap_cons, Text.byteLength_append,
      ← Nat.add_assoc, List.cons_append]

/-- Lexemes that are given places are the same lexemes. -/
theorem lexemesOf_locatedFrom (i : Nat) (xs : List Lexeme) :
    lexemesOf (locatedFrom i xs) = xs := by
  induction xs generalizing i with
  | nil => rfl
  | cons x xs ih => exact congrArg (x :: ·) (ih _)

/-- Where located lexemes are cut, those behind stand where those in front end. -/
theorem locatedFrom_cut {us vs : List Located} (h : us ++ vs = locatedFrom i xs) :
    us = locatedFrom i (lexemesOf us) ∧
      vs = locatedFrom (i + Text.byteLength ((lexemesOf us).flatMap Lexeme.source)) (lexemesOf vs) := by
  induction us generalizing i xs with
  | nil =>
    rw [List.nil_append] at h
    exact ⟨rfl, by rw [h, lexemesOf_locatedFrom]; rfl⟩
  | cons u us ih =>
    cases xs with
    | nil => cases h
    | cons x xs =>
      obtain ⟨rfl, hcut⟩ := List.cons.inj h
      obtain ⟨hus, hvs⟩ := ih hcut
      refine ⟨congrArg (_ :: ·) hus, hvs.trans ?_⟩
      show locatedFrom _ _ = locatedFrom (i + Text.byteLength (x.source ++ _)) _
      rw [Text.byteLength_append, Nat.add_assoc]
      rfl

/-- Lexemes that fill a text are the ones that lexing cuts off, before it goes on behind them. -/
theorem Tiles.lexFrom_append (h : Tiles xs t rest) (i : Nat) :
    lexFrom i (t ++ rest) = (lexFrom (i + t.byteLength) rest).map (locatedFrom i xs ++ ·) := by
  induction h generalizing i with
  | nil rest =>
    show lexFrom i rest = (lexFrom i rest).map id
    cases lexFrom i rest <;> rfl
  | @cons x xs t rest hfits _ ih =>
    obtain ⟨c, s, hs⟩ := hfits.exists_source
    have htake : takeLexeme i c (s ++ (t ++ rest)) = .ok (x, t ++ rest) :=
      takeLexeme_of_fits hfits (congrArg (· ++ (t ++ rest)) hs).symm
    have hstart : x.source ++ t ++ rest = c :: (s ++ (t ++ rest)) := by
      rw [List.append_assoc, hs, List.cons_append]
    rw [hstart, lexFrom_cons, htake, Text.byteLength_append, ← Nat.add_assoc]
    show (lexFrom (i + x.source.byteLength) (t ++ rest)).map _ = _
    rw [ih]
    cases lexFrom (i + x.source.byteLength + t.byteLength) rest <;> rfl

/-- Lexing succeeds if and only if lexemes fill the text; each stands where those before it end, and the
end of the pattern behind them all. -/
theorem lexFrom_eq_ok_iff : lexFrom i s = .ok zs ↔
    ∃ xs, Tiles xs s [] ∧ zs = locatedFrom i (xs ++ [.finish]) := by
  constructor
  · intro h
    induction i, s using lexFrom.induct generalizing zs with
    | case1 i =>
      rw [lexFrom] at h
      cases h
      exact ⟨[], .nil [], rfl⟩
    | case2 i c s e htake =>
      rw [lexFrom_cons, htake] at h
      cases h
    | case3 i c s x rest htake _ e hrest =>
      rw [lexFrom_cons, htake] at h
      simp only [Except.bind, hrest] at h
      cases h
    | case4 i c s x rest htake _ ys hrest ih =>
      rw [lexFrom_cons, htake] at h
      simp only [Except.bind, hrest] at h
      obtain rfl := Except.ok.inj h
      obtain ⟨xs, hxs, rfl⟩ := ih hrest
      obtain ⟨hs, hfits⟩ := takeLexeme_eq_ok_iff.1 htake
      rw [hs]
      refine ⟨x :: xs, .cons ?_ hxs, rfl⟩
      rwa [List.append_nil]
  · rintro ⟨xs, h, rfl⟩
    have hlex := h.lexFrom_append i
    rw [List.append_nil, lexFrom] at hlex
    rw [hlex, locatedFrom_append, ← h.eq_flatMap]
    rfl

/-- What is lexed can be written. -/
theorem isWritten_of_lexFrom (h : lexFrom i s = .ok zs) : ∀ x ∈ lexemesOf zs, x.IsWritten := by
  obtain ⟨xs, htiles, rfl⟩ := lexFrom_eq_ok_iff.1 h
  rw [lexemesOf_locatedFrom]
  refine List.forall_mem_append.2 ⟨fun x hx => ?_, List.forall_mem_singleton.2 trivial⟩
  obtain ⟨_, hfits⟩ := htiles.fits x hx
  exact hfits.isWritten

/-- Where lexing fails, lexemes fill the text in front of the one that cannot be cut off. -/
theorem tiles_of_lexFrom_error (h : lexFrom i s = .error e) :
    ∃ xs before c after, s = before ++ c :: after ∧ Tiles xs before (c :: after) ∧
      takeLexeme (i + before.byteLength) c after = .error e := by
  induction i, s using lexFrom.induct with
  | case1 i =>
    rw [lexFrom] at h
    cases h
  | case2 i c s e' htake =>
    rw [lexFrom_cons, htake] at h
    cases h
    exact ⟨[], [], c, s, rfl, .nil _, htake⟩
  | case3 i c s x rest htake _ e' hrest ih =>
    rw [lexFrom_cons, htake] at h
    simp only [Except.bind, hrest] at h
    cases h
    obtain ⟨xs, before, d, after, rfl, htiles, hd⟩ := ih hrest
    obtain ⟨hs, hfits⟩ := takeLexeme_eq_ok_iff.1 htake
    rw [hs, ← List.append_assoc]
    refine ⟨x :: xs, x.source ++ before, d, after, rfl, .cons hfits htiles, ?_⟩
    rwa [Text.byteLength_append, ← Nat.add_assoc]
  | case4 i c s x rest htake _ ys hrest =>
    rw [lexFrom_cons, htake] at h
    simp only [Except.bind, hrest] at h
    cases h

end

end NestedRouting
