import NestedRouting.Proofs.Pattern.Defects

/-!
# How a pattern splits into lexemes

A pattern can be lexed if and only if it splits from left to right into lexemes that are each cut off
where they have to be (`Lexeme.Cut`), and then there is one way to do so. This says in terms of the
characters of a pattern what `Tiles` says in the order in which they are read. The body of a group is
what stands in front of the first parenthesis that closes it (`IsBody`), where `Nests` counts every
parenthesis that is not escaped. The places of the lexemes are where those before them end, so they
increase strictly up to the end of the pattern (`lex_splits`).
-/

namespace NestedRouting

/-! ## Bodies of groups -/

/-- Whether a text can stand between the parentheses of a group: they are not empty, an inner group
starts with a question mark and the group itself does not, and the parenthesis behind the text is the
first one at which the parentheses that are not escaped balance. -/
structure IsBody (body : Text) : Prop where
  ne_nil : body ≠ []
  start : body.head? ≠ some '?'
  inner : ∀ before after depth, body = before ++ '(' :: after → Nests 0 before depth →
    after.head? = some '?'
  balanced : Nests 0 body 0
  first : ∀ before after, body = before ++ ')' :: after → ¬ Nests 0 before 0

section
variable {depth d d' : Nat} {s t : Text}

/-- Where a text that nests is cut, the text behind goes on from the depth in front. -/
theorem Nests.behind (h : Nests depth s d) (h' : Nests depth (s ++ t) d') : Nests d t d' := by
  induction h with
  | nil => exact h'
  | escaped c _ ih =>
    cases h' with
    | escaped _ h' => exact ih h'
    | char hslash => exact absurd rfl hslash
  | close _ ih =>
    cases h' with
    | close h' => exact ih h'
    | char _ hclose => exact absurd rfl hclose
  | inner _ ih =>
    cases h' with
    | inner h' => exact ih h'
    | char _ _ hopen => exact absurd rfl hopen
  | @char depth d s c hslash hclose hopen _ ih =>
    rw [List.cons_append] at h'
    generalize s ++ t = u at h' ih
    cases h' with
    | char _ _ _ h' => exact ih h'
    | escaped => exact absurd rfl hslash
    | close => exact absurd rfl hclose
    | inner => exact absurd rfl hopen

/-- A text closes what is open if and only if it leads to no open parenthesis and each inner group
starts with a question mark. -/
theorem closes_iff_nests : Closes depth s ↔ Nests depth s 0 ∧ ∀ before after d,
    s = before ++ '(' :: after → Nests depth before d → after.head? = some '?' := by
  constructor
  · -- a parenthesis is the first character, or stands behind what the first clause reads
    intro h
    induction h with
    | nil => exact ⟨.nil 0, fun before _ _ hs => by simp at hs⟩
    | escaped c _ ih =>
      refine ⟨.escaped c ih.1, fun before after d hs hbefore => ?_⟩
      cases hbefore with
      | nil => cases hs
      | escaped c' hbefore =>
        cases hs
        exact ih.2 _ after d rfl hbefore
      | close | inner => cases hs
      | char hslash => exact absurd (List.cons.inj hs).1.symm hslash
    | close _ ih =>
      refine ⟨.close ih.1, fun before after d hs hbefore => ?_⟩
      cases hbefore with
      | nil => cases hs
      | escaped | inner => cases hs
      | close hbefore =>
        cases hs
        exact ih.2 _ after d rfl hbefore
      | char _ hclose => exact absurd (List.cons.inj hs).1.symm hclose
    | inner hhead _ ih =>
      refine ⟨.inner ih.1, fun before after d hs hbefore => ?_⟩
      cases hbefore with
      | nil =>
        cases hs
        exact hhead
      | escaped | close => cases hs
      | inner hbefore =>
        cases hs
        exact ih.2 _ after d rfl hbefore
      | char _ _ hopen => exact absurd (List.cons.inj hs).1.symm hopen
    | char hslash hclose hopen _ ih =>
      refine ⟨.char hslash hclose hopen ih.1, fun before after d hs hbefore => ?_⟩
      cases hbefore with
      | nil => exact absurd (List.cons.inj hs).1 hopen
      | escaped => exact absurd (List.cons.inj hs).1 hslash
      | close => exact absurd (List.cons.inj hs).1 hclose
      | inner => exact absurd (List.cons.inj hs).1 hopen
      | char _ _ _ hbefore =>
        cases hs
        exact ih.2 _ after d rfl hbefore
  · -- what stands in front of a later parenthesis is read from the start of the whole text
    rintro ⟨h, hinner⟩
    generalize hd : 0 = d at h
    induction h with
    | nil =>
      subst hd
      exact .nil
    | escaped c _ ih =>
      exact .escaped c (ih (fun before after d hs hbefore =>
        hinner _ after d (congrArg (fun s => '\\' :: c :: s) hs) (.escaped c hbefore)) hd)
    | close _ ih =>
      exact .close (ih (fun before after d hs hbefore =>
        hinner _ after d (congrArg (')' :: ·) hs) (.close hbefore)) hd)
    | @inner depth d s _ ih =>
      exact .inner (hinner [] s depth rfl (.nil depth)) (ih (fun before after d hs hbefore =>
        hinner _ after d (congrArg ('(' :: ·) hs) (.inner hbefore)) hd)
    | @char depth d s c hslash hclose hopen _ ih =>
      exact .char hslash hclose hopen (ih (fun before after d hs hbefore =>
        hinner _ after d (congrArg (c :: ·) hs) (.char hslash hclose hopen hbefore)) hd)

/-- The two descriptions of what can be the body of a group agree. -/
theorem isBody_iff_isWritten {body : Text} : IsBody body ↔ (Lexeme.group body).IsWritten := by
  constructor
  · intro h
    exact ⟨h.ne_nil, h.start, closes_iff_nests.2 ⟨h.balanced, h.inner⟩⟩
  · rintro ⟨hne, hstart, hcloses⟩
    obtain ⟨hbalanced, hinner⟩ := closes_iff_nests.1 hcloses
    refine ⟨hne, hstart, hinner, hbalanced, fun before after hs hbefore => ?_⟩
    rw [hs] at hbalanced
    -- behind an earlier balance a closing parenthesis would have nothing to close
    cases hbefore.behind hbalanced with
    | char _ hclose => exact hclose rfl

end

/-! ## Lexemes -/

/-- The characters that start a lexeme of more than themselves, or a modifier or brace. -/
def specials : Text := ['?', '*', '+', '\\', '\x7b', '\x7d', ':', '(']

/-- Whether a lexeme is cut off in front of a text as it has to be: a name takes all name characters
there are, and at least one, the body of a group is one, and a character of its own is not special. -/
def Lexeme.Cut : Lexeme → Text → Prop
  | quantifier _, _ | escaped _, _ | openBrace, _ | closeBrace, _ => True
  | name n, rest => n ≠ [] ∧ (∀ c ∈ n, isNameChar c = true) ∧
    ∀ c, rest.head? = some c → isNameChar c = false
  | group body, _ => IsBody body
  | char c, _ => c ∉ specials
  | finish, _ => False

/-- A character stands for itself if it is not special. -/
theorem isMark_eq_false_iff_notMem {c : Char} : isMark c = false ↔ c ∉ specials := by
  have hquantifier : Quantifier.ofChar? c = none ↔ c ≠ '?' ∧ c ≠ '*' ∧ c ≠ '+' := by
    unfold Quantifier.ofChar?
    split <;> simp_all
  rw [isMark_eq_false_iff, hquantifier]
  simp only [specials, List.mem_cons, List.not_mem_nil, or_false, not_or, and_assoc, ne_eq]

/-- The two descriptions of where a lexeme is cut off agree. -/
theorem Lexeme.cut_iff_fits {x : Lexeme} {rest : Text} : x.Cut rest ↔ x.Fits rest := by
  cases x with
  | openBrace | closeBrace | escaped | quantifier | finish => exact Iff.rfl
  | name n => exact and_assoc.symm
  | group body => exact isBody_iff_isWritten
  | char c => exact isMark_eq_false_iff_notMem.symm

/-- A text splits from left to right into lexemes: joined they are the text, and each is cut off as it
has to be in front of those behind it. -/
structure Splits (xs : List Lexeme) (s : Text) : Prop where
  joined : xs.flatMap Lexeme.source = s
  cut : ∀ us x vs, xs = us ++ x :: vs → x.Cut (vs.flatMap Lexeme.source)

section
variable {i : Nat} {s : Text} {xs : List Lexeme} {zs : List Located}

/-- Lexemes that split a text fill it to its end. -/
theorem splits_iff_tiles : Splits xs s ↔ Tiles xs s [] := by
  constructor
  · intro h
    induction xs generalizing s with
    | nil =>
      obtain rfl := h.joined
      exact .nil []
    | cons x xs ih =>
      obtain rfl := h.joined
      have hfits := Lexeme.cut_iff_fits.1 (h.cut [] x xs rfl)
      refine .cons ?_ (ih ⟨rfl, fun us y vs hxs => h.cut (x :: us) y vs (congrArg (x :: ·) hxs)⟩)
      rwa [List.append_nil]
  · intro h
    refine ⟨h.eq_flatMap.symm, ?_⟩
    rintro us x vs rfl
    obtain ⟨t, u, -, -, hvs⟩ := h.split
    cases hvs with
    | cons hfits hvs =>
      rw [← hvs.eq_flatMap]
      rw [List.append_nil] at hfits
      exact Lexeme.cut_iff_fits.2 hfits

/-- The end of a pattern is none of the lexemes that split it. -/
theorem Splits.finish_notMem (h : Splits xs s) : Lexeme.finish ∉ xs := by
  intro hmem
  obtain ⟨us, vs, hxs⟩ := List.append_of_mem hmem
  exact h.cut us .finish vs hxs

/-- No lexeme that a text is split into is empty. -/
theorem Splits.byteLength_pos (h : Splits xs s) : ∀ x ∈ xs, 0 < x.source.byteLength := by
  intro x hx
  obtain ⟨us, vs, hxs⟩ := List.append_of_mem hx
  obtain ⟨c, t, hsource⟩ := (Lexeme.cut_iff_fits.1 (h.cut us x vs hxs)).exists_source
  rw [hsource, Text.byteLength_cons]
  exact Nat.lt_of_lt_of_le c.utf8Size_pos (Nat.le_add_right _ _)

/-! ## Places -/

/-- Lexemes stand at the offset of the first or behind it. -/
theorem le_of_mem_locatedFrom {z : Located} (h : z ∈ locatedFrom i xs) : i ≤ z.index := by
  induction xs generalizing i with
  | nil => cases h
  | cons x xs ih =>
    rcases List.mem_cons.1 h with rfl | h
    · exact Nat.le_refl i
    · exact Nat.le_trans (Nat.le_add_right _ _) (ih h)

/-- Lexemes that are not empty stand at places that increase strictly, also that of one behind them. -/
theorem pairwise_locatedFrom (hxs : ∀ x ∈ xs, 0 < x.source.byteLength) (x : Lexeme) :
    ((locatedFrom i (xs ++ [x])).map Located.index).Pairwise (· < ·) := by
  induction xs generalizing i with
  | nil => exact List.pairwise_singleton _ _
  | cons y xs ih =>
    obtain ⟨hy, hxs⟩ := List.forall_mem_cons.1 hxs
    refine List.pairwise_cons.2 ⟨fun j hj => ?_, ih hxs⟩
    obtain ⟨z, hz, rfl⟩ := List.mem_map.1 hj
    exact Nat.lt_of_lt_of_le (Nat.lt_add_of_pos_right hy) (le_of_mem_locatedFrom hz)

/-- Lexemes stand where those in front of them end. -/
theorem eq_locatedFrom_iff : zs = locatedFrom i (lexemesOf zs) ↔ ∀ us z vs, zs = us ++ z :: vs →
    z.index = i + Text.byteLength ((lexemesOf us).flatMap Lexeme.source) := by
  constructor
  · rintro hzs us z vs rfl
    obtain ⟨-, hcut⟩ := locatedFrom_cut hzs
    exact congrArg Located.index (List.cons.inj hcut).1
  · intro h
    induction zs generalizing i with
    | nil => rfl
    | cons z zs ih =>
      obtain ⟨j, x⟩ := z
      obtain rfl : j = i := h [] _ zs rfl
      refine congrArg (⟨j, x⟩ :: ·) (ih fun us z vs hzs => ?_)
      rw [h (⟨j, x⟩ :: us) z vs (congrArg (_ :: ·) hzs)]
      show _ + Text.byteLength (x.source ++ _) = _
      rw [Text.byteLength_append, Nat.add_assoc]
      rfl

end

/-- A pattern can be lexed if and only if it splits into lexemes. The list of its lexemes ends with the
end of the pattern, which stands nowhere else, and joined they are the pattern. Each stands at the
byte at which those before it end, and these places increase strictly. -/
theorem lex_splits (s : Text) : ((∃ zs, lex s = .ok zs) ↔ ∃ xs, Splits xs s) ∧
    ∀ zs, lex s = .ok zs ↔ ∃ ys, zs = ys ++ [⟨s.byteLength, .finish⟩] ∧
      Splits (lexemesOf ys) s ∧ Lexeme.finish ∉ lexemesOf ys ∧
      (∀ us z vs, ys = us ++ z :: vs →
        z.index = Text.byteLength ((lexemesOf us).flatMap Lexeme.source)) ∧
      (zs.map Located.index).Pairwise (· < ·) := by
  have hiff (zs : List Located) : lex s = .ok zs ↔
      ∃ xs, Splits xs s ∧ zs = locatedFrom 0 (xs ++ [.finish]) := by
    simp only [splits_iff_tiles]
    exact lexFrom_eq_ok_iff
  refine ⟨⟨?_, ?_⟩, fun zs => ⟨fun h => ?_, ?_⟩⟩
  · rintro ⟨zs, h⟩
    obtain ⟨xs, hxs, -⟩ := (hiff zs).1 h
    exact ⟨xs, hxs⟩
  · rintro ⟨xs, hxs⟩
    exact ⟨_, (hiff _).2 ⟨xs, hxs, rfl⟩⟩
  · obtain ⟨xs, hxs, rfl⟩ := (hiff zs).1 h
    refine ⟨locatedFrom 0 xs, ?_, ?_, ?_, ?_, pairwise_locatedFrom hxs.byteLength_pos _⟩
    · rw [locatedFrom_append, hxs.joined, Nat.zero_add]
      rfl
    · rwa [lexemesOf_locatedFrom]
    · rw [lexemesOf_locatedFrom]
      exact hxs.finish_notMem
    · intro us z vs hys
      have hplaces : locatedFrom 0 xs = locatedFrom 0 (lexemesOf (locatedFrom 0 xs)) := by
        rw [lexemesOf_locatedFrom]
      rw [eq_locatedFrom_iff.1 hplaces us z vs hys, Nat.zero_add]
  · rintro ⟨ys, rfl, hys, -, hplaces, -⟩
    refine (hiff _).2 ⟨lexemesOf ys, hys, ?_⟩
    have hlocated : ys = locatedFrom 0 (lexemesOf ys) := eq_locatedFrom_iff.2 fun us z vs h => by
      rw [hplaces us z vs h, Nat.zero_add]
    rw [locatedFrom_append, ← hlocated, hys.joined, Nat.zero_add]
    rfl

example : lex "/é(\\)a)?".toList = .ok [⟨0, .char '/'⟩, ⟨1, .char 'é'⟩, ⟨3, .group ['\\', ')', 'a']⟩,
    ⟨8, .quantifier .optional⟩, ⟨9, .finish⟩] := by decide +kernel

end NestedRouting
