import NestedRouting.Proofs.Regex.Reading

/-!
# Reading in front of more text

What is read at the start of a text is read there as well when more text follows, provided that
something is left. Where nothing is left, it matters what follows. In front of a closing parenthesis
reading stops where the text ends, unless it ends in a comment, which goes on to the end of the line
(`Stops`). That holds for white space and comments, for numbers and for escapes.
-/

namespace NestedRouting.Regex

/-- What is read of a text and what is left of it, depending on what follows the text: in front of a
closing parenthesis what is left stands in front of the parenthesis; or the text ends in a comment,
and nothing is left. -/
def Stops {α : Type} (read : Text → Option (α × Text)) (a : α) (left : Text) : Prop :=
  (∀ u, read (')' :: u) = some (a, left ++ ')' :: u)) ∨
    left = [] ∧ ∀ u, '\n' ∉ u → read (')' :: u) = some (a, [])

section
variable {α β : Type} {f : Text → Option (α × Text)} {a : α} {b : β} {left s t u r : Text}
  {p : Char → Bool} {v ic : Bool} {n : Nat}

/-- What is read whatever follows is read in front of a parenthesis. -/
theorem Stops.of_append (h : ∀ u, f u = some (a, left ++ u)) : Stops f a left :=
  .inl fun u => h (')' :: u)

/-- What is made of what is read stops where the reading does. -/
theorem Stops.map {g : α → β} (h : Stops f a left) :
    Stops (fun u => (f u).map fun x => (g x.1, x.2)) (g a) left := by
  rcases h with h | ⟨rfl, h⟩
  · exact .inl fun u => by simp [h]
  · exact .inr ⟨rfl, fun u hu => by simp [h u hu]⟩

/-! ## White space and comments -/

/-- A closing parenthesis is no white space. -/
theorem isSpace_parenthesis : Unicode.isSpace ')' = false := by decide

/-- Characters are taken as before if something is left behind them. -/
theorem takeSpaced_append (h : takeSpaced p v ic s = (t, r)) (hr : r ≠ []) (u : Text) :
    takeSpaced p v ic (s ++ u) = (t, r ++ u) := by
  fun_induction takeSpaced p v ic s generalizing t with
  | case1 ic =>
    have hnil : [] = r := congrArg Prod.snd h
    exact absurd hnil.symm hr
  | case2 ic c s hc ih => rw [List.cons_append, takeSpaced, if_pos hc, ih h]
  | case3 ic c s hic hc ih => rw [List.cons_append, takeSpaced, if_neg hic, if_pos hc, ih h]
  | case4 ic c s hic hspace hc ih =>
    rw [List.cons_append, takeSpaced, if_neg hic, if_neg hspace, if_pos hc, ih h]
  | case5 ic c s hic hspace hsign hc t' r' heq ih =>
    obtain ⟨rfl, rfl⟩ := Prod.mk.inj h
    rw [List.cons_append, takeSpaced, if_neg hic, if_neg hspace, if_neg hsign, if_pos hc, ih heq]
  | case6 ic c s hic hspace hsign hc =>
    obtain ⟨rfl, rfl⟩ := Prod.mk.inj h
    rw [List.cons_append, takeSpaced, if_neg hic, if_neg hspace, if_neg hsign, if_neg hc]

/-- Nothing is taken from a comment that does not end, and nothing is left of it. -/
theorem takeSpaced_comment (h : '\n' ∉ u) : takeSpaced p true true u = ([], []) := by
  induction u with
  | nil => rfl
  | cons c u ih =>
    obtain ⟨hc, hu⟩ := not_or.1 (mt List.mem_cons.2 h)
    have hgoes : (c != '\n') = true := by
      simpa using Ne.symm hc
    simp only [takeSpaced, Bool.and_self, if_true, hgoes, ih hu]

/-- Characters are taken up to a closing parenthesis at most. -/
theorem takeSpaced_stops (hp : p ')' = false) (h : takeSpaced p v ic s = (t, r)) :
    Stops (fun u => some (takeSpaced p v ic (s ++ u))) t r := by
  by_cases hr : r = []
  · subst hr
    fun_induction takeSpaced p v ic s generalizing t with
    | case1 ic =>
      obtain ⟨rfl, -⟩ := Prod.mk.inj h
      cases hic : v && ic with
      | true =>
        obtain ⟨rfl, rfl⟩ := Bool.and_eq_true_iff.1 hic
        refine .inr ⟨rfl, fun u hu => congrArg some (takeSpaced_comment ?_)⟩
        simpa using hu
      | false =>
        refine .inl fun u => ?_
        simp [takeSpaced, hic, hp, isSpace_parenthesis]
    | case2 ic c s hc ih =>
      simpa only [List.cons_append, takeSpaced, if_pos hc] using ih h
    | case3 ic c s hic hc ih =>
      simpa only [List.cons_append, takeSpaced, if_neg hic, if_pos hc] using ih h
    | case4 ic c s hic hspace hc ih =>
      simpa only [List.cons_append, takeSpaced, if_neg hic, if_neg hspace, if_pos hc] using ih h
    | case5 ic c s hic hspace hsign hc t' r' heq ih =>
      obtain ⟨rfl, rfl⟩ := Prod.mk.inj h
      simpa only [List.cons_append, takeSpaced, if_neg hic, if_neg hspace, if_neg hsign, if_pos hc,
        Option.map_some] using (ih heq).map (g := (c :: ·))
    | case6 ic c s hic hspace hsign hc => cases h
  · exact .of_append fun u => congrArg some (takeSpaced_append h hr u)

/-- White space and comments are skipped as before if something is left behind them. -/
theorem skipSpace_append {c : Char} (h : skipSpace v s = c :: t) (u : Text) :
    skipSpace v (s ++ u) = c :: (t ++ u) := by
  have htake : takeSpaced (fun _ => false) v false s =
      ((takeSpaced (fun _ => false) v false s).1, c :: t) := Prod.ext rfl h
  rw [skipSpace, takeSpaced_append htake (List.cons_ne_nil c t) u]
  rfl

/-- White space and comments are skipped up to a closing parenthesis, unless a comment goes on. -/
theorem skipSpace_stops (a : α) (v : Bool) (s : Text) :
    Stops (fun u => some (a, skipSpace v (s ++ u))) a (skipSpace v s) := by
  have h : Stops (fun u => some (takeSpaced (fun _ => false) v false (s ++ u)))
      (takeSpaced (fun _ => false) v false s).1 (skipSpace v s) := takeSpaced_stops rfl rfl
  exact h.map (g := fun _ => a)

theorem skipSpace_nil (v : Bool) : skipSpace v [] = [] := rfl

/-! ## Numbers -/

/-- Hexadecimal digits are read as before, whatever follows them. -/
theorem takeHex_append (h : takeHex v ic n s = some (t, r)) (u : Text) :
    takeHex v ic n (s ++ u) = some (t, r ++ u) := by
  fun_induction takeHex v ic n s generalizing t with
  | case1 ic s =>
    cases h
    rw [takeHex]
  | case2 ic n h => cases h
  | case3 ic n c s hc ih => rw [List.cons_append, takeHex, if_pos hc, ih h]
  | case4 ic n c s hic hc ih => rw [List.cons_append, takeHex, if_neg hic, if_pos hc, ih h]
  | case5 ic n c s hic hspace hc ih =>
    rw [List.cons_append, takeHex, if_neg hic, if_neg hspace, if_pos hc, ih h]
  | case6 ic n c s hic hspace hsign hc ih =>
    obtain ⟨⟨t, r⟩, ht, ⟨⟩⟩ := Option.map_eq_some_iff.1 h
    rw [List.cons_append, takeHex, if_neg hic, if_neg hspace, if_neg hsign, if_pos hc, ih ht]
    rfl
  | case7 ic n c s hic hspace hsign hc => cases h

/-- What is left of a text is left in front of more text too. -/
theorem dropWhile_append_of_ne (h : s.dropWhile p ≠ []) (u : Text) :
    (s ++ u).dropWhile p = s.dropWhile p ++ u := by
  rw [List.dropWhile_append, if_neg (by simpa using h)]

/-- A number is read as before if something is left behind it. -/
theorem takeDecimal_append {c : Char} (h : takeDecimal v s = some (n, c :: r)) (u : Text) :
    takeDecimal v (s ++ u) = some (n, c :: (r ++ u)) := by
  unfold takeDecimal at h ⊢
  cases htake : takeSpaced Char.isDigit v false (s.dropWhile Unicode.isSpace) with
  | mk digits rest =>
    rw [htake] at h
    simp only at h
    split at h
    · cases h
    · next hdigits =>
      obtain ⟨hn, hskip⟩ := Prod.mk.inj (Option.some.inj h)
      have hspace : rest.dropWhile Unicode.isSpace ≠ [] := by
        intro hnil
        rw [hnil] at hskip
        cases hskip
      have hrest : rest ≠ [] := by
        rintro rfl
        exact hspace rfl
      have hs : s.dropWhile Unicode.isSpace ≠ [] := by
        intro hnil
        rw [hnil] at htake
        exact hrest (Prod.mk.inj htake).2.symm
      rw [dropWhile_append_of_ne hs, takeSpaced_append htake hrest]
      simp only
      rw [if_neg hdigits, dropWhile_append_of_ne hspace, skipSpace_append hskip, hn]

theorem takeDecimal_nil (v : Bool) : takeDecimal v [] = none := rfl

/-- A number behind white space and comments. -/
theorem takeDecimal_skipSpace_append {c : Char}
    (h : takeDecimal v (skipSpace v s) = some (n, c :: r)) (u : Text) :
    takeDecimal v (skipSpace v (s ++ u)) = some (n, c :: (r ++ u)) := by
  cases hs : skipSpace v s with
  | nil =>
    rw [hs, takeDecimal_nil] at h
    cases h
  | cons d t =>
    rw [skipSpace_append hs]
    rw [hs] at h
    exact takeDecimal_append h u

/-- The bounds of a repetition end with a brace, so it does not matter what follows. -/
theorem readBounds_append {least : Nat} {most : Option Nat}
    (h : readBounds v s = some (least, most, r)) (u : Text) :
    readBounds v (s ++ u) = some (least, most, r ++ u) := by
  unfold readBounds at h ⊢
  obtain ⟨⟨k, rest⟩, hk, h⟩ := Option.bind_eq_some_iff.1 h
  simp only at h
  split at h
  · cases h
    rw [takeDecimal_skipSpace_append hk]
    rfl
  · next rest =>
    rw [takeDecimal_skipSpace_append hk]
    simp only [Option.bind_eq_bind, Option.bind_some]
    split at h
    · next hskip =>
      cases h
      rw [skipSpace_append hskip]
      rfl
    · next hne =>
      obtain ⟨⟨l, rest'⟩, hl, h⟩ := Option.bind_eq_some_iff.1 h
      simp only at h
      split at h
      · next rest' =>
        have hmost := takeDecimal_skipSpace_append hl u
        have hbrace : ∀ t, skipSpace v (rest ++ u) ≠ '\x7d' :: t := by
          intro t ht
          cases hskip : skipSpace v rest with
          | nil =>
            rw [hskip, takeDecimal_nil] at hl
            cases hl
          | cons c t' =>
            rw [skipSpace_append hskip] at ht
            obtain ⟨rfl, -⟩ := List.cons.inj ht
            exact hne t' hskip
        split
        · next ht => exact absurd ht (hbrace _)
        · rw [hmost, Option.bind_some]
          split at h
          · next hle =>
            cases h
            exact if_pos hle
          · cases h
      · cases h
  · cases h

/-- A text is cut at a character behind one that is another. -/
theorem cutAt?_cons_of_ne {c d : Char} (h : c ≠ d) (s : Text) :
    cutAt? [c] (d :: s) = (cutAt? [c] s).map fun x => (d :: x.1, x.2) := by
  rw [cutAt?]
  simp [h]

/-- A text that is cut is cut at the same place in front of more text. -/
theorem cutAt?_append_right {c : Char} (h : cutAt? [c] s = some (t, r)) (u : Text) :
    cutAt? [c] (s ++ u) = some (t, r ++ u) := by
  induction s generalizing t with
  | nil => cases h
  | cons d s ih =>
    by_cases hd : c = d
    · subst hd
      simp_all [cutAt?]
    · rw [cutAt?_cons_of_ne hd] at h
      obtain ⟨⟨t, r⟩, ht, ⟨⟩⟩ := Option.map_eq_some_iff.1 h
      rw [List.cons_append, cutAt?_cons_of_ne hd, ih ht]
      rfl

/-- A text without the character is cut where more text is. -/
theorem cutAt?_append_left {c : Char} (h : cutAt? [c] s = none) (u : Text) :
    cutAt? [c] (s ++ u) = (cutAt? [c] u).map fun x => (s ++ x.1, x.2) := by
  induction s with
  | nil => simp
  | cons d s ih =>
    by_cases hd : c = d
    · simp [cutAt?, hd] at h
    · rw [cutAt?_cons_of_ne hd, Option.map_eq_none_iff] at h
      rw [List.cons_append, cutAt?_cons_of_ne hd, ih h, Option.map_map]
      rfl

/-! ## Escapes -/

/-- What is made of a value that has been read does not depend on what is left. -/
theorem Stops.then {k : α × Text → Option (β × Text)} (h : Stops f a left)
    (hk : ∀ r, k (a, r) = some (b, r)) : Stops (fun u => (f u).bind k) b left := by
  rcases h with h | ⟨rfl, h⟩
  · exact .inl fun u => by simp [h, hk]
  · exact .inr ⟨rfl, fun u hu => by simp [h u hu, hk]⟩

/-- The name behind `\p` or `\P`. -/
def takePropertyName (verbose : Bool) (s : Text) : Option (Text × Text) :=
  match skipSpace verbose s with
  | [] => none
  | '\x7b' :: s =>
    match takeSpaced (· != '\x7d') verbose false s with
    | (name, '\x7d' :: rest) => some (name, rest)
    | _ => none
  | '\\' :: _ => none
  | c :: s => some ([c], skipSpace verbose s)

/-- The set that the name of a property stands for. -/
def propertySet? (flags : Flags) (negated : Bool) (name : Text) : Option CharSet :=
  if flags.unicode then
    (namedProperty? name).bind fun x => flags.foldAndNegate (negated != x.2) (.property x.1)
  else none

/-- To read a property is to take its name and then to look it up. -/
theorem readProperty_eq (flags : Flags) (negated : Bool) (s : Text) :
    readProperty flags negated s = (takePropertyName flags.verbose s).bind fun x =>
      (propertySet? flags negated x.1).map (·, x.2) := by
  have hset : ∀ name rest : Text, (if flags.unicode then
      (namedProperty? name).bind fun x =>
        (flags.foldAndNegate (negated != x.2) (.property x.1)).bind fun s => some (s, rest)
    else none) = (propertySet? flags negated name).map (·, rest) := by
    intro name rest
    unfold propertySet?
    split
    · cases namedProperty? name with
      | none => rfl
      | some x => exact (Option.map_eq_bind ..).symm
    · rfl
  unfold readProperty takePropertyName
  cases skipSpace flags.verbose s with
  | nil => rfl
  | cons c t =>
    by_cases hbrace : c = '\x7b'
    · subst hbrace
      simp only [Option.bind_eq_bind, Option.bind_some, Option.bind_none]
      generalize takeSpaced (· != '\x7d') flags.verbose false t = x
      obtain ⟨name, rest⟩ := x
      cases rest with
      | nil => rfl
      | cons d rest =>
        by_cases hd : d = '\x7d'
        · subst hd
          exact hset name rest
        · simp [hd]
    · by_cases hslash : c = '\\'
      · subst hslash
        rfl
      · simp only
        exact hset _ _

/-- The name of a property is taken up to a closing parenthesis at most. -/
theorem takePropertyName_stops (h : takePropertyName v s = some (t, r)) :
    Stops (fun u => takePropertyName v (s ++ u)) t r := by
  unfold takePropertyName at h
  split at h
  · cases h
  · next s' hskip =>
    split at h
    · next htake =>
      cases h
      refine .of_append fun u => ?_
      rw [takePropertyName, skipSpace_append hskip]
      simp only
      rw [takeSpaced_append htake (List.cons_ne_nil _ _)]
      rfl
    · cases h
  · cases h
  · next c s' hbrace hslash hskip =>
    cases h
    have hletter : ∀ u, takePropertyName v (s ++ u) = some ([c], skipSpace v (s' ++ u)) := by
      intro u
      rw [takePropertyName, skipSpace_append hskip]
      simp only
    simp only [hletter]
    exact skipSpace_stops [c] v s'

/-- A property is read as before in front of a closing parenthesis. -/
theorem readProperty_stops {flags : Flags} {negated : Bool} {cs : CharSet}
    (h : readProperty flags negated s = some (cs, r)) :
    Stops (fun u => readProperty flags negated (s ++ u)) cs r := by
  rw [readProperty_eq] at h
  obtain ⟨⟨name, rest⟩, hname, h⟩ := Option.bind_eq_some_iff.1 h
  obtain ⟨set, hset, ⟨⟩⟩ := Option.map_eq_some_iff.1 h
  simp only [readProperty_eq]
  refine (takePropertyName_stops hname).then fun l => ?_
  simp only at hset
  simp only [hset]
  rfl

/-- A code point, and white space behind it. -/
theorem readCode_append {digits : Nat} {c : Char} {byte : Bool} (hdigits : 0 < digits)
    (h : readCode v digits s = some (c, byte, r)) :
    ∃ rest, r = skipSpace v rest ∧
      ∀ u, readCode v digits (s ++ u) = some (c, byte, skipSpace v (rest ++ u)) := by
  unfold readCode at h ⊢
  split at h
  · next s' hskip =>
    split at h
    · next code rest htake =>
      split at h
      · cases h
      · next hcode =>
        obtain ⟨c', hc, ⟨⟩⟩ := Option.map_eq_some_iff.1 h
        refine ⟨rest, rfl, fun u => ?_⟩
        rw [skipSpace_append hskip]
        simp only
        rw [takeSpaced_append htake (List.cons_ne_nil _ _)]
        simp [hcode, hc]
    · cases h
  · next hne =>
    obtain ⟨⟨code, rest⟩, htake, h⟩ := Option.bind_eq_some_iff.1 h
    obtain ⟨c', hc, ⟨⟩⟩ := Option.bind_eq_some_iff.1 h
    refine ⟨rest, rfl, fun u => ?_⟩
    cases hskip : skipSpace v s with
    | nil =>
      rw [hskip] at htake
      obtain ⟨n, rfl⟩ := Nat.exists_eq_succ_of_ne_zero (Nat.ne_of_gt hdigits)
      cases htake
    | cons d t =>
      rw [hskip] at htake hne
      have hd : d ≠ '\x7b' := fun hd => hne t (by rw [hd])
      rw [skipSpace_append hskip]
      have hmore : takeHex v false digits (d :: (t ++ u)) = some (code, rest ++ u) :=
        takeHex_append htake u
      simp [hd, hmore, hc]

/-- A code point is read as before in front of a closing parenthesis. -/
theorem readCode_stops {digits : Nat} {c : Char} {byte : Bool} (hdigits : 0 < digits)
    (h : readCode v digits s = some (c, byte, r)) :
    Stops (fun u => (readCode v digits (s ++ u)).map fun (c, byte, rest) =>
      (Primitive.literal c byte, rest)) (.literal c byte) r := by
  obtain ⟨rest, rfl, hcode⟩ := readCode_append hdigits h
  simp only [hcode]
  exact skipSpace_stops (Primitive.literal c byte) v rest

/-- An edge of a word is read as before in front of a closing parenthesis. -/
theorem readEdge_stops {e : WordEdge} (h : readEdge v s = some (e, r)) :
    Stops (fun u => readEdge v (s ++ u)) e r := by
  unfold readEdge at h
  split at h
  · next t =>
    split at h
    · cases h
    · next c t' hskip =>
      refine .of_append fun u => ?_
      unfold readEdge
      simp only [List.cons_append]
      rw [skipSpace_append hskip]
      simp only
      split at h
      · next hc =>
        rw [if_pos hc]
        split at h
        · next name rest htake =>
          have hmore : takeSpaced (fun c => c.isAlpha || c == '-') v false (c :: (t' ++ u)) =
              (name, '\x7d' :: (rest ++ u)) := takeSpaced_append htake (List.cons_ne_nil _ _) u
          rw [hmore]
          simp only
          split at h <;> cases h <;> simp_all
        · cases h
      · next hc =>
        rw [if_neg hc]
        cases h
        rfl
  · next hbrace =>
    cases h
    cases s with
    | nil => exact .inl fun u => rfl
    | cons c s =>
      refine .of_append fun u => ?_
      have hc : c ≠ '\x7b' := fun hc => hbrace s (by rw [hc])
      unfold readEdge
      simp [hc]

/-- An escape is read as before in front of a closing parenthesis. -/
theorem readEscape_stops {flags : Flags} {x : Primitive} (h : readEscape flags s = some (x, r)) :
    Stops (fun u => readEscape flags (s ++ u)) x r := by
  cases s with
  | nil => cases h
  | cons c s =>
    unfold readEscape at h
    simp only at h
    split at h
    -- a character by its code, a property, or a class
    case h_1 | h_2 | h_3 =>
      obtain ⟨⟨c, byte, rest⟩, hcode, ⟨⟩⟩ := Option.map_eq_some_iff.1 h
      exact readCode_stops (by decide) hcode
    case h_4 | h_5 =>
      obtain ⟨⟨cs, rest⟩, hproperty, ⟨⟩⟩ := Option.map_eq_some_iff.1 h
      exact (readProperty_stops hproperty).map
    case h_6 | h_7 | h_8 | h_9 | h_10 | h_11 =>
      obtain ⟨cs, hcs, ⟨⟩⟩ := Option.map_eq_some_iff.1 h
      refine .of_append fun u => ?_
      simp only [readEscape, List.cons_append, hcs, Option.map_some]
    -- the edge of a word, which may have a name in braces
    case h_20 =>
      obtain ⟨⟨e, rest⟩, hedge, ⟨⟩⟩ := Option.map_eq_some_iff.1 h
      exact (readEdge_stops hedge).map (g := fun e => Primitive.look (.word e (!flags.unicode)))
    -- a character that means itself
    case h_24 =>
      split at h
      · next hc =>
        cases h
        refine .of_append fun u => ?_
        unfold readEscape
        simp only [List.cons_append]
        rw [if_pos hc]
      · cases h
    all_goals
      cases h
      exact .of_append fun _ => rfl

end

end NestedRouting.Regex
