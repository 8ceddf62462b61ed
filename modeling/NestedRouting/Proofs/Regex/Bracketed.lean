import NestedRouting.Proofs.Regex.Continued

/-!
# Reading classes in front of more text

What follows a class in brackets does not matter to what the class is read as (`readClass_append`): a
class that is read ends with a bracket. Inside the brackets that needs an argument in two places,
where the reader looks ahead: behind a hyphen (`peekSpaced_append`), and for the end of the name of
an ASCII class (`asciiClass?_append`). A closing parenthesis is neither.
-/

namespace NestedRouting.Regex

section
variable {left s t u r : Text} {v : Bool} {flags : Flags}

/-- A character or an escape is read as before in front of a closing parenthesis. -/
theorem takePrimitive_stops {flags : Flags} {x : Primitive}
    (h : takePrimitive flags s = some (x, r)) :
    Stops (fun u => takePrimitive flags (s ++ u)) x r := by
  unfold takePrimitive at h
  split at h
  · cases h
  · exact readEscape_stops h
  · next c s' hslash =>
    cases h
    refine .of_append fun u => ?_
    unfold takePrimitive
    simp only [List.cons_append]

/-- Where something is left, reading goes on in front of a closing parenthesis. -/
theorem Stops.append (h : Stops f a left) (hleft : left ≠ []) (u : Text) :
    f (')' :: u) = some (a, left ++ ')' :: u) := by
  rcases h with h | ⟨hnil, -⟩
  · exact h u
  · exact absurd hnil hleft

/-- The start of a class is read as before if something is left behind it. -/
theorem opened_append {flags : Flags} {b : Bracket} (h : Bracket.opened flags s = (b, r))
    (hr : r ≠ []) (u : Text) : Bracket.opened flags (s ++ u) = (b, r ++ u) := by
  unfold Bracket.opened at h
  split at h
  · next t hskip =>
    cases h
    rw [Bracket.opened, skipSpace_append hskip]
    rfl
  · next hcaret =>
    obtain ⟨rfl, hr'⟩ := Prod.mk.inj h
    cases hskip : skipSpace flags.verbose s with
    | nil =>
      rw [hskip] at hr'
      exact absurd hr'.symm hr
    | cons c t =>
      rw [hskip] at hr' hcaret
      have hc : c ≠ '^' := fun hc => hcaret t (by rw [hc])
      rw [Bracket.opened, skipSpace_append hskip, ← hr']
      simp [hc]

/-- What stands behind a hyphen matters only where it is a bracket that closes or a hyphen. -/
theorem peekSpaced_append (v : Bool) (s u : Text) :
    (peekSpaced v (s ++ ')' :: u) == some ']' || peekSpaced v (s ++ ')' :: u) == some '-') =
      (peekSpaced v s == some ']' || peekSpaced v s == some '-') := by
  have hspaces : ∀ d, Unicode.isSpace d = true → d ≠ ']' ∧ d ≠ '-' := by
    rintro d hd
    constructor <;> rintro rfl <;> exact absurd hd (by decide)
  -- a text that starts with white space or a comment does not start with a bracket or a hyphen
  have hhead : (s.dropWhile Unicode.isSpace).head?.all (· == '#') = true →
      (s.head? == some ']' || s.head? == some '-') = false := by
    intro h
    cases s with
    | nil => rfl
    | cons d s =>
      by_cases hd : Unicode.isSpace d = true
      · simp [hspaces d hd]
      · rw [List.dropWhile_cons_of_neg hd] at h
        obtain rfl : d = '#' := by simpa using h
        rfl
  unfold peekSpaced
  cases v with
  | false => cases s <;> rfl
  | true =>
    simp only [if_true]
    cases hs : s.dropWhile Unicode.isSpace with
    | nil =>
      rw [List.dropWhile_append, hs, List.isEmpty_nil, if_pos rfl,
        List.dropWhile_cons_of_neg (by simp [isSpace_parenthesis])]
      simp only
      rw [hhead (by rw [hs]; rfl)]
      rfl
    | cons c t =>
      rw [dropWhile_append_of_ne (by rw [hs]; exact List.cons_ne_nil c t), hs]
      by_cases hc : c = '#'
      · subst hc
        simp only [List.cons_append]
        cases ht : t.dropWhile Unicode.isSpace with
        | nil =>
          rw [List.dropWhile_append, ht, List.isEmpty_nil, if_pos rfl,
            List.dropWhile_cons_of_neg (by simp [isSpace_parenthesis])]
          simp [hhead (by rw [hs]; rfl)]
        | cons d t' =>
          rw [dropWhile_append_of_ne (by rw [ht]; exact List.cons_ne_nil d t'), ht]
          rfl
      · simp

/-- A range in a class is read as before if something is left behind it. -/
theorem readRange_append {flags : Flags} {cs : CharSet} (h : readRange flags s = some (cs, r))
    (hr : r ≠ []) (u : Text) : readRange flags (s ++ ')' :: u) = some (cs, r ++ ')' :: u) := by
  unfold readRange at h ⊢
  obtain ⟨⟨first, rest⟩, hfirst, h⟩ := Option.bind_eq_some_iff.1 h
  have hrest : rest ≠ [] := by
    rintro rfl
    cases h
  rw [(takePrimitive_stops hfirst).append hrest]
  simp only [Option.bind_eq_bind, Option.bind_some] at h ⊢
  split at h
  · cases h
  · next s' hskip =>
    rw [skipSpace_append hskip]
    simp only
    rw [peekSpaced_append]
    split at h
    · -- the hyphen is not that of a range
      next hnext =>
      rw [if_pos hnext]
      obtain ⟨set, hset, ⟨⟩⟩ := Option.bind_eq_some_iff.1 h
      rw [hset]
      rfl
    · next hnext =>
      rw [if_neg hnext]
      obtain ⟨⟨last, rest'⟩, hlast, h⟩ := Option.bind_eq_some_iff.1 h
      obtain ⟨lo, hlo, h⟩ := Option.bind_eq_some_iff.1 h
      obtain ⟨hi, hhi, h⟩ := Option.bind_eq_some_iff.1 h
      simp only at hlo hhi h
      split at h
      · next hle =>
        cases h
        have hmore : takePrimitive flags (skipSpace flags.verbose (s' ++ ')' :: u)) =
            some (last, r ++ ')' :: u) := by
          cases hspace : skipSpace flags.verbose s' with
          | nil =>
            rw [hspace] at hlast
            cases hlast
          | cons c t =>
            rw [hspace] at hlast
            rw [skipSpace_append hspace]
            exact (takePrimitive_stops hlast).append hr u
        simp [hmore, hlo, hhi, hle]
      · cases h
  · next hne hhyphen =>
    obtain ⟨set, hset, h⟩ := Option.bind_eq_some_iff.1 h
    cases hskip : skipSpace flags.verbose rest with
    | nil => exact absurd hskip hne
    | cons c t =>
      rw [hskip] at h hhyphen
      cases h
      have hc : c ≠ '-' := fun hc => hhyphen t (by rw [hc])
      rw [skipSpace_append hskip]
      simp [hc, hset]

/-- No class of ASCII characters has a closing parenthesis in its name. -/
theorem ofAsciiName?_eq_none (h : ')' ∈ t) : CharSet.ofAsciiName? (String.ofList t) = none := by
  have hne : ∀ name : String, ')' ∉ name.toList → String.ofList t ≠ name := by
    rintro _ hname rfl
    exact hname (by simpa using h)
  unfold CharSet.ofAsciiName?
  split
  case h_15 => rfl
  all_goals
    next heq => exact absurd heq (hne _ (by decide))

/-- The ASCII class whose name stands at the front. -/
def asciiNamed? (flags : Flags) (negated : Bool) (s : Text) : Option (Option CharSet × Text) :=
  match cutAt? [':'] s with
  | some (name, ']' :: rest) =>
    (CharSet.ofAsciiName? (String.ofList name)).map fun cs => (flags.foldAndNegate negated cs, rest)
  | _ => none

/-- No name of an ASCII class reaches over a parenthesis. -/
theorem asciiNamed?_append (flags : Flags) (negated : Bool) (s u : Text) :
    asciiNamed? flags negated (s ++ ')' :: u) =
      (asciiNamed? flags negated s).map fun x => (x.1, x.2 ++ ')' :: u) := by
  unfold asciiNamed?
  cases hcut : cutAt? [':'] s with
  | none =>
    rw [cutAt?_append_left hcut]
    simp only [Option.map_none]
    split
    · next name rest heq =>
      obtain ⟨⟨name', rest'⟩, hcut', ⟨⟩⟩ := Option.map_eq_some_iff.1 heq
      rw [cutAt?_cons_of_ne (by decide)] at hcut'
      obtain ⟨y, -, hy⟩ := Option.map_eq_some_iff.1 hcut'
      have hmem : ')' ∈ s ++ name' := by
        rw [← (Prod.mk.inj hy).1]
        simp
      rw [ofAsciiName?_eq_none hmem]
      rfl
    · rfl
  | some x =>
    obtain ⟨name, rest⟩ := x
    rw [cutAt?_append_right hcut]
    cases rest with
    | nil => rfl
    | cons d rest =>
      by_cases hd : d = ']'
      · subst hd
        simp only [List.cons_append, Option.map_map]
        rfl
      · simp [hd]

/-- A class with a name ends with its own bracket, so a closing parenthesis behind it changes
nothing. -/
theorem asciiClass?_append (flags : Flags) (s u : Text) :
    asciiClass? flags (s ++ ')' :: u) =
      (asciiClass? flags s).map fun x => (x.1, x.2 ++ ')' :: u) := by
  cases s with
  | nil => rfl
  | cons c s =>
    by_cases hc : c = ':'
    · subst hc
      cases s with
      | nil => exact asciiNamed?_append flags false [] u
      | cons d s =>
        by_cases hd : d = '^'
        · subst hd
          exact asciiNamed?_append flags true s u
        · have hplain : ∀ t, asciiClass? flags (':' :: d :: t) =
              asciiNamed? flags false (d :: t) := by
            intro t
            unfold asciiClass? asciiNamed?
            simp only
            split <;> simp_all
          have h := asciiNamed?_append flags false (d :: s) u
          rw [← hplain] at h
          exact (hplain _).trans h
    · simp [asciiClass?, hc]

/-- A step inside brackets, with more text left. -/
def ClassStep.followed (u : Text) : ClassStep → ClassStep
  | within inner outer rest => within inner outer (rest ++ u)
  | closed cs height rest => closed cs height (rest ++ u)

section
variable {bracket : Bracket} {outer : List Bracket} {c : Char} {x : ClassStep}

/-- A bracket that opens inside brackets, or the name of an ASCII class. -/
theorem classStep_open_append (h : classStep flags bracket outer '[' s = some x)
    (hx : ∀ inner outer, x ≠ .within inner outer []) (u : Text) :
    classStep flags bracket outer '[' (s ++ ')' :: u) = some (x.followed (')' :: u)) := by
  have hstep : ∀ s, classStep flags bracket outer '[' s = (asciiClass? flags s).elim
      (some (.within (Bracket.opened flags s).1 (bracket :: outer) (Bracket.opened flags s).2))
      fun p => p.1.map fun cs => .within (bracket.push cs 0) outer p.2 := by
    intro s
    have hhyphen : (bracket.fresh && '[' == '-') = false := Bool.and_false _
    have hliteral : (bracket.fresh && bracket.items.count == 0 && '[' == ']') = false :=
      Bool.and_false _
    unfold classStep
    rw [hhyphen, hliteral]
    cases asciiClass? flags s with
    | none => rfl
    | some p => cases hp : p.1 <;> simp [hp]
  rw [hstep] at h ⊢
  rw [asciiClass?_append]
  cases hascii : asciiClass? flags s with
  | some p =>
    obtain ⟨cs, rest⟩ := p
    rw [hascii] at h
    obtain ⟨cs, rfl, ⟨⟩⟩ := Option.map_eq_some_iff.1 h
    rfl
  | none =>
    rw [hascii] at h
    cases h
    have hleft : (Bracket.opened flags s).2 ≠ [] := fun hnil => hx _ _ (by rw [hnil])
    rw [Option.map_none, opened_append rfl hleft]
    rfl

/-- A bracket that closes, or a literal one at the start. -/
theorem classStep_close_append (h : classStep flags bracket outer ']' s = some x) (u : Text) :
    classStep flags bracket outer ']' (s ++ ')' :: u) = some (x.followed (')' :: u)) := by
  unfold classStep at h ⊢
  have hhyphen : (bracket.fresh && ']' == '-') = false := Bool.and_false _
  rw [hhyphen] at h ⊢
  by_cases hliteral : (bracket.fresh && bracket.items.count == 0 && ']' == ']') = true
  · rw [hliteral] at h ⊢
    cases h
    rfl
  · rw [Bool.eq_false_iff.2 hliteral] at h ⊢
    obtain ⟨⟨cs, height⟩, hclosed, h⟩ := Option.bind_eq_some_iff.1 h
    refine Option.bind_eq_some_iff.2 ⟨(cs, height), hclosed, ?_⟩
    cases outer with
    | nil =>
      cases h
      rfl
    | cons b outer =>
      cases h
      rfl

/-- An operator, or a literal hyphen at the start. -/
theorem classStep_operator_append (hc : c ∈ ['&', '-', '~'])
    (h : classStep flags bracket outer c (c :: s) = some x) (u : Text) :
    classStep flags bracket outer c (c :: s ++ ')' :: u) = some (x.followed (')' :: u)) := by
  unfold classStep at h ⊢
  by_cases hhyphen : (bracket.fresh && c == '-') = true
  · rw [hhyphen] at h ⊢
    cases h
    rfl
  · rw [Bool.eq_false_iff.2 hhyphen] at h ⊢
    have hliteral : (bracket.fresh && bracket.items.count == 0 && c == ']') = false := by
      refine Bool.and_eq_false_imp.2 fun _ => beq_eq_false_iff_ne.2 ?_
      rintro rfl
      revert hc
      decide
    rw [hliteral] at h ⊢
    simp only [List.mem_cons, List.not_mem_nil, or_false] at hc
    rcases hc with rfl | rfl | rfl
    all_goals
      cases h
      rfl

/-- An item, or a literal hyphen at the start. What follows makes it no operator. -/
theorem classStep_item_append (hopen : c ≠ '[') (hclose : c ≠ ']')
    (hoperator : c ∈ ['&', '-', '~'] → s.head? ≠ some c)
    (h : classStep flags bracket outer c s = some x)
    (hx : ∀ inner outer, x ≠ .within inner outer []) (u : Text) :
    classStep flags bracket outer c (s ++ ')' :: u) = some (x.followed (')' :: u)) := by
  have hstep : ∀ s, (c ∈ ['&', '-', '~'] → s.head? ≠ some c) → classStep flags bracket outer c s =
      if bracket.fresh && c == '-' then
        some (.within { bracket with items := bracket.items.push (.single '-') 0 } outer s)
      else (readRange flags (c :: s)).map fun p => .within (bracket.push p.1 0) outer p.2 := by
    intro s hs
    have hliteral : (bracket.fresh && bracket.items.count == 0 && c == ']') = false :=
      Bool.and_eq_false_imp.2 fun _ => beq_eq_false_iff_ne.2 hclose
    unfold classStep
    rw [hliteral]
    cases hhyphen : bracket.fresh && c == '-' with
    | true => rfl
    | false =>
      simp only [Bool.false_eq_true, if_false]
      split
      · exact (hopen rfl).elim
      · exact (hclose rfl).elim
      · exact (hs (by decide) rfl).elim
      · exact (hs (by decide) rfl).elim
      · exact (hs (by decide) rfl).elim
      · exact Option.map_eq_bind.symm
  have hhead : c ∈ ['&', '-', '~'] → (s ++ ')' :: u).head? ≠ some c := by
    intro hc
    refine head?_append_ne (hoperator hc) ?_
    rintro ⟨⟩
    revert hc
    decide
  rw [hstep s hoperator] at h
  rw [hstep _ hhead]
  split at h
  · next hhyphen =>
    rw [if_pos hhyphen]
    cases h
    rfl
  · next hhyphen =>
    rw [if_neg hhyphen]
    obtain ⟨⟨cs, rest⟩, hrange, rfl⟩ := Option.map_eq_some_iff.1 h
    have hrest : rest ≠ [] := fun hnil => hx _ _ (by rw [hnil])
    have hmore : readRange flags (c :: (s ++ ')' :: u)) = some (cs, rest ++ ')' :: u) :=
      readRange_append hrange hrest u
    rw [hmore]
    rfl

/-- What follows a class does not matter to a step inside its brackets. -/
theorem classStep_append (h : classStep flags bracket outer c s = some x)
    (hx : ∀ inner outer, x ≠ .within inner outer []) (u : Text) :
    classStep flags bracket outer c (s ++ ')' :: u) = some (x.followed (')' :: u)) := by
  by_cases hopen : c = '['
  · subst hopen
    exact classStep_open_append h hx u
  by_cases hclose : c = ']'
  · subst hclose
    exact classStep_close_append h u
  by_cases hoperator : c ∈ ['&', '-', '~'] ∧ s.head? = some c
  · obtain ⟨hc, hhead⟩ := hoperator
    obtain ⟨t, rfl⟩ := List.head?_eq_some_iff.1 hhead
    exact classStep_operator_append hc h u
  · exact classStep_item_append hopen hclose (fun hc hhead => hoperator ⟨hc, hhead⟩) h hx u

end

/-- Classes in brackets close by themselves, so a closing parenthesis behind them changes nothing.
-/
theorem readBrackets_append {flags : Flags} {bracket : Bracket} {outer : List Bracket}
    {cs : CharSet} {height : Nat} (h : readBrackets flags bracket outer s = some (cs, height, r))
    (u : Text) :
    readBrackets flags bracket outer (s ++ ')' :: u) = some (cs, height, r ++ ')' :: u) := by
  fun_induction readBrackets flags bracket outer s with
  | case1 | case2 | case5 => cases h
  | case3 bracket outer s c t hskip cs height rest hstep =>
    have hclosed : ∀ inner outer, ClassStep.closed cs height rest ≠ .within inner outer [] := by
      rintro _ _ ⟨⟩
    cases h
    rw [readBrackets, skipSpace_append hskip]
    simp only
    rw [classStep_append hstep hclosed]
    rfl
  | case4 bracket outer s c t hskip b' outer' rest hstep hlt ih =>
    have hrest : rest ≠ [] := by
      rintro rfl
      rw [readBrackets] at h
      cases h
    have hwithin : ∀ inner outer, ClassStep.within b' outer' rest ≠ .within inner outer [] := by
      rintro _ _ ⟨⟩
      exact hrest rfl
    rw [readBrackets, skipSpace_append hskip]
    simp only
    rw [classStep_append hstep hwithin]
    simp only [ClassStep.followed]
    rw [if_pos (by simpa using hlt)]
    exact ih h

/-- A class closes by itself, so a closing parenthesis behind it changes nothing. -/
theorem readClass_append {flags : Flags} {cs : CharSet} {height : Nat}
    (h : readClass flags s = some (cs, height, r)) (u : Text) :
    readClass flags (s ++ ')' :: u) = some (cs, height, r ++ ')' :: u) := by
  unfold readClass at h ⊢
  have hleft : (Bracket.opened flags s).2 ≠ [] := by
    intro hnil
    simp only [hnil] at h
    rw [readBrackets] at h
    cases h
  rw [opened_append rfl hleft]
  exact readBrackets_append h u

end

end NestedRouting.Regex
