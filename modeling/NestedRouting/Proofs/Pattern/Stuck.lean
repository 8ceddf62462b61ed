import NestedRouting.Proofs.Pattern.Grammar

/-!
# Where the reading of lexemes gets stuck

Reading takes lexemes off the front and looks at one more: what it takes stays the same if others
follow, as long as the first of them is the same, or is one that ends braces or the pattern
(`Takes`). So where reading fails, it is stuck at one lexeme. It fails there whatever follows, and
with the lexeme that it expects in its place the pattern could have ended (`exists_stuck`).
-/

namespace NestedRouting

/-- Whether lexemes can follow in place of others without a change to what stands before them: the
first is the same, or it ends braces or the pattern. -/
def Follows (rest ts : List Located) : Prop :=
  ∀ y, ts.head? = some y → y.lexeme = .finish ∨ y.lexeme = .closeBrace ∨ rest.head? = some y

/-- A reading takes lexemes off the front up to `rest`, and so it does with others that follow. -/
def Takes {β : Type} (read : List Located → β) (xs rest : List Located) (out : List Located → β) :
    Prop :=
  ∃ ws, xs = ws ++ rest ∧ ∀ ts, Follows rest ts → read (ws ++ ts) = out ts

/-- The lexemes by which a pattern can end where a lexeme of a kind is expected. -/
def LexemeKind.closing? : LexemeKind → Option (List Lexeme)
  | closeBrace => some [.closeBrace]
  | finish => some []
  | _ => none

/-- The reading that started with a draft is stuck at the lexeme `x` behind others. -/
structure Stuck (d : Draft) (before : List Located) (x : Located) (expected : LexemeKind) :
    Prop where
  kind_ne : x.lexeme.kind ≠ expected
  /-- No pattern goes on like this. -/
  fails : ∀ rest, parseFrom d (before ++ x :: rest) =
    .error (.unexpected x.lexeme.kind x.index expected)
  /-- A pattern goes on as expected. -/
  closes : ∃ closing, expected.closing? = some closing ∧
    ∀ ts, lexemesOf ts = closing ++ [.finish] → ∃ tokens, parseFrom d (before ++ ts) = .ok tokens

section
variable {P : Lexeme → Prop} {d d' : Draft} {xs ws rest ts before : List Located} {x : Located}
  {slot : Slot} {expected : LexemeKind} {e : SyntaxError}

/-! ## What is taken off the front -/

/-- Lexemes of which the first is the same can follow in place of others. -/
theorem follows_of_head?_eq (h : ts.head? = rest.head?) : Follows rest ts :=
  fun _ hy => .inr (.inr (h.symm.trans hy))

/-- What can follow in place of others can follow behind the same lexemes. -/
theorem Follows.append (h : Follows rest ts) (ws : List Located) :
    Follows (ws ++ rest) (ws ++ ts) := by
  cases ws with
  | nil => exact h
  | cons => exact follows_of_head?_eq rfl

/-- Lexemes that end a pattern follow in place of any others. -/
theorem follows_closing {closing : List Lexeme} (hclosing : expected.closing? = some closing)
    (h : lexemesOf ts = closing ++ [.finish]) : Follows rest ts := by
  intro y hy
  obtain ⟨ts, rfl⟩ := List.head?_eq_some_iff.1 hy
  cases expected <;> cases hclosing
  · exact .inr (.inl (List.cons.inj h).1)
  · exact .inl (List.cons.inj h).1

/-- What holds of lexemes that follow: none, the end of braces or of the pattern, or the lexeme that
stood there before. -/
@[elab_as_elim]
theorem Follows.elim {motive : List Located → Prop} (h : Follows rest ts) (nil : motive [])
    (closes : ∀ i ts, motive (⟨i, .closeBrace⟩ :: ts)) (ends : ∀ i ts, motive (⟨i, .finish⟩ :: ts))
    (same : ∀ i y rest' ts, rest = ⟨i, y⟩ :: rest' → motive (⟨i, y⟩ :: ts)) : motive ts := by
  match ts with
  | [] => exact nil
  | ⟨i, y⟩ :: ts =>
    obtain rfl | rfl | hy := h _ rfl
    · exact ends i ts
    · exact closes i ts
    · obtain ⟨rest', hrest⟩ := List.head?_eq_some_iff.1 hy
      exact same i y rest' ts hrest

/-- A parameter is taken off the front, whatever can follow. -/
theorem takes_takeParameter (h : takeParameter xs = some (slot, rest)) :
    Takes takeParameter xs rest fun ts => some (slot, ts) := by
  unfold takeParameter at h
  split at h
  · cases h
    exact ⟨[_, _], rfl, fun _ _ => rfl⟩
  · next i n xs hgroup =>
    cases h
    refine ⟨[⟨i, .name n⟩], rfl, fun ts hts => ?_⟩
    refine hts.elim rfl (fun _ _ => rfl) (fun _ _ => rfl) fun j y rest' ts hrest => ?_
    cases y with
    | group body => exact absurd hrest (hgroup j body rest')
    | _ => rfl
  · cases h
    exact ⟨[_], rfl, fun _ _ => rfl⟩
  · cases h

/-- Where no parameter is, lexemes that follow in place of others make none. -/
theorem takeParameter_follows (h : takeParameter xs = none) (hts : Follows xs ts) :
    takeParameter ts = none := by
  refine hts.elim rfl (fun _ _ => rfl) (fun _ _ => rfl) fun i y rest ts hrest => ?_
  subst hrest
  cases y with
  | name n =>
    unfold takeParameter at h
    split at h
    case h_4 hname _ => exact absurd rfl (hname i n rest)
    all_goals cases h
  | group => cases h
  | _ => rfl

/-- A parameter is a slot. -/
theorem takeSlot_of_takeParameter {p : Slot × List Located} (h : takeParameter xs = some p) :
    takeSlot xs = some p := by
  unfold takeSlot
  split
  · cases h
  · exact h

/-- Where no slot is, lexemes that follow in place of others make none. -/
theorem takeSlot_follows (h : takeSlot xs = none) (hts : Follows xs ts) : takeSlot ts = none := by
  refine hts.elim rfl (fun _ _ => rfl) (fun _ _ => rfl) fun i y rest ts hrest => ?_
  rw [hrest, ← Option.isNone_iff_eq_none, ← Option.isSome_eq_false_iff, isSome_takeSlot_cons] at h
  rw [← Option.isNone_iff_eq_none, ← Option.isSome_eq_false_iff, isSome_takeSlot_cons]
  exact h

/-- A slot is taken off the front, whatever can follow. -/
theorem takes_takeSlot (h : takeSlot xs = some (slot, rest)) :
    Takes takeSlot xs rest fun ts => some (slot, ts) := by
  unfold takeSlot at h
  split at h
  · cases h
    exact ⟨[_], rfl, fun _ _ => rfl⟩
  · obtain ⟨ws, rfl, hts⟩ := takes_takeParameter h
    exact ⟨ws, rfl, fun ts h => takeSlot_of_takeParameter (hts ts h)⟩

/-- A modifier, or none, is taken off the front, whatever can follow. -/
theorem takes_takeModifier {m : Modifier} (h : takeModifier xs = (m, rest)) :
    Takes takeModifier xs rest fun ts => (m, ts) := by
  unfold takeModifier at h
  split at h
  · cases h
    exact ⟨[_], rfl, fun _ _ => rfl⟩
  · next hquantifier =>
    cases h
    refine ⟨[], rfl, fun ts hts => ?_⟩
    refine hts.elim rfl (fun _ _ => rfl) (fun _ _ => rfl) fun i y rest ts hrest => ?_
    cases y with
    | quantifier q => exact absurd hrest (hquantifier i q rest)
    | _ => rfl

/-- A text is taken off the front, whatever can follow. -/
theorem takes_takeText {t : Text} (h : takeText xs = (t, rest)) :
    Takes takeText xs rest fun ts => (t, ts) := by
  fun_induction takeText xs generalizing t with
  | case1 i c xs s rest' hs ih | case2 i c xs s rest' hs ih =>
    cases h
    obtain ⟨ws, rfl, hts⟩ := ih hs
    refine ⟨_ :: ws, rfl, fun ts h => ?_⟩
    rw [List.cons_append, takeText, hts ts h]
  | case3 xs hchar hescaped =>
    cases h
    refine ⟨[], rfl, fun ts hts => ?_⟩
    refine hts.elim rfl (fun _ _ => rfl) (fun _ _ => rfl) fun i y rest ts hrest => ?_
    cases y with
    | char c => exact absurd hrest (hchar i c rest)
    | escaped c => exact absurd hrest (hescaped i c rest)
    | _ => rfl

/-- A slot and its modifier are taken off the front, whatever can follow. -/
theorem takes_finishSlot {lead : Text} (h : finishSlot d slot lead xs = (d', rest)) :
    Takes (finishSlot d slot lead) xs rest fun ts => (d', ts) := by
  obtain ⟨m, rest', hm⟩ : ∃ m rest', takeModifier xs = (m, rest') := ⟨_, _, rfl⟩
  cases slot with
  | wildcard =>
    cases h
    exact ⟨[], rfl, fun _ _ => rfl⟩
  | named | positional =>
    simp only [finishSlot, hm] at h
    cases h
    obtain ⟨ws, hws, hts⟩ := takes_takeModifier hm
    refine ⟨ws, hws, fun ts h => ?_⟩
    simp only [finishSlot, hts ts h]

/-- Behind a lexeme that is not the end of the pattern the end is still to come. -/
theorem Ended.tail (hend : Ended P (x :: xs)) (hx : x.lexeme ≠ .finish) : Ended P xs := by
  cases hend with
  | finish => exact absurd rfl hx
  | cons _ _ _ h => exact h

/-- Behind a text the end of the pattern is still to come. -/
theorem Ended.of_takeText {t : Text} (hend : Ended P xs) (h : takeText xs = (t, rest)) :
    Ended P rest := by
  obtain ⟨t', rest', hrest, htake⟩ := takeText_ended hend
  have htake := htake 0
  rw [Located.map_moved_zero, Located.map_moved_zero, h] at htake
  cases htake
  exact hrest

/-- Behind a parameter the end of the pattern is still to come. -/
theorem Ended.of_takeParameter (hend : Ended P xs) (h : takeParameter xs = some (slot, rest)) :
    Ended P rest := by
  rcases takeParameter_ended hend with hnone | ⟨slot', rest', -, hrest, htake⟩
  · have hnone := hnone 0
    rw [Located.map_moved_zero, h] at hnone
    cases hnone
  · have htake := htake 0
    rw [Located.map_moved_zero, Located.map_moved_zero, h] at htake
    cases htake
    exact hrest

/-- What stands in braces is taken up to where they should close. -/
theorem takes_readBraces (hend : Ended P xs) :
    ∃ (lead : Text) (slot : Option Slot) (tail : Text) (rest : List Located), Ended P rest ∧
      ∀ d, Takes (readBraces d) xs rest (closeBraces d lead slot tail) := by
  obtain ⟨lead, xs₁, hlead⟩ : ∃ lead xs₁, takeText xs = (lead, xs₁) := ⟨_, _, rfl⟩
  have hend₁ := hend.of_takeText hlead
  obtain ⟨ws₁, rfl, h₁⟩ := takes_takeText hlead
  -- the slot, if there is one, and the lexemes behind it
  obtain ⟨slot, xs₂, ws₂, rfl, hend₂, hslot⟩ : ∃ (slot : Option Slot) (xs₂ ws₂ : List Located),
      xs₁ = ws₂ ++ xs₂ ∧ Ended P xs₂ ∧ ∀ ts, Follows xs₂ ts →
        (takeParameter (ws₂ ++ ts)).map Prod.fst = slot ∧
          ((takeParameter (ws₂ ++ ts)).map Prod.snd).getD (ws₂ ++ ts) = ts := by
    cases hp : takeParameter xs₁ with
    | none =>
      refine ⟨none, xs₁, [], rfl, hend₁, fun ts hts => ?_⟩
      rw [List.nil_append, takeParameter_follows hp hts]
      exact ⟨rfl, rfl⟩
    | some p =>
      obtain ⟨slot, xs₂⟩ := p
      obtain ⟨ws₂, h₂, hts⟩ := takes_takeParameter hp
      refine ⟨some slot, xs₂, ws₂, h₂, hend₁.of_takeParameter hp, fun ts h => ?_⟩
      rw [hts ts h]
      exact ⟨rfl, rfl⟩
  obtain ⟨tail, xs₃, htail⟩ : ∃ tail xs₃, takeText xs₂ = (tail, xs₃) := ⟨_, _, rfl⟩
  have hend₃ := hend₂.of_takeText htail
  obtain ⟨ws₃, rfl, h₃⟩ := takes_takeText htail
  refine ⟨lead, slot, tail, xs₃, hend₃, fun d =>
    ⟨ws₁ ++ (ws₂ ++ ws₃), ?_, fun ts hts => ?_⟩⟩
  · simp only [List.append_assoc]
  · have hts₃ := hts.append ws₃
    simp only [List.append_assoc]
    exact readBraces_eq (h₁ _ (hts₃.append ws₂)) (hslot _ hts₃).1 (hslot _ hts₃).2 (h₃ ts hts)

/-- Closing braces and a modifier are taken off the front, whatever can follow. -/
theorem takes_closeBraces {lead tail : Text} {slot : Option Slot}
    (h : closeBraces d lead slot tail xs = .ok (d', rest)) :
    Takes (closeBraces d lead slot tail) xs rest fun ts => .ok (d', ts) := by
  unfold closeBraces at h
  split at h
  · next i xs₁ =>
    obtain ⟨m, rest', hm⟩ : ∃ m rest', takeModifier xs₁ = (m, rest') := ⟨_, _, rfl⟩
    simp only [hm] at h
    obtain rfl : rest' = rest := by
      cases slot <;> cases h <;> rfl
    obtain ⟨ws, rfl, hts⟩ := takes_takeModifier hm
    refine ⟨⟨i, .closeBrace⟩ :: ws, rfl, fun ts hfollows => ?_⟩
    simp only [List.cons_append, closeBraces, hts ts hfollows]
    cases slot <;> cases h <;> rfl
  · cases h

/-- A character is the lead of a key if a slot follows it, or it goes to the literal. -/
theorem step_char (d : Draft) (i : Nat) (c : Char) (xs : List Located) :
    step d (⟨i, .char c⟩ :: xs) =
      match takeSlot xs with
      | some (slot, rest) =>
        if isLead c then .ok (finishSlot d slot [c] rest)
        else .ok (finishSlot (d.pushChar c) slot [] rest)
      | none => .ok (d.pushChar c, xs) :=
  rfl

/-- A step takes lexemes off the front. -/
theorem takes_step (hend : Ended P xs) (h : step d xs = .ok (d', rest)) :
    Takes (step d) xs rest fun ts => .ok (d', ts) := by
  unfold step at h
  split at h
  · next slot xs₁ hslot =>
    obtain ⟨ws, rfl, hts⟩ := takes_takeSlot hslot
    obtain ⟨ws₁, rfl, hfinish⟩ := takes_finishSlot (Except.ok.inj h)
    refine ⟨ws ++ ws₁, (List.append_assoc ws ws₁ rest).symm, fun ts h => ?_⟩
    rw [List.append_assoc, step_slot (hts _ (h.append ws₁)), hfinish ts h]
  · split at h
    · next i c xs₁ _ =>
      split at h
      · next slot xs₂ hslot =>
        obtain ⟨ws, rfl, hts⟩ := takes_takeSlot hslot
        split at h
        · next hc =>
          obtain ⟨ws₁, rfl, hfinish⟩ := takes_finishSlot (Except.ok.inj h)
          refine ⟨⟨i, .char c⟩ :: (ws ++ ws₁), by simp, fun ts h => ?_⟩
          rw [List.cons_append, List.append_assoc, step_char, hts _ (h.append ws₁)]
          simp only [hc, ↓reduceIte, hfinish ts h]
        · next hc =>
          obtain ⟨ws₁, rfl, hfinish⟩ := takes_finishSlot (Except.ok.inj h)
          refine ⟨⟨i, .char c⟩ :: (ws ++ ws₁), by simp, fun ts h => ?_⟩
          rw [List.cons_append, List.append_assoc, step_char, hts _ (h.append ws₁)]
          simp only [hc, Bool.false_eq_true, ↓reduceIte, hfinish ts h]
      · next hnone =>
        cases h
        refine ⟨[_], rfl, fun ts h => ?_⟩
        rw [List.singleton_append, step_char, takeSlot_follows hnone h]
    · next i c _ _ =>
      cases h
      exact ⟨[_], rfl, fun _ _ => rfl⟩
    · next i xs₁ _ =>
      obtain ⟨lead, slot, tail, xs₂, -, hread⟩ := takes_readBraces (hend.tail nofun)
      obtain ⟨ws, rfl, hts⟩ := hread d
      have hclose : closeBraces d lead slot tail xs₂ = .ok (d', rest) :=
        (hts xs₂ (follows_of_head?_eq rfl)).symm.trans h
      obtain ⟨ws₁, rfl, hts₁⟩ := takes_closeBraces hclose
      refine ⟨⟨i, .openBrace⟩ :: (ws ++ ws₁), by simp, fun ts h => ?_⟩
      rw [List.cons_append, List.append_assoc]
      exact (hts _ (h.append ws₁)).trans (hts₁ ts h)
    · cases h
      exact ⟨[_], rfl, fun _ _ => rfl⟩
    · cases h

/-! ## Where reading fails -/

/-- Where no brace closes that should, the lexeme there is unexpected. -/
theorem closeBraces_of_ne (hx : x.lexeme ≠ .closeBrace) (d : Draft) (lead : Text)
    (slot : Option Slot) (tail : Text) (rest : List Located) :
    closeBraces d lead slot tail (x :: rest) =
      .error (.unexpected x.lexeme.kind x.index .closeBrace) := by
  unfold closeBraces
  split
  · next i xs hcons =>
    cases hcons
    exact absurd rfl hx
  · rfl

theorem kind_eq_finish_iff {y : Lexeme} : y.kind = .finish ↔ y = .finish := by
  cases y <;> simp [Lexeme.kind]

theorem kind_eq_closeBrace_iff {y : Lexeme} : y.kind = .closeBrace ↔ y = .closeBrace := by
  cases y <;> simp [Lexeme.kind]

/-- Reading is stuck at a lexeme with which no step can start; the pattern could have ended there. -/
theorem stuck_at_front {i : Nat} {y : Lexeme} (hy : y ≠ .finish)
    (hstep : ∀ rest, step d (⟨i, y⟩ :: rest) = .error (.unexpected y.kind i .finish)) :
    Stuck d [] ⟨i, y⟩ .finish where
  kind_ne := fun hkind => hy (kind_eq_finish_iff.1 hkind)
  fails rest := parseFrom_of_error (List.cons_ne_nil _ _) (hstep rest)
  closes := ⟨[], rfl, fun _ hts => ⟨_, parseFrom_of_reading .finish hts⟩⟩

/-- Reading is stuck at a lexeme that stands where braces should close. -/
theorem stuck_in_braces {lead tail : Text} {slot : Option Slot} (hws : ws ≠ [])
    (hstep : ∀ ts, Follows (x :: rest) ts → step d (ws ++ ts) = closeBraces d lead slot tail ts)
    (hx : x.lexeme ≠ .closeBrace) : Stuck d ws x .closeBrace where
  kind_ne := fun hkind => hx (kind_eq_closeBrace_iff.1 hkind)
  fails rest' := by
    refine parseFrom_of_error (List.append_ne_nil_of_left_ne_nil hws _) ?_
    rw [hstep (x :: rest') (follows_of_head?_eq rfl), closeBraces_of_ne hx]
  closes := by
    refine ⟨[.closeBrace], rfl, fun ts hts => ?_⟩
    have hclosing : LexemeKind.closeBrace.closing? = some [.closeBrace] := rfl
    have hends : Modifier.EndsBefore none [.finish] := nofun
    have hclosed := hstep ts (follows_closing hclosing hts)
    obtain ⟨rest', hrest', hclose⟩ := closeBraces_of_lexemes slot hends hts
    rw [hclose] at hclosed
    exact ⟨_, (parseFrom_of_ok hclosed).trans (parseFrom_of_reading .finish hrest')⟩

/-- A step that fails is stuck. -/
theorem exists_stuck_of_step (hend : Ended P xs) (h : step d xs = .error e) :
    ∃ before x rest expected, xs = before ++ x :: rest ∧ Stuck d before x expected := by
  cases hend with
  | finish i => cases h
  | @cons i y xs _ _ hend =>
    cases y with
    | finish | escaped | group => cases h
    | closeBrace => exact ⟨[], _, xs, .finish, rfl, stuck_at_front nofun fun _ => rfl⟩
    | quantifier q =>
      cases q with
      | zeroOrMore => cases h
      | optional | oneOrMore =>
        exact ⟨[], _, xs, .finish, rfl, stuck_at_front nofun fun _ => rfl⟩
    | name n =>
      obtain ⟨p, hp⟩ := Option.isSome_iff_exists.1 (isSome_takeSlot_cons i (.name n) xs)
      rw [step_slot hp] at h
      cases h
    | char c =>
      rw [step_char] at h
      split at h
      · split at h <;> cases h
      · cases h
    | openBrace =>
      obtain ⟨lead, slot, tail, rest, hrest, htakes⟩ := takes_readBraces hend
      obtain ⟨ws, rfl, hts⟩ := htakes d
      have hclose : closeBraces d lead slot tail rest = .error e :=
        (hts rest (follows_of_head?_eq rfl)).symm.trans h
      cases rest with
      | nil => exact absurd rfl hrest.ne_nil
      | cons x rest =>
        refine ⟨⟨i, .openBrace⟩ :: ws, x, rest, .closeBrace, rfl,
          stuck_in_braces (List.cons_ne_nil _ _) hts ?_⟩
        obtain ⟨j, y⟩ := x
        rintro rfl
        cases slot <;> cases hclose

/-- What is taken off the front does not matter to the reading that is stuck behind it. -/
theorem Stuck.behind (htake : ∀ ts, Follows (before ++ x :: rest) ts → step d (ws ++ ts) = .ok (d', ts))
    (h : Stuck d' before x expected) : Stuck d (ws ++ before) x expected where
  kind_ne := h.kind_ne
  fails rest' := by
    rw [List.append_assoc, parseFrom_of_ok (htake _ ?_)]
    · exact h.fails rest'
    · cases before <;> exact follows_of_head?_eq rfl
  closes := by
    obtain ⟨closing, hclosing, hcloses⟩ := h.closes
    refine ⟨closing, hclosing, fun ts hts => ?_⟩
    rw [List.append_assoc, parseFrom_of_ok (htake _ ?_)]
    · exact hcloses ts hts
    · exact Follows.append (follows_closing hclosing hts) before

/-- Reading that fails is stuck. -/
theorem exists_stuck (hend : Ended P xs) (h : parseFrom d xs = .error e) :
    ∃ before x rest expected, xs = before ++ x :: rest ∧ Stuck d before x expected := by
  induction d, xs using parseFrom.induct with
  | case1 => exact absurd rfl hend.ne_nil
  | case2 d x xs e herror => exact exists_stuck_of_step hend herror
  | case3 d x xs d' rest hstep _ ih =>
    rw [parseFrom_of_ok hstep] at h
    rcases hend.of_step hstep with ⟨i, hfinish⟩ | hrest
    · rw [hfinish] at hstep
      cases hstep
      rw [parseFrom_nil] at h
      cases h
    · obtain ⟨before, y, rest', expected, rfl, hstuck⟩ := ih hrest h
      obtain ⟨ws, hws, hts⟩ := takes_step hend hstep
      refine ⟨ws ++ before, y, rest', expected, ?_, hstuck.behind hts⟩
      rw [hws, List.append_assoc]

end

end NestedRouting
