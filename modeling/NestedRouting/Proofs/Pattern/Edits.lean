import NestedRouting.Pattern.Parse
import NestedRouting.Proofs.Pattern.Tiling

/-!
# Reading as edits

A step of the reading of lexemes edits a draft. Which edits it does and which lexemes it leaves
depends neither on where the lexemes stand nor on what has been read before (`uniform_step`), and
what it leaves has an end again, if the lexemes had one (`Ended`).
-/

namespace NestedRouting

/-! ## Lexemes with an end -/

/-- Lexemes that satisfy `P`, with one end, at the end. -/
inductive Ended (P : Lexeme → Prop) : List Located → Prop
  | finish (i : Nat) : Ended P [⟨i, .finish⟩]
  | cons (i : Nat) {x : Lexeme} {xs : List Located} : x ≠ .finish → P x → Ended P xs →
    Ended P (⟨i, x⟩ :: xs)

/-- What the lexeme at the front of a text that starts with a character can be. -/
inductive Front : Char → Lexeme → Prop
  | quantifier (q : Quantifier) : Front q.symbol (.quantifier q)
  | escaped (c : Char) : Front '\\' (.escaped c)
  | openBrace : Front '\x7b' .openBrace
  | closeBrace : Front '\x7d' .closeBrace
  | name (n : Text) : Front ':' (.name n)
  | group (body : Text) : Front '(' (.group body)
  | char {c : Char} : c ≠ ':' → c ≠ '(' → c ≠ '*' → Front c (.char c)

/-- The first character of a lexeme tells of which kind it can be. -/
theorem front_of_takeLexeme {i : Nat} {c : Char} {s rest : Text} {x : Lexeme}
    (h : takeLexeme i c s = .ok (x, rest)) : Front c x := by
  obtain ⟨hs, hfits⟩ := takeLexeme_eq_ok_iff.1 h
  cases x with
  | finish => cases hfits
  | quantifier q =>
    cases hs
    exact .quantifier q
  | escaped d =>
    cases hs
    exact .escaped d
  | openBrace =>
    cases hs
    exact .openBrace
  | closeBrace =>
    cases hs
    exact .closeBrace
  | name n =>
    cases hs
    exact .name n
  | group body =>
    cases hs
    exact .group body
  | char d =>
    cases hs
    obtain ⟨hquantifier, -, -, -, hcolon, hopen⟩ := isMark_eq_false_iff.1 hfits
    refine .char hcolon hopen ?_
    rintro rfl
    cases hquantifier

variable {P : Lexeme → Prop} {xs : List Located}

/-- Lexemes come to an end. -/
theorem ended_lexFrom {i : Nat} {s : Text} (h : lexFrom i s = .ok xs)
    (hP : ∀ x ∈ xs, P x.lexeme) : Ended P xs := by
  obtain ⟨ys, htiles, rfl⟩ := lexFrom_eq_ok_iff.1 h
  have hys : ∀ y ∈ ys, y ≠ .finish := by
    rintro y hy rfl
    obtain ⟨_, hfits⟩ := htiles.fits _ hy
    exact hfits
  clear h htiles
  induction ys generalizing i with
  | nil => exact .finish i
  | cons y ys ih =>
    exact .cons i (hys y (.head _)) (hP _ (.head _))
      (ih (fun x hx => hP x (.tail _ hx)) fun x hx => hys x (.tail _ hx))

/-- Lexemes with an end are not empty. -/
theorem Ended.ne_nil (h : Ended P xs) : xs ≠ [] := by
  cases h <;> nofun

/-- Whether the group of a slot, if it has one, satisfies `P`. -/
def Slot.Admits (P : Lexeme → Prop) : Slot → Prop
  | named _ pattern => ∀ body, pattern = some body → P (.group body)
  | positional body => P (.group body)
  | wildcard => True

section

/-- A parameter is taken wherever the lexemes stand, and the end is still to come. -/
theorem takeParameter_ended (h : Ended P xs) :
    (∀ k, takeParameter (xs.map (.moved k)) = none) ∨
      ∃ slot rest, slot.Admits P ∧ Ended P rest ∧
        ∀ k, takeParameter (xs.map (.moved k)) = some (slot, rest.map (.moved k)) := by
  cases h with
  | finish => exact .inl fun _ => rfl
  | @cons i x xs _ hx h =>
    cases x with
    | group body => exact .inr ⟨.positional body, xs, hx, h, fun _ => rfl⟩
    | name n =>
      cases h with
      | finish j => exact .inr ⟨.named n none, _, nofun, .finish j, fun _ => rfl⟩
      | @cons j y ys hfinish hy h =>
        cases y with
        | group body =>
          refine .inr ⟨.named n (some body), ys, fun b hb => ?_, h, fun _ => rfl⟩
          exact Option.some.inj hb ▸ hy
        | _ => exact .inr ⟨.named n none, _, nofun, .cons j hfinish hy h, fun _ => rfl⟩
    | _ => exact .inl fun _ => rfl

/-- A slot is taken wherever the lexemes stand, and the end is still to come. -/
theorem takeSlot_ended (h : Ended P xs) :
    (∀ k, takeSlot (xs.map (.moved k)) = none) ∨
      ∃ slot rest, slot.Admits P ∧ Ended P rest ∧
        ∀ k, takeSlot (xs.map (.moved k)) = some (slot, rest.map (.moved k)) := by
  have hparameter := takeParameter_ended h
  cases h with
  | finish => exact .inl fun _ => rfl
  | @cons i x xs _ _ h =>
    cases x with
    | quantifier q =>
      cases q with
      | zeroOrMore => exact .inr ⟨.wildcard, xs, trivial, h, fun _ => rfl⟩
      | _ => exact .inl fun _ => rfl
    | _ => exact hparameter

/-- A modifier is taken wherever the lexemes stand, and the end is still to come. -/
theorem takeModifier_ended (h : Ended P xs) : ∃ m rest, Ended P rest ∧
    ∀ k, takeModifier (xs.map (.moved k)) = (m, rest.map (.moved k)) := by
  cases h with
  | finish i => exact ⟨none, _, .finish i, fun _ => rfl⟩
  | @cons i x xs hfinish hx h =>
    cases x with
    | quantifier q => exact ⟨some q, xs, h, fun _ => rfl⟩
    | _ => exact ⟨none, _, .cons i hfinish hx h, fun _ => rfl⟩

/-- A text is taken wherever the lexemes stand, and the end is still to come. -/
theorem takeText_ended (h : Ended P xs) : ∃ t rest, Ended P rest ∧
    ∀ k, takeText (xs.map (.moved k)) = (t, rest.map (.moved k)) := by
  induction h with
  | finish i => exact ⟨[], _, .finish i, fun _ => rfl⟩
  | @cons i x xs hfinish hx h ih =>
    obtain ⟨t, rest, hrest, htake⟩ := ih
    cases x with
    | char c | escaped c =>
      refine ⟨c :: t, rest, hrest, fun k => ?_⟩
      rw [List.map_cons, Located.moved, takeText, htake]
    | _ => exact ⟨[], _, .cons i hfinish hx h, fun _ => rfl⟩

/-! ## Edits -/

/-- What a step of the reading does to a draft, before the end. -/
inductive Edit
  | char (c : Char)
  | group (text : Text) (modifier : Modifier)
  | slot (slot : Slot) (lead tail : Text) (modifier : Modifier)

/-- Whether the group of the slot that an edit adds, if there is one, satisfies `P`. -/
def Edit.Admits (P : Lexeme → Prop) : Edit → Prop
  | char _ | group _ _ => True
  | slot s _ _ _ => s.Admits P

/-- The draft behind an edit. -/
def Draft.edit (d : Draft) : Edit → Draft
  | .char c => d.pushChar c
  | .group text modifier => d.pushToken (.group text modifier)
  | .slot slot lead tail modifier => d.pushSlot slot lead tail modifier

/-- A way to read lexemes, given how far right they stand and what has been read, that always fails
with the same error or does the same edits and leaves the same lexemes. -/
inductive Uniform (P : Lexeme → Prop)
    (read : Nat → Draft → Except SyntaxError (Draft × List Located)) : Prop
  | error (e : SyntaxError) : (∀ k d, read k d = .error (e.moved k)) → Uniform P read
  | edits (es : List Edit) (rest : List Located) : (∀ e ∈ es, e.Admits P) → Ended P rest →
    (∀ k d, read k d = .ok (es.foldl Draft.edit d, rest.map (.moved k))) → Uniform P read

/-- A slot that is not in braces is one edit, with its modifier. -/
theorem finishSlot_ended (h : Ended P xs) (slot : Slot) : ∃ m rest, Ended P rest ∧
    ∀ k d lead, finishSlot d slot lead (xs.map (.moved k)) =
      (d.pushSlot slot lead [] m, rest.map (.moved k)) := by
  obtain ⟨m, rest, hrest, hm⟩ := takeModifier_ended h
  cases slot with
  | wildcard => exact ⟨none, xs, h, fun _ _ _ => rfl⟩
  | named | positional =>
    refine ⟨m, rest, hrest, fun k d lead => ?_⟩
    simp only [finishSlot, hm]

/-- The end of a group in braces, behind the texts and the slot inside it. -/
def closeBraces (d : Draft) (lead : Text) (slot : Option Slot) (tail : Text) :
    List Located → Except SyntaxError (Draft × List Located)
  | ⟨_, .closeBrace⟩ :: xs =>
    let (modifier, rest) := takeModifier xs
    match slot with
    | some slot => .ok (d.pushSlot slot lead tail modifier, rest)
    | none => .ok (d.pushToken (.group (lead ++ tail) modifier), rest)
  | xs => .error (unexpectedAt .closeBrace xs)

/-- What stands in braces, in parts. -/
theorem readBraces_eq {d : Draft} {lead tail : Text} {slot : Option Slot}
    {xs₁ xs₂ xs₃ : List Located} (h₁ : takeText xs = (lead, xs₁))
    (hslot : (takeParameter xs₁).map Prod.fst = slot)
    (h₂ : ((takeParameter xs₁).map Prod.snd).getD xs₁ = xs₂)
    (h₃ : takeText xs₂ = (tail, xs₃)) : readBraces d xs = closeBraces d lead slot tail xs₃ := by
  subst hslot h₂
  cases hp : takeParameter xs₁ with
  | none =>
    rw [hp] at h₃
    simp only [Option.map_none, Option.getD_none] at h₃
    simp only [readBraces, h₁, hp, h₃]
    rfl
  | some p =>
    rw [hp] at h₃
    simp only [Option.map_some, Option.getD_some] at h₃
    simp only [readBraces, h₁, hp, h₃]
    rfl

/-- The end of braces is one edit, wherever it stands, or an error. -/
theorem uniform_closeBraces (h : Ended P xs) {slot : Option Slot}
    (hslot : ∀ s, slot = some s → s.Admits P) (lead tail : Text) :
    Uniform P fun k d => closeBraces d lead slot tail (xs.map (.moved k)) := by
  cases h with
  | finish i => exact .error (.unexpected .finish i .closeBrace) fun _ _ => rfl
  | @cons i x xs _ _ h =>
    cases x with
    | closeBrace =>
      obtain ⟨m, rest, hrest, hm⟩ := takeModifier_ended h
      cases slot with
      | none =>
        refine .edits [.group (lead ++ tail) m] rest (by simp [Edit.Admits]) hrest fun k d => ?_
        simp only [List.map_cons, Located.moved, closeBraces]
        rw [hm]
        rfl
      | some slot =>
        refine .edits [.slot slot lead tail m] rest (by simp [Edit.Admits, hslot]) hrest
          fun k d => ?_
        simp only [List.map_cons, Located.moved, closeBraces]
        rw [hm]
        rfl
    | _ => exact .error (.unexpected _ i .closeBrace) fun _ _ => rfl

/-- The reading of what follows an opening brace. -/
theorem uniform_readBraces (h : Ended P xs) :
    Uniform P fun k d => readBraces d (xs.map (.moved k)) := by
  obtain ⟨lead, xs₁, h₁, hlead⟩ := takeText_ended h
  -- the slot, if there is one, and the lexemes behind it
  obtain ⟨slot, xs₂, hslot, h₂, hx₂⟩ :
      ∃ (slot : Option Slot) (xs₂ : List Located), (∀ s, slot = some s → s.Admits P) ∧
        Ended P xs₂ ∧ ∀ k, (takeParameter (xs₁.map (.moved k))).map Prod.fst = slot ∧
          ((takeParameter (xs₁.map (.moved k))).map Prod.snd).getD (xs₁.map (.moved k)) =
            xs₂.map (.moved k) := by
    rcases takeParameter_ended h₁ with hx | ⟨slot, rest, hslot, hrest, hx⟩
    · refine ⟨none, xs₁, nofun, h₁, fun k => ?_⟩
      rw [hx]
      exact ⟨rfl, rfl⟩
    · refine ⟨some slot, rest, fun s hs => Option.some.inj hs ▸ hslot, hrest, fun k => ?_⟩
      rw [hx]
      exact ⟨rfl, rfl⟩
  obtain ⟨tail, xs₃, h₃, htail⟩ := takeText_ended h₂
  have hread : (fun k d => readBraces d (xs.map (.moved k))) =
      fun k d => closeBraces d lead slot tail (xs₃.map (.moved k)) :=
    funext fun k => funext fun d => readBraces_eq (hlead k) (hx₂ k).1 (hx₂ k).2 (htail k)
  rw [hread]
  exact uniform_closeBraces h₃ hslot lead tail

/-- A slot at the front is read as a key without a lead. -/
theorem step_slot {d : Draft} {slot : Slot} {rest : List Located}
    (h : takeSlot xs = some (slot, rest)) : step d xs = .ok (finishSlot d slot [] rest) := by
  unfold step
  simp only [h]

/-- A step of the reading comes to the end, or it is the same wherever the lexemes stand and
whatever has been read before. -/
theorem uniform_step (h : Ended P xs) :
    (∃ i, xs = [⟨i, .finish⟩]) ∨ Uniform P fun k d => step d (xs.map (.moved k)) := by
  rcases takeSlot_ended h with hnone | ⟨slot, rest, hslot, hrest, hsome⟩
  · cases h with
    | finish i => exact .inl ⟨i, rfl⟩
    | @cons i x xs hfinish hx h =>
      right
      unfold step
      simp only [hnone]
      cases x with
      | char c =>
        rcases takeSlot_ended h with hnone | ⟨slot, rest, hslot, hrest, hsome⟩
        · refine .edits [.char c] xs (by simp [Edit.Admits]) h fun k d => ?_
          simp only [List.map_cons, Located.moved, hnone]
          rfl
        · obtain ⟨m, rest', hrest', hfinish⟩ := finishSlot_ended hrest slot
          cases hc : isLead c with
          | true =>
            refine .edits [.slot slot [c] [] m] rest' (by simp [Edit.Admits, hslot]) hrest'
              fun k d => ?_
            simp only [List.map_cons, Located.moved, hsome, hc, hfinish]
            rfl
          | false =>
            refine .edits [.char c, .slot slot [] [] m] rest' (by simp [Edit.Admits, hslot]) hrest'
              fun k d => ?_
            simp only [List.map_cons, Located.moved, hsome, hc, hfinish]
            rfl
      | escaped c => exact .edits [.char c] xs (by simp [Edit.Admits]) h fun _ _ => rfl
      | openBrace => exact uniform_readBraces h
      | finish => exact absurd rfl hfinish
      | _ => exact .error (.unexpected _ i .finish) fun _ _ => rfl
  · obtain ⟨m, rest', hrest', hfinish⟩ := finishSlot_ended hrest slot
    refine .inr (.edits [.slot slot [] [] m] rest' (by simp [Edit.Admits, hslot]) hrest'
      fun k d => ?_)
    rw [step_slot (hsome k), hfinish]
    rfl

end

end NestedRouting
