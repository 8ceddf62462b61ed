import NestedRouting.Proofs.Pattern.Edits
import NestedRouting.Proofs.Pattern.Parsing

/-!
# The grammar of patterns

What a well-formed pattern looks like, as a list of lexemes. `Reading` says which edits such a list
stands for, with one constructor for each form; every list that parses is of this form
(`reading_of_parseFrom`), and every list of this form parses (`parseFrom_of_reading`).
-/

namespace NestedRouting

/-! ## Readings -/

/-- The character that a plain or an escaped character stands for. -/
def Lexeme.char? : Lexeme → Option Char
  | char c | escaped c => some c
  | _ => none

/-- Whether a plain character stays a character of its own in front of lexemes: one that can be a
lead does not stand in front of a key. -/
def Lexeme.StandsBefore (x : Lexeme) (xs : List Lexeme) : Prop :=
  ∀ c, x = .char c → isLead c = true → ∀ y, xs.head? = some y → y.opensKey = false

/-- The lexemes of a slot. -/
def Slot.lexemes : Slot → List Lexeme
  | named n none => [.name n]
  | named n (some body) => [.name n, .group body]
  | positional body => [.group body]
  | wildcard => [.quantifier .zeroOrMore]

/-- Whether a slot ends in front of lexemes: behind a name without a group there is no group. -/
def Slot.EndsBefore : Slot → List Lexeme → Prop
  | named _ none, xs => ∀ body, xs.head? ≠ some (.group body)
  | _, _ => True

/-- The lexemes of a modifier. -/
def Modifier.lexemes (m : Modifier) : List Lexeme := m.toList.map .quantifier

/-- Whether a modifier ends in front of lexemes: where there is none, no quantifier follows. -/
def Modifier.EndsBefore (m : Modifier) (xs : List Lexeme) : Prop :=
  m = none → ∀ q, xs.head? ≠ some (.quantifier q)

/-- Whether a text can be the lead of a key that is not in braces. -/
def IsBareLead (t : Text) : Prop := t = [] ∨ ∃ c, isLead c = true ∧ t = [c]

/-- The edits that a list of lexemes stands for. -/
inductive Reading : List Lexeme → List Edit → Prop
  | finish : Reading [.finish] []
  | char {x : Lexeme} {c : Char} {xs : List Lexeme} {es : List Edit} :
    x.char? = some c → x.StandsBefore xs → Reading xs es → Reading (x :: xs) (.char c :: es)
  | wildcard {lead : Text} {xs : List Lexeme} {es : List Edit} :
    IsBareLead lead → Reading xs es →
    Reading (lead.map .char ++ (Slot.wildcard.lexemes ++ xs)) (.slot .wildcard lead [] none :: es)
  | slot {slot : Slot} {lead : Text} {m : Modifier} {xs : List Lexeme} {es : List Edit} :
    slot ≠ .wildcard → IsBareLead lead → slot.EndsBefore (m.lexemes ++ xs) → m.EndsBefore xs →
    Reading xs es →
    Reading (lead.map .char ++ (slot.lexemes ++ (m.lexemes ++ xs))) (.slot slot lead [] m :: es)
  | group {ys xs : List Lexeme} {text : Text} {m : Modifier} {es : List Edit} :
    ys.map Lexeme.char? = text.map some → m.EndsBefore xs → Reading xs es →
    Reading (.openBrace :: (ys ++ .closeBrace :: (m.lexemes ++ xs))) (.group text m :: es)
  | braces {ys zs xs : List Lexeme} {slot : Slot} {lead tail : Text} {m : Modifier}
      {es : List Edit} :
    slot ≠ .wildcard → ys.map Lexeme.char? = lead.map some →
    zs.map Lexeme.char? = tail.map some → m.EndsBefore xs → Reading xs es →
    Reading (.openBrace :: (ys ++ (slot.lexemes ++ (zs ++ .closeBrace :: (m.lexemes ++ xs)))))
      (.slot slot lead tail m :: es)

/-! ### Lexemes that parse -/

section
variable {d d' : Draft} {xs rest : List Located}

/-- What is taken as a parameter are its lexemes. -/
theorem lexemes_takeParameter {slot : Slot} (h : takeParameter xs = some (slot, rest)) :
    slot ≠ .wildcard ∧ lexemesOf xs = slot.lexemes ++ lexemesOf rest ∧
      slot.EndsBefore (lexemesOf rest) := by
  unfold takeParameter at h
  split at h
  · cases h
    exact ⟨nofun, rfl, trivial⟩
  · next i n xs hgroup =>
    cases h
    refine ⟨nofun, rfl, fun body hbody => ?_⟩
    match rest, hbody with
    | ⟨j, y⟩ :: rest, hbody =>
      obtain rfl : y = .group body := Option.some.inj hbody
      exact hgroup j body rest rfl
  · cases h
    exact ⟨nofun, rfl, trivial⟩
  · cases h

/-- What is taken as a slot are its lexemes. -/
theorem lexemes_takeSlot {slot : Slot} (h : takeSlot xs = some (slot, rest)) :
    lexemesOf xs = slot.lexemes ++ lexemesOf rest ∧ slot.EndsBefore (lexemesOf rest) := by
  unfold takeSlot at h
  split at h
  · cases h
    exact ⟨rfl, trivial⟩
  · exact (lexemes_takeParameter h).2

/-- What is taken as a modifier is its quantifier, if there is one. -/
theorem lexemes_takeModifier {m : Modifier} (h : takeModifier xs = (m, rest)) :
    lexemesOf xs = m.lexemes ++ lexemesOf rest ∧ m.EndsBefore (lexemesOf rest) := by
  unfold takeModifier at h
  split at h
  · cases h
    exact ⟨rfl, nofun⟩
  · next hquantifier =>
    cases h
    refine ⟨rfl, fun _ q hq => ?_⟩
    match xs, hq with
    | ⟨i, x⟩ :: xs, hq =>
      obtain rfl : x = .quantifier q := Option.some.inj hq
      exact hquantifier i q xs rfl

/-- What is taken as a text are its characters. -/
theorem lexemes_takeText {t : Text} (h : takeText xs = (t, rest)) :
    ∃ ys, lexemesOf xs = ys ++ lexemesOf rest ∧ ys.map Lexeme.char? = t.map some := by
  fun_induction takeText xs generalizing t with
  | case1 i c xs s rest' hs ih | case2 i c xs s rest' hs ih =>
    cases h
    obtain ⟨ys, hys, hchars⟩ := ih hs
    refine ⟨_ :: ys, congrArg (_ :: ·) hys, ?_⟩
    rw [List.map_cons, hchars]
    rfl
  | case3 xs =>
    cases h
    exact ⟨[], rfl, rfl⟩

/-- A slot that is not in braces, with its modifier. -/
theorem reading_finishSlot {slot : Slot} {lead : Text} (hlead : IsBareLead lead)
    (hends : slot.EndsBefore (lexemesOf xs)) (h : finishSlot d slot lead xs = (d', rest)) :
    ∃ m, d' = d.edit (.slot slot lead [] m) ∧ ∀ es, Reading (lexemesOf rest) es →
      Reading (lead.map .char ++ (slot.lexemes ++ lexemesOf xs)) (.slot slot lead [] m :: es) := by
  obtain ⟨m, rest', hm⟩ : ∃ m rest', takeModifier xs = (m, rest') := ⟨_, _, rfl⟩
  obtain ⟨hlexemes, hmodifier⟩ := lexemes_takeModifier hm
  cases slot with
  | wildcard =>
    cases h
    exact ⟨none, rfl, fun es hes => .wildcard hlead hes⟩
  | named | positional =>
    simp only [finishSlot, hm] at h
    cases h
    rw [hlexemes] at hends ⊢
    exact ⟨m, rfl, fun es hes => .slot (by simp) hlead hends hmodifier hes⟩

/-- What stands in braces, with its modifier. -/
theorem reading_readBraces (h : readBraces d xs = .ok (d', rest)) : ∃ e, d' = d.edit e ∧
    ∀ es, Reading (lexemesOf rest) es → Reading (.openBrace :: lexemesOf xs) (e :: es) := by
  obtain ⟨lead, xs₁, h₁⟩ : ∃ lead xs₁, takeText xs = (lead, xs₁) := ⟨_, _, rfl⟩
  obtain ⟨tail, xs₃, h₃⟩ : ∃ tail xs₃,
      takeText (((takeParameter xs₁).map Prod.snd).getD xs₁) = (tail, xs₃) := ⟨_, _, rfl⟩
  rw [readBraces_eq h₁ rfl rfl h₃] at h
  obtain ⟨ys, hys, hlead⟩ := lexemes_takeText h₁
  obtain ⟨zs, hzs, htail⟩ := lexemes_takeText h₃
  unfold closeBraces at h
  split at h
  · next i xs₄ =>
    obtain ⟨m, rest', hm⟩ : ∃ m rest', takeModifier xs₄ = (m, rest') := ⟨_, _, rfl⟩
    obtain ⟨hlexemes, hends⟩ := lexemes_takeModifier hm
    have hclosed : lexemesOf (⟨i, .closeBrace⟩ :: xs₄) =
        .closeBrace :: (m.lexemes ++ lexemesOf rest') :=
      congrArg (Lexeme.closeBrace :: ·) hlexemes
    simp only [hm] at h
    cases hslot : takeParameter xs₁ with
    | none =>
      rw [hslot] at h hzs
      cases h
      refine ⟨.group (lead ++ tail) m, rfl, fun es hes => ?_⟩
      have hzs : lexemesOf xs₁ = zs ++ lexemesOf (⟨i, .closeBrace⟩ :: xs₄) := hzs
      rw [hys, hzs, hclosed, ← List.append_assoc]
      refine .group ?_ hends hes
      rw [List.map_append, List.map_append, hlead, htail]
    | some p =>
      obtain ⟨slot, xs₂⟩ := p
      obtain ⟨hwildcard, hparameter, -⟩ := lexemes_takeParameter hslot
      rw [hslot] at h hzs
      cases h
      refine ⟨.slot slot lead tail m, rfl, fun es hes => ?_⟩
      have hzs : lexemesOf xs₂ = zs ++ lexemesOf (⟨i, .closeBrace⟩ :: xs₄) := hzs
      rw [hys, hparameter, hzs, hclosed]
      exact .braces hwildcard hlead htail hends hes
  · cases h

/-- Where no slot follows a character stands for itself. -/
theorem standsBefore_of_takeSlot (h : takeSlot xs = none) (c : Char) :
    (Lexeme.char c).StandsBefore (lexemesOf xs) := by
  intro _ _ _ y hy
  match xs, hy with
  | ⟨i, x⟩ :: xs, hy =>
    obtain rfl : x = y := Option.some.inj hy
    rw [← isSome_takeSlot_cons i x xs, h]
    rfl

/-- A step of the reading comes to the end, or reads lexemes as the edits that it does. -/
theorem reading_step (h : step d xs = .ok (d', rest)) :
    (∃ i, xs = ⟨i, .finish⟩ :: rest ∧ d' = d.flush) ∨ ∃ es₀ : List Edit,
      d' = es₀.foldl Draft.edit d ∧
        ∀ es, Reading (lexemesOf rest) es → Reading (lexemesOf xs) (es₀ ++ es) := by
  unfold step at h
  split at h
  · next slot xs₁ hslot =>
    obtain ⟨hlexemes, hends⟩ := lexemes_takeSlot hslot
    obtain ⟨m, hd, hread⟩ := reading_finishSlot (.inl rfl) hends (Except.ok.inj h)
    refine .inr ⟨[.slot slot [] [] m], hd, fun es hes => ?_⟩
    rw [hlexemes]
    exact hread es hes
  · split at h
    · next i c xs₁ _ =>
      show _ ∨ ∃ es₀ : List Edit, d' = es₀.foldl Draft.edit d ∧ ∀ es, Reading (lexemesOf rest) es →
        Reading (.char c :: lexemesOf xs₁) (es₀ ++ es)
      split at h
      · next slot xs₂ hslot =>
        obtain ⟨hlexemes, hends⟩ := lexemes_takeSlot hslot
        rw [hlexemes]
        split at h
        · next hc =>
          obtain ⟨m, hd, hread⟩ := reading_finishSlot (.inr ⟨c, hc, rfl⟩) hends (Except.ok.inj h)
          exact .inr ⟨[.slot slot [c] [] m], hd, hread⟩
        · next hc =>
          obtain ⟨m, hd, hread⟩ := reading_finishSlot (.inl rfl) hends (Except.ok.inj h)
          refine .inr ⟨[.char c, .slot slot [] [] m], hd, fun es hes => .char rfl ?_ (hread es hes)⟩
          rintro _ ⟨⟩ hlead
          exact absurd hlead hc
      · next hnone =>
        cases h
        exact .inr ⟨[.char c], rfl, fun es hes =>
          .char rfl (standsBefore_of_takeSlot hnone c) hes⟩
    · next i c _ _ =>
      cases h
      exact .inr ⟨[.char c], rfl, fun es hes => .char rfl nofun hes⟩
    · obtain ⟨e, hd, hread⟩ := reading_readBraces h
      exact .inr ⟨[e], hd, hread⟩
    · cases h
      exact .inl ⟨_, rfl, rfl⟩
    · cases h

/-- What a step leaves has an end again, unless it comes to the end. -/
theorem Ended.of_step {P : Lexeme → Prop} (hend : Ended P xs) (h : step d xs = .ok (d', rest)) :
    (∃ i, xs = [⟨i, .finish⟩]) ∨ Ended P rest := by
  rcases uniform_step hend with hfinish | huniform
  · exact .inl hfinish
  · cases huniform with
    | error e herror =>
      have herror := herror 0 d
      rw [Located.map_moved_zero, h] at herror
      cases herror
    | edits es rest' _ hrest' hread =>
      have hread := hread 0 d
      rw [Located.map_moved_zero, Located.map_moved_zero, h] at hread
      cases hread
      exact .inr hrest'

/-- Lexemes that parse have the form of a pattern, and the tokens are what their edits leave. -/
theorem reading_of_parseFrom {P : Lexeme → Prop} {tokens : List Token} (hend : Ended P xs)
    (h : parseFrom d xs = .ok tokens) :
    ∃ es, Reading (lexemesOf xs) es ∧ tokens = (es.foldl Draft.edit d).flush.tokens := by
  induction d, xs using parseFrom.induct with
  | case1 => exact absurd rfl hend.ne_nil
  | case2 d x xs e herror =>
    rw [parseFrom_of_error (List.cons_ne_nil _ _) herror] at h
    cases h
  | case3 d x xs d' rest hstep _ ih =>
    rw [parseFrom_of_ok hstep] at h
    rcases hend.of_step hstep with ⟨i, hfinish⟩ | hrest
    · rw [hfinish] at hstep ⊢
      cases hstep
      rw [parseFrom_nil] at h
      exact ⟨[], .finish, (Except.ok.inj h).symm⟩
    · obtain ⟨es, hes, htokens⟩ := ih hrest h
      rcases reading_step hstep with ⟨i, hx, -⟩ | ⟨es₀, rfl, hread⟩
      · -- an end is the last lexeme
        cases hx
        cases hend with
        | finish => exact absurd rfl hrest.ne_nil
        | cons _ hne => exact absurd rfl hne
      · exact ⟨es₀ ++ es, hread es hes, by rw [htokens, List.foldl_append]⟩

end

/-! ### Lexemes of the form of a pattern -/

section
variable {d : Draft} {xs : List Located} {x : Lexeme} {ys zs : List Lexeme}

/-- The first of located lexemes has its place. -/
theorem exists_of_lexemesOf_cons (h : lexemesOf xs = x :: ys) :
    ∃ i rest, xs = ⟨i, x⟩ :: rest ∧ lexemesOf rest = ys := by
  obtain ⟨⟨i, x⟩, rest, rfl, rfl, hrest⟩ := List.map_eq_cons_iff.1 h
  exact ⟨i, rest, rfl, hrest⟩

/-- The lexemes of a parameter are taken as one. -/
theorem takeParameter_of_lexemes {slot : Slot} (hslot : slot ≠ .wildcard)
    (hends : slot.EndsBefore ys) (h : lexemesOf xs = slot.lexemes ++ ys) :
    ∃ rest, takeParameter xs = some (slot, rest) ∧ lexemesOf rest = ys := by
  match slot, h with
  | .wildcard, _ => exact absurd rfl hslot
  | .positional body, h =>
    obtain ⟨i, rest, rfl, hrest⟩ := exists_of_lexemesOf_cons h
    exact ⟨rest, rfl, hrest⟩
  | .named n (some body), h =>
    obtain ⟨i, xs', rfl, hgroup⟩ := exists_of_lexemesOf_cons h
    obtain ⟨j, rest, rfl, hrest⟩ := exists_of_lexemesOf_cons hgroup
    exact ⟨rest, rfl, hrest⟩
  | .named n none, h =>
    obtain ⟨i, rest, rfl, hrest⟩ := exists_of_lexemesOf_cons h
    refine ⟨rest, ?_, hrest⟩
    match rest, hrest with
    | [], _ => rfl
    | ⟨j, y⟩ :: rest, hrest =>
      cases y with
      | group body => exact absurd (congrArg List.head? hrest).symm (hends body)
      | _ => rfl

/-- The lexemes of a slot are taken as one. -/
theorem takeSlot_of_lexemes {slot : Slot} (hends : slot.EndsBefore ys)
    (h : lexemesOf xs = slot.lexemes ++ ys) :
    ∃ rest, takeSlot xs = some (slot, rest) ∧ lexemesOf rest = ys := by
  by_cases hslot : slot = .wildcard
  · subst hslot
    obtain ⟨i, rest, rfl, hrest⟩ := exists_of_lexemesOf_cons h
    exact ⟨rest, rfl, hrest⟩
  · obtain ⟨rest, htake, hrest⟩ := takeParameter_of_lexemes hslot hends h
    refine ⟨rest, ?_, hrest⟩
    unfold takeSlot
    split
    · cases htake
    · exact htake

/-- The lexemes of a modifier are taken as one. -/
theorem takeModifier_of_lexemes {m : Modifier} (hends : m.EndsBefore ys)
    (h : lexemesOf xs = m.lexemes ++ ys) :
    ∃ rest, takeModifier xs = (m, rest) ∧ lexemesOf rest = ys := by
  cases m with
  | some q =>
    obtain ⟨i, rest, rfl, hrest⟩ := exists_of_lexemesOf_cons h
    exact ⟨rest, rfl, hrest⟩
  | none =>
    refine ⟨xs, ?_, h⟩
    unfold takeModifier
    split
    · next i q xs => exact absurd (congrArg List.head? h).symm (hends rfl q)
    · rfl

/-- The characters of a text are taken as one. -/
theorem takeText_of_lexemes {t : Text} (hzs : zs.map Lexeme.char? = t.map some)
    (hends : ∀ y, ys.head? = some y → y.char? = none) (h : lexemesOf xs = zs ++ ys) :
    ∃ rest, takeText xs = (t, rest) ∧ lexemesOf rest = ys := by
  induction t generalizing xs zs with
  | nil =>
    obtain rfl := List.map_eq_nil_iff.1 hzs
    refine ⟨xs, ?_, h⟩
    unfold takeText
    split
    · cases hends _ (congrArg List.head? h).symm
    · cases hends _ (congrArg List.head? h).symm
    · rfl
  | cons c t ih =>
    obtain ⟨z, zs', rfl, hz, hzs'⟩ := List.map_eq_cons_iff.1 hzs
    obtain ⟨i, xs', rfl, h'⟩ := exists_of_lexemesOf_cons h
    obtain ⟨rest, htake, hrest⟩ := ih hzs' h'
    refine ⟨rest, ?_, hrest⟩
    cases z with
    | char | escaped =>
      cases hz
      rw [takeText, htake]
    | _ => cases hz

/-- A slot that is not in braces. -/
theorem step_of_lexemes (slot : Slot) {lead : Text} (hlead : IsBareLead lead)
    (hends : slot.EndsBefore ys) (h : lexemesOf xs = lead.map .char ++ (slot.lexemes ++ ys)) :
    ∃ rest, lexemesOf rest = ys ∧ ∀ d, step d xs = .ok (finishSlot d slot lead rest) := by
  rcases hlead with rfl | ⟨c, hc, rfl⟩
  · obtain ⟨rest, htake, hrest⟩ := takeSlot_of_lexemes hends h
    exact ⟨rest, hrest, fun d => step_slot htake⟩
  · obtain ⟨i, xs', rfl, h'⟩ := exists_of_lexemesOf_cons h
    obtain ⟨rest, htake, hrest⟩ := takeSlot_of_lexemes hends h'
    refine ⟨rest, hrest, fun d => ?_⟩
    have hnone : takeSlot (⟨i, .char c⟩ :: xs') = none := rfl
    unfold step
    simp only [hnone, htake, hc]
    rfl

/-- A slot that is not in braces is followed by its modifier. -/
theorem finishSlot_of_lexemes {slot : Slot} {m : Modifier} (hslot : slot ≠ .wildcard)
    (hends : m.EndsBefore ys) (h : lexemesOf xs = m.lexemes ++ ys) :
    ∃ rest, lexemesOf rest = ys ∧
      ∀ d lead, finishSlot d slot lead xs = (d.edit (.slot slot lead [] m), rest) := by
  obtain ⟨rest, htake, hrest⟩ := takeModifier_of_lexemes hends h
  refine ⟨rest, hrest, fun d lead => ?_⟩
  cases slot with
  | wildcard => exact absurd rfl hslot
  | named | positional =>
    simp only [finishSlot, htake]
    rfl

/-- Braces close with their modifier, around a slot or a text. -/
theorem closeBraces_of_lexemes (slot : Option Slot) {m : Modifier} (hends : m.EndsBefore ys)
    (h : lexemesOf xs = .closeBrace :: (m.lexemes ++ ys)) :
    ∃ rest, lexemesOf rest = ys ∧ ∀ d lead tail, closeBraces d lead slot tail xs =
      .ok (slot.elim (d.edit (.group (lead ++ tail) m)) fun s => d.edit (.slot s lead tail m),
        rest) := by
  obtain ⟨i, xs', rfl, h'⟩ := exists_of_lexemesOf_cons h
  obtain ⟨rest, htake, hrest⟩ := takeModifier_of_lexemes hends h'
  refine ⟨rest, hrest, fun d lead tail => ?_⟩
  simp only [closeBraces, htake]
  cases slot <;> rfl

/-- A slot starts with no character. -/
theorem char?_lexemes_slot {slot : Slot} (hslot : slot ≠ .wildcard) :
    ∀ y, (slot.lexemes ++ ys).head? = some y → y.char? = none := by
  match slot with
  | .wildcard => exact absurd rfl hslot
  | .positional _ | .named _ none | .named _ (some _) =>
    rintro y ⟨⟩
    rfl

/-- A group of text. -/
theorem step_group_of_lexemes {text : Text} {m : Modifier}
    (hchars : zs.map Lexeme.char? = text.map some) (hends : m.EndsBefore ys)
    (h : lexemesOf xs = .openBrace :: (zs ++ .closeBrace :: (m.lexemes ++ ys))) :
    ∃ rest, lexemesOf rest = ys ∧ ∀ d, step d xs = .ok (d.edit (.group text m), rest) := by
  obtain ⟨i, xs', rfl, h'⟩ := exists_of_lexemesOf_cons h
  obtain ⟨rest, htext, hrest⟩ := takeText_of_lexemes hchars (by rintro y ⟨⟩; rfl) h'
  obtain ⟨rest', hrest', hclose⟩ := closeBraces_of_lexemes none hends hrest
  obtain ⟨j, rest, rfl, -⟩ := exists_of_lexemesOf_cons hrest
  refine ⟨rest', hrest', fun d => ?_⟩
  have hstep : step d (⟨i, .openBrace⟩ :: xs') = .ok (d.edit (.group (text ++ []) m), rest') :=
    (readBraces_eq htext rfl rfl rfl).trans (hclose d text [])
  rwa [List.append_nil] at hstep

/-- Behind a slot in braces stands text or the end of the braces, and no group. -/
theorem endsBefore_tail {slot : Slot} {tail : Text}
    (htail : zs.map Lexeme.char? = tail.map some) : slot.EndsBefore (zs ++ .closeBrace :: ys) := by
  match slot with
  | .wildcard | .positional _ | .named _ (some _) => trivial
  | .named _ none =>
    intro body hbody
    cases zs with
    | nil => cases hbody
    | cons z zs =>
      obtain ⟨c, t, rfl, hz, -⟩ := List.map_eq_cons_iff.1 htail.symm
      cases hbody
      cases hz

/-- A slot in braces. -/
theorem step_braces_of_lexemes {slot : Slot} {zs' : List Lexeme} {lead tail : Text} {m : Modifier}
    (hslot : slot ≠ .wildcard) (hlead : zs.map Lexeme.char? = lead.map some)
    (htail : zs'.map Lexeme.char? = tail.map some) (hends : m.EndsBefore ys)
    (h : lexemesOf xs =
      .openBrace :: (zs ++ (slot.lexemes ++ (zs' ++ .closeBrace :: (m.lexemes ++ ys))))) :
    ∃ rest, lexemesOf rest = ys ∧ ∀ d, step d xs = .ok (d.edit (.slot slot lead tail m), rest) := by
  obtain ⟨i, xs₁, rfl, h₁⟩ := exists_of_lexemesOf_cons h
  obtain ⟨xs₂, hlead, h₂⟩ := takeText_of_lexemes hlead (char?_lexemes_slot hslot) h₁
  obtain ⟨xs₃, hparameter, h₃⟩ := takeParameter_of_lexemes hslot (endsBefore_tail htail) h₂
  obtain ⟨xs₄, htail, h₄⟩ := takeText_of_lexemes htail (by rintro y ⟨⟩; rfl) h₃
  obtain ⟨rest, hrest, hclose⟩ := closeBraces_of_lexemes (some slot) hends h₄
  refine ⟨rest, hrest, fun d => ?_⟩
  exact (readBraces_eq hlead (by rw [hparameter]; rfl) (by rw [hparameter]; rfl) htail).trans
    (hclose d lead tail)

/-- A character that stands for itself. -/
theorem parseFrom_of_standsBefore {c : Char} (hx : x.char? = some c)
    (hbefore : x.StandsBefore (lexemesOf xs)) (i : Nat) :
    parseFrom d (⟨i, x⟩ :: xs) = parseFrom (d.pushChar c) xs := by
  cases x with
  | escaped =>
    cases hx
    exact parseFrom_of_ok rfl
  | char =>
    cases hx
    refine parseFrom_char ?_ i d
    cases hc : isLead c with
    | false => exact .inl rfl
    | true =>
      right
      match xs with
      | [] => rfl
      | ⟨j, y⟩ :: xs =>
        have hkey := hbefore c rfl hc y rfl
        rw [← isSome_takeSlot_cons j y xs] at hkey
        exact Option.isNone_iff_eq_none.1 (Option.isSome_eq_false_iff.1 hkey)
  | _ => cases hx

/-- Lexemes of the form of a pattern parse. -/
theorem parseFrom_of_reading {es : List Edit} (hread : Reading ys es) (h : lexemesOf xs = ys) :
    parseFrom d xs = .ok (es.foldl Draft.edit d).flush.tokens := by
  induction hread generalizing d xs with
  | finish =>
    obtain ⟨i, rest, rfl, hrest⟩ := exists_of_lexemesOf_cons h
    obtain rfl := List.map_eq_nil_iff.1 hrest
    exact (parseFrom_of_ok (step_finish d i)).trans (parseFrom_nil _)
  | @char x c ys es hx hbefore _ ih =>
    obtain ⟨i, rest, rfl, rfl⟩ := exists_of_lexemesOf_cons h
    exact (parseFrom_of_standsBefore hx hbefore i).trans (ih (d := d.pushChar c) rfl)
  | wildcard hlead _ ih =>
    obtain ⟨rest, hrest, hstep⟩ := step_of_lexemes .wildcard hlead trivial h
    exact (parseFrom_of_ok (hstep d)).trans (ih hrest)
  | slot hslot hlead hends hmodifier _ ih =>
    obtain ⟨rest, hrest, hstep⟩ := step_of_lexemes _ hlead hends h
    obtain ⟨rest', hrest', hfinish⟩ := finishSlot_of_lexemes hslot hmodifier hrest
    have hstep := hstep d
    rw [hfinish] at hstep
    exact (parseFrom_of_ok hstep).trans (ih hrest')
  | group hchars hends _ ih =>
    obtain ⟨rest, hrest, hstep⟩ := step_group_of_lexemes hchars hends h
    exact (parseFrom_of_ok (hstep d)).trans (ih hrest)
  | braces hslot hlead htail hends _ ih =>
    obtain ⟨rest, hrest, hstep⟩ := step_braces_of_lexemes hslot hlead htail hends h
    exact (parseFrom_of_ok (hstep d)).trans (ih hrest)

end

/-- A pattern parses if and only if its lexemes have the form of a pattern; the tokens are what their
edits leave. -/
theorem parse_eq_ok_iff {s : Text} {tokens : List Token} : parse s = .ok tokens ↔
    ∃ xs es, lex s = .ok xs ∧ Reading (lexemesOf xs) es ∧
      tokens = (es.foldl Draft.edit .empty).flush.tokens := by
  unfold parse
  cases hs : lex s with
  | error e =>
    constructor
    · intro h
      cases h
    · rintro ⟨_, _, h, -⟩
      cases h
  | ok xs =>
    constructor
    · intro h
      have hend : Ended (fun _ => True) xs := ended_lexFrom hs fun _ _ => trivial
      obtain ⟨es, hes, htokens⟩ := reading_of_parseFrom hend h
      exact ⟨xs, es, rfl, hes, htokens⟩
    · rintro ⟨_, es, ⟨⟩, hes, rfl⟩
      exact parseFrom_of_reading hes rfl

end NestedRouting
