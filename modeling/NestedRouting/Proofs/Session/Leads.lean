import NestedRouting.Session.Perform

/-!
# What running code does to the state

How code that is composed ends, and where it leads: `Run.Leads` relates the state before some code to
the state in which the code ends, by a relation that depends on whether the code returns. Relations
that compose (`Run.Composes`) carry over from the parts of code to the whole.
-/

namespace NestedRouting

variable {σ ε α β : Type}

/-- Whether code has returned. -/
def Outcome.returns : Outcome ε α → Bool
  | returned _ => true
  | failed _ | panicked _ | exhausted => false

namespace Run

/-! ## Code that returns -/

section
variable {s s' : σ} {a : α} {b : β}

/-- Two pieces of code return if the first does, and the second behind it. -/
theorem bind_eq_returned {r : Run σ ε α} {f : α → Run σ ε β} :
    (r >>= f) s = (.returned b, s') ↔
      ∃ a s₁, r s = (.returned a, s₁) ∧ f a s₁ = (.returned b, s') := by
  show andThen r f s = _ ↔ _
  unfold andThen
  constructor
  · intro h
    split at h
    · next a s₁ hr => exact ⟨a, s₁, hr, h⟩
    all_goals cases h
  · rintro ⟨a, s₁, hr, h⟩
    rw [hr]
    exact h

/-- Code with a change at its end returns if it does without. -/
theorem finish_eq_returned {r : Run σ ε α} {f : σ → σ} :
    r.finish f s = (.returned a, s') ↔ ∃ s₁, r s = (.returned a, s₁) ∧ s' = f s₁ := by
  unfold finish
  rcases hr : r s with ⟨o, s₁⟩
  simp only [Prod.mk.injEq]
  constructor
  · rintro ⟨rfl, rfl⟩
    exact ⟨s₁, ⟨rfl, rfl⟩, rfl⟩
  · rintro ⟨s₁, ⟨rfl, rfl⟩, rfl⟩
    exact ⟨rfl, rfl⟩

end

/-- What is read of a state is handed to the code that follows. -/
theorem gets_bind (f : σ → α) (g : α → Run σ ε β) (s : σ) : (gets f >>= g) s = g (f s) s := rfl

/-- Three pieces of code, one after the other, in whichever way they are grouped. -/
theorem bind_bind {γ : Type} (r : Run σ ε α) (f : α → Run σ ε β) (g : β → Run σ ε γ) :
    r >>= f >>= g = r >>= fun a => f a >>= g := by
  funext s
  show andThen (andThen r f) g s = andThen r (fun a => andThen (f a) g) s
  unfold andThen
  rcases r s with ⟨a | e | p | _, s'⟩ <;> rfl

/-- Elements of one list and then those of another. -/
theorem forEach_append (f : α → Run σ ε Unit) (as bs : List α) :
    forEach f (as ++ bs) = forEach f as >>= fun _ => forEach f bs := by
  induction as with
  | nil => rfl
  | cons a as ih =>
    show (f a >>= fun _ => forEach f (as ++ bs)) =
      (f a >>= fun _ => forEach f as) >>= fun _ => forEach f bs
    rw [ih, bind_bind]

/-! ## Where code leads -/

/-- Whether code relates the state before it to the state in which it ends. The relation is told
whether the code returns. -/
def Leads (R : Bool → σ → σ → Prop) (r : Run σ ε α) : Prop := ∀ s, R (r s).1.returns s (r s).2

/-- Whether a relation holds of code that does nothing, and of code that runs after other code if it
holds of both. -/
class Composes (R : Bool → σ → σ → Prop) : Prop where
  refl : ∀ b s, R b s s
  trans : ∀ {b s s' s''}, R true s s' → R b s' s'' → R b s s''

variable {R : Bool → σ → σ → Prop}

/-- A change of the state. -/
theorem leads_modify {f : σ → σ} (hf : ∀ s, R true s (f s)) :
    Leads R (modify f : Run σ ε Unit) := hf

/-- Code with a change at its end. -/
theorem leads_finish {r : Run σ ε α} {f : σ → σ} (hr : r.Leads R)
    (hf : ∀ b s s', R b s s' → R b s (f s')) : (r.finish f).Leads R :=
  fun s => hf _ _ _ (hr s)

/-- Code that cannot fail, where code that can fail is wanted. -/
theorem leads_lift {r : Run σ Empty α} (hr : r.Leads R) : (lift r : Run σ ε α).Leads R := by
  intro s
  have hs := hr s
  unfold lift
  rcases hrun : r s with ⟨a | e | p | _, s'⟩
  · rw [hrun] at hs
    exact hs
  · exact nomatch e
  all_goals
    rw [hrun] at hs
    exact hs

/-- One after the other, where each of the two has a relation of its own. -/
theorem leads_andThen {R₁ R₂ : Bool → σ → σ → Prop} {r : Run σ ε α} {f : α → Run σ ε β}
    (hr : r.Leads R₁) (hf : ∀ a, (f a).Leads R₂)
    (htrans : ∀ {b s s' s''}, R₁ true s s' → R₂ b s' s'' → R b s s'')
    (hstop : ∀ {s s'}, R₁ false s s' → R false s s') : Leads R (r >>= f) := by
  intro s
  show R (andThen r f s).1.returns s (andThen r f s).2
  have hfirst := hr s
  unfold andThen
  rcases hs : r s with ⟨a | e | p | _, s₁⟩
  all_goals rw [hs] at hfirst
  · exact htrans hfirst (hf a s₁)
  all_goals exact hstop hfirst

variable [Composes R]

theorem leads_pure (a : α) : Leads R (pure a : Run σ ε α) := Composes.refl true

theorem leads_gets (f : σ → α) : Leads R (gets f : Run σ ε α) := Composes.refl true

theorem leads_panic (p : Payload) : Leads R (panic p : Run σ ε α) := Composes.refl false

theorem leads_exhaust : Leads R (exhaust : Run σ ε α) := Composes.refl false

/-- Code and what comes after it. -/
theorem leads_bind {r : Run σ ε α} {f : α → Run σ ε β} (hr : r.Leads R)
    (hf : ∀ a, (f a).Leads R) : Leads R (r >>= f) :=
  leads_andThen hr hf Composes.trans id

/-- The same code for each element of a list. -/
theorem leads_forEach {f : α → Run σ ε Unit} {as : List α} (hf : ∀ a ∈ as, (f a).Leads R) :
    (forEach f as).Leads R := by
  induction as with
  | nil => exact leads_pure ()
  | cons a as ih =>
    exact leads_bind (hf a (.head _)) fun _ => ih fun b hb => hf b (.tail _ hb)

/-! ## Where code ends -/

/-- Whether code relates the state before it to the state in which it ends, unless it was given too
few steps to end. -/
def Ends (R : Bool → σ → σ → Prop) (r : Run σ ε α) : Prop :=
  ∀ s, (r s).1 ≠ .exhausted → R (r s).1.returns s (r s).2

omit [Composes R] in
/-- Code that leads somewhere also ends there. -/
theorem Leads.ends {r : Run σ ε α} (h : r.Leads R) : r.Ends R := fun s _ => h s

omit [Composes R] in
/-- One after the other, where each of the two has a relation of its own. -/
theorem ends_andThen {R₁ R₂ : Bool → σ → σ → Prop} {r : Run σ ε α} {f : α → Run σ ε β}
    (hr : r.Ends R₁) (hf : ∀ a, (f a).Ends R₂)
    (htrans : ∀ {b s s' s''}, R₁ true s s' → R₂ b s' s'' → R b s s'')
    (hstop : ∀ {s s'}, R₁ false s s' → R false s s') : Ends R (r >>= f) := by
  intro s hs
  change (andThen r f s).1 ≠ _ at hs
  show R (andThen r f s).1.returns s (andThen r f s).2
  have hfirst := hr s
  unfold andThen at hs ⊢
  rcases hrun : r s with ⟨a | e | p | _, s₁⟩
  all_goals
    rw [hrun] at hfirst hs
    simp only at hs ⊢
  · exact htrans (hfirst nofun) (hf a s₁ hs)
  · exact hstop (hfirst nofun)
  · exact hstop (hfirst nofun)
  · exact absurd rfl hs

omit [Composes R] in
/-- Code that ends, with a change at its end. -/
theorem ends_finish {R₁ : Bool → σ → σ → Prop} {r : Run σ ε α} {f : σ → σ} (hr : r.Ends R₁)
    (hf : ∀ {b s s'}, R₁ b s s' → R b s (f s')) : (r.finish f).Ends R :=
  fun s hs => hf (hr s hs)

omit [Composes R] in
/-- Code that ends, and is then answered for. -/
theorem ends_bind_pure {r : Run σ ε α} (hr : r.Ends R) (f : α → β) :
    Ends R (r >>= fun a => pure (f a)) := by
  have hanswer : ∀ a, (pure (f a) : Run σ ε β).Ends fun b s s' => b = true ∧ s' = s :=
    fun _ _ _ => ⟨rfl, rfl⟩
  refine ends_andThen hr hanswer ?_ id
  rintro _ _ _ _ h ⟨rfl, rfl⟩
  exact h

/-- Code that ends and what comes after it. -/
theorem ends_bind {r : Run σ ε α} {f : α → Run σ ε β} (hr : r.Ends R)
    (hf : ∀ a, (f a).Ends R) : Ends R (r >>= f) :=
  ends_andThen hr hf Composes.trans id

end Run

/-! ## Code on the site of a session -/

section
variable {ℓ : Type}

open Act Run

/-- What is read of a site is handed to the code that follows. -/
theorem site_bind (f : Site ℓ → α) (g : α → Act ℓ β) (w : World ℓ) :
    (site f >>= g) w = g (f w.host) w := rfl

/-- A change of the site, and the code that follows. -/
theorem change_bind (f : Site ℓ → Site ℓ) (g : Unit → Act ℓ β) (w : World ℓ) :
    (change f >>= g) w = g () { w with host := f w.host } := rfl

variable {R : Bool → World ℓ → World ℓ → Prop} [Composes R]

/-- Code for a target that may not be there. -/
theorem leads_onTarget {target : Option α} {r : α → Act ℓ Answer} (hr : ∀ a, (r a).Leads R) :
    (onTarget target r).Leads R := by
  cases target with
  | none => exact leads_pure _
  | some a => exact hr a

/-- A task of which the answer is not looked at. -/
theorem leads_silently {rec : Performer ℓ} {t : Task ℓ} (ht : (rec t).Leads R) :
    (silently rec t).Leads R := leads_bind ht fun _ => leads_pure ()

/-- A change for which the navigator must be there. -/
theorem leads_onNavigator {f : Site ℓ → Site ℓ} (hf : (change f).Leads R) :
    (onNavigator f).Leads R :=
  leads_bind (leads_gets _) fun _ => leads_onTarget fun _ =>
    leads_bind hf fun _ => leads_pure _

/-- A change for which the history must be there. -/
theorem leads_onHistory {env : Setup ℓ} {history : Nat} {f : Site ℓ → Site ℓ}
    (hf : (change f).Leads R) : (onHistory env history f).Leads R :=
  leads_bind (leads_gets _) fun _ => leads_onTarget fun _ =>
    leads_bind hf fun _ => leads_pure _

end

end NestedRouting
