import Mathlib.Logic.Relation
import NestedRouting.Proofs.Session.Registrations

/-!
# Delivery on a channel

Listeners subscribe, end handles and emit while they are notified, to any depth. The record of a
session has the steps that have been taken, and at every moment those who are registered are the
listeners that these steps leave registered, in the order of their subscription (`Accurate`). An
emission visits the listeners that are registered when it starts, one after the other (`Whole`), unless
one of them does not return, which is then the last that it calls (`Cut`). Every task keeps it so
(`proceeding_run`), and so does a run of steps from outside (`delivery`).
-/

namespace NestedRouting.Broadcast

open Run

variable {ℓ : Type}

/-! ## What has happened -/

/-- The emission that an event is part of. -/
def Event.emission? : Event ℓ → Option Nat
  | called e _ | returned e _ | emitted e => some e
  | took _ | emitting => none

/-- The step that an event is the end of. -/
def Event.step? : Event ℓ → Option (Step ℓ)
  | took x => some x
  | emitting | called .. | returned .. | emitted _ => none

/-- The listener that an event calls. -/
def Event.callee? : Event ℓ → Option Nat
  | called _ l => some l
  | took _ | emitting | returned .. | emitted _ => none

/-- The listeners that have been called, in order. -/
def calls (T : List (Moment ℓ)) : List Nat := T.filterMap fun m => m.event.callee?

/-- The steps that have been taken, in the order in which they have returned. -/
def taken (T : List (Moment ℓ)) : List (Step ℓ) := T.filterMap fun m => m.event.step?

/-- Whom an emission has called, who has returned, and whether it has ended itself, in order. -/
def storyOf (e : Nat) (T : List (Moment ℓ)) : List (Event ℓ) :=
  (T.map Moment.event).filter (·.emission? = some e)

/-- Listeners that are called and return, one after the other. -/
def visits (e : Nat) (listeners : List Nat) : List (Event ℓ) :=
  listeners.flatMap fun l => [.called e l, .returned e l]

/-- Whether the story of an emission is that it has called all listeners and has ended. -/
def Whole (e : Nat) (listeners : List Nat) (story : List (Event ℓ)) : Prop :=
  story = visits e listeners ++ [.emitted e]

instance [DecidableEq ℓ] (e : Nat) (listeners : List Nat) (story : List (Event ℓ)) :
    Decidable (Whole e listeners story) := inferInstanceAs (Decidable (_ = _))

/-- Whether the story of an emission is that it has called the listeners up to one that has not
returned. -/
def Cut (e : Nat) (listeners : List Nat) (story : List (Event ℓ)) : Prop :=
  ∃ before l after, listeners = before ++ l :: after ∧ story = visits e before ++ [.called e l]

/-- The steps taken in one stretch of the record and then in another. -/
theorem taken_append (T T' : List (Moment ℓ)) : taken (T ++ T') = taken T ++ taken T' :=
  List.filterMap_append

/-- A moment adds the step that it is the end of. -/
theorem taken_concat (T : List (Moment ℓ)) (m : Moment ℓ) :
    taken (T ++ [m]) = taken T ++ m.event.step?.toList := by
  rw [taken_append]
  cases h : m.event.step? <;> simp [taken, h]

/-- The story of an emission in one stretch of the record and then in another. -/
theorem storyOf_append (e : Nat) (T T' : List (Moment ℓ)) :
    storyOf e (T ++ T') = storyOf e T ++ storyOf e T' := by
  rw [storyOf, List.map_append, List.filter_append]
  rfl

/-- An event is part of the story of its emission only. -/
theorem storyOf_concat (e : Nat) (T : List (Moment ℓ)) (m : Moment ℓ) : storyOf e (T ++ [m]) =
    storyOf e T ++ if m.event.emission? = some e then [m.event] else [] := by
  rw [storyOf_append]
  by_cases h : m.event.emission? = some e <;> simp [storyOf, h]

namespace State

variable {s s₀ : State ℓ}

/-- An event is recorded with the entries at its moment. -/
theorem moments_noted (s : State ℓ) (x : Event ℓ) :
    (s.noted x).moments = s.moments ++ [⟨x, s.entries⟩] := rfl

/-- An event is one more moment. -/
theorem length_moments_noted (s : State ℓ) (x : Event ℓ) :
    (s.noted x).moments.length = s.moments.length + 1 := List.length_append

/-- That an event is recorded concerns neither the channel nor the handles. -/
theorem Sound.noted {steps : List (Step ℓ)} (hs : s.Sound steps) (x : Event ℓ) :
    (s.noted x).Sound steps := hs.congr rfl rfl rfl

/-- Whether the record of a state is accurate at every moment. -/
structure Recorded (s : State ℓ) : Prop where
  sound : s.Sound (taken s.moments)
  accurate : ∀ past m, past ++ [m] <+: s.moments → Accurate (taken (past ++ [m])) m.registered
  emission_lt : ∀ m ∈ s.moments, ∀ e, m.event.emission? = some e → e < s.moments.length

/-- The empty record is accurate. -/
theorem recorded_start : (start : State ℓ).Recorded where
  sound := sound_start
  accurate _ _ h := nomatch (List.append_eq_nil_iff.1 (List.prefix_nil.1 h)).2
  emission_lt := nofun

/-- An event is recorded when it has happened. -/
theorem Recorded.noted (h : s₀.Recorded) (hmoments : s.moments = s₀.moments) {x : Event ℓ}
    (hs : s.Sound (taken s₀.moments ++ x.step?.toList))
    (hx : ∀ e, x.emission? = some e → e < s₀.moments.length) : (s.noted x).Recorded where
  sound := by
    rw [moments_noted, hmoments, taken_concat]
    exact hs.noted x
  accurate past m hprefix := by
    have hprefix : past ++ [m] <+: s₀.moments ++ [⟨x, s.entries⟩] := hmoments ▸ hprefix
    rcases List.prefix_concat_iff.1 hprefix with heq | hprefix
    · obtain ⟨rfl, hm⟩ := List.append_inj' heq rfl
      rw [List.singleton_inj.1 hm, taken_concat]
      exact hs.accurate
    · exact h.accurate past m hprefix
  emission_lt m hm e he := by
    have hm : m ∈ s₀.moments ++ [⟨x, s.entries⟩] := hmoments ▸ hm
    have hlength : (s.noted x).moments.length = s₀.moments.length + 1 := by
      rw [← hmoments]
      exact List.length_append
    rw [hlength]
    rcases List.mem_append.1 hm with hm | hm
    · exact Nat.lt_succ_of_lt (h.emission_lt m hm e he)
    · rw [List.mem_singleton.1 hm] at he
      exact Nat.lt_succ_of_lt (hx e he)

end State

/-! ## What tasks do -/

open State

/-- Whether a state is well recorded, and the emission `own`, if any, has started. -/
structure Ready (own : Option Nat) (s : State ℓ) : Prop where
  recorded : s.Recorded
  own_lt : ∀ e, own = some e → e < s.moments.length

/-- What is done in a session, as a part of the emission `own` if there is one. Emissions that have
started before are not continued, except `own`; those that start meanwhile come to their end, or are
cut by a listener that does not return. -/
structure Proceeds (own : Option Nat) (returns : Bool) (s s' : State ℓ) : Prop where
  recorded : s'.Recorded
  moments_prefix : s.moments <+: s'.moments
  length_le : s.listeners.length ≤ s'.listeners.length
  older : ∀ e, own ≠ some e → e < s.moments.length → storyOf e s'.moments = storyOf e s.moments
  newer : ∀ e m, s.moments.length ≤ e → s'.moments[e]? = some m → m.event = .emitting →
    Whole e (m.registered.map Prod.snd) (storyOf e s'.moments) ∨
      returns = false ∧ Cut e (m.registered.map Prod.snd) (storyOf e s'.moments)

/-- What code does in a session. -/
def Proceeding (own : Option Nat) (returns : Bool) (s s' : State ℓ) : Prop :=
  Ready own s → Proceeds own returns s s'

section
variable {own : Option Nat} {returns : Bool} {s s' s'' : State ℓ}

/-- What has been done leaves the state ready for more. -/
theorem Proceeds.ready (hs : Ready own s) (h : Proceeds own returns s s') : Ready own s' :=
  ⟨h.recorded, fun e he => Nat.lt_of_lt_of_le (hs.own_lt e he) h.moments_prefix.length_le⟩

/-- After code that returns more may be done, as a part of the same emission. -/
theorem Proceeds.trans (hs : Ready own s) (h : Proceeds own true s s')
    (h' : Proceeds own returns s' s'') : Proceeds own returns s s'' where
  recorded := h'.recorded
  moments_prefix := h.moments_prefix.trans h'.moments_prefix
  length_le := Nat.le_trans h.length_le h'.length_le
  older e hne he := by
    rw [h'.older e hne (Nat.lt_of_lt_of_le he h.moments_prefix.length_le), h.older e hne he]
  newer e m hle hm hemitting := by
    rcases Nat.lt_or_ge e s'.moments.length with hlt | hge
    · have hne : own ≠ some e := fun heq => Nat.lt_irrefl _ (Nat.lt_of_lt_of_le (hs.own_lt e heq) hle)
      have hm' : s'.moments[e]? = some m := by
        rw [List.getElem?_eq_getElem hlt, ← hm]
        exact (List.prefix_iff_getElem?.1 h'.moments_prefix e hlt).symm
      rcases h.newer e m hle hm' hemitting with h | ⟨h, -⟩
      · left
        rw [h'.older e hne hlt]
        exact h
      · cases h
    · exact h'.newer e m hge hm hemitting

/-- A change that leaves no trace in the record. -/
theorem proceeds_of_eq (hs : Ready own s) (hmoments : s'.moments = s.moments)
    (hsound : s'.Sound (taken s.moments)) (hle : s.listeners.length ≤ s'.listeners.length) :
    Proceeds own returns s s' where
  recorded := by
    refine ⟨?_, ?_, ?_⟩ <;> rw [hmoments]
    · exact hsound
    · exact hs.recorded.accurate
    · exact hs.recorded.emission_lt
  moments_prefix := hmoments ▸ List.prefix_rfl
  length_le := hle
  older e _ _ := by rw [hmoments]
  newer e m hge hm _ := by
    rw [hmoments, List.getElem?_eq_none hge] at hm
    cases hm

/-- Where nothing is done, no emission starts or goes on. -/
theorem Proceeds.refl (hs : Ready own s) : Proceeds own returns s s :=
  proceeds_of_eq hs rfl hs.recorded.sound (Nat.le_refl _)

instance proceeding_composes : Composes (@Proceeding ℓ own) where
  refl _ _ hs := .refl hs
  trans h h' hs := (h hs).trans hs (h' ((h hs).ready hs))

/-- A change with an event, other than the start of an emission, that is recorded. -/
theorem proceeds_noted (hs : Ready own s) {x : Event ℓ}
    (hsound : s'.Sound (taken s.moments ++ x.step?.toList)) (hmoments : s'.moments = s.moments)
    (hle : s.listeners.length ≤ s'.listeners.length) (hx : x ≠ .emitting)
    (hown : ∀ e, x.emission? = some e → own = some e) : Proceeds own returns s (s'.noted x) := by
  have hnoted : (s'.noted x).moments = s.moments ++ [⟨x, s'.entries⟩] := by rw [← hmoments]; rfl
  refine ⟨hs.recorded.noted hmoments hsound fun e he => hs.own_lt e (hown e he), ?_, hle, ?_, ?_⟩
  · rw [hnoted]
    exact List.prefix_append _ _
  · intro e hne _
    rw [hnoted, storyOf_concat, if_neg fun h => hne (hown e h), List.append_nil]
  · intro e m hge hm hemitting
    rw [hnoted, List.getElem?_append_right hge] at hm
    obtain rfl := List.mem_singleton.1 (List.mem_of_getElem? hm)
    exact (hx hemitting).elim

end

/-! ### The part of an emission -/

/-- What code does as a part of the emission `e`, in a state of at least `N` listeners, and which
events it adds to the story of the emission. -/
def Continuing (e N : Nat) (A : Bool → List (Event ℓ) → Prop) (returns : Bool) (s s' : State ℓ) :
    Prop :=
  Ready (some e) s → N ≤ s.listeners.length → Proceeds (some e) returns s s' ∧
    ∃ tale, storyOf e s'.moments = storyOf e s.moments ++ tale ∧ A returns tale

section
variable {α β : Type} {e N : Nat} {A A₁ A₂ : Bool → List (Event ℓ) → Prop}

/-- Code and what comes after it each add a part to the story of the emission. -/
theorem continuing_bind {r : Run (State ℓ) Empty α} {f : α → Run (State ℓ) Empty β}
    (hr : r.Leads (Continuing e N A₁)) (hf : ∀ a, (f a).Leads (Continuing e N A₂))
    (htrans : ∀ {b t t'}, A₁ true t → A₂ b t' → A b (t ++ t'))
    (hstop : ∀ {t}, A₁ false t → A false t) : (r >>= f).Leads (Continuing e N A) :=
  leads_andThen hr hf
    (fun h h' hs hN => by
      obtain ⟨hfirst, tale, htale, hA⟩ := h hs hN
      obtain ⟨hsecond, tale', htale', hA'⟩ :=
        h' (hfirst.ready hs) (Nat.le_trans hN hfirst.length_le)
      exact ⟨hfirst.trans hs hsecond, tale ++ tale', by rw [htale', htale, List.append_assoc],
        htrans hA hA'⟩)
    fun h hs hN => by
      obtain ⟨hfirst, tale, htale, hA⟩ := h hs hN
      exact ⟨hfirst, tale, htale, hstop hA⟩

/-- Code that does nothing returns and adds nothing to the story. -/
theorem continuing_pure (a : α) : (pure a : Run (State ℓ) Empty α).Leads
    (Continuing e N fun returns tale => returns = true ∧ tale = []) :=
  fun _ hs _ => ⟨.refl hs, [], (List.append_nil _).symm, rfl, rfl⟩

/-- An event of the emission itself. -/
theorem continuing_noted {f : State ℓ → State ℓ} {x : Event ℓ} (hx : x.emission? = some e)
    (hf : ∀ s, (f s).moments = s.moments ∧ (f s).listeners = s.listeners ∧
      ∀ steps, s.Sound steps → (f s).Sound steps) :
    (modify fun s => (f s).noted x : Run (State ℓ) Empty Unit).Leads
      (Continuing e N fun returns tale => returns = true ∧ tale = [x]) := by
  intro s hs _
  obtain ⟨hmoments, hlisteners, hsound⟩ := hf s
  have hstep : x.step? = none := by cases x <;> first | rfl | cases hx
  have hnoted : ((f s).noted x).moments = s.moments ++ [⟨x, (f s).entries⟩] := by
    rw [← hmoments]
    rfl
  have hafter : (f s).Sound (taken s.moments ++ x.step?.toList) := by
    rw [hstep, Option.toList_none, List.append_nil]
    exact hsound _ hs.recorded.sound
  refine ⟨proceeds_noted hs hafter hmoments (Nat.le_of_eq (congrArg List.length hlisteners.symm))
    ?_ fun i hi => hx.symm.trans hi, _, ?_, rfl, rfl⟩
  · rintro rfl
    cases hx
  · show storyOf e ((f s).noted x).moments = _
    rw [hnoted, storyOf_concat, if_pos hx]

/-- What is done meanwhile is no part of the emission. -/
theorem continuing_of_proceeding {r : Run (State ℓ) Empty α} (hr : r.Leads (Proceeding none)) :
    r.Leads (Continuing e N fun _ tale => tale = []) := by
  intro s hs _
  obtain ⟨hrecorded, hprefix, hle, holder, hnewer⟩ := hr s ⟨hs.recorded, nofun⟩
  refine ⟨⟨hrecorded, hprefix, hle, fun i _ => holder i nofun, hnewer⟩, [], ?_, rfl⟩
  rw [List.append_nil]
  exact holder e nofun (hs.own_lt e rfl)

/-- Whether an emission has visited listeners, up to one if the code has not returned. -/
def Visited (e : Nat) (ls : List Nat) (returns : Bool) (tale : List (Event ℓ)) : Prop :=
  if returns then tale = visits e ls else Cut e ls tale

variable {rec : Performer ℓ} (hrec : ∀ t, (rec t).Leads (Proceeding none))
include hrec

/-- A listener that is notified is called, and may return. -/
theorem continuing_notify (value : String) {l : Nat} (hl : l < N) :
    (notify rec value e l).Leads (Continuing e N (Visited e [l])) := by
  intro s hs hN
  obtain ⟨⟨id, listener⟩, hlistener⟩ : ∃ p, s.listeners[l]? = some p :=
    ⟨_, List.getElem?_eq_getElem (Nat.lt_of_lt_of_le hl hN)⟩
  have hcode : notify rec value e l s = (do
      modify fun s => { s with log := s.log ++ [(id, value)] }.noted (.called e l)
      silently rec (.turns l 0 value)
      modify fun s => s.noted (.returned e l) : Run (State ℓ) Empty Unit) s := by
    unfold notify
    rw [gets_bind, hlistener]
  have hcall : (modify fun s => { s with log := s.log ++ [(id, value)] }.noted (.called e l) :
      Run (State ℓ) Empty Unit).Leads
        (Continuing e N fun returns tale => returns = true ∧ tale = [.called e l]) :=
    continuing_noted rfl fun s => ⟨rfl, rfl, fun _ hs => hs.congr rfl rfl rfl⟩
  have hturns : (silently rec (.turns l 0 value)).Leads
      (Continuing e N fun _ tale => tale = []) :=
    continuing_of_proceeding (leads_bind (hrec _) fun _ => leads_pure ())
  have hreturn : (modify fun s => s.noted (.returned e l) : Run (State ℓ) Empty Unit).Leads
      (Continuing e N fun returns tale => returns = true ∧ tale = [.returned e l]) :=
    continuing_noted rfl fun _ => ⟨rfl, rfl, fun _ hs => hs⟩
  have hrest : (silently rec (.turns l 0 value) >>= fun _ =>
      modify fun s => s.noted (.returned e l)).Leads
        (Continuing e N fun returns tale => tale = if returns then [.returned e l] else []) :=
    continuing_bind hturns (fun _ => hreturn) (by rintro b t t' rfl ⟨rfl, rfl⟩; rfl) fun h => h
  rw [hcode]
  refine continuing_bind hcall (fun _ => hrest) ?_ ?_ s hs hN
  · rintro b t t' ⟨-, rfl⟩ rfl
    cases b with
    | true => exact rfl
    | false => exact ⟨[], l, [], rfl, rfl⟩
  · rintro t ⟨h, -⟩
    cases h

/-- Listeners are notified one after the other, as long as they return. -/
theorem continuing_forEach (value : String) {ls : List Nat} (hls : ∀ l ∈ ls, l < N) :
    (forEach (notify rec value e) ls).Leads (Continuing e N (Visited e ls)) := by
  induction ls with
  | nil => exact fun _ hs _ => ⟨.refl hs, [], (List.append_nil _).symm, rfl⟩
  | cons l ls ih =>
    refine continuing_bind (continuing_notify hrec value (hls l (.head _)))
      (fun _ => ih fun l hl => hls l (.tail _ hl)) ?_ ?_
    · rintro b t t' rfl h
      cases b with
      | true => exact congrArg (visits e [l] ++ ·) h
      | false =>
        obtain ⟨before, l', after, rfl, rfl⟩ := h
        exact ⟨l :: before, l', after, rfl, rfl⟩
    · rintro t ⟨before, l', after, heq, rfl⟩
      obtain ⟨rfl, hnil⟩ : before = [] ∧ l' :: after = [l] := by
        cases before with
        | nil => exact ⟨rfl, heq.symm⟩
        | cons _ before => cases before <;> cases heq
      cases hnil
      exact ⟨[], l, ls, rfl, rfl⟩

end

/-! ### Steps -/

section
variable {s : State ℓ} {rec : Performer ℓ}

/-- The story of an emission begins with its start. -/
theorem State.Recorded.story_noted (hs : s.Recorded) :
    storyOf s.moments.length (s.noted .emitting).moments = [] := by
  show storyOf _ (s.moments ++ [⟨.emitting, s.entries⟩]) = []
  rw [storyOf_concat, if_neg nofun, List.append_nil, storyOf, List.filter_eq_nil_iff]
  intro x hx hemission
  obtain ⟨m, hm, rfl⟩ := List.mem_map.1 hx
  exact Nat.lt_irrefl _ (hs.emission_lt m hm _ (of_decide_eq_true hemission))

/-- An emission, from outside of it. -/
theorem proceeds_of_emission {s' : State ℓ} {returns : Bool}
    (h : Proceeds (some s.moments.length) returns (s.noted .emitting) s')
    (hend : if returns then Whole s.moments.length s.registered (storyOf s.moments.length s'.moments)
      else Cut s.moments.length s.registered (storyOf s.moments.length s'.moments)) :
    Proceeds none returns s s' := by
  have hlength := length_moments_noted s .emitting
  refine ⟨h.recorded, (List.prefix_append _ _).trans h.moments_prefix, h.length_le,
    fun i _ hi => ?_, fun i m hge hm hemitting => ?_⟩
  · rw [h.older i (fun heq => Nat.ne_of_gt hi (Option.some.inj heq)) (hlength ▸ Nat.lt_succ_of_lt hi),
      moments_noted, storyOf_concat, if_neg nofun, List.append_nil]
  · rcases Nat.eq_or_lt_of_le hge with rfl | hlt
    · have hstart := List.prefix_iff_getElem?.1 h.moments_prefix s.moments.length
        (hlength ▸ Nat.lt_succ_self _)
      have hm : m = ⟨.emitting, s.entries⟩ := by simpa [hm, moments_noted] using hstart
      rw [hm, ← registered_eq]
      cases returns with
      | true => exact .inl hend
      | false => exact .inr ⟨rfl, hend⟩
    · exact h.newer i m (hlength ▸ hlt) hm hemitting

/-- An emission visits the listeners that are registered when it starts. -/
theorem emission_story (hrec : ∀ t, (rec t).Leads (Proceeding none)) (value : String)
    (hs : Ready none s) {o : Outcome Empty Answer} {s' : State ℓ}
    (h : performStep rec (.emit value) s = (o, s')) :
    Proceeds (some s.moments.length) o.returns (s.noted .emitting) s' ∧
      if o.returns then Whole s.moments.length s.registered (storyOf s.moments.length s'.moments)
      else Cut s.moments.length s.registered (storyOf s.moments.length s'.moments) := by
  have hready : Ready (some s.moments.length) (s.noted .emitting) := by
    refine ⟨hs.recorded.noted rfl ?_ nofun, fun i hi => ?_⟩
    · exact (List.append_nil _).symm ▸ hs.recorded.sound
    · cases hi
      rw [length_moments_noted]
      exact Nat.lt_succ_self _
  have hknown := hs.recorded.sound.registered_lt
  have hlast : (do
      modify fun s₁ => s₁.noted (.emitted s.moments.length)
      return .nothing : Run (State ℓ) Empty Answer).Leads (Continuing s.moments.length
        s.listeners.length fun returns tale =>
          returns = true ∧ tale = [.emitted s.moments.length]) :=
    continuing_bind (continuing_noted rfl fun _ => ⟨rfl, rfl, fun _ hs => hs⟩)
      (fun _ => continuing_pure _) (by rintro b t t' ⟨-, rfl⟩ ⟨rfl, rfl⟩; exact ⟨rfl, rfl⟩)
      fun h => nomatch h.1
  have hall := continuing_bind
    (A := fun returns tale => if returns then Whole s.moments.length s.registered tale
      else Cut s.moments.length s.registered tale)
    (continuing_forEach hrec value hknown) (fun _ => hlast)
    (by rintro b t t' h ⟨rfl, rfl⟩; exact congrArg (· ++ _) h) fun h => h
  obtain ⟨hproceeds, tale, htale, hend⟩ := hall (s.noted .emitting) hready (Nat.le_refl _)
  rw [hs.recorded.story_noted, List.nil_append] at htale
  have hcode : (forEach (notify rec value s.moments.length) s.registered >>= fun _ => do
      modify fun s₁ => s₁.noted (.emitted s.moments.length)
      return Answer.nothing : Run (State ℓ) Empty Answer) (s.noted .emitting) = (o, s') := h
  rw [hcode] at hproceeds htale hend
  exact ⟨hproceeds, htale ▸ hend⟩

/-- An emission within anything else is a story of its own. -/
theorem proceeding_emit (hrec : ∀ t, (rec t).Leads (Proceeding none)) (value : String) :
    (performStep rec (.emit value)).Leads (Proceeding none) := fun _ hs =>
  let hstory := emission_story hrec value hs rfl
  proceeds_of_emission hstory.1 hstory.2

/-- A step is recorded when it returns. -/
theorem proceeding_takeStep (hrec : ∀ t, (rec t).Leads (Proceeding none)) (x : Step ℓ) :
    (takeStep rec x).Leads (Proceeding none) := by
  by_cases hx : ∃ value, x = .emit value
  · obtain ⟨value, rfl⟩ := hx
    refine leads_bind (proceeding_emit hrec value) fun _ =>
      leads_bind (leads_modify fun s hs => ?_) fun _ => leads_pure _
    exact proceeds_noted hs (hs.recorded.sound.neutral rfl nofun) rfl (Nat.le_refl _) nofun nofun
  · have hrecord (a : Answer) : Run.Leads
        (fun b (s s' : State ℓ) => b = true ∧ s' = s.noted (.took x))
        (modify (·.noted (.took x)) >>= fun _ => pure a : Run (State ℓ) Empty Answer) :=
      fun _ => ⟨rfl, rfl⟩
    refine leads_andThen (effect_performStep rec fun value h => hx ⟨value, h⟩) hrecord ?_ ?_
    · rintro b s s₁ s' heffect ⟨rfl, rfl⟩ hs
      exact proceeds_noted hs (heffect.sound rfl _ hs.recorded.sound) heffect.moments_eq
        heffect.length_le nofun nofun
    · intro s s' heffect hs
      rw [heffect.stays rfl]
      exact .refl hs

end

/-! ### Turns -/

section
variable {rec : Performer ℓ} {listen : Listening ℓ}

/-- A turn changes a listener and not its name. -/
theorem map_fst_modify {α β : Type} (l : List (α × β)) (i : Nat) (b : β) :
    (l.modify i fun p => (p.1, b)).map Prod.fst = l.map Prod.fst := by
  induction l generalizing i with
  | nil => simp
  | cons p l ih => cases i <;> simp [ih]

/-- In its turns a listener changes and takes steps. -/
theorem proceeding_turns (hrec : ∀ t, (rec t).Leads (Proceeding none)) (number turn : Nat)
    (value : String) : (performTurns listen rec number turn value).Leads (Proceeding none) := by
  refine leads_bind (leads_gets _) fun listener => ?_
  cases listener.bind fun l => listen l.2 turn value with
  | none => exact leads_pure _
  | some p =>
    refine leads_bind (leads_modify fun s hs => ?_) fun _ =>
      leads_bind (leads_forEach fun x _ => leads_bind (hrec (.step x)) fun _ => leads_pure ())
        fun _ => hrec _
    have hlength : (s.listeners.modify number fun l => (l.1, p.2)).length = s.listeners.length :=
      List.length_modify _ _ _
    refine proceeds_of_eq hs rfl (hs.recorded.sound.congr rfl ?_ rfl) (Nat.le_of_eq hlength.symm)
    exact map_fst_modify s.listeners number p.2

/-- Whatever is done in a session, however deeply tasks are nested. -/
theorem proceeding_run (listen : Listening ℓ) (depth : Nat) (t : Task ℓ) :
    (run listen depth t).Leads (Proceeding none) := by
  induction depth generalizing t with
  | zero => exact leads_exhaust
  | succ depth ih =>
    cases t with
    | step x => exact proceeding_takeStep ih x
    | turns number turn value => exact proceeding_turns ih number turn value

end

/-! ## The record and the log -/

namespace State

/-- The name of a listener. -/
def name? (s : State ℓ) (l : Nat) : Option String := (s.listeners.map Prod.fst)[l]?

/-- What is added to a state: moments `T`, and log entries `L` under the names of the listeners that
are called in them. Listeners keep their names. -/
structure Extends (s s' : State ℓ) (T : List (Moment ℓ)) (L : List (String × String)) : Prop where
  moments_eq : s'.moments = s.moments ++ T
  log_eq : s'.log = s.log ++ L
  names_prefix : s.listeners.map Prod.fst <+: s'.listeners.map Prod.fst
  named : L.map (fun p => some p.1) = (calls T).map s'.name?

variable {s s' s'' : State ℓ} {T T' : List (Moment ℓ)} {L L' : List (String × String)}

/-- What is added in two stretches, one after the other. -/
theorem Extends.trans (h : s.Extends s' T L) (h' : s'.Extends s'' T' L') :
    s.Extends s'' (T ++ T') (L ++ L') where
  moments_eq := by rw [h'.moments_eq, h.moments_eq, List.append_assoc]
  log_eq := by rw [h'.log_eq, h.log_eq, List.append_assoc]
  names_prefix := h.names_prefix.trans h'.names_prefix
  named := by
    have hsame : (calls T).map s'.name? = (calls T).map s''.name? := by
      refine List.map_congr_left fun l hl => ?_
      have hname : s'.name? l ∈ L.map fun p => some p.1 := h.named ▸ List.mem_map_of_mem hl
      obtain ⟨p, -, hp⟩ := List.mem_map.1 hname
      obtain ⟨hlt, -⟩ := List.getElem?_eq_some_iff.1 hp.symm
      rw [name?, List.getElem?_eq_getElem hlt]
      exact (List.prefix_iff_getElem?.1 h'.names_prefix l hlt).symm
    rw [List.map_append, h.named, hsame, h'.named, ← List.map_append]
    exact congrArg _ List.filterMap_append.symm

/-- Nothing is added where record and log are equal and listeners keep their names. -/
theorem extends_of_eq (hmoments : s'.moments = s.moments) (hlog : s'.log = s.log)
    (hnames : s.listeners.map Prod.fst <+: s'.listeners.map Prod.fst) : s.Extends s' [] [] :=
  ⟨by rw [hmoments, List.append_nil], by rw [hlog, List.append_nil], hnames, rfl⟩

/-- An event that calls nobody. -/
theorem extends_noted (s : State ℓ) {x : Event ℓ} (hx : x.callee? = none) :
    s.Extends (s.noted x) [⟨x, s.entries⟩] [] :=
  ⟨rfl, (List.append_nil _).symm, List.prefix_rfl, by simp [calls, hx]⟩

/-- To cancel a handle logs nothing. -/
theorem log_cancel (s : State ℓ) (handle : Option Nat) : (s.cancel handle).log = s.log := by
  cases handle <;> rfl

/-- To cancel a handle adds nothing. -/
theorem extends_cancel (s : State ℓ) (handle : Option Nat) : s.Extends (s.cancel handle) [] [] :=
  extends_of_eq (moments_cancel ..) (log_cancel ..) (listeners_cancel s handle ▸ List.prefix_rfl)

/-- To forget a handle adds nothing. -/
theorem extends_forget (s : State ℓ) (id : String) : s.Extends (s.forget id) [] [] :=
  extends_of_eq rfl rfl List.prefix_rfl

/-- To store a handle adds nothing. -/
theorem extends_store (s : State ℓ) (id : String) (handle : Option Nat) :
    s.Extends (s.store id handle) [] [] :=
  extends_of_eq (moments_cancel ..) (log_cancel ..) (listeners_store s id handle ▸ List.prefix_rfl)

end State

/-- What code does to the record and the log. -/
def Extending (_ : Bool) (s s' : State ℓ) : Prop := ∃ T L, s.Extends s' T L

instance extending_composes : Composes (@Extending ℓ) where
  refl _ _ := ⟨[], [], extends_of_eq rfl rfl List.prefix_rfl⟩
  trans := fun ⟨_, _, h⟩ ⟨_, _, h'⟩ => ⟨_, _, h.trans h'⟩

section
variable {rec : Performer ℓ} (hrec : ∀ t, (rec t).Leads Extending)
include hrec

/-- A listener that is notified is called, and logged under its name. -/
theorem extending_notify (value : String) (e l : Nat) :
    (notify rec value e l).Leads Extending := by
  intro s
  unfold notify
  rw [gets_bind]
  cases hl : s.listeners[l]? with
  | none => exact leads_pure () s
  | some p =>
    let logged : State ℓ := { s with log := s.log ++ [(p.1, value)] }
    have hname : logged.name? l = some p.1 := by
      rw [name?, List.getElem?_map]
      exact congrArg (Option.map Prod.fst) hl
    have hcall : s.Extends (logged.noted (.called e l)) [⟨.called e l, logged.entries⟩]
        [(p.1, value)] := ⟨rfl, rfl, List.prefix_rfl, congrArg ([·]) hname.symm⟩
    have hrest : (silently rec (.turns l 0 value) >>= fun _ =>
        modify fun s => s.noted (.returned e l)).Leads Extending :=
      leads_bind (leads_bind (hrec _) fun _ => leads_pure ()) fun _ =>
        leads_modify fun s => ⟨_, _, extends_noted s rfl⟩
    exact extending_composes.trans ⟨_, _, hcall⟩ (hrest (logged.noted (.called e l)))

/-- A step adds to the log the names of those whom it calls. -/
theorem extending_performStep (x : Step ℓ) : (performStep rec x).Leads Extending := by
  cases x with
  | subscribe id l =>
    refine leads_bind (leads_gets _) fun channel => ?_
    cases channel with
    | none => exact leads_pure _
    | some c =>
      refine leads_bind (leads_modify fun s => ⟨[] ++ [], [] ++ [], ?_⟩) fun _ => leads_pure _
      have hadded : s.Extends { s with
          channel := some (c.subscribe s.listeners.length)
          listeners := s.listeners ++ [(id, l)] } [] [] :=
        extends_of_eq rfl rfl (List.map_append ▸ List.prefix_append _ _)
      exact hadded.trans (extends_store _ id (some c.next))
  | empty id =>
    exact leads_bind (leads_modify fun s => ⟨_, _, extends_store s id none⟩) fun _ => leads_pure _
  | emit value =>
    refine leads_bind (leads_gets _) fun e => leads_bind (leads_modify fun s => ?_) fun _ =>
      leads_bind (leads_gets _) fun ls => leads_bind
        (leads_forEach fun l _ => extending_notify hrec value e l) fun _ =>
          leads_bind (leads_modify fun s => ?_) fun _ => leads_pure _
    · exact ⟨_, _, extends_noted s rfl⟩
    · exact ⟨_, _, extends_noted s rfl⟩
  | unsubscribe id | drop id | detach id =>
    refine leads_bind (leads_gets _) fun handle => ?_
    cases handle with
    | none => exact leads_pure _
    | some handle =>
      refine leads_bind (leads_modify fun s => ?_) fun _ => leads_pure _
      first
        | exact ⟨_, _, (extends_forget s id).trans (extends_cancel _ handle)⟩
        | exact ⟨_, _, extends_forget s id⟩
  | dropChannel =>
    exact leads_bind (leads_modify fun s => ⟨_, _, extends_of_eq rfl rfl List.prefix_rfl⟩)
      fun _ => leads_pure _
  | panic p => exact leads_panic p

/-- The turns of a listener add what its steps add. -/
theorem extending_turns (listen : Listening ℓ) (number turn : Nat) (value : String) :
    (performTurns listen rec number turn value).Leads Extending := by
  refine leads_bind (leads_gets _) fun listener => ?_
  cases listener.bind fun l => listen l.2 turn value with
  | none => exact leads_pure _
  | some p =>
    refine leads_bind (leads_modify fun s => ⟨[], [], extends_of_eq rfl rfl ?_⟩) fun _ =>
      leads_bind (leads_forEach fun x _ => leads_bind (hrec (.step x)) fun _ => leads_pure ())
        fun _ => hrec _
    exact map_fst_modify s.listeners number p.2 ▸ List.prefix_rfl

end

/-- Whatever is done, in whatever state, the log goes on with the names of those who are called. -/
theorem extending_run (listen : Listening ℓ) (depth : Nat) (t : Task ℓ) :
    (run listen depth t).Leads Extending := by
  induction depth generalizing t with
  | zero => exact leads_exhaust
  | succ depth ih =>
    cases t with
    | step x =>
      exact leads_bind (extending_performStep ih x) fun _ => leads_bind
        (leads_modify fun s => ⟨_, _, extends_noted s rfl⟩) fun _ => leads_pure _
    | turns number turn value => exact extending_turns ih listen number turn value

/-- A step is done, and then recorded if it returns. -/
theorem takeStep_eq (rec : Performer ℓ) (x : Step ℓ) (s : State ℓ) : takeStep rec x s =
    ((performStep rec x s).1, if (performStep rec x s).1.returns then
      (performStep rec x s).2.noted (.took x) else (performStep rec x s).2) := by
  show Run.andThen (performStep rec x) _ s = _
  unfold Run.andThen
  rcases performStep rec x s with ⟨a | e | p | _, s'⟩
  · rfl
  · exact nomatch e
  all_goals rfl

/-- What a step adds, in whatever state it is taken: the steps that listeners take in it, if it is an
emission, and then itself, if it returns. -/
theorem taken_of_run (listen : Listening ℓ) {depth : Nat} {x : Step ℓ} {s s' : State ℓ}
    {o : Outcome Empty Answer} (h : run listen depth (.step x) s = (o, s')) :
    ∃ T L inner, s.Extends s' T L ∧ taken T = inner ++ (if o.returns then [x] else []) ∧
      ((∀ value, x ≠ .emit value) → inner = []) := by
  cases depth with
  | zero =>
    cases h
    exact ⟨[], [], [], extends_of_eq rfl rfl List.prefix_rfl, rfl, fun _ => rfl⟩
  | succ depth =>
    obtain ⟨T, L, hextends⟩ := extending_performStep (extending_run listen depth) x s
    have hquiet (hx : ∀ value, x ≠ .emit value) : taken T = [] := by
      have hmoments := (effect_performStep (run listen depth) hx s).moments_eq
      rw [List.append_right_eq_self.1 (hextends.moments_eq.symm.trans hmoments)]
      rfl
    obtain ⟨rfl, rfl⟩ := Prod.mk.inj ((takeStep_eq ..).symm.trans h)
    split
    · refine ⟨_, _, taken T, hextends.trans (extends_noted _ rfl), ?_, hquiet⟩
      exact taken_concat ..
    · exact ⟨T, L, taken T, hextends, (List.append_nil _).symm, hquiet⟩

/-! ## Programs -/

open Relation

/-- A step from outside, which may return, panic or give up. The log may be cleared before. -/
def Played (listen : Listening ℓ) (s s' : State ℓ) : Prop :=
  ∃ depth x log, s' = (run listen depth (.step x) { s with log }).2

/-- Whether the emissions so far have called all listeners, or those up to one that has not returned.
-/
def Delivered (s : State ℓ) : Prop :=
  ∀ e m, s.moments[e]? = some m → m.event = .emitting →
    Whole e (m.registered.map Prod.snd) (storyOf e s.moments) ∨
      Cut e (m.registered.map Prod.snd) (storyOf e s.moments)

/-- Emissions that have been delivered stay so, whatever is done next. -/
theorem Delivered.proceeds {s s' : State ℓ} {returns : Bool} (h : Delivered s)
    (hproceeds : Proceeds none returns s s') : Delivered s' := by
  intro e m hm hemitting
  rcases Nat.lt_or_ge e s.moments.length with hlt | hge
  · rw [hproceeds.older e nofun hlt]
    refine h e m ?_ hemitting
    rw [List.getElem?_eq_getElem hlt, ← hm]
    exact (List.prefix_iff_getElem?.1 hproceeds.moments_prefix e hlt).symm
  · exact (hproceeds.newer e m hge hm hemitting).imp_right And.right

/-- Steps from outside leave an accurate record, in which all emissions are delivered. -/
theorem recorded_of_played {listen : Listening ℓ} {s : State ℓ}
    (hplayed : ReflTransGen (Played listen) .start s) : s.Recorded ∧ Delivered s := by
  induction hplayed with
  | refl => exact ⟨recorded_start, nofun⟩
  | @tail s _ _ hlast ih =>
    obtain ⟨hs, hdelivered⟩ := ih
    obtain ⟨depth, x, log, rfl⟩ := hlast
    have hcleared : Recorded { s with log } :=
      ⟨hs.sound.congr rfl rfl rfl, hs.accurate, hs.emission_lt⟩
    have hproceeds := proceeding_run listen depth (.step x) _ ⟨hcleared, nofun⟩
    have hdelivered : Delivered { s with log } := hdelivered
    exact ⟨hproceeds.recorded, hdelivered.proceeds hproceeds⟩

/-- Delivery under re-entrance. Steps are taken from outside one after the other; each may return,
panic or give up, and listeners take steps while they are notified, to any depth. Then at every moment
the registered listeners are those that the steps taken so far leave registered, under increasing
numbers (`IsRegistered`), and the listener with a number has the name of the subscription with this
number. Every emission has called the listeners that were registered when it started, each once and in
order, or those up to one that has not returned. All emissions of a step that returns have called all of
them; an emission that panics has called those up to the one that panics. The record has each step that
returns, from outside or of a listener, at its end, and the log has those who are called. -/
theorem delivery (listen : Listening ℓ) {s : State ℓ}
    (hplayed : ReflTransGen (Played listen) .start s) :
    (∀ past m, past ++ [m] <+: s.moments → Accurate (taken (past ++ [m])) m.registered) ∧
    Accurate (taken s.moments) s.entries ∧
    (.dropChannel ∉ taken s.moments → s.listeners.map Prod.fst = names (taken s.moments)) ∧
    Delivered s ∧
    (∀ depth x a s', run listen depth (.step x) s = (.returned a, s') →
      ∀ e m, s.moments.length ≤ e → s'.moments[e]? = some m → m.event = .emitting →
        Whole e (m.registered.map Prod.snd) (storyOf e s'.moments)) ∧
    (∀ depth value p s', run listen depth (.step (.emit value)) s = (.panicked p, s') →
      Cut s.moments.length (s.entries.map Prod.snd) (storyOf s.moments.length s'.moments)) ∧
    ∀ depth x (s₁ s₂ : State ℓ) o, run listen depth (.step x) s₁ = (o, s₂) →
      ∃ T L inner, s₁.Extends s₂ T L ∧ taken T = inner ++ (if o.returns then [x] else []) ∧
        ((∀ value, x ≠ .emit value) → inner = []) := by
  obtain ⟨hrecorded, hdelivered⟩ := recorded_of_played hplayed
  refine ⟨hrecorded.accurate, hrecorded.sound.accurate, hrecorded.sound.names_eq, hdelivered, ?_, ?_,
    fun _ _ _ _ _ => taken_of_run listen⟩
  · intro depth x a s' hrun e m hge hm hemitting
    have hproceeds := proceeding_run listen depth (.step x) s ⟨hrecorded, nofun⟩
    rw [hrun] at hproceeds
    exact (hproceeds.newer e m hge hm hemitting).resolve_right nofun
  · intro depth value p s' hrun
    cases depth with
    | zero => cases hrun
    | succ depth =>
      obtain ⟨hpanicked, hs'⟩ := Prod.mk.inj ((takeStep_eq ..).symm.trans hrun)
      rw [hpanicked, if_neg nofun] at hs'
      rw [← registered_eq]
      exact (emission_story (proceeding_run listen depth) value ⟨hrecorded, nofun⟩
        (Prod.ext hpanicked hs')).2

/-- Listeners of four kinds: the first subscribes one and drops the handle of another, the second emits
while it hears of another emission, the third panics when it hears of that, the fourth does nothing. -/
def unruly : Listening Nat := fun l turn value =>
  if turn ≠ 0 then none
  else match l with
    | 0 => some ([.subscribe "late" 3, .drop "b"], 3)
    | 1 => if value = "outer" then some ([.emit "inner"], 1) else none
    | 2 => if value = "inner" then some ([.panic .other], 2) else none
    | _ => none

/-- The state behind a step of a session with such listeners. -/
def afterUnruly (s : State Nat) (x : Step Nat) : State Nat := (run unruly 16 (.step x) s).2

/-- The steps of such a session are taken from outside. -/
theorem played_afterUnruly (s : State Nat) (xs : List (Step Nat)) :
    ReflTransGen (Played unruly) s (xs.foldl afterUnruly s) := by
  induction xs generalizing s with
  | nil => exact .refl
  | cons x xs ih => exact .head ⟨16, x, s.log, rfl⟩ (ih _)

/-- Five subscriptions. One handle is detached before its name is dropped, one is unsubscribed, and then
an emission panics. -/
def unrulySteps : List (Step Nat) :=
  [.subscribe "a" 0, .subscribe "b" 1, .subscribe "kept" 3, .subscribe "c" 2, .subscribe "gone" 3,
    .detach "kept", .drop "kept", .unsubscribe "gone", .emit "outer"]

/-- Who was detached stays, who was unsubscribed goes. An emission calls a listener whose handle is
dropped meanwhile, and not the one that is subscribed meanwhile. A panic in an emission inside it cuts
both; of the next two emissions, one is whole and the other is cut by a panic again. When a handle is
replaced, its listener goes and another comes. -/
theorem delivery_unruly :
    let s := unrulySteps.foldl afterUnruly .start
    let s' := afterUnruly s (.emit "again")
    let s'' := afterUnruly s (.emit "inner")
    let replaced := afterUnruly s' (.subscribe "c" 3)
    Accurate (taken s.moments) s.entries ∧
      taken s.moments = unrulySteps.dropLast ++ [.subscribe "late" 3, .drop "b"] ∧
      s.entries = [(0, 0), (2, 2), (3, 3), (5, 5)] ∧
      ¬ IsRegistered (taken s.moments) 1 ∧ IsRegistered (taken s.moments) 2 ∧
      ¬ IsRegistered (taken s.moments) 4 ∧
      s.listeners.map Prod.fst = names (taken s.moments) ∧
      Cut 8 [0, 1, 2, 3] (storyOf 8 s.moments) ∧
      storyOf 8 s.moments = [.called 8 0, .returned 8 0, .called 8 1] ∧
      Cut 14 [0, 2, 3, 5] (storyOf 14 s.moments) ∧
      storyOf 14 s.moments =
        [.called 14 0, .returned 14 0, .called 14 2, .returned 14 2, .called 14 3] ∧
      Whole 20 [0, 2, 3, 5] (storyOf 20 s'.moments) ∧
      Cut s.moments.length [0, 2, 3, 5] (storyOf s.moments.length s''.moments) ∧
      Accurate (taken replaced.moments) replaced.entries ∧
      replaced.entries = [(0, 0), (2, 2), (5, 5), (6, 6)] := by
  intro s s' s'' replaced
  have hplayed : ReflTransGen (Played unruly) .start s := played_afterUnruly _ _
  have hreplaced : ReflTransGen (Played unruly) .start replaced :=
    hplayed.trans (played_afterUnruly s [.emit "again", .subscribe "c" 3])
  obtain ⟨-, haccurate, hnames, hdelivered, hreturned, hpanicked, -⟩ := delivery unruly hplayed
  obtain ⟨-, haccurate', -⟩ := delivery unruly hreplaced
  have htaken : taken s.moments = unrulySteps.dropLast ++ [.subscribe "late" 3, .drop "b"] := by
    decide +kernel
  have hentries : s.entries = [(0, 0), (2, 2), (3, 3), (5, 5)] := by decide +kernel
  have hregistered (number : Nat) : IsRegistered (taken s.moments) number ↔
      (number, number) ∈ [(0, 0), (2, 2), (3, 3), (5, 5)] := by
    rw [← hentries, haccurate.mem_iff, and_iff_right rfl]
  have houter := (hdelivered 8 ⟨.emitting, [(0, 0), (1, 1), (2, 2), (3, 3)]⟩ (by decide +kernel)
    rfl).resolve_left (by decide +kernel)
  have hinner := (hdelivered 14 ⟨.emitting, [(0, 0), (2, 2), (3, 3), (5, 5)]⟩ (by decide +kernel)
    rfl).resolve_left (by decide +kernel)
  have hagain := hreturned 16 (.emit "again") .nothing s' (Prod.ext (by decide +kernel) rfl) 20
    ⟨.emitting, [(0, 0), (2, 2), (3, 3), (5, 5)]⟩ (by decide +kernel) (by decide +kernel) rfl
  have hpanic := hpanicked 16 "inner" .other s'' (Prod.ext (by decide +kernel) rfl)
  rw [hentries] at hpanic
  refine ⟨haccurate, htaken, hentries, ?_, ?_, ?_, hnames (htaken ▸ by decide), houter,
    by decide +kernel, hinner, by decide +kernel, hagain, hpanic, haccurate', by decide +kernel⟩
  all_goals
    rw [hregistered]
    decide

end NestedRouting.Broadcast
