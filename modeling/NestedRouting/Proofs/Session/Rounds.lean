import Mathlib.Logic.Relation
import NestedRouting.Proofs.Session.Changes
import NestedRouting.Proofs.Session.Notices
import NestedRouting.Session.Open

/-!
# Rounds of notifications

Listeners navigate, traverse histories, subscribe and unsubscribe while they are notified, to any
depth. Every task of a session that returns is an advance of the site (`advances_run`), and so is a
run of calls from outside. Listeners that stay registered are told the same paths in the same order,
and a call that makes a path known ends with the path of its last round (`calls_agree`).
-/

namespace NestedRouting

open Act

variable {ℓ : Type} {P : ℓ → Prop} {env : Setup ℓ} {rec : Performer ℓ}

section
variable {α β : Type}

/-- The path that waits is taken and handed to the code that follows. -/
theorem takePending_bind (g : Option String → Act ℓ β) (w : World ℓ) :
    (takePending >>= g) w = g w.host.waiting
      { w with host := w.host.changeNavigator fun n => { n with pending := none } } := rfl

end

/-! ## Code that advances the site -/

/-- Whether code, when it returns, has advanced the site. -/
def Act.Advances {α : Type} (P : ℓ → Prop) (r : Act ℓ α) : Prop :=
  ∀ w a w', w.host.Sound P → r w = (.returned a, w') → ∃ L, w.host.Advance P w'.host L

/-- What code that advances the site does. -/
def Advancing (P : ℓ → Prop) (returns : Bool) (w w' : World ℓ) : Prop :=
  returns = true → w.host.Sound P → ∃ L, w.host.Advance P w'.host L

instance advancing_composes : Run.Composes (@Advancing ℓ P) where
  refl _ _ _ hs := ⟨[], (Site.Quiet.refl hs).advance⟩
  trans h h' hreturns hs := by
    obtain ⟨L, hL⟩ := h rfl hs
    obtain ⟨L', hL'⟩ := h' hreturns hL.sound
    exact ⟨L ++ L', hL.trans hs hL'⟩

section
variable {α β : Type}

/-- Code advances the site if it leads there whenever it returns. -/
theorem advances_iff {r : Act ℓ α} : r.Advances P ↔ r.Leads (Advancing P) := by
  constructor
  · intro h w hreturns hs
    rcases hr : r w with ⟨a | e | p | _, w'⟩
    · exact h w a w' hs hr
    all_goals
      rw [hr] at hreturns
      cases hreturns
  · intro h w a w' hs hr
    have hadvance := h w
    rw [hr] at hadvance
    exact hadvance rfl hs

/-- A quiet change, as code. -/
theorem advances_change {f : Site ℓ → Site ℓ} (hf : ∀ s : Site ℓ, s.Sound P → s.Quiet P (f s)) :
    Advances P (change f) :=
  advances_iff.2 fun w _ hs => ⟨[], (hf w.host hs).advance⟩

/-- A change that leaves the navigator, its handles, the listeners and the notices as they are. -/
theorem advances_frame {f : Site ℓ → Site ℓ} (hf : ∀ s : Site ℓ, s.Frame (f s)) :
    Advances P (change f) :=
  advances_change fun s hs => (hf s).quiet hs

/-- Code advances the site, and then other code does. -/
theorem advances_bind {r : Act ℓ α} {f : α → Act ℓ β} (hr : r.Advances P)
    (hf : ∀ a, (f a).Advances P) : Advances P (r >>= f) :=
  advances_iff.2 (Run.leads_bind (advances_iff.1 hr) fun a => advances_iff.1 (hf a))

end

/-- Code advances the site that is put together from code that does. -/
theorem closed_advances : Act.Closed fun _ (r : Act ℓ _) => r.Advances P where
  pure a := advances_iff.2 (Run.leads_pure a)
  gets f := advances_iff.2 (Run.leads_gets f)
  panic _ _ _ _ _ h := nomatch h
  heal _ := advances_iff.2 fun _ _ hs => ⟨[], (Site.Quiet.refl hs).advance⟩
  bind := advances_bind
  holding hr := by
    refine advances_bind (advances_frame fun _ => ⟨rfl, rfl, rfl, rfl⟩) fun _ => ?_
    refine advances_iff.2 (Run.leads_finish (advances_iff.1 hr) fun _ _ _ h hreturns hs => ?_)
    obtain ⟨L, hL⟩ := h hreturns hs
    exact ⟨L ++ [], hL.trans hs (Site.quiet_release hL.sound).advance⟩

/-! ## Tasks that advance the site -/

/-- Whether a step keeps the navigator in reach and all listeners in `P`. Rendering runs content,
which is not a listener, and closing gives the navigator up. -/
def Step.Keeps (P : ℓ → Prop) : Step ℓ → Prop
  | .subscribe _ listener | .hostSubscribe _ _ _ listener => P listener
  | .render | .close => False
  | _ => True

/-- Whether listeners in `P` stay there, and take only steps that keep it so. -/
def Setup.Keeps (env : Setup ℓ) (P : ℓ → Prop) : Prop :=
  ∀ l turn value steps after, P l → env.listen l turn value = some (steps, after) →
    P after ∧ ∀ s ∈ steps, s.Keeps P

/-- Whether a way to do tasks advances the site, and does rounds. -/
structure Performer.Advances (P : ℓ → Prop) (rec : Performer ℓ) : Prop where
  step : ∀ s : Step ℓ, s.Keeps P → Act.Advances P (rec (.step s))
  refresh : Act.Advances P (rec .refresh)
  fire : ∀ source, Act.Advances P (rec (.fire source))
  turns : ∀ number turn value, Act.Advances P (rec (.turns number turn value))
  round : ∀ path w a w', w.host.Sound P → w.host.isDispatching = true →
    w.host.waiting = none → w.host.observed = some path →
    rec (.round path) w = (.returned a, w') → ∃ L, w.host.Rounds P w'.host L

section
variable (hrec : rec.Advances P)
include hrec

/-- In its turns a listener takes permitted steps. -/
theorem advances_turns (henv : env.Keeps P) (number turn : Nat) (value : Option String) :
    Advances P (performTurns env rec number turn value) := by
  intro w a w' hs h
  rcases turns_cases env rec number turn value w with
    hnone | ⟨l, steps, after, hl, hlisten, hturn⟩
  · rw [hnone] at h
    exact closed_advances.pure Answer.nothing w a w' hs h
  · obtain ⟨hafter, hsteps⟩ := henv _ _ _ _ _ (hs.admitted l hl) hlisten
    have hrest := closed_advances.turn (fun s hmem => hrec.step s (hsteps s hmem))
      (fun _ _ => advances_frame fun _ => ⟨rfl, rfl, rfl, rfl⟩) (hrec.turns number (turn + 1) value)
    rw [hturn] at h
    exact advances_bind (advances_change fun _ h => Site.quiet_turn h number hafter)
      (fun _ => hrest) w a w' hs h

/-! ### Rounds -/

/-- A listener is told the path of a round that is going on. -/
theorem within_notify {path : String} {number : Nat} {w w' : World ℓ} {a : Unit}
    (hs : w.host.Sound P) (hd : w.host.isDispatching = true)
    (hk : number < w.host.listeners.length)
    (h : notify rec (some path) number w = (.returned a, w')) :
    w.host.Within P w'.host [.heard number path] := by
  unfold notify at h
  obtain ⟨⟨id, l⟩, hl⟩ : ∃ l, w.host.listeners[number]? = some l :=
    ⟨_, List.getElem?_eq_getElem hk⟩
  rw [site_bind, hl] at h
  simp only [change_bind] at h
  have hlogged : w.host.Quiet P (w.host.logged (.heard id path)) :=
    Site.Frame.quiet hs ⟨rfl, rfl, rfl, rfl⟩
  have hnoted := hlogged.toGrows.trans (Site.grows_noted hlogged.sound (.heard number path))
  obtain ⟨L, hL⟩ := closed_advances.silently (hrec.turns _ _ _) _ _ _ hnoted.sound h
  obtain ⟨rfl, hwaits⟩ := hL.waits hd
  exact ⟨hnoted.trans hL.toGrows, hL.dispatching_eq.trans hd, hwaits⟩

/-- The listeners that a round snapshots are told its path one after the other. -/
theorem within_emit {path : String} {ks : List Nat} {w w' : World ℓ} {a : Unit}
    (hs : w.host.Sound P) (hd : w.host.isDispatching = true)
    (hks : ∀ k ∈ ks, k < w.host.listeners.length)
    (h : Run.forEach (notify rec (some path)) ks w = (.returned a, w')) :
    w.host.Within P w'.host (ks.map (Notice.heard · path)) := by
  induction ks generalizing w with
  | nil =>
    cases h
    exact ⟨(Site.Quiet.refl hs).toGrows, hd, .inl ⟨rfl, rfl⟩⟩
  | cons k ks ih =>
    obtain ⟨_, w₁, hk, h⟩ := Run.bind_eq_returned.1 h
    have hfirst := within_notify hrec hs hd (hks k (.head _)) hk
    have hrest := ih hfirst.sound hfirst.dispatching
      (fun j hj => Nat.lt_of_lt_of_le (hks j (.tail _ hj)) hfirst.length_le) h
    exact hfirst.trans hrest

/-- One round tells its path to the listeners that are registered when it starts. -/
theorem within_round {path : String} {w w' : World ℓ} {a : Unit} (hs : w.host.Sound P)
    (hd : w.host.isDispatching = true)
    (h : Run.forEach (notify rec (some path)) w.host.registered
      { w with host := w.host.noted (.round path) } = (.returned a, w')) :
    let L := [.round path] ++ w.host.registered.map (Notice.heard · path)
    w.host.Within P w'.host L ∧ w.host.Agreed w'.host L ∧ dispatched L = [path] := by
  intro L
  have hstart := Site.grows_noted hs (.round path)
  have hemit := within_emit hrec (w := { w with host := w.host.noted (.round path) }) hstart.sound
    hd hstart.sound.known h
  have hdispatched : dispatched L = [path] := by
    rw [dispatched_append, dispatched_heard]
    rfl
  refine ⟨⟨hstart.trans hemit.toGrows, hemit.dispatching, hemit.waits⟩, fun k hk _ => ?_,
    hdispatched⟩
  rw [hdispatched, told_append, told_heard_of_mem path hs.distinct hk]
  rfl

/-- A round, and the rounds of the paths that came up meanwhile. -/
theorem rounds_performRound {path : String} {w w' : World ℓ} {a : Answer}
    (hs : w.host.Sound P) (hd : w.host.isDispatching = true) (hwaiting : w.host.waiting = none)
    (hobserved : w.host.observed = some path)
    (h : performRound rec path w = (.returned a, w')) : ∃ L, w.host.Rounds P w'.host L := by
  unfold performRound at h
  rw [change_bind, site_bind] at h
  obtain ⟨_, w₁, hemit, h⟩ := Run.bind_eq_returned.1 h
  rw [takePending_bind] at h
  obtain ⟨hround, hagreed, hdispatched⟩ := within_round hrec hs hd hemit
  obtain ⟨htake, hd₂, hwaiting₂, hobserved₂⟩ := Site.grows_take hround.sound hround.dispatching
  have hgrows₂ := hround.toGrows.trans htake
  have hagreed₂ := Site.Agreed.trans hs hround.toGrows htake hagreed (Site.agreed_nil _ _)
  rw [List.append_nil] at hgrows₂ hagreed₂
  cases hnext : w₁.host.waiting with
  | none =>
    -- nothing waits: the path is the one that was told
    have hsame : w₁.host.observed = some path := by
      rcases hround.waits with ⟨h, -⟩ | h
      · exact h.trans hobserved
      · exact absurd (h.symm.trans hnext) hround.sound.observed_ne_none
    rw [hnext] at h
    cases h
    refine ⟨_, hgrows₂, hagreed₂, hd₂, hwaiting₂, ?_⟩
    rw [hobserved₂, hsame, hdispatched]
    rfl
  | some next =>
    -- the path that waits is the one that was read last
    have hsame : w₁.host.observed = some next := by
      rcases hround.waits with ⟨-, h⟩ | h
      · rw [h, hwaiting] at hnext
        cases hnext
      · exact h.symm.trans hnext
    rw [hnext] at h
    obtain ⟨L, hL⟩ := hrec.round next _ _ _ htake.sound hd₂ hwaiting₂ (hobserved₂.trans hsame) h
    refine ⟨_, hgrows₂.trans hL.toGrows, .trans hs hgrows₂ hL.toGrows hagreed₂ hL.agreed,
      hL.dispatching, hL.waiting_eq, ?_⟩
    obtain ⟨p, hp⟩ := Option.ne_none_iff_exists'.1 hL.sound.observed_ne_none
    rw [dispatched_append, List.getLast?_append, ← hL.observed_eq, hp]
    rfl

/-- Reading the path again, within rounds and outside. -/
theorem advances_refresh : Advances P (performRefresh env rec) := by
  intro w a w' hs h
  unfold performRefresh at h
  obtain ⟨n, hn⟩ := Option.isSome_iff_exists.1 hs.present
  have hdispatching := Site.isDispatching_of_navigator hn
  rw [site_bind, site_bind, hn] at h
  simp only at h
  split at h
  · cases h
    exact ⟨[], (Site.Quiet.refl hs).advance⟩
  · split at h
    · next hd =>
      rw [change_bind] at h
      cases h
      exact ⟨[], Site.advance_queue hs (hdispatching.trans hd) _⟩
    · next hd =>
      have hd := hdispatching.trans (Bool.not_eq_true _ ▸ hd)
      rw [change_bind] at h
      obtain ⟨_, w₁, hend, h⟩ := Run.bind_eq_returned.1 h
      cases h
      obtain ⟨w₂, hsilent, rfl⟩ := Run.finish_eq_returned.1 hend
      obtain ⟨_, _, hrounds, hret⟩ := Run.bind_eq_returned.1 hsilent
      cases hret
      obtain ⟨hstart, hd₁, hwaiting₁, hobserved₁⟩ := Site.grows_start hs hd (env.currentPath w.host)
      obtain ⟨L, hL⟩ := hrec.round _ _ _ _ hstart.sound hd₁ hwaiting₁ hobserved₁ hrounds
      exact ⟨L, hL.stop hs hd hstart⟩

end

/-! ### Steps -/

/-- What a step changes itself makes nothing known. -/
theorem quiet_changes {s : Step ℓ} (hstep : s.Keeps P) {f : Site ℓ → Site ℓ}
    (hf : s.Changes env f) {s₀ : Site ℓ} (hs : s₀.Sound P) : s₀.Quiet P (f s₀) := by
  cases s with
  | navigate path data inPlace => exact hf ▸ Site.quiet_navigate hs env path data inPlace
  | attach history event => exact hf ▸ Site.routine_quiet.attach _ (history, event) hs
  | detach => exact hf ▸ Site.routine_quiet.detach _ hs
  | subscribe id listener => exact hf ▸ Site.quiet_subscribe hs id hstep
  | hostSubscribe history id event listener =>
    exact hf ▸ Site.quiet_hostSubscribe hs (history, event) id hstep
  | push | replace | setCell | setFlag | keep => exact hf ▸ Site.Frame.quiet hs ⟨rfl, rfl, rfl, rfl⟩
  | back | forward | go =>
    obtain ⟨h, rfl⟩ := hf
    exact Site.Frame.quiet hs ⟨rfl, rfl, rfl, rfl⟩
  | unsubscribe id | drop id =>
    obtain ⟨sub, rfl⟩ := hf
    exact Site.routine_quiet.trans (Site.routine_quiet.forget s₀ id)
      (Site.routine_quiet.cancel _ sub) hs
  | close => exact hstep.elim
  | refresh | dispatch | render | matchPath | describe | reset | panic => exact hf.elim

/-- Tasks advance the site if the tasks nested in them do. -/
theorem advances_perform (henv : env.Keeps P) (hrec : rec.Advances P) :
    (perform env rec).Advances P where
  step s hs := closed_advances.performStep hrec.refresh hrec.fire s
    (fun _ hf => advances_change fun _ => quiet_changes hs hf)
    fun hrender => (hrender ▸ hs : Step.Keeps P .render).elim
  refresh := advances_bind (advances_frame fun _ => ⟨rfl, rfl, rfl, rfl⟩) fun _ =>
    advances_refresh hrec
  fire := closed_advances.performFire hrec.refresh fun _ =>
    closed_advances.notify (fun _ => advances_frame fun _ => ⟨rfl, rfl, rfl, rfl⟩) (hrec.turns _ _ _)
  turns number turn value := advances_turns hrec henv number turn value
  round _ _ _ _ hs hd hwaiting hobserved h :=
    rounds_performRound hrec hs hd hwaiting hobserved h

/-- Without depth no task returns. -/
theorem run_zero_ne_returned {t : Task ℓ} {w w' : World ℓ} {a : Answer} :
    run env 0 t w ≠ (.returned a, w') := nofun

/-- Whatever is done in a session advances the site, however deeply tasks are nested. -/
theorem advances_run (henv : env.Keeps P) (depth : Nat) : (run env depth).Advances P := by
  induction depth with
  | zero =>
    exact ⟨fun _ _ _ _ _ _ h => (run_zero_ne_returned h).elim,
      fun _ _ _ _ h => (run_zero_ne_returned h).elim,
      fun _ _ _ _ _ h => (run_zero_ne_returned h).elim,
      fun _ _ _ _ _ _ _ h => (run_zero_ne_returned h).elim,
      fun _ _ _ _ _ _ _ _ h => (run_zero_ne_returned h).elim⟩
  | succ depth ih => exact advances_perform henv ih

/-! ## Calls from outside -/

/-- A call from outside that returns. -/
inductive Called (env : Setup ℓ) (P : ℓ → Prop) : World ℓ → World ℓ → Prop
  | call {w w' : World ℓ} {depth : Nat} {s : Step ℓ} {a : Answer} : s.Keeps P →
    run env depth (.step s) w = (.returned a, w') → Called env P w w'

/-- A permitted call that is found to return. -/
theorem called_of_returned {depth : Nat} {s : Step ℓ} {w : World ℓ} (hs : s.Keeps P)
    (h : ((run env depth (.step s) w).1 matches .returned _) = true) :
    Called env P w (run env depth (.step s) w).2 := by
  rcases hrun : run env depth (.step s) w with ⟨o, w'⟩
  rw [hrun] at h
  cases o with
  | returned a => exact .call hs hrun
  | failed | panicked | exhausted => cases h

/-- A navigator that has been opened has no listeners, and no round is going on. -/
theorem Site.sound_openNavigator (env : Setup ℓ) (path cell event : String) :
    ((Site.start path cell).openNavigator env event).Sound P ∧
      ((Site.start path cell).openNavigator env event).isDispatching = false := by
  have hs : Site.Sound P { (Site.start path cell : Site ℓ) with
      navigator := some ⟨env.currentPath (Site.start path cell), false, none, .empty, none⟩
      handles := 1 } :=
    ⟨rfl, nofun, .nil, nofun, nofun, fun _ => rfl⟩
  have hattach := routine_quiet.attach _ (0, event) hs
  exact ⟨hattach.sound, hattach.dispatching_eq⟩

open Relation

/-- Calls that return, one after the other, advance the site. -/
theorem advance_of_calls (henv : env.Keeps P) {w w' : World ℓ} (hs : w.host.Sound P)
    (h : ReflTransGen (Called env P) w w') : ∃ L, w.host.Advance P w'.host L := by
  induction h with
  | refl => exact ⟨[], (Site.Quiet.refl hs).advance⟩
  | tail _ hcall ih =>
    obtain ⟨L, hL⟩ := ih
    obtain ⟨hstep, hrun⟩ := hcall
    obtain ⟨L', hL'⟩ := (advances_run henv _).step _ hstep _ _ _ hL.sound hrun
    exact ⟨L ++ L', hL.trans hs hL'⟩

/-- Agreement and convergence of notifications. A session is opened and calls bring it to a state
`w`; further calls bring it to `w'`. Meanwhile two listeners that are registered at both ends have
been told the same paths in the same order. When the next call returns, the path of the navigator is
the one of the last round of that call, or unchanged if there was no round. -/
theorem calls_agree (henv : env.Keeps P) {failures : List (Nat × Failure)}
    {path cell event : String} {w w' : World ℓ}
    (hopened : ReflTransGen (Called env P)
      ⟨failures, (Site.start path cell).openNavigator env event⟩ w)
    (hcalls : ReflTransGen (Called env P) w w') :
    (∃ L, w'.host.notices = w.host.notices ++ L ∧
      ∀ a b, a ∈ w.host.registered → a ∈ w'.host.registered →
        b ∈ w.host.registered → b ∈ w'.host.registered →
        told a L = dispatched L ∧ told a L = told b L) ∧
    ∀ w'', Called env P w' w'' → ∃ L, w''.host.notices = w'.host.notices ++ L ∧
      w''.host.observed = (dispatched L).getLast?.or w'.host.observed := by
  obtain ⟨hs₀, hd₀⟩ := Site.sound_openNavigator (P := P) env path cell event
  obtain ⟨L₁, h₁⟩ := advance_of_calls henv hs₀ hopened
  obtain ⟨L, hL⟩ := advance_of_calls henv h₁.sound hcalls
  refine ⟨⟨L, hL.notices_eq, fun a b ha ha' hb hb' => ⟨hL.agreed a ha ha', ?_⟩⟩, fun w'' h => ?_⟩
  · rw [hL.agreed a ha ha', hL.agreed b hb hb']
  · obtain ⟨L', hL'⟩ := advance_of_calls henv hL.sound (.single h)
    have hd : w'.host.isDispatching = false :=
      (hL.dispatching_eq.trans h₁.dispatching_eq).trans hd₀
    exact ⟨L', hL'.notices_eq, hL'.observed_eq hd⟩

/-- A navigator with listeners of two kinds: one navigates twice when it is told `/a`, the other
does nothing. -/
def Setup.eager : Setup Bool where
  listen l turn value :=
    if l = true ∧ turn = 0 ∧ value = some "/a" then
      some ([.navigate "/b" none false, .navigate "/c" none false], l)
    else none
  navigating := .history
  readsCell := false
  ownsHistory := false
  tree := none
  boundaries := []

/-- The listeners of this session take permitted steps only. -/
theorem Setup.eager_keeps : Setup.eager.Keeps fun _ => True := by
  intro l turn value steps after _ h
  simp only [Setup.eager] at h
  split at h
  · cases h
    exact ⟨trivial, by simp [Step.Keeps]⟩
  · cases h

/-- The world behind a step of a session with such listeners. -/
def afterEager (s : Step Bool) (w : World Bool) : World Bool :=
  (run Setup.eager 12 (.step s) w).2

/-- A session in which one listener of each kind is registered. -/
def eagerListening : World Bool :=
  afterEager (.subscribe "idle" false) (afterEager (.subscribe "eager" true)
    ⟨[], (Site.start "/" "").openNavigator Setup.eager popstate⟩)

/-- Both listeners are told `/a` and then `/c`, where the navigator ends: the navigations to `/b` and
`/c` wait for the end of the first round, and the newer one replaces the older one. -/
theorem told_in_two_rounds :
    let w := afterEager (.navigate "/a" none false) eagerListening
    Called Setup.eager (fun _ => True) eagerListening w ∧
      ∃ L, w.host.notices = eagerListening.host.notices ++ L ∧ told 0 L = told 1 L ∧
        told 0 L = ["/a", "/c"] ∧ w.host.observed = some "/c" := by
  intro w
  have hcall : Called Setup.eager (fun _ => True) eagerListening w :=
    called_of_returned trivial (by decide +kernel)
  have hopened : ReflTransGen (Called Setup.eager fun _ => True)
      ⟨[], (Site.start "/" "").openNavigator Setup.eager popstate⟩ eagerListening :=
    .tail (.single (called_of_returned (s := .subscribe "eager" true) trivial (by decide +kernel)))
      (called_of_returned (s := .subscribe "idle" false) trivial (by decide +kernel))
  obtain ⟨⟨L, hL, hagreed⟩, -⟩ := calls_agree Setup.eager_keeps hopened (.single hcall)
  have hboth : ∀ k ∈ [0, 1], k ∈ eagerListening.host.registered ∧ k ∈ w.host.registered := by
    decide +kernel
  obtain ⟨-, hsame⟩ := hagreed 0 1 (hboth 0 (by decide)).1 (hboth 0 (by decide)).2
    (hboth 1 (by decide)).1 (hboth 1 (by decide)).2
  have hnotices : eagerListening.host.notices = [] := by decide +kernel
  rw [hnotices, List.nil_append] at hL
  refine ⟨hcall, L, by rw [hnotices, List.nil_append, hL], hsame, ?_, by decide +kernel⟩
  rw [← hL]
  decide +kernel

end NestedRouting
