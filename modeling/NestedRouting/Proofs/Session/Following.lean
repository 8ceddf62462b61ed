import Mathlib.Logic.Relation
import NestedRouting.Proofs.Lookup
import NestedRouting.Proofs.Session.Leads
import NestedRouting.Proofs.Session.Notices
import NestedRouting.Session.Open

/-!
# The navigator follows its history

A navigator that navigates by its history and observes its traversals has read the location of the
history whenever a call from outside returns (`navigator_follows_history`). While listeners run the
two may differ: a traversal moves the history first and then notifies its hearers in order, and
hearers before the navigator can navigate or traverse themselves. What carries the proof is that a
task that makes the two differ ends with the navigator reading the location again (`Arrives`), and
that no other task makes them differ (`Follows`).
-/

namespace NestedRouting

/-- The traversals of the history of the navigator. -/
def traversals : Source := (0, popstate)

/-! ## Channels -/

namespace Channel

variable {ℓ : Type} {c : Channel ℓ} {number : Nat} {listener : ℓ}

/-- Whether a listener is registered under a number that has been given. -/
def Holds (c : Channel ℓ) (number : Nat) (listener : ℓ) : Prop :=
  (number, listener) ∈ c.entries ∧ number < c.next

/-- A listener stays registered when another one is added. -/
theorem Holds.subscribe (h : c.Holds number listener) (other : ℓ) :
    (c.subscribe other).Holds number listener :=
  ⟨List.mem_append_left _ h.1, Nat.lt_succ_of_lt h.2⟩

/-- A listener stays registered when another number is removed. -/
theorem Holds.cancel (h : c.Holds number listener) {other : Nat} (hne : other ≠ number) :
    (c.cancel other).Holds number listener :=
  ⟨List.mem_filter.2 ⟨h.1, by simpa using hne.symm⟩, h.2⟩

/-- A new listener is registered under the next number. -/
theorem holds_subscribe (c : Channel ℓ) (listener : ℓ) :
    (c.subscribe listener).Holds c.next listener :=
  ⟨List.mem_append_right _ (.head _), Nat.lt_succ_self _⟩

end Channel

/-! ## Sites -/

namespace Site

variable {ℓ : Type} {P : ℓ → Prop} {k : Nat} {s s' s'' : Site ℓ}

/-- The hearers of one source change and those of the others do not. -/
theorem hearersOf_changeHearers (s : Site ℓ) (source source' : Source)
    (f : Channel Hearer → Channel Hearer) : (s.changeHearers source f).hearersOf source' =
      if source' = source then f (s.hearersOf source) else s.hearersOf source' := by
  unfold changeHearers hearersOf
  split
  · next h =>
    subst h
    simp
  · next h =>
    rw [List.lookup_cons, beq_eq_false_iff_ne.2 h]
    show (List.lookup source' _).getD _ = _
    rw [lookup_filter_ne h]

/-- Whether the path of the navigator is the location of its history. -/
def InStep (s : Site ℓ) : Prop := s.observed = s.histories[0]?.map History.location

/-- Whether a navigator, of which the host has a handle, hears the traversals of its history under a
number that belongs to no subscription of the host. All listeners satisfy `P`. -/
structure Tuned (P : ℓ → Prop) (k : Nat) (s : Site ℓ) : Prop where
  present : s.navigator.isSome = true
  handled : s.handles ≠ 0
  rooted : s.histories ≠ []
  admitted : ∀ l ∈ s.listeners, P l.2
  hears : (s.hearersOf traversals).Holds k .navigator
  reserved : ∀ id, (id, Subscription.event traversals k) ∉ s.subscriptions

/-- A change after which the navigator hears the traversals of its history, and which does not make
its path differ from the location. -/
structure Follows (P : ℓ → Prop) (k : Nat) (s s' : Site ℓ) : Prop where
  tuned : s'.Tuned P k
  inStep : s.InStep → s'.InStep

theorem Follows.trans (h : s.Follows P k s') (h' : s'.Follows P k s'') : s.Follows P k s'' :=
  ⟨h'.tuned, fun hs => h'.inStep (h.inStep hs)⟩

/-- Nothing makes the path differ that changes neither the path nor the histories. -/
theorem Tuned.follows (hs : s'.Tuned P k) (hobserved : s'.observed = s.observed)
    (hhistories : s'.histories = s.histories) : s.Follows P k s' :=
  ⟨hs, fun h => by rw [InStep, hobserved, hhistories, h]⟩

/-- Whether two sites are alike in all that decides whether the navigator follows its history. -/
structure Alike (s s' : Site ℓ) : Prop where
  navigator_eq : s'.navigator = s.navigator
  handles_eq : s'.handles = s.handles
  histories_eq : s'.histories = s.histories
  listeners_eq : s'.listeners = s.listeners
  hearers_eq : s'.hearers = s.hearers
  subscriptions_eq : s'.subscriptions = s.subscriptions

/-- A site follows if it is alike in all that matters. -/
theorem Alike.follows (h : s.Alike s') (hs : s.Tuned P k) : s.Follows P k s' := by
  obtain ⟨hnavigator, hhandles, hhistories, hlisteners, hhearers, hsubscriptions⟩ := h
  refine Tuned.follows ⟨?_, ?_, ?_, ?_, ?_, ?_⟩ (by rw [observed, hnavigator, observed]) hhistories
  · rw [hnavigator]
    exact hs.present
  · rw [hhandles]
    exact hs.handled
  · rw [hhistories]
    exact hs.rooted
  · rw [hlisteners]
    exact hs.admitted
  · rw [hearersOf, hhearers]
    exact hs.hears
  · rw [hsubscriptions]
    exact hs.reserved

theorem Follows.refl (hs : s.Tuned P k) : s.Follows P k s := hs.follows rfl rfl

variable (hs : s.Tuned P k)
include hs

/-- A change of the navigator leaves its registration alone. -/
theorem Tuned.changeNavigator (f : Navigator → Navigator) : (s.changeNavigator f).Tuned P k where
  present := (Option.isSome_map ..).trans hs.present
  handled := hs.handled
  rooted := hs.rooted
  admitted := hs.admitted
  hears := hs.hears
  reserved := hs.reserved

/-- A change of the navigator that keeps its path. -/
theorem follows_changeNavigator {f : Navigator → Navigator} (hf : ∀ n, (f n).path = n.path) :
    s.Follows P k (s.changeNavigator f) := by
  obtain ⟨n, hn⟩ := Option.isSome_iff_exists.1 hs.present
  refine (hs.changeNavigator f).follows ?_ rfl
  rw [observed_of_navigator (navigator_changeNavigator f hn), observed_of_navigator hn, hf]

/-- A change of a history leaves registrations alone. -/
theorem Tuned.changeHistory (history : Nat) (f : History → History) :
    (s.changeHistory history f).Tuned P k where
  present := hs.present
  handled := hs.handled
  rooted h := hs.rooted (List.modify_eq_nil_iff.1 h)
  admitted := hs.admitted
  hears := hs.hears
  reserved := hs.reserved

/-- Other histories than that of the navigator can change. -/
theorem follows_changeHistory {history : Nat} (hne : history ≠ 0) (f : History → History) :
    s.Follows P k (s.changeHistory history f) := by
  refine ⟨hs.changeHistory history f, fun h => ?_⟩
  have hsame : (s.changeHistory history f).histories[0]? = s.histories[0]? := by
    rw [Site.changeHistory, List.getElem?_modify]
    simp [hne]
  rw [InStep, hsame]
  exact h

/-- Hearers may change as long as the navigator still hears the traversals. -/
theorem follows_changeHearers {source : Source} {f : Channel Hearer → Channel Hearer}
    (hf : source = traversals → (f (s.hearersOf traversals)).Holds k .navigator) :
    s.Follows P k (s.changeHearers source f) := by
  refine Tuned.follows ⟨hs.present, hs.handled, hs.rooted, hs.admitted, ?_, hs.reserved⟩ rfl rfl
  rw [hearersOf_changeHearers]
  split
  · next h =>
    subst h
    exact hf rfl
  · exact hs.hears

/-- A handle that is forgotten takes no registration with it. -/
theorem follows_forget (id : String) : s.Follows P k (s.forget id) :=
  Tuned.follows ⟨hs.present, hs.handled, hs.rooted, hs.admitted, hs.hears,
    fun id' h => hs.reserved id' ((List.mem_filter.1 h).1)⟩ rfl rfl

/-- A subscription is cancelled that is not the navigator's. -/
theorem follows_cancel {sub : Subscription} (hsub : sub ≠ .event traversals k) :
    s.Follows P k (s.cancel sub) := by
  cases sub with
  | path number => exact follows_changeNavigator hs fun _ => rfl
  | event source number =>
    refine follows_changeHearers hs (f := fun c => c.cancel number) fun h => hs.hears.cancel ?_
    rintro rfl
    exact hsub (by rw [h])

/-- A stored subscription is not that of the navigator. -/
theorem Tuned.ne_of_stored {id : String} {sub : Subscription}
    (h : s.subscription? id = some sub) : sub ≠ .event traversals k := by
  rintro rfl
  exact hs.reserved id (mem_of_lookup_eq_some h)

/-- A subscription is stored that is not the navigator's, in place of one that is not either. -/
theorem follows_store (id : String) {sub : Subscription} (hsub : sub ≠ .event traversals k) :
    s.Follows P k (s.store id sub) := by
  have hforget := follows_forget hs id
  have hstored : s.Follows P k
      { s.forget id with subscriptions := (id, sub) :: (s.forget id).subscriptions } := by
    refine Tuned.follows ⟨hs.present, hs.handled, hs.rooted, hs.admitted, hs.hears,
      fun id' h => ?_⟩ rfl rfl
    rcases List.mem_cons.1 h with h | h
    · exact hsub (Prod.mk.inj h).2.symm
    · exact hforget.tuned.reserved id' h
  unfold store
  cases hold : s.subscription? id with
  | none => exact hstored
  | some old => exact hstored.trans (follows_cancel hstored.tuned (hs.ne_of_stored hold))

/-- The listeners change, and all are still permitted. -/
theorem follows_listeners {listeners : List (String × ℓ)} (hP : ∀ l ∈ listeners, P l.2) :
    s.Follows P k { s with listeners } :=
  Tuned.follows ⟨hs.present, hs.handled, hs.rooted, hP, hs.hears, hs.reserved⟩ rfl rfl

/-- One more permitted listener. -/
theorem Tuned.admitted_append (id : String) {listener : ℓ} (hl : P listener) :
    ∀ l ∈ s.listeners ++ [(id, listener)], P l.2 :=
  List.forall_mem_append.2 ⟨hs.admitted, List.forall_mem_singleton.2 hl⟩

/-- A permitted listener of the path is registered. -/
theorem follows_subscribe (id : String) {listener : ℓ} (hl : P listener) :
    s.Follows P k (s.subscribe id listener) := by
  obtain ⟨n, hn⟩ := Option.isSome_iff_exists.1 hs.present
  have hadded : s.Follows P k { s with
      navigator := some { n with listeners := n.listeners.subscribe s.listeners.length }
      listeners := s.listeners ++ [(id, listener)] } :=
    Tuned.follows ⟨rfl, hs.handled, hs.rooted, hs.admitted_append id hl, hs.hears, hs.reserved⟩
      (observed_of_navigator hn).symm rfl
  unfold subscribe
  rw [hn]
  exact hadded.trans (follows_store hadded.tuned id nofun)

/-- A new hearer of the traversals has a number of its own. -/
theorem follows_hostSubscribe (source : Source) (id : String) {listener : ℓ} (hl : P listener) :
    s.Follows P k (s.hostSubscribe source id listener) := by
  have hhearers : s.Follows P k
      (s.changeHearers source (·.subscribe (.listener s.listeners.length))) :=
    follows_changeHearers hs fun _ => hs.hears.subscribe _
  have hadded := hhearers.trans (follows_listeners hhearers.tuned (hs.admitted_append id hl))
  refine hadded.trans (follows_store hadded.tuned id fun h => ?_)
  obtain ⟨rfl, hk⟩ := Subscription.event.inj h
  exact Nat.ne_of_gt hs.hears.2 hk

/-- A use of the navigator ends, and the handle of the host keeps the navigator. -/
theorem follows_release : s.Follows P k s.release := by
  have hsettle : s.release = { s with held := s.held - 1 } := if_neg fun h => hs.handled h.1
  rw [hsettle]
  exact Alike.follows ⟨rfl, rfl, rfl, rfl, rfl, rfl⟩ hs

/-- A listener that has taken a turn. -/
theorem follows_turn (number : Nat) {after : ℓ} (hafter : P after) : s.Follows P k
    { s with listeners := s.listeners.modify number fun l => (l.1, after) } :=
  follows_listeners hs (forall_modify hs.admitted number hafter)

/-- A navigator that does not read the cell reads the location of its history. -/
theorem Tuned.some_currentPath {env : Setup ℓ} (hread : env.readsCell = false) :
    some (env.currentPath s) = s.histories[0]?.map History.location := by
  obtain ⟨h, hh⟩ : ∃ h, s.histories[0]? = some h :=
    ⟨_, List.getElem?_eq_getElem (List.length_pos_iff.2 hs.rooted)⟩
  simp [Setup.currentPath, hread, hh]

/-- The navigator reads the location. -/
theorem inStep_changeNavigator {env : Setup ℓ} (hread : env.readsCell = false)
    {f : Navigator → Navigator} (hf : ∀ n, (f n).path = env.currentPath s) :
    (s.changeNavigator f).InStep := by
  obtain ⟨n, hn⟩ := Option.isSome_iff_exists.1 hs.present
  rw [InStep, observed_of_navigator (navigator_changeNavigator f hn), hf]
  exact hs.some_currentPath hread

end Site

/-! ## Code -/

open Act Run

variable {ℓ : Type} {P : ℓ → Prop} {k : Nat} {env : Setup ℓ} {rec : Performer ℓ}

/-- What code does that does not make the path differ from the location. -/
def Keeping (P : ℓ → Prop) (k : Nat) (returns : Bool) (w w' : World ℓ) : Prop :=
  returns = true → w.host.Tuned P k → w.host.Follows P k w'.host

/-- What code does that ends with the location read. -/
def Arriving (P : ℓ → Prop) (k : Nat) (returns : Bool) (w w' : World ℓ) : Prop :=
  returns = true → w.host.Tuned P k → w'.host.Tuned P k ∧ w'.host.InStep

instance keeping_composes : Composes (@Keeping ℓ P k) where
  refl _ _ _ hs := .refl hs
  trans h h' hreturns hs := (h rfl hs).trans (h' hreturns (h rfl hs).tuned)

section
variable {α β : Type}

/-- Code that ends with the location read does not leave the path different from it. -/
theorem keeping_of_arriving {r : Act ℓ α} (hr : r.Leads (Arriving P k)) :
    r.Leads (Keeping P k) := fun w hreturns hs =>
  ⟨(hr w hreturns hs).1, fun _ => (hr w hreturns hs).2⟩

/-- A change of the site that follows, as code. -/
theorem keeping_change {f : Site ℓ → Site ℓ} (hf : ∀ s : Site ℓ, s.Tuned P k → s.Follows P k (f s)) :
    (change f).Leads (Keeping P k) := fun w _ hs => hf w.host hs

/-- A change of what does not matter, as code. -/
theorem keeping_alike {f : Site ℓ → Site ℓ} (hf : ∀ s : Site ℓ, s.Alike (f s)) :
    (change f).Leads (Keeping P k) := keeping_change fun s hs => (hf s).follows hs

/-- The location is read first, and nothing makes the path differ afterwards. -/
theorem arriving_bind {r : Act ℓ α} {f : α → Act ℓ β} (hr : r.Leads (Arriving P k))
    (hf : ∀ a, (f a).Leads (Keeping P k)) : (r >>= f).Leads (Arriving P k) :=
  leads_andThen hr hf
    (fun h h' hreturns hs =>
      let ⟨htuned, hstep⟩ := h rfl hs
      ⟨(h' hreturns htuned).tuned, (h' hreturns htuned).inStep hstep⟩)
    fun _ => nofun

/-- Whatever is done first, the location is read at the end. -/
theorem bind_arriving {r : Act ℓ α} {f : α → Act ℓ β} (hr : r.Leads (Keeping P k))
    (hf : ∀ a, (f a).Leads (Arriving P k)) : (r >>= f).Leads (Arriving P k) :=
  leads_andThen hr hf (fun h h' hreturns hs => h' hreturns (h rfl hs).tuned) fun _ => nofun

/-- A change of the history, if the location is read again afterwards. -/
theorem change_arriving {f : Site ℓ → Site ℓ} {r : Unit → Act ℓ β}
    (hf : ∀ s : Site ℓ, s.Tuned P k → (f s).Tuned P k) (hr : (r ()).Leads (Arriving P k)) :
    (change f >>= r).Leads (Arriving P k) :=
  fun w hreturns hs => hr { w with host := f w.host } hreturns (hf w.host hs)

/-- Code with a change at its end. -/
theorem keeping_atEnd {r : Act ℓ α} {f : Site ℓ → Site ℓ} (hr : r.Leads (Keeping P k))
    (hf : ∀ s : Site ℓ, s.Tuned P k → s.Follows P k (f s)) : (atEnd r f).Leads (Keeping P k) :=
  leads_finish hr fun _ _ _ h hreturns hs =>
    (h hreturns hs).trans (hf _ (h hreturns hs).tuned)

/-- Code that uses the navigator meanwhile. -/
theorem keeping_holding {r : Act ℓ α} (hr : r.Leads (Keeping P k)) :
    (holding r).Leads (Keeping P k) :=
  leads_bind (keeping_alike fun _ => ⟨rfl, rfl, rfl, rfl, rfl, rfl⟩) fun _ =>
    keeping_atEnd hr fun _ hs => Site.follows_release hs

/-- Code that uses the navigator meanwhile and ends with the location read. -/
theorem arriving_holding {r : Act ℓ α} (hr : r.Leads (Arriving P k)) :
    (holding r).Leads (Arriving P k) :=
  bind_arriving (keeping_alike fun _ => ⟨rfl, rfl, rfl, rfl, rfl, rfl⟩) fun _ =>
    leads_finish hr fun _ _ _ h hreturns hs =>
      let hrelease := Site.follows_release (h hreturns hs).1
      ⟨hrelease.tuned, hrelease.inStep (h hreturns hs).2⟩

/-- A task of which the answer is not looked at. -/
theorem arriving_silently {t : Task ℓ} (ht : (rec t).Leads (Arriving P k)) :
    (silently rec t).Leads (Arriving P k) := arriving_bind ht fun _ => leads_pure ()

/-- It is enough that one element of a list arrives. -/
theorem arriving_forEach {f : α → Act ℓ Unit} {a : α} {as : List α} (ha : a ∈ as)
    (harrives : (f a).Leads (Arriving P k)) (hf : ∀ b ∈ as, (f b).Leads (Keeping P k)) :
    (Run.forEach f as).Leads (Arriving P k) := by
  induction as with
  | nil => cases ha
  | cons b as ih =>
    have hrest : ∀ b ∈ as, (f b).Leads (Keeping P k) := fun b hb => hf b (.tail _ hb)
    rcases List.mem_cons.1 ha with rfl | ha
    · exact arriving_bind harrives fun _ => leads_forEach hrest
    · exact bind_arriving (hf b (.head _)) fun _ => ih ha hrest

end

/-! ## Tasks -/

/-- Whether a step leaves the navigator in reach and attached, and its history to the navigator. All
listeners satisfy `P`. Rendering runs content, which is not a listener. -/
def Step.Follows (P : ℓ → Prop) : Step ℓ → Prop
  | .subscribe _ listener | .hostSubscribe _ _ _ listener => P listener
  | .push history .. | .replace history .. => history ≠ 0
  | .attach .. | .detach | .render | .close => False
  | _ => True

/-- Whether listeners in `P` stay there, and take only such steps. -/
def Setup.Follows (env : Setup ℓ) (P : ℓ → Prop) : Prop :=
  ∀ l turn value steps after, P l → env.listen l turn value = some (steps, after) →
    P after ∧ ∀ s ∈ steps, s.Follows P

/-- Whether a way to do tasks keeps the path from differing from the location, and reads the location
where it should. -/
structure Performer.Follows (P : ℓ → Prop) (k : Nat) (rec : Performer ℓ) : Prop where
  step : ∀ s : Step ℓ, s.Follows P → (rec (.step s)).Leads (Keeping P k)
  refresh : (rec .refresh).Leads (Arriving P k)
  round : ∀ path, (rec (.round path)).Leads (Keeping P k)
  fire : ∀ source, (rec (.fire source)).Leads (Keeping P k)
  fire_traversals : (rec (.fire traversals)).Leads (Arriving P k)
  turns : ∀ number turn value, (rec (.turns number turn value)).Leads (Keeping P k)

section
variable (hrec : rec.Follows P k)
include hrec

/-- A listener is notified. -/
theorem keeping_notify (value : Option String) (number : Nat) :
    (notify rec value number).Leads (Keeping P k) := by
  refine leads_bind (leads_gets _) fun listener => ?_
  cases listener with
  | none => exact leads_pure ()
  | some l =>
    refine leads_bind (keeping_alike fun s => ?_) fun _ => leads_silently (hrec.turns _ _ _)
    cases value <;> exact ⟨rfl, rfl, rfl, rfl, rfl, rfl⟩

/-- Rounds tell listeners of a path that has been read already. -/
theorem keeping_round (path : String) : (performRound rec path).Leads (Keeping P k) := by
  have htake : (takePending : Act ℓ _).Leads (Keeping P k) :=
    leads_bind (leads_gets _) fun _ =>
      leads_bind (keeping_change fun s hs => Site.follows_changeNavigator hs fun _ => rfl) fun _ =>
        leads_pure _
  refine leads_bind (keeping_alike fun _ => ⟨rfl, rfl, rfl, rfl, rfl, rfl⟩) fun _ =>
    leads_bind (leads_gets _) fun _ =>
      leads_bind (leads_forEach fun number _ => keeping_notify hrec _ number) fun _ =>
        leads_bind htake fun waiting => ?_
  cases waiting with
  | none => exact leads_pure _
  | some path => exact hrec.round path

/-- Reading the location, within rounds and outside. -/
theorem arriving_refresh (hread : env.readsCell = false) :
    (performRefresh env rec).Leads (Arriving P k) := by
  intro w hreturns hs
  obtain ⟨n, hn⟩ := Option.isSome_iff_exists.1 hs.present
  revert hreturns
  unfold performRefresh
  rw [site_bind, site_bind, hn]
  simp only
  split
  · next hpath =>
    refine fun _ => ⟨hs, ?_⟩
    show w.host.InStep
    rw [Site.InStep, Site.observed_of_navigator hn, hpath]
    exact hs.some_currentPath hread
  · split
    · rw [change_bind]
      exact fun _ => ⟨hs.changeNavigator _, Site.inStep_changeNavigator hs hread fun _ => rfl⟩
    · rw [change_bind]
      have hround := leads_bind
        (keeping_atEnd (leads_silently (hrec.round (env.currentPath w.host)))
          fun s hs => Site.follows_changeNavigator hs
            (f := fun n => { n with dispatching := false, pending := none }) fun _ => rfl)
        fun _ => leads_pure (Answer.flag true)
      intro hreturns
      have hfollows := hround _ hreturns (hs.changeNavigator _)
      exact ⟨hfollows.tuned,
        hfollows.inStep (Site.inStep_changeNavigator hs hread fun _ => rfl)⟩

/-- One of the hearers is notified, the navigator or a listener of the host. -/
theorem keeping_hear (hearer : Hearer) : (hear rec hearer).Leads (Keeping P k) := by
  cases hearer with
  | listener number => exact keeping_notify hrec none number
  | navigator =>
    refine leads_bind (leads_gets _) fun navigator => ?_
    split
    · exact keeping_of_arriving (arriving_holding (arriving_silently hrec.refresh))
    · exact leads_pure ()

/-- The navigator hears of an event by reading the location. -/
theorem arriving_hear : (hear rec .navigator).Leads (Arriving P k) := by
  intro w hreturns hs
  have hreads : hear rec .navigator w = holding (silently rec .refresh) w := by
    show (site Site.navigator >>= _) w = _
    rw [site_bind, if_pos hs.present]
  rw [hreads] at hreturns ⊢
  exact arriving_holding (arriving_silently hrec.refresh) w hreturns hs

/-- An event is made known to its hearers. -/
theorem keeping_fire (source : Source) : (performFire rec source).Leads (Keeping P k) :=
  leads_bind (leads_gets _) fun _ =>
    leads_bind (leads_forEach fun hearer _ => keeping_hear hrec hearer) fun _ => leads_pure _

/-- The navigator is among the hearers of a traversal, wherever it stands among them. -/
theorem arriving_fire : (performFire rec traversals).Leads (Arriving P k) := by
  intro w hreturns hs
  have hmem : Hearer.navigator ∈ (w.host.hearersOf traversals).listeners :=
    List.mem_map_of_mem hs.hears.1
  exact arriving_bind (arriving_forEach hmem (arriving_hear hrec)
    fun hearer _ => keeping_hear hrec hearer) (fun _ => leads_pure Answer.nothing) w hreturns hs

/-- In its turns a listener takes permitted steps. -/
theorem keeping_turns (henv : env.Follows P) (number turn : Nat) (value : Option String) :
    (performTurns env rec number turn value).Leads (Keeping P k) := by
  intro w hreturns hs
  revert hreturns
  unfold performTurns
  rw [site_bind]
  cases hlisten : (w.host.listeners[number]?).bind fun l => env.listen l.2 turn value with
  | none => exact fun _ => .refl hs
  | some p =>
    obtain ⟨steps, after⟩ := p
    obtain ⟨l, hl, hlisten⟩ := Option.bind_eq_some_iff.1 hlisten
    obtain ⟨hafter, hsteps⟩ :=
      henv _ _ _ _ _ (hs.admitted l (List.mem_of_getElem? hl)) hlisten
    have hstep : ∀ s ∈ steps, (nestedStep rec s).Leads (Keeping P k) := fun s hs =>
      leads_bind (hrec.step s (hsteps s hs)) fun _ =>
        keeping_alike fun _ => ⟨rfl, rfl, rfl, rfl, rfl, rfl⟩
    have hturn := leads_bind (keeping_change fun s hs => Site.follows_turn hs number hafter)
      fun _ => leads_bind (leads_forEach hstep) fun _ => hrec.turns number (turn + 1) value
    exact fun hreturns => hturn w hreturns hs

/-! ### Steps -/

/-- A traversal of the history of the navigator notifies the navigator. -/
theorem keeping_traverse (history : Nat) (delta : Int) :
    (traverse env rec history delta).Leads (Keeping P k) := by
  refine leads_bind (leads_gets _) fun _ => leads_onTarget fun h => ?_
  cases h.go delta with
  | none => exact leads_pure _
  | some h =>
    by_cases hhistory : history = 0
    · subst hhistory
      exact keeping_of_arriving (change_arriving (fun _ hs => hs.changeHistory 0 _)
        (arriving_bind (arriving_silently hrec.fire_traversals) fun _ => leads_pure _))
    · exact leads_bind (keeping_change fun _ hs => Site.follows_changeHistory hs hhistory _)
        fun _ => leads_bind (leads_silently (hrec.fire _)) fun _ => leads_pure _

/-- Navigation writes to the history and then lets the navigator read the location. -/
theorem keeping_navigate (hnavigating : env.navigating = .history) (path : String)
    (data : Option Data) (replace : Bool) :
    (performStep env rec (.navigate path data replace)).Leads (Keeping P k) := by
  have htuned : ∀ s : Site ℓ, s.Tuned P k → (env.navigate s path data replace).Tuned P k := by
    intro s hs
    rw [Setup.navigate, hnavigating]
    exact hs.changeHistory 0 _
  exact leads_bind (leads_gets _) fun _ => leads_onTarget fun _ => keeping_holding
    (keeping_of_arriving (change_arriving htuned
      (arriving_bind (arriving_silently hrec.refresh) fun _ => leads_pure _)))

omit hrec in
/-- A subscription that the host has stored is ended. -/
theorem keeping_endSubscription (id : String) (remove : Bool) :
    (endSubscription id remove : Act ℓ Answer).Leads (Keeping P k) := by
  intro w hreturns hs
  revert hreturns
  unfold endSubscription
  rw [site_bind]
  cases hsub : w.host.subscription? id with
  | none => exact fun _ => .refl hs
  | some sub =>
    intro _
    have hforget := Site.follows_forget hs id
    cases remove with
    | true => exact hforget.trans (Site.follows_cancel hforget.tuned (hs.ne_of_stored hsub))
    | false => exact hforget

/-- No permitted step makes the path differ from the location. -/
theorem keeping_performStep (hnavigating : env.navigating = .history) (s : Step ℓ)
    (hstep : s.Follows P) : (performStep env rec s).Leads (Keeping P k) := by
  cases s with
  | navigate path data replace => exact keeping_navigate hrec hnavigating path data replace
  | refresh =>
    exact leads_bind (leads_gets _) fun _ => leads_onTarget fun _ =>
      keeping_of_arriving (arriving_holding hrec.refresh)
  | subscribe id listener =>
    exact leads_onNavigator (keeping_change fun s hs => Site.follows_subscribe hs id hstep)
  | push | replace =>
    exact leads_onHistory (keeping_change fun s hs => Site.follows_changeHistory hs hstep _)
  | hostSubscribe history id event listener =>
    exact leads_onHistory (keeping_change fun s hs => Site.follows_hostSubscribe hs _ id hstep)
  | back | forward | go => exact keeping_traverse hrec _ _
  | dispatch history event =>
    exact leads_bind (leads_gets _) fun _ => leads_onTarget fun _ =>
      leads_bind (leads_silently (hrec.fire _)) fun _ => leads_pure _
  | unsubscribe | drop | keep => exact keeping_endSubscription _ _
  | attach | detach | render | close => exact hstep.elim
  | matchPath =>
    exact leads_bind (leads_gets _) fun _ => leads_onTarget fun _ =>
      leads_onTarget fun _ => leads_pure _
  | describe => exact fun w => leads_onTarget (fun _ => leads_pure _) w
  | setCell | setFlag =>
    exact leads_bind (keeping_alike fun _ => ⟨rfl, rfl, rfl, rfl, rfl, rfl⟩) fun _ => leads_pure _
  | reset name =>
    simp only [performStep]
    split
    · exact leads_pure _
    · exact leads_bind (leads_modify fun w _ hs => .refl hs) fun _ => leads_pure _
  | panic => exact leads_panic _

end

/-- Tasks keep the path from differing if the tasks nested in them do. -/
theorem follows_perform (hread : env.readsCell = false) (hnavigating : env.navigating = .history)
    (henv : env.Follows P) (hrec : rec.Follows P k) : (perform env rec).Follows P k where
  step := keeping_performStep hrec hnavigating
  refresh := bind_arriving (keeping_alike fun _ => ⟨rfl, rfl, rfl, rfl, rfl, rfl⟩)
    fun _ => arriving_refresh hrec hread
  round := keeping_round hrec
  fire := keeping_fire hrec
  fire_traversals := arriving_fire hrec
  turns := keeping_turns hrec henv

/-- Whatever is done in a session, however deeply tasks are nested. -/
theorem follows_run (hread : env.readsCell = false) (hnavigating : env.navigating = .history)
    (henv : env.Follows P) (depth : Nat) : (run env depth).Follows P k := by
  induction depth with
  | zero => exact ⟨fun _ _ _ => nofun, fun _ => nofun, fun _ _ => nofun, fun _ _ => nofun,
      fun _ => nofun, fun _ _ _ _ => nofun⟩
  | succ depth ih => exact follows_perform hread hnavigating henv ih

/-! ## Calls from outside -/

/-- A call from outside that takes a permitted step and returns. -/
inductive Returned (env : Setup ℓ) (permitted : Step ℓ → Prop) : World ℓ → World ℓ → Prop
  | call {w w' : World ℓ} {depth : Nat} {s : Step ℓ} {a : Answer} : permitted s →
    run env depth (.step s) w = (.returned a, w') → Returned env permitted w w'

/-- A permitted call that is found to return. -/
theorem returned_of_returns {permitted : Step ℓ → Prop} {depth : Nat} {s : Step ℓ} {w : World ℓ}
    (hs : permitted s) (h : (run env depth (.step s) w).1.returns = true) :
    Returned env permitted w (run env depth (.step s) w).2 := by
  rcases hrun : run env depth (.step s) w with ⟨a | e | p | _, w'⟩
  · exact .call hs hrun
  all_goals
    rw [hrun] at h
    cases h

/-- A new navigator has read the location and hears the traversals under a new number. -/
theorem Site.openNavigator_follows (hread : env.readsCell = false) {s : Site ℓ}
    (hhistories : s.histories ≠ []) (hlisteners : ∀ l ∈ s.listeners, P l.2)
    (hstored : ∀ id number, (id, Subscription.event traversals number) ∈ s.subscriptions →
      number < (s.hearersOf traversals).next) :
    (s.openNavigator env popstate).Tuned P (s.hearersOf traversals).next ∧
      (s.openNavigator env popstate).InStep := by
  let s₁ : Site ℓ := { s with
    navigator := some ⟨env.currentPath s, false, none, .empty, none⟩
    handles := 1 }
  let s₂ := s₁.changeHearers traversals fun c => c.subscribe .navigator
  let attached (n : Navigator) : Navigator :=
    { n with attachment := some ⟨traversals, (s.hearersOf traversals).next⟩ }
  have hopened : s.openNavigator env popstate = s₂.changeNavigator attached := by
    unfold openNavigator attach
    rw [if_neg (by decide)]
    rfl
  have hs₂ : s₂.Tuned P (s.hearersOf traversals).next := by
    refine ⟨rfl, Nat.one_ne_zero, hhistories, hlisteners, ?_, fun id h => ?_⟩
    · rw [hearersOf_changeHearers, if_pos rfl]
      exact Channel.holds_subscribe _ _
    · exact Nat.lt_irrefl _ (hstored id _ h)
  have hread₂ : s₂.InStep := hs₂.some_currentPath hread
  rw [hopened]
  have hattached : s₂.Follows P _ (s₂.changeNavigator attached) :=
    follows_changeNavigator hs₂ fun _ => rfl
  exact ⟨hattached.tuned, hattached.inStep hread₂⟩

open Relation

/-- The navigator never drifts from its history. It is opened on a history in any state, with
whatever hearers the history has, and hears its traversals; subscriptions stored before that are of
hearers registered before (`hstored`). Then calls from outside return, one after the other; meanwhile
listeners of the path and hearers of the traversals may navigate, read the location and traverse the
history as well, to any depth, but nobody else writes to the history, gives the navigator up or ends
its observation. At the end the path of the navigator is the location. -/
theorem navigator_follows_history (hread : env.readsCell = false)
    (hnavigating : env.navigating = .history) (henv : env.Follows P) {s : Site ℓ}
    (hhistories : s.histories ≠ []) (hlisteners : ∀ l ∈ s.listeners, P l.2)
    (hstored : ∀ id number, (id, Subscription.event traversals number) ∈ s.subscriptions →
      number < (s.hearersOf traversals).next)
    {failures : List (Nat × Failure)} {w : World ℓ}
    (hcalls : ReflTransGen (Returned env (Step.Follows P))
      ⟨failures, s.openNavigator env popstate⟩ w) :
    ∃ h, w.host.histories[0]? = some h ∧ w.host.observed = some h.location := by
  have hfollows : w.host.Tuned P (s.hearersOf traversals).next ∧ w.host.InStep := by
    induction hcalls with
    | refl => exact Site.openNavigator_follows hread hhistories hlisteners hstored
    | tail _ hcall ih =>
      obtain ⟨hstep, hrun⟩ := hcall
      have hkeeps := (follows_run hread hnavigating henv _).step _ hstep _
        (congrArg (Outcome.returns ·.1) hrun) ih.1
      rw [hrun] at hkeeps
      exact ⟨hkeeps.tuned, hkeeps.inStep ih.2⟩
  obtain ⟨htuned, hstep⟩ := hfollows
  obtain ⟨h, hh⟩ : ∃ h, w.host.histories[0]? = some h :=
    ⟨_, List.getElem?_eq_getElem (List.length_pos_iff.2 htuned.rooted)⟩
  refine ⟨h, hh, ?_⟩
  rw [Site.InStep, hh] at hstep
  exact hstep

/-- Listeners of three kinds: the first navigates once and is then of the last kind, which does
nothing; the second goes back and reads the location when it is told `/c`. -/
def Setup.restless : Setup Nat where
  listen l turn value :=
    if turn ≠ 0 then none
    else if l = 0 then some ([.navigate "/c" none false], 2)
    else if l = 1 ∧ value = some "/c" then some ([.back 0, .refresh], 1)
    else none
  navigating := .history
  readsCell := false
  ownsHistory := false
  tree := none
  boundaries := []

/-- Such listeners take permitted steps only. -/
theorem Setup.restless_follows : Setup.restless.Follows fun _ => True := by
  intro l turn value steps after _ h
  simp only [Setup.restless] at h
  split at h
  · cases h
  · split at h
    · cases h
      exact ⟨trivial, by simp [Step.Follows]⟩
    · split at h
      · cases h
        exact ⟨trivial, by simp [Step.Follows]⟩
      · cases h

/-- The world behind a step of a session with such listeners. -/
def afterRestless (s : Step Nat) (w : World Nat) : World Nat :=
  (run Setup.restless 16 (.step s) w).2

/-- A call of such a session that is found to return. -/
theorem returned_afterRestless {s : Step Nat} {w : World Nat} (hs : s.Follows fun _ => True)
    (h : (run Setup.restless 16 (.step s) w).1.returns = true) :
    Returned Setup.restless (Step.Follows fun _ => True) w (afterRestless s w) :=
  returned_of_returns hs h

/-- A listener that hears of the traversal to `/a` before the navigator does navigates to `/c`; that
makes a listener of the path go back, while the first traversal is still being made known. -/
theorem path_after_nested_traversals :
    let s := (Site.start "/" "").hostSubscribe traversals "early" 0
    let w₁ := afterRestless (.subscribe "path" 1) ⟨[], s.openNavigator Setup.restless popstate⟩
    let w₂ := afterRestless (.navigate "/b" none false)
      (afterRestless (.navigate "/a" none false) w₁)
    let w := afterRestless (.back 0) w₂
    w₂.host.observed = some "/b" ∧
      (∃ h, w.host.histories[0]? = some h ∧ w.host.observed = some h.location) ∧
      w.host.observed = some "/a" ∧
      dispatched w.host.notices = ["/a", "/b", "/c", "/a"] := by
  intro s w₁ w₂ w
  have hopened : ReflTransGen (Returned Setup.restless (Step.Follows fun _ => True))
      ⟨[], s.openNavigator Setup.restless popstate⟩ w₂ :=
    .tail (.tail (.single (returned_afterRestless (s := .subscribe "path" 1) trivial
      (by decide +kernel)))
      (returned_afterRestless (s := .navigate "/a" none false) trivial (by decide +kernel)))
      (returned_afterRestless (s := .navigate "/b" none false) trivial (by decide +kernel))
  have hstored : ∀ id number, (id, Subscription.event traversals number) ∈ s.subscriptions →
      number < (s.hearersOf traversals).next := by
    intro id number h
    cases List.mem_singleton.1 h
    decide
  refine ⟨by decide +kernel, ?_, by decide +kernel, by decide +kernel⟩
  exact navigator_follows_history rfl rfl Setup.restless_follows (by decide) (fun _ _ => trivial)
    hstored (hopened.tail (returned_afterRestless (s := .back 0) trivial (by decide +kernel)))

end NestedRouting
