import NestedRouting.Proofs.Session.Enrolment
import NestedRouting.Proofs.Session.Updates

/-!
# Observing one event at a time

The host attaches the navigator to events and detaches it, makes handles of it and gives them up, and
listeners do so too while they are notified. However that goes, the navigator is registered for the
event that was asked for last and for no other, and for none once its handles are given up
(`navigator_observes_one_event`). What carries the proof is that a task heeds the requests that are
made in it (`Site.Heeds`), where those of listeners are found in the log, and that registrations agree
with the attachment all the time (`Site.Regular`).
-/

namespace NestedRouting

open Act

variable {ℓ : Type} {env : Setup ℓ} {rec : Performer ℓ}

/-! ## Requests -/

/-- What a step asks the navigator to observe, if it asks for anything: an event, or none. -/
def Step.request? : Step ℓ → Option (Option Source)
  | .attach history event => some (observable (history, event))
  | .detach => some none
  | _ => none

/-- What a task that has ended has asked the navigator to observe. A step that finds no navigator or no
history asks for nothing. -/
def Task.asked : Task ℓ → Outcome Empty Answer → List (Option Source)
  | .step s, .returned .nothing => s.request?.toList
  | _, _ => []

/-- What a step of a listener has asked the navigator to observe. -/
def LogEntry.asked : LogEntry ℓ → List (Option Source)
  | .nested s answer => (Task.step s).asked (.returned answer)
  | _ => []

/-- What the steps of listeners have asked the navigator to observe, in order. -/
def requests (E : List (LogEntry ℓ)) : List (Option Source) := E.flatMap LogEntry.asked

/-- What is asked for in one stretch of the log and then in another. -/
theorem requests_append (E E' : List (LogEntry ℓ)) :
    requests (E ++ E') = requests E ++ requests E' := List.flatMap_append

/-- A step without a request asks for nothing, however it ends. -/
theorem Task.asked_of_request? {s : Step ℓ} (hs : s.request? = none) (o : Outcome Empty Answer) :
    (Task.step s).asked o = [] := by
  unfold Task.asked
  split
  · next heq =>
    cases heq
    rw [hs]
    rfl
  · rfl

namespace Site

variable {s s' s'' : Site ℓ} {E E' : List (LogEntry ℓ)} {Q Q' : List (Option Source)}
  {R R' : List String}

/-- Whether registrations agree with the attachment, and the navigator is there if the host has a
handle, and otherwise only as long as it is used. -/
structure Regular (s : Site ℓ) : Prop extends Enrolled s where
  gone : s.handles = 0 → s.held = 0 → s.navigator = none
  present : s.handles ≠ 0 → s.navigator.isSome = true

/-- What happens between two moments of a session: entries `E` are logged, and the paths `R` are read
again. A navigator that is still there observes what was asked for last in `Q`, and its path is the last
of `R`. A navigator that has gone does not come back. -/
structure Heeds (s s' : Site ℓ) (E : List (LogEntry ℓ)) (Q : List (Option Source)) (R : List String) :
    Prop where
  log_eq : s'.log = s.log ++ E
  held_eq : s'.held = s.held
  length_eq : s'.histories.length = s.histories.length
  readings_eq : s'.readings = s.readings ++ R
  vanished : s.navigator = none → s'.navigator = none
  attached_eq : s'.navigator.isSome = true → s'.attached? = Q.getLast?.getD s.attached?
  observed_eq : s'.navigator.isSome = true → s'.observed = R.getLast?.or s.observed

/-- Requests of two stretches are heeded one after the other; the last of both counts. -/
theorem Heeds.trans (h : s.Heeds s' E Q R) (h' : s'.Heeds s'' E' Q' R') :
    s.Heeds s'' (E ++ E') (Q ++ Q') (R ++ R') := by
  have hbefore (hpresent : s''.navigator.isSome = true) : s'.navigator.isSome = true := by
    rw [Option.isSome_iff_ne_none] at hpresent ⊢
    exact fun hnone => hpresent (h'.vanished hnone)
  refine ⟨?_, h'.held_eq.trans h.held_eq, h'.length_eq.trans h.length_eq, ?_,
    fun hnone => h'.vanished (h.vanished hnone), fun hpresent => ?_, fun hpresent => ?_⟩
  · rw [h'.log_eq, h.log_eq, List.append_assoc]
  · rw [h'.readings_eq, h.readings_eq, List.append_assoc]
  · rw [h'.attached_eq hpresent, h.attached_eq (hbefore hpresent), List.getLast?_append]
    cases Q'.getLast? <;> rfl
  · rw [h'.observed_eq hpresent, h.observed_eq (hbefore hpresent), List.getLast?_append,
      Option.or_assoc]

theorem Heeds.refl (s : Site ℓ) : s.Heeds s [] [] [] :=
  ⟨(List.append_nil _).symm, rfl, rfl, (List.append_nil _).symm, id, fun _ => rfl, fun _ => rfl⟩

/-! ## Changes that keep the navigator -/

/-- A change that logs `E` and neither lets the navigator go, nor changes its path or how often it is
used, how many handles there are, or how many histories. -/
structure Steady (s s' : Site ℓ) (E : List (LogEntry ℓ)) : Prop where
  log_eq : s'.log = s.log ++ E
  readings_eq : s'.readings = s.readings
  observed_eq : s'.observed = s.observed
  handles_eq : s'.handles = s.handles
  held_eq : s'.held = s.held
  length_eq : s'.histories.length = s.histories.length

theorem Steady.trans (h : s.Steady s' E) (h' : s'.Steady s'' E') : s.Steady s'' (E ++ E') where
  log_eq := by rw [h'.log_eq, h.log_eq, List.append_assoc]
  readings_eq := h'.readings_eq.trans h.readings_eq
  observed_eq := h'.observed_eq.trans h.observed_eq
  handles_eq := h'.handles_eq.trans h.handles_eq
  held_eq := h'.held_eq.trans h.held_eq
  length_eq := h'.length_eq.trans h.length_eq

/-- The navigator is there if it has a path. -/
theorem Steady.present_eq (h : s.Steady s' E) : s'.navigator.isSome = s.navigator.isSome := by
  have hobserved := congrArg Option.isSome h.observed_eq
  rwa [observed, observed, Option.isSome_map, Option.isSome_map] at hobserved

/-- A steady change heeds requests if the attachment afterwards is what was asked for last. -/
theorem Steady.heeds (h : s.Steady s' E) (hattached : s'.attached? = Q.getLast?.getD s.attached?) :
    s.Heeds s' E Q [] where
  log_eq := h.log_eq
  held_eq := h.held_eq
  length_eq := h.length_eq
  readings_eq := by rw [h.readings_eq, List.append_nil]
  vanished hnone := by
    have hpresent := h.present_eq
    rw [hnone] at hpresent
    exact Option.not_isSome_iff_eq_none.1 (Bool.eq_false_iff.1 hpresent)
  attached_eq _ := hattached
  observed_eq _ := h.observed_eq

/-- After a steady change registrations have to be looked at only. -/
theorem Steady.regular (h : s.Steady s' E) (hs : s.Regular) (henrolled : s'.Enrolled) :
    s'.Regular where
  toEnrolled := henrolled
  gone hhandles hheld := by
    have hpresent := h.present_eq
    rw [hs.gone (h.handles_eq.symm.trans hhandles) (h.held_eq.symm.trans hheld)] at hpresent
    exact Option.not_isSome_iff_eq_none.1 (Bool.eq_false_iff.1 hpresent)
  present hhandles := h.present_eq.trans (hs.present fun h' => hhandles (h.handles_eq.trans h'))

/-- A change is steady if all that it must not change is equal. -/
theorem steady_of_eq (hlog : s'.log = s.log) (hreadings : s'.readings = s.readings)
    (hobserved : s'.observed = s.observed) (hhandles : s'.handles = s.handles)
    (hheld : s'.held = s.held) (hlength : s'.histories.length = s.histories.length) :
    s.Steady s' [] :=
  ⟨by rw [hlog, List.append_nil], hreadings, hobserved, hhandles, hheld, hlength⟩

/-- A change of the navigator that leaves its path as it is. -/
theorem steady_changeNavigator {f : Navigator → Navigator} (hf : ∀ n, (f n).path = n.path)
    (s : Site ℓ) : s.Steady (s.changeNavigator f) [] := by
  refine steady_of_eq rfl rfl ?_ rfl rfl rfl
  rw [observed, observed, changeNavigator, Option.map_map]
  exact congrArg (Option.map · s.navigator) (funext hf)

/-- To attach and detach the navigator is steady, and it is to store and to cancel subscriptions. -/
theorem routine_steady : Routine fun s s' : Site ℓ => s.Steady s' [] where
  trans := Steady.trans
  hosts _ _ _ := steady_of_eq rfl rfl rfl rfl rfl rfl
  attachment s _ := by
    refine steady_changeNavigator ?_ s
    exact fun _ => rfl
  listener s _ := by
    refine steady_changeNavigator ?_ s
    exact fun _ => rfl

/-- A hearer of the host that is registered changes nothing of the navigator. -/
theorem steady_hostSubscribe (s : Site ℓ) (source : Source) (id : String) (listener : ℓ) :
    s.Steady (s.hostSubscribe source id listener) [] :=
  routine_steady.hostSubscribe s source id listener fun _ _ => steady_of_eq rfl rfl rfl rfl rfl rfl

/-! ## The end of the navigator -/

/-- A navigator that goes is not asked what it observes. -/
theorem heeds_settle (s : Site ℓ) : s.Heeds s.settle [] [] [] := by
  unfold settle
  split
  · have hdetach := routine_steady.detach s
    have hreadings : s.detach.readings = s.readings ++ [] := by
      rw [hdetach.readings_eq, List.append_nil]
    exact ⟨hdetach.log_eq, hdetach.held_eq, hdetach.length_eq, hreadings, fun _ => rfl, nofun, nofun⟩
  · exact .refl s

/-- No navigator observes nothing. -/
theorem attachment?_of_none (h : s.navigator = none) : s.attachment? = none := by
  rw [attachment?, h]
  rfl

/-- Without handles and uses the navigator goes, and with it its registration. -/
theorem Enrolled.settle (hs : s.Enrolled)
    (hpresent : s.handles ≠ 0 → s.navigator.isSome = true) : s.settle.Regular := by
  unfold Site.settle
  split
  · next h =>
    have hdetach := routine_steady.detach s
    have henrolled : Enrolled { s.detach with navigator := none } :=
      hs.detach.congr rfl (attachment?_detach s).symm fun _ h => h
    exact ⟨henrolled, fun _ _ => rfl, fun hhandles =>
      (hhandles (hdetach.handles_eq.trans h.1)).elim⟩
  · next h => exact ⟨hs, fun hhandles hheld => (h ⟨hhandles, hheld⟩).elim, hpresent⟩

/-- Handles are given up; with the last one the navigator goes, unless it is used. -/
theorem Regular.giveUp (hs : s.Regular) {handles : Nat} (hle : handles ≤ s.handles) :
    (({ s with handles } : Site ℓ).settle).Regular := by
  have henrolled : Enrolled { s with handles } := hs.toEnrolled.congr rfl rfl fun _ h => h
  exact henrolled.settle fun hhandles => hs.present (Nat.ne_of_gt
    (Nat.lt_of_lt_of_le (Nat.pos_of_ne_zero hhandles) hle))

/-- Handles are given up without a request. -/
theorem heeds_giveUp (s : Site ℓ) (handles : Nat) :
    s.Heeds ({ s with handles } : Site ℓ).settle [] [] [] := by
  have h := heeds_settle { s with handles }
  exact ⟨h.log_eq, h.held_eq, h.length_eq, h.readings_eq, h.vanished, h.attached_eq, h.observed_eq⟩

/-- A use of the navigator ends. -/
theorem Regular.release (hs : s.Regular) : s.release.Regular := by
  have henrolled : Enrolled { s with held := s.held - 1 } := hs.toEnrolled.congr rfl rfl fun _ h => h
  exact henrolled.settle hs.present

/-- What is heeded while the navigator is used is heeded when the use ends. -/
theorem Heeds.release (h : s.hold.Heeds s' E Q R) : s.Heeds s'.release E Q R := by
  have hreleased : s.Heeds { s' with held := s'.held - 1 } E Q R :=
    ⟨h.log_eq, by rw [h.held_eq]; rfl, h.length_eq, h.readings_eq, h.vanished, h.attached_eq,
      h.observed_eq⟩
  have hsettled := hreleased.trans (heeds_settle _)
  rwa [List.append_nil, List.append_nil, List.append_nil] at hsettled

/-- A use of the navigator begins. -/
theorem Regular.hold (hs : s.Regular) : s.hold.Regular :=
  ⟨hs.toEnrolled.congr rfl rfl fun _ h => h, fun _ h => (Nat.succ_ne_zero _ h).elim, hs.present⟩

/-! ## Changes that leave registrations as they are -/

/-- A change that leaves hearers, the attachment and what handles there are as they are, but for
handles that are forgotten, and logs nothing that asks for anything. -/
structure Aside (s s' : Site ℓ) (E : List (LogEntry ℓ)) : Prop extends Steady s s' E where
  hearers_eq : s'.hearers = s.hearers
  attachment_eq : s'.attachment? = s.attachment?
  stored : ∀ p ∈ s'.subscriptions, p ∈ s.subscriptions
  asks_nothing : requests E = []

/-- A change that leaves registrations as they are keeps them in agreement with the attachment. -/
theorem Aside.regular (h : s.Aside s' E) (hs : s.Regular) : s'.Regular :=
  h.toSteady.regular hs (hs.toEnrolled.congr h.hearers_eq h.attachment_eq h.stored)

/-- A change that leaves registrations as they are asks for nothing, and heeds that. -/
theorem Aside.heeds (h : s.Aside s' E) : s.Heeds s' E (requests E) [] := by
  rw [h.asks_nothing]
  exact h.toSteady.heeds (congrArg (Option.map Attachment.source) h.attachment_eq)

/-- A change leaves registrations as they are if all that concerns them is equal. -/
theorem aside_of_eq (hlog : s'.log = s.log) (hreadings : s'.readings = s.readings)
    (hnavigator : s'.navigator = s.navigator) (hhandles : s'.handles = s.handles)
    (hheld : s'.held = s.held) (hlength : s'.histories.length = s.histories.length)
    (hhearers : s'.hearers = s.hearers)
    (hstored : ∀ p ∈ s'.subscriptions, p ∈ s.subscriptions) : s.Aside s' [] where
  toSteady := steady_of_eq hlog hreadings (congrArg (Option.map Navigator.path) hnavigator) hhandles
    hheld hlength
  hearers_eq := hhearers
  attachment_eq := congrArg (·.bind Navigator.attachment) hnavigator
  stored := hstored
  asks_nothing := rfl

/-- An entry is logged that asks for nothing. -/
theorem aside_logged (s : Site ℓ) {e : LogEntry ℓ} (he : e.asked = []) : s.Aside (s.logged e) [e] where
  toSteady := ⟨rfl, rfl, rfl, rfl, rfl, rfl⟩
  hearers_eq := rfl
  attachment_eq := rfl
  stored _ h := h
  asks_nothing := by rw [requests, List.flatMap_singleton, he]

/-- The navigator changes, but neither its attachment nor its path does. -/
theorem aside_changeNavigator {f : Navigator → Navigator}
    (hf : ∀ n, (f n).attachment = n.attachment) (hpath : ∀ n, (f n).path = n.path) (s : Site ℓ) :
    s.Aside (s.changeNavigator f) [] where
  toSteady := steady_changeNavigator hpath s
  hearers_eq := rfl
  attachment_eq := attachment?_changeNavigator hf
  stored _ h := h
  asks_nothing := rfl

/-- Navigation writes to the history or the cell, and at most logs that. -/
theorem aside_navigate (s : Site ℓ) (path : String) (data : Option Data) (replace : Bool) :
    ∃ E, s.Aside (env.navigate s path data replace) E := by
  have hlogged : s.Aside (s.logged (.navigate path data replace)) [.navigate path data replace] :=
    aside_logged s rfl
  unfold Setup.navigate
  split
  · exact ⟨[], aside_of_eq rfl rfl rfl rfl rfl (List.length_modify ..) rfl fun _ h => h⟩
  · exact ⟨_, hlogged⟩
  · exact ⟨_, ⟨rfl, rfl, rfl, rfl, rfl, rfl⟩, rfl, rfl, fun _ h => h, rfl⟩

/-- A pass that has ended is remembered and at most logged. -/
theorem aside_markRendered (s : Site ℓ) (tree : Tree) (path : String) :
    ∃ E, s.Aside (markRendered tree path s) E := by
  have hpassed : s.Aside (s.passed path) [] := aside_of_eq rfl rfl rfl rfl rfl rfl rfl fun _ h => h
  unfold markRendered
  dsimp only
  split
  · exact ⟨[], hpassed⟩
  · split
    · exact ⟨[.updated path], ⟨rfl, rfl, rfl, rfl, rfl, rfl⟩, rfl, rfl, fun _ h => h, rfl⟩
    · exact ⟨[], aside_of_eq rfl rfl rfl rfl rfl rfl rfl fun _ h => h⟩

/-- The navigator reads a path again and has it from then on. It observes what it has observed. -/
theorem Regular.read (hs : s.Regular) {n n' : Navigator} (hn : s.navigator = some n) {path : String}
    (hattachment : n'.attachment = n.attachment) (hpath : n'.path = path) :
    Regular { s.reread path with navigator := some n' } ∧
      s.Heeds { s.reread path with navigator := some n' } [] [] [path] := by
  have hsame : some n' >>= Navigator.attachment = s.attachment? := by
    rw [attachment?, hn]
    exact hattachment
  refine ⟨⟨hs.toEnrolled.congr rfl hsame fun _ h => h, fun hhandles hheld => ?_, fun _ => rfl⟩, ?_⟩
  · cases hn.symm.trans (hs.gone hhandles hheld)
  · refine ⟨(List.append_nil _).symm, rfl, rfl, rfl, fun hnone => ?_, fun _ => ?_, fun _ => ?_⟩
    · cases hn.symm.trans hnone
    · exact congrArg (Option.map Attachment.source) hsame
    · exact congrArg some hpath

/-- Nobody is there to read a path again. -/
theorem Regular.read_none (hs : s.Regular) (hn : s.navigator = none) (path : String) :
    (s.reread path).Regular ∧ s.Heeds (s.reread path) [] [] [path] :=
  ⟨⟨hs.toEnrolled.congr rfl rfl fun _ h => h, hs.gone, hs.present⟩, (List.append_nil _).symm, rfl, rfl,
    rfl, id, fun _ => rfl, fun hpresent => by cases hn ▸ hpresent⟩

/-! ## Changes of registrations -/

/-- After detaching the navigator is registered for no event. -/
theorem Regular.detach (hs : s.Regular) : s.detach.Regular :=
  (routine_steady.detach s).regular hs hs.toEnrolled.detach

/-- Detaching is what it asks for: to observe nothing. -/
theorem heeds_detach (s : Site ℓ) : s.Heeds s.detach [] [none] [] :=
  (routine_steady.detach s).heeds (congrArg (Option.map Attachment.source) (attachment?_detach s))

/-- After attaching the navigator is registered for the event alone. -/
theorem Regular.attach (hs : s.Regular) (hpresent : s.navigator.isSome = true) (source : Source) :
    (s.attach source).Regular :=
  (routine_steady.attach s source).regular hs (hs.toEnrolled.attach hpresent source)

/-- Attaching is what it asks for: to observe the event, if it can be observed. -/
theorem heeds_attach (hpresent : s.navigator.isSome = true) (source : Source) :
    s.Heeds (s.attach source) [] [observable source] [] :=
  (routine_steady.attach s source).heeds (attached?_attach hpresent source)

/-- A hearer of the host that is registered is not the navigator. -/
theorem Regular.hostSubscribe (hs : s.Regular) (source : Source) (id : String) (listener : ℓ) :
    (s.hostSubscribe source id listener).Regular :=
  (steady_hostSubscribe s source id listener).regular hs
    (hs.toEnrolled.hostSubscribe source id listener)

/-- A hearer of the host that is registered asks the navigator for nothing. -/
theorem heeds_hostSubscribe (s : Site ℓ) (source : Source) (id : String) (listener : ℓ) :
    s.Heeds (s.hostSubscribe source id listener) [] [] [] :=
  (steady_hostSubscribe s source id listener).heeds
    (congrArg (Option.map Attachment.source) (attachment?_hostSubscribe s source id listener))

/-- A listener of the path is registered with the navigator, which observes what it has observed. -/
theorem Regular.subscribe (hs : s.Regular) (id : String) (listener : ℓ) :
    (s.subscribe id listener).Regular ∧ s.Heeds (s.subscribe id listener) [] [] [] := by
  unfold Site.subscribe
  cases hn : s.navigator with
  | none => exact ⟨hs, .refl s⟩
  | some n =>
    let added : Site ℓ := { s with
      navigator := some { n with listeners := n.listeners.subscribe s.listeners.length }
      listeners := s.listeners ++ [(id, listener)] }
    have hadded : s.Aside added [] :=
      ⟨steady_of_eq rfl rfl (congrArg (Option.map Navigator.path) hn).symm rfl rfl rfl, rfl,
        (congrArg (·.bind Navigator.attachment) hn).symm, fun _ h => h, rfl⟩
    have hstored : (added.store id (.path n.listeners.next)).Enrolled :=
      (hadded.regular hs).toEnrolled.store id nofun
    have hsteady := hadded.toSteady.trans (routine_steady.store _ id (.path n.listeners.next))
    refine ⟨hsteady.regular hs hstored, hsteady.heeds ?_⟩
    have hattached := (attachment?_store _ id (.path n.listeners.next)).trans hadded.attachment_eq
    exact congrArg (Option.map Attachment.source) hattached

/-- A stored subscription ends, and with it the registration of its listener, or not. -/
theorem Regular.endSubscription (hs : s.Regular) {id : String} {sub : Subscription}
    (hsub : s.subscription? id = some sub) (remove : Bool) :
    (if remove then (s.forget id).cancel sub else s.forget id).Regular ∧
      s.Heeds (if remove then (s.forget id).cancel sub else s.forget id) [] [] [] := by
  have hforget : s.Aside (s.forget id) [] :=
    aside_of_eq rfl rfl rfl rfl rfl rfl rfl fun _ h => (List.mem_filter.1 h).1
  have hforgotten := hforget.regular hs
  cases remove with
  | false => exact ⟨hforgotten, hforget.heeds⟩
  | true =>
    have hcancelled : ((s.forget id).cancel sub).Enrolled := by
      refine hforgotten.toEnrolled.cancel fun source k hk => ?_
      exact (hs.stored id source k (hk ▸ mem_of_lookup_eq_some hsub)).2
    have hsteady := hforget.toSteady.trans (routine_steady.cancel (s.forget id) sub)
    exact ⟨hsteady.regular hs hcancelled, hsteady.heeds
      (congrArg (Option.map Attachment.source) (attachment?_cancel (s.forget id) sub))⟩

end Site

/-! ## Code that heeds requests -/

/-- What code does that asks for nothing itself: registrations agree with the attachment afterwards,
and the navigator heeds what listeners have asked for meanwhile. -/
def Heeding (_ : Bool) (w w' : World ℓ) : Prop :=
  w.host.Regular → w'.host.Regular ∧ ∃ E R, w.host.Heeds w'.host E (requests E) R

instance heeding_composes : Run.Composes (@Heeding ℓ) where
  refl _ w hs := ⟨hs, [], [], .refl w.host⟩
  trans h h' hs := by
    obtain ⟨hs', E, R, h⟩ := h hs
    obtain ⟨hs'', E', R', h'⟩ := h' hs'
    exact ⟨hs'', E ++ E', R ++ R', requests_append E E' ▸ h.trans h'⟩

/-- A change of the site that asks for nothing, as code. -/
theorem heeding_change {f : Site ℓ → Site ℓ}
    (hf : ∀ s : Site ℓ, s.Regular → (f s).Regular ∧ s.Heeds (f s) [] [] []) :
    (change f).Leads Heeding := fun w hs => ⟨(hf w.host hs).1, [], [], (hf w.host hs).2⟩

/-- A change that leaves registrations as they are, as code. -/
theorem heeding_aside {f : Site ℓ → Site ℓ} (hf : ∀ s : Site ℓ, ∃ E, s.Aside (f s) E) :
    (change f).Leads Heeding := by
  intro w hs
  obtain ⟨E, h⟩ := hf w.host
  exact ⟨h.regular hs, E, [], h.heeds⟩

/-- A change that touches neither hearers nor the navigator, nor what is known of them. -/
theorem heeding_elsewhere {f : Site ℓ → Site ℓ}
    (hf : ∀ s : Site ℓ, s.Aside (f s) []) : (change f).Leads Heeding :=
  heeding_aside fun s => ⟨[], hf s⟩

/-- Code heeds requests that is put together from code that does. -/
theorem closed_heeding : Act.Closed fun _ (r : Act ℓ _) => r.Leads Heeding where
  pure := Run.leads_pure
  gets := Run.leads_gets
  panic := Run.leads_panic
  heal _ w hs := ⟨hs, [], [], .refl w.host⟩
  bind := Run.leads_bind
  holding hr w hs := by
    obtain ⟨hs', E, R, h⟩ := hr { w with host := w.host.hold } hs.hold
    exact ⟨hs'.release, E, R, h.release⟩

/-- What content and fallbacks do heeds requests. -/
theorem casual_heeding : Casual (Heeding (ℓ := ℓ) true) where
  aside h hs := by
    rw [h]
    exact ⟨hs, [], [], .refl _⟩
  trans h h' := heeding_composes.trans h h'
  content w _ _ hs := ⟨(w.host.aside_logged rfl).regular hs, _, [], (w.host.aside_logged rfl).heeds⟩
  fallback w _ _ hs := ⟨(w.host.aside_logged rfl).regular hs, _, [], (w.host.aside_logged rfl).heeds⟩
  setFlag w name value hs := by
    have haside : w.host.Aside (w.host.setFlag name value) [] :=
      Site.aside_of_eq rfl rfl rfl rfl rfl rfl rfl fun _ h => h
    exact ⟨haside.regular hs, [], [], haside.heeds⟩

/-- Whether what is asked for in a task that has ended in a way, and by the task itself, is heeded. -/
def Task.Obeyed (t : Task ℓ) (w : World ℓ) (p : Outcome Empty Answer × World ℓ) : Prop :=
  w.host.Regular →
    p.2.host.Regular ∧ ∃ E R, w.host.Heeds p.2.host E (requests E ++ t.asked p.1) R

section
variable {t : Task ℓ} {w : World ℓ} {p : Outcome Empty Answer × World ℓ}

/-- Code that asks for nothing itself does for a task that asks for nothing. -/
theorem obeyed_iff_heeding (ht : ∀ o, t.asked o = []) (b : Bool) :
    t.Obeyed w p ↔ Heeding b w p.2 := by
  rw [Task.Obeyed, ht, Heeding]
  simp only [List.append_nil]

/-- A task that changes nothing is obeyed if it has asked for nothing. -/
theorem obeyed_of_unchanged (ht : t.asked p.1 = []) (hw : p.2 = w) : t.Obeyed w p := by
  intro hs
  rw [ht, hw]
  exact ⟨hs, [], [], .refl _⟩

end

/-- Whether all tasks are obeyed. -/
def Performer.Heeds (rec : Performer ℓ) : Prop := ∀ t w, Task.Obeyed t w (rec t w)

section
variable (hrec : rec.Heeds)
include hrec

/-- A task that asks for nothing itself, if all tasks are obeyed. -/
theorem heeding_of_heeds {t : Task ℓ} (ht : ∀ o, t.asked o = []) : (rec t).Leads Heeding :=
  fun w => (obeyed_iff_heeding ht _).1 (hrec t w)

/-- What a listener asks for is found in the log. -/
theorem heeding_nestedStep (s : Step ℓ) : (nestedStep rec s).Leads Heeding := by
  intro w
  have hstep := hrec (.step s) w
  show Heeding _ w (Run.andThen (rec (.step s))
    (fun answer => change fun site => site.logged (.nested s answer)) w).2
  unfold Run.andThen
  rcases hrun : rec (.step s) w with ⟨a | e | p | _, w'⟩
  all_goals rw [hrun] at hstep
  · intro hs
    obtain ⟨hs', E, R, h⟩ := hstep hs
    have hlogged : w'.host.Heeds (w'.host.logged (.nested s a)) [.nested s a] [] [] :=
      ⟨rfl, rfl, rfl, (List.append_nil _).symm, id, fun _ => rfl, fun _ => rfl⟩
    have hregular : (w'.host.logged (.nested s a)).Regular :=
      ⟨hs'.toEnrolled.congr rfl rfl fun _ h => h, hs'.gone, hs'.present⟩
    have hasked : requests (E ++ [.nested s a]) =
        (requests E ++ (Task.step s).asked (.returned a)) ++ [] := by
      rw [requests_append, List.append_nil]
      exact congrArg (requests E ++ ·) (List.flatMap_singleton ..)
    exact ⟨hregular, E ++ [.nested s a], R ++ [], hasked ▸ h.trans hlogged⟩
  · exact nomatch e
  all_goals
    intro hs
    obtain ⟨hs', E, R, h⟩ := hstep hs
    exact ⟨hs', E, R, by simpa [Task.asked] using h⟩

/-- A listener is notified, and what it asks for in its turns is found in the log. -/
theorem heeding_notify (value : Option String) (number : Nat) :
    (notify rec value number).Leads Heeding := by
  have hturns := heeding_of_heeds hrec (t := .turns number 0 value) fun _ => rfl
  cases value with
  | none =>
    exact closed_heeding.notify (fun id => heeding_aside fun s => ⟨_, s.aside_logged rfl⟩) hturns
  | some path =>
    refine closed_heeding.tell (fun id => heeding_aside fun s => ⟨[.heard id path], ?_⟩) hturns
    exact ⟨⟨rfl, rfl, rfl, rfl, rfl, rfl⟩, rfl, rfl, fun _ h => h, rfl⟩

/-- Rounds that are started, and that end. -/
theorem heeding_rounds (path : String) : (atEnd (silently rec (.round path)) fun s =>
    s.changeNavigator fun n => { n with dispatching := false, pending := none }).Leads Heeding := by
  refine Run.leads_finish (closed_heeding.silently (heeding_of_heeds hrec fun _ => rfl)) ?_
  intro b w w' h hs
  obtain ⟨hs', E, R, h⟩ := h hs
  have hstop : w'.host.Aside (w'.host.changeNavigator fun n =>
      { n with dispatching := false, pending := none }) [] := by
    refine Site.aside_changeNavigator ?_ ?_ w'.host
    all_goals exact fun _ => rfl
  exact ⟨hstop.regular hs', E ++ [], R ++ [], requests_append E [] ▸ h.trans hstop.heeds⟩

variable (env) in
/-- To read the path again is to have the current path, and then to notify listeners, or not. -/
theorem refresh_eq {w : World ℓ} {n : Navigator} (hn : w.host.navigator = some n) :
    ∃ (n' : Navigator) (r : Act ℓ Answer), n'.attachment = n.attachment ∧
      n'.path = env.currentPath w.host ∧ r.Leads Heeding ∧ perform env rec .refresh w =
        r { w with host := { w.host.reread (env.currentPath w.host) with navigator := some n' } } := by
  have hreread : (w.host.reread (env.currentPath w.host)).navigator = some n := hn
  have hperform : perform env rec .refresh w = performRefresh env rec
      { w with host := w.host.reread (env.currentPath w.host) } := rfl
  have hcurrent : env.currentPath (w.host.reread (env.currentPath w.host)) =
      env.currentPath w.host := rfl
  have hchange (f : Navigator → Navigator) :
      (w.host.reread (env.currentPath w.host)).changeNavigator f =
        { w.host.reread (env.currentPath w.host) with navigator := some (f n) } := by
    rw [Site.changeNavigator, hreread, Option.map_some]
  rw [hperform]
  unfold performRefresh
  rw [site_bind, site_bind, hcurrent, hreread]
  dsimp only
  split
  · next hsame =>
    refine ⟨n, pure (.flag false), rfl, hsame, closed_heeding.pure _, ?_⟩
    rw [← hreread]
  · split
    · let n' : Navigator :=
        { n with path := env.currentPath w.host, pending := some (env.currentPath w.host) }
      rw [change_bind, hchange]
      exact ⟨n', pure (.flag true), rfl, rfl, closed_heeding.pure _, rfl⟩
    · let n' : Navigator := { n with path := env.currentPath w.host, dispatching := true }
      rw [change_bind, hchange]
      exact ⟨n', _, rfl, rfl, closed_heeding.bind (heeding_rounds hrec (env.currentPath w.host))
        fun _ => closed_heeding.pure (.flag true), rfl⟩

variable (env) in
/-- To read the path again: a navigator that is there has the current path then, and the listeners may
let it read more paths. -/
theorem heeds_refresh (w : World ℓ) (hs : w.host.Regular) :
    (perform env rec .refresh w).2.host.Regular ∧ ∃ E R,
      w.host.Heeds (perform env rec .refresh w).2.host E (requests E) (env.currentPath w.host :: R) := by
  cases hn : w.host.navigator with
  | none =>
    have hrefresh : perform env rec .refresh w =
        (.returned (.flag false), { w with host := w.host.reread (env.currentPath w.host) }) := by
      have hreread : (w.host.reread (env.currentPath w.host)).navigator = none := hn
      show performRefresh env rec { w with host := w.host.reread (env.currentPath w.host) } = _
      unfold performRefresh
      rw [site_bind, site_bind, hreread]
      rfl
    rw [hrefresh]
    obtain ⟨hregular, hheeds⟩ := hs.read_none hn (env.currentPath w.host)
    exact ⟨hregular, [], [], hheeds⟩
  | some n =>
    obtain ⟨n', r, hattachment, hpath, hr, hrefresh⟩ := refresh_eq env hrec hn
    obtain ⟨hread, hheeds⟩ := hs.read hn hattachment hpath
    rw [hrefresh]
    obtain ⟨hs', E, R, h⟩ := hr { w with host :=
      { w.host.reread (env.currentPath w.host) with navigator := some n' } } hread
    exact ⟨hs', [] ++ E, R, hheeds.trans h⟩

/-- To read the path again asks for nothing itself. -/
theorem heeding_reread : (perform env rec .refresh).Leads Heeding := by
  intro w hs
  obtain ⟨hs', E, R, h⟩ := heeds_refresh env hrec w hs
  exact ⟨hs', E, _, h⟩

/-- A round asks for nothing itself. -/
theorem heeding_performRound (path : String) : (performRound rec path).Leads Heeding :=
  closed_heeding.performRound
    (heeding_elsewhere fun _ => Site.aside_of_eq rfl rfl rfl rfl rfl rfl rfl fun _ h => h)
    (fun number => heeding_notify hrec (some path) number)
    (heeding_elsewhere fun s => by
      refine Site.aside_changeNavigator ?_ ?_ s
      all_goals exact fun _ => rfl)
    fun _ => heeding_of_heeds hrec fun _ => rfl

/-- An event that is made known asks for nothing itself. -/
theorem heeding_performFire (source : Source) : (performFire rec source).Leads Heeding :=
  closed_heeding.performFire (heeding_of_heeds hrec fun _ => rfl)
    (fun number => heeding_notify hrec none number) source

/-- In its turns a listener takes steps, and each is logged with what it asks for. -/
theorem heeding_performTurns (number turn : Nat) (value : Option String) :
    (performTurns env rec number turn value).Leads Heeding := by
  intro w
  rcases turns_cases env rec number turn value w with hnone | ⟨l, steps, after, -, -, hturn⟩
  · rw [hnone]
    exact closed_heeding.pure Answer.nothing w
  · have hchange : (change fun s : Site ℓ => { s with
        listeners := s.listeners.modify number fun l => (l.1, after) }).Leads Heeding :=
      heeding_elsewhere fun _ => Site.aside_of_eq rfl rfl rfl rfl rfl rfl rfl fun _ h => h
    have hrest := closed_heeding.bind
      (closed_heeding.forEach fun s (_ : s ∈ steps) => heeding_nestedStep hrec s)
      fun _ => heeding_of_heeds hrec (t := .turns number (turn + 1) value) fun _ => rfl
    rw [hturn]
    exact closed_heeding.bind hchange (fun _ => hrest) w

/-- A pass asks for nothing itself, whatever content does. -/
theorem heeding_performRender (tree : Tree) (path : String) :
    (performRender env rec tree path).Leads Heeding := by
  have hrender : (performRender env rec tree path).Leads fun _ => Heeding true := by
    refine performRender_leads casual_heeding (fun path data replace => ?_) ?_
    · exact heeding_of_heeds hrec (t := .step (.navigate path data replace))
        (Task.asked_of_request? rfl)
    · exact closed_heeding.endPass (heeding_aside fun s => s.aside_markRendered tree path)
        fun number value => heeding_of_heeds hrec fun _ => rfl
  exact hrender

/-! ### Steps -/

omit hrec in
/-- What a step changes itself, if it neither asks for anything nor ends a subscription. -/
theorem heeding_changes {s : Step ℓ} (hs : s.request? = none)
    (hunsubscribe : ∀ id, s ≠ .unsubscribe id) (hdrop : ∀ id, s ≠ .drop id)
    {f : Site ℓ → Site ℓ} (hf : s.Changes env f) : (change f).Leads Heeding := by
  cases s with
  | navigate path data inPlace => exact hf ▸ heeding_aside fun s => s.aside_navigate path data inPlace
  | subscribe id listener => exact hf ▸ heeding_change fun s hs => hs.subscribe id listener
  | hostSubscribe history id event listener =>
    exact hf ▸ heeding_change fun s hs =>
      ⟨hs.hostSubscribe (history, event) id listener,
        s.heeds_hostSubscribe (history, event) id listener⟩
  | close =>
    exact hf ▸ heeding_change fun s hs => ⟨hs.giveUp (Nat.zero_le _), s.heeds_giveUp 0⟩
  | keep id =>
    exact hf ▸ heeding_elsewhere fun s => Site.aside_of_eq rfl rfl rfl rfl rfl rfl rfl
      fun _ h => (List.mem_filter.1 h).1
  | push | replace =>
    exact hf ▸ heeding_elsewhere fun _ =>
      Site.aside_of_eq rfl rfl rfl rfl rfl (List.length_modify ..) rfl fun _ h => h
  | setCell | setFlag =>
    exact hf ▸ heeding_elsewhere fun _ => Site.aside_of_eq rfl rfl rfl rfl rfl rfl rfl fun _ h => h
  | back | forward | go =>
    obtain ⟨h, rfl⟩ := hf
    exact heeding_elsewhere fun _ =>
      Site.aside_of_eq rfl rfl rfl rfl rfl (List.length_modify ..) rfl fun _ h => h
  | attach | detach => cases hs
  | unsubscribe id => exact (hunsubscribe id rfl).elim
  | drop id => exact (hdrop id rfl).elim
  | refresh | dispatch | render | matchPath | describe | reset | panic => exact hf.elim

omit hrec in
/-- A handle of a subscription that ends is not that of the navigator. -/
theorem heeding_endSubscription (id : String) (remove : Bool) :
    (endSubscription id remove : Act ℓ Answer).Leads Heeding := by
  intro w
  unfold endSubscription
  rw [site_bind]
  cases hsub : w.host.subscription? id with
  | none => exact closed_heeding.pure _ w
  | some sub =>
    intro hs
    obtain ⟨hregular, hheeds⟩ := hs.endSubscription hsub remove
    exact ⟨hregular, [], [], hheeds⟩

omit hrec in
/-- A change of the navigator that a step asks for is made if the navigator can be reached. -/
theorem obeyed_onNavigator {s : Step ℓ} {request : Option Source} (hs : s.request? = some request)
    {f : Site ℓ → Site ℓ} (hf : ∀ site : Site ℓ, site.Regular → site.navigator.isSome = true →
      (f site).Regular ∧ site.Heeds (f site) [] [request] []) (w : World ℓ) :
    (Task.step s).Obeyed w (onNavigator f w) := by
  unfold onNavigator
  rw [site_bind]
  cases hn : w.host.reachable? with
  | none => exact obeyed_of_unchanged rfl rfl
  | some n =>
    intro hregular
    have hpresent : w.host.navigator.isSome = true := by
      unfold Site.reachable? at hn
      split at hn
      · cases hn
      · rw [hn]
        rfl
    obtain ⟨hregular', hheeds⟩ := hf w.host hregular hpresent
    refine ⟨hregular', [], [], ?_⟩
    show w.host.Heeds (f w.host) [] ([] ++ s.request?.toList) []
    rw [hs]
    exact hheeds

/-- What a step asks for, and what listeners ask for in it, is heeded. -/
theorem obeyed_performStep (s : Step ℓ) (w : World ℓ) :
    (Task.step s).Obeyed w (performStep env rec s w) := by
  have hquiet (hrequest : s.request? = none) (hunsubscribe : ∀ id, s ≠ .unsubscribe id)
      (hdrop : ∀ id, s ≠ .drop id) : (Task.step s).Obeyed w (performStep env rec s w) :=
    (obeyed_iff_heeding (Task.asked_of_request? hrequest) _).2
      (closed_heeding.performStep (heeding_of_heeds hrec fun _ => rfl)
        (fun _ => heeding_of_heeds hrec fun _ => rfl) s
        (fun _ hf => heeding_changes hrequest hunsubscribe hdrop hf)
        (fun _ tree _ path => heeding_performRender hrec tree path) w)
  cases s with
  | attach history event =>
    show (Task.step _).Obeyed w ((site (env.history? · history) >>= fun h =>
      onTarget h fun _ => onNavigator fun s => s.attach (history, event)) w)
    rw [site_bind]
    cases env.history? w.host history with
    | none => exact obeyed_of_unchanged rfl rfl
    | some h =>
      exact obeyed_onNavigator rfl (fun site hsite hpresent =>
        ⟨hsite.attach hpresent (history, event), site.heeds_attach hpresent (history, event)⟩) w
  | detach =>
    exact obeyed_onNavigator rfl (fun site hsite _ => ⟨hsite.detach, site.heeds_detach⟩) w
  | unsubscribe id | drop id =>
    exact (obeyed_iff_heeding (Task.asked_of_request? rfl) _).2 (heeding_endSubscription id true w)
  | _ => exact hquiet rfl nofun nofun

end

/-- However deeply tasks are nested, what is asked for in them is heeded. -/
theorem heeds_run (env : Setup ℓ) (depth : Nat) : (run env depth).Heeds := by
  induction depth with
  | zero =>
    intro t w
    refine obeyed_of_unchanged ?_ rfl
    cases t <;> rfl
  | succ depth ih =>
    intro t w
    cases t with
    | step s => exact obeyed_performStep ih s w
    | refresh => exact (obeyed_iff_heeding (fun _ => rfl) _).2 (heeding_reread ih w)
    | round path => exact (obeyed_iff_heeding (fun _ => rfl) _).2 (heeding_performRound ih path w)
    | fire source => exact (obeyed_iff_heeding (fun _ => rfl) _).2 (heeding_performFire ih source w)
    | turns number turn value =>
      exact (obeyed_iff_heeding (fun _ => rfl) _).2 (heeding_performTurns ih number turn value w)

/-! ## Events -/

/-- Notifies hearers of the host, one after the other. -/
def notifyAll (rec : Performer ℓ) (numbers : List Nat) : Act ℓ Unit :=
  Run.forEach (notify rec none) numbers

/-- Among hearers of the host alone, to make an event known is to notify them. -/
theorem forEach_hear (rec : Performer ℓ) (numbers : List Nat) :
    Run.forEach (hear rec) (numbers.map Hearer.listener) = notifyAll rec numbers := by
  induction numbers with
  | nil => rfl
  | cons number numbers ih =>
    show (notify rec none number).andThen (fun _ => _) = (notify rec none number).andThen fun _ => _
    rw [ih]
    rfl

/-- Hearers without the navigator are hearers of the host. -/
theorem exists_numbers {hearers : List Hearer} (h : Hearer.navigator ∉ hearers) :
    ∃ numbers : List Nat, hearers = numbers.map Hearer.listener := by
  induction hearers with
  | nil => exact ⟨[], rfl⟩
  | cons hearer hearers ih =>
    rw [List.mem_cons, not_or] at h
    obtain ⟨numbers, rfl⟩ := ih h.2
    cases hearer with
    | navigator => exact (h.1 rfl).elim
    | listener number => exact ⟨number :: numbers, rfl⟩

/-- An event that the navigator does not observe is made known to hearers of the host only. -/
theorem fire_unobserved (rec : Performer ℓ) {w : World ℓ} (hs : w.host.Enrolled) {source : Source}
    (hsource : w.host.attached? ≠ some source) : ∃ numbers : List Nat,
      (w.host.hearersOf source).listeners = numbers.map Hearer.listener ∧
      performFire rec source w = (notifyAll rec numbers >>= fun _ => pure .nothing) w := by
  have hcount := hs.count_hearers source
  rw [if_neg hsource, List.count_eq_zero] at hcount
  obtain ⟨numbers, hnumbers⟩ := exists_numbers hcount
  refine ⟨numbers, hnumbers, ?_⟩
  unfold performFire
  rw [site_bind, hnumbers, forEach_hear]

/-- An event that the navigator observes is made known to it in its turn among the hearers. -/
theorem fire_observed (rec : Performer ℓ) {w : World ℓ} (hs : w.host.Enrolled) {source : Source}
    (hsource : w.host.attached? = some source) : ∃ before after : List Nat,
      (w.host.hearersOf source).listeners =
        before.map Hearer.listener ++ .navigator :: after.map Hearer.listener ∧
      performFire rec source w = (notifyAll rec before >>= fun _ => hear rec .navigator >>= fun _ =>
        notifyAll rec after >>= fun _ => pure .nothing) w := by
  obtain ⟨a, ha, rfl⟩ := Option.map_eq_some_iff.1 hsource
  obtain ⟨before, after, hlisteners, hbefore, hafter⟩ := hs.split_hearers ha
  obtain ⟨before, rfl⟩ := exists_numbers hbefore
  obtain ⟨after, rfl⟩ := exists_numbers hafter
  refine ⟨before, after, hlisteners, ?_⟩
  have hturns : Run.forEach (hear rec) (Hearer.navigator :: after.map Hearer.listener) =
      hear rec .navigator >>= fun _ => notifyAll rec after := by
    rw [← forEach_hear]
    rfl
  unfold performFire
  rw [site_bind, hlisteners, Run.forEach_append, forEach_hear, hturns, Run.bind_bind]
  simp only [Run.bind_bind]

variable (env) in
/-- In its turn a navigator that has not gone by then reads the path again. Its path is then the current
one, or one that it reads after that. -/
theorem hear_reads (depth : Nat) {w : World ℓ} (hs : w.host.Regular)
    (hpresent : w.host.navigator ≠ none) : ∃ R,
      (hear (run env (depth + 1)) .navigator w).2.host.readings =
        w.host.readings ++ env.currentPath w.host :: R ∧
      ∀ n, (hear (run env (depth + 1)) .navigator w).2.host.navigator = some n →
        (env.currentPath w.host :: R).getLast? = some n.path := by
  have hhears : hear (run env (depth + 1)) .navigator w =
      holding (silently (run env (depth + 1)) .refresh) w := by
    show (site Site.navigator >>= _) w = _
    rw [site_bind, if_pos (Option.isSome_iff_ne_none.2 hpresent)]
  have hend : (hear (run env (depth + 1)) .navigator w).2.host =
      (perform env (run env depth) .refresh { w with host := w.host.hold }).2.host.release := by
    rw [hhears]
    show (Run.andThen (perform env (run env depth) .refresh) _
      { w with host := w.host.hold }).2.host.release = _
    unfold Run.andThen
    rcases perform env (run env depth) .refresh { w with host := w.host.hold } with ⟨a | e | p | _, w'⟩
    · rfl
    · exact nomatch e
    all_goals rfl
  obtain ⟨-, E, R, h⟩ := heeds_refresh env (heeds_run env depth)
    { w with host := w.host.hold } hs.hold
  have h := h.release
  rw [hend]
  refine ⟨R, h.readings_eq, fun n hn => ?_⟩
  have hobserved := h.observed_eq (hn ▸ rfl)
  rw [Site.observed_of_navigator hn] at hobserved
  rw [List.getLast?_cons] at hobserved ⊢
  exact hobserved.symm

/-! ## Operations of the host -/

/-- What the host does: a step, in which tasks are nested less than `depth` deep, or a handle of the
navigator is made or given up. -/
inductive Operation (ℓ : Type)
  | step (depth : Nat) (s : Step ℓ)
  | clone
  | drop

/-- What an operation and the listeners meanwhile ask the navigator to observe, and the world behind the
operation. -/
def Operation.take (env : Setup ℓ) (w : World ℓ) : Operation ℓ → List (Option Source) × World ℓ
  | .step depth s =>
    let (o, w') := run env depth (.step s) w
    (requests (w'.host.log.drop w.host.log.length) ++ (Task.step s).asked o, w')
  | .clone => ([], { w with host := w.host.clone })
  | .drop => ([], { w with host := w.host.drop })

/-- Takes operations one after the other. -/
def operate (env : Setup ℓ) (w : World ℓ) : List (Operation ℓ) → List (Option Source) × World ℓ
  | [] => ([], w)
  | op :: ops =>
    let (Q, w₁) := op.take env w
    let (Q', w') := operate env w₁ ops
    (Q ++ Q', w')

namespace Site

variable {s : Site ℓ}

/-- A further handle of the navigator is made, if there is one to make it of. -/
theorem Regular.clone (hs : s.Regular) : s.clone.Regular ∧ s.Heeds s.clone [] [] [] := by
  unfold Site.clone
  split
  · exact ⟨hs, .refl s⟩
  · next hhandles =>
    exact ⟨⟨hs.toEnrolled.congr rfl rfl fun _ h => h, fun h => (Nat.succ_ne_zero _ h).elim,
      fun _ => hs.present hhandles⟩, ⟨(List.append_nil _).symm, rfl, rfl, (List.append_nil _).symm, id,
      fun _ => rfl, fun _ => rfl⟩⟩

/-- A handle of the navigator is given up. -/
theorem Regular.drop (hs : s.Regular) : s.drop.Regular ∧ s.Heeds s.drop [] [] [] :=
  ⟨hs.giveUp (Nat.sub_le _ _), s.heeds_giveUp _⟩

end Site

/-- What an operation asks for, and what listeners ask for meanwhile, is heeded. -/
theorem Operation.take_heeds (op : Operation ℓ) {w : World ℓ} (hs : w.host.Regular) :
    (op.take env w).2.host.Regular ∧
      ∃ E R, w.host.Heeds (op.take env w).2.host E (op.take env w).1 R := by
  cases op with
  | step depth s =>
    obtain ⟨hs', E, R, h⟩ := heeds_run env depth (.step s) w hs
    refine ⟨hs', E, R, ?_⟩
    have hlogged : (run env depth (.step s) w).2.host.log.drop w.host.log.length = E := by
      rw [h.log_eq, List.drop_left]
    show w.host.Heeds _ E (requests ((run env depth (.step s) w).2.host.log.drop _) ++ _) R
    rw [hlogged]
    exact h
  | clone => exact ⟨hs.clone.1, [], [], hs.clone.2⟩
  | drop => exact ⟨hs.drop.1, [], [], hs.drop.2⟩

/-- What is asked for in operations, one after the other, is heeded. -/
theorem operate_heeds (ops : List (Operation ℓ)) {w : World ℓ} (hs : w.host.Regular) :
    (operate env w ops).2.host.Regular ∧
      ∃ E R, w.host.Heeds (operate env w ops).2.host E (operate env w ops).1 R := by
  induction ops generalizing w with
  | nil => exact ⟨hs, [], [], .refl w.host⟩
  | cons op ops ih =>
    obtain ⟨hs₁, E, R, h⟩ := op.take_heeds hs
    obtain ⟨hs', E', R', h'⟩ := ih hs₁
    exact ⟨hs', E ++ E', R ++ R', h.trans h'⟩

/-- A new navigator observes the event that it is opened with. -/
theorem Site.regular_openNavigator (env : Setup ℓ) (histories : List History) (cell event : String) :
    ((Site.onHistories histories cell).openNavigator env event).Regular ∧
      ((Site.onHistories histories cell).openNavigator env event).held = 0 ∧
      ((Site.onHistories histories cell).openNavigator env event).histories.length =
        histories.length ∧
      ((Site.onHistories histories cell).openNavigator env event).attached? =
        observable (0, event) := by
  let opened : Site ℓ := { Site.onHistories histories cell with
    navigator := some ⟨env.currentPath (Site.onHistories histories cell), false, none, .empty, none⟩
    handles := 1 }
  have hopened : opened.Regular :=
    ⟨⟨fun _ _ => iff_of_false nofun nofun, fun _ => Channel.numbered_empty, nofun⟩, nofun,
      fun _ => rfl⟩
  have hattach := routine_steady.attach opened (0, event)
  exact ⟨hopened.attach rfl _, hattach.held_eq, hattach.length_eq, attached?_attach rfl _⟩

/-- As long as the host has a handle, every step that asks the navigator to observe an event of a history
that there is, or to observe nothing, is obeyed. -/
theorem run_request (env : Setup ℓ) (depth : Nat) {w : World ℓ} (hs : w.host.Regular)
    (hhandles : w.host.handles ≠ 0) :
    (∀ history event, history < w.host.histories.length →
      (run env (depth + 1) (.step (.attach history event)) w).1 = .returned .nothing ∧
      (run env (depth + 1) (.step (.attach history event)) w).2.host.attached? =
        observable (history, event)) ∧
    (run env (depth + 1) (.step .detach) w).1 = .returned .nothing ∧
    (run env (depth + 1) (.step .detach) w).2.host.attached? = none := by
  have hpresent := hs.present hhandles
  obtain ⟨n, hn⟩ := Option.isSome_iff_exists.1 hpresent
  have hreachable : w.host.reachable? = some n := by rw [Site.reachable?, if_neg hhandles, hn]
  have hchanges (f : Site ℓ → Site ℓ) :
      onNavigator f w = (.returned .nothing, { w with host := f w.host }) := by
    unfold onNavigator
    rw [site_bind, hreachable]
    rfl
  refine ⟨fun history event hlt => ?_, ?_⟩
  · have hhistory : env.history? w.host history = some w.host.histories[history] := by
      rw [Setup.history?, if_neg fun h => hhandles h.2, List.getElem?_eq_getElem hlt]
    have hattach : run env (depth + 1) (.step (.attach history event)) w =
        onNavigator (fun s => s.attach (history, event)) w := by
      show (site (env.history? · history) >>= fun h => onTarget h fun _ => onNavigator fun s =>
        s.attach (history, event)) w = _
      rw [site_bind, hhistory]
      rfl
    rw [hattach, hchanges]
    exact ⟨rfl, Site.attached?_attach hpresent (history, event)⟩
  · show (onNavigator Site.detach w).1 = _ ∧ (onNavigator Site.detach w).2.host.attached? = _
    rw [hchanges]
    exact ⟨rfl, congrArg (Option.map Attachment.source) (Site.attachment?_detach w.host)⟩

/-- The navigator observes one event at a time. It is opened on its own history, beside any others, with
an event to observe, or with none. The host takes operations, in which listeners take steps as they
like, to any depth. Then the navigator is registered once for the event that it observes and for no
other event of any history. It observes what has been asked for last, as long as there is a handle of
it, and then nothing; with a handle the host can let it observe any event of any of the histories, or
none. An event that it observes lets it read the path again in its turn, unless a hearer before it has
let it go: its path is then the current one, until it reads another. An event that it does not observe
is made known to hearers of the host only. -/
theorem navigator_observes_one_event (env : Setup ℓ) (failures : List (Nat × Failure))
    (own : History) (others : List History) (cell event : String) (ops : List (Operation ℓ)) :
    let opened : World ℓ :=
      ⟨failures, (Site.onHistories (own :: others) cell).openNavigator env event⟩
    let asked := (operate env opened ops).1
    let w := (operate env opened ops).2
    (∀ source, (w.host.hearersOf source).listeners.count .navigator =
      if w.host.attached? = some source then 1 else 0) ∧
    w.host.attached? =
      (if w.host.handles = 0 then none else asked.getLast?.getD (observable (0, event))) ∧
    (∀ depth, w.host.handles ≠ 0 →
      (∀ history event, history < (own :: others).length →
        (run env (depth + 1) (.step (.attach history event)) w).1 = .returned .nothing ∧
        (run env (depth + 1) (.step (.attach history event)) w).2.host.attached? =
          observable (history, event)) ∧
      (run env (depth + 1) (.step .detach) w).1 = .returned .nothing ∧
      (run env (depth + 1) (.step .detach) w).2.host.attached? = none) ∧
    ∀ depth source,
      (w.host.attached? ≠ some source → ∃ numbers : List Nat,
        (w.host.hearersOf source).listeners = numbers.map Hearer.listener ∧
        run env (depth + 2) (.fire source) w =
          (notifyAll (run env (depth + 1)) numbers >>= fun _ => pure .nothing) w) ∧
      (w.host.attached? = some source → ∃ before after : List Nat,
        (w.host.hearersOf source).listeners =
          before.map Hearer.listener ++ .navigator :: after.map Hearer.listener ∧
        run env (depth + 2) (.fire source) w = (notifyAll (run env (depth + 1)) before >>= fun _ =>
          hear (run env (depth + 1)) .navigator >>= fun _ =>
          notifyAll (run env (depth + 1)) after >>= fun _ => pure .nothing) w ∧
        ∀ w₁ w₂ o, notifyAll (run env (depth + 1)) before w = (.returned (), w₁) →
          w₁.host.navigator ≠ none → hear (run env (depth + 1)) .navigator w₁ = (o, w₂) →
          ∃ R, w₂.host.readings = w₁.host.readings ++ env.currentPath w₁.host :: R ∧
            ∀ n, w₂.host.navigator = some n →
              (env.currentPath w₁.host :: R).getLast? = some n.path) := by
  intro opened asked w
  obtain ⟨hopened, hheld₀, hlength₀, hattached₀⟩ :=
    Site.regular_openNavigator env (own :: others) cell event
  obtain ⟨hs, E, R, h⟩ : w.host.Regular ∧ ∃ E R, opened.host.Heeds w.host E asked R :=
    operate_heeds ops hopened
  refine ⟨hs.toEnrolled.count_hearers, ?_, fun depth hhandles => ?_, fun depth source =>
    ⟨fire_unobserved _ hs.toEnrolled, fun hsource => ?_⟩⟩
  · split
    · next hhandles =>
      have hgone := hs.gone hhandles (h.held_eq.trans hheld₀)
      rw [Site.attached?, Site.attachment?_of_none hgone]
      rfl
    · next hhandles =>
      rw [h.attached_eq (hs.present hhandles), hattached₀]
  · rw [← h.length_eq.trans hlength₀]
    exact run_request env depth hs hhandles
  · -- the listeners in front of the navigator keep the site regular, whatever they do
    obtain ⟨before, after, hlisteners, hfire⟩ :=
      fire_observed (run env (depth + 1)) hs.toEnrolled hsource
    refine ⟨before, after, hlisteners, hfire, fun w₁ w₂ o hbefore hpresent hhear => ?_⟩
    have hnotified : (notifyAll (run env (depth + 1)) before).Leads Heeding :=
      closed_heeding.forEach fun number _ =>
        heeding_notify (heeds_run env (depth + 1)) none number
    have hregular := (hnotified w hs).1
    rw [hbefore] at hregular
    have hreads := hear_reads env depth hregular hpresent
    rwa [hhear] at hreads

/-- A navigator with a listener that makes it observe `moved` of the second history when it hears of an
event. -/
def Setup.moving : Setup Unit where
  listen _ turn value :=
    if turn = 0 ∧ value = none then some ([.attach 1 "moved"], ()) else none
  navigating := .history
  readsCell := false
  ownsHistory := false
  tree := none
  boundaries := []

/-- The listener hears of a traversal behind the navigator. A second handle is made and given up, and the
own history goes on. -/
def movingOperations : List (Operation Unit) :=
  [.step 8 (.hostSubscribe 0 "mover" popstate ()), .clone, .step 8 (.push 0 "/a" none),
    .step 8 (.back 0), .drop, .step 8 (.push 0 "/b" none)]

/-- The navigator reads the path when it hears of the traversal, and observes `moved` of the second
history from then on, until its last handle is given up. A traversal of its own history does not let it
read the path any more; the event of the second history does, and then its path is the current one. -/
theorem observes_where_moved :
    let opened : World Unit :=
      ⟨[], (Site.onHistories [.start "/", .start "/other"] "").openNavigator Setup.moving popstate⟩
    let w := (operate Setup.moving opened movingOperations).2
    let w' := (operate Setup.moving opened (movingOperations ++ [.drop])).2
    let heard := (run Setup.moving 8 (.step (.dispatch 1 "moved")) w).2
    (operate Setup.moving opened movingOperations).1 = [some (1, "moved")] ∧
    w.host.readings = ["/"] ∧ w.host.observed = some "/" ∧ w.host.attached? = some (1, "moved") ∧
    (w.host.hearersOf (1, "moved")).listeners.count .navigator = 1 ∧
    (w.host.hearersOf (0, "moved")).listeners.count .navigator = 0 ∧
    (w.host.hearersOf (0, popstate)).listeners.count .navigator = 0 ∧
    (∃ before after : List Nat, (w.host.hearersOf (1, "moved")).listeners =
      before.map Hearer.listener ++ .navigator :: after.map Hearer.listener) ∧
    heard.host.readings = ["/", "/b"] ∧ heard.host.observed = some "/b" ∧
    (run Setup.moving 8 (.step (.attach 1 popstate)) w).2.host.attached? = some (1, popstate) ∧
    w'.host.attached? = none ∧
    ∀ source, (w'.host.hearersOf source).listeners.count .navigator = 0 := by
  intro opened w w' heard
  obtain ⟨hcount, hattached, hobeys, hfire⟩ :=
    navigator_observes_one_event Setup.moving [] (.start "/") [.start "/other"] "" popstate
      movingOperations
  obtain ⟨hcount', hattached', -⟩ :=
    navigator_observes_one_event Setup.moving [] (.start "/") [.start "/other"] "" popstate
      (movingOperations ++ [.drop])
  have hasked : (operate Setup.moving opened movingOperations).1 = [some (1, "moved")] := by
    decide +kernel
  have hhandles : w.host.handles = 1 ∧ w'.host.handles = 0 := by decide +kernel
  have hhandle : w.host.handles ≠ 0 := hhandles.1 ▸ Nat.one_ne_zero
  have hmoved : w.host.attached? = some (1, "moved") := by
    rw [hattached, if_neg hhandle, hasked]
    rfl
  have hgone : w'.host.attached? = none := by rw [hattached', if_pos hhandles.2]
  obtain ⟨before, after, hlisteners, -⟩ := (hfire 0 (1, "moved")).2 hmoved
  obtain ⟨hother, -⟩ := hobeys 7 hhandle
  refine ⟨hasked, by decide +kernel, by decide +kernel, hmoved, ?_, ?_, ?_,
    ⟨before, after, hlisteners⟩, by decide +kernel, by decide +kernel,
    (hother 1 popstate (by decide)).2, hgone, fun source => ?_⟩
  · rw [hcount, if_pos hmoved]
  · rw [hcount, if_neg (hmoved ▸ by decide)]
  · rw [hcount, if_neg (hmoved ▸ by decide)]
  · rw [hcount', if_neg (hgone ▸ nofun)]

end NestedRouting
