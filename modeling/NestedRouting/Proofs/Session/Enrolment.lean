import Mathlib.Data.List.Nodup
import NestedRouting.Proofs.Session.Following

/-!
# The navigator among the hearers of events

A navigator that observes an event is registered among its hearers under a number, which the
attachment has. `Site.Enrolled` says that this is its only registration, on any event, and that no
handle of the host is of that number. Everything that changes hearers keeps it so: to attach enrols
the navigator anew before its old registration is cancelled, so what matters is that the numbers of
the two differ.
-/

namespace NestedRouting

/-! ## Channels -/

namespace Channel

variable {ℓ : Type} {c : Channel ℓ} {k : Nat} {listener : ℓ}

/-- Whether each listener has a number of its own, below the one that is given next. -/
structure Numbered (c : Channel ℓ) : Prop where
  distinct : (c.entries.map Prod.fst).Nodup
  below : ∀ e ∈ c.entries, e.1 < c.next

theorem numbered_empty : (empty : Channel ℓ).Numbered := ⟨.nil, nofun⟩

/-- A new listener has a number of its own. -/
theorem Numbered.subscribe (h : c.Numbered) (listener : ℓ) : (c.subscribe listener).Numbered := by
  constructor
  · show ((c.entries ++ [(c.next, listener)]).map Prod.fst).Nodup
    rw [List.map_append, List.nodup_append]
    refine ⟨h.distinct, List.nodup_singleton _, fun k hk j hj => ?_⟩
    obtain ⟨e, he, rfl⟩ := List.mem_map.1 hk
    rw [List.mem_singleton.1 hj]
    exact Nat.ne_of_lt (h.below e he)
  · intro e he
    rcases List.mem_append.1 he with he | he
    · exact Nat.lt_succ_of_lt (h.below e he)
    · rw [List.mem_singleton.1 he]
      exact Nat.lt_succ_self _

/-- A number that is removed leaves the others. -/
theorem Numbered.cancel (h : c.Numbered) (k : Nat) : (c.cancel k).Numbered where
  distinct := h.distinct.sublist (List.filter_sublist.map Prod.fst)
  below e he := h.below e (List.mem_filter.1 he).1

/-- A new listener is added to those there are. -/
theorem mem_subscribe {e : Nat × ℓ} :
    e ∈ (c.subscribe listener).entries ↔ e ∈ c.entries ∨ e = (c.next, listener) := by
  rw [subscribe, List.mem_append, List.mem_singleton]

/-- Only the listener of the number is removed. -/
theorem mem_cancel {e : Nat × ℓ} : e ∈ (c.cancel k).entries ↔ e ∈ c.entries ∧ e.1 ≠ k := by
  rw [cancel, List.mem_filter, decide_eq_true_iff]

/-- A listener that is registered once stands between the others. -/
theorem Numbered.split (h : c.Numbered) (hk : (k, listener) ∈ c.entries)
    (honly : ∀ j, (j, listener) ∈ c.entries → j = k) : ∃ before after,
      c.listeners = before ++ listener :: after ∧ listener ∉ before ∧ listener ∉ after := by
  obtain ⟨before, after, hentries⟩ := List.append_of_mem hk
  have hdistinct := h.distinct
  rw [hentries, List.map_append, List.map_cons, List.nodup_middle, List.nodup_cons,
    ← List.map_append] at hdistinct
  have hother : listener ∉ (before ++ after).map Prod.snd := by
    intro hmem
    obtain ⟨⟨j, _⟩, hj, rfl⟩ := List.mem_map.1 hmem
    have hentry : (j, _) ∈ c.entries := hentries ▸ List.perm_middle.mem_iff.2 (.tail _ hj)
    exact hdistinct.1 (honly j hentry ▸ List.mem_map_of_mem hj)
  rw [List.map_append, List.mem_append, not_or] at hother
  exact ⟨before.map Prod.snd, after.map Prod.snd, by rw [listeners, hentries]; simp, hother⟩

end Channel

/-! ## Sites -/

/-- The event that a request to observe one stands for; an empty name stands for none. -/
def observable (source : Source) : Option Source := if source.2.isEmpty then none else some source

namespace Site

variable {ℓ : Type} {s s' s'' : Site ℓ} {source : Source} {k : Nat}

/-- The event that the navigator observes, with its number among the hearers. -/
def attachment? (s : Site ℓ) : Option Attachment := s.navigator.bind Navigator.attachment

/-- The event that the navigator observes. -/
def attached? (s : Site ℓ) : Option Source := s.attachment?.map Attachment.source

/-- Whether the navigator is a hearer just of the event that it observes, under its number there, and
no handle of the host is of that number. -/
structure Enrolled (s : Site ℓ) : Prop where
  hears_iff : ∀ source k, (k, Hearer.navigator) ∈ (s.hearersOf source).entries ↔
    s.attachment? = some ⟨source, k⟩
  numbered : ∀ source, (s.hearersOf source).Numbered
  stored : ∀ id source k, (id, Subscription.event source k) ∈ s.subscriptions →
    k < (s.hearersOf source).next ∧ s.attachment? ≠ some ⟨source, k⟩

/-- The number of the navigator has been given already. -/
theorem Enrolled.below (hs : s.Enrolled) (h : s.attachment? = some ⟨source, k⟩) :
    k < (s.hearersOf source).next :=
  (hs.numbered source).below _ ((hs.hears_iff source k).2 h)

/-- Wherever the navigator is registered, it is by its attachment. -/
theorem Enrolled.eq_of_hears (hs : s.Enrolled) {a : Attachment} (h : s.attachment? = some a)
    (hk : (k, Hearer.navigator) ∈ (s.hearersOf source).entries) : a = ⟨source, k⟩ :=
  Option.some.inj (h.symm.trans ((hs.hears_iff source k).1 hk))

/-- The navigator stands once among the hearers of the event that it observes. -/
theorem Enrolled.split_hearers (hs : s.Enrolled) {a : Attachment} (h : s.attachment? = some a) :
    ∃ before after, (s.hearersOf a.source).listeners = before ++ .navigator :: after ∧
      Hearer.navigator ∉ before ∧ Hearer.navigator ∉ after := by
  refine (hs.numbered a.source).split ((hs.hears_iff a.source a.number).2 h) fun j hj => ?_
  exact (congrArg Attachment.number (hs.eq_of_hears h hj)).symm

/-- How often the navigator is registered for an event. -/
theorem Enrolled.count_hearers (hs : s.Enrolled) (source : Source) :
    (s.hearersOf source).listeners.count .navigator =
      if s.attached? = some source then 1 else 0 := by
  split
  · next h =>
    obtain ⟨a, ha, rfl⟩ := Option.map_eq_some_iff.1 h
    obtain ⟨before, after, hlisteners, hbefore, hafter⟩ := hs.split_hearers ha
    rw [hlisteners, List.count_append, List.count_cons_self, List.count_eq_zero.2 hbefore,
      List.count_eq_zero.2 hafter]
  · next h =>
    refine List.count_eq_zero.2 fun hmem => ?_
    obtain ⟨⟨j, _⟩, hj, rfl⟩ := List.mem_map.1 hmem
    rw [attached?, (hs.hears_iff source j).1 hj] at h
    exact h rfl

/-! ## Changes that leave the enrolment as it is -/

/-- Sites of the same hearers and the same attachment are enrolled alike, with no handles but the same. -/
theorem Enrolled.congr (hs : s.Enrolled) (hhearers : s'.hearers = s.hearers)
    (hattachment : s'.attachment? = s.attachment?)
    (hstored : ∀ p ∈ s'.subscriptions, p ∈ s.subscriptions) : s'.Enrolled := by
  have hsame (source : Source) : s'.hearersOf source = s.hearersOf source := by
    rw [hearersOf, hhearers, hearersOf]
  refine ⟨fun source k => ?_, fun source => ?_, fun id source k h => ?_⟩
  · rw [hsame, hattachment]
    exact hs.hears_iff source k
  · rw [hsame]
    exact hs.numbered source
  · rw [hsame, hattachment]
    exact hs.stored id source k (hstored _ h)

/-- A change of the navigator that leaves its attachment. -/
theorem attachment?_changeNavigator {f : Navigator → Navigator}
    (hf : ∀ n, (f n).attachment = n.attachment) :
    (s.changeNavigator f).attachment? = s.attachment? := by
  unfold attachment? changeNavigator
  cases s.navigator with
  | none => rfl
  | some n => exact hf n

/-- The handle of a hearer of the host is stored. -/
theorem Enrolled.add (hs : s.Enrolled) (id : String) {sub : Subscription}
    (hsub : ∀ source k, sub = .event source k →
      k < (s.hearersOf source).next ∧ s.attachment? ≠ some ⟨source, k⟩) :
    Enrolled { s.forget id with subscriptions := (id, sub) :: (s.forget id).subscriptions } where
  hears_iff := hs.hears_iff
  numbered := hs.numbered
  stored id' source k h := by
    rcases List.mem_cons.1 h with h | h
    · exact hsub source k (Prod.mk.inj h).2.symm
    · exact hs.stored id' source k (List.mem_filter.1 h).1

/-- Hearers of the host come and go. -/
theorem Enrolled.changeHearers (hs : s.Enrolled) (source : Source)
    {f : Channel Hearer → Channel Hearer} (hnumbered : (f (s.hearersOf source)).Numbered)
    (hnext : (s.hearersOf source).next ≤ (f (s.hearersOf source)).next)
    (hsame : ∀ k, (k, Hearer.navigator) ∈ (f (s.hearersOf source)).entries ↔
      (k, Hearer.navigator) ∈ (s.hearersOf source).entries) :
    (s.changeHearers source f).Enrolled := by
  refine ⟨fun source' k => ?_, fun source' => ?_, fun id source' k h => ?_⟩
  all_goals rw [hearersOf_changeHearers]
  · split
    · next heq =>
      rw [hsame, heq]
      exact hs.hears_iff source k
    · exact hs.hears_iff source' k
  · split
    · exact hnumbered
    · exact hs.numbered source'
  · obtain ⟨hk, hne⟩ := hs.stored id source' k h
    refine ⟨?_, hne⟩
    split
    · next heq => exact Nat.lt_of_lt_of_le (heq ▸ hk) hnext
    · exact hk

/-- A subscription is cancelled that is not the navigator's. -/
theorem Enrolled.cancel (hs : s.Enrolled) {sub : Subscription}
    (hsub : ∀ source k, sub = .event source k → s.attachment? ≠ some ⟨source, k⟩) :
    (s.cancel sub).Enrolled := by
  cases sub with
  | path number => exact hs.congr rfl (attachment?_changeNavigator fun _ => rfl) fun _ h => h
  | event source number =>
    refine hs.changeHearers source (f := fun c => c.cancel number)
      ((hs.numbered source).cancel number) (Nat.le_refl _) fun k => ?_
    rw [Channel.mem_cancel, and_iff_left_iff_imp]
    rintro hk rfl
    exact hsub source k rfl ((hs.hears_iff source k).1 hk)

/-- To cancel a subscription changes no attachment. -/
theorem attachment?_cancel (s : Site ℓ) (sub : Subscription) :
    (s.cancel sub).attachment? = s.attachment? := by
  cases sub with
  | path number => exact attachment?_changeNavigator fun _ => rfl
  | event source number => rfl

/-- A subscription is stored that is not the navigator's. -/
theorem Enrolled.store (hs : s.Enrolled) (id : String) {sub : Subscription}
    (hsub : ∀ source k, sub = .event source k →
      k < (s.hearersOf source).next ∧ s.attachment? ≠ some ⟨source, k⟩) :
    (s.store id sub).Enrolled := by
  have hadded := hs.add id hsub
  unfold Site.store
  cases hold : s.subscription? id with
  | none => exact hadded
  | some old =>
    refine hadded.cancel fun source k hk => ?_
    exact (hs.stored id source k (hk ▸ mem_of_lookup_eq_some hold)).2

/-- To store a subscription changes no attachment. -/
theorem attachment?_store (s : Site ℓ) (id : String) (sub : Subscription) :
    (s.store id sub).attachment? = s.attachment? := by
  unfold Site.store
  cases s.subscription? id with
  | none => rfl
  | some old => exact attachment?_cancel _ old

/-- A hearer of the host is registered behind the hearers that an event has. -/
theorem Enrolled.hostSubscribe (hs : s.Enrolled) (source : Source) (id : String) (listener : ℓ) :
    (s.hostSubscribe source id listener).Enrolled := by
  have hhearers : (s.changeHearers source (·.subscribe (.listener s.listeners.length))).Enrolled := by
    refine hs.changeHearers source ((hs.numbered source).subscribe _) (Nat.le_succ _) fun k => ?_
    rw [Channel.mem_subscribe, or_iff_left_iff_imp]
    exact nofun
  have hadded : Enrolled
      { s.changeHearers source (·.subscribe (.listener s.listeners.length)) with
        listeners := s.listeners ++ [(id, listener)] } :=
    hhearers.congr rfl rfl fun _ h => h
  refine hadded.store id fun source' k h => ?_
  obtain ⟨rfl, rfl⟩ := Subscription.event.inj h
  refine ⟨?_, fun hattached => Nat.lt_irrefl _ (hs.below hattached)⟩
  show _ < ((s.changeHearers source (·.subscribe (.listener s.listeners.length))).hearersOf
    source).next
  rw [hearersOf_changeHearers, if_pos rfl]
  exact Nat.lt_succ_self _

/-- A hearer of the host changes no attachment. -/
theorem attachment?_hostSubscribe (s : Site ℓ) (source : Source) (id : String) (listener : ℓ) :
    (s.hostSubscribe source id listener).attachment? = s.attachment? :=
  attachment?_store _ id _

/-! ## Detaching -/

/-- A navigator that is detached observes nothing. -/
theorem attachment?_detach (s : Site ℓ) : s.detach.attachment? = none := by
  unfold Site.detach
  split
  · next h => exact h
  · next a h =>
    show (s.navigator.map _).bind Navigator.attachment = none
    cases s.navigator <;> rfl

/-- To detach the navigator changes no handle of the host. -/
theorem subscriptions_detach (s : Site ℓ) : s.detach.subscriptions = s.subscriptions := by
  unfold Site.detach
  split <;> rfl

/-- Where nothing is observed there is nothing to detach. -/
theorem detach_of_none (h : s.attachment? = none) : s.detach = s := by
  unfold Site.detach
  rw [show s.navigator.bind Navigator.attachment = none from h]

/-- To detach removes the navigator from the hearers of its event. -/
theorem hearersOf_detach {a : Attachment} (h : s.attachment? = some a) (source : Source) :
    s.detach.hearersOf source =
      if source = a.source then (s.hearersOf a.source).cancel a.number else s.hearersOf source := by
  unfold Site.detach
  rw [show s.navigator.bind Navigator.attachment = some a from h]
  exact hearersOf_changeHearers s a.source source fun c => c.cancel a.number

/-- To detach gives no number again. -/
theorem next_detach (s : Site ℓ) (source : Source) :
    (s.detach.hearersOf source).next = (s.hearersOf source).next := by
  cases h : s.attachment? with
  | none => rw [detach_of_none h]
  | some a =>
    rw [hearersOf_detach h]
    split
    · next heq => exact heq ▸ rfl
    · rfl

/-- The observation that there is ends. -/
theorem Enrolled.detach (hs : s.Enrolled) : s.detach.Enrolled := by
  cases h : s.attachment? with
  | none => rwa [detach_of_none h]
  | some a =>
    have hnone := attachment?_detach s
    refine ⟨fun source k => ?_, fun source => ?_, fun id source k hk => ?_⟩
    · rw [hnone, hearersOf_detach h]
      refine iff_of_false (fun hmem => ?_) nofun
      split at hmem
      · obtain ⟨hk, hne⟩ := Channel.mem_cancel.1 hmem
        exact hne (congrArg Attachment.number (hs.eq_of_hears h hk)).symm
      · next hne => exact hne (congrArg Attachment.source (hs.eq_of_hears h hmem)).symm
    · rw [hearersOf_detach h]
      split
      · exact (hs.numbered a.source).cancel a.number
      · exact hs.numbered source
    · rw [subscriptions_detach] at hk
      rw [next_detach, hnone]
      exact ⟨(hs.stored id source k hk).1, nofun⟩

/-! ## Attaching -/

/-- The number of a new registration is not that of the old one, so the new one stays. -/
theorem Enrolled.hearersOf_attach (hs : s.Enrolled) {source : Source}
    (hsource : source.2.isEmpty = false) (source' : Source) :
    (s.attach source).hearersOf source' = if source' = source
      then (s.detach.hearersOf source).subscribe .navigator else s.detach.hearersOf source' := by
  have hattach : (s.attach source).hearersOf source' =
      ((s.changeHearers source fun c => c.subscribe .navigator).detach).hearersOf source' := by
    unfold Site.attach
    rw [if_neg (by simp [hsource])]
    rfl
  rw [hattach]
  cases h : s.attachment? with
  | none =>
    have h' : (s.changeHearers source fun c => c.subscribe .navigator).attachment? = none := h
    rw [detach_of_none h', detach_of_none h, hearersOf_changeHearers]
  | some a =>
    have h' : (s.changeHearers source fun c => c.subscribe .navigator).attachment? = some a := h
    rw [hearersOf_detach h', hearersOf_detach h, hearersOf_detach h, hearersOf_changeHearers,
      hearersOf_changeHearers]
    have hne : (s.hearersOf a.source).next ≠ a.number := Nat.ne_of_gt (hs.below h)
    by_cases hold : source = a.source
    · subst hold
      have hcommutes : ((s.hearersOf a.source).subscribe .navigator).cancel a.number =
          ((s.hearersOf a.source).cancel a.number).subscribe .navigator := by
        simp [Channel.subscribe, Channel.cancel, hne]
      by_cases hnew : source' = a.source <;> simp [hnew, hcommutes]
    · have hother : a.source ≠ source := fun heq => hold heq.symm
      by_cases hnew : source' = source
      · subst hnew
        simp [hold]
      · simp [hnew, hother]

/-- A navigator that is detached is still there. -/
theorem isSome_navigator_detach (s : Site ℓ) :
    s.detach.navigator.isSome = s.navigator.isSome := by
  unfold Site.detach
  split
  · rfl
  · exact Option.isSome_map ..

/-- The navigator observes the event under the next number of its hearers. -/
theorem attachment?_attach (hpresent : s.navigator.isSome = true) (source : Source) :
    (s.attach source).attachment? =
      (observable source).map fun source => ⟨source, (s.hearersOf source).next⟩ := by
  unfold Site.attach observable
  split
  · exact attachment?_detach s
  · obtain ⟨n, hn⟩ := Option.isSome_iff_exists.1 ((isSome_navigator_detach
      (s.changeHearers source fun c => c.subscribe .navigator)).trans hpresent)
    unfold attachment?
    rw [navigator_changeNavigator _ hn]
    rfl

/-- The navigator observes the event that it is attached to, if it can be observed. -/
theorem attached?_attach (hpresent : s.navigator.isSome = true) (source : Source) :
    (s.attach source).attached? = observable source := by
  rw [attached?, attachment?_attach hpresent, Option.map_map]
  exact Option.map_id'

/-- The navigator observes another event. -/
theorem Enrolled.attach (hs : s.Enrolled) (hpresent : s.navigator.isSome = true) (source : Source) :
    (s.attach source).Enrolled := by
  have hdetached := hs.detach
  have hattachment := attachment?_attach hpresent source
  cases hsource : source.2.isEmpty with
  | true =>
    have hattach : s.attach source = s.detach := if_pos hsource
    rwa [hattach]
  | false =>
    have hobservable : observable source = some source := if_neg (by simp [hsource])
    rw [hobservable] at hattachment
    have hsubscriptions : (s.attach source).subscriptions = s.detach.subscriptions := by
      rw [subscriptions_detach]
      unfold Site.attach
      rw [if_neg (by simp [hsource])]
      exact subscriptions_detach _
    have hnone (source' : Source) (k : Nat) :
        (k, Hearer.navigator) ∉ (s.detach.hearersOf source').entries := fun hmem => by
      have hheard := (hdetached.hears_iff source' k).1 hmem
      cases hheard.symm.trans (attachment?_detach s)
    refine ⟨fun source' k => ?_, fun source' => ?_, fun id source' k hk => ?_⟩
    all_goals rw [hs.hearersOf_attach hsource]
    · rw [hattachment]
      split
      · next heq =>
        subst heq
        rw [Channel.mem_subscribe, or_iff_right (hnone source' k), next_detach]
        simp [eq_comm]
      · next hne =>
        refine iff_of_false (hnone source' k) fun heq => hne ?_
        exact (congrArg Attachment.source (Option.some.inj heq)).symm
    · split
      · exact (hdetached.numbered source).subscribe _
      · exact hdetached.numbered source'
    · rw [hsubscriptions] at hk
      have hbelow := (hdetached.stored id source' k hk).1
      rw [hattachment]
      split
      · next heq =>
        subst heq
        refine ⟨Nat.lt_succ_of_lt hbelow, fun heq => ?_⟩
        rw [next_detach] at hbelow
        exact Nat.ne_of_gt hbelow (congrArg Attachment.number (Option.some.inj heq))
      · next hne =>
        refine ⟨hbelow, fun heq => hne ?_⟩
        exact (congrArg Attachment.source (Option.some.inj heq)).symm

end Site

end NestedRouting
