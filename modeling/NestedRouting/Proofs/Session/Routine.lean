import NestedRouting.Session.Site

/-!
# Changes that are put together

The navigator is attached to events and detached from them, and subscriptions are stored and
cancelled, by changes of hearers, of subscriptions and of the navigator, one after the other. What
composes and holds of these small changes (`Site.Routine`) holds of what is put together from them.
-/

namespace NestedRouting

namespace Site

variable {ℓ : Type}

/-- A relation between a site before a change and the site behind it that composes. It holds of changes
of hearers and subscriptions, of what the navigator observes, and when a listener of it is cancelled. -/
structure Routine (R : Site ℓ → Site ℓ → Prop) : Prop where
  trans {s s' s'' : Site ℓ} : R s s' → R s' s'' → R s s''
  hosts (s : Site ℓ) (hearers : List (Source × Channel Hearer))
    (subscriptions : List (String × Subscription)) : R s { s with hearers, subscriptions }
  attachment (s : Site ℓ) (a : Option Attachment) :
    R s (s.changeNavigator fun n => { n with attachment := a })
  listener (s : Site ℓ) (number : Nat) :
    R s (s.changeNavigator fun n => { n with listeners := n.listeners.cancel number })

namespace Routine

variable {R : Site ℓ → Site ℓ → Prop} (hR : Routine R) (s : Site ℓ)
include hR

/-- To detach the navigator is a routine change. -/
theorem detach : R s s.detach := by
  unfold Site.detach
  split
  · exact hR.hosts s s.hearers s.subscriptions
  · next a _ =>
    have hhearers : R s (s.changeHearers a.source fun c => c.cancel a.number) :=
      hR.hosts s _ s.subscriptions
    exact hR.trans hhearers (hR.attachment _ none)

/-- To attach the navigator to another event is a routine change. -/
theorem attach (source : Source) : R s (s.attach source) := by
  unfold Site.attach
  split
  · exact hR.detach s
  · have hhearers : R s (s.changeHearers source fun c => c.subscribe .navigator) :=
      hR.hosts s _ s.subscriptions
    exact hR.trans (hR.trans hhearers (hR.detach _)) (hR.attachment _ _)

/-- To forget a handle is a routine change. -/
theorem forget (id : String) : R s (s.forget id) := hR.hosts s s.hearers _

/-- To cancel a subscription is a routine change. -/
theorem cancel (sub : Subscription) : R s (s.cancel sub) := by
  cases sub with
  | path number => exact hR.listener s number
  | event source number => exact hR.hosts s _ s.subscriptions

/-- To store a subscription in place of another is a routine change. -/
theorem store (id : String) (sub : Subscription) : R s (s.store id sub) := by
  have hstored : R s
      { s.forget id with subscriptions := (id, sub) :: (s.forget id).subscriptions } :=
    hR.hosts s s.hearers _
  unfold Site.store
  cases s.subscription? id with
  | none => exact hstored
  | some old => exact hR.trans hstored (hR.cancel _ old)

/-- To subscribe to an event adds a listener, which is all that can break what holds of the rest. -/
theorem hostSubscribe (source : Source) (id : String) (listener : ℓ)
    (hlistener : ∀ s' : Site ℓ, s'.listeners = s.listeners →
      R s' { s' with listeners := s.listeners ++ [(id, listener)] }) :
    R s (s.hostSubscribe source id listener) := by
  have hhearers : R s (s.changeHearers source (·.subscribe (.listener s.listeners.length))) :=
    hR.hosts s _ s.subscriptions
  exact hR.trans (hR.trans hhearers (hlistener _ rfl)) (hR.store _ id _)

end Routine

end Site

end NestedRouting
