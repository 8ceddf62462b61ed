/-!
# Looking up in lists of pairs

Sites, sessions and stages keep what they know under names and numbers in lists of pairs, in which the
first pair with a name counts.
-/

namespace NestedRouting

variable {α β : Type} [BEq α] [LawfulBEq α]

/-- What is found in a list is in it. -/
theorem mem_of_lookup_eq_some {a : α} {b : β} {l : List (α × β)} (h : l.lookup a = some b) :
    (a, b) ∈ l := by
  obtain ⟨l₁, l₂, rfl, -⟩ := List.lookup_eq_some_iff.1 h
  simp

/-- Nothing is kept under a name that has been given up. -/
theorem lookup_filter_self [DecidableEq α] (a : α) (l : List (α × β)) :
    (l.filter (·.1 ≠ a)).lookup a = none := by
  refine List.lookup_eq_none_iff.2 fun p hp => ?_
  exact bne_iff_ne.2 (of_decide_eq_true (List.mem_filter.1 hp).2).symm

/-- What is kept under one name does not matter for another. -/
theorem lookup_filter_ne [DecidableEq α] {a b : α} (h : a ≠ b) (l : List (α × β)) :
    (l.filter (·.1 ≠ b)).lookup a = l.lookup a := by
  induction l with
  | nil => rfl
  | cons e l ih =>
    obtain ⟨c, v⟩ := e
    by_cases hc : c = b
    · subst hc
      rw [List.filter_cons_of_neg (by simp), ih, List.lookup_cons, beq_eq_false_iff_ne.2 h]
    · rw [List.filter_cons_of_pos (by simpa using hc), List.lookup_cons, List.lookup_cons, ih]

end NestedRouting
