import NestedRouting.Proofs.Regex.Reading
import NestedRouting.Pattern.Token

/-!
# Characters under case folding

The characters of an orbit are alike, and a delimiter of a path is alike to itself only
(`any_orbit`), so the classes of delimiters hold the same characters whether case matters or
not (`mem_delimiters`).
-/

namespace NestedRouting

namespace CharSet

@[simp] theorem mem_single {c d : Char} : (single d).mem c = (c == d) := by
  rw [Bool.eq_iff_iff]
  simp only [single, mem, Bool.and_eq_true, decide_eq_true_eq, beq_iff_eq]
  exact ⟨fun h => Char.le_antisymm h.2 h.1, fun h => h ▸ ⟨Char.le_refl _, Char.le_refl _⟩⟩

@[simp] theorem mem_compl {s : CharSet} {c : Char} : (compl s).mem c = !s.mem c := rfl

end CharSet

/-- The delimiters of a path. -/
theorem isDelimiter_iff {c : Char} : isDelimiter c = true ↔ c = '/' ∨ c = '#' ∨ c = '?' := by
  simp [isDelimiter, or_assoc]

/-- Delimiters are ASCII characters. -/
theorem toNat_lt_of_isDelimiter {c : Char} (h : isDelimiter c = true) : c.toNat < 128 := by
  rcases isDelimiter_iff.1 h with rfl | rfl | rfl <;> decide

namespace Unicode

/-- All foldings of the table are between characters outside ASCII. -/
theorem foldRuns_outside_ascii : ∀ r ∈ foldRuns, 128 ≤ r.first ∧ 128 ≤ r.target := by
  decide +kernel

/-- A run folds to characters from its target on. -/
theorem FoldRun.image?_ge {r : FoldRun} {code k : Nat} (h : r.image? code = some k) :
    r.target ≤ k := by
  unfold image? at h
  split at h
  · obtain rfl := Option.some.inj h
    exact Nat.le_add_right ..
  · cases h

/-- A run folds characters from its first on. -/
theorem FoldRun.preimage?_ge {r : FoldRun} {code k : Nat} (h : r.preimage? code = some k) :
    r.first ≤ k := by
  unfold preimage? at h
  split at h
  · obtain rfl := Option.some.inj h
    exact Nat.le_add_right ..
  · cases h

/-- Characters outside ASCII are no delimiters. -/
theorem isDelimiter_ofNat {k : Nat} (h : 128 ≤ k) : isDelimiter (Char.ofNat k) = false := by
  rw [← Bool.not_eq_true]
  intro hd
  have hlt := toNat_lt_of_isDelimiter hd
  unfold Char.ofNat at hd hlt
  by_cases hk : k.isValidChar
  · rw [dif_pos hk] at hlt
    have : (Char.ofNatAux k hk).toNat = k := rfl
    omega
  · rw [dif_neg hk] at hd
    cases hd

/-- What holds of the first 128 characters, holds of ASCII. -/
theorem ascii_forall {P : Char → Prop} (h : ∀ n < 128, P (Char.ofNat n)) {c : Char}
    (hc : c.toNat < 128) : P c := by
  have := h c.toNat hc
  rwa [Char.ofNat_toNat] at this

/-- No delimiter is the other case of a character. -/
theorem isDelimiter_of_mem_unfold {c d : Char} (h : d ∈ unfold c) : isDelimiter d = false := by
  by_cases hc : c.toNat < 128
  · have hall : (unfold c).all (! isDelimiter ·) = true :=
      ascii_forall (P := fun c => (unfold c).all (! isDelimiter ·) = true) (by decide +kernel) hc
    simpa using List.all_eq_true.1 hall d h
  · rw [unfold, if_neg hc] at h
    obtain ⟨k, hk, rfl⟩ := List.mem_map.1 h
    obtain ⟨r, hr, hk⟩ := List.mem_filterMap.1 hk
    exact isDelimiter_ofNat (Nat.le_trans (foldRuns_outside_ascii r hr).1 (FoldRun.preimage?_ge hk))

/-- Only a delimiter itself folds to a delimiter. -/
theorem isDelimiter_fold {c : Char} (h : isDelimiter (fold c) = true) : fold c = c := by
  by_cases hc : c.toNat < 128
  · exact ascii_forall (P := fun c => isDelimiter (fold c) = true → fold c = c)
      (by decide +kernel) hc h
  · unfold fold at h ⊢
    rw [if_neg hc] at h ⊢
    split at h
    · cases h
    · split at h
      · cases h
      · split at h
        · next hfind =>
          obtain ⟨r, hr, hk⟩ := List.exists_of_findSome?_eq_some hfind
          have hge := Nat.le_trans (foldRuns_outside_ascii r hr).2 (FoldRun.image?_ge hk)
          rw [isDelimiter_ofNat hge] at h
          cases h
        · next hfind =>
          simp_all

/-- A delimiter is alike to itself only. -/
theorem any_orbit {p : Char → Bool} (hp : ∀ d, p d = true → isDelimiter d = true) {c : Char} :
    (orbit c).any p = p c := by
  rw [Bool.eq_iff_iff, List.any_eq_true]
  constructor
  · rintro ⟨d, hd, h⟩
    rcases List.mem_cons.1 hd with rfl | hd
    · rwa [isDelimiter_fold (hp _ h)] at h
    · have := isDelimiter_of_mem_unfold hd
      rw [hp d h] at this
      cases this
  · intro h
    refine ⟨fold c, .head _, ?_⟩
    have hfold : isDelimiter c = true → fold c = c := by
      intro hc
      rcases isDelimiter_iff.1 hc with rfl | rfl | rfl <;> rfl
    rwa [hfold (hp c h)]

end Unicode

/-- Delimiters are delimiters whether case matters or not. -/
@[simp] theorem mem_delimiters {ignoreCase : Bool} {c : Char} :
    (Regex.delimiters ignoreCase).mem c = isDelimiter c := by
  have hitems : ∀ c, (Regex.ofItems ['/', '#', '?']).mem c = isDelimiter c := by
    simp [Regex.ofItems, CharSet.mem, isDelimiter]
  cases ignoreCase with
  | false => exact hitems c
  | true =>
    show (Unicode.orbit c).any (Regex.ofItems ['/', '#', '?']).mem = _
    rw [Unicode.any_orbit fun d hd => (hitems d).symm.trans hd, hitems]

end NestedRouting
