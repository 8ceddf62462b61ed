import Mathlib.Data.List.Nodup
import NestedRouting.Proofs.Pattern.Building

/-!
# Parameters and captures

What the keys of a pattern capture stands in a list, with one entry for each key; the parameters are a
map by the names of the keys. Keys may share a name: one that is written twice, or a number that is
written where the parser gives the same number to a key without a name. Then the map has the text of
the last of these keys that captured one (`captured_params`), and what the keys before it captured is
lost (`shared_name_loses_capture`). Where the names are distinct nothing is lost.
-/

namespace NestedRouting

/-- Among keys with what they captured, `v` counts for a name: a key of this name captured it, it is not
empty, and no later key of the name captured a text that is not empty. -/
def LastCapture (xs : List (Key × Option Text)) (name v : Text) : Prop :=
  ∃ before key after, xs = before ++ (key, some v) :: after ∧ key.name = name ∧ v ≠ [] ∧
    ∀ x ∈ after, x.1.name = name → x.2 = none ∨ x.2 = some []

/-- The parameter that a key adds. -/
def parameter? (x : Key × Option Text) : Option (Text × Text) :=
  (x.2.filter (!·.isEmpty)).map fun v => (x.1.name, v)

section
variable {name v : Text} {path : Text}

/-- A key gives a parameter if it has captured a text that is not empty. -/
theorem parameter?_eq_some_iff {x : Key × Option Text} :
    parameter? x = some (name, v) ↔ x.1.name = name ∧ x.2 = some v ∧ v ≠ [] := by
  obtain ⟨key, value⟩ := x
  simp only [parameter?, Option.map_eq_some_iff, Option.filter_eq_some_iff, Prod.mk.injEq]
  constructor
  · rintro ⟨w, ⟨hw, hne⟩, hname, rfl⟩
    exact ⟨hname, hw, by simpa using hne⟩
  · rintro ⟨hname, hvalue, hne⟩
    exact ⟨v, ⟨hvalue, by simpa using hne⟩, hname, rfl⟩

/-- Whether a key adds a parameter of a name. -/
def adds (name : Text) (x : Key × Option Text) : Bool := (parameter? x).any (·.1 = name)

/-- A key gives no parameter of a name that it does not have, or if it has captured nothing. -/
theorem adds_eq_false_iff {x : Key × Option Text} :
    adds name x = false ↔ (x.1.name = name → x.2 = none ∨ x.2 = some []) := by
  obtain ⟨key, value⟩ := x
  match value with
  | none => simp [adds, parameter?]
  | some [] => simp [adds, parameter?, Option.filter]
  | some (c :: v) => simp [adds, parameter?, Option.filter]

/-- Of the keys that add a parameter of a name, the last one counts. -/
theorem get?_ofList_parameters (xs : List (Key × Option Text)) :
    (Params.ofList (xs.filterMap parameter?)).get? name = some v ↔ LastCapture xs name v := by
  have hfind : (xs.filterMap parameter?).reverse.find? (·.1 = name) =
      (xs.reverse.find? (adds name)).bind parameter? := by
    rw [← List.filterMap_reverse, List.find?_filterMap]
    rfl
  rw [Params.get?_ofList, hfind]
  simp only [Option.map_eq_some_iff, Option.bind_eq_some_iff, List.find?_eq_some_iff_append]
  constructor
  · rintro ⟨⟨name', v'⟩, ⟨x, ⟨hadds, after, before, hxs, hafter⟩, hx⟩, rfl⟩
    obtain ⟨rfl, hvalue, hne⟩ := parameter?_eq_some_iff.1 hx
    have hname : x.1.name = name := by simpa [adds, hx] using hadds
    refine ⟨before.reverse, x.1, after.reverse, ?_, hname, hne, fun y hy => ?_⟩
    · have h := congrArg List.reverse hxs
      simpa [← hvalue] using h
    · exact adds_eq_false_iff.1 (by simpa using hafter y (List.mem_reverse.1 hy))
  · rintro ⟨before, key, after, rfl, hname, hne, hafter⟩
    have hx : parameter? (key, some v) = some (name, v) :=
      parameter?_eq_some_iff.2 ⟨hname, rfl, hne⟩
    refine ⟨(name, v), ⟨(key, some v), ⟨by simp [adds, hx], after.reverse, before.reverse, ?_, ?_⟩, hx⟩,
      rfl⟩
    · simp
    · intro y hy
      rw [adds_eq_false_iff.2 (hafter y (List.mem_reverse.1 hy))]
      rfl

namespace Pattern

variable {p : Pattern} {result : Match}

/-- The parameters of a match are those of its keys and captures. -/
theorem params_report (p : Pattern) (path : Text) (w : Way) :
    (p.report path w).params =
      .ofList ((p.keys.zip (p.report path w).captures.tail).filterMap parameter?) := rfl

/-- Where the names of keys are distinct, each captured text that is not empty counts. -/
theorem lastCapture_of_nodup {keys : List Key} {values : List (Option Text)} {i : Nat} {key : Key}
    (hlength : keys.length ≤ values.length) (hnodup : (keys.map Key.name).Nodup)
    (hkey : keys[i]? = some key) (hvalue : values[i]? = some (some v)) (hne : v ≠ []) :
    LastCapture (keys.zip values) key.name v := by
  have hmem : (key, some v) ∈ keys.zip values := by
    refine List.mem_of_getElem? (i := i) ?_
    rw [List.getElem?_zip_eq_some]
    exact ⟨hkey, hvalue⟩
  obtain ⟨before, after, hsplit⟩ := List.append_of_mem hmem
  rw [← List.map_fst_zip hlength, hsplit] at hnodup
  simp only [List.map_append, List.map_cons, List.nodup_append, List.nodup_cons] at hnodup
  refine ⟨before, key, after, hsplit, rfl, hne, fun x hx hname => absurd ?_ hnodup.2.1.1⟩
  rw [← hname]
  exact List.mem_map_of_mem (List.mem_map_of_mem hx)

/-- A match captures one text more than there are keys. -/
theorem length_captures (h : p.exec path = some result) :
    result.captures.length = p.keys.length + 1 := by
  obtain ⟨w, -, rfl⟩ := Option.map_eq_some_iff.1 h
  simp [report, keyGroups]

/-- The parameters are the captures that count. -/
theorem get?_params (h : p.exec path = some result) :
    result.params.get? name = some v ↔ LastCapture (p.keys.zip result.captures.tail) name v := by
  obtain ⟨w, -, rfl⟩ := Option.map_eq_some_iff.1 h
  rw [params_report]
  exact get?_ofList_parameters _

/-- Where the names are distinct, a captured text that is not empty is a parameter. -/
theorem param_of_captured {i : Nat} {key : Key} (hnames : p.paramNames.Nodup)
    (h : p.exec path = some result) (hkey : p.keys[i]? = some key)
    (hvalue : result.captures[i + 1]? = some (some v)) (hne : v ≠ []) :
    result.params.get? key.name = some v := by
  rw [get?_params h]
  refine lastCapture_of_nodup ?_ hnames hkey ?_ hne
  · rw [List.length_tail, length_captures h]
    exact Nat.le_of_eq (Nat.add_sub_cancel ..).symm
  · rw [List.getElem?_tail]
    exact hvalue

/-- Where the names are distinct, a parameter with the name of a key is what this key captured. -/
theorem captured_of_param {key : Key} (hnames : p.paramNames.Nodup)
    (h : p.exec path = some result) (hkey : key ∈ p.keys)
    (hv : result.params.get? key.name = some v) :
    ∃ i, p.keys[i]? = some key ∧ result.captures[i + 1]? = some (some v) ∧ v ≠ [] := by
  obtain ⟨before, key', after, hsplit, hname, hne, -⟩ := (get?_params h).1 hv
  have hmem : (key', some v) ∈ p.keys.zip result.captures.tail := by
    rw [hsplit]
    exact List.mem_append_right _ (.head _)
  obtain ⟨i, hi⟩ := List.mem_iff_getElem?.1 hmem
  rw [List.getElem?_zip_eq_some, List.getElem?_tail] at hi
  obtain rfl : key' = key :=
    List.inj_on_of_nodup_map hnames (List.mem_of_getElem? hi.1) hkey hname
  exact ⟨i, hi.1, hi.2, hne⟩

/-- What a match reports of its keys: the matched text and then one capture for each key. The
parameters have a value for a name if and only if a key of the name captured a text that is not empty,
and it is that of the last such key. So where the names are distinct they have the text of every key
that captured one. -/
theorem captured_params (h : p.exec path = some result) :
    result.captures.length = p.keys.length + 1 ∧
    (∀ name v, result.params.get? name = some v ↔
      LastCapture (p.keys.zip result.captures.tail) name v) ∧
    (p.paramNames.Nodup → ∀ i key v, p.keys[i]? = some key →
      result.captures[i + 1]? = some (some v) → v ≠ [] → result.params.get? key.name = some v) :=
  ⟨length_captures h, fun _ _ => get?_params h, fun hnames _ _ _ => param_of_captured hnames h⟩

/-- Two keys with one name, and one that takes no part in the match. -/
theorem captured_params_twice :
    ∃ (p : Pattern) (result : Match), compile {} "/:id/:id{/:page}?".toList = .ok p ∧
      p.exec "/7/8".toList = some result ∧
      result.captures.tail = [some "7".toList, some "8".toList, none] ∧
      LastCapture (p.keys.zip result.captures.tail) "id".toList "8".toList ∧
      result.params.get? "page".toList = none := by
  let p := (compile {} "/:id/:id{/:page}?".toList).toOption.get (by decide +kernel)
  have hp : compile {} "/:id/:id{/:page}?".toList = .ok p :=
    eq_ok_of_toOption (Option.some_get _).symm
  have hexec : (p.exec "/7/8".toList).map (fun result => (result.captures.tail,
      result.params.get? "id".toList, result.params.get? "page".toList)) =
      some ([some "7".toList, some "8".toList, none], some "8".toList, none) := by
    decide +kernel
  obtain ⟨result, hresult, heq⟩ := Option.map_eq_some_iff.1 hexec
  obtain ⟨hcaptures, heq⟩ := Prod.mk.inj heq
  obtain ⟨hid, hpage⟩ := Prod.mk.inj heq
  obtain ⟨-, hparams, -⟩ := captured_params hresult
  exact ⟨p, result, hp, hresult, hcaptures, (hparams _ _).1 hid, hpage⟩

/-- A written name that is a number is also the name of the first key without one: what the first of
the two keys captured is not among the parameters. -/
theorem shared_name_loses_capture :
    ∃ (p : Pattern) (result : Match), compile {} "/:0/(b)".toList = .ok p ∧
      p.keys.map Key.name = ["0".toList, "0".toList] ∧
      p.exec "/a/b".toList = some result ∧
      result.captures = [some "/a/b".toList, some "a".toList, some "b".toList] ∧
      result.params.get? "0".toList = some "b".toList := by
  let p := (compile {} "/:0/(b)".toList).toOption.get (by decide +kernel)
  have hexec : (p.exec "/a/b".toList).map (fun result => (result.captures,
      result.params.get? "0".toList)) =
      some ([some "/a/b".toList, some "a".toList, some "b".toList], some "b".toList) := by
    decide +kernel
  obtain ⟨result, hresult, heq⟩ := Option.map_eq_some_iff.1 hexec
  obtain ⟨hcaptures, hparam⟩ := Prod.mk.inj heq
  exact ⟨p, result, eq_ok_of_toOption (Option.some_get _).symm, by decide +kernel, hresult,
    hcaptures, hparam⟩

end Pattern

end

end NestedRouting
