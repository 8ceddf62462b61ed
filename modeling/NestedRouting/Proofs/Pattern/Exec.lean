import NestedRouting.Proofs.Pattern.Groups
import NestedRouting.Proofs.Pattern.Matching

/-!
# What a match reports

A pattern whose keys take a segment or the rest of a line matches the paths that start with a
spelling of its tokens, with something behind it that the options allow. What a match reports is
told by such a spelling: the captured values, the matched text, the parameters and what is left
(`exec_spec`).
-/

namespace NestedRouting

open Regex

section
variable {o : Options} {tokens : List Token} {path t rest : Text} {n m : List Note} {w : Way}

/-- What a search noted of a route, its keys and a delimiter at the end. -/
theorem noted_route (hm : o.TrailNoted ((keysOf tokens).length + 1) t rest m)
    (hw : w.notes = m ++ routeNotes t n) : w.noted? 1 true = some t.length := by
  rcases hm with ⟨-, rfl⟩ | ⟨d, -, -, rfl⟩ <;>
    simp [Way.noted?, hw, routeNotes, trailNotes]

/-- Where the group of the delimiter stops tells whether something is trailing. -/
theorem noted_trail (hm : o.TrailNoted ((keysOf tokens).length + 1) t rest m)
    (hn : ∀ note ∈ n, note.group < (keysOf tokens).length + 2)
    (hw : w.notes = m ++ routeNotes t n) :
    w.noted? ((keysOf tokens).length + 2) true =
      if o.trailing rest = [] then none else some (t ++ o.trailing rest).length := by
  rcases hm with ⟨htrailing, rfl⟩ | ⟨d, -, htrailing, rfl⟩
  · rw [htrailing, if_pos rfl, Way.noted?, hw, find?_note_of_ne]
    · rfl
    · intro note hnote
      have hgroup : note.group = 1 ∨ note ∈ n := by
        simp only [routeNotes, List.nil_append, List.mem_cons, List.mem_append,
          List.not_mem_nil, or_false] at hnote
        rcases hnote with rfl | h | rfl
        · exact .inl rfl
        · exact .inr h
        · exact .inl rfl
      rcases hgroup with h | h
      · omega
      · have := hn note h
        omega
  · rw [htrailing, if_neg (List.cons_ne_nil d []), Way.noted?, hw]
    simp [trailNotes]

/-- The text of the group of a key stands between the notes of the key. -/
theorem text_key {i : Nat} (hi : i < (keysOf tokens).length)
    (hm : o.TrailNoted ((keysOf tokens).length + 1) t rest m)
    (hw : w.notes = m ++ routeNotes t n) : w.text? path (i + 2) = textOf n path (i + 2) := by
  have htext : w.text? path (i + 2) = textOf (m ++ routeNotes t n) path (i + 2) := by
    rw [← hw]
    rfl
  have hfront : textOf (m ++ routeNotes t n) path (i + 2) =
      textOf (routeNotes t n) path (i + 2) := by
    refine textOf_append_of_ne fun note hnote => ?_
    rcases hm with ⟨-, rfl⟩ | ⟨d, -, -, rfl⟩
    · cases hnote
    · simp only [trailNotes, List.mem_cons, List.not_mem_nil, or_false] at hnote
      rcases hnote with rfl | rfl <;> simp only [ne_eq] <;> omega
  have hstop : textOf (routeNotes t n) path (i + 2) =
      textOf (n ++ [⟨1, false, 0⟩]) path (i + 2) := by
    refine textOf_append_of_ne (n := [⟨1, true, t.length⟩]) fun note hnote => ?_
    obtain rfl := List.mem_singleton.1 hnote
    simp
  have hstart : textOf (n ++ [⟨1, false, 0⟩]) path (i + 2) = textOf n path (i + 2) := by
    refine textOf_append_of_ne' fun note hnote => ?_
    obtain rfl := List.mem_singleton.1 hnote
    simp
  rw [htext, hfront, hstop, hstart]

/-- How a route ends the matched text: it takes up the start of the rest. -/
theorem trailing_append (rest : Text) :
    o.trailing rest ++ rest.drop (o.trailing rest).length = rest := by
  rcases trailing_eq (o := o) rest with h | ⟨d, rfl, h, -⟩ <;> rw [h] <;> rfl

/-! ## Compiled patterns -/

/-- The match of a path with a route, a rest and the values of the keys. -/
def Pattern.matchOf (p : Pattern) (route rest : Text) (values : List (Option Text)) : Match where
  captures := some (route ++ p.options.trailing rest) :: values
  index := 0
  input := route ++ rest
  params := Pattern.paramsOf p.keys values
  consumed := p.consumed

/-- A pattern as it is compiled from tokens with plain keys. -/
structure Pattern.IsPlain (p : Pattern) : Prop where
  plain : ∀ key ∈ p.keys, key.IsPlain
  separated : ∀ key ∈ p.keys, key.IsSeparated
  recognizer_eq : p.recognizer = recognizerRegex p.tokens p.options

/-- Compiled tokens are kept, with the options. -/
theorem Pattern.tokens_of_ofTokens {source : Text} {p : Pattern}
    (h : Pattern.ofTokens o source tokens = .ok p) : p.tokens = tokens ∧ p.options = o := by
  obtain ⟨rs, -, h⟩ := bind_eq_ok_iff.1 h
  obtain ⟨r, -, h⟩ := bind_eq_ok_iff.1 h
  simp only at h
  split at h
  · cases h
  · obtain ⟨vs, -, h⟩ := bind_eq_ok_iff.1 h
    cases h
    exact ⟨rfl, rfl⟩

/-- A pattern with plain keys that has been compiled. -/
theorem Pattern.isPlain_of_compile {source : Text} {p : Pattern}
    (h : Pattern.compile o source = .ok p) (hkeys : ∀ key ∈ p.keys, key.IsPlain) :
    p.IsPlain ∧ p.options = o := by
  obtain ⟨tokens, -, h⟩ := bind_eq_ok_iff.1 h
  obtain ⟨rfl, rfl⟩ := tokens_of_ofTokens h
  obtain ⟨rs, hsource, hp⟩ := (ofTokens_eq_ok_iff hkeys).1 h
  obtain ⟨route, hroute, -⟩ := bind_eq_ok_iff.1 hsource
  have hrecognizer := congrArg Pattern.recognizer hp
  exact ⟨⟨hkeys, (routeSource_isOk_iff 0).1 ⟨route, hroute⟩, hrecognizer⟩, rfl⟩

namespace Pattern

variable {p : Pattern} {route : Text} {values : List (Option Text)}

/-- The matched text is the route and what is trailing. -/
theorem matched_matchOf : (p.matchOf route rest values).matched =
    route ++ p.options.trailing rest := rfl

/-- What remains is the rest without what is trailing. -/
theorem remainder_matchOf : (p.matchOf route rest values).remainder =
    rest.drop (p.options.trailing rest).length := by
  have hinput : (p.matchOf route rest values).input = (route ++ p.options.trailing rest) ++
      rest.drop (p.options.trailing rest).length := by
    rw [List.append_assoc, trailing_append]
    rfl
  have hindex : (p.matchOf route rest values).index = 0 := rfl
  rw [Match.remainder, matched_matchOf, hinput, hindex, Nat.zero_add, Text.dropBytes_append]

/-- What a way reports of a route, its keys and a delimiter at the end. -/
theorem report_eq (hp : p.IsPlain)
    (hm : p.options.TrailNoted (p.keys.length + 1) route rest m)
    (hn : ∀ note ∈ n, note.group < p.keys.length + 2)
    (hw : w.notes = m ++ routeNotes route n) (hlength : values.length = p.keys.length)
    (hvalues : ∀ i value, values[i]? = some value → textOf n (route ++ rest) (i + 2) = value) :
    p.report (route ++ rest) w = p.matchOf route rest values := by
  have hgroups : p.recognizer.groups = recognizerGroups p.options.strict p.keys.length := by
    rw [hp.recognizer_eq, groups_recognizerRegex]
    rfl
  have htexts : (p.keyGroups.map fun name => do
      w.text? (route ++ rest) (← groupNamed? p.recognizer.groups name)) = values := by
    refine List.ext_getElem? fun i => ?_
    rw [List.getElem?_map, keyGroups, List.getElem?_map]
    rcases Nat.lt_or_ge i p.keys.length with hi | hi
    · have hvalue := List.getElem?_eq_getElem (hlength ▸ hi)
      rw [List.getElem?_range hi, hvalue, Option.map_some, Option.map_some, hgroups,
        groupNamed_key p.options.strict hi]
      exact congrArg some ((text_key hi hm hw).trans (hvalues i _ hvalue))
    · have hrange : (List.range p.keys.length).length ≤ i := by
        rwa [List.length_range]
      have hvalues : values.length ≤ i := hlength ▸ hi
      rw [List.getElem?_eq_none_iff.2 hrange, List.getElem?_eq_none_iff.2 hvalues]
      rfl
  have hroute : (do w.noted? (← groupNamed? p.recognizer.groups routeGroup) true : Option Nat) =
      some route.length := by
    rw [hgroups, groupNamed_route]
    exact noted_route hm hw
  have htrail : ((do w.noted? (← groupNamed? p.recognizer.groups trailGroup) true :
      Option Nat).getD route.length) = (route ++ p.options.trailing rest).length := by
    rw [hgroups]
    cases hs : p.options.strict with
    | true =>
      rw [groupNamed_trail_strict, trailing_eq_nil hs, List.append_nil]
      rfl
    | false =>
      rw [groupNamed_trail]
      refine (congrArg (Option.getD · route.length) (noted_trail hm hn hw)).trans ?_
      split
      · next h =>
        rw [h, List.append_nil]
        rfl
      · rfl
  have htake : (route ++ rest).take (route ++ p.options.trailing rest).length =
      route ++ p.options.trailing rest := by
    have hrest : route ++ rest = (route ++ p.options.trailing rest) ++
        rest.drop (p.options.trailing rest).length := by
      rw [List.append_assoc, trailing_append]
    rw [hrest, List.take_left]
  simp only [report, matchOf, hroute, Option.getD_some, htrail, htake]
  simp only [htexts]

/-- A match is that of a spelling of the tokens at the start of the path, with a rest that the
options allow. -/
theorem matchOf_of_exec (hp : p.IsPlain) {result : Match} (h : p.exec path = some result) :
    ∃ route rest values, path = route ++ rest ∧ Spells p.options p.tokens route values ∧
      p.options.AllowsRest p.tokens rest ∧ result = p.matchOf route rest values := by
  obtain ⟨w, hw, rfl⟩ := Option.map_eq_some_iff.1 h
  rw [hp.recognizer_eq] at hw
  obtain ⟨t, n, y, v, m, rfl, hroute, htail, hm, hnotes⟩ := notes_of_search hw
  obtain ⟨values, hspells, hgroups, hvalues⟩ := spells_of_takes hp.separated hroute
  refine ⟨t, y ++ v, values, rfl, hspells, allowsRest_iff.2 (admits_of_takes htail).1, ?_⟩
  have hn : ∀ note ∈ n, note.group < p.keys.length + 2 := by
    intro note hnote
    have hlt : note.group < 0 + 2 + p.keys.length := (hgroups note hnote).2
    omega
  refine report_eq hp hm hn hnotes hspells.length_values fun i value hi => ?_
  have := hvalues i value hi
  rwa [Nat.zero_add] at this

/-- A path that starts with a spelling of the tokens, with a rest that the options allow, matches.
-/
theorem exec_isSome (hp : p.IsPlain) (hspells : Spells p.options p.tokens route values)
    (hrest : p.options.AllowsRest p.tokens rest) : (p.exec (route ++ rest)).isSome = true := by
  have hroute : ∃ n, takesAll (routeParts (!p.options.sensitive) 0 p.tokens) [] route rest n :=
    takes_of_spells hp.separated hspells [] rest
  have htail : ∃ x v m, rest = x ++ v ∧ takesAll (tailParts p.tokens p.options) route x v m :=
    takes_of_admits (allowsRest_iff.1 hrest) route
  obtain ⟨n, hn⟩ := hroute
  obtain ⟨x, v, m, rfl, hm⟩ := htail
  have hfront : takesAll (frontParts p.tokens p.options) [] route (x ++ v) (routeNotes route n) :=
    takes_frontParts.2 ⟨rfl, n, rfl, hn⟩
  have hwhole : (recognizerRegex p.tokens p.options).takes [] (route ++ x) v
      (m ++ routeNotes route n) :=
    takes_recognizerRegex.2 ⟨route, x, routeNotes route n, m, rfl, rfl, hfront, hm⟩
  rw [exec, Option.isSome_map, hp.recognizer_eq, search_isSome_iff]
  exact ⟨[], route ++ x, v, _, (List.append_assoc ..).symm, hwhole⟩

/-- A compiled pattern whose keys are plain matches the paths that start with a spelling of its
tokens, with a rest that the options allow; and of such a spelling a match reports the captured
values, the matched text, the parameters and what is left. -/
theorem exec_spec {source : Text} (h : compile o source = .ok p)
    (hkeys : ∀ key ∈ p.keys, key.IsPlain) (path : Text) :
    ((p.exec path).isSome ↔ ∃ route rest values, path = route ++ rest ∧
      Spells o p.tokens route values ∧ o.AllowsRest p.tokens rest) ∧
    ∀ result, p.exec path = some result → ∃ route rest values, path = route ++ rest ∧
      Spells o p.tokens route values ∧ o.AllowsRest p.tokens rest ∧
      result.captures = some (route ++ o.trailing rest) :: values ∧
      result.matched = route ++ o.trailing rest ∧
      result.remainder = rest.drop (o.trailing rest).length ∧
      result.index = 0 ∧ result.input = path ∧
      result.params = paramsOf p.keys values ∧ result.consumed = consumedPrefix p.tokens := by
  obtain ⟨hp, rfl⟩ := isPlain_of_compile h hkeys
  refine ⟨⟨fun hsome => ?_, ?_⟩, fun result hresult => ?_⟩
  · obtain ⟨result, hresult⟩ := Option.isSome_iff_exists.1 hsome
    obtain ⟨route, rest, values, hpath, hspells, hrest, -⟩ := matchOf_of_exec hp hresult
    exact ⟨route, rest, values, hpath, hspells, hrest⟩
  · rintro ⟨route, rest, values, rfl, hspells, hrest⟩
    exact exec_isSome hp hspells hrest
  · obtain ⟨route, rest, values, rfl, hspells, hrest, rfl⟩ := matchOf_of_exec hp hresult
    exact ⟨route, rest, values, rfl, hspells, hrest, rfl, matched_matchOf, remainder_matchOf, rfl,
      rfl, rfl, rfl⟩

/-- A plain key in a path with a delimiter at the end. -/
theorem exec_spec_user : ∃ p, compile {} "/users/:id".toList = .ok p ∧
    (∀ key ∈ p.keys, key.IsPlain) ∧ (p.exec "/users/7/".toList).isSome = true := by
  have hcompile : (compile {} "/users/:id".toList).toOption.map Pattern.tokens =
      some [.literal "/users".toList,
        .key ⟨"id".toList, .named, "/".toList, [], defaultPattern, none⟩] := by
    decide +kernel
  obtain ⟨p, hp, htokens⟩ := Option.map_eq_some_iff.1 hcompile
  have hp : compile {} "/users/:id".toList = .ok p := by
    cases h : compile {} "/users/:id".toList with
    | error e =>
      rw [h] at hp
      cases hp
    | ok q =>
      rw [h] at hp
      exact congrArg _ (Option.some.inj hp)
  have hkeys : ∀ key ∈ p.keys, key.IsPlain := by
    intro key hkey
    rw [keys, htokens] at hkey
    obtain rfl := List.mem_singleton.1 hkey
    exact .inl rfl
  have hspells : Spells {} p.tokens ("/users".toList ++
      ([⟨"/".toList, "7".toList, []⟩].flatMap Occurrence.text ++ [])) [some "7".toList] := by
    rw [htokens]
    refine .literal rfl (.key (fun x hx => ?_) ⟨nofun, by decide⟩ .nil)
    obtain rfl := List.mem_singleton.1 hx
    refine ⟨rfl, ?_, rfl⟩
    rw [Key.HasValue, if_neg (by decide)]
    refine ⟨by decide, fun c hc => ?_⟩
    obtain rfl := List.mem_singleton.1 hc
    rfl
  have hrest : Options.AllowsRest {} p.tokens "/".toList := .inr (.inr ⟨'/', [], rfl, rfl⟩)
  exact ⟨p, hp, hkeys, (exec_spec hp hkeys _).1.2 ⟨_, _, _, rfl, hspells, hrest⟩⟩

end Pattern

end

end NestedRouting
