import Mathlib.Data.List.Induction
import NestedRouting.Pattern.Build
import NestedRouting.Proofs.Pattern.Mounted
import NestedRouting.Proofs.Pattern.Prefixed

/-!
# Matching built paths

A path that is built from a pattern with plain keys spells the tokens of the pattern, with the
parameters as what the keys capture (`spells_of_build`). The spelling that a match reports may be
another one, but not for segments: where every key takes one segment and a delimiter stands behind
it, a path has one spelling (`Spells.unique`), so the match reports what the path has been built
with (`exec_build`).
-/

namespace NestedRouting

open Regex

section
variable {o : Options} {tokens : List Token} {key : Key} {params : Params}
  {path u u' rest rest' : Text} {values values' : List (Option Text)}

/-! ## Spelling what is built -/

/-- A part between the start and the end of a text matches what it takes as a whole. -/
theorem isMatch_anchored {p : Part} {v : Text} :
    (inSequence ([.plain (.look .textStart), p, endPart].map Part.regex)).isMatch v = true ↔
      ∃ n, p.regex.takes [] v [] n := by
  rw [isMatch, search_isSome_iff]
  simp only [takes_inSequence]
  constructor
  · rintro ⟨u, _, v, _, rfl, _, _, _, _, rfl, rfl, ⟨rfl, -, hstart⟩, t, _, n, _, rfl, rfl, hp, hend⟩
    obtain ⟨rfl, -, rfl⟩ := takes_endPart.1 ((takesAll_singleton _).1 hend)
    obtain rfl : u = [] := by
      simpa [Look.holds, Position.between] using hstart
    exact ⟨n, by simpa using hp⟩
  · rintro ⟨n, hp⟩
    refine ⟨[], v, [], n, by simp, [], v, [], n, rfl, (List.append_nil n).symm, ⟨rfl, rfl, rfl⟩, ?_⟩
    exact ⟨v, [], n, [], (List.append_nil v).symm, rfl, hp,
      (takesAll_singleton _).2 (takes_endPart.2 ⟨rfl, rfl, rfl⟩)⟩

/-- The expression of the values that a key accepts matches the values that the key has. -/
theorem isMatch_validatorRegex {v : Text} :
    (validatorRegex o key).isMatch v = true ↔ key.HasValue v := by
  refine isMatch_anchored.trans ?_
  simp [takes_value_wrapped]

/-- What a key contributes to a path: its value between the texts around it, or nothing if it may be
absent. -/
theorem build_key_cases {regex : Regex} {t : Text} (h : key.build params (some regex) = .ok t) :
    (params.get? key.name = none ∧ key.modifier.isOptional = true ∧ t = []) ∨
      ∃ v, params.get? key.name = some v ∧ regex.isMatch v = true ∧
        t = key.lead ++ v ++ key.tail := by
  unfold Key.build at h
  cases hget : params.get? key.name with
  | none =>
    rw [hget] at h
    simp only at h
    split at h
    · next hoptional => exact .inl ⟨rfl, hoptional, (Except.ok.inj h).symm⟩
    · cases h
  | some v =>
    rw [hget] at h
    simp only [Option.any_some] at h
    split at h
    · next hmatch => exact .inr ⟨v, rfl, hmatch, (Except.ok.inj h).symm⟩
    · cases h

/-- A built path spells the tokens, with the parameters as what the keys capture. -/
theorem spells_of_build
    (h : buildTokens params tokens ((keysOf tokens).map (validatorRegex o)) = .ok path) :
    Spells o tokens path ((keysOf tokens).map fun key => params.get? key.name) := by
  induction tokens generalizing path with
  | nil =>
    cases h
    exact .nil
  | cons token tokens ih =>
    cases token with
    | literal text =>
      obtain ⟨rest, hrest, h⟩ := bind_eq_ok_iff.1 h
      cases h
      exact .literal (same_self o text) (ih hrest)
    | group text modifier =>
      obtain ⟨rest, hrest, h⟩ := bind_eq_ok_iff.1 h
      cases h
      cases hoptional : modifier.isOptional with
      | true =>
        have hspells : Spells o (.group text modifier :: tokens) ([].flatten ++ rest) _ :=
          .group nofun (Modifier.allows_zero_iff.2 hoptional) (ih hrest)
        exact hspells
      | false =>
        have htext : ∀ u ∈ [text], o.Same text u := by
          intro u hu
          obtain rfl := List.mem_singleton.1 hu
          exact same_self o u
        have hspells : Spells o (.group text modifier :: tokens) _ _ :=
          .group htext modifier.allows_one (ih hrest)
        rw [List.flatten_singleton] at hspells
        exact hspells
    | key key =>
      obtain ⟨t, ht, h⟩ := bind_eq_ok_iff.1 h
      obtain ⟨rest, hrest, h⟩ := bind_eq_ok_iff.1 h
      cases h
      have hcons : (keysOf (.key key :: tokens)).map (fun key => params.get? key.name) =
          params.get? key.name :: (keysOf tokens).map fun key => params.get? key.name := rfl
      rw [hcons]
      obtain ⟨hnone, hoptional, rfl⟩ | ⟨v, hv, hmatch, rfl⟩ := build_key_cases ht
      · rw [hnone]
        have hspells : Spells o (.key key :: tokens) ([].flatMap Occurrence.text ++ rest) _ :=
          .key nofun (Modifier.allows_zero_iff.2 hoptional) (ih hrest)
        exact hspells
      · have hfits : ∀ x ∈ [(⟨key.lead, v, key.tail⟩ : Occurrence)], x.Fits o key := by
          intro x hx
          obtain rfl := List.mem_singleton.1 hx
          exact ⟨same_self o _, isMatch_validatorRegex.1 hmatch, same_self o _⟩
        have hspells := Spells.key hfits key.modifier.allows_one (ih hrest)
        rw [hv]
        simpa [Occurrence.text, captured, Occurrence.spread] using hspells

/-- A key that must occur has its value in what a path is built with. -/
theorem hasValue_of_build
    (h : buildTokens params tokens ((keysOf tokens).map (validatorRegex o)) = .ok path)
    (hkey : key ∈ keysOf tokens) (hmodifier : key.modifier.isOptional = false) :
    ∃ v, params.get? key.name = some v ∧ key.HasValue v := by
  induction tokens generalizing path with
  | nil => cases hkey
  | cons token tokens ih =>
    cases token with
    | literal text | group text modifier =>
      obtain ⟨rest, hrest, -⟩ := bind_eq_ok_iff.1 h
      exact ih hrest hkey
    | key first =>
      obtain ⟨t, ht, h⟩ := bind_eq_ok_iff.1 h
      obtain ⟨rest, hrest, -⟩ := bind_eq_ok_iff.1 h
      rcases List.mem_cons.1 hkey with rfl | hkey
      · obtain ⟨-, hoptional, -⟩ | ⟨v, hv, hmatch, -⟩ := build_key_cases ht
        · rw [hmodifier] at hoptional
          cases hoptional
        · exact ⟨v, hv, isMatch_validatorRegex.1 hmatch⟩
      · exact ih hrest hkey

/-! ## Segments -/

/-- Whether a key takes one segment, with the delimiter in front of it. -/
structure Key.IsSegment (key : Key) : Prop where
  lead_eq : key.lead = ['/']
  tail_eq : key.tail = []
  pattern_eq : key.pattern = defaultPattern
  modifier_eq : key.modifier = none

/-- Whether tokens are literals and keys that take one segment, where a literal behind a key starts
with a delimiter. -/
def InSegments : List Token → Prop
  | [] => True
  | .literal _ :: tokens => InSegments tokens
  | .group .. :: _ => False
  | .key key :: tokens => key.IsSegment ∧
    (∀ text, tokens.head? = some (.literal text) → text.head?.any isDelimiter = true) ∧
    InSegments tokens

/-- The keys of a pattern in segments take a segment each. -/
theorem InSegments.isSegment (h : InSegments tokens) (hkey : key ∈ keysOf tokens) :
    key.IsSegment := by
  induction tokens with
  | nil => cases hkey
  | cons token tokens ih =>
    cases token with
    | literal text => exact ih h hkey
    | group text modifier => exact h.elim
    | key first =>
      rcases List.mem_cons.1 hkey with rfl | hkey
      · exact h.1
      · exact ih h.2.2 hkey

/-- A key that takes a segment is plain. -/
theorem Key.IsSegment.isPlain (h : key.IsSegment) : key.IsPlain := .inl h.pattern_eq

/-- A delimiter is the same as itself only. -/
theorem eq_of_same_delimiter {c d : Char} {s t : Text} (hc : isDelimiter c = true)
    (h : o.Same (c :: s) (d :: t)) : d = c := by
  obtain ⟨_, _, ⟨⟩, hcd, -⟩ := same_cons.1 h
  split at hcd
  · have hfold : Unicode.fold c = c := by
      rcases isDelimiter_iff.1 hc with rfl | rfl | rfl <;> rfl
    have hd : Unicode.fold d = c := hcd.symm.trans hfold
    rw [← hd]
    exact (Unicode.isDelimiter_fold (hd ▸ hc)).symm
  · exact hcd.symm

/-- What spells a key that takes one segment. -/
theorem Key.IsSegment.spells (hkey : key.IsSegment)
    (h : Spells o (.key key :: tokens) u values) : ∃ v w rest, u = '/' :: (v ++ w) ∧
      (v ≠ [] ∧ ∀ c ∈ v, isDelimiter c = false) ∧ values = some v :: rest ∧
      Spells o tokens w rest := by
  cases h with
  | @key _ _ xs w rest hfits hallows hspells =>
    rw [hkey.modifier_eq] at hallows
    obtain ⟨hzero, hmany⟩ := hallows
    obtain ⟨x, rfl⟩ : ∃ x, xs = [x] := by
      match xs with
      | [] => cases hzero rfl
      | [x] => exact ⟨x, rfl⟩
      | _ :: _ :: xs => cases hmany (Nat.succ_lt_succ (Nat.succ_pos xs.length))
    obtain ⟨hlead, hvalue, htail⟩ := hfits x (.head _)
    rw [hkey.lead_eq] at hlead
    rw [hkey.tail_eq, same_nil] at htail
    have hone : x.lead = ['/'] := by
      obtain ⟨d, s, hx, -, hs⟩ := same_cons.1 hlead
      obtain rfl := same_nil.1 hs
      rw [hx] at hlead ⊢
      rw [eq_of_same_delimiter rfl hlead]
    rw [Key.HasValue, hkey.pattern_eq, if_neg (by decide)] at hvalue
    exact ⟨x.value, w, rest, by simp [Occurrence.text, hone, htail], hvalue, rfl, hspells⟩

/-- Behind a key that takes one segment, a path ends or a delimiter follows. -/
theorem InSegments.isSegmented_behind (h : InSegments (.key key :: tokens))
    (hspells : Spells o tokens u values) (hrest : o.AllowsRest (.key key :: tokens) rest) :
    (u ++ rest).IsSegmented := by
  obtain ⟨-, hliteral, h⟩ := h
  match tokens with
  | [] =>
    obtain ⟨rfl, rfl⟩ := spells_nil hspells
    unfold Options.AllowsRest at hrest
    split at hrest
    · rcases hrest with rfl | ⟨-, d, rfl, hd⟩
      · exact .inl rfl
      · exact .inr ⟨d, [], rfl, hd⟩
    · exact hrest.resolve_left nofun
  | .literal text :: tokens =>
    cases hspells with
    | @literal _ _ u w _ hsame hspells =>
      have hd := hliteral text rfl
      cases text with
      | nil => cases hd
      | cons c text =>
        obtain ⟨d, s, rfl, -, -⟩ := same_cons.1 hsame
        obtain rfl := eq_of_same_delimiter hd hsame
        exact .inr ⟨d, _, rfl, hd⟩
  | .group .. :: tokens => exact h.elim
  | .key next :: tokens =>
    obtain ⟨v, w, rest, rfl, -⟩ := h.1.spells hspells
    exact .inr ⟨'/', _, rfl, rfl⟩

/-- A segment is what stands in front of the first delimiter. -/
theorem takeWhile_segment {v t : Text} (hv : ∀ c ∈ v, isDelimiter c = false)
    (ht : t.IsSegmented) : (v ++ t).takeWhile (! isDelimiter ·) = v := by
  have hstop : t.takeWhile (! isDelimiter ·) = [] := by
    rcases ht with rfl | ⟨d, s, rfl, hd⟩
    · rfl
    · exact List.takeWhile_cons_of_neg (by simp [hd])
  rw [List.takeWhile_append_of_pos (by simpa using hv), hstop, List.append_nil]

/-- What may follow tokens may follow the last of them. -/
theorem Options.AllowsRest.tail {token : Token} (h : o.AllowsRest (token :: tokens) rest) :
    o.AllowsRest tokens rest := by
  cases tokens with
  | nil =>
    unfold Options.AllowsRest at h ⊢
    split
    · rwa [if_pos ‹_›] at h
    · exact .inl rfl
  | cons next tokens =>
    have hends : endsWithDelimiter (token :: next :: tokens) = endsWithDelimiter (next :: tokens) := by
      rw [endsWithDelimiter, List.getLast?_cons_cons]
      rfl
    unfold Options.AllowsRest at h ⊢
    rwa [hends] at h

/-- A path has one spelling of tokens that take segments. -/
theorem Spells.unique (htokens : InSegments tokens)
    (h : Spells o tokens u values) (hrest : o.AllowsRest tokens rest)
    (h' : Spells o tokens u' values') (hrest' : o.AllowsRest tokens rest')
    (hpath : u ++ rest = u' ++ rest') : u = u' ∧ values = values' := by
  induction tokens generalizing u u' values values' with
  | nil =>
    obtain ⟨rfl, rfl⟩ := spells_nil h
    obtain ⟨rfl, rfl⟩ := spells_nil h'
    exact ⟨rfl, rfl⟩
  | cons token tokens ih =>
    cases token with
    | literal text =>
      cases h with
      | @literal _ _ t w _ hsame h =>
        cases h' with
        | @literal _ _ t' w' _ hsame' h' =>
          rw [List.append_assoc, List.append_assoc] at hpath
          obtain ⟨rfl, hbehind⟩ :=
            List.append_inj hpath (hsame.length_eq.trans hsame'.length_eq.symm)
          obtain ⟨rfl, rfl⟩ := ih htokens h hrest.tail h' hrest'.tail hbehind
          exact ⟨rfl, rfl⟩
    | group text modifier => exact htokens.elim
    | key key =>
      obtain ⟨v, w, values, rfl, hv, rfl, hw⟩ := htokens.1.spells h
      obtain ⟨v', w', values', rfl, hv', rfl, hw'⟩ := htokens.1.spells h'
      have hbehind : v ++ (w ++ rest) = v' ++ (w' ++ rest') := by
        simpa using hpath
      have hvalue : v = v' := by
        rw [← takeWhile_segment hv.2 (htokens.isSegmented_behind hw hrest), hbehind,
          takeWhile_segment hv'.2 (htokens.isSegmented_behind hw' hrest')]
      subst hvalue
      obtain ⟨rfl, rfl⟩ :=
        ih htokens.2.2 hw hrest.tail hw' hrest'.tail (List.append_cancel_left hbehind)
      exact ⟨rfl, rfl⟩

/-! ## Parameters -/

/-- Of the pairs with a name the last one counts. -/
theorem Params.get?_ofList (pairs : List (Text × Text)) (name : Text) :
    (Params.ofList pairs).get? name = (pairs.reverse.find? (·.1 = name)).map Prod.snd := by
  induction pairs using List.reverseRecOn with
  | nil => rfl
  | append_singleton pairs p ih =>
    have hinsert : Params.ofList (pairs ++ [p]) = (Params.ofList pairs).insert p.1 p.2 :=
      List.foldl_append ..
    rw [hinsert, Params.get?_insert, ih, List.reverse_concat, List.find?_cons]
    by_cases hp : p.1 = name <;> simp [hp]

/-- Keys that capture their parameters have them as their parameters again. -/
theorem Pattern.get?_paramsOf {keys : List Key}
    (h : ∀ key ∈ keys, ∃ v, params.get? key.name = some v ∧ v ≠ []) (name : Text) :
    (Pattern.paramsOf keys (keys.map fun key => params.get? key.name)).get? name =
      if name ∈ keys.map Key.name then params.get? name else none := by
  have hpairs : ((keys.zip (keys.map fun key => params.get? key.name)).filterMap
      fun x => (x.2.filter (!·.isEmpty)).map fun v => (x.1.name, v)) =
      keys.map fun key => (key.name, (params.get? key.name).getD []) := by
    clear name
    induction keys with
    | nil => rfl
    | cons key keys ih =>
      obtain ⟨v, hv, hne⟩ := h key (.head _)
      rw [List.map_cons, List.zip_cons_cons, List.filterMap_cons,
        ih fun key hkey => h key (.tail _ hkey), List.map_cons, hv]
      cases v with
      | nil => cases hne rfl
      | cons c v => rfl
  have hparams : Pattern.paramsOf keys (keys.map fun key => params.get? key.name) =
      .ofList (keys.map fun key => (key.name, (params.get? key.name).getD [])) :=
    congrArg Params.ofList hpairs
  rw [hparams, Params.get?_ofList]
  cases hfind : (keys.map fun key => (key.name, (params.get? key.name).getD [])).reverse.find?
      (·.1 = name) with
  | none =>
    rw [if_neg]
    · rfl
    · intro hname
      obtain ⟨key, hkey, rfl⟩ := List.mem_map.1 hname
      have hpair := List.mem_reverse.2 (List.mem_map_of_mem
        (f := fun key : Key => (key.name, (params.get? key.name).getD [])) hkey)
      have hne := List.find?_eq_none.1 hfind _ hpair
      simp at hne
  | some pair =>
    obtain ⟨key, hkey, rfl⟩ := List.mem_map.1 (List.mem_reverse.1 (List.mem_of_find?_eq_some hfind))
    have hname : key.name = name := by
      simpa using List.find?_some hfind
    subst hname
    obtain ⟨v, hv, -⟩ := h key hkey
    rw [if_pos (List.mem_map_of_mem hkey), hv]
    rfl

/-! ## Matching what is built -/

namespace Pattern

variable {p : Pattern}

/-- The validators of a compiled pattern with plain keys. -/
theorem validators_eq {source : Text} (h : compile o source = .ok p)
    (hkeys : ∀ key ∈ p.keys, key.IsPlain) :
    p.validators = (keysOf p.tokens).map (validatorRegex o) := by
  obtain ⟨tokens, -, h⟩ := bind_eq_ok_iff.1 h
  obtain ⟨rfl, rfl⟩ := tokens_of_ofTokens h
  obtain ⟨rs, -, hp⟩ := (ofTokens_eq_ok_iff hkeys).1 h
  exact congrArg validators hp

/-- A path that is built from a pattern of segments matches the pattern as a whole, and the match has the
parameters that the path has been built with: those of the names of the keys, each of which has a
value, and no others. -/
theorem exec_build {source : Text} (h : compile o source = .ok p) (hsegments : InSegments p.tokens)
    (hbuild : p.build params = .ok path) :
    ∃ result, p.exec path = some result ∧ result.matched = path ∧ result.remainder = [] ∧
      (∀ name ∈ p.paramNames, ∃ v, params.get? name = some v ∧ result.params.get? name = some v) ∧
      ∀ name ∉ p.paramNames, result.params.get? name = none := by
  have hplain : ∀ key ∈ p.keys, key.IsPlain := fun key hkey => (hsegments.isSegment hkey).isPlain
  rw [build, validators_eq h hplain] at hbuild
  have hvalue : ∀ key ∈ keysOf p.tokens, ∃ v, params.get? key.name = some v ∧ v ≠ [] := by
    intro key hkey
    obtain ⟨-, -, hpattern, hmodifier⟩ := hsegments.isSegment hkey
    obtain ⟨v, hv, hhas⟩ := hasValue_of_build hbuild hkey (by rw [hmodifier]; rfl)
    rw [Key.HasValue, hpattern, if_neg (by decide)] at hhas
    exact ⟨v, hv, hhas.1⟩
  have hspells : Spells o p.tokens path _ := spells_of_build hbuild
  have hrest : o.AllowsRest p.tokens [] := by
    unfold Options.AllowsRest
    split
    · exact .inl rfl
    · exact .inr (.inl rfl)
  obtain ⟨hiff, hreport⟩ := exec_spec h hplain path
  obtain ⟨result, hresult⟩ :=
    Option.isSome_iff_exists.1 (hiff.2 ⟨path, [], _, (List.append_nil path).symm, hspells, hrest⟩)
  obtain ⟨route, rest, values, hpath, hroute, hallows, -, hmatched, hremainder, -, -, hparams, -⟩ :=
    hreport result hresult
  obtain ⟨rfl, rfl⟩ :=
    hspells.unique hsegments hrest hroute hallows ((List.append_nil path).trans hpath)
  obtain rfl : rest = [] := List.append_right_eq_self.1 hpath.symm
  refine ⟨result, hresult, by simpa [Options.trailing] using hmatched, hremainder, ?_, ?_⟩
  · intro name hname
    obtain ⟨key, hkey, rfl⟩ := List.mem_map.1 hname
    obtain ⟨v, hv, -⟩ := hvalue key hkey
    refine ⟨v, hv, ?_⟩
    rw [hparams, keys, get?_paramsOf hvalue, ← hv]
    exact if_pos hname
  · intro name hname
    rw [hparams, keys, get?_paramsOf hvalue]
    exact if_neg hname

/-- A path of two segments with one name. -/
theorem exec_build_twice : ∃ p params path result,
    compile {} "/users/:id/posts/:id".toList = .ok p ∧ InSegments p.tokens ∧
      p.build params = .ok path ∧ path = "/users/7/posts/7".toList ∧ p.exec path = some result ∧
      result.matched = path ∧ result.params.get? "id".toList = some "7".toList := by
  let id : Key := ⟨"id".toList, .named, "/".toList, [], defaultPattern, none⟩
  let params : Params := .ofList [("id".toList, "7".toList)]
  have hcompile : (compile {} "/users/:id/posts/:id".toList).toOption.map
      (fun p => (p.tokens, (p.build params).toOption)) =
      some ([.literal "/users".toList, .key id, .literal "/posts".toList, .key id],
        some "/users/7/posts/7".toList) := by
    decide +kernel
  obtain ⟨p, hp, heq⟩ := Option.map_eq_some_iff.1 hcompile
  obtain ⟨htokens, hbuild⟩ := Prod.mk.inj heq
  have hp := eq_ok_of_toOption hp
  have hbuild := eq_ok_of_toOption hbuild
  have hid : id.IsSegment := ⟨rfl, rfl, rfl, rfl⟩
  have hsegments : InSegments p.tokens := by
    rw [htokens]
    refine ⟨hid, fun text htext => ?_, hid, nofun, trivial⟩
    cases htext
    rfl
  obtain ⟨result, hresult, hmatched, -, hparams, -⟩ := exec_build hp hsegments hbuild
  have hname : "id".toList ∈ p.paramNames := by
    rw [paramNames, keys, htokens]
    exact .head _
  obtain ⟨v, hv, hresultv⟩ := hparams _ hname
  obtain rfl : "7".toList = v := Option.some.inj hv
  exact ⟨p, params, _, result, hp, hsegments, hbuild, rfl, hresult, hmatched, hresultv⟩

end Pattern

end

end NestedRouting
