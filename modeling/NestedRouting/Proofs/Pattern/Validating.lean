import NestedRouting.Proofs.Pattern.Building
import NestedRouting.Proofs.Pattern.Custom
import NestedRouting.Proofs.Regex.Placing

/-!
# Validated values

A key accepts a value if its expression takes the value by itself (`isMatch_validator`), while a path
is matched with the expression in the middle of the path. An expression without conditions does not
tell these apart, so a path that is built from values for keys with such expressions matches
(`search_of_build`, `exec_of_build`). Expressions with conditions do: one that asks for the start of
the text accepts values that no path can have behind a delimiter. So do expressions that cannot be read
by themselves, which end in the group that is written around them (`built_path_unmatched`).
-/

namespace NestedRouting

open Regex

/-! ## Validators -/

section
variable {ic : Bool} {key : Key} {r validator : Regex}

/-- The part of a key has the expression of the key, with its groups behind those before. -/
theorem regex_ownPart (h : Regex.read ic key.pattern = some r) (m : Nat) :
    (ownPart ic m key).regex = r.renumbered m := by
  rw [← (ownReader_of_read h).2.2]
  rfl

/-- The expression of the values that a key accepts is the expression of the key between the start and
the end of the text. -/
theorem regex_validator (hr : Regex.read ic key.pattern = some r)
    (hv : Regex.read ic (validatorSource key) = some validator) :
    validator = inSequence ([.plain (.look .textStart), (ownPart ic 0 key).wrapped .plain,
      endPart].map Part.regex) := by
  have hclosed : key.IsClosed ic := ⟨by rw [hr]; rfl, by rw [hv]; rfl⟩
  have hvalue := (MayClose.own hclosed 0).group none
  have hsource : validatorSource key = ['^'] ++ ("(?:".toList ++ key.pattern ++ ")".toList ++
      Modifier.text none) ++ "$".toList := by
    simp [validatorSource, Modifier.text]
  have hwhole : MayRead ic 0 (validatorSource key) _ _ := hsource ▸
    ((MayRead.of_reads Reads.textStart).append hvalue (by simp)).append (.of_reads Reads.textEnd)
      (by decide)
  refine read_of_mayRead hwhole (fun p hp => ?_) hv
  simp only [List.mem_cons, List.not_mem_nil, or_false] at hp
  rcases hp with rfl | rfl | rfl <;> rfl

/-- A key accepts the values that its expression accepts. -/
theorem isMatch_validator (hr : Regex.read ic key.pattern = some r)
    (hv : Regex.read ic (validatorSource key) = some validator) {v : Text} :
    validator.isMatch v = true ↔ r.Accepts v := by
  rw [regex_validator hr hv, isMatch_anchored, ← accepts_renumbered 0, ← regex_ownPart hr 0]
  exact .rfl

end

/-! ## What the parts of tokens take -/

section
variable {o : Options} {number m : Nat} {key : Key} {tokens : List Token} {r : Regex}
  {params : Params} {validators : List Regex} {path u v w x : Text} {n : List Note} {p : Part}

/-- The group of a key takes what its expression takes, and notes where. -/
theorem takes_customCapture : (customCapture number m p).regex.takes u x w n ↔
    ∃ k, n = ⟨m + 1, true, u.length + x.length⟩ :: (k ++ [⟨m + 1, false, u.length⟩]) ∧
      p.regex.takes u x w k := .rfl

/-- The group of a key takes it between texts that are the same as the lead and the tail. -/
theorem takes_customFramed : (customFramed (!o.sensitive) number m key p).regex.takes u x w n ↔
    ∃ l c t, x = l ++ (c ++ t) ∧ o.Same key.lead l ∧ o.Same key.tail t ∧
      (customCapture number m p).regex.takes (u ++ l) c (t ++ w) n := by
  have hdirective : ∀ q ∈ textParts (!o.sensitive) key.lead ++ ([customCapture number m p] ++
      textParts (!o.sensitive) key.tail), q.directive = false := directive_between fun q hq => by
    obtain rfl := List.mem_singleton.1 hq
    rfl
  exact (takes_joined hdirective).trans (takes_between _)

/-- A repeated key takes a single value. -/
theorem takes_customRepeat (h : ∃ n, (ownPart (!o.sensitive) m key).regex.takes u v w n) :
    ∃ n, (customRepeat (!o.sensitive) m key).regex.takes u v w n := by
  obtain ⟨n, h⟩ := h
  refine ⟨n, (takes_joined fun q hq => ?_).2 ⟨v, [], n, [], by simp, rfl, h,
    (takesAll_singleton _).2 ((takes_modified _ _).2 ⟨0, ⟨fun _ => rfl, nofun⟩, rfl, rfl⟩)⟩⟩
  rcases List.mem_cons.1 hq with rfl | hq
  · rfl
  · obtain rfl := List.mem_singleton.1 hq
    exact directive_modified _ rfl

/-- The part of a key takes a value that the key accepts, between the lead and the tail. -/
theorem takes_customPart (hr : Regex.read (!o.sensitive) key.pattern = some r)
    (hlooks : r.looks = []) (hv : r.Accepts v) (number m : Nat) (u w : Text) :
    ∃ n, (customPart (!o.sensitive) number m key).regex.takes u (key.lead ++ v ++ key.tail) w n := by
  have hown : ∀ m u w, ∃ n, (ownPart (!o.sensitive) m key).regex.takes u v w n := fun m u w => by
    rw [regex_ownPart hr]
    exact takes_of_accepts hlooks hv m u w
  have hframed : ∀ {p : Part}, (∃ n, p.regex.takes (u ++ key.lead) v (key.tail ++ w) n) →
      ∃ n, (customFramed (!o.sensitive) number m key p).regex.takes u
        (key.lead ++ v ++ key.tail) w n := fun ⟨n, hn⟩ =>
    ⟨_, takes_customFramed.2 ⟨key.lead, v, key.tail, List.append_assoc .., same_self o _,
      same_self o _, takes_customCapture.2 ⟨n, rfl, hn⟩⟩⟩
  have honce : ∀ {p : Part} (modifier : Modifier),
      (∃ n, p.regex.takes u (key.lead ++ v ++ key.tail) w n) →
      ∃ n, (p.modified modifier).regex.takes u (key.lead ++ v ++ key.tail) w n :=
    fun modifier ⟨n, hn⟩ =>
      ⟨n, (takes_modified _ _).2 ⟨1, modifier.allows_one, Span.times_one.2 hn⟩⟩
  unfold customPart
  split
  · next hempty =>
    rw [Bool.and_eq_true, List.isEmpty_iff, List.isEmpty_iff] at hempty
    obtain ⟨n, hn⟩ := hown (m + 1) u w
    refine honce key.modifier ⟨_, takes_customCapture.2 ⟨n, rfl, ?_⟩⟩
    rw [hempty.1, hempty.2, List.append_nil]
    exact hn
  · split
    · exact honce _ (hframed (takes_customRepeat (hown (m + 1) _ _)))
    · exact honce _ (hframed (hown (m + 1) _ _))

/-- The part of a key that may be absent takes nothing. -/
theorem takes_customPart_nil (h : key.modifier.isOptional = true) :
    (customPart (!o.sensitive) number m key).regex.takes u [] w [] := by
  have hzero : ∀ {p : Part} {modifier : Modifier}, modifier.isOptional = true →
      (p.modified modifier).regex.takes u [] w [] := fun hm =>
    (takes_modified _ _).2 ⟨0, Modifier.allows_zero_iff.2 hm, rfl, rfl⟩
  unfold customPart
  split
  · exact hzero h
  · split
    · exact hzero rfl
    · exact hzero h

/-- The validators of tokens: the expressions of the values that their keys accept. -/
def Validates (o : Options) (tokens : List Token) (validators : List Regex) : Prop :=
  (keysOf tokens).mapM (fun key => readRegex o (validatorSource key)) = .ok validators

/-- The validator of the first key is read from its own source. -/
theorem Validates.cons (h : Validates o (.key key :: tokens) validators) :
    ∃ v vs, validators = v :: vs ∧ Regex.read (!o.sensitive) (validatorSource key) = some v ∧
      Validates o tokens vs := by
  have hkeys : keysOf (.key key :: tokens) = key :: keysOf tokens := rfl
  rw [Validates, hkeys, List.mapM_cons] at h
  obtain ⟨v, hv, h⟩ := bind_eq_ok_iff.1 h
  obtain ⟨vs, hvs, h⟩ := bind_eq_ok_iff.1 h
  cases h
  exact ⟨v, vs, rfl, read_of_readRegex hv, hvs⟩

/-- The expressions of the keys that have values can be read by themselves, and have no conditions. -/
def Unconditional (o : Options) (params : Params) (keys : List Key) : Prop :=
  ∀ key ∈ keys, ∃ r, Regex.read (!o.sensitive) key.pattern = some r ∧
    ((params.get? key.name).isSome → r.looks = [])

/-- The expressions of all keys can be read by themselves. -/
theorem Unconditional.isSome_read {keys : List Key} (h : Unconditional o params keys) :
    ∀ key ∈ keys, (Regex.read (!o.sensitive) key.pattern).isSome := by
  intro key hkey
  obtain ⟨r, hr, -⟩ := h key hkey
  rw [hr]
  rfl

/-- The parts of tokens take a path that is built from them. -/
theorem takes_of_build (hvalidators : Validates o tokens validators)
    (hkeys : Unconditional o params (keysOf tokens))
    (h : buildTokens params tokens validators = .ok path) (number m : Nat) (u w : Text) :
    ∃ n, takesAll (customParts (!o.sensitive) number m tokens) u path w n := by
  induction tokens generalizing validators path number m u with
  | nil =>
    cases h
    exact ⟨[], rfl, rfl⟩
  | cons token tokens ih =>
    cases token with
    | literal text =>
      obtain ⟨rest, hrest, h⟩ := bind_eq_ok_iff.1 h
      cases h
      obtain ⟨n, hn⟩ := ih hvalidators hkeys hrest number m (u ++ text)
      exact ⟨n ++ [], (takesAll_append _ _).2
        ⟨text, rest, [], n, rfl, rfl, takes_textParts.2 ⟨same_self o text, rfl⟩, hn⟩⟩
    | group text modifier =>
      obtain ⟨rest, hrest, h⟩ := bind_eq_ok_iff.1 h
      cases h
      -- a group that may be absent is left out, any other is written once
      obtain ⟨t, k, ht, hallows, htimes⟩ : ∃ t k,
          (if modifier.isOptional then [] else text) = t ∧ modifier.Allows k ∧
          ∃ us : List Text, us.length = k ∧ (∀ s ∈ us, o.Same text s) ∧ t = us.flatten := by
        split
        · next hoptional =>
          exact ⟨[], 0, rfl, Modifier.allows_zero_iff.2 hoptional, [], rfl, nofun, rfl⟩
        · refine ⟨text, 1, rfl, modifier.allows_one, [text], rfl, ?_, by simp⟩
          exact List.forall_mem_singleton.2 (same_self o text)
      rw [ht]
      obtain ⟨n, hn⟩ := ih hvalidators hkeys hrest number m (u ++ t)
      exact ⟨n ++ [], t, rest, [], n, rfl, rfl,
        (takes_modified _ _).2 ⟨k, hallows, takes_text_times.2 ⟨htimes, rfl⟩⟩, hn⟩
    | key key =>
      obtain ⟨v, vs, rfl, hv, hvs⟩ := hvalidators.cons
      obtain ⟨t, ht, h⟩ := bind_eq_ok_iff.1 h
      obtain ⟨rest, hrest, h⟩ := bind_eq_ok_iff.1 h
      cases h
      obtain ⟨r, hr, hlooks⟩ := hkeys key (.head _)
      obtain ⟨k, hk⟩ : ∃ k,
          (customPart (!o.sensitive) number m key).regex.takes u t (rest ++ w) k := by
        obtain ⟨-, hoptional, rfl⟩ | ⟨value, hvalue, hmatch, rfl⟩ := build_key_cases ht
        · exact ⟨[], takes_customPart_nil hoptional⟩
        · exact takes_customPart hr (hlooks (by rw [hvalue]; rfl)) ((isMatch_validator hr hv).1 hmatch)
            number m u (rest ++ w)
      obtain ⟨n, hn⟩ := ih hvs (fun k hk => hkeys k (.tail _ hk)) hrest (number + 1)
        (m + customCaptures (!o.sensitive) key) (u ++ t)
      exact ⟨n ++ k, t, rest, k, n, rfl, rfl, hk, hn⟩

/-! ## Matching what is built -/

/-- A recognizer finds a route with something behind it that may follow. -/
theorem search_of_takes (h : takesAll (customParts (!o.sensitive) 0 1 tokens) [] x w n)
    (hrest : o.AllowsRest tokens w) : ((customRegex tokens o).search (x ++ w)).isSome := by
  obtain ⟨y, z, k, rfl, htail⟩ : ∃ y z k, w = y ++ z ∧
      takesAll ((tailOf tokens o).parts (!o.sensitive) o.strict
        (routeCaptures (!o.sensitive) tokens + 1)) x y z k :=
    takes_of_admits (allowsRest_iff.1 hrest) x
  refine search_isSome_iff.2 ⟨[], x ++ y, z, k ++ routeNotes x n, by simp, ?_⟩
  refine (takes_inSequence (customRecognizerParts tokens o)).2
    ⟨[], x ++ y, [], k ++ routeNotes x n, rfl, (List.append_nil _).symm, ⟨rfl, rfl, rfl⟩,
      x, y, routeNotes x n, k, rfl, rfl, ⟨n, ?_, ?_⟩, htail⟩
  · simp [routeNotes]
  · exact (takes_joined (directive_customParts 0 1 tokens)).2 h

/-- A recognizer matches a path that is built from its tokens. -/
theorem search_of_build (hvalidators : Validates o tokens validators)
    (hkeys : Unconditional o params (keysOf tokens))
    (h : buildTokens params tokens validators = .ok path) :
    ((customRegex tokens o).search path).isSome := by
  obtain ⟨n, hn⟩ := takes_of_build hvalidators hkeys h 0 1 [] []
  have hrest : o.AllowsRest tokens [] := by
    unfold Options.AllowsRest
    split
    · exact .inl rfl
    · exact .inr (.inl rfl)
  have hsearch := search_of_takes hn hrest
  rwa [List.append_nil] at hsearch

/-! ## Compiled patterns -/

variable {source : Text} {pattern : Pattern}

/-- A compiled pattern has the validators of its keys. -/
theorem validates_of_compile (h : Pattern.compile o source = .ok pattern) :
    Validates o pattern.tokens pattern.validators := by
  obtain ⟨tokens, -, h⟩ := bind_eq_ok_iff.1 h
  obtain ⟨rs, -, h⟩ := bind_eq_ok_iff.1 h
  obtain ⟨r, -, h⟩ := bind_eq_ok_iff.1 h
  simp only at h
  split at h
  · cases h
  · obtain ⟨vs, hvs, h⟩ := bind_eq_ok_iff.1 h
    cases h
    exact hvs

/-- A pattern matches where its recognizer finds something. -/
theorem Pattern.exec_of_search (h : (pattern.recognizer.search path).isSome) :
    ∃ result, pattern.exec path = some result := by
  obtain ⟨w, hw⟩ := Option.isSome_iff_exists.1 h
  exact ⟨pattern.report path w, by rw [exec, hw]; rfl⟩

/-- A path that is built from a pattern matches the pattern, where the expressions of the keys can be
read by themselves, and those of the keys that have values have no conditions. -/
theorem exec_of_build (h : Pattern.compile o source = .ok pattern)
    (hkeys : Unconditional o params pattern.keys) (hbuild : pattern.build params = .ok path) :
    ∃ result, pattern.exec path = some result := by
  have hsearch := search_of_build (validates_of_compile h) hkeys hbuild
  rw [← recognizer_of_compile h hkeys.isSome_read] at hsearch
  exact pattern.exec_of_search hsearch

end

/-- A path with a key that repeats, one with alternatives and one that is left out, and with a group
that is written and one that is not. -/
theorem exec_of_build_user :
    ∃ (p : Pattern) (result : Match),
      Pattern.compile { whole := true } "/:dir(a|bc)+{x}{y}*/:id([0-9]+|me){.:ext}?".toList = .ok p ∧
      p.build (.ofList [("dir".toList, "bc".toList), ("id".toList, "me".toList)]) =
        .ok "/bcx/me".toList ∧
      p.exec "/bcx/me".toList = some result := by
  let p := (Pattern.compile { whole := true } "/:dir(a|bc)+{x}{y}*/:id([0-9]+|me){.:ext}?".toList
    ).toOption.get (by decide +kernel)
  have hp : Pattern.compile { whole := true } "/:dir(a|bc)+{x}{y}*/:id([0-9]+|me){.:ext}?".toList =
    .ok p := eq_ok_of_toOption (Option.some_get _).symm
  have hlooks : ∀ key ∈ p.keys, (Regex.read true key.pattern).map Regex.looks = some [] := by
    decide +kernel
  have hbuild : (p.build (.ofList [("dir".toList, "bc".toList),
      ("id".toList, "me".toList)])).toOption = some "/bcx/me".toList := by
    decide +kernel
  have hbuild := eq_ok_of_toOption hbuild
  obtain ⟨result, hresult⟩ := exec_of_build hp (fun key hkey => by
    obtain ⟨r, hr, hnone⟩ := Option.map_eq_some_iff.1 (hlooks key hkey)
    exact ⟨r, hr, fun _ => hnone⟩) hbuild
  exact ⟨p, result, hp, hbuild, hresult⟩

/-- Two paths that are built and do not match. An expression that asks for the start of the text
accepts a value that does not match behind a delimiter; and an expression that cannot be read by itself
closes the group around it early, so that its first alternative accepts whatever starts as it does. -/
theorem built_path_unmatched :
    (∃ p : Pattern, Pattern.compile {} "/:id(^[0-9]+)".toList = .ok p ∧
      p.build (.ofList [("id".toList, "7".toList)]) = .ok "/7".toList ∧
      p.exec "/7".toList = none) ∧
    ∃ p : Pattern, Pattern.compile {} "/:id([(?]a)|(?:b[)])".toList = .ok p ∧
      p.build (.ofList [("id".toList, "(ax".toList)]) = .ok "/(ax".toList ∧
      p.exec "/(ax".toList = none := by
  have hbuilt : ∀ (source value path : Text) (p : Pattern),
      (Pattern.compile {} source).toOption = some p →
      (p.build (.ofList [("id".toList, value)])).toOption = some path → p.exec path = none →
      Pattern.compile {} source = .ok p ∧
        p.build (.ofList [("id".toList, value)]) = .ok path ∧ p.exec path = none :=
    fun _ _ _ _ hp hbuild hexec => ⟨eq_ok_of_toOption hp, eq_ok_of_toOption hbuild, hexec⟩
  constructor
  · let p := (Pattern.compile {} "/:id(^[0-9]+)".toList).toOption.get (by decide +kernel)
    exact ⟨p, hbuilt _ _ _ p (Option.some_get _).symm (by decide +kernel) (by decide +kernel)⟩
  · let p := (Pattern.compile {} "/:id([(?]a)|(?:b[)])".toList).toOption.get (by decide +kernel)
    exact ⟨p, hbuilt _ _ _ p (Option.some_get _).symm (by decide +kernel) (by decide +kernel)⟩

end NestedRouting
