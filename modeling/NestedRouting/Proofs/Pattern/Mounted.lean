import NestedRouting.Proofs.Pattern.Exec
import NestedRouting.Proofs.Pattern.Lexing
import NestedRouting.Proofs.Regex.Moved

/-!
# Matching behind a base

Tokens behind a base text (`prependTokens`) match the paths behind that base: the match is the one
of the tokens by themselves, behind the base (`exec_mount`). The search goes through the same
choices, because the code of the tokens looks ahead only. Only the tail of an empty pattern is
another one behind a base, and there a path of segments makes up for it.
-/

namespace NestedRouting

open Regex

/-! ## Tokens behind a base -/

/-- Tokens with a text in front. -/
def prependTokens (b : Text) : List Token → List Token
  | .literal text :: tokens => .literal (b ++ text) :: tokens
  | tokens => .literal b :: tokens

/-- A match behind a base. -/
def Match.mount (b : Text) (m : Match) : Match :=
  { m with
    captures := some (b ++ m.matched) :: m.captures.tail
    input := b ++ m.input
    consumed := b ++ m.consumed }

/-- The matched text of a match behind a base. -/
@[simp] theorem Match.matched_mount (b : Text) (m : Match) :
    (m.mount b).matched = b ++ m.matched := rfl

section
variable {b : Text} {tokens : List Token} {o : Options}

/-- A text in front of tokens adds no key. -/
theorem keysOf_prependTokens (b : Text) (tokens : List Token) :
    keysOf (prependTokens b tokens) = keysOf tokens := by
  unfold prependTokens
  split <;> rfl

/-- A text in front of tokens is consumed first. -/
theorem consumedText_prependTokens (b : Text) (tokens : List Token) :
    consumedText (prependTokens b tokens) = b ++ consumedText tokens := by
  match tokens with
  | .literal text :: .key key :: _ => exact List.append_assoc b text key.lead
  | [] | .group .. :: _ => exact (List.append_nil b).symm
  | .key _ :: _ | [.literal _] | .literal _ :: .literal _ :: _ | .literal _ :: .group .. :: _ => rfl

/-- A base without characters that a pattern must escape stands in front of the consumed prefix. -/
theorem consumedPrefix_prependTokens (hb : ∀ c ∈ b, isSpecial c = false) (tokens : List Token) :
    consumedPrefix (prependTokens b tokens) = b ++ consumedPrefix tokens := by
  rw [consumedPrefix_eq, consumedPrefix_eq, consumedText_prependTokens, escapeSource_append,
    escapeSource_of_plain hb]

/-- What may follow behind a base, if there are tokens. -/
theorem tailOf_prependTokens (hne : tokens ≠ []) (hliteral : tokens.head? ≠ some (.literal [])) :
    tailOf (prependTokens b tokens) o = tailOf tokens o := by
  have hends : endsWithDelimiter (prependTokens b tokens) = endsWithDelimiter tokens := by
    match tokens with
    | [] => exact absurd rfl hne
    | [.literal text] =>
      have htext : text ≠ [] := fun h => hliteral (h ▸ rfl)
      simp only [prependTokens, endsWithDelimiter, List.getLast?_singleton]
      rw [List.getLast?_append, List.getLast?_eq_some_getLast htext]
      rfl
    | .literal text :: _ :: _ | .group .. :: _ | .key _ :: _ =>
      simp only [prependTokens, endsWithDelimiter, List.getLast?_cons_cons]
  rw [tailOf, tailOf, hends]

/-! ## The code of a recognizer behind a base -/

/-- The characters that a character of a literal stands for. -/
def literalSet (ignoreCase : Bool) (c : Char) : CharSet :=
  if ignoreCase then .alike c else .single c

/-- A character stands for itself. -/
theorem mem_literalSet (ignoreCase : Bool) (c : Char) :
    (literalSet ignoreCase c).mem c = true := by
  cases ignoreCase <;> simp [literalSet, CharSet.mem_single, CharSet.mem]

/-- The code of a literal takes its characters one by one. -/
theorem codeOf_textParts (ignoreCase : Bool) (t : Text) :
    codeOf (textParts ignoreCase t) = takeCode (literalSet ignoreCase) t := by
  induction t with
  | nil => rfl
  | cons c t ih => exact congrArg (.take (literalSet ignoreCase c) :: ·) ih

/-- The code of a recognizer behind the start of the group of the route. -/
def routeCode (tokens : List Token) (o : Options) : List Instr :=
  codeOf (routeParts (!o.sensitive) 0 tokens) ++ (.note 1 true :: codeOf (tailParts tokens o))

/-- The code of a recognizer up to the end of the route. -/
theorem codeOf_frontParts (tokens : List Token) (o : Options) :
    codeOf (frontParts tokens o) = [.check .textStart, .note 1 false] ++
      (codeOf (routeParts (!o.sensitive) 0 tokens) ++ [.note 1 true]) := by
  have hjoined : (Part.joined (routeParts (!o.sensitive) 0 tokens)).regex.code =
      codeOf (routeParts (!o.sensitive) 0 tokens) := by
    rw [Part.joined_regex (directive_routeParts 0 tokens), code_inSequence]
  have hroute : ((Part.joined (routeParts (!o.sensitive) 0 tokens)).wrapped
      (.capture 1 (some routeGroup))).regex.code =
      .note 1 false :: ((Part.joined (routeParts (!o.sensitive) 0 tokens)).regex.code ++
        [.note 1 true]) := rfl
  rw [frontParts, codeOf, List.flatMap_cons, List.flatMap_cons, hroute, hjoined, List.flatMap_nil,
    List.append_nil]
  rfl

/-- The code of a recognizer has a lead in front of the route. -/
theorem code_recognizer (tokens : List Token) (o : Options) :
    (recognizerRegex tokens o).code =
      leadCode (literalSet (!o.sensitive)) 1 [] ++ routeCode tokens o := by
  rw [code_recognizerRegex, codeOf_frontParts, routeCode]
  simp [leadCode, takeCode]

/-- The code of tokens behind a base takes the base first. -/
theorem codeOf_routeParts_prepend (ignoreCase : Bool) (b : Text) (tokens : List Token) :
    codeOf (routeParts ignoreCase 0 (prependTokens b tokens)) =
      takeCode (literalSet ignoreCase) b ++ codeOf (routeParts ignoreCase 0 tokens) := by
  unfold prependTokens
  split
  · rw [routeParts, routeParts, codeOf_append, codeOf_append, codeOf_textParts, codeOf_textParts,
      takeCode, takeCode, List.map_append, List.append_assoc]
    rfl
  · rw [routeParts, codeOf_append, codeOf_textParts]

/-- The code of a recognizer behind a base: only what stands in front of the route is another. -/
theorem code_recognizer_prepend (hne : tokens ≠ []) (hliteral : tokens.head? ≠ some (.literal [])) :
    (recognizerRegex (prependTokens b tokens) o).code =
      leadCode (literalSet (!o.sensitive)) 1 b ++ routeCode tokens o := by
  have htail : tailParts (prependTokens b tokens) o = tailParts tokens o := by
    rw [tailParts, tailParts, tailOf_prependTokens hne hliteral, keysOf_prependTokens]
  rw [code_recognizerRegex, codeOf_frontParts, codeOf_routeParts_prepend, htail, routeCode]
  simp [leadCode]

/-- The jumps of the code of the route stay inside it. -/
theorem contained_routeCode (tokens : List Token) (o : Options) : Contained (routeCode tokens o) :=
  (contained_codeOf _).append ((contained_codeOf _).cons rfl (Nat.zero_le _))

/-! ## The code looks ahead -/

/-- Whether parts ask for nothing but the end of the path. -/
def LookAhead (ps : List Part) : Prop := ∀ p ∈ ps, p.regex.LooksAhead

section
variable {ps qs : List Part} {p : Part} {ic : Bool}

/-- Parts and more parts that ask for nothing but the end of the path. -/
theorem LookAhead.append (hp : LookAhead ps) (hq : LookAhead qs) : LookAhead (ps ++ qs) :=
  List.forall_mem_append.2 ⟨hp, hq⟩

/-- A single part that asks for nothing but the end of the path. -/
theorem lookAhead_singleton (hp : p.regex.LooksAhead) : LookAhead [p] :=
  List.forall_mem_singleton.2 hp

/-- The expression of such parts in sequence asks for nothing else either. -/
theorem LookAhead.inSequence (h : LookAhead ps) :
    (inSequence (ps.map Part.regex)).LooksAhead := by
  have hfold : ∀ (ps : List Part) (r : Regex), r.LooksAhead → LookAhead ps →
      ((ps.map Part.regex).foldl .seq r).LooksAhead := by
    intro ps
    induction ps with
    | nil => exact fun _ hr _ => hr
    | cons p ps ih =>
      exact fun r hr h => ih _ ⟨hr, h p (.head _)⟩ fun q hq => h q (.tail _ hq)
  cases ps with
  | nil => trivial
  | cons p ps => exact hfold ps _ (h p (.head _)) fun q hq => h q (.tail _ hq)

/-- Joined parts ask for nothing else if they have no directive. -/
theorem LookAhead.joined (h : LookAhead ps) (hps : ∀ p ∈ ps, p.directive = false) :
    (Part.joined ps).regex.LooksAhead := by
  rw [Part.joined_regex hps]
  exact h.inSequence

/-- A modifier asks for nothing. -/
theorem looksAhead_modified (m : Modifier) (h : p.regex.LooksAhead) :
    (p.modified m).regex.LooksAhead := by
  match m with
  | none | some .optional | some .zeroOrMore | some .oneOrMore => exact h

/-- A literal asks for nothing. -/
theorem lookAhead_textParts (t : Text) : LookAhead (textParts ic t) := by
  intro p hp
  obtain ⟨c, -, rfl⟩ := List.mem_map.1 hp
  trivial

/-- The value of a key asks for nothing. -/
theorem looksAhead_valuePart (pattern : Text) : (valuePart ic pattern).regex.LooksAhead := by
  unfold valuePart
  split <;> trivial

/-- The group of a key asks for nothing that its parts do not ask for. -/
theorem looksAhead_framed {key : Key} {number : Nat} (h : LookAhead ps)
    (hps : ∀ p ∈ ps, p.directive = false) : (framed ic number key ps).regex.LooksAhead := by
  have hcapture : (capturePart number ps).regex.LooksAhead := h.joined hps
  have hall : LookAhead (textParts ic key.lead ++ ([capturePart number ps] ++
      textParts ic key.tail)) :=
    (lookAhead_textParts key.lead).append
      ((lookAhead_singleton hcapture).append (lookAhead_textParts key.tail))
  exact hall.joined directive_framed

/-- Repeated values of a key ask for nothing. -/
theorem lookAhead_repeatParts (key : Key) : LookAhead (repeatParts ic key) := by
  have hvalue : LookAhead [(Part.joined [valuePart ic key.pattern]).wrapped .plain] :=
    lookAhead_singleton (looksAhead_valuePart key.pattern)
  have hall : LookAhead (textParts ic key.tail ++ (textParts ic key.lead ++
      [(Part.joined [valuePart ic key.pattern]).wrapped .plain])) :=
    (lookAhead_textParts key.tail).append ((lookAhead_textParts key.lead).append hvalue)
  have hseparated : (separated ic key).regex.LooksAhead := hall.joined directive_separated
  exact hvalue.append (lookAhead_singleton (looksAhead_modified _ hseparated))

/-- A key asks for nothing. -/
theorem looksAhead_keyPart (number : Nat) (key : Key) :
    (keyPart ic number key).regex.LooksAhead := by
  have hvalue : LookAhead [valuePart ic key.pattern] :=
    lookAhead_singleton (looksAhead_valuePart key.pattern)
  unfold keyPart
  simp only
  split
  · exact looksAhead_modified _ (hvalue.joined directive_value)
  · split
    · exact looksAhead_modified _
        (looksAhead_framed (lookAhead_repeatParts key) directive_repeatParts)
    · exact looksAhead_modified _ (looksAhead_framed hvalue directive_value)

/-- The route asks for nothing. -/
theorem lookAhead_routeParts (number : Nat) (tokens : List Token) :
    LookAhead (routeParts ic number tokens) := by
  induction tokens generalizing number with
  | nil => exact nofun
  | cons token tokens ih =>
    cases token with
    | literal text => exact (lookAhead_textParts text).append (ih number)
    | group text modifier =>
      have hgroup : ((Part.joined (textParts ic text)).wrapped .plain).regex.LooksAhead :=
        (lookAhead_textParts text).joined fun _ => directive_textParts
      exact (lookAhead_singleton (looksAhead_modified modifier hgroup)).append (ih number)
    | key key =>
      exact (lookAhead_singleton (looksAhead_keyPart number key)).append (ih (number + 1))

/-- The tail asks for the end of the path at most. -/
theorem lookAhead_tailParts (tokens : List Token) (o : Options) :
    LookAhead (tailParts tokens o) := by
  have hend : LookAhead [endPart] := lookAhead_singleton rfl
  unfold tailParts
  cases tailOf tokens o with
  | pathEnd =>
    cases o.strict with
    | true => exact hend
    | false =>
      have htrail : LookAhead [(trailPart (!o.sensitive) ((keysOf tokens).length + 1)).modified
          (some .optional)] := lookAhead_singleton trivial
      exact htrail.append hend
  | anything =>
    cases o.strict with
    | true => exact nofun
    | false => exact lookAhead_singleton ⟨trivial, rfl⟩
  | boundary =>
    cases o.strict with
    | true => exact lookAhead_singleton ⟨trivial, rfl⟩
    | false => exact lookAhead_singleton ⟨⟨trivial, rfl⟩, trivial, rfl⟩

/-- The code of such parts checks nothing but the end of the path. -/
theorem LookAhead.codeOf (h : LookAhead ps) : ∀ i ∈ codeOf ps, i.LooksAhead := by
  intro i hi
  obtain ⟨p, hp, hi⟩ := List.mem_flatMap.1 hi
  exact (h p hp).code i hi

end

/-- The code of the route checks nothing but the end of the path. -/
theorem looksAhead_routeCode (tokens : List Token) (o : Options) :
    ∀ i ∈ routeCode tokens o, i.LooksAhead :=
  looksAhead_append (lookAhead_routeParts 0 tokens).codeOf
    (looksAhead_cons trivial (lookAhead_tailParts tokens o).codeOf)

/-! ## The search behind a base -/

/-- The notes at the start of the group of the route. -/
def startNotes : List Note := [⟨1, false, 0⟩]

/-- A search behind a base finds what the search by itself finds. -/
theorem search_prepend (hne : tokens ≠ []) (hliteral : tokens.head? ≠ some (.literal []))
    (path : Text) : ∃ (result : Option Way) (f g : Nat),
      (recognizerRegex tokens o).search path = result.map (.behind f [] startNotes) ∧
      (recognizerRegex (prependTokens b tokens) o).search (b ++ path) =
        result.map (.behind g b startNotes) := by
  have hc := contained_routeCode tokens o
  have hahead := looksAhead_routeCode tokens o
  have hways : ∀ w ∈ [Way.start (.start path)],
      w.next ≤ (routeCode tokens o).length ∧ w.place.IsIn path := by
    intro w hw
    obtain rfl := List.mem_singleton.1 hw
    exact ⟨Nat.zero_le _, [], path, rfl, rfl⟩
  obtain ⟨result, h⟩ := exists_traversal hc hways
  have hmem := mem_literalSet (!o.sensitive)
  refine ⟨result, (leadCode (literalSet (!o.sensitive)) 1 []).length,
    (leadCode (literalSet (!o.sensitive)) 1 b).length, ?_, ?_⟩
  · refine Traversal.unique (search_traversal (contained_code _) path) ?_
    rw [code_recognizer]
    exact h.lead hmem hc hahead []
  · refine Traversal.unique (search_traversal (contained_code _) (b ++ path)) ?_
    rw [code_recognizer_prepend hne hliteral]
    exact h.lead hmem hc hahead b

variable {w : Way} {f group : Nat}

/-- Notes behind a base are moved by its length, but for the start of the route. -/
theorem noted?_behind {isStop : Bool} (h : group = 1 → isStop = true) :
    (w.behind f b startNotes).noted? group isStop =
      (w.noted? group isStop).map (b.length + ·) := by
  have hstart : startNotes.find? (fun n => n.group == group && n.isStop == isStop) = none := by
    rw [startNotes, List.find?_singleton, if_neg]
    intro hnote
    simp only [Bool.and_eq_true, beq_iff_eq] at hnote
    rw [h hnote.1.symm] at hnote
    cases hnote.2
  rw [Way.noted?, Way.noted?, Way.behind, List.find?_append, hstart, Option.or_none, List.find?_map,
    Option.map_map, Option.map_map]
  rfl

/-- The text of a group of a key does not change behind a base. -/
theorem text?_behind (h : group ≠ 1) (s : Text) :
    (w.behind f b startNotes).text? (b ++ s) group = w.text? s group := by
  rw [Way.text?, Way.text?, noted?_behind fun hg => absurd hg h,
    noted?_behind fun hg => absurd hg h]
  cases w.noted? group false with
  | none => rfl
  | some first =>
    cases w.noted? group true with
    | none => rfl
    | some stop =>
      have hdrop : (b ++ s).drop (b.length + first) = s.drop first := by
        rw [← List.drop_drop, List.drop_left]
      simp [hdrop, Nat.add_sub_add_left]

/-- A group stops behind a base where it stops by itself. -/
theorem stop_behind (groups : List (Nat × Option Text)) (name : Text) :
    (groupNamed? groups name >>= fun group => (w.behind f b startNotes).noted? group true) =
      (groupNamed? groups name >>= fun group => w.noted? group true).map (b.length + ·) := by
  cases groupNamed? groups name with
  | none => rfl
  | some group => exact noted?_behind fun _ => rfl

namespace Pattern

variable {p q : Pattern} {path : Text}

/-- What the keys captured does not change behind a base. -/
theorem texts_behind (strict : Bool) : (p.keyGroups.map fun name =>
      groupNamed? (recognizerGroups strict p.keys.length) name >>= fun group =>
        (w.behind f b startNotes).text? (b ++ path) group) =
      p.keyGroups.map fun name =>
        groupNamed? (recognizerGroups strict p.keys.length) name >>= fun group =>
          w.text? path group := by
  refine List.map_congr_left fun name hname => ?_
  obtain ⟨i, hi, rfl⟩ := List.mem_map.1 hname
  rw [groupNamed_key strict (List.mem_range.1 hi)]
  exact text?_behind (by omega) path

/-- What a way reports behind a base. -/
theorem report_mount (hp : p.IsPlain) (hq : q.IsPlain) (ho : q.options = p.options)
    (htokens : q.tokens = prependTokens b p.tokens) (hb : ∀ c ∈ b, isSpecial c = false)
    {g stop : Nat} (hroute : (w.behind f [] startNotes).noted? 1 true = some stop) :
    q.report (b ++ path) (w.behind g b startNotes) =
      (p.report path (w.behind f [] startNotes)).mount b := by
  have hkeys : q.keys = p.keys := by
    rw [keys, htokens, keysOf_prependTokens, keys]
  have hpgroups : p.recognizer.groups = recognizerGroups p.options.strict p.keys.length := by
    rw [hp.recognizer_eq, groups_recognizerRegex]
    rfl
  have hqgroups : q.recognizer.groups = recognizerGroups p.options.strict p.keys.length := by
    rw [hq.recognizer_eq, groups_recognizerRegex, ho, ← hkeys]
    rfl
  have hnoted : w.noted? 1 true = some stop := by
    rw [noted?_behind fun _ => rfl, Option.map_eq_some_iff] at hroute
    obtain ⟨k, hk, hstop⟩ := hroute
    rw [List.length_nil, Nat.zero_add] at hstop
    rw [hk, hstop]
  have hend : (groupNamed? (recognizerGroups p.options.strict p.keys.length) routeGroup >>=
      fun group => w.noted? group true) = some stop := by
    rw [groupNamed_route]
    exact hnoted
  have hkeyGroups : q.keyGroups = p.keyGroups := by
    rw [keyGroups, hkeys, keyGroups]
  have hconsumed : q.consumed = b ++ p.consumed := by
    rw [consumed, htokens, consumedPrefix_prependTokens hb, consumed]
  have htexts : (p.keyGroups.map fun name =>
      groupNamed? (recognizerGroups p.options.strict p.keys.length) name >>= fun group =>
        (w.behind f [] startNotes).text? path group) = _ := texts_behind p.options.strict
  have htake : ∀ n, (b ++ path).take (b.length + n) = b ++ path.take n := by
    intro n
    rw [List.take_append, List.take_of_length_le (Nat.le_add_right ..), Nat.add_sub_cancel_left]
  simp only [report, hpgroups, hqgroups, stop_behind, hend, hkeyGroups, hkeys, hconsumed,
    texts_behind, htexts, Option.map_some, Option.getD_some, Option.getD_map]
  cases groupNamed? (recognizerGroups p.options.strict p.keys.length) trailGroup >>=
      fun group => w.noted? group true with
  | none => simp [Match.mount, Match.matched, htake]
  | some k => simp [Match.mount, Match.matched, htake]

/-- Tokens behind a base match behind the base as they match by themselves. -/
theorem exec_prepend (hp : p.IsPlain) (hq : q.IsPlain) (ho : q.options = p.options)
    (htokens : q.tokens = prependTokens b p.tokens) (hb : ∀ c ∈ b, isSpecial c = false)
    (hne : p.tokens ≠ []) (hliteral : p.tokens.head? ≠ some (.literal [])) (path : Text) :
    q.exec (b ++ path) = (p.exec path).map (Match.mount b) := by
  obtain ⟨result, f, g, hsearch, hbehind⟩ :=
    search_prepend (b := b) (o := p.options) hne hliteral path
  rw [exec, exec, hp.recognizer_eq, hq.recognizer_eq, ho, htokens, hsearch, hbehind]
  cases result with
  | none => rfl
  | some w =>
    obtain ⟨t, n, y, v, m, -, -, -, hm, hnotes⟩ := notes_of_search hsearch
    exact congrArg some (report_mount hp hq ho htokens hb (noted_route hm hnotes))

end Pattern

/-! ## The empty pattern -/

/-- Whether a path is empty or starts with a delimiter. -/
def Text.IsSegmented (path : Text) : Prop :=
  path = [] ∨ ∃ d s, path = d :: s ∧ isDelimiter d = true

variable {path route rest : Text} {values : List (Option Text)}

/-- What follows a base follows it as it follows the empty pattern, in a path of segments. -/
theorem allowsRest_base (hpath : path.IsSegmented) :
    o.AllowsRest [.literal b] path ↔ o.AllowsRest [] path := by
  unfold Options.AllowsRest
  split
  · exact .rfl
  · exact ⟨fun _ => .inl rfl, fun _ => .inr hpath⟩

/-- No tokens spell the empty route. -/
theorem spells_nil (h : Spells o [] route values) : route = [] ∧ values = [] := by
  cases h
  exact ⟨rfl, rfl⟩

/-- A base alone spells itself. -/
theorem spells_base (h : Spells o [.literal b] route values) (hroute : route ++ rest = b ++ path) :
    route = b ∧ rest = path ∧ values = [] := by
  cases h with
  | @literal _ _ u _ _ hsame h =>
    obtain ⟨rfl, rfl⟩ := spells_nil h
    rw [List.append_nil] at hroute ⊢
    obtain ⟨rfl, rfl⟩ := List.append_inj hroute hsame.length_eq
    exact ⟨rfl, rfl, rfl⟩

namespace Pattern

variable {p q : Pattern}

/-- A base alone matches behind the base as the empty pattern matches, in a path of segments. -/
theorem exec_base (hp : p.IsPlain) (hq : q.IsPlain) (ho : q.options = p.options)
    (hnil : p.tokens = []) (hbase : q.tokens = [.literal b]) (hb : ∀ c ∈ b, isSpecial c = false)
    (hpath : path.IsSegmented) : q.exec (b ++ path) = (p.exec path).map (Match.mount b) := by
  have hallows : q.options.AllowsRest q.tokens path ↔ p.options.AllowsRest p.tokens path := by
    rw [ho, hnil, hbase]
    exact allowsRest_base hpath
  cases h : p.exec path with
  | none =>
    refine Option.eq_none_iff_forall_ne_some.2 fun m hm => ?_
    obtain ⟨route, rest, values, hroute, hspells, hrest, -⟩ := matchOf_of_exec hq hm
    rw [hbase] at hspells
    obtain ⟨rfl, rfl, rfl⟩ := spells_base hspells hroute.symm
    have hempty : Spells p.options p.tokens [] [] := hnil ▸ .nil
    have hsome := exec_isSome hp hempty (hallows.1 hrest)
    rw [List.nil_append, h] at hsome
    cases hsome
  | some m =>
    obtain ⟨route, rest, values, hroute, hspells, hrest, rfl⟩ := matchOf_of_exec hp h
    rw [hnil] at hspells
    obtain ⟨rfl, rfl⟩ := spells_nil hspells
    obtain rfl : path = rest := hroute
    have hliteral : Spells q.options q.tokens (b ++ []) [] :=
      hbase ▸ .literal (same_self q.options b) .nil
    have hsome := exec_isSome hq hliteral (hallows.2 hrest)
    rw [List.append_nil] at hsome
    obtain ⟨result, hresult⟩ := Option.isSome_iff_exists.1 hsome
    obtain ⟨route, rest, values, hroute, hspells, -, rfl⟩ := matchOf_of_exec hq hresult
    rw [hbase] at hspells
    obtain ⟨rfl, rfl, rfl⟩ := spells_base hspells hroute.symm
    have hconsumed : q.consumed = route ++ p.consumed := by
      have hprepend : q.tokens = prependTokens route p.tokens := by
        rw [hbase, hnil]
        rfl
      rw [consumed, hprepend, consumedPrefix_prependTokens hb, consumed]
    have hkeys : q.keys = p.keys := by
      rw [keys, hbase, keys, hnil]
      rfl
    rw [hresult]
    simp [matchOf, Match.mount, Match.matched, ho, hkeys, hconsumed]

/-- Tokens behind a base match a path of segments behind the base as they match it by themselves. -/
theorem exec_mount (hp : p.IsPlain) (hq : q.IsPlain) (ho : q.options = p.options)
    (htokens : q.tokens = prependTokens b p.tokens) (hb : ∀ c ∈ b, isSpecial c = false)
    (hliteral : p.tokens.head? ≠ some (.literal [])) (hpath : path.IsSegmented) :
    q.exec (b ++ path) = (p.exec path).map (Match.mount b) := by
  by_cases hnil : p.tokens = []
  · rw [hnil] at htokens
    exact exec_base hp hq ho hnil htokens hb hpath
  · exact exec_prepend hp hq ho htokens hb hnil hliteral path

end Pattern

end

end NestedRouting
