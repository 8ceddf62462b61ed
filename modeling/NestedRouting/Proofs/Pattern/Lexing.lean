import NestedRouting.Pattern.Consumed
import NestedRouting.Pattern.Lexeme

/-!
# Lexemes of a pattern that stands behind a text

Where a pattern stands moves its lexemes and its errors, and changes nothing else
(`lexFrom_moved`). A text that has been escaped lexes to plain and escaped characters, whatever
stands behind it, so a pattern behind it lexes as it does by itself (`lex_escapeSource`).
-/

namespace NestedRouting

/-! ## Places -/

/-- The same error in a pattern that starts `k` bytes further right. -/
def SyntaxError.moved (k : Nat) : SyntaxError → SyntaxError
  | missingName i => missingName (k + i)
  | unbalancedGroup i => unbalancedGroup (k + i)
  | capturingGroup i => capturingGroup (k + i)
  | questionAfterOpen i => questionAfterOpen (k + i)
  | emptyGroup i => emptyGroup (k + i)
  | trailingEscape i => trailingEscape (k + i)
  | unexpected found i expected => unexpected found (k + i) expected
  | repeatWithoutAffix name => repeatWithoutAffix name
  | invalidRegex source => invalidRegex source

/-- The same lexeme in a pattern that starts `k` bytes further right. -/
def Located.moved (k : Nat) (x : Located) : Located := ⟨k + x.index, x.lexeme⟩

@[simp] theorem SyntaxError.moved_zero (e : SyntaxError) : e.moved 0 = e := by
  cases e <;> simp only [moved, Nat.zero_add]

@[simp] theorem Located.moved_zero (x : Located) : x.moved 0 = x := by
  simp only [moved, Nat.zero_add]

@[simp] theorem Located.map_moved_zero (xs : List Located) : xs.map (moved 0) = xs := by
  rw [show moved 0 = id from funext moved_zero, List.map_id]

section
variable (k : Nat)

/-- An error behind characters is the error by itself. -/
theorem prependBody_mapError (cs : Text) (r : Except SyntaxError (Text × Text))
    (f : SyntaxError → SyntaxError) :
    prependBody cs (r.mapError f) = (prependBody cs r).mapError f := by
  cases r <;> rfl

/-- A group that starts further right closes in the same way. -/
theorem closeGroup_moved (opened index depth : Nat) (s : Text) :
    closeGroup (k + opened) (k + index) depth s =
      (closeGroup opened index depth s).mapError (.moved k) := by
  fun_induction closeGroup opened index depth s with
  | case1 | case2 => rfl
  | case3 _ _ _ _ ih =>
    rw [closeGroup.eq_def, ← prependBody_mapError, ← ih]
    simp only [↓reduceIte, Nat.add_assoc]
  | case4 =>
    rw [closeGroup.eq_def]
    rfl
  | case5 _ _ _ _ ih =>
    rw [closeGroup.eq_def, ← prependBody_mapError, ← ih]
    simp [Nat.add_assoc]
  | case6 _ _ _ hhead _ _ ih =>
    rw [closeGroup.eq_def, ← prependBody_mapError, ← ih]
    simp [hhead, Nat.add_assoc]
  | case7 _ _ _ hhead =>
    rw [closeGroup.eq_def]
    simp only [hhead]
    rfl
  | case8 _ _ _ _ hslash hclose hopen ih =>
    rw [closeGroup.eq_def, ← prependBody_mapError, ← ih]
    simp [hslash, hclose, hopen, Nat.add_assoc]

/-- A group that starts further right is cut off in the same way. -/
theorem takeGroup_moved (i : Nat) (s : Text) :
    takeGroup (k + i) s = (takeGroup i s).mapError (.moved k) := by
  have h := closeGroup_moved k i (i + '('.utf8Size) 0 s
  rw [← Nat.add_assoc] at h
  unfold takeGroup
  split
  · rw [Nat.add_assoc]
    rfl
  · rw [h]
    cases closeGroup i (i + '('.utf8Size) 0 s with
    | error e => rfl
    | ok p =>
      obtain ⟨body, rest⟩ := p
      cases body <;> rfl

/-- A lexeme that starts further right is cut off in the same way. -/
theorem takeLexeme_moved (i : Nat) (c : Char) (s : Text) :
    takeLexeme (k + i) c s = (takeLexeme i c s).mapError (.moved k) := by
  unfold takeLexeme
  split
  · rfl
  · split
    · cases s <;> rfl
    · split
      · rfl
      · split
        · rfl
        · split
          · split <;> rfl
          · split
            · exact takeGroup_moved k i s
            · rfl

/-- Lexing cuts off one lexeme and goes on behind it. -/
theorem lexFrom_cons (i : Nat) (c : Char) (s : Text) :
    lexFrom i (c :: s) = (takeLexeme i c s).bind fun p =>
      (lexFrom (i + p.1.source.byteLength) p.2).map (⟨i, p.1⟩ :: ·) := by
  rw [lexFrom]
  split
  · next h =>
    rw [h]
    rfl
  · next x rest h =>
    simp only [h, Except.bind]
    cases lexFrom (i + x.source.byteLength) rest <;> rfl

/-- The lexemes of a pattern that starts further right. -/
theorem lexFrom_moved (i : Nat) (s : Text) :
    lexFrom (k + i) s = ((lexFrom i s).map (·.map (Located.moved k))).mapError (.moved k) := by
  induction i, s using lexFrom.induct with
  | case1 i =>
    rw [lexFrom, lexFrom]
    rfl
  | case2 i c s e h =>
    rw [lexFrom_cons, lexFrom_cons, takeLexeme_moved, h]
    rfl
  | case3 i c s x rest h _ e hrest ih | case4 i c s x rest h _ xs hrest ih =>
    rw [lexFrom_cons, lexFrom_cons, takeLexeme_moved, h]
    show (lexFrom (k + i + x.source.byteLength) rest).map _ =
      (((lexFrom (i + x.source.byteLength) rest).map _).map _).mapError _
    rw [Nat.add_assoc, ih, hrest]
    rfl

end

/-! ## Texts that have been escaped -/

/-- A character that a pattern need not escape is a lexeme. -/
theorem takeLexeme_char {c : Char} (hc : isSpecial c = false) (i : Nat) (s : Text) :
    takeLexeme i c s = .ok (.char c, s) := by
  simp only [isSpecial, Bool.or_eq_false_iff, beq_eq_false_iff_ne] at hc
  have hquantifier : Quantifier.ofChar? c = none := by
    unfold Quantifier.ofChar?
    split <;> simp_all
  simp [takeLexeme, hquantifier, hc]

/-- A character is escaped if it is special. -/
theorem escapeSource_cons (c : Char) (t : Text) :
    escapeSource (c :: t) = (if isSpecial c then ['\\', c] else [c]) ++ escapeSource t := rfl

/-- Texts are escaped one after the other. -/
theorem escapeSource_append (t u : Text) :
    escapeSource (t ++ u) = escapeSource t ++ escapeSource u := List.flatMap_append

/-- A text without characters that a pattern must escape spells itself. -/
theorem escapeSource_of_plain {t : Text} (ht : ∀ c ∈ t, isSpecial c = false) :
    escapeSource t = t := by
  induction t with
  | nil => rfl
  | cons c t ih =>
    rw [escapeSource_cons, ht c (.head _), ih fun d hd => ht d (.tail _ hd)]
    rfl

/-- The static text at the start of a pattern: the text that its consumed prefix spells. -/
def consumedText : List Token → Text
  | .literal text :: .key key :: _ => text ++ key.lead
  | .literal text :: _ => text
  | .key key :: _ => key.lead
  | _ => []

/-- The consumed prefix is the static text at the start, escaped. -/
theorem consumedPrefix_eq (tokens : List Token) :
    consumedPrefix tokens = escapeSource (consumedText tokens) := by
  match tokens with
  | .literal text :: .key key :: _ => exact (escapeSource_append text key.lead).symm
  | [] | .group .. :: _ | .key _ :: _ | [.literal _] | .literal _ :: .literal _ :: _
  | .literal _ :: .group .. :: _ => rfl

/-- The lexemes of a text that has been escaped. -/
def escapedLexemes (t : Text) : List Lexeme :=
  t.map fun c => if isSpecial c then .escaped c else .char c

/-- A text that has been escaped lexes to its characters, whatever stands behind it. -/
theorem lexFrom_escapeSource (t : Text) (i : Nat) :
    ∃ zs : List Located, zs.map Located.lexeme = escapedLexemes t ∧
      ∀ s, lexFrom i (escapeSource t ++ s) =
        (lexFrom (i + (escapeSource t).byteLength) s).map (zs ++ ·) := by
  induction t generalizing i with
  | nil =>
    refine ⟨[], rfl, fun s => ?_⟩
    show lexFrom i s = (lexFrom i s).map id
    cases lexFrom i s <;> rfl
  | cons c t ih =>
    -- the lexeme of the first character, escaped or not
    obtain ⟨x, hx, hcons⟩ : ∃ x : Lexeme, x = (if isSpecial c then .escaped c else .char c) ∧
        ∀ s, lexFrom i (escapeSource (c :: t) ++ s) =
          (lexFrom (i + x.source.byteLength) (escapeSource t ++ s)).map (⟨i, x⟩ :: ·) ∧
        (escapeSource (c :: t)).byteLength = x.source.byteLength + (escapeSource t).byteLength := by
      refine ⟨_, rfl, fun s => ?_⟩
      rw [escapeSource_cons, Text.byteLength_append]
      cases hc : isSpecial c with
      | true => exact ⟨lexFrom_cons i '\\' _, rfl⟩
      | false =>
        refine ⟨?_, rfl⟩
        show lexFrom i (c :: (escapeSource t ++ s)) = _
        rw [lexFrom_cons, takeLexeme_char hc]
        rfl
    obtain ⟨zs, hzs, h⟩ := ih (i + x.source.byteLength)
    refine ⟨⟨i, x⟩ :: zs, by rw [List.map_cons, hzs, hx]; rfl, fun s => ?_⟩
    rw [(hcons s).1, h, (hcons s).2, Nat.add_assoc]
    cases lexFrom (i + (x.source.byteLength + (escapeSource t).byteLength)) s <;> rfl

/-- The lexemes of a pattern behind a text that has been escaped. -/
theorem lex_escapeSource (t : Text) : ∃ zs : List Located,
    zs.map Located.lexeme = escapedLexemes t ∧ ∀ s, lex (escapeSource t ++ s) =
      ((lex s).map fun xs => zs ++ xs.map (.moved (escapeSource t).byteLength)).mapError
        (.moved (escapeSource t).byteLength) := by
  obtain ⟨zs, hzs, h⟩ := lexFrom_escapeSource t 0
  refine ⟨zs, hzs, fun s => ?_⟩
  rw [lex, h, Nat.zero_add, ← Nat.add_zero (escapeSource t).byteLength, lexFrom_moved, lex]
  cases lexFrom 0 s <;> rfl

/-- Whether a pattern has no group of its own. -/
def HasNoGroup (pattern : Text) : Prop :=
  ∀ xs, lex pattern = .ok xs → ∀ x ∈ xs, ∀ body, x.lexeme ≠ .group body

/-- The kind of a lexeme tells whether it is a group. -/
theorem kind_ne_group {x : Lexeme} : x.kind ≠ .group ↔ ∀ body, x ≠ .group body := by
  cases x with
  | group body => simp [Lexeme.kind]
  | _ => exact ⟨fun _ => nofun, fun _ => nofun⟩

instance : DecidablePred HasNoGroup := fun pattern =>
  match h : lex pattern with
  | .error _ => .isTrue fun _ hxs => nomatch h.symm.trans hxs
  | .ok xs => decidable_of_iff (∀ x ∈ xs, x.lexeme.kind ≠ .group)
      ⟨fun hkind _ hys x hx => kind_ne_group.1 (hkind x (Except.ok.inj (h.symm.trans hys) ▸ hx)),
        fun hgroup x hx => kind_ne_group.2 (hgroup xs h x hx)⟩

/-- No character is a group. -/
theorem ne_group_of_mem_escapedLexemes {t : Text} {x : Lexeme} (hx : x ∈ escapedLexemes t)
    (body : Text) : x ≠ .group body := by
  obtain ⟨c, -, rfl⟩ := List.mem_map.1 hx
  split <;> nofun

/-- Text in front that has been escaped adds no group. -/
theorem HasNoGroup.escapeSource {pattern : Text} (h : HasNoGroup pattern) (t : Text) :
    HasNoGroup (escapeSource t ++ pattern) := by
  obtain ⟨zs, hzs, hlex⟩ := lex_escapeSource t
  intro xs hxs x hx body
  rw [hlex] at hxs
  cases hp : lex pattern with
  | error e =>
    rw [hp] at hxs
    cases hxs
  | ok ys =>
    rw [hp] at hxs
    obtain rfl := Except.ok.inj hxs
    rcases List.mem_append.1 hx with hx | hx
    · exact ne_group_of_mem_escapedLexemes (hzs ▸ List.mem_map_of_mem hx) body
    · obtain ⟨y, hy, rfl⟩ := List.mem_map.1 hx
      exact h ys hp y hy body

end NestedRouting
