import NestedRouting.Navigation.Record

/-!
# History records that are read back

Entries and transitions are read back from their written form, whatever their path is and however
deeply their data is nested. The one exception is data that is null: it is written, but what is read
as null counts as missing, so the record comes back without it (`HistoryEntry.ofData?_toData`,
`Transition.ofData?_toData`). A record comes back as it was if and only if its data is not null
(`records_read_back`).
-/

namespace NestedRouting

/-- Data is kept if and only if it is not null. -/
theorem bind_notNull?_eq_self_iff {data : Option Data} :
    data.bind Data.notNull? = data ↔ data ≠ some .null := by
  cases data with
  | none => exact ⟨nofun, fun _ => rfl⟩
  | some d =>
    cases d with
    | null => exact ⟨nofun, fun h => absurd rfl h⟩
    | bool | number | string | array | object => exact ⟨nofun, fun _ => rfl⟩

namespace HistoryEntry

/-- The entry without its data, if that is null. -/
def withoutNull (e : HistoryEntry) : HistoryEntry := { e with data := e.data.bind Data.notNull? }

/-- Only null is lost of the data of an entry. -/
theorem withoutNull_eq_self_iff {e : HistoryEntry} : e.withoutNull = e ↔ e.data ≠ some .null := by
  rw [← bind_notNull?_eq_self_iff]
  exact ⟨congrArg data, fun h => congrArg (mk e.path) h⟩

/-- An entry is read back as it was written, but for data that is null. -/
theorem ofData?_toData (e : HistoryEntry) : ofData? e.toData = some e.withoutNull := by
  obtain ⟨path, data⟩ := e
  cases data <;> rfl

/-- The fields of an entry are read behind a field that is not called as its data is. -/
theorem ofData?_cons_fields (e : HistoryEntry) {name : String} (hname : ("data" == name) = false)
    (d : Data) : ofData? (.object ((name, d) :: e.fields)) = some e.withoutNull := by
  obtain ⟨path, data⟩ := e
  cases data with
  | none => simp [ofData?, Data.field?, fields, withoutNull, List.lookup_cons, hname]
  | some value => simp [ofData?, Data.field?, fields, withoutNull, List.lookup_cons]

end HistoryEntry

namespace Transition

/-- The name of a kind tells whether it replaces. -/
theorem isReplaceOf?_kindName (t : Transition) :
    isReplaceOf? (.string t.kindName) = some t.isReplace := by
  obtain ⟨isReplace, e⟩ := t
  cases isReplace <;> rfl

/-- The word for a transition is found in front of the fields of its entry. -/
theorem field?_kind (t : Transition) : t.toData.field? "kind" = some (.string t.kindName) := by
  obtain ⟨isReplace, path, data⟩ := t
  cases data <;> rfl

/-- A transition is read back as it was written, but for data that is null. -/
theorem ofData?_toData (t : Transition) :
    ofData? t.toData = some { t with entry := t.entry.withoutNull } := by
  have hentry : HistoryEntry.ofData? t.toData = some t.entry.withoutNull :=
    t.entry.ofData?_cons_fields rfl _
  have hread : ofData? t.toData = (do
      let kind ← t.toData.field? "kind"
      let isReplace ← isReplaceOf? kind
      let entry ← HistoryEntry.ofData? t.toData
      return ⟨isReplace, entry⟩) := rfl
  rw [hread, field?_kind, hentry]
  simp [isReplaceOf?_kindName]

end Transition

/-- A record of a history is read back from its written form as it was if and only if it has no data
that is null; otherwise it comes back without that data. -/
theorem records_read_back (e : HistoryEntry) (t : Transition) :
    HistoryEntry.ofData? e.toData = some e.withoutNull ∧
    (HistoryEntry.ofData? e.toData = some e ↔ e.data ≠ some .null) ∧
    Transition.ofData? t.toData = some { t with entry := t.entry.withoutNull } ∧
    (Transition.ofData? t.toData = some t ↔ t.entry.data ≠ some .null) := by
  refine ⟨e.ofData?_toData, ?_, t.ofData?_toData, ?_⟩
  · rw [e.ofData?_toData, Option.some_inj]
    exact HistoryEntry.withoutNull_eq_self_iff
  · rw [t.ofData?_toData, Option.some_inj, ← HistoryEntry.withoutNull_eq_self_iff]
    exact ⟨congrArg Transition.entry, fun h => congrArg (Transition.mk t.isReplace) h⟩

/-- Null can be pushed onto a history as the data of an entry. The entry and its transition are written
with it, and come back without data. -/
theorem null_read_as_missing :
    let h := (History.start "/").push ⟨"/a", some .null⟩
    h.current = ⟨"/a", some .null⟩ ∧ h.transitions = [⟨false, h.current⟩] ∧
    h.current.toData = .object [("path", .string "/a"), ("data", .null)] ∧
    HistoryEntry.ofData? h.current.toData = some ⟨"/a", none⟩ ∧
    Transition.ofData? (Transition.toData ⟨false, h.current⟩) = some ⟨false, ⟨"/a", none⟩⟩ ∧
    HistoryEntry.ofData? h.current.toData ≠ some h.current := by
  refine ⟨rfl, rfl, rfl, rfl, rfl, ?_⟩
  show some (HistoryEntry.mk "/a" none) ≠ some ⟨"/a", some .null⟩
  exact nofun

end NestedRouting
