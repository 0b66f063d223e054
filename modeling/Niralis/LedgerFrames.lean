import Niralis.LedgerOpen
import Niralis.ReadableWrites

namespace Niralis.PersistentRecoveryLedger
open KeyedList

/-- A record for the lifecycle is in memory or on disk. -/
def holds (l : PersistentRecoveryLedger) (id : String) : Prop :=
  (l.get id).isSome = true ∨ (l.file id).isSome = true

structure SameMarks (l l' : PersistentRecoveryLedger) : Prop where
  recordSet : l'.recordSet = l.recordSet
  startupQuarantined : l'.startupQuarantined = l.startupQuarantined
  seats : l'.startupQuarantinedSeats = l.startupQuarantinedSeats

theorem SameMarks.refl (l : PersistentRecoveryLedger) : SameMarks l l := ⟨rfl, rfl, rfl⟩

theorem SameMarks.trans {l l' l'' : PersistentRecoveryLedger} (h : SameMarks l l')
    (h' : SameMarks l' l'') : SameMarks l l'' :=
  ⟨h'.recordSet.trans h.recordSet, h'.startupQuarantined.trans h.startupQuarantined,
    h'.seats.trans h.seats⟩

/-- An operation on one record: the marks and all other records stay. -/
structure OnRecord (id : String) (l l' : PersistentRecoveryLedger) : Prop where
  marks : SameMarks l l'
  get : ∀ id', id' ≠ id → l'.get id' = l.get id'
  file : ∀ id', id' ≠ id → l'.file id' = l.file id'

namespace OnRecord
variable {id : String} {l l' l'' : PersistentRecoveryLedger}

theorem refl (id : String) (l : PersistentRecoveryLedger) : OnRecord id l l :=
  ⟨.refl l, fun _ _ => rfl, fun _ _ => rfl⟩

theorem trans (h : OnRecord id l l') (h' : OnRecord id l' l'') : OnRecord id l l'' :=
  ⟨h.marks.trans h'.marks, fun x hx => (h'.get x hx).trans (h.get x hx),
    fun x hx => (h'.file x hx).trans (h.file x hx)⟩

theorem holds_iff (h : OnRecord id l l') {id' : String} (hne : id' ≠ id) :
    l'.holds id' ↔ l.holds id' := by
  unfold holds
  rw [h.get id' hne, h.file id' hne]

end OnRecord

variable (l : PersistentRecoveryLedger)

theorem onRecord_putFile (r : PersistentRecoveryRecord) (event : DurableEvent) :
    OnRecord r.lifecycleId l (l.putFile r event) := by
  refine ⟨⟨rfl, rfl, rfl⟩, fun _ _ => rfl, fun id hne => ?_⟩
  rw [file_putFile, if_neg hne]

theorem onRecord_putRecord (r : PersistentRecoveryRecord) :
    OnRecord r.lifecycleId l (l.putRecord r) := by
  refine ⟨⟨rfl, rfl, rfl⟩, fun id hne => ?_, fun _ _ => rfl⟩
  rw [get_putRecord, if_neg hne]

theorem onRecord_commit (r : PersistentRecoveryRecord) (event : DurableEvent)
    (answer : CommitAnswer) : OnRecord r.lifecycleId l (l.commit r event answer).2 := by
  unfold commit
  split
  · exact .refl _ l
  · cases answer with
    | synced => exact (l.onRecord_putFile r event).trans (onRecord_putRecord _ r)
    | notRenamed => exact .refl _ l
    | notSynced => exact l.onRecord_putFile r event

theorem onRecord_create (r : PersistentRecoveryRecord) (answer : CommitAnswer) :
    OnRecord r.lifecycleId l (l.create r answer).2 := by
  unfold create
  split
  · exact .refl _ l
  · exact l.onRecord_commit r _ answer

theorem onRecord_removeResolved (id : String) (answer : RemoveAnswer) :
    OnRecord id l (l.removeResolved id answer).2 := by
  unfold removeResolved
  cases l.get id with
  | none => exact .refl _ l
  | some r =>
    dsimp only
    split
    · exact .refl _ l
    · cases answer with
      | notRemoved => exact .refl _ l
      | notSynced => exact ⟨⟨rfl, rfl, rfl⟩, fun _ _ => rfl, fun _ h => lookup_erase_of_ne h⟩
      | synced =>
        exact ⟨⟨rfl, rfl, rfl⟩, fun _ h => lookup_erase_of_ne h, fun _ h => lookup_erase_of_ne h⟩

theorem onRecord_write (id : String) (w : RecordWrite) (answer : WriteAnswer) :
    OnRecord id l (l.write id w answer).2 := by
  unfold write
  cases hget : l.get id with
  | none => exact .refl _ l
  | some r =>
    dsimp only
    cases happly : w.apply r answer.bootId with
    | none => exact .refl _ l
    | some next =>
      have hid : next.lifecycleId = id := by
        rw [(writeResult_of_apply happly).lifecycleId, lifecycleId_of_get hget]
      exact hid ▸ l.onRecord_commit next _ answer.commit

theorem onRecord_resolveAndRemove (id : String) (resolve : WriteAnswer) (remove : RemoveAnswer) :
    OnRecord id l (l.resolveAndRemove id resolve remove).2 := by
  have hwrite := l.onRecord_write id (.transition "record_resolved") resolve
  unfold resolveAndRemove transition
  cases h : l.write id (.transition "record_resolved") resolve with
  | mk ok l' =>
    rw [h] at hwrite
    cases ok with
    | false => exact hwrite
    | true => exact hwrite.trans (l'.onRecord_removeResolved id remove)

/-- A write never takes a record away, and never brings back one that memory does not have. -/
theorem holds_write (id : String) (w : RecordWrite) (answer : WriteAnswer) :
    (l.write id w answer).2.holds id ↔ l.holds id := by
  rcases write_cases l id w answer with hw | ⟨r, next, hget, happly, -, -, hw⟩
  · rw [hw]
  · have hold : l.holds id := Or.inl (by rw [hget]; rfl)
    refine iff_of_true ?_ hold
    rw [hw]
    have hid : next.lifecycleId = id := by
      rw [(writeResult_of_apply happly).lifecycleId, lifecycleId_of_get hget]
    split <;> exact Or.inr (by simp [file_putFile, hid])

theorem holds_of_resolveAndRemove {id : String} {resolve : WriteAnswer} {remove : RemoveAnswer}
    (h : (l.resolveAndRemove id resolve remove).2.holds id) : l.holds id := by
  rw [← l.holds_write id (.transition "record_resolved") resolve]
  unfold resolveAndRemove transition at h
  cases hw : l.write id (.transition "record_resolved") resolve with
  | mk ok l' =>
    rw [hw] at h
    cases ok with
    | false => exact h
    | true =>
      dsimp only at h
      unfold removeResolved at h
      cases hget : l'.get id with
      | none => simpa only [hget] using h
      | some r => exact Or.inl (by rw [hget]; rfl)

theorem not_holds_of_resolved {id : String} {resolve : WriteAnswer} {remove : RemoveAnswer}
    (h : (l.resolveAndRemove id resolve remove).1 = true) :
    ¬(l.resolveAndRemove id resolve remove).2.holds id := by
  unfold resolveAndRemove at h ⊢
  cases ht : l.transition id "record_resolved" resolve with
  | mk ok l' =>
    rw [ht] at h
    cases ok with
    | false => cases h
    | true =>
      dsimp only at h ⊢
      unfold removeResolved at h ⊢
      cases hget : l'.get id with
      | none => simp [hget] at h
      | some r =>
        simp only [hget] at h ⊢
        split at h
        · cases h
        · rename_i hstate
          rw [if_neg hstate]
          cases remove with
          | notRemoved => cases h
          | notSynced => cases h
          | synced =>
            rintro (hm | hd)
            · simp [get] at hm
            · simp [file] at hd

end Niralis.PersistentRecoveryLedger

namespace Niralis
open PersistentRecoveryLedger

theorem stringLt_irrefl (a : String) : stringLt a a = false := by
  simp [stringLt]

theorem stringLt_trans (a b c : String) (hab : stringLt a b = true) (hbc : stringLt b c = true) :
    stringLt a c = true := by
  simp only [stringLt, decide_eq_true_eq] at hab hbc ⊢
  exact String.lt_trans hab hbc

theorem stringLt_total (a b : String) : stringLt a b = true ∨ a = b ∨ stringLt b a = true := by
  simp only [stringLt, decide_eq_true_eq]
  by_cases hab : a < b
  · exact Or.inl hab
  · by_cases hba : b < a
    · exact Or.inr (Or.inr hba)
    · exact Or.inr (Or.inl (String.le_antisymm (String.not_lt.mp hba) (String.not_lt.mp hab)))

def FilesOrdered (l : PersistentRecoveryLedger) : Prop :=
  KeyedList.Ordered RecordFile.lifecycleId stringLt l.files

theorem filesOrdered_putFile {l : PersistentRecoveryLedger} (h : FilesOrdered l)
    (r : PersistentRecoveryRecord) (event : DurableEvent) : FilesOrdered (l.putFile r event) :=
  KeyedList.ordered_put stringLt_trans stringLt_total h _

end Niralis
