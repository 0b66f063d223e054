import Mathlib.Data.List.Nodup
import Niralis.RestartEffects
import Niralis.StartupReconciliation

namespace Niralis

section Keys

def ConflictKey.text : ConflictKey → String
  | seat name => "seat:" ++ name
  | vt number => "vt:" ++ toString number
  | invocation id => "invocation:" ++ id

theorem ConflictKey.text_injective : Function.Injective ConflictKey.text := by
  intro a b h
  have hlists : a.text.toList = b.text.toList := congrArg String.toList h
  cases a with
  | seat name =>
    cases b with
    | seat name' =>
      simp only [text, String.toList_append, List.append_cancel_left_eq] at hlists
      rw [String.toList_injective hlists]
    | vt number => simp [text] at hlists
    | invocation id => simp [text] at hlists
  | vt number =>
    cases b with
    | seat name => simp [text] at hlists
    | vt number' =>
      simp only [text, String.toList_append, List.append_cancel_left_eq] at hlists
      have hdigits : Nat.toDigits 10 number = Nat.toDigits 10 number' := by
        rw [← Nat.toList_repr, ← Nat.toList_repr]
        exact hlists
      have hvalues := congrArg (Nat.ofDigitChars 10 · 0) hdigits
      simp only [Nat.ofDigitChars_ten_toDigits] at hvalues
      rw [hvalues]
    | invocation id => simp [text] at hlists
  | invocation id =>
    cases b with
    | seat name => simp [text] at hlists
    | vt number => simp [text] at hlists
    | invocation id' =>
      simp only [text, String.toList_append, List.append_cancel_left_eq] at hlists
      rw [String.toList_injective hlists]

end Keys

section Pass
variable {seen entries : List (ConflictKey × String)} {key : ConflictKey} {id id' : String}

/-- A key that was met before is reported with the next record that has it. -/
theorem mem_conflictsFrom_of_later (hseen : (key, id') ∈ seen) (h : (key, id) ∈ entries) :
    id ∈ conflictsFrom seen entries := by
  induction entries generalizing seen with
  | nil => cases h
  | cons entry rest ih =>
    obtain ⟨key₁, id₁⟩ := entry
    rcases List.mem_cons.mp h with heq | htail
    · cases heq
      have hlookup : (seen.lookup key).isSome = true :=
        List.lookup_isSome_iff.mpr ⟨(key, id'), hseen, by simp⟩
      obtain ⟨previous, hprevious⟩ := Option.isSome_iff_exists.mp hlookup
      simp [conflictsFrom, hprevious]
    · exact List.mem_append_right _ (ih (List.mem_cons_of_mem _ hseen) htail)

/-- The record that had a key last is reported with the next one that has it. -/
theorem mem_conflictsFrom_of_earlier (hseen : seen.lookup key = some id)
    (h : (key, id') ∈ entries) : id ∈ conflictsFrom seen entries := by
  induction entries generalizing seen with
  | nil => cases h
  | cons entry rest ih =>
    obtain ⟨key₁, id₁⟩ := entry
    by_cases hkey : key₁ = key
    · subst hkey
      simp [conflictsFrom, hseen]
    · have htail : (key, id') ∈ rest := by
        rcases List.mem_cons.mp h with heq | htail
        · cases heq
          exact absurd rfl hkey
        · exact htail
      refine List.mem_append_right _ (ih ?_ htail)
      rw [List.lookup_cons, beq_eq_false_iff_ne.mpr (Ne.symm hkey)]
      exact hseen

/-- Of two records with one key both are reported, whichever comes first. -/
theorem mem_conflictsFrom_of_shared (h : (key, id) ∈ entries) (h' : (key, id') ∈ entries)
    (hne : id ≠ id') : id ∈ conflictsFrom seen entries := by
  induction entries generalizing seen with
  | nil => cases h
  | cons entry rest ih =>
    refine List.mem_append_right _ ?_
    rcases List.mem_cons.mp h with rfl | htail
    · have hother : (key, id') ∈ rest := by
        rcases List.mem_cons.mp h' with heq | htail'
        · cases heq
          exact absurd rfl hne
        · exact htail'
      exact mem_conflictsFrom_of_earlier (by simp) hother
    · rcases List.mem_cons.mp h' with rfl | htail'
      · exact mem_conflictsFrom_of_later List.mem_cons_self htail
      · exact ih htail htail'

theorem shared_of_mem_conflictsFrom (hnodup : (seen ++ entries).Nodup)
    (h : id ∈ conflictsFrom seen entries) :
    ∃ key id', id' ≠ id ∧ (key, id) ∈ seen ++ entries ∧ (key, id') ∈ seen ++ entries := by
  induction entries generalizing seen with
  | nil => cases h
  | cons entry rest ih =>
    obtain ⟨key₁, id₁⟩ := entry
    have hperm : ((key₁, id₁) :: seen ++ rest).Perm (seen ++ (key₁, id₁) :: rest) :=
      List.perm_middle.symm
    rcases List.mem_append.mp h with hhere | htail
    · cases hprevious : seen.lookup key₁ with
      | none => simp [hprevious] at hhere
      | some previous =>
        have hmem : (key₁, previous) ∈ seen := by
          obtain ⟨l₁, l₂, hseen, -⟩ := List.lookup_eq_some_iff.mp hprevious
          rw [hseen]
          exact List.mem_append_right _ List.mem_cons_self
        have hne : previous ≠ id₁ := by
          rintro rfl
          exact (List.nodup_append.mp hnodup).2.2 _ hmem _ List.mem_cons_self rfl
        have hold : (key₁, previous) ∈ seen ++ (key₁, id₁) :: rest := List.mem_append_left _ hmem
        have hnew : (key₁, id₁) ∈ seen ++ (key₁, id₁) :: rest :=
          List.mem_append_right _ List.mem_cons_self
        rw [hprevious] at hhere
        rcases List.mem_pair.mp hhere with rfl | rfl
        · exact ⟨key₁, id₁, hne.symm, hold, hnew⟩
        · exact ⟨key₁, previous, hne, hnew, hold⟩
    · obtain ⟨key, id', hne, hkey, hkey'⟩ := ih (hperm.nodup_iff.mpr hnodup) htail
      exact ⟨key, id', hne, hperm.mem_iff.mp hkey, hperm.mem_iff.mp hkey'⟩

end Pass

section Records
variable {records : List PersistentRecoveryRecord} {r t : PersistentRecoveryRecord}

/-- The two records have the seat, the target terminal or the invocation in common. -/
def SharesResource (r t : PersistentRecoveryRecord) : Prop :=
  r.seat = t.seat ∨ (∃ vt, r.targetVt = some vt ∧ t.targetVt = some vt) ∨
    ∃ id, r.invocationId = some id ∧ t.invocationId = some id

theorem sharesResource_iff :
    SharesResource r t ↔ ∃ key, key ∈ conflictKeys r ∧ key ∈ conflictKeys t := by
  constructor
  · rintro (hseat | ⟨vt, hr, ht⟩ | ⟨id, hr, ht⟩)
    · exact ⟨.seat r.seat, by simp [conflictKeys], by simp [conflictKeys, hseat]⟩
    · exact ⟨.vt vt, by simp [conflictKeys, hr], by simp [conflictKeys, ht]⟩
    · exact ⟨.invocation id, by simp [conflictKeys, hr], by simp [conflictKeys, ht]⟩
  · rintro ⟨key, hr, ht⟩
    cases key with
    | seat name =>
      have hname : name = r.seat := by simpa [conflictKeys] using hr
      have hname' : name = t.seat := by simpa [conflictKeys] using ht
      exact Or.inl (hname.symm.trans hname')
    | vt number =>
      have hnumber : r.targetVt = some number := by simpa [conflictKeys] using hr
      have hnumber' : t.targetVt = some number := by simpa [conflictKeys] using ht
      exact Or.inr (Or.inl ⟨number, hnumber, hnumber'⟩)
    | invocation id =>
      have hid : r.invocationId = some id := by simpa [conflictKeys] using hr
      have hid' : t.invocationId = some id := by simpa [conflictKeys] using ht
      exact Or.inr (Or.inr ⟨id, hid, hid'⟩)

theorem nodup_conflictKeys (r : PersistentRecoveryRecord) : (conflictKeys r).Nodup := by
  unfold conflictKeys
  cases r.targetVt <;> cases r.invocationId <;> simp

theorem mem_conflictEntries {key : ConflictKey} {id : String} :
    (key, id) ∈ records.flatMap (fun r => (conflictKeys r).map (·, r.lifecycleId)) ↔
      ∃ r ∈ records, r.lifecycleId = id ∧ key ∈ conflictKeys r := by
  simp only [List.mem_flatMap, List.mem_map, Prod.mk.injEq]
  constructor
  · rintro ⟨r, hr, key', hkey, rfl, rfl⟩
    exact ⟨r, hr, rfl, hkey⟩
  · rintro ⟨r, hr, rfl, hkey⟩
    exact ⟨r, hr, key, hkey, rfl, rfl⟩

theorem nodup_conflictEntries (hids : (records.map (·.lifecycleId)).Nodup) :
    (records.flatMap fun r => (conflictKeys r).map (·, r.lifecycleId)).Nodup := by
  rw [List.nodup_flatMap]
  refine ⟨fun r _ => (nodup_conflictKeys r).map fun _ _ h => (Prod.mk.inj h).1, ?_⟩
  refine (List.pairwise_map.mp hids).imp fun hne entry hr ht => ?_
  obtain ⟨key, -, rfl⟩ := List.mem_map.mp hr
  obtain ⟨key', -, heq⟩ := List.mem_map.mp ht
  exact hne (Prod.mk.inj heq).2.symm

/-- The conflicts among records with distinct ids are the records that share a resource with another
record, in whatever order the list has them. -/
theorem mem_conflicts_iff (records : List PersistentRecoveryRecord)
    (hids : (records.map (·.lifecycleId)).Nodup) (id : String) :
    id ∈ conflicts records ↔ ∃ r ∈ records, r.lifecycleId = id ∧
      ∃ t ∈ records, t ≠ r ∧ SharesResource r t := by
  have hdistinct : ∀ r ∈ records, ∀ t ∈ records, t.lifecycleId = r.lifecycleId → t = r :=
    fun r hr t ht h => List.inj_on_of_nodup_map hids ht hr h
  constructor
  · intro h
    obtain ⟨key, id', hne, hkey, hkey'⟩ :=
      shared_of_mem_conflictsFrom (nodup_conflictEntries hids) h
    obtain ⟨r, hr, rfl, hr'⟩ := mem_conflictEntries.mp hkey
    obtain ⟨t, ht, rfl, ht'⟩ := mem_conflictEntries.mp hkey'
    refine ⟨r, hr, rfl, t, ht, ?_, sharesResource_iff.mpr ⟨key, hr', ht'⟩⟩
    rintro rfl
    exact hne rfl
  · rintro ⟨r, hr, rfl, t, ht, hne, hshares⟩
    obtain ⟨key, hkey, hkey'⟩ := sharesResource_iff.mp hshares
    exact mem_conflictsFrom_of_shared (mem_conflictEntries.mpr ⟨r, hr, rfl, hkey⟩)
      (mem_conflictEntries.mpr ⟨t, ht, rfl, hkey'⟩)
      fun h => hne (hdistinct r hr t ht h.symm)

/-- The first of three records is found although only later ones meet its terminal. -/
theorem first_of_colliding_found :
    "worker-1" ∈ conflicts [
      { emptyScopeRecord .notStarted 3 with seat := "seat1", targetVt := some 7 },
      { emptyScopeRecord .notStarted 3 with lifecycleId := "worker-2", invocationId := none },
      { emptyScopeRecord .notStarted 3 with
        lifecycleId := "worker-3", seat := "seat2", targetVt := some 7, invocationId := none }] := by
  refine (mem_conflicts_iff _ (by decide) "worker-1").mpr ?_
  exact ⟨_, List.mem_cons_self, rfl, _, List.mem_cons_of_mem _ (List.mem_cons_of_mem _
    List.mem_cons_self), by decide, Or.inr (Or.inl ⟨7, rfl, rfl⟩)⟩

end Records

end Niralis
