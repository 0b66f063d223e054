import Niralis.Calls
import Niralis.DistinctSorted
import Niralis.Machine

namespace Niralis

def defaultGroupCapacity : Nat := 16

def maxGroupLookupAttempts : Nat := 8

def hardMaxSupplementaryGroups : Nat := 65536

def cIntMax : Nat := 2 ^ 31 - 1

structure UnixIdentity where
  username : String
  uid : Nat
  gid : Nat
  deriving DecidableEq, Repr

inductive GroupResolutionError
  | invalidUsername | lookupFailed | tooManyGroups
  deriving DecidableEq, Repr

/-- What ends a resolution: an error that is returned, or a panic. -/
inductive ResolutionFault
  | error (e : GroupResolutionError)
  | sliceOutOfRange
  deriving DecidableEq, Repr

inductive GroupLookupResult
  | success | bufferTooSmall | failure
  deriving DecidableEq, Repr

/-- What a lookup leaves in a buffer that it cannot resize, and the count it reports. -/
structure GroupLookupAnswer (capacity : Nat) where
  result : GroupLookupResult
  groups : List Nat
  ngroups : Int
  filled : groups.length = capacity

structure GroupLookup where
  username : String
  primaryGid : Nat
  capacity : Nat

abbrev GroupLookup.Answer (q : GroupLookup) : Type := GroupLookupAnswer q.capacity

abbrev Resolving := Calls GroupLookup GroupLookup.Answer ResolutionFault

/-- `raw` is the system's answer to `sysconf(_SC_NGROUPS_MAX)`. -/
def supplementaryGroupLimit (raw : Int) : Nat :=
  if 0 < raw then min raw.toNat hardMaxSupplementaryGroups else hardMaxSupplementaryGroups

def requiredCapacity (ngroups : Int) (capacity rawLimit : Nat) : Except GroupResolutionError Nat :=
  if ngroups < 0 then .error .lookupFailed
  else if ngroups.toNat ≤ capacity then .error .lookupFailed
  else if rawLimit < ngroups.toNat then .error .tooManyGroups
  else .ok ngroups.toNat

def validCount (ngroups : Int) (capacity rawLimit : Nat) : Except GroupResolutionError Nat :=
  if ngroups < 0 then .error .lookupFailed
  else if capacity < ngroups.toNat ∨ rawLimit < ngroups.toNat then .error .lookupFailed
  else .ok ngroups.toNat

def normalizeGroups (groups : List Nat) (primaryGid supplementaryLimit : Nat) :
    Except GroupResolutionError (List Nat) :=
  let result := distinctWithout primaryGid groups
  if supplementaryLimit < result.length then .error .tooManyGroups else .ok result

def resolveAttempts (identity : UnixIdentity) (supplementaryLimit rawLimit : Nat) :
    Nat → Nat → Resolving (List Nat)
  | 0, _ => Calls.fail (.error .lookupFailed)
  | attempts + 1, capacity =>
    if cIntMax < capacity then Calls.fail (.error .tooManyGroups)
    else do
      let answer : GroupLookupAnswer capacity ←
        Calls.ask (GroupLookup.mk identity.username identity.gid capacity)
      match answer.result with
      | .success =>
        match validCount answer.ngroups capacity rawLimit with
        | .error e => Calls.fail (.error e)
        | .ok count =>
          -- `&groups[..count]` panics past the end of the buffer
          if answer.groups.length < count then Calls.fail .sliceOutOfRange
          else match normalizeGroups (answer.groups.take count) identity.gid supplementaryLimit with
            | .error e => Calls.fail (.error e)
            | .ok groups => pure groups
      | .bufferTooSmall =>
        match requiredCapacity answer.ngroups capacity rawLimit with
        | .error e => Calls.fail (.error e)
        | .ok required => resolveAttempts identity supplementaryLimit rawLimit attempts required
      | .failure => Calls.fail (.error .lookupFailed)

def resolveGroupsWith (raw : Int) (identity : UnixIdentity) : Resolving (List Nat) :=
  if '\x00' ∈ identity.username.toList then Calls.fail (.error .invalidUsername)
  else
    let supplementaryLimit := supplementaryGroupLimit raw
    match checkedAdd supplementaryLimit 1 with
    | none => Calls.fail (.error .tooManyGroups)
    | some rawLimit =>
      resolveAttempts identity supplementaryLimit rawLimit maxGroupLookupAttempts
        (max (min defaultGroupCapacity rawLimit) 1)

theorem supplementaryGroupLimit_le (raw : Int) :
    supplementaryGroupLimit raw ≤ hardMaxSupplementaryGroups := by
  unfold supplementaryGroupLimit
  split
  · exact Nat.min_le_right _ _
  · exact Nat.le_refl _

theorem validCount_le {ngroups : Int} {capacity rawLimit count : Nat}
    (h : validCount ngroups capacity rawLimit = .ok count) :
    count ≤ capacity ∧ ngroups = count := by
  unfold validCount at h
  split_ifs at h with hneg hlarge
  have hcount := Except.ok.inj h
  omega

theorem normalizeGroups_ok {groups normal : List Nat} {primaryGid limit : Nat}
    (h : normalizeGroups groups primaryGid limit = .ok normal) :
    normal = distinctWithout primaryGid groups ∧ normal.length ≤ limit := by
  unfold normalizeGroups at h
  dsimp only at h
  split at h
  · cases h
  · have hnormal := Except.ok.inj h
    rw [← hnormal]
    exact ⟨rfl, by omega⟩

/-- A list of groups as a resolution returns it, from the lookup that answered last. -/
structure ResolvedGroups (raw : Int) (identity : UnixIdentity)
    (log : List (Sigma GroupLookup.Answer)) (groups : List Nat) : Prop where
  increasing : groups.Pairwise (· < ·)
  bounded : groups.length ≤ supplementaryGroupLimit raw
  withoutPrimary : identity.gid ∉ groups
  reported : ∃ lookups q answer, ∃ count : Nat, log = lookups ++ [⟨q, answer⟩] ∧
    q.username = identity.username ∧ q.primaryGid = identity.gid ∧ answer.result = .success ∧
    answer.ngroups = (count : Int) ∧ count ≤ answer.groups.length ∧
    ∀ gid, gid ∈ groups ↔ gid ∈ answer.groups.take count ∧ gid ≠ identity.gid

theorem resolveAttempts_yields {raw : Int} {identity : UnixIdentity} {rawLimit attempts capacity : Nat}
    {log : List (Sigma GroupLookup.Answer)} {result : Except ResolutionFault (List Nat)}
    (h : (resolveAttempts identity (supplementaryGroupLimit raw) rawLimit attempts capacity).Yields log
      result) :
    log.length ≤ attempts ∧ result ≠ .error .sliceOutOfRange ∧
      ∀ groups, result = .ok groups → ResolvedGroups raw identity log groups := by
  induction attempts generalizing capacity log with
  | zero =>
    obtain ⟨rfl, rfl⟩ := h
    exact ⟨Nat.le_refl 0, by simp, by simp⟩
  | succ attempts ih =>
    unfold resolveAttempts at h
    split at h
    · obtain ⟨rfl, rfl⟩ := h
      exact ⟨Nat.zero_le _, by simp, by simp⟩
    rw [Calls.yields_ask_bind] at h
    obtain ⟨answer, rest, rfl, h⟩ := h
    rw [List.length_cons]
    split at h
    · rename_i hsuccess
      split at h
      · obtain ⟨rfl, rfl⟩ := h
        exact ⟨by simp, by simp, by simp⟩
      · rename_i count hcount
        obtain ⟨hle, hngroups⟩ := validCount_le hcount
        have hfilled : answer.groups.length = capacity := answer.filled
        rw [if_neg (by omega)] at h
        split at h
        · obtain ⟨rfl, rfl⟩ := h
          exact ⟨by simp, by simp, by simp⟩
        · rename_i groups hgroups
          obtain ⟨rfl, rfl⟩ := h
          refine ⟨by simp, by simp, fun groups' hok => ?_⟩
          have := Except.ok.inj hok
          subst this
          obtain ⟨rfl, hbounded⟩ := normalizeGroups_ok hgroups
          refine ⟨distinctWithout_pairwise _ _, hbounded, ?_, [], _, answer, count, rfl, rfl, rfl,
            hsuccess, hngroups, by omega, fun gid => mem_distinctWithout⟩
          intro hmem
          exact (mem_distinctWithout.mp hmem).2 rfl
    · split at h
      · obtain ⟨rfl, rfl⟩ := h
        exact ⟨by simp, by simp, by simp⟩
      -- the buffer was too small, and the next attempt has the room that was asked for
      · obtain ⟨hlength, hfault, hok⟩ := ih h
        refine ⟨Nat.succ_le_succ hlength, hfault, fun groups hgroups => ?_⟩
        obtain ⟨hinc, hbound, hwithout, lookups, q, answer', count, rfl, hrest⟩ := hok groups hgroups
        exact ⟨hinc, hbound, hwithout, _ :: lookups, q, answer', count, rfl, hrest⟩
    · obtain ⟨rfl, rfl⟩ := h
      exact ⟨by simp, by simp, by simp⟩

theorem resolveGroupsWith_yields {raw : Int} {identity : UnixIdentity}
    {log : List (Sigma GroupLookup.Answer)} {result : Except ResolutionFault (List Nat)}
    (h : (resolveGroupsWith raw identity).Yields log result) :
    log.length ≤ maxGroupLookupAttempts ∧ result ≠ .error .sliceOutOfRange ∧
      ∀ groups, result = .ok groups → ResolvedGroups raw identity log groups := by
  unfold resolveGroupsWith at h
  split at h
  · obtain ⟨rfl, rfl⟩ := h
    exact ⟨Nat.zero_le _, by simp, by simp⟩
  · dsimp only at h
    split at h
    · obtain ⟨rfl, rfl⟩ := h
      exact ⟨Nat.zero_le _, by simp, by simp⟩
    · exact resolveAttempts_yields h

end Niralis
