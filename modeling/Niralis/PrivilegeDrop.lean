import Niralis.GroupResolution

namespace Niralis

structure PrivilegeDropTarget where
  uid : Nat
  gid : Nat
  supplementaryGids : List Nat
  deriving DecidableEq, Repr

structure AppliedCredentials where
  uid : Nat
  gid : Nat
  supplementaryGids : List Nat
  deriving DecidableEq, Repr

structure ObservedCredentials where
  realUid : Nat
  effectiveUid : Nat
  savedUid : Nat
  realGid : Nat
  effectiveGid : Nat
  savedGid : Nat
  supplementaryGids : List Nat
  deriving DecidableEq, Repr

inductive SyscallError
  | failed | invalidCount | observedGroupCountExceeded
  deriving DecidableEq, Repr

inductive PrivilegeDropError
  | invalidSupplementaryGroups | rootUidDisallowed | setGroupsFailed | setGidFailed | setUidFailed
  | verificationFailed | credentialMismatch
  deriving DecidableEq, Repr

inductive CredentialSyscall
  | setSupplementaryGroups (groups : List Nat)
  | setPrimaryGid (gid : Nat)
  | setUid (uid : Nat)
  | inspectCredentials (maxGroups : Nat)
  deriving DecidableEq, Repr

abbrev CredentialSyscall.Answer : CredentialSyscall → Type
  | setSupplementaryGroups _ => Except SyscallError Unit
  | setPrimaryGid _ => Except SyscallError Unit
  | setUid _ => Except SyscallError Unit
  | inspectCredentials _ => Except SyscallError ObservedCredentials

abbrev Dropping := Calls CredentialSyscall CredentialSyscall.Answer PrivilegeDropError

def attemptSyscall (error : PrivilegeDropError) : Except SyscallError Unit → Dropping Unit
  | .ok _ => pure ()
  | .error _ => Calls.fail error

def verifyObserved (target : PrivilegeDropTarget) :
    Except SyscallError ObservedCredentials → Dropping AppliedCredentials
  | .error .observedGroupCountExceeded => Calls.fail .credentialMismatch
  | .error _ => Calls.fail .verificationFailed
  | .ok observed =>
    if observed.realUid ≠ target.uid ∨ observed.effectiveUid ≠ target.uid ∨
        observed.savedUid ≠ target.uid ∨ observed.realGid ≠ target.gid ∨
        observed.effectiveGid ≠ target.gid ∨ observed.savedGid ≠ target.gid then
      Calls.fail .credentialMismatch
    else
      let observedGroups := distinctWithout target.gid observed.supplementaryGids
      if observedGroups ≠ target.supplementaryGids then Calls.fail .credentialMismatch
      else pure { uid := observed.realUid, gid := observed.realGid, supplementaryGids := observedGroups }

/-- `drop_privileges_with`. The conversions to `uid_t` and `gid_t` cannot fail: both are `u32`. -/
def dropPrivilegesWith (target : PrivilegeDropTarget) : Dropping AppliedCredentials :=
  if target.uid = 0 then Calls.fail .rootUidDisallowed
  else if (target.supplementaryGids.zip target.supplementaryGids.tail).any
      (fun window => window.2 ≤ window.1) || target.supplementaryGids.contains target.gid then
    Calls.fail .invalidSupplementaryGroups
  else match checkedAdd target.supplementaryGids.length 1 with
    | none => Calls.fail .verificationFailed
    | some maxGroups => do
      let groups : Except SyscallError Unit ←
        Calls.ask (CredentialSyscall.setSupplementaryGroups target.supplementaryGids)
      attemptSyscall .setGroupsFailed groups
      let gid : Except SyscallError Unit ← Calls.ask (CredentialSyscall.setPrimaryGid target.gid)
      attemptSyscall .setGidFailed gid
      let uid : Except SyscallError Unit ← Calls.ask (CredentialSyscall.setUid target.uid)
      attemptSyscall .setUidFailed uid
      let observation : Except SyscallError ObservedCredentials ←
        Calls.ask (CredentialSyscall.inspectCredentials maxGroups)
      verifyObserved target observation

def normalizedGroups (groups : List Nat) (primaryGid : Nat) : List Nat :=
  distinctWithout primaryGid groups

/-- The part of `validate_ready_response` that is about credentials: what the child says it applied
and what it observed. -/
def credentialProofMatches (target : PrivilegeDropTarget) (applied : AppliedCredentials)
    (proof : ObservedCredentials) : Bool :=
  applied.uid = target.uid && applied.gid = target.gid &&
    applied.supplementaryGids = target.supplementaryGids &&
    proof.realUid = target.uid && proof.effectiveUid = target.uid && proof.savedUid = target.uid &&
    proof.realGid = target.gid && proof.effectiveGid = target.gid && proof.savedGid = target.gid &&
    normalizedGroups proof.supplementaryGids target.gid = target.supplementaryGids

theorem windows_increasing {groups : List Nat} :
    (groups.zip groups.tail).any (fun window => window.2 ≤ window.1) = false ↔
      groups.Pairwise (· < ·) := by
  rw [← List.isChain_iff_pairwise]
  induction groups with
  | nil => simp
  | cons g groups ih =>
    cases groups with
    | nil => simp
    | cons g' groups =>
      rw [List.isChain_cons_cons, ← ih]
      simp only [List.tail_cons, List.zip_cons_cons, List.any_cons, Bool.or_eq_false_iff,
        decide_eq_false_iff_not, Nat.not_le]

structure Dropped (target : PrivilegeDropTarget) (applied : AppliedCredentials)
    (log : List (Sigma CredentialSyscall.Answer)) (observed : ObservedCredentials) : Prop where
  calls : log = [⟨.setSupplementaryGroups target.supplementaryGids, .ok ()⟩,
    ⟨.setPrimaryGid target.gid, .ok ()⟩, ⟨.setUid target.uid, .ok ()⟩,
    ⟨.inspectCredentials (target.supplementaryGids.length + 1), .ok observed⟩]
  uids : observed.realUid = target.uid ∧ observed.effectiveUid = target.uid ∧
    observed.savedUid = target.uid
  gids : observed.realGid = target.gid ∧ observed.effectiveGid = target.gid ∧
    observed.savedGid = target.gid
  groups : ∀ gid, gid ∈ target.supplementaryGids ↔ gid ∈ observed.supplementaryGids ∧ gid ≠ target.gid
  uid : applied.uid = target.uid
  gid : applied.gid = target.gid
  supplementaryGids : applied.supplementaryGids = target.supplementaryGids
  accepted : credentialProofMatches target applied observed = true

section Drop
variable {target : PrivilegeDropTarget} {applied : AppliedCredentials}
  {log : List (Sigma CredentialSyscall.Answer)}

theorem attemptSyscall_yields {error : PrivilegeDropError} {answer : Except SyscallError Unit} :
    (attemptSyscall error answer).Yields log (.ok ()) ↔ answer = .ok () ∧ log = [] := by
  cases answer with
  | ok _ => exact ⟨fun h => ⟨rfl, h.1⟩, fun h => ⟨h.2, rfl⟩⟩
  | error e => exact ⟨fun h => (by cases h.2), fun h => (by cases h.1)⟩

theorem verifyObserved_yields {observation : Except SyscallError ObservedCredentials}
    (h : (verifyObserved target observation).Yields log (.ok applied)) :
    log = [] ∧ ∃ observed, observation = .ok observed ∧
      (observed.realUid = target.uid ∧ observed.effectiveUid = target.uid ∧
        observed.savedUid = target.uid) ∧
      (observed.realGid = target.gid ∧ observed.effectiveGid = target.gid ∧
        observed.savedGid = target.gid) ∧
      distinctWithout target.gid observed.supplementaryGids = target.supplementaryGids ∧
      applied = { uid := target.uid, gid := target.gid, supplementaryGids := target.supplementaryGids } := by
  cases observation with
  | error e => cases e <;> cases h.2
  | ok observed =>
    unfold verifyObserved at h
    dsimp only at h
    split at h
    · cases h.2
    rename_i hids
    simp only [not_or, Decidable.not_not] at hids
    split at h
    · cases h.2
    rename_i hgroups
    rw [Decidable.not_not] at hgroups
    obtain ⟨rfl, happlied⟩ := h
    refine ⟨rfl, observed, rfl, ⟨hids.1, hids.2.1, hids.2.2.1⟩, hids.2.2.2, hgroups, ?_⟩
    rw [Except.ok.inj happlied, hids.1, hids.2.2.2.1, hgroups]

theorem dropPrivilegesWith_yields
    (h : (dropPrivilegesWith target).Yields log (.ok applied)) :
    ∃ observed, Dropped target applied log observed := by
  unfold dropPrivilegesWith at h
  split at h
  · cases h.2
  split at h
  · cases h.2
  split at h
  · cases h.2
  rename_i maxGroups hmax
  obtain ⟨-, rfl⟩ := checkedAdd_eq_some.mp hmax
  rw [Calls.yields_ask_bind] at h
  obtain ⟨groups, _, rfl, h⟩ := h
  rw [Calls.yields_bind_ok] at h
  obtain ⟨_, _, _, rfl, hgroups, h⟩ := h
  obtain ⟨rfl, rfl⟩ := attemptSyscall_yields.mp hgroups
  rw [Calls.yields_ask_bind] at h
  obtain ⟨gid, _, rfl, h⟩ := h
  rw [Calls.yields_bind_ok] at h
  obtain ⟨_, _, _, rfl, hgid, h⟩ := h
  obtain ⟨rfl, rfl⟩ := attemptSyscall_yields.mp hgid
  rw [Calls.yields_ask_bind] at h
  obtain ⟨uid, _, rfl, h⟩ := h
  rw [Calls.yields_bind_ok] at h
  obtain ⟨_, _, _, rfl, huid, h⟩ := h
  obtain ⟨rfl, rfl⟩ := attemptSyscall_yields.mp huid
  rw [Calls.yields_ask_bind] at h
  obtain ⟨observation, _, rfl, h⟩ := h
  obtain ⟨rfl, observed, rfl, huids, hgids, hset, rfl⟩ := verifyObserved_yields h
  refine ⟨observed, rfl, huids, hgids, fun gid => ?_, rfl, rfl, rfl, ?_⟩
  · rw [← hset, mem_distinctWithout]
  · simp [credentialProofMatches, normalizedGroups, huids, hgids, hset]

/-- A target with the shape of resolved groups reaches the first system call. -/
theorem dropPrivilegesWith_starts (target : PrivilegeDropTarget) (huid : target.uid ≠ 0)
    (hincreasing : target.supplementaryGids.Pairwise (· < ·))
    (hwithout : target.gid ∉ target.supplementaryGids)
    (hlength : target.supplementaryGids.length ≤ hardMaxSupplementaryGroups)
    {result : Except PrivilegeDropError AppliedCredentials}
    (h : (dropPrivilegesWith target).Yields log result) :
    ∃ answer rest, log = ⟨.setSupplementaryGroups target.supplementaryGids, answer⟩ :: rest := by
  have hwindows := windows_increasing.mpr hincreasing
  have hcontains : target.supplementaryGids.contains target.gid = false := by simpa using hwithout
  have hmax : checkedAdd target.supplementaryGids.length 1 =
      some (target.supplementaryGids.length + 1) := by
    refine checkedAdd_eq_some.mpr ⟨?_, rfl⟩
    unfold hardMaxSupplementaryGroups at hlength
    unfold u64Bound
    omega
  unfold dropPrivilegesWith at h
  rw [if_neg huid, hwindows, hcontains, hmax, if_neg (by decide)] at h
  obtain ⟨answer, rest, rfl, -⟩ := h
  exact ⟨answer, rest, rfl⟩

end Drop

/-- For any lookup and any system calls: a resolution ends within its attempts and inside its
buffer, its groups pass the checks before a drop, and a drop that succeeds has set and seen exactly
its target, which the parent then accepts. -/
theorem resolved_groups_dropped (raw : Int) (identity : UnixIdentity)
    (lookups : Calls.Host GroupLookup.Answer) (syscalls : Calls.Host CredentialSyscall.Answer) :
    ((resolveGroupsWith raw identity).run lookups []).2.length ≤ maxGroupLookupAttempts ∧
      ((resolveGroupsWith raw identity).run lookups []).1 ≠ .error .sliceOutOfRange ∧
      (∀ groups, ((resolveGroupsWith raw identity).run lookups []).1 = .ok groups →
        ResolvedGroups raw identity ((resolveGroupsWith raw identity).run lookups []).2 groups ∧
        (identity.uid ≠ 0 → ∃ answer rest,
          ((dropPrivilegesWith ⟨identity.uid, identity.gid, groups⟩).run syscalls []).2 =
            ⟨.setSupplementaryGroups groups, answer⟩ :: rest)) ∧
      ∀ target applied, ((dropPrivilegesWith target).run syscalls []).1 = .ok applied →
        ∃ observed, Dropped target applied ((dropPrivilegesWith target).run syscalls []).2 observed := by
  obtain ⟨hlength, hfault, hok⟩ := resolveGroupsWith_yields (Calls.yields_of_run
    (Prod.mk.eta (p := (resolveGroupsWith raw identity).run lookups [])).symm)
  refine ⟨hlength, hfault, fun groups hgroups => ?_, fun target applied happlied => ?_⟩
  · have hresolved := hok groups hgroups
    refine ⟨hresolved, fun huid => ?_⟩
    have hbounded := Nat.le_trans hresolved.bounded (supplementaryGroupLimit_le raw)
    exact dropPrivilegesWith_starts ⟨identity.uid, identity.gid, groups⟩ huid
      hresolved.increasing hresolved.withoutPrimary hbounded (Calls.yields_of_run Prod.mk.eta.symm)
  · exact dropPrivilegesWith_yields (Calls.yields_of_run (Prod.ext happlied rfl))

private def member : UnixIdentity := { username := "ana", uid := 1000, gid := 100 }

/-- The eighteen groups of a member, with one of them twice and the primary group among them. -/
private def memberGids : List Nat :=
  [100, 27, 44, 27, 4, 20, 24, 25, 29, 30, 46, 60, 101, 102, 103, 104, 105, 106]

/-- A lookup that fills the buffer and says how many groups there are. -/
private def memberLookup : Calls.Host GroupLookup.Answer := fun _ q =>
  { result := if memberGids.length ≤ q.capacity then .success else .bufferTooSmall
    groups := (memberGids ++ List.replicate q.capacity 0).take q.capacity
    ngroups := memberGids.length
    filled := by simp }

/-- A kernel that does as it is told and shows the primary group among the groups. -/
private def memberKernel : Calls.Host CredentialSyscall.Answer := fun _ q =>
  match q with
  | .setSupplementaryGroups _ => .ok ()
  | .setPrimaryGid _ => .ok ()
  | .setUid _ => .ok ()
  | .inspectCredentials _ => .ok ⟨1000, 1000, 1000, 100, 100, 100, memberGids⟩

/-- The first buffer is too small, and neither the double nor the primary group is set. -/
theorem member_groups_dropped :
    let groups := [4, 20, 24, 25, 27, 29, 30, 44, 46, 60, 101, 102, 103, 104, 105, 106]
    let resolved := (resolveGroupsWith 65536 member).run memberLookup []
    let dropped := (dropPrivilegesWith ⟨1000, 100, groups⟩).run memberKernel []
    resolved.1 = .ok groups ∧ resolved.2.length = 2 ∧
      ResolvedGroups 65536 member resolved.2 groups ∧
      dropped.1 = .ok ⟨1000, 100, groups⟩ ∧
      ∃ observed, Dropped ⟨1000, 100, groups⟩ ⟨1000, 100, groups⟩ dropped.2 observed := by
  intro groups resolved dropped
  obtain ⟨-, -, hresolved, hdropped⟩ :=
    resolved_groups_dropped 65536 member memberLookup memberKernel
  have hgroups : resolved.1 = .ok groups := by decide +kernel
  have happlied : dropped.1 = .ok ⟨1000, 100, groups⟩ := by decide +kernel
  exact ⟨hgroups, by decide +kernel, (hresolved groups hgroups).1, happlied, hdropped _ _ happlied⟩

end Niralis
