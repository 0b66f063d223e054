import Niralis.JsonText
import Niralis.PayloadScopeSafety

namespace Niralis.PayloadScope
open Calls

theorem digitChar_hex {n : Nat} (h : n < 16) :
    asciiHexDigit n.digitChar = true ∧ asciiAlphanumeric n.digitChar = true ∧
      n.digitChar.utf8Size = 1 := by
  have hall : ∀ n < 16, asciiHexDigit n.digitChar = true ∧ asciiAlphanumeric n.digitChar = true ∧
      n.digitChar.utf8Size = 1 := by decide
  exact hall n h

theorem mem_hexByte {byte : UInt8} {c : Char} (h : c ∈ hexByte byte) :
    ∃ n < 16, c = n.digitChar := by
  have hbyte : byte.toNat < 256 := byte.toNat_lt
  rcases List.mem_pair.mp h with rfl | rfl
  · exact ⟨byte.toNat / 16, by omega, rfl⟩
  · exact ⟨byte.toNat % 16, by omega, rfl⟩

theorem toList_hexText (bytes : List UInt8) : (hexText bytes).toList = bytes.flatMap hexByte :=
  String.toList_ofList

theorem mem_hexText {bytes : List UInt8} {c : Char} (h : c ∈ (hexText bytes).toList) :
    ∃ n < 16, c = n.digitChar := by
  rw [toList_hexText, List.mem_flatMap] at h
  obtain ⟨byte, -, hc⟩ := h
  exact mem_hexByte hc

theorem utf8ByteSize_hexText (bytes : List UInt8) : (hexText bytes).utf8ByteSize = 2 * bytes.length := by
  rw [← JsonText.size_toList, toList_hexText]
  induction bytes with
  | nil => rfl
  | cons byte bytes ih =>
    have hbyte : byte.toNat < 256 := byte.toNat_lt
    have hhigh : byte.toNat / 16 < 16 := by omega
    have hlow : byte.toNat % 16 < 16 := by omega
    have hsize : JsonText.size (hexByte byte) = 2 := by
      simp [hexByte, (digitChar_hex hhigh).2.2, (digitChar_hex hlow).2.2]
    rw [List.flatMap_cons, JsonText.size_append, ih, hsize, List.length_cons]
    omega

/-- The name of a unit made from sixteen random bytes, and an invocation of sixteen bytes. -/
theorem validate_created {bytes invocation : List UInt8} {invocationId logindSessionId : String}
    {uid : Nat} (hbytes : bytes.length = 16) (hinvocation : hexId invocation = some invocationId)
    (huid : uid ≠ 0) :
    PayloadScopeIdentity.validate
      { unitName := "niralis-payload-" ++ hexText bytes ++ ".scope", invocationId
        expectedUid := uid, logindSessionId } = true := by
  unfold hexId at hinvocation
  split_ifs at hinvocation with hlength
  cases hinvocation
  have hfirst : "niralis-payload-".toList.isPrefixOf
      ("niralis-payload-" ++ hexText bytes ++ ".scope").toList = true := by
    rw [String.toList_append, String.toList_append, List.append_assoc, List.isPrefixOf_iff_prefix]
    exact List.prefix_append _ _
  have hlast : ".scope".toList.isSuffixOf
      ("niralis-payload-" ++ hexText bytes ++ ".scope").toList = true := by
    rw [String.toList_append, List.isSuffixOf_iff_suffix]
    exact List.suffix_append _ _
  have hsize : ("niralis-payload-" ++ hexText bytes ++ ".scope").utf8ByteSize = 54 := by
    have hends : "niralis-payload-".utf8ByteSize = 16 ∧ ".scope".utf8ByteSize = 6 := by decide
    rw [String.utf8ByteSize_append, String.utf8ByteSize_append, utf8ByteSize_hexText, hbytes,
      hends.1, hends.2]
  have hchars : ("niralis-payload-" ++ hexText bytes ++ ".scope").toList.all
      (fun c => asciiAlphanumeric c || c = '-' || c = '.' || c = '_') = true := by
    rw [String.toList_append, String.toList_append, List.all_append, List.all_append]
    have hhex : (hexText bytes).toList.all
        (fun c => asciiAlphanumeric c || c = '-' || c = '.' || c = '_') = true := by
      rw [List.all_eq_true]
      intro c hc
      obtain ⟨n, hn, rfl⟩ := mem_hexText hc
      rw [(digitChar_hex hn).2.1]
      rfl
    rw [hhex]
    decide
  have hdigits : (hexText invocation).toList.all asciiHexDigit = true := by
    rw [List.all_eq_true]
    intro c hc
    obtain ⟨n, hn, rfl⟩ := mem_hexText hc
    exact (digitChar_hex hn).1
  simp only [PayloadScopeIdentity.validate, hfirst, hlast, hsize, hchars, hdigits,
    utf8ByteSize_hexText, hlength]
  simp [huid]

/-- When a creation changes something: it asks for one unit at most, stops only that one, takes one
reference at most, and gives back only that one. -/
def Owned (before : ScopeLog) (x : Sigma ScopeCall.Answer) : Prop :=
  match x.1 with
  | .startTransientUnit _ _ _ => ∀ y ∈ before, isReading y.1 = true
  | .stopUnit unitName => ∃ slice pid job, ⟨.startTransientUnit unitName slice pid, some job⟩ ∈ before
  | .refPinnedUnit _ _ => ∀ invocationId objectPath answer,
      ⟨.refPinnedUnit invocationId objectPath, answer⟩ ∉ before
  | .unrefPinnedUnit invocationId objectPath => ⟨.refPinnedUnit invocationId objectPath, .ok ()⟩ ∈ before
  | .killPinnedUnit _ _ _ | .unref _ => False
  | _ => True

/-- The unit of a creation that failed is stopped, or the failure says that it is not; its reference
was asked to be given back, with whatever answer. -/
structure NothingLeft (e : PayloadScopeError) (log : ScopeLog) : Prop where
  stopped : ∀ unitName slice pid job, ⟨.startTransientUnit unitName slice pid, some job⟩ ∈ log →
    e = .cleanupFailed ∨ ∃ earlier stopJob id, id ≠ 0 ∧ log = earlier ++ stopDone unitName stopJob id
  givenBack : ∀ invocationId objectPath, ⟨.refPinnedUnit invocationId objectPath, .ok ()⟩ ∈ log →
    ∃ answer, ⟨.unrefPinnedUnit invocationId objectPath, answer⟩ ∈ log

/-- The session child alone in the control group of the scope, and its unit pinned, after that running. -/
def adoptedSeen (scope : SystemdPayloadScope) (pid : Nat) (pidfd : Int) (worker launcher : String)
    (properties : InvocationUnitProperties) : ScopeLog :=
  [⟨.pidfdCgroup pidfd, .ok scope.controlGroup⟩, ⟨.readMembers scope.controlGroup, .ok [pid]⟩,
    ⟨.proof (.pidCgroup scope.workerPid), .ok worker⟩,
    ⟨.proof (.pidCgroup scope.launcherPid), .ok launcher⟩,
    ⟨.proof (.resolveByInvocation scope.identity.invocationId), .ok scope.pinnedUnit.objectPath⟩,
    ⟨.refPinnedUnit scope.identity.invocationId scope.pinnedUnit.objectPath, .ok ()⟩,
    ⟨.proof (.readProperties .readPropertiesAfterRef scope.identity.invocationId
      scope.pinnedUnit.objectPath scope.identity.unitName), .ok properties⟩]

/-- A scope whose creation has succeeded. Besides what is named here nothing was changed. -/
structure Prepared (pid : Nat) (pidfd : Int) (uid : Nat) (logindSessionId : String)
    (workerPid launcherPid : Nat) (scope : SystemdPayloadScope) (log : ScopeLog) : Prop where
  uid : scope.identity.expectedUid = uid
  logindSessionId : scope.identity.logindSessionId = logindSessionId
  workerPid : scope.workerPid = workerPid
  launcherPid : scope.launcherPid = launcherPid
  valid : scope.identity.validate = true
  group : scope.controlGroup = expectedControlGroup scope.identity
  history : ∃ before job after worker launcher properties,
    log = before ++ ⟨.startTransientUnit scope.identity.unitName (sliceName scope.identity.expectedUid)
        pid, some job⟩ :: (after ++ adoptedSeen scope pid pidfd worker launcher properties) ∧
      (∀ x ∈ before, isReading x.1 = true) ∧ (∀ x ∈ after, isReading x.1 = true) ∧
      Apart scope.controlGroup [pid] scope.workerPid worker ∧
      Apart scope.controlGroup [pid] scope.launcherPid launcher ∧ PinnedUnit scope properties ∧
      properties.activeState = "active" ∧ properties.subState = "running"

theorem reads_owned : Reads Owned fun x => isReading x.1 = true := by
  rintro log ⟨q, answer⟩ hreading
  refine ⟨?_, hreading⟩
  cases q with
  | startTransientUnit _ _ _ | stopUnit _ | refPinnedUnit _ _ | unrefPinnedUnit _ _ | unref _
  | killPinnedUnit _ _ _ => cases hreading
  | _ => trivial

def takes : Sigma ScopeCall.Answer → Bool
  | ⟨.startTransientUnit _ _ _, some _⟩ | ⟨.refPinnedUnit _ _, .ok _⟩ => true
  | _ => false

theorem takes_of_reading {x : Sigma ScopeCall.Answer} (h : isReading x.1 = true) : takes x = false := by
  obtain ⟨q, answer⟩ := x
  cases q with
  | startTransientUnit _ _ _ | refPinnedUnit _ _ => cases h
  | _ => rfl

theorem nothingLeft_of_reading {e : PayloadScopeError} {log : ScopeLog}
    (h : ∀ x ∈ log, isReading x.1 = true) : NothingLeft e log where
  stopped _ _ _ _ hmem := by cases h _ hmem
  givenBack _ _ hmem := by cases h _ hmem

/-- The log of a creation whose unit exists and is the only one, each reference given back. -/
structure Settled (unitName : String) (log : ScopeLog) : Prop where
  created : ∃ slice pid job, ⟨.startTransientUnit unitName slice pid, some job⟩ ∈ log
  only : ∀ unitName' slice pid job, ⟨.startTransientUnit unitName' slice pid, some job⟩ ∈ log →
    unitName' = unitName
  givenBack : ∀ invocationId objectPath, ⟨.refPinnedUnit invocationId objectPath, .ok ()⟩ ∈ log →
    ∃ answer, ⟨.unrefPinnedUnit invocationId objectPath, answer⟩ ∈ log

/-- The log of a creation since its unit exists: nothing else has been changed. -/
structure Made (unitName slice : String) (pid : Nat) (log : ScopeLog) : Prop where
  split : ∃ before job after,
    log = before ++ ⟨.startTransientUnit unitName slice pid, some job⟩ :: after ∧
      (∀ x ∈ before, isReading x.1 = true) ∧ ∀ x ∈ after, isReading x.1 = true

section Failures
variable {unitName slice : String} {pid : Nat} {log : ScopeLog}

theorem Made.append (h : Made unitName slice pid log) {more : ScopeLog}
    (hmore : ∀ x ∈ more, isReading x.1 = true) : Made unitName slice pid (log ++ more) := by
  obtain ⟨before, job, after, rfl, hbefore, hafter⟩ := h.split
  refine ⟨before, job, after ++ more, by rw [List.append_assoc, List.cons_append], hbefore, ?_⟩
  exact List.forall_mem_append.mpr ⟨hafter, hmore⟩

theorem Made.eq_start (h : Made unitName slice pid log) {x : Sigma ScopeCall.Answer} (hx : x ∈ log)
    (hchange : isReading x.1 = false) :
    ∃ job, x = ⟨.startTransientUnit unitName slice pid, some job⟩ := by
  obtain ⟨before, job, after, rfl, hbefore, hafter⟩ := h.split
  rcases List.mem_append.mp hx with hmem | hmem
  · rw [hbefore x hmem] at hchange
    cases hchange
  · rcases List.mem_cons.mp hmem with rfl | hmem
    · exact ⟨job, rfl⟩
    · rw [hafter x hmem] at hchange
      cases hchange

theorem Made.unreferenced (h : Made unitName slice pid log) {invocationId objectPath : String}
    {answer : Except InvocationBackendError Unit} :
    (⟨.refPinnedUnit invocationId objectPath, answer⟩ : Sigma ScopeCall.Answer) ∉ log := by
  intro hmem
  obtain ⟨job, hx⟩ := h.eq_start hmem rfl
  cases hx

theorem Made.settled (h : Made unitName slice pid log) : Settled unitName log where
  created := by
    obtain ⟨before, job, after, rfl, -, -⟩ := h.split
    exact ⟨slice, pid, job, by simp⟩
  only unitName' slice' pid' job hmem := by
    obtain ⟨job', hx⟩ := h.eq_start hmem rfl
    cases hx
    rfl
  givenBack _ _ hmem := absurd hmem h.unreferenced

theorem Settled.append (h : Settled unitName log) {more : ScopeLog}
    (hmore : ∀ x ∈ more, takes x = false) : Settled unitName (log ++ more) where
  created := by
    obtain ⟨slice, pid, job, hmem⟩ := h.created
    exact ⟨slice, pid, job, List.mem_append_left _ hmem⟩
  only unitName' slice pid job hmem := by
    rcases List.mem_append.mp hmem with hmem | hmem
    · exact h.only unitName' slice pid job hmem
    · cases hmore _ hmem
  givenBack invocationId objectPath hmem := by
    rcases List.mem_append.mp hmem with hmem | hmem
    · obtain ⟨answer, hback⟩ := h.givenBack invocationId objectPath hmem
      exact ⟨answer, List.mem_append_left _ hback⟩
    · cases hmore _ hmem

theorem adds_stopCreated (hsettled : Settled unitName log) :
    (stopCreatedUnit unitName).Adds Owned (fun x => takes x = false) log
      fun _ more => ∃ job id, id ≠ 0 ∧ more = stopDone unitName job id := by
  have hreads : Reads Owned fun x => takes x = false :=
    fun log x hx => ⟨(reads_owned log x hx).1, takes_of_reading hx⟩
  refine adds_ask (fun _ => hreads _ _ rfl) fun subscribed => adds_ensure_bind ?_
  intro hsubscribed
  change subscribed = true at hsubscribed
  subst hsubscribed
  have hcreated : ∃ slice pid job, (⟨.startTransientUnit unitName slice pid, some job⟩ :
      Sigma ScopeCall.Answer) ∈ log ++ [⟨.receiveJobs unitName, true⟩] := by
    obtain ⟨slice, pid, job, hmem⟩ := hsettled.created
    exact ⟨slice, pid, job, List.mem_append_left _ hmem⟩
  refine adds_ask (fun _ => ⟨hcreated, rfl⟩) fun stop => adds_require_bind ?_
  intro job hjob
  change stop = some job at hjob
  subst hjob
  apply (adds_waitJob hreads).handle_orFail.mono
  rintro _ _ ⟨id, hid, rfl⟩
  exact ⟨job, id, hid, rfl⟩

/-- `checked!` either hands the value on or leaves nothing behind. -/
theorem sat_checked {α : Type} {result : Except PayloadScopeError α} (hsettled : Settled unitName log) :
    (checked unitName result).Sat Owned log fun r log' =>
      (∀ a, r = .ok a → result = .ok a ∧ log' = log) ∧ ∀ e, r = .error e → NothingLeft e log' := by
  cases result with
  | ok a => exact ⟨fun b hb => ⟨hb, rfl⟩, fun e he => (by cases he)⟩
  | error e =>
    refine sat_handle.mpr (Sat.mono (adds_stopCreated hsettled) ?_)
    rintro r _ ⟨more, rfl, hmore, hdone⟩
    have hlog := hsettled.append hmore
    cases r with
    | error e' =>
      refine (sat_fail _).mpr ⟨fun a ha => (by cases ha), fun e'' he => ?_⟩
      cases he
      exact ⟨fun _ _ _ _ _ => Or.inl rfl, hlog.givenBack⟩
    | ok _ =>
      refine (sat_fail _).mpr ⟨fun a ha => (by cases ha), fun e' he => ?_⟩
      cases he
      obtain ⟨job, id, hid, rfl⟩ := hdone () rfl
      refine ⟨fun unitName' slice pid job' hmem => Or.inr ?_, hlog.givenBack⟩
      rw [hlog.only unitName' slice pid job' hmem]
      exact ⟨log, job, id, hid, rfl⟩

/-- A part of the creation after its unit has been made: it changes nothing where it succeeds, and leaves
nothing behind where it fails. -/
def Continues {α : Type} (p : Scoping α) (log : ScopeLog)
    (good : α → ScopeLog → Prop) : Prop :=
  p.Sat Owned log fun r log' =>
    (∀ a, r = .ok a → ∃ more, log' = log ++ more ∧ (∀ x ∈ more, isReading x.1 = true) ∧ good a more) ∧
      ∀ e, r = .error e → NothingLeft e log'

variable {α β : Type}

theorem continues_pure {a : α} {good : α → ScopeLog → Prop} (h : good a []) :
    Continues (pure a) log good := by
  refine (sat_pure _).mpr ⟨fun b hb => ?_, fun e he => (by cases he)⟩
  cases hb
  exact ⟨[], (List.append_nil log).symm, List.forall_mem_nil _, h⟩

theorem Continues.bind {p : Scoping α} {f : α → Scoping β} {mid : α → ScopeLog → Prop}
    {good : β → ScopeLog → Prop} (hp : Continues p log mid)
    (hf : ∀ a more, (∀ x ∈ more, isReading x.1 = true) → mid a more →
      Continues (f a) (log ++ more) fun b rest => good b (more ++ rest)) :
    Continues (p >>= f) log good := by
  refine Sat.bind hp ?_ ?_
  · rintro a _ ⟨hok, -⟩
    obtain ⟨more, rfl, hmore, ha⟩ := hok a rfl
    apply Sat.mono (hf a more hmore ha)
    rintro r log' ⟨hr, herror⟩
    refine ⟨fun b hb => ?_, herror⟩
    obtain ⟨rest, rfl, hrest, hgood⟩ := hr b hb
    exact ⟨more ++ rest, List.append_assoc _ _ _, List.forall_mem_append.mpr ⟨hmore, hrest⟩, hgood⟩
  · rintro e _ ⟨-, herror⟩
    refine ⟨fun b hb => (by cases hb), fun e' he => ?_⟩
    cases he
    exact herror e rfl

theorem continues_ask {q : ScopeCall} {f : q.Answer → Scoping β} {good : β → ScopeLog → Prop}
    (hq : isReading q = true)
    (hf : ∀ x, Continues (f x) (log ++ [⟨q, x⟩]) fun b rest => good b (⟨q, x⟩ :: rest)) :
    Continues (ask q >>= f) log good := by
  intro x
  refine ⟨(reads_owned log ⟨q, x⟩ hq).1, Sat.mono (hf x) ?_⟩
  rintro r log' ⟨hr, herror⟩
  refine ⟨fun b hb => ?_, herror⟩
  obtain ⟨rest, rfl, hrest, hgood⟩ := hr b hb
  refine ⟨⟨q, x⟩ :: rest, by rw [List.append_assoc, List.singleton_append], ?_, hgood⟩
  exact List.forall_mem_cons.mpr ⟨hq, hrest⟩

theorem continues_checked (hsettled : Settled unitName log) {result : Except PayloadScopeError α} :
    Continues (checked unitName result) log fun a more => result = .ok a ∧ more = [] := by
  apply (sat_checked hsettled).mono
  rintro r log' ⟨hok, herror⟩
  refine ⟨fun a ha => ?_, herror⟩
  obtain ⟨hresult, rfl⟩ := hok a ha
  exact ⟨[], (List.append_nil log').symm, List.forall_mem_nil _, hresult, rfl⟩

theorem continues_checked_bind (hsettled : Settled unitName log) {result : Except PayloadScopeError α}
    {f : α → Scoping β} {good : β → ScopeLog → Prop}
    (h : ∀ a, result = .ok a → Continues (f a) log good) :
    Continues (checked unitName result >>= f) log good := by
  apply (continues_checked hsettled).bind
  rintro a _ - ⟨hresult, rfl⟩
  rw [List.append_nil]
  exact h a hresult

theorem Continues.handle_checked (hmade : Made unitName slice pid log) {p : Scoping α}
    {good : α → ScopeLog → Prop} (hp : p.Adds Owned (fun x => isReading x.1 = true) log good) :
    Continues (p.handle (checked unitName)) log good := by
  refine sat_handle.mpr (Sat.mono hp ?_)
  rintro r _ ⟨more, rfl, hmore, hgood⟩
  apply (sat_checked (hmade.append hmore).settled).mono
  rintro r' log' ⟨hok, herror⟩
  refine ⟨fun a ha => ?_, herror⟩
  obtain ⟨hr, rfl⟩ := hok a ha
  exact ⟨more, rfl, hmore, hgood a hr⟩

theorem continues_ask_checked (hmade : Made unitName slice pid log) {q : ScopeCall}
    (hq : isReading q = true) {result : q.Answer → Except PayloadScopeError α} {f : α → Scoping β}
    {good : β → ScopeLog → Prop}
    (h : ∀ x a, result x = .ok a → Made unitName slice pid (log ++ [⟨q, x⟩]) →
      Continues (f a) (log ++ [⟨q, x⟩]) fun b rest => good b (⟨q, x⟩ :: rest)) :
    Continues (ask q >>= fun x => checked unitName (result x) >>= f) log good := by
  refine continues_ask hq fun x => ?_
  have hmore : Made unitName slice pid (log ++ [⟨q, x⟩]) :=
    hmade.append (List.forall_mem_singleton.mpr hq)
  exact continues_checked_bind hmore.settled fun a ha => h x a ha hmore

end Failures

section Creation
variable {unitName slice : String} {pid : Nat} {log : ScopeLog} {uid workerPid launcherPid : Nat}
  {pidfd : Int} {logindSessionId : String}

theorem continues_unitProperty (hmade : Made unitName slice pid log) {objectPath : String}
    {name : UnitProperty} :
    Continues (unitProperty unitName objectPath name) log fun _ _ => True := by
  refine continues_ask rfl fun x => ?_
  apply Sat.mono (continues_checked (hmade.append (List.forall_mem_singleton.mpr rfl)).settled)
  rintro r log' ⟨hok, herror⟩
  refine ⟨fun a ha => ?_, herror⟩
  obtain ⟨more, rfl, hmore, -⟩ := hok a ha
  exact ⟨more, rfl, hmore, trivial⟩

theorem continues_unitProperty_bind (hmade : Made unitName slice pid log) {objectPath : String}
    {name : UnitProperty} {β : Type} {f : name.Value → Scoping β} {good : β → Prop}
    (h : ∀ value log', Made unitName slice pid log' → Continues (f value) log' fun b _ => good b) :
    Continues (unitProperty unitName objectPath name >>= f) log fun b _ => good b := by
  apply (continues_unitProperty hmade).bind
  intro value more hmore _
  exact h value _ (hmade.append hmore)

theorem continues_inspectCreated (hmade : Made unitName slice pid log) :
    Continues (inspectCreated unitName slice uid) log fun found _ =>
      (∃ invocation, hexId invocation = some found.1) ∧
        validPayloadCgroup found.2 uid unitName = true := by
  apply continues_ask_checked hmade rfl
  intro _ objectPath _ hmade
  apply continues_ask_checked hmade rfl
  intro _ _ _ hmade
  apply continues_ask_checked hmade rfl
  intro _ _ _ hmade
  refine continues_unitProperty_bind hmade fun id _ hmade => ?_
  refine continues_unitProperty_bind hmade fun active _ hmade => ?_
  refine continues_unitProperty_bind hmade fun sub _ hmade => ?_
  refine continues_unitProperty_bind hmade fun transient _ hmade => ?_
  refine continues_unitProperty_bind hmade fun invocation _ hmade => ?_
  refine continues_unitProperty_bind hmade fun observedSlice _ hmade => ?_
  refine continues_unitProperty_bind hmade fun controlGroup _ hmade => ?_
  apply continues_checked_bind hmade.settled
  intro invocationId hinvocation
  apply continues_checked_bind hmade.settled
  intro _ hvalid
  apply continues_pure
  refine ⟨⟨invocation, ?_⟩, ?_⟩
  · cases hhex : hexId invocation with
    | none =>
      rw [hhex] at hinvocation
      cases hinvocation
    | some found =>
      rw [hhex] at hinvocation
      cases hinvocation
      rfl
  · split_ifs at hvalid with hproperties
    simp only [not_or, Bool.not_eq_true', Bool.not_eq_false] at hproperties
    exact hproperties.2.2.2.2.2

theorem continues_confirmMembership (hmade : Made unitName slice pid log) {controlGroup : String} :
    Continues (confirmMembership unitName pid pidfd workerPid launcherPid controlGroup) log
      fun _ more => ∃ worker launcher, Apart controlGroup [pid] workerPid worker ∧
        Apart controlGroup [pid] launcherPid launcher ∧
        more = [⟨.pidfdCgroup pidfd, .ok controlGroup⟩, ⟨.readMembers controlGroup, .ok [pid]⟩,
          ⟨.proof (.pidCgroup workerPid), .ok worker⟩,
          ⟨.proof (.pidCgroup launcherPid), .ok launcher⟩] := by
  apply continues_ask_checked hmade rfl
  intro answer authoritative hanswer hmade
  change answer = .ok authoritative at hanswer
  subst hanswer
  apply continues_checked_bind hmade.settled
  intro _ hgroup
  split_ifs at hgroup with hne
  rw [Decidable.not_not] at hne
  subst hne
  apply (Continues.handle_checked hmade (adds_readMembers reads_owned)).bind
  rintro members _ hmore rfl
  apply continues_checked_bind (hmade.append hmore).settled
  intro _ hmembers
  split_ifs at hmembers with hne
  rw [Decidable.not_not] at hne
  subst hne
  apply (Continues.handle_checked (hmade.append hmore) (adds_confirmOutside reads_owned)).mono
  rintro r log' ⟨hok, herror⟩
  refine ⟨fun a ha => ?_, herror⟩
  obtain ⟨rest, rfl, hrest, paths, hpaths, rfl⟩ := hok a ha
  cases hpaths with
  | cons hworker hpaths =>
    cases hpaths with
    | cons hlauncher hpaths =>
      cases hpaths
      exact ⟨_, rfl, hrest, _, _, hworker, hlauncher, rfl⟩

/-- The calls of a pinning that found the unit running. -/
def pinningSeen (invocationId unitName : String) (objectPath : String)
    (properties : InvocationUnitProperties) : ScopeLog :=
  [⟨.proof (.resolveByInvocation invocationId), .ok objectPath⟩,
    ⟨.refPinnedUnit invocationId objectPath, .ok ()⟩,
    ⟨.proof (.readProperties .readPropertiesAfterRef invocationId objectPath unitName), .ok properties⟩]

theorem Made.settled_pinning (hmade : Made unitName slice pid log) {invocationId objectPath : String}
    {reading : Except InvocationBackendError InvocationUnitProperties}
    {released : Except InvocationBackendError Unit} :
    Settled unitName (log ++ [⟨.proof (.resolveByInvocation invocationId), .ok objectPath⟩,
      ⟨.refPinnedUnit invocationId objectPath, .ok ()⟩,
      ⟨.proof (.readProperties .readPropertiesAfterRef invocationId objectPath unitName), reading⟩,
      ⟨.unrefPinnedUnit invocationId objectPath, released⟩]) where
  created := by
    obtain ⟨slice, pid, job, hmem⟩ := hmade.settled.created
    exact ⟨slice, pid, job, List.mem_append_left _ hmem⟩
  only unitName' slice pid job hmem := by
    rcases List.mem_append.mp hmem with hmem | hmem
    · exact hmade.settled.only unitName' slice pid job hmem
    · simp at hmem
  givenBack invocationId' objectPath' hmem := by
    rcases List.mem_append.mp hmem with hmem | hmem
    · exact absurd hmem hmade.unreferenced
    · simp only [List.mem_cons, Sigma.mk.injEq, reduceCtorEq, false_and, ScopeCall.refPinnedUnit.injEq,
        List.not_mem_nil, or_false, false_or] at hmem
      obtain ⟨⟨rfl, rfl⟩, -⟩ := hmem
      exact ⟨released, by simp⟩

theorem sat_pinInvocationUnit (hmade : Made unitName slice pid log) {invocationId controlGroup : String} :
    (pinInvocationUnit unitName invocationId controlGroup slice).Sat Owned log fun r log' =>
      (∀ pinned, r = .ok pinned → pinned.referenceHeld = true ∧ ∃ properties,
        validatePinning unitName invocationId controlGroup slice pinned.objectPath (.ok properties) =
          .ok () ∧ log' = log ++ pinningSeen invocationId unitName pinned.objectPath properties) ∧
        ∀ e, r = .error e → Settled unitName log' := by
  have hresolved : ∀ x : Except InvocationBackendError String, Made unitName slice pid
      (log ++ [⟨.proof (.resolveByInvocation invocationId), x⟩]) := by
    intro x
    exact hmade.append (List.forall_mem_singleton.mpr rfl)
  rw [pinInvocationUnit, sat_ask_bind]
  intro resolution
  refine ⟨trivial, ?_⟩
  cases resolution with
  | error e =>
    refine (sat_fail _).mpr ⟨fun _ h => (by cases h), fun _ _ => ?_⟩
    exact (hresolved _).settled
  | ok objectPath =>
    intro reference
    refine ⟨fun _ _ _ => (hresolved _).unreferenced, ?_⟩
    cases reference with
    | error e =>
      refine (sat_fail _).mpr ⟨fun _ h => (by cases h), fun _ _ => ?_⟩
      exact (hresolved _).settled.append (List.forall_mem_singleton.mpr rfl)
    | ok _ =>
      rw [List.append_assoc]
      refine (sat_ask_bind _ _).mpr fun reading => ⟨trivial, ?_⟩
      split
      · rename_i hvalid
        refine (sat_pure _).mpr ⟨fun pinned h => ?_, fun _ h => (by cases h)⟩
        cases h
        cases reading with
        | error e => cases hvalid
        | ok properties => exact ⟨rfl, properties, hvalid, by rw [List.append_assoc]; rfl⟩
      · intro released
        refine ⟨by simp [Owned], ?_⟩
        refine (sat_fail _).mpr ⟨fun _ h => (by cases h), fun _ _ => ?_⟩
        rw [List.append_assoc, List.append_assoc]
        exact hmade.settled_pinning

theorem validatePinning_ok {invocationId controlGroup objectPath : String}
    {properties : InvocationUnitProperties}
    (h : validatePinning unitName invocationId controlGroup slice objectPath (.ok properties) = .ok ()) :
    properties.objectPath = objectPath ∧ properties.id = unitName ∧
      properties.invocationId = invocationId ∧ properties.controlGroup = controlGroup ∧
      properties.slice = slice ∧ properties.activeState = "active" ∧
      properties.subState = "running" ∧ properties.transient = true := by
  unfold validatePinning at h
  dsimp only at h
  split_ifs at h with hproperties
  simpa only [not_or, Decidable.not_not, Bool.not_eq_true', Bool.not_eq_false] using hproperties

theorem sat_pinChecked (hmade : Made unitName slice pid log) {invocationId controlGroup : String} :
    ((pinInvocationUnit unitName invocationId controlGroup slice).handle (checked unitName)).Sat Owned log
      fun r log' =>
        (∀ pinned, r = .ok pinned → pinned.referenceHeld = true ∧ ∃ properties,
          validatePinning unitName invocationId controlGroup slice pinned.objectPath (.ok properties) =
            .ok () ∧ log' = log ++ pinningSeen invocationId unitName pinned.objectPath properties) ∧
          ∀ e, r = .error e → NothingLeft e log' := by
  refine sat_handle.mpr ((sat_pinInvocationUnit hmade).mono ?_)
  rintro r log' ⟨hpin, hsettled⟩
  cases r with
  | ok pinned => exact (sat_pure _).mpr ⟨fun p hp => hpin p hp, fun _ he => (by cases he)⟩
  | error e =>
    apply (sat_checked (hsettled e rfl)).mono
    rintro r log'' ⟨hok, herror⟩
    exact ⟨fun p hp => (by cases (hok p hp).1), herror⟩

/-- The rest of a creation whose unit was made under a random name. -/
theorem sat_adoptCreated {bytes : List UInt8} (hbytes : bytes.length = 16) (huid : uid ≠ 0)
    (hname : unitName = "niralis-payload-" ++ hexText bytes ++ ".scope")
    (hmade : Made unitName (sliceName uid) pid log) {job : String} :
    (adoptCreated unitName (sliceName uid) pid pidfd uid logindSessionId workerPid launcherPid job).Sat
      Owned log fun r log' =>
        (∀ scope, r = .ok scope →
          Prepared pid pidfd uid logindSessionId workerPid launcherPid scope log') ∧
        ∀ e, r = .error e → NothingLeft e log' := by
  have hfailed : ∀ {e : PayloadScopeError} {log' : ScopeLog}, NothingLeft e log' →
      (∀ scope, (Except.error e : Except PayloadScopeError SystemdPayloadScope) = .ok scope →
        Prepared pid pidfd uid logindSessionId workerPid launcherPid scope log') ∧
      ∀ e', (Except.error e : Except PayloadScopeError SystemdPayloadScope) = .error e' →
        NothingLeft e' log' := by
    intro e log' h
    refine ⟨fun _ he => (by cases he), fun e' he => ?_⟩
    cases he
    exact h
  -- each stage leaves nothing behind when it fails, or adds to what was seen
  refine Sat.bind (Continues.handle_checked hmade (adds_waitJob reads_owned)) ?_
    fun e log' h => hfailed (h.2 e rfl)
  rintro _ _ ⟨hok, -⟩
  obtain ⟨waited, rfl, hwaited, -⟩ := hok () rfl
  have hmade := hmade.append hwaited
  refine Sat.bind (continues_inspectCreated hmade) ?_ fun e log' h => hfailed (h.2 e rfl)
  rintro ⟨invocationId, controlGroup⟩ _ ⟨hok, -⟩
  obtain ⟨inspected, rfl, hinspected, ⟨invocation, hinvocation⟩, hgroup⟩ := hok _ rfl
  have hmade := hmade.append hinspected
  refine Sat.bind (continues_confirmMembership hmade) ?_ fun e log' h => hfailed (h.2 e rfl)
  rintro _ _ ⟨hok, -⟩
  obtain ⟨members, rfl, hmembers, worker, launcher, hworker, hlauncher, rfl⟩ := hok () rfl
  refine Sat.bind (sat_pinChecked (hmade.append hmembers)) ?_ fun e log' h => hfailed (h.2 e rfl)
  rintro pinned _ ⟨hok, -⟩
  obtain ⟨hheld, properties, hvalid, rfl⟩ := hok pinned rfl
  obtain ⟨hpath, hid, hpropertyId, hpropertyGroup, hslice, hactive, hrunning, htransient⟩ :=
    validatePinning_ok hvalid
  refine (sat_pure _).mpr ⟨fun scope hscope => ?_, fun _ he => (by cases he)⟩
  cases hscope
  obtain ⟨before, startJob, after, hlog, hbefore, hafter⟩ := hmade.split
  refine ⟨rfl, rfl, rfl, rfl, ?_, ?_, before, startJob, after, worker, launcher, properties, ?_, hbefore,
    hafter, hworker, hlauncher, ⟨hheld, hpath, hpropertyId, hid, hslice, htransient, hpropertyGroup,
      hgroup⟩, hactive, hrunning⟩
  · rw [hname]
    exact validate_created hbytes hinvocation huid
  · simp only [validPayloadCgroup, Bool.and_eq_true, decide_eq_true_eq] at hgroup
    exact hgroup.1.1
  · rw [hlog]
    simp [pinningSeen, adoptedSeen]

theorem failed_reading {e : PayloadScopeError} (hlog : ∀ x ∈ log, isReading x.1 = true) :
    (∀ scope, (Except.error e : Except PayloadScopeError SystemdPayloadScope) = .ok scope →
      Prepared pid pidfd uid logindSessionId workerPid launcherPid scope log) ∧
    ∀ e', (Except.error e : Except PayloadScopeError SystemdPayloadScope) = .error e' →
      NothingLeft e' log :=
  ⟨fun _ he => (by cases he), fun _ _ => nothingLeft_of_reading hlog⟩

theorem sat_ask_reading {q : ScopeCall} {β : Type} {f : q.Answer → Scoping β}
    {post : Except PayloadScopeError β → ScopeLog → Prop} (hq : isReading q = true)
    (hlog : ∀ x ∈ log, isReading x.1 = true)
    (hf : ∀ x log', (∀ y ∈ log', isReading y.1 = true) → (f x).Sat Owned log' post) :
    (ask q >>= f).Sat Owned log post := by
  intro x
  refine ⟨(reads_owned log ⟨q, x⟩ hq).1, hf x _ ?_⟩
  exact List.forall_mem_append.mpr ⟨hlog, List.forall_mem_singleton.mpr hq⟩

theorem sat_prepareScope (huid : uid ≠ 0) :
    (prepareScope pid pidfd uid logindSessionId workerPid launcherPid).Sat Owned [] fun r log =>
      (∀ scope, r = .ok scope →
        Prepared pid pidfd uid logindSessionId workerPid launcherPid scope log) ∧
      ∀ e, r = .error e → NothingLeft e log := by
  refine Sat.bind (adds_remaining reads_owned) ?_ ?_
  swap
  · rintro e _ ⟨_, rfl, hmore, -⟩
    exact failed_reading hmore
  rintro _ _ ⟨log, rfl, hlog, -⟩
  refine sat_ask_reading rfl hlog fun connected log hlog => ?_
  refine Sat.ensure_bind (fun _ => ?_) (failed_reading hlog)
  refine sat_ask_reading rfl hlog fun manager log hlog => ?_
  refine Sat.ensure_bind (fun _ => ?_) (failed_reading hlog)
  refine sat_ask_reading rfl hlog fun random log hlog => ?_
  refine Sat.require_bind (fun bytes _ => ?_) (failed_reading hlog)
  refine Sat.ensure_bind (fun _ => ?_) (failed_reading hlog)
  refine sat_ask_reading rfl hlog fun subscribed log hlog => ?_
  refine Sat.ensure_bind (fun _ => ?_) (failed_reading hlog)
  -- from here on there may be a unit
  intro start
  refine ⟨hlog, ?_⟩
  cases start with
  | none =>
    refine ⟨fun _ he => (by cases he), fun e _ => ⟨fun _ _ _ _ hmem => ?_, fun _ _ hmem => ?_⟩⟩
    · rcases List.mem_append.mp hmem with hmem | hmem
      · cases hlog _ hmem
      · simp at hmem
    · rcases List.mem_append.mp hmem with hmem | hmem
      · cases hlog _ hmem
      · simp at hmem
  | some job =>
    have hmade : Made ("niralis-payload-" ++ hexText bytes.toList ++ ".scope") (sliceName uid) pid
        (log ++ [⟨.startTransientUnit _ _ pid, some job⟩]) :=
      ⟨log, job, [], rfl, hlog, List.forall_mem_nil _⟩
    exact sat_adoptCreated bytes.size_toArray huid rfl hmade

theorem sat_prepare (childPid : Nat) (processIdentity : ProcessIdentityProof) (pidfd : Int)
    (uid : Nat) (logindSessionId : String) (workerPid launcherPid : Nat) :
    (prepare childPid processIdentity pidfd uid logindSessionId workerPid launcherPid).Sat Owned []
      fun r log => (∀ scope, r = .ok scope →
          Prepared childPid pidfd uid logindSessionId workerPid launcherPid scope log) ∧
        ∀ e, r = .error e → NothingLeft e log := by
  unfold prepare
  split
  · exact failed_reading (List.forall_mem_nil _)
  · rename_i hvalid
    rw [not_or] at hvalid
    exact sat_prepareScope hvalid.1

/-- Whatever the host answers: a creation that succeeds has one unit, started by it, with the session child
alone in it, pinned and running afterwards under a valid identity; one that fails has stopped the unit it
made, or says that it could not, and has asked for the reference it took to be given back. -/
theorem prepare_settled (childPid : Nat) (processIdentity : ProcessIdentityProof) (pidfd : Int)
    (uid : Nat) (logindSessionId : String) (workerPid launcherPid : Nat)
    (host : Host ScopeCall.Answer) :
    let run := (prepare childPid processIdentity pidfd uid logindSessionId workerPid launcherPid).run
      host []
    Throughout Owned run.2 ∧
      (∀ scope, run.1 = .ok scope →
        Prepared childPid pidfd uid logindSessionId workerPid launcherPid scope run.2) ∧
      ∀ e, run.1 = .error e → NothingLeft e run.2 := by
  exact (sat_prepare childPid processIdentity pidfd uid logindSessionId workerPid launcherPid).run host

end Creation
end Niralis.PayloadScope
