import Mathlib.Tactic.Common

namespace Niralis

inductive SessionError
  | workerIoFailed
  | workerProtocolFailed
  | sessionSeatUnavailable
  | workerRecoveryIncomplete
  | persistentRecoveryUnavailable
  deriving DecidableEq, Repr

inductive WorkerExitClassification
  | cleanFinalization
  | failedAfterBoundaryCleanup
  | unexpectedExitBeforeStarted
  | unexpectedExitRunning
  | killedBySignal (signal : Int)
  | recoveryGateLost
  deriving DecidableEq, Repr

inductive EmergencyRecoveryStage
  | recoveryRecordValidation
  | payloadIdentityValidation
  | emergencyKill
  | boundaryObservation
  | boundaryProof
  | supervisorUnref
  | logindCleanup
  | selinuxTtyRestore
  | vtRecovery
  deriving DecidableEq, Repr

inductive SystemdUnitOperation
  | ref | kill | unref
  deriving DecidableEq, Repr

/-- The production variants; the remaining ones exist only under `cfg(test)`. -/
inductive SupervisorRecoveryError
  | invalidRecord
  | invalidPayloadIdentity
  | boundaryIdentityChanged
  | busUnavailable
  | authorizationDenied (action : String) (operation : SystemdUnitOperation)
  | busDeliveryIndeterminate
  | leaderPidfdUnavailable
  | leaderAlreadyDead
  | leaderStillAlive
  | boundaryStillPopulated
  | boundaryObserverUnavailable
  | boundaryTimedOut
  | supervisorUnrefFailed
  | logindUnavailable
  | logindIdentityChanged
  | logindCleanupIndeterminate
  | logindRemovalTimedOut
  | vtIdentityChanged
  | vtOpenFailed (errno : Int)
  | vtKernelRestoreFailed (errno : Int)
  | selinuxRestoreFailed (errno : Int)
  | vtActivationFailed (errno : Int)
  | vtDisallocateBusy
  | vtDisallocateFailed (errno : Int)
  | systemdOwnerChanged
  | logindOwnerChanged
  | unknownPayloadScope
  deriving DecidableEq, Repr

structure PayloadScopeIdentity where
  unitName : String
  invocationId : String
  expectedUid : Nat
  logindSessionId : String
  deriving DecidableEq, Repr

def asciiAlphanumeric (c : Char) : Bool :=
  ('a' ≤ c && c ≤ 'z') || ('A' ≤ c && c ≤ 'Z') || ('0' ≤ c && c ≤ '9')

def asciiHexDigit (c : Char) : Bool :=
  ('a' ≤ c && c ≤ 'f') || ('A' ≤ c && c ≤ 'F') || ('0' ≤ c && c ≤ '9')

def PayloadScopeIdentity.validate (identity : PayloadScopeIdentity) : Bool :=
  "niralis-payload-".toList.isPrefixOf identity.unitName.toList &&
    ".scope".toList.isSuffixOf identity.unitName.toList &&
    identity.unitName.utf8ByteSize ≤ 255 &&
    identity.unitName.toList.all (fun c => asciiAlphanumeric c || c = '-' || c = '.' || c = '_') &&
    identity.invocationId.utf8ByteSize = 32 &&
    identity.invocationId.toList.all asciiHexDigit &&
    identity.expectedUid ≠ 0

structure PreviousVtIdentity where
  number : Nat
  deriving DecidableEq, Repr

structure SupervisorLogindSessionIdentity where
  id : String
  objectPath : String
  uid : Nat
  leader : Nat
  seat : String
  vtNumber : Nat
  deriving DecidableEq, Repr

structure SupervisorVtIdentity where
  seat : String
  number : Nat
  previous : PreviousVtIdentity
  deviceMajor : Nat
  deviceMinor : Nat
  deriving DecidableEq, Repr

inductive SeatLifecycle
  | free
  | active (lifecycleId : String)
  | recovering (lifecycleId : String) (phase : String) (reason : WorkerExitClassification)
  | quarantined (lifecycleId : String) (stage : EmergencyRecoveryStage)
      (reason : SupervisorRecoveryError)
  deriving DecidableEq, Repr

/-- `std::process::ExitStatus`: an exit code, the signal that ended the process, or a raw wait
status that is neither. -/
inductive ExitStatus
  | exited (code : Int)
  | signaled (signal : Int)
  | other (raw : Int)
  deriving DecidableEq, Repr

def ExitStatus.success : ExitStatus → Bool
  | .exited code => code == 0
  | _ => false

def ExitStatus.signal : ExitStatus → Option Int
  | .signaled s => some s
  | _ => none

inductive PayloadScopeError
  | busUnavailable
  | startFailed
  | timedOut
  | jobFailed
  | invalidIdentity
  | cgroupMismatch
  | invalidMembership
  | workerInsideBoundary
  | cleanupFailed
  | observerFailed
  | unitReplaced
  | boundaryNotEmpty
  | unitNotTerminal
  | unrefFailed
  | invocationUnavailable
  | transportFailure
  | serviceOwnerChanged
  deriving DecidableEq, Repr

inductive PayloadScopeRecoveryReason
  | verificationUnavailable
  | unitStillActive
  | membershipNotEmpty
  | invocationIdMismatch
  | identityMismatch
  deriving DecidableEq, Repr

inductive ScopeReleaseVerification
  | released
  | recoveryRequired (reason : PayloadScopeRecoveryReason)
  deriving DecidableEq, Repr

/-- What every receipt of the ledger repeats of the snapshot it is made from. -/
structure RecordBinding where
  bootId : String
  recordId : String
  lifecycleId : String
  sequence : Nat
  seat : String
  deriving DecidableEq, Repr

structure RecordRemovedReceipt extends RecordBinding
  deriving DecidableEq, Repr

end Niralis
