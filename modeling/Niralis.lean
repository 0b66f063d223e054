import Niralis.AdminReadable
import Niralis.AdminSequence
import Niralis.CallLogs
import Niralis.CallStates
import Niralis.CgroupReaders
import Niralis.ClientAlignment
import Niralis.EmptyProof
import Niralis.ForcedCleanup
import Niralis.GreeterFraming
import Niralis.JournalGrowth
import Niralis.JournalStages
import Niralis.LaunchScope
import Niralis.PamConverse
import Niralis.PamHandle
import Niralis.PayloadScopePreparation
import Niralis.LedgerFiles
import Niralis.LedgerLoading
import Niralis.LedgerRefinement
import Niralis.LifecycleRetention
import Niralis.LoginRateLimit
import Niralis.LoginTransactions
import Niralis.PamLimits
import Niralis.PrecommitLease
import Niralis.PrecommitStartup
import Niralis.PreviousBootProgress
import Niralis.PrivilegeDrop
import Niralis.ProofChain
import Niralis.QuarantineCauses
import Niralis.RecoveryIdentity
import Niralis.ReleaseHandshake
import Niralis.ResolutionAttempts
import Niralis.SameBootReadable
import Niralis.SeatFreedom
import Niralis.SeatHolders
import Niralis.SeatLinearity
import Niralis.SessionCommand
import Niralis.SessionFinalization
import Niralis.StaleSnapshots
import Niralis.StartupConflicts
import Niralis.StartupLocality
import Niralis.StartupRequests
import Niralis.StartupSeats
import Niralis.TerminalVtCleanup
import Niralis.VirtualTerminal
import Niralis.WaitLoop
import Niralis.WorkerFrames
