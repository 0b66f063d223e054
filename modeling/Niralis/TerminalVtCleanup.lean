import Niralis.LedgerRuns
import Niralis.SupervisorWorld

namespace Niralis
open DurableOperationState

/-- How the record of one worker stands: in the supervisor's memory, with its sequence, and in the
record's file. -/
structure VtView where
  memory : DurableOperationState
  sequence : Nat
  file : DurableOperationState

def VtResultOf (a : Nat) (s : DurableOperationState) : Prop :=
  s = .confirmed a ∨ s = .failed a ebusy

inductive VtEvent
  | quiet
  | granted (attemptId : Nat)
  | reported (attemptId : Nat)

/-- The cleanup as it is meant: one intent, and one result for it. A write that is not synced
reaches the file and not the memory. -/
inductive VtStep (v : VtView) : VtEvent → VtView → Prop
  | idle : VtStep v .quiet v
  | intent (h : v.memory = .notStarted) :
    VtStep v (.granted (v.sequence + 1))
      ⟨.intentPersisted (v.sequence + 1), v.sequence + 1, .intentPersisted (v.sequence + 1)⟩
  | intentNotSynced (h : v.memory = .notStarted) :
    VtStep v .quiet ⟨v.memory, v.sequence, .intentPersisted (v.sequence + 1)⟩
  | result {a : Nat} {d : DurableOperationState} (h : v.memory = .intentPersisted a)
    (hfile : v.file = v.memory) (hd : VtResultOf a d) :
    VtStep v (.reported a) ⟨d, v.sequence + 1, d⟩
  | resultNotSynced {a : Nat} {d : DurableOperationState} (h : v.memory = .intentPersisted a)
    (hfile : v.file = v.memory) (hd : VtResultOf a d) :
    VtStep v .quiet ⟨v.memory, v.sequence, d⟩

/-- The file is as the memory, or one unsynced write ahead of it. -/
def VtView.Agrees (v : VtView) : Prop :=
  v.file = v.memory ∨
    (v.memory = .notStarted ∧ v.file = .intentPersisted (v.sequence + 1)) ∨
    ∃ a, v.memory = .intentPersisted a ∧ VtResultOf a v.file

inductive VtMove : DurableOperationState → DurableOperationState → Prop
  | stay (s : DurableOperationState) : VtMove s s
  | intent (a : Nat) : VtMove .notStarted (.intentPersisted a)
  | result {a : Nat} {d : DurableOperationState} (h : VtResultOf a d) :
    VtMove (.intentPersisted a) d

namespace VtStep
variable {v v' : VtView} {e : VtEvent}

theorem agrees (h : VtStep v e v') (hv : v.Agrees) : v'.Agrees := by
  cases h with
  | idle => exact hv
  | intent hm => exact Or.inl rfl
  | intentNotSynced hm => exact Or.inr (Or.inl ⟨hm, rfl⟩)
  | result hm hfile hd => exact Or.inl rfl
  | resultNotSynced hm hfile hd => exact Or.inr (Or.inr ⟨_, hm, hd⟩)

theorem file_of_notStarted (hv : v.Agrees) (hm : v.memory = .notStarted) :
    v.file = .notStarted ∨ v.file = .intentPersisted (v.sequence + 1) := by
  rcases hv with h | ⟨-, h⟩ | ⟨a, h, -⟩
  · exact Or.inl (h.trans hm)
  · exact Or.inr h
  · rw [hm] at h
    cases h

theorem move (h : VtStep v e v') (hv : v.Agrees) : VtMove v.file v'.file := by
  cases h with
  | idle => exact .stay _
  | intent hm =>
    rcases file_of_notStarted hv hm with hf | hf <;> rw [hf]
    · exact .intent _
    · exact .stay _
  | intentNotSynced hm =>
    rcases file_of_notStarted hv hm with hf | hf <;> rw [hf]
    · exact .intent _
    · exact .stay _
  | result hm hfile hd =>
    rw [hfile, hm]
    exact .result hd
  | resultNotSynced hm hfile hd =>
    rw [hfile, hm]
    exact .result hd

theorem started (h : VtStep v e v') (hm : v.memory ≠ .notStarted) : v'.memory ≠ .notStarted := by
  cases h with
  | idle => exact hm
  | intent h => exact nofun
  | intentNotSynced h => exact hm
  | result h hfile hd => rcases hd with rfl | rfl <;> exact nofun
  | resultNotSynced h hfile hd => exact hm

theorem decided {a : Nat} (h : VtStep v e v') (hm : VtResultOf a v.memory) : v' = v := by
  cases h with
  | idle => rfl
  | intent h => rw [h] at hm; rcases hm with hm | hm <;> cases hm
  | intentNotSynced h => rw [h] at hm; rcases hm with hm | hm <;> cases hm
  | result h hfile hd => rw [h] at hm; rcases hm with hm | hm <;> cases hm
  | resultNotSynced h hfile hd => rw [h] at hm; rcases hm with hm | hm <;> cases hm

end VtStep

structure TerminalVtIntent where
  workerId : String
  workerPid : Nat
  nonce : String
  identity : PayloadScopeIdentity

structure TerminalVtResult where
  workerId : String
  workerPid : Nat
  nonce : String
  attemptId : Nat
  result : TerminalVtCleanupResult

/-- A message to the supervisor, with what the file system answers if it leads to a write. -/
inductive TerminalVtMessage
  | intent (m : TerminalVtIntent) (answer : WriteAnswer)
  | result (m : TerminalVtResult) (answer : WriteAnswer)

namespace SupervisorLoopState

def acceptIntent (s : SupervisorLoopState) (m : TerminalVtIntent) (answer : WriteAnswer) :
    Except SessionError Nat × SupervisorLoopState :=
  s.acceptTerminalVtIntent m.workerId m.workerPid m.nonce m.identity answer

def acceptResult (s : SupervisorLoopState) (m : TerminalVtResult) (answer : WriteAnswer) :
    Except SessionError Unit × SupervisorLoopState :=
  s.acceptTerminalVtResult m.workerId m.workerPid m.nonce m.attemptId m.result answer

def terminalVtStep (s : SupervisorLoopState) : TerminalVtMessage → SupervisorLoopState
  | .intent m answer => (s.acceptIntent m answer).2
  | .result m answer => (s.acceptResult m answer).2

def terminalVtEvent (s : SupervisorLoopState) (id : String) : TerminalVtMessage → VtEvent
  | .intent m answer =>
    match (s.acceptIntent m answer).1 with
    | .ok attemptId => if m.workerId = id then .granted attemptId else .quiet
    | .error _ => .quiet
  | .result m answer =>
    match (s.acceptResult m answer).1 with
    | .ok _ => if m.workerId = id then .reported m.attemptId else .quiet
    | .error _ => .quiet

/-- The intent is from the worker it names, whose record is in state `started`. -/
structure IntentPasses (s : SupervisorLoopState) (m : TerminalVtIntent)
    (l : PersistentRecoveryLedger) (r : PersistentRecoveryRecord) : Prop where
  worker : ∃ worker, s.children.find? (·.workerId = m.workerId) = some worker ∧
    worker.record.workerPid = m.workerPid ∧ worker.registrationNonce = m.nonce ∧
    worker.record.payloadIdentity = some m.identity
  nonce : nonceValid m.nonce = true
  ledger : s.ledger = some l
  record : l.get m.workerId = some r
  workerPid : r.workerPid = m.workerPid
  state : r.state = "started"

/-- The result is from the worker it names, and memory has the intent it belongs to. -/
structure ResultPasses (s : SupervisorLoopState) (m : TerminalVtResult)
    (l : PersistentRecoveryLedger) (r : PersistentRecoveryRecord) : Prop where
  worker : ∃ slot, Slot.first (fun w => w.workerId = m.workerId) s.children = some slot ∧
    slot.entry.record.workerPid = m.workerPid ∧ slot.entry.registrationNonce = m.nonce
  nonce : nonceValid m.nonce = true
  ledger : s.ledger = some l
  record : l.get m.workerId = some r
  intent : r.operationLedger.vtDisallocate = .intentPersisted m.attemptId

/-- The handler refuses the intent, or writes it for the next sequence. -/
theorem acceptIntent_cases (s : SupervisorLoopState) (m : TerminalVtIntent) (answer : WriteAnswer) :
    (∃ e, s.acceptIntent m answer = (.error e, s)) ∨
      ∃ l r, s.IntentPasses m l r ∧
        let written := l.write m.workerId (.workerVtCleanupIntent (r.sequence + 1)) answer
        s.acceptIntent m answer = (if written.1 then .ok (r.sequence + 1) else .error .workerIoFailed,
          { s with ledger := some written.2 }) := by
  unfold acceptIntent acceptTerminalVtIntent
  split
  · exact Or.inl ⟨_, rfl⟩
  next worker hworker =>
    split
    · exact Or.inl ⟨_, rfl⟩
    next hchecks =>
      simp only [Bool.or_eq_true, not_or, decide_eq_true_eq, ne_eq, not_not, Bool.not_eq_true',
        Bool.not_eq_false] at hchecks
      obtain ⟨⟨⟨hpid, hnonce⟩, hidentity⟩, hvalid⟩ := hchecks
      split
      · exact Or.inl ⟨_, rfl⟩
      next l hledger =>
        split
        · exact Or.inl ⟨_, rfl⟩
        next r hget =>
          split
          · exact Or.inl ⟨_, rfl⟩
          next hrecord =>
            split
            · exact Or.inl ⟨_, rfl⟩
            next attemptId hattempt =>
              obtain ⟨-, rfl⟩ := checkedAdd_eq_some.mp hattempt
              simp only [not_or, ne_eq, not_not] at hrecord
              exact Or.inr ⟨l, r, ⟨⟨worker, hworker, hpid, hnonce, hidentity⟩, hvalid, hledger,
                hget, hrecord.1, hrecord.2⟩, rfl⟩

theorem acceptResult_cases (s : SupervisorLoopState) (m : TerminalVtResult) (answer : WriteAnswer) :
    (∃ e, s.acceptResult m answer = (.error e, s)) ∨
      ∃ l r, s.ResultPasses m l r ∧
        let written := l.write m.workerId (.workerVtCleanupResult m.attemptId m.result) answer
        (s.acceptResult m answer).1 =
            (if written.1 then .ok () else .error .workerIoFailed) ∧
          (s.acceptResult m answer).2.ledger = some written.2 := by
  unfold acceptResult acceptTerminalVtResult
  split
  · exact Or.inl ⟨_, rfl⟩
  next hnonce =>
    split
    · exact Or.inl ⟨_, rfl⟩
    next slot hslot =>
      split
      · exact Or.inl ⟨_, rfl⟩
      next hworker =>
        simp only [not_or, ne_eq, not_not] at hworker
        split
        · exact Or.inl ⟨_, rfl⟩
        next l hledger =>
          split
          · exact Or.inl ⟨_, rfl⟩
          next r hget =>
            split
            · exact Or.inl ⟨_, rfl⟩
            next hintent =>
              refine Or.inr ⟨l, r, ⟨⟨slot, hslot, hworker⟩, by simpa using hnonce, hledger, hget,
                not_not.mp hintent⟩, ?_⟩
              dsimp only
              split
              next l' hw => rw [hw]; exact ⟨rfl, rfl⟩
              next l' hw => rw [hw]; exact ⟨rfl, rfl⟩

def vtView (s : SupervisorLoopState) (id : String) : Option VtView := do
  let l ← s.ledger
  let r ← l.get id
  let f ← l.file id
  some ⟨r.operationLedger.vtDisallocate, r.sequence, f.record.operationLedger.vtDisallocate⟩

/-- The intent finds the operation not started; the result finds memory and file in agreement. -/
def OneShotStep (s : SupervisorLoopState) : TerminalVtMessage → Prop
  | .intent m _ => ∀ l r, s.IntentPasses m l r → r.operationLedger.vtDisallocate = .notStarted
  | .result m _ => ∀ l r f, s.ResultPasses m l r → l.file m.workerId = some f →
      f.record.operationLedger.vtDisallocate = r.operationLedger.vtDisallocate

theorem vtView_eq_some {s : SupervisorLoopState} {id : String} {v : VtView}
    (h : s.vtView id = some v) : ∃ l r f, s.ledger = some l ∧ l.get id = some r ∧
      l.file id = some f ∧ v = ⟨r.operationLedger.vtDisallocate, r.sequence,
        f.record.operationLedger.vtDisallocate⟩ := by
  simp only [vtView, Option.bind_eq_bind, Option.bind_eq_some_iff, Option.some.injEq] at h
  obtain ⟨l, hl, r, hr, f, hf, rfl⟩ := h
  exact ⟨l, r, f, hl, hr, hf, rfl⟩

theorem vtView_of_ledger {s : SupervisorLoopState} {id : String} {l : PersistentRecoveryLedger}
    {r : PersistentRecoveryRecord} {f : RecordFile} (hl : s.ledger = some l)
    (hr : l.get id = some r) (hf : l.file id = some f) :
    s.vtView id = some ⟨r.operationLedger.vtDisallocate, r.sequence,
      f.record.operationLedger.vtDisallocate⟩ := by
  simp [vtView, hl, hr, hf]

theorem vtView_of_other {s s' : SupervisorLoopState} {id id' : String}
    {l : PersistentRecoveryLedger} {v : VtView} {w : RecordWrite} {answer : WriteAnswer}
    (hv : s.vtView id = some v) (hl : s.ledger = some l)
    (hs' : s'.ledger = some (l.write id' w answer).2) (hne : id ≠ id') : s'.vtView id = some v := by
  obtain ⟨l₀, r, f, hl₀, hr, hf, rfl⟩ := vtView_eq_some hv
  cases hl.symm.trans hl₀
  have honly := l.onRecord_write id' w answer
  exact vtView_of_ledger hs' ((honly.get id hne).trans hr) ((honly.file id hne).trans hf)

/-- The handlers refine the one-shot cleanup when their messages meet the condition. -/
theorem vtStep_of_intent {s : SupervisorLoopState} {id : String} {v : VtView}
    {m : TerminalVtIntent} {answer : WriteAnswer} (hv : s.vtView id = some v)
    (hok : s.OneShotStep (.intent m answer)) :
    ∃ v', (s.terminalVtStep (.intent m answer)).vtView id = some v' ∧
      VtStep v (s.terminalVtEvent id (.intent m answer)) v' := by
  rcases s.acceptIntent_cases m answer with ⟨e, heq⟩ | ⟨l, r, hpass, heq⟩
  · refine ⟨v, ?_, ?_⟩
    · simpa only [terminalVtStep, heq] using hv
    · simp only [terminalVtEvent, heq]
      exact .idle
  · simp only [terminalVtStep, terminalVtEvent, heq]
    by_cases hid : m.workerId = id
    · subst hid
      obtain ⟨l₀, r₀, f, hl₀, hr₀, hf, rfl⟩ := vtView_eq_some hv
      cases hl₀.symm.trans hpass.ledger
      cases hr₀.symm.trans hpass.record
      have hstart := hok l r hpass
      rcases PersistentRecoveryLedger.write_outcomes hpass.record
          (.workerVtCleanupIntent (r.sequence + 1)) answer with
        hw | ⟨next, hnext, hfile, ⟨hdone, hget⟩ | ⟨hdone, hget⟩⟩
      · rw [hw]
        exact ⟨_, vtView_of_ledger rfl hr₀ hf, .idle⟩
      · refine ⟨_, vtView_of_ledger rfl hget hfile, ?_⟩
        rw [hdone, hnext.sequence, hnext.operations]
        simp only [if_true]
        exact VtStep.intent (v := ⟨_, r.sequence, _⟩) hstart
      · refine ⟨_, vtView_of_ledger rfl hget hfile, ?_⟩
        rw [hdone, hnext.operations]
        exact .intentNotSynced hstart
    · refine ⟨v, vtView_of_other hv hpass.ledger rfl (Ne.symm hid), ?_⟩
      split
      · rw [if_neg hid]
        exact .idle
      · exact .idle

theorem vtResultOf_write (l : DurableOperationLedger) (a : Nat) (result : TerminalVtCleanupResult) :
    VtResultOf a
      ((RecordWrite.workerVtCleanupResult a result).operationsAfter l).vtDisallocate := by
  cases result with
  | released => exact Or.inl rfl
  | vtDisallocateBusy => exact Or.inr rfl

theorem vtStep_of_result {s : SupervisorLoopState} {id : String} {v : VtView}
    {m : TerminalVtResult} {answer : WriteAnswer} (hv : s.vtView id = some v)
    (hok : s.OneShotStep (.result m answer)) :
    ∃ v', (s.terminalVtStep (.result m answer)).vtView id = some v' ∧
      VtStep v (s.terminalVtEvent id (.result m answer)) v' := by
  rcases s.acceptResult_cases m answer with ⟨e, heq⟩ | ⟨l, r, hpass, hanswer, hledger⟩
  · refine ⟨v, ?_, ?_⟩
    · simpa only [terminalVtStep, heq] using hv
    · simp only [terminalVtEvent, heq]
      exact .idle
  · simp only [terminalVtStep, terminalVtEvent, hanswer]
    by_cases hid : m.workerId = id
    · subst hid
      obtain ⟨l₀, r₀, f, hl₀, hr₀, hf, rfl⟩ := vtView_eq_some hv
      cases hl₀.symm.trans hpass.ledger
      cases hr₀.symm.trans hpass.record
      have hagree := hok l r f hpass hf
      have hresult := vtResultOf_write r.operationLedger m.attemptId m.result
      rcases PersistentRecoveryLedger.write_outcomes hpass.record
          (.workerVtCleanupResult m.attemptId m.result) answer with
        hw | ⟨next, hnext, hfile, ⟨hdone, hget⟩ | ⟨hdone, hget⟩⟩
      · rw [hw] at hledger ⊢
        exact ⟨_, vtView_of_ledger hledger hr₀ hf, .idle⟩
      · refine ⟨_, vtView_of_ledger hledger hget hfile, ?_⟩
        rw [hdone, hnext.sequence, hnext.operations]
        simp only [if_true]
        exact VtStep.result (v := ⟨_, r.sequence, _⟩) hpass.intent hagree hresult
      · refine ⟨_, vtView_of_ledger hledger hget hfile, ?_⟩
        rw [hdone, hnext.operations]
        exact .resultNotSynced hpass.intent hagree hresult
    · refine ⟨v, vtView_of_other hv hpass.ledger hledger (Ne.symm hid), ?_⟩
      split
      · rw [if_neg hid]
        exact .idle
      · exact .idle

theorem vtStep_of_oneShot {s : SupervisorLoopState} {id : String} {v : VtView}
    {m : TerminalVtMessage} (hv : s.vtView id = some v) (hok : s.OneShotStep m) :
    ∃ v', (s.terminalVtStep m).vtView id = some v' ∧ VtStep v (s.terminalVtEvent id m) v' := by
  cases m with
  | intent m answer => exact vtStep_of_intent hv hok
  | result m answer => exact vtStep_of_result hv hok

def durableVt (s : SupervisorLoopState) (id : String) : Option DurableOperationState := do
  let l ← s.ledger
  let f ← l.file id
  some f.record.operationLedger.vtDisallocate

theorem durableVt_of_vtView {s : SupervisorLoopState} {id : String} {v : VtView}
    (h : s.vtView id = some v) : s.durableVt id = some v.file := by
  obtain ⟨l, r, f, hl, hr, hf, rfl⟩ := vtView_eq_some h
  simp [durableVt, hl, hf]

/-- The state in which the message number `n` is handled. -/
def terminalVtRun (s : SupervisorLoopState) (messages : List TerminalVtMessage) (n : Nat) :
    SupervisorLoopState := (messages.take n).foldl terminalVtStep s

structure OneShot (s : SupervisorLoopState) (id : String) (messages : List TerminalVtMessage) :
    Prop where
  moves : ∀ n, n < messages.length → ∃ d d', (s.terminalVtRun messages n).durableVt id = some d ∧
    (s.terminalVtRun messages (n + 1)).durableVt id = some d' ∧ VtMove d d'
  outstanding : ∀ n m a, messages[n]? = some m →
    (s.terminalVtRun messages n).terminalVtEvent id m = .reported a →
    (s.terminalVtRun messages n).durableVt id = some (.intentPersisted a)
  grantedOnce : ∀ i j m m' a b, i < j → messages[i]? = some m → messages[j]? = some m' →
    (s.terminalVtRun messages i).terminalVtEvent id m = .granted a →
    (s.terminalVtRun messages j).terminalVtEvent id m' ≠ .granted b
  neverReopened : ∀ i j m a, i < j → messages[i]? = some m →
    (s.terminalVtRun messages i).terminalVtEvent id m = .reported a →
    ∀ b, (s.terminalVtRun messages j).durableVt id ≠ some (.intentPersisted b)

section Runs
variable {s : SupervisorLoopState} {id : String} {messages : List TerminalVtMessage}

/-- What the view satisfies at one point and every step of the cleanup keeps. -/
theorem vtView_invariant (p : VtView → Prop) (hp : ∀ v e v', p v → VtStep v e v' → p v')
    (hm : StepsMeet terminalVtStep OneShotStep s messages) {i j : Nat} (hij : i ≤ j)
    (h : ∃ v, (s.terminalVtRun messages i).vtView id = some v ∧ p v) :
    ∃ v, (s.terminalVtRun messages j).vtView id = some v ∧ p v := by
  refine foldl_take_invariant (fun s => ∃ v, s.vtView id = some v ∧ p v) ?_ hm hij h
  rintro s m ⟨v, hv, hpv⟩ hok
  obtain ⟨v', hv', hstep⟩ := vtStep_of_oneShot hv hok
  exact ⟨v', hv', hp v _ v' hpv hstep⟩

theorem terminalVtRun_succ {n : Nat} {m : TerminalVtMessage} (h : messages[n]? = some m) :
    s.terminalVtRun messages (n + 1) = (s.terminalVtRun messages n).terminalVtStep m :=
  foldl_take_succ h s

/-- Over every order of the two messages, from a record that memory and file agree about. -/
theorem terminal_vt_cleanup_oneShot (s : SupervisorLoopState) (id : String)
    (messages : List TerminalVtMessage) (d : DurableOperationState) (sequence : Nat)
    (hstart : s.vtView id = some ⟨d, sequence, d⟩)
    (hm : StepsMeet terminalVtStep OneShotStep s messages) : s.OneShot id messages := by
  have hagrees : ∀ n, ∃ v, (s.terminalVtRun messages n).vtView id = some v ∧ v.Agrees := fun n =>
    vtView_invariant VtView.Agrees (fun _ _ _ hv h => h.agrees hv) hm (Nat.zero_le n)
      ⟨_, hstart, Or.inl rfl⟩
  have hstep : ∀ n m, messages[n]? = some m → ∃ v v',
      (s.terminalVtRun messages n).vtView id = some v ∧ v.Agrees ∧
      (s.terminalVtRun messages (n + 1)).vtView id = some v' ∧
      VtStep v ((s.terminalVtRun messages n).terminalVtEvent id m) v' := by
    intro n m h
    obtain ⟨v, hv, hva⟩ := hagrees n
    obtain ⟨v', hv', hvt⟩ := vtStep_of_oneShot hv (stepsMeet_getElem hm h)
    exact ⟨v, v', hv, hva, by rw [terminalVtRun_succ h]; exact hv', hvt⟩
  refine ⟨?_, ?_, ?_, ?_⟩
  · intro n hn
    obtain ⟨v, v', hv, hva, hv', hvt⟩ := hstep n _ (List.getElem?_eq_getElem hn)
    exact ⟨v.file, v'.file, durableVt_of_vtView hv, durableVt_of_vtView hv', hvt.move hva⟩
  · intro n m a h hevent
    obtain ⟨v, v', hv, -, -, hvt⟩ := hstep n m h
    rw [hevent] at hvt
    cases hvt with
    | result hmem hfile hd => rw [durableVt_of_vtView hv, hfile, hmem]
  · intro i j m m' a b hij h h' hevent hevent'
    obtain ⟨v, v', -, -, hv', hvt⟩ := hstep i m h
    rw [hevent] at hvt
    have hstarted : v'.memory ≠ .notStarted := by
      cases hvt with
      | intent hmem => exact nofun
    -- an intent needs a fresh state, and after the first one there is none
    obtain ⟨u, hu, hus⟩ := vtView_invariant (fun v => v.memory ≠ .notStarted)
      (fun _ _ _ hv h => h.started hv) hm (Nat.succ_le_of_lt hij) ⟨v', hv', hstarted⟩
    obtain ⟨u₀, u', hu₀, -, -, hut⟩ := hstep j m' h'
    cases hu.symm.trans hu₀
    rw [hevent'] at hut
    cases hut with
    | intent hmem => exact hus hmem
  · intro i j m a hij h hevent b
    obtain ⟨v, v', -, -, hv', hvt⟩ := hstep i m h
    rw [hevent] at hvt
    have hdecided : VtResultOf a v'.memory ∧ VtResultOf a v'.file := by
      cases hvt with
      | result hmem hfile hd => exact ⟨hd, hd⟩
    -- a result stays, so no later state is that of an intent
    obtain ⟨u, hu, hud⟩ := vtView_invariant
      (fun v => VtResultOf a v.memory ∧ VtResultOf a v.file)
      (fun v _ v' hv h => h.decided hv.1 ▸ hv) hm (Nat.succ_le_of_lt hij) ⟨v', hv', hdecided⟩
    rw [durableVt_of_vtView hu]
    intro heq
    have hfile := hud.2
    rw [Option.some.inj heq] at hfile
    rcases hfile with h | h <;> cases h

end Runs

section Sample

/-- The supervisor with one running worker, whose record has sequence 3. -/
def afterLogin : SupervisorLoopState :=
  (sampleLogin.foldl SupervisorWorld.step (.new 1 (some {}) none)).loop

def sampleIntent : TerminalVtMessage :=
  .intent ⟨"worker-a", 4711, "nonce", samplePayload.identity⟩ ⟨some "boot", .synced⟩

def sampleReport (attemptId : Nat) : TerminalVtMessage :=
  .result ⟨"worker-a", 4711, "nonce", attemptId, .released⟩ ⟨some "boot", .synced⟩

theorem reportedCleanup_oneShot :
    StepsMeet terminalVtStep OneShotStep afterLogin [sampleIntent, sampleReport 4] ∧
      afterLogin.OneShot "worker-a" [sampleIntent, sampleReport 4] := by
  have hmeets : StepsMeet terminalVtStep OneShotStep afterLogin [sampleIntent, sampleReport 4] := by
    refine ⟨fun l r hpass => ?_, fun l r f hpass hfile => ?_, trivial⟩
    · cases hpass.ledger
      cases hpass.record
      rfl
    · cases hpass.ledger
      cases hpass.record
      cases hfile
      rfl
  exact ⟨hmeets, terminal_vt_cleanup_oneShot afterLogin "worker-a" _ .notStarted 3 rfl hmeets⟩

/-- A second intent before the first is answered reopens the operation for another attempt. -/
theorem repeatedIntent_not_oneShot :
    afterLogin.vtView "worker-a" = some ⟨.notStarted, 3, .notStarted⟩ ∧
      ¬afterLogin.OneShot "worker-a" [sampleIntent, sampleIntent] := by
  refine ⟨rfl, fun h => ?_⟩
  exact h.grantedOnce 0 1 _ _ 4 5 Nat.one_pos rfl rfl rfl rfl

end Sample

end SupervisorLoopState

end Niralis
