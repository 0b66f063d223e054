import Niralis.ClientProtocol
import Niralis.KeyedTable
import Niralis.WorkerMessages

namespace Niralis

structure TransactionKey where
  connectionId : String
  epoch : Nat
  requestId : Nat
  seat : String
  deriving DecidableEq, Repr

inductive TransactionState
  | preCommit | committed
  deriving DecidableEq, Repr

abbrev TransactionTable := KeyedTable TransactionKey TransactionState

namespace TransactionKey

def Of (k : TransactionKey) (a : GreeterConnectionAuthority) : Bool :=
  k.connectionId = a.connectionId && k.epoch = a.connectionEpoch && k.seat = a.seat

def binding (k : TransactionKey) : LoginRequestBinding where
  connectionId := k.connectionId
  connectionEpoch := k.epoch
  requestId := k.requestId
  seat := k.seat

end TransactionKey

namespace TransactionTable

def key (b : LoginRequestBinding) : TransactionKey where
  connectionId := b.connectionId
  epoch := b.connectionEpoch
  requestId := b.requestId
  seat := b.seat

def begin (table : TransactionTable) (b : LoginRequestBinding) : TransactionTable :=
  table.insert (key b) .preCommit

def finish (table : TransactionTable) (b : LoginRequestBinding) (committed : Bool) : TransactionTable :=
  if committed then table.insert (key b) .committed else table.remove (key b)

/-- The bindings that the backend is told to cancel, and the table without them. -/
def disconnect (table : TransactionTable) (a : GreeterConnectionAuthority) :
    List LoginRequestBinding × TransactionTable :=
  let cancelled := table.entries.filter fun entry => entry.2 = .preCommit && entry.1.Of a
  (cancelled.map fun entry => entry.1.binding,
    table.retain fun k state => !(k.Of a && state = .preCommit))

def cancel (table : TransactionTable) (a : GreeterConnectionAuthority) (target : Nat) :
    NiralisResponse × TransactionTable :=
  let b : LoginRequestBinding := { connectionId := a.connectionId
                                   connectionEpoch := a.connectionEpoch
                                   requestId := target
                                   seat := a.seat }
  let removed : Bool := table.get (key b) = some .preCommit
  (if removed then .error "login cancelled" else .error "request is not cancellable",
    table.remove (key b))

end TransactionTable

/-- The steps that calls of the handler make on the table. A connection's login begins and ends;
what the backend does between decides only how it ends. -/
inductive TableStep
  | begin (a : GreeterConnectionAuthority) (requestId : Nat)
  | finish (a : GreeterConnectionAuthority) (requestId : Nat) (committed : Bool)
  | cancel (a : GreeterConnectionAuthority) (target : Nat)
  | connectionClosed (a : GreeterConnectionAuthority)
  deriving DecidableEq, Repr

/-- The table, and the login calls that have begun and not returned. A login takes the table's lock
when it begins and when it ends, with the launch between. -/
structure LoginTransactions where
  table : TransactionTable
  calls : List TransactionKey

namespace GreeterConnectionAuthority

def loginBinding (a : GreeterConnectionAuthority) (requestId : Nat) : LoginRequestBinding where
  connectionId := a.connectionId
  connectionEpoch := a.connectionEpoch
  requestId := requestId
  seat := a.seat

def loginKey (a : GreeterConnectionAuthority) (requestId : Nat) : TransactionKey :=
  TransactionTable.key (a.loginBinding requestId)

end GreeterConnectionAuthority

namespace TableStep

def authority : TableStep → GreeterConnectionAuthority
  | begin a _ | finish a _ _ | cancel a _ | connectionClosed a => a

end TableStep

namespace LoginTransactions

def new : LoginTransactions where
  table := .empty
  calls := []

def step (s : LoginTransactions) : TableStep → LoginTransactions
  | .begin a requestId =>
    { table := s.table.begin (a.loginBinding requestId), calls := a.loginKey requestId :: s.calls }
  | .finish a requestId committed =>
    -- only a call that has begun ends
    if a.loginKey requestId ∈ s.calls then
      { table := s.table.finish (a.loginBinding requestId) committed
        calls := s.calls.erase (a.loginKey requestId) }
    else s
  | .cancel a target => { s with table := (s.table.cancel a target).2 }
  | .connectionClosed a => { s with table := (s.table.disconnect a).2 }

def run (steps : List TableStep) : LoginTransactions := steps.foldl step new

def answer (s : LoginTransactions) (a : GreeterConnectionAuthority) (target : Nat) :
    NiralisResponse := (s.table.cancel a target).1

variable {s : LoginTransactions} {a : GreeterConnectionAuthority} {k : TransactionKey}

@[simp] theorem loginKey_of (a : GreeterConnectionAuthority) (requestId : Nat) :
    (a.loginKey requestId).Of a := by
  simp [TransactionKey.Of, GreeterConnectionAuthority.loginKey, TransactionTable.key,
    GreeterConnectionAuthority.loginBinding]

theorem ne_loginKey (h : ¬k.Of a) (requestId : Nat) : k ≠ a.loginKey requestId := by
  rintro rfl
  exact h (loginKey_of a requestId)

theorem step_begin (requestId : Nat) :
    (s.step (.begin a requestId)).table.get k =
      if k = a.loginKey requestId then some .preCommit else s.table.get k := by
  split_ifs with h
  · rw [h]
    exact KeyedTable.get_insert_self _ _ _
  · exact KeyedTable.get_insert_of_ne h

theorem step_finish (requestId : Nat) (committed : Bool) :
    (s.step (.finish a requestId committed)).table.get k =
      if k = a.loginKey requestId ∧ k ∈ s.calls then (if committed then some .committed else none)
      else s.table.get k := by
  by_cases hcall : a.loginKey requestId ∈ s.calls
  · have hstep : (s.step (.finish a requestId committed)).table =
        s.table.finish (a.loginBinding requestId) committed := by rw [step, if_pos hcall]
    rw [hstep, TransactionTable.finish]
    by_cases hk : k = a.loginKey requestId
    · have hhere : k = a.loginKey requestId ∧ k ∈ s.calls := ⟨hk, hk ▸ hcall⟩
      rw [if_pos hhere, hk]
      cases committed
      · exact KeyedTable.get_remove_self _ _
      · exact KeyedTable.get_insert_self _ _ _
    · have hother : ¬(k = a.loginKey requestId ∧ k ∈ s.calls) := fun h => hk h.1
      rw [if_neg hother]
      cases committed
      · exact KeyedTable.get_remove_of_ne hk
      · exact KeyedTable.get_insert_of_ne hk
  · have hstep : s.step (.finish a requestId committed) = s := by rw [step, if_neg hcall]
    rw [hstep, if_neg]
    rintro ⟨rfl, h⟩
    exact hcall h

theorem step_cancel (target : Nat) :
    (s.step (.cancel a target)).table.get k =
      if k = a.loginKey target then none else s.table.get k := by
  split_ifs with h
  · rw [h]
    exact KeyedTable.get_remove_self _ _
  · exact KeyedTable.get_remove_of_ne h

theorem step_connectionClosed :
    (s.step (.connectionClosed a)).table.get k =
      if k.Of a ∧ s.table.get k = some .preCommit then none else s.table.get k := by
  show (s.table.retain _).get k = _
  rw [KeyedTable.get_retain]
  by_cases hk : k.Of a
  · cases s.table.get k with
    | none => simp
    | some state => cases state <;> simp [hk]
  · cases s.table.get k <;> simp [hk]

theorem answer_eq (a : GreeterConnectionAuthority) (target : Nat) :
    s.answer a target = if s.table.get (a.loginKey target) = some .preCommit then
      .error "login cancelled" else .error "request is not cancellable" := by
  simp only [answer, TransactionTable.cancel, decide_eq_true_eq]
  rfl

theorem step_other (x : TableStep) (h : ¬k.Of x.authority) :
    (s.step x).table.get k = s.table.get k := by
  cases x with
  | begin a requestId =>
    have hne : k ≠ a.loginKey requestId := ne_loginKey h requestId
    rw [step_begin, if_neg hne]
  | finish a requestId committed =>
    have hne : k ≠ a.loginKey requestId := ne_loginKey h requestId
    rw [step_finish, if_neg fun hk => hne hk.1]
  | cancel a target =>
    have hne : k ≠ a.loginKey target := ne_loginKey h target
    rw [step_cancel, if_neg hne]
  | connectionClosed a => rw [step_connectionClosed, if_neg fun hk => h hk.1]

/-- An entry that may still be cancelled belongs to a call that has not returned. -/
def Pending (s : LoginTransactions) : Prop := ∀ k, s.table.get k = some .preCommit → k ∈ s.calls

theorem step_pending (hs : s.Pending) (x : TableStep) : (s.step x).Pending := by
  intro k hk
  cases x with
  | begin a requestId =>
    rw [step_begin] at hk
    split_ifs at hk with hkey
    · exact hkey ▸ List.mem_cons_self
    · exact List.mem_cons_of_mem _ (hs k hk)
  | finish a requestId committed =>
    rw [step_finish] at hk
    by_cases hkey : k = a.loginKey requestId ∧ k ∈ s.calls
    · rw [if_pos hkey] at hk
      cases committed <;> simp at hk
    · rw [if_neg hkey] at hk
      have hcall := hs k hk
      have hne : k ≠ a.loginKey requestId := fun h => hkey ⟨h, hcall⟩
      unfold step
      dsimp only
      split_ifs
      · exact (List.mem_erase_of_ne hne).mpr hcall
      · exact hcall
  | cancel a target =>
    rw [step_cancel] at hk
    split_ifs at hk
    exact hs k hk
  | connectionClosed a =>
    rw [step_connectionClosed] at hk
    split_ifs at hk
    exact hs k hk

/-- An entry is committed by the end of a login that answered `LoginOk`, and by nothing else. -/
theorem step_committed {x : TableStep} (hbefore : s.table.get k ≠ some .committed)
    (hafter : (s.step x).table.get k = some .committed) :
    ∃ a requestId, x = .finish a requestId true ∧ k = a.loginKey requestId ∧ k ∈ s.calls := by
  cases x with
  | begin a requestId =>
    rw [step_begin] at hafter
    split_ifs at hafter
    · cases hafter
    · exact absurd hafter hbefore
  | finish a requestId committed =>
    rw [step_finish] at hafter
    by_cases hkey : k = a.loginKey requestId ∧ k ∈ s.calls
    · rw [if_pos hkey] at hafter
      cases committed
      · simp at hafter
      · exact ⟨a, requestId, rfl, hkey⟩
    · rw [if_neg hkey] at hafter
      exact absurd hafter hbefore
  | cancel a target =>
    rw [step_cancel] at hafter
    split_ifs at hafter
    exact absurd hafter hbefore
  | connectionClosed a =>
    rw [step_connectionClosed] at hafter
    split_ifs at hafter
    exact absurd hafter hbefore

theorem run_pending (steps : List TableStep) : (run steps).Pending := by
  have hmeets : StepsMeet step (fun _ _ => True) new steps :=
    stepsMeet_of_forall (fun _ _ => trivial) _ _
  exact foldl_invariant Pending (fun _ x hs _ => step_pending hs x) steps new
    (fun k hk => by simp [new] at hk) hmeets

/-- What is committed at the end and was not at the start was committed on the way. -/
theorem steps_committed {steps : List TableStep} (hbefore : s.table.get k ≠ some .committed)
    (hafter : (steps.foldl step s).table.get k = some .committed) :
    ∃ n a requestId, steps[n]? = some (.finish a requestId true) ∧ k = a.loginKey requestId ∧
      k ∈ ((steps.take n).foldl step s).calls := by
  obtain ⟨n, x, hx, hnot, hthen⟩ := exists_step_of_change
    (P := fun s : LoginTransactions => s.table.get k = some .committed) hbefore hafter
  obtain ⟨a, requestId, rfl, hkey, hcall⟩ := step_committed hnot hthen
  exact ⟨n, a, requestId, hx, hkey, hcall⟩

theorem authority_of_loginKey {b : GreeterConnectionAuthority} {requestId : Nat}
    (h : (b.loginKey requestId).Of a) : b = a := by
  rw [TransactionKey.Of, Bool.and_eq_true, Bool.and_eq_true] at h
  have hid : b.connectionId = a.connectionId := of_decide_eq_true h.1.1
  have hepoch : b.connectionEpoch = a.connectionEpoch := of_decide_eq_true h.1.2
  have hseat : b.seat = a.seat := of_decide_eq_true h.2
  cases a
  cases b
  cases hid
  cases hepoch
  cases hseat
  rfl

/-- A cancel finds a login that may still be cancelled or refuses; the end of a connection takes
what could still be cancelled; what is left once every call of a connection has returned was
committed; and connections do not touch each other's entries. -/
theorem login_table_kept (steps : List TableStep) :
    let s := run steps
    (∀ a target, (s.answer a target = .error "login cancelled" ↔
        s.table.get (a.loginKey target) = some .preCommit) ∧
      (s.answer a target = .error "login cancelled" →
        (s.step (.cancel a target)).table.get (a.loginKey target) = none ∧
        ∀ more : List TableStep, (more.foldl step (s.step (.cancel a target))).table.get (a.loginKey target) =
          some .committed → ∃ n : Nat, more[n]? = some (.finish a target true) ∧
            a.loginKey target ∈ ((more.take n).foldl step (s.step (.cancel a target))).calls) ∧
      (s.table.get (a.loginKey target) = none →
        s.answer a target = .error "request is not cancellable" ∧
        ∀ k, (s.step (.cancel a target)).table.get k = s.table.get k)) ∧
      (∀ a k, (s.step (.connectionClosed a)).table.get k =
        if k.Of a ∧ s.table.get k = some .preCommit then none else s.table.get k) ∧
      (∀ a, (∀ k ∈ s.calls, ¬k.Of a) → ∀ k, k.Of a → ∀ state, s.table.get k = some state →
        state = .committed ∧ ∃ (n requestId : Nat), k = a.loginKey requestId ∧
          steps[n]? = some (.finish a requestId true)) ∧
      ∀ x k, ¬k.Of x.authority → (s.step x).table.get k = s.table.get k := by
  intro s
  have hcancelled : ∀ a target, s.answer a target = .error "login cancelled" ↔
      s.table.get (a.loginKey target) = some .preCommit := by
    intro a target
    rw [answer_eq]
    split_ifs with h <;> simp [h]
  refine ⟨fun a target => ⟨hcancelled a target, fun _ => ?_, fun hnone => ?_⟩, ?_, ?_, ?_⟩
  · have hgone : (s.step (.cancel a target)).table.get (a.loginKey target) = none := by
      rw [step_cancel, if_pos rfl]
    refine ⟨hgone, fun more hafter => ?_⟩
    -- only a call that was still running can commit the key again
    obtain ⟨n, b, requestId, hfinish, hkey, hcall⟩ :=
      steps_committed (by rw [hgone]; simp) hafter
    have hof : (b.loginKey requestId).Of a := by rw [← hkey]; simp
    have hsame : b = a := authority_of_loginKey hof
    subst hsame
    have hid : target = requestId := congrArg TransactionKey.requestId hkey
    subst hid
    exact ⟨n, hfinish, hcall⟩
  · refine ⟨?_, fun k => ?_⟩
    · rw [answer_eq, hnone, if_neg (by simp)]
    · rw [step_cancel]
      split_ifs with hk
      · rw [hk, hnone]
      · rfl
  · exact fun a k => step_connectionClosed
  · intro a hreturned k hk state hstate
    cases state with
    | preCommit => exact absurd hk (hreturned k (run_pending steps k hstate))
    | committed =>
      obtain ⟨n, b, requestId, hfinish, rfl, hcall⟩ :=
        steps_committed (s := new) (by simp [new]) hstate
      have hsame : b = a := authority_of_loginKey hk
      subst hsame
      exact ⟨rfl, n, requestId, rfl, hfinish⟩
  · exact fun x k h => step_other x h

/-- A login that was answered as cancelled is committed by its end; the entry of a login that
succeeded outlives its connection; and a refused cancel takes such an entry away. -/
theorem login_table_slips :
    ((run [.begin sampleConnection 1]).answer sampleConnection 1 = .error "login cancelled" ∧
      (run [.begin sampleConnection 1, .cancel sampleConnection 1,
        .finish sampleConnection 1 true]).table.get (sampleConnection.loginKey 1) =
          some .committed) ∧
    ((run [.begin sampleConnection 1, .finish sampleConnection 1 true,
        .connectionClosed sampleConnection]).calls = [] ∧
      (run [.begin sampleConnection 1, .finish sampleConnection 1 true,
        .connectionClosed sampleConnection]).table.get (sampleConnection.loginKey 1) =
          some .committed) ∧
    (run [.begin sampleConnection 1, .finish sampleConnection 1 true]).answer sampleConnection 1 =
      .error "request is not cancellable" ∧
    (run [.begin sampleConnection 1, .finish sampleConnection 1 true]).table.get
      (sampleConnection.loginKey 1) = some .committed ∧
    (run [.begin sampleConnection 1, .finish sampleConnection 1 true,
      .cancel sampleConnection 1]).table.get (sampleConnection.loginKey 1) = none := by
  decide

end LoginTransactions

end Niralis
