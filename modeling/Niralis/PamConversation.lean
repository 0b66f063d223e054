import Niralis.GreeterProtocol
import Niralis.Machine
import Niralis.Runs

namespace Niralis

inductive PamConversationError
  | invalidIdentity | invalidSequence | invalidPrompt | duplicatePrompt | promptAlreadyPending
  | unknownPrompt | incompatibleResponse | conversationConsumed | deadlineExpired
  deriving DecidableEq, Repr

structure PamConversationAuthority where
  transactionId : String
  admissionAttemptId : Nat
  lifecycleId : String
  seat : String
  seatGeneration : Nat
  connectionId : String
  connectionEpoch : Nat
  requestId : Nat
  workerId : String
  conversationId : String
  nextSequence : Nat
  deadline : Nat
  consumed : Bool
  pending : Option (Nat × PamMessageStyle × Nat)
  deriving DecidableEq, Repr

namespace PamConversationAuthority

def issue (transactionId : String) (admissionAttemptId : Nat) (lifecycleId seat : String)
    (seatGeneration : Nat) (connectionId : String) (connectionEpoch requestId : Nat)
    (workerId conversationId : String) (deadline : Nat) :
    Except PamConversationError PamConversationAuthority :=
  if transactionId = "" ∨ admissionAttemptId = 0 ∨ lifecycleId = "" ∨ seat = "" ∨
      seatGeneration = 0 ∨ connectionId = "" ∨ connectionEpoch = 0 ∨ requestId = 0 ∨
      workerId = "" ∨ conversationId = "" then .error .invalidIdentity
  else .ok { transactionId, admissionAttemptId, lifecycleId, seat, seatGeneration, connectionId,
             connectionEpoch, requestId, workerId, conversationId, nextSequence := 1, deadline,
             consumed := false, pending := none }

/-- The conversation, connection, request, seat and transaction of an envelope are these. -/
def binds (a : PamConversationAuthority) (i : PamEnvelopeIdentity) : Bool :=
  i.conversationId = a.conversationId && i.connectionId = a.connectionId &&
    i.connectionEpoch = a.connectionEpoch && i.requestId = a.requestId && i.seat = a.seat &&
    i.transactionId = a.transactionId

def expired (a : PamConversationAuthority) (now : Nat) : Bool := a.deadline ≤ now

def consume (a : PamConversationAuthority) : PamConversationAuthority := { a with consumed := true }

def fail (a : PamConversationAuthority) : PamConversationAuthority := a.consume

def authenticated (a : PamConversationAuthority) (now : Nat) :
    Except PamConversationError Unit × PamConversationAuthority :=
  if a.consumed then (.error .conversationConsumed, a)
  else if a.expired now then (.error .deadlineExpired, a.consume)
  else (.ok (), a.consume)

def acceptWirePrompt (a : PamConversationAuthority) (now : Nat) (prompt : PamPromptEnvelope) :
    Except PamConversationError Unit × PamConversationAuthority :=
  if a.consumed || a.expired now then (.error .conversationConsumed, a.consume)
  else if !a.binds prompt.toPamEnvelopeIdentity || prompt.sequence ≠ a.nextSequence ||
      prompt.promptId = 0 || a.pending.isSome then (.error .invalidSequence, a)
  else (.ok (), { a with nextSequence := wrappingAdd a.nextSequence 1
                         pending := some (prompt.promptId, prompt.style, prompt.sequence) })

def acceptWireResponse (a : PamConversationAuthority) (now : Nat)
    (response : PamPromptResponseEnvelope) :
    Except PamConversationError Unit × PamConversationAuthority :=
  if a.consumed || a.expired now then (.error .conversationConsumed, a.consume)
  else match a.pending with
    | none => (.error .unknownPrompt, a)
    | some (promptId, style, sequence) =>
      if !a.binds response.toPamEnvelopeIdentity || response.promptId ≠ promptId ||
          response.style ≠ style || response.sequence ≠ sequence then
        (.error .incompatibleResponse, a)
      else (.ok (), { a with pending := none })

end PamConversationAuthority

inductive ConversationStep
  | prompt (envelope : PamPromptEnvelope)
  | response (envelope : PamPromptResponseEnvelope)
  | fail
  | authenticated

namespace PamConversationAuthority

def take (a : PamConversationAuthority) (event : Nat × ConversationStep) :
    Except PamConversationError Unit × PamConversationAuthority :=
  match event.2 with
  | .prompt envelope => a.acceptWirePrompt event.1 envelope
  | .response envelope => a.acceptWireResponse event.1 envelope
  | .fail => (.ok (), a.fail)
  | .authenticated => a.authenticated event.1

def step (a : PamConversationAuthority) (event : Nat × ConversationStep) :
    PamConversationAuthority := (a.take event).2

end PamConversationAuthority

inductive Exchange
  | prompt (envelope : PamPromptEnvelope)
  | response (envelope : PamPromptResponseEnvelope)

def Exchange.promptSequence? : Exchange → Option Nat
  | prompt envelope => some envelope.sequence
  | response _ => none

/-- The prompt or answer of the message, when it was accepted. -/
def exchangeOf (event : Nat × ConversationStep) :
    Except PamConversationError Unit → Option Exchange
  | .error _ => none
  | .ok () =>
    match event.2 with
    | .prompt envelope => some (.prompt envelope)
    | .response envelope => some (.response envelope)
    | .fail | .authenticated => none

/-- What the conversation accepts, in the order it does. -/
def exchanges (a : PamConversationAuthority) : List (Nat × ConversationStep) → List Exchange
  | [] => []
  | event :: events =>
    (exchangeOf event (a.take event).1).toList ++ exchanges (a.step event) events

/-- Prompts and answers by turns, each answer to the prompt right before it: `waiting` is the
prompt that has no answer yet. -/
def Alternating : Option PamEnvelopeIdentity → List Exchange → Prop
  | _, [] => True
  | none, .prompt p :: rest => Alternating (some p.toPamEnvelopeIdentity) rest
  | some waiting, .response r :: rest =>
    r.toPamEnvelopeIdentity = waiting ∧ Alternating none rest
  | none, .response _ :: _ => False
  | some _, .prompt _ :: _ => False

def promptSequences (log : List Exchange) : List Nat := log.filterMap Exchange.promptSequence?

namespace PamConversationAuthority
variable {a : PamConversationAuthority}

/-- The prompt that has no answer yet is the one the conversation remembers. -/
def Waits (a : PamConversationAuthority) (waiting : Option PamEnvelopeIdentity) : Prop :=
  a.pending = waiting.map (fun i => (i.promptId, i.style, i.sequence)) ∧
    ∀ i, waiting = some i → a.binds i = true

theorem binds_unique {i j : PamEnvelopeIdentity} (hi : a.binds i = true) (hj : a.binds j = true)
    (hprompt : i.promptId = j.promptId) (hstyle : i.style = j.style)
    (hsequence : i.sequence = j.sequence) : i = j := by
  simp only [binds, Bool.and_eq_true, decide_eq_true_eq] at hi hj
  obtain ⟨⟨⟨⟨⟨hi₁, hi₂⟩, hi₃⟩, hi₄⟩, hi₅⟩, hi₆⟩ := hi
  obtain ⟨⟨⟨⟨⟨hj₁, hj₂⟩, hj₃⟩, hj₄⟩, hj₅⟩, hj₆⟩ := hj
  cases i
  cases j
  simp_all

/-- What an accepted prompt says about the conversation before it, and leaves behind. -/
theorem acceptWirePrompt_ok {now : Nat} {p : PamPromptEnvelope}
    (h : (a.acceptWirePrompt now p).1 = .ok ()) :
    a.consumed = false ∧ now < a.deadline ∧ a.binds p.toPamEnvelopeIdentity = true ∧
      p.sequence = a.nextSequence ∧ a.pending = none ∧
      (a.acceptWirePrompt now p).2 = { a with
        nextSequence := wrappingAdd a.nextSequence 1
        pending := some (p.promptId, p.style, p.sequence) } := by
  unfold acceptWirePrompt at h ⊢
  split at h
  · cases h
  · rename_i hopen
    split at h
    · cases h
    · rename_i hfits
      rw [if_neg hopen, if_neg hfits]
      simp [expired] at hopen hfits
      exact ⟨hopen.1, hopen.2, hfits.1.1.1, hfits.1.1.2, hfits.2, rfl⟩

theorem acceptWireResponse_ok {now : Nat} {r : PamPromptResponseEnvelope}
    (h : (a.acceptWireResponse now r).1 = .ok ()) :
    a.consumed = false ∧ now < a.deadline ∧ a.binds r.toPamEnvelopeIdentity = true ∧
      a.pending = some (r.promptId, r.style, r.sequence) ∧
      (a.acceptWireResponse now r).2 = { a with pending := none } := by
  unfold acceptWireResponse at h ⊢
  split at h
  · cases h
  · rename_i hopen
    rw [if_neg hopen]
    simp [expired] at hopen
    cases hpending : a.pending with
    | none => simp [hpending] at h
    | some waiting =>
      obtain ⟨promptId, style, sequence⟩ := waiting
      simp only [hpending] at h ⊢
      split at h
      · cases h
      · rename_i hfits
        rw [if_neg hfits]
        simp at hfits
        obtain ⟨⟨⟨hbinds, rfl⟩, rfl⟩, rfl⟩ := hfits
        exact ⟨hopen.1, hopen.2, hbinds, rfl, rfl⟩

theorem acceptWirePrompt_of {now : Nat} {p : PamPromptEnvelope} (hopen : a.consumed = false)
    (htime : now < a.deadline) (hbinds : a.binds p.toPamEnvelopeIdentity = true)
    (hsequence : p.sequence = a.nextSequence) (hid : p.promptId ≠ 0) (hpending : a.pending = none) :
    a.acceptWirePrompt now p = (.ok (), { a with
      nextSequence := wrappingAdd a.nextSequence 1
      pending := some (p.promptId, p.style, p.sequence) }) := by
  simp [acceptWirePrompt, expired, hopen, htime, hbinds, hsequence, hid, hpending]

theorem acceptWireResponse_of {now : Nat} {r : PamPromptResponseEnvelope}
    (hopen : a.consumed = false) (htime : now < a.deadline)
    (hbinds : a.binds r.toPamEnvelopeIdentity = true)
    (hpending : a.pending = some (r.promptId, r.style, r.sequence)) :
    a.acceptWireResponse now r = (.ok (), { a with pending := none }) := by
  simp [acceptWireResponse, expired, hopen, htime, hbinds, hpending]

theorem consume_of_consumed (h : a.consumed = true) : a.consume = a := by
  cases a
  simp_all [consume]

/-- A refused message changes nothing, but one that comes too late ends the conversation. -/
theorem step_of_error {event : Nat × ConversationStep} {e : PamConversationError}
    (h : (a.take event).1 = .error e) :
    a.step event = if a.deadline ≤ event.1 then a.consume else a := by
  obtain ⟨now, message⟩ := event
  -- an error consumes the conversation at its deadline, and only then
  have hclosed : (a.consumed || a.expired now) = true →
      a.consume = if a.deadline ≤ now then a.consume else a := by
    intro hor
    rcases Bool.or_eq_true_iff.mp hor with hc | he
    · rw [consume_of_consumed hc, ite_self]
    · rw [if_pos (of_decide_eq_true he)]
  have hopen : ¬(a.consumed || a.expired now) = true →
      a = if a.deadline ≤ now then a.consume else a := by
    intro hor
    rw [if_neg fun hdeadline => hor (Bool.or_eq_true_iff.mpr (Or.inr (decide_eq_true hdeadline)))]
  cases message with
  | prompt p =>
    simp only [take, step, acceptWirePrompt] at h ⊢
    split
    · rename_i hor
      exact hclosed hor
    · rename_i hor
      split
      · exact hopen hor
      · rename_i hfits
        rw [if_neg hor, if_neg hfits] at h
        cases h
  | response r =>
    simp only [take, step, acceptWireResponse] at h ⊢
    split
    · rename_i hor
      exact hclosed hor
    · rename_i hor
      cases hpending : a.pending with
      | none => exact hopen hor
      | some waiting =>
        simp only [hpending] at h ⊢
        split
        · exact hopen hor
        · rename_i hfits
          rw [if_neg hor, if_neg hfits] at h
          cases h
  | fail => cases h
  | authenticated =>
    simp only [take, step, authenticated] at h ⊢
    split
    · rename_i hc
      rw [consume_of_consumed hc, ite_self]
    · rename_i hc
      split
      · rename_i he
        exact (if_pos (of_decide_eq_true he)).symm
      · rename_i he
        rw [if_neg hc, if_neg he] at h
        cases h

/-- The conversation is over after `fail`, and also after `authenticated`, whether that succeeds or not. -/
theorem step_of_end {event : Nat × ConversationStep}
    (h : event.2 = .fail ∨ event.2 = .authenticated) : a.step event = a.consume := by
  obtain ⟨now, message⟩ := event
  rcases h with rfl | rfl
  · rfl
  · simp only [take, step, authenticated]
    split
    · rename_i hc
      exact (consume_of_consumed hc).symm
    · split <;> rfl

/-- A message is an accepted prompt, an accepted answer, or nothing but perhaps the end. -/
theorem take_cases (a : PamConversationAuthority) (event : Nat × ConversationStep) :
    (∃ p, exchangeOf event (a.take event).1 = some (.prompt p) ∧ p.sequence = a.nextSequence ∧
      a.binds p.toPamEnvelopeIdentity = true ∧ a.pending = none ∧
      a.step event = { a with nextSequence := wrappingAdd a.nextSequence 1
                              pending := some (p.promptId, p.style, p.sequence) }) ∨
    (∃ r, exchangeOf event (a.take event).1 = some (.response r) ∧
      a.binds r.toPamEnvelopeIdentity = true ∧
      a.pending = some (r.promptId, r.style, r.sequence) ∧
      a.step event = { a with pending := none }) ∨
    exchangeOf event (a.take event).1 = none ∧ (a.step event = a ∨ a.step event = a.consume) := by
  cases h : (a.take event).1 with
  | error e =>
    refine Or.inr (Or.inr ⟨rfl, ?_⟩)
    rw [step_of_error h]
    split
    · exact Or.inr rfl
    · exact Or.inl rfl
  | ok done =>
    obtain ⟨now, message⟩ := event
    cases message with
    | prompt p =>
      obtain ⟨-, -, hbinds, hsequence, hpending, hnext⟩ := acceptWirePrompt_ok h
      exact Or.inl ⟨p, rfl, hsequence, hbinds, hpending, hnext⟩
    | response r =>
      obtain ⟨-, -, hbinds, hpending, hnext⟩ := acceptWireResponse_ok h
      exact Or.inr (Or.inl ⟨r, rfl, hbinds, hpending, hnext⟩)
    | fail => exact Or.inr (Or.inr ⟨rfl, Or.inr rfl⟩)
    | authenticated => exact Or.inr (Or.inr ⟨rfl, Or.inr (step_of_end (Or.inr rfl))⟩)

theorem Waits.none_of_pending {waiting : Option PamEnvelopeIdentity} (h : a.Waits waiting)
    (hpending : a.pending = none) : waiting = none := by
  rw [h.1] at hpending
  exact Option.map_eq_none_iff.mp hpending

theorem Waits.alternating_exchanges {waiting : Option PamEnvelopeIdentity} (h : a.Waits waiting)
    (events : List (Nat × ConversationStep)) : Alternating waiting (exchanges a events) := by
  induction events generalizing a waiting with
  | nil => cases waiting <;> trivial
  | cons event events ih =>
    rw [exchanges]
    rcases take_cases a event with ⟨p, hlog, -, hbinds, hpending, hstep⟩ |
      ⟨r, hlog, hbinds, hpending, hstep⟩ | ⟨hlog, hstep⟩
    · obtain rfl := h.none_of_pending hpending
      rw [hlog, hstep]
      refine ih ⟨rfl, ?_⟩
      rintro _ ⟨⟩
      exact hbinds
    · rw [hlog, hstep]
      cases waiting with
      | none => simp [h.1] at hpending
      | some i =>
        have hsame : i.promptId = r.promptId ∧ i.style = r.style ∧ i.sequence = r.sequence := by
          simpa [h.1] using hpending
        refine ⟨binds_unique hbinds (h.2 i rfl) hsame.1.symm hsame.2.1.symm hsame.2.2.symm, ih ?_⟩
        exact ⟨rfl, nofun⟩
    · rw [hlog]
      refine ih ?_
      rcases hstep with hstep | hstep
      · rw [hstep]
        exact h
      · rw [hstep]
        exact h

/-- The prompts are numbered without gap or repeat from the next number on. -/
theorem promptSequences_exchanges (events : List (Nat × ConversationStep))
    (hfits : a.nextSequence + (promptSequences (exchanges a events)).length ≤ u64Bound) :
    promptSequences (exchanges a events) =
      List.range' a.nextSequence (promptSequences (exchanges a events)).length := by
  induction events generalizing a with
  | nil => rfl
  | cons event events ih =>
    rw [exchanges] at hfits ⊢
    rcases take_cases a event with ⟨p, hlog, hsequence, -, -, hstep⟩ |
      ⟨r, hlog, -, -, hstep⟩ | ⟨hlog, hstep⟩
    · have hcons : promptSequences ((some (Exchange.prompt p)).toList ++
          exchanges (a.step event) events) =
          p.sequence :: promptSequences (exchanges (a.step event) events) := rfl
      rw [hlog, hcons, List.length_cons] at hfits ⊢
      rw [List.range'_succ, hsequence]
      congr 1
      have hnext : (a.step event).nextSequence = wrappingAdd a.nextSequence 1 := by rw [hstep]
      cases hrest : promptSequences (exchanges (a.step event) events) with
      | nil => rfl
      | cons q qs =>
        -- a further prompt was accepted, so the counter has not wrapped
        rw [hrest, List.length_cons] at hfits
        rw [wrappingAdd_of_lt (by omega)] at hnext
        rw [← hrest, ← hnext]
        refine ih ?_
        rw [hnext, hrest, List.length_cons]
        omega
    · rw [hlog] at hfits ⊢
      have hnext : (a.step event).nextSequence = a.nextSequence := by rw [hstep]
      rw [← hnext] at hfits ⊢
      exact ih hfits
    · rw [hlog] at hfits ⊢
      have hnext : (a.step event).nextSequence = a.nextSequence := by
        rcases hstep with hstep | hstep <;> rw [hstep]
        rfl
      rw [← hnext] at hfits ⊢
      exact ih hfits

theorem take_ok_open {event : Nat × ConversationStep} (h : (a.take event).1 = .ok ())
    (hfail : event.2 ≠ .fail) : a.consumed = false ∧ event.1 < a.deadline := by
  obtain ⟨now, message⟩ := event
  cases message with
  | prompt p =>
    obtain ⟨hopen, hintime, -⟩ := acceptWirePrompt_ok h
    exact ⟨hopen, hintime⟩
  | response r =>
    obtain ⟨hopen, hintime, -⟩ := acceptWireResponse_ok h
    exact ⟨hopen, hintime⟩
  | fail => exact absurd rfl hfail
  | authenticated =>
    simp only [take, authenticated] at h
    split at h
    · cases h
    · split at h
      · cases h
      · rename_i hopen hexpired
        simp [expired] at hopen hexpired
        exact ⟨hopen, hexpired⟩

end PamConversationAuthority

/-- A consumed conversation stays consumed, and its deadline does not move. -/
theorem PamConversationAuthority.step_keeps (a : PamConversationAuthority)
    (event : Nat × ConversationStep) : (a.step event).deadline = a.deadline ∧
      (a.consumed = true → (a.step event).consumed = true) := by
  rcases a.take_cases event with ⟨p, -, -, -, -, hstep⟩ | ⟨r, -, -, -, hstep⟩ |
    ⟨-, hstep | hstep⟩
  · rw [hstep]
    exact ⟨rfl, id⟩
  · rw [hstep]
    exact ⟨rfl, id⟩
  · rw [hstep]
    exact ⟨rfl, id⟩
  · rw [hstep]
    exact ⟨rfl, fun _ => rfl⟩

/-- What holds of every message, in the conversation it comes to. -/
structure StepSafe (a : PamConversationAuthority) (event : Nat × ConversationStep) : Prop where
  /-- Nothing is accepted by a consumed conversation or at its deadline. -/
  timely : (a.take event).1 = .ok () → event.2 ≠ .fail →
    a.consumed = false ∧ event.1 < a.deadline
  stays_consumed : a.consumed = true → (a.step event).consumed = true
  prompts : ∀ p, event.2 = .prompt p → (a.take event).1 = .ok () →
    a.pending = none ∧ a.step event = { a with
      nextSequence := wrappingAdd a.nextSequence 1
      pending := some (p.promptId, p.style, p.sequence) }
  answers : ∀ r, event.2 = .response r → (a.take event).1 = .ok () →
    a.pending = some (r.promptId, r.style, r.sequence) ∧ a.step event = { a with pending := none }
  /-- A refusal from the deadline on consumes the conversation, any other changes nothing. -/
  refused : ∀ e, (a.take event).1 = .error e →
    a.step event = if a.deadline ≤ event.1 then { a with consumed := true } else a
  ends : event.2 = .fail ∨ event.2 = .authenticated → a.step event = { a with consumed := true }

theorem stepSafe (a : PamConversationAuthority) (event : Nat × ConversationStep) :
    StepSafe a event where
  timely := PamConversationAuthority.take_ok_open
  stays_consumed := (a.step_keeps event).2
  prompts p hp h := by
    obtain ⟨now, message⟩ := event
    obtain rfl : message = .prompt p := hp
    obtain ⟨-, -, -, -, hpending, hnext⟩ := PamConversationAuthority.acceptWirePrompt_ok h
    exact ⟨hpending, hnext⟩
  answers r hr h := by
    obtain ⟨now, message⟩ := event
    obtain rfl : message = .response r := hr
    obtain ⟨-, -, -, hpending, hnext⟩ := PamConversationAuthority.acceptWireResponse_ok h
    exact ⟨hpending, hnext⟩
  refused _ h := PamConversationAuthority.step_of_error h
  ends := PamConversationAuthority.step_of_end

section Safety
variable {transactionId lifecycleId seat connectionId workerId conversationId : String}
  {admissionAttemptId seatGeneration connectionEpoch requestId deadline : Nat}

theorem PamConversationAuthority.issue_ok {a : PamConversationAuthority}
    (h : PamConversationAuthority.issue transactionId admissionAttemptId lifecycleId seat
      seatGeneration connectionId connectionEpoch requestId workerId conversationId deadline = .ok a) :
    a = { transactionId, admissionAttemptId, lifecycleId, seat, seatGeneration, connectionId,
          connectionEpoch, requestId, workerId, conversationId, nextSequence := 1, deadline,
          consumed := false, pending := none } := by
  unfold issue at h
  split at h
  · cases h
  · exact (Except.ok.inj h).symm

/-- Whatever is sent to an issued conversation and whenever it comes: its prompts are numbered
from one, prompts and answers take turns and agree, and every single message is safe. -/
theorem conversation_safe {a : PamConversationAuthority}
    (hissue : PamConversationAuthority.issue transactionId admissionAttemptId lifecycleId seat
      seatGeneration connectionId connectionEpoch requestId workerId conversationId deadline = .ok a)
    (events : List (Nat × ConversationStep)) :
    ((promptSequences (exchanges a events)).length < 2 ^ 64 →
      promptSequences (exchanges a events) =
        List.range' 1 (promptSequences (exchanges a events)).length) ∧
    Alternating none (exchanges a events) ∧
    ∀ n event, events[n]? = some event →
      ((events.take n).foldl PamConversationAuthority.step a).deadline = deadline ∧
      StepSafe ((events.take n).foldl PamConversationAuthority.step a) event := by
  have hfresh := PamConversationAuthority.issue_ok hissue
  refine ⟨fun hfew => ?_, ?_, fun n event _ => ⟨?_, stepSafe _ _⟩⟩
  · have hnext : a.nextSequence = 1 := by rw [hfresh]
    have hnumbered := PamConversationAuthority.promptSequences_exchanges (a := a) events (by
      rw [hnext, u64Bound]
      omega)
    rwa [hnext] at hnumbered
  · have hwaits : a.Waits none := by
      rw [hfresh]
      exact ⟨rfl, fun _ h => by cases h⟩
    exact hwaits.alternating_exchanges events
  · have hkept := foldl_invariant (fun b => b.deadline = deadline)
      (fun b x hb _ => (b.step_keeps x).1.trans hb) (events.take n) a (by rw [hfresh])
      (stepsMeet_of_forall (fun _ _ => trivial) _ _)
    exact hkept

end Safety

def sampleIdentity : PamEnvelopeIdentity where
  connectionId := "g1-c1"
  connectionEpoch := 1
  seat := "seat0"
  requestId := 1
  transactionId := "worker-0"
  conversationId := "pam-worker-0"
  promptId := 1
  sequence := 1
  style := .promptEchoOff

def samplePrompt : PamPromptEnvelope where
  toPamEnvelopeIdentity := sampleIdentity
  protocolVersion := 2
  messageType := "pam_prompt"
  payloadLen := 10
  message := "Password: "

def sampleAnswer : PamPromptResponseEnvelope where
  toPamEnvelopeIdentity := sampleIdentity
  protocolVersion := 2
  messageType := "pam_prompt_response"
  payloadLen := 19
  response := .secret "secret"

def sampleAuthority : PamConversationAuthority where
  transactionId := "worker-0"
  admissionAttemptId := 1
  lifecycleId := "worker-0"
  seat := "seat0"
  seatGeneration := 1
  connectionId := "g1-c1"
  connectionEpoch := 1
  requestId := 1
  workerId := "worker-0"
  conversationId := "pam-worker-0"
  nextSequence := 1
  deadline := 10
  consumed := false
  pending := none

/-- The answer comes twice, the second time for nothing. -/
theorem repeatedAnswer_safe :
    exchanges sampleAuthority [(0, .prompt samplePrompt), (1, .response sampleAnswer),
      (2, .response sampleAnswer)] = [.prompt samplePrompt, .response sampleAnswer] ∧
    Alternating none (exchanges sampleAuthority [(0, .prompt samplePrompt),
      (1, .response sampleAnswer), (2, .response sampleAnswer)]) := by
  have hissue : PamConversationAuthority.issue "worker-0" 1 "worker-0" "seat0" 1 "g1-c1" 1 1
      "worker-0" "pam-worker-0" 10 = .ok sampleAuthority := by decide
  exact ⟨rfl, (conversation_safe hissue _).2.1⟩

end Niralis
