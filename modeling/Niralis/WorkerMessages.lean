import Niralis.GreeterProtocol
import Niralis.RecoveryModel

namespace Niralis
open JsonText

def workerProtocolVersion : Nat := 14

def maxWorkerMessageBytes : Nat := 64 * 1024

def workerControlProtocolVersion : Nat := 7

def maxWorkerControlMessageBytes : Nat := 4096

structure LoginRequestBinding where
  connectionId : String
  connectionEpoch : Nat
  requestId : Nat
  seat : String
  deriving DecidableEq, Repr

structure WorkerTransactionIdentity where
  transactionId : String
  admissionAttemptId : Nat
  lifecycleId : String
  seat : String
  seatGeneration : Nat
  stage : String
  deriving DecidableEq, Repr

structure ControlTransactionIdentity extends WorkerTransactionIdentity where
  sequence : Nat
  deriving DecidableEq, Repr

def WorkerTransactionIdentity.fields (i : WorkerTransactionIdentity) :
    List (String × List Char) :=
  [("transaction_id", quoted i.transactionId),
    ("admission_attempt_id", decimal i.admissionAttemptId),
    ("lifecycle_id", quoted i.lifecycleId), ("seat", quoted i.seat),
    ("seat_generation", decimal i.seatGeneration), ("stage", quoted i.stage)]

namespace ControlTransactionIdentity

def fromWorker (identity : WorkerTransactionIdentity) (stage : String) (sequence : Nat) :
    ControlTransactionIdentity := { identity with stage, sequence }

def matchesWorker (c : ControlTransactionIdentity) (identity : WorkerTransactionIdentity)
    (stage : String) (sequence : Nat) : Bool :=
  c.transactionId = identity.transactionId &&
    c.admissionAttemptId = identity.admissionAttemptId && c.lifecycleId = identity.lifecycleId &&
    c.seat = identity.seat && c.seatGeneration = identity.seatGeneration && c.stage = stage &&
    c.sequence = sequence

end ControlTransactionIdentity

structure WorkerPamPrompt where
  workerId : String
  expectedWorkerPid : Nat
  transaction : WorkerTransactionIdentity
  prompt : PamPromptEnvelope
  deriving DecidableEq, Repr

/-- `WorkerControlRequest::PamPromptResponse`, in its envelope. -/
structure PamPromptResponseRequest where
  version : Nat
  transaction : ControlTransactionIdentity
  workerId : String
  expectedWorkerPid : Nat
  response : PamPromptResponseEnvelope
  deriving DecidableEq, Repr

/-- `WorkerEnvelope { version, message }` around one variant. -/
def envelopeJson (version : Nat) (variant : String) (fields : List (String × List Char)) :
    List Char :=
  braced [("version", decimal version), ("message", braced [(variant, braced fields)])]

def WorkerPamPrompt.json (m : WorkerPamPrompt) : List Char :=
  envelopeJson workerProtocolVersion "PamPrompt"
    [("worker_id", quoted m.workerId), ("expected_worker_pid", decimal m.expectedWorkerPid),
      ("transaction", braced m.transaction.fields), ("prompt", m.prompt.json)]

def PamPromptResponseRequest.json (r : PamPromptResponseRequest) : List Char :=
  envelopeJson r.version "PamPromptResponse"
    [("transaction", braced (r.transaction.fields ++ [("sequence", decimal r.transaction.sequence)])),
      ("worker_id", quoted r.workerId), ("expected_worker_pid", decimal r.expectedWorkerPid),
      ("response", r.response.json)]

/-- A JSON text and its line feed, unless they are over the limit. -/
def writeLine (limit : Nat) (json : List Char) : Except SessionError (List UInt8) :=
  if limit < (bytes json).length + 1 then .error .workerProtocolFailed
  else .ok (bytes json ++ [10])

def writeEnvelope (m : WorkerPamPrompt) : Except SessionError (List UInt8) :=
  writeLine maxWorkerMessageBytes m.json

def writeControlRequest (r : PamPromptResponseRequest) : Except SessionError (List UInt8) :=
  writeLine maxWorkerControlMessageBytes r.json

/-- One line and what follows it; `taken` has been read already. -/
def readControlMessageBytes (taken : List UInt8) :
    List UInt8 → Except SessionError (List UInt8 × List UInt8)
  | [] => .error .workerIoFailed
  | b :: rest =>
    if b = 10 then
      if taken.length + 1 ≤ maxWorkerControlMessageBytes then .ok (taken ++ [b], rest)
      else .error .workerProtocolFailed
    else if maxWorkerControlMessageBytes ≤ taken.length + 1 then .error .workerProtocolFailed
    else readControlMessageBytes (taken ++ [b]) rest

/-- `fromSlice` is `serde_json::from_slice` at the type of control requests. -/
def readControlRequest {α : Type} (fromSlice : List UInt8 → Option α) (stream : List UInt8) :
    Except SessionError (α × List UInt8) := do
  let (line, rest) ← readControlMessageBytes [] stream
  if line.getLast? ≠ some 10 then throw .workerProtocolFailed
  match fromSlice line.dropLast with
  | some request => pure (request, rest)
  | none => throw .workerProtocolFailed

theorem writeLine_ok {limit : Nat} {json : List Char} (h : size json < limit) :
    writeLine limit json = .ok (bytes json ++ [10]) := by
  rw [writeLine, if_neg]
  rw [length_bytes]
  omega

section ReadBack

theorem readControlMessageBytes_line {payload : List UInt8} (hline : 10 ∉ payload)
    (taken rest : List UInt8)
    (hfits : taken.length + payload.length + 1 ≤ maxWorkerControlMessageBytes) :
    readControlMessageBytes taken (payload ++ 10 :: rest) = .ok (taken ++ payload ++ [10], rest) := by
  induction payload generalizing taken with
  | nil =>
    rw [List.length_nil] at hfits
    simp only [List.nil_append, readControlMessageBytes, if_true, List.append_nil]
    rw [if_pos (by omega)]
  | cons b payload ih =>
    rw [List.length_cons] at hfits
    have hb : b ≠ 10 := fun h => hline (h ▸ List.mem_cons_self)
    have hrest : 10 ∉ payload := fun h => hline (List.mem_cons_of_mem _ h)
    simp only [List.cons_append, readControlMessageBytes]
    rw [if_neg hb, if_neg (by omega), ih hrest (taken ++ [b])]
    · simp
    · rw [List.length_append, List.length_singleton]
      omega

theorem PamPromptResponse.newline_not_mem_json (r : PamPromptResponse) : '\n' ∉ r.json := by
  cases r with
  | secret value => exact newline_not_mem_braced (by simp [newline_not_mem_quoted])
  | text value => exact newline_not_mem_braced (by simp [newline_not_mem_quoted])
  | none => exact newline_not_mem_quoted _

theorem PamPromptResponseEnvelope.newline_not_mem_json (r : PamPromptResponseEnvelope) :
    '\n' ∉ r.json :=
  newline_not_mem_braced (by
    simp [PamEnvelopeIdentity.fields, newline_not_mem_quoted, newline_not_mem_decimal,
      PamPromptResponse.newline_not_mem_json])

theorem PamPromptResponseRequest.newline_not_mem_json (r : PamPromptResponseRequest) :
    '\n' ∉ r.json := by
  have htransaction : '\n' ∉ braced (r.transaction.fields ++
      [("sequence", decimal r.transaction.sequence)]) :=
    newline_not_mem_braced (by
      simp [WorkerTransactionIdentity.fields, newline_not_mem_quoted, newline_not_mem_decimal])
  have hvariant : '\n' ∉ braced [("transaction", braced (r.transaction.fields ++
      [("sequence", decimal r.transaction.sequence)])), ("worker_id", quoted r.workerId),
      ("expected_worker_pid", decimal r.expectedWorkerPid), ("response", r.response.json)] :=
    newline_not_mem_braced (by
      simp [newline_not_mem_quoted, newline_not_mem_decimal, htransaction,
        PamPromptResponseEnvelope.newline_not_mem_json])
  refine newline_not_mem_braced ?_
  simp only [List.mem_cons, List.not_mem_nil, or_false, forall_eq_or_imp, forall_eq]
  exact ⟨newline_not_mem_decimal _, newline_not_mem_braced (by simpa using hvariant)⟩

/-- A control request is read back exactly if it could be written. -/
theorem writeControlRequest_readBack {fromSlice : List UInt8 → Option PamPromptResponseRequest}
    (r : PamPromptResponseRequest) (hdecode : fromSlice (bytes r.json) = some r) :
    (∃ line, writeControlRequest r = .ok line ∧ ∀ rest,
      readControlRequest fromSlice (line ++ rest) = .ok (r, rest)) ↔
      size r.json < maxWorkerControlMessageBytes := by
  have hline : (10 : UInt8) ∉ bytes r.json := fun h =>
    r.newline_not_mem_json (newline_mem_bytes.mp h)
  unfold writeControlRequest writeLine
  rw [length_bytes]
  split
  · constructor
    · rintro ⟨_, ⟨⟩, -⟩
    · intro h
      omega
  · refine ⟨fun _ => by omega, fun hfits => ⟨_, rfl, fun rest => ?_⟩⟩
    have hread := readControlMessageBytes_line hline [] rest (by
      rw [length_bytes, List.length_nil]
      omega)
    rw [List.append_assoc, List.singleton_append]
    simp only [readControlRequest, hread, List.nil_append]
    simp [bind, Except.bind, pure, Except.pure, hdecode]

end ReadBack

section Sizes

/-- The bytes of the values that a prompt and its answer have in common. -/
def PamEnvelopeIdentity.textBytes (i : PamEnvelopeIdentity) : Nat :=
  text i.connectionId + number i.connectionEpoch + text i.seat + number i.requestId +
    text i.transactionId + text i.conversationId + number i.promptId + number i.sequence +
    text i.style.name

/-- The bytes of the values of a transaction, but for its stage. -/
def WorkerTransactionIdentity.textBytes (i : WorkerTransactionIdentity) : Nat :=
  text i.transactionId + number i.admissionAttemptId + text i.lifecycleId + text i.seat +
    number i.seatGeneration

theorem size_pamEnvelope (i : PamEnvelopeIdentity) (version : Nat) (messageType : String)
    (payloadLen : Nat) (name : String) (value : List Char) :
    size (braced (i.fields version messageType payloadLen ++ [(name, value)])) =
      184 + i.textBytes + number version + text messageType + number payloadLen + text name +
        size value := by
  have h₁ : text "protocol_version" = 18 := by decide
  have h₂ : text "message_type" = 14 := by decide
  have h₃ : text "connection_id" = 15 := by decide
  have h₄ : text "connection_epoch" = 18 := by decide
  have h₅ : text "seat" = 6 := by decide
  have h₆ : text "request_id" = 12 := by decide
  have h₇ : text "transaction_id" = 16 := by decide
  have h₈ : text "conversation_id" = 17 := by decide
  have h₉ : text "prompt_id" = 11 := by decide
  have h₁₀ : text "sequence" = 10 := by decide
  have h₁₁ : text "style" = 7 := by decide
  have h₁₂ : text "payload_len" = 13 := by decide
  simp only [size_braced, PamEnvelopeIdentity.fields, object, separated, List.cons_append,
    List.nil_append, List.map_cons, List.map_nil, List.sum_cons, List.sum_nil, List.length_cons,
    List.length_nil, size_quoted, size_decimal, PamEnvelopeIdentity.textBytes, h₁, h₂, h₃, h₄, h₅,
    h₆, h₇, h₈, h₉, h₁₀, h₁₁, h₁₂]
  omega

theorem size_transaction (i : WorkerTransactionIdentity) (more : List (String × List Char)) :
    size (braced (i.fields ++ more)) = 95 + i.textBytes + text i.stage +
      (more.map fun field => text field.1 + 2 + size field.2).sum := by
  have h₁ : text "transaction_id" = 16 := by decide
  have h₂ : text "admission_attempt_id" = 22 := by decide
  have h₃ : text "lifecycle_id" = 14 := by decide
  have h₄ : text "seat" = 6 := by decide
  have h₅ : text "seat_generation" = 17 := by decide
  have h₆ : text "stage" = 7 := by decide
  have hmore : (more.map ((fun field => text field.1 + 1 + field.2) ∘
      fun field => (field.1, size field.2))).sum + more.length =
      (more.map fun field => text field.1 + 2 + size field.2).sum := by
    induction more with
    | nil => rfl
    | cons field more ih =>
      simp only [List.map_cons, List.sum_cons, List.length_cons, Function.comp_apply] at ih ⊢
      omega
  simp only [size_braced, WorkerTransactionIdentity.fields, object, separated, List.cons_append,
    List.nil_append, List.map_cons, List.map_map, List.sum_cons, List.length_cons, List.length_map,
    size_quoted, size_decimal, WorkerTransactionIdentity.textBytes, h₁, h₂, h₃, h₄, h₅, h₆] at hmore ⊢
  omega

/-- The bytes of a prompt's envelope, without the text of the prompt. -/
theorem PamPromptEnvelope.size_json (p : PamPromptEnvelope) : size p.json =
    193 + p.textBytes + number p.protocolVersion + text p.messageType + number p.payloadLen +
      text p.message := by
  have hname : text "message" = 9 := by decide
  rw [PamPromptEnvelope.json, size_pamEnvelope, size_quoted, hname]
  omega

theorem size_envelopeJson (version : Nat) (variant : String) (fields : List (String × List Char)) :
    size (envelopeJson version variant fields) =
      26 + number version + text variant + size (braced fields) := by
  have h₁ : text "version" = 9 := by decide
  have h₂ : text "message" = 9 := by decide
  rw [envelopeJson, size_braced, List.map_cons, List.map_cons, size_braced [(variant, _)]]
  simp only [object, separated, List.map_cons, List.map_nil, List.sum_cons, List.sum_nil,
    List.length_cons, List.length_nil, size_decimal, h₁, h₂]
  omega

theorem WorkerPamPrompt.size_json (m : WorkerPamPrompt) : size m.json =
    196 + text m.workerId + number m.expectedWorkerPid + m.transaction.textBytes +
      text m.transaction.stage + size m.prompt.json := by
  have h₁ : text "PamPrompt" = 11 := by decide
  have h₂ : text "worker_id" = 11 := by decide
  have h₃ : text "expected_worker_pid" = 21 := by decide
  have h₄ : text "transaction" = 13 := by decide
  have h₅ : text "prompt" = 8 := by decide
  have h₆ : number workerProtocolVersion = 2 := by decide
  have htransaction := size_transaction m.transaction []
  rw [List.append_nil, List.map_nil, List.sum_nil] at htransaction
  rw [WorkerPamPrompt.json, size_envelopeJson, size_braced]
  simp only [object, separated, List.map_cons, List.map_nil, List.sum_cons, List.sum_nil,
    List.length_cons, List.length_nil, size_quoted, size_decimal, htransaction, h₁, h₂, h₃, h₄, h₅,
    h₆]
  omega

/-- The bytes of a control request, without the answer it carries. -/
def PamPromptResponseRequest.overhead (r : PamPromptResponseRequest) : Nat :=
  410 + number r.version + r.transaction.textBytes + text r.transaction.stage +
    number r.transaction.sequence + text r.workerId + number r.expectedWorkerPid +
    r.response.textBytes + number r.response.protocolVersion + text r.response.messageType +
    number r.response.payloadLen

theorem PamPromptResponseRequest.size_json (r : PamPromptResponseRequest) :
    size r.json = r.overhead + r.response.response.encodedLen := by
  have h₁ : text "PamPromptResponse" = 19 := by decide
  have h₂ : text "worker_id" = 11 := by decide
  have h₃ : text "expected_worker_pid" = 21 := by decide
  have h₄ : text "transaction" = 13 := by decide
  have h₅ : text "response" = 10 := by decide
  have h₆ : text "sequence" = 10 := by decide
  have htransaction := size_transaction r.transaction.toWorkerTransactionIdentity
    [("sequence", decimal r.transaction.sequence)]
  have hresponse := size_pamEnvelope r.response.toPamEnvelopeIdentity r.response.protocolVersion
    r.response.messageType r.response.payloadLen "response" r.response.response.json
  rw [List.map_singleton, List.sum_singleton, size_decimal, h₆] at htransaction
  rw [PamPromptResponseRequest.json, size_envelopeJson, size_braced, PamPromptResponseEnvelope.json]
  simp only [object, separated, List.map_cons, List.map_nil, List.sum_cons, List.sum_nil,
    List.length_cons, List.length_nil, size_quoted, size_decimal, htransaction, hresponse,
    PamPromptResponseRequest.overhead, PamPromptResponse.encodedLen, h₁, h₂, h₃, h₄, h₅]
  omega

end Sizes

end Niralis
