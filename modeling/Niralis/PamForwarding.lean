import Niralis.PamConversation
import Niralis.WorkerMessages

namespace Niralis

/-- A C string: its bytes before the terminating zero. -/
structure CStr where
  bytes : ByteArray
  nulFree : 0 ∉ bytes.data.toList

structure WorkerPamConversationDriver where
  binding : LoginRequestBinding
  conversationId : String
  transaction : WorkerTransactionIdentity
  workerId : String
  workerPid : Nat
  promptId : Nat
  sequence : Nat
  deriving DecidableEq, Repr

namespace WorkerPamConversationDriver

def new (binding : LoginRequestBinding) (conversationId : String)
    (transaction : WorkerTransactionIdentity) (workerId : String) (workerPid : Nat) :
    WorkerPamConversationDriver :=
  { binding, conversationId, transaction, workerId, workerPid, promptId := 0, sequence := 0 }

/-- What a prompt of the driver says about itself, at its present counters. -/
def identity (d : WorkerPamConversationDriver) (style : PamMessageStyle) : PamEnvelopeIdentity where
  connectionId := d.binding.connectionId
  connectionEpoch := d.binding.connectionEpoch
  seat := d.binding.seat
  requestId := d.binding.requestId
  transactionId := d.transaction.transactionId
  conversationId := d.conversationId
  promptId := d.promptId
  sequence := d.sequence
  style := style

/-- `checked_add(1)` on both counters; the first that overflows ends it. -/
def advance (d : WorkerPamConversationDriver) : Bool × WorkerPamConversationDriver :=
  match checkedAdd d.promptId 1 with
  | none => (false, d)
  | some promptId =>
    match checkedAdd d.sequence 1 with
    | none => (false, { d with promptId })
    | some sequence => (true, { d with promptId, sequence })

/-- `respond` up to the prompt: both counters are advanced before the text is looked at. -/
def nextPrompt (d : WorkerPamConversationDriver) (style : PamMessageStyle) (message : CStr) :
    Option PamPromptEnvelope × WorkerPamConversationDriver :=
  let (advanced, d) := d.advance
  if !advanced then (none, d)
  else match String.fromUTF8? message.bytes with
    | none => (none, d)
    | some message =>
      if message = "" ∨ 4096 < message.utf8ByteSize then (none, d)
      else (some { toPamEnvelopeIdentity := d.identity style
                   protocolVersion := greeterProtocolVersion
                   messageType := "pam_prompt"
                   payloadLen := message.utf8ByteSize
                   message }, d)

def envelope (d : WorkerPamConversationDriver) (prompt : PamPromptEnvelope) : WorkerPamPrompt where
  workerId := d.workerId
  expectedWorkerPid := d.workerPid
  transaction := d.transaction
  prompt := prompt

/-- `respond` from the control request on. -/
def receive (d : WorkerPamConversationDriver) (style : PamMessageStyle)
    (request : PamPromptResponseRequest) : Except Unit PamPromptResponse :=
  if request.version ≠ workerControlProtocolVersion then .error ()
  else if request.workerId = d.workerId ∧ request.expectedWorkerPid = d.workerPid ∧
      request.transaction.matchesWorker d.transaction "pam_prompt_response" d.sequence ∧
      request.response.toPamEnvelopeIdentity = d.identity style then
    match request.response.validateShape with
    | .ok () => .ok request.response.response
    | .error _ => .error ()
  else .error ()

end WorkerPamConversationDriver

/-- The worker that the launcher started, as it knows it. -/
structure WorkerAttempt where
  workerId : String
  workerPid : Nat
  generation : Nat
  attemptId : Nat
  deriving DecidableEq, Repr

def validTransaction (identity : WorkerTransactionIdentity) (workerId : String)
    (generation attemptId : Nat) (stage : String) : Bool :=
  identity.transactionId = workerId && identity.lifecycleId = workerId &&
    identity.admissionAttemptId = attemptId && identity.seat = "seat0" &&
    identity.seatGeneration = generation && identity.stage = stage

/-- The control request that carries an answer to the worker. -/
def responseRequest (m : WorkerPamPrompt) (workerId : String)
    (response : PamPromptResponseEnvelope) : PamPromptResponseRequest where
  version := workerControlProtocolVersion
  transaction := .fromWorker m.transaction "pam_prompt_response" m.prompt.sequence
  workerId := workerId
  expectedWorkerPid := m.expectedWorkerPid
  response := response

/-- The checks on the worker's message that come before the conversation is asked. -/
def forwardable (w : WorkerAttempt) (m : WorkerPamPrompt) : Bool :=
  m.workerId = w.workerId && m.expectedWorkerPid = w.workerPid &&
    m.prompt.validateShape = .ok () &&
    validTransaction m.transaction w.workerId w.generation w.attemptId "reserved"

/-- `forward_pam_prompt` up to the control request. The authority judges the prompt and the answer
at the times `promptedAt` and `answeredAt`. -/
def forwardPamPrompt (w : WorkerAttempt) (m : WorkerPamPrompt)
    (conversation : Option (PamPromptEnvelope → Except SessionError PamPromptResponseEnvelope))
    (authority : Option PamConversationAuthority) (promptedAt answeredAt : Nat) :
    Except SessionError PamPromptResponseRequest × Option PamConversationAuthority :=
  if !forwardable w m then (.error .workerProtocolFailed, authority)
  else match conversation, authority with
    | none, authority => (.error .workerProtocolFailed, authority)
    | some _, none => (.error .workerProtocolFailed, none)
    | some roundTrip, some a =>
      match a.acceptWirePrompt promptedAt m.prompt with
      | (.error _, a) => (.error .workerProtocolFailed, some a)
      | (.ok (), a) =>
        match roundTrip m.prompt with
        | .error e => (.error e, some a)
        | .ok response =>
          if response.toPamEnvelopeIdentity ≠ m.prompt.toPamEnvelopeIdentity ∨
              response.validateShape ≠ .ok () then (.error .workerProtocolFailed, some a)
          else match a.acceptWireResponse answeredAt response with
            | (.error _, a) => (.error .workerProtocolFailed, some a)
            | (.ok (), a) => (.ok (responseRequest m w.workerId response), some a)

/-- `response_to_cstring`; the text itself, which has no zero byte in it. -/
def responseToCString (response : PamPromptResponse) (secret : Bool) : Except Unit String :=
  match secret, response with
  | true, .secret value => if value.toList.contains '\x00' then .error () else .ok value
  | false, .text value => if value.toList.contains '\x00' then .error () else .ok value
  | _, _ => .error ()

/-- Worker, launcher and the control channel between them. The last three fields record what
happened: the prompts that were written, each with the launcher's verdict, the answers that the
launcher accepted, and those that the driver returned. -/
structure PamExchange where
  driver : WorkerPamConversationDriver
  attempt : WorkerAttempt
  authority : Option PamConversationAuthority
  forwarding : Bool
  channel : List PamPromptResponseRequest
  failed : Bool
  written : List (PamPromptEnvelope × Bool)
  accepted : List (PamPromptEnvelope × PamPromptResponse)
  returned : List (PamPromptEnvelope × PamPromptResponse)

/-- One call of the conversation function, with everything outside of worker and launcher. -/
structure PamCallback where
  style : PamMessageStyle
  message : CStr
  stdout : Bool
  greeter : PamPromptEnvelope → Except SessionError PamPromptResponseEnvelope
  promptedAt : Nat
  answeredAt : Nat
  sent : Bool
  received : Bool

/-- The control request reaches the channel, unless it is too long or the write fails. -/
def sendControlRequest (r : PamPromptResponseRequest) (sent : Bool) : Bool :=
  match writeControlRequest r with
  | .ok _ => sent
  | .error _ => false

namespace PamExchange

/-- Does the launcher's conversation accept the prompt? -/
def takes (s : PamExchange) (c : PamCallback) (prompt : PamPromptEnvelope) : Bool :=
  forwardable s.attempt (s.driver.envelope prompt) && match s.authority with
    | none => false
    | some a => (a.acceptWirePrompt c.promptedAt prompt).1 = .ok ()

def deliver (s : PamExchange) (c : PamCallback) (prompt : PamPromptEnvelope)
    (result : Except SessionError PamPromptResponseRequest) : PamExchange :=
  match result with
  | .error _ => { s with forwarding := false }
  | .ok request =>
    let accepted := s.accepted ++ [(prompt, request.response.response)]
    if sendControlRequest request c.sent then
      { s with accepted, channel := s.channel ++ [request] }
    else { s with accepted, forwarding := false }

/-- The launcher takes up a prompt that was written, unless it has stopped before. -/
def forward (s : PamExchange) (c : PamCallback) (prompt : PamPromptEnvelope) : PamExchange :=
  if s.forwarding then
    let forwarded := forwardPamPrompt s.attempt (s.driver.envelope prompt) (some c.greeter)
      s.authority c.promptedAt c.answeredAt
    deliver { s with authority := forwarded.2
                     written := s.written ++ [(prompt, s.takes c prompt)] } c prompt forwarded.1
  else { s with written := s.written ++ [(prompt, false)] }

/-- The driver takes the oldest request from the channel. -/
def receive (s : PamExchange) (c : PamCallback) (prompt : PamPromptEnvelope) :
    Except Unit PamPromptResponse × PamExchange :=
  if !c.received then (.error (), s)
  else match s.channel with
    | [] => (.error (), s)
    | request :: channel =>
      match s.driver.receive c.style request with
      | .error () => (.error (), { s with channel })
      | .ok response =>
        (.ok response, { s with channel, returned := s.returned ++ [(prompt, response)] })

/-- `WorkerPamConversationDriver::respond`, with the launcher at the other end. -/
def respond (s : PamExchange) (c : PamCallback) : Except Unit PamPromptResponse × PamExchange :=
  let (prompt, driver) := s.driver.nextPrompt c.style c.message
  let s := { s with driver }
  match prompt with
  | none => (.error (), s)
  | some prompt =>
    match writeEnvelope (s.driver.envelope prompt) with
    | .error _ => (.error (), s)
    | .ok _ => if c.stdout then (s.forward c prompt).receive c prompt else (.error (), s)

/-- The four callbacks of `SilentPasswordConversation`: a prompt wants an answer in its own style, a
message of no answer remembers that it was not taken. -/
def callback (s : PamExchange) (c : PamCallback) : Except Unit (Option String) × PamExchange :=
  let (result, s) := s.respond c
  match c.style with
  | .promptEchoOn => ((result.bind (responseToCString · false)).map some, s)
  | .promptEchoOff => ((result.bind (responseToCString · true)).map some, s)
  | .informational | .error =>
    match result with
    | .ok .none => (.ok none, s)
    | _ => (.ok none, { s with failed := true })

def step (s : PamExchange) (c : PamCallback) : PamExchange := (s.callback c).2

end PamExchange

end Niralis
