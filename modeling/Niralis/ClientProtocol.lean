import Niralis.Framing
import Niralis.GreeterProtocol
import Niralis.RecoveryModel
import Niralis.Runs

namespace Niralis
open JsonText

inductive NiralisdError
  | io | frameTooLarge | frameTruncated | connectionAuthorityRejected
  | protocolRejected (message : String)
  deriving DecidableEq, Repr

structure GreeterConnectionAuthority where
  connectionId : String
  connectionEpoch : Nat
  seat : String
  deriving DecidableEq, Repr

namespace GreeterConnectionAuthority

def matchesEnvelope (a : GreeterConnectionAuthority) (id : String) (epoch : Nat) (seat : String) : Bool :=
  a.connectionId = id && a.connectionEpoch = epoch && a.seat = seat

end GreeterConnectionAuthority

def sampleConnection : GreeterConnectionAuthority where
  connectionId := "g1-c1"
  connectionEpoch := 1
  seat := "seat0"

/-- `serde_json::from_slice` at the three types that the daemon decodes. -/
structure Decoders where
  handshake : List UInt8 → Option GreeterHandshake
  request : List UInt8 → Option GreeterRequestEnvelope
  response : List UInt8 → Option PamPromptResponseEnvelope

/-- What is left of a handler's call: it answers, or makes a round trip first. -/
inductive Serving
  | respond (result : NiralisResponse)
  | roundTrip (prompt : PamPromptEnvelope)
      (next : Except SessionError PamPromptResponseEnvelope → Serving)

inductive ClientPhase
  | handshake
  | reading
  | serving (request : GreeterRequestEnvelope) (rest : Serving)
  | closed (result : Except NiralisdError Unit)

/-- One call of `read_frame`, with the bytes of the stream that it took. -/
structure FrameRead where
  start : Nat
  stop : Nat
  result : Except NiralisdError (List UInt8)
  deriving DecidableEq

inductive GreeterEvent
  | handshake (frame : FrameRead)
  | request (frame : FrameRead) (handed : Option GreeterRequestEnvelope)
  | prompt (frame : FrameRead)
  | response (envelope : GreeterResponseEnvelope)
  deriving DecidableEq

/-- The daemon's side of a connection. `position` counts the bytes taken from the stream, and `log`
records what happened. -/
structure GreeterClient where
  authority : GreeterConnectionAuthority
  phase : ClientPhase
  input : List UInt8
  position : Nat
  last : Nat
  requestIds : List Nat
  log : List GreeterEvent

/-- What a step finds outside: whether a read fails and after how many bytes, whether the write
succeeds, and what the handler makes of a request. -/
structure ClientAnswer where
  readFails : Option Nat
  writes : Bool
  serve : GreeterRequestEnvelope → NiralisRequest → Serving
  cancelled : NiralisResponse

def frameError : Framing.ReadError → NiralisdError
  | .tooLarge => .frameTooLarge
  | .truncated => .frameTruncated
  | .io => .io

/-- `write_response`: what is too long to be written is replaced. -/
def responseEnvelope (e : GreeterResponseEnvelope) : GreeterResponseEnvelope :=
  if maxGreeterFrameBytes < size e.json then { e with result := .error "response unavailable" }
  else e

/-- The checks of `round_trip` on the frame that it read. -/
def acceptPamResponse (decoders : Decoders) (a : GreeterConnectionAuthority) (frame : List UInt8) :
    Except SessionError PamPromptResponseEnvelope :=
  match decoders.response frame with
  | none => .error .workerProtocolFailed
  | some response =>
    if response.validateShape ≠ .ok () then .error .workerProtocolFailed
    else if response.connectionId ≠ a.connectionId ∨ response.connectionEpoch ≠ a.connectionEpoch ∨
        response.seat ≠ a.seat then .error .workerProtocolFailed
    else .ok response

/-- The checks of the request loop on the frame that it read. -/
def acceptRequest (decoders : Decoders) (a : GreeterConnectionAuthority) (last : Nat)
    (requestIds : List Nat) (frame : List UInt8) : Except NiralisdError GreeterRequestEnvelope :=
  match decoders.request frame with
  | none => .error (.protocolRejected "invalid envelope")
  | some envelope =>
    if envelope.validateShape ≠ .ok () then .error (.protocolRejected "invalid envelope")
    else if !a.matchesEnvelope envelope.connectionId envelope.connectionEpoch envelope.seat then
      .error .connectionAuthorityRejected
    else match acceptSequence last envelope.sequence with
      | .error _ => .error (.protocolRejected "non-monotonic sequence")
      | .ok _ =>
        if requestIds.contains envelope.requestId then
          .error (.protocolRejected "duplicate request id")
        else .ok envelope

/-- A cancellation is answered at once; everything else is handed to the handler with the
connection's transport. -/
def dispatch (x : ClientAnswer) (e : GreeterRequestEnvelope) : Serving :=
  match e.payload with
  | .status => x.serve e .status
  | .getUsers => x.serve e .getUsers
  | .getSessions => x.serve e .getSessions
  | .login username session secret => x.serve e (.login username secret session)
  | .cancel _ => .respond x.cancelled

namespace GreeterClient
variable (decoders : Decoders)

def new (authority : GreeterConnectionAuthority) (stream : List UInt8) : GreeterClient where
  authority := authority
  phase := .handshake
  input := stream
  position := 0
  last := 0
  requestIds := []
  log := []

/-- `read_frame`, and the connection after it. -/
def readFrame (s : GreeterClient) (x : ClientAnswer) : FrameRead × GreeterClient :=
  let (result, rest) := Framing.readLine maxGreeterFrameBytes x.readFails s.input
  let stop := s.position + (s.input.length - rest.length)
  ({ start := s.position, stop, result := result.mapError frameError },
    { s with input := rest, position := stop })

def close (s : GreeterClient) (result : Except NiralisdError Unit) : GreeterClient :=
  { s with phase := .closed result }

def record (s : GreeterClient) (event : GreeterEvent) : GreeterClient :=
  { s with log := s.log ++ [event] }

def greet (s : GreeterClient) (x : ClientAnswer) : GreeterClient :=
  let (frame, s) := s.readFrame x
  let s := s.record (.handshake frame)
  match frame.result with
  | .error e => s.close (.error e)
  | .ok bytes =>
    match decoders.handshake bytes with
    | none => s.close (.error (.protocolRejected "invalid handshake"))
    | some hello =>
      if hello.protocolVersion ≠ greeterProtocolVersion ∨ hello.messageType ≠ "handshake" then
        s.close (.error (.protocolRejected "invalid handshake"))
      else if x.writes then { s with phase := .reading }
      else s.close (.error .io)

def receive (s : GreeterClient) (x : ClientAnswer) : GreeterClient :=
  let (frame, s) := s.readFrame x
  match frame.result with
  | .error .frameTruncated => (s.record (.request frame none)).close (.ok ())
  | .error e => (s.record (.request frame none)).close (.error e)
  | .ok bytes =>
    match acceptRequest decoders s.authority s.last s.requestIds bytes with
    | .error e => (s.record (.request frame none)).close (.error e)
    | .ok envelope =>
      { s.record (.request frame (some envelope)) with
        last := envelope.sequence
        requestIds := envelope.requestId :: s.requestIds
        phase := .serving envelope (dispatch x envelope) }

def reply (s : GreeterClient) (x : ClientAnswer) (request : GreeterRequestEnvelope)
    (result : NiralisResponse) : GreeterClient :=
  if x.writes then
    { s.record (.response (responseEnvelope { requestId := request.requestId
                                              connectionEpoch := s.authority.connectionEpoch
                                              result })) with phase := .reading }
  else s.close (.error .io)

/-- `SocketPamConversation::round_trip`. -/
def roundTrip (s : GreeterClient) (x : ClientAnswer) (prompt : PamPromptEnvelope) :
    Except SessionError PamPromptResponseEnvelope × GreeterClient :=
  if maxGreeterFrameBytes < size prompt.json then (.error .workerProtocolFailed, s)
  else if !x.writes then (.error .workerIoFailed, s)
  else
    let (frame, s) := s.readFrame x
    let s := s.record (.prompt frame)
    match frame.result with
    | .error _ => (.error .workerIoFailed, s)
    | .ok bytes => (acceptPamResponse decoders s.authority bytes, s)

def step (s : GreeterClient) (x : ClientAnswer) : GreeterClient :=
  match s.phase with
  | .handshake => s.greet decoders x
  | .reading => s.receive decoders x
  | .serving request (.respond result) => s.reply x request result
  | .serving request (.roundTrip prompt next) =>
    let (result, s) := s.roundTrip decoders x prompt
    { s with phase := .serving request (next result) }
  | .closed _ => s

inductive Moved (x : ClientAnswer) (s : GreeterClient) : GreeterClient → Prop
  | greeted (phase : ClientPhase) (hphase : s.phase = .handshake)
      (hnext : (phase = .reading ∧ ∃ bytes, (s.readFrame x).1.result = .ok bytes) ∨
        ∃ r, phase = .closed r) :
    Moved x s { (s.readFrame x).2.record (.handshake (s.readFrame x).1) with phase }
  | rejected (r : Except NiralisdError Unit) (hphase : s.phase = .reading) :
    Moved x s (((s.readFrame x).2.record (.request (s.readFrame x).1 none)).close r)
  | handed (bytes : List UInt8) (e : GreeterRequestEnvelope) (hphase : s.phase = .reading)
      (hframe : (s.readFrame x).1.result = .ok bytes)
      (haccept : acceptRequest decoders s.authority s.last s.requestIds bytes = .ok e) :
    Moved x s { (s.readFrame x).2.record (.request (s.readFrame x).1 (some e)) with
      last := e.sequence
      requestIds := e.requestId :: s.requestIds
      phase := .serving e (dispatch x e) }
  | replied (e : GreeterRequestEnvelope) (result : NiralisResponse)
      (hphase : s.phase = .serving e (.respond result)) (hwrites : x.writes = true) :
    Moved x s { s.record (.response (responseEnvelope
      { requestId := e.requestId, connectionEpoch := s.authority.connectionEpoch, result })) with
      phase := .reading }
  | dropped (e : GreeterRequestEnvelope) (result : NiralisResponse)
      (hphase : s.phase = .serving e (.respond result)) (hwrites : x.writes = false) :
    Moved x s (s.close (.error .io))
  | unprompted (e : GreeterRequestEnvelope) (prompt : PamPromptEnvelope)
      (next : Except SessionError PamPromptResponseEnvelope → Serving)
      (result : Except SessionError PamPromptResponseEnvelope)
      (hphase : s.phase = .serving e (.roundTrip prompt next)) :
    Moved x s { s with phase := .serving e (next result) }
  | prompted (e : GreeterRequestEnvelope) (prompt : PamPromptEnvelope)
      (next : Except SessionError PamPromptResponseEnvelope → Serving)
      (result : Except SessionError PamPromptResponseEnvelope)
      (hphase : s.phase = .serving e (.roundTrip prompt next))
      (hsize : size prompt.json ≤ maxGreeterFrameBytes) (hwrites : x.writes = true) :
    Moved x s { (s.readFrame x).2.record (.prompt (s.readFrame x).1) with
      phase := .serving e (next result) }
  | ended (r : Except NiralisdError Unit) (hphase : s.phase = .closed r) : Moved x s s

variable {decoders}

theorem greet_moved {s : GreeterClient} (x : ClientAnswer) (hphase : s.phase = .handshake) :
    Moved decoders x s (s.greet decoders x) := by
  unfold greet
  dsimp only
  split
  · exact .greeted _ hphase (Or.inr ⟨_, rfl⟩)
  · rename_i bytes hframe
    split
    · exact .greeted _ hphase (Or.inr ⟨_, rfl⟩)
    · split
      · exact .greeted _ hphase (Or.inr ⟨_, rfl⟩)
      · split
        · exact .greeted _ hphase (Or.inl ⟨rfl, bytes, hframe⟩)
        · exact .greeted _ hphase (Or.inr ⟨_, rfl⟩)

theorem receive_moved {s : GreeterClient} (x : ClientAnswer) (hphase : s.phase = .reading) :
    Moved decoders x s (s.receive decoders x) := by
  unfold receive
  dsimp only
  split
  · exact .rejected _ hphase
  · exact .rejected _ hphase
  · rename_i bytes hframe
    split
    · exact .rejected _ hphase
    · rename_i e haccept
      exact .handed bytes e hphase hframe haccept

theorem step_moved (s : GreeterClient) (x : ClientAnswer) :
    Moved decoders x s (s.step decoders x) := by
  cases hphase : s.phase with
  | handshake =>
    rw [step, hphase]
    exact greet_moved x hphase
  | reading =>
    rw [step, hphase]
    exact receive_moved x hphase
  | closed r =>
    rw [step, hphase]
    exact .ended r hphase
  | serving e rest =>
    cases rest with
    | respond result =>
      simp only [step, hphase, reply]
      split
      · exact .replied e result hphase (by assumption)
      · rename_i hwrites
        exact .dropped e result hphase (by simpa using hwrites)
    | roundTrip prompt next =>
      simp only [step, hphase, roundTrip]
      split
      · exact .unprompted e prompt next _ hphase
      · split
        · exact .unprompted e prompt next _ hphase
        · rename_i hsize hwrites
          split
          · exact .prompted e prompt next _ hphase (Nat.le_of_not_lt hsize) (by simpa using hwrites)
          · exact .prompted e prompt next _ hphase (Nat.le_of_not_lt hsize) (by simpa using hwrites)

end GreeterClient

end Niralis
