import Niralis.JsonText

namespace Niralis
open JsonText

def greeterProtocolVersion : Nat := 2

def maxGreeterFrameBytes : Nat := 64 * 1024

def maxGreeterPayloadBytes : Nat := 48 * 1024

inductive EnvelopeError
  | unsupportedVersion | invalidSequence | invalidRequestId | invalidPayload | unknownMessageType
  deriving DecidableEq, Repr

/-- `LoginSecret::is_bounded`; answers in clear text are held to the same bounds. -/
def isBounded (value : String) : Bool :=
  value ≠ "" && value.utf8ByteSize ≤ 4096 && !value.toList.contains '\x00'

inductive GreeterRequest
  | status
  | getUsers
  | getSessions
  | login (username session secret : String)
  | cancel (requestId : Nat)
  deriving DecidableEq, Repr

namespace GreeterRequest

def messageType : GreeterRequest → String
  | status => "status"
  | getUsers => "get_users"
  | getSessions => "get_sessions"
  | login .. => "login"
  | cancel _ => "cancel"

/-- The tag `type` comes before the variant's own fields. -/
def json (r : GreeterRequest) : List Char :=
  braced (("type", quoted r.messageType) :: match r with
    | login username session secret =>
      [("username", quoted username), ("session", quoted session), ("secret", quoted secret)]
    | cancel requestId => [("request_id", decimal requestId)]
    | _ => [])

end GreeterRequest

structure GreeterRequestEnvelope where
  protocolVersion : Nat
  messageType : String
  connectionId : String
  connectionEpoch : Nat
  requestId : Nat
  sequence : Nat
  seat : String
  payloadLen : Nat
  payload : GreeterRequest
  deriving DecidableEq, Repr

def GreeterRequestEnvelope.json (e : GreeterRequestEnvelope) : List Char :=
  braced [("protocol_version", decimal e.protocolVersion), ("message_type", quoted e.messageType),
    ("connection_id", quoted e.connectionId), ("connection_epoch", decimal e.connectionEpoch),
    ("request_id", decimal e.requestId), ("sequence", decimal e.sequence), ("seat", quoted e.seat),
    ("payload_len", decimal e.payloadLen), ("payload", e.payload.json)]

def GreeterRequestEnvelope.validateShape (e : GreeterRequestEnvelope) :
    Except EnvelopeError Unit :=
  if e.protocolVersion ≠ greeterProtocolVersion then .error .unsupportedVersion
  else if e.sequence = 0 then .error .invalidSequence
  else if e.requestId = 0 then .error .invalidRequestId
  else if size e.payload.json ≠ e.payloadLen ∨ maxGreeterPayloadBytes < size e.payload.json then
    .error .invalidPayload
  else if (match e.payload with | .login _ _ secret => !isBounded secret | _ => false) then
    .error .invalidPayload
  else if e.messageType ≠ e.payload.messageType then .error .unknownMessageType
  else .ok ()

/-- `MonotonicSequence::accept` on the last sequence number that it took. -/
def acceptSequence (last sequence : Nat) : Except EnvelopeError Nat :=
  if sequence = 0 ∨ sequence ≤ last then .error .invalidSequence else .ok sequence

structure DaemonStatus where
  version : String
  socket : String
  defaultSession : String
  greeterUser : String
  deriving DecidableEq, Repr

structure UserInfo where
  uid : Nat
  username : String
  displayName : String
  deriving DecidableEq, Repr

inductive SessionKind
  | wayland | x11
  deriving DecidableEq, Repr

structure SessionInfo where
  id : String
  name : String
  kind : SessionKind
  deriving DecidableEq, Repr

inductive NiralisRequest
  | status
  | getUsers
  | getSessions
  | login (username password session : String)
  deriving DecidableEq, Repr

inductive NiralisResponse
  | status (status : DaemonStatus)
  | users (users : List UserInfo)
  | sessions (sessions : List SessionInfo)
  | loginOk (session : SessionInfo)
  | sessionUnavailable (message : String)
  | loginFailed (message : String)
  | error (message : String)
  deriving DecidableEq, Repr

def DaemonStatus.json (s : DaemonStatus) : List Char :=
  braced [("version", quoted s.version), ("socket", quoted s.socket),
    ("default_session", quoted s.defaultSession), ("greeter_user", quoted s.greeterUser)]

def UserInfo.json (u : UserInfo) : List Char :=
  braced [("uid", decimal u.uid), ("username", quoted u.username),
    ("display_name", quoted u.displayName)]

def SessionInfo.json (s : SessionInfo) : List Char :=
  braced [("id", quoted s.id), ("name", quoted s.name),
    ("kind", quoted (match s.kind with | .wayland => "wayland" | .x11 => "x11"))]

def NiralisResponse.json : NiralisResponse → List Char
  | status s => braced [("type", quoted "status"), ("status", s.json)]
  | users us => braced [("type", quoted "users"), ("users", bracketed (us.map UserInfo.json))]
  | sessions ss =>
    braced [("type", quoted "sessions"), ("sessions", bracketed (ss.map SessionInfo.json))]
  | loginOk s => braced [("type", quoted "login_ok"), ("session", s.json)]
  | sessionUnavailable m =>
    braced [("type", quoted "session_unavailable"), ("message", quoted m)]
  | loginFailed m => braced [("type", quoted "login_failed"), ("message", quoted m)]
  | error m => braced [("type", quoted "error"), ("message", quoted m)]

structure GreeterResponseEnvelope where
  requestId : Nat
  connectionEpoch : Nat
  result : NiralisResponse
  deriving DecidableEq, Repr

def GreeterResponseEnvelope.json (r : GreeterResponseEnvelope) : List Char :=
  braced [("request_id", decimal r.requestId), ("connection_epoch", decimal r.connectionEpoch),
    ("result", r.result.json)]

structure GreeterHandshake where
  protocolVersion : Nat
  messageType : String
  deriving DecidableEq, Repr

inductive PamMessageStyle
  | promptEchoOff | promptEchoOn | informational | error
  deriving DecidableEq, Repr

def PamMessageStyle.name : PamMessageStyle → String
  | promptEchoOff => "prompt_echo_off"
  | promptEchoOn => "prompt_echo_on"
  | informational => "informational"
  | error => "error"

inductive PamPromptResponse
  | secret (value : String)
  | text (value : String)
  | none
  deriving DecidableEq, Repr

def PamPromptResponse.json : PamPromptResponse → List Char
  | secret value => braced [("Secret", quoted value)]
  | text value => braced [("Text", quoted value)]
  | none => quoted "None"

def PamPromptResponse.encodedLen (r : PamPromptResponse) : Nat := size r.json

structure PamEnvelopeIdentity where
  connectionId : String
  connectionEpoch : Nat
  seat : String
  requestId : Nat
  transactionId : String
  conversationId : String
  promptId : Nat
  sequence : Nat
  style : PamMessageStyle
  deriving DecidableEq, Repr

structure PamPromptEnvelope extends PamEnvelopeIdentity where
  protocolVersion : Nat
  messageType : String
  payloadLen : Nat
  message : String
  deriving DecidableEq, Repr

structure PamPromptResponseEnvelope extends PamEnvelopeIdentity where
  protocolVersion : Nat
  messageType : String
  payloadLen : Nat
  response : PamPromptResponse
  deriving DecidableEq, Repr

/-- The fields of both envelopes in the order they are written. -/
def PamEnvelopeIdentity.fields (i : PamEnvelopeIdentity) (protocolVersion : Nat)
    (messageType : String) (payloadLen : Nat) : List (String × List Char) :=
  [("protocol_version", decimal protocolVersion), ("message_type", quoted messageType),
    ("connection_id", quoted i.connectionId), ("connection_epoch", decimal i.connectionEpoch),
    ("seat", quoted i.seat), ("request_id", decimal i.requestId),
    ("transaction_id", quoted i.transactionId), ("conversation_id", quoted i.conversationId),
    ("prompt_id", decimal i.promptId), ("sequence", decimal i.sequence),
    ("style", quoted i.style.name), ("payload_len", decimal payloadLen)]

def PamPromptEnvelope.json (p : PamPromptEnvelope) : List Char :=
  braced (p.fields p.protocolVersion p.messageType p.payloadLen ++ [("message", quoted p.message)])

def PamPromptResponseEnvelope.json (r : PamPromptResponseEnvelope) : List Char :=
  braced (r.fields r.protocolVersion r.messageType r.payloadLen ++
    [("response", r.response.json)])

def PamEnvelopeIdentity.wellFormed (i : PamEnvelopeIdentity) (protocolVersion : Nat)
    (messageType expected : String) : Bool :=
  protocolVersion = greeterProtocolVersion && messageType = expected && i.requestId ≠ 0 &&
    i.sequence ≠ 0 && i.connectionEpoch ≠ 0 && i.transactionId ≠ "" && i.seat ≠ "" &&
    i.conversationId ≠ "" && i.promptId ≠ 0

def PamPromptEnvelope.validateShape (p : PamPromptEnvelope) : Except EnvelopeError Unit :=
  if !p.wellFormed p.protocolVersion p.messageType "pam_prompt" || !isBounded p.message ||
      p.message.utf8ByteSize ≠ p.payloadLen || p.message.utf8ByteSize > maxGreeterPayloadBytes then
    .error .invalidPayload
  else .ok ()

def PamPromptResponseEnvelope.validateShape (r : PamPromptResponseEnvelope) :
    Except EnvelopeError Unit :=
  if !r.wellFormed r.protocolVersion r.messageType "pam_prompt_response" then .error .invalidPayload
  else if r.response.encodedLen ≠ r.payloadLen ∨ maxGreeterPayloadBytes < r.response.encodedLen then
    .error .invalidPayload
  else match r.style, r.response with
    | .promptEchoOff, .secret value => if isBounded value then .ok () else .error .invalidPayload
    | .promptEchoOn, .text value => if isBounded value then .ok () else .error .invalidPayload
    | .informational, .none | .error, .none => .ok ()
    | _, _ => .error .invalidPayload

end Niralis
