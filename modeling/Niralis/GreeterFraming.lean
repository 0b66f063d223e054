import Niralis.ClientProtocol

namespace Niralis
open JsonText

structure GreeterHandshakeResponse where
  protocolVersion : Nat
  connectionId : String
  connectionEpoch : Nat
  seat : String
  deriving DecidableEq, Repr

def GreeterHandshakeResponse.json (r : GreeterHandshakeResponse) : List Char :=
  braced [("protocol_version", decimal r.protocolVersion), ("connection_id", quoted r.connectionId),
    ("connection_epoch", decimal r.connectionEpoch), ("seat", quoted r.seat)]

structure Serialized where
  text : List Char
  unbroken : '\n' ∉ text

/-- `write_json_line` on a socket that takes every byte. -/
def writeJsonLine (value : Serialized) : Except NiralisdError (List UInt8) :=
  if maxGreeterFrameBytes < (bytes value.text).length then .error .frameTooLarge
  else .ok (bytes value.text ++ [10])

theorem UserInfo.newline_not_mem_json (u : UserInfo) : '\n' ∉ u.json :=
  newline_not_mem_braced (by simp [newline_not_mem_quoted, newline_not_mem_decimal])

theorem SessionInfo.newline_not_mem_json (s : SessionInfo) : '\n' ∉ s.json :=
  newline_not_mem_braced (by simp [newline_not_mem_quoted])

theorem newline_not_mem_bracketed {items : List (List Char)} (h : ∀ item ∈ items, '\n' ∉ item) :
    '\n' ∉ bracketed items := by
  have hjoined := newline_not_mem_joined h
  simp [bracketed, hjoined]

theorem NiralisResponse.newline_not_mem_json (r : NiralisResponse) : '\n' ∉ r.json := by
  have hmessage : ∀ kind key message, '\n' ∉ braced [("type", quoted kind), (key, quoted message)] :=
    fun kind key message => newline_not_mem_braced (by simp [newline_not_mem_quoted])
  cases r with
  | status s =>
    have hs : '\n' ∉ s.json := newline_not_mem_braced (by simp [newline_not_mem_quoted])
    exact newline_not_mem_braced (by simp [newline_not_mem_quoted, hs])
  | users us =>
    have hus : '\n' ∉ bracketed (us.map UserInfo.json) :=
      newline_not_mem_bracketed (by simp [UserInfo.newline_not_mem_json])
    exact newline_not_mem_braced (by simp [newline_not_mem_quoted, hus])
  | sessions ss =>
    have hss : '\n' ∉ bracketed (ss.map SessionInfo.json) :=
      newline_not_mem_bracketed (by simp [SessionInfo.newline_not_mem_json])
    exact newline_not_mem_braced (by simp [newline_not_mem_quoted, hss])
  | loginOk s => exact newline_not_mem_braced (by simp [newline_not_mem_quoted, s.newline_not_mem_json])
  | sessionUnavailable m => exact hmessage _ _ m
  | loginFailed m => exact hmessage _ _ m
  | error m => exact hmessage _ _ m

def GreeterResponseEnvelope.serialized (e : GreeterResponseEnvelope) : Serialized where
  text := e.json
  unbroken := newline_not_mem_braced (by
    simp [newline_not_mem_decimal, NiralisResponse.newline_not_mem_json])

def GreeterHandshakeResponse.serialized (r : GreeterHandshakeResponse) : Serialized where
  text := r.json
  unbroken := newline_not_mem_braced (by simp [newline_not_mem_quoted, newline_not_mem_decimal])

def PamPromptEnvelope.serialized (p : PamPromptEnvelope) : Serialized where
  text := p.json
  unbroken := newline_not_mem_braced (by
    simp [PamEnvelopeIdentity.fields, newline_not_mem_quoted, newline_not_mem_decimal])

def writeResponse (e : GreeterResponseEnvelope) : Except NiralisdError (List UInt8) :=
  if maxGreeterFrameBytes < (bytes e.serialized.text).length then
    writeJsonLine { e with result := .error "response unavailable" : GreeterResponseEnvelope }.serialized
  else .ok (bytes e.serialized.text ++ [10])

def writePrompt (p : PamPromptEnvelope) : Except SessionError (List UInt8) :=
  if maxGreeterFrameBytes < (bytes p.serialized.text).length then .error .workerProtocolFailed
  else .ok (bytes p.serialized.text ++ [10])

inductive CliError
  | io
  | greeterProtocol (message : String)
  deriving DecidableEq, Repr

/-- `read_greeter_line` into an empty buffer: a line is taken from the stream up to its end before
anything about it is checked. -/
def readGreeterLine (stream : List UInt8) : Except CliError String × List UInt8 :=
  let (line, rest) := Framing.readUntil 10 stream
  match String.fromUTF8? ⟨line.toArray⟩ with
  | none => (.error .io, rest)
  | some text =>
    if line.length = 0 then (.error (.greeterProtocol "unexpected end of stream"), rest)
    else if maxGreeterFrameBytes < line.length ∨ text.toList.getLast? ≠ some '\n' then
      (.error (.greeterProtocol "invalid frame"), rest)
    else (.ok text, rest)

def readGreeterLines : Nat → List UInt8 → List (Except CliError String) × List UInt8
  | 0, stream => ([], stream)
  | n + 1, stream =>
    let (first, rest) := readGreeterLine stream
    let (more, rest) := readGreeterLines n rest
    (first :: more, rest)

inductive GreeterMessage
  | line (value : Serialized)
  | response (envelope : GreeterResponseEnvelope)
  | prompt (envelope : PamPromptEnvelope)

namespace GreeterMessage

def write : GreeterMessage → Option (List UInt8)
  | line value => (writeJsonLine value).toOption
  | response e => (writeResponse e).toOption
  | prompt p => (writePrompt p).toOption

/-- The message as it is encoded before any limit is checked. -/
def encoded : GreeterMessage → Serialized
  | line value => value
  | response e => e.serialized
  | prompt p => p.serialized

def Wide : GreeterMessage → Prop
  | response e => e.requestId < 2 ^ 64 ∧ e.connectionEpoch < 2 ^ 64
  | _ => True

def frame : GreeterMessage → Serialized
  | line value => value
  | response e => (responseEnvelope e).serialized
  | prompt p => p.serialized

end GreeterMessage

/-- The stream that the messages make when each of them is written without an error. -/
def writeMessages : List GreeterMessage → Option (List UInt8)
  | [] => some []
  | m :: ms => do
    let first ← m.write
    let more ← writeMessages ms
    pure (first ++ more)

theorem toOption_ite {ε : Type} (p : Prop) [Decidable p] (e : ε) (line : List UInt8) :
    (if p then .error e else .ok line : Except ε (List UInt8)).toOption =
      if p then none else some line := by
  split <;> rfl

theorem unavailable_size {e : GreeterResponseEnvelope} (hid : e.requestId < 2 ^ 64)
    (hepoch : e.connectionEpoch < 2 ^ 64) :
    size { e with result := .error "response unavailable" : GreeterResponseEnvelope }.json <
      maxGreeterFrameBytes := by
  have hid' : number e.requestId ≤ 20 := number_le (by decide) (Nat.lt_trans hid (by decide))
  have hepoch' : number e.connectionEpoch ≤ 20 := number_le (by decide) (Nat.lt_trans hepoch (by decide))
  have hresult : size (NiralisResponse.error "response unavailable").json = 49 := by
    rw [NiralisResponse.json, size_braced]
    simp only [List.map_cons, List.map_nil, size_quoted]
    decide
  rw [GreeterResponseEnvelope.json, size_braced]
  simp only [List.map_cons, List.map_nil, size_decimal, hresult]
  have hkeys : text "request_id" = 12 ∧ text "connection_epoch" = 18 ∧ text "result" = 8 := by decide
  simp only [object, separated, List.map_cons, List.map_nil, List.sum_cons, List.sum_nil,
    List.length_cons, List.length_nil, hkeys.1, hkeys.2.1, hkeys.2.2, maxGreeterFrameBytes]
  omega

namespace GreeterMessage
variable {m : GreeterMessage} {line : List UInt8}

theorem serialized_frame (e : GreeterResponseEnvelope) :
    (response e).frame = if maxGreeterFrameBytes < (bytes e.serialized.text).length then
      { e with result := .error "response unavailable" : GreeterResponseEnvelope }.serialized
    else e.serialized := by
  rw [frame, responseEnvelope, length_bytes]
  exact apply_ite GreeterResponseEnvelope.serialized _ _ _

/-- What a writer puts on the stream is the message's frame with a line feed. -/
theorem write_eq (m : GreeterMessage) :
    m.write = if maxGreeterFrameBytes < size m.frame.text then none
      else some (bytes m.frame.text ++ [10]) := by
  have hline : ∀ value : Serialized, (writeJsonLine value).toOption =
      if maxGreeterFrameBytes < size value.text then none else some (bytes value.text ++ [10]) := by
    intro value
    rw [writeJsonLine, length_bytes, toOption_ite]
  cases m with
  | line value => exact hline value
  | prompt p => rw [write, writePrompt, length_bytes, toOption_ite, frame]
  | response e =>
    rw [write, writeResponse, serialized_frame]
    split
    · exact hline _
    · rename_i hlong
      rw [length_bytes] at hlong
      rw [if_neg hlong]
      rfl

/-- The limit falls between the frame and its encoding only where a response is replaced. -/
theorem frame_size_lt (hwide : m.Wide) (hfits : size m.frame.text ≤ maxGreeterFrameBytes) :
    size m.frame.text < maxGreeterFrameBytes ↔ size m.encoded.text ≠ maxGreeterFrameBytes := by
  have hsame : ∀ value : Serialized, size value.text ≤ maxGreeterFrameBytes →
      (size value.text < maxGreeterFrameBytes ↔ size value.text ≠ maxGreeterFrameBytes) := by
    intro value hvalue
    omega
  cases m with
  | line value => exact hsame value hfits
  | prompt p => exact hsame p.serialized hfits
  | response e =>
    rw [serialized_frame] at hfits ⊢
    split
    · rename_i hlong
      rw [length_bytes] at hlong
      have hreplaced := unavailable_size hwide.1 hwide.2
      exact ⟨fun _ => Nat.ne_of_gt hlong, fun _ => hreplaced⟩
    · rename_i hshort
      rw [if_neg hshort] at hfits
      exact hsame e.serialized hfits

end GreeterMessage

section Reading

theorem bytes_toList (text : String) : bytes text.toList = text.toByteArray.data.toList := by
  rw [← String.utf8Encode_toList, List.utf8Encode]
  simp [bytes]

theorem fromUTF8?_bytes (text : List Char) :
    String.fromUTF8? ⟨(bytes text).toArray⟩ = some (String.ofList text) := by
  have hbytes : (⟨(bytes text).toArray⟩ : ByteArray) = (String.ofList text).toByteArray := by
    have := bytes_toList (String.ofList text)
    rw [String.toList_ofList] at this
    rw [this]
  rw [hbytes, String.fromUTF8?, dif_pos (String.ofList text).isValidUTF8]
  rfl

theorem bytes_of_fromUTF8? {line : List UInt8} {text : String}
    (h : String.fromUTF8? ⟨line.toArray⟩ = some text) : bytes text.toList = line := by
  rw [bytes_toList]
  unfold String.fromUTF8? at h
  split at h
  · rw [← Option.some.inj h]
    rfl
  · cases h

theorem getLast_of_fromUTF8? {line : List UInt8} {text : String}
    (h : String.fromUTF8? ⟨(line ++ [10]).toArray⟩ = some text) :
    text.toList.getLast? = some '\n' := by
  have hbytes := bytes_of_fromUTF8? h
  rcases List.eq_nil_or_concat text.toList with hnil | ⟨chars, c, hconcat⟩
  · rw [hnil] at hbytes
    simp [bytes] at hbytes
  · rw [hconcat]
    have hlast : bytes chars ++ String.utf8EncodeChar c = line ++ [10] := by
      rw [← hbytes, hconcat]
      simp [bytes]
    have hne : String.utf8EncodeChar c ≠ [] := fun hnil => by
      have := c.utf8Size_pos
      have hlen := congrArg List.length hnil
      simp at hlen
      omega
    -- the last byte is the last byte of the last character
    have hten : (10 : UInt8) ∈ String.utf8EncodeChar c := by
      have hget := congrArg List.getLast? hlast
      rw [List.getLast?_append_of_ne_nil _ hne, List.getLast?_concat] at hget
      exact List.mem_of_getLast? hget
    rw [(newline_mem_utf8EncodeChar c).mp hten]
    simp

theorem readGreeterLine_line {line : List UInt8} (hline : 10 ∉ line) (rest : List UInt8) :
    readGreeterLine (line ++ 10 :: rest) =
      (match String.fromUTF8? ⟨(line ++ [10]).toArray⟩ with
        | none => .error .io
        | some text => if maxGreeterFrameBytes ≤ line.length then
            .error (.greeterProtocol "invalid frame") else .ok text, rest) := by
  rw [readGreeterLine, Framing.readUntil_line hline]
  dsimp only
  cases htext : String.fromUTF8? ⟨(line ++ [10]).toArray⟩ with
  | none => rfl
  | some text =>
    dsimp only
    have hlast := getLast_of_fromUTF8? htext
    rw [List.length_append, List.length_singleton, if_neg (Nat.succ_ne_zero _), hlast]
    by_cases hlong : maxGreeterFrameBytes ≤ line.length
    · rw [if_pos (Or.inl (Nat.lt_succ_of_le hlong)), if_pos hlong]
    · rw [if_neg hlong, if_neg]
      rintro (h | h)
      · exact hlong (Nat.le_of_lt_succ h)
      · exact h rfl

def readFrameBytes (stream : List UInt8) : Except NiralisdError (List UInt8) × List UInt8 :=
  let (result, rest) := Framing.readLine maxGreeterFrameBytes none stream
  (result.mapError frameError, rest)

theorem readFrameBytes_line {line : List UInt8} (hline : 10 ∉ line) (rest : List UInt8) :
    (readFrameBytes (line ++ 10 :: rest)).1.isOk ↔ line.length < maxGreeterFrameBytes := by
  by_cases hlong : line.length < maxGreeterFrameBytes
  · rw [readFrameBytes, Framing.readLine_line hline hlong]
    exact ⟨fun _ => hlong, fun _ => rfl⟩
  · have hsplit : line ++ 10 :: rest = line.take maxGreeterFrameBytes ++
        (line.drop maxGreeterFrameBytes ++ 10 :: rest) := by
      rw [← List.append_assoc, List.take_append_drop]
    have htake : (line.take maxGreeterFrameBytes).length = maxGreeterFrameBytes :=
      List.length_take_of_le (Nat.le_of_not_lt hlong)
    rw [readFrameBytes, hsplit, Framing.readLine_long (fun h => hline (List.mem_of_mem_take h)) htake]
    exact ⟨fun h => (by cases h), fun h => absurd h hlong⟩

theorem readGreeterLine_isOk {line : List UInt8} (hline : 10 ∉ line) (rest : List UInt8) :
    (readGreeterLine (line ++ 10 :: rest)).1.isOk ↔
      line.length < maxGreeterFrameBytes ∧ (String.fromUTF8? ⟨(line ++ [10]).toArray⟩).isSome := by
  rw [readGreeterLine_line hline]
  cases String.fromUTF8? ⟨(line ++ [10]).toArray⟩ with
  | none => exact ⟨fun h => (by cases h), fun h => (by cases h.2)⟩
  | some text =>
    dsimp only
    by_cases hlong : maxGreeterFrameBytes ≤ line.length
    · rw [if_pos hlong]
      exact ⟨fun h => (by cases h), fun h => absurd hlong (Nat.not_le_of_lt h.1)⟩
    · rw [if_neg hlong]
      exact ⟨fun _ => ⟨Nat.lt_of_not_le hlong, rfl⟩, fun _ => rfl⟩

def Serialized.line (value : Serialized) : String := String.ofList (value.text ++ ['\n'])

theorem readGreeterLine_frame (value : Serialized) (rest : List UInt8) :
    readGreeterLine (bytes value.text ++ 10 :: rest) =
      (if maxGreeterFrameBytes ≤ size value.text then .error (.greeterProtocol "invalid frame")
        else .ok value.line, rest) := by
  have hline : (10 : UInt8) ∉ bytes value.text := fun h => value.unbroken (newline_mem_bytes.mp h)
  have hbytes : bytes value.text ++ [10] = bytes (value.text ++ ['\n']) := by
    rw [bytes, bytes, List.flatMap_append]
    rfl
  rw [readGreeterLine_line hline, hbytes, fromUTF8?_bytes, length_bytes]
  rfl

end Reading

theorem writeMessages_cons {m : GreeterMessage} {ms : List GreeterMessage} {stream : List UInt8}
    (h : writeMessages (m :: ms) = some stream) :
    size m.frame.text ≤ maxGreeterFrameBytes ∧ ∃ more, writeMessages ms = some more ∧
      stream = bytes m.frame.text ++ 10 :: more := by
  rw [writeMessages, m.write_eq] at h
  split at h
  · cases h
  · rename_i hfits
    refine ⟨Nat.le_of_not_lt hfits, ?_⟩
    cases hmore : writeMessages ms with
    | none =>
      rw [hmore] at h
      cases h
    | some more =>
      rw [hmore] at h
      refine ⟨more, rfl, ?_⟩
      have := Option.some.inj h
      rw [← this]
      simp

theorem writeMessages_of_fit {ms : List GreeterMessage}
    (h : ∀ m ∈ ms, size m.frame.text ≤ maxGreeterFrameBytes) :
    writeMessages ms = some (ms.flatMap fun m => bytes m.frame.text ++ [10]) := by
  induction ms with
  | nil => rfl
  | cons m ms ih =>
    have hfits := h m List.mem_cons_self
    rw [writeMessages, m.write_eq, if_neg (Nat.not_lt_of_le hfits),
      ih fun m' hm' => h m' (List.mem_cons_of_mem m hm')]
    rfl

/-- The frames of a list of messages come back in their order, whatever their lengths; those of
the greatest length come back refused. -/
theorem readGreeterLines_written {ms : List GreeterMessage} {stream : List UInt8}
    (h : writeMessages ms = some stream) :
    readGreeterLines ms.length stream =
      (ms.map fun m => if maxGreeterFrameBytes ≤ size m.frame.text then
        .error (.greeterProtocol "invalid frame") else .ok m.frame.line, []) := by
  induction ms generalizing stream with
  | nil =>
    have := Option.some.inj h
    subst this
    rfl
  | cons m ms ih =>
    obtain ⟨-, more, hmore, rfl⟩ := writeMessages_cons h
    rw [List.length_cons, readGreeterLines, readGreeterLine_frame]
    dsimp only
    rw [ih hmore, List.map_cons]

theorem frames_fit {ms : List GreeterMessage} {stream : List UInt8}
    (h : writeMessages ms = some stream) : ∀ m ∈ ms, size m.frame.text ≤ maxGreeterFrameBytes := by
  induction ms generalizing stream with
  | nil => simp
  | cons m ms ih =>
    obtain ⟨hfits, more, hmore, -⟩ := writeMessages_cons h
    intro m' hm'
    rcases List.mem_cons.mp hm' with rfl | hm'
    · exact hfits
    · exact ih hmore m' hm'

/-- The client gets back what the daemon wrote exactly if no message takes the whole limit, and of the
lines that end in a line feed both readers take the same, unless one is not text and not too long. -/
theorem written_frames_read_back {ms : List GreeterMessage} {stream : List UInt8}
    (hwritten : writeMessages ms = some stream) (hwide : ∀ m ∈ ms, m.Wide) {line : List UInt8}
    (hline : 10 ∉ line) (rest : List UInt8) :
    (readGreeterLines ms.length stream = (ms.map fun m => .ok m.frame.line, []) ↔
      ∀ m ∈ ms, size m.encoded.text ≠ maxGreeterFrameBytes) ∧
    (((readGreeterLine (line ++ 10 :: rest)).1.isOk ↔ (readFrameBytes (line ++ 10 :: rest)).1.isOk) ↔
      (String.fromUTF8? ⟨(line ++ [10]).toArray⟩).isSome ∨ maxGreeterFrameBytes ≤ line.length) := by
  constructor
  · rw [readGreeterLines_written hwritten]
    have hfit := frames_fit hwritten
    constructor
    · intro h m hm
      have hmap := List.map_inj_left.mp (Prod.ext_iff.mp h).1 m hm
      refine (GreeterMessage.frame_size_lt (hwide m hm) (hfit m hm)).mp ?_
      by_contra hlong
      rw [if_pos (Nat.le_of_not_lt hlong)] at hmap
      cases hmap
    · intro h
      refine Prod.ext (List.map_congr_left fun m hm => ?_) rfl
      have hlt := (GreeterMessage.frame_size_lt (hwide m hm) (hfit m hm)).mpr (h m hm)
      exact if_neg (Nat.not_le_of_lt hlt)
  · rw [readGreeterLine_isOk hline, readFrameBytes_line hline]
    by_cases hlong : maxGreeterFrameBytes ≤ line.length
    · have hnot : ¬line.length < maxGreeterFrameBytes := Nat.not_lt_of_le hlong
      simp only [hnot, hlong, false_and, or_true]
    · have hlt : line.length < maxGreeterFrameBytes := Nat.lt_of_not_le hlong
      simp only [hlt, hlong, true_and, or_false, iff_true]

/-- The answer to a request for the users, with one user whose full name has `n` letters. -/
def usersResponse (n : Nat) : GreeterResponseEnvelope where
  requestId := 1
  connectionEpoch := 1
  result := .users [{ uid := 1000, username := "ana", displayName := String.ofList (List.replicate n 'a') }]

theorem usersResponse_size (n : Nat) : size (usersResponse n).json = 121 + n := by
  have hname : text (String.ofList (List.replicate n 'a')) = n + 2 := by
    have hchar : charBytes 'a' = 1 := by decide
    simp [text, hchar]
    omega
  have huser : text "uid" = 5 ∧ text "username" = 10 ∧ text "display_name" = 14 ∧ text "ana" = 5 ∧
      number 1000 = 4 := by decide
  have hkeys : text "request_id" = 12 ∧ text "connection_epoch" = 18 ∧ text "result" = 8 ∧
      text "type" = 6 ∧ text "users" = 7 ∧ number 1 = 1 := by decide
  simp only [GreeterResponseEnvelope.json, usersResponse, NiralisResponse.json, UserInfo.json, size_braced,
    size_bracketed, size_quoted, size_decimal, List.map_cons, List.map_nil, object, array, separated,
    List.sum_cons, List.sum_nil, List.length_cons, List.length_nil, hname, huser, hkeys]
  omega

theorem usersResponse_frame {n : Nat} (hn : 121 + n ≤ maxGreeterFrameBytes) :
    (GreeterMessage.response (usersResponse n)).frame.text = (usersResponse n).json := by
  have hsize := usersResponse_size n
  rw [GreeterMessage.frame, responseEnvelope, if_neg (by omega)]
  rfl

/-- A client that asks for the users gets no answer where that takes the whole limit. -/
theorem full_frame_refused :
    ∃ stream, writeMessages [.response (usersResponse 65415)] = some stream ∧
      size (usersResponse 65415).json ≤ maxGreeterFrameBytes ∧
      readGreeterLines 1 stream = ([.error (.greeterProtocol "invalid frame")], []) := by
  have hsize : size (usersResponse 65415).json = maxGreeterFrameBytes := usersResponse_size 65415
  have hframe : size (GreeterMessage.response (usersResponse 65415)).frame.text =
      maxGreeterFrameBytes := by
    rw [usersResponse_frame (by decide), hsize]
  have hfit : ∀ m ∈ [GreeterMessage.response (usersResponse 65415)],
      size m.frame.text ≤ maxGreeterFrameBytes := fun m hm => by
    rw [List.mem_singleton.mp hm]
    exact Nat.le_of_eq hframe
  have hwritten := writeMessages_of_fit hfit
  refine ⟨_, hwritten, Nat.le_of_eq hsize, ?_⟩
  have hread := readGreeterLines_written hwritten
  rw [List.map_cons, if_pos (Nat.le_of_eq hframe.symm)] at hread
  exact hread

/-- What a greeter gets that greets, asks for the users and is asked for a password. The second
message is as long as a message can be that comes back. -/
def greetingMessages : List GreeterMessage :=
  [.line (GreeterHandshakeResponse.mk 1 "c-1" 1 "seat0").serialized,
    .response (usersResponse 65414),
    .prompt ⟨⟨"c-1", 1, "seat0", 2, "t-1", "v-1", 1, 1, .promptEchoOff⟩, 1, "pam_prompt", 10, "Password: "⟩]

theorem greetingMessages_short {m : GreeterMessage} (hm : m ∈ greetingMessages) :
    m.Wide ∧ size m.frame.text < maxGreeterFrameBytes := by
  simp only [greetingMessages, List.mem_cons, List.not_mem_nil, or_false] at hm
  rcases hm with rfl | rfl | rfl
  · exact ⟨trivial, by decide +kernel⟩
  · refine ⟨⟨by decide, by decide⟩, ?_⟩
    rw [usersResponse_frame (by decide), usersResponse_size]
    decide
  · exact ⟨trivial, by decide +kernel⟩

/-- Three writers' frames come back from one stream, and both readers take an empty list. -/
theorem greetingMessages_read :
    ∃ stream, writeMessages greetingMessages = some stream ∧
      size (usersResponse 65414).json + 1 = maxGreeterFrameBytes ∧
      readGreeterLines 3 stream = (greetingMessages.map fun m => .ok m.frame.line, []) ∧
      ((readGreeterLine (bytes ['[', ']'] ++ [10])).1.isOk ↔
        (readFrameBytes (bytes ['[', ']'] ++ [10])).1.isOk) := by
  have hwritten := writeMessages_of_fit fun m hm => Nat.le_of_lt (greetingMessages_short hm).2
  have hwide : ∀ m ∈ greetingMessages, m.Wide := fun m hm => (greetingMessages_short hm).1
  have hline : (10 : UInt8) ∉ bytes ['[', ']'] := by decide
  obtain ⟨hback, hreaders⟩ := written_frames_read_back hwritten hwide hline []
  refine ⟨_, hwritten, by rw [usersResponse_size]; rfl, hback.mpr fun m hm => ?_,
    hreaders.mpr (Or.inl ?_)⟩
  · obtain ⟨hm', hshort⟩ := greetingMessages_short hm
    exact (GreeterMessage.frame_size_lt hm' (Nat.le_of_lt hshort)).mp hshort
  · have htext : bytes ['[', ']'] ++ [10] = bytes ['[', ']', '\n'] := rfl
    rw [htext, fromUTF8?_bytes]
    rfl

end Niralis
