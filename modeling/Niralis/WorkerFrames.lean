import Niralis.BracketText
import Niralis.ChunkedReader
import Niralis.WorkerMessages

namespace Niralis.WorkerFrames
open BracketText ChunkedReader

structure WorkerEnvelope (α : Type) where
  version : Nat
  message : α
  deriving DecidableEq

/-- `serde_json::to_vec` and `serde_json::from_slice` at a type. -/
structure Codec (α : Type) where
  encode : α → Option (List UInt8)
  decode : List UInt8 → Option α

variable {α β : Type}

/-- What `serde_json` is relied on for: an encoding is one line and is decoded to what it encodes; a
document is one object or array, whatever white space is around it. -/
structure Codec.Lawful (codec : Codec α) : Prop where
  encode_line : ∀ {m text}, codec.encode m = some text → 10 ∉ text
  decode_encode : ∀ {m text}, codec.encode m = some text → codec.decode text = some m
  decode_padded : ∀ {before text after}, (∀ b ∈ before, isSpace b = true) → IsBracketed text →
    (∀ b ∈ after, isSpace b = true) → codec.decode (before ++ text ++ after) = codec.decode text
  decode_value : ∀ {text m}, codec.decode text = some m → ∃ before value after,
    text = before ++ value ++ after ∧ (∀ b ∈ before, isSpace b = true) ∧ IsBracketed value ∧
      ∀ b ∈ after, isSpace b = true

section Writers

/-- Where a write fails: within the payload, at the line feed or in the flush. -/
inductive WriteFault
  | payload (count : Nat)
  | terminator
  | flush
  deriving DecidableEq

def writeLine (limit : Nat) (payload : Option (List UInt8)) (fault : Option WriteFault)
    (written : List UInt8) : Except SessionError Unit × List UInt8 :=
  match payload with
  | none => (.error .workerIoFailed, written)
  | some payload =>
    if limit < payload.length + 1 then (.error .workerProtocolFailed, written)
    else
      match fault with
      | none => (.ok (), written ++ payload ++ [10])
      | some (.payload count) => (.error .workerIoFailed, written ++ payload.take count)
      | some .terminator => (.error .workerIoFailed, written ++ payload)
      | some .flush => (.error .workerIoFailed, written ++ payload ++ [10])

def writeEnvelope (codec : Codec (WorkerEnvelope α)) (message : α) (fault : Option WriteFault)
    (written : List UInt8) : Except SessionError Unit × List UInt8 :=
  writeLine maxWorkerMessageBytes (codec.encode ⟨workerProtocolVersion, message⟩) fault written

def writeControlRequest (codec : Codec (WorkerEnvelope β)) (request : β)
    (fault : Option WriteFault) (written : List UInt8) : Except SessionError Unit × List UInt8 :=
  writeLine maxWorkerControlMessageBytes (codec.encode ⟨workerControlProtocolVersion, request⟩)
    fault written

end Writers

section Readers

/-- The end of the stream is the other side's fault for the one reader only. -/
def messageFailure : LineError → SessionError
  | .read .other => .workerIoFailed
  | .read .unexpectedEof => .workerProtocolFailed
  | .tooLong => .workerProtocolFailed

def controlFailure : LineError → SessionError
  | .read _ => .workerIoFailed
  | .tooLong => .workerProtocolFailed

/-- Its loop stops at more bytes than the limit, so that the length is checked once more. -/
def readMessageBytes (reader : Reader) : Except SessionError (List UInt8) × Reader :=
  match readLine (maxWorkerMessageBytes + 1) reader with
  | (.error error, rest) => (.error (messageFailure error), rest)
  | (.ok bytes, rest) =>
    if bytes = [] ∨ maxWorkerMessageBytes < bytes.length then (.error .workerProtocolFailed, rest)
    else (.ok bytes, rest)

def parseEnvelopeBytes (codec : Codec (WorkerEnvelope α)) (bytes : List UInt8) :
    Except SessionError (WorkerEnvelope α) :=
  if bytes.getLast? ≠ some 10 then .error .workerProtocolFailed
  else if bytes.dropLast = [] ∨ 10 ∈ bytes.dropLast then .error .workerProtocolFailed
  else (codec.decode bytes.dropLast).elim (.error .workerProtocolFailed) .ok

def readEnvelope (codec : Codec (WorkerEnvelope α)) (reader : Reader) :
    Except SessionError (WorkerEnvelope α) × Reader :=
  match readMessageBytes reader with
  | (.error error, rest) => (.error error, rest)
  | (.ok bytes, rest) => (parseEnvelopeBytes codec bytes, rest)

def readControlMessageBytes (reader : Reader) : Except SessionError (List UInt8) × Reader :=
  match readLine maxWorkerControlMessageBytes reader with
  | (.error error, rest) => (.error (controlFailure error), rest)
  | (.ok bytes, rest) =>
    if bytes.length ≤ maxWorkerControlMessageBytes then (.ok bytes, rest)
    else (.error .workerProtocolFailed, rest)

def readControlRequest (codec : Codec (WorkerEnvelope β)) (reader : Reader) :
    Except SessionError (WorkerEnvelope β) × Reader :=
  match readControlMessageBytes reader with
  | (.error error, rest) => (.error error, rest)
  | (.ok bytes, rest) =>
    if bytes.getLast? ≠ some 10 then (.error .workerProtocolFailed, rest)
    else ((codec.decode bytes.dropLast).elim (.error .workerProtocolFailed) .ok, rest)

end Readers

section Streams
variable {stream : List UInt8}

/-- A stream that is there at once is read the way one is that arrives in pieces. -/
theorem readLineFrom_ok_of_stream {taken line more : List UInt8} {reader : Reader}
    (hbytes : bytes reader = stream)
    (h : Niralis.readControlMessageBytes taken stream = .ok (line, more)) :
    line.length ≤ maxWorkerControlMessageBytes ∧
      ∃ rest, readLineFrom maxWorkerControlMessageBytes taken reader = (.ok line, rest) ∧
        bytes rest = more := by
  induction stream generalizing taken reader with
  | nil => cases h
  | cons b stream ih =>
    obtain ⟨next, hread, hnext, -⟩ := readByte_of_cons hbytes
    have hlength : (taken ++ [b]).length = taken.length + 1 := by simp
    rw [readLineFrom_of_ok hread, hlength]
    unfold Niralis.readControlMessageBytes at h
    split at h
    next hline =>
      rw [if_pos hline]
      split at h
      · cases h
        exact ⟨by omega, next, rfl, hnext⟩
      · cases h
    next hline =>
      rw [if_neg hline]
      split at h
      · cases h
      next hshort =>
        rw [if_neg hshort]
        exact ih hnext h

theorem readLineFrom_error_of_stream {taken : List UInt8} {reader : Reader} {e : SessionError}
    (hbytes : bytes reader = stream)
    (h : Niralis.readControlMessageBytes taken stream = .error e) :
    (∃ error rest, readLineFrom maxWorkerControlMessageBytes taken reader = (.error error, rest) ∧
      controlFailure error = e) ∨
    ∃ line rest, readLineFrom maxWorkerControlMessageBytes taken reader = (.ok line, rest) ∧
      maxWorkerControlMessageBytes < line.length ∧ e = .workerProtocolFailed := by
  induction stream generalizing taken reader with
  | nil =>
    cases h
    obtain ⟨rest, hread⟩ := readByte_of_nil hbytes
    exact Or.inl ⟨_, rest, readLineFrom_of_error hread, rfl⟩
  | cons b stream ih =>
    obtain ⟨next, hread, hnext, -⟩ := readByte_of_cons hbytes
    have hlength : (taken ++ [b]).length = taken.length + 1 := by simp
    rw [readLineFrom_of_ok hread, hlength]
    unfold Niralis.readControlMessageBytes at h
    split at h
    next hline =>
      rw [if_pos hline]
      split at h
      · cases h
      · cases h
        exact Or.inr ⟨_, next, rfl, by omega, rfl⟩
    next hline =>
      rw [if_neg hline]
      split at h
      next hlong =>
        cases h
        rw [if_pos hlong]
        exact Or.inl ⟨_, next, rfl, rfl⟩
      next hshort =>
        rw [if_neg hshort]
        exact ih hnext h

/-- The requests of a conversation are read from the channel as from a stream. -/
theorem readControlRequest_of_stream (codec : Codec (WorkerEnvelope β)) (reader : Reader) :
    (∀ request more, Niralis.readControlRequest codec.decode (bytes reader) = .ok (request, more) →
      ∃ rest, readControlRequest codec reader = (.ok request, rest) ∧ bytes rest = more) ∧
    ∀ e, Niralis.readControlRequest codec.decode (bytes reader) = .error e →
      (readControlRequest codec reader).1 = .error e := by
  cases hread : Niralis.readControlMessageBytes [] (bytes reader) with
  | ok taken =>
    obtain ⟨line, more⟩ := taken
    obtain ⟨hlength, rest, hline, hmore⟩ := readLineFrom_ok_of_stream rfl hread
    have hbytes : readControlMessageBytes reader = (.ok line, rest) := by
      unfold readControlMessageBytes readLine
      rw [hline]
      exact if_pos hlength
    unfold readControlRequest Niralis.readControlRequest
    rw [hbytes, hread]
    by_cases hend : line.getLast? = some 10
    · cases hdecode : codec.decode line.dropLast with
      | none => simp [hend, hdecode, bind, Except.bind, throw, throwThe, MonadExceptOf.throw]
      | some request => simp [hend, hdecode, hmore, bind, Except.bind, pure, Except.pure]
    · simp [hend, bind, Except.bind, throw, throwThe, MonadExceptOf.throw]
  | error e =>
    have hfailed : (readControlMessageBytes reader).1 = .error e := by
      unfold readControlMessageBytes readLine
      rcases readLineFrom_error_of_stream rfl hread with ⟨error, rest, hline, rfl⟩ |
        ⟨line, rest, hline, hlong, rfl⟩
      · rw [hline]
      · rw [hline]
        exact congrArg Prod.fst (if_neg (Nat.not_le_of_lt hlong))
    unfold readControlRequest Niralis.readControlRequest
    rw [hread]
    refine ⟨fun request more h => (by cases h), fun e' h => ?_⟩
    cases h
    revert hfailed
    generalize readControlMessageBytes reader = result
    intro hfailed
    obtain ⟨r, rest⟩ := result
    cases hfailed
    rfl

/-- What is written whole or not at all is written to the channel in one piece, if nothing fails. -/
theorem writeLine_of_line {limit : Nat} {json : List Char} {line written : List UInt8}
    (h : Niralis.writeLine limit json = .ok line) :
    writeLine limit (some (JsonText.bytes json)) none written = (.ok (), written ++ line) := by
  unfold Niralis.writeLine at h
  unfold writeLine
  split at h
  · cases h
  next hfits =>
    cases h
    dsimp only
    rw [if_neg hfits, List.append_assoc]

end Streams

section Channel

inductive FrameKind
  | envelope | control
  deriving DecidableEq

inductive WorkerFrame (α β : Type)
  | envelope (message : α)
  | control (request : β)

inductive Received (α β : Type)
  | envelope (envelope : WorkerEnvelope α)
  | control (envelope : WorkerEnvelope β)
  deriving DecidableEq

structure Codecs (α β : Type) where
  envelope : Codec (WorkerEnvelope α)
  control : Codec (WorkerEnvelope β)

structure Codecs.Lawful (codecs : Codecs α β) : Prop where
  envelope : codecs.envelope.Lawful
  control : codecs.control.Lawful

def FrameKind.limit : FrameKind → Nat
  | .envelope => maxWorkerMessageBytes
  | .control => maxWorkerControlMessageBytes

def WorkerFrame.kind : WorkerFrame α β → FrameKind
  | .envelope _ => .envelope
  | .control _ => .control

def WorkerFrame.received : WorkerFrame α β → Received α β
  | .envelope message => .envelope ⟨workerProtocolVersion, message⟩
  | .control request => .control ⟨workerControlProtocolVersion, request⟩

def Codecs.encode (codecs : Codecs α β) : WorkerFrame α β → Option (List UInt8)
  | .envelope message => codecs.envelope.encode ⟨workerProtocolVersion, message⟩
  | .control request => codecs.control.encode ⟨workerControlProtocolVersion, request⟩

def Codecs.decode (codecs : Codecs α β) : FrameKind → List UInt8 → Option (Received α β)
  | .envelope, line => (codecs.envelope.decode line).map .envelope
  | .control, line => (codecs.control.decode line).map .control

def writeFrame (codecs : Codecs α β) (fault : Option WriteFault) (written : List UInt8) :
    WorkerFrame α β → Except SessionError Unit × List UInt8
  | .envelope message => writeEnvelope codecs.envelope message fault written
  | .control request => writeControlRequest codecs.control request fault written

def readFrame (codecs : Codecs α β) (reader : Reader) :
    FrameKind → Except SessionError (Received α β) × Reader
  | .envelope =>
    let (result, rest) := readEnvelope codecs.envelope reader
    (result.map .envelope, rest)
  | .control =>
    let (result, rest) := readControlRequest codecs.control reader
    (result.map .control, rest)

/-- Frames written one after another, as long as each is accepted. -/
def writeFrames (codecs : Codecs α β) (written : List UInt8) :
    List (WorkerFrame α β × Option WriteFault) → Option (List UInt8)
  | [] => some written
  | (frame, fault) :: frames =>
    match writeFrame codecs fault written frame with
    | (.error _, _) => none
    | (.ok (), written) => writeFrames codecs written frames

def readFrames (codecs : Codecs α β) (reader : Reader) :
    List FrameKind → List (Except SessionError (Received α β)) × Reader
  | [] => ([], reader)
  | kind :: kinds =>
    let (result, rest) := readFrame codecs reader kind
    let (results, rest) := readFrames codecs rest kinds
    (result :: results, rest)

end Channel

section Decoding
variable {codec : Codec α} {codecs : Codecs α β} {line trailing : List UInt8} {kind : FrameKind}

/-- White space behind a document changes nothing, and anything else is refused. -/
theorem Codec.Lawful.decode_append (h : codec.Lawful) {m : α} (hline : codec.decode line = some m)
    (trailing : List UInt8) :
    codec.decode (line ++ trailing) =
      if trailing.all isSpace then some m else none := by
  obtain ⟨before, value, after, rfl, hbefore, hvalue, hafter⟩ := h.decode_value hline
  rw [h.decode_padded hbefore hvalue hafter] at hline
  split
  next hspace =>
    have hbehind := List.forall_mem_append.mpr ⟨hafter, List.all_eq_true.mp hspace⟩
    rw [List.append_assoc, h.decode_padded hbefore hvalue hbehind]
    exact hline
  next hnot =>
    rw [Option.eq_none_iff_forall_not_mem]
    intro m' hm'
    obtain ⟨before', value', after', hsame, hbefore', hvalue', hafter'⟩ := h.decode_value hm'
    rw [List.append_assoc] at hsame
    obtain ⟨-, rfl⟩ := hvalue.padded_inj hvalue' hbefore hbefore' hsame
    exact hnot (List.all_eq_true.mpr (List.forall_mem_append.mp hafter').2)

theorem Codec.Lawful.decode_nil (h : codec.Lawful) : codec.decode [] = none := by
  rw [Option.eq_none_iff_forall_not_mem]
  intro m hm
  obtain ⟨before, value, after, hempty, -, hvalue, -⟩ := h.decode_value hm
  obtain ⟨hfront, -⟩ := List.append_eq_nil_iff.mp hempty.symm
  exact hvalue.ne_nil (List.append_eq_nil_iff.mp hfront).2

theorem Codecs.Lawful.decode_append (h : codecs.Lawful) {x : Received α β}
    (hline : codecs.decode kind line = some x) (trailing : List UInt8) :
    codecs.decode kind (line ++ trailing) =
      if trailing.all isSpace then some x else none := by
  cases kind with
  | envelope =>
    obtain ⟨e, he, rfl⟩ := Option.map_eq_some_iff.mp hline
    rw [Codecs.decode, h.envelope.decode_append he]
    split <;> rfl
  | control =>
    obtain ⟨e, he, rfl⟩ := Option.map_eq_some_iff.mp hline
    rw [Codecs.decode, h.control.decode_append he]
    split <;> rfl

theorem Codecs.Lawful.decode_nil (h : codecs.Lawful) : codecs.decode kind [] = none := by
  cases kind with
  | envelope => rw [Codecs.decode, h.envelope.decode_nil, Option.map_none]
  | control => rw [Codecs.decode, h.control.decode_nil, Option.map_none]

theorem Codecs.Lawful.decode_encode (h : codecs.Lawful) {frame : WorkerFrame α β}
    (hline : codecs.encode frame = some line) :
    codecs.decode frame.kind line = some frame.received := by
  cases frame with
  | envelope message => exact congrArg (Option.map _) (h.envelope.decode_encode hline)
  | control request => exact congrArg (Option.map _) (h.control.decode_encode hline)

theorem Codecs.Lawful.encode_line (h : codecs.Lawful) {frame : WorkerFrame α β}
    (hline : codecs.encode frame = some line) : 10 ∉ line := by
  cases frame with
  | envelope message => exact h.envelope.encode_line hline
  | control request => exact h.control.encode_line hline

end Decoding

section Reading
variable {codecs : Codecs α β} {line more : List UInt8} {kind : FrameKind} {reader rest : Reader}

theorem parseEnvelopeBytes_line (codec : Codec (WorkerEnvelope α)) (hline : 10 ∉ line)
    (hne : line ≠ []) : parseEnvelopeBytes codec (line ++ [10]) =
      (codec.decode line).elim (.error .workerProtocolFailed) .ok := by
  unfold parseEnvelopeBytes
  rw [List.getLast?_concat, List.dropLast_concat, if_neg (by simp), if_neg (by simp [hline, hne])]

/-- A frame within the limit gives what its line is decoded to, and no byte behind it is touched. -/
theorem readFrame_fits (kind : FrameKind) (h : codecs.Lawful)
    (hbytes : bytes reader = line ++ 10 :: more) (hline : 10 ∉ line)
    (hfits : line.length + 1 ≤ kind.limit) :
    ∃ rest, readFrame codecs reader kind =
        ((codecs.decode kind line).elim (.error .workerProtocolFailed) .ok, rest) ∧
      bytes rest = more := by
  cases kind with
  | envelope =>
    obtain ⟨rest, hread, hmore, -⟩ := readLine_fits (maxWorkerMessageBytes + 1) hbytes hline
      (Nat.lt_succ_of_lt hfits)
    refine ⟨rest, ?_, hmore⟩
    have hmessage : readMessageBytes reader = (.ok (line ++ [10]), rest) := by
      have hlength : (line ++ [10]).length ≤ maxWorkerMessageBytes := by
        rw [List.length_append]
        exact hfits
      rw [readMessageBytes, hread]
      exact if_neg (by simpa using hlength)
    rw [readFrame, readEnvelope, hmessage]
    by_cases hne : line = []
    · rw [hne, h.decode_nil]
      rfl
    · dsimp only
      rw [parseEnvelopeBytes_line _ hline hne, Codecs.decode]
      cases codecs.envelope.decode line <;> rfl
  | control =>
    obtain ⟨rest, hread, hmore, -⟩ := readLine_fits maxWorkerControlMessageBytes hbytes hline
      hfits
    refine ⟨rest, ?_, hmore⟩
    have hmessage : readControlMessageBytes reader = (.ok (line ++ [10]), rest) := by
      have hlength : (line ++ [10]).length ≤ maxWorkerControlMessageBytes := by
        rw [List.length_append]
        exact hfits
      rw [readControlMessageBytes, hread]
      exact if_pos hlength
    rw [readFrame, readControlRequest, hmessage]
    dsimp only
    rw [List.getLast?_concat, List.dropLast_concat, if_neg (by simp), Codecs.decode]
    cases codecs.control.decode line <;> rfl

/-- Where the next line is beyond the limit, or has no end, the read fails. -/
theorem readFrame_overlong (codecs : Codecs α β)
    (h : ∀ line more, bytes reader = line ++ 10 :: more → 10 ∉ line →
      kind.limit < line.length + 1) :
    ∃ error rest, readFrame codecs reader kind = (.error error, rest) := by
  cases kind with
  | envelope =>
    rw [readFrame, readEnvelope, readMessageBytes]
    rcases hread : readLine (maxWorkerMessageBytes + 1) reader with ⟨_ | taken, rest⟩
    · exact ⟨_, _, rfl⟩
    · obtain ⟨line, rfl, hbytes, hline, -⟩ := readLine_ok (Nat.succ_pos _) hread
      have hlong : maxWorkerMessageBytes < (line ++ [10]).length := by
        rw [List.length_append]
        exact h line _ hbytes hline
      dsimp only
      rw [if_pos (Or.inr hlong)]
      exact ⟨_, _, rfl⟩
  | control =>
    rw [readFrame, readControlRequest, readControlMessageBytes]
    rcases hread : readLine maxWorkerControlMessageBytes reader with ⟨_ | taken, rest⟩
    · exact ⟨_, _, rfl⟩
    · obtain ⟨line, rfl, hbytes, hline, hfits⟩ := readLine_ok (by decide) hread
      exact absurd (h line _ hbytes hline) (Nat.not_lt.mpr hfits)

theorem readFrame_ok (h : codecs.Lawful) {x : Received α β}
    (hread : readFrame codecs reader kind = (.ok x, rest)) :
    ∃ line, bytes reader = line ++ 10 :: bytes rest ∧ 10 ∉ line ∧ line.length + 1 ≤ kind.limit ∧
      codecs.decode kind line = some x := by
  by_cases hnext : ∃ line more, bytes reader = line ++ 10 :: more ∧ 10 ∉ line ∧
      line.length + 1 ≤ kind.limit
  · obtain ⟨line, more, hbytes, hline, hfits⟩ := hnext
    obtain ⟨rest', hread', hmore⟩ := readFrame_fits kind h hbytes hline hfits
    rw [hread', Prod.mk.injEq] at hread
    obtain ⟨hdecode, rfl⟩ := hread
    refine ⟨line, hmore ▸ hbytes, hline, hfits, ?_⟩
    cases hx : codecs.decode kind line with
    | none =>
      rw [hx] at hdecode
      cases hdecode
    | some y =>
      rw [hx] at hdecode
      cases hdecode
      rfl
  · have hlong : ∀ line more, bytes reader = line ++ 10 :: more → 10 ∉ line →
        kind.limit < line.length + 1 := fun line more hbytes hline =>
      Nat.not_le.mp fun hfits => hnext ⟨line, more, hbytes, hline, hfits⟩
    obtain ⟨error, rest', hread'⟩ := readFrame_overlong codecs hlong
    rw [hread'] at hread
    cases hread

end Reading

section RoundTrip
variable {codecs : Codecs α β} {frame : WorkerFrame α β} {fault : Option WriteFault}
  {written written' : List UInt8}

theorem writeLine_ok {limit : Nat} {payload : Option (List UInt8)}
    (h : writeLine limit payload fault written = (.ok (), written')) :
    ∃ line, payload = some line ∧ line.length + 1 ≤ limit ∧ written' = written ++ line ++ [10] := by
  unfold writeLine at h
  split at h
  · cases h
  next line =>
    split at h
    · cases h
    next hlimit =>
      split at h <;> cases h
      exact ⟨line, rfl, Nat.not_lt.mp hlimit, rfl⟩

theorem writeLine_fits {limit : Nat} {line : List UInt8} (h : line.length + 1 ≤ limit) :
    writeLine limit (some line) none written = (.ok (), written ++ line ++ [10]) :=
  if_neg (Nat.not_lt.mpr h)

theorem writeFrame_ok (h : writeFrame codecs fault written frame = (.ok (), written')) :
    ∃ line, codecs.encode frame = some line ∧ line.length + 1 ≤ frame.kind.limit ∧
      written' = written ++ line ++ [10] := by
  cases frame with
  | envelope message => exact writeLine_ok h
  | control request => exact writeLine_ok h

/-- The frames written behind what was there are read back from the start of what was written. -/
theorem readFrames_of_writeFrames (hlaw : codecs.Lawful)
    {frames : List (WorkerFrame α β × Option WriteFault)} {total : List UInt8}
    (h : writeFrames codecs written frames = some total) :
    ∃ tail, total = written ++ tail ∧ ∀ reader more, bytes reader = tail ++ more →
      ∃ rest, readFrames codecs reader (frames.map fun frame => frame.1.kind) =
        (frames.map fun frame => .ok frame.1.received, rest) ∧ bytes rest = more := by
  induction frames generalizing written with
  | nil =>
    cases h
    exact ⟨[], by rw [List.append_nil], fun reader more hbytes => ⟨reader, rfl, hbytes⟩⟩
  | cons next frames ih =>
    obtain ⟨frame, fault⟩ := next
    unfold writeFrames at h
    split at h
    · cases h
    next written' hwrite =>
      obtain ⟨line, hline, hfits, rfl⟩ := writeFrame_ok hwrite
      obtain ⟨tail, rfl, htail⟩ := ih h
      refine ⟨line ++ 10 :: tail, by simp, fun reader more hbytes => ?_⟩
      rw [List.append_assoc, List.cons_append] at hbytes
      obtain ⟨rest, hread, hrest⟩ := readFrame_fits _ hlaw hbytes (hlaw.encode_line hline) hfits
      rw [hlaw.decode_encode hline] at hread
      obtain ⟨last, hlast, hmore⟩ := htail rest more hrest
      refine ⟨last, ?_, hmore⟩
      rw [List.map_cons, List.map_cons, readFrames, hread]
      dsimp only
      rw [hlast]
      rfl

theorem first_line_unique {line line' more more' : List UInt8} (h : 10 ∉ line) (h' : 10 ∉ line')
    (heq : line ++ 10 :: more = line' ++ 10 :: more') : line = line' := by
  induction line generalizing line' with
  | nil =>
    cases line' with
    | nil => rfl
    | cons b line' =>
      obtain ⟨rfl, -⟩ := List.cons.inj heq
      exact absurd List.mem_cons_self h'
  | cons b line ih =>
    cases line' with
    | nil =>
      obtain ⟨rfl, -⟩ := List.cons.inj heq
      exact absurd List.mem_cons_self h
    | cons b' line' =>
      obtain ⟨rfl, htail⟩ := List.cons.inj heq
      rw [List.mem_cons, not_or] at h h'
      rw [ih h.2 h'.2 htail]

/-- Accepted frames are read back in order, however the bytes arrive, and then there is an error;
a frame that is too long, has no end or has anything but white space behind its document is an
error; and what is read is the document of one whole line. -/
theorem frames_read_back (codecs : Codecs α β) (hlaw : codecs.Lawful) :
    (∀ frames total reader, writeFrames codecs [] frames = some total → bytes reader = total →
      ∃ rest, readFrames codecs reader (frames.map fun frame => frame.1.kind) =
        (frames.map fun frame => .ok frame.1.received, rest) ∧
          ∀ kind, ∃ error rest', readFrame codecs rest kind = (.error error, rest')) ∧
    (∀ reader kind, (10 ∉ bytes reader ∨ ∃ line more, bytes reader = line ++ 10 :: more ∧
        10 ∉ line ∧ kind.limit < line.length + 1) →
      ∃ error rest, readFrame codecs reader kind = (.error error, rest)) ∧
    (∀ reader kind line x trailing more, codecs.decode kind line = some x → 10 ∉ line →
        bytes reader = line ++ trailing ++ 10 :: more → 10 ∉ trailing →
        (∃ b ∈ trailing, isSpace b = false) →
      ∃ error rest, readFrame codecs reader kind = (.error error, rest)) ∧
    ∀ reader kind x rest, readFrame codecs reader kind = (.ok x, rest) →
      ∃ line, bytes reader = line ++ 10 :: bytes rest ∧ 10 ∉ line ∧ line.length + 1 ≤ kind.limit ∧
        codecs.decode kind line = some x ∧ ∀ document y trailing,
          codecs.decode kind document = some y → line = document ++ trailing → x = y := by
  refine ⟨?_, ?_, ?_, ?_⟩
  · intro frames total reader hwrite hbytes
    obtain ⟨tail, rfl, htail⟩ := readFrames_of_writeFrames hlaw hwrite
    obtain ⟨rest, hread, hempty⟩ := htail reader [] (by rw [hbytes]; simp)
    refine ⟨rest, hread, fun kind => readFrame_overlong codecs fun line more hline => ?_⟩
    rw [hempty] at hline
    simp at hline
  · intro reader kind hnext
    refine readFrame_overlong codecs fun line more hbytes hline => ?_
    rcases hnext with hnone | ⟨line', more', hbytes', hline', hlong⟩
    · exact absurd (by rw [hbytes]; simp) hnone
    · rw [hbytes] at hbytes'
      rwa [first_line_unique hline hline' hbytes']
  · intro reader kind line x trailing more hdecode hline hbytes htrailing hother
    by_cases hfits : (line ++ trailing).length + 1 ≤ kind.limit
    · have hwhole : 10 ∉ line ++ trailing := by
        rw [List.mem_append, not_or]
        exact ⟨hline, htrailing⟩
      obtain ⟨rest, hread, -⟩ := readFrame_fits kind hlaw hbytes hwhole hfits
      rw [hlaw.decode_append hdecode, if_neg] at hread
      · exact ⟨_, rest, hread⟩
      · intro hspace
        obtain ⟨b, hb, hnot⟩ := hother
        rw [List.all_eq_true.mp hspace b hb] at hnot
        cases hnot
    · refine readFrame_overlong codecs fun line' more' hbytes' hline' => ?_
      have hwhole : 10 ∉ line ++ trailing := by
        rw [List.mem_append, not_or]
        exact ⟨hline, htrailing⟩
      rw [hbytes] at hbytes'
      rw [← first_line_unique hwhole hline' hbytes']
      omega
  · intro reader kind x rest hread
    obtain ⟨line, hbytes, hline, hfits, hdecode⟩ := readFrame_ok hlaw hread
    refine ⟨line, hbytes, hline, hfits, hdecode, fun document y trailing hdocument hsplit => ?_⟩
    rw [hsplit, hlaw.decode_append hdocument] at hdecode
    split at hdecode
    · exact (Option.some.inj hdecode).symm
    · cases hdecode

end RoundTrip

section Answers

def ascii (text : String) : List UInt8 := text.toList.map fun c => c.toNat.toUInt8

/-- A codec for one value, which is all that its two sides ever send. -/
def singleCodec [DecidableEq α] (value : α) (text : List UInt8) : Codec α where
  encode m := if m = value then some text else none
  decode line :=
    let document := line.dropWhile isSpace
    if text <+: document ∧ (document.drop text.length).all isSpace then some value else none

theorem single_padded_iff {text value after : List UInt8} (htext : IsBracketed text)
    (hvalue : IsBracketed value) (hafter : ∀ b ∈ after, isSpace b = true) :
    (text <+: value ++ after ∧ ((value ++ after).drop text.length).all isSpace) ↔
      text = value := by
  constructor
  · rintro ⟨⟨more, hmore⟩, -⟩
    exact (htext.append_inj hvalue hmore).1
  · rintro rfl
    rw [List.drop_left]
    exact ⟨List.prefix_append _ _, List.all_eq_true.mpr hafter⟩

theorem singleCodec_encode_self [DecidableEq α] (value : α) (text : List UInt8) :
    (singleCodec value text).encode value = some text := if_pos rfl

theorem singleCodec_encode [DecidableEq α] {value m : α} {text line : List UInt8}
    (h : (singleCodec value text).encode m = some line) : m = value ∧ text = line := by
  dsimp only [singleCodec] at h
  split at h
  next hm => exact ⟨hm, Option.some.inj h⟩
  next => cases h

theorem singleCodec_decode [DecidableEq α] (value : α) {text : List UInt8}
    (htext : IsBracketed text) (before document after : List UInt8)
    (hbefore : ∀ b ∈ before, isSpace b = true) (hdocument : IsBracketed document)
    (hafter : ∀ b ∈ after, isSpace b = true) :
    (singleCodec value text).decode (before ++ document ++ after) =
      if text = document then some value else none := by
  dsimp only [singleCodec]
  rw [dropWhile_isSpace hdocument hbefore]
  exact if_congr (single_padded_iff htext hdocument hafter) rfl rfl

theorem singleCodec_lawful [DecidableEq α] (value : α) {text : List UInt8}
    (htext : IsBracketed text) (hline : 10 ∉ text) : (singleCodec value text).Lawful := by
  have hbare : ∀ document, IsBracketed document → (singleCodec value text).decode document =
      if text = document then some value else none := by
    intro document hdocument
    have h := singleCodec_decode value htext [] document [] (by simp) hdocument (by simp)
    rwa [List.nil_append, List.append_nil] at h
  constructor
  · intro m line h
    exact (singleCodec_encode h).2 ▸ hline
  · intro m line h
    obtain ⟨rfl, rfl⟩ := singleCodec_encode h
    rw [hbare _ htext, if_pos rfl]
  · intro before document after hbefore hdocument hafter
    rw [singleCodec_decode value htext before document after hbefore hdocument hafter,
      hbare document hdocument]
  · intro line m h
    dsimp only [singleCodec] at h
    split at h
    next hprefix =>
      obtain ⟨⟨more, hmore⟩, hspace⟩ := hprefix
      refine ⟨line.takeWhile isSpace, text, more, ?_, ?_, htext, ?_⟩
      · rw [List.append_assoc, hmore, List.takeWhile_append_dropWhile]
      · exact List.all_eq_true.mp List.all_takeWhile
      · rw [← hmore, List.drop_left] at hspace
        exact List.all_eq_true.mp hspace
    next => cases h

/-- The answers and requests of the two codecs below. -/
inductive WorkerAnswer
  | authenticationFailed
  deriving DecidableEq

inductive CleanupRequest
  | terminalVtCleanupIntentAcknowledged
  deriving DecidableEq

def answerText : List UInt8 := ascii "\x7b\"version\":14,\"message\":\"AuthenticationFailed\"\x7d"

def requestText : List UInt8 :=
  ascii "\x7b\"version\":7,\"message\":\x7b\"TerminalVtCleanupIntentAcknowledged\":" ++
    ascii "\x7b\"worker_id\":\"w\",\"expected_worker_pid\":1,\"registration_nonce\":\"n\"," ++
    ascii "\"attempt_id\":1\x7d\x7d\x7d"

def answerCodecs : Codecs WorkerAnswer CleanupRequest where
  envelope := singleCodec ⟨14, .authenticationFailed⟩ answerText
  control := singleCodec ⟨7, .terminalVtCleanupIntentAcknowledged⟩ requestText

/-- The text of a document: a line of its own, within the limit of both channels. -/
def IsDocument (text : List UInt8) : Prop :=
  IsBracketed text ∧ 10 ∉ text ∧ text.length < maxWorkerControlMessageBytes

instance (text : List UInt8) : Decidable (IsDocument text) := inferInstanceAs (Decidable (_ ∧ _))

theorem answerText_document : IsDocument answerText := by decide +kernel

theorem requestText_document : IsDocument requestText := by decide +kernel

theorem answerCodecs_lawful : answerCodecs.Lawful :=
  ⟨singleCodec_lawful _ answerText_document.1 answerText_document.2.1,
    singleCodec_lawful _ requestText_document.1 requestText_document.2.1⟩

def chunkOf : List UInt8 → ReadResult
  | [] => .interrupted
  | b :: more => .chunk b more

theorem bytes_chunkOf (piece : List UInt8) (reads : Reader) :
    bytes (chunkOf piece :: reads) = piece ++ bytes reads := by
  cases piece <;> rfl

theorem encode_answer : answerCodecs.encode (.envelope .authenticationFailed) = some answerText :=
  singleCodec_encode_self _ _

theorem encode_request :
    answerCodecs.encode (.control .terminalVtCleanupIntentAcknowledged) = some requestText :=
  singleCodec_encode_self _ _

theorem writeFrames_answer_request : writeFrames answerCodecs []
      [(.envelope .authenticationFailed, none),
        (.control .terminalVtCleanupIntentAcknowledged, none)] =
    some (answerText ++ [10] ++ requestText ++ [10]) := by
  have hanswer : writeFrame answerCodecs none [] (.envelope .authenticationFailed) =
      (.ok (), [] ++ answerText ++ [10]) := by
    have hfits : answerText.length + 1 ≤ maxWorkerMessageBytes :=
      Nat.le_trans (Nat.lt_iff_add_one_le.mp answerText_document.2.2) (by decide)
    rw [← writeLine_fits hfits, ← encode_answer]
    rfl
  have hrequest : writeFrame answerCodecs none (answerText ++ [10])
      (.control .terminalVtCleanupIntentAcknowledged) =
        (.ok (), answerText ++ [10] ++ requestText ++ [10]) := by
    have hfits : requestText.length + 1 ≤ maxWorkerControlMessageBytes :=
      Nat.lt_iff_add_one_le.mp requestText_document.2.2
    rw [← writeLine_fits hfits, ← encode_request]
    rfl
  rw [writeFrames, hanswer]
  dsimp only
  rw [List.nil_append, writeFrames, hrequest]
  rfl

/-- An answer and a request, of which the first bytes arrive alone. -/
theorem answer_then_request : ∃ rest, readFrames answerCodecs
      [chunkOf (answerText.take 5), .interrupted, chunkOf (answerText.drop 5),
        chunkOf ([10] ++ requestText ++ [10])] [.envelope, .control] =
        ([.ok (.envelope ⟨14, .authenticationFailed⟩),
          .ok (.control ⟨7, .terminalVtCleanupIntentAcknowledged⟩)], rest) ∧
      ∀ kind, ∃ error rest', readFrame answerCodecs rest kind = (.error error, rest') := by
  refine (frames_read_back answerCodecs answerCodecs_lawful).1 _ _ _ writeFrames_answer_request ?_
  simp only [bytes_chunkOf, bytes, List.append_nil, List.append_assoc]
  rw [← List.append_assoc (answerText.take 5), List.take_append_drop]

/-- White space behind the document of a frame is no error. -/
theorem trailing_space_accepted : answerCodecs.Lawful ∧
    bytes [chunkOf (answerText ++ [32] ++ [10])] = answerText ++ [32] ++ 10 :: [] ∧
    ∃ rest, readFrame answerCodecs [chunkOf (answerText ++ [32] ++ [10])] .envelope =
      (.ok (.envelope ⟨14, .authenticationFailed⟩), rest) := by
  have hbytes : bytes [chunkOf (answerText ++ [32] ++ [10])] = answerText ++ [32] ++ 10 :: [] :=
    (bytes_chunkOf _ []).trans (List.append_nil _)
  have hdecode := answerCodecs_lawful.decode_encode encode_answer
  dsimp only [WorkerFrame.kind, WorkerFrame.received] at hdecode
  have hline : 10 ∉ answerText ++ [32] := by
    simp [answerText_document.2.1]
  have hfits : (answerText ++ [32]).length + 1 ≤ FrameKind.limit .envelope := by
    have := answerText_document.2.2
    unfold maxWorkerControlMessageBytes at this
    simp only [List.length_append, List.length_singleton, FrameKind.limit, maxWorkerMessageBytes]
    omega
  obtain ⟨rest, hread, -⟩ := readFrame_fits .envelope answerCodecs_lawful hbytes hline hfits
  rw [answerCodecs_lawful.decode_append hdecode, if_pos (by simp [isSpace])] at hread
  exact ⟨answerCodecs_lawful, hbytes, rest, hread⟩

end Answers

end Niralis.WorkerFrames
