import Niralis.ClientOrder
import Niralis.PamConversation

namespace Niralis
open JsonText

def FrameRead.complete (f : FrameRead) : Bool :=
  match f.result with
  | .ok _ => true
  | .error _ => false

/-- The place after the last line feed that ended a frame, or the start of the stream. -/
def boundary (frames : List FrameRead) : Nat :=
  frames.foldl (fun b f => if f.complete then f.stop else b) 0

@[simp] theorem boundary_append (frames : List FrameRead) (f : FrameRead) :
    boundary (frames ++ [f]) = if f.complete then f.stop else boundary frames := by
  rw [boundary, List.foldl_append]
  rfl

namespace GreeterClient

def frames (s : GreeterClient) : List FrameRead := s.log.filterMap GreeterEvent.frame

/-- Every frame that was decoded begins where the one before it ended. -/
def Aligned (s : GreeterClient) : Prop :=
  ∀ before f after, s.frames = before ++ f :: after → f.complete → f.start = boundary before

/-- A round trip that comes to reading finds a line, or the end of the stream, within the limit,
and reads on once it has begun. -/
def WholeLines (s : GreeterClient) (x : ClientAnswer) : Prop :=
  ∀ e prompt next, s.phase = .serving e (.roundTrip prompt next) →
    size prompt.json ≤ maxGreeterFrameBytes → x.writes = true →
      (s.input.takeWhile (· ≠ 10)).length < maxGreeterFrameBytes ∧ ∀ n, x.readFails = some n → n = 0

/-- The next frame would begin at the boundary, unless there is none. -/
def Rested (s : GreeterClient) : Prop :=
  s.position = boundary s.frames ∨ s.input = [] ∨ ∃ r, s.phase = .closed r

variable {decoders : Decoders} {s t : GreeterClient} {x : ClientAnswer}

theorem aligned_append (hs : s.Aligned) {f : FrameRead} (hframes : t.frames = s.frames ++ [f])
    (hf : f.complete → f.start = boundary s.frames) : t.Aligned := by
  intro before g after hsplit hg
  rw [hframes] at hsplit
  rcases List.eq_nil_or_concat after with rfl | ⟨others, last, rfl⟩
  · have hends := List.append_inj' hsplit rfl
    obtain ⟨rfl, hlast⟩ := hends
    cases hlast
    exact hf hg
  · have hshift : s.frames ++ [f] = (before ++ g :: others) ++ [last] := by simpa using hsplit
    have hends := List.append_inj' hshift rfl
    exact hs before g others hends.1 hg

theorem aligned_of_frames (hs : s.Aligned) (hframes : t.frames = s.frames) : t.Aligned := by
  intro before f after hsplit
  rw [hframes] at hsplit
  exact hs before f after hsplit

theorem complete_iff {f : FrameRead} : f.complete ↔ ∃ bytes, f.result = .ok bytes := by
  unfold FrameRead.complete
  cases f.result <;> simp

theorem readFrame_complete_input (h : (s.readFrame x).1.complete) : s.input ≠ [] := by
  intro hinput
  obtain ⟨bytes, hbytes⟩ := complete_iff.mp h
  cases hline : Framing.readLine maxGreeterFrameBytes x.readFails s.input with
  | mk result rest =>
    cases result with
    | error e => simp [readFrame, hline, Except.mapError] at hbytes
    | ok line =>
      have := Framing.readLine_ok hline
      rw [hinput] at this
      simp at this

/-- A frame that is read where the phase still reads begins at the boundary. -/
theorem rested_start (hs : s.Rested) (hopen : ∀ r, s.phase ≠ .closed r)
    (h : (s.readFrame x).1.complete) : (s.readFrame x).1.start = boundary s.frames := by
  rcases hs with hposition | hinput | ⟨r, hphase⟩
  · exact hposition
  · exact absurd hinput (readFrame_complete_input h)
  · exact absurd hphase (hopen r)

@[simp] theorem frames_record (event : GreeterEvent) :
    (s.record event).frames = s.frames ++ event.frame.toList := by
  rw [frames, record_log, List.filterMap_append]
  cases hframe : event.frame <;> simp [hframe, frames]

/-- What a read leaves: the next frame begins at the boundary, there is none, or the reading broke
off in a line. -/
theorem readFrame_rested (hs : s.Rested) (hopen : ∀ r, s.phase ≠ .closed r)
    (hwhole : (s.input.takeWhile (· ≠ 10)).length < maxGreeterFrameBytes)
    (hfails : ∀ n, x.readFails = some n → n = 0) :
    (s.readFrame x).2.position = boundary (s.frames ++ [(s.readFrame x).1]) ∨
      (s.readFrame x).2.input = [] := by
  rw [boundary_append]
  by_cases hcomplete : (s.readFrame x).1.complete
  · rw [if_pos hcomplete]
    exact Or.inl rfl
  rw [if_neg hcomplete]
  rcases Framing.readLine_whole hfails hwhole with ⟨line, hline⟩ | hend | hsame
  · refine absurd (complete_iff.mpr ⟨line, ?_⟩) hcomplete
    show (Framing.readLine maxGreeterFrameBytes x.readFails s.input).1.mapError frameError = _
    rw [hline]
    rfl
  · exact Or.inr hend
  · -- nothing was taken: the frame is still to be read from where it begins
    have hposition : (s.readFrame x).2.position = s.position := by
      show s.position + (s.input.length -
        (Framing.readLine maxGreeterFrameBytes x.readFails s.input).2.length) = s.position
      rw [hsame, Nat.sub_self, Nat.add_zero]
    have hinput : (s.readFrame x).2.input = s.input := hsame
    rw [hposition, hinput]
    rcases hs with hboundary | hempty | ⟨r, hphase⟩
    · exact Or.inl hboundary
    · exact Or.inr hempty
    · exact absurd hphase (hopen r)

/-- A step that reads a frame keeps the alignment, where it leaves the stream at a boundary. -/
theorem aligned_read (haligned : s.Aligned) (hrested : s.Rested)
    (hopen : ∀ r, s.phase ≠ .closed r) (hframes : t.frames = s.frames ++ [(s.readFrame x).1])
    (hposition : t.position = (s.readFrame x).2.position)
    (hnext : (s.readFrame x).1.complete ∨ t.input = [] ∨ (∃ r, t.phase = .closed r) ∨
      (s.readFrame x).2.position = boundary (s.frames ++ [(s.readFrame x).1])) :
    t.Aligned ∧ t.Rested := by
  refine ⟨aligned_append haligned hframes (rested_start hrested hopen), ?_⟩
  rcases hnext with hcomplete | hinput | hclosed | hboundary
  · left
    rw [hposition, hframes, boundary_append, if_pos hcomplete]
    rfl
  · exact Or.inr (Or.inl hinput)
  · exact Or.inr (Or.inr hclosed)
  · left
    rw [hposition, hframes, hboundary]

theorem moved_aligned (h : Moved decoders x s t) (hwhole : s.WholeLines x)
    (hs : s.Aligned ∧ s.Rested) : t.Aligned ∧ t.Rested := by
  obtain ⟨haligned, hrested⟩ := hs
  cases h with
  | greeted phase hphase hnext =>
    have hopen : ∀ r, s.phase ≠ .closed r := fun r h => by cases hphase.symm.trans h
    have hframes := frames_record (s := (s.readFrame x).2) (.handshake (s.readFrame x).1)
    refine aligned_read haligned hrested hopen hframes rfl ?_
    rcases hnext with ⟨-, hok⟩ | hclosed
    · exact Or.inl (complete_iff.mpr hok)
    · exact Or.inr (Or.inr (Or.inl hclosed))
  | rejected r hphase =>
    have hopen : ∀ r, s.phase ≠ .closed r := fun r h => by cases hphase.symm.trans h
    have hframes := frames_record (s := (s.readFrame x).2) (.request (s.readFrame x).1 none)
    exact aligned_read haligned hrested hopen hframes rfl (Or.inr (Or.inr (Or.inl ⟨r, rfl⟩)))
  | handed bytes e hphase hframe haccept =>
    have hopen : ∀ r, s.phase ≠ .closed r := fun r h => by cases hphase.symm.trans h
    have hframes := frames_record (s := (s.readFrame x).2) (.request (s.readFrame x).1 (some e))
    have hcomplete := complete_iff.mpr ⟨bytes, hframe⟩
    exact aligned_read haligned hrested hopen hframes rfl (Or.inl hcomplete)
  | prompted e prompt next result hphase hsize hwrites =>
    have hopen : ∀ r, s.phase ≠ .closed r := fun r h => by cases hphase.symm.trans h
    have hframes := frames_record (s := (s.readFrame x).2) (.prompt (s.readFrame x).1)
    obtain ⟨hshort, hfails⟩ := hwhole e prompt next hphase hsize hwrites
    refine aligned_read haligned hrested hopen hframes rfl ?_
    rcases readFrame_rested hrested hopen hshort hfails with hboundary | hinput
    · exact Or.inr (Or.inr (Or.inr hboundary))
    · exact Or.inr (Or.inl hinput)
  -- the other steps read nothing
  | replied e result hphase hwrites =>
    have hframes := frames_record (s := s) (.response (responseEnvelope
      { requestId := e.requestId, connectionEpoch := s.authority.connectionEpoch, result }))
    rw [show ∀ r, (GreeterEvent.response r).frame.toList = [] from fun _ => rfl,
      List.append_nil] at hframes
    refine ⟨aligned_of_frames haligned hframes, ?_⟩
    rcases hrested with hboundary | hinput | ⟨r, hclosed⟩
    · left
      rw [frames] at hframes
      rw [frames, hframes]
      exact hboundary
    · exact Or.inr (Or.inl hinput)
    · cases hphase.symm.trans hclosed
  | dropped e result hphase hwrites =>
    exact ⟨aligned_of_frames haligned rfl, Or.inr (Or.inr ⟨_, rfl⟩)⟩
  | unprompted e prompt next result hphase =>
    refine ⟨aligned_of_frames haligned rfl, ?_⟩
    rcases hrested with hboundary | hinput | ⟨r, hclosed⟩
    · exact Or.inl hboundary
    · exact Or.inr (Or.inl hinput)
    · cases hphase.symm.trans hclosed
  | ended r hphase => exact ⟨haligned, hrested⟩

/-- In every run whose round trips find whole lines, every frame that the daemon decodes begins at
the start of the stream or after the line feed of the frame before it. -/
theorem decoded_frames_aligned {decoders : Decoders} {authority : GreeterConnectionAuthority}
    {stream : List UInt8} {answers : List ClientAnswer}
    (h : StepsMeet (step decoders) WholeLines (new authority stream) answers) :
    ∀ n, (run decoders authority stream (answers.take n)).Aligned ∧
      ∀ f ∈ (run decoders authority stream (answers.take n)).frames, f.Of stream := by
  intro n
  have hstart : (new authority stream).Aligned ∧ (new authority stream).Rested := by
    refine ⟨fun before f after hsplit => ?_, Or.inl rfl⟩
    simp [frames, new] at hsplit
  have hend := foldl_invariant (fun s => s.Aligned ∧ s.Rested)
    (fun s x hs hx => moved_aligned (step_moved s x) hx hs) _ _ hstart (stepsMeet_take h n)
  refine ⟨hend.1, fun f hf => ?_⟩
  obtain ⟨event, hevent, hframe⟩ := List.mem_filterMap.mp hf
  exact (run_located.frames event hevent f hframe).1

theorem readFrame_line {line rest : List UInt8} (hfails : x.readFails = none)
    (hinput : s.input = line ++ 10 :: rest) (hline : 10 ∉ line)
    (hlimit : line.length < maxGreeterFrameBytes) :
    s.readFrame x = ({ start := s.position, stop := s.position + (line.length + 1), result := .ok line },
      { s with input := rest, position := s.position + (line.length + 1) }) := by
  have hlength : (line ++ 10 :: rest).length - rest.length = line.length + 1 := by
    rw [List.length_append, List.length_cons]
    omega
  rw [readFrame, hfails, hinput, Framing.readLine_line hline hlimit]
  simp only [hlength]
  rfl

theorem readFrame_long {line rest : List UInt8} (hfails : x.readFails = none)
    (hinput : s.input = line ++ rest) (hline : 10 ∉ line)
    (hlimit : line.length = maxGreeterFrameBytes) :
    s.readFrame x = ({ start := s.position, stop := s.position + maxGreeterFrameBytes
                       result := .error .frameTooLarge },
      { s with input := rest, position := s.position + maxGreeterFrameBytes }) := by
  have hlength : (line ++ rest).length - rest.length = maxGreeterFrameBytes := by
    rw [List.length_append, hlimit]
    omega
  rw [readFrame, hfails, hinput, Framing.readLine_long hline hlimit]
  simp only [hlength]
  rfl

theorem step_greets {f : FrameRead} {line : List UInt8} {hello : GreeterHandshake}
    (hphase : s.phase = .handshake) (hread : s.readFrame x = (f, t)) (hframe : f.result = .ok line)
    (hdecode : decoders.handshake line = some hello)
    (hhello : hello.protocolVersion = greeterProtocolVersion ∧ hello.messageType = "handshake")
    (hwrites : x.writes = true) :
    s.step decoders x = { t.record (.handshake f) with phase := .reading } := by
  rw [step, hphase]
  simp only [greet, hread, hframe, hdecode, hhello.1, hhello.2, hwrites]
  simp

theorem step_receives {f : FrameRead} {line : List UInt8} {e : GreeterRequestEnvelope}
    (hphase : s.phase = .reading) (hread : s.readFrame x = (f, t)) (hframe : f.result = .ok line)
    (haccept : acceptRequest decoders t.authority t.last t.requestIds line = .ok e) :
    s.step decoders x = { t.record (.request f (some e)) with
      last := e.sequence
      requestIds := e.requestId :: t.requestIds
      phase := .serving e (dispatch x e) } := by
  rw [step, hphase]
  simp only [receive, hread, hframe, haccept]

theorem step_prompts {f : FrameRead} {e : GreeterRequestEnvelope} {prompt : PamPromptEnvelope}
    {next : Except SessionError PamPromptResponseEnvelope → Serving} {error : NiralisdError}
    (hphase : s.phase = .serving e (.roundTrip prompt next))
    (hsize : size prompt.json ≤ maxGreeterFrameBytes) (hwrites : x.writes = true)
    (hread : s.readFrame x = (f, t)) (hframe : f.result = .error error) :
    s.step decoders x =
      { t.record (.prompt f) with phase := .serving e (next (.error .workerIoFailed)) } := by
  rw [step, hphase]
  simp only [roundTrip, if_neg (Nat.not_lt.mpr hsize), hwrites, hread, hframe]
  simp

theorem step_replies {e : GreeterRequestEnvelope} {result : NiralisResponse}
    (hphase : s.phase = .serving e (.respond result)) (hwrites : x.writes = true) :
    s.step decoders x = { s.record (.response (responseEnvelope
      { requestId := e.requestId, connectionEpoch := s.authority.connectionEpoch, result })) with
      phase := .reading } := by
  rw [step, hphase]
  simp only [reply, hwrites, if_true]

end GreeterClient

def helloText : List Char :=
  braced [("protocol_version", decimal 2), ("message_type", quoted "handshake")]

def statusRequest : GreeterRequestEnvelope where
  protocolVersion := 2
  messageType := "status"
  connectionId := "g1-c1"
  connectionEpoch := 1
  requestId := 2
  sequence := 2
  seat := "seat0"
  payloadLen := 17
  payload := .status

def sampleDecoders : Decoders where
  handshake line :=
    if line = bytes helloText then some { protocolVersion := 2, messageType := "handshake" } else none
  request line :=
    if line = bytes loginRequest.json then some loginRequest
    else if line = bytes statusRequest.json then some statusRequest
    else none
  response _ := none

/-- The handler asks for the password once, and the login fails whatever comes back. -/
def sampleHandler : ClientAnswer where
  readFails := none
  writes := true
  serve _ _ := .roundTrip samplePrompt fun _ => .respond (.loginFailed "login failed")
  cancelled := .error "request unavailable"

def sampleStream (answer : List UInt8) : List UInt8 :=
  bytes helloText ++ 10 :: (bytes loginRequest.json ++ 10 :: (answer ++
    (bytes statusRequest.json ++ [10])))

theorem loginRequest_valid : loginRequest.validateShape = .ok () := by decide

theorem statusRequest_valid : statusRequest.validateShape = .ok () := by decide

theorem bytes_line {text : List Char} (h : '\n' ∉ text) : 10 ∉ bytes text := by
  rwa [newline_mem_bytes]

theorem helloText_line : 10 ∉ bytes helloText ∧ (bytes helloText).length = 49 := by
  rw [length_bytes]
  exact ⟨bytes_line (by decide), by decide⟩

theorem loginRequest_line : 10 ∉ bytes loginRequest.json ∧ (bytes loginRequest.json).length = 230 := by
  rw [length_bytes]
  refine ⟨bytes_line (by decide), ?_⟩
  simp only [GreeterRequestEnvelope.json, GreeterRequest.json, loginRequest, size_braced, List.map_cons,
    List.map_nil, size_quoted, size_decimal]
  decide

theorem statusRequest_line :
    10 ∉ bytes statusRequest.json ∧ (bytes statusRequest.json).length = 179 := by
  rw [length_bytes]
  refine ⟨bytes_line (by decide), ?_⟩
  simp only [GreeterRequestEnvelope.json, GreeterRequest.json, statusRequest, size_braced, List.map_cons,
    List.map_nil, size_quoted, size_decimal]
  decide

theorem lines_differ : bytes statusRequest.json ≠ bytes loginRequest.json := by
  intro h
  have hlength := congrArg List.length h
  rw [statusRequest_line.2, loginRequest_line.2] at hlength
  cases hlength

namespace GreeterClient

def greeted (answer : List UInt8) : GreeterClient where
  authority := sampleConnection
  phase := .reading
  input := bytes loginRequest.json ++ 10 :: (answer ++ (bytes statusRequest.json ++ [10]))
  position := 50
  last := 0
  requestIds := []
  log := [.handshake { start := 0, stop := 50, result := .ok (bytes helloText) }]

def loggingIn (answer : List UInt8) : GreeterClient where
  authority := sampleConnection
  phase := .serving loginRequest
    (.roundTrip samplePrompt fun _ => .respond (.loginFailed "login failed"))
  input := answer ++ (bytes statusRequest.json ++ [10])
  position := 281
  last := 1
  requestIds := [1]
  log := [.handshake { start := 0, stop := 50, result := .ok (bytes helloText) },
    .request { start := 50, stop := 281, result := .ok (bytes loginRequest.json) } (some loginRequest)]

theorem decodes_hello : sampleDecoders.handshake (bytes helloText) =
    some { protocolVersion := 2, messageType := "handshake" } := by
  unfold sampleDecoders
  dsimp only
  rw [if_pos (Eq.refl (bytes helloText))]

theorem accepts_login : acceptRequest sampleDecoders sampleConnection 0 [] (bytes loginRequest.json) =
    .ok loginRequest := by
  have hdecode : sampleDecoders.request (bytes loginRequest.json) = some loginRequest := by
    unfold sampleDecoders
    dsimp only
    rw [if_pos (Eq.refl (bytes loginRequest.json))]
  rw [acceptRequest, hdecode]
  dsimp only
  rw [loginRequest_valid, if_neg (by simp)]
  decide

theorem accepts_status :
    acceptRequest sampleDecoders sampleConnection 1 [1] (bytes statusRequest.json) =
      .ok statusRequest := by
  have hdecode : sampleDecoders.request (bytes statusRequest.json) = some statusRequest := by
    unfold sampleDecoders
    dsimp only
    rw [if_neg lines_differ, if_pos (Eq.refl (bytes statusRequest.json))]
  rw [acceptRequest, hdecode]
  dsimp only
  rw [statusRequest_valid, if_neg (by simp)]
  decide

theorem sample_greeted (answer : List UInt8) :
    (new sampleConnection (sampleStream answer)).step sampleDecoders sampleHandler =
      greeted answer := by
  have hread := readFrame_line (s := new sampleConnection (sampleStream answer))
    (x := sampleHandler) rfl (Eq.refl (sampleStream answer)) helloText_line.1
    (by rw [helloText_line.2]; decide)
  rw [step_greets (Eq.refl _) hread (Eq.refl _) decodes_hello ⟨rfl, rfl⟩ (Eq.refl true),
    helloText_line.2]
  rfl

theorem sample_loggingIn (answer : List UInt8) :
    (greeted answer).step sampleDecoders sampleHandler = loggingIn answer := by
  have hread := readFrame_line (s := greeted answer) (x := sampleHandler) rfl (Eq.refl _)
    loginRequest_line.1 (by rw [loginRequest_line.2]; decide)
  rw [step_receives (Eq.refl _) hread (Eq.refl _) accepts_login, loginRequest_line.2]
  rfl

/-- The connection once the frame was given up, with the login failed or answered. -/
def gaveUp (phase : ClientPhase) (answers : List GreeterEvent) : GreeterClient where
  authority := sampleConnection
  phase := phase
  input := bytes statusRequest.json ++ [10]
  position := 281 + maxGreeterFrameBytes
  last := 1
  requestIds := [1]
  log := (loggingIn []).log ++ .prompt { start := 281, stop := 281 + maxGreeterFrameBytes
                                         result := .error .frameTooLarge } :: answers

theorem samplePrompt_size : size samplePrompt.json ≤ maxGreeterFrameBytes := by
  simp only [PamPromptEnvelope.json, PamEnvelopeIdentity.fields, samplePrompt, sampleIdentity,
    List.cons_append, List.nil_append, size_braced, List.map_cons, List.map_nil, size_quoted,
    size_decimal]
  decide

theorem sample_gaveUp {answer : List UInt8} (hline : 10 ∉ answer)
    (hlong : answer.length = maxGreeterFrameBytes) :
    (loggingIn answer).step sampleDecoders sampleHandler =
      gaveUp (.serving loginRequest (.respond (.loginFailed "login failed"))) [] := by
  have hread := readFrame_long (s := loggingIn answer) (x := sampleHandler) rfl (Eq.refl _) hline
    hlong
  rw [step_prompts (Eq.refl _) samplePrompt_size rfl hread (Eq.refl _)]
  rfl

theorem sample_answered : ∃ response,
    (gaveUp (.serving loginRequest (.respond (.loginFailed "login failed"))) []).step sampleDecoders
      sampleHandler = gaveUp .reading [.response response] := by
  rw [step_replies (Eq.refl _) (Eq.refl true)]
  exact ⟨_, rfl⟩

theorem sample_received (response : GreeterResponseEnvelope) :
    ((gaveUp .reading [.response response]).step sampleDecoders sampleHandler).log =
      (gaveUp .reading [.response response]).log ++
        [.request { start := 281 + maxGreeterFrameBytes
                    stop := 281 + maxGreeterFrameBytes + 180
                    result := .ok (bytes statusRequest.json) } (some statusRequest)] := by
  have hread := readFrame_line (s := gaveUp .reading [.response response]) (x := sampleHandler) rfl
    (Eq.refl _) statusRequest_line.1 (by rw [statusRequest_line.2]; decide)
  rw [step_receives (Eq.refl _) hread (Eq.refl _) accepts_status, statusRequest_line.2]
  rfl

theorem run_five (decoders : Decoders) (a : GreeterConnectionAuthority) (stream : List UInt8)
    (x : ClientAnswer) : run decoders a stream (List.replicate 5 x) =
      (((((new a stream).step decoders x).step decoders x).step decoders x).step decoders x).step
        decoders x := rfl

theorem sample_log {answer : List UInt8} (hline : 10 ∉ answer)
    (hlong : answer.length = maxGreeterFrameBytes) : ∃ response,
    (run sampleDecoders sampleConnection (sampleStream answer) (List.replicate 5 sampleHandler)).log =
      (gaveUp .reading [.response response]).log ++
        [.request { start := 281 + maxGreeterFrameBytes
                    stop := 281 + maxGreeterFrameBytes + 180
                    result := .ok (bytes statusRequest.json) } (some statusRequest)] := by
  obtain ⟨response, hanswered⟩ := sample_answered
  refine ⟨response, ?_⟩
  rw [run_five, sample_greeted, sample_loggingIn, sample_gaveUp hline hlong, hanswered,
    sample_received]

theorem sample_frames (response : GreeterResponseEnvelope) (f : FrameRead)
    (e : GreeterRequestEnvelope) :
    ((gaveUp .reading [.response response]).log ++ [GreeterEvent.request f (some e)]).filterMap
        GreeterEvent.frame =
      [{ start := 0, stop := 50, result := .ok (bytes helloText) },
        { start := 50, stop := 281, result := .ok (bytes loginRequest.json) },
        { start := 281, stop := 281 + maxGreeterFrameBytes, result := .error .frameTooLarge }, f] :=
  rfl

theorem boundary_pair {f g : FrameRead} (hg : g.complete) : boundary [f, g] = g.stop := by
  have hsplit : [f, g] = [f] ++ [g] := rfl
  rw [hsplit, boundary_append, if_pos hg]

/-- A frame behind one that was given up in its line does not begin at the boundary. -/
theorem not_aligned_of_frames {s : GreeterClient} {b : List FrameRead} {f g : FrameRead}
    (hframes : s.frames = b ++ f :: [g]) (hf : f.complete = false) (hg : g.complete)
    (hstart : g.start ≠ boundary b) : ¬s.Aligned := by
  intro haligned
  have hat := haligned (b ++ [f]) g [] (by rw [hframes]; simp) hg
  rw [boundary_append, hf] at hat
  exact hstart hat

theorem misaligned_of_log {s : GreeterClient} {response : GreeterResponseEnvelope} {f : FrameRead}
    {e : GreeterRequestEnvelope}
    (hlog : s.log = (gaveUp .reading [.response response]).log ++ [.request f (some e)])
    (hf : f.complete) (hstart : f.start ≠ 281) :
    (∃ f, .request f (some e) ∈ s.log) ∧ ¬s.Aligned := by
  refine ⟨⟨f, by rw [hlog]; exact List.mem_append_right _ List.mem_cons_self⟩, ?_⟩
  have hframes := sample_frames response f e
  rw [← hlog] at hframes
  refine not_aligned_of_frames (b := [_, _]) hframes rfl hf ?_
  rwa [boundary_pair rfl]

/-- A greeter's answer of as many bytes as a frame may have, and then a request in the same line:
the login fails, and the rest of the line reaches the handler as the next request. -/
theorem overlong_answer_misaligned :
    let s := run sampleDecoders sampleConnection
      (sampleStream (List.replicate maxGreeterFrameBytes 120)) (List.replicate 5 sampleHandler)
    (∃ f, .request f (some statusRequest) ∈ s.log) ∧ ¬s.Aligned := by
  have hline : (10 : UInt8) ∉ List.replicate maxGreeterFrameBytes 120 := by
    intro h
    have := List.eq_of_mem_replicate h
    revert this
    decide
  have hlong : (List.replicate maxGreeterFrameBytes (120 : UInt8)).length = maxGreeterFrameBytes := by
    rw [List.length_replicate]
  obtain ⟨response, hlog⟩ := sample_log hline hlong
  exact misaligned_of_log hlog rfl (by decide)

/-- A line of its own before the next request keeps the frames apart. -/
theorem short_answer_aligned :
    StepsMeet (step sampleDecoders) WholeLines (new sampleConnection (sampleStream [120, 10]))
      (List.replicate 3 sampleHandler) ∧
    ∀ n, (run sampleDecoders sampleConnection (sampleStream [120, 10])
      ((List.replicate 3 sampleHandler).take n)).Aligned ∧
      ∀ f ∈ (run sampleDecoders sampleConnection (sampleStream [120, 10])
        ((List.replicate 3 sampleHandler).take n)).frames, f.Of (sampleStream [120, 10]) := by
  have hmeets : StepsMeet (step sampleDecoders) WholeLines
      (new sampleConnection (sampleStream [120, 10])) (List.replicate 3 sampleHandler) := by
    simp only [List.replicate_succ, List.replicate_zero, stepsMeet_cons, stepsMeet_nil, and_true]
    rw [sample_greeted, sample_loggingIn]
    refine ⟨fun e prompt next h => (by cases h), fun e prompt next h => (by cases h), ?_⟩
    intro e prompt next _ _ _
    refine ⟨?_, fun n h => by cases h⟩
    show ((120 :: 10 :: (bytes statusRequest.json ++ [10])).takeWhile (· ≠ 10)).length < _
    rw [List.takeWhile_cons_of_pos (by decide), List.takeWhile_cons_of_neg (by decide)]
    decide
  exact ⟨hmeets, decoded_frames_aligned hmeets⟩

end GreeterClient

end Niralis
