import Niralis.PamStep

namespace Niralis
open JsonText WorkerPamConversationDriver

/-- What an accepted prompt and an accepted answer have in common. -/
theorem accepted_identity {a : PamConversationAuthority} {p : PamPromptEnvelope}
    {r : PamPromptResponseEnvelope} {promptedAt answeredAt : Nat}
    (hprompt : (a.acceptWirePrompt promptedAt p).1 = .ok ())
    (hanswer : ((a.acceptWirePrompt promptedAt p).2.acceptWireResponse answeredAt r).1 = .ok ()) :
    r.toPamEnvelopeIdentity = p.toPamEnvelopeIdentity := by
  obtain ⟨-, -, hp, -, -, hnext⟩ := PamConversationAuthority.acceptWirePrompt_ok hprompt
  rw [hnext] at hanswer
  obtain ⟨-, -, hr, hpending, -⟩ := PamConversationAuthority.acceptWireResponse_ok hanswer
  simp only [Option.some.injEq, Prod.mk.injEq] at hpending
  exact PamConversationAuthority.binds_unique hr hp hpending.1.symm hpending.2.1.symm
    hpending.2.2.symm

theorem PamPromptResponseEnvelope.validateShape_ok {r : PamPromptResponseEnvelope}
    (h : r.validateShape = .ok ()) : r.protocolVersion = greeterProtocolVersion ∧
      r.messageType = "pam_prompt_response" ∧ r.payloadLen = r.response.encodedLen := by
  unfold PamPromptResponseEnvelope.validateShape at h
  split at h
  · cases h
  · rename_i hwell
    split at h
    · cases h
    · rename_i hlen
      simp [PamEnvelopeIdentity.wellFormed] at hwell
      simp only [not_or, Decidable.not_not] at hlen
      exact ⟨hwell.1.1.1.1.1.1.1.1, hwell.1.1.1.1.1.1.1.2, hlen.1.symm⟩

/-- A prompt is never much longer than the control request with its answer, but for its text. -/
theorem size_prompt_le {d : WorkerPamConversationDriver} {style : PamMessageStyle} {message : CStr}
    {p : PamPromptEnvelope} (hp : (d.nextPrompt style message).1 = some p)
    {r : PamPromptResponseEnvelope}
    (hr : r.toPamEnvelopeIdentity = p.toPamEnvelopeIdentity) (hshape : r.validateShape = .ok ())
    (hstage : d.transaction.stage.utf8ByteSize ≤ 64) :
    size p.json + 1 ≤ size (d.envelope p).json ∧
      size (d.envelope p).json ≤
        (responseRequest (d.envelope p) d.workerId r).overhead + 6 * 4096 + 400 := by
  obtain ⟨-, -, hversion, htype, hlen, hbounded⟩ := nextPrompt_some hp
  obtain ⟨hrversion, hrtype, -⟩ := PamPromptResponseEnvelope.validateShape_ok hshape
  have hsmall : p.message.utf8ByteSize ≤ 4096 := by
    simp [isBounded] at hbounded
    exact hbounded.1.2
  have hmessage := text_le p.message
  have hstageText := text_le d.transaction.stage
  have hdigits : number p.payloadLen ≤ 4 := by
    refine number_le (by decide) ?_
    rw [hlen]
    omega
  have hpType : text p.messageType = 12 := by
    rw [htype]
    decide
  have hrType : text r.messageType = 21 := by
    rw [hrtype]
    decide
  have hrStage : text "pam_prompt_response" = 21 := by decide
  have hprompt := PamPromptEnvelope.size_json p
  rw [hversion, hpType] at hprompt
  rw [WorkerPamPrompt.size_json]
  simp only [PamPromptResponseRequest.overhead, responseRequest, envelope,
    ControlTransactionIdentity.fromWorker, WorkerTransactionIdentity.textBytes]
  rw [hr, hrversion, hrType, hrStage]
  omega

section Limits
variable {d : WorkerPamConversationDriver} {style : PamMessageStyle} {message : CStr}
  {p : PamPromptEnvelope} {a : PamConversationAuthority} {r : PamPromptResponseEnvelope}
  {promptedAt answeredAt : Nat}
  {fromSlice : List UInt8 → Option PamPromptResponseRequest}

/-- A prompt that the driver makes and an answer that the launcher accepts for it: both of the
prompt's hops and the way back take them exactly if the answer fits the control message. -/
theorem accepted_answer_fits_iff (hp : (d.nextPrompt style message).1 = some p)
    (hstage : d.transaction.stage.utf8ByteSize ≤ 64)
    (hprompt : (a.acceptWirePrompt promptedAt p).1 = .ok ()) (hshape : r.validateShape = .ok ())
    (hanswer : ((a.acceptWirePrompt promptedAt p).2.acceptWireResponse answeredAt r).1 = .ok ())
    (hdecode : fromSlice (bytes (responseRequest (d.envelope p) d.workerId r).json) =
      some (responseRequest (d.envelope p) d.workerId r)) :
    ((∃ line, writeEnvelope (d.envelope p) = .ok line) ∧ size p.json ≤ maxGreeterFrameBytes ∧
      ∃ line, writeControlRequest (responseRequest (d.envelope p) d.workerId r) = .ok line ∧
        ∀ rest, readControlRequest fromSlice (line ++ rest) =
          .ok (responseRequest (d.envelope p) d.workerId r, rest)) ↔
      (responseRequest (d.envelope p) d.workerId r).overhead + r.response.encodedLen <
        maxWorkerControlMessageBytes := by
  rw [writeControlRequest_readBack _ hdecode, PamPromptResponseRequest.size_json]
  refine ⟨fun h => h.2.2, fun hfits => ?_⟩
  -- an answer that fits leaves so little room for the names that the prompt fits too
  have hroom : (responseRequest (d.envelope p) d.workerId r).overhead < 4096 :=
    Nat.lt_of_le_of_lt (Nat.le_add_right _ _) hfits
  obtain ⟨hsmaller, hsize⟩ := size_prompt_le hp (accepted_identity hprompt hanswer) hshape hstage
  have hlimit : maxWorkerMessageBytes = 65536 := rfl
  have hframe : maxGreeterFrameBytes = 65536 := rfl
  refine ⟨⟨_, writeLine_ok ?_⟩, ?_, hfits⟩
  · omega
  · omega

end Limits

theorem encodedLen_secret (value : String) :
    (PamPromptResponse.secret value).encodedLen = text value + 11 := by
  have hname : text "Secret" = 8 := by decide
  rw [PamPromptResponse.encodedLen, PamPromptResponse.json, size_braced]
  simp only [object, separated, List.map_cons, List.map_nil, List.sum_cons, List.sum_nil,
    List.length_cons, List.length_nil, size_quoted, hname]
  omega

def secretOf (n : Nat) : String := String.ofList (List.replicate n 'a')

theorem text_secretOf (n : Nat) : text (secretOf n) = n + 2 := by
  have hchar : charBytes 'a' = 1 := by decide
  simp [text, secretOf, hchar]
  omega

theorem isBounded_secretOf {n : Nat} (hpos : 0 < n) (hle : n ≤ 4096) :
    isBounded (secretOf n) = true := by
  have hsize : (secretOf n).utf8ByteSize = n := by
    have hone : Char.utf8Size 'a' = 1 := by decide
    rw [← size_toList]
    simp [secretOf, size, hone]
  have hne : secretOf n ≠ "" := by
    intro h
    rw [h] at hsize
    have hempty : "".utf8ByteSize = 0 := by decide
    omega
  have hnul : (secretOf n).toList.contains '\x00' = false := by simp [secretOf]
  simp [isBounded, hsize, hne, hle]
  simpa using hnul

def answerOf (n : Nat) : PamPromptResponseEnvelope :=
  { sampleAnswer with payloadLen := n + 13, response := .secret (secretOf n) }

theorem encodedLen_answerOf (n : Nat) : (answerOf n).response.encodedLen = n + 13 := by
  show (PamPromptResponse.secret (secretOf n)).encodedLen = n + 13
  rw [encodedLen_secret, text_secretOf]

theorem answerOf_valid {n : Nat} (hpos : 0 < n) (hle : n ≤ 4096) :
    (answerOf n).validateShape = .ok () := by
  have hwell : (answerOf n).wellFormed (answerOf n).protocolVersion (answerOf n).messageType
      "pam_prompt_response" = true := by
    show sampleIdentity.wellFormed 2 "pam_prompt_response" "pam_prompt_response" = true
    decide
  have hpayload : ¬maxGreeterPayloadBytes < n + 13 := by
    unfold maxGreeterPayloadBytes
    omega
  unfold PamPromptResponseEnvelope.validateShape
  rw [hwell, encodedLen_answerOf]
  show (if (!true) = true then Except.error EnvelopeError.invalidPayload
    else if n + 13 ≠ n + 13 ∨ maxGreeterPayloadBytes < n + 13 then .error .invalidPayload
    else if isBounded (secretOf n) then .ok () else .error .invalidPayload) = .ok ()
  simp [isBounded_secretOf hpos hle, hpayload]

theorem answerOf_accepted (n : Nat) :
    ((sampleAuthority.acceptWirePrompt 0 samplePrompt).2.acceptWireResponse 1 (answerOf n)).1 =
      .ok () := by
  rw [PamConversationAuthority.acceptWireResponse_of]
  · decide
  · decide
  · show PamConversationAuthority.binds _ sampleIdentity = true
    decide
  · rfl

/-- The prompt for the password and the answer to it are accepted everywhere, and the answer is
lost on its way back to the worker. -/
theorem longSecret_lost :
    (PamExchange.sampleStart.driver.nextPrompt .promptEchoOff PamExchange.passwordMessage).1 =
      some samplePrompt ∧
    (sampleAuthority.acceptWirePrompt 0 samplePrompt).1 = .ok () ∧
    (answerOf 4096).validateShape = .ok () ∧
    ((sampleAuthority.acceptWirePrompt 0 samplePrompt).2.acceptWireResponse 1 (answerOf 4096)).1 =
      .ok () ∧
    writeControlRequest (responseRequest (PamExchange.sampleStart.driver.envelope samplePrompt)
      PamExchange.sampleStart.driver.workerId (answerOf 4096)) = .error .workerProtocolFailed := by
  refine ⟨?_, by decide, answerOf_valid (by decide) (by decide), answerOf_accepted 4096, ?_⟩
  · rw [show PamExchange.sampleStart.driver = { PamExchange.sampleStart.driver with
      promptId := 0, sequence := 0 } from rfl, PamExchange.nextPrompt_password (by decide)]
    rfl
  · have hlimit : maxWorkerControlMessageBytes = 4096 := rfl
    have hanswer : (responseRequest (PamExchange.sampleStart.driver.envelope samplePrompt)
      PamExchange.sampleStart.driver.workerId (answerOf 4096)).response.response.encodedLen =
        4096 + 13 := encodedLen_answerOf 4096
    rw [writeControlRequest, writeLine, if_pos]
    rw [length_bytes, PamPromptResponseRequest.size_json, hanswer, hlimit]
    omega

/-- A decoder that knows the answer of the sample conversation. -/
def decodeSample (line : List UInt8) : Option PamPromptResponseRequest :=
  let request := responseRequest (PamExchange.sampleStart.driver.envelope samplePrompt)
    PamExchange.sampleStart.driver.workerId sampleAnswer
  if line = bytes request.json then some request else none

/-- A short secret gets all the way. -/
theorem shortSecret_fits :
    (PamExchange.sampleStart.driver.nextPrompt .promptEchoOff PamExchange.passwordMessage).1 =
      some samplePrompt ∧
    ∃ line, writeControlRequest (responseRequest
      (PamExchange.sampleStart.driver.envelope samplePrompt)
      PamExchange.sampleStart.driver.workerId sampleAnswer) = .ok line ∧
      ∀ rest, readControlRequest decodeSample (line ++ rest) = .ok (responseRequest
        (PamExchange.sampleStart.driver.envelope samplePrompt)
        PamExchange.sampleStart.driver.workerId sampleAnswer, rest) := by
  have hprompt : (PamExchange.sampleStart.driver.nextPrompt .promptEchoOff
      PamExchange.passwordMessage).1 = some samplePrompt := by
    rw [show PamExchange.sampleStart.driver = { PamExchange.sampleStart.driver with
      promptId := 0, sequence := 0 } from rfl, PamExchange.nextPrompt_password (by decide)]
    rfl
  have hshape : sampleAnswer.validateShape = .ok () := by decide
  have hdecode : decodeSample (bytes (responseRequest
      (PamExchange.sampleStart.driver.envelope samplePrompt)
      PamExchange.sampleStart.driver.workerId sampleAnswer).json) = some (responseRequest
      (PamExchange.sampleStart.driver.envelope samplePrompt)
      PamExchange.sampleStart.driver.workerId sampleAnswer) := by
    unfold decodeSample
    exact if_pos (Eq.refl _)
  have hprompted : (sampleAuthority.acceptWirePrompt 0 samplePrompt).1 = .ok () := by decide
  have hanswered : ((sampleAuthority.acceptWirePrompt 0 samplePrompt).2.acceptWireResponse 1
      sampleAnswer).1 = .ok () := by decide
  have hiff := accepted_answer_fits_iff hprompt (by decide) hprompted hshape hanswered hdecode
  exact ⟨hprompt, (hiff.mpr (by decide)).2.2⟩

end Niralis
