import Mathlib.Data.List.Nodup
import Niralis.PamForwarding

namespace Niralis

theorem nul_not_mem_of_fromUTF8? {message : CStr} {text : String}
    (h : String.fromUTF8? message.bytes = some text) : '\x00' ∉ text.toList := by
  intro hmem
  have hbytes : text.toByteArray = message.bytes := by
    unfold String.fromUTF8? at h
    split at h
    · rw [← Option.some.inj h]
      rfl
    · cases h
  refine message.nulFree ?_
  rw [← hbytes, ← String.utf8Encode_toList, List.utf8Encode]
  have hzero : (0 : UInt8) ∈ text.toList.flatMap String.utf8EncodeChar :=
    List.mem_flatMap.mpr ⟨'\x00', hmem, by decide⟩
  simpa using hzero

namespace WorkerPamConversationDriver
variable {d : WorkerPamConversationDriver}

def SameWorker (d d' : WorkerPamConversationDriver) : Prop :=
  d'.binding = d.binding ∧ d'.conversationId = d.conversationId ∧
    d'.transaction = d.transaction ∧ d'.workerId = d.workerId ∧ d'.workerPid = d.workerPid

theorem advance_cases (d : WorkerPamConversationDriver) :
    (d.advance.1 = true ∧ d.promptId + 1 < u64Bound ∧ d.sequence + 1 < u64Bound ∧
      d.advance.2 = { d with promptId := d.promptId + 1, sequence := d.sequence + 1 }) ∨
    d.advance.1 = false ∧ d.advance.2.sequence = d.sequence ∧ SameWorker d d.advance.2 ∧
      (u64Bound ≤ d.promptId + 1 ∧ d.advance.2 = d ∨ u64Bound ≤ d.sequence + 1) := by
  unfold advance checkedAdd
  by_cases hp : d.promptId + 1 < u64Bound
  · by_cases hs : d.sequence + 1 < u64Bound
    · simp [hp, hs]
    · simp [hp, hs, SameWorker]
      omega
  · simp [hp, SameWorker]
    omega

theorem nextPrompt_snd (d : WorkerPamConversationDriver) (style : PamMessageStyle)
    (message : CStr) : (d.nextPrompt style message).2 = d.advance.2 := by
  unfold nextPrompt
  dsimp only
  split
  · rfl
  · split
    · rfl
    · split <;> rfl

/-- A prompt carries the counters after the message, and a text within bounds. -/
theorem nextPrompt_some {style : PamMessageStyle} {message : CStr} {p : PamPromptEnvelope}
    (h : (d.nextPrompt style message).1 = some p) :
    d.advance.1 = true ∧ p.toPamEnvelopeIdentity = d.advance.2.identity style ∧
      p.protocolVersion = greeterProtocolVersion ∧ p.messageType = "pam_prompt" ∧
      p.payloadLen = p.message.utf8ByteSize ∧ isBounded p.message = true := by
  unfold nextPrompt at h
  dsimp only at h
  split at h
  · cases h
  · rename_i hadvanced
    split at h
    · cases h
    · rename_i text htext
      split at h
      · cases h
      · rename_i hbounded
        obtain rfl := Option.some.inj h
        have hnul := nul_not_mem_of_fromUTF8? htext
        refine ⟨by simpa using hadvanced, rfl, rfl, rfl, rfl, ?_⟩
        simp only [not_or, Nat.not_lt] at hbounded
        simp [isBounded, hbounded.1, hbounded.2, hnul]

/-- An answer the driver takes is for the prompt that its counters name. -/
theorem receive_ok {style : PamMessageStyle} {q : PamPromptResponseRequest} {r : PamPromptResponse}
    (h : d.receive style q = .ok r) :
    q.response.toPamEnvelopeIdentity = d.identity style ∧ r = q.response.response := by
  unfold receive at h
  split at h
  · cases h
  · split at h
    · rename_i hmatch
      split at h
      · exact ⟨hmatch.2.2.2, (Except.ok.inj h).symm⟩
      · cases h
    · cases h

end WorkerPamConversationDriver

/-- The greeter answers every prompt correctly, and in time. -/
structure PamCallback.Correct (deadline : Nat) (c : PamCallback) : Prop where
  answers : ∀ p : PamPromptEnvelope, p.validateShape = .ok () → ∃ r, c.greeter p = .ok r ∧
    r.toPamEnvelopeIdentity = p.toPamEnvelopeIdentity ∧ r.validateShape = .ok ()
  promptedAt : c.promptedAt < deadline
  answeredAt : c.answeredAt < deadline

/-- The launcher only passes on an answer that names the prompt it is for. -/
theorem forwardPamPrompt_identity {w : WorkerAttempt} {m : WorkerPamPrompt}
    {conversation : Option (PamPromptEnvelope → Except SessionError PamPromptResponseEnvelope)}
    {authority : Option PamConversationAuthority} {promptedAt answeredAt : Nat}
    {q : PamPromptResponseRequest}
    (h : (forwardPamPrompt w m conversation authority promptedAt answeredAt).1 = .ok q) :
    q.response.toPamEnvelopeIdentity = m.prompt.toPamEnvelopeIdentity := by
  unfold forwardPamPrompt at h
  split at h
  · cases h
  · split at h
    · cases h
    · cases h
    · split at h
      · cases h
      · split at h
        · cases h
        · split at h
          · cases h
          · rename_i hsame
            split at h
            · cases h
            · obtain rfl := Except.ok.inj h
              simp only [not_or, Decidable.not_not] at hsame
              exact hsame.1

namespace PamExchange
open WorkerPamConversationDriver

/-- The prompt that a callback writes, if it writes one. -/
def writes (s : PamExchange) (c : PamCallback) : Option PamPromptEnvelope :=
  match (s.driver.nextPrompt c.style c.message).1 with
  | none => none
  | some prompt =>
    match writeEnvelope ((s.driver.nextPrompt c.style c.message).2.envelope prompt) with
    | .error _ => none
    | .ok _ => if c.stdout then some prompt else none

/-- The answer to the prompt does not get back to the worker. -/
def undelivered (s : PamExchange) (c : PamCallback) (prompt : PamPromptEnvelope) : Prop :=
  ∀ response, c.greeter prompt = .ok response →
    sendControlRequest (responseRequest (s.driver.envelope prompt) s.attempt.workerId response)
      c.sent = false

/-- The callback writes no prompt, or its answer does not get back. -/
def breaks (s : PamExchange) (c : PamCallback) : Prop :=
  ∀ prompt, s.writes c = some prompt → s.undelivered c prompt

def advanced (s : PamExchange) : PamExchange := { s with driver := s.driver.advance.2 }

theorem respond_eq (s : PamExchange) (c : PamCallback) :
    s.respond c = match s.writes c with
      | none => (.error (), s.advanced)
      | some prompt => (s.advanced.forward c prompt).receive c prompt := by
  unfold respond writes
  dsimp only
  rw [nextPrompt_snd]
  cases (s.driver.nextPrompt c.style c.message).1 with
  | none => rfl
  | some prompt =>
    dsimp only
    cases writeEnvelope (s.driver.advance.2.envelope prompt) with
    | error e => rfl
    | ok line => cases c.stdout <;> rfl

theorem step_eq (s : PamExchange) (c : PamCallback) :
    ∃ failed, s.step c = { (s.respond c).2 with failed } := by
  unfold step callback
  obtain ⟨result, t⟩ := s.respond c
  cases hstyle : c.style with
  | promptEchoOff => exact ⟨t.failed, rfl⟩
  | promptEchoOn => exact ⟨t.failed, rfl⟩
  | informational =>
    dsimp only
    split
    · exact ⟨t.failed, rfl⟩
    · exact ⟨true, rfl⟩
  | error =>
    dsimp only
    split
    · exact ⟨t.failed, rfl⟩
    · exact ⟨true, rfl⟩

theorem writes_some {s : PamExchange} {c : PamCallback} {p : PamPromptEnvelope}
    (h : s.writes c = some p) : (s.driver.nextPrompt c.style c.message).1 = some p := by
  unfold writes at h
  split at h
  · cases h
  · rename_i prompt hprompt
    split at h
    · cases h
    · split at h
      · rw [hprompt, ← h]
      · cases h

theorem sendControlRequest_of_size {q : PamPromptResponseRequest}
    (h : JsonText.size q.json < maxWorkerControlMessageBytes) (sent : Bool) :
    sendControlRequest q sent = sent := by
  rw [sendControlRequest, writeControlRequest, writeLine_ok h]

theorem writes_of_nextPrompt {s : PamExchange} {c : PamCallback} {p : PamPromptEnvelope}
    {d : WorkerPamConversationDriver} (hstdout : c.stdout = true)
    (hp : s.driver.nextPrompt c.style c.message = (some p, d))
    (hsize : JsonText.size (d.envelope p).json < maxWorkerMessageBytes) : s.writes c = some p := by
  unfold writes
  rw [hp]
  dsimp only
  rw [writeEnvelope, writeLine_ok hsize]
  exact if_pos hstdout

section Frames
variable {s : PamExchange} {c : PamCallback} {p : PamPromptEnvelope}

/-- The driver's read touches the channel and what has been returned, nothing else. -/
theorem receive_frame (s : PamExchange) (c : PamCallback) (p : PamPromptEnvelope) :
    ∃ channel returned, (s.receive c p).2 = { s with channel, returned } := by
  unfold receive
  split
  · exact ⟨s.channel, s.returned, rfl⟩
  · split
    · exact ⟨s.channel, s.returned, rfl⟩
    · split
      · exact ⟨_, s.returned, rfl⟩
      · exact ⟨_, _, rfl⟩

theorem deliver_frame {result : Except SessionError PamPromptResponseRequest} :
    (s.deliver c p result).driver = s.driver ∧ (s.deliver c p result).attempt = s.attempt ∧
      (s.deliver c p result).written = s.written := by
  unfold deliver
  split
  · exact ⟨rfl, rfl, rfl⟩
  · dsimp only
    split <;> exact ⟨rfl, rfl, rfl⟩

theorem forward_frame (s : PamExchange) (c : PamCallback) (p : PamPromptEnvelope) :
    (s.forward c p).driver = s.driver ∧ (s.forward c p).attempt = s.attempt ∧
      ∃ taken, (s.forward c p).written = s.written ++ [(p, taken)] ∧
        (s.forwarding = false → taken = false ∧ (s.forward c p).forwarding = false) := by
  unfold forward
  split
  · rename_i hforwarding
    refine ⟨?_, ?_, s.takes c p, ?_, fun h => ?_⟩
    · rw [deliver_frame.1]
    · rw [deliver_frame.2.1]
    · rw [deliver_frame.2.2]
    · rw [hforwarding] at h
      cases h
  · rename_i hforwarding
    exact ⟨rfl, rfl, false, rfl, fun h => ⟨rfl, h⟩⟩

theorem step_of_writes_none (h : s.writes c = none) :
    ∃ failed, s.step c = { s.advanced with failed } := by
  obtain ⟨failed, hstep⟩ := step_eq s c
  rw [respond_eq, h] at hstep
  exact ⟨failed, hstep⟩

theorem step_of_writes (h : s.writes c = some p) :
    ∃ failed channel returned,
      s.step c = { s.advanced.forward c p with failed, channel, returned } := by
  obtain ⟨failed, hstep⟩ := step_eq s c
  obtain ⟨channel, returned, hreceive⟩ := receive_frame (s.advanced.forward c p) c p
  rw [respond_eq, h] at hstep
  refine ⟨failed, channel, returned, ?_⟩
  rw [hstep, hreceive]

end Frames

/-- The k-th prompt written carries the number k and was accepted. -/
def Numbered (s : PamExchange) : Prop :=
  ∀ k p taken, s.written[k]? = some (p, taken) → p.sequence = k + 1 ∧ taken = true

/-- The driver never wrote more prompts than it counted. -/
structure Counted (s : PamExchange) : Prop where
  same : s.driver.promptId = s.driver.sequence
  written : s.written.length ≤ s.driver.sequence

/-- No later prompt can carry its own number and be accepted. -/
def OutOfStep (s : PamExchange) : Prop :=
  s.forwarding = false ∨ s.written.length < s.driver.sequence ∨ s.driver.advance.1 = false

theorem Counted.advance {s : PamExchange} (h : s.Counted) :
    (s.driver.advance.1 = true ∧ s.driver.sequence + 1 < u64Bound ∧
      s.driver.advance.2.sequence = s.driver.sequence + 1 ∧
      s.driver.advance.2.promptId = s.driver.sequence + 1) ∨
    s.driver.advance.1 = false ∧ s.driver.advance.2 = s.driver := by
  rcases advance_cases s.driver with ⟨htrue, -, hlt, heq⟩ | ⟨hfalse, -, -, hover⟩
  · rw [heq, h.same]
    exact Or.inl ⟨htrue, hlt, rfl, rfl⟩
  · refine Or.inr ⟨hfalse, ?_⟩
    rcases hover with ⟨-, hsame⟩ | hover
    · exact hsame
    · -- both counters are equal, so the first one overflows already
      have hp : ¬s.driver.promptId + 1 < u64Bound := by rw [h.same]; omega
      simp [WorkerPamConversationDriver.advance, checkedAdd, hp]

theorem writes_advances {s : PamExchange} {c : PamCallback} {p : PamPromptEnvelope}
    (hs : s.Counted) (h : s.writes c = some p) : s.driver.advance.1 = true ∧
      p.sequence = s.driver.sequence + 1 ∧ s.driver.advance.2.sequence = s.driver.sequence + 1 := by
  obtain ⟨hadvanced, hidentity, -⟩ := nextPrompt_some (writes_some h)
  rcases hs.advance with ⟨-, -, hsequence, -⟩ | ⟨hfalse, -⟩
  · refine ⟨hadvanced, ?_, hsequence⟩
    rw [hidentity]
    exact hsequence
  · rw [hadvanced] at hfalse
    cases hfalse

theorem Counted.advanced {s : PamExchange} (h : s.Counted) : s.advanced.Counted := by
  rcases h.advance with ⟨-, -, hsequence, hprompt⟩ | ⟨-, hsame⟩
  · refine ⟨hprompt.trans hsequence.symm, ?_⟩
    show s.written.length ≤ s.driver.advance.2.sequence
    have := h.written
    omega
  · unfold PamExchange.advanced
    rw [hsame]
    exact h

theorem Counted.forward {s : PamExchange} {c : PamCallback} {p : PamPromptEnvelope}
    (h : s.Counted) (hwrites : s.writes c = some p) : (s.advanced.forward c p).Counted := by
  obtain ⟨hd, -, taken, hwritten, -⟩ := forward_frame s.advanced c p
  obtain ⟨-, -, hsequence⟩ := writes_advances h hwrites
  refine ⟨?_, ?_⟩
  · rw [hd]
    exact h.advanced.same
  · rw [hd, hwritten, List.length_append, List.length_singleton]
    show s.written.length + 1 ≤ s.driver.advance.2.sequence
    have := h.written
    omega

theorem Counted.step {s : PamExchange} (h : s.Counted) (c : PamCallback) : (s.step c).Counted := by
  cases hwrites : s.writes c with
  | none =>
    obtain ⟨failed, hstep⟩ := step_of_writes_none hwrites
    rw [hstep]
    exact ⟨h.advanced.same, h.advanced.written⟩
  | some p =>
    obtain ⟨failed, channel, returned, hstep⟩ := step_of_writes hwrites
    rw [hstep]
    exact ⟨(h.forward hwrites).same, (h.forward hwrites).written⟩

/-- What worker and launcher have been told about each other. -/
structure Paired (s : PamExchange) (a : PamConversationAuthority) : Prop where
  worker : s.driver.workerId = s.attempt.workerId
  pid : s.driver.workerPid = s.attempt.workerPid
  transaction : validTransaction s.driver.transaction s.attempt.workerId s.attempt.generation
    s.attempt.attemptId "reserved" = true
  binds : ∀ style, a.binds (s.driver.identity style) = true
  requestId : s.driver.binding.requestId ≠ 0
  connectionEpoch : s.driver.binding.connectionEpoch ≠ 0
  seat : s.driver.binding.seat ≠ ""
  transactionId : s.driver.transaction.transactionId ≠ ""
  conversationId : s.driver.conversationId ≠ ""

/-- Both counters agree and the launcher waits for the next prompt. -/
structure InStep (deadline : Nat) (s : PamExchange) : Prop where
  counted : s.Counted
  forwarding : s.forwarding = true
  written : s.written.length = s.driver.sequence
  authority : ∃ a, s.authority = some a ∧ s.Paired a ∧ a.consumed = false ∧ a.pending = none ∧
    a.deadline = deadline ∧ a.nextSequence = wrappingAdd s.driver.sequence 1

theorem Paired.advanced {s : PamExchange} {a : PamConversationAuthority} (h : s.Paired a)
    (hs : s.Counted) : s.advanced.Paired a := by
  unfold PamExchange.advanced
  rcases advance_cases s.driver with ⟨-, -, -, heq⟩ | ⟨hfalse, -⟩
  · rw [heq]
    exact ⟨h.worker, h.pid, h.transaction, h.binds, h.requestId, h.connectionEpoch, h.seat,
      h.transactionId, h.conversationId⟩
  · rcases hs.advance with ⟨htrue, -⟩ | ⟨-, hsame⟩
    · rw [hfalse] at htrue
      cases htrue
    · rw [hsame]
      exact h

theorem Paired.forwardable {s : PamExchange} {a : PamConversationAuthority} {c : PamCallback}
    {p : PamPromptEnvelope} (h : s.Paired a) (hs : s.Counted)
    (hp : (s.driver.nextPrompt c.style c.message).1 = some p) :
    p.validateShape = .ok () ∧ forwardable s.advanced.attempt (s.advanced.driver.envelope p) = true := by
  obtain ⟨hadvanced, hidentity, hversion, htype, hlen, hbounded⟩ := nextPrompt_some hp
  have hpair := h.advanced hs
  have hnonzero : s.advanced.driver.promptId ≠ 0 ∧ s.advanced.driver.sequence ≠ 0 := by
    rcases advance_cases s.driver with ⟨-, -, -, heq⟩ | ⟨hfalse, -⟩
    · unfold PamExchange.advanced
      rw [heq]
      exact ⟨Nat.succ_ne_zero _, Nat.succ_ne_zero _⟩
    · rw [hadvanced] at hfalse
      cases hfalse
  have hwell : p.wellFormed p.protocolVersion p.messageType "pam_prompt" = true := by
    rw [hidentity, hversion, htype]
    show (s.advanced.driver.identity c.style).wellFormed _ _ _ = true
    simp [PamEnvelopeIdentity.wellFormed, identity, hpair.requestId, hpair.connectionEpoch,
      hpair.seat, hpair.transactionId, hpair.conversationId, hnonzero.1, hnonzero.2]
  have hshape : p.validateShape = .ok () := by
    have hsmall : p.message.utf8ByteSize ≤ 4096 := by
      simp [isBounded] at hbounded
      exact hbounded.1.2
    have hle : ¬maxGreeterPayloadBytes < p.message.utf8ByteSize := by
      unfold maxGreeterPayloadBytes
      omega
    simp [PamPromptEnvelope.validateShape, hwell, hbounded, hlen, hle]
  refine ⟨hshape, ?_⟩
  simp [Niralis.forwardable, envelope, hshape, hpair.worker, hpair.pid, hpair.transaction]

/-- In step, a prompt is accepted, its answer too, and what is left is to send the answer. -/
theorem InStep.forward {deadline : Nat} {s : PamExchange} {c : PamCallback} {p : PamPromptEnvelope}
    (h : s.InStep deadline) (hc : c.Correct deadline) (hp : s.writes c = some p) :
    ∃ r a, c.greeter p = .ok r ∧ s.advanced.Paired a ∧ a.consumed = false ∧ a.pending = none ∧
      a.deadline = deadline ∧ a.nextSequence = wrappingAdd s.advanced.driver.sequence 1 ∧
      s.advanced.forward c p =
        deliver { s.advanced with authority := some a, written := s.written ++ [(p, true)] } c p
          (.ok (responseRequest (s.driver.envelope p) s.attempt.workerId r)) := by
  obtain ⟨a, ha, hpaired, hopen, hpending, hdeadline, hnext⟩ := h.authority
  have hprompt := writes_some hp
  obtain ⟨-, hidentity, -⟩ := nextPrompt_some hprompt
  obtain ⟨hshape, hforwardable⟩ := hpaired.forwardable h.counted hprompt
  obtain ⟨r, hr, hsame, hrshape⟩ := hc.answers p hshape
  obtain ⟨hadvanced, hsequence, hcounter⟩ := writes_advances h.counted hp
  have hlt : s.driver.sequence + 1 < u64Bound := by
    rcases h.counted.advance with ⟨-, hlt, -⟩ | ⟨hfalse, -⟩
    · exact hlt
    · rw [hadvanced] at hfalse
      cases hfalse
  have hpaired' := hpaired.advanced h.counted
  have hbinds : a.binds p.toPamEnvelopeIdentity = true := by
    rw [hidentity]
    exact hpaired'.binds c.style
  have hpromptId : p.promptId ≠ 0 := by
    simp [PamPromptEnvelope.validateShape, PamEnvelopeIdentity.wellFormed] at hshape
    exact hshape.1.1.1.2
  have hnext' : p.sequence = a.nextSequence := by
    rw [hsequence, hnext, wrappingAdd_of_lt hlt]
  have hprompted := PamConversationAuthority.acceptWirePrompt_of hopen
    (hdeadline ▸ hc.promptedAt) hbinds hnext' hpromptId hpending
  have hanswered := PamConversationAuthority.acceptWireResponse_of
    (a := { a with nextSequence := wrappingAdd a.nextSequence 1
                   pending := some (p.promptId, p.style, p.sequence) }) (r := r)
    hopen (hdeadline ▸ hc.answeredAt) (hsame ▸ hbinds) (by rw [hsame])
  -- the authority and the driver count on together
  refine ⟨r, { a with nextSequence := wrappingAdd a.nextSequence 1, pending := none }, hr,
    ⟨hpaired'.worker, hpaired'.pid, hpaired'.transaction, hpaired'.binds, hpaired'.requestId,
      hpaired'.connectionEpoch, hpaired'.seat, hpaired'.transactionId, hpaired'.conversationId⟩,
    hopen, rfl, hdeadline, ?_, ?_⟩
  · show wrappingAdd a.nextSequence 1 = wrappingAdd s.driver.advance.2.sequence 1
    rw [← hnext', hsequence, hcounter]
  · have henvelope : s.advanced.driver.envelope p = s.driver.envelope p := by
      rcases advance_cases s.driver with ⟨-, -, -, heq⟩ | ⟨hfalse, -⟩
      · show s.driver.advance.2.envelope p = _
        rw [heq]
        rfl
      · rw [hadvanced] at hfalse
        cases hfalse
    have htakes : s.advanced.takes c p = true := by
      have hauthority : s.advanced.authority = some a := ha
      unfold PamExchange.takes
      rw [hforwardable, hauthority]
      simp [hprompted]
    unfold PamExchange.forward
    rw [if_pos (show s.advanced.forwarding = true from h.forwarding), htakes]
    have hresult : forwardPamPrompt s.advanced.attempt (s.advanced.driver.envelope p)
        (some c.greeter) s.advanced.authority c.promptedAt c.answeredAt =
        (.ok (responseRequest (s.driver.envelope p) s.attempt.workerId r),
          some { a with nextSequence := wrappingAdd a.nextSequence 1, pending := none }) := by
      have hprompted' : a.acceptWirePrompt c.promptedAt (s.driver.envelope p).prompt = _ :=
        hprompted
      have hr' : c.greeter (s.driver.envelope p).prompt = .ok r := hr
      have hsame' : r.toPamEnvelopeIdentity = (s.driver.envelope p).prompt.toPamEnvelopeIdentity :=
        hsame
      rw [henvelope] at hforwardable ⊢
      rw [show s.advanced.authority = some a from ha, forwardPamPrompt]
      simp only [hforwardable, Bool.not_true, Bool.false_eq_true, if_false, hprompted', hr', hsame',
        ne_eq, not_true_eq_false, hrshape, or_self, hanswered]
      rfl
    rw [hresult]
    rfl

theorem Numbered.append {s t : PamExchange} {p : PamPromptEnvelope} (h : s.Numbered)
    (hwritten : t.written = s.written ++ [(p, true)]) (hp : p.sequence = s.written.length + 1) :
    t.Numbered := by
  intro k q taken hq
  rw [hwritten] at hq
  rcases Nat.lt_or_ge k s.written.length with hlt | hge
  · rw [List.getElem?_append_left hlt] at hq
    exact h k q taken hq
  · rw [List.getElem?_append_right hge] at hq
    have hk : k = s.written.length := by
      have := (List.getElem?_eq_some_iff.mp hq).1
      rw [List.length_singleton] at this
      omega
    subst hk
    rw [Nat.sub_self] at hq
    cases hq
    exact ⟨hp, rfl⟩

/-- A callback in step: nothing is lost, and the two stay in step unless it breaks it. -/
theorem InStep.step {deadline : Nat} {s : PamExchange} {c : PamCallback} (h : s.InStep deadline)
    (hc : c.Correct deadline) (hnumbered : s.Numbered) : (s.step c).Numbered ∧
      (s.breaks c → (s.step c).OutOfStep) ∧ (¬s.breaks c → (s.step c).InStep deadline) := by
  cases hwrites : s.writes c with
  | none =>
    -- nothing is written, but the driver has counted on or can no longer count
    obtain ⟨failed, hstep⟩ := step_of_writes_none hwrites
    have hbreaks : s.breaks c := fun p hp => by
      rw [hwrites] at hp
      cases hp
    refine ⟨?_, fun _ => ?_, fun hn => absurd hbreaks hn⟩
    · rw [hstep]
      exact hnumbered
    · rw [hstep]
      rcases h.counted.advance with ⟨-, -, hsequence, -⟩ | ⟨hfalse, hsame⟩
      · refine Or.inr (Or.inl ?_)
        show s.written.length < s.driver.advance.2.sequence
        have := h.written
        omega
      · refine Or.inr (Or.inr ?_)
        show s.driver.advance.2.advance.1 = false
        rw [hsame]
        exact hfalse
  | some p =>
    obtain ⟨failed, channel, returned, hstep⟩ := step_of_writes hwrites
    obtain ⟨r, a, hr, hpaired, hopen, hpending, hdeadline, hnext, hforward⟩ := h.forward hc hwrites
    obtain ⟨-, hsequence, hcounter⟩ := writes_advances h.counted hwrites
    have hcounted := h.counted.step c
    -- the greeter answers, so the step breaks only where its answer is lost
    have hbreaks : s.breaks c ↔ sendControlRequest (responseRequest (s.driver.envelope p)
        s.attempt.workerId r) c.sent = false := by
      constructor
      · exact fun hb => hb p hwrites r hr
      · intro hlost q hq r' hr'
        rw [hwrites] at hq
        cases hq
        rw [hr] at hr'
        cases hr'
        exact hlost
    have hwritten : (s.step c).written = s.written ++ [(p, true)] := by
      have hforwarded : (s.advanced.forward c p).written = s.written ++ [(p, true)] := by
        rw [hforward, deliver_frame.2.2]
      rw [hstep]
      exact hforwarded
    refine ⟨hnumbered.append hwritten (by rw [hsequence, h.written]), fun hb => ?_, fun hn => ?_⟩
    · refine Or.inl ?_
      rw [hstep, hforward]
      simp [deliver, hbreaks.mp hb]
    · have hsent : sendControlRequest (responseRequest (s.driver.envelope p)
          s.attempt.workerId r) c.sent = true := by
        rw [hbreaks, Bool.not_eq_false] at hn
        exact hn
      have hdelivered : (s.advanced.forward c p).driver = s.advanced.driver ∧
          (s.advanced.forward c p).attempt = s.advanced.attempt ∧
          (s.advanced.forward c p).forwarding = true ∧
          (s.advanced.forward c p).authority = some a := by
        rw [hforward]
        simp only [deliver, hsent, if_true]
        exact ⟨trivial, trivial, h.forwarding, trivial⟩
      obtain ⟨hd, hattempt, hforwarding, hauthority⟩ := hdelivered
      refine ⟨hcounted, ?_, ?_, a, ?_, ?_, hopen, hpending, hdeadline, ?_⟩
      · rw [hstep]
        exact hforwarding
      · rw [hwritten, hstep, List.length_append, List.length_singleton]
        show s.written.length + 1 = (s.advanced.forward c p).driver.sequence
        rw [hd, h.written]
        exact hcounter.symm
      · rw [hstep]
        exact hauthority
      · rw [hstep]
        have hsame : ∀ t : PamExchange, t.driver = s.advanced.driver → t.attempt = s.advanced.attempt →
            t.Paired a := by
          intro t htd hta
          refine ⟨?_, ?_, ?_, ?_, ?_, ?_, ?_, ?_, ?_⟩ <;> rw [htd]
          · rw [hta]
            exact hpaired.worker
          · rw [hta]
            exact hpaired.pid
          · rw [hta]
            exact hpaired.transaction
          · exact hpaired.binds
          · exact hpaired.requestId
          · exact hpaired.connectionEpoch
          · exact hpaired.seat
          · exact hpaired.transactionId
          · exact hpaired.conversationId
        exact hsame _ hd hattempt
      · rw [hstep]
        show a.nextSequence = wrappingAdd (s.advanced.forward c p).driver.sequence 1
        rw [hd]
        exact hnext

def Silent (s : PamExchange) (cs : List PamCallback) : Prop :=
  StepsMeet PamExchange.step (fun s c => s.writes c = none) s cs

/-- No callback that writes a prompt comes after one that breaks the step. -/
def InTurn : PamExchange → List PamCallback → Prop
  | _, [] => True
  | s, c :: cs => (s.breaks c → Silent (s.step c) cs) ∧ InTurn (s.step c) cs

theorem written_take (s : PamExchange) (cs : List PamCallback) :
    s.written <+: (cs.foldl PamExchange.step s).written := by
  induction cs generalizing s with
  | nil => exact List.prefix_rfl
  | cons c cs ih =>
    refine List.IsPrefix.trans ?_ (ih (s.step c))
    cases hwrites : s.writes c with
    | none =>
      obtain ⟨failed, hstep⟩ := step_of_writes_none hwrites
      rw [hstep]
      exact List.prefix_rfl
    | some p =>
      obtain ⟨failed, channel, returned, hstep⟩ := step_of_writes hwrites
      obtain ⟨-, -, taken, hwritten, -⟩ := forward_frame s.advanced c p
      rw [hstep]
      show s.written <+: (s.advanced.forward c p).written
      rw [hwritten]
      exact List.prefix_append _ _

theorem numbered_iff_silent {s : PamExchange} (hs : s.Counted) (hout : s.OutOfStep)
    (hnumbered : s.Numbered) (cs : List PamCallback) :
    (cs.foldl PamExchange.step s).Numbered ↔ Silent s cs := by
  induction cs generalizing s with
  | nil => exact ⟨fun _ => trivial, fun _ => hnumbered⟩
  | cons c cs ih =>
    cases hwrites : s.writes c with
    | none =>
      obtain ⟨failed, hstep⟩ := step_of_writes_none hwrites
      have hnext : (s.step c).Numbered ∧ (s.step c).OutOfStep := by
        rw [hstep]
        refine ⟨hnumbered, ?_⟩
        rcases hout with hstopped | hbehind | hover
        · exact Or.inl hstopped
        · refine Or.inr (Or.inl ?_)
          show s.written.length < s.driver.advance.2.sequence
          rcases hs.advance with ⟨-, -, hsequence, -⟩ | ⟨-, hsame⟩
          · omega
          · rwa [hsame]
        · refine Or.inr (Or.inr ?_)
          show s.driver.advance.2.advance.1 = false
          rcases hs.advance with ⟨htrue, -⟩ | ⟨-, hsame⟩
          · rw [hover] at htrue
            cases htrue
          · rwa [hsame]
      rw [List.foldl_cons, ih (hs.step c) hnext.2 hnext.1]
      exact ⟨fun h => ⟨hwrites, h⟩, fun h => h.2⟩
    | some p =>
      obtain ⟨failed, channel, returned, hstep⟩ := step_of_writes hwrites
      obtain ⟨-, -, taken, hwritten, hstopped⟩ := forward_frame s.advanced c p
      obtain ⟨hadvanced, hsequence, -⟩ := writes_advances hs hwrites
      refine ⟨fun hall => ?_, fun hsilent => ?_⟩
      · -- the prompt stays in the list, with a wrong number or refused
        have hmem : (cs.foldl PamExchange.step (s.step c)).written[s.written.length]? =
            some (p, taken) := by
          obtain ⟨rest, hrest⟩ := written_take (s.step c) cs
          have hhead : (s.step c).written = s.written ++ [(p, taken)] := by
            rw [hstep]
            exact hwritten
          rw [← hrest, hhead, List.append_assoc, List.getElem?_append_right (Nat.le_refl _),
            Nat.sub_self]
          rfl
        obtain ⟨hnumber, htaken⟩ := hall _ p taken hmem
        rcases hout with hfalse | hbehind | hover
        · rw [(hstopped hfalse).1] at htaken
          cases htaken
        · omega
        · rw [hadvanced] at hover
          cases hover
      · have hnone : s.writes c = none := hsilent.1
        rw [hwrites] at hnone
        cases hnone

/-- From in step on, every prompt is numbered and accepted exactly if none follows a break. -/
theorem numbered_iff_inTurn {deadline : Nat} {s : PamExchange} (h : s.InStep deadline)
    (hnumbered : s.Numbered) {cs : List PamCallback} (hcs : ∀ c ∈ cs, c.Correct deadline) :
    (cs.foldl PamExchange.step s).Numbered ↔ InTurn s cs := by
  induction cs generalizing s with
  | nil => exact ⟨fun _ => trivial, fun _ => hnumbered⟩
  | cons c cs ih =>
    obtain ⟨hnext, hbreak, hkeep⟩ := h.step (hcs c List.mem_cons_self) hnumbered
    rw [List.foldl_cons]
    by_cases hbreaks : s.breaks c
    · rw [numbered_iff_silent (h.counted.step c) (hbreak hbreaks) hnext]
      refine ⟨fun hsilent => ⟨fun _ => hsilent, ?_⟩, fun hturn => hturn.1 hbreaks⟩
      -- where nothing is written any more, nothing can come after a break
      have hturn : ∀ (t : PamExchange) (ds : List PamCallback), Silent t ds → InTurn t ds := by
        intro t ds
        induction ds generalizing t with
        | nil => exact fun _ => trivial
        | cons d ds ihd => exact fun hd => ⟨fun _ => hd.2, ihd _ hd.2⟩
      exact hturn _ _ hsilent
    · rw [ih (hkeep hbreaks) hnext fun d hd => hcs d (List.mem_cons_of_mem _ hd)]
      exact ⟨fun hrest => ⟨fun hb => absurd hb hbreaks, hrest⟩, fun hturn => hturn.2⟩

/-- Every answer under way or returned is one that the launcher accepted. -/
structure Traced (s : PamExchange) : Prop where
  counted : s.Counted
  bounded : ∀ x ∈ s.accepted, x.1.sequence ≤ s.driver.sequence
  ordered : s.accepted.Pairwise fun x y => x.1.sequence < y.1.sequence
  channel : ∀ q ∈ s.channel, ∃ p, (p, q.response.response) ∈ s.accepted ∧
    q.response.toPamEnvelopeIdentity = p.toPamEnvelopeIdentity
  returned : ∀ x ∈ s.returned, x ∈ s.accepted

/-- The launcher accepts nothing, or the answer to this prompt, and sends at most that. -/
theorem forward_accepted (s : PamExchange) (c : PamCallback) (p : PamPromptEnvelope) :
    (s.forward c p).returned = s.returned ∧
      ((s.forward c p).accepted = s.accepted ∧ (s.forward c p).channel = s.channel ∨
        ∃ q : PamPromptResponseRequest, q.response.toPamEnvelopeIdentity = p.toPamEnvelopeIdentity ∧
          (s.forward c p).accepted = s.accepted ++ [(p, q.response.response)] ∧
          ((s.forward c p).channel = s.channel ∨ (s.forward c p).channel = s.channel ++ [q])) := by
  unfold forward
  split
  · dsimp only
    cases hresult : (forwardPamPrompt s.attempt (s.driver.envelope p) (some c.greeter) s.authority
        c.promptedAt c.answeredAt).1 with
    | error e => exact ⟨rfl, Or.inl ⟨rfl, rfl⟩⟩
    | ok q =>
      have hidentity : q.response.toPamEnvelopeIdentity = p.toPamEnvelopeIdentity :=
        forwardPamPrompt_identity hresult
      unfold deliver
      dsimp only
      split
      · exact ⟨rfl, Or.inr ⟨q, hidentity, rfl, Or.inr rfl⟩⟩
      · exact ⟨rfl, Or.inr ⟨q, hidentity, rfl, Or.inl rfl⟩⟩
  · exact ⟨rfl, Or.inl ⟨rfl, rfl⟩⟩

/-- After the launcher's turn, an accepted answer that carries the new number is for the prompt
that was just written. -/
theorem Traced.forward {s : PamExchange} {c : PamCallback} {p : PamPromptEnvelope} (h : s.Traced)
    (hwrites : s.writes c = some p) : (s.advanced.forward c p).Traced ∧
      ∀ x ∈ (s.advanced.forward c p).accepted, x.1.sequence = p.sequence → x.1 = p := by
  obtain ⟨hd, -⟩ := forward_frame s.advanced c p
  obtain ⟨-, hsequence, hcounter⟩ := writes_advances h.counted hwrites
  have hdriver : (s.advanced.forward c p).driver.sequence = s.driver.sequence + 1 := by
    rw [hd]
    exact hcounter
  obtain ⟨hreturned, hforward⟩ := forward_accepted s.advanced c p
  -- nothing is accepted, or the answer to this prompt, whose number is new
  rcases hforward with ⟨hsame, hchannel⟩ | ⟨q, hq, hmore, hchannel⟩
  · have hold : ∀ x ∈ s.accepted, x.1.sequence ≤ s.driver.sequence := h.bounded
    refine ⟨⟨h.counted.forward hwrites, ?_, ?_, ?_, ?_⟩, ?_⟩
    · rw [hsame, hdriver]
      exact fun x hx => (hold x hx).trans (Nat.le_succ _)
    · rw [hsame]
      exact h.ordered
    · rw [hsame, hchannel]
      exact h.channel
    · rw [hsame, hreturned]
      exact h.returned
    · rw [hsame]
      intro x hx hnumber
      have := hold x hx
      omega
  · have hmem : ∀ x ∈ s.advanced.accepted ++ [(p, q.response.response)],
        x.1.sequence ≤ s.driver.sequence ∨ x = (p, q.response.response) := by
      intro x hx
      rcases List.mem_append.mp hx with hx | hx
      · exact Or.inl (h.bounded x hx)
      · exact Or.inr (List.mem_singleton.mp hx)
    have hold : ∀ r ∈ s.channel, ∃ p', (p', r.response.response) ∈
        s.advanced.accepted ++ [(p, q.response.response)] ∧
        r.response.toPamEnvelopeIdentity = p'.toPamEnvelopeIdentity := by
      intro r hr
      obtain ⟨p', hp', hsame⟩ := h.channel r hr
      exact ⟨p', List.mem_append_left _ hp', hsame⟩
    refine ⟨⟨h.counted.forward hwrites, ?_, ?_, ?_, ?_⟩, ?_⟩
    · rw [hmore, hdriver]
      intro x hx
      rcases hmem x hx with hx | rfl
      · exact hx.trans (Nat.le_succ _)
      · exact hsequence.le
    · rw [hmore]
      refine List.pairwise_append.mpr ⟨h.ordered, List.pairwise_singleton _ _, ?_⟩
      intro x hx y hy
      rw [List.mem_singleton.mp hy]
      have := h.bounded x hx
      show x.1.sequence < p.sequence
      omega
    · rw [hmore]
      intro r hr
      rcases hchannel with hchannel | hchannel
      · rw [hchannel] at hr
        exact hold r hr
      · rw [hchannel] at hr
        rcases List.mem_append.mp hr with hr | hr
        · exact hold r hr
        · rw [List.mem_singleton.mp hr]
          exact ⟨p, List.mem_append_right _ List.mem_cons_self, hq⟩
    · rw [hmore, hreturned]
      exact fun x hx => List.mem_append_left _ (h.returned x hx)
    · rw [hmore]
      intro x hx hnumber
      rcases hmem x hx with hx | rfl
      · omega
      · rfl

/-- The request that the driver takes must name the prompt it has just written. -/
theorem Traced.receive {s : PamExchange} {c : PamCallback} {p : PamPromptEnvelope} (h : s.Traced)
    (hp : p.toPamEnvelopeIdentity = s.driver.identity c.style)
    (hfresh : ∀ x ∈ s.accepted, x.1.sequence = p.sequence → x.1 = p) :
    (s.receive c p).2.Traced := by
  unfold PamExchange.receive
  split
  · exact h
  · split
    · exact h
    · rename_i q channel hcons
      have hchannel := h.channel
      rw [hcons] at hchannel
      have hrest := fun r hr => hchannel r (List.mem_cons_of_mem _ hr)
      split
      · exact ⟨⟨h.counted.same, h.counted.written⟩, h.bounded, h.ordered, hrest, h.returned⟩
      · rename_i response hok
        refine ⟨⟨h.counted.same, h.counted.written⟩, h.bounded, h.ordered, hrest, fun x hx => ?_⟩
        rcases List.mem_append.mp hx with hx | hx
        · exact h.returned x hx
        · obtain ⟨hmatch, rfl⟩ := WorkerPamConversationDriver.receive_ok hok
          obtain ⟨p', hp', hsame⟩ := hchannel q List.mem_cons_self
          have hnumber : p'.sequence = p.sequence := by rw [← hsame, hmatch, ← hp]
          obtain rfl : p' = p := hfresh _ hp' hnumber
          rw [List.mem_singleton.mp hx]
          exact hp'

theorem Traced.step {s : PamExchange} (h : s.Traced) (c : PamCallback) : (s.step c).Traced := by
  have hrefailed : ∀ (t : PamExchange) (failed : Bool), t.Traced → { t with failed }.Traced :=
    fun t failed ht =>
      ⟨⟨ht.counted.same, ht.counted.written⟩, ht.bounded, ht.ordered, ht.channel, ht.returned⟩
  obtain ⟨failed, hstep⟩ := step_eq s c
  rw [respond_eq] at hstep
  cases hwrites : s.writes c with
  | none =>
    rw [hwrites] at hstep
    have hle : s.driver.sequence ≤ s.driver.advance.2.sequence := by
      rcases h.counted.advance with ⟨-, -, hsequence, -⟩ | ⟨-, hsame⟩
      · omega
      · rw [hsame]
    rw [hstep]
    exact hrefailed _ _ ⟨h.counted.advanced, fun x hx => (h.bounded x hx).trans hle, h.ordered,
      h.channel, h.returned⟩
  | some p =>
    rw [hwrites] at hstep
    obtain ⟨htraced, hfresh⟩ := h.forward hwrites
    obtain ⟨-, hidentity, -⟩ := nextPrompt_some (writes_some hwrites)
    have hp : p.toPamEnvelopeIdentity = (s.advanced.forward c p).driver.identity c.style := by
      rw [(forward_frame s.advanced c p).1]
      exact hidentity
    rw [hstep]
    exact hrefailed _ _ (htraced.receive hp hfresh)

/-- Worker and launcher as one login sets them up: the transaction is named after the worker, and
the conversation after the transaction. -/
def start (w : WorkerAttempt) (binding : LoginRequestBinding) (a : PamConversationAuthority) :
    PamExchange where
  driver := .new binding ("pam-" ++ w.workerId)
    { transactionId := w.workerId
      admissionAttemptId := w.attemptId
      lifecycleId := w.workerId
      seat := "seat0"
      seatGeneration := w.generation
      stage := "reserved" } w.workerId w.workerPid
  attempt := w
  authority := some a
  forwarding := true
  channel := []
  failed := false
  written := []
  accepted := []
  returned := []

theorem start_traced (w : WorkerAttempt) (binding : LoginRequestBinding)
    (a : PamConversationAuthority) : (start w binding a).Traced :=
  ⟨⟨rfl, Nat.le_refl _⟩, nofun, List.Pairwise.nil, nofun, nofun⟩

section Start
variable {w : WorkerAttempt} {binding : LoginRequestBinding} {deadline : Nat}
  {a : PamConversationAuthority}

theorem start_inStep (hissue : PamConversationAuthority.issue w.workerId w.attemptId w.workerId
      "seat0" w.generation binding.connectionId binding.connectionEpoch binding.requestId w.workerId
      ("pam-" ++ w.workerId) deadline = .ok a) (hseat : binding.seat = "seat0") :
    (start w binding a).InStep deadline := by
  have hfresh := PamConversationAuthority.issue_ok hissue
  unfold PamConversationAuthority.issue at hissue
  split at hissue
  · cases hissue
  · rename_i hvalid
    simp only [not_or] at hvalid
    refine ⟨⟨rfl, Nat.le_refl _⟩, rfl, rfl, a, rfl, ?_, ?_⟩
    · refine ⟨rfl, rfl, ?_, fun style => ?_, hvalid.2.2.2.2.2.2.2.1, hvalid.2.2.2.2.2.2.1, ?_,
        hvalid.1, hvalid.2.2.2.2.2.2.2.2.2⟩
      · simp [validTransaction, start, WorkerPamConversationDriver.new]
      · rw [hfresh]
        simp [PamConversationAuthority.binds, identity, start, WorkerPamConversationDriver.new, hseat]
      · show binding.seat ≠ ""
        rw [hseat]
        decide
    · rw [hfresh]
      exact ⟨rfl, rfl, rfl, rfl⟩

/-- Against a greeter that answers well, the prompts that reach the launcher are numbered and
accepted exactly if none of them comes after a callback that broke the step. Against any greeter,
an answer the driver returns is the one that the launcher accepted for the same prompt. -/
theorem prompts_inStep_iff (hissue : PamConversationAuthority.issue w.workerId w.attemptId w.workerId
      "seat0" w.generation binding.connectionId binding.connectionEpoch binding.requestId w.workerId
      ("pam-" ++ w.workerId) deadline = .ok a) (hseat : binding.seat = "seat0")
    (cs : List PamCallback) :
    ((∀ c ∈ cs, c.Correct deadline) →
      ((cs.foldl PamExchange.step (start w binding a)).Numbered ↔ InTurn (start w binding a) cs)) ∧
    ∀ x ∈ (cs.foldl PamExchange.step (start w binding a)).returned,
      x ∈ (cs.foldl PamExchange.step (start w binding a)).accepted ∧
      ∀ r, (x.1, r) ∈ (cs.foldl PamExchange.step (start w binding a)).accepted → r = x.2 := by
  refine ⟨fun hcs => ?_, fun x hx => ?_⟩
  · refine numbered_iff_inTurn (start_inStep hissue hseat) ?_ hcs
    intro k p taken hk
    simp [start] at hk
  · have htraced := foldl_invariant Traced (fun s c hs _ => hs.step c) cs _
      (start_traced w binding a) (stepsMeet_of_forall (fun _ _ => trivial) _ _)
    have hmem := htraced.returned x hx
    refine ⟨hmem, fun r hr => ?_⟩
    -- two accepted answers to one prompt would carry its number twice
    have hnodup : ((cs.foldl PamExchange.step (start w binding a)).accepted.map
        fun y => y.1.sequence).Nodup :=
      List.pairwise_map.mpr (htraced.ordered.imp fun h => Nat.ne_of_lt h)
    have hsame : (x.1, r) = x := List.inj_on_of_nodup_map hnodup hr hmem rfl
    exact congrArg Prod.snd hsame

end Start

theorem fromUTF8?_toByteArray (text : String) : String.fromUTF8? text.toByteArray = some text := by
  rw [String.fromUTF8?, dif_pos text.isValidUTF8]
  rfl

def emptyMessage : CStr := ⟨"".toByteArray, by decide⟩

def passwordMessage : CStr := ⟨"Password: ".toByteArray, by decide⟩

def politeAnswer (p : PamPromptEnvelope) : PamPromptResponse :=
  match p.style with
  | .promptEchoOff => .secret "secret"
  | .promptEchoOn => .text "user"
  | .informational | .error => .none

def politeGreeter (p : PamPromptEnvelope) : Except SessionError PamPromptResponseEnvelope :=
  .ok { toPamEnvelopeIdentity := p.toPamEnvelopeIdentity
        protocolVersion := greeterProtocolVersion
        messageType := "pam_prompt_response"
        payloadLen := (politeAnswer p).encodedLen
        response := politeAnswer p }

def politely (style : PamMessageStyle) (message : CStr) : PamCallback where
  style := style
  message := message
  stdout := true
  greeter := politeGreeter
  promptedAt := 0
  answeredAt := 1
  sent := true
  received := true

theorem politely_correct (style : PamMessageStyle) (message : CStr) :
    (politely style message).Correct 10 := by
  refine ⟨fun p hp => ⟨_, rfl, rfl, ?_⟩, (by decide : 0 < 10), (by decide : 1 < 10)⟩
  have hwell : p.wellFormed greeterProtocolVersion "pam_prompt_response" "pam_prompt_response" =
      true := by
    have hprompt : p.wellFormed p.protocolVersion p.messageType "pam_prompt" = true := by
      unfold PamPromptEnvelope.validateShape at hp
      by_contra hn
      rw [Bool.not_eq_true] at hn
      simp [hn] at hp
    simp [PamEnvelopeIdentity.wellFormed] at hprompt ⊢
    simp [hprompt]
  unfold PamPromptResponseEnvelope.validateShape
  dsimp only
  rw [hwell]
  cases hstyle : p.style <;> simp only [politeAnswer, hstyle] <;> decide

def sampleAttempt : WorkerAttempt where
  workerId := "worker-0"
  workerPid := 4711
  generation := 1
  attemptId := 1

def sampleBinding : LoginRequestBinding where
  connectionId := "g1-c1"
  connectionEpoch := 1
  requestId := 1
  seat := "seat0"

theorem sampleAuthority_issued : PamConversationAuthority.issue sampleAttempt.workerId
    sampleAttempt.attemptId sampleAttempt.workerId "seat0" sampleAttempt.generation
    sampleBinding.connectionId sampleBinding.connectionEpoch sampleBinding.requestId
    sampleAttempt.workerId ("pam-" ++ sampleAttempt.workerId) 10 = .ok sampleAuthority := by decide

/-- The driver's prompt for the password, with its counters at `n`. -/
def passwordPrompt (n : Nat) : PamPromptEnvelope :=
  { samplePrompt with promptId := n, sequence := n }

def sampleStart : PamExchange := start sampleAttempt sampleBinding sampleAuthority

theorem nextPrompt_password {n : Nat} (hn : n < 9) :
    nextPrompt { sampleStart.driver with promptId := n, sequence := n } .promptEchoOff
      passwordMessage = (some (passwordPrompt (n + 1)),
        { sampleStart.driver with promptId := n + 1, sequence := n + 1 }) := by
  have hbound : n + 1 < u64Bound := by
    unfold u64Bound
    omega
  have hutf : String.fromUTF8? passwordMessage.bytes = some "Password: " :=
    fromUTF8?_toByteArray "Password: "
  have hlength : "Password: ".utf8ByteSize = 10 := rfl
  simp only [nextPrompt, WorkerPamConversationDriver.advance, checkedAdd, hbound, if_true,
    Bool.not_true, Bool.false_eq_true, if_false, hutf, hlength]
  rw [if_neg (by decide)]
  rfl

theorem size_password {n : Nat} (hn : n < 9) : JsonText.size (envelope
      { sampleStart.driver with promptId := n + 1, sequence := n + 1 }
      (passwordPrompt (n + 1))).json < maxWorkerMessageBytes := by
  have hnumber : JsonText.number (n + 1) ≤ 1 := JsonText.number_le (by decide) (by omega)
  have hlimit : maxWorkerMessageBytes = 65536 := rfl
  have hprompt : JsonText.size (passwordPrompt (n + 1)).json ≤ 400 := by
    have hfixed : 193 + JsonText.text "g1-c1" + JsonText.number 1 + JsonText.text "seat0" +
        JsonText.number 1 + JsonText.text "worker-0" + JsonText.text "pam-worker-0" +
        JsonText.text "prompt_echo_off" + JsonText.number 2 + JsonText.text "pam_prompt" +
        JsonText.number 10 + JsonText.text "Password: " ≤ 390 := by decide
    have hsize := PamPromptEnvelope.size_json (passwordPrompt (n + 1))
    simp only [PamEnvelopeIdentity.textBytes, passwordPrompt, samplePrompt, sampleIdentity,
      PamMessageStyle.name] at hsize
    simp only [passwordPrompt, samplePrompt, sampleIdentity]
    omega
  have hfixed : 196 + JsonText.text sampleStart.driver.workerId +
      JsonText.number sampleStart.driver.workerPid + sampleStart.driver.transaction.textBytes +
      JsonText.text sampleStart.driver.transaction.stage ≤ 400 := by decide
  rw [WorkerPamPrompt.size_json, hlimit]
  simp only [envelope] at hfixed ⊢
  omega

theorem writes_password {s : PamExchange} {n : Nat} (hn : n < 9)
    (hs : s.driver = { sampleStart.driver with promptId := n, sequence := n }) :
    s.writes (politely .promptEchoOff passwordMessage) = some (passwordPrompt (n + 1)) := by
  refine writes_of_nextPrompt rfl ?_ (size_password hn)
  rw [hs]
  exact nextPrompt_password hn

/-- An empty message is refused, but only after it has been counted. -/
theorem writes_empty (style : PamMessageStyle) :
    sampleStart.writes (politely style emptyMessage) = none := by
  have hprompt : (sampleStart.driver.nextPrompt style emptyMessage).1 = none := by
    have hempty : String.fromUTF8? emptyMessage.bytes = some "" := fromUTF8?_toByteArray ""
    unfold nextPrompt
    rw [hempty]
    dsimp only
    split
    · rfl
    · rw [if_pos (Or.inl rfl)]
  unfold writes
  rw [show sampleStart.driver.nextPrompt (politely style emptyMessage).style
    (politely style emptyMessage).message = sampleStart.driver.nextPrompt style emptyMessage from rfl,
    hprompt]

/-- An empty information message and then the prompt for the password. -/
def refusedFirst : List PamCallback :=
  [politely .informational emptyMessage, politely .promptEchoOff passwordMessage]

theorem refusedFirst_correct : ∀ c ∈ refusedFirst, c.Correct 10 := by
  intro c hc
  simp only [refusedFirst, List.mem_cons, List.not_mem_nil, or_false] at hc
  rcases hc with rfl | rfl <;> exact politely_correct _ _

/-- The prompt for the password carries the number two and is refused, although the greeter
answers it well. -/
theorem refusedInformation_shifts : (∀ c ∈ refusedFirst, c.Correct 10) ∧
    ¬(refusedFirst.foldl PamExchange.step sampleStart).Numbered := by
  refine ⟨refusedFirst_correct, ?_⟩
  have hempty : sampleStart.Numbered := by
    intro k p taken hk
    simp [sampleStart, start] at hk
  have hstart : sampleStart.InStep 10 := start_inStep sampleAuthority_issued rfl
  rw [numbered_iff_inTurn hstart hempty refusedFirst_correct]
  intro hturn
  have hbreaks : sampleStart.breaks (politely .informational emptyMessage) := by
    intro p hp
    rw [writes_empty] at hp
    cases hp
  have hnone : (sampleStart.step (politely .informational emptyMessage)).writes
      (politely .promptEchoOff passwordMessage) = none := (hturn.1 hbreaks).1
  obtain ⟨failed, hstep⟩ := step_of_writes_none (writes_empty .informational)
  rw [writes_password (n := 1) (by decide) (by rw [hstep]; rfl)] at hnone
  cases hnone

/-- Two prompts in a row, and an empty message after them, are numbered one and two. -/
theorem passwordTwice_numbered : (∀ c ∈ [politely .promptEchoOff passwordMessage,
      politely .promptEchoOff passwordMessage], c.Correct 10) ∧
    ([politely .promptEchoOff passwordMessage, politely .promptEchoOff passwordMessage].foldl
      PamExchange.step sampleStart).Numbered := by
  have hcorrect : ∀ c ∈ [politely .promptEchoOff passwordMessage,
      politely .promptEchoOff passwordMessage], c.Correct 10 := by
    intro c hc
    simp only [List.mem_cons, List.not_mem_nil, or_false, or_self] at hc
    rw [hc]
    exact politely_correct _ _
  refine ⟨hcorrect, ((prompts_inStep_iff sampleAuthority_issued rfl _).1 hcorrect).mpr ?_⟩
  refine ⟨fun hbreaks => ?_, fun _ => trivial, trivial⟩
  -- the first prompt is answered, so nothing was broken
  have hlost := hbreaks (passwordPrompt 1) (writes_password (by decide) rfl) _ rfl
  rw [sendControlRequest_of_size] at hlost
  · cases hlost
  · rw [PamPromptResponseRequest.size_json]
    decide

end PamExchange

end Niralis
