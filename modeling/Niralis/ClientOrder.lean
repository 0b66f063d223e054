import Niralis.ClientProtocol

namespace Niralis

namespace GreeterEvent

def frame : GreeterEvent → Option FrameRead
  | .handshake f => some f
  | .request f _ => some f
  | .prompt f => some f
  | .response _ => none

def handed : GreeterEvent → Option GreeterRequestEnvelope
  | .request _ e => e
  | _ => none

/-- The bytes of the first come before those of the second. -/
def Before (a b : GreeterEvent) : Prop :=
  ∀ f ∈ a.frame, ∀ g ∈ b.frame, f.stop ≤ g.start

end GreeterEvent

/-- The frame is this part of the stream; one that was read ends in a line feed. -/
def FrameRead.Of (stream : List UInt8) (f : FrameRead) : Prop :=
  f.start ≤ f.stop ∧
    ∀ bytes, f.result = .ok bytes → stream.drop f.start = bytes ++ 10 :: stream.drop f.stop

/-- The events of a handshake and of answered requests. -/
inductive Answered (epoch : Nat) : List GreeterEvent → Prop
  | greeted (frame : FrameRead) : Answered epoch [.handshake frame]
  | answered {log : List GreeterEvent} (frame : FrameRead) (e : GreeterRequestEnvelope)
      (prompts : List FrameRead) (r : GreeterResponseEnvelope) (hlog : Answered epoch log)
      (hid : r.requestId = e.requestId) (hepoch : r.connectionEpoch = epoch) :
    Answered epoch (log ++ .request frame (some e) :: (prompts.map .prompt ++ [.response r]))

def Unanswered (epoch : Nat) (e : GreeterRequestEnvelope) (log : List GreeterEvent) : Prop :=
  ∃ done frame, ∃ prompts : List FrameRead, Answered epoch done ∧
    log = done ++ .request frame (some e) :: prompts.map .prompt

namespace GreeterClient

/-- How far the events have come in each phase. A request is left without a response only where a
write has failed. -/
def Phased (failed : Prop) (s : GreeterClient) : Prop :=
  match s.phase with
  | .handshake => s.log = []
  | .reading => Answered s.authority.connectionEpoch s.log
  | .serving e _ => Unanswered s.authority.connectionEpoch e s.log
  | .closed _ => (∃ frame, s.log = [.handshake frame]) ∨
      (∃ done frame, Answered s.authority.connectionEpoch done ∧
        s.log = done ++ [.request frame none]) ∨
      failed ∧ ∃ e, Unanswered s.authority.connectionEpoch e s.log

structure Located (stream : List UInt8) (s : GreeterClient) : Prop where
  input : s.input = stream.drop s.position
  frames : ∀ event ∈ s.log, ∀ f ∈ event.frame, f.Of stream ∧ f.stop ≤ s.position
  ordered : s.log.Pairwise GreeterEvent.Before

/-- What was handed on passed every check, against what had been handed on before. -/
structure Checked (decoders : Decoders) (s : GreeterClient) : Prop where
  decoded : ∀ f e, .request f (some e) ∈ s.log → ∃ bytes, f.result = .ok bytes ∧
    decoders.request bytes = some e ∧ e.validateShape = .ok ()
  authority : ∀ e ∈ s.log.filterMap GreeterEvent.handed,
    e.connectionId = s.authority.connectionId ∧
      e.connectionEpoch = s.authority.connectionEpoch ∧ e.seat = s.authority.seat
  rising : (s.log.filterMap GreeterEvent.handed).Pairwise fun a b =>
    a.sequence < b.sequence ∧ a.requestId ≠ b.requestId
  last : ∀ e ∈ s.log.filterMap GreeterEvent.handed, e.sequence ≤ s.last
  ids : ∀ e ∈ s.log.filterMap GreeterEvent.handed, e.requestId ∈ s.requestIds

variable {decoders : Decoders} {s t : GreeterClient} {x : ClientAnswer}

@[simp] theorem record_log (s : GreeterClient) (event : GreeterEvent) :
    (s.record event).log = s.log ++ [event] := rfl

@[simp] theorem readFrame_log (s : GreeterClient) (x : ClientAnswer) :
    (s.readFrame x).2.log = s.log := rfl

theorem moved_authority (h : Moved decoders x s t) : t.authority = s.authority := by
  cases h <;> rfl

theorem responseEnvelope_ids (e : GreeterResponseEnvelope) :
    (responseEnvelope e).requestId = e.requestId ∧
      (responseEnvelope e).connectionEpoch = e.connectionEpoch := by
  unfold responseEnvelope
  split <;> exact ⟨rfl, rfl⟩

theorem unanswered_prompt {epoch : Nat} {e : GreeterRequestEnvelope} {log : List GreeterEvent}
    (h : Unanswered epoch e log) (frame : FrameRead) :
    Unanswered epoch e (log ++ [.prompt frame]) := by
  obtain ⟨done, first, prompts, hdone, rfl⟩ := h
  exact ⟨done, first, prompts ++ [frame], hdone, by simp⟩

theorem unanswered_response {epoch : Nat} {e : GreeterRequestEnvelope} {log : List GreeterEvent}
    (h : Unanswered epoch e log) (result : NiralisResponse) :
    Answered epoch (log ++ [.response (responseEnvelope
      { requestId := e.requestId, connectionEpoch := epoch, result })]) := by
  obtain ⟨done, first, prompts, hdone, rfl⟩ := h
  have hids := responseEnvelope_ids { requestId := e.requestId, connectionEpoch := epoch, result }
  have := Answered.answered first e prompts _ hdone hids.1 hids.2
  simpa using this

theorem moved_phased {failed : Prop} (h : Moved decoders x s t)
    (hfailed : x.writes = false → failed) (hs : Phased failed s) : Phased failed t := by
  cases h with
  | greeted phase hphase hnext =>
    rw [Phased, hphase] at hs
    have hlog : ((s.readFrame x).2.record (.handshake (s.readFrame x).1)).log =
        [.handshake (s.readFrame x).1] := by
      rw [record_log, readFrame_log, hs, List.nil_append]
    rcases hnext with ⟨rfl, -⟩ | ⟨r, rfl⟩
    · show Answered _ ((s.readFrame x).2.record _).log
      rw [hlog]
      exact .greeted _
    · exact Or.inl ⟨_, hlog⟩
  | rejected r hphase =>
    rw [Phased, hphase] at hs
    exact Or.inr (Or.inl ⟨s.log, _, hs, rfl⟩)
  | handed bytes e hphase hframe haccept =>
    rw [Phased, hphase] at hs
    exact ⟨s.log, _, [], hs, rfl⟩
  | replied e result hphase hwrites =>
    rw [Phased, hphase] at hs
    exact unanswered_response hs result
  | dropped e result hphase hwrites =>
    rw [Phased, hphase] at hs
    exact Or.inr (Or.inr ⟨hfailed hwrites, e, hs⟩)
  | unprompted e prompt next result hphase =>
    rw [Phased, hphase] at hs
    exact hs
  | prompted e prompt next result hphase hsize hwrites =>
    rw [Phased, hphase] at hs
    exact unanswered_prompt hs _
  | ended r hphase => exact hs

/-- The frame that is read next, and what is left of the stream after it. -/
theorem readFrame_of {stream : List UInt8} (hs : s.input = stream.drop s.position)
    (x : ClientAnswer) : (s.readFrame x).1.Of stream ∧
      (s.readFrame x).2.input = stream.drop (s.readFrame x).1.stop := by
  have hrest : (s.readFrame x).2.input = stream.drop (s.readFrame x).1.stop := by
    have hsuffix : (s.readFrame x).2.input <:+ s.input := Framing.readLine_suffix
    have hdrop := List.suffix_iff_eq_drop.mp hsuffix
    rw [hdrop, hs, List.drop_drop, ← hs]
    rfl
  refine ⟨⟨Nat.le_add_right _ _, fun bytes hbytes => ?_⟩, hrest⟩
  rw [← hrest]
  show stream.drop s.position = _
  rw [← hs]
  cases hline : Framing.readLine maxGreeterFrameBytes x.readFails s.input with
  | mk result rest =>
    have hresult : result = .ok bytes := by
      simp only [readFrame, hline] at hbytes
      cases result with
      | error e => cases hbytes
      | ok line =>
        cases hbytes
        rfl
    subst hresult
    have hinput : (s.readFrame x).2.input = rest := by simp only [readFrame, hline]
    rw [hinput]
    exact Framing.readLine_ok hline

theorem located_read {stream : List UInt8} (hs : Located stream s) (x : ClientAnswer)
    (event : GreeterEvent) (hevent : event.frame = some (s.readFrame x).1) :
    Located stream ((s.readFrame x).2.record event) := by
  have hread := readFrame_of hs.input x
  have hstop : (s.readFrame x).2.position = (s.readFrame x).1.stop := rfl
  have hle : s.position ≤ (s.readFrame x).1.stop := hread.1.1
  refine ⟨hread.2, ?_, ?_⟩
  · intro old hold f hf
    show f.Of stream ∧ f.stop ≤ (s.readFrame x).2.position
    rw [hstop]
    rw [record_log, readFrame_log] at hold
    rcases List.mem_append.mp hold with hold | hold
    · have hfind := hs.frames old hold f hf
      exact ⟨hfind.1, Nat.le_trans hfind.2 hle⟩
    · rw [List.mem_singleton] at hold
      subst hold
      rw [hevent, Option.mem_some_iff] at hf
      subst hf
      exact ⟨hread.1, Nat.le_refl _⟩
  · rw [record_log, readFrame_log, List.pairwise_append]
    refine ⟨hs.ordered, List.pairwise_singleton _ _, fun old hold new hnew f hf g hg => ?_⟩
    rw [List.mem_singleton] at hnew
    subst hnew
    rw [hevent, Option.mem_some_iff] at hg
    subst hg
    exact (hs.frames old hold f hf).2

theorem moved_located {stream : List UInt8} (h : Moved decoders x s t) (hs : Located stream s) :
    Located stream t := by
  cases h with
  | greeted phase hphase hnext =>
    have hread := located_read hs x (.handshake (s.readFrame x).1) rfl
    exact ⟨hread.input, hread.frames, hread.ordered⟩
  | rejected r hphase =>
    have hread := located_read hs x (.request (s.readFrame x).1 none) rfl
    exact ⟨hread.input, hread.frames, hread.ordered⟩
  | handed bytes e hphase hframe haccept =>
    have hread := located_read hs x (.request (s.readFrame x).1 (some e)) rfl
    exact ⟨hread.input, hread.frames, hread.ordered⟩
  | replied e result hphase hwrites =>
    refine ⟨hs.input, fun old hold f hf => ?_, ?_⟩
    · rcases List.mem_append.mp hold with hold | hold
      · exact hs.frames old hold f hf
      · rw [List.mem_singleton] at hold
        subst hold
        cases hf
    · refine List.pairwise_append.mpr ⟨hs.ordered, List.pairwise_singleton _ _, ?_⟩
      intro old hold new hnew f hf g hg
      rw [List.mem_singleton] at hnew
      subst hnew
      cases hg
  | dropped e result hphase hwrites => exact ⟨hs.input, hs.frames, hs.ordered⟩
  | unprompted e prompt next result hphase => exact ⟨hs.input, hs.frames, hs.ordered⟩
  | prompted e prompt next result hphase hsize hwrites =>
    have hread := located_read hs x (.prompt (s.readFrame x).1) rfl
    exact ⟨hread.input, hread.frames, hread.ordered⟩
  | ended r hphase => exact hs

theorem acceptRequest_ok {a : GreeterConnectionAuthority} {last : Nat} {ids : List Nat}
    {frame : List UInt8} {e : GreeterRequestEnvelope}
    (h : acceptRequest decoders a last ids frame = .ok e) :
    decoders.request frame = some e ∧ e.validateShape = .ok () ∧
      (e.connectionId = a.connectionId ∧ e.connectionEpoch = a.connectionEpoch ∧
        e.seat = a.seat) ∧ last < e.sequence ∧ e.requestId ∉ ids := by
  unfold acceptRequest at h
  split at h
  · cases h
  rename_i envelope hdecode
  split_ifs at h with hshape hmatch hid <;> split at h <;> cases h
  rename_i hsequence
  have hlast : last < e.sequence := by
    unfold acceptSequence at hsequence
    split_ifs at hsequence with hbad
    omega
  have hauthority := hmatch
  simp only [GreeterConnectionAuthority.matchesEnvelope, Bool.not_eq_true, Bool.not_eq_false',
    Bool.and_eq_true, decide_eq_true_eq] at hauthority
  exact ⟨hdecode, Decidable.not_not.mp hshape,
    ⟨hauthority.1.1.symm, hauthority.1.2.symm, hauthority.2.symm⟩, hlast, by simpa using hid⟩

/-- An event that hands on nothing changes nothing of what was checked. -/
theorem checked_of_log (hs : Checked decoders s) (event : GreeterEvent) (hevent : event.handed = none)
    (hlog : t.log = s.log ++ [event]) (hauthority : t.authority = s.authority)
    (hlast : t.last = s.last) (hids : t.requestIds = s.requestIds) : Checked decoders t := by
  have hhanded : t.log.filterMap GreeterEvent.handed = s.log.filterMap GreeterEvent.handed := by
    simp [hlog, List.filterMap_append, hevent]
  refine ⟨fun f e hmem => ?_, ?_, ?_, ?_, ?_⟩
  · rw [hlog] at hmem
    rcases List.mem_append.mp hmem with hmem | hmem
    · exact hs.decoded f e hmem
    · rw [List.mem_singleton] at hmem
      rw [← hmem] at hevent
      cases hevent
  · rw [hhanded, hauthority]
    exact hs.authority
  · rw [hhanded]
    exact hs.rising
  · rw [hhanded, hlast]
    exact hs.last
  · rw [hhanded, hids]
    exact hs.ids

theorem checked_handed (hs : Checked decoders s) {f : FrameRead} {bytes : List UInt8}
    {e : GreeterRequestEnvelope} (hframe : f.result = .ok bytes)
    (haccept : acceptRequest decoders s.authority s.last s.requestIds bytes = .ok e)
    (hlog : t.log = s.log ++ [.request f (some e)]) (hauthority : t.authority = s.authority)
    (hlast : t.last = e.sequence) (hids : t.requestIds = e.requestId :: s.requestIds) :
    Checked decoders t := by
  obtain ⟨hdecode, hshape, hmatch, hsequence, hid⟩ := acceptRequest_ok haccept
  have hhanded : t.log.filterMap GreeterEvent.handed =
      s.log.filterMap GreeterEvent.handed ++ [e] := by
    simp [hlog, List.filterMap_append, GreeterEvent.handed]
  -- what was handed before stays, so each part is about the new request
  refine ⟨fun g d hmem => ?_, fun d hd => ?_, ?_, fun d hd => ?_, fun d hd => ?_⟩
  · rw [hlog] at hmem
    rcases List.mem_append.mp hmem with hmem | hmem
    · exact hs.decoded g d hmem
    · rw [List.mem_singleton] at hmem
      cases hmem
      exact ⟨bytes, hframe, hdecode, hshape⟩
  · rw [hauthority]
    rw [hhanded] at hd
    rcases List.mem_append.mp hd with hd | hd
    · exact hs.authority d hd
    · rw [List.mem_singleton] at hd
      subst hd
      exact hmatch
  · rw [hhanded, List.pairwise_append]
    refine ⟨hs.rising, List.pairwise_singleton _ _, fun a ha b hb => ?_⟩
    rw [List.mem_singleton] at hb
    subst hb
    have hbelow := hs.last a ha
    have hknown := hs.ids a ha
    exact ⟨by omega, fun h => hid (h ▸ hknown)⟩
  · rw [hlast]
    rw [hhanded] at hd
    rcases List.mem_append.mp hd with hd | hd
    · have hbelow := hs.last d hd
      omega
    · rw [List.mem_singleton] at hd
      exact hd ▸ Nat.le_refl _
  · rw [hids]
    rw [hhanded] at hd
    rcases List.mem_append.mp hd with hd | hd
    · exact List.mem_cons_of_mem _ (hs.ids d hd)
    · rw [List.mem_singleton] at hd
      rw [hd]
      exact List.mem_cons_self

theorem moved_checked (h : Moved decoders x s t) (hs : Checked decoders s) :
    Checked decoders t := by
  cases h with
  | greeted phase hphase hnext =>
    exact checked_of_log hs (.handshake (s.readFrame x).1) rfl rfl rfl rfl rfl
  | rejected r hphase =>
    exact checked_of_log hs (.request (s.readFrame x).1 none) rfl rfl rfl rfl rfl
  | handed bytes e hphase hframe haccept =>
    exact checked_handed hs hframe haccept rfl rfl rfl rfl
  | replied e result hphase hwrites =>
    exact checked_of_log hs (.response _) rfl rfl rfl rfl rfl
  | dropped e result hphase hwrites =>
    exact ⟨hs.decoded, hs.authority, hs.rising, hs.last, hs.ids⟩
  | unprompted e prompt next result hphase =>
    exact ⟨hs.decoded, hs.authority, hs.rising, hs.last, hs.ids⟩
  | prompted e prompt next result hphase hsize hwrites =>
    exact checked_of_log hs (.prompt (s.readFrame x).1) rfl rfl rfl rfl rfl
  | ended r hphase => exact hs

theorem new_phased (failed : Prop) (authority : GreeterConnectionAuthority)
    (stream : List UInt8) : Phased failed (new authority stream) := rfl

theorem new_located (authority : GreeterConnectionAuthority) (stream : List UInt8) :
    Located stream (new authority stream) :=
  ⟨rfl, fun _ h => absurd h List.not_mem_nil, List.Pairwise.nil⟩

theorem new_checked (authority : GreeterConnectionAuthority) (stream : List UInt8) :
    Checked decoders (new authority stream) :=
  ⟨fun _ _ h => absurd h List.not_mem_nil, fun _ h => absurd h List.not_mem_nil,
    List.Pairwise.nil, fun _ h => absurd h List.not_mem_nil, fun _ h => absurd h List.not_mem_nil⟩

section Run
variable (decoders) (authority : GreeterConnectionAuthority) (stream : List UInt8)
  (answers : List ClientAnswer)

def run : GreeterClient := answers.foldl (step decoders) (new authority stream)

variable {decoders authority stream answers}

theorem run_invariant (inv : GreeterClient → Prop) (ok : ClientAnswer → Prop)
    (hnew : inv (new authority stream)) (hok : ∀ x ∈ answers, ok x)
    (hstep : ∀ s t x, Moved decoders x s t → ok x → inv s → inv t) :
    inv (run decoders authority stream answers) := by
  have hmeets : StepsMeet (step decoders) (fun _ x => ok x) (new authority stream) answers :=
    stepsMeet_of_getElem fun n x hx => hok x (List.mem_of_getElem? hx)
  exact foldl_invariant inv (fun s x hs hx => hstep s _ x (step_moved s x) hx hs) answers _ hnew
    hmeets

theorem run_authority : (run decoders authority stream answers).authority = authority :=
  run_invariant (fun s => s.authority = authority) (fun _ => True) rfl (fun _ _ => trivial)
    fun _ _ _ h _ hs => (moved_authority h).trans hs

theorem run_phased : (run decoders authority stream answers).Phased
    (∃ x ∈ answers, x.writes = false) :=
  run_invariant _ (fun x => x ∈ answers) (new_phased _ _ _) (fun _ hx => hx)
    fun _ _ x h hx hs => moved_phased h (fun hwrites => ⟨x, hx, hwrites⟩) hs

/-- While the loop waits for a frame, every request that was handed on is answered. -/
theorem run_answered (hphase : (run decoders authority stream answers).phase = .reading) :
    Answered authority.connectionEpoch (run decoders authority stream answers).log := by
  have hphased : (run decoders authority stream answers).Phased (∃ x ∈ answers, x.writes = false) :=
    run_phased
  rw [Phased, hphase, run_authority] at hphased
  exact hphased

theorem run_located : (run decoders authority stream answers).Located stream :=
  run_invariant _ (fun _ => True) (new_located _ _) (fun _ _ => trivial)
    fun _ _ _ h _ hs => moved_located h hs

theorem run_checked : (run decoders authority stream answers).Checked decoders :=
  run_invariant _ (fun _ => True) (new_checked _ _) (fun _ _ => trivial)
    fun _ _ _ h _ hs => moved_checked h hs

end Run

theorem answered_handed {epoch : Nat} {log : List GreeterEvent} (h : Answered epoch log)
    (f : FrameRead) : GreeterEvent.request f none ∉ log := by
  induction h with
  | greeted frame => simp
  | answered frame e prompts r hlog hid hepoch ih => simp [ih]

theorem unanswered_handed {epoch : Nat} {e : GreeterRequestEnvelope} {log : List GreeterEvent}
    (h : Unanswered epoch e log) (f : FrameRead) : GreeterEvent.request f none ∉ log := by
  obtain ⟨done, frame, prompts, hdone, rfl⟩ := h
  have := answered_handed hdone f
  simp [this]

/-- A frame that the request loop turned away is the last of its connection. -/
theorem phased_rejected {failed : Prop} (hs : Phased failed s) {f : FrameRead}
    (hmem : GreeterEvent.request f none ∈ s.log) :
    (∃ r, s.phase = .closed r) ∧ s.log.getLast? = some (.request f none) := by
  unfold Phased at hs
  split at hs
  · rw [hs] at hmem
    cases hmem
  · exact absurd hmem (answered_handed hs f)
  · exact absurd hmem (unanswered_handed hs f)
  · rename_i r hphase
    refine ⟨⟨r, hphase⟩, ?_⟩
    rcases hs with ⟨frame, hlog⟩ | ⟨done, frame, hdone, hlog⟩ | ⟨_, e, hlog⟩
    · simp [hlog] at hmem
    · rw [hlog] at hmem ⊢
      rcases List.mem_append.mp hmem with hmem | hmem
      · exact absurd hmem (answered_handed hdone f)
      · rw [List.mem_singleton] at hmem
        rw [hmem]
        simp
    · exact absurd hmem (unanswered_handed hlog f)

/-- Two frames that were read at different times do not share bytes. -/
theorem located_apart {stream : List UInt8} (hs : Located stream s) {a b : GreeterEvent}
    {f g : FrameRead} (ha : a ∈ s.log) (hb : b ∈ s.log) (hne : a ≠ b) (hf : f ∈ a.frame)
    (hg : g ∈ b.frame) : f.stop ≤ g.start ∨ g.stop ≤ f.start := by
  obtain ⟨i, hi, rfl⟩ := List.mem_iff_getElem.mp ha
  obtain ⟨j, hj, rfl⟩ := List.mem_iff_getElem.mp hb
  have hordered := List.pairwise_iff_getElem.mp hs.ordered
  rcases Nat.lt_trichotomy i j with hij | rfl | hij
  · exact Or.inl (hordered i j hi hj hij f hf g hg)
  · exact absurd rfl hne
  · exact Or.inr (hordered j i hj hi hij g hg f hf)

theorem moved_respond {e : GreeterRequestEnvelope} {result : NiralisResponse}
    (h : Moved decoders x s t) (hphase : s.phase = .serving e (.respond result))
    (hwrites : x.writes = true) : t.phase = .reading ∧
      t.log = s.log ++ [.response (responseEnvelope
        { requestId := e.requestId, connectionEpoch := s.authority.connectionEpoch, result })] := by
  cases h with
  | replied d found hfound hw =>
    rw [hfound] at hphase
    cases hphase
    exact ⟨rfl, rfl⟩
  | dropped d found hfound hw =>
    rw [hwrites] at hw
    cases hw
  | greeted phase hother hnext => cases hother.symm.trans hphase
  | rejected r hother => cases hother.symm.trans hphase
  | handed bytes d hother hframe haccept => cases hother.symm.trans hphase
  | unprompted d prompt next found hother => cases hother.symm.trans hphase
  | prompted d prompt next found hother hsize hw => cases hother.symm.trans hphase
  | ended r hother => cases hother.symm.trans hphase

/-- A round trip logs the frame that it reads, if it comes to reading one. -/
theorem moved_roundTrip {e : GreeterRequestEnvelope} {prompt : PamPromptEnvelope}
    {next : Except SessionError PamPromptResponseEnvelope → Serving} (h : Moved decoders x s t)
    (hphase : s.phase = .serving e (.roundTrip prompt next)) :
    ∃ result, ∃ prompts : List FrameRead, t.phase = .serving e (next result) ∧
      t.log = s.log ++ prompts.map .prompt := by
  cases h with
  | unprompted d sent rest result hfound =>
    cases hfound.symm.trans hphase
    exact ⟨result, [], rfl, (List.append_nil _).symm⟩
  | prompted d sent rest result hfound hsize hw =>
    cases hfound.symm.trans hphase
    exact ⟨result, [(s.readFrame x).1], rfl, rfl⟩
  | replied d found hother hw => cases hother.symm.trans hphase
  | dropped d found hother hw => cases hother.symm.trans hphase
  | greeted phase hother hnext => cases hother.symm.trans hphase
  | rejected r hother => cases hother.symm.trans hphase
  | handed bytes d hother hframe haccept => cases hother.symm.trans hphase
  | ended r hother => cases hother.symm.trans hphase

/-- While writes succeed, a request that the handler has is answered after finitely many steps. -/
theorem serving_answered {e : GreeterRequestEnvelope} {rest : Serving}
    (hphase : s.phase = .serving e rest) (later : Nat → ClientAnswer)
    (hwrites : ∀ n, (later n).writes = true) :
    ∃ n result, ∃ prompts : List FrameRead,
      (((List.range n).map later).foldl (step decoders) s).phase = .reading ∧
      (((List.range n).map later).foldl (step decoders) s).log = s.log ++ (prompts.map .prompt ++
        [.response (responseEnvelope { requestId := e.requestId
                                       connectionEpoch := s.authority.connectionEpoch
                                       result })]) := by
  induction rest generalizing s later with
  | respond result =>
    obtain ⟨hdone, hlog⟩ :=
      moved_respond (step_moved s (later 0)) hphase (hwrites 0)
    have hrun : ((List.range 1).map later).foldl (step decoders) s = s.step decoders (later 0) := by
      rw [List.range_one, List.map_singleton, List.foldl_cons, List.foldl_nil]
    refine ⟨1, result, [], ?_⟩
    rw [hrun, hlog, List.map_nil, List.nil_append]
    exact ⟨hdone, rfl⟩
  | roundTrip prompt next ih =>
    obtain ⟨answer, prompts, hnext, hlog⟩ :=
      moved_roundTrip (step_moved s (later 0)) hphase
    obtain ⟨n, result, others, hdone, hend⟩ :=
      ih answer hnext (fun n => later (n + 1)) fun n => hwrites (n + 1)
    have hauthority : (s.step decoders (later 0)).authority = s.authority :=
      moved_authority (step_moved s (later 0))
    have hrun : ((List.range (n + 1)).map later).foldl (step decoders) s =
        ((List.range n).map fun n => later (n + 1)).foldl (step decoders)
          (s.step decoders (later 0)) := by
      rw [List.range_succ_eq_map, List.map_cons, List.map_map, List.foldl_cons]
      rfl
    refine ⟨n + 1, result, prompts ++ others, ?_⟩
    rw [hrun]
    refine ⟨hdone, ?_⟩
    rw [hend, hlog, hauthority]
    simp

/-- The requests that reach the handler rise in sequence, have ids of their own and belong to the
connection; each is answered once before the loop reads on; no byte that a round trip took is part
of one; and nothing is handed on after the first frame that the loop turned away. -/
theorem handed_requests_orderly (decoders : Decoders) (authority : GreeterConnectionAuthority)
    (stream : List UInt8) (answers : List ClientAnswer) :
    let s := run decoders authority stream answers
    (s.log.filterMap GreeterEvent.handed).Pairwise
        (fun a b => a.sequence < b.sequence ∧ a.requestId ≠ b.requestId) ∧
      (∀ f e, .request f (some e) ∈ s.log →
        e.connectionId = authority.connectionId ∧
        e.connectionEpoch = authority.connectionEpoch ∧ e.seat = authority.seat ∧
        ∃ bytes, f.result = .ok bytes ∧
          stream.drop f.start = bytes ++ 10 :: stream.drop f.stop ∧
          decoders.request bytes = some e ∧ e.validateShape = .ok ()) ∧
      s.authority = authority ∧ s.Phased (∃ x ∈ answers, x.writes = false) ∧
      (∀ e rest, s.phase = .serving e rest → ∀ later : Nat → ClientAnswer,
        (∀ n, (later n).writes = true) → ∃ n result, ∃ prompts : List FrameRead,
          (((List.range n).map later).foldl (step decoders) s).phase = .reading ∧
          (((List.range n).map later).foldl (step decoders) s).log =
            s.log ++ (prompts.map .prompt ++ [.response (responseEnvelope
              { requestId := e.requestId, connectionEpoch := authority.connectionEpoch, result })])) ∧
      (∀ f e g, .request f (some e) ∈ s.log → .prompt g ∈ s.log →
        f.stop ≤ g.start ∨ g.stop ≤ f.start) ∧
      ∀ f, .request f none ∈ s.log →
        (∃ r, s.phase = .closed r) ∧ s.log.getLast? = some (.request f none) := by
  intro s
  have hchecked : s.Checked decoders := run_checked
  have hlocated : s.Located stream := run_located
  have hphased : s.Phased (∃ x ∈ answers, x.writes = false) := run_phased
  have hauthority : s.authority = authority := run_authority
  refine ⟨hchecked.rising, fun f e hmem => ?_, hauthority, hphased, ?_, ?_, ?_⟩
  · have hhanded : e ∈ s.log.filterMap GreeterEvent.handed :=
      List.mem_filterMap.mpr ⟨_, hmem, rfl⟩
    obtain ⟨hid, hepoch, hseat⟩ := hchecked.authority e hhanded
    obtain ⟨bytes, hframe, hdecode, hshape⟩ := hchecked.decoded f e hmem
    have hbytes := (hlocated.frames _ hmem f rfl).1.2 bytes hframe
    rw [hauthority] at hid hepoch hseat
    exact ⟨hid, hepoch, hseat, bytes, hframe, hbytes, hdecode, hshape⟩
  · intro e rest hphase later hwrites
    rw [← hauthority]
    exact serving_answered hphase later hwrites
  · intro f e g hf hg
    exact located_apart hlocated hf hg (fun h => by cases h) rfl rfl
  · intro f hmem
    exact phased_rejected hphased hmem

end GreeterClient

section Sample
open GreeterClient

def loginRequest : GreeterRequestEnvelope where
  protocolVersion := 2
  messageType := "login"
  connectionId := "g1-c1"
  connectionEpoch := 1
  requestId := 1
  sequence := 1
  seat := "seat0"
  payloadLen := 69
  payload := .login "user" "niri" "secret"

def askedPrompt : PamPromptEnvelope where
  connectionId := "g1-c1"
  connectionEpoch := 1
  seat := "seat0"
  requestId := 1
  transactionId := "t1"
  conversationId := "c1"
  promptId := 1
  sequence := 1
  style := .promptEchoOff
  protocolVersion := 2
  messageType := "pam_prompt"
  payloadLen := 9
  message := "Password:"

def givenAnswer : PamPromptResponseEnvelope where
  toPamEnvelopeIdentity := askedPrompt.toPamEnvelopeIdentity
  protocolVersion := 2
  messageType := "pam_prompt_response"
  payloadLen := (PamPromptResponse.secret "secret").encodedLen
  response := .secret "secret"

def byteDecoders : Decoders where
  handshake bytes := if bytes = [72] then some ⟨2, "handshake"⟩ else none
  request bytes := if bytes = [82] then some loginRequest else none
  response bytes := if bytes = [80] then some givenAnswer else none

def askingHandler : ClientAnswer where
  readFails := none
  writes := true
  serve _ _ := .roundTrip askedPrompt fun answer =>
    .respond (if answer.isOk then .loginFailed "denied" else .error "no answer")
  cancelled := .error "cancelled"

theorem eq_reading {phase : ClientPhase} (h : (phase matches .reading) = true) :
    phase = .reading := by
  cases phase with
  | reading => rfl
  | handshake => cases h
  | serving request rest => cases h
  | closed result => cases h

/-- A login is handed on, its round trip takes the next frame, and it is answered. -/
theorem loginRequest_answered :
    let s := run byteDecoders sampleConnection [72, 10, 82, 10, 80, 10]
      (List.replicate 4 askingHandler)
    s.log = [.handshake ⟨0, 2, .ok [72]⟩, .request ⟨2, 4, .ok [82]⟩ (some loginRequest),
      .prompt ⟨4, 6, .ok [80]⟩, .response ⟨1, 1, .loginFailed "denied"⟩] ∧
      loginRequest.validateShape = .ok () ∧ Answered 1 s.log := by
  intro s
  have hlog : s.log = [.handshake ⟨0, 2, .ok [72]⟩,
      .request ⟨2, 4, .ok [82]⟩ (some loginRequest), .prompt ⟨4, 6, .ok [80]⟩,
      .response ⟨1, 1, .loginFailed "denied"⟩] := by decide +kernel
  have hphase : s.phase = .reading := eq_reading (by decide +kernel)
  have horderly := handed_requests_orderly byteDecoders sampleConnection
    [72, 10, 82, 10, 80, 10] (List.replicate 4 askingHandler)
  obtain ⟨-, -, -, line, -, -, -, hshape⟩ := horderly.2.1 ⟨2, 4, .ok [82]⟩ loginRequest
    (hlog ▸ List.mem_cons_of_mem _ List.mem_cons_self)
  exact ⟨hlog, hshape, run_answered hphase⟩

end Sample

end Niralis
