import Niralis.CallSteps
import Niralis.PamForwarding

namespace Niralis.PamConverse
open Calls

/-- A `pam_message`. Its text may be missing. -/
structure PamMessage where
  style : Int
  text : Option CStr

inductive ConversationAction
  | echoOff | echoOn | error | info | invalid
  deriving DecidableEq, Repr

def conversationAction (style : Int) : ConversationAction :=
  if style = 1 then .echoOff
  else if style = 2 then .echoOn
  else if style = 3 then .error
  else if style = 4 then .info
  else .invalid

inductive PamReturnCode
  | convErr | bufErr
  deriving DecidableEq, Repr

/-- What a conversation answers from: a driver, or else a name and a password. -/
structure ConversationCredentials where
  username : String
  password : String
  driver : Bool
  deriving DecidableEq, Repr

structure SilentPasswordConversation extends ConversationCredentials where
  failed : Bool := false
  deriving DecidableEq, Repr

/-- The calls on the driver, and on the allocator of C. -/
inductive ConverseCall
  | respond (style : PamMessageStyle) (message : CStr)
  | calloc (count : Nat)
  | strdup (text : String)

abbrev ConverseCall.Answer : ConverseCall → Type
  | respond _ _ => Except Unit PamPromptResponse
  | calloc _ | strdup _ => Bool

abbrev Conversing := Calls ConverseCall ConverseCall.Answer PamReturnCode

abbrev ConverseLog := List (Sigma ConverseCall.Answer)

def toCString (text : String) : Conversing String :=
  if '\x00' ∈ text.toList then fail .convErr else pure text

namespace SilentPasswordConversation

def promptEcho (c : SilentPasswordConversation) (message : CStr) : Conversing String :=
  if c.driver then do
    let response : Except Unit PamPromptResponse ← ask (ConverseCall.respond .promptEchoOn message)
    let response ← orFail (fun _ => .convErr) response
    orFail (fun _ => .convErr) (responseToCString response false)
  else toCString c.username

def promptBlind (c : SilentPasswordConversation) (message : CStr) : Conversing String :=
  if c.driver then do
    let response : Except Unit PamPromptResponse ← ask (ConverseCall.respond .promptEchoOff message)
    let response ← orFail (fun _ => .convErr) response
    orFail (fun _ => .convErr) (responseToCString response true)
  else toCString c.password

/-- `info` and `error`: what is not taken note of fails the conversation for good. -/
def inform (c : SilentPasswordConversation) (style : PamMessageStyle) (message : CStr) :
    Conversing SilentPasswordConversation :=
  if c.driver then do
    let response : Except Unit PamPromptResponse ← ask (ConverseCall.respond style message)
    pure (if response = .ok .none then c else { c with failed := true })
  else pure c

end SilentPasswordConversation

/-- An answer that goes to the module is a copy of its own. -/
def copied (answer : Conversing String) : Conversing String := do
  let text ← answer
  let duplicated : Bool ← ask (ConverseCall.strdup text)
  ensure .bufErr duplicated
  pure text

/-- The result beside the conversation, which the callback leaves as it is also where it fails. -/
abbrev Converse := Calls ConverseCall ConverseCall.Answer Empty
  (Except PamReturnCode (List (Option String)) × SilentPasswordConversation)

/-- One message, with the conversation after it. A prompt leaves the conversation as it is. -/
def answerMessage (c : SilentPasswordConversation) (message : PamMessage) :
    Conversing (Option String × SilentPasswordConversation) :=
  match message.text with
  | none => fail .convErr
  | some text =>
    match conversationAction message.style with
    | .echoOff => do
      let answer ← copied (c.promptBlind text)
      pure (some answer, c)
    | .echoOn => do
      let answer ← copied (c.promptEcho text)
      pure (some answer, c)
    | .error => do
      let c ← c.inform .error text
      pure (none, c)
    | .info => do
      let c ← c.inform .informational text
      pure (none, c)
    | .invalid => fail .convErr

/-- The answers that the module is given in the end, one for each message. -/
def converseEach (c : SilentPasswordConversation) : List PamMessage → Converse
  | [] => pure (if c.failed then .error .convErr else .ok [], c)
  | message :: messages =>
    (answerMessage c message).handle fun
      | .error e => pure (.error e, c)
      | .ok (response, c) => do
        let (rest, c) ← converseEach c messages
        pure (rest.map (response :: ·), c)

def converse (c : SilentPasswordConversation) (messages : List PamMessage) : Converse := do
  let allocated : Bool ← ask (ConverseCall.calloc messages.length)
  if allocated then converseEach c messages else pure (.error .bufErr, c)

/-- The conversations of one handle, one after the other. -/
def converseAll (c : SilentPasswordConversation) :
    List (List PamMessage) → Calls ConverseCall ConverseCall.Answer Empty SilentPasswordConversation
  | [] => pure c
  | messages :: rest => do
    let (_, c) ← converse c messages
    converseAll c rest

/-- A conversation of a handle on which others were held before. -/
def converseAfter (c : SilentPasswordConversation) (earlier : List (List PamMessage))
    (messages : List PamMessage) : Converse := do
  let c ← converseAll c earlier
  converse c messages

/-- A message to the user that the driver was to take note of, and whether it did. -/
def acknowledged : Sigma ConverseCall.Answer → Bool
  | ⟨.respond .informational _, response⟩ | ⟨.respond .error _, response⟩ => response = .ok .none
  | _ => true

/-- The calls for a prompt, and its answer, from the driver where there is one. -/
def Given (c : SilentPasswordConversation) (calls : ConverseLog) (style : PamMessageStyle)
    (text : CStr) (response : String → PamPromptResponse) (own answer : String) : Prop :=
  if c.driver then calls = [⟨.respond style text, .ok (response answer)⟩]
  else calls = [] ∧ answer = own

def Shown (c : SilentPasswordConversation) (calls : ConverseLog) (style : PamMessageStyle)
    (text : CStr) : Prop :=
  if c.driver then ∃ taken, calls = [⟨.respond style text, taken⟩] else calls = []

/-- What the module gets for one message, and the calls made for it. -/
def Answered (c : SilentPasswordConversation) (calls : ConverseLog) (message : PamMessage)
    (response : Option String) : Prop :=
  ∃ text, message.text = some text ∧ match conversationAction message.style with
    | .echoOff => ∃ answer asked, response = some answer ∧ calls = asked ++ [⟨.strdup answer, true⟩] ∧
        Given c asked .promptEchoOff text .secret c.password answer
    | .echoOn => ∃ answer asked, response = some answer ∧ calls = asked ++ [⟨.strdup answer, true⟩] ∧
        Given c asked .promptEchoOn text .text c.username answer
    | .error => response = none ∧ Shown c calls .error text
    | .info => response = none ∧ Shown c calls .informational text
    | .invalid => False

/-- The calls for the messages, one message after the other. -/
inductive InTurn (c : SilentPasswordConversation) :
    List PamMessage → List (Option String) → ConverseLog → Prop
  | nil : InTurn c [] [] []
  | cons {message : PamMessage} {messages : List PamMessage} {response : Option String}
      {responses : List (Option String)} {calls more : ConverseLog} :
      Answered c calls message response → InTurn c messages responses more →
        InTurn c (message :: messages) (response :: responses) (calls ++ more)

/-- The conversation remembers whether a message was not taken note of. -/
def Marks (c : SilentPasswordConversation) (log : ConverseLog) : Prop :=
  c.failed = true ↔ ∃ x ∈ log, acknowledged x = false

/-- The same conversation, failed or not. -/
structure Same (c c' : SilentPasswordConversation) : Prop where
  username : c'.username = c.username
  password : c'.password = c.password
  driver : c'.driver = c.driver

section Steps
variable {c c' : SilentPasswordConversation} {log more : ConverseLog} {text : CStr}

theorem Marks.append (h : Marks c log) (hmore : ∀ x ∈ more, acknowledged x = true) :
    Marks c (log ++ more) := by
  refine h.trans ⟨?_, ?_⟩
  · rintro ⟨x, hx, hmark⟩
    exact ⟨x, List.mem_append_left _ hx, hmark⟩
  · rintro ⟨x, hx, hmark⟩
    rcases List.mem_append.mp hx with hx | hx
    · exact ⟨x, hx, hmark⟩
    · rw [hmore x hx] at hmark
      cases hmark

theorem Answered.congr {message : PamMessage} {response : Option String} (hsame : Same c c')
    (h : Answered c' log message response) : Answered c log message response := by
  obtain ⟨text, htext, h⟩ := h
  refine ⟨text, htext, ?_⟩
  simpa only [Given, Shown, hsame.username, hsame.password, hsame.driver] using h

theorem InTurn.congr {messages : List PamMessage} {responses : List (Option String)}
    (hsame : Same c c') (h : InTurn c' messages responses log) : InTurn c messages responses log := by
  induction h with
  | nil => exact .nil
  | cons hanswered _ ih => exact .cons (hanswered.congr hsame) ih

/-- No call at all, or calls of which none is a message to the user. -/
abbrev Prompts {α : Type} (p : Conversing α) (log : ConverseLog) (good : α → ConverseLog → Prop) : Prop :=
  p.Adds (fun _ _ => True) (fun x => acknowledged x = true) log good

theorem prompts_toCString {value : String} {good : String → ConverseLog → Prop} (h : good value []) :
    Prompts (toCString value) log good := by
  unfold toCString
  split
  · exact adds_fail
  · exact adds_pure h

theorem eq_of_responseToCString {response : PamPromptResponse} {secret : Bool} {value : String}
    (h : responseToCString response secret = .ok value) :
    response = if secret then .secret value else .text value := by
  unfold responseToCString at h
  split at h
  · split at h
    · cases h
    · rw [Except.ok.inj h]
      rfl
  · split at h
    · cases h
    · rw [Except.ok.inj h]
      rfl
  · cases h

theorem prompts_promptBlind :
    Prompts (c.promptBlind text) log fun answer more =>
      Given c more .promptEchoOff text .secret c.password answer := by
  unfold SilentPasswordConversation.promptBlind Given
  cases c.driver with
  | false => exact prompts_toCString ⟨rfl, rfl⟩
  | true =>
    refine adds_ask (fun _ => ⟨trivial, rfl⟩) fun answer => adds_orFail_bind ?_
    refine fun response hresponse => adds_orFail fun value hvalue => ?_
    rw [hresponse, eq_of_responseToCString hvalue]
    rfl

theorem prompts_promptEcho :
    Prompts (c.promptEcho text) log fun answer more =>
      Given c more .promptEchoOn text .text c.username answer := by
  unfold SilentPasswordConversation.promptEcho Given
  cases c.driver with
  | false => exact prompts_toCString ⟨rfl, rfl⟩
  | true =>
    refine adds_ask (fun _ => ⟨trivial, rfl⟩) fun answer => adds_orFail_bind ?_
    refine fun response hresponse => adds_orFail fun value hvalue => ?_
    rw [hresponse, eq_of_responseToCString hvalue]
    rfl

theorem prompts_copied {answer : Conversing String} {good : String → ConverseLog → Prop}
    (h : Prompts answer log good) :
    Prompts (copied answer) log fun answer more =>
      ∃ asked, more = asked ++ [⟨.strdup answer, true⟩] ∧ good answer asked := by
  refine h.bind fun value asked _ hgiven => ?_
  refine adds_ask (fun _ => ⟨trivial, rfl⟩) fun duplicated => adds_ensure_bind fun hduplicated => ?_
  subst hduplicated
  exact adds_pure ⟨asked, rfl, hgiven⟩

theorem Same.refl (c : SilentPasswordConversation) : Same c c := ⟨rfl, rfl, rfl⟩

theorem Same.trans {c'' : SilentPasswordConversation} (h : Same c c') (h' : Same c' c'') : Same c c'' :=
  ⟨h'.username.trans h.username, h'.password.trans h.password, h'.driver.trans h.driver⟩

structure Goes (c c' : SilentPasswordConversation) (log' : ConverseLog) : Prop where
  same : Same c c'
  marks : Marks c' log'

/-- What becomes of one message. Where it cannot be answered, the conversation stays as it is. -/
def Handled (c : SilentPasswordConversation) (log : ConverseLog) (message : PamMessage)
    (r : Except PamReturnCode (Option String × SilentPasswordConversation)) (log' : ConverseLog) : Prop :=
  Goes c ((r.toOption.map (·.2)).getD c) log' ∧ ∀ response c', r = .ok (response, c') →
    ∃ calls, log' = log ++ calls ∧ Answered c calls message response

theorem Handled.unanswered {message : PamMessage} {e : PamReturnCode} (hmarks : Marks c more) :
    Handled c log message (.error e) more :=
  ⟨⟨.refl c, hmarks⟩, fun _ _ h => (by cases h)⟩

theorem sat_prompt {message : PamMessage} {p : Conversing String}
    {good : String → ConverseLog → Prop} (hmarks : Marks c log) (hp : Prompts p log good)
    (hgood : ∀ answer calls, good answer calls → Answered c calls message (some answer)) :
    (p >>= fun answer => pure (some answer, c)).Sat (fun _ _ => True) log (Handled c log message) := by
  refine Sat.bind hp ?_ ?_
  · rintro answer _ ⟨calls, rfl, hcalls, hanswer⟩
    refine (sat_pure _).mpr ⟨⟨.refl c, hmarks.append hcalls⟩, fun response c' h => ?_⟩
    cases h
    exact ⟨calls, rfl, hgood answer calls (hanswer answer rfl)⟩
  · rintro e _ ⟨calls, rfl, hcalls, -⟩
    exact .unanswered (hmarks.append hcalls)

theorem sat_inform {style : PamMessageStyle} (hmarks : Marks c log)
    (hstyle : style = .informational ∨ style = .error) :
    (c.inform style text).Sat (fun _ _ => True) log fun r log' =>
      ∃ c' calls, r = .ok c' ∧ log' = log ++ calls ∧ Goes c c' log' ∧ Shown c calls style text := by
  unfold SilentPasswordConversation.inform Shown
  split
  · intro response
    refine ⟨trivial, _, _, rfl, rfl, ⟨?_, ?_⟩, response, rfl⟩
    · split
      · exact .refl c
      · exact ⟨rfl, rfl, rfl⟩
    · have hmark : acknowledged ⟨.respond style text, response⟩ = decide (response = .ok .none) := by
        rcases hstyle with rfl | rfl <;> rfl
      split
      · rename_i hnone
        refine hmarks.append (List.forall_mem_singleton.mpr ?_)
        rw [hmark, hnone]
        rfl
      · rename_i hnone
        refine ⟨fun _ => ⟨_, List.mem_append_right _ (List.mem_singleton_self _), ?_⟩, fun _ => rfl⟩
        rw [hmark, decide_eq_false hnone]
  · exact ⟨c, [], rfl, (List.append_nil log).symm, ⟨.refl c, hmarks⟩, rfl⟩

theorem sat_message {message : PamMessage} {style : PamMessageStyle} (hmarks : Marks c log)
    (hstyle : style = .informational ∨ style = .error)
    (hshown : ∀ calls, Shown c calls style text → Answered c calls message none) :
    (c.inform style text >>= fun c => pure (none, c)).Sat (fun _ _ => True) log
      (Handled c log message) := by
  refine Sat.bind (sat_inform hmarks hstyle) ?_ ?_
  · rintro _ log' ⟨c', calls, h, hlog, hgoes, hcalls⟩
    cases h
    refine (sat_pure _).mpr ⟨hgoes, fun response c'' h => ?_⟩
    cases h
    exact ⟨calls, hlog, hshown calls hcalls⟩
  · rintro e log' ⟨c', calls, h, -⟩
    cases h

theorem sat_answerMessage (hmarks : Marks c log) (message : PamMessage) :
    (answerMessage c message).Sat (fun _ _ => True) log (Handled c log message) := by
  unfold answerMessage
  cases htext : message.text with
  | none => exact .unanswered hmarks
  | some text =>
    dsimp only
    cases haction : conversationAction message.style with
    | echoOff =>
      apply sat_prompt hmarks (prompts_copied prompts_promptBlind)
      rintro answer calls ⟨asked, hcalls, hgiven⟩
      exact ⟨text, htext, by rw [haction]; exact ⟨answer, asked, rfl, hcalls, hgiven⟩⟩
    | echoOn =>
      apply sat_prompt hmarks (prompts_copied prompts_promptEcho)
      rintro answer calls ⟨asked, hcalls, hgiven⟩
      exact ⟨text, htext, by rw [haction]; exact ⟨answer, asked, rfl, hcalls, hgiven⟩⟩
    | error =>
      apply sat_message hmarks (Or.inr rfl)
      exact fun calls hshown => ⟨text, htext, by rw [haction]; exact ⟨rfl, hshown⟩⟩
    | info =>
      apply sat_message hmarks (Or.inl rfl)
      exact fun calls hshown => ⟨text, htext, by rw [haction]; exact ⟨rfl, hshown⟩⟩
    | invalid => exact .unanswered hmarks

theorem sat_converseEach (hmarks : Marks c log) (messages : List PamMessage) :
    (converseEach c messages).Sat (fun _ _ => True) log fun r log' =>
      ∃ result c', r = .ok (result, c') ∧ Goes c c' log' ∧ ∀ responses, result = .ok responses →
        c'.failed = false ∧ ∃ calls, log' = log ++ calls ∧ InTurn c messages responses calls := by
  induction messages generalizing c log with
  | nil =>
    refine (sat_pure _).mpr ⟨_, c, rfl, ⟨.refl c, hmarks⟩, fun responses h => ?_⟩
    cases hfailed : c.failed with
    | true =>
      rw [hfailed] at h
      cases h
    | false =>
      rw [hfailed] at h
      cases h
      exact ⟨rfl, [], (List.append_nil log).symm, .nil⟩
  | cons message messages ih =>
    refine sat_handle.mpr ((sat_answerMessage hmarks message).mono ?_)
    rintro r log' ⟨hgoes, hanswered⟩
    cases r with
    | error e => exact (sat_pure _).mpr ⟨_, c, rfl, hgoes, fun _ h => (by cases h)⟩
    | ok answer =>
      obtain ⟨response, c'⟩ := answer
      obtain ⟨calls, rfl, hcalls⟩ := hanswered response c' rfl
      refine Sat.bind (ih hgoes.marks) ?_ fun e => e.elim
      rintro _ log'' ⟨result, c'', h, hgoes', hresult⟩
      cases h
      refine (sat_pure _).mpr ⟨_, c'', rfl, ⟨hgoes.same.trans hgoes'.same, hgoes'.marks⟩,
        fun responses h => ?_⟩
      cases result with
      | error e => cases h
      | ok rest =>
        cases h
        obtain ⟨hfailed, more, rfl, hmore⟩ := hresult rest rfl
        exact ⟨hfailed, calls ++ more, List.append_assoc _ _ _, .cons hcalls (hmore.congr hgoes.same)⟩

theorem sat_converse (hmarks : Marks c log) (messages : List PamMessage) :
    (converse c messages).Sat (fun _ _ => True) log fun r log' =>
      ∃ result c', r = .ok (result, c') ∧ Goes c c' log' ∧ ∀ responses, result = .ok responses →
        c'.failed = false ∧ ∃ calls, log' = log ++ ⟨.calloc messages.length, true⟩ :: calls ∧
          InTurn c messages responses calls := by
  intro allocated
  have hmarks' : Marks c (log ++ [⟨.calloc messages.length, allocated⟩]) :=
    hmarks.append (List.forall_mem_singleton.mpr rfl)
  refine ⟨trivial, ?_⟩
  cases allocated with
  | false => exact (sat_pure _).mpr ⟨_, c, rfl, ⟨.refl c, hmarks'⟩, fun _ h => (by cases h)⟩
  | true =>
    apply (sat_converseEach hmarks' messages).mono
    rintro r log' ⟨result, c', hr, hgoes, hresult⟩
    refine ⟨result, c', hr, hgoes, fun responses h => ?_⟩
    obtain ⟨hfailed, calls, rfl, hcalls⟩ := hresult responses h
    exact ⟨hfailed, calls, List.append_assoc _ _ _, hcalls⟩

theorem sat_converseAll (hmarks : Marks c log) (conversations : List (List PamMessage)) :
    (converseAll c conversations).Sat (fun _ _ => True) log fun r log' =>
      ∃ c', r = .ok c' ∧ Goes c c' log' := by
  induction conversations generalizing c log with
  | nil => exact (sat_pure _).mpr ⟨c, rfl, .refl c, hmarks⟩
  | cons messages conversations ih =>
    refine Sat.bind (sat_converse hmarks messages) ?_ fun e => e.elim
    rintro _ log' ⟨result, c', h, hgoes, -⟩
    cases h
    apply (ih hgoes.marks).mono
    rintro r log'' ⟨c'', hr, hgoes'⟩
    exact ⟨c'', hr, hgoes.same.trans hgoes'.same, hgoes'.marks⟩

end Steps

/-- Whatever the driver and the allocator answer, and whatever was said on the handle before: a module gets
answers only where every message to the user so far was taken note of, one for each of its own messages,
each from the driver's answer of that kind to that very prompt, which was asked in its turn. -/
theorem answers_acknowledged {username password : String} {driver : Bool}
    {earlier : List (List PamMessage)} {messages : List PamMessage} {host : Host ConverseCall.Answer}
    {responses : List (Option String)} {c' : SilentPasswordConversation} {log : ConverseLog}
    (h : (converseAfter { username, password, driver } earlier messages).run host [] =
      (.ok (.ok responses, c'), log)) :
    (∀ x ∈ log, acknowledged x = true) ∧
      ∃ calls, log = ((converseAll { username, password, driver } earlier).run host []).2 ++
          ⟨.calloc messages.length, true⟩ :: calls ∧
        InTurn { username, password, driver } messages responses calls := by
  have hstart : Marks { username, password, driver } [] := by simp [Marks]
  obtain ⟨-, c, hc, hgoes⟩ := (sat_converseAll hstart earlier).run host
  rw [converseAfter, run_bind_ok (Prod.ext hc rfl)] at h
  obtain ⟨-, result, c'', hresult, hgoes', hanswered⟩ :=
    (sat_converse hgoes.marks messages).run_from (fun _ _ _ _ => trivial) host
  rw [h] at hresult hgoes' hanswered
  cases hresult
  obtain ⟨hfailed, calls, hlog, hcalls⟩ := hanswered responses rfl
  refine ⟨fun x hx => ?_, calls, hlog, hcalls.congr hgoes.same⟩
  cases hmark : acknowledged x with
  | true => rfl
  | false =>
    have hset := hgoes'.marks.mpr ⟨x, hx, hmark⟩
    rw [hfailed] at hset
    cases hset

def sampleText : CStr where
  bytes := ⟨#[80, 73, 78]⟩
  nulFree := by decide

/-- A driver that takes note of everything, and whose secret is another one later on. -/
def politeDriver : Host ConverseCall.Answer := fun log call =>
  match call with
  | .respond .promptEchoOff _ => .ok (.secret (if log.length < 5 then "1234" else "5678"))
  | .respond _ _ => .ok .none
  | .calloc _ => true
  | .strdup _ => true

/-- The same prompt three times, once in a conversation before. -/
theorem politeDriver_inTurn :
    let start : SilentPasswordConversation := { username := "ada", password := "", driver := true }
    let prompt : PamMessage := ⟨1, some sampleText⟩
    let messages := [prompt, ⟨4, some sampleText⟩, prompt]
    let held := (converseAfter start [[prompt]] messages).run politeDriver []
    held.1 = .ok (.ok [some "1234", none, some "5678"], start) ∧
      (∀ x ∈ held.2, acknowledged x = true) ∧ ∃ calls,
        held.2 = ((converseAll start [[prompt]]).run politeDriver []).2 ++ ⟨.calloc 3, true⟩ :: calls ∧
          InTurn start messages [some "1234", none, some "5678"] calls := by
  intro start prompt messages held
  have hrun : held.1 = .ok (.ok [some "1234", none, some "5678"], start) := by decide
  exact ⟨hrun, answers_acknowledged (Prod.ext hrun rfl)⟩

end Niralis.PamConverse
