import Mathlib.Algebra.Ring.Nat
import Niralis.CallStates
import Niralis.PamConverse

namespace Niralis.PamTransaction
open Calls
open PamConverse (ConversationCredentials)

inductive PamFlag
  | establishCred | reinitializeCred | deleteCred
  deriving DecidableEq, Repr

inductive PamOperation
  | start (service : String)
  | authenticate
  | acctMgmt
  | getUser
  | setTty (tty : String)
  | putenv (entry : String)
  | setcred (flag : PamFlag)
  | openSession
  | closeSession
  | getenv (name : String)
  | getenvlist
  | finish
  deriving DecidableEq, Repr

/-- A call on libpam, with what the conversation answers the modules from meanwhile. -/
structure PamCall where
  conversation : ConversationCredentials
  operation : PamOperation
  deriving DecidableEq, Repr

/-- Whether it was a success, and what was asked for. `getenvlist` may panic. -/
abbrev PamCall.Answer (call : PamCall) : Type :=
  match call.operation with
  | .start _ | .authenticate | .acctMgmt | .setTty _ | .putenv _ | .setcred _ | .openSession
  | .closeSession | .finish => Bool
  | .getUser | .getenv _ => Option (List UInt8)
  | .getenvlist => Option (List (String × String))

abbrev PamCalls (ε : Type) := Calls PamCall PamCall.Answer ε

inductive PamSessionType
  | wayland | x11
  deriving DecidableEq, Repr

inductive PamSessionClass
  | user | greeter
  deriving DecidableEq, Repr

structure PamSessionMetadata where
  sessionType : PamSessionType
  sessionClass : PamSessionClass
  sessionDesktop : String
  seat : Option String
  vtnr : Option Nat
  tty : Option String
  deriving DecidableEq, Repr

def PamSessionMetadata.entries (metadata : PamSessionMetadata) : List String :=
  let sessionType := match metadata.sessionType with
    | .wayland => "wayland"
    | .x11 => "x11"
  let sessionClass := match metadata.sessionClass with
    | .user => "user"
    | .greeter => "greeter"
  ["XDG_SESSION_TYPE=" ++ sessionType, "XDG_SESSION_CLASS=" ++ sessionClass,
      "XDG_SESSION_DESKTOP=" ++ metadata.sessionDesktop] ++
    (metadata.seat.map ("XDG_SEAT=" ++ ·)).toList ++
    (metadata.vtnr.map fun vtnr => "XDG_VTNR=" ++ toString vtnr).toList

structure PamSessionEnvironment where
  sessionId : String
  runtimeDir : List UInt8
  importedLocale : List (String × String)
  deriving DecidableEq, Repr

inductive AuthSessionError
  | openFailed | environmentInvalid | closeFailed
  deriving DecidableEq, Repr

def isCString (text : String) : Bool := '\x00' ∉ text.toList

structure NativePamTransaction where
  conversation : ConversationCredentials
  credentialsEstablished : Bool := false
  sessionOpen : Bool := false
  ended : Bool := false
  deriving DecidableEq, Repr

namespace NativePamTransaction
variable {ε : Type}

def call (t : NativePamTransaction) (operation : PamOperation) :
    PamCalls ε (PamCall.Answer ⟨t.conversation, operation⟩) :=
  ask (⟨t.conversation, operation⟩ : PamCall)

def closeOpened (t : NativePamTransaction) : PamCalls ε NativePamTransaction :=
  if t.sessionOpen then do
    let _ ← t.call .closeSession
    pure { t with sessionOpen := false }
  else pure t

def deleteEstablished (t : NativePamTransaction) : PamCalls ε NativePamTransaction :=
  if t.credentialsEstablished then do
    let _ ← t.call (.setcred .deleteCred)
    pure { t with credentialsEstablished := false }
  else pure t

def cleanup (t : NativePamTransaction) : PamCalls ε NativePamTransaction :=
  if t.ended then pure t
  else do
    let t ← t.closeOpened
    let t ← t.deleteEstablished
    let _ ← t.call .finish
    pure { t with ended := true }

def drop (t : NativePamTransaction) : PamCalls ε Unit := do
  let _ ← t.cleanup

def reject {α : Type} (t : NativePamTransaction) : PamCalls Unit α := do
  t.drop
  fail ()

end NativePamTransaction

open NativePamTransaction

def toStr (bytes : List UInt8) : Option String := String.fromUTF8? ⟨bytes.toArray⟩

/-- `authenticate_inner`: the transaction, and the name of the user that PAM has settled on. -/
def authenticateInner (service username password : String) (driver : Bool) :
    PamCalls Unit (NativePamTransaction × String) := do
  let conversation : ConversationCredentials := { username, password, driver }
  let started : Bool ← ask (⟨conversation, .start service⟩ : PamCall)
  if !started then fail ()
  else do
    let t : NativePamTransaction := { conversation }
    let authenticated : Bool ← t.call .authenticate
    let t : NativePamTransaction := { t with conversation := { t.conversation with password := "" } }
    if !authenticated then do
      let t ← t.cleanup
      t.reject
    else do
      let valid : Bool ← t.call .acctMgmt
      if !valid then do
        let t ← t.cleanup
        t.reject
      else do
        let item : Option (List UInt8) ← t.call .getUser
        match item.bind toStr with
        | none => t.reject
        | some username => pure (t, username)

/-- The entries of the environment, one after the other. -/
def putEntries (t : NativePamTransaction) :
    List String → PamCalls (NativePamTransaction × AuthSessionError) Unit
  | [] => pure ()
  | entry :: entries =>
    if !isCString entry then fail (t, .openFailed)
    else do
      let put : Bool ← t.call (.putenv entry)
      ensure (t, .openFailed) put
      putEntries t entries

def setTerminal (t : NativePamTransaction) :
    Option String → PamCalls (NativePamTransaction × AuthSessionError) Unit
  | none => pure ()
  | some tty =>
    if !isCString tty then fail (t, .openFailed)
    else do
      let set : Bool ← t.call (.setTty tty)
      ensure (t, .openFailed) set

namespace NativePamTransaction

/-- A failed `open_session` leaves the transaction to its owner, cleaned up or not. -/
def openSession (t : NativePamTransaction) (metadata : PamSessionMetadata) :
    PamCalls (NativePamTransaction × AuthSessionError) NativePamTransaction := do
  setTerminal t metadata.tty
  putEntries t metadata.entries
  let established : Bool ← t.call (.setcred .establishCred)
  ensure (t, .openFailed) established
  -- a module may have set the session up before a later one failed
  let t := { t with credentialsEstablished := true, sessionOpen := true }
  let opened : Bool ← t.call .openSession
  if !opened then do
    let t ← t.cleanup
    fail (t, .openFailed)
  else do
    let reinitialized : Bool ← t.call (.setcred .reinitializeCred)
    if !reinitialized then do
      let t ← t.cleanup
      fail (t, .openFailed)
    else pure t

def closeSession (t : NativePamTransaction) : PamCalls AuthSessionError NativePamTransaction :=
  if !t.sessionOpen then pure t
  else do
    let closed : Bool ← t.call .closeSession
    ensure .closeFailed closed
    pure { t with sessionOpen := false }

def pamValueBytes (t : NativePamTransaction) (name : String) :
    PamCalls AuthSessionError (List UInt8) := do
  let value : Option (List UInt8) ← t.call (.getenv name)
  let bytes ← require .environmentInvalid value
  if bytes.isEmpty ∨ 16 * 1024 < bytes.length then fail .environmentInvalid
  else pure bytes

def pamValue (t : NativePamTransaction) (name : String) : PamCalls AuthSessionError String := do
  let bytes ← t.pamValueBytes name
  require .environmentInvalid (toStr bytes)

def isLocale (entry : String × String) : Bool :=
  entry.1 = "LANG" || entry.1 = "LANGUAGE" || "LC_".toList.isPrefixOf entry.1.toList

def localeSize (entries : List (String × String)) : Nat :=
  (entries.map fun entry => entry.1.utf8ByteSize + entry.2.utf8ByteSize + 1).sum

def validLocale (entries : List (String × String)) : Bool :=
  entries.all (fun entry => 0 < entry.1.utf8ByteSize && entry.1.utf8ByteSize ≤ 128 &&
      entry.2.utf8ByteSize ≤ 16 * 1024) &&
    localeSize entries ≤ 64 * 1024

def validRuntimeDir (bytes : List UInt8) : Bool :=
  !bytes.isEmpty && bytes.length ≤ 4096 && !bytes.contains 0

def sessionEnvironment (t : NativePamTransaction) : PamCalls AuthSessionError PamSessionEnvironment := do
  let sessionId ← t.pamValue "XDG_SESSION_ID"
  ensure .environmentInvalid (0 < sessionId.utf8ByteSize && sessionId.utf8ByteSize ≤ 128 &&
    isCString sessionId)
  let runtimeDir ← t.pamValueBytes "XDG_RUNTIME_DIR"
  ensure .environmentInvalid (validRuntimeDir runtimeDir)
  let list : Option (List (String × String)) ← t.call .getenvlist
  let entries ← require .environmentInvalid list
  let importedLocale := (entries.filter isLocale).take 256
  ensure .environmentInvalid (validLocale importedLocale)
  pure { sessionId, runtimeDir, importedLocale }

end NativePamTransaction

/-- What the owner of an opened session asks of the transaction. -/
inductive SessionUse
  | sessionEnvironment
  | closeSession
  deriving DecidableEq, Repr

/-- One use after the other, also after those that fail. -/
def NativePamTransaction.use :
    NativePamTransaction → List SessionUse → PamCalls Empty NativePamTransaction
  | t, [] => pure t
  | t, .sessionEnvironment :: uses => t.sessionEnvironment.handle fun _ => t.use uses
  | t, .closeSession :: uses => t.closeSession.handle fun
    | .ok t' => t'.use uses
    | .error _ => t.use uses

/-- The life of a transaction: a session is opened at most once, and a transaction whose session could
not be opened is dropped. -/
def life (service username password : String) (driver : Bool) (metadata : Option PamSessionMetadata)
    (uses : List SessionUse) : PamCalls Empty Unit :=
  (authenticateInner service username password driver).handle fun
    | .error _ => pure ()
    | .ok (t, _) =>
      match metadata with
      | none => t.drop
      | some metadata => (t.openSession metadata).handle fun
        | .error (t', _) => t'.drop
        | .ok t' => do
          let t'' ← t'.use uses
          t''.drop

end Niralis.PamTransaction
