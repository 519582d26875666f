import ProntoChat.Core.Transition
import ProntoChat.Daemon.Ipc

/-!
# The session protocol

An abstract description of what the daemon does to a chat session.  A `View`
keeps the session, the attached client, the contacts file and the log, and
forgets timers, sockets, queues and the login.  A `Move` is one change that
matters for safety, with the condition under which the daemon makes it.
-/

namespace ProntoChat.Daemon

open ProntoChat.Protocole
open ProntoChat.Contacts
open ProntoChat.Crypto

/-- The fields of a session that carry its safety. -/
structure SessionCore where
  peer : Str := []
  sessionId : Str := []
  active : Bool := false
  remotePk : Bytes 32 := zeroBytes 32
  role : Option ChatCryptoRole := none
  handshake : ChatCryptoHandshake := {}
  keys : ChatCryptoSessionKeys := {}
  stream : ChatCryptoSecretstream := {}
  handshakeSent : Bool := false
  keysReady : Bool := false
  headerSent : Bool := false
  headerReceived : Bool := false
  ready : Bool := false

def ChatdSession.core (session : ChatdSession) : SessionCore where
  peer := session.icePeer
  sessionId := session.iceSessionId
  active := session.iceActive
  remotePk := session.remoteIdentityPk
  role := session.cryptoRole
  handshake := session.cryptoHandshake
  keys := session.cryptoKeys
  stream := session.cryptoStream
  handshakeSent := session.cryptoHandshakeSent
  keysReady := session.cryptoKeysReady
  headerSent := session.cryptoStreamHeaderSent
  headerReceived := session.cryptoStreamHeaderReceived
  ready := session.encryptedSessionReady

structure View where
  identity : ChatIdentity
  contacts : ContactsDb
  state : ChatdSessionState
  /-- The peer named by the command of the attached client. -/
  client : Option Str
  lookupPeer : Str
  session : SessionCore
  log : List Effect

def ChatdState.view (state : ChatdState) : View where
  identity := state.identity
  contacts := state.contacts
  state := state.sessionState
  client := state.opened
  lookupPeer := state.lookupPeer
  session := state.session.core
  log := state.log

@[simp]
theorem view_emit (state : ChatdState) (effect : Effect) :
    (state.emit effect).view =
      { state.view with log := state.view.log ++ [effect] } := rfl

@[simp]
theorem view_sent (state : ChatdState) (packet : List UInt8) :
    (state.sent packet).view =
      { state.view with
        log := state.view.log ++ [.packetSent packet true] } := rfl

@[simp]
theorem view_setSession (state : ChatdState) (session : ChatdSession) :
    (state.setSession session).view =
      { state.view with session := session.core } := rfl

@[simp]
theorem view_setSessionState (state : ChatdState) (next : ChatdSessionState) :
    (state.setSessionState next).view = { state.view with state := next } := rfl

@[simp]
theorem view_setContacts (state : ChatdState) (contacts : ContactsDb) :
    (state.setContacts contacts).view = { state.view with contacts } := rfl

/-- Lines that neither announce a session nor show a text. -/
def IpcLine.Quiet : IpcLine → Prop
  | .encryptedSession _ _ => False
  | .message _ _ => False
  | _ => True

/-- Effects that neither announce a session, show or send a text, nor use a
key. -/
def Effect.Quiet : Effect → Prop
  | .ipcLine _ _ line _ => line.Quiet
  | .encrypted _ _ type _ => type ≠ .message
  | .decrypted _ _ _ _ _ => False
  | .challengeSigned _ => False
  | .handshakeSigned _ _ _ _ => False
  | .handshakeAccepted _ _ _ _ _ => False
  | _ => True

/-- Conditions on the inputs of a run that individual results impose. -/
structure Admission where
  /-- Outcomes of the contacts file operations. -/
  io : ContactsIo → Prop := fun _ => True
  /-- An incoming request of this peer may be answered. -/
  answer : View → Str → Prop := fun _ _ => True
  /-- A client may ask for a session with this peer. -/
  request : View → Str → Prop := fun _ _ => True

/-- The session made by `begin_ice_session`. -/
def begunSession (peer sessionId : Str) (role : ChatCryptoRole)
    (remotePk : Bytes 32) : SessionCore where
  peer
  sessionId
  active := true
  remotePk
  role := some role

/-- One change of the session protocol. -/
inductive Move (sodium : Sodium) (admits : Admission) : View → View → Prop where
  | quiet {view : View} {effect : Effect} (hquiet : effect.Quiet) :
      Move sodium admits view { view with log := view.log ++ [effect] }
  /-- A contact is verified or pinned, with any result. -/
  | pin {view : View} {io : ContactsIo} (hio : admits.io io) (peer : Str)
      (remotePk : Bytes 32) :
      Move sodium admits view
        { view with
          contacts :=
            (chatContactsVerifyOrPin io view.contacts peer remotePk).db }
  /-- The session ends; a retry has already chosen the next identifier. -/
  | stop {view : View} {next : ChatdSessionState} (sessionId : Str)
      (hnext : next ≠ .secure ∧ next ≠ .closing) :
      Move sodium admits view { view with state := next, session := { sessionId } }
  | detach {view : View} :
      Move sodium admits view { view with client := none, lookupPeer := [] }
  | request {view : View} {peer : Str} (sessionId : Str)
      (hclient : view.client = none) (hpeer : peer ≠ [])
      (hadmits : admits.request view peer) :
      Move sodium admits view
        { view with
          client := some peer
          lookupPeer := peer
          state := .requesting
          session := { view.session with sessionId } }
  | attach {view : View} (hclient : view.client = none)
      (hactive : view.session.active = true)
      (hready : view.session.ready = true) :
      Move sodium admits view { view with client := some view.session.peer }
  | announce {view : View} {opened : Str} (fd : ℕ) (relayed delivered : Bool)
      (hclient : view.client = some opened)
      (hactive : view.session.active = true)
      (hannounced : view.session.ready = true ∧
        (view.state = .secure ∨ opened = view.session.peer)) :
      Move sodium admits view
        { view with
          log := view.log ++ [.ipcLine fd (some opened)
            (.encryptedSession view.session.peer relayed) delivered] }
  | await {view : View} :
      Move sodium admits view { view with state := .requesting }
  /-- An incoming request is answered. -/
  | answer {view : View} {io : ContactsIo} {offer : ChatOffer}
      (hio : admits.io io)
      (hcontact : (chatContactsVerifyOrPin io view.contacts offer.sender
        offer.identityPk).result = .ok)
      (hadmits : admits.answer view offer.sender) :
      Move sodium admits view
        { view with
          contacts := (chatContactsVerifyOrPin io view.contacts offer.sender
            offer.identityPk).db
          state := .iceNegotiating
          session := begunSession offer.sender offer.sessionId .responder
            offer.identityPk }
  /-- The request of the attached client was accepted. -/
  | accepted {view : View} {io : ContactsIo} {offer : ChatOffer}
      (hio : admits.io io)
      (hcontact : (chatContactsVerifyOrPin io view.contacts offer.sender
        offer.identityPk).result = .ok)
      (hclient : view.client ≠ none) (hpeer : offer.sender = view.lookupPeer) :
      Move sodium admits view
        { view with
          contacts := (chatContactsVerifyOrPin io view.contacts offer.sender
            offer.identityPk).db
          state := .iceNegotiating
          session := begunSession offer.sender offer.sessionId .initiator
            offer.identityPk }
  | connected {view : View} :
      Move sodium admits view { view with state := .iceConnected }
  | handshaking {view : View} (hready : view.session.ready = false) :
      Move sodium admits view { view with state := .cryptoHandshake }
  | signChallenge {view : View} (challenge : Bytes 32) :
      Move sodium admits view
        { view with log := view.log ++ [.challengeSigned challenge] }
  | signHandshake {view : View} {role : ChatCryptoRole} (kxPk : Bytes 32)
      (hrole : view.session.role = some role) :
      Move sodium admits view
        { view with
          log := view.log ++ [.handshakeSigned role view.session.remotePk
            view.session.sessionId kxPk] }
  | install {view : View} {handshake : ChatCryptoHandshake}
      {kxSecretKey : Option (Bytes 32)} {message : Bytes 96}
      (hinit : chatCryptoHandshakeInit sodium view.session.handshake view.identity
        view.session.remotePk view.session.role view.session.sessionId
        kxSecretKey = (handshake, .ok message))
      (hunsent : view.session.handshakeSent = false) :
      Move sodium admits view
        { view with
          session := { view.session with handshake, handshakeSent := true } }
  | accept {view : View} {handshake : ChatCryptoHandshake}
      {keys : ChatCryptoSessionKeys} {message : Bytes 96}
      (hfinish : chatCryptoHandshakeFinish sodium view.session.handshake message
        view.session.keys = (handshake, keys, .ok ()))
      (hfresh : view.session.keysReady = false) :
      Move sodium admits view
        { view with
          session := { view.session with handshake, keys, keysReady := true }
          log := view.log ++ [.handshakeAccepted
            (view.session.handshake.role.getD .initiator)
            view.session.handshake.remoteIdentityPk
            view.session.handshake.sessionId message keys] }
  | openPush {view : View} (push : Bytes 52) :
      Move sodium admits view
        { view with
          session :=
            { view.session with
              stream :=
                { view.session.stream with push, pushInitialized := true }
              headerSent := true } }
  | openPull {view : View} {header : Bytes 24} {pull : Bytes 52}
      (hpull : sodium.secretstreamInitPull header view.session.keys.rx =
        some pull)
      (hkeys : view.session.keysReady = true) :
      Move sodium admits view
        { view with
          session :=
            { view.session with
              stream :=
                { view.session.stream with pull, pullInitialized := true }
              headerReceived := true } }
  | establish {view : View} (hactive : view.session.active = true)
      (hready : view.session.ready = false)
      (hkeys : view.session.keysReady = true)
      (hsent : view.session.headerSent = true)
      (hreceived : view.session.headerReceived = true) :
      Move sodium admits view
        { view with
          state := .secure
          session := { view.session with ready := true } }
  | encrypt {view : View} (push : Bytes 52) (text : List UInt8)
      (hclient : view.client ≠ none)
      (hready : view.session.ready = true)
      (hstate : view.state = .secure ∨ view.state = .closing) :
      Move sodium admits view
        { view with
          session :=
            { view.session with stream := { view.session.stream with push } }
          log := view.log ++
            [.encrypted view.client view.session.peer .message text] }
  | decrypt {view : View} {pull : Bytes 52} {ciphertext plaintext : List UInt8}
      {tag : UInt8} (type : ChatPacketType)
      (hpull : sodium.secretstreamPull view.session.stream.pull ciphertext =
        some (plaintext, tag, pull))
      (hready : view.session.ready = true)
      (hstate : view.state = .secure) :
      Move sodium admits view
        { view with
          session :=
            { view.session with stream := { view.session.stream with pull } }
          log := view.log ++
            [.decrypted view.session.peer
              view.session.handshake.remoteIdentityPk view.session.keys type
              plaintext] }
  | deliver {view : View} {plaintext : List UInt8} {pk : Bytes 32}
      {keys : ChatCryptoSessionKeys} (fd : ℕ) (opened : Option Str)
      (delivered : Bool)
      (hdecrypted : Effect.decrypted view.session.peer pk keys .message
        plaintext ∈ view.log) :
      Move sodium admits view
        { view with
          log := view.log ++ [.ipcLine fd opened
            (.message view.session.peer (printableText plaintext)) delivered] }

abbrev Moves (sodium : Sodium) (admits : Admission) : View → View → Prop :=
  Relation.ReflTransGen (Move sodium admits)

end ProntoChat.Daemon
