import ProntoChat.Common.Contacts
import ProntoChat.Common.Crypto
import ProntoChat.Daemon.Ice

/-!
# State of the daemon

`ChatdState` follows `chatd_state_t`.  The fields that `reset_ice_session`
clears are grouped in `ChatdSession`, so that a reset assigns the default
session.  Three fields are not stored by the program: the outgoing datagrams
and control frames that the network has not yet carried, and a log of the
externally visible effects in the order in which they happen.  One ghost field
remembers the peer named by the `OPEN_CHAT` command that attached the current
client.
-/

namespace ProntoChat.Daemon

open ProntoChat.QuotedText
open ProntoChat.Protocole
open ProntoChat.Json
open ProntoChat.Contacts
open ProntoChat.Crypto
open ProntoChat.Ice

inductive ChatdPhase where
  | register
  | hello
  | authResponse
  | online
  | failed
  deriving DecidableEq, Repr

inductive ChatdSessionState where
  | idle
  | lookup
  | requesting
  | iceNegotiating
  | iceConnected
  | cryptoHandshake
  | secure
  | closing
  | closed
  | failed
  deriving DecidableEq, Repr

def chatdMaxJsonSize : ℕ := 4096
def chatdReconnectSeconds : ℕ := 1
def chatdHexPublicKeyLen : ℕ := 65
def chatdHexChallengeLen : ℕ := 65
def chatdSessionIdHexLen : ℕ := 33
def chatdIceTimeoutSeconds : ℕ := 30
def chatdCryptoTimeoutSeconds : ℕ := 30
def chatdIceRetryMax : ℕ := 3
def chatdIceSdpMax : ℕ := 2048
def chatdIcePacketMax : ℕ := chatIceRecvMax
def chatIpcMaxCommand : ℕ := 4096
def chatIpcMaxResponse : ℕ := 4096

/-- `CHAT_IPC_MAX_COMMAND - sizeof("SEND_MESSAGE \n")`. -/
def chatdChatTextMax : ℕ := chatIpcMaxCommand - 15

/-- Size of a buffer that holds a username. -/
def usernameSize : ℕ := chatUsernameMaxLen + 1

/-- The part of the daemon state that belongs to one chat session. -/
structure ChatdSession where
  icePeer : Str := []
  iceSessionId : Str := []
  ice : ChatIceSession := {}
  iceActive : Bool := false
  iceControlling : Bool := false
  iceLocalSdpSent : Bool := false
  iceCliNotified : Bool := false
  iceSelectedPairIsRelayed : Bool := false
  iceDeadlineAt : ℕ := 0
  pendingRemoteIceSdp : Str := []
  hasPendingRemoteIceSdp : Bool := false
  remoteIdentityPk : Bytes 32 := zeroBytes 32
  hasRemoteIdentityPk : Bool := false
  cryptoRole : Option ChatCryptoRole := none
  cryptoHandshake : ChatCryptoHandshake := {}
  cryptoKeys : ChatCryptoSessionKeys := {}
  cryptoStream : ChatCryptoSecretstream := {}
  cryptoLocalHandshakeMessage : Bytes 96 := zeroBytes 96
  cryptoLocalStreamHeader : Bytes 24 := zeroBytes 24
  cryptoDeadlineAt : ℕ := 0
  cryptoHandshakeSent : Bool := false
  cryptoNextHandshakeAt : ℕ := 0
  cryptoKeysReady : Bool := false
  cryptoStreamHeaderSent : Bool := false
  cryptoNextStreamHeaderAt : ℕ := 0
  cryptoStreamHeaderReceived : Bool := false
  encryptedSessionReady : Bool := false

/-- A line that the daemon writes to a command-line client. -/
inductive IpcLine where
  | error (code : Str)
  | userOffline (username : Str)
  | userOnline (username : Str)
  | iceFailed (username : Str)
  | identityMismatch (username : Str)
  | encryptedSession (peer : Str) (relayed : Bool)
  | message (peer text : Str)
  | chatClosed (peer : Str)
  | status (word username : Str)
  deriving DecidableEq

def IpcLine.render : IpcLine → Str
  | .error code => bytes "ERROR " ++ code ++ [newline]
  | .userOffline username => bytes "USER_OFFLINE " ++ username ++ [newline]
  | .userOnline username => bytes "USER_ONLINE " ++ username ++ [newline]
  | .iceFailed username => bytes "ICE_FAILED " ++ username ++ [newline]
  | .identityMismatch username =>
      bytes "IDENTITY_MISMATCH " ++ username ++ [newline]
  | .encryptedSession peer relayed =>
      bytes "ENCRYPTED_SESSION " ++ peer ++
        (if relayed then bytes " relay" else bytes " direct") ++ [newline]
  | .message peer text =>
      bytes "MESSAGE " ++ peer ++ bytes " " ++ text ++ [newline]
  | .chatClosed peer => bytes "CHAT_CLOSED " ++ peer ++ [newline]
  | .status word username => word ++ bytes " " ++ username ++ [newline]

/-- An externally visible effect of the daemon. -/
inductive Effect where
  /-- A line written to an IPC client.  `opened` is the peer named by the
  command that attached this client, for the attached client. -/
  | ipcLine (fd : ℕ) (opened : Option Str) (line : IpcLine) (delivered : Bool)
  | ipcClosed (fd : ℕ)
  /-- A datagram handed to libnice. -/
  | packetSent (packet : List UInt8) (accepted : Bool)
  /-- A payload encrypted for the current session. -/
  | encrypted (opened : Option Str) (peer : Str) (type : ChatPacketType)
      (plaintext : List UInt8)
  /-- A payload decrypted under the keys of the current session. -/
  | decrypted (peer : Str) (identityPk : Bytes 32)
      (keys : ChatCryptoSessionKeys) (type : ChatPacketType)
      (plaintext : List UInt8)
  /-- The result of `handle_ice_app_packet`. -/
  | packetHandled (ok : Bool)
  | challengeSigned (challenge : Bytes 32)
  | handshakeSigned (role : ChatCryptoRole) (remoteIdentityPk : Bytes 32)
      (sessionId : Str) (kxPk : Bytes 32)
  | handshakeAccepted (role : ChatCryptoRole) (remoteIdentityPk : Bytes 32)
      (sessionId : Str) (message : Bytes 96) (keys : ChatCryptoSessionKeys)
  deriving DecidableEq

structure ChatdState where
  identity : ChatIdentity
  phase : ChatdPhase := .register
  sessionState : ChatdSessionState := .idle
  challenge : Bytes 32 := zeroBytes 32
  hasChallenge : Bool := false
  connected : Bool := false
  controlWsi : Bool := false
  shouldReconnect : Bool := false
  nextReconnectAt : ℕ := 0
  pendingIpcClientFd : Option ℕ := none
  pendingIpcDeadlineAt : ℕ := 0
  lookupClientFd : Option ℕ := none
  lookupPeer : Str := []
  chatRetryCount : ℕ := 0
  session : ChatdSession := {}
  /-- The queued control message; empty while `pending_len` is zero. -/
  pending : Str := []
  /-- The contacts file of this account. -/
  contacts : ContactsDb := none
  /-- Ghost: the peer named by the command that attached the client. -/
  openedPeer : Str := []
  /-- Datagrams accepted by libnice that have not arrived yet. -/
  datagrams : List (List UInt8) := []
  /-- Control messages written to the server that have not arrived yet. -/
  frames : List Str := []
  log : List Effect := []

/-- Outcomes of library and system calls during one step.  Sends and writes
are numbered by the length of the log when they happen. -/
structure Env where
  now : ℕ
  sessionIdBytes : Bytes 16
  kxSecretKey : Option (Bytes 32)
  streamHeader : Option (Bytes 24)
  iceStart : Except ChatIceError Unit
  localSdp : Option Str
  parseRemoteSdp : Str → ℤ
  iceSend : ℕ → Bool
  ipcWrite : ℕ → Bool
  contactsIo : ContactsIo

/-- State after a call, and whether the C function returned zero. -/
abbrev Outcome := ChatdState × Bool

namespace ChatdState

def emit (state : ChatdState) (effect : Effect) : ChatdState :=
  { state with log := state.log ++ [effect] }

/-- `chatd_set_session_state`. -/
def setSessionState (state : ChatdState) (next : ChatdSessionState) :
    ChatdState :=
  { state with sessionState := next }

def setSession (state : ChatdState) (session : ChatdSession) : ChatdState :=
  { state with session }

def setContacts (state : ChatdState) (contacts : ContactsDb) : ChatdState :=
  { state with contacts }

end ChatdState

/-! ## Lines to IPC clients -/

/-- `write_ipc_line` to an open descriptor. -/
def writeIpcLine (env : Env) (state : ChatdState) (fd : ℕ) (line : IpcLine) :
    Outcome :=
  let opened :=
    if state.lookupClientFd = some fd then some state.openedPeer else none
  let delivered := env.ipcWrite state.log.length
  (state.emit (.ipcLine fd opened line delivered), delivered)

/-- A line to the attached client carries the peer that the client named. -/
theorem writeIpcLine_attached (env : Env) {state : ChatdState} {fd : ℕ}
    (line : IpcLine) (hclient : state.lookupClientFd = some fd) :
    (writeIpcLine env state fd line).1 =
      state.emit (.ipcLine fd (some state.openedPeer) line
        (env.ipcWrite state.log.length)) := by
  simp only [writeIpcLine, if_pos hclient]

/-- A line built with `snprintf` in a response buffer and then written. -/
def writeIpcResponse (env : Env) (state : ChatdState) (fd : ℕ)
    (line : IpcLine) : ChatdState :=
  { state with
    log :=
      if line.render.length < chatIpcMaxResponse then
        (writeIpcLine env state fd line).1.log
      else state.log }

def closeLookupClient (state : ChatdState) : ChatdState :=
  { state with
    lookupClientFd := none
    lookupPeer := []
    chatRetryCount := 0
    log := state.log ++ state.lookupClientFd.toList.map Effect.ipcClosed }

/-- `write_lookup_response`: one line to the attached client, which is then
closed. -/
def writeLookupResponse (env : Env) (state : ChatdState) (line : IpcLine) :
    ChatdState :=
  match state.lookupClientFd with
  | none => state
  | some fd => closeLookupClient (writeIpcResponse env state fd line)

@[simp]
theorem writeLookupResponse_session (env : Env) (state : ChatdState)
    (line : IpcLine) :
    (writeLookupResponse env state line).session = state.session := by
  unfold writeLookupResponse
  split <;> rfl

@[simp]
theorem writeLookupResponse_sessionState (env : Env) (state : ChatdState)
    (line : IpcLine) :
    (writeLookupResponse env state line).sessionState = state.sessionState := by
  unfold writeLookupResponse
  split <;> rfl

/-- `reset_ice_session`. -/
def resetIceSession (state : ChatdState) : ChatdState :=
  state.setSession {}

/-! ## Control messages -/

def hasPendingControlMessage (state : ChatdState) : Bool :=
  state.pending ≠ []

def queueJson (state : ChatdState) (json : Str) : Outcome :=
  if chatdMaxJsonSize ≤ json.length then ({ state with phase := .failed }, false)
  else if state.pending ≠ [] then (state, false)
  else ({ state with pending := json }, true)

/-- `snprintf` into a buffer of `size` bytes, then `queue_json`. -/
def queueFormatted (state : ChatdState) (size : ℕ) (json : Str) : Outcome :=
  if size ≤ json.length then (state, false) else queueJson state json

/-- A message is queued only into the empty slot. -/
theorem queueFormatted_ok {state next : ChatdState} {size : ℕ} {json : Str}
    (hqueue : queueFormatted state size json = (next, true)) :
    state.pending = [] ∧ json.length < size ∧
      next = { state with pending := json } := by
  unfold queueFormatted queueJson at hqueue
  split_ifs at hqueue with hsize hlong hpending
  · simp at hqueue
  · simp at hqueue
  · simp at hqueue
  · simp only [Prod.mk.injEq, and_true] at hqueue
    exact ⟨not_not.mp hpending, Nat.lt_of_not_le hsize, hqueue.symm⟩

theorem queueFormatted_of_lt {state : ChatdState} {size : ℕ} {json : Str}
    (hempty : state.pending = []) (hlength : json.length < size)
    (hsize : size ≤ chatdMaxJsonSize) :
    queueFormatted state size json = ({ state with pending := json }, true) := by
  unfold queueFormatted queueJson
  rw [if_neg (by omega), if_neg (by omega), if_neg (by simp [hempty])]

def registerJson (identity : ChatIdentity) : Str :=
  object [(JsonKey.type.name, ControlType.register.name),
    (JsonKey.username.name, identity.username),
    (JsonKey.publicKey.name, sodiumBin2hex identity.publicKey)]

def queueRegister (state : ChatdState) : Outcome :=
  queueFormatted state 512 (registerJson state.identity)

def helloJson (username : Str) : Str :=
  object [(JsonKey.type.name, ControlType.hello.name), (JsonKey.username.name, username)]

def queueHello (state : ChatdState) : Outcome :=
  queueFormatted state 128 (helloJson state.identity.username)

def authResponseJson (signature : Bytes 64) : Str :=
  object [(JsonKey.type.name, ControlType.authResponse.name),
    (JsonKey.signature.name, sodiumBin2hex signature)]

/-- `queue_auth_response`: the challenge itself is the signed message. -/
def queueAuthResponse (sodium : Sodium) (state : ChatdState) : Outcome :=
  let signature :=
    sodium.signDetached state.challenge.toList state.identity.secretKey
  queueFormatted (state.emit (.challengeSigned state.challenge)) 256
    (authResponseJson signature)

/-- The signalling messages of type `type` that carry an account key. -/
def offerJson (type : ControlType) (identity : ChatIdentity)
    (peer sessionId : Str) : Str :=
  object [(JsonKey.type.name, type.name), (JsonKey.from.name, identity.username),
    (JsonKey.to.name, peer), (JsonKey.sessionId.name, sessionId),
    (JsonKey.publicKey.name, sodiumBin2hex identity.publicKey)]

def queueChatAccept (state : ChatdState) (peer sessionId : Str) : Outcome :=
  queueFormatted state 512
    (offerJson .chatAccept state.identity peer sessionId)

/-- `queue_chat_request` with `state->ice_session_id` as output buffer: the new
identifier is stored even when the message cannot be queued. -/
def queueChatRequest (env : Env) (state : ChatdState) (peer : Str) : Outcome :=
  let sessionId := sodiumBin2hex env.sessionIdBytes
  queueFormatted
    (state.setSession { state.session with iceSessionId := sessionId }) 512
    (offerJson .chatRequest state.identity peer sessionId)

def chatCancelJson (username peer sessionId : Str) : Str :=
  object [(JsonKey.type.name, ControlType.chatCancel.name),
    (JsonKey.from.name, username), (JsonKey.to.name, peer),
    (JsonKey.sessionId.name, sessionId)]

def queueChatCancel (state : ChatdState) (peer sessionId : Str) : Outcome :=
  queueFormatted state 384
    (chatCancelJson state.identity.username peer sessionId)

def iceCredentialsJson (username peer sessionId sdp : Str) : Str :=
  object [(JsonKey.type.name, ControlType.iceCredentials.name),
    (JsonKey.from.name, username), (JsonKey.to.name, peer),
    (JsonKey.sessionId.name, sessionId), (JsonKey.sdp.name, sdp)]

end ProntoChat.Daemon
