import ProntoChat.Daemon.Packets

/-!
# The control connection

Messages from the control server and the events of the WebSocket connection.
-/

namespace ProntoChat.Daemon

open ProntoChat.QuotedText
open ProntoChat.Protocole
open ProntoChat.Json
open ProntoChat.Contacts
open ProntoChat.Crypto

/-- Contents of a `chat_request` or `chat_accept` message. -/
structure ChatOffer where
  sender : Str
  receiver : Str
  sessionId : Str
  identityPk : Bytes 32
  deriving DecidableEq

/-- The fields of an offer, if all can be read. -/
def parseChatOffer (json : Str) : Option ChatOffer :=
  match jsonGetString json .from usernameSize,
      jsonGetString json .to usernameSize,
      jsonGetString json .sessionId chatdSessionIdHexLen,
      jsonGetString json .publicKey chatdHexPublicKeyLen with
  | some sender, some receiver, some sessionId, some publicKeyHex =>
      (hexToBin 32 publicKeyHex).map fun identityPk =>
        ⟨sender, receiver, sessionId, identityPk⟩
  | _, _, _, _ => none

/-- The offer in a `chat_request` that `handle_chat_request` considers. -/
def validChatRequest (state : ChatdState) (json : Str) : Option ChatOffer :=
  match parseChatOffer json with
  | none => none
  | some offer =>
      if offer.receiver = state.identity.username ∧
          chatUsernameIsValid offer.sender = true ∧ offer.sessionId ≠ [] then
        some offer
      else none

/-- The second half of `handle_chat_request`, for a verified sender. -/
def answerChatRequest (env : Env) (state : ChatdState) (offer : ChatOffer) :
    Outcome :=
  match queueChatAccept (state.setSessionState .requesting) offer.sender
      offer.sessionId with
  | (state, false) => (state, false)
  | (state, true) =>
      ((beginIceSession env state offer.sender offer.sessionId false
        offer.identityPk).1, true)

def handleChatRequest (env : Env) (state : ChatdState) (json : Str) : Outcome :=
  match validChatRequest state json with
  | none => (state, true)
  | some offer =>
      let contact :=
        chatContactsVerifyOrPin env.contactsIo state.contacts offer.sender
          offer.identityPk
      let state := state.setContacts contact.db
      if contact.result ≠ .ok then (state, true)
      else answerChatRequest env state offer

/-- The request that `handle_chat_request` answers: its key is pinned and the
answer can be queued. -/
def answeredChatRequest (env : Env) (state : ChatdState) (json : Str) :
    Option ChatOffer :=
  (validChatRequest state json).filter fun offer =>
    decide ((chatContactsVerifyOrPin env.contactsIo state.contacts offer.sender
      offer.identityPk).result = .ok) && decide (state.pending = [])

/-- The offer in a `chat_accept` that answers the request of the attached
client. -/
def matchingChatAccept (state : ChatdState) (json : Str) : Option ChatOffer :=
  match parseChatOffer json with
  | none => none
  | some offer =>
      if state.lookupClientFd ≠ none ∧ offer.sender = state.lookupPeer ∧
          offer.receiver = state.identity.username ∧
          offer.sessionId = state.session.iceSessionId then
        some offer
      else none

/-- The branch of the `chat_accept` handler for a verified peer. -/
def startAcceptedSession (env : Env) (state : ChatdState) (offer : ChatOffer) :
    ChatdState :=
  match beginIceSession env state offer.sender offer.sessionId true
      offer.identityPk with
  | (state, true) => state
  | (state, false) => writeLookupResponse env state (.iceFailed offer.sender)

def handleChatAccept (env : Env) (state : ChatdState) (json : Str) :
    ChatdState :=
  match matchingChatAccept state json with
  | none => state
  | some offer =>
      let contact :=
        chatContactsVerifyOrPin env.contactsIo state.contacts offer.sender
          offer.identityPk
      let state := state.setContacts contact.db
      match contact.result with
      | .mismatch =>
          writeLookupResponse env
            (queueChatCancel state offer.sender offer.sessionId).1
            (.identityMismatch offer.sender)
      | .ok => startAcceptedSession env state offer
      | _ =>
          writeLookupResponse env state
            (.error (bytes "contact_verification_failed"))

/-- A `chat_cancel` message for the running session. -/
def matchingChatCancel (state : ChatdState) (json : Str) : Bool :=
  match jsonGetString json .from usernameSize,
      jsonGetString json .to usernameSize,
      jsonGetString json .sessionId chatdSessionIdHexLen with
  | some sender, some receiver, some sessionId =>
      state.session.iceActive && sender == state.session.icePeer &&
        receiver == state.identity.username &&
        sessionId == state.session.iceSessionId
  | _, _, _ => false

def handleChatCancel (state : ChatdState) (json : Str) : ChatdState :=
  if matchingChatCancel state json then
    (resetIceSession state).setSessionState .closed
  else state

def handleUserStatus (env : Env) (state : ChatdState) (json : Str) :
    ChatdState :=
  match state.lookupClientFd, jsonGetString json .username usernameSize with
  | some _, some username =>
      if username ≠ state.lookupPeer then state
      else if jsonBoolIsTrue json .known = true ∧
          jsonBoolIsTrue json .online = true then
        writeLookupResponse env state (.userOnline username)
      else writeLookupResponse env state (.userOffline username)
  | _, _ => state

/-- The code of an error message, with the default of the daemon. -/
def errorCode (json : Str) : Str :=
  (jsonGetString json .code 128).getD (bytes "unknown")

def handleError (env : Env) (state : ChatdState) (json : Str) : Outcome :=
  let code := errorCode json
  if state.phase = .register ∧ code = bytes "user already exists" then
    queueHello { state with phase := .hello }
  else if state.lookupClientFd ≠ none ∧ code = bytes "peer_offline" then
    (writeLookupResponse env state (.userOffline state.lookupPeer), true)
  else
    ({ writeLookupResponse env state (.error code) with phase := .failed }, false)

def handleAuthChallenge (sodium : Sodium) (state : ChatdState) (json : Str) :
    Outcome :=
  match (jsonGetString json .challenge chatdHexChallengeLen).bind
      (hexToBin 32) with
  | none => ({ state with phase := .failed }, false)
  | some challenge =>
      queueAuthResponse sodium
        { state with
          challenge
          hasChallenge := true
          phase := .authResponse }

/-- `handle_receive`.  Replies of the login count only in their phase, and the
remaining types are ignored. -/
def handleReceive (sodium : Sodium) (env : Env) (state : ChatdState)
    (json : Str) : Outcome :=
  match jsonType json with
  | some .error => handleError env state json
  | some .registerOk =>
      if state.phase = .register then queueHello { state with phase := .hello }
      else (state, true)
  | some .authChallenge =>
      if state.phase = .hello then handleAuthChallenge sodium state json
      else (state, true)
  | some .authOk =>
      if state.phase = .authResponse then
        ({ state with
          challenge := zeroBytes 32
          hasChallenge := false
          phase := .online }, true)
      else (state, true)
  | some .userStatus => (handleUserStatus env state json, true)
  | some .chatRequest => handleChatRequest env state json
  | some .chatAccept => (handleChatAccept env state json, true)
  | some .iceCredentials => handleIceCredentials sodium env state json
  | some .chatCancel => (handleChatCancel state json, true)
  | _ => (state, true)

/-! ## Connection events -/

/-- An event of the control connection. -/
inductive ControlEvent where
  | established
  /-- A received message; `whole` tells that it came in one final fragment. -/
  | receive (payload : List UInt8) (whole : Bool)
  /-- The connection can be written; `written` is the outcome of `lws_write`. -/
  | writeable (written : Bool)
  | connectionError
  | closed
  deriving DecidableEq

/-- The part of the connection loss that both callbacks share. -/
def loseControl (env : Env) (state : ChatdState) (code : Str) : ChatdState :=
  let state :=
    { state with
      controlWsi := false
      connected := false
      shouldReconnect := true
      nextReconnectAt := env.now + chatdReconnectSeconds }
  if state.lookupClientFd ≠ none ∧
      state.session.encryptedSessionReady = false then
    writeLookupResponse env state (.error code)
  else state

def callbackChatdControl (sodium : Sodium) (env : Env) (state : ChatdState) :
    ControlEvent → Outcome
  | .established =>
      queueRegister
        { state with controlWsi := true, connected := true, phase := .register }
  | .receive payload whole =>
      if chatdMaxJsonSize ≤ payload.length ∨ whole = false then
        ({ state with phase := .failed }, false)
      else handleReceive sodium env state (cString payload)
  | .writeable written =>
      if state.pending = [] then (state, true)
      else if written = false then ({ state with phase := .failed }, false)
      else
        ({ state with
          frames := state.frames ++ [state.pending]
          pending := [] }, true)
  | .connectionError =>
      (loseControl env state (bytes "server_unavailable"), true)
  | .closed =>
      let state := loseControl env state (bytes "server_disconnected")
      if state.hasChallenge then
        ({ state with challenge := zeroBytes 32, hasChallenge := false }, true)
      else (state, true)

end ProntoChat.Daemon
