import ProntoChat.Common.Sodium
import ProntoChat.Core.Transition
import ProntoChat.Server.Users

/-!
# The control server

Sessions of the WebSocket connections, the handlers of their messages and the
callbacks of libwebsockets.  A connection is named by a number while it is
open; its session data is freed with it, and a number may be used again.
-/

namespace ProntoChat.Server

open ProntoChat.QuotedText
open ProntoChat.Protocole
open ProntoChat.Json

def chatServerMaxJsonSize : ℕ := 4096
def chatServerHexPublicKeyLen : ℕ := 65
def chatServerHexSignatureLen : ℕ := 129
def chatServerSessionIdMax : ℕ := 128

/-- Size of a buffer that holds a username. -/
def usernameSize : ℕ := chatUsernameMaxLen + 1

/-- The codes of the error replies. -/
inductive ErrorCode where
  | badRegister
  | users (result : ChatServerUsersResult)
  | badHello
  | unknownUser
  | authNotStarted
  | badAuthResponse
  | authenticationFailed
  | authenticationRequired
  | badSignalingMessage
  | fromMismatch
  | badPublicKey
  | publicKeyMismatch
  | peerOffline
  | peerBusy
  | badLookup
  | missingType
  | unknownType
  | messageTooLargeOrFragmented
  deriving DecidableEq, Repr

def ErrorCode.text : ErrorCode → Str
  | .badRegister => bytes "bad_register"
  | .users result => result.name
  | .badHello => bytes "bad_hello"
  | .unknownUser => bytes "unknown_user"
  | .authNotStarted => bytes "auth_not_started"
  | .badAuthResponse => bytes "bad_auth_response"
  | .authenticationFailed => bytes "authentication_failed"
  | .authenticationRequired => bytes "authentication_required"
  | .badSignalingMessage => bytes "bad_signaling_message"
  | .fromMismatch => bytes "from_mismatch"
  | .badPublicKey => bytes "bad_public_key"
  | .publicKeyMismatch => bytes "public_key_mismatch"
  | .peerOffline => bytes "peer_offline"
  | .peerBusy => bytes "peer_busy"
  | .badLookup => bytes "bad_lookup"
  | .missingType => bytes "missing_type"
  | .unknownType => bytes "unknown_type"
  | .messageTooLargeOrFragmented => bytes "message_too_large_or_fragmented"

/-- The data of one connection. -/
structure ChatServerSession where
  username : Str := []
  challenge : Bytes 32 := zeroBytes 32
  hasChallenge : Bool := false
  authenticated : Bool := false
  /-- The queued message; empty while `pending_len` is zero. -/
  pending : Str := []
  deriving DecidableEq

/-- A message for another user. -/
inductive ServerEffect where
  /-- The message was placed in the buffer of a session; `session` is the
  session at that moment. -/
  | relayed (receiver : Str) (wsi : ℕ) (session : ChatServerSession)
      (json : Str)
  /-- The session of the receiver was freed before. -/
  | dangling (receiver : Str) (wsi : ℕ)
  deriving DecidableEq

structure ChatServerState where
  users : ChatServerUsers := chatServerUsersInit
  /-- The open connections. -/
  sessions : ℕ → Option ChatServerSession := fun _ => none
  /-- Messages written to a connection, in order. -/
  written : ℕ → List Str := fun _ => []
  log : List ServerEffect := []

/-- State after a callback, and whether it returned zero. -/
abbrev Outcome := ChatServerState × Bool

namespace ChatServerState

def setSession (state : ChatServerState) (wsi : ℕ)
    (session : ChatServerSession) : ChatServerState :=
  { state with sessions := Function.update state.sessions wsi (some session) }

def setUsers (state : ChatServerState) (users : ChatServerUsers) :
    ChatServerState :=
  { state with users }

def emit (state : ChatServerState) (effect : ServerEffect) : ChatServerState :=
  { state with log := state.log ++ [effect] }

end ChatServerState

/-! ## Replies -/

/-- `send_json`: the buffer of the session is overwritten. -/
def sendJson (state : ChatServerState) (wsi : ℕ) (session : ChatServerSession)
    (json : Str) : Outcome :=
  if chatServerMaxJsonSize ≤ json.length then (state, false)
  else (state.setSession wsi { session with pending := json }, true)

/-- `snprintf` into a buffer of `size` bytes, then `send_json`. -/
def sendFormatted (state : ChatServerState) (wsi : ℕ)
    (session : ChatServerSession) (size : ℕ) (json : Str) : Outcome :=
  if size ≤ json.length then (state, false) else sendJson state wsi session json

def errorJson (code : Str) : Str :=
  object [(JsonKey.type.name, ControlType.error.name), (JsonKey.code.name, code)]

def sendError (state : ChatServerState) (wsi : ℕ) (session : ChatServerSession)
    (code : ErrorCode) : Outcome :=
  sendFormatted state wsi session 256 (errorJson code.text)

/-! ## Handlers -/

/-- The username and key of a well-formed `register` message. -/
def parseRegister (json : Str) : Option (Str × Bytes 32) :=
  match jsonGetString json .username usernameSize,
      jsonGetString json .publicKey chatServerHexPublicKeyLen with
  | some username, some publicKeyHex =>
      if chatUsernameIsValid username = true then
        (hexToBin 32 publicKeyHex).map fun publicKey => (username, publicKey)
      else none
  | _, _ => none

def registerOkJson : Str :=
  object [(JsonKey.type.name, ControlType.registerOk.name)]

def handleRegister (state : ChatServerState) (wsi : ℕ)
    (session : ChatServerSession) (json : Str) : Outcome :=
  match parseRegister json with
  | none => sendError state wsi session .badRegister
  | some (username, publicKey) =>
      match chatServerUsersRegister state.users username publicKey with
      | (users, .ok) => sendJson (state.setUsers users) wsi session registerOkJson
      | (users, result) =>
          sendError (state.setUsers users) wsi session (.users result)

/-- The username in a `hello` message. -/
def parseHello (json : Str) : Option Str :=
  (jsonGetString json .username usernameSize).filter chatUsernameIsValid

def authChallengeJson (challenge : Bytes 32) : Str :=
  object [(JsonKey.type.name, ControlType.authChallenge.name),
    (JsonKey.challenge.name, sodiumBin2hex challenge)]

/-- `handle_hello`; `challenge` is drawn by `randombytes_buf`. -/
def handleHello (state : ChatServerState) (wsi : ℕ)
    (session : ChatServerSession) (json : Str) (challenge : Bytes 32) : Outcome :=
  match parseHello json with
  | none => sendError state wsi session .badHello
  | some username =>
      match chatServerUsersFind state.users username with
      | none => sendError state wsi session .unknownUser
      | some _ =>
          let session :=
            { session with
              challenge
              hasChallenge := true
              authenticated := false
              username }
          sendFormatted (state.setSession wsi session) wsi session 192
            (authChallengeJson challenge)

def authOkJson : Str := object [(JsonKey.type.name, ControlType.authOk.name)]

def parseAuthResponse (json : Str) : Option (Bytes 64) :=
  (jsonGetString json .signature chatServerHexSignatureLen).bind (hexToBin 64)

def handleAuthResponse (sodium : Sodium) (state : ChatServerState) (wsi : ℕ)
    (session : ChatServerSession) (json : Str) : Outcome :=
  if session.hasChallenge = false ∨ session.username = [] then
    sendError state wsi session .authNotStarted
  else
    match parseAuthResponse json with
    | none => sendError state wsi session .badAuthResponse
    | some signature =>
        match chatServerUsersFind state.users session.username with
        | none => sendError state wsi session .unknownUser
        | some user =>
            if sodium.signVerifyDetached signature session.challenge.toList
                user.identityPk = false then
              sendError state wsi session .authenticationFailed
            else
              let session :=
                { session with
                  challenge := zeroBytes 32
                  hasChallenge := false
                  authenticated := true }
              match chatServerUsersSetOnline state.users session.username wsi with
              | (users, .ok) =>
                  sendJson ((state.setUsers users).setSession wsi session) wsi
                    session authOkJson
              | (users, result) =>
                  let session := { session with authenticated := false }
                  sendError ((state.setUsers users).setSession wsi session) wsi
                    session (.users result)

/-- `signaling_type_is_supported`. -/
def signalingTypeIsSupported : ControlType → Bool
  | .chatRequest | .chatAccept | .chatReject | .iceCredentials | .iceCandidate
  | .iceDone | .iceGatheringDone | .chatEnd | .chatCancel => true
  | _ => false

/-- The sender and the receiver of a well-formed signalling message. -/
def parseSignaling (json : Str) : Option (Str × Str) :=
  match jsonGetString json .from usernameSize, jsonGetString json .to usernameSize,
      jsonGetString json .sessionId chatServerSessionIdMax with
  | some sender, some receiver, some sessionId =>
      if chatUsernameIsValid sender = true ∧
          chatUsernameIsValid receiver = true ∧ sessionId ≠ [] then
        some (sender, receiver)
      else none
  | _, _, _ => none

/-- Check the key in a `chat_request` or `chat_accept` message. -/
def checkPublicKey (type : ControlType) (json : Str)
    (sender : ChatServerUser) : Except ErrorCode Unit :=
  if type = .chatRequest ∨ type = .chatAccept then
    match (jsonGetString json .publicKey chatServerHexPublicKeyLen).bind
        (hexToBin 32) with
    | none => .error .badPublicKey
    | some publicKey =>
        if publicKey = sender.identityPk then .ok () else .error .publicKeyMismatch
  else .ok ()

/-- The checks of `handle_signaling_forward` before it looks up the receiver,
whose name they return. -/
def checkSignaling (state : ChatServerState) (session : ChatServerSession)
    (json : Str) (type : ControlType) : Except ErrorCode Str :=
  if session.authenticated = false then .error .authenticationRequired
  else
    match parseSignaling json with
    | none => .error .badSignalingMessage
    | some (sender, receiver) =>
        if sender ≠ session.username then .error .fromMismatch
        else
          match chatServerUsersFind state.users sender with
          | none => .error .unknownUser
          | some user =>
              match checkPublicKey type json user with
              | .error code => .error code
              | .ok _ => .ok receiver

/-- The connection of a user that can be reached. -/
def onlineTarget (state : ChatServerState) (receiver : Str) : Option (ℕ × ℕ) :=
  match chatServerUsersFind state.users receiver with
  | none => none
  | some target =>
      match target.online, target.wsi, target.session with
      | true, some wsi, some session => some (wsi, session)
      | _, _, _ => none

/-- The last part of `handle_signaling_forward`.  Reading a freed session has no
defined result; the log records it. -/
def forwardTo (state : ChatServerState) (wsi : ℕ) (session : ChatServerSession)
    (receiver json : Str) : Outcome :=
  match onlineTarget state receiver with
  | none => sendError state wsi session .peerOffline
  | some (_, target) =>
      match state.sessions target with
      | none => (state.emit (.dangling receiver target), true)
      | some targetSession =>
          if targetSession.pending ≠ [] then sendError state wsi session .peerBusy
          else
            sendJson (state.emit (.relayed receiver target targetSession json))
              target targetSession json

def handleSignalingForward (state : ChatServerState) (wsi : ℕ)
    (session : ChatServerSession) (json : Str) (type : ControlType) : Outcome :=
  match checkSignaling state session json type with
  | .error code => sendError state wsi session code
  | .ok receiver => forwardTo state wsi session receiver json

/-- A member with a bare value. -/
def bareMember (name value : Str) : Str := quoted name ++ colon :: value

def boolText (value : Bool) : Str :=
  if value then bytes "true" else bytes "false"

def userStatusJson (username : Str) (status : Option ChatServerUser) : Str :=
  let head :=
    openBrace :: member JsonKey.type.name ControlType.userStatus.name ++
      comma :: member JsonKey.username.name username ++
      comma :: bareMember JsonKey.known.name (boolText status.isSome)
  match status with
  | none =>
      head ++ comma :: bareMember JsonKey.online.name (boolText false) ++
        [closeBrace]
  | some user =>
      head ++ comma :: bareMember JsonKey.online.name (boolText user.online) ++
        comma :: member JsonKey.publicKey.name (sodiumBin2hex user.identityPk) ++
        [closeBrace]

def handleUserLookup (state : ChatServerState) (wsi : ℕ)
    (session : ChatServerSession) (json : Str) : Outcome :=
  if session.authenticated = false then
    sendError state wsi session .authenticationRequired
  else
    match parseHello json with
    | none => sendError state wsi session .badLookup
    | some username =>
        let status := chatServerUsersFind state.users username
        sendFormatted state wsi session (if status.isSome then 320 else 160)
          (userStatusJson username status)

def handleMessage (sodium : Sodium) (state : ChatServerState) (wsi : ℕ)
    (session : ChatServerSession) (json : Str) (challenge : Bytes 32) : Outcome :=
  match jsonGetString json .type 32 with
  | none => sendError state wsi session .missingType
  | some name =>
      match ControlType.ofName name with
      | some .register => handleRegister state wsi session json
      | some .hello => handleHello state wsi session json challenge
      | some .authResponse => handleAuthResponse sodium state wsi session json
      | some .userLookup => handleUserLookup state wsi session json
      | some type =>
          if signalingTypeIsSupported type then
            handleSignalingForward state wsi session json type
          else sendError state wsi session .unknownType
      | none => sendError state wsi session .unknownType

/-! ## Callbacks -/

/-- An event of a connection. -/
inductive ServerEvent where
  | established (wsi : ℕ)
  /-- A received message; `whole` tells that it came in one final fragment and
  `challenge` is the next random challenge. -/
  | receive (wsi : ℕ) (payload : List UInt8) (whole : Bool)
      (challenge : Bytes 32)
  /-- The connection can be written; `written` is the outcome of `lws_write`. -/
  | writeable (wsi : ℕ) (written : Bool)
  | closed (wsi : ℕ)
  deriving DecidableEq

def ServerEvent.wsi : ServerEvent → ℕ
  | .established wsi | .receive wsi _ _ _ | .writeable wsi _ | .closed wsi => wsi

/-- The CLOSED callback, after which libwebsockets frees the session. -/
def closeSession (state : ChatServerState) (wsi : ℕ)
    (session : ChatServerSession) : ChatServerState :=
  let users :=
    if session.authenticated then chatServerUsersSetOfflineByWsi state.users wsi
    else state.users
  { state with
    users
    sessions := Function.update state.sessions wsi none }

/-- `callback_chat_control` for an open connection. -/
def callbackChatControl (sodium : Sodium) (state : ChatServerState)
    (session : ChatServerSession) : ServerEvent → Outcome
  | .established _ => (state, true)
  | .receive wsi payload whole challenge =>
      if chatServerMaxJsonSize ≤ payload.length ∨ whole = false then
        sendError state wsi session .messageTooLargeOrFragmented
      else handleMessage sodium state wsi session (cString payload) challenge
  | .writeable wsi written =>
      if session.pending = [] then (state, true)
      else if written = false then (state, false)
      else
        ({ state.setSession wsi { session with pending := [] } with
            written := Function.update state.written wsi
              (state.written wsi ++ [session.pending]) }, true)
  | .closed wsi => (closeSession state wsi session, true)

/-- One event.  A connection is established while its number is free; the other
callbacks run for open connections. -/
def serverStep (sodium : Sodium) (state : ChatServerState) (event : ServerEvent) :
    ChatServerState :=
  match state.sessions event.wsi, event with
  | none, .established wsi => state.setSession wsi {}
  | none, _ => state
  | some session, event => (callbackChatControl sodium state session event).1

end ProntoChat.Server
