import ProntoChat.Daemon.State

/-!
# Life cycle of a chat session

Starting, retrying and failing a session, and the exchange of the ICE session
descriptions over the control connection.
-/

namespace ProntoChat.Daemon

open ProntoChat.QuotedText
open ProntoChat.Protocole
open ProntoChat.Json
open ProntoChat.Crypto
open ProntoChat.Ice

/-- `retry_outgoing_chat_session`; `none` stands for the result `-1`, which
leaves the state alone. -/
def retryOutgoingChatSession (env : Env) (state : ChatdState) :
    Option ChatdState :=
  if state.lookupClientFd = none ∨ state.lookupPeer = [] ∨
      state.controlWsi = false ∨ state.session.encryptedSessionReady = true ∨
      chatdIceRetryMax ≤ state.chatRetryCount ∨
      usernameSize ≤ state.lookupPeer.length then none
  else
    let peer := state.lookupPeer
    let state := { state with chatRetryCount := state.chatRetryCount + 1 }
    let state := (resetIceSession state).setSessionState .requesting
    match queueChatRequest env state peer with
    | (state, true) => some state
    | (state, false) =>
        some (writeLookupResponse env state (.error (bytes "chat_retry_failed")))

/-- The report of `fail_chat_session` to the attached client. -/
def reportFailedSession (env : Env) (state : ChatdState) : ChatdState :=
  let failure := IpcLine.error (bytes "session_failed")
  match state.lookupClientFd with
  | none => state
  | some fd =>
      if state.session.encryptedSessionReady then
        closeLookupClient (writeIpcLine env state fd failure).1
      else if state.session.icePeer ≠ [] then
        writeLookupResponse env state (.iceFailed state.session.icePeer)
      else if state.lookupPeer ≠ [] then
        writeLookupResponse env state (.iceFailed state.lookupPeer)
      else closeLookupClient (writeIpcLine env state fd failure).1

def failChatSession (env : Env) (state : ChatdState) : ChatdState :=
  match retryOutgoingChatSession env state with
  | some state => state
  | none =>
      resetIceSession (reportFailedSession env (state.setSessionState .failed))

/-- The session fields that `begin_ice_session` sets before it starts ICE. -/
def preparedSession (peer sessionId : Str) (controlling : Bool)
    (remoteIdentityPk : Bytes 32) : ChatdSession where
  icePeer := peer
  iceSessionId := sessionId
  remoteIdentityPk
  hasRemoteIdentityPk := true
  cryptoRole := some (if controlling then .initiator else .responder)
  iceControlling := controlling

def beginIceSession (env : Env) (state : ChatdState) (peer sessionId : Str)
    (controlling : Bool) (remoteIdentityPk : Bytes 32) : Outcome :=
  let state := (resetIceSession state).setSessionState .iceNegotiating
  if usernameSize ≤ peer.length then
    (failChatSession env (state.setSession
      { icePeer := peer.take chatUsernameMaxLen }), false)
  else if chatdSessionIdHexLen ≤ sessionId.length then
    (failChatSession env (state.setSession
      { icePeer := peer
        iceSessionId := sessionId.take (chatdSessionIdHexLen - 1) }), false)
  else
    let session := preparedSession peer sessionId controlling remoteIdentityPk
    match chatIceSessionStart env.iceStart with
    | (ice, .error _) =>
        (failChatSession env (state.setSession { session with ice }), false)
    | (ice, .ok _) =>
        let iceDeadlineAt := env.now + chatdIceTimeoutSeconds
        (state.setSession { session with ice, iceActive := true, iceDeadlineAt },
          true)

/-! ## Session descriptions -/

/-- `sodium_base64_encoded_len` without padding, the terminating NUL
included. -/
def base64EncodedLen (size : ℕ) : ℕ :=
  size / 3 * 4 + (if size % 3 = 0 then 0 else size % 3 + 1) + 1

def encodedSdpSize : ℕ := base64EncodedLen chatdIceSdpMax

def base64EncodeSdp (sodium : Sodium) (sdp : Str) : Option Str :=
  if chatdIceSdpMax < sdp.length ∨
      encodedSdpSize < base64EncodedLen sdp.length then none
  else some (sodium.bin2base64 sdp)

def base64DecodeSdp (sodium : Sodium) (encoded : Str) : Option Str :=
  match sodium.base642bin encoded with
  | none => none
  | some decoded =>
      if chatdIceSdpMax < decoded.length ∨ decoded.length = 0 then none
      else some (cString decoded)

def applyRemoteIceSdp (env : Env) (state : ChatdState) (sdp : Str) : Outcome :=
  match chatIceSessionSetRemoteSdp state.session.ice (env.parseRemoteSdp sdp) with
  | .error _ =>
      (state.setSession
        { state.session with ice := { state.session.ice with failed := true } },
        false)
  | .ok ice => (state.setSession { state.session with ice }, true)

def queueLocalIceSdp (sodium : Sodium) (env : Env) (state : ChatdState) :
    Outcome :=
  match chatIceSessionGenerateLocalSdp state.session.ice env.localSdp with
  | .error _ => (state, false)
  | .ok sdp =>
      match base64EncodeSdp sodium sdp with
      | none => (state, false)
      | some encoded =>
          match queueFormatted state chatdMaxJsonSize
              (iceCredentialsJson state.identity.username state.session.icePeer
                state.session.iceSessionId encoded) with
          | (state, false) => (state, false)
          | (state, true) =>
              (state.setSession { state.session with iceLocalSdpSent := true },
                true)

/-- The description in an `ice_credentials` message for the running session. -/
def acceptedIceCredentials (sodium : Sodium) (state : ChatdState) (json : Str) :
    Option Str :=
  match jsonGetString json .from usernameSize, jsonGetString json .to usernameSize,
      jsonGetString json .sessionId chatdSessionIdHexLen,
      jsonGetString json .sdp encodedSdpSize with
  | some sender, some receiver, some sessionId, some encoded =>
      if state.session.iceActive = true ∧ sender = state.session.icePeer ∧
          receiver = state.identity.username ∧
          sessionId = state.session.iceSessionId then
        base64DecodeSdp sodium encoded
      else none
  | _, _, _, _ => none

def handleIceCredentials (sodium : Sodium) (env : Env) (state : ChatdState)
    (json : Str) : Outcome :=
  match acceptedIceCredentials sodium state json with
  | none => (state, true)
  | some sdp =>
      if state.session.ice.gatheringDone = false then
        (state.setSession
          { state.session with
            pendingRemoteIceSdp := sdp
            hasPendingRemoteIceSdp := true }, true)
      else applyRemoteIceSdp env state sdp

end ProntoChat.Daemon
