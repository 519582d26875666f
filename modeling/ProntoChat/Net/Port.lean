import ProntoChat.Daemon.Isolation
import ProntoChat.Daemon.Service

/-!
# What the peer of a session depends on

A `Port` keeps the part of a daemon that its peer can notice: the session
without its timers and the bookkeeping of ICE, the datagrams on their way and
the number of refused packets.  Most events leave it alone or end the session.
-/

namespace ProntoChat.Net

open ProntoChat.QuotedText
open ProntoChat.Protocole
open ProntoChat.Json
open ProntoChat.Contacts
open ProntoChat.Crypto
open ProntoChat.Ice
open ProntoChat.Daemon

/-- The session without its deadlines and the bookkeeping of ICE. -/
def wire (session : ChatdSession) : ChatdSession :=
  { session with
    ice :=
      { agent := session.ice.agent
        recvQueue := session.ice.recvQueue }
    iceControlling := false
    iceLocalSdpSent := false
    iceSelectedPairIsRelayed := false
    iceDeadlineAt := 0
    pendingRemoteIceSdp := []
    hasPendingRemoteIceSdp := false
    cryptoDeadlineAt := 0 }

structure Port where
  identity : ChatIdentity
  sessionState : ChatdSessionState
  session : ChatdSession
  datagrams : List (List UInt8)
  /-- The number of packets that `handle_ice_app_packet` refused. -/
  refusals : ℕ

def port (state : ChatdState) : Port where
  identity := state.identity
  sessionState := state.sessionState
  session := wire state.session
  datagrams := state.datagrams
  refusals := state.log.count (.packetHandled false)

/-- The session was discarded; a retry has already chosen an identifier. -/
def Ended (before after : Port) : Prop :=
  ∃ sessionId sessionState, after =
    { before with sessionState, session := { iceSessionId := sessionId } }

/-- Nothing changed for the peer, or the session was discarded. -/
def Kept (before after : Port) : Prop := after = before ∨ Ended before after

theorem ended_inactive {state next : ChatdState}
    (hended : Ended (port state) (port next)) :
    next.session.iceActive = false := by
  obtain ⟨_, _, hport⟩ := hended
  exact congrArg (fun port => port.session.iceActive) hport

/-- Behind the end of a session there is nothing to refuse and nothing to send. -/
theorem Ended.leaves {before after : Port} (hended : Ended before after) :
    after.datagrams = before.datagrams ∧ after.refusals = before.refusals ∧
      after.session.iceActive = false ∧ after.session.encryptedSessionReady = false := by
  obtain ⟨_, _, rfl⟩ := hended
  exact ⟨rfl, rfl, rfl, rfl⟩

/-! ## Lines to clients and control messages -/

@[simp]
theorem port_emit (state : ChatdState) {effect : Effect}
    (heffect : effect ≠ .packetHandled false) :
    port (state.emit effect) = port state := by
  simp [port, ChatdState.emit, heffect]

@[simp]
theorem port_writeIpcLine (env : Env) (state : ChatdState) (fd : ℕ)
    (line : IpcLine) : port (writeIpcLine env state fd line).1 = port state := by
  simp [writeIpcLine]

@[simp]
theorem port_writeIpcResponse (env : Env) (state : ChatdState) (fd : ℕ)
    (line : IpcLine) : port (writeIpcResponse env state fd line) = port state := by
  unfold writeIpcResponse
  split_ifs
  · exact port_writeIpcLine env state fd line
  · rfl

@[simp]
theorem port_closeLookupClient (state : ChatdState) :
    port (closeLookupClient state) = port state := by
  cases hclient : state.lookupClientFd <;>
    simp [port, closeLookupClient, hclient]

@[simp]
theorem port_writeLookupResponse (env : Env) (state : ChatdState)
    (line : IpcLine) :
    port (writeLookupResponse env state line) = port state := by
  unfold writeLookupResponse
  split <;> simp

@[simp]
theorem port_queueFormatted (state : ChatdState) (size : ℕ) (json : Str) :
    port (queueFormatted state size json).1 = port state := by
  unfold queueFormatted queueJson
  split_ifs <;> rfl

theorem port_queueChatRequest (env : Env) (state : ChatdState) (peer : Str) :
    port (queueChatRequest env state peer).1 =
      { port state with
        session := { (port state).session with
          iceSessionId := sodiumBin2hex env.sessionIdBytes } } := by
  rw [queueChatRequest, port_queueFormatted]
  rfl

/-! ## Failures -/

theorem ended_resetIceSession (state : ChatdState) :
    Ended (port state) (port (resetIceSession state)) :=
  ⟨[], state.sessionState, rfl⟩

theorem Ended.setSessionState {before : Port} {state : ChatdState}
    (hended : Ended before (port state)) (next : ChatdSessionState) :
    Ended before (port (state.setSessionState next)) := by
  obtain ⟨sessionId, _, hport⟩ := hended
  refine ⟨sessionId, next, ?_⟩
  exact congrArg (fun port : Port => { port with sessionState := next }) hport

theorem ended_retryOutgoingChatSession {env : Env} {state next : ChatdState}
    (hretry : retryOutgoingChatSession env state = some next) :
    Ended (port state) (port next) := by
  unfold retryOutgoingChatSession at hretry
  split_ifs at hretry
  have hqueue := port_queueChatRequest env
    ((resetIceSession
      { state with chatRetryCount := state.chatRetryCount + 1 }).setSessionState
      .requesting) state.lookupPeer
  simp only at hretry
  split at hretry <;> rename_i queued hqueued <;> rw [hqueued] at hqueue <;>
    obtain rfl := Option.some.inj hretry
  · exact ⟨_, _, hqueue⟩
  · rw [port_writeLookupResponse]
    exact ⟨_, _, hqueue⟩

theorem port_reportFailedSession (env : Env) (state : ChatdState) :
    port (reportFailedSession env state) = port state := by
  unfold reportFailedSession
  split
  · rfl
  · split_ifs <;> simp

theorem ended_failChatSession (env : Env) (state : ChatdState) :
    Ended (port state) (port (failChatSession env state)) := by
  unfold failChatSession
  split
  · rename_i next hretry
    exact ended_retryOutgoingChatSession hretry
  · have hreport := port_reportFailedSession env (state.setSessionState .failed)
    obtain ⟨sessionId, sessionState, hreset⟩ := ended_resetIceSession
      (reportFailedSession env (state.setSessionState .failed))
    rw [hreport] at hreset
    exact ⟨sessionId, sessionState, hreset⟩

@[simp]
theorem port_writeChatMessageToCli (env : Env) (state : ChatdState)
    (plaintext : List UInt8) :
    port (writeChatMessageToCli env state plaintext).1 = port state := by
  unfold writeChatMessageToCli
  split
  · rfl
  · split_ifs
    · rfl
    · exact port_writeIpcLine env state _ _

/-- The close of the peer discards the session. -/
theorem ended_closeChatByPeer (env : Env) (state : ChatdState) :
    Ended (port state) (port (closeChatByPeer env state)) := by
  have hended {reported : ChatdState}
      (hreported : port reported = { port state with sessionState := .closing }) :
      Ended (port state) (port ((resetIceSession reported).setSessionState .closed)) := by
    obtain ⟨sessionId, sessionState, hreset⟩ :=
      (ended_resetIceSession reported).setSessionState .closed
    rw [hreported] at hreset
    exact ⟨sessionId, sessionState, hreset⟩
  unfold closeChatByPeer
  apply hended
  split
  · rfl
  · simp only [port_closeLookupClient, port_writeIpcResponse]
    rfl

/-! ## Sessions that begin -/

/-- The session was replaced by a new one whose ICE agent was started. -/
def Replaced (before after : Port) : Prop :=
  ∃ (peer sessionId : Str) (controlling : Bool) (remotePk : Bytes 32), after =
    { before with
      sessionState := .iceNegotiating
      session := wire
        { preparedSession peer sessionId controlling remotePk with
          ice := { agent := true }
          iceActive := true } }

/-- A session is begun, or the attempt is given up. -/
theorem port_beginIceSession (env : Env) (state : ChatdState)
    (peer sessionId : Str) (controlling : Bool) (remotePk : Bytes 32) :
    let next :=
      (beginIceSession env state peer sessionId controlling remotePk).1
    Ended (port state) (port next) ∨ Replaced (port state) (port next) := by
  have hfail (session : ChatdSession) :
      Ended (port state) (port (failChatSession env
        (((resetIceSession state).setSessionState .iceNegotiating).setSession
          session))) := by
    obtain ⟨sessionId, sessionState, hended⟩ := ended_failChatSession env
      (((resetIceSession state).setSessionState .iceNegotiating).setSession
        session)
    exact ⟨sessionId, sessionState, hended⟩
  unfold beginIceSession chatIceSessionStart
  simp only
  split_ifs
  · exact Or.inl (hfail _)
  · exact Or.inl (hfail _)
  · cases env.iceStart with
    | error failure => exact Or.inl (hfail _)
    | ok started => exact Or.inr ⟨peer, sessionId, controlling, remotePk, rfl⟩

/-- What a control event does to the port: at most the session state changes,
the session ends, or a session begins. -/
def Controlled (before after : Port) : Prop :=
  (∃ sessionState, after = { before with sessionState }) ∨
    Ended before after ∨ Replaced before after

theorem Kept.controlled {before after : Port} (hkept : Kept before after) :
    Controlled before after :=
  hkept.imp (fun heq => ⟨before.sessionState, heq⟩) Or.inl

theorem controlled_handleChatRequest (env : Env) (state : ChatdState)
    (json : Str) :
    Controlled (port state) (port (handleChatRequest env state json).1) := by
  unfold handleChatRequest
  split
  · exact Or.inl ⟨_, rfl⟩
  · rename_i offer _
    simp only
    generalize chatContactsVerifyOrPin env.contactsIo state.contacts offer.sender
      offer.identityPk = contact
    split_ifs
    · exact Or.inl ⟨_, rfl⟩
    · have hqueue : port (queueChatAccept
          ((state.setContacts contact.db).setSessionState .requesting)
          offer.sender offer.sessionId).1 =
            { port state with sessionState := .requesting } :=
        port_queueFormatted _ _ _
      unfold answerChatRequest
      split <;> rename_i queued hqueued <;> rw [hqueued] at hqueue
      · exact Or.inl ⟨.requesting, hqueue⟩
      · right
        have hbegin := port_beginIceSession env queued offer.sender
          offer.sessionId false offer.identityPk
        simp only [hqueue] at hbegin
        exact hbegin

theorem controlled_handleChatAccept (env : Env) (state : ChatdState)
    (json : Str) :
    Controlled (port state) (port (handleChatAccept env state json)) := by
  unfold handleChatAccept
  split
  · exact Or.inl ⟨_, rfl⟩
  · rename_i offer _
    simp only
    generalize chatContactsVerifyOrPin env.contactsIo state.contacts offer.sender
      offer.identityPk = contact
    split
    · rw [port_writeLookupResponse]
      exact Kept.controlled (Or.inl (port_queueFormatted _ _ _))
    · right
      have hbegin := port_beginIceSession env (state.setContacts contact.db)
        offer.sender offer.sessionId true offer.identityPk
      unfold startAcceptedSession
      split <;> rename_i begun hbegun <;> rw [hbegun] at hbegin
      · exact hbegin
      · rw [port_writeLookupResponse]
        exact hbegin
    · exact Kept.controlled (Or.inl (port_writeLookupResponse env _ _))

/-! ## Descriptions of the ICE session -/

@[simp]
theorem port_applyRemoteIceSdp (env : Env) (state : ChatdState) (sdp : Str) :
    port (applyRemoteIceSdp env state sdp).1 = port state := by
  unfold applyRemoteIceSdp chatIceSessionSetRemoteSdp
  split_ifs <;> rfl

theorem port_servicePendingRemoteSdp (env : Env) (state : ChatdState) :
    port (servicePendingRemoteSdp env state).1 = port state := by
  have happly := port_applyRemoteIceSdp env state state.session.pendingRemoteIceSdp
  unfold servicePendingRemoteSdp
  split_ifs
  · split <;> rename_i next hnext <;> rw [hnext] at happly <;> exact happly
  · rfl

theorem port_queueLocalIceSdp (sodium : Sodium) (env : Env)
    (state : ChatdState) :
    port (queueLocalIceSdp sodium env state).1 = port state := by
  unfold queueLocalIceSdp
  split
  · rfl
  · split
    · rfl
    · rename_i encoded _
      have hqueue := port_queueFormatted state chatdMaxJsonSize
        (iceCredentialsJson state.identity.username state.session.icePeer
          state.session.iceSessionId encoded)
      split <;> rename_i next hnext <;> rw [hnext] at hqueue <;> exact hqueue

theorem port_serviceLocalSdp (sodium : Sodium) (env : Env) (state : ChatdState) :
    port (serviceLocalSdp sodium env state).1 = port state := by
  have hqueue := port_queueLocalIceSdp sodium env state
  unfold serviceLocalSdp
  split_ifs
  · split <;> rename_i next hnext <;> rw [hnext] at hqueue <;> exact hqueue
  · rfl

/-! ## Control events -/

/-- A control message by which a daemon begins a session. -/
def startsSession (event : ChatdEvent) : Bool :=
  match event.message with
  | none => false
  | some json =>
      jsonType json = some .chatRequest || jsonType json = some .chatAccept

theorem port_handleIceCredentials (sodium : Sodium) (env : Env)
    (state : ChatdState) (json : Str) :
    port (handleIceCredentials sodium env state json).1 = port state := by
  unfold handleIceCredentials
  split
  · rfl
  · split_ifs
    · rfl
    · exact port_applyRemoteIceSdp env state _

theorem port_handleError (env : Env) (state : ChatdState) (json : Str) :
    port (handleError env state json).1 = port state := by
  unfold handleError
  simp only
  split_ifs
  · exact port_queueFormatted _ _ _
  · exact port_writeLookupResponse env state _
  · exact port_writeLookupResponse env state _

theorem port_handleUserStatus (env : Env) (state : ChatdState) (json : Str) :
    port (handleUserStatus env state json) = port state := by
  unfold handleUserStatus
  split
  · split_ifs <;> simp
  · rfl

theorem port_handleAuthChallenge (sodium : Sodium) (state : ChatdState)
    (json : Str) :
    port (handleAuthChallenge sodium state json).1 = port state := by
  unfold handleAuthChallenge
  split
  · rfl
  · rw [queueAuthResponse, port_queueFormatted]
    exact port_emit _ (by simp)

theorem kept_handleReceive (sodium : Sodium) (env : Env) (state : ChatdState)
    {json : Str} (hrequest : jsonType json ≠ some .chatRequest)
    (haccept : jsonType json ≠ some .chatAccept) :
    Kept (port state) (port (handleReceive sodium env state json).1) := by
  unfold handleReceive
  split
  · exact Or.inl (port_handleError env state json)
  · split_ifs
    · exact Or.inl (port_queueFormatted _ _ _)
    · exact Or.inl rfl
  · split_ifs
    · exact Or.inl (port_handleAuthChallenge sodium state json)
    · exact Or.inl rfl
  · split_ifs <;> exact Or.inl rfl
  · exact Or.inl (port_handleUserStatus env state json)
  · contradiction
  · contradiction
  · exact Or.inl (port_handleIceCredentials sodium env state json)
  · unfold handleChatCancel
    split_ifs
    · exact Or.inr ((ended_resetIceSession state).setSessionState .closed)
    · exact Or.inl rfl
  · exact Or.inl rfl

theorem port_loseControl (env : Env) (state : ChatdState) (code : Str) :
    port (loseControl env state code) = port state := by
  unfold loseControl
  simp only
  split_ifs
  · exact port_writeLookupResponse env _ _
  · rfl

/-- A control event that begins no session leaves the port alone or ends the
session. -/
theorem kept_control (sodium : Sodium) (env : Env) (state : ChatdState)
    {event : ControlEvent} (hstarts : startsSession (.control event) = false) :
    Kept (port state) (port (callbackChatdControl sodium env state event).1) := by
  cases hmessage : event.message with
  | some json =>
      rw [callback_message sodium env state hmessage]
      simp only [startsSession, ChatdEvent.message, hmessage, Bool.or_eq_false_iff,
        decide_eq_false_iff_not] at hstarts
      exact kept_handleReceive sodium env state hstarts.1 hstarts.2
  | none =>
      left
      cases event with
      | established => exact port_queueFormatted _ _ _
      | receive payload whole =>
          simp only [ControlEvent.message] at hmessage
          split_ifs at hmessage with hmalformed
          simp only [callbackChatdControl, if_pos hmalformed]
          rfl
      | writeable written =>
          simp only [callbackChatdControl]
          split_ifs <;> rfl
      | connectionError => exact port_loseControl env state _
      | closed =>
          have hlost := port_loseControl env state (bytes "server_disconnected")
          simp only [callbackChatdControl]
          split_ifs <;> exact hlost

theorem controlled_control (sodium : Sodium) (env : Env) (state : ChatdState)
    (event : ControlEvent) :
    Controlled (port state)
      (port (callbackChatdControl sodium env state event).1) := by
  cases hstarts : startsSession (.control event) with
  | false => exact (kept_control sodium env state hstarts).controlled
  | true =>
      cases hmessage : event.message with
      | none =>
          simp [startsSession, ChatdEvent.message, hmessage] at hstarts
      | some json =>
          rw [callback_message sodium env state hmessage]
          simp only [startsSession, ChatdEvent.message, hmessage,
            Bool.or_eq_true, decide_eq_true_eq] at hstarts
          unfold handleReceive
          rcases hstarts with htype | htype
          · rw [htype]
            exact controlled_handleChatRequest env state json
          · rw [htype]
            exact controlled_handleChatAccept env state json

/-! ## Clients -/

/-- The port behind a command that asks for a new session. -/
def Port.asking (port : Port) (sessionId : Str) : Port :=
  { port with
    sessionState := .requesting
    session := { port.session with iceSessionId := sessionId } }

theorem port_requestSession (env : Env) (fd : ℕ) (state : ChatdState)
    (peer : Str) :
    port (requestSession env fd state peer).1 =
      (port state).asking (sodiumBin2hex env.sessionIdBytes) := by
  have hqueue := port_queueChatRequest env
    { state with
      lookupPeer := peer
      lookupClientFd := some fd
      openedPeer := peer
      chatRetryCount := 0
      sessionState := .requesting } peer
  unfold requestSession
  simp only
  split <;> rename_i next hnext <;> rw [hnext] at hqueue
  · exact hqueue
  · rw [port_writeLookupResponse]
    exact hqueue

theorem port_handleOpenChatCommand (env : Env) (fd : ℕ) (state : ChatdState)
    (peer : Str) :
    port (handleOpenChatCommand env fd state peer).1 = port state ∨
      (openChatAnswer state peer = .request ∧
        port (handleOpenChatCommand env fd state peer).1 =
          (port state).asking (sodiumBin2hex env.sessionIdBytes)) := by
  unfold handleOpenChatCommand
  cases hanswer : openChatAnswer state peer with
  | refuse line => exact Or.inl (port_writeIpcResponse env state fd line)
  | attach =>
      left
      simp only [attachToSession, port_writeIpcResponse]
      rfl
  | request => exact Or.inr ⟨rfl, port_requestSession env fd state peer⟩

/-- A client leaves the port alone, unless its command asks for a session. -/
theorem port_serviceIpc (env : Env) (state : ChatdState) (accepted : Option ℕ)
    (poll : IpcPoll) :
    port (serviceIpc env state accepted poll) = port state ∨
      (requestedPeer env state accepted poll ≠ none ∧
        port (serviceIpc env state accepted poll) =
          (port state).asking (sodiumBin2hex env.sessionIdBytes)) := by
  have hport : port (acceptIpcClient env state accepted) = port state := by
    unfold acceptIpcClient
    split <;> rfl
  unfold serviceIpc requestedPeer
  rw [← hport]
  generalize acceptIpcClient env state accepted = state
  simp only
  cases hpending : state.pendingIpcClientFd with
  | none => exact Or.inl rfl
  | some fd =>
      have hemit (served : ChatdState) :
          port (served.emit (.ipcClosed fd)) = port served :=
        port_emit served nofun
      by_cases hbroken : poll = .broken ∨ state.pendingIpcDeadlineAt ≤ env.now
      · left
        simp only [if_pos hbroken, hemit]
        rfl
      · simp only [if_neg hbroken]
        rw [not_or] at hbroken
        cases poll with
        | broken => exact Or.inl rfl
        | idle => exact Or.inl rfl
        | readable input =>
            simp only [apply_ite port, hemit, ite_self, if_neg hbroken.2]
            unfold handleIpcClient
            simp only
            split_ifs
            · exact Or.inl rfl
            · exact Or.inl (port_writeIpcResponse env _ fd _)
            · split
              · rename_i peer hpeer
                rcases port_handleOpenChatCommand env fd (releaseIpcClient state)
                  peer with hsame | ⟨hanswer, hasking⟩
                · exact Or.inl hsame
                · have hrequest : openChatAnswer state peer = .request := hanswer
                  exact Or.inr ⟨by simp [hpeer, hrequest], hasking⟩
              · exact Or.inl (port_writeIpcLine env _ fd _)

/-- A callback other than the arrival of a datagram leaves the port alone. -/
theorem port_serviceIceCallback (state : ChatdState) {callback : IceCallback}
    (hrecv : ∀ packet, callback ≠ .recv packet) :
    port (serviceIceCallback state callback) = port state := by
  unfold serviceIceCallback
  split_ifs with hagent
  · cases callback with
    | recv packet => exact absurd rfl (hrecv packet)
    | componentConnected pair => cases pair <;> rfl
    | _ => rfl
  · rfl

theorem port_serviceReconnect (env : Env) (state : ChatdState) (started : Bool) :
    port (serviceReconnect env state started) = port state := by
  unfold serviceReconnect
  split_ifs <;> rfl

end ProntoChat.Net
