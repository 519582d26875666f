import ProntoChat.Common.Identity
import ProntoChat.Daemon.Attempts
import ProntoChat.Daemon.Connection

/-!
# Ownership of client descriptors

A client descriptor waits in `pending_ipc_client_fd`, is attached in
`lookup_client_fd` or was closed.  The `Custody` of a state keeps the three places;
every function of the daemon leaves it alone or lets the attached client go, and
`service_ipc` alone moves a descriptor between the places.
-/

namespace ProntoChat.Daemon

open ProntoChat.QuotedText
open ProntoChat.Protocole
open ProntoChat.Json
open ProntoChat.Contacts
open ProntoChat.Config
open ProntoChat.Identity
open ProntoChat.Crypto
open ProntoChat.Ice

/-- The descriptor that an effect closes. -/
def Effect.closedFd : Effect → Option ℕ
  | .ipcClosed fd => some fd
  | _ => none

structure Custody where
  waiting : Option ℕ
  attached : Option ℕ
  closed : List ℕ

def ChatdState.custody (state : ChatdState) : Custody where
  waiting := state.pendingIpcClientFd
  attached := state.lookupClientFd
  closed := state.log.filterMap Effect.closedFd

/-- The attached descriptor is closed. -/
def Custody.released (custody : Custody) : Custody :=
  { custody with attached := none, closed := custody.closed ++ custody.attached.toList }

/-- Nothing changed, or the attached client was let go. -/
def Releases (before after : Custody) : Prop := after = before ∨ after = before.released

theorem Releases.refl (custody : Custody) : Releases custody custody := Or.inl rfl

theorem Releases.trans {first second third : Custody} (hfirst : Releases first second)
    (hsecond : Releases second third) : Releases first third := by
  rcases hfirst with rfl | rfl
  · exact hsecond
  · rcases hsecond with rfl | rfl
    · exact Or.inr rfl
    · exact Or.inr (by simp [Custody.released])

/-! ## Lines to clients -/

theorem custody_emit (state : ChatdState) (effect : Effect) :
    (state.emit effect).custody =
      { state.custody with
        closed := state.custody.closed ++ effect.closedFd.toList } := by
  cases effect <;> simp [ChatdState.custody, ChatdState.emit, Effect.closedFd]

/-- Only closing a descriptor counts. -/
theorem custody_emit_none (state : ChatdState) {effect : Effect}
    (heffect : effect.closedFd = none) : (state.emit effect).custody = state.custody := by
  rw [custody_emit, heffect, Option.toList_none, List.append_nil]

@[simp]
theorem custody_setSession (state : ChatdState) (session : ChatdSession) :
    (state.setSession session).custody = state.custody := rfl

@[simp]
theorem custody_setSessionState (state : ChatdState) (next : ChatdSessionState) :
    (state.setSessionState next).custody = state.custody := rfl

@[simp]
theorem custody_resetIceSession (state : ChatdState) :
    (resetIceSession state).custody = state.custody := rfl

@[simp]
theorem custody_writeIpcLine (env : Env) (state : ChatdState) (fd : ℕ)
    (line : IpcLine) : (writeIpcLine env state fd line).1.custody = state.custody :=
  custody_emit_none state rfl

@[simp]
theorem custody_writeIpcResponse (env : Env) (state : ChatdState) (fd : ℕ)
    (line : IpcLine) : (writeIpcResponse env state fd line).custody = state.custody := by
  unfold writeIpcResponse
  split_ifs
  · exact custody_writeIpcLine env state fd line
  · rfl

@[simp]
theorem custody_closeLookupClient (state : ChatdState) :
    (closeLookupClient state).custody = state.custody.released := by
  cases hclient : state.lookupClientFd <;>
    simp [closeLookupClient, ChatdState.custody, Custody.released, hclient, Effect.closedFd]

theorem releases_writeLookupResponse (env : Env) (state : ChatdState)
    (line : IpcLine) :
    Releases state.custody (writeLookupResponse env state line).custody := by
  unfold writeLookupResponse
  split
  · exact Releases.refl _
  · rw [custody_closeLookupClient, custody_writeIpcResponse]
    exact Or.inr rfl

/-! ## Queues and failures -/

@[simp]
theorem custody_queueFormatted (state : ChatdState) (size : ℕ) (json : Str) :
    (queueFormatted state size json).1.custody = state.custody := by
  unfold queueFormatted queueJson
  split_ifs <;> rfl

@[simp]
theorem custody_queueChatRequest (env : Env) (state : ChatdState) (peer : Str) :
    (queueChatRequest env state peer).1.custody = state.custody :=
  custody_queueFormatted _ _ _

theorem releases_retryOutgoingChatSession {env : Env} {state next : ChatdState}
    (hretry : retryOutgoingChatSession env state = some next) :
    Releases state.custody next.custody := by
  unfold retryOutgoingChatSession at hretry
  split_ifs at hretry
  simp only at hretry
  split at hretry <;> rename_i queued hqueued
  all_goals
    have hcustody := congrArg (fun outcome => outcome.1.custody) hqueued
    rw [custody_queueChatRequest] at hcustody
    have hsame : queued.custody = state.custody := hcustody.symm
    obtain rfl := Option.some.inj hretry
  · exact Or.inl hsame
  · rw [← hsame]
    exact releases_writeLookupResponse env queued _

theorem releases_reportFailedSession (env : Env) (state : ChatdState) :
    Releases state.custody (reportFailedSession env state).custody := by
  unfold reportFailedSession
  split
  · exact Releases.refl _
  · rename_i fd _
    have hclosed : Releases state.custody (closeLookupClient
        (writeIpcLine env state fd (.error (bytes "session_failed"))).1).custody := by
      rw [custody_closeLookupClient, custody_writeIpcLine]
      exact Or.inr rfl
    simp only
    split_ifs
    · exact hclosed
    · exact releases_writeLookupResponse env state _
    · exact releases_writeLookupResponse env state _
    · exact hclosed

theorem releases_failChatSession (env : Env) (state : ChatdState) :
    Releases state.custody (failChatSession env state).custody := by
  unfold failChatSession
  split
  · rename_i next hretry
    exact releases_retryOutgoingChatSession hretry
  · exact releases_reportFailedSession env (state.setSessionState .failed)

theorem releases_beginIceSession (env : Env) (state : ChatdState)
    (peer sessionId : Str) (controlling : Bool) (remotePk : Bytes 32) :
    Releases state.custody
      (beginIceSession env state peer sessionId controlling remotePk).1.custody := by
  unfold beginIceSession chatIceSessionStart
  simp only
  split_ifs
  · exact releases_failChatSession env _
  · exact releases_failChatSession env _
  · cases env.iceStart with
    | error failure => exact releases_failChatSession env _
    | ok started => exact Releases.refl _

/-! ## Packets -/

@[simp]
theorem custody_sendIcePacket (env : Env) (state : ChatdState)
    (type : ChatPacketType) (payload : List UInt8) :
    (sendIcePacket env state type payload).1.custody = state.custody := by
  rcases sendIcePacket_cases (Eq.refl (sendIcePacket env state type payload))
    with hsend | hsend | hsend <;> rw [hsend]
  · exact custody_emit_none state rfl
  · exact custody_emit_none state rfl

@[simp]
theorem custody_sendSessionPacket (env : Env) (state : ChatdState)
    (type : ChatPacketType) (payload : List UInt8)
    (note : ChatdSession → ChatdSession) :
    (sendSessionPacket env state type payload note).1.custody = state.custody := by
  have hsent := custody_sendIcePacket env state type payload
  unfold sendSessionPacket
  split <;> rename_i next hnext <;> rw [hnext] at hsent <;> exact hsent

@[simp]
theorem custody_sendEncryptedChatPayload (sodium : Sodium) (env : Env)
    (state : ChatdState) (type : ChatPacketType) (plaintext : List UInt8)
    (final : Bool) :
    (sendEncryptedChatPayload sodium env state type plaintext final).1.custody =
      state.custody := by
  unfold sendEncryptedChatPayload
  split_ifs
  · rfl
  · split
    · rfl
    · rw [custody_sendIcePacket]
      exact custody_emit_none _ rfl

theorem custody_handshakeStage (sodium : Sodium) (env : Env) (state : ChatdState) :
    (handshakeStage sodium env state).1.custody = state.custody := by
  unfold handshakeStage startCryptoHandshake
  split_ifs
  · rcases initCryptoHandshake_cases (Eq.refl (initCryptoHandshake sodium env
      (state.setSessionState .cryptoHandshake))) with
      ⟨_, hinit⟩ | ⟨_, hinit⟩ | ⟨_, _, _, _, _, _, hinit⟩ <;> rw [hinit]
    · exact custody_sendSessionPacket env _ _ _ _
    · rfl
    · rw [custody_sendSessionPacket]
      exact custody_emit_none _ rfl
  · rfl

theorem custody_headerStage (sodium : Sodium) (env : Env) (state : ChatdState) :
    (headerStage sodium env state).1.custody = state.custody := by
  unfold headerStage sendStreamHeader initStreamHeader
    chatCryptoSecretstreamInitPush
  split_ifs
  · exact custody_sendSessionPacket env _ _ _ _
  · cases env.streamHeader with
    | none => rfl
    | some header => exact custody_sendSessionPacket env _ _ _ _
  · rfl

theorem custody_writeChatMessageToCli (env : Env) (state : ChatdState)
    (plaintext : List UInt8) :
    (writeChatMessageToCli env state plaintext).1.custody = state.custody := by
  unfold writeChatMessageToCli
  split
  · rfl
  · split_ifs
    · rfl
    · exact custody_writeIpcLine env state _ _

theorem releases_closeChatByPeer (env : Env) (state : ChatdState) :
    Releases state.custody (closeChatByPeer env state).custody := by
  unfold closeChatByPeer
  simp only [custody_setSessionState, custody_resetIceSession]
  split
  · exact Releases.refl _
  · rw [custody_closeLookupClient, custody_writeIpcResponse]
    exact Or.inr rfl

theorem releases_handleChatPacket (sodium : Sodium) (env : Env)
    (state : ChatdState) (type : ChatPacketType) (payload : List UInt8) :
    Releases state.custody
      (handleChatPacket sodium env state type payload).1.custody := by
  unfold handleChatPacket decryptChatPayload
  split_ifs
  · exact Releases.refl _
  · split
    · exact Releases.refl _
    · rename_i plaintext tag stream _
      have hdecrypted : (state.decrypted type plaintext stream).custody = state.custody :=
        custody_emit_none _ rfl
      rw [← hdecrypted]
      generalize state.decrypted type plaintext stream = decrypted
      simp only
      split
      · split_ifs
        · exact Releases.refl _
        · exact Or.inl (custody_writeChatMessageToCli env decrypted plaintext)
      · split_ifs
        · exact Releases.refl _
        · exact releases_closeChatByPeer env decrypted
      · exact Releases.refl _

theorem releases_dispatch (sodium : Sodium) (env : Env) (state : ChatdState)
    (packet : List UInt8) :
    Releases state.custody (dispatchIceAppPacket sodium env state packet).1.custody := by
  unfold dispatchIceAppPacket
  split
  · exact Releases.refl _
  · split_ifs
    · exact Releases.refl _
    · simp only
      split
      · unfold handleHandshakePacket finishCryptoHandshake
        split_ifs
        · exact Releases.refl _
        · exact Releases.refl _
        · split
          · exact Releases.refl _
          · exact Or.inl (custody_emit_none _ rfl)
        · exact Releases.refl _
      · unfold handleStreamHeaderPacket receiveStreamHeader
        split_ifs
        · exact Releases.refl _
        · exact Releases.refl _
        · exact Releases.refl _
        · split <;> exact Releases.refl _
        · exact Releases.refl _
      · exact releases_handleChatPacket sodium env state .message _
      · exact releases_handleChatPacket sodium env state .close _
      · exact Releases.refl _
      · exact Releases.refl _

theorem releases_process (sodium : Sodium) (env : Env) (state : ChatdState) :
    Releases state.custody (processReceivedIcePacket sodium env state).1.custody := by
  unfold processReceivedIcePacket
  split
  · exact Releases.refl _
  · rename_i packet ice _
    simp only
    split_ifs
    · exact Releases.refl _
    · unfold handleIceAppPacket
      simp only
      rw [custody_emit_none _ rfl]
      exact releases_dispatch sodium env
        (state.setSession { state.session with ice }) packet

theorem custody_establishSession (env : Env) (state : ChatdState) :
    (establishSession env state).custody = state.custody := by
  unfold establishSession
  split_ifs
  · simp only
    split
    · rfl
    · exact custody_writeIpcResponse env _ _ _
  · rfl

theorem custody_notifyIceConnected (env : Env) (state : ChatdState) :
    (notifyIceConnected env state).custody = state.custody := by
  unfold notifyIceConnected
  split_ifs <;> rfl

/-! ## The service step -/

/-- A call and what follows when it succeeds, or the failure. -/
theorem releases_orFail (env : Env) {before : Custody} {outcome : Outcome}
    {next : ChatdState → ChatdState} (houtcome : Releases before outcome.1.custody)
    (hnext : Releases outcome.1.custody (next outcome.1).custody) :
    Releases before (orFail env outcome next).custody := by
  unfold orFail
  split_ifs
  · exact houtcome.trans hnext
  · exact houtcome.trans (releases_failChatSession env outcome.1)

theorem releases_serviceReceiveQueue (sodium : Sodium) (env : Env) (count : ℕ)
    (state : ChatdState) :
    Releases state.custody (serviceReceiveQueue sodium env count state).custody := by
  induction count generalizing state with
  | zero => exact Releases.refl _
  | succ count ih =>
      have hprocess := releases_process sodium env state
      unfold serviceReceiveQueue
      split <;> rename_i next hnext <;> rw [hnext] at hprocess
      · exact hprocess.trans (ih next)
      · split_ifs
        · exact hprocess.trans (releases_failChatSession env next)
        · exact hprocess

theorem releases_serviceHandshake (sodium : Sodium) (env : Env) (state : ChatdState) :
    Releases state.custody (serviceHandshake sodium env state).custody := by
  unfold serviceHandshake
  refine releases_orFail env (Or.inl (custody_handshakeStage sodium env state)) ?_
  refine releases_orFail env (releases_process sodium env _) ?_
  refine releases_orFail env (Or.inl (custody_headerStage sodium env _)) ?_
  refine releases_orFail env (releases_process sodium env _) ?_
  exact Or.inl (custody_establishSession env _)

theorem releases_serviceCryptoSession (sodium : Sodium) (env : Env)
    (state : ChatdState) :
    Releases state.custody (serviceCryptoSession sodium env state).custody := by
  unfold serviceCryptoSession
  split_ifs
  · exact Releases.refl _
  · exact releases_serviceReceiveQueue sodium env _ state
  · exact releases_failChatSession env state
  · exact releases_failChatSession env state
  · exact releases_serviceHandshake sodium env state

theorem custody_servicePendingRemoteSdp (env : Env) (state : ChatdState) :
    (servicePendingRemoteSdp env state).1.custody = state.custody := by
  unfold servicePendingRemoteSdp applyRemoteIceSdp chatIceSessionSetRemoteSdp
  split_ifs <;> rfl

theorem custody_serviceLocalSdp (sodium : Sodium) (env : Env) (state : ChatdState) :
    (serviceLocalSdp sodium env state).1.custody = state.custody := by
  have hqueue : (queueLocalIceSdp sodium env state).1.custody = state.custody := by
    unfold queueLocalIceSdp
    split
    · rfl
    · split
      · rfl
      · rename_i sdp _
        have hformatted := custody_queueFormatted state chatdMaxJsonSize
          (iceCredentialsJson state.identity.username state.session.icePeer
            state.session.iceSessionId sdp)
        split <;> rename_i next hnext <;> rw [hnext] at hformatted <;> exact hformatted
  unfold serviceLocalSdp
  split_ifs
  · split <;> rename_i next hnext <;> rw [hnext] at hqueue <;> exact hqueue
  · rfl

theorem releases_serviceIceSession (sodium : Sodium) (env : Env)
    (state : ChatdState) :
    Releases state.custody (serviceIceSession sodium env state).custody := by
  unfold serviceIceSession
  split_ifs
  · exact Releases.refl _
  · exact releases_failChatSession env state
  · refine releases_orFail env (Or.inl (custody_servicePendingRemoteSdp env state)) ?_
    refine releases_orFail env (Or.inl (custody_serviceLocalSdp sodium env _)) ?_
    split_ifs
    · exact releases_failChatSession env _
    · rw [← custody_notifyIceConnected env]
      exact releases_serviceCryptoSession sodium env _
    · exact releases_failChatSession env _
    · exact Releases.refl _

/-! ## The attached client -/

theorem releases_closeChatByClient (sodium : Sodium) (env : Env)
    (state : ChatdState) :
    Releases state.custody (closeChatByClient sodium env state).custody := by
  unfold closeChatByClient sendEncryptedChatClose
  rw [custody_setSessionState, custody_resetIceSession, custody_closeLookupClient,
    custody_sendEncryptedChatPayload]
  exact Or.inr rfl

theorem custody_serviceCommand (sodium : Sodium) (env : Env) (state : ChatdState)
    (fd : ℕ) (command : Str) :
    (serviceCommand sodium env state fd command).custody = state.custody := by
  have hsend (text : Str) :
      (sendEncryptedChatMessage sodium env state text).1.custody = state.custody := by
    unfold sendEncryptedChatMessage
    split_ifs
    · rfl
    · exact custody_sendEncryptedChatPayload sodium env state _ _ _
  unfold serviceCommand
  split_ifs
  · split <;> rename_i next hnext
    · rw [← hsend, hnext]
    · rw [custody_writeIpcLine, ← hsend, hnext]
  · exact custody_writeIpcLine env state fd _

theorem releases_serviceCommands (sodium : Sodium) (env : Env)
    (commands : List Str) (state : ChatdState) :
    Releases state.custody (serviceCommands sodium env commands state).custody := by
  induction commands generalizing state with
  | nil => exact Releases.refl _
  | cons command commands ih =>
      unfold serviceCommands
      split
      · exact Releases.refl _
      · rename_i fd _
        split_ifs
        · exact Releases.refl _
        · exact releases_closeChatByClient sodium env state
        · have hnext := ih (serviceCommand sodium env state fd command)
          rw [custody_serviceCommand] at hnext
          exact hnext

theorem releases_serviceActiveChatClient (sodium : Sodium) (env : Env)
    (state : ChatdState) (read : ClientRead) :
    Releases state.custody
      (serviceActiveChatClient sodium env state read).custody := by
  unfold serviceActiveChatClient
  split_ifs
  · exact Releases.refl _
  · split
    · exact Releases.refl _
    · rw [custody_setSessionState, custody_resetIceSession, custody_closeLookupClient]
      exact Or.inr rfl
    · exact releases_closeChatByClient sodium env state
    · exact releases_serviceCommands sodium env _ state

/-! ## Control messages -/

theorem releases_handleChatRequest (env : Env) (state : ChatdState) (json : Str) :
    Releases state.custody (handleChatRequest env state json).1.custody := by
  unfold handleChatRequest
  split
  · exact Releases.refl _
  · rename_i offer _
    simp only
    split_ifs
    · exact Releases.refl _
    · unfold answerChatRequest queueChatAccept
      split <;> rename_i queued hqueued
      all_goals
        have hcustody := congrArg (fun outcome => outcome.1.custody) hqueued
        rw [custody_queueFormatted] at hcustody
      · exact Or.inl hcustody.symm
      · have hbegun := releases_beginIceSession env queued offer.sender offer.sessionId
          false offer.identityPk
        rw [← hcustody] at hbegun
        exact hbegun

theorem releases_handleChatAccept (env : Env) (state : ChatdState) (json : Str) :
    Releases state.custody (handleChatAccept env state json).custody := by
  unfold handleChatAccept
  split
  · exact Releases.refl _
  · rename_i offer _
    simp only
    split
    · refine Releases.trans (Or.inl ?_) (releases_writeLookupResponse env _ _)
      exact custody_queueFormatted _ _ _
    · have hbegun := releases_beginIceSession env (state.setContacts
        (chatContactsVerifyOrPin env.contactsIo state.contacts offer.sender
          offer.identityPk).db) offer.sender offer.sessionId true offer.identityPk
      unfold startAcceptedSession
      split <;> rename_i begun hnext <;> rw [hnext] at hbegun
      · exact hbegun
      · exact hbegun.trans (releases_writeLookupResponse env begun _)
    · exact releases_writeLookupResponse env _ _

theorem releases_handleReceive (sodium : Sodium) (env : Env) (state : ChatdState)
    (json : Str) :
    Releases state.custody (handleReceive sodium env state json).1.custody := by
  unfold handleReceive
  split
  · unfold handleError
    simp only
    split_ifs
    · exact Or.inl (custody_queueFormatted _ _ _)
    · exact releases_writeLookupResponse env state _
    · exact releases_writeLookupResponse env state _
  · split_ifs
    · exact Or.inl (custody_queueFormatted _ _ _)
    · exact Releases.refl _
  · split_ifs
    · unfold handleAuthChallenge queueAuthResponse
      split
      · exact Releases.refl _
      · left
        rw [custody_queueFormatted]
        exact custody_emit_none _ rfl
    · exact Releases.refl _
  · split_ifs <;> exact Releases.refl _
  · unfold handleUserStatus
    split
    · split_ifs
      · exact Releases.refl _
      · exact releases_writeLookupResponse env state _
      · exact releases_writeLookupResponse env state _
    · exact Releases.refl _
  · exact releases_handleChatRequest env state json
  · exact releases_handleChatAccept env state json
  · unfold handleIceCredentials applyRemoteIceSdp
    split
    · exact Releases.refl _
    · split_ifs
      · exact Releases.refl _
      · split <;> exact Releases.refl _
  · unfold handleChatCancel
    split_ifs <;> exact Releases.refl _
  · exact Releases.refl _

theorem releases_loseControl (env : Env) (state : ChatdState) (code : Str) :
    Releases state.custody (loseControl env state code).custody := by
  unfold loseControl
  simp only
  split_ifs
  · exact releases_writeLookupResponse env _ _
  · exact Releases.refl _

theorem releases_callbackChatdControl (sodium : Sodium) (env : Env)
    (state : ChatdState) (event : ControlEvent) :
    Releases state.custody (callbackChatdControl sodium env state event).1.custody := by
  cases event with
  | established => exact Or.inl (custody_queueFormatted _ _ _)
  | receive payload whole =>
      simp only [callbackChatdControl]
      split_ifs
      · exact Releases.refl _
      · exact releases_handleReceive sodium env state _
  | writeable written =>
      simp only [callbackChatdControl]
      split_ifs <;> exact Releases.refl _
  | connectionError => exact releases_loseControl env state _
  | closed =>
      have hlost := releases_loseControl env state (bytes "server_disconnected")
      simp only [callbackChatdControl]
      split_ifs <;> exact hlost

/-! ## Commands -/

/-- A request of a client always finds its slot: the peer's name, the own name and
the keys fit the buffer. -/
theorem requestSession_ok (env : Env) (fd : ℕ) {state : ChatdState} {peer : Str}
    (hname : chatUsernameIsValid state.identity.username = true)
    (hanswer : openChatAnswer state peer = .request) :
    (requestSession env fd state peer).2 = true ∧
      (requestSession env fd state peer).1.custody =
        { state.custody with attached := some fd } := by
  obtain ⟨hpeer, _, _, _, _, hempty⟩ := openChatAnswer_request hanswer
  have hlength := length_retryJson hname (username_length hpeer).2 env.sessionIdBytes
  have hqueue : queueChatRequest env
      { state with
        lookupPeer := peer
        lookupClientFd := some fd
        openedPeer := peer
        chatRetryCount := 0
        sessionState := .requesting } peer = _ :=
    queueFormatted_of_lt hempty hlength (by decide)
  rw [requestSession, hqueue]
  exact ⟨rfl, rfl⟩

/-- A command leaves the descriptor to its caller, or attaches it. -/
theorem custody_handleIpcClient (env : Env) (fd : ℕ) {state : ChatdState}
    (hname : chatUsernameIsValid state.identity.username = true)
    (input : List UInt8) :
    let served := handleIpcClient env fd state input
    (served.2 = false ∧ served.1.custody = state.custody) ∨
      (served.2 = true ∧ state.lookupClientFd = none ∧
        served.1.custody = { state.custody with attached := some fd }) := by
  unfold handleIpcClient
  simp only
  split_ifs
  · exact Or.inl ⟨rfl, rfl⟩
  · exact Or.inl ⟨rfl, custody_writeIpcResponse env state fd _⟩
  · split
    · rename_i peer _
      unfold handleOpenChatCommand
      cases hanswer : openChatAnswer state peer with
      | refuse line => exact Or.inl ⟨rfl, custody_writeIpcResponse env state fd line⟩
      | attach =>
          obtain ⟨_, _, _, hfree⟩ := openChatAnswer_attach hanswer
          exact Or.inr ⟨rfl, hfree, custody_writeIpcResponse env _ fd _⟩
      | request =>
          obtain ⟨_, _, _, _, hfree, _⟩ := openChatAnswer_request hanswer
          obtain ⟨hok, hcustody⟩ := requestSession_ok env fd hname hanswer
          exact Or.inr ⟨hok, hfree, hcustody⟩
    · exact Or.inl ⟨rfl, custody_writeIpcLine env state fd _⟩

/-- The descriptor that an event takes from `accept`. -/
def acceptedFd (state : ChatdState) : ChatdEvent → Option ℕ
  | .ipc accepted _ => if state.pendingIpcClientFd = none then accepted else none
  | _ => none

/-- The descriptor taken from `accept` waits. -/
def Custody.admitted (custody : Custody) (accepted : Option ℕ) : Custody :=
  { custody with waiting := custody.waiting <|> accepted }

/-- What an event does with the descriptors, once the accepted one waits. -/
inductive CustodyMove (before : Custody) : Custody → Prop where
  | releases {after : Custody} (hreleases : Releases before after) :
      CustodyMove before after
  | drops {fd : ℕ} (hwaiting : before.waiting = some fd) :
      CustodyMove before
        { before with waiting := none, closed := before.closed ++ [fd] }
  | attaches {fd : ℕ} (hwaiting : before.waiting = some fd)
      (hfree : before.attached = none) :
      CustodyMove before { before with waiting := none, attached := some fd }

theorem custody_acceptIpcClient (env : Env) (state : ChatdState)
    (accepted : Option ℕ) (poll : IpcPoll) :
    (acceptIpcClient env state accepted).custody =
      state.custody.admitted (acceptedFd state (.ipc accepted poll)) := by
  unfold acceptIpcClient acceptedFd Custody.admitted
  cases hpending : state.pendingIpcClientFd with
  | none => cases accepted <;> simp [ChatdState.custody, hpending]
  | some fd => simp [ChatdState.custody, hpending]

theorem identity_acceptIpcClient (env : Env) (state : ChatdState)
    (accepted : Option ℕ) :
    (acceptIpcClient env state accepted).identity = state.identity := by
  unfold acceptIpcClient
  split <;> rfl

theorem custodyMove_serviceIpc (env : Env) {state : ChatdState}
    (hname : chatUsernameIsValid state.identity.username = true)
    (accepted : Option ℕ) (poll : IpcPoll) :
    CustodyMove (state.custody.admitted (acceptedFd state (.ipc accepted poll)))
      (serviceIpc env state accepted poll).custody := by
  rw [← custody_acceptIpcClient env]
  rw [← identity_acceptIpcClient env state accepted] at hname
  unfold serviceIpc
  generalize acceptIpcClient env state accepted = state at hname ⊢
  simp only
  cases hpending : state.pendingIpcClientFd with
  | none => exact .releases (Releases.refl _)
  | some fd =>
      have hdropped {served : ChatdState}
          (hserved : served.custody = (releaseIpcClient state).custody) :
          CustodyMove state.custody (served.emit (.ipcClosed fd)).custody := by
        rw [custody_emit, hserved]
        exact .drops hpending
      simp only
      split_ifs
      · exact hdropped rfl
      · split
        · rename_i input _
          have hreleased : chatUsernameIsValid
              (releaseIpcClient state).identity.username = true := hname
          rcases custody_handleIpcClient env fd hreleased input with
            ⟨hclose, hserved⟩ | ⟨hkeep, hfree, hserved⟩
          · rw [if_neg (by simp [hclose])]
            exact hdropped hserved
          · rw [if_pos hkeep, hserved]
            exact .attaches hpending hfree
        · exact .releases (Releases.refl _)

/-- Every event moves the descriptors in one of the listed ways. -/
theorem custodyMove_step (sodium : Sodium) {state : ChatdState}
    (hname : chatUsernameIsValid state.identity.username = true)
    (input : Env × ChatdEvent) :
    CustodyMove (state.custody.admitted (acceptedFd state input.2))
      (chatdStep sodium state input).custody := by
  obtain ⟨env, event⟩ := input
  have hkept {after : Custody} (hreleases : Releases state.custody after) :
      CustodyMove (state.custody.admitted none) after := by
    have hnone : state.custody.admitted none = state.custody := by
      cases hwaiting : state.custody.waiting <;> simp [Custody.admitted, ← hwaiting]
    rw [hnone]
    exact .releases hreleases
  cases event with
  | control event => exact hkept (releases_callbackChatdControl sodium env state event)
  | ipc accepted poll => exact custodyMove_serviceIpc env hname accepted poll
  | activeClient read =>
      exact hkept (releases_serviceActiveChatClient sodium env state read)
  | ice callback =>
      simp only [chatdStep, serviceIceCallback]
      split_ifs <;> exact hkept (Releases.refl _)
  | serviceIce => exact hkept (releases_serviceIceSession sodium env state)
  | reconnect started =>
      simp only [chatdStep, serviceReconnect]
      split_ifs <;> exact hkept (Releases.refl _)

/-! ## Open descriptors -/

/-- The client descriptors that are open; `none` once a descriptor was closed that
was not open. -/
def closeFds : Option (Finset ℕ) → List ℕ → Option (Finset ℕ)
  | opened, [] => opened
  | none, _ :: _ => none
  | some opened, fd :: fds =>
      closeFds (if fd ∈ opened then some (opened.erase fd) else none) fds

/-- The descriptors closed between two states. -/
def closedBetween (before after : ChatdState) : List ℕ :=
  after.custody.closed.drop before.custody.closed.length

/-- The daemon and the client descriptors that are open. -/
structure Hosted where
  state : ChatdState
  opened : Option (Finset ℕ)

/-- A step of the daemon: the accepted descriptor is open, and then the closed ones
are not. -/
def hostedStep (sodium : Sodium) (hosted : Hosted) (input : Env × ChatdEvent) :
    Hosted :=
  let next := chatdStep sodium hosted.state input
  let accepted := (acceptedFd hosted.state input.2).toFinset
  { state := next
    opened := closeFds (hosted.opened.map (· ∪ accepted))
      (closedBetween hosted.state next) }

/-- `accept` returns a descriptor that is not open. -/
def AcceptsFresh (hosted : Hosted) (input : Env × ChatdEvent) : Prop :=
  ∀ fd ∈ acceptedFd hosted.state input.2, ∀ opened ∈ hosted.opened, fd ∉ opened

instance (hosted : Hosted) (input : Env × ChatdEvent) :
    Decidable (AcceptsFresh hosted input) :=
  inferInstanceAs (Decidable (∀ fd ∈ acceptedFd hosted.state input.2,
    ∀ opened ∈ hosted.opened, fd ∉ opened))

/-- The descriptors that the daemon holds. -/
def Custody.held (custody : Custody) : Finset ℕ :=
  custody.waiting.toFinset ∪ custody.attached.toFinset

def Custody.Distinct (custody : Custody) : Prop :=
  ∀ fd, custody.waiting = some fd → custody.attached ≠ some fd

/-- Closing the descriptors that a move closes leaves those that are held. -/
theorem closeFds_move {before after : Custody} (hmove : CustodyMove before after)
    (hdistinct : before.Distinct) :
    closeFds (some before.held) (after.closed.drop before.closed.length) =
        some after.held ∧ after.Distinct := by
  cases hmove with
  | releases hreleases =>
      rcases hreleases with rfl | rfl
      · rw [List.drop_length]
        exact ⟨rfl, hdistinct⟩
      · refine ⟨?_, fun _ _ => nofun⟩
        cases hattached : before.attached with
        | none => simp [Custody.released, Custody.held, hattached, closeFds]
        | some fd =>
            have hother : fd ∉ before.waiting.toFinset := by
              intro hmem
              exact hdistinct fd (Option.mem_toFinset.mp hmem) hattached
            simp [Custody.released, Custody.held, hattached, closeFds,
              Finset.union_comm before.waiting.toFinset,
              Finset.erase_insert hother]
  | @drops fd hwaiting =>
      refine ⟨?_, nofun⟩
      have hother : fd ∉ before.attached.toFinset := by
        intro hmem
        exact hdistinct fd hwaiting (Option.mem_toFinset.mp hmem)
      simp [Custody.held, hwaiting, closeFds, Finset.erase_insert hother]
  | @attaches fd hwaiting hfree =>
      refine ⟨?_, nofun⟩
      simp [Custody.held, hwaiting, hfree, closeFds]

/-- An accepted descriptor waits only where none waited. -/
theorem held_admitted (state : ChatdState) (event : ChatdEvent) :
    (state.custody.admitted (acceptedFd state event)).held =
      state.custody.held ∪ (acceptedFd state event).toFinset := by
  cases hwaiting : state.pendingIpcClientFd with
  | none =>
      have hnone : state.custody.waiting = none := hwaiting
      simp [Custody.admitted, Custody.held, hnone, Finset.union_comm]
  | some fd =>
      have hsome : state.custody.waiting = some fd := hwaiting
      have haccepted : acceptedFd state event = none := by
        cases event <;> simp [acceptedFd, hwaiting]
      simp [Custody.admitted, Custody.held, hsome, haccepted]

theorem distinct_admitted {state : ChatdState} {event : ChatdEvent}
    (hdistinct : state.custody.Distinct)
    (hfresh : ∀ fd, acceptedFd state event = some fd → fd ∉ state.custody.held) :
    (state.custody.admitted (acceptedFd state event)).Distinct := by
  intro fd hwaits hattached
  simp only [Custody.admitted, Option.orElse_eq_orElse, Option.orElse_eq_or,
    Option.or_eq_some_iff] at hwaits
  rcases hwaits with hwaiting | ⟨_, haccepted⟩
  · exact hdistinct fd hwaiting hattached
  · refine hfresh fd haccepted (Finset.mem_union_right _ ?_)
    exact Option.mem_toFinset.mpr hattached

/-- The open descriptors are those of the two fields, which are distinct. -/
structure Owned (hosted : Hosted) : Prop where
  opened : hosted.opened = some hosted.state.custody.held
  distinct : hosted.state.custody.Distinct

theorem owned_step (sodium : Sodium) {hosted : Hosted} {input : Env × ChatdEvent}
    (hname : chatUsernameIsValid hosted.state.identity.username = true)
    (hfresh : AcceptsFresh hosted input) (howned : Owned hosted) :
    Owned (hostedStep sodium hosted input) := by
  have hmove := custodyMove_step sodium hname input
  have hdistinct := distinct_admitted howned.distinct fun fd haccepted =>
    hfresh fd haccepted _ howned.opened
  obtain ⟨hclosed, hafter⟩ := closeFds_move hmove hdistinct
  refine ⟨?_, hafter⟩
  rw [held_admitted] at hclosed
  rw [hostedStep, howned.opened]
  exact hclosed

/-- The descriptors that `main` closes when it leaves its loop. -/
def shutdownClients (state : ChatdState) : ChatdState :=
  let state :=
    match state.pendingIpcClientFd with
    | none => state
    | some fd => state.emit (.ipcClosed fd)
  resetIceSession (closeLookupClient state)

theorem closedBetween_shutdown (state : ChatdState) :
    closedBetween state (shutdownClients state) =
      state.pendingIpcClientFd.toList ++ state.lookupClientFd.toList := by
  unfold closedBetween shutdownClients
  simp only [custody_resetIceSession, custody_closeLookupClient]
  cases hpending : state.pendingIpcClientFd with
  | none => simp [Custody.released, ChatdState.custody]
  | some fd =>
      simp only [custody_emit, Custody.released, Effect.closedFd, Option.toList_some,
        List.append_assoc, List.drop_left]
      rfl

/-- Everything that was open is closed. -/
theorem closeFds_shutdown {custody : Custody} (hdistinct : custody.Distinct) :
    closeFds (some custody.held)
      (custody.waiting.toList ++ custody.attached.toList) = some ∅ := by
  cases hwaiting : custody.waiting with
  | none =>
      cases hattached : custody.attached <;>
        simp [Custody.held, hwaiting, hattached, closeFds]
  | some first =>
      cases hattached : custody.attached with
      | none => simp [Custody.held, hwaiting, hattached, closeFds]
      | some second =>
          have hother : first ≠ second := by
            rintro rfl
            exact hdistinct first hwaiting hattached
          simp [Custody.held, hwaiting, hattached, closeFds, hother]

/-! ## Runs -/

def hostedStart (identity : ChatIdentity) (contacts : ContactsDb) : Hosted where
  state := initialState identity contacts
  opened := some ∅

theorem owned_run (sodium : Sodium) {identity : ChatIdentity}
    (hname : chatUsernameIsValid identity.username = true) {contacts : ContactsDb}
    {inputs : List (Env × ChatdEvent)}
    (hfresh : Transition.Guarded (hostedStep sodium) AcceptsFresh
      (hostedStart identity contacts) inputs) :
    let hosted := Transition.run (hostedStep sodium) (hostedStart identity contacts) inputs
    Owned hosted ∧ hosted.state.identity = identity := by
  have hstep : ∀ hosted input, AcceptsFresh hosted input →
      Owned hosted ∧ hosted.state.identity = identity →
      Owned (hostedStep sodium hosted input) ∧
        (hostedStep sodium hosted input).state.identity = identity := by
    rintro hosted input hinput ⟨howned, hidentity⟩
    rw [← hidentity] at hname
    exact ⟨owned_step sodium hname hinput howned,
      (link_step sodium hosted.state input).1.trans hidentity⟩
  have hstart : Owned (hostedStart identity contacts) ∧
      (hostedStart identity contacts).state.identity = identity :=
    ⟨⟨rfl, nofun⟩, rfl⟩
  exact Transition.invariant_run hstep hstart hfresh

/-- Ownership of client descriptors.  In every run of a daemon that loaded its
identity, no descriptor is closed that is not open; the open descriptors are those
that wait and that are attached, and the two differ.  The request of a client never
fails once the client is recorded, and the end of `main` closes what is left. -/
theorem client_descriptors_owned (sodium : Sodium) {ready : Bool}
    {path : Except ChatIdentityError Unit} {key pub config : Reading}
    {identity : ChatIdentity}
    (hload : chatIdentityLoad ready path key pub config = .ok identity)
    (contacts : ContactsDb) (inputs : List (Env × ChatdEvent))
    (hfresh : Transition.Guarded (hostedStep sodium) AcceptsFresh
      (hostedStart identity contacts) inputs) :
    let hosted := Transition.run (hostedStep sodium) (hostedStart identity contacts) inputs
    hosted.opened = some (hosted.state.pendingIpcClientFd.toFinset ∪
        hosted.state.lookupClientFd.toFinset) ∧
      (∀ fd, hosted.state.pendingIpcClientFd = some fd →
        hosted.state.lookupClientFd ≠ some fd) ∧
      (∀ env accepted fd peer,
        let state := releaseIpcClient (acceptIpcClient env hosted.state accepted)
        openChatAnswer state peer = .request →
          (requestSession env fd state peer).2 = true) ∧
      closeFds hosted.opened
        (closedBetween hosted.state (shutdownClients hosted.state)) = some ∅ := by
  intro hosted
  have hname := valid_of_chatIdentityLoad hload
  obtain ⟨howned, hidentity⟩ := owned_run sodium hname hfresh
  refine ⟨howned.opened, howned.distinct, ?_, ?_⟩
  · intro env accepted fd peer state hanswer
    have hvalid : chatUsernameIsValid state.identity.username = true := by
      have hsame : state.identity = hosted.state.identity :=
        identity_acceptIpcClient env hosted.state accepted
      rw [hsame, hidentity]
      exact hname
    exact (requestSession_ok env fd hvalid hanswer).1
  · rw [closedBetween_shutdown, howned.opened]
    exact closeFds_shutdown howned.distinct

/-! ## A descriptor that is used again -/

/-- Alice's client asks for Bob and a second one waits.  Bob is offline, the second
client is answered, and `accept` returns the first descriptor again. -/
def aliceReusesSeven : List ChatdEvent :=
  login (Transparent.repeated 32 9) ++
    [openChat 7 bob.username, .ipc (some 8) .idle,
      receive (object [(JsonKey.type.name, ControlType.error.name),
        (JsonKey.code.name, bytes "peer_offline")]),
      .ipc none (.readable (bytes "STATUS")), .ipc (some 7) .idle]

theorem client_descriptors_owned_reused :
    let hosted := Transition.run (hostedStep Transparent.sodium)
      (hostedStart alice none) (smoothly 1 aliceReusesSeven)
    hosted.state.custody.closed = [7, 8] ∧ hosted.opened = some {7} ∧
      closeFds hosted.opened
        (closedBetween hosted.state (shutdownClients hosted.state)) = some ∅ := by
  have hload : chatIdentityLoad true (.ok ()) (.text (List.replicate 64 1) false)
      (.text (List.replicate 32 1) false)
      (.text (bytes "username = \"alice\"\n") false) = .ok alice := by
    decide +kernel
  have hfacts : Transition.Guarded (hostedStep Transparent.sodium) AcceptsFresh
        (hostedStart alice none) (smoothly 1 aliceReusesSeven) ∧
      let state := (Transition.run (hostedStep Transparent.sodium)
        (hostedStart alice none) (smoothly 1 aliceReusesSeven)).state
      state.custody.closed = [7, 8] ∧ state.pendingIpcClientFd = some 7 ∧
        state.lookupClientFd = none := by
    decide +kernel
  obtain ⟨hfresh, hclosed, hpending, hlookup⟩ := hfacts
  have howned := client_descriptors_owned Transparent.sodium hload none
    (smoothly 1 aliceReusesSeven) hfresh
  generalize Transition.run (hostedStep Transparent.sodium) (hostedStart alice none)
    (smoothly 1 aliceReusesSeven) = hosted at hclosed hpending hlookup howned ⊢
  obtain ⟨hopened, _, _, hshutdown⟩ := howned
  rw [hpending, hlookup] at hopened
  exact ⟨hclosed, hopened, hshutdown⟩

end ProntoChat.Daemon
