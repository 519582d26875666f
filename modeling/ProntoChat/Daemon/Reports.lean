import ProntoChat.Daemon.Line

/-!
# Peers that are reported as offline

The lines in the log that tell a client that a peer is offline.  Two handlers of
control messages write them, and nothing else does.
-/

namespace ProntoChat.Daemon

open ProntoChat.QuotedText
open ProntoChat.Protocole
open ProntoChat.Json
open ProntoChat.Contacts
open ProntoChat.Crypto
open ProntoChat.Ice

/-- The peer that a line reports as offline. -/
def IpcLine.offlinePeer : IpcLine → Option Str
  | .userOffline username => some username
  | _ => none

def Effect.offlinePeer : Effect → Option Str
  | .ipcLine _ _ line _ => line.offlinePeer
  | _ => none

/-- The peers that were reported as offline, in order. -/
def ChatdState.reportedOffline (state : ChatdState) : List Str :=
  state.log.filterMap Effect.offlinePeer

/-- Nobody was reported as offline. -/
def Silent (state next : ChatdState) : Prop :=
  next.reportedOffline = state.reportedOffline

theorem Silent.refl (state : ChatdState) : Silent state state := rfl

theorem Silent.trans {first second third : ChatdState} (hfirst : Silent first second)
    (hsecond : Silent second third) : Silent first third :=
  Eq.trans hsecond hfirst

theorem silent_of_log {state next : ChatdState} (hlog : next.log = state.log) :
    Silent state next :=
  congrArg (List.filterMap Effect.offlinePeer) hlog

theorem silent_of_view {state next : ChatdState} (hview : next.view = state.view) :
    Silent state next :=
  silent_of_log (congrArg View.log hview)

theorem reportedOffline_emit (state : ChatdState) (effect : Effect) :
    (state.emit effect).reportedOffline =
      state.reportedOffline ++ effect.offlinePeer.toList := by
  rw [ChatdState.reportedOffline, ChatdState.emit, List.filterMap_append]
  cases hpeer : effect.offlinePeer <;>
    simp [hpeer, ChatdState.reportedOffline]

theorem silent_emit (state : ChatdState) {effect : Effect}
    (hquiet : effect.offlinePeer = none) : Silent state (state.emit effect) := by
  rw [Silent, reportedOffline_emit, hquiet]
  exact List.append_nil _

/-! ## Lines to clients -/

theorem reportedOffline_writeIpcLine (env : Env) (state : ChatdState) (fd : ℕ)
    (line : IpcLine) :
    (writeIpcLine env state fd line).1.reportedOffline =
      state.reportedOffline ++ line.offlinePeer.toList :=
  reportedOffline_emit state _

theorem silent_writeIpcLine (env : Env) (state : ChatdState) (fd : ℕ)
    {line : IpcLine} (hquiet : line.offlinePeer = none) :
    Silent state (writeIpcLine env state fd line).1 :=
  silent_emit state hquiet

/-- A response that does not fit into the buffer is not written. -/
theorem reportedOffline_writeIpcResponse (env : Env) (state : ChatdState) (fd : ℕ)
    (line : IpcLine) :
    (writeIpcResponse env state fd line).reportedOffline = state.reportedOffline ∨
      (writeIpcResponse env state fd line).reportedOffline =
        state.reportedOffline ++ line.offlinePeer.toList := by
  rw [writeIpcResponse, ChatdState.reportedOffline]
  split_ifs
  · exact Or.inr (reportedOffline_writeIpcLine env state fd line)
  · exact Or.inl rfl

theorem silent_writeIpcResponse (env : Env) (state : ChatdState) (fd : ℕ)
    {line : IpcLine} (hquiet : line.offlinePeer = none) :
    Silent state (writeIpcResponse env state fd line) := by
  rcases reportedOffline_writeIpcResponse env state fd line with hsame | hline
  · exact hsame
  · rw [hquiet] at hline
    exact hline.trans (List.append_nil _)

theorem silent_closeLookupClient (state : ChatdState) :
    Silent state (closeLookupClient state) := by
  rw [Silent, closeLookupClient, ChatdState.reportedOffline, List.filterMap_append]
  cases state.lookupClientFd with
  | none => exact List.append_nil _
  | some fd => exact List.append_nil _

theorem reportedOffline_writeLookupResponse (env : Env) (state : ChatdState)
    (line : IpcLine) :
    (writeLookupResponse env state line).reportedOffline = state.reportedOffline ∨
      (state.lookupClientFd ≠ none ∧
        (writeLookupResponse env state line).reportedOffline =
          state.reportedOffline ++ line.offlinePeer.toList) := by
  unfold writeLookupResponse
  split
  · exact Or.inl rfl
  · rename_i fd hclient
    rw [silent_closeLookupClient]
    rcases reportedOffline_writeIpcResponse env state fd line with hsame | hline
    · exact Or.inl hsame
    · exact Or.inr ⟨by simp [hclient], hline⟩

theorem silent_writeLookupResponse (env : Env) (state : ChatdState)
    {line : IpcLine} (hquiet : line.offlinePeer = none) :
    Silent state (writeLookupResponse env state line) := by
  rcases reportedOffline_writeLookupResponse env state line with hsame | ⟨_, hline⟩
  · exact hsame
  · rw [hquiet] at hline
    exact hline.trans (List.append_nil _)

/-! ## Sessions -/

theorem silent_queueFormatted (state : ChatdState) (size : ℕ) (json : Str) :
    Silent state (queueFormatted state size json).1 :=
  silent_of_view (queueFormatted_view state size json)

theorem silent_queueChatRequest (env : Env) (state : ChatdState) (peer : Str) :
    Silent state (queueChatRequest env state peer).1 :=
  silent_of_log (congrArg View.log (queueChatRequest_view env state peer))

theorem silent_retryOutgoingChatSession {env : Env} {state next : ChatdState}
    (hretry : retryOutgoingChatSession env state = some next) :
    Silent state next := by
  unfold retryOutgoingChatSession at hretry
  split_ifs at hretry
  have hqueued := silent_queueChatRequest env
    ((resetIceSession
      { state with chatRetryCount := state.chatRetryCount + 1 }).setSessionState
      .requesting) state.lookupPeer
  simp only at hretry
  split at hretry <;> rename_i queued hqueue <;> rw [hqueue] at hqueued <;>
    obtain rfl := Option.some.inj hretry
  · exact hqueued
  · exact hqueued.trans (silent_writeLookupResponse env queued rfl)

theorem silent_reportFailedSession (env : Env) (state : ChatdState) :
    Silent state (reportFailedSession env state) := by
  unfold reportFailedSession
  split
  · exact Silent.refl state
  · split_ifs
    · exact (silent_writeIpcLine env state _ rfl).trans (silent_closeLookupClient _)
    · exact silent_writeLookupResponse env state rfl
    · exact silent_writeLookupResponse env state rfl
    · exact (silent_writeIpcLine env state _ rfl).trans (silent_closeLookupClient _)

theorem silent_failChatSession (env : Env) (state : ChatdState) :
    Silent state (failChatSession env state) := by
  unfold failChatSession
  split
  · rename_i next hretry
    exact silent_retryOutgoingChatSession hretry
  · exact silent_reportFailedSession env (state.setSessionState .failed)

theorem silent_beginIceSession (env : Env) (state : ChatdState)
    (peer sessionId : Str) (controlling : Bool) (remotePk : Bytes 32) :
    Silent state
      (beginIceSession env state peer sessionId controlling remotePk).1 := by
  unfold beginIceSession
  simp only
  split_ifs
  · exact silent_failChatSession env _
  · exact silent_failChatSession env _
  · split
    · exact silent_failChatSession env _
    · exact Silent.refl state

/-! ## Packets -/

theorem silent_sendIcePacket (env : Env) (state : ChatdState)
    (type : ChatPacketType) (payload : List UInt8) :
    Silent state (sendIcePacket env state type payload).1 := by
  rcases sendIcePacket_cases (Eq.refl (sendIcePacket env state type payload))
    with hsend | hsend | hsend <;> rw [hsend]
  · exact Silent.refl state
  · exact silent_emit state rfl
  · exact silent_emit state rfl

theorem silent_sendSessionPacket (env : Env) (state : ChatdState)
    (type : ChatPacketType) (payload : List UInt8)
    (note : ChatdSession → ChatdSession) :
    Silent state (sendSessionPacket env state type payload note).1 := by
  have hsent := silent_sendIcePacket env state type payload
  unfold sendSessionPacket
  split <;> rename_i next hnext <;> rw [hnext] at hsent <;> exact hsent

theorem silent_sendEncryptedChatPayload (sodium : Sodium) (env : Env)
    (state : ChatdState) (type : ChatPacketType) (plaintext : List UInt8)
    (final : Bool) :
    Silent state
      (sendEncryptedChatPayload sodium env state type plaintext final).1 := by
  unfold sendEncryptedChatPayload
  split_ifs
  · exact Silent.refl state
  · split
    · exact Silent.refl state
    · rename_i ciphertext stream _
      have hencrypted : Silent state (state.encrypted type plaintext stream) :=
        silent_emit (state.setSession { state.session with cryptoStream := stream }) rfl
      exact hencrypted.trans (silent_sendIcePacket env _ type ciphertext)

theorem silent_handshakeStage (sodium : Sodium) (env : Env) (state : ChatdState) :
    Silent state (handshakeStage sodium env state).1 := by
  unfold handshakeStage startCryptoHandshake
  split_ifs
  · rcases initCryptoHandshake_cases (Eq.refl (initCryptoHandshake sodium env
      (state.setSessionState .cryptoHandshake))) with
      ⟨_, hinit⟩ | ⟨_, hinit⟩ | ⟨_, _, _, _, _, _, hinit⟩ <;> rw [hinit]
    · exact silent_sendSessionPacket env _ _ _ _
    · exact Silent.refl state
    · refine Silent.trans ?_ (silent_sendSessionPacket env _ _ _ _)
      exact silent_emit ((state.setSessionState .cryptoHandshake).setSession _) rfl
  · exact Silent.refl state

theorem silent_headerStage (sodium : Sodium) (env : Env) (state : ChatdState) :
    Silent state (headerStage sodium env state).1 := by
  unfold headerStage sendStreamHeader initStreamHeader
    chatCryptoSecretstreamInitPush
  split_ifs
  · exact silent_sendSessionPacket env _ _ _ _
  · cases env.streamHeader with
    | none => exact Silent.refl state
    | some header => exact silent_sendSessionPacket env _ _ _ _
  · exact Silent.refl state

theorem silent_writeChatMessageToCli (env : Env) (state : ChatdState)
    (plaintext : List UInt8) :
    Silent state (writeChatMessageToCli env state plaintext).1 := by
  unfold writeChatMessageToCli
  split
  · exact Silent.refl state
  · split_ifs
    · exact Silent.refl state
    · exact silent_writeIpcLine env state _ rfl

theorem silent_closeChatByPeer (env : Env) (state : ChatdState) :
    Silent state (closeChatByPeer env state) := by
  unfold closeChatByPeer
  simp only
  split
  · exact Silent.refl state
  · exact (silent_writeIpcResponse env (state.setSessionState .closing) _ rfl).trans
      (silent_closeLookupClient _)

theorem silent_handleChatPacket (sodium : Sodium) (env : Env)
    (state : ChatdState) (type : ChatPacketType) (payload : List UInt8) :
    Silent state (handleChatPacket sodium env state type payload).1 := by
  unfold handleChatPacket decryptChatPayload
  split_ifs
  · exact Silent.refl state
  · split
    · exact Silent.refl state
    · rename_i plaintext tag stream _
      have hdecrypted : Silent state (state.decrypted type plaintext stream) :=
        silent_emit (state.setSession { state.session with cryptoStream := stream }) rfl
      simp only
      split
      · split_ifs
        · exact hdecrypted
        · exact hdecrypted.trans (silent_writeChatMessageToCli env _ plaintext)
      · split_ifs
        · exact hdecrypted
        · exact hdecrypted.trans (silent_closeChatByPeer env _)
      · exact hdecrypted

theorem silent_dispatch (sodium : Sodium) (env : Env) (state : ChatdState)
    (packet : List UInt8) :
    Silent state (dispatchIceAppPacket sodium env state packet).1 := by
  unfold dispatchIceAppPacket
  split
  · exact Silent.refl state
  · split_ifs
    · exact Silent.refl state
    · simp only
      split
      · unfold handleHandshakePacket finishCryptoHandshake
        split_ifs
        · exact Silent.refl state
        · exact Silent.refl state
        · split
          · exact Silent.refl state
          · exact silent_emit (state.setSession _) rfl
        · exact Silent.refl state
      · unfold handleStreamHeaderPacket receiveStreamHeader
        split_ifs
        · exact Silent.refl state
        · exact Silent.refl state
        · exact Silent.refl state
        · split <;> exact Silent.refl state
        · exact Silent.refl state
      · exact silent_handleChatPacket sodium env state .message _
      · exact silent_handleChatPacket sodium env state .close _
      · exact Silent.refl state
      · exact Silent.refl state

theorem silent_process (sodium : Sodium) (env : Env) (state : ChatdState) :
    Silent state (processReceivedIcePacket sodium env state).1 := by
  unfold processReceivedIcePacket
  split
  · exact Silent.refl state
  · rename_i packet ice _
    simp only
    split_ifs
    · exact Silent.refl state
    · have hdispatched := silent_dispatch sodium env
        (state.setSession { state.session with ice }) packet
      exact hdispatched.trans (silent_emit _ rfl)

theorem silent_serviceReceiveQueue (sodium : Sodium) (env : Env) (count : ℕ)
    (state : ChatdState) :
    Silent state (serviceReceiveQueue sodium env count state) := by
  induction count generalizing state with
  | zero => exact Silent.refl state
  | succ count ih =>
      have hprocessed := silent_process sodium env state
      unfold serviceReceiveQueue
      split <;> rename_i next hnext <;> rw [hnext] at hprocessed
      · exact hprocessed.trans (ih next)
      · split_ifs
        · exact hprocessed.trans (silent_failChatSession env next)
        · exact hprocessed

/-! ## The service step -/

theorem silent_establishSession (env : Env) (state : ChatdState) :
    Silent state (establishSession env state) := by
  unfold establishSession
  split_ifs
  · simp only
    split
    · exact Silent.refl state
    · exact silent_writeIpcResponse env _ _ rfl
  · exact Silent.refl state

theorem silent_notifyIceConnected (env : Env) (state : ChatdState) :
    Silent state (notifyIceConnected env state) := by
  unfold notifyIceConnected
  split_ifs <;> exact Silent.refl state

/-- An attempt of the service step, whether it fails or not. -/
def SilentAttempt (state : ChatdState) : Except ChatdState ChatdState → Prop
  | .ok next | .error next => Silent state next

theorem SilentAttempt.bind {state : ChatdState} {outcome : Outcome}
    {next : ChatdState → Except ChatdState ChatdState}
    (hsilent : Silent state outcome.1)
    (hnext : SilentAttempt outcome.1 (next outcome.1)) :
    SilentAttempt state (attempt outcome >>= next) := by
  unfold attempt
  split_ifs
  · have hbind : (Except.ok outcome.1 >>= next) = next outcome.1 := rfl
    rw [hbind]
    cases hresult : next outcome.1 with
    | ok result =>
        rw [hresult] at hnext
        exact hsilent.trans hnext
    | error failed =>
        rw [hresult] at hnext
        exact hsilent.trans hnext
  · exact hsilent

theorem silentAttempt_cryptoAttempt (sodium : Sodium) (env : Env)
    (state : ChatdState) : SilentAttempt state (cryptoAttempt sodium env state) := by
  unfold cryptoAttempt handshakeAttempt
  split_ifs
  · exact Silent.refl state
  · exact silent_serviceReceiveQueue sodium env _ state
  · exact Silent.refl state
  · exact Silent.refl state
  · refine SilentAttempt.bind (silent_handshakeStage sodium env state) ?_
    refine SilentAttempt.bind (silent_process sodium env _) ?_
    refine SilentAttempt.bind (silent_headerStage sodium env _) ?_
    refine SilentAttempt.bind (silent_process sodium env _) ?_
    exact silent_establishSession env _

theorem silent_serviceIceSession (sodium : Sodium) (env : Env) (state : ChatdState) :
    Silent state (serviceIceSession sodium env state) := by
  have hattempt : SilentAttempt state (serviceAttempt sodium env state) := by
    unfold serviceAttempt
    split_ifs
    · exact Silent.refl state
    · exact Silent.refl state
    · refine SilentAttempt.bind
        (silent_of_view (servicePendingRemoteSdp_view env state)) ?_
      refine SilentAttempt.bind
        (silent_of_view (serviceLocalSdp_view sodium env _)) ?_
      split_ifs
      · exact Silent.refl _
      · have hnotified := silent_notifyIceConnected env
          (serviceLocalSdp sodium env (servicePendingRemoteSdp env state).1).1
        have hcrypto := silentAttempt_cryptoAttempt sodium env (notifyIceConnected env
          (serviceLocalSdp sodium env (servicePendingRemoteSdp env state).1).1)
        generalize cryptoAttempt sodium env _ = result at hcrypto ⊢
        cases result <;> exact hnotified.trans hcrypto
      · exact Silent.refl _
      · exact Silent.refl _
  rw [serviceIceSession_eq]
  generalize serviceAttempt sodium env state = result at hattempt ⊢
  cases result with
  | ok next => exact hattempt
  | error failed => exact Silent.trans hattempt (silent_failChatSession env failed)

/-! ## Clients -/

theorem silent_closeChatByClient (sodium : Sodium) (env : Env) (state : ChatdState) :
    Silent state (closeChatByClient sodium env state) := by
  have hclose : Silent state (sendEncryptedChatClose sodium env state).1 :=
    silent_sendEncryptedChatPayload sodium env (state.setSessionState .closing) _ _ _
  exact hclose.trans (silent_closeLookupClient _)

theorem silent_serviceCommand (sodium : Sodium) (env : Env) (state : ChatdState)
    (fd : ℕ) (command : Str) :
    Silent state (serviceCommand sodium env state fd command) := by
  have hsend (text : Str) :
      Silent state (sendEncryptedChatMessage sodium env state text).1 := by
    unfold sendEncryptedChatMessage
    split_ifs
    · exact Silent.refl state
    · exact silent_sendEncryptedChatPayload sodium env state _ _ _
  unfold serviceCommand
  split_ifs
  · have hsent := hsend (command.drop sendMessagePrefix.length)
    split <;> rename_i next hnext <;> rw [hnext] at hsent
    · exact hsent
    · exact hsent.trans (silent_writeIpcLine env next fd rfl)
  · exact silent_writeIpcLine env state fd rfl

theorem silent_serviceActiveChatClient (sodium : Sodium) (env : Env)
    (state : ChatdState) (read : ClientRead) :
    Silent state (serviceActiveChatClient sodium env state read) := by
  have hcommands (commands : List Str) (state : ChatdState) :
      Silent state (serviceCommands sodium env commands state) := by
    induction commands generalizing state with
    | nil => exact Silent.refl state
    | cons command commands ih =>
        unfold serviceCommands
        split
        · exact Silent.refl state
        · split_ifs
          · exact Silent.refl state
          · exact silent_closeChatByClient sodium env state
          · exact (silent_serviceCommand sodium env state _ command).trans (ih _)
  unfold serviceActiveChatClient
  split_ifs
  · exact Silent.refl state
  · split
    · exact Silent.refl state
    · exact silent_closeLookupClient state
    · exact silent_closeChatByClient sodium env state
    · exact hcommands _ state

theorem silent_handleOpenChatCommand (env : Env) (fd : ℕ) (state : ChatdState)
    (peer : Str) : Silent state (handleOpenChatCommand env fd state peer).1 := by
  have hrefused {line : IpcLine} (hanswer : openChatAnswer state peer = .refuse line) :
      line.offlinePeer = none := by
    unfold openChatAnswer at hanswer
    split_ifs at hanswer <;> obtain rfl := OpenChatAnswer.refuse.inj hanswer <;> rfl
  unfold handleOpenChatCommand
  cases hanswer : openChatAnswer state peer with
  | refuse line => exact silent_writeIpcResponse env state fd (hrefused hanswer)
  | attach => exact silent_writeIpcResponse env _ fd rfl
  | request =>
      simp only [requestSession]
      have hqueued := silent_queueChatRequest env
        { state with
          lookupPeer := peer
          lookupClientFd := some fd
          openedPeer := peer
          chatRetryCount := 0
          sessionState := .requesting } peer
      split <;> rename_i next hnext <;> rw [hnext] at hqueued
      · exact hqueued
      · exact hqueued.trans (silent_writeLookupResponse env next rfl)

theorem silent_serviceIpc (env : Env) (state : ChatdState) (accepted : Option ℕ)
    (poll : IpcPoll) : Silent state (serviceIpc env state accepted poll) := by
  have haccept : Silent state (acceptIpcClient env state accepted) := by
    unfold acceptIpcClient
    split <;> exact Silent.refl state
  refine haccept.trans ?_
  unfold serviceIpc
  simp only
  generalize acceptIpcClient env state accepted = state
  split
  · exact Silent.refl state
  · rename_i fd _
    split_ifs
    · exact silent_emit (releaseIpcClient state) rfl
    · split
      · rename_i input _
        have hserved : Silent state
            (handleIpcClient env fd (releaseIpcClient state) input).1 := by
          unfold handleIpcClient
          simp only
          split_ifs
          · exact Silent.refl state
          · exact silent_writeIpcResponse env (releaseIpcClient state) fd rfl
          · split
            · exact silent_handleOpenChatCommand env fd (releaseIpcClient state) _
            · exact silent_writeIpcLine env (releaseIpcClient state) fd rfl
        split_ifs
        · exact hserved
        · exact hserved.trans (silent_emit _ rfl)
      · exact Silent.refl state

/-! ## Control messages -/

section Handlers

variable {sodium : Sodium} {env : Env} {state : ChatdState} {json : Str}

theorem silent_answerChatRequest (offer : ChatOffer) :
    Silent state (answerChatRequest env state offer).1 := by
  have hqueued : Silent state (queueChatAccept (state.setSessionState .requesting)
      offer.sender offer.sessionId).1 :=
    silent_queueFormatted (state.setSessionState .requesting) 512 _
  unfold answerChatRequest
  split <;> rename_i next hnext <;> rw [hnext] at hqueued
  · exact hqueued
  · exact hqueued.trans (silent_beginIceSession env next _ _ _ _)

theorem silent_handleChatRequest :
    Silent state (handleChatRequest env state json).1 := by
  unfold handleChatRequest
  split
  · exact Silent.refl state
  · rename_i offer _
    simp only
    split_ifs
    · exact Silent.refl state
    · exact silent_answerChatRequest offer

theorem silent_startAcceptedSession (offer : ChatOffer) :
    Silent state (startAcceptedSession env state offer) := by
  have hbegun := silent_beginIceSession env state offer.sender offer.sessionId true
    offer.identityPk
  unfold startAcceptedSession
  split <;> rename_i next hnext <;> rw [hnext] at hbegun
  · exact hbegun
  · exact hbegun.trans (silent_writeLookupResponse env next rfl)

theorem silent_handleChatAccept :
    Silent state (handleChatAccept env state json) := by
  unfold handleChatAccept
  split
  · exact Silent.refl state
  · rename_i offer _
    have hpinned : Silent state (state.setContacts (chatContactsVerifyOrPin
        env.contactsIo state.contacts offer.sender offer.identityPk).db) :=
      silent_of_log rfl
    simp only
    generalize chatContactsVerifyOrPin env.contactsIo state.contacts offer.sender
      offer.identityPk = contact at hpinned ⊢
    split
    · have hcancelled : Silent state (queueChatCancel (state.setContacts contact.db)
          offer.sender offer.sessionId).1 :=
        hpinned.trans (silent_queueFormatted _ 384 _)
      exact hcancelled.trans (silent_writeLookupResponse env _ rfl)
    · exact hpinned.trans (silent_startAcceptedSession offer)
    · exact hpinned.trans (silent_writeLookupResponse env _ rfl)

/-- The attached client was told that its peer is offline. -/
def ReportsPeer (state next : ChatdState) : Prop :=
  state.lookupClientFd ≠ none ∧
    next.reportedOffline = state.reportedOffline ++ [state.lookupPeer]

theorem reports_handleError :
    let next := (handleError env state json).1
    Silent state next ∨
      (errorCode json = bytes "peer_offline" ∧ ReportsPeer state next) := by
  unfold handleError
  simp only
  split_ifs with _ hoffline
  · exact Or.inl (silent_queueFormatted { state with phase := .hello } 128 _)
  · rcases reportedOffline_writeLookupResponse env state
      (.userOffline state.lookupPeer) with hsame | hreported
    · exact Or.inl hsame
    · exact Or.inr ⟨hoffline.2, hreported⟩
  · exact Or.inl (silent_writeLookupResponse env state rfl)

theorem reports_handleUserStatus :
    let next := handleUserStatus env state json
    Silent state next ∨ ReportsPeer state next := by
  unfold handleUserStatus
  split
  · rename_i username _ _
    split_ifs with hother
    · exact Or.inl (Silent.refl state)
    · exact Or.inl (silent_writeLookupResponse env state rfl)
    · obtain rfl := not_not.mp hother
      exact reportedOffline_writeLookupResponse env state (.userOffline _)
  · exact Or.inl (Silent.refl state)

/-- Two kinds of messages make the daemon report its peer as offline. -/
theorem reports_handleReceive :
    let next := (handleReceive sodium env state json).1
    Silent state next ∨
      (((jsonType json = some .error ∧ errorCode json = bytes "peer_offline") ∨
        jsonType json = some .userStatus) ∧ ReportsPeer state next) := by
  have hsilent {next : ChatdState} (hlog : next.log = state.log) :
      Silent state next := silent_of_log hlog
  unfold handleReceive
  split
  · rename_i htype
    exact reports_handleError.imp_right fun hreports =>
      ⟨Or.inl ⟨htype, hreports.1⟩, hreports.2⟩
  · split_ifs
    · exact Or.inl (silent_queueFormatted { state with phase := .hello } 128 _)
    · exact Or.inl (Silent.refl state)
  · split_ifs
    · unfold handleAuthChallenge queueAuthResponse
      split
      · exact Or.inl (hsilent rfl)
      · rename_i challenge _
        have hsigned := silent_emit { state with
          challenge, hasChallenge := true, phase := .authResponse }
          (rfl : (Effect.challengeSigned challenge).offlinePeer = none)
        exact Or.inl (Silent.trans hsigned (silent_queueFormatted _ 256 _))
    · exact Or.inl (Silent.refl state)
  · split_ifs
    · exact Or.inl (hsilent rfl)
    · exact Or.inl (Silent.refl state)
  · rename_i htype
    exact reports_handleUserStatus.imp_right fun hreports => ⟨Or.inr htype, hreports⟩
  · exact Or.inl silent_handleChatRequest
  · exact Or.inl silent_handleChatAccept
  · left
    unfold handleIceCredentials
    split
    · exact Silent.refl state
    · split_ifs
      · exact hsilent rfl
      · exact silent_of_view (applyRemoteIceSdp_view env state _)
  · left
    unfold handleChatCancel
    split_ifs
    · exact hsilent rfl
    · exact Silent.refl state
  · exact Or.inl (Silent.refl state)

end Handlers

theorem silent_loseControl (env : Env) (state : ChatdState) (code : Str) :
    Silent state (loseControl env state code) := by
  unfold loseControl
  simp only
  split_ifs
  · exact silent_writeLookupResponse env
      { state with
        controlWsi := false
        connected := false
        shouldReconnect := true
        nextReconnectAt := env.now + chatdReconnectSeconds } rfl
  · exact silent_of_log rfl

/-- A step reports nobody as offline, unless it handles one of the two kinds of
messages for the attached client. -/
theorem reports_step (sodium : Sodium) (state : ChatdState) (input : Env × ChatdEvent) :
    let next := chatdStep sodium state input
    Silent state next ∨ ∃ json, input.2.message = some json ∧
      ((jsonType json = some .error ∧ errorCode json = bytes "peer_offline") ∨
        jsonType json = some .userStatus) ∧ ReportsPeer state next := by
  obtain ⟨env, event⟩ := input
  cases event with
  | control event =>
      cases event with
      | established =>
          exact Or.inl (silent_queueFormatted
            { state with controlWsi := true, connected := true, phase := .register }
            512 _)
      | receive payload whole =>
          simp only [chatdStep, callbackChatdControl]
          split_ifs with hmalformed
          · exact Or.inl (silent_of_log rfl)
          · exact reports_handleReceive.imp_right fun hreports =>
              ⟨_, if_neg hmalformed, hreports⟩
      | writeable written =>
          simp only [chatdStep, callbackChatdControl]
          split_ifs <;> exact Or.inl (silent_of_log rfl)
      | connectionError => exact Or.inl (silent_loseControl env state _)
      | closed =>
          have hlost := silent_loseControl env state (bytes "server_disconnected")
          simp only [chatdStep, callbackChatdControl]
          split_ifs <;> exact Or.inl hlost
  | ipc accepted poll => exact Or.inl (silent_serviceIpc env state accepted poll)
  | activeClient read =>
      exact Or.inl (silent_serviceActiveChatClient sodium env state read)
  | ice callback =>
      simp only [chatdStep, serviceIceCallback]
      split_ifs <;> exact Or.inl (silent_of_log rfl)
  | serviceIce => exact Or.inl (silent_serviceIceSession sodium env state)
  | reconnect started =>
      simp only [chatdStep, serviceReconnect]
      split_ifs <;> exact Or.inl (silent_of_log rfl)

end ProntoChat.Daemon
