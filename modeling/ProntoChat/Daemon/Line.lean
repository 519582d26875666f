import ProntoChat.Daemon.Isolation
import ProntoChat.Daemon.Service

/-!
# The line to the control server

A `Line` keeps what the daemon knows about its control connection: the phase of
the login, the outgoing slot and what was written from it, and the client for
which a request is under way.  Every event changes it in one of the ways listed
by `LineMove`; `Signals` lists the places that queue a signalling message.
-/

namespace ProntoChat.Daemon

open ProntoChat.QuotedText
open ProntoChat.Protocole
open ProntoChat.Json
open ProntoChat.Contacts
open ProntoChat.Crypto
open ProntoChat.Ice

structure Line where
  identity : ChatIdentity
  phase : ChatdPhase
  connected : Bool
  controlWsi : Bool
  pending : Str
  frames : List Str
  client : Option ℕ
  peer : Str
  retries : ℕ

def ChatdState.line (state : ChatdState) : Line where
  identity := state.identity
  phase := state.phase
  connected := state.connected
  controlWsi := state.controlWsi
  pending := state.pending
  frames := state.frames
  client := state.lookupClientFd
  peer := state.lookupPeer
  retries := state.chatRetryCount

/-- The line without its client. -/
def Line.detached (line : Line) : Line :=
  { line with client := none, peer := [], retries := 0 }

/-- Nothing changed, or the client was let go. -/
def Detaches (before after : Line) : Prop := after = before ∨ after = before.detached

theorem Detaches.refl (line : Line) : Detaches line line := Or.inl rfl

theorem Detaches.trans {first second third : Line} (hfirst : Detaches first second)
    (hsecond : Detaches second third) : Detaches first third := by
  rcases hfirst with rfl | rfl
  · exact hsecond
  · rcases hsecond with rfl | rfl <;> exact Or.inr rfl

/-- A client that is still attached shows that nothing changed. -/
theorem Detaches.eq_of_client {before after : Line} (hdetaches : Detaches before after)
    (hclient : after.client ≠ none) : after = before := by
  rcases hdetaches with hsame | rfl
  · exact hsame
  · exact absurd rfl hclient

/-! ## Lines to clients -/

@[simp]
theorem line_emit (state : ChatdState) (effect : Effect) :
    (state.emit effect).line = state.line := rfl

@[simp]
theorem line_setSession (state : ChatdState) (session : ChatdSession) :
    (state.setSession session).line = state.line := rfl

@[simp]
theorem line_setSessionState (state : ChatdState) (next : ChatdSessionState) :
    (state.setSessionState next).line = state.line := rfl

@[simp]
theorem line_resetIceSession (state : ChatdState) :
    (resetIceSession state).line = state.line := rfl

@[simp]
theorem line_writeIpcLine (env : Env) (state : ChatdState) (fd : ℕ)
    (line : IpcLine) : (writeIpcLine env state fd line).1.line = state.line := rfl

@[simp]
theorem line_writeIpcResponse (env : Env) (state : ChatdState) (fd : ℕ)
    (line : IpcLine) : (writeIpcResponse env state fd line).line = state.line := rfl

@[simp]
theorem line_closeLookupClient (state : ChatdState) :
    (closeLookupClient state).line = state.line.detached := rfl

theorem detaches_writeLookupResponse (env : Env) (state : ChatdState)
    (line : IpcLine) :
    Detaches state.line (writeLookupResponse env state line).line := by
  unfold writeLookupResponse
  split
  · exact Detaches.refl _
  · exact Or.inr rfl

/-! ## The outgoing slot -/

/-- The line with a queued message. -/
def Line.queued (line : Line) (json : Str) : Line := { line with pending := json }

/-- A message was placed in the empty slot. -/
def Placed (state next : ChatdState) (json : Str) : Prop :=
  state.pending = [] ∧ next.line = state.line.queued json

/-- A message goes into the empty slot, or nothing changes. -/
theorem placed_queueFormatted (state : ChatdState) {size : ℕ} (json : Str)
    (hsize : size ≤ chatdMaxJsonSize) :
    queueFormatted state size json = (state, false) ∨
      ∃ next, queueFormatted state size json = (next, true) ∧
        Placed state next json := by
  unfold queueFormatted queueJson
  split_ifs with hlong hlarge hfull
  · exact Or.inl rfl
  · omega
  · exact Or.inl rfl
  · exact Or.inr ⟨_, rfl, not_not.mp hfull, rfl⟩

theorem placed_queueChatRequest (env : Env) (state : ChatdState) (peer : Str) :
    (∃ next, queueChatRequest env state peer = (next, false) ∧
      next.line = state.line) ∨
    ∃ next, queueChatRequest env state peer = (next, true) ∧
      Placed state next (offerJson .chatRequest state.identity peer
        (sodiumBin2hex env.sessionIdBytes)) := by
  unfold queueChatRequest
  rcases placed_queueFormatted (state.setSession { state.session with
      iceSessionId := sodiumBin2hex env.sessionIdBytes })
    (offerJson .chatRequest state.identity peer
      (sodiumBin2hex env.sessionIdBytes)) (by decide : 512 ≤ chatdMaxJsonSize) with
    hfull | ⟨next, hnext, hplaced⟩
  · exact Or.inl ⟨_, hfull, rfl⟩
  · exact Or.inr ⟨next, hnext, hplaced⟩

/-! ## Failures -/

/-- `retry_outgoing_chat_session` has a client to ask for again. -/
def Line.MayRetry (line : Line) : Prop :=
  line.client ≠ none ∧ line.peer ≠ [] ∧ line.controlWsi = true ∧
    line.retries < chatdIceRetryMax

/-- The request of a retry. -/
def Line.retryJson (line : Line) (env : Env) : Str :=
  offerJson .chatRequest line.identity line.peer (sodiumBin2hex env.sessionIdBytes)

/-- The line behind a retry whose request was queued. -/
def Line.retried (line : Line) (env : Env) : Line :=
  { line with pending := line.retryJson env, retries := line.retries + 1 }

/-- A session failed: the client was let go, or its request was queued again. -/
def Failed (env : Env) (state next : ChatdState) : Prop :=
  Detaches state.line next.line ∨
    (state.line.MayRetry ∧ state.session.encryptedSessionReady = false ∧
      state.pending = [] ∧ next.line = state.line.retried env)

theorem failed_retryOutgoingChatSession {env : Env} {state next : ChatdState}
    (hretry : retryOutgoingChatSession env state = some next) :
    Failed env state next := by
  unfold retryOutgoingChatSession at hretry
  split_ifs at hretry with hrefused
  simp only [not_or, not_le, Bool.not_eq_false, Bool.not_eq_true] at hrefused
  obtain ⟨hclient, hpeer, hwsi, hready, hcount, _⟩ := hrefused
  rcases placed_queueChatRequest env
    ((resetIceSession
      { state with chatRetryCount := state.chatRetryCount + 1 }).setSessionState
      .requesting) state.lookupPeer with
    ⟨queued, hqueued, hline⟩ | ⟨queued, hqueued, hempty, hline⟩
  · simp only [hqueued] at hretry
    obtain rfl := Option.some.inj hretry
    have hattached : queued.lookupClientFd ≠ none := by
      have hsame := congrArg Line.client hline
      exact fun hnone => hclient (hsame.symm.trans hnone)
    left
    right
    unfold writeLookupResponse
    split
    · exact absurd ‹_› hattached
    · rw [line_closeLookupClient, line_writeIpcResponse, hline]
      rfl
  · simp only [hqueued] at hretry
    obtain rfl := Option.some.inj hretry
    exact Or.inr ⟨⟨hclient, hpeer, hwsi, hcount⟩, hready, hempty, hline⟩

theorem detaches_reportFailedSession (env : Env) (state : ChatdState) :
    Detaches state.line (reportFailedSession env state).line := by
  unfold reportFailedSession
  split
  · exact Detaches.refl _
  · split_ifs
    · exact Or.inr rfl
    · exact detaches_writeLookupResponse env state _
    · exact detaches_writeLookupResponse env state _
    · exact Or.inr rfl

theorem failed_failChatSession (env : Env) (state : ChatdState) :
    Failed env state (failChatSession env state) := by
  unfold failChatSession
  split
  · rename_i next hretry
    exact failed_retryOutgoingChatSession hretry
  · exact Or.inl (detaches_reportFailedSession env (state.setSessionState .failed))

/-! ## Packets -/

@[simp]
theorem line_sendIcePacket (env : Env) (state : ChatdState)
    (type : ChatPacketType) (payload : List UInt8) :
    (sendIcePacket env state type payload).1.line = state.line := by
  rcases sendIcePacket_cases (Eq.refl (sendIcePacket env state type payload))
    with hsend | hsend | hsend <;> rw [hsend] <;> rfl

@[simp]
theorem line_sendSessionPacket (env : Env) (state : ChatdState)
    (type : ChatPacketType) (payload : List UInt8)
    (note : ChatdSession → ChatdSession) :
    (sendSessionPacket env state type payload note).1.line = state.line := by
  unfold sendSessionPacket
  rcases sendIcePacket_cases (Eq.refl (sendIcePacket env state type payload))
    with hsend | hsend | hsend <;> rw [hsend] <;> rfl

@[simp]
theorem line_sendEncryptedChatPayload (sodium : Sodium) (env : Env)
    (state : ChatdState) (type : ChatPacketType) (plaintext : List UInt8)
    (final : Bool) :
    (sendEncryptedChatPayload sodium env state type plaintext final).1.line =
      state.line := by
  unfold sendEncryptedChatPayload
  split_ifs
  · rfl
  · split
    · rfl
    · rw [line_sendIcePacket]
      rfl

theorem line_handshakeStage (sodium : Sodium) (env : Env) (state : ChatdState) :
    (handshakeStage sodium env state).1.line = state.line := by
  unfold handshakeStage startCryptoHandshake
  split_ifs
  · rcases initCryptoHandshake_cases (Eq.refl (initCryptoHandshake sodium env
      (state.setSessionState .cryptoHandshake))) with
      ⟨_, hinit⟩ | ⟨_, hinit⟩ | ⟨_, _, _, _, _, _, hinit⟩ <;> rw [hinit]
    · exact line_sendSessionPacket env _ _ _ _
    · rfl
    · exact line_sendSessionPacket env _ _ _ _
  · rfl

theorem line_headerStage (sodium : Sodium) (env : Env) (state : ChatdState) :
    (headerStage sodium env state).1.line = state.line := by
  unfold headerStage sendStreamHeader initStreamHeader
    chatCryptoSecretstreamInitPush
  split_ifs
  · exact line_sendSessionPacket env _ _ _ _
  · cases env.streamHeader with
    | none => rfl
    | some header => exact line_sendSessionPacket env _ _ _ _
  · rfl

theorem line_writeChatMessageToCli (env : Env) (state : ChatdState)
    (plaintext : List UInt8) :
    (writeChatMessageToCli env state plaintext).1.line = state.line := by
  unfold writeChatMessageToCli
  split
  · rfl
  · split_ifs <;> rfl

theorem detaches_closeChatByPeer (env : Env) (state : ChatdState) :
    Detaches state.line (closeChatByPeer env state).line := by
  unfold closeChatByPeer
  simp only [line_setSessionState, line_resetIceSession]
  split
  · exact Detaches.refl _
  · exact Or.inr rfl

theorem detaches_handleChatPacket (sodium : Sodium) (env : Env)
    (state : ChatdState) (type : ChatPacketType) (payload : List UInt8) :
    Detaches state.line
      (handleChatPacket sodium env state type payload).1.line := by
  unfold handleChatPacket decryptChatPayload
  split_ifs
  · exact Detaches.refl _
  · split
    · exact Detaches.refl _
    · rename_i plaintext tag stream _
      simp only
      split
      · split_ifs
        · exact Or.inl rfl
        · exact Or.inl (line_writeChatMessageToCli env _ plaintext)
      · split_ifs
        · exact Or.inl rfl
        · exact detaches_closeChatByPeer env (state.decrypted _ plaintext stream)
      · exact Or.inl rfl

theorem detaches_dispatch (sodium : Sodium) (env : Env) (state : ChatdState)
    (packet : List UInt8) :
    Detaches state.line (dispatchIceAppPacket sodium env state packet).1.line := by
  unfold dispatchIceAppPacket
  split
  · exact Detaches.refl _
  · split_ifs
    · exact Detaches.refl _
    · simp only
      split
      · unfold handleHandshakePacket finishCryptoHandshake
        split_ifs
        · exact Or.inl rfl
        · exact Or.inl rfl
        · split <;> exact Or.inl rfl
        · exact Or.inl rfl
      · unfold handleStreamHeaderPacket receiveStreamHeader
        split_ifs
        · exact Or.inl rfl
        · exact Or.inl rfl
        · exact Or.inl rfl
        · split <;> exact Or.inl rfl
        · exact Or.inl rfl
      · exact detaches_handleChatPacket sodium env state .message _
      · exact detaches_handleChatPacket sodium env state .close _
      · exact Detaches.refl _
      · exact Detaches.refl _

theorem detaches_process (sodium : Sodium) (env : Env) (state : ChatdState) :
    Detaches state.line (processReceivedIcePacket sodium env state).1.line := by
  unfold processReceivedIcePacket
  split
  · exact Detaches.refl _
  · rename_i packet ice _
    simp only
    split_ifs
    · exact Or.inl rfl
    · exact detaches_dispatch sodium env
        (state.setSession { state.session with ice }) packet

theorem line_establishSession (env : Env) (state : ChatdState) :
    (establishSession env state).line = state.line := by
  unfold establishSession
  split_ifs
  · simp only
    split <;> rfl
  · rfl

theorem line_notifyIceConnected (env : Env) (state : ChatdState) :
    (notifyIceConnected env state).line = state.line := by
  unfold notifyIceConnected
  split_ifs <;> rfl

theorem ready_notifyIceConnected (env : Env) (state : ChatdState) :
    (notifyIceConnected env state).session.encryptedSessionReady =
      state.session.encryptedSessionReady := by
  unfold notifyIceConnected
  split_ifs <;> rfl

/-! ## The service step -/

/-- An active session is ready. -/
def Secured (session : ChatdSession) : Prop :=
  session.iceActive = true → session.encryptedSessionReady = true

theorem secured_process (sodium : Sodium) (env : Env) {state : ChatdState}
    (hsecured : Secured state.session) :
    Secured (processReceivedIcePacket sodium env state).1.session := by
  unfold processReceivedIcePacket
  split
  · exact hsecured
  · rename_i packet ice _
    simp only
    split_ifs
    · exact hsecured
    · rcases dispatchIceAppPacket_frame sodium env
        (state.setSession { state.session with ice }) packet with
        ⟨_, _, _, _, _, hsession⟩ | ⟨_, _, hsession⟩
      · simp only [handleIceAppPacket, ChatdState.emit, hsession]
        exact hsecured
      · simp only [handleIceAppPacket, ChatdState.emit, hsession]
        exact fun hactive => absurd hactive Bool.false_ne_true

/-- A ready session is not asked for again. -/
theorem detaches_serviceReceiveQueue (sodium : Sodium) (env : Env) (count : ℕ)
    {state : ChatdState} (hsecured : Secured state.session) :
    Detaches state.line (serviceReceiveQueue sodium env count state).line := by
  induction count generalizing state with
  | zero => exact Detaches.refl _
  | succ count ih =>
      have hline := detaches_process sodium env state
      have hnext := secured_process sodium env hsecured
      unfold serviceReceiveQueue
      split
      · rename_i next hprocess
        rw [hprocess] at hline hnext
        exact hline.trans (ih hnext)
      · rename_i next hprocess
        rw [hprocess] at hline hnext
        split_ifs with hactive
        · rcases failed_failChatSession env next with hfailed | ⟨_, hunready, _⟩
          · exact hline.trans hfailed
          · exact absurd ((hnext hactive).symm.trans hunready) (by decide)
        · exact hline

/-- What an attempt of the service step leaves of the line, and of the readiness
of a session that fails. -/
def Progressed (state : ChatdState) : Except ChatdState ChatdState → Prop
  | .ok next => Detaches state.line next.line
  | .error failed => Detaches state.line failed.line ∧
      failed.session.encryptedSessionReady = state.session.encryptedSessionReady

theorem Progressed.trans {state middle : ChatdState}
    {result : Except ChatdState ChatdState}
    (hline : Detaches state.line middle.line)
    (hready : middle.session.encryptedSessionReady =
      state.session.encryptedSessionReady)
    (hresult : Progressed middle result) : Progressed state result := by
  cases result with
  | ok next => exact hline.trans hresult
  | error failed => exact ⟨hline.trans hresult.1, hresult.2.trans hready⟩

theorem Progressed.bind {state : ChatdState} {outcome : Outcome}
    {next : ChatdState → Except ChatdState ChatdState}
    (hline : Detaches state.line outcome.1.line)
    (hready : outcome.1.session.encryptedSessionReady =
      state.session.encryptedSessionReady)
    (hnext : Progressed outcome.1 (next outcome.1)) :
    Progressed state (attempt outcome >>= next) := by
  unfold attempt
  split_ifs
  · exact hnext.trans hline hready
  · exact ⟨hline, hready⟩

theorem progressed_handshakeAttempt (sodium : Sodium) (env : Env)
    {state : ChatdState} (hready : state.session.encryptedSessionReady = false) :
    Progressed state (handshakeAttempt sodium env state) := by
  unfold handshakeAttempt
  have hshaken := (handshakeStage_keeps sodium env state).2
  refine Progressed.bind (Or.inl (line_handshakeStage sodium env state)) hshaken ?_
  generalize (handshakeStage sodium env state).1 = state₁ at hshaken ⊢
  have hfirst := (processReceivedIcePacket_keeps sodium env state₁
    (hshaken.trans hready)).2
  refine Progressed.bind (detaches_process sodium env state₁) hfirst ?_
  generalize (processReceivedIcePacket sodium env state₁).1 = state₂ at hfirst ⊢
  have hheader := (headerStage_keeps sodium env state₂).2
  refine Progressed.bind (Or.inl (line_headerStage sodium env state₂)) hheader ?_
  generalize (headerStage sodium env state₂).1 = state₃ at hheader ⊢
  have hunready : state₃.session.encryptedSessionReady = false :=
    hheader.trans (hfirst.trans (hshaken.trans hready))
  refine Progressed.bind (detaches_process sodium env state₃)
    (processReceivedIcePacket_keeps sodium env state₃ hunready).2 ?_
  exact Or.inl (line_establishSession env _)

theorem progressed_cryptoAttempt (sodium : Sodium) (env : Env)
    (state : ChatdState) : Progressed state (cryptoAttempt sodium env state) := by
  unfold cryptoAttempt
  split_ifs with _ hready
  · exact Detaches.refl _
  · exact detaches_serviceReceiveQueue sodium env _ fun _ => hready
  · exact ⟨Detaches.refl _, rfl⟩
  · exact ⟨Detaches.refl _, rfl⟩
  · exact progressed_handshakeAttempt sodium env (by simpa using hready)

/-- Applying a description of the peer keeps what the own description needs. -/
theorem servicePendingRemoteSdp_keeps (env : Env) (state : ChatdState) :
    let next := (servicePendingRemoteSdp env state).1
    next.line = state.line ∧ next.session.icePeer = state.session.icePeer ∧
      next.session.iceSessionId = state.session.iceSessionId ∧
      next.session.ice.gatheringDone = state.session.ice.gatheringDone ∧
      next.session.iceLocalSdpSent = state.session.iceLocalSdpSent ∧
      next.session.encryptedSessionReady = state.session.encryptedSessionReady := by
  unfold servicePendingRemoteSdp applyRemoteIceSdp chatIceSessionSetRemoteSdp
  split_ifs <;> exact ⟨rfl, rfl, rfl, rfl, rfl, rfl⟩

/-- The local description can be queued. -/
def describes (state : ChatdState) : Bool :=
  state.session.ice.gatheringDone && !state.session.iceLocalSdpSent &&
    state.controlWsi

/-- The message with the description of the running session. -/
def credentialsJson (state : ChatdState) (sdp : Str) : Str :=
  iceCredentialsJson state.identity.username state.session.icePeer
    state.session.iceSessionId sdp

theorem placed_queueLocalIceSdp (sodium : Sodium) (env : Env)
    (state : ChatdState) :
    let next := (queueLocalIceSdp sodium env state).1
    next.session.encryptedSessionReady = state.session.encryptedSessionReady ∧
      (next.line = state.line ∨
        ∃ sdp, Placed state next (credentialsJson state sdp)) := by
  unfold queueLocalIceSdp
  split
  · exact ⟨rfl, Or.inl rfl⟩
  · split
    · exact ⟨rfl, Or.inl rfl⟩
    · rename_i sdp _
      have hsession := (queueFormatted_unchanged state chatdMaxJsonSize
        (credentialsJson state sdp)).session
      rcases placed_queueFormatted state (credentialsJson state sdp) le_rfl with
        hfull | ⟨next, hnext, hplaced⟩
      · rw [credentialsJson] at hfull
        simp only [hfull]
        exact ⟨trivial, Or.inl trivial⟩
      · rw [hnext] at hsession
        have hready : next.session.encryptedSessionReady =
            state.session.encryptedSessionReady :=
          congrArg ChatdSession.encryptedSessionReady hsession
        rw [credentialsJson] at hnext
        simp only [hnext]
        exact ⟨hready, Or.inr ⟨sdp, hplaced⟩⟩

theorem placed_serviceLocalSdp (sodium : Sodium) (env : Env) (state : ChatdState) :
    let next := (serviceLocalSdp sodium env state).1
    next.session.encryptedSessionReady = state.session.encryptedSessionReady ∧
      (next.line = state.line ∨
        (describes state = true ∧
          ∃ sdp, Placed state next (credentialsJson state sdp))) := by
  obtain ⟨hready, hqueue⟩ := placed_queueLocalIceSdp sodium env state
  unfold serviceLocalSdp
  split_ifs with hdue
  · obtain ⟨hgathered, hunsent, hwsi, _⟩ := hdue
    have hdescribes : describes state = true := by
      simp [describes, hgathered, hunsent, hwsi]
    split <;> rename_i next hnext <;> rw [hnext] at hready hqueue <;>
      exact ⟨hready, hqueue.imp_right fun hplaced => ⟨hdescribes, hplaced⟩⟩
  · exact ⟨rfl, Or.inl rfl⟩

/-- An attempt that failed is handed on. -/
theorem failed_settle (env : Env) {state : ChatdState}
    {result : Except ChatdState ChatdState} (hprogressed : Progressed state result) :
    Failed env state (settle env result) := by
  cases result with
  | ok next => exact Or.inl hprogressed
  | error failed =>
      obtain ⟨hline, hready⟩ := hprogressed
      rcases failed_failChatSession env failed with
        hfailed | ⟨hretry, hunready, hempty, hnext⟩
      · exact Or.inl (hline.trans hfailed)
      · -- The client is attached, so the failure has not touched the line.
        have hsame := hline.eq_of_client hretry.1
        have hslot : failed.line.pending = [] := hempty
        rw [hsame] at hretry hnext hslot
        exact Or.inr ⟨hretry, hready.symm.trans hunready, hslot, hnext⟩

/-- The part of the service step behind the exchange of descriptions. -/
def connectAttempt (sodium : Sodium) (env : Env) (state : ChatdState) :
    Except ChatdState ChatdState :=
  if state.session.ice.failed then .error state
  else if state.session.ice.ready then
    cryptoAttempt sodium env (notifyIceConnected env state)
  else if state.session.iceDeadlineAt ≤ env.now then .error state
  else .ok state

theorem progressed_connectAttempt (sodium : Sodium) (env : Env)
    (state : ChatdState) : Progressed state (connectAttempt sodium env state) := by
  unfold connectAttempt
  split_ifs
  · exact ⟨Detaches.refl _, rfl⟩
  · exact (progressed_cryptoAttempt sodium env (notifyIceConnected env state)).trans
      (Or.inl (line_notifyIceConnected env state)) (ready_notifyIceConnected env state)
  · exact ⟨Detaches.refl _, rfl⟩
  · exact Detaches.refl _

/-- The service step leaves the line as it is, lets the client go, queues the
local description or asks for a failed session again. -/
theorem line_serviceIceSession (sodium : Sodium) (env : Env) (state : ChatdState) :
    let next := serviceIceSession sodium env state
    Failed env state next ∨
      (describes state = true ∧ state.pending = [] ∧ ∃ sdp,
        Detaches (state.line.queued (credentialsJson state sdp)) next.line) := by
  rw [serviceIceSession_eq]
  unfold serviceAttempt
  split_ifs
  · exact Or.inl (Or.inl (Detaches.refl _))
  · exact Or.inl (failed_failChatSession env state)
  · obtain ⟨hline₁, hpeer, hid, hgathered, hsent, hready₁⟩ :=
      servicePendingRemoteSdp_keeps env state
    generalize servicePendingRemoteSdp env state = remote
      at hline₁ hpeer hid hgathered hsent hready₁ ⊢
    obtain ⟨described, ok⟩ := remote
    simp only at hline₁ hpeer hid hgathered hsent hready₁
    obtain ⟨hready₂, hlocal⟩ := placed_serviceLocalSdp sodium env described
    rcases hlocal with hline₂ | ⟨hdescribes, sdp, hempty, hline₂⟩
    · left
      apply failed_settle
      refine Progressed.bind (Or.inl hline₁) hready₁ ?_
      exact Progressed.bind (Or.inl hline₂) hready₂
        (progressed_connectAttempt sodium env _)
    · cases ok with
      | false => exact Or.inl (failed_settle env ⟨Or.inl hline₁, hready₁⟩)
      | true =>
          right
          have hidentity : described.identity = state.identity :=
            congrArg Line.identity hline₁
          have hwsi : described.controlWsi = state.controlWsi :=
            congrArg Line.controlWsi hline₁
          have hslot : described.pending = state.pending :=
            congrArg Line.pending hline₁
          have htail : Progressed (serviceLocalSdp sodium env described).1
              (attempt (serviceLocalSdp sodium env described) >>=
                connectAttempt sodium env) :=
            Progressed.bind (Detaches.refl _) rfl (progressed_connectAttempt sodium env _)
          have hqueued := failed_settle env htail
          rw [describes, hgathered, hsent, hwsi] at hdescribes
          rw [credentialsJson, hidentity, hpeer, hid, hline₁] at hline₂
          refine ⟨hdescribes, hslot.symm.trans hempty, sdp, ?_⟩
          rcases hqueued with hkept | ⟨_, _, hfree, _⟩
          · rw [hline₂] at hkept
            exact hkept
          · have hfull := congrArg Line.pending hline₂
            exact absurd (hfull.symm.trans hfree) nofun

/-! ## The attached client -/

theorem detaches_closeChatByClient (sodium : Sodium) (env : Env)
    (state : ChatdState) :
    Detaches state.line (closeChatByClient sodium env state).line := by
  right
  unfold closeChatByClient sendEncryptedChatClose
  rw [line_setSessionState, line_resetIceSession, line_closeLookupClient,
    line_sendEncryptedChatPayload]
  rfl

theorem line_serviceCommand (sodium : Sodium) (env : Env) (state : ChatdState)
    (fd : ℕ) (command : Str) :
    (serviceCommand sodium env state fd command).line = state.line := by
  have hsend (text : Str) :
      (sendEncryptedChatMessage sodium env state text).1.line = state.line := by
    unfold sendEncryptedChatMessage
    split_ifs
    · rfl
    · exact line_sendEncryptedChatPayload sodium env state _ _ _
  unfold serviceCommand
  split_ifs
  · split <;> rename_i next hnext
    · rw [← hsend, hnext]
    · rw [line_writeIpcLine, ← hsend, hnext]
  · rfl

theorem detaches_serviceCommands (sodium : Sodium) (env : Env)
    (commands : List Str) (state : ChatdState) :
    Detaches state.line (serviceCommands sodium env commands state).line := by
  induction commands generalizing state with
  | nil => exact Detaches.refl _
  | cons command commands ih =>
      unfold serviceCommands
      split
      · exact Detaches.refl _
      · rename_i fd _
        split_ifs
        · exact Detaches.refl _
        · exact detaches_closeChatByClient sodium env state
        · have hnext := ih (serviceCommand sodium env state fd command)
          rw [line_serviceCommand] at hnext
          exact hnext

theorem detaches_serviceActiveChatClient (sodium : Sodium) (env : Env)
    (state : ChatdState) (read : ClientRead) :
    Detaches state.line (serviceActiveChatClient sodium env state read).line := by
  unfold serviceActiveChatClient
  split_ifs
  · exact Detaches.refl _
  · split
    · exact Detaches.refl _
    · exact Or.inr rfl
    · exact detaches_closeChatByClient sodium env state
    · exact detaches_serviceCommands sodium env _ state

/-! ## Commands -/

/-- The line with a client that asks for a session. -/
def Line.asked (line : Line) (fd : ℕ) (peer json : Str) : Line :=
  { line with client := some fd, peer, retries := 0, pending := json }

/-- The line with a client that joins the running session. -/
def Line.joined (line : Line) (fd : ℕ) : Line := { line with client := some fd }

/-- The request of a client. -/
def requestJson (env : Env) (state : ChatdState) (peer : Str) : Str :=
  offerJson .chatRequest state.identity peer (sodiumBin2hex env.sessionIdBytes)

theorem line_handleOpenChatCommand (env : Env) (fd : ℕ) (state : ChatdState)
    (peer : Str) :
    let next := (handleOpenChatCommand env fd state peer).1
    Detaches state.line next.line ∨
      (openChatAnswer state peer = .attach ∧ next.line = state.line.joined fd) ∨
      (openChatAnswer state peer = .request ∧
        next.line = state.line.asked fd peer (requestJson env state peer)) := by
  unfold handleOpenChatCommand
  cases hanswer : openChatAnswer state peer with
  | refuse line => exact Or.inl (Detaches.refl _)
  | attach => exact Or.inr (Or.inl ⟨rfl, rfl⟩)
  | request =>
      simp only [requestSession]
      rcases placed_queueChatRequest env
        { state with
          lookupPeer := peer
          lookupClientFd := some fd
          openedPeer := peer
          chatRetryCount := 0
          sessionState := .requesting } peer with
        ⟨queued, hqueued, hline⟩ | ⟨queued, hqueued, _, hline⟩
      · have hattached : queued.lookupClientFd = some fd := congrArg Line.client hline
        simp only [hqueued, writeLookupResponse, hattached]
        refine Or.inl (Or.inr ?_)
        rw [line_closeLookupClient, line_writeIpcResponse, hline]
        rfl
      · simp only [hqueued]
        exact Or.inr (Or.inr ⟨trivial, hline⟩)

/-- The peer of the running session that a client of `service_ipc` joins, if one
does. -/
def joinedPeer (env : Env) (state : ChatdState) (accepted : Option ℕ)
    (poll : IpcPoll) : Option Str :=
  let state := acceptIpcClient env state accepted
  match state.pendingIpcClientFd, poll with
  | some _, .readable input =>
      if state.pendingIpcDeadlineAt ≤ env.now then none
      else
        (parseOpenChat (cString (input.take (chatIpcMaxCommand - 1)))).filter
          fun peer => openChatAnswer state peer = .attach
  | _, _ => none

/-- A command of a client lets nothing happen, joins the running session or asks
for a new one. -/
theorem line_serviceIpc (env : Env) (state : ChatdState) (accepted : Option ℕ)
    (poll : IpcPoll) :
    let next := serviceIpc env state accepted poll
    Detaches state.line next.line ∨
      (∃ fd peer, joinedPeer env state accepted poll = some peer ∧
        openChatAnswer state peer = .attach ∧
        next.line = state.line.joined fd) ∨
      ∃ fd peer, requestedPeer env state accepted poll = some peer ∧
        openChatAnswer state peer = .request ∧
        next.line = state.line.asked fd peer (requestJson env state peer) := by
  have haccept : (acceptIpcClient env state accepted).line = state.line ∧
      (∀ peer, openChatAnswer (acceptIpcClient env state accepted) peer =
        openChatAnswer state peer) ∧
      ∀ peer, requestJson env (acceptIpcClient env state accepted) peer =
        requestJson env state peer := by
    unfold acceptIpcClient
    split <;> exact ⟨rfl, fun _ => rfl, fun _ => rfl⟩
  obtain ⟨hline, hanswers, hjson⟩ := haccept
  unfold serviceIpc requestedPeer joinedPeer
  simp only [← hline, ← hanswers, ← hjson]
  generalize acceptIpcClient env state accepted = state
  cases hpending : state.pendingIpcClientFd with
  | none => exact Or.inl (Detaches.refl _)
  | some fd =>
      by_cases hbroken : poll = .broken ∨ state.pendingIpcDeadlineAt ≤ env.now
      · simp only [if_pos hbroken]
        exact Or.inl (Detaches.refl _)
      · simp only [if_neg hbroken]
        rw [not_or] at hbroken
        cases poll with
        | broken => exact Or.inl (Detaches.refl _)
        | idle => exact Or.inl (Detaches.refl _)
        | readable input =>
            simp only [apply_ite ChatdState.line, line_emit, ite_self,
              if_neg hbroken.2]
            unfold handleIpcClient
            simp only
            split_ifs
            · exact Or.inl (Detaches.refl _)
            · exact Or.inl (Detaches.refl _)
            · split
              · rename_i peer hpeer
                rcases line_handleOpenChatCommand env fd (releaseIpcClient state)
                  peer with hkept | ⟨hanswer, hnext⟩ | ⟨hanswer, hnext⟩
                · exact Or.inl hkept
                · have hattach : openChatAnswer state peer = .attach := hanswer
                  exact Or.inr (Or.inl ⟨fd, peer, by simp [hpeer, hattach], hattach,
                    hnext⟩)
                · have hrequest : openChatAnswer state peer = .request := hanswer
                  exact Or.inr (Or.inr ⟨fd, peer, by simp [hpeer, hrequest], hrequest,
                    hnext⟩)
              · exact Or.inl (Detaches.refl _)

/-! ## Control messages -/

/-- The connection is established or lost. -/
def ChatdEvent.isLink : ChatdEvent → Bool
  | .control .established | .control .connectionError | .control .closed => true
  | _ => false

/-- A message goes into the slot if it is empty. -/
def Queues (line next : Line) (json : Str) : Prop :=
  next = line ∨ (line.pending = [] ∧ next = line.queued json)

theorem queues_queueFormatted (state : ChatdState) {size : ℕ} (json : Str)
    (hsize : size ≤ chatdMaxJsonSize) :
    Queues state.line (queueFormatted state size json).1.line json := by
  rcases placed_queueFormatted state json hsize with hfull | ⟨next, hnext, hplaced⟩
  · rw [hfull]
    exact Or.inl rfl
  · rw [hnext]
    exact Or.inr hplaced

/-- The places that queue a signalling message for the session of the daemon,
and the message.  `retry` counts the attempts of the client as well. -/
inductive Signals (env : Env) (state : ChatdState) : ChatdEvent → Line → Prop where
  | accept {event : ChatdEvent} {json : Str} {offer : ChatOffer}
      (hmessage : event.message = some json)
      (htype : jsonType json = some .chatRequest)
      (hanswer : answeredChatRequest env state json = some offer) :
      Signals env state event (state.line.queued
        (offerJson .chatAccept state.identity offer.sender offer.sessionId))
  | cancel {event : ChatdEvent} {json : Str} {offer : ChatOffer}
      (hmessage : event.message = some json)
      (htype : jsonType json = some .chatAccept)
      (haccept : matchingChatAccept state json = some offer) :
      Signals env state event (state.line.queued
        (chatCancelJson state.identity.username offer.sender offer.sessionId))
  | retryAccepted {event : ChatdEvent} {json : Str} {offer : ChatOffer}
      (hmessage : event.message = some json)
      (htype : jsonType json = some .chatAccept)
      (haccept : matchingChatAccept state json = some offer)
      (hretry : state.line.MayRetry) :
      Signals env state event (state.line.retried env)
  | retry (hactive : state.session.iceActive = true)
      (hready : state.session.encryptedSessionReady = false)
      (hretry : state.line.MayRetry) :
      Signals env state .serviceIce (state.line.retried env)
  | describe {sdp : Str} (hactive : state.session.iceActive = true)
      (hdescribes : describes state = true) :
      Signals env state .serviceIce (state.line.queued (credentialsJson state sdp))
  | request {accepted : Option ℕ} {poll : IpcPoll} {fd : ℕ} {peer : Str}
      (hrequested : requestedPeer env state accepted poll = some peer)
      (hanswer : openChatAnswer state peer = .request) :
      Signals env state (.ipc accepted poll)
        (state.line.asked fd peer (requestJson env state peer))

/-- The ways in which an event changes the line, apart from letting the client
go. -/
inductive LineMove (env : Env) (state : ChatdState) : ChatdEvent → Line → Prop where
  | kept {event : ChatdEvent} (hlink : event.isLink = false) :
      LineMove env state event state.line
  | signals {event : ChatdEvent} {line : Line} (hempty : state.pending = [])
      (hsignals : Signals env state event line) : LineMove env state event line
  | joins {accepted : Option ℕ} {poll : IpcPoll} {fd : ℕ} {peer : Str}
      (hanswer : openChatAnswer state peer = .attach) :
      LineMove env state (.ipc accepted poll) (state.line.joined fd)
  | greets {event : ChatdEvent} {json : Str} {line : Line}
      (hmessage : event.message = some json) (hphase : state.phase = .register)
      (hqueues : Queues { state.line with phase := .hello } line
        (helloJson state.identity.username)) :
      LineMove env state event line
  | responds {event : ChatdEvent} {json : Str} {line : Line} {signature : Bytes 64}
      (hmessage : event.message = some json) (hphase : state.phase = .hello)
      (hqueues : Queues { state.line with phase := .authResponse } line
        (authResponseJson signature)) :
      LineMove env state event line
  | enters {event : ChatdEvent} {json : Str} (hmessage : event.message = some json)
      (htype : jsonType json = some .authOk) (hphase : state.phase = .authResponse) :
      LineMove env state event { state.line with phase := .online }
  | fails {event : ChatdEvent} (hlink : event.isLink = false) :
      LineMove env state event { state.line with phase := .failed }
  | writes (hfull : state.pending ≠ []) :
      LineMove env state (.control (.writeable true))
        { state.line with
          frames := state.frames ++ [state.pending]
          pending := [] }
  | establishes {line : Line}
      (hqueues : Queues
        { state.line with controlWsi := true, connected := true, phase := .register }
        line (registerJson state.identity)) :
      LineMove env state (.control .established) line
  | loses {event : ControlEvent}
      (hevent : event = .connectionError ∨ event = .closed) :
      LineMove env state (.control event)
        { state.line with controlWsi := false, connected := false }

/-- A step moves the line, and may let the client go. -/
def Moved (env : Env) (state : ChatdState) (event : ChatdEvent) (line : Line) :
    Prop :=
  ∃ moved, LineMove env state event moved ∧ Detaches moved line

theorem LineMove.moved {env : Env} {state : ChatdState} {event : ChatdEvent}
    {line : Line} (hmove : LineMove env state event line) :
    Moved env state event line :=
  ⟨line, hmove, Detaches.refl line⟩

/-- A session that cannot be begun fails in a state with the same line. -/
theorem line_beginIceSession (env : Env) (state : ChatdState)
    (peer sessionId : Str) (controlling : Bool) (remotePk : Bytes 32) :
    (beginIceSession env state peer sessionId controlling remotePk).1.line =
        state.line ∨
      ∃ failed, (beginIceSession env state peer sessionId controlling remotePk).1 =
          failChatSession env failed ∧ failed.line = state.line := by
  unfold beginIceSession chatIceSessionStart
  simp only
  split_ifs
  · exact Or.inr ⟨_, rfl, rfl⟩
  · exact Or.inr ⟨_, rfl, rfl⟩
  · cases env.iceStart with
    | error failure => exact Or.inr ⟨_, rfl, rfl⟩
    | ok started => exact Or.inl rfl

section Handlers

variable {sodium : Sodium} {env : Env} {state : ChatdState} {event : ChatdEvent}
  {json : Str}

theorem not_link_of_message (hmessage : event.message = some json) :
    event.isLink = false := by
  cases event with
  | control event => cases event <;> first | rfl | exact nomatch hmessage
  | _ => rfl

theorem moved_handleChatRequest (hmessage : event.message = some json)
    (htype : jsonType json = some .chatRequest) :
    Moved env state event (handleChatRequest env state json).1.line := by
  have hkept : LineMove env state event state.line :=
    LineMove.kept (not_link_of_message hmessage)
  unfold handleChatRequest
  cases hvalid : validChatRequest state json with
  | none => exact hkept.moved
  | some offer =>
      simp only
      split_ifs with hverified
      · exact hkept.moved
      · rw [not_not] at hverified
        unfold answerChatRequest queueChatAccept
        rcases placed_queueFormatted ((state.setContacts (chatContactsVerifyOrPin
            env.contactsIo state.contacts offer.sender
            offer.identityPk).db).setSessionState .requesting)
          (offerJson .chatAccept state.identity offer.sender offer.sessionId)
          (by decide : 512 ≤ chatdMaxJsonSize) with
          hfull | ⟨next, hnext, hempty, hline⟩
        · simp only [ChatdState.setContacts, ChatdState.setSessionState] at hfull ⊢
          simp only [hfull]
          exact hkept.moved
        · have hslot : state.pending = [] := hempty
          have hanswer : answeredChatRequest env state json = some offer := by
            simp [answeredChatRequest, hvalid, hverified, hslot]
          have hsignals : LineMove env state event next.line := by
            rw [hline]
            exact LineMove.signals hslot (Signals.accept hmessage htype hanswer)
          simp only [ChatdState.setContacts, ChatdState.setSessionState] at hnext ⊢
          simp only [hnext]
          rcases line_beginIceSession env next offer.sender offer.sessionId false
            offer.identityPk with hbegun | ⟨failed, hfailed, hsame⟩
          · rw [hbegun]
            exact hsignals.moved
          · -- The queued answer leaves no slot for a retry.
            rw [hfailed]
            rcases failed_failChatSession env failed with hlost | ⟨_, _, hfree, _⟩
            · rw [hsame] at hlost
              exact ⟨next.line, hsignals, hlost⟩
            · have hfull := congrArg Line.pending (hsame.trans hline)
              exact absurd (hfull.symm.trans hfree) (List.cons_ne_nil _ _)

theorem moved_startAcceptedSession {offer : ChatOffer}
    (hmessage : event.message = some json)
    (htype : jsonType json = some .chatAccept)
    (haccept : matchingChatAccept state json = some offer) {next : ChatdState}
    (hnext : next.line = state.line) :
    Moved env state event (startAcceptedSession env next offer).line := by
  have hbegin : Moved env state event (beginIceSession env next offer.sender
      offer.sessionId true offer.identityPk).1.line := by
    rcases line_beginIceSession env next offer.sender offer.sessionId true
      offer.identityPk with hbegun | ⟨failed, hfailed, hsame⟩
    · rw [hbegun, hnext]
      exact (LineMove.kept (not_link_of_message hmessage)).moved
    · rw [hfailed]
      rw [hnext] at hsame
      rcases failed_failChatSession env failed with hlost | ⟨hretry, _, hempty, hline⟩
      · rw [hsame] at hlost
        exact ⟨_, LineMove.kept (not_link_of_message hmessage), hlost⟩
      · have hslot : failed.line.pending = [] := hempty
        rw [hsame] at hretry hslot hline
        rw [hline]
        exact (LineMove.signals hslot
          (Signals.retryAccepted hmessage htype haccept hretry)).moved
  unfold startAcceptedSession
  split <;> rename_i begun hbegun <;> rw [hbegun] at hbegin
  · exact hbegin
  · obtain ⟨moved, hmove, hdetaches⟩ := hbegin
    exact ⟨moved, hmove, hdetaches.trans (detaches_writeLookupResponse env begun _)⟩

theorem moved_queueChatCancel {offer : ChatOffer}
    (hmessage : event.message = some json)
    (htype : jsonType json = some .chatAccept)
    (haccept : matchingChatAccept state json = some offer) {next : ChatdState}
    (hnext : next.line = state.line) :
    Moved env state event
      (queueChatCancel next offer.sender offer.sessionId).1.line := by
  have hidentity : next.identity = state.identity := congrArg Line.identity hnext
  have hqueue := queues_queueFormatted next
    (chatCancelJson next.identity.username offer.sender offer.sessionId)
    (by decide : 384 ≤ chatdMaxJsonSize)
  rw [hnext, hidentity] at hqueue
  rw [queueChatCancel, hidentity]
  rcases hqueue with hfull | ⟨hempty, hqueued⟩
  · rw [hfull]
    exact (LineMove.kept (not_link_of_message hmessage)).moved
  · rw [hqueued]
    exact (LineMove.signals hempty (Signals.cancel hmessage htype haccept)).moved

theorem moved_handleChatAccept (hmessage : event.message = some json)
    (htype : jsonType json = some .chatAccept) :
    Moved env state event (handleChatAccept env state json).line := by
  have hkept : LineMove env state event state.line :=
    LineMove.kept (not_link_of_message hmessage)
  unfold handleChatAccept
  cases haccept : matchingChatAccept state json with
  | none => exact hkept.moved
  | some offer =>
      simp only
      split
      · obtain ⟨moved, hmove, hdetaches⟩ : Moved env state event (queueChatCancel
            (state.setContacts (chatContactsVerifyOrPin env.contactsIo state.contacts
              offer.sender offer.identityPk).db) offer.sender offer.sessionId).1.line :=
          moved_queueChatCancel hmessage htype haccept rfl
        exact ⟨moved, hmove, hdetaches.trans (detaches_writeLookupResponse env _ _)⟩
      · exact moved_startAcceptedSession hmessage htype haccept rfl
      · exact ⟨_, hkept, detaches_writeLookupResponse env _ _⟩

theorem moved_handleError (hmessage : event.message = some json) :
    Moved env state event (handleError env state json).1.line := by
  have hlink := not_link_of_message hmessage
  unfold handleError
  simp only
  split_ifs with hexists hoffline
  · exact (LineMove.greets hmessage hexists.1
      (queues_queueFormatted { state with phase := .hello } _ (by decide))).moved
  · exact ⟨_, LineMove.kept hlink, detaches_writeLookupResponse env state _⟩
  · refine ⟨_, LineMove.fails hlink, ?_⟩
    rcases detaches_writeLookupResponse env state (.error (errorCode json)) with
      hsame | hdetached
    · exact Or.inl (congrArg (fun line : Line => { line with phase := .failed }) hsame)
    · exact Or.inr
        (congrArg (fun line : Line => { line with phase := .failed }) hdetached)

theorem moved_handleAuthChallenge (hmessage : event.message = some json)
    (hphase : state.phase = .hello) :
    Moved env state event (handleAuthChallenge sodium state json).1.line := by
  unfold handleAuthChallenge
  split
  · exact (LineMove.fails (not_link_of_message hmessage)).moved
  · rename_i challenge _
    exact (LineMove.responds hmessage hphase (queues_queueFormatted
      ({ state with
          challenge
          hasChallenge := true
          phase := .authResponse }.emit (.challengeSigned challenge)) _
        (by decide))).moved

theorem detaches_handleUserStatus :
    Detaches state.line (handleUserStatus env state json).line := by
  unfold handleUserStatus
  split
  · split_ifs
    · exact Detaches.refl _
    · exact detaches_writeLookupResponse env state _
    · exact detaches_writeLookupResponse env state _
  · exact Detaches.refl _

theorem line_handleIceCredentials :
    (handleIceCredentials sodium env state json).1.line = state.line := by
  unfold handleIceCredentials applyRemoteIceSdp
  split
  · rfl
  · split_ifs
    · rfl
    · split <;> rfl

theorem moved_handleReceive (hmessage : event.message = some json) :
    Moved env state event (handleReceive sodium env state json).1.line := by
  have hkept : LineMove env state event state.line :=
    LineMove.kept (not_link_of_message hmessage)
  unfold handleReceive
  split
  · exact moved_handleError hmessage
  · split_ifs with hphase
    · exact (LineMove.greets hmessage hphase
        (queues_queueFormatted { state with phase := .hello } _ (by decide))).moved
    · exact hkept.moved
  · split_ifs with hphase
    · exact moved_handleAuthChallenge hmessage hphase
    · exact hkept.moved
  · rename_i htype
    split_ifs with hphase
    · exact (LineMove.enters hmessage htype hphase).moved
    · exact hkept.moved
  · exact ⟨_, hkept, detaches_handleUserStatus⟩
  · rename_i htype
    exact moved_handleChatRequest hmessage htype
  · rename_i htype
    exact moved_handleChatAccept hmessage htype
  · rw [line_handleIceCredentials]
    exact hkept.moved
  · unfold handleChatCancel
    split_ifs <;> exact hkept.moved
  · exact hkept.moved

theorem moved_loseControl {event : ControlEvent}
    (hevent : event = .connectionError ∨ event = .closed) (code : Str) :
    Moved env state (.control event) (loseControl env state code).line := by
  refine ⟨_, LineMove.loses hevent, ?_⟩
  unfold loseControl
  simp only
  split_ifs
  · exact detaches_writeLookupResponse env _ _
  · exact Detaches.refl _

theorem moved_callbackChatdControl (event : ControlEvent) :
    Moved env state (.control event)
      (callbackChatdControl sodium env state event).1.line := by
  cases event with
  | established =>
      exact (LineMove.establishes (queues_queueFormatted
        { state with controlWsi := true, connected := true, phase := .register } _
        (by decide))).moved
  | receive payload whole =>
      simp only [callbackChatdControl]
      split_ifs with hmalformed
      · exact (LineMove.fails rfl).moved
      · exact moved_handleReceive (if_neg hmalformed)
  | writeable written =>
      simp only [callbackChatdControl]
      split_ifs with hempty hwritten
      · exact (LineMove.kept rfl).moved
      · exact (LineMove.fails rfl).moved
      · rw [Bool.not_eq_false] at hwritten
        subst hwritten
        exact (LineMove.writes hempty).moved
  | connectionError => exact moved_loseControl (Or.inl rfl) _
  | closed =>
      have hlost : Moved env state (.control .closed)
          (loseControl env state (bytes "server_disconnected")).line :=
        moved_loseControl (Or.inr rfl) _
      simp only [callbackChatdControl]
      split_ifs <;> exact hlost

end Handlers

/-- Every event moves the line as listed. -/
theorem moved_step (sodium : Sodium) (state : ChatdState) (input : Env × ChatdEvent) :
    Moved input.1 state input.2 (chatdStep sodium state input).line := by
  obtain ⟨env, event⟩ := input
  cases event with
  | control event => exact moved_callbackChatdControl event
  | ipc accepted poll =>
      rcases line_serviceIpc env state accepted poll with
        hkept | ⟨fd, peer, _, hanswer, hline⟩ |
        ⟨fd, peer, hrequested, hanswer, hline⟩
      · exact ⟨_, LineMove.kept rfl, hkept⟩
      · simp only [chatdStep, hline]
        exact (LineMove.joins hanswer).moved
      · obtain ⟨_, _, _, _, _, hempty⟩ := openChatAnswer_request hanswer
        simp only [chatdStep, hline]
        exact (LineMove.signals hempty (Signals.request hrequested hanswer)).moved
  | activeClient read =>
      exact ⟨_, LineMove.kept rfl, detaches_serviceActiveChatClient sodium env state read⟩
  | ice callback =>
      simp only [chatdStep, serviceIceCallback]
      split_ifs <;> exact (LineMove.kept rfl).moved
  | serviceIce =>
      by_cases hactive : state.session.iceActive = true
      · rcases line_serviceIceSession sodium env state with
          (hkept | ⟨hretry, hready, hempty, hline⟩) | ⟨hdescribes, hempty, sdp, hline⟩
        · exact ⟨_, LineMove.kept rfl, hkept⟩
        · simp only [chatdStep, hline]
          exact (LineMove.signals hempty (Signals.retry hactive hready hretry)).moved
        · exact ⟨_, LineMove.signals hempty (Signals.describe hactive hdescribes), hline⟩
      · rw [Bool.not_eq_true] at hactive
        simp only [chatdStep, serviceIceSession, if_pos hactive]
        exact (LineMove.kept rfl).moved
  | reconnect started =>
      simp only [chatdStep, serviceReconnect]
      split_ifs <;> exact (LineMove.kept rfl).moved

end ProntoChat.Daemon
