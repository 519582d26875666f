import ProntoChat.Daemon.Protocol

/-!
# The daemon refines the session protocol

Every function of the daemon is followed on the abstract view.  The result is
`chatdStep_moves`: each event is a finite sequence of protocol moves.
-/

namespace ProntoChat.Daemon

open ProntoChat.QuotedText
open ProntoChat.Protocole
open ProntoChat.Json
open ProntoChat.Contacts
open ProntoChat.Crypto
open ProntoChat.Ice

variable {sodium : Sodium} {admits : Admission}

/-- The view with another session in it. -/
def View.put (view : View) (session : SessionCore)
    (state : ChatdSessionState) : View :=
  { view with session, state }

/-- A call that succeeds has moved along the protocol; when it fails the
session is about to be discarded and only the rest of the view counts. -/
def Traced (sodium : Sodium) (admits : Admission) (view : View)
    (outcome : Outcome) : Prop :=
  (outcome.2 = true → Moves sodium admits view outcome.1.view) ∧
    (outcome.2 = false → ∃ session state,
      Moves sodium admits view (outcome.1.view.put session state))

theorem traced_of_moves {view : View} {outcome : Outcome}
    (hmoves : Moves sodium admits view outcome.1.view) :
    Traced sodium admits view outcome :=
  ⟨fun _ => hmoves, fun _ => ⟨_, _, hmoves⟩⟩

theorem Traced.head {view next : View} {outcome : Outcome}
    (hmoves : Moves sodium admits view next)
    (htraced : Traced sodium admits next outcome) :
    Traced sodium admits view outcome := by
  refine ⟨fun hok => hmoves.trans (htraced.1 hok), fun hfailed => ?_⟩
  obtain ⟨session, state, hrest⟩ := htraced.2 hfailed
  exact ⟨session, state, hmoves.trans hrest⟩

theorem traced_failed {view : View} {state : ChatdState}
    (session : SessionCore) (sessionState : ChatdSessionState)
    (hmoves : Moves sodium admits view (state.view.put session sessionState)) :
    Traced sodium admits view (state, false) :=
  ⟨fun h => by simp at h, fun _ => ⟨session, sessionState, hmoves⟩⟩

/-! ## Queues, lines and clients -/

@[simp]
theorem queueFormatted_view (state : ChatdState) (size : ℕ) (json : Str) :
    (queueFormatted state size json).1.view = state.view := by
  unfold queueFormatted queueJson
  split_ifs <;> rfl

theorem queueChatRequest_view (env : Env) (state : ChatdState) (peer : Str) :
    (queueChatRequest env state peer).1.view =
      { state.view with
        session := { state.view.session with
          sessionId := sodiumBin2hex env.sessionIdBytes } } := by
  rw [queueChatRequest, queueFormatted_view]
  rfl

theorem writeIpcLine_moves (env : Env) (state : ChatdState) (fd : ℕ)
    {line : IpcLine} (hquiet : line.Quiet) (session : SessionCore)
    (sessionState : ChatdSessionState) :
    Moves sodium admits (state.view.put session sessionState)
      ((writeIpcLine env state fd line).1.view.put session sessionState) :=
  Relation.ReflTransGen.single (Move.quiet hquiet)

theorem writeIpcResponse_moves (env : Env) (state : ChatdState) (fd : ℕ)
    {line : IpcLine} (hquiet : line.Quiet) (session : SessionCore)
    (sessionState : ChatdSessionState) :
    Moves sodium admits (state.view.put session sessionState)
      ((writeIpcResponse env state fd line).view.put session sessionState) := by
  unfold writeIpcResponse
  split_ifs
  · exact writeIpcLine_moves env state fd hquiet session sessionState
  · exact Relation.ReflTransGen.refl

theorem closeLookupClient_moves (state : ChatdState) (session : SessionCore)
    (sessionState : ChatdSessionState) :
    Moves sodium admits (state.view.put session sessionState)
      ((closeLookupClient state).view.put session sessionState) := by
  unfold closeLookupClient
  cases state.lookupClientFd with
  | none =>
      simp only [Option.toList_none, List.map_nil, List.append_nil]
      exact Relation.ReflTransGen.single Move.detach
  | some fd =>
      have hclosed : (Effect.ipcClosed fd).Quiet := trivial
      exact (Relation.ReflTransGen.single (Move.quiet hclosed)).tail Move.detach

theorem writeLookupResponse_moves (env : Env) (state : ChatdState)
    {line : IpcLine} (hquiet : line.Quiet) (session : SessionCore)
    (sessionState : ChatdSessionState) :
    Moves sodium admits (state.view.put session sessionState)
      ((writeLookupResponse env state line).view.put session sessionState) := by
  unfold writeLookupResponse
  cases state.lookupClientFd with
  | none => exact Relation.ReflTransGen.refl
  | some fd =>
      exact (writeIpcResponse_moves env state fd hquiet session
        sessionState).trans (closeLookupClient_moves _ session sessionState)

/-! ## Life cycle -/

theorem stop_moves {view : View} {next : ChatdSessionState} (sessionId : Str)
    (hnext : next ≠ .secure ∧ next ≠ .closing) :
    Moves sodium admits view (view.put { sessionId } next) :=
  Relation.ReflTransGen.single (Move.stop sessionId hnext)

theorem retryOutgoingChatSession_moves {env : Env} {state next : ChatdState}
    (hretry : retryOutgoingChatSession env state = some next)
    (session : SessionCore) (sessionState : ChatdSessionState) :
    Moves sodium admits (state.view.put session sessionState) next.view := by
  unfold retryOutgoingChatSession at hretry
  split_ifs at hretry
  have hstop : Moves sodium admits (state.view.put session sessionState)
      (state.view.put { sessionId := sodiumBin2hex env.sessionIdBytes }
        .requesting) :=
    stop_moves _ ⟨by decide, by decide⟩
  simp only at hretry
  split at hretry <;> rename_i queued hqueued
  all_goals
    have hview := congrArg (fun outcome => outcome.1.view) hqueued
    rw [queueChatRequest_view] at hview
    obtain rfl := Option.some.inj hretry
  · rw [← hview]
    exact hstop
  · have hquiet : (IpcLine.error (bytes "chat_retry_failed")).Quiet := trivial
    have hwrite : Moves sodium admits queued.view _ :=
      writeLookupResponse_moves env queued hquiet queued.session.core
        queued.sessionState
    rw [← hview] at hwrite
    refine hstop.trans (hwrite.trans ?_)
    rw [View.put, ← writeLookupResponse_session env queued,
      ← writeLookupResponse_sessionState env queued]
    exact Relation.ReflTransGen.refl

@[simp]
theorem reportFailedSession_sessionState (env : Env) (state : ChatdState) :
    (reportFailedSession env state).sessionState = state.sessionState := by
  unfold reportFailedSession
  split
  · rfl
  · split_ifs <;> simp <;> rfl

theorem reportFailedSession_moves (env : Env) (state : ChatdState)
    (session : SessionCore) (sessionState : ChatdSessionState) :
    Moves sodium admits (state.view.put session sessionState)
      ((reportFailedSession env state).view.put session sessionState) := by
  unfold reportFailedSession
  cases state.lookupClientFd with
  | none => exact Relation.ReflTransGen.refl
  | some fd =>
      have hclose : Moves sodium admits (state.view.put session sessionState)
          ((closeLookupClient (writeIpcLine env state fd
            (.error (bytes "session_failed"))).1).view.put session
              sessionState) :=
        (writeIpcLine_moves env state fd (by trivial) session
          sessionState).trans (closeLookupClient_moves _ session sessionState)
      simp only
      split_ifs
      · exact hclose
      · exact writeLookupResponse_moves env state (by trivial) session sessionState
      · exact writeLookupResponse_moves env state (by trivial) session sessionState
      · exact hclose

theorem resetIceSession_view {state : ChatdState} {next : ChatdSessionState}
    (hnext : state.sessionState = next) :
    (resetIceSession state).view = state.view.put {} next := by
  subst hnext
  rfl

/-- A failing session is discarded, whatever it has become. -/
theorem failChatSession_moves (env : Env) {view : View} {state : ChatdState}
    (session : SessionCore) (sessionState : ChatdSessionState)
    (hview : view = state.view.put session sessionState) :
    Moves sodium admits view (failChatSession env state).view := by
  subst hview
  unfold failChatSession
  cases hretry : retryOutgoingChatSession env state with
  | some next => exact retryOutgoingChatSession_moves hretry _ _
  | none =>
      have hfailed : (reportFailedSession env
          (state.setSessionState .failed)).sessionState = .failed :=
        reportFailedSession_sessionState env (state.setSessionState .failed)
      show Moves sodium admits _ (resetIceSession _).view
      rw [resetIceSession_view hfailed]
      exact (reportFailedSession_moves env (state.setSessionState .failed) session
        sessionState).trans (stop_moves [] ⟨by decide, by decide⟩)

/-- A session that is begun either runs or has failed again. -/
theorem beginIceSession_cases (sodium : Sodium) (admits : Admission)
    {env : Env} {state : ChatdState}
    {peer sessionId : Str} {controlling : Bool} {remotePk : Bytes 32}
    {outcome : Outcome}
    (hbegin : beginIceSession env state peer sessionId controlling remotePk =
      outcome) :
    (outcome.2 = true ∧ outcome.1.view =
        state.view.put (begunSession peer sessionId
          (if controlling then .initiator else .responder) remotePk)
          .iceNegotiating) ∨
      (outcome.2 = false ∧ ∀ session sessionState,
        Moves sodium admits (state.view.put session sessionState)
          outcome.1.view) := by
  simp only [beginIceSession] at hbegin
  split_ifs at hbegin
  · subst hbegin
    exact Or.inr ⟨rfl, fun _ _ => failChatSession_moves env _ _ rfl⟩
  · subst hbegin
    exact Or.inr ⟨rfl, fun _ _ => failChatSession_moves env _ _ rfl⟩
  · split at hbegin <;> subst hbegin
    · exact Or.inr ⟨rfl, fun _ _ => failChatSession_moves env _ _ rfl⟩
    · exact Or.inl ⟨rfl, rfl⟩

/-! ## Packets -/

theorem packetSent_quiet (packet : List UInt8) (accepted : Bool) :
    (Effect.packetSent packet accepted).Quiet := trivial

theorem sendIcePacket_moves (env : Env) {view : View} {state : ChatdState}
    (type : ChatPacketType) (payload : List UInt8)
    (hmoves : Moves sodium admits view state.view) :
    Moves sodium admits view (sendIcePacket env state type payload).1.view := by
  rcases sendIcePacket_cases (Eq.refl (sendIcePacket env state type payload))
    with hsend | hsend | hsend <;> rw [hsend]
  · exact hmoves
  · exact hmoves.tail (Move.quiet (packetSent_quiet _ _))
  · exact hmoves.tail (Move.quiet (packetSent_quiet _ _))

/-- Sending a packet of the session on the way to an updated session. -/
theorem sendSessionPacket_traced (env : Env) {view : View} {state : ChatdState}
    {type : ChatPacketType} {payload : List UInt8}
    {note : ChatdSession → ChatdSession} (session : SessionCore)
    (sessionState : ChatdSessionState)
    (hbase : Moves sodium admits view (state.view.put session sessionState))
    (hnote : Moves sodium admits
      ((state.sent (chatPacket type payload)).view.put session sessionState)
      ((state.sent (chatPacket type payload)).setSession
        (note state.session)).view) :
    Traced sodium admits view
      (sendSessionPacket env state type payload note) := by
  unfold sendSessionPacket
  rcases sendIcePacket_cases (Eq.refl (sendIcePacket env state type payload))
    with hsend | hsend | hsend <;> rw [hsend]
  · exact traced_failed session sessionState hbase
  · exact traced_failed session sessionState
      (hbase.tail (Move.quiet (packetSent_quiet _ _)))
  · exact traced_of_moves
      ((hbase.tail (Move.quiet (packetSent_quiet _ _))).trans hnote)

theorem startCryptoHandshake_traced (env : Env) (state : ChatdState)
    (hready : state.session.encryptedSessionReady = false) :
    Traced sodium admits state.view (startCryptoHandshake sodium env state) := by
  have hstate : Moves sodium admits state.view
      (state.setSessionState .cryptoHandshake).view :=
    Relation.ReflTransGen.single (Move.handshaking hready)
  refine Traced.head hstate ?_
  unfold startCryptoHandshake
  generalize state.setSessionState .cryptoHandshake = state
  rcases initCryptoHandshake_cases (Eq.refl (initCryptoHandshake sodium env state))
    with ⟨hsent, hinit⟩ | ⟨handshake, hinit⟩ |
      ⟨role, handshake, message, hunsent, hrole, hmessage, hinit⟩ <;>
    rw [hinit]
  · refine sendSessionPacket_traced env state.session.core state.sessionState
      Relation.ReflTransGen.refl ?_
    rw [← hsent]
    exact Relation.ReflTransGen.refl
  · exact traced_failed state.session.core state.sessionState
      Relation.ReflTransGen.refl
  · refine sendSessionPacket_traced env state.session.core state.sessionState
      ?_ ?_
    · simp only [view_emit, view_setSession, View.put]
      exact Relation.ReflTransGen.single (Move.signHandshake _ hrole)
    · simp only [view_emit, view_setSession, view_sent, View.put]
      exact Relation.ReflTransGen.single (Move.install hmessage hunsent)

theorem finishCryptoHandshake_traced (state : ChatdState) (payload : Bytes 96)
    (hfresh : state.session.cryptoKeysReady = false) :
    Traced sodium admits state.view
      (finishCryptoHandshake sodium state payload) := by
  unfold finishCryptoHandshake
  split
  · exact traced_failed state.session.core state.sessionState
      Relation.ReflTransGen.refl
  · rename_i handshake keys _ hfinish
    apply traced_of_moves
    simp only [view_emit, view_setSession]
    exact Relation.ReflTransGen.single (Move.accept hfinish hfresh)

theorem sendStreamHeader_traced (env : Env) (state : ChatdState) :
    Traced sodium admits state.view (sendStreamHeader sodium env state) := by
  unfold sendStreamHeader initStreamHeader
  split_ifs with hsent
  · refine sendSessionPacket_traced env state.session.core state.sessionState
      Relation.ReflTransGen.refl ?_
    rw [← hsent]
    exact Relation.ReflTransGen.refl
  · unfold chatCryptoSecretstreamInitPush
    cases env.streamHeader with
    | none =>
        exact traced_failed state.session.core state.sessionState
          Relation.ReflTransGen.refl
    | some header =>
        refine sendSessionPacket_traced env state.session.core
          state.sessionState Relation.ReflTransGen.refl ?_
        simp only [view_setSession, view_sent, View.put]
        exact Relation.ReflTransGen.single (Move.openPush _)

theorem receiveStreamHeader_traced (state : ChatdState) (payload : Bytes 24)
    (hkeys : state.session.cryptoKeysReady = true) :
    Traced sodium admits state.view (receiveStreamHeader sodium state payload) := by
  unfold receiveStreamHeader chatCryptoSecretstreamInitPull
  cases hpull : sodium.secretstreamInitPull payload
      state.session.cryptoKeys.rx with
  | none =>
      exact traced_failed state.session.core state.sessionState
        Relation.ReflTransGen.refl
  | some pull =>
      apply traced_of_moves
      simp only [view_setSession]
      exact Relation.ReflTransGen.single (Move.openPull hpull hkeys)

theorem closeChatByPeer_moves (env : Env) (state : ChatdState) :
    Moves sodium admits state.view (closeChatByPeer env state).view := by
  have hquiet : (IpcLine.chatClosed state.session.icePeer).Quiet := trivial
  unfold closeChatByPeer
  simp only [view_setSessionState]
  cases hclient : (state.setSessionState .closing).lookupClientFd with
  | none =>
      exact stop_moves [] ⟨by decide, by decide⟩
  | some fd =>
      have hwrite : Moves sodium admits state.view _ :=
        (writeIpcResponse_moves env (state.setSessionState .closing) fd hquiet
          state.session.core state.sessionState).trans
          (closeLookupClient_moves _ state.session.core state.sessionState)
      exact hwrite.trans (stop_moves [] ⟨by decide, by decide⟩)

theorem writeChatMessageToCli_moves {view : View} (env : Env)
    {state : ChatdState} {pk : Bytes 32} {keys : ChatCryptoSessionKeys}
    {plaintext : List UInt8} (hmoves : Moves sodium admits view state.view)
    (hdecrypted : Effect.decrypted state.session.icePeer pk keys .message
      plaintext ∈ state.log) :
    Moves sodium admits view (writeChatMessageToCli env state plaintext).1.view := by
  unfold writeChatMessageToCli
  split
  · exact hmoves
  · split_ifs
    · exact hmoves
    · exact hmoves.tail (Move.deliver _ _ _ hdecrypted)

theorem decryptChatPayload_traced (env : Env) (state : ChatdState)
    (type : ChatPacketType) (payload : List UInt8)
    (hready : state.session.encryptedSessionReady = true)
    (hstate : state.sessionState = .secure) :
    Traced sodium admits state.view
      (decryptChatPayload sodium env state type payload) := by
  unfold decryptChatPayload
  split
  · exact traced_of_moves Relation.ReflTransGen.refl
  · rename_i plaintext tag stream hdecrypt
    obtain ⟨pull, hpull, rfl⟩ := chatCryptoSecretstreamDecrypt_ok hdecrypt
    have hmove : Moves sodium admits state.view (state.decrypted type plaintext
        { state.session.cryptoStream with pull }).view :=
      Relation.ReflTransGen.single (Move.decrypt type hpull hready hstate)
    cases type with
    | message =>
        simp only
        split_ifs
        · exact traced_of_moves hmove
        · exact traced_of_moves
            (writeChatMessageToCli_moves env hmove List.mem_concat_self)
    | close =>
        simp only
        split_ifs
        · exact traced_of_moves hmove
        · exact traced_of_moves (hmove.trans (closeChatByPeer_moves env _))
    | _ => exact traced_of_moves hmove

theorem dispatchIceAppPacket_traced (env : Env) (state : ChatdState)
    (packet : List UInt8) :
    Traced sodium admits state.view
      (dispatchIceAppPacket sodium env state packet) := by
  have hrefl (ok : Bool) : Traced sodium admits state.view (state, ok) :=
    traced_of_moves Relation.ReflTransGen.refl
  have hchat (type : ChatPacketType) (payload : List UInt8) :
      Traced sodium admits state.view
        (handleChatPacket sodium env state type payload) := by
    unfold handleChatPacket
    split_ifs with hrefused
    · exact hrefl false
    · rw [not_or, not_or, not_not] at hrefused
      exact decryptChatPayload_traced env state type payload
        (by simpa using hrefused.2.1) hrefused.1
  unfold dispatchIceAppPacket
  split
  · exact hrefl false
  · split_ifs
    · exact hrefl false
    · simp only
      split
      · unfold handleHandshakePacket
        split_ifs with hrefused hlength hkeys
        · exact hrefl false
        · exact hrefl true
        · exact finishCryptoHandshake_traced state _ (by simpa using hkeys)
        · exact hrefl false
      · unfold handleStreamHeaderPacket
        split_ifs with hrefused hlength hkeys hreceived
        · exact hrefl false
        · exact hrefl true
        · exact hrefl true
        · exact receiveStreamHeader_traced state _ (by simpa using hkeys)
        · exact hrefl false
      · exact hchat _ _
      · exact hchat _ _
      · exact hrefl false
      · exact hrefl false

theorem processReceivedIcePacket_traced (env : Env) (state : ChatdState) :
    Traced sodium admits state.view
      (processReceivedIcePacket sodium env state) := by
  unfold processReceivedIcePacket
  split
  · exact traced_of_moves Relation.ReflTransGen.refl
  · rename_i packet ice _
    simp only
    split_ifs
    · exact traced_of_moves Relation.ReflTransGen.refl
    · have hdispatch : Traced sodium admits state.view _ :=
        dispatchIceAppPacket_traced env
          (state.setSession { state.session with ice }) packet
      have hquiet (ok : Bool) : (Effect.packetHandled ok).Quiet := trivial
      refine ⟨fun hok => (hdispatch.1 hok).tail (Move.quiet (hquiet _)), ?_⟩
      intro hfailed
      obtain ⟨session, sessionState, hmoves⟩ := hdispatch.2 hfailed
      exact ⟨session, sessionState, hmoves.tail (Move.quiet (hquiet _))⟩

/-! ## Service -/

theorem orFail_moves {env : Env} {view : View} {outcome : Outcome}
    {next : ChatdState → ChatdState}
    (houtcome : Traced sodium admits view outcome)
    (hnext : outcome.2 = true →
      Moves sodium admits outcome.1.view (next outcome.1).view) :
    Moves sodium admits view (orFail env outcome next).view := by
  unfold orFail
  split_ifs with hok
  · exact (houtcome.1 hok).trans (hnext hok)
  · obtain ⟨session, sessionState, hmoves⟩ := houtcome.2 (by simpa using hok)
    exact hmoves.trans (failChatSession_moves env _ _ rfl)

theorem serviceReceiveQueue_moves (env : Env) (count : ℕ) {state : ChatdState}
    (hserved : Served state.session) :
    Moves sodium admits state.view
      (serviceReceiveQueue sodium env count state).view := by
  induction count generalizing state with
  | zero => exact Relation.ReflTransGen.refl
  | succ count ih =>
      have htraced : Traced sodium admits state.view _ :=
        processReceivedIcePacket_traced env state
      have hnext := processReceivedIcePacket_served sodium env hserved
      unfold serviceReceiveQueue
      generalize processReceivedIcePacket sodium env state = outcome
        at htraced hnext ⊢
      obtain ⟨next, ok⟩ := outcome
      cases ok with
      | true => exact (htraced.1 rfl).trans (ih (hnext.2 rfl))
      | false =>
          obtain ⟨session, sessionState, hmoves⟩ := htraced.2 rfl
          have hactive : next.session.iceActive = true := hnext.1 rfl
          simp only [hactive, if_true]
          exact hmoves.trans (failChatSession_moves env _ _ rfl)

/-- The line about an encrypted session, to the attached client. -/
theorem announce_moves (env : Env) {state : ChatdState} {fd : ℕ}
    (relayed : Bool) (hclient : state.lookupClientFd = some fd)
    (hactive : state.session.iceActive = true)
    (hready : state.session.encryptedSessionReady = true)
    (hbound : state.sessionState = .secure ∨
      state.openedPeer = state.session.icePeer) :
    Moves sodium admits state.view
      (writeIpcResponse env state fd
        (.encryptedSession state.session.icePeer relayed)).view := by
  have hopened : state.view.client = some state.openedPeer := by
    simp [ChatdState.view, ChatdState.opened, hclient]
  unfold writeIpcResponse
  split_ifs
  · rw [writeIpcLine_attached env _ hclient]
    exact Relation.ReflTransGen.single
      (Move.announce fd relayed _ hopened hactive ⟨hready, hbound⟩)
  · exact Relation.ReflTransGen.refl

theorem establishSession_moves (env : Env) (state : ChatdState)
    (hactive : state.session.iceActive = true)
    (hready : state.session.encryptedSessionReady = false) :
    Moves sodium admits state.view (establishSession env state).view := by
  unfold establishSession
  split_ifs with hopen
  · have hsecure : Moves sodium admits state.view
        ((state.setSession
          { state.session with encryptedSessionReady := true }).setSessionState
            .secure).view :=
      Relation.ReflTransGen.single
        (Move.establish hactive hready hopen.1 hopen.2.1 hopen.2.2)
    simp only
    split
    · exact hsecure
    · rename_i fd hclient
      exact hsecure.trans (announce_moves env _ hclient hactive rfl (Or.inl rfl))
  · exact Relation.ReflTransGen.refl

theorem handshakeStage_traced (env : Env) (state : ChatdState)
    (hready : state.session.encryptedSessionReady = false) :
    Traced sodium admits state.view (handshakeStage sodium env state) := by
  unfold handshakeStage
  split_ifs
  · exact startCryptoHandshake_traced env state hready
  · exact traced_of_moves Relation.ReflTransGen.refl

theorem headerStage_traced (env : Env) (state : ChatdState) :
    Traced sodium admits state.view (headerStage sodium env state) := by
  unfold headerStage
  split_ifs
  · exact sendStreamHeader_traced env state
  · exact traced_of_moves Relation.ReflTransGen.refl

theorem serviceHandshake_moves (env : Env) (state : ChatdState)
    (hactive : state.session.iceActive = true)
    (hready : state.session.encryptedSessionReady = false) :
    Moves sodium admits state.view (serviceHandshake sodium env state).view := by
  refine orFail_moves (handshakeStage_traced env state hready) fun _ => ?_
  have hkeeps₁ := handshakeStage_keeps sodium env state
  have hactive₁ := hkeeps₁.1.trans hactive
  have hready₁ := hkeeps₁.2.trans hready
  generalize (handshakeStage sodium env state).1 = state₁ at hactive₁ hready₁ ⊢
  refine orFail_moves (processReceivedIcePacket_traced env state₁) fun _ => ?_
  have hkeeps₂ := processReceivedIcePacket_keeps sodium env state₁ hready₁
  have hactive₂ := hkeeps₂.1.trans hactive₁
  have hready₂ := hkeeps₂.2.trans hready₁
  generalize (processReceivedIcePacket sodium env state₁).1 = state₂
    at hactive₂ hready₂ ⊢
  refine orFail_moves (headerStage_traced env state₂) fun _ => ?_
  have hkeeps₃ := headerStage_keeps sodium env state₂
  have hactive₃ := hkeeps₃.1.trans hactive₂
  have hready₃ := hkeeps₃.2.trans hready₂
  generalize (headerStage sodium env state₂).1 = state₃ at hactive₃ hready₃ ⊢
  refine orFail_moves (processReceivedIcePacket_traced env state₃) fun _ => ?_
  have hkeeps₄ := processReceivedIcePacket_keeps sodium env state₃ hready₃
  exact establishSession_moves env _ (hkeeps₄.1.trans hactive₃)
    (hkeeps₄.2.trans hready₃)

theorem serviceCryptoSession_moves (env : Env) (state : ChatdState)
    (hactive : state.session.iceActive = true) :
    Moves sodium admits state.view
      (serviceCryptoSession sodium env state).view := by
  unfold serviceCryptoSession
  split_ifs with _ hready
  · exact Relation.ReflTransGen.refl
  · exact serviceReceiveQueue_moves env _ (Or.inl hactive)
  · exact failChatSession_moves env _ _ rfl
  · exact failChatSession_moves env _ _ rfl
  · exact serviceHandshake_moves env state hactive (by simpa using hready)

@[simp]
theorem applyRemoteIceSdp_view (env : Env) (state : ChatdState) (sdp : Str) :
    (applyRemoteIceSdp env state sdp).1.view = state.view := by
  unfold applyRemoteIceSdp
  split <;> rfl

theorem servicePendingRemoteSdp_view (env : Env) (state : ChatdState) :
    (servicePendingRemoteSdp env state).1.view = state.view := by
  unfold servicePendingRemoteSdp
  split_ifs
  · have hview := applyRemoteIceSdp_view env state
      state.session.pendingRemoteIceSdp
    generalize applyRemoteIceSdp env state state.session.pendingRemoteIceSdp =
      outcome at hview ⊢
    obtain ⟨next, ok⟩ := outcome
    cases ok <;> exact hview
  · rfl

theorem queueLocalIceSdp_view (sodium : Sodium) (env : Env) (state : ChatdState) :
    (queueLocalIceSdp sodium env state).1.view = state.view := by
  unfold queueLocalIceSdp
  split
  · rfl
  · split
    · rfl
    · rename_i sdp _ _ encoded _
      have hview := queueFormatted_view state chatdMaxJsonSize
        (iceCredentialsJson state.identity.username state.session.icePeer
          state.session.iceSessionId encoded)
      generalize queueFormatted state chatdMaxJsonSize _ = outcome at hview ⊢
      obtain ⟨next, ok⟩ := outcome
      cases ok <;> exact hview

theorem serviceLocalSdp_view (sodium : Sodium) (env : Env) (state : ChatdState) :
    (serviceLocalSdp sodium env state).1.view = state.view := by
  unfold serviceLocalSdp
  split_ifs
  · have hview := queueLocalIceSdp_view sodium env state
    generalize queueLocalIceSdp sodium env state = outcome at hview ⊢
    obtain ⟨next, ok⟩ := outcome
    cases ok <;> exact hview
  · rfl

theorem traced_of_view {view : View} {outcome : Outcome}
    (hview : outcome.1.view = view) : Traced sodium admits view outcome := by
  subst hview
  exact traced_of_moves Relation.ReflTransGen.refl

theorem notifyIceConnected_moves (env : Env) (state : ChatdState) :
    Moves sodium admits state.view (notifyIceConnected env state).view := by
  unfold notifyIceConnected
  split_ifs with hnotified
  · exact Relation.ReflTransGen.refl
  · exact Relation.ReflTransGen.single Move.connected

theorem notifyIceConnected_active (env : Env) (state : ChatdState) :
    (notifyIceConnected env state).session.iceActive =
      state.session.iceActive := by
  unfold notifyIceConnected
  split_ifs <;> rfl

theorem serviceIceSession_moves (env : Env) (state : ChatdState) :
    Moves sodium admits state.view (serviceIceSession sodium env state).view := by
  unfold serviceIceSession
  split_ifs with hinactive
  · exact Relation.ReflTransGen.refl
  · exact failChatSession_moves env _ _ rfl
  rw [Bool.not_eq_false] at hinactive
  have hremote := servicePendingRemoteSdp_view env state
  refine orFail_moves (traced_of_view hremote) fun _ => ?_
  have hactive₁ := (congrArg (fun view => view.session.active) hremote).trans
    hinactive
  generalize (servicePendingRemoteSdp env state).1 = state₁ at hactive₁ ⊢
  have hlocal := serviceLocalSdp_view sodium env state₁
  refine orFail_moves (traced_of_view hlocal) fun _ => ?_
  have hactive₂ := (congrArg (fun view => view.session.active) hlocal).trans
    hactive₁
  generalize (serviceLocalSdp sodium env state₁).1 = state₂ at hactive₂ ⊢
  split_ifs
  · exact failChatSession_moves env _ _ rfl
  · exact (notifyIceConnected_moves env state₂).trans
      (serviceCryptoSession_moves env _
        ((notifyIceConnected_active env state₂).trans hactive₂))
  · exact failChatSession_moves env _ _ rfl
  · exact Relation.ReflTransGen.refl

/-! ## Control messages -/

theorem answerChatRequest_cases (env : Env) (state : ChatdState)
    (offer : ChatOffer) :
    Moves sodium admits state.view (answerChatRequest env state offer).1.view ∨
      (state.pending = [] ∧ (answerChatRequest env state offer).1.view =
        state.view.put (begunSession offer.sender offer.sessionId .responder
          offer.identityPk) .iceNegotiating) := by
  have hawait : Moves sodium admits state.view
      (state.setSessionState .requesting).view :=
    Relation.ReflTransGen.single Move.await
  have hview := queueFormatted_view (state.setSessionState .requesting) 512
    (offerJson .chatAccept state.identity offer.sender offer.sessionId)
  unfold answerChatRequest queueChatAccept
  cases hqueue : queueFormatted (state.setSessionState .requesting) 512
      (offerJson .chatAccept (state.setSessionState .requesting).identity
        offer.sender offer.sessionId) with
  | mk queued ok =>
      have hqueued : queued.view = (state.setSessionState .requesting).view :=
        (congrArg (fun outcome => outcome.1.view) hqueue).symm.trans hview
      cases ok with
      | false =>
          left
          rw [← hqueued] at hawait
          exact hawait
      | true =>
          rcases beginIceSession_cases sodium admits
            (Eq.refl (beginIceSession env queued offer.sender offer.sessionId
              false offer.identityPk)) with ⟨_, hbegun⟩ | ⟨_, hfailed⟩
          · right
            refine ⟨(queueFormatted_ok hqueue).1, hbegun.trans ?_⟩
            rw [hqueued]
            rfl
          · left
            rw [← hqueued] at hawait
            exact hawait.trans (hfailed queued.session.core queued.sessionState)

theorem handleChatRequest_moves {env : Env} {state : ChatdState} {json : Str}
    (hio : admits.io env.contactsIo)
    (hanswer : ∀ offer, answeredChatRequest env state json = some offer →
      admits.answer state.view offer.sender) :
    Moves sodium admits state.view
      (handleChatRequest env state json).1.view := by
  unfold handleChatRequest
  cases hvalid : validChatRequest state json with
  | none => exact Relation.ReflTransGen.refl
  | some offer =>
      simp only
      have hpin : Moves sodium admits state.view (state.setContacts
          (chatContactsVerifyOrPin env.contactsIo state.contacts offer.sender
            offer.identityPk).db).view :=
        Relation.ReflTransGen.single
          (Move.pin hio offer.sender offer.identityPk)
      split_ifs with hcontact
      · exact hpin
      · rw [not_not] at hcontact
        rcases answerChatRequest_cases env (state.setContacts
          (chatContactsVerifyOrPin env.contactsIo state.contacts offer.sender
            offer.identityPk).db) offer with hmoves | ⟨hpending, hview⟩
        · exact hpin.trans hmoves
        · have hanswered : answeredChatRequest env state json = some offer := by
            have hempty : state.pending = [] := hpending
            simp [answeredChatRequest, hvalid, hcontact, hempty]
          rw [hview]
          exact Relation.ReflTransGen.single
            (Move.answer hio hcontact (hanswer offer hanswered))

theorem opened_of_attached {state : ChatdState}
    (hclient : state.lookupClientFd ≠ none) : state.view.client ≠ none := by
  simp [ChatdState.view, ChatdState.opened, hclient]

/-- A line to the attached client, after a call that queued a message. -/
theorem respond_moves (env : Env) {view : View} {state : ChatdState}
    {line : IpcLine} (hquiet : line.Quiet)
    (hmoves : Moves sodium admits view state.view) :
    Moves sodium admits view (writeLookupResponse env state line).view := by
  have hwrite : Moves sodium admits state.view _ :=
    writeLookupResponse_moves env state hquiet state.session.core
      state.sessionState
  refine hmoves.trans (hwrite.trans ?_)
  rw [View.put, ← writeLookupResponse_session env state line,
    ← writeLookupResponse_sessionState env state line]
  exact Relation.ReflTransGen.refl

theorem startAcceptedSession_cases (env : Env) (state : ChatdState)
    (offer : ChatOffer) :
    Moves sodium admits state.view (startAcceptedSession env state offer).view ∨
      (startAcceptedSession env state offer).view =
        state.view.put (begunSession offer.sender offer.sessionId .initiator
          offer.identityPk) .iceNegotiating := by
  unfold startAcceptedSession
  cases hbegin : beginIceSession env state offer.sender offer.sessionId true
      offer.identityPk with
  | mk begun ok =>
      rcases beginIceSession_cases sodium admits hbegin with
        ⟨hok, hbegun⟩ | ⟨hok, hfailed⟩
      · obtain rfl : ok = true := hok
        exact Or.inr hbegun
      · obtain rfl : ok = false := hok
        exact Or.inl (respond_moves env (by trivial)
          (hfailed state.session.core state.sessionState))

theorem handleChatAccept_moves {env : Env} {state : ChatdState} {json : Str}
    (hio : admits.io env.contactsIo) :
    Moves sodium admits state.view (handleChatAccept env state json).view := by
  unfold handleChatAccept
  cases hmatching : matchingChatAccept state json with
  | none => exact Relation.ReflTransGen.refl
  | some offer =>
      have hoffer : state.lookupClientFd ≠ none ∧
          offer.sender = state.lookupPeer := by
        unfold matchingChatAccept at hmatching
        split at hmatching
        · simp at hmatching
        · split_ifs at hmatching with hfields
          obtain rfl := Option.some.inj hmatching
          exact ⟨hfields.1, hfields.2.1⟩
      have hpin : Moves sodium admits state.view (state.setContacts
          (chatContactsVerifyOrPin env.contactsIo state.contacts offer.sender
            offer.identityPk).db).view :=
        Relation.ReflTransGen.single
          (Move.pin hio offer.sender offer.identityPk)
      simp only
      split
      · refine respond_moves env (by trivial) ?_
        rw [queueChatCancel, queueFormatted_view]
        exact hpin
      · rename_i hcontact
        rcases startAcceptedSession_cases env (state.setContacts
          (chatContactsVerifyOrPin env.contactsIo state.contacts offer.sender
            offer.identityPk).db) offer with hmoves | hview
        · exact hpin.trans hmoves
        · rw [hview]
          exact Relation.ReflTransGen.single (Move.accepted hio hcontact
            (opened_of_attached hoffer.1) hoffer.2)
      · exact respond_moves env (by trivial) hpin

theorem handleChatCancel_moves (state : ChatdState) (json : Str) :
    Moves sodium admits state.view (handleChatCancel state json).view := by
  have hnext : ChatdSessionState.closed ≠ .secure ∧
      ChatdSessionState.closed ≠ .closing := by
    decide
  unfold handleChatCancel
  split_ifs
  · exact stop_moves [] hnext
  · exact Relation.ReflTransGen.refl

theorem handleUserStatus_moves (env : Env) (state : ChatdState) (json : Str) :
    Moves sodium admits state.view (handleUserStatus env state json).view := by
  unfold handleUserStatus
  split
  · split_ifs
    · exact Relation.ReflTransGen.refl
    · exact respond_moves env (by trivial) Relation.ReflTransGen.refl
    · exact respond_moves env (by trivial) Relation.ReflTransGen.refl
  · exact Relation.ReflTransGen.refl

theorem handleError_moves (env : Env) (state : ChatdState) (json : Str) :
    Moves sodium admits state.view (handleError env state json).1.view := by
  unfold handleError
  simp only
  split_ifs
  · rw [queueHello, queueFormatted_view]
    exact Relation.ReflTransGen.refl
  · exact respond_moves env (by trivial) Relation.ReflTransGen.refl
  · have hresponse : Moves sodium admits state.view
        (writeLookupResponse env state (.error (errorCode json))).view :=
      respond_moves env (by trivial) Relation.ReflTransGen.refl
    exact hresponse

theorem handleAuthChallenge_moves (state : ChatdState) (json : Str) :
    Moves sodium admits state.view
      (handleAuthChallenge sodium state json).1.view := by
  unfold handleAuthChallenge
  split
  · exact Relation.ReflTransGen.refl
  · rw [queueAuthResponse, queueFormatted_view]
    exact Relation.ReflTransGen.single (Move.signChallenge _)

theorem handleIceCredentials_view (sodium : Sodium) (env : Env)
    (state : ChatdState) (json : Str) :
    (handleIceCredentials sodium env state json).1.view = state.view := by
  unfold handleIceCredentials
  split
  · rfl
  · split_ifs
    · rfl
    · exact applyRemoteIceSdp_view env state _

/-- The request answered when the daemon handles a control message. -/
def answeredBy (env : Env) (state : ChatdState) (json : Str) :
    Option ChatOffer :=
  if jsonType json = some .chatRequest then
    answeredChatRequest env state json
  else none

theorem handleReceive_moves {env : Env} {state : ChatdState} {json : Str}
    (hio : admits.io env.contactsIo)
    (hanswer : ∀ offer, answeredBy env state json = some offer →
      admits.answer state.view offer.sender) :
    Moves sodium admits state.view
      (handleReceive sodium env state json).1.view := by
  unfold handleReceive
  split
  · exact handleError_moves env state json
  · split_ifs
    · rw [queueHello, queueFormatted_view]
      exact Relation.ReflTransGen.refl
    · exact Relation.ReflTransGen.refl
  · split_ifs
    · exact handleAuthChallenge_moves state json
    · exact Relation.ReflTransGen.refl
  · split_ifs <;> exact Relation.ReflTransGen.refl
  · exact handleUserStatus_moves env state json
  · rename_i htype
    apply handleChatRequest_moves hio
    intro offer hoffer
    apply hanswer
    rw [answeredBy, if_pos htype, hoffer]
  · exact handleChatAccept_moves hio
  · rw [handleIceCredentials_view]
  · exact handleChatCancel_moves state json
  · exact Relation.ReflTransGen.refl

theorem loseControl_moves (env : Env) (state : ChatdState) (code : Str) :
    Moves sodium admits state.view (loseControl env state code).view := by
  unfold loseControl
  simp only
  split_ifs
  · have hresponse (lost : ChatdState) (hlost : lost.view = state.view) :
        Moves sodium admits state.view
          (writeLookupResponse env lost (.error code)).view := by
      rw [← hlost]
      exact respond_moves env (by trivial) Relation.ReflTransGen.refl
    exact hresponse _ rfl
  · exact Relation.ReflTransGen.refl

/-- The control message that a callback hands to the daemon. -/
def ControlEvent.message : ControlEvent → Option Str
  | .receive payload whole =>
      if chatdMaxJsonSize ≤ payload.length ∨ whole = false then none
      else some (cString payload)
  | _ => none

theorem callbackChatdControl_moves {env : Env} {state : ChatdState}
    {event : ControlEvent} (hio : admits.io env.contactsIo)
    (hanswer : ∀ json offer, event.message = some json →
      answeredBy env state json = some offer →
        admits.answer state.view offer.sender) :
    Moves sodium admits state.view
      (callbackChatdControl sodium env state event).1.view := by
  cases event with
  | established =>
      rw [callbackChatdControl, queueRegister, queueFormatted_view]
      exact Relation.ReflTransGen.refl
  | receive payload whole =>
      simp only [callbackChatdControl]
      split_ifs with hrefused
      · exact Relation.ReflTransGen.refl
      · apply handleReceive_moves hio
        intro offer hoffer
        exact hanswer _ offer (if_neg hrefused) hoffer
  | writeable written =>
      simp only [callbackChatdControl]
      split_ifs <;> exact Relation.ReflTransGen.refl
  | connectionError => exact loseControl_moves env state _
  | closed =>
      simp only [callbackChatdControl]
      split_ifs
      · exact loseControl_moves env state _
      · exact loseControl_moves env state _

/-! ## IPC clients -/

/-- A quiet line to any client. -/
theorem reply_moves (env : Env) {view : View} {state : ChatdState} (fd : ℕ)
    {line : IpcLine} (hquiet : line.Quiet)
    (hmoves : Moves sodium admits view state.view) :
    Moves sodium admits view (writeIpcLine env state fd line).1.view :=
  hmoves.trans (writeIpcLine_moves env state fd hquiet state.session.core
    state.sessionState)

theorem replyResponse_moves (env : Env) {view : View} {state : ChatdState}
    (fd : ℕ) {line : IpcLine} (hquiet : line.Quiet)
    (hmoves : Moves sodium admits view state.view) :
    Moves sodium admits view (writeIpcResponse env state fd line).view :=
  hmoves.trans (writeIpcResponse_moves env state fd hquiet state.session.core
    state.sessionState)

theorem requestSession_moves {env : Env} {fd : ℕ} {state : ChatdState}
    {peer : Str} (hclient : state.lookupClientFd = none) (hpeer : peer ≠ [])
    (hadmits : admits.request state.view peer) :
    Moves sodium admits state.view (requestSession env fd state peer).1.view := by
  have hfree : state.view.client = none := by
    simp [ChatdState.view, ChatdState.opened, hclient]
  have hrequest := Relation.ReflTransGen.single (r := Move sodium admits)
    (Move.request (sodiumBin2hex env.sessionIdBytes) hfree hpeer hadmits)
  unfold requestSession
  simp only
  generalize hattached : ({ state with
    lookupPeer := peer
    lookupClientFd := some fd
    openedPeer := peer
    chatRetryCount := 0
    sessionState := .requesting } : ChatdState) = attached
  have hview := queueChatRequest_view env attached peer
  generalize queueChatRequest env attached peer = outcome at hview ⊢
  obtain ⟨queued, ok⟩ := outcome
  have hqueued : Moves sodium admits state.view queued.view := by
    rw [show queued.view = _ from hview, ← hattached]
    exact hrequest
  cases ok with
  | true => exact hqueued
  | false => exact respond_moves env (by trivial) hqueued

theorem attachToSession_moves {env : Env} {fd : ℕ} {state : ChatdState}
    {peer : Str} (hclient : state.lookupClientFd = none)
    (hactive : state.session.iceActive = true)
    (hready : state.session.encryptedSessionReady = true)
    (hpeer : peer = state.session.icePeer) :
    Moves sodium admits state.view (attachToSession env fd state peer).view := by
  have hfree : state.view.client = none := by
    simp [ChatdState.view, ChatdState.opened, hclient]
  have hattach : Moves sodium admits state.view
      ({ state with lookupClientFd := some fd, openedPeer := peer } :
        ChatdState).view := by
    subst hpeer
    exact Relation.ReflTransGen.single (Move.attach hfree hactive hready)
  exact hattach.trans (announce_moves env _ rfl hactive hready (Or.inr hpeer))

theorem openChatAnswer_refuse_quiet {state : ChatdState} {peer : Str}
    {line : IpcLine} (hanswer : openChatAnswer state peer = .refuse line) :
    line.Quiet := by
  unfold openChatAnswer at hanswer
  split_ifs at hanswer <;> obtain rfl := OpenChatAnswer.refuse.inj hanswer <;>
    trivial

theorem handleOpenChatCommand_moves {env : Env} {fd : ℕ} {state : ChatdState}
    {peer : Str}
    (hadmits : openChatAnswer state peer = .request →
      admits.request state.view peer) :
    Moves sodium admits state.view
      (handleOpenChatCommand env fd state peer).1.view := by
  unfold handleOpenChatCommand
  cases hanswer : openChatAnswer state peer with
  | refuse line =>
      exact replyResponse_moves env fd (openChatAnswer_refuse_quiet hanswer)
        Relation.ReflTransGen.refl
  | attach =>
      obtain ⟨hactive, hready, hpeer, hclient⟩ := openChatAnswer_attach hanswer
      exact attachToSession_moves hclient hactive hready hpeer
  | request =>
      obtain ⟨hvalid, _, _, _, hclient, _⟩ := openChatAnswer_request hanswer
      have hpeer : peer ≠ [] := by
        rintro rfl
        exact absurd hvalid (by decide)
      exact requestSession_moves hclient hpeer (hadmits hanswer)

theorem handleIpcClient_moves {env : Env} {fd : ℕ} {state : ChatdState}
    {input : List UInt8}
    (hadmits : ∀ peer,
      parseOpenChat (cString (input.take (chatIpcMaxCommand - 1))) = some peer →
      openChatAnswer state peer = .request → admits.request state.view peer) :
    Moves sodium admits state.view
      (handleIpcClient env fd state input).1.view := by
  unfold handleIpcClient
  simp only
  split_ifs
  · exact Relation.ReflTransGen.refl
  · exact replyResponse_moves env fd (by trivial) Relation.ReflTransGen.refl
  · split
    · rename_i peer hpeer
      exact handleOpenChatCommand_moves (hadmits peer hpeer)
    · exact reply_moves env fd (by trivial) Relation.ReflTransGen.refl

theorem ipcClosed_quiet (fd : ℕ) : (Effect.ipcClosed fd).Quiet := trivial

theorem acceptIpcClient_view (env : Env) (state : ChatdState)
    (accepted : Option ℕ) :
    (acceptIpcClient env state accepted).view = state.view := by
  unfold acceptIpcClient
  split <;> rfl

theorem serviceIpc_moves {env : Env} {state : ChatdState}
    {accepted : Option ℕ} {poll : IpcPoll}
    (hadmits : ∀ peer, requestedPeer env state accepted poll = some peer →
      admits.request state.view peer) :
    Moves sodium admits state.view (serviceIpc env state accepted poll).view := by
  unfold requestedPeer at hadmits
  unfold serviceIpc
  rw [← acceptIpcClient_view env state accepted] at hadmits ⊢
  generalize acceptIpcClient env state accepted = state at hadmits ⊢
  simp only at hadmits ⊢
  cases hpending : state.pendingIpcClientFd with
  | none => exact Relation.ReflTransGen.refl
  | some fd =>
      simp only
      split_ifs with hbroken
      · exact Relation.ReflTransGen.single (Move.quiet (ipcClosed_quiet fd))
      · rw [not_or] at hbroken
        split
        · rename_i input
          have hclient : Moves sodium admits state.view
              (handleIpcClient env fd (releaseIpcClient state) input).1.view := by
            apply @handleIpcClient_moves sodium admits env fd
              (releaseIpcClient state)
            intro peer hpeer hanswer
            apply hadmits
            have hrequest : openChatAnswer state peer = .request := hanswer
            simp [hpending, hbroken.2, hpeer, hrequest]
          split_ifs
          · exact hclient
          · exact hclient.tail (Move.quiet (ipcClosed_quiet fd))
        · exact Relation.ReflTransGen.refl

/-! ## The attached client -/

theorem sendEncryptedChatMessage_moves (env : Env) {state : ChatdState}
    (text : Str) (hclient : state.lookupClientFd ≠ none) :
    Moves sodium admits state.view
      (sendEncryptedChatMessage sodium env state text).1.view := by
  unfold sendEncryptedChatMessage sendEncryptedChatPayload
  split_ifs with _ hrefused
  · exact Relation.ReflTransGen.refl
  · exact Relation.ReflTransGen.refl
  · split
    · exact Relation.ReflTransGen.refl
    · rename_i ciphertext stream hencrypt
      obtain ⟨_, push, _, rfl⟩ := chatCryptoSecretstreamEncrypt_ok hencrypt
      rw [not_or, not_or] at hrefused
      have hready : state.session.encryptedSessionReady = true := by
        simpa using hrefused.1
      have hstate : state.sessionState = .secure ∨
          state.sessionState = .closing := by
        by_contra hother
        exact hrefused.2.1 (not_or.mp hother)
      have hopened : state.view.client ≠ none := by
        simp [ChatdState.view, ChatdState.opened, hclient]
      have hencrypted : Moves sodium admits state.view
          (state.encrypted .message text
            { state.session.cryptoStream with push }).view :=
        Relation.ReflTransGen.single
          (Move.encrypt push text hopened hready hstate)
      exact sendIcePacket_moves env _ _ hencrypted

/-- The final packet leaves everything but the session alone. -/
theorem sendEncryptedChatClose_moves (env : Env) (state : ChatdState)
    (session : SessionCore) (sessionState : ChatdSessionState) :
    Moves sodium admits (state.view.put session sessionState)
      ((sendEncryptedChatClose sodium env state).1.view.put session
        sessionState) := by
  have hclose : (Effect.encrypted state.opened state.session.icePeer .close
      []).Quiet := by
    simp [Effect.Quiet]
  unfold sendEncryptedChatClose sendEncryptedChatPayload
  split_ifs
  · exact Relation.ReflTransGen.refl
  · split
    · exact Relation.ReflTransGen.refl
    · rename_i ciphertext stream _
      have hencrypted : Moves sodium admits (state.view.put session sessionState)
          (((state.setSessionState .closing).encrypted .close [] stream).view.put
            session sessionState) :=
        Relation.ReflTransGen.single (Move.quiet hclose)
      rcases sendIcePacket_cases (Eq.refl (sendIcePacket env
        ((state.setSessionState .closing).encrypted .close [] stream) .close
        ciphertext)) with hsend | hsend | hsend <;> rw [hsend]
      · exact hencrypted
      · exact hencrypted.tail (Move.quiet (packetSent_quiet _ _))
      · exact hencrypted.tail (Move.quiet (packetSent_quiet _ _))

theorem closeChatByClient_moves (env : Env) (state : ChatdState) :
    Moves sodium admits state.view
      (closeChatByClient sodium env state).view := by
  have hnext : ChatdSessionState.closed ≠ .secure ∧
      ChatdSessionState.closed ≠ .closing := by
    decide
  have hclose : Moves sodium admits state.view _ :=
    sendEncryptedChatClose_moves env state state.session.core state.sessionState
  exact (hclose.trans (closeLookupClient_moves _ state.session.core
    state.sessionState)).trans (stop_moves [] hnext)

theorem serviceCommand_moves (env : Env) {state : ChatdState} (fd : ℕ)
    (line : Str) (hclient : state.lookupClientFd ≠ none) :
    Moves sodium admits state.view
      (serviceCommand sodium env state fd line).view := by
  unfold serviceCommand
  split_ifs
  · have hsend : Moves sodium admits state.view
        (sendEncryptedChatMessage sodium env state
          (line.drop sendMessagePrefix.length)).1.view :=
      sendEncryptedChatMessage_moves env _ hclient
    generalize sendEncryptedChatMessage sodium env state
      (line.drop sendMessagePrefix.length) = outcome at hsend ⊢
    obtain ⟨next, ok⟩ := outcome
    cases ok with
    | true => exact hsend
    | false => exact reply_moves env fd (by trivial) hsend
  · exact reply_moves env fd (by trivial) Relation.ReflTransGen.refl

theorem serviceCommands_moves (env : Env) (lines : List Str)
    (state : ChatdState) :
    Moves sodium admits state.view
      (serviceCommands sodium env lines state).view := by
  induction lines generalizing state with
  | nil => exact Relation.ReflTransGen.refl
  | cons line lines ih =>
      unfold serviceCommands
      split
      · exact Relation.ReflTransGen.refl
      · rename_i fd hfd
        split_ifs
        · exact Relation.ReflTransGen.refl
        · exact closeChatByClient_moves env state
        · exact (serviceCommand_moves env fd line (by simp [hfd])).trans (ih _)

theorem serviceActiveChatClient_moves (env : Env) (state : ChatdState)
    (read : ClientRead) :
    Moves sodium admits state.view
      (serviceActiveChatClient sodium env state read).view := by
  have hnext : ChatdSessionState.failed ≠ .secure ∧
      ChatdSessionState.failed ≠ .closing := by
    decide
  unfold serviceActiveChatClient
  split_ifs
  · exact Relation.ReflTransGen.refl
  · split
    · exact Relation.ReflTransGen.refl
    · have hclose : Moves sodium admits state.view _ :=
        closeLookupClient_moves state state.session.core state.sessionState
      exact hclose.trans (stop_moves [] hnext)
    · exact closeChatByClient_moves env state
    · exact serviceCommands_moves env _ state

/-! ## Steps -/

/-- The inputs of one step that a result admits. -/
structure Admits (admits : Admission) (state : ChatdState)
    (input : Env × ChatdEvent) : Prop where
  io : admits.io input.1.contactsIo
  answer : ∀ event json offer, input.2 = .control event →
    event.message = some json → answeredBy input.1 state json = some offer →
      admits.answer state.view offer.sender
  request : ∀ accepted poll peer, input.2 = .ipc accepted poll →
    requestedPeer input.1 state accepted poll = some peer →
      admits.request state.view peer

/-- Every step of the daemon is a sequence of protocol moves. -/
theorem chatdStep_moves {state : ChatdState} {input : Env × ChatdEvent}
    (hinput : Admits admits state input) :
    Moves sodium admits state.view (chatdStep sodium state input).view := by
  obtain ⟨env, event⟩ := input
  cases event with
  | control event =>
      exact callbackChatdControl_moves hinput.io
        fun json offer => hinput.answer event json offer rfl
  | ipc accepted poll =>
      exact serviceIpc_moves fun peer => hinput.request accepted poll peer rfl
  | activeClient read => exact serviceActiveChatClient_moves env state read
  | ice callback =>
      simp only [chatdStep, serviceIceCallback]
      split_ifs <;> exact Relation.ReflTransGen.refl
  | serviceIce => exact serviceIceSession_moves env state
  | reconnect started =>
      simp only [chatdStep, serviceReconnect]
      split_ifs <;> exact Relation.ReflTransGen.refl

/-- An invariant of the protocol holds in every run of admitted inputs. -/
theorem invariant_chatd_run {Invariant : View → Prop}
    (hmove : ∀ view next, Move sodium admits view next → Invariant view →
      Invariant next)
    {start : ChatdState} (hstart : Invariant start.view)
    {inputs : List (Env × ChatdEvent)}
    (hinputs : Transition.Guarded (chatdStep sodium) (Admits admits) start
      inputs) :
    Invariant (Transition.run (chatdStep sodium) start inputs).view :=
  Transition.invariant_run_of_moves (fun _ _ => chatdStep_moves) hmove hstart
    hinputs

theorem admits_free (state : ChatdState) (input : Env × ChatdEvent) :
    Admits {} state input :=
  ⟨trivial, fun _ _ _ _ _ _ => trivial, fun _ _ _ _ _ => trivial⟩

/-- An invariant of the protocol that needs no admission. -/
theorem invariant_chatd_run_free {Invariant : View → Prop}
    (hmove : ∀ view next, Move sodium {} view next → Invariant view →
      Invariant next)
    {start : ChatdState} (hstart : Invariant start.view)
    (inputs : List (Env × ChatdEvent)) :
    Invariant (Transition.run (chatdStep sodium) start inputs).view :=
  invariant_chatd_run hmove hstart
    (Transition.guarded_of_forall (fun input _ state => admits_free state input)
      start)

end ProntoChat.Daemon
