import ProntoChat.Daemon.Line

/-!
# Attempts that fail

A session that a client waits for can fail when ICE is started, while it
connects and during the handshake.  `fail_chat_session` asks for the session
once more or tells the client and lets it go.  The service step leaves it at
that; the handler of `chat_accept` tells the client once more, also when the
session was asked for again.
-/

namespace ProntoChat.Daemon

open ProntoChat.QuotedText
open ProntoChat.Protocole
open ProntoChat.Json
open ProntoChat.Contacts
open ProntoChat.Crypto
open ProntoChat.Ice

/-! ## What clients are told -/

/-- The effect is seen by a client. -/
def Effect.toClient : Effect → Bool
  | .ipcLine _ _ _ _ => true
  | .ipcClosed _ => true
  | _ => false

def ChatdState.told (state : ChatdState) : List Effect := state.log.filter Effect.toClient

/-- Lines that report a failure. -/
def IpcLine.isFailure : IpcLine → Bool
  | .error _ => true
  | .userOffline _ => true
  | .iceFailed _ => true
  | .identityMismatch _ => true
  | _ => false

/-- A request for the peer of the client was queued, and the client was told
nothing. -/
structure Retried (state next : ChatdState) : Prop where
  told : next.told = state.told
  client : next.lookupClientFd = state.lookupClientFd
  slot : state.pending = []
  request : ∃ sessionId, next.pending =
    offerJson .chatRequest state.identity state.lookupPeer sessionId

/-- The client was told about one failure and let go, and no request was queued. -/
structure Reported (state next : ChatdState) : Prop where
  told : ∃ fd opened line delivered, state.lookupClientFd = some fd ∧
    line.isFailure = true ∧
    next.told = state.told ++ [.ipcLine fd opened line delivered, .ipcClosed fd]
  client : next.lookupClientFd = none
  slot : next.pending = state.pending ∨
    ∀ peer sessionId, next.pending ≠ offerJson .chatRequest state.identity peer sessionId

theorem told_emit_quiet (state : ChatdState) {effect : Effect}
    (hquiet : effect.toClient = false) : (state.emit effect).told = state.told := by
  simp [ChatdState.told, ChatdState.emit, hquiet]

theorem told_writeIpcLine (env : Env) (state : ChatdState) (fd : ℕ) (line : IpcLine) :
    ∃ opened delivered, (writeIpcLine env state fd line).1.told =
      state.told ++ [.ipcLine fd opened line delivered] := by
  refine ⟨if state.lookupClientFd = some fd then some state.openedPeer else none,
    env.ipcWrite state.log.length, ?_⟩
  simp only [ChatdState.told, writeIpcLine, ChatdState.emit, List.filter_append]
  rfl

theorem told_closeLookupClient {state : ChatdState} {fd : ℕ}
    (hclient : state.lookupClientFd = some fd) :
    (closeLookupClient state).told = state.told ++ [.ipcClosed fd] := by
  simp [ChatdState.told, closeLookupClient, hclient, Effect.toClient]

/-- A line is written before the client is let go. -/
theorem reported_closeLookupClient (env : Env) {state : ChatdState} {fd : ℕ}
    {line : IpcLine} (hclient : state.lookupClientFd = some fd)
    (hfailure : line.isFailure = true) :
    Reported state (closeLookupClient (writeIpcLine env state fd line).1) := by
  obtain ⟨opened, delivered, hline⟩ := told_writeIpcLine env state fd line
  have hattached : (writeIpcLine env state fd line).1.lookupClientFd = some fd := hclient
  refine ⟨⟨fd, opened, line, delivered, hclient, hfailure, ?_⟩, rfl, Or.inl rfl⟩
  rw [told_closeLookupClient hattached, hline, List.append_assoc]
  rfl

theorem reported_writeLookupResponse (env : Env) {state : ChatdState} {fd : ℕ}
    {line : IpcLine} (hclient : state.lookupClientFd = some fd)
    (hfailure : line.isFailure = true) (hfits : line.render.length < chatIpcMaxResponse) :
    Reported state (writeLookupResponse env state line) := by
  have hwritten : (writeIpcResponse env state fd line).log =
      (writeIpcLine env state fd line).1.log := by
    simp [writeIpcResponse, hfits]
  obtain ⟨htold, _, _⟩ := reported_closeLookupClient env hclient hfailure
  rw [writeLookupResponse, hclient]
  refine ⟨?_, rfl, Or.inl rfl⟩
  obtain ⟨fd', opened, line', delivered, hfd, hline, hlog⟩ := htold
  refine ⟨fd', opened, line', delivered, hfd, hline, ?_⟩
  rw [← hlog]
  simp only [ChatdState.told, closeLookupClient, hwritten]
  rfl

theorem writeLookupResponse_detached (env : Env) {state : ChatdState} (line : IpcLine)
    (hclient : state.lookupClientFd = none) :
    writeLookupResponse env state line = state := by
  rw [writeLookupResponse, hclient]

/-- What the daemon is told about an attempt depends on a few fields only. -/
theorem Reported.of_eq {before state next : ChatdState} (hreported : Reported state next)
    (htold : state.told = before.told) (hclient : state.lookupClientFd = before.lookupClientFd)
    (hidentity : state.identity = before.identity)
    (hslot : state.pending = before.pending ∨
      ∀ peer sessionId, state.pending ≠
        offerJson .chatRequest before.identity peer sessionId) :
    Reported before next where
  told := by
    rw [← htold, ← hclient]
    exact hreported.told
  client := hreported.client
  slot := by
    rw [← hidentity] at hslot ⊢
    rcases hreported.slot with hsame | hother
    · rw [hsame]
      exact hslot
    · exact Or.inr hother

/-! ## Names -/

/-- The names of the peers fit their buffers. -/
structure NamesFit (view : View) : Prop where
  peer : view.session.peer.length ≤ 32
  lookupPeer : view.lookupPeer.length ≤ 32

theorem valid_of_verifyOrPin {io : ContactsIo} {db : ContactsDb} {username : Str}
    {identityPk : Bytes 32}
    (hok : (chatContactsVerifyOrPin io db username identityPk).result = .ok) :
    chatUsernameIsValid username = true := by
  by_contra hinvalid
  rw [Bool.not_eq_true] at hinvalid
  simp [chatContactsVerifyOrPin, hinvalid] at hok

/-- Requests name valid peers. -/
def validRequests : Admission where
  request := fun _ peer => chatUsernameIsValid peer = true

theorem namesFit_move {sodium : Sodium} {view next : View}
    (hmove : Move sodium validRequests view next) (hnames : NamesFit view) :
    NamesFit next := by
  cases hmove with
  | stop => exact ⟨Nat.zero_le _, hnames.lookupPeer⟩
  | detach => exact ⟨hnames.peer, Nat.zero_le _⟩
  | request sessionId hclient hpeer hadmits =>
      exact ⟨hnames.peer, (username_length hadmits).2⟩
  | answer hio hcontact hadmits =>
      exact ⟨(username_length (valid_of_verifyOrPin hcontact)).2, hnames.lookupPeer⟩
  | accepted hio hcontact hclient hpeer =>
      exact ⟨(username_length (valid_of_verifyOrPin hcontact)).2, hnames.lookupPeer⟩
  | _ => exact ⟨hnames.peer, hnames.lookupPeer⟩

theorem admits_validRequests (state : ChatdState) (input : Env × ChatdEvent) :
    Admits validRequests state input := by
  refine ⟨trivial, fun _ _ _ _ _ _ => trivial, fun accepted poll peer _ hpeer => ?_⟩
  unfold requestedPeer at hpeer
  simp only at hpeer
  split at hpeer
  · split_ifs at hpeer
    rw [Option.filter_eq_some_iff] at hpeer
    exact (openChatAnswer_request (of_decide_eq_true hpeer.2)).1
  · exact nomatch hpeer

theorem namesFit_run (sodium : Sodium) (identity : ChatIdentity) (store : ContactsDb)
    (inputs : List (Env × ChatdEvent)) :
    NamesFit (Transition.run (chatdStep sodium) (initialState identity store) inputs).view :=
  invariant_chatd_run (fun _ _ => namesFit_move) ⟨Nat.zero_le _, Nat.zero_le _⟩
    (Transition.guarded_of_forall (fun input _ state => admits_validRequests state input) _)

/-! ## Failing -/

/-- A request of the attached client can be queued again. -/
structure CanRetry (state : ChatdState) : Prop where
  peer : state.lookupPeer ≠ []
  connection : state.controlWsi = true
  retries : state.chatRetryCount < chatdIceRetryMax
  slot : state.pending = []

theorem length_retryJson {identity : ChatIdentity}
    (hname : chatUsernameIsValid identity.username = true) {peer : Str}
    (hpeer : peer.length ≤ 32) (sessionIdBytes : Bytes 16) :
    (offerJson .chatRequest identity peer (sodiumBin2hex sessionIdBytes)).length < 512 := by
  have := username_length hname
  have := ControlType.chatRequest.plain_name.2
  have := JsonKey.type.length_name_le
  have := JsonKey.from.length_name_le
  have := JsonKey.to.length_name_le
  have := JsonKey.sessionId.length_name_le
  have := JsonKey.publicKey.length_name_le
  simp only [offerJson, length_object, List.map_cons, List.map_nil, List.sum_cons,
    List.sum_nil, length_sodiumBin2hex]
  omega

theorem length_iceFailed {name : Str} (hname : name.length ≤ 32) :
    (IpcLine.iceFailed name).render.length < chatIpcMaxResponse := by
  have hmax : chatIpcMaxResponse = 4096 := rfl
  have hword : (bytes "ICE_FAILED ").length = 11 := by decide +kernel
  simp only [IpcLine.render, List.length_append, hword, List.length_singleton]
  omega

/-- The state in which a retry queues its request. -/
def retrying (state : ChatdState) : ChatdState :=
  (resetIceSession { state with chatRetryCount := state.chatRetryCount + 1 }).setSessionState
    .requesting

theorem queueChatRequest_full (env : Env) {state : ChatdState} (hfull : state.pending ≠ [])
    (peer : Str) :
    ∃ session, queueChatRequest env state peer = (state.setSession session, false) := by
  refine ⟨{ state.session with iceSessionId := sodiumBin2hex env.sessionIdBytes }, ?_⟩
  unfold queueChatRequest
  rcases placed_queueFormatted
    (state.setSession { state.session with iceSessionId := sodiumBin2hex env.sessionIdBytes })
    (offerJson .chatRequest state.identity peer (sodiumBin2hex env.sessionIdBytes))
    (by decide : 512 ≤ chatdMaxJsonSize) with hkept | ⟨_, _, hempty, _⟩
  · exact hkept
  · exact absurd hempty hfull

section Failing

variable (env : Env) {state : ChatdState} {fd : ℕ}
  (hclient : state.lookupClientFd = some fd)
  (hunready : state.session.encryptedSessionReady = false)
  (hnames : NamesFit state.view)
include hclient hunready hnames

/-- When a retry is tried. -/
theorem retryOutgoingChatSession_eq :
    retryOutgoingChatSession env state =
      if state.lookupPeer = [] ∨ state.controlWsi = false ∨
          chatdIceRetryMax ≤ state.chatRetryCount then none
      else
        match queueChatRequest env (retrying state) state.lookupPeer with
        | (next, true) => some next
        | (next, false) =>
            some (writeLookupResponse env next (.error (bytes "chat_retry_failed"))) := by
  have hshort : ¬ usernameSize ≤ state.lookupPeer.length := by
    have hsize : usernameSize = 33 := rfl
    have := hnames.lookupPeer
    simp only [ChatdState.view] at this
    omega
  have hcondition : (state.lookupClientFd = none ∨ state.lookupPeer = [] ∨
      state.controlWsi = false ∨ state.session.encryptedSessionReady = true ∨
      chatdIceRetryMax ≤ state.chatRetryCount ∨ usernameSize ≤ state.lookupPeer.length) ↔
      (state.lookupPeer = [] ∨ state.controlWsi = false ∨
        chatdIceRetryMax ≤ state.chatRetryCount) := by
    simp [hclient, hunready, hshort]
  unfold retryOutgoingChatSession
  simp only [hcondition]
  rfl

theorem retried_failChatSession (hname : chatUsernameIsValid state.identity.username = true)
    (hretry : CanRetry state) : Retried state (failChatSession env state) := by
  obtain ⟨hpeer, hwsi, hcount, hempty⟩ := hretry
  have hqueue : queueChatRequest env (retrying state) state.lookupPeer =
      ({ (retrying state).setSession { (retrying state).session with
          iceSessionId := sodiumBin2hex env.sessionIdBytes } with
        pending := offerJson .chatRequest state.identity state.lookupPeer
          (sodiumBin2hex env.sessionIdBytes) }, true) :=
    queueFormatted_of_lt hempty
      (length_retryJson hname hnames.lookupPeer env.sessionIdBytes) (by decide)
  rw [failChatSession, retryOutgoingChatSession_eq env hclient hunready hnames,
    if_neg (by simp [hpeer, hwsi, hcount]), hqueue]
  exact ⟨rfl, rfl, hempty, _, rfl⟩

theorem reported_reportFailedSession (next : ChatdSessionState) :
    Reported state (reportFailedSession env (state.setSessionState next)) := by
  have hattached : (state.setSessionState next).lookupClientFd = some fd := hclient
  have hready : (state.setSessionState next).session.encryptedSessionReady = false := hunready
  unfold reportFailedSession
  simp only [hattached, hready, Bool.false_eq_true, if_false]
  split_ifs
  · obtain ⟨htold, hdetached, hslot⟩ := reported_writeLookupResponse env hattached rfl
      (length_iceFailed hnames.peer)
    exact ⟨htold, hdetached, hslot⟩
  · obtain ⟨htold, hdetached, hslot⟩ := reported_writeLookupResponse env hattached rfl
      (length_iceFailed hnames.lookupPeer)
    exact ⟨htold, hdetached, hslot⟩
  · obtain ⟨htold, hdetached, hslot⟩ := reported_closeLookupClient env hattached
      (rfl : (IpcLine.error (bytes "session_failed")).isFailure = true)
    exact ⟨htold, hdetached, hslot⟩

/-- When the request cannot be queued, the client is told. -/
theorem reported_failChatSession (hretry : ¬ CanRetry state) :
    Reported state (failChatSession env state) := by
  rw [failChatSession, retryOutgoingChatSession_eq env hclient hunready hnames]
  split_ifs with hrefused
  · obtain ⟨htold, hdetached, hslot⟩ :=
      reported_reportFailedSession env hclient hunready hnames .failed
    exact ⟨htold, hdetached, hslot⟩
  · have hfull : (retrying state).pending ≠ [] := by
      intro hempty
      simp only [not_or, Bool.not_eq_false, not_le] at hrefused
      exact hretry ⟨hrefused.1, hrefused.2.1, hrefused.2.2, hempty⟩
    obtain ⟨session, hqueue⟩ := queueChatRequest_full env hfull state.lookupPeer
    have hattached : ((retrying state).setSession session).lookupClientFd = some fd := hclient
    obtain ⟨htold, hdetached, hslot⟩ := reported_writeLookupResponse env hattached
      (rfl : (IpcLine.error (bytes "chat_retry_failed")).isFailure = true) (by decide +kernel)
    rw [hqueue]
    exact ⟨htold, hdetached, hslot⟩

end Failing

/-! ## The service step -/

/-- The attempt goes on: no client was told anything, and at most a description was
queued. -/
structure Pursued (state next : ChatdState) : Prop where
  told : next.told = state.told
  client : next.lookupClientFd = state.lookupClientFd
  lookupPeer : next.lookupPeer = state.lookupPeer
  identity : next.identity = state.identity
  peer : next.session.icePeer = state.session.icePeer
  ready : next.session.encryptedSessionReady = state.session.encryptedSessionReady
  slot : next.pending = state.pending ∨ ∃ username peer sessionId sdp,
    next.pending = iceCredentialsJson username peer sessionId sdp

theorem Pursued.of_line {state next : ChatdState} (hline : next.line = state.line)
    (htold : next.told = state.told)
    (hpeer : next.session.icePeer = state.session.icePeer)
    (hready : next.session.encryptedSessionReady = state.session.encryptedSessionReady) :
    Pursued state next where
  told := htold
  client := congrArg Line.client hline
  lookupPeer := congrArg Line.peer hline
  identity := congrArg Line.identity hline
  peer := hpeer
  ready := hready
  slot := Or.inl (congrArg Line.pending hline)

theorem Pursued.refl (state : ChatdState) : Pursued state state :=
  .of_line rfl rfl rfl rfl

theorem Pursued.trans {first second third : ChatdState} (hfirst : Pursued first second)
    (hsecond : Pursued second third) : Pursued first third where
  told := hsecond.told.trans hfirst.told
  client := hsecond.client.trans hfirst.client
  lookupPeer := hsecond.lookupPeer.trans hfirst.lookupPeer
  identity := hsecond.identity.trans hfirst.identity
  peer := hsecond.peer.trans hfirst.peer
  ready := hsecond.ready.trans hfirst.ready
  slot := by
    rcases hsecond.slot with hsame | hqueued
    · rw [hsame]
      exact hfirst.slot
    · exact Or.inr hqueued

theorem pursued_emit (state : ChatdState) {effect : Effect}
    (hquiet : effect.toClient = false) : Pursued state (state.emit effect) :=
  .of_line rfl (told_emit_quiet state hquiet) rfl rfl

theorem pursued_sendSessionPacket (env : Env) (state : ChatdState) (type : ChatPacketType)
    (payload : List UInt8) {note : ChatdSession → ChatdSession}
    (hpeer : ∀ session, (note session).icePeer = session.icePeer)
    (hready : ∀ session, (note session).encryptedSessionReady =
      session.encryptedSessionReady) :
    Pursued state (sendSessionPacket env state type payload note).1 := by
  unfold sendSessionPacket
  rcases sendIcePacket_cases (Eq.refl (sendIcePacket env state type payload)) with
    hsend | hsend | hsend <;> rw [hsend]
  · exact .refl state
  · exact pursued_emit state rfl
  · have hsent : Pursued state (state.sent (chatPacket type payload)) :=
      .of_line rfl (told_emit_quiet state rfl) rfl rfl
    exact hsent.trans (.of_line rfl rfl (hpeer _) (hready _))

theorem pursued_handshakeStage (sodium : Sodium) (env : Env) (state : ChatdState) :
    Pursued state (handshakeStage sodium env state).1 := by
  unfold handshakeStage startCryptoHandshake
  split_ifs
  · rcases initCryptoHandshake_cases (Eq.refl (initCryptoHandshake sodium env
      (state.setSessionState .cryptoHandshake))) with
      ⟨_, hinit⟩ | ⟨_, hinit⟩ | ⟨role, handshake, message, _, _, _, hinit⟩ <;> rw [hinit]
    · refine Pursued.trans ?_
        (pursued_sendSessionPacket env _ _ _ (fun _ => rfl) fun _ => rfl)
      exact .of_line rfl rfl rfl rfl
    · exact .of_line rfl rfl rfl rfl
    · refine Pursued.trans ?_
        (pursued_sendSessionPacket env _ _ _ (fun _ => rfl) fun _ => rfl)
      refine Pursued.trans ?_ (pursued_emit _ rfl)
      exact .of_line rfl rfl rfl rfl
  · exact .refl state

theorem pursued_headerStage (sodium : Sodium) (env : Env) (state : ChatdState) :
    Pursued state (headerStage sodium env state).1 := by
  unfold headerStage sendStreamHeader initStreamHeader chatCryptoSecretstreamInitPush
  split_ifs
  · exact pursued_sendSessionPacket env _ _ _ (fun _ => rfl) fun _ => rfl
  · cases env.streamHeader with
    | none => exact .refl state
    | some header =>
        refine Pursued.trans ?_
          (pursued_sendSessionPacket env _ _ _ (fun _ => rfl) fun _ => rfl)
        exact .of_line rfl rfl rfl rfl
  · exact .refl state

section Unready

variable (sodium : Sodium) (env : Env) {state : ChatdState}
  (hunready : state.session.encryptedSessionReady = false)
include hunready

/-- A session that is not ready takes handshakes and stream headers only. -/
theorem pursued_dispatch (packet : List UInt8) :
    Pursued state (dispatchIceAppPacket sodium env state packet).1 := by
  have hchat (type : ChatPacketType) (payload : List UInt8) :
      handleChatPacket sodium env state type payload = (state, false) := by
    simp [handleChatPacket, hunready]
  unfold dispatchIceAppPacket
  split
  · exact .refl state
  · split_ifs
    · exact .refl state
    · simp only
      split
      · unfold handleHandshakePacket finishCryptoHandshake
        split_ifs
        · exact .refl state
        · exact .refl state
        · split
          · exact .of_line rfl rfl rfl rfl
          · refine Pursued.trans ?_ (pursued_emit _ rfl)
            exact .of_line rfl rfl rfl rfl
        · exact .refl state
      · unfold handleStreamHeaderPacket receiveStreamHeader
        split_ifs
        · exact .refl state
        · exact .refl state
        · exact .refl state
        · split <;> exact .of_line rfl rfl rfl rfl
        · exact .refl state
      · rw [hchat]
        exact .refl state
      · rw [hchat]
        exact .refl state
      · exact .refl state
      · exact .refl state

theorem pursued_process :
    Pursued state (processReceivedIcePacket sodium env state).1 := by
  unfold processReceivedIcePacket
  split
  · exact .refl state
  · rename_i packet ice _
    have htaken : Pursued state (state.setSession { state.session with ice }) :=
      .of_line rfl rfl rfl rfl
    simp only
    split_ifs
    · exact htaken
    · have hunready' : (state.setSession
          { state.session with ice }).session.encryptedSessionReady = false := hunready
      exact (htaken.trans (pursued_dispatch sodium env hunready' packet)).trans
        (pursued_emit _ rfl)

end Unready

theorem Pursued.bind_error {state failed : ChatdState} {outcome : Outcome}
    {next : ChatdState → Except ChatdState ChatdState}
    (hfirst : Pursued state outcome.1)
    (hnext : next outcome.1 = .error failed → Pursued outcome.1 failed)
    (herror : attempt outcome >>= next = .error failed) : Pursued state failed := by
  unfold attempt at herror
  split_ifs at herror
  · exact hfirst.trans (hnext herror)
  · obtain rfl := Except.error.inj herror
    exact hfirst

theorem pursued_handshakeAttempt (sodium : Sodium) (env : Env) {state failed : ChatdState}
    (hunready : state.session.encryptedSessionReady = false)
    (herror : handshakeAttempt sodium env state = .error failed) :
    Pursued state failed := by
  unfold handshakeAttempt at herror
  have hshaken := pursued_handshakeStage sodium env state
  refine hshaken.bind_error (fun herror => ?_) herror
  generalize (handshakeStage sodium env state).1 = state₁ at hshaken herror ⊢
  have hunready₁ := hshaken.ready.trans hunready
  have hfirst := pursued_process sodium env hunready₁
  refine hfirst.bind_error (fun herror => ?_) herror
  generalize (processReceivedIcePacket sodium env state₁).1 = state₂ at hfirst herror ⊢
  have hheader := pursued_headerStage sodium env state₂
  refine hheader.bind_error (fun herror => ?_) herror
  have hunready₃ := hheader.ready.trans (hfirst.ready.trans hunready₁)
  exact (pursued_process sodium env hunready₃).bind_error (fun herror => by cases herror) herror

theorem pursued_connectAttempt (sodium : Sodium) (env : Env) {state failed : ChatdState}
    (hunready : state.session.encryptedSessionReady = false)
    (herror : connectAttempt sodium env state = .error failed) : Pursued state failed := by
  have hnotified : Pursued state (notifyIceConnected env state) := by
    unfold notifyIceConnected
    split_ifs
    · exact .refl state
    · exact .of_line rfl rfl rfl rfl
  have hunready' := hnotified.ready.trans hunready
  unfold connectAttempt cryptoAttempt at herror
  split_ifs at herror
  · obtain rfl := Except.error.inj herror
    exact .refl state
  · obtain rfl := Except.error.inj herror
    exact hnotified
  · obtain rfl := Except.error.inj herror
    exact hnotified
  · exact hnotified.trans (pursued_handshakeAttempt sodium env hunready' herror)
  · obtain rfl := Except.error.inj herror
    exact .refl state

theorem pursued_serviceLocalSdp (sodium : Sodium) (env : Env) (state : ChatdState) :
    Pursued state (serviceLocalSdp sodium env state).1 := by
  have hqueue : Pursued state (queueLocalIceSdp sodium env state).1 := by
    unfold queueLocalIceSdp
    split
    · exact .refl state
    · split
      · exact .refl state
      · rename_i encoded _
        rcases placed_queueFormatted state (iceCredentialsJson state.identity.username
          state.session.icePeer state.session.iceSessionId encoded) le_rfl with
          hfull | ⟨next, hnext, _⟩
        · rw [hfull]
          exact .refl state
        · obtain ⟨_, _, rfl⟩ := queueFormatted_ok hnext
          rw [hnext]
          exact ⟨rfl, rfl, rfl, rfl, rfl, rfl, Or.inr ⟨_, _, _, _, rfl⟩⟩
  unfold serviceLocalSdp
  split_ifs
  · split <;> rename_i next hnext <;> rw [hnext] at hqueue <;> exact hqueue
  · exact .refl state

/-- A description may be queued before the attempt fails. -/
theorem pursued_serviceAttempt (sodium : Sodium) (env : Env) {state failed : ChatdState}
    (hunready : state.session.encryptedSessionReady = false)
    (herror : serviceAttempt sodium env state = .error failed) : Pursued state failed := by
  have hremote : Pursued state (servicePendingRemoteSdp env state).1 := by
    unfold servicePendingRemoteSdp applyRemoteIceSdp chatIceSessionSetRemoteSdp
    split_ifs <;> exact .of_line rfl rfl rfl rfl
  unfold serviceAttempt at herror
  split_ifs at herror
  · obtain rfl := Except.error.inj herror
    exact .refl state
  · refine hremote.bind_error (fun herror => ?_) herror
    generalize (servicePendingRemoteSdp env state).1 = state₁ at hremote herror ⊢
    have hlocal := pursued_serviceLocalSdp sodium env state₁
    refine hlocal.bind_error (fun herror => ?_) herror
    exact pursued_connectAttempt sodium env
      (hlocal.ready.trans (hremote.ready.trans hunready)) herror

theorem iceCredentialsJson_ne_offerJson (username name sessionId sdp : Str)
    (identity : ChatIdentity) (peer other : Str) :
    iceCredentialsJson username name sessionId sdp ≠
      offerJson .chatRequest identity peer other := by
  have hnames : ControlType.iceCredentials.name = 105 :: bytes "ce_credentials" ∧
      ControlType.chatRequest.name = 99 :: bytes "hat_request" := by decide +kernel
  intro hsame
  simp [iceCredentialsJson, offerJson, object, member, quoted, hnames] at hsame

/-! ## Handlers -/

/-- `chat_accept` answers the request of the attached client, its key is the pinned
one, and ICE cannot be started. -/
def AcceptFails (env : Env) (state : ChatdState) (event : ChatdEvent) : Prop :=
  ∃ payload offer error, event = .control (.receive payload true) ∧
    payload.length < chatdMaxJsonSize ∧ jsonType (cString payload) = some .chatAccept ∧
    matchingChatAccept state (cString payload) = some offer ∧
    (chatContactsVerifyOrPin env.contactsIo state.contacts offer.sender
      offer.identityPk).result = .ok ∧
    env.iceStart = .error error

/-- The service step fails the session that a client waits for. -/
def ServiceFails (sodium : Sodium) (env : Env) (state : ChatdState) (event : ChatdEvent) :
    Prop :=
  event = .serviceIce ∧ state.lookupClientFd ≠ none ∧
    state.session.encryptedSessionReady = false ∧
    ∃ failed, serviceAttempt sodium env state = .error failed

theorem Pursued.reported {state middle next : ChatdState} (hpursued : Pursued state middle)
    (hreported : Reported middle next) : Reported state next := by
  refine hreported.of_eq hpursued.told hpursued.client hpursued.identity ?_
  rcases hpursued.slot with hsame | ⟨_, _, _, _, hqueued⟩
  · exact Or.inl hsame
  · right
    intro peer sessionId
    rw [hqueued]
    exact iceCredentialsJson_ne_offerJson _ _ _ _ _ _ _

theorem iceCredentialsJson_ne_nil (username peer sessionId sdp : Str) :
    iceCredentialsJson username peer sessionId sdp ≠ [] := nofun

/-- The service step asks again or tells the client. -/
theorem settled_serviceIceSession {sodium : Sodium} {env : Env} {state : ChatdState}
    (hname : chatUsernameIsValid state.identity.username = true)
    (hnames : NamesFit state.view)
    (hfails : ServiceFails sodium env state .serviceIce) :
    Retried state (serviceIceSession sodium env state) ∨
      Reported state (serviceIceSession sodium env state) := by
  obtain ⟨_, hclient, hunready, failed, herror⟩ := hfails
  obtain ⟨fd, hfd⟩ := Option.ne_none_iff_exists'.mp hclient
  have hpursued := pursued_serviceAttempt sodium env hunready herror
  have hattached := hpursued.client.trans hfd
  have hready := hpursued.ready.trans hunready
  have hfits : NamesFit failed.view := by
    constructor
    · simp only [ChatdState.view, ChatdSession.core, hpursued.peer]
      exact hnames.peer
    · simp only [ChatdState.view, hpursued.lookupPeer]
      exact hnames.lookupPeer
  rw [serviceIceSession_eq, herror, settle]
  by_cases hretry : CanRetry failed
  · have hvalid : chatUsernameIsValid failed.identity.username = true := by
      rw [hpursued.identity]
      exact hname
    have hslot : state.pending = [] := by
      rcases hpursued.slot with hsame | ⟨_, _, _, _, hqueued⟩
      · exact hsame.symm.trans hretry.slot
      · exact absurd (hqueued.symm.trans hretry.slot) (iceCredentialsJson_ne_nil _ _ _ _)
    obtain ⟨htold, hkept, _, sessionId, hrequest⟩ :=
      retried_failChatSession env hattached hready hfits hvalid hretry
    left
    refine ⟨htold.trans hpursued.told, hkept.trans hpursued.client, hslot, sessionId, ?_⟩
    rw [hrequest, hpursued.identity, hpursued.lookupPeer]
  · exact Or.inr (hpursued.reported
      (reported_failChatSession env hattached hready hfits hretry))

theorem matchingChatAccept_some {state : ChatdState} {json : Str} {offer : ChatOffer}
    (haccept : matchingChatAccept state json = some offer) :
    state.lookupClientFd ≠ none ∧ offer.sender = state.lookupPeer ∧
      offer.sessionId.length < chatdSessionIdHexLen := by
  unfold matchingChatAccept at haccept
  split at haccept
  · exact nomatch haccept
  · rename_i parsed hparse
    split_ifs at haccept with hmatches
    obtain rfl := Option.some.inj haccept
    refine ⟨hmatches.1, hmatches.2.1, ?_⟩
    unfold parseChatOffer at hparse
    split at hparse
    · rename_i hsessionId _
      obtain ⟨_, _, rfl⟩ := Option.map_eq_some_iff.mp hparse
      exact (jsonGetString_bounds hsessionId).2
    · exact nomatch hparse

/-- The state in which ICE could not be started. -/
def unstarted (state : ChatdState) (contacts : ContactsDb) (offer : ChatOffer) : ChatdState :=
  ((resetIceSession (state.setContacts contacts)).setSessionState .iceNegotiating).setSession
    { preparedSession offer.sender offer.sessionId true offer.identityPk with ice := {} }

/-- An answer for which ICE cannot be started: the session fails, and the client is
told about it once more if it is still there. -/
theorem chatdStep_acceptFails (sodium : Sodium) {env : Env} {state : ChatdState}
    {event : ChatdEvent} (hfails : AcceptFails env state event) :
    ∃ contacts offer, chatUsernameIsValid offer.sender = true ∧
      offer.sender = state.lookupPeer ∧ state.lookupClientFd ≠ none ∧
      chatdStep sodium state (env, event) =
        writeLookupResponse env (failChatSession env (unstarted state contacts offer))
          (.iceFailed offer.sender) := by
  obtain ⟨payload, offer, error, rfl, hlength, htype, haccept, hcontact, hstart⟩ := hfails
  obtain ⟨hclient, hpeer, hsessionId⟩ := matchingChatAccept_some haccept
  have hvalid := valid_of_verifyOrPin hcontact
  have hsender : ¬ usernameSize ≤ offer.sender.length := by
    have hsize : usernameSize = 33 := rfl
    have := (username_length hvalid).2
    omega
  have hbegin (contacts : ContactsDb) :
      beginIceSession env (state.setContacts contacts) offer.sender offer.sessionId true
        offer.identityPk = (failChatSession env (unstarted state contacts offer), false) := by
    simp [beginIceSession, hsender, Nat.not_le.mpr hsessionId, hstart, chatIceSessionStart,
      unstarted]
  refine ⟨(chatContactsVerifyOrPin env.contactsIo state.contacts offer.sender
    offer.identityPk).db, offer, hvalid, hpeer, hclient, ?_⟩
  simp only [chatdStep, callbackChatdControl]
  rw [if_neg (by simp; omega)]
  simp only [handleReceive, htype, handleChatAccept, haccept, hcontact, startAcceptedSession,
    hbegin]

/-- An answer for which ICE cannot be started is settled exactly when the session
cannot be asked for again. -/
theorem settled_acceptFails_iff (sodium : Sodium) {env : Env} {state : ChatdState}
    {event : ChatdEvent} (hname : chatUsernameIsValid state.identity.username = true)
    (hnames : NamesFit state.view) (hfails : AcceptFails env state event) :
    (Retried state (chatdStep sodium state (env, event)) ∨
        Reported state (chatdStep sodium state (env, event))) ↔ ¬ CanRetry state := by
  obtain ⟨contacts, offer, hvalid, hpeer, hclient, hstep⟩ := chatdStep_acceptFails sodium hfails
  obtain ⟨fd, hfd⟩ := Option.ne_none_iff_exists'.mp hclient
  have hattached : (unstarted state contacts offer).lookupClientFd = some fd := hfd
  have hunready : (unstarted state contacts offer).session.encryptedSessionReady = false := rfl
  have hfits : NamesFit (unstarted state contacts offer).view :=
    ⟨(username_length hvalid).2, hnames.lookupPeer⟩
  have hsame : CanRetry (unstarted state contacts offer) ↔ CanRetry state :=
    ⟨fun hretry => ⟨hretry.peer, hretry.connection, hretry.retries, hretry.slot⟩,
      fun hretry => ⟨hretry.peer, hretry.connection, hretry.retries, hretry.slot⟩⟩
  rw [hstep]
  constructor
  · -- a queued request keeps the client, which is then told all the same
    intro hsettled hretry
    obtain ⟨htold, hkept, hslot, sessionId, hrequest⟩ :=
      retried_failChatSession env hattached hunready hfits hname (hsame.mpr hretry)
    obtain ⟨⟨_, _, _, _, _, _, htoldTwice⟩, hdetached, _⟩ :=
      reported_writeLookupResponse env (hkept.trans hattached)
        (rfl : (IpcLine.iceFailed offer.sender).isFailure = true)
        (length_iceFailed (username_length hvalid).2)
    have hpending : (writeLookupResponse env (failChatSession env
        (unstarted state contacts offer)) (.iceFailed offer.sender)).pending =
          (failChatSession env (unstarted state contacts offer)).pending := by
      unfold writeLookupResponse
      split <;> rfl
    rcases hsettled with hagain | hreported
    · rw [hagain.client, hfd] at hdetached
      exact nomatch hdetached
    · rcases hreported.slot with hunqueued | hother
      · rw [hpending, hrequest, hretry.slot] at hunqueued
        exact absurd hunqueued nofun
      · exact hother _ _ (hpending.trans hrequest)
  · intro hretry
    have hreported := reported_failChatSession env hattached hunready hfits
      (hsame.not.mpr hretry)
    rw [writeLookupResponse_detached env _ hreported.client]
    exact Or.inr ⟨hreported.told, hreported.client, hreported.slot⟩

/-- In every reachable state, an attempt that fails is asked for again or reported,
and not both, exactly when it does not fail at an answer whose session can be
asked for again. -/
theorem failed_attempt_settled (sodium : Sodium) {identity : ChatIdentity}
    (hname : chatUsernameIsValid identity.username = true) (store : ContactsDb)
    (inputs : List (Env × ChatdEvent)) (env : Env) (event : ChatdEvent) :
    let state := Transition.run (chatdStep sodium) (initialState identity store) inputs
    AcceptFails env state event ∨ ServiceFails sodium env state event →
      ((Retried state (chatdStep sodium state (env, event)) ∨
          Reported state (chatdStep sodium state (env, event))) ↔
        ¬ (AcceptFails env state event ∧ CanRetry state)) := by
  intro state hfails
  have hnames : NamesFit state.view := namesFit_run sodium identity store inputs
  have hown : chatUsernameIsValid state.identity.username = true := by
    have hsame : state.identity = identity :=
      (sessionSound_run sodium identity store inputs).account
    rw [hsame]
    exact hname
  by_cases haccept : AcceptFails env state event
  · rw [settled_acceptFails_iff sodium hown hnames haccept]
    simp [haccept]
  · have hservice := hfails.resolve_left haccept
    obtain rfl := hservice.1
    exact iff_of_true (settled_serviceIceSession hown hnames hservice) (by simp [haccept])

/-- Bob's login, and a client that asks for Alice. -/
def bobAsks : List ChatdEvent :=
  login (Transparent.repeated 32 9) ++
    [openChat 7 alice.username, .control (.writeable true)]

def bobAsking : ChatdState :=
  Transition.run (chatdStep Transparent.sodium) (initialState bob none) (smoothly 2 bobAsks)

/-- Alice's answer to the request of Bob's client. -/
def aliceAccepts : ChatdEvent :=
  receive (offerJson .chatAccept alice bob.username
    (sodiumBin2hex (Transparent.repeated 16 2)))

/-- ICE cannot be started for the answer: the client is told that the session
failed and let go, and the session is asked for again. -/
theorem failed_start_retried_and_reported :
    let env := { Env.smooth 1 2 with iceStart := .error .agent }
    let next := chatdStep Transparent.sodium bobAsking (env, aliceAccepts)
    bobAsking.lookupClientFd = some 7 ∧ bobAsking.pending = [] ∧
      next.told = bobAsking.told ++
        [.ipcLine 7 (some alice.username) (.iceFailed alice.username) true, .ipcClosed 7] ∧
      next.lookupClientFd = none ∧
      next.pending = offerJson .chatRequest bob alice.username
        (sodiumBin2hex (Transparent.repeated 16 2)) := by
  decide +kernel

/-- An answered request whose connection takes too long. -/
def bobConnecting : ChatdState :=
  Transition.run (chatdStep Transparent.sodium) (initialState bob none)
    (smoothly 2 (bobAsks ++ [aliceAccepts]))

theorem failed_attempt_settled_bob :
    Retried bobConnecting
        (chatdStep Transparent.sodium bobConnecting (Env.smooth 100 2, .serviceIce)) ∨
      Reported bobConnecting
        (chatdStep Transparent.sodium bobConnecting (Env.smooth 100 2, .serviceIce)) := by
  have hfacts : chatUsernameIsValid bob.username = true ∧
      bobConnecting.lookupClientFd ≠ none ∧
      bobConnecting.session.encryptedSessionReady = false ∧
      (serviceAttempt Transparent.sodium (Env.smooth 100 2) bobConnecting).toOption.isNone =
        true := by decide +kernel
  obtain ⟨hname, hclient, hunready, herror⟩ := hfacts
  have hfails : ServiceFails Transparent.sodium (Env.smooth 100 2) bobConnecting
      .serviceIce := by
    refine ⟨rfl, hclient, hunready, ?_⟩
    cases hattempt : serviceAttempt Transparent.sodium (Env.smooth 100 2) bobConnecting with
    | ok next => simp [hattempt, Except.toOption] at herror
    | error failed => exact ⟨failed, rfl⟩
  have hsettled := failed_attempt_settled Transparent.sodium hname none
    (smoothly 2 (bobAsks ++ [aliceAccepts])) (Env.smooth 100 2) .serviceIce
  rw [← bobConnecting] at hsettled
  refine (hsettled (Or.inr hfails)).mpr ?_
  rintro ⟨⟨_, _, _, hevent, _⟩, _⟩
  exact nomatch hevent

end ProntoChat.Daemon
