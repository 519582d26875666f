import ProntoChat.Daemon.OpenChat
import ProntoChat.Daemon.Service

/-!
# Deadlines of a waiting client

A client that asked for a session waits until the session is ready.  The daemon
bounds the negotiation of a running session by two deadlines, but a request
that has not been answered runs under none.  This module follows the fields
that decide whether a waiting client is watched by a deadline.
-/

namespace ProntoChat.Daemon

open ProntoChat.QuotedText
open ProntoChat.Protocole
open ProntoChat.Json
open ProntoChat.Contacts
open ProntoChat.Crypto
open ProntoChat.Ice
open ProntoChat.Server (registerOkJson authChallengeJson authOkJson)

/-! ## The watched fields -/

/-- The fields that decide whether a waiting client is watched. -/
structure Watch where
  client : Option ℕ := none
  active : Bool := false
  iceReady : Bool := false
  notified : Bool := false
  encrypted : Bool := false
  iceDeadline : ℕ := 0
  cryptoDeadline : ℕ := 0

def ChatdState.watch (state : ChatdState) : Watch where
  client := state.lookupClientFd
  active := state.session.iceActive
  iceReady := state.session.ice.ready
  notified := state.session.iceCliNotified
  encrypted := state.session.encryptedSessionReady
  iceDeadline := state.session.iceDeadlineAt
  cryptoDeadline := state.session.cryptoDeadlineAt

/-- A client is attached and its session is not ready. -/
def Watch.Waiting (watch : Watch) : Prop :=
  watch.client ≠ none ∧ watch.encrypted = false

/-- A deadline is armed on which `service_ice_session` acts. -/
def Watch.Armed (watch : Watch) : Prop :=
  watch.active = true ∧
    if watch.iceReady then watch.cryptoDeadline ≠ 0 else watch.iceDeadline ≠ 0

/-- Every running session has its deadline, every notified session has the
second one, and a waiting client has a running session. -/
structure Watch.Sound (watch : Watch) : Prop where
  ice : watch.active = true → watch.iceDeadline ≠ 0
  crypto : watch.notified = true → watch.cryptoDeadline ≠ 0
  attached : watch.Waiting → watch.active = true

/-- The service step has seen the connection. -/
def Watch.Seen (watch : Watch) : Prop :=
  watch.active = true → watch.iceReady = true → watch.notified = true

theorem Watch.Sound.armed {watch : Watch} (hsound : watch.Sound)
    (hseen : watch.Seen) (hwaiting : watch.Waiting) : watch.Armed := by
  have hactive := hsound.attached hwaiting
  refine ⟨hactive, ?_⟩
  split_ifs with hready
  · exact hsound.crypto (hseen hactive hready)
  · exact hsound.ice hactive

/-- Nothing is waited for without a client and without a session. -/
theorem Watch.sound_idle : ({} : Watch).Sound ∧ ({} : Watch).Seen :=
  ⟨⟨nofun, nofun, fun hwaiting => absurd rfl hwaiting.1⟩, nofun⟩

/-- Detaching the client keeps the deadlines. -/
theorem Watch.Sound.detach {watch : Watch} (hsound : watch.Sound) :
    ({ watch with client := none } : Watch).Sound :=
  { hsound with attached := fun hwaiting => absurd rfl hwaiting.1 }

/-! ## Responses and failures -/

@[simp]
theorem watch_writeIpcResponse (env : Env) (state : ChatdState) (fd : ℕ)
    (line : IpcLine) : (writeIpcResponse env state fd line).watch = state.watch :=
  rfl

@[simp]
theorem watch_writeIpcLine (env : Env) (state : ChatdState) (fd : ℕ)
    (line : IpcLine) : (writeIpcLine env state fd line).1.watch = state.watch :=
  rfl

@[simp]
theorem watch_setSessionState (state : ChatdState) (next : ChatdSessionState) :
    (state.setSessionState next).watch = state.watch := rfl

@[simp]
theorem watch_closeLookupClient (state : ChatdState) :
    (closeLookupClient state).watch = { state.watch with client := none } := rfl

@[simp]
theorem watch_resetIceSession (state : ChatdState) :
    (resetIceSession state).watch = { client := state.lookupClientFd } := rfl

@[simp]
theorem watch_writeLookupResponse (env : Env) (state : ChatdState)
    (line : IpcLine) :
    (writeLookupResponse env state line).watch =
      { state.watch with client := none } := by
  unfold writeLookupResponse
  cases hclient : state.lookupClientFd with
  | none => simp [ChatdState.watch, hclient]
  | some fd => rfl

@[simp]
theorem watch_queueFormatted (state : ChatdState) (size : ℕ) (json : Str) :
    (queueFormatted state size json).1.watch = state.watch := by
  obtain ⟨_, hsession, hclient⟩ := queueFormatted_unchanged state size json
  simp [ChatdState.watch, hsession, hclient]

@[simp]
theorem watch_queueChatRequest (env : Env) (state : ChatdState) (peer : Str) :
    (queueChatRequest env state peer).1.watch = state.watch := by
  rw [queueChatRequest, watch_queueFormatted]
  rfl

/-- `retry_outgoing_chat_session` finds a client to ask for again and the slot
for its request. -/
def Retries (state : ChatdState) : Prop :=
  state.lookupClientFd ≠ none ∧ state.lookupPeer ≠ [] ∧
    state.controlWsi = true ∧ state.session.encryptedSessionReady = false ∧
    state.chatRetryCount < chatdIceRetryMax ∧
    state.lookupPeer.length < usernameSize ∧ state.pending = []

theorem watch_reportFailedSession (env : Env) (state : ChatdState) :
    (reportFailedSession env state).watch =
      { state.watch with client := none } := by
  unfold reportFailedSession
  split
  · rename_i hclient
    simp [ChatdState.watch, hclient]
  · split_ifs <;> simp

theorem watch_retryOutgoingChatSession {env : Env} {state next : ChatdState}
    (hretry : retryOutgoingChatSession env state = some next) :
    ∃ client, next.watch = { client } ∧ (¬ Retries state → client = none) := by
  unfold retryOutgoingChatSession at hretry
  split_ifs at hretry with hrefused
  simp only [not_or, not_le, Bool.not_eq_false, Bool.not_eq_true] at hrefused
  obtain ⟨hclient, hpeer, hwsi, hready, hcount, hlength⟩ := hrefused
  have hwatch := watch_queueChatRequest env
    ((resetIceSession
      { state with chatRetryCount := state.chatRetryCount + 1 }).setSessionState
      .requesting) state.lookupPeer
  obtain ⟨queued, ok, hqueue⟩ : ∃ queued ok, queueChatRequest env
      ((resetIceSession
        { state with chatRetryCount := state.chatRetryCount + 1 }).setSessionState
        .requesting) state.lookupPeer = (queued, ok) := ⟨_, _, rfl⟩
  simp only [hqueue] at hretry hwatch
  cases ok with
  | true =>
      obtain rfl := Option.some.inj hretry
      obtain ⟨hempty, _⟩ := queueFormatted_ok hqueue
      refine ⟨state.lookupClientFd, hwatch, fun hretries => ?_⟩
      exact absurd ⟨hclient, hpeer, hwsi, hready, hcount, hlength, hempty⟩ hretries
  | false =>
      obtain rfl := Option.some.inj hretry
      refine ⟨none, ?_, fun _ => rfl⟩
      rw [watch_writeLookupResponse, hwatch]
      rfl

/-- A failure ends the session; the client stays attached only for a retry. -/
theorem watch_failChatSession (env : Env) (state : ChatdState) :
    ∃ client, (failChatSession env state).watch = { client } ∧
      (¬ Retries state → client = none) := by
  unfold failChatSession
  split
  · rename_i next hretry
    exact watch_retryOutgoingChatSession hretry
  · refine ⟨none, ?_, fun _ => rfl⟩
    have hreport := watch_reportFailedSession env (state.setSessionState .failed)
    have hclient := congrArg Watch.client hreport
    rw [watch_resetIceSession]
    exact congrArg (fun client => ({ client } : Watch)) hclient

/-! ## Packets -/

@[simp]
theorem watch_emit (state : ChatdState) (effect : Effect) :
    (state.emit effect).watch = state.watch := rfl

@[simp]
theorem watch_encrypted (state : ChatdState) (type : ChatPacketType)
    (plaintext : List UInt8) (stream : ChatCryptoSecretstream) :
    (state.encrypted type plaintext stream).watch = state.watch := rfl

@[simp]
theorem watch_decrypted (state : ChatdState) (type : ChatPacketType)
    (plaintext : List UInt8) (stream : ChatCryptoSecretstream) :
    (state.decrypted type plaintext stream).watch = state.watch := rfl

@[simp]
theorem watch_sendIcePacket (env : Env) (state : ChatdState)
    (type : ChatPacketType) (payload : List UInt8) :
    (sendIcePacket env state type payload).1.watch = state.watch := by
  rcases sendIcePacket_cases (Eq.refl (sendIcePacket env state type payload))
    with hsend | hsend | hsend <;> rw [hsend] <;> rfl

theorem watch_sendSessionPacket {env : Env} {state : ChatdState}
    {type : ChatPacketType} {payload : List UInt8}
    {note : ChatdSession → ChatdSession}
    (hnote : (state.setSession (note state.session)).watch = state.watch) :
    (sendSessionPacket env state type payload note).1.watch = state.watch := by
  unfold sendSessionPacket
  rcases sendIcePacket_cases (Eq.refl (sendIcePacket env state type payload))
    with hsend | hsend | hsend
  · rw [hsend]
  · rw [hsend]
    rfl
  · rw [hsend]
    exact hnote

theorem watch_startCryptoHandshake (sodium : Sodium) (env : Env)
    (state : ChatdState) :
    (startCryptoHandshake sodium env state).1.watch = state.watch := by
  unfold startCryptoHandshake
  rcases initCryptoHandshake_cases (Eq.refl (initCryptoHandshake sodium env
    (state.setSessionState .cryptoHandshake))) with
    ⟨_, hinit⟩ | ⟨_, hinit⟩ | ⟨_, _, _, _, _, _, hinit⟩ <;> rw [hinit]
  · exact watch_sendSessionPacket rfl
  · rfl
  · exact watch_sendSessionPacket rfl

theorem watch_sendStreamHeader (sodium : Sodium) (env : Env)
    (state : ChatdState) :
    (sendStreamHeader sodium env state).1.watch = state.watch := by
  unfold sendStreamHeader initStreamHeader chatCryptoSecretstreamInitPush
  split_ifs
  · exact watch_sendSessionPacket rfl
  · cases env.streamHeader with
    | none => rfl
    | some header => exact watch_sendSessionPacket rfl

theorem watch_handshakeStage (sodium : Sodium) (env : Env) (state : ChatdState) :
    (handshakeStage sodium env state).1.watch = state.watch := by
  unfold handshakeStage
  split_ifs
  · exact watch_startCryptoHandshake sodium env state
  · rfl

theorem watch_headerStage (sodium : Sodium) (env : Env) (state : ChatdState) :
    (headerStage sodium env state).1.watch = state.watch := by
  unfold headerStage
  split_ifs
  · exact watch_sendStreamHeader sodium env state
  · rfl

theorem watch_writeChatMessageToCli (env : Env) (state : ChatdState)
    (plaintext : List UInt8) :
    (writeChatMessageToCli env state plaintext).1.watch = state.watch := by
  unfold writeChatMessageToCli
  split
  · rfl
  · split_ifs <;> rfl

theorem watch_closeChatByPeer (env : Env) (state : ChatdState) :
    (closeChatByPeer env state).watch = {} := by
  unfold closeChatByPeer
  simp only [watch_setSessionState, watch_resetIceSession]
  split
  · rename_i hclient
    rw [hclient]
  · rfl

/-- A packet keeps the watched fields, or the peer of a ready session closed
it. -/
def PacketWatch (state : ChatdState) (outcome : Outcome) : Prop :=
  outcome.1.watch = state.watch ∨
    (state.session.encryptedSessionReady = true ∧ outcome.1.watch = {})

theorem packetWatch_handleChatPacket (sodium : Sodium) (env : Env)
    (state : ChatdState) (type : ChatPacketType) (payload : List UInt8) :
    PacketWatch state (handleChatPacket sodium env state type payload) := by
  unfold handleChatPacket decryptChatPayload
  split_ifs with hrefused
  · exact Or.inl rfl
  · rw [not_or, not_or, Bool.not_eq_false] at hrefused
    split
    · exact Or.inl rfl
    · simp only
      split
      · split_ifs
        · exact Or.inl rfl
        · exact Or.inl (watch_writeChatMessageToCli env _ _)
      · split_ifs
        · exact Or.inl rfl
        · exact Or.inr ⟨hrefused.2.1, watch_closeChatByPeer env _⟩
      · exact Or.inl rfl

theorem packetWatch_dispatch (sodium : Sodium) (env : Env) (state : ChatdState)
    (packet : List UInt8) :
    PacketWatch state (dispatchIceAppPacket sodium env state packet) := by
  unfold dispatchIceAppPacket
  split
  · exact Or.inl rfl
  · split_ifs
    · exact Or.inl rfl
    · simp only
      split
      · unfold handleHandshakePacket finishCryptoHandshake
        split_ifs
        · exact Or.inl rfl
        · exact Or.inl rfl
        · split <;> exact Or.inl rfl
        · exact Or.inl rfl
      · unfold handleStreamHeaderPacket receiveStreamHeader
        split_ifs
        · exact Or.inl rfl
        · exact Or.inl rfl
        · exact Or.inl rfl
        · split <;> exact Or.inl rfl
        · exact Or.inl rfl
      · exact packetWatch_handleChatPacket sodium env state .message _
      · exact packetWatch_handleChatPacket sodium env state .close _
      · exact Or.inl rfl
      · exact Or.inl rfl

theorem packetWatch_process (sodium : Sodium) (env : Env) (state : ChatdState) :
    PacketWatch state (processReceivedIcePacket sodium env state) := by
  unfold processReceivedIcePacket
  cases hreceived : state.session.ice.received with
  | nil =>
      rw [chatIceTakeReceived_nil _ hreceived]
      exact Or.inl rfl
  | cons packet packets =>
      obtain ⟨rest, htake, _⟩ := chatIceTakeReceived_cons hreceived
      simp only [chatdIcePacketMax, htake]
      split_ifs
      · exact Or.inl rfl
      · exact packetWatch_dispatch sodium env
          (state.setSession { state.session with
            ice := { state.session.ice with recvQueue := rest } }) packet

theorem watch_process {sodium : Sodium} {env : Env} {state : ChatdState}
    (hready : state.watch.encrypted = false) :
    (processReceivedIcePacket sodium env state).1.watch = state.watch := by
  rcases packetWatch_process sodium env state with hwatch | ⟨hcontra, _⟩
  · exact hwatch
  · exact absurd (hready.symm.trans hcontra) Bool.false_ne_true

/-! ## What the service step keeps -/

/-- The deadlines of a state between two iterations of the main loop. -/
structure Watched (state : ChatdState) : Prop where
  sound : state.watch.Sound
  seen : state.watch.Seen

theorem watched_of_eq {state next : ChatdState} (hwatched : Watched state)
    (hwatch : next.watch = state.watch) : Watched next where
  sound := hwatch ▸ hwatched.sound
  seen := hwatch ▸ hwatched.seen

/-- The client was detached; the session is the same. -/
theorem watched_of_detached {state next : ChatdState} (hwatched : Watched state)
    (hwatch : next.watch = { state.watch with client := none }) :
    Watched next where
  sound := hwatch ▸ hwatched.sound.detach
  seen := hwatch ▸ hwatched.seen

theorem watched_of_idle {state : ChatdState} (hwatch : state.watch = {}) :
    Watched state where
  sound := hwatch ▸ Watch.sound_idle.1
  seen := hwatch ▸ Watch.sound_idle.2

/-- A ready session needs no deadline. -/
theorem watched_of_encrypted {state next : ChatdState} (hwatched : Watched state)
    (hwatch : next.watch = { state.watch with encrypted := true }) :
    Watched next := by
  refine ⟨?_, hwatch ▸ hwatched.seen⟩
  rw [hwatch]
  exact { hwatched.sound with attached := fun hwaiting => nomatch hwaiting.2 }

theorem watched_failChatSession {env : Env} {state : ChatdState}
    (hretries : ¬ Retries state) : Watched (failChatSession env state) := by
  obtain ⟨client, hwatch, hclient⟩ := watch_failChatSession env state
  rw [hclient hretries] at hwatch
  exact watched_of_idle hwatch

theorem watch_establishSession (env : Env) (state : ChatdState) :
    (establishSession env state).watch = state.watch ∨
      (establishSession env state).watch =
        { state.watch with encrypted := true } := by
  unfold establishSession
  split_ifs
  · right
    simp only
    split <;> rfl
  · exact Or.inl rfl

/-- The service of a session that is not ready at most makes it ready. -/
theorem watch_handshakeAttempt {sodium : Sodium} {env : Env}
    {state next : ChatdState} (hready : state.watch.encrypted = false)
    (hattempt : handshakeAttempt sodium env state = .ok next) :
    next.watch = state.watch ∨ next.watch = { state.watch with encrypted := true } := by
  unfold handshakeAttempt at hattempt
  have hshaken := watch_handshakeStage sodium env state
  generalize handshakeStage sodium env state = shaken at hattempt hshaken
  have hattempt := attempt_bind_ok hattempt
  have hfirst : (processReceivedIcePacket sodium env shaken.1).1.watch =
      shaken.1.watch := watch_process (hshaken ▸ hready)
  generalize processReceivedIcePacket sodium env shaken.1 = first
    at hattempt hfirst
  have hattempt := attempt_bind_ok hattempt
  have hsent := watch_headerStage sodium env first.1
  generalize headerStage sodium env first.1 = sent at hattempt hsent
  have hattempt := attempt_bind_ok hattempt
  have hkept : sent.1.watch = state.watch :=
    hsent.trans (hfirst.trans hshaken)
  have hsecond : (processReceivedIcePacket sodium env sent.1).1.watch =
      sent.1.watch := watch_process (hkept ▸ hready)
  generalize processReceivedIcePacket sodium env sent.1 = second
    at hattempt hsecond
  have hattempt := attempt_bind_ok hattempt
  obtain rfl := Except.ok.inj hattempt
  rw [← hsecond.trans hkept]
  exact watch_establishSession env second.1

theorem watched_handshakeAttempt {sodium : Sodium} {env : Env}
    {state next : ChatdState} (hready : state.watch.encrypted = false)
    (hwatched : Watched state)
    (hattempt : handshakeAttempt sodium env state = .ok next) : Watched next := by
  rcases watch_handshakeAttempt hready hattempt with hwatch | hwatch
  · exact watched_of_eq hwatched hwatch
  · exact watched_of_encrypted hwatched hwatch

/-- A state of the receive loop: the session is ready, or the peer closed it. -/
def QueueServed (state : ChatdState) : Prop :=
  (state.watch.encrypted = true ∧ Watched state) ∨ state.watch = {}

theorem QueueServed.watched {state : ChatdState} (hserved : QueueServed state) :
    Watched state := by
  rcases hserved with ⟨_, hwatched⟩ | hidle
  · exact hwatched
  · exact watched_of_idle hidle

theorem queueServed_process {sodium : Sodium} {env : Env} {state : ChatdState}
    (hserved : QueueServed state) :
    QueueServed (processReceivedIcePacket sodium env state).1 := by
  rcases packetWatch_process sodium env state with hwatch | ⟨_, hidle⟩
  · rcases hserved with ⟨hready, hwatched⟩ | hstate
    · exact Or.inl ⟨hwatch ▸ hready, watched_of_eq hwatched hwatch⟩
    · exact Or.inr (hwatch.trans hstate)
  · exact Or.inr hidle

theorem watched_serviceReceiveQueue (sodium : Sodium) (env : Env) (count : ℕ)
    {state : ChatdState} (hserved : QueueServed state) :
    Watched (serviceReceiveQueue sodium env count state) := by
  induction count generalizing state with
  | zero => exact hserved.watched
  | succ count ih =>
      have hnext : QueueServed (processReceivedIcePacket sodium env state).1 :=
        queueServed_process hserved
      unfold serviceReceiveQueue
      split
      · rename_i next hprocess
        rw [hprocess] at hnext
        exact ih hnext
      · rename_i next hprocess
        rw [hprocess] at hnext
        split_ifs with hactive
        · apply watched_failChatSession
          rintro ⟨_, _, _, hready, _⟩
          rcases hnext with ⟨hencrypted, _⟩ | hidle
          · exact absurd (hready.symm.trans hencrypted) Bool.false_ne_true
          · have hinactive := congrArg Watch.active hidle
            exact absurd (hinactive.symm.trans hactive) Bool.false_ne_true
        · exact hnext.watched

theorem watch_servicePendingRemoteSdp (env : Env) (state : ChatdState) :
    (servicePendingRemoteSdp env state).1.watch = state.watch := by
  unfold servicePendingRemoteSdp applyRemoteIceSdp chatIceSessionSetRemoteSdp
  split_ifs <;> rfl

theorem watch_queueLocalIceSdp (sodium : Sodium) (env : Env)
    (state : ChatdState) :
    (queueLocalIceSdp sodium env state).1.watch = state.watch := by
  unfold queueLocalIceSdp
  split
  · rfl
  · split
    · rfl
    · rename_i encoded _
      have hqueue := watch_queueFormatted state chatdMaxJsonSize
        (iceCredentialsJson state.identity.username state.session.icePeer
          state.session.iceSessionId encoded)
      split
      · rename_i next hnext
        rw [hnext] at hqueue
        exact hqueue
      · rename_i next hnext
        rw [hnext] at hqueue
        exact hqueue

theorem watch_serviceLocalSdp (sodium : Sodium) (env : Env) (state : ChatdState) :
    (serviceLocalSdp sodium env state).1.watch = state.watch := by
  have hqueue := watch_queueLocalIceSdp sodium env state
  unfold serviceLocalSdp
  split_ifs
  · split
    · rename_i next hnext
      rw [hnext] at hqueue
      exact hqueue
    · rename_i next hnext
      rw [hnext] at hqueue
      exact hqueue
  · rfl

/-- The connection is noticed with a deadline for the handshake. -/
theorem watched_notifyIceConnected (env : Env) {state : ChatdState}
    (hsound : state.watch.Sound) : Watched (notifyIceConnected env state) := by
  unfold notifyIceConnected
  split_ifs with hnotified
  · exact ⟨hsound, fun _ _ => hnotified⟩
  · refine ⟨{ hsound with crypto := fun _ => ?_ }, fun _ _ => rfl⟩
    exact Nat.succ_ne_zero _

theorem watched_cryptoAttempt {sodium : Sodium} {env : Env}
    {state next : ChatdState} (hwatched : Watched state)
    (hattempt : cryptoAttempt sodium env state = .ok next) : Watched next := by
  unfold cryptoAttempt at hattempt
  split_ifs at hattempt with _ hready
  · obtain rfl := Except.ok.inj hattempt
    exact hwatched
  · obtain rfl := Except.ok.inj hattempt
    exact watched_serviceReceiveQueue sodium env _ (Or.inl ⟨hready, hwatched⟩)
  · rw [Bool.not_eq_true] at hready
    exact watched_handshakeAttempt hready hwatched hattempt

theorem watched_serviceAttempt {sodium : Sodium} {env : Env}
    {state next : ChatdState} (hsound : state.watch.Sound)
    (hattempt : serviceAttempt sodium env state = .ok next) : Watched next := by
  unfold serviceAttempt at hattempt
  split_ifs at hattempt with hinactive
  · obtain rfl := Except.ok.inj hattempt
    exact ⟨hsound, fun hactive =>
      absurd (hinactive.symm.trans hactive) Bool.false_ne_true⟩
  · have hremote := watch_servicePendingRemoteSdp env state
    generalize servicePendingRemoteSdp env state = described
      at hattempt hremote
    have hattempt := attempt_bind_ok hattempt
    have hlocal := watch_serviceLocalSdp sodium env described.1
    generalize serviceLocalSdp sodium env described.1 = queued at hattempt hlocal
    have hattempt := attempt_bind_ok hattempt
    have hqueued : queued.1.watch.Sound := (hlocal.trans hremote) ▸ hsound
    split_ifs at hattempt with _ hready
    · exact watched_cryptoAttempt (watched_notifyIceConnected env hqueued) hattempt
    · obtain rfl := Except.ok.inj hattempt
      exact ⟨hqueued, fun _ hcontra => absurd hcontra hready⟩

/-- The service step arms the deadlines of its session, unless it leaves a
client to a retry. -/
theorem watched_serviceIceSession {sodium : Sodium} {env : Env}
    {state : ChatdState} (hsound : state.watch.Sound)
    (hretries : ∀ failed, serviceAttempt sodium env state = .error failed →
      ¬ Retries failed) :
    Watched (serviceIceSession sodium env state) := by
  rw [serviceIceSession_eq]
  cases hattempt : serviceAttempt sodium env state with
  | ok next => exact watched_serviceAttempt hsound hattempt
  | error failed => exact watched_failChatSession (hretries failed hattempt)

/-! ## The other events -/

theorem sound_serviceIceCallback {state : ChatdState} (callback : IceCallback)
    (hsound : state.watch.Sound) :
    (serviceIceCallback state callback).watch.Sound := by
  unfold serviceIceCallback
  split_ifs
  · exact { hsound with }
  · exact hsound

theorem watch_sendEncryptedChatMessage (sodium : Sodium) (env : Env)
    (state : ChatdState) (text : Str) :
    (sendEncryptedChatMessage sodium env state text).1.watch = state.watch := by
  unfold sendEncryptedChatMessage sendEncryptedChatPayload
  split_ifs
  · rfl
  · rfl
  · split
    · rfl
    · rw [watch_sendIcePacket, watch_encrypted]

theorem watch_serviceCommand (sodium : Sodium) (env : Env) (state : ChatdState)
    (fd : ℕ) (line : Str) :
    (serviceCommand sodium env state fd line).watch = state.watch := by
  have hsend := watch_sendEncryptedChatMessage sodium env state
    (line.drop sendMessagePrefix.length)
  unfold serviceCommand
  split_ifs
  · split
    · rename_i next hnext
      rw [hnext] at hsend
      exact hsend
    · rename_i next hnext
      rw [hnext] at hsend
      exact hsend
  · rfl

theorem watched_serviceCommands (sodium : Sodium) (env : Env) (lines : List Str)
    {state : ChatdState} (hwatched : Watched state) :
    Watched (serviceCommands sodium env lines state) := by
  induction lines generalizing state with
  | nil => exact hwatched
  | cons line lines ih =>
      unfold serviceCommands
      split
      · exact hwatched
      · split_ifs
        · exact hwatched
        · exact watched_of_idle rfl
        · exact ih (watched_of_eq hwatched
            (watch_serviceCommand sodium env state _ line))

theorem watched_serviceActiveChatClient (sodium : Sodium) (env : Env)
    (read : ClientRead) {state : ChatdState} (hwatched : Watched state) :
    Watched (serviceActiveChatClient sodium env state read) := by
  unfold serviceActiveChatClient
  split_ifs
  · exact hwatched
  · split
    · exact hwatched
    · exact watched_of_idle rfl
    · exact watched_of_idle rfl
    · exact watched_serviceCommands sodium env _ hwatched

theorem watched_handleOpenChatCommand {env : Env} {fd : ℕ} {state : ChatdState}
    {peer : Str} (hwatched : Watched state)
    (hactive : openChatAnswer state peer = .request →
      state.session.iceActive = true) :
    Watched (handleOpenChatCommand env fd state peer).1 := by
  unfold handleOpenChatCommand
  cases hanswer : openChatAnswer state peer with
  | refuse line => exact watched_of_eq hwatched rfl
  | attach =>
      obtain ⟨_, hready, _⟩ := openChatAnswer_attach hanswer
      refine ⟨{ hwatched.sound with attached := ?_ }, hwatched.seen⟩
      rintro ⟨_, hwaiting⟩
      exact absurd (hwaiting.symm.trans hready) Bool.false_ne_true
  | request =>
      have hrunning := hactive hanswer
      obtain ⟨hsession, _⟩ := requestSession_session env fd state peer
      refine ⟨⟨?_, ?_, ?_⟩, ?_⟩ <;>
        simp only [ChatdState.watch, hsession, Watch.Waiting, Watch.Seen]
      · exact hwatched.sound.ice
      · exact hwatched.sound.crypto
      · exact fun _ => hrunning
      · exact hwatched.seen

theorem watched_handleIpcClient {env : Env} {fd : ℕ} {state : ChatdState}
    {input : List UInt8} (hwatched : Watched state)
    (hactive : ∀ peer,
      parseOpenChat (cString (input.take (chatIpcMaxCommand - 1))) = some peer →
      openChatAnswer state peer = .request → state.session.iceActive = true) :
    Watched (handleIpcClient env fd state input).1 := by
  unfold handleIpcClient
  simp only
  split_ifs
  · exact hwatched
  · exact watched_of_eq hwatched rfl
  · split
    · rename_i peer hpeer
      exact watched_handleOpenChatCommand hwatched (hactive peer hpeer)
    · exact watched_of_eq hwatched rfl

theorem acceptIpcClient_same (env : Env) (state : ChatdState)
    (accepted : Option ℕ) :
    (acceptIpcClient env state accepted).watch = state.watch ∧
      (acceptIpcClient env state accepted).session = state.session := by
  unfold acceptIpcClient
  split <;> exact ⟨rfl, rfl⟩

theorem watched_serviceIpc {env : Env} {state : ChatdState}
    {accepted : Option ℕ} {poll : IpcPoll} (hwatched : Watched state)
    (hactive : requestedPeer env state accepted poll ≠ none →
      state.session.iceActive = true) :
    Watched (serviceIpc env state accepted poll) := by
  obtain ⟨hwatch, hsession⟩ := acceptIpcClient_same env state accepted
  have hstate := watched_of_eq hwatched hwatch
  unfold requestedPeer at hactive
  unfold serviceIpc
  rw [← hsession] at hactive
  generalize acceptIpcClient env state accepted = state at hactive hstate ⊢
  simp only at hactive ⊢
  cases hpending : state.pendingIpcClientFd with
  | none => exact hstate
  | some fd =>
      simp only
      split_ifs with hbroken
      · exact watched_of_eq hstate rfl
      · rw [not_or] at hbroken
        split
        · rename_i input
          have hreleased : Watched (releaseIpcClient state) :=
            watched_of_eq hstate rfl
          have hclient : Watched
              (handleIpcClient env fd (releaseIpcClient state) input).1 := by
            apply watched_handleIpcClient hreleased
            intro peer hpeer hanswer
            apply hactive
            have hrequest : openChatAnswer state peer = .request := hanswer
            simp [hpending, hbroken.2, hpeer, hrequest]
          split_ifs
          · exact hclient
          · exact watched_of_eq hclient rfl
        · exact hstate

/-! ## Control messages -/

/-- A session that was begun has its first deadline; otherwise the begun
session failed in a state with the same queued message. -/
theorem watch_beginIceSession (env : Env) (state : ChatdState)
    (peer sessionId : Str) (controlling : Bool) (remotePk : Bytes 32) :
    ((beginIceSession env state peer sessionId controlling remotePk).2 = true ∧
      (beginIceSession env state peer sessionId controlling remotePk).1.watch =
        { client := state.lookupClientFd
          active := true
          iceDeadline := env.now + chatdIceTimeoutSeconds }) ∨
      ∃ failed, beginIceSession env state peer sessionId controlling remotePk =
          (failChatSession env failed, false) ∧
        failed.pending = state.pending := by
  unfold beginIceSession chatIceSessionStart
  simp only
  split_ifs
  · exact Or.inr ⟨_, rfl, rfl⟩
  · exact Or.inr ⟨_, rfl, rfl⟩
  · cases env.iceStart with
    | error failure => exact Or.inr ⟨_, rfl, rfl⟩
    | ok started => exact Or.inl ⟨rfl, rfl⟩

theorem watched_of_begun {state : ChatdState} {client : Option ℕ} {deadline : ℕ}
    (hwatch : state.watch =
      { client, active := true, iceDeadline := deadline + 1 }) :
    Watched state where
  sound := by
    rw [hwatch]
    exact ⟨fun _ => Nat.succ_ne_zero _, nofun, fun _ => rfl⟩
  seen := by
    rw [hwatch]
    exact fun _ => nofun

theorem watched_answerChatRequest {env : Env} {state : ChatdState}
    (offer : ChatOffer) (hwatched : Watched state) :
    Watched (answerChatRequest env state offer).1 := by
  have hqueue := watch_queueFormatted (state.setSessionState .requesting) 512
    (offerJson .chatAccept state.identity offer.sender offer.sessionId)
  unfold answerChatRequest queueChatAccept
  split
  · rename_i queued hqueued
    have hwatch : queued.watch = state.watch := by
      rw [← watch_setSessionState state .requesting, ← hqueue]
      exact congrArg (fun outcome : Outcome => outcome.1.watch) hqueued.symm
    exact watched_of_eq hwatched hwatch
  · rename_i queued hqueued
    -- The queued answer leaves no slot for a retry, should the session fail.
    obtain ⟨_, _, hpending⟩ := queueFormatted_ok hqueued
    rcases watch_beginIceSession env queued offer.sender offer.sessionId false
      offer.identityPk with ⟨_, hbegun⟩ | ⟨failed, hfailed, hslot⟩
    · exact watched_of_begun hbegun
    · rw [hfailed]
      apply watched_failChatSession
      rintro ⟨_, _, _, _, _, _, hempty⟩
      rw [hslot, hpending] at hempty
      exact nomatch hempty

theorem watched_handleChatRequest {env : Env} {state : ChatdState} (json : Str)
    (hwatched : Watched state) :
    Watched (handleChatRequest env state json).1 := by
  unfold handleChatRequest
  split
  · exact hwatched
  · rename_i offer _
    have hstored : Watched (state.setContacts (chatContactsVerifyOrPin
        env.contactsIo state.contacts offer.sender offer.identityPk).db) :=
      watched_of_eq hwatched rfl
    simp only
    split_ifs
    · exact hstored
    · exact watched_answerChatRequest offer hstored

theorem watched_startAcceptedSession (env : Env) (state : ChatdState)
    (offer : ChatOffer) : Watched (startAcceptedSession env state offer) := by
  unfold startAcceptedSession
  rcases watch_beginIceSession env state offer.sender offer.sessionId true
    offer.identityPk with ⟨hok, hbegun⟩ | ⟨failed, hfailed, _⟩
  · split
    · rename_i begun hresult
      rw [hresult] at hbegun
      exact watched_of_begun hbegun
    · rename_i begun hresult
      rw [hresult] at hok
      exact nomatch hok
  · rw [hfailed]
    obtain ⟨client, hwatch, _⟩ := watch_failChatSession env failed
    apply watched_of_idle
    rw [watch_writeLookupResponse, hwatch]

theorem watched_handleChatAccept {env : Env} {state : ChatdState} (json : Str)
    (hwatched : Watched state) : Watched (handleChatAccept env state json) := by
  unfold handleChatAccept
  split
  · exact hwatched
  · rename_i offer _
    have hstored : Watched (state.setContacts (chatContactsVerifyOrPin
        env.contactsIo state.contacts offer.sender offer.identityPk).db) :=
      watched_of_eq hwatched rfl
    simp only
    generalize state.setContacts (chatContactsVerifyOrPin env.contactsIo
      state.contacts offer.sender offer.identityPk).db = stored at hstored ⊢
    split
    · have hcancel : Watched (queueChatCancel stored offer.sender
          offer.sessionId).1 :=
        watched_of_eq hstored (watch_queueFormatted _ _ _)
      exact watched_of_detached hcancel (watch_writeLookupResponse _ _ _)
    · exact watched_startAcceptedSession env _ offer
    · exact watched_of_detached hstored (watch_writeLookupResponse _ _ _)

theorem watch_handleIceCredentials (sodium : Sodium) (env : Env)
    (state : ChatdState) (json : Str) :
    (handleIceCredentials sodium env state json).1.watch = state.watch := by
  unfold handleIceCredentials applyRemoteIceSdp chatIceSessionSetRemoteSdp
  split
  · rfl
  · split_ifs <;> rfl

theorem watched_handleError {env : Env} {state : ChatdState} (json : Str)
    (hwatched : Watched state) : Watched (handleError env state json).1 := by
  unfold handleError
  simp only
  split_ifs
  · exact watched_of_eq hwatched (watch_queueFormatted _ _ _)
  · exact watched_of_detached hwatched (watch_writeLookupResponse _ _ _)
  · exact watched_of_detached hwatched (watch_writeLookupResponse env state _)

theorem watched_handleUserStatus {env : Env} {state : ChatdState} (json : Str)
    (hwatched : Watched state) : Watched (handleUserStatus env state json) := by
  unfold handleUserStatus
  split
  · split_ifs
    · exact hwatched
    · exact watched_of_detached hwatched (watch_writeLookupResponse _ _ _)
    · exact watched_of_detached hwatched (watch_writeLookupResponse _ _ _)
  · exact hwatched

theorem watched_handleAuthChallenge {sodium : Sodium} {state : ChatdState}
    (json : Str) (hwatched : Watched state) :
    Watched (handleAuthChallenge sodium state json).1 := by
  unfold handleAuthChallenge
  split
  · exact watched_of_eq hwatched rfl
  · exact watched_of_eq hwatched (watch_queueFormatted _ _ _)

theorem watched_handleReceive {sodium : Sodium} {env : Env} {state : ChatdState}
    {json : Str} (hwatched : Watched state)
    (hcancel : jsonType json = some .chatCancel →
      matchingChatCancel state json = true → state.lookupClientFd = none) :
    Watched (handleReceive sodium env state json).1 := by
  unfold handleReceive
  split
  · exact watched_handleError json hwatched
  · split_ifs
    · exact watched_of_eq hwatched (watch_queueFormatted _ _ _)
    · exact hwatched
  · split_ifs
    · exact watched_handleAuthChallenge json hwatched
    · exact hwatched
  · split_ifs
    · exact watched_of_eq hwatched rfl
    · exact hwatched
  · exact watched_handleUserStatus json hwatched
  · exact watched_handleChatRequest json hwatched
  · exact watched_handleChatAccept json hwatched
  · exact watched_of_eq hwatched (watch_handleIceCredentials sodium env state json)
  · rename_i htype
    unfold handleChatCancel
    split_ifs with hmatching
    · apply watched_of_idle
      simp only [watch_setSessionState, watch_resetIceSession,
        hcancel htype hmatching]
    · exact hwatched
  · exact hwatched

theorem watched_loseControl {env : Env} {state : ChatdState} (code : Str)
    (hwatched : Watched state) : Watched (loseControl env state code) := by
  unfold loseControl
  simp only
  split_ifs
  · exact watched_of_detached hwatched (watch_writeLookupResponse _ _ _)
  · exact watched_of_eq hwatched rfl

theorem watched_callbackChatdControl {sodium : Sodium} {env : Env}
    {state : ChatdState} {event : ControlEvent} (hwatched : Watched state)
    (hcancel : ∀ json, event.message = some json →
      jsonType json = some .chatCancel → matchingChatCancel state json = true →
      state.lookupClientFd = none) :
    Watched (callbackChatdControl sodium env state event).1 := by
  cases event with
  | established => exact watched_of_eq hwatched (watch_queueFormatted _ _ _)
  | receive payload whole =>
      simp only [callbackChatdControl]
      split_ifs with hrefused
      · exact watched_of_eq hwatched rfl
      · exact watched_handleReceive hwatched
          (hcancel (cString payload) (if_neg hrefused))
  | writeable written =>
      simp only [callbackChatdControl]
      split_ifs
      · exact hwatched
      · exact watched_of_eq hwatched rfl
      · exact watched_of_eq hwatched rfl
  | connectionError => exact watched_loseControl _ hwatched
  | closed =>
      have hlost : Watched (loseControl env state (bytes "server_disconnected")) :=
        watched_loseControl _ hwatched
      simp only [callbackChatdControl]
      split_ifs
      · exact watched_of_eq hlost rfl
      · exact hlost

/-! ## Iterations of the main loop -/

/-- The event leaves a client waiting without a session: it starts a request
while no session runs, it cancels the session of an attached client, or the
session fails and a retry asks the peer again. -/
def strands (sodium : Sodium) (state : ChatdState) (input : Env × ChatdEvent) :
    Prop :=
  match input.2 with
  | .ipc accepted poll =>
      requestedPeer input.1 state accepted poll ≠ none ∧
        state.session.iceActive = false
  | .control event =>
      ∃ json, event.message = some json ∧ jsonType json = some .chatCancel ∧
        matchingChatCancel state json = true ∧ state.lookupClientFd ≠ none
  | .serviceIce =>
      ∃ failed, serviceAttempt sodium input.1 state = .error failed ∧
        Retries failed
  | _ => False

instance decidableRetries (state : ChatdState) : Decidable (Retries state) :=
  inferInstanceAs (Decidable (_ ∧ _))

instance decidableError {ε α : Type} (result : Except ε α) (p : ε → Prop)
    [DecidablePred p] : Decidable (∃ failed, result = .error failed ∧ p failed) :=
  match result with
  | .error failed => decidable_of_iff (p failed) (by simp)
  | .ok _ => isFalse (by simp)

instance decidableStrands (sodium : Sodium) (state : ChatdState) :
    (input : Env × ChatdEvent) → Decidable (strands sodium state input)
  | (env, .ipc accepted poll) => inferInstanceAs (Decidable
      (requestedPeer env state accepted poll ≠ none ∧
        state.session.iceActive = false))
  | (_, .control event) => inferInstanceAs (Decidable (∃ json ∈ event.message,
      jsonType json = some .chatCancel ∧ matchingChatCancel state json = true ∧
        state.lookupClientFd ≠ none))
  | (env, .serviceIce) => inferInstanceAs (Decidable (∃ failed,
      serviceAttempt sodium env state = .error failed ∧ Retries failed))
  | (_, .activeClient _) => isFalse id
  | (_, .ice _) => isFalse id
  | (_, .reconnect _) => isFalse id

/-- Every event outside the poll of libnice keeps the deadlines. -/
theorem watched_step {sodium : Sodium} {state : ChatdState}
    {input : Env × ChatdEvent} (hwatched : Watched state)
    (hstrands : ¬ strands sodium state input)
    (hcallback : ∀ callback, input.2 ≠ .ice callback) :
    Watched (chatdStep sodium state input) := by
  obtain ⟨env, event⟩ := input
  cases event with
  | control event =>
      apply watched_callbackChatdControl hwatched
      intro json hjson htype hmatching
      by_contra hclient
      exact hstrands ⟨json, hjson, htype, hmatching, hclient⟩
  | ipc accepted poll =>
      apply watched_serviceIpc hwatched
      intro hrequest
      by_contra hinactive
      exact hstrands ⟨hrequest, Bool.not_eq_true _ ▸ hinactive⟩
  | activeClient read =>
      exact watched_serviceActiveChatClient sodium env read hwatched
  | ice callback => exact absurd rfl (hcallback callback)
  | serviceIce =>
      exact watched_serviceIceSession hwatched.sound fun failed hfailed hretries =>
        hstrands ⟨failed, hfailed, hretries⟩
  | reconnect started =>
      unfold chatdStep serviceReconnect
      simp only
      split_ifs
      · exact watched_of_eq hwatched rfl
      · exact watched_of_eq hwatched rfl
      · exact hwatched

/-- The events of one iteration: the IPC socket, the attached client, the
callbacks of libnice and the service of the session, the control connection,
and the reconnection. -/
structure Iteration where
  ipc : Env × Option ℕ × IpcPoll
  client : Env × ClientRead
  callbacks : List IceCallback
  service : Env
  control : List (Env × ControlEvent)
  reconnect : Env × Bool

/-- `service_ice_session` with the callbacks that run in its poll. -/
def Iteration.serviceInputs (iteration : Iteration) : List (Env × ChatdEvent) :=
  (iteration.callbacks.map fun callback =>
    (iteration.service, ChatdEvent.ice callback)) ++
    [(iteration.service, .serviceIce)]

def Iteration.inputs (iteration : Iteration) : List (Env × ChatdEvent) :=
  [(iteration.ipc.1, .ipc iteration.ipc.2.1 iteration.ipc.2.2),
    (iteration.client.1, .activeClient iteration.client.2)] ++
  iteration.serviceInputs ++
  (iteration.control.map fun input => (input.1, ChatdEvent.control input.2)) ++
  [(iteration.reconnect.1, .reconnect iteration.reconnect.2)]

section Iterations

variable {sodium : Sodium}

/-- Events outside the poll of libnice. -/
theorem watched_run {state : ChatdState} {inputs : List (Env × ChatdEvent)}
    (hwatched : Watched state)
    (hguard : Transition.Guarded (chatdStep sodium)
      (fun state input => ¬ strands sodium state input) state inputs)
    (hcallback : ∀ input ∈ inputs, ∀ callback, input.2 ≠ ChatdEvent.ice callback) :
    Watched (Transition.run (chatdStep sodium) state inputs) := by
  induction inputs generalizing state with
  | nil => exact hwatched
  | cons input inputs ih =>
      obtain ⟨hinput, hinputs⟩ := List.forall_mem_cons.mp hcallback
      exact ih (watched_step hwatched hguard.1 hinput) hguard.2 hinputs

/-- The poll may find a connection that the service step has not seen yet. -/
theorem sound_callbacks {state : ChatdState} (env : Env)
    (callbacks : List IceCallback) (hsound : state.watch.Sound) :
    (Transition.run (chatdStep sodium) state
      (callbacks.map fun callback =>
        (env, ChatdEvent.ice callback))).watch.Sound := by
  induction callbacks generalizing state with
  | nil => exact hsound
  | cons callback callbacks ih => exact ih (sound_serviceIceCallback callback hsound)

theorem watched_serviceInputs {state : ChatdState} (iteration : Iteration)
    (hwatched : Watched state)
    (hguard : Transition.Guarded (chatdStep sodium)
      (fun state input => ¬ strands sodium state input) state
      iteration.serviceInputs) :
    Watched (Transition.run (chatdStep sodium) state iteration.serviceInputs) := by
  unfold Iteration.serviceInputs at hguard ⊢
  rw [Transition.guarded_append] at hguard
  rw [Transition.run_append]
  have hsound : (Transition.run (chatdStep sodium) state
      (iteration.callbacks.map fun callback =>
        (iteration.service, ChatdEvent.ice callback))).watch.Sound :=
    sound_callbacks iteration.service iteration.callbacks hwatched.sound
  exact watched_serviceIceSession hsound fun failed hfailed hretries =>
    hguard.2.1 ⟨failed, hfailed, hretries⟩

theorem watched_iteration {state : ChatdState} (iteration : Iteration)
    (hwatched : Watched state)
    (hguard : Transition.Guarded (chatdStep sodium)
      (fun state input => ¬ strands sodium state input) state
      iteration.inputs) :
    Watched (Transition.run (chatdStep sodium) state iteration.inputs) := by
  unfold Iteration.inputs at hguard ⊢
  simp only [Transition.guarded_append, Transition.run_append] at hguard ⊢
  obtain ⟨⟨⟨hclients, hservice⟩, hcontrol⟩, hreconnect⟩ := hguard
  have hserved := watched_serviceInputs iteration
    (watched_run hwatched hclients (by simp)) hservice
  have hcontrolled := watched_run hserved hcontrol (by
    intro input hinput
    obtain ⟨_, _, rfl⟩ := List.mem_map.mp hinput
    exact nofun)
  exact watched_run hcontrolled hreconnect (by simp)

theorem watched_iterations {state : ChatdState} (iterations : List Iteration)
    (hwatched : Watched state)
    (hguard : Transition.Guarded (chatdStep sodium)
      (fun state input => ¬ strands sodium state input) state
      (iterations.flatMap Iteration.inputs)) :
    Watched (Transition.run (chatdStep sodium) state
      (iterations.flatMap Iteration.inputs)) := by
  induction iterations generalizing state with
  | nil => exact hwatched
  | cons iteration iterations ih =>
      rw [List.flatMap_cons, Transition.guarded_append] at hguard
      rw [List.flatMap_cons, Transition.run_append]
      exact ih (watched_iteration iteration hwatched hguard.1) hguard.2

end Iterations

/-- When its armed deadline has passed, the service step fails the session of a
waiting client. -/
theorem deadline_acts {sodium : Sodium} {env : Env} {state : ChatdState}
    (hwaiting : state.watch.Waiting) (harmed : state.watch.Armed)
    (hnow : state.session.iceDeadlineAt ≤ env.now ∧
      state.session.cryptoDeadlineAt ≤ env.now) :
    ∃ failed, serviceAttempt sodium env state = .error failed := by
  obtain ⟨hactive, hdeadline⟩ := harmed
  have hrunning : ¬ state.session.iceActive = false := by
    rw [Bool.not_eq_false]
    exact hactive
  unfold serviceAttempt
  rw [if_neg hrunning]
  by_cases hpassed : cryptoDeadlinePassed env state.session = true ∧
      state.session.encryptedSessionReady = false
  · exact ⟨state, if_pos hpassed⟩
  · rw [if_neg hpassed]
    have hready : state.watch.iceReady = false := by
      by_contra hconnected
      rw [Bool.not_eq_false] at hconnected
      rw [if_pos hconnected] at hdeadline
      exact hpassed ⟨by simpa [cryptoDeadlinePassed] using ⟨hdeadline, hnow.2⟩,
        hwaiting.2⟩
    have hremote := watch_servicePendingRemoteSdp env state
    have hlocal := watch_serviceLocalSdp sodium env
      (servicePendingRemoteSdp env state).1
    have hkept := hlocal.trans hremote
    apply attempt_bind_error
    apply attempt_bind_error
    generalize serviceLocalSdp sodium env (servicePendingRemoteSdp env state).1 =
      queued at hkept ⊢
    have hunconnected : ¬ queued.1.session.ice.ready = true := by
      rw [Bool.not_eq_true]
      exact (congrArg Watch.iceReady hkept).trans hready
    have hdue : queued.1.session.iceDeadlineAt ≤ env.now :=
      (congrArg Watch.iceDeadline hkept).le.trans hnow.1
    rw [if_neg hunconnected, if_pos hdue]
    split_ifs <;> exact ⟨_, rfl⟩

/-- In every run of the main loop whose events strand no client, a client that
waits has an armed deadline between two iterations, and the service step fails
its session once the deadlines have passed. -/
theorem waiting_client_armed (sodium : Sodium) (identity : ChatIdentity)
    (store : ContactsDb) (iterations : List Iteration)
    (hguard : Transition.Guarded (chatdStep sodium)
      (fun state input => ¬ strands sodium state input)
      (initialState identity store) (iterations.flatMap Iteration.inputs)) :
    let state := Transition.run (chatdStep sodium) (initialState identity store)
      (iterations.flatMap Iteration.inputs)
    state.watch.Waiting → state.watch.Armed ∧
      ∀ env : Env, state.session.iceDeadlineAt ≤ env.now ∧
          state.session.cryptoDeadlineAt ≤ env.now →
        ∃ failed, serviceAttempt sodium env state = .error failed := by
  intro state hwaiting
  have hstart : Watched (initialState identity store) := watched_of_idle rfl
  have hwatched := watched_iterations iterations hstart hguard
  have harmed := hwatched.sound.armed hwatched.seen hwaiting
  exact ⟨harmed, fun env hnow => deadline_acts hwaiting harmed hnow⟩

/-- An iteration in which only the two sockets deliver something. -/
def Iteration.smooth (byte : UInt8) (accepted : Option ℕ) (poll : IpcPoll)
    (control : List ControlEvent) : Iteration where
  ipc := (Env.smooth 1 byte, accepted, poll)
  client := (Env.smooth 1 byte, .wouldBlock)
  callbacks := []
  service := Env.smooth 1 byte
  control := control.map (Env.smooth 1 byte, ·)
  reconnect := (Env.smooth 1 byte, false)

/-- The control events of a login and of one message after it. -/
def loginControl (message : Str) : List ControlEvent :=
  [.established, .writeable true, .receive registerOkJson true, .writeable true,
    .receive (authChallengeJson (Transparent.repeated 32 9)) true,
    .writeable true, .receive authOkJson true, .receive message true,
    .writeable true]

/-- Alice asks Bob for a session, and Bob's client asks for one with Alice
during the negotiation. -/
def bobJoins : List Iteration :=
  [.smooth 2 none .idle
      (loginControl (offerJson .chatRequest alice bob.username (bytes "5e55"))),
    .smooth 2 (some 7) (.readable (bytes "OPEN_CHAT " ++ alice.username)) []]

/-- Bob's client waits under the deadline of the session that Alice asked
for. -/
theorem waiting_client_armed_bob :
    (Transition.run (chatdStep Transparent.sodium) (initialState bob none)
      (bobJoins.flatMap Iteration.inputs)).watch.Armed := by
  have hfacts : Transition.Guarded (chatdStep Transparent.sodium)
        (fun state input => ¬ strands Transparent.sodium state input)
        (initialState bob none) (bobJoins.flatMap Iteration.inputs) ∧
      (Transition.run (chatdStep Transparent.sodium) (initialState bob none)
        (bobJoins.flatMap Iteration.inputs)).watch.client ≠ none ∧
      (Transition.run (chatdStep Transparent.sodium) (initialState bob none)
        (bobJoins.flatMap Iteration.inputs)).watch.encrypted = false := by
    decide +kernel
  exact (waiting_client_armed Transparent.sodium bob none bobJoins
    hfacts.1 hfacts.2).1

/-- Alice is online and her client asks for a session with Bob, who does not
answer. -/
def aliceWaits : ChatdState :=
  Transition.run (chatdStep Transparent.sodium) (initialState alice none)
    ([.smooth 1 none .idle (loginControl authOkJson),
      .smooth 1 (some 7) (.readable (bytes "OPEN_CHAT " ++ bob.username))
        [.writeable true]].flatMap Iteration.inputs)

/-- Alice's client waits, no session runs and no deadline is armed, the service
step does nothing at any later time, and every other command is refused. -/
theorem aliceWaits_unarmed :
    aliceWaits.watch.Waiting ∧ ¬ aliceWaits.watch.Armed ∧
      (∀ env : Env,
        serviceAttempt Transparent.sodium env aliceWaits = .ok aliceWaits) ∧
      openChatAnswer aliceWaits carol.username = .refuse (.error (bytes "busy")) := by
  have hfacts : aliceWaits.watch.client ≠ none ∧
      aliceWaits.watch.encrypted = false ∧
      aliceWaits.session.iceActive = false ∧
      openChatAnswer aliceWaits carol.username = .refuse (.error (bytes "busy")) := by
    decide +kernel
  generalize aliceWaits = state at hfacts ⊢
  obtain ⟨hclient, hencrypted, hinactive, hanswer⟩ := hfacts
  refine ⟨⟨hclient, hencrypted⟩, fun harmed => ?_, fun env => ?_, hanswer⟩
  · have hactive : state.session.iceActive = true := harmed.1
    rw [hinactive] at hactive
    exact absurd hactive (by decide)
  · exact serviceAttempt_inactive hinactive

end ProntoChat.Daemon
