import ProntoChat.Daemon.Packets

/-!
# The service step up to a failure

`service_ice_session` hands the session to `fail_chat_session` at many places.
Here it is written once more as an attempt that ends in the next state or in
the state in which the session fails, so that a failure is treated once.
-/

namespace ProntoChat.Daemon

open ProntoChat.Ice

/-- The state behind a call, or the state in which it failed. -/
def attempt (outcome : Outcome) : Except ChatdState ChatdState :=
  if outcome.2 then .ok outcome.1 else .error outcome.1

/-- A state in which the session failed is handed to `fail_chat_session`. -/
def settle (env : Env) : Except ChatdState ChatdState → ChatdState
  | .ok state => state
  | .error state => failChatSession env state

def handshakeAttempt (sodium : Sodium) (env : Env) (state : ChatdState) :
    Except ChatdState ChatdState := do
  let state ← attempt (handshakeStage sodium env state)
  let state ← attempt (processReceivedIcePacket sodium env state)
  let state ← attempt (headerStage sodium env state)
  let state ← attempt (processReceivedIcePacket sodium env state)
  pure (establishSession env state)

def cryptoAttempt (sodium : Sodium) (env : Env) (state : ChatdState) :
    Except ChatdState ChatdState :=
  if state.session.ice.ready = false then .ok state
  else if state.session.encryptedSessionReady then
    .ok (serviceReceiveQueue sodium env chatIceRecvQueueCapacity state)
  else if state.session.hasRemoteIdentityPk = false then .error state
  else if cryptoDeadlinePassed env state.session then .error state
  else handshakeAttempt sodium env state

/-- `service_ice_session` up to a call of `fail_chat_session` for a session that
is not ready: the next state, or the state in which the session fails. -/
def serviceAttempt (sodium : Sodium) (env : Env) (state : ChatdState) :
    Except ChatdState ChatdState :=
  if state.session.iceActive = false then .ok state
  else if cryptoDeadlinePassed env state.session = true ∧
      state.session.encryptedSessionReady = false then .error state
  else do
    let state ← attempt (servicePendingRemoteSdp env state)
    let state ← attempt (serviceLocalSdp sodium env state)
    if state.session.ice.failed then .error state
    else if state.session.ice.ready then
      cryptoAttempt sodium env (notifyIceConnected env state)
    else if state.session.iceDeadlineAt ≤ env.now then .error state
    else .ok state

theorem orFail_settle (env : Env) (outcome : Outcome)
    (next : ChatdState → Except ChatdState ChatdState) :
    orFail env outcome (fun state => settle env (next state)) =
      settle env (attempt outcome >>= next) := by
  unfold orFail attempt
  split_ifs <;> rfl

theorem serviceHandshake_eq (sodium : Sodium) (env : Env) (state : ChatdState) :
    serviceHandshake sodium env state =
      settle env (handshakeAttempt sodium env state) := by
  unfold serviceHandshake handshakeAttempt
  rw [← orFail_settle]
  congr 1
  funext shaken
  rw [← orFail_settle]
  congr 1
  funext received
  rw [← orFail_settle]
  congr 1
  funext sent
  rw [← orFail_settle]
  rfl

theorem serviceCryptoSession_eq (sodium : Sodium) (env : Env)
    (state : ChatdState) :
    serviceCryptoSession sodium env state =
      settle env (cryptoAttempt sodium env state) := by
  unfold serviceCryptoSession cryptoAttempt
  split_ifs
  · rfl
  · rfl
  · rfl
  · rfl
  · exact serviceHandshake_eq sodium env state

/-- The service step is its attempt, with a failure handed on. -/
theorem serviceIceSession_eq (sodium : Sodium) (env : Env) (state : ChatdState) :
    serviceIceSession sodium env state =
      settle env (serviceAttempt sodium env state) := by
  unfold serviceIceSession serviceAttempt
  split_ifs
  · rfl
  · rfl
  · rw [← orFail_settle]
    congr 1
    funext described
    rw [← orFail_settle]
    congr 1
    funext queued
    split_ifs
    · rfl
    · exact serviceCryptoSession_eq sodium env _
    · rfl
    · rfl

theorem attempt_bind_ok {outcome : Outcome}
    {next : ChatdState → Except ChatdState ChatdState} {result : ChatdState}
    (hbind : attempt outcome >>= next = .ok result) :
    next outcome.1 = .ok result := by
  unfold attempt at hbind
  split_ifs at hbind
  · exact hbind
  · exact nomatch hbind

theorem attempt_bind_success {outcome : Outcome}
    {next : ChatdState → Except ChatdState ChatdState} {result : ChatdState}
    (hbind : attempt outcome >>= next = .ok result) :
    ∃ state, outcome = (state, true) ∧ next state = .ok result := by
  unfold attempt at hbind
  split_ifs at hbind with hok
  · exact ⟨outcome.1, Prod.ext rfl hok, hbind⟩
  · exact nomatch hbind

theorem attempt_bind_error {outcome : Outcome}
    {next : ChatdState → Except ChatdState ChatdState}
    (hnext : ∃ failed, next outcome.1 = .error failed) :
    ∃ failed, attempt outcome >>= next = .error failed := by
  unfold attempt
  split_ifs
  · exact hnext
  · exact ⟨_, rfl⟩

theorem serviceAttempt_inactive {sodium : Sodium} {env : Env} {state : ChatdState}
    (hinactive : state.session.iceActive = false) :
    serviceAttempt sodium env state = .ok state := by
  unfold serviceAttempt
  exact if_pos hinactive

end ProntoChat.Daemon
