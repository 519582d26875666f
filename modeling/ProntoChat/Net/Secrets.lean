import ProntoChat.Daemon.Invariants
import ProntoChat.Daemon.Scenario
import ProntoChat.Net.Port

/-!
# Secrets of a session that has ended

Whatever ends a session, nothing of it is left once it is inactive: no key, no
stream, no message that was prepared and no datagram that was not yet handled.
The ephemeral secret key does not even live as long as the session.
-/

namespace ProntoChat.Net

open ProntoChat.Protocole
open ProntoChat.Contacts
open ProntoChat.Crypto
open ProntoChat.Ice
open ProntoChat.Daemon

/-- The session runs, or nothing of it is left but an identifier that a request
has already chosen. -/
def Clean (state : ChatdState) : Prop :=
  state.session.iceActive = true ∨
    ∃ sessionId, (port state).session = { iceSessionId := sessionId }

section Clean

variable {sodium : Sodium} {env : Env} {state next : ChatdState}

theorem clean_of_session
    (hsession : (port next).session = (port state).session)
    (hclean : Clean state) : Clean next := by
  rcases hclean with hactive | ⟨sessionId, hwiped⟩
  · exact Or.inl ((congrArg ChatdSession.iceActive hsession).trans hactive)
  · exact Or.inr ⟨sessionId, hsession.trans hwiped⟩

theorem clean_of_ended (hended : Ended (port state) (port next)) : Clean next := by
  obtain ⟨sessionId, _, hport⟩ := hended
  exact Or.inr ⟨sessionId, congrArg Port.session hport⟩

theorem clean_failChatSession (env : Env) (state : ChatdState) :
    Clean (failChatSession env state) :=
  clean_of_ended (ended_failChatSession env state)

theorem clean_of_controlled (hcontrolled : Controlled (port state) (port next))
    (hclean : Clean state) : Clean next := by
  rcases hcontrolled with ⟨_, hport⟩ | hended | ⟨_, _, _, _, hport⟩
  · have hsession : (port next).session = (port state).session := by rw [hport]
    exact clean_of_session hsession hclean
  · exact clean_of_ended hended
  · exact Or.inl (congrArg (fun port => port.session.iceActive) hport)

theorem clean_serviceIpc (accepted : Option ℕ) (poll : IpcPoll)
    (hclean : Clean state) : Clean (serviceIpc env state accepted poll) := by
  rcases port_serviceIpc env state accepted poll with hport | ⟨_, hport⟩
  · exact clean_of_session (congrArg Port.session hport) hclean
  · have hsession := congrArg Port.session hport
    rcases hclean with hactive | ⟨sessionId, hwiped⟩
    · exact Or.inl ((congrArg ChatdSession.iceActive hsession).trans hactive)
    · refine Or.inr ⟨Json.sodiumBin2hex env.sessionIdBytes, ?_⟩
      simp only [hsession, Port.asking, hwiped]

/-- Nothing arrives for a session that was wiped: it has no agent. -/
theorem clean_serviceIceCallback (callback : IceCallback)
    (hclean : Clean state) : Clean (serviceIceCallback state callback) := by
  rcases hclean with hactive | ⟨sessionId, hwiped⟩
  · left
    unfold serviceIceCallback
    split_ifs <;> exact hactive
  · have hagent : state.session.ice.agent = false :=
      congrArg (fun session => session.ice.agent) hwiped
    rw [serviceIceCallback, if_neg (by simp [hagent])]
    exact Or.inr ⟨sessionId, hwiped⟩

/-! ## Service -/

theorem clean_process (hclean : Clean state) :
    Clean (processReceivedIcePacket sodium env state).1 := by
  unfold processReceivedIcePacket
  rcases hclean with hactive | ⟨sessionId, hwiped⟩
  · split
    · exact Or.inl hactive
    · rename_i packet ice _
      simp only
      split_ifs
      · exact Or.inl hactive
      · rcases dispatchIceAppPacket_frame sodium env
          (state.setSession { state.session with ice }) packet with
          ⟨_, _, _, _, _, hsession⟩ | ⟨_, _, hsession⟩
        · exact Or.inl ((congrArg ChatdSession.iceActive hsession).trans hactive)
        · exact Or.inr ⟨[], congrArg wire hsession⟩
  · have hqueue : state.session.ice.recvQueue = ({} : ChatIceSession).recvQueue :=
      congrArg (fun session => session.ice.recvQueue) hwiped
    have hempty : state.session.ice.received = [] := by
      rw [ChatIceSession.received, hqueue]
      exact received_default
    rw [chatIceTakeReceived_nil _ hempty]
    exact Or.inr ⟨sessionId, hwiped⟩

/-- The close of the peer wipes the session in the middle of the loop, and the
loop finds nothing more to handle. -/
theorem clean_serviceReceiveQueue (count : ℕ) (hclean : Clean state) :
    Clean (serviceReceiveQueue sodium env count state) := by
  induction count generalizing state with
  | zero => exact hclean
  | succ count ih =>
      have hprocess : Clean (processReceivedIcePacket sodium env state).1 :=
        clean_process hclean
      unfold serviceReceiveQueue
      split <;> rename_i handled hhandled <;> rw [hhandled] at hprocess
      · exact ih hprocess
      · split_ifs
        · exact clean_failChatSession env handled
        · exact hprocess

theorem active_establishSession (hactive : state.session.iceActive = true) :
    (establishSession env state).session.iceActive = true := by
  unfold establishSession
  split_ifs
  · simp only
    split
    · exact hactive
    · unfold writeIpcResponse
      split_ifs <;> exact hactive
  · exact hactive

theorem active_handshakeAttempt (hactive : state.session.iceActive = true)
    (hunready : state.session.encryptedSessionReady = false)
    (hattempt : handshakeAttempt sodium env state = .ok next) :
    next.session.iceActive = true := by
  have hstage := handshakeStage_keeps sodium env state
  obtain ⟨shaken, hshaken, hattempt⟩ := attempt_bind_success hattempt
  rw [hshaken] at hstage
  have hfirst := processReceivedIcePacket_keeps sodium env shaken
    (hstage.2.trans hunready)
  obtain ⟨received, hreceived, hattempt⟩ := attempt_bind_success hattempt
  rw [hreceived] at hfirst
  have hheader := headerStage_keeps sodium env received
  obtain ⟨sent, hsent, hattempt⟩ := attempt_bind_success hattempt
  rw [hsent] at hheader
  have hsecond := processReceivedIcePacket_keeps sodium env sent
    (hheader.2.trans (hfirst.2.trans (hstage.2.trans hunready)))
  obtain ⟨last, hlast, hattempt⟩ := attempt_bind_success hattempt
  rw [hlast] at hsecond
  obtain rfl := Except.ok.inj hattempt
  exact active_establishSession (hsecond.1.trans (hheader.1.trans
    (hfirst.1.trans (hstage.1.trans hactive))))

theorem clean_cryptoAttempt (hactive : state.session.iceActive = true)
    (hattempt : cryptoAttempt sodium env state = .ok next) : Clean next := by
  unfold cryptoAttempt at hattempt
  split_ifs at hattempt with _ hready
  · exact Or.inl (Except.ok.inj hattempt ▸ hactive)
  · exact Except.ok.inj hattempt ▸ clean_serviceReceiveQueue _ (Or.inl hactive)
  · exact Or.inl (active_handshakeAttempt hactive (by simpa using hready) hattempt)

theorem clean_serviceAttempt (hclean : Clean state)
    (hattempt : serviceAttempt sodium env state = .ok next) : Clean next := by
  unfold serviceAttempt at hattempt
  split_ifs at hattempt with hinactive
  · exact Except.ok.inj hattempt ▸ hclean
  · have hpending := port_servicePendingRemoteSdp env state
    obtain ⟨described, hdescribed, hattempt⟩ := attempt_bind_success hattempt
    rw [hdescribed] at hpending
    have hlocal := port_serviceLocalSdp sodium env described
    obtain ⟨queued, hqueued, hattempt⟩ := attempt_bind_success hattempt
    rw [hqueued] at hlocal
    have hsame : queued.session.iceActive = state.session.iceActive :=
      congrArg (fun port => port.session.iceActive) (hlocal.trans hpending)
    have hactive : queued.session.iceActive = true :=
      hsame.trans (by simpa using hinactive)
    split_ifs at hattempt
    · refine clean_cryptoAttempt ?_ hattempt
      unfold notifyIceConnected
      split_ifs <;> exact hactive
    · exact Or.inl (Except.ok.inj hattempt ▸ hactive)

theorem clean_serviceIceSession (hclean : Clean state) :
    Clean (serviceIceSession sodium env state) := by
  rw [serviceIceSession_eq]
  cases hattempt : serviceAttempt sodium env state with
  | ok next => exact clean_serviceAttempt hclean hattempt
  | error failed => exact clean_failChatSession env failed

/-! ## The attached client -/

theorem clean_closeChatByClient :
    Clean (closeChatByClient sodium env state) := Or.inr ⟨[], rfl⟩

theorem active_serviceCommand (fd : ℕ) (line : Str)
    (hactive : state.session.iceActive = true) :
    (serviceCommand sodium env state fd line).session.iceActive = true := by
  have hsend : (sendEncryptedChatMessage sodium env state
      (line.drop sendMessagePrefix.length)).1.session.iceActive = true := by
    unfold sendEncryptedChatMessage sendEncryptedChatPayload
    split_ifs
    · exact hactive
    · exact hactive
    · split
      · exact hactive
      · rename_i ciphertext stream _
        rcases sendIcePacket_cases (Eq.refl (sendIcePacket env (state.encrypted
          .message (line.drop sendMessagePrefix.length) stream) .message
          ciphertext)) with hsent | hsent | hsent <;> rw [hsent] <;> exact hactive
  unfold serviceCommand
  split_ifs
  · split <;> rename_i sent hsent <;> rw [hsent] at hsend <;> exact hsend
  · exact hactive

theorem clean_serviceCommands (lines : List Str) (hclean : Clean state) :
    Clean (serviceCommands sodium env lines state) := by
  induction lines generalizing state with
  | nil => exact hclean
  | cons line lines ih =>
      unfold serviceCommands
      split
      · exact hclean
      · split_ifs with hinactive
        · exact hclean
        · exact clean_closeChatByClient
        · exact ih (Or.inl (active_serviceCommand _ line (by simpa using hinactive)))

theorem clean_serviceActiveChatClient (read : ClientRead) (hclean : Clean state) :
    Clean (serviceActiveChatClient sodium env state read) := by
  unfold serviceActiveChatClient
  split_ifs
  · exact hclean
  · split
    · exact hclean
    · exact Or.inr ⟨[], congrArg wire rfl⟩
    · exact clean_closeChatByClient
    · exact clean_serviceCommands _ hclean

theorem clean_step (input : Env × ChatdEvent) (hclean : Clean state) :
    Clean (chatdStep sodium state input) := by
  obtain ⟨env, event⟩ := input
  cases event with
  | control event =>
      exact clean_of_controlled (controlled_control sodium env state event) hclean
  | ipc accepted poll => exact clean_serviceIpc accepted poll hclean
  | activeClient read => exact clean_serviceActiveChatClient read hclean
  | ice callback => exact clean_serviceIceCallback callback hclean
  | serviceIce => exact clean_serviceIceSession hclean
  | reconnect started =>
      exact clean_of_session
        (congrArg Port.session (port_serviceReconnect env state started)) hclean

end Clean

/-! ## The ephemeral key -/

/-- The ephemeral secret key is gone once the session keys are derived. -/
def EphemeralErased (view : View) : Prop :=
  view.session.keysReady = true → view.session.handshake.localKxSk = zeroBytes 32

theorem ephemeralErased_move {sodium : Sodium} {identity : ChatIdentity}
    {view next : View} (hmove : Move sodium {} view next)
    (hinv : SessionSound sodium identity view ∧ EphemeralErased view) :
    SessionSound sodium identity next ∧ EphemeralErased next := by
  obtain ⟨hsound, herased⟩ := hinv
  refine ⟨sessionSound_move hmove hsound, ?_⟩
  cases hmove with
  | stop | answer | accepted => exact nofun
  | install _ hunsent =>
      exact fun hkeys => absurd hkeys (hsound.flags.keysReady_of_unsent hunsent)
  | accept hfinish _ =>
      obtain ⟨_, _, rfl, _⟩ := chatCryptoHandshakeFinish_ok hfinish
      exact fun _ => rfl
  | _ => exact herased

/-! ## Every run -/

/-- The parts of a session that must not outlive it are zero. -/
structure Scrubbed (session : ChatdSession) : Prop where
  handshake : session.cryptoHandshake = {}
  keys : session.cryptoKeys = {}
  stream : session.cryptoStream = {}
  localMessage : session.cryptoLocalHandshakeMessage = zeroBytes 96
  localHeader : session.cryptoLocalStreamHeader = zeroBytes 24
  remotePk : session.remoteIdentityPk = zeroBytes 32
  recvQueue : session.ice.recvQueue = DropRing.empty IcePacket.blank
  ready : session.encryptedSessionReady = false
  keysReady : session.cryptoKeysReady = false
  headerSent : session.cryptoStreamHeaderSent = false
  headerReceived : session.cryptoStreamHeaderReceived = false

theorem Clean.scrubbed {state : ChatdState} (hclean : Clean state)
    (hinactive : state.session.iceActive = false) : Scrubbed state.session := by
  rcases hclean with hactive | ⟨sessionId, hwiped⟩
  · exact absurd (hinactive.symm.trans hactive) Bool.false_ne_true
  · have hwired : Scrubbed (port state).session := by
      rw [hwiped]
      exact ⟨rfl, rfl, rfl, rfl, rfl, rfl, rfl, rfl, rfl, rfl, rfl⟩
    exact { hwired with }

/-- Nothing secret outlives a session, and the ephemeral secret key does not
outlive the derivation of the session keys. -/
theorem secrets_end_with_session (sodium : Sodium) (identity : ChatIdentity)
    (contacts : ContactsDb) (inputs : List (Env × ChatdEvent)) :
    let session := (Transition.run (chatdStep sodium)
      (initialState identity contacts) inputs).session
    (session.iceActive = false → Scrubbed session) ∧
      (session.cryptoKeysReady = true →
        session.cryptoHandshake.localKxSk = zeroBytes 32) := by
  have hinitial : Clean (initialState identity contacts) := Or.inr ⟨[], rfl⟩
  have hstep (state : ChatdState) (input : Env × ChatdEvent) :
      Clean state → Clean (chatdStep sodium state input) := clean_step input
  have hclean := Transition.invariant_run_of_step hstep hinitial inputs
  have hstart : SessionSound sodium identity (initialState identity contacts).view ∧
      EphemeralErased (initialState identity contacts).view :=
    ⟨sessionSound_initial identity contacts, nofun⟩
  have herased := invariant_chatd_run_free (fun _ _ => ephemeralErased_move)
    hstart inputs
  exact ⟨hclean.scrubbed, herased.2⟩

/-- Bob's session with Alice has its keys; then his client joins it and hangs
up. -/
def bobHangsUp : List ChatdEvent :=
  aliceCallsBob ++ [openChat 7 alice.username, .activeClient (.data [])]

theorem secrets_end_with_session_bob :
    let during := (Transition.run (chatdStep Transparent.sodium)
      (initialState bob none) (smoothly 2 aliceCallsBob)).session
    let after := (Transition.run (chatdStep Transparent.sodium)
      (initialState bob none) (smoothly 2 bobHangsUp)).session
    (during.iceActive = true ∧ during.cryptoKeysReady = true ∧
        during.cryptoHandshake.localKxSk = zeroBytes 32) ∧
      after.iceActive = false ∧ Scrubbed after := by
  have hrun :
      let during := (Transition.run (chatdStep Transparent.sodium)
        (initialState bob none) (smoothly 2 aliceCallsBob)).session
      let after := (Transition.run (chatdStep Transparent.sodium)
        (initialState bob none) (smoothly 2 bobHangsUp)).session
      during.iceActive = true ∧ during.cryptoKeysReady = true ∧
        after.iceActive = false := by
    decide +kernel
  have hduring := secrets_end_with_session Transparent.sodium bob none
    (smoothly 2 aliceCallsBob)
  have hafter := secrets_end_with_session Transparent.sodium bob none
    (smoothly 2 bobHangsUp)
  generalize Transition.run (chatdStep Transparent.sodium) (initialState bob none)
    (smoothly 2 aliceCallsBob) = during at hrun hduring ⊢
  generalize Transition.run (chatdStep Transparent.sodium) (initialState bob none)
    (smoothly 2 bobHangsUp) = after at hrun hafter ⊢
  obtain ⟨hactive, hkeys, hinactive⟩ := hrun
  exact ⟨⟨hactive, hkeys, hduring.2 hkeys⟩, hinactive, hafter.1 hinactive⟩

end ProntoChat.Net
