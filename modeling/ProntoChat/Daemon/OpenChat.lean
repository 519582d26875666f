import ProntoChat.Daemon.Isolation

/-!
# A command during a session

`OPEN_CHAT` looks at the attached client and at the queued control message, but
not at the running session.  The command leaves a running session alone exactly
when it does not start a request; every other change of the peer or of the
session identifier goes through a reset of the session.
-/

namespace ProntoChat.Daemon

open ProntoChat.QuotedText
open ProntoChat.Protocole
open ProntoChat.Json
open ProntoChat.Contacts
open ProntoChat.Crypto

/-- The fields of a session that its peer relies on are the same. -/
structure Undisturbed (state next : ChatdState) : Prop where
  sessionState : next.sessionState = state.sessionState
  icePeer : next.session.icePeer = state.session.icePeer
  iceSessionId : next.session.iceSessionId = state.session.iceSessionId
  remoteIdentityPk :
    next.session.remoteIdentityPk = state.session.remoteIdentityPk
  cryptoHandshake : next.session.cryptoHandshake = state.session.cryptoHandshake
  cryptoKeys : next.session.cryptoKeys = state.session.cryptoKeys
  cryptoStream : next.session.cryptoStream = state.session.cryptoStream

theorem undisturbed_of_eq {state next : ChatdState}
    (hstate : next.sessionState = state.sessionState)
    (hsession : next.session = state.session) : Undisturbed state next := by
  constructor <;> simp [hstate, hsession]

/-- The state in which `OPEN_CHAT` starts a request, unless it attaches the
client to a secure session. -/
def CanRequest (state : ChatdState) (peer : Str) : Prop :=
  chatUsernameIsValid peer = true ∧ state.phase = .online ∧
    state.controlWsi = true ∧ peer ≠ state.identity.username ∧
    state.lookupClientFd = none ∧ state.pending = []

theorem openChatAnswer_request_iff {state : ChatdState} {peer : Str}
    (hattach : openChatAnswer state peer ≠ .attach) :
    openChatAnswer state peer = .request ↔ CanRequest state peer := by
  constructor
  · exact openChatAnswer_request
  · rintro ⟨hvalid, honline, hwsi, hself, hclient, hpending⟩
    have hlength : ¬ usernameSize ≤ peer.length := by
      have := (username_length hvalid).2
      have hsize : usernameSize = 33 := rfl
      omega
    unfold openChatAnswer at hattach ⊢
    rw [if_neg (by simp [hvalid]), if_neg (by simp [honline, hwsi]),
      if_neg hself] at hattach ⊢
    have hfree : ¬ (state.lookupClientFd ≠ none ∨
        hasPendingControlMessage state = true) := by
      simp [hclient, hasPendingControlMessage, hpending]
    rw [if_neg hfree, if_neg hlength] at hattach ⊢
    split_ifs at hattach ⊢
    · exact absurd rfl hattach
    · rfl

theorem queueChatRequest_session (env : Env) (state : ChatdState) (peer : Str) :
    (queueChatRequest env state peer).1.session =
        { state.session with iceSessionId := sodiumBin2hex env.sessionIdBytes } ∧
      (queueChatRequest env state peer).1.sessionState = state.sessionState := by
  have hqueue := queueFormatted_unchanged
    (state.setSession
      { state.session with iceSessionId := sodiumBin2hex env.sessionIdBytes })
    512 (offerJson .chatRequest state.identity peer
      (sodiumBin2hex env.sessionIdBytes))
  exact ⟨hqueue.session, hqueue.sessionState⟩

/-- A request overwrites the session state and the session identifier. -/
theorem requestSession_session (env : Env) (fd : ℕ) (state : ChatdState)
    (peer : Str) :
    (requestSession env fd state peer).1.session =
        { state.session with iceSessionId := sodiumBin2hex env.sessionIdBytes } ∧
      (requestSession env fd state peer).1.sessionState = .requesting := by
  obtain ⟨hsession, hstate⟩ := queueChatRequest_session env
    { state with
      lookupPeer := peer
      lookupClientFd := some fd
      openedPeer := peer
      chatRetryCount := 0
      sessionState := .requesting } peer
  unfold requestSession
  simp only
  split
  · rename_i next hqueue
    rw [hqueue] at hsession hstate
    exact ⟨hsession, hstate⟩
  · rename_i next hqueue
    rw [hqueue] at hsession hstate
    rw [writeLookupResponse_session, writeLookupResponse_sessionState]
    exact ⟨hsession, hstate⟩

/-- A command that does not attach its client leaves the session alone exactly
when it does not start a request, up to a request that draws the identifier of
the running session again. -/
theorem undisturbed_openChat_iff {state : ChatdState} {peer : Str} (env : Env)
    (fd : ℕ) (hattach : openChatAnswer state peer ≠ .attach) :
    Undisturbed state (handleOpenChatCommand env fd state peer).1 ↔
      (CanRequest state peer → state.sessionState = .requesting ∧
        sodiumBin2hex env.sessionIdBytes = state.session.iceSessionId) := by
  rw [← openChatAnswer_request_iff hattach]
  unfold handleOpenChatCommand
  cases hanswer : openChatAnswer state peer with
  | refuse line =>
      simp only [reduceCtorEq, false_implies, iff_true]
      exact undisturbed_of_eq rfl rfl
  | attach => exact absurd hanswer hattach
  | request =>
      obtain ⟨hsession, hstate⟩ := requestSession_session env fd state peer
      simp only [forall_true_left]
      constructor
      · intro hsame
        refine ⟨?_, ?_⟩
        · rw [← hsame.sessionState, hstate]
        · rw [← hsame.iceSessionId, hsession]
      · rintro ⟨hrequesting, hid⟩
        constructor <;> simp [hsession, hstate, hrequesting, hid]

/-! ## All other events -/

/-- The peer and the session identifier stay, or the session was reset. -/
def PairKept (view next : View) : Prop :=
  (next.session.peer = view.session.peer ∧
      next.session.sessionId = view.session.sessionId) ∨
    (∃ sessionId, next.session = { sessionId }) ∨
    ∃ peer sessionId role remotePk,
      next.session = begunSession peer sessionId role remotePk

/-- Protocol moves without a request of a client. -/
def withoutRequests : Admission where
  request := fun _ _ => False

theorem pairKept_move {sodium : Sodium} {view next : View}
    (hmove : Move sodium withoutRequests view next) : PairKept view next := by
  cases hmove with
  | stop sessionId => exact Or.inr (Or.inl ⟨sessionId, rfl⟩)
  | answer => exact Or.inr (Or.inr ⟨_, _, _, _, rfl⟩)
  | accepted => exact Or.inr (Or.inr ⟨_, _, _, _, rfl⟩)
  | request sessionId hclient hpeer hadmits => exact hadmits.elim
  | _ => exact Or.inl ⟨rfl, rfl⟩

/-- The event makes `service_ipc` start a request. -/
def requestsChat (state : ChatdState) (input : Env × ChatdEvent) : Prop :=
  ∃ accepted poll peer, input.2 = .ipc accepted poll ∧
    requestedPeer input.1 state accepted poll = some peer

/-- Without a request, every change that a step makes to the peer or the
identifier is a reset of the session. -/
theorem pairKept_step {sodium : Sodium} {state : ChatdState}
    {input : Env × ChatdEvent} (hrequest : ¬ requestsChat state input) :
    Relation.ReflTransGen
      (fun view next => Move sodium withoutRequests view next ∧
        PairKept view next)
      state.view (chatdStep sodium state input).view := by
  have hadmits : Admits withoutRequests state input :=
    { io := trivial
      answer := fun _ _ _ _ _ _ => trivial
      request := fun accepted poll peer hevent hpeer =>
        hrequest ⟨accepted, poll, peer, hevent, hpeer⟩ }
  exact Relation.ReflTransGen.mono
    (fun _ _ hmove => And.intro hmove (pairKept_move hmove)) _ _
    (chatdStep_moves hadmits)

/-- In every reachable state with a running session, `OPEN_CHAT` leaves the
session alone exactly when it starts no request or draws the same identifier in
a session that is being requested already.  Every step without a request
changes the peer and the identifier only through a reset. -/
theorem openChat_undisturbed_iff (sodium : Sodium) (identity : ChatIdentity)
    (store : ContactsDb) (inputs : List (Env × ChatdEvent)) :
    let state := Transition.run (chatdStep sodium) (initialState identity store)
      inputs
    state.session.iceActive = true →
      (∀ env fd peer, openChatAnswer state peer ≠ .attach →
        (Undisturbed state (handleOpenChatCommand env fd state peer).1 ↔
          (CanRequest state peer → state.sessionState = .requesting ∧
            sodiumBin2hex env.sessionIdBytes = state.session.iceSessionId))) ∧
      ∀ input, ¬ requestsChat state input →
        Relation.ReflTransGen
          (fun view next => Move sodium withoutRequests view next ∧
            PairKept view next)
          state.view (chatdStep sodium state input).view := by
  intro state _
  exact ⟨fun env fd _ hattach => undisturbed_openChat_iff env fd hattach,
    fun _ hrequest => pairKept_step hrequest⟩

/-- Bob in a secure session that Alice asked for, without a client. -/
def bobSecure : ChatdState :=
  Transition.run (chatdStep Transparent.sodium) (initialState bob none)
    (smoothly 2 aliceCallsBob)

/-- A command for a name that is not valid leaves the session with Alice
alone. -/
theorem openChat_undisturbed_invalid :
    bobSecure.session.iceActive = true ∧
      Undisturbed bobSecure
        (handleOpenChatCommand (Env.smooth 2 2) 7 bobSecure (bytes "a")).1 := by
  have hfacts : bobSecure.session.iceActive = true ∧
      openChatAnswer bobSecure (bytes "a") ≠ .attach ∧
      chatUsernameIsValid (bytes "a") = false := by
    decide +kernel
  obtain ⟨hactive, hattach, hinvalid⟩ := hfacts
  have hopen := openChat_undisturbed_iff Transparent.sodium bob none
    (smoothly 2 aliceCallsBob)
  rw [← bobSecure] at hopen
  refine ⟨hactive, ((hopen hactive).1 (Env.smooth 2 2) 7 (bytes "a") hattach).mpr ?_⟩
  rintro ⟨hvalid, _⟩
  rw [hinvalid] at hvalid
  exact absurd hvalid (by decide)

/-- While Bob is in a secure session with Alice, a command for Carol replaces
the state and the identifier of that session. -/
theorem openChat_carol_disturbs_alice :
    bobSecure.session.iceActive = true ∧ bobSecure.sessionState = .secure ∧
      bobSecure.session.icePeer = alice.username ∧
      openChatAnswer bobSecure carol.username = .request ∧
      ¬ Undisturbed bobSecure
        (handleOpenChatCommand (Env.smooth 2 9) 7 bobSecure carol.username).1 := by
  have hfacts : bobSecure.session.iceActive = true ∧
      bobSecure.sessionState = .secure ∧
      bobSecure.session.icePeer = alice.username ∧
      openChatAnswer bobSecure carol.username = .request ∧
      (handleOpenChatCommand (Env.smooth 2 9) 7 bobSecure
        carol.username).1.sessionState = .requesting := by
    decide +kernel
  obtain ⟨hactive, hsecure, hpeer, hanswer, hnext⟩ := hfacts
  refine ⟨hactive, hsecure, hpeer, hanswer, fun hsame => ?_⟩
  have hstate := hsame.sessionState
  rw [hnext, hsecure] at hstate
  exact absurd hstate (by decide)

end ProntoChat.Daemon
