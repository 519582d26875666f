import ProntoChat.Relay.OfflineReports

/-!
# Error replies that stop the daemon

The server answers a signalling message that it does not pass on with an error,
whatever made the daemon send the message.  An online daemon survives the reply
exactly when it is `peer_offline` and a client waits for it.
-/

namespace ProntoChat.Relay

open ProntoChat.QuotedText
open ProntoChat.Protocole
open ProntoChat.Json
open ProntoChat.Crypto
open ProntoChat.Contacts
open ProntoChat.Daemon
open ProntoChat.Server

/-- The next message of the server is an error that answers a signalling message of
the daemon. -/
def Link.ErrorReply (link : Link) (answer : Answer) : Prop :=
  signals answer.request = true ∧ ∃ json, link.down.head? = some (json, some answer) ∧
    jsonType (cString json) = some .error

/-- An online daemon fails at an error, unless a client is told that its peer is
offline. -/
theorem handleError_phase (env : Env) {state : ChatdState}
    (honline : state.phase = .online) (json : Str) :
    (handleError env state json).1.phase ≠ .failed ↔
      state.lookupClientFd ≠ none ∧ errorCode json = bytes "peer_offline" := by
  have hlogin : ¬ (state.phase = .register ∧
      errorCode json = bytes "user already exists") := by
    simp [honline]
  unfold handleError
  simp only [if_neg hlogin]
  by_cases hwaits : state.lookupClientFd ≠ none ∧ errorCode json = bytes "peer_offline"
  · rw [if_pos hwaits]
    have hphase : (writeLookupResponse env state (.userOffline state.lookupPeer)).phase =
        state.phase := by
      unfold writeLookupResponse
      split <;> rfl
    simp [hphase, honline, hwaits]
  · rw [if_neg hwaits]
    simp [hwaits]

/-- A daemon takes an error reply for `peer_offline` exactly when the receiver of its
message was not found online. -/
theorem ReplyTo.errorCode_iff {answer : Answer} {json : Str} (hreply : ReplyTo answer json)
    (herror : jsonType (cString json) = some .error) :
    json.length < chatdMaxJsonSize ∧
      (errorCode (cString json) = bytes "peer_offline" ↔ answer.offline ≠ none) := by
  cases hreply with
  | @error code hcode =>
      refine ⟨(length_errorJson code).trans (by decide), ?_⟩
      rw [cString_errorJson, errorCode_errorJson, ← hcode]
      constructor
      · exact ErrorCode.eq_peerOffline
      · rintro rfl
        rfl
  | login hlogin => exact absurd hlogin (by simp [herror])

/-- In every run of a daemon at a server with any other users, an error reply to a
signalling message leaves the online daemon running exactly when it arrives in one
piece, a client is attached, and the server did not find the receiver online. -/
theorem error_reply_survived_iff (sodium : Sodium) (identity : ChatIdentity)
    (contacts : ContactsDb) (server : ChatServerState) (events : List LinkEvent)
    (env : Env) (whole : Bool) (answer : Answer) :
    let start : Link := { daemon := initialState identity contacts, server }
    let link := Transition.run (linkStep sodium) start events
    link.daemon.phase = .online → link.ErrorReply answer →
      ((linkStep sodium link (.down env whole)).daemon.phase ≠ .failed ↔
        whole = true ∧ link.daemon.lookupClientFd ≠ none ∧ answer.offline ≠ none) := by
  rintro start link honline ⟨_, json, hhead, herror⟩
  have haccounted : Accounted link :=
    accounted_run sodium (accounted_start _ server rfl) events
  have hinput : link.input (.down env whole) =
      some (env, .control (.receive json whole)) := by
    rw [Link.input, hhead, Option.map_some]
  have hreply : ReplyTo answer json := by
    rcases haccounted.down _ (List.mem_of_mem_head? hhead) with hsignals | hreply
    · have hother : signals json = false := signals_of_type herror
      exact absurd hsignals (by simp [hother])
    · obtain ⟨_, hsame, hreply⟩ := hreply
      obtain rfl := Option.some.inj hsame
      exact hreply
  obtain ⟨hshort, hcode⟩ := hreply.errorCode_iff herror
  rw [daemon_linkStep, hinput, Option.elim_some]
  cases whole with
  | false => simp [chatdStep, callbackChatdControl]
  | true =>
      have hstep : chatdStep sodium link.daemon (env, .control (.receive json true)) =
          (handleError env link.daemon (cString json)).1 := by
        simp [chatdStep, callbackChatdControl, Nat.not_le.mpr hshort, handleReceive,
          herror]
      rw [hstep, handleError_phase env honline, hcode]
      simp

/-- The next message of the server is an error that answers such a message. -/
def Link.errorReplyTo (link : Link) (p : Answer → Bool) : Bool :=
  link.down.head?.any fun entry =>
    (entry.2.any fun answer => signals answer.request && p answer) &&
      decide (jsonType (cString entry.1) = some .error)

theorem exists_errorReply {link : Link} {p : Answer → Bool}
    (hreply : link.errorReplyTo p = true) :
    ∃ answer, link.ErrorReply answer ∧ p answer = true := by
  obtain ⟨⟨json, carried⟩, hhead, hentry⟩ := (Option.any_eq_true _ _).mp hreply
  simp only [Bool.and_eq_true, decide_eq_true_eq] at hentry
  obtain ⟨hcarried, herror⟩ := hentry
  obtain ⟨answer, rfl, hanswer⟩ := (Option.any_eq_true _ _).mp hcarried
  rw [Bool.and_eq_true] at hanswer
  exact ⟨answer, ⟨hanswer.1, json, hhead, herror⟩, hanswer.2⟩

/-- Alice's client is told that Bob is offline, and her daemon goes on. -/
theorem error_reply_survived_iff_bob :
    (linkStep Transparent.sodium
      (Transition.run (linkStep Transparent.sodium)
        { daemon := initialState alice none, server := {} } aliceAsksForBob)
      (.down (Env.smooth 0 1) true)).daemon.phase ≠ .failed := by
  have hsurvives := error_reply_survived_iff Transparent.sodium alice none {}
    aliceAsksForBob (Env.smooth 0 1) true
  have hrun : (Transition.run (linkStep Transparent.sodium)
        { daemon := initialState alice none, server := {} }
        aliceAsksForBob).daemon.phase = .online ∧
      (Transition.run (linkStep Transparent.sodium)
        { daemon := initialState alice none, server := {} }
        aliceAsksForBob).daemon.lookupClientFd ≠ none ∧
      (Transition.run (linkStep Transparent.sodium)
        { daemon := initialState alice none, server := {} }
        aliceAsksForBob).errorReplyTo (fun answer => answer.offline.isSome) = true := by
    decide +kernel
  simp only at hsurvives
  generalize Transition.run (linkStep Transparent.sodium)
    { daemon := initialState alice none, server := {} } aliceAsksForBob = link
    at hsurvives hrun ⊢
  obtain ⟨honline, hattached, hreply⟩ := hrun
  obtain ⟨answer, herror, hoffline⟩ := exists_errorReply hreply
  exact (hsurvives answer honline herror).mpr
    ⟨trivial, hattached, Option.isSome_iff_ne_none.mp hoffline⟩

/-- Carol asks for a session with Alice, who has no client attached, and leaves
before the answer of Alice's daemon arrives. -/
def carolStopsAlice : List LinkEvent :=
  let trip := (Env.smooth 0 1, zeroBytes 32)
  loginExchange 0 trip.1 [trip, trip, trip] ++
    (serverLogin carol 2 trip.2).map LinkEvent.server ++
    [.server (.receive 2 (offerJson .chatRequest carol alice.username (bytes "ca11"))
        true trip.2),
      .server (.writeable 0 true), .down trip.1 true,
      .daemon trip.1 (.control (.writeable true)), .server (.closed 2),
      .up trip.2, .server (.writeable 0 true)]

/-- The error reply to the answer that Alice's daemon gives Carol ends the daemon. -/
theorem carol_stops_alice :
    let link := Transition.run (linkStep Transparent.sodium) aliceOffline carolStopsAlice
    link.daemon.phase = .online ∧
      link.errorReplyTo (fun answer =>
        decide (jsonType (cString answer.request) = some .chatAccept)) = true ∧
      (linkStep Transparent.sodium link
        (.down (Env.smooth 0 1) true)).daemon.phase = .failed := by
  decide +kernel

end ProntoChat.Relay
