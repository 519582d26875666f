import ProntoChat.Daemon.Invariants
import ProntoChat.Daemon.Scenario

/-!
# Which peer a client talks to

A client names a peer when it is attached.  The daemon keeps that name apart
from the peer of the running session, and two kinds of steps let them differ:
an incoming request that is answered while a client waits for somebody else,
and a new request issued while a session with somebody else is being set up.
Without such steps every text and every announcement goes to the right peer.
-/

namespace ProntoChat.Daemon

open ProntoChat.QuotedText
open ProntoChat.Protocole
open ProntoChat.Contacts
open ProntoChat.Crypto

variable {sodium : Sodium}

/-- A text was sent to, and a session was announced with, the peer that the
client named. -/
def Effect.Bound : Effect → Prop
  | .encrypted opened peer .message _ => opened = some peer
  | .ipcLine _ opened (.encryptedSession peer _) _ => opened = some peer
  | _ => True

theorem Effect.Quiet.bound {effect : Effect} (hquiet : effect.Quiet) :
    effect.Bound := by
  cases effect with
  | encrypted opened peer type plaintext =>
      cases type with
      | message => exact absurd rfl hquiet
      | _ => trivial
  | ipcLine fd opened line delivered =>
      cases line with
      | encryptedSession => exact hquiet.elim
      | _ => trivial
  | _ => trivial

/-- The steps under which a client keeps its peer. -/
def bindingAdmission : Admission where
  answer view peer := ∀ opened, view.client = some opened → opened = peer
  request view peer := view.session.active = true →
    view.session.ready = false → view.session.peer = peer

/-- A client and an active session have the same peer, or the session is a
ready one that a request of the client is about to replace. -/
def SessionBound (client : Option Str) (state : ChatdSessionState)
    (session : SessionCore) : Prop :=
  ∀ opened, client = some opened → session.active = true →
    opened = session.peer ∨ session.ready = true ∧ state ≠ .secure

/-- The request in progress is the one of the attached client. -/
structure LookupBound (client : Option Str) (lookupPeer : Str) : Prop where
  attached : ∀ opened, client = some opened → lookupPeer ≠ [] →
    lookupPeer = opened
  idle : client = none → lookupPeer = []

theorem SessionBound.setState {client : Option Str}
    {state next : ChatdSessionState} {session : SessionCore}
    (hbound : SessionBound client state session) (hnext : next ≠ .secure) :
    SessionBound client next session := by
  intro opened hclient hactive
  rcases hbound opened hclient hactive with hpeer | hready
  · exact Or.inl hpeer
  · exact Or.inr ⟨hready.1, hnext⟩

theorem SessionBound.peer_of_secure {client : Option Str}
    {state : ChatdSessionState} {session : SessionCore} {opened : Str}
    (hbound : SessionBound client state session)
    (hclient : client = some opened) (hactive : session.active = true)
    (hsecure : state = .secure) : opened = session.peer := by
  rcases hbound opened hclient hactive with hpeer | hready
  · exact hpeer
  · exact absurd hsecure hready.2

/-- A name that the contacts accept is not empty. -/
theorem verifyOrPin_ok_nonempty {io : ContactsIo} {db : ContactsDb}
    {username : Str} {identityPk : Bytes 32}
    (hok : (chatContactsVerifyOrPin io db username identityPk).result = .ok) :
    username ≠ [] := by
  rintro rfl
  have hinvalid : chatUsernameIsValid [] = false := by decide
  simp [chatContactsVerifyOrPin, hinvalid] at hok

theorem sessionBound_move {view next : View}
    (hmove : Move sodium bindingAdmission view next)
    (hlookup : LookupBound view.client view.lookupPeer)
    (hbound : SessionBound view.client view.state view.session) :
    SessionBound next.client next.state next.session := by
  cases hmove with
  | quiet | pin | announce | install | accept | openPush | openPull | encrypt
  | decrypt | deliver | signChallenge | signHandshake => exact hbound
  | stop => exact fun _ _ hactive => absurd hactive Bool.false_ne_true
  | detach => exact fun _ hclient => absurd hclient (by simp)
  | request sessionId hclient hpeer hadmits =>
      intro opened hopened hactive
      obtain rfl := Option.some.inj hopened
      cases hready : view.session.ready with
      | true => exact Or.inr ⟨rfl, nofun⟩
      | false => exact Or.inl (hadmits hactive hready).symm
  | attach =>
      intro opened hopened _
      exact Or.inl (Option.some.inj hopened).symm
  | await | connected | handshaking => exact hbound.setState nofun
  | answer hio hcontact hadmits =>
      intro opened hclient _
      exact Or.inl (hadmits opened hclient)
  | accepted hio hcontact hclient hpeer =>
      intro opened hopened _
      rw [hpeer] at hcontact
      have hattached := hlookup.attached opened hopened
        (verifyOrPin_ok_nonempty hcontact)
      exact Or.inl (hattached.symm.trans hpeer.symm)
  | establish hactive hready =>
      intro opened hclient _
      rcases hbound opened hclient hactive with hpeer | hcontra
      · exact Or.inl hpeer
      · exact absurd (hready.symm.trans hcontra.1) Bool.false_ne_true

theorem lookupBound_move {view next : View}
    (hmove : Move sodium bindingAdmission view next)
    (hlookup : LookupBound view.client view.lookupPeer) :
    LookupBound next.client next.lookupPeer := by
  cases hmove with
  | detach => exact ⟨by simp, fun _ => rfl⟩
  | request => exact ⟨fun opened hopened _ => Option.some.inj hopened, by simp⟩
  | attach hclient =>
      exact ⟨fun _ _ hpeer => absurd (hlookup.idle hclient) hpeer, by simp⟩
  | _ => exact hlookup

theorem log_bound_move {view next : View}
    (hmove : Move sodium bindingAdmission view next)
    (hflags : FlagsSound view.state view.session)
    (hbound : SessionBound view.client view.state view.session)
    (hlog : ∀ effect ∈ view.log, effect.Bound) :
    ∀ effect ∈ next.log, effect.Bound := by
  have happend {effect : Effect} (heffect : effect.Bound) :
      ∀ entry ∈ view.log ++ [effect], entry.Bound :=
    List.forall_mem_append.mpr ⟨hlog, List.forall_mem_singleton.mpr heffect⟩
  cases hmove with
  | pin | stop | detach | request | attach | await | answer | accepted
  | connected | handshaking | install | openPush | openPull | establish =>
      exact hlog
  | quiet hquiet => exact happend hquiet.bound
  | signChallenge | signHandshake | accept | decrypt | deliver =>
      exact happend trivial
  | announce fd relayed delivered hclient hactive hannounced =>
      refine happend (congrArg some ?_)
      rcases hannounced.2 with hsecure | hpeer
      · exact hbound.peer_of_secure hclient hactive hsecure
      · exact hpeer
  | encrypt push text hclient hready hstate =>
      refine happend ?_
      obtain ⟨opened, hopened⟩ := Option.ne_none_iff_exists'.mp hclient
      have hsecure := hstate.resolve_right hflags.closing
      have hpeer := hbound.peer_of_secure hopened (hflags.active hready) hsecure
      exact hopened.trans (congrArg some hpeer)

structure ClientBound (view : View) : Prop where
  flags : FlagsSound view.state view.session
  session : SessionBound view.client view.state view.session
  lookup : LookupBound view.client view.lookupPeer
  log : ∀ effect ∈ view.log, effect.Bound

theorem clientBound_move (view next : View)
    (hmove : Move sodium bindingAdmission view next)
    (hbound : ClientBound view) : ClientBound next where
  flags := flagsSound_move hmove hbound.flags
  session := sessionBound_move hmove hbound.lookup hbound.session
  lookup := lookupBound_move hmove hbound.lookup
  log := log_bound_move hmove hbound.flags hbound.session hbound.log

/-! ## Runs -/

/-- A step that lets the peer of the client and the peer of the session differ:
it answers a request of another peer than the one that the attached client
named, or it asks for a new session while one with another peer is being set
up. -/
def crosses (state : ChatdState) (input : Env × ChatdEvent) : Bool :=
  match input.2 with
  | .control event =>
      match (event.message).bind (answeredBy input.1 state) with
      | some offer =>
          decide (state.lookupClientFd ≠ none) &&
            decide (state.openedPeer ≠ offer.sender)
      | none => false
  | .ipc accepted poll =>
      match requestedPeer input.1 state accepted poll with
      | some peer =>
          state.session.iceActive && !state.session.encryptedSessionReady &&
            decide (state.session.icePeer ≠ peer)
      | none => false
  | _ => false

theorem admits_of_not_crosses {state : ChatdState} {input : Env × ChatdEvent}
    (hstep : crosses state input = false) :
    Admits bindingAdmission state input where
  io := trivial
  answer := by
    intro event json offer hevent hmessage hanswered opened hopened
    simp only [crosses, hevent, hmessage, Option.bind_some, hanswered,
      Bool.and_eq_false_iff, decide_eq_false_iff_not, not_not] at hstep
    simp only [ChatdState.view, ChatdState.opened] at hopened
    split_ifs at hopened with hclient
    rw [← Option.some.inj hopened]
    exact hstep.resolve_left hclient
  request := by
    intro accepted poll peer hevent hrequested hactive hready
    have hiceActive : state.session.iceActive = true := hactive
    have hnotReady : state.session.encryptedSessionReady = false := hready
    simp only [crosses, hevent, hrequested, hiceActive, hnotReady,
      Bool.not_false, Bool.true_and, decide_eq_false_iff_not, not_not] at hstep
    exact hstep

theorem clientBound_initial (identity : ChatIdentity) (store : ContactsDb) :
    ClientBound (initialState identity store).view where
  flags := flagsSound_stopped [] ⟨nofun, nofun⟩
  session := nofun
  lookup := ⟨nofun, fun _ => rfl⟩
  log := nofun

/-- In a run without crossing steps, every text is encrypted for the peer that
its client named, and every announced session is one with that peer. -/
theorem log_bound_of_not_crosses (sodium : Sodium) (identity : ChatIdentity)
    (store : ContactsDb) {inputs : List (Env × ChatdEvent)}
    (hsteps : Transition.Guarded (chatdStep sodium)
      (fun state input => crosses state input = false)
      (initialState identity store) inputs) :
    ∀ effect ∈ (Transition.run (chatdStep sodium) (initialState identity store)
      inputs).log, effect.Bound := by
  have hbound : ClientBound (Transition.run (chatdStep sodium)
      (initialState identity store) inputs).view :=
    invariant_chatd_run clientBound_move (clientBound_initial identity store)
      (hsteps.imp fun _ _ => admits_of_not_crosses)
  exact hbound.log

/-- Bob's client is attached to the session that Alice asked for, and sends her
a text. -/
def bobAnswersAlice : List (Env × ChatdEvent) :=
  smoothly 2 (aliceCallsBob ++ [openChat 7 alice.username,
    .activeClient (.data (bytes "SEND_MESSAGE hi\n"))])

theorem log_bound_bobAnswersAlice :
    let state := Transition.run (chatdStep Transparent.sodium)
      (initialState bob none) bobAnswersAlice
    Effect.encrypted (some alice.username) alice.username .message (bytes "hi") ∈
        state.log ∧
      ∀ effect ∈ state.log, effect.Bound :=
  ⟨by decide +kernel,
    log_bound_of_not_crosses Transparent.sodium bob none (by decide +kernel)⟩

/-- Bob's client asks for a session with Carol.  Before Carol answers, Alice
asks Bob for a session; it becomes secure, is announced to the client that
named Carol, and receives the text meant for Carol. -/
def aliceReplacesCarol : List (Env × ChatdEvent) :=
  smoothly 2 (login (Transparent.repeated 32 9) ++
    [openChat 7 carol.username, .control (.writeable true)] ++
    incomingSession Transparent.sodium bob alice (bytes "5e55")
      (Transparent.repeated 32 1) (Transparent.repeated 24 1) ++
    [.activeClient (.data (bytes "SEND_MESSAGE for carol\n"))])

theorem text_for_carol_sent_to_alice :
    let state := Transition.run (chatdStep Transparent.sodium)
      (initialState bob none) aliceReplacesCarol
    Effect.ipcLine 7 (some carol.username)
        (.encryptedSession alice.username false) true ∈ state.log ∧
      Effect.encrypted (some carol.username) alice.username .message
        (bytes "for carol") ∈ state.log ∧
      ¬ ∀ effect ∈ state.log, effect.Bound := by
  intro state
  have hlog : Effect.ipcLine 7 (some carol.username)
        (.encryptedSession alice.username false) true ∈ state.log ∧
      Effect.encrypted (some carol.username) alice.username .message
        (bytes "for carol") ∈ state.log := by
    decide +kernel
  refine ⟨hlog.1, hlog.2, fun hbound => ?_⟩
  have hpeer : some carol.username = some alice.username := hbound _ hlog.2
  exact absurd hpeer (by decide +kernel)

end ProntoChat.Daemon
