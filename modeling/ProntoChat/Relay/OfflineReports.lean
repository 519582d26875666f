import ProntoChat.Daemon.Reports
import ProntoChat.Daemon.Scenario
import ProntoChat.Relay.Reentry
import ProntoChat.Server.Presence

/-!
# Peers that are reported as offline, and why

An error reply does not name the message that it answers.  The daemon takes every
`peer_offline` for an answer to the request of its client, so a report is right
as long as a client is only attached while all unanswered messages go to its
peer.
-/

namespace ProntoChat.Relay

open ProntoChat.QuotedText
open ProntoChat.Protocole
open ProntoChat.Json
open ProntoChat.Crypto
open ProntoChat.Contacts
open ProntoChat.Daemon
open ProntoChat.Server

/-! ## Receivers of the messages of the daemon -/

theorem ne_to (type : ControlType) : type.name ≠ JsonKey.to.name := by
  have hall : ∀ type ∈ ControlType.all, type.name ≠ JsonKey.to.name := by
    decide +kernel
  exact hall type type.mem_all

/-- A message that begins with its type, its sender and its receiver names that
receiver or none. -/
theorem recipient_front (type : ControlType) {username peer : Str}
    (hname : chatUsernameIsValid username = true) (hpeer : Plain peer)
    {members : List (Str × Str)} {receiver : Str}
    (hreceiver : recipient (object ((JsonKey.type.name, type.name) ::
      (JsonKey.from.name, username) :: (JsonKey.to.name, peer) :: members)) =
        some receiver) :
    receiver = peer := by
  have hplain : ∀ entry ∈ [(JsonKey.type.name, type.name),
      (JsonKey.from.name, username), (JsonKey.to.name, peer)],
      Plain entry.1 ∧ Plain entry.2 := by
    simp only [List.forall_mem_cons]
    exact ⟨⟨JsonKey.type.searchName.plain, type.plain_name.1⟩,
      ⟨JsonKey.from.searchName.plain, plain_of_username hname⟩,
      ⟨JsonKey.to.searchName.plain, hpeer⟩, List.forall_mem_nil _⟩
  have hread := jsonGetString_front .to (by decide : 0 < Server.usernameSize) hplain
    ⟨(JsonKey.to.name, peer), by simp, rfl⟩ members
  have hkeys : JsonKey.type.name ≠ JsonKey.to.name ∧
      JsonKey.from.name ≠ JsonKey.to.name ∧ JsonKey.to.name.length = 2 := by
    decide +kernel
  have husername : username ≠ JsonKey.to.name := by
    rintro rfl
    have := (username_length hname).1
    omega
  rw [recipient] at hreceiver
  split_ifs at hreceiver
  simp only [List.cons_append, List.nil_append] at hread
  rw [hread] at hreceiver
  simp only [scanMembers, if_neg hkeys.1, if_neg (ne_to type), if_neg hkeys.2.1,
    if_neg husername, if_true] at hreceiver
  split_ifs at hreceiver
  exact (Option.some.inj hreceiver).symm

/-- A message of the login names no receiver. -/
theorem recipient_login {type : ControlType}
    (htype : signalingTypeIsSupported type = false) (members : List (Str × Str)) :
    recipient (object ((JsonKey.type.name, type.name) :: members)) = none := by
  rw [recipient, signals_of_type (jsonType_front type members), htype]
  rfl

/-! ## Messages for the peer of the client -/

/-- The message names this receiver or none. -/
def goesTo (peer message : Str) : Bool := (recipient message).all (· = peer)

theorem goesTo_front (type : ControlType) {username peer : Str}
    (hname : chatUsernameIsValid username = true) (hpeer : Plain peer)
    (members : List (Str × Str)) :
    goesTo peer (object ((JsonKey.type.name, type.name) ::
      (JsonKey.from.name, username) :: (JsonKey.to.name, peer) :: members)) = true := by
  rw [goesTo, Option.all_eq_true]
  intro receiver hreceiver
  exact decide_eq_true (recipient_front type hname hpeer hreceiver)

theorem goesTo_login {type : ControlType}
    (htype : signalingTypeIsSupported type = false) (peer : Str)
    (members : List (Str × Str)) :
    goesTo peer (object ((JsonKey.type.name, type.name) :: members)) = true := by
  rw [goesTo, recipient_login htype]
  rfl

theorem goesTo_nil (peer : Str) : goesTo peer [] = true := rfl

/-- What the daemon may send on behalf of others while a client is attached: it
answers requests of the peer of the client only, and describes sessions with that
peer only. -/
def staysWithPeer (env : Env) (state : ChatdState) : ChatdEvent → Bool
  | .control (.receive payload whole) =>
      state.lookupClientFd.isNone ||
        ((ChatdEvent.control (.receive payload whole)).message.all fun json =>
          (answeredChatRequest env state json).all fun offer =>
            decide (jsonType json = some .chatRequest →
              offer.sender = state.lookupPeer))
  | .serviceIce =>
      state.lookupClientFd.isNone || !state.session.iceActive || !describes state ||
        decide (state.session.icePeer = state.lookupPeer)
  | _ => true

section Daemon

variable {sodium : Sodium} {env : Env} {state : ChatdState} {event : ChatdEvent}
  {line : Line}

/-- A client that asked before keeps its peer, and the slot takes in messages for
that peer only. -/
def KeepsPeer (state : ChatdState) (line : Line) : Prop :=
  line.client = state.lookupClientFd ∧ line.peer = state.lookupPeer ∧
    (line.pending = state.pending ∨ goesTo state.lookupPeer line.pending = true)

theorem keepsPeer_queues {moved : Line} {json : Str}
    (hclient : moved.client = state.lookupClientFd)
    (hpeer : moved.peer = state.lookupPeer) (hpending : moved.pending = state.pending)
    (hqueues : Queues moved line json)
    (hjson : goesTo state.lookupPeer json = true) : KeepsPeer state line := by
  rcases hqueues with rfl | ⟨_, rfl⟩
  · exact ⟨hclient, hpeer, Or.inl hpending⟩
  · exact ⟨hclient, hpeer, Or.inr hjson⟩

theorem matchingChatAccept_sender {json : Str} {offer : ChatOffer}
    (hoffer : matchingChatAccept state json = some offer) :
    offer.sender = state.lookupPeer := by
  unfold matchingChatAccept at hoffer
  split at hoffer
  · exact nomatch hoffer
  · split_ifs at hoffer with hmatches
    obtain rfl := Option.some.inj hoffer
    exact hmatches.2.1

variable (hname : chatUsernameIsValid state.identity.username = true)
  (hpeer : Plain state.lookupPeer)

include hname hpeer

theorem keepsPeer_signals (hsignals : Signals env state event line)
    (hipc : ∀ accepted poll, event ≠ .ipc accepted poll)
    (hstays : staysWithPeer env state event = true)
    (hattached : line.client ≠ none) : KeepsPeer state line := by
  cases hsignals with
  | accept hmessage htype hanswer =>
      rename_i json offer
      cases event with
      | control event =>
          cases event with
          | receive payload whole =>
              have hclient : state.lookupClientFd ≠ none := hattached
              have hsender : offer.sender = state.lookupPeer := by
                simpa [staysWithPeer, hclient, hmessage, hanswer, htype] using hstays
              refine ⟨rfl, rfl, Or.inr ?_⟩
              rw [hsender]
              exact goesTo_front .chatAccept hname hpeer _
          | _ => exact nomatch hmessage
      | _ => exact nomatch hmessage
  | cancel hmessage htype haccept =>
      refine ⟨rfl, rfl, Or.inr ?_⟩
      rw [matchingChatAccept_sender haccept]
      exact goesTo_front .chatCancel hname hpeer _
  | retryAccepted _ _ _ _ => exact ⟨rfl, rfl, Or.inr (goesTo_front _ hname hpeer _)⟩
  | retry _ _ _ => exact ⟨rfl, rfl, Or.inr (goesTo_front _ hname hpeer _)⟩
  | describe hactive hdescribes =>
      have hclient : state.lookupClientFd ≠ none := hattached
      have hsame : state.session.icePeer = state.lookupPeer := by
        simpa [staysWithPeer, hclient, hactive, hdescribes] using hstays
      refine ⟨rfl, rfl, Or.inr ?_⟩
      change goesTo state.lookupPeer (credentialsJson state _) = true
      rw [credentialsJson, hsame]
      exact goesTo_front .iceCredentials hname hpeer _
  | request _ _ => exact absurd rfl (hipc _ _)

/-- An event other than a command leaves an attached client with its peer. -/
theorem keepsPeer_step (sodium : Sodium)
    (hipc : ∀ accepted poll, event ≠ .ipc accepted poll)
    (hstays : staysWithPeer env state event = true)
    (hattached : (chatdStep sodium state (env, event)).lookupClientFd ≠ none) :
    KeepsPeer state (chatdStep sodium state (env, event)).line := by
  obtain ⟨moved, hmove, hdetaches⟩ := moved_step sodium state (env, event)
  have hline := hdetaches.eq_of_client hattached
  rw [hline]
  have hclient : moved.client ≠ none := hline ▸ hattached
  cases hmove with
  | kept _ | enters _ _ _ | fails _ | loses _ => exact ⟨rfl, rfl, Or.inl rfl⟩
  | signals _ hsignals => exact keepsPeer_signals hname hpeer hsignals hipc hstays hclient
  | joins _ => exact absurd rfl (hipc _ _)
  | greets _ _ hqueues =>
      exact keepsPeer_queues rfl rfl rfl hqueues (goesTo_login rfl _ _)
  | responds _ _ hqueues =>
      exact keepsPeer_queues rfl rfl rfl hqueues (goesTo_login rfl _ _)
  | establishes hqueues =>
      exact keepsPeer_queues rfl rfl rfl hqueues (goesTo_login rfl _ _)
  | writes _ => exact ⟨rfl, rfl, Or.inr (goesTo_nil _)⟩

end Daemon

/-- The name of a peer that the daemon looks up can be written into a message. -/
theorem plain_lookupPeer (sodium : Sodium) {state : ChatdState}
    (input : Env × ChatdEvent) (hpeer : Plain state.lookupPeer) :
    Plain (chatdStep sodium state input).lookupPeer := by
  obtain ⟨env, event⟩ := input
  obtain ⟨moved, hmove, hdetaches⟩ := moved_step sodium state (env, event)
  have hmoved : Plain moved.peer := by
    have hqueued {before after : Line} {json : Str}
        (hqueues : Queues before after json) : after.peer = before.peer := by
      rcases hqueues with rfl | ⟨_, rfl⟩ <;> rfl
    cases hmove with
    | kept _ | joins _ | enters _ _ _ | fails _ | loses _ | writes _ => exact hpeer
    | signals _ hsignals =>
        cases hsignals with
        | request _ hanswer =>
            exact plain_of_username (openChatAnswer_request hanswer).1
        | _ => exact hpeer
    | greets _ _ hqueues | responds _ _ hqueues | establishes hqueues =>
        rw [hqueued hqueues]
        exact hpeer
  change Plain (chatdStep sodium state (env, event)).line.peer
  rcases hdetaches with hsame | hdetached
  · rw [hsame]
    exact hmoved
  · rw [hdetached]
    exact nofun

/-! ## The condition -/

/-- Every unanswered message names this receiver or none. -/
def Link.onlyTo (link : Link) (peer : Str) : Bool :=
  link.outstanding.all (goesTo peer)

/-- The daemon takes the message for one about a peer that is offline. -/
def peerOfflineError (json : Str) : Bool :=
  decide (jsonType json = some .error) &&
    decide (errorCode json = bytes "peer_offline")

/-- A client is told that its peer is offline although it talks to it. -/
def lateReport (state : ChatdState) (event : ChatdEvent) : Bool :=
  state.lookupClientFd.isSome && state.session.encryptedSessionReady &&
    event.message.any peerOfflineError

/-- A client is attached only while every unanswered message goes to the peer it
asks for, or while there is none if it joins a session; from then on the daemon
sends nothing to others; and no `peer_offline` comes late. -/
def attributable (link : Link) (event : LinkEvent) : Bool :=
  (link.input event).all fun input =>
    match input.2 with
    | .ipc accepted poll =>
        (requestedPeer input.1 link.daemon accepted poll).all link.onlyTo &&
          ((joinedPeer input.1 link.daemon accepted poll).isNone ||
            link.outstanding.all fun message => (recipient message).isNone)
    | event =>
        staysWithPeer input.1 link.daemon event && !lateReport link.daemon event

/-! ## Attribution -/

/-- The unanswered messages of a daemon with a client go to the peer of the
client. -/
structure Attributed (link : Link) : Prop where
  valid : chatUsernameIsValid link.daemon.identity.username = true
  plain : Plain link.daemon.lookupPeer
  addressed : link.daemon.lookupClientFd ≠ none →
    ∀ message ∈ link.outstanding, goesTo link.daemon.lookupPeer message = true

theorem goesTo_of_isNone {message : Str} (hnone : (recipient message).isNone = true)
    (peer : Str) : goesTo peer message = true := by
  rw [goesTo, Option.isNone_iff_eq_none.mp hnone, Option.all_none]

/-- The message in the slot after a step of the daemon, and the other unanswered
messages, go to the peer of the client that is then attached. -/
theorem Attributed.addressed_input {link : Link} (hattributed : Attributed link)
    (sodium : Sodium) {env : Env} {event : ChatdEvent} {step : LinkEvent}
    (hinput : link.input step = some (env, event))
    (hguard : attributable link step = true)
    (hattached : (chatdStep sodium link.daemon (env, event)).lookupClientFd ≠ none)
    {message : Str}
    (hmem : message ∈ link.outstanding ∨
      message = (chatdStep sodium link.daemon (env, event)).pending) :
    goesTo (chatdStep sodium link.daemon (env, event)).lookupPeer message = true := by
  -- a client that was attached before
  have hkept {line : Line} (hattached : line.client ≠ none)
      (hkeeps : KeepsPeer link.daemon line)
      (hmem : message ∈ link.outstanding ∨ message = line.pending) :
      goesTo line.peer message = true := by
    obtain ⟨hclient, hpeer, hpending⟩ := hkeeps
    have hold := hattributed.addressed (hclient ▸ hattached)
    rw [hpeer]
    rcases hmem with hmem | rfl
    · exact hold message hmem
    · rcases hpending with hsame | hnew
      · rw [hsame]
        exact hold _ List.mem_cons_self
      · exact hnew
  by_cases hipc : ∃ accepted poll, event = .ipc accepted poll
  · obtain ⟨accepted, poll, rfl⟩ := hipc
    simp only [attributable, hinput, Option.all_some, Bool.and_eq_true,
      Bool.or_eq_true] at hguard
    obtain ⟨hrequest, hjoin⟩ := hguard
    rcases line_serviceIpc env link.daemon accepted poll with
      hdetaches | ⟨fd, peer, hjoined, _, hline⟩ | ⟨fd, peer, hrequested, hanswer, hline⟩
    · have hkeeps : KeepsPeer link.daemon
          (serviceIpc env link.daemon accepted poll).line := by
        rw [hdetaches.eq_of_client hattached]
        exact ⟨rfl, rfl, Or.inl rfl⟩
      exact hkept hattached hkeeps hmem
    · have hquiet := hjoin.resolve_left (by simp [hjoined])
      have hpending : (serviceIpc env link.daemon accepted poll).pending =
          link.daemon.pending := congrArg Line.pending hline
      have hmessage : message ∈ link.outstanding := by
        rcases hmem with hmem | rfl
        · exact hmem
        · exact mem_outstanding.mpr (Or.inl hpending)
      exact goesTo_of_isNone (List.all_eq_true.mp hquiet message hmessage) _
    · have hpeer : (serviceIpc env link.daemon accepted poll).lookupPeer = peer :=
        congrArg Line.peer hline
      have hpending : (serviceIpc env link.daemon accepted poll).pending =
          requestJson env link.daemon peer := congrArg Line.pending hline
      simp only [hrequested, Option.all_some] at hrequest
      simp only [chatdStep, hpeer, hpending] at hmem ⊢
      rcases hmem with hmem | rfl
      · exact List.all_eq_true.mp hrequest message hmem
      · exact goesTo_front .chatRequest hattributed.valid
          (plain_of_username (openChatAnswer_request hanswer).1) _
  · have hother (accepted : Option ℕ) (poll : IpcPoll) : event ≠ .ipc accepted poll :=
      fun hsame => hipc ⟨accepted, poll, hsame⟩
    have hstays : staysWithPeer env link.daemon event = true := by
      cases event with
      | ipc accepted poll => exact absurd rfl (hother accepted poll)
      | _ => simp_all [attributable]
    exact hkept hattached
      (keepsPeer_step hattributed.valid hattributed.plain sodium hother hstays hattached)
      hmem

theorem attributed_step (sodium : Sodium) (link : Link) (event : LinkEvent)
    (hguard : attributable link event = true) (hattributed : Attributed link) :
    Attributed (linkStep sodium link event) := by
  have hmem {message : Str}
      (hmem : message ∈ (linkStep sodium link event).outstanding) :=
    outstanding_step sodium link event hmem
  have hdaemon := daemon_linkStep sodium link event
  cases hinput : link.input event with
  | none =>
      rw [hinput] at hdaemon
      refine ⟨hdaemon ▸ hattributed.valid, hdaemon ▸ hattributed.plain, ?_⟩
      intro hattached message hmessage
      have hsame := hmem hmessage
      rw [hdaemon] at hattached hsame ⊢
      rcases hsame with hold | rfl
      · exact hattributed.addressed hattached message hold
      · exact hattributed.addressed hattached _ List.mem_cons_self
  | some input =>
      obtain ⟨env, handled⟩ := input
      rw [hinput] at hdaemon
      have hidentity : (linkStep sodium link event).daemon.identity =
          link.daemon.identity := by
        rw [hdaemon]
        exact (link_step sodium link.daemon (env, handled)).1
      refine ⟨hidentity ▸ hattributed.valid, ?_, ?_⟩
      · rw [hdaemon]
        exact plain_lookupPeer sodium (env, handled) hattributed.plain
      · intro hattached message hmessage
        have hcases := hmem hmessage
        rw [hdaemon] at hattached hcases ⊢
        exact hattributed.addressed_input sodium hinput hguard hattached hcases

/-! ## Reports -/

/-- A message of the daemon arrives whose receiver the server does not know or
does not find online. -/
def Finds (link : Link) (event : LinkEvent) (message receiver : Str) : Prop :=
  ∃ challenge rest, event = .up challenge ∧ link.up = message :: rest ∧
    recipient message = some receiver ∧ onlineTarget link.server receiver = none

theorem finds_of_answers {link : Link} {event : LinkEvent} {answer : Answer}
    {receiver : Str} (hanswers : Answers link event answer)
    (hoffline : answer.offline = some receiver) :
    Finds link event answer.request receiver := by
  obtain ⟨challenge, wsi, rest, hevent, hwsi, hup, hanswer⟩ := hanswers
  refine ⟨challenge, rest, hevent, hup, ?_⟩
  unfold answerTo at hanswer
  split at hanswer
  · exact nomatch hanswer
  · split_ifs at hanswer
    · have hnone := congrArg Answer.offline (Option.some.inj hanswer)
      exact nomatch hnone.trans hoffline
    · split at hanswer
      · exact nomatch hanswer
      · have hfound := congrArg Answer.offline (Option.some.inj hanswer)
        exact recipient_of_foundOffline (hfound.trans hoffline)

/-- Every answer on its way was given in the run. -/
def Given (sodium : Sodium) (start : Link) (events : List LinkEvent) (link : Link) :
    Prop :=
  ∀ answer ∈ link.answers, Transition.Occurred (fun before event => Answers
    (Transition.run (linkStep sodium) start before) event answer) events

theorem given_run (sodium : Sodium) {start : Link} (hempty : start.answers = [])
    (events : List LinkEvent) :
    Given sodium start events (Transition.run (linkStep sodium) start events) := by
  refine Transition.history_run (fun answer hmem => ?_) ?_ events
  · rw [hempty] at hmem
    exact absurd hmem List.not_mem_nil
  intro events event hgiven answer hmem
  refine (Transition.occurred_append_singleton _ events event).mpr ?_
  exact (answers_step sodium _ event hmem).imp_left (hgiven answer)

/-- A reply that leads to a report is a `peer_offline` error, and answers a message
whose receiver was not found online. -/
theorem offline_of_replyTo {answer : Answer} {json : Str} (hreply : ReplyTo answer json)
    (htype : (jsonType (cString json) = some .error ∧
        errorCode (cString json) = bytes "peer_offline") ∨
      jsonType (cString json) = some .userStatus) :
    answer.offline ≠ none ∧ peerOfflineError (cString json) = true := by
  cases hreply with
  | @error code hcode =>
      rw [peerOfflineError]
      rw [cString_errorJson, errorCode_errorJson, jsonType_errorJson] at htype ⊢
      rcases htype with ⟨_, htext⟩ | htype
      · exact ⟨hcode.mp (ErrorCode.eq_peerOffline htext), by simp [htext]⟩
      · exact nomatch htype
  | login hlogin =>
      rcases htype with ⟨htype, _⟩ | htype <;>
        exact absurd hlogin (by simp [htype])

/-- The step takes in the answer to this message, whose receiver was not found
online. -/
def TakesIn (link : Link) (event : LinkEvent) (message receiver : Str) : Prop :=
  ∃ env json rest, event = .down env true ∧
    link.down = (json, some ⟨message, some receiver⟩) :: rest

/-- A report is about the receiver of the message whose answer is taken in. -/
theorem report_step (sodium : Sodium) {link : Link} {event : LinkEvent}
    (hguard : attributable link event = true) (hattributed : Attributed link)
    (haccounted : Accounted link)
    (hfound : ∀ answer ∈ link.answers, ∀ receiver, answer.offline = some receiver →
      recipient answer.request = some receiver) :
    let next := linkStep sodium link event
    next.daemon.reportedOffline = link.daemon.reportedOffline ∨
      ∃ peer message, TakesIn link event message peer ∧
        next.daemon.reportedOffline = link.daemon.reportedOffline ++ [peer] ∧
        link.daemon.session.encryptedSessionReady = false := by
  intro next
  have hdaemon : next.daemon = _ := daemon_linkStep sodium link event
  cases hinput : link.input event with
  | none =>
      rw [hdaemon, hinput]
      exact Or.inl rfl
  | some input =>
      rw [hdaemon, hinput]
      rcases reports_step sodium link.daemon input with
        hsilent | ⟨json, hmessage, htype, hattached, hreported⟩
      · exact Or.inl hsilent
      obtain ⟨env, ⟨payload, carried⟩, rest, rfl, hdown, rfl⟩ :=
        down_of_message hinput hmessage
      have hmem : (payload, carried) ∈ link.down := hdown ▸ List.mem_cons_self
      rcases haccounted.down _ hmem with hsignals | ⟨answer, rfl, hreply⟩
      · have hother : signals payload = false := by
          rcases htype with ⟨herror, _⟩ | hstatus
          · exact signals_of_type herror
          · exact signals_of_type hstatus
        exact absurd hsignals (by simp [hother])
      obtain ⟨hoffline, herror⟩ := offline_of_replyTo hreply htype
      obtain ⟨peer, hpeer⟩ := Option.ne_none_iff_exists'.mp hoffline
      have hanswer : answer ∈ link.answers :=
        List.mem_append_right _ (List.mem_filterMap.mpr ⟨_, hmem, rfl⟩)
      -- the message goes to the peer of the client, and the server read its receiver
      have hgoes := hattributed.addressed hattached answer.request
        (mem_outstanding.mpr (Or.inr (Or.inr ⟨answer, hanswer, rfl⟩)))
      rw [goesTo, hfound answer hanswer peer hpeer, Option.all_some,
        decide_eq_true_eq] at hgoes
      obtain ⟨message, _⟩ := answer
      obtain rfl : _ = some peer := hpeer
      refine Or.inr ⟨peer, message, ⟨env, payload, rest, rfl, hdown⟩, ?_, ?_⟩
      · rw [hgoes]
        exact hreported
      · have hintime : lateReport link.daemon input.2 = false := by
          simp only [Link.input, hdown, List.head?_cons, Option.map_some] at hinput
          obtain rfl := Option.some.inj hinput
          simp only [attributable, Link.input, hdown, List.head?_cons, Option.map_some,
            Option.all_some, Bool.and_eq_true, Bool.not_eq_true_eq_eq_false] at hguard
          exact hguard.2
        rw [lateReport, hmessage, Option.any_some, herror,
          Option.isSome_iff_ne_none.mpr hattached] at hintime
        simpa using hintime

/-- In every run in which clients are attached as `attributable` asks, the daemon
reports a peer as offline only when it takes in the answer to a message to that
peer, which the server did not find online then, and not in a secure session. -/
theorem offline_reports_attributed (sodium : Sodium) (identity : ChatIdentity)
    (contacts : ContactsDb) (server : ChatServerState)
    (hname : chatUsernameIsValid identity.username = true) (events : List LinkEvent)
    (event : LinkEvent)
    (hguard : Transition.Guarded (linkStep sodium)
      (fun link event => attributable link event = true)
      { daemon := initialState identity contacts, server } (events ++ [event])) :
    let start : Link := { daemon := initialState identity contacts, server }
    let link := Transition.run (linkStep sodium) start events
    let next := linkStep sodium link event
    next.daemon.reportedOffline = link.daemon.reportedOffline ∨
      ∃ peer message,
        next.daemon.reportedOffline = link.daemon.reportedOffline ++ [peer] ∧
        TakesIn link event message peer ∧
        link.daemon.session.encryptedSessionReady = false ∧
        Transition.Occurred (fun before earlier => Finds
          (Transition.run (linkStep sodium) start before) earlier message peer)
          events := by
  intro start link next
  obtain ⟨hbefore, hlast, _⟩ :=
    (Transition.guarded_append _ _ start events [event]).mp hguard
  have hstart : Attributed start := ⟨hname, nofun, fun hattached => absurd rfl hattached⟩
  have hattributed : Attributed link :=
    Transition.invariant_run (attributed_step sodium) hstart hbefore
  have haccounted : Accounted link :=
    accounted_run sodium (accounted_start _ server rfl) events
  have hgiven : Given sodium start events link := given_run sodium rfl events
  have hfound (answer : Answer) (hmem : answer ∈ link.answers) (receiver : Str)
      (hoffline : answer.offline = some receiver) :
      Transition.Occurred (fun before earlier => Finds
        (Transition.run (linkStep sodium) start before) earlier answer.request receiver)
        events := by
    obtain ⟨before, earlier, after, hevents, hanswers⟩ := hgiven answer hmem
    exact ⟨before, earlier, after, hevents, finds_of_answers hanswers hoffline⟩
  have hrecipient (answer : Answer) (hmem : answer ∈ link.answers) (receiver : Str)
      (hoffline : answer.offline = some receiver) :
      recipient answer.request = some receiver := by
    obtain ⟨_, _, _, _, _, _, _, _, hrecipient, _⟩ :=
      hfound answer hmem receiver hoffline
    exact hrecipient
  rcases report_step sodium hlast hattributed haccounted hrecipient with
    hsame | ⟨peer, message, htakes, hreported, hready⟩
  · exact Or.inl hsame
  · refine Or.inr ⟨peer, message, hreported, htakes, hready, ?_⟩
    obtain ⟨env, json, rest, _, hdown⟩ := htakes
    have hmem : (⟨message, some peer⟩ : Answer) ∈ link.answers :=
      List.mem_append_right _
        (List.mem_filterMap.mpr ⟨_, hdown ▸ List.mem_cons_self, rfl⟩)
    exact hfound _ hmem peer rfl

/-- Alice's daemon before it connects to a server. -/
def aliceOffline : Link := { daemon := initialState alice none }

/-- Alice logs in, and her client asks for a session with Bob. -/
def aliceAsksForBob : List LinkEvent :=
  let trip := (Env.smooth 0 1, zeroBytes 32)
  loginExchange 0 trip.1 [trip, trip, trip] ++
    [.daemon trip.1 (openChat 7 bob.username),
      .daemon trip.1 (.control (.writeable true)), .up trip.2, .server (.writeable 0 true)]

/-- Bob is not registered, and Alice's client is told that he is offline. -/
theorem offline_reports_attributed_bob :
    let link := Transition.run (linkStep Transparent.sodium) aliceOffline aliceAsksForBob
    ∃ message, TakesIn link (.down (Env.smooth 0 1) true) message bob.username ∧
      Transition.Occurred (fun before earlier => Finds
        (Transition.run (linkStep Transparent.sodium) aliceOffline before) earlier
        message bob.username) aliceAsksForBob := by
  intro link
  have hrun : Transition.Guarded (linkStep Transparent.sodium)
      (fun link event => attributable link event = true) aliceOffline
      (aliceAsksForBob ++ [.down (Env.smooth 0 1) true]) ∧
      link.daemon.reportedOffline = [] ∧
      (linkStep Transparent.sodium link
        (.down (Env.smooth 0 1) true)).daemon.reportedOffline = [bob.username] := by
    decide +kernel
  obtain ⟨hguard, hnone, hbob⟩ := hrun
  rcases offline_reports_attributed Transparent.sodium alice none {} (by decide)
    aliceAsksForBob (.down (Env.smooth 0 1) true) hguard with
    hsame | ⟨peer, message, hreported, htakes, _, hfound⟩
  · exact absurd (hbob.symm.trans (hsame.trans hnone)) (by decide)
  · have hlist : [bob.username] = [] ++ [peer] :=
      hbob.symm.trans (hreported.trans (congrArg (· ++ [peer]) hnone))
    obtain rfl := (List.cons.inj hlist).1
    exact ⟨message, htakes, hfound⟩

/-- Carol asks for a session with Alice and leaves before the answer of Alice's
daemon arrives; in between, Alice's client asks for a session with Bob. -/
def carolLeaves : List LinkEvent :=
  let trip := (Env.smooth 0 1, zeroBytes 32)
  loginExchange 0 trip.1 [trip, trip, trip] ++
    (serverLogin bob 1 trip.2 ++ serverLogin carol 2 trip.2).map LinkEvent.server ++
    [.server (.receive 2 (offerJson .chatRequest carol alice.username (bytes "ca11"))
        true trip.2),
      .server (.writeable 0 true), .down trip.1 true,
      .daemon trip.1 (.control (.writeable true)), .server (.closed 2),
      .daemon trip.1 (openChat 7 bob.username),
      .up trip.2, .server (.writeable 0 true), .down trip.1 true]

/-- The server never gets a message to Bob, who is online, and yet Alice's client
is told that Bob is offline. -/
theorem bob_reported_for_carol :
    let link := Transition.run (linkStep Transparent.sodium) aliceOffline carolLeaves
    Transition.Guarded (linkStep Transparent.sodium)
      (fun link _ => link.up.head?.bind recipient ≠ some bob.username) aliceOffline
      carolLeaves ∧
    (onlineTarget link.server bob.username).isSome = true ∧
    link.daemon.reportedOffline = [bob.username] := by
  decide +kernel

end ProntoChat.Relay
