import ProntoChat.Core.OfferAnswer
import ProntoChat.Net.Network
import ProntoChat.Net.Port
import ProntoChat.Relay.Answers
import ProntoChat.Relay.Messages

/-!
# Opening a session over the server

Two daemons that are online at one server.  What a daemon writes waits in its list
of frames until the server passes it on, in the order in which it was written.
The offers on their way and the sessions of the two daemons form an `Opening`; as
long as requests do not cross, every event is a sequence of its steps.
-/

namespace ProntoChat.Relay

open ProntoChat.QuotedText
open ProntoChat.Protocole
open ProntoChat.Json
open ProntoChat.Contacts
open ProntoChat.Crypto
open ProntoChat.Ice
open ProntoChat.Daemon
open ProntoChat.Net
open ProntoChat.OfferAnswer

/-! ## The two daemons -/

inductive SignalEvent where
  /-- A daemon handles an event of its own; offers come from the other daemon
  only. -/
  | act (side : Side) (env : Env) (event : ChatdEvent)
  /-- The server passes on the oldest message of the other daemon, if it is meant
  for this one. -/
  | relay (side : Side) (env : Env)
  /-- The server does not pass on the oldest message of a daemon. -/
  | refuse (side : Side)

/-- The oldest message of a daemon has left its list. -/
def takeFrame (state : ChatdState) : ChatdState :=
  { state with frames := state.frames.tail }

def signalStep (sodium : Sodium) (pair : Pair) : SignalEvent → Pair
  | .act side env event =>
      if startsSession event then pair
      else Function.update pair side (chatdStep sodium (pair side) (env, event))
  | .relay side env =>
      let taken := Function.update pair side.other (takeFrame (pair side.other))
      match (pair side.other).frames with
      | [] => pair
      | json :: _ =>
          if recipient json = some (pair side).identity.username then
            Function.update taken side
              (chatdStep sodium (pair side) (env, .control (.receive json true)))
          else taken
  | .refuse side => Function.update pair side (takeFrame (pair side))

/-! ## Offers and sessions -/

/-- The offer in a message.  An acceptance whose identifier cannot be read is
ignored by every daemon. -/
def offerOf (message : Str) : Option (Offer Str) :=
  match jsonType (cString message) with
  | some .chatRequest => some .request
  | some .chatAccept =>
      (jsonGetString (cString message) .sessionId chatdSessionIdHexLen).map .accept
  | _ => none

/-- The offers of a daemon that are queued or on their way. -/
def offersOf (state : ChatdState) : List (Offer Str) :=
  (state.frames ++ [state.pending]).filterMap offerOf

/-- The identifier and the role of the running session. -/
def sessionOf (state : ChatdState) : Option (Str × Option ChatCryptoRole) :=
  if state.session.iceActive then
    some (state.session.iceSessionId, state.session.cryptoRole)
  else none

def openingOf (pair : Pair) : Opening Side Str (Option ChatCryptoRole) where
  session side := sessionOf (pair side)
  offers side := offersOf (pair side)

theorem sessionOf_eq_none {state : ChatdState} :
    sessionOf state = none ↔ state.session.iceActive = false := by
  unfold sessionOf
  split_ifs with hactive
  · simp [hactive]
  · simpa using hactive

theorem offerOf_nil : offerOf [] = none := by decide +kernel

theorem offerOf_front (type : ControlType) (rest : List (Str × Str))
    (hrequest : type ≠ .chatRequest) (haccept : type ≠ .chatAccept) :
    offerOf (object ((JsonKey.type.name, type.name) :: rest)) = none := by
  unfold offerOf
  rw [jsonType_front]
  cases type <;> first | rfl | contradiction

theorem offerOf_request (rest : List (Str × Str)) :
    offerOf (object ((JsonKey.type.name, ControlType.chatRequest.name) :: rest)) =
      some .request := by
  unfold offerOf
  rw [jsonType_front]

/-! ## What a daemon offers -/

/-- The offers on a line. -/
def offersOn (line : Line) : List (Offer Str) :=
  (line.frames ++ [line.pending]).filterMap offerOf

theorem offersOn_detaches {before after : Line} (hdetaches : Detaches before after) :
    offersOn after = offersOn before := by
  obtain ⟨_, _, _, _, hpending, hframes⟩ := hdetaches.keeps
  rw [offersOn, offersOn, hpending, hframes]

theorem offersOn_queued {line : Line} (hempty : line.pending = []) (json : Str) :
    offersOn (line.queued json) = offersOn line ++ (offerOf json).toList := by
  unfold offersOn Line.queued
  cases hoffer : offerOf json <;> simp [hempty, offerOf_nil, hoffer]

theorem offersOn_queues {line next : Line} {json : Str} (hqueues : Queues line next json)
    (hjson : offerOf json = none) : offersOn next = offersOn line := by
  rcases hqueues with rfl | ⟨hempty, rfl⟩
  · rfl
  · rw [offersOn_queued hempty, hjson]
    exact List.append_nil _

/-- A daemon makes an offer only where it signals. -/
theorem offers_step (sodium : Sodium) (env : Env) (state : ChatdState)
    (event : ChatdEvent) :
    let next := chatdStep sodium state (env, event)
    offersOf next = offersOf state ∨
      ∃ line, Signals env state event line ∧ state.pending = [] ∧
        Detaches line next.line ∧
        offersOf next = offersOf state ++ (offerOf line.pending).toList := by
  obtain ⟨line, hmove, hdetaches⟩ := moved_step sodium state (env, event)
  have hnext : offersOf (chatdStep sodium state (env, event)) = offersOn line := by
    show offersOn (chatdStep sodium state (env, event)).line = offersOn line
    exact offersOn_detaches hdetaches
  simp only [hnext]
  cases hmove with
  | kept _ | joins _ | enters _ _ _ | fails _ | loses _ => exact Or.inl rfl
  | signals hempty hsignals =>
      refine Or.inr ⟨line, hsignals, hempty, hdetaches, ?_⟩
      obtain ⟨_, _, _, _, _, hsame⟩ := hsignals.keeps
      unfold offersOn offersOf
      rw [hsame]
      cases hoffer : offerOf line.pending <;> simp [hempty, offerOf_nil, hoffer]
  | greets _ _ hqueues =>
      exact Or.inl (offersOn_queues hqueues (offerOf_front _ _ (by decide) (by decide)))
  | responds _ _ hqueues =>
      exact Or.inl (offersOn_queues hqueues (offerOf_front _ _ (by decide) (by decide)))
  | establishes hqueues =>
      exact Or.inl (offersOn_queues hqueues (offerOf_front _ _ (by decide) (by decide)))
  | writes _ =>
      left
      have hnil : [([] : Str)].filterMap offerOf = [] := by
        simp [offerOf_nil]
      unfold offersOn offersOf
      rw [List.filterMap_append, hnil, List.append_nil]

/-! ## What becomes of a session -/

/-- The session is the same, or there is none any more. -/
def Subsides (state next : ChatdState) : Prop :=
  sessionOf next = sessionOf state ∨ sessionOf next = none

theorem sessionOf_of_port {state next : ChatdState} (hport : port next = port state) :
    sessionOf next = sessionOf state := by
  have hactive : next.session.iceActive = state.session.iceActive :=
    congrArg (fun port => port.session.iceActive) hport
  have hid : next.session.iceSessionId = state.session.iceSessionId :=
    congrArg (fun port => port.session.iceSessionId) hport
  have hrole : next.session.cryptoRole = state.session.cryptoRole :=
    congrArg (fun port => port.session.cryptoRole) hport
  rw [sessionOf, sessionOf, hactive, hid, hrole]

theorem Subsides.of_kept {state next : ChatdState} (hkept : Kept (port state) (port next)) :
    Subsides state next := by
  rcases hkept with hport | hended
  · exact Or.inl (sessionOf_of_port hport)
  · exact Or.inr (sessionOf_eq_none.mpr (ended_inactive hended))

/-- No session is asked for, answered or begun. -/
def sealedAdmission : Admission where
  io _ := False
  answer _ _ := False
  request _ _ := False

/-- The part of a session that both sides have to agree on. -/
def terms (view : View) : Option (Str × Option ChatCryptoRole) :=
  if view.session.active then some (view.session.sessionId, view.session.role)
  else none

theorem terms_move {sodium : Sodium} {view next : View}
    (hmove : Move sodium sealedAdmission view next) :
    terms next = terms view ∨ terms next = none := by
  cases hmove with
  | stop => exact Or.inr rfl
  | request _ _ _ hadmits => exact hadmits.elim
  | answer hio _ _ => exact hio.elim
  | accepted hio _ _ _ => exact hio.elim
  | _ => exact Or.inl rfl

theorem terms_moves {sodium : Sodium} {view next : View}
    (hmoves : Moves sodium sealedAdmission view next) :
    terms next = terms view ∨ terms next = none := by
  induction hmoves with
  | refl => exact Or.inl rfl
  | tail _ hmove ih =>
      rcases terms_move hmove with hsame | hnone
      · rw [hsame]
        exact ih
      · exact Or.inr hnone

theorem Subsides.of_moves {sodium : Sodium} {state next : ChatdState}
    (hmoves : Moves sodium sealedAdmission state.view next.view) :
    Subsides state next := terms_moves hmoves

/-! ## Events without offers -/

/-- The session is not ready, and if it fails it is asked for again. -/
def reopens (state : ChatdState) : Bool :=
  state.session.iceActive && !state.session.encryptedSessionReady &&
    decide (state.lookupClientFd ≠ none) && decide (state.lookupPeer ≠ []) &&
    state.controlWsi && decide (state.chatRetryCount < chatdIceRetryMax) &&
    decide (state.pending = [])

/-- The event asks for a session, or may do so. -/
def asks (env : Env) (state : ChatdState) : ChatdEvent → Bool
  | .ipc accepted poll => (requestedPeer env state accepted poll).isSome
  | .serviceIce => reopens state
  | _ => false

/-- An attempt that does not fail makes no offer. -/
theorem offers_serviceAttempt {sodium : Sodium} {env : Env} {state next : ChatdState}
    (hok : serviceAttempt sodium env state = .ok next) :
    offersOf next = offersOf state := by
  show offersOn next.line = offersOn state.line
  unfold serviceAttempt at hok
  split_ifs at hok
  · obtain rfl := Except.ok.inj hok
    rfl
  · have hlocal := attempt_bind_ok hok
    have hconnect := attempt_bind_ok hlocal
    obtain ⟨hremote, _⟩ := servicePendingRemoteSdp_keeps env state
    generalize (servicePendingRemoteSdp env state).1 = described at hremote hconnect
    obtain ⟨_, hplaced⟩ := placed_serviceLocalSdp sodium env described
    generalize (serviceLocalSdp sodium env described).1 = placed at hplaced hconnect
    have hdescribed : offersOn placed.line = offersOn described.line := by
      rcases hplaced with hline | ⟨_, _, hempty, hline⟩
      · rw [hline]
      · rw [hline, offersOn_queued hempty, credentialsJson, iceCredentialsJson,
          offerOf_front _ _ (by decide) (by decide)]
        exact List.append_nil _
    have hdetaches := progressed_connectAttempt sodium env placed
    rw [connectAttempt, hconnect] at hdetaches
    rw [offersOn_detaches hdetaches, hdescribed, hremote]

/-- The service step makes an offer only when it asks for a failed session again. -/
theorem serviceIce_cases (sodium : Sodium) (env : Env) (state : ChatdState) :
    let next := chatdStep sodium state (env, .serviceIce)
    (offersOf next = offersOf state ∧ Subsides state next) ∨
      (reopens state = true ∧ sessionOf next = none ∧
        offersOf next = offersOf state ++ [.request]) := by
  have hmoves : Moves sodium sealedAdmission state.view
      (serviceIceSession sodium env state).view := serviceIceSession_moves env state
  rcases offers_step sodium env state .serviceIce with
    hsame | ⟨line, hsignals, hempty, hdetaches, hoffers⟩
  · exact Or.inl ⟨hsame, Subsides.of_moves hmoves⟩
  · cases hsignals with
    | accept hmessage _ _ | cancel hmessage _ _ | retryAccepted hmessage _ _ _ =>
        exact nomatch hmessage
    | describe _ _ =>
        rw [Line.queued, credentialsJson, iceCredentialsJson,
          offerOf_front _ _ (by decide) (by decide)] at hoffers
        exact Or.inl ⟨hoffers.trans (List.append_nil _), Subsides.of_moves hmoves⟩
    | retry hactive hready hretry =>
        have hoffer : offersOf (chatdStep sodium state (env, .serviceIce)) =
            offersOf state ++ [.request] := by
          rw [hoffers, Line.retried, Line.retryJson, offerJson, offerOf_request]
          rfl
        obtain ⟨failed, hattempt⟩ : ∃ failed,
            serviceAttempt sodium env state = .error failed := by
          cases hattempt : serviceAttempt sodium env state with
          | error failed => exact ⟨failed, rfl⟩
          | ok next =>
              have hnext : chatdStep sodium state (env, .serviceIce) = next := by
                rw [chatdStep, serviceIceSession_eq, hattempt]
                rfl
              rw [hnext, offers_serviceAttempt hattempt] at hoffer
              exact absurd hoffer (by simp)
        obtain ⟨hclient, hpeer, hwsi, hcount⟩ := hretry
        refine Or.inr ⟨?_, ?_, hoffer⟩
        · have hattached : state.lookupClientFd ≠ none := hclient
          have hnamed : state.lookupPeer ≠ [] := hpeer
          have hlinked : state.controlWsi = true := hwsi
          have hleft : state.chatRetryCount < chatdIceRetryMax := hcount
          simp [reopens, hactive, hready, hattached, hnamed, hlinked, hleft, hempty]
        · rw [chatdStep, serviceIceSession_eq, hattempt]
          exact sessionOf_eq_none.mpr (ended_inactive (ended_failChatSession env failed))

/-- What a daemon does by itself: it offers a session only by asking for one, and
has none when it does. -/
theorem own_step (sodium : Sodium) (env : Env) {state : ChatdState} {event : ChatdEvent}
    (hstarts : startsSession event = false)
    (hasks : asks env state event = true → event = .serviceIce ∨ sessionOf state = none) :
    let next := chatdStep sodium state (env, event)
    (offersOf next = offersOf state ∧ Subsides state next) ∨
      (asks env state event = true ∧ sessionOf next = none ∧
        offersOf next = offersOf state ++ [.request]) := by
  cases event with
  | control event =>
      refine Or.inl ⟨?_, Subsides.of_kept (kept_control sodium env state hstarts)⟩
      rcases offers_step sodium env state (.control event) with hsame | ⟨line, hsignals, _⟩
      · exact hsame
      · cases hsignals with
        | accept hmessage htype _ | cancel hmessage htype _
        | retryAccepted hmessage htype _ _ =>
            simp [startsSession, hmessage, htype] at hstarts
  | ipc accepted poll =>
      have hsession : requestedPeer env state accepted poll ≠ none →
          sessionOf (serviceIpc env state accepted poll) = none := by
        intro hsome
        have hnone := (hasks (Option.isSome_iff_ne_none.mpr hsome)).resolve_left (by simp)
        have hkept : (serviceIpc env state accepted poll).session.iceActive =
            state.session.iceActive := by
          rcases port_serviceIpc env state accepted poll with hport | ⟨_, hport⟩ <;>
            exact congrArg (fun port => port.session.iceActive) hport
        rw [sessionOf_eq_none] at hnone ⊢
        exact hkept.trans hnone
      have hsubsides : Subsides state (serviceIpc env state accepted poll) := by
        rcases port_serviceIpc env state accepted poll with hport | ⟨hsome, _⟩
        · exact Or.inl (sessionOf_of_port hport)
        · exact Or.inr (hsession hsome)
      rcases offers_step sodium env state (.ipc accepted poll) with
        hsame | ⟨line, hsignals, _, _, hoffers⟩
      · exact Or.inl ⟨hsame, hsubsides⟩
      · cases hsignals with
        | accept hmessage _ _ | cancel hmessage _ _ | retryAccepted hmessage _ _ _ =>
            simp [ChatdEvent.message] at hmessage
        | request hrequested _ =>
            have hsome := Option.ne_none_iff_exists'.mpr ⟨_, hrequested⟩
            refine Or.inr ⟨Option.isSome_iff_ne_none.mpr hsome, hsession hsome, ?_⟩
            rw [hoffers, Line.asked, requestJson, offerJson, offerOf_request]
            rfl
  | activeClient read =>
      have hmoves : Moves sodium sealedAdmission state.view
          (serviceActiveChatClient sodium env state read).view :=
        serviceActiveChatClient_moves env state read
      refine Or.inl ⟨?_, Subsides.of_moves hmoves⟩
      rcases offers_step sodium env state (.activeClient read) with
        hsame | ⟨line, hsignals, _⟩
      · exact hsame
      · cases hsignals with
        | accept hmessage _ _ | cancel hmessage _ _ | retryAccepted hmessage _ _ _ =>
            simp [ChatdEvent.message] at hmessage
  | ice callback =>
      left
      simp only [chatdStep, serviceIceCallback]
      split_ifs <;> exact ⟨rfl, Or.inl rfl⟩
  | serviceIce => exact serviceIce_cases sodium env state
  | reconnect started =>
      left
      simp only [chatdStep, serviceReconnect]
      split_ifs <;> exact ⟨rfl, Or.inl rfl⟩

/-! ## Offers that arrive -/

/-- A failed session is asked for again only if the line is free. -/
theorem failed_cases (env : Env) (state : ChatdState) :
    let next := failChatSession env state
    sessionOf next = none ∧ (offersOf next = offersOf state ∨
      (state.pending = [] ∧ offersOf next = offersOf state ++ [.request])) := by
  refine ⟨sessionOf_eq_none.mpr (ended_inactive (ended_failChatSession env state)), ?_⟩
  rcases failed_failChatSession env state with hlost | ⟨_, _, hempty, hretried⟩
  · exact Or.inl (offersOn_detaches hlost)
  · refine Or.inr ⟨hempty, ?_⟩
    show offersOn (failChatSession env state).line = offersOn state.line ++ [.request]
    rw [hretried]
    show offersOn (state.line.queued (state.line.retryJson env)) = _
    rw [offersOn_queued hempty, Line.retryJson, offerJson, offerOf_request]
    rfl

/-- What becomes of an attempt to begin a session: it runs, or it has failed and is
asked for again if the line is free. -/
def Attempted (session : Str × Option ChatCryptoRole) (state next : ChatdState) : Prop :=
  (offersOf next = offersOf state ∧
      (sessionOf next = none ∨ sessionOf next = some session)) ∨
    (state.pending = [] ∧ sessionOf next = none ∧
      offersOf next = offersOf state ++ [.request])

theorem attempted_beginIceSession (env : Env) (state : ChatdState)
    (peer sessionId : Str) (controlling : Bool) (remotePk : Bytes 32) :
    Attempted (sessionId,
        (preparedSession peer sessionId controlling remotePk).cryptoRole) state
      (beginIceSession env state peer sessionId controlling remotePk).1 := by
  have hfailed (failed : ChatdState) (hline : failed.line = state.line) :
      Attempted (sessionId,
        (preparedSession peer sessionId controlling remotePk).cryptoRole) state
        (failChatSession env failed) := by
    have hoffers : offersOf failed = offersOf state := congrArg offersOn hline
    have hpending : failed.pending = state.pending := congrArg Line.pending hline
    obtain ⟨hnone, hsame | ⟨hempty, hretried⟩⟩ := failed_cases env failed
    · exact Or.inl ⟨hsame.trans hoffers, Or.inl hnone⟩
    · rw [hoffers] at hretried
      exact Or.inr ⟨hpending.symm.trans hempty, hnone, hretried⟩
  unfold beginIceSession chatIceSessionStart
  simp only
  split_ifs
  · exact hfailed _ rfl
  · exact hfailed _ rfl
  · cases env.iceStart with
    | error failure => exact hfailed _ rfl
    | ok started => exact Or.inl ⟨rfl, Or.inr rfl⟩

/-- The answer to a request names its session, if its identifier can be read at
all. -/
theorem offerOf_accept (sodium : Sodium) {identity : ChatIdentity} {peer sessionId : Str}
    (hname : chatUsernameIsValid identity.username = true)
    (hpeer : chatUsernameIsValid peer = true) (hid : SessionIdValid sessionId) :
    ∀ offer ∈ offerOf (offerJson .chatAccept identity peer sessionId),
      offer = .accept sessionId := by
  intro offer hoffer
  have hvalid : (ControlMessage.chatAccept identity peer sessionId).Valid sodium :=
    ⟨hname, hpeer, hid⟩
  have hread := jsonGetString_json hvalid .sessionId (by decide : 0 < chatdSessionIdHexLen)
  have htype : jsonType (cString (offerJson .chatAccept identity peer sessionId)) =
      some .chatAccept := jsonType_front .chatAccept _
  have hnames : JsonKey.sessionId.name ≠ JsonKey.type.name ∧
      JsonKey.sessionId.name ≠ JsonKey.from.name ∧
      JsonKey.sessionId.name ≠ JsonKey.to.name ∧
      JsonKey.sessionId.name ≠ JsonKey.publicKey.name := by
    decide +kernel
  have hstring := cString_json hvalid
  simp only [ControlMessage.json] at hread hstring
  rw [Option.mem_def, offerOf] at hoffer
  simp only [htype] at hoffer
  obtain ⟨read, hsome, rfl⟩ := Option.map_eq_some_iff.mp hoffer
  rw [hstring, hread] at hsome
  have hmem := mem_of_scanMembers hsome
  simp only [ControlMessage.members, List.map_cons, List.map_nil, List.mem_cons,
    Prod.mk.injEq, hnames, false_and, false_or, true_and, List.not_mem_nil, or_false]
    at hmem
  rw [hmem]

theorem validChatRequest_some {state : ChatdState} {json : Str} {offer : ChatOffer}
    (hvalid : validChatRequest state json = some offer) :
    chatUsernameIsValid offer.sender = true ∧ SessionIdValid offer.sessionId := by
  unfold validChatRequest at hvalid
  split at hvalid
  · exact nomatch hvalid
  · rename_i parsed hparse
    split_ifs at hvalid with hfields
    obtain rfl := Option.some.inj hvalid
    unfold parseChatOffer at hparse
    split at hparse
    · rename_i hsessionId _
      obtain ⟨_, _, rfl⟩ := Option.map_eq_some_iff.mp hparse
      obtain ⟨hplain, hlength⟩ := jsonGetString_bounds hsessionId
      exact ⟨hfields.2.1, hfields.2.2, hplain, hlength⟩
    · exact nomatch hparse

/-- A request is ignored, or it is answered and its session begun as the
responder. -/
theorem request_cases (sodium : Sodium) (env : Env) {state : ChatdState} (json : Str)
    (hname : chatUsernameIsValid state.identity.username = true) :
    let next := (handleChatRequest env state json).1
    (offersOf next = offersOf state ∧ Subsides state next) ∨
      ∃ sessionId, (offersOf next = offersOf state ∨
          offersOf next = offersOf state ++ [.accept sessionId]) ∧
        (sessionOf next = none ∨ sessionOf next = some (sessionId, some .responder)) := by
  unfold handleChatRequest
  cases hvalid : validChatRequest state json with
  | none => exact Or.inl ⟨rfl, Or.inl rfl⟩
  | some offer =>
      obtain ⟨hsender, hid⟩ := validChatRequest_some hvalid
      simp only
      generalize (chatContactsVerifyOrPin env.contactsIo state.contacts offer.sender
        offer.identityPk) = contact
      split_ifs
      · exact Or.inl ⟨rfl, Or.inl rfl⟩
      · unfold answerChatRequest queueChatAccept
        rcases placed_queueFormatted ((state.setContacts contact.db).setSessionState
            .requesting)
          (offerJson .chatAccept state.identity offer.sender offer.sessionId)
          (by decide : 512 ≤ chatdMaxJsonSize) with
          hfull | ⟨next, hnext, hempty, hline⟩
        · simp only [ChatdState.setContacts, ChatdState.setSessionState] at hfull ⊢
          simp only [hfull]
          exact Or.inl ⟨rfl, Or.inl rfl⟩
        · simp only [ChatdState.setContacts, ChatdState.setSessionState] at hnext ⊢
          simp only [hnext]
          have hslot : state.line.pending = [] := hempty
          have hoffers : offersOf next = offersOf state ++ (offerOf (offerJson .chatAccept
              state.identity offer.sender offer.sessionId)).toList :=
            (congrArg offersOn hline).trans (offersOn_queued hslot _)
          refine Or.inr ⟨offer.sessionId, ?_⟩
          rcases attempted_beginIceSession env next offer.sender offer.sessionId false
            offer.identityPk with ⟨hsame, hsession⟩ | ⟨hfree, _, _⟩
          · rw [hsame, hoffers]
            refine ⟨?_, hsession⟩
            cases hoffer : offerOf (offerJson .chatAccept state.identity offer.sender
                offer.sessionId) with
            | none => exact Or.inl (List.append_nil _)
            | some answer =>
                rw [offerOf_accept sodium hname hsender hid answer hoffer]
                exact Or.inr rfl
          · -- The queued answer leaves no slot for a retry.
            have hheld := congrArg Line.pending hline
            exact absurd (hheld.symm.trans hfree) (List.cons_ne_nil _ _)

theorem offerOf_matching {state : ChatdState} {json : Str} {offer : ChatOffer}
    (htype : jsonType (cString json) = some .chatAccept)
    (haccept : matchingChatAccept state (cString json) = some offer) :
    offerOf json = some (.accept offer.sessionId) := by
  unfold matchingChatAccept at haccept
  split at haccept
  · exact nomatch haccept
  · rename_i parsed hparse
    split_ifs at haccept
    obtain rfl := Option.some.inj haccept
    unfold parseChatOffer at hparse
    split at hparse
    · rename_i hsessionId _
      obtain ⟨_, _, rfl⟩ := Option.map_eq_some_iff.mp hparse
      simp only [offerOf, htype, hsessionId, Option.map_some]
    · exact nomatch hparse

/-- An acceptance is ignored, or its session is begun as the initiator or asked for
again. -/
theorem accept_cases (env : Env) (state : ChatdState) (json : Str) :
    let next := handleChatAccept env state json
    (offersOf next = offersOf state ∧ Subsides state next) ∨
      ∃ offer, matchingChatAccept state json = some offer ∧
        ((offersOf next = offersOf state ∧
            sessionOf next = some (offer.sessionId, some .initiator)) ∨
          (sessionOf next = none ∧ offersOf next = offersOf state ++ [.request])) := by
  have hrespond (state : ChatdState) (line : IpcLine) :
      offersOf (writeLookupResponse env state line) = offersOf state ∧
        sessionOf (writeLookupResponse env state line) = sessionOf state :=
    ⟨offersOn_detaches (detaches_writeLookupResponse env state line), by
      rw [sessionOf, writeLookupResponse_session, sessionOf]⟩
  unfold handleChatAccept
  cases haccept : matchingChatAccept state json with
  | none => exact Or.inl ⟨rfl, Or.inl rfl⟩
  | some offer =>
      simp only
      generalize (chatContactsVerifyOrPin env.contactsIo state.contacts offer.sender
        offer.identityPk) = contact
      split
      · left
        obtain ⟨hoffers, hsession⟩ := hrespond (queueChatCancel (state.setContacts
          contact.db) offer.sender offer.sessionId).1 (.identityMismatch offer.sender)
        have hqueues := queues_queueFormatted (state.setContacts contact.db)
          (chatCancelJson state.identity.username offer.sender offer.sessionId)
          (by decide : 384 ≤ chatdMaxJsonSize)
        have hkept := port_queueFormatted (state.setContacts contact.db) 384
          (chatCancelJson state.identity.username offer.sender offer.sessionId)
        refine ⟨hoffers.trans (offersOn_queues hqueues
          (offerOf_front _ _ (by decide) (by decide))), Or.inl ?_⟩
        exact hsession.trans (sessionOf_of_port hkept)
      · have hattempted := attempted_beginIceSession env (state.setContacts contact.db)
          offer.sender offer.sessionId true offer.identityPk
        have hstarted : offersOf (startAcceptedSession env (state.setContacts contact.db)
              offer) = offersOf (beginIceSession env (state.setContacts contact.db)
                offer.sender offer.sessionId true offer.identityPk).1 ∧
            sessionOf (startAcceptedSession env (state.setContacts contact.db) offer) =
              sessionOf (beginIceSession env (state.setContacts contact.db)
                offer.sender offer.sessionId true offer.identityPk).1 := by
          unfold startAcceptedSession
          split <;> rename_i begun hbegun <;> rw [hbegun]
          · exact ⟨rfl, rfl⟩
          · exact hrespond begun _
        obtain ⟨hoffers, hsession⟩ := hstarted
        rw [hoffers, Subsides, hsession]
        rcases hattempted with ⟨hsame, hnone | hbegun⟩ | ⟨_, hnone, hagain⟩
        · exact Or.inl ⟨hsame, Or.inr hnone⟩
        · exact Or.inr ⟨offer, rfl, Or.inl ⟨hsame, hbegun⟩⟩
        · exact Or.inr ⟨offer, rfl, Or.inr ⟨hnone, hagain⟩⟩
      · obtain ⟨hoffers, hsession⟩ := hrespond (state.setContacts contact.db)
          (.error (bytes "contact_verification_failed"))
        exact Or.inl ⟨hoffers, Or.inl hsession⟩

/-! ## Orderly runs -/

theorem two_sides : ∀ first second third : Side, first ≠ second →
    third = first ∨ third = second := by
  rintro ⟨⟩ ⟨⟩ ⟨⟩ <;> simp

/-- A daemon asks for a session only while no offer of either daemon is on its way,
and on behalf of a client only if it has no session. -/
def Orderly (pair : Pair) : SignalEvent → Prop
  | .act side env event =>
      asks env (pair side) event = true →
        (offersOf (pair side) = [] ∧ offersOf (pair side.other) = []) ∧
          (event = .serviceIce ∨ (pair side).session.iceActive = false)
  | _ => True

instance (pair : Pair) : (event : SignalEvent) → Decidable (Orderly pair event)
  | .act side env event => inferInstanceAs (Decidable (asks env (pair side) event = true →
      (offersOf (pair side) = [] ∧ offersOf (pair side.other) = []) ∧
        (event = .serviceIce ∨ (pair side).session.iceActive = false)))
  | .relay _ _ | .refuse _ => isTrue trivial

theorem quiet_of_offers {pair : Pair} {side : Side} (hown : offersOf (pair side) = [])
    (hother : offersOf (pair side.other) = []) : (openingOf pair).Quiet := by
  intro sender
  rcases two_sides side side.other sender side.ne_other with rfl | rfl
  · exact hown
  · exact hother

theorem openingOf_update (pair : Pair) (side : Side) (next : ChatdState) :
    openingOf (Function.update pair side next) =
      ((openingOf pair).setOffers side (offersOf next)).setSession side
        (sessionOf next) := by
  unfold openingOf Opening.setOffers Opening.setSession
  congr 1
  · exact Function.comp_update sessionOf pair side next
  · exact Function.comp_update offersOf pair side next

theorem offersOf_takeFrame {state : ChatdState} {json : Str} {rest : List Str}
    (hframes : state.frames = json :: rest) :
    offersOf state = (offerOf json).toList ++ offersOf (takeFrame state) := by
  unfold offersOf takeFrame
  rw [hframes]
  cases hoffer : offerOf json <;> simp [hoffer]

theorem openingOf_takeFrame (pair : Pair) (side : Side) :
    openingOf (Function.update pair side (takeFrame (pair side))) =
      (openingOf pair).setOffers side (offersOf (takeFrame (pair side))) := by
  rw [openingOf_update]
  exact Opening.setSession_self _ side

/-- The daemon that asks becomes the initiator. -/
abbrev OpeningSteps (opening next : Opening Side Str (Option ChatCryptoRole)) : Prop :=
  Steps (some .initiator) (some .responder) opening next

abbrev OpeningPhase (opening : Opening Side Str (Option ChatCryptoRole)) : Prop :=
  Phase (some .initiator) (some .responder) opening

theorem steps_takeFrame (pair : Pair) (side : Side) :
    OpeningSteps (openingOf pair)
      (openingOf (Function.update pair side (takeFrame (pair side)))) := by
  rw [openingOf_takeFrame]
  have hself : (openingOf pair).setOffers side (offersOf (pair side)) = openingOf pair :=
    Opening.setOffers_self _ side
  cases hframes : (pair side).frames with
  | nil =>
      have hsame : offersOf (takeFrame (pair side)) = offersOf (pair side) := by
        rw [offersOf, takeFrame, hframes, offersOf, hframes]
        rfl
      rw [hsame, hself]
      exact .refl
  | cons json rest =>
      have hoffers := offersOf_takeFrame hframes
      cases hoffer : offerOf json with
      | none =>
          rw [hoffer, Option.toList_none, List.nil_append] at hoffers
          rw [← hoffers, hself]
          exact .refl
      | some offer =>
          rw [hoffer, Option.toList_some, List.singleton_append] at hoffers
          exact .single (.loses hoffers)

/-- What a daemon does by itself. -/
theorem steps_own (sodium : Sodium) (env : Env) {pair : Pair} {side : Side}
    {event : ChatdEvent} (hstarts : startsSession event = false)
    (horderly : Orderly pair (.act side env event)) :
    OpeningSteps (openingOf pair) (openingOf (Function.update pair side
      (chatdStep sodium (pair side) (env, event)))) := by
  rw [openingOf_update]
  have hnone (hasks : asks env (pair side) event = true) :
      event = .serviceIce ∨ sessionOf (pair side) = none :=
    (horderly hasks).2.imp_right sessionOf_eq_none.mpr
  rcases own_step sodium env hstarts hnone with
    ⟨hoffers, hsubsides⟩ | ⟨hasks, hnone, hoffers⟩
  · rw [hoffers]
    have hself : (openingOf pair).setOffers side (offersOf (pair side)) =
        openingOf pair := Opening.setOffers_self _ side
    rw [hself]
    exact steps_kept hsubsides
  · obtain ⟨⟨hown, hother⟩, _⟩ := horderly hasks
    rw [hoffers, hnone, hown]
    exact steps_asked (quiet_of_offers hown hother)

/-- A message that is no offer arrives, or an offer that is ignored. -/
theorem steps_ignored {pair : Pair} {side : Side} {next : ChatdState}
    (hoffers : offersOf next = offersOf (pair side)) (hsubsides : Subsides (pair side) next) :
    OpeningSteps (openingOf pair) (openingOf (Function.update (Function.update pair
      side.other (takeFrame (pair side.other))) side next)) := by
  refine (steps_takeFrame pair side.other).trans ?_
  generalize htaken : Function.update pair side.other (takeFrame (pair side.other)) = taken
  have hside : taken side = pair side := by
    rw [← htaken]
    exact Function.update_of_ne side.ne_other _ pair
  rw [openingOf_update, hoffers, ← hside]
  have hself : (openingOf taken).setOffers side (offersOf (taken side)) =
      openingOf taken := Opening.setOffers_self _ side
  rw [hself]
  refine steps_kept ?_
  show sessionOf next = sessionOf (taken side) ∨ sessionOf next = none
  rw [hside]
  exact hsubsides

theorem message_of_starts {json : Str}
    (hstarts : startsSession (.control (.receive json true)) = true) :
    (ControlEvent.receive json true).message = some (cString json) := by
  by_cases hlong : chatdMaxJsonSize ≤ json.length
  · simp [startsSession, ChatdEvent.message, ControlEvent.message, hlong] at hstarts
  · simp [ControlEvent.message, hlong]

/-- The server passes on a message of the other daemon. -/
theorem steps_relayed (sodium : Sodium) (env : Env) {pair : Pair} {side : Side}
    {json : Str} {rest : List Str} (hframes : (pair side.other).frames = json :: rest)
    (hname : chatUsernameIsValid (pair side).identity.username = true)
    (hphase : OpeningPhase (openingOf pair)) :
    OpeningSteps (openingOf pair) (openingOf (Function.update (Function.update pair
      side.other (takeFrame (pair side.other))) side
        (chatdStep sodium (pair side) (env, .control (.receive json true))))) := by
  cases hstarts : startsSession (.control (.receive json true)) with
  | false =>
      rcases own_step sodium env hstarts (by simp [asks]) with
        ⟨hoffers, hsubsides⟩ | ⟨hasks, _⟩
      · exact steps_ignored hoffers hsubsides
      · exact nomatch hasks
  | true =>
      have hmessage := message_of_starts hstarts
      have hnext : chatdStep sodium (pair side) (env, .control (.receive json true)) =
          (handleReceive sodium env (pair side) (cString json)).1 := by
        simp only [chatdStep, callback_message sodium env (pair side) hmessage]
      have htaken := offersOf_takeFrame hframes
      rw [hnext]
      simp only [startsSession, ChatdEvent.message, hmessage, Bool.or_eq_true,
        decide_eq_true_eq] at hstarts
      rcases hstarts with htype | htype
      · have hoffer : offerOf json = some .request := by
          simp only [offerOf, htype]
        rw [hoffer, Option.toList_some, List.singleton_append] at htaken
        simp only [handleReceive, htype]
        rcases request_cases sodium env (cString json) hname with
          ⟨hoffers, hsubsides⟩ | ⟨sessionId, hoffers, hsession⟩
        · exact steps_ignored hoffers hsubsides
        · rw [openingOf_update, openingOf_takeFrame]
          exact steps_answered hphase side.ne_other htaken hoffers hsession
      · simp only [handleReceive, htype]
        rcases accept_cases env (pair side) (cString json) with
          ⟨hoffers, hsubsides⟩ | ⟨offer, haccept, hoffers⟩
        · exact steps_ignored hoffers hsubsides
        · rw [offerOf_matching htype haccept, Option.toList_some,
            List.singleton_append] at htaken
          rw [openingOf_update, openingOf_takeFrame]
          exact steps_accepted hphase side.ne_other htaken hoffers

/-- Every event of an orderly run is a sequence of steps of the opening. -/
theorem steps_signalStep (sodium : Sodium) {pair : Pair} {event : SignalEvent}
    (hnames : ∀ side, chatUsernameIsValid (pair side).identity.username = true)
    (horderly : Orderly pair event) (hphase : OpeningPhase (openingOf pair)) :
    OpeningSteps (openingOf pair) (openingOf (signalStep sodium pair event)) := by
  cases event with
  | act side env event =>
      simp only [signalStep]
      split_ifs with hstarts
      · exact .refl
      · exact steps_own sodium env (by simpa using hstarts) horderly
  | relay side env =>
      simp only [signalStep]
      cases hframes : (pair side.other).frames with
      | nil => exact .refl
      | cons json rest =>
          simp only
          split_ifs
          · exact steps_relayed sodium env hframes (hnames side) hphase
          · exact steps_takeFrame pair side.other
  | refuse side => exact steps_takeFrame pair side

/-! ## Agreement -/

/-- The daemon has a session with the other one, and none of its signalling messages
is queued or on its way. -/
def Settled (pair : Pair) (side : Side) : Prop :=
  (pair side).session.iceActive = true ∧
    (pair side).session.icePeer = (pair side.other).identity.username ∧
    ∀ message ∈ (pair side).frames ++ [(pair side).pending], signals message = false

instance (pair : Pair) (side : Side) : Decidable (Settled pair side) :=
  inferInstanceAs (Decidable (_ ∧ _ ∧ _))

/-- Two settled daemons have one session, and opposite roles in it. -/
def SessionsAgree (pair : Pair) : Prop :=
  Settled pair .left → Settled pair .right →
    (pair .left).session.iceSessionId = (pair .right).session.iceSessionId ∧
      (((pair .left).session.cryptoRole = some .initiator ∧
          (pair .right).session.cryptoRole = some .responder) ∨
        ((pair .left).session.cryptoRole = some .responder ∧
          (pair .right).session.cryptoRole = some .initiator))

instance (pair : Pair) : Decidable (SessionsAgree pair) :=
  inferInstanceAs (Decidable (_ → _ → _ ∧ _))

theorem sessionsAgree_of_agreed {pair : Pair} (hagreed : Agreed (some .initiator)
    (some .responder) (openingOf pair)) : SessionsAgree pair := by
  rintro ⟨hleft, _⟩ ⟨hright, _⟩
  have hsession {side : Side} (hactive : (pair side).session.iceActive = true) :
      ((pair side).session.iceSessionId, (pair side).session.cryptoRole) ∈
        (openingOf pair).session side :=
    if_pos hactive
  exact hagreed .left .right (by decide) _ (hsession hleft) _ (hsession hright)

theorem identity_signalStep (sodium : Sodium) (pair : Pair) (event : SignalEvent)
    (side : Side) :
    (signalStep sodium pair event side).identity = (pair side).identity := by
  have htaken (pair : Pair) (sender : Side) :
      (Function.update pair sender (takeFrame (pair sender)) side).identity =
        (pair side).identity := by
    by_cases hsame : side = sender
    · rw [hsame, Function.update_self]
      rfl
    · rw [Function.update_of_ne hsame]
  have hhandled (pair : Pair) (actor : Side) (input : Env × ChatdEvent) :
      (Function.update pair actor (chatdStep sodium (pair actor) input) side).identity =
        (pair side).identity := by
    by_cases hsame : side = actor
    · rw [hsame, Function.update_self]
      exact (link_step sodium (pair actor) input).1
    · rw [Function.update_of_ne hsame]
  cases event with
  | act actor env event =>
      simp only [signalStep]
      split_ifs
      · rfl
      · exact hhandled pair actor (env, event)
  | relay actor env =>
      simp only [signalStep]
      cases hframes : (pair actor.other).frames with
      | nil => rfl
      | cons json rest =>
          simp only
          split_ifs
          · have hactor : Function.update pair actor.other (takeFrame (pair actor.other))
                actor = pair actor := Function.update_of_ne actor.ne_other _ pair
            rw [← hactor]
            exact (hhandled _ actor _).trans (htaken pair actor.other)
          · exact htaken pair actor.other
  | refuse actor => exact htaken pair actor

/-- The two daemons before their first event. -/
def initialPair (identities : Side → ChatIdentity) (contacts : Side → ContactsDb) : Pair :=
  fun side => initialState (identities side) (contacts side)

/-- In every run in which a daemon asks for a session only while no offer is on its
way and, for its client, only if it has none, the sessions of the two daemons
agree. -/
theorem sessions_agree (sodium : Sodium) {identities : Side → ChatIdentity}
    {contacts : Side → ContactsDb} {events : List SignalEvent}
    (hnames : ∀ side, chatUsernameIsValid (identities side).username = true)
    (horderly : Transition.Guarded (signalStep sodium) Orderly
      (initialPair identities contacts) events) :
    SessionsAgree (Transition.run (signalStep sodium) (initialPair identities contacts)
      events) := by
  have hstep : ∀ (pair : Pair) (event : SignalEvent), Orderly pair event →
      ((∀ side, (pair side).identity = identities side) ∧
        OpeningPhase (openingOf pair)) →
      (∀ side, (signalStep sodium pair event side).identity = identities side) ∧
        OpeningPhase (openingOf (signalStep sodium pair event)) := by
    rintro pair event hevent ⟨hsame, hphase⟩
    refine ⟨fun side => (identity_signalStep sodium pair event side).trans (hsame side), ?_⟩
    have hvalid (side : Side) :
        chatUsernameIsValid (pair side).identity.username = true := by
      rw [hsame side]
      exact hnames side
    exact phase_steps two_sides (steps_signalStep sodium hvalid hevent hphase) hphase
  have hstart : (∀ side, (initialPair identities contacts side).identity =
        identities side) ∧ OpeningPhase (openingOf (initialPair identities contacts)) := by
    have hnone (side : Side) :
        (openingOf (initialPair identities contacts)).session side = none := rfl
    refine ⟨fun _ => rfl, .idle (fun side => ?_) fun first _ _ left hleft => ?_⟩
    · show [([] : Str)].filterMap offerOf = []
      simp [offerOf_nil]
    · exact nomatch (hnone first).symm.trans hleft
  obtain ⟨_, hphase⟩ := Transition.invariant_run hstep hstart horderly
  exact sessionsAgree_of_agreed (hphase.agreed two_sides)

/-- Alice on the left and Bob on the right. -/
def callers : Side → ChatIdentity
  | .left => alice
  | .right => bob

/-- Each daemon draws its own random values. -/
def callerEnv : Side → Env
  | .left => Env.smooth 1 1
  | .right => Env.smooth 1 2

def callerAct (side : Side) (event : ChatdEvent) : SignalEvent :=
  .act side (callerEnv side) event

/-- A daemon logs in; the server keeps the three messages of the login. -/
def logsIn (side : Side) : List SignalEvent :=
  (login (Transparent.repeated 32 9)).map (callerAct side) ++
    List.replicate 3 (.refuse side)

/-- The user of a daemon opens a chat with the other user. -/
def opensChat (side : Side) : List SignalEvent :=
  [callerAct side (openChat 7 (callers side.other).username),
    callerAct side (.control (.writeable true))]

/-- A daemon gets the next message of the other one and sends its answer. -/
def getsMessage (side : Side) : List SignalEvent :=
  [.relay side (callerEnv side), callerAct side (.control (.writeable true))]

/-- Alice opens a chat with Bob. -/
def aliceOpensChat : List SignalEvent :=
  logsIn .left ++ logsIn .right ++ opensChat .left ++ getsMessage .right ++
    getsMessage .left

theorem sessions_agree_aliceOpensChat :
    let pair := Transition.run (signalStep Transparent.sodium)
      (initialPair callers fun _ => none) aliceOpensChat
    Settled pair .left ∧ Settled pair .right ∧ SessionsAgree pair := by
  have hrun : Transition.Guarded (signalStep Transparent.sodium) Orderly
        (initialPair callers fun _ => none) aliceOpensChat ∧
      (let pair := Transition.run (signalStep Transparent.sodium)
        (initialPair callers fun _ => none) aliceOpensChat
      Settled pair .left ∧ Settled pair .right) ∧
      chatUsernameIsValid alice.username = true ∧
      chatUsernameIsValid bob.username = true := by
    decide +kernel
  obtain ⟨horderly, ⟨hleft, hright⟩, halice, hbob⟩ := hrun
  refine ⟨hleft, hright, sessions_agree Transparent.sodium (fun side => ?_) horderly⟩
  cases side with
  | left => exact halice
  | right => exact hbob

/-- Alice and Bob open a chat with each other at the same time. -/
def chatsCross : List SignalEvent :=
  logsIn .left ++ logsIn .right ++ opensChat .left ++ opensChat .right ++
    getsMessage .right ++ getsMessage .left ++ getsMessage .left ++ getsMessage .right

/-- Both answer the request of the other one as the responder; the answers name the
sessions that were asked for and are ignored. -/
theorem crossing_sessions_disagree :
    let pair := Transition.run (signalStep Transparent.sodium)
      (initialPair callers fun _ => none) chatsCross
    Settled pair .left ∧ Settled pair .right ∧ ¬ SessionsAgree pair := by
  decide +kernel

end ProntoChat.Relay
