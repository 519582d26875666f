import ProntoChat.Relay.Messages
import ProntoChat.Server.Login

/-!
# Forwarded messages

The server checks a signalling message and passes on its bytes; the daemon of
the receiver reads them again.  Whatever the bytes are, both read the same
sender, receiver, type and key, so an offer that a daemon acts on names an
authenticated sender and carries the key registered for it.
-/

namespace ProntoChat.Relay

open ProntoChat.QuotedText
open ProntoChat.Protocole
open ProntoChat.Json
open ProntoChat.Daemon (Env ChatdState ChatOffer parseChatOffer validChatRequest
  matchingChatAccept callbackChatdControl handleReceive alice bob offerJson)
open ProntoChat.Server

/-! ## What the server checked -/

/-- What the server established about a message before it passed it on. -/
structure Checked (users : ChatServerUsers) (sender : ChatServerSession)
    (receiver json : Str) : Prop where
  authenticated : sender.authenticated = true
  readSender : jsonGetString json .from Server.usernameSize = some sender.username
  readReceiver : jsonGetString json .to Server.usernameSize = some receiver
  readType : ∃ type, jsonType json = some type ∧ signalingTypeIsSupported type = true
  readKey : jsonType json = some .chatRequest ∨ jsonType json = some .chatAccept →
    ∃ publicKeyHex publicKey,
      jsonGetString json .publicKey chatServerHexPublicKeyLen =
        some publicKeyHex ∧
      hexToBin 32 publicKeyHex = some publicKey ∧
      registeredKey users sender.username = some publicKey

theorem parseSignaling_some {json sender receiver : Str}
    (hparse : parseSignaling json = some (sender, receiver)) :
    jsonGetString json .from Server.usernameSize = some sender ∧
      jsonGetString json .to Server.usernameSize = some receiver := by
  unfold parseSignaling at hparse
  split at hparse
  · rename_i from' to' sessionId hfrom hto _
    split_ifs at hparse
    rw [Option.some.injEq, Prod.mk.injEq] at hparse
    rw [hfrom, hto, hparse.1, hparse.2]
    exact ⟨rfl, rfl⟩
  · simp at hparse

theorem checkPublicKey_ok {type : ControlType} {json : Str} {user : ChatServerUser}
    (hcheck : checkPublicKey type json user = .ok ())
    (htype : type = .chatRequest ∨ type = .chatAccept) :
    ∃ publicKeyHex, jsonGetString json .publicKey chatServerHexPublicKeyLen =
        some publicKeyHex ∧
      hexToBin 32 publicKeyHex = some user.identityPk := by
  rw [checkPublicKey, if_pos htype] at hcheck
  split at hcheck
  · simp at hcheck
  · rename_i publicKey hread
    split_ifs at hcheck with hsame
    obtain ⟨publicKeyHex, hhex, hbin⟩ := Option.bind_eq_some_iff.mp hread
    exact ⟨publicKeyHex, hhex, hsame ▸ hbin⟩

theorem checked_of_forwardTarget {state : ChatServerState}
    {session : ChatServerSession} {json receiver : Str} {target : ℕ}
    (hforward : forwardTarget state session json = some (receiver, target)) :
    Checked state.users session receiver json := by
  obtain ⟨type, _, htype, hsupported, hcheck, _, _⟩ := forwardTarget_some hforward
  obtain ⟨hauthenticated, hparse, user, hfind, hkey⟩ := checkSignaling_ok hcheck
  obtain ⟨hsender, hreceiver⟩ := parseSignaling_some hparse
  refine ⟨hauthenticated, hsender, hreceiver, ⟨type, htype, hsupported⟩, ?_⟩
  intro hoffer
  rw [htype, Option.some.injEq, Option.some.injEq] at hoffer
  obtain ⟨publicKeyHex, hhex, hbin⟩ := checkPublicKey_ok hkey hoffer
  exact ⟨publicKeyHex, user.identityPk, hhex, hbin, by
    rw [registeredKey, hfind, Option.map_some]⟩

/-! ## What the daemon reads -/

theorem parseChatOffer_some {json : Str} {offer : ChatOffer}
    (hparse : parseChatOffer json = some offer) :
    jsonGetString json .from Daemon.usernameSize = some offer.sender ∧
      jsonGetString json .to Daemon.usernameSize = some offer.receiver ∧
      ∃ publicKeyHex, jsonGetString json .publicKey Daemon.chatdHexPublicKeyLen =
          some publicKeyHex ∧
        hexToBin 32 publicKeyHex = some offer.identityPk := by
  unfold parseChatOffer at hparse
  split at hparse
  · rename_i publicKeyHex hfrom hto _ hkey
    obtain ⟨identityPk, hbin, rfl⟩ := Option.map_eq_some_iff.mp hparse
    exact ⟨hfrom, hto, publicKeyHex, hkey, hbin⟩
  · simp at hparse

/-- An offer that was checked names its sender and carries its registered
key. -/
theorem Checked.offer {users : ChatServerUsers} {sender : ChatServerSession}
    {receiver json : Str} {offer : ChatOffer}
    (hchecked : Checked users sender receiver json)
    (htype : jsonType json = some .chatRequest ∨ jsonType json = some .chatAccept)
    (hparse : parseChatOffer json = some offer) :
    offer.sender = sender.username ∧ offer.receiver = receiver ∧
      registeredKey users offer.sender = some offer.identityPk := by
  obtain ⟨hfrom, hto, publicKeyHex, hhex, hbin⟩ := parseChatOffer_some hparse
  obtain ⟨checkedHex, publicKey, hread, hdecode, hkey⟩ := hchecked.readKey htype
  have hsender : sender.username = offer.sender :=
    Option.some.inj (hchecked.readSender.symm.trans hfrom)
  have hreceiver : receiver = offer.receiver :=
    Option.some.inj (hchecked.readReceiver.symm.trans hto)
  obtain rfl : checkedHex = publicKeyHex := Option.some.inj (hread.symm.trans hhex)
  obtain rfl : publicKey = offer.identityPk :=
    Option.some.inj (hdecode.symm.trans hbin)
  exact ⟨hsender.symm, hreceiver.symm, hsender ▸ hkey⟩

theorem parseChatOffer_of_validChatRequest {daemon : ChatdState} {json : Str}
    {offer : ChatOffer} (hvalid : validChatRequest daemon json = some offer) :
    parseChatOffer json = some offer := by
  unfold validChatRequest at hvalid
  split at hvalid
  · simp at hvalid
  · rename_i parsed hparse
    split_ifs at hvalid
    rw [hparse, hvalid]

theorem parseChatOffer_of_matchingChatAccept {daemon : ChatdState} {json : Str}
    {offer : ChatOffer} (hmatching : matchingChatAccept daemon json = some offer) :
    parseChatOffer json = some offer := by
  unfold matchingChatAccept at hmatching
  split at hmatching
  · simp at hmatching
  · rename_i parsed hparse
    split_ifs at hmatching
    rw [hparse, hmatching]

/-! ## Replies carry no signalling type -/

/-- The buffer holds a reply that is no signalling message. -/
def Answered (state : ChatServerState) (wsi : ℕ) : Prop :=
  ∃ reply, state.held wsi = some reply ∧
    ∀ type, jsonType reply = some type → signalingTypeIsSupported type = false

theorem answered_of_plainReply {state : ChatServerState} {wsi : ℕ}
    (hreply : PlainReply state wsi) : Answered state wsi := by
  obtain ⟨reply, hheld, htypes⟩ := hreply
  refine ⟨reply, hheld, fun type htype => ?_⟩
  rw [htype] at htypes
  revert htypes
  cases type <;> decide

section Handlers

variable {sodium : Sodium} {state : ChatServerState} {wsi : ℕ}
  {session : ChatServerSession} {json : Str}

theorem answered_handleUserLookup :
    Answered (handleUserLookup state wsi session json).1 wsi := by
  unfold handleUserLookup
  split_ifs
  · exact answered_of_plainReply (plainReply_sendError _)
  · split
    · exact answered_of_plainReply (plainReply_sendError _)
    · rename_i username hparse
      have hvalid : chatUsernameIsValid username = true :=
        (Option.filter_eq_some_iff.mp hparse).2
      simp only
      generalize chatServerUsersFind state.users username = status
      have hlength : (userStatusJson username status).length <
          if status.isSome then 320 else 160 := length_userStatusJson hvalid
      have hsmall : ¬ chatServerMaxJsonSize ≤
          (userStatusJson username status).length := by
        unfold chatServerMaxJsonSize
        split_ifs at hlength <;> omega
      have hsome : userStatusJson username status ≠ [] := by
        rw [userStatusJson_eq]
        simp
      refine ⟨userStatusJson username status, ?_, ?_⟩
      · simp [sendFormatted, not_le.mpr hlength, sendJson, hsmall,
          ChatServerState.held, ChatServerState.setSession, hsome]
      · intro type htype
        rw [jsonType_userStatusJson] at htype
        obtain rfl := Option.some.inj htype
        rfl

theorem answered_handleMessage (challenge : Bytes 32)
    (hstays : forwardTarget state session json = none) :
    Answered (handleMessage sodium state wsi session json challenge).1 wsi := by
  unfold handleMessage
  split
  · exact answered_of_plainReply (plainReply_sendError _)
  · rename_i name hname
    split
    · exact answered_of_plainReply plainReply_handleRegister
    · exact answered_of_plainReply (plainReply_handleHello challenge)
    · exact answered_of_plainReply plainReply_handleAuthResponse
    · exact answered_handleUserLookup
    · rename_i type _ _ _ _ htype
      split_ifs with hsupported
      · have hjson : jsonType json = some type := by
          rw [jsonType, hname, Option.bind_some, htype]
        obtain ⟨code, hrefused⟩ :=
          handleSignalingForward_refused hjson hsupported hstays
        rw [hrefused]
        exact answered_of_plainReply (plainReply_sendError code)
      · exact answered_of_plainReply (plainReply_sendError _)
    · exact answered_of_plainReply (plainReply_sendError _)

end Handlers

/-! ## Delivered messages -/

/-- The message came from an authenticated sender and was checked. -/
def Sent (sodium : Sodium) (events : List ServerEvent) (json : Str) : Prop :=
  ∃ before event after sender receiver, events = before ++ event :: after ∧
    (Transition.run (serverStep sodium) {} before).sessions event.wsi =
      some sender ∧
    event.message = some json ∧
    Checked (Transition.run (serverStep sodium) {} before).users sender receiver json

/-- Every signalling message that was written or waits in a buffer was sent. -/
def Genuine (sodium : Sodium) (events : List ServerEvent) (state : ChatServerState) :
    Prop :=
  ∀ wsi json, json ∈ state.written wsi ∨ state.held wsi = some json →
    ∀ type, jsonType json = some type → signalingTypeIsSupported type = true →
      Sent sodium events json

theorem Sent.append {sodium : Sodium} {events : List ServerEvent} {json : Str}
    (hsent : Sent sodium events json) (event : ServerEvent) :
    Sent sodium (events ++ [event]) json := by
  obtain ⟨before, first, after, sender, receiver, rfl, hfacts⟩ := hsent
  exact ⟨before, first, after ++ [event], sender, receiver, by simp, hfacts⟩

/-- A reply puts no signalling message into a buffer. -/
theorem held_of_replied {state next : ChatServerState} {own wsi : ℕ} {json : Str}
    (hreplied : Replied own state next) (hanswered : Answered next own)
    (hheld : next.held wsi = some json) :
    state.held wsi = some json ∨
      ∀ type, jsonType json = some type → signalingTypeIsSupported type = false := by
  by_cases hown : wsi = own
  · subst hown
    obtain ⟨reply, hreply, htype⟩ := hanswered
    obtain rfl := Option.some.inj (hheld.symm.trans hreply)
    exact Or.inr htype
  · rw [held_congr (hreplied.sessions wsi hown)] at hheld
    exact Or.inl hheld

theorem held_of_passOn {state : ChatServerState} {receiver message : Str}
    {target wsi : ℕ} {json : Str}
    (hheld : (passOn state receiver target message).1.held wsi = some json) :
    state.held wsi = some json ∨ json = message := by
  by_cases htarget : wsi = target
  · subst htarget
    unfold passOn at hheld
    split at hheld
    · exact Or.inl hheld
    · rename_i session hopen
      unfold sendJson at hheld
      split_ifs at hheld
      · exact Or.inl hheld
      · obtain ⟨found, hfound, rfl, _⟩ := held_some hheld
        simp only [ChatServerState.setSession, Function.update_self,
          Option.some.injEq] at hfound
        rw [← hfound]
        exact Or.inr rfl
  · rw [held_congr (passOn_sessions state receiver message htarget)] at hheld
    exact Or.inl hheld

theorem held_receive (sodium : Sodium) {state : ChatServerState} {own wsi : ℕ}
    {session : ChatServerSession} {json : Str} {payload : List UInt8} {whole : Bool}
    {challenge : Bytes 32} (hsession : state.sessions own = some session)
    (hheld : (serverStep sodium state
      (.receive own payload whole challenge)).held wsi = some json) :
    state.held wsi = some json ∨
    (∀ type, jsonType json = some type → signalingTypeIsSupported type = false) ∨
    ∃ receiver, (ServerEvent.receive own payload whole challenge).message =
        some json ∧
      Checked state.users session receiver json := by
  rw [serverStep_open sodium hsession] at hheld
  simp only [callbackChatControl] at hheld
  split_ifs at hheld with hmalformed
  · have hold := held_of_replied (replied_sendError state own session _)
      (answered_of_plainReply (plainReply_sendError _)) hheld
    exact hold.imp_right Or.inl
  · cases hforward : forwardTarget state session (cString payload) with
    | none =>
        have hold := held_of_replied (replied_handleMessage challenge hforward)
          (answered_handleMessage challenge hforward) hheld
        exact hold.imp_right Or.inl
    | some target =>
        rw [handleMessage_passOn own challenge hforward] at hheld
        rcases held_of_passOn hheld with hold | rfl
        · exact Or.inl hold
        · exact Or.inr (Or.inr ⟨target.1, if_neg hmalformed,
            checked_of_forwardTarget hforward⟩)

/-- A message that is new in a buffer was passed on, unless it answers a message
of the same connection. -/
theorem held_next (sodium : Sodium) {state : ChatServerState} {event : ServerEvent}
    {wsi : ℕ} {json : Str}
    (hother : ∀ payload whole challenge, event ≠ .receive wsi payload whole challenge)
    (hheld : (serverStep sodium state event).held wsi = some json) :
    state.held wsi = some json ∨
    ∃ sender receiver, state.sessions event.wsi = some sender ∧
      event.message = some json ∧ Checked state.users sender receiver json := by
  -- a session whose buffer is empty holds nothing
  have hempty {own : ℕ} {session : ChatServerSession}
      (hpending : session.pending = [])
      (hheld : (state.setSession own session).held wsi = some json) :
      state.held wsi = some json := by
    by_cases hown : wsi = own
    · subst hown
      simp [ChatServerState.held, ChatServerState.setSession, hpending] at hheld
    · rwa [held_congr (Function.update_of_ne hown _ _)] at hheld
  cases hsession : state.sessions event.wsi with
  | none =>
      left
      rcases serverStep_closed sodium hsession with hstep | hstep
      · rwa [hstep] at hheld
      · rw [hstep] at hheld
        exact hempty rfl hheld
  | some session =>
      cases event with
      | receive own payload whole challenge =>
          change state.sessions own = some session at hsession
          have hown : wsi ≠ own := by
            rintro rfl
            exact hother payload whole challenge rfl
          rcases receive_cases sodium payload whole challenge hsession with
            ⟨_, hreplied⟩ | ⟨message, receiver, target, hmessage, hforward, hpass⟩
          · rw [held_congr (hreplied.sessions wsi hown)] at hheld
            exact Or.inl hheld
          · rw [hpass] at hheld
            rcases held_of_passOn hheld with hold | rfl
            · exact Or.inl hold
            · exact Or.inr ⟨session, receiver, rfl, hmessage,
                checked_of_forwardTarget hforward⟩
      | established own =>
          rw [serverStep_open sodium hsession] at hheld
          exact Or.inl hheld
      | writeable own written =>
          rw [serverStep_open sodium hsession] at hheld
          simp only [callbackChatControl] at hheld
          split_ifs at hheld
          · exact Or.inl hheld
          · exact Or.inl hheld
          · exact Or.inl (hempty rfl hheld)
      | closed own =>
          rw [serverStep_open sodium hsession] at hheld
          left
          by_cases hown : wsi = own
          · subst hown
            simp [callbackChatControl, closeSession, ChatServerState.held] at hheld
          · have hsame : (closeSession state own session).sessions wsi =
                state.sessions wsi := Function.update_of_ne hown _ _
            rwa [← held_congr hsame]

/-- A message that is new in a buffer is a reply or was passed on. -/
theorem held_step (sodium : Sodium) {state : ChatServerState} {event : ServerEvent}
    {wsi : ℕ} {json : Str}
    (hheld : (serverStep sodium state event).held wsi = some json) :
    state.held wsi = some json ∨
    (∀ type, jsonType json = some type → signalingTypeIsSupported type = false) ∨
    ∃ sender receiver, state.sessions event.wsi = some sender ∧
      event.message = some json ∧ Checked state.users sender receiver json := by
  by_cases hown : ∃ payload whole challenge,
      event = .receive wsi payload whole challenge
  · obtain ⟨payload, whole, challenge, rfl⟩ := hown
    cases hsession : state.sessions wsi with
    | none =>
        left
        simpa [serverStep, ServerEvent.wsi, hsession] using hheld
    | some session =>
        rcases held_receive sodium hsession hheld with
          hold | htype | ⟨receiver, hmessage, hchecked⟩
        · exact Or.inl hold
        · exact Or.inr (Or.inl htype)
        · exact Or.inr (Or.inr ⟨session, receiver, hsession, hmessage, hchecked⟩)
  · simp only [not_exists] at hown
    exact (held_next sodium hown hheld).imp_right Or.inr

/-- A message that is written stood in the buffer. -/
theorem written_step (sodium : Sodium) {state : ChatServerState}
    {event : ServerEvent} {wsi : ℕ} {json : Str}
    (hwritten : json ∈ (serverStep sodium state event).written wsi) :
    json ∈ state.written wsi ∨ state.held wsi = some json := by
  cases hheld : state.held wsi with
  | none =>
      rw [serverStep_written sodium fun _ => hheld] at hwritten
      exact Or.inl hwritten
  | some pending =>
      by_cases hwrite : event = .writeable wsi true
      · rw [hwrite, serverStep_writeable sodium hheld, List.mem_append,
          List.mem_singleton] at hwritten
        exact hwritten.imp_right fun hsame => by rw [hsame]
      · rw [serverStep_written sodium fun htakes => absurd htakes hwrite] at hwritten
        exact Or.inl hwritten

/-- In every run, the signalling messages in the buffers and on the wire come
from authenticated senders and were checked. -/
theorem genuine_run (sodium : Sodium) (events : List ServerEvent) :
    Genuine sodium events (Transition.run (serverStep sodium) {} events) := by
  refine Transition.history_run (fun wsi json hnone => ?_) ?_ events
  · rcases hnone with hwritten | hheld
    · exact absurd hwritten List.not_mem_nil
    · exact absurd hheld (by simp [ChatServerState.held])
  intro events event hgenuine wsi json hjson type htype hsupported
  have hbefore (hold : json ∈ (Transition.run (serverStep sodium) {} events).written
      wsi ∨ (Transition.run (serverStep sodium) {} events).held wsi = some json) :
      Sent sodium (events ++ [event]) json :=
    (hgenuine wsi json hold type htype hsupported).append event
  rcases hjson with hwritten | hheld
  · exact hbefore (written_step sodium hwritten)
  · rcases held_step sodium hheld with
      hold | hreply | ⟨sender, receiver, hsender, hmessage, hchecked⟩
    · exact hbefore (Or.inr hold)
    · rw [hreply type htype] at hsupported
      exact absurd hsupported (by decide)
    · exact ⟨events, event, [], sender, receiver, rfl, hsender, hmessage, hchecked⟩

/-- A relayed message was checked. -/
theorem checked_of_relayed (sodium : Sodium) {state : ChatServerState}
    {event : ServerEvent} {receiver : Str} {target : ℕ}
    {session : ChatServerSession} {json : Str}
    (hlog : (serverStep sodium state event).log =
      state.log ++ [.relayed receiver target session json]) :
    ∃ sender, state.sessions event.wsi = some sender ∧
      Checked state.users sender receiver json := by
  rcases serverStep_log sodium state event with
    hsame | ⟨sender, message, name, wsi, hsender, hmessage, hforward, hpass⟩
  · rw [hsame] at hlog
    simp at hlog
  · refine ⟨sender, hsender, ?_⟩
    have hentry : (passOn state name wsi message).1.log =
        state.log ++ [.relayed receiver target session json] := hpass ▸ hlog
    obtain ⟨rfl, rfl⟩ : name = receiver ∧ message = json := by
      unfold passOn at hentry
      split at hentry
      · simp [ChatServerState.emit] at hentry
      · rw [(replied_sendJson _ _ _ _).log] at hentry
        simp only [ChatServerState.emit, List.append_cancel_left_eq, List.cons.injEq,
          and_true, ServerEffect.relayed.injEq] at hentry
        exact ⟨hentry.1, hentry.2.2.2⟩
    exact checked_of_forwardTarget hforward

/-- The daemon handles a message that the server passed on as it is. -/
theorem callback_of_message (sodium : Sodium) (env : Env) (daemon : ChatdState)
    {event : ServerEvent} {json : Str} (hmessage : event.message = some json) :
    callbackChatdControl sodium env daemon (.receive json true) =
      handleReceive sodium env daemon json := by
  have hlength : ¬ (Daemon.chatdMaxJsonSize ≤ json.length ∨ true = false) := by
    have := length_message hmessage
    simpa [Daemon.chatdMaxJsonSize, chatServerMaxJsonSize] using this
  have hstring : cString json = json := by
    cases event with
    | receive wsi payload whole challenge =>
        simp only [ServerEvent.message] at hmessage
        split_ifs at hmessage
        rw [← Option.some.inj hmessage, cString, cString, List.takeWhile_idem]
    | _ => simp [ServerEvent.message] at hmessage
  simp only [callbackChatdControl, if_neg hlength, hstring]

/-- In every run of the server, a relayed message is the text of the received
bytes, its sender is authenticated, and the daemon of the receiver handles that
text and reads in it the type, sender, receiver and key that the server checked.
Every offer that a daemon acts on after it was written by the server came from a
connection authenticated as its sender, and its key is the registered one. -/
theorem forwarded_as_checked (sodium : Sodium) (events : List ServerEvent) :
    let state := Transition.run (serverStep sodium) {} events
    (∀ event receiver target session json,
      (serverStep sodium state event).log =
        state.log ++ [.relayed receiver target session json] →
      ∃ sender payload whole challenge,
        event = .receive event.wsi payload whole challenge ∧
        json = cString payload ∧
        (serverStep sodium state event).held target = some json ∧
        state.sessions event.wsi = some sender ∧ sender.authenticated = true ∧
        (∀ env daemon, callbackChatdControl sodium env daemon (.receive json true) =
          handleReceive sodium env daemon json) ∧
        (∃ type, jsonType json = some type ∧
          signalingTypeIsSupported type = true) ∧
        jsonGetString json .from Daemon.usernameSize = some sender.username ∧
        jsonGetString json .to Daemon.usernameSize = some receiver ∧
        (jsonType json = some .chatRequest ∨ jsonType json = some .chatAccept →
          ∃ publicKeyHex publicKey,
            jsonGetString json .publicKey Daemon.chatdHexPublicKeyLen =
              some publicKeyHex ∧
            hexToBin 32 publicKeyHex = some publicKey ∧
            registeredKey state.users sender.username = some publicKey)) ∧
    ∀ wsi json, json ∈ state.written wsi → ∀ daemon offer,
      (jsonType json = some .chatRequest ∧
          validChatRequest daemon json = some offer ∨
        jsonType json = some .chatAccept ∧
          matchingChatAccept daemon json = some offer) →
      ∃ before event after sender, events = before ++ event :: after ∧
        (Transition.run (serverStep sodium) {} before).sessions event.wsi =
          some sender ∧
        event.message = some json ∧ sender.authenticated = true ∧
        sender.username = offer.sender ∧
        registeredKey state.users offer.sender = some offer.identityPk := by
  intro state
  refine ⟨?_, ?_⟩
  · intro event receiver target session json hlog
    obtain ⟨hmessage, _, hheld⟩ := relayed_held sodium hlog
    obtain ⟨sender, hsender, hchecked⟩ := checked_of_relayed sodium hlog
    cases event with
    | receive wsi payload whole challenge =>
        have hjson : json = cString payload := by
          simp only [ServerEvent.message] at hmessage
          split_ifs at hmessage
          exact (Option.some.inj hmessage).symm
        exact ⟨sender, payload, whole, challenge, rfl, hjson, hheld, hsender,
          hchecked.authenticated,
          fun env daemon => callback_of_message sodium env daemon hmessage,
          hchecked.readType, hchecked.readSender, hchecked.readReceiver,
          hchecked.readKey⟩
    | _ => simp [ServerEvent.message] at hmessage
  · intro wsi json hwritten daemon offer hoffer
    obtain ⟨htype, hparse⟩ : (jsonType json = some .chatRequest ∨
        jsonType json = some .chatAccept) ∧ parseChatOffer json = some offer := by
      rcases hoffer with ⟨htype, hvalid⟩ | ⟨htype, hmatching⟩
      · exact ⟨Or.inl htype, parseChatOffer_of_validChatRequest hvalid⟩
      · exact ⟨Or.inr htype, parseChatOffer_of_matchingChatAccept hmatching⟩
    have hsent : Sent sodium events json := by
      have hgenuine := genuine_run sodium events wsi json (Or.inl hwritten)
      rcases htype with hrequest | haccept
      · exact hgenuine _ hrequest rfl
      · exact hgenuine _ haccept rfl
    obtain ⟨before, event, after, sender, receiver, rfl, hsender, hmessage,
      hchecked⟩ := hsent
    obtain ⟨hname, _, hkey⟩ := hchecked.offer htype hparse
    refine ⟨before, event, after, sender, rfl, hsender, hmessage,
      hchecked.authenticated, hname.symm, ?_⟩
    refine registeredKey_of_prefix hkey ?_
    simp only [state, Transition.run_append]
    exact directory_run sodium _ _

/-- Bob's request is written to Alice's connection. -/
def requestWritten : List ServerEvent :=
  promptLogins ++ [bobAsksAlice, .writeable 1 true]

/-- The request that Alice's daemon acts on comes from Bob's connection and
carries Bob's key. -/
theorem forwarded_as_checked_bob :
    ∃ offer, validChatRequest (Daemon.initialState alice none)
        (offerJson .chatRequest bob alice.username (bytes "ca11")) = some offer ∧
      registeredKey (Transition.run (serverStep Transparent.sodium) {}
        requestWritten).users offer.sender = some offer.identityPk := by
  have hfacts : offerJson .chatRequest bob alice.username (bytes "ca11") ∈
        (Transition.run (serverStep Transparent.sodium) {}
          requestWritten).written 1 ∧
      jsonType (offerJson .chatRequest bob alice.username (bytes "ca11")) =
        some .chatRequest ∧
      validChatRequest (Daemon.initialState alice none)
        (offerJson .chatRequest bob alice.username (bytes "ca11")) =
        some ⟨bob.username, alice.username, bytes "ca11", bob.publicKey⟩ := by
    decide +kernel
  have hdelivered := (forwarded_as_checked Transparent.sodium requestWritten).2
  generalize Transition.run (serverStep Transparent.sodium) {} requestWritten =
    state at hfacts hdelivered ⊢
  generalize offerJson .chatRequest bob alice.username (bytes "ca11") = request
    at hfacts ⊢
  obtain ⟨hwritten, htype, hoffer⟩ := hfacts
  obtain ⟨_, _, _, _, _, _, _, _, _, hkey⟩ :=
    hdelivered 1 request hwritten _ _ (Or.inl ⟨htype, hoffer⟩)
  exact ⟨_, hoffer, hkey⟩

end ProntoChat.Relay
