import ProntoChat.Server.Presence

/-!
# Delivery of relayed messages

Every connection has one buffer, which is filled by the messages of other users
and by the replies to its own messages.  Only the first look whether the buffer
is free.  A reply to a connection with a full buffer loses the message in it; no
other event does.
-/

namespace ProntoChat.Server

open ProntoChat.QuotedText
open ProntoChat.Protocole
open ProntoChat.Json
open ProntoChat.Daemon (alice bob offerJson)

/-! ## Messages that are passed on -/

/-- The receiver of a message that is passed on, and its connection. -/
def forwardTarget (state : ChatServerState) (session : ChatServerSession)
    (json : Str) : Option (Str × ℕ) :=
  match jsonType json with
  | none => none
  | some type =>
      if signalingTypeIsSupported type = false then none
      else
        match checkSignaling state session json type with
        | .error _ => none
        | .ok receiver =>
            match onlineTarget state receiver with
            | none => none
            | some (_, target) =>
                if (state.sessions target).all (fun session => session.pending = [])
                then some (receiver, target)
                else none

/-- The message goes to the connection of the receiver. -/
def passOn (state : ChatServerState) (receiver : Str) (target : ℕ) (json : Str) :
    Outcome :=
  match state.sessions target with
  | none => (state.emit (.dangling receiver target), true)
  | some session =>
      sendJson (state.emit (.relayed receiver target session json)) target session
        json

/-- A handler that answers the connection of its message. -/
structure Replied (wsi : ℕ) (state next : ChatServerState) : Prop where
  sessions : ∀ other ≠ wsi, next.sessions other = state.sessions other
  written : next.written = state.written
  log : next.log = state.log

theorem Replied.refl (wsi : ℕ) (state : ChatServerState) :
    Replied wsi state state :=
  ⟨fun _ _ => rfl, rfl, rfl⟩

theorem Replied.trans {wsi : ℕ} {state middle next : ChatServerState}
    (hfirst : Replied wsi state middle) (hsecond : Replied wsi middle next) :
    Replied wsi state next where
  sessions other hother :=
    (hsecond.sessions other hother).trans (hfirst.sessions other hother)
  written := hsecond.written.trans hfirst.written
  log := hsecond.log.trans hfirst.log

theorem replied_setSession (state : ChatServerState) (wsi : ℕ)
    (session : ChatServerSession) : Replied wsi state (state.setSession wsi session) :=
  ⟨fun _ hother => Function.update_of_ne hother _ _, rfl, rfl⟩

theorem replied_setUsers (state : ChatServerState) (wsi : ℕ)
    (users : ChatServerUsers) : Replied wsi state (state.setUsers users) :=
  ⟨fun _ _ => rfl, rfl, rfl⟩

theorem replied_sendJson (state : ChatServerState) (wsi : ℕ)
    (session : ChatServerSession) (json : Str) :
    Replied wsi state (sendJson state wsi session json).1 := by
  unfold sendJson
  split_ifs
  · exact Replied.refl wsi state
  · exact replied_setSession state wsi _

theorem replied_sendFormatted (state : ChatServerState) (wsi : ℕ)
    (session : ChatServerSession) (size : ℕ) (json : Str) :
    Replied wsi state (sendFormatted state wsi session size json).1 := by
  unfold sendFormatted
  split_ifs
  · exact Replied.refl wsi state
  · exact replied_sendJson state wsi session json

theorem replied_sendError (state : ChatServerState) (wsi : ℕ)
    (session : ChatServerSession) (code : ErrorCode) :
    Replied wsi state (sendError state wsi session code).1 :=
  replied_sendFormatted state wsi session 256 _

section Handlers

variable {sodium : Sodium} {state : ChatServerState} {wsi : ℕ}
  {session : ChatServerSession} {json : Str}

theorem replied_handleRegister :
    Replied wsi state (handleRegister state wsi session json).1 := by
  unfold handleRegister
  split
  · exact replied_sendError state wsi session _
  · split
    · exact (replied_setUsers state wsi _).trans (replied_sendJson _ wsi session _)
    · exact (replied_setUsers state wsi _).trans (replied_sendError _ wsi session _)

theorem replied_handleHello (challenge : Bytes 32) :
    Replied wsi state (handleHello state wsi session json challenge).1 := by
  unfold handleHello
  split
  · exact replied_sendError state wsi session _
  · split
    · exact replied_sendError state wsi session _
    · exact (replied_setSession state wsi _).trans
        (replied_sendFormatted _ wsi _ 192 _)

theorem replied_handleAuthResponse :
    Replied wsi state (handleAuthResponse sodium state wsi session json).1 := by
  unfold handleAuthResponse
  split_ifs
  · exact replied_sendError state wsi session _
  · split
    · exact replied_sendError state wsi session _
    · split
      · exact replied_sendError state wsi session _
      · split_ifs
        · exact replied_sendError state wsi session _
        · simp only
          split
          · exact ((replied_setUsers state wsi _).trans
              (replied_setSession _ wsi _)).trans (replied_sendJson _ wsi _ _)
          · exact ((replied_setUsers state wsi _).trans
              (replied_setSession _ wsi _)).trans (replied_sendError _ wsi _ _)

theorem replied_handleUserLookup :
    Replied wsi state (handleUserLookup state wsi session json).1 := by
  unfold handleUserLookup
  split_ifs
  · exact replied_sendError state wsi session _
  · split
    · exact replied_sendError state wsi session _
    · exact replied_sendFormatted state wsi session _ _

/-- A signalling message that is not passed on is answered with an error. -/
theorem handleSignalingForward_refused {type : ControlType}
    (htype : jsonType json = some type)
    (hsupported : signalingTypeIsSupported type = true)
    (hstays : forwardTarget state session json = none) :
    ∃ code, handleSignalingForward state wsi session json type =
      sendError state wsi session code := by
  simp only [forwardTarget, htype, hsupported, Bool.true_eq_false, if_false]
    at hstays
  unfold handleSignalingForward
  cases hcheck : checkSignaling state session json type with
  | error code => exact ⟨code, rfl⟩
  | ok receiver =>
      simp only [hcheck] at hstays
      simp only [forwardTo]
      cases htarget : onlineTarget state receiver with
      | none => exact ⟨.peerOffline, rfl⟩
      | some connection =>
          simp only [htarget] at hstays
          cases hopen : state.sessions connection.2 with
          | none => simp [hopen] at hstays
          | some targetSession =>
              have hfull : targetSession.pending ≠ [] := by
                intro hfree
                simp [hopen, hfree] at hstays
              simp only [hopen, if_pos hfull]
              exact ⟨.peerBusy, rfl⟩

theorem replied_handleMessage (challenge : Bytes 32)
    (hstays : forwardTarget state session json = none) :
    Replied wsi state (handleMessage sodium state wsi session json challenge).1 := by
  unfold handleMessage
  split
  · exact replied_sendError state wsi session _
  · rename_i name hname
    split
    · exact replied_handleRegister
    · exact replied_handleHello challenge
    · exact replied_handleAuthResponse
    · exact replied_handleUserLookup
    · rename_i type _ _ _ _ htype
      split_ifs with hsupported
      · have hjson : jsonType json = some type := by
          rw [jsonType, hname, Option.bind_some, htype]
        obtain ⟨code, hrefused⟩ :=
          handleSignalingForward_refused hjson hsupported hstays
        rw [hrefused]
        exact replied_sendError state wsi session code
      · exact replied_sendError state wsi session _
    · exact replied_sendError state wsi session _

/-- What the checks of `handle_signaling_forward` let through. -/
theorem forwardTarget_some {receiver : Str} {target : ℕ}
    (hforward : forwardTarget state session json = some (receiver, target)) :
    ∃ type wsi, jsonType json = some type ∧
      signalingTypeIsSupported type = true ∧
      checkSignaling state session json type = .ok receiver ∧
      onlineTarget state receiver = some (wsi, target) ∧
      ∀ targetSession, state.sessions target = some targetSession →
        targetSession.pending = [] := by
  unfold forwardTarget at hforward
  cases htype : jsonType json with
  | none => simp [htype] at hforward
  | some type =>
      simp only [htype] at hforward
      split_ifs at hforward with hsupported
      · cases hcheck : checkSignaling state session json type with
        | error code => simp [hcheck] at hforward
        | ok name =>
            simp only [hcheck] at hforward
            cases htarget : onlineTarget state name with
            | none => simp [htarget] at hforward
            | some connection =>
                simp only [htarget] at hforward
                split_ifs at hforward with hfree
                · rw [Option.some.injEq, Prod.mk.injEq] at hforward
                  obtain ⟨rfl, rfl⟩ := hforward
                  refine ⟨type, connection.1, rfl, ?_, hcheck, htarget, ?_⟩
                  · simpa using hsupported
                  · intro targetSession hopen
                    simpa [hopen] using hfree

theorem handleMessage_passOn (wsi : ℕ) (challenge : Bytes 32) {receiver : Str}
    {target : ℕ}
    (hforward : forwardTarget state session json = some (receiver, target)) :
    handleMessage sodium state wsi session json challenge =
      passOn state receiver target json := by
  obtain ⟨type, _, htype, hsupported, hcheck, htarget, hfree⟩ :=
    forwardTarget_some hforward
  obtain ⟨name, hname, hof⟩ := Option.bind_eq_some_iff.mp htype
  have hforwarded : handleSignalingForward state wsi session json type =
      passOn state receiver target json := by
    simp only [handleSignalingForward, hcheck, forwardTo, htarget, passOn]
    cases hopen : state.sessions target with
    | none => rfl
    | some targetSession =>
        simp only [hfree targetSession hopen, ne_eq, not_true_eq_false, if_false]
  rw [← hforwarded]
  cases type <;> first
    | exact absurd hsupported (by decide)
    | simp only [handleMessage, hname, hof, hsupported, if_true]

end Handlers

/-! ## Buffers -/

/-- The message in the buffer of a connection. -/
def ChatServerState.held (state : ChatServerState) (wsi : ℕ) : Option Str :=
  (state.sessions wsi).bind fun session =>
    if session.pending = [] then none else some session.pending

/-- The event makes the server reply to a connection whose buffer is full. -/
def overwrites (state : ChatServerState) (event : ServerEvent) : Bool :=
  match state.sessions event.wsi, event with
  | some session, .receive wsi payload whole challenge =>
      decide (session.pending ≠ []) &&
        ((ServerEvent.receive wsi payload whole challenge).message.bind
          (forwardTarget state session)).isNone
  | _, _ => false

/-- The buffer of a connection, emptied by complete writes. -/
def bufferSlot (wsi : ℕ) : Transition.Slot ChatServerState ServerEvent Str where
  held state := state.held wsi
  delivered state := state.written wsi
  takes event := event = .writeable wsi true
  discards event := event = .closed wsi

theorem held_some {state : ChatServerState} {wsi : ℕ} {json : Str}
    (hheld : state.held wsi = some json) :
    ∃ session, state.sessions wsi = some session ∧ session.pending = json ∧
      json ≠ [] := by
  obtain ⟨session, hopen, hpending⟩ := Option.bind_eq_some_iff.mp hheld
  split_ifs at hpending with hempty
  obtain rfl := Option.some.inj hpending
  exact ⟨session, hopen, rfl, hempty⟩

theorem held_congr {state next : ChatServerState} {wsi : ℕ}
    (hsessions : next.sessions wsi = state.sessions wsi) :
    next.held wsi = state.held wsi := by
  rw [ChatServerState.held, ChatServerState.held, hsessions]

/-- The message of a received event finds the buffer of its connection empty or
is passed on. -/
theorem receive_cases (sodium : Sodium) {state : ChatServerState} {wsi : ℕ}
    {session : ChatServerSession} (payload : List UInt8) (whole : Bool)
    (challenge : Bytes 32) (hopen : state.sessions wsi = some session) :
    let event := ServerEvent.receive wsi payload whole challenge
    ((session.pending = [] ∨ overwrites state event = true) ∧
      Replied wsi state (serverStep sodium state event)) ∨
    ∃ json receiver target, event.message = some json ∧
      forwardTarget state session json = some (receiver, target) ∧
      serverStep sodium state event = (passOn state receiver target json).1 := by
  intro event
  have hstep : serverStep sodium state event =
      (callbackChatControl sodium state session event).1 := by
    simp only [serverStep, event, ServerEvent.wsi, hopen]
  have hreply (hstays : (event.message.bind (forwardTarget state session)) = none) :
      session.pending = [] ∨ overwrites state event = true := by
    by_cases hempty : session.pending = []
    · exact Or.inl hempty
    · right
      simp only [overwrites, event, ServerEvent.wsi, hopen]
      simpa [hempty] using hstays
  rw [hstep]
  simp only [event, callbackChatControl]
  split_ifs with hmalformed
  · have hmessage : event.message = none := if_pos hmalformed
    exact Or.inl ⟨hreply (by rw [hmessage]; rfl), replied_sendError _ _ _ _⟩
  · have hmessage : event.message = some (cString payload) := if_neg hmalformed
    cases hforward : forwardTarget state session (cString payload) with
    | none =>
        refine Or.inl ⟨hreply ?_, replied_handleMessage challenge hforward⟩
        rw [hmessage, Option.bind_some, hforward]
    | some target =>
        refine Or.inr ⟨cString payload, target.1, target.2, hmessage, hforward, ?_⟩
        rw [handleMessage_passOn wsi challenge hforward]

theorem passOn_written (state : ChatServerState) (receiver : Str) (target : ℕ)
    (json : Str) : (passOn state receiver target json).1.written = state.written := by
  unfold passOn
  split
  · rfl
  · exact (replied_sendJson _ _ _ _).written

/-- A message that is passed on changes the buffer of its target only. -/
theorem passOn_sessions (state : ChatServerState) (receiver : Str) {target other : ℕ}
    (json : Str) (hother : other ≠ target) :
    (passOn state receiver target json).1.sessions other = state.sessions other := by
  unfold passOn
  split
  · rfl
  · exact (replied_sendJson _ _ _ _).sessions other hother

theorem serverStep_open (sodium : Sodium) {state : ChatServerState}
    {event : ServerEvent} {session : ChatServerSession}
    (hopen : state.sessions event.wsi = some session) :
    serverStep sodium state event =
      (callbackChatControl sodium state session event).1 := by
  simp only [serverStep, hopen]

theorem serverStep_closed (sodium : Sodium) {state : ChatServerState}
    {event : ServerEvent} (hclosed : state.sessions event.wsi = none) :
    serverStep sodium state event = state ∨
      serverStep sodium state event = state.setSession event.wsi {} := by
  cases event <;> simp_all [serverStep, ServerEvent.wsi]

/-- A complete write takes the message out of the buffer. -/
theorem serverStep_writeable (sodium : Sodium) {state : ChatServerState} {wsi : ℕ}
    {json : Str} (hheld : state.held wsi = some json) :
    (serverStep sodium state (.writeable wsi true)).written wsi =
      state.written wsi ++ [json] := by
  obtain ⟨session, hopen, rfl, hfull⟩ := held_some hheld
  rw [serverStep_open sodium hopen]
  simp [callbackChatControl, hfull]

/-- Every event but a complete write of a full buffer keeps what was written to
a connection. -/
theorem serverStep_written (sodium : Sodium) {state : ChatServerState} {wsi : ℕ}
    {event : ServerEvent}
    (hwrite : event = .writeable wsi true → state.held wsi = none) :
    (serverStep sodium state event).written wsi = state.written wsi := by
  cases hsession : state.sessions event.wsi with
  | none =>
      rcases serverStep_closed sodium hsession with hstep | hstep <;> rw [hstep]
      rfl
  | some session =>
      cases event with
      | established other => rw [serverStep_open sodium hsession]; rfl
      | receive other payload whole challenge =>
          change state.sessions other = some session at hsession
          rcases receive_cases sodium payload whole challenge hsession with
            ⟨_, hreplied⟩ | ⟨json, receiver, target, _, _, hpass⟩
          · rw [hreplied.written]
          · rw [hpass, passOn_written]
      | writeable other written =>
          rw [serverStep_open sodium hsession]
          simp only [callbackChatControl]
          split_ifs with hempty hwritten
          · rfl
          · rfl
          · rw [Bool.not_eq_false] at hwritten
            subst hwritten
            have hother : wsi ≠ other := by
              rintro rfl
              have hheld : state.sessions wsi = some session := hsession
              have hnone := hwrite rfl
              simp [ChatServerState.held, hheld, hempty] at hnone
            exact Function.update_of_ne hother _ _
      | closed other => rw [serverStep_open sodium hsession]; rfl

/-- A full buffer keeps its message while it is not written, its connection
stays open and no reply overwrites it. -/
theorem serverStep_held (sodium : Sodium) {state : ChatServerState} {wsi : ℕ}
    {event : ServerEvent} {json : Str} (hheld : state.held wsi = some json)
    (hreply : overwrites state event = false)
    (hwrite : event ≠ .writeable wsi true) (hclose : event ≠ .closed wsi) :
    (serverStep sodium state event).held wsi = some json := by
  obtain ⟨held, hown, hpending, hfull⟩ := held_some hheld
  rw [← hheld]
  cases hsession : state.sessions event.wsi with
  | none =>
      have hother : wsi ≠ event.wsi := by
        rintro rfl
        rw [hsession] at hown
        exact absurd hown (by simp)
      rcases serverStep_closed sodium hsession with hstep | hstep <;> rw [hstep]
      exact held_congr (Function.update_of_ne hother _ _)
  | some session =>
      cases event with
      | established other => rw [serverStep_open sodium hsession]; rfl
      | receive other payload whole challenge =>
          change state.sessions other = some session at hsession
          rcases receive_cases sodium payload whole challenge hsession with
            ⟨hempty, hreplied⟩ | ⟨message, receiver, target, _, hforward, hpass⟩
          · have hother : wsi ≠ other := by
              rintro rfl
              obtain rfl := Option.some.inj (hown.symm.trans hsession)
              rcases hempty with hempty | hoverwrites
              · exact hfull (hpending.symm.trans hempty)
              · rw [hreply] at hoverwrites
                exact absurd hoverwrites (by decide)
            exact held_congr (hreplied.sessions wsi hother)
          · obtain ⟨_, _, _, _, _, _, hfree⟩ := forwardTarget_some hforward
            have hother : wsi ≠ target := by
              rintro rfl
              exact hfull (hpending.symm.trans (hfree held hown))
            rw [hpass]
            exact held_congr (passOn_sessions state receiver message hother)
      | writeable other written =>
          rw [serverStep_open sodium hsession]
          simp only [callbackChatControl]
          split_ifs with hempty hwritten
          · rfl
          · rfl
          · rw [Bool.not_eq_false] at hwritten
            subst hwritten
            have hother : wsi ≠ other := fun hsame => hwrite (by rw [hsame])
            exact held_congr (Function.update_of_ne hother _ _)
      | closed other =>
          rw [serverStep_open sodium hsession]
          have hother : wsi ≠ other := fun hsame => hclose (by rw [hsame])
          exact held_congr (Function.update_of_ne hother _ _)

/-- The buffer of every connection keeps its message. -/
theorem bufferSlot_keeps (sodium : Sodium) (wsi : ℕ) :
    (bufferSlot wsi).Keeps (serverStep sodium)
      (fun state event => overwrites state event = false) where
  kept hreply hheld hwrite hclose :=
    ⟨serverStep_held sodium hheld hreply hwrite hclose,
      serverStep_written sodium fun htakes => absurd htakes hwrite⟩
  taken _ hheld htakes := by
    obtain rfl := htakes
    exact serverStep_writeable sodium hheld
  grows := by
    intro state event _
    show state.written wsi <+: (serverStep sodium state event).written wsi
    cases hheld : state.held wsi with
    | none => rw [serverStep_written sodium fun _ => hheld]
    | some json =>
        by_cases hwrite : event = .writeable wsi true
        · rw [hwrite, serverStep_writeable sodium hheld]
          exact List.prefix_append _ _
        · rw [serverStep_written sodium fun htakes => absurd htakes hwrite]

/-! ## Delivery -/

theorem length_message {event : ServerEvent} {json : Str}
    (hmessage : event.message = some json) : json.length < chatServerMaxJsonSize := by
  cases event with
  | receive wsi payload whole challenge =>
      simp only [ServerEvent.message] at hmessage
      split_ifs at hmessage with hmalformed
      obtain rfl := Option.some.inj hmessage
      have hlength : (cString payload).length ≤ payload.length :=
        (List.takeWhile_sublist _).length_le
      omega
  | _ => simp [ServerEvent.message] at hmessage

/-- Only a message that is passed on enters the log. -/
theorem serverStep_log (sodium : Sodium) (state : ChatServerState)
    (event : ServerEvent) :
    (serverStep sodium state event).log = state.log ∨
    ∃ session json receiver target, state.sessions event.wsi = some session ∧
      event.message = some json ∧
      forwardTarget state session json = some (receiver, target) ∧
      serverStep sodium state event = (passOn state receiver target json).1 := by
  cases hsession : state.sessions event.wsi with
  | none =>
      left
      rcases serverStep_closed sodium hsession with hstep | hstep <;> rw [hstep]
      rfl
  | some session =>
      cases event with
      | receive wsi payload whole challenge =>
          change state.sessions wsi = some session at hsession
          rcases receive_cases sodium payload whole challenge hsession with
            ⟨_, hreplied⟩ | ⟨json, receiver, target, hmessage, hforward, hpass⟩
          · exact Or.inl hreplied.log
          · exact Or.inr ⟨session, json, receiver, target, rfl, hmessage, hforward,
              hpass⟩
      | writeable wsi written =>
          left
          rw [serverStep_open sodium hsession]
          simp only [callbackChatControl]
          split_ifs <;> rfl
      | established wsi => exact Or.inl (by rw [serverStep_open sodium hsession]; rfl)
      | closed wsi => exact Or.inl (by rw [serverStep_open sodium hsession]; rfl)

/-- A message that is passed on to an open connection stands in its buffer. -/
theorem passOn_held {state : ChatServerState} {receiver : Str} {target : ℕ}
    {session : ChatServerSession} {json : Str}
    (hopen : state.sessions target = some session) (hsome : json ≠ [])
    (hlength : json.length < chatServerMaxJsonSize) :
    (passOn state receiver target json).1.log =
        state.log ++ [.relayed receiver target session json] ∧
      (passOn state receiver target json).1.held target = some json := by
  simp only [passOn, hopen, sendJson, if_neg (not_le.mpr hlength)]
  refine ⟨rfl, ?_⟩
  simp [ChatServerState.held, ChatServerState.setSession, hsome]

/-- A relayed message stands in the buffer of its target, which was free. -/
theorem relayed_held (sodium : Sodium) {state : ChatServerState}
    {event : ServerEvent} {receiver : Str} {wsi : ℕ} {session : ChatServerSession}
    {json : Str}
    (hlog : (serverStep sodium state event).log =
      state.log ++ [.relayed receiver wsi session json]) :
    event.message = some json ∧ session.pending = [] ∧
      (serverStep sodium state event).held wsi = some json := by
  rcases serverStep_log sodium state event with
    hsame | ⟨sender, message, name, target, _, hmessage, hforward, hpass⟩
  · rw [hsame] at hlog
    simp at hlog
  · obtain ⟨type, _, htype, _, _, _, hfree⟩ := forwardTarget_some hforward
    have hsome : message ≠ [] := by
      rintro rfl
      have hnone : jsonType [] = none := by decide
      rw [hnone] at htype
      exact absurd htype (by simp)
    rw [hpass] at hlog ⊢
    cases hopen : state.sessions target with
    | none => simp [passOn, hopen, ChatServerState.emit] at hlog
    | some targetSession =>
        obtain ⟨hrelayed, hheld⟩ := passOn_held hopen hsome (length_message hmessage)
        rw [hrelayed] at hlog
        simp only [List.append_cancel_left_eq, List.cons.injEq, and_true,
          ServerEffect.relayed.injEq] at hlog
        obtain ⟨rfl, rfl, rfl, rfl⟩ := hlog
        exact ⟨hmessage, hfree _ hopen, hheld⟩

/-- In every run in which no reply overwrites a full buffer, every buffer holds
its message until it is written or the connection closes, and every relayed
message is the next one written to its target. -/
theorem relayed_delivered (sodium : Sodium) {before after : List ServerEvent}
    {event : ServerEvent}
    (hguard : Transition.Guarded (serverStep sodium)
      (fun state event => overwrites state event = false) {}
      (before ++ event :: after)) :
    let state := Transition.run (serverStep sodium) {} before
    let next := serverStep sodium state event
    let final := Transition.run (serverStep sodium) next after
    (∀ wsi json, state.held wsi = some json → event ≠ .closed wsi →
      if event = .writeable wsi true then
        next.written wsi = state.written wsi ++ [json]
      else next.held wsi = some json ∧ next.written wsi = state.written wsi) ∧
    ∀ receiver wsi session json,
      next.log = state.log ++ [.relayed receiver wsi session json] →
      event.message = some json ∧ session.pending = [] ∧
      next.held wsi = some json ∧
      (ServerEvent.closed wsi ∉ after →
        (ServerEvent.writeable wsi true ∈ after →
          next.written wsi ++ [json] <+: final.written wsi) ∧
        (ServerEvent.writeable wsi true ∉ after →
          final.held wsi = some json)) := by
  intro state next final
  rw [Transition.guarded_append] at hguard
  obtain ⟨_, hevent, hafter⟩ := hguard
  refine ⟨fun wsi json hheld hclose => ?_,
    fun receiver wsi session json hlog => ?_⟩
  · have hkeeps := bufferSlot_keeps sodium wsi
    split_ifs with hwrite
    · exact hkeeps.taken hevent hheld hwrite
    · exact hkeeps.kept hevent hheld hwrite hclose
  · obtain ⟨hmessage, hfree, hheld⟩ := relayed_held sodium hlog
    refine ⟨hmessage, hfree, hheld, fun hopen => ?_⟩
    have hrun := (bufferSlot_keeps sodium wsi).run hafter hheld
      fun other hother hclose => hopen (hclose ▸ hother)
    exact ⟨fun hwritten => hrun.1 ⟨_, hwritten, rfl⟩,
      fun hunwritten => hrun.2 fun other hother hwrite => hunwritten (hwrite ▸ hother)⟩

/-- A lookup by an authenticated client. -/
def lookupJson (username : Str) : Str :=
  object [(JsonKey.type.name, ControlType.userLookup.name),
    (JsonKey.username.name, username)]

/-- Alice and Bob log in, and every reply is written at once. -/
def promptLogins : List ServerEvent :=
  aliceAndBobOnline.flatMap fun event => [event, .writeable event.wsi true]

/-- Bob's request for a session with Alice. -/
def bobAsksAlice : ServerEvent :=
  .receive 2 (offerJson .chatRequest bob alice.username (bytes "ca11")) true
    (Transparent.repeated 32 7)

/-- Bob's request is written to Alice's connection. -/
theorem relayed_delivered_bob :
    offerJson .chatRequest bob alice.username (bytes "ca11") ∈
      (Transition.run (serverStep Transparent.sodium) {}
        (promptLogins ++ bobAsksAlice :: [.writeable 1 true])).written 1 := by
  have hfacts : Transition.Guarded (serverStep Transparent.sodium)
        (fun state event => overwrites state event = false) {}
        (promptLogins ++ bobAsksAlice :: [.writeable 1 true]) ∧
      ∃ session ∈ (Transition.run (serverStep Transparent.sodium) {}
          promptLogins).sessions 1,
        (serverStep Transparent.sodium
          (Transition.run (serverStep Transparent.sodium) {} promptLogins)
          bobAsksAlice).log =
        (Transition.run (serverStep Transparent.sodium) {} promptLogins).log ++
          [.relayed alice.username 1 session
            (offerJson .chatRequest bob alice.username (bytes "ca11"))] := by
    decide +kernel
  obtain ⟨hguard, session, _, hlog⟩ := hfacts
  obtain ⟨_, hrelayed⟩ := relayed_delivered Transparent.sodium hguard
  obtain ⟨_, _, _, hopen⟩ := hrelayed _ _ _ _ hlog
  have hwritten := (hopen (by simp)).1 (List.mem_singleton_self _)
  rw [Transition.run_append, Transition.run_cons]
  exact hwritten.subset (by simp)

/-- Alice looks up Bob before his request is written to her connection: the
reply takes its place, and the request is never written. -/
theorem lookup_overwrites_request :
    let request := offerJson .chatRequest bob alice.username (bytes "ca11")
    let state := Transition.run (serverStep Transparent.sodium) {}
      (promptLogins ++ [bobAsksAlice])
    let final := Transition.run (serverStep Transparent.sodium) state
      [.receive 1 (lookupJson bob.username) true (Transparent.repeated 32 7),
        .writeable 1 true]
    state.held 1 = some request ∧ final.held 1 = none ∧
      final.sessions 1 ≠ none ∧ request ∉ final.written 1 := by
  decide +kernel

end ProntoChat.Server
