import ProntoChat.Daemon.Connection
import ProntoChat.Relay.Forwarding
import ProntoChat.Relay.Link

/-!
# What the replies of the server answer

Every message that reaches the daemon was passed on for another user or answers
a message of the daemon, and only a message to a user that the server did not
find online is answered with `peer_offline`.
-/

namespace ProntoChat.Relay

open ProntoChat.QuotedText
open ProntoChat.Protocole
open ProntoChat.Json
open ProntoChat.Daemon
open ProntoChat.Server

/-! ## Messages of the daemon -/

/-- The message is of a type that the server passes on. -/
def signals (message : Str) : Bool :=
  (jsonType (cString message)).any signalingTypeIsSupported

/-- The receiver that a signalling message names. -/
def recipient (message : Str) : Option Str :=
  if signals message then jsonGetString (cString message) .to Server.usernameSize
  else none

theorem signals_of_type {message : Str} {type : ControlType}
    (htype : jsonType (cString message) = some type) :
    signals message = signalingTypeIsSupported type := by
  rw [signals, htype, Option.any_some]

/-- The server finds the receiver that the message names. -/
theorem recipient_of_foundOffline {state : ChatServerState}
    {session : ChatServerSession} {message receiver : Str}
    (hfound : foundOffline state session (cString message) = some receiver) :
    recipient message = some receiver ∧ onlineTarget state receiver = none := by
  unfold foundOffline at hfound
  cases htype : jsonType (cString message) with
  | none => simp [htype] at hfound
  | some type =>
      simp only [htype] at hfound
      split_ifs at hfound with hsupported
      rw [Bool.not_eq_false] at hsupported
      cases hcheck : checkSignaling state session (cString message) type with
      | error code => simp [hcheck] at hfound
      | ok name =>
          simp only [hcheck] at hfound
          split_ifs at hfound with hoffline
          obtain rfl := Option.some.inj hfound
          have hparse := (checkSignaling_ok hcheck).2.1
          refine ⟨?_, hoffline⟩
          rw [recipient, signals_of_type htype, if_pos hsupported]
          exact (parseSignaling_some hparse).2

theorem foundOffline_of_not_signals {state : ChatServerState}
    {session : ChatServerSession} {message : Str} (hother : signals message = false) :
    foundOffline state session (cString message) = none := by
  cases hfound : foundOffline state session (cString message) with
  | none => rfl
  | some receiver =>
      have hrecipient := (recipient_of_foundOffline hfound).1
      rw [recipient, hother] at hrecipient
      exact nomatch hrecipient

/-- The types of the messages that the daemon sends. -/
def daemonTypes : List ControlType :=
  [.register, .hello, .authResponse, .chatRequest, .chatAccept, .chatCancel,
    .iceCredentials]

/-- The message is one that the daemon builds. -/
def Ours (message : Str) : Prop :=
  message = [] ∨ ∃ type ∈ daemonTypes, jsonType (cString message) = some type

theorem ours_of_type {type : ControlType} (htype : type ∈ daemonTypes)
    (members : List (Str × Str)) :
    Ours (object ((JsonKey.type.name, type.name) :: members)) :=
  Or.inr ⟨type, htype, jsonType_front type members⟩

theorem ours_signals {env : Env} {state : ChatdState} {event : ChatdEvent}
    {line : Line} (hsignals : Signals env state event line) : Ours line.pending := by
  cases hsignals with
  | accept _ _ _ => exact ours_of_type (by decide) _
  | cancel _ _ _ => exact ours_of_type (by decide) _
  | retryAccepted _ _ _ _ => exact ours_of_type (by decide) _
  | retry _ _ _ => exact ours_of_type (by decide) _
  | describe _ _ => exact ours_of_type (by decide) _
  | request _ _ => exact ours_of_type (by decide) _

theorem ours_queues {line next : Line} {json : Str} (hqueues : Queues line next json)
    (hjson : Ours json) : next.pending = line.pending ∨ Ours next.pending := by
  rcases hqueues with rfl | ⟨_, rfl⟩
  · exact Or.inl rfl
  · exact Or.inr hjson

/-- The slot of the daemon holds messages that it builds. -/
theorem ours_step (sodium : Sodium) {state : ChatdState} (input : Env × ChatdEvent)
    (hours : Ours state.pending) : Ours (chatdStep sodium state input).pending := by
  obtain ⟨env, event⟩ := input
  obtain ⟨line, hmove, hdetaches⟩ := moved_step sodium state (env, event)
  obtain ⟨_, _, _, _, hpending, _⟩ := hdetaches.keeps
  have hline : line.pending = state.pending ∨ Ours line.pending := by
    cases hmove with
    | kept _ | joins _ | enters _ _ _ | fails _ | loses _ => exact Or.inl rfl
    | signals _ hsignals => exact Or.inr (ours_signals hsignals)
    | greets _ _ hqueues => exact ours_queues hqueues (ours_of_type (by decide) _)
    | responds _ _ hqueues => exact ours_queues hqueues (ours_of_type (by decide) _)
    | establishes hqueues => exact ours_queues hqueues (ours_of_type (by decide) _)
    | writes _ => exact Or.inr (Or.inl rfl)
  change Ours (chatdStep sodium state (env, event)).line.pending
  rw [hpending]
  rcases hline with hsame | hours
  · rwa [hsame]
  · exact hours

/-! ## Replies of the server -/

/-- A reply to a message of the daemon.  The error `peer_offline` tells that the
receiver of the message was not found online. -/
inductive ReplyTo (answer : Answer) : Str → Prop where
  | error {code : ErrorCode} (hcode : code = .peerOffline ↔ answer.offline ≠ none) :
      ReplyTo answer (errorJson code.text)
  | login {reply : Str}
      (htype : jsonType (cString reply) ∈ [some ControlType.registerOk,
        some .authChallenge, some .authOk]) :
      ReplyTo answer reply

theorem cString_errorJson (code : ErrorCode) :
    cString (errorJson code.text) = errorJson code.text :=
  cString_object (plain_control .error (List.forall_mem_singleton.mpr
    ⟨JsonKey.code.searchName.plain, code.plain_text.1⟩))

/-- The daemon reads the code of an error reply. -/
theorem errorCode_errorJson (code : ErrorCode) :
    errorCode (errorJson code.text) = code.text := by
  have hplain : ∀ entry ∈ [(JsonKey.code.name, code.text)],
      Plain entry.1 ∧ Plain entry.2 :=
    List.forall_mem_singleton.mpr ⟨JsonKey.code.searchName.plain, code.plain_text.1⟩
  have hother : ControlType.error.name ≠ JsonKey.code.name ∧
      JsonKey.type.name ≠ JsonKey.code.name := by
    decide +kernel
  have hlength : code.text.length ≤ 127 := code.plain_text.2.trans (by decide)
  have hread : jsonGetString (errorJson code.text) .code 128 = some code.text := by
    rw [errorJson, jsonGetString_object .code (by decide) (plain_control .error hplain)]
    simp [scanMembers, hother, hlength]
  rw [errorCode, hread, Option.getD_some]

theorem ErrorCode.eq_peerOffline {code : ErrorCode}
    (htext : code.text = bytes "peer_offline") : code = .peerOffline := by
  cases code with
  | peerOffline => rfl
  | users result => cases result <;> exact absurd htext (by decide)
  | _ => exact absurd htext (by decide)

theorem loginReplies_replyTo {answer : Answer} (hnone : answer.offline = none) :
    LoginReplies (ReplyTo answer) where
  error code hcode := .error (by simp [hcode, hnone])
  registered := .login (by decide)
  challenged challenge := by
    have htype : jsonType (cString (authChallengeJson challenge)) =
        some .authChallenge := jsonType_front .authChallenge _
    exact .login (by simp [htype])
  online := .login (by decide)

theorem checkPublicKey_error {type : ControlType} {json : Str} {user : ChatServerUser}
    {code : ErrorCode} (hcheck : checkPublicKey type json user = .error code) :
    code ≠ .peerOffline := by
  unfold checkPublicKey at hcheck
  split_ifs at hcheck
  split at hcheck
  · obtain rfl := Except.error.inj hcheck
    exact nofun
  · split_ifs at hcheck
    obtain rfl := Except.error.inj hcheck
    exact nofun

theorem checkSignaling_error {state : ChatServerState} {session : ChatServerSession}
    {json : Str} {type : ControlType} {code : ErrorCode}
    (hcheck : checkSignaling state session json type = .error code) :
    code ≠ .peerOffline := by
  unfold checkSignaling at hcheck
  split_ifs at hcheck
  · obtain rfl := Except.error.inj hcheck
    exact nofun
  · split at hcheck
    · obtain rfl := Except.error.inj hcheck
      exact nofun
    · split_ifs at hcheck
      · obtain rfl := Except.error.inj hcheck
        exact nofun
      · split at hcheck
        · obtain rfl := Except.error.inj hcheck
          exact nofun
        · split at hcheck
          · rename_i hkey
            obtain rfl := Except.error.inj hcheck
            exact checkPublicKey_error hkey
          · exact nomatch hcheck

section Replies

variable (sodium : Sodium) {state : ChatServerState} {session : ChatServerSession}
  {wsi : ℕ} {message : Str}

/-- A signalling message that is not passed on is answered with `peer_offline` if
its receiver was not found online, and with another error otherwise. -/
theorem replyTo_handleSignalingForward {type : ControlType}
    (htype : jsonType (cString message) = some type)
    (hsupported : signalingTypeIsSupported type = true)
    (hstays : forwardTarget state session (cString message) = none) :
    ∃ reply, (handleSignalingForward state wsi session (cString message)
        type).1.held wsi = some reply ∧
      ReplyTo ⟨message, foundOffline state session (cString message)⟩ reply := by
  simp only [forwardTarget, foundOffline, htype, hsupported, Bool.true_eq_false,
    if_false] at hstays ⊢
  unfold handleSignalingForward
  cases hcheck : checkSignaling state session (cString message) type with
  | error code =>
      refine ⟨_, held_sendError code, .error ?_⟩
      simpa using checkSignaling_error hcheck
  | ok receiver =>
      simp only [hcheck] at hstays
      simp only [forwardTo]
      cases htarget : onlineTarget state receiver with
      | none => exact ⟨_, held_sendError .peerOffline, .error (by simp)⟩
      | some connection =>
          simp only [htarget] at hstays
          cases hopen : state.sessions connection.2 with
          | none => simp [hopen] at hstays
          | some targetSession =>
              have hfull : targetSession.pending ≠ [] := by
                intro hfree
                simp [hopen, hfree] at hstays
              simp only [hopen, if_pos hfull]
              exact ⟨_, held_sendError .peerBusy, .error (by simp)⟩

theorem replyTo_handleMessage (challenge : Bytes 32) (hours : Ours message)
    (hstays : forwardTarget state session (cString message) = none) :
    ∃ reply, (handleMessage sodium state wsi session (cString message)
        challenge).1.held wsi = some reply ∧
      ReplyTo ⟨message, foundOffline state session (cString message)⟩ reply := by
  have hlogin (hother : signals message = false) :
      LoginReplies (ReplyTo ⟨message, foundOffline state session (cString message)⟩) :=
    loginReplies_replyTo (foundOffline_of_not_signals hother)
  unfold handleMessage
  split
  · rename_i hnone
    have hother : signals message = false := by
      simp [signals, jsonType, hnone]
    exact (hlogin hother).holds_error (by decide)
  · rename_i name hname
    have hread {type : Option ControlType} (hof : ControlType.ofName name = type) :
        jsonType (cString message) = type := by
      rw [jsonType, hname, Option.bind_some, hof]
    split
    · rename_i hof
      exact (hlogin (signals_of_type (hread hof))).holds_handleRegister
    · rename_i hof
      exact (hlogin (signals_of_type (hread hof))).holds_handleHello challenge
    · rename_i hof
      exact (hlogin (signals_of_type (hread hof))).holds_handleAuthResponse
    · rename_i hof
      rcases hours with rfl | ⟨type, hmem, htype⟩
      · cases hread hof
      · obtain rfl := Option.some.inj ((hread hof).symm.trans htype)
        exact absurd hmem (by decide)
    · rename_i type _ _ _ _ hof
      split_ifs with hsupported
      · exact replyTo_handleSignalingForward (hread hof) hsupported hstays
      · rw [Bool.not_eq_true] at hsupported
        have hother := (signals_of_type (hread hof)).trans hsupported
        exact (hlogin hother).holds_error (by decide)
    · rename_i hof
      have hother : signals message = false := by
        simp [signals, hread hof]
      exact (hlogin hother).holds_error (by decide)

/-- What the server answers lies in the buffer of the connection. -/
theorem replyTo_receive (challenge : Bytes 32) {answer : Answer}
    (hours : Ours message) (hanswer : answerTo state wsi message = some answer) :
    ∃ reply, (serverStep sodium state
        (.receive wsi message true challenge)).held wsi = some reply ∧
      ReplyTo answer reply := by
  unfold answerTo at hanswer
  cases hopen : state.sessions wsi with
  | none => simp [hopen] at hanswer
  | some session =>
      simp only [hopen] at hanswer
      rw [serverStep_open sodium hopen]
      simp only [callbackChatControl]
      split_ifs at hanswer with hlong
      · obtain rfl := Option.some.inj hanswer
        rw [if_pos (Or.inl hlong)]
        exact ⟨_, held_sendError .messageTooLargeOrFragmented, .error (by simp)⟩
      · rw [if_neg (by simpa using hlong)]
        cases hforward : forwardTarget state session (cString message) with
        | some target => simp [hforward] at hanswer
        | none =>
            simp only [hforward] at hanswer
            obtain rfl := Option.some.inj hanswer
            exact replyTo_handleMessage sodium challenge hours hforward

end Replies

/-! ## Steps of the daemon -/

/-- What the daemon handles in a step. -/
def Link.input (link : Link) : LinkEvent → Option (Env × ChatdEvent)
  | .connect wsi env =>
      if link.wsi = none ∧ link.server.sessions wsi = none then
        some (env, .control .established)
      else none
  | .lose env => if link.wsi = none then none else some (env, .control .closed)
  | .daemon env event => if link.handles event then some (env, event) else none
  | .server _ | .up _ => none
  | .down env whole =>
      link.down.head?.map fun entry => (env, .control (.receive entry.1 whole))

theorem daemon_moveServer (link : Link) (next : ChatServerState) :
    (link.moveServer next).daemon = link.daemon := by
  unfold Link.moveServer
  split <;> rfl

theorem daemon_linkStep (sodium : Sodium) (link : Link) (event : LinkEvent) :
    (linkStep sodium link event).daemon =
      (link.input event).elim link.daemon (chatdStep sodium link.daemon) := by
  cases event with
  | connect wsi env => simp only [linkStep, Link.input]; split_ifs <;> rfl
  | lose env => simp only [linkStep, Link.input]; split_ifs <;> rfl
  | daemon env event => simp only [linkStep, Link.input]; split_ifs <;> rfl
  | server event =>
      simp only [linkStep, Link.input]
      split_ifs
      · exact daemon_moveServer link _
      · rfl
  | up challenge =>
      simp only [linkStep, Link.input]
      split
      · exact daemon_moveServer link _
      · rfl
  | down env whole =>
      simp only [linkStep, Link.input]
      split <;> rename_i hdown <;> simp [hdown, Link.moveDaemon]

/-- A message that the daemon receives stands first among those on their way. -/
theorem down_of_message {link : Link} {event : LinkEvent} {input : Env × ChatdEvent}
    {json : Str} (hinput : link.input event = some input)
    (hmessage : input.2.message = some json) :
    ∃ env entry rest, event = .down env true ∧ link.down = entry :: rest ∧
      json = cString entry.1 := by
  cases event with
  | connect wsi env =>
      simp only [Link.input] at hinput
      split_ifs at hinput
      obtain rfl := Option.some.inj hinput
      exact nomatch hmessage
  | lose env =>
      simp only [Link.input] at hinput
      split_ifs at hinput
      obtain rfl := Option.some.inj hinput
      exact nomatch hmessage
  | daemon env event =>
      simp only [Link.input] at hinput
      split_ifs at hinput with hhandles
      obtain rfl := Option.some.inj hinput
      cases event with
      | control event =>
          cases event with
          | receive payload whole => exact nomatch hhandles
          | _ => exact nomatch hmessage
      | _ => exact nomatch hmessage
  | server event => exact nomatch hinput
  | up challenge => exact nomatch hinput
  | down env whole =>
      cases hdown : link.down with
      | nil => simp [Link.input, hdown] at hinput
      | cons entry rest =>
          simp only [Link.input, hdown, List.head?_cons, Option.map_some,
            Option.some.injEq] at hinput
          subst hinput
          simp only [ChatdEvent.message, ControlEvent.message] at hmessage
          split_ifs at hmessage with hmalformed
          obtain ⟨_, rfl⟩ : _ ∧ whole = true := by simpa using hmalformed
          exact ⟨env, entry, rest, rfl, rfl, (Option.some.inj hmessage).symm⟩

/-! ## Messages that are not answered yet -/

/-- The answers in the buffer and on their way. -/
def Link.answers (link : Link) : List Answer :=
  link.answer.toList ++ link.down.filterMap Prod.snd

/-- The messages of the daemon whose handling it has not seen the end of: the one
in its slot, those on their way, and those whose answers are on their way. -/
def Link.outstanding (link : Link) : List Str :=
  link.daemon.pending :: (link.up ++ link.answers.map Answer.request)

theorem mem_outstanding {link : Link} {message : Str} :
    message ∈ link.outstanding ↔ message = link.daemon.pending ∨
      message ∈ link.up ∨ ∃ answer ∈ link.answers, answer.request = message := by
  simp [Link.outstanding]

/-- The messages on their way are moved on, not made up. -/
theorem up_moveDaemon (sodium : Sodium) (link : Link) (input : Env × ChatdEvent) :
    (link.moveDaemon (chatdStep sodium link.daemon input)).up = link.up ∨
      (link.moveDaemon (chatdStep sodium link.daemon input)).up =
        link.up ++ [link.daemon.pending] := by
  rcases slot_step sodium link.daemon input with ⟨hframes, _⟩ | ⟨_, _, hframes, _⟩
  · left
    simp [Link.moveDaemon, hframes]
  · right
    simp [Link.moveDaemon, hframes]

/-- A step of the server moves the answer in the buffer on. -/
theorem mem_answers_moveServer {link : Link} {next : ChatServerState} {answer : Answer}
    (hmem : answer ∈ (link.moveServer next).answers) : answer ∈ link.answers := by
  unfold Link.moveServer at hmem
  cases hwsi : link.wsi with
  | none => simpa [hwsi, Link.answers] using hmem
  | some wsi =>
      simp only [hwsi, Link.answers, List.filterMap_append, List.mem_append] at hmem
      rcases hmem with hbuffer | hold | hwritten
      · split_ifs at hbuffer
        · exact List.mem_append_left _ hbuffer
        · simp at hbuffer
      · exact List.mem_append_right _ hold
      · obtain ⟨entry, hentry, hanswer⟩ := List.mem_filterMap.mp hwritten
        obtain ⟨json, _, rfl⟩ := List.mem_map.mp hentry
        refine List.mem_append_left _ ?_
        rw [show link.answer = some answer from hanswer]
        exact List.mem_singleton_self answer

theorem answerTo_request {state : ChatServerState} {wsi : ℕ} {message : Str}
    {answer : Answer} (hanswer : answerTo state wsi message = some answer) :
    answer.request = message := by
  unfold answerTo at hanswer
  split at hanswer
  · exact nomatch hanswer
  · split_ifs at hanswer
    · obtain rfl := Option.some.inj hanswer
      rfl
    · split at hanswer
      · exact nomatch hanswer
      · obtain rfl := Option.some.inj hanswer
        rfl

/-- A message that is not answered is passed on. -/
theorem passOn_of_answerTo (sodium : Sodium) {state : ChatServerState} {wsi : ℕ}
    {session : ChatServerSession} {message : Str} (challenge : Bytes 32)
    (hopen : state.sessions wsi = some session)
    (hnone : answerTo state wsi message = none) :
    let event := ServerEvent.receive wsi message true challenge
    ∃ receiver target, event.message = some (cString message) ∧
      forwardTarget state session (cString message) = some (receiver, target) ∧
      serverStep sodium state event =
        (passOn state receiver target (cString message)).1 := by
  simp only [answerTo, hopen] at hnone
  split_ifs at hnone with hlong
  have hfits : ¬ (chatServerMaxJsonSize ≤ message.length ∨ true = false) := by
    simpa using hlong
  cases hforward : forwardTarget state session (cString message) with
  | none => simp [hforward] at hnone
  | some target =>
      refine ⟨target.1, target.2, if_neg hfits, rfl, ?_⟩
      rw [serverStep_open sodium hopen]
      simp only [callbackChatControl, if_neg hfits]
      rw [handleMessage_passOn wsi challenge hforward]

/-- The arrival of a message adds its answer. -/
theorem mem_answers_up {link : Link} {up : List Str} {added : Option Answer}
    {answer : Answer}
    (hmem : answer ∈ { link with up, answer := added.or link.answer }.answers) :
    added = some answer ∨ answer ∈ link.answers := by
  rcases List.mem_append.mp hmem with hbuffer | hdown
  · cases added with
    | none => exact Or.inr (List.mem_append_left _ hbuffer)
    | some new => exact Or.inl (by simpa [eq_comm] using hbuffer)
  · exact Or.inr (List.mem_append_right _ hdown)

theorem mem_answers_of_down {link : Link} {entry : Str × Option Answer}
    {rest : List (Str × Option Answer)} {answer : Answer}
    (hdown : link.down = entry :: rest)
    (hmem : answer ∈ { link with down := rest }.answers) : answer ∈ link.answers := by
  rcases List.mem_append.mp hmem with hbuffer | hrest
  · exact List.mem_append_left _ hbuffer
  · refine List.mem_append_right _ ?_
    rw [hdown, List.filterMap_cons]
    split
    · exact hrest
    · exact List.mem_cons_of_mem _ hrest

/-- The next message of the daemon arrives, and this is what the server answers. -/
def Answers (link : Link) (event : LinkEvent) (answer : Answer) : Prop :=
  ∃ challenge wsi rest, event = .up challenge ∧ link.wsi = some wsi ∧
    link.up = answer.request :: rest ∧
    answerTo link.server wsi answer.request = some answer

/-- Answers come from arriving messages. -/
theorem answers_step (sodium : Sodium) (link : Link) (event : LinkEvent)
    {answer : Answer} (hmem : answer ∈ (linkStep sodium link event).answers) :
    answer ∈ link.answers ∨ Answers link event answer := by
  cases event with
  | connect wsi env =>
      simp only [linkStep] at hmem
      split_ifs at hmem
      · exact absurd hmem List.not_mem_nil
      · exact Or.inl hmem
  | lose env =>
      simp only [linkStep] at hmem
      split_ifs at hmem
      · exact Or.inl hmem
      · exact absurd hmem List.not_mem_nil
  | daemon env event =>
      simp only [linkStep] at hmem
      split_ifs at hmem <;> exact Or.inl hmem
  | server event =>
      simp only [linkStep] at hmem
      split_ifs at hmem
      · exact Or.inl (mem_answers_moveServer hmem)
      · exact Or.inl hmem
  | up challenge =>
      simp only [linkStep] at hmem
      split at hmem
      · rename_i wsi message rest hwsi hup
        rcases mem_answers_up hmem with hadded | hold
        · obtain rfl := answerTo_request hadded
          exact Or.inr ⟨challenge, wsi, rest, rfl, hwsi, hup, hadded⟩
        · exact Or.inl (mem_answers_moveServer hold)
      · exact Or.inl hmem
  | down env whole =>
      simp only [linkStep] at hmem
      split at hmem
      · exact Or.inl hmem
      · rename_i hdown
        exact Or.inl (mem_answers_of_down hdown hmem)

/-- Messages on their way come from the slot. -/
theorem up_step (sodium : Sodium) (link : Link) (event : LinkEvent) {message : Str}
    (hmem : message ∈ (linkStep sodium link event).up) :
    message ∈ link.up ∨ message = link.daemon.pending := by
  have hdaemon {env : Env} {event : ChatdEvent}
      (hup : message ∈ (link.moveDaemon (chatdStep sodium link.daemon
        (env, event))).up) : message ∈ link.up ∨ message = link.daemon.pending := by
    rcases up_moveDaemon sodium link (env, event) with hsame | hwritten
    · rw [hsame] at hup
      exact Or.inl hup
    · rw [hwritten, List.mem_append, List.mem_singleton] at hup
      exact hup
  have hserver (next : ChatServerState) : (link.moveServer next).up = link.up := by
    unfold Link.moveServer
    split <;> rfl
  cases event with
  | connect wsi env =>
      simp only [linkStep] at hmem
      split_ifs at hmem
      · exact absurd hmem List.not_mem_nil
      · exact Or.inl hmem
  | lose env =>
      simp only [linkStep] at hmem
      split_ifs at hmem
      · exact Or.inl hmem
      · exact absurd hmem List.not_mem_nil
  | daemon env event =>
      simp only [linkStep] at hmem
      split_ifs at hmem
      · exact hdaemon hmem
      · exact Or.inl hmem
  | server event =>
      simp only [linkStep] at hmem
      split_ifs at hmem
      · rw [hserver] at hmem
        exact Or.inl hmem
      · exact Or.inl hmem
  | up challenge =>
      simp only [linkStep] at hmem
      split at hmem
      · rename_i hup
        rw [hup]
        exact Or.inl (List.mem_cons_of_mem _ hmem)
      · exact Or.inl hmem
  | down env whole =>
      simp only [linkStep] at hmem
      split at hmem
      · exact Or.inl hmem
      · exact hdaemon hmem

/-- Only the slot of the daemon takes in new messages. -/
theorem outstanding_step (sodium : Sodium) (link : Link) (event : LinkEvent)
    {message : Str} (hmem : message ∈ (linkStep sodium link event).outstanding) :
    message ∈ link.outstanding ∨
      message = (linkStep sodium link event).daemon.pending := by
  rcases mem_outstanding.mp hmem with hpending | hup | ⟨answer, hanswer, rfl⟩
  · exact Or.inr hpending
  · refine Or.inl (mem_outstanding.mpr ?_)
    exact (up_step sodium link event hup).symm.imp_right Or.inl
  · refine Or.inl (mem_outstanding.mpr ?_)
    rcases answers_step sodium link event hanswer with
      hold | ⟨_, _, _, _, _, hup, _⟩
    · exact Or.inr (Or.inr ⟨answer, hold, rfl⟩)
    · exact Or.inr (Or.inl (by simp [hup]))

/-! ## Messages of the server -/

/-- The message was passed on, or it replies to what it carries along. -/
def Explained (entry : Str × Option Answer) : Prop :=
  signals entry.1 = true ∨ ∃ answer, entry.2 = some answer ∧ ReplyTo answer entry.1

/-- Every message between the two programs is accounted for. -/
structure Accounted (link : Link) : Prop where
  ours : ∀ message ∈ link.outstanding, Ours message
  buffer : ∀ wsi json, link.wsi = some wsi → link.server.held wsi = some json →
    Explained (json, link.answer)
  down : ∀ entry ∈ link.down, Explained entry

theorem cString_cString (buffer : List UInt8) :
    cString (cString buffer) = cString buffer := by
  refine cString_of_ne_zero fun byte hbyte => ?_
  simpa using List.mem_takeWhile_imp hbyte

/-- A message that the server passed on. -/
theorem signals_of_checked {users : ChatServerUsers} {sender : ChatServerSession}
    {receiver json : Str} {event : ServerEvent} (hmessage : event.message = some json)
    (hchecked : Checked users sender receiver json) : signals json = true := by
  have hjson : cString json = json := by
    cases event with
    | receive wsi payload whole challenge =>
        simp only [ServerEvent.message] at hmessage
        split_ifs at hmessage
        obtain rfl := Option.some.inj hmessage
        exact cString_cString payload
    | _ => simp [ServerEvent.message] at hmessage
  obtain ⟨type, htype, hsupported⟩ := hchecked.readType
  rw [signals, hjson, htype, Option.any_some, hsupported]

/-- Writing moves the message in the buffer to the messages on their way. -/
theorem down_moveServer (sodium : Sodium) (link : Link) (event : ServerEvent)
    {entry : Str × Option Answer}
    (hmem : entry ∈ (link.moveServer (serverStep sodium link.server event)).down) :
    entry ∈ link.down ∨ ∃ wsi json, link.wsi = some wsi ∧
      link.server.held wsi = some json ∧ entry = (json, link.answer) := by
  unfold Link.moveServer at hmem
  cases hwsi : link.wsi with
  | none =>
      simp only [hwsi] at hmem
      exact Or.inl hmem
  | some wsi =>
      simp only [hwsi, List.mem_append] at hmem
      refine hmem.imp_right fun hwritten => ?_
      obtain ⟨json, hjson, rfl⟩ := List.mem_map.mp hwritten
      by_cases hwrite : event = .writeable wsi true → link.server.held wsi = none
      · rw [serverStep_written sodium hwrite, List.drop_length] at hjson
        exact absurd hjson List.not_mem_nil
      · rw [Classical.not_imp] at hwrite
        obtain ⟨rfl, hsome⟩ := hwrite
        obtain ⟨pending, hheld⟩ := Option.ne_none_iff_exists'.mp hsome
        rw [serverStep_writeable sodium hheld, List.drop_left,
          List.mem_singleton] at hjson
        exact ⟨wsi, json, rfl, hjson ▸ hheld, rfl⟩

/-- A buffer that keeps its message keeps its answer. -/
theorem answer_moveServer {link : Link} {next : ChatServerState} {wsi : ℕ}
    (hwsi : link.wsi = some wsi) (hheld : next.held wsi = link.server.held wsi) :
    (link.moveServer next).answer = link.answer := by
  simp [Link.moveServer, hwsi, hheld]

theorem server_moveServer (link : Link) (next : ChatServerState) :
    (link.moveServer next).server = next ∧ (link.moveServer next).wsi = link.wsi := by
  unfold Link.moveServer
  cases link.wsi <;> exact ⟨rfl, rfl⟩

section Steps

variable {sodium : Sodium} {link : Link}

/-- The buffer after a step of the server in which the daemon takes no part. -/
theorem Accounted.buffer_server (haccounted : Accounted link) {event : ServerEvent}
    {wsi : ℕ} {json : Str} (hserves : link.serves event = true)
    (hwsi : link.wsi = some wsi)
    (hheld : (serverStep sodium link.server event).held wsi = some json) :
    Explained (json, (link.moveServer (serverStep sodium link.server event)).answer) := by
  have hother (payload : List UInt8) (whole : Bool) (challenge : Bytes 32) :
      event ≠ .receive wsi payload whole challenge := by
    rintro rfl
    simp [Link.serves, hwsi] at hserves
  rcases held_next sodium hother hheld with hold | ⟨_, _, _, hmessage, hchecked⟩
  · rw [answer_moveServer hwsi (hheld.trans hold.symm)]
    exact haccounted.buffer wsi json hwsi hold
  · exact Or.inl (signals_of_checked hmessage hchecked)

/-- The buffer after the arrival of a message of the daemon. -/
theorem Accounted.buffer_up (haccounted : Accounted link) {wsi : ℕ}
    {message json : Str} (challenge : Bytes 32) (hours : Ours message)
    (hwsi : link.wsi = some wsi)
    (hheld : (serverStep sodium link.server
      (.receive wsi message true challenge)).held wsi = some json) :
    Explained (json, (answerTo link.server wsi message).or
      (link.moveServer (serverStep sodium link.server
        (.receive wsi message true challenge))).answer) := by
  cases hanswer : answerTo link.server wsi message with
  | some answer =>
      obtain ⟨reply, hreply, hto⟩ :=
        replyTo_receive sodium challenge hours hanswer
      obtain rfl := Option.some.inj (hheld.symm.trans hreply)
      exact Or.inr ⟨answer, rfl, hto⟩
  | none =>
      rw [Option.none_or]
      have hkept (hold : link.server.held wsi = some json) :
          Explained (json, (link.moveServer (serverStep sodium link.server
            (.receive wsi message true challenge))).answer) := by
        rw [answer_moveServer hwsi (hheld.trans hold.symm)]
        exact haccounted.buffer wsi json hwsi hold
      cases hopen : link.server.sessions wsi with
      | none =>
          refine hkept ?_
          simpa [serverStep, ServerEvent.wsi, hopen] using hheld
      | some session =>
          obtain ⟨receiver, target, hmessage, hforward, hpass⟩ :=
            passOn_of_answerTo sodium challenge hopen hanswer
          have hpassed := hheld
          rw [hpass] at hpassed
          rcases held_of_passOn hpassed with hold | rfl
          · exact hkept hold
          · exact Or.inl (signals_of_checked hmessage
              (checked_of_forwardTarget hforward))

theorem Accounted.buffer_step (haccounted : Accounted link) (event : LinkEvent)
    {wsi : ℕ} {json : Str} (hwsi : (linkStep sodium link event).wsi = some wsi)
    (hheld : (linkStep sodium link event).server.held wsi = some json) :
    Explained (json, (linkStep sodium link event).answer) := by
  cases event with
  | connect new env =>
      simp only [linkStep] at hwsi hheld ⊢
      split_ifs at hwsi hheld ⊢ with hfree
      · obtain rfl := Option.some.inj hwsi
        simp [serverStep, ServerEvent.wsi, hfree.2, ChatServerState.held,
          ChatServerState.setSession] at hheld
      · exact haccounted.buffer wsi json hwsi hheld
  | lose env =>
      simp only [linkStep] at hwsi hheld ⊢
      split_ifs at hwsi hheld ⊢
      exact haccounted.buffer wsi json hwsi hheld
  | daemon env event =>
      simp only [linkStep] at hwsi hheld ⊢
      split_ifs at hwsi hheld ⊢ <;> exact haccounted.buffer wsi json hwsi hheld
  | server event =>
      simp only [linkStep] at hwsi hheld ⊢
      split_ifs at hwsi hheld ⊢ with hserves
      · rw [(server_moveServer link _).2] at hwsi
        rw [(server_moveServer link _).1] at hheld
        exact haccounted.buffer_server hserves hwsi hheld
      · exact haccounted.buffer wsi json hwsi hheld
  | up challenge =>
      cases hown : link.wsi with
      | none =>
          simp only [linkStep, hown] at hwsi hheld ⊢
          cases hwsi
      | some own =>
          cases hup : link.up with
          | nil =>
              simp only [linkStep, hown, hup] at hwsi hheld ⊢
              exact haccounted.buffer wsi json (hown.trans hwsi) hheld
          | cons message rest =>
              have hours : Ours message :=
                haccounted.ours message (mem_outstanding.mpr (by simp [hup]))
              simp only [linkStep, hown, hup] at hwsi hheld ⊢
              rw [(server_moveServer link _).2] at hwsi
              rw [(server_moveServer link _).1] at hheld
              obtain rfl := Option.some.inj (hown.symm.trans hwsi)
              exact haccounted.buffer_up challenge hours hown hheld
  | down env whole =>
      simp only [linkStep] at hwsi hheld ⊢
      split at hwsi <;> rename_i hdown <;> simp only [hdown] at hheld ⊢ <;>
        exact haccounted.buffer wsi json hwsi hheld

theorem Accounted.down_step (haccounted : Accounted link) (event : LinkEvent)
    {entry : Str × Option Answer}
    (hmem : entry ∈ (linkStep sodium link event).down) : Explained entry := by
  have hmoved {event : ServerEvent}
      (hmem : entry ∈ (link.moveServer (serverStep sodium link.server event)).down) :
      Explained entry := by
    rcases down_moveServer sodium link event hmem with
      hold | ⟨wsi, json, hwsi, hheld, rfl⟩
    · exact haccounted.down entry hold
    · exact haccounted.buffer wsi json hwsi hheld
  cases event with
  | connect new env =>
      simp only [linkStep] at hmem
      split_ifs at hmem
      · exact absurd hmem List.not_mem_nil
      · exact haccounted.down entry hmem
  | lose env =>
      simp only [linkStep] at hmem
      split_ifs at hmem
      · exact haccounted.down entry hmem
      · exact absurd hmem List.not_mem_nil
  | daemon env event =>
      simp only [linkStep] at hmem
      split_ifs at hmem <;> exact haccounted.down entry hmem
  | server event =>
      simp only [linkStep] at hmem
      split_ifs at hmem
      · exact hmoved hmem
      · exact haccounted.down entry hmem
  | up challenge =>
      simp only [linkStep] at hmem
      split at hmem
      · exact hmoved hmem
      · exact haccounted.down entry hmem
  | down env whole =>
      simp only [linkStep] at hmem
      split at hmem
      · exact haccounted.down entry hmem
      · rename_i json answer rest hdown
        refine haccounted.down entry ?_
        rw [hdown]
        exact List.mem_cons_of_mem _ hmem

theorem accounted_step (haccounted : Accounted link) (event : LinkEvent) :
    Accounted (linkStep sodium link event) := by
  refine ⟨fun message hmem => ?_, fun wsi json hwsi hheld => ?_,
    fun entry hmem => haccounted.down_step event hmem⟩
  · have hpending : Ours link.daemon.pending :=
      haccounted.ours _ List.mem_cons_self
    rcases outstanding_step sodium link event hmem with hold | rfl
    · exact haccounted.ours message hold
    · rw [daemon_linkStep]
      cases link.input event with
      | none => exact hpending
      | some input => exact ours_step sodium input hpending
  · exact haccounted.buffer_step event hwsi hheld

end Steps

/-- Nothing is on its way before the first connection. -/
theorem accounted_start (daemon : ChatdState) (server : ChatServerState)
    (hempty : daemon.pending = []) : Accounted { daemon, server } := by
  refine ⟨fun message hmem => ?_, nofun, nofun⟩
  rcases mem_outstanding.mp hmem with rfl | hup | ⟨_, hanswer, _⟩
  · exact Or.inl hempty
  · exact absurd hup List.not_mem_nil
  · exact absurd hanswer List.not_mem_nil

theorem accounted_run (sodium : Sodium) {start : Link} (hstart : Accounted start)
    (events : List LinkEvent) :
    Accounted (Transition.run (linkStep sodium) start events) := by
  have hstep (link : Link) (event : LinkEvent) (haccounted : Accounted link) :
      Accounted (linkStep sodium link event) := accounted_step haccounted event
  exact Transition.invariant_run_of_step hstep hstart events

end ProntoChat.Relay
