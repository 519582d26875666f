import ProntoChat.Daemon.Line

/-!
# Control connections one after another

The daemon loses its control connection and connects again, while its sessions
and its outgoing slot go on.  This module relates the reported status, the
messages written on a connection and the signalling messages to the login on
that very connection.
-/

namespace ProntoChat.Daemon

open ProntoChat.QuotedText
open ProntoChat.Protocole
open ProntoChat.Json
open ProntoChat.Contacts
open ProntoChat.Crypto

/-! ## Connection and phase -/

/-- Whether a connection is open behind an event. -/
def ChatdEvent.linked (event : ChatdEvent) (before : Bool) : Bool :=
  match event with
  | .control .established => true
  | .control .connectionError | .control .closed => false
  | _ => before

theorem linked_of_not_link {event : ChatdEvent} (hlink : event.isLink = false)
    (before : Bool) : event.linked before = before := by
  cases event with
  | control event => cases event <;> first | rfl | exact nomatch hlink
  | _ => rfl

theorem not_link_of_linked {event : ChatdEvent} {before : Bool}
    (hevent : event ≠ .control .established) (hlinked : event.linked before = true) :
    event.isLink = false := by
  cases event with
  | control event =>
      cases event <;> first | rfl | exact absurd rfl hevent | exact nomatch hlinked
  | _ => rfl

/-- The reply that completes a login. -/
def ChatdEvent.isAuthOk (event : ChatdEvent) : Bool :=
  event.message.any fun json => decide (jsonType json = some .authOk)

/-- Letting a client go keeps the login and the slot. -/
theorem Detaches.keeps {before after : Line} (hdetaches : Detaches before after) :
    after.identity = before.identity ∧ after.phase = before.phase ∧
      after.connected = before.connected ∧ after.controlWsi = before.controlWsi ∧
      after.pending = before.pending ∧ after.frames = before.frames := by
  rcases hdetaches with rfl | rfl <;> exact ⟨rfl, rfl, rfl, rfl, rfl, rfl⟩

section Step

variable {env : Env} {state : ChatdState} {event : ChatdEvent} {line : Line}

theorem Queues.keeps {before after : Line} {json : Str}
    (hqueues : Queues before after json) :
    after.identity = before.identity ∧ after.phase = before.phase ∧
      after.connected = before.connected ∧ after.controlWsi = before.controlWsi ∧
      after.frames = before.frames := by
  rcases hqueues with rfl | ⟨_, rfl⟩ <;> exact ⟨rfl, rfl, rfl, rfl, rfl⟩

theorem Signals.keeps (hsignals : Signals env state event line) :
    event.isLink = false ∧ line.identity = state.identity ∧
      line.phase = state.phase ∧ line.connected = state.connected ∧
      line.controlWsi = state.controlWsi ∧ line.frames = state.frames := by
  cases hsignals with
  | accept hmessage _ _ | cancel hmessage _ _ | retryAccepted hmessage _ _ _ =>
      exact ⟨not_link_of_message hmessage, rfl, rfl, rfl, rfl, rfl⟩
  | retry _ _ _ | describe _ _ | request _ _ => exact ⟨rfl, rfl, rfl, rfl, rfl, rfl⟩

/-- The connection after an event. -/
theorem LineMove.link (hmove : LineMove env state event line) :
    line.identity = state.identity ∧
      line.connected = event.linked state.connected ∧
      line.controlWsi = event.linked state.controlWsi := by
  cases hmove with
  | kept hlink =>
      rw [linked_of_not_link hlink, linked_of_not_link hlink]
      exact ⟨rfl, rfl, rfl⟩
  | signals _ hsignals =>
      obtain ⟨hlink, hidentity, _, hconnected, hwsi, _⟩ := hsignals.keeps
      rw [linked_of_not_link hlink, linked_of_not_link hlink]
      exact ⟨hidentity, hconnected, hwsi⟩
  | joins _ => exact ⟨rfl, rfl, rfl⟩
  | greets hmessage _ hqueues | responds hmessage _ hqueues =>
      obtain ⟨hidentity, _, hconnected, hwsi, _⟩ := hqueues.keeps
      have hlink := not_link_of_message hmessage
      rw [linked_of_not_link hlink, linked_of_not_link hlink]
      exact ⟨hidentity, hconnected, hwsi⟩
  | enters hmessage _ _ =>
      have hlink := not_link_of_message hmessage
      rw [linked_of_not_link hlink, linked_of_not_link hlink]
      exact ⟨rfl, rfl, rfl⟩
  | fails hlink =>
      rw [linked_of_not_link hlink, linked_of_not_link hlink]
      exact ⟨rfl, rfl, rfl⟩
  | writes _ => exact ⟨rfl, rfl, rfl⟩
  | establishes hqueues =>
      obtain ⟨hidentity, _, hconnected, hwsi, _⟩ := hqueues.keeps
      exact ⟨hidentity, hconnected, hwsi⟩
  | loses hevent => rcases hevent with rfl | rfl <;> exact ⟨rfl, rfl, rfl⟩

/-- The daemon is online if it was and no connection was established, or if the
event completes the login. -/
theorem LineMove.online (hmove : LineMove env state event line)
    (honline : line.phase = .online) :
    (state.phase = .online ∧ event ≠ .control .established) ∨
      (state.phase = .authResponse ∧ event.isAuthOk = true) := by
  cases hmove with
  | kept hlink => exact Or.inl ⟨honline, by rintro rfl; exact nomatch hlink⟩
  | signals _ hsignals =>
      obtain ⟨hlink, _, hphase, _⟩ := hsignals.keeps
      exact Or.inl ⟨hphase.symm.trans honline, by rintro rfl; exact nomatch hlink⟩
  | joins _ => exact Or.inl ⟨honline, nofun⟩
  | greets _ _ hqueues | responds _ _ hqueues | establishes hqueues =>
      exact nomatch hqueues.keeps.2.1.symm.trans honline
  | enters hmessage htype hphase =>
      exact Or.inr ⟨hphase, by simp [ChatdEvent.isAuthOk, hmessage, htype]⟩
  | fails _ => exact nomatch honline
  | writes _ => exact Or.inl ⟨honline, nofun⟩
  | loses hevent =>
      exact Or.inl ⟨honline, by rcases hevent with rfl | rfl <;> exact nofun⟩

end Step

section Run

variable (sodium : Sodium) (identity : ChatIdentity) (contacts : ContactsDb)

theorem link_step (state : ChatdState) (input : Env × ChatdEvent) :
    let next := chatdStep sodium state input
    next.identity = state.identity ∧
      next.connected = input.2.linked state.connected ∧
      next.controlWsi = input.2.linked state.controlWsi := by
  obtain ⟨line, hmove, hdetaches⟩ := moved_step sodium state input
  obtain ⟨hidentity, _, hconnected, hwsi, _⟩ := hdetaches.keeps
  obtain ⟨hline, hlink, hsame⟩ := hmove.link
  exact ⟨hidentity.trans hline, hconnected.trans hlink, hwsi.trans hsame⟩

theorem online_step {state : ChatdState} {input : Env × ChatdEvent}
    (honline : (chatdStep sodium state input).phase = .online) :
    (state.phase = .online ∧ input.2 ≠ .control .established) ∨
      (state.phase = .authResponse ∧ input.2.isAuthOk = true) := by
  obtain ⟨line, hmove, hdetaches⟩ := moved_step sodium state input
  obtain ⟨_, hphase, _⟩ := hdetaches.keeps
  exact hmove.online (hphase.symm.trans honline)

theorem identity_run (inputs : List (Env × ChatdEvent)) :
    (Transition.run (chatdStep sodium) (initialState identity contacts)
      inputs).identity = identity := by
  have hstep : ∀ (state : ChatdState) (input : Env × ChatdEvent),
      state.identity = identity → (chatdStep sodium state input).identity = identity :=
    fun state input hsame => (link_step sodium state input).1.trans hsame
  have hstart : (initialState identity contacts).identity = identity := rfl
  exact Transition.invariant_run_of_step hstep hstart inputs

/-- Both flags of the connection agree. -/
theorem controlWsi_eq_connected (inputs : List (Env × ChatdEvent)) :
    let state := Transition.run (chatdStep sodium) (initialState identity contacts)
      inputs
    state.controlWsi = state.connected := by
  have hstep : ∀ (state : ChatdState) (input : Env × ChatdEvent),
      state.controlWsi = state.connected →
      (chatdStep sodium state input).controlWsi =
        (chatdStep sodium state input).connected := by
    intro state input hsame
    obtain ⟨_, hconnected, hwsi⟩ := link_step sodium state input
    rw [hconnected, hwsi, hsame]
  have hstart : (initialState identity contacts).controlWsi =
      (initialState identity contacts).connected := rfl
  exact Transition.invariant_run_of_step hstep hstart inputs

/-- The login was completed by an `auth_ok`, after which the connection was
neither lost nor established anew. -/
def LoginCompleted (inputs : List (Env × ChatdEvent)) : Prop :=
  Transition.Since (chatdStep sodium) (initialState identity contacts)
    (fun before input =>
      (Transition.run (chatdStep sodium) (initialState identity contacts)
        before).phase = .authResponse ∧ input.2.isAuthOk = true)
    (fun _ input => input.2.isLink = false) inputs

/-- An online daemon with a connection completed its login on this connection. -/
theorem loginCompleted_of_online (inputs : List (Env × ChatdEvent))
    (honline : (Transition.run (chatdStep sodium) (initialState identity contacts)
      inputs).phase = .online)
    (hwsi : (Transition.run (chatdStep sodium) (initialState identity contacts)
      inputs).controlWsi = true) :
    LoginCompleted sodium identity contacts inputs := by
  induction inputs using List.reverseRecOn with
  | nil => exact nomatch honline
  | append_singleton inputs input ih =>
      rw [Transition.run_append] at honline hwsi
      obtain ⟨_, _, hlinked⟩ := link_step sodium
        (Transition.run (chatdStep sodium) (initialState identity contacts) inputs)
        input
      rcases online_step sodium honline with ⟨honline, hevent⟩ | hcompletes
      · have hlink : input.2.isLink = false :=
          not_link_of_linked hevent (hlinked.symm.trans hwsi)
        rw [linked_of_not_link hlink] at hlinked
        exact (ih honline (hlinked.symm.trans hwsi)).append hlink
      · exact Transition.since_happened hcompletes

end Run

/-! ## The reported status -/

/-- The order of callbacks: messages, writes and the close are those of an open
connection, and a connection is established or fails while none is open. -/
def inOrder (state : ChatdState) : ChatdEvent → Bool
  | .control .established | .control .connectionError => !state.connected
  | .control _ => state.connected
  | _ => true

/-- An online daemon loses its connection. -/
def losesOnline (state : ChatdState) (event : ChatdEvent) : Bool :=
  decide (state.phase = .online) &&
    (decide (event = .control .closed) || decide (event = .control .connectionError))

/-- An online daemon has a connection. -/
def StatusTrue (state : ChatdState) : Prop :=
  state.phase = .online → state.connected = true

theorem phase_lost (sodium : Sodium) (env : Env) (state : ChatdState)
    {event : ControlEvent} (hevent : event = .connectionError ∨ event = .closed) :
    (chatdStep sodium state (env, .control event)).phase = state.phase := by
  have hlost (code : Str) : (loseControl env state code).phase = state.phase := by
    unfold loseControl
    simp only
    split_ifs
    · exact (detaches_writeLookupResponse env _ _).keeps.2.1
    · rfl
  rcases hevent with rfl | rfl
  · exact hlost _
  · simp only [chatdStep, callbackChatdControl]
    split_ifs <;> exact hlost _

theorem connected_of_isAuthOk {state : ChatdState} {event : ChatdEvent}
    (hauth : event.isAuthOk = true) (horder : inOrder state event = true) :
    state.connected = true ∧ event.isLink = false := by
  cases hmessage : event.message with
  | none => simp [ChatdEvent.isAuthOk, hmessage] at hauth
  | some json =>
      refine ⟨?_, not_link_of_message hmessage⟩
      cases event with
      | control event => cases event <;> first | exact horder | exact nomatch hmessage
      | _ => exact nomatch hmessage

/-- From a state with a true status, the next event keeps it true unless it ends
the connection of an online daemon. -/
theorem statusTrue_step_iff (sodium : Sodium) {state : ChatdState}
    {input : Env × ChatdEvent} (htrue : StatusTrue state)
    (horder : inOrder state input.2 = true) :
    StatusTrue (chatdStep sodium state input) ↔
      losesOnline state input.2 = false := by
  obtain ⟨env, event⟩ := input
  obtain ⟨_, hconnected, _⟩ := link_step sodium state (env, event)
  constructor
  · intro hnext
    by_contra hloses
    simp only [losesOnline, Bool.not_eq_false, Bool.and_eq_true, Bool.or_eq_true,
      decide_eq_true_eq] at hloses
    obtain ⟨honline, hevent⟩ := hloses
    rcases hevent with rfl | rfl
    · have hstill := (phase_lost sodium env state (Or.inr rfl)).trans honline
      exact nomatch hconnected.symm.trans (hnext hstill)
    · have hstill := (phase_lost sodium env state (Or.inl rfl)).trans honline
      exact nomatch hconnected.symm.trans (hnext hstill)
  · intro hkeeps honline
    rw [hconnected]
    rcases online_step sodium honline with ⟨hbefore, _⟩ | ⟨_, hauth⟩
    · rw [htrue hbefore]
      simp only [losesOnline, hbefore, decide_true, Bool.true_and, Bool.or_eq_false_iff,
        decide_eq_false_iff_not] at hkeeps
      cases event with
      | control event =>
          cases event <;> first | rfl | exact absurd rfl hkeeps.1 | exact absurd rfl hkeeps.2
      | _ => rfl
    · obtain ⟨hopen, hlink⟩ := connected_of_isAuthOk hauth horder
      rw [linked_of_not_link hlink]
      exact hopen

/-- The answer to the `STATUS` command. -/
theorem handleIpcClient_status (env : Env) (fd : ℕ) (state : ChatdState) :
    ∃ word, handleIpcClient env fd state (bytes "STATUS\n") =
        (writeIpcResponse env state fd (.status word state.identity.username), false) ∧
      (word = bytes "ONLINE" → state.phase = .online) := by
  have hcommand : cString ((bytes "STATUS\n").take (chatIpcMaxCommand - 1)) =
      bytes "STATUS\n" := by
    decide
  have hinput : bytes "STATUS\n" ≠ [] := by decide
  have hconnecting : bytes "CONNECTING" ≠ bytes "ONLINE" := by decide
  have hoffline : bytes "OFFLINE" ≠ bytes "ONLINE" := by decide
  simp only [handleIpcClient, hcommand, if_neg hinput, true_or, if_true,
    writeIpcStatus]
  refine ⟨_, rfl, fun hword => ?_⟩
  by_contra hphase
  rw [if_neg hphase] at hword
  split_ifs at hword
  · exact hconnecting hword
  · exact hoffline hword

/-- In every run in which no online daemon loses its connection, an online
daemon is connected, completed its login on this connection, and `STATUS` answers
`ONLINE` only then.  Losing the connection while online breaks this at once. -/
theorem status_true_of_not_lost (sodium : Sodium) (identity : ChatIdentity)
    (contacts : ContactsDb) {inputs : List (Env × ChatdEvent)}
    (hguard : Transition.Guarded (chatdStep sodium)
      (fun state input => inOrder state input.2 = true ∧
        losesOnline state input.2 = false) (initialState identity contacts) inputs) :
    let state := Transition.run (chatdStep sodium) (initialState identity contacts)
      inputs
    (state.phase = .online → state.connected = true ∧ state.controlWsi = true ∧
      LoginCompleted sodium identity contacts inputs) ∧
    (∀ env fd, ∃ word, handleIpcClient env fd state (bytes "STATUS\n") =
        (writeIpcResponse env state fd (.status word state.identity.username), false) ∧
      (word = bytes "ONLINE" → state.connected = true ∧ state.controlWsi = true ∧
        LoginCompleted sodium identity contacts inputs)) ∧
    ∀ input, inOrder state input.2 = true →
      (StatusTrue (chatdStep sodium state input) ↔
        losesOnline state input.2 = false) := by
  intro state
  have htrue : StatusTrue state := by
    have hstep : ∀ (state : ChatdState) (input : Env × ChatdEvent),
        inOrder state input.2 = true ∧ losesOnline state input.2 = false →
        StatusTrue state → StatusTrue (chatdStep sodium state input) :=
      fun state input hinput hstate =>
        (statusTrue_step_iff sodium hstate hinput.1).mpr hinput.2
    have hstart : StatusTrue (initialState identity contacts) := nofun
    exact Transition.invariant_run hstep hstart hguard
  have hsame : state.controlWsi = state.connected :=
    controlWsi_eq_connected sodium identity contacts inputs
  have honline (hphase : state.phase = .online) : state.connected = true ∧
      state.controlWsi = true ∧ LoginCompleted sodium identity contacts inputs := by
    have hconnected := htrue hphase
    have hwsi := hsame.trans hconnected
    exact ⟨hconnected, hwsi,
      loginCompleted_of_online sodium identity contacts inputs hphase hwsi⟩
  refine ⟨honline, fun env fd => ?_, fun input => statusTrue_step_iff sodium htrue⟩
  obtain ⟨word, hanswer, hword⟩ := handleIpcClient_status env fd state
  exact ⟨word, hanswer, fun hsays => honline (hword hsays)⟩

/-- Bob's status is true after his login. -/
theorem status_true_bob :
    LoginCompleted Transparent.sodium bob none
      (smoothly 2 (login (Transparent.repeated 32 9))) := by
  have hfacts : Transition.Guarded (chatdStep Transparent.sodium)
      (fun state input => inOrder state input.2 = true ∧
        losesOnline state input.2 = false) (initialState bob none)
      (smoothly 2 (login (Transparent.repeated 32 9))) ∧
      (Transition.run (chatdStep Transparent.sodium) (initialState bob none)
        (smoothly 2 (login (Transparent.repeated 32 9)))).phase = .online := by
    decide +kernel
  obtain ⟨hguard, hphase⟩ := hfacts
  have hstatus := status_true_of_not_lost Transparent.sodium bob none hguard
  exact (hstatus.1 hphase).2.2

/-- Bob's connection is closed after his login, and the daemon still answers
`ONLINE`. -/
theorem online_without_connection :
    let state := Transition.run (chatdStep Transparent.sodium) (initialState bob none)
      (smoothly 2 (login (Transparent.repeated 32 9) ++
        [.control .closed, .ipc (some 5) (.readable (bytes "STATUS\n"))]))
    state.connected = false ∧
      Effect.ipcLine 5 none (.status (bytes "ONLINE") bob.username) true ∈
        state.log := by
  decide +kernel

/-! ## Messages of one connection -/

/-- The slot keeps its message, takes one while it is empty, or is written. -/
theorem LineMove.slot {env : Env} {state : ChatdState} {event : ChatdEvent}
    {line : Line} (hmove : LineMove env state event line) :
    (line.frames = state.frames ∧
      (line.pending = state.pending ∨ state.pending = [])) ∨
    (event = .control (.writeable true) ∧ state.pending ≠ [] ∧
      line.frames = state.frames ++ [state.pending] ∧ line.pending = []) := by
  have hqueued {before after : Line} {json : Str} (hqueues : Queues before after json) :
      after.pending = before.pending ∨ before.pending = [] :=
    hqueues.imp (congrArg Line.pending) And.left
  cases hmove with
  | kept _ | joins _ | enters _ _ _ | fails _ | loses _ =>
      exact Or.inl ⟨rfl, Or.inl rfl⟩
  | signals hempty hsignals => exact Or.inl ⟨hsignals.keeps.2.2.2.2.2, Or.inr hempty⟩
  | greets _ _ hqueues | responds _ _ hqueues | establishes hqueues =>
      exact Or.inl ⟨hqueues.keeps.2.2.2.2, hqueued hqueues⟩
  | writes hfull => exact Or.inr ⟨rfl, hfull, rfl, rfl⟩

theorem slot_step (sodium : Sodium) (state : ChatdState) (input : Env × ChatdEvent) :
    let next := chatdStep sodium state input
    (next.frames = state.frames ∧
      (next.pending = state.pending ∨ state.pending = [])) ∨
    (input.2 = .control (.writeable true) ∧ state.pending ≠ [] ∧
      next.frames = state.frames ++ [state.pending] ∧ next.pending = []) := by
  obtain ⟨line, hmove, hdetaches⟩ := moved_step sodium state input
  obtain ⟨_, _, _, _, hpending, hframes⟩ := hdetaches.keeps
  rcases hmove.slot with ⟨hsame, hslot⟩ | ⟨hevent, hfull, hwritten, hempty⟩
  · exact Or.inl ⟨hframes.trans hsame, hslot.imp_left hpending.trans⟩
  · exact Or.inr ⟨hevent, hfull, hframes.trans hwritten, hpending.trans hempty⟩

/-- A message that was written, with the connection on which it was written and
the one on which it was queued. -/
structure WrittenMessage where
  writtenOn : ℕ
  queuedOn : ℕ
  json : Str
  deriving DecidableEq

/-- The number of connections so far, the connection on which the message in the
slot was queued, and the written messages. -/
structure Ledger where
  connection : ℕ := 0
  queuedOn : ℕ := 0
  written : List WrittenMessage := []

/-- The ledger behind a step from `state` to `next`. -/
def Ledger.record (ledger : Ledger) (state next : ChatdState) (event : ChatdEvent) :
    Ledger :=
  let connection :=
    if event = .control .established then ledger.connection + 1
    else ledger.connection
  { connection
    queuedOn := if state.pending = [] then connection else ledger.queuedOn
    written := ledger.written ++
      (next.frames.drop state.frames.length).map fun json =>
        ⟨connection, ledger.queuedOn, json⟩ }

/-- A step of the daemon with its ledger. -/
def ledgerStep (sodium : Sodium) (state : ChatdState × Ledger)
    (input : Env × ChatdEvent) : ChatdState × Ledger :=
  let next := chatdStep sodium state.1 input
  (next, state.2.record state.1 next input.2)

/-- The messages written on a connection, in order. -/
def Ledger.writtenOn (ledger : Ledger) (connection : ℕ) : List WrittenMessage :=
  ledger.written.filter fun message => message.writtenOn = connection

structure LedgerSound (identity : ChatIdentity) (state : ChatdState × Ledger) :
    Prop where
  owner : state.1.identity = identity
  /-- Nothing is written on another connection than it was queued on. -/
  own : ∀ message ∈ state.2.written, message.queuedOn = message.writtenOn
  slot : state.1.pending ≠ [] → state.2.queuedOn = state.2.connection
  bounded : ∀ message ∈ state.2.written, message.writtenOn ≤ state.2.connection
  first : ∀ connection, 1 ≤ connection →
    ∀ message ∈ (state.2.writtenOn connection).head?,
      message.json = registerJson identity
  /-- The slot of a new connection holds the first message. -/
  fresh : 1 ≤ state.2.connection → state.2.writtenOn state.2.connection = [] →
    state.1.pending = registerJson identity

/-- The register message is queued in an empty slot. -/
theorem callback_established (sodium : Sodium) (env : Env) {state : ChatdState}
    (hname : chatUsernameIsValid state.identity.username = true)
    (hempty : state.pending = []) :
    callbackChatdControl sodium env state .established =
      ({ state with
          controlWsi := true
          connected := true
          phase := .register
          pending := registerJson state.identity }, true) := by
  have hslot : { state with
      controlWsi := true, connected := true, phase := .register }.pending = [] := hempty
  exact queueFormatted_of_lt hslot (length_registerJson hname) (by decide)

theorem established_result (sodium : Sodium) (env : Env) {state : ChatdState}
    (hname : chatUsernameIsValid state.identity.username = true) :
    (callbackChatdControl sodium env state .established).2 = true ↔
      state.pending = [] := by
  constructor
  · intro hok
    obtain ⟨hempty, _⟩ := queueFormatted_ok (Prod.ext rfl hok)
    exact hempty
  · intro hempty
    rw [callback_established sodium env hname hempty]

theorem ledgerSound_step (sodium : Sodium) {identity : ChatIdentity}
    (hname : chatUsernameIsValid identity.username = true)
    {state : ChatdState × Ledger} {input : Env × ChatdEvent}
    (hestablished : input.2 = .control .established → state.1.pending = [])
    (hsound : LedgerSound identity state) :
    LedgerSound identity (ledgerStep sodium state input) := by
  obtain ⟨daemon, ledger⟩ := state
  obtain ⟨hidentity, hown, hslot, hbounded, hfirst, hfresh⟩ := hsound
  have hnext := (link_step sodium daemon input).1.trans hidentity
  simp only at hidentity hown hslot hbounded hfirst hfresh hestablished
  unfold ledgerStep
  rcases slot_step sodium daemon input with
    ⟨hframes, hpending⟩ | ⟨hevent, hfull, hframes, hpending⟩
  · by_cases hevent : input.2 = .control .established
    · -- A new connection finds the slot empty and queues the register message.
      have hempty := hestablished hevent
      have hregister : (chatdStep sodium daemon input).pending =
          registerJson identity := by
        obtain ⟨env, event⟩ := input
        obtain rfl := hevent
        rw [← hidentity] at hname ⊢
        simp only [chatdStep, callback_established sodium env hname hempty]
      simp only [Ledger.record, hframes, List.drop_length, List.map_nil,
        List.append_nil, if_pos hevent, if_pos hempty]
      exact ⟨hnext, hown, fun _ => rfl,
        fun message hmem => (hbounded message hmem).trans (Nat.le_succ _), hfirst,
        fun _ _ => hregister⟩
    · simp only [Ledger.record, hframes, List.drop_length, List.map_nil,
        List.append_nil, if_neg hevent]
      refine ⟨hnext, hown, fun hfull => ?_, hbounded, hfirst, fun hopen hnone => ?_⟩
      · by_cases hempty : daemon.pending = []
        · exact if_pos hempty
        · exact (if_neg hempty).trans (hslot hempty)
      · have hregister := hfresh hopen hnone
        rcases hpending with hsame | hempty
        · exact hsame.trans hregister
        · exact absurd (hregister.symm.trans hempty) (List.cons_ne_nil _ _)
  · have hcontinues : input.2 ≠ .control .established := by
      simp [hevent]
    have hwritten : (chatdStep sodium daemon input).frames.drop daemon.frames.length =
        [daemon.pending] := by
      rw [hframes, List.drop_left]
    have hqueued := hslot hfull
    simp only [Ledger.record, hwritten, List.map_cons, List.map_nil,
      if_neg hcontinues, if_neg hfull, hqueued]
    have hlast (connection : ℕ) : ({ ledger with
          queuedOn := ledger.connection
          written := ledger.written ++
            [⟨ledger.connection, ledger.connection, daemon.pending⟩] } :
          Ledger).writtenOn connection =
        ledger.writtenOn connection ++ if ledger.connection = connection then
          [⟨ledger.connection, ledger.connection, daemon.pending⟩] else [] := by
      simp only [Ledger.writtenOn, List.filter_append, List.filter_cons,
        List.filter_nil, decide_eq_true_eq]
    refine ⟨hnext, ?_, fun hnone => absurd hpending hnone, ?_, ?_, ?_⟩
    · exact List.forall_mem_append.mpr ⟨hown, List.forall_mem_singleton.mpr rfl⟩
    · exact List.forall_mem_append.mpr ⟨hbounded, List.forall_mem_singleton.mpr le_rfl⟩
    · intro connection hconnection message hmessage
      rw [hlast] at hmessage
      cases hold : ledger.writtenOn connection with
      | nil =>
          rw [hold, List.nil_append] at hmessage
          split_ifs at hmessage with hcurrent
          · subst hcurrent
            obtain rfl := Option.some.inj hmessage
            exact hfresh hconnection hold
          · simp at hmessage
      | cons first rest =>
          rw [hold] at hmessage
          exact hfirst connection hconnection message (by rw [hold]; exact hmessage)
    · intro hopen hnone
      rw [hlast, if_pos rfl] at hnone
      exact absurd hnone (by simp)

/-- In every run in which each new connection finds the outgoing slot empty, the
callback of every new connection succeeds, the register message is the first one
written on it, and no message is written on another connection than it was
queued on.  A connection that finds the slot full is refused. -/
theorem clean_login_of_empty_slot (sodium : Sodium) (identity : ChatIdentity)
    (contacts : ContactsDb)
    (hname : chatUsernameIsValid identity.username = true)
    {inputs : List (Env × ChatdEvent)}
    (hguard : Transition.Guarded (ledgerStep sodium)
      (fun state input => input.2 = .control .established → state.1.pending = [])
      (initialState identity contacts, {}) inputs) :
    let reached (inputs : List (Env × ChatdEvent)) :=
      Transition.run (ledgerStep sodium) (initialState identity contacts, {}) inputs
    (∀ before env after, inputs = before ++ (env, .control .established) :: after →
      (callbackChatdControl sodium env (reached before).1 .established).2 = true) ∧
    (∀ connection, 1 ≤ connection →
      ∀ message ∈ ((reached inputs).2.writtenOn connection).head?,
        message.json = registerJson identity) ∧
    (∀ message ∈ (reached inputs).2.written, message.queuedOn = message.writtenOn) ∧
    ∀ env, (callbackChatdControl sodium env (reached inputs).1 .established).2 =
        true ↔ (reached inputs).1.pending = [] := by
  intro reached
  have hsound {inputs : List (Env × ChatdEvent)}
      (hguard : Transition.Guarded (ledgerStep sodium)
        (fun state input => input.2 = .control .established → state.1.pending = [])
        (initialState identity contacts, {}) inputs) :
      LedgerSound identity (reached inputs) := by
    have hstep : ∀ (state : ChatdState × Ledger) (input : Env × ChatdEvent),
        (input.2 = .control .established → state.1.pending = []) →
        LedgerSound identity state →
        LedgerSound identity (ledgerStep sodium state input) :=
      fun state input hestablished => ledgerSound_step sodium hname hestablished
    have hstart : LedgerSound identity (initialState identity contacts, {}) :=
      ⟨rfl, nofun, nofun, nofun, nofun, nofun⟩
    exact Transition.invariant_run hstep hstart hguard
  have hresult {inputs : List (Env × ChatdEvent)} (env : Env)
      (hstate : LedgerSound identity (reached inputs)) :
      (callbackChatdControl sodium env (reached inputs).1 .established).2 = true ↔
        (reached inputs).1.pending = [] :=
    established_result sodium env (hstate.owner ▸ hname)
  have hfinal := hsound hguard
  refine ⟨fun before env after hinputs => ?_, hfinal.first, hfinal.own,
    fun env => hresult env hfinal⟩
  rw [hinputs, Transition.guarded_append] at hguard
  obtain ⟨hbefore, hestablished, _⟩ := hguard
  exact (hresult env (hsound hbefore)).mpr (hestablished rfl)

/-- Bob logs in, loses the connection and logs in again. -/
def bobReconnects : List ChatdEvent :=
  login (Transparent.repeated 32 9) ++
    .control .closed :: login (Transparent.repeated 32 8)

/-- The first message on Bob's second connection is his register message. -/
theorem clean_login_bob :
    ∃ message, ((Transition.run (ledgerStep Transparent.sodium)
        (initialState bob none, {}) (smoothly 2 bobReconnects)).2.writtenOn 2).head? =
        some message ∧
      message.json = registerJson bob := by
  have hfacts : Transition.Guarded (ledgerStep Transparent.sodium)
      (fun state input => input.2 = .control .established → state.1.pending = [])
      (initialState bob none, {}) (smoothly 2 bobReconnects) ∧
      ((Transition.run (ledgerStep Transparent.sodium) (initialState bob none, {})
        (smoothly 2 bobReconnects)).2.writtenOn 2).head?.isSome = true := by
    decide +kernel
  obtain ⟨hguard, hsome⟩ := hfacts
  obtain ⟨message, hmessage⟩ := Option.isSome_iff_exists.mp hsome
  obtain ⟨_, hfirst, _⟩ := clean_login_of_empty_slot Transparent.sodium bob none
    (by decide) hguard
  exact ⟨message, hmessage, hfirst 2 (by decide) message hmessage⟩

/-- Bob's connection is closed with a request in the slot.  Every later
connection is refused by its own callback. -/
theorem reconnection_refused :
    let state := Transition.run (chatdStep Transparent.sodium) (initialState bob none)
      (smoothly 2 (login (Transparent.repeated 32 9) ++
        [openChat 7 alice.username, .control .closed]))
    let later := Transition.run (chatdStep Transparent.sodium) state
      (smoothly 2 [.control .established, .control .closed])
    (callbackChatdControl Transparent.sodium (Env.smooth 1 2) state .established).2 =
        false ∧
      (callbackChatdControl Transparent.sodium (Env.smooth 1 2) later
        .established).2 = false := by
  decide +kernel

/-! ## Signalling after the login -/

/-- The types of the messages by which sessions are arranged. -/
def sessionTypes : List ControlType :=
  [.chatRequest, .chatAccept, .chatCancel, .iceCredentials]

/-- The daemon is online on its connection. -/
def onlineNow (state : ChatdState) : Bool :=
  decide (state.phase = .online) && state.controlWsi

/-- Requests and answers of other users arrive on a connection with a completed
login only. -/
def relayedOnline (state : ChatdState) (event : ChatdEvent) : Bool :=
  onlineNow state || event.message.all fun json =>
    decide (jsonType json ≠ some .chatRequest) &&
      decide (jsonType json ≠ some .chatAccept)

instance (line : Line) : Decidable line.MayRetry :=
  inferInstanceAs (Decidable (_ ∧ _ ∧ _ ∧ _))

/-- A service step before the login is completed finds no session that has a
description to send or that would be asked for again. -/
def servedOnline (state : ChatdState) (event : ChatdEvent) : Bool :=
  onlineNow state || decide (event ≠ .serviceIce) || decide (state.pending ≠ []) ||
    !state.session.iceActive ||
    (!describes state &&
      (state.session.encryptedSessionReady || !decide state.line.MayRetry))

theorem jsonType_registerJson {identity : ChatIdentity}
    (hname : chatUsernameIsValid identity.username = true) :
    jsonType (registerJson identity) = some .register := by
  refine jsonType_object .register (List.forall_mem_cons.mpr
    ⟨⟨JsonKey.username.searchName.plain, plain_of_username hname⟩,
      List.forall_mem_singleton.mpr
        ⟨JsonKey.publicKey.searchName.plain, plain_sodiumBin2hex _⟩⟩)

theorem jsonType_helloJson {username : Str}
    (hname : chatUsernameIsValid username = true) :
    jsonType (helloJson username) = some .hello :=
  jsonType_object .hello (List.forall_mem_singleton.mpr
    ⟨JsonKey.username.searchName.plain, plain_of_username hname⟩)

theorem jsonType_authResponseJson (signature : Bytes 64) :
    jsonType (authResponseJson signature) = some .authResponse :=
  jsonType_object .authResponse (List.forall_mem_singleton.mpr
    ⟨JsonKey.signature.searchName.plain, plain_sodiumBin2hex signature⟩)

/-- A message of a session is queued by a daemon that is online. -/
theorem Signals.online {env : Env} {state : ChatdState} {event : ChatdEvent}
    {line : Line} (hsignals : Signals env state event line)
    (hempty : state.pending = []) (hrelayed : relayedOnline state event = true)
    (hserved : servedOnline state event = true) : onlineNow state = true := by
  by_contra hoffline
  rw [Bool.not_eq_true] at hoffline
  simp only [relayedOnline, servedOnline, hoffline, Bool.false_or] at hrelayed hserved
  cases hsignals with
  | accept hmessage htype _ => simp [hmessage, htype] at hrelayed
  | cancel hmessage htype _ | retryAccepted hmessage htype _ _ =>
      simp [hmessage, htype] at hrelayed
  | retry hactive hready hretry => simp [hempty, hactive, hready, hretry] at hserved
  | describe hactive hdescribes => simp [hempty, hactive, hdescribes] at hserved
  | request _ hanswer =>
      obtain ⟨_, hphase, hwsi, _⟩ := openChatAnswer_request hanswer
      simp [onlineNow, hphase, hwsi] at hoffline

/-- A message that is placed in the slot has the type of a session only if the
daemon is online. -/
theorem LineMove.placed_online {env : Env} {state : ChatdState} {event : ChatdEvent}
    {line : Line} (hmove : LineMove env state event line)
    (hname : chatUsernameIsValid state.identity.username = true)
    (hrelayed : relayedOnline state event = true)
    (hserved : servedOnline state event = true)
    (hplaced : line.pending ≠ state.pending) {type : ControlType}
    (htype : jsonType line.pending = some type) (hsession : type ∈ sessionTypes) :
    onlineNow state = true := by
  have hlogin {before after : Line} {json : Str} {login : ControlType}
      (hqueues : Queues before after json) (hbefore : before.pending = state.pending)
      (hjson : jsonType json = some login) (hafter : after = line)
      (hother : login ∉ sessionTypes) : onlineNow state = true := by
    subst hafter
    rcases hqueues with rfl | ⟨_, rfl⟩
    · exact absurd hbefore hplaced
    · obtain rfl := Option.some.inj (hjson.symm.trans htype)
      exact absurd hsession hother
  cases hmove with
  | kept _ | joins _ | enters _ _ _ | fails _ | loses _ => exact absurd rfl hplaced
  | signals hempty hsignals => exact hsignals.online hempty hrelayed hserved
  | greets _ _ hqueues =>
      exact hlogin hqueues rfl (jsonType_helloJson hname) rfl (by decide)
  | responds _ _ hqueues =>
      exact hlogin hqueues rfl (jsonType_authResponseJson _) rfl (by decide)
  | establishes hqueues =>
      exact hlogin hqueues rfl (jsonType_registerJson hname) rfl (by decide)
  | writes _ =>
      have hnone : jsonType [] = none := by decide
      exact nomatch hnone.symm.trans htype

/-- In every run in which requests and answers arrive on connections with a
completed login and no session is served that would signal before, a message of a
session is placed in the outgoing slot only while the daemon is online on the
current connection. -/
theorem signalling_after_login (sodium : Sodium) (identity : ChatIdentity)
    (contacts : ContactsDb)
    (hname : chatUsernameIsValid identity.username = true)
    {inputs : List (Env × ChatdEvent)} {input : Env × ChatdEvent}
    (hguard : Transition.Guarded (chatdStep sodium)
      (fun state input => relayedOnline state input.2 = true ∧
        servedOnline state input.2 = true)
      (initialState identity contacts) (inputs ++ [input])) :
    let state := Transition.run (chatdStep sodium) (initialState identity contacts)
      inputs
    let next := chatdStep sodium state input
    ∀ type, next.pending ≠ state.pending → jsonType next.pending = some type →
      type ∈ sessionTypes →
      state.phase = .online ∧ state.controlWsi = true ∧
        LoginCompleted sodium identity contacts inputs := by
  intro state next type hplaced htype hsession
  rw [Transition.guarded_append] at hguard
  obtain ⟨_, ⟨hrelayed, hserved⟩, _⟩ := hguard
  have hidentity : state.identity = identity :=
    identity_run sodium identity contacts inputs
  obtain ⟨line, hmove, hdetaches⟩ := moved_step sodium state input
  obtain ⟨_, _, _, _, hpending, _⟩ := hdetaches.keeps
  have hsame : next.pending = line.pending := hpending
  rw [hsame] at hplaced htype
  have honline := hmove.placed_online (hidentity ▸ hname) hrelayed hserved hplaced
    htype hsession
  simp only [onlineNow, Bool.and_eq_true, decide_eq_true_eq] at honline
  exact ⟨honline.1, honline.2,
    loginCompleted_of_online sodium identity contacts inputs honline.1 honline.2⟩

/-- Bob asks for a session with Alice on the connection of his login. -/
theorem signalling_after_login_bob :
    LoginCompleted Transparent.sodium bob none
      (smoothly 2 (login (Transparent.repeated 32 9))) := by
  have hfacts : Transition.Guarded (chatdStep Transparent.sodium)
      (fun state input => relayedOnline state input.2 = true ∧
        servedOnline state input.2 = true) (initialState bob none)
      (smoothly 2 (login (Transparent.repeated 32 9)) ++
        [(Env.smooth 1 2, openChat 7 alice.username)]) ∧
      let state := Transition.run (chatdStep Transparent.sodium) (initialState bob none)
        (smoothly 2 (login (Transparent.repeated 32 9)))
      let next := chatdStep Transparent.sodium state
        (Env.smooth 1 2, openChat 7 alice.username)
      next.pending ≠ state.pending ∧ jsonType next.pending = some .chatRequest := by
    decide +kernel
  obtain ⟨hguard, hplaced, htype⟩ := hfacts
  exact (signalling_after_login Transparent.sodium bob none (by decide) hguard _
    hplaced htype (by decide)).2.2

/-- Alice has accepted Bob's request when his connection is lost.  On the next
connection the description of the session is queued before his login. -/
theorem description_before_login :
    let state := Transition.run (chatdStep Transparent.sodium) (initialState bob none)
      (smoothly 2 (login (Transparent.repeated 32 9) ++
        [openChat 7 alice.username, .control (.writeable true),
          receive (offerJson .chatAccept alice bob.username
            (sodiumBin2hex (Transparent.repeated 16 2))),
          .control .closed, .control .established, .control (.writeable true),
          .ice .candidateGatheringDone]))
    let next := chatdStep Transparent.sodium state (Env.smooth 1 2, .serviceIce)
    state.phase = .register ∧ state.pending = [] ∧
      jsonType next.pending = some .iceCredentials := by
  decide +kernel

end ProntoChat.Daemon
