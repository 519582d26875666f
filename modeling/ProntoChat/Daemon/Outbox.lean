import ProntoChat.Core.Budget
import ProntoChat.Daemon.Connection

/-!
# Messages to the control server

The daemon has one slot for outgoing messages.  A message in the slot is the next one
that is written to the server, whatever happens in between, and a command of a client
leads to a bounded number of requests, however often the session fails.
-/

namespace ProntoChat.Daemon

open ProntoChat.QuotedText
open ProntoChat.Protocole
open ProntoChat.Json
open ProntoChat.Contacts
open ProntoChat.Crypto

/-! ## The outgoing slot -/

def controlSlot : Transition.Slot ChatdState (Env × ChatdEvent) Str where
  held state := if state.pending = [] then none else some state.pending
  delivered state := state.frames
  takes input := input.2 = .control (.writeable true)
  discards _ := False

theorem controlSlot_held {state : ChatdState} {message : Str}
    (hheld : controlSlot.held state = some message) :
    state.pending = message ∧ state.pending ≠ [] := by
  simp only [controlSlot] at hheld
  split_ifs at hheld with hempty
  exact ⟨Option.some.inj hheld, hempty⟩

theorem controlSlot_keeps (sodium : Sodium) :
    controlSlot.Keeps (chatdStep sodium) fun _ _ => True where
  kept {state input message} _ hheld htakes _ := by
    obtain ⟨rfl, hfull⟩ := controlSlot_held hheld
    rcases slot_step sodium state input with ⟨hframes, hslot⟩ | ⟨hwrite, _⟩
    · have hpending := hslot.resolve_right hfull
      refine ⟨?_, hframes⟩
      simp only [controlSlot, hpending, hfull, if_false]
    · exact absurd hwrite htakes
  taken {state input message} _ hheld htakes := by
    obtain ⟨rfl, hfull⟩ := controlSlot_held hheld
    obtain ⟨env, event⟩ := input
    obtain rfl : event = .control (.writeable true) := htakes
    simp [controlSlot, chatdStep, callbackChatdControl, hfull]
  grows {state input} _ := by
    show state.frames <+: (chatdStep sodium state input).frames
    rcases slot_step sodium state input with ⟨hsame, _⟩ | ⟨_, _, hwritten, _⟩
    · rw [hsame]
    · rw [hwritten]
      exact List.prefix_append _ _

/-- The messages that were written or wait to be written. -/
def outbox (state : ChatdState) : List Str :=
  state.frames ++ (controlSlot.held state).toList

theorem outbox_step (sodium : Sodium) (state : ChatdState) (input : Env × ChatdEvent) :
    outbox state <+: outbox (chatdStep sodium state input) := by
  have hkeeps := controlSlot_keeps sodium
  cases hheld : controlSlot.held state with
  | none =>
      simp only [outbox, hheld, Option.toList_none, List.append_nil]
      exact (hkeeps.grows trivial).trans (List.prefix_append _ _)
  | some message =>
      simp only [outbox, hheld, Option.toList_some]
      by_cases hwrite : controlSlot.takes input
      · have htaken : (chatdStep sodium state input).frames = state.frames ++ [message] :=
          hkeeps.taken trivial hheld hwrite
        rw [htaken]
        exact List.prefix_append _ _
      · obtain ⟨hnext, hframes⟩ := hkeeps.kept trivial hheld hwrite id
        have hsame : (chatdStep sodium state input).frames = state.frames := hframes
        rw [hnext, hsame]
        exact List.prefix_rfl

/-- No message to the server is lost, replaced or reordered: in every run the outbox
only grows at its end, and the next write takes what was in the slot. -/
theorem outbox_kept (sodium : Sodium) (state : ChatdState)
    (inputs : List (Env × ChatdEvent)) :
    let last := Transition.run (chatdStep sodium) state inputs
    outbox state <+: outbox last ∧
      ((∃ input ∈ inputs, input.2 = .control (.writeable true)) →
        outbox state <+: last.frames) := by
  intro last
  have hstep : ∀ reached input, outbox state <+: outbox reached →
      outbox state <+: outbox (chatdStep sodium reached input) :=
    fun reached input hprefix => hprefix.trans (outbox_step sodium reached input)
  refine ⟨Transition.invariant_run_of_step hstep List.prefix_rfl inputs, ?_⟩
  have hguard : Transition.Guarded (chatdStep sodium) (fun _ _ => True) state inputs :=
    Transition.guarded_of_forall (fun _ _ _ => trivial) state
  have hkeeps := controlSlot_keeps sodium
  intro hwrite
  cases hheld : controlSlot.held state with
  | none =>
      simp only [outbox, hheld, Option.toList_none, List.append_nil]
      exact hkeeps.grows_run hguard
  | some message =>
      simp only [outbox, hheld, Option.toList_some]
      exact (hkeeps.run hguard hheld fun _ _ => id).1 hwrite

/-! ## Requests -/

/-- The requests for a session that a step placed in the slot. -/
def requestsQueued (state : ChatdState) (pending : Str) : ℕ :=
  if state.pending = [] ∧ jsonType (cString pending) = some .chatRequest then 1 else 0

/-- The step handles a command that asks for a session. -/
def asksSession (state : ChatdState) : Env × ChatdEvent → Bool
  | (env, .ipc accepted poll) => (requestedPeer env state accepted poll).isSome
  | _ => false

/-- The retries that are left to the attached client. -/
def Line.retriesLeft (line : Line) : ℕ :=
  if line.peer = [] then 0 else chatdIceRetryMax - line.retries

theorem Line.retriesLeft_le (line : Line) : line.retriesLeft ≤ chatdIceRetryMax := by
  unfold Line.retriesLeft
  split_ifs
  · exact Nat.zero_le _
  · exact Nat.sub_le _ _

theorem Detaches.retriesLeft {before after : Line} (hdetaches : Detaches before after) :
    after.retriesLeft ≤ before.retriesLeft := by
  rcases hdetaches with rfl | rfl
  · exact le_rfl
  · exact Nat.zero_le _

/-- A retry uses up one of the attempts. -/
theorem Line.MayRetry.retriesLeft {line : Line} (hretry : line.MayRetry) (env : Env) :
    1 + (line.retried env).retriesLeft = line.retriesLeft := by
  obtain ⟨_, hpeer, _, hretries⟩ := hretry
  simp only [Line.retriesLeft, Line.retried, hpeer, if_false]
  omega

theorem requestsQueued_le (state : ChatdState) (pending : Str) :
    requestsQueued state pending ≤ 1 := by
  unfold requestsQueued
  split_ifs <;> decide

/-- Messages of another type are no requests. -/
theorem requestsQueued_front (state : ChatdState) {type : ControlType}
    (htype : type ≠ .chatRequest) (rest : List (Str × Str)) :
    requestsQueued state (object ((JsonKey.type.name, type.name) :: rest)) = 0 := by
  unfold requestsQueued
  rw [jsonType_front]
  exact if_neg fun hrequest => htype (Option.some.inj hrequest.2)

theorem requestsQueued_nil (state : ChatdState) : requestsQueued state [] = 0 :=
  if_neg fun hrequest => absurd hrequest.2 (by decide)

theorem requestsQueued_same (state : ChatdState) :
    requestsQueued state state.pending = 0 := by
  by_cases hempty : state.pending = []
  · rw [hempty]
    exact requestsQueued_nil state
  · exact if_neg fun hrequest => hempty hrequest.1

/-- A request is paid for with a command or with a retry that was left. -/
def Affords (state : ChatdState) (input : Env × ChatdEvent) (line : Line) : Prop :=
  requestsQueued state line.pending + line.retriesLeft ≤
    (1 + chatdIceRetryMax) * (asksSession state input).toNat + state.line.retriesLeft

theorem LineMove.affords {env : Env} {state : ChatdState} {event : ChatdEvent}
    {line : Line} (hmove : LineMove env state event line) :
    Affords state (env, event) line := by
  have hother {next : Line} (hpending : requestsQueued state next.pending = 0)
      (hleft : next.retriesLeft = state.line.retriesLeft) :
      Affords state (env, event) next := by
    rw [Affords, hpending, hleft, Nat.zero_add]
    exact Nat.le_add_left _ _
  have hqueued {before next : Line} {type : ControlType} {rest : List (Str × Str)}
      (hqueues : Queues before next (object ((JsonKey.type.name, type.name) :: rest)))
      (htype : type ≠ .chatRequest) (hbefore : before.pending = state.pending)
      (hleft : before.retriesLeft = state.line.retriesLeft) :
      Affords state (env, event) next := by
    rcases hqueues with rfl | ⟨_, rfl⟩
    · exact hother (hbefore ▸ requestsQueued_same state) hleft
    · exact hother (requestsQueued_front state htype rest) hleft
  have hretried (hretry : state.line.MayRetry) :
      Affords state (env, event) (state.line.retried env) := by
    have hqueue := requestsQueued_le state (state.line.retried env).pending
    have hleft := hretry.retriesLeft env
    unfold Affords
    omega
  cases hmove with
  | kept | joins | enters | fails | loses =>
      exact hother (requestsQueued_same state) rfl
  | writes => exact hother (requestsQueued_nil state) rfl
  | greets _ _ hqueues => exact hqueued hqueues (by decide) rfl rfl
  | responds _ _ hqueues => exact hqueued hqueues (by decide) rfl rfl
  | establishes hqueues => exact hqueued hqueues (by decide) rfl rfl
  | signals _ hsignals =>
      cases hsignals with
      | accept => exact hother (requestsQueued_front state (by decide) _) rfl
      | cancel => exact hother (requestsQueued_front state (by decide) _) rfl
      | describe => exact hother (requestsQueued_front state (by decide) _) rfl
      | retryAccepted _ _ _ hretry => exact hretried hretry
      | retry _ _ hretry => exact hretried hretry
      | @request accepted poll fd peer hrequested _ =>
          let asked := state.line.asked fd peer (requestJson env state peer)
          have hqueue := requestsQueued_le state asked.pending
          have hleft := asked.retriesLeft_le
          have hasks : asksSession state (env, .ipc accepted poll) = true := by
            simp [asksSession, hrequested]
          rw [Affords, hasks, Bool.toNat_true]
          change requestsQueued state asked.pending + asked.retriesLeft ≤ _
          omega

theorem affords_step (sodium : Sodium) (state : ChatdState) (input : Env × ChatdEvent) :
    Affords state input (chatdStep sodium state input).line := by
  obtain ⟨moved, hmove, hdetaches⟩ := moved_step sodium state input
  obtain ⟨_, _, _, _, hpending, _⟩ := hdetaches.keeps
  rw [Affords, hpending]
  exact (Nat.add_le_add_left hdetaches.retriesLeft _).trans hmove.affords

/-- The requests for a session that a run queues. -/
def requestCount (sodium : Sodium) (state : ChatdState)
    (inputs : List (Env × ChatdEvent)) : ℕ :=
  Transition.tally (chatdStep sodium)
    (fun state input => requestsQueued state (chatdStep sodium state input).pending)
    state inputs

/-- The commands of a run that ask for a session. -/
def askCount (sodium : Sodium) (state : ChatdState)
    (inputs : List (Env × ChatdEvent)) : ℕ :=
  Transition.tally (chatdStep sodium)
    (fun state input => (asksSession state input).toNat) state inputs

/-- In every run a daemon asks its peers for sessions at most four times for each
command of a client that asks for one, however often peers accept, cancel or fail. -/
theorem requests_bounded (sodium : Sodium) (identity : ChatIdentity)
    (contacts : ContactsDb) (inputs : List (Env × ChatdEvent)) :
    requestCount sodium (initialState identity contacts) inputs ≤
      (1 + chatdIceRetryMax) *
        askCount sodium (initialState identity contacts) inputs := by
  have hbudget := @Transition.tally_add_credit_le _ _ (chatdStep sodium) _ _
    (fun state => state.line.retriesLeft) (affords_step sodium)
    (initialState identity contacts) inputs
  have hnone : (initialState identity contacts).line.retriesLeft = 0 := rfl
  rw [Transition.tally_mul, hnone] at hbudget
  exact (Nat.le_add_right _ _).trans hbudget

end ProntoChat.Daemon
