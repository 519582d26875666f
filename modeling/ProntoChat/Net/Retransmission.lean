import ProntoChat.Core.Transition
import ProntoChat.Daemon.Scenario
import ProntoChat.Net.Network
import ProntoChat.Net.StreamHeaders

/-!
# Retransmission of the stream header

A daemon repeats its stream header until its own session is ready, which says
nothing about the header having arrived.  The header is covered as long as no
step loses the last copy that is on its way.
-/

namespace ProntoChat.Net

open ProntoChat.QuotedText
open ProntoChat.Protocole
open ProntoChat.Crypto
open ProntoChat.Ice
open ProntoChat.Daemon

variable {sodium : Sodium} {env : Env} {state next : ChatdState}

/-! ## A header on its way -/

/-- The datagrams of the sender that the receiver has not handled. -/
def inFlight (sender receiver : ChatdState) : List (List UInt8) :=
  receiver.session.ice.received ++ sender.datagrams

/-- Once the sender is ready, the receiver has accepted its header or a copy is
on its way. -/
structure HeaderCovered (sender receiver : ChatdState) : Prop where
  agent : receiver.session.iceActive = true →
    receiver.session.ice.agent = true
  accepted : receiver.session.iceActive = true →
    receiver.session.encryptedSessionReady = true →
    receiver.session.cryptoStreamHeaderReceived = true
  covered : sender.session.iceActive = true →
    receiver.session.iceActive = true →
    sender.session.encryptedSessionReady = true →
    receiver.session.cryptoStreamHeaderReceived = true ∨
      headerPacket sender.session ∈ inFlight sender receiver

theorem mem_eraseIdx_of_mem {packets : List (List UInt8)} {index : ℕ}
    {packet other : List UInt8} (hpacket : packets[index]? = some packet)
    (hmem : other ∈ packets) : other = packet ∨ other ∈ packets.eraseIdx index := by
  obtain ⟨position, hposition⟩ := List.mem_iff_getElem?.mp hmem
  by_cases heq : position = index
  · subst heq
    exact Or.inl (Option.some.inj (hposition.symm.trans hpacket))
  · exact Or.inr (List.mem_eraseIdx_iff_getElem?.mpr ⟨position, heq, hposition⟩)

section Covered

variable {sender receiver : ChatdState}

theorem headerPacket_of_own {session other : ChatdSession}
    (hown : (flags session).own = (flags other).own) :
    headerPacket session = headerPacket other :=
  congrArg (fun own : Bytes 24 => chatPacket .streamHeader own.toList) hown

/-- The sender keeps its readiness and its header and adds datagrams. -/
theorem HeaderCovered.of_sender (hcovered : HeaderCovered sender receiver)
    (hdatagrams : sender.datagrams <+: next.datagrams)
    (hflags : next.session.iceActive = true →
      next.session.encryptedSessionReady = true →
      sender.session.iceActive = true ∧
        sender.session.encryptedSessionReady = true ∧
        headerPacket next.session = headerPacket sender.session) :
    HeaderCovered next receiver where
  agent := hcovered.agent
  accepted := hcovered.accepted
  covered := by
    intro hnext hreceiver hready
    obtain ⟨hactive, hsender, hpacket⟩ := hflags hnext hready
    rcases hcovered.covered hactive hreceiver hsender with haccepted | hmem
    · exact Or.inl haccepted
    · rw [hpacket]
      exact Or.inr (((List.prefix_append_right_inj _).mpr hdatagrams).subset hmem)

theorem HeaderCovered.sender_steady (hcovered : HeaderCovered sender receiver)
    (hsteady : Steady sender next) : HeaderCovered next receiver := by
  refine hcovered.of_sender hsteady.datagrams fun hactive hready => ?_
  have hflags := hsteady.flags hactive
  exact ⟨(congrArg HeaderFlags.active hflags).symm.trans hactive,
    (congrArg HeaderFlags.ready hflags).symm.trans hready,
    headerPacket_of_own (congrArg HeaderFlags.own hflags)⟩

/-- The flags and the queue of the receiver are the same. -/
theorem HeaderCovered.receiver_steady (hcovered : HeaderCovered sender receiver)
    (hflags : next.session.iceActive = true →
      flags next.session = flags receiver.session) :
    HeaderCovered sender next := by
  have hsame (hactive : next.session.iceActive = true) :
      receiver.session.iceActive = true :=
    (congrArg HeaderFlags.active (hflags hactive)).symm.trans hactive
  refine ⟨fun hactive => ?_, fun hactive hready => ?_, fun hsender hactive hready => ?_⟩
  · exact (congrArg HeaderFlags.agent (hflags hactive)).trans
      (hcovered.agent (hsame hactive))
  · exact (congrArg HeaderFlags.received (hflags hactive)).trans
      (hcovered.accepted (hsame hactive)
        ((congrArg HeaderFlags.ready (hflags hactive)).symm.trans hready))
  · have hqueue : next.session.ice.received = receiver.session.ice.received :=
      congrArg HeaderFlags.queue (hflags hactive)
    rw [inFlight, hqueue]
    rcases hcovered.covered hsender (hsame hactive) hready with haccepted | hmem
    · exact Or.inl ((congrArg HeaderFlags.received (hflags hactive)).trans haccepted)
    · exact Or.inr hmem

/-- The sender is served: it becomes ready only with its header on the way,
unless the header was sent before and is not due. -/
theorem HeaderCovered.sender_service (hcovered : HeaderCovered sender receiver)
    (hresent : sender.session.iceActive = true →
      receiver.session.iceActive = true →
      receiver.session.cryptoStreamHeaderReceived = false →
      sender.session.encryptedSessionReady = false →
      sender.session.cryptoStreamHeaderSent = true →
      streamHeaderDue env sender.session = false →
      headerPacket sender.session ∈ inFlight sender receiver) :
    HeaderCovered (serviceIceSession sodium env sender) receiver := by
  cases hready : sender.session.encryptedSessionReady with
  | true =>
      have htouched : Touched sender (serviceIceSession sodium env sender) :=
        touched_serviceIceSession hready
      refine hcovered.of_sender (htouched.datagrams ▸ List.prefix_refl _)
        fun hactive _ => ?_
      rcases htouched.flags with hended | ⟨_, _, _, _, hflags⟩
      · exact absurd (hended.symm.trans hactive) Bool.false_ne_true
      · have hown : (flags (serviceIceSession sodium env sender).session).own =
            (flags sender.session).own := by
          rw [hflags]
        exact ⟨(congrArg HeaderFlags.active hflags).symm.trans hactive, hready,
          headerPacket_of_own hown⟩
  | false =>
      refine ⟨hcovered.agent, hcovered.accepted, ?_⟩
      intro hactive hreceiver hnext
      rcases serviced_serviceIceSession hready hactive with
        ⟨hflags, _⟩ | hserviced
      · have hcontra := (congrArg HeaderFlags.ready hflags).symm.trans hnext
        exact absurd (hready.symm.trans hcontra) Bool.false_ne_true
      · rcases hserviced.sent hready hnext with hmem | ⟨hsent, hearly, hown⟩
        · exact Or.inr (List.mem_append_right _ hmem)
        · -- The header was sent before, so the guard speaks about it.
          have hsame : sender.session.iceActive = true :=
            hserviced.kept.1.symm.trans hactive
          cases haccepted : receiver.session.cryptoStreamHeaderReceived with
          | true => exact Or.inl rfl
          | false =>
              have hmem := hresent hsame hreceiver haccepted hready hsent hearly
              rw [headerPacket_of_own hown]
              exact Or.inr (((List.prefix_append_right_inj _).mpr
                hserviced.datagrams).subset hmem)

/-- The receiver is served: without keys and without a handshake in front, the
two packets that it takes are lost. -/
theorem HeaderCovered.receiver_service (hcovered : HeaderCovered sender receiver)
    (hspared : sender.session.iceActive = true →
      receiver.session.iceActive = true →
      receiver.session.cryptoStreamHeaderReceived = false →
      sender.session.encryptedSessionReady = true →
      headerPacket sender.session ∈
        (flags receiver.session).spared ++ sender.datagrams) :
    HeaderCovered sender (serviceIceSession sodium env receiver) := by
  cases hready : receiver.session.encryptedSessionReady with
  | true =>
      have htouched : Touched receiver (serviceIceSession sodium env receiver) :=
        touched_serviceIceSession hready
      have hkept (hactive :
          (serviceIceSession sodium env receiver).session.iceActive = true) :
          receiver.session.iceActive = true ∧
            (serviceIceSession sodium env receiver).session.ice.agent =
              receiver.session.ice.agent ∧
            (serviceIceSession sodium env
              receiver).session.cryptoStreamHeaderReceived = true := by
        rcases htouched.flags with hended | ⟨_, _, _, hreceived, hflags⟩
        · exact absurd (hended.symm.trans hactive) Bool.false_ne_true
        · have hsame : receiver.session.iceActive = true :=
            (congrArg HeaderFlags.active hflags).symm.trans hactive
          exact ⟨hsame, congrArg HeaderFlags.agent hflags,
            (congrArg HeaderFlags.received hflags).trans
              (hreceived (hcovered.accepted hsame hready))⟩
      refine ⟨fun hactive => ?_, fun hactive _ => (hkept hactive).2.2,
        fun _ hactive _ => Or.inl (hkept hactive).2.2⟩
      exact (hkept hactive).2.1.trans (hcovered.agent (hkept hactive).1)
  | false =>
      by_cases hactive :
          (serviceIceSession sodium env receiver).session.iceActive = true
      · rcases serviced_serviceIceSession hready hactive with
          ⟨hflags, _⟩ | hserviced
        · exact hcovered.receiver_steady fun _ => hflags
        · obtain ⟨hactiveKept, hagent, hreceived⟩ := hserviced.kept
          have hsame : receiver.session.iceActive = true :=
            hactiveKept.symm.trans hactive
          refine ⟨fun _ => hagent.trans (hcovered.agent hsame),
            fun _ hnext => hserviced.received hready hnext,
            fun hsender _ hsenderReady => ?_⟩
          cases haccepted : receiver.session.cryptoStreamHeaderReceived with
          | true => exact Or.inl (hreceived haccepted)
          | false =>
              rcases List.mem_append.mp (hspared hsender hsame haccepted
                hsenderReady) with hqueue | hdatagrams
              · rcases hserviced.spared hqueue with htaken | hrest
                · exact Or.inl htaken
                · exact Or.inr (List.mem_append_left _ hrest)
              · exact Or.inr (List.mem_append_right _ hdatagrams)
      · have hended {p : Prop} (hcontra :
            (serviceIceSession sodium env receiver).session.iceActive = true) : p :=
          absurd hcontra hactive
        exact ⟨hended, hended, fun _ => hended⟩

theorem HeaderCovered.sender_arrive (hcovered : HeaderCovered sender receiver)
    (packet : List UInt8) :
    HeaderCovered (serviceIceCallback sender (.recv packet)) receiver := by
  unfold serviceIceCallback
  split_ifs
  · exact hcovered.of_sender (List.prefix_refl _)
      fun hactive hready => ⟨hactive, hready, rfl⟩
  · exact hcovered

/-- A datagram reaches the receiver; a full queue drops its oldest entry. -/
theorem HeaderCovered.arrive (hcovered : HeaderCovered sender receiver)
    {index : ℕ} {packet : List UInt8}
    (hpacket : sender.datagrams[index]? = some packet)
    (hspared : sender.session.iceActive = true →
      receiver.session.iceActive = true →
      receiver.session.cryptoStreamHeaderReceived = false →
      sender.session.encryptedSessionReady = true →
      receiver.session.ice.received.length = chatIceRecvQueueCapacity →
      headerPacket sender.session ∈
        receiver.session.ice.received.tail ++ sender.datagrams) :
    HeaderCovered
      { sender with datagrams := sender.datagrams.eraseIdx index }
      (serviceIceCallback receiver (.recv packet)) := by
  by_cases hagent : receiver.session.ice.agent = true
  · have hcallback : serviceIceCallback receiver (.recv packet) =
        receiver.setSession { receiver.session with
          ice := onRecv receiver.session.ice packet } := if_pos hagent
    rw [hcallback]
    have hkeeps : (onRecv receiver.session.ice packet).agent = true := by
      unfold onRecv
      split_ifs <;> exact hagent
    refine ⟨fun _ => hkeeps, hcovered.accepted, fun hsender hactive hready => ?_⟩
    rcases hcovered.covered hsender hactive hready with haccepted | hmem
    · exact Or.inl haccepted
    · cases haccepted : receiver.session.cryptoStreamHeaderReceived with
      | true => exact Or.inl haccepted
      | false =>
          right
          show headerPacket sender.session ∈
            (onRecv receiver.session.ice packet).received ++
              sender.datagrams.eraseIdx index
          have hsplit (hdatagrams : headerPacket sender.session ∈ sender.datagrams) :
              headerPacket sender.session = packet ∨
                headerPacket sender.session ∈ sender.datagrams.eraseIdx index :=
            mem_eraseIdx_of_mem hpacket hdatagrams
          by_cases hfits : packet.length ≤ chatIceRecvMax
          · rcases (length_received_le receiver.session.ice).lt_or_eq with hroom | hfull
            · rw [received_onRecv_of_lt hfits hroom]
              simp only [inFlight, List.mem_append, List.mem_singleton] at hmem ⊢
              tauto
            · have hrest := hspared hsender hactive haccepted hready hfull
              rw [received_onRecv_of_full hfits hfull]
              simp only [List.mem_append, List.mem_singleton] at hrest ⊢
              tauto
          · -- A datagram that does not fit is no stream header.
            have hother : headerPacket sender.session ≠ packet := by
              rintro rfl
              exact hfits (length_headerPacket _)
            have hsame : (onRecv receiver.session.ice packet).received =
                receiver.session.ice.received := by
              simp only [onRecv, dif_neg hfits]
              rfl
            rw [hsame]
            simp only [inFlight, List.mem_append] at hmem ⊢
            tauto
  · have hcallback : serviceIceCallback receiver (.recv packet) = receiver :=
      if_neg hagent
    have hended {p : Prop} (hactive : receiver.session.iceActive = true) : p :=
      absurd (hcovered.agent hactive) hagent
    rw [hcallback]
    exact ⟨hended, hended, fun _ => hended⟩

end Covered

/-! ## Runs of a pair -/

/-- The datagrams of a side that an event leaves on their way. -/
def surviving (side : Side) (pair : Pair) (event : PairEvent) :
    List (List UInt8) :=
  let sender := pair side
  let receiver := pair side.other
  match event with
  | .lose loser index =>
      if loser = side then
        receiver.session.ice.received ++ sender.datagrams.eraseIdx index
      else inFlight sender receiver
  | .arrive arrival _ =>
      if arrival = side.other ∧
          receiver.session.ice.received.length = chatIceRecvQueueCapacity then
        receiver.session.ice.received.tail ++ sender.datagrams
      else inFlight sender receiver
  | .act actor _ .serviceIce =>
      if actor = side.other then
        (flags receiver.session).spared ++ sender.datagrams
      else inFlight sender receiver
  | _ => inFlight sender receiver

/-- The event serves a side whose header is not due. -/
def servesEarly (side : Side) (pair : Pair) : PairEvent → Bool
  | .act actor env .serviceIce =>
      decide (actor = side) && !streamHeaderDue env (pair side).session
  | _ => false

/-- The event neither begins a session nor brings a packet past the network. -/
def admissible : PairEvent → Bool
  | .act _ _ event => ordinary event
  | _ => true

/-- The event begins no session and does not lose the last copy of the header
of a side: a ready side keeps a copy on its way until the peer has accepted
one, and a side that is not ready is not served between the loss of its last
copy and the time at which it sends the next. -/
def Spares (side : Side) (pair : Pair) (event : PairEvent) : Prop :=
  admissible event = true ∧
    ((pair side).session.iceActive = true →
      (pair side.other).session.iceActive = true →
      (pair side.other).session.cryptoStreamHeaderReceived = false →
      ((pair side).session.encryptedSessionReady = true →
        headerPacket (pair side).session ∈ surviving side pair event) ∧
      ((pair side).session.encryptedSessionReady = false →
        (pair side).session.cryptoStreamHeaderSent = true →
        servesEarly side pair event = true →
        headerPacket (pair side).session ∈
          inFlight (pair side) (pair side.other)))

theorem lawfulPackets : LawfulBEq (List UInt8) := inferInstance

instance decidableSpares (side : Side) (pair : Pair) (event : PairEvent) :
    Decidable (Spares side pair event) := by
  haveI := lawfulPackets
  unfold Spares
  infer_instance

/-- The header of a side is covered. -/
def CoveredFrom (side : Side) (pair : Pair) : Prop :=
  HeaderCovered (pair side) (pair side.other)

theorem coveredFrom_step {side : Side} {pair : Pair} {event : PairEvent}
    (hspares : Spares side pair event) (hcovered : CoveredFrom side pair) :
    CoveredFrom side (pairStep sodium pair event) := by
  obtain ⟨hadmissible, hspares⟩ := hspares
  unfold CoveredFrom at hcovered ⊢
  have hsurviving (hsender : (pair side).session.iceActive = true)
      (hreceiver : (pair side.other).session.iceActive = true)
      (haccepted :
        (pair side.other).session.cryptoStreamHeaderReceived = false)
      (hready : (pair side).session.encryptedSessionReady = true) :
      headerPacket (pair side).session ∈ surviving side pair event :=
    (hspares hsender hreceiver haccepted).1 hready
  cases event with
  | act actor env event =>
      rcases side.eq_or_eq_other actor with rfl | rfl
      · simp only [pairStep, Function.update_self,
          Function.update_of_ne actor.other_ne]
        by_cases hservice : event = .serviceIce
        · subst hservice
          refine hcovered.sender_service ?_
          intro hsender hreceiver haccepted hready hsent hearly
          exact (hspares hsender hreceiver haccepted).2 hready hsent
            (by simp [servesEarly, hearly])
        · exact hcovered.sender_steady (steady_step hadmissible hservice)
      · simp only [pairStep, Function.update_self,
          Function.update_of_ne side.ne_other]
        by_cases hservice : event = .serviceIce
        · subst hservice
          refine hcovered.receiver_service ?_
          intro hsender hreceiver haccepted hready
          simpa [surviving] using hsurviving hsender hreceiver haccepted hready
        · exact hcovered.receiver_steady (steady_step hadmissible hservice).flags
  | arrive arrival index =>
      simp only [pairStep]
      cases hpacket : (pair arrival.other).datagrams[index]? with
      | none => exact hcovered
      | some packet =>
          rcases side.eq_or_eq_other arrival with rfl | rfl
          · simp only [Function.update_self, Function.update_of_ne arrival.other_ne]
            have hsender := hcovered.sender_arrive packet
            exact ⟨hsender.agent, hsender.accepted, hsender.covered⟩
          · rw [Side.other_other] at hpacket
            simp only [Side.other_other, Function.update_self,
              Function.update_of_ne side.ne_other]
            refine hcovered.arrive hpacket ?_
            intro hsender hreceiver haccepted hready hfull
            simpa [surviving, hfull] using
              hsurviving hsender hreceiver haccepted hready
  | lose loser index =>
      rcases side.eq_or_eq_other loser with rfl | rfl
      · simp only [pairStep, Function.update_self,
          Function.update_of_ne loser.other_ne]
        refine ⟨hcovered.agent, hcovered.accepted, ?_⟩
        intro hsender hreceiver hready
        cases haccepted :
            (pair loser.other).session.cryptoStreamHeaderReceived with
        | true => exact Or.inl rfl
        | false =>
            have hmem := hsurviving hsender hreceiver haccepted hready
            simp only [surviving, if_true] at hmem
            exact Or.inr hmem
      · simp only [pairStep, Function.update_self,
          Function.update_of_ne side.ne_other]
        exact ⟨hcovered.agent, hcovered.accepted, hcovered.covered⟩
  | copy copier index =>
      rcases side.eq_or_eq_other copier with rfl | rfl
      · simp only [pairStep, Function.update_self,
          Function.update_of_ne copier.other_ne]
        exact hcovered.sender_steady ⟨List.prefix_append _ _, fun _ => rfl⟩
      · simp only [pairStep, Function.update_self,
          Function.update_of_ne side.ne_other]
        exact ⟨hcovered.agent, hcovered.accepted, hcovered.covered⟩

/-- A side sends its stream header again, at some clock values and with some
callbacks of libnice in between. -/
def Resends (sodium : Sodium) (state : ChatdState) : Prop :=
  ∃ inputs : List (Env × ChatdEvent),
    (∀ input ∈ inputs, input.2 = .serviceIce ∨ ∃ callback, input.2 = .ice callback) ∧
    headerPacket state.session ∈
      (Transition.run (chatdStep sodium) state inputs).datagrams.drop
        state.datagrams.length

/-- A ready session never sends a packet of its own accord. -/
theorem datagrams_of_ready {inputs : List (Env × ChatdEvent)}
    (hinputs : ∀ input ∈ inputs,
      input.2 = .serviceIce ∨ ∃ callback, input.2 = .ice callback)
    (hready : state.session.iceActive = false ∨
      state.session.encryptedSessionReady = true) :
    (Transition.run (chatdStep sodium) state inputs).datagrams =
      state.datagrams := by
  induction inputs generalizing state with
  | nil => rfl
  | cons input inputs ih =>
      obtain ⟨env, event⟩ := input
      obtain ⟨hinput, hrest⟩ := List.forall_mem_cons.mp hinputs
      suffices hstep : (chatdStep sodium state (env, event)).datagrams =
          state.datagrams ∧
          ((chatdStep sodium state (env, event)).session.iceActive = false ∨
            (chatdStep sodium state
              (env, event)).session.encryptedSessionReady = true) by
        rw [Transition.run_cons, ih hrest hstep.2, hstep.1]
      rcases hinput with rfl | ⟨callback, rfl⟩
      · show (serviceIceSession sodium env state).datagrams = _ ∧ _
        rcases hready with hinactive | hready
        · have hsame : serviceIceSession sodium env state = state :=
            if_pos hinactive
          rw [chatdStep, hsame]
          exact ⟨rfl, Or.inl hinactive⟩
        · have htouched : Touched state (serviceIceSession sodium env state) :=
            touched_serviceIceSession hready
          refine ⟨htouched.datagrams, ?_⟩
          rcases htouched.flags with hended | ⟨_, _, _, _, hflags⟩
          · exact Or.inl hended
          · exact Or.inr ((congrArg HeaderFlags.ready hflags).trans hready)
      · show (serviceIceCallback state callback).datagrams = _ ∧ _
        simp only [chatdStep, serviceIceCallback]
        split_ifs
        · exact ⟨rfl, hready⟩
        · exact ⟨rfl, hready⟩

theorem not_resends_of_ready
    (hready : state.session.encryptedSessionReady = true) :
    ¬ Resends sodium state := by
  rintro ⟨inputs, hinputs, hmem⟩
  rw [datagrams_of_ready hinputs (Or.inr hready), List.drop_length] at hmem
  exact absurd hmem List.not_mem_nil

/-- Once a side is ready and both sessions go on, its stream header was
accepted, is on its way, or will be sent again. -/
def HeaderReaches (sodium : Sodium) (side : Side) (pair : Pair) : Prop :=
  (pair side).session.iceActive = true →
    (pair side.other).session.iceActive = true →
    (pair side).session.encryptedSessionReady = true →
    (pair side.other).session.cryptoStreamHeaderReceived = true ∨
      headerPacket (pair side).session ∈
        inFlight (pair side) (pair side.other) ∨
      Resends sodium (pair side)

/-- The session was just begun by `begin_ice_session`. -/
def Begun (state : ChatdState) : Prop :=
  ∃ env before peer sessionId controlling remotePk,
    beginIceSession env before peer sessionId controlling remotePk = (state, true)

theorem begun_flags (hbegun : Begun state) :
    state.session.ice.agent = true ∧
      state.session.encryptedSessionReady = false := by
  obtain ⟨env, before, peer, sessionId, controlling, remotePk, hbegin⟩ := hbegun
  unfold beginIceSession chatIceSessionStart at hbegin
  simp only at hbegin
  split_ifs at hbegin
  · simp at hbegin
  · simp at hbegin
  · cases hstart : env.iceStart with
    | error failure => simp [hstart] at hbegin
    | ok started =>
        simp only [hstart] at hbegin
        obtain rfl := congrArg Prod.fst hbegin
        exact ⟨rfl, rfl⟩

/-- From two begun sessions, the stream header of a side reaches the peer in
every state of a run that spares its last copy. -/
theorem streamHeader_reaches (sodium : Sodium) (side : Side) {pair : Pair}
    (hbegun : ∀ actor, Begun (pair actor)) {events : List PairEvent}
    (hspares : Transition.Guarded (pairStep sodium) (Spares side) pair events) :
    HeaderReaches sodium side (Transition.run (pairStep sodium) pair events) := by
  have hstart : CoveredFrom side pair := by
    obtain ⟨hagent, hunready⟩ := begun_flags (hbegun side.other)
    have hsender := (begun_flags (hbegun side)).2
    refine ⟨fun _ => hagent, fun _ hready => ?_, fun _ _ hready => ?_⟩
    · exact absurd (hunready.symm.trans hready) Bool.false_ne_true
    · exact absurd (hsender.symm.trans hready) Bool.false_ne_true
  have hcovered : CoveredFrom side (Transition.run (pairStep sodium) pair events) :=
    Transition.invariant_run (fun _ _ => coveredFrom_step) hstart hspares
  intro hsender hreceiver hready
  rcases hcovered.covered hsender hreceiver hready with haccepted | hmem
  · exact Or.inl haccepted
  · exact Or.inr (Or.inl hmem)

/-! ## A lost header -/

/-- A session that `own` has just begun. -/
def begunSessionOf (own peer : ChatIdentity) (controlling : Bool) : ChatdState :=
  (beginIceSession (Env.smooth 1 1) (initialState own none) peer.username
    (bytes "5e55") controlling peer.publicKey).1

/-- Alice asked Bob for a session, and both have begun it. -/
def aliceAndBob : Pair
  | .left => begunSessionOf alice bob true
  | .right => begunSessionOf bob alice false

theorem begun_aliceAndBob (actor : Side) : Begun (aliceAndBob actor) := by
  cases actor with
  | left => exact ⟨_, _, _, _, _, _, Prod.ext rfl (by decide +kernel)⟩
  | right => exact ⟨_, _, _, _, _, _, Prod.ext rfl (by decide +kernel)⟩

/-- A step of a side in which every call works; each side draws its own random
values. -/
def smoothStep (now : ℕ) (event : ChatdEvent) : Side → PairEvent
  | .left => .act .left (Env.smooth now 1) event
  | .right => .act .right (Env.smooth now 2) event

/-- Both sides are connected and exchange their handshakes. -/
def exchangeHandshakes : List PairEvent :=
  [smoothStep 1 (.ice (.componentConnected none)) .left,
    smoothStep 1 (.ice (.componentConnected none)) .right,
    smoothStep 1 .serviceIce .left, smoothStep 1 .serviceIce .right,
    .arrive .left 0, .arrive .right 0]

/-- Alice's header is lost before she is ready; she sends it again a second
later and then becomes ready. -/
def headerResent : List PairEvent :=
  exchangeHandshakes ++ [smoothStep 1 .serviceIce .left, .lose .left 0,
    smoothStep 1 .serviceIce .right, smoothStep 2 .serviceIce .left,
    .arrive .left 0, smoothStep 2 .serviceIce .left]

theorem streamHeader_reaches_resent :
    let pair := Transition.run (pairStep Transparent.sodium) aliceAndBob headerResent
    (pair .left).session.encryptedSessionReady = true ∧
      HeaderReaches Transparent.sodium .left pair :=
  ⟨by decide +kernel,
    streamHeader_reaches Transparent.sodium .left begun_aliceAndBob
      (by decide +kernel)⟩

/-- Alice's header is lost, and Bob's header makes her ready before she sends
it again: Bob waits for a header that is never sent. -/
def headerLost : List PairEvent :=
  exchangeHandshakes ++ [smoothStep 1 .serviceIce .left, .lose .left 0,
    smoothStep 1 .serviceIce .right, .arrive .left 0,
    smoothStep 1 .serviceIce .left]

theorem lost_header_not_resent :
    (∀ event ∈ headerLost, admissible event = true) ∧
      ¬ HeaderReaches Transparent.sodium .left
        (Transition.run (pairStep Transparent.sodium) aliceAndBob headerLost) := by
  have hrun : (∀ event ∈ headerLost, admissible event = true) ∧
      let pair := Transition.run (pairStep Transparent.sodium) aliceAndBob headerLost
      (pair .left).session.iceActive = true ∧
      (pair .right).session.iceActive = true ∧
      (pair .left).session.encryptedSessionReady = true ∧
      (pair .right).session.cryptoStreamHeaderReceived = false ∧
      inFlight (pair .left) (pair .right) = [] := by
    decide +kernel
  obtain ⟨hadmissible, hrun⟩ := hrun
  refine ⟨hadmissible, ?_⟩
  generalize Transition.run (pairStep Transparent.sodium) aliceAndBob headerLost =
    pair at hrun ⊢
  obtain ⟨hleft, hright, hready, hreceived, hflight⟩ := hrun
  intro hreaches
  rcases hreaches hleft hright hready with haccepted | hmem | hresends
  · exact absurd (hreceived.symm.trans haccepted) Bool.false_ne_true
  · rw [show Side.other .left = .right from rfl, hflight] at hmem
    exact absurd hmem List.not_mem_nil
  · exact not_resends_of_ready hready hresends

end ProntoChat.Net
