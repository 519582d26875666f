import ProntoChat.Net.Establishment
import ProntoChat.Net.Retransmission

/-!
# Two honest daemons

Both sides of a session serve it, the network carries every packet once and in order,
and commands come to a side that is secure.  A payload that is handled in the service
step in which the session becomes ready is refused, although the peer was entitled to
send it.  In every run that is spared this and the losses of the queue, of libnice and
of the client, no packet is refused.
-/

namespace ProntoChat.Net

open ProntoChat.QuotedText
open ProntoChat.Protocole
open ProntoChat.Crypto
open ProntoChat.Ice
open ProntoChat.Daemon
open ProntoChat.OrderedStream

variable {sodium : Sodium} {env : Env} {deal : Deal} {draws : Side → Draw} {side : Side}
  {pair : Pair} {next : ChatdState}

/-! ## Both sides -/

/-- Both sides are linked between two steps. -/
def Linked (sodium : Sodium) (deal : Deal) (pair : Pair) : Prop :=
  (∃ draws, Link sodium deal draws .left (port (pair .left)) (port (pair .right))) ∧
    ∀ side, Poised (port (pair side)) ∧ Joined (pair side)

theorem Linked.stands (hlinked : Linked sodium deal pair) (side : Side) :
    Stands sodium deal side (port (pair side.other)) (pair side) := by
  obtain ⟨⟨draws, hlink⟩, hsides⟩ := hlinked
  refine ⟨⟨draws, ?_⟩, (hsides side).1⟩
  cases side with
  | left => exact hlink
  | right => exact hlink.symm

theorem linked_of_link (side : Side)
    (hlink : Link sodium deal draws side (port (pair side)) (port (pair side.other)))
    (hsides : ∀ side, Poised (port (pair side)) ∧ Joined (pair side)) :
    Linked sodium deal pair := by
  refine ⟨⟨draws, ?_⟩, hsides⟩
  cases side with
  | left => exact hlink
  | right => exact hlink.symm

/-- The refused packets of both sides. -/
def refused (pair : Pair) (side : Side) : ℕ := (port (pair side)).refusals

theorem Keeps.linked (hlinked : Linked sodium deal pair)
    (hkeeps : Keeps sodium deal side (port (pair side.other)) (pair side) next) :
    Linked sodium deal (Function.update pair side next) ∧
      refused (Function.update pair side next) = refused pair := by
  have hside : Function.update pair side next side = next := Function.update_self _ _ _
  have hother : Function.update pair side next side.other = pair side.other :=
    Function.update_of_ne side.other_ne _ _
  generalize Function.update pair side next = after at hside hother
  obtain ⟨⟨draws, hlink⟩, hpoised⟩ := hkeeps.stands
  rw [← hside, ← hother] at hlink
  refine ⟨linked_of_link side hlink fun third => ?_, funext fun third => ?_⟩
  · rcases side.eq_or_eq_other third with rfl | rfl
    · rw [hside]
      exact ⟨hpoised, hkeeps.joined⟩
    · rw [hother]
      exact hlinked.2 _
  · rcases side.eq_or_eq_other third with rfl | rfl
    · rw [refused, hside]
      exact hkeeps.refusals
    · rw [refused, hother, refused]

theorem keeps_refl (hlinked : Linked sodium deal pair) (side : Side) :
    Keeps sodium deal side (port (pair side.other)) (pair side) (pair side) :=
  ⟨rfl, hlinked.stands side, (hlinked.2 side).2⟩

/-! ## Arrivals -/

theorem Link.arrives (hlaws : deal.Laws sodium) {own peer : ChatdState}
    {packet : List UInt8} {rest : List (List UInt8)}
    (hlink : Link sodium deal draws side (port own) (port peer))
    (hdatagrams : peer.datagrams = packet :: rest)
    (hroom : own.session.iceActive = true →
      own.session.ice.received.length < chatIceRecvQueueCapacity) :
    Link sodium deal draws side (port (serviceIceCallback own (.recv packet)))
      (port { peer with datagrams := rest }) := by
  have hfar (hpeer : peer.session.iceActive = true) :
      Own sodium deal draws side.other (port { peer with datagrams := rest }) :=
    { hlink.far hpeer with }
  have hout (hpeer : peer.session.iceActive = true) : Inbound sodium
      (deal.script sodium draws side) (port own) (port { peer with datagrams := rest }) :=
    (hlink.outbound hpeer).unread ⟨rfl, rfl, rfl, rfl, id⟩
  cases hactive : own.session.iceActive with
  | true =>
      have hown := hlink.near hactive
      obtain ⟨items, hflight, hbacked⟩ := hlink.inbound hactive
      have hqueued : Flight sodium (deal.script sodium draws side.other) (packet :: rest)
          own.session items := by
        rw [← hdatagrams]
        exact { hflight with }
      obtain ⟨queue, htook, harrived⟩ := hqueued.arrives hlaws.stream hown.agent
        (hroom hactive)
      rw [htook]
      exact
        { near := fun _ => { hown with }
          inbound := fun _ => ⟨items, { harrived with }, fun hpeer => { hbacked hpeer with }⟩
          far := hfar
          outbound := fun hpeer => (hout hpeer).unsent ⟨rfl, rfl, rfl, rfl, rfl⟩ }
  | false =>
      have hinactive : (serviceIceCallback own (.recv packet)).session.iceActive = false := by
        unfold serviceIceCallback
        split_ifs <;> exact hactive
      have hsame : (serviceIceCallback own (.recv packet)).datagrams = own.datagrams := by
        unfold serviceIceCallback
        split_ifs <;> rfl
      exact
        { near := fun hcontra => absurd (hinactive.symm.trans hcontra) Bool.false_ne_true
          inbound := fun hcontra => absurd (hinactive.symm.trans hcontra) Bool.false_ne_true
          far := hfar
          outbound := fun hpeer => (hout hpeer).ended hsame hinactive }

/-- What an arrival does not touch. -/
theorem arrived_eq (own : ChatdState) (packet : List UInt8) :
    (port (serviceIceCallback own (.recv packet))).refusals = (port own).refusals ∧
      (Poised (port own) → Poised (port (serviceIceCallback own (.recv packet)))) ∧
      (Joined own → Joined (serviceIceCallback own (.recv packet))) := by
  unfold serviceIceCallback
  split_ifs
  · have hready : (onRecv own.session.ice packet).ready = own.session.ice.ready := by
      unfold onRecv
      split_ifs <;> rfl
    refine ⟨rfl, fun hpoised => { hpoised with }, fun hjoined hactive => ?_⟩
    exact hready.trans (hjoined hactive)
  · exact ⟨rfl, id, id⟩

theorem linked_arrive (hlaws : deal.Laws sodium) (hlinked : Linked sodium deal pair)
    (hroom : (pair side).session.iceActive = true →
      (pair side).session.ice.received.length < chatIceRecvQueueCapacity) :
    Linked sodium deal (pairStep sodium pair (.arrive side 0)) ∧
      refused (pairStep sodium pair (.arrive side 0)) = refused pair := by
  simp only [pairStep]
  cases hdatagrams : (pair side.other).datagrams with
  | nil => exact ⟨hlinked, rfl⟩
  | cons packet rest =>
      obtain ⟨⟨draws, hlink⟩, hpoised⟩ := hlinked.stands side
      have harrives := hlink.arrives hlaws hdatagrams hroom
      obtain ⟨hrefusals, hstill, hjoined⟩ := arrived_eq (pair side) packet
      simp only [List.getElem?_cons_zero, List.eraseIdx_zero, List.tail_cons]
      generalize hafter : Function.update (Function.update pair side.other
        { pair side.other with datagrams := rest }) side
        (serviceIceCallback (pair side) (.recv packet)) = after
      have hside : after side = serviceIceCallback (pair side) (.recv packet) := by
        rw [← hafter, Function.update_self]
      have hother : after side.other = { pair side.other with datagrams := rest } := by
        rw [← hafter, Function.update_of_ne side.other_ne, Function.update_self]
      rw [← hside, ← hother] at harrives
      refine ⟨linked_of_link side harrives fun third => ?_, funext fun third => ?_⟩
      · rcases side.eq_or_eq_other third with rfl | rfl
        · rw [hside]
          exact ⟨hstill hpoised, hjoined (hlinked.2 _).2⟩
        · rw [hother]
          exact ⟨{ (hlinked.2 _).1 with }, (hlinked.2 side.other).2⟩
      · rcases side.eq_or_eq_other third with rfl | rfl
        · rw [refused, hside]
          exact hrefusals
        · rw [refused, hother]
          rfl

/-! ## Steps and runs -/

/-- The events of a session between two daemons: service steps, reads of the clients
and arrivals of the oldest packet. -/
def inOrder : PairEvent → Bool
  | .act _ _ (.control _) => false
  | .act _ _ (.ice _) => false
  | .act _ _ _ => true
  | .arrive _ index => index = 0
  | .lose _ _ => false
  | .copy _ _ => false

/-- The client of a secure side takes every line, and libnice takes every packet that
a secure side sends. -/
def Works (pair : Pair) : PairEvent → Prop
  | .act side env .serviceIce =>
      (pair side).session.encryptedSessionReady = true → ∀ count, env.ipcWrite count = true
  | .act side env (.activeClient _) =>
      (pair side).session.encryptedSessionReady = true → ∀ count, env.iceSend count = true
  | _ => True

instance decidableFits (peer text : Str) : Decidable (Fits peer text) :=
  inferInstanceAs (Decidable (_ ∧ _))

/-- A side that is not ready does not serve a payload as its second packet, texts fit
their buffers, no other peer is asked for a session, and no packet arrives at a full
queue. -/
def Paced (pair : Pair) : PairEvent → Prop
  | .act side _ .serviceIce =>
      (pair side).session.encryptedSessionReady = false →
        ∀ packet ∈ (pair side).session.ice.received.tail.head?, isChat packet = false
  | .act side _ (.activeClient read) =>
      (pair side).session.encryptedSessionReady = true →
        ∀ text ∈ readTexts read, chatTextIsValid text = true →
          Fits (pair side.other).session.icePeer text
  | .act side env (.ipc accepted poll) =>
      (pair side).session.iceActive = true →
        requestedPeer env (pair side) accepted poll = none
  | .arrive side _ =>
      (pair side).session.iceActive = true →
        (pair side).session.ice.received.length < chatIceRecvQueueCapacity
  | _ => True

instance decidablePaced (pair : Pair) : (event : PairEvent) → Decidable (Paced pair event)
  | .act _ _ .serviceIce => inferInstanceAs (Decidable (_ → _))
  | .act _ _ (.activeClient _) => inferInstanceAs (Decidable (_ → _))
  | .act _ _ (.ipc _ _) => inferInstanceAs (Decidable (_ → _))
  | .act _ _ (.control _) => isTrue trivial
  | .act _ _ (.ice _) => isTrue trivial
  | .act _ _ (.reconnect _) => isTrue trivial
  | .arrive _ _ => inferInstanceAs (Decidable (_ → _))
  | .lose _ _ => isTrue trivial
  | .copy _ _ => isTrue trivial

/-- An event of an undisturbed session. -/
structure Undisturbed (pair : Pair) (event : PairEvent) : Prop where
  inOrder : inOrder event = true
  works : Works pair event
  paced : Paced pair event

theorem keeps_reconnect (hlinked : Linked sodium deal pair) (env : Env) (side : Side)
    (started : Bool) :
    Keeps sodium deal side (port (pair side.other)) (pair side)
      (serviceReconnect env (pair side) started) := by
  unfold serviceReconnect
  split
  · exact { keeps_refl hlinked side with }
  · exact keeps_refl hlinked side

theorem keeps_activeClient (hlaws : deal.Laws sodium) (hlinked : Linked sodium deal pair)
    {read : ClientRead} (hworks : Works pair (.act side env (.activeClient read)))
    (hpaced : Paced pair (.act side env (.activeClient read))) :
    Keeps sodium deal side (port (pair side.other)) (pair side)
      (serviceActiveChatClient sodium env (pair side) read) := by
  obtain ⟨⟨draws, hlink⟩, hpoised⟩ := hlinked.stands side
  cases hready : (pair side).session.encryptedSessionReady with
  | false =>
      unfold serviceActiveChatClient
      rw [if_pos (Or.inr hready)]
      exact keeps_refl hlinked side
  | true =>
      have hactive : (pair side).session.iceActive = true := by
        refine Bool.eq_true_of_not_eq_false fun hinactive => ?_
        exact absurd ((hpoised.idle hinactive).symm.trans hready) Bool.false_ne_true
      have hsecured : Secured sodium deal draws side (port (pair side.other))
          (pair side) := ⟨hlink, hactive, hready, (hlinked.2 side).2 hactive⟩
      exact keeps_serviceActiveChatClient hlaws (hworks hready) hsecured (hpaced hready)

theorem linked_step (hlaws : deal.Laws sodium) {event : PairEvent}
    (hevent : Undisturbed pair event) (hlinked : Linked sodium deal pair) :
    Linked sodium deal (pairStep sodium pair event) ∧
      refused (pairStep sodium pair event) = refused pair := by
  obtain ⟨horder, hworks, hpaced⟩ := hevent
  cases event with
  | act side env event =>
      refine Keeps.linked hlinked ?_
      cases event with
      | control _ => exact absurd horder Bool.false_ne_true
      | ice _ => exact absurd horder Bool.false_ne_true
      | reconnect started => exact keeps_reconnect hlinked env side started
      | activeClient read => exact keeps_activeClient hlaws hlinked hworks hpaced
      | ipc accepted poll =>
          exact keeps_serviceIpc (hlinked.stands side) (hlinked.2 side).2 hpaced
      | serviceIce =>
          have hserves : Serves env (pair side).session := by
            unfold Serves
            split_ifs with hready
            · exact hworks hready
            · exact hpaced (Bool.eq_false_of_not_eq_true hready)
          obtain ⟨hrefusals, hstands⟩ :=
            stands_serviceIceSession hlaws (hlinked.stands side) hserves
          exact ⟨hrefusals, hstands, joined_serviceIceSession (hlinked.2 side).2⟩
  | arrive side index =>
      obtain rfl : index = 0 := of_decide_eq_true horder
      exact linked_arrive hlaws hlinked hpaced
  | lose _ _ => exact absurd horder Bool.false_ne_true
  | copy _ _ => exact absurd horder Bool.false_ne_true

theorem linked_run (hlaws : deal.Laws sodium) {start : Pair} {events : List PairEvent}
    (hstart : Linked sodium deal start)
    (hrun : Transition.Guarded (pairStep sodium) Undisturbed start events) :
    Linked sodium deal (Transition.run (pairStep sodium) start events) ∧
      refused (Transition.run (pairStep sodium) start events) = refused start := by
  have hstep : ∀ pair event, Undisturbed pair event →
      (Linked sodium deal pair ∧ refused pair = refused start) →
      Linked sodium deal (pairStep sodium pair event) ∧
        refused (pairStep sodium pair event) = refused start := by
    rintro pair event hevent ⟨hlinked, hrefused⟩
    obtain ⟨hnext, hsame⟩ := linked_step hlaws hevent hlinked
    exact ⟨hnext, hsame.trans hrefused⟩
  have hfirst : Linked sodium deal start ∧ refused start = refused start :=
    ⟨hstart, rfl⟩
  exact Transition.invariant_run hstep hfirst hrun

/-! ## The beginning of a session -/

/-- The session with which a side begins. -/
def Deal.session (deal : Deal) (side : Side) : ChatdSession :=
  { preparedSession (deal.identity side.other).username deal.sessionId
      (deal.role side = .initiator) (deal.identity side.other).publicKey with
    ice := { agent := true }
    iceActive := true }

/-- A side whose ICE connection has just come up. -/
structure Fresh (deal : Deal) (side : Side) (state : ChatdState) : Prop where
  identity : state.identity = deal.identity side
  session : wire state.session = wire (deal.session side)
  connected : state.session.ice.ready = true
  datagrams : state.datagrams = []

theorem own_begun {own : Port} (hidentity : own.identity = deal.identity side)
    (hsession : own.session = wire (deal.session side)) :
    Own sodium deal draws side own := by
  have hrole : own.session.cryptoRole = some (deal.role side) := by
    rw [hsession]
    show some (if decide (deal.role side = .initiator) = true then _ else _) = _
    cases deal.role side <;> rfl
  obtain ⟨identity, sessionState, session, datagrams, refusals⟩ := own
  subst hsession
  exact ⟨hidentity, rfl, rfl, hrole, rfl, nofun, nofun, nofun, nofun, nofun, nofun,
    nofun, nofun⟩

theorem inbound_begun {script : Script} {sender receiver : Port} {other : Side}
    (hsender : sender.session = wire (deal.session other))
    (hreceiver : receiver.session = wire (deal.session side))
    (hdatagrams : sender.datagrams = []) : Inbound sodium script sender receiver := by
  refine ⟨[], ?_, fun _ => ?_⟩ <;> rw [hreceiver]
  · rw [hdatagrams]
    exact ⟨rfl, trivial, nofun, fun _ => ⟨rfl, nofun⟩⟩
  · rw [hsender]
    exact ⟨nofun, fun _ => ⟨rfl, rfl⟩, nofun, fun _ => ⟨rfl, nofun⟩⟩

theorem linked_fresh (hfresh : ∀ side, Fresh deal side (pair side)) :
    Linked sodium deal pair := by
  have hown (draws : Side → Draw) (side : Side) :
      Own sodium deal draws side (port (pair side)) :=
    own_begun (hfresh side).identity (hfresh side).session
  have hinbound (script : Script) (side : Side) :
      Inbound sodium script (port (pair side.other)) (port (pair side)) :=
    inbound_begun (hfresh side.other).session (hfresh side).session
      (hfresh side.other).datagrams
  refine ⟨⟨fun _ => ⟨zeroBytes 32, zeroBytes 24⟩, ?_⟩, fun side => ⟨?_, fun _ => ?_⟩⟩
  · exact ⟨fun _ => hown _ .left, fun _ => hinbound _ .left, fun _ => hown _ .right,
      fun _ => hinbound _ .right⟩
  · have hsession : (port (pair side)).session = wire (deal.session side) :=
      (hfresh side).session
    refine ⟨fun _ => ?_, fun _ hreceived => ?_⟩
    · rw [hsession]
      rfl
    · rw [hsession] at hreceived
      exact nomatch hreceived
  · exact (hfresh side).connected

/-- In every undisturbed session neither side refuses a packet. -/
theorem no_honest_packet_refused (hlaws : deal.Laws sodium) {start : Pair}
    {events : List PairEvent} (hstart : ∀ side, Fresh deal side (start side))
    (hrun : Transition.Guarded (pairStep sodium) Undisturbed start events)
    (side : Side) :
    ((Transition.run (pairStep sodium) start events) side).log.count
        (.packetHandled false) =
      (start side).log.count (.packetHandled false) := by
  have hrefused := (linked_run hlaws (linked_fresh hstart) hrun).2
  exact congrFun hrefused side

/-! ## A payload behind the header -/

theorem aliceWithBob_nonempty : (bytes "5e55").length ≠ 0 := by
  decide

theorem aliceWithBob_bounded : (bytes "5e55").length ≤ chatCryptoSessionIdMax := by
  decide

/-- The session of Alice and Bob. -/
def aliceWithBob : Deal where
  identity
    | .left => alice
    | .right => bob
  role
    | .left => .initiator
    | .right => .responder
  sessionId := bytes "5e55"
  opposite := by rintro ⟨⟩ <;> rfl
  nonempty := aliceWithBob_nonempty
  bounded := aliceWithBob_bounded

theorem aliceWithBob_laws : aliceWithBob.Laws Transparent.sodium where
  kx := Transparent.kxMirrored
  stream := Transparent.streamCorrect
  signs
    | .left => Transparent.identity_signsFor _ _
    | .right => Transparent.identity_signsFor _ _

/-- Their connection has come up; the client of Alice waits for the session. -/
def aliceMeetsBob : Pair
  | .left =>
      { serviceIceCallback (aliceAndBob .left) (.componentConnected none) with
        lookupClientFd := some 7 }
  | .right => serviceIceCallback (aliceAndBob .right) (.componentConnected none)

theorem fresh_aliceMeetsBob (side : Side) :
    Fresh aliceWithBob side (aliceMeetsBob side) := by
  cases side with
  | left => exact ⟨rfl, rfl, rfl, rfl⟩
  | right => exact ⟨rfl, rfl, rfl, rfl⟩

/-- An event of a side under calls that all work, or the arrival of the oldest packet
at it. -/
def smoothEvent (move : Side × Option ChatdEvent) : PairEvent :=
  match move.2 with
  | some event => smoothStep 1 event move.1
  | none => .arrive move.1 0

/-- Both handshakes and both headers are sent; Alice hears the header of Bob and is
secure. -/
def aliceSecure : List (Side × Option ChatdEvent) :=
  [(.left, some .serviceIce), (.right, some .serviceIce), (.left, none), (.right, none),
    (.left, some .serviceIce), (.right, some .serviceIce), (.left, none),
    (.left, some .serviceIce)]

/-- Her client sends a text. -/
def aliceGreets : Side × Option ChatdEvent :=
  (.left, some (.activeClient (.data (bytes "SEND_MESSAGE hello\n"))))

theorem works_smoothEvent (pair : Pair) (move : Side × Option ChatdEvent) :
    Works pair (smoothEvent move) := by
  obtain ⟨side, _ | event⟩ := move
  · trivial
  · cases side <;> cases event <;> first | trivial | exact fun _ _ => rfl

/-- Bob serves the header before the text arrives. -/
def greetingWaits : List (Side × Option ChatdEvent) :=
  aliceSecure ++ [aliceGreets, (.right, none), (.right, some .serviceIce), (.right, none),
    (.right, some .serviceIce)]

theorem no_honest_packet_refused_greeting :
    let events := greetingWaits.map smoothEvent
    let last := Transition.run (pairStep Transparent.sodium) aliceMeetsBob events
    Transition.Guarded (pairStep Transparent.sodium) Undisturbed aliceMeetsBob events ∧
      (∀ side, (last side).sessionState = .secure) ∧
      ∀ side, (last side).log.count (.packetHandled false) =
        (aliceMeetsBob side).log.count (.packetHandled false) := by
  intro events last
  have hrun : Transition.Guarded (pairStep Transparent.sodium)
      (fun pair event => inOrder event = true ∧ Paced pair event) aliceMeetsBob events ∧
      (last .left).sessionState = .secure ∧ (last .right).sessionState = .secure := by
    decide +kernel
  obtain ⟨hguarded, hleft, hright⟩ := hrun
  have hundisturbed : Transition.Guarded (pairStep Transparent.sodium) Undisturbed
      aliceMeetsBob events := by
    refine hguarded.imp_of_mem fun event hevent pair hpaced => ?_
    obtain ⟨move, _, rfl⟩ := List.mem_map.mp hevent
    exact ⟨hpaced.1, works_smoothEvent pair move, hpaced.2⟩
  refine ⟨hundisturbed, ?_, no_honest_packet_refused aliceWithBob_laws
    fresh_aliceMeetsBob hundisturbed⟩
  rintro ⟨⟩
  · exact hleft
  · exact hright

/-- The text arrives before Bob serves the header. -/
def greetingFollows : List (Side × Option ChatdEvent) :=
  aliceSecure ++ [aliceGreets, (.right, none), (.right, none), (.right, some .serviceIce)]

/-- Bob hears the header and is handed the text in the same step, before the session is
ready: the text is refused and his session fails. -/
theorem greeting_behind_header_refused :
    aliceWithBob.Laws Transparent.sodium ∧
      (∀ side, Fresh aliceWithBob side (aliceMeetsBob side)) ∧
      (∀ move ∈ greetingFollows, inOrder (smoothEvent move) = true) ∧
      (Transition.run (pairStep Transparent.sodium) aliceMeetsBob
        (aliceSecure.map smoothEvent) .left).sessionState = .secure ∧
      (aliceMeetsBob .right).log.count (.packetHandled false) = 0 ∧
      let last := Transition.run (pairStep Transparent.sodium) aliceMeetsBob
        (greetingFollows.map smoothEvent)
      (last .right).log.count (.packetHandled false) = 1 ∧
        (last .right).session.iceActive = false ∧
        (last .right).sessionState = .failed :=
  ⟨aliceWithBob_laws, fresh_aliceMeetsBob, by decide +kernel⟩

end ProntoChat.Net
