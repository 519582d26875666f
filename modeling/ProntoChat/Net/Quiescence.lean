import ProntoChat.Net.HonestPeers

/-!
# When nothing is on its way

Two sides that have derived keys hold the same session and mirrored keys.  A side to
which nothing is on its way any more, although its peer has opened a stream, is secure,
and it stands in that stream where the peer stands: everything that was sent has been
read.
-/

namespace ProntoChat.Net

open ProntoChat.Crypto
open ProntoChat.Daemon
open ProntoChat.OrderedStream

variable {sodium : Sodium} {deal : Deal} {pair : Pair}

/-- A side has the session of its peer: the same identifier, the other role, the
identity of the peer, and the key under which the peer sends. -/
structure Agrees (own peer : ChatdState) : Prop where
  sessionId : own.session.iceSessionId = peer.session.iceSessionId
  role : own.session.cryptoRole.map ChatCryptoRole.opposite = peer.session.cryptoRole
  remotePk : own.session.remoteIdentityPk = peer.identity.publicKey
  rx : own.session.cryptoKeys.rx = peer.session.cryptoKeys.tx

theorem Linked.agrees (hlaws : deal.Laws sodium) (hlinked : Linked sodium deal pair)
    (hactive : ∀ side, (pair side).session.iceActive = true)
    (hkeys : ∀ side, (pair side).session.cryptoKeysReady = true) (side : Side) :
    Agrees (pair side) (pair side.other) := by
  obtain ⟨⟨draws, hlink⟩, _⟩ := hlinked.stands side
  have hown := hlink.near (hactive side)
  have hpeer := hlink.far (hactive side.other)
  refine ⟨hown.sessionId.trans hpeer.sessionId.symm, ?_, ?_, ?_⟩
  · have hrole : (pair side).session.cryptoRole = some (deal.role side) := hown.role
    have hother : (pair side.other).session.cryptoRole = some (deal.role side.other) :=
      hpeer.role
    rw [hrole, hother, Option.map_some, deal.opposite]
  · have hidentity : (pair side.other).identity = deal.identity side.other :=
      hpeer.identity
    rw [hidentity]
    exact hown.remotePk
  · have hkx : (pair side).session.cryptoKeys = deal.keys sodium draws side :=
      hown.keys (hkeys side)
    have hother : (pair side.other).session.cryptoKeys =
        deal.keys sodium draws side.other := hpeer.keys (hkeys side.other)
    rw [hkx, hother]
    exact Deal.keys_rx hlaws draws side

/-- Nothing is on its way to a side. -/
abbrev Silent (pair : Pair) (side : Side) : Prop :=
  (pair side).session.ice.received = [] ∧ (pair side.other).datagrams = []

theorem Linked.settled (hlinked : Linked sodium deal pair)
    (hactive : ∀ side, (pair side).session.iceActive = true) {side : Side}
    (hsilent : Silent pair side)
    (hopened : (pair side.other).session.cryptoStreamHeaderSent = true) :
    (pair side).sessionState = .secure ∧
      (pair side).session.cryptoStream.pull =
        (pair side.other).session.cryptoStream.push := by
  obtain ⟨⟨draws, hlink⟩, hpoised⟩ := hlinked.stands side
  obtain ⟨items, hflight, hbacked⟩ := hlink.inbound (hactive side)
  -- no packet is left, hence no item
  have hpackets : (pair side).session.ice.received ++ (pair side.other).datagrams =
      ciphers _ _ items := hflight.packets
  rw [hsilent.1, hsilent.2, List.append_nil] at hpackets
  obtain rfl : items = [] := by
    cases items with
    | nil => rfl
    | cons item items => exact absurd hpackets.symm (List.cons_ne_nil _ _)
  obtain ⟨hreceived, hpush⟩ := (hbacked (hactive side.other)).opened hopened
  have hheard : (pair side).session.cryptoStreamHeaderReceived = true := hreceived
  have hready := hpoised.prompt (hactive side) hheard
  refine ⟨((hlink.near (hactive side)).secure hready).1, ?_⟩
  have hpull : (pair side.other).session.cryptoStream.push =
      if (pair side).session.cryptoStreamHeaderReceived then
        (pair side).session.cryptoStream.pull else _ := hpush
  rw [hpull, if_pos hheard]

/-- In every undisturbed session in which both sides have derived keys they agree on
the session.  When nothing is on its way to a side whose peer has sent its stream
header, that side is secure and has read the stream of the peer to its end. -/
theorem sides_agree (hlaws : deal.Laws sodium) {start : Pair} {events : List PairEvent}
    (hstart : ∀ side, Fresh deal side (start side))
    (hrun : Transition.Guarded (pairStep sodium) Undisturbed start events) :
    let last := Transition.run (pairStep sodium) start events
    (∀ side, (last side).session.iceActive = true) →
      ((∀ side, (last side).session.cryptoKeysReady = true) →
        ∀ side, Agrees (last side) (last side.other)) ∧
      ∀ side, Silent last side →
        (last side.other).session.cryptoStreamHeaderSent = true →
        (last side).sessionState = .secure ∧
          (last side).session.cryptoStream.pull =
            (last side.other).session.cryptoStream.push := by
  intro last hactive
  have hlinked : Linked sodium deal last :=
    (linked_run hlaws (linked_fresh hstart) hrun).1
  exact ⟨hlinked.agrees hlaws hactive, fun _ => hlinked.settled hactive⟩

/-- Bob has read the text of Alice. -/
theorem sides_agree_greeting :
    let last := Transition.run (pairStep Transparent.sodium) aliceMeetsBob
      (greetingWaits.map smoothEvent)
    Agrees (last .left) (last .right) ∧
      (last .right).session.cryptoStream.pull = (last .left).session.cryptoStream.push := by
  have hfacts : Transition.Guarded (pairStep Transparent.sodium)
      (fun pair event => inOrder event = true ∧ Paced pair event) aliceMeetsBob
      (greetingWaits.map smoothEvent) ∧
      let last := Transition.run (pairStep Transparent.sodium) aliceMeetsBob
        (greetingWaits.map smoothEvent)
      (∀ side ∈ [Side.left, .right], (last side).session.iceActive = true ∧
        (last side).session.cryptoKeysReady = true) ∧
        Silent last .right ∧ (last .left).session.cryptoStreamHeaderSent = true := by
    decide +kernel
  have hworks : ∀ event ∈ greetingWaits.map smoothEvent, ∀ pair, Works pair event :=
    List.forall_mem_map.mpr fun move _ pair => works_smoothEvent pair move
  generalize greetingWaits.map smoothEvent = events at hfacts hworks ⊢
  obtain ⟨hguarded, hsides, hsilent, hopened⟩ := hfacts
  have hside : ∀ side, side ∈ [Side.left, .right] := by rintro ⟨⟩ <;> decide
  have hrun := hguarded.imp_of_mem fun event hevent pair hpaced =>
    Undisturbed.mk hpaced.1 (hworks event hevent pair) hpaced.2
  have hlast := sides_agree aliceWithBob_laws fresh_aliceMeetsBob hrun
    fun side => (hsides side (hside side)).1
  exact ⟨hlast.1 (fun side => (hsides side (hside side)).2) .left, (hlast.2 .right hsilent hopened).2⟩

end ProntoChat.Net
