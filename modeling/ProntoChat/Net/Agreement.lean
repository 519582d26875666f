import ProntoChat.Net.Flight

/-!
# Two sides of one session

Two daemons have agreed on a session: they hold its identifier, opposite roles and
the identity key of each other.  `Link` relates what each of them has done to the
packets that are on their way between them.
-/

namespace ProntoChat.Net

open ProntoChat.Protocole
open ProntoChat.Crypto
open ProntoChat.Ice
open ProntoChat.Daemon
open ProntoChat.OrderedStream

/-! ## The session -/

/-- The accounts of two daemons and the session that they have agreed on. -/
structure Deal where
  identity : Side → ChatIdentity
  role : Side → ChatCryptoRole
  sessionId : Str
  opposite : ∀ side, (role side).opposite = role side.other
  nonempty : sessionId.length ≠ 0
  bounded : sessionId.length ≤ chatCryptoSessionIdMax

/-- What a daemon draws at random in the course of a session. -/
structure Draw where
  kxSecretKey : Bytes 32
  header : Bytes 24

/-- What the session relies on: matching keys are derived, streams are decrypted and
signatures of both accounts verify. -/
structure Deal.Laws (sodium : Sodium) (deal : Deal) : Prop where
  kx : sodium.KxMirrored
  stream : sodium.StreamCorrect
  signs : ∀ side, sodium.SignsFor (deal.identity side).secretKey
    (deal.identity side).publicKey

namespace Deal

variable {sodium : Sodium} {deal : Deal} {draws : Side → Draw} {side : Side}

def hand (deal : Deal) (draws : Side → Draw) (side : Side) : HandshakeSide where
  identity := deal.identity side
  remotePk := (deal.identity side.other).publicKey
  role := deal.role side
  sessionId := deal.sessionId
  kxSecretKey := (draws side).kxSecretKey
  nonempty := deal.nonempty
  bounded := deal.bounded

theorem hand_matches (deal : Deal) (draws : Side → Draw) (side : Side) :
    (deal.hand draws side).Matches (deal.hand draws side.other) where
  role := deal.opposite side
  remotePk := rfl
  ownPk := by simp [hand]
  sessionId := rfl

def keys (sodium : Sodium) (deal : Deal) (draws : Side → Draw) (side : Side) :
    ChatCryptoSessionKeys :=
  (deal.hand draws side).keys sodium (deal.hand draws side.other)

/-- Each side receives under the key under which the other sends. -/
theorem keys_rx (hlaws : deal.Laws sodium) (draws : Side → Draw) (side : Side) :
    (deal.keys sodium draws side).rx = (deal.keys sodium draws side.other).tx := by
  have hmirror := (HandshakeSide.keys_mirror hlaws.kx
    (deal.hand_matches draws side).role).2
  rw [keys, hmirror, keys, Side.other_other]

def script (sodium : Sodium) (deal : Deal) (draws : Side → Draw) (side : Side) :
    Script where
  message := (deal.hand draws side).message sodium
  header := (draws side).header
  key := (deal.keys sodium draws side).tx

end Deal

/-! ## One side -/

/-- What a daemon with a running session has done so far. -/
structure Own (sodium : Sodium) (deal : Deal) (draws : Side → Draw) (side : Side)
    (own : Port) : Prop where
  identity : own.identity = deal.identity side
  agent : own.session.ice.agent = true
  remotePk : own.session.remoteIdentityPk = (deal.identity side.other).publicKey
  role : own.session.cryptoRole = some (deal.role side)
  sessionId : own.session.iceSessionId = deal.sessionId
  shaken : own.session.cryptoKeysReady = true → own.session.cryptoHandshakeSent = true
  sent : own.session.cryptoHandshakeSent = true →
    own.session.iceCliNotified = true ∧
      own.session.cryptoLocalHandshakeMessage = (deal.hand draws side).message sodium
  shaking : own.session.cryptoHandshakeSent = true →
    own.session.encryptedSessionReady = false → own.sessionState = .cryptoHandshake
  begun : own.session.cryptoHandshakeSent = true →
    own.session.cryptoKeysReady = false →
      own.session.cryptoHandshake = (deal.hand draws side).begun sodium
  keys : own.session.cryptoKeysReady = true →
    own.session.cryptoKeys = deal.keys sodium draws side
  opened : own.session.cryptoStreamHeaderSent = true →
    own.session.cryptoKeysReady = true ∧
      own.session.cryptoLocalStreamHeader = (draws side).header ∧
      own.session.cryptoStream.pushInitialized = true
  heard : own.session.cryptoStreamHeaderReceived = true →
    own.session.cryptoKeysReady = true ∧
      own.session.cryptoStream.pullInitialized = true
  secure : own.session.encryptedSessionReady = true →
    own.sessionState = .secure ∧ own.session.cryptoStreamHeaderSent = true ∧
      own.session.cryptoStreamHeaderReceived = true

/-- Both sides and the packets between them.  Nothing is known about a side whose
session has ended. -/
structure Link (sodium : Sodium) (deal : Deal) (draws : Side → Draw) (side : Side)
    (own peer : Port) : Prop where
  near : own.session.iceActive = true → Own sodium deal draws side own
  inbound : own.session.iceActive = true →
    Inbound sodium (deal.script sodium draws side.other) peer own
  far : peer.session.iceActive = true → Own sodium deal draws side.other peer
  outbound : peer.session.iceActive = true →
    Inbound sodium (deal.script sodium draws side) own peer

variable {sodium : Sodium} {deal : Deal} {draws : Side → Draw} {side : Side}
  {own peer next : Port}

theorem Link.symm (hlink : Link sodium deal draws side own peer) :
    Link sodium deal draws side.other peer own where
  near := hlink.far
  inbound hactive := by
    rw [Side.other_other]
    exact hlink.outbound hactive
  far hactive := by
    rw [Side.other_other]
    exact hlink.near hactive
  outbound := hlink.inbound

/-- The session of a side ends. -/
theorem Link.ended (hlink : Link sodium deal draws side own peer)
    (hdatagrams : next.datagrams = own.datagrams)
    (hended : next.session.iceActive = false) :
    Link sodium deal draws side next peer where
  near hactive := absurd (hended.symm.trans hactive) Bool.false_ne_true
  inbound hactive := absurd (hended.symm.trans hactive) Bool.false_ne_true
  far := hlink.far
  outbound hactive := (hlink.outbound hactive).ended hdatagrams hended

/-- A side neither sends nor reads. -/
theorem Link.quiet (hlink : Link sodium deal draws side own peer)
    (hactive : own.session.iceActive = true) (hown : Own sodium deal draws side next)
    (hunread : Unread own.session next.session) (hunsent : Unsent own next) :
    Link sodium deal draws side next peer where
  near _ := hown
  inbound _ := (hlink.inbound hactive).unread hunread
  far := hlink.far
  outbound hpeer := (hlink.outbound hpeer).unsent hunsent

/-- A side sends a packet. -/
theorem Link.sends {item : Item} (hlink : Link sodium deal draws side own peer)
    (hactive : own.session.iceActive = true) (hown : Own sodium deal draws side next)
    (hunread : Unread own.session next.session)
    (hitem : item = .handshake ∨ own.session.cryptoKeysReady = true)
    (hshows : peer.session.iceActive = true →
      ∀ payload, item = .payload payload → Shows peer.session.icePeer payload)
    (hbacked : ∀ items, Backed sodium (deal.script sodium draws side) own.session
        peer.session items →
      ((progressOf peer.session).behind items).Accepts item ∧
        next.datagrams = own.datagrams ++ [((deal.script sodium draws side).push sodium
          (pushed ((deal.script sodium draws side).push sodium)
            ((deal.script sodium draws side).heard sodium peer.session) items) item).1] ∧
        Backed sodium (deal.script sodium draws side) next.session peer.session
          (items ++ [item])) :
    Link sodium deal draws side next peer where
  near _ := hown
  inbound _ := (hlink.inbound hactive).unread hunread
  far := hlink.far
  outbound hpeer := by
    refine (hlink.outbound hpeer).sends hactive (hshows hpeer) (fun hunsent => ?_) hbacked
    rcases hitem with rfl | hkeys
    · rfl
    · -- The keys came with the handshake of the peer.
      obtain ⟨_, _, hsent⟩ := hlink.inbound hactive
      have hunready := ((hsent hpeer).unshaken hunsent).2
      exact absurd (hunready.symm.trans hkeys) Bool.false_ne_true

/-- A side handles the oldest packet of its queue. -/
theorem Link.handled {item : Item} {items : List Item}
    (hlink : Link sodium deal draws side own peer)
    (hown : Own sodium deal draws side next) (hunsent : Unsent own next)
    (hflight : Flight sodium (deal.script sodium draws side.other) peer.datagrams
      own.session (item :: items))
    (hbacked : peer.session.iceActive = true → Backed sodium
      (deal.script sodium draws side.other) peer.session own.session (item :: items))
    (hhandled : Handled sodium (deal.script sodium draws side.other) item own.session
      next.session)
    (hreceived : own.session.ice.received ≠ []) :
    Link sodium deal draws side next peer where
  near _ := hown
  inbound _ := ⟨items, hflight.handled hhandled hreceived,
    fun hpeer => (hbacked hpeer).handled hhandled⟩
  far := hlink.far
  outbound hpeer := (hlink.outbound hpeer).unsent hunsent

/-! ## Random values -/

theorem Own.redraw {drawn : Side → Draw} (hown : Own sodium deal draws side own)
    (hhand : own.session.cryptoHandshakeSent = true →
      deal.hand drawn side = deal.hand draws side)
    (hkeys : own.session.cryptoKeysReady = true →
      deal.keys sodium drawn side = deal.keys sodium draws side)
    (hheader : own.session.cryptoStreamHeaderSent = true →
      (drawn side).header = (draws side).header) :
    Own sodium deal drawn side own :=
  { hown with
    sent := fun hsent => by
      rw [hhand hsent]
      exact hown.sent hsent
    begun := fun hsent => by
      rw [hhand hsent]
      exact hown.begun hsent
    keys := fun hready => by
      rw [hkeys hready]
      exact hown.keys hready
    opened := fun hopened => by
      rw [hheader hopened]
      exact hown.opened hopened }

/-- With its handshake unsent, a side has not been sent a header. -/
theorem Link.unopened_of_unshaken (hlink : Link sodium deal draws side own peer)
    (hactive : own.session.iceActive = true)
    (hunsent : own.session.cryptoHandshakeSent = false)
    (hpeer : peer.session.iceActive = true) :
    peer.session.cryptoKeysReady = false ∧
      peer.session.cryptoStreamHeaderSent = false := by
  obtain ⟨items, _, hbacked⟩ := hlink.outbound hpeer
  have hkeys := ((hbacked hactive).unshaken hunsent).2
  refine ⟨hkeys, Bool.eq_false_iff.mpr fun hopened => ?_⟩
  have hready := ((hlink.far hpeer).opened hopened).1
  exact absurd (hkeys.symm.trans hready) Bool.false_ne_true

/-- What a side has not sent yet can still be drawn. -/
theorem Link.redraw (hlink : Link sodium deal draws side own peer)
    (hactive : own.session.iceActive = true)
    (hunopened : own.session.cryptoStreamHeaderSent = false) (draw : Draw)
    (hkx : own.session.cryptoHandshakeSent = true →
      draw.kxSecretKey = (draws side).kxSecretKey) :
    Link sodium deal (Function.update draws side draw) side own peer := by
  have hown := hlink.near hactive
  have hdraw : Function.update draws side draw side = draw := Function.update_self _ _ _
  have hkept : Function.update draws side draw side.other = draws side.other :=
    Function.update_of_ne side.other_ne _ _
  generalize Function.update draws side draw = drawn at hdraw hkept
  have hother : deal.hand drawn side.other = deal.hand draws side.other := by
    simp only [Deal.hand, hkept]
  have hsame (hsent : own.session.cryptoHandshakeSent = true) :
      deal.hand drawn side = deal.hand draws side := by
    simp only [Deal.hand, hdraw, hkx hsent]
  have hkeys (hsent : own.session.cryptoHandshakeSent = true) :
      deal.keys sodium drawn side = deal.keys sodium draws side := by
    rw [Deal.keys, hsame hsent, hother, Deal.keys]
  have hpeerKeys (hsent : own.session.cryptoHandshakeSent = true) :
      deal.keys sodium drawn side.other = deal.keys sodium draws side.other := by
    rw [Deal.keys, hother, Side.other_other, hsame hsent, Deal.keys, Side.other_other]
  constructor
  · intro _
    refine hown.redraw hsame (fun hready => hkeys (hown.shaken hready)) ?_
    intro hopened
    exact absurd (hunopened.symm.trans hopened) Bool.false_ne_true
  · intro _
    refine (hlink.inbound hactive).rescript fun items hflight _ => ?_
    cases hsent : own.session.cryptoHandshakeSent with
    | true =>
        left
        simp only [Deal.script, hother, hkept, hpeerKeys hsent]
    | false =>
        refine Or.inr ⟨(hflight.early hsent).2, fun _ => ?_, fun hpeer => ?_⟩
        · simp only [Deal.script, hother]
        · exact (hlink.unopened_of_unshaken hactive hsent hpeer).2
  · intro hpeer
    refine (hlink.far hpeer).redraw (fun _ => hother) (fun hready => ?_) (fun _ => by rw [hkept])
    cases hsent : own.session.cryptoHandshakeSent with
    | true => exact hpeerKeys hsent
    | false =>
        have hkeysReady := (hlink.unopened_of_unshaken hactive hsent hpeer).1
        exact absurd (hkeysReady.symm.trans hready) Bool.false_ne_true
  · intro hpeer
    refine (hlink.outbound hpeer).rescript fun items _ hbacked => ?_
    refine Or.inr ⟨((hbacked hactive).unopened hunopened).2, fun hitems => ?_,
      fun _ => hunopened⟩
    cases hsent : own.session.cryptoHandshakeSent with
    | true => simp only [Deal.script, hsame hsent]
    | false => exact absurd ((hbacked hactive).unshaken hsent).1 hitems

end ProntoChat.Net
