import ProntoChat.Daemon.Deadlines
import ProntoChat.Net.Acceptance

/-!
# Establishing a session

Two linked daemons serve their sessions, packets arrive in order, and commands come
once a side is secure.  Every stage of a service keeps the link, and no packet is
refused.
-/

namespace ProntoChat.Net

open ProntoChat.Protocole
open ProntoChat.Crypto
open ProntoChat.Ice
open ProntoChat.Daemon
open ProntoChat.OrderedStream

variable {sodium : Sodium} {env : Env} {deal : Deal} {draws : Side → Draw} {side : Side}
  {state next : ChatdState} {peer : Port}

/-! ## Calls that send -/

/-- A call refuses no packet, and one that fails has sent nothing. -/
def Passes (state : ChatdState) (Good : ChatdState → Prop) (outcome : Outcome) : Prop :=
  (port outcome.1).refusals = (port state).refusals ∧
    if outcome.2 then Good outcome.1 else outcome.1.datagrams = state.datagrams

theorem Passes.of_made {made : ChatdState} {Good : ChatdState → Prop} {outcome : Outcome}
    (hpasses : Passes made Good outcome)
    (hrefusals : (port made).refusals = (port state).refusals)
    (hdatagrams : made.datagrams = state.datagrams) : Passes state Good outcome := by
  unfold Passes at hpasses ⊢
  rwa [hrefusals, hdatagrams] at hpasses

/-- A packet is sent, and the session notes it. -/
theorem port_sent (state : ChatdState) (packet : List UInt8) (session : ChatdSession) :
    port ((state.sent packet).setSession session) =
      { port state with
        session := wire session
        datagrams := state.datagrams ++ [packet] } := by
  simp [port, ChatdState.sent, ChatdState.emit, ChatdState.setSession]

theorem passes_sendSessionPacket {Good : ChatdState → Prop} {type : ChatPacketType}
    {payload : List UInt8} {note : ChatdSession → ChatdSession}
    (hgood : Good ((state.sent (chatPacket type payload)).setSession
      (note state.session))) :
    Passes state Good (sendSessionPacket env state type payload note) := by
  have hsent := congrArg Port.refusals
    (port_sent state (chatPacket type payload) (note state.session))
  unfold sendSessionPacket
  rcases sendIcePacket_cases (Eq.refl (sendIcePacket env state type payload))
    with hsend | hsend | hsend <;> rw [hsend]
  · exact ⟨rfl, rfl⟩
  · exact ⟨congrArg Port.refusals (port_emit state nofun), rfl⟩
  · exact ⟨hsent, hgood⟩

/-- A session that has sent its handshake and is not ready. -/
structure Shaking (sodium : Sodium) (deal : Deal) (side : Side) (peer : Port)
    (state : ChatdState) : Prop where
  link : ∃ draws, Link sodium deal draws side (port state) peer
  active : state.session.iceActive = true
  unready : state.session.encryptedSessionReady = false
  sent : state.session.cryptoHandshakeSent = true

/-- The port with a handshake message. -/
def Port.signed (own : Port) (handshake : ChatCryptoHandshake) (message : Bytes 96) :
    Port :=
  { own with
    sessionState := .cryptoHandshake
    session := { own.session with
      cryptoHandshake := handshake
      cryptoLocalHandshakeMessage := message } }

/-- The handshake message is made from a key that was not used before, or it was
made earlier. -/
theorem link_initCryptoHandshake
    (hlink : Link sodium deal draws side (port state) peer)
    (hactive : state.session.iceActive = true)
    (hinit : initCryptoHandshake sodium env (state.setSessionState .cryptoHandshake) =
      (next, true)) :
    ∃ drawn handshake, Link sodium deal drawn side (port state) peer ∧
      (state.session.cryptoKeysReady = false →
        handshake = (deal.hand drawn side).begun sodium) ∧
      port next =
        (port state).signed handshake ((deal.hand drawn side).message sodium) := by
  have hown := hlink.near hactive
  rcases initCryptoHandshake_cases hinit with
    ⟨hsent, hnext⟩ | ⟨_, hnext⟩ | ⟨role, handshake, message, hunsent, _, hmade, hnext⟩
  · obtain ⟨rfl, _⟩ := Prod.mk.inj hnext
    refine ⟨draws, state.session.cryptoHandshake, hlink, hown.begun hsent, ?_⟩
    rw [← (hown.sent hsent).2]
    rfl
  · exact absurd (Prod.mk.inj hnext).2 (by decide)
  · obtain ⟨rfl, _⟩ := Prod.mk.inj hnext
    obtain ⟨_, kxSecretKey, _, hkey, _⟩ := chatCryptoHandshakeInit_ok hmade
    have hunopened : state.session.cryptoStreamHeaderSent = false := by
      refine Bool.eq_false_iff.mpr fun hopened => ?_
      have hsent := hown.shaken (hown.opened hopened).1
      exact absurd (hunsent.symm.trans hsent) Bool.false_ne_true
    have hdraw := hlink.redraw hactive hunopened ⟨kxSecretKey, (draws side).header⟩
      fun hsent => absurd (hunsent.symm.trans hsent) Bool.false_ne_true
    have hdrawn : (Function.update draws side
        ⟨kxSecretKey, (draws side).header⟩ side).kxSecretKey = kxSecretKey := by
      rw [Function.update_self]
    generalize Function.update draws side _ = drawn at hdraw hdrawn
    have hside : (deal.hand drawn side).init sodium state.session.cryptoHandshake =
        (handshake, .ok message) := by
      show chatCryptoHandshakeInit sodium _ (deal.identity side)
        (deal.identity side.other).publicKey (some (deal.role side)) deal.sessionId
        (some (drawn side).kxSecretKey) = _
      rw [← hown.identity, ← hown.remotePk, ← hown.role, ← hown.sessionId, hdrawn, ← hkey]
      exact hmade
    obtain ⟨hbegun, hmessage⟩ := init_ok hside
    refine ⟨drawn, handshake, hdraw, fun _ => hbegun, ?_⟩
    rw [HandshakeSide.message, ← hmessage]
    exact port_emit _ (by simp)

/-- The port behind the handshake packet. -/
def Port.shook (own : Port) (nextAt : ℕ) : Port :=
  { own with
    session := { own.session with
      cryptoNextHandshakeAt := nextAt
      cryptoHandshakeSent := true }
    datagrams := own.datagrams ++
      [chatPacket .handshake own.session.cryptoLocalHandshakeMessage.toList] }

theorem Link.shook {own : Port} {handshake : ChatCryptoHandshake} {nextAt : ℕ}
    (hlink : Link sodium deal draws side own peer)
    (hactive : own.session.iceActive = true)
    (hunready : own.session.encryptedSessionReady = false)
    (hnotified : own.session.iceCliNotified = true)
    (hbegun : own.session.cryptoKeysReady = false →
      handshake = (deal.hand draws side).begun sodium) :
    Link sodium deal draws side
      ((own.signed handshake ((deal.hand draws side).message sodium)).shook nextAt) peer := by
  have hown := hlink.near hactive
  refine hlink.sends hactive ?_ ⟨rfl, rfl, rfl, rfl, fun _ => rfl⟩ (Or.inl rfl) nofun
    fun items hbacked => ⟨trivial, rfl, hbacked.handshake rfl rfl rfl⟩
  exact { hown with
    shaken := fun _ => rfl
    sent := fun _ => ⟨hnotified, rfl⟩
    shaking := fun _ _ => rfl
    begun := fun _ => hbegun
    secure := fun hready => absurd (hunready.symm.trans hready) Bool.false_ne_true }

theorem passes_startCryptoHandshake
    (hlink : Link sodium deal draws side (port state) peer)
    (hactive : state.session.iceActive = true)
    (hunready : state.session.encryptedSessionReady = false)
    (hnotified : state.session.iceCliNotified = true) :
    Passes state (Shaking sodium deal side peer)
      (startCryptoHandshake sodium env state) := by
  unfold startCryptoHandshake
  split <;> rename_i made hinit
  · rcases initCryptoHandshake_cases hinit with
      ⟨_, hmade⟩ | ⟨_, hmade⟩ | ⟨_, _, _, _, _, _, hmade⟩
    · exact nomatch (Prod.mk.inj hmade).2
    · obtain ⟨rfl, _⟩ := Prod.mk.inj hmade
      exact ⟨rfl, rfl⟩
    · exact nomatch (Prod.mk.inj hmade).2
  · obtain ⟨drawn, handshake, hdrawn, hbegun, hport⟩ :=
      link_initCryptoHandshake hlink hactive hinit
    have hsession := congrArg Port.session hport
    have hrefusals := congrArg Port.refusals hport
    have hdatagrams := congrArg Port.datagrams hport
    refine Passes.of_made (passes_sendSessionPacket ⟨⟨drawn, ?_⟩, ?_, ?_, rfl⟩)
      hrefusals hdatagrams
    · have hshook : Link sodium deal drawn side ((port made).shook (env.now + 1)) peer := by
        rw [hport]
        exact hdrawn.shook hactive hunready hnotified hbegun
      rw [port_sent]
      exact hshook
    · exact (congrArg ChatdSession.iceActive hsession).trans hactive
    · exact (congrArg ChatdSession.encryptedSessionReady hsession).trans hunready

theorem passes_handshakeStage
    (hlink : Link sodium deal draws side (port state) peer)
    (hactive : state.session.iceActive = true)
    (hunready : state.session.encryptedSessionReady = false)
    (hnotified : state.session.iceCliNotified = true) :
    Passes state (Shaking sodium deal side peer) (handshakeStage sodium env state) := by
  unfold handshakeStage
  split_ifs with hdue
  · exact passes_startCryptoHandshake hlink hactive hunready hnotified
  · have hsent : state.session.cryptoHandshakeSent = true := by
      simp only [handshakeDue, Bool.or_eq_true, Bool.not_eq_true', not_or] at hdue
      exact Bool.eq_true_of_not_eq_false hdue.1
    exact ⟨rfl, ⟨draws, hlink⟩, hactive, hunready, hsent⟩

/-- The port with a push stream. -/
def Port.pushing (own : Port) (push : Bytes 52) (header : Bytes 24) : Port :=
  { own with
    session := { own.session with
      cryptoStream := { own.session.cryptoStream with push, pushInitialized := true }
      cryptoLocalStreamHeader := header } }

/-- The push stream is opened with a new header, or it was opened earlier. -/
theorem link_initStreamHeader
    (hlink : Link sodium deal draws side (port state) peer)
    (hactive : state.session.iceActive = true)
    (hkeys : state.session.cryptoKeysReady = true)
    (hinit : initStreamHeader sodium env state = (next, true)) :
    ∃ drawn push, Link sodium deal drawn side (port state) peer ∧
      (∀ items, Backed sodium (deal.script sodium drawn side) (port state).session
          peer.session items →
        push = pushed ((deal.script sodium drawn side).push sodium)
          ((deal.script sodium drawn side).heard sodium peer.session) items) ∧
      port next = (port state).pushing push (drawn side).header := by
  have hown := hlink.near hactive
  unfold initStreamHeader chatCryptoSecretstreamInitPush at hinit
  split_ifs at hinit with hsent
  · obtain ⟨rfl, _⟩ := Prod.mk.inj hinit
    obtain ⟨_, hheader, hpush⟩ := hown.opened hsent
    refine ⟨draws, state.session.cryptoStream.push, hlink,
      fun items hbacked => (hbacked.opened hsent).2, ?_⟩
    rw [← hheader, Port.pushing, ← hpush]
    rfl
  · cases hheader : env.streamHeader with
    | none => simp [hheader] at hinit
    | some header =>
        simp only [hheader] at hinit
        obtain ⟨rfl, _⟩ := Prod.mk.inj hinit
        have hdraw := hlink.redraw hactive (Bool.eq_false_of_not_eq_true hsent)
          ⟨(draws side).kxSecretKey, header⟩ fun _ => rfl
        have hdrawn : (Function.update draws side
            ⟨(draws side).kxSecretKey, header⟩ side).header = header := by
          rw [Function.update_self]
        generalize Function.update draws side _ = drawn at hdraw hdrawn
        refine ⟨drawn, sodium.secretstreamInitPush header state.session.cryptoKeys.tx, hdraw,
          fun items hbacked => ?_, ?_⟩
        · obtain ⟨hclosed, hall⟩ := hbacked.unopened (Bool.eq_false_of_not_eq_true hsent)
          have htx := congrArg ChatCryptoSessionKeys.tx ((hdraw.near hactive).keys hkeys)
          rw [Script.pushed_handshakes _ _ _ hall, Script.heard, hclosed]
          show sodium.secretstreamInitPush header (port state).session.cryptoKeys.tx =
            sodium.secretstreamInitPush (drawn side).header
              (deal.keys sodium drawn side).tx
          rw [htx, hdrawn]
        · rw [hdrawn]
          rfl

/-- The port behind the packet of the stream header. -/
def Port.opened (own : Port) (nextAt : ℕ) : Port :=
  { own with
    session := { own.session with
      cryptoNextStreamHeaderAt := nextAt
      cryptoStreamHeaderSent := true }
    datagrams := own.datagrams ++
      [chatPacket .streamHeader own.session.cryptoLocalStreamHeader.toList] }

theorem Link.opened {own : Port} {push : Bytes 52} {nextAt : ℕ}
    (hlink : Link sodium deal draws side own peer)
    (hactive : own.session.iceActive = true)
    (hunready : own.session.encryptedSessionReady = false)
    (hkeys : own.session.cryptoKeysReady = true)
    (hpush : ∀ items, Backed sodium (deal.script sodium draws side) own.session
        peer.session items →
      push = pushed ((deal.script sodium draws side).push sodium)
        ((deal.script sodium draws side).heard sodium peer.session) items) :
    Link sodium deal draws side
      ((own.pushing push (draws side).header).opened nextAt) peer := by
  have hown := hlink.near hactive
  have hsent := hown.shaken hkeys
  have hitem : Item.header = .handshake ∨ own.session.cryptoKeysReady = true :=
    Or.inr hkeys
  refine hlink.sends hactive ?_ ⟨rfl, rfl, rfl, rfl, id⟩ hitem nofun
    fun items hbacked => ⟨hbacked.shaken hsent, rfl,
      hbacked.header hsent hsent rfl (hpush items hbacked)⟩
  exact { hown with
    opened := fun _ => ⟨hkeys, rfl, rfl⟩
    secure := fun hready => absurd (hunready.symm.trans hready) Bool.false_ne_true }

theorem passes_sendStreamHeader (hshaking : Shaking sodium deal side peer state)
    (hkeys : state.session.cryptoKeysReady = true) :
    Passes state (Shaking sodium deal side peer) (sendStreamHeader sodium env state) := by
  obtain ⟨⟨draws, hlink⟩, hactive, hunready, hsent⟩ := hshaking
  unfold sendStreamHeader
  split <;> rename_i made hinit
  · unfold initStreamHeader chatCryptoSecretstreamInitPush at hinit
    split_ifs at hinit
    · exact nomatch (Prod.mk.inj hinit).2
    · cases hheader : env.streamHeader with
      | none =>
          simp only [hheader] at hinit
          obtain ⟨rfl, _⟩ := Prod.mk.inj hinit
          exact ⟨rfl, rfl⟩
      | some header => simp [hheader] at hinit
  · obtain ⟨drawn, push, hdrawn, hpush, hport⟩ :=
      link_initStreamHeader hlink hactive hkeys hinit
    have hsession := congrArg Port.session hport
    have hrefusals := congrArg Port.refusals hport
    have hdatagrams := congrArg Port.datagrams hport
    refine Passes.of_made (passes_sendSessionPacket ⟨⟨drawn, ?_⟩, ?_, ?_, ?_⟩)
      hrefusals hdatagrams
    · have hopened : Link sodium deal drawn side ((port made).opened (env.now + 1)) peer := by
        rw [hport]
        exact hdrawn.opened hactive hunready hkeys hpush
      rw [port_sent]
      exact hopened
    · exact (congrArg ChatdSession.iceActive hsession).trans hactive
    · exact (congrArg ChatdSession.encryptedSessionReady hsession).trans hunready
    · exact (congrArg ChatdSession.cryptoHandshakeSent hsession).trans hsent

theorem passes_headerStage (hshaking : Shaking sodium deal side peer state) :
    Passes state (Shaking sodium deal side peer) (headerStage sodium env state) := by
  unfold headerStage
  split_ifs with hdue
  · rw [streamHeaderDue, Bool.and_eq_true] at hdue
    exact passes_sendStreamHeader hshaking hdue.1
  · exact ⟨rfl, hshaking⟩

/-! ## The service of a session that is not ready -/

theorem passes_process (hlaws : deal.Laws sodium)
    (hshaking : Shaking sodium deal side peer state)
    (hquiet : state.session.cryptoStreamHeaderReceived = false ∨
      ∀ packet ∈ state.session.ice.received.head?, isChat packet = false) :
    Passes state (Shaking sodium deal side peer)
      (processReceivedIcePacket sodium env state) := by
  obtain ⟨⟨draws, hlink⟩, hactive, hunready, hsent⟩ := hshaking
  have hwrite (hready : state.session.encryptedSessionReady = true) :
      ∀ count, env.ipcWrite count = true :=
    absurd (hunready.symm.trans hready) Bool.false_ne_true
  obtain ⟨next, hprocess, haccepted⟩ := accepted_process hlaws hlink hactive hsent
    (fun _ => hquiet) hwrite
  have hkeeps := processReceivedIcePacket_keeps sodium env state hunready
  rw [hprocess] at hkeeps ⊢
  refine ⟨haccepted.refusals, ⟨draws, haccepted.link⟩, hkeeps.1.trans hactive,
    hkeeps.2.trans hunready, ?_⟩
  rcases haccepted.kept with hreset | ⟨_, hstill, _⟩
  · have hended := congrArg ChatdSession.iceActive hreset
    exact absurd (hended.symm.trans (hkeeps.1.trans hactive)) Bool.false_ne_true
  · exact hstill

/-- Both directions are open, and the session becomes ready. -/
theorem port_establishSession (env : Env) (state : ChatdState) :
    port (establishSession env state) =
      if state.session.cryptoKeysReady = true ∧
          state.session.cryptoStreamHeaderSent = true ∧
          state.session.cryptoStreamHeaderReceived = true then
        { port state with
          sessionState := .secure
          session := { (port state).session with encryptedSessionReady := true } }
      else port state := by
  unfold establishSession
  split_ifs
  · simp only
    split
    · rfl
    · exact port_writeIpcResponse env _ _ _
  · rfl

/-- Between two steps a session that has ended is not ready, and one that has heard
the stream header of its peer is. -/
structure Poised (own : Port) : Prop where
  idle : own.session.iceActive = false → own.session.encryptedSessionReady = false
  prompt : own.session.iceActive = true →
    own.session.cryptoStreamHeaderReceived = true →
      own.session.encryptedSessionReady = true

/-- A side is linked to its peer between two steps. -/
def Stands (sodium : Sodium) (deal : Deal) (side : Side) (peer : Port)
    (state : ChatdState) : Prop :=
  (∃ draws, Link sodium deal draws side (port state) peer) ∧ Poised (port state)

theorem stands_establishSession (hshaking : Shaking sodium deal side peer state)
    (hanswered : state.session.cryptoStreamHeaderReceived = true →
      state.session.cryptoStreamHeaderSent = true) :
    Stands sodium deal side peer (establishSession env state) := by
  obtain ⟨⟨draws, hlink⟩, hactive, hunready, _⟩ := hshaking
  have hown := hlink.near hactive
  unfold Stands
  rw [port_establishSession]
  split_ifs with hopen
  · refine ⟨⟨draws, hlink.quiet hactive ?_ ⟨rfl, rfl, rfl, rfl, id⟩
      ⟨rfl, rfl, rfl, rfl, rfl⟩⟩, ?_, fun _ _ => rfl⟩
    · exact { hown with
        shaking := nofun
        secure := fun _ => ⟨rfl, hopen.2.1, hopen.2.2⟩ }
    · intro hinactive
      exact absurd (hinactive.symm.trans hactive) Bool.false_ne_true
  · refine ⟨⟨draws, hlink⟩, fun _ => hunready, fun _ hreceived => ?_⟩
    exact absurd ⟨(hown.heard hreceived).1, hanswered hreceived, hreceived⟩ hopen

/-- A service goes on, or the session is about to fail.  What was sent before is
part of the link in both cases. -/
def Comes (sodium : Sodium) (deal : Deal) (side : Side) (peer : Port) (refusals : ℕ) :
    Except ChatdState ChatdState → Prop
  | .ok next => (port next).refusals = refusals ∧ Stands sodium deal side peer next
  | .error failed => (port failed).refusals = refusals ∧
      ∃ draws last, Link sodium deal draws side last peer ∧
        failed.datagrams = last.datagrams

theorem comes_error (hlink : Link sodium deal draws side (port state) peer) :
    Comes sodium deal side peer (port state).refusals (.error state) :=
  ⟨rfl, draws, port state, hlink, rfl⟩

theorem comes_bind {Good : ChatdState → Prop} {outcome : Outcome}
    {rest : ChatdState → Except ChatdState ChatdState}
    (hlink : Link sodium deal draws side (port state) peer)
    (hpasses : Passes state Good outcome)
    (hrest : ∀ next, outcome = (next, true) → Good next →
      Comes sodium deal side peer (port next).refusals (rest next)) :
    Comes sodium deal side peer (port state).refusals (attempt outcome >>= rest) := by
  obtain ⟨next, ok⟩ := outcome
  obtain ⟨hrefusals, hgood⟩ := hpasses
  cases ok with
  | true => exact hrefusals ▸ hrest next rfl hgood
  | false => exact ⟨hrefusals, draws, port state, hlink, hgood⟩

theorem HeaderFlags.take_received {flags : HeaderFlags}
    (hreceived : flags.take.received = true) :
    flags.received = true ∨ flags.keysReady = true := by
  unfold take handle at hreceived
  split at hreceived
  · exact Or.inl hreceived
  · split_ifs at hreceived
    · exact Or.inl hreceived
    · exact Or.inl hreceived
    · simpa using hreceived

/-- Behind the stage that sends the header, keys and header go together. -/
theorem answered_headerStage (hstage : headerStage sodium env state = (next, true)) :
    (flags next.session).queue = (flags state.session).queue ∧
      ((flags next.session).keysReady = true → (flags next.session).sent = true) := by
  have hflags := flags_headerStage hstage
  split_ifs at hflags with hdue
  · rw [hflags.2]
    exact ⟨rfl, fun _ => rfl⟩
  · subst hflags
    refine ⟨rfl, fun hkeys => ?_⟩
    simp only [HeaderFlags.due, hkeys, Bool.true_and, Bool.or_eq_true,
      Bool.not_eq_true', not_or] at hdue
    exact Bool.eq_true_of_not_eq_false hdue.1

/-- Two packets are handled, and the second has to be spared payloads. -/
theorem comes_handshakeAttempt (hlaws : deal.Laws sodium)
    (hlink : Link sodium deal draws side (port state) peer)
    (hactive : state.session.iceActive = true)
    (hunready : state.session.encryptedSessionReady = false)
    (hnotified : state.session.iceCliNotified = true)
    (hunheard : state.session.cryptoStreamHeaderReceived = false)
    (hspared : ∀ packet ∈ state.session.ice.received.tail.head?, isChat packet = false) :
    Comes sodium deal side peer (port state).refusals
      (handshakeAttempt sodium env state) := by
  unfold handshakeAttempt
  refine comes_bind hlink (passes_handshakeStage hlink hactive hunready hnotified)
    fun shaken hstage hshaken => ?_
  obtain ⟨hflags, _⟩ := flags_handshakeStage hstage
  obtain ⟨_, hshakenLink⟩ := hshaken.link
  have hshakenUnheard : shaken.session.cryptoStreamHeaderReceived = false :=
    (congrArg HeaderFlags.received hflags).trans hunheard
  refine comes_bind hshakenLink (passes_process hlaws hshaken (Or.inl hshakenUnheard))
    fun first hfirst hfirstShaking => ?_
  have hfirstFlags := flags_process hshaken.unready hfirst
  obtain ⟨_, hfirstLink⟩ := hfirstShaking.link
  refine comes_bind hfirstLink (passes_headerStage hfirstShaking)
    fun sent hheader hsent => ?_
  obtain ⟨hqueue, hanswered⟩ := answered_headerStage hheader
  obtain ⟨_, hsentLink⟩ := hsent.link
  have hhead : ∀ packet ∈ sent.session.ice.received.head?, isChat packet = false := by
    have htail : sent.session.ice.received = state.session.ice.received.tail := by
      obtain ⟨_, _, _, _, htake⟩ := (flags shaken.session).take_cases
      rw [hfirstFlags, htake, hflags] at hqueue
      exact hqueue
    rw [htail]
    exact hspared
  refine comes_bind hsentLink (passes_process hlaws hsent (Or.inr hhead))
    fun second hsecond hsecondShaking => ?_
  have hsecondFlags := flags_process hsent.unready hsecond
  refine ⟨?_, stands_establishSession hsecondShaking fun hreceived => ?_⟩
  · rw [port_establishSession]
    split_ifs <;> rfl
  · -- The header came with keys, and with keys the own header was sent before.
    have htaken : (flags sent.session).take.received = true := by
      rw [← hsecondFlags]
      exact hreceived
    have hkeys : (flags sent.session).keysReady = true := by
      rcases HeaderFlags.take_received htaken with hearlier | hkeys
      · exact ((hsentLink.near hsent.active).heard hearlier).1
      · exact hkeys
    obtain ⟨_, _, _, _, htake⟩ := (flags sent.session).take_cases
    rw [htake] at hsecondFlags
    exact (congrArg HeaderFlags.sent hsecondFlags).trans (hanswered hkeys)

/-! ## Every service step -/

theorem poised_of_kept
    (hkept : state.session = {} ∨ (state.session.iceActive = true ∧
      state.session.cryptoHandshakeSent = true ∧
      state.session.encryptedSessionReady = true)) : Poised (port state) := by
  rcases hkept with hreset | ⟨hactive, _, hready⟩
  · have hended : state.session.iceActive = false := congrArg ChatdSession.iceActive hreset
    refine ⟨fun _ => congrArg ChatdSession.encryptedSessionReady hreset, fun hactive => ?_⟩
    exact absurd (hended.symm.trans hactive) Bool.false_ne_true
  · refine ⟨fun hended => ?_, fun _ _ => hready⟩
    exact absurd (hended.symm.trans hactive) Bool.false_ne_true

/-- The service of a ready session accepts every packet of its queue. -/
theorem stands_serviceReceiveQueue (hlaws : deal.Laws sodium)
    (hwrite : ∀ count, env.ipcWrite count = true) (count : ℕ)
    (hlink : Link sodium deal draws side (port state) peer)
    (hkept : state.session = {} ∨ (state.session.iceActive = true ∧
      state.session.cryptoHandshakeSent = true ∧
      state.session.encryptedSessionReady = true)) :
    (port (serviceReceiveQueue sodium env count state)).refusals =
        (port state).refusals ∧
      Stands sodium deal side peer (serviceReceiveQueue sodium env count state) := by
  induction count generalizing state with
  | zero => exact ⟨rfl, ⟨draws, hlink⟩, poised_of_kept hkept⟩
  | succ count ih =>
      unfold serviceReceiveQueue
      rcases hkept with hreset | ⟨hactive, hsent, hready⟩
      · have hempty : state.session.ice.received = [] := by
          rw [hreset]
          exact received_default
        rw [process_nil sodium env hempty]
        exact ih hlink (Or.inl hreset)
      · have hquiet (hunready : state.session.encryptedSessionReady = false) :
            state.session.cryptoStreamHeaderReceived = false ∨
              ∀ packet ∈ state.session.ice.received.head?, isChat packet = false :=
          absurd (hunready.symm.trans hready) Bool.false_ne_true
        obtain ⟨next, hprocess, haccepted⟩ := accepted_process hlaws hlink hactive hsent
          hquiet fun _ => hwrite
        have hnext := haccepted.kept
        rw [hready] at hnext
        obtain ⟨hrefusals, hstands⟩ := ih haccepted.link hnext
        rw [hprocess]
        exact ⟨hrefusals.trans haccepted.refusals, hstands⟩

theorem port_notifyIceConnected (env : Env) (state : ChatdState) :
    port (notifyIceConnected env state) =
      if state.session.iceCliNotified then port state
      else
        { port state with
          sessionState := .iceConnected
          session := { (port state).session with iceCliNotified := true } } := by
  unfold notifyIceConnected
  split_ifs <;> rfl

/-- The first service comes before the handshake. -/
theorem link_notifyIceConnected (env : Env)
    (hlink : Link sodium deal draws side (port state) peer) (hactive : state.session.iceActive = true) :
    Link sodium deal draws side (port (notifyIceConnected env state)) peer ∧
      (notifyIceConnected env state).session.iceCliNotified = true := by
  have hown := hlink.near hactive
  refine ⟨?_, ?_⟩
  · rw [port_notifyIceConnected]
    split_ifs with hnotified
    · exact hlink
    · have hunsent (hsent : state.session.cryptoHandshakeSent = true) : False :=
        hnotified (hown.sent hsent).1
      refine hlink.quiet hactive ?_ ⟨rfl, rfl, rfl, rfl, id⟩ ⟨rfl, rfl, rfl, rfl, rfl⟩
      exact { hown with
        sent := fun hsent => (hunsent hsent).elim
        shaking := fun hsent => (hunsent hsent).elim
        secure := fun hready =>
          (hunsent (hown.shaken (hown.heard (hown.secure hready).2.2).1)).elim }
  · unfold notifyIceConnected
    split_ifs with hnotified
    · exact hnotified
    · rfl

/-- A service step is spared what the code cannot take: a client that is gone, and a
payload behind the packet that makes the session ready. -/
def Serves (env : Env) (session : ChatdSession) : Prop :=
  if session.encryptedSessionReady then ∀ count, env.ipcWrite count = true
  else ∀ packet ∈ session.ice.received.tail.head?, isChat packet = false

theorem Serves.of_flags (hserves : Serves env state.session)
    (hflags : flags next.session = flags state.session) : Serves env next.session := by
  have hready : next.session.encryptedSessionReady = state.session.encryptedSessionReady :=
    congrArg HeaderFlags.ready hflags
  have hqueue : next.session.ice.received = state.session.ice.received :=
    congrArg HeaderFlags.queue hflags
  rwa [Serves, hready, hqueue]

theorem Poised.of_flags (hpoised : Poised (port state))
    (hflags : flags next.session = flags state.session) : Poised (port next) where
  idle hinactive := by
    have hended := (congrArg HeaderFlags.active hflags).symm.trans hinactive
    exact (congrArg HeaderFlags.ready hflags).trans (hpoised.idle hended)
  prompt hactive hreceived := by
    have hbefore := (congrArg HeaderFlags.active hflags).symm.trans hactive
    have hheard := (congrArg HeaderFlags.received hflags).symm.trans hreceived
    exact (congrArg HeaderFlags.ready hflags).trans (hpoised.prompt hbefore hheard)

theorem comes_cryptoAttempt (hlaws : deal.Laws sodium)
    (hlink : Link sodium deal draws side (port state) peer)
    (hpoised : Poised (port state)) (hactive : state.session.iceActive = true)
    (hnotified : state.session.iceCliNotified = true)
    (hserves : Serves env state.session) :
    Comes sodium deal side peer (port state).refusals
      (cryptoAttempt sodium env state) := by
  have hown := hlink.near hactive
  unfold cryptoAttempt
  split_ifs with _ hready
  · exact ⟨rfl, ⟨draws, hlink⟩, hpoised⟩
  · rw [Serves, if_pos hready] at hserves
    have hkeys := (hown.heard (hown.secure hready).2.2).1
    exact stands_serviceReceiveQueue hlaws hserves _ hlink
      (Or.inr ⟨hactive, hown.shaken hkeys, hready⟩)
  · exact comes_error hlink
  · exact comes_error hlink
  · rw [Serves, if_neg hready] at hserves
    have hunheard : state.session.cryptoStreamHeaderReceived = false :=
      Bool.eq_false_iff.mpr fun hreceived => hready (hpoised.prompt hactive hreceived)
    exact comes_handshakeAttempt hlaws hlink hactive (Bool.eq_false_of_not_eq_true hready)
      hnotified hunheard hserves

theorem passes_of_port {outcome : Outcome} (hport : port outcome.1 = port state) :
    Passes state (fun next => port next = port state) outcome := by
  refine ⟨congrArg Port.refusals hport, ?_⟩
  split_ifs
  · exact hport
  · exact congrArg Port.datagrams hport

theorem comes_serviceAttempt (hlaws : deal.Laws sodium)
    (hlink : Link sodium deal draws side (port state) peer)
    (hpoised : Poised (port state)) (hserves : Serves env state.session) :
    Comes sodium deal side peer (port state).refusals
      (serviceAttempt sodium env state) := by
  unfold serviceAttempt
  split_ifs with hinactive
  · exact ⟨rfl, ⟨draws, hlink⟩, hpoised⟩
  · exact comes_error hlink
  · refine comes_bind hlink (passes_of_port (port_servicePendingRemoteSdp env state))
      fun described _ hdescribed => ?_
    rw [← hdescribed] at hlink
    refine comes_bind hlink (passes_of_port (port_serviceLocalSdp sodium env described))
      fun queued _ hqueued => ?_
    rw [← hqueued] at hlink
    have hport := hqueued.trans hdescribed
    have hactive : queued.session.iceActive = true :=
      (congrArg (fun port => port.session.iceActive) hport).trans
        (Bool.eq_true_of_not_eq_false hinactive)
    have hnotified := link_notifyIceConnected env hlink hactive
    obtain ⟨hflags, _⟩ := flags_notifyIceConnected env queued
    have hrefusals : (port (notifyIceConnected env queued)).refusals =
        (port queued).refusals := by
      rw [port_notifyIceConnected]
      split_ifs <;> rfl
    split_ifs
    · exact comes_error hlink
    · have hsame := hflags.trans (flags_of_port hport)
      rw [← hrefusals]
      exact comes_cryptoAttempt hlaws hnotified.1 (hpoised.of_flags hsame)
        ((congrArg HeaderFlags.active hflags).trans hactive) hnotified.2
        (hserves.of_flags hsame)
    · exact comes_error hlink
    · exact ⟨rfl, ⟨draws, hlink⟩, hport ▸ hpoised⟩

/-- A service step keeps both sides linked and refuses no packet. -/
theorem stands_serviceIceSession (hlaws : deal.Laws sodium)
    (hstands : Stands sodium deal side peer state) (hserves : Serves env state.session) :
    (port (serviceIceSession sodium env state)).refusals = (port state).refusals ∧
      Stands sodium deal side peer (serviceIceSession sodium env state) := by
  obtain ⟨⟨draws, hlink⟩, hpoised⟩ := hstands
  have hcomes := comes_serviceAttempt hlaws hlink hpoised hserves
  rw [serviceIceSession_eq]
  cases hattempt : serviceAttempt sodium env state with
  | ok next =>
      rw [hattempt] at hcomes
      exact hcomes
  | error failed =>
      rw [hattempt] at hcomes
      obtain ⟨hrefusals, drawn, last, hlast, hdatagrams⟩ := hcomes
      obtain ⟨hsent, hsame, hinactive, hunready⟩ := (ended_failChatSession env failed).leaves
      refine ⟨hsame.trans hrefusals, ⟨drawn, hlast.ended (hsent.trans hdatagrams) hinactive⟩,
        fun _ => hunready, fun hactive => ?_⟩
      exact absurd (hinactive.symm.trans hactive) Bool.false_ne_true

/-! ## The connection -/

/-- The component of a running session is connected. -/
def Joined (state : ChatdState) : Prop :=
  state.watch.active = true → state.watch.iceReady = true

theorem joined_of_inactive (hinactive : state.session.iceActive = false) : Joined state :=
  fun hactive => absurd (hinactive.symm.trans hactive) Bool.false_ne_true

theorem Joined.of_watch (hjoined : Joined state) (hwatch : next.watch = state.watch) :
    Joined next := by
  rw [Joined, hwatch]
  exact hjoined

theorem joined_failChatSession (env : Env) (state : ChatdState) :
    Joined (failChatSession env state) :=
  joined_of_inactive (ended_failChatSession env state).leaves.2.2.1

theorem joined_serviceReceiveQueue (count : ℕ) (hjoined : Joined state) :
    Joined (serviceReceiveQueue sodium env count state) := by
  induction count generalizing state with
  | zero => exact hjoined
  | succ count ih =>
      have hprocess : Joined (processReceivedIcePacket sodium env state).1 := by
        rcases packetWatch_process sodium env state with hwatch | ⟨_, hidle⟩
        · exact hjoined.of_watch hwatch
        · exact joined_of_inactive (congrArg Watch.active hidle)
      unfold serviceReceiveQueue
      split <;> rename_i next hnext <;> rw [hnext] at hprocess
      · exact ih hprocess
      · split_ifs
        · exact joined_failChatSession env next
        · exact hprocess

theorem joined_cryptoAttempt (hjoined : Joined state)
    (hattempt : cryptoAttempt sodium env state = .ok next) : Joined next := by
  unfold cryptoAttempt at hattempt
  split_ifs at hattempt with _ hready
  · exact Except.ok.inj hattempt ▸ hjoined
  · exact Except.ok.inj hattempt ▸ joined_serviceReceiveQueue _ hjoined
  · rcases watch_handshakeAttempt (Bool.eq_false_of_not_eq_true hready) hattempt
      with hwatch | hwatch
    · exact hjoined.of_watch hwatch
    · rw [Joined, hwatch]
      exact hjoined

theorem joined_serviceIceSession (hjoined : Joined state) :
    Joined (serviceIceSession sodium env state) := by
  rw [serviceIceSession_eq]
  cases hattempt : serviceAttempt sodium env state with
  | error failed => exact joined_failChatSession env failed
  | ok next =>
      show Joined next
      unfold serviceAttempt at hattempt
      split_ifs at hattempt
      · exact Except.ok.inj hattempt ▸ hjoined
      · obtain ⟨described, hremote, hattempt⟩ := attempt_bind_success hattempt
        obtain ⟨queued, hlocal, hattempt⟩ := attempt_bind_success hattempt
        have hwatch : queued.watch = state.watch := by
          have hdescribed := watch_servicePendingRemoteSdp env state
          have hqueued := watch_serviceLocalSdp sodium env described
          rw [hremote] at hdescribed
          rw [hlocal] at hqueued
          exact hqueued.trans hdescribed
        have hstill := hjoined.of_watch hwatch
        split_ifs at hattempt
        · refine joined_cryptoAttempt ?_ hattempt
          unfold notifyIceConnected
          split_ifs <;> exact hstill
        · exact Except.ok.inj hattempt ▸ hstill

theorem ice_handleIpcClient (env : Env) (fd : ℕ) (state : ChatdState)
    (input : List UInt8) :
    (handleIpcClient env fd state input).1.session.ice = state.session.ice := by
  unfold handleIpcClient
  simp only
  split_ifs
  · rfl
  · rfl
  · split
    · rename_i peer _
      unfold handleOpenChatCommand
      cases openChatAnswer state peer with
      | refuse line => rfl
      | attach => rfl
      | request =>
          have hsession := (requestSession_session env fd state peer).1
          have hice := congrArg ChatdSession.ice hsession
          exact hice
    · rfl

/-- A command on the socket of the daemon does not touch the connection. -/
theorem ice_serviceIpc (env : Env) (state : ChatdState) (accepted : Option ℕ)
    (poll : IpcPoll) :
    (serviceIpc env state accepted poll).session.ice = state.session.ice := by
  rw [← (acceptIpcClient_same env state accepted).2]
  unfold serviceIpc
  generalize acceptIpcClient env state accepted = state
  simp only
  split
  · rfl
  · rename_i fd _
    split_ifs
    · rfl
    · split
      · rename_i input _
        have hclient := ice_handleIpcClient env fd (releaseIpcClient state) input
        split_ifs <;> exact hclient
      · rfl

theorem joined_serviceIpc (accepted : Option ℕ) (poll : IpcPoll) (hjoined : Joined state) :
    Joined (serviceIpc env state accepted poll) := by
  intro hactive
  have hready := congrArg ChatIceSession.ready (ice_serviceIpc env state accepted poll)
  refine hready.trans (hjoined ?_)
  rcases port_serviceIpc env state accepted poll with hport | ⟨_, hport⟩
  · exact (congrArg (fun port => port.session.iceActive) hport).symm.trans hactive
  · exact (congrArg (fun port => port.session.iceActive) hport).symm.trans hactive

/-! ## Commands of a secure side -/

/-- The port behind a payload that was sent. -/
def Port.pushed (sodium : Sodium) (own : Port) (payload : Payload) : Port :=
  { own with
    session := { own.session with
      cryptoStream := { own.session.cryptoStream with
        push := (pushPayload sodium own.session.cryptoStream.push payload).2 } }
    datagrams := own.datagrams ++ [chatPacket (payloadType payload)
      (pushPayload sodium own.session.cryptoStream.push payload).1] }

theorem Link.pushed {own : Port} {payload : Payload}
    (hlink : Link sodium deal draws side own peer)
    (hactive : own.session.iceActive = true)
    (hready : own.session.encryptedSessionReady = true)
    (hshows : peer.session.iceActive = true → Shows peer.session.icePeer payload) :
    Link sodium deal draws side (own.pushed sodium payload) peer := by
  have hown := hlink.near hactive
  obtain ⟨_, hopened, hreceived⟩ := hown.secure hready
  have hkeys := (hown.heard hreceived).1
  have hsent := hown.shaken hkeys
  have hitem : Item.payload payload = .handshake ∨ own.session.cryptoKeysReady = true :=
    Or.inr hkeys
  refine hlink.sends hactive { hown with } ⟨rfl, rfl, rfl, rfl, id⟩ hitem ?_ ?_
  · rintro hpeer _ ⟨⟩
    exact hshows hpeer
  · intro items hbacked
    obtain ⟨hbehind, hpush⟩ := hbacked.opened hopened
    refine ⟨hbehind, ?_, hbacked.payload hsent hopened ⟨hsent, hopened⟩ rfl⟩
    rw [← hpush]
    rfl

theorem port_pushed (type : ChatPacketType) (text : List UInt8) (final : Bool)
    (htype : payloadType (text, if final then Sodium.tagFinal else Sodium.tagMessage) =
      type) :
    port ((state.encrypted type text (advancedStream sodium state text final)).sent
        (chatPacket type (ciphertext sodium state text final))) =
      (port state).pushed sodium
        (text, if final then Sodium.tagFinal else Sodium.tagMessage) := by
  have hencrypted :
      port (state.encrypted type text (advancedStream sodium state text final)) =
        { port state with
          session := { (port state).session with
            cryptoStream := advancedStream sodium state text final } } :=
    port_emit _ nofun
  have hsent := port_sent (state.encrypted type text
    (advancedStream sodium state text final))
    (chatPacket type (ciphertext sodium state text final))
    (state.encrypted type text (advancedStream sodium state text final)).session
  rw [hencrypted] at hsent
  rw [Port.pushed, htype]
  exact hsent

/-- Both sides stay linked, and no packet is refused. -/
structure Keeps (sodium : Sodium) (deal : Deal) (side : Side) (peer : Port)
    (state next : ChatdState) : Prop where
  refusals : (port next).refusals = (port state).refusals
  stands : Stands sodium deal side peer next
  joined : Joined next

/-- A secure side over its connection. -/
structure Secured (sodium : Sodium) (deal : Deal) (draws : Side → Draw) (side : Side)
    (peer : Port) (state : ChatdState) : Prop where
  link : Link sodium deal draws side (port state) peer
  active : state.session.iceActive = true
  ready : state.session.encryptedSessionReady = true
  connected : state.session.ice.ready = true

theorem Secured.canSend (hsecured : Secured sodium deal draws side peer state)
    (htaken : ∀ count, env.iceSend count = true) : CanSend env state := by
  have hown := hsecured.link.near hsecured.active
  obtain ⟨hsecure, hopened, _⟩ := hown.secure hsecured.ready
  exact ⟨⟨hsecured.connected, hown.agent, htaken⟩, hsecured.ready, Or.inl hsecure,
    (hown.opened hopened).2.2⟩

theorem Secured.keeps (hsecured : Secured sodium deal draws side peer next)
    (hrefusals : (port next).refusals = (port state).refusals) :
    Keeps sodium deal side peer state next where
  refusals := hrefusals
  stands := by
    refine ⟨⟨draws, hsecured.link⟩, fun hinactive => ?_, fun _ _ => hsecured.ready⟩
    exact absurd (hinactive.symm.trans hsecured.active) Bool.false_ne_true
  joined _ := hsecured.connected

theorem Secured.of_watch (hlink : Link sodium deal draws side (port next) peer)
    (hsecured : Secured sodium deal draws side peer state)
    (hwatch : next.watch = state.watch) : Secured sodium deal draws side peer next where
  link := hlink
  active := (congrArg Watch.active hwatch).trans hsecured.active
  ready := (congrArg Watch.encrypted hwatch).trans hsecured.ready
  connected := (congrArg Watch.iceReady hwatch).trans hsecured.connected

/-- A text that fits a packet and, with the name of the sender, a line. -/
def Fits (peer text : Str) : Prop := text.length ≤ 4073 ∧ text.length + peer.length ≤ 4085

theorem secured_serviceCommand (hlaws : deal.Laws sodium)
    (htaken : ∀ count, env.iceSend count = true)
    (hsecured : Secured sodium deal draws side peer state) (fd : ℕ) {line : Str}
    (hfits : sendMessagePrefix.isPrefixOf line = true →
      chatTextIsValid (line.drop sendMessagePrefix.length) = true →
        Fits peer.session.icePeer (line.drop sendMessagePrefix.length)) :
    Secured sodium deal draws side peer (serviceCommand sodium env state fd line) ∧
      (port (serviceCommand sodium env state fd line)).refusals =
        (port state).refusals := by
  have hwatch := watch_serviceCommand sodium env state fd line
  have hport : port (serviceCommand sodium env state fd line) = port state ∨
      ∃ text, Fits peer.session.icePeer text ∧
        port (serviceCommand sodium env state fd line) =
          (port state).pushed sodium (text, Sodium.tagMessage) := by
    unfold serviceCommand
    split_ifs with hword
    · by_cases hvalid : chatTextIsValid (line.drop sendMessagePrefix.length) = true
      · have htext := hfits hword hvalid
        have hsend := sendEncryptedChatMessage_eq hlaws.stream (hsecured.canSend htaken)
          hvalid
        have hsize : chatPacketHeaderSize +
            ((line.drop sendMessagePrefix.length).length + Sodium.streamABytes) ≤
              chatdIcePacketMax := by
          have hshort := htext.1
          have hheader : chatPacketHeaderSize = 6 := rfl
          have hbytes : Sodium.streamABytes = 17 := rfl
          have hpacket : chatdIcePacketMax = 4096 := rfl
          omega
        simp only [hsize, if_true] at hsend
        rw [hsend]
        exact Or.inr ⟨_, htext, port_pushed .message _ false rfl⟩
      · rw [sendEncryptedChatMessage, if_pos (Bool.eq_false_of_not_eq_true hvalid)]
        exact Or.inl (port_writeIpcLine env state fd _)
    · exact Or.inl (port_writeIpcLine env state fd _)
  rcases hport with hport | ⟨text, htext, hport⟩
  · refine ⟨Secured.of_watch ?_ hsecured hwatch, congrArg Port.refusals hport⟩
    rw [hport]
    exact hsecured.link
  · have hrefusals := congrArg Port.refusals hport
    refine ⟨Secured.of_watch ?_ hsecured hwatch, hrefusals⟩
    rw [hport]
    exact hsecured.link.pushed hsecured.active hsecured.ready
      fun _ => .message htext.1 htext.2

/-- The last packet of a side, whose session ends behind it. -/
theorem keeps_closeChatByClient (hlaws : deal.Laws sodium)
    (htaken : ∀ count, env.iceSend count = true)
    (hsecured : Secured sodium deal draws side peer state) :
    Keeps sodium deal side peer state (closeChatByClient sodium env state) := by
  have hcan := hsecured.canSend htaken
  have hclosing : CanSend env (state.setSessionState .closing) :=
    { hcan with secure := Or.inr rfl }
  have hlength : ([] : List UInt8).length + Sodium.streamABytes ≤ chatMaxMessageSize := by
    decide
  have hsize : chatPacketHeaderSize + (([] : List UInt8).length + Sodium.streamABytes) ≤
      chatdIcePacketMax := by
    decide
  have hsend := sendEncryptedChatPayload_eq hlaws.stream hclosing .close hlength true
  simp only [hsize, if_true] at hsend
  have hport : port (sendEncryptedChatClose sodium env state).1 =
      (port (state.setSessionState .closing)).pushed sodium ([], Sodium.tagFinal) := by
    rw [sendEncryptedChatClose, hsend]
    exact port_pushed .close [] true rfl
  have hclosed := (port_closeLookupClient (sendEncryptedChatClose sodium env state).1).trans
    hport
  have hdatagrams := congrArg Port.datagrams hclosed
  have hrefusals := congrArg Port.refusals hclosed
  have hlast := hsecured.link.pushed hsecured.active hsecured.ready fun _ => .close
  refine ⟨hrefusals, ⟨⟨draws, hlast.ended hdatagrams rfl⟩, fun _ => rfl, nofun⟩, ?_⟩
  exact joined_of_inactive rfl

theorem keeps_serviceCommands (hlaws : deal.Laws sodium)
    (htaken : ∀ count, env.iceSend count = true) {lines : List Str}
    (hsecured : Secured sodium deal draws side peer state)
    (hfits : ∀ line ∈ lines, sendMessagePrefix.isPrefixOf line = true →
      chatTextIsValid (line.drop sendMessagePrefix.length) = true →
        Fits peer.session.icePeer (line.drop sendMessagePrefix.length)) :
    Keeps sodium deal side peer state (serviceCommands sodium env lines state) := by
  induction lines generalizing state with
  | nil => exact hsecured.keeps rfl
  | cons line lines ih =>
      obtain ⟨hline, hlines⟩ := List.forall_mem_cons.mp hfits
      unfold serviceCommands
      split
      · exact hsecured.keeps rfl
      · split_ifs
        · exact hsecured.keeps rfl
        · exact keeps_closeChatByClient hlaws htaken hsecured
        · rename_i fd _ _ _
          obtain ⟨hnext, hrefusals⟩ := secured_serviceCommand hlaws htaken hsecured fd hline
          have hrest := ih hnext hlines
          exact ⟨hrest.refusals.trans hrefusals, hrest.stands, hrest.joined⟩

/-- The texts that a read of the client asks to send. -/
def readTexts : ClientRead → List Str
  | .data input =>
      ((commandLines (cString (input.take (chatIpcMaxCommand - 1)))).filter
        sendMessagePrefix.isPrefixOf).map (List.drop sendMessagePrefix.length)
  | _ => []

theorem keeps_serviceActiveChatClient (hlaws : deal.Laws sodium)
    (htaken : ∀ count, env.iceSend count = true)
    (hsecured : Secured sodium deal draws side peer state) {read : ClientRead}
    (hfits : ∀ text ∈ readTexts read, chatTextIsValid text = true →
      Fits peer.session.icePeer text) :
    Keeps sodium deal side peer state
      (serviceActiveChatClient sodium env state read) := by
  unfold serviceActiveChatClient
  split_ifs
  · exact hsecured.keeps rfl
  · split
    · exact hsecured.keeps rfl
    · have hclosed := port_closeLookupClient state
      have hdatagrams := congrArg Port.datagrams hclosed
      have hrefusals := congrArg Port.refusals hclosed
      refine ⟨hrefusals, ⟨⟨draws, hsecured.link.ended hdatagrams rfl⟩, fun _ => rfl,
        nofun⟩, joined_of_inactive rfl⟩
    · exact keeps_closeChatByClient hlaws htaken hsecured
    · rename_i input _
      refine keeps_serviceCommands hlaws htaken hsecured fun line hline hword => ?_
      apply hfits
      exact List.mem_map_of_mem (List.mem_filter.mpr ⟨hline, hword⟩)

theorem keeps_serviceIpc {accepted : Option ℕ} {poll : IpcPoll}
    (hstands : Stands sodium deal side peer state) (hjoined : Joined state)
    (hasks : state.session.iceActive = true →
      requestedPeer env state accepted poll = none) :
    Keeps sodium deal side peer state (serviceIpc env state accepted poll) := by
  obtain ⟨⟨draws, hlink⟩, hpoised⟩ := hstands
  have hstill : Joined (serviceIpc env state accepted poll) :=
    joined_serviceIpc accepted poll hjoined
  rcases port_serviceIpc env state accepted poll with hport | ⟨hasked, hport⟩
  · refine ⟨congrArg Port.refusals hport, ⟨⟨draws, ?_⟩, ?_⟩, hstill⟩ <;> rw [hport]
    · exact hlink
    · exact hpoised
  · have hinactive : state.session.iceActive = false :=
      Bool.eq_false_iff.mpr fun hactive => hasked (hasks hactive)
    have hrefusals := congrArg Port.refusals hport
    refine ⟨hrefusals, ⟨⟨draws, ?_⟩, ?_⟩, hstill⟩ <;> rw [hport]
    · exact hlink.ended rfl hinactive
    · exact { hpoised with }

end ProntoChat.Net
