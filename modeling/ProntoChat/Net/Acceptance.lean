import ProntoChat.Net.Agreement
import ProntoChat.Net.StreamHeaders

/-!
# Packets of an honest peer

A linked daemon accepts the oldest packet of its queue, unless a payload comes in
front of the service step in which the session becomes ready.
-/

namespace ProntoChat.Net

open ProntoChat.Protocole
open ProntoChat.Crypto
open ProntoChat.Ice
open ProntoChat.Daemon
open ProntoChat.OrderedStream

variable {sodium : Sodium} {env : Env} {deal : Deal} {draws : Side → Draw} {side : Side}
  {state next : ChatdState} {own peer : Port}

@[simp]
theorem port_accepted (state : ChatdState) :
    port (state.emit (.packetHandled true)) = port state := port_emit state nofun

/-! ## Handshakes and stream headers -/

/-- The port behind the handshake of the peer. -/
def Port.derived (own : Port) (handshake : ChatCryptoHandshake)
    (keys : ChatCryptoSessionKeys) : Port :=
  { own with
    session := { own.session with
      cryptoHandshake := handshake
      cryptoKeys := keys
      cryptoKeysReady := true } }

/-- The port behind the stream header of the peer. -/
def Port.tuned (own : Port) (pull : Bytes 52) : Port :=
  { own with
    session := { own.session with
      cryptoStream := { own.session.cryptoStream with pull, pullInitialized := true }
      cryptoStreamHeaderReceived := true } }

/-- The port behind a payload of the peer. -/
def Port.pulled (own : Port) (pull : Bytes 52) : Port :=
  { own with
    session := { own.session with
      cryptoStream := { own.session.cryptoStream with pull } } }

theorem Port.derived_self (hkeys : own.session.cryptoKeysReady = true) :
    own.derived own.session.cryptoHandshake own.session.cryptoKeys = own := by
  rw [Port.derived, ← hkeys]

theorem Port.tuned_self (hreceived : own.session.cryptoStreamHeaderReceived = true)
    (hopened : own.session.cryptoStream.pullInitialized = true) :
    own.tuned own.session.cryptoStream.pull = own := by
  have hstream : { own.session.cryptoStream with pullInitialized := true } =
      own.session.cryptoStream := by
    rw [← hopened]
  rw [Port.tuned, hstream, ← hreceived]

theorem port_finishCryptoHandshake {payload : Bytes 96} {handshake : ChatCryptoHandshake}
    {keys : ChatCryptoSessionKeys}
    (hfinish : chatCryptoHandshakeFinish sodium state.session.cryptoHandshake payload
      state.session.cryptoKeys = (handshake, keys, .ok ())) :
    ∃ next, finishCryptoHandshake sodium state payload = (next, true) ∧
      port next = (port state).derived handshake keys := by
  unfold finishCryptoHandshake
  rw [hfinish]
  exact ⟨_, rfl, port_emit _ nofun⟩

/-- The handshake of the peer is accepted whenever it comes. -/
theorem handle_handshake (hlaws : deal.Laws sodium)
    (hown : Own sodium deal draws side (port state))
    (hsent : state.session.cryptoHandshakeSent = true) :
    ∃ next handshake,
      handleHandshakePacket sodium state
          (deal.script sodium draws side.other).message.toList = (next, true) ∧
        port next = (port state).derived handshake (deal.keys sodium draws side) := by
  have haccepts : ¬ (state.sessionState ≠ .iceConnected ∧
      state.sessionState ≠ .cryptoHandshake ∧
      ¬ (state.sessionState = .secure ∧ state.session.cryptoKeysReady = true)) := by
    rintro ⟨_, hshaking, hsecure⟩
    cases hready : state.session.encryptedSessionReady with
    | false => exact hshaking (hown.shaking hsent hready)
    | true =>
        obtain ⟨hstate, _, hreceived⟩ := hown.secure hready
        exact hsecure ⟨hstate, (hown.heard hreceived).1⟩
  unfold handleHandshakePacket
  rw [if_neg haccepts, dif_pos (by simp)]
  by_cases hkeys : state.session.cryptoKeysReady = true
  · rw [if_pos hkeys]
    refine ⟨state, state.session.cryptoHandshake, rfl, ?_⟩
    rw [← hown.keys hkeys]
    exact (Port.derived_self hkeys).symm
  · rw [if_neg hkeys]
    have hbegun := hown.begun hsent (Bool.eq_false_of_not_eq_true hkeys)
    have hfinish := HandshakeSide.finish_message hlaws.kx (deal.hand_matches draws side)
      (hlaws.signs side.other) state.session.cryptoKeys
    rw [← hbegun] at hfinish
    obtain ⟨next, hnext, hport⟩ := port_finishCryptoHandshake hfinish
    exact ⟨next, _, hnext, hport⟩

/-- With the keys, the stream header of the peer is accepted. -/
theorem handle_header (hlaws : deal.Laws sodium)
    (hown : Own sodium deal draws side (port state))
    (hkeys : state.session.cryptoKeysReady = true) :
    ∃ next,
      handleStreamHeaderPacket sodium state
          (deal.script sodium draws side.other).header.toList = (next, true) ∧
        port next = (port state).tuned
          ((deal.script sodium draws side.other).heard sodium state.session) := by
  have haccepts : ¬ (state.sessionState ≠ .cryptoHandshake ∧
      ¬ (state.sessionState = .secure ∧
        state.session.cryptoStreamHeaderReceived = true)) := by
    rintro ⟨hshaking, hsecure⟩
    cases hready : state.session.encryptedSessionReady with
    | false => exact hshaking (hown.shaking (hown.shaken hkeys) hready)
    | true =>
        obtain ⟨hstate, _, hreceived⟩ := hown.secure hready
        exact hsecure ⟨hstate, hreceived⟩
  unfold handleStreamHeaderPacket
  rw [if_neg haccepts, dif_pos (by simp), if_neg (by simp [hkeys])]
  by_cases hreceived : state.session.cryptoStreamHeaderReceived = true
  · rw [if_pos hreceived, Script.heard, if_pos hreceived]
    have hsame : (port state).tuned state.session.cryptoStream.pull = port state :=
      Port.tuned_self hreceived (hown.heard hreceived).2
    exact ⟨state, rfl, hsame.symm⟩
  · rw [if_neg hreceived, Script.heard, if_neg hreceived]
    have hkey : state.session.cryptoKeys.rx = (deal.script sodium draws side.other).key := by
      have hready := hown.keys hkeys
      exact (congrArg ChatCryptoSessionKeys.rx hready).trans
        (Deal.keys_rx hlaws draws side)
    have hpull := hlaws.stream.initPull (deal.script sodium draws side.other).header
      state.session.cryptoKeys.rx
    have hinit : chatCryptoSecretstreamInitPull sodium state.session.cryptoStream
        state.session.cryptoKeys.rx (deal.script sodium draws side.other).header =
        .ok { state.session.cryptoStream with
          pull := (deal.script sodium draws side.other).start sodium
          pullInitialized := true } := by
      rw [chatCryptoSecretstreamInitPull, hpull, hkey]
      rfl
    have hreceive : receiveStreamHeader sodium state
        (deal.script sodium draws side.other).header = (state.setSession
          { state.session with
            cryptoStream := { state.session.cryptoStream with
              pull := (deal.script sodium draws side.other).start sodium
              pullInitialized := true }
            cryptoStreamHeaderReceived := true }, true) := by
      rw [receiveStreamHeader, hinit]
    exact ⟨_, hreceive, rfl⟩

/-! ## Payloads -/

theorem port_decryptedNext (payload : Payload) :
    port (decryptedNext sodium state payload) = (port state).pulled
      (pushPayload sodium state.session.cryptoStream.pull payload).2 :=
  port_emit _ nofun

/-- A text whose line fits is written, or there is no client. -/
theorem writeChatMessageToCli_shown (hwrite : ∀ count, env.ipcWrite count = true)
    {text : List UInt8} (hline : text.length + state.session.icePeer.length ≤ 4085) :
    (writeChatMessageToCli env state text).2 = true := by
  have hresponse : chatIpcMaxResponse = 4096 := rfl
  cases hclient : state.lookupClientFd with
  | none => simp only [writeChatMessageToCli, hclient]
  | some fd => rw [writeChatMessageToCli_attached hclient hwrite, if_pos (by omega)]

/-- A payload that the session can show is accepted; the last one ends the
session. -/
theorem handle_payload (hstream : sodium.StreamCorrect)
    (hwrite : ∀ count, env.ipcWrite count = true) (hlisten : Listening state)
    {payload : Payload} (hshows : Shows state.session.icePeer payload) :
    ∃ next, handleIceAppPacket sodium env state (chatPacket (payloadType payload)
        (pushPayload sodium state.session.cryptoStream.pull payload).1) = (next, true) ∧
      (port next = (port state).pulled
          (pushPayload sodium state.session.cryptoStream.pull payload).2 ∨
        (Ended (port state) (port next) ∧ next.session = {})) := by
  have hbytes : Sodium.streamABytes = 17 := rfl
  have hmessage : chatMaxMessageSize = 65536 := rfl
  cases hshows with
  | @message text hpacket hline =>
      have hlength : text.length + Sodium.streamABytes ≤ chatMaxMessageSize := by omega
      have hwritten : (writeChatMessageToCli env
          (decryptedNext sodium state (text, Sodium.tagMessage)) text).2 = true :=
        writeChatMessageToCli_shown hwrite hline
      refine ⟨_, (handle_message hstream hlisten hlength).trans (Prod.ext rfl hwritten),
        Or.inl ?_⟩
      rw [hwritten, port_accepted, port_writeChatMessageToCli]
      exact port_decryptedNext (text, Sodium.tagMessage)
  | close =>
      have hlength : ([] : List UInt8).length + Sodium.streamABytes ≤
          chatMaxMessageSize := by
        rw [List.length_nil]
        omega
      refine ⟨_, handle_close hstream hlisten hlength, Or.inr ⟨?_, rfl⟩⟩
      obtain ⟨sessionId, sessionState, hended⟩ := ended_closeChatByPeer env
        (decryptedNext sodium state ([], Sodium.tagFinal))
      rw [port_decryptedNext] at hended
      rw [port_accepted, hended]
      exact ⟨sessionId, sessionState, rfl⟩

/-! ## The oldest packet -/

theorem Own.derived (hown : Own sodium deal draws side own)
    (hsent : own.session.cryptoHandshakeSent = true) (handshake : ChatCryptoHandshake) :
    Own sodium deal draws side (own.derived handshake (deal.keys sodium draws side)) :=
  { hown with
    shaken := fun _ => hsent
    begun := nofun
    keys := fun _ => rfl
    opened := fun hopened => ⟨rfl, (hown.opened hopened).2⟩
    heard := fun hreceived => ⟨rfl, (hown.heard hreceived).2⟩ }

theorem Own.tuned (hown : Own sodium deal draws side own)
    (hkeys : own.session.cryptoKeysReady = true) (pull : Bytes 52) :
    Own sodium deal draws side (own.tuned pull) :=
  { hown with
    heard := fun _ => ⟨hkeys, rfl⟩
    secure := fun hready => ⟨(hown.secure hready).1, (hown.secure hready).2.1, rfl⟩ }

/-- The packet of a payload, which a session accepts only once it is ready. -/
def isChat (packet : List UInt8) : Bool :=
  packetIs .message packet || packetIs .close packet

theorem isChat_payload (hstream : sodium.StreamCorrect) {peer : Str} {payload : Payload}
    (hshows : Shows peer payload) (stream : Bytes 52) :
    isChat (chatPacket (payloadType payload) (pushPayload sodium stream payload).1) =
      true := by
  have hfits := hshows.length_le hstream stream
  have hmessage : chatMaxMessageSize = 65536 := rfl
  have hslot : chatIceRecvMax = 4096 := rfl
  rw [length_chatPacket] at hfits
  have hlength : (pushPayload sodium stream payload).1.length ≤ chatMaxMessageSize := by
    omega
  have htype := packetIs_of_decode (decodeHeader_chatPacket (payloadType payload) hlength)
  rw [isChat, htype, htype]
  cases hshows <;> rfl

theorem handle_of_dispatch {packet : List UInt8}
    (hdispatch : dispatchIceAppPacket sodium env state packet = (next, true)) :
    handleIceAppPacket sodium env state packet =
      (next.emit (.packetHandled true), true) := by
  simp only [handleIceAppPacket, hdispatch]

/-- The packet was accepted: the session goes on as ready as before, or the peer
has closed it. -/
structure Accepted (sodium : Sodium) (deal : Deal) (draws : Side → Draw) (side : Side)
    (peer : Port) (state next : ChatdState) : Prop where
  link : Link sodium deal draws side (port next) peer
  refusals : (port next).refusals = (port state).refusals
  kept : next.session = {} ∨
    (next.session.iceActive = true ∧ next.session.cryptoHandshakeSent = true ∧
      next.session.encryptedSessionReady = state.session.encryptedSessionReady)

theorem accepted_of_handled {item : Item} {items : List Item} {after : Port}
    (hlink : Link sodium deal draws side (port state) peer)
    (hactive : state.session.iceActive = true)
    (hflight : Flight sodium (deal.script sodium draws side.other) peer.datagrams
      (port state).session (item :: items))
    (hbacked : peer.session.iceActive = true → Backed sodium
      (deal.script sodium draws side.other) peer.session (port state).session
      (item :: items))
    (hqueued : (port state).session.ice.received ≠ []) (hport : port next = after)
    (hown : Own sodium deal draws side after) (hunsent : Unsent (port state) after)
    (hhandled : Handled sodium (deal.script sodium draws side.other) item
      (port state).session after.session)
    (hrefusals : after.refusals = (port state).refusals)
    (hready : after.session.encryptedSessionReady =
      state.session.encryptedSessionReady) :
    Accepted sodium deal draws side peer state next := by
  subst hport
  exact ⟨hlink.handled hown hunsent hflight hbacked hhandled hqueued, hrefusals,
    Or.inr ⟨hunsent.active.trans hactive, hhandled.sent, hready⟩⟩

/-- The oldest packet is accepted.  A session that is not ready has to be spared
payloads: none can come before the stream header, and one behind it is refused. -/
theorem accepted_process (hlaws : deal.Laws sodium)
    (hlink : Link sodium deal draws side (port state) peer)
    (hactive : state.session.iceActive = true)
    (hsent : state.session.cryptoHandshakeSent = true)
    (hquiet : state.session.encryptedSessionReady = false →
      state.session.cryptoStreamHeaderReceived = false ∨
        ∀ packet ∈ state.session.ice.received.head?, isChat packet = false)
    (hwrite : state.session.encryptedSessionReady = true →
      ∀ count, env.ipcWrite count = true) :
    ∃ next, processReceivedIcePacket sodium env state = (next, true) ∧
      Accepted sodium deal draws side peer state next := by
  have hown := hlink.near hactive
  obtain ⟨items, hflight, hbacked⟩ := hlink.inbound hactive
  cases hreceived : state.session.ice.received with
  | nil =>
      exact ⟨state, process_nil sodium env hreceived, hlink, rfl,
        Or.inr ⟨hactive, hsent, rfl⟩⟩
  | cons packet packets =>
      obtain ⟨item, rest, rfl, rfl⟩ := hflight.oldest hreceived
      have hqueued : (port state).session.ice.received ≠ [] := by
        show state.session.ice.received ≠ []
        simp [hreceived]
      have hnonempty : ((deal.script sodium draws side.other).push sodium
          ((deal.script sodium draws side.other).heard sodium (port state).session)
          item).1 ≠ [] := by
        cases item <;> exact chatPacket_ne_nil _ _
      obtain ⟨queue, hqueue, hprocess⟩ := process_cons sodium env hreceived hnonempty
      have htail : queue.toList.map IcePacket.content =
          (port state).session.ice.received.tail := by
        show _ = state.session.ice.received.tail
        rw [hreceived, hqueue, List.tail_cons]
      have htook : Own sodium deal draws side (port (took state queue)) := { hown with }
      rw [hprocess]
      cases item with
      | handshake =>
          obtain ⟨handled, handshake, hhandle, hport⟩ := handle_handshake hlaws htook hsent
          have hlength : (deal.script sodium draws side.other).message.toList.length ≤
              chatMaxMessageSize := by
            simp [chatMaxMessageSize]
          have hdispatch := (dispatch_chatPacket sodium env (took state queue) .handshake
            hlength).trans hhandle
          exact ⟨_, handle_of_dispatch hdispatch, accepted_of_handled hlink hactive hflight
            hbacked hqueued ((port_accepted handled).trans hport)
            (htook.derived hsent handshake) ⟨rfl, rfl, rfl, rfl, rfl⟩
            ⟨htail, rfl, rfl, rfl, hsent⟩ rfl rfl⟩
      | header =>
          have hkeys : state.session.cryptoKeysReady = true := hflight.follow.1
          obtain ⟨handled, hhandle, hport⟩ := handle_header hlaws htook hkeys
          have hlength : (deal.script sodium draws side.other).header.toList.length ≤
              chatMaxMessageSize := by
            simp [chatMaxMessageSize]
          have hdispatch := (dispatch_chatPacket sodium env (took state queue) .streamHeader
            hlength).trans hhandle
          exact ⟨_, handle_of_dispatch hdispatch, accepted_of_handled hlink hactive hflight
            hbacked hqueued ((port_accepted handled).trans hport) (htook.tuned hkeys _)
            ⟨rfl, rfl, rfl, rfl, rfl⟩ ⟨htail, rfl, rfl, rfl, hsent⟩ rfl rfl⟩
      | payload payload =>
          have hopened : state.session.cryptoStreamHeaderReceived = true := hflight.follow.1
          have hshows : Shows state.session.icePeer payload :=
            hflight.shows payload List.mem_cons_self
          have hheard : (deal.script sodium draws side.other).heard sodium
              (port state).session = state.session.cryptoStream.pull := if_pos hopened
          cases hready : state.session.encryptedSessionReady with
          | false =>
              rcases hquiet hready with hclosed | hspared
              · exact absurd (hclosed.symm.trans hopened) Bool.false_ne_true
              · rw [hreceived] at hspared
                have hchat := hspared _ rfl
                exact absurd (hchat.symm.trans (isChat_payload hlaws.stream hshows _))
                  Bool.false_ne_true
          | true =>
              have hlisten : Listening (took state queue) :=
                ⟨hready, (hown.secure hready).1, (hown.heard hopened).2⟩
              obtain ⟨handled, hhandle, hport | ⟨hended, hreset⟩⟩ := handle_payload
                hlaws.stream (hwrite hready) hlisten hshows
              · rw [Script.push, hheard]
                refine ⟨_, hhandle, accepted_of_handled hlink hactive hflight
                  hbacked hqueued hport { htook with } ⟨rfl, rfl, rfl, rfl, rfl⟩
                  ⟨htail, rfl, ?_, rfl, hsent⟩ rfl rfl⟩
                rw [Script.push, hheard]
                exact if_pos hopened
              · obtain ⟨hdatagrams, hrefusals, hinactive, _⟩ := hended.leaves
                rw [Script.push, hheard]
                exact ⟨_, hhandle, hlink.ended hdatagrams hinactive, hrefusals,
                  Or.inl hreset⟩

end ProntoChat.Net
