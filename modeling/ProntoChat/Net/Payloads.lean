import ProntoChat.Daemon.Streams
import ProntoChat.Daemon.Texts

/-!
# Payloads on their way

The packets that carry the payloads of one stream, and what a ready session
does with the next of them.
-/

namespace ProntoChat.Net

open ProntoChat.Protocole
open ProntoChat.Crypto
open ProntoChat.Ice
open ProntoChat.Daemon
open ProntoChat.OrderedStream

/-- The packet type of a payload. -/
def payloadType (payload : Payload) : ChatPacketType :=
  if payload.2 = Sodium.tagFinal then .close else .message

/-- The packets of the payloads that are pushed from a state on. -/
def payloadPackets (sodium : Sodium) : Bytes 52 → List Payload → List (List UInt8)
  | _, [] => []
  | state, payload :: payloads =>
      let next := pushPayload sodium state payload
      chatPacket (payloadType payload) next.1 ::
        payloadPackets sodium next.2 payloads

theorem payloadPackets_append (sodium : Sodium) (state : Bytes 52)
    (first second : List Payload) :
    payloadPackets sodium state (first ++ second) =
      payloadPackets sodium state first ++
        payloadPackets sodium (pushed (pushPayload sodium) state first) second := by
  induction first generalizing state with
  | nil => rfl
  | cons payload payloads ih =>
      simp only [List.cons_append, payloadPackets, ih]
      rfl

/-! ## Handling the next packet -/

/-- The session without the packets in front of its queue. -/
def took (state : ChatdState) (queue : RecvQueue) : ChatdState :=
  state.setSession
    { state.session with ice := { state.session.ice with recvQueue := queue } }

/-- A packet that fits a slot only changes the queue. -/
theorem arrive_took {state : ChatdState} {packet : List UInt8}
    (hagent : state.session.ice.agent = true)
    (hfits : packet.length ≤ chatIceRecvMax) :
    serviceIceCallback state (.recv packet) =
      took state (onRecv state.session.ice packet).recvQueue := by
  unfold serviceIceCallback took
  rw [if_pos hagent]
  simp only [iceCallback, onRecv, dif_pos hfits]

/-- The oldest packet of the queue is handled. -/
theorem process_cons (sodium : Sodium) (env : Env) {state : ChatdState}
    {packet : List UInt8} {packets : List (List UInt8)}
    (hreceived : state.session.ice.received = packet :: packets)
    (hnonempty : packet ≠ []) :
    ∃ queue : RecvQueue, queue.toList.map IcePacket.content = packets ∧
      processReceivedIcePacket sodium env state =
        handleIceAppPacket sodium env (took state queue) packet := by
  obtain ⟨queue, htake, hrest⟩ := chatIceTakeReceived_cons hreceived
  refine ⟨queue, hrest, ?_⟩
  unfold processReceivedIcePacket
  simp only [chatdIcePacketMax, htake, List.length_eq_zero_iff, hnonempty, if_false]
  rfl

/-- Nothing is left in the queue. -/
theorem process_nil (sodium : Sodium) (env : Env) {state : ChatdState}
    (hreceived : state.session.ice.received = []) :
    processReceivedIcePacket sodium env state = (state, true) := by
  unfold processReceivedIcePacket
  rw [chatIceTakeReceived_nil _ hreceived]
  rfl

theorem chatPacket_ne_nil (type : ChatPacketType) (payload : List UInt8) :
    chatPacket type payload ≠ [] := List.cons_ne_nil _ _

/-- A whole packet reaches the handler of its type. -/
theorem dispatch_chatPacket (sodium : Sodium) (env : Env) (state : ChatdState)
    (type : ChatPacketType) {payload : List UInt8}
    (hlength : payload.length ≤ chatMaxMessageSize) :
    dispatchIceAppPacket sodium env state (chatPacket type payload) =
      match type with
      | .handshake => handleHandshakePacket sodium state payload
      | .streamHeader => handleStreamHeaderPacket sodium state payload
      | .message => handleChatPacket sodium env state .message payload
      | .close => handleChatPacket sodium env state .close payload
      | .ping => (state, false)
      | .pong => (state, false) := by
  have hheader := decodeHeader_chatPacket type hlength
  have hsize := length_chatPacket type payload
  have hpayload := drop_chatPacket type payload
  generalize chatPacket type payload = packet at hheader hsize hpayload ⊢
  cases type <;>
    simp only [dispatchIceAppPacket, hheader, hsize, ne_eq, not_true_eq_false, if_false,
      hpayload]

/-- A ready session whose stream was opened. -/
structure Listening (state : ChatdState) : Prop where
  encrypted : state.session.encryptedSessionReady = true
  secure : state.sessionState = .secure
  opened : state.session.cryptoStream.pullInitialized = true

variable {sodium : Sodium} {env : Env} {state : ChatdState}

/-- The payload that the peer pushed in the state of the own stream is
decrypted. -/
theorem decrypt_push (hstream : sodium.StreamCorrect)
    (hopened : state.session.cryptoStream.pullInitialized = true)
    (payload : Payload)
    (hlength : payload.1.length + Sodium.streamABytes ≤ chatMaxMessageSize) :
    chatCryptoSecretstreamDecrypt sodium state.session.cryptoStream
        (pushPayload sodium state.session.cryptoStream.pull payload).1
        chatMaxMessageSize =
      .ok (payload.1, payload.2, { state.session.cryptoStream with
        pull := (pushPayload sodium state.session.cryptoStream.pull payload).2 }) := by
  have hsize : (pushPayload sodium state.session.cryptoStream.pull payload).1.length =
      payload.1.length + Sodium.streamABytes := hstream.length_push _ _ _
  have hpull : sodium.secretstreamPull state.session.cryptoStream.pull
      (pushPayload sodium state.session.cryptoStream.pull payload).1 =
      some (payload.1, payload.2,
        (pushPayload sodium state.session.cryptoStream.pull payload).2) :=
    hstream.pull_push _ _ _
  unfold chatCryptoSecretstreamDecrypt
  rw [if_neg (by simp [hopened, hsize]), if_neg (by omega), hpull]

/-- The state behind the decryption of the next payload. -/
def decryptedNext (sodium : Sodium) (state : ChatdState) (payload : Payload) :
    ChatdState :=
  state.decrypted (payloadType payload) payload.1
    { state.session.cryptoStream with
      pull := (pushPayload sodium state.session.cryptoStream.pull payload).2 }

theorem handle_message (hstream : sodium.StreamCorrect) (hlisten : Listening state)
    {text : List UInt8}
    (hlength : text.length + Sodium.streamABytes ≤ chatMaxMessageSize) :
    handleIceAppPacket sodium env state (chatPacket .message
        (pushPayload sodium state.session.cryptoStream.pull
          (text, Sodium.tagMessage)).1) =
      let written := writeChatMessageToCli env
        (decryptedNext sodium state (text, Sodium.tagMessage)) text
      (written.1.emit (.packetHandled written.2), written.2) := by
  have hsize : (pushPayload sodium state.session.cryptoStream.pull
      (text, Sodium.tagMessage)).1.length = text.length + Sodium.streamABytes :=
    hstream.length_push _ _ _
  have hdecrypt := decrypt_push hstream hlisten.opened (text, Sodium.tagMessage)
    hlength
  have hhandle : handleChatPacket sodium env state .message
      (pushPayload sodium state.session.cryptoStream.pull
        (text, Sodium.tagMessage)).1 =
      writeChatMessageToCli env
        (decryptedNext sodium state (text, Sodium.tagMessage)) text := by
    unfold handleChatPacket decryptChatPayload
    rw [if_neg (by simp [hlisten.encrypted, hlisten.secure, hsize]), hdecrypt]
    rfl
  unfold handleIceAppPacket
  rw [dispatch_chatPacket sodium env state .message (by omega)]
  simp only [hhandle]

theorem handle_close (hstream : sodium.StreamCorrect) (hlisten : Listening state)
    {text : List UInt8}
    (hlength : text.length + Sodium.streamABytes ≤ chatMaxMessageSize) :
    handleIceAppPacket sodium env state (chatPacket .close
        (pushPayload sodium state.session.cryptoStream.pull
          (text, Sodium.tagFinal)).1) =
      ((closeChatByPeer env (decryptedNext sodium state
        (text, Sodium.tagFinal))).emit (.packetHandled true), true) := by
  have hsize : (pushPayload sodium state.session.cryptoStream.pull
      (text, Sodium.tagFinal)).1.length = text.length + Sodium.streamABytes :=
    hstream.length_push _ _ _
  have hdecrypt := decrypt_push hstream hlisten.opened (text, Sodium.tagFinal)
    hlength
  have hhandle : handleChatPacket sodium env state .close
      (pushPayload sodium state.session.cryptoStream.pull
        (text, Sodium.tagFinal)).1 =
      (closeChatByPeer env (decryptedNext sodium state (text, Sodium.tagFinal)),
        true) := by
    unfold handleChatPacket decryptChatPayload
    rw [if_neg (by simp [hlisten.encrypted, hlisten.secure, hsize]), hdecrypt]
    rfl
  unfold handleIceAppPacket
  rw [dispatch_chatPacket sodium env state .close (by omega)]
  simp only [hhandle]

end ProntoChat.Net
