import ProntoChat.Net.Payloads

/-!
# Packet framing

`send_ice_packet` puts a header with the type and the length in front of a
payload.  `handle_ice_app_packet` decodes the header and compares the length of
the packet with it before it looks at the session.  Writing and reading are
inverse to each other, and what cannot be read changes nothing.
-/

namespace ProntoChat.Net

open ProntoChat.Protocole
open ProntoChat.Crypto
open ProntoChat.Ice
open ProntoChat.Daemon

/-! ## The length field -/

/-- `chat_write_u32_be` on machine words. -/
def writeU32Be (value : UInt32) : List UInt8 :=
  [((value >>> 24) &&& 0xff).toUInt8, ((value >>> 16) &&& 0xff).toUInt8,
    ((value >>> 8) &&& 0xff).toUInt8, (value &&& 0xff).toUInt8]

/-- `chat_read_u32_be` on machine words. -/
def readU32Be (b0 b1 b2 b3 : UInt8) : UInt32 :=
  (b0.toUInt32 <<< 24) ||| (b1.toUInt32 <<< 16) ||| (b2.toUInt32 <<< 8) ||| b3.toUInt32

/-- A masked byte of a word is a digit of its value. -/
theorem toNat_maskedByte (word : UInt32) :
    (word &&& 0xff).toUInt8 = word.toNat.toUInt8 := by
  apply UInt8.toNat_inj.mp
  have hmask : (0xff : UInt32).toNat = 2 ^ 8 - 1 := rfl
  rw [UInt32.toNat_toUInt8, UInt32.toNat_and, hmask, Nat.and_two_pow_sub_one_eq_mod,
    Nat.toUInt8, UInt8.toNat_ofNat', Nat.mod_mod]

theorem chatWriteU32Be_toNat (value : UInt32) :
    chatWriteU32Be value.toNat = writeU32Be value := by
  simp only [chatWriteU32Be, writeU32Be, toNat_maskedByte, UInt32.toNat_shiftRight,
    Nat.shiftRight_eq_div_pow]
  rfl

/-- A byte in front of which others stand eight places further left. -/
theorem shiftLeft_or_byte (high : ℕ) (byte : UInt8) (places : ℕ) :
    high <<< (8 + places) ||| byte.toNat <<< places =
      (high * 2 ^ 8 + byte.toNat) <<< places := by
  rw [Nat.shiftLeft_add, ← Nat.shiftLeft_or_distrib,
    ← Nat.shiftLeft_add_eq_or_of_lt byte.toNat_lt, Nat.shiftLeft_eq high]

theorem toNat_readU32Be (b0 b1 b2 b3 : UInt8) :
    (readU32Be b0 b1 b2 b3).toNat = chatReadU32Be b0 b1 b2 b3 := by
  have hshift (byte : UInt8) {places : UInt32} (hplaces : places.toNat ≤ 24) :
      (byte.toUInt32 <<< places).toNat = byte.toNat <<< places.toNat := by
    have hbyte := byte.toNat_lt
    have hpow : 2 ^ places.toNat ≤ 2 ^ 24 := Nat.pow_le_pow_right (by decide) hplaces
    have hsmall : byte.toNat * 2 ^ places.toNat < 2 ^ 8 * 2 ^ 24 :=
      Nat.mul_lt_mul_of_lt_of_le hbyte hpow (by decide)
    have hmod : places.toNat % 32 = places.toNat := Nat.mod_eq_of_lt (by omega)
    rw [UInt32.toNat_shiftLeft, UInt8.toNat_toUInt32, hmod, Nat.shiftLeft_eq]
    exact Nat.mod_eq_of_lt hsmall
  have hfirst := shiftLeft_or_byte b0.toNat b1 16
  have hsecond := shiftLeft_or_byte (b0.toNat * 2 ^ 8 + b1.toNat) b2 8
  have hthird := shiftLeft_or_byte ((b0.toNat * 2 ^ 8 + b1.toNat) * 2 ^ 8 + b2.toNat) b3 0
  simp only [readU32Be, UInt32.toNat_or, UInt8.toNat_toUInt32,
    hshift b0 (by decide : (24 : UInt32).toNat ≤ 24),
    hshift b1 (by decide : (16 : UInt32).toNat ≤ 24),
    hshift b2 (by decide : (8 : UInt32).toNat ≤ 24)]
  change b0.toNat <<< (8 + 16) ||| b1.toNat <<< 16 ||| b2.toNat <<< 8 ||| b3.toNat <<< 0 = _
  rw [hfirst, hsecond, hthird, Nat.shiftLeft_zero, chatReadU32Be]
  ring

/-! ## Packets -/

/-- The checks of `handle_ice_app_packet` on the bytes: the decoded header and the
exact length. -/
def readPacket (packet : List UInt8) : Option (ChatPacketType × List UInt8) :=
  match chatPacketDecodeHeader packet with
  | .error _ => none
  | .ok header =>
      if packet.length ≠ chatPacketHeaderSize + header.length then none
      else some (header.type, packet.drop chatPacketHeaderSize)

/-- The remaining part of `handle_ice_app_packet`. -/
def handlePayload (sodium : Sodium) (env : Env) (state : ChatdState)
    (type : ChatPacketType) (payload : List UInt8) : Outcome :=
  match type with
  | .handshake => handleHandshakePacket sodium state payload
  | .streamHeader => handleStreamHeaderPacket sodium state payload
  | .message => handleChatPacket sodium env state .message payload
  | .close => handleChatPacket sodium env state .close payload
  | .ping => (state, false)
  | .pong => (state, false)

/-- The end of `send_ice_packet`, for the packet that it built. -/
def handToIce (env : Env) (state : ChatdState) (packet : List UInt8) : Outcome :=
  match chatIceSend state.session.ice packet (env.iceSend state.log.length) with
  | .error .send => (state.emit (.packetSent packet false), false)
  | .error _ => (state, false)
  | .ok _ => (state.sent packet, true)

theorem readPacket_chatPacket (type : ChatPacketType) {payload : List UInt8}
    (hlength : payload.length ≤ chatMaxMessageSize) :
    readPacket (chatPacket type payload) = some (type, payload) := by
  unfold readPacket
  simp only [decodeHeader_chatPacket type hlength, length_chatPacket, drop_chatPacket,
    ne_eq, not_true_eq_false, if_false]

/-- Only encodings can be read. -/
theorem readPacket_some {packet payload : List UInt8} {type : ChatPacketType}
    (hread : readPacket packet = some (type, payload)) :
    packet = chatPacket type payload := by
  unfold readPacket at hread
  split at hread
  · exact nomatch hread
  · rename_i header hdecode
    split_ifs at hread with hlength
    rw [not_not] at hlength
    simp only [Option.some.injEq, Prod.mk.injEq] at hread
    obtain ⟨rfl, rfl⟩ := hread
    exact eq_chatPacket_of_decodeHeader hdecode hlength

theorem dispatch_readPacket (sodium : Sodium) (env : Env) (state : ChatdState)
    (packet : List UInt8) :
    dispatchIceAppPacket sodium env state packet =
      match readPacket packet with
      | none => (state, false)
      | some (type, payload) => handlePayload sodium env state type payload := by
  unfold dispatchIceAppPacket readPacket
  cases chatPacketDecodeHeader packet with
  | error failure => rfl
  | ok header =>
      simp only
      split_ifs <;> rfl

theorem sendIcePacket_handToIce (env : Env) (state : ChatdState) (type : ChatPacketType)
    {payload : List UInt8}
    (hlength : payload.length ≤ chatdIcePacketMax - chatPacketHeaderSize) :
    sendIcePacket env state type payload =
      handToIce env state (chatPacket type payload) := by
  have hlarge : ¬ (chatMaxMessageSize < payload.length ∨
      chatdIcePacketMax < chatPacketHeaderSize + payload.length) := by
    have : chatdIcePacketMax - chatPacketHeaderSize = 4090 := rfl
    have : chatdIcePacketMax = 4096 := rfl
    have : chatMaxMessageSize = 65536 := rfl
    have : chatPacketHeaderSize = 6 := rfl
    omega
  unfold sendIcePacket chatPacketEncodeHeader
  rw [if_neg hlarge, if_neg fun hlong => hlarge (Or.inl hlong)]
  rfl

/-- The packet of a payload that fits is the encoding of its type and payload and
is read as such; every packet that passes the checks is the encoding of what it is
read as, and goes to the handler of its type; a packet that does not pass is refused
with nothing changed.  The length field is written and read with the shifts and
masks of the source. -/
theorem packet_framing (sodium : Sodium) (env : Env) (state : ChatdState) :
    (∀ type payload, payload.length ≤ chatdIcePacketMax - chatPacketHeaderSize →
      sendIcePacket env state type payload =
          handToIce env state (chatPacket type payload) ∧
        readPacket (chatPacket type payload) = some (type, payload)) ∧
    (∀ packet type payload, readPacket packet = some (type, payload) →
      packet = chatPacket type payload ∧
        dispatchIceAppPacket sodium env state packet =
          handlePayload sodium env state type payload) ∧
    (∀ packet, readPacket packet = none →
      handleIceAppPacket sodium env state packet =
        (state.emit (.packetHandled false), false)) ∧
    (∀ length : UInt32, chatWriteU32Be length.toNat = writeU32Be length) ∧
    ∀ b0 b1 b2 b3, chatReadU32Be b0 b1 b2 b3 = (readU32Be b0 b1 b2 b3).toNat := by
  refine ⟨fun type payload hlength => ?_, fun packet type payload hread => ?_,
    fun packet hread => ?_, chatWriteU32Be_toNat,
    fun b0 b1 b2 b3 => (toNat_readU32Be b0 b1 b2 b3).symm⟩
  · have hmax : payload.length ≤ chatMaxMessageSize := by
      refine hlength.trans ?_
      decide
    exact ⟨sendIcePacket_handToIce env state type hlength,
      readPacket_chatPacket type hmax⟩
  · refine ⟨readPacket_some hread, ?_⟩
    rw [dispatch_readPacket, hread]
  · unfold handleIceAppPacket
    rw [dispatch_readPacket, hread]

end ProntoChat.Net
