import ProntoChat.Core.QuotedText

/-!
# Usernames and packet framing

The shared part of the client, the daemon and the server: which usernames are
valid, and the six-byte header in front of every packet on the ICE channel
(version, type, big-endian length).
-/

namespace ProntoChat.Protocole

/-- A C string without its terminating NUL. -/
abbrev Str := List UInt8

/-- A C array of `n` bytes. -/
abbrev Bytes (n : ℕ) := List.Vector UInt8 n

def zeroBytes (n : ℕ) : Bytes n := List.Vector.replicate n 0

instance (n : ℕ) : Inhabited (Bytes n) := ⟨zeroBytes n⟩

/-- The C string stored in a buffer of received bytes. -/
def cString (buffer : List UInt8) : Str :=
  buffer.takeWhile (· != 0)

theorem cString_of_ne_zero {text : Str} (hzero : ∀ byte ∈ text, byte ≠ 0) :
    cString text = text := by
  rw [cString, List.takeWhile_eq_self_iff]
  intro byte hbyte
  simpa using hzero byte hbyte

def chatProtocolVersion : UInt8 := 1
def chatPacketHeaderSize : ℕ := 6
def chatMaxMessageSize : ℕ := 64 * 1024
def chatUsernameMinLen : ℕ := 3
def chatUsernameMaxLen : ℕ := 32

/-- `isalnum` in the C locale. -/
def isAlnum (byte : UInt8) : Bool :=
  (48 ≤ byte && byte ≤ 57) || (65 ≤ byte && byte ≤ 90) ||
    (97 ≤ byte && byte ≤ 122)

def usernameByte (byte : UInt8) : Bool :=
  isAlnum byte || byte == 95 || byte == 45

def chatUsernameIsValid (username : Str) : Bool :=
  decide (chatUsernameMinLen ≤ username.length) &&
    decide (username.length ≤ chatUsernameMaxLen) &&
    username.all usernameByte

inductive ChatPacketType where
  | handshake
  | streamHeader
  | message
  | close
  | ping
  | pong
  deriving DecidableEq, Repr

def ChatPacketType.code : ChatPacketType → UInt8
  | .handshake => 1
  | .streamHeader => 2
  | .message => 3
  | .close => 4
  | .ping => 5
  | .pong => 6

/-- `chat_packet_type_is_valid` together with the cast to the enumeration. -/
def ChatPacketType.ofCode (code : UInt8) : Option ChatPacketType :=
  if code = 1 then some .handshake
  else if code = 2 then some .streamHeader
  else if code = 3 then some .message
  else if code = 4 then some .close
  else if code = 5 then some .ping
  else if code = 6 then some .pong
  else none

inductive ChatProtocolError where
  | shortBuffer
  | badVersion
  | badType
  | tooLarge
  | truncated
  deriving DecidableEq, Repr

structure ChatPacketHeader where
  version : UInt8
  type : ChatPacketType
  length : ℕ
  deriving DecidableEq, Repr

def chatWriteU32Be (value : ℕ) : List UInt8 :=
  [(value / 2 ^ 24).toUInt8, (value / 2 ^ 16).toUInt8,
    (value / 2 ^ 8).toUInt8, value.toUInt8]

def chatReadU32Be (b0 b1 b2 b3 : UInt8) : ℕ :=
  b0.toNat * 2 ^ 24 + b1.toNat * 2 ^ 16 + b2.toNat * 2 ^ 8 + b3.toNat

def chatPacketEncodeHeader (type : ChatPacketType) (payloadLen : ℕ) :
    Except ChatProtocolError (List UInt8) :=
  if chatMaxMessageSize < payloadLen then .error .tooLarge
  else .ok (chatProtocolVersion :: type.code :: chatWriteU32Be payloadLen)

def chatPacketDecodeHeader (buffer : List UInt8) :
    Except ChatProtocolError ChatPacketHeader :=
  match buffer with
  | version :: code :: b0 :: b1 :: b2 :: b3 :: _ =>
      if version ≠ chatProtocolVersion then .error .badVersion
      else
        match ChatPacketType.ofCode code with
        | none => .error .badType
        | some type =>
            let length := chatReadU32Be b0 b1 b2 b3
            if chatMaxMessageSize < length then .error .tooLarge
            else if chatPacketHeaderSize < buffer.length ∧
                buffer.length < chatPacketHeaderSize + length then
              .error .truncated
            else .ok ⟨version, type, length⟩
  | _ => .error .shortBuffer

@[simp]
theorem ofCode_code (type : ChatPacketType) :
    ChatPacketType.ofCode type.code = some type := by
  cases type <;> rfl

theorem chatReadU32Be_write {value : ℕ} (hvalue : value < 2 ^ 32) :
    chatReadU32Be (value / 2 ^ 24).toUInt8 (value / 2 ^ 16).toUInt8
      (value / 2 ^ 8).toUInt8 value.toUInt8 = value := by
  simp only [chatReadU32Be, Nat.toUInt8, UInt8.toNat_ofNat']
  omega

/-- A packet as it travels on the ICE channel. -/
def chatPacket (type : ChatPacketType) (payload : List UInt8) : List UInt8 :=
  chatProtocolVersion :: type.code ::
    (chatWriteU32Be payload.length ++ payload)

@[simp]
theorem length_chatPacket (type : ChatPacketType) (payload : List UInt8) :
    (chatPacket type payload).length = chatPacketHeaderSize + payload.length := by
  simp [chatPacket, chatWriteU32Be, chatPacketHeaderSize]
  omega

@[simp]
theorem drop_chatPacket (type : ChatPacketType) (payload : List UInt8) :
    (chatPacket type payload).drop chatPacketHeaderSize = payload := rfl

theorem decodeHeader_chatPacket (type : ChatPacketType)
    {payload : List UInt8} (hlength : payload.length ≤ chatMaxMessageSize) :
    chatPacketDecodeHeader (chatPacket type payload) =
      .ok ⟨chatProtocolVersion, type, payload.length⟩ := by
  have hbound : payload.length < 2 ^ 32 := by
    have : chatMaxMessageSize = 65536 := rfl
    omega
  have hread := chatReadU32Be_write hbound
  have hsize := length_chatPacket type payload
  simp only [chatPacket, chatWriteU32Be, List.cons_append, List.nil_append]
    at hsize ⊢
  simp only [chatPacketDecodeHeader, ofCode_code, hread, ne_eq,
    not_true_eq_false, if_false, Nat.not_lt.mpr hlength, hsize, Nat.lt_irrefl,
    and_false]

/-- Every packet that the header check and the exact length check accept is
the encoding of the type and payload it yields. -/
theorem eq_chatPacket_of_decodeHeader {packet : List UInt8}
    {header : ChatPacketHeader}
    (hdecode : chatPacketDecodeHeader packet = .ok header)
    (hlength : packet.length = chatPacketHeaderSize + header.length) :
    packet = chatPacket header.type (packet.drop chatPacketHeaderSize) := by
  unfold chatPacketDecodeHeader at hdecode
  split at hdecode
  · rename_i version code b0 b1 b2 b3 rest
    split_ifs at hdecode with hversion
    split at hdecode
    · simp at hdecode
    · rename_i type htype
      simp only at hdecode
      split_ifs at hdecode
      obtain rfl := Except.ok.inj hdecode
      have hcode : type.code = code := by
        unfold ChatPacketType.ofCode at htype
        split_ifs at htype <;>
          (obtain rfl := Option.some.inj htype
           subst_vars
           rfl)
      have hrest : rest.length = chatReadU32Be b0 b1 b2 b3 := by
        simp only [List.length_cons, chatPacketHeaderSize] at hlength
        omega
      simp only [chatPacketHeaderSize, List.drop_succ_cons, List.drop_zero,
        chatPacket, chatWriteU32Be, hcode, hrest, List.cons_append,
        List.nil_append, List.cons.injEq, and_true]
      have hb0 := b0.toNat_lt
      have hb1 := b1.toNat_lt
      have hb2 := b2.toNat_lt
      have hb3 := b3.toNat_lt
      refine ⟨by simpa using hversion, trivial, ?_, ?_, ?_, ?_⟩ <;>
        apply UInt8.toNat_inj.mp <;>
        simp only [chatReadU32Be, Nat.toUInt8, UInt8.toNat_ofNat'] <;>
        omega
  · simp at hdecode

end ProntoChat.Protocole
