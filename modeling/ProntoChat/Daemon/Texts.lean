import ProntoChat.Core.Buffer
import ProntoChat.Daemon.Ipc

/-!
# Texts of a secure session

What sending and showing one text does while the session is secure and the
library calls work.  Both depend only on sizes: a packet has to fit a slot of
the receive queue, and a line has to fit a response of the IPC socket.
-/

namespace ProntoChat.Daemon

open ProntoChat.QuotedText
open ProntoChat.Protocole
open ProntoChat.Contacts
open ProntoChat.Crypto
open ProntoChat.Ice

/-! ## Sending -/

/-- The connection works and libnice takes every datagram. -/
structure Connected (env : Env) (state : ChatdState) : Prop where
  ready : state.session.ice.ready = true
  agent : state.session.ice.agent = true
  taken : ∀ count, env.iceSend count = true

/-- A secure session over a working connection. -/
structure CanSend (env : Env) (state : ChatdState) : Prop
    extends Connected env state where
  encrypted : state.session.encryptedSessionReady = true
  secure : state.sessionState = .secure ∨ state.sessionState = .closing
  push : state.session.cryptoStream.pushInitialized = true

/-- Over a working connection a packet is sent unless it is too large. -/
theorem sendIcePacket_connected {env : Env} {state : ChatdState}
    (hconnected : Connected env state) (type : ChatPacketType)
    (payload : List UInt8) :
    sendIcePacket env state type payload =
      if chatPacketHeaderSize + payload.length ≤ chatdIcePacketMax then
        (state.sent (chatPacket type payload), true)
      else (state, false) := by
  have hheader : chatPacketHeaderSize = 6 := rfl
  have hpacket : chatdIcePacketMax = 4096 := rfl
  have hmessage : chatMaxMessageSize = 65536 := rfl
  have hice : chatIceRecvMax = 4096 := rfl
  unfold sendIcePacket
  by_cases hfits : chatPacketHeaderSize + payload.length ≤ chatdIcePacketMax
  · have hsend : chatIceSend state.session.ice
        (chatProtocolVersion :: type.code ::
          (chatWriteU32Be payload.length ++ payload))
        (env.iceSend state.log.length) = .ok () := by
      have hlength := length_chatPacket type payload
      rw [chatPacket] at hlength
      unfold chatIceSend
      rw [if_neg, if_neg (by simp [hconnected.taken])]
      simp only [hconnected.ready, hconnected.agent, hlength, Bool.true_eq_false,
        false_or]
      omega
    rw [if_pos hfits, if_neg (by omega), chatPacketEncodeHeader,
      if_neg (by omega)]
    simp only [List.cons_append, hsend]
    rfl
  · rw [if_neg hfits, if_pos (by omega)]

theorem chatIceSend_isOk_iff (session : ChatIceSession) {data : List UInt8}
    (accepted : Bool) (hlength : 0 < data.length ∧ data.length ≤ chatIceRecvMax) :
    (chatIceSend session data accepted).isOk = true ↔
      session.ready = true ∧ session.agent = true ∧ accepted = true := by
  unfold chatIceSend
  by_cases hup : session.ready = true ∧ session.agent = true
  · rw [if_neg (by simp only [hup, Bool.true_eq_false, false_or]; omega)]
    cases accepted <;> simp [hup, Except.isOk, Except.toBool]
  · have hdown : session.ready = false ∨ session.agent = false := by
      simpa [or_iff_not_imp_left] using hup
    rw [if_pos (by tauto)]
    simp only [Except.isOk, Except.toBool, Bool.false_eq_true, false_iff]
    exact fun hall => hup ⟨hall.1, hall.2.1⟩

/-- A packet is sent exactly when it fits, the connection is up and libnice takes
it. -/
theorem sendIcePacket_iff (env : Env) (state : ChatdState) (type : ChatPacketType)
    (payload : List UInt8) :
    (sendIcePacket env state type payload).2 = true ↔
      chatPacketHeaderSize + payload.length ≤ chatdIcePacketMax ∧
        state.session.ice.ready = true ∧ state.session.ice.agent = true ∧
        env.iceSend state.log.length = true := by
  have hheader : chatPacketHeaderSize = 6 := rfl
  have hpacket : chatdIcePacketMax = 4096 := rfl
  have hmessage : chatMaxMessageSize = 65536 := rfl
  have hice : chatIceRecvMax = 4096 := rfl
  by_cases hfits : chatPacketHeaderSize + payload.length ≤ chatdIcePacketMax
  · have hlength : (chatProtocolVersion :: type.code ::
        (chatWriteU32Be payload.length ++ payload)).length =
          chatPacketHeaderSize + payload.length := length_chatPacket type payload
    have hbounds : 0 < (chatProtocolVersion :: type.code ::
        (chatWriteU32Be payload.length ++ payload)).length ∧
        (chatProtocolVersion :: type.code ::
          (chatWriteU32Be payload.length ++ payload)).length ≤ chatIceRecvMax := by
      omega
    have hsend := chatIceSend_isOk_iff state.session.ice
      (env.iceSend state.log.length) hbounds
    rw [sendIcePacket, if_neg (by omega), chatPacketEncodeHeader, if_neg (by omega)]
    simp only [hfits, true_and, List.cons_append]
    rw [← hsend]
    split <;> rename_i hresult <;> rw [hresult] <;> simp [Except.isOk, Except.toBool]
  · rw [sendIcePacket, if_pos (by omega)]
    simp [hfits]

/-- The ciphertext of one payload. -/
def ciphertext (sodium : Sodium) (state : ChatdState) (plaintext : List UInt8)
    (final : Bool) : List UInt8 :=
  (sodium.secretstreamPush state.session.cryptoStream.push plaintext
    (if final then Sodium.tagFinal else Sodium.tagMessage)).1

/-- The stream of the session behind one payload. -/
def advancedStream (sodium : Sodium) (state : ChatdState)
    (plaintext : List UInt8) (final : Bool) : ChatCryptoSecretstream :=
  { state.session.cryptoStream with
    push := (sodium.secretstreamPush state.session.cryptoStream.push plaintext
      (if final then Sodium.tagFinal else Sodium.tagMessage)).2 }

/-- A session that can encrypt. -/
structure CanEncrypt (state : ChatdState) : Prop where
  encrypted : state.session.encryptedSessionReady = true
  secure : state.sessionState = .secure ∨ state.sessionState = .closing
  push : state.session.cryptoStream.pushInitialized = true

instance (state : ChatdState) : Decidable (CanEncrypt state) :=
  decidable_of_iff (state.session.encryptedSessionReady = true ∧
      (state.sessionState = .secure ∨ state.sessionState = .closing) ∧
      state.session.cryptoStream.pushInitialized = true)
    ⟨fun hall => ⟨hall.1, hall.2.1, hall.2.2⟩,
      fun hencrypts => ⟨hencrypts.encrypted, hencrypts.secure, hencrypts.push⟩⟩

/-- A payload of a bounded size is encrypted before it is sent. -/
theorem sendEncryptedChatPayload_encrypts (sodium : Sodium) (env : Env)
    {state : ChatdState} (hencrypts : CanEncrypt state) (type : ChatPacketType)
    {plaintext : List UInt8}
    (hlength : plaintext.length + Sodium.streamABytes ≤ chatMaxMessageSize)
    (final : Bool) :
    sendEncryptedChatPayload sodium env state type plaintext final =
      sendIcePacket env (state.encrypted type plaintext
        (advancedStream sodium state plaintext final)) type
        (ciphertext sodium state plaintext final) := by
  have hopen : ¬ (state.session.encryptedSessionReady = false ∨
      (state.sessionState ≠ .secure ∧ state.sessionState ≠ .closing) ∨
      chatMaxMessageSize < plaintext.length + Sodium.streamABytes) := by
    rintro (hready | ⟨hsecure, hclosing⟩ | hlong)
    · rw [hencrypts.encrypted] at hready
      exact absurd hready (by decide)
    · rcases hencrypts.secure with hstate | hstate
      · exact hsecure hstate
      · exact hclosing hstate
    · omega
  have hencrypt : chatCryptoSecretstreamEncrypt sodium
      state.session.cryptoStream plaintext final chatMaxMessageSize =
        .ok (ciphertext sodium state plaintext final,
          advancedStream sodium state plaintext final) := by
    unfold chatCryptoSecretstreamEncrypt
    rw [if_neg (by simp [hencrypts.push]), if_neg (by omega), if_neg (by omega)]
    rfl
  rw [sendEncryptedChatPayload, if_neg hopen, hencrypt]

theorem sendEncryptedChatPayload_eq {sodium : Sodium}
    (hstream : sodium.StreamCorrect) {env : Env} {state : ChatdState}
    (hsend : CanSend env state) (type : ChatPacketType) {plaintext : List UInt8}
    (hlength : plaintext.length + Sodium.streamABytes ≤ chatMaxMessageSize)
    (final : Bool) :
    sendEncryptedChatPayload sodium env state type plaintext final =
      let next :=
        state.encrypted type plaintext
          (advancedStream sodium state plaintext final)
      if chatPacketHeaderSize + (plaintext.length + Sodium.streamABytes) ≤
          chatdIcePacketMax then
        (next.sent (chatPacket type (ciphertext sodium state plaintext final)),
          true)
      else (next, false) := by
  have hencrypts : CanEncrypt state := ⟨hsend.encrypted, hsend.secure, hsend.push⟩
  have hconnected : Connected env (state.encrypted type plaintext
      (advancedStream sodium state plaintext final)) :=
    { hsend.toConnected with }
  rw [sendEncryptedChatPayload_encrypts sodium env hencrypts type hlength final,
    sendIcePacket_connected hconnected]
  rw [show (ciphertext sodium state plaintext final).length =
    plaintext.length + Sodium.streamABytes from hstream.length_push _ _ _]

theorem chatTextIsValid_iff (text : Str) :
    chatTextIsValid text = true ↔
      text ≠ [] ∧ text.length ≤ chatdChatTextMax ∧
        ∀ byte ∈ text, byte ≠ 0 ∧ byte ≠ 13 ∧ byte ≠ 10 := by
  simp [chatTextIsValid, and_assoc]

/-- A valid text is sent exactly when its packet fits. -/
theorem sendEncryptedChatMessage_eq {sodium : Sodium}
    (hstream : sodium.StreamCorrect) {env : Env} {state : ChatdState}
    (hsend : CanSend env state) {text : Str}
    (hvalid : chatTextIsValid text = true) :
    sendEncryptedChatMessage sodium env state text =
      let next :=
        state.encrypted .message text (advancedStream sodium state text false)
      if chatPacketHeaderSize + (text.length + Sodium.streamABytes) ≤
          chatdIcePacketMax then
        (next.sent (chatPacket .message (ciphertext sodium state text false)),
          true)
      else (next, false) := by
  have hlength := ((chatTextIsValid_iff text).mp hvalid).2.1
  have hmax : chatdChatTextMax = 4081 := rfl
  have hbytes : Sodium.streamABytes = 17 := rfl
  have hmessage : chatMaxMessageSize = 65536 := rfl
  rw [sendEncryptedChatMessage, if_neg (by simp [hvalid])]
  exact sendEncryptedChatPayload_eq hstream hsend .message (by omega) false

/-! ## Showing -/

/-- A valid text is shown as it was sent. -/
theorem printableText_eq {text : Str} (hvalid : chatTextIsValid text = true) :
    printableText text = text := by
  have hbytes := ((chatTextIsValid_iff text).mp hvalid).2.2
  unfold printableText
  rw [List.map_congr_left (g := id), List.map_id]
  intro byte hbyte
  obtain ⟨hzero, hreturn, hfeed⟩ := hbytes byte hbyte
  simp [hzero, hreturn, hfeed]

/-- A text is shown to the attached client exactly when its line fits. -/
theorem writeChatMessageToCli_attached {env : Env} {state : ChatdState} {fd : ℕ}
    (hclient : state.lookupClientFd = some fd)
    (hwrite : ∀ count, env.ipcWrite count = true) (text : Str) :
    writeChatMessageToCli env state text =
      if text.length + state.session.icePeer.length + 11 ≤ chatIpcMaxResponse then
        (state.emit (.ipcLine fd (some state.openedPeer)
          (.message state.session.icePeer (printableText text)) true), true)
      else (state, false) := by
  unfold writeChatMessageToCli
  rw [hclient]
  by_cases hfits : text.length + state.session.icePeer.length + 11 ≤
      chatIpcMaxResponse
  · rw [if_pos hfits]
    simp only [writeIpcLine, if_pos hclient, hwrite]
    rw [if_neg (by omega)]
  · rw [if_neg hfits]
    simp only
    rw [if_pos (by omega)]

/-! ## The buffer of a message line -/

def messageHead (peer : Str) : Str := bytes "MESSAGE " ++ peer ++ bytes " "

/-- How `write_chat_message_to_cli` fills its response buffer: the head with
`snprintf`, the text byte by byte, and the end of the line. -/
def formatChatMessage (response : List UInt8) (peer : Str) (plaintext : List UInt8) :
    Option (List UInt8) :=
  let offset := (messageHead peer).length
  (Buffer.storeAll response 0 (messageHead peer ++ [0])).bind fun response =>
    (Buffer.storeAll response offset (printableText plaintext)).bind fun response =>
      Buffer.storeAll response (offset + plaintext.length) [newline, 0]

theorem length_messageHead (peer : Str) :
    (messageHead peer).length = 8 + peer.length + 1 := by
  have hword : (bytes "MESSAGE ").length = 8 := by decide +kernel
  have hblank : (bytes " ").length = 1 := by decide +kernel
  rw [messageHead, List.length_append, List.length_append, hword, hblank]

theorem length_printableText (plaintext : List UInt8) :
    (printableText plaintext).length = plaintext.length := by
  rw [printableText, List.length_map]

theorem printableText_bytes (plaintext : List UInt8) :
    ∀ byte ∈ printableText plaintext, byte ≠ 0 ∧ byte ≠ 13 ∧ byte ≠ 10 := by
  intro byte hbyte
  obtain ⟨old, _, rfl⟩ := List.mem_map.mp hbyte
  split_ifs with hbreak
  · decide
  · simp only [not_or] at hbreak
    exact ⟨hbreak.2.2, hbreak.1, hbreak.2.1⟩

/-- A text that passes the length check is written inside the buffer, up to the
terminating NUL. -/
theorem formatChatMessage_of_le {response plaintext : List UInt8} {peer : Str}
    (hsize : response.length = chatIpcMaxResponse)
    (hfits : plaintext.length + (8 + peer.length + 1) + 2 ≤ chatIpcMaxResponse) :
    ∃ rest, formatChatMessage response peer plaintext =
      some ((IpcLine.message peer (printableText plaintext)).render ++ 0 :: rest) := by
  have hhead := length_messageHead peer
  have htext := length_printableText plaintext
  -- the head and its NUL, which the text then overwrites
  obtain ⟨tail, htail, hstored⟩ : ∃ tail,
      tail.length = response.length - (8 + peer.length + 1) ∧
      Buffer.storeAll response 0 (messageHead peer ++ [0]) =
        some (messageHead peer ++ tail) := by
    refine ⟨0 :: response.drop (8 + peer.length + 1 + 1), ?_, ?_⟩
    · rw [List.length_cons, List.length_drop]
      omega
    · have hroom : 0 + (messageHead peer ++ [0]).length ≤ response.length := by
        rw [List.length_append, hhead, List.length_singleton]
        omega
      rw [Buffer.storeAll_of_le hroom]
      simp [hhead]
  have hsplit : tail = tail.take plaintext.length ++
      ((tail.drop plaintext.length).take 2 ++ tail.drop (plaintext.length + 2)) := by
    rw [← List.drop_drop, List.take_append_drop, List.take_append_drop]
  have hmiddle : (tail.take plaintext.length).length = (printableText plaintext).length := by
    rw [List.length_take, htext]
    omega
  have hend : ((tail.drop plaintext.length).take 2).length = [newline, 0].length := by
    simp only [List.length_take, List.length_drop, List.length_cons, List.length_nil]
    omega
  refine ⟨tail.drop (plaintext.length + 2), ?_⟩
  rw [formatChatMessage, hstored, Option.bind_some, hsplit,
    Buffer.storeAll_append hmiddle, Option.bind_some]
  have hoffset : (messageHead peer).length + plaintext.length =
      (messageHead peer ++ printableText plaintext).length := by
    rw [List.length_append, htext]
  rw [hoffset, ← List.append_assoc, Buffer.storeAll_append hend]
  simp [messageHead, IpcLine.render]

end ProntoChat.Daemon
