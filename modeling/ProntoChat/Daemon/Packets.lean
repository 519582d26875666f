import ProntoChat.Daemon.Session

/-!
# Packets of a chat session

Sending and receiving packets over the ICE channel: the authenticated
handshake, the stream headers, encrypted messages and the final close, and the
periodic service of a session.
-/

namespace ProntoChat.Daemon

open ProntoChat.QuotedText
open ProntoChat.Protocole
open ProntoChat.Crypto
open ProntoChat.Ice

/-! ## Sending -/

def sendIcePacket (env : Env) (state : ChatdState) (type : ChatPacketType)
    (payload : List UInt8) : Outcome :=
  if chatMaxMessageSize < payload.length ∨
      chatdIcePacketMax < chatPacketHeaderSize + payload.length then
    (state, false)
  else
    match chatPacketEncodeHeader type payload.length with
    | .error _ => (state, false)
    | .ok header =>
        let packet := header ++ payload
        let accepted := env.iceSend state.log.length
        match chatIceSend state.session.ice packet accepted with
        | .error .send => (state.emit (.packetSent packet false), false)
        | .error _ => (state, false)
        | .ok _ =>
            ({ state.emit (.packetSent packet true) with
                datagrams := state.datagrams ++ [packet] }, true)

/-- State after libnice took a packet. -/
def ChatdState.sent (state : ChatdState) (packet : List UInt8) : ChatdState :=
  { state.emit (.packetSent packet true) with
    datagrams := state.datagrams ++ [packet] }

/-- A packet is refused, lost by libnice or sent; nothing else changes. -/
theorem sendIcePacket_cases {env : Env} {state : ChatdState}
    {type : ChatPacketType} {payload : List UInt8} {outcome : Outcome}
    (hsend : sendIcePacket env state type payload = outcome) :
    outcome = (state, false) ∨
      outcome = (state.emit (.packetSent (chatPacket type payload) false),
        false) ∨
      outcome = (state.sent (chatPacket type payload), true) := by
  unfold sendIcePacket chatPacketEncodeHeader at hsend
  split_ifs at hsend with hlarge hlong
  · exact Or.inl hsend.symm
  · exact Or.inl hsend.symm
  · simp only at hsend
    split at hsend
    · exact Or.inr (Or.inl hsend.symm)
    · exact Or.inl hsend.symm
    · exact Or.inr (Or.inr hsend.symm)

/-- `chat_text_is_valid`. -/
def chatTextIsValid (text : Str) : Bool :=
  decide (text.length ≠ 0) && decide (text.length ≤ chatdChatTextMax) &&
    text.all fun byte => byte != 0 && byte != 13 && byte != 10

/-- The peer named by the command that attached the current client. -/
def ChatdState.opened (state : ChatdState) : Option Str :=
  if state.lookupClientFd = none then none else some state.openedPeer

/-- State behind the call that encrypted a payload. -/
def ChatdState.encrypted (state : ChatdState) (type : ChatPacketType)
    (plaintext : List UInt8) (cryptoStream : ChatCryptoSecretstream) :
    ChatdState :=
  (state.setSession { state.session with cryptoStream }).emit
    (.encrypted state.opened state.session.icePeer type plaintext)

/-- `send_encrypted_chat_payload`: the push stream has advanced even when the
packet is not sent afterwards. -/
def sendEncryptedChatPayload (sodium : Sodium) (env : Env) (state : ChatdState)
    (type : ChatPacketType) (plaintext : List UInt8) (final : Bool) : Outcome :=
  if state.session.encryptedSessionReady = false ∨
      (state.sessionState ≠ .secure ∧ state.sessionState ≠ .closing) ∨
      chatMaxMessageSize < plaintext.length + Sodium.streamABytes then
    (state, false)
  else
    match chatCryptoSecretstreamEncrypt sodium state.session.cryptoStream
        plaintext final chatMaxMessageSize with
    | .error _ => (state, false)
    | .ok (ciphertext, cryptoStream) =>
        sendIcePacket env (state.encrypted type plaintext cryptoStream) type
          ciphertext

def sendEncryptedChatMessage (sodium : Sodium) (env : Env) (state : ChatdState)
    (text : Str) : Outcome :=
  if chatTextIsValid text = false then (state, false)
  else sendEncryptedChatPayload sodium env state .message text false

def sendEncryptedChatClose (sodium : Sodium) (env : Env) (state : ChatdState) :
    Outcome :=
  sendEncryptedChatPayload sodium env (state.setSessionState .closing) .close []
    true

/-! ## Receiving chat payloads -/

/-- A decrypted text as it is shown: line breaks and NUL become blanks. -/
def printableText (plaintext : List UInt8) : Str :=
  plaintext.map fun byte =>
    if byte = 13 ∨ byte = 10 ∨ byte = 0 then 32 else byte

def writeChatMessageToCli (env : Env) (state : ChatdState)
    (plaintext : List UInt8) : Outcome :=
  match state.lookupClientFd with
  | none => (state, true)
  | some fd =>
      if chatIpcMaxResponse <
          plaintext.length + (8 + state.session.icePeer.length + 1) + 2 then
        (state, false)
      else
        writeIpcLine env state fd
          (.message state.session.icePeer (printableText plaintext))

/-- The branch of `decrypt_chat_payload` for the final packet. -/
def closeChatByPeer (env : Env) (state : ChatdState) : ChatdState :=
  let state := state.setSessionState .closing
  let state :=
    match state.lookupClientFd with
    | none => state
    | some fd =>
        closeLookupClient
          (writeIpcResponse env state fd (.chatClosed state.session.icePeer))
  (resetIceSession state).setSessionState .closed

/-- State behind the call that decrypted a payload. -/
def ChatdState.decrypted (state : ChatdState) (type : ChatPacketType)
    (plaintext : List UInt8) (cryptoStream : ChatCryptoSecretstream) :
    ChatdState :=
  (state.setSession { state.session with cryptoStream }).emit
    (.decrypted state.session.icePeer
      state.session.cryptoHandshake.remoteIdentityPk state.session.cryptoKeys
      type plaintext)

def decryptChatPayload (sodium : Sodium) (env : Env) (state : ChatdState)
    (type : ChatPacketType) (payload : List UInt8) : Outcome :=
  match chatCryptoSecretstreamDecrypt sodium state.session.cryptoStream payload
      chatMaxMessageSize with
  | .error _ => (state, false)
  | .ok (plaintext, tag, cryptoStream) =>
      let state := state.decrypted type plaintext cryptoStream
      match type with
      | .message =>
          if tag ≠ Sodium.tagMessage then (state, false)
          else writeChatMessageToCli env state plaintext
      | .close =>
          if tag ≠ Sodium.tagFinal then (state, false)
          else (closeChatByPeer env state, true)
      | _ => (state, false)

/-! ## Handshake and stream headers -/

/-- Send a packet of the session and note that it was sent. -/
def sendSessionPacket (env : Env) (state : ChatdState) (type : ChatPacketType)
    (payload : List UInt8) (note : ChatdSession → ChatdSession) : Outcome :=
  match sendIcePacket env state type payload with
  | (state, false) => (state, false)
  | (state, true) => (state.setSession (note state.session), true)

/-- The first half of `start_crypto_handshake`: the handshake message is made
once per session. -/
def initCryptoHandshake (sodium : Sodium) (env : Env) (state : ChatdState) :
    Outcome :=
  if state.session.cryptoHandshakeSent = true then (state, true)
  else
    match chatCryptoHandshakeInit sodium state.session.cryptoHandshake
        state.identity state.session.remoteIdentityPk state.session.cryptoRole
        state.session.iceSessionId env.kxSecretKey with
    | (cryptoHandshake, .error _) =>
        (state.setSession { state.session with cryptoHandshake }, false)
    | (cryptoHandshake, .ok message) =>
        let effect :=
          Effect.handshakeSigned (state.session.cryptoRole.getD .initiator)
            state.session.remoteIdentityPk state.session.iceSessionId
            (messageKxPk message)
        ((state.setSession
          { state.session with
            cryptoHandshake
            cryptoLocalHandshakeMessage := message }).emit effect, true)

def startCryptoHandshake (sodium : Sodium) (env : Env) (state : ChatdState) :
    Outcome :=
  match initCryptoHandshake sodium env (state.setSessionState .cryptoHandshake) with
  | (state, false) => (state, false)
  | (state, true) =>
      sendSessionPacket env state .handshake
        state.session.cryptoLocalHandshakeMessage.toList fun session =>
          { session with
            cryptoNextHandshakeAt := env.now + 1
            cryptoHandshakeSent := true }

def finishCryptoHandshake (sodium : Sodium) (state : ChatdState)
    (payload : Bytes 96) : Outcome :=
  match chatCryptoHandshakeFinish sodium state.session.cryptoHandshake payload
      state.session.cryptoKeys with
  | (cryptoHandshake, cryptoKeys, .error _) =>
      (state.setSession { state.session with cryptoHandshake, cryptoKeys }, false)
  | (cryptoHandshake, cryptoKeys, .ok _) =>
      let effect :=
        Effect.handshakeAccepted
          (state.session.cryptoHandshake.role.getD .initiator)
          state.session.cryptoHandshake.remoteIdentityPk
          state.session.cryptoHandshake.sessionId payload cryptoKeys
      ((state.setSession
        { state.session with
          cryptoHandshake
          cryptoKeys
          cryptoKeysReady := true }).emit effect, true)

/-- The first half of `send_stream_header`: the push stream is opened once. -/
def initStreamHeader (sodium : Sodium) (env : Env) (state : ChatdState) :
    Outcome :=
  if state.session.cryptoStreamHeaderSent = true then (state, true)
  else
    match chatCryptoSecretstreamInitPush sodium state.session.cryptoStream
        state.session.cryptoKeys.tx env.streamHeader with
    | .error _ => (state, false)
    | .ok (cryptoStream, header) =>
        (state.setSession
          { state.session with
            cryptoStream
            cryptoLocalStreamHeader := header }, true)

def sendStreamHeader (sodium : Sodium) (env : Env) (state : ChatdState) :
    Outcome :=
  match initStreamHeader sodium env state with
  | (state, false) => (state, false)
  | (state, true) =>
      sendSessionPacket env state .streamHeader
        state.session.cryptoLocalStreamHeader.toList fun session =>
          { session with
            cryptoNextStreamHeaderAt := env.now + 1
            cryptoStreamHeaderSent := true }

def receiveStreamHeader (sodium : Sodium) (state : ChatdState)
    (payload : Bytes 24) : Outcome :=
  match chatCryptoSecretstreamInitPull sodium state.session.cryptoStream
      state.session.cryptoKeys.rx payload with
  | .error _ => (state, false)
  | .ok cryptoStream =>
      (state.setSession
        { state.session with
          cryptoStream
          cryptoStreamHeaderReceived := true }, true)

/-! ## Dispatch -/

def handleHandshakePacket (sodium : Sodium) (state : ChatdState)
    (payload : List UInt8) : Outcome :=
  if state.sessionState ≠ .iceConnected ∧
      state.sessionState ≠ .cryptoHandshake ∧
      ¬ (state.sessionState = .secure ∧ state.session.cryptoKeysReady = true) then
    (state, false)
  else if hlength : payload.length = 96 then
    if state.session.cryptoKeysReady = true then (state, true)
    else finishCryptoHandshake sodium state ⟨payload, hlength⟩
  else (state, false)

def handleStreamHeaderPacket (sodium : Sodium) (state : ChatdState)
    (payload : List UInt8) : Outcome :=
  if state.sessionState ≠ .cryptoHandshake ∧
      ¬ (state.sessionState = .secure ∧
        state.session.cryptoStreamHeaderReceived = true) then
    (state, false)
  else if hlength : payload.length = 24 then
    if state.session.cryptoKeysReady = false then (state, true)
    else if state.session.cryptoStreamHeaderReceived = true then (state, true)
    else receiveStreamHeader sodium state ⟨payload, hlength⟩
  else (state, false)

def handleChatPacket (sodium : Sodium) (env : Env) (state : ChatdState)
    (type : ChatPacketType) (payload : List UInt8) : Outcome :=
  if state.sessionState ≠ .secure ∨
      state.session.encryptedSessionReady = false ∨
      payload.length < Sodium.streamABytes then
    (state, false)
  else decryptChatPayload sodium env state type payload

def dispatchIceAppPacket (sodium : Sodium) (env : Env) (state : ChatdState)
    (packet : List UInt8) : Outcome :=
  match chatPacketDecodeHeader packet with
  | .error _ => (state, false)
  | .ok header =>
      if packet.length ≠ chatPacketHeaderSize + header.length then (state, false)
      else
        let payload := packet.drop chatPacketHeaderSize
        match header.type with
        | .handshake => handleHandshakePacket sodium state payload
        | .streamHeader => handleStreamHeaderPacket sodium state payload
        | .message => handleChatPacket sodium env state .message payload
        | .close => handleChatPacket sodium env state .close payload
        | .ping => (state, false)
        | .pong => (state, false)

/-- `handle_ice_app_packet`, with its result in the log. -/
def handleIceAppPacket (sodium : Sodium) (env : Env) (state : ChatdState)
    (packet : List UInt8) : Outcome :=
  let handled := dispatchIceAppPacket sodium env state packet
  (handled.1.emit (.packetHandled handled.2), handled.2)

def processReceivedIcePacket (sodium : Sodium) (env : Env)
    (state : ChatdState) : Outcome :=
  match chatIceTakeReceived state.session.ice chatdIcePacketMax with
  | .error _ => (state, false)
  | .ok (packet, ice) =>
      let state := state.setSession { state.session with ice }
      if packet.length = 0 then (state, true)
      else handleIceAppPacket sodium env state packet

/-! ## What the stages can change -/

theorem initCryptoHandshake_cases {sodium : Sodium} {env : Env} {state : ChatdState}
    {outcome : Outcome}
    (hinit : initCryptoHandshake sodium env state = outcome) :
    (state.session.cryptoHandshakeSent = true ∧ outcome = (state, true)) ∨
      (∃ handshake, outcome =
        (state.setSession { state.session with cryptoHandshake := handshake },
          false)) ∨
      ∃ role handshake message,
        state.session.cryptoHandshakeSent = false ∧
        state.session.cryptoRole = some role ∧
        chatCryptoHandshakeInit sodium state.session.cryptoHandshake
            state.identity state.session.remoteIdentityPk
            state.session.cryptoRole state.session.iceSessionId
            env.kxSecretKey = (handshake, .ok message) ∧
        outcome =
          ((state.setSession
            { state.session with
              cryptoHandshake := handshake
              cryptoLocalHandshakeMessage := message }).emit
            (.handshakeSigned role state.session.remoteIdentityPk
              state.session.iceSessionId (messageKxPk message)), true) := by
  unfold initCryptoHandshake at hinit
  split_ifs at hinit with hsent
  · exact Or.inl ⟨hsent, hinit.symm⟩
  · rw [Bool.not_eq_true] at hsent
    split at hinit
    · exact Or.inr (Or.inl ⟨_, hinit.symm⟩)
    · rename_i handshake message hmessage
      obtain ⟨role, _, hrole, _⟩ := chatCryptoHandshakeInit_ok hmessage
      refine Or.inr (Or.inr
        ⟨role, handshake, message, hsent, hrole, hmessage, ?_⟩)
      rw [← hinit, hrole]
      rfl

theorem sendSessionPacket_keeps {P : ChatdSession → Prop} {env : Env}
    {state : ChatdState} {type : ChatPacketType} {payload : List UInt8}
    {note : ChatdSession → ChatdSession} (hsession : P state.session)
    (hnote : P (note state.session)) :
    P (sendSessionPacket env state type payload note).1.session := by
  unfold sendSessionPacket
  rcases sendIcePacket_cases (Eq.refl (sendIcePacket env state type payload))
    with hsend | hsend | hsend <;> rw [hsend]
  · exact hsession
  · exact hsession
  · exact hnote

/-- The same session flags outside the handshake. -/
def SameFlags (left right : ChatdSession) : Prop :=
  right.iceActive = left.iceActive ∧
    right.encryptedSessionReady = left.encryptedSessionReady

theorem startCryptoHandshake_keeps (sodium : Sodium) (env : Env)
    (state : ChatdState) :
    SameFlags state.session (startCryptoHandshake sodium env state).1.session := by
  unfold startCryptoHandshake
  rcases initCryptoHandshake_cases (Eq.refl (initCryptoHandshake sodium env
    (state.setSessionState .cryptoHandshake))) with
    ⟨_, hinit⟩ | ⟨_, hinit⟩ | ⟨_, _, _, _, _, _, hinit⟩ <;> rw [hinit]
  · exact sendSessionPacket_keeps ⟨rfl, rfl⟩ ⟨rfl, rfl⟩
  · exact ⟨rfl, rfl⟩
  · exact sendSessionPacket_keeps ⟨rfl, rfl⟩ ⟨rfl, rfl⟩

theorem sendStreamHeader_keeps (sodium : Sodium) (env : Env)
    (state : ChatdState) :
    SameFlags state.session (sendStreamHeader sodium env state).1.session := by
  unfold sendStreamHeader initStreamHeader chatCryptoSecretstreamInitPush
  split_ifs
  · exact sendSessionPacket_keeps ⟨rfl, rfl⟩ ⟨rfl, rfl⟩
  · cases env.streamHeader with
    | none => exact ⟨rfl, rfl⟩
    | some header => exact sendSessionPacket_keeps ⟨rfl, rfl⟩ ⟨rfl, rfl⟩

/-! ## What a packet can change -/

/-- The fields of a session that received packets set. -/
def ChatdSession.received (session : ChatdSession)
    (cryptoHandshake : ChatCryptoHandshake) (cryptoKeys : ChatCryptoSessionKeys)
    (cryptoKeysReady : Bool) (cryptoStream : ChatCryptoSecretstream)
    (cryptoStreamHeaderReceived : Bool) : ChatdSession :=
  { session with
    cryptoHandshake, cryptoKeys, cryptoKeysReady, cryptoStream,
    cryptoStreamHeaderReceived }

/-- A session after a packet: some of its crypto fields were set, or the peer
of a ready session closed it. -/
def PacketFrame (session : ChatdSession) (outcome : Outcome) : Prop :=
  (∃ handshake keys keysReady stream received,
      outcome.1.session =
        session.received handshake keys keysReady stream received) ∨
    (session.encryptedSessionReady = true ∧ outcome.2 = true ∧
      outcome.1.session = {})

theorem packetFrame_of_eq {session : ChatdSession} {outcome : Outcome}
    (hsession : outcome.1.session = session) : PacketFrame session outcome :=
  Or.inl ⟨_, _, _, _, _, hsession⟩

@[simp]
theorem writeChatMessageToCli_session (env : Env) (state : ChatdState)
    (plaintext : List UInt8) :
    (writeChatMessageToCli env state plaintext).1.session = state.session := by
  unfold writeChatMessageToCli
  split
  · rfl
  · split_ifs <;> rfl

theorem decryptChatPayload_frame (sodium : Sodium) (env : Env)
    (state : ChatdState) (type : ChatPacketType) (payload : List UInt8)
    (hready : state.session.encryptedSessionReady = true) :
    PacketFrame state.session
      (decryptChatPayload sodium env state type payload) := by
  unfold decryptChatPayload
  split
  · exact packetFrame_of_eq rfl
  · rename_i plaintext tag stream _
    have hframe (next : ChatdState) (ok : Bool)
        (hnext : next.session =
          (state.decrypted type plaintext stream).session) :
        PacketFrame state.session (next, ok) :=
      Or.inl ⟨_, _, _, _, _, hnext⟩
    simp only
    split
    · split_ifs
      · exact hframe _ _ rfl
      · exact hframe _ _ (writeChatMessageToCli_session env _ plaintext)
    · split_ifs
      · exact hframe _ _ rfl
      · exact Or.inr ⟨hready, rfl, rfl⟩
    · exact hframe _ _ rfl

theorem dispatchIceAppPacket_frame (sodium : Sodium) (env : Env)
    (state : ChatdState) (packet : List UInt8) :
    PacketFrame state.session (dispatchIceAppPacket sodium env state packet) := by
  have hchat (type : ChatPacketType) (payload : List UInt8) :
      PacketFrame state.session
        (handleChatPacket sodium env state type payload) := by
    unfold handleChatPacket
    split_ifs with hrefused
    · exact packetFrame_of_eq rfl
    · rw [not_or, not_or] at hrefused
      exact decryptChatPayload_frame sodium env state type payload
        (by simpa using hrefused.2.1)
  unfold dispatchIceAppPacket
  split
  · exact packetFrame_of_eq rfl
  · split_ifs
    · exact packetFrame_of_eq rfl
    · simp only
      split
      · unfold handleHandshakePacket finishCryptoHandshake
        split_ifs
        · exact packetFrame_of_eq rfl
        · exact packetFrame_of_eq rfl
        · split <;> exact Or.inl ⟨_, _, _, _, _, rfl⟩
        · exact packetFrame_of_eq rfl
      · unfold handleStreamHeaderPacket receiveStreamHeader
        split_ifs
        · exact packetFrame_of_eq rfl
        · exact packetFrame_of_eq rfl
        · exact packetFrame_of_eq rfl
        · split <;> exact Or.inl ⟨_, _, _, _, _, rfl⟩
        · exact packetFrame_of_eq rfl
      · exact hchat _ _
      · exact hchat _ _
      · exact packetFrame_of_eq rfl
      · exact packetFrame_of_eq rfl

/-- A packet does not end a session that is not ready. -/
theorem processReceivedIcePacket_keeps (sodium : Sodium) (env : Env)
    (state : ChatdState)
    (hready : state.session.encryptedSessionReady = false) :
    SameFlags state.session
      (processReceivedIcePacket sodium env state).1.session := by
  unfold processReceivedIcePacket
  split
  · exact ⟨rfl, rfl⟩
  · rename_i packet ice _
    simp only
    split_ifs
    · exact ⟨rfl, rfl⟩
    · rcases dispatchIceAppPacket_frame sodium env
        (state.setSession { state.session with ice }) packet with
        ⟨_, _, _, _, _, hsession⟩ | ⟨hcontra, _⟩
      · simp only [handleIceAppPacket, ChatdState.emit, hsession]
        exact ⟨rfl, rfl⟩
      · exact absurd (hready.symm.trans hcontra) Bool.false_ne_true

/-- A session whose queue is served is active, or it was closed and its queue
is empty. -/
def Served (session : ChatdSession) : Prop :=
  session.iceActive = true ∨ session.ice.received = []

/-- Handling the next packet of a served session: a failure leaves it
active. -/
theorem processReceivedIcePacket_served (sodium : Sodium) (env : Env)
    {state : ChatdState} (hserved : Served state.session) :
    let outcome := processReceivedIcePacket sodium env state
    (outcome.2 = false → outcome.1.session.iceActive = true) ∧
      (outcome.2 = true → Served outcome.1.session) := by
  unfold processReceivedIcePacket
  cases hreceived : state.session.ice.received with
  | nil =>
      simp only [chatIceTakeReceived_nil _ hreceived, List.length_nil,
        if_true, Bool.true_eq_false, false_implies, true_and]
      exact fun _ => Or.inr hreceived
  | cons packet packets =>
      have hactive : state.session.iceActive = true := by
        simpa [Served, hreceived] using hserved
      obtain ⟨rest, htake, _⟩ := chatIceTakeReceived_cons hreceived
      simp only [chatdIcePacketMax, htake]
      split_ifs
      · exact ⟨fun h => by simp at h, fun _ => Or.inl hactive⟩
      · rcases dispatchIceAppPacket_frame sodium env
          (state.setSession { state.session with
            ice := { state.session.ice with recvQueue := rest } }) packet with
          ⟨_, _, _, _, _, hsession⟩ | ⟨_, hok, hsession⟩
        · simp only [handleIceAppPacket, ChatdState.emit, hsession]
          exact ⟨fun _ => hactive, fun _ => Or.inl hactive⟩
        · simp only [handleIceAppPacket, ChatdState.emit, hsession, hok]
          exact ⟨fun h => by simp at h, fun _ => Or.inr received_default⟩

/-! ## Service -/

/-- The loop over the receive queue of a ready session. -/
def serviceReceiveQueue (sodium : Sodium) (env : Env) :
    ℕ → ChatdState → ChatdState
  | 0, state => state
  | count + 1, state =>
      match processReceivedIcePacket sodium env state with
      | (state, true) => serviceReceiveQueue sodium env count state
      | (state, false) =>
          if state.session.iceActive then failChatSession env state else state

/-- Continue after a call that returned zero; otherwise the session fails. -/
def orFail (env : Env) (outcome : Outcome) (next : ChatdState → ChatdState) :
    ChatdState :=
  if outcome.2 then next outcome.1 else failChatSession env outcome.1

def handshakeDue (env : Env) (session : ChatdSession) : Bool :=
  !session.cryptoHandshakeSent ||
    (!session.cryptoStreamHeaderReceived &&
      decide (session.cryptoNextHandshakeAt ≤ env.now))

def streamHeaderDue (env : Env) (session : ChatdSession) : Bool :=
  session.cryptoKeysReady &&
    (!session.cryptoStreamHeaderSent ||
      (!session.encryptedSessionReady &&
        decide (session.cryptoNextStreamHeaderAt ≤ env.now)))

/-- The part of `service_crypto_session` that sends the handshake. -/
def handshakeStage (sodium : Sodium) (env : Env) (state : ChatdState) :
    Outcome :=
  if handshakeDue env state.session then startCryptoHandshake sodium env state
  else (state, true)

/-- The part of `service_crypto_session` that sends the stream header. -/
def headerStage (sodium : Sodium) (env : Env) (state : ChatdState) : Outcome :=
  if streamHeaderDue env state.session then sendStreamHeader sodium env state
  else (state, true)

theorem handshakeStage_keeps (sodium : Sodium) (env : Env) (state : ChatdState) :
    SameFlags state.session (handshakeStage sodium env state).1.session := by
  unfold handshakeStage
  split_ifs
  · exact startCryptoHandshake_keeps sodium env state
  · exact ⟨rfl, rfl⟩

theorem headerStage_keeps (sodium : Sodium) (env : Env) (state : ChatdState) :
    SameFlags state.session (headerStage sodium env state).1.session := by
  unfold headerStage
  split_ifs
  · exact sendStreamHeader_keeps sodium env state
  · exact ⟨rfl, rfl⟩

/-- The last part of `service_crypto_session`: both directions are open. -/
def establishSession (env : Env) (state : ChatdState) : ChatdState :=
  if state.session.cryptoKeysReady = true ∧
      state.session.cryptoStreamHeaderSent = true ∧
      state.session.cryptoStreamHeaderReceived = true then
    let state :=
      (state.setSession
        { state.session with encryptedSessionReady := true }).setSessionState
          .secure
    match state.lookupClientFd with
    | none => state
    | some fd =>
        writeIpcResponse env state fd
          (.encryptedSession state.session.icePeer
            state.session.iceSelectedPairIsRelayed)
  else state

/-- The part of `service_crypto_session` for a session that is not ready. -/
def serviceHandshake (sodium : Sodium) (env : Env) (state : ChatdState) :
    ChatdState :=
  orFail env (handshakeStage sodium env state) fun state =>
  orFail env (processReceivedIcePacket sodium env state) fun state =>
  orFail env (headerStage sodium env state) fun state =>
  orFail env (processReceivedIcePacket sodium env state) fun state =>
  establishSession env state

def cryptoDeadlinePassed (env : Env) (session : ChatdSession) : Bool :=
  decide (session.cryptoDeadlineAt ≠ 0) &&
    decide (session.cryptoDeadlineAt ≤ env.now)

def serviceCryptoSession (sodium : Sodium) (env : Env) (state : ChatdState) :
    ChatdState :=
  if state.session.ice.ready = false then state
  else if state.session.encryptedSessionReady then
    serviceReceiveQueue sodium env chatIceRecvQueueCapacity state
  else if state.session.hasRemoteIdentityPk = false then
    failChatSession env state
  else if cryptoDeadlinePassed env state.session then failChatSession env state
  else serviceHandshake sodium env state

/-- The part of `service_ice_session` that applies a queued description. -/
def servicePendingRemoteSdp (env : Env) (state : ChatdState) : Outcome :=
  if state.session.ice.gatheringDone = true ∧
      state.session.hasPendingRemoteIceSdp = true then
    match applyRemoteIceSdp env state state.session.pendingRemoteIceSdp with
    | (state, false) => (state, false)
    | (state, true) =>
        (state.setSession
          { state.session with
            pendingRemoteIceSdp := []
            hasPendingRemoteIceSdp := false }, true)
  else (state, true)

/-- The part of `service_ice_session` that queues the local description.  A
failure is fatal only while the outgoing slot is empty. -/
def serviceLocalSdp (sodium : Sodium) (env : Env) (state : ChatdState) :
    Outcome :=
  if state.session.ice.gatheringDone = true ∧
      state.session.iceLocalSdpSent = false ∧ state.controlWsi = true ∧
      hasPendingControlMessage state = false then
    match queueLocalIceSdp sodium env state with
    | (state, true) => (state, true)
    | (state, false) => (state, decide (state.pending ≠ []))
  else (state, true)

/-- The first service after the component was connected. -/
def notifyIceConnected (env : Env) (state : ChatdState) : ChatdState :=
  if state.session.iceCliNotified then state
  else
    let session := state.session
    (state.setSession
      { session with
        iceSelectedPairIsRelayed :=
          if session.ice.selectedPairKnown then session.ice.selectedPairIsRelayed
          else session.iceSelectedPairIsRelayed
        iceCliNotified := true
        cryptoDeadlineAt := env.now + chatdCryptoTimeoutSeconds
        }).setSessionState .iceConnected

/-- `service_ice_session` behind `chat_ice_poll`, whose callbacks are events of
their own. -/
def serviceIceSession (sodium : Sodium) (env : Env) (state : ChatdState) :
    ChatdState :=
  if state.session.iceActive = false then state
  else if cryptoDeadlinePassed env state.session = true ∧
      state.session.encryptedSessionReady = false then
    failChatSession env state
  else
    orFail env (servicePendingRemoteSdp env state) fun state =>
    orFail env (serviceLocalSdp sodium env state) fun state =>
    if state.session.ice.failed then failChatSession env state
    else if state.session.ice.ready then
      serviceCryptoSession sodium env (notifyIceConnected env state)
    else if state.session.iceDeadlineAt ≤ env.now then failChatSession env state
    else state

end ProntoChat.Daemon
