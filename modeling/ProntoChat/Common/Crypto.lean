import ProntoChat.Common.Sodium

/-!
# Handshake and message streams

The peers authenticate fresh key-exchange keys with their account keys.  Each
side signs the digest of a transcript that names its role, both account keys,
the session identifier and its key-exchange key.  After both signatures are
verified the derived keys open one message stream for each direction.
-/

namespace ProntoChat.Crypto

open ProntoChat.QuotedText
open ProntoChat.Protocole

inductive ChatCryptoError where
  | null
  | invalid
  | buffer
  | sodium
  | verify
  | decrypt
  | tooLarge
  deriving DecidableEq, Repr

inductive ChatCryptoRole where
  | initiator
  | responder
  deriving DecidableEq, Repr

def ChatCryptoRole.code : ChatCryptoRole → UInt8
  | .initiator => 1
  | .responder => 2

/-- `chat_crypto_opposite_role`. -/
def ChatCryptoRole.opposite : ChatCryptoRole → ChatCryptoRole
  | .initiator => .responder
  | .responder => .initiator

@[simp]
theorem ChatCryptoRole.opposite_opposite (role : ChatCryptoRole) :
    role.opposite.opposite = role := by
  cases role <;> rfl

structure ChatIdentity where
  username : Str
  publicKey : Bytes 32
  secretKey : Bytes 64
  deriving DecidableEq

structure ChatCryptoSessionKeys where
  rx : Bytes 32 := zeroBytes 32
  tx : Bytes 32 := zeroBytes 32
  deriving DecidableEq

structure ChatCryptoHandshake where
  role : Option ChatCryptoRole := none
  localIdentityPk : Bytes 32 := zeroBytes 32
  remoteIdentityPk : Bytes 32 := zeroBytes 32
  localKxPk : Bytes 32 := zeroBytes 32
  localKxSk : Bytes 32 := zeroBytes 32
  sessionId : List UInt8 := []
  initialized : Bool := false
  finished : Bool := false
  deriving DecidableEq

structure ChatCryptoSecretstream where
  push : Bytes 52 := zeroBytes 52
  pull : Bytes 52 := zeroBytes 52
  pushInitialized : Bool := false
  pullInitialized : Bool := false
  deriving DecidableEq

def chatCryptoSessionIdMax : ℕ := 128

def chatCryptoTranscriptDomain : List UInt8 := bytes "ProntoChat crypto-kx v1"

def chatCryptoWriteU64Be (value : ℕ) : List UInt8 :=
  [(value / 2 ^ 56).toUInt8, (value / 2 ^ 48).toUInt8,
    (value / 2 ^ 40).toUInt8, (value / 2 ^ 32).toUInt8,
    (value / 2 ^ 24).toUInt8, (value / 2 ^ 16).toUInt8,
    (value / 2 ^ 8).toUInt8, value.toUInt8]

/-- The bytes hashed by `chat_crypto_transcript_hash`, in update order. -/
def chatCryptoTranscript (signerRole : ChatCryptoRole)
    (signerIdentityPk peerIdentityPk : Bytes 32) (sessionId : List UInt8)
    (signerKxPk : Bytes 32) : List UInt8 :=
  chatCryptoTranscriptDomain ++ [signerRole.code] ++ signerIdentityPk.toList ++
    peerIdentityPk.toList ++ chatCryptoWriteU64Be sessionId.length ++
    sessionId ++ signerKxPk.toList

def chatCryptoTranscriptHash (sodium : Sodium) (signerRole : ChatCryptoRole)
    (signerIdentityPk peerIdentityPk : Bytes 32) (sessionId : List UInt8)
    (signerKxPk : Bytes 32) : Except ChatCryptoError (Bytes 32) :=
  if sessionId.length = 0 ∨ chatCryptoSessionIdMax < sessionId.length then
    .error .invalid
  else
    .ok (sodium.generichash (chatCryptoTranscript signerRole signerIdentityPk
      peerIdentityPk sessionId signerKxPk))

/-- The transcript determines everything that was signed. -/
theorem chatCryptoTranscript_injective
    {leftRole rightRole : ChatCryptoRole}
    {leftSigner rightSigner leftPeer rightPeer : Bytes 32}
    {leftSession rightSession : List UInt8} {leftKx rightKx : Bytes 32}
    (heq : chatCryptoTranscript leftRole leftSigner leftPeer leftSession leftKx =
      chatCryptoTranscript rightRole rightSigner rightPeer rightSession rightKx) :
    leftRole = rightRole ∧ leftSigner = rightSigner ∧ leftPeer = rightPeer ∧
      leftSession = rightSession ∧ leftKx = rightKx := by
  have hlength : leftSession.length = rightSession.length := by
    have := congrArg List.length heq
    simp only [chatCryptoTranscript, List.length_append,
      List.Vector.toList_length, List.length_cons, List.length_nil,
      chatCryptoWriteU64Be] at this
    omega
  simp only [chatCryptoTranscript, List.append_assoc] at heq
  have hrole := List.append_cancel_left heq
  obtain ⟨hcode, hrest⟩ := List.append_inj hrole rfl
  obtain ⟨hsigner, hrest⟩ := List.append_inj hrest (by simp)
  obtain ⟨hpeer, hrest⟩ := List.append_inj hrest (by simp)
  obtain ⟨_, hrest⟩ := List.append_inj hrest rfl
  obtain ⟨hsession, hkx⟩ := List.append_inj hrest hlength
  refine ⟨?_, List.Vector.eq _ _ hsigner, List.Vector.eq _ _ hpeer, hsession,
    List.Vector.eq _ _ hkx⟩
  cases leftRole <;> cases rightRole <;>
    first
      | rfl
      | exact absurd hcode (by decide)

/-- The 96-byte handshake message: key-exchange key, then signature. -/
def handshakeMessage (kxPk : Bytes 32) (signature : Bytes 64) : Bytes 96 :=
  ⟨kxPk.toList ++ signature.toList, by simp⟩

/-- `remote_message[0 .. 32)`. -/
def messageKxPk (message : Bytes 96) : Bytes 32 :=
  ⟨message.toList.take 32, by simp⟩

/-- `remote_message[32 .. 96)`. -/
def messageSignature (message : Bytes 96) : Bytes 64 :=
  ⟨message.toList.drop 32, by simp⟩

@[simp]
theorem messageKxPk_handshakeMessage (kxPk : Bytes 32) (signature : Bytes 64) :
    messageKxPk (handshakeMessage kxPk signature) = kxPk := by
  apply List.Vector.eq
  obtain ⟨kxPk, hkx⟩ := kxPk
  obtain ⟨signature, hsignature⟩ := signature
  show List.take 32 (kxPk ++ signature) = kxPk
  rw [List.take_left' hkx]

@[simp]
theorem messageSignature_handshakeMessage (kxPk : Bytes 32)
    (signature : Bytes 64) :
    messageSignature (handshakeMessage kxPk signature) = signature := by
  apply List.Vector.eq
  obtain ⟨kxPk, hkx⟩ := kxPk
  obtain ⟨signature, hsignature⟩ := signature
  show List.drop 32 (kxPk ++ signature) = signature
  rw [List.drop_left' hkx]

/-- `chat_crypto_handshake_init`.  `kxSecretKey` is the secret key drawn by
`crypto_kx_keypair`, or `none` when that call fails.  The handshake object is
returned as the call leaves it. -/
def chatCryptoHandshakeInit (sodium : Sodium) (handshake : ChatCryptoHandshake)
    (identity : ChatIdentity) (remoteIdentityPk : Bytes 32)
    (role : Option ChatCryptoRole) (sessionId : List UInt8)
    (kxSecretKey : Option (Bytes 32)) :
    ChatCryptoHandshake × Except ChatCryptoError (Bytes 96) :=
  match role with
  | none => (handshake, .error .invalid)
  | some role =>
      if sessionId.length = 0 ∨ chatCryptoSessionIdMax < sessionId.length then
        (handshake, .error .invalid)
      else
        match kxSecretKey with
        | none => ({}, .error .sodium)
        | some localKxSk =>
            let localKxPk := sodium.kxPublicKey localKxSk
            match chatCryptoTranscriptHash sodium role identity.publicKey
                remoteIdentityPk sessionId localKxPk with
            | .error failure => ({}, .error failure)
            | .ok transcriptHash =>
                let signature :=
                  sodium.signDetached transcriptHash.toList identity.secretKey
                ({ role := some role
                   localIdentityPk := identity.publicKey
                   remoteIdentityPk
                   localKxPk
                   localKxSk
                   sessionId
                   initialized := true
                   finished := false },
                  .ok (handshakeMessage localKxPk signature))

/-- The message that a side with this role signs for a session. -/
def transcriptDigest (sodium : Sodium) (role : ChatCryptoRole)
    (signerPk peerPk : Bytes 32) (sessionId : List UInt8) (kxPk : Bytes 32) :
    List UInt8 :=
  (sodium.generichash
    (chatCryptoTranscript role signerPk peerPk sessionId kxPk)).toList

theorem chatCryptoTranscriptHash_ok {sodium : Sodium} {role : ChatCryptoRole}
    {signerPk peerPk kxPk : Bytes 32} {sessionId : List UInt8}
    {digest : Bytes 32}
    (hhash : chatCryptoTranscriptHash sodium role signerPk peerPk sessionId
      kxPk = .ok digest) :
    sessionId ≠ [] ∧ digest.toList =
      transcriptDigest sodium role signerPk peerPk sessionId kxPk := by
  unfold chatCryptoTranscriptHash at hhash
  split_ifs at hhash with hbad
  obtain rfl := Except.ok.inj hhash
  refine ⟨?_, rfl⟩
  rintro rfl
  exact hbad (Or.inl rfl)

/-- What a successful `chat_crypto_handshake_init` leaves behind. -/
theorem chatCryptoHandshakeInit_ok {sodium : Sodium}
    {handshake next : ChatCryptoHandshake} {identity : ChatIdentity}
    {remotePk : Bytes 32} {role : Option ChatCryptoRole}
    {sessionId : List UInt8} {kxSecretKey : Option (Bytes 32)}
    {message : Bytes 96}
    (hinit : chatCryptoHandshakeInit sodium handshake identity remotePk role
      sessionId kxSecretKey = (next, .ok message)) :
    ∃ own secretKey, role = some own ∧ kxSecretKey = some secretKey ∧
      next =
        { role := some own
          localIdentityPk := identity.publicKey
          remoteIdentityPk := remotePk
          localKxPk := sodium.kxPublicKey secretKey
          localKxSk := secretKey
          sessionId
          initialized := true } ∧
      message = handshakeMessage (sodium.kxPublicKey secretKey)
        (sodium.signDetached (transcriptDigest sodium own identity.publicKey
          remotePk sessionId (sodium.kxPublicKey secretKey))
          identity.secretKey) := by
  unfold chatCryptoHandshakeInit at hinit
  split at hinit
  · simp at hinit
  · rename_i own
    split_ifs at hinit
    · simp at hinit
    · split at hinit
      · simp at hinit
      · rename_i secretKey
        simp only at hinit
        split at hinit
        · simp at hinit
        · rename_i digest hhash
          obtain ⟨_, hdigest⟩ := chatCryptoTranscriptHash_ok hhash
          simp only [Prod.mk.injEq, Except.ok.injEq] at hinit
          refine ⟨own, secretKey, rfl, rfl, hinit.1.symm, ?_⟩
          rw [← hinit.2, hdigest]

/-- The key derivation that the role selects. -/
def deriveSessionKeys (sodium : Sodium) (role : ChatCryptoRole)
    (localKxPk localKxSk remoteKxPk : Bytes 32) :
    Option ChatCryptoSessionKeys :=
  match role with
  | .initiator =>
      (sodium.kxClientSessionKeys localKxPk localKxSk remoteKxPk).map
        fun keys => ⟨keys.1, keys.2⟩
  | .responder =>
      (sodium.kxServerSessionKeys localKxPk localKxSk remoteKxPk).map
        fun keys => ⟨keys.1, keys.2⟩

/-- `chat_crypto_handshake_finish`: the handshake and the key structure as the
call leaves them, and its result. -/
def chatCryptoHandshakeFinish (sodium : Sodium)
    (handshake : ChatCryptoHandshake) (remoteMessage : Bytes 96)
    (outKeys : ChatCryptoSessionKeys) :
    ChatCryptoHandshake × ChatCryptoSessionKeys × Except ChatCryptoError Unit :=
  match handshake.initialized, handshake.finished, handshake.role with
  | true, false, some role =>
      let remoteKxPk := messageKxPk remoteMessage
      match chatCryptoTranscriptHash sodium role.opposite
          handshake.remoteIdentityPk handshake.localIdentityPk
          handshake.sessionId remoteKxPk with
      | .error failure => (handshake, outKeys, .error failure)
      | .ok transcriptHash =>
          if sodium.signVerifyDetached (messageSignature remoteMessage)
              transcriptHash.toList handshake.remoteIdentityPk = false then
            (handshake, outKeys, .error .verify)
          else
            match deriveSessionKeys sodium role handshake.localKxPk
                handshake.localKxSk remoteKxPk with
            | none =>
                ({ handshake with localKxSk := zeroBytes 32 }, {},
                  .error .sodium)
            | some keys =>
                ({ handshake with
                    finished := true
                    localKxSk := zeroBytes 32 }, keys, .ok ())
  | _, _, _ => (handshake, outKeys, .error .invalid)

/-- What a successful `chat_crypto_handshake_finish` has checked. -/
theorem chatCryptoHandshakeFinish_ok {sodium : Sodium}
    {handshake next : ChatCryptoHandshake} {message : Bytes 96}
    {outKeys keys : ChatCryptoSessionKeys}
    (hfinish : chatCryptoHandshakeFinish sodium handshake message outKeys =
      (next, keys, .ok ())) :
    handshake.initialized = true ∧ handshake.finished = false ∧
      next = { handshake with finished := true, localKxSk := zeroBytes 32 } ∧
      ∃ role, handshake.role = some role ∧ handshake.sessionId ≠ [] ∧
        sodium.signVerifyDetached (messageSignature message)
          (transcriptDigest sodium role.opposite handshake.remoteIdentityPk
            handshake.localIdentityPk handshake.sessionId (messageKxPk message))
          handshake.remoteIdentityPk = true ∧
        deriveSessionKeys sodium role handshake.localKxPk handshake.localKxSk
          (messageKxPk message) = some keys := by
  unfold chatCryptoHandshakeFinish at hfinish
  split at hfinish
  · rename_i role hinitialized hfinished hrole
    simp only at hfinish
    split at hfinish
    · simp at hfinish
    · rename_i digest hhash
      obtain ⟨hsession, hdigest⟩ := chatCryptoTranscriptHash_ok hhash
      split_ifs at hfinish with hverify
      · simp at hfinish
      · split at hfinish
        · simp at hfinish
        · rename_i derived hderive
          simp only [Prod.mk.injEq, and_true] at hfinish
          refine ⟨hinitialized, hfinished, hfinish.1.symm, role, hrole, hsession,
            ?_, by rw [hderive, hfinish.2]⟩
          rw [← hdigest]
          simpa using hverify
  · simp at hfinish

/-! ## Message streams -/

/-- `chat_crypto_secretstream_init_push`.  `header` is the random header drawn
by libsodium, or `none` when that call fails. -/
def chatCryptoSecretstreamInitPush (sodium : Sodium)
    (stream : ChatCryptoSecretstream) (txKey : Bytes 32)
    (header : Option (Bytes 24)) :
    Except ChatCryptoError (ChatCryptoSecretstream × Bytes 24) :=
  match header with
  | none => .error .sodium
  | some header =>
      .ok ({ stream with
        push := sodium.secretstreamInitPush header txKey
        pushInitialized := true }, header)

def chatCryptoSecretstreamInitPull (sodium : Sodium)
    (stream : ChatCryptoSecretstream) (rxKey : Bytes 32) (header : Bytes 24) :
    Except ChatCryptoError ChatCryptoSecretstream :=
  match sodium.secretstreamInitPull header rxKey with
  | none => .error .sodium
  | some pull => .ok { stream with pull, pullInitialized := true }

/-- `chat_crypto_secretstream_encrypt` with an output buffer of
`ciphertextSize` bytes. -/
def chatCryptoSecretstreamEncrypt (sodium : Sodium)
    (stream : ChatCryptoSecretstream) (plaintext : List UInt8) (final : Bool)
    (ciphertextSize : ℕ) :
    Except ChatCryptoError (List UInt8 × ChatCryptoSecretstream) :=
  if stream.pushInitialized = false then .error .invalid
  else if chatMaxMessageSize < plaintext.length then .error .tooLarge
  else if ciphertextSize < plaintext.length + Sodium.streamABytes then
    .error .buffer
  else
    let tag := if final then Sodium.tagFinal else Sodium.tagMessage
    let output := sodium.secretstreamPush stream.push plaintext tag
    .ok (output.1, { stream with push := output.2 })

/-- `chat_crypto_secretstream_decrypt` with an output buffer of
`plaintextSize` bytes: plaintext, tag and the advanced stream. -/
def chatCryptoSecretstreamDecrypt (sodium : Sodium)
    (stream : ChatCryptoSecretstream) (ciphertext : List UInt8)
    (plaintextSize : ℕ) :
    Except ChatCryptoError (List UInt8 × UInt8 × ChatCryptoSecretstream) :=
  if stream.pullInitialized = false ∨
      ciphertext.length < Sodium.streamABytes then .error .invalid
  else if plaintextSize < ciphertext.length - Sodium.streamABytes then
    .error .buffer
  else
    match sodium.secretstreamPull stream.pull ciphertext with
    | none => .error .decrypt
    | some (plaintext, tag, pull) =>
        .ok (plaintext, tag, { stream with pull })

theorem chatCryptoSecretstreamEncrypt_ok {sodium : Sodium}
    {stream next : ChatCryptoSecretstream} {plaintext ciphertext : List UInt8}
    {final : Bool} {size : ℕ}
    (hencrypt : chatCryptoSecretstreamEncrypt sodium stream plaintext final
      size = .ok (ciphertext, next)) :
    stream.pushInitialized = true ∧ ∃ push,
      sodium.secretstreamPush stream.push plaintext
          (if final then Sodium.tagFinal else Sodium.tagMessage) =
        (ciphertext, push) ∧
      next = { stream with push } := by
  unfold chatCryptoSecretstreamEncrypt at hencrypt
  generalize (if final then Sodium.tagFinal else Sodium.tagMessage) = tag
    at hencrypt ⊢
  split_ifs at hencrypt with hopen
  simp only [Except.ok.injEq, Prod.mk.injEq] at hencrypt
  refine ⟨by simpa using hopen, _, ?_, hencrypt.2.symm⟩
  rw [← hencrypt.1]

theorem chatCryptoSecretstreamDecrypt_ok {sodium : Sodium}
    {stream next : ChatCryptoSecretstream} {plaintext ciphertext : List UInt8}
    {tag : UInt8} {size : ℕ}
    (hdecrypt : chatCryptoSecretstreamDecrypt sodium stream ciphertext size =
      .ok (plaintext, tag, next)) :
    ∃ pull, sodium.secretstreamPull stream.pull ciphertext =
        some (plaintext, tag, pull) ∧
      next = { stream with pull } := by
  unfold chatCryptoSecretstreamDecrypt at hdecrypt
  split_ifs at hdecrypt
  split at hdecrypt
  · simp at hdecrypt
  · rename_i pull hpull
    simp only [Except.ok.injEq, Prod.mk.injEq] at hdecrypt
    obtain ⟨rfl, rfl, rfl⟩ := hdecrypt
    exact ⟨pull, hpull, rfl⟩

/-- The states of a pull stream that was opened under a key. -/
inductive PullStream (sodium : Sodium) (key : Bytes 32) : Bytes 52 → Prop where
  | opened {header : Bytes 24} {pull : Bytes 52}
      (hopen : sodium.secretstreamInitPull header key = some pull) :
      PullStream sodium key pull
  | advanced {pull next : Bytes 52} {ciphertext plaintext : List UInt8}
      {tag : UInt8} (hstream : PullStream sodium key pull)
      (hpull : sodium.secretstreamPull pull ciphertext =
        some (plaintext, tag, next)) :
      PullStream sodium key next

/-- The plaintext came out of a stream that was opened under the key. -/
def DecryptedUnder (sodium : Sodium) (key : Bytes 32)
    (plaintext : List UInt8) : Prop :=
  ∃ pull ciphertext tag next, PullStream sodium key pull ∧
    sodium.secretstreamPull pull ciphertext = some (plaintext, tag, next)

end ProntoChat.Crypto
