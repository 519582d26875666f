import ProntoChat.Common.Transparent

/-!
# Matching handshakes

Two sides of a handshake, each with its own idea of the role, the peer and the
session.  One side accepts the message of the other exactly when these ideas
fit together, and then the derived keys mirror each other.
-/

namespace ProntoChat

open ProntoChat.Protocole

/-- Where the derivations from two generated keypairs succeed, each side
receives under the key under which the other sends. -/
def Sodium.KxMirrors (sodium : Sodium) : Prop :=
  ∀ (client server : Bytes 32) (clientKeys serverKeys : Bytes 32 × Bytes 32),
    sodium.kxClientSessionKeys (sodium.kxPublicKey client) client
        (sodium.kxPublicKey server) = some clientKeys →
      sodium.kxServerSessionKeys (sodium.kxPublicKey server) server
        (sodium.kxPublicKey client) = some serverKeys →
      clientKeys.1 = serverKeys.2 ∧ clientKeys.2 = serverKeys.1

/-- A signature of a digest under the secret key verifies for that digest and
the matching public key, and for nothing else. -/
def Sodium.SignsExactly (sodium : Sodium) (secretKey : Bytes 64)
    (publicKey : Bytes 32) : Prop :=
  ∀ signed checked claimed : Bytes 32,
    sodium.signVerifyDetached (sodium.signDetached signed.toList secretKey)
        checked.toList claimed = true ↔
      claimed = publicKey ∧ checked = signed

end ProntoChat

namespace ProntoChat.Crypto

open ProntoChat.Protocole

variable {sodium : Sodium}

/-- The arguments of `chat_crypto_handshake_init` and the ephemeral key that it
draws. -/
structure HandshakeSide where
  identity : ChatIdentity
  remotePk : Bytes 32
  role : ChatCryptoRole
  sessionId : List UInt8
  kxSecretKey : Bytes 32
  nonempty : sessionId.length ≠ 0
  bounded : sessionId.length ≤ chatCryptoSessionIdMax

namespace HandshakeSide

def init (sodium : Sodium) (side : HandshakeSide)
    (handshake : ChatCryptoHandshake) :
    ChatCryptoHandshake × Except ChatCryptoError (Bytes 96) :=
  chatCryptoHandshakeInit sodium handshake side.identity side.remotePk
    (some side.role) side.sessionId (some side.kxSecretKey)

def kxPk (sodium : Sodium) (side : HandshakeSide) : Bytes 32 :=
  sodium.kxPublicKey side.kxSecretKey

/-- The transcript that a side signs. -/
def transcript (sodium : Sodium) (side : HandshakeSide) : List UInt8 :=
  chatCryptoTranscript side.role side.identity.publicKey side.remotePk
    side.sessionId (side.kxPk sodium)

/-- The transcript for which a side checks the signature in a message of
`other`. -/
def expected (sodium : Sodium) (side other : HandshakeSide) : List UInt8 :=
  chatCryptoTranscript side.role.opposite side.remotePk side.identity.publicKey
    side.sessionId (other.kxPk sodium)

/-- Opposite roles in one session, and each side names the other. -/
structure Matches (side other : HandshakeSide) : Prop where
  role : side.role.opposite = other.role
  remotePk : side.remotePk = other.identity.publicKey
  ownPk : side.identity.publicKey = other.remotePk
  sessionId : side.sessionId = other.sessionId

/-- Two sides match exactly when one signs what the other expects. -/
theorem expected_eq_transcript_iff (sodium : Sodium) (side other : HandshakeSide) :
    side.expected sodium other = other.transcript sodium ↔ side.Matches other := by
  constructor
  · intro heq
    obtain ⟨hrole, hremote, hown, hsession, _⟩ := chatCryptoTranscript_injective heq
    exact ⟨hrole, hremote, hown, hsession⟩
  · intro hmatches
    rw [expected, transcript, hmatches.role, hmatches.remotePk, hmatches.ownPk,
      hmatches.sessionId]

end HandshakeSide

/-- The handshake of a side that has begun. -/
def HandshakeSide.begun (sodium : Sodium) (side : HandshakeSide) :
    ChatCryptoHandshake where
  role := some side.role
  localIdentityPk := side.identity.publicKey
  remoteIdentityPk := side.remotePk
  localKxPk := side.kxPk sodium
  localKxSk := side.kxSecretKey
  sessionId := side.sessionId
  initialized := true

/-- The message of a side. -/
def HandshakeSide.message (sodium : Sodium) (side : HandshakeSide) : Bytes 96 :=
  handshakeMessage (side.kxPk sodium)
    (sodium.signDetached (sodium.generichash (side.transcript sodium)).toList
      side.identity.secretKey)

/-- The handshake of a side and the message it sends. -/
theorem init_ok {side : HandshakeSide} {before handshake : ChatCryptoHandshake}
    {message : Bytes 96}
    (hinit : side.init sodium before = (handshake, .ok message)) :
    handshake =
        { role := some side.role
          localIdentityPk := side.identity.publicKey
          remoteIdentityPk := side.remotePk
          localKxPk := side.kxPk sodium
          localKxSk := side.kxSecretKey
          sessionId := side.sessionId
          initialized := true } ∧
      message = handshakeMessage (side.kxPk sodium)
        (sodium.signDetached (sodium.generichash (side.transcript sodium)).toList
          side.identity.secretKey) := by
  obtain ⟨own, secretKey, hrole, hkey, hhandshake, hmessage⟩ :=
    chatCryptoHandshakeInit_ok hinit
  obtain rfl := Option.some.inj hrole
  obtain rfl := Option.some.inj hkey
  exact ⟨hhandshake, hmessage⟩

/-- The signature of the remote message was accepted; at most the key
derivation failed behind it. -/
def Accepts (sodium : Sodium) (handshake : ChatCryptoHandshake)
    (message : Bytes 96) (outKeys : ChatCryptoSessionKeys) : Prop :=
  let result := (chatCryptoHandshakeFinish sodium handshake message outKeys).2.2
  result = .ok () ∨ result = .error .sodium

theorem accepts_iff_verify {side : HandshakeSide}
    {before handshake : ChatCryptoHandshake} {own : Bytes 96}
    (hinit : side.init sodium before = (handshake, .ok own))
    (message : Bytes 96) (outKeys : ChatCryptoSessionKeys) :
    Accepts sodium handshake message outKeys ↔
      sodium.signVerifyDetached (messageSignature message)
        (sodium.generichash (chatCryptoTranscript side.role.opposite side.remotePk
          side.identity.publicKey side.sessionId (messageKxPk message))).toList
        side.remotePk = true := by
  obtain ⟨rfl, _⟩ := init_ok hinit
  have hsession : ¬ (side.sessionId.length = 0 ∨
      chatCryptoSessionIdMax < side.sessionId.length) :=
    not_or.mpr ⟨side.nonempty, Nat.not_lt.mpr side.bounded⟩
  unfold Accepts chatCryptoHandshakeFinish chatCryptoTranscriptHash
  simp only [if_neg hsession]
  by_cases hverify : sodium.signVerifyDetached (messageSignature message)
      (sodium.generichash (chatCryptoTranscript side.role.opposite side.remotePk
        side.identity.publicKey side.sessionId (messageKxPk message))).toList
      side.remotePk = true
  · simp only [hverify, Bool.true_eq_false, if_false, iff_true]
    cases deriveSessionKeys sodium side.role (side.kxPk sodium) side.kxSecretKey
      (messageKxPk message) with
    | none => exact Or.inr rfl
    | some keys => exact Or.inl rfl
  · have hfalse := Bool.not_eq_true _ ▸ hverify
    simp [hfalse]

/-- The keys that a side derives from the message of another one. -/
def HandshakeSide.keys (sodium : Sodium) (side other : HandshakeSide) :
    ChatCryptoSessionKeys :=
  (deriveSessionKeys sodium side.role (side.kxPk sodium) side.kxSecretKey
    (other.kxPk sodium)).getD {}

/-- Generated keypairs derive keys on both sides, and these mirror each other. -/
theorem HandshakeSide.keys_mirror (hkx : sodium.KxMirrored) {side other : HandshakeSide}
    (hrole : side.role.opposite = other.role) :
    deriveSessionKeys sodium side.role (side.kxPk sodium) side.kxSecretKey
        (other.kxPk sodium) = some (side.keys sodium other) ∧
      (side.keys sodium other).rx = (other.keys sodium side).tx := by
  have hother : other.role = side.role.opposite := hrole.symm
  cases hside : side.role with
  | initiator =>
      obtain ⟨rx, tx, hclient, hserver⟩ := hkx side.kxSecretKey other.kxSecretKey
      simp [keys, kxPk, deriveSessionKeys, hside, hother, ChatCryptoRole.opposite,
        hclient, hserver]
  | responder =>
      obtain ⟨rx, tx, hclient, hserver⟩ := hkx other.kxSecretKey side.kxSecretKey
      simp [keys, kxPk, deriveSessionKeys, hside, hother, ChatCryptoRole.opposite,
        hclient, hserver]

/-- A side that has begun finishes with the message of a matching one. -/
theorem HandshakeSide.finish_message (hkx : sodium.KxMirrored)
    {side other : HandshakeSide} (hmatches : side.Matches other)
    (hsigns : sodium.SignsFor other.identity.secretKey other.identity.publicKey)
    (outKeys : ChatCryptoSessionKeys) :
    chatCryptoHandshakeFinish sodium (side.begun sodium) (other.message sodium) outKeys =
      ({ side.begun sodium with finished := true, localKxSk := zeroBytes 32 },
        side.keys sodium other, .ok ()) := by
  have hsession : ¬ (side.sessionId.length = 0 ∨
      chatCryptoSessionIdMax < side.sessionId.length) :=
    not_or.mpr ⟨side.nonempty, Nat.not_lt.mpr side.bounded⟩
  have hexpected := (expected_eq_transcript_iff sodium side other).mpr hmatches
  have hverify : sodium.signVerifyDetached (sodium.signDetached
      (sodium.generichash (other.transcript sodium)).toList other.identity.secretKey)
      (sodium.generichash (chatCryptoTranscript side.role.opposite side.remotePk
        side.identity.publicKey side.sessionId (other.kxPk sodium))).toList
      side.remotePk = true := by
    rw [expected] at hexpected
    rw [hexpected, hmatches.remotePk]
    exact hsigns _
  unfold chatCryptoHandshakeFinish chatCryptoTranscriptHash
  simp only [begun, message, messageKxPk_handshakeMessage,
    messageSignature_handshakeMessage, if_neg hsession, hverify, Bool.true_eq_false,
    if_false, (keys_mirror hkx hmatches.role).1]

/-- The keys of two matching sides mirror each other. -/
theorem deriveSessionKeys_mirror (hkx : sodium.KxMirrors) {role : ChatCryptoRole}
    {own other : Bytes 32} {ownKeys otherKeys : ChatCryptoSessionKeys}
    (hown : deriveSessionKeys sodium role (sodium.kxPublicKey own) own
      (sodium.kxPublicKey other) = some ownKeys)
    (hother : deriveSessionKeys sodium role.opposite (sodium.kxPublicKey other)
      other (sodium.kxPublicKey own) = some otherKeys) :
    ownKeys.tx = otherKeys.rx ∧ ownKeys.rx = otherKeys.tx := by
  cases role with
  | initiator =>
      obtain ⟨clientKeys, hclient, rfl⟩ := Option.map_eq_some_iff.mp hown
      obtain ⟨serverKeys, hserver, rfl⟩ := Option.map_eq_some_iff.mp hother
      obtain ⟨hrx, htx⟩ := hkx own other clientKeys serverKeys hclient hserver
      exact ⟨htx, hrx⟩
  | responder =>
      obtain ⟨serverKeys, hserver, rfl⟩ := Option.map_eq_some_iff.mp hown
      obtain ⟨clientKeys, hclient, rfl⟩ := Option.map_eq_some_iff.mp hother
      obtain ⟨hrx, htx⟩ := hkx other own clientKeys serverKeys hclient hserver
      exact ⟨hrx.symm, htx.symm⟩

section Pair

variable {side other : HandshakeSide}
  {sideBefore otherBefore sideHandshake otherHandshake : ChatCryptoHandshake}
  {sideMessage otherMessage : Bytes 96}

/-- A side accepts the message of the other exactly when the two match. -/
theorem accepts_iff_matches
    (hside : side.init sodium sideBefore = (sideHandshake, .ok sideMessage))
    (hother : other.init sodium otherBefore = (otherHandshake, .ok otherMessage))
    (hsigns : sodium.SignsExactly other.identity.secretKey
      other.identity.publicKey)
    (hfree : Set.InjOn sodium.generichash
      {side.expected sodium other, other.transcript sodium})
    (outKeys : ChatCryptoSessionKeys) :
    Accepts sodium sideHandshake otherMessage outKeys ↔ side.Matches other := by
  obtain ⟨_, rfl⟩ := init_ok hother
  rw [accepts_iff_verify hside, messageSignature_handshakeMessage,
    messageKxPk_handshakeMessage, hsigns,
    ← HandshakeSide.expected_eq_transcript_iff sodium]
  constructor
  · rintro ⟨_, hdigest⟩
    exact hfree (Set.mem_insert _ _) (Set.mem_insert_of_mem _ rfl) hdigest
  · intro heq
    refine ⟨((HandshakeSide.expected_eq_transcript_iff _ _ _).mp heq).remotePk, ?_⟩
    rw [← heq]
    rfl

/-- When both sides finish, each one has verified the other and derived its
keys from the other's ephemeral key. -/
theorem keys_mirror_of_matches (hkx : sodium.KxMirrors)
    (hside : side.init sodium sideBefore = (sideHandshake, .ok sideMessage))
    (hother : other.init sodium otherBefore = (otherHandshake, .ok otherMessage))
    (hmatches : side.Matches other)
    {sideOut otherOut sideKeys otherKeys : ChatCryptoSessionKeys}
    {sideNext otherNext : ChatCryptoHandshake}
    (hsideFinish : chatCryptoHandshakeFinish sodium sideHandshake otherMessage
      sideOut = (sideNext, sideKeys, .ok ()))
    (hotherFinish : chatCryptoHandshakeFinish sodium otherHandshake sideMessage
      otherOut = (otherNext, otherKeys, .ok ())) :
    sideKeys.tx = otherKeys.rx ∧ sideKeys.rx = otherKeys.tx := by
  obtain ⟨rfl, rfl⟩ := init_ok hside
  obtain ⟨rfl, rfl⟩ := init_ok hother
  obtain ⟨_, _, _, role, hrole, _, _, hderive⟩ :=
    chatCryptoHandshakeFinish_ok hsideFinish
  obtain ⟨_, _, _, otherRole, hotherRole, _, _, hotherDerive⟩ :=
    chatCryptoHandshakeFinish_ok hotherFinish
  obtain rfl := Option.some.inj hrole
  obtain rfl := Option.some.inj hotherRole
  rw [messageKxPk_handshakeMessage] at hderive hotherDerive
  rw [← hmatches.role] at hotherDerive
  exact deriveSessionKeys_mirror hkx hderive hotherDerive

/-- A handshake accepts the message of another one if and only if the two
match, both then hold mirrored keys, and the signed transcript determines
everything that was signed. -/
theorem handshake_matching (hkx : sodium.KxMirrors)
    (hside : side.init sodium sideBefore = (sideHandshake, .ok sideMessage))
    (hother : other.init sodium otherBefore = (otherHandshake, .ok otherMessage))
    (hsigns : sodium.SignsExactly other.identity.secretKey
      other.identity.publicKey)
    (hfree : Set.InjOn sodium.generichash
      {side.expected sodium other, other.transcript sodium})
    (sideOut otherOut : ChatCryptoSessionKeys) :
    (Accepts sodium sideHandshake otherMessage sideOut ↔ side.Matches other) ∧
      (∀ sideNext sideKeys otherNext otherKeys,
        chatCryptoHandshakeFinish sodium sideHandshake otherMessage sideOut =
            (sideNext, sideKeys, .ok ()) →
          chatCryptoHandshakeFinish sodium otherHandshake sideMessage otherOut =
            (otherNext, otherKeys, .ok ()) →
          sideKeys.tx = otherKeys.rx ∧ sideKeys.rx = otherKeys.tx) ∧
      ∀ leftRole leftSigner leftPeer leftSession leftKx rightRole rightSigner
          rightPeer rightSession rightKx,
        chatCryptoTranscript leftRole leftSigner leftPeer leftSession leftKx =
            chatCryptoTranscript rightRole rightSigner rightPeer rightSession
              rightKx →
          leftRole = rightRole ∧ leftSigner = rightSigner ∧
            leftPeer = rightPeer ∧ leftSession = rightSession ∧
            leftKx = rightKx := by
  have haccepts := accepts_iff_matches hside hother hsigns hfree sideOut
  refine ⟨haccepts, ?_, ?_⟩
  · intro sideNext sideKeys otherNext otherKeys hsideFinish hotherFinish
    have hmatches : side.Matches other := by
      rw [← haccepts, Accepts, hsideFinish]
      exact Or.inl rfl
    exact keys_mirror_of_matches hkx hside hother hmatches hsideFinish hotherFinish
  · intros
    exact chatCryptoTranscript_injective ‹_›

end Pair

end ProntoChat.Crypto

/-! ## A matching pair -/

namespace ProntoChat.Transparent

open ProntoChat.QuotedText
open ProntoChat.Protocole
open ProntoChat.Crypto

theorem kxMirrors : sodium.KxMirrors := by
  intro client server clientKeys serverKeys hclient hserver
  obtain rfl := Option.some.inj hclient
  obtain rfl := Option.some.inj hserver
  exact ⟨rfl, rfl⟩

theorem signsExactly (username : Str) (byte : UInt8) :
    sodium.SignsExactly (identity username byte).secretKey
      (identity username byte).publicKey := by
  intro signed checked claimed
  have hsecret : (repeated 64 byte).toList.drop 32 = (repeated 32 byte).toList := by
    simp [repeated, List.Vector.toList]
  simp only [sodium, identity, hsecret, decide_eq_true_eq]
  constructor
  · intro heq
    have hlist := congrArg List.Vector.toList heq
    rw [toList_fit (by simp), toList_fit (by simp)] at hlist
    obtain ⟨hkey, hdigest⟩ := List.append_inj hlist (by simp)
    exact ⟨List.Vector.eq _ _ hkey.symm, List.Vector.eq _ _ hdigest.symm⟩
  · rintro ⟨rfl, rfl⟩
    rfl

/-- The side of an account in the session of two accounts. -/
def side (own peer : ChatIdentity) (role : ChatCryptoRole) (kxSecretKey : Bytes 32) :
    HandshakeSide where
  identity := own
  remotePk := peer.publicKey
  role
  sessionId := bytes "5e55"
  kxSecretKey
  nonempty := by decide +kernel
  bounded := by decide +kernel

/-- Two accounts that name each other accept each other's messages. -/
theorem handshake_matching_pair :
    let alex := side (identity (bytes "alex") 1) (identity (bytes "nathan") 2)
      .initiator (repeated 32 3)
    let nathan := side (identity (bytes "nathan") 2) (identity (bytes "alex") 1)
      .responder (repeated 32 4)
    ∃ alexHandshake alexMessage nathanHandshake nathanMessage,
      alex.init sodium {} = (alexHandshake, .ok alexMessage) ∧
      nathan.init sodium {} = (nathanHandshake, .ok nathanMessage) ∧
      Accepts sodium alexHandshake nathanMessage {} := by
  intro alex nathan
  have hmatches : alex.Matches nathan := ⟨rfl, rfl, rfl, rfl⟩
  have hexpected : alex.expected sodium nathan = nathan.transcript sodium :=
    (HandshakeSide.expected_eq_transcript_iff sodium alex nathan).mpr hmatches
  have hfree : Set.InjOn sodium.generichash
      {alex.expected sodium nathan, nathan.transcript sodium} := by
    rw [hexpected, Set.pair_eq_singleton]
    exact Set.injOn_singleton _ _
  have halex : alex.init sodium {} = ((alex.init sodium {}).1,
      .ok (handshakeMessage (alex.kxPk sodium) (sodium.signDetached
        (sodium.generichash (alex.transcript sodium)).toList
        alex.identity.secretKey))) := rfl
  have hnathan : nathan.init sodium {} = ((nathan.init sodium {}).1,
      .ok (handshakeMessage (nathan.kxPk sodium) (sodium.signDetached
        (sodium.generichash (nathan.transcript sodium)).toList
        nathan.identity.secretKey))) := rfl
  have hmatching := handshake_matching kxMirrors halex hnathan
    (signsExactly (bytes "nathan") 2) hfree {} {}
  exact ⟨_, _, _, _, halex, hnathan, hmatching.1.mpr hmatches⟩

end ProntoChat.Transparent
