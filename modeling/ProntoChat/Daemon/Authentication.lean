import ProntoChat.Daemon.Invariants
import ProntoChat.Daemon.Scenario

/-!
# Peer authentication

Any number of daemons run side by side, while the control server and the
network choose every event.  With ideal signatures an accepted handshake that
names the key of another daemon goes back to something which that daemon has
signed.  The same key also signs login challenges, and the server chooses
their 32 bytes; a handshake is genuine as long as no answered challenge is the
digest of its transcript.
-/

namespace ProntoChat.Daemon

open ProntoChat.QuotedText
open ProntoChat.Protocole
open ProntoChat.Json
open ProntoChat.Contacts
open ProntoChat.Crypto

/-! ## Signed messages -/

/-- A call of `chat_crypto_handshake_finish` that returned OK. -/
structure AcceptedHandshake where
  role : ChatCryptoRole
  remotePk : Bytes 32
  sessionId : Str
  message : Bytes 96
  deriving DecidableEq

/-- A call of `chat_crypto_handshake_init` that returned OK. -/
structure SignedHandshake where
  role : ChatCryptoRole
  remotePk : Bytes 32
  sessionId : Str
  kxPk : Bytes 32
  deriving DecidableEq

def acceptedHandshakes (log : List Effect) : List AcceptedHandshake :=
  log.filterMap fun
    | .handshakeAccepted role remotePk sessionId message _ =>
        some ⟨role, remotePk, sessionId, message⟩
    | _ => none

def signedHandshakes (log : List Effect) : List SignedHandshake :=
  log.filterMap fun
    | .handshakeSigned role remotePk sessionId kxPk =>
        some ⟨role, remotePk, sessionId, kxPk⟩
    | _ => none

/-- The messages signed by `queue_auth_response`. -/
def signedChallenges (log : List Effect) : List (Bytes 32) :=
  log.filterMap fun
    | .challengeSigned challenge => some challenge
    | _ => none

def SignedHandshake.transcript (handshake : SignedHandshake)
    (signerPk : Bytes 32) : List UInt8 :=
  chatCryptoTranscript handshake.role signerPk handshake.remotePk
    handshake.sessionId handshake.kxPk

/-- Everything that a daemon has signed. -/
def signedMessages (sodium : Sodium) (ownPk : Bytes 32) (log : List Effect) :
    List (Bytes 32) :=
  signedChallenges log ++
    (signedHandshakes log).map fun handshake =>
      sodium.generichash (handshake.transcript ownPk)

/-- What the peer of an accepted handshake is expected to have done. -/
def AcceptedHandshake.counterpart (handshake : AcceptedHandshake)
    (localPk : Bytes 32) : SignedHandshake where
  role := handshake.role.opposite
  remotePk := localPk
  sessionId := handshake.sessionId
  kxPk := messageKxPk handshake.message

/-- The message whose signature the handshake was accepted for. -/
def AcceptedHandshake.digest (sodium : Sodium) (handshake : AcceptedHandshake)
    (localPk : Bytes 32) : Bytes 32 :=
  sodium.generichash
    ((handshake.counterpart localPk).transcript handshake.remotePk)

/-- A transcript belongs to one handshake. -/
theorem SignedHandshake.transcript_injective {left right : SignedHandshake}
    {signerPk : Bytes 32}
    (heq : left.transcript signerPk = right.transcript signerPk) :
    left = right := by
  obtain ⟨hrole, _, hremote, hsession, hkx⟩ := chatCryptoTranscript_injective heq
  cases left
  cases right
  simp_all

theorem mem_acceptedHandshakes {log : List Effect}
    {handshake : AcceptedHandshake}
    (hmem : handshake ∈ acceptedHandshakes log) :
    ∃ keys, Effect.handshakeAccepted handshake.role handshake.remotePk
      handshake.sessionId handshake.message keys ∈ log := by
  obtain ⟨effect, heffect, haccepted⟩ := List.mem_filterMap.mp hmem
  split at haccepted
  · obtain rfl := Option.some.inj haccepted
    exact ⟨_, heffect⟩
  · simp at haccepted

/-! ## A family of daemons -/

section Family

variable {ι : Type*} [DecidableEq ι]

/-- The daemons after an interleaving of their events. -/
def daemons (sodium : Sodium) (identities : ι → ChatIdentity)
    (stores : ι → ContactsDb) (inputs : List (ι × Env × ChatdEvent)) :
    ι → ChatdState :=
  Transition.run (Transition.familyStep (chatdStep sodium))
    (fun daemon => initialState (identities daemon) (stores daemon)) inputs

theorem daemons_apply (sodium : Sodium) (identities : ι → ChatIdentity)
    (stores : ι → ContactsDb) (inputs : List (ι × Env × ChatdEvent))
    (daemon : ι) :
    daemons sodium identities stores inputs daemon =
      Transition.run (chatdStep sodium)
        (initialState (identities daemon) (stores daemon))
        (Transition.eventsOf daemon inputs) :=
  Transition.run_familyStep _ _ _ _

/-- The accepted handshakes of one daemon that name the key of another. -/
def acceptedFrom (identities : ι → ChatIdentity) (states : ι → ChatdState)
    (acceptor signer : ι) : List AcceptedHandshake :=
  (acceptedHandshakes (states acceptor).log).filter fun handshake =>
    handshake.remotePk = (identities signer).publicKey

/-- A signature that was accepted under the key of a daemon verifies only for
messages which that daemon has signed. -/
def IdealSignatures (sodium : Sodium) (identities : ι → ChatIdentity)
    (states : ι → ChatdState) : Prop :=
  ∀ acceptor signer, ∀ handshake ∈ acceptedFrom identities states acceptor signer,
    ∀ message : Bytes 32,
      sodium.signVerifyDetached (messageSignature handshake.message)
          message.toList (identities signer).publicKey = true →
        message ∈ signedMessages sodium (identities signer).publicKey
          (states signer).log

/-- No accepted transcript collides with a different signed one. -/
def CollisionFree (sodium : Sodium) (identities : ι → ChatIdentity)
    (states : ι → ChatdState) : Prop :=
  ∀ acceptor signer, ∀ handshake ∈ acceptedFrom identities states acceptor signer,
    ∀ signed ∈ signedHandshakes (states signer).log,
      handshake.digest sodium (identities acceptor).publicKey =
          sodium.generichash (signed.transcript (identities signer).publicKey) →
        (handshake.counterpart (identities acceptor).publicKey).transcript
            (identities signer).publicKey =
          signed.transcript (identities signer).publicKey

/-- No answered login challenge is the digest of an accepted handshake. -/
def ChallengesSeparate (sodium : Sodium) (identities : ι → ChatIdentity)
    (states : ι → ChatdState) : Prop :=
  ∀ acceptor signer, ∀ handshake ∈ acceptedFrom identities states acceptor signer,
    handshake.digest sodium (identities acceptor).publicKey ∉
      signedChallenges (states signer).log

/-- Every accepted handshake was made by the daemon whose key it names, with
the opposite role, for the accepting daemon, in the same session and with the
accepted key-exchange key. -/
def HandshakesGenuine (identities : ι → ChatIdentity)
    (states : ι → ChatdState) : Prop :=
  ∀ acceptor signer, ∀ handshake ∈ acceptedFrom identities states acceptor signer,
    handshake.counterpart (identities acceptor).publicKey ∈
      signedHandshakes (states signer).log

/-- An accepted handshake carries a valid signature of its digest. -/
theorem accepted_verified (sodium : Sodium) (identities : ι → ChatIdentity)
    (stores : ι → ContactsDb) (inputs : List (ι × Env × ChatdEvent))
    {acceptor signer : ι} {handshake : AcceptedHandshake}
    (hmem : handshake ∈ acceptedFrom identities
      (daemons sodium identities stores inputs) acceptor signer) :
    handshake.remotePk = (identities signer).publicKey ∧
      sodium.signVerifyDetached (messageSignature handshake.message)
        (handshake.digest sodium (identities acceptor).publicKey).toList
        (identities signer).publicKey = true := by
  obtain ⟨haccepted, hremote⟩ := List.mem_filter.mp hmem
  have hremote := of_decide_eq_true hremote
  obtain ⟨keys, hlog⟩ := mem_acceptedHandshakes haccepted
  rw [daemons_apply] at hlog
  have hsound := sessionSound_run sodium (identities acceptor) (stores acceptor)
    (Transition.eventsOf acceptor inputs)
  obtain ⟨hverify, _⟩ := hsound.keys.authentic _ hlog
  rw [← hremote]
  exact ⟨rfl, hverify⟩

/-- With ideal signatures, an accepted handshake is genuine unless its digest
was signed as a login challenge. -/
theorem accepted_origin (sodium : Sodium) (identities : ι → ChatIdentity)
    (stores : ι → ContactsDb) (inputs : List (ι × Env × ChatdEvent))
    (hideal : IdealSignatures sodium identities
      (daemons sodium identities stores inputs))
    (hfree : CollisionFree sodium identities
      (daemons sodium identities stores inputs))
    {acceptor signer : ι} {handshake : AcceptedHandshake}
    (hmem : handshake ∈ acceptedFrom identities
      (daemons sodium identities stores inputs) acceptor signer) :
    handshake.digest sodium (identities acceptor).publicKey ∈
        signedChallenges (daemons sodium identities stores inputs signer).log ∨
      handshake.counterpart (identities acceptor).publicKey ∈
        signedHandshakes (daemons sodium identities stores inputs signer).log := by
  obtain ⟨_, hverify⟩ := accepted_verified sodium identities stores inputs hmem
  have hsigned := hideal acceptor signer handshake hmem _ hverify
  rcases List.mem_append.mp hsigned with hchallenge | hhandshake
  · exact Or.inl hchallenge
  · obtain ⟨signed, hlog, hdigest⟩ := List.mem_map.mp hhandshake
    have htranscript := hfree acceptor signer handshake hmem signed hlog
      hdigest.symm
    rw [SignedHandshake.transcript_injective htranscript]
    exact Or.inr hlog

/-- In every run in which no answered challenge is the digest of an accepted
handshake, every accepted handshake is genuine. -/
theorem handshakes_genuine (sodium : Sodium) (identities : ι → ChatIdentity)
    (stores : ι → ContactsDb) (inputs : List (ι × Env × ChatdEvent))
    (hideal : IdealSignatures sodium identities
      (daemons sodium identities stores inputs))
    (hfree : CollisionFree sodium identities
      (daemons sodium identities stores inputs))
    (hseparate : ChallengesSeparate sodium identities
      (daemons sodium identities stores inputs)) :
    HandshakesGenuine identities (daemons sodium identities stores inputs) := by
  intro acceptor signer handshake hmem
  exact (accepted_origin sodium identities stores inputs hideal hfree
    hmem).resolve_left (hseparate acceptor signer handshake hmem)

/-- The transparent signatures are ideal as soon as the accepted digests were
signed. -/
theorem idealSignatures_transparent (identities : ι → ChatIdentity)
    (stores : ι → ContactsDb) (inputs : List (ι × Env × ChatdEvent))
    (hsigned : ∀ acceptor signer, ∀ handshake ∈ acceptedFrom identities
      (daemons Transparent.sodium identities stores inputs) acceptor signer,
      handshake.digest Transparent.sodium (identities acceptor).publicKey ∈
        signedMessages Transparent.sodium (identities signer).publicKey
          (daemons Transparent.sodium identities stores inputs signer).log) :
    IdealSignatures Transparent.sodium identities
      (daemons Transparent.sodium identities stores inputs) := by
  intro acceptor signer handshake hmem message hverify
  obtain ⟨_, hdigest⟩ :=
    accepted_verified Transparent.sodium identities stores inputs hmem
  rw [Transparent.verify_unique hverify hdigest]
  exact hsigned acceptor signer handshake hmem

end Family

/-! ## Two daemons -/

/-- Alice's daemon is `true` and Bob's is `false`. -/
def aliceAndBob : Bool → ChatIdentity
  | true => alice
  | false => bob

def emptyStores : Bool → ContactsDb := fun _ => none

/-- Alice asks Bob for a session, and both run it up to Bob's acceptance of her
handshake. -/
def honestHandshake : List (Bool × Env × ChatdEvent) :=
  let sessionId := sodiumBin2hex (Transparent.repeated 16 1)
  (smoothly 1 (login (Transparent.repeated 32 8) ++
      outgoingSession alice bob 7 sessionId)).map (true, ·) ++
    (smoothly 2 (login (Transparent.repeated 32 9) ++
      incomingSession Transparent.sodium bob alice sessionId
        (Transparent.repeated 32 1) (Transparent.repeated 24 1))).map (false, ·)

theorem handshakes_genuine_honestHandshake :
    let states :=
      daemons Transparent.sodium aliceAndBob emptyStores honestHandshake
    acceptedFrom aliceAndBob states false true ≠ [] ∧
      HandshakesGenuine aliceAndBob states := by
  intro states
  have hrun : acceptedFrom aliceAndBob states false true ≠ [] ∧
      (∀ acceptor signer,
        ∀ handshake ∈ acceptedFrom aliceAndBob states acceptor signer,
          handshake.digest Transparent.sodium (aliceAndBob acceptor).publicKey ∈
            signedMessages Transparent.sodium (aliceAndBob signer).publicKey
              (states signer).log) ∧
      CollisionFree Transparent.sodium aliceAndBob states ∧
      ChallengesSeparate Transparent.sodium aliceAndBob states := by
    simp only [states, acceptedFrom, CollisionFree, ChallengesSeparate,
      daemons_apply]
    decide +kernel
  obtain ⟨haccepted, hsigned, hfree, hseparate⟩ := hrun
  exact ⟨haccepted, handshakes_genuine Transparent.sodium aliceAndBob emptyStores
    honestHandshake (idealSignatures_transparent _ _ _ hsigned) hfree hseparate⟩

/-- The server lets Alice log in with a challenge of its choice: the digest of
a handshake in her name with a key-exchange key of the server.  Then it offers
Bob a session with Alice, and her answer to the challenge completes the
handshake. -/
def forgedHandshake : List (Bool × Env × ChatdEvent) :=
  let sessionId := bytes "5e55"
  let kxPk := Transparent.repeated 32 6
  let challenge := Transparent.sodium.generichash
    (chatCryptoTranscript .initiator alice.publicKey bob.publicKey sessionId kxPk)
  (smoothly 1 (login challenge)).map (true, ·) ++
    (smoothly 2 (login (Transparent.repeated 32 9) ++
      incomingSession Transparent.sodium bob alice sessionId kxPk
        (Transparent.repeated 24 6))).map (false, ·)

/-- Signatures are ideal and no transcripts collide, but Bob's session with
Alice is secure although Alice has not signed any handshake: the signature that
Bob accepted is the one of her login. -/
theorem login_answer_accepted_as_handshake :
    let states :=
      daemons Transparent.sodium aliceAndBob emptyStores forgedHandshake
    IdealSignatures Transparent.sodium aliceAndBob states ∧
      CollisionFree Transparent.sodium aliceAndBob states ∧
      (states false).sessionState = .secure ∧
      signedHandshakes (states true).log = [] ∧
      (∃ handshake ∈ acceptedFrom aliceAndBob states false true,
        authResponseJson (messageSignature handshake.message) ∈
          (states true).frames) ∧
      ¬ HandshakesGenuine aliceAndBob states := by
  intro states
  have hrun : (∀ acceptor signer,
        ∀ handshake ∈ acceptedFrom aliceAndBob states acceptor signer,
          handshake.digest Transparent.sodium (aliceAndBob acceptor).publicKey ∈
            signedMessages Transparent.sodium (aliceAndBob signer).publicKey
              (states signer).log) ∧
      CollisionFree Transparent.sodium aliceAndBob states ∧
      (states false).sessionState = .secure ∧
      signedHandshakes (states true).log = [] ∧
      (∃ handshake ∈ acceptedFrom aliceAndBob states false true,
        authResponseJson (messageSignature handshake.message) ∈
          (states true).frames) ∧
      ¬ HandshakesGenuine aliceAndBob states := by
    simp only [states, acceptedFrom, CollisionFree, HandshakesGenuine,
      daemons_apply]
    decide +kernel
  exact ⟨idealSignatures_transparent _ _ _ hrun.1, hrun.2⟩

end ProntoChat.Daemon
