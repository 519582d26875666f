import ProntoChat.Common.Protocole

/-!
# The libsodium interface

libsodium is not part of the repository.  `Sodium` lists the functions that
the program calls; random outputs (keypairs, stream headers, challenges) are
arguments of the model instead.  The predicates below state the documented
behaviour that individual results rely on.
-/

namespace ProntoChat

open ProntoChat.Protocole

/-- The libsodium functions used by the daemon, the client and the server. -/
structure Sodium where
  /-- `crypto_generichash` with a 32-byte digest and no key. -/
  generichash : List UInt8 → Bytes 32
  /-- `crypto_sign_detached`, message first. -/
  signDetached : List UInt8 → Bytes 64 → Bytes 64
  /-- `crypto_sign_verify_detached`: signature, message, public key. -/
  signVerifyDetached : Bytes 64 → List UInt8 → Bytes 32 → Bool
  /-- The public half of a `crypto_kx` secret key. -/
  kxPublicKey : Bytes 32 → Bytes 32
  /-- `crypto_kx_client_session_keys`: own public and secret key and the remote
  public key to the pair `(rx, tx)`. -/
  kxClientSessionKeys : Bytes 32 → Bytes 32 → Bytes 32 →
    Option (Bytes 32 × Bytes 32)
  kxServerSessionKeys : Bytes 32 → Bytes 32 → Bytes 32 →
    Option (Bytes 32 × Bytes 32)
  /-- `crypto_secretstream_xchacha20poly1305_init_push` for a chosen header. -/
  secretstreamInitPush : Bytes 24 → Bytes 32 → Bytes 52
  secretstreamInitPull : Bytes 24 → Bytes 32 → Option (Bytes 52)
  /-- One `push`: ciphertext and next state. -/
  secretstreamPush : Bytes 52 → List UInt8 → UInt8 → List UInt8 × Bytes 52
  /-- One `pull`: plaintext, tag and next state. -/
  secretstreamPull : Bytes 52 → List UInt8 →
    Option (List UInt8 × UInt8 × Bytes 52)
  /-- `sodium_bin2base64`, URL-safe without padding. -/
  bin2base64 : List UInt8 → Str
  base642bin : Str → Option (List UInt8)

namespace Sodium

/-- `crypto_secretstream_xchacha20poly1305_TAG_MESSAGE`. -/
def tagMessage : UInt8 := 0

/-- `crypto_secretstream_xchacha20poly1305_TAG_FINAL`. -/
def tagFinal : UInt8 := 3

/-- `crypto_secretstream_xchacha20poly1305_ABYTES`. -/
def streamABytes : ℕ := 17

/-- A secret key whose signatures verify under the public key. -/
def SignsFor (sodium : Sodium) (secretKey : Bytes 64) (publicKey : Bytes 32) :
    Prop :=
  ∀ message, sodium.signVerifyDetached
    (sodium.signDetached message secretKey) message publicKey = true

/-- Session key derivation from two generated keypairs succeeds on both sides
and the two results mirror each other. -/
def KxMirrored (sodium : Sodium) : Prop :=
  ∀ client server : Bytes 32, ∃ rx tx,
    sodium.kxClientSessionKeys (sodium.kxPublicKey client) client
        (sodium.kxPublicKey server) = some (rx, tx) ∧
      sodium.kxServerSessionKeys (sodium.kxPublicKey server) server
        (sodium.kxPublicKey client) = some (tx, rx)

/-- A pull stream that was opened with the header of a push stream decrypts
what that stream encrypts, in order. -/
structure StreamCorrect (sodium : Sodium) : Prop where
  initPull : ∀ header key, sodium.secretstreamInitPull header key =
    some (sodium.secretstreamInitPush header key)
  pull_push : ∀ state plaintext tag,
    sodium.secretstreamPull state
        (sodium.secretstreamPush state plaintext tag).1 =
      some (plaintext, tag, (sodium.secretstreamPush state plaintext tag).2)
  length_push : ∀ state plaintext tag,
    (sodium.secretstreamPush state plaintext tag).1.length =
      plaintext.length + streamABytes

/-- Each message moves the push stream: its counter goes up, or it is rekeyed. -/
def StreamMoves (sodium : Sodium) : Prop :=
  ∀ state plaintext, (sodium.secretstreamPush state plaintext tagMessage).2 ≠ state

end Sodium

end ProntoChat
