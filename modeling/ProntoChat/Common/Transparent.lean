import ProntoChat.Common.Crypto

/-!
# A transparent libsodium

An instance of the libsodium interface that hides nothing: signatures and
ciphertexts contain their message, and a digest is a checksum.  It satisfies
the functional assumptions on `Sodium`, so results that rely on them are not
vacuous, and runs of the program can be evaluated with it.
-/

namespace ProntoChat.Transparent

open ProntoChat.Protocole
open ProntoChat.Crypto

/-- A byte string cut or padded with zeros to a fixed length. -/
def fit (size : ℕ) (content : List UInt8) : Bytes size :=
  ⟨(content ++ List.replicate size 0).take size, by simp⟩

/-- A byte string with one repeated byte. -/
def repeated (size : ℕ) (byte : UInt8) : Bytes size :=
  ⟨List.replicate size byte, List.length_replicate⟩

/-- Bytes are added up in 32 columns. -/
def checksum : List UInt8 → List UInt8 → List UInt8
  | columns, [] => columns
  | [], _ :: _ => []
  | column :: columns, byte :: rest => checksum (columns ++ [column + byte]) rest

/-- The state behind one message: its first byte counts the messages. -/
def advance (state : Bytes 52) : Bytes 52 :=
  ⟨(state.head + 1) :: state.tail.toList, by simp⟩

/-- The part of the state that a ciphertext repeats. -/
def marker (state : Bytes 52) : List UInt8 := state.toList.take 16

def push (state : Bytes 52) (plaintext : List UInt8) (tag : UInt8) :
    List UInt8 × Bytes 52 :=
  (tag :: marker state ++ plaintext, advance state)

def pull (state : Bytes 52) :
    List UInt8 → Option (List UInt8 × UInt8 × Bytes 52)
  | [] => none
  | tag :: rest =>
      if rest.take 16 = marker state then
        some (rest.drop 16, tag, advance state)
      else none

def openStream (header : Bytes 24) (key : Bytes 32) : Bytes 52 :=
  fit 52 (0 :: key.toList.take 8 ++ header.toList)

def sodium : Sodium where
  generichash input := fit 32 (checksum (List.replicate 32 0) input)
  signDetached message secretKey := fit 64 (secretKey.toList.drop 32 ++ message)
  signVerifyDetached signature message publicKey :=
    decide (signature = fit 64 (publicKey.toList ++ message))
  kxPublicKey secretKey := secretKey
  kxClientSessionKeys ownPk _ remotePk := some (remotePk, ownPk)
  kxServerSessionKeys ownPk _ remotePk := some (remotePk, ownPk)
  secretstreamInitPush := openStream
  secretstreamInitPull header key := some (openStream header key)
  secretstreamPush := push
  secretstreamPull := pull
  bin2base64 content := content
  base642bin content := some content

/-- As in libsodium, a secret key ends with its public key. -/
theorem signsFor {secretKey : Bytes 64} {publicKey : Bytes 32}
    (hpair : secretKey.toList.drop 32 = publicKey.toList) :
    sodium.SignsFor secretKey publicKey := by
  intro message
  simp [sodium, hpair]

theorem toList_fit {size : ℕ} {content : List UInt8}
    (hlength : content.length = size) : (fit size content).toList = content := by
  show (content ++ List.replicate size 0).take size = content
  rw [List.take_left' hlength]

/-- A signature verifies for one 32-byte message only. -/
theorem verify_unique {signature : Bytes 64} {publicKey left right : Bytes 32}
    (hleft : sodium.signVerifyDetached signature left.toList publicKey = true)
    (hright : sodium.signVerifyDetached signature right.toList publicKey = true) :
    left = right := by
  have hfit : fit 64 (publicKey.toList ++ left.toList) =
      fit 64 (publicKey.toList ++ right.toList) :=
    (of_decide_eq_true hleft).symm.trans (of_decide_eq_true hright)
  have hlist := congrArg List.Vector.toList hfit
  rw [toList_fit (by simp), toList_fit (by simp)] at hlist
  exact List.Vector.eq _ _ (List.append_cancel_left hlist)

theorem kxMirrored : sodium.KxMirrored :=
  fun client server => ⟨server, client, rfl, rfl⟩

theorem length_marker (state : Bytes 52) : (marker state).length = 16 := by
  simp [marker]

theorem streamCorrect : sodium.StreamCorrect where
  initPull := fun _ _ => rfl
  pull_push := fun state plaintext tag => by
    have htake : (marker state ++ plaintext).take 16 = marker state :=
      List.take_left' (length_marker state)
    have hdrop : (marker state ++ plaintext).drop 16 = plaintext :=
      List.drop_left' (length_marker state)
    simp only [sodium, push, pull, List.cons_append, htake, hdrop, if_true]
  length_push := fun state plaintext tag => by
    simp [sodium, push, length_marker, Sodium.streamABytes]
    omega

theorem advance_ne (state : Bytes 52) : advance state ≠ state := by
  intro hsame
  have hhead := congrArg List.Vector.head hsame
  have hstep : ∀ byte : UInt8, byte + 1 ≠ byte := by decide +kernel
  exact hstep state.head hhead

theorem streamMoves : sodium.StreamMoves := fun state _ => advance_ne state

/-- An account whose keys repeat one byte. -/
def identity (username : Str) (byte : UInt8) : ChatIdentity where
  username
  publicKey := repeated 32 byte
  secretKey := repeated 64 byte

theorem identity_signsFor (username : Str) (byte : UInt8) :
    sodium.SignsFor (identity username byte).secretKey
      (identity username byte).publicKey :=
  signsFor (by simp [identity, repeated, List.Vector.toList])

end ProntoChat.Transparent
