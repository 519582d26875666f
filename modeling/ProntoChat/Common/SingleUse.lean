import ProntoChat.Core.Transition
import ProntoChat.Common.Transparent

/-!
# Repeated calls of `chat_crypto_handshake_finish`

The handshake object remembers that it was finished.  A failed key derivation
wipes the ephemeral secret as a success does, but leaves the object open, so that
a later message is answered with keys derived from zeros.
-/

namespace ProntoChat.Crypto

open ProntoChat.Protocole

/-! ## Calls -/

section Calls

variable (sodium : Sodium)

/-- The handshake and the key structure behind a call. -/
def finishStep (state : ChatCryptoHandshake × ChatCryptoSessionKeys)
    (message : Bytes 96) : ChatCryptoHandshake × ChatCryptoSessionKeys :=
  let finished := chatCryptoHandshakeFinish sodium state.1 message state.2
  (finished.1, finished.2.1)

def finishResult (state : ChatCryptoHandshake × ChatCryptoSessionKeys)
    (message : Bytes 96) : Except ChatCryptoError Unit :=
  (chatCryptoHandshakeFinish sodium state.1 message state.2).2.2

/-- The message carries a signature of the peer for this handshake. -/
def signedFor (handshake : ChatCryptoHandshake) (message : Bytes 96) : Bool :=
  match handshake.role with
  | none => false
  | some role =>
      sodium.signVerifyDetached (messageSignature message)
        (transcriptDigest sodium role.opposite handshake.remoteIdentityPk
          handshake.localIdentityPk handshake.sessionId (messageKxPk message))
        handshake.remoteIdentityPk

/-- The keys that a secret yields with the key in a message. -/
def keysFrom (handshake : ChatCryptoHandshake) (secret : Bytes 32)
    (message : Bytes 96) : Option ChatCryptoSessionKeys :=
  handshake.role.bind fun role =>
    deriveSessionKeys sodium role handshake.localKxPk secret (messageKxPk message)

variable (handshake : ChatCryptoHandshake) (outKeys : ChatCryptoSessionKeys)

/-- The result of a call behind others. -/
def returned (before : List (Bytes 96)) (message : Bytes 96) :
    Except ChatCryptoError Unit :=
  finishResult sodium
    (Transition.run (finishStep sodium) (handshake, outKeys) before) message

/-- What is expected of the calls on a handshake: one success at most, with keys
from the secret that the handshake was opened with, no change by a refused message,
and no success after a failed derivation. -/
structure SingleUse (messages : List (Bytes 96)) : Prop where
  once : ∀ before first middle second after,
    messages = before ++ first :: (middle ++ second :: after) →
    returned sodium handshake outKeys before first = .ok () →
    returned sodium handshake outKeys (before ++ first :: middle) second ≠ .ok ()
  ephemeral : ∀ before message after, messages = before ++ message :: after →
    returned sodium handshake outKeys before message = .ok () →
    (Transition.run (finishStep sodium) (handshake, outKeys) before).1.localKxSk =
        handshake.localKxSk ∧
      keysFrom sodium handshake handshake.localKxSk message =
        some (Transition.run (finishStep sodium) (handshake, outKeys)
          (before ++ [message])).2
  refused : ∀ before message after, messages = before ++ message :: after →
    returned sodium handshake outKeys before message = .error .verify ∨
      returned sodium handshake outKeys before message = .error .invalid →
    Transition.run (finishStep sodium) (handshake, outKeys) (before ++ [message]) =
      Transition.run (finishStep sodium) (handshake, outKeys) before
  failed : ∀ before first middle second after,
    messages = before ++ first :: (middle ++ second :: after) →
    returned sodium handshake outKeys before first = .error .sodium →
    returned sodium handshake outKeys (before ++ first :: middle) second ≠ .ok ()

/-- Behind a first signed message whose derivation fails there is no signed message
whose derivation from a wiped secret succeeds. -/
def NoRevival (messages : List (Bytes 96)) : Prop :=
  ∀ before first middle second after,
    messages = before ++ first :: (middle ++ second :: after) →
    (∀ message ∈ before, signedFor sodium handshake message = false) →
    signedFor sodium handshake first = true →
    keysFrom sodium handshake handshake.localKxSk first = none →
    ¬ (signedFor sodium handshake second = true ∧
      (keysFrom sodium handshake (zeroBytes 32) second).isSome = true)

end Calls

/-! ## Stages of a handshake -/

/-- How far a handshake has come. -/
inductive Stage where
  | fresh
  /-- The secret is gone, but the object is still open. -/
  | wiped
  | finished
  deriving DecidableEq

/-- The object that was opened as `handshake`, at a later stage. -/
def Stage.object (handshake : ChatCryptoHandshake) : Stage → ChatCryptoHandshake
  | .fresh => handshake
  | .wiped => { handshake with localKxSk := zeroBytes 32 }
  | .finished => { handshake with finished := true, localKxSk := zeroBytes 32 }

def Stage.secret (handshake : ChatCryptoHandshake) : Stage → Bytes 32
  | .fresh => handshake.localKxSk
  | _ => zeroBytes 32

def Stage.next (sodium : Sodium) (handshake : ChatCryptoHandshake) (stage : Stage)
    (message : Bytes 96) : Stage :=
  if stage = .finished ∨ signedFor sodium handshake message = false then stage
  else if (keysFrom sodium handshake (stage.secret handshake) message).isSome then
    .finished
  else .wiped

/-- A handshake that `chat_crypto_handshake_init` opened. -/
structure Opened (handshake : ChatCryptoHandshake) : Prop where
  initialized : handshake.initialized = true
  unfinished : handshake.finished = false
  role : ∃ role, handshake.role = some role
  session : ¬ (handshake.sessionId.length = 0 ∨
    chatCryptoSessionIdMax < handshake.sessionId.length)

theorem opened_of_init {sodium : Sodium} {before handshake : ChatCryptoHandshake}
    {identity : ChatIdentity} {remotePk : Bytes 32} {role : Option ChatCryptoRole}
    {sessionId : List UInt8} {kxSecretKey : Option (Bytes 32)} {message : Bytes 96}
    (hinit : chatCryptoHandshakeInit sodium before identity remotePk role sessionId
      kxSecretKey = (handshake, .ok message)) : Opened handshake := by
  obtain ⟨own, secretKey, rfl, rfl, rfl, _⟩ := chatCryptoHandshakeInit_ok hinit
  refine ⟨rfl, rfl, ⟨own, rfl⟩, fun hlength => ?_⟩
  have hlength : sessionId.length = 0 ∨ chatCryptoSessionIdMax < sessionId.length := hlength
  simp only [chatCryptoHandshakeInit, if_pos hlength, Prod.mk.injEq, reduceCtorEq,
    and_false] at hinit

section Stages

variable {sodium : Sodium} {handshake : ChatCryptoHandshake}
  {outKeys : ChatCryptoSessionKeys}

/-- What a call does to an open handshake. -/
theorem finish_opened (hopened : Opened handshake) (message : Bytes 96)
    (outKeys : ChatCryptoSessionKeys) :
    chatCryptoHandshakeFinish sodium handshake message outKeys =
      if signedFor sodium handshake message = false then
        (handshake, outKeys, .error .verify)
      else
        match keysFrom sodium handshake handshake.localKxSk message with
        | none => (Stage.wiped.object handshake, {}, .error .sodium)
        | some keys => (Stage.finished.object handshake, keys, .ok ()) := by
  obtain ⟨role, hrole⟩ := hopened.role
  cases hkeys : deriveSessionKeys sodium role handshake.localKxPk handshake.localKxSk
    (messageKxPk message) <;>
  simp only [chatCryptoHandshakeFinish, hopened.initialized, hopened.unfinished, hrole,
    chatCryptoTranscriptHash, if_neg hopened.session, signedFor, keysFrom,
    transcriptDigest, Option.bind_some, Stage.object, hkeys]

theorem finish_finished (hopened : Opened handshake) (message : Bytes 96)
    (outKeys : ChatCryptoSessionKeys) :
    chatCryptoHandshakeFinish sodium (Stage.finished.object handshake) message outKeys =
      (Stage.finished.object handshake, outKeys, .error .invalid) := by
  simp only [chatCryptoHandshakeFinish, Stage.object, hopened.initialized]

/-- A wiped handshake is still open. -/
theorem Opened.wiped (hopened : Opened handshake) : Opened (Stage.wiped.object handshake) :=
  ⟨hopened.initialized, hopened.unfinished, hopened.role, hopened.session⟩

/-- What a call does at each stage. -/
theorem finish_stage (hopened : Opened handshake) (stage : Stage) (message : Bytes 96)
    (outKeys : ChatCryptoSessionKeys) :
    chatCryptoHandshakeFinish sodium (stage.object handshake) message outKeys =
      if stage = .finished then (stage.object handshake, outKeys, .error .invalid)
      else if signedFor sodium handshake message = false then
        (stage.object handshake, outKeys, .error .verify)
      else
        match keysFrom sodium handshake (stage.secret handshake) message with
        | none => (Stage.wiped.object handshake, {}, .error .sodium)
        | some keys => (Stage.finished.object handshake, keys, .ok ()) := by
  cases stage with
  | fresh => exact finish_opened hopened message outKeys
  | wiped => exact finish_opened hopened.wiped message outKeys
  | finished => exact finish_finished hopened message outKeys

/-! ## Runs of calls -/

/-- The stage behind some calls. -/
def stageAt (sodium : Sodium) (handshake : ChatCryptoHandshake)
    (messages : List (Bytes 96)) : Stage :=
  Transition.run (Stage.next sodium handshake) .fresh messages

@[simp]
theorem stageAt_nil : stageAt sodium handshake [] = .fresh := rfl

@[simp]
theorem stageAt_concat (messages : List (Bytes 96)) (message : Bytes 96) :
    stageAt sodium handshake (messages ++ [message]) =
      (stageAt sodium handshake messages).next sodium handshake message := by
  rw [stageAt, Transition.run_append]
  rfl

theorem object_next (hopened : Opened handshake) (stage : Stage) (message : Bytes 96)
    (outKeys : ChatCryptoSessionKeys) :
    (finishStep sodium (stage.object handshake, outKeys) message).1 =
      (stage.next sodium handshake message).object handshake := by
  simp only [finishStep, finish_stage hopened, Stage.next]
  by_cases hfinished : stage = .finished
  · simp [hfinished]
  · by_cases hsigned : signedFor sodium handshake message = false
    · simp [hfinished, hsigned]
    · cases hkeys : keysFrom sodium handshake (stage.secret handshake) message <;>
        simp [hfinished, hsigned]

/-- The object is the one of its stage. -/
theorem run_object (hopened : Opened handshake) (messages : List (Bytes 96)) :
    (Transition.run (finishStep sodium) (handshake, outKeys) messages).1 =
      (stageAt sodium handshake messages).object handshake := by
  induction messages using List.reverseRecOn with
  | nil => rfl
  | append_singleton messages message ih =>
      rw [Transition.run_append, stageAt_concat, ← object_next hopened _ message
        (Transition.run (finishStep sodium) (handshake, outKeys) messages).2, ← ih]
      rfl

/-- The call behind some others, in terms of the stage. -/
theorem finish_run (hopened : Opened handshake) (messages : List (Bytes 96))
    (message : Bytes 96) :
    chatCryptoHandshakeFinish sodium
        (Transition.run (finishStep sodium) (handshake, outKeys) messages).1 message
        (Transition.run (finishStep sodium) (handshake, outKeys) messages).2 =
      chatCryptoHandshakeFinish sodium ((stageAt sodium handshake messages).object handshake)
        message (Transition.run (finishStep sodium) (handshake, outKeys) messages).2 := by
  rw [run_object hopened]

section Results

variable (hopened : Opened handshake) (before : List (Bytes 96)) (message : Bytes 96)
include hopened

theorem returned_ok_iff :
    returned sodium handshake outKeys before message = .ok () ↔
      stageAt sodium handshake before ≠ .finished ∧
        signedFor sodium handshake message = true ∧
        (keysFrom sodium handshake ((stageAt sodium handshake before).secret handshake)
          message).isSome = true := by
  unfold returned finishResult
  rw [finish_run hopened, finish_stage hopened]
  generalize stageAt sodium handshake before = stage
  by_cases hfinished : stage = .finished
  · simp [hfinished]
  · cases hsigned : signedFor sodium handshake message with
    | false => simp [hfinished]
    | true =>
        cases hkeys : keysFrom sodium handshake (stage.secret handshake) message <;>
          simp [hfinished]

theorem returned_sodium_iff :
    returned sodium handshake outKeys before message = .error .sodium ↔
      stageAt sodium handshake before ≠ .finished ∧
        signedFor sodium handshake message = true ∧
        keysFrom sodium handshake ((stageAt sodium handshake before).secret handshake)
          message = none := by
  unfold returned finishResult
  rw [finish_run hopened, finish_stage hopened]
  generalize stageAt sodium handshake before = stage
  by_cases hfinished : stage = .finished
  · simp [hfinished]
  · cases hsigned : signedFor sodium handshake message with
    | false => simp [hfinished]
    | true =>
        cases hkeys : keysFrom sodium handshake (stage.secret handshake) message <;>
          simp [hfinished]

/-- A success hands out the keys that its stage yields. -/
theorem keys_of_ok (hok : returned sodium handshake outKeys before message = .ok ()) :
    keysFrom sodium handshake ((stageAt sodium handshake before).secret handshake) message =
      some (Transition.run (finishStep sodium) (handshake, outKeys)
        (before ++ [message])).2 := by
  obtain ⟨hfinished, hsigned, hkeys⟩ := (returned_ok_iff hopened before message).mp hok
  rw [Transition.run_append]
  simp only [Transition.run_cons, Transition.run_nil, finishStep, finish_run hopened,
    finish_stage hopened, if_neg hfinished, hsigned, Bool.true_eq_false, if_false]
  obtain ⟨keys, hsome⟩ := Option.isSome_iff_exists.mp hkeys
  rw [hsome]

end Results

/-- A refused message changes neither the handshake nor the keys. -/
theorem finishStep_of_refused {state : ChatCryptoHandshake × ChatCryptoSessionKeys}
    {message : Bytes 96}
    (hrefused : finishResult sodium state message = .error .verify ∨
      finishResult sodium state message = .error .invalid) :
    finishStep sodium state message = state := by
  unfold finishResult chatCryptoHandshakeFinish at hrefused
  unfold finishStep chatCryptoHandshakeFinish
  split at hrefused
  · simp only at hrefused ⊢
    split at hrefused
    · rfl
    · split_ifs at hrefused ⊢
      · rfl
      · split at hrefused <;> simp at hrefused
  · rfl

/-! ## Stages along a run -/

theorem next_unsigned {message : Bytes 96}
    (hunsigned : signedFor sodium handshake message = false) (stage : Stage) :
    stage.next sodium handshake message = stage := if_pos (Or.inr hunsigned)

theorem next_finished (message : Bytes 96) :
    Stage.finished.next sodium handshake message = .finished := if_pos (Or.inl rfl)

theorem next_signed {message : Bytes 96} {stage : Stage} (hstage : stage ≠ .finished)
    (hsigned : signedFor sodium handshake message = true) :
    stage.next sodium handshake message =
      if (keysFrom sodium handshake (stage.secret handshake) message).isSome then .finished
      else .wiped :=
  if_neg (not_or.mpr ⟨hstage, ne_false_of_eq_true hsigned⟩)

theorem next_signed_ne_fresh {message : Bytes 96}
    (hsigned : signedFor sodium handshake message = true) (stage : Stage) :
    stage.next sodium handshake message ≠ .fresh := by
  by_cases hstage : stage = .finished
  · rw [hstage, next_finished]
    exact nofun
  · rw [next_signed hstage hsigned]
    split_ifs <;> exact nofun

/-- Only signed messages touch a fresh handshake. -/
theorem stageAt_fresh_iff (messages : List (Bytes 96)) :
    stageAt sodium handshake messages = .fresh ↔
      ∀ message ∈ messages, signedFor sodium handshake message = false := by
  induction messages using List.reverseRecOn with
  | nil => simp
  | append_singleton messages message ih =>
      rw [stageAt_concat, List.forall_mem_append, List.forall_mem_singleton, ← ih]
      cases hsigned : signedFor sodium handshake message with
      | false => simp [next_unsigned hsigned]
      | true => simp [next_signed_ne_fresh hsigned]

/-- A wiped handshake met a signed message whose derivation failed, behind unsigned
messages only. -/
theorem exists_failure_of_wiped {messages : List (Bytes 96)}
    (hwiped : stageAt sodium handshake messages = .wiped) :
    ∃ before first after, messages = before ++ first :: after ∧
      (∀ message ∈ before, signedFor sodium handshake message = false) ∧
      signedFor sodium handshake first = true ∧
      keysFrom sodium handshake handshake.localKxSk first = none := by
  induction messages using List.reverseRecOn with
  | nil => exact nomatch hwiped
  | append_singleton messages message ih =>
      rw [stageAt_concat] at hwiped
      cases hstage : stageAt sodium handshake messages with
      | wiped =>
          obtain ⟨before, first, after, rfl, hfacts⟩ := ih hstage
          exact ⟨before, first, after ++ [message], by simp, hfacts⟩
      | finished =>
          rw [hstage, next_finished] at hwiped
          exact nomatch hwiped
      | fresh =>
          rw [hstage] at hwiped
          cases hsigned : signedFor sodium handshake message with
          | false =>
              rw [next_unsigned hsigned] at hwiped
              exact nomatch hwiped
          | true =>
              rw [next_signed (by decide) hsigned] at hwiped
              split_ifs at hwiped with hkeys
              exact ⟨messages, message, [], rfl, (stageAt_fresh_iff messages).mp hstage,
                hsigned, Option.not_isSome_iff_eq_none.mp hkeys⟩

theorem stageAt_append (messages later : List (Bytes 96)) :
    stageAt sodium handshake (messages ++ later) =
      Transition.run (Stage.next sodium handshake) (stageAt sodium handshake messages)
        later :=
  Transition.run_append _ _ _ _

/-- A wiped handshake stays so while no derivation from zeros succeeds. -/
theorem run_wiped {messages : List (Bytes 96)}
    (hquiet : ∀ message ∈ messages, ¬ (signedFor sodium handshake message = true ∧
      (keysFrom sodium handshake (zeroBytes 32) message).isSome = true)) :
    Transition.run (Stage.next sodium handshake) .wiped messages = .wiped := by
  induction messages with
  | nil => rfl
  | cons message messages ih =>
      obtain ⟨hmessage, hmessages⟩ := List.forall_mem_cons.mp hquiet
      have hnext : Stage.wiped.next sodium handshake message = .wiped := by
        cases hsigned : signedFor sodium handshake message with
        | false => exact next_unsigned hsigned _
        | true =>
            rw [next_signed (by decide) hsigned]
            exact if_neg fun hkeys => hmessage ⟨hsigned, hkeys⟩
      rw [Transition.run_cons, hnext, ih hmessages]

/-! ## Single use -/

section SingleUse

variable (hopened : Opened handshake) {messages : List (Bytes 96)}
include hopened

/-- Where nothing is revived, only a fresh handshake returns keys. -/
theorem fresh_of_ok (hnone : NoRevival sodium handshake messages)
    {before : List (Bytes 96)} {message : Bytes 96} {after : List (Bytes 96)}
    (hsplit : messages = before ++ message :: after)
    (hok : returned sodium handshake outKeys before message = .ok ()) :
    stageAt sodium handshake before = .fresh := by
  obtain ⟨hopen, hsigned, hkeys⟩ := (returned_ok_iff hopened before message).mp hok
  cases hstage : stageAt sodium handshake before with
  | fresh => rfl
  | finished => exact absurd hstage hopen
  | wiped =>
      obtain ⟨unsigned, first, middle, rfl, hunsigned, hfirst, hfailed⟩ :=
        exists_failure_of_wiped hstage
      rw [hstage] at hkeys
      have hplace : messages = unsigned ++ first :: (middle ++ message :: after) := by
        rw [hsplit]
        simp
      exact absurd ⟨hsigned, hkeys⟩
        (hnone unsigned first middle message after hplace hunsigned hfirst hfailed)

theorem singleUse_of_noRevival (hnone : NoRevival sodium handshake messages) :
    SingleUse sodium handshake outKeys messages where
  once := by
    intro before first middle second after hsplit hfirst hsecond
    have hplace : messages = (before ++ first :: middle) ++ second :: after := by
      rw [hsplit]
      simp
    have hfresh := fresh_of_ok hopened hnone hplace hsecond
    obtain ⟨_, hsigned, _⟩ := (returned_ok_iff hopened before first).mp hfirst
    have hunsigned := (stageAt_fresh_iff _).mp hfresh first (by simp)
    exact absurd (hsigned.symm.trans hunsigned) (by decide)
  ephemeral := by
    intro before message after hsplit hok
    have hfresh := fresh_of_ok hopened hnone hsplit hok
    have hkeys := keys_of_ok hopened before message hok
    rw [hfresh] at hkeys
    rw [run_object hopened, hfresh]
    exact ⟨rfl, hkeys⟩
  refused := by
    intro before message after _ hrefused
    rw [Transition.run_append]
    exact finishStep_of_refused hrefused
  failed := by
    intro before first middle second after hsplit hfirst hsecond
    have hplace : messages = (before ++ first :: middle) ++ second :: after := by
      rw [hsplit]
      simp
    have hfresh := fresh_of_ok hopened hnone hplace hsecond
    obtain ⟨_, hsigned, _⟩ := (returned_sodium_iff hopened before first).mp hfirst
    have hunsigned := (stageAt_fresh_iff _).mp hfresh first (by simp)
    exact absurd (hsigned.symm.trans hunsigned) (by decide)

/-- A revival is a success after a failed derivation. -/
theorem noRevival_of_singleUse (hsingle : SingleUse sodium handshake outKeys messages) :
    NoRevival sodium handshake messages := by
  intro before first middle second after hsplit hunsigned hfirst hfailed hsecond
  -- The first message behind the failure that a wiped secret answers.
  obtain ⟨quiet, message, rest, hmiddle, hmessage, hquiet⟩ :
      ∃ quiet message rest, middle ++ second :: after = quiet ++ message :: rest ∧
        (signedFor sodium handshake message = true ∧
          (keysFrom sodium handshake (zeroBytes 32) message).isSome = true) ∧
        ∀ earlier ∈ quiet, ¬ (signedFor sodium handshake earlier = true ∧
          (keysFrom sodium handshake (zeroBytes 32) earlier).isSome = true) := by
    let answered : Bytes 96 → Bool := fun message =>
      signedFor sodium handshake message &&
        (keysFrom sodium handshake (zeroBytes 32) message).isSome
    have hsome : ((middle ++ second :: after).find? answered).isSome = true := by
      rw [List.find?_isSome]
      exact ⟨second, by simp, by simpa [answered] using hsecond⟩
    obtain ⟨message, hfound⟩ := Option.isSome_iff_exists.mp hsome
    obtain ⟨hmessage, quiet, rest, hmiddle, hquiet⟩ := List.find?_eq_some_iff_append.mp hfound
    refine ⟨quiet, message, rest, hmiddle, by simpa [answered] using hmessage, ?_⟩
    intro earlier hearlier hboth
    have hnot := hquiet earlier hearlier
    simp [answered, hboth] at hnot
  have hstart : stageAt sodium handshake before = .fresh :=
    (stageAt_fresh_iff before).mpr hunsigned
  have hreturned : returned sodium handshake outKeys before first = .error .sodium := by
    rw [returned_sodium_iff hopened, hstart]
    exact ⟨nofun, hfirst, hfailed⟩
  have hwiped : stageAt sodium handshake (before ++ first :: quiet) = .wiped := by
    rw [stageAt_append, hstart, Transition.run_cons, next_signed (by decide) hfirst]
    simp only [Stage.secret, hfailed, Option.isSome_none, Bool.false_eq_true, if_false]
    exact run_wiped hquiet
  have hrevived : returned sodium handshake outKeys (before ++ first :: quiet) message =
      .ok () := by
    rw [returned_ok_iff hopened, hwiped]
    exact ⟨nofun, hmessage⟩
  rw [hmiddle] at hsplit
  exact hsingle.failed before first quiet message rest hsplit hreturned hrevived

end SingleUse

/-- Nothing is revived where no derivation fails. -/
theorem noRevival_of_derives {messages : List (Bytes 96)}
    (hderives : ∀ message ∈ messages, signedFor sodium handshake message = true →
      (keysFrom sodium handshake handshake.localKxSk message).isSome = true) :
    NoRevival sodium handshake messages := by
  intro before first middle second after hsplit _ hsigned hfailed
  have hmem : first ∈ messages := by
    rw [hsplit]
    simp
  have hsome := hderives first hmem hsigned
  rw [hfailed] at hsome
  exact nomatch hsome

end Stages

/-- On a handshake that was opened, the calls of `chat_crypto_handshake_finish` use
it once and with its own secret, exactly when no derivation from a wiped secret
succeeds behind a failed one. -/
theorem handshake_single_use_iff {sodium : Sodium} {before handshake : ChatCryptoHandshake}
    {identity : ChatIdentity} {remotePk : Bytes 32} {role : Option ChatCryptoRole}
    {sessionId : List UInt8} {kxSecretKey : Option (Bytes 32)} {own : Bytes 96}
    (hinit : chatCryptoHandshakeInit sodium before identity remotePk role sessionId
      kxSecretKey = (handshake, .ok own))
    (outKeys : ChatCryptoSessionKeys) (messages : List (Bytes 96)) :
    SingleUse sodium handshake outKeys messages ↔ NoRevival sodium handshake messages :=
  have hopened := opened_of_init hinit
  ⟨noRevival_of_singleUse hopened, singleUse_of_noRevival hopened⟩

end ProntoChat.Crypto

/-! ## A failed derivation -/

namespace ProntoChat.Transparent

open ProntoChat.QuotedText
open ProntoChat.Protocole
open ProntoChat.Crypto

/-- The key exchange refuses a remote key of zeros, as libsodium does, and its keys
show the secret that was used. -/
def refusing : Sodium :=
  { sodium with
    kxClientSessionKeys := fun _ ownSk remotePk =>
      if remotePk = zeroBytes 32 then none else some (ownSk, remotePk)
    kxServerSessionKeys := fun _ ownSk remotePk =>
      if remotePk = zeroBytes 32 then none else some (remotePk, ownSk) }

/-- The handshake of alex with nathan. -/
def alexHandshake : ChatCryptoHandshake × Except ChatCryptoError (Bytes 96) :=
  chatCryptoHandshakeInit refusing {} (identity (bytes "alex") 1) (repeated 32 2)
    (some .initiator) (bytes "5e55") (some (repeated 32 3))

/-- A message that nathan signed for a key. -/
def nathanMessage (kxPk : Bytes 32) : Bytes 96 :=
  handshakeMessage kxPk (refusing.signDetached
    (transcriptDigest refusing .responder (repeated 32 2) (repeated 32 1) (bytes "5e55") kxPk)
    (repeated 64 2))

/-- A good message behind a bad one is accepted. -/
theorem handshake_single_use_iff_alex :
    ∃ own, alexHandshake = (alexHandshake.1, .ok own) ∧
      SingleUse refusing alexHandshake.1 {}
        [repeated 96 9, nathanMessage (repeated 32 4), nathanMessage (repeated 32 5)] := by
  obtain ⟨own, hown⟩ : ∃ own, alexHandshake.2 = .ok own := ⟨_, rfl⟩
  have hinit : alexHandshake = (alexHandshake.1, .ok own) := by rw [← hown]
  have hderives : signedFor refusing alexHandshake.1 (repeated 96 9) = false ∧
      (keysFrom refusing alexHandshake.1 alexHandshake.1.localKxSk
        (nathanMessage (repeated 32 4))).isSome = true ∧
      (keysFrom refusing alexHandshake.1 alexHandshake.1.localKxSk
        (nathanMessage (repeated 32 5))).isSome = true := by
    decide +kernel
  have hsingle := fun messages => (handshake_single_use_iff hinit {} messages).mpr
  refine ⟨own, hinit, hsingle _ (noRevival_of_derives ?_)⟩
  generalize nathanMessage (repeated 32 4) = good at hderives ⊢
  generalize nathanMessage (repeated 32 5) = other at hderives ⊢
  generalize repeated 96 9 = bad at hderives ⊢
  generalize alexHandshake.1 = handshake at hderives ⊢
  obtain ⟨hbad, hgood, hother⟩ := hderives
  simp [hbad, hgood, hother]

/-- Behind a key of zeros, for which the derivation fails, the next message of nathan
is answered with keys from a secret of zeros. -/
theorem wiped_secret_used :
    (∃ own, alexHandshake.2 = .ok own) ∧
      alexHandshake.1.localKxSk = repeated 32 3 ∧
      returned refusing alexHandshake.1 {} [] (nathanMessage (zeroBytes 32)) =
        .error .sodium ∧
      returned refusing alexHandshake.1 {} [nathanMessage (zeroBytes 32)]
        (nathanMessage (repeated 32 4)) = .ok () ∧
      (Transition.run (finishStep refusing) (alexHandshake.1, {})
        [nathanMessage (zeroBytes 32), nathanMessage (repeated 32 4)]).2 =
          ⟨zeroBytes 32, repeated 32 4⟩ ∧
      ¬ SingleUse refusing alexHandshake.1 {}
        [nathanMessage (zeroBytes 32), nathanMessage (repeated 32 4)] := by
  have hrun : alexHandshake.1.localKxSk = repeated 32 3 ∧
      returned refusing alexHandshake.1 {} [] (nathanMessage (zeroBytes 32)) =
        .error .sodium ∧
      returned refusing alexHandshake.1 {} [nathanMessage (zeroBytes 32)]
        (nathanMessage (repeated 32 4)) = .ok () ∧
      (Transition.run (finishStep refusing) (alexHandshake.1, {})
        [nathanMessage (zeroBytes 32), nathanMessage (repeated 32 4)]).2 =
          ⟨zeroBytes 32, repeated 32 4⟩ := by
    decide +kernel
  obtain ⟨hsecret, hfailed, hok, hkeys⟩ := hrun
  refine ⟨⟨_, rfl⟩, hsecret, hfailed, hok, hkeys, fun hsingle => ?_⟩
  exact hsingle.failed [] _ [] _ [] rfl hfailed hok

end ProntoChat.Transparent
