import ProntoChat.Core.Transition
import ProntoChat.Daemon.Scenario
import ProntoChat.Daemon.Texts

/-!
# Texts that cannot be sent

A text is encrypted before its packet is sized and handed to libnice, so a
failure behind the encryption leaves the push stream one message ahead of the
peer.  As long as every text is refused before or sent, the peer reads exactly
the texts whose sending succeeded.
-/

namespace ProntoChat.Daemon

open ProntoChat.QuotedText
open ProntoChat.Protocole
open ProntoChat.Crypto

/-- The packet of the text is small enough, the connection is up, and libnice
takes the packet. -/
structure Transmits (env : Env) (state : ChatdState) (text : Str) : Prop where
  fits : text.length ≤ 4073
  ready : state.session.ice.ready = true
  agent : state.session.ice.agent = true
  taken : env.iceSend (state.log.length + 1) = true

/-- A text that is encrypted is sent. -/
def StaysInStep (env : Env) (state : ChatdState) (text : Str) : Prop :=
  chatTextIsValid text = true → CanEncrypt state → Transmits env state text

instance (env : Env) (state : ChatdState) (text : Str) :
    Decidable (Transmits env state text) :=
  decidable_of_iff (text.length ≤ 4073 ∧ state.session.ice.ready = true ∧
      state.session.ice.agent = true ∧ env.iceSend (state.log.length + 1) = true)
    ⟨fun hall => ⟨hall.1, hall.2.1, hall.2.2.1, hall.2.2.2⟩,
      fun hsent => ⟨hsent.fits, hsent.ready, hsent.agent, hsent.taken⟩⟩

instance (env : Env) (state : ChatdState) (text : Str) :
    Decidable (StaysInStep env state text) :=
  inferInstanceAs (Decidable (_ → _ → _))

section Message

variable {sodium : Sodium} {env : Env} {state : ChatdState} {text : Str}

/-- A text is refused before it is encrypted, or its packet is handed over. -/
theorem sendEncryptedChatMessage_cases :
    sendEncryptedChatMessage sodium env state text = (state, false) ∧
        ¬ (chatTextIsValid text = true ∧ CanEncrypt state) ∨
      (chatTextIsValid text = true ∧ CanEncrypt state) ∧
        sendEncryptedChatMessage sodium env state text =
          sendIcePacket env
            (state.encrypted .message text (advancedStream sodium state text false))
            .message (ciphertext sodium state text false) := by
  by_cases hvalid : chatTextIsValid text = true
  · rw [sendEncryptedChatMessage, if_neg (by simp [hvalid])]
    by_cases hencrypts : CanEncrypt state
    · have hlength := ((chatTextIsValid_iff text).mp hvalid).2.1
      have hmax : chatdChatTextMax = 4081 := rfl
      have hbytes : Sodium.streamABytes = 17 := rfl
      have hmessage : chatMaxMessageSize = 65536 := rfl
      exact Or.inr ⟨⟨hvalid, hencrypts⟩,
        sendEncryptedChatPayload_encrypts sodium env hencrypts .message (by omega) false⟩
    · refine Or.inl ⟨?_, fun hboth => hencrypts hboth.2⟩
      rw [sendEncryptedChatPayload]
      split_ifs with hclosed
      · rfl
      · simp only [not_or, not_and_or, not_not, Bool.not_eq_false] at hclosed
        have hpush : state.session.cryptoStream.pushInitialized = false := by
          rw [← Bool.not_eq_true]
          exact fun hpush => hencrypts ⟨hclosed.1, hclosed.2.1, hpush⟩
        simp [chatCryptoSecretstreamEncrypt, hpush]
  · rw [sendEncryptedChatMessage, if_pos (by simpa using hvalid)]
    exact Or.inl ⟨rfl, fun hboth => hvalid hboth.1⟩

theorem transmits_iff (hstream : sodium.StreamCorrect) :
    (sendIcePacket env
      (state.encrypted .message text (advancedStream sodium state text false))
      .message (ciphertext sodium state text false)).2 = true ↔
        Transmits env state text := by
  have hlength : (ciphertext sodium state text false).length =
      text.length + Sodium.streamABytes := hstream.length_push _ _ _
  have hheader : chatPacketHeaderSize = 6 := rfl
  have hbytes : Sodium.streamABytes = 17 := rfl
  have hpacket : chatdIcePacketMax = 4096 := rfl
  have hlog : (state.encrypted .message text
      (advancedStream sodium state text false)).log.length = state.log.length + 1 :=
    List.length_append
  rw [sendIcePacket_iff, hlength, hlog]
  constructor
  · rintro ⟨hfits, hready, hagent, htaken⟩
    exact ⟨by omega, hready, hagent, htaken⟩
  · rintro ⟨hfits, hready, hagent, htaken⟩
    exact ⟨by omega, hready, hagent, htaken⟩

/-- A text that does not get ahead of the peer is refused at once or sent. -/
theorem StaysInStep.cases (hstream : sodium.StreamCorrect)
    (hstays : StaysInStep env state text) :
    sendEncryptedChatMessage sodium env state text = (state, false) ∨
      chatTextIsValid text = true ∧
      sendEncryptedChatMessage sodium env state text =
        ((state.encrypted .message text (advancedStream sodium state text false)).sent
          (chatPacket .message (ciphertext sodium state text false)), true) := by
  rcases sendEncryptedChatMessage_cases with
    ⟨hrefused, _⟩ | ⟨⟨hvalid, hencrypts⟩, hpacket⟩
  · exact Or.inl hrefused
  · have hsent := (transmits_iff hstream).mpr (hstays hvalid hencrypts)
    refine Or.inr ⟨hvalid, hpacket.trans ?_⟩
    rcases sendIcePacket_cases rfl with hcase | hcase | hcase
    · rw [hcase] at hsent
      exact nomatch hsent
    · rw [hcase] at hsent
      exact nomatch hsent
    · exact hcase

/-- A failed call leaves the push stream alone exactly when it failed before the
text was encrypted. -/
theorem push_unchanged_iff (hstream : sodium.StreamCorrect)
    (hmoves : sodium.StreamMoves) :
    ((sendEncryptedChatMessage sodium env state text).2 = false →
      (sendEncryptedChatMessage sodium env state text).1.session.cryptoStream.push =
        state.session.cryptoStream.push) ↔ StaysInStep env state text := by
  constructor
  · intro hatomic hvalid hencrypts
    by_contra hstuck
    rcases sendEncryptedChatMessage_cases with ⟨_, hclosed⟩ | ⟨_, hpacket⟩
    · exact hclosed ⟨hvalid, hencrypts⟩
    · have hfailed := mt (transmits_iff hstream).mp hstuck
      rw [Bool.not_eq_true] at hfailed
      have hpush := hatomic (by rw [hpacket]; exact hfailed)
      rw [hpacket] at hpush
      refine hmoves state.session.cryptoStream.push text (Eq.trans ?_ hpush)
      rcases sendIcePacket_cases rfl with hcase | hcase | hcase <;> rw [hcase] <;> rfl
  · intro hstays hfailed
    rcases hstays.cases hstream with hrefused | ⟨_, hsent⟩
    · rw [hrefused]
    · rw [hsent] at hfailed
      exact nomatch hfailed

end Message

/-! ## Sequences of texts -/

/-- One call of `send_encrypted_chat_message`. -/
def sendStep (sodium : Sodium) (state : ChatdState) (call : Env × Str) : ChatdState :=
  (sendEncryptedChatMessage sodium call.1 state call.2).1

/-- The texts whose sending succeeds. -/
def sentTexts (sodium : Sodium) : ChatdState → List (Env × Str) → List Str
  | _, [] => []
  | state, call :: calls =>
      let rest := sentTexts sodium (sendStep sodium state call) calls
      if (sendEncryptedChatMessage sodium call.1 state call.2).2 then call.2 :: rest
      else rest

/-- The texts that a peer reads from packets that arrive in order. -/
def readTexts (sodium : Sodium) :
    ChatCryptoSecretstream → List (List UInt8) → Option (List Str)
  | _, [] => some []
  | stream, packet :: packets =>
      match chatCryptoSecretstreamDecrypt sodium stream
          (packet.drop chatPacketHeaderSize) chatMaxMessageSize with
      | .error _ => none
      | .ok (text, _, next) => (readTexts sodium next packets).map (text :: ·)

/-- The peer of the push stream reads the next packet. -/
theorem decrypt_ciphertext {sodium : Sodium} (hstream : sodium.StreamCorrect)
    {state : ChatdState} {text : Str} (hvalid : chatTextIsValid text = true)
    {stream : ChatCryptoSecretstream} (hopen : stream.pullInitialized = true)
    (hpull : stream.pull = state.session.cryptoStream.push) :
    chatCryptoSecretstreamDecrypt sodium stream (ciphertext sodium state text false)
        chatMaxMessageSize =
      .ok (text, Sodium.tagMessage,
        { stream with pull := (advancedStream sodium state text false).push }) := by
  have hlength : (ciphertext sodium state text false).length =
      text.length + Sodium.streamABytes := hstream.length_push _ _ _
  have hshort := ((chatTextIsValid_iff text).mp hvalid).2.1
  have hmax : chatdChatTextMax = 4081 := rfl
  have hmessage : chatMaxMessageSize = 65536 := rfl
  have hpulled : sodium.secretstreamPull stream.pull (ciphertext sodium state text false) =
      some (text, Sodium.tagMessage, (advancedStream sodium state text false).push) := by
    rw [hpull]
    exact hstream.pull_push _ _ _
  rw [chatCryptoSecretstreamDecrypt, if_neg (by simp [hopen, hlength]),
    if_neg (by omega), hpulled]

/-- The peer reads the texts whose sending succeeded, if no other one got ahead
of it. -/
theorem readTexts_run {sodium : Sodium} (hstream : sodium.StreamCorrect)
    {calls : List (Env × Str)} {state : ChatdState}
    (hguard : Transition.Guarded (sendStep sodium)
      (fun state call => StaysInStep call.1 state call.2) state calls)
    {stream : ChatCryptoSecretstream} (hopen : stream.pullInitialized = true)
    (hpull : stream.pull = state.session.cryptoStream.push) :
    ∃ packets,
      (Transition.run (sendStep sodium) state calls).datagrams =
        state.datagrams ++ packets ∧
      readTexts sodium stream packets = some (sentTexts sodium state calls) := by
  induction calls generalizing state stream with
  | nil => exact ⟨[], (List.append_nil _).symm, rfl⟩
  | cons call calls ih =>
      obtain ⟨hcall, hcalls⟩ := hguard
      rcases hcall.cases hstream with hrefused | ⟨hvalid, hsent⟩
      · have hstep : sendStep sodium state call = state := congrArg Prod.fst hrefused
        have hnone : sentTexts sodium state (call :: calls) =
            sentTexts sodium state calls := by
          simp [sentTexts, hrefused, hstep]
        rw [hstep] at hcalls
        rw [Transition.run_cons, hstep, hnone]
        exact ih hcalls hopen hpull
      · -- the packet goes out, and the peer follows the push stream
        have hstep : sendStep sodium state call = _ := congrArg Prod.fst hsent
        have hnext : (advancedStream sodium state call.2 false).push =
            (sendStep sodium state call).session.cryptoStream.push := by
          rw [hstep]
          rfl
        have hopen' : { stream with
            pull := (advancedStream sodium state call.2 false).push }.pullInitialized =
              true := hopen
        obtain ⟨packets, hpackets, hread⟩ := ih hcalls hopen' hnext
        refine ⟨chatPacket .message (ciphertext sodium state call.2 false) :: packets,
          ?_, ?_⟩
        · rw [Transition.run_cons, hpackets, hstep]
          simp [ChatdState.sent, ChatdState.encrypted, ChatdState.emit,
            ChatdState.setSession]
        · simp only [readTexts, drop_chatPacket,
            decrypt_ciphertext hstream hvalid hopen hpull, hread, sentTexts, hsent,
            if_true, Option.map_some]

/-- A failed call leaves the push stream as it was exactly when it fails before
the text is encrypted or does not fail, and as long as this is so, the peer that
got all packets reads every text whose sending succeeded. -/
theorem send_failure_atomic {sodium : Sodium} (hstream : sodium.StreamCorrect)
    (hmoves : sodium.StreamMoves) :
    (∀ env state text,
      ((sendEncryptedChatMessage sodium env state text).2 = false →
        (sendEncryptedChatMessage sodium env state text).1.session.cryptoStream.push =
          state.session.cryptoStream.push) ↔ StaysInStep env state text) ∧
    ∀ (state : ChatdState) (calls : List (Env × Str)) (stream : ChatCryptoSecretstream),
      Transition.Guarded (sendStep sodium)
        (fun state call => StaysInStep call.1 state call.2) state calls →
      stream.pullInitialized = true →
      stream.pull = state.session.cryptoStream.push →
      ∃ packets,
        (Transition.run (sendStep sodium) state calls).datagrams =
          state.datagrams ++ packets ∧
        readTexts sodium stream packets = some (sentTexts sodium state calls) :=
  ⟨fun _ _ _ => push_unchanged_iff hstream hmoves,
    fun _ _ _ hguard hopen hpull => readTexts_run hstream hguard hopen hpull⟩

/-- The side of a peer that got every packet so far. -/
def peerStream (state : ChatdState) : ChatCryptoSecretstream where
  pull := state.session.cryptoStream.push
  pullInitialized := true

theorem pull_peerStream (state : ChatdState) :
    (peerStream state).pull = state.session.cryptoStream.push := rfl

/-- Bob in a secure session with Alice. -/
def bobWithAlice : ChatdState :=
  Transition.run (chatdStep Transparent.sodium) (initialState bob none)
    (smoothly 2 aliceCallsBob)

/-- Bob sends a text, one that is refused, and another one. -/
def bobTexts : List (Env × Str) :=
  [(Env.smooth 1 2, bytes "hello"), (Env.smooth 1 2, []),
    (Env.smooth 1 2, bytes "again")]

theorem send_failure_atomic_bob :
    ∃ packets,
      (Transition.run (sendStep Transparent.sodium) bobWithAlice bobTexts).datagrams =
        bobWithAlice.datagrams ++ packets ∧
      readTexts Transparent.sodium (peerStream bobWithAlice) packets =
        some [bytes "hello", bytes "again"] := by
  have hrun : Transition.Guarded (sendStep Transparent.sodium)
      (fun state call => StaysInStep call.1 state call.2) bobWithAlice bobTexts ∧
      sentTexts Transparent.sodium bobWithAlice bobTexts =
        [bytes "hello", bytes "again"] := by
    decide +kernel
  rw [← hrun.2]
  exact (send_failure_atomic Transparent.streamCorrect Transparent.streamMoves).2
    bobWithAlice bobTexts (peerStream bobWithAlice) hrun.1 rfl
    (pull_peerStream bobWithAlice)

/-- libnice does not take Bob's first text, and the call fails.  The push stream
has moved, and Alice cannot read the next text, whose sending succeeds. -/
theorem lost_text_breaks_stream :
    let lost := sendEncryptedChatMessage Transparent.sodium
      { Env.smooth 1 2 with iceSend := fun _ => false } bobWithAlice (bytes "lost")
    let next := sendEncryptedChatMessage Transparent.sodium (Env.smooth 1 2) lost.1
      (bytes "next")
    lost.2 = false ∧
      lost.1.session.cryptoStream.push ≠ bobWithAlice.session.cryptoStream.push ∧
      next.2 = true ∧
      readTexts Transparent.sodium (peerStream bobWithAlice)
        (next.1.datagrams.drop bobWithAlice.datagrams.length) = none := by
  decide +kernel

end ProntoChat.Daemon
