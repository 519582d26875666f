import ProntoChat.Daemon.Scenario
import ProntoChat.Daemon.Streams

/-!
# Ordered delivery

Two daemons share the key of one direction of a session.  The network may
drop, repeat, reorder, change and invent packets: the events of the receiver's
run are arbitrary.  With an ideal stream it still accepts a beginning of what
the sender encrypted, and nothing after the first refused packet.
-/

namespace ProntoChat.Daemon

open ProntoChat.QuotedText
open ProntoChat.Protocole
open ProntoChat.Json
open ProntoChat.Contacts
open ProntoChat.Crypto
open ProntoChat.OrderedStream

/-- An ideal stream under a key: behind `n` payloads only the next push of the
stream is accepted, and a stream that was opened with another header accepts
nothing. -/
structure IdealStream (sodium : Sodium) (key : Bytes 32) (header : Bytes 24)
    (payloads : List Payload) : Prop where
  opens : ∀ start, sodium.secretstreamInitPull header key = some start →
    start = sodium.secretstreamInitPush header key
  ideal : Ideal (pushPayload sodium) (pullPayload sodium)
    (sodium.secretstreamInitPush header key) payloads
  foreign : ∀ other start, other ≠ header →
    sodium.secretstreamInitPull other key = some start →
    ∀ ciphertext, sodium.secretstreamPull start ciphertext = none

/-- Whatever was received under the key is a beginning of the payloads. -/
theorem IdealStream.received {sodium : Sodium} {key : Bytes 32}
    {header : Bytes 24} {payloads got : List Payload} {pull : Bytes 52}
    (hideal : IdealStream sodium key header payloads)
    (hreceived : Received sodium key got pull) : got <+: payloads := by
  obtain ⟨other, start, hstart, hpulled⟩ := hreceived
  by_cases hheader : other = header
  · subst hheader
    obtain rfl := hideal.opens start hstart
    exact (hideal.ideal.pulled_prefix hpulled).1
  · have hclosed (ciphertext : List UInt8) :
        pullPayload sodium start ciphertext = none := by
      rw [pullPayload, hideal.foreign other start hheader hstart]
      rfl
    rw [(hpulled.eq_nil hclosed).1]
    exact List.nil_prefix

/-! ## Reading the log -/

/-- The handshake of a new session was accepted. -/
def Effect.startsSession : Effect → Bool
  | .handshakeAccepted .. => true
  | _ => false

variable {sodium : Sodium} {state : ChatdState} {before after : List Effect}

/-- Two daemons share an ideal stream: what the first encrypts in its session
goes over the stream under the key with which the second decrypts. -/
structure SharedStream (sodium : Sodium) (sender receiver : ChatdState)
    (key : Bytes 32) (header : Bytes 24) : Prop where
  sends : ∃ keys, sender.chat.tally.keys = some keys ∧ keys.tx = key
  reads : ∃ keys, receiver.chat.tally.keys = some keys ∧ keys.rx = key
  opened : sender.session.cryptoStreamHeaderSent = true →
    sender.session.cryptoLocalStreamHeader = header
  ideal : IdealStream sodium key header sender.chat.tally.encrypted

theorem SharedStream.accepted {sender receiver : ChatdState} {key : Bytes 32}
    {header : Bytes 24} (hshared : SharedStream sodium sender receiver key header)
    (hsound : receiver.chat.Sound sodium) :
    receiver.chat.tally.accepted <+: sender.chat.tally.encrypted := by
  by_cases hnone : receiver.chat.tally.accepted = []
  · rw [hnone]
    exact List.nil_prefix
  · obtain ⟨keys, pull, hkeys, hreceived⟩ := hsound.tally.received hnone
    obtain ⟨reads, hreads, rfl⟩ := hshared.reads
    obtain rfl := Option.some.inj (hreads.symm.trans hkeys)
    exact hshared.ideal.received hreceived

/-- Alice's stream in its first state. -/
def greetingStart : Bytes 52 :=
  Transparent.openStream (Transparent.repeated 24 1) (Transparent.repeated 32 1)

def greeting : List UInt8 :=
  (Transparent.push greetingStart (bytes "hello") Sodium.tagMessage).1

/-- A libsodium in which a stream under Alice's key accepts nothing but her
greeting. -/
def greetingOnly : Sodium :=
  { Transparent.sodium with
    secretstreamInitPull := fun header key =>
      if key = Transparent.repeated 32 1 ∧ header ≠ Transparent.repeated 24 1 then
        none
      else some (Transparent.openStream header key)
    secretstreamPull := fun state ciphertext =>
      if state = greetingStart ∧ ciphertext = greeting then
        some (bytes "hello", Sodium.tagMessage, Transparent.advance greetingStart)
      else none }

/-- The identifier of the session that Alice asks for. -/
def greetingId : Str := sodiumBin2hex (Transparent.repeated 16 1)

/-- Alice's daemon: her client opens the session with Bob and sends a text. -/
def aliceGreets : List ChatdEvent :=
  login (Transparent.repeated 32 9) ++ outgoingSession alice bob 7 greetingId ++
    [.ice (.recv (handshakePacket greetingOnly .responder bob alice.publicKey
      greetingId (Transparent.repeated 32 2))), .serviceIce,
    .ice (.recv (chatPacket .streamHeader (Transparent.repeated 24 2).toList)),
    .serviceIce, .activeClient (.data (bytes "SEND_MESSAGE hello\n"))]

end ProntoChat.Daemon
