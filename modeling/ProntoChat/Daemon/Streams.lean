import ProntoChat.Core.OrderedStream
import ProntoChat.Core.Transition
import ProntoChat.Daemon.Channel
import ProntoChat.Daemon.Refinement

/-!
# The two streams of a session

A session encrypts its payloads as consecutive pushes on one stream, and the
payloads it accepts are consecutive pulls on another.  A packet that is refused
ends the session.
-/

namespace ProntoChat.Daemon

open ProntoChat.QuotedText
open ProntoChat.Protocole
open ProntoChat.Crypto
open ProntoChat.Ice
open ProntoChat.OrderedStream

def pushPayload (sodium : Sodium) (state : Bytes 52) (payload : Payload) :
    List UInt8 × Bytes 52 :=
  sodium.secretstreamPush state payload.1 payload.2

def pullPayload (sodium : Sodium) (state : Bytes 52) (ciphertext : List UInt8) :
    Option (Payload × Bytes 52) :=
  (sodium.secretstreamPull state ciphertext).map fun pulled =>
    ((pulled.1, pulled.2.1), pulled.2.2)

/-- The payloads were read one after the other from a stream under the key. -/
def Received (sodium : Sodium) (key : Bytes 32) (payloads : List Payload)
    (pull : Bytes 52) : Prop :=
  ∃ header start, sodium.secretstreamInitPull header key = some start ∧
    Pulled (pullPayload sodium) start payloads pull

theorem Received.snoc {sodium : Sodium} {key : Bytes 32}
    {payloads : List Payload} {pull next : Bytes 52} {ciphertext text : List UInt8}
    {tag : UInt8} (hreceived : Received sodium key payloads pull)
    (hpull : sodium.secretstreamPull pull ciphertext = some (text, tag, next)) :
    Received sodium key (payloads ++ [(text, tag)]) next := by
  obtain ⟨header, start, hstart, hpulled⟩ := hreceived
  have hnext : pullPayload sodium pull ciphertext = some ((text, tag), next) := by
    rw [pullPayload, hpull]
    rfl
  exact ⟨header, start, hstart, hpulled.snoc hnext⟩

/-! ## The invariant -/

/-- The accepted payloads that end a session. -/
def Tally.closes (tally : Tally) : ℕ :=
  tally.accepted.countP (·.2 = Sodium.tagFinal)

/-- Nothing was decrypted behind a refused packet, every `CHAT_CLOSED` line has
its accepted close, and the accepted payloads were read from one stream. -/
structure Tally.Sound (sodium : Sodium) (tally : Tally) : Prop where
  prompt : tally.late = false
  closed : tally.closedLines ≤ tally.closes
  received : tally.accepted ≠ [] → ∃ keys pull, tally.keys = some keys ∧
    Received sodium keys.rx tally.accepted pull

/-- The channel is where its history has brought it. -/
structure Channel.Follows (sodium : Sodium) (channel : Channel) (tally : Tally) :
    Prop where
  unkeyed : channel.keysReady = false → channel.headerSent = false ∧
    channel.headerReceived = false ∧ channel.ready = false
  keyed : channel.keysReady = true →
    tally.keys = some channel.keys ∧ tally.refused = false
  unsent : channel.keysReady = true → channel.headerSent = false →
    tally.encrypted = []
  sent : channel.headerSent = true → channel.stream.push =
    pushed (pushPayload sodium)
      (sodium.secretstreamInitPush channel.localHeader channel.keys.tx)
      tally.encrypted
  unopened : channel.keysReady = true → channel.headerReceived = false →
    tally.accepted = []
  opened : channel.headerReceived = true →
    Received sodium channel.keys.rx tally.accepted channel.stream.pull
  ready : channel.ready = true →
    channel.headerSent = true ∧ channel.headerReceived = true

structure Chat.Sound (sodium : Sodium) (chat : Chat) : Prop where
  settled : chat.tally.pending = none
  tally : chat.tally.Sound sodium
  follows : chat.channel.Follows sodium chat.tally

variable {sodium : Sodium}

theorem Channel.follows_default (tally : Tally) :
    ({} : Channel).Follows sodium tally where
  unkeyed := fun _ => ⟨rfl, rfl, rfl⟩
  keyed := nofun
  unsent := nofun
  sent := nofun
  unopened := nofun
  opened := nofun
  ready := nofun

theorem Chat.Sound.stopped {chat : Chat} (hsound : chat.Sound sodium) :
    chat.stopped.Sound sodium where
  settled := hsound.settled
  tally := hsound.tally
  follows := Channel.follows_default _

theorem Channel.Follows.keysReady {channel : Channel} {tally : Tally}
    (hfollows : channel.Follows sodium tally)
    (hflag : channel.headerSent = true ∨ channel.headerReceived = true) :
    channel.keysReady = true := by
  by_contra hkeys
  obtain ⟨hsent, hreceived, _⟩ := hfollows.unkeyed (by simpa using hkeys)
  rcases hflag with hflag | hflag
  · exact absurd (hsent.symm.trans hflag) Bool.false_ne_true
  · exact absurd (hreceived.symm.trans hflag) Bool.false_ne_true

theorem Idle.sound {state next : ChatdState} (hidle : Idle state next)
    (hsound : state.chat.Sound sodium) : next.chat.Sound sodium := by
  rcases hidle with hchat | hchat
  · exact hchat ▸ hsound
  · exact hchat ▸ hsound.stopped

/-! ## Sending -/

/-- A call that succeeds keeps the invariant; when it fails the channel is
about to be discarded. -/
def Handled (sodium : Sodium) (outcome : Outcome) : Prop :=
  if outcome.2 then outcome.1.chat.Sound sodium
  else outcome.1.chat.stopped.Sound sodium

/-- The next payload of a ready channel is the next push on its stream. -/
theorem Chat.Sound.encrypt {chat : Chat} {type : ChatPacketType}
    {plaintext ciphertext : List UInt8} {push : Bytes 52} {opened : Option Str}
    {peer : Str} (hsound : chat.Sound sodium) (hready : chat.channel.ready = true)
    (hpush : sodium.secretstreamPush chat.channel.stream.push plaintext
      (streamTag type) = (ciphertext, push)) :
    (Chat.add { chat with channel :=
        { chat.channel with stream := { chat.channel.stream with push } } }
      (.encrypted opened peer type plaintext)).Sound sodium where
  settled := hsound.settled
  tally := { hsound.tally with }
  follows :=
    { hsound.follows with
      unsent := fun _ hunsent => by
        have hsent := (hsound.follows.ready hready).1
        exact absurd (hunsent.symm.trans hsent) Bool.false_ne_true
      sent := fun hsent => by
        have hstream := hsound.follows.sent hsent
        simp only [Chat.add, Tally.add, pushed_concat]
        rw [← hstream, pushPayload, hpush] }

/-- A packet that carried no payload was handled. -/
theorem Chat.Sound.handle {chat : Chat} (hsound : chat.Sound sodium) :
    (chat.add (.packetHandled true)).Sound sodium := by
  have hsame : chat.add (.packetHandled true) = chat := by
    obtain ⟨channel, keys, encrypted, pending, accepted, _, _, _⟩ := chat
    obtain rfl : pending = none := hsound.settled
    simp [Chat.add, Tally.add]
  rw [hsame]
  exact hsound

/-- A refused packet ends the session. -/
theorem Tally.Sound.refuse {chat : Chat} (htally : chat.tally.Sound sodium) :
    (chat.add (.packetHandled false)).stopped.Sound sodium where
  settled := rfl
  tally := { htally with }
  follows := Channel.follows_default _

/-- The history behind an accepted payload and some `CHAT_CLOSED` lines. -/
def Tally.accept (tally : Tally) (payload : Payload) (lines : ℕ) : Tally :=
  { tally with
    accepted := tally.accepted ++ [payload]
    closedLines := tally.closedLines + lines }

/-- A decrypted payload is the next pull on the stream. -/
theorem Chat.Sound.accept {chat : Chat} {ciphertext text : List UInt8}
    {tag : UInt8} {pull : Bytes 52} {lines : ℕ} (hsound : chat.Sound sodium)
    (hready : chat.channel.ready = true)
    (hpull : sodium.secretstreamPull chat.channel.stream.pull ciphertext =
      some (text, tag, pull))
    (hlines : lines ≤ if tag = Sodium.tagFinal then 1 else 0) :
    (chat.tally.accept (text, tag) lines).Sound sodium ∧
      Received sodium chat.channel.keys.rx
        (chat.tally.accepted ++ [(text, tag)]) pull := by
  have hopened := (hsound.follows.ready hready).2
  have hkeys := hsound.follows.keysReady (Or.inr hopened)
  have hreceived := (hsound.follows.opened hopened).snoc hpull
  refine ⟨⟨hsound.tally.prompt, ?_, fun _ =>
    ⟨_, _, (hsound.follows.keyed hkeys).1, hreceived⟩⟩, hreceived⟩
  have hclosed := hsound.tally.closed
  simp only [Tally.accept, Tally.closes, List.countP_append, List.countP_singleton,
    decide_eq_true_eq] at hclosed ⊢
  omega

/-- The outcome of an attempt: the channel of a failed session is about to be
discarded. -/
def Attempted (sodium : Sodium) : Except ChatdState ChatdState → Prop
  | .ok state => state.chat.Sound sodium
  | .error state => state.chat.stopped.Sound sodium

end ProntoChat.Daemon
