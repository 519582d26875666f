import ProntoChat.Daemon.Ipc
import ProntoChat.Daemon.Service

/-!
# The channel of a session

A session reads and writes its encrypted payloads through the keys and the two
streams of its channel.  What happened on the channel is read back from the
log: the payloads that were encrypted, and those that were accepted.  Control
messages and commands leave the channel alone or discard it.
-/

namespace ProntoChat.Daemon

open ProntoChat.QuotedText
open ProntoChat.Protocole
open ProntoChat.Json
open ProntoChat.Contacts
open ProntoChat.Crypto
open ProntoChat.Ice

/-- The part of a session that decides what it can encrypt and decrypt. -/
structure Channel where
  keysReady : Bool := false
  keys : ChatCryptoSessionKeys := {}
  stream : ChatCryptoSecretstream := {}
  headerSent : Bool := false
  localHeader : Bytes 24 := zeroBytes 24
  headerReceived : Bool := false
  ready : Bool := false

def ChatdSession.channel (session : ChatdSession) : Channel where
  keysReady := session.cryptoKeysReady
  keys := session.cryptoKeys
  stream := session.cryptoStream
  headerSent := session.cryptoStreamHeaderSent
  localHeader := session.cryptoLocalStreamHeader
  headerReceived := session.cryptoStreamHeaderReceived
  ready := session.encryptedSessionReady

/-- A payload with its tag: a message text, or the final close. -/
abbrev Payload := List UInt8 × UInt8

/-- The tag that belongs to a packet type. -/
def streamTag (type : ChatPacketType) : UInt8 :=
  if type = .close then Sodium.tagFinal else Sodium.tagMessage

/-- What the log tells about the session whose handshake was accepted last. -/
structure Tally where
  keys : Option ChatCryptoSessionKeys := none
  encrypted : List Payload := []
  /-- A payload that was decrypted from the packet being handled. -/
  pending : Option Payload := none
  accepted : List Payload := []
  refused : Bool := false
  /-- A payload was decrypted although an earlier packet was refused. -/
  late : Bool := false
  /-- The number of `CHAT_CLOSED` lines. -/
  closedLines : ℕ := 0
  deriving DecidableEq

def Tally.add (tally : Tally) : Effect → Tally
  | .handshakeAccepted _ _ _ _ keys => { keys := some keys }
  | .encrypted _ _ type plaintext =>
      { tally with
        encrypted := tally.encrypted ++ [(plaintext, streamTag type)] }
  | .decrypted _ _ _ type plaintext =>
      { tally with
        pending := some (plaintext, streamTag type)
        late := tally.late || tally.refused }
  | .packetHandled true =>
      { tally with
        pending := none
        accepted := tally.accepted ++ tally.pending.toList }
  | .packetHandled false => { tally with pending := none, refused := true }
  | .ipcLine _ _ (.chatClosed _) _ =>
      { tally with closedLines := tally.closedLines + 1 }
  | _ => tally

def tallyOf (log : List Effect) : Tally := log.foldl Tally.add {}

/-- A channel and its history. -/
structure Chat where
  channel : Channel := {}
  tally : Tally := {}

def ChatdState.chat (state : ChatdState) : Chat where
  channel := state.session.channel
  tally := tallyOf state.log

/-- The channel was discarded. -/
def Chat.stopped (chat : Chat) : Chat := { chat with channel := {} }

def Chat.add (chat : Chat) (effect : Effect) : Chat :=
  { chat with tally := chat.tally.add effect }

@[simp]
theorem Chat.stopped_stopped (chat : Chat) : chat.stopped.stopped = chat.stopped :=
  rfl

/-! ## Lines and queues -/

/-- A line that says nothing about the channel. -/
def IpcLine.Idle (line : IpcLine) : Prop := ∀ peer, line ≠ .chatClosed peer

/-- The channel is left alone or discarded, and nothing happened on it. -/
def Idle (state next : ChatdState) : Prop :=
  next.chat = state.chat ∨ next.chat = state.chat.stopped

end ProntoChat.Daemon
