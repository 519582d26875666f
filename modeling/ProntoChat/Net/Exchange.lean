import ProntoChat.Core.Transition
import ProntoChat.Daemon.Scenario
import ProntoChat.Net.Port

/-!
# One key exchange per session

The daemon is read as a sequence of calls into the cryptographic layer, each of
which changes the objects of the session in its own way.  Between two resets
every object is made once: the same functions also send the first packet and
its repetitions, and duplicates of the packets of the peer are accepted, so
the flags of the session have to tell these apart.
-/

namespace ProntoChat.Net

open ProntoChat.Protocole
open ProntoChat.Contacts
open ProntoChat.Crypto
open ProntoChat.Ice
open ProntoChat.Daemon

/-- The cryptographic objects of a session, and the datagrams sent so far. -/
structure Exchange where
  handshake : ChatCryptoHandshake := {}
  message : Bytes 96 := zeroBytes 96
  keys : ChatCryptoSessionKeys := {}
  stream : ChatCryptoSecretstream := {}
  header : Bytes 24 := zeroBytes 24
  datagrams : List (List UInt8) := []

def Port.exchange (port : Port) : Exchange where
  handshake := port.session.cryptoHandshake
  message := port.session.cryptoLocalHandshakeMessage
  keys := port.session.cryptoKeys
  stream := port.session.cryptoStream
  header := port.session.cryptoLocalStreamHeader
  datagrams := port.datagrams

/-- A call that matters for the exchange. -/
inductive CryptoCall where
  /-- `reset_ice_session`. -/
  | reset
  /-- `chat_crypto_handshake_init`, with the message that it made. -/
  | handshakeInit (message : Option (Bytes 96))
  /-- `chat_crypto_handshake_finish`. -/
  | handshakeFinish
  /-- `chat_crypto_secretstream_init_push`, with the header that it made. -/
  | initPush (header : Option (Bytes 24))
  /-- `chat_crypto_secretstream_init_pull`. -/
  | initPull
  /-- `chat_crypto_secretstream_encrypt`, successful. -/
  | encrypt
  /-- `chat_crypto_secretstream_decrypt`, successful. -/
  | decrypt
  /-- libnice took a packet. -/
  | send (type : ChatPacketType) (payload : List UInt8)
  deriving DecidableEq

/-- The effect of a call.  Nothing else changes an exchange. -/
inductive Calls (sodium : Sodium) : Exchange → CryptoCall → Exchange → Prop where
  | reset {exchange : Exchange} :
      Calls sodium exchange .reset { datagrams := exchange.datagrams }
  | handshakeInit {exchange : Exchange} {identity : ChatIdentity}
      {remotePk : Bytes 32} {role : Option ChatCryptoRole} {sessionId : Str}
      {kxSecretKey : Option (Bytes 32)} {handshake : ChatCryptoHandshake}
      {message : Bytes 96}
      (hinit : chatCryptoHandshakeInit sodium exchange.handshake identity remotePk
        role sessionId kxSecretKey = (handshake, .ok message)) :
      Calls sodium exchange (.handshakeInit (some message))
        { exchange with handshake, message }
  | handshakeInitFailed {exchange : Exchange} {identity : ChatIdentity}
      {remotePk : Bytes 32} {role : Option ChatCryptoRole} {sessionId : Str}
      {kxSecretKey : Option (Bytes 32)} {handshake : ChatCryptoHandshake}
      {failure : ChatCryptoError}
      (hinit : chatCryptoHandshakeInit sodium exchange.handshake identity remotePk
        role sessionId kxSecretKey = (handshake, .error failure)) :
      Calls sodium exchange (.handshakeInit none) { exchange with handshake }
  | handshakeFinish {exchange : Exchange} {payload : Bytes 96}
      {handshake : ChatCryptoHandshake} {keys : ChatCryptoSessionKeys}
      {result : Except ChatCryptoError Unit}
      (hfinish : chatCryptoHandshakeFinish sodium exchange.handshake payload
        exchange.keys = (handshake, keys, result)) :
      Calls sodium exchange .handshakeFinish { exchange with handshake, keys }
  | initPush {exchange : Exchange} {drawn : Option (Bytes 24)}
      {stream : ChatCryptoSecretstream} {header : Bytes 24}
      (hinit : chatCryptoSecretstreamInitPush sodium exchange.stream
        exchange.keys.tx drawn = .ok (stream, header)) :
      Calls sodium exchange (.initPush (some header))
        { exchange with stream, header }
  | initPushFailed {exchange : Exchange} {drawn : Option (Bytes 24)}
      {failure : ChatCryptoError}
      (hinit : chatCryptoSecretstreamInitPush sodium exchange.stream
        exchange.keys.tx drawn = .error failure) :
      Calls sodium exchange (.initPush none) exchange
  | initPull {exchange : Exchange} {payload : Bytes 24}
      {stream : ChatCryptoSecretstream}
      (hinit : chatCryptoSecretstreamInitPull sodium exchange.stream
        exchange.keys.rx payload = .ok stream) :
      Calls sodium exchange .initPull { exchange with stream }
  | initPullFailed {exchange : Exchange} {payload : Bytes 24}
      {failure : ChatCryptoError}
      (hinit : chatCryptoSecretstreamInitPull sodium exchange.stream
        exchange.keys.rx payload = .error failure) :
      Calls sodium exchange .initPull exchange
  | encrypt {exchange : Exchange} {plaintext ciphertext : List UInt8}
      {final : Bool} {size : ℕ} {stream : ChatCryptoSecretstream}
      (hencrypt : chatCryptoSecretstreamEncrypt sodium exchange.stream plaintext
        final size = .ok (ciphertext, stream)) :
      Calls sodium exchange .encrypt { exchange with stream }
  | decrypt {exchange : Exchange} {plaintext ciphertext : List UInt8}
      {tag : UInt8} {size : ℕ} {stream : ChatCryptoSecretstream}
      (hdecrypt : chatCryptoSecretstreamDecrypt sodium exchange.stream ciphertext
        size = .ok (plaintext, tag, stream)) :
      Calls sodium exchange .decrypt { exchange with stream }
  | send {exchange : Exchange} (type : ChatPacketType) (payload : List UInt8) :
      Calls sodium exchange (.send type payload)
        { exchange with
          datagrams := exchange.datagrams ++ [chatPacket type payload] }

/-- The calls behind the last reset. -/
def sinceReset (trace : List CryptoCall) : List CryptoCall :=
  trace.foldl (fun calls call => if call = .reset then [] else calls ++ [call]) []

/-- What one exchange allows after the calls that were made since the last
reset: every object is made once, a handshake or header packet carries the
object that was made, and the incoming stream is not opened behind a
message. -/
def Allowed (calls : List CryptoCall) : CryptoCall → Prop
  | .handshakeInit _ => ∀ message, .handshakeInit message ∉ calls
  | .handshakeFinish => .handshakeFinish ∉ calls
  | .initPush _ => ∀ header, .initPush header ∉ calls
  | .initPull => .initPull ∉ calls ∧ .decrypt ∉ calls
  | .send .handshake payload => ∃ message : Bytes 96,
      .handshakeInit (some message) ∈ calls ∧ payload = message.toList
  | .send .streamHeader payload => ∃ header : Bytes 24,
      .initPush (some header) ∈ calls ∧ payload = header.toList
  | _ => True

theorem sinceReset_reset (trace : List CryptoCall) :
    sinceReset (trace ++ [.reset]) = [] := by
  simp [sinceReset]

/-! ## Histories -/

/-- The flags of a session and the messages they stand for. -/
structure Milestones where
  handshakeSent : Bool := false
  message : Bytes 96 := zeroBytes 96
  keysReady : Bool := false
  headerSent : Bool := false
  header : Bytes 24 := zeroBytes 24
  headerReceived : Bool := false
  ready : Bool := false

def Port.milestones (port : Port) : Milestones where
  handshakeSent := port.session.cryptoHandshakeSent
  message := port.session.cryptoLocalHandshakeMessage
  keysReady := port.session.cryptoKeysReady
  headerSent := port.session.cryptoStreamHeaderSent
  header := port.session.cryptoLocalStreamHeader
  headerReceived := port.session.cryptoStreamHeaderReceived
  ready := port.session.encryptedSessionReady

/-- The flags tell which calls were made since the last reset. -/
structure Tracks (calls : List CryptoCall) (reached : Milestones) : Prop where
  unsent : reached.handshakeSent = false →
    ∀ message, .handshakeInit message ∉ calls
  sent : reached.handshakeSent = true →
    .handshakeInit (some reached.message) ∈ calls
  underived : reached.keysReady = false → .handshakeFinish ∉ calls
  unopened : reached.headerSent = false → ∀ header, .initPush header ∉ calls
  opened : reached.headerSent = true → .initPush (some reached.header) ∈ calls
  unreceived : reached.headerReceived = false →
    .initPull ∉ calls ∧ .decrypt ∉ calls
  ready : reached.ready = true → reached.headerReceived = true

theorem tracks_nil : Tracks [] {} := by
  constructor <;> simp

section Tracks

variable {calls : List CryptoCall} {reached : Milestones}

theorem Tracks.made (htracks : Tracks calls reached) (message : Bytes 96) :
    Tracks (calls ++ [.handshakeInit (some message)])
      { reached with message, handshakeSent := true } := by
  obtain ⟨_, _, hunderived, hunopened, hopened, hunreceived, hready⟩ := htracks
  constructor <;> simp_all

theorem Tracks.derived (htracks : Tracks calls reached) :
    Tracks (calls ++ [.handshakeFinish]) { reached with keysReady := true } := by
  obtain ⟨hunsent, hsent, _, hunopened, hopened, hunreceived, hready⟩ := htracks
  constructor <;> simp_all

theorem Tracks.opening (htracks : Tracks calls reached) (header : Bytes 24) :
    Tracks (calls ++ [.initPush (some header)])
      { reached with header, headerSent := true } := by
  obtain ⟨hunsent, hsent, hunderived, _, _, hunreceived, hready⟩ := htracks
  constructor <;> simp_all

theorem Tracks.received (htracks : Tracks calls reached) :
    Tracks (calls ++ [.initPull]) { reached with headerReceived := true } := by
  obtain ⟨hunsent, hsent, hunderived, hunopened, hopened, _, _⟩ := htracks
  constructor <;> simp_all

theorem Tracks.decrypted (htracks : Tracks calls reached)
    (hreceived : reached.headerReceived = true) :
    Tracks (calls ++ [.decrypt]) reached := by
  obtain ⟨hunsent, hsent, hunderived, hunopened, hopened, _, hready⟩ := htracks
  constructor <;> simp_all

/-- Calls behind which the flags say the same as before. -/
theorem Tracks.snoc {call : CryptoCall} (htracks : Tracks calls reached)
    (hcall : call = .encrypt ∨ ∃ type payload, call = .send type payload) :
    Tracks (calls ++ [call]) reached := by
  obtain ⟨hunsent, hsent, hunderived, hunopened, hopened, hunreceived, hready⟩ :=
    htracks
  rcases hcall with rfl | ⟨type, payload, rfl⟩ <;> constructor <;> simp_all

end Tracks

/-- An exchange in the middle of a run, with the calls that led to it. -/
structure Origin where
  exchange : Exchange
  trace : List CryptoCall

/-- The calls behind the last reset, when `calls` were made after the origin. -/
def Origin.sinceReset (origin : Origin) (calls : List CryptoCall) :
    List CryptoCall :=
  Net.sinceReset (origin.trace ++ calls)

/-- Allowed calls lead from the origin to the exchange of the port. -/
structure History (sodium : Sodium) (origin : Origin) (calls : List CryptoCall)
    (port : Port) : Prop where
  path : Transition.Path (Calls sodium) origin.exchange calls port.exchange
  orderly : Transition.Orderly (fun before => Allowed (sinceReset before))
    (origin.trace ++ calls)

theorem History.call {sodium : Sodium} {origin : Origin} {calls : List CryptoCall}
    {before after : Port} {call : CryptoCall}
    (hhistory : History sodium origin calls before)
    (hcall : Calls sodium before.exchange call after.exchange)
    (hallowed : Allowed (origin.sinceReset calls) call) :
    History sodium origin (calls ++ [call]) after where
  path := hhistory.path.snoc hcall
  orderly := by
    rw [← List.append_assoc]
    exact hhistory.orderly.snoc hallowed

/-- Allowed calls explain the exchange, and the given flags tell which calls
were made. -/
def Explains (sodium : Sodium) (origin : Origin) (reached : Milestones)
    (state : ChatdState) : Prop :=
  ∃ calls, History sodium origin calls (port state) ∧
    Tracks (origin.sinceReset calls) reached

/-- The exchange is explained, and the flags of the session are up to date. -/
def Recorded (sodium : Sodium) (origin : Origin) (state : ChatdState) : Prop :=
  Explains sodium origin (port state).milestones state

/-- The exchange is explained, but a call failed and the flags lag behind. -/
def Failing (sodium : Sodium) (origin : Origin) (state : ChatdState) : Prop :=
  ∃ calls, History sodium origin calls (port state)

/-- The outcome of a call that ends the session when it fails. -/
def Noted (sodium : Sodium) (origin : Origin) (outcome : Outcome) : Prop :=
  if outcome.2 then Recorded sodium origin outcome.1
  else Failing sodium origin outcome.1

section Recorded

variable {sodium : Sodium} {env : Env} {state next : ChatdState}
  {origin : Origin} {calls : List CryptoCall} {call : CryptoCall}
  {reached : Milestones}

theorem Recorded.failing (hrecorded : Recorded sodium origin state) :
    Failing sodium origin state :=
  let ⟨calls, hhistory, _⟩ := hrecorded
  ⟨calls, hhistory⟩

theorem Recorded.same (hrecorded : Recorded sodium origin state)
    (hexchange : (port next).exchange = (port state).exchange)
    (hreached : (port next).milestones = (port state).milestones) :
    Recorded sodium origin next := by
  obtain ⟨calls, ⟨hpath, horderly⟩, htracks⟩ := hrecorded
  rw [← hexchange] at hpath
  rw [← hreached] at htracks
  exact ⟨calls, ⟨hpath, horderly⟩, htracks⟩

/-- A reset starts over. -/
theorem Failing.wiped (hfailing : Failing sodium origin state)
    (hexchange : (port next).exchange =
      { datagrams := (port state).exchange.datagrams })
    (hreached : (port next).milestones = {}) : Recorded sodium origin next := by
  obtain ⟨calls, hhistory⟩ := hfailing
  have hcall : Calls sodium (port state).exchange .reset (port next).exchange := by
    rw [hexchange]
    exact .reset
  have hnext : History sodium origin (calls ++ [CryptoCall.reset]) (port next) :=
    hhistory.call hcall trivial
  refine ⟨_, hnext, ?_⟩
  rw [Origin.sinceReset, ← List.append_assoc, sinceReset_reset, hreached]
  exact tracks_nil

theorem Failing.ended (hfailing : Failing sodium origin state)
    (hended : Ended (port state) (port next)) : Recorded sodium origin next := by
  obtain ⟨_, _, hport⟩ := hended
  refine hfailing.wiped ?_ ?_
  · exact congrArg Port.exchange hport
  · exact congrArg Port.milestones hport

theorem Recorded.controlled (hrecorded : Recorded sodium origin state)
    (hcontrolled : Controlled (port state) (port next)) :
    Recorded sodium origin next := by
  rcases hcontrolled with ⟨_, hport⟩ | hended | ⟨_, _, _, _, hport⟩
  · refine hrecorded.same ?_ ?_ <;> rw [hport] <;> rfl
  · exact hrecorded.failing.ended hended
  · refine hrecorded.failing.wiped ?_ ?_
    · exact congrArg Port.exchange hport
    · exact congrArg Port.milestones hport

/-- The result of a packet is written to the log, which the exchange does not
see. -/
theorem Noted.emit {outcome : Outcome} (hnoted : Noted sodium origin outcome)
    (effect : Effect) : Noted sodium origin (outcome.1.emit effect, outcome.2) := by
  obtain ⟨handled, ok⟩ := outcome
  cases ok with
  | true => exact Recorded.same hnoted rfl rfl
  | false =>
      obtain ⟨calls, hpath, horderly⟩ := hnoted
      exact ⟨calls, hpath, horderly⟩

/-- The service step goes on, or the session is about to fail. -/
def Settled (sodium : Sodium) (origin : Origin) : Except ChatdState ChatdState → Prop
  | .ok state => Recorded sodium origin state
  | .error state => Failing sodium origin state

end Recorded

/-! ## Every run -/

/-- The calls of a run, each step with its own part of them. -/
inductive Traced (sodium : Sodium) :
    ChatdState → List (Env × ChatdEvent) → List CryptoCall → Prop where
  | nil {state : ChatdState} : Traced sodium state [] []
  | cons {state : ChatdState} {input : Env × ChatdEvent}
      {inputs : List (Env × ChatdEvent)} {calls rest : List CryptoCall}
      (hcalls : Transition.Path (Calls sodium) (port state).exchange calls
        (port (chatdStep sodium state input)).exchange)
      (hrest : Traced sodium (chatdStep sodium state input) inputs rest) :
      Traced sodium state (input :: inputs) (calls ++ rest)

end ProntoChat.Net
