import ProntoChat.Common.Transparent
import ProntoChat.Core.Transition
import ProntoChat.Daemon.Ipc
import ProntoChat.Server.Control

/-!
# The login and the messages of a session

The login that the daemon goes through on every connection, and the messages
that an honest peer sends in the course of one session.
-/

namespace ProntoChat.Daemon

open ProntoChat.QuotedText
open ProntoChat.Protocole
open ProntoChat.Json
open ProntoChat.Crypto
open ProntoChat.Server (registerOkJson authChallengeJson authOkJson)

/-- A control message that arrives in one piece. -/
def receive (json : Str) : ChatdEvent := .control (.receive json true)

/-- The control events of a login that the server accepts. -/
def login (challenge : Bytes 32) : List ChatdEvent :=
  [.control .established, .control (.writeable true), receive registerOkJson,
    .control (.writeable true), receive (authChallengeJson challenge),
    .control (.writeable true), receive authOkJson]

section Login

variable (sodium : Sodium) (env : Env) {identity : ChatIdentity}
  {phase : ChatdPhase} {state : ChatdState}

/-- The daemon is in a phase of the login and has sent its message. -/
structure Waiting (identity : ChatIdentity) (phase : ChatdPhase)
    (state : ChatdState) : Prop where
  identity : state.identity = identity
  phase : state.phase = phase
  pending : state.pending = []

/-- The daemon is in a phase of the login and has queued its message. -/
structure Sending (identity : ChatIdentity) (phase : ChatdPhase)
    (state : ChatdState) : Prop where
  identity : state.identity = identity
  phase : state.phase = phase
  pending : state.pending ≠ []

/-- The daemon is in a phase of the login and has queued this message. -/
structure Queued (identity : ChatIdentity) (phase : ChatdPhase) (json : Str)
    (state : ChatdState) : Prop where
  identity : state.identity = identity
  phase : state.phase = phase
  pending : state.pending = json

theorem Queued.sending {members : List (Str × Str)}
    (hqueued : Queued identity phase (object members) state) :
    Sending identity phase state := by
  refine ⟨hqueued.identity, hqueued.phase, ?_⟩
  rw [hqueued.pending]
  cases members <;> simp [object]

theorem queued_queueFormatted {size : ℕ} {json : Str}
    (hwaiting : Waiting identity phase state) (hlength : json.length < size)
    (hsize : size ≤ chatdMaxJsonSize) :
    Queued identity phase json (queueFormatted state size json).1 := by
  rw [queueFormatted_of_lt hwaiting.pending hlength hsize]
  exact ⟨hwaiting.identity, hwaiting.phase, rfl⟩

theorem step_receive {members : List (Str × Str)}
    (hplain : ∀ entry ∈ members, Plain entry.1 ∧ Plain entry.2)
    (hlength : (object members).length < chatdMaxJsonSize) :
    chatdStep sodium state (env, receive (object members)) =
      (handleReceive sodium env state (object members)).1 := by
  simp only [chatdStep, receive, callbackChatdControl, cString_object hplain]
  rw [if_neg (by simp; omega)]

theorem waiting_writeable (hsending : Sending identity phase state) :
    Waiting identity phase
      (chatdStep sodium state (env, .control (.writeable true))) := by
  simp only [chatdStep, callbackChatdControl, if_neg hsending.pending,
    Bool.true_eq_false, if_false]
  exact ⟨hsending.identity, hsending.phase, rfl⟩

theorem length_registerJson (hname : chatUsernameIsValid identity.username = true) :
    (registerJson identity).length < 512 := by
  have := username_length hname
  have := ControlType.register.plain_name.2
  have := JsonKey.type.length_name_le
  have := JsonKey.username.length_name_le
  have := JsonKey.publicKey.length_name_le
  simp only [registerJson, length_object, List.map_cons, List.map_nil, List.sum_cons,
    List.sum_nil, length_sodiumBin2hex]
  omega

theorem queued_established
    (hname : chatUsernameIsValid identity.username = true)
    (hwaiting : Waiting identity phase state) :
    Queued identity .register (registerJson identity)
      (chatdStep sodium state (env, .control .established)) := by
  obtain ⟨rfl, _, hempty⟩ := hwaiting
  exact queued_queueFormatted ⟨rfl, rfl, hempty⟩ (length_registerJson hname)
    (by decide)

theorem queued_queueHello
    (hname : chatUsernameIsValid identity.username = true)
    (hwaiting : Waiting identity phase state) :
    Queued identity phase (helloJson identity.username) (queueHello state).1 := by
  obtain ⟨rfl, hphase, hempty⟩ := hwaiting
  refine queued_queueFormatted ⟨rfl, hphase, hempty⟩ ?_ (by decide)
  have := username_length hname
  have := ControlType.hello.plain_name.2
  have := JsonKey.type.length_name_le
  have := JsonKey.username.length_name_le
  simp only [helloJson, length_object, List.map_cons, List.map_nil, List.sum_cons,
    List.sum_nil]
  omega

theorem length_authChallengeJson (challenge : Bytes 32) :
    (authChallengeJson challenge).length < chatdMaxJsonSize := by
  have := ControlType.authChallenge.plain_name.2
  have := JsonKey.type.length_name_le
  have := JsonKey.challenge.length_name_le
  simp only [authChallengeJson, length_object, List.map_cons, List.map_nil,
    List.sum_cons, List.sum_nil, length_sodiumBin2hex, chatdMaxJsonSize]
  omega

theorem queued_authChallenge (challenge : Bytes 32)
    (hwaiting : Waiting identity .hello state) :
    Queued identity .authResponse
      (authResponseJson (sodium.signDetached challenge.toList identity.secretKey))
      (chatdStep sodium state (env, receive (authChallengeJson challenge))) := by
  obtain ⟨rfl, hphase, hempty⟩ := hwaiting
  have hmembers : ∀ entry ∈ [(JsonKey.challenge.name, sodiumBin2hex challenge)],
      Plain entry.1 ∧ Plain entry.2 :=
    List.forall_mem_singleton.mpr
      ⟨JsonKey.challenge.searchName.plain, plain_sodiumBin2hex challenge⟩
  have hplain := plain_control .authChallenge hmembers
  have hread : jsonGetString (authChallengeJson challenge) .challenge
      chatdHexChallengeLen = some (sodiumBin2hex challenge) := by
    rw [authChallengeJson, jsonGetString_object .challenge (by decide) hplain]
    have hkey : JsonKey.type.name ≠ JsonKey.challenge.name := by decide +kernel
    have hvalue : ControlType.authChallenge.name ≠ JsonKey.challenge.name := by
      decide +kernel
    simp [scanMembers, hkey, hvalue, chatdHexChallengeLen]
  have hlength := length_authChallengeJson challenge
  have hstep : chatdStep sodium state (env, receive (authChallengeJson challenge)) =
      (handleReceive sodium env state (authChallengeJson challenge)).1 :=
    step_receive sodium env hplain hlength
  have hjson : jsonType (authChallengeJson challenge) = some .authChallenge :=
    jsonType_object .authChallenge hmembers
  rw [hstep]
  simp only [handleReceive, hjson, if_pos hphase, handleAuthChallenge, hread,
    Option.bind_some, hexToBin_sodiumBin2hex]
  refine queued_queueFormatted ⟨rfl, rfl, hempty⟩ ?_ (by decide)
  have := ControlType.authResponse.plain_name.2
  have := JsonKey.type.length_name_le
  have := JsonKey.signature.length_name_le
  simp only [authResponseJson, length_object, List.map_cons, List.map_nil, List.sum_cons,
    List.sum_nil, length_sodiumBin2hex]
  omega

theorem waiting_authOk (hwaiting : Waiting identity .authResponse state) :
    Waiting identity .online
      (chatdStep sodium state (env, receive authOkJson)) := by
  rw [authOkJson, step_receive sodium env (by decide) (by decide)]
  simp only [handleReceive, jsonType_object .authOk (List.forall_mem_nil _),
    if_pos hwaiting.phase]
  exact ⟨hwaiting.identity, rfl, hwaiting.pending⟩

end Login

/-! ## Sessions -/

/-- Call outcomes when every library and system call works; the random values
repeat one byte. -/
def Env.smooth (now : ℕ) (byte : UInt8) : Env where
  now
  sessionIdBytes := Transparent.repeated 16 byte
  kxSecretKey := some (Transparent.repeated 32 byte)
  streamHeader := some (Transparent.repeated 24 byte)
  iceStart := .ok ()
  localSdp := some (bytes "v=0")
  parseRemoteSdp _ := 1
  iceSend _ := true
  ipcWrite _ := true
  contactsIo := .works

/-- The handshake packet of an honest peer. -/
def handshakePacket (sodium : Sodium) (role : ChatCryptoRole)
    (signer : ChatIdentity) (remotePk : Bytes 32) (sessionId : Str)
    (kxSecretKey : Bytes 32) : List UInt8 :=
  let kxPk := sodium.kxPublicKey kxSecretKey
  let digest :=
    transcriptDigest sodium role signer.publicKey remotePk sessionId kxPk
  chatPacket .handshake (handshakeMessage kxPk
    (sodium.signDetached digest signer.secretKey)).toList

/-- The events by which a session that `peer` asked for becomes secure: the
request, the connection, and the two packets of the peer, each followed by a
service step. -/
def incomingSession (sodium : Sodium) (own peer : ChatIdentity)
    (sessionId : Str) (kxSecretKey : Bytes 32) (header : Bytes 24) :
    List ChatdEvent :=
  [receive (offerJson .chatRequest peer own.username sessionId),
    .control (.writeable true),
    .ice (.componentConnected none), .serviceIce,
    .ice (.recv (handshakePacket sodium .initiator peer own.publicKey sessionId
      kxSecretKey)), .serviceIce,
    .ice (.recv (chatPacket .streamHeader header.toList)), .serviceIce]

/-- The command by which a client asks for a session. -/
def openChat (fd : ℕ) (peer : Str) : ChatdEvent :=
  .ipc (some fd) (.readable (bytes "OPEN_CHAT " ++ peer))

/-- The events up to the first handshake packet of a session that the own
client asked for. -/
def outgoingSession (own peer : ChatIdentity) (fd : ℕ) (sessionId : Str) :
    List ChatdEvent :=
  [openChat fd peer.username, .control (.writeable true),
    receive (offerJson .chatAccept peer own.username sessionId),
    .ice (.componentConnected none), .serviceIce]

def alice : ChatIdentity := Transparent.identity (bytes "alice") 1
def bob : ChatIdentity := Transparent.identity (bytes "bob") 2
def carol : ChatIdentity := Transparent.identity (bytes "carol") 3

/-- Bob's login, then a session that Alice asks for. -/
def aliceCallsBob : List ChatdEvent :=
  login (Transparent.repeated 32 9) ++
    incomingSession Transparent.sodium bob alice (bytes "5e55")
      (Transparent.repeated 32 1) (Transparent.repeated 24 1)

/-- Events of a run in which every call works. -/
def smoothly (byte : UInt8) (events : List ChatdEvent) : List (Env × ChatdEvent) :=
  events.map (Env.smooth 1 byte, ·)

end ProntoChat.Daemon
