import ProntoChat.Daemon.Refinement

/-!
# Invariants of a session

Facts about one session that hold along every sequence of protocol moves: how
the flags of a session depend on each other, and what the log says about the
keys in use.
-/

namespace ProntoChat.Daemon

open ProntoChat.Protocole
open ProntoChat.Contacts
open ProntoChat.Crypto

variable {sodium : Sodium} {admits : Admission}

/-- How the flags of a session depend on each other. -/
structure FlagsSound (state : ChatdSessionState) (session : SessionCore) :
    Prop where
  closing : state ≠ .closing
  secure : state = .secure → session.ready = true
  active : session.ready = true → session.active = true
  keysReady : session.ready = true → session.keysReady = true
  headerSent : session.ready = true → session.headerSent = true
  headerReceived : session.ready = true → session.headerReceived = true
  receivedKeys : session.headerReceived = true → session.keysReady = true
  pushInitialized : session.headerSent = true →
    session.stream.pushInitialized = true
  pullInitialized : session.headerReceived = true →
    session.stream.pullInitialized = true
  initialized : session.keysReady = true → session.handshake.initialized = true
  finished : session.keysReady = true → session.handshake.finished = true
  handshakeSent : session.handshake.initialized = true →
    session.handshakeSent = true
  remotePk : session.handshake.initialized = true →
    session.handshake.remoteIdentityPk = session.remotePk

theorem flagsSound_stopped {next : ChatdSessionState} (sessionId : Str)
    (hnext : next ≠ .secure ∧ next ≠ .closing) :
    FlagsSound next { sessionId } := by
  constructor <;> simp [hnext.1, hnext.2]

theorem flagsSound_begun (peer sessionId : Str) (role : ChatCryptoRole)
    (remotePk : Bytes 32) :
    FlagsSound .iceNegotiating (begunSession peer sessionId role remotePk) := by
  constructor <;> simp [begunSession]

/-- Keys come after the own handshake message. -/
theorem FlagsSound.keysReady_of_unsent {state : ChatdSessionState}
    {session : SessionCore} (hsound : FlagsSound state session)
    (hunsent : session.handshakeSent = false) : session.keysReady ≠ true := by
  intro hkeys
  rw [hsound.handshakeSent (hsound.initialized hkeys)] at hunsent
  exact absurd hunsent (by decide)

/-- A change of the session state alone, away from a secure session. -/
theorem FlagsSound.setState {state next : ChatdSessionState}
    {session : SessionCore} (hsound : FlagsSound state session)
    (hnext : next ≠ .secure ∧ next ≠ .closing) : FlagsSound next session :=
  { hsound with
    closing := hnext.2
    secure := fun heq => absurd heq hnext.1 }

theorem flagsSound_move {view next : View}
    (hmove : Move sodium admits view next)
    (hsound : FlagsSound view.state view.session) :
    FlagsSound next.state next.session := by
  cases hmove with
  | quiet | pin | detach | attach | announce | signChallenge | signHandshake
  | deliver => exact hsound
  | stop sessionId hnext => exact flagsSound_stopped sessionId hnext
  | request =>
      have hrequesting : FlagsSound .requesting view.session :=
        hsound.setState ⟨nofun, nofun⟩
      exact { hrequesting with }
  | await => exact hsound.setState ⟨nofun, nofun⟩
  | answer => exact flagsSound_begun _ _ _ _
  | accepted => exact flagsSound_begun _ _ _ _
  | connected => exact hsound.setState ⟨nofun, nofun⟩
  | handshaking => exact hsound.setState ⟨nofun, nofun⟩
  | install hinit hunsent =>
      obtain ⟨_, _, _, _, rfl, _⟩ := chatCryptoHandshakeInit_ok hinit
      have hkeys := hsound.keysReady_of_unsent hunsent
      exact { hsound with
        initialized := fun _ => rfl
        finished := fun h => absurd h hkeys
        handshakeSent := fun _ => rfl
        remotePk := fun _ => rfl }
  | accept hfinish hfresh =>
      obtain ⟨hinitialized, _, rfl, _⟩ := chatCryptoHandshakeFinish_ok hfinish
      exact { hsound with
        keysReady := fun _ => rfl
        receivedKeys := fun _ => rfl
        initialized := fun _ => hinitialized
        finished := fun _ => rfl
        handshakeSent := fun _ => hsound.handshakeSent hinitialized
        remotePk := fun _ => hsound.remotePk hinitialized }
  | openPush push =>
      exact { hsound with
        headerSent := fun _ => rfl
        pushInitialized := fun _ => rfl }
  | openPull hpull hkeys =>
      exact { hsound with
        headerReceived := fun _ => rfl
        receivedKeys := fun _ => hkeys
        pullInitialized := fun _ => rfl }
  | establish hactive hready hkeys hsent hreceived =>
      exact { hsound with
        closing := nofun
        secure := fun _ => rfl
        active := fun _ => hactive
        keysReady := fun _ => hkeys
        headerSent := fun _ => hsent
        headerReceived := fun _ => hreceived }
  | encrypt => exact { hsound with }
  | decrypt => exact { hsound with }

/-- The signature of a handshake message verifies under the peer's key, and
the session keys are derived from the ephemeral key in that message. -/
def Authenticated (sodium : Sodium) (localPk : Bytes 32) (role : ChatCryptoRole)
    (remotePk : Bytes 32) (sessionId : Str) (message : Bytes 96)
    (keys : ChatCryptoSessionKeys) : Prop :=
  sodium.signVerifyDetached (messageSignature message)
      (transcriptDigest sodium role.opposite remotePk localPk sessionId
        (messageKxPk message)) remotePk = true ∧
    ∃ kxPk kxSk, deriveSessionKeys sodium role kxPk kxSk
      (messageKxPk message) = some keys

def Effect.Authentic (sodium : Sodium) (localPk : Bytes 32) : Effect → Prop
  | .handshakeAccepted role remotePk sessionId message keys =>
      Authenticated sodium localPk role remotePk sessionId message keys
  | _ => True

theorem Effect.Quiet.authentic {effect : Effect} (hquiet : effect.Quiet)
    (localPk : Bytes 32) : effect.Authentic sodium localPk := by
  cases effect with
  | handshakeAccepted => exact hquiet.elim
  | _ => trivial

/-- The keys of a session come from a handshake in the log, every handshake in
the log was verified, and the pull stream runs under the keys. -/
structure KeysSound (sodium : Sodium) (localPk : Bytes 32)
    (session : SessionCore) (log : List Effect) : Prop where
  signer : session.handshake.initialized = true →
    session.handshake.localIdentityPk = localPk
  accepted : session.keysReady = true → ∃ role sessionId message,
    Effect.handshakeAccepted role session.handshake.remoteIdentityPk sessionId
      message session.keys ∈ log
  pull : session.headerReceived = true →
    PullStream sodium session.keys.rx session.stream.pull
  authentic : ∀ effect ∈ log, effect.Authentic sodium localPk

theorem KeysSound.append {localPk : Bytes 32} {session : SessionCore}
    {log : List Effect} (hsound : KeysSound sodium localPk session log)
    {effect : Effect} (heffect : effect.Authentic sodium localPk) :
    KeysSound sodium localPk session (log ++ [effect]) where
  signer := hsound.signer
  accepted := fun hkeys => by
    obtain ⟨role, sessionId, message, hmem⟩ := hsound.accepted hkeys
    exact ⟨role, sessionId, message, List.mem_append_left _ hmem⟩
  pull := hsound.pull
  authentic := List.forall_mem_append.mpr
    ⟨hsound.authentic, List.forall_mem_singleton.mpr heffect⟩

theorem KeysSound.fresh {localPk : Bytes 32} {session next : SessionCore}
    {log : List Effect} (hsound : KeysSound sodium localPk session log)
    (hinitialized : next.handshake.initialized = false)
    (hkeys : next.keysReady = false) (hreceived : next.headerReceived = false) :
    KeysSound sodium localPk next log where
  signer := by simp [hinitialized]
  accepted := by simp [hkeys]
  pull := by simp [hreceived]
  authentic := hsound.authentic

theorem keysSound_move {view next : View}
    (hmove : Move sodium admits view next)
    (hflags : FlagsSound view.state view.session)
    (hsound : KeysSound sodium view.identity.publicKey view.session view.log) :
    KeysSound sodium next.identity.publicKey next.session next.log := by
  cases hmove with
  | pin | detach | attach | await | connected | handshaking => exact hsound
  | quiet hquiet => exact hsound.append (hquiet.authentic _)
  | announce | signChallenge | signHandshake | deliver =>
      exact hsound.append trivial
  | stop | answer | accepted => exact hsound.fresh rfl rfl rfl
  | request | openPush | establish => exact { hsound with }
  | install hinit hunsent =>
      obtain ⟨_, _, _, _, rfl, _⟩ := chatCryptoHandshakeInit_ok hinit
      have hkeys := hflags.keysReady_of_unsent hunsent
      exact { hsound with
        signer := fun _ => rfl
        accepted := fun h => absurd h hkeys }
  | accept hfinish hfresh =>
      obtain ⟨hinitialized, _, rfl, role, hrole, _, hverify, hderive⟩ :=
        chatCryptoHandshakeFinish_ok hfinish
      rw [hsound.signer hinitialized] at hverify
      rw [hrole, Option.getD_some]
      have hreceived : view.session.headerReceived ≠ true := fun h =>
        absurd (hflags.receivedKeys h) (by simp [hfresh])
      exact {
        signer := fun _ => hsound.signer hinitialized
        accepted := fun _ => ⟨_, _, _, List.mem_concat_self⟩
        pull := fun h => absurd h hreceived
        authentic := List.forall_mem_append.mpr
          ⟨hsound.authentic,
            List.forall_mem_singleton.mpr ⟨hverify, _, _, hderive⟩⟩ }
  | openPull hpull hkeys =>
      exact { hsound with pull := fun _ => .opened hpull }
  | encrypt =>
      refine KeysSound.append ?_ trivial
      exact { hsound with }
  | decrypt type hpull hready hstate =>
      have hstream := hsound.pull (hflags.headerReceived hready)
      refine KeysSound.append ?_ trivial
      exact { hsound with pull := fun _ => hstream.advanced hpull }

/-- The invariants that hold in every run. -/
structure SessionSound (sodium : Sodium) (identity : ChatIdentity)
    (view : View) : Prop where
  account : view.identity = identity
  flags : FlagsSound view.state view.session
  keys : KeysSound sodium identity.publicKey view.session view.log

theorem sessionSound_move {identity : ChatIdentity} {view next : View}
    (hmove : Move sodium admits view next)
    (hsound : SessionSound sodium identity view) :
    SessionSound sodium identity next := by
  obtain ⟨rfl, hflags, hkeys⟩ := hsound
  have hidentity : next.identity = view.identity := by
    cases hmove <;> rfl
  refine ⟨hidentity, flagsSound_move hmove hflags, ?_⟩
  rw [← hidentity]
  exact keysSound_move hmove hflags hkeys

theorem sessionSound_initial (identity : ChatIdentity) (store : ContactsDb) :
    SessionSound sodium identity (initialState identity store).view where
  account := rfl
  flags := flagsSound_stopped [] ⟨nofun, nofun⟩
  keys := ⟨nofun, nofun, nofun, nofun⟩

theorem sessionSound_run (sodium : Sodium) (identity : ChatIdentity)
    (store : ContactsDb) (inputs : List (Env × ChatdEvent)) :
    SessionSound sodium identity
      (Transition.run (chatdStep sodium) (initialState identity store)
        inputs).view :=
  invariant_chatd_run_free (fun _ _ => sessionSound_move)
    (sessionSound_initial identity store) inputs

end ProntoChat.Daemon
