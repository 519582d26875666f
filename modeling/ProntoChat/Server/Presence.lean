import ProntoChat.Daemon.Scenario
import ProntoChat.Server.Control

/-!
# Presence

A registered user is online while an authenticated connection is open for it.
The registry keeps a pointer to that connection, and the name and the
authentication of a connection can change while it is open.  A `hello` on the
connection of an online user makes the two disagree; no other event does.
-/

namespace ProntoChat.Server

open ProntoChat.QuotedText
open ProntoChat.Protocole
open ProntoChat.Json
open ProntoChat.Crypto
open ProntoChat.Daemon (alice bob registerJson helloJson authResponseJson offerJson)

/-! ## Changes of the presence -/

/-- The registry, the name and authentication of every open connection, and
the log. -/
structure Presence where
  users : List ChatServerUser
  sessions : ℕ → Option (Str × Bool)
  log : List ServerEffect

/-- Name and authentication of a connection. -/
def ChatServerSession.login (session : ChatServerSession) : Str × Bool :=
  (session.username, session.authenticated)

def ChatServerState.presence (state : ChatServerState) : Presence where
  users := state.users.users
  sessions wsi := (state.sessions wsi).map ChatServerSession.login
  log := state.log

/-- An online user whose entry points to a connection. -/
def Presence.Bound (presence : Presence) (username : Str) (wsi : ℕ) : Prop :=
  ∃ user ∈ presence.users, user.username = username ∧ user.online = true ∧
    user.session = some wsi

/-- One change of the presence. -/
inductive Change : Presence → Presence → Prop where
  | none {presence : Presence} : Change presence presence
  | register {presence : Presence} {user : ChatServerUser}
      (hoffline : user.online = false) :
      Change presence { presence with users := presence.users ++ [user] }
  | hello {presence : Presence} {wsi : ℕ} (username : Str)
      (hfree : ∀ name, ¬ presence.Bound name wsi) :
      Change presence
        { presence with
          sessions := Function.update presence.sessions wsi
            (some (username, false)) }
  | authenticate {presence : Presence} {wsi : ℕ} {username : Str}
      {authenticated : Bool}
      (hopen : presence.sessions wsi = some (username, authenticated)) :
      Change presence
        { presence with
          users := changeFirst username (setOnline wsi) presence.users
          sessions := Function.update presence.sessions wsi
            (some (username, true)) }
  | relay {presence : Presence} {receiver : Str} {wsi : ℕ}
      {session : ChatServerSession} (json : Str)
      (hbound : presence.Bound receiver wsi)
      (hopen : presence.sessions wsi = some session.login) :
      Change presence
        { presence with
          log := presence.log ++ [.relayed receiver wsi session json] }
  | dangle {presence : Presence} {receiver : Str} {wsi : ℕ}
      (hbound : presence.Bound receiver wsi)
      (hclosed : presence.sessions wsi = .none) :
      Change presence
        { presence with log := presence.log ++ [.dangling receiver wsi] }
  | establish {presence : Presence} {wsi : ℕ}
      (hclosed : presence.sessions wsi = .none) :
      Change presence
        { presence with
          sessions := Function.update presence.sessions wsi (some ([], false)) }
  | logout {presence : Presence} (wsi : ℕ) :
      Change presence
        { presence with
          users := presence.users.map (setOffline wsi)
          sessions := Function.update presence.sessions wsi .none }
  | leave {presence : Presence} {wsi : ℕ} {username : Str}
      (hopen : presence.sessions wsi = some (username, false)) :
      Change presence
        { presence with
          sessions := Function.update presence.sessions wsi .none }

/-! ## Every event changes the presence as described -/

theorem presence_setSession (state : ChatServerState) (wsi : ℕ)
    (session : ChatServerSession) :
    (state.setSession wsi session).presence =
      { state.presence with
        sessions :=
          Function.update state.presence.sessions wsi (some session.login) } := by
  have hsessions : (state.setSession wsi session).presence.sessions =
      Function.update state.presence.sessions wsi (some session.login) := by
    funext other
    by_cases hother : other = wsi
    · subst hother
      simp [ChatServerState.presence, ChatServerState.setSession]
    · simp [ChatServerState.presence, ChatServerState.setSession, hother]
  rw [← hsessions]
  rfl

/-- Nothing changes when name and authentication stay. -/
theorem presence_setSession_self {state : ChatServerState} {wsi : ℕ}
    {session : ChatServerSession}
    (hopen : state.presence.sessions wsi = some session.login) :
    (state.setSession wsi session).presence = state.presence := by
  rw [presence_setSession, ← hopen, Function.update_eq_self]

theorem presence_sendJson {state : ChatServerState} {wsi : ℕ}
    {session : ChatServerSession} (json : Str)
    (hopen : state.presence.sessions wsi = some session.login) :
    (sendJson state wsi session json).1.presence = state.presence := by
  unfold sendJson
  split_ifs
  · rfl
  · exact presence_setSession_self hopen

theorem presence_sendFormatted {state : ChatServerState} {wsi : ℕ}
    {session : ChatServerSession} (size : ℕ) (json : Str)
    (hopen : state.presence.sessions wsi = some session.login) :
    (sendFormatted state wsi session size json).1.presence = state.presence := by
  unfold sendFormatted
  split_ifs
  · rfl
  · exact presence_sendJson json hopen

theorem presence_sendError {state : ChatServerState} {wsi : ℕ}
    {session : ChatServerSession} (code : ErrorCode)
    (hopen : state.presence.sessions wsi = some session.login) :
    (sendError state wsi session code).1.presence = state.presence :=
  presence_sendFormatted 256 _ hopen

section Handlers

variable {sodium : Sodium} {state : ChatServerState} {wsi : ℕ}
  {session : ChatServerSession} {json : Str}

theorem sendError_change (code : ErrorCode)
    (hopen : state.presence.sessions wsi = some session.login) :
    Change state.presence (sendError state wsi session code).1.presence := by
  rw [presence_sendError code hopen]
  exact Change.none

theorem handleRegister_change
    (hopen : state.presence.sessions wsi = some session.login) :
    Change state.presence (handleRegister state wsi session json).1.presence := by
  unfold handleRegister
  split
  · exact sendError_change _ hopen
  · rename_i username publicKey _
    unfold chatServerUsersRegister
    split_ifs
    · have hregistered (users : ChatServerUsers)
          (husers : users.users =
            state.users.users ++ [{ username, identityPk := publicKey }]) :
          Change state.presence
            (sendJson (state.setUsers users) wsi session
              registerOkJson).1.presence := by
        have hopen' : (state.setUsers users).presence.sessions wsi =
            some session.login := hopen
        have hpresence : (state.setUsers users).presence = { state.presence with
            users := state.presence.users ++
              [{ username, identityPk := publicKey }] } := by
          simp [ChatServerState.presence, ChatServerState.setUsers, husers]
        rw [presence_sendJson _ hopen', hpresence]
        exact Change.register rfl
      exact hregistered _ rfl
    · exact sendError_change _ hopen
    · exact sendError_change _ hopen
    · exact sendError_change _ hopen

/-- The name in a `hello` message that the server accepts. -/
def acceptedHello (state : ChatServerState) (json : Str) : Option Str :=
  (parseHello json).filter fun username =>
    (chatServerUsersFind state.users username).isSome

theorem handleHello_refused {challenge : Bytes 32}
    (hrefused : acceptedHello state json = none) :
    ∃ code, handleHello state wsi session json challenge =
      sendError state wsi session code := by
  unfold handleHello
  split
  · exact ⟨_, rfl⟩
  · rename_i username hparse
    split
    · exact ⟨_, rfl⟩
    · rename_i user hfind
      simp [acceptedHello, hparse, hfind] at hrefused

/-- An accepted `hello` gives the connection a name that is not authenticated
yet. -/
theorem handleHello_presence {challenge : Bytes 32} {username : Str}
    (haccepted : acceptedHello state json = some username) :
    (handleHello state wsi session json challenge).1.presence =
      { state.presence with
        sessions := Function.update state.presence.sessions wsi
          (some (username, false)) } := by
  obtain ⟨hparse, hknown⟩ := Option.filter_eq_some_iff.mp haccepted
  obtain ⟨user, hfind⟩ := Option.isSome_iff_exists.mp hknown
  simp only [handleHello, hparse, hfind]
  rw [presence_sendFormatted, presence_setSession]
  · rfl
  · rw [presence_setSession]
    exact Function.update_self _ _ _

theorem handleHello_change (challenge : Bytes 32)
    (hopen : state.presence.sessions wsi = some session.login)
    (hfree : (acceptedHello state json).isSome = true →
      ∀ name, ¬ state.presence.Bound name wsi) :
    Change state.presence
      (handleHello state wsi session json challenge).1.presence := by
  cases haccepted : acceptedHello state json with
  | none =>
      obtain ⟨code, hrefused⟩ := handleHello_refused haccepted
      rw [hrefused]
      exact sendError_change code hopen
  | some username =>
      rw [handleHello_presence haccepted]
      exact Change.hello username (hfree (by simp [haccepted]))

theorem handleAuthResponse_change
    (hopen : state.presence.sessions wsi = some session.login) :
    Change state.presence
      (handleAuthResponse sodium state wsi session json).1.presence := by
  unfold handleAuthResponse
  split_ifs
  · exact sendError_change _ hopen
  · split
    · exact sendError_change _ hopen
    · split
      · exact sendError_change _ hopen
      · rename_i user hfind
        split_ifs
        · exact sendError_change _ hopen
        · simp only [chatServerUsersSetOnline, hfind]
          rw [presence_sendJson, presence_setSession]
          · exact Change.authenticate hopen
          · rw [presence_setSession]
            exact Function.update_self _ _ _

theorem onlineTarget_bound {receiver : Str} {wsi target : ℕ}
    (htarget : onlineTarget state receiver = some (wsi, target)) :
    state.presence.Bound receiver target := by
  unfold onlineTarget at htarget
  split at htarget
  · simp at htarget
  · rename_i user hfind
    obtain ⟨hmem, hname⟩ := chatServerUsersFind_some hfind
    split at htarget
    · rename_i honline _ hsession
      simp only [Option.some.injEq, Prod.mk.injEq] at htarget
      exact ⟨user, hmem, hname, honline, by rw [hsession, htarget.2]⟩
    · simp at htarget

theorem forwardTo_change {receiver : Str}
    (hopen : state.presence.sessions wsi = some session.login) :
    Change state.presence
      (forwardTo state wsi session receiver json).1.presence := by
  unfold forwardTo
  split
  · exact sendError_change _ hopen
  · rename_i target htarget
    have hbound := onlineTarget_bound htarget
    split
    · rename_i hclosed
      exact Change.dangle hbound (by simp [ChatServerState.presence, hclosed])
    · rename_i targetSession htargetSession
      have htargetOpen : state.presence.sessions target =
          some targetSession.login := by
        simp [ChatServerState.presence, htargetSession]
      split_ifs
      · exact sendError_change _ hopen
      · rw [presence_sendJson]
        · exact Change.relay json hbound htargetOpen
        · exact htargetOpen

theorem handleMessage_change {challenge : Bytes 32}
    (hopen : state.presence.sessions wsi = some session.login)
    (hfree : jsonType json = some .hello →
      (acceptedHello state json).isSome = true →
        ∀ name, ¬ state.presence.Bound name wsi) :
    Change state.presence
      (handleMessage sodium state wsi session json challenge).1.presence := by
  unfold handleMessage
  split
  · exact sendError_change _ hopen
  · rename_i name hname
    split
    · exact handleRegister_change hopen
    · rename_i htype
      exact handleHello_change challenge hopen
        (hfree (by rw [jsonType, hname, Option.bind_some, htype]))
    · exact handleAuthResponse_change hopen
    · unfold handleUserLookup
      split_ifs
      · exact sendError_change _ hopen
      · split
        · exact sendError_change _ hopen
        · rw [presence_sendFormatted _ _ hopen]
          exact Change.none
    · split_ifs
      · unfold handleSignalingForward
        split
        · exact sendError_change _ hopen
        · exact forwardTo_change hopen
      · exact sendError_change _ hopen
    · exact sendError_change _ hopen

end Handlers

/-- The message that an event hands to `handle_message`. -/
def ServerEvent.message : ServerEvent → Option Str
  | .receive _ payload whole _ =>
      if chatServerMaxJsonSize ≤ payload.length ∨ whole = false then none
      else some (cString payload)
  | _ => none

/-- The event is a `hello` that the server accepts on the connection of an
online user. -/
def rebinds (state : ChatServerState) (event : ServerEvent) : Bool :=
  (event.message.any fun json =>
    decide (jsonType json = some .hello) && (acceptedHello state json).isSome) &&
  state.users.users.any fun user =>
    user.online && decide (user.session = some event.wsi)

theorem not_bound_of_not_rebinds {state : ChatServerState} {event : ServerEvent}
    {json : Str} (hevent : rebinds state event = false)
    (hmessage : event.message = some json)
    (htype : jsonType json = some .hello)
    (haccepted : (acceptedHello state json).isSome = true) :
    ∀ name, ¬ state.presence.Bound name event.wsi := by
  rintro name ⟨user, hmem, _, honline, hsession⟩
  simp only [rebinds, hmessage, Option.any_some, htype, decide_true, haccepted,
    Bool.and_self, Bool.true_and, List.any_eq_false] at hevent
  exact hevent user hmem (by simp [honline, hsession])

theorem closeSession_change {state : ChatServerState} {wsi : ℕ}
    {session : ChatServerSession} (hopen : state.sessions wsi = some session) :
    Change state.presence (closeSession state wsi session).presence := by
  have hsessions : (closeSession state wsi session).presence.sessions =
      Function.update state.presence.sessions wsi none := by
    funext other
    by_cases hother : other = wsi
    · subst hother
      simp [ChatServerState.presence, closeSession]
    · simp [ChatServerState.presence, closeSession, hother]
  have hlogin : state.presence.sessions wsi = some session.login := by
    simp [ChatServerState.presence, hopen]
  cases hauthenticated : session.authenticated with
  | true =>
      have hpresence : (closeSession state wsi session).presence =
          { state.presence with
            users := state.presence.users.map (setOffline wsi)
            sessions := Function.update state.presence.sessions wsi none } := by
        rw [← hsessions]
        simp [ChatServerState.presence, closeSession, hauthenticated,
          chatServerUsersSetOfflineByWsi, ChatServerUsers.withUsers]
      rw [hpresence]
      exact Change.logout wsi
  | false =>
      have hpresence : (closeSession state wsi session).presence =
          { state.presence with
            sessions := Function.update state.presence.sessions wsi none } := by
        rw [← hsessions]
        simp [ChatServerState.presence, closeSession, hauthenticated]
      rw [hpresence]
      rw [ChatServerSession.login, hauthenticated] at hlogin
      exact Change.leave hlogin

/-- Every event changes the presence as described, unless it rebinds. -/
theorem serverStep_change (sodium : Sodium) {state : ChatServerState}
    {event : ServerEvent} (hevent : rebinds state event = false) :
    Change state.presence (serverStep sodium state event).presence := by
  unfold serverStep
  cases hsession : state.sessions event.wsi with
  | none =>
      have hclosed : state.presence.sessions event.wsi = none := by
        simp [ChatServerState.presence, hsession]
      cases event with
      | established wsi =>
          simp only
          rw [presence_setSession]
          exact Change.establish hclosed
      | _ => exact Change.none
  | some session =>
      have hopen : state.presence.sessions event.wsi = some session.login := by
        simp [ChatServerState.presence, hsession]
      cases event with
      | established wsi => exact Change.none
      | receive wsi payload whole challenge =>
          simp only [callbackChatControl]
          split_ifs with hmalformed
          · exact sendError_change _ hopen
          · have hmessage : (ServerEvent.receive wsi payload whole
                challenge).message = some (cString payload) := by
              simp [ServerEvent.message, hmalformed]
            exact handleMessage_change hopen fun htype haccepted =>
              not_bound_of_not_rebinds hevent hmessage htype haccepted
      | writeable wsi written =>
          simp only [callbackChatControl]
          split_ifs
          · exact Change.none
          · exact Change.none
          · have hkept : (state.setSession wsi
                { session with pending := [] }).presence = state.presence :=
              presence_setSession_self hopen
            show Change state.presence (state.setSession wsi
              { session with pending := [] }).presence
            rw [hkept]
            exact Change.none
      | closed wsi => exact closeSession_change hsession

/-! ## Soundness -/

/-- An online user is connected: its entry points to an open connection that is
authenticated in its name. -/
def UserConnected (sessions : ℕ → Option (Str × Bool)) (user : ChatServerUser) :
    Prop :=
  user.online = true → ∃ wsi, user.wsi = some wsi ∧ user.session = some wsi ∧
    sessions wsi = some (user.username, true)

/-- A relayed message went to an open connection that was authenticated as the
receiver. -/
def ServerEffect.Addressed : ServerEffect → Prop
  | .relayed receiver _ session _ => session.login = (receiver, true)
  | .dangling _ _ => False

structure PresenceSound (presence : Presence) : Prop where
  users : ∀ user ∈ presence.users, UserConnected presence.sessions user
  log : ∀ effect ∈ presence.log, effect.Addressed

/-- A connection changes, and the users that it serves agree with the
change. -/
theorem UserConnected.update {sessions : ℕ → Option (Str × Bool)}
    {user : ChatServerUser} {wsi : ℕ} {session : Option (Str × Bool)}
    (hconnected : UserConnected sessions user)
    (hagree : user.online = true → user.wsi = some wsi →
      user.session = some wsi → sessions wsi = some (user.username, true) →
      session = some (user.username, true)) :
    UserConnected (Function.update sessions wsi session) user := by
  intro honline
  obtain ⟨target, hwsi, hsession, hopen⟩ := hconnected honline
  refine ⟨target, hwsi, hsession, ?_⟩
  by_cases htarget : target = wsi
  · subst htarget
    rw [Function.update_self]
    exact hagree honline hwsi hsession hopen
  · rw [Function.update_of_ne htarget]
    exact hopen

theorem PresenceSound.bound {presence : Presence}
    (hsound : PresenceSound presence) {name : Str} {wsi : ℕ}
    (hbound : presence.Bound name wsi) :
    presence.sessions wsi = some (name, true) := by
  obtain ⟨user, hmem, rfl, honline, hsession⟩ := hbound
  obtain ⟨target, _, htarget, hopen⟩ := hsound.users user hmem honline
  obtain rfl := Option.some.inj (hsession.symm.trans htarget)
  exact hopen

theorem PresenceSound.append {presence : Presence}
    (hsound : PresenceSound presence) {effect : ServerEffect}
    (heffect : effect.Addressed) :
    PresenceSound { presence with log := presence.log ++ [effect] } where
  users := hsound.users
  log := List.forall_mem_append.mpr
    ⟨hsound.log, List.forall_mem_singleton.mpr heffect⟩

theorem presenceSound_change {presence next : Presence}
    (hchange : Change presence next) (hsound : PresenceSound presence) :
    PresenceSound next := by
  cases hchange with
  | none => exact hsound
  | register hoffline =>
      refine ⟨List.forall_mem_append.mpr ⟨hsound.users,
        List.forall_mem_singleton.mpr fun honline => ?_⟩, hsound.log⟩
      exact absurd (hoffline.symm.trans honline) Bool.false_ne_true
  | hello username hfree =>
      refine ⟨fun user hmem => (hsound.users user hmem).update ?_, hsound.log⟩
      intro honline _ hsession _
      exact absurd ⟨user, hmem, rfl, honline, hsession⟩ (hfree user.username)
  | authenticate hopen =>
      rename_i wsi username authenticated
      refine ⟨fun user hmem => ?_, hsound.log⟩
      rcases mem_changeFirst hmem with hold | ⟨old, _, hname, rfl⟩
      · refine (hsound.users user hold).update ?_
        intro _ _ _ hown
        rw [hopen, Option.some.injEq, Prod.mk.injEq] at hown
        rw [hown.1]
      · intro _
        refine ⟨wsi, rfl, rfl, ?_⟩
        simp only [Function.update_self, setOnline_username, hname]
  | relay json hbound hopen =>
      refine hsound.append (Option.some.inj ?_)
      rw [← hopen, hsound.bound hbound]
  | dangle hbound hclosed =>
      rw [hsound.bound hbound] at hclosed
      exact absurd hclosed (by simp)
  | establish hclosed =>
      refine ⟨fun user hmem => (hsound.users user hmem).update ?_, hsound.log⟩
      intro _ _ _ hopen
      rw [hclosed] at hopen
      exact absurd hopen (by simp)
  | logout wsi =>
      refine ⟨fun user hmem => ?_, hsound.log⟩
      obtain ⟨old, hold, rfl⟩ := List.mem_map.mp hmem
      unfold setOffline
      split_ifs with hserved
      · exact fun honline => absurd honline Bool.false_ne_true
      · exact (hsound.users old hold).update fun _ hwsi => absurd hwsi hserved
  | leave hopen =>
      refine ⟨fun user hmem => (hsound.users user hmem).update ?_, hsound.log⟩
      intro _ _ _ hown
      rw [hopen, Option.some.injEq, Prod.mk.injEq] at hown
      exact absurd hown.2 Bool.false_ne_true

/-- A `hello` on the connection of an online user leaves the user online on a
connection that is not authenticated. -/
theorem not_presenceSound_of_rebinds (sodium : Sodium) {state : ChatServerState}
    {event : ServerEvent} (hsound : PresenceSound state.presence)
    (hevent : rebinds state event = true) :
    ¬ PresenceSound (serverStep sodium state event).presence := by
  cases event with
  | receive wsi payload whole challenge =>
      simp only [rebinds, ServerEvent.message, ServerEvent.wsi] at hevent
      split_ifs at hevent with hmalformed
      · simp at hevent
      · simp only [Option.any_some, Bool.and_eq_true, decide_eq_true_eq,
          List.any_eq_true] at hevent
        obtain ⟨⟨htype, haccepted⟩, user, hmem, honline, hsession⟩ := hevent
        have hsession := of_decide_eq_true hsession
        obtain ⟨username, haccepted⟩ := Option.isSome_iff_exists.mp haccepted
        have hopen := hsound.bound ⟨user, hmem, rfl, honline, hsession⟩
        obtain ⟨session, hsessions, _⟩ := Option.map_eq_some_iff.mp hopen
        obtain ⟨name, hname, htype⟩ := Option.bind_eq_some_iff.mp htype
        have hstep : serverStep sodium state (.receive wsi payload whole
            challenge) = (handleHello state wsi session (cString payload)
              challenge).1 := by
          simp only [serverStep, ServerEvent.wsi, hsessions, callbackChatControl,
            if_neg hmalformed, handleMessage, hname, htype]
        rw [hstep, handleHello_presence haccepted]
        intro hnext
        have hlost := hnext.bound ⟨user, hmem, rfl, honline, hsession⟩
        simp at hlost
  | _ => simp [rebinds, ServerEvent.message] at hevent

/-- From a sound state, an event keeps the presence sound exactly when it does
not rebind. -/
theorem presenceSound_step_iff (sodium : Sodium) {state : ChatServerState}
    (event : ServerEvent) (hsound : PresenceSound state.presence) :
    PresenceSound (serverStep sodium state event).presence ↔
      rebinds state event = false := by
  constructor
  · intro hnext
    by_contra hrebinds
    rw [Bool.not_eq_false] at hrebinds
    exact not_presenceSound_of_rebinds sodium hsound hrebinds hnext
  · intro hevent
    exact presenceSound_change (serverStep_change sodium hevent) hsound

/-- In every run of the server without a `hello` on the connection of an online
user, each online user is served by an open connection that is authenticated
in its name, and messages are relayed to such connections only.  Such a
`hello` breaks this at once. -/
theorem presence_sound_of_not_rebinds (sodium : Sodium)
    {events : List ServerEvent}
    (hevents : Transition.Guarded (serverStep sodium)
      (fun state event => rebinds state event = false) {} events) :
    let state := Transition.run (serverStep sodium) {} events
    (∀ user ∈ state.users.users, user.online = true →
      ∃ wsi session, user.wsi = some wsi ∧ user.session = some wsi ∧
        state.sessions wsi = some session ∧ session.authenticated = true ∧
        session.username = user.username) ∧
    (∀ receiver wsi session json,
      ServerEffect.relayed receiver wsi session json ∈ state.log →
        session.authenticated = true ∧ session.username = receiver) ∧
    (∀ receiver wsi, ServerEffect.dangling receiver wsi ∉ state.log) ∧
    ∀ event, rebinds state event = true →
      ¬ PresenceSound (serverStep sodium state event).presence := by
  intro state
  have hsound : PresenceSound state.presence := by
    have hstep : ∀ state event, rebinds state event = false →
        PresenceSound state.presence →
        PresenceSound (serverStep sodium state event).presence :=
      fun _ event hevent hstate =>
        (presenceSound_step_iff sodium event hstate).mpr hevent
    have hstart : PresenceSound ({} : ChatServerState).presence := ⟨nofun, nofun⟩
    exact Transition.invariant_run hstep hstart hevents
  refine ⟨fun user hmem honline => ?_, fun receiver wsi session json hrelayed => ?_,
    fun receiver wsi hdangling => hsound.log _ hdangling,
    fun event => not_presenceSound_of_rebinds sodium hsound⟩
  · obtain ⟨wsi, hwsi, hsession, hopen⟩ := hsound.users user hmem honline
    obtain ⟨session, hsessions, hlogin⟩ := Option.map_eq_some_iff.mp hopen
    rw [ChatServerSession.login, Prod.mk.injEq] at hlogin
    exact ⟨wsi, session, hwsi, hsession, hsessions, hlogin.2, hlogin.1⟩
  · have hlogin : session.login = (receiver, true) := hsound.log _ hrelayed
    rw [ChatServerSession.login, Prod.mk.injEq] at hlogin
    exact ⟨hlogin.2, hlogin.1⟩

/-- A client registers and logs in on a new connection. -/
def serverLogin (identity : ChatIdentity) (wsi : ℕ) (challenge : Bytes 32) :
    List ServerEvent :=
  let signature := Transparent.sodium.signDetached challenge.toList
    identity.secretKey
  [.established wsi,
    .receive wsi (registerJson identity) true challenge,
    .receive wsi (helloJson identity.username) true challenge,
    .receive wsi (authResponseJson signature) true challenge,
    .writeable wsi true]

/-- Alice and Bob are online. -/
def aliceAndBobOnline : List ServerEvent :=
  serverLogin alice 1 (Transparent.repeated 32 8) ++
    serverLogin bob 2 (Transparent.repeated 32 9)

/-- Bob's request reaches Alice's connection. -/
theorem presence_sound_request :
    let request := offerJson .chatRequest bob alice.username (bytes "ca11")
    let state := Transition.run (serverStep Transparent.sodium) {}
      (aliceAndBobOnline ++
        [.receive 2 request true (Transparent.repeated 32 7)])
    ∃ session, ServerEffect.relayed alice.username 1 session request ∈ state.log ∧
      session.authenticated = true ∧ session.username = alice.username := by
  intro request state
  have hrun : (∃ session ∈ state.sessions 1,
      ServerEffect.relayed alice.username 1 { session with pending := [] } request ∈
        state.log) ∧
      Transition.Guarded (serverStep Transparent.sodium)
        (fun state event => rebinds state event = false) {}
        (aliceAndBobOnline ++
          [.receive 2 request true (Transparent.repeated 32 7)]) := by
    decide +kernel
  obtain ⟨⟨session, _, hrelayed⟩, hguard⟩ := hrun
  exact ⟨_, hrelayed,
    (presence_sound_of_not_rebinds Transparent.sodium hguard).2.1 _ _ _ _ hrelayed⟩

/-- Alice says `hello` again on her connection and disconnects.  She stays
online in the registry, and a message for her reads her freed session. -/
theorem alice_online_without_connection :
    let state := Transition.run (serverStep Transparent.sodium) {}
      (aliceAndBobOnline ++
        [.receive 1 (helloJson alice.username) true (Transparent.repeated 32 7),
          .closed 1,
          .receive 2 (offerJson .chatRequest bob alice.username (bytes "ca11"))
            true (Transparent.repeated 32 7)])
    (∃ user ∈ state.users.users, user.username = alice.username ∧
      user.online = true ∧ user.session = some 1) ∧
      state.sessions 1 = none ∧
      ServerEffect.dangling alice.username 1 ∈ state.log := by
  decide +kernel

end ProntoChat.Server
