import ProntoChat.Server.Delivery

/-!
# Logins at the server

A connection is authenticated by answering a challenge with a signature.  The
fields that record this are written by three handlers; this module relates them
to the messages that the connection received.
-/

namespace ProntoChat.Server

open ProntoChat.QuotedText
open ProntoChat.Protocole
open ProntoChat.Json
open ProntoChat.Daemon (alice bob helloJson)

/-! ## Registered keys -/

/-- Names and keys in the order of their registration. -/
def directory (registry : ChatServerUsers) : List (Str × Bytes 32) :=
  registry.users.map fun user => (user.username, user.identityPk)

/-- The key registered for a name. -/
def registeredKey (registry : ChatServerUsers) (username : Str) :
    Option (Bytes 32) :=
  (chatServerUsersFind registry username).map ChatServerUser.identityPk

theorem registeredKey_eq (registry : ChatServerUsers) (username : Str) :
    registeredKey registry username =
      ((directory registry).find? fun entry => decide (entry.1 = username)).map
        Prod.snd := by
  rw [registeredKey, chatServerUsersFind, directory, List.find?_map, Option.map_map]
  rfl

/-- A registered key is never replaced. -/
theorem registeredKey_of_prefix {registry later : ChatServerUsers} {username : Str}
    {publicKey : Bytes 32}
    (hkey : registeredKey registry username = some publicKey)
    (hlater : directory registry <+: directory later) :
    registeredKey later username = some publicKey := by
  obtain ⟨more, hmore⟩ := hlater
  rw [registeredKey_eq] at hkey ⊢
  obtain ⟨entry, hfind, hentry⟩ := Option.map_eq_some_iff.mp hkey
  rw [← hmore, List.find?_append, hfind, Option.some_or, Option.map_some, hentry]

theorem directory_register (registry : ChatServerUsers) (username : Str)
    (publicKey : Bytes 32) :
    directory registry <+:
      directory (chatServerUsersRegister registry username publicKey).1 := by
  unfold chatServerUsersRegister
  split_ifs
  · simp [directory]
  · exact List.prefix_rfl
  · exact List.prefix_rfl
  · exact List.prefix_rfl

theorem directory_setOnline (registry : ChatServerUsers) (username : Str)
    (wsi : ℕ) :
    directory (chatServerUsersSetOnline registry username wsi).1 =
      directory registry := by
  have hentry (user : ChatServerUser) :
      ((setOnline wsi user).username, (setOnline wsi user).identityPk) =
        (user.username, user.identityPk) := rfl
  unfold chatServerUsersSetOnline
  split
  · rfl
  · exact map_changeFirst username hentry registry.users

theorem directory_setOfflineByWsi (registry : ChatServerUsers) (wsi : ℕ) :
    directory (chatServerUsersSetOfflineByWsi registry wsi) =
      directory registry := by
  simp only [directory, chatServerUsersSetOfflineByWsi, ChatServerUsers.withUsers,
    List.map_map]
  refine List.map_congr_left fun user _ => ?_
  simp only [Function.comp_apply, setOffline]
  split_ifs <;> rfl

@[simp]
theorem users_sendJson (state : ChatServerState) (wsi : ℕ)
    (session : ChatServerSession) (json : Str) :
    (sendJson state wsi session json).1.users = state.users := by
  unfold sendJson
  split_ifs <;> rfl

@[simp]
theorem users_sendFormatted (state : ChatServerState) (wsi : ℕ)
    (session : ChatServerSession) (size : ℕ) (json : Str) :
    (sendFormatted state wsi session size json).1.users = state.users := by
  unfold sendFormatted
  split_ifs
  · rfl
  · exact users_sendJson state wsi session json

@[simp]
theorem users_sendError (state : ChatServerState) (wsi : ℕ)
    (session : ChatServerSession) (code : ErrorCode) :
    (sendError state wsi session code).1.users = state.users :=
  users_sendFormatted state wsi session 256 _

/-- The event is an `auth_response` with a signature of the challenge that
verifies under the key registered for the name. -/
def Verifies (sodium : Sodium) (state : ChatServerState) (event : ServerEvent)
    (username : Str) (challenge : Bytes 32) : Prop :=
  ∃ json signature publicKey, event.message = some json ∧
    jsonType json = some .authResponse ∧
    parseAuthResponse json = some signature ∧
    registeredKey state.users username = some publicKey ∧
    sodium.signVerifyDetached signature challenge.toList publicKey = true

/-- How one event changes the registry. -/
inductive RegistryChange (sodium : Sodium) (state : ChatServerState)
    (event : ServerEvent) : ChatServerUsers → Prop where
  | kept : RegistryChange sodium state event state.users
  | registered (username : Str) (publicKey : Bytes 32) :
      RegistryChange sodium state event
        (chatServerUsersRegister state.users username publicKey).1
  | online {session : ChatServerSession}
      (hopen : state.sessions event.wsi = some session)
      (hchallenge : session.hasChallenge = true)
      (hverifies :
        Verifies sodium state event session.username session.challenge) :
      RegistryChange sodium state event
        (chatServerUsersSetOnline state.users session.username event.wsi).1
  | offline {session : ChatServerSession} {wsi : ℕ} (hevent : event = .closed wsi)
      (hopen : state.sessions wsi = some session)
      (hauthenticated : session.authenticated = true) :
      RegistryChange sodium state event
        (chatServerUsersSetOfflineByWsi state.users wsi)

section Registry

variable {sodium : Sodium} {state : ChatServerState} {wsi : ℕ}
  {session : ChatServerSession} {json : Str}

theorem users_handleRegister :
    (handleRegister state wsi session json).1.users = state.users ∨
      ∃ username publicKey, (handleRegister state wsi session json).1.users =
        (chatServerUsersRegister state.users username publicKey).1 := by
  unfold handleRegister
  split
  · rw [users_sendError]
    exact Or.inl rfl
  · rename_i username publicKey _
    refine Or.inr ⟨username, publicKey, ?_⟩
    split
    · rename_i hresult
      rw [users_sendJson, hresult]
      rfl
    · rename_i hresult
      rw [users_sendError, hresult]
      rfl

theorem users_handleHello (challenge : Bytes 32) :
    (handleHello state wsi session json challenge).1.users = state.users := by
  unfold handleHello
  split
  · rw [users_sendError]
  · split
    · rw [users_sendError]
    · rw [users_sendFormatted]
      rfl

/-- The registry changes exactly when the signature verifies. -/
theorem users_handleAuthResponse :
    (handleAuthResponse sodium state wsi session json).1.users = state.users ∨
    (session.hasChallenge = true ∧
      (∃ signature publicKey, parseAuthResponse json = some signature ∧
        registeredKey state.users session.username = some publicKey ∧
        sodium.signVerifyDetached signature session.challenge.toList publicKey =
          true) ∧
      (handleAuthResponse sodium state wsi session json).1.users =
        (chatServerUsersSetOnline state.users session.username wsi).1) := by
  unfold handleAuthResponse
  split_ifs with hstarted
  · exact Or.inl (users_sendError _ _ _ _)
  · split
    · exact Or.inl (users_sendError _ _ _ _)
    · rename_i signature hsignature
      split
      · exact Or.inl (users_sendError _ _ _ _)
      · rename_i user hfind
        split_ifs with hverify
        · exact Or.inl (users_sendError _ _ _ _)
        · right
          simp only [chatServerUsersSetOnline, hfind, users_sendJson]
          refine ⟨?_, ⟨signature, user.identityPk, hsignature, ?_, ?_⟩, rfl⟩
          · simpa using fun h => hstarted (Or.inl h)
          · rw [registeredKey, hfind, Option.map_some]
          · simpa using hverify

theorem users_handleUserLookup :
    (handleUserLookup state wsi session json).1.users = state.users := by
  unfold handleUserLookup
  split_ifs
  · rw [users_sendError]
  · split
    · rw [users_sendError]
    · rw [users_sendFormatted]

theorem users_handleSignalingForward (type : ControlType) :
    (handleSignalingForward state wsi session json type).1.users = state.users := by
  unfold handleSignalingForward
  split
  · rw [users_sendError]
  · unfold forwardTo
    split
    · rw [users_sendError]
    · split
      · rfl
      · split_ifs
        · rw [users_sendError]
        · rw [users_sendJson]
          rfl

theorem registryChange_receive {payload : List UInt8} {whole : Bool}
    {challenge : Bytes 32} (hopen : state.sessions wsi = some session)
    (hmessage : (ServerEvent.receive wsi payload whole challenge).message =
      some json) :
    RegistryChange sodium state (.receive wsi payload whole challenge)
      (handleMessage sodium state wsi session json challenge).1.users := by
  unfold handleMessage
  split
  · rw [users_sendError]
    exact RegistryChange.kept
  · rename_i name hname
    split
    · rcases users_handleRegister with hkept | ⟨username, publicKey, hregistered⟩
      · rw [hkept]
        exact RegistryChange.kept
      · rw [hregistered]
        exact RegistryChange.registered username publicKey
    · rw [users_handleHello]
      exact RegistryChange.kept
    · rename_i htype
      rcases users_handleAuthResponse with
        hkept | ⟨hchallenge, ⟨signature, publicKey, hverified⟩, honline⟩
      · rw [hkept]
        exact RegistryChange.kept
      · have hjson : jsonType json = some .authResponse := by
          rw [jsonType, hname, Option.bind_some, htype]
        rw [honline]
        exact RegistryChange.online hopen hchallenge
          ⟨json, signature, publicKey, hmessage, hjson, hverified⟩
    · rw [users_handleUserLookup]
      exact RegistryChange.kept
    · split_ifs
      · rw [users_handleSignalingForward]
        exact RegistryChange.kept
      · rw [users_sendError]
        exact RegistryChange.kept
    · rw [users_sendError]
      exact RegistryChange.kept

end Registry

theorem registryChange_step (sodium : Sodium) (state : ChatServerState)
    (event : ServerEvent) :
    RegistryChange sodium state event (serverStep sodium state event).users := by
  cases hsession : state.sessions event.wsi with
  | none =>
      rcases serverStep_closed sodium hsession with hstep | hstep <;> rw [hstep]
      · exact RegistryChange.kept
      · exact RegistryChange.kept
  | some session =>
      rw [serverStep_open sodium hsession]
      cases event with
      | established wsi => exact RegistryChange.kept
      | receive wsi payload whole challenge =>
          simp only [callbackChatControl]
          split_ifs with hmalformed
          · rw [users_sendError]
            exact RegistryChange.kept
          · exact registryChange_receive hsession (if_neg hmalformed)
      | writeable wsi written =>
          simp only [callbackChatControl]
          split_ifs <;> exact RegistryChange.kept
      | closed wsi =>
          simp only [callbackChatControl, closeSession]
          split_ifs with hauthenticated
          · exact RegistryChange.offline rfl hsession hauthenticated
          · exact RegistryChange.kept

/-- Registered names and keys stay. -/
theorem directory_step (sodium : Sodium) (state : ChatServerState)
    (event : ServerEvent) :
    directory state.users <+: directory (serverStep sodium state event).users := by
  have hchange := registryChange_step sodium state event
  generalize (serverStep sodium state event).users = users at hchange
  cases hchange with
  | kept => exact List.prefix_rfl
  | registered username publicKey =>
      exact directory_register state.users username publicKey
  | online _ _ _ => rw [directory_setOnline]
  | offline _ _ _ => rw [directory_setOfflineByWsi]

theorem directory_run (sodium : Sodium) (state : ChatServerState)
    (events : List ServerEvent) :
    directory state.users <+:
      directory (Transition.run (serverStep sodium) state events).users := by
  induction events generalizing state with
  | nil => exact List.prefix_rfl
  | cons event events ih => exact (directory_step sodium state event).trans (ih _)

/-! ## Accounts of connections -/

/-- A session without its buffer. -/
def ChatServerSession.account (session : ChatServerSession) : ChatServerSession :=
  { session with pending := [] }

/-- What the server knows about the user of a connection. -/
def ChatServerState.account (state : ChatServerState) (wsi : ℕ) :
    Option ChatServerSession :=
  (state.sessions wsi).map ChatServerSession.account

/-- The name and the challenge of a `hello` that the server accepts. -/
def issuedChallenge (state : ChatServerState) : ServerEvent → Option (Str × Bytes 32)
  | .receive wsi payload whole challenge =>
      (state.sessions wsi).bind fun _ =>
        (ServerEvent.receive wsi payload whole challenge).message.bind fun json =>
          if jsonType json = some .hello then
            (acceptedHello state json).map fun username => (username, challenge)
          else none
  | _ => none

/-- The event neither starts a new login on the connection nor closes it. -/
def Quiet (wsi : ℕ) (state : ChatServerState) (event : ServerEvent) : Prop :=
  event.wsi = wsi → issuedChallenge state event = none ∧ event ≠ .closed wsi

/-- How one event changes the account of a connection. -/
inductive AccountChange (sodium : Sodium) (state : ChatServerState) (wsi : ℕ)
    (event : ServerEvent) :
    Option ChatServerSession → Option ChatServerSession → Prop where
  | kept {account : Option ChatServerSession} (hquiet : Quiet wsi state event) :
      AccountChange sodium state wsi event account account
  | established : AccountChange sodium state wsi event none (some {})
  | closed {account : Option ChatServerSession} (hevent : event = .closed wsi) :
      AccountChange sodium state wsi event account none
  | challenged {account : ChatServerSession} {username : Str}
      {challenge : Bytes 32} (hevent : event.wsi = wsi)
      (hissued : issuedChallenge state event = some (username, challenge)) :
      AccountChange sodium state wsi event (some account)
        (some { username, challenge, hasChallenge := true })
  | authenticated {account : ChatServerSession} (hevent : event.wsi = wsi)
      (hquiet : Quiet wsi state event) (hchallenge : account.hasChallenge = true)
      (hverifies :
        Verifies sodium state event account.username account.challenge) :
      AccountChange sodium state wsi event (some account)
        (some { username := account.username, authenticated := true })

theorem account_setSession (state : ChatServerState) (wsi : ℕ)
    (session : ChatServerSession) :
    (state.setSession wsi session).account =
      Function.update state.account wsi (some session.account) := by
  funext other
  by_cases hother : other = wsi
  · subst hother
    simp [ChatServerState.account, ChatServerState.setSession]
  · simp [ChatServerState.account, ChatServerState.setSession, hother]

section Handlers

variable {sodium : Sodium} {state : ChatServerState} {wsi : ℕ}
  {session : ChatServerSession} {json : Str}

/-- Replies keep the accounts. -/
theorem account_sendJson (json : Str)
    (hopen : state.account wsi = some session.account) :
    (sendJson state wsi session json).1.account = state.account := by
  unfold sendJson
  split_ifs
  · rfl
  · rw [account_setSession]
    exact Function.update_eq_self_iff.mpr hopen.symm

theorem account_sendFormatted (size : ℕ) (json : Str)
    (hopen : state.account wsi = some session.account) :
    (sendFormatted state wsi session size json).1.account = state.account := by
  unfold sendFormatted
  split_ifs
  · rfl
  · exact account_sendJson json hopen

theorem account_sendError (code : ErrorCode)
    (hopen : state.account wsi = some session.account) :
    (sendError state wsi session code).1.account = state.account :=
  account_sendFormatted 256 _ hopen

theorem account_handleRegister
    (hopen : state.account wsi = some session.account) :
    (handleRegister state wsi session json).1.account = state.account := by
  have hregistered (users : ChatServerUsers) :
      (state.setUsers users).account wsi = some session.account := hopen
  unfold handleRegister
  split
  · exact account_sendError _ hopen
  · split
    · exact account_sendJson _ (hregistered _)
    · exact account_sendError _ (hregistered _)

theorem account_handleHello {challenge : Bytes 32} {username : Str}
    (haccepted : acceptedHello state json = some username) :
    (handleHello state wsi session json challenge).1.account =
      Function.update state.account wsi
        (some { username, challenge, hasChallenge := true }) := by
  obtain ⟨hparse, hknown⟩ := Option.filter_eq_some_iff.mp haccepted
  obtain ⟨user, hfind⟩ := Option.isSome_iff_exists.mp hknown
  simp only [handleHello, hparse, hfind]
  rw [account_sendFormatted, account_setSession]
  · rfl
  · rw [account_setSession]
    exact Function.update_self _ _ _

/-- An `auth_response` changes the account exactly when its signature
verifies. -/
theorem account_handleAuthResponse
    (hopen : state.account wsi = some session.account) :
    (handleAuthResponse sodium state wsi session json).1.account = state.account ∨
    (session.hasChallenge = true ∧
      (∃ signature publicKey, parseAuthResponse json = some signature ∧
        registeredKey state.users session.username = some publicKey ∧
        sodium.signVerifyDetached signature session.challenge.toList publicKey =
          true) ∧
      (handleAuthResponse sodium state wsi session json).1.account =
        Function.update state.account wsi
          (some { username := session.username, authenticated := true })) := by
  unfold handleAuthResponse
  split_ifs with hstarted
  · exact Or.inl (account_sendError _ hopen)
  · split
    · exact Or.inl (account_sendError _ hopen)
    · rename_i signature hsignature
      split
      · exact Or.inl (account_sendError _ hopen)
      · rename_i user hfind
        split_ifs with hverify
        · exact Or.inl (account_sendError _ hopen)
        · right
          simp only [chatServerUsersSetOnline, hfind]
          refine ⟨?_, ⟨signature, user.identityPk, hsignature, ?_, ?_⟩, ?_⟩
          · simpa using fun h => hstarted (Or.inl h)
          · rw [registeredKey, hfind, Option.map_some]
          · simpa using hverify
          · rw [account_sendJson, account_setSession]
            · rfl
            · rw [account_setSession]
              exact Function.update_self _ _ _

theorem account_handleUserLookup
    (hopen : state.account wsi = some session.account) :
    (handleUserLookup state wsi session json).1.account = state.account := by
  unfold handleUserLookup
  split_ifs
  · exact account_sendError _ hopen
  · split
    · exact account_sendError _ hopen
    · exact account_sendFormatted _ _ hopen

theorem account_handleSignalingForward (type : ControlType)
    (hopen : state.account wsi = some session.account) :
    (handleSignalingForward state wsi session json type).1.account =
      state.account := by
  unfold handleSignalingForward
  split
  · exact account_sendError _ hopen
  · unfold forwardTo
    split
    · exact account_sendError _ hopen
    · split
      · rfl
      · rename_i targetSession htarget
        split_ifs
        · exact account_sendError _ hopen
        · refine account_sendJson _ ?_
          simp [ChatServerState.account, ChatServerState.emit, htarget]

/-- A message keeps the accounts, or it is an accepted `hello`, or it is an
`auth_response` that verifies. -/
theorem account_handleMessage (challenge : Bytes 32)
    (hopen : state.account wsi = some session.account) :
    let next := (handleMessage sodium state wsi session json challenge).1
    (next.account = state.account ∧
      (jsonType json = some .hello → acceptedHello state json = none)) ∨
    (∃ username, jsonType json = some .hello ∧
      acceptedHello state json = some username ∧
      next.account = Function.update state.account wsi
        (some { username, challenge, hasChallenge := true })) ∨
    (jsonType json = some .authResponse ∧ session.hasChallenge = true ∧
      (∃ signature publicKey, parseAuthResponse json = some signature ∧
        registeredKey state.users session.username = some publicKey ∧
        sodium.signVerifyDetached signature session.challenge.toList publicKey =
          true) ∧
      next.account = Function.update state.account wsi
        (some { username := session.username, authenticated := true })) := by
  intro next
  simp only [next]
  unfold handleMessage
  split
  · rename_i hname
    exact Or.inl ⟨account_sendError _ hopen, by simp [jsonType, hname]⟩
  · rename_i name hname
    have hjson : jsonType json = ControlType.ofName name := by
      rw [jsonType, hname, Option.bind_some]
    split
    · rename_i htype
      exact Or.inl ⟨account_handleRegister hopen, by simp [hjson, htype]⟩
    · rename_i htype
      cases haccepted : acceptedHello state json with
      | none =>
          obtain ⟨code, hrefused⟩ := handleHello_refused haccepted
          rw [hrefused]
          exact Or.inl ⟨account_sendError code hopen, fun _ => rfl⟩
      | some username =>
          exact Or.inr (Or.inl ⟨username, hjson.trans htype, rfl,
            account_handleHello haccepted⟩)
    · rename_i htype
      rcases account_handleAuthResponse hopen with hkept | hverified
      · exact Or.inl ⟨hkept, by simp [hjson, htype]⟩
      · exact Or.inr (Or.inr ⟨hjson.trans htype, hverified⟩)
    · rename_i htype
      exact Or.inl ⟨account_handleUserLookup hopen, by simp [hjson, htype]⟩
    · rename_i type _ hhello _ _ htype
      have hother : jsonType json ≠ some .hello := by
        rw [hjson, htype]
        intro hsame
        exact hhello (Option.some.inj hsame)
      refine Or.inl ⟨?_, fun hsame => absurd hsame hother⟩
      split_ifs
      · exact account_handleSignalingForward type hopen
      · exact account_sendError _ hopen
    · rename_i htype
      exact Or.inl ⟨account_sendError _ hopen, by simp [hjson, htype]⟩

end Handlers

/-- Only the events of a connection start a login on it or close it. -/
theorem quiet_of_ne {wsi : ℕ} {state : ChatServerState} {event : ServerEvent}
    (hother : event.wsi ≠ wsi) : Quiet wsi state event :=
  fun hsame => absurd hsame hother

theorem issuedChallenge_receive {state : ChatServerState} {wsi : ℕ}
    {payload : List UInt8} {whole : Bool} {challenge : Bytes 32} {json : Str}
    {session : ChatServerSession} (hopen : state.sessions wsi = some session)
    (hmessage : (ServerEvent.receive wsi payload whole challenge).message =
      some json) :
    issuedChallenge state (.receive wsi payload whole challenge) =
      if jsonType json = some .hello then
        (acceptedHello state json).map fun username => (username, challenge)
      else none := by
  rw [issuedChallenge, hopen, hmessage]
  rfl

/-- A connection whose account is replaced, seen from any connection. -/
theorem accountChange_update {sodium : Sodium} {state : ChatServerState}
    {event : ServerEvent} {account : Option ChatServerSession} (wsi : ℕ)
    (hown : AccountChange sodium state event.wsi event (state.account event.wsi)
      account) :
    AccountChange sodium state wsi event (state.account wsi)
      (Function.update state.account event.wsi account wsi) := by
  by_cases hother : wsi = event.wsi
  · subst hother
    rw [Function.update_self]
    exact hown
  · rw [Function.update_of_ne hother]
    exact AccountChange.kept (quiet_of_ne (Ne.symm hother))

theorem accountChange_receive (sodium : Sodium) {state : ChatServerState}
    {own : ℕ} {session : ChatServerSession} (payload : List UInt8) (whole : Bool)
    (challenge : Bytes 32) (hsession : state.sessions own = some session)
    (wsi : ℕ) :
    AccountChange sodium state wsi (.receive own payload whole challenge)
      (state.account wsi)
      ((serverStep sodium state
        (.receive own payload whole challenge)).account wsi) := by
  have hopen : state.account own = some session.account := by
    simp [ChatServerState.account, hsession]
  rw [serverStep_open sodium hsession]
  simp only [callbackChatControl]
  split_ifs with hmalformed
  · rw [account_sendError _ hopen]
    refine AccountChange.kept fun _ => ⟨?_, by simp⟩
    have hmessage : (ServerEvent.receive own payload whole challenge).message =
        none := if_pos hmalformed
    rw [issuedChallenge, hmessage, hsession]
    rfl
  · have hmessage : (ServerEvent.receive own payload whole challenge).message =
        some (cString payload) := if_neg hmalformed
    have hissued := issuedChallenge_receive hsession hmessage
    rcases account_handleMessage challenge hopen with
      ⟨hkept, hrefused⟩ | ⟨username, htype, haccepted, hnext⟩ |
        ⟨htype, hchallenge, ⟨signature, publicKey, hverified⟩, hnext⟩
    · rw [hkept]
      refine AccountChange.kept fun _ => ⟨?_, by simp⟩
      rw [hissued]
      split_ifs with hhello
      · rw [hrefused hhello, Option.map_none]
      · rfl
    · rw [if_pos htype, haccepted, Option.map_some] at hissued
      rw [hnext]
      refine accountChange_update wsi ?_
      rw [ServerEvent.wsi, hopen]
      exact AccountChange.challenged rfl hissued
    · rw [hnext]
      refine accountChange_update wsi ?_
      rw [ServerEvent.wsi, hopen]
      have hverifies : Verifies sodium state
          (.receive own payload whole challenge) session.account.username
          session.account.challenge :=
        ⟨_, signature, publicKey, hmessage, htype, hverified⟩
      refine AccountChange.authenticated rfl (fun _ => ⟨?_, by simp⟩) hchallenge
        hverifies
      rw [hissued, htype]
      rfl

theorem accountChange_step (sodium : Sodium) (state : ChatServerState)
    (event : ServerEvent) (wsi : ℕ) :
    AccountChange sodium state wsi event (state.account wsi)
      ((serverStep sodium state event).account wsi) := by
  cases hsession : state.sessions event.wsi with
  | none =>
      have hclosed : state.account event.wsi = none := by
        simp [ChatServerState.account, hsession]
      cases event with
      | established own =>
          have hstep : serverStep sodium state (.established own) =
              state.setSession own {} := by
            simp only [serverStep, hsession]
          rw [hstep, account_setSession]
          refine accountChange_update wsi ?_
          rw [hclosed]
          exact AccountChange.established
      | receive own payload whole challenge =>
          change state.sessions own = none at hsession
          simp only [serverStep, ServerEvent.wsi, hsession]
          refine AccountChange.kept fun _ => ⟨?_, by simp⟩
          rw [issuedChallenge, hsession]
          rfl
      | writeable own written =>
          simp only [serverStep, hsession]
          exact AccountChange.kept fun _ => ⟨rfl, by simp⟩
      | closed own =>
          simp only [serverStep, hsession]
          by_cases hother : wsi = own
          · subst hother
            rw [show state.account wsi = none from hclosed]
            exact AccountChange.closed rfl
          · exact AccountChange.kept (quiet_of_ne (Ne.symm hother))
  | some session =>
      cases event with
      | established own =>
          rw [serverStep_open sodium hsession]
          exact AccountChange.kept fun _ => ⟨rfl, by simp⟩
      | receive own payload whole challenge =>
          exact accountChange_receive sodium payload whole challenge hsession wsi
      | writeable own written =>
          have hopen : state.account own = some session.account := by
            change state.sessions own = some session at hsession
            simp [ChatServerState.account, hsession]
          have hkept : (serverStep sodium state (.writeable own written)).account =
              state.account := by
            rw [serverStep_open sodium hsession]
            simp only [callbackChatControl]
            split_ifs
            · rfl
            · rfl
            · show (state.setSession own { session with pending := [] }).account =
                state.account
              rw [account_setSession]
              exact Function.update_eq_self_iff.mpr hopen.symm
          rw [hkept]
          exact AccountChange.kept fun _ => ⟨rfl, by simp⟩
      | closed own =>
          have hnext : (serverStep sodium state (.closed own)).account =
              Function.update state.account own none := by
            rw [serverStep_open sodium hsession]
            funext other
            by_cases hother : other = own
            · subst hother
              simp [ChatServerState.account, callbackChatControl, closeSession]
            · simp [ChatServerState.account, callbackChatControl, closeSession, hother]
          rw [hnext]
          exact accountChange_update wsi (AccountChange.closed rfl)

/-! ## Histories -/

/-- The last login on the connection was started for the name and issued the
challenge. -/
def Challenged (sodium : Sodium) (wsi : ℕ) (username : Str) (challenge : Bytes 32)
    (events : List ServerEvent) : Prop :=
  Transition.Since (serverStep sodium) {}
    (fun before event => event.wsi = wsi ∧
      issuedChallenge (Transition.run (serverStep sodium) {} before) event =
        some (username, challenge))
    (Quiet wsi) events

/-- The last login on the connection was completed for the name: its challenge
was answered by a signature that verifies. -/
def LoggedIn (sodium : Sodium) (wsi : ℕ) (username : Str)
    (events : List ServerEvent) : Prop :=
  Transition.Since (serverStep sodium) {}
    (fun before event => event.wsi = wsi ∧
      ∃ challenge, Challenged sodium wsi username challenge before ∧
        Verifies sodium (Transition.run (serverStep sodium) {} before) event
          username challenge)
    (Quiet wsi) events

/-- The account of a connection follows from its history. -/
structure AccountJustified (sodium : Sodium) (wsi : ℕ)
    (events : List ServerEvent) (account : ChatServerSession) : Prop where
  challenged : account.hasChallenge = true →
    Challenged sodium wsi account.username account.challenge events
  loggedIn : account.authenticated = true →
    LoggedIn sodium wsi account.username events

/-- Every account of the state follows from the events before it. -/
def Justified (sodium : Sodium) (wsi : ℕ) (events : List ServerEvent)
    (state : ChatServerState) : Prop :=
  ∀ account, state.account wsi = some account →
    AccountJustified sodium wsi events account

theorem AccountJustified.append {sodium : Sodium} {wsi : ℕ}
    {events : List ServerEvent} {account : ChatServerSession} {event : ServerEvent}
    (hjustified : AccountJustified sodium wsi events account)
    (hquiet : Quiet wsi (Transition.run (serverStep sodium) {} events) event) :
    AccountJustified sodium wsi (events ++ [event]) account where
  challenged hchallenge := (hjustified.challenged hchallenge).append hquiet
  loggedIn hauthenticated := (hjustified.loggedIn hauthenticated).append hquiet

/-- In every run, a challenge is that of the last accepted `hello` of its
connection, and an authenticated connection has answered it. -/
theorem justified_run (sodium : Sodium) (wsi : ℕ) (events : List ServerEvent) :
    Justified sodium wsi events (Transition.run (serverStep sodium) {} events) := by
  refine Transition.history_run (fun account hnone => ?_) ?_ events
  · exact absurd hnone (by simp [ChatServerState.account])
  intro events event hjustified next hnext
  have hchange := accountChange_step sodium
    (Transition.run (serverStep sodium) {} events) event wsi
  rw [hnext] at hchange
  generalize haccount :
    (Transition.run (serverStep sodium) {} events).account wsi = account at hchange
  cases hchange with
  | kept hquiet => exact (hjustified next haccount).append hquiet
  | established => exact ⟨nofun, nofun⟩
  | challenged hevent hissued =>
      exact ⟨fun _ => Transition.since_happened ⟨hevent, hissued⟩, nofun⟩
  | authenticated hevent hquiet hchallenge hverifies =>
      have hchallenged := (hjustified _ haccount).challenged hchallenge
      exact ⟨nofun, fun _ => Transition.since_happened
        ⟨hevent, _, hchallenged, hverifies⟩⟩

/-! ## Every challenge is answered once -/

/-- The event completes a login on the connection. -/
def Authenticates (sodium : Sodium) (wsi : ℕ) (state : ChatServerState)
    (event : ServerEvent) : Prop :=
  event.wsi = wsi ∧ ∃ session, state.sessions wsi = some session ∧
    session.hasChallenge = true ∧
    Verifies sodium state event session.username session.challenge

theorem registeredKey_some {registry : ChatServerUsers} {username : Str}
    {publicKey : Bytes 32}
    (hkey : registeredKey registry username = some publicKey) :
    ∃ user, chatServerUsersFind registry username = some user ∧
      user.identityPk = publicKey ∧ username ≠ [] := by
  obtain ⟨user, hfind, hpk⟩ := Option.map_eq_some_iff.mp hkey
  obtain ⟨hmem, hname⟩ := chatServerUsersFind_some hfind
  refine ⟨user, hfind, hpk, fun hempty => ?_⟩
  have hvalid := registry.valid user hmem
  rw [hname, hempty] at hvalid
  exact absurd hvalid (by decide)

section CompletedLogin

variable {sodium : Sodium} {state : ChatServerState} {event : ServerEvent}
  {session : ChatServerSession}

/-- The step of an event that completes a login. -/
theorem serverStep_of_verifies
    (hsession : state.sessions event.wsi = some session)
    (hchallenge : session.hasChallenge = true)
    (hverifies : Verifies sodium state event session.username session.challenge) :
    let online :=
      { session with
        challenge := zeroBytes 32
        hasChallenge := false
        authenticated := true }
    let users := (chatServerUsersSetOnline state.users session.username event.wsi).1
    serverStep sodium state event =
      (sendJson ((state.setUsers users).setSession event.wsi online) event.wsi online
        authOkJson).1 := by
  obtain ⟨json, signature, publicKey, hmessage, htype, hsignature, hkey, hverify⟩ :=
    hverifies
  obtain ⟨user, hfind, rfl, hname⟩ := registeredKey_some hkey
  cases event with
  | receive wsi payload whole challenge =>
      change state.sessions wsi = some session at hsession
      simp only [ServerEvent.message] at hmessage
      split_ifs at hmessage with hmalformed
      obtain rfl := Option.some.inj hmessage
      obtain ⟨name, hread, hof⟩ := Option.bind_eq_some_iff.mp htype
      have hstarted : ¬ (session.hasChallenge = false ∨ session.username = []) := by
        simp [hchallenge, hname]
      have hverified : ¬ sodium.signVerifyDetached signature
          session.challenge.toList user.identityPk = false := by
        simp [hverify]
      rw [serverStep_open sodium hsession]
      simp only [callbackChatControl, if_neg hmalformed, handleMessage, hread, hof,
        handleAuthResponse, if_neg hstarted, hsignature, hfind, if_neg hverified,
        chatServerUsersSetOnline, ServerEvent.wsi]
  | _ => simp [ServerEvent.message] at hmessage

/-- A completed login uses up the challenge. -/
theorem account_of_verifies
    (hsession : state.sessions event.wsi = some session)
    (hchallenge : session.hasChallenge = true)
    (hverifies : Verifies sodium state event session.username session.challenge) :
    (serverStep sodium state event).account event.wsi =
      some { username := session.username, authenticated := true } := by
  rw [serverStep_of_verifies hsession hchallenge hverifies]
  rw [account_sendJson, account_setSession]
  · exact Function.update_self _ _ _
  · rw [account_setSession]
    exact Function.update_self _ _ _

/-- A completed login puts the user online. -/
theorem users_of_verifies
    (hsession : state.sessions event.wsi = some session)
    (hchallenge : session.hasChallenge = true)
    (hverifies : Verifies sodium state event session.username session.challenge) :
    (serverStep sodium state event).users =
      (chatServerUsersSetOnline state.users session.username event.wsi).1 := by
  rw [serverStep_of_verifies hsession hchallenge hverifies]
  exact users_sendJson _ _ _ _

end CompletedLogin

/-- Between two completed logins of a connection another one is started, or the
connection is closed. -/
theorem not_quiet_between {sodium : Sodium} {wsi : ℕ} {state : ChatServerState}
    {first second : ServerEvent} {between : List ServerEvent}
    (hfirst : Authenticates sodium wsi state first)
    (hsecond : Authenticates sodium wsi
      (Transition.run (serverStep sodium) (serverStep sodium state first) between)
      second) :
    ¬ Transition.Guarded (serverStep sodium) (Quiet wsi)
      (serverStep sodium state first) between := by
  intro hquiet
  have hstep : ∀ state event, Quiet wsi state event →
      (∀ account, state.account wsi = some account →
        account.hasChallenge = false) →
      ∀ account, (serverStep sodium state event).account wsi = some account →
        account.hasChallenge = false := by
    intro state event hevent hused next hnext
    have hchange := accountChange_step sodium state event wsi
    rw [hnext] at hchange
    generalize haccount : state.account wsi = account at hchange
    cases hchange with
    | kept _ => exact hused next haccount
    | established => rfl
    | challenged hown hissued =>
        rw [(hevent hown).1] at hissued
        exact absurd hissued (by simp)
    | authenticated _ _ _ _ => rfl
  obtain ⟨rfl, _, hfirstOpen, hfirstChallenge, hverifies⟩ := hfirst
  have haccount := account_of_verifies hfirstOpen hfirstChallenge hverifies
  have hstart : ∀ account, (serverStep sodium state first).account first.wsi =
      some account → account.hasChallenge = false := by
    intro account hsome
    obtain rfl := Option.some.inj (haccount.symm.trans hsome)
    rfl
  have hused := Transition.invariant_run hstep hstart hquiet
  obtain ⟨_, session, hsession, hchallenge, _⟩ := hsecond
  have hopen : (Transition.run (serverStep sodium) (serverStep sodium state first)
      between).account first.wsi = some session.account := by
    simp [ChatServerState.account, hsession]
  have hunused := hused session.account hopen
  exact absurd (hchallenge.symm.trans hunused) (by decide)

/-! ## Replies to connections that are not authenticated -/

theorem ErrorCode.plain_text (code : ErrorCode) :
    Plain code.text ∧ code.text.length ≤ 31 := by
  cases code with
  | users result => cases result <;> decide
  | _ => decide

theorem jsonType_errorJson (code : ErrorCode) :
    jsonType (errorJson code.text) = some .error :=
  jsonType_object .error (List.forall_mem_singleton.mpr
    ⟨JsonKey.code.searchName.plain, code.plain_text.1⟩)

theorem length_authChallengeJson_reply (challenge : Bytes 32) :
    (authChallengeJson challenge).length < 192 := by
  have := ControlType.authChallenge.plain_name.2
  have := JsonKey.type.length_name_le
  have := JsonKey.challenge.length_name_le
  simp only [authChallengeJson, length_object, List.map_cons, List.map_nil,
    List.sum_cons, List.sum_nil, length_sodiumBin2hex]
  omega

theorem length_errorJson (code : ErrorCode) : (errorJson code.text).length < 256 := by
  have := code.plain_text.2
  have := ControlType.error.plain_name.2
  have := JsonKey.type.length_name_le
  have := JsonKey.code.length_name_le
  simp only [errorJson, length_object, List.map_cons, List.map_nil, List.sum_cons,
    List.sum_nil]
  omega

/-- The buffer of the connection holds a reply of one of the types that a
connection gets before it is authenticated. -/
def PlainReply (state : ChatServerState) (wsi : ℕ) : Prop :=
  ∃ reply, state.held wsi = some reply ∧
    jsonType reply ∈ [some ControlType.error, some .registerOk, some .authChallenge,
      some .authOk]

section Replies

variable {sodium : Sodium} {state : ChatServerState} {wsi : ℕ}
  {session : ChatServerSession} {json : Str}

theorem held_sendJson {members : List (Str × Str)}
    (hlength : (object members).length < chatServerMaxJsonSize) :
    (sendJson state wsi session (object members)).1.held wsi =
      some (object members) := by
  have hsome : object members ≠ [] := by
    cases members <;> simp [object]
  simp [sendJson, not_le.mpr hlength, ChatServerState.held,
    ChatServerState.setSession, hsome]

theorem held_sendError (code : ErrorCode) :
    (sendError state wsi session code).1.held wsi = some (errorJson code.text) := by
  have hlength := length_errorJson code
  have hfits : (errorJson code.text).length < chatServerMaxJsonSize :=
    hlength.trans (by decide)
  rw [sendError, sendFormatted, if_neg (not_le.mpr hlength)]
  exact held_sendJson hfits

/-- A property of the replies of the login.  Only a signalling message is
answered with `peer_offline`. -/
structure LoginReplies (P : Str → Prop) : Prop where
  error : ∀ code : ErrorCode, code ≠ .peerOffline → P (errorJson code.text)
  registered : P registerOkJson
  challenged : ∀ challenge, P (authChallengeJson challenge)
  online : P authOkJson

section Holds

variable {P : Str → Prop} (hreplies : LoginReplies P)

include hreplies

theorem LoginReplies.holds_error {code : ErrorCode} (hcode : code ≠ .peerOffline) :
    ∃ reply, (sendError state wsi session code).1.held wsi = some reply ∧ P reply :=
  ⟨_, held_sendError code, hreplies.error code hcode⟩

theorem LoginReplies.holds_handleRegister :
    ∃ reply, (handleRegister state wsi session json).1.held wsi = some reply ∧
      P reply := by
  unfold handleRegister
  split
  · exact hreplies.holds_error nofun
  · split
    · exact ⟨_, held_sendJson (by decide), hreplies.registered⟩
    · exact hreplies.holds_error nofun

theorem LoginReplies.holds_handleHello (challenge : Bytes 32) :
    ∃ reply, (handleHello state wsi session json challenge).1.held wsi = some reply ∧
      P reply := by
  have hlength := length_authChallengeJson_reply challenge
  have hfits : (authChallengeJson challenge).length < chatServerMaxJsonSize :=
    hlength.trans (by decide)
  unfold handleHello
  split
  · exact hreplies.holds_error nofun
  · split
    · exact hreplies.holds_error nofun
    · simp only [sendFormatted, if_neg (not_le.mpr hlength)]
      exact ⟨_, held_sendJson hfits, hreplies.challenged challenge⟩

theorem LoginReplies.holds_handleAuthResponse :
    ∃ reply, (handleAuthResponse sodium state wsi session json).1.held wsi =
      some reply ∧ P reply := by
  unfold handleAuthResponse
  split_ifs
  · exact hreplies.holds_error nofun
  · split
    · exact hreplies.holds_error nofun
    · split
      · exact hreplies.holds_error nofun
      · split_ifs
        · exact hreplies.holds_error nofun
        · simp only
          split
          · exact ⟨_, held_sendJson (by decide), hreplies.online⟩
          · exact hreplies.holds_error nofun

end Holds

theorem loginReplies_plain : LoginReplies fun reply =>
    jsonType reply ∈ [some ControlType.error, some .registerOk, some .authChallenge,
      some .authOk] where
  error code _ := by simp [jsonType_errorJson code]
  registered := by decide
  challenged challenge := by
    have htype : jsonType (authChallengeJson challenge) = some .authChallenge :=
      jsonType_object .authChallenge (List.forall_mem_singleton.mpr
        ⟨JsonKey.challenge.searchName.plain, plain_sodiumBin2hex challenge⟩)
    simp [htype]
  online := by decide

theorem plainReply_sendError (code : ErrorCode) :
    PlainReply (sendError state wsi session code).1 wsi :=
  ⟨_, held_sendError code, by simp [jsonType_errorJson code]⟩

theorem plainReply_handleRegister :
    PlainReply (handleRegister state wsi session json).1 wsi :=
  loginReplies_plain.holds_handleRegister

theorem plainReply_handleHello (challenge : Bytes 32) :
    PlainReply (handleHello state wsi session json challenge).1 wsi :=
  loginReplies_plain.holds_handleHello challenge

theorem plainReply_handleAuthResponse :
    PlainReply (handleAuthResponse sodium state wsi session json).1 wsi :=
  loginReplies_plain.holds_handleAuthResponse

/-- A connection that is not authenticated is answered by an error or a reply of
the login. -/
theorem plainReply_handleMessage (challenge : Bytes 32)
    (hunauthenticated : session.authenticated = false) :
    PlainReply (handleMessage sodium state wsi session json challenge).1 wsi := by
  unfold handleMessage
  split
  · exact plainReply_sendError _
  · split
    · exact plainReply_handleRegister
    · exact plainReply_handleHello challenge
    · exact plainReply_handleAuthResponse
    · rw [handleUserLookup, if_pos hunauthenticated]
      exact plainReply_sendError _
    · split_ifs
      · rw [handleSignalingForward, checkSignaling, if_pos hunauthenticated]
        exact plainReply_sendError _
      · exact plainReply_sendError _
    · exact plainReply_sendError _

end Replies

theorem plainReply_receive (sodium : Sodium) {state : ChatServerState} {wsi : ℕ}
    {session : ChatServerSession} (payload : List UInt8) (whole : Bool)
    (challenge : Bytes 32) (hsession : state.sessions wsi = some session)
    (hunauthenticated : session.authenticated = false) :
    PlainReply (serverStep sodium state (.receive wsi payload whole challenge))
      wsi := by
  rw [serverStep_open sodium hsession]
  simp only [callbackChatControl]
  split_ifs
  · exact plainReply_sendError _
  · exact plainReply_handleMessage challenge hunauthenticated

/-- What the checks of a signalling message establish. -/
theorem checkSignaling_ok {state : ChatServerState} {session : ChatServerSession}
    {json receiver : Str} {type : ControlType}
    (hcheck : checkSignaling state session json type = .ok receiver) :
    session.authenticated = true ∧
      parseSignaling json = some (session.username, receiver) ∧
      ∃ user, chatServerUsersFind state.users session.username = some user ∧
        checkPublicKey type json user = .ok () := by
  unfold checkSignaling at hcheck
  split_ifs at hcheck with hauthenticated
  rw [Bool.not_eq_false] at hauthenticated
  cases hparse : parseSignaling json with
  | none => simp [hparse] at hcheck
  | some names =>
      obtain ⟨sender, name⟩ := names
      simp only [hparse] at hcheck
      split_ifs at hcheck with hsender
      rw [ne_eq, not_not] at hsender
      subst hsender
      cases hfind : chatServerUsersFind state.users session.username with
      | none => simp [hfind] at hcheck
      | some user =>
          simp only [hfind] at hcheck
          cases hkey : checkPublicKey type json user with
          | error code => simp [hkey] at hcheck
          | ok value =>
              simp only [hkey, Except.ok.injEq] at hcheck
              exact ⟨hauthenticated, by rw [hcheck], user, rfl, hkey⟩

/-- A message is passed on for an authenticated sender only. -/
theorem authenticated_of_forwardTarget {state : ChatServerState}
    {session : ChatServerSession} {json : Str} {target : Str × ℕ}
    (hforward : forwardTarget state session json = some target) :
    session.authenticated = true := by
  obtain ⟨type, _, _, _, hcheck, _⟩ := forwardTarget_some hforward
  exact (checkSignaling_ok hcheck).1

/-- In every run of the server, an authenticated connection has completed the
login that its last accepted `hello` started, with a signature under the key
registered for its name, and registered keys stay.  Between two completed logins
of a connection another one is started or the connection is closed.  Messages
are passed on for authenticated connections only, and the other connections get
errors and the replies of the login only. -/
theorem authentication_sound (sodium : Sodium) (events : List ServerEvent) :
    let state := Transition.run (serverStep sodium) {} events
    (∀ wsi session, state.sessions wsi = some session →
      session.authenticated = true → LoggedIn sodium wsi session.username events) ∧
    (∀ before after username publicKey, events = before ++ after →
      registeredKey (Transition.run (serverStep sodium) {} before).users username =
        some publicKey →
      registeredKey state.users username = some publicKey) ∧
    (∀ wsi before first between second after,
      events = before ++ first :: (between ++ second :: after) →
      Authenticates sodium wsi (Transition.run (serverStep sodium) {} before) first →
      Authenticates sodium wsi
        (Transition.run (serverStep sodium) {} (before ++ first :: between)) second →
      ¬ Transition.Guarded (serverStep sodium) (Quiet wsi)
        (Transition.run (serverStep sodium) {} (before ++ [first])) between) ∧
    (∀ event, (serverStep sodium state event).log ≠ state.log →
      ∃ session, state.sessions event.wsi = some session ∧
        session.authenticated = true) ∧
    (∀ wsi session payload whole challenge, state.sessions wsi = some session →
      session.authenticated = false →
      PlainReply (serverStep sodium state (.receive wsi payload whole challenge))
        wsi) := by
  intro state
  refine ⟨?_, ?_, ?_, ?_, ?_⟩
  · intro wsi session hsession hauthenticated
    have haccount : state.account wsi = some session.account := by
      simp [ChatServerState.account, hsession]
    exact (justified_run sodium wsi events _ haccount).loggedIn hauthenticated
  · intro before after username publicKey hevents hkey
    refine registeredKey_of_prefix hkey ?_
    simp only [state, hevents, Transition.run_append]
    exact directory_run sodium _ after
  · intro wsi before first between second after _ hfirst hsecond
    rw [Transition.run_append] at hsecond ⊢
    exact not_quiet_between hfirst hsecond
  · intro event hlog
    rcases serverStep_log sodium state event with
      hsame | ⟨session, _, _, _, hsession, _, hforward, _⟩
    · exact absurd hsame hlog
    · exact ⟨session, hsession, authenticated_of_forwardTarget hforward⟩
  · intro wsi session payload whole challenge hsession hunauthenticated
    exact plainReply_receive sodium payload whole challenge hsession hunauthenticated

/-- Alice's connection is authenticated by her own login. -/
theorem authentication_sound_alice :
    LoggedIn Transparent.sodium 1 alice.username aliceAndBobOnline := by
  have hfacts : ∃ session ∈ (Transition.run (serverStep Transparent.sodium) {}
      aliceAndBobOnline).sessions 1, session.authenticated = true ∧
        session.username = alice.username := by
    decide +kernel
  obtain ⟨session, hsession, hauthenticated, hname⟩ := hfacts
  rw [← hname]
  exact (authentication_sound Transparent.sodium aliceAndBobOnline).1 1 session
    hsession hauthenticated

/-- A `hello` for an unknown user is refused and leaves Alice's connection
authenticated: it has received another `hello` since its login. -/
theorem refused_hello_keeps_authentication :
    let state := Transition.run (serverStep Transparent.sodium) {} aliceAndBobOnline
    let hello := ServerEvent.receive 1 (helloJson (bytes "nobody")) true
      (Transparent.repeated 32 7)
    hello.message.bind jsonType = some .hello ∧
      ∃ session ∈ (serverStep Transparent.sodium state hello).sessions 1,
        session.authenticated = true ∧ session.username = alice.username := by
  decide +kernel

end ProntoChat.Server
