import ProntoChat.Server.Login

/-!
# What an event of one connection can change

The registry points to connections, and messages are passed from one connection
to another.  An event leaves the account of every other connection alone, fills
the free buffer of another one only with a message of its authenticated sender,
and changes the presence of a user only by a login or by the end of the
connection that the user is bound to.
-/

namespace ProntoChat.Server

open ProntoChat.QuotedText
open ProntoChat.Protocole
open ProntoChat.Json

/-! ## Pointers of the registry -/

/-- The two pointers of every user lead to the same connection. -/
def PointersAgree (registry : ChatServerUsers) : Prop :=
  ∀ user ∈ registry.users, user.session = user.wsi

theorem pointersAgree_register {registry : ChatServerUsers}
    (hagree : PointersAgree registry) (username : Str) (identityPk : Bytes 32) :
    PointersAgree (chatServerUsersRegister registry username identityPk).1 := by
  unfold chatServerUsersRegister
  split_ifs
  · exact List.forall_mem_append.mpr ⟨hagree, List.forall_mem_singleton.mpr rfl⟩
  · exact hagree
  · exact hagree
  · exact hagree

theorem pointersAgree_setOnline {registry : ChatServerUsers}
    (hagree : PointersAgree registry) (username : Str) (wsi : ℕ) :
    PointersAgree (chatServerUsersSetOnline registry username wsi).1 := by
  unfold chatServerUsersSetOnline
  split
  · exact hagree
  · intro user hmem
    rcases mem_changeFirst hmem with hold | ⟨old, _, _, rfl⟩
    · exact hagree user hold
    · rfl

theorem pointersAgree_setOfflineByWsi {registry : ChatServerUsers}
    (hagree : PointersAgree registry) (wsi : ℕ) :
    PointersAgree (chatServerUsersSetOfflineByWsi registry wsi) := by
  intro user hmem
  obtain ⟨old, hold, rfl⟩ := List.mem_map.mp hmem
  unfold setOffline
  split_ifs
  · rfl
  · exact hagree old hold

theorem pointersAgree_run (sodium : Sodium) (events : List ServerEvent) :
    PointersAgree (Transition.run (serverStep sodium) {} events).users := by
  have hstep : ∀ state event, PointersAgree state.users →
      PointersAgree (serverStep sodium state event).users := by
    intro state event hagree
    have hchange := registryChange_step sodium state event
    generalize (serverStep sodium state event).users = users at hchange
    cases hchange with
    | kept => exact hagree
    | registered username publicKey =>
        exact pointersAgree_register hagree username publicKey
    | online _ _ _ => exact pointersAgree_setOnline hagree _ _
    | offline _ _ _ => exact pointersAgree_setOfflineByWsi hagree _
  have hstart : PointersAgree ({} : ChatServerState).users := nofun
  exact Transition.invariant_run_of_step hstep hstart events

theorem onlineTarget_some {state : ChatServerState} {receiver : Str}
    {wsi target : ℕ} (htarget : onlineTarget state receiver = some (wsi, target)) :
    ∃ user, chatServerUsersFind state.users receiver = some user ∧
      user.online = true ∧ user.wsi = some wsi ∧ user.session = some target := by
  unfold onlineTarget at htarget
  split at htarget
  · simp at htarget
  · rename_i user hfind
    split at htarget
    · rename_i honline hwsi hsession
      rw [Option.some.injEq, Prod.mk.injEq] at htarget
      rw [htarget.1] at hwsi
      rw [htarget.2] at hsession
      exact ⟨user, hfind, honline, hwsi, hsession⟩
    · simp at htarget

/-! ## Other connections -/

/-- Another connection changes only when a message is passed on to it. -/
theorem sessions_step (sodium : Sodium) (state : ChatServerState)
    (event : ServerEvent) {other : ℕ} (hother : other ≠ event.wsi) :
    (serverStep sodium state event).sessions other = state.sessions other ∨
    ∃ session json receiver, state.sessions event.wsi = some session ∧
      event.message = some json ∧
      forwardTarget state session json = some (receiver, other) ∧
      serverStep sodium state event = (passOn state receiver other json).1 := by
  cases hsession : state.sessions event.wsi with
  | none =>
      left
      rcases serverStep_closed sodium hsession with hstep | hstep <;> rw [hstep]
      exact Function.update_of_ne hother _ _
  | some session =>
      cases event with
      | established wsi =>
          rw [serverStep_open sodium hsession]
          exact Or.inl rfl
      | receive wsi payload whole challenge =>
          change state.sessions wsi = some session at hsession
          rcases receive_cases sodium payload whole challenge hsession with
            ⟨_, hreplied⟩ | ⟨json, receiver, target, hmessage, hforward, hpass⟩
          · exact Or.inl (hreplied.sessions other hother)
          · by_cases htarget : other = target
            · subst htarget
              exact Or.inr ⟨session, json, receiver, rfl, hmessage, hforward, hpass⟩
            · rw [hpass]
              exact Or.inl (passOn_sessions state receiver json htarget)
      | writeable wsi written =>
          left
          rw [serverStep_open sodium hsession]
          simp only [callbackChatControl]
          split_ifs
          · rfl
          · rfl
          · exact Function.update_of_ne hother _ _
      | closed wsi =>
          left
          rw [serverStep_open sodium hsession]
          exact Function.update_of_ne hother _ _

/-- The account of a connection changes by its own events only. -/
theorem account_step_of_ne (sodium : Sodium) (state : ChatServerState)
    {event : ServerEvent} {other : ℕ} (hother : other ≠ event.wsi) :
    (serverStep sodium state event).account other = state.account other := by
  rcases sessions_step sodium state event hother with
    hsame | ⟨session, json, receiver, _, _, _, hpass⟩
  · rw [ChatServerState.account, ChatServerState.account, hsame]
  · rw [hpass, passOn]
    split
    · rfl
    · rename_i held hopen
      have haccount : (state.emit (.relayed receiver other held json)).account other =
          some held.account := by
        simp [ChatServerState.account, ChatServerState.emit, hopen]
      rw [account_sendJson json haccount]
      rfl

/-- A message that fills the buffer of another connection. -/
structure Delivers (state : ChatServerState) (event : ServerEvent) (other : ℕ)
    (json : Str) : Prop where
  /-- The connection of the event is authenticated and named as the sender. -/
  sender : ∃ session receiver user, state.sessions event.wsi = some session ∧
    session.authenticated = true ∧
    parseSignaling json = some (session.username, receiver) ∧
    chatServerUsersFind state.users receiver = some user ∧ user.online = true ∧
    user.wsi = some other ∧ user.session = some other
  message : event.message = some json
  signaling : ∃ type, jsonType json = some type ∧
    signalingTypeIsSupported type = true

theorem delivers_of_forwardTarget {state : ChatServerState} {event : ServerEvent}
    {session : ChatServerSession} {json receiver : Str} {other : ℕ}
    (hagree : PointersAgree state.users)
    (hsession : state.sessions event.wsi = some session)
    (hmessage : event.message = some json)
    (hforward : forwardTarget state session json = some (receiver, other)) :
    Delivers state event other json := by
  obtain ⟨type, wsi, htype, hsupported, hcheck, htarget, _⟩ :=
    forwardTarget_some hforward
  obtain ⟨hauthenticated, hparse, _⟩ := checkSignaling_ok hcheck
  obtain ⟨user, hfind, honline, _, hpointer⟩ := onlineTarget_some htarget
  have hwsi := hagree user (chatServerUsersFind_some hfind).1
  rw [hpointer] at hwsi
  exact ⟨⟨session, receiver, user, hsession, hauthenticated, hparse, hfind, honline,
    hwsi.symm, hpointer⟩, hmessage, type, htype, hsupported⟩

/-! ## Presence of users -/

/-- The fields that tell whether and where a user is online. -/
def ChatServerUser.presence (user : ChatServerUser) :
    Bool × Option ℕ × Option ℕ :=
  (user.online, user.wsi, user.session)

/-- A user stays registered, and its entry changes by a login or a close of its
connection only. -/
theorem presence_step (sodium : Sodium) {state : ChatServerState}
    {event : ServerEvent} {username : Str} {user : ChatServerUser}
    (hfind : chatServerUsersFind state.users username = some user) :
    ∃ next, chatServerUsersFind (serverStep sodium state event).users username =
        some next ∧
      (next = user ∨
        ((∃ session, state.sessions event.wsi = some session ∧
            session.username = username ∧ session.hasChallenge = true ∧
            Verifies sodium state event session.username session.challenge) ∧
          next = setOnline event.wsi user) ∨
        (event = .closed event.wsi ∧ user.wsi = some event.wsi ∧
          next = setOffline event.wsi user)) := by
  have hname := (chatServerUsersFind_some hfind).2
  have hchange := registryChange_step sodium state event
  generalize (serverStep sodium state event).users = users at hchange
  cases hchange with
  | kept => exact ⟨user, hfind, Or.inl rfl⟩
  | registered name publicKey =>
      exact ⟨user, find_register hfind name publicKey, Or.inl rfl⟩
  | online hopen hchallenge hverifies =>
      rename_i session
      rw [find_setOnline, hfind, Option.map_some]
      split_ifs with hown
      · refine ⟨_, rfl, Or.inr (Or.inl
          ⟨⟨session, hopen, ?_, hchallenge, hverifies⟩, rfl⟩)⟩
        rw [← hown, hname]
      · exact ⟨user, rfl, Or.inl rfl⟩
  | offline hevent hopen hauthenticated =>
      rename_i session wsi
      subst hevent
      rw [find_setOfflineByWsi, hfind, Option.map_some]
      by_cases hown : user.wsi = some wsi
      · exact ⟨_, rfl, Or.inr (Or.inr ⟨rfl, hown, rfl⟩)⟩
      · exact ⟨_, rfl, Or.inl (if_neg hown)⟩

/-- In every reachable state, an event of a connection leaves the name, the
challenge and the authentication of every other connection as they were; it
fills the buffer of another connection only if that buffer was free, with a
message whose sender is the authenticated user of the connection and whose
receiver is online and bound to the other one; and it changes the presence of a
user only by a login that completes with this event or by the close of the
connection that the user is bound to. -/
theorem server_footprint (sodium : Sodium) (events : List ServerEvent)
    (event : ServerEvent) :
    let state := Transition.run (serverStep sodium) {} events
    let next := serverStep sodium state event
    (∀ other ≠ event.wsi,
      (next.sessions other).map (fun session => (session.username,
          session.challenge, session.hasChallenge, session.authenticated)) =
        (state.sessions other).map (fun session => (session.username,
          session.challenge, session.hasChallenge, session.authenticated))) ∧
    (∀ other ≠ event.wsi,
      (next.sessions other).map ChatServerSession.pending ≠
        (state.sessions other).map ChatServerSession.pending →
      ∃ held json, state.sessions other = some held ∧ held.pending = [] ∧
        Delivers state event other json ∧
        next.sessions other = some { held with pending := json }) ∧
    ∀ username user later,
      chatServerUsersFind state.users username = some user →
      chatServerUsersFind next.users username = some later →
      later.presence ≠ user.presence →
      ((∃ session, state.sessions event.wsi = some session ∧
          session.username = username ∧ session.hasChallenge = true ∧
          Verifies sodium state event session.username session.challenge) ∧
        next.account event.wsi = some { username, authenticated := true } ∧
        later = setOnline event.wsi user) ∨
      (event = .closed event.wsi ∧ user.wsi = some event.wsi ∧
        later = { user with online := false, wsi := none, session := none }) := by
  intro state next
  refine ⟨fun other hother => ?_, fun other hother hpending => ?_,
    fun username user later hfind hlater hpresence => ?_⟩
  · have haccount := account_step_of_ne sodium state hother
    have hfields := congrArg (Option.map fun session : ChatServerSession =>
      (session.username, session.challenge, session.hasChallenge,
        session.authenticated)) haccount
    rw [ChatServerState.account, ChatServerState.account, Option.map_map,
      Option.map_map] at hfields
    exact hfields
  · rcases sessions_step sodium state event hother with
      hsame | ⟨session, json, receiver, hsession, hmessage, hforward, hpass⟩
    · exact absurd (congrArg _ hsame) hpending
    · have hdelivers := delivers_of_forwardTarget (pointersAgree_run sodium events)
        hsession hmessage hforward
      cases hopen : state.sessions other with
      | none =>
          have hkept : next.sessions other = none := by
            simp only [next, hpass, passOn, hopen]
            exact hopen
          rw [hkept, hopen] at hpending
          exact absurd rfl hpending
      | some held =>
          obtain ⟨_, _, _, _, _, _, hfree⟩ := forwardTarget_some hforward
          refine ⟨held, json, rfl, hfree held hopen, hdelivers, ?_⟩
          have hlength := not_le.mpr (length_message hmessage)
          simp only [next, hpass, passOn, hopen, sendJson, if_neg hlength]
          exact Function.update_self _ _ _
  · obtain ⟨entry, hentry, hcases⟩ := presence_step sodium hfind
    obtain rfl := Option.some.inj (hentry.symm.trans hlater)
    rcases hcases with rfl | ⟨⟨session, hopen, hname, hchallenge, hverifies⟩, honline⟩ |
        ⟨hclosed, hown, hoffline⟩
    · exact absurd rfl hpresence
    · refine Or.inl ⟨⟨session, hopen, hname, hchallenge, hverifies⟩, ?_, honline⟩
      rw [account_of_verifies hopen hchallenge hverifies, hname]
    · refine Or.inr ⟨hclosed, hown, ?_⟩
      rw [hoffline, setOffline, if_pos hown]

/-- Bob's request fills Alice's buffer, since he is authenticated and she is
bound to her connection. -/
theorem server_footprint_request :
    ∃ json, Delivers (Transition.run (serverStep Transparent.sodium) {} promptLogins)
      bobAsksAlice 1 json := by
  have hother : (1 : ℕ) ≠ bobAsksAlice.wsi := by decide
  have hfilled : ((serverStep Transparent.sodium
        (Transition.run (serverStep Transparent.sodium) {} promptLogins)
        bobAsksAlice).sessions 1).map ChatServerSession.pending ≠
      ((Transition.run (serverStep Transparent.sodium) {} promptLogins).sessions
        1).map ChatServerSession.pending := by
    decide +kernel
  have hprint := server_footprint Transparent.sodium promptLogins bobAsksAlice
  generalize Transition.run (serverStep Transparent.sodium) {} promptLogins = state
    at hfilled hprint ⊢
  obtain ⟨_, json, _, _, hdelivers, _⟩ := hprint.2.1 1 hother hfilled
  exact ⟨json, hdelivers⟩

end ProntoChat.Server
