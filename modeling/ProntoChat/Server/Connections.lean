import ProntoChat.Server.Footprint

/-!
# Several connections of one user

A user may be logged in on any number of connections, and its entry in the
registry refers to the last of them.  When that connection is closed or starts
another login, the others are forgotten; no other event leaves a user with an
authenticated connection and no usable entry.
-/

namespace ProntoChat.Server

open ProntoChat.QuotedText
open ProntoChat.Protocole
open ProntoChat.Json
open ProntoChat.Daemon (alice)

/-- The connection is open and authenticated as the user. -/
def Serves (state : ChatServerState) (wsi : ℕ) (username : Str) : Prop :=
  ∃ session, state.sessions wsi = some session ∧ session.authenticated = true ∧
    session.username = username

/-- The entry of the user is online and refers to a connection that serves the
user. -/
def Present (state : ChatServerState) (username : Str) : Prop :=
  ∃ user wsi, chatServerUsersFind state.users username = some user ∧
    user.online = true ∧ user.wsi = some wsi ∧ user.session = some wsi ∧
    Serves state wsi username

/-- Every user with an authenticated connection is present. -/
def PresenceComplete (state : ChatServerState) : Prop :=
  ∀ wsi username, Serves state wsi username → Present state username

/-- The user whose entry refers to the connection of the event, if the event
closes this connection or is a `hello` that the server accepts on it. -/
def departing (state : ChatServerState) (event : ServerEvent) : Option Str :=
  (state.sessions event.wsi).bind fun session =>
    if session.authenticated = true ∧
        (event = .closed event.wsi ∨ (issuedChallenge state event).isSome = true) ∧
        (chatServerUsersFind state.users session.username).bind
          ChatServerUser.session = some event.wsi then
      some session.username
    else none

/-- The user has another authenticated connection than the one that it
loses. -/
def Strands (state : ChatServerState) (event : ServerEvent) : Prop :=
  ∃ username other, departing state event = some username ∧ other ≠ event.wsi ∧
    Serves state other username

/-! ## Served users -/

theorem serves_iff (state : ChatServerState) (wsi : ℕ) (username : Str) :
    Serves state wsi username ↔ ∃ account, state.account wsi = some account ∧
      account.authenticated = true ∧ account.username = username := by
  constructor
  · rintro ⟨session, hopen, hauthenticated, hname⟩
    exact ⟨session.account, by simp [ChatServerState.account, hopen],
      hauthenticated, hname⟩
  · rintro ⟨account, haccount, hauthenticated, hname⟩
    obtain ⟨session, hopen, rfl⟩ := Option.map_eq_some_iff.mp haccount
    exact ⟨session, hopen, hauthenticated, hname⟩

section Step

variable {sodium : Sodium} {state : ChatServerState} {event : ServerEvent}
  {wsi : ℕ} {username : Str}

theorem serves_step_of_ne (hother : wsi ≠ event.wsi) :
    Serves (serverStep sodium state event) wsi username ↔
      Serves state wsi username := by
  rw [serves_iff, serves_iff, account_step_of_ne sodium state hother]

/-- A connection that serves a user did so before, or the event completes its
login. -/
theorem serves_before (hserves : Serves (serverStep sodium state event) wsi username) :
    Serves state wsi username ∨
      ∃ session, state.sessions event.wsi = some session ∧
        session.username = username ∧ session.hasChallenge = true ∧
        Verifies sodium state event session.username session.challenge := by
  obtain ⟨next, hnext, hauthenticated, hname⟩ := (serves_iff _ _ _).mp hserves
  have hchange := accountChange_step sodium state event wsi
  rw [hnext] at hchange
  generalize haccount : state.account wsi = account at hchange
  cases hchange with
  | kept _ =>
      exact Or.inl ((serves_iff _ _ _).mpr ⟨next, haccount, hauthenticated, hname⟩)
  | established => exact absurd hauthenticated Bool.false_ne_true
  | challenged _ _ => exact absurd hauthenticated Bool.false_ne_true
  | authenticated hevent _ hchallenge hverifies =>
      subst hevent
      obtain ⟨session, hopen, rfl⟩ := Option.map_eq_some_iff.mp haccount
      exact Or.inr ⟨session, hopen, hname, hchallenge, hverifies⟩

/-- A connection goes on serving its user unless the event closes it or starts
another login on it. -/
theorem serves_after (sodium : Sodium) (hserves : Serves state wsi username) :
    Serves (serverStep sodium state event) wsi username ∨
      wsi = event.wsi ∧
        (event = .closed event.wsi ∨ (issuedChallenge state event).isSome = true) := by
  obtain ⟨account, haccount, hauthenticated, hname⟩ := (serves_iff _ _ _).mp hserves
  have hchange := accountChange_step sodium state event wsi
  rw [haccount] at hchange
  generalize hnext : (serverStep sodium state event).account wsi = next at hchange
  cases hchange with
  | kept _ =>
      exact Or.inl ((serves_iff _ _ _).mpr ⟨account, hnext, hauthenticated, hname⟩)
  | closed hevent =>
      subst hevent
      exact Or.inr ⟨rfl, Or.inl rfl⟩
  | challenged hevent hissued =>
      exact Or.inr ⟨hevent.symm, Or.inr (by rw [hissued]; rfl)⟩
  | authenticated _ _ _ _ =>
      exact Or.inl ((serves_iff _ _ _).mpr ⟨_, hnext, rfl, hname⟩)

/-- The connection serves nobody after such an event. -/
theorem not_serves_of_ends (sodium : Sodium)
    (hopen : Serves state event.wsi username)
    (hends : event = .closed event.wsi ∨ (issuedChallenge state event).isSome = true)
    (other : Str) : ¬ Serves (serverStep sodium state event) event.wsi other := by
  intro hserves
  obtain ⟨next, hnext, hauthenticated, _⟩ := (serves_iff _ _ _).mp hserves
  obtain ⟨account, haccount, _⟩ := (serves_iff _ _ _).mp hopen
  have hloud : ¬ Quiet event.wsi state event := by
    intro hquiet
    obtain ⟨hnone, hclosed⟩ := hquiet rfl
    rcases hends with hclose | hissued
    · exact hclosed hclose
    · rw [hnone] at hissued
      exact absurd hissued (by decide)
  have hchange := accountChange_step sodium state event event.wsi
  rw [hnext, haccount] at hchange
  cases hchange with
  | kept hquiet => exact hloud hquiet
  | challenged _ _ => exact absurd hauthenticated Bool.false_ne_true
  | authenticated _ hquiet _ _ => exact hloud hquiet

theorem present_of_verifies {session : ChatServerSession}
    (hopen : state.sessions event.wsi = some session)
    (hchallenge : session.hasChallenge = true)
    (hverifies : Verifies sodium state event session.username session.challenge) :
    Present (serverStep sodium state event) session.username := by
  have hserves : Serves (serverStep sodium state event) event.wsi session.username :=
    (serves_iff _ _ _).mpr
      ⟨_, account_of_verifies hopen hchallenge hverifies, rfl, rfl⟩
  have husers := users_of_verifies hopen hchallenge hverifies
  obtain ⟨_, _, publicKey, _, _, _, hkey, _⟩ := hverifies
  obtain ⟨user, hfind, _, _⟩ := registeredKey_some hkey
  have hname := (chatServerUsersFind_some hfind).2
  refine ⟨setOnline event.wsi user, event.wsi, ?_, rfl, rfl, rfl, hserves⟩
  rw [husers, find_setOnline, hfind, Option.map_some, if_pos hname]

theorem departing_of_serves {user : ChatServerUser}
    (hserves : Serves state event.wsi username)
    (hfind : chatServerUsersFind state.users username = some user)
    (hsession : user.session = some event.wsi)
    (hends : event = .closed event.wsi ∨
      (issuedChallenge state event).isSome = true) :
    departing state event = some username := by
  obtain ⟨session, hopen, hauthenticated, rfl⟩ := hserves
  rw [departing, hopen, Option.bind_some, hfind, Option.bind_some,
    if_pos ⟨hauthenticated, hends, hsession⟩]

theorem departing_some (hdeparting : departing state event = some username) :
    Serves state event.wsi username ∧
      (event = .closed event.wsi ∨ (issuedChallenge state event).isSome = true) ∧
      ∃ user, chatServerUsersFind state.users username = some user ∧
        user.session = some event.wsi := by
  obtain ⟨session, hopen, hends⟩ := Option.bind_eq_some_iff.mp hdeparting
  split_ifs at hends with hcondition
  obtain rfl := Option.some.inj hends
  obtain ⟨hauthenticated, hends, hsession⟩ := hcondition
  exact ⟨⟨session, hopen, hauthenticated, rfl⟩, hends,
    Option.bind_eq_some_iff.mp hsession⟩

/-! ## Completeness -/

theorem presenceComplete_step (hcomplete : PresenceComplete state)
    (hkeeps : ¬ Strands state event) :
    PresenceComplete (serverStep sodium state event) := by
  intro wsi username hserves
  rcases serves_before hserves with hbefore | ⟨session, hopen, rfl, hchallenge, hverifies⟩
  · obtain ⟨user, target, hfind, honline, hwsi, hsession, htarget⟩ :=
      hcomplete wsi username hbefore
    -- The connection of the event ends only if it is not the entry's.
    have hlasts : ¬ (target = event.wsi ∧ (event = .closed event.wsi ∨
        (issuedChallenge state event).isSome = true)) := by
      rintro ⟨rfl, hends⟩
      have hother : wsi ≠ event.wsi := by
        rintro rfl
        exact not_serves_of_ends sodium htarget hends username hserves
      exact hkeeps ⟨username, wsi, departing_of_serves htarget hfind hsession hends,
        hother, hbefore⟩
    have hstays := (serves_after sodium htarget).resolve_right hlasts
    obtain ⟨next, hnext, hentry⟩ := presence_step sodium hfind
    rcases hentry with rfl | ⟨⟨session, hopen, rfl, hchallenge, hverifies⟩, _⟩ |
        ⟨hclosed, hown, _⟩
    · exact ⟨next, target, hnext, honline, hwsi, hsession, hstays⟩
    · exact present_of_verifies hopen hchallenge hverifies
    · obtain rfl := Option.some.inj (hwsi.symm.trans hown)
      exact absurd ⟨rfl, Or.inl hclosed⟩ hlasts
  · exact present_of_verifies hopen hchallenge hverifies

/-- A stranded user has an authenticated connection but is not present. -/
theorem stranded (hstrands : Strands state event) :
    ∃ other username, Serves (serverStep sodium state event) other username ∧
      ¬ Present (serverStep sodium state event) username := by
  obtain ⟨username, other, hdeparting, hother, hserves⟩ := hstrands
  obtain ⟨hown, hends, user, hfind, hsession⟩ := departing_some hdeparting
  have hgone := not_serves_of_ends sodium hown hends username
  refine ⟨other, username, (serves_step_of_ne hother).mpr hserves, ?_⟩
  rintro ⟨entry, target, hentry, honline, _, htarget, hpresent⟩
  have helsewhere : entry.session ≠ some event.wsi := by
    rw [htarget, ne_eq, Option.some.injEq]
    rintro rfl
    exact hgone hpresent
  obtain ⟨next, hnext, hcases⟩ := presence_step sodium hfind
  obtain rfl := Option.some.inj (hnext.symm.trans hentry)
  rcases hcases with rfl | ⟨_, rfl⟩ | ⟨_, hwsi, rfl⟩
  · exact helsewhere hsession
  · exact helsewhere rfl
  · rw [setOffline, if_pos hwsi] at honline
    exact Bool.false_ne_true honline

end Step

/-- In every run in which no user loses the connection that its entry refers to
while it has another authenticated one, every user with an authenticated
connection is online in the registry, and its entry refers to an open connection
that is authenticated as the user.  Losing it otherwise breaks this at once. -/
theorem presence_complete_of_not_strands (sodium : Sodium)
    {events : List ServerEvent}
    (hevents : Transition.Guarded (serverStep sodium)
      (fun state event => ¬ Strands state event) {} events) :
    let state := Transition.run (serverStep sodium) {} events
    (∀ wsi session, state.sessions wsi = some session →
      session.authenticated = true →
      ∃ user target other,
        chatServerUsersFind state.users session.username = some user ∧
        user.online = true ∧ user.wsi = some target ∧ user.session = some target ∧
        state.sessions target = some other ∧ other.authenticated = true ∧
        other.username = session.username) ∧
    ∀ event, PresenceComplete (serverStep sodium state event) ↔
      ¬ Strands state event := by
  intro state
  have hcomplete : PresenceComplete state := by
    have hstep : ∀ state event, ¬ Strands state event → PresenceComplete state →
        PresenceComplete (serverStep sodium state event) :=
      fun _ _ hkeeps hcomplete => presenceComplete_step hcomplete hkeeps
    have hstart : PresenceComplete {} := by
      rintro wsi username ⟨session, hopen, _⟩
      exact absurd hopen (by simp)
    exact Transition.invariant_run hstep hstart hevents
  refine ⟨fun wsi session hopen hauthenticated => ?_, fun event => ⟨?_, ?_⟩⟩
  · obtain ⟨user, target, hfind, honline, hwsi, hsession, other, hother,
      hserves⟩ := hcomplete wsi session.username ⟨session, hopen, hauthenticated, rfl⟩
    exact ⟨user, target, other, hfind, honline, hwsi, hsession, hother, hserves⟩
  · intro hnext hstrands
    obtain ⟨other, username, hserves, hmissing⟩ := stranded hstrands
    exact hmissing (hnext other username hserves)
  · exact presenceComplete_step hcomplete

/-- Alice logs in on two connections. -/
def aliceTwice : List ServerEvent :=
  serverLogin alice 1 (Transparent.repeated 32 8) ++
    serverLogin alice 3 (Transparent.repeated 32 9)

/-- After Alice closes her first connection, she is present on the second. -/
theorem presence_complete_alice :
    let state := Transition.run (serverStep Transparent.sodium) {}
      (aliceTwice ++ [.closed 1])
    ∃ user, chatServerUsersFind state.users alice.username = some user ∧
      user.online = true := by
  have hguard : Transition.Guarded (serverStep Transparent.sodium)
      (fun state event => departing state event = none) {}
      (aliceTwice ++ [.closed 1]) := by
    decide +kernel
  have hkeeps : Transition.Guarded (serverStep Transparent.sodium)
      (fun state event => ¬ Strands state event) {} (aliceTwice ++ [.closed 1]) := by
    refine hguard.imp ?_
    rintro state event hnone ⟨username, other, hdeparting, _⟩
    rw [hnone] at hdeparting
    exact absurd hdeparting (by simp)
  have hopen : ∃ session ∈ (Transition.run (serverStep Transparent.sodium) {}
      (aliceTwice ++ [.closed 1])).sessions 3, session.authenticated = true ∧
        session.username = alice.username := by
    decide +kernel
  have hcomplete := presence_complete_of_not_strands Transparent.sodium hkeeps
  generalize Transition.run (serverStep Transparent.sodium) {}
    (aliceTwice ++ [.closed 1]) = state at hopen hcomplete ⊢
  obtain ⟨session, hsession, hauthenticated, hname⟩ := hopen
  obtain ⟨user, _, _, hfind, honline, _⟩ := hcomplete.1 3 session hsession hauthenticated
  rw [hname] at hfind
  exact ⟨user, hfind, honline⟩

/-- After Alice closes her second connection, she is offline although her first
one is open and authenticated. -/
theorem alice_connected_but_offline :
    let state := Transition.run (serverStep Transparent.sodium) {}
      (aliceTwice ++ [.closed 3])
    (∃ session ∈ state.sessions 1, session.authenticated = true ∧
      session.username = alice.username) ∧
    ∃ user ∈ chatServerUsersFind state.users alice.username,
      user.online = false := by
  decide +kernel

end ProntoChat.Server
