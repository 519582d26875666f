import ProntoChat.Common.Json

/-!
# The user registry of the server

Registered users in the order of their registration.  The registry carries the
facts that every function keeps: there is room in the array, names are valid,
and no name occurs twice.
-/

namespace ProntoChat.Server

open ProntoChat.QuotedText
open ProntoChat.Protocole
open ProntoChat.Json

def chatServerMaxUsers : ℕ := 256

inductive ChatServerUsersResult where
  | ok
  | invalid
  | full
  | alreadyExists
  | notFound
  deriving DecidableEq, Repr

/-- `chat_server_users_result_name`. -/
def ChatServerUsersResult.name : ChatServerUsersResult → Str
  | .ok => bytes "ok"
  | .invalid => bytes "invalid user"
  | .full => bytes "user registry full"
  | .alreadyExists => bytes "user already exists"
  | .notFound => bytes "user not found"

/-- A registered user.  `wsi` and `session` are the pointers to a connection
and to its session data; both are named by the number of the connection. -/
structure ChatServerUser where
  username : Str
  identityPk : Bytes 32
  wsi : Option ℕ := none
  session : Option ℕ := none
  online : Bool := false
  deriving DecidableEq

structure ChatServerUsers where
  users : List ChatServerUser
  bounded : users.length ≤ chatServerMaxUsers
  valid : ∀ user ∈ users, chatUsernameIsValid user.username = true
  nodup : (users.map ChatServerUser.username).Nodup

/-- `chat_server_users_init`. -/
def chatServerUsersInit : ChatServerUsers where
  users := []
  bounded := Nat.zero_le _
  valid := nofun
  nodup := List.nodup_nil

/-- `chat_server_users_find`. -/
def chatServerUsersFind (registry : ChatServerUsers) (username : Str) :
    Option ChatServerUser :=
  registry.users.find? fun user => decide (user.username = username)

theorem chatServerUsersFind_some {registry : ChatServerUsers} {username : Str}
    {user : ChatServerUser}
    (hfind : chatServerUsersFind registry username = some user) :
    user ∈ registry.users ∧ user.username = username := by
  have hname := List.find?_some hfind
  exact ⟨List.mem_of_find?_eq_some hfind, of_decide_eq_true hname⟩

theorem chatServerUsersFind_none {registry : ChatServerUsers} {username : Str}
    (hfind : chatServerUsersFind registry username = none) :
    username ∉ registry.users.map ChatServerUser.username := by
  intro hmem
  obtain ⟨user, huser, hname⟩ := List.mem_map.mp hmem
  have := List.find?_eq_none.mp hfind user huser
  simp [hname] at this

def chatServerUsersRegister (registry : ChatServerUsers) (username : Str)
    (identityPk : Bytes 32) : ChatServerUsers × ChatServerUsersResult :=
  if hvalid : chatUsernameIsValid username = true then
    if hroom : registry.users.length < chatServerMaxUsers then
      if hnew : chatServerUsersFind registry username = none then
        ({ users := registry.users ++ [{ username, identityPk }]
           bounded := by simpa using hroom
           valid := List.forall_mem_append.mpr
             ⟨registry.valid, List.forall_mem_singleton.mpr hvalid⟩
           nodup := by
             rw [List.map_append, List.nodup_append_comm]
             exact List.nodup_cons.mpr
               ⟨chatServerUsersFind_none hnew, registry.nodup⟩ }, .ok)
      else (registry, .alreadyExists)
    else (registry, .full)
  else (registry, .invalid)

/-- Change the first user with a name. -/
def changeFirst (username : Str) (change : ChatServerUser → ChatServerUser) :
    List ChatServerUser → List ChatServerUser
  | [] => []
  | user :: users =>
      if user.username = username then change user :: users
      else user :: changeFirst username change users

/-- What a change keeps of every user, it keeps of the list. -/
theorem map_changeFirst {α : Type*} (username : Str)
    {change : ChatServerUser → ChatServerUser} {f : ChatServerUser → α}
    (hchange : ∀ user, f (change user) = f user) (users : List ChatServerUser) :
    (changeFirst username change users).map f = users.map f := by
  induction users with
  | nil => rfl
  | cons user users ih =>
      by_cases hname : user.username = username
      · simp [changeFirst, hname, hchange]
      · simp [changeFirst, hname, ih]

/-- Users keep their names under a change of the connection. -/
theorem map_username_changeFirst (username : Str)
    {change : ChatServerUser → ChatServerUser}
    (hchange : ∀ user, (change user).username = user.username)
    (users : List ChatServerUser) :
    (changeFirst username change users).map ChatServerUser.username =
      users.map ChatServerUser.username :=
  map_changeFirst username hchange users

theorem mem_changeFirst {username : Str}
    {change : ChatServerUser → ChatServerUser} {users : List ChatServerUser}
    {user : ChatServerUser} (hmem : user ∈ changeFirst username change users) :
    user ∈ users ∨ ∃ old ∈ users, old.username = username ∧ user = change old := by
  induction users with
  | nil => exact Or.inl hmem
  | cons first users ih =>
      by_cases hname : first.username = username
      · rw [changeFirst, if_pos hname] at hmem
        rcases List.mem_cons.mp hmem with rfl | hrest
        · exact Or.inr ⟨first, List.mem_cons_self, hname, rfl⟩
        · exact Or.inl (List.mem_cons_of_mem _ hrest)
      · rw [changeFirst, if_neg hname] at hmem
        rcases List.mem_cons.mp hmem with rfl | hrest
        · exact Or.inl List.mem_cons_self
        · rcases ih hrest with hold | ⟨old, hold, hchanged⟩
          · exact Or.inl (List.mem_cons_of_mem _ hold)
          · exact Or.inr ⟨old, List.mem_cons_of_mem _ hold, hchanged⟩

/-- A registry whose users changed nothing but their connection. -/
def ChatServerUsers.withUsers (registry : ChatServerUsers)
    (users : List ChatServerUser)
    (hnames : users.map ChatServerUser.username =
      registry.users.map ChatServerUser.username) : ChatServerUsers where
  users
  bounded := by
    have hlength := congrArg List.length hnames
    rw [List.length_map, List.length_map] at hlength
    rw [hlength]
    exact registry.bounded
  valid := by
    intro user huser
    have hname := List.mem_map_of_mem (f := ChatServerUser.username) huser
    rw [hnames] at hname
    obtain ⟨old, hold, hsame⟩ := List.mem_map.mp hname
    rw [← hsame]
    exact registry.valid old hold
  nodup := hnames ▸ registry.nodup

def setOnline (wsi : ℕ) (user : ChatServerUser) : ChatServerUser :=
  { user with online := true, wsi := some wsi, session := some wsi }

theorem setOnline_username (wsi : ℕ) (user : ChatServerUser) :
    (setOnline wsi user).username = user.username := rfl

def chatServerUsersSetOnline (registry : ChatServerUsers) (username : Str)
    (wsi : ℕ) : ChatServerUsers × ChatServerUsersResult :=
  match chatServerUsersFind registry username with
  | none => (registry, .notFound)
  | some _ =>
      (registry.withUsers (changeFirst username (setOnline wsi) registry.users)
        (map_username_changeFirst username (setOnline_username wsi) registry.users),
        .ok)

def setOffline (wsi : ℕ) (user : ChatServerUser) : ChatServerUser :=
  if user.wsi = some wsi then
    { user with online := false, wsi := none, session := none }
  else user

theorem setOffline_username (wsi : ℕ) (user : ChatServerUser) :
    (setOffline wsi user).username = user.username := by
  unfold setOffline
  split_ifs <;> rfl

def chatServerUsersSetOfflineByWsi (registry : ChatServerUsers) (wsi : ℕ) :
    ChatServerUsers :=
  registry.withUsers (registry.users.map (setOffline wsi)) (by
    rw [List.map_map]
    exact List.map_congr_left fun user _ => setOffline_username wsi user)

/-! ## Finding users after a change -/

section Find

variable {registry : ChatServerUsers} {username : Str}

theorem find_changeFirst {change : ChatServerUser → ChatServerUser}
    (hchange : ∀ user, (change user).username = user.username) (name : Str)
    (users : List ChatServerUser) :
    (changeFirst name change users).find?
        (fun user => decide (user.username = username)) =
      (users.find? fun user => decide (user.username = username)).map
        fun user => if user.username = name then change user else user := by
  induction users with
  | nil => rfl
  | cons user users ih =>
      by_cases hname : user.username = name
      · rw [changeFirst, if_pos hname, List.find?_cons, List.find?_cons, hchange]
        by_cases hfound : user.username = username
        · simp [hfound, hname ▸ hfound]
        · have hother (other : ChatServerUser)
              (hother : users.find? (fun user => decide (user.username = username)) =
                some other) : other.username ≠ name := by
            have hsame := List.find?_some hother
            rw [of_decide_eq_true hsame, ← hname]
            exact Ne.symm hfound
          cases hrest : users.find? fun user => decide (user.username = username) with
          | none => simp [hfound]
          | some other => simp [hfound, hother other hrest]
      · rw [changeFirst, if_neg hname, List.find?_cons, List.find?_cons, ih]
        by_cases hfound : user.username = username
        · simp [hfound, hfound ▸ hname]
        · simp [hfound]

theorem find_register {user : ChatServerUser}
    (hfind : chatServerUsersFind registry username = some user) (name : Str)
    (identityPk : Bytes 32) :
    chatServerUsersFind (chatServerUsersRegister registry name identityPk).1
      username = some user := by
  unfold chatServerUsersRegister
  split_ifs
  · rw [chatServerUsersFind] at hfind ⊢
    rw [List.find?_append, hfind, Option.some_or]
  · exact hfind
  · exact hfind
  · exact hfind

theorem find_setOnline (registry : ChatServerUsers) (name username : Str) (wsi : ℕ) :
    chatServerUsersFind (chatServerUsersSetOnline registry name wsi).1 username =
      (chatServerUsersFind registry username).map fun user =>
        if user.username = name then setOnline wsi user else user := by
  unfold chatServerUsersSetOnline
  cases hname : chatServerUsersFind registry name with
  | none =>
      have hkept (user : ChatServerUser)
          (hfind : chatServerUsersFind registry username = some user) :
          user.username ≠ name := by
        rintro rfl
        exact chatServerUsersFind_none hname
          (List.mem_map_of_mem (chatServerUsersFind_some hfind).1)
      cases hfind : chatServerUsersFind registry username with
      | none => simp
      | some user => simp [hkept user hfind]
  | some _ => exact find_changeFirst (setOnline_username wsi) name registry.users

theorem find_setOfflineByWsi (registry : ChatServerUsers) (username : Str) (wsi : ℕ) :
    chatServerUsersFind (chatServerUsersSetOfflineByWsi registry wsi) username =
      (chatServerUsersFind registry username).map (setOffline wsi) := by
  simp only [chatServerUsersFind, chatServerUsersSetOfflineByWsi,
    ChatServerUsers.withUsers, List.find?_map]
  congr 2
  funext user
  rw [Function.comp_apply, setOffline_username]

end Find

end ProntoChat.Server
