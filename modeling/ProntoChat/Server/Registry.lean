import ProntoChat.Server.Login

/-!
# Calls of the user registry

The functions of the registry with any arguments, null pointers among them, in
any order.  A name belongs to the key of its registration for the rest of the
run.
-/

namespace ProntoChat.Server

open ProntoChat.QuotedText
open ProntoChat.Protocole
open ProntoChat.Daemon (alice)

/-- A call that may change the registry.  Pointers that are null are `none`;
the connection and the session data of `set_online` need not belong together. -/
inductive RegistryCall where
  | register (username : Option Str) (identityPk : Option (Bytes 32))
  | setOnline (username : Option Str) (wsi session : Option ℕ)
  | setOfflineByWsi (wsi : Option ℕ)
  deriving DecidableEq

def setOnlineAt (wsi session : Option ℕ) (user : ChatServerUser) :
    ChatServerUser :=
  { user with online := true, wsi, session }

theorem setOnlineAt_username (wsi session : Option ℕ) (user : ChatServerUser) :
    (setOnlineAt wsi session user).username = user.username := rfl

/-- `chat_server_users_set_online` for any two pointers. -/
def chatServerUsersSetOnlineAt (registry : ChatServerUsers) (username : Str)
    (wsi session : Option ℕ) : ChatServerUsers × ChatServerUsersResult :=
  match chatServerUsersFind registry username with
  | none => (registry, .notFound)
  | some _ =>
      (registry.withUsers
        (changeFirst username (setOnlineAt wsi session) registry.users)
        (map_username_changeFirst username (setOnlineAt_username wsi session)
          registry.users), .ok)

/-- The server hands over a connection with its own session data. -/
theorem chatServerUsersSetOnlineAt_self (registry : ChatServerUsers)
    (username : Str) (wsi : ℕ) :
    chatServerUsersSetOnlineAt registry username (some wsi) (some wsi) =
      chatServerUsersSetOnline registry username wsi := rfl

/-- Registry after a call, and its result.  `set_offline_by_wsi` returns
nothing. -/
def callRegistry (registry : ChatServerUsers) :
    RegistryCall → ChatServerUsers × ChatServerUsersResult
  | .register (some username) (some identityPk) =>
      chatServerUsersRegister registry username identityPk
  | .register _ _ => (registry, .invalid)
  | .setOnline (some username) wsi session =>
      chatServerUsersSetOnlineAt registry username wsi session
  | .setOnline none _ _ => (registry, .notFound)
  | .setOfflineByWsi (some wsi) => (chatServerUsersSetOfflineByWsi registry wsi, .ok)
  | .setOfflineByWsi none => (registry, .ok)

def registryStep (registry : ChatServerUsers) (call : RegistryCall) :
    ChatServerUsers :=
  (callRegistry registry call).1

/-- The name was registered with the key. -/
def RegisteredBy (calls : List RegistryCall) (username : Str)
    (identityPk : Bytes 32) : Prop :=
  Transition.Occurred (fun before call =>
    call = .register (some username) (some identityPk) ∧
      (callRegistry (Transition.run registryStep chatServerUsersInit before)
        call).2 = .ok) calls

/-! ## One call -/

/-- The copy of a name into its field is bounded by the size of the field, which
has room for every valid name. -/
theorem take_username {username : Str}
    (hvalid : chatUsernameIsValid username = true) :
    username.take chatUsernameMaxLen = username := by
  simp only [chatUsernameIsValid, Bool.and_eq_true, decide_eq_true_eq] at hvalid
  exact List.take_of_length_le hvalid.1.2

theorem register_ok_iff (registry : ChatServerUsers) (username : Str)
    (identityPk : Bytes 32) :
    (chatServerUsersRegister registry username identityPk).2 = .ok ↔
      chatUsernameIsValid username = true ∧
        chatServerUsersFind registry username = none ∧
        registry.users.length < chatServerMaxUsers := by
  unfold chatServerUsersRegister
  split_ifs with hvalid hroom hnew
  · simp [hvalid, hroom, hnew]
  · simp [hnew]
  · simp [hroom]
  · simp [hvalid]

/-- A new user stands at the end of the registry. -/
theorem users_register_ok {registry : ChatServerUsers} {username : Str}
    {identityPk : Bytes 32}
    (hok : (chatServerUsersRegister registry username identityPk).2 = .ok) :
    (chatServerUsersRegister registry username identityPk).1.users =
      registry.users ++
        [{ username := username.take chatUsernameMaxLen, identityPk }] := by
  obtain ⟨hvalid, hnew, hroom⟩ := (register_ok_iff _ _ _).mp hok
  rw [take_username hvalid]
  simp only [chatServerUsersRegister, hvalid, hroom, hnew, dif_pos]

theorem register_failed {registry : ChatServerUsers} {username : Str}
    {identityPk : Bytes 32}
    (hfailed : (chatServerUsersRegister registry username identityPk).2 ≠ .ok) :
    (chatServerUsersRegister registry username identityPk).1 = registry := by
  unfold chatServerUsersRegister at hfailed ⊢
  split_ifs at hfailed ⊢
  · exact absurd rfl hfailed
  · rfl
  · rfl
  · rfl

theorem call_failed {registry : ChatServerUsers} {call : RegistryCall}
    (hfailed : (callRegistry registry call).2 ≠ .ok) :
    (callRegistry registry call).1 = registry := by
  cases call with
  | register username identityPk =>
      cases username with
      | none => rfl
      | some username =>
          cases identityPk with
          | none => rfl
          | some identityPk => exact register_failed hfailed
  | setOnline username wsi session =>
      cases username with
      | none => rfl
      | some username =>
          simp only [callRegistry, chatServerUsersSetOnlineAt] at hfailed ⊢
          split at hfailed
          · rfl
          · exact absurd rfl hfailed
  | setOfflineByWsi wsi =>
      cases wsi with
      | none => rfl
      | some wsi => exact absurd rfl hfailed

theorem directory_setOnlineAt (registry : ChatServerUsers) (username : Str)
    (wsi session : Option ℕ) :
    directory (chatServerUsersSetOnlineAt registry username wsi session).1 =
      directory registry := by
  have hentry (user : ChatServerUser) :
      ((setOnlineAt wsi session user).username,
        (setOnlineAt wsi session user).identityPk) =
          (user.username, user.identityPk) := rfl
  unfold chatServerUsersSetOnlineAt
  split
  · rfl
  · exact map_changeFirst username hentry registry.users

/-- Only a successful registration changes the registered names and keys. -/
theorem directory_call {registry : ChatServerUsers} {call : RegistryCall}
    (hcall : ∀ username identityPk,
      call = .register (some username) (some identityPk) →
        (callRegistry registry call).2 ≠ .ok) :
    directory (callRegistry registry call).1 = directory registry := by
  cases call with
  | register username identityPk =>
      by_cases hok : (callRegistry registry (.register username identityPk)).2 = .ok
      · cases username with
        | none => rfl
        | some username =>
            cases identityPk with
            | none => rfl
            | some identityPk => exact absurd hok (hcall _ _ rfl)
      · rw [call_failed hok]
  | setOnline username wsi session =>
      cases username with
      | none => rfl
      | some username => exact directory_setOnlineAt registry username wsi session
  | setOfflineByWsi wsi =>
      cases wsi with
      | none => rfl
      | some wsi => exact directory_setOfflineByWsi registry wsi

theorem registeredKey_congr {registry next : ChatServerUsers}
    (hdirectory : directory next = directory registry) (username : Str) :
    registeredKey next username = registeredKey registry username := by
  rw [registeredKey_eq, registeredKey_eq, hdirectory]

/-- A registration adds the key of its name. -/
theorem registeredKey_register {registry : ChatServerUsers} {username : Str}
    {identityPk : Bytes 32}
    (hok : (chatServerUsersRegister registry username identityPk).2 = .ok)
    (other : Str) (key : Bytes 32) :
    registeredKey (chatServerUsersRegister registry username identityPk).1 other =
        some key ↔
      registeredKey registry other = some key ∨
        (username = other ∧ identityPk = key) := by
  obtain ⟨hvalid, hnew, -⟩ := (register_ok_iff _ _ _).mp hok
  have hdirectory : directory
      (chatServerUsersRegister registry username identityPk).1 =
        directory registry ++ [(username, identityPk)] := by
    rw [directory, users_register_ok hok, take_username hvalid, List.map_append]
    rfl
  rw [registeredKey_eq, hdirectory, List.find?_append, registeredKey_eq]
  cases hfind : (directory registry).find? fun entry => decide (entry.1 = other) with
  | none => by_cases hname : username = other <;> simp [hname]
  | some entry =>
      have hother : username ≠ other := by
        rintro rfl
        have hnone : registeredKey registry username = none := by
          rw [registeredKey, hnew, Option.map_none]
        rw [registeredKey_eq, hfind] at hnone
        exact absurd hnone (by simp)
      simp [hother]

/-! ## Every sequence of calls -/

theorem registeredBy_append (calls : List RegistryCall) (call : RegistryCall)
    (username : Str) (identityPk : Bytes 32) :
    RegisteredBy (calls ++ [call]) username identityPk ↔
      RegisteredBy calls username identityPk ∨
        (call = .register (some username) (some identityPk) ∧
          (callRegistry (Transition.run registryStep chatServerUsersInit calls)
            call).2 = .ok) :=
  Transition.occurred_append_singleton _ calls call

/-- The key of a name is the one it was registered with. -/
theorem registeredKey_run (calls : List RegistryCall) (username : Str)
    (identityPk : Bytes 32) :
    registeredKey (Transition.run registryStep chatServerUsersInit calls) username =
        some identityPk ↔
      RegisteredBy calls username identityPk := by
  induction calls using List.reverseRecOn with
  | nil =>
      refine iff_of_false ?_ (Transition.not_occurred_nil _)
      simp [registeredKey, chatServerUsersFind, chatServerUsersInit]
  | append_singleton calls call hcalls =>
      rw [Transition.run_append]
      rw [registeredBy_append, ← hcalls]
      generalize Transition.run registryStep chatServerUsersInit calls = registry
      by_cases hok : ∃ name key, call = .register (some name) (some key) ∧
          (callRegistry registry call).2 = .ok
      · obtain ⟨name, key, rfl, hok⟩ := hok
        have hregister := registeredKey_register hok username identityPk
        simp only [RegistryCall.register.injEq, Option.some.injEq, hok, and_true]
        exact hregister
      · push Not at hok
        have hsame := registeredKey_congr (directory_call hok) username
        have hother : ¬ (call = .register (some username) (some identityPk) ∧
            (callRegistry registry call).2 = .ok) :=
          fun hcall => hok _ _ hcall.1 hcall.2
        rw [Transition.run_cons, Transition.run_nil, registryStep, hsame,
          or_iff_left hother]

/-- After any calls with any arguments the registry has room for its users, whose
names are valid and distinct; `find` returns a user exactly if its name was
registered, with the key of that registration; a failed call changes nothing;
and a registration succeeds exactly if its name is valid, was not registered
before and there is room, when it appends the user. -/
theorem registry_of_calls (calls : List RegistryCall) :
    let registry := Transition.run registryStep chatServerUsersInit calls
    registry.users.length ≤ chatServerMaxUsers ∧
    (∀ user ∈ registry.users, chatUsernameIsValid user.username = true) ∧
    (registry.users.map ChatServerUser.username).Nodup ∧
    (∀ username identityPk,
      (chatServerUsersFind registry username).map ChatServerUser.identityPk =
          some identityPk ↔
        RegisteredBy calls username identityPk) ∧
    (∀ call, (callRegistry registry call).2 ≠ .ok →
      (callRegistry registry call).1 = registry) ∧
    (∀ username identityPk,
      (callRegistry registry (.register username identityPk)).2 = .ok ↔
        ∃ name key, username = some name ∧ identityPk = some key ∧
          chatUsernameIsValid name = true ∧
          (∀ other, ¬ RegisteredBy calls name other) ∧
          registry.users.length < chatServerMaxUsers) ∧
    ∀ username identityPk,
      (callRegistry registry (.register (some username) (some identityPk))).2 = .ok →
      (callRegistry registry (.register (some username) (some identityPk))).1.users =
        registry.users ++
          [{ username := username.take chatUsernameMaxLen, identityPk }] := by
  intro registry
  have hkey := registeredKey_run calls
  have hfree (name : Str) : chatServerUsersFind registry name = none ↔
      ∀ other, ¬ RegisteredBy calls name other := by
    rw [← Option.map_eq_none_iff (f := ChatServerUser.identityPk),
      Option.eq_none_iff_forall_ne_some]
    exact forall_congr' fun other => not_congr (hkey name other)
  refine ⟨registry.bounded, registry.valid, registry.nodup, hkey,
    fun call => call_failed, fun username identityPk => ?_,
    fun username identityPk => users_register_ok⟩
  cases username with
  | none => simp [callRegistry]
  | some name =>
      cases identityPk with
      | none => simp [callRegistry]
      | some key =>
          rw [callRegistry, register_ok_iff, hfree]
          simp

/-- Alice's name keeps its first key when it is registered again. -/
theorem registry_of_calls_alice :
    let first := Transparent.repeated 32 1
    let second := Transparent.repeated 32 2
    (chatServerUsersFind (Transition.run registryStep chatServerUsersInit
      [.register (some alice.username) (some first),
        .register (some alice.username) (some second)]) alice.username).map
        ChatServerUser.identityPk = some first := by
  intro first second
  have hregistered : RegisteredBy [.register (some alice.username) (some first),
      .register (some alice.username) (some second)] alice.username first :=
    ⟨[], _, _, rfl, rfl, by decide +kernel⟩
  exact ((registry_of_calls _).2.2.2.1 _ _).mpr hregistered

end ProntoChat.Server
