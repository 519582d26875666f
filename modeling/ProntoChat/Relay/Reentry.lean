import ProntoChat.Daemon.Scenario
import ProntoChat.Relay.Answers
import ProntoChat.Relay.Messages
import ProntoChat.Server.Registry

/-!
# Logging in again

The daemon registers its name on every connection and goes on when the server
answers that the name exists.  The server says so only while its registry has
room, because it looks at the room first, and only if it can read the key.
-/

namespace ProntoChat.Relay

open ProntoChat.QuotedText
open ProntoChat.Protocole
open ProntoChat.Json
open ProntoChat.Crypto
open ProntoChat.Daemon
open ProntoChat.Server

/-- The daemon writes its message, the server answers it, and the answer
arrives; `trip` gives the call outcomes of the daemon and the challenge that
the server draws. -/
def roundTrip (wsi : ℕ) (trip : Env × Bytes 32) : List LinkEvent :=
  [.daemon trip.1 (.control (.writeable true)), .up trip.2,
    .server (.writeable wsi true), .down trip.1 true]

/-- A fresh connection and the round trips on it, with nothing in between. -/
def loginExchange (wsi : ℕ) (env : Env) (trips : List (Env × Bytes 32)) :
    List LinkEvent :=
  .connect wsi env :: trips.flatMap (roundTrip wsi)

/-- A connection on which nothing is on its way. -/
def settled (daemon : ChatdState) (server : ChatServerState) (wsi : ℕ) : Link :=
  { daemon, server, wsi := some wsi }

section RoundTrips

variable (sodium : Sodium) {daemon : ChatdState} {server : ChatServerState} {wsi : ℕ}

/-- Nothing happens on a connection on which nobody has anything to say. -/
theorem run_roundTrip_idle (trip : Env × Bytes 32) (hempty : daemon.pending = [])
    (hheld : server.held wsi = none) :
    Transition.run (linkStep sodium) (settled daemon server wsi)
      (roundTrip wsi trip) = settled daemon server wsi := by
  have hwrite : chatdStep sodium daemon (trip.1, .control (.writeable true)) =
      daemon := by
    simp [chatdStep, callbackChatdControl, hempty]
  have hserve : serverStep sodium server (.writeable wsi true) = server := by
    cases hsession : server.sessions wsi with
    | none => simp [serverStep, ServerEvent.wsi, hsession]
    | some session =>
        have hnone : session.pending = [] := by
          simpa [ChatServerState.held, hsession] using hheld
        simp [serverStep, ServerEvent.wsi, hsession, callbackChatControl, hnone]
  simp [roundTrip, settled, linkStep, Link.handles, Link.serves, Link.moveDaemon,
    Link.moveServer, hwrite, hserve]

theorem run_roundTrips_idle (trips : List (Env × Bytes 32))
    (hempty : daemon.pending = []) (hheld : server.held wsi = none) :
    Transition.run (linkStep sodium) (settled daemon server wsi)
      (trips.flatMap (roundTrip wsi)) = settled daemon server wsi := by
  induction trips with
  | nil => rfl
  | cons trip trips ih =>
      rw [List.flatMap_cons, Transition.run_append,
        run_roundTrip_idle sodium trip hempty hheld, ih]

/-- The buffer is empty once the connection could be written. -/
theorem held_writeable (server : ChatServerState) (wsi : ℕ) :
    (serverStep sodium server (.writeable wsi true)).held wsi = none := by
  cases hsession : server.sessions wsi with
  | none => simp [serverStep, ServerEvent.wsi, hsession, ChatServerState.held]
  | some session =>
      by_cases hempty : session.pending = []
      · simp [serverStep, ServerEvent.wsi, hsession, callbackChatControl, hempty,
          ChatServerState.held]
      · simp [serverStep, ServerEvent.wsi, hsession, callbackChatControl, hempty,
          ChatServerState.held, ChatServerState.setSession]

/-- The message of the daemon arrives; the server has not written anything. -/
theorem linkStep_up (message : Str) (challenge : Bytes 32) :
    ∃ answer, linkStep sodium { settled daemon server wsi with up := [message] }
        (.up challenge) =
      { settled daemon
          (serverStep sodium server (.receive wsi message true challenge)) wsi with
        answer } := by
  have hwritten : (serverStep sodium server
      (.receive wsi message true challenge)).written wsi = server.written wsi :=
    serverStep_written sodium nofun
  refine ⟨(linkStep sodium { settled daemon server wsi with up := [message] }
    (.up challenge)).answer, ?_⟩
  simp [linkStep, settled, Link.moveServer, hwritten]

/-- The server writes the message in the buffer. -/
theorem linkStep_written {reply : Str} {answer : Option Answer}
    (hheld : server.held wsi = some reply) :
    linkStep sodium { settled daemon server wsi with answer }
        (.server (.writeable wsi true)) =
      { settled daemon (serverStep sodium server (.writeable wsi true)) wsi with
        down := [(reply, answer)] } := by
  have hwritten : (serverStep sodium server (.writeable wsi true)).written wsi =
      server.written wsi ++ [reply] := serverStep_writeable sodium hheld
  have hfree : (serverStep sodium server (.writeable wsi true)).held wsi = none :=
    held_writeable sodium server wsi
  simp [linkStep, settled, Link.serves, Link.moveServer, hwritten, hfree, hheld]

theorem linkStep_down (env : Env) (reply : Str) (answer : Option Answer) :
    linkStep sodium { settled daemon server wsi with down := [(reply, answer)] }
        (.down env true) =
      settled (chatdStep sodium daemon (env, receive reply)) server wsi := by
  have hframes : (chatdStep sodium daemon (env, receive reply)).frames =
      daemon.frames := by
    rcases slot_step sodium daemon (env, receive reply) with ⟨hsame, _⟩ | ⟨hwrite, _⟩
    · exact hsame
    · exact nomatch hwrite
  rw [receive] at hframes ⊢
  simp [linkStep, settled, Link.moveDaemon, hframes]

/-- A round trip in which the server places its answer in the buffer of the
connection. -/
theorem run_roundTrip (trip : Env × Bytes 32) {reply : Str}
    (hfull : daemon.pending ≠ [])
    (hreply : (serverStep sodium server
      (.receive wsi daemon.pending true trip.2)).held wsi = some reply) :
    Transition.run (linkStep sodium) (settled daemon server wsi)
        (roundTrip wsi trip) =
      settled
        (chatdStep sodium
          (chatdStep sodium daemon (trip.1, .control (.writeable true)))
          (trip.1, receive reply))
        (serverStep sodium
          (serverStep sodium server (.receive wsi daemon.pending true trip.2))
          (.writeable wsi true))
        wsi := by
  let wrote := chatdStep sodium daemon (trip.1, .control (.writeable true))
  have hframes : wrote.frames = daemon.frames ++ [daemon.pending] := by
    simp [wrote, chatdStep, callbackChatdControl, hfull]
  have hsent : linkStep sodium (settled daemon server wsi)
      (.daemon trip.1 (.control (.writeable true))) =
        { settled wrote server wsi with up := [daemon.pending] } := by
    simp [linkStep, settled, Link.handles, Link.moveDaemon, hframes, wrote]
  obtain ⟨answer, hanswered⟩ := linkStep_up sodium daemon.pending trip.2
  simp only [roundTrip, Transition.run_cons, Transition.run_nil, hsent]
  rw [hanswered, linkStep_written sodium hreply, linkStep_down]

end RoundTrips

/-! ## The server -/

/-- The registry and the session of one connection. -/
structure Serving (wsi : ℕ) (users : ChatServerUsers) (session : ChatServerSession)
    (server : ChatServerState) : Prop where
  users : server.users = users
  session : server.sessions wsi = some session

section Server

variable {sodium : Sodium} {server : ChatServerState} {wsi : ℕ}
  {users : ChatServerUsers} {session : ChatServerSession} {identity : ChatIdentity}

theorem serving_sendJson (sodium : Sodium) (state : ChatServerState) (wsi : ℕ)
    (session : ChatServerSession) {members : List (Str × Str)}
    (hlength : (object members).length < chatServerMaxJsonSize) :
    let next := (sendJson state wsi session (object members)).1
    next.held wsi = some (object members) ∧
      Serving wsi state.users { session with pending := [] }
        (serverStep sodium next (.writeable wsi true)) := by
  have hsome : object members ≠ [] := by
    cases members <;> simp [object]
  refine ⟨held_sendJson hlength, ?_, ?_⟩ <;>
    simp [serverStep, ServerEvent.wsi, sendJson, not_le.mpr hlength,
      ChatServerState.setSession, callbackChatControl, hsome]

theorem serving_sendError (sodium : Sodium) (state : ChatServerState) (wsi : ℕ)
    (session : ChatServerSession) (code : ErrorCode) :
    let next := (sendError state wsi session code).1
    next.held wsi = some (errorJson code.text) ∧
      Serving wsi state.users { session with pending := [] }
        (serverStep sodium next (.writeable wsi true)) := by
  have hlength := length_errorJson code
  have hfits : (errorJson code.text).length < chatServerMaxJsonSize :=
    hlength.trans (by decide)
  rw [sendError, sendFormatted, if_neg (not_le.mpr hlength)]
  exact serving_sendJson sodium state wsi session hfits

/-- A message of the daemon is handed to `handle_message` as it was built. -/
theorem serverStep_message {message : ControlMessage} (challenge : Bytes 32)
    (hserving : Serving wsi users session server) (hvalid : message.Valid sodium) :
    serverStep sodium server (.receive wsi (message.json sodium) true challenge) =
      (handleMessage sodium server wsi session (message.json sodium) challenge).1 := by
  have hfits : ¬ (chatServerMaxJsonSize ≤ (message.json sodium).length ∨
      true = false) := by
    have := length_json hvalid
    have := bufferSize_le message
    simp only [or_false, Bool.true_eq_false, not_le]
    omega
  rw [serverStep_open sodium hserving.session]
  simp only [callbackChatControl, cString_json hvalid, if_neg hfits]

theorem handleMessage_of_type {json : Str} {type : ControlType} (challenge : Bytes 32)
    (htype : jsonType json = some type) :
    handleMessage sodium server wsi session json challenge =
      match type with
      | .register => handleRegister server wsi session json
      | .hello => handleHello server wsi session json challenge
      | .authResponse => handleAuthResponse sodium server wsi session json
      | .userLookup => handleUserLookup server wsi session json
      | type =>
          if signalingTypeIsSupported type then
            handleSignalingForward server wsi session json type
          else sendError server wsi session .unknownType := by
  obtain ⟨name, hname, hof⟩ := Option.bind_eq_some_iff.mp htype
  cases type <;> simp only [handleMessage, hname, hof]

/-- The registration of a name that exists. -/
theorem register_known {user : ChatServerUser} {username : Str}
    (hfind : chatServerUsersFind users username = some user) (publicKey : Bytes 32) :
    chatServerUsersRegister users username publicKey =
      (users, if users.users.length < chatServerMaxUsers then .alreadyExists
        else .full) := by
  obtain ⟨hmem, rfl⟩ := chatServerUsersFind_some hfind
  unfold chatServerUsersRegister
  rw [dif_pos (users.valid user hmem)]
  split_ifs with hroom hnew
  · simp [hnew] at hfind
  · rfl
  · rfl

/-- The code with which the server answers the registration of a known name. -/
def knownCode (users : ChatServerUsers) (username : Str) : ErrorCode :=
  if username = JsonKey.publicKey.name then .badRegister
  else if users.users.length < chatServerMaxUsers then .users .alreadyExists
  else .users .full

section Messages

variable (hname : chatUsernameIsValid identity.username = true)

include hname

theorem parseRegister_registerJson :
    parseRegister (registerJson identity) =
      if identity.username = JsonKey.publicKey.name then none
      else some (identity.username, identity.publicKey) := by
  have hvalid : (ControlMessage.register identity).Valid Transparent.sodium := hname
  have hlength := (username_length hname).2
  have hother : ControlType.register.name ≠ JsonKey.username.name ∧
      ControlType.register.name ≠ JsonKey.publicKey.name ∧
      JsonKey.type.name ≠ JsonKey.username.name ∧
      JsonKey.type.name ≠ JsonKey.publicKey.name ∧
      JsonKey.username.name ≠ JsonKey.publicKey.name := by
    decide +kernel
  have husername : jsonGetString (registerJson identity) .username
      Server.usernameSize = some identity.username := by
    refine (jsonGetString_json hvalid .username (by decide)).trans ?_
    simp [ControlMessage.members, scanMembers, hother, Server.usernameSize,
      chatUsernameMaxLen, hlength]
  have hkey : jsonGetString (registerJson identity) .publicKey
      chatServerHexPublicKeyLen =
        if identity.username = JsonKey.publicKey.name then none
        else some (sodiumBin2hex identity.publicKey) := by
    refine (jsonGetString_json hvalid .publicKey (by decide)).trans ?_
    simp [ControlMessage.members, scanMembers, hother, chatServerHexPublicKeyLen]
  unfold parseRegister
  rw [husername, hkey]
  split_ifs
  · rfl
  · simp [hname, hexToBin_sodiumBin2hex]

theorem parseHello_helloJson :
    parseHello (helloJson identity.username) = some identity.username := by
  have hvalid : (ControlMessage.hello identity.username).Valid Transparent.sodium :=
    hname
  have hlength := (username_length hname).2
  have hother : ControlType.hello.name ≠ JsonKey.username.name ∧
      JsonKey.type.name ≠ JsonKey.username.name := by
    decide +kernel
  have husername : jsonGetString (helloJson identity.username) .username
      Server.usernameSize = some identity.username := by
    refine (jsonGetString_json hvalid .username (by decide)).trans ?_
    simp [ControlMessage.members, scanMembers, hother, Server.usernameSize,
      chatUsernameMaxLen, hlength]
  rw [parseHello, husername, Option.filter_some, if_pos hname]

theorem serverStep_register (challenge : Bytes 32)
    (hserving : Serving wsi users session server) :
    serverStep sodium server (.receive wsi (registerJson identity) true challenge) =
      (handleRegister server wsi session (registerJson identity)).1 := by
  have hvalid : (ControlMessage.register identity).Valid sodium := hname
  have hjson : jsonType ((ControlMessage.register identity).json sodium) =
      some .register := jsonType_registerJson hname
  refine (serverStep_message challenge hserving hvalid).trans ?_
  rw [handleMessage_of_type challenge hjson]
  rfl

/-- The server answers the registration of a known name with an error. -/
theorem reply_register {user : ChatServerUser} (challenge : Bytes 32)
    (hserving : Serving wsi users session server)
    (hfind : chatServerUsersFind users identity.username = some user) :
    serverStep sodium server (.receive wsi (registerJson identity) true challenge) =
      (sendError server wsi session (knownCode users identity.username)).1 := by
  rw [serverStep_register hname challenge hserving]
  obtain rfl := hserving.users
  simp only [handleRegister, knownCode, parseRegister_registerJson hname]
  split_ifs with hread hroom
  · rfl
  · simp only [register_known hfind, if_pos hroom]
    rfl
  · simp only [register_known hfind, if_neg hroom]
    rfl

/-- The server takes in a new user. -/
theorem reply_register_new (challenge : Bytes 32)
    (hserving : Serving wsi users session server)
    (hread : identity.username ≠ JsonKey.publicKey.name)
    (hok : (chatServerUsersRegister users identity.username
      identity.publicKey).2 = .ok) :
    serverStep sodium server (.receive wsi (registerJson identity) true challenge) =
      (server.setUsers (chatServerUsersRegister users identity.username
        identity.publicKey).1).setSession wsi
          { session with pending := registerOkJson } := by
  rw [serverStep_register hname challenge hserving]
  obtain rfl := hserving.users
  simp only [handleRegister, parseRegister_registerJson hname, if_neg hread]
  generalize chatServerUsersRegister server.users identity.username
    identity.publicKey = registration at hok ⊢
  obtain ⟨registered, result⟩ := registration
  obtain rfl : result = .ok := hok
  rfl

/-- The server answers the login of a known user with a challenge. -/
theorem reply_hello {user : ChatServerUser} (challenge : Bytes 32)
    (hserving : Serving wsi users session server)
    (hfind : chatServerUsersFind users identity.username = some user) :
    let challenged :=
      { session with
        challenge
        hasChallenge := true
        authenticated := false
        username := identity.username }
    serverStep sodium server
        (.receive wsi (helloJson identity.username) true challenge) =
      (sendJson (server.setSession wsi challenged) wsi challenged
        (authChallengeJson challenge)).1 := by
  have hvalid : (ControlMessage.hello identity.username).Valid sodium := hname
  refine (serverStep_message challenge hserving hvalid).trans ?_
  have hjson : jsonType ((ControlMessage.hello identity.username).json sodium) =
      some .hello := jsonType_helloJson hname
  rw [handleMessage_of_type challenge hjson]
  obtain rfl := hserving.users
  have hparse : parseHello ((ControlMessage.hello identity.username).json sodium) =
      some identity.username := parseHello_helloJson hname
  simp only [handleHello, hparse, hfind, sendFormatted,
    if_neg (not_le.mpr (length_authChallengeJson_reply challenge))]

end Messages

theorem parseAuthResponse_authResponseJson (signature : Bytes 64) :
    parseAuthResponse (authResponseJson signature) = some signature := by
  have hvalid : (ControlMessage.authResponse signature).Valid Transparent.sodium :=
    trivial
  have hother : ControlType.authResponse.name ≠ JsonKey.signature.name ∧
      JsonKey.type.name ≠ JsonKey.signature.name := by
    decide +kernel
  have hsignature : jsonGetString (authResponseJson signature) .signature
      chatServerHexSignatureLen = some (sodiumBin2hex signature) := by
    refine (jsonGetString_json hvalid .signature (by decide)).trans ?_
    simp [ControlMessage.members, scanMembers, hother, chatServerHexSignatureLen]
  simp [parseAuthResponse, hsignature, hexToBin_sodiumBin2hex]

/-- The server answers the signed challenge and puts the user online. -/
theorem reply_authResponse (drawn : Bytes 32) {challenge : Bytes 32}
    (hserving : Serving wsi users
      { username := identity.username, challenge, hasChallenge := true } server)
    (hsigns : sodium.SignsFor identity.secretKey identity.publicKey)
    (hkey : registeredKey users identity.username = some identity.publicKey) :
    serverStep sodium server (.receive wsi (authResponseJson
        (sodium.signDetached challenge.toList identity.secretKey)) true drawn) =
      (sendJson
        ((server.setUsers
          (chatServerUsersSetOnline users identity.username wsi).1).setSession wsi
            { username := identity.username, authenticated := true }) wsi
        { username := identity.username, authenticated := true } authOkJson).1 := by
  generalize hsignature :
    sodium.signDetached challenge.toList identity.secretKey = signature
  have hvalid : (ControlMessage.authResponse signature).Valid sodium := trivial
  have hfits : ¬ (chatServerMaxJsonSize ≤ (authResponseJson signature).length ∨
      true = false) := by
    have := length_json hvalid
    have := bufferSize_le (.authResponse signature)
    rw [ControlMessage.json] at *
    simp only [or_false, Bool.true_eq_false, not_le]
    omega
  obtain rfl := hserving.users
  have hverifies : Verifies sodium server
      (.receive wsi (authResponseJson signature) true drawn)
      identity.username challenge := by
    refine ⟨authResponseJson signature, signature, identity.publicKey, ?_,
      jsonType_authResponseJson signature,
      parseAuthResponse_authResponseJson signature, hkey,
      hsignature ▸ hsigns challenge.toList⟩
    have hcString : cString (authResponseJson signature) = authResponseJson signature :=
      cString_json hvalid
    rw [ServerEvent.message, if_neg hfits, hcString]
  have hopen : server.sessions
      (ServerEvent.receive wsi (authResponseJson signature) true drawn).wsi = some _ :=
    hserving.session
  exact serverStep_of_verifies hopen rfl hverifies

end Server

/-! ## The daemon -/

section Daemon

variable (sodium : Sodium) (env : Env) {identity : ChatIdentity} {state : ChatdState}

theorem step_error (code : ErrorCode) :
    chatdStep sodium state (env, receive (errorJson code.text)) =
      (handleError env state (errorJson code.text)).1 := by
  have hplain : ∀ entry ∈ [(JsonKey.code.name, code.text)],
      Plain entry.1 ∧ Plain entry.2 :=
    List.forall_mem_singleton.mpr ⟨JsonKey.code.searchName.plain, code.plain_text.1⟩
  have hlength : (errorJson code.text).length < chatdMaxJsonSize :=
    (length_errorJson code).trans (by decide)
  have hstep : chatdStep sodium state (env, receive (errorJson code.text)) =
      (handleReceive sodium env state (errorJson code.text)).1 :=
    step_receive sodium env (plain_control .error hplain) hlength
  rw [hstep, handleReceive, jsonType_errorJson]

/-- The daemon goes on when its name exists. -/
theorem queued_exists (hname : chatUsernameIsValid identity.username = true)
    (hwaiting : Waiting identity .register state) :
    Queued identity .hello (helloJson identity.username)
      (chatdStep sodium state
        (env, receive (errorJson (ErrorCode.users .alreadyExists).text))) := by
  have hcode : errorCode (errorJson (ErrorCode.users .alreadyExists).text) =
      bytes "user already exists" := errorCode_errorJson _
  rw [step_error sodium env, handleError, if_pos ⟨hwaiting.phase, hcode⟩]
  exact queued_queueHello hname ⟨hwaiting.identity, rfl, hwaiting.pending⟩

/-- Any other answer to the registration ends the login. -/
theorem failed_register {code : ErrorCode}
    (hexists : code.text ≠ bytes "user already exists")
    (hoffline : code.text ≠ bytes "peer_offline")
    (hempty : state.pending = []) :
    let next := chatdStep sodium state (env, receive (errorJson code.text))
    next.phase = .failed ∧ next.pending = [] := by
  rw [step_error sodium env, handleError, errorCode_errorJson, if_neg (by simp [hexists]),
    if_neg (by simp [hoffline])]
  refine ⟨rfl, ?_⟩
  obtain ⟨_, _, _, _, hpending, _⟩ :=
    (detaches_writeLookupResponse env state (.error code.text)).keeps
  exact hpending.trans hempty

end Daemon

/-! ## The whole exchange -/

section Exchange

variable {sodium : Sodium} {env : Env} {identity : ChatIdentity} {phase : ChatdPhase}
  {daemon : ChatdState} {server : ChatServerState} {wsi : ℕ} {users : ChatServerUsers}
  {user : ChatServerUser}

/-- The daemon has queued its registration on a fresh connection. -/
theorem linkStep_connect (hname : chatUsernameIsValid identity.username = true)
    (hwaiting : Waiting identity phase daemon) (hfree : server.sessions wsi = none) :
    ∃ registering established,
      linkStep sodium { daemon, server } (.connect wsi env) =
        settled registering established wsi ∧
      Queued identity .register (registerJson identity) registering ∧
      Serving wsi server.users {} established := by
  refine ⟨_, serverStep sodium server (.established wsi), ?_,
    queued_established sodium env hname hwaiting, ?_, ?_⟩
  · simp [linkStep, hfree, settled]
  · simp [serverStep, ServerEvent.wsi, hfree, ChatServerState.setSession]
  · simp [serverStep, ServerEvent.wsi, hfree, ChatServerState.setSession]

/-- A round trip that the daemon begins with a queued message. -/
theorem run_roundTrip_queued (trip : Env × Bytes 32) {members : List (Str × Str)}
    {reply : Str} {answered : ChatServerState}
    (hqueued : Queued identity phase (object members) daemon)
    (hstep : serverStep sodium server (.receive wsi (object members) true trip.2) =
      answered)
    (hheld : answered.held wsi = some reply) :
    ∃ waiting, Waiting identity phase waiting ∧
      Transition.run (linkStep sodium) (settled daemon server wsi)
          (roundTrip wsi trip) =
        settled (chatdStep sodium waiting (trip.1, receive reply))
          (serverStep sodium answered (.writeable wsi true)) wsi := by
  refine ⟨_, waiting_writeable sodium trip.1 hqueued.sending, ?_⟩
  rw [← hqueued.pending] at hstep
  subst hstep
  exact run_roundTrip sodium trip hqueued.sending.pending hheld

/-- The server tells the daemon what it thinks of a known name. -/
theorem run_registration (trip : Env × Bytes 32)
    (hname : chatUsernameIsValid identity.username = true)
    (hqueued : Queued identity .register (registerJson identity) daemon)
    (hserving : Serving wsi users {} server)
    (hfind : chatServerUsersFind users identity.username = some user) :
    ∃ waiting answered, Waiting identity .register waiting ∧
      Serving wsi users {} answered ∧ answered.held wsi = none ∧
      Transition.run (linkStep sodium) (settled daemon server wsi)
          (roundTrip wsi trip) =
        settled (chatdStep sodium waiting (trip.1,
          receive (errorJson (knownCode users identity.username).text))) answered
          wsi := by
  have hstep : serverStep sodium server
      (.receive wsi (registerJson identity) true trip.2) = _ :=
    reply_register hname trip.2 hserving hfind
  obtain ⟨hheld, hanswered⟩ := serving_sendError sodium server wsi {}
    (knownCode users identity.username)
  obtain ⟨waiting, hwaiting, hrun⟩ := run_roundTrip_queued trip hqueued hstep hheld
  rw [hserving.users] at hanswered
  exact ⟨waiting, _, hwaiting, hanswered, held_writeable sodium _ wsi, hrun⟩

/-- The server challenges a known user. -/
theorem run_hello (trip : Env × Bytes 32)
    (hname : chatUsernameIsValid identity.username = true)
    (hqueued : Queued identity .hello (helloJson identity.username) daemon)
    (hserving : Serving wsi users {} server)
    (hfind : chatServerUsersFind users identity.username = some user) :
    ∃ responding answered,
      Queued identity .authResponse (authResponseJson
        (sodium.signDetached trip.2.toList identity.secretKey)) responding ∧
      Serving wsi users
        { username := identity.username, challenge := trip.2, hasChallenge := true }
        answered ∧
      Transition.run (linkStep sodium) (settled daemon server wsi)
        (roundTrip wsi trip) = settled responding answered wsi := by
  have hstep : serverStep sodium server
      (.receive wsi (helloJson identity.username) true trip.2) = _ :=
    reply_hello hname trip.2 hserving hfind
  have hlength : (authChallengeJson trip.2).length < chatServerMaxJsonSize :=
    (length_authChallengeJson_reply trip.2).trans (by decide)
  obtain ⟨hheld, hanswered⟩ := serving_sendJson sodium _ wsi _ hlength
  obtain ⟨waiting, hwaiting, hrun⟩ := run_roundTrip_queued trip hqueued hstep hheld
  refine ⟨_, _, queued_authChallenge sodium trip.1 trip.2 hwaiting, ?_, hrun⟩
  rw [← hserving.users]
  exact hanswered

/-- The signed challenge completes the login on both sides. -/
theorem run_authResponse (trip : Env × Bytes 32) {challenge : Bytes 32}
    (hsigns : sodium.SignsFor identity.secretKey identity.publicKey)
    (hqueued : Queued identity .authResponse (authResponseJson
      (sodium.signDetached challenge.toList identity.secretKey)) daemon)
    (hserving : Serving wsi users
      { username := identity.username, challenge, hasChallenge := true } server)
    (hkey : registeredKey users identity.username = some identity.publicKey) :
    ∃ online answered, Waiting identity .online online ∧
      answered.users = (chatServerUsersSetOnline users identity.username wsi).1 ∧
      answered.held wsi = none ∧
      Transition.run (linkStep sodium) (settled daemon server wsi)
        (roundTrip wsi trip) = settled online answered wsi := by
  have hstep : serverStep sodium server (.receive wsi (authResponseJson
      (sodium.signDetached challenge.toList identity.secretKey)) true trip.2) = _ :=
    reply_authResponse trip.2 hserving hsigns hkey
  have hlength : authOkJson.length < chatServerMaxJsonSize := by decide
  obtain ⟨hheld, hanswered⟩ := serving_sendJson sodium _ wsi _ hlength
  obtain ⟨waiting, hwaiting, hrun⟩ := run_roundTrip_queued trip hqueued hstep hheld
  exact ⟨_, _, waiting_authOk sodium trip.1 hwaiting, hanswered.users,
    held_writeable sodium _ wsi, hrun⟩

end Exchange

section Login

variable (sodium : Sodium) {identity : ChatIdentity} {daemon : ChatdState}
  {server : ChatServerState} {wsi : ℕ}

/-- What a login exchange needs. -/
structure Returning (identity : ChatIdentity) (daemon : ChatdState)
    (server : ChatServerState) (wsi : ℕ) : Prop where
  same : daemon.identity = identity
  pending : daemon.pending = []
  registered : registeredKey server.users identity.username = some identity.publicKey
  fresh : server.sessions wsi = none

theorem Returning.name_valid (hreturning : Returning identity daemon server wsi) :
    chatUsernameIsValid identity.username = true := by
  obtain ⟨user, hfind, _⟩ := registeredKey_some hreturning.registered
  obtain ⟨hmem, hsame⟩ := chatServerUsersFind_some hfind
  exact hsame ▸ server.users.valid user hmem

/-- The first round trip of a known user. -/
theorem Returning.registers (hreturning : Returning identity daemon server wsi)
    (env : Env) (trip : Env × Bytes 32) :
    ∃ waiting answered, Waiting identity .register waiting ∧
      Serving wsi server.users {} answered ∧ answered.held wsi = none ∧
      Transition.run (linkStep sodium) { daemon, server }
          (.connect wsi env :: roundTrip wsi trip) =
        settled (chatdStep sodium waiting (trip.1,
          receive (errorJson (knownCode server.users identity.username).text)))
          answered wsi := by
  obtain ⟨user, hfind, _⟩ := registeredKey_some hreturning.registered
  have hname := hreturning.name_valid
  obtain ⟨registering, established, hconnect, hqueued, hserving⟩ :=
    linkStep_connect hname ⟨hreturning.same, rfl, hreturning.pending⟩
      hreturning.fresh
  rw [Transition.run_cons, hconnect]
  exact run_registration trip hname hqueued hserving hfind

/-- The user is online on this connection. -/
def OnlineAt (registry : ChatServerUsers) (username : Str) (wsi : ℕ) : Prop :=
  ∃ user, chatServerUsersFind registry username = some user ∧
    user.online = true ∧ user.wsi = some wsi ∧ user.session = some wsi

theorem onlineAt_setOnline {registry : ChatServerUsers} {username : Str}
    {publicKey : Bytes 32} (wsi : ℕ)
    (hkey : registeredKey registry username = some publicKey) :
    OnlineAt (chatServerUsersSetOnline registry username wsi).1 username wsi := by
  obtain ⟨user, hfind, _⟩ := registeredKey_some hkey
  have hsame := (chatServerUsersFind_some hfind).2
  refine ⟨setOnline wsi user, ?_, rfl, rfl, rfl⟩
  rw [find_setOnline, hfind, Option.map_some, if_pos hsame]

/-- The server lets a known user in if it says that the name exists. -/
theorem Returning.accepted (hreturning : Returning identity daemon server wsi)
    (hsigns : sodium.SignsFor identity.secretKey identity.publicKey)
    (hexists : knownCode server.users identity.username = .users .alreadyExists)
    (env : Env) (first second third : Env × Bytes 32)
    (rest : List (Env × Bytes 32)) :
    let link := Transition.run (linkStep sodium) { daemon, server }
      (loginExchange wsi env (first :: second :: third :: rest))
    link.daemon.phase = .online ∧
      OnlineAt link.server.users identity.username wsi := by
  obtain ⟨user, hfind, _⟩ := registeredKey_some hreturning.registered
  obtain ⟨waiting, known, hwaiting, hknown, _, hregister⟩ :=
    hreturning.registers sodium env first
  have hqueued := queued_exists sodium first.1 hreturning.name_valid hwaiting
  rw [hexists] at hregister
  obtain ⟨responding, challenged, hresponding, hchallenged, hhello⟩ :=
    run_hello second hreturning.name_valid hqueued hknown hfind
  obtain ⟨online, answered, honline, husers, hheld, hauth⟩ :=
    run_authResponse third hsigns hresponding hchallenged hreturning.registered
  have hidle := run_roundTrips_idle sodium rest honline.pending hheld
  have hevents : loginExchange wsi env (first :: second :: third :: rest) =
      (.connect wsi env :: roundTrip wsi first) ++ (roundTrip wsi second ++
        (roundTrip wsi third ++ rest.flatMap (roundTrip wsi))) := by
    simp [loginExchange]
  intro link
  have hlink : link = settled online answered wsi := by
    simp only [link, hevents, Transition.run_append, hregister, hhello, hauth, hidle]
  rw [hlink]
  refine ⟨honline.phase, ?_⟩
  rw [settled, husers]
  exact onlineAt_setOnline wsi hreturning.registered

/-- Any other answer ends the daemon. -/
theorem Returning.refused (hreturning : Returning identity daemon server wsi)
    (hother : knownCode server.users identity.username ≠ .users .alreadyExists)
    (env : Env) (first : Env × Bytes 32) (rest : List (Env × Bytes 32)) :
    (Transition.run (linkStep sodium) { daemon, server }
      (loginExchange wsi env (first :: rest))).daemon.phase = .failed := by
  obtain ⟨waiting, known, hwaiting, hknown, hheld, hregister⟩ :=
    hreturning.registers sodium env first
  have htexts : (knownCode server.users identity.username).text ≠
        bytes "user already exists" ∧
      (knownCode server.users identity.username).text ≠ bytes "peer_offline" := by
    unfold knownCode at hother ⊢
    split_ifs at hother ⊢
    · decide
    · exact absurd rfl hother
    · decide
  obtain ⟨hphase, hpending⟩ := failed_register sodium first.1
    htexts.1 htexts.2 hwaiting.pending
  have hidle := run_roundTrips_idle sodium rest hpending hheld
  have hevents : loginExchange wsi env (first :: rest) =
      (.connect wsi env :: roundTrip wsi first) ++ rest.flatMap (roundTrip wsi) := by
    simp [loginExchange]
  rw [hevents, Transition.run_append, hregister, hidle]
  exact hphase

theorem knownCode_iff (users : ChatServerUsers) (username : Str) :
    knownCode users username = .users .alreadyExists ↔
      users.users.length < chatServerMaxUsers ∧ username ≠ JsonKey.publicKey.name := by
  unfold knownCode
  split_ifs with hread hroom
  · simp [hread]
  · simp [hread, hroom]
  · simp [hroom]

end Login

/-- A registered user that connects with an empty slot gets online if and only
if the registry has room for one more user and the name is not that of the key
member: the server looks at the room before it looks for the name, and it takes
such a name for the key. -/
theorem login_again_iff (sodium : Sodium) (identity : ChatIdentity)
    (daemon : ChatdState) (server : ChatServerState) (wsi : ℕ) (env : Env)
    (trips : List (Env × Bytes 32))
    (hsigns : sodium.SignsFor identity.secretKey identity.publicKey)
    (hidentity : daemon.identity = identity) (hempty : daemon.pending = [])
    (hkey : registeredKey server.users identity.username = some identity.publicKey)
    (hfresh : server.sessions wsi = none) (htrips : 3 ≤ trips.length) :
    let link := Transition.run (linkStep sodium) { daemon, server }
      (loginExchange wsi env trips)
    (link.daemon.phase = .online ∧
        OnlineAt link.server.users identity.username wsi) ↔
      server.users.users.length < chatServerMaxUsers ∧
        identity.username ≠ JsonKey.publicKey.name := by
  have hreturning : Returning identity daemon server wsi :=
    ⟨hidentity, hempty, hkey, hfresh⟩
  obtain ⟨first, second, third, rest, rfl⟩ :
      ∃ first second third rest, trips = first :: second :: third :: rest := by
    match trips, htrips with
    | first :: second :: third :: rest, _ => exact ⟨first, second, third, rest, rfl⟩
  rw [← knownCode_iff]
  constructor
  · intro honline
    by_contra hother
    have hfailed := hreturning.refused sodium hother env first
      (second :: third :: rest)
    exact nomatch hfailed.symm.trans honline.1
  · intro hexists
    exact hreturning.accepted sodium hsigns hexists env first second third rest

/-! ## Registries -/

/-- One connection registers these accounts in turn. -/
def registrations (identities : List ChatIdentity) : List ServerEvent :=
  .established 0 ::
    identities.map fun identity => .receive 0 (registerJson identity) true (zeroBytes 32)

/-- The entry of a user that never logged in. -/
def entry (identity : ChatIdentity) : ChatServerUser :=
  { username := identity.username, identityPk := identity.publicKey }

/-- Accounts that the server takes in. -/
structure Registrable (identities : List ChatIdentity) : Prop where
  valid : ∀ identity ∈ identities, chatUsernameIsValid identity.username = true ∧
    identity.username ≠ JsonKey.publicKey.name
  nodup : (identities.map ChatIdentity.username).Nodup
  length : identities.length ≤ chatServerMaxUsers

theorem Registrable.init {identities : List ChatIdentity} {identity : ChatIdentity}
    (hregistrable : Registrable (identities ++ [identity])) :
    Registrable identities := by
  obtain ⟨hvalid, hnodup, hlength⟩ := hregistrable
  rw [List.map_append] at hnodup
  rw [List.length_append] at hlength
  exact ⟨fun member hmem => hvalid member (List.mem_append_left _ hmem),
    hnodup.of_append_left, (Nat.le_add_right _ _).trans hlength⟩

/-- There is a place for the last account. -/
theorem Registrable.last_ok {identities : List ChatIdentity} {identity : ChatIdentity}
    {registry : ChatServerUsers}
    (hregistrable : Registrable (identities ++ [identity]))
    (husers : registry.users = identities.map entry) :
    (chatServerUsersRegister registry identity.username
      identity.publicKey).2 = .ok := by
  obtain ⟨hvalid, hnodup, hlength⟩ := hregistrable
  refine (register_ok_iff _ _ _).mpr
    ⟨(hvalid identity (by simp)).1, ?_, ?_⟩
  · rw [chatServerUsersFind, husers, List.find?_eq_none]
    intro user huser
    obtain ⟨member, hmember, rfl⟩ := List.mem_map.mp huser
    rw [List.map_append, List.nodup_append] at hnodup
    have hother := hnodup.2.2 member.username (List.mem_map_of_mem hmember)
      identity.username (by simp)
    exact fun hsame => hother (of_decide_eq_true hsame)
  · rw [husers, List.length_map]
    rw [List.length_append, List.length_singleton] at hlength
    exact hlength

/-- These accounts and nobody else are registered, and only the first connection
was ever used. -/
structure Registered (identities : List ChatIdentity) (server : ChatServerState) :
    Prop where
  users : server.users.users = identities.map entry
  session : ∃ pending, server.sessions 0 = some { pending }
  free : ∀ wsi ≠ 0, server.sessions wsi = none

theorem registered_registrations (sodium : Sodium) {identities : List ChatIdentity}
    (hregistrable : Registrable identities) :
    Registered identities
      (Transition.run (serverStep sodium) {} (registrations identities)) := by
  induction identities using List.reverseRecOn with
  | nil =>
      refine ⟨rfl, ⟨[], rfl⟩, fun wsi hwsi => ?_⟩
      exact Function.update_of_ne hwsi _ _
  | append_singleton identities identity ih =>
      obtain ⟨hname, hread⟩ := hregistrable.valid identity (by simp)
      obtain ⟨husers, ⟨pending, hsession⟩, hfree⟩ := ih hregistrable.init
      have hok := hregistrable.last_ok husers
      have hevents : registrations (identities ++ [identity]) =
          registrations identities ++
            [.receive 0 (registerJson identity) true (zeroBytes 32)] := by
        simp [registrations]
      rw [hevents, Transition.run_append, Transition.run_cons, Transition.run_nil,
        reply_register_new hname (zeroBytes 32) ⟨rfl, hsession⟩ hread hok]
      refine ⟨?_, ⟨registerOkJson, ?_⟩, fun wsi hwsi => ?_⟩
      · refine (users_register_ok hok).trans ?_
        rw [husers, take_username hname, List.map_append]
        rfl
      · simp [ChatServerState.setSession]
      · exact (Function.update_of_ne hwsi _ _).trans (hfree wsi hwsi)

/-- A registered account can return on the next connection. -/
theorem Registered.returning {identities : List ChatIdentity} {identity : ChatIdentity}
    {server : ChatServerState} (hregistered : Registered identities server)
    (hregistrable : Registrable identities) (hmem : identity ∈ identities) :
    Returning identity { identity } server 1 := by
  refine ⟨rfl, rfl, ?_, hregistered.free 1 (by decide)⟩
  rw [registeredKey, chatServerUsersFind, hregistered.users]
  cases hfind : (identities.map entry).find? fun user =>
      decide (user.username = identity.username) with
  | none =>
      have hother := List.find?_eq_none.mp hfind (entry identity)
        (List.mem_map_of_mem hmem)
      exact absurd (decide_eq_true rfl) hother
  | some user =>
      obtain ⟨member, hmember, rfl⟩ :=
        List.mem_map.mp (List.mem_of_find?_eq_some hfind)
      have hname := List.find?_some hfind
      obtain rfl := List.inj_on_of_nodup_map hregistrable.nodup hmember hmem
        (of_decide_eq_true hname)
      rfl

/-- Alice logs in again. -/
theorem login_again_alice :
    let trip := (Env.smooth 0 0, zeroBytes 32)
    let server :=
      Transition.run (serverStep Transparent.sodium) {} (registrations [alice, bob])
    let link := Transition.run (linkStep Transparent.sodium)
      { daemon := { identity := alice }, server }
      (loginExchange 1 trip.1 [trip, trip, trip])
    link.daemon.phase = .online ∧ OnlineAt link.server.users alice.username 1 := by
  intro trip server
  have hregistrable : Registrable [alice, bob] := by
    refine ⟨?_, ?_, ?_⟩ <;> decide +kernel
  have hregistered : Registered [alice, bob] server :=
    registered_registrations Transparent.sodium hregistrable
  clear_value server
  have hreturning := hregistered.returning hregistrable List.mem_cons_self
  have hroom : server.users.users.length < chatServerMaxUsers := by
    rw [hregistered.users]
    decide
  exact (login_again_iff Transparent.sodium alice { identity := alice } server 1 trip.1
    [trip, trip, trip] (Transparent.identity_signsFor _ _) rfl rfl
    hreturning.registered hreturning.fresh (by decide)).mpr ⟨hroom, by decide +kernel⟩

/-- The name with a number below 256, in which two letters are its digits. -/
def numbered (number : ℕ) : Str :=
  bytes "user" ++ [UInt8.ofNat (97 + number / 16), UInt8.ofNat (97 + number % 16)]

/-- As many accounts as the registry holds. -/
def everyone : List ChatIdentity :=
  (List.range chatServerMaxUsers).map fun number =>
    Transparent.identity (numbered number) 1

theorem numbered_valid {number : ℕ} (hnumber : number < 256) :
    chatUsernameIsValid (numbered number) = true := by
  have hletter : ∀ digit < 16, usernameByte (UInt8.ofNat (97 + digit)) = true := by
    decide
  have hword : (bytes "user").all usernameByte = true := by decide
  have hlength : (numbered number).length = 6 := rfl
  have hall : (numbered number).all usernameByte = true := by
    simp only [numbered, List.all_append, List.all_cons, List.all_nil, hword,
      hletter (number / 16) (by omega), hletter (number % 16) (by omega),
      Bool.and_self]
  rw [chatUsernameIsValid, hlength, hall]
  decide

theorem numbered_injective {first second : ℕ} (hfirst : first < 256)
    (hsecond : second < 256) (hsame : numbered first = numbered second) :
    first = second := by
  have hdigits := List.append_cancel_left hsame
  simp only [List.cons.injEq, and_true] at hdigits
  have hhigh := congrArg UInt8.toNat hdigits.1
  have hlow := congrArg UInt8.toNat hdigits.2
  rw [UInt8.toNat_ofNat', UInt8.toNat_ofNat'] at hhigh hlow
  omega

theorem registrable_everyone : Registrable everyone := by
  refine ⟨?_, ?_, (List.length_map _).trans_le List.length_range.le⟩
  · intro identity hmem
    obtain ⟨number, hnumber, rfl⟩ := List.mem_map.mp hmem
    refine ⟨numbered_valid (List.mem_range.mp hnumber), fun hsame => ?_⟩
    exact absurd (congrArg List.length hsame) (by decide +kernel : (6 : ℕ) ≠ _)
  · rw [everyone, List.map_map]
    refine List.nodup_range.map_on fun first hfirst second hsecond hsame => ?_
    exact numbered_injective (List.mem_range.mp hfirst) (List.mem_range.mp hsecond) hsame

/-- Nobody can log in again once the registry is full: the server does not say
that the name exists, and the daemon ends. -/
theorem login_fails_at_full_registry :
    let trip := (Env.smooth 0 0, zeroBytes 32)
    let server :=
      Transition.run (serverStep Transparent.sodium) {} (registrations everyone)
    ∀ identity ∈ everyone,
      registeredKey server.users identity.username = some identity.publicKey ∧
      Transparent.sodium.SignsFor identity.secretKey identity.publicKey ∧
      server.sessions 1 = none ∧
      (Transition.run (linkStep Transparent.sodium) { daemon := { identity }, server }
        (loginExchange 1 trip.1 [trip, trip, trip])).daemon.phase = .failed := by
  intro trip server identity hmem
  have hregistered : Registered everyone server :=
    registered_registrations Transparent.sodium registrable_everyone
  clear_value server
  have hreturning := hregistered.returning registrable_everyone hmem
  refine ⟨hreturning.registered, ?_, hreturning.fresh,
    hreturning.refused Transparent.sodium ?_ trip.1 trip [trip, trip]⟩
  · obtain ⟨number, _, rfl⟩ := List.mem_map.mp hmem
    exact Transparent.identity_signsFor _ _
  · intro hexists
    have hroom := ((knownCode_iff _ _).mp hexists).1
    rw [hregistered.users, List.length_map] at hroom
    simp [everyone] at hroom

end ProntoChat.Relay
