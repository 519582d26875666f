import ProntoChat.Daemon.Control

/-!
# The IPC socket and the main loop

Commands of local clients, and the events from which every run of the daemon
is made.
-/

namespace ProntoChat.Daemon

open ProntoChat.QuotedText
open ProntoChat.Protocole
open ProntoChat.Json
open ProntoChat.Contacts
open ProntoChat.Crypto
open ProntoChat.Ice

def writeIpcStatus (env : Env) (fd : ℕ) (state : ChatdState) : ChatdState :=
  let word :=
    if state.phase = .online then bytes "ONLINE"
    else if state.connected then bytes "CONNECTING"
    else bytes "OFFLINE"
  writeIpcResponse env state fd (.status word state.identity.username)

/-- Attach the client to the running session. -/
def attachToSession (env : Env) (fd : ℕ) (state : ChatdState) (peer : Str) :
    ChatdState :=
  let state := { state with lookupClientFd := some fd, openedPeer := peer }
  writeIpcResponse env state fd
    (.encryptedSession state.session.icePeer
      state.session.iceSelectedPairIsRelayed)

/-- Attach the client and ask the peer for a new session. -/
def requestSession (env : Env) (fd : ℕ) (state : ChatdState) (peer : Str) :
    Outcome :=
  let state :=
    { state with
      lookupPeer := peer
      lookupClientFd := some fd
      openedPeer := peer
      chatRetryCount := 0
      sessionState := .requesting }
  match queueChatRequest env state peer with
  | (state, true) => (state, true)
  | (state, false) =>
      (writeLookupResponse env state (.error (bytes "chat_request_failed")),
        false)

/-- How `handle_open_chat_command` answers. -/
inductive OpenChatAnswer where
  | refuse (line : IpcLine)
  | attach
  | request
  deriving DecidableEq

def openChatAnswer (state : ChatdState) (peer : Str) : OpenChatAnswer :=
  if chatUsernameIsValid peer = false then
    .refuse (.error (bytes "invalid_username"))
  else if ¬ (state.phase = .online ∧ state.controlWsi = true) then
    .refuse (.error (bytes "daemon_not_online"))
  else if peer = state.identity.username then .refuse (.userOnline peer)
  else if state.session.iceActive = true ∧
      state.session.encryptedSessionReady = true ∧
      peer = state.session.icePeer ∧ state.lookupClientFd = none then
    .attach
  else if state.lookupClientFd ≠ none ∨ hasPendingControlMessage state = true then
    .refuse (.error (bytes "busy"))
  else if usernameSize ≤ peer.length then
    .refuse (.error (bytes "invalid_username"))
  else .request

theorem openChatAnswer_attach {state : ChatdState} {peer : Str}
    (hanswer : openChatAnswer state peer = .attach) :
    state.session.iceActive = true ∧
      state.session.encryptedSessionReady = true ∧
      peer = state.session.icePeer ∧ state.lookupClientFd = none := by
  unfold openChatAnswer at hanswer
  split_ifs at hanswer with _ _ _ hattach
  exact hattach

theorem openChatAnswer_request {state : ChatdState} {peer : Str}
    (hanswer : openChatAnswer state peer = .request) :
    chatUsernameIsValid peer = true ∧ state.phase = .online ∧
      state.controlWsi = true ∧ peer ≠ state.identity.username ∧
      state.lookupClientFd = none ∧ state.pending = [] := by
  unfold openChatAnswer at hanswer
  split_ifs at hanswer with hvalid honline hself _ hbusy
  simp only [not_or, not_not, hasPendingControlMessage, ne_eq,
    decide_eq_true_eq] at hbusy
  exact ⟨by simpa using hvalid, honline.1, honline.2, hself, hbusy.1, hbusy.2⟩

/-- `handle_open_chat_command`; the result tells whether the descriptor stays
open. -/
def handleOpenChatCommand (env : Env) (fd : ℕ) (state : ChatdState)
    (peer : Str) : Outcome :=
  match openChatAnswer state peer with
  | .refuse line => ((writeIpcResponse env state fd line), false)
  | .attach => (attachToSession env fd state peer, true)
  | .request => requestSession env fd state peer

/-- `sscanf(command, "OPEN_CHAT %33s", peer)`. -/
def parseOpenChat (command : Str) : Option Str :=
  if (bytes "OPEN_CHAT").isPrefixOf command then
    (scanToken 33 (command.drop 9)).map Prod.fst
  else none

/-- `handle_ipc_client` for the bytes that can be read, where none stands for a
closed or failed connection. -/
def handleIpcClient (env : Env) (fd : ℕ) (state : ChatdState)
    (input : List UInt8) : Outcome :=
  let command := cString (input.take (chatIpcMaxCommand - 1))
  if input = [] then (state, false)
  else if command = bytes "STATUS\n" ∨ command = bytes "STATUS" then
    (writeIpcStatus env fd state, false)
  else
    match parseOpenChat command with
    | some peer => handleOpenChatCommand env fd state peer
    | none =>
        ((writeIpcLine env state fd (.error (bytes "unknown_command"))).1, false)

/-- What `poll` reports for the waiting client. -/
inductive IpcPoll where
  | broken
  | idle
  | readable (input : List UInt8)
  deriving DecidableEq

/-- The first part of `service_ipc`; `accepted` is the descriptor returned by
`accept`. -/
def acceptIpcClient (env : Env) (state : ChatdState) (accepted : Option ℕ) :
    ChatdState :=
  match state.pendingIpcClientFd, accepted with
  | none, some fd =>
      { state with
        pendingIpcClientFd := some fd
        pendingIpcDeadlineAt := env.now + 5 }
  | _, _ => state

/-- The waiting client is handed over or dropped. -/
def releaseIpcClient (state : ChatdState) : ChatdState :=
  { state with pendingIpcClientFd := none, pendingIpcDeadlineAt := 0 }

def serviceIpc (env : Env) (state : ChatdState) (accepted : Option ℕ)
    (poll : IpcPoll) : ChatdState :=
  let state := acceptIpcClient env state accepted
  match state.pendingIpcClientFd with
  | none => state
  | some fd =>
      if poll = .broken ∨ state.pendingIpcDeadlineAt ≤ env.now then
        (releaseIpcClient state).emit (.ipcClosed fd)
      else
        match poll with
        | .readable input =>
            let served := handleIpcClient env fd (releaseIpcClient state) input
            if served.2 then served.1 else served.1.emit (.ipcClosed fd)
        | _ => state

/-- The peer that `service_ipc` asks for a new session, if it does. -/
def requestedPeer (env : Env) (state : ChatdState) (accepted : Option ℕ)
    (poll : IpcPoll) : Option Str :=
  let state := acceptIpcClient env state accepted
  match state.pendingIpcClientFd, poll with
  | some _, .readable input =>
      if state.pendingIpcDeadlineAt ≤ env.now then none
      else
        (parseOpenChat (cString (input.take (chatIpcMaxCommand - 1)))).filter
          fun peer => openChatAnswer state peer = .request
  | _, _ => none

/-! ## The attached client -/

/-- Result of reading from the attached client; no bytes stand for the end of
the stream. -/
inductive ClientRead where
  | wouldBlock
  | error
  | data (input : List UInt8)
  deriving DecidableEq

/-- End the session on behalf of the attached client. -/
def closeChatByClient (sodium : Sodium) (env : Env) (state : ChatdState) :
    ChatdState :=
  (resetIceSession
    (closeLookupClient (sendEncryptedChatClose sodium env state).1)).setSessionState
      .closed

def isLineBreak (byte : UInt8) : Bool := byte == 10 || byte == 13

/-- The nonempty lines of a command buffer behind an open `line`. -/
def commandLinesFrom : Str → Str → List Str
  | line, [] => if line = [] then [] else [line]
  | line, byte :: rest =>
      if isLineBreak byte then
        if line = [] then commandLinesFrom [] rest
        else line :: commandLinesFrom [] rest
      else commandLinesFrom (line ++ [byte]) rest

def commandLines (command : Str) : List Str := commandLinesFrom [] command

def sendMessagePrefix : Str := bytes "SEND_MESSAGE "

/-- One command line other than `CLOSE_CHAT`. -/
def serviceCommand (sodium : Sodium) (env : Env) (state : ChatdState) (fd : ℕ)
    (line : Str) : ChatdState :=
  if sendMessagePrefix.isPrefixOf line then
    match sendEncryptedChatMessage sodium env state
        (line.drop sendMessagePrefix.length) with
    | (state, true) => state
    | (state, false) =>
        (writeIpcLine env state fd (.error (bytes "send_failed"))).1
  else (writeIpcLine env state fd (.error (bytes "unknown_command"))).1

/-- The command loop of `service_active_chat_client`. -/
def serviceCommands (sodium : Sodium) (env : Env) :
    List Str → ChatdState → ChatdState
  | [], state => state
  | line :: lines, state =>
      match state.lookupClientFd with
      | none => state
      | some fd =>
          if state.session.iceActive = false then state
          else if line = bytes "CLOSE_CHAT" then
            closeChatByClient sodium env state
          else
            serviceCommands sodium env lines
              (serviceCommand sodium env state fd line)

def serviceActiveChatClient (sodium : Sodium) (env : Env) (state : ChatdState)
    (read : ClientRead) : ChatdState :=
  if state.lookupClientFd = none ∨
      state.session.encryptedSessionReady = false then state
  else
    match read with
    | .wouldBlock => state
    | .error =>
        (resetIceSession (closeLookupClient state)).setSessionState .failed
    | .data [] => closeChatByClient sodium env state
    | .data input =>
        serviceCommands sodium env
          (commandLines (cString (input.take (chatIpcMaxCommand - 1)))) state

/-! ## Runs -/

/-- The reconnection attempt of the main loop; `started` is the outcome of
`lws_client_connect_via_info`. -/
def serviceReconnect (env : Env) (state : ChatdState) (started : Bool) :
    ChatdState :=
  if state.shouldReconnect = true ∧ state.connected = false ∧
      state.nextReconnectAt ≤ env.now then
    { state with
      shouldReconnect := false
      nextReconnectAt :=
        if started then state.nextReconnectAt
        else env.now + chatdReconnectSeconds }
  else state

/-- A callback of libnice, which runs only while the agent exists. -/
def serviceIceCallback (state : ChatdState) (callback : IceCallback) :
    ChatdState :=
  if state.session.ice.agent then
    state.setSession
      { state.session with ice := iceCallback state.session.ice callback }
  else state

inductive ChatdEvent where
  | control (event : ControlEvent)
  | ipc (accepted : Option ℕ) (poll : IpcPoll)
  | activeClient (read : ClientRead)
  | ice (callback : IceCallback)
  | serviceIce
  | reconnect (started : Bool)
  deriving DecidableEq

/-- One step of the daemon under the given call outcomes. -/
def chatdStep (sodium : Sodium) (state : ChatdState) (input : Env × ChatdEvent) :
    ChatdState :=
  match input.2 with
  | .control event => (callbackChatdControl sodium input.1 state event).1
  | .ipc accepted poll => serviceIpc input.1 state accepted poll
  | .activeClient read => serviceActiveChatClient sodium input.1 state read
  | .ice callback => serviceIceCallback state callback
  | .serviceIce => serviceIceSession sodium input.1 state
  | .reconnect started => serviceReconnect input.1 state started

/-- The state in which `main` enters its loop, with a given contacts file. -/
def initialState (identity : ChatIdentity) (contacts : ContactsDb) :
    ChatdState where
  identity
  contacts

end ProntoChat.Daemon
