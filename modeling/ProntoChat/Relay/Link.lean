import ProntoChat.Core.Transition
import ProntoChat.Daemon.Line
import ProntoChat.Server.Login

/-!
# A daemon at the server

One daemon and the server with all its other connections.  What either side
writes to the connection between them arrives in order, after any delay, and
is lost with the connection.  A message of the server carries along what it
answers; neither program sees this.
-/

namespace ProntoChat.Relay

open ProntoChat.QuotedText
open ProntoChat.Protocole
open ProntoChat.Json
open ProntoChat.Daemon
open ProntoChat.Server

/-- The receiver of a signalling message that `handle_signaling_forward` finds
unknown or not online. -/
def foundOffline (state : ChatServerState) (session : ChatServerSession)
    (json : Str) : Option Str :=
  match jsonType json with
  | none => none
  | some type =>
      if signalingTypeIsSupported type = false then none
      else
        match checkSignaling state session json type with
        | .error _ => none
        | .ok receiver =>
            if onlineTarget state receiver = none then some receiver else none

/-- What a reply of the server is about. -/
structure Answer where
  /-- The message of the daemon. -/
  request : Str
  /-- Its receiver, if the server found it unknown or not online. -/
  offline : Option Str
  deriving DecidableEq

/-- What the server answers to a message of a connection.  A message that is
passed on is not answered, and one that is too long is not looked at. -/
def answerTo (state : ChatServerState) (wsi : ℕ) (json : Str) : Option Answer :=
  match state.sessions wsi with
  | none => none
  | some session =>
      if chatServerMaxJsonSize ≤ json.length then some ⟨json, none⟩
      else
        match forwardTarget state session (cString json) with
        | some _ => none
        | none => some ⟨json, foundOffline state session (cString json)⟩

structure Link where
  daemon : ChatdState
  server : ChatServerState := {}
  /-- The connection of the daemon. -/
  wsi : Option ℕ := none
  /-- Messages of the daemon on their way. -/
  up : List Str := []
  /-- What the message in the buffer of the connection answers. -/
  answer : Option Answer := none
  /-- Messages of the server on their way, with what they answer. -/
  down : List (Str × Option Answer) := []

inductive LinkEvent where
  /-- A new connection is established. -/
  | connect (wsi : ℕ) (env : Env)
  /-- The daemon loses its connection. -/
  | lose (env : Env)
  /-- An event of the daemon other than the arrival of a message. -/
  | daemon (env : Env) (event : ChatdEvent)
  /-- An event of the server other than the arrival of a message of the
  daemon. -/
  | server (event : ServerEvent)
  /-- The next message of the daemon arrives. -/
  | up (challenge : Bytes 32)
  /-- The next message of the server arrives. -/
  | down (env : Env) (whole : Bool)

namespace Link

/-- Events that the main loop of the daemon handles in this state of its
connection. -/
def handles (link : Link) : ChatdEvent → Bool
  | .control (.writeable _) => link.wsi.isSome
  | .control .connectionError => link.wsi.isNone
  | .control _ => false
  | _ => true

/-- Events of the server that do not belong to the connection of the daemon,
apart from those in which the daemon takes no part. -/
def serves (link : Link) : ServerEvent → Bool
  | .writeable _ _ | .closed _ => true
  | .established wsi | .receive wsi _ _ _ => decide (link.wsi ≠ some wsi)

/-- The daemon took a step; what it wrote is on its way. -/
def moveDaemon (link : Link) (next : ChatdState) : Link :=
  { link with
    daemon := next
    up := link.up ++ next.frames.drop link.daemon.frames.length }

/-- The server took a step; what it wrote to the daemon is on its way, and a
changed buffer is no longer the answer that it was. -/
def moveServer (link : Link) (next : ChatServerState) : Link :=
  match link.wsi with
  | none => { link with server := next }
  | some wsi =>
      { link with
        server := next
        answer := if next.held wsi = link.server.held wsi then link.answer else none
        down := link.down ++
          ((next.written wsi).drop (link.server.written wsi).length).map
            fun json => (json, link.answer) }

end Link

def linkStep (sodium : Sodium) (link : Link) : LinkEvent → Link
  | .connect wsi env =>
      if link.wsi = none ∧ link.server.sessions wsi = none then
        { daemon := chatdStep sodium link.daemon (env, .control .established)
          server := serverStep sodium link.server (.established wsi)
          wsi := some wsi }
      else link
  | .lose env =>
      if link.wsi = none then link
      else
        { daemon := chatdStep sodium link.daemon (env, .control .closed)
          server := link.server }
  | .daemon env event =>
      if link.handles event then
        link.moveDaemon (chatdStep sodium link.daemon (env, event))
      else link
  | .server event =>
      if link.serves event then link.moveServer (serverStep sodium link.server event)
      else link
  | .up challenge =>
      match link.wsi, link.up with
      | some wsi, json :: rest =>
          let moved := link.moveServer
            (serverStep sodium link.server (.receive wsi json true challenge))
          { moved with
            up := rest
            answer := (answerTo link.server wsi json).or moved.answer }
      | _, _ => link
  | .down env whole =>
      match link.down with
      | [] => link
      | (json, _) :: rest =>
          { link.moveDaemon
              (chatdStep sodium link.daemon (env, .control (.receive json whole))) with
            down := rest }

end ProntoChat.Relay
