import ProntoChat.Daemon.Invariants
import ProntoChat.Daemon.Scenario

/-!
# A secure session and the control connection

Which events of the control connection change a secure session or detach its
client, when they do not come from the peer of that session.  Losing the
connection and logging in again never do; four kinds of messages do.
-/

namespace ProntoChat.Daemon

open ProntoChat.QuotedText
open ProntoChat.Protocole
open ProntoChat.Json
open ProntoChat.Contacts
open ProntoChat.Crypto

variable {sodium : Sodium} {env : Env} {state : ChatdState} {json : Str}

/-- A signalling message in the name of the peer of the session. -/
def sentByPeer (state : ChatdState) (json : Str) : Bool :=
  (match jsonType json with
    | some .chatRequest | some .chatAccept | some .iceCredentials
    | some .chatCancel => true
    | _ => false) &&
  decide (jsonGetString json .from usernameSize = some state.session.icePeer)

/-- The messages that disturb a secure session: an acceptable request of
another user, an acceptance for the attached client, an error or a status
reply while a client is attached. -/
def disturbs (env : Env) (state : ChatdState) (json : Str) : Bool :=
  match jsonType json with
  | some .chatRequest =>
      (validChatRequest state json).any fun offer =>
        decide ((chatContactsVerifyOrPin env.contactsIo state.contacts
          offer.sender offer.identityPk).result = .ok)
  | some .chatAccept => (matchingChatAccept state json).isSome
  | some .error =>
      decide (state.lookupClientFd ≠ none) &&
        !(decide (state.phase = .register) &&
          decide (errorCode json = bytes "user already exists"))
  | some .userStatus =>
      decide (state.lookupClientFd ≠ none) &&
        decide (jsonGetString json .username usernameSize =
          some state.lookupPeer)
  | _ => false

/-- The session is as before and the same client is attached. -/
structure Unchanged (before after : ChatdState) : Prop where
  sessionState : after.sessionState = before.sessionState
  session : after.session = before.session
  client : after.lookupClientFd = before.lookupClientFd

/-- What a secure session keeps. -/
structure Isolated (before after : ChatdState) : Prop where
  sessionState : after.sessionState = .secure
  icePeer : after.session.icePeer = before.session.icePeer
  iceSessionId : after.session.iceSessionId = before.session.iceSessionId
  remoteIdentityPk :
    after.session.remoteIdentityPk = before.session.remoteIdentityPk
  cryptoKeys : after.session.cryptoKeys = before.session.cryptoKeys
  push : after.session.cryptoStream.push = before.session.cryptoStream.push
  pull : after.session.cryptoStream.pull = before.session.cryptoStream.pull
  lookupClientFd : after.lookupClientFd = before.lookupClientFd

theorem queueFormatted_unchanged (state : ChatdState) (size : ℕ) (json : Str) :
    Unchanged state (queueFormatted state size json).1 := by
  unfold queueFormatted queueJson
  split_ifs <;> exact ⟨rfl, rfl, rfl⟩

/-- The message of the control connection that an event delivers. -/
def ChatdEvent.message : ChatdEvent → Option Str
  | .control event => event.message
  | _ => none

/-- The events of the control connection, reconnection attempts included. -/
def ChatdEvent.isControl : ChatdEvent → Bool
  | .control _ | .reconnect _ => true
  | _ => false

theorem callback_message (sodium : Sodium) (env : Env) (state : ChatdState)
    {event : ControlEvent} (hmessage : event.message = some json) :
    callbackChatdControl sodium env state event =
      handleReceive sodium env state json := by
  cases event with
  | receive payload whole =>
      simp only [ControlEvent.message] at hmessage
      split_ifs at hmessage with hmalformed
      simp only [callbackChatdControl, if_neg hmalformed,
        Option.some.inj hmessage]
  | _ => simp [ControlEvent.message] at hmessage

/-- A control event that neither comes from the peer nor disturbs. -/
structure Harmless (state : ChatdState) (input : Env × ChatdEvent) : Prop where
  control : input.2.isControl = true
  other : ∀ json, input.2.message = some json → sentByPeer state json = false
  quiet : ∀ json, input.2.message = some json →
    disturbs input.1 state json = false

theorem Isolated.trans {first second third : ChatdState}
    (hfirst : Isolated first second) (hsecond : Isolated second third) :
    Isolated first third where
  sessionState := hsecond.sessionState
  icePeer := hsecond.icePeer.trans hfirst.icePeer
  iceSessionId := hsecond.iceSessionId.trans hfirst.iceSessionId
  remoteIdentityPk := hsecond.remoteIdentityPk.trans hfirst.remoteIdentityPk
  cryptoKeys := hsecond.cryptoKeys.trans hfirst.cryptoKeys
  push := hsecond.push.trans hfirst.push
  pull := hsecond.pull.trans hfirst.pull
  lookupClientFd := hsecond.lookupClientFd.trans hfirst.lookupClientFd

end ProntoChat.Daemon
