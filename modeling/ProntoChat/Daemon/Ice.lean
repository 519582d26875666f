import ProntoChat.Core.DropRing
import ProntoChat.Common.Protocole

/-!
# ICE sessions

The daemon wraps one libnice agent.  Callbacks record that gathering is done,
that the component is connected or failed, and store received datagrams in a
ring of eight slots.  libnice itself is represented by the outcome of its
calls and by the order in which it runs the callbacks.
-/

namespace ProntoChat.Ice

open ProntoChat.DropRing
open ProntoChat.Protocole

inductive ChatIceError where
  | invalid
  | agent
  | gather
  | sdp
  | remote
  | send
  | buffer
  deriving DecidableEq, Repr

def chatIceRecvMax : ℕ := 4096

def chatIceRecvQueueCapacity : ℕ := 8

instance : NeZero chatIceRecvQueueCapacity := ⟨by decide⟩

/-- A datagram that fits one slot of the receive queue. -/
structure IcePacket where
  content : List UInt8
  fits : content.length ≤ chatIceRecvMax
  deriving DecidableEq

/-- A cleared slot. -/
def IcePacket.blank : IcePacket := ⟨[], Nat.zero_le _⟩

abbrev RecvQueue := DropRing IcePacket chatIceRecvQueueCapacity

structure ChatIceSession where
  agent : Bool := false
  gatheringDone : Bool := false
  remoteSet : Bool := false
  ready : Bool := false
  failed : Bool := false
  selectedPairKnown : Bool := false
  selectedPairIsRelayed : Bool := false
  recvQueue : RecvQueue := DropRing.empty IcePacket.blank

/-- The stored datagrams, oldest first. -/
def ChatIceSession.received (ice : ChatIceSession) : List (List UInt8) :=
  ice.recvQueue.toList.map IcePacket.content

@[simp]
theorem received_default : ({} : ChatIceSession).received = [] := by
  simp [ChatIceSession.received]

theorem length_received_le (ice : ChatIceSession) :
    ice.received.length ≤ chatIceRecvQueueCapacity := by
  simpa [ChatIceSession.received] using ice.recvQueue.toList_length_le

/-- A signal of the agent for the stream and component of the session. -/
inductive IceCallback where
  | candidateGatheringDone
  /-- The component became connected or ready; the argument tells whether the
  selected pair is known and uses a relay. -/
  | componentConnected (selectedPair : Option Bool)
  | componentFailed
  | recv (buf : List UInt8)
  deriving DecidableEq

def onRecv (session : ChatIceSession) (buf : List UInt8) : ChatIceSession :=
  if hfits : buf.length ≤ chatIceRecvMax then
    { session with
      recvQueue := session.recvQueue.push IcePacket.blank ⟨buf, hfits⟩ }
  else { session with failed := true }

/-- The callbacks run while the agent exists. -/
def iceCallback (session : ChatIceSession) : IceCallback → ChatIceSession
  | .candidateGatheringDone => { session with gatheringDone := true }
  | .componentConnected none => { session with ready := true }
  | .componentConnected (some relayed) =>
      { session with
        ready := true
        selectedPairKnown := true
        selectedPairIsRelayed := relayed }
  | .componentFailed => { session with failed := true }
  | .recv buf => onRecv session buf

/-- `chat_ice_session_start`; `started` is the outcome of creating the agent
and of starting to gather candidates. -/
def chatIceSessionStart (started : Except ChatIceError Unit) :
    ChatIceSession × Except ChatIceError Unit :=
  match started with
  | .error failure => ({}, .error failure)
  | .ok _ => ({ agent := true }, .ok ())

/-- `chat_ice_session_generate_local_sdp`; `sdp` is the text made by libnice. -/
def chatIceSessionGenerateLocalSdp (session : ChatIceSession)
    (sdp : Option Str) : Except ChatIceError Str :=
  if session.agent = false then .error .invalid
  else if session.gatheringDone = false then .error .gather
  else
    match sdp with
    | none | some [] => .error .sdp
    | some text => .ok text

/-- `chat_ice_session_set_remote_sdp`; `added` is the number of streams that
libnice found in the text, or negative. -/
def chatIceSessionSetRemoteSdp (session : ChatIceSession) (added : ℤ) :
    Except ChatIceError ChatIceSession :=
  if session.agent = false then .error .invalid
  else if added < 0 then .error .sdp
  else if added = 0 then .error .remote
  else .ok { session with remoteSet := true }

/-- `chat_ice_send`; `accepted` tells whether libnice took the datagram. -/
def chatIceSend (session : ChatIceSession) (data : List UInt8)
    (accepted : Bool) : Except ChatIceError Unit :=
  if session.ready = false ∨ session.agent = false ∨ data.length = 0 ∨
      chatIceRecvMax < data.length then .error .invalid
  else if accepted = false then .error .send
  else .ok ()

/-- `chat_ice_take_received`: the oldest datagram, or nothing when the queue is
empty, and the remaining session. -/
def chatIceTakeReceived (session : ChatIceSession) (outSize : ℕ) :
    Except ChatIceError (List UInt8 × ChatIceSession) :=
  match session.recvQueue.take IcePacket.blank with
  | none => .ok ([], session)
  | some (packet, rest) =>
      if outSize < packet.content.length then .error .buffer
      else .ok (packet.content, { session with recvQueue := rest })

/-! ## The receive queue as a list -/

theorem received_onRecv_of_lt {session : ChatIceSession} {buf : List UInt8}
    (hfits : buf.length ≤ chatIceRecvMax)
    (hroom : session.received.length < chatIceRecvQueueCapacity) :
    (onRecv session buf).received = session.received ++ [buf] := by
  have hcount : session.recvQueue.toList.length < chatIceRecvQueueCapacity := by
    simpa [ChatIceSession.received] using hroom
  simp [onRecv, hfits, ChatIceSession.received,
    DropRing.toList_push_of_lt _ _ _ hcount]

theorem received_onRecv_of_full {session : ChatIceSession} {buf : List UInt8}
    (hfits : buf.length ≤ chatIceRecvMax)
    (hfull : session.received.length = chatIceRecvQueueCapacity) :
    (onRecv session buf).received = session.received.tail ++ [buf] := by
  have hcount : session.recvQueue.toList.length = chatIceRecvQueueCapacity := by
    simpa [ChatIceSession.received] using hfull
  simp [onRecv, hfits, ChatIceSession.received,
    DropRing.toList_push_of_full _ _ _ hcount]

theorem chatIceTakeReceived_nil {session : ChatIceSession} (outSize : ℕ)
    (hempty : session.received = []) :
    chatIceTakeReceived session outSize = .ok ([], session) := by
  have hnone : session.recvQueue.take IcePacket.blank = none := by
    rw [DropRing.take_eq_none_iff]
    simpa [ChatIceSession.received] using hempty
  simp [chatIceTakeReceived, hnone]

/-- Taking with a buffer of the size of a slot returns the oldest datagram. -/
theorem chatIceTakeReceived_cons {session : ChatIceSession}
    {packet : List UInt8} {packets : List (List UInt8)}
    (hreceived : session.received = packet :: packets) :
    ∃ rest : RecvQueue,
      chatIceTakeReceived session chatIceRecvMax =
          .ok (packet, { session with recvQueue := rest }) ∧
        rest.toList.map IcePacket.content = packets := by
  obtain ⟨first, queue, hqueue, hfirst, hrest⟩ :=
    List.map_eq_cons_iff.mp hreceived
  cases htake : session.recvQueue.take IcePacket.blank with
  | none =>
      rw [DropRing.take_eq_none_iff] at htake
      rw [htake] at hqueue
      exact absurd hqueue (by simp)
  | some taken =>
      obtain ⟨entry, rest⟩ := taken
      have hlist := DropRing.toList_of_take_eq_some htake
      rw [hqueue, List.cons.injEq] at hlist
      refine ⟨rest, ?_, by rw [← hlist.2, hrest]⟩
      have hsize : ¬ chatIceRecvMax < entry.content.length :=
        Nat.not_lt.mpr entry.fits
      simp [chatIceTakeReceived, htake, hsize, ← hfirst, hlist.1]

end ProntoChat.Ice
