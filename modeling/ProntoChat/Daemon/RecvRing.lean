import ProntoChat.Core.Buffer
import ProntoChat.Core.Transition
import ProntoChat.Daemon.Ice

/-!
# The bytes of the receive ring

`chat_ice_session_t` keeps received datagrams in eight slots of 4096 bytes, the
used length of each slot, the slot of the oldest datagram and the number of
datagrams.  Slots are filled with `memcpy` and wiped up to their used length.
The session model keeps whole datagrams in a ring; here the bytes are related to
it, and the ring to a queue that forgets its oldest entry.
-/

namespace ProntoChat.Ice

open ProntoChat.Buffer
open ProntoChat.Protocole
open ProntoChat.DropRing

/-- The receive fields of `chat_ice_session_t`.  An access outside of an array
has no result in the functions below. -/
structure RecvRing where
  recvQueue : List (List UInt8)
  recvLens : List ℕ
  recvHead : ℕ
  recvCount : ℕ
  failed : Bool

namespace RecvRing

/-- `chat_ice_session_init`. -/
def chatIceSessionInit : RecvRing where
  recvQueue := List.replicate chatIceRecvQueueCapacity (List.replicate chatIceRecvMax 0)
  recvLens := List.replicate chatIceRecvQueueCapacity 0
  recvHead := 0
  recvCount := 0
  failed := false

/-- Wipe the used part of the oldest slot and move past it. -/
def wipeOldest (ring : RecvRing) : Option RecvRing :=
  ring.recvQueue[ring.recvHead]?.bind fun slot =>
  ring.recvLens[ring.recvHead]?.bind fun len =>
  (storeAll slot 0 (List.replicate len 0)).bind fun wiped =>
  (store ring.recvQueue ring.recvHead wiped).bind fun recvQueue =>
  (store ring.recvLens ring.recvHead 0).map fun recvLens =>
    { ring with
      recvQueue
      recvLens
      recvHead := (ring.recvHead + 1) % chatIceRecvQueueCapacity
      recvCount := ring.recvCount - 1 }

/-- Copy a datagram into the slot behind the newest one. -/
def insert (ring : RecvRing) (buf : List UInt8) : Option RecvRing :=
  let index := (ring.recvHead + ring.recvCount) % chatIceRecvQueueCapacity
  ring.recvQueue[index]?.bind fun slot =>
  (storeAll slot 0 buf).bind fun filled =>
  (store ring.recvQueue index filled).bind fun recvQueue =>
  (store ring.recvLens index buf.length).map fun recvLens =>
    { ring with recvQueue, recvLens, recvCount := ring.recvCount + 1 }

def onRecv (ring : RecvRing) (buf : List UInt8) : Option RecvRing :=
  if chatIceRecvMax < buf.length then some { ring with failed := true }
  else if chatIceRecvQueueCapacity ≤ ring.recvCount then
    ring.wipeOldest.bind fun ring => ring.insert buf
  else ring.insert buf

/-- `chat_ice_take_received` with an output buffer of `outSize` bytes: the ring,
and the result with the bytes that were copied. -/
def chatIceTakeReceived (ring : RecvRing) (outSize : ℕ) :
    Option (RecvRing × Except ChatIceError (List UInt8)) :=
  if ring.recvCount = 0 then some (ring, .ok [])
  else
    ring.recvLens[ring.recvHead]?.bind fun len =>
    if outSize < len then some (ring, .error .buffer)
    else
      ring.recvQueue[ring.recvHead]?.bind fun slot =>
      ring.wipeOldest.map fun next => (next, .ok (slot.take len))

/-- The stored datagrams, oldest first. -/
def stored (ring : RecvRing) : List (List UInt8) :=
  (List.range ring.recvCount).map fun offset =>
    let index := (ring.recvHead + offset) % chatIceRecvQueueCapacity
    (ring.recvQueue[index]?.getD []).take (ring.recvLens[index]?.getD 0)

/-- The slot holds a stored datagram. -/
def InWindow (ring : RecvRing) (index : ℕ) : Prop :=
  ∃ offset < ring.recvCount,
    (ring.recvHead + offset) % chatIceRecvQueueCapacity = index

end RecvRing

/-! ## Slots -/

/-- The bytes of a slot that holds a datagram. -/
def IcePacket.padded (packet : IcePacket) : List UInt8 :=
  packet.content ++ List.replicate (chatIceRecvMax - packet.content.length) 0

@[simp]
theorem padded_blank : IcePacket.blank.padded = List.replicate chatIceRecvMax 0 := rfl

@[simp]
theorem length_padded (packet : IcePacket) : packet.padded.length = chatIceRecvMax := by
  have := packet.fits
  simp only [IcePacket.padded, List.length_append, List.length_replicate]
  omega

theorem take_padded (packet : IcePacket) :
    packet.padded.take packet.content.length = packet.content :=
  List.take_left

/-- Wiping the used part of a slot clears all of it. -/
theorem wipe_padded (packet : IcePacket) :
    storeAll packet.padded 0 (List.replicate packet.content.length 0) =
      some IcePacket.blank.padded := by
  have hfits := packet.fits
  rw [storeAll_zero (by simpa using hfits), List.length_replicate, IcePacket.padded,
    List.drop_left, List.replicate_append_replicate, padded_blank]
  congr 2
  omega

/-- Copying a datagram into a clear slot leaves nothing else in it. -/
theorem fill_padded (packet : IcePacket) :
    storeAll IcePacket.blank.padded 0 packet.content = some packet.padded := by
  rw [storeAll_zero (by simpa using packet.fits), padded_blank, List.drop_replicate]
  rfl

/-! ## The ring of the session -/

/-- The bytes of the ring of a session. -/
structure Represents (raw : RecvRing) (session : ChatIceSession) : Prop where
  queue : raw.recvQueue = List.ofFn fun index => (session.recvQueue.slots index).padded
  lens : raw.recvLens =
    List.ofFn fun index => (session.recvQueue.slots index).content.length
  head : raw.recvHead = session.recvQueue.head.val
  count : raw.recvCount = session.recvQueue.count
  failed : raw.failed = session.failed
  cleared : session.recvQueue.Cleared IcePacket.blank

theorem represents_init : Represents RecvRing.chatIceSessionInit {} where
  queue := (List.ofFn_const _ _).symm
  lens := (List.ofFn_const _ _).symm
  head := rfl
  count := rfl
  failed := rfl
  cleared := cleared_empty IcePacket.blank

namespace Represents

variable {raw : RecvRing} {session : ChatIceSession}

theorem queue_slot (hraw : Represents raw session) (index : Fin chatIceRecvQueueCapacity) :
    raw.recvQueue[index.val]? = some (session.recvQueue.slots index).padded := by
  rw [hraw.queue, getElem?_ofFn_val]

theorem lens_slot (hraw : Represents raw session) (index : Fin chatIceRecvQueueCapacity) :
    raw.recvLens[index.val]? =
      some (session.recvQueue.slots index).content.length := by
  rw [hraw.lens, getElem?_ofFn_val]

/-- A store into one slot is a change of that slot. -/
theorem store_slot (hraw : Represents raw session) (index : Fin chatIceRecvQueueCapacity)
    (packet : IcePacket) :
    store raw.recvQueue index.val packet.padded =
        some (List.ofFn fun place =>
          (Function.update session.recvQueue.slots index packet place).padded) ∧
      store raw.recvLens index.val packet.content.length =
        some (List.ofFn fun place =>
          (Function.update session.recvQueue.slots index packet place).content.length) := by
  rw [hraw.queue, hraw.lens, store_ofFn, store_ofFn]
  constructor
  · congr 2
    exact (Function.comp_update IcePacket.padded _ _ _).symm
  · congr 2
    exact (Function.comp_update (fun entry : IcePacket => entry.content.length) _ _ _).symm

theorem wipeOldest (hraw : Represents raw session) :
    ∃ next, raw.wipeOldest = some next ∧
      Represents next
        { session with recvQueue := session.recvQueue.dropOldest IcePacket.blank } := by
  obtain ⟨hqueue, hlens⟩ := hraw.store_slot session.recvQueue.head IcePacket.blank
  rw [show IcePacket.blank.content.length = 0 from rfl] at hlens
  unfold RecvRing.wipeOldest
  rw [hraw.head, hraw.queue_slot, Option.bind_some, hraw.lens_slot, Option.bind_some,
    wipe_padded, Option.bind_some, hqueue, Option.bind_some, hlens, Option.map_some]
  refine ⟨_, rfl, ⟨rfl, rfl, rfl, ?_, hraw.failed, hraw.cleared.dropOldest⟩⟩
  rw [hraw.count]
  rfl

/-- The slot behind the newest datagram is clear, so only the copied bytes are in
it afterwards. -/
theorem insert (hraw : Represents raw session) (packet : IcePacket)
    (hroom : session.recvQueue.count < chatIceRecvQueueCapacity) :
    ∃ next, raw.insert packet.content = some next ∧
      Represents next
        { session with recvQueue := session.recvQueue.pushFree packet hroom } := by
  have hindex : (raw.recvHead + raw.recvCount) % chatIceRecvQueueCapacity =
      (session.recvQueue.slotAt session.recvQueue.count).val := by
    rw [hraw.head, hraw.count]
    rfl
  have hclear : (session.recvQueue.slots
      (session.recvQueue.slotAt session.recvQueue.count)) = IcePacket.blank :=
    hraw.cleared _ le_rfl hroom
  obtain ⟨hqueue, hlens⟩ :=
    hraw.store_slot (session.recvQueue.slotAt session.recvQueue.count) packet
  unfold RecvRing.insert
  simp only
  rw [hindex, hraw.queue_slot, Option.bind_some, hclear, fill_padded, Option.bind_some,
    hqueue, Option.bind_some, hlens, Option.map_some]
  refine ⟨_, rfl, ⟨rfl, rfl, hraw.head, ?_, hraw.failed, hraw.cleared.pushFree packet hroom⟩⟩
  rw [hraw.count]
  rfl

/-- `on_recv` on the bytes does what it does to the session. -/
theorem onRecv (hraw : Represents raw session) (buf : List UInt8) :
    ∃ next, raw.onRecv buf = some next ∧ Represents next (Ice.onRecv session buf) := by
  unfold RecvRing.onRecv Ice.onRecv
  by_cases hfits : buf.length ≤ chatIceRecvMax
  · rw [if_neg (Nat.not_lt.mpr hfits), dif_pos hfits, hraw.count]
    unfold DropRing.push
    split_ifs with hfull
    · obtain ⟨wiped, hwiped, hrest⟩ := hraw.wipeOldest
      rw [hwiped, Option.bind_some]
      exact hrest.insert ⟨buf, hfits⟩ _
    · exact hraw.insert ⟨buf, hfits⟩ _
  · rw [if_pos (Nat.lt_of_not_le hfits), dif_neg hfits]
    exact ⟨_, rfl, ⟨hraw.queue, hraw.lens, hraw.head, hraw.count, rfl, hraw.cleared⟩⟩

/-- With an output buffer of the size of a slot, `chat_ice_take_received` on the
bytes returns what it returns for the session. -/
theorem chatIceTakeReceived (hraw : Represents raw session) :
    ∃ next packet rest, raw.chatIceTakeReceived chatIceRecvMax = some (next, .ok packet) ∧
      Ice.chatIceTakeReceived session chatIceRecvMax = .ok (packet, rest) ∧
      Represents next rest := by
  unfold RecvRing.chatIceTakeReceived Ice.chatIceTakeReceived DropRing.take
  rw [hraw.count]
  split_ifs with hcount
  · exact ⟨raw, [], session, rfl, rfl, hraw⟩
  · obtain ⟨next, hnext, hrest⟩ := hraw.wipeOldest
    have hsize : ¬ chatIceRecvMax <
        (session.recvQueue.slots session.recvQueue.head).content.length :=
      Nat.not_lt.mpr (session.recvQueue.slots session.recvQueue.head).fits
    rw [hraw.head, hraw.lens_slot, Option.bind_some, if_neg hsize, hraw.queue_slot,
      Option.bind_some, hnext, Option.map_some, take_padded]
    simp only [if_neg hsize]
    exact ⟨next, _, _, rfl, rfl, hrest⟩

theorem stored_eq (hraw : Represents raw session) : raw.stored = session.received := by
  unfold RecvRing.stored ChatIceSession.received DropRing.toList
  rw [List.map_map, hraw.count]
  apply List.map_congr_left
  intro offset _
  have hindex : (raw.recvHead + offset) % chatIceRecvQueueCapacity =
      (session.recvQueue.slotAt offset).val := by
    rw [hraw.head]
    rfl
  simp only [hindex, hraw.queue_slot, hraw.lens_slot, Option.getD_some, take_padded,
    Function.comp_apply]

/-- What lies outside the window is clear. -/
theorem clear_outside (hraw : Represents raw session) {index : ℕ}
    (hindex : index < chatIceRecvQueueCapacity) (houtside : ¬ raw.InWindow index) :
    raw.recvLens[index]? = some 0 ∧
      raw.recvQueue[index]? = some (List.replicate chatIceRecvMax 0) := by
  obtain ⟨offset, hoffset, hslot⟩ := session.recvQueue.exists_offset ⟨index, hindex⟩
  have hval : (raw.recvHead + offset) % chatIceRecvQueueCapacity = index := by
    rw [hraw.head]
    exact congrArg Fin.val hslot
  have hbehind : session.recvQueue.count ≤ offset := by
    by_contra hinside
    exact houtside ⟨offset, by rw [hraw.count]; omega, hval⟩
  have hblank := hraw.cleared offset hbehind hoffset
  have hlens := hraw.lens_slot ⟨index, hindex⟩
  have hqueue := hraw.queue_slot ⟨index, hindex⟩
  rw [← hslot, hblank, hslot] at hlens hqueue
  exact ⟨hlens, hqueue⟩

end Represents

/-! ## Runs -/

/-- A call on the ring of a session: a datagram that fits a slot arrives, or one
is taken into a buffer of the size of a slot. -/
inductive RingCall where
  | recv (packet : IcePacket)
  | take

/-- What the calls to `chat_ice_take_received` returned so far. -/
abbrev Taken := List (Except ChatIceError (List UInt8))

def ringStep (state : RecvRing × Taken) : RingCall → Option (RecvRing × Taken)
  | .recv packet => (state.1.onRecv packet.content).map fun ring => (ring, state.2)
  | .take =>
      (state.1.chatIceTakeReceived chatIceRecvMax).map fun taken =>
        (taken.1, state.2 ++ [taken.2])

/-- The same call on a queue that forgets its oldest entry when it is full. -/
def queueStep (state : List (List UInt8) × Taken) : RingCall → List (List UInt8) × Taken
  | .recv packet => (enqueue chatIceRecvQueueCapacity state.1 packet.content, state.2)
  | .take => (state.1.tail, state.2 ++ [.ok (state.1.headD [])])

theorem received_onRecv (session : ChatIceSession) (packet : IcePacket) :
    (onRecv session packet.content).received =
      enqueue chatIceRecvQueueCapacity session.received packet.content := by
  unfold onRecv ChatIceSession.received
  rw [dif_pos packet.fits, toList_push]
  unfold enqueue
  rw [List.length_map, List.map_append, apply_ite (List.map IcePacket.content),
    List.map_tail]
  rfl

theorem received_of_take {session rest : ChatIceSession} {packet : List UInt8}
    (htake : chatIceTakeReceived session chatIceRecvMax = .ok (packet, rest)) :
    packet = session.received.headD [] ∧ rest.received = session.received.tail := by
  cases hreceived : session.received with
  | nil =>
      rw [chatIceTakeReceived_nil _ hreceived] at htake
      simp only [Except.ok.injEq, Prod.mk.injEq] at htake
      obtain ⟨rfl, rfl⟩ := htake
      exact ⟨rfl, hreceived⟩
  | cons first packets =>
      obtain ⟨queue, hqueue, hrest⟩ := chatIceTakeReceived_cons hreceived
      rw [hqueue] at htake
      simp only [Except.ok.injEq, Prod.mk.injEq] at htake
      obtain ⟨rfl, rfl⟩ := htake
      exact ⟨rfl, hrest⟩

/-- The bytes hold the queue. -/
def Holds (raw : RecvRing × Taken) (queue : List (List UInt8) × Taken) : Prop :=
  raw.2 = queue.2 ∧ ∃ session, Represents raw.1 session ∧ session.received = queue.1

theorem holds_step {raw : RecvRing × Taken} {queue : List (List UInt8) × Taken}
    (hholds : Holds raw queue) (call : RingCall) :
    ∃ next, ringStep raw call = some next ∧ Holds next (queueStep queue call) := by
  obtain ⟨htaken, session, hraw, hqueue⟩ := hholds
  cases call with
  | recv packet =>
      obtain ⟨next, hnext, hrepresents⟩ := hraw.onRecv packet.content
      refine ⟨(next, raw.2), ?_, htaken, onRecv session packet.content, hrepresents, ?_⟩
      · rw [ringStep, hnext, Option.map_some]
      · rw [received_onRecv, hqueue]
        rfl
  | take =>
      obtain ⟨next, packet, rest, hnext, htake, hrepresents⟩ := hraw.chatIceTakeReceived
      obtain ⟨hfirst, hrest⟩ := received_of_take htake
      refine ⟨(next, raw.2 ++ [.ok packet]), ?_, ?_, rest, hrepresents, ?_⟩
      · rw [ringStep, hnext, Option.map_some]
      · rw [htaken, hfirst, hqueue]
        rfl
      · rw [hrest, hqueue]
        rfl

theorem holds_run {raw : RecvRing × Taken} {queue : List (List UInt8) × Taken}
    (hholds : Holds raw queue) (calls : List RingCall) :
    ∃ next, calls.foldlM ringStep raw = some next ∧
      Holds next (Transition.run queueStep queue calls) := by
  induction calls generalizing raw queue with
  | nil => exact ⟨raw, rfl, hholds⟩
  | cons call calls ih =>
      obtain ⟨middle, hmiddle, hstep⟩ := holds_step hholds call
      obtain ⟨next, hnext, hrun⟩ := ih hstep
      refine ⟨next, ?_, hrun⟩
      rw [List.foldlM_cons, hmiddle]
      exact hnext

theorem taken_ok (calls : List RingCall) :
    ∀ result ∈ (Transition.run queueStep ([], []) calls).2,
      ∃ packet, result = .ok packet := by
  have hstep : ∀ (state : List (List UInt8) × Taken) call,
      (∀ result ∈ state.2, ∃ packet, result = .ok packet) →
      ∀ result ∈ (queueStep state call).2, ∃ packet, result = .ok packet := by
    intro state call hstate
    cases call with
    | recv packet => exact hstate
    | take =>
        simp only [queueStep, List.forall_mem_append]
        exact ⟨hstate, List.forall_mem_singleton.mpr ⟨_, rfl⟩⟩
  have hstart : ∀ result ∈ (([], []) : List (List UInt8) × Taken).2,
      ∃ packet, result = .ok packet := List.forall_mem_nil _
  exact Transition.invariant_run_of_step hstep hstart calls

/-- After any calls on an initialised session the accesses stayed inside the
arrays, the ring holds byte for byte what a queue of the same capacity that forgets
its oldest entry holds, every `chat_ice_take_received` returned the oldest stored
datagram and removed it, and all other slots are clear. -/
theorem recv_ring_refines_queue (calls : List RingCall) :
    let queue := Transition.run queueStep ([], []) calls
    ∃ ring, calls.foldlM ringStep (RecvRing.chatIceSessionInit, []) = some (ring, queue.2) ∧
      ring.recvHead < chatIceRecvQueueCapacity ∧
      ring.recvCount ≤ chatIceRecvQueueCapacity ∧
      ring.stored = queue.1 ∧
      (∀ result ∈ queue.2, ∃ packet, result = .ok packet) ∧
      ∀ index < chatIceRecvQueueCapacity, ¬ ring.InWindow index →
        ring.recvLens[index]? = some 0 ∧
          ring.recvQueue[index]? = some (List.replicate chatIceRecvMax 0) := by
  have hstart : Holds (RecvRing.chatIceSessionInit, []) ([], []) :=
    ⟨rfl, {}, represents_init, received_default⟩
  obtain ⟨⟨ring, taken⟩, hrun, htaken, session, hraw, hqueue⟩ := holds_run hstart calls
  have htaken : taken = (Transition.run queueStep ([], []) calls).2 := htaken
  refine ⟨ring, htaken ▸ hrun, ?_, ?_, hraw.stored_eq.trans hqueue, taken_ok calls,
    fun index hindex houtside => hraw.clear_outside hindex houtside⟩
  · rw [hraw.head]
    exact session.recvQueue.head.isLt
  · rw [hraw.count]
    exact session.recvQueue.count_le

end ProntoChat.Ice
