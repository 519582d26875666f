import ProntoChat.Common.Handshake
import ProntoChat.Core.Transition
import ProntoChat.Net.Network
import ProntoChat.Net.Payloads
import ProntoChat.Net.Port

/-!
# The packets of one direction

In the course of a session a daemon sends its handshake, its stream header and its
payloads.  A network that keeps the order brings a handshake before the first header
and a header before the first payload, whatever is repeated in between.
-/

namespace ProntoChat.Net

open ProntoChat.Protocole
open ProntoChat.Crypto
open ProntoChat.Ice
open ProntoChat.Daemon
open ProntoChat.OrderedStream

/-! ## Items -/

/-- What a packet of a session carries. -/
inductive Item where
  | handshake
  | header
  | payload (payload : Payload)

/-- How far a receiver has come: it has derived its keys, and it has opened the
stream of the sender. -/
structure Progress where
  keys : Bool
  opened : Bool

namespace Progress

def after (progress : Progress) : Item → Progress
  | .handshake => { progress with keys := true }
  | .header => { progress with opened := true }
  | .payload _ => progress

/-- A header is of use behind a handshake, and a payload behind a header. -/
def Accepts (progress : Progress) : Item → Prop
  | .handshake => True
  | .header => progress.keys = true
  | .payload _ => progress.opened = true

/-- Every item is of use when it comes. -/
def Follow (progress : Progress) (items : List Item) : Prop :=
  Transition.Guarded after Accepts progress items

def behind (progress : Progress) (items : List Item) : Progress :=
  Transition.run after progress items

theorem follow_concat {progress : Progress} {items : List Item} {item : Item}
    (hfollow : progress.Follow items) (haccepts : (progress.behind items).Accepts item) :
    progress.Follow (items ++ [item]) :=
  (Transition.guarded_append _ _ _ _ _).mpr ⟨hfollow, haccepts, trivial⟩

theorem behind_concat (progress : Progress) (items : List Item) (item : Item) :
    progress.behind (items ++ [item]) = (progress.behind items).after item :=
  Transition.run_append _ _ _ _

theorem keys_after {progress : Progress} (item : Item) (hkeys : progress.keys = true) :
    (progress.after item).keys = true := by
  cases item <;> first | rfl | exact hkeys

theorem opened_after {progress : Progress} (item : Item)
    (hopened : progress.opened = true) : (progress.after item).opened = true := by
  cases item <;> first | rfl | exact hopened

end Progress

/-! ## Scripts -/

/-- The fixed part of what a sender sends in one session. -/
structure Script where
  message : Bytes 96
  header : Bytes 24
  key : Bytes 32

namespace Script

/-- The packet of an item, and the stream behind it. -/
def push (sodium : Sodium) (script : Script) (stream : Bytes 52) :
    Item → List UInt8 × Bytes 52
  | .handshake => (chatPacket .handshake script.message.toList, stream)
  | .header => (chatPacket .streamHeader script.header.toList, stream)
  | .payload payload =>
      let next := pushPayload sodium stream payload
      (chatPacket (payloadType payload) next.1, next.2)

/-- The state in which the stream is opened. -/
def start (sodium : Sodium) (script : Script) : Bytes 52 :=
  sodium.secretstreamInitPush script.header script.key

/-- The stream of the sender as the receiver knows it. -/
def heard (sodium : Sodium) (script : Script) (receiver : ChatdSession) : Bytes 52 :=
  if receiver.cryptoStreamHeaderReceived then receiver.cryptoStream.pull
  else script.start sodium

theorem pushed_handshakes (sodium : Sodium) (script : Script) (stream : Bytes 52)
    {items : List Item} (hitems : ∀ item ∈ items, item = .handshake) :
    pushed (script.push sodium) stream items = stream := by
  induction items with
  | nil => rfl
  | cons item items ih =>
      obtain ⟨rfl, hrest⟩ := List.forall_mem_cons.mp hitems
      exact ih hrest

/-- Handshake packets do not depend on the stream. -/
theorem ciphers_handshakes (sodium : Sodium) (script other : Script)
    (stream otherStream : Bytes 52) {items : List Item}
    (hitems : ∀ item ∈ items, item = .handshake)
    (hmessage : items ≠ [] → other.message = script.message) :
    ciphers (other.push sodium) otherStream items =
      ciphers (script.push sodium) stream items := by
  induction items with
  | nil => rfl
  | cons item items ih =>
      obtain ⟨rfl, hrest⟩ := List.forall_mem_cons.mp hitems
      have hsame := hmessage (List.cons_ne_nil _ _)
      simp only [ciphers, push, hsame]
      exact congrArg _ (ih hrest fun _ => hsame)

end Script

/-! ## Flights -/

/-- The payloads that a session with the given peer can show. -/
inductive Shows (peer : Str) : Payload → Prop where
  | message {text : List UInt8} (hpacket : text.length ≤ 4073)
      (hline : text.length + peer.length ≤ 4085) : Shows peer (text, Sodium.tagMessage)
  | close : Shows peer ([], Sodium.tagFinal)

def progressOf (session : ChatdSession) : Progress :=
  ⟨session.cryptoKeysReady, session.cryptoStreamHeaderReceived⟩

/-- The items that are queued at the receiver or among the datagrams of the
sender. -/
structure Flight (sodium : Sodium) (script : Script) (datagrams : List (List UInt8))
    (receiver : ChatdSession) (items : List Item) : Prop where
  packets : receiver.ice.received ++ datagrams =
    ciphers (script.push sodium) (script.heard sodium receiver) items
  follow : (progressOf receiver).Follow items
  shows : ∀ payload, .payload payload ∈ items → Shows receiver.icePeer payload
  /-- A receiver that has not sent its handshake is not sent a header. -/
  early : receiver.cryptoHandshakeSent = false →
    receiver.cryptoStreamHeaderReceived = false ∧ ∀ item ∈ items, item = .handshake

/-- What a sender with a running session has sent of its script. -/
structure Backed (sodium : Sodium) (script : Script) (sender receiver : ChatdSession)
    (items : List Item) : Prop where
  shaken : sender.cryptoHandshakeSent = true →
    ((progressOf receiver).behind items).keys = true
  unshaken : sender.cryptoHandshakeSent = false →
    items = [] ∧ receiver.cryptoKeysReady = false
  opened : sender.cryptoStreamHeaderSent = true →
    ((progressOf receiver).behind items).opened = true ∧
      sender.cryptoStream.push =
        pushed (script.push sodium) (script.heard sodium receiver) items
  unopened : sender.cryptoStreamHeaderSent = false →
    receiver.cryptoStreamHeaderReceived = false ∧ ∀ item ∈ items, item = .handshake

section Flights

variable {sodium : Sodium} {script : Script} {datagrams : List (List UInt8)}
  {sender receiver next : ChatdSession} {item : Item} {items : List Item}

/-- The sender adds a packet. -/
theorem Flight.sends (hflight : Flight sodium script datagrams receiver items)
    (haccepts : ((progressOf receiver).behind items).Accepts item)
    (hshows : ∀ payload, item = .payload payload → Shows receiver.icePeer payload)
    (hearly : receiver.cryptoHandshakeSent = false → item = .handshake) :
    Flight sodium script (datagrams ++ [(script.push sodium (pushed (script.push sodium)
      (script.heard sodium receiver) items) item).1]) receiver (items ++ [item]) where
  packets := by
    rw [← List.append_assoc, hflight.packets, ciphers_concat]
  follow := Progress.follow_concat hflight.follow haccepts
  shows payload hmem := by
    rcases List.mem_append.mp hmem with hold | hnew
    · exact hflight.shows payload hold
    · exact hshows payload (List.mem_singleton.mp hnew).symm
  early hunsent := by
    obtain ⟨hclosed, hall⟩ := hflight.early hunsent
    exact ⟨hclosed, List.forall_mem_append.mpr
      ⟨hall, List.forall_mem_singleton.mpr (hearly hunsent)⟩⟩

/-- The oldest packet of the receiver is the oldest item. -/
theorem Flight.oldest (hflight : Flight sodium script datagrams receiver items)
    {packet : List UInt8} {packets : List (List UInt8)}
    (hreceived : receiver.ice.received = packet :: packets) :
    ∃ item rest, items = item :: rest ∧
      packet = (script.push sodium (script.heard sodium receiver) item).1 := by
  have hpackets := hflight.packets
  rw [hreceived] at hpackets
  cases items with
  | nil => exact nomatch hpackets
  | cons item rest => exact ⟨item, rest, rfl, (List.cons.inj hpackets).1⟩

/-- The receiver behind the oldest item. -/
structure Handled (sodium : Sodium) (script : Script) (item : Item)
    (receiver next : ChatdSession) : Prop where
  queue : next.ice.received = receiver.ice.received.tail
  progress : progressOf next = (progressOf receiver).after item
  heard : script.heard sodium next =
    (script.push sodium (script.heard sodium receiver) item).2
  peer : next.icePeer = receiver.icePeer
  sent : next.cryptoHandshakeSent = true

theorem Flight.handled (hflight : Flight sodium script datagrams receiver (item :: items))
    (hhandled : Handled sodium script item receiver next)
    (hreceived : receiver.ice.received ≠ []) :
    Flight sodium script datagrams next items where
  packets := by
    have hpackets := congrArg List.tail hflight.packets
    rw [List.tail_append_of_ne_nil hreceived] at hpackets
    rw [hhandled.queue, hhandled.heard]
    exact hpackets
  follow := by
    rw [hhandled.progress]
    exact hflight.follow.2
  shows payload hmem := by
    rw [hhandled.peer]
    exact hflight.shows payload (List.mem_cons_of_mem _ hmem)
  early hunsent := absurd (hunsent.symm.trans hhandled.sent) Bool.false_ne_true

theorem Backed.handled (hbacked : Backed sodium script sender receiver (item :: items))
    (hhandled : Handled sodium script item receiver next) :
    Backed sodium script sender next items where
  shaken hsent := by
    rw [hhandled.progress]
    exact hbacked.shaken hsent
  unshaken hunsent := nomatch (hbacked.unshaken hunsent).1
  opened hsent := by
    rw [hhandled.progress, hhandled.heard]
    exact hbacked.opened hsent
  unopened hunsent := by
    obtain ⟨hclosed, hall⟩ := hbacked.unopened hunsent
    obtain ⟨rfl, hrest⟩ := List.forall_mem_cons.mp hall
    exact ⟨(congrArg Progress.opened hhandled.progress).trans hclosed, hrest⟩

/-- A step in which the receiver read nothing. -/
structure Unread (receiver next : ChatdSession) : Prop where
  queue : next.ice.received = receiver.ice.received
  progress : progressOf next = progressOf receiver
  pull : next.cryptoStream.pull = receiver.cryptoStream.pull
  peer : next.icePeer = receiver.icePeer
  sent : receiver.cryptoHandshakeSent = true → next.cryptoHandshakeSent = true

theorem Unread.heard (hunread : Unread receiver next) (sodium : Sodium) (script : Script) :
    script.heard sodium next = script.heard sodium receiver := by
  have hopened : next.cryptoStreamHeaderReceived = receiver.cryptoStreamHeaderReceived :=
    congrArg Progress.opened hunread.progress
  rw [Script.heard, Script.heard, hopened, hunread.pull]

theorem Flight.unread (hflight : Flight sodium script datagrams receiver items)
    (hunread : Unread receiver next) : Flight sodium script datagrams next items where
  packets := by
    rw [hunread.queue, hunread.heard]
    exact hflight.packets
  follow := by
    rw [hunread.progress]
    exact hflight.follow
  shows := by
    rw [hunread.peer]
    exact hflight.shows
  early hunsent := by
    have hopened : next.cryptoStreamHeaderReceived =
        receiver.cryptoStreamHeaderReceived := congrArg Progress.opened hunread.progress
    rw [hopened]
    refine hflight.early (Bool.eq_false_iff.mpr fun hsent => ?_)
    exact absurd (hunsent.symm.trans (hunread.sent hsent)) Bool.false_ne_true

theorem Backed.unread (hbacked : Backed sodium script sender receiver items)
    (hunread : Unread receiver next) : Backed sodium script sender next items := by
  have hkeys : next.cryptoKeysReady = receiver.cryptoKeysReady :=
    congrArg Progress.keys hunread.progress
  have hopened : next.cryptoStreamHeaderReceived = receiver.cryptoStreamHeaderReceived :=
    congrArg Progress.opened hunread.progress
  obtain ⟨hshaken, hunshaken, hsent, hunsent⟩ := hbacked
  rw [← hunread.progress] at hshaken
  rw [← hkeys] at hunshaken
  rw [← hunread.progress, ← hunread.heard] at hsent
  rw [← hopened] at hunsent
  exact ⟨hshaken, hunshaken, hsent, hunsent⟩

/-! ## What the sender adds -/

theorem Backed.handshake (hbacked : Backed sodium script sender receiver items)
    (hsent : next.cryptoHandshakeSent = true)
    (hheader : next.cryptoStreamHeaderSent = sender.cryptoStreamHeaderSent)
    (hpush : next.cryptoStream.push = sender.cryptoStream.push) :
    Backed sodium script next receiver (items ++ [.handshake]) where
  shaken _ := by
    rw [Progress.behind_concat]
    rfl
  unshaken hunsent := absurd (hunsent.symm.trans hsent) Bool.false_ne_true
  opened hopened := by
    obtain ⟨hbehind, hstream⟩ := hbacked.opened (hheader.symm.trans hopened)
    rw [Progress.behind_concat, pushed_concat, hpush, hstream]
    exact ⟨Progress.opened_after .handshake hbehind, rfl⟩
  unopened hunopened := by
    obtain ⟨hclosed, hall⟩ := hbacked.unopened (hheader.symm.trans hunopened)
    exact ⟨hclosed, List.forall_mem_append.mpr
      ⟨hall, List.forall_mem_singleton.mpr rfl⟩⟩

theorem Backed.header (hbacked : Backed sodium script sender receiver items)
    (hsent : sender.cryptoHandshakeSent = true)
    (hnext : next.cryptoHandshakeSent = true)
    (hopened : next.cryptoStreamHeaderSent = true)
    (hpush : next.cryptoStream.push =
      pushed (script.push sodium) (script.heard sodium receiver) items) :
    Backed sodium script next receiver (items ++ [.header]) where
  shaken _ := by
    rw [Progress.behind_concat]
    exact Progress.keys_after .header (hbacked.shaken hsent)
  unshaken hunsent := absurd (hunsent.symm.trans hnext) Bool.false_ne_true
  opened _ := by
    rw [Progress.behind_concat, pushed_concat, hpush]
    exact ⟨rfl, rfl⟩
  unopened hunopened := absurd (hunopened.symm.trans hopened) Bool.false_ne_true

theorem Backed.payload (hbacked : Backed sodium script sender receiver items)
    {payload : Payload} (hsent : sender.cryptoHandshakeSent = true)
    (hopened : sender.cryptoStreamHeaderSent = true)
    (hnext : next.cryptoHandshakeSent = true ∧ next.cryptoStreamHeaderSent = true)
    (hpush : next.cryptoStream.push =
      (pushPayload sodium sender.cryptoStream.push payload).2) :
    Backed sodium script next receiver (items ++ [.payload payload]) where
  shaken _ := by
    rw [Progress.behind_concat]
    exact hbacked.shaken hsent
  unshaken hunsent := absurd (hunsent.symm.trans hnext.1) Bool.false_ne_true
  opened _ := by
    obtain ⟨hbehind, hstream⟩ := hbacked.opened hopened
    rw [Progress.behind_concat, pushed_concat, hpush, hstream]
    exact ⟨hbehind, rfl⟩
  unopened hunopened := absurd (hunopened.symm.trans hnext.2) Bool.false_ne_true

/-! ## Arrivals -/

/-- Every packet fits a slot of the ring. -/
theorem Shows.length_le (hstream : sodium.StreamCorrect) {peer : Str} {payload : Payload}
    (hshows : Shows peer payload) (stream : Bytes 52) :
    (chatPacket (payloadType payload) (pushPayload sodium stream payload).1).length ≤
      chatIceRecvMax := by
  have hsize : (pushPayload sodium stream payload).1.length =
      payload.1.length + Sodium.streamABytes := hstream.length_push _ _ _
  have hheader : chatPacketHeaderSize = 6 := rfl
  have hbytes : Sodium.streamABytes = 17 := rfl
  have hslot : chatIceRecvMax = 4096 := rfl
  rw [length_chatPacket, hsize]
  cases hshows with
  | message hpacket _ =>
      dsimp only
      omega
  | close =>
      simp only [List.length_nil]
      omega

theorem length_ciphers_le (hstream : sodium.StreamCorrect) {peer : Str} {items : List Item}
    (hshows : ∀ payload, .payload payload ∈ items → Shows peer payload)
    (stream : Bytes 52) :
    ∀ packet ∈ ciphers (script.push sodium) stream items,
      packet.length ≤ chatIceRecvMax := by
  induction items generalizing stream with
  | nil => exact List.forall_mem_nil _
  | cons item items ih =>
      have hrest := ih (fun payload hmem => hshows payload (List.mem_cons_of_mem _ hmem))
      refine List.forall_mem_cons.mpr ⟨?_, hrest _⟩
      cases item with
      | handshake => simp [Script.push, length_chatPacket, chatPacketHeaderSize, chatIceRecvMax]
      | header => simp [Script.push, length_chatPacket, chatPacketHeaderSize, chatIceRecvMax]
      | payload payload => exact (hshows payload List.mem_cons_self).length_le hstream stream

/-- A packet arrives while the ring has room. -/
theorem Flight.arrives (hstream : sodium.StreamCorrect) {packet : List UInt8}
    {state : ChatdState}
    (hflight : Flight sodium script (packet :: datagrams) state.session items)
    (hagent : state.session.ice.agent = true)
    (hroom : state.session.ice.received.length < chatIceRecvQueueCapacity) :
    ∃ queue : RecvQueue, serviceIceCallback state (.recv packet) = took state queue ∧
      Flight sodium script datagrams (took state queue).session items := by
  have hfits : packet.length ≤ chatIceRecvMax := by
    apply length_ciphers_le hstream hflight.shows (script.heard sodium state.session)
    rw [← hflight.packets]
    simp
  have hreceived := received_onRecv_of_lt hfits hroom
  refine ⟨_, arrive_took hagent hfits, ?_, hflight.follow, hflight.shows, hflight.early⟩
  show (onRecv state.session.ice packet).received ++ datagrams =
    ciphers (script.push sodium) (script.heard sodium state.session) items
  rw [hreceived, ← hflight.packets, List.append_assoc, List.singleton_append]

end Flights

/-! ## One direction -/

/-- What is on its way from one daemon to another.  A sender whose session has
ended only leaves its datagrams behind. -/
def Inbound (sodium : Sodium) (script : Script) (sender receiver : Port) : Prop :=
  ∃ items, Flight sodium script sender.datagrams receiver.session items ∧
    (sender.session.iceActive = true →
      Backed sodium script sender.session receiver.session items)

section Inbound

variable {sodium : Sodium} {script other : Script} {sender receiver next : Port}
  {item : Item}

/-- The session of the sender ends. -/
theorem Inbound.ended (hinbound : Inbound sodium script sender receiver)
    (hdatagrams : next.datagrams = sender.datagrams)
    (hended : next.session.iceActive = false) : Inbound sodium script next receiver := by
  obtain ⟨items, hflight, _⟩ := hinbound
  refine ⟨items, hdatagrams ▸ hflight, fun hactive => ?_⟩
  exact absurd (hended.symm.trans hactive) Bool.false_ne_true

theorem Inbound.unread (hinbound : Inbound sodium script sender receiver)
    (hunread : Unread receiver.session next.session) :
    Inbound sodium script sender next := by
  obtain ⟨items, hflight, hsent⟩ := hinbound
  exact ⟨items, hflight.unread hunread, fun hactive => (hsent hactive).unread hunread⟩

/-- A step in which the sender sent nothing. -/
structure Unsent (sender next : Port) : Prop where
  datagrams : next.datagrams = sender.datagrams
  active : next.session.iceActive = sender.session.iceActive
  shaken : next.session.cryptoHandshakeSent = sender.session.cryptoHandshakeSent
  opened : next.session.cryptoStreamHeaderSent = sender.session.cryptoStreamHeaderSent
  push : next.session.cryptoStream.push = sender.session.cryptoStream.push

theorem Inbound.unsent (hinbound : Inbound sodium script sender receiver)
    (hunsent : Unsent sender next) : Inbound sodium script next receiver := by
  obtain ⟨items, hflight, hsent⟩ := hinbound
  refine ⟨items, hunsent.datagrams ▸ hflight, fun hactive => ?_⟩
  obtain ⟨hshaken, hunshaken, hopened, hunopened⟩ :=
    hsent (hunsent.active.symm.trans hactive)
  rw [← hunsent.shaken] at hshaken hunshaken
  rw [← hunsent.opened] at hopened hunopened
  rw [← hunsent.push] at hopened
  exact ⟨hshaken, hunshaken, hopened, hunopened⟩

theorem Inbound.sends (hinbound : Inbound sodium script sender receiver)
    (hactive : sender.session.iceActive = true)
    (hshows : ∀ payload, item = .payload payload → Shows receiver.session.icePeer payload)
    (hearly : receiver.session.cryptoHandshakeSent = false → item = .handshake)
    (hbacked : ∀ items, Backed sodium script sender.session receiver.session items →
      ((progressOf receiver.session).behind items).Accepts item ∧
        next.datagrams = sender.datagrams ++ [(script.push sodium
          (pushed (script.push sodium) (script.heard sodium receiver.session) items)
          item).1] ∧
        Backed sodium script next.session receiver.session (items ++ [item])) :
    Inbound sodium script next receiver := by
  obtain ⟨items, hflight, hsent⟩ := hinbound
  obtain ⟨haccepts, hdatagrams, hnext⟩ := hbacked items (hsent hactive)
  refine ⟨items ++ [item], ?_, fun _ => hnext⟩
  rw [hdatagrams]
  exact hflight.sends haccepts hshows hearly

/-- As long as only handshakes were sent, the rest of the script is open. -/
theorem Inbound.rescript (hinbound : Inbound sodium script sender receiver)
    (hopen : ∀ items, Flight sodium script sender.datagrams receiver.session items →
      (sender.session.iceActive = true →
        Backed sodium script sender.session receiver.session items) →
      other = script ∨
        ((∀ item ∈ items, item = .handshake) ∧
          (items ≠ [] → other.message = script.message) ∧
          (sender.session.iceActive = true →
            sender.session.cryptoStreamHeaderSent = false))) :
    Inbound sodium other sender receiver := by
  obtain ⟨items, hflight, hsent⟩ := hinbound
  rcases hopen items hflight hsent with rfl | ⟨hall, hmessage, hunopened⟩
  · exact ⟨items, hflight, hsent⟩
  · have hsame := Script.ciphers_handshakes sodium script other
      (script.heard sodium receiver.session) (other.heard sodium receiver.session) hall
      hmessage
    refine ⟨items, { hflight with packets := hflight.packets.trans hsame.symm }, ?_⟩
    intro hactive
    exact { hsent hactive with
      opened := fun hopened =>
        absurd ((hunopened hactive).symm.trans hopened) Bool.false_ne_true }

end Inbound

end ProntoChat.Net
