import ProntoChat.Net.Payloads
import ProntoChat.Net.Port

/-!
# The stream headers of a session

The fields of a session that decide when its stream header is sent and when
the header of the peer is accepted, and what every step of the daemon does to
them.
-/

namespace ProntoChat.Net

open ProntoChat.QuotedText
open ProntoChat.Protocole
open ProntoChat.Crypto
open ProntoChat.Ice
open ProntoChat.Daemon

/-! ## The fields behind the stream headers -/

/-- The packet decodes to the given type. -/
def packetIs (type : ChatPacketType) (packet : List UInt8) : Bool :=
  match chatPacketDecodeHeader packet with
  | .ok header => header.type == type
  | .error _ => false

theorem packetIs_of_decode {packet : List UInt8} {header : ChatPacketHeader}
    (hdecode : chatPacketDecodeHeader packet = .ok header) (type : ChatPacketType) :
    packetIs type packet = (header.type == type) := by
  simp [packetIs, hdecode]

/-- The packet of the own stream header. -/
def headerPacket (session : ChatdSession) : List UInt8 :=
  chatPacket .streamHeader session.cryptoLocalStreamHeader.toList

theorem headerPacket_ne_nil (session : ChatdSession) :
    headerPacket session ≠ [] := chatPacket_ne_nil _ _

theorem length_headerPacket (session : ChatdSession) :
    (headerPacket session).length ≤ chatIceRecvMax := by
  rw [headerPacket, length_chatPacket]
  simp [chatPacketHeaderSize, chatIceRecvMax]

theorem headerPacket_not_handshake (session : ChatdSession) :
    packetIs .handshake (headerPacket session) = false := by
  have hlength : session.cryptoLocalStreamHeader.toList.length ≤
      chatMaxMessageSize := by
    simp [chatMaxMessageSize]
  rw [headerPacket, packetIs_of_decode (decodeHeader_chatPacket _ hlength)]
  rfl

/-- The fields of a session on which the stream headers depend. -/
structure HeaderFlags where
  active : Bool
  agent : Bool
  keysReady : Bool
  sent : Bool
  nextAt : ℕ
  own : Bytes 24
  received : Bool
  ready : Bool
  queue : List (List UInt8)

def flags (session : ChatdSession) : HeaderFlags where
  active := session.iceActive
  agent := session.ice.agent
  keysReady := session.cryptoKeysReady
  sent := session.cryptoStreamHeaderSent
  nextAt := session.cryptoNextStreamHeaderAt
  own := session.cryptoLocalStreamHeader
  received := session.cryptoStreamHeaderReceived
  ready := session.encryptedSessionReady
  queue := session.ice.received

theorem flags_setStream (session : ChatdSession) (cryptoStream : ChatCryptoSecretstream) :
    flags { session with cryptoStream } = flags session := rfl

theorem flags_of_port {state next : ChatdState} (hport : port next = port state) :
    flags next.session = flags state.session :=
  congrArg (fun port => flags port.session) hport

namespace HeaderFlags

/-- A packet that a session accepts before it is ready: the handshake of the
peer, or its stream header, which counts only behind the handshake. -/
def handle (flags : HeaderFlags) (packet : List UInt8) : HeaderFlags :=
  if packetIs .handshake packet then { flags with keysReady := true }
  else { flags with received := flags.received || flags.keysReady }

/-- The oldest packet of the queue is handled. -/
def take (flags : HeaderFlags) : HeaderFlags :=
  match flags.queue with
  | [] => flags
  | packet :: rest =>
      if packet = [] then { flags with queue := rest }
      else ({ flags with queue := rest } : HeaderFlags).handle packet

/-- `service_crypto_session` sends the stream header. -/
def due (flags : HeaderFlags) (now : ℕ) : Bool :=
  flags.keysReady && (!flags.sent || (!flags.ready && decide (flags.nextAt ≤ now)))

/-- The session becomes ready when both directions are open. -/
def establish (flags : HeaderFlags) : HeaderFlags :=
  { flags with
    ready := flags.ready || (flags.keysReady && flags.sent && flags.received) }

/-- Handling a packet only sets two of the flags. -/
theorem take_cases (flags : HeaderFlags) :
    ∃ keysReady received, (flags.keysReady = true → keysReady = true) ∧
      (flags.received = true → received = true) ∧
      flags.take = { flags with keysReady, received, queue := flags.queue.tail } := by
  unfold take handle
  split
  · rename_i hqueue
    refine ⟨_, _, id, id, ?_⟩
    rw [hqueue, List.tail_nil, ← hqueue]
  · rename_i packet rest hqueue
    simp only [hqueue, List.tail_cons]
    split_ifs
    · exact ⟨_, _, id, id, rfl⟩
    · exact ⟨_, _, fun _ => rfl, id, rfl⟩
    · exact ⟨_, _, id, fun h => by simp [h], rfl⟩

theorem due_take {flags : HeaderFlags} {now : ℕ}
    (hdue : flags.due now = true) : flags.take.due now = true := by
  obtain ⟨keysReady, received, hkeys, _, htake⟩ := flags.take_cases
  rw [due, Bool.and_eq_true] at hdue
  rw [htake, due, Bool.and_eq_true]
  exact ⟨hkeys hdue.1, hdue.2⟩

/-- With the keys, the header of the peer is not lost. -/
theorem take_header {flags : HeaderFlags} {session : ChatdSession}
    (hkeys : flags.keysReady = true) (hmem : headerPacket session ∈ flags.queue) :
    flags.take.received = true ∨ headerPacket session ∈ flags.take.queue := by
  obtain ⟨_, _, _, _, htake⟩ := take_cases flags
  have htail : flags.take.queue = flags.queue.tail :=
    congrArg HeaderFlags.queue htake
  rw [htail]
  unfold take
  cases hqueue : flags.queue with
  | nil => simp [hqueue] at hmem
  | cons packet rest =>
      rw [hqueue, List.mem_cons] at hmem
      rcases hmem with rfl | hrest
      · left
        simp [handle, headerPacket_ne_nil, headerPacket_not_handshake, hkeys]
      · exact Or.inr hrest

/-- The part of a queue that one service of a session without keys does not
waste. -/
def spared (flags : HeaderFlags) : List (List UInt8) :=
  if flags.keysReady = true ∨
      flags.queue.head?.any (packetIs .handshake) = true then flags.queue
  else flags.queue.drop 2

theorem take_take_header {flags middle : HeaderFlags} {session : ChatdSession}
    (hmiddle : middle.keysReady = flags.take.keysReady ∧
      middle.received = flags.take.received ∧ middle.queue = flags.take.queue)
    (hmem : headerPacket session ∈ flags.spared) :
    middle.take.received = true ∨ headerPacket session ∈ middle.take.queue := by
  obtain ⟨hkeys, hreceived, hqueue⟩ := hmiddle
  obtain ⟨firstKeys, _, hfirstKeys, _, hfirst⟩ := take_cases flags
  obtain ⟨_, _, _, hsecondReceived, hsecond⟩ := take_cases middle
  have hkept (htaken : flags.take.received = true) : middle.take.received = true := by
    rw [hsecond]
    exact hsecondReceived (hreceived.trans htaken)
  have hsecondMem (hready : flags.take.keysReady = true)
      (hrest : headerPacket session ∈ flags.take.queue) :
      middle.take.received = true ∨ headerPacket session ∈ middle.take.queue :=
    take_header (hkeys.trans hready) (hqueue ▸ hrest)
  unfold spared at hmem
  split_ifs at hmem with hspared
  · rcases hspared with hready | hhandshake
    · rcases take_header hready hmem with htaken | hrest
      · exact Or.inl (hkept htaken)
      · refine hsecondMem ?_ hrest
        rw [hfirst]
        exact hfirstKeys hready
    · -- The first packet is the handshake that makes the keys.
      cases hcons : flags.queue with
      | nil => simp [hcons] at hmem
      | cons packet rest =>
          simp only [hcons, List.head?_cons, Option.any_some] at hhandshake
          have hne : packet ≠ [] := by
            rintro rfl
            simp [packetIs, chatPacketDecodeHeader] at hhandshake
          have hrest : headerPacket session ∈ rest := by
            rw [hcons, List.mem_cons] at hmem
            rcases hmem with rfl | hrest
            · rw [headerPacket_not_handshake] at hhandshake
              exact absurd hhandshake Bool.false_ne_true
            · exact hrest
          have htake : flags.take =
              { flags with keysReady := true, queue := rest } := by
            simp [take, handle, hcons, hne, hhandshake]
          exact hsecondMem (by rw [htake]) (by rw [htake]; exact hrest)
  · right
    rw [hsecond, hqueue, hfirst]
    simpa [← List.drop_one] using hmem

end HeaderFlags

/-! ## Packets -/

variable {sodium : Sodium} {env : Env} {state next : ChatdState}

/-- What any packet can do to the flags: it sets two of them, or the session
ends. -/
structure Touched (state next : ChatdState) : Prop where
  datagrams : next.datagrams = state.datagrams
  flags : next.session.iceActive = false ∨ ∃ keysReady received queue,
    (state.session.cryptoStreamHeaderReceived = true → received = true) ∧
    flags next.session = { flags state.session with keysReady, received, queue }

theorem touched_refl (state : ChatdState) : Touched state state :=
  ⟨rfl, Or.inr ⟨_, _, _, id, rfl⟩⟩

theorem Touched.trans {state next last : ChatdState} (hfirst : Touched state next)
    (hsecond : Touched next last) : Touched state last := by
  refine ⟨hsecond.datagrams.trans hfirst.datagrams, ?_⟩
  rcases hsecond.flags with hended | ⟨keysReady, received, queue, hkept, hflags⟩
  · exact Or.inl hended
  · rcases hfirst.flags with hended | ⟨_, _, _, hkept', hflags'⟩
    · exact Or.inl ((congrArg HeaderFlags.active hflags).trans hended)
    · refine Or.inr ⟨keysReady, received, queue, fun hstate => hkept ?_, ?_⟩
      · exact (congrArg HeaderFlags.received hflags').trans (hkept' hstate)
      · rw [hflags, hflags']

theorem touched_of_ended (hended : Ended (port state) (port next)) :
    Touched state next := by
  refine ⟨?_, Or.inl (ended_inactive hended)⟩
  obtain ⟨_, _, hport⟩ := hended
  exact congrArg Port.datagrams hport

theorem touched_of_port (hport : port next = port state) : Touched state next :=
  ⟨congrArg Port.datagrams hport, Or.inr ⟨_, _, _, id, flags_of_port hport⟩⟩

theorem touched_handleHandshakePacket (payload : List UInt8) :
    Touched state (handleHandshakePacket sodium state payload).1 := by
  unfold handleHandshakePacket finishCryptoHandshake
  split_ifs
  · exact touched_refl state
  · exact touched_refl state
  · split <;> exact ⟨rfl, Or.inr ⟨_, _, _, id, rfl⟩⟩
  · exact touched_refl state

theorem touched_handleStreamHeaderPacket (payload : List UInt8) :
    Touched state (handleStreamHeaderPacket sodium state payload).1 := by
  unfold handleStreamHeaderPacket receiveStreamHeader
  split_ifs
  · exact touched_refl state
  · exact touched_refl state
  · exact touched_refl state
  · split
    · exact touched_refl state
    · exact ⟨rfl, Or.inr ⟨_, _, _, fun _ => rfl, rfl⟩⟩
  · exact touched_refl state

theorem touched_handleChatPacket (type : ChatPacketType) (payload : List UInt8) :
    Touched state (handleChatPacket sodium env state type payload).1 := by
  have hdecrypted (type : ChatPacketType) (plaintext : List UInt8)
      (stream : ChatCryptoSecretstream) :
      Touched state (state.decrypted type plaintext stream) :=
    ⟨rfl, Or.inr ⟨_, _, _, id, flags_setStream state.session stream⟩⟩
  have hwritten (type : ChatPacketType) (plaintext : List UInt8)
      (stream : ChatCryptoSecretstream) : Touched state (writeChatMessageToCli env
        (state.decrypted type plaintext stream) plaintext).1 := by
    refine (hdecrypted type plaintext stream).trans ?_
    unfold writeChatMessageToCli
    split
    · exact touched_refl _
    · split_ifs
      · exact touched_refl _
      · exact touched_of_port (port_writeIpcLine env _ _ _)
  unfold handleChatPacket decryptChatPayload
  split_ifs
  · exact touched_refl state
  · split
    · exact touched_refl state
    · simp only
      split
      · split_ifs
        · exact hdecrypted _ _ _
        · exact hwritten _ _ _
      · split_ifs
        · exact hdecrypted _ _ _
        · refine ⟨?_, Or.inl rfl⟩
          unfold closeChatByPeer
          simp only
          split <;> rfl
      · exact hdecrypted _ _ _

theorem touched_dispatch (packet : List UInt8) :
    Touched state (dispatchIceAppPacket sodium env state packet).1 := by
  unfold dispatchIceAppPacket
  split
  · exact touched_refl state
  · split_ifs
    · exact touched_refl state
    · simp only
      split
      · exact touched_handleHandshakePacket _
      · exact touched_handleStreamHeaderPacket _
      · exact touched_handleChatPacket _ _
      · exact touched_handleChatPacket _ _
      · exact touched_refl state
      · exact touched_refl state

theorem touched_process :
    Touched state (processReceivedIcePacket sodium env state).1 := by
  cases hreceived : state.session.ice.received with
  | nil =>
      rw [process_nil sodium env hreceived]
      exact touched_refl state
  | cons packet packets =>
      obtain ⟨queue, htake, _⟩ := chatIceTakeReceived_cons hreceived
      have htook : Touched state (took state queue) :=
        ⟨rfl, Or.inr ⟨_, _, _, id, rfl⟩⟩
      unfold processReceivedIcePacket
      simp only [chatdIcePacketMax, htake]
      split_ifs
      · exact htook
      · have hdispatch : Touched (took state queue)
            (dispatchIceAppPacket sodium env (took state queue) packet).1 :=
          touched_dispatch packet
        obtain ⟨hdatagrams, hflags⟩ := htook.trans hdispatch
        exact ⟨hdatagrams, hflags⟩

theorem touched_serviceReceiveQueue (count : ℕ) (state : ChatdState) :
    Touched state (serviceReceiveQueue sodium env count state) := by
  induction count generalizing state with
  | zero => exact touched_refl state
  | succ count ih =>
      have hprocess : Touched state (processReceivedIcePacket sodium env state).1 :=
        touched_process
      unfold serviceReceiveQueue
      split <;> rename_i next hnext <;> rw [hnext] at hprocess
      · exact hprocess.trans (ih next)
      · split_ifs
        · exact hprocess.trans (touched_of_ended (ended_failChatSession env next))
        · exact hprocess

theorem flags_handleHandshakePacket {payload : List UInt8}
    (hhandle : handleHandshakePacket sodium state payload = (next, true)) :
    flags next.session = { flags state.session with keysReady := true } := by
  unfold handleHandshakePacket finishCryptoHandshake at hhandle
  split_ifs at hhandle with _ _ hkeys
  · simp at hhandle
  · obtain rfl := congrArg Prod.fst hhandle
    simp [flags, hkeys]
  · split at hhandle
    · simp at hhandle
    · obtain rfl := congrArg Prod.fst hhandle
      rfl
  · simp at hhandle

theorem flags_handleStreamHeaderPacket {payload : List UInt8}
    (hhandle : handleStreamHeaderPacket sodium state payload = (next, true)) :
    flags next.session =
      { flags state.session with
        received := state.session.cryptoStreamHeaderReceived ||
          state.session.cryptoKeysReady } := by
  unfold handleStreamHeaderPacket receiveStreamHeader at hhandle
  split_ifs at hhandle with _ _ hkeys hreceived
  · simp at hhandle
  · obtain rfl := congrArg Prod.fst hhandle
    simp [flags, hkeys]
  · obtain rfl := congrArg Prod.fst hhandle
    simp [flags, hreceived]
  · split at hhandle
    · simp at hhandle
    · obtain rfl := congrArg Prod.fst hhandle
      rw [Bool.not_eq_false] at hkeys
      simp [flags, ChatdState.setSession, hkeys]
  · simp at hhandle

/-- Before the session is ready, a packet that is accepted is a handshake or a
stream header. -/
theorem flags_dispatch {packet : List UInt8}
    (hready : state.session.encryptedSessionReady = false)
    (hdispatch : dispatchIceAppPacket sodium env state packet = (next, true)) :
    flags next.session = (flags state.session).handle packet := by
  have hchat (type : ChatPacketType) (payload : List UInt8) :
      handleChatPacket sodium env state type payload = (state, false) :=
    if_pos (Or.inr (Or.inl hready))
  unfold dispatchIceAppPacket at hdispatch
  cases hdecode : chatPacketDecodeHeader packet with
  | error failure => simp [hdecode] at hdispatch
  | ok header =>
      have htype := packetIs_of_decode hdecode .handshake
      simp only [hdecode, hchat] at hdispatch
      split_ifs at hdispatch
      · simp at hdispatch
      · split at hdispatch
        · rename_i hkind
          rw [flags_handleHandshakePacket hdispatch, HeaderFlags.handle, htype, hkind]
          rfl
        · rename_i hkind
          rw [flags_handleStreamHeaderPacket hdispatch, HeaderFlags.handle, htype,
            hkind]
          rfl
        · simp at hdispatch
        · simp at hdispatch
        · simp at hdispatch
        · simp at hdispatch

theorem flags_process
    (hready : state.session.encryptedSessionReady = false)
    (hprocess : processReceivedIcePacket sodium env state = (next, true)) :
    flags next.session = (flags state.session).take := by
  cases hreceived : state.session.ice.received with
  | nil =>
      rw [process_nil sodium env hreceived] at hprocess
      obtain rfl := congrArg Prod.fst hprocess
      simp only [HeaderFlags.take, flags, hreceived]
  | cons packet packets =>
      obtain ⟨queue, htake, hrest⟩ := chatIceTakeReceived_cons hreceived
      have htook : flags (took state queue).session =
          { flags state.session with queue := packets } := by
        rw [← hrest]
        rfl
      have hqueue : (flags state.session).queue = packet :: packets := hreceived
      unfold processReceivedIcePacket at hprocess
      simp only [chatdIcePacketMax, htake] at hprocess
      simp only [HeaderFlags.take, hqueue]
      split_ifs at hprocess with hempty
      · obtain rfl := congrArg Prod.fst hprocess
        rw [if_pos (List.length_eq_zero_iff.mp hempty)]
        exact htook
      · rw [if_neg (mt List.length_eq_zero_iff.mpr hempty), ← htook]
        unfold handleIceAppPacket at hprocess
        obtain ⟨hnext, hok⟩ := Prod.mk.inj hprocess
        have hdispatch : flags (dispatchIceAppPacket sodium env (took state queue)
            packet).1.session = (flags (took state queue).session).handle packet :=
          flags_dispatch hready (Prod.ext rfl hok)
        rw [← hnext]
        exact hdispatch

/-! ## The service of a session that is not ready -/

theorem sendSessionPacket_ok {type : ChatPacketType} {payload : List UInt8}
    {note : ChatdSession → ChatdSession}
    (hsend : sendSessionPacket env state type payload note = (next, true)) :
    next = (state.sent (chatPacket type payload)).setSession (note state.session) := by
  unfold sendSessionPacket at hsend
  rcases sendIcePacket_cases (Eq.refl (sendIcePacket env state type payload))
    with hcase | hcase | hcase <;> rw [hcase] at hsend
  · simp at hsend
  · simp at hsend
  · exact (congrArg Prod.fst hsend).symm

theorem flags_handshakeStage
    (hstage : handshakeStage sodium env state = (next, true)) :
    flags next.session = flags state.session ∧
      state.datagrams <+: next.datagrams := by
  unfold handshakeStage startCryptoHandshake at hstage
  split_ifs at hstage
  · rcases initCryptoHandshake_cases (Eq.refl (initCryptoHandshake sodium env
      (state.setSessionState .cryptoHandshake))) with
      ⟨_, hinit⟩ | ⟨_, hinit⟩ | ⟨_, _, _, _, _, _, hinit⟩ <;> rw [hinit] at hstage
    · rw [sendSessionPacket_ok hstage]
      exact ⟨rfl, List.prefix_append _ _⟩
    · simp at hstage
    · rw [sendSessionPacket_ok hstage]
      exact ⟨rfl, List.prefix_append _ _⟩
  · obtain rfl := congrArg Prod.fst hstage
    exact ⟨rfl, List.prefix_refl _⟩

/-- The stream header is sent when it is due. -/
theorem flags_headerStage (hstage : headerStage sodium env state = (next, true)) :
    if (flags state.session).due env.now then
      next.datagrams = state.datagrams ++ [headerPacket next.session] ∧
        flags next.session =
          { flags state.session with
            sent := true
            nextAt := env.now + 1
            own := next.session.cryptoLocalStreamHeader }
    else next = state := by
  have hdue : (flags state.session).due env.now =
      streamHeaderDue env state.session := rfl
  unfold headerStage at hstage
  rw [hdue]
  split_ifs at hstage ⊢
  · unfold sendStreamHeader initStreamHeader chatCryptoSecretstreamInitPush at hstage
    split_ifs at hstage
    · rw [sendSessionPacket_ok hstage]
      exact ⟨rfl, rfl⟩
    · cases hheader : env.streamHeader with
      | none => simp [hheader] at hstage
      | some header =>
          simp only [hheader] at hstage
          rw [sendSessionPacket_ok hstage]
          exact ⟨rfl, rfl⟩
  · exact (congrArg Prod.fst hstage).symm

theorem flags_establishSession (env : Env) (state : ChatdState) :
    flags (establishSession env state).session =
        (flags state.session).establish ∧
      (establishSession env state).datagrams = state.datagrams := by
  unfold establishSession
  split_ifs with hopen
  · obtain ⟨hkeys, hsent, hreceived⟩ := hopen
    have hready (session : ChatdSession) (hsession : session =
        { state.session with encryptedSessionReady := true }) :
        flags session = (flags state.session).establish := by
      subst hsession
      simp [flags, HeaderFlags.establish, hkeys, hsent, hreceived]
    simp only
    split
    · exact ⟨hready _ rfl, rfl⟩
    · exact ⟨hready _ rfl, rfl⟩
  · refine ⟨?_, rfl⟩
    have hclosed : (state.session.cryptoKeysReady &&
        state.session.cryptoStreamHeaderSent &&
        state.session.cryptoStreamHeaderReceived) = false := by
      rw [← Bool.not_eq_true]
      simpa [and_assoc] using hopen
    simp only [HeaderFlags.establish, flags, hclosed, Bool.or_false]

/-- What the service of a session does that is not ready: two packets are
handled, and the stream header is sent between them when it is due. -/
structure Serviced (env : Env) (before : HeaderFlags)
    (datagrams : List (List UInt8)) (next : ChatdState) : Prop where
  datagrams : datagrams <+: next.datagrams
  flags : ∃ middle : HeaderFlags,
    flags next.session = middle.take.establish ∧
    if before.take.due env.now then
      (∃ own, middle = { before.take with
        sent := true, nextAt := env.now + 1, own }) ∧
      headerPacket next.session ∈ next.datagrams
    else middle = before.take

namespace Serviced

variable {before : HeaderFlags} {datagrams : List (List UInt8)}

/-- Between the two packets, only the fields of the own header change. -/
theorem middle (hserviced : Serviced env before datagrams next) :
    ∃ sent nextAt own, ∃ middle : HeaderFlags,
      middle = { before.take with sent, nextAt, own } ∧
      Net.flags next.session = middle.take.establish := by
  obtain ⟨_, middle, hflags, hdue⟩ := hserviced
  split_ifs at hdue
  · obtain ⟨⟨own, hmiddle⟩, _⟩ := hdue
    exact ⟨_, _, own, middle, hmiddle, hflags⟩
  · exact ⟨_, _, _, middle, hdue, hflags⟩

theorem kept (hserviced : Serviced env before datagrams next) :
    (Net.flags next.session).active = before.active ∧
      (Net.flags next.session).agent = before.agent ∧
      (before.received = true → (Net.flags next.session).received = true) := by
  obtain ⟨sent, nextAt, own, middle, hmiddle, hflags⟩ := hserviced.middle
  obtain ⟨_, _, _, hfirstReceived, hfirst⟩ := before.take_cases
  obtain ⟨_, _, _, hsecondReceived, hsecond⟩ := middle.take_cases
  rw [hflags, HeaderFlags.establish, hsecond, hmiddle, hfirst]
  refine ⟨rfl, rfl, fun hreceived => hsecondReceived ?_⟩
  rw [hmiddle, hfirst]
  exact hfirstReceived hreceived

/-- A session becomes ready with the header of the peer. -/
theorem received (hserviced : Serviced env before datagrams next)
    (hready : before.ready = false)
    (hnext : (Net.flags next.session).ready = true) :
    (Net.flags next.session).received = true := by
  obtain ⟨sent, nextAt, own, middle, hmiddle, hflags⟩ := hserviced.middle
  obtain ⟨_, _, _, _, hfirst⟩ := before.take_cases
  obtain ⟨_, _, _, _, hsecond⟩ := middle.take_cases
  have hunready : middle.take.ready = false := by
    rw [hsecond, hmiddle, hfirst]
    exact hready
  rw [hflags, HeaderFlags.establish, hunready, Bool.false_or, Bool.and_eq_true]
    at hnext
  rw [hflags]
  exact hnext.2

/-- A header in the spared part of the queue is accepted or stays there. -/
theorem spared (hserviced : Serviced env before datagrams next)
    {session : ChatdSession} (hmem : headerPacket session ∈ before.spared) :
    (Net.flags next.session).received = true ∨
      headerPacket session ∈ (Net.flags next.session).queue := by
  obtain ⟨sent, nextAt, own, middle, hmiddle, hflags⟩ := hserviced.middle
  have hagree : middle.keysReady = before.take.keysReady ∧
      middle.received = before.take.received ∧
      middle.queue = before.take.queue := by
    rw [hmiddle]
    exact ⟨rfl, rfl, rfl⟩
  rw [hflags]
  exact HeaderFlags.take_take_header hagree hmem

/-- A session becomes ready with its header among the datagrams, unless the
header was sent before and is not due. -/
theorem sent (hserviced : Serviced env before datagrams next)
    (hready : before.ready = false)
    (hnext : (Net.flags next.session).ready = true) :
    headerPacket next.session ∈ next.datagrams ∨
      (before.sent = true ∧ before.due env.now = false ∧
        (Net.flags next.session).own = before.own) := by
  obtain ⟨_, middle, hflags, hdue⟩ := hserviced
  split_ifs at hdue with hnow
  · exact Or.inl hdue.2
  · right
    subst hdue
    obtain ⟨_, _, _, _, hfirst⟩ := before.take_cases
    obtain ⟨_, _, _, _, hsecond⟩ := before.take.take_cases
    rw [hflags, HeaderFlags.establish, hsecond, hfirst] at hnext ⊢
    rw [hready, Bool.false_or, Bool.and_eq_true, Bool.and_eq_true] at hnext
    refine ⟨hnext.1.2, ?_, rfl⟩
    rw [← Bool.not_eq_true]
    exact fun hcontra => hnow (HeaderFlags.due_take hcontra)

end Serviced

theorem serviced_handshakeAttempt
    (hready : state.session.encryptedSessionReady = false)
    (hattempt : handshakeAttempt sodium env state = .ok next) :
    Serviced env (flags state.session) state.datagrams next := by
  unfold handshakeAttempt at hattempt
  obtain ⟨shaken, hstage, hattempt⟩ := attempt_bind_success hattempt
  obtain ⟨first, hfirst, hattempt⟩ := attempt_bind_success hattempt
  obtain ⟨sent, hheader, hattempt⟩ := attempt_bind_success hattempt
  obtain ⟨second, hsecond, hattempt⟩ := attempt_bind_success hattempt
  obtain rfl := Except.ok.inj hattempt
  obtain ⟨hshaken, hprefix⟩ := flags_handshakeStage hstage
  have hshakenReady : shaken.session.encryptedSessionReady = false :=
    (congrArg HeaderFlags.ready hshaken).trans hready
  have hfirstFlags := flags_process hshakenReady hfirst
  have hfirstData : first.datagrams = shaken.datagrams := by
    have htouched : Touched shaken
        (processReceivedIcePacket sodium env shaken).1 := touched_process
    rw [hfirst] at htouched
    exact htouched.datagrams
  have hsecondData : second.datagrams = sent.datagrams := by
    have htouched : Touched sent
        (processReceivedIcePacket sodium env sent).1 := touched_process
    rw [hsecond] at htouched
    exact htouched.datagrams
  have hfirstReady : first.session.encryptedSessionReady = false := by
    have hkept := (processReceivedIcePacket_keeps sodium env shaken hshakenReady).2
    rw [hfirst] at hkept
    exact hkept.trans hshakenReady
  have hsentReady : sent.session.encryptedSessionReady = false := by
    have hkept := (headerStage_keeps sodium env first).2
    rw [hheader] at hkept
    exact hkept.trans hfirstReady
  have hsecondFlags := flags_process hsentReady hsecond
  obtain ⟨hestablished, hdatagrams⟩ := flags_establishSession env second
  have hkept : (establishSession env second).datagrams = sent.datagrams :=
    hdatagrams.trans hsecondData
  have hown : headerPacket (establishSession env second).session =
      headerPacket sent.session := by
    obtain ⟨_, _, _, _, htake⟩ := HeaderFlags.take_cases (flags sent.session)
    rw [hsecondFlags, htake] at hestablished
    exact congrArg (fun flags : HeaderFlags =>
      chatPacket .streamHeader flags.own.toList) hestablished
  have hsentStage := flags_headerStage hheader
  rw [hfirstFlags, hshaken] at hsentStage
  rw [hsecondFlags] at hestablished
  refine ⟨?_, flags sent.session, hestablished, ?_⟩
  · rw [hkept]
    refine hprefix.trans (hfirstData ▸ ?_)
    split_ifs at hsentStage
    · rw [hsentStage.1]
      exact List.prefix_append _ _
    · rw [hsentStage]
  · split_ifs at hsentStage ⊢
    · refine ⟨⟨_, hsentStage.2⟩, ?_⟩
      rw [hown, hkept, hsentStage.1]
      simp
    · rw [hsentStage, hfirstFlags, hshaken]

theorem flags_notifyIceConnected (env : Env) (state : ChatdState) :
    flags (notifyIceConnected env state).session = flags state.session ∧
      (notifyIceConnected env state).datagrams = state.datagrams := by
  unfold notifyIceConnected
  split_ifs <;> exact ⟨rfl, rfl⟩

theorem touched_orFail {outcome : Outcome} {rest : ChatdState → ChatdState}
    (houtcome : port outcome.1 = port state)
    (hrest : ∀ next, port next = port state → Touched state (rest next)) :
    Touched state (orFail env outcome rest) := by
  unfold orFail
  split_ifs
  · exact hrest outcome.1 houtcome
  · exact (touched_of_port houtcome).trans
      (touched_of_ended (ended_failChatSession env outcome.1))

/-- The service of a ready session sends nothing. -/
theorem touched_serviceIceSession
    (hready : state.session.encryptedSessionReady = true) :
    Touched state (serviceIceSession sodium env state) := by
  unfold serviceIceSession
  split_ifs with _ hdeadline
  · exact touched_refl state
  · exact absurd (hdeadline.2.symm.trans hready) Bool.false_ne_true
  · refine touched_orFail (port_servicePendingRemoteSdp env state)
      fun described hdescribed => ?_
    have hlocal := (port_serviceLocalSdp sodium env described).trans hdescribed
    refine touched_orFail hlocal fun queued hqueued => ?_
    have htouched : Touched state queued := touched_of_port hqueued
    split_ifs
    · exact htouched.trans (touched_of_ended (ended_failChatSession env queued))
    · obtain ⟨hflags, hdatagrams⟩ := flags_notifyIceConnected env queued
      have hnotified : Touched queued (notifyIceConnected env queued) :=
        ⟨hdatagrams, Or.inr ⟨_, _, _, id, hflags⟩⟩
      have hencrypted : (notifyIceConnected env
          queued).session.encryptedSessionReady = true :=
        (congrArg HeaderFlags.ready (hflags.trans (flags_of_port hqueued))).trans
          hready
      refine (htouched.trans hnotified).trans ?_
      unfold serviceCryptoSession
      rw [if_pos hencrypted]
      split_ifs
      · exact touched_refl _
      · exact touched_serviceReceiveQueue _ _
    · exact htouched.trans (touched_of_ended (ended_failChatSession env queued))
    · exact htouched

/-- The service of a session that is not ready ends it, waits for the
connection, or handles packets. -/
theorem serviced_serviceIceSession
    (hready : state.session.encryptedSessionReady = false)
    (hactive : (serviceIceSession sodium env state).session.iceActive = true) :
    (flags (serviceIceSession sodium env state).session = flags state.session ∧
        (serviceIceSession sodium env state).datagrams = state.datagrams) ∨
      Serviced env (flags state.session) state.datagrams
        (serviceIceSession sodium env state) := by
  rw [serviceIceSession_eq] at hactive ⊢
  cases hattempt : serviceAttempt sodium env state with
  | error failed =>
      rw [hattempt] at hactive
      have hended := ended_inactive (ended_failChatSession env failed)
      exact absurd (hended.symm.trans hactive) Bool.false_ne_true
  | ok next =>
      show (flags next.session = _ ∧ next.datagrams = _) ∨ Serviced env _ _ next
      unfold serviceAttempt at hattempt
      split_ifs at hattempt
      · exact Or.inl (Except.ok.inj hattempt ▸ ⟨rfl, rfl⟩)
      · obtain ⟨described, hremote, hattempt⟩ := attempt_bind_success hattempt
        obtain ⟨queued, hlocal, hattempt⟩ := attempt_bind_success hattempt
        have hport : port queued = port state := by
          have hdescribed := port_servicePendingRemoteSdp env state
          have hqueued := port_serviceLocalSdp sodium env described
          rw [hremote] at hdescribed
          rw [hlocal] at hqueued
          exact hqueued.trans hdescribed
        have hsame : flags queued.session = flags state.session ∧
            queued.datagrams = state.datagrams :=
          ⟨flags_of_port hport, congrArg Port.datagrams hport⟩
        split_ifs at hattempt with hfailed hconnected
        · have hnotified := flags_notifyIceConnected env queued
          rw [hsame.1, hsame.2] at hnotified
          generalize notifyIceConnected env queued = notified
            at hattempt hnotified
          obtain ⟨hflags, hdatagrams⟩ := hnotified
          have hunready : notified.session.encryptedSessionReady = false :=
            (congrArg HeaderFlags.ready hflags).trans hready
          unfold cryptoAttempt at hattempt
          split_ifs at hattempt with _ hcontra
          · exact Or.inl (Except.ok.inj hattempt ▸ ⟨hflags, hdatagrams⟩)
          · exact absurd (hunready.symm.trans hcontra) Bool.false_ne_true
          · have hserviced := serviced_handshakeAttempt hunready hattempt
            rw [hflags, hdatagrams] at hserviced
            exact Or.inr hserviced
        · exact Or.inl (Except.ok.inj hattempt ▸ hsame)

/-! ## The other events -/

/-- Datagrams are only added, and a session that goes on keeps its flags. -/
structure Steady (state next : ChatdState) : Prop where
  datagrams : state.datagrams <+: next.datagrams
  flags : next.session.iceActive = true →
    flags next.session = flags state.session

theorem steady_refl (state : ChatdState) : Steady state state :=
  ⟨List.prefix_refl _, fun _ => rfl⟩

theorem Steady.trans {state next last : ChatdState} (hfirst : Steady state next)
    (hsecond : Steady next last) : Steady state last := by
  refine ⟨hfirst.datagrams.trans hsecond.datagrams, fun hactive => ?_⟩
  have hflags := hsecond.flags hactive
  rw [hflags]
  exact hfirst.flags ((congrArg HeaderFlags.active hflags).symm.trans hactive)

theorem steady_of_kept (hkept : Kept (port state) (port next)) :
    Steady state next := by
  rcases hkept with hport | hended
  · have hdatagrams : next.datagrams = state.datagrams :=
      congrArg Port.datagrams hport
    exact ⟨hdatagrams ▸ List.prefix_refl _, fun _ => flags_of_port hport⟩
  · refine ⟨(touched_of_ended hended).datagrams ▸ List.prefix_refl _, ?_⟩
    intro hactive
    exact absurd ((ended_inactive hended).symm.trans hactive) Bool.false_ne_true

theorem steady_sendIcePacket (type : ChatPacketType) (payload : List UInt8) :
    Steady state (sendIcePacket env state type payload).1 := by
  rcases sendIcePacket_cases (Eq.refl (sendIcePacket env state type payload))
    with hsend | hsend | hsend <;> rw [hsend]
  · exact steady_refl state
  · exact ⟨List.prefix_refl _, fun _ => rfl⟩
  · exact ⟨List.prefix_append _ _, fun _ => rfl⟩

theorem steady_sendEncryptedChatPayload (type : ChatPacketType)
    (plaintext : List UInt8) (final : Bool) :
    Steady state
      (sendEncryptedChatPayload sodium env state type plaintext final).1 := by
  unfold sendEncryptedChatPayload
  split_ifs
  · exact steady_refl state
  · split
    · exact steady_refl state
    · rename_i ciphertext stream _
      have hencrypted : Steady state (state.encrypted type plaintext stream) :=
        ⟨List.prefix_refl _, fun _ => flags_setStream state.session stream⟩
      exact hencrypted.trans (steady_sendIcePacket type ciphertext)

theorem steady_closeChatByClient :
    Steady state (closeChatByClient sodium env state) := by
  have hsent : Steady (state.setSessionState .closing)
      (sendEncryptedChatClose sodium env state).1 :=
    steady_sendEncryptedChatPayload .close [] true
  exact ⟨hsent.datagrams, nofun⟩

theorem steady_serviceCommand (fd : ℕ) (line : Str) :
    Steady state (serviceCommand sodium env state fd line) := by
  have hwritten (next : ChatdState) (message : IpcLine) :
      Steady next (writeIpcLine env next fd message).1 :=
    steady_of_kept (Or.inl (port_writeIpcLine env next fd message))
  unfold serviceCommand sendEncryptedChatMessage
  split_ifs
  · exact hwritten state _
  · have hsend : Steady state (sendEncryptedChatPayload sodium env state .message
        (line.drop sendMessagePrefix.length) false).1 :=
      steady_sendEncryptedChatPayload _ _ _
    split <;> rename_i next hnext <;> rw [hnext] at hsend
    · exact hsend
    · exact hsend.trans (hwritten next _)
  · exact hwritten state _

theorem steady_serviceCommands (lines : List Str) (state : ChatdState) :
    Steady state (serviceCommands sodium env lines state) := by
  induction lines generalizing state with
  | nil => exact steady_refl state
  | cons line lines ih =>
      unfold serviceCommands
      split
      · exact steady_refl state
      · split_ifs
        · exact steady_refl state
        · exact steady_closeChatByClient
        · exact (steady_serviceCommand _ line).trans (ih _)

theorem steady_serviceActiveChatClient (read : ClientRead) :
    Steady state (serviceActiveChatClient sodium env state read) := by
  unfold serviceActiveChatClient
  split_ifs
  · exact steady_refl state
  · split
    · exact steady_refl state
    · exact ⟨List.prefix_refl _, nofun⟩
    · exact steady_closeChatByClient
    · exact steady_serviceCommands _ state

/-- The event neither begins a session nor brings a packet past the
network. -/
def ordinary (event : ChatdEvent) : Bool :=
  match event with
  | .ice (.recv _) => false
  | _ => !startsSession event

/-- Every ordinary event but the service step is steady. -/
theorem steady_step {event : ChatdEvent} (hordinary : ordinary event = true)
    (hservice : event ≠ .serviceIce) :
    Steady state (chatdStep sodium state (env, event)) := by
  cases event with
  | control event =>
      have hstarts : startsSession (.control event) = false := by
        simpa [ordinary] using hordinary
      exact steady_of_kept (kept_control sodium env state hstarts)
  | ipc accepted poll =>
      rcases port_serviceIpc env state accepted poll with hport | ⟨_, hport⟩
      · exact steady_of_kept (Or.inl hport)
      · have hdatagrams : (serviceIpc env state accepted poll).datagrams =
            state.datagrams := congrArg Port.datagrams hport
        refine ⟨?_, fun _ => congrArg (fun port => flags port.session) hport⟩
        exact hdatagrams ▸ List.prefix_refl state.datagrams
  | activeClient read => exact steady_serviceActiveChatClient read
  | ice callback =>
      refine steady_of_kept (Or.inl (port_serviceIceCallback state ?_))
      rintro packet rfl
      exact absurd hordinary Bool.false_ne_true
  | serviceIce => exact absurd rfl hservice
  | reconnect started =>
      exact steady_of_kept (Or.inl (port_serviceReconnect env state started))

end ProntoChat.Net
