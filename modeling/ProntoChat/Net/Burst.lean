import ProntoChat.Client.Chat
import ProntoChat.Net.Network
import ProntoChat.Net.Payloads

/-!
# Bursts of texts

Two daemons have a secure session, a client of the first sends texts, and the
network carries every packet once and in order.  Between two services the
receiver keeps at most eight packets, and the oldest gives way to the ninth.
While no packet finds the ring full, the texts are written as they were sent.
-/

namespace ProntoChat.Net

open ProntoChat.QuotedText
open ProntoChat.Protocole
open ProntoChat.Json
open ProntoChat.Contacts
open ProntoChat.Crypto
open ProntoChat.Ice
open ProntoChat.Daemon
open ProntoChat.OrderedStream

/-! ## Commands of the client -/

def sendCommand (text : Str) : Str := sendMessagePrefix ++ text ++ [newline]

def sendCommands (texts : List Str) : Str := texts.flatMap sendCommand

/-- A text that fits a packet and, with the name of the sender, a line. -/
structure Carries (peer text : Str) : Prop where
  valid : chatTextIsValid text = true
  packet : text.length ≤ 4073
  line : text.length + peer.length ≤ 4085

theorem commandLinesFrom_line {line : Str} (rest : Str)
    (hunbroken : ∀ byte ∈ line, isLineBreak byte = false) (start : Str)
    (hnonempty : start ++ line ≠ []) :
    commandLinesFrom start (line ++ newline :: rest) =
      (start ++ line) :: commandLinesFrom [] rest := by
  induction line generalizing start with
  | nil =>
      rw [List.append_nil] at hnonempty
      have hbreak : isLineBreak newline = true := by decide
      simp only [List.nil_append, List.append_nil, commandLinesFrom, hbreak,
        if_true, hnonempty, if_false]
  | cons byte line ih =>
      obtain ⟨hbyte, hline⟩ := List.forall_mem_cons.mp hunbroken
      have hnext := ih hline (start ++ [byte]) (by simp)
      simp only [List.cons_append, commandLinesFrom, hbyte, Bool.false_eq_true,
        if_false, hnext, List.append_assoc, List.nil_append]

theorem sendLine_unbroken {text : Str} (hvalid : chatTextIsValid text = true) :
    ∀ byte ∈ sendMessagePrefix ++ text, isLineBreak byte = false := by
  have hbytes := ((chatTextIsValid_iff text).mp hvalid).2.2
  refine List.forall_mem_append.mpr ⟨by decide +kernel, ?_⟩
  intro byte hbyte
  obtain ⟨_, hreturn, hfeed⟩ := hbytes byte hbyte
  simp [isLineBreak, hreturn, hfeed]

/-- The commands are read back line by line. -/
theorem commandLines_sendCommands {texts : List Str}
    (hvalid : ∀ text ∈ texts, chatTextIsValid text = true) :
    commandLines (sendCommands texts) = texts.map (sendMessagePrefix ++ ·) := by
  unfold commandLines
  induction texts with
  | nil => rfl
  | cons text texts ih =>
      obtain ⟨htext, htexts⟩ := List.forall_mem_cons.mp hvalid
      have hshape : sendCommands (text :: texts) =
          (sendMessagePrefix ++ text) ++ newline :: sendCommands texts := by
        simp [sendCommands, sendCommand]
      have hword : sendMessagePrefix ≠ [] := by decide +kernel
      rw [hshape, commandLinesFrom_line _ (sendLine_unbroken htext) []
        (by simp [hword]), ih htexts]
      rfl

theorem sendCommands_ne_zero {texts : List Str}
    (hvalid : ∀ text ∈ texts, chatTextIsValid text = true) :
    ∀ byte ∈ sendCommands texts, byte ≠ 0 := by
  intro byte hbyte
  obtain ⟨text, htext, hmem⟩ := List.mem_flatMap.mp hbyte
  have hbytes := ((chatTextIsValid_iff text).mp (hvalid text htext)).2.2
  have hword : ∀ byte ∈ sendMessagePrefix, byte ≠ 0 := by decide +kernel
  rw [sendCommand, List.mem_append, List.mem_append, List.mem_singleton] at hmem
  rcases hmem with (hmem | hmem) | rfl
  · exact hword byte hmem
  · exact (hbytes byte hmem).1
  · decide

/-! ## The sender -/

/-- A secure session with an attached client. -/
structure Talking (state : ChatdState) : Prop where
  client : state.lookupClientFd ≠ none
  active : state.session.iceActive = true
  ready : state.session.ice.ready = true
  agent : state.session.ice.agent = true
  encrypted : state.session.encryptedSessionReady = true
  secure : state.sessionState = .secure
  push : state.session.cryptoStream.pushInitialized = true

theorem Talking.canSend {env : Env} {state : ChatdState} (htalking : Talking state)
    (htaken : ∀ count, env.iceSend count = true) : CanSend env state where
  ready := htalking.ready
  agent := htalking.agent
  taken := htaken
  encrypted := htalking.encrypted
  secure := Or.inl htalking.secure
  push := htalking.push

theorem Talking.sent {state : ChatdState} (htalking : Talking state)
    (packet : List UInt8) : Talking (state.sent packet) :=
  ⟨htalking.client, htalking.active, htalking.ready, htalking.agent,
    htalking.encrypted, htalking.secure, htalking.push⟩

theorem Talking.push_text {sodium : Sodium} {state : ChatdState}
    (htalking : Talking state) (text : Str) :
    Talking (state.encrypted .message text
      (advancedStream sodium state text false)) :=
  ⟨htalking.client, htalking.active, htalking.ready, htalking.agent,
    htalking.encrypted, htalking.secure, htalking.push⟩

/-- The payload of a text. -/
def textPayload (text : Str) : Payload := (text, Sodium.tagMessage)

/-- A daemon has sent texts and nothing else. -/
structure SentTexts (sodium : Sodium) (texts : List Str)
    (state next : ChatdState) : Prop where
  talking : Talking next
  datagrams : next.datagrams = state.datagrams ++
    payloadPackets sodium state.session.cryptoStream.push (texts.map textPayload)
  push : next.session.cryptoStream.push = pushed (pushPayload sodium)
    state.session.cryptoStream.push (texts.map textPayload)

variable {sodium : Sodium} {env : Env} {state : ChatdState} {peer : Str}

theorem sentTexts_serviceCommand (hstream : sodium.StreamCorrect)
    (htaken : ∀ count, env.iceSend count = true) (htalking : Talking state)
    (fd : ℕ) {text : Str} (hcarries : Carries peer text) :
    SentTexts sodium [text] state
      (serviceCommand sodium env state fd (sendMessagePrefix ++ text)) := by
  have hsend := sendEncryptedChatMessage_eq hstream (htalking.canSend htaken)
    hcarries.valid
  have hsize : chatPacketHeaderSize + (text.length + Sodium.streamABytes) ≤
      chatdIcePacketMax := by
    have hshort := hcarries.packet
    have hheader : chatPacketHeaderSize = 6 := rfl
    have hbytes : Sodium.streamABytes = 17 := rfl
    have hpacket : chatdIcePacketMax = 4096 := rfl
    omega
  have hword : sendMessagePrefix.isPrefixOf (sendMessagePrefix ++ text) = true :=
    List.isPrefixOf_iff_prefix.mpr (List.prefix_append _ _)
  simp only [hsize, if_true] at hsend
  unfold serviceCommand
  rw [if_pos hword, List.drop_left, hsend]
  exact ⟨(htalking.push_text text).sent _, rfl, rfl⟩

theorem SentTexts.trans {next last : ChatdState} {first second : List Str}
    (hfirst : SentTexts sodium first state next)
    (hsecond : SentTexts sodium second next last) :
    SentTexts sodium (first ++ second) state last where
  talking := hsecond.talking
  datagrams := by
    rw [hsecond.datagrams, hfirst.datagrams, hfirst.push, List.map_append,
      payloadPackets_append, List.append_assoc]
  push := by
    rw [hsecond.push, hfirst.push, List.map_append, pushed, pushed, pushed,
      List.foldl_append]

theorem sentTexts_serviceCommands (hstream : sodium.StreamCorrect)
    (htaken : ∀ count, env.iceSend count = true) (htalking : Talking state)
    {texts : List Str} (hcarries : ∀ text ∈ texts, Carries peer text) :
    SentTexts sodium texts state
      (serviceCommands sodium env (texts.map (sendMessagePrefix ++ ·)) state) := by
  induction texts generalizing state with
  | nil => exact ⟨htalking, by simp [serviceCommands, payloadPackets], rfl⟩
  | cons text texts ih =>
      obtain ⟨htext, htexts⟩ := List.forall_mem_cons.mp hcarries
      obtain ⟨fd, hclient⟩ := Option.ne_none_iff_exists'.mp htalking.client
      have hfirst := sentTexts_serviceCommand hstream htaken htalking fd htext
      have hclose : sendMessagePrefix ++ text ≠ bytes "CLOSE_CHAT" := by
        intro hline
        have hhead := congrArg List.head? hline
        have hword : (bytes "CLOSE_CHAT").head? ≠ sendMessagePrefix.head? := by
          decide +kernel
        rw [List.head?_append_of_ne_nil _ (by decide +kernel)] at hhead
        exact hword hhead.symm
      simp only [List.map_cons, serviceCommands, hclient, htalking.active,
        Bool.true_eq_false, if_false, hclose]
      exact hfirst.trans (ih hfirst.talking htexts)

/-- One read of the client sends its texts. -/
theorem sentTexts_activeClient (hstream : sodium.StreamCorrect)
    (htaken : ∀ count, env.iceSend count = true) (htalking : Talking state)
    {texts : List Str} (hcarries : ∀ text ∈ texts, Carries peer text)
    (hnonempty : texts ≠ [])
    (hbuffer : (sendCommands texts).length ≤ chatIpcMaxCommand - 1) :
    SentTexts sodium texts state
      (serviceActiveChatClient sodium env state (.data (sendCommands texts))) := by
  have hvalid : ∀ text ∈ texts, chatTextIsValid text = true :=
    fun text htext => (hcarries text htext).valid
  have hinput : ∃ byte rest, sendCommands texts = byte :: rest := by
    cases texts with
    | nil => exact absurd rfl hnonempty
    | cons text texts => exact ⟨_, _, rfl⟩
  obtain ⟨byte, rest, hshape⟩ := hinput
  have hread : serviceActiveChatClient sodium env state
      (.data (sendCommands texts)) =
      serviceCommands sodium env (commandLines
        (cString ((sendCommands texts).take (chatIpcMaxCommand - 1)))) state := by
    unfold serviceActiveChatClient
    rw [if_neg (by simp [htalking.client, htalking.encrypted]), hshape]
  rw [hread, List.take_of_length_le hbuffer,
    cString_of_ne_zero (sendCommands_ne_zero hvalid),
    commandLines_sendCommands hvalid]
  exact sentTexts_serviceCommands hstream htaken htalking hcarries

/-! ## The receiver -/

/-- A secure session behind its negotiation, with an attached client. -/
structure Hearing (fd : ℕ) (peer : Str) (state : ChatdState) : Prop
    extends Listening state where
  client : state.lookupClientFd = some fd
  peer : state.session.icePeer = peer
  active : state.session.iceActive = true
  agent : state.session.ice.agent = true
  ready : state.session.ice.ready = true
  running : state.session.ice.failed = false
  notified : state.session.iceCliNotified = true
  described : state.session.iceLocalSdpSent = true
  applied : state.session.hasPendingRemoteIceSdp = false

/-- The texts that were written to the client. -/
def writtenTexts (log : List Effect) : List Str :=
  log.filterMap fun effect =>
    match effect with
    | .ipcLine _ _ (.message _ text) true => some text
    | _ => none

/-- The texts in front of the remaining ones were written. -/
def Wrote (log next : List Effect) (waiting rest : List Str) : Prop :=
  ∃ written, writtenTexts next = writtenTexts log ++ written ∧
    waiting = written ++ rest

theorem wrote_refl (log : List Effect) (waiting : List Str) :
    Wrote log log waiting waiting :=
  ⟨[], (List.append_nil _).symm, rfl⟩

theorem Wrote.trans {log next last : List Effect} {waiting rest left : List Str}
    (hfirst : Wrote log next waiting rest) (hsecond : Wrote next last rest left) :
    Wrote log last waiting left := by
  obtain ⟨first, hnext, rfl⟩ := hfirst
  obtain ⟨second, hlast, rfl⟩ := hsecond
  exact ⟨first ++ second, by rw [hlast, hnext, List.append_assoc],
    (List.append_assoc _ _ _).symm⟩

theorem Wrote.append {log next : List Effect} {waiting rest : List Str}
    (hwrote : Wrote log next waiting rest) (texts : List Str) :
    Wrote log next (waiting ++ texts) (rest ++ texts) := by
  obtain ⟨written, hnext, rfl⟩ := hwrote
  exact ⟨written, hnext, List.append_assoc _ _ _⟩

/-- The receiver and the packets that are still in flight carry the waiting
texts of a sender with the given stream. -/
structure Heard (sodium : Sodium) (fd : ℕ) (peer : Str) (push : Bytes 52)
    (flight : List (List UInt8)) (state : ChatdState) (waiting : List Str) :
    Prop where
  hearing : Hearing fd peer state
  queued : state.session.ice.received ++ flight =
    payloadPackets sodium state.session.cryptoStream.pull
      (waiting.map textPayload)
  push : push = pushed (pushPayload sodium) state.session.cryptoStream.pull
    (waiting.map textPayload)
  carries : ∀ text ∈ waiting, Carries peer text

/-- For a session behind its negotiation the service is the loop over the
queue. -/
theorem Hearing.service {fd : ℕ} (hhearing : Hearing fd peer state) :
    serviceIceSession sodium env state =
      serviceReceiveQueue sodium env chatIceRecvQueueCapacity state := by
  have hremote : servicePendingRemoteSdp env state = (state, true) := by
    unfold servicePendingRemoteSdp
    rw [if_neg (by simp [hhearing.applied])]
  have hlocal : serviceLocalSdp sodium env state = (state, true) := by
    unfold serviceLocalSdp
    rw [if_neg (by simp [hhearing.described])]
  have hnotify : notifyIceConnected env state = state := by
    unfold notifyIceConnected
    rw [if_pos hhearing.notified]
  unfold serviceIceSession
  rw [if_neg (by simp [hhearing.active]), if_neg (by simp [hhearing.encrypted]),
    hremote, orFail, if_pos rfl, hlocal, orFail, if_pos rfl,
    if_neg (by simp [hhearing.running]), if_pos hhearing.ready, hnotify]
  unfold serviceCryptoSession
  rw [if_neg (by simp [hhearing.ready]), if_pos hhearing.encrypted]

/-- The receiver behind the next text. -/
def heardNext (sodium : Sodium) (fd : ℕ) (state : ChatdState) (text : Str) :
    ChatdState :=
  ((decryptedNext sodium state (textPayload text)).emit
    (.ipcLine fd (some state.openedPeer) (.message state.session.icePeer text)
      true)).emit (.packetHandled true)

theorem handle_text (hstream : sodium.StreamCorrect)
    (hwrite : ∀ count, env.ipcWrite count = true) {fd : ℕ}
    (hhearing : Hearing fd peer state) {text : Str} (hcarries : Carries peer text) :
    handleIceAppPacket sodium env state (chatPacket .message
        (pushPayload sodium state.session.cryptoStream.pull
          (textPayload text)).1) =
      (heardNext sodium fd state text, true) := by
  have hlength : text.length + Sodium.streamABytes ≤ chatMaxMessageSize := by
    have hshort := hcarries.packet
    have hbytes : Sodium.streamABytes = 17 := rfl
    have hmessage : chatMaxMessageSize = 65536 := rfl
    omega
  have hclient : (decryptedNext sodium state
      (textPayload text)).lookupClientFd = some fd := hhearing.client
  have hline : text.length + (decryptedNext sodium state
      (textPayload text)).session.icePeer.length + 11 ≤ chatIpcMaxResponse := by
    have hshort := hcarries.line
    have hpeer : (decryptedNext sodium state
      (textPayload text)).session.icePeer = peer := hhearing.peer
    have hresponse : chatIpcMaxResponse = 4096 := rfl
    rw [hpeer]
    omega
  have hwritten := writeChatMessageToCli_attached hclient hwrite text
  rw [if_pos hline, printableText_eq hcarries.valid] at hwritten
  refine (handle_message hstream hhearing.toListening hlength).trans ?_
  simp only [textPayload] at hwritten ⊢
  rw [hwritten]
  rfl

theorem session_heardNext (fd : ℕ) (text : Str) :
    (heardNext sodium fd state text).session =
      { state.session with
        cryptoStream := { state.session.cryptoStream with
          pull := (pushPayload sodium state.session.cryptoStream.pull
            (textPayload text)).2 } } := rfl

theorem Hearing.next {fd : ℕ} (hhearing : Hearing fd peer state) (text : Str) :
    Hearing fd peer (heardNext sodium fd state text) := by
  have hclient : (heardNext sodium fd state text).lookupClientFd =
      state.lookupClientFd := by
    simp only [heardNext, decryptedNext, ChatdState.decrypted, ChatdState.emit,
      ChatdState.setSession]
  have hsecure : (heardNext sodium fd state text).sessionState =
      state.sessionState := by
    simp only [heardNext, decryptedNext, ChatdState.decrypted, ChatdState.emit,
      ChatdState.setSession]
  refine ⟨⟨?_, hsecure.trans hhearing.secure, ?_⟩,
    hclient.trans hhearing.client, ?_, ?_, ?_, ?_, ?_, ?_, ?_, ?_⟩ <;>
    rw [session_heardNext]
  · exact hhearing.encrypted
  · exact hhearing.opened
  · exact hhearing.peer
  · exact hhearing.active
  · exact hhearing.agent
  · exact hhearing.ready
  · exact hhearing.running
  · exact hhearing.notified
  · exact hhearing.described
  · exact hhearing.applied

theorem writtenTexts_heardNext (fd : ℕ) (text : Str) :
    writtenTexts (heardNext sodium fd state text).log =
      writtenTexts state.log ++ [text] := by
  simp [writtenTexts, heardNext, decryptedNext, ChatdState.decrypted,
    ChatdState.emit, ChatdState.setSession]

/-- The next text is written to the client. -/
theorem heard_process (hstream : sodium.StreamCorrect)
    (hwrite : ∀ count, env.ipcWrite count = true) {fd : ℕ} {push : Bytes 52}
    {flight : List (List UInt8)} {waiting : List Str}
    (hheard : Heard sodium fd peer push flight state waiting) :
    ∃ next rest, processReceivedIcePacket sodium env state = (next, true) ∧
      Heard sodium fd peer push flight next rest ∧
      Wrote state.log next.log waiting rest := by
  obtain ⟨hhearing, hqueued, hpush, hcarries⟩ := hheard
  cases hreceived : state.session.ice.received with
  | nil =>
      exact ⟨state, waiting, process_nil sodium env hreceived,
        ⟨hhearing, hqueued, hpush, hcarries⟩, wrote_refl _ _⟩
  | cons packet packets =>
      rw [hreceived] at hqueued
      cases waiting with
      | nil => exact nomatch hqueued
      | cons text waiting =>
          obtain ⟨htext, htexts⟩ := List.forall_mem_cons.mp hcarries
          simp only [List.cons_append, List.map_cons, payloadPackets,
            List.cons.injEq] at hqueued
          obtain ⟨rfl, hrest⟩ := hqueued
          obtain ⟨queue, hqueue, hprocess⟩ := process_cons sodium env hreceived
            (chatPacket_ne_nil _ _)
          have htook : Hearing fd peer (took state queue) := { hhearing with }
          have hhandle := hprocess.trans
            (handle_text hstream hwrite htook htext)
          have hreceivedNext : (heardNext sodium fd (took state queue)
              text).session.ice.received = packets := hqueue
          refine ⟨_, waiting, hhandle, ⟨htook.next text, ?_, ?_, htexts⟩, ?_⟩
          · rw [hreceivedNext, session_heardNext]
            exact hrest
          · rw [session_heardNext]
            exact hpush
          · exact ⟨[text], writtenTexts_heardNext fd text, rfl⟩

theorem heard_serviceReceiveQueue (hstream : sodium.StreamCorrect)
    (hwrite : ∀ count, env.ipcWrite count = true) {fd : ℕ} {push : Bytes 52}
    {flight : List (List UInt8)} (count : ℕ) {waiting : List Str}
    (hheard : Heard sodium fd peer push flight state waiting) :
    ∃ rest, Heard sodium fd peer push flight
        (serviceReceiveQueue sodium env count state) rest ∧
      Wrote state.log (serviceReceiveQueue sodium env count state).log waiting
        rest := by
  induction count generalizing state waiting with
  | zero => exact ⟨waiting, hheard, wrote_refl _ _⟩
  | succ count ih =>
      obtain ⟨next, rest, hprocess, hnext, hwrote⟩ :=
        heard_process hstream hwrite hheard
      obtain ⟨last, hlast, hlastWrote⟩ := ih hnext
      unfold serviceReceiveQueue
      rw [hprocess]
      exact ⟨last, hlast, hwrote.trans hlastWrote⟩

/-- Every packet of the texts fits a slot of the ring. -/
theorem payloadPackets_fit (hstream : sodium.StreamCorrect) (push : Bytes 52)
    {texts : List Str} (hcarries : ∀ text ∈ texts, Carries peer text) :
    ∀ packet ∈ payloadPackets sodium push (texts.map textPayload),
      packet.length ≤ chatIceRecvMax := by
  induction texts generalizing push with
  | nil => exact List.forall_mem_nil _
  | cons text texts ih =>
      obtain ⟨htext, htexts⟩ := List.forall_mem_cons.mp hcarries
      refine List.forall_mem_cons.mpr ⟨?_, ih _ htexts⟩
      have hsize : (pushPayload sodium push (textPayload text)).1.length =
          text.length + Sodium.streamABytes := hstream.length_push _ _ _
      have hshort := htext.packet
      have hheader : chatPacketHeaderSize = 6 := rfl
      have hbytes : Sodium.streamABytes = 17 := rfl
      have hslot : chatIceRecvMax = 4096 := rfl
      rw [length_chatPacket, hsize]
      omega

/-- A packet arrives while the ring has room. -/
theorem heard_arrive (hstream : sodium.StreamCorrect) {fd : ℕ} {push : Bytes 52}
    {packet : List UInt8} {flight : List (List UInt8)} {waiting : List Str}
    (hheard : Heard sodium fd peer push (packet :: flight) state waiting)
    (hroom : state.session.ice.received.length < chatIceRecvQueueCapacity) :
    Heard sodium fd peer push flight (serviceIceCallback state (.recv packet))
      waiting := by
  obtain ⟨hhearing, hqueued, hpush, hcarries⟩ := hheard
  have hfits : packet.length ≤ chatIceRecvMax := by
    apply payloadPackets_fit hstream _ hcarries
    rw [← hqueued]
    simp
  have hreceived := received_onRecv_of_lt hfits hroom
  have hflight : (onRecv state.session.ice packet).received ++ flight =
      payloadPackets sodium state.session.cryptoStream.pull
        (waiting.map textPayload) := by
    rw [hreceived, ← hqueued, List.append_assoc, List.singleton_append]
  rw [arrive_took hhearing.agent hfits]
  exact ⟨{ hhearing with }, hflight, hpush, hcarries⟩

/-! ## Runs -/

/-- The events of a burst: a read of the sender's client, the arrival of the
oldest packet, and a service step of the receiver. -/
inductive BurstEvent where
  | send (env : Env) (texts : List Str)
  | arrive
  | serve (env : Env)

def BurstEvent.pairEvent (side : Side) : BurstEvent → PairEvent
  | .send env texts =>
      .act side env (.activeClient (.data (sendCommands texts)))
  | .arrive => .arrive side.other 0
  | .serve env => .act side.other env .serviceIce

def BurstEvent.texts : BurstEvent → List Str
  | .send _ texts => texts
  | _ => []

/-- The texts of a read fit their buffers, library calls work, and no packet
arrives while the ring is full. -/
def BurstEvent.Fair (side : Side) (peer : Str) (pair : Pair) : BurstEvent → Prop
  | .send env texts =>
      texts ≠ [] ∧ (∀ text ∈ texts, Carries peer text) ∧
        (sendCommands texts).length ≤ chatIpcMaxCommand - 1 ∧
        ∀ count, env.iceSend count = true
  | .arrive =>
      (pair side.other).session.ice.received.length < chatIceRecvQueueCapacity
  | .serve env => ∀ count, env.ipcWrite count = true

def burstStep (sodium : Sodium) (side : Side) (pair : Pair) (event : BurstEvent) :
    Pair :=
  pairStep sodium pair (event.pairEvent side)

/-- A secure session between two daemons with attached clients. -/
structure Carrying (sodium : Sodium) (side : Side) (fd : ℕ) (peer : Str)
    (pair : Pair) (waiting : List Str) : Prop where
  talking : Talking (pair side)
  heard : Heard sodium fd peer (pair side).session.cryptoStream.push
    (pair side).datagrams (pair side.other) waiting

theorem carrying_step (hstream : sodium.StreamCorrect) {side : Side} {fd : ℕ}
    {pair : Pair} {event : BurstEvent} {waiting : List Str}
    (hcarrying : Carrying sodium side fd peer pair waiting)
    (hfair : event.Fair side peer pair) :
    ∃ rest, Carrying sodium side fd peer (burstStep sodium side pair event) rest ∧
      Wrote (pair side.other).log (burstStep sodium side pair event side.other).log
        (waiting ++ event.texts) rest := by
  obtain ⟨htalking, hheard⟩ := hcarrying
  cases event with
  | send env texts =>
      obtain ⟨hnonempty, hcarries, hbuffer, htaken⟩ := hfair
      have hsent := sentTexts_activeClient hstream htaken htalking hcarries
        hnonempty hbuffer
      have hother : burstStep sodium side pair (.send env texts) side.other =
          pair side.other := Function.update_of_ne side.other_ne _ _
      have hside : burstStep sodium side pair (.send env texts) side =
          serviceActiveChatClient sodium env (pair side)
            (.data (sendCommands texts)) := Function.update_self _ _ _
      refine ⟨waiting ++ texts, ⟨?_, ?_⟩, ?_⟩
      · rw [hside]
        exact hsent.talking
      · rw [hother, hside]
        refine ⟨hheard.hearing, ?_, ?_, ?_⟩
        · rw [hsent.datagrams, ← List.append_assoc, hheard.queued, hheard.push,
            List.map_append, payloadPackets_append]
        · rw [hsent.push, hheard.push, List.map_append, pushed, pushed, pushed,
            List.foldl_append]
        · exact List.forall_mem_append.mpr ⟨hheard.carries, hcarries⟩
      · rw [hother]
        exact wrote_refl _ _
  | arrive =>
      simp only [BurstEvent.texts, List.append_nil]
      cases hflight : (pair side).datagrams with
      | nil =>
          have hsame : burstStep sodium side pair .arrive = pair := by
            simp [burstStep, BurstEvent.pairEvent, pairStep, hflight]
          rw [hsame]
          exact ⟨waiting, ⟨htalking, hheard⟩, wrote_refl _ _⟩
      | cons packet flight =>
          have hstep : burstStep sodium side pair .arrive =
              Function.update (Function.update pair side
                { pair side with datagrams := flight }) side.other
                (serviceIceCallback (pair side.other) (.recv packet)) := by
            simp [burstStep, BurstEvent.pairEvent, pairStep, hflight]
          rw [hflight] at hheard
          have harrived := heard_arrive hstream hheard hfair
          have hlog : (serviceIceCallback (pair side.other) (.recv packet)).log =
              (pair side.other).log := by
            unfold serviceIceCallback
            split_ifs <;> rfl
          rw [hstep]
          refine ⟨waiting, ⟨?_, ?_⟩, ?_⟩
          · rw [Function.update_of_ne side.ne_other, Function.update_self]
            exact { htalking with }
          · rw [Function.update_of_ne side.ne_other, Function.update_self,
              Function.update_self]
            exact harrived
          · rw [Function.update_self, hlog]
            exact wrote_refl _ _
  | serve env =>
      have hside : burstStep sodium side pair (.serve env) side = pair side :=
        Function.update_of_ne side.ne_other _ _
      have hother : burstStep sodium side pair (.serve env) side.other =
          serviceReceiveQueue sodium env chatIceRecvQueueCapacity
            (pair side.other) :=
        (Function.update_self _ _ _).trans hheard.hearing.service
      obtain ⟨rest, hrest, hwrote⟩ := heard_serviceReceiveQueue hstream hfair
        chatIceRecvQueueCapacity hheard
      refine ⟨rest, ⟨?_, ?_⟩, ?_⟩
      · rw [hside]
        exact htalking
      · rw [hside, hother]
        exact hrest
      · rw [hother]
        exact (List.append_nil waiting).symm ▸ hwrote

theorem carrying_run (hstream : sodium.StreamCorrect) {side : Side} {fd : ℕ}
    {start : Pair} {events : List BurstEvent} {waiting : List Str}
    (hstart : Carrying sodium side fd peer start waiting)
    (hfair : Transition.Guarded (burstStep sodium side)
      (fun pair event => event.Fair side peer pair) start events) :
    ∃ rest, Carrying sodium side fd peer
        (Transition.run (burstStep sodium side) start events) rest ∧
      Wrote (start side.other).log
        (Transition.run (burstStep sodium side) start events side.other).log
        (waiting ++ events.flatMap BurstEvent.texts) rest := by
  induction events generalizing start waiting with
  | nil =>
      rw [List.flatMap_nil, List.append_nil]
      exact ⟨waiting, hstart, wrote_refl _ _⟩
  | cons event events ih =>
      obtain ⟨rest, hrest, hwrote⟩ := carrying_step hstream hstart hfair.1
      obtain ⟨last, hlast, hlastWrote⟩ := ih hrest hfair.2
      refine ⟨last, hlast, ?_⟩
      rw [List.flatMap_cons, ← List.append_assoc]
      exact (hwrote.append _).trans hlastWrote

/-- While no packet arrives at a full ring, the receiver keeps its session and
writes a beginning of the sent texts; when no packet is queued or in flight, it
has written all of them. -/
theorem burst_delivered (hstream : sodium.StreamCorrect) {side : Side} {fd : ℕ}
    {start : Pair} {events : List BurstEvent}
    (hstart : Carrying sodium side fd peer start [])
    (hfair : Transition.Guarded (burstStep sodium side)
      (fun pair event => event.Fair side peer pair) start events) :
    let last := Transition.run (burstStep sodium side) start events
    let sent := events.flatMap BurstEvent.texts
    Hearing fd peer (last side.other) ∧
      ∃ written, writtenTexts (last side.other).log =
          writtenTexts (start side.other).log ++ written ∧
        written <+: sent ∧
        ((last side).datagrams = [] →
          (last side.other).session.ice.received = [] → written = sent) := by
  obtain ⟨rest, hcarrying, written, hlog, hsent⟩ :=
    carrying_run hstream hstart hfair
  generalize Transition.run (burstStep sodium side) start events = last
    at hcarrying hlog ⊢
  refine ⟨hcarrying.heard.hearing, written, hlog, ⟨rest, hsent.symm⟩, ?_⟩
  intro hflight hreceived
  have hqueued := hcarrying.heard.queued
  rw [hflight, hreceived] at hqueued
  cases rest with
  | nil => exact (hsent.trans (List.append_nil written)).symm
  | cons text rest => exact nomatch hqueued

/-! ## Nine texts -/

/-- Alice and Bob in a secure session behind its negotiation. -/
def securePair : Pair
  | .left => settled (Client.secureWith alice bob.username)
  | .right => settled (Client.secureWith bob alice.username)
where
  settled (state : ChatdState) : ChatdState :=
    state.setSession
      { state.session with iceCliNotified := true, iceLocalSdpSent := true }

theorem carrying_securePair :
    Carrying Transparent.sodium .left 7 alice.username securePair [] where
  talking := ⟨nofun, rfl, rfl, rfl, rfl, rfl, rfl⟩
  heard :=
    { hearing := ⟨⟨rfl, rfl, rfl⟩, rfl, rfl, rfl, rfl, rfl, rfl, rfl, rfl, rfl⟩
      queued := by decide
      push := rfl
      carries := List.forall_mem_nil _ }

/-- One read of Alice's client with two texts, which Bob receives. -/
def twoTexts : List BurstEvent :=
  [.send (Env.smooth 1 1) [bytes "hello", bytes "bob"], .arrive, .arrive,
    .serve (Env.smooth 1 2)]

/-- One read of Alice's client with nine texts.  All packets arrive before Bob
serves his session. -/
def nineTexts : List BurstEvent :=
  .send (Env.smooth 1 1) (List.replicate 9 (bytes "hello")) ::
    List.replicate 9 .arrive ++ [.serve (Env.smooth 1 2)]

theorem carries_hello : Carries alice.username (bytes "hello") ∧
    Carries alice.username (bytes "bob") := by
  have hfacts : (chatTextIsValid (bytes "hello") = true ∧
      (bytes "hello").length ≤ 4073 ∧
      (bytes "hello").length + alice.username.length ≤ 4085) ∧
      chatTextIsValid (bytes "bob") = true ∧ (bytes "bob").length ≤ 4073 ∧
      (bytes "bob").length + alice.username.length ≤ 4085 := by
    decide +kernel
  obtain ⟨⟨hvalid, hpacket, hline⟩, hbob, hbobPacket, hbobLine⟩ := hfacts
  exact ⟨⟨hvalid, hpacket, hline⟩, ⟨hbob, hbobPacket, hbobLine⟩⟩

/-- Both texts of the read are written to Bob's client. -/
theorem burst_delivered_twoTexts :
    writtenTexts (Transition.run (burstStep Transparent.sodium .left) securePair
      twoTexts .right).log = [bytes "hello", bytes "bob"] := by
  have hfacts :
      let sent := burstStep Transparent.sodium .left securePair
        (.send (Env.smooth 1 1) [bytes "hello", bytes "bob"])
      let first := burstStep Transparent.sodium .left sent .arrive
      let last := Transition.run (burstStep Transparent.sodium .left) securePair
        twoTexts
      (sent .right).session.ice.received.length < chatIceRecvQueueCapacity ∧
        (first .right).session.ice.received.length < chatIceRecvQueueCapacity ∧
        (last .left).datagrams = [] ∧ (last .right).session.ice.received = [] ∧
        (sendCommands [bytes "hello", bytes "bob"]).length ≤
          chatIpcMaxCommand - 1 ∧
        writtenTexts (securePair .right).log = [] := by
    decide +kernel
  obtain ⟨hfirst, hsecond, hflight, hreceived, hbuffer, hstart⟩ := hfacts
  have htexts : ∀ text ∈ [bytes "hello", bytes "bob"],
      Carries alice.username text :=
    List.forall_mem_cons.mpr ⟨carries_hello.1,
      List.forall_mem_singleton.mpr carries_hello.2⟩
  have hfair : Transition.Guarded (burstStep Transparent.sodium .left)
      (fun pair event => event.Fair .left alice.username pair) securePair
      twoTexts :=
    ⟨⟨List.cons_ne_nil _ _, htexts, hbuffer, fun _ => rfl⟩, hfirst, hsecond,
      fun _ => rfl, trivial⟩
  obtain ⟨_, written, hlog, _, hall⟩ :=
    burst_delivered Transparent.streamCorrect carrying_securePair hfair
  have hwritten := hall hflight hreceived
  change writtenTexts (Transition.run (burstStep Transparent.sodium .left)
    securePair twoTexts .right).log =
    writtenTexts (securePair .right).log ++ written at hlog
  rw [hlog, hstart, hwritten]
  rfl

/-- The ninth packet pushes the first out of the ring, and the gap ends Bob's
session before a text is written. -/
theorem nine_texts_end_session :
    let last := Transition.run (burstStep Transparent.sodium .left) securePair
      nineTexts
    Carrying Transparent.sodium .left 7 alice.username securePair [] ∧
      (∀ text ∈ nineTexts.flatMap BurstEvent.texts,
        Carries alice.username text) ∧
      (last .left).datagrams = [] ∧ (last .right).session.ice.received = [] ∧
      (last .right).session.encryptedSessionReady = false ∧
      (last .right).sessionState = .failed ∧
      writtenTexts (last .right).log = [] ∧
      nineTexts.flatMap BurstEvent.texts ≠ [] := by
  have hfacts :
      let last := Transition.run (burstStep Transparent.sodium .left) securePair
        nineTexts
      (last .left).datagrams = [] ∧ (last .right).session.ice.received = [] ∧
        (last .right).session.encryptedSessionReady = false ∧
        (last .right).sessionState = .failed ∧
        writtenTexts (last .right).log = [] := by
    decide +kernel
  obtain ⟨hflight, hreceived, hready, hfailed, hwritten⟩ := hfacts
  have hsent : nineTexts.flatMap BurstEvent.texts =
      List.replicate 9 (bytes "hello") := rfl
  refine ⟨carrying_securePair, ?_, hflight, hreceived, hready, hfailed, hwritten,
    ?_⟩
  · rw [hsent]
    intro text htext
    rw [List.eq_of_mem_replicate htext]
    exact carries_hello.1
  · rw [hsent]
    exact List.cons_ne_nil _ _

end ProntoChat.Net
