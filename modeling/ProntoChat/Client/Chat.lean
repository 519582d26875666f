import ProntoChat.Daemon.Scenario
import ProntoChat.Daemon.Texts

/-!
# The command-line client

The part of `chat <username>` that carries texts: the command for a typed line,
the buffer into which a response is read, and what is printed for a message.
Together with the two daemons between the clients this gives the sizes of the
texts that pass through every stage.
-/

namespace ProntoChat.Client

open ProntoChat.QuotedText
open ProntoChat.Protocole
open ProntoChat.Json
open ProntoChat.Contacts
open ProntoChat.Crypto
open ProntoChat.Daemon

/-- `send_cli_chat_message`: the command for a line that is short enough. -/
def sendCliChatMessage (line : Str) : Option Str :=
  let command := sendMessagePrefix ++ line ++ [newline]
  if chatIpcMaxCommand ≤ command.length then none else some command

/-- A line as `run_chat_loop` cuts it from the standard input. -/
structure Typed (line : Str) : Prop where
  nonempty : line ≠ []
  bytes : ∀ byte ∈ line, byte ≠ 0 ∧ byte ≠ 13 ∧ byte ≠ 10

/-- One `read` of a response. -/
def readResponse (input : List UInt8) : Str :=
  cString (input.take (chatIpcMaxResponse - 1))

/-- The name and the text that `run_chat_loop` prints for a response. -/
def shownMessage (response : Str) : Option (Str × Str) :=
  if (bytes "MESSAGE ").isPrefixOf response then
    let rest := response.drop 8
    match rest.dropWhile (· != 32) with
    | [] => none
    | _ :: text =>
        some (rest.takeWhile (· != 32),
          text.takeWhile fun byte => !isLineBreak byte)
  else none

/-! ## Sizes -/

/-- The daemon accepts exactly the lines that the client submits. -/
theorem sendCliChatMessage_isSome_iff {line : Str} (htyped : Typed line) :
    (sendCliChatMessage line).isSome = true ↔ chatTextIsValid line = true := by
  have hmax : chatdChatTextMax = 4081 := rfl
  have hcommand : chatIpcMaxCommand = 4096 := rfl
  have hword : sendMessagePrefix.length = 13 := by decide +kernel
  rw [chatTextIsValid_iff]
  simp only [sendCliChatMessage, List.length_append, List.length_singleton, hword]
  by_cases hlong : chatIpcMaxCommand ≤ 13 + line.length + 1
  · rw [if_pos hlong]
    simp only [Option.isSome_none, Bool.false_eq_true, false_iff]
    rintro ⟨_, hlength, _⟩
    omega
  · rw [if_neg hlong]
    simp only [Option.isSome_some, true_iff]
    exact ⟨htyped.nonempty, by omega, htyped.bytes⟩

theorem length_message (peer text : Str) :
    (IpcLine.message peer text).render.length =
      text.length + peer.length + 10 := by
  have hword : (bytes "MESSAGE ").length = 8 := by decide +kernel
  have hblank : (bytes " ").length = 1 := by decide +kernel
  simp only [IpcLine.render, List.length_append, List.length_singleton, hword,
    hblank]
  omega

/-- A line that fits the buffer is printed as the name and the text. -/
theorem shownMessage_render {peer text : Str}
    (hname : chatUsernameIsValid peer = true)
    (htext : ∀ byte ∈ text, byte ≠ 0 ∧ byte ≠ 13 ∧ byte ≠ 10)
    (hfits : (IpcLine.message peer text).render.length ≤ chatIpcMaxResponse - 1) :
    shownMessage (readResponse (IpcLine.message peer text).render) =
      some (peer, text) := by
  have hpeer := username_not_space hname
  have hshape : (IpcLine.message peer text).render =
      bytes "MESSAGE " ++ (peer ++ 32 :: (text ++ [newline])) := by
    simp [IpcLine.render, bytes]
  have hzero : ∀ byte ∈ (IpcLine.message peer text).render, byte ≠ 0 := by
    rw [hshape]
    refine List.forall_mem_append.mpr ⟨by decide +kernel, List.forall_mem_append.mpr
      ⟨fun byte hbyte => (hpeer byte hbyte).2.1, List.forall_mem_cons.mpr
        ⟨by decide, List.forall_mem_append.mpr
          ⟨fun byte hbyte => (htext byte hbyte).1, by simp [newline]⟩⟩⟩⟩
  have hresponse : readResponse (IpcLine.message peer text).render =
      bytes "MESSAGE " ++ (peer ++ 32 :: (text ++ [newline])) := by
    rw [readResponse, List.take_of_length_le hfits, cString_of_ne_zero hzero,
      hshape]
  have hword : (bytes "MESSAGE ").isPrefixOf
      (bytes "MESSAGE " ++ (peer ++ 32 :: (text ++ [newline]))) = true := by
    rw [List.isPrefixOf_iff_prefix]
    exact List.prefix_append _ _
  have hnonblank : ∀ byte ∈ peer, (byte != 32) = true := by
    intro byte hbyte
    have hspace := (hpeer byte hbyte).1
    simp only [bne_iff_ne]
    rintro rfl
    exact absurd hspace (by decide)
  have hunbroken : ∀ byte ∈ text, (!isLineBreak byte) = true := by
    intro byte hbyte
    obtain ⟨_, hreturn, hfeed⟩ := htext byte hbyte
    simp [isLineBreak, hreturn, hfeed]
  have hdrop : (bytes "MESSAGE " ++ (peer ++ 32 :: (text ++ [newline]))).drop 8 =
      peer ++ 32 :: (text ++ [newline]) :=
    List.drop_left' (by decide +kernel)
  have hstop : ([newline].takeWhile fun byte => !isLineBreak byte) = [] := by
    decide
  rw [hresponse, shownMessage, if_pos hword]
  simp only [hdrop, List.dropWhile_append_of_pos hnonblank,
    List.takeWhile_append_of_pos hnonblank, List.dropWhile_cons,
    List.takeWhile_cons, bne_self_eq_false, Bool.false_eq_true, if_false,
    List.append_nil, List.takeWhile_append_of_pos hunbroken, hstop]

section Carried

variable {sodium : Sodium} {senderEnv receiverEnv : Env}
  {sender receiver : ChatdState} {fd : ℕ}

/-- A text passes every stage between two clients: its packet is sent, the
other daemon writes it to its client, and that client can read the line. -/
structure Carried (sodium : Sodium) (senderEnv receiverEnv : Env)
    (sender receiver : ChatdState) (text : Str) : Prop where
  sent : (sendEncryptedChatMessage sodium senderEnv sender text).2 = true
  written : (writeChatMessageToCli receiverEnv receiver text).2 = true
  read : (IpcLine.message receiver.session.icePeer
    (printableText text)).render.length ≤ chatIpcMaxResponse - 1

theorem sent_iff (hstream : sodium.StreamCorrect) (hsend : CanSend senderEnv sender)
    {text : Str} (hvalid : chatTextIsValid text = true) :
    (sendEncryptedChatMessage sodium senderEnv sender text).2 = true ↔
      text.length ≤ 4073 := by
  have hsizes : chatPacketHeaderSize + (text.length + Sodium.streamABytes) ≤
      chatdIcePacketMax ↔ text.length ≤ 4073 := by
    have hheader : chatPacketHeaderSize = 6 := rfl
    have hbytes : Sodium.streamABytes = 17 := rfl
    have hpacket : chatdIcePacketMax = 4096 := rfl
    omega
  rw [sendEncryptedChatMessage_eq hstream hsend hvalid, ← hsizes]
  simp only
  split_ifs with hfits
  · simp [hfits]
  · simp [hfits]

theorem written_iff (hclient : receiver.lookupClientFd = some fd)
    (hwrite : ∀ count, receiverEnv.ipcWrite count = true) (text : Str) :
    (writeChatMessageToCli receiverEnv receiver text).2 = true ↔
      text.length + receiver.session.icePeer.length ≤ 4085 := by
  have hresponse : chatIpcMaxResponse = 4096 := rfl
  rw [writeChatMessageToCli_attached hclient hwrite]
  split_ifs with hfits
  · simp only [true_iff]
    omega
  · simp only [false_iff]
    omega

/-- The client submits exactly the texts that the daemon accepts, an accepted
text passes every stage exactly when it has at most 4073 bytes and, with the
name of the sender, at most 4085, and then it is printed as it was typed. -/
theorem text_carried_iff (hstream : sodium.StreamCorrect)
    (hsend : CanSend senderEnv sender)
    (hclient : receiver.lookupClientFd = some fd)
    (hwrite : ∀ count, receiverEnv.ipcWrite count = true)
    (hname : chatUsernameIsValid receiver.session.icePeer = true)
    {text : Str} (htyped : Typed text) :
    ((sendCliChatMessage text).isSome = true ↔ chatTextIsValid text = true) ∧
      (chatTextIsValid text = true →
        (Carried sodium senderEnv receiverEnv sender receiver text ↔
          text.length ≤ 4073 ∧
            text.length + receiver.session.icePeer.length ≤ 4085) ∧
        (Carried sodium senderEnv receiverEnv sender receiver text →
          shownMessage (readResponse (IpcLine.message receiver.session.icePeer
            (printableText text)).render) =
              some (receiver.session.icePeer, text))) := by
  refine ⟨sendCliChatMessage_isSome_iff htyped, fun hvalid => ⟨?_, ?_⟩⟩
  · have hsent : (sendEncryptedChatMessage sodium senderEnv sender text).2 = true ↔
        text.length ≤ 4073 := sent_iff hstream hsend hvalid
    have hwritten : (writeChatMessageToCli receiverEnv receiver text).2 = true ↔
        text.length + receiver.session.icePeer.length ≤ 4085 :=
      written_iff hclient hwrite text
    constructor
    · intro hcarried
      exact ⟨hsent.mp hcarried.sent, hwritten.mp hcarried.written⟩
    · rintro ⟨hpacket, hline⟩
      refine ⟨hsent.mpr hpacket, hwritten.mpr hline, ?_⟩
      have hresponse : chatIpcMaxResponse = 4096 := rfl
      rw [printableText_eq hvalid, length_message]
      omega
  · intro hcarried
    have hread := hcarried.read
    rw [printableText_eq hvalid] at hread ⊢
    exact shownMessage_render hname htyped.bytes hread

end Carried

/-! ## Lines of messages -/

/-- A line by which the client is told of one text of the peer, and of nothing
else. -/
structure TellsMessage (peer text line : Str) : Prop where
  head : messageHead peer <+: line
  oneLine : line.count newline = 1
  ends : line.getLast? = some newline
  plain : ∀ byte ∈ line, byte ≠ 13 ∧ byte ≠ 0
  shown : shownMessage (readResponse line) = some (peer, text)

theorem tellsMessage_render {peer text : Str}
    (hname : chatUsernameIsValid peer = true)
    (htext : ∀ byte ∈ text, byte ≠ 0 ∧ byte ≠ 13 ∧ byte ≠ 10)
    (hfits : (IpcLine.message peer text).render.length ≤ chatIpcMaxResponse - 1) :
    TellsMessage peer text (IpcLine.message peer text).render := by
  have hpeer := username_not_space hname
  have hshape : (IpcLine.message peer text).render =
      messageHead peer ++ (text ++ [newline]) := by
    simp [IpcLine.render, messageHead]
  have hhead : ∀ byte ∈ messageHead peer, byte ≠ newline ∧ byte ≠ 13 ∧ byte ≠ 0 := by
    refine List.forall_mem_append.mpr ⟨List.forall_mem_append.mpr
      ⟨by decide +kernel, fun byte hbyte => ?_⟩, by decide +kernel⟩
    obtain ⟨hspace, hzero, hnewline⟩ := hpeer byte hbyte
    refine ⟨hnewline, ?_, hzero⟩
    rintro rfl
    exact absurd hspace (by decide)
  refine ⟨?_, ?_, ?_, ?_, shownMessage_render hname htext hfits⟩
  · rw [hshape]
    exact List.prefix_append _ _
  · have hheadCount : (messageHead peer).count newline = 0 :=
      List.count_eq_zero.mpr fun hmem => (hhead _ hmem).1 rfl
    have htextCount : text.count newline = 0 :=
      List.count_eq_zero.mpr fun hmem => (htext _ hmem).2.2 rfl
    rw [hshape, List.count_append, List.count_append, hheadCount, htextCount,
      List.count_singleton_self]
  · rw [hshape, ← List.append_assoc, List.getLast?_concat]
  · rw [hshape]
    refine List.forall_mem_append.mpr ⟨fun byte hbyte => (hhead byte hbyte).2,
      List.forall_mem_append.mpr ⟨fun byte hbyte => ?_, by simp [newline]⟩⟩
    exact ⟨(htext byte hbyte).2.1, (htext byte hbyte).1⟩

/-- An accepted text, whatever its bytes, becomes one line that the client takes
for a message of the peer.  The line is built inside the response buffer, and the
client shows the text with blanks for line breaks and NUL. -/
theorem message_line_exact (env : Env) {state : ChatdState} {fd : ℕ}
    (hclient : state.lookupClientFd = some fd)
    (hname : chatUsernameIsValid state.session.icePeer = true)
    {plaintext : List UInt8}
    (haccepted : (writeChatMessageToCli env state plaintext).2 = true)
    {response : List UInt8} (hsize : response.length = chatIpcMaxResponse) :
    let line := IpcLine.message state.session.icePeer (printableText plaintext)
    (writeChatMessageToCli env state plaintext).1 =
        state.emit (.ipcLine fd (some state.openedPeer) line true) ∧
      (formatChatMessage response state.session.icePeer plaintext).map cString =
        some line.render ∧
      TellsMessage state.session.icePeer (printableText plaintext) line.render ∧
      (chatTextIsValid plaintext = true → printableText plaintext = plaintext) := by
  intro line
  have hfits : plaintext.length + (8 + state.session.icePeer.length + 1) + 2 ≤
      chatIpcMaxResponse := by
    by_contra hlong
    simp [writeChatMessageToCli, hclient, Nat.lt_of_not_le hlong] at haccepted
  have hwritten : writeChatMessageToCli env state plaintext =
      writeIpcLine env state fd line := by
    simp only [writeChatMessageToCli, hclient]
    rw [if_neg (Nat.not_lt.mpr hfits)]
  have hdelivered : env.ipcWrite state.log.length = true := by
    rw [hwritten] at haccepted
    exact haccepted
  have htells : TellsMessage state.session.icePeer (printableText plaintext)
      line.render := by
    refine tellsMessage_render hname (printableText_bytes plaintext) ?_
    rw [length_message, length_printableText]
    omega
  refine ⟨?_, ?_, htells, printableText_eq⟩
  · rw [hwritten, writeIpcLine_attached env line hclient, hdelivered]
  · obtain ⟨rest, hformat⟩ := formatChatMessage_of_le hsize hfits
    have hzero : ∀ byte ∈ line.render, (byte != 0) = true := by
      intro byte hbyte
      simpa using (htells.plain byte hbyte).2
    rw [hformat, Option.map_some, cString, List.takeWhile_append_of_pos hzero]
    simp [line]

/-- A daemon with an attached client in a secure session with `peer`. -/
def secureWith (own : ChatIdentity) (peer : Str) : ChatdState where
  identity := own
  sessionState := .secure
  lookupClientFd := some 7
  session :=
    { icePeer := peer
      iceActive := true
      ice := { agent := true, ready := true }
      cryptoStream := { pushInitialized := true, pullInitialized := true }
      encryptedSessionReady := true }

/-- A text of the peer that looks like another event is shown as a text. -/
theorem message_line_exact_closed :
    let text := bytes "hi\nCHAT_CLOSED alice\n"
    TellsMessage alice.username (bytes "hi CHAT_CLOSED alice ")
      (IpcLine.message alice.username (printableText text)).render := by
  intro text
  have hclient : (secureWith bob alice.username).lookupClientFd = some 7 := rfl
  have haccepted : (writeChatMessageToCli (Env.smooth 1 2)
      (secureWith bob alice.username) text).2 = true := by
    decide +kernel
  have hsize : (List.replicate chatIpcMaxResponse (0 : UInt8)).length =
      chatIpcMaxResponse := List.length_replicate
  have hline := message_line_exact (Env.smooth 1 2) hclient (by decide +kernel)
    haccepted hsize
  have hshown : printableText text = bytes "hi CHAT_CLOSED alice " := by decide +kernel
  rw [← hshown]
  exact hline.2.2.1

/-! ## Long texts -/

theorem canSend_secureWith (own : ChatIdentity) (peer : Str) (now : ℕ)
    (byte : UInt8) : CanSend (Env.smooth now byte) (secureWith own peer) where
  ready := rfl
  agent := rfl
  taken := fun _ => rfl
  encrypted := rfl
  secure := Or.inl rfl
  push := rfl

theorem typed_replicate {count : ℕ} (hcount : 0 < count) :
    Typed (List.replicate count 97) where
  nonempty := by
    rw [ne_eq, List.replicate_eq_nil_iff]
    omega
  bytes := by
    intro byte hbyte
    obtain rfl := List.eq_of_mem_replicate hbyte
    decide

theorem chatTextIsValid_replicate {count : ℕ} (hcount : 0 < count)
    (hmax : count ≤ 4081) :
    chatTextIsValid (List.replicate count 97) = true := by
  have htyped := typed_replicate hcount
  rw [chatTextIsValid_iff, List.length_replicate]
  exact ⟨htyped.nonempty, hmax, htyped.bytes⟩

/-- A short text passes every stage. -/
theorem text_carried_hundred :
    Carried Transparent.sodium (Env.smooth 1 1) (Env.smooth 1 2)
      (secureWith alice bob.username) (secureWith bob alice.username)
      (List.replicate 100 97) := by
  have hname : chatUsernameIsValid
      (secureWith bob alice.username).session.icePeer = true := by
    decide +kernel
  have hsize : (List.replicate 100 (97 : UInt8)).length ≤ 4073 ∧
      (List.replicate 100 (97 : UInt8)).length +
        (secureWith bob alice.username).session.icePeer.length ≤ 4085 := by
    decide +kernel
  have hclient : (secureWith bob alice.username).lookupClientFd = some 7 := rfl
  have hwrite : ∀ count, (Env.smooth 1 2).ipcWrite count = true := fun _ => rfl
  have htyped : Typed (List.replicate 100 97) := typed_replicate (by decide)
  have hcarried := (text_carried_iff Transparent.streamCorrect
    (canSend_secureWith alice bob.username 1 1) hclient hwrite hname htyped).2
    (chatTextIsValid_replicate (by decide) (by decide))
  exact hcarried.1.mpr hsize

/-- Two accepted texts that are lost on the way: one whose packet is too large,
and one whose packet is sent but whose line is too long for the receiver. -/
theorem long_texts_not_carried :
    let longest := List.replicate 4081 97
    let long := List.replicate 4073 97
    let sender := Transparent.identity (List.replicate 32 97) 1
    (chatTextIsValid longest = true ∧
      ¬ Carried Transparent.sodium (Env.smooth 1 1) (Env.smooth 1 2)
        (secureWith alice bob.username) (secureWith bob alice.username) longest) ∧
    chatUsernameIsValid sender.username = true ∧ chatTextIsValid long = true ∧
      (sendEncryptedChatMessage Transparent.sodium (Env.smooth 1 1)
        (secureWith sender bob.username) long).2 = true ∧
      ¬ Carried Transparent.sodium (Env.smooth 1 1) (Env.smooth 1 2)
        (secureWith sender bob.username) (secureWith bob sender.username) long := by
  intro longest long sender
  have hlongest : chatTextIsValid longest = true :=
    chatTextIsValid_replicate (by decide) (by decide)
  have hlong : chatTextIsValid long = true :=
    chatTextIsValid_replicate (by decide) (by decide)
  have hsent := sent_iff Transparent.streamCorrect
    (canSend_secureWith alice bob.username 1 1) hlongest
  have hsentLong := sent_iff Transparent.streamCorrect
    (canSend_secureWith sender bob.username 1 1) hlong
  have hclient : (secureWith bob sender.username).lookupClientFd = some 7 := rfl
  have hwrite : ∀ count, (Env.smooth 1 2).ipcWrite count = true := fun _ => rfl
  have hwritten := written_iff hclient hwrite long
  have hname : (secureWith bob sender.username).session.icePeer.length = 32 :=
    List.length_replicate
  have hlength : longest.length = 4081 := List.length_replicate
  have hlongLength : long.length = 4073 := List.length_replicate
  refine ⟨⟨hlongest, fun hcarried => ?_⟩, by decide +kernel, hlong,
    hsentLong.mpr hlongLength.le, fun hcarried => ?_⟩
  · have hshort := hsent.mp hcarried.sent
    omega
  · have hshort := hwritten.mp hcarried.written
    omega

end ProntoChat.Client
