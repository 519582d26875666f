import ProntoChat.Core.Chunks
import ProntoChat.Client.Chat
import ProntoChat.Daemon.Sending

/-!
# Commands of the chat loop

The client writes newline-terminated commands, and the daemon serves what one read
returns as a buffer of its own.  A command that is cut by the end of a read is
served as several lines.  The texts and the end of the chat are those of the
commands exactly when no read ends inside a command up to the first `CLOSE_CHAT`.
-/

namespace ProntoChat.Client

open ProntoChat.QuotedText
open ProntoChat.Protocole
open ProntoChat.Json
open ProntoChat.Contacts
open ProntoChat.Crypto
open ProntoChat.Daemon
open ProntoChat.Chunks

/-- What `run_chat_loop` writes to the daemon. -/
inductive Command where
  | send (text : Str)
  | close
  deriving DecidableEq

def closeLine : Str := bytes "CLOSE_CHAT"

def Command.line : Command → Str
  | .send text => sendMessagePrefix ++ text
  | .close => closeLine

def Command.render (command : Command) : Str := command.line ++ [newline]

/-- A typed line that `send_cli_chat_message` submits, or the end of the chat. -/
def Command.Submitted : Command → Prop
  | .send text => Typed text ∧ sendCliChatMessage text = some (Command.send text).render
  | .close => True

def commandStream (commands : List Command) : Str := commands.flatMap Command.render

theorem Command.Submitted.valid {text : Str} (hsubmitted : (Command.send text).Submitted) :
    chatTextIsValid text = true :=
  (sendCliChatMessage_isSome_iff hsubmitted.1).mp
    (Option.isSome_of_eq_some hsubmitted.2)

theorem Command.line_ne_nil (command : Command) : command.line ≠ [] := by
  have hwords : sendMessagePrefix ≠ [] ∧ closeLine ≠ [] := by decide +kernel
  cases command with
  | send text => simp [Command.line, hwords.1]
  | close => exact hwords.2

theorem send_line_ne_closeLine (text : Str) :
    (Command.send text).line ≠ closeLine := by
  have hword : closeLine.head? ≠ sendMessagePrefix.head? := by decide +kernel
  have hnonempty : sendMessagePrefix ≠ [] := by decide +kernel
  intro hline
  have hhead := congrArg List.head? hline
  rw [Command.line, List.head?_append_of_ne_nil _ hnonempty] at hhead
  exact hword hhead.symm

theorem Command.Submitted.unbroken {command : Command} (hsubmitted : command.Submitted) :
    ∀ byte ∈ command.line, isLineBreak byte = false ∧ byte ≠ 0 := by
  cases command with
  | send text =>
      refine List.forall_mem_append.mpr ⟨by decide +kernel, fun byte hbyte => ?_⟩
      obtain ⟨hzero, hreturn, hfeed⟩ := hsubmitted.1.bytes byte hbyte
      exact ⟨by simp [isLineBreak, hreturn, hfeed], hzero⟩
  | close =>
      intro byte hbyte
      have hbytes : ∀ byte ∈ closeLine, isLineBreak byte = false ∧ byte ≠ 0 := by
        decide +kernel
      exact hbytes byte hbyte

theorem Command.Submitted.newline_not_mem {command : Command}
    (hsubmitted : command.Submitted) : newline ∉ command.line := by
  intro hmem
  have hbreak := (hsubmitted.unbroken newline hmem).1
  exact absurd hbreak (by decide)

/-! ## The lines of a read -/

theorem commandLinesFrom_newline (line text rest : Str) :
    commandLinesFrom line (text ++ newline :: rest) =
      commandLinesFrom line text ++ commandLines rest := by
  have hbreak : isLineBreak newline = true := by decide
  induction text generalizing line with
  | nil =>
      simp only [List.nil_append, commandLinesFrom, hbreak, if_true, commandLines]
      split_ifs <;> rfl
  | cons byte text ih =>
      simp only [List.cons_append, commandLinesFrom]
      split_ifs
      · exact ih []
      · rw [ih [], List.cons_append]
      · exact ih _

theorem commandLinesFrom_unbroken {text : Str}
    (hunbroken : ∀ byte ∈ text, isLineBreak byte = false) (line : Str) :
    commandLinesFrom line text = pieces [line ++ text] := by
  induction text generalizing line with
  | nil =>
      by_cases hline : line = [] <;> simp [commandLinesFrom, pieces, hline]
  | cons byte text ih =>
      obtain ⟨hbyte, htext⟩ := List.forall_mem_cons.mp hunbroken
      rw [commandLinesFrom, hbyte, if_neg (by decide), ih htext, List.append_assoc]
      rfl

/-- The lines that the daemon serves for successive reads. -/
def readLines (reads : List Str) : List Str := reads.flatMap commandLines

theorem readLines_unbroken {reads : List Str}
    (hunbroken : ∀ byte ∈ reads.flatten, isLineBreak byte = false) :
    readLines reads = pieces reads := by
  induction reads with
  | nil => rfl
  | cons read reads ih =>
      rw [List.flatten_cons] at hunbroken
      obtain ⟨hread, hreads⟩ := List.forall_mem_append.mp hunbroken
      have hlines : commandLines read = pieces [read] :=
        commandLinesFrom_unbroken hread []
      have hrest : reads.flatMap commandLines = pieces reads := ih hreads
      rw [readLines, List.flatMap_cons, hlines, hrest, pieces, pieces, pieces,
        ← List.filter_append]
      rfl

/-- The first command is served as its pieces. -/
theorem readLines_command {command : Command} (hsubmitted : command.Submitted)
    {front back : List Str} {head tail : Str}
    (hline : (front ++ [head]).flatten = command.line) :
    readLines (front ++ (head ++ newline :: tail) :: back) =
      pieces (front ++ [head]) ++ readLines (tail :: back) := by
  have hfirst : readLines (front ++ [head]) = pieces (front ++ [head]) :=
    readLines_unbroken fun byte hbyte =>
      (hsubmitted.unbroken byte (hline ▸ hbyte)).1
  have hcut : commandLines (head ++ newline :: tail) =
      commandLines head ++ commandLines tail := commandLinesFrom_newline [] head tail
  rw [← hfirst]
  simp [readLines, hcut]

theorem readLines_renders {commands : List Command}
    (hsubmitted : ∀ command ∈ commands, command.Submitted) :
    readLines (commands.map Command.render) = commands.map Command.line := by
  induction commands with
  | nil => rfl
  | cons command commands ih =>
      obtain ⟨hcommand, hcommands⟩ := List.forall_mem_cons.mp hsubmitted
      have hline : (([] : List Str) ++ [command.line]).flatten = command.line := by simp
      have hfirst : readLines ((command :: commands).map Command.render) =
          pieces ([] ++ [command.line]) ++
            readLines ([] :: commands.map Command.render) :=
        readLines_command hcommand hline
      have hpieces : pieces ([] ++ [command.line]) = [command.line] := by
        simp [pieces, command.line_ne_nil]
      have hrest : readLines ([] :: commands.map Command.render) =
          commands.map Command.line := ih hcommands
      rw [hfirst, hpieces, hrest]
      rfl

/-! ## What is heard of a list of lines -/

/-- The text that one line makes the daemon encrypt. -/
def lineText (line : Str) : Option Str :=
  if sendMessagePrefix.isPrefixOf line then
    let text := line.drop sendMessagePrefix.length
    if chatTextIsValid text then some text else none
  else none

/-- The lines in front of the first `CLOSE_CHAT`. -/
def openLines (lines : List Str) : List Str := lines.takeWhile (· ≠ closeLine)

def heardTexts (lines : List Str) : List Str := (openLines lines).filterMap lineText

/-- The place of the first `CLOSE_CHAT`: the bytes of the lines in front of it. -/
def closePlace (lines : List Str) : Option ℕ :=
  if closeLine ∈ lines then some (openLines lines).flatten.length else none

theorem openLines_append_of_mem {front back : List Str} (hmem : closeLine ∈ front) :
    openLines (front ++ back) = openLines front := by
  unfold openLines
  rw [List.takeWhile_append, if_neg]
  intro hlength
  have hall := List.takeWhile_eq_self_iff.mp
    ((List.takeWhile_prefix _).eq_of_length hlength) closeLine hmem
  simp at hall

theorem openLines_append_of_notMem {front : List Str} (back : List Str)
    (hmem : closeLine ∉ front) :
    openLines (front ++ back) = front ++ openLines back := by
  unfold openLines
  refine List.takeWhile_append_of_pos fun line hline => ?_
  simp only [decide_eq_true_eq]
  rintro rfl
  exact hmem hline

theorem heardTexts_append_of_notMem {front : List Str} (back : List Str)
    (hmem : closeLine ∉ front) :
    heardTexts (front ++ back) = front.filterMap lineText ++ heardTexts back := by
  rw [heardTexts, openLines_append_of_notMem back hmem, List.filterMap_append]
  rfl

theorem closePlace_append_of_notMem {front : List Str} (back : List Str)
    (hmem : closeLine ∉ front) :
    closePlace (front ++ back) =
      (closePlace back).map (front.flatten.length + ·) := by
  unfold closePlace
  by_cases hback : closeLine ∈ back
  · rw [if_pos (List.mem_append_right _ hback), if_pos hback,
      openLines_append_of_notMem back hmem, List.flatten_append, List.length_append]
    rfl
  · have hboth : closeLine ∉ front ++ back := by simp [hmem, hback]
    rw [if_neg hboth, if_neg hback]
    rfl

/-- The place lies in front of the end of the lines with a `CLOSE_CHAT`. -/
theorem closePlace_append_of_mem {front : List Str} (back : List Str)
    (hmem : closeLine ∈ front) :
    ∃ place, closePlace (front ++ back) = some place ∧ place < front.flatten.length := by
  refine ⟨_, if_pos (List.mem_append_left _ hmem), ?_⟩
  rw [openLines_append_of_mem hmem]
  have hsplit : openLines front ++ front.dropWhile (· ≠ closeLine) = front :=
    List.takeWhile_append_dropWhile
  have hrest : closeLine ∈ front.dropWhile (· ≠ closeLine) := by
    rw [← hsplit, List.mem_append] at hmem
    refine hmem.resolve_left fun hopen => ?_
    have hne := List.mem_takeWhile_imp hopen
    simp at hne
  have hlength : closeLine.length ≤
      (front.dropWhile (· ≠ closeLine)).flatten.length :=
    (List.sublist_flatten_of_mem hrest).length_le
  have hword : 0 < closeLine.length := by decide +kernel
  have htotal := congrArg (fun lines => lines.flatten.length) hsplit
  simp only [List.flatten_append, List.length_append] at htotal
  omega

theorem lineText_send {text : Str} (hvalid : chatTextIsValid text = true) :
    lineText (Command.send text).line = some text := by
  have hword : sendMessagePrefix.isPrefixOf (sendMessagePrefix ++ text) = true :=
    List.isPrefixOf_iff_prefix.mpr (List.prefix_append _ _)
  simp only [Command.line, lineText, hword, if_true, List.drop_left, hvalid]

/-- The number of bytes that a line makes the daemon encrypt. -/
def textWeight (line : Str) : ℕ := ((lineText line).map List.length).getD 0

theorem textWeight_le (line : Str) :
    textWeight line = 0 ∨ textWeight line + sendMessagePrefix.length ≤ line.length := by
  unfold textWeight lineText
  by_cases hword : sendMessagePrefix.isPrefixOf line = true
  · right
    have hlength := (List.isPrefixOf_iff_prefix.mp hword).length_le
    simp only [hword, if_true]
    split_ifs
    · simp only [Option.map_some, Option.getD_some, List.length_drop]
      omega
    · simpa using hlength
  · exact Or.inl (by simp [hword])

theorem length_filterMap_lineText (lines : List Str) :
    (lines.filterMap lineText).flatten.length = (lines.map textWeight).sum := by
  induction lines with
  | nil => rfl
  | cons line lines ih =>
      rw [List.filterMap_cons, List.map_cons, List.sum_cons, ← ih, textWeight]
      cases lineText line <;> simp

/-- Pieces of a command encrypt no more than its text, and as much as it only if
the command is whole. -/
theorem pieces_send {text : Str} {lines : List Str} (htext : text ≠ [])
    (hnonempty : ∀ line ∈ lines, line ≠ [])
    (hlines : lines.flatten = (Command.send text).line) :
    (lines.filterMap lineText).flatten.length ≤ text.length ∧
      (text.length ≤ (lines.filterMap lineText).flatten.length →
        lines = [(Command.send text).line]) := by
  have hlength : lines.flatten.length = sendMessagePrefix.length + text.length := by
    rw [hlines, Command.line, List.length_append]
  have hpositive := List.length_pos_iff.mpr htext
  have hword : 0 < sendMessagePrefix.length := by decide +kernel
  have hweight : ∀ line ∈ lines, textWeight line = 0 ∨
      textWeight line + sendMessagePrefix.length ≤ line.length :=
    fun line _ => textWeight_le line
  have hsum := sum_weight_le hweight
  rw [length_filterMap_lineText]
  refine ⟨by omega, fun hall => ?_⟩
  rw [← hlines]
  exact eq_singleton_of_sum hword hnonempty hweight (by omega) (by omega)

/-! ## Commands and their pieces -/

/-- The bytes up to the first `CLOSE_CHAT` command, with it. -/
def heardLength : List Command → ℕ
  | [] => 0
  | .close :: _ => Command.close.render.length
  | .send text :: commands => (Command.send text).render.length + heardLength commands

/-- The reads of a nonempty stream, cut at the end of the first command. -/
theorem exists_first_command {command : Command} {commands : List Command}
    (hsubmitted : command.Submitted) {reads : List Str}
    (hreads : reads.flatten = commandStream (command :: commands)) :
    ∃ front head tail back, reads = front ++ (head ++ newline :: tail) :: back ∧
      (front ++ [head]).flatten = command.line ∧
      (tail :: back).flatten = commandStream commands := by
  refine exists_first_stop hsubmitted.newline_not_mem (hreads.trans ?_)
  simp [commandStream, Command.render]

theorem heardTexts_send {text : Str} (hsubmitted : (Command.send text).Submitted)
    (lines : List Str) :
    heardTexts ((Command.send text).line :: lines) = text :: heardTexts lines := by
  have hline : closeLine ∉ [(Command.send text).line] := by
    simpa using (send_line_ne_closeLine text).symm
  have hfirst := heardTexts_append_of_notMem lines hline
  simpa [lineText_send hsubmitted.valid] using hfirst

theorem closePlace_send (text : Str) (lines : List Str) :
    closePlace ((Command.send text).line :: lines) =
      (closePlace lines).map ((Command.send text).line.length + ·) := by
  have hline : closeLine ∉ [(Command.send text).line] := by
    simpa using (send_line_ne_closeLine text).symm
  have hfirst := closePlace_append_of_notMem lines hline
  simpa using hfirst

theorem closePlace_close (lines : List Str) : closePlace (closeLine :: lines) = some 0 := by
  simp [closePlace, openLines]

theorem heardTexts_close (lines : List Str) : heardTexts (closeLine :: lines) = [] := by
  simp [heardTexts, openLines]

/-- Only a whole `CLOSE_CHAT` at the front closes the chat at once. -/
theorem eq_closeLine_of_closePlace {front back : List Str}
    (hnonempty : ∀ line ∈ front, line ≠ []) (hfront : front.flatten = closeLine)
    (hplace : closePlace (front ++ back) = some 0) : front = [closeLine] := by
  cases front with
  | nil => exact absurd hfront (by decide +kernel)
  | cons line rest =>
      obtain ⟨hline, hrest⟩ := List.forall_mem_cons.mp hnonempty
      have hfirst : line = closeLine := by
        by_contra hother
        have hmem : closeLine ∉ [line] := by simpa using Ne.symm hother
        have hshift := closePlace_append_of_notMem (rest ++ back) hmem
        have hpositive := List.length_pos_iff.mpr hline
        rw [List.singleton_append, ← List.cons_append, hplace] at hshift
        obtain ⟨place, _, hsum⟩ := Option.map_eq_some_iff.mp hshift.symm
        simp only [List.flatten_singleton] at hsum
        omega
      subst hfirst
      rw [List.flatten_cons] at hfront
      have hnil := List.append_right_eq_self.mp hfront
      cases rest with
      | nil => rfl
      | cons other rest =>
          rw [List.flatten_cons, List.append_eq_nil_iff] at hnil
          exact absurd hnil.1 (hrest other (by simp))

/-- Unbroken commands are heard as they were written. -/
theorem heard_of_unbroken {commands : List Command}
    (hsubmitted : ∀ command ∈ commands, command.Submitted) {reads : List Str}
    (hreads : reads.flatten = commandStream commands)
    (hunbroken : Unbroken newline (heardLength commands) reads) :
    heardTexts (readLines reads) = heardTexts (commands.map Command.line) ∧
      closePlace (readLines reads) = closePlace (commands.map Command.line) := by
  induction commands generalizing reads with
  | nil =>
      have hlines : readLines reads = [] := by
        have hempty : reads.flatten = [] := hreads
        rw [readLines_unbroken (by simp [hempty]), pieces_eq_nil hempty]
      rw [hlines]
      exact ⟨rfl, rfl⟩
  | cons command commands ih =>
      obtain ⟨hcommand, hcommands⟩ := List.forall_mem_cons.mp hsubmitted
      obtain ⟨front, head, tail, back, rfl, hline, hrest⟩ :=
        exists_first_command hcommand hreads
      rw [readLines_command hcommand hline, List.map_cons]
      cases command with
      | close =>
          have hlimit : Unbroken newline ((Command.close.line ++ [newline]).length + 0)
              (front ++ (head ++ newline :: tail) :: back) := hunbroken
          have hwhole := (unbroken_line_iff hcommand.newline_not_mem
            (Command.line_ne_nil _) hline).mp hlimit
          rw [hwhole.1]
          exact ⟨(heardTexts_close _).trans (heardTexts_close _).symm,
            (closePlace_close _).trans (closePlace_close _).symm⟩
      | send text =>
          have hwhole := (unbroken_line_iff hcommand.newline_not_mem
            (Command.line_ne_nil _) hline).mp hunbroken
          obtain ⟨htexts, hplace⟩ := ih hcommands hrest hwhole.2
          rw [hwhole.1, List.singleton_append, heardTexts_send hcommand,
            heardTexts_send hcommand, closePlace_send, closePlace_send, htexts, hplace]
          exact ⟨rfl, rfl⟩

/-- While the chat is closed in its place, reads encrypt no more than the commands,
and as much only if they break none. -/
theorem unbroken_of_heard {commands : List Command}
    (hsubmitted : ∀ command ∈ commands, command.Submitted) {reads : List Str}
    (hreads : reads.flatten = commandStream commands)
    (hplace : closePlace (readLines reads) = closePlace (commands.map Command.line)) :
    (heardTexts (readLines reads)).flatten.length ≤
        (heardTexts (commands.map Command.line)).flatten.length ∧
      ((heardTexts (commands.map Command.line)).flatten.length ≤
          (heardTexts (readLines reads)).flatten.length →
        Unbroken newline (heardLength commands) reads) := by
  induction commands generalizing reads with
  | nil =>
      have hlines : readLines reads = [] := by
        have hempty : reads.flatten = [] := hreads
        rw [readLines_unbroken (by simp [hempty]), pieces_eq_nil hempty]
      rw [hlines]
      exact ⟨le_rfl, fun _ => unbroken_zero reads⟩
  | cons command commands ih =>
      obtain ⟨hcommand, hcommands⟩ := List.forall_mem_cons.mp hsubmitted
      obtain ⟨front, head, tail, back, rfl, hline, hrest⟩ :=
        exists_first_command hcommand hreads
      have hnonempty : ∀ line ∈ pieces (front ++ [head]), line ≠ [] :=
        fun _ => ne_nil_of_mem_pieces
      have hpieces : (pieces (front ++ [head])).flatten = command.line :=
        (flatten_pieces _).trans hline
      rw [readLines_command hcommand hline, List.map_cons] at hplace ⊢
      cases command with
      | close =>
          have hwhole : pieces (front ++ [head]) = [closeLine] :=
            eq_closeLine_of_closePlace hnonempty hpieces
              (hplace.trans (closePlace_close _))
          have htexts : heardTexts (closeLine :: readLines (tail :: back)) =
              heardTexts (Command.close.line :: commands.map Command.line) :=
            (heardTexts_close _).trans (heardTexts_close _).symm
          rw [hwhole, List.singleton_append, htexts]
          refine ⟨le_rfl, fun _ => ?_⟩
          exact (unbroken_line_iff hcommand.newline_not_mem
            (Command.line_ne_nil _) hline).mpr ⟨hwhole, unbroken_zero _⟩
      | send text =>
          rw [closePlace_send] at hplace
          have hclose : closeLine ∉ pieces (front ++ [head]) := by
            intro hmem
            obtain ⟨place, hfound, hshort⟩ :=
              closePlace_append_of_mem (readLines (tail :: back)) hmem
            rw [hplace] at hfound
            obtain ⟨_, _, rfl⟩ := Option.map_eq_some_iff.mp hfound
            rw [hpieces] at hshort
            omega
          rw [closePlace_append_of_notMem _ hclose, hpieces] at hplace
          have hplace : closePlace (readLines (tail :: back)) =
              closePlace (commands.map Command.line) :=
            Option.map_injective (fun _ _ heq => Nat.add_left_cancel heq) hplace
          obtain ⟨hless, hunbroken⟩ := ih hcommands hrest hplace
          obtain ⟨hshort, hwhole⟩ := pieces_send hcommand.1.nonempty hnonempty hpieces
          rw [heardTexts_append_of_notMem _ hclose, heardTexts_send hcommand]
          simp only [List.flatten_append, List.flatten_cons, List.length_append]
          refine ⟨by omega, fun hall => ?_⟩
          exact (unbroken_line_iff hcommand.newline_not_mem
            (Command.line_ne_nil _) hline).mpr
              ⟨hwhole (by omega), hunbroken (by omega)⟩

/-! ## The daemon -/

/-- An encrypted session with an attached client. -/
structure ActiveChat (state : ChatdState) : Prop where
  client : state.lookupClientFd ≠ none
  active : state.session.iceActive = true
  encrypts : CanEncrypt state

def encryptedText : Effect → Option Str
  | .encrypted _ _ .message text => some text
  | _ => none

/-- The texts that the daemon has encrypted. -/
def encryptedTexts (state : ChatdState) : List Str := state.log.filterMap encryptedText

variable {sodium : Sodium} {env : Env} {state : ChatdState}

/-- A chat goes on, with some more texts encrypted. -/
structure Continues (texts : List Str) (state next : ChatdState) : Prop where
  active : ActiveChat next
  texts : encryptedTexts next = encryptedTexts state ++ texts

theorem Continues.trans {first second : List Str} {next last : ChatdState}
    (hfirst : Continues first state next) (hsecond : Continues second next last) :
    Continues (first ++ second) state last :=
  ⟨hsecond.active, by rw [hsecond.texts, hfirst.texts, List.append_assoc]⟩

theorem continues_refl (hactive : ActiveChat state) : Continues [] state state :=
  ⟨hactive, (List.append_nil _).symm⟩

theorem encryptedTexts_concat {next : ChatdState} (effect : Effect)
    (hlog : next.log = state.log ++ [effect]) :
    encryptedTexts next = encryptedTexts state ++ (encryptedText effect).toList := by
  rw [encryptedTexts, hlog, List.filterMap_append, List.filterMap_cons]
  cases encryptedText effect <;> rfl

theorem encryptedTexts_sendIcePacket (env : Env) (state : ChatdState)
    (type : ChatPacketType) (payload : List UInt8) :
    encryptedTexts (sendIcePacket env state type payload).1 = encryptedTexts state := by
  rcases sendIcePacket_cases rfl with hcase | hcase | hcase <;> rw [hcase]
  · exact (encryptedTexts_concat (.packetSent _ false) rfl).trans (List.append_nil _)
  · exact (encryptedTexts_concat (.packetSent _ true) rfl).trans (List.append_nil _)

theorem continues_sendIcePacket (env : Env) (hactive : ActiveChat state)
    (type : ChatPacketType) (payload : List UInt8) :
    Continues [] state (sendIcePacket env state type payload).1 := by
  refine ⟨?_, ?_⟩
  · have hencrypts := hactive.encrypts
    rcases sendIcePacket_cases rfl with hcase | hcase | hcase <;> rw [hcase] <;>
      exact ⟨hactive.client, hactive.active,
        ⟨hencrypts.encrypted, hencrypts.secure, hencrypts.push⟩⟩
  · rw [encryptedTexts_sendIcePacket, List.append_nil]

theorem continues_writeIpcLine (env : Env) (hactive : ActiveChat state) (fd : ℕ)
    (line : IpcLine) : Continues [] state (writeIpcLine env state fd line).1 := by
  have hencrypts := hactive.encrypts
  refine ⟨⟨hactive.client, hactive.active,
    ⟨hencrypts.encrypted, hencrypts.secure, hencrypts.push⟩⟩, ?_⟩
  exact encryptedTexts_concat (.ipcLine fd _ line _) rfl

/-- A valid text is encrypted, and any other is refused. -/
theorem continues_sendEncryptedChatMessage (sodium : Sodium) (env : Env)
    (hactive : ActiveChat state) (text : Str) :
    Continues (if chatTextIsValid text then [text] else []) state
      (sendEncryptedChatMessage sodium env state text).1 := by
  have hencrypts := hactive.encrypts
  rcases sendEncryptedChatMessage_cases with
    ⟨hrefused, hinvalid⟩ | ⟨⟨hvalid, _⟩, hpacket⟩
  · rw [hrefused, if_neg fun hvalid => hinvalid ⟨hvalid, hencrypts⟩]
    exact continues_refl hactive
  · have hencrypted : Continues [text] state
        (state.encrypted .message text (advancedStream sodium state text false)) :=
      ⟨⟨hactive.client, hactive.active,
        ⟨hencrypts.encrypted, hencrypts.secure, hencrypts.push⟩⟩,
        encryptedTexts_concat (.encrypted _ _ .message text) rfl⟩
    rw [hpacket, if_pos hvalid]
    exact hencrypted.trans
      (continues_sendIcePacket env hencrypted.active .message _)

theorem continues_serviceCommand (sodium : Sodium) (env : Env)
    (hactive : ActiveChat state) (fd : ℕ) (line : Str) :
    Continues (lineText line).toList state
      (serviceCommand sodium env state fd line) := by
  unfold serviceCommand lineText
  by_cases hword : sendMessagePrefix.isPrefixOf line = true
  · have hsent := continues_sendEncryptedChatMessage sodium env hactive
      (line.drop sendMessagePrefix.length)
    have htexts : (if chatTextIsValid (line.drop sendMessagePrefix.length) then
        some (line.drop sendMessagePrefix.length) else none).toList =
          if chatTextIsValid (line.drop sendMessagePrefix.length) then
            [line.drop sendMessagePrefix.length] else [] := by
      split_ifs <;> rfl
    simp only [hword, if_true]
    rw [htexts]
    rcases houtcome : sendEncryptedChatMessage sodium env state
        (line.drop sendMessagePrefix.length) with ⟨next, _ | _⟩
    · rw [houtcome] at hsent
      have hreport := hsent.trans (continues_writeIpcLine env hsent.active fd
        (.error (bytes "send_failed")))
      rwa [List.append_nil] at hreport
    · rw [houtcome] at hsent
      exact hsent
  · simp only [hword, Bool.false_eq_true, if_false]
    exact continues_writeIpcLine env hactive fd _

/-- The chat is over, with no other text encrypted. -/
theorem closeChatByClient_spec (sodium : Sodium) (env : Env) (state : ChatdState) :
    (closeChatByClient sodium env state).lookupClientFd = none ∧
      encryptedTexts (closeChatByClient sodium env state) = encryptedTexts state := by
  refine ⟨rfl, ?_⟩
  have hclosed : ∀ next : ChatdState, encryptedTexts
      ((resetIceSession (closeLookupClient next)).setSessionState .closed) =
        encryptedTexts next := by
    intro next
    have hlog : ((resetIceSession (closeLookupClient next)).setSessionState .closed).log =
        next.log ++ next.lookupClientFd.toList.map Effect.ipcClosed := rfl
    rw [encryptedTexts, hlog, List.filterMap_append]
    cases next.lookupClientFd <;> simp [encryptedTexts, encryptedText]
  rw [closeChatByClient, hclosed, sendEncryptedChatClose, sendEncryptedChatPayload]
  split_ifs
  · rfl
  · split
    · rfl
    · rw [encryptedTexts_sendIcePacket]
      exact (encryptedTexts_concat (.encrypted _ _ .close []) rfl).trans
        (List.append_nil _)

/-- The lines up to the first `CLOSE_CHAT` are served, and it ends the chat. -/
theorem serviceCommands_spec (sodium : Sodium) (env : Env) (lines : List Str)
    (hactive : ActiveChat state) :
    let next := serviceCommands sodium env lines state
    encryptedTexts next = encryptedTexts state ++ heardTexts lines ∧
      if closeLine ∈ lines then next.lookupClientFd = none else ActiveChat next := by
  induction lines generalizing state with
  | nil => exact ⟨(List.append_nil _).symm, by simpa [serviceCommands] using hactive⟩
  | cons line lines ih =>
      obtain ⟨fd, hclient⟩ := Option.ne_none_iff_exists'.mp hactive.client
      simp only [serviceCommands, hclient, hactive.active, Bool.true_eq_false, if_false]
      rw [← closeLine]
      by_cases hclose : line = closeLine
      · obtain ⟨hdetached, htexts⟩ := closeChatByClient_spec sodium env state
        rw [if_pos hclose, htexts, hclose, heardTexts_close, List.append_nil,
          if_pos (by simp)]
        exact ⟨rfl, hdetached⟩
      · have hmem : closeLine ∉ [line] := by simpa using Ne.symm hclose
        have hserved := continues_serviceCommand sodium env hactive fd line
        obtain ⟨htexts, hnext⟩ := ih hserved.active
        have hheard : heardTexts (line :: lines) =
            (lineText line).toList ++ heardTexts lines := by
          have hfirst := heardTexts_append_of_notMem lines hmem
          rw [List.singleton_append] at hfirst
          rw [hfirst, List.filterMap_cons]
          cases lineText line <;> rfl
        have hrest : closeLine ∈ line :: lines ↔ closeLine ∈ lines := by
          simp only [List.mem_singleton] at hmem
          simp [hmem]
        rw [if_neg hclose, htexts, hserved.texts, hheard, List.append_assoc]
        simp only [hrest]
        exact ⟨trivial, hnext⟩

/-! ## Reads -/

/-- One read by the daemon: the outcomes of its calls and what it returns. -/
abbrev CommandRead := Env × Str

/-- The daemon serves successive reads. -/
def serviceReads (sodium : Sodium) (state : ChatdState) (reads : List CommandRead) :
    ChatdState :=
  reads.foldl (fun state read => serviceActiveChatClient sodium read.1 state (.data read.2))
    state

/-- The point at which the chat is closed: the bytes of the command lines in front
of the line that closes it. -/
def closePoint (sodium : Sodium) : ChatdState → List CommandRead → Option ℕ
  | _, [] => none
  | state, (env, input) :: reads =>
      let next := serviceActiveChatClient sodium env state (.data input)
      if next.lookupClientFd = none then
        some (openLines (commandLines input)).flatten.length
      else
        (closePoint sodium next reads).map ((commandLines input).flatten.length + ·)

/-- What a read returns of a stream of commands. -/
structure ReadOf (input : Str) : Prop where
  nonempty : input ≠ []
  short : input.length ≤ chatIpcMaxCommand - 1
  nonzero : ∀ byte ∈ input, byte ≠ 0

theorem serviceActiveChatClient_read (sodium : Sodium) (env : Env)
    (hactive : ActiveChat state) {input : Str} (hread : ReadOf input) :
    serviceActiveChatClient sodium env state (.data input) =
      serviceCommands sodium env (commandLines input) state := by
  obtain ⟨byte, rest, rfl⟩ := List.exists_cons_of_ne_nil hread.nonempty
  unfold serviceActiveChatClient
  rw [if_neg (by simp [hactive.client, hactive.encrypts.encrypted])]
  simp only [List.take_of_length_le hread.short, cString_of_ne_zero hread.nonzero]

theorem serviceReads_detached (sodium : Sodium) (hdetached : state.lookupClientFd = none)
    (reads : List CommandRead) : serviceReads sodium state reads = state := by
  induction reads with
  | nil => rfl
  | cons read reads ih =>
      have hskip : serviceActiveChatClient sodium read.1 state (.data read.2) = state := by
        unfold serviceActiveChatClient
        rw [if_pos (Or.inl hdetached)]
      rw [serviceReads, List.foldl_cons, hskip]
      exact ih

/-- Successive reads are served like the list of all their lines. -/
theorem serviceReads_spec (sodium : Sodium) {reads : List CommandRead}
    (hreads : ∀ read ∈ reads, ReadOf read.2) (hactive : ActiveChat state) :
    encryptedTexts (serviceReads sodium state reads) =
        encryptedTexts state ++ heardTexts (readLines (reads.map Prod.snd)) ∧
      closePoint sodium state reads = closePlace (readLines (reads.map Prod.snd)) := by
  induction reads generalizing state with
  | nil => exact ⟨(List.append_nil _).symm, rfl⟩
  | cons read reads ih =>
      obtain ⟨env, input⟩ := read
      obtain ⟨hread, hreads⟩ := List.forall_mem_cons.mp hreads
      have hserved := serviceActiveChatClient_read sodium env hactive hread
      obtain ⟨htexts, hnext⟩ :=
        serviceCommands_spec sodium env (commandLines input) hactive
      rw [← hserved] at htexts hnext
      have hlines : readLines (((env, input) :: reads).map Prod.snd) =
          commandLines input ++ readLines (reads.map Prod.snd) := rfl
      rw [serviceReads, List.foldl_cons, ← serviceReads, closePoint, hlines]
      by_cases hclose : closeLine ∈ commandLines input
      · rw [if_pos hclose] at hnext
        rw [serviceReads_detached sodium hnext, htexts]
        simp only [hnext, if_true]
        rw [closePlace, if_pos (List.mem_append_left _ hclose), heardTexts, heardTexts,
          openLines_append_of_mem hclose]
        exact ⟨rfl, rfl⟩
      · rw [if_neg hclose] at hnext
        obtain ⟨hrestTexts, hrestPoint⟩ := ih hreads hnext
        have hall : heardTexts (commandLines input) =
            (commandLines input).filterMap lineText := by
          have hempty := heardTexts_append_of_notMem [] hclose
          simpa [heardTexts, openLines] using hempty
        simp only [hnext.client, if_false]
        rw [hrestTexts, hrestPoint, htexts, hall, heardTexts_append_of_notMem _ hclose,
          closePlace_append_of_notMem _ hclose, List.append_assoc]
        exact ⟨rfl, rfl⟩

theorem readOf_of_stream {commands : List Command}
    (hsubmitted : ∀ command ∈ commands, command.Submitted) {inputs : List Str}
    (hstream : inputs.flatten = commandStream commands) {input : Str}
    (hmem : input ∈ inputs) (hnonempty : input ≠ [])
    (hshort : input.length ≤ chatIpcMaxCommand - 1) : ReadOf input where
  nonempty := hnonempty
  short := hshort
  nonzero := by
    intro byte hbyte
    have hall : byte ∈ commandStream commands :=
      hstream ▸ List.mem_flatten_of_mem hmem hbyte
    obtain ⟨command, hcommand, hrender⟩ := List.mem_flatMap.mp hall
    rcases List.mem_append.mp hrender with hline | hend
    · exact ((hsubmitted command hcommand).unbroken byte hline).2
    · rw [List.mem_singleton.mp hend]
      decide

theorem Command.Submitted.length_render {command : Command}
    (hsubmitted : command.Submitted) :
    command.render.length ≤ chatIpcMaxCommand - 1 := by
  cases command with
  | send text =>
      have hlength := ((chatTextIsValid_iff text).mp hsubmitted.valid).2.1
      have hword : sendMessagePrefix.length = 13 := by decide +kernel
      have hmax : chatdChatTextMax = 4081 := rfl
      have hcommand : chatIpcMaxCommand = 4096 := rfl
      rw [Command.render, Command.line, List.length_append, List.length_append, hword,
        List.length_singleton]
      omega
  | close => decide +kernel

/-- However the stream of commands is split into reads, the texts encrypted and the
point at which the chat is closed are those of one read for each command exactly
when no read ends inside one of the commands up to the first `CLOSE_CHAT`; the
newline may be cut off. -/
theorem commands_split_iff (sodium : Sodium) (hactive : ActiveChat state)
    {commands : List Command} (hsubmitted : ∀ command ∈ commands, command.Submitted)
    {reads single : List CommandRead}
    (hbounds : ∀ read ∈ reads,
      read.2 ≠ [] ∧ read.2.length ≤ chatIpcMaxCommand - 1)
    (hstream : (reads.map Prod.snd).flatten = commandStream commands)
    (hsingle : single.map Prod.snd = commands.map Command.render) :
    (encryptedTexts (serviceReads sodium state reads) =
        encryptedTexts (serviceReads sodium state single) ∧
      closePoint sodium state reads = closePoint sodium state single) ↔
        Unbroken newline (heardLength commands) (reads.map Prod.snd) := by
  have hreads : ∀ read ∈ reads, ReadOf read.2 := fun read hmem =>
    readOf_of_stream hsubmitted hstream (List.mem_map_of_mem hmem)
      (hbounds read hmem).1 (hbounds read hmem).2
  have hwhole : ∀ read ∈ single, ReadOf read.2 := by
    intro read hmem
    have hrender : read.2 ∈ commands.map Command.render :=
      hsingle ▸ List.mem_map_of_mem hmem
    obtain ⟨command, hcommand, hshape⟩ := List.mem_map.mp hrender
    refine readOf_of_stream hsubmitted rfl hrender ?_ ?_
    · rw [← hshape]
      exact List.append_ne_nil_of_right_ne_nil _ (List.cons_ne_nil _ _)
    · rw [← hshape]
      exact (hsubmitted command hcommand).length_render
  obtain ⟨htexts, hpoint⟩ := serviceReads_spec sodium hreads hactive
  obtain ⟨htextsSingle, hpointSingle⟩ := serviceReads_spec sodium hwhole hactive
  rw [hsingle, readLines_renders hsubmitted] at htextsSingle hpointSingle
  rw [htexts, hpoint, htextsSingle, hpointSingle, List.append_right_inj]
  constructor
  · rintro ⟨hheard, hplace⟩
    exact (unbroken_of_heard hsubmitted hstream hplace).2 (by rw [hheard])
  · exact heard_of_unbroken hsubmitted hstream

/-! ## Two streams -/

theorem activeChat_secureWith (own : ChatIdentity) (peer : Str) :
    ActiveChat (secureWith own peer) where
  client := nofun
  active := rfl
  encrypts := ⟨rfl, Or.inl rfl, rfl⟩

/-- A read that ends inside a text makes the daemon encrypt its beginning only, and
one that ends inside `CLOSE_CHAT` leaves the chat open. -/
theorem split_commands_differ :
    let env := Env.smooth 1 1
    let state := secureWith alice bob.username
    let texts := [(env, bytes "SEND_MESSAGE hel"), (env, bytes "lo\n")]
    let ends := [(env, bytes "CLOSE_"), (env, bytes "CHAT\n")]
    (texts.map Prod.snd).flatten = commandStream [.send (bytes "hello")] ∧
      encryptedTexts (serviceReads Transparent.sodium state texts) = [bytes "hel"] ∧
      encryptedTexts (serviceReads Transparent.sodium state
        [(env, (Command.send (bytes "hello")).render)]) = [bytes "hello"] ∧
      (ends.map Prod.snd).flatten = commandStream [.close] ∧
      closePoint Transparent.sodium state ends = none ∧
      closePoint Transparent.sodium state [(env, Command.close.render)] = some 0 := by
  decide +kernel

/-- Two commands that arrive together are heard as in two reads. -/
theorem commands_split_iff_together :
    let env := Env.smooth 1 1
    let state := secureWith alice bob.username
    let together := [(env, bytes "SEND_MESSAGE hello\nCLOSE_CHAT\n")]
    let single := [(env, bytes "SEND_MESSAGE hello\n"), (env, bytes "CLOSE_CHAT\n")]
    encryptedTexts (serviceReads Transparent.sodium state together) =
        encryptedTexts (serviceReads Transparent.sodium state single) ∧
      closePoint Transparent.sodium state together =
        closePoint Transparent.sodium state single := by
  intro env state together single
  have htyped : Typed (bytes "hello") := ⟨by decide +kernel, by decide +kernel⟩
  have hsubmitted : ∀ command ∈ [Command.send (bytes "hello"), .close],
      command.Submitted := by
    simp only [List.forall_mem_cons, Command.Submitted]
    exact ⟨⟨htyped, by decide +kernel⟩, trivial, nofun⟩
  have hbounds : ∀ read ∈ together,
      read.2 ≠ [] ∧ read.2.length ≤ chatIpcMaxCommand - 1 := by
    decide +kernel
  have hstream : (together.map Prod.snd).flatten =
      commandStream [.send (bytes "hello"), .close] := by
    decide +kernel
  have hsingle : single.map Prod.snd =
      [Command.send (bytes "hello"), .close].map Command.render := by
    decide +kernel
  have hlength : heardLength [.send (bytes "hello"), .close] ≤
      (together.map Prod.snd).flatten.length := by
    decide +kernel
  refine (commands_split_iff Transparent.sodium (activeChat_secureWith alice bob.username)
    hsubmitted hbounds hstream hsingle).mpr ?_
  intro front back hshape hlimit
  rcases List.cons_eq_append_iff.mp hshape with ⟨rfl, _⟩ | ⟨rest, rfl, hrest⟩
  · exact Or.inl rfl
  · obtain ⟨rfl, rfl⟩ := List.append_eq_nil_iff.mp hrest.symm
    exact absurd hlimit (Nat.not_lt.mpr hlength)

end ProntoChat.Client
