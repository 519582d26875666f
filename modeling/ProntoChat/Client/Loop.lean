import ProntoChat.Core.Chunks
import ProntoChat.Client.Chat

/-!
# Lines that the client reads

`chat <username>` takes what one read returns for one event and looks at its
beginning only.  All messages are shown, and the line that ends the chat is seen,
exactly when every line begins with a read and that read holds enough of it.
-/

namespace ProntoChat.Client

open ProntoChat.QuotedText
open ProntoChat.Protocole
open ProntoChat.Contacts
open ProntoChat.Daemon
open ProntoChat.Chunks

/-! ## The client -/

inductive ChatExit where
  | success
  | genericError
  | userOffline
  | connectionFailed
  | identityMismatch
  | daemonUnavailable
  deriving DecidableEq

/-- What the client prints. -/
inductive Printed where
  | noResponse
  | offline
  | notEstablished
  | connected (relayed : Bool)
  | notEncrypted
  | identityChanged
  | unexpectedResponse
  | message (name text : Str)
  | chatClosed
  | chatClosedByPeer
  | response (text : Str)
  deriving DecidableEq

inductive CliPhase where
  /-- `command_open_chat` waits for the answer to `OPEN_CHAT`. -/
  | opening
  /-- `run_chat_loop`. -/
  | chatting
  | exited (code : ChatExit)
  deriving DecidableEq

/-- `network_mode_label`, whether the label is that of a relay. -/
def networkModeLabel (response : Str) : Bool :=
  ((scanToken 31 response).bind fun (_, rest) =>
    (scanToken 32 rest).bind fun (_, rest) => scanToken 15 rest).any fun (mode, _) =>
      mode = bytes "relay"

def beginsWith (word : String) (response : Str) : Bool := (bytes word).isPrefixOf response

/-- What `command_open_chat` makes of its one response. -/
def commandOpenChat (response : Str) : CliPhase × List Printed :=
  if beginsWith "USER_OFFLINE " response then (.exited .userOffline, [.offline])
  else if beginsWith "USER_ONLINE " response then
    (.exited .connectionFailed, [.notEstablished])
  else if beginsWith "ENCRYPTED_SESSION " response then
    (.chatting, [.connected (networkModeLabel response)])
  else if beginsWith "ICE_CONNECTED " response then
    (.exited .connectionFailed, [.notEncrypted])
  else if beginsWith "ICE_FAILED " response then
    (.exited .connectionFailed, [.notEstablished])
  else if beginsWith "IDENTITY_MISMATCH " response then
    (.exited .identityMismatch, [.identityChanged])
  else if beginsWith "ERROR " response then
    (.exited .genericError, [.response response])
  else (.exited .genericError, [.unexpectedResponse])

/-- What `run_chat_loop` makes of a response. -/
def runChatLoop (response : Str) : CliPhase × List Printed :=
  if beginsWith "MESSAGE " response then
    (.chatting, (shownMessage response).toList.map fun shown =>
      .message shown.1 shown.2)
  else if beginsWith "CHAT_CLOSED " response then
    (.exited .success, [.chatClosedByPeer])
  else if beginsWith "ERROR " response then
    (.exited .genericError, [.response response])
  else (.chatting, [])

structure CliState where
  phase : CliPhase := .opening
  printed : List Printed := []
  deriving DecidableEq

/-- One read from the daemon; no bytes stand for the end of the stream. -/
def CliState.read (state : CliState) (input : Str) : CliState :=
  let served : CliPhase × List Printed :=
    match state.phase with
    | .opening =>
        if input = [] then (.exited .daemonUnavailable, [.noResponse])
        else commandOpenChat (readResponse input)
    | .chatting =>
        if input = [] then (.exited .success, [.chatClosed])
        else runChatLoop (readResponse input)
    | .exited code => (.exited code, [])
  ⟨served.1, state.printed ++ served.2⟩

def CliState.readAll (state : CliState) (reads : List Str) : CliState :=
  reads.foldl CliState.read state

def CliPhase.over : CliPhase → Bool
  | .exited _ => true
  | _ => false

/-- The number of bytes in front of the read at which the client exits. -/
def exitPoint : CliState → List Str → Option ℕ
  | _, [] => none
  | state, input :: reads =>
      let next := state.read input
      if next.phase.over then some 0
      else (exitPoint next reads).map (input.length + ·)

/-- The names and texts of the messages shown so far. -/
def CliState.messages (state : CliState) : List (Str × Str) :=
  state.printed.filterMap fun
    | .message name text => some (name, text)
    | _ => none

/-! ## The stream -/

/-- A line of the daemon behind which it writes no other. -/
inductive FinalLine where
  | chatClosed
  | error (code : Str)

def FinalLine.line (peer : Str) : FinalLine → IpcLine
  | .chatClosed => .chatClosed peer
  | .error code => .error code

def FinalLine.word : FinalLine → Str
  | .chatClosed => bytes "CHAT_CLOSED "
  | .error _ => bytes "ERROR "

def messageLine (peer text : Str) : Str := (IpcLine.message peer text).render

def sessionLine (peer : Str) (relayed : Bool) : Str :=
  (IpcLine.encryptedSession peer relayed).render

def finalText (peer : Str) (final : Option FinalLine) : Str :=
  final.elim [] fun line => (line.line peer).render

/-- The messages and the final line. -/
def messageStream (peer : Str) (final : Option FinalLine) (texts : List Str) : Str :=
  texts.flatMap (messageLine peer) ++ finalText peer final

/-- The client goes on without a final line, and otherwise says that the peer closed
the chat or shows the error, and exits. -/
def CliState.ReactsTo (state : CliState) : Option FinalLine → Prop
  | none => state.phase = .chatting
  | some .chatClosed => state.phase = .exited .success ∧
      state.printed.getLast? = some .chatClosedByPeer
  | some (.error code) => state.phase = .exited .genericError ∧
      ∃ response, response <+: (IpcLine.error code).render ∧
        state.printed.getLast? = some (.response response)

/-- The client shows every message once and in order, and reacts to the final line
where it begins. -/
structure ShowsAll (peer : Str) (relayed : Bool) (texts : List Str)
    (final : Option FinalLine) (reads : List Str) : Prop where
  messages : (CliState.readAll {} reads).messages = texts.map (peer, ·)
  reacts : (CliState.readAll {} reads).ReactsTo final
  point : exitPoint {} reads = final.map fun _ =>
    (sessionLine peer relayed ++ texts.flatMap (messageLine peer)).length

/-- A response that ends the chat. -/
def stops (response : Str) : Bool :=
  beginsWith "CHAT_CLOSED " response || beginsWith "ERROR " response

/-- Every line begins with a read, which holds a message up to its newline, and of
the final line its word. -/
def MessagesApart (peer : Str) (final : Option FinalLine) : List Str → List Str → Prop
  | [], reads =>
      match final with
      | none => reads = []
      | some line => ∃ first others, reads = first :: others ∧
          line.word.length ≤ first.length
  | text :: texts, reads =>
      ∃ first others rest, reads = first :: others ++ rest ∧
        (first :: others).flatten = messageLine peer text ∧
        (messageLine peer text).length ≤ first.length + 1 ∧
        MessagesApart peer final texts rest

/-- The first read holds the word `ENCRYPTED_SESSION`, the others of its line do not
look like the end of the chat, and the lines behind it are read apart. -/
def LinesApart (peer : Str) (relayed : Bool) (texts : List Str)
    (final : Option FinalLine) (reads : List Str) : Prop :=
  ∃ first others rest, reads = first :: others ++ rest ∧
    (first :: others).flatten = sessionLine peer relayed ∧ 18 ≤ first.length ∧
    (∀ read ∈ others, stops read = false) ∧ MessagesApart peer final texts rest

theorem head_of_beginsWith {word : String} {byte : UInt8} {read : Str}
    (hhead : (bytes word).head? = some byte) (hword : beginsWith word read = true) :
    read.head? = some byte := by
  obtain ⟨rest, rfl⟩ := List.isPrefixOf_iff_prefix.mp hword
  have hnonempty : bytes word ≠ [] := by
    rintro hnil
    simp [hnil] at hhead
  rw [List.head?_append_of_ne_nil _ hnonempty, hhead]

theorem head_of_stops {read : Str} (hstops : stops read = true) :
    read.head? = some 67 ∨ read.head? = some 69 := by
  have hheads : (bytes "CHAT_CLOSED ").head? = some 67 ∧
      (bytes "ERROR ").head? = some 69 := by
    decide +kernel
  rw [stops, Bool.or_eq_true] at hstops
  rcases hstops with hword | hword
  · exact Or.inl (head_of_beginsWith hheads.1 hword)
  · exact Or.inr (head_of_beginsWith hheads.2 hword)

/-! ## Messages in a read -/

theorem shownMessage_of {name : Str} (hname : 32 ∉ name) (rest : Str) :
    shownMessage (bytes "MESSAGE " ++ (name ++ 32 :: rest)) =
      some (name, rest.takeWhile fun byte => !isLineBreak byte) := by
  have hword : (bytes "MESSAGE ").isPrefixOf
      (bytes "MESSAGE " ++ (name ++ 32 :: rest)) = true :=
    List.isPrefixOf_iff_prefix.mpr (List.prefix_append _ _)
  have hdrop : (bytes "MESSAGE " ++ (name ++ 32 :: rest)).drop 8 = name ++ 32 :: rest :=
    List.drop_left' (by decide +kernel)
  have hnonblank : ∀ byte ∈ name, (byte != 32) = true := by
    intro byte hbyte
    simp only [bne_iff_ne]
    rintro rfl
    exact hname hbyte
  rw [shownMessage, if_pos hword]
  simp only [hdrop, List.dropWhile_append_of_pos hnonblank,
    List.takeWhile_append_of_pos hnonblank, List.dropWhile_cons, List.takeWhile_cons,
    bne_self_eq_false, Bool.false_eq_true, if_false, List.append_nil]

theorem shownMessage_eq_some {response name text : Str}
    (hshown : shownMessage response = some (name, text)) :
    ∃ rest, response = bytes "MESSAGE " ++ (name ++ 32 :: rest) ∧ 32 ∉ name ∧
      text = rest.takeWhile fun byte => !isLineBreak byte := by
  unfold shownMessage at hshown
  split_ifs at hshown with hword
  obtain ⟨rest, rfl⟩ := List.isPrefixOf_iff_prefix.mp hword
  have hdrop : (bytes "MESSAGE " ++ rest).drop 8 = rest :=
    List.drop_left' (by decide +kernel)
  rw [hdrop] at hshown
  simp only at hshown
  split at hshown
  · exact nomatch hshown
  · rename_i byte found hrest
    obtain ⟨rfl, rfl⟩ := Prod.mk.inj (Option.some.inj hshown)
    have hblank : byte = 32 := by
      have hhead := List.head?_dropWhile_not (· != 32) rest
      rw [hrest] at hhead
      simpa using hhead
    subst hblank
    refine ⟨found, ?_, ?_, rfl⟩
    · rw [← hrest, List.takeWhile_append_dropWhile]
    · intro hmem
      have hne := List.mem_takeWhile_imp hmem
      simp at hne

/-- A message has two blanks in front of its text. -/
theorem two_le_count_blank {response : Str} {shown : Str × Str}
    (hshown : shownMessage response = some shown) : 2 ≤ response.count 32 := by
  obtain ⟨rest, rfl, _, _⟩ := shownMessage_eq_some hshown
  have hword : (bytes "MESSAGE ").count 32 = 1 := by decide +kernel
  rw [List.count_append, List.count_append, List.count_cons_self, hword]
  omega

/-- What is shown of a read is shown of its first line, unless the name runs over
the end of that line. -/
theorem shownMessage_first_line {head tail name text : Str}
    (hhead : ∀ byte ∈ head, isLineBreak byte = false) (hname : newline ∉ name) :
    shownMessage (head ++ newline :: tail) = some (name, text) ↔
      shownMessage head = some (name, text) := by
  have htext : ∀ rest : Str, (∀ byte ∈ rest, isLineBreak byte = false) →
      (rest.takeWhile fun byte => !isLineBreak byte) = rest ∧
        ((rest ++ newline :: tail).takeWhile fun byte => !isLineBreak byte) = rest := by
    intro rest hrest
    have hplain : ∀ byte ∈ rest, (!isLineBreak byte) = true :=
      fun byte hbyte => by simp [hrest byte hbyte]
    have hstop : (!isLineBreak newline) = false := by decide
    refine ⟨List.takeWhile_eq_self_iff.mpr hplain, ?_⟩
    rw [List.takeWhile_append_of_pos hplain, List.takeWhile_cons, hstop]
    simp
  constructor
  · intro hshown
    obtain ⟨rest, hshape, hblank, rfl⟩ := shownMessage_eq_some hshown
    have hwords : newline ∉ bytes "MESSAGE " ++ name ++ [32] := by
      have hword : newline ∉ bytes "MESSAGE " := by decide +kernel
      simp only [List.mem_append, List.mem_singleton, not_or]
      exact ⟨⟨hword, hname⟩, by decide⟩
    have hsplit : head ++ newline :: tail = (bytes "MESSAGE " ++ name ++ [32]) ++ rest := by
      simp [hshape]
    rcases List.append_eq_append_iff.mp hsplit with
      ⟨middle, hmiddle, hrest⟩ | ⟨middle, rfl, rfl⟩
    · cases middle with
      | nil =>
          obtain rfl : rest = newline :: tail := hrest.symm
          rw [List.append_nil] at hmiddle
          have hshape : head = bytes "MESSAGE " ++ (name ++ 32 :: []) := by
            simp [← hmiddle]
          rw [hshape, shownMessage_of hblank]
          exact congrArg (fun found => some (name, found)) (htext [] nofun).2.symm
      | cons byte middle =>
          obtain ⟨rfl, _⟩ := List.cons.inj hrest
          refine absurd ?_ hwords
          rw [hmiddle]
          exact List.mem_append_right _ List.mem_cons_self
    · obtain ⟨halone, hline⟩ := htext middle fun byte hbyte =>
        hhead byte (List.mem_append_right _ hbyte)
      have hshape : bytes "MESSAGE " ++ name ++ [32] ++ middle =
          bytes "MESSAGE " ++ (name ++ 32 :: middle) := by simp
      rw [hshape, shownMessage_of hblank, halone, hline]
  · intro hshown
    obtain ⟨rest, rfl, hblank, rfl⟩ := shownMessage_eq_some hshown
    obtain ⟨halone, hline⟩ := htext rest fun byte hbyte =>
      hhead byte (by simp [hbyte])
    have hshape : bytes "MESSAGE " ++ (name ++ 32 :: rest) ++ newline :: tail =
        bytes "MESSAGE " ++ (name ++ 32 :: (rest ++ newline :: tail)) := by simp
    rw [hshape, shownMessage_of hblank, halone, hline]

/-- The length of the text that is shown, counted so that no text is worthless. -/
def shownWeight (read : Str) : ℕ :=
  ((shownMessage read).map fun shown => shown.2.length + 1).getD 0

theorem shownWeight_le {peer read : Str}
    (hname : ∀ shown, shownMessage read = some shown → shown.1 = peer) :
    shownWeight read = 0 ∨ shownWeight read + (8 + peer.length) ≤ read.length := by
  unfold shownWeight
  cases hshown : shownMessage read with
  | none => exact Or.inl rfl
  | some shown =>
      obtain ⟨name, text⟩ := shown
      obtain rfl : name = peer := hname _ hshown
      obtain ⟨rest, rfl, _, rfl⟩ := shownMessage_eq_some hshown
      have hword : (bytes "MESSAGE ").length = 8 := by decide +kernel
      have htext := (List.takeWhile_prefix (l := rest) fun byte =>
        !isLineBreak byte).length_le
      right
      simp only [Option.map_some, Option.getD_some, List.length_append,
        List.length_cons, hword]
      omega

/-! ## Reads of the chat loop -/

/-- The messages of successive reads, up to the end of the chat. -/
def heardMessages : List Str → List (Str × Str)
  | [] => []
  | read :: reads =>
      if stops read then [] else (shownMessage read).toList ++ heardMessages reads

/-- The number of bytes in front of the read that ends the chat. -/
def stopPoint : List Str → Option ℕ
  | [] => none
  | read :: reads =>
      if stops read then some 0 else (stopPoint reads).map (read.length + ·)

theorem heardMessages_append {front : List Str} (hfront : ∀ read ∈ front, stops read = false)
    (rest : List Str) :
    heardMessages (front ++ rest) = front.filterMap shownMessage ++ heardMessages rest := by
  induction front with
  | nil => rfl
  | cons read front ih =>
      obtain ⟨hread, hfront⟩ := List.forall_mem_cons.mp hfront
      rw [List.cons_append, heardMessages, hread, if_neg (by decide), ih hfront,
        List.filterMap_cons]
      cases shownMessage read <;> simp

theorem stopPoint_append {front : List Str} (hfront : ∀ read ∈ front, stops read = false)
    (rest : List Str) :
    stopPoint (front ++ rest) = (stopPoint rest).map (front.flatten.length + ·) := by
  induction front with
  | nil => simp
  | cons read front ih =>
      obtain ⟨hread, hfront⟩ := List.forall_mem_cons.mp hfront
      rw [List.cons_append, stopPoint, hread, if_neg (by decide), ih hfront,
        Option.map_map, List.flatten_cons, List.length_append]
      simp only [Function.comp_def, Nat.add_assoc]

/-- No read ends the chat that begins in front of the one that does. -/
theorem not_stops_of_stopPoint {front rest : List Str} {read : Str}
    (hpoint : ∀ point, stopPoint (front ++ read :: rest) = some point →
      front.flatten.length < point) :
    ∀ other ∈ front ++ [read], stops other = false := by
  induction front with
  | nil =>
      intro other hother
      obtain rfl : other = read := by simpa using hother
      by_contra hstops
      rw [Bool.not_eq_false] at hstops
      have hzero := hpoint 0 (by rw [List.nil_append, stopPoint, if_pos hstops])
      exact absurd hzero (Nat.not_lt_zero _)
  | cons first front ih =>
      have hfirst : stops first = false := by
        by_contra hstops
        rw [Bool.not_eq_false] at hstops
        have hzero := hpoint 0 (by rw [List.cons_append, stopPoint, if_pos hstops])
        exact absurd hzero (Nat.not_lt_zero _)
      refine List.forall_mem_cons.mpr ⟨hfirst, ih fun point hrest => ?_⟩
      have hshift := hpoint (first.length + point) (by
        rw [List.cons_append, stopPoint, hfirst, if_neg (by decide), hrest]
        rfl)
      rw [List.flatten_cons, List.length_append] at hshift
      omega

section Stream

variable {peer : Str} {final : Option FinalLine}

/-- A message without its newline. -/
def messageBody (peer text : Str) : Str := messageHead peer ++ text

theorem messageLine_eq (peer text : Str) :
    messageLine peer text = messageBody peer text ++ [newline] := by
  simp [messageLine, messageBody, messageHead, IpcLine.render]

theorem length_messageBody (peer text : Str) :
    (messageBody peer text).length = 8 + peer.length + 1 + text.length := by
  rw [messageBody, List.length_append, length_messageHead]

theorem unbroken_of_username (hpeer : chatUsernameIsValid peer = true) :
    ∀ byte ∈ peer, isLineBreak byte = false ∧ byte ≠ 0 ∧ byte ≠ 32 := by
  intro byte hbyte
  obtain ⟨hspace, hzero, _⟩ := username_not_space hpeer byte hbyte
  simp only [isSpace, Bool.or_eq_false_iff, beq_eq_false_iff_ne] at hspace
  refine ⟨?_, hzero, hspace.1⟩
  by_contra hbreak
  have hfeed : byte = 10 ∨ byte = 13 := by
    simpa [isLineBreak, or_iff_not_imp_left] using hbreak
  have hrange := hspace.2
  rcases hfeed with rfl | rfl <;> exact absurd hrange (by decide)

theorem newline_not_mem_of_unbroken {text : Str}
    (htext : ∀ byte ∈ text, isLineBreak byte = false) : newline ∉ text :=
  fun hmem => absurd (htext newline hmem) (by decide)

theorem messageBody_plain (hpeer : chatUsernameIsValid peer = true) {text : Str}
    (htext : ∀ byte ∈ text, isLineBreak byte = false ∧ byte ≠ 0) :
    ∀ byte ∈ messageBody peer text, isLineBreak byte = false ∧ byte ≠ 0 := by
  have hwords : ∀ byte ∈ bytes "MESSAGE " ++ bytes " ",
      isLineBreak byte = false ∧ byte ≠ 0 := by
    decide +kernel
  obtain ⟨hword, hblank⟩ := List.forall_mem_append.mp hwords
  refine List.forall_mem_append.mpr ⟨List.forall_mem_append.mpr
    ⟨List.forall_mem_append.mpr ⟨hword, fun byte hbyte => ?_⟩, hblank⟩, htext⟩
  obtain ⟨hbreak, hzero, _⟩ := unbroken_of_username hpeer byte hbyte
  exact ⟨hbreak, hzero⟩

theorem shownMessage_body (hpeer : chatUsernameIsValid peer = true) {text : Str}
    (htext : ∀ byte ∈ text, isLineBreak byte = false) :
    shownMessage (messageBody peer text) = some (peer, text) := by
  have hshape : messageBody peer text = bytes "MESSAGE " ++ (peer ++ 32 :: text) := by
    simp [messageBody, messageHead, bytes]
  have hblank : 32 ∉ peer := fun hmem => (unbroken_of_username hpeer 32 hmem).2.2 rfl
  have hplain : ∀ byte ∈ text, (!isLineBreak byte) = true :=
    fun byte hbyte => by simp [htext byte hbyte]
  rw [hshape, shownMessage_of hblank, List.takeWhile_eq_self_iff.mpr hplain]

/-! ## Shown messages are read apart -/

/-- The weight of a list of messages. -/
def heardWeight (messages : List (Str × Str)) : ℕ :=
  (messages.map fun shown => shown.2.length + 1).sum

theorem heardWeight_filterMap (reads : List Str) :
    heardWeight (reads.filterMap shownMessage) = (reads.map shownWeight).sum := by
  induction reads with
  | nil => rfl
  | cons read reads ih =>
      rw [List.filterMap_cons, List.map_cons, List.sum_cons, ← ih, shownWeight]
      cases shownMessage read <;> simp [heardWeight]

theorem heardWeight_append (front back : List (Str × Str)) :
    heardWeight (front ++ back) = heardWeight front + heardWeight back := by
  simp [heardWeight]

/-- A read shows what its first line shows, if it shows no name with a newline. -/
theorem shownMessage_head {head tail : Str}
    (hhead : ∀ byte ∈ head, isLineBreak byte = false)
    (hname : ∀ shown, shownMessage (head ++ newline :: tail) = some shown →
      newline ∉ shown.1) :
    shownMessage (head ++ newline :: tail) = shownMessage head := by
  cases hshown : shownMessage (head ++ newline :: tail) with
  | some shown =>
      exact ((shownMessage_first_line hhead (hname shown hshown)).mp hshown).symm
  | none =>
      cases hpart : shownMessage head with
      | none => rfl
      | some shown =>
          have hpartName : newline ∉ shown.1 := by
            obtain ⟨rest, rfl, _, _⟩ := shownMessage_eq_some hpart
            exact newline_not_mem_of_unbroken fun byte hbyte =>
              hhead byte (by simp [hbyte])
          rw [(shownMessage_first_line hhead hpartName).mpr hpart] at hshown
          exact nomatch hshown

/-- The reads that begin in a line, of which `middle` is left: `parts` are their
parts of the line, and the last of them holds `behind` of the lines behind it. -/
structure LineReads (middle rest : Str) (reads front back : List Str)
    (head behind : Str) : Prop where
  shape : reads = front ++ (head ++ newline :: behind) :: back
  line : (front ++ [head]).flatten = middle
  rest : behind ++ back.flatten = rest
  goesOn : ∀ read ∈ front ++ [head ++ newline :: behind], stops read = false
  heard : heardMessages reads =
    (front ++ [head]).filterMap shownMessage ++ heardMessages back
  point : stopPoint reads =
    (stopPoint back).map ((middle.length + 1 + behind.length) + ·)

/-- A chat that does not end in this line, and shows no name with a newline. -/
theorem exists_lineReads {middle rest : Str} {reads : List Str}
    (hmiddle : ∀ byte ∈ middle, isLineBreak byte = false)
    (hstream : reads.flatten = middle ++ newline :: rest)
    (hnames : ∀ shown ∈ heardMessages reads, newline ∉ shown.1)
    (hpoint : ∀ point, stopPoint reads = some point → middle.length < point) :
    ∃ front back head behind, LineReads middle rest reads front back head behind := by
  obtain ⟨front, head, behind, back, rfl, hline, hrest⟩ :=
    exists_first_stop (newline_not_mem_of_unbroken hmiddle) hstream
  have hlength : front.flatten.length + head.length = middle.length := by
    have hcount := congrArg List.length hline
    simpa using hcount
  have hhead : ∀ byte ∈ head, isLineBreak byte = false := by
    intro byte hbyte
    exact hmiddle byte (hline ▸ by simp [hbyte])
  have hstops : ∀ read ∈ front ++ [head ++ newline :: behind], stops read = false := by
    apply not_stops_of_stopPoint
    intro point hfound
    have hbehind := hpoint point hfound
    omega
  have hgroup : front ++ (head ++ newline :: behind) :: back =
      (front ++ [head ++ newline :: behind]) ++ back := by simp
  have hheard : heardMessages (front ++ (head ++ newline :: behind) :: back) =
      (front ++ [head ++ newline :: behind]).filterMap shownMessage ++
        heardMessages back := by
    rw [hgroup, heardMessages_append hstops]
  have hlast : shownMessage (head ++ newline :: behind) = shownMessage head := by
    refine shownMessage_head hhead fun shown hshown => hnames shown ?_
    rw [hheard]
    simp [hshown]
  refine ⟨front, back, head, behind, rfl, hline, by simpa using hrest, hstops, ?_, ?_⟩
  · rw [hheard, List.filterMap_append, List.filterMap_append, List.filterMap_cons,
      List.filterMap_cons, hlast]
  · rw [hgroup, stopPoint_append hstops]
    have hsize : (front ++ [head ++ newline :: behind]).flatten.length =
        middle.length + 1 + behind.length := by
      simp [← hlength]
      omega
    rw [hsize]

/-- The first read of the final line ends the chat only if it holds its word. -/
theorem word_le_of_stops {line : FinalLine} {read reads : Str}
    (hline : read ++ reads = (line.line peer).render) (hstops : stops read = true) :
    line.word.length ≤ read.length := by
  have hsizes : (bytes "CHAT_CLOSED ").length = 12 ∧ (bytes "ERROR ").length = 6 ∧
      (bytes "CHAT_CLOSED ").head? = some 67 ∧ (bytes "ERROR ").head? = some 69 := by
    decide +kernel
  obtain ⟨hclosed, herror, hclosedHead, herrorHead⟩ := hsizes
  have hlength : ∀ word : String, beginsWith word read = true →
      (bytes word).length ≤ read.length :=
    fun word hword => (List.isPrefixOf_iff_prefix.mp hword).length_le
  rw [stops, Bool.or_eq_true] at hstops
  cases line with
  | chatClosed =>
      rcases hstops with hword | hword
      · exact hlength _ hword
      · -- the line does not begin like an error
        exfalso
        have hread := head_of_beginsWith herrorHead hword
        have hhead : (read ++ reads).head? = some 67 := by
          rw [hline]
          exact head_of_beginsWith hclosedHead
            (List.isPrefixOf_iff_prefix.mpr ⟨peer ++ [newline], by
              simp [FinalLine.line, IpcLine.render]⟩)
        rw [List.head?_append_of_ne_nil _ (by rintro rfl; simp at hread),
          hread] at hhead
        exact absurd hhead (by decide)
  | error code =>
      change (bytes "ERROR ").length ≤ read.length
      rcases hstops with hword | hword
      · have hclosedLength := hlength _ hword
        omega
      · exact hlength _ hword

/-- The end of the chat, counted from behind some bytes. -/
theorem stopPoint_shift (passed : ℕ) {size : ℕ} {point : Option ℕ}
    (hpoint : point.map ((passed + ·)) = final.map fun _ => passed + size) :
    point = final.map fun _ => size := by
  have hinjective : Function.Injective (passed + ·) :=
    fun _ _ heq => Nat.add_left_cancel heq
  refine Option.map_injective hinjective (hpoint.trans ?_)
  rw [Option.map_map]
  rfl

/-- Behind the messages the chat ends with the read that begins the final line. -/
theorem finalApart_of_heard {tail : Str} {reads : List Str}
    (hreads : ∀ read ∈ reads, read ≠ [])
    (hstream : tail ++ reads.flatten = messageStream peer final [])
    (hpoint : (stopPoint reads).map (tail.length + ·) = final.map fun _ => 0) :
    heardWeight (heardMessages reads) ≤ 0 ∧
      (0 ≤ heardWeight (heardMessages reads) →
        tail = [] ∧ MessagesApart peer final [] reads) := by
  cases final with
  | none =>
      have hnil : tail ++ reads.flatten = [] := hstream
      obtain ⟨rfl, hflat⟩ := List.append_eq_nil_iff.mp hnil
      have hempty : reads = [] := by
        cases reads with
        | nil => rfl
        | cons read reads =>
            rw [List.flatten_cons, List.append_eq_nil_iff] at hflat
            exact absurd hflat.1 (hreads read (by simp))
      subst hempty
      exact ⟨le_rfl, fun _ => ⟨rfl, rfl⟩⟩
  | some line =>
      obtain ⟨point, hstop, hzero⟩ := Option.map_eq_some_iff.mp hpoint
      have hzero : tail.length + point = 0 := hzero
      obtain rfl : tail = [] := List.length_eq_zero_iff.mp (by omega)
      obtain rfl : point = 0 := by omega
      cases reads with
      | nil => exact nomatch hstop
      | cons read reads =>
          have hstops : stops read = true := by
            by_contra hgoes
            rw [stopPoint, if_neg hgoes] at hstop
            obtain ⟨rest, _, hsum⟩ := Option.map_eq_some_iff.mp hstop
            have hpositive := List.length_pos_iff.mpr (hreads read (by simp))
            omega
          have hline : read ++ reads.flatten = (line.line peer).render := hstream
          rw [heardMessages, if_pos hstops]
          exact ⟨le_rfl, fun _ => ⟨rfl, read, reads, rfl, word_le_of_stops hline hstops⟩⟩

/-- The first read of a line in one piece holds all of it but the newline. -/
theorem exists_first_read {front : List Str} {head body : Str}
    (hfront : ∀ read ∈ front, read ≠ [])
    (hpieces : pieces (front ++ [head]) = [body]) :
    ∃ first others, front ++ [head ++ [newline]] = first :: others ∧
      body.length ≤ first.length := by
  cases front with
  | nil =>
      obtain rfl : body = head := by
        cases head with
        | nil => simp [pieces] at hpieces
        | cons byte head => simpa [pieces] using hpieces.symm
      exact ⟨body ++ [newline], [], rfl, by simp⟩
  | cons first front =>
      obtain ⟨hfirst, _⟩ := List.forall_mem_cons.mp hfront
      obtain rfl : first = body := by
        have hshape : pieces (first :: (front ++ [head])) =
            first :: pieces (front ++ [head]) := by
          simp [pieces, hfirst]
        rw [List.cons_append, hshape] at hpieces
        exact (List.cons.inj hpieces).1
      exact ⟨first, front ++ [head ++ [newline]], rfl, le_rfl⟩

/-- Reads of a message that weigh as much as its text hold the line in one piece. -/
theorem pieces_of_weight {tail middle text : Str} {parts : List Str}
    (hline : parts.flatten = middle) (hbody : messageBody peer text = tail ++ middle)
    (hnames : ∀ read ∈ parts, ∀ shown, shownMessage read = some shown → shown.1 = peer) :
    (parts.map shownWeight).sum ≤ text.length + 1 ∧
      (text.length + 1 ≤ (parts.map shownWeight).sum →
        tail = [] ∧ pieces parts = [messageBody peer text]) := by
  have hlength : tail.length + middle.length = 8 + peer.length + 1 + text.length := by
    rw [← length_messageBody, hbody, List.length_append]
  have hweight : ∀ read ∈ parts, shownWeight read = 0 ∨
      shownWeight read + (8 + peer.length) ≤ read.length :=
    fun read hread => shownWeight_le (hnames read hread)
  have hsum := sum_weight_le hweight
  rw [hline] at hsum
  refine ⟨by omega, fun hall => ?_⟩
  have htail : tail = [] := List.length_eq_zero_iff.mp (by omega)
  subst htail
  refine ⟨rfl, ?_⟩
  have hpieceSum : ((pieces parts).map shownWeight).sum = (parts.map shownWeight).sum :=
    sum_weight_pieces rfl parts
  have hoverhead : 0 < 8 + peer.length := by omega
  have hpieces : pieces parts = [(pieces parts).flatten] := by
    refine eq_singleton_of_sum hoverhead (fun _ => ne_nil_of_mem_pieces)
      (fun read hread => hweight read (List.mem_filter.mp hread).1) (by omega) ?_
    rw [flatten_pieces, hline]
    omega
  rw [hpieces, flatten_pieces, hline, hbody]
  rfl

/-- Messages that are shown under no name but the peer's weigh no more than their
texts, and as much only if their lines are read apart. -/
theorem messagesApart_of_heard (hpeer : chatUsernameIsValid peer = true)
    {texts : List Str}
    (htexts : ∀ text ∈ texts, ∀ byte ∈ text, isLineBreak byte = false ∧ byte ≠ 0)
    {tail : Str} {reads : List Str} (hreads : ∀ read ∈ reads, read ≠ [])
    (hstream : tail ++ reads.flatten = messageStream peer final texts)
    (hnames : ∀ shown ∈ heardMessages reads, shown.1 = peer)
    (hpoint : (stopPoint reads).map (tail.length + ·) =
      final.map fun _ => (texts.flatMap (messageLine peer)).length) :
    heardWeight (heardMessages reads) ≤ heardWeight (texts.map (peer, ·)) ∧
      (heardWeight (texts.map (peer, ·)) ≤ heardWeight (heardMessages reads) →
        tail = [] ∧ MessagesApart peer final texts reads) := by
  induction texts generalizing tail reads with
  | nil => exact finalApart_of_heard hreads hstream hpoint
  | cons text texts ih =>
      obtain ⟨htext, htexts⟩ := List.forall_mem_cons.mp htexts
      have hbodyPlain := messageBody_plain hpeer htext
      have hshape : messageStream peer final (text :: texts) =
          messageBody peer text ++ newline :: messageStream peer final texts := by
        simp [messageStream, messageLine_eq]
      have hlength : ((text :: texts).flatMap (messageLine peer)).length =
          (messageBody peer text).length + 1 +
            (texts.flatMap (messageLine peer)).length := by
        simp [messageLine_eq]
        omega
      have hweights : heardWeight ((text :: texts).map (peer, ·)) =
          text.length + 1 + heardWeight (texts.map (peer, ·)) := by
        simp [heardWeight]
      rw [hshape] at hstream
      rw [hlength] at hpoint
      rw [hweights]
      rcases append_eq_line_iff.mp hstream with
        ⟨middle, hsplit, hrest⟩ | ⟨middle, rfl, hrest⟩
      · -- some reads begin in this line
        have htotal : tail.length + middle.length = (messageBody peer text).length := by
          rw [hsplit, List.length_append]
        have hmiddle : ∀ byte ∈ middle, isLineBreak byte = false := fun byte hbyte =>
          (hbodyPlain byte (hsplit ▸ List.mem_append_right _ hbyte)).1
        have hpeerLine : newline ∉ peer := newline_not_mem_of_unbroken
          fun byte hbyte => (unbroken_of_username hpeer byte hbyte).1
        obtain ⟨front, back, head, behind, hparts⟩ := exists_lineReads hmiddle hrest
          (fun shown hshown => hnames shown hshown ▸ hpeerLine) (by
            intro point hfound
            rw [hfound] at hpoint
            obtain ⟨_, _, hend⟩ := Option.map_eq_some_iff.mp hpoint.symm
            simp only at hend
            omega)
        have hpartNames : ∀ read ∈ front ++ [head], ∀ shown,
            shownMessage read = some shown → shown.1 = peer := by
          intro read hread shown hshown
          refine hnames shown ?_
          rw [hparts.heard]
          exact List.mem_append_left _ (List.mem_filterMap.mpr ⟨read, hread, hshown⟩)
        have hnextPoint : (stopPoint back).map (behind.length + ·) =
            final.map fun _ => (texts.flatMap (messageLine peer)).length := by
          apply stopPoint_shift ((messageBody peer text).length + 1)
          rw [← hpoint, hparts.point, Option.map_map, Option.map_map]
          congr 1
          funext point
          simp only [Function.comp_apply]
          omega
        obtain ⟨hless, hapart⟩ := ih htexts
          (fun read hread => hreads read (by simp [hparts.shape, hread])) hparts.rest
          (fun shown hshown => hnames shown (by
            rw [hparts.heard]
            exact List.mem_append_right _ hshown)) hnextPoint
        obtain ⟨hshort, hwhole⟩ := pieces_of_weight hparts.line hsplit hpartNames
        rw [hparts.heard, heardWeight_append, heardWeight_filterMap]
        refine ⟨by omega, fun hall => ?_⟩
        obtain ⟨rfl, hpieces⟩ := hwhole (by omega)
        obtain ⟨rfl, hrestApart⟩ := hapart (by omega)
        obtain ⟨first, others, hfirst, hlong⟩ := exists_first_read
          (fun read hread => hreads read (by simp [hparts.shape, hread])) hpieces
        refine ⟨rfl, first, others, back, ?_, ?_, ?_, hrestApart⟩
        · rw [← hfirst, hparts.shape]
          simp
        · have hflat : (front ++ [head ++ [newline]]).flatten =
              (front ++ [head]).flatten ++ [newline] := by simp
          rw [← hfirst, hflat, hparts.line, messageLine_eq, hsplit, List.nil_append]
        · rw [messageLine_eq, List.length_append, List.length_singleton]
          omega
      · -- the line lies in a read that began earlier
        have hnextPoint : (stopPoint reads).map (middle.length + ·) =
            final.map fun _ => (texts.flatMap (messageLine peer)).length := by
          apply stopPoint_shift ((messageBody peer text).length + 1)
          rw [← hpoint, Option.map_map]
          congr 1
          funext point
          simp only [Function.comp_apply, List.length_append, List.length_cons]
          omega
        obtain ⟨hless, _⟩ := ih htexts hreads hrest.symm hnames hnextPoint
        exact ⟨by omega, fun hall => by omega⟩

/-! ## Lines read apart are shown -/

/-- The reads of the final line. -/
def FinalReads (peer : Str) (final : Option FinalLine) (reads : List Str) : Prop :=
  match final with
  | none => reads = []
  | some line => ∃ first others, reads = first :: others ∧
      (first :: others).flatten = (line.line peer).render ∧
      line.word.length ≤ first.length

theorem not_stops_body (peer text rest : Str) :
    stops (messageBody peer text ++ rest) = false := by
  have hword : bytes "MESSAGE " ≠ [] ∧ (bytes "MESSAGE ").head? = some 77 := by
    decide +kernel
  by_contra hstops
  rw [Bool.not_eq_false] at hstops
  have hhead : (messageBody peer text ++ rest).head? = some 77 := by
    simp only [messageBody, messageHead, List.append_assoc]
    rw [List.head?_append_of_ne_nil _ hword.1, hword.2]
  rcases head_of_stops hstops with hother | hother <;>
    exact absurd (hhead.symm.trans hother) (by decide)

/-- The reads of one message show it and nothing else. -/
theorem message_reads (hpeer : chatUsernameIsValid peer = true) {text : Str}
    (htext : ∀ byte ∈ text, isLineBreak byte = false ∧ byte ≠ 0) {first : Str}
    {others : List Str} (hreads : ∀ read ∈ others, read ≠ [])
    (hline : (first :: others).flatten = messageLine peer text)
    (hlong : (messageLine peer text).length ≤ first.length + 1) :
    (∀ read ∈ first :: others, stops read = false) ∧
      (first :: others).filterMap shownMessage = [(peer, text)] := by
  have hplain : ∀ byte ∈ messageBody peer text, isLineBreak byte = false :=
    fun byte hbyte => (messageBody_plain hpeer htext byte hbyte).1
  have hpeerLine : newline ∉ peer := newline_not_mem_of_unbroken
    fun byte hbyte => (unbroken_of_username hpeer byte hbyte).1
  have hshown := shownMessage_body hpeer fun byte hbyte => (htext byte hbyte).1
  have hsizes := congrArg List.length hline
  rw [List.flatten_cons, List.length_append] at hsizes
  rw [List.flatten_cons, messageLine_eq] at hline
  cases others with
  | nil =>
      obtain rfl : first = messageBody peer text ++ [newline] := by simpa using hline
      have hboth : shownMessage (messageBody peer text ++ newline :: []) =
          some (peer, text) :=
        (shownMessage_first_line hplain hpeerLine).mpr hshown
      refine ⟨?_, by rw [List.filterMap_cons, hboth]; rfl⟩
      intro read hread
      obtain rfl : read = messageBody peer text ++ [newline] := by simpa using hread
      exact not_stops_body peer text [newline]
  | cons other others =>
      obtain ⟨hother, hothers⟩ := List.forall_mem_cons.mp hreads
      have hpositive := List.length_pos_iff.mpr hother
      rw [List.flatten_cons, List.length_append] at hsizes
      -- only the newline is left for the second read
      have hfirst : first.length = (messageBody peer text).length := by
        rw [messageLine_eq, List.length_append, List.length_singleton] at hsizes hlong
        omega
      obtain ⟨rfl, hrest⟩ := List.append_inj hline hfirst
      have hnil : others = [] := by
        cases others with
        | nil => rfl
        | cons last others =>
            have hlast := List.length_pos_iff.mpr (hothers last (by simp))
            have hcount := congrArg List.length hrest
            simp only [List.flatten_cons, List.length_append,
              List.length_singleton] at hcount
            omega
      subst hnil
      obtain rfl : other = [newline] := by simpa using hrest
      have hquiet : shownMessage [newline] = none ∧ stops [newline] = false := by
        decide +kernel
      have hgoes := not_stops_body peer text []
      rw [List.append_nil] at hgoes
      refine ⟨List.forall_mem_cons.mpr ⟨hgoes, List.forall_mem_cons.mpr
        ⟨hquiet.2, nofun⟩⟩, ?_⟩
      rw [List.filterMap_cons, hshown, List.filterMap_cons, hquiet.1]
      rfl

/-- Reads that keep the lines apart, up to the final line and behind. -/
theorem MessagesApart.split (hpeer : chatUsernameIsValid peer = true)
    {texts : List Str}
    (htexts : ∀ text ∈ texts, ∀ byte ∈ text, isLineBreak byte = false ∧ byte ≠ 0)
    {reads : List Str} (hreads : ∀ read ∈ reads, read ≠ [])
    (hstream : reads.flatten = messageStream peer final texts)
    (hapart : MessagesApart peer final texts reads) :
    ∃ front back, reads = front ++ back ∧ (∀ read ∈ front, stops read = false) ∧
      front.filterMap shownMessage = texts.map (peer, ·) ∧
      front.flatten = texts.flatMap (messageLine peer) ∧
      FinalReads peer final back := by
  induction texts generalizing reads with
  | nil =>
      refine ⟨[], reads, rfl, nofun, rfl, rfl, ?_⟩
      cases final with
      | none => exact hapart
      | some line =>
          obtain ⟨first, others, rfl, hword⟩ := hapart
          exact ⟨first, others, rfl, hstream, hword⟩
  | cons text texts ih =>
      obtain ⟨htext, htexts⟩ := List.forall_mem_cons.mp htexts
      obtain ⟨first, others, rest, rfl, hline, hlong, hrest⟩ := hapart
      have hshape : messageStream peer final (text :: texts) =
          messageLine peer text ++ messageStream peer final texts := by
        simp [messageStream]
      rw [List.flatten_append, hline, hshape, List.append_cancel_left_eq] at hstream
      obtain ⟨front, back, rfl, hstops, hshown, hflat, hfinal⟩ := ih htexts
        (fun read hread => hreads read (by simp [hread])) hstream hrest
      obtain ⟨hgoes, hmessage⟩ := message_reads hpeer htext
        (fun read hread => hreads read (by simp [hread])) hline hlong
      refine ⟨first :: others ++ front, back, by simp, ?_, ?_, ?_, hfinal⟩
      · exact List.forall_mem_append.mpr ⟨hgoes, hstops⟩
      · rw [List.filterMap_append, hmessage, hshown]
        rfl
      · rw [List.flatten_append, hline, hflat]
        rfl

/-! ## The line of the session -/

/-- The line of the session behind its first word. -/
def sessionRest (peer : Str) (relayed : Bool) : Str :=
  peer ++ (if relayed then bytes " relay" else bytes " direct")

theorem sessionLine_eq (peer : Str) (relayed : Bool) :
    sessionLine peer relayed =
      bytes "ENCRYPTED_SESSION " ++ sessionRest peer relayed ++ [newline] := by
  simp [sessionLine, sessionRest, IpcLine.render]

theorem length_sessionWord : (bytes "ENCRYPTED_SESSION ").length = 18 := by decide +kernel

theorem sessionRest_plain (hpeer : chatUsernameIsValid peer = true) (relayed : Bool) :
    (∀ byte ∈ sessionRest peer relayed, isLineBreak byte = false ∧ byte ≠ 0) ∧
      (sessionRest peer relayed).count 32 = 1 := by
  have hmodes : ∀ relayed : Bool,
      (∀ byte ∈ (if relayed then bytes " relay" else bytes " direct"),
        isLineBreak byte = false ∧ byte ≠ 0) ∧
      (if relayed then bytes " relay" else bytes " direct").count 32 = 1 := by
    decide +kernel
  obtain ⟨hplain, hcount⟩ := hmodes relayed
  have hpeerPlain := unbroken_of_username hpeer
  refine ⟨List.forall_mem_append.mpr ⟨fun byte hbyte => ?_, hplain⟩, ?_⟩
  · exact ⟨(hpeerPlain byte hbyte).1, (hpeerPlain byte hbyte).2.1⟩
  · have hname : peer.count 32 = 0 :=
      List.count_eq_zero.mpr fun hmem => (hpeerPlain 32 hmem).2.2 rfl
    rw [sessionRest, List.count_append, hname, hcount]

/-- Behind the first word of the session no message is shown. -/
theorem shownMessage_of_session (hpeer : chatUsernameIsValid peer = true)
    {relayed : Bool} {passed : Str} {parts : List Str} {rest : Str}
    (hparts : passed ++ parts.flatten = sessionRest peer relayed ++ rest)
    (hrest : rest.count 32 = 0) :
    parts.filterMap shownMessage = [] := by
  rw [List.filterMap_eq_nil_iff]
  intro read hread
  cases hshown : shownMessage read with
  | none => rfl
  | some shown =>
      exfalso
      have htwo := two_le_count_blank hshown
      have hpart := (List.sublist_flatten_of_mem hread).count_le 32
      have htotal := congrArg (List.count 32) hparts
      rw [List.count_append, List.count_append, (sessionRest_plain hpeer relayed).2,
        hrest] at htotal
      omega

end Stream

/-! ## The client -/

section Client

variable {peer : Str} {relayed : Bool} {final : Option FinalLine} {texts reads : List Str}

/-- A read from the daemon. -/
structure Received (input : Str) : Prop where
  nonempty : input ≠ []
  short : input.length ≤ chatIpcMaxResponse - 1
  nonzero : ∀ byte ∈ input, byte ≠ 0

theorem Received.readResponse_eq {input : Str} (hread : Received input) :
    readResponse input = input := by
  rw [readResponse, List.take_of_length_le hread.short, cString_of_ne_zero hread.nonzero]

theorem not_message_of_stops {read : Str} (hstops : stops read = true) :
    beginsWith "MESSAGE " read = false := by
  have hhead : (bytes "MESSAGE ").head? = some 77 := by decide +kernel
  by_contra hword
  rw [Bool.not_eq_false] at hword
  have hfirst := head_of_stops hstops
  rw [head_of_beginsWith hhead hword] at hfirst
  exact absurd hfirst (by decide)

theorem shownMessage_of_not_message {read : Str}
    (hword : beginsWith "MESSAGE " read = false) : shownMessage read = none := by
  unfold beginsWith at hword
  rw [shownMessage, if_neg (by simp [hword])]

/-- A read that does not end the chat shows its message, if it is one. -/
theorem read_goesOn {state : CliState} (hphase : state.phase = .chatting) {input : Str}
    (hread : Received input) (hgoes : stops input = false) :
    (state.read input).phase = .chatting ∧
      (state.read input).messages =
        state.messages ++ (shownMessage input).toList := by
  simp only [stops, Bool.or_eq_false_iff] at hgoes
  have hserved : state.read input = ⟨(runChatLoop input).1,
      state.printed ++ (runChatLoop input).2⟩ := by
    simp only [CliState.read, hphase, if_neg hread.nonempty, hread.readResponse_eq]
  rw [hserved]
  by_cases hword : beginsWith "MESSAGE " input = true
  · simp only [runChatLoop, hword, if_true, CliState.messages, List.filterMap_append]
    refine ⟨trivial, ?_⟩
    cases shownMessage input <;> rfl
  · rw [Bool.not_eq_true] at hword
    rw [shownMessage_of_not_message hword]
    simp [runChatLoop, hword, hgoes, CliState.messages]

/-- A read that ends the chat. -/
theorem read_stops {state : CliState} (hphase : state.phase = .chatting) {input : Str}
    (hread : Received input) (hstops : stops input = true) :
    state.read input =
      if beginsWith "CHAT_CLOSED " input then
        ⟨.exited .success, state.printed ++ [.chatClosedByPeer]⟩
      else ⟨.exited .genericError, state.printed ++ [.response input]⟩ := by
  have hword := not_message_of_stops hstops
  simp only [CliState.read, hphase, if_neg hread.nonempty, hread.readResponse_eq,
    runChatLoop, hword, Bool.false_eq_true, if_false]
  by_cases hclosed : beginsWith "CHAT_CLOSED " input = true
  · simp only [hclosed, if_true]
  · have herror : beginsWith "ERROR " input = true := by
      simpa [stops, hclosed] using hstops
    simp only [hclosed, herror, if_true, Bool.false_eq_true, if_false]

theorem readAll_exited {state : CliState} {code : ChatExit}
    (hphase : state.phase = .exited code) (reads : List Str) :
    state.readAll reads = state := by
  induction reads with
  | nil => rfl
  | cons input reads ih =>
      have hstays : state.read input = state := by
        simp only [CliState.read, hphase, List.append_nil]
        rw [← hphase]
      rw [CliState.readAll, List.foldl_cons, hstays]
      exact ih

/-- Reads of the chat loop. -/
theorem readAll_chatting {state : CliState} (hphase : state.phase = .chatting)
    (hreads : ∀ read ∈ reads, Received read) :
    (state.readAll reads).messages = state.messages ++ heardMessages reads ∧
      exitPoint state reads = stopPoint reads := by
  induction reads generalizing state with
  | nil => exact ⟨(List.append_nil _).symm, rfl⟩
  | cons input reads ih =>
      obtain ⟨hread, hreads⟩ := List.forall_mem_cons.mp hreads
      rw [CliState.readAll, List.foldl_cons, ← CliState.readAll, heardMessages, stopPoint,
        exitPoint]
      cases hstops : stops input with
      | false =>
          obtain ⟨hnext, hshown⟩ := read_goesOn hphase hread hstops
          obtain ⟨hmessages, hpoint⟩ := ih hnext hreads
          simp only [hnext, CliPhase.over, Bool.false_eq_true, if_false]
          rw [hmessages, hshown, hpoint, List.append_assoc]
          exact ⟨rfl, rfl⟩
      | true =>
          have hserved := read_stops hphase hread hstops
          simp only [if_true, List.append_nil]
          split_ifs at hserved with hclosed
          · rw [hserved, readAll_exited rfl]
            simp [CliState.messages, CliPhase.over]
          · rw [hserved, readAll_exited rfl]
            simp [CliState.messages, CliPhase.over]

/-- The first read opens the chat exactly when it holds the word of the session. -/
theorem read_opening {first rest more : Str} (hread : Received first)
    (hline : first ++ rest = bytes "ENCRYPTED_SESSION " ++ more) :
    if 18 ≤ first.length then
      (CliState.read {} first).phase = .chatting ∧ (CliState.read {} first).messages = []
    else (CliState.read {} first).phase.over = true := by
  have hserved : CliState.read {} first =
      ⟨(commandOpenChat first).1, (commandOpenChat first).2⟩ := by
    simp only [CliState.read, if_neg hread.nonempty, hread.readResponse_eq,
      List.nil_append]
  rw [hserved]
  split_ifs with hlong
  · have hword : bytes "ENCRYPTED_SESSION " <+: first :=
      List.prefix_of_prefix_length_le (List.prefix_append _ more)
        (hline ▸ List.prefix_append first rest) (length_sessionWord ▸ hlong)
    obtain ⟨tail, rfl⟩ := hword
    have hheads : (bytes "ENCRYPTED_SESSION ").head? = some 69 ∧
        (bytes "USER_OFFLINE ").head? = some 85 ∧
        (bytes "USER_ONLINE ").head? = some 85 := by
      decide +kernel
    have hother : ∀ word : String, (bytes word).head? = some 85 →
        beginsWith word (bytes "ENCRYPTED_SESSION " ++ tail) = false := by
      intro word hhead
      by_contra hbegins
      rw [Bool.not_eq_false] at hbegins
      have hboth := head_of_beginsWith hhead hbegins
      rw [List.head?_append_of_ne_nil _ (by decide +kernel), hheads.1] at hboth
      exact absurd hboth (by decide)
    have hsession : beginsWith "ENCRYPTED_SESSION "
        (bytes "ENCRYPTED_SESSION " ++ tail) = true :=
      List.isPrefixOf_iff_prefix.mpr (List.prefix_append _ _)
    simp [commandOpenChat, hother _ hheads.2.1, hother _ hheads.2.2, hsession,
      CliState.messages]
  · have hshort : ∀ count < 18,
        (commandOpenChat ((bytes "ENCRYPTED_SESSION ").take count)).1.over = true := by
      decide +kernel
    have hpart : first = (bytes "ENCRYPTED_SESSION ").take first.length := by
      have hprefix := List.prefix_of_prefix_length_le (hline ▸ List.prefix_append first rest)
        (List.prefix_append (bytes "ENCRYPTED_SESSION ") more)
        (length_sessionWord ▸ (Nat.lt_of_not_le hlong).le)
      exact List.prefix_iff_eq_take.mp hprefix
    rw [hpart]
    exact hshort _ (Nat.lt_of_not_le hlong)

/-- The stream of a chat. -/
def chatStream (peer : Str) (relayed : Bool) (texts : List Str)
    (final : Option FinalLine) : Str :=
  sessionLine peer relayed ++ messageStream peer final texts

theorem chatStream_ne_zero (hpeer : chatUsernameIsValid peer = true)
    (htexts : ∀ text ∈ texts, ∀ byte ∈ text, isLineBreak byte = false ∧ byte ≠ 0)
    (hfinal : ∀ code, final = some (.error code) → ∀ byte ∈ code, byte ≠ 0) :
    ∀ byte ∈ chatStream peer relayed texts final, byte ≠ 0 := by
  have hwords : ∀ byte ∈ bytes "ENCRYPTED_SESSION " ++ (bytes "CHAT_CLOSED " ++
      (bytes "ERROR " ++ [newline])), byte ≠ 0 := by
    decide +kernel
  obtain ⟨hsession, hwords⟩ := List.forall_mem_append.mp hwords
  obtain ⟨hclosed, hwords⟩ := List.forall_mem_append.mp hwords
  obtain ⟨herror, hnewline⟩ := List.forall_mem_append.mp hwords
  have hname : ∀ byte ∈ peer, byte ≠ 0 :=
    fun byte hbyte => (unbroken_of_username hpeer byte hbyte).2.1
  refine List.forall_mem_append.mpr ⟨?_, List.forall_mem_append.mpr ⟨?_, ?_⟩⟩
  · rw [sessionLine_eq]
    exact List.forall_mem_append.mpr ⟨List.forall_mem_append.mpr
      ⟨hsession, fun byte hbyte => ((sessionRest_plain hpeer relayed).1 byte hbyte).2⟩,
      hnewline⟩
  · intro byte hbyte
    obtain ⟨text, htext, hmem⟩ := List.mem_flatMap.mp hbyte
    rw [messageLine_eq] at hmem
    rcases List.mem_append.mp hmem with hbody | hend
    · exact (messageBody_plain hpeer (htexts text htext) byte hbody).2
    · exact hnewline byte hend
  · cases final with
    | none => nofun
    | some line =>
        cases line with
        | chatClosed =>
            exact List.forall_mem_append.mpr
              ⟨List.forall_mem_append.mpr ⟨hclosed, hname⟩, hnewline⟩
        | error code =>
            exact List.forall_mem_append.mpr
              ⟨List.forall_mem_append.mpr ⟨herror, hfinal code rfl⟩, hnewline⟩

/-- The reads behind the one that opens the chat. -/
theorem linesApart_of_heard (hpeer : chatUsernameIsValid peer = true)
    (htexts : ∀ text ∈ texts, ∀ byte ∈ text, isLineBreak byte = false ∧ byte ≠ 0)
    {first : Str} (hlong : 18 ≤ first.length) (hreads : ∀ read ∈ reads, read ≠ [])
    (hstream : first ++ reads.flatten = chatStream peer relayed texts final)
    (hheard : heardMessages reads = texts.map (peer, ·))
    (hpoint : (stopPoint reads).map (first.length + ·) = final.map fun _ =>
      (sessionLine peer relayed).length + (texts.flatMap (messageLine peer)).length) :
    LinesApart peer relayed texts final (first :: reads) := by
  have hline := sessionLine_eq peer relayed
  have hnames : ∀ shown ∈ heardMessages reads, shown.1 = peer := by
    rw [hheard]
    simp
  have hword := length_sessionWord
  have hsize : (sessionLine peer relayed).length =
      (bytes "ENCRYPTED_SESSION " ++ sessionRest peer relayed).length + 1 := by
    rw [hline, List.length_append, List.length_singleton]
  have hshape : chatStream peer relayed texts final =
      bytes "ENCRYPTED_SESSION " ++ sessionRest peer relayed ++
        newline :: messageStream peer final texts := by
    simp [chatStream, hline]
  rw [hshape] at hstream
  rw [hsize] at hpoint
  rcases append_eq_line_iff.mp hstream with
    ⟨middle, hsplit, hrest⟩ | ⟨middle, rfl, hrest⟩
  · -- the line of the session goes on behind the first read
    have htotal : (bytes "ENCRYPTED_SESSION " ++ sessionRest peer relayed).length =
        first.length + middle.length := by
      rw [hsplit, List.length_append]
    have hfirst : first <+: bytes "ENCRYPTED_SESSION " ++ sessionRest peer relayed :=
      hsplit ▸ List.prefix_append first middle
    obtain ⟨passed, rfl⟩ := List.prefix_of_prefix_length_le
      (List.prefix_append (bytes "ENCRYPTED_SESSION ") _) hfirst (hword ▸ hlong)
    have hpassed : sessionRest peer relayed = passed ++ middle := by
      rw [List.append_assoc] at hsplit
      exact List.append_cancel_left hsplit
    have hmiddle : ∀ byte ∈ middle, isLineBreak byte = false := fun byte hbyte =>
      ((sessionRest_plain hpeer relayed).1 byte
        (hpassed ▸ List.mem_append_right _ hbyte)).1
    have hpeerLine : newline ∉ peer := newline_not_mem_of_unbroken
      fun byte hbyte => (unbroken_of_username hpeer byte hbyte).1
    obtain ⟨front, back, head, behind, hparts⟩ := exists_lineReads hmiddle hrest
      (fun shown hshown => hnames shown hshown ▸ hpeerLine) (by
        intro point hfound
        rw [hfound] at hpoint
        obtain ⟨_, _, hend⟩ := Option.map_eq_some_iff.mp hpoint.symm
        simp only at hend
        omega)
    have hleft : passed ++ (front ++ [head]).flatten = sessionRest peer relayed ++ [] := by
      rw [hparts.line, hpassed, List.append_nil]
    have hquiet := shownMessage_of_session hpeer hleft rfl
    have hback := hparts.heard
    rw [hquiet, List.nil_append] at hback
    have hnextPoint : (stopPoint back).map (behind.length + ·) =
        final.map fun _ => (texts.flatMap (messageLine peer)).length := by
      apply stopPoint_shift
        ((bytes "ENCRYPTED_SESSION " ++ sessionRest peer relayed).length + 1)
      rw [← hpoint, hparts.point, Option.map_map, Option.map_map]
      congr 1
      funext point
      simp only [Function.comp_apply]
      omega
    obtain ⟨rfl, hapart⟩ := (messagesApart_of_heard hpeer htexts
      (fun read hread => hreads read (by simp [hparts.shape, hread])) hparts.rest
      (hback ▸ hnames) hnextPoint).2 (by rw [← hback, hheard])
    refine ⟨_, front ++ [head ++ [newline]], back, ?_, ?_, hlong, ?_, hapart⟩
    · rw [hparts.shape]
      simp
    · have hflat : (front ++ [head ++ [newline]]).flatten =
          (front ++ [head]).flatten ++ [newline] := by simp
      rw [List.flatten_cons, hflat, hparts.line, hline, hpassed]
      simp
    · exact hparts.goesOn
  · have hnextPoint : (stopPoint reads).map (middle.length + ·) =
        final.map fun _ => (texts.flatMap (messageLine peer)).length := by
      apply stopPoint_shift
        ((bytes "ENCRYPTED_SESSION " ++ sessionRest peer relayed).length + 1)
      rw [← hpoint, Option.map_map]
      congr 1
      funext point
      simp only [Function.comp_apply, List.length_append, List.length_cons]
      omega
    obtain ⟨rfl, hapart⟩ := (messagesApart_of_heard hpeer htexts hreads hrest.symm
      hnames hnextPoint).2 (by rw [hheard])
    exact ⟨_, [], reads, rfl, by simp [hline], hlong, nofun, hapart⟩

/-- A client that shows all messages reads the lines apart. -/
theorem ShowsAll.linesApart (hpeer : chatUsernameIsValid peer = true)
    (htexts : ∀ text ∈ texts, ∀ byte ∈ text, isLineBreak byte = false ∧ byte ≠ 0)
    (hreads : ∀ read ∈ reads, Received read)
    (hstream : reads.flatten = chatStream peer relayed texts final)
    (hshows : ShowsAll peer relayed texts final reads) :
    LinesApart peer relayed texts final reads := by
  have hline := sessionLine_eq peer relayed
  cases reads with
  | nil =>
      have hlength := congrArg List.length hstream
      simp [chatStream, hline] at hlength
  | cons first reads =>
      obtain ⟨hfirst, hreads⟩ := List.forall_mem_cons.mp hreads
      have hopening := read_opening hfirst (hstream.trans (by
        rw [chatStream, hline, List.append_assoc, List.append_assoc]))
      have hpoint := hshows.point
      rw [exitPoint, List.length_append] at hpoint
      by_cases hlong : 18 ≤ first.length
      · rw [if_pos hlong] at hopening
        obtain ⟨hheard, hstop⟩ := readAll_chatting hopening.1 hreads
        have hmessages : heardMessages reads = texts.map (peer, ·) := by
          rw [← hshows.messages, CliState.readAll, List.foldl_cons, ← CliState.readAll,
            hheard, hopening.2, List.nil_append]
        simp only [hopening.1, CliPhase.over, Bool.false_eq_true, if_false, hstop] at hpoint
        exact linesApart_of_heard hpeer htexts hlong
          (fun read hread => (hreads read hread).nonempty) hstream hmessages hpoint
      · rw [if_neg hlong] at hopening
        simp only [hopening, if_true] at hpoint
        obtain ⟨_, _, hzero⟩ := Option.map_eq_some_iff.mp hpoint.symm
        simp [hline] at hzero

/-- Reads behind the opening that keep the lines apart, up to the final line. -/
theorem LinesApart.split (hpeer : chatUsernameIsValid peer = true)
    (htexts : ∀ text ∈ texts, ∀ byte ∈ text, isLineBreak byte = false ∧ byte ≠ 0)
    (hreads : ∀ read ∈ reads, read ≠ [])
    (hstream : reads.flatten = chatStream peer relayed texts final)
    (hapart : LinesApart peer relayed texts final reads) :
    ∃ first front back, reads = first :: (front ++ back) ∧ 18 ≤ first.length ∧
      (∀ read ∈ front, stops read = false) ∧
      front.filterMap shownMessage = texts.map (peer, ·) ∧
      (first :: front).flatten =
        sessionLine peer relayed ++ texts.flatMap (messageLine peer) ∧
      FinalReads peer final back := by
  obtain ⟨first, others, rest, rfl, hline, hlong, hgoes, hrest⟩ := hapart
  rw [List.flatten_append, hline, chatStream, List.append_cancel_left_eq] at hstream
  obtain ⟨front, back, rfl, hstops, hshown, hflat, hfinal⟩ := hrest.split hpeer htexts
    (fun read hread => hreads read (by simp [hread])) hstream
  have hquiet : others.filterMap shownMessage = [] := by
    rw [List.flatten_cons, sessionLine_eq, List.append_assoc] at hline
    have hfirst : first <+: bytes "ENCRYPTED_SESSION " ++
        (sessionRest peer relayed ++ [newline]) :=
      hline ▸ List.prefix_append first others.flatten
    obtain ⟨passed, rfl⟩ := List.prefix_of_prefix_length_le
      (List.prefix_append (bytes "ENCRYPTED_SESSION ") _) hfirst
      (length_sessionWord ▸ hlong)
    rw [List.append_assoc, List.append_cancel_left_eq] at hline
    exact shownMessage_of_session hpeer hline (by decide)
  refine ⟨first, others ++ front, back, by simp, hlong, ?_, ?_, ?_, hfinal⟩
  · exact List.forall_mem_append.mpr ⟨hgoes, hstops⟩
  · rw [List.filterMap_append, hquiet, hshown, List.nil_append]
  · rw [← hline, ← hflat]
    simp

theorem stops_of_word {line : FinalLine} {read rest : Str}
    (hline : read ++ rest = (line.line peer).render)
    (hword : line.word.length ≤ read.length) :
    stops read = true ∧ (beginsWith "CHAT_CLOSED " read = true ↔ line = .chatClosed) := by
  have hheads : (bytes "CHAT_CLOSED ").head? = some 67 ∧
      (bytes "ERROR ").head? = some 69 := by
    decide +kernel
  cases line with
  | chatClosed =>
      have hbegins : beginsWith "CHAT_CLOSED " read = true := by
        refine List.isPrefixOf_iff_prefix.mpr
          (List.prefix_of_prefix_length_le ?_ (hline ▸ List.prefix_append read rest) hword)
        exact ⟨peer ++ [newline], by simp [FinalLine.line, IpcLine.render]⟩
      simp [stops, hbegins]
  | error code =>
      have hbegins : beginsWith "ERROR " read = true := by
        refine List.isPrefixOf_iff_prefix.mpr
          (List.prefix_of_prefix_length_le ?_ (hline ▸ List.prefix_append read rest) hword)
        exact ⟨code ++ [newline], by simp [FinalLine.line, IpcLine.render]⟩
      have hother : beginsWith "CHAT_CLOSED " read = false := by
        by_contra hclosed
        rw [Bool.not_eq_false] at hclosed
        have hboth := head_of_beginsWith hheads.1 hclosed
        rw [head_of_beginsWith hheads.2 hbegins] at hboth
        exact absurd hboth (by decide)
      simp [stops, hbegins, hother]

theorem readAll_append (state : CliState) (front back : List Str) :
    state.readAll (front ++ back) = (state.readAll front).readAll back :=
  List.foldl_append

/-- Reads that do not end the chat. -/
theorem readAll_goesOn {state : CliState} (hphase : state.phase = .chatting)
    (hreads : ∀ read ∈ reads, Received read)
    (hgoes : ∀ read ∈ reads, stops read = false) :
    (state.readAll reads).phase = .chatting := by
  induction reads generalizing state with
  | nil => exact hphase
  | cons input reads ih =>
      obtain ⟨hread, hreads⟩ := List.forall_mem_cons.mp hreads
      obtain ⟨hinput, hgoes⟩ := List.forall_mem_cons.mp hgoes
      exact ih (read_goesOn hphase hread hinput).1 hreads hgoes

theorem FinalReads.heard (hfinal : FinalReads peer final reads) :
    heardMessages reads = [] ∧ stopPoint reads = final.map fun _ => 0 := by
  cases final with
  | none =>
      obtain rfl : reads = [] := hfinal
      exact ⟨rfl, rfl⟩
  | some line =>
      obtain ⟨first, others, rfl, hline, hword⟩ := hfinal
      have hstops := (stops_of_word hline hword).1
      rw [heardMessages, stopPoint, if_pos hstops, if_pos hstops]
      exact ⟨rfl, rfl⟩

/-- The first read of the final line is the reaction to it. -/
theorem FinalReads.reacts (hfinal : FinalReads peer final reads)
    (hreads : ∀ read ∈ reads, Received read) {state : CliState}
    (hphase : state.phase = .chatting) : (state.readAll reads).ReactsTo final := by
  cases final with
  | none =>
      obtain rfl : reads = [] := hfinal
      exact hphase
  | some line =>
      obtain ⟨first, others, rfl, hline, hword⟩ := hfinal
      obtain ⟨hstops, hclosed⟩ := stops_of_word hline hword
      have hserved := read_stops hphase (hreads first (by simp)) hstops
      have hall : state.readAll (first :: others) = (state.read first).readAll others := rfl
      cases line with
      | chatClosed =>
          rw [if_pos (hclosed.mpr rfl)] at hserved
          rw [hall, hserved, readAll_exited rfl]
          exact ⟨rfl, List.getLast?_concat⟩
      | error code =>
          rw [if_neg fun hbegins => nomatch hclosed.mp hbegins] at hserved
          rw [hall, hserved, readAll_exited rfl]
          refine ⟨rfl, first, ?_, List.getLast?_concat⟩
          exact hline ▸ List.prefix_append first others.flatten

/-- A client that reads the lines apart shows all messages. -/
theorem LinesApart.showsAll (hpeer : chatUsernameIsValid peer = true)
    (htexts : ∀ text ∈ texts, ∀ byte ∈ text, isLineBreak byte = false ∧ byte ≠ 0)
    (hreads : ∀ read ∈ reads, Received read)
    (hstream : reads.flatten = chatStream peer relayed texts final)
    (hapart : LinesApart peer relayed texts final reads) :
    ShowsAll peer relayed texts final reads := by
  obtain ⟨first, front, back, rfl, hlong, hgoes, hshown, hflat, hfinal⟩ :=
    hapart.split hpeer htexts (fun read hread => (hreads read hread).nonempty) hstream
  obtain ⟨hfirst, hreads⟩ := List.forall_mem_cons.mp hreads
  obtain ⟨hfront, hback⟩ := List.forall_mem_append.mp hreads
  have hopening := read_opening hfirst (hstream.trans (by
    rw [chatStream, sessionLine_eq, List.append_assoc, List.append_assoc]))
  rw [if_pos hlong] at hopening
  obtain ⟨hopened, hnothing⟩ := hopening
  obtain ⟨hmessages, hpoint⟩ := readAll_chatting hopened hreads
  obtain ⟨hsilent, hend⟩ := hfinal.heard
  have hall : CliState.readAll {} (first :: (front ++ back)) =
      (CliState.read {} first).readAll (front ++ back) := rfl
  have hlength : first.length + front.flatten.length =
      (sessionLine peer relayed ++ texts.flatMap (messageLine peer)).length := by
    rw [← hflat, List.flatten_cons, List.length_append]
  refine ⟨?_, ?_, ?_⟩
  · rw [hall, hmessages, hnothing, heardMessages_append hgoes, hshown, hsilent,
      List.append_nil, List.nil_append]
  · have hreacts := hfinal.reacts hback (readAll_goesOn hopened hfront hgoes)
    rw [← readAll_append, ← hall] at hreacts
    exact hreacts
  · rw [exitPoint]
    simp only [hopened, CliPhase.over, Bool.false_eq_true, if_false]
    rw [hpoint, stopPoint_append hgoes, hend, ← hlength, Option.map_map, Option.map_map]
    rfl

/-- However the stream of the daemon is split into reads, the client shows every
message once and in order and reacts to the final line exactly when the reads keep
the lines apart. -/
theorem reads_show_all_iff (hpeer : chatUsernameIsValid peer = true) (relayed : Bool)
    (htexts : ∀ text ∈ texts, ∀ byte ∈ text, byte ≠ 0 ∧ byte ≠ 13 ∧ byte ≠ 10)
    (hfinal : ∀ code, final = some (.error code) → ∀ byte ∈ code, byte ≠ 0)
    (hbounds : ∀ read ∈ reads, read ≠ [] ∧ read.length ≤ chatIpcMaxResponse - 1)
    (hstream : reads.flatten = chatStream peer relayed texts final) :
    ShowsAll peer relayed texts final reads ↔
      LinesApart peer relayed texts final reads := by
  have hplain : ∀ text ∈ texts, ∀ byte ∈ text, isLineBreak byte = false ∧ byte ≠ 0 := by
    intro text htext byte hbyte
    obtain ⟨hzero, hreturn, hfeed⟩ := htexts text htext byte hbyte
    exact ⟨by simp [isLineBreak, hreturn, hfeed], hzero⟩
  have hreads : ∀ read ∈ reads, Received read := by
    intro read hread
    refine ⟨(hbounds read hread).1, (hbounds read hread).2, fun byte hbyte => ?_⟩
    exact chatStream_ne_zero hpeer hplain hfinal byte
      (hstream ▸ List.mem_flatten_of_mem hread hbyte)
  exact ⟨fun hshows => hshows.linesApart hpeer hplain hreads hstream,
    fun hapart => hapart.showsAll hpeer hplain hreads hstream⟩

end Client

/-! ## Two splits -/

/-- The lines of a short chat in one read each are shown. -/
theorem reads_show_all_iff_single :
    ShowsAll (bytes "bob") false [bytes "hello"] (some .chatClosed)
      [bytes "ENCRYPTED_SESSION bob direct\n", bytes "MESSAGE bob hello\n",
        bytes "CHAT_CLOSED bob\n"] := by
  have hpeer : chatUsernameIsValid (bytes "bob") = true := by decide +kernel
  have htexts : ∀ text ∈ [bytes "hello"], ∀ byte ∈ text,
      byte ≠ 0 ∧ byte ≠ 13 ∧ byte ≠ 10 := by
    decide +kernel
  have hbounds : ∀ read ∈ [bytes "ENCRYPTED_SESSION bob direct\n",
      bytes "MESSAGE bob hello\n", bytes "CHAT_CLOSED bob\n"],
      read ≠ [] ∧ read.length ≤ chatIpcMaxResponse - 1 := by
    decide +kernel
  have hstream : [bytes "ENCRYPTED_SESSION bob direct\n", bytes "MESSAGE bob hello\n",
      bytes "CHAT_CLOSED bob\n"].flatten =
        chatStream (bytes "bob") false [bytes "hello"] (some .chatClosed) := by
    decide +kernel
  refine (reads_show_all_iff hpeer false htexts (fun _ hcode => by simp at hcode)
    hbounds hstream).mpr ?_
  exact ⟨_, [], _, rfl, by decide +kernel, by decide +kernel, nofun,
    _, [], _, rfl, by decide +kernel, by decide +kernel,
    _, [], rfl, by decide +kernel⟩

/-- A message that arrives together with the line of the session, or the final line
with a message, is not seen, and a message that is cut is shown in part. -/
theorem split_lines_lost :
    let session := bytes "ENCRYPTED_SESSION bob direct\n"
    let message := bytes "MESSAGE bob hello\n"
    let closed := bytes "CHAT_CLOSED bob\n"
    let together := CliState.readAll {} [session ++ message, closed]
    let unseen := CliState.readAll {} [session, message ++ closed]
    let cut := CliState.readAll {} [session, bytes "MESSAGE bob hel", bytes "lo\n", closed]
    session ++ message ++ closed =
        chatStream (bytes "bob") false [bytes "hello"] (some .chatClosed) ∧
      together.messages = [] ∧ unseen.phase = .chatting ∧
      cut.messages = [(bytes "bob", bytes "hel")] := by
  decide +kernel

end ProntoChat.Client
