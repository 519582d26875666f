import ProntoChat.Common.Config

/-!
# Setting the server URL

The loop that copies the configuration file replaces the first line of the
setting, drops the others and keeps everything else byte for byte.  What the
readers find in the new file follows from what they find on the single lines.
-/

namespace ProntoChat.Config

open ProntoChat.QuotedText
open ProntoChat.Protocole
open ProntoChat.Contacts
open ProntoChat.Lines

/-! ## The copied lines -/

def isServerUrlLine (line : Str) : Bool :=
  chatConfigLineHasKey line ConfigKey.serverUrl.name

/-- A text without NUL, which every C function reads whole. -/
def NulFree (text : Str) : Prop := ∀ byte ∈ text, byte ≠ 0

theorem NulFree.line {text line : Str} (htext : NulFree text)
    (hline : line ∈ lines newline text) : NulFree line := by
  intro byte hbyte
  have hflat : (lines newline text).flatten = text := flatten_lines text
  refine htext byte ?_
  rw [← hflat]
  exact List.mem_flatten_of_mem hline hbyte

section Loop

variable (url : Str) {list : List Str}

theorem rewriteLine_key (rewrite : Rewrite) {line : Str} (hline : NulFree line)
    (hkey : isServerUrlLine line = true) :
    (rewriteLine url rewrite line).output =
        (if rewrite.serverUrlWritten then rewrite.output
        else rewrite.output ++ serverUrlLine url) ∧
      (rewriteLine url rewrite line).serverUrlWritten = true := by
  rw [isServerUrlLine] at hkey
  simp [rewriteLine, cString_of_ne_zero hline, hkey]

theorem rewriteLine_other (rewrite : Rewrite) {line : Str} (hline : NulFree line)
    (hkey : isServerUrlLine line = false) :
    rewriteLine url rewrite line =
      { rewrite with
        output := rewrite.output ++ line
        hadContent := true
        lastLineHadNewline := line.getLast? == some newline } := by
  rw [isServerUrlLine] at hkey
  simp [rewriteLine, cString_of_ne_zero hline, hkey]

/-- Once the new line is written, the lines of the setting are dropped. -/
theorem foldl_written (hlines : ∀ line ∈ list, NulFree line) {rewrite : Rewrite}
    (hwritten : rewrite.serverUrlWritten = true) :
    (list.foldl (rewriteLine url) rewrite).output =
        rewrite.output ++ (list.filter fun line => !isServerUrlLine line).flatten ∧
      (list.foldl (rewriteLine url) rewrite).serverUrlWritten = true := by
  induction list generalizing rewrite with
  | nil => simp [hwritten]
  | cons line list ih =>
      obtain ⟨hline, hlines⟩ := List.forall_mem_cons.mp hlines
      cases hkey : isServerUrlLine line with
      | true =>
          obtain ⟨houtput, hnext⟩ := rewriteLine_key url rewrite hline hkey
          obtain ⟨hrest, hdone⟩ := ih hlines hnext
          rw [hwritten, if_pos rfl] at houtput
          refine ⟨?_, hdone⟩
          rw [List.foldl_cons, hrest, houtput, List.filter_cons_of_neg (by simp [hkey])]
      | false =>
          have hnext : (rewriteLine url rewrite line).serverUrlWritten = true := by
            rw [rewriteLine_other url rewrite hline hkey]
            exact hwritten
          obtain ⟨hrest, hdone⟩ := ih hlines hnext
          refine ⟨?_, hdone⟩
          rw [List.foldl_cons, hrest, rewriteLine_other url rewrite hline hkey,
            List.filter_cons_of_pos (by simp [hkey]), List.flatten_cons,
            List.append_assoc]

/-- Lines without the setting are copied. -/
theorem foldl_copied (hlines : ∀ line ∈ list, NulFree line)
    (hkeys : ∀ line ∈ list, isServerUrlLine line = false) (rewrite : Rewrite) :
    (list.foldl (rewriteLine url) rewrite).output = rewrite.output ++ list.flatten ∧
      (list.foldl (rewriteLine url) rewrite).serverUrlWritten =
        rewrite.serverUrlWritten := by
  induction list generalizing rewrite with
  | nil => simp
  | cons line list ih =>
      obtain ⟨hline, hlines⟩ := List.forall_mem_cons.mp hlines
      obtain ⟨hkey, hkeys⟩ := List.forall_mem_cons.mp hkeys
      obtain ⟨hrest, hdone⟩ := ih hlines hkeys (rewriteLine url rewrite line)
      rw [rewriteLine_other url rewrite hline hkey] at hrest hdone
      rw [List.foldl_cons, rewriteLine_other url rewrite hline hkey]
      exact ⟨by rw [hrest]; simp, hdone⟩

/-- The first line of the setting is replaced where it stands. -/
theorem rewriteConfig_key {content first : Str} {front rest : List Str}
    (hcontent : NulFree content)
    (hlines : lines newline content = front ++ first :: rest)
    (hfront : ∀ line ∈ front, isServerUrlLine line = false)
    (hfirst : isServerUrlLine first = true) :
    rewriteConfig url content =
      (front ++ serverUrlLine url ::
        rest.filter fun line => !isServerUrlLine line).flatten := by
  have hfree : ∀ line ∈ front ++ first :: rest, NulFree line := by
    intro line hline
    rw [← hlines] at hline
    exact hcontent.line hline
  obtain ⟨hfrontFree, hrestFree⟩ := List.forall_mem_append.mp hfree
  obtain ⟨hfirstFree, hrestFree⟩ := List.forall_mem_cons.mp hrestFree
  obtain ⟨hcopied, hunwritten⟩ := foldl_copied url hfrontFree hfront {}
  obtain ⟨houtput, hwritten⟩ :=
    rewriteLine_key url (front.foldl (rewriteLine url) {}) hfirstFree hfirst
  obtain ⟨hrest, hdone⟩ := foldl_written url hrestFree hwritten
  rw [rewriteConfig, hlines, List.foldl_append, List.foldl_cons, Rewrite.finish, hdone,
    if_pos rfl, hrest, houtput, hunwritten, if_neg Bool.false_ne_true, hcopied]
  simp

end Loop

/-- The text with a terminator behind its last line. -/
def terminated (content : Str) : Str :=
  if content = [] ∨ content.getLast? = some newline then content
  else content ++ [newline]

theorem getLast?_terminated {line : Str} (hline : Terminated newline line) (text : Str) :
    (text ++ line).getLast? = some newline := by
  obtain ⟨body, _, rfl⟩ := hline
  rw [← List.append_assoc, List.getLast?_concat]

theorem getLast?_unterminated {line : Str} (hline : Unterminated newline line)
    (text : Str) : (text ++ line).getLast? ≠ some newline := by
  rw [List.getLast?_append_of_ne_nil _ hline.1]
  intro hlast
  exact hline.2 (List.mem_of_getLast? hlast)

/-- A file without the setting gets it behind its last line. -/
theorem rewriteConfig_none (url : Str) {content : Str} (hcontent : NulFree content)
    (hnone : ∀ line ∈ lines newline content, isServerUrlLine line = false) :
    rewriteConfig url content = terminated content ++ serverUrlLine url := by
  have hflat : (lines newline content).flatten = content := flatten_lines content
  have hfree : ∀ line ∈ lines newline content, NulFree line :=
    fun line hline => hcontent.line hline
  obtain ⟨hcopied, hunwritten⟩ := foldl_copied url hfree hnone {}
  rw [hflat, List.nil_append] at hcopied
  rw [rewriteConfig, Rewrite.finish, hunwritten, if_neg Bool.false_ne_true, hcopied]
  -- the flags tell about the last line
  rcases List.eq_nil_or_concat (lines newline content) with hempty | ⟨front, line, hlast⟩
  · have hnil : content = [] := by rw [← hflat, hempty, List.flatten_nil]
    rw [hempty, List.foldl_nil, if_neg (by simp)]
    simp [terminated, hnil]
  · rw [List.concat_eq_append] at hlast
    have hline : line ∈ lines newline content := by simp [hlast]
    have hflags : ((lines newline content).foldl (rewriteLine url) {}).hadContent = true ∧
        ((lines newline content).foldl (rewriteLine url) {}).lastLineHadNewline =
          (line.getLast? == some newline) := by
      rw [hlast, List.foldl_concat,
        rewriteLine_other url _ (hfree line hline) (hnone line hline)]
      exact ⟨rfl, rfl⟩
    have hjoined : content = front.flatten ++ line := by
      rw [← hflat, hlast, List.flatten_append, List.flatten_singleton]
    have hlist : LineList newline (front ++ [line]) := by
      rw [← hlast]
      exact lineList_lines content
    rw [hflags.1, hflags.2, terminated]
    cases (hlist.of_append (List.cons_ne_nil line [])).2 with
    | last hopen =>
        have hend := getLast?_unterminated hopen front.flatten
        have hlineEnd := getLast?_unterminated hopen []
        rw [← hjoined] at hend
        rw [List.nil_append] at hlineEnd
        have hnonempty : content ≠ [] := by
          rw [hjoined]
          exact List.append_ne_nil_of_right_ne_nil _ hopen.1
        rw [if_pos ⟨rfl, by simpa using hlineEnd⟩, if_neg (by simp [hnonempty, hend])]
        simp
    | cons hclosed _ =>
        have hend := getLast?_terminated hclosed front.flatten
        have hlineEnd := getLast?_terminated hclosed []
        rw [← hjoined] at hend
        rw [List.nil_append] at hlineEnd
        rw [if_neg (by simp [hlineEnd]), if_pos (Or.inr hend)]

/-- Only an unterminated last line changes. -/
theorem lines_terminated_cases (content : Str) :
    ((∀ line ∈ lines newline content, Terminated newline line) ∧
        terminated content = content) ∨
      ∃ front line, lines newline content = front ++ [line] ∧
        (∀ line ∈ front, Terminated newline line) ∧ Unterminated newline line ∧
        lines newline (terminated content) = front ++ [line ++ [newline]] := by
  have hflat : (lines newline content).flatten = content := flatten_lines content
  have hlist : LineList newline (lines newline content) := lineList_lines content
  rcases hlist.terminated_or with hall | ⟨front, line, hlines, hfront, hopen⟩
  · refine Or.inl ⟨hall, if_pos ?_⟩
    rcases List.eq_nil_or_concat (lines newline content) with hempty | ⟨front, line, hlast⟩
    · left
      rw [← hflat, hempty, List.flatten_nil]
    · right
      rw [List.concat_eq_append] at hlast
      rw [← hflat, hlast, List.flatten_append, List.flatten_singleton]
      exact getLast?_terminated (hall line (by simp [hlast])) _
  · refine Or.inr ⟨front, line, hlines, hfront, hopen, ?_⟩
    have hjoined : content = front.flatten ++ line := by
      rw [← hflat, hlines, List.flatten_append, List.flatten_singleton]
    have hend := getLast?_unterminated hopen front.flatten
    rw [← hjoined] at hend
    have hnonempty : content ≠ [] := by
      rw [hjoined]
      exact List.append_ne_nil_of_right_ne_nil _ hopen.1
    have hclosed : terminated content = (front ++ [line ++ [newline]]).flatten := by
      rw [terminated, if_neg (by simp [hnonempty, hend]), hjoined]
      simp
    rw [hclosed]
    exact lines_flatten (.append hfront (.cons ⟨line, hopen.2, rfl⟩ .nil))

theorem lines_terminated (content : Str) :
    ∀ line ∈ lines newline (terminated content), Terminated newline line := by
  rcases lines_terminated_cases content with
    ⟨hall, hsame⟩ | ⟨front, line, _, hfront, hopen, hlines⟩
  · rw [hsame]
    exact hall
  · rw [hlines]
    exact List.forall_mem_append.mpr
      ⟨hfront, List.forall_mem_singleton.mpr ⟨line, hopen.2, rfl⟩⟩

/-! ## Lines of the setting -/

theorem dropWhile_concat (p : UInt8 → Bool) {entry : UInt8} (hentry : p entry = false)
    (text : Str) : (text ++ [entry]).dropWhile p = text.dropWhile p ++ [entry] := by
  induction text with
  | nil => simp [hentry]
  | cons byte text ih =>
      cases hbyte : p byte with
      | true => simp only [List.cons_append, List.dropWhile_cons_of_pos hbyte, ih]
      | false =>
          simp only [List.cons_append,
            List.dropWhile_cons_of_neg (Bool.eq_false_iff.mp hbyte)]

/-- The terminator of a line says nothing about its key. -/
theorem hasKey_concat (line : Str) {key : Str} (hkey : newline ∉ key) :
    chatConfigLineHasKey (line ++ [newline]) key = chatConfigLineHasKey line key := by
  have hblank : isBlankOrTab newline = false := by decide
  simp only [chatConfigLineHasKey, dropWhile_concat isBlankOrTab hblank]
  generalize line.dropWhile isBlankOrTab = text
  have hiff : key.isPrefixOf (text ++ [newline]) = true ↔ key.isPrefixOf text = true := by
    rw [List.isPrefixOf_iff_prefix, List.isPrefixOf_iff_prefix, List.prefix_concat_iff]
    refine or_iff_right ?_
    rintro rfl
    simp at hkey
  cases hstarts : key.isPrefixOf text with
  | false =>
      have hother : key.isPrefixOf (text ++ [newline]) = false := by
        rw [← Bool.not_eq_true, hiff, hstarts]
        exact Bool.false_ne_true
      rw [hother, Bool.false_and, Bool.false_and]
  | true =>
      have hlength : key.length ≤ text.length :=
        (List.isPrefixOf_iff_prefix.mp hstarts).length_le
      rw [hiff.mpr hstarts, List.drop_append_of_le_length hlength,
        dropWhile_concat isBlankOrTab hblank]
      cases (text.drop key.length).dropWhile isBlankOrTab with
      | nil => decide
      | cons byte rest => rfl

theorem isServerUrlLine_concat (line : Str) :
    isServerUrlLine (line ++ [newline]) = isServerUrlLine line :=
  hasKey_concat line (by decide +kernel)

/-- A line that the reader of the setting accepts is a line of the setting. -/
theorem isServerUrlLine_append (rest : Str) :
    isServerUrlLine (bytes "server_url = \"" ++ rest) = true := by
  have hword : bytes "server_url = \"" =
      [115, 101, 114, 118, 101, 114, 95, 117, 114, 108, 32, 61, 32, 34] := by
    decide +kernel
  have hname : ConfigKey.serverUrl.name =
      [115, 101, 114, 118, 101, 114, 95, 117, 114, 108] := by
    decide +kernel
  simp [isServerUrlLine, chatConfigLineHasKey, hword, hname, isBlankOrTab]

theorem isServerUrlLine_serverUrlLine (url : Str) :
    isServerUrlLine (serverUrlLine url) = true := by
  rw [serverUrlLine, List.append_assoc]
  exact isServerUrlLine_append _

/-- A line of the setting begins with its name or a blank. -/
theorem isServerUrlLine_starts {line : Str} (hline : isServerUrlLine line = true) :
    ConfigKey.serverUrl.name <+: line ∨
      ∃ byte rest, line = byte :: rest ∧ isBlankOrTab byte = true := by
  rw [isServerUrlLine, chatConfigLineHasKey, Bool.and_eq_true,
    List.isPrefixOf_iff_prefix] at hline
  cases line with
  | nil => exact absurd hline.1 (by decide +kernel)
  | cons byte rest =>
      cases hblank : isBlankOrTab byte with
      | true => exact Or.inr ⟨byte, rest, rfl, hblank⟩
      | false =>
          rw [List.dropWhile_cons_of_neg (Bool.eq_false_iff.mp hblank)] at hline
          exact Or.inl hline.1

theorem terminated_serverUrlLine {url : Str} (hurl : newline ∉ url) :
    Terminated newline (serverUrlLine url) := by
  have hword : newline ∉ bytes "server_url = \"" ++ url ++ [quoteMark] := by
    simp only [List.mem_append, not_or]
    exact ⟨⟨by decide +kernel, hurl⟩, by decide⟩
  exact ⟨_, hword, by simp [serverUrlLine]⟩

/-! ## The rewritten file -/

/-- The file whose lines are replaced: an unterminated last line is terminated
when the new line is written behind it. -/
def prepared (content : Str) : Str :=
  if (lines newline content).any isServerUrlLine then content else terminated content

theorem prepared_of_none {content : Str}
    (hnone : ∀ line ∈ lines newline content, isServerUrlLine line = false) :
    prepared content = terminated content := by
  rw [prepared, if_neg]
  simpa using hnone

theorem prepared_of_mem {content line : Str} (hmem : line ∈ lines newline content)
    (hline : isServerUrlLine line = true) : prepared content = content := by
  rw [prepared, if_pos]
  exact List.any_eq_true.mpr ⟨line, hmem, hline⟩

theorem isServerUrlLine_terminated {content : Str}
    (hnone : ∀ line ∈ lines newline content, isServerUrlLine line = false) :
    ∀ line ∈ lines newline (terminated content), isServerUrlLine line = false := by
  rcases lines_terminated_cases content with
    ⟨_, hsame⟩ | ⟨front, line, hlines, _, _, hclosed⟩
  · rw [hsame]
    exact hnone
  · rw [hlines, List.forall_mem_append, List.forall_mem_singleton] at hnone
    rw [hclosed, List.forall_mem_append, List.forall_mem_singleton,
      isServerUrlLine_concat]
    exact hnone

/-- The loop replaces lines. -/
theorem lines_rewriteConfig {url : Str} (hurl : newline ∉ url) {content : Str}
    (hcontent : NulFree content) :
    lines newline (rewriteConfig url content) =
      replaceFirst isServerUrlLine (serverUrlLine url) (lines newline (prepared content)) := by
  have hnew := terminated_serverUrlLine hurl
  rcases exists_first isServerUrlLine (lines newline content) with
    hnone | ⟨front, line, rest, hlines, hfront, hline⟩
  · have hflat : (lines newline (terminated content)).flatten = terminated content :=
      flatten_lines _
    have hlist : LineList newline (lines newline (terminated content) ++
        [serverUrlLine url]) :=
      .append (lines_terminated content) (.cons hnew .nil)
    rw [prepared_of_none hnone, replaceFirst_of_none (isServerUrlLine_terminated hnone),
      rewriteConfig_none url hcontent hnone]
    have hjoined := lines_flatten hlist
    rw [List.flatten_append, hflat, List.flatten_singleton] at hjoined
    exact hjoined
  · have hmem : line ∈ lines newline content := by simp [hlines]
    have hreplaced := (lineList_lines content).replaceFirst hnew
      (Or.inl ⟨line, hmem, hline⟩ :
        (∃ line ∈ lines newline content, isServerUrlLine line = true) ∨ _)
    rw [prepared_of_mem hmem hline, rewriteConfig_key url hcontent hlines hfront hline,
      ← lines_flatten hreplaced, hlines, replaceFirst_append hfront,
      replaceFirst_of_pos hline]

theorem urlByte_plain {byte : UInt8} (hbyte : urlByte byte = true) :
    byte ≠ 0 ∧ byte ≠ newline ∧ byte ≠ quoteMark := by
  have hall : ∀ value : Fin 256, urlByte (UInt8.ofFin value) = true →
      UInt8.ofFin value ≠ 0 ∧ UInt8.ofFin value ≠ newline ∧
        UInt8.ofFin value ≠ quoteMark := by
    decide +kernel
  exact hall byte.toFin hbyte

/-- An accepted URL is short and cannot end its line or its quotation. -/
theorem url_plain {url : Str} (hurl : chatServerUrlIsValid (some url) = true) :
    url.length < chatIdentityServerUrlMax ∧
      ∀ byte ∈ url, byte ≠ 0 ∧ byte ≠ newline ∧ byte ≠ quoteMark := by
  simp only [chatServerUrlIsValid] at hurl
  split_ifs at hurl with hlength
  split at hurl
  · exact absurd hurl Bool.false_ne_true
  · rw [Bool.and_eq_true, List.all_eq_true] at hurl
    exact ⟨by omega, fun byte hbyte => urlByte_plain (hurl.2 byte hbyte)⟩

theorem newline_notMem {url : Str} (hurl : chatServerUrlIsValid (some url) = true) :
    newline ∉ url :=
  fun hmem => ((url_plain hurl).2 newline hmem).2.1 rfl

theorem nulFree_terminated {content : Str} (hcontent : NulFree content) :
    NulFree (terminated content) := by
  rw [terminated]
  split_ifs
  · exact hcontent
  · exact List.forall_mem_append.mpr ⟨hcontent, by simp [newline]⟩

theorem nulFree_serverUrlLine {url : Str} (hurl : chatServerUrlIsValid (some url) = true) :
    NulFree (serverUrlLine url) := by
  refine List.forall_mem_append.mpr ⟨List.forall_mem_append.mpr
    ⟨by decide +kernel, fun byte hbyte => ((url_plain hurl).2 byte hbyte).1⟩, ?_⟩
  exact List.forall_mem_cons.mpr ⟨by decide, List.forall_mem_singleton.mpr (by decide)⟩

theorem nulFree_rewriteConfig {url content : Str}
    (hurl : chatServerUrlIsValid (some url) = true) (hcontent : NulFree content) :
    NulFree (rewriteConfig url content) := by
  have hflat : (lines newline (rewriteConfig url content)).flatten =
      rewriteConfig url content := flatten_lines _
  have hprepared : NulFree (prepared content) := by
    rw [prepared]
    split_ifs
    · exact hcontent
    · exact nulFree_terminated hcontent
  intro byte hbyte
  rw [← hflat, lines_rewriteConfig (newline_notMem hurl) hcontent] at hbyte
  obtain ⟨line, hline, hmem⟩ := List.mem_flatten.mp hbyte
  rcases mem_replaceFirst hline with rfl | hold
  · exact nulFree_serverUrlLine hurl byte hmem
  · exact hprepared.line hold byte hmem

theorem setServerUrl_works {url : Str} (hurl : chatServerUrlIsValid (some url) = true)
    (content : Str) :
    chatIdentitySetServerUrl {} (some content) (some url) =
      (.ok (), some (rewriteConfig url content)) := by
  simp [chatIdentitySetServerUrl, hurl]

/-- A new server URL stands on one line, in the place of the first line of the
setting or at the end; all other lines stay as they are, and only the last URL
counts. -/
theorem rewrite_canonical {content first second : Str} (hcontent : NulFree content)
    (hfirst : chatServerUrlIsValid (some first) = true)
    (hsecond : chatServerUrlIsValid (some second) = true) :
    chatIdentitySetServerUrl {} (some content) (some first) =
        (.ok (), some (rewriteConfig first content)) ∧
      (lines newline (rewriteConfig first content)).filter isServerUrlLine =
        [serverUrlLine first] ∧
      ((∀ line ∈ lines newline content, isServerUrlLine line = false) ∧
          lines newline (rewriteConfig first content) =
            lines newline (terminated content) ++ [serverUrlLine first] ∨
        ∃ front line rest, lines newline content = front ++ line :: rest ∧
          (∀ line ∈ front, isServerUrlLine line = false) ∧ isServerUrlLine line = true ∧
          lines newline (rewriteConfig first content) =
            front ++ serverUrlLine first :: rest.filter fun line => !isServerUrlLine line) ∧
      rewriteConfig second (rewriteConfig first content) = rewriteConfig second content := by
  have hnewFirst := newline_notMem hfirst
  have hnewSecond := newline_notMem hsecond
  have hkey := isServerUrlLine_serverUrlLine first
  have hlines := lines_rewriteConfig hnewFirst hcontent
  have hone : (lines newline (rewriteConfig first content)).filter isServerUrlLine =
      [serverUrlLine first] := by
    rw [hlines]
    exact filter_replaceFirst hkey _
  refine ⟨setServerUrl_works hfirst content, hone, ?_, ?_⟩
  · rcases exists_first isServerUrlLine (lines newline content) with
      hnone | ⟨front, line, rest, hsplit, hfront, hline⟩
    · refine Or.inl ⟨hnone, ?_⟩
      rw [hlines, prepared_of_none hnone,
        replaceFirst_of_none (isServerUrlLine_terminated hnone)]
    · refine Or.inr ⟨front, line, rest, hsplit, hfront, hline, ?_⟩
      rw [hlines, prepared_of_mem (by simp [hsplit]) hline, hsplit,
        replaceFirst_append hfront, replaceFirst_of_pos hline]
  · -- the file of the first call has the setting, so nothing is terminated
    have hmem : serverUrlLine first ∈
        (lines newline (rewriteConfig first content)).filter isServerUrlLine := by
      rw [hone]
      exact List.mem_singleton_self _
    have hprepared := prepared_of_mem (List.mem_filter.mp hmem).1 hkey
    have hagain := lines_rewriteConfig hnewSecond (nulFree_rewriteConfig hfirst hcontent)
    rw [hprepared, hlines, replaceFirst_replaceFirst hkey,
      ← lines_rewriteConfig hnewSecond hcontent] at hagain
    have hflat (text : Str) : (lines newline text).flatten = text := flatten_lines text
    rw [← hflat (rewriteConfig second (rewriteConfig first content)), hagain, hflat]

/-- A file with two lines of the setting and an open last line. -/
def editedConfig : Str :=
  bytes "username = \"alex\"\n server_url=x\n# end\nserver_url = \"ws://b\"\nstun_port = \"1"

/-- The first line of the setting is replaced and the second one dropped. -/
theorem rewrite_canonical_edited :
    lines newline (rewriteConfig (bytes "ws://a") editedConfig) =
        [bytes "username = \"alex\"\n", serverUrlLine (bytes "ws://a"),
          bytes "# end\n", bytes "stun_port = \"1"] ∧
      rewriteConfig (bytes "wss://c/d") (rewriteConfig (bytes "ws://a") editedConfig) =
        rewriteConfig (bytes "wss://c/d") editedConfig := by
  have hinputs : NulFree editedConfig ∧
      chatServerUrlIsValid (some (bytes "ws://a")) = true ∧
      chatServerUrlIsValid (some (bytes "wss://c/d")) = true ∧
      lines newline (rewriteConfig (bytes "ws://a") editedConfig) =
        [bytes "username = \"alex\"\n", serverUrlLine (bytes "ws://a"),
          bytes "# end\n", bytes "stun_port = \"1"] := by
    refine ⟨?_, ?_⟩
    · unfold NulFree
      decide +kernel
    · decide +kernel
  exact ⟨hinputs.2.2.2,
    (rewrite_canonical hinputs.1 hinputs.2.1 hinputs.2.2.1).2.2.2⟩

end ProntoChat.Config
