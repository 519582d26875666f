import ProntoChat.Common.Rewrite

/-!
# Settings before and after a new server URL

The loops that read settings look at the parts of a file that fit their
buffers.  On a file whose lines fit, a part is a line, and setting the server
URL changes nothing but the server URL.  A longer line can hide a setting in its
middle, which the loop that rewrites the file does not see.
-/

namespace ProntoChat.Config

open ProntoChat.QuotedText
open ProntoChat.Protocole
open ProntoChat.Contacts
open ProntoChat.Lines

/-! ## Parts of lines -/

/-- The parts of a text are those of its lines. -/
theorem fgetsLinesFrom_terminated (limit : ℕ) {body : Str} (hbody : newline ∉ body)
    (room : ℕ) (read text : Str) :
    fgetsLinesFrom limit room read (body ++ newline :: text) =
      fgetsLinesFrom limit room read (body ++ [newline]) ++
        fgetsLinesFrom limit limit [] text := by
  induction body generalizing room read with
  | nil => simp [fgetsLinesFrom]
  | cons byte body ih =>
      simp only [List.mem_cons, not_or] at hbody
      simp only [List.cons_append, fgetsLinesFrom]
      split_ifs
      · rw [ih hbody.2, List.cons_append]
      · exact ih hbody.2 _ _

/-- The beginning of a line is read while there is room. -/
theorem fgetsLinesFrom_body (limit : ℕ) {body : Str} (hbody : newline ∉ body) {room : ℕ}
    (hroom : body.length < room) (read text : Str) :
    fgetsLinesFrom limit room read (body ++ text) =
      fgetsLinesFrom limit (room - body.length) (read ++ body) text := by
  induction body generalizing room read with
  | nil => simp
  | cons byte body ih =>
      simp only [List.mem_cons, not_or, List.length_cons] at hbody hroom
      have hgoes : ¬ (byte = newline ∨ room ≤ 1) := by
        rintro (hsame | hfull)
        · exact hbody.1 hsame.symm
        · omega
      rw [List.cons_append, fgetsLinesFrom, if_neg hgoes, ih hbody.2 (by omega),
        List.append_assoc, List.singleton_append, List.length_cons, Nat.sub_sub,
        Nat.add_comm 1]

/-- A part is the first one or lies in the rest of the text. -/
theorem mem_fgetsLinesFrom {limit room : ℕ} {read text part : Str}
    (hpart : part ∈ fgetsLinesFrom limit room read text) :
    (∃ next, next <+: text ∧ part = read ++ next) ∨ part <:+: text := by
  induction text generalizing room read with
  | nil =>
      rw [fgetsLinesFrom] at hpart
      split_ifs at hpart
      · exact absurd hpart List.not_mem_nil
      · exact Or.inl ⟨[], List.nil_prefix, by simpa using hpart⟩
  | cons byte text ih =>
      rw [fgetsLinesFrom] at hpart
      split_ifs at hpart
      · rcases List.mem_cons.mp hpart with rfl | hpart
        · exact Or.inl ⟨[byte], by simp, rfl⟩
        · right
          rcases ih hpart with ⟨next, hnext, rfl⟩ | hinside
          · exact hnext.isInfix.trans (List.suffix_cons byte text).isInfix
          · exact hinside.trans (List.suffix_cons byte text).isInfix
      · rcases ih hpart with ⟨next, hnext, rfl⟩ | hinside
        · exact Or.inl ⟨byte :: next, List.cons_prefix_cons.mpr ⟨rfl, hnext⟩, by simp⟩
        · exact Or.inr (hinside.trans (List.suffix_cons byte text).isInfix)

/-- A line that fits the buffer is one part. -/
theorem fgetsLines_short {size : ℕ} {line : Str}
    (hline : Terminated newline line ∨ Unterminated newline line)
    (hlength : line.length < size) : fgetsLines size line = [line] := by
  rcases hline with ⟨body, hbody, rfl⟩ | ⟨hnonempty, hopen⟩
  · simp only [List.length_append, List.length_singleton] at hlength
    rw [fgetsLines, fgetsLinesFrom_body _ hbody (by omega)]
    simp [fgetsLinesFrom]
  · obtain ⟨body, last, rfl⟩ := (List.eq_nil_or_concat line).resolve_left hnonempty
    rw [List.concat_eq_append] at *
    simp only [List.mem_append, not_or, List.length_append, List.length_singleton] at *
    rw [fgetsLines, fgetsLinesFrom_body _ hopen.1 (by omega), List.nil_append,
      fgetsLinesFrom]
    split_ifs
    · rfl
    · rw [fgetsLinesFrom, if_neg (by simp)]

/-! ## Readers -/

namespace LineReader

variable {Result : Type} (reader : LineReader Result)

theorem read_append {line : Str} (hline : Terminated newline line) (text : Str) :
    reader.read (line ++ text) = (reader.read line).or (reader.read text) := by
  obtain ⟨body, hbody, rfl⟩ := hline
  rw [read, fgetsLines, List.append_assoc, List.singleton_append,
    fgetsLinesFrom_terminated _ hbody, List.findSome?_append]
  rfl

/-- The first line that decides ends the loop. -/
theorem read_flatten {list : List Str} (hlist : LineList newline list) :
    reader.read list.flatten = list.findSome? reader.read := by
  induction hlist with
  | nil => rfl
  | last _ => simp
  | cons hline _ ih =>
      rw [List.flatten_cons, read_append reader hline, ih, List.findSome?_cons]
      cases reader.read _ <;> rfl

theorem read_lines (text : Str) :
    reader.read text = (lines newline text).findSome? reader.read := by
  have hflat : (lines newline text).flatten = text := flatten_lines text
  rw [← read_flatten reader (lineList_lines text), hflat]

/-- The terminator of a line does not matter. -/
structure Steady : Prop where
  blank : reader.decides [newline] = none
  concat : ∀ line, newline ∉ line → reader.decides (line ++ [newline]) = reader.decides line

variable {reader}

theorem Steady.findSome?_concat (hsteady : reader.Steady) (limit : ℕ) {text : Str}
    (htext : newline ∉ text) (room : ℕ) {read : Str} (hread : newline ∉ read) :
    (fgetsLinesFrom limit room read (text ++ [newline])).findSome? reader.decides =
      (fgetsLinesFrom limit room read text).findSome? reader.decides := by
  induction text generalizing room read with
  | nil =>
      by_cases hempty : read = []
      · simp [fgetsLinesFrom, hempty, hsteady.blank]
      · simp [fgetsLinesFrom, hempty, hsteady.concat read hread]
  | cons byte text ih =>
      simp only [List.mem_cons, not_or] at htext
      rw [List.cons_append, fgetsLinesFrom, fgetsLinesFrom]
      split_ifs
      · rw [List.findSome?_cons, List.findSome?_cons, ih htext.2 _ List.not_mem_nil]
      · exact ih htext.2 _ (by simp [hread, htext.1])

theorem Steady.read_concat (hsteady : reader.Steady) {line : Str} (hline : newline ∉ line) :
    reader.read (line ++ [newline]) = reader.read line :=
  hsteady.findSome?_concat _ hline _ List.not_mem_nil

end LineReader

/-! ## The readers of the program -/

theorem cString_concat (line : Str) :
    cString (line ++ [newline]) = cString line ∨
      cString line = line ∧ cString (line ++ [newline]) = line ++ [newline] := by
  by_cases hzero : ∀ byte ∈ line, byte ≠ 0
  · right
    have hend : ∀ byte ∈ line ++ [newline], byte ≠ 0 :=
      List.forall_mem_append.mpr ⟨hzero, List.forall_mem_singleton.mpr (by decide)⟩
    exact ⟨cString_of_ne_zero hzero, cString_of_ne_zero hend⟩
  · left
    have hstop : (line.takeWhile (· != 0)).length ≠ line.length := by
      intro hwhole
      refine hzero fun byte hbyte => ?_
      have hall := List.takeWhile_eq_self_iff.mp
        (List.IsPrefix.eq_of_length (List.takeWhile_prefix _) hwhole)
      simpa using hall byte hbyte
    rw [cString, cString, List.takeWhile_append, if_neg hstop]

/-- A reader that looks at the C string on a line is steady if it is so on whole
lines. -/
theorem steady_of_cString {Result : Type} {reader : LineReader Result}
    (decides : Str → Option Result)
    (hreader : ∀ line, reader.decides line = decides (cString line))
    (hblank : decides [newline] = none)
    (hconcat : ∀ line, newline ∉ line → decides (line ++ [newline]) = decides line) :
    reader.Steady where
  blank := by
    rw [hreader, cString_of_ne_zero (List.forall_mem_singleton.mpr (by decide)), hblank]
  concat := by
    intro line hline
    rw [hreader, hreader]
    rcases cString_concat line with hsame | ⟨hwhole, hend⟩
    · rw [hsame]
    · rw [hwhole, hend, hconcat line hline]

theorem isPrefixOf_concat {word : Str} (hword : newline ∉ word) (line : Str) :
    word.isPrefixOf (line ++ [newline]) = word.isPrefixOf line := by
  rw [Bool.eq_iff_iff, List.isPrefixOf_iff_prefix, List.isPrefixOf_iff_prefix,
    List.prefix_concat_iff]
  refine or_iff_right ?_
  rintro rfl
  simp at hword

theorem quotedValue_concat (outSize : ℕ) (rest : Str) :
    quotedValue outSize (rest ++ [newline]) = quotedValue outSize rest := by
  by_cases hquote : quoteMark ∈ rest
  · have hstop : (rest.takeWhile (· != quoteMark)).length ≠ rest.length := by
      intro hwhole
      have hall := List.takeWhile_eq_self_iff.mp
        (List.IsPrefix.eq_of_length (List.takeWhile_prefix _) hwhole)
      simpa using hall quoteMark hquote
    rw [quotedValue, quotedValue, List.takeWhile_append, if_neg hstop]
    simp [hquote]
  · have hend : quoteMark ≠ newline := by decide
    simp [quotedValue, hquote, hend]

theorem steady_valueReader {key : Str} (hkey : newline ∉ key) (outSize : ℕ) :
    (valueReader key outSize).Steady := by
  have hword : newline ∉ valuePrefix key := by
    simp only [valuePrefix, List.mem_append, not_or]
    exact ⟨hkey, by decide +kernel⟩
  refine steady_of_cString (fun line =>
    if (valuePrefix key).isPrefixOf line then
      some (quotedValue outSize (line.drop (valuePrefix key).length))
    else none) (fun _ => rfl) ?_ fun line _ => ?_
  · have hlong : (valuePrefix key).isPrefixOf [newline] = false := by
      rw [← Bool.not_eq_true, List.isPrefixOf_iff_prefix]
      intro hstarts
      have hlength := hstarts.length_le
      have hfour : (bytes " = \"").length = 4 := by decide +kernel
      simp only [valuePrefix, List.length_append, hfour, List.length_singleton] at hlength
      omega
    simp [hlong]
  · simp only [isPrefixOf_concat hword]
    split_ifs with hstarts
    · have hlength := (List.isPrefixOf_iff_prefix.mp hstarts).length_le
      rw [List.drop_append_of_le_length hlength, quotedValue_concat]
    · rfl

theorem dropWhile_concat_of_pos (p : UInt8 → Bool) {entry : UInt8} (hentry : p entry = true)
    (text : Str) :
    (text ++ [entry]).dropWhile p =
      if text.dropWhile p = [] then [] else text.dropWhile p ++ [entry] := by
  induction text with
  | nil => simp [hentry]
  | cons byte text ih =>
      cases hbyte : p byte with
      | true => simp only [List.cons_append, List.dropWhile_cons_of_pos hbyte, ih]
      | false =>
          simp only [List.cons_append,
            List.dropWhile_cons_of_neg (Bool.eq_false_iff.mp hbyte), List.cons_ne_nil,
            if_false]

theorem takeWhile_concat_of_neg (p : UInt8 → Bool) {entry : UInt8} (hentry : p entry = false)
    (text : Str) : (text ++ [entry]).takeWhile p = text.takeWhile p := by
  rw [List.takeWhile_append]
  split_ifs with hwhole
  · rw [List.takeWhile_cons_of_neg (by simp [hentry]), List.append_nil]
    exact (List.IsPrefix.eq_of_length (List.takeWhile_prefix p) hwhole).symm
  · rfl

theorem scanUsername_concat (line : Str) :
    scanUsername (line ++ [newline]) = scanUsername line := by
  have hspace : isSpace newline = true := by decide
  have hother : usernameByte newline = false := by decide
  simp only [scanUsername, isPrefixOf_concat (by decide +kernel : newline ∉ bytes "username")]
  split_ifs with hstarts
  · have hlength := (List.isPrefixOf_iff_prefix.mp hstarts).length_le
    have height : (bytes "username").length = 8 := by decide +kernel
    rw [List.drop_append_of_le_length (height ▸ hlength),
      dropWhile_concat_of_pos isSpace hspace]
    cases (line.drop 8).dropWhile isSpace with
    | nil => rfl
    | cons equals rest =>
        rw [if_neg (List.cons_ne_nil _ _), List.cons_append]
        by_cases hequals : equals = 61
        · subst hequals
          simp only [dropWhile_concat_of_pos isSpace hspace]
          cases rest.dropWhile isSpace with
          | nil => rfl
          | cons quote rest =>
              rw [if_neg (List.cons_ne_nil _ _), List.cons_append]
              by_cases hquote : quote = 34
              · subst hquote
                simp only [takeWhile_concat_of_neg usernameByte hother]
              · simp [hquote]
        · simp [hequals]
  · rfl

theorem steady_usernameReader : usernameReader.Steady := by
  refine steady_of_cString (fun line => (scanUsername line).map fun parsed =>
    if chatUsernameIsValid parsed then .ok parsed else .error .badFile)
    (fun _ => rfl) (by decide +kernel) fun line _ => ?_
  simp only [scanUsername_concat]

/-! ## The new line -/

theorem serverUrlLine_eq (url : Str) :
    serverUrlLine url = valuePrefix ConfigKey.serverUrl.name ++ (url ++ [quoteMark, newline]) := by
  have hword : bytes "server_url = \"" = valuePrefix ConfigKey.serverUrl.name := by
    decide +kernel
  rw [serverUrlLine, hword, List.append_assoc]

theorem length_serverUrlLine {url : Str} (hurl : chatServerUrlIsValid (some url) = true) :
    (serverUrlLine url).length < 512 := by
  have hlength := (url_plain hurl).1
  have hmax : chatIdentityServerUrlMax = 256 := rfl
  have hword : (bytes "server_url = \"").length = 14 := by decide +kernel
  simp only [serverUrlLine, List.length_append, hword, List.length_cons, List.length_nil]
  omega

theorem read_value_serverUrlLine {url : Str} (hurl : chatServerUrlIsValid (some url) = true)
    (key : Str) (outSize : ℕ) :
    (valueReader key outSize).read (serverUrlLine url) =
      if (valuePrefix key).isPrefixOf (serverUrlLine url) then
        some (quotedValue outSize ((serverUrlLine url).drop (valuePrefix key).length))
      else none := by
  have hshort : fgetsLines (valueReader key outSize).size (serverUrlLine url) =
      [serverUrlLine url] :=
    fgetsLines_short (Or.inl (terminated_serverUrlLine (newline_notMem hurl)))
      (length_serverUrlLine hurl)
  rw [LineReader.read, hshort, List.findSome?_singleton, valueReader]
  simp only [cString_of_ne_zero (nulFree_serverUrlLine hurl)]

/-- The setting is found on its line. -/
theorem read_serverUrl_serverUrlLine {url : Str}
    (hurl : chatServerUrlIsValid (some url) = true) :
    (valueReader ConfigKey.serverUrl.name chatIdentityServerUrlMax).read
      (serverUrlLine url) = some (.ok url) := by
  obtain ⟨hlength, hplain⟩ := url_plain hurl
  have hstarts : (valuePrefix ConfigKey.serverUrl.name).isPrefixOf (serverUrlLine url) =
      true := by
    rw [List.isPrefixOf_iff_prefix, serverUrlLine_eq]
    exact List.prefix_append _ _
  have hunquoted : ∀ byte ∈ url, (byte != quoteMark) = true := by
    intro byte hbyte
    simpa using (hplain byte hbyte).2.2
  rw [read_value_serverUrlLine hurl, if_pos hstarts, serverUrlLine_eq, List.drop_left,
    quotedValue, if_pos (by simp), List.takeWhile_append_of_pos hunquoted]
  simp [chatCopyString, hlength]

/-- No other setting is. -/
theorem read_other_serverUrlLine {url : Str} (hurl : chatServerUrlIsValid (some url) = true)
    {key : ConfigKey} (hkey : key ≠ .serverUrl) (outSize : ℕ) :
    (valueReader key.name outSize).read (serverUrlLine url) = none := by
  rw [read_value_serverUrlLine hurl, if_neg]
  rw [List.isPrefixOf_iff_prefix, serverUrlLine_eq]
  intro hstarts
  have hapart : ¬ valuePrefix key.name <+: valuePrefix ConfigKey.serverUrl.name ∧
      ¬ valuePrefix ConfigKey.serverUrl.name <+: valuePrefix key.name := by
    cases key with
    | serverUrl => exact absurd rfl hkey
    | _ => decide +kernel
  rcases List.prefix_or_prefix_of_prefix hstarts (List.prefix_append _ _) with hbefore | hbehind
  · exact hapart.1 hbefore
  · exact hapart.2 hbehind

/-- Where a username is found, a name follows a quotation mark. -/
theorem scanUsername_some {line parsed : Str} (hscan : scanUsername line = some parsed) :
    bytes "username" <+: line ∧
      ∃ front byte rest, line = front ++ quoteMark :: byte :: rest ∧
        usernameByte byte = true := by
  unfold scanUsername at hscan
  split_ifs at hscan with hstarts
  refine ⟨List.isPrefixOf_iff_prefix.mp hstarts, ?_⟩
  split at hscan
  · rename_i rest hequals
    split at hscan
    · rename_i value hquote
      simp only at hscan
      split_ifs at hscan with hempty
      cases value with
      | nil => simp at hempty
      | cons byte value =>
          have hbyte : usernameByte byte = true := by
            by_contra hother
            simp [List.takeWhile_cons_of_neg hother] at hempty
          obtain ⟨front, hfront⟩ := List.dropWhile_suffix (l := line.drop 8) isSpace
          obtain ⟨middle, hmiddle⟩ := List.dropWhile_suffix (l := rest) isSpace
          refine ⟨line.take 8 ++ front ++ 61 :: middle, byte, value, ?_, hbyte⟩
          rw [hquote] at hmiddle
          rw [hequals, ← hmiddle] at hfront
          rw [List.append_assoc, List.append_assoc, List.cons_append, hfront,
            List.take_append_drop]
    · exact nomatch hscan
  · exact nomatch hscan

/-- The new line has one quotation mark behind its beginning, and no name follows
it. -/
theorem read_username_serverUrlLine {url : Str}
    (hurl : chatServerUrlIsValid (some url) = true) :
    usernameReader.read (serverUrlLine url) = none := by
  obtain ⟨_, hplain⟩ := url_plain hurl
  have hword : newline ∉ valuePrefix ConfigKey.serverUrl.name ∧
      (valuePrefix ConfigKey.serverUrl.name).length = 14 ∧
      ¬ bytes "username" <+: valuePrefix ConfigKey.serverUrl.name ∧
      ¬ valuePrefix ConfigKey.serverUrl.name <+: bytes "username" := by
    decide +kernel
  have hsingle : ∀ front byte rest,
      url ++ [quoteMark, newline] = front ++ quoteMark :: byte :: rest → byte = newline := by
    intro front byte rest hsplit
    rcases List.append_eq_append_iff.mp hsplit with
      ⟨between, hfront, hrest⟩ | ⟨between, hfront, hrest⟩
    · cases between with
      | nil => simp_all
      | cons first between =>
          have hlength := congrArg List.length hrest
          simp only [List.cons_append, List.length_cons, List.length_append,
            List.length_nil] at hlength
          omega
    · cases between with
      | nil => simp_all
      | cons first between =>
          have hmem : quoteMark ∈ url := by simp_all
          exact absurd rfl (hplain quoteMark hmem).2.2
  have hparts : fgetsLines usernameReader.size (serverUrlLine url) =
      fgetsLinesFrom 127 113 (valuePrefix ConfigKey.serverUrl.name)
        (url ++ [quoteMark, newline]) := by
    have hroom : (valuePrefix ConfigKey.serverUrl.name).length < 127 := by omega
    have hbody := fgetsLinesFrom_body 127 hword.1 hroom [] (url ++ [quoteMark, newline])
    rw [hword.2.1, List.nil_append] at hbody
    rw [fgetsLines, serverUrlLine_eq]
    exact hbody
  rw [LineReader.read, hparts, List.findSome?_eq_none_iff]
  intro part hpart
  have hfree : NulFree part := by
    have hbytes : ∀ byte ∈ part, byte ∈ serverUrlLine url := by
      rw [serverUrlLine_eq]
      intro byte hbyte
      rcases mem_fgetsLinesFrom hpart with ⟨next, hnext, rfl⟩ | hinside
      · rcases List.mem_append.mp hbyte with hold | hnew
        · exact List.mem_append_left _ hold
        · exact List.mem_append_right _ (hnext.subset hnew)
      · exact List.mem_append_right _ (hinside.subset hbyte)
    exact fun byte hbyte => nulFree_serverUrlLine hurl byte (hbytes byte hbyte)
  simp only [usernameReader, cString_of_ne_zero hfree, Option.map_eq_none_iff]
  by_contra hfound
  obtain ⟨parsed, hscan⟩ := Option.ne_none_iff_exists'.mp hfound
  obtain ⟨hstarts, front, byte, rest, hpartSplit, hbyte⟩ := scanUsername_some hscan
  rcases mem_fgetsLinesFrom hpart with ⟨next, _, rfl⟩ | ⟨before, after, hinside⟩
  · -- the first part begins with another word
    rcases List.prefix_or_prefix_of_prefix hstarts (List.prefix_append _ next) with
      hbefore | hbehind
    · exact hword.2.2.1 hbefore
    · exact hword.2.2.2 hbehind
  · have hend := hsingle (before ++ front) byte (rest ++ after) (by
      rw [← hinside, hpartSplit]
      simp)
    rw [hend] at hbyte
    exact absurd hbyte (by decide)

/-! ## The new file -/

/-- The file without the lines of the setting. -/
def keptText (content : Str) : Str :=
  ((lines newline content).filter fun line => !isServerUrlLine line).flatten

/-- The lines behind which the new one stands. -/
def frontLines (content : Str) : List Str :=
  (lines newline content).takeWhile fun line => !isServerUrlLine line

section Steady

variable {Result : Type} {reader : LineReader Result} {content url : Str}

/-- A terminator at the end does not matter. -/
theorem LineReader.Steady.findSome?_terminated (hsteady : reader.Steady) (content : Str) :
    (lines newline (terminated content)).findSome? reader.read =
      (lines newline content).findSome? reader.read := by
  rcases lines_terminated_cases content with
    ⟨_, hsame⟩ | ⟨front, line, hlines, _, hopen, hclosed⟩
  · rw [hsame]
  · rw [hclosed, hlines, List.findSome?_append, List.findSome?_append,
      List.findSome?_singleton, List.findSome?_singleton, hsteady.read_concat hopen.2]

theorem filter_of_none (hnone : ∀ line ∈ lines newline content, isServerUrlLine line = false) :
    (lines newline content).filter (fun line => !isServerUrlLine line) =
      lines newline content :=
  List.filter_eq_self.mpr fun line hline => by rw [hnone line hline]; rfl

theorem takeWhile_of_none
    (hnone : ∀ line ∈ lines newline content, isServerUrlLine line = false) :
    (lines newline content).takeWhile (fun line => !isServerUrlLine line) =
      lines newline content :=
  List.takeWhile_eq_self_iff.mpr fun line hline => by rw [hnone line hline]; rfl

/-- A reader that does not stop at the new line reads the lines that are kept. -/
theorem read_rewriteConfig (hsteady : reader.Steady) (hcontent : NulFree content)
    (hurl : chatServerUrlIsValid (some url) = true)
    (hskips : reader.read (serverUrlLine url) = none) :
    reader.read (rewriteConfig url content) = reader.read (keptText content) := by
  have hkept : reader.read (keptText content) =
      ((lines newline content).filter fun line => !isServerUrlLine line).findSome?
        reader.read :=
    LineReader.read_flatten reader ((lineList_lines content).filter _)
  rw [LineReader.read_lines, lines_rewriteConfig (newline_notMem hurl) hcontent,
    findSome?_replaceFirst hskips, hkept]
  rcases exists_first isServerUrlLine (lines newline content) with
    hnone | ⟨front, line, rest, hlines, _, hline⟩
  · rw [prepared_of_none hnone, filter_of_none (isServerUrlLine_terminated hnone),
      filter_of_none hnone, hsteady.findSome?_terminated]
  · rw [prepared_of_mem (by simp [hlines]) hline]

/-- A reader that stops at the new line reads the lines in front of it. -/
theorem read_rewriteConfig_of_some (hsteady : reader.Steady) (hcontent : NulFree content)
    (hurl : chatServerUrlIsValid (some url) = true) {found : Result}
    (hstops : reader.read (serverUrlLine url) = some found) :
    reader.read (rewriteConfig url content) =
      some (((frontLines content).findSome? reader.read).getD found) := by
  rw [LineReader.read_lines, lines_rewriteConfig (newline_notMem hurl) hcontent,
    findSome?_replaceFirst_of_some hstops, frontLines]
  rcases exists_first isServerUrlLine (lines newline content) with
    hnone | ⟨front, line, rest, hlines, _, hline⟩
  · rw [prepared_of_none hnone, takeWhile_of_none (isServerUrlLine_terminated hnone),
      takeWhile_of_none hnone, hsteady.findSome?_terminated]
  · rw [prepared_of_mem (by simp [hlines]) hline]

end Steady

/-- No long line hides a setting that the new file would answer differently: in
front of the new line there is no other server URL, and without the lines of the
server URL the other settings are the same. -/
structure Clear (content url : Str) : Prop where
  visible : ∀ result, (frontLines content).findSome?
      (valueReader ConfigKey.serverUrl.name chatIdentityServerUrlMax).read = some result →
    result = .ok url
  username : chatLoadUsername (.text (keptText content) false) =
    chatLoadUsername (.text content false)
  others : ∀ key : ConfigKey, key ≠ .serverUrl → ∀ outSize,
    chatLoadQuotedConfigValue (.text (keptText content) false) key.name outSize =
      chatLoadQuotedConfigValue (.text content false) key.name outSize

theorem length_name (key : ConfigKey) :
    ¬ 64 ≤ (valuePrefix key.name).length ∧ newline ∉ key.name := by
  cases key <;> decide +kernel

/-- A line of the server URL does not begin with another word. -/
theorem not_prefix_of_isServerUrlLine {line word : Str} (hline : isServerUrlLine line = true)
    (hhead : word.head?.any (fun byte => !isBlankOrTab byte) = true)
    (hapart : ¬ word <+: ConfigKey.serverUrl.name ∧ ¬ ConfigKey.serverUrl.name <+: word) :
    ¬ word <+: cString line := by
  intro hcstring
  have hstarts : word <+: line := hcstring.trans (List.takeWhile_prefix _)
  rcases isServerUrlLine_starts hline with hname | ⟨byte, rest, rfl, hblank⟩
  · rcases List.prefix_or_prefix_of_prefix hstarts hname with hbefore | hbehind
    · exact hapart.1 hbefore
    · exact hapart.2 hbehind
  · cases word with
    | nil => exact hapart.1 List.nil_prefix
    | cons first word =>
        obtain ⟨rfl, _⟩ := List.cons_prefix_cons.mp hstarts
        simp [hblank] at hhead

theorem usernameReader_skips {line : Str} (hline : isServerUrlLine line = true) :
    usernameReader.decides line = none := by
  have hother : ¬ bytes "username" <+: cString line :=
    not_prefix_of_isServerUrlLine hline (by decide +kernel) (by decide +kernel)
  simp only [usernameReader, Option.map_eq_none_iff]
  by_contra hfound
  obtain ⟨parsed, hscan⟩ := Option.ne_none_iff_exists'.mp hfound
  exact hother (scanUsername_some hscan).1

theorem valueReader_skips {line : Str} (hline : isServerUrlLine line = true)
    {key : ConfigKey} (hkey : key ≠ .serverUrl) (outSize : ℕ) :
    (valueReader key.name outSize).decides line = none := by
  have hother : ¬ valuePrefix key.name <+: cString line := by
    refine not_prefix_of_isServerUrlLine hline ?_ ?_
    · cases key <;> decide +kernel
    · cases key with
      | serverUrl => exact absurd rfl hkey
      | _ => decide +kernel
  rw [← List.isPrefixOf_iff_prefix] at hother
  simp only [valueReader, if_neg hother]

section Short

variable {content : Str} (hshort : ∀ line ∈ lines newline content, line.length < 128)
include hshort

theorem read_short {Result : Type} {reader : LineReader Result} (hsize : 128 ≤ reader.size)
    {line : Str} (hline : line ∈ lines newline content) :
    reader.read line = reader.decides line := by
  have hshape : Terminated newline line ∨ Unterminated newline line := by
    rcases (lineList_lines content).terminated_or with
      hall | ⟨front, last, hlines, hfront, hopen⟩
    · exact Or.inl (hall line hline)
    · rw [hlines] at hline
      rcases List.mem_append.mp hline with hline | hline
      · exact Or.inl (hfront line hline)
      · rw [List.mem_singleton.mp hline]
        exact Or.inr hopen
  rw [LineReader.read, fgetsLines_short hshape (by have := hshort line hline; omega),
    List.findSome?_singleton]

theorem read_keptText_short {Result : Type} {reader : LineReader Result}
    (hsize : 128 ≤ reader.size)
    (hskips : ∀ line, isServerUrlLine line = true → reader.decides line = none) :
    reader.read (keptText content) = reader.read content := by
  rw [LineReader.read_lines reader content, keptText,
    LineReader.read_flatten reader ((lineList_lines content).filter _)]
  refine findSome?_filter fun line hline hkey => ?_
  rw [read_short hshort hsize hline, hskips line hkey]

/-- On a file whose lines fit all buffers nothing is hidden. -/
theorem clear_of_short (hcontent : NulFree content) (url : Str) : Clear content url where
  visible := by
    intro result hfound
    obtain ⟨line, hfront, hread⟩ := List.exists_of_findSome?_eq_some hfound
    have hline : line ∈ lines newline content :=
      (List.takeWhile_sublist _).subset hfront
    have hother : isServerUrlLine line = false := by
      simpa using List.mem_takeWhile_imp hfront
    rw [read_short hshort (by decide) hline] at hread
    simp only [valueReader, cString_of_ne_zero (hcontent.line hline)] at hread
    split_ifs at hread with hstarts
    obtain ⟨rest, rfl⟩ := List.isPrefixOf_iff_prefix.mp hstarts
    exact absurd (isServerUrlLine_append rest) (by
      rw [show bytes "server_url = \"" = valuePrefix ConfigKey.serverUrl.name by
        decide +kernel, hother]
      exact Bool.false_ne_true)
  username := by
    simp only [chatLoadUsername]
    rw [read_keptText_short hshort (by decide) fun _ => usernameReader_skips]
  others := by
    intro key hkey outSize
    have hsize : 128 ≤ (valueReader key.name outSize).size := by
      simp only [valueReader]
      decide
    have hkept := read_keptText_short hshort hsize
      fun _ hline => valueReader_skips hline hkey outSize
    simp only [chatLoadQuotedConfigValue, hkept]

end Short

theorem setServerUrl_ok {io : SetUrlIo} {content url : Str} {after : Option Str}
    (hset : chatIdentitySetServerUrl io (some content) (some url) = (.ok (), after)) :
    chatServerUrlIsValid (some url) = true ∧ after = some (rewriteConfig url content) := by
  by_cases hvalid : chatServerUrlIsValid (some url) = true
  · cases hpath : io.path with
    | error error => simp [chatIdentitySetServerUrl, hvalid, hpath] at hset
    | ok _ =>
        simp only [chatIdentitySetServerUrl, hvalid, hpath, Bool.true_eq_false, if_false] at hset
        split_ifs at hset with hopened hpath hwritten
        · simp at hset
        · simp at hset
        · simp at hset
        · exact ⟨hvalid, (congrArg Prod.snd hset).symm⟩
  · simp [chatIdentitySetServerUrl, hvalid] at hset

/-- After the server URL was set, it is read as it was given and the other settings
are read as before exactly when no long line hides a setting; when all lines fit
the buffers, none does. -/
theorem set_server_url_visible {io : SetUrlIo} {content url : Str} {after : Option Str}
    (hcontent : NulFree content)
    (hset : chatIdentitySetServerUrl io (some content) (some url) = (.ok (), after)) :
    ((chatIdentityLoadServerUrl (.ok ()) (.ofFile after) chatIdentityServerUrlMax =
          .ok url ∧
        chatLoadUsername (.ofFile after) = chatLoadUsername (.ofFile (some content)) ∧
        ∀ key : ConfigKey, key ≠ .serverUrl → ∀ outSize,
          chatIdentityLoadConfigValue (.ok ()) (.ofFile after) key.name outSize =
            chatIdentityLoadConfigValue (.ok ()) (.ofFile (some content)) key.name
              outSize) ↔
      Clear content url) ∧
    ((∀ line ∈ lines newline content, line.length < 128) → Clear content url) := by
  obtain ⟨hurl, rfl⟩ := setServerUrl_ok hset
  refine ⟨?_, fun hshort => clear_of_short hshort hcontent url⟩
  have hserver := read_rewriteConfig_of_some
    (steady_valueReader (length_name .serverUrl).2 chatIdentityServerUrlMax) hcontent hurl
    (read_serverUrl_serverUrlLine hurl)
  have husername := read_rewriteConfig steady_usernameReader hcontent hurl
    (read_username_serverUrlLine hurl)
  have hothers (key : ConfigKey) (hkey : key ≠ .serverUrl) (outSize : ℕ) :=
    read_rewriteConfig (steady_valueReader (length_name key).2 outSize) hcontent hurl
      (read_other_serverUrlLine hurl hkey outSize)
  have hvisible : chatLoadQuotedConfigValue (.ofFile (some (rewriteConfig url content)))
        ConfigKey.serverUrl.name chatIdentityServerUrlMax = .ok url ↔
      ∀ result, (frontLines content).findSome?
          (valueReader ConfigKey.serverUrl.name chatIdentityServerUrlMax).read =
        some result → result = .ok url := by
    simp only [Reading.ofFile, chatLoadQuotedConfigValue,
      if_neg (length_name .serverUrl).1, hserver, Option.getD_some]
    cases (frontLines content).findSome? _ with
    | none => simp
    | some result => simp
  have hsame : chatLoadUsername (.ofFile (some (rewriteConfig url content))) =
      chatLoadUsername (.text (keptText content) false) := by
    simp only [Reading.ofFile, chatLoadUsername, husername]
  have hkept (key : ConfigKey) (hkey : key ≠ .serverUrl) (outSize : ℕ) :
      chatLoadQuotedConfigValue (.ofFile (some (rewriteConfig url content))) key.name
          outSize =
        chatLoadQuotedConfigValue (.text (keptText content) false) key.name outSize := by
    simp only [Reading.ofFile, chatLoadQuotedConfigValue, hothers key hkey outSize]
  constructor
  · rintro ⟨hurlRead, hname, hsettings⟩
    exact ⟨hvisible.mp hurlRead, hsame.symm.trans hname,
      fun key hkey outSize => (hkept key hkey outSize).symm.trans (hsettings key hkey outSize)⟩
  · intro hclear
    exact ⟨hvisible.mpr hclear.visible, hsame.trans hclear.username,
      fun key hkey outSize => (hkept key hkey outSize).trans (hclear.others key hkey outSize)⟩

/-- A comment of 511 bytes and, on the same line, another server URL. -/
def hiddenUrl : Str :=
  bytes "username = \"alex\"\n" ++ List.replicate 511 35 ++
    bytes "server_url = \"ws://old\"\n"

/-- A line of the server URL with another username behind its first 127 bytes. -/
def hiddenUsername : Str :=
  bytes "server_url = \"" ++ List.replicate 113 97 ++
    bytes "username = \"mallory\"\nusername = \"alex\"\n"

/-- The new server URL is set and the hidden one is read; and setting it takes away
the username that was read before. -/
theorem hidden_settings_differ :
    (∃ after, chatIdentitySetServerUrl {} (some hiddenUrl) (some (bytes "ws://new")) =
        (.ok (), after) ∧
      chatIdentityLoadServerUrl (.ok ()) (.ofFile after) chatIdentityServerUrlMax =
        .ok (bytes "ws://old")) ∧
    ∃ after, chatIdentitySetServerUrl {} (some hiddenUsername) (some (bytes "ws://new")) =
        (.ok (), after) ∧
      chatLoadUsername (.ofFile (some hiddenUsername)) = .ok (bytes "mallory") ∧
      chatLoadUsername (.ofFile after) = .ok (bytes "alex") := by
  refine ⟨⟨some (rewriteConfig (bytes "ws://new") hiddenUrl), ?_⟩,
    ⟨some (rewriteConfig (bytes "ws://new") hiddenUsername), ?_⟩⟩
  · decide +kernel
  · decide +kernel

/-- Setting the server URL of a file with short lines. -/
theorem set_server_url_visible_edited :
    chatIdentityLoadServerUrl (.ok ())
        (.ofFile (some (rewriteConfig (bytes "ws://a") editedConfig)))
        chatIdentityServerUrlMax = .ok (bytes "ws://a") ∧
      chatLoadUsername (.ofFile (some (rewriteConfig (bytes "ws://a") editedConfig))) =
        chatLoadUsername (.ofFile (some editedConfig)) := by
  have hinputs : (NulFree editedConfig ∧
      ∀ line ∈ lines newline editedConfig, line.length < 128) ∧
      chatIdentitySetServerUrl {} (some editedConfig) (some (bytes "ws://a")) =
        (.ok (), some (rewriteConfig (bytes "ws://a") editedConfig)) := by
    unfold NulFree
    decide +kernel
  obtain ⟨hiff, hshort⟩ := set_server_url_visible hinputs.1.1 hinputs.2
  obtain ⟨hurl, husername, _⟩ := hiff.mpr (hshort hinputs.1.2)
  exact ⟨hurl, husername⟩

end ProntoChat.Config
