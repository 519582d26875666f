import Mathlib

/-!
# Searching quoted text

A flat object is written as quoted names and quoted values.  A substring
reader looks for the first occurrence of a quoted name and takes the quoted
text that follows a colon.  Such a reader sees the tokens of the object in the
order in which they are written, values included, so a value that spells a
name hides the member with that name.  `readFirst_object` states exactly what
the reader returns on a written object.
-/

namespace ProntoChat.QuotedText

/-- The bytes of an ASCII literal. -/
def bytes (text : String) : List UInt8 :=
  text.toList.map fun char => char.toNat.toUInt8

abbrev quoteMark : UInt8 := 34
abbrev colon : UInt8 := 58
abbrev comma : UInt8 := 44
abbrev openBrace : UInt8 := 123
abbrev closeBrace : UInt8 := 125
abbrev backslash : UInt8 := 92

/-- The suffix of `text` that starts at the first occurrence of `pattern`. -/
def findFirst (pattern : List UInt8) : List UInt8 → Option (List UInt8)
  | [] => if pattern.isPrefixOf [] then some [] else none
  | byte :: rest =>
      if pattern.isPrefixOf (byte :: rest) then some (byte :: rest)
      else findFirst pattern rest

def isBlank (byte : UInt8) : Bool :=
  byte == 32 || byte == 9 || byte == 13 || byte == 10

/-- Copy at most `room` bytes up to the closing quotation mark.  Control
bytes and backslashes are refused. -/
def readQuoted : ℕ → List UInt8 → Option (List UInt8)
  | _, [] => none
  | room, byte :: rest =>
      if byte = quoteMark then some []
      else if byte < 32 ∨ byte = backslash ∨ room = 0 then none
      else (readQuoted (room - 1) rest).map (byte :: ·)

/-- Read `: "value"` with optional blanks around the colon. -/
def readMember (room : ℕ) (text : List UInt8) : Option (List UInt8) :=
  match text.dropWhile isBlank with
  | [] => none
  | byte :: rest =>
      if byte ≠ colon then none
      else
        match rest.dropWhile isBlank with
        | [] => none
        | byte :: rest =>
            if byte ≠ quoteMark then none else readQuoted room rest

def quoted (token : List UInt8) : List UInt8 :=
  quoteMark :: (token ++ [quoteMark])

/-- Read the member behind the first occurrence of the quoted `name`. -/
def readFirst (name : List UInt8) (room : ℕ) (text : List UInt8) :
    Option (List UInt8) :=
  (findFirst (quoted name) text).bind fun cursor =>
    readMember room (cursor.drop (quoted name).length)

def member (name value : List UInt8) : List UInt8 :=
  quoted name ++ colon :: quoted value

def objectTail : List (List UInt8 × List UInt8) → List UInt8
  | [] => [closeBrace]
  | (name, value) :: rest => comma :: (member name value ++ objectTail rest)

/-- A flat object with its members in the given order. -/
def object : List (List UInt8 × List UInt8) → List UInt8
  | [] => [openBrace, closeBrace]
  | (name, value) :: rest =>
      openBrace :: (member name value ++ objectTail rest)

/-- What a substring reader finds under `name`: the tokens are scanned in
order and the first one equal to `name` decides. -/
def scanMembers (name : List UInt8) (room : ℕ) :
    List (List UInt8 × List UInt8) → Option (List UInt8)
  | [] => none
  | (key, value) :: rest =>
      if key = name then (if value.length ≤ room then some value else none)
      else if value = name then none
      else scanMembers name room rest

/-- Bytes that may stand inside a quoted token. -/
def Plain (token : List UInt8) : Prop :=
  ∀ byte ∈ token, byte ≠ quoteMark ∧ byte ≠ backslash ∧ 32 ≤ byte

instance (token : List UInt8) : Decidable (Plain token) :=
  decidable_of_iff ((token.all fun byte =>
    byte != quoteMark && byte != backslash && decide (32 ≤ byte)) = true) (by
      simp [Plain, and_assoc])

/-- A name that cannot be mistaken for the punctuation behind a token. -/
structure SearchName (name : List UInt8) : Prop where
  plain : Plain name
  nonempty : name ≠ []
  head_colon : name.head? ≠ some colon
  head_comma : name.head? ≠ some comma
  head_closeBrace : name.head? ≠ some closeBrace

theorem Plain.tail {byte : UInt8} {token : List UInt8}
    (hplain : Plain (byte :: token)) : Plain token :=
  fun other hother => hplain other (List.mem_cons_of_mem _ hother)

theorem findFirst_quoted_cons_ne {name : List UInt8} {byte : UInt8}
    (hbyte : byte ≠ quoteMark) (rest : List UInt8) :
    findFirst (quoted name) (byte :: rest) = findFirst (quoted name) rest := by
  have hpattern : (quoted name).isPrefixOf (byte :: rest) = false := by
    simp [quoted, List.isPrefixOf, Ne.symm hbyte]
  rw [findFirst]
  simp only [hpattern, Bool.false_eq_true, if_false]

theorem findFirst_plain_append {name token : List UInt8} (hplain : Plain token)
    (rest : List UInt8) :
    findFirst (quoted name) (token ++ rest) = findFirst (quoted name) rest := by
  induction token with
  | nil => rfl
  | cons byte token ih =>
      rw [List.cons_append,
        findFirst_quoted_cons_ne (hplain byte List.mem_cons_self).1]
      exact ih hplain.tail

/-- Two plain tokens closed by a quotation mark agree on a prefix only when
they are equal. -/
theorem closed_prefix_iff {name token : List UInt8} (hname : Plain name)
    (htoken : Plain token) (rest : List UInt8) :
    (name ++ [quoteMark]).isPrefixOf (token ++ quoteMark :: rest) = true ↔
      name = token := by
  induction name generalizing token with
  | nil =>
      cases token with
      | nil => simp [List.isPrefixOf]
      | cons byte token =>
          have hne := (htoken byte List.mem_cons_self).1
          simp [List.isPrefixOf, Ne.symm hne]
  | cons first name ih =>
      cases token with
      | nil =>
          have hne := (hname first List.mem_cons_self).1
          simp [List.isPrefixOf, hne]
      | cons byte token =>
          simp only [List.cons_append, List.isPrefixOf, Bool.and_eq_true,
            beq_iff_eq, List.cons.injEq, ih hname.tail htoken.tail]

theorem findFirst_quoted_self {name : List UInt8} (hname : Plain name)
    (rest : List UInt8) :
    findFirst (quoted name) (quoted name ++ rest) =
      some (quoted name ++ rest) := by
  have hpattern :
      (quoted name).isPrefixOf (quoteMark :: (name ++ quoteMark :: rest)) =
        true := by
    simp only [quoted, List.isPrefixOf, beq_self_eq_true, Bool.true_and]
    exact (closed_prefix_iff hname hname rest).2 rfl
  have hshape : quoted name ++ rest =
      quoteMark :: (name ++ quoteMark :: rest) := by
    simp [quoted]
  rw [hshape, findFirst, if_pos hpattern]

/-- A different token and the punctuation byte behind it are skipped. -/
theorem findFirst_quoted_ne {name token : List UInt8} (hname : SearchName name)
    (htoken : Plain token) (hne : token ≠ name) {mark : UInt8}
    (hmark : mark = colon ∨ mark = comma ∨ mark = closeBrace)
    (rest : List UInt8) :
    findFirst (quoted name) (quoted token ++ mark :: rest) =
      findFirst (quoted name) rest := by
  have hopen :
      ¬ (quoted name).isPrefixOf
        (quoteMark :: (token ++ quoteMark :: mark :: rest)) = true := by
    simp only [quoted, List.isPrefixOf, beq_self_eq_true, Bool.true_and]
    rw [closed_prefix_iff hname.plain htoken]
    exact Ne.symm hne
  have hclose :
      ¬ (quoted name).isPrefixOf (quoteMark :: mark :: rest) = true := by
    obtain ⟨first, tail, hshape⟩ := List.exists_cons_of_ne_nil hname.nonempty
    have hcolon := hname.head_colon
    have hcomma := hname.head_comma
    have hbrace := hname.head_closeBrace
    rw [hshape, List.head?_cons, ne_eq, Option.some.injEq] at hcolon hcomma hbrace
    have hfirst : first ≠ mark := by
      rcases hmark with rfl | rfl | rfl
      · exact hcolon
      · exact hcomma
      · exact hbrace
    simp [quoted, hshape, List.isPrefixOf, hfirst]
  have hmarkQuote : mark ≠ quoteMark := by
    rcases hmark with rfl | rfl | rfl <;> decide
  have hshape : quoted token ++ mark :: rest =
      quoteMark :: (token ++ quoteMark :: mark :: rest) := by
    simp [quoted]
  rw [hshape, findFirst, if_neg hopen, findFirst_plain_append htoken,
    findFirst, if_neg hclose, findFirst_quoted_cons_ne hmarkQuote]

theorem readQuoted_plain {token : List UInt8} (hplain : Plain token)
    (room : ℕ) (rest : List UInt8) :
    readQuoted room (token ++ quoteMark :: rest) =
      if token.length ≤ room then some token else none := by
  induction token generalizing room with
  | nil => simp [readQuoted]
  | cons byte token ih =>
      obtain ⟨hquote, hback, hctl⟩ := hplain byte List.mem_cons_self
      have hlt : ¬ byte < 32 := UInt8.not_lt.mpr hctl
      cases room with
      | zero => simp [readQuoted, hquote]
      | succ room =>
          simp only [List.cons_append, readQuoted, hquote, if_false, hlt, hback,
            Nat.succ_ne_zero, or_self, Nat.add_sub_cancel, ih hplain.tail,
            List.length_cons, Nat.add_le_add_iff_right]
          split <;> rfl

theorem readMember_colon {value : List UInt8} (hplain : Plain value)
    (room : ℕ) (rest : List UInt8) :
    readMember room (colon :: (quoted value ++ rest)) =
      if value.length ≤ room then some value else none := by
  have hcolon : isBlank colon = false := by decide
  have hquote : isBlank quoteMark = false := by decide
  have hshape : quoted value ++ rest =
      quoteMark :: (value ++ quoteMark :: rest) := by
    simp [quoted]
  simp only [readMember, List.dropWhile_cons, hcolon, Bool.false_eq_true,
    if_false, ne_eq, not_true_eq_false, hshape, hquote]
  exact readQuoted_plain hplain room rest

/-- A token that is not followed by a colon is no member. -/
theorem readMember_mark {mark : UInt8}
    (hmark : mark = comma ∨ mark = closeBrace) (room : ℕ)
    (rest : List UInt8) : readMember room (mark :: rest) = none := by
  rcases hmark with rfl | rfl
  · have hblank : isBlank comma = false := by decide
    have hcolon : comma ≠ colon := by decide
    simp only [readMember, List.dropWhile_cons, hblank, Bool.false_eq_true,
      if_false, if_pos hcolon]
  · have hblank : isBlank closeBrace = false := by decide
    have hcolon : closeBrace ≠ colon := by decide
    simp only [readMember, List.dropWhile_cons, hblank, Bool.false_eq_true,
      if_false, if_pos hcolon]

theorem objectTail_cons (members : List (List UInt8 × List UInt8)) :
    ∃ mark rest, objectTail members = mark :: rest ∧
      (mark = comma ∨ mark = closeBrace) := by
  cases members with
  | nil => exact ⟨closeBrace, [], rfl, Or.inr rfl⟩
  | cons first rest => exact ⟨comma, _, rfl, Or.inl rfl⟩

/-- Reading one written member, with whatever text stands behind it. -/
theorem readFirst_member_mark {name key value : List UInt8}
    (hname : SearchName name) (hkey : Plain key) (hvalue : Plain value)
    (room : ℕ) {mark : UInt8} (hmark : mark = comma ∨ mark = closeBrace)
    (rest : List UInt8) :
    readFirst name room (member key value ++ mark :: rest) =
      if key = name then (if value.length ≤ room then some value else none)
      else if value = name then none
      else readFirst name room (mark :: rest) := by
  have hshape : member key value ++ mark :: rest =
      quoted key ++ colon :: (quoted value ++ mark :: rest) := by
    simp [member]
  rw [hshape]
  by_cases hfirst : key = name
  · subst key
    rw [if_pos rfl, readFirst, findFirst_quoted_self hname.plain]
    simp only [Option.bind_some, List.drop_left]
    exact readMember_colon hvalue room _
  · rw [if_neg hfirst, readFirst,
      findFirst_quoted_ne hname hkey hfirst (Or.inl rfl)]
    by_cases hsecond : value = name
    · subst value
      rw [if_pos rfl, findFirst_quoted_self hname.plain]
      simp only [Option.bind_some, List.drop_left]
      exact readMember_mark hmark room rest
    · have hquote : mark ≠ quoteMark := by
        rcases hmark with rfl | rfl <;> decide
      rw [if_neg hsecond, readFirst,
        findFirst_quoted_ne hname hvalue hsecond (Or.inr hmark),
        findFirst_quoted_cons_ne hquote]

/-- Reading one written member, with whatever the object holds behind it. -/
theorem readFirst_member {name key value : List UInt8}
    (hname : SearchName name) (hkey : Plain key) (hvalue : Plain value)
    (room : ℕ) (members : List (List UInt8 × List UInt8)) :
    readFirst name room (member key value ++ objectTail members) =
      if key = name then (if value.length ≤ room then some value else none)
      else if value = name then none
      else readFirst name room (objectTail members) := by
  obtain ⟨mark, rest, htail, hmark⟩ := objectTail_cons members
  rw [htail]
  exact readFirst_member_mark hname hkey hvalue room hmark rest

theorem readFirst_objectTail {name : List UInt8} (hname : SearchName name)
    (room : ℕ) {members : List (List UInt8 × List UInt8)}
    (hplain : ∀ entry ∈ members, Plain entry.1 ∧ Plain entry.2) :
    readFirst name room (objectTail members) = scanMembers name room members := by
  induction members with
  | nil =>
      have hquote : closeBrace ≠ quoteMark := by decide
      have hempty : findFirst (quoted name) [] = none := rfl
      rw [objectTail, readFirst, findFirst_quoted_cons_ne hquote, hempty]
      rfl
  | cons first rest ih =>
      obtain ⟨key, value⟩ := first
      obtain ⟨hkey, hvalue⟩ := hplain (key, value) List.mem_cons_self
      have hquote : comma ≠ quoteMark := by decide
      have hskip : readFirst name room (objectTail ((key, value) :: rest)) =
          readFirst name room (member key value ++ objectTail rest) := by
        simp only [objectTail, readFirst, findFirst_quoted_cons_ne hquote]
      rw [hskip, readFirst_member hname hkey hvalue,
        ih fun entry hentry => hplain entry (List.mem_cons_of_mem _ hentry)]
      rfl

/-- What the substring reader returns on a written object: the token scan of
its members. -/
theorem readFirst_object {name : List UInt8} (hname : SearchName name)
    (room : ℕ) {members : List (List UInt8 × List UInt8)}
    (hplain : ∀ entry ∈ members, Plain entry.1 ∧ Plain entry.2) :
    readFirst name room (object members) = scanMembers name room members := by
  cases members with
  | nil =>
      have hopen : openBrace ≠ quoteMark := by decide
      have hclose : closeBrace ≠ quoteMark := by decide
      have hempty : findFirst (quoted name) [] = none := rfl
      rw [object, readFirst, findFirst_quoted_cons_ne hopen,
        findFirst_quoted_cons_ne hclose, hempty]
      rfl
  | cons first rest =>
      obtain ⟨key, value⟩ := first
      obtain ⟨hkey, hvalue⟩ := hplain (key, value) List.mem_cons_self
      have hopen : openBrace ≠ quoteMark := by decide
      have hskip : readFirst name room (object ((key, value) :: rest)) =
          readFirst name room (member key value ++ objectTail rest) := by
        simp only [object, readFirst, findFirst_quoted_cons_ne hopen]
      rw [hskip, readFirst_member hname hkey hvalue,
        readFirst_objectTail hname room fun entry hentry =>
          hplain entry (List.mem_cons_of_mem _ hentry)]
      rfl

/-- What is read does not depend on the room that is left. -/
theorem scanMembers_room {name value : List UInt8} {room : ℕ}
    {members : List (List UInt8 × List UInt8)}
    (hscan : scanMembers name room members = some value) {wider : ℕ}
    (hwider : value.length ≤ wider) :
    scanMembers name wider members = some value := by
  induction members with
  | nil => simp [scanMembers] at hscan
  | cons entry rest ih =>
      rw [scanMembers] at hscan ⊢
      by_cases hkey : entry.1 = name
      · rw [if_pos hkey] at hscan ⊢
        split_ifs at hscan
        rw [Option.some.inj hscan, if_pos hwider]
      · rw [if_neg hkey] at hscan ⊢
        split_ifs at hscan with hvalue
        rw [if_neg hvalue]
        exact ih hscan

/-- What is read under a name is a value written under it. -/
theorem mem_of_scanMembers {name value : List UInt8} {room : ℕ}
    {members : List (List UInt8 × List UInt8)}
    (hscan : scanMembers name room members = some value) :
    (name, value) ∈ members := by
  induction members with
  | nil => simp [scanMembers] at hscan
  | cons entry rest ih =>
      rw [scanMembers] at hscan
      split_ifs at hscan with hkey
      · rw [← hkey, ← Option.some.inj hscan]
        exact List.mem_cons_self
      · exact List.mem_cons_of_mem _ (ih hscan)

/-- Every member of an object with distinct names can be read, whatever room
there is for it, exactly when no value spells the name of a later member. -/
theorem scanMembers_all_iff {members : List (List UInt8 × List UInt8)}
    (hnodup : (members.map Prod.fst).Nodup) :
    (∀ entry ∈ members, ∀ room, entry.2.length ≤ room →
      scanMembers entry.1 room members = some entry.2) ↔
    members.Pairwise fun earlier later => earlier.2 ≠ later.1 := by
  induction members with
  | nil => simp
  | cons first rest ih =>
      obtain ⟨hfresh, hrest⟩ := List.nodup_cons.mp hnodup
      have hscan (entry : List UInt8 × List UInt8) (hentry : entry ∈ rest)
          (room : ℕ) : scanMembers entry.1 room (first :: rest) =
            if first.2 = entry.1 then none else scanMembers entry.1 room rest := by
        have hkey : first.1 ≠ entry.1 := fun hsame =>
          hfresh (hsame ▸ List.mem_map_of_mem hentry)
        rw [scanMembers, if_neg hkey]
      rw [List.pairwise_cons, ← ih hrest]
      constructor
      · intro hread
        refine ⟨fun entry hentry hsame => ?_, fun entry hentry room hroom => ?_⟩
        · have hnone := hread entry (List.mem_cons_of_mem _ hentry) _ le_rfl
          rw [hscan entry hentry, if_pos hsame] at hnone
          exact absurd hnone (by simp)
        · have hsome := hread entry (List.mem_cons_of_mem _ hentry) room hroom
          rw [hscan entry hentry] at hsome
          split_ifs at hsome
          exact hsome
      · rintro ⟨hfirst, hread⟩ entry hentry room hroom
        rcases List.mem_cons.mp hentry with rfl | hentry
        · rw [scanMembers, if_pos rfl, if_pos hroom]
        · rw [hscan entry hentry, if_neg (hfirst entry hentry)]
          exact hread entry hentry room hroom

/-! ## Skipping members -/

theorem findFirst_member_ne {name key value : List UInt8} (hname : SearchName name)
    (hkey : Plain key) (hvalue : Plain value) (hkeyName : key ≠ name)
    (hvalueName : value ≠ name) {mark : UInt8}
    (hmark : mark = comma ∨ mark = closeBrace) (rest : List UInt8) :
    findFirst (quoted name) (member key value ++ mark :: rest) =
      findFirst (quoted name) rest := by
  have hshape : member key value ++ mark :: rest =
      quoted key ++ colon :: (quoted value ++ mark :: rest) := by
    simp [member]
  rw [hshape, findFirst_quoted_ne hname hkey hkeyName (Or.inl rfl),
    findFirst_quoted_ne hname hvalue hvalueName (Or.inr hmark)]

/-- The name is found as the value of a member. -/
theorem findFirst_member_value {name key : List UInt8} (hname : SearchName name)
    (hkey : Plain key) (hkeyName : key ≠ name) (rest : List UInt8) :
    findFirst (quoted name) (member key name ++ rest) =
      some (quoted name ++ rest) := by
  have hshape : member key name ++ rest =
      quoted key ++ colon :: (quoted name ++ rest) := by
    simp [member]
  rw [hshape, findFirst_quoted_ne hname hkey hkeyName (Or.inl rfl),
    findFirst_quoted_self hname.plain]

/-! ## Written objects contain no NUL -/

theorem Plain.ne_zero {token : List UInt8} (hplain : Plain token) :
    ∀ byte ∈ token, byte ≠ 0 := by
  rintro byte hbyte rfl
  exact absurd (hplain 0 hbyte).2.2 (by decide)

theorem Plain.quoted_ne_zero {token : List UInt8} (hplain : Plain token) :
    ∀ byte ∈ quoted token, byte ≠ 0 :=
  List.forall_mem_cons.mpr ⟨by decide, List.forall_mem_append.mpr
    ⟨hplain.ne_zero, List.forall_mem_singleton.mpr (by decide)⟩⟩

theorem member_ne_zero {name value : List UInt8} (hname : Plain name)
    (hvalue : Plain value) : ∀ byte ∈ member name value, byte ≠ 0 := by
  refine List.forall_mem_append.mpr ⟨hname.quoted_ne_zero,
    List.forall_mem_cons.mpr ⟨by decide, hvalue.quoted_ne_zero⟩⟩

theorem objectTail_ne_zero {members : List (List UInt8 × List UInt8)}
    (hplain : ∀ entry ∈ members, Plain entry.1 ∧ Plain entry.2) :
    ∀ byte ∈ objectTail members, byte ≠ 0 := by
  induction members with
  | nil => simp [objectTail, closeBrace]
  | cons entry rest ih =>
      obtain ⟨⟨hname, hvalue⟩, hrest⟩ := List.forall_mem_cons.mp hplain
      exact List.forall_mem_cons.mpr ⟨by decide, List.forall_mem_append.mpr
        ⟨member_ne_zero hname hvalue, ih hrest⟩⟩

theorem object_ne_zero {members : List (List UInt8 × List UInt8)}
    (hplain : ∀ entry ∈ members, Plain entry.1 ∧ Plain entry.2) :
    ∀ byte ∈ object members, byte ≠ 0 := by
  cases members with
  | nil => simp [object, openBrace, closeBrace]
  | cons entry rest =>
      obtain ⟨⟨hname, hvalue⟩, hrest⟩ := List.forall_mem_cons.mp hplain
      exact List.forall_mem_cons.mpr ⟨by decide, List.forall_mem_append.mpr
        ⟨member_ne_zero hname hvalue, objectTail_ne_zero hrest⟩⟩

/-! ## Objects that end at a NUL -/

theorem takeWhile_mark {mark : UInt8} (hmark : mark ≠ 0) (rest : List UInt8) :
    (mark :: rest).takeWhile (· != 0) = mark :: rest.takeWhile (· != 0) := by
  simp [hmark]

/-- The text up to a NUL begins as the object does. -/
theorem takeWhile_objectTail_cons (members : List (List UInt8 × List UInt8)) :
    ∃ mark rest, (objectTail members).takeWhile (· != 0) = mark :: rest ∧
      (mark = comma ∨ mark = closeBrace) := by
  obtain ⟨mark, rest, htail, hmark⟩ := objectTail_cons members
  have hzero : mark ≠ 0 := by
    rcases hmark with rfl | rfl <;> decide
  exact ⟨mark, _, by rw [htail, takeWhile_mark hzero], hmark⟩

theorem takeWhile_member {name value : List UInt8} (hname : Plain name)
    (hvalue : Plain value) (rest : List UInt8) :
    (member name value ++ rest).takeWhile (· != 0) =
      member name value ++ rest.takeWhile (· != 0) := by
  refine List.takeWhile_append_of_pos fun byte hbyte => ?_
  simpa using member_ne_zero hname hvalue byte hbyte

theorem readFirst_takeWhile_objectTail {name : List UInt8} (hname : SearchName name)
    (room : ℕ) {members : List (List UInt8 × List UInt8)}
    (hplain : ∀ entry ∈ members, Plain entry.1 ∧ Plain entry.2)
    (hfound : ∃ entry ∈ members, entry.1 = name)
    (rest : List (List UInt8 × List UInt8)) :
    readFirst name room ((objectTail (members ++ rest)).takeWhile (· != 0)) =
      scanMembers name room members := by
  induction members with
  | nil => simp at hfound
  | cons first members ih =>
      obtain ⟨key, value⟩ := first
      obtain ⟨⟨hkey, hvalue⟩, htail⟩ := List.forall_mem_cons.mp hplain
      obtain ⟨mark, text, hcut, hmark⟩ := takeWhile_objectTail_cons (members ++ rest)
      have hquote : comma ≠ quoteMark := by decide
      have hcomma : comma ≠ 0 := by decide
      rw [List.cons_append, objectTail, takeWhile_mark hcomma,
        takeWhile_member hkey hvalue, readFirst, findFirst_quoted_cons_ne hquote,
        hcut, ← readFirst, readFirst_member_mark hname hkey hvalue room hmark text,
        ← hcut, scanMembers]
      split_ifs with hfirst _ hsecond
      · rfl
      · rfl
      · rfl
      · refine ih htail ?_
        obtain ⟨entry, hentry, hsame⟩ := hfound
        rcases List.mem_cons.mp hentry with rfl | hentry
        · exact absurd hsame hfirst
        · exact ⟨entry, hentry, hsame⟩

/-- A member is found in the plain part at the front, whatever follows. -/
theorem readFirst_takeWhile_object {name : List UInt8} (hname : SearchName name)
    (room : ℕ) {members : List (List UInt8 × List UInt8)}
    (hplain : ∀ entry ∈ members, Plain entry.1 ∧ Plain entry.2)
    (hfound : ∃ entry ∈ members, entry.1 = name)
    (rest : List (List UInt8 × List UInt8)) :
    readFirst name room ((object (members ++ rest)).takeWhile (· != 0)) =
      scanMembers name room members := by
  cases members with
  | nil => simp at hfound
  | cons first members =>
      obtain ⟨key, value⟩ := first
      have hopen : openBrace ≠ quoteMark ∧ openBrace ≠ 0 := by decide
      have hcomma : comma ≠ quoteMark ∧ comma ≠ 0 := by decide
      have hread := readFirst_takeWhile_objectTail hname room hplain hfound rest
      rw [List.cons_append, objectTail, takeWhile_mark hcomma.2, readFirst,
        findFirst_quoted_cons_ne hcomma.1] at hread
      rw [List.cons_append, object, takeWhile_mark hopen.2, readFirst,
        findFirst_quoted_cons_ne hopen.1]
      exact hread

theorem length_objectTail (members : List (List UInt8 × List UInt8)) :
    (objectTail members).length =
      (members.map fun entry => entry.1.length + entry.2.length + 6).sum + 1 := by
  induction members with
  | nil => rfl
  | cons entry rest ih =>
      simp only [objectTail, member, quoted, List.length_cons, List.length_append,
        List.length_nil, ih, List.map_cons, List.sum_cons]
      omega

/-- The length of a written object with at least one member. -/
theorem length_object (entry : List UInt8 × List UInt8)
    (members : List (List UInt8 × List UInt8)) :
    (object (entry :: members)).length =
      ((entry :: members).map fun entry =>
        entry.1.length + entry.2.length + 6).sum + 1 := by
  simp only [object, member, quoted, List.length_cons, List.length_append,
    List.length_nil, length_objectTail, List.map_cons, List.sum_cons]
  omega

/-! ## What can be read -/

/-- Whatever is read is plain and fits the room. -/
theorem readQuoted_plain_of_some {room : ℕ} {text value : List UInt8}
    (hread : readQuoted room text = some value) :
    Plain value ∧ value.length ≤ room := by
  induction text generalizing room value with
  | nil => simp [readQuoted] at hread
  | cons byte rest ih =>
      rw [readQuoted] at hread
      split_ifs at hread with hquote hbad
      · have hempty : value = [] := by simpa using hread.symm
        subst hempty
        exact ⟨by simp [Plain], Nat.zero_le _⟩
      · obtain ⟨tail, htail, rfl⟩ := Option.map_eq_some_iff.mp hread
        obtain ⟨hplain, hlength⟩ := ih htail
        obtain ⟨hctl, hback, hroom⟩ : ¬ byte < 32 ∧ byte ≠ backslash ∧ room ≠ 0 := by
          simpa only [not_or] using hbad
        refine ⟨?_, by rw [List.length_cons]; omega⟩
        intro other hother
        rcases List.mem_cons.mp hother with rfl | hother
        · exact ⟨hquote, hback, UInt8.not_lt.mp hctl⟩
        · exact hplain other hother

theorem readMember_plain_of_some {room : ℕ} {text value : List UInt8}
    (hread : readMember room text = some value) :
    Plain value ∧ value.length ≤ room := by
  unfold readMember at hread
  split at hread
  · simp at hread
  · split_ifs at hread
    split at hread
    · simp at hread
    · split_ifs at hread
      exact readQuoted_plain_of_some hread

theorem readFirst_plain_of_some {name : List UInt8} {room : ℕ}
    {text value : List UInt8} (hread : readFirst name room text = some value) :
    Plain value ∧ value.length ≤ room := by
  obtain ⟨cursor, _, hmember⟩ := Option.bind_eq_some_iff.mp hread
  exact readMember_plain_of_some hmember

end ProntoChat.QuotedText
