import ProntoChat.Common.FirstUse
import ProntoChat.Common.Settings
import ProntoChat.Core.Writing

/-!
# Pins that fail

A contact is appended in place by a loop that ends at the first call that does
not write.  What it has written by then stays in the file, and every later
search reads it as a line.  A failed call is harmless exactly when it has not
written anything.
-/

namespace ProntoChat.Contacts

open ProntoChat.QuotedText
open ProntoChat.Protocole
open ProntoChat.Json
open ProntoChat.Lines
open ProntoChat.Writing

/-- Outcomes of the calls of one `chat_contacts_verify_or_pin`. -/
structure PinIo where
  /-- The file is opened for reading, or does not exist, and is read whole. -/
  readable : Bool := true
  opened : Bool := true
  writes : List WriteOutcome := []
  closed : Bool := true

/-- `write_all`, which gives up on an interruption. -/
def writeAllContact (outcomes : List WriteOutcome) (line : Str) : Written UInt8 :=
  writeAll false outcomes line

/-- What the calls of `append_contact` come to. -/
def PinIo.outcome (io : PinIo) (line : Str) : ContactsIo :=
  if io.readable = false then .unreadable
  else if io.opened = false then .appendFails 0
  else if (writeAllContact io.writes line).complete && io.closed then .works
  else .appendFails (writeAllContact io.writes line).content.length

def pinContact (io : PinIo) (db : ContactsDb) (username : Str) (identityPk : Bytes 32) :
    VerifyOrPin :=
  chatContactsVerifyOrPin (io.outcome (contactLine username identityPk)) db username identityPk

/-! ## A torn line -/

theorem fgetsLines_contactsText_append {contacts : List (Str × Bytes 32)}
    (hvalid : ∀ contact ∈ contacts, chatUsernameIsValid contact.1 = true) (text : Str) :
    fgetsLines chatContactsLineMax (contactsText contacts ++ text) =
      (contacts.map fun contact => contactLine contact.1 contact.2) ++
        fgetsLines chatContactsLineMax text := by
  induction contacts with
  | nil => rfl
  | cons contact contacts ih =>
      obtain ⟨hcontact, hrest⟩ := List.forall_mem_cons.mp hvalid
      have hbody : newline ∉ contact.1 ++ 32 :: sodiumBin2hex contact.2 :=
        fun hmem => contactLine_body hcontact contact.2 newline hmem rfl
      have hline : contactLine contact.1 contact.2 =
          (contact.1 ++ 32 :: sodiumBin2hex contact.2) ++ [newline] := by
        simp [contactLine]
      have hone := Config.fgetsLines_short (Or.inl ⟨_, hbody, hline⟩)
        (Nat.lt_of_not_le (appendContact_fits hcontact contact.2))
      have hshape : contactsText (contact :: contacts) ++ text =
          (contact.1 ++ 32 :: sodiumBin2hex contact.2) ++
            newline :: (contactsText contacts ++ text) := by
        simp [contactsText, contactLine]
      rw [hshape, fgetsLines, Config.fgetsLinesFrom_terminated _ hbody, ← hline,
        List.map_cons, List.cons_append, ← ih hrest]
      rw [fgetsLines] at hone
      rw [hone]
      rfl

theorem findContactLines_append {contacts : List (Str × Bytes 32)}
    (hvalid : ∀ contact ∈ contacts, chatUsernameIsValid contact.1 = true) {username : Str}
    (hnew : contacts.lookup username = none) (lines : List Str) :
    findContactLines username
        ((contacts.map fun contact => contactLine contact.1 contact.2) ++ lines) =
      findContactLines username lines := by
  induction contacts with
  | nil => rfl
  | cons contact contacts ih =>
      obtain ⟨hcontact, hrest⟩ := List.forall_mem_cons.mp hvalid
      rw [List.lookup_cons] at hnew
      have hother : contact.1 ≠ username := by
        rintro rfl
        simp at hnew
      have hbeq : (username == contact.1) = false := by simpa using hother.symm
      simp only [List.map_cons, List.cons_append, findContactLines,
        parseContactLine_contactLine hcontact, if_neg hother]
      exact ih hrest (by simpa [hbeq] using hnew)

section Torn

variable {username : Str} (hvalid : chatUsernameIsValid username = true)
  (identityPk : Bytes 32)
include hvalid

/-- A name and digits without terminator. -/
theorem parseContactLine_digits {digits : Str}
    (hdigits : ∀ byte ∈ digits, isSpace byte = false ∧ byte ≠ 0) (hlength : digits.length ≤ 64) :
    parseContactLine (username ++ 32 :: digits) =
      if digits.length = 64 then (hexToBin 32 digits).map fun key => (username, key)
      else none := by
  have hbound := username_length hvalid
  have hcstring : cString (username ++ 32 :: digits) = username ++ 32 :: digits := by
    apply cString_of_ne_zero
    intro byte hbyte
    rcases List.mem_append.mp hbyte with hbyte | hbyte
    · exact (username_not_space hvalid byte hbyte).2.1
    · rcases List.mem_cons.mp hbyte with rfl | hbyte
      · decide
      · exact (hdigits byte hbyte).2
  have hnonempty : username ≠ [] := by
    rintro rfl
    simp at hbound
  have hname : scanToken 32 (username ++ 32 :: digits) = some (username, 32 :: digits) :=
    scanToken_append hnonempty
      (fun byte hbyte => (username_not_space hvalid byte hbyte).1)
      (by simp [isSpace]) hbound.2
  have hblank : scanToken 64 (32 :: digits) = scanToken 64 (digits ++ []) := by
    simp [scanToken, isSpace]
  simp only [parseContactLine, hcstring, hname, hblank]
  by_cases hempty : digits = []
  · simp [hempty, scanToken]
  · rw [scanToken_append hempty (fun byte hbyte => (hdigits byte hbyte).1) (by simp) hlength]
    by_cases hfull : digits.length = 64
    · simp [hvalid, hfull, chatContactsHexPublicKeyLen]
    · simp [hvalid, hfull, chatContactsHexPublicKeyLen]

/-- A beginning of a name is not a contact. -/
theorem parseContactLine_name (count : ℕ) : parseContactLine (username.take count) = none := by
  have hmem : ∀ byte ∈ username.take count, isSpace byte = false ∧ byte ≠ 0 := by
    intro byte hbyte
    have hname := username_not_space hvalid byte (List.mem_of_mem_take hbyte)
    exact ⟨hname.1, hname.2.1⟩
  have hcstring : cString (username.take count) = username.take count :=
    cString_of_ne_zero fun byte hbyte => (hmem byte hbyte).2
  have hlength : (username.take count).length ≤ 32 :=
    (List.length_take_le' _ _).trans (username_length hvalid).2
  by_cases hempty : username.take count = []
  · rw [hempty]
    rfl
  · have hscan : scanToken 32 (username.take count ++ []) = some (username.take count, []) :=
      scanToken_append hempty (fun byte hbyte => (hmem byte hbyte).1) (by simp) hlength
    rw [List.append_nil] at hscan
    rw [parseContactLine, hcstring, hscan]
    rfl

/-- A beginning of a line is read as no contact, or as the contact itself. -/
theorem parseContactLine_take (count : ℕ) :
    parseContactLine ((contactLine username identityPk).take count) = none ∨
      parseContactLine ((contactLine username identityPk).take count) =
        some (username, identityPk) := by
  rcases Nat.lt_or_ge username.length count with hname | hname
  · obtain ⟨more, rfl⟩ := Nat.exists_eq_add_of_lt hname
    have htake : (contactLine username identityPk).take (username.length + more + 1) =
        username ++ 32 :: (sodiumBin2hex identityPk ++ [newline]).take more := by
      rw [contactLine, Nat.add_assoc, List.take_length_add_append, List.take_succ_cons]
    have hlength := length_sodiumBin2hex identityPk
    rw [htake]
    rcases Nat.lt_or_ge 64 more with hwhole | htorn
    · rw [List.take_of_length_le (by simp [hlength]; omega)]
      exact Or.inr (parseContactLine_contactLine hvalid identityPk)
    · rw [List.take_append_of_le_length (by omega)]
      rw [parseContactLine_digits hvalid]
      · rcases Nat.lt_or_ge more 64 with hshort | hfull
        · refine Or.inl (if_neg ?_)
          simp only [List.length_take]
          omega
        · rw [List.take_of_length_le (by omega), if_pos hlength, hexToBin_sodiumBin2hex]
          exact Or.inr rfl
      · intro byte hbyte
        have hhex := hex_not_space identityPk byte (List.mem_of_mem_take hbyte)
        exact ⟨hhex.1, hhex.2.1⟩
      · exact (List.length_take_le _ _).trans htorn
  · rw [contactLine, List.take_append_of_le_length hname]
    exact Or.inl (parseContactLine_name hvalid count)

/-- A beginning of a line is one line of the search. -/
theorem fgetsLines_take {count : ℕ}
    (hwritten : (contactLine username identityPk).take count ≠ []) :
    fgetsLines chatContactsLineMax ((contactLine username identityPk).take count) =
      [(contactLine username identityPk).take count] := by
  have hbody : newline ∉ username ++ 32 :: sodiumBin2hex identityPk :=
    fun hmem => contactLine_body hvalid identityPk newline hmem rfl
  have hline : contactLine username identityPk =
      (username ++ 32 :: sodiumBin2hex identityPk) ++ [newline] := by
    simp [contactLine]
  have hfits := Nat.lt_of_not_le (appendContact_fits hvalid identityPk)
  refine Config.fgetsLines_short ?_ (lt_of_le_of_lt (List.length_take_le' _ _) hfits)
  rcases Nat.lt_or_ge (username ++ 32 :: sodiumBin2hex identityPk).length count with
    hwhole | htorn
  · refine Or.inl ⟨_, hbody, ?_⟩
    rw [List.take_of_length_le (by rw [hline, List.length_append]; exact hwhole), hline]
  · refine Or.inr ⟨hwritten, fun hmem => hbody ?_⟩
    rw [hline, List.take_append_of_le_length htorn] at hmem
    exact List.mem_of_mem_take hmem

/-- With the beginning of a line behind its contacts, the file refuses another key
for the name. -/
theorem verifyOrPin_torn {db : ContactsDb} {contacts : List (Str × Bytes 32)}
    (hpins : Pins db contacts) (hnew : contacts.lookup username = none) {other : Bytes 32}
    (hother : identityPk ≠ other) {count : ℕ}
    (hwritten : (contactLine username identityPk).take count ≠ []) :
    (chatContactsVerifyOrPin .works
      (some (db.getD [] ++ (contactLine username identityPk).take count)) username
      other).result ≠ .ok := by
  have hfind : findContact .works
      (some (db.getD [] ++ (contactLine username identityPk).take count)) username =
        findContactLines username [(contactLine username identityPk).take count] := by
    simp only [findContact, reduceCtorEq, if_false]
    rw [hpins.text, fgetsLines_contactsText_append hpins.valid,
      findContactLines_append hpins.valid hnew, fgetsLines_take hvalid identityPk hwritten]
  rw [chatContactsVerifyOrPin, if_neg (by simp [hvalid]), hfind]
  rcases parseContactLine_take hvalid identityPk count with hparse | hparse
  · simp [findContactLines, hparse]
  · simp [findContactLines, hparse, hother]

end Torn

/-! ## Later calls -/

/-- The call does not change the file, or succeeds: all of the line is written and
the file closed, or the call ends before it appends, or nothing is written. -/
def Harmless (io : PinIo) (calls : List ContactsCall) (username : Str)
    (identityPk : Bytes 32) : Prop :=
  ((writeAllContact io.writes (contactLine username identityPk)).complete = true ∧
      io.closed = true) ∨
    chatUsernameIsValid username = false ∨ io.readable = false ∨
    (firstKey username calls).isSome = true ∨ io.opened = false ∨
    ∃ outcome ∈ io.writes.head?, outcome.Nothing

theorem contactLine_ne_nil (username : Str) (identityPk : Bytes 32) :
    contactLine username identityPk ≠ [] := by
  simp [contactLine]

/-- When a line is appended whole or not at all. -/
theorem whole_outcome_iff (io : PinIo) (username : Str) (identityPk : Bytes 32) :
    (io.outcome (contactLine username identityPk)).Whole ↔
      ((writeAllContact io.writes (contactLine username identityPk)).complete = true ∧
          io.closed = true) ∨
        io.readable = false ∨ io.opened = false ∨
        ∃ outcome ∈ io.writes.head?, outcome.Nothing := by
  have hnothing : (writeAllContact io.writes (contactLine username identityPk)).content = [] ↔
      ∃ outcome ∈ io.writes.head?, outcome.Nothing :=
    content_writeAll_eq_nil_iff (contactLine_ne_nil username identityPk)
  unfold PinIo.outcome
  split_ifs with hreadable hopened hcomplete
  · exact iff_of_true trivial (Or.inr (Or.inl hreadable))
  · exact iff_of_true rfl (Or.inr (Or.inr (Or.inl hopened)))
  · exact iff_of_true trivial (Or.inl (by simpa using hcomplete))
  · have hincomplete : ¬ ((writeAllContact io.writes
        (contactLine username identityPk)).complete = true ∧ io.closed = true) := by
      simpa using hcomplete
    rw [← hnothing, ContactsIo.Whole, List.length_eq_zero_iff]
    simp [hincomplete, hreadable, hopened]

/-- The name is new and a part of its line is written: another key for it is
refused from then on. -/
theorem pinContact_torn {db : ContactsDb} {contacts : List (Str × Bytes 32)}
    (hpins : Pins db contacts) {username : Str}
    (hvalid : chatUsernameIsValid username = true)
    (hnew : contacts.lookup username = none) {io : PinIo} {identityPk : Bytes 32}
    (htorn : ¬ (io.outcome (contactLine username identityPk)).Whole) {other : Bytes 32}
    (hother : identityPk ≠ other) :
    (pinContact io db username identityPk).result = .io ∧
      (chatContactsVerifyOrPin .works (pinContact io db username identityPk).db username
        other).result ≠ .ok := by
  obtain ⟨count, hcount⟩ : ∃ count,
      io.outcome (contactLine username identityPk) = .appendFails (count + 1) := by
    cases houtcome : io.outcome (contactLine username identityPk) with
    | works => exact absurd (by rw [houtcome]; trivial) htorn
    | unreadable => exact absurd (by rw [houtcome]; trivial) htorn
    | appendFails written =>
        cases written with
        | zero => exact absurd (by rw [houtcome]; rfl) htorn
        | succ count => exact ⟨count, rfl⟩
  have hpin : pinContact io db username identityPk =
      ⟨.io, false, some (db.getD [] ++ (contactLine username identityPk).take (count + 1))⟩ := by
    rw [pinContact, hcount, chatContactsVerifyOrPin, if_neg (by simp [hvalid]),
      findContact_pins hpins (by simp), hnew]
    simp [appendContact, appendContact_fits hvalid identityPk]
  rw [hpin]
  refine ⟨rfl, verifyOrPin_torn hvalid identityPk hpins hnew hother ?_⟩
  simp [contactLine_ne_nil]

/-- A call for a name that is refused or pinned does not change the file. -/
theorem db_pinContact {db : ContactsDb} {contacts : List (Str × Bytes 32)}
    (hpins : Pins db contacts) (io : PinIo) {username : Str} (identityPk : Bytes 32)
    (hknown : chatUsernameIsValid username = false ∨
      (contacts.lookup username).isSome = true) :
    (pinContact io db username identityPk).db = db := by
  by_cases hvalid : chatUsernameIsValid username = false
  · simp [pinContact, chatContactsVerifyOrPin, hvalid]
  · obtain ⟨first, hfirst⟩ := Option.isSome_iff_exists.mp (hknown.resolve_left hvalid)
    rw [pinContact, chatContactsVerifyOrPin, if_neg hvalid]
    by_cases hreadable : io.outcome (contactLine username identityPk) = .unreadable
    · simp [findContact, hreadable]
    · rw [findContact_pins hpins hreadable, hfirst]
      dsimp only
      split_ifs <;> rfl

/-- Later calls are answered as if a failed one had not been made exactly when it
has not written a byte. -/
theorem failed_pin_harmless (calls : List ContactsCall) (io : PinIo) (username : Str)
    (identityPk : Bytes 32) :
    let db := Transition.run contactsStep none calls
    let pin := pinContact io db username identityPk
    (pin.result ≠ .ok → ∀ later call,
        contactsAnswer (Transition.run contactsStep pin.db later) call =
          contactsAnswer (Transition.run contactsStep db later) call) ↔
      Harmless io calls username identityPk := by
  intro db pin
  obtain ⟨contacts, hpins, hfirst⟩ : Trusts calls db := trusts_run rfl calls
  have hwhole := whole_outcome_iff io username identityPk
  constructor
  · -- a torn line would be seen by a call that offers another key
    intro hsame
    by_contra hharm
    simp only [Harmless, not_or] at hharm
    obtain ⟨hincomplete, hvalid, hreadable, hnew, hopened, hwrites⟩ := hharm
    rw [Bool.not_eq_false] at hvalid
    have hlookup : contacts.lookup username = none := by
      rw [hfirst username hvalid]
      simpa using hnew
    have htorn : ¬ (io.outcome (contactLine username identityPk)).Whole := by
      rw [hwhole]
      simp only [not_or]
      exact ⟨hincomplete, hreadable, hopened, hwrites⟩
    obtain ⟨other, hother⟩ : ∃ other, other ≠ identityPk := by
      by_cases hzero : zeroBytes 32 = identityPk
      · exact ⟨List.Vector.replicate 32 1, by rw [← hzero]; decide⟩
      · exact ⟨zeroBytes 32, hzero⟩
    obtain ⟨hfailed, hrefused⟩ := pinContact_torn hpins hvalid hlookup htorn hother.symm
    have hanswer := hsame (by rw [hfailed]; decide) [] (.verifyOrPin username other)
    have haccepted : (chatContactsVerifyOrPin .works db username other).result = .ok := by
      rw [verifyOrPin_works hpins hvalid, hlookup]
    exact hrefused ((congrArg ContactsAnswer.result hanswer).trans haccepted)
  · -- otherwise the file of a failed call is the one before it
    intro hharmless hfailed later call
    have hdb : pin.db = db := by
      by_cases hknown : chatUsernameIsValid username = false ∨
          (contacts.lookup username).isSome = true
      · exact db_pinContact hpins io identityPk hknown
      · simp only [not_or, Bool.not_eq_false] at hknown
        rw [hfirst username hknown.1] at hknown
        have hparts : (io.outcome (contactLine username identityPk)).Whole := by
          rw [hwhole]
          rcases hharmless with hdone | hvalid | hunread | hpinned | hclosed | hwrites
          · exact Or.inl hdone
          · simp [hvalid] at hknown
          · exact Or.inr (Or.inl hunread)
          · exact absurd hpinned hknown.2
          · exact Or.inr (Or.inr (Or.inl hclosed))
          · exact Or.inr (Or.inr (Or.inr hwrites))
        rcases verifyOrPin_cases hpins hparts username identityPk with
          ⟨_, hdb⟩ | ⟨hok, _⟩ | ⟨hok, _⟩
        · exact hdb
        · exact absurd hok hfailed
        · exact absurd hok hfailed
    rw [hdb]

/-- Four bytes of the line for bob are written: from then on every name is refused. -/
theorem torn_pin_blocks_store :
    let pin := pinContact { writes := [.wrote 4, .failed] } none (bytes "bob") (zeroBytes 32)
    pin.result = .io ∧
      contactsAnswer pin.db (.verifyOrPin (bytes "carol") (zeroBytes 32)) =
        { result := .badFile } ∧
      contactsAnswer pin.db (.loadPublicKey (bytes "alice")) = { result := .badFile } ∧
      contactsAnswer none (.verifyOrPin (bytes "carol") (zeroBytes 32)) =
        { result := .ok, isNewContact := true } ∧
      contactsAnswer none (.loadPublicKey (bytes "alice")) = { result := .notFound } := by
  decide +kernel

end ProntoChat.Contacts
