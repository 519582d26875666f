import ProntoChat.Common.Json

/-!
# Pinned contacts

`contacts.db` is an append-only text file with one line per contact: the
username, a blank and the account key in hexadecimal digits.  A search reads
the file from the start with `fgets` into a fixed buffer and parses each line
with `sscanf`.  On a file written by this module alone the search finds the
first key that was pinned for a name, and that key never changes.
-/

namespace ProntoChat.Contacts

open ProntoChat.QuotedText
open ProntoChat.Protocole
open ProntoChat.Json

inductive ChatContactsResult where
  | ok
  | invalid
  | io
  | buffer
  | badFile
  | mismatch
  | notFound
  deriving DecidableEq, Repr

/-- Outcome of the file operations of one call: all succeed, the file cannot
be read, or the append fails after a number of bytes was written. -/
inductive ContactsIo where
  | works
  | unreadable
  | appendFails (written : ℕ)
  deriving DecidableEq, Repr

/-- A line is appended whole or not at all. -/
def ContactsIo.Whole : ContactsIo → Prop
  | .appendFails written => written = 0
  | _ => True

instance : (io : ContactsIo) → Decidable io.Whole
  | .works => isTrue trivial
  | .unreadable => isTrue trivial
  | .appendFails written => inferInstanceAs (Decidable (written = 0))

/-- Content of `contacts.db`, or `none` while the file does not exist. -/
abbrev ContactsDb := Option Str

def chatContactsHexPublicKeyLen : ℕ := 65

def chatContactsLineMax : ℕ :=
  chatUsernameMaxLen + 1 + chatContactsHexPublicKeyLen + 2

def newline : UInt8 := 10

/-- `isspace` in the C locale. -/
def isSpace (byte : UInt8) : Bool :=
  byte == 32 || (9 ≤ byte && byte ≤ 13)

/-- The successive results of `fgets` with room for `room` more bytes in the
current line: a line ends behind a newline, at the end of the buffer or at the
end of the file. -/
def fgetsLinesFrom (limit : ℕ) : ℕ → Str → Str → List Str
  | _, line, [] => if line = [] then [] else [line]
  | room, line, byte :: rest =>
      if byte = newline ∨ room ≤ 1 then
        (line ++ [byte]) :: fgetsLinesFrom limit limit [] rest
      else fgetsLinesFrom limit (room - 1) (line ++ [byte]) rest

def fgetsLines (size : ℕ) (content : Str) : List Str :=
  fgetsLinesFrom (size - 1) (size - 1) [] content

/-- One `%<width>s` conversion: the token and the rest of the text. -/
def scanToken (width : ℕ) (text : Str) : Option (Str × Str) :=
  let start := text.dropWhile isSpace
  let token := (start.takeWhile fun byte => !isSpace byte).take width
  if token = [] then none else some (token, start.drop token.length)

/-- `parse_contact_line`: exactly a username and 64 hexadecimal digits. -/
def parseContactLine (line : Str) : Option (Str × Bytes 32) :=
  match scanToken 32 (cString line) with
  | none => none
  | some (username, rest) =>
      match scanToken 64 rest with
      | none => none
      | some (hex, rest) =>
          if rest.dropWhile isSpace ≠ [] then none
          else if chatUsernameIsValid username = false then none
          else if hex.length ≠ chatContactsHexPublicKeyLen - 1 then none
          else (hexToBin 32 hex).map fun identityPk => (username, identityPk)

/-- The search loop of `find_contact` over the lines of the file. -/
def findContactLines (username : Str) :
    List Str → ChatContactsResult × Option (Bytes 32)
  | [] => (.ok, none)
  | line :: lines =>
      match parseContactLine line with
      | none => (.badFile, none)
      | some (storedUsername, storedPk) =>
          if storedUsername = username then (.ok, some storedPk)
          else findContactLines username lines

def findContact (io : ContactsIo) (db : ContactsDb) (username : Str) :
    ChatContactsResult × Option (Bytes 32) :=
  if io = .unreadable then (.io, none)
  else
    match db with
    | none => (.ok, none)
    | some content =>
        findContactLines username (fgetsLines chatContactsLineMax content)

def contactLine (username : Str) (identityPk : Bytes 32) : Str :=
  username ++ 32 :: (sodiumBin2hex identityPk ++ [newline])

def appendContact (io : ContactsIo) (db : ContactsDb) (username : Str)
    (identityPk : Bytes 32) : ChatContactsResult × ContactsDb :=
  let line := contactLine username identityPk
  if chatContactsLineMax ≤ line.length then (.buffer, db)
  else
    match io with
    | .appendFails 0 => (.io, db)
    | .appendFails written => (.io, some (db.getD [] ++ line.take written))
    | _ => (.ok, some (db.getD [] ++ line))

structure VerifyOrPin where
  result : ChatContactsResult
  isNewContact : Bool
  db : ContactsDb

def chatContactsVerifyOrPin (io : ContactsIo) (db : ContactsDb)
    (username : Str) (identityPk : Bytes 32) : VerifyOrPin :=
  if chatUsernameIsValid username = false then ⟨.invalid, false, db⟩
  else
    match findContact io db username with
    | (.ok, some storedPk) =>
        if storedPk = identityPk then ⟨.ok, false, db⟩
        else ⟨.mismatch, false, db⟩
    | (.ok, none) =>
        let appended := appendContact io db username identityPk
        ⟨appended.1, appended.1 == .ok, appended.2⟩
    | (failure, _) => ⟨failure, false, db⟩

/-! ## Reading back what was appended -/

/-- The file content for a list of pinned contacts. -/
def contactsText (contacts : List (Str × Bytes 32)) : Str :=
  contacts.flatMap fun contact => contactLine contact.1 contact.2

theorem username_not_space {username : Str}
    (hvalid : chatUsernameIsValid username = true) :
    ∀ byte ∈ username, isSpace byte = false ∧ byte ≠ 0 ∧ byte ≠ newline := by
  have hall : ∀ value : Fin 256, usernameByte (UInt8.ofFin value) = true →
      isSpace (UInt8.ofFin value) = false ∧ UInt8.ofFin value ≠ 0 ∧
        UInt8.ofFin value ≠ newline := by
    decide +kernel
  intro byte hbyte
  simp only [chatUsernameIsValid, Bool.and_eq_true, List.all_eq_true] at hvalid
  exact hall byte.toFin (hvalid.2 byte hbyte)

theorem hex_not_space {size : ℕ} (binary : Bytes size) :
    ∀ byte ∈ sodiumBin2hex binary,
      isSpace byte = false ∧ byte ≠ 0 ∧ byte ≠ newline := by
  have hall : ∀ value : Fin 256, isAlnum (UInt8.ofFin value) = true →
      isSpace (UInt8.ofFin value) = false ∧ UInt8.ofFin value ≠ 0 ∧
        UInt8.ofFin value ≠ newline := by
    decide +kernel
  intro byte hbyte
  exact hall byte.toFin (isAlnum_binToHexList _ byte hbyte)

/-- A line shorter than the buffer is read whole. -/
theorem fgetsLinesFrom_line (limit : ℕ) {line rest : Str} (read : Str)
    {room : ℕ} (hline : ∀ byte ∈ line, byte ≠ newline)
    (hroom : line.length < room) :
    fgetsLinesFrom limit room read (line ++ newline :: rest) =
      (read ++ line ++ [newline]) :: fgetsLinesFrom limit limit [] rest := by
  induction line generalizing read room with
  | nil => simp [fgetsLinesFrom]
  | cons byte line ih =>
      have hbyte := hline byte List.mem_cons_self
      have hlong : ¬ (byte = newline ∨ room ≤ 1) := by
        simp only [List.length_cons] at hroom
        rintro (heq | hle)
        · exact hbyte heq
        · omega
      rw [List.cons_append, fgetsLinesFrom, if_neg hlong,
        ih (read ++ [byte]) (fun other hother =>
          hline other (List.mem_cons_of_mem _ hother)) (by
            simp only [List.length_cons] at hroom
            omega)]
      simp

theorem contactLine_body {username : Str}
    (hvalid : chatUsernameIsValid username = true) (identityPk : Bytes 32) :
    ∀ byte ∈ username ++ 32 :: sodiumBin2hex identityPk, byte ≠ newline := by
  intro byte hbyte
  rcases List.mem_append.mp hbyte with hbyte | hbyte
  · exact (username_not_space hvalid byte hbyte).2.2
  · rcases List.mem_cons.mp hbyte with rfl | hbyte
    · decide
    · exact (hex_not_space identityPk byte hbyte).2.2

theorem fgetsLines_contactsText {contacts : List (Str × Bytes 32)}
    (hvalid : ∀ contact ∈ contacts, chatUsernameIsValid contact.1 = true) :
    fgetsLines chatContactsLineMax (contactsText contacts) =
      contacts.map fun contact => contactLine contact.1 contact.2 := by
  have hlimit : chatContactsLineMax - 1 = 99 := rfl
  unfold fgetsLines
  rw [hlimit]
  induction contacts with
  | nil => rfl
  | cons contact contacts ih =>
      obtain ⟨username, identityPk⟩ := contact
      have husername : chatUsernameIsValid username = true :=
        hvalid (username, identityPk) List.mem_cons_self
      have hbound := username_length husername
      have hshape : contactsText ((username, identityPk) :: contacts) =
          (username ++ 32 :: sodiumBin2hex identityPk) ++
            newline :: contactsText contacts := by
        simp [contactsText, contactLine]
      rw [hshape, fgetsLinesFrom_line 99 []
        (contactLine_body husername identityPk) (by
          simp only [List.length_append, List.length_cons,
            length_sodiumBin2hex]
          omega),
        ih fun other hother => hvalid other (List.mem_cons_of_mem _ hother)]
      simp [contactLine]

theorem scanToken_append {token rest : Str} {width : ℕ} (hnonempty : token ≠ [])
    (htoken : ∀ byte ∈ token, isSpace byte = false)
    (hrest : ∀ byte, rest.head? = some byte → isSpace byte = true)
    (hwidth : token.length ≤ width) :
    scanToken width (token ++ rest) = some (token, rest) := by
  have hstart : (token ++ rest).dropWhile isSpace = token ++ rest := by
    obtain ⟨first, tail, rfl⟩ := List.exists_cons_of_ne_nil hnonempty
    simp [htoken first List.mem_cons_self]
  have htake : (token ++ rest).takeWhile (fun byte => !isSpace byte) = token := by
    have htail : rest.takeWhile (fun byte => !isSpace byte) = [] := by
      cases rest with
      | nil => rfl
      | cons byte rest => simp [hrest byte rfl]
    rw [List.takeWhile_append_of_pos, htail, List.append_nil]
    intro byte hbyte
    simp [htoken byte hbyte]
  simp [scanToken, hstart, htake, List.take_of_length_le hwidth, hnonempty]

theorem parseContactLine_contactLine {username : Str}
    (hvalid : chatUsernameIsValid username = true) (identityPk : Bytes 32) :
    parseContactLine (contactLine username identityPk) =
      some (username, identityPk) := by
  have hbound := username_length hvalid
  have hcstring : cString (contactLine username identityPk) =
      username ++ 32 :: (sodiumBin2hex identityPk ++ [newline]) := by
    apply cString_of_ne_zero
    intro byte hbyte
    simp only [contactLine, List.mem_append, List.mem_cons, List.not_mem_nil,
      or_false] at hbyte
    rcases hbyte with hbyte | rfl | hbyte | rfl
    · exact (username_not_space hvalid byte hbyte).2.1
    · decide
    · exact (hex_not_space identityPk byte hbyte).2.1
    · decide
  have hnonempty : username ≠ [] := by
    rintro rfl
    simp at hbound
  have hfirst :
      scanToken 32 (username ++ 32 :: (sodiumBin2hex identityPk ++ [newline])) =
        some (username, 32 :: (sodiumBin2hex identityPk ++ [newline])) :=
    scanToken_append hnonempty
      (fun byte hbyte => (username_not_space hvalid byte hbyte).1)
      (by simp [isSpace]) hbound.2
  have hhexNonempty : sodiumBin2hex identityPk ≠ [] := by
    intro hempty
    have := length_sodiumBin2hex identityPk
    simp [hempty] at this
  have hsecond : scanToken 64 (sodiumBin2hex identityPk ++ [newline]) =
      some (sodiumBin2hex identityPk, [newline]) :=
    scanToken_append hhexNonempty
      (fun byte hbyte => (hex_not_space identityPk byte hbyte).1)
      (by simp [isSpace, newline]) (by simp)
  have hblank : scanToken 64 (32 :: (sodiumBin2hex identityPk ++ [newline])) =
      scanToken 64 (sodiumBin2hex identityPk ++ [newline]) := by
    simp [scanToken, isSpace]
  have hend : [newline].dropWhile isSpace = [] := by decide
  simp only [parseContactLine, hcstring, hfirst, hblank, hsecond, hend, hvalid,
    ne_eq, not_true_eq_false, if_false, Bool.true_eq_false,
    length_sodiumBin2hex, chatContactsHexPublicKeyLen, Nat.reduceMul,
    Nat.reduceSub, hexToBin_sodiumBin2hex, Option.map_some]

theorem findContactLines_map {contacts : List (Str × Bytes 32)}
    (hvalid : ∀ contact ∈ contacts, chatUsernameIsValid contact.1 = true)
    (username : Str) :
    findContactLines username
        (contacts.map fun contact => contactLine contact.1 contact.2) =
      (.ok, contacts.lookup username) := by
  induction contacts with
  | nil => rfl
  | cons contact contacts ih =>
      obtain ⟨stored, identityPk⟩ := contact
      have hstored := hvalid (stored, identityPk) List.mem_cons_self
      simp only [List.map_cons, findContactLines,
        parseContactLine_contactLine hstored, List.lookup_cons]
      by_cases hname : stored = username
      · simp [hname]
      · have hbeq : (username == stored) = false := by
          simpa using Ne.symm hname
        simp only [hname, if_false, hbeq]
        exact ih fun other hother => hvalid other (List.mem_cons_of_mem _ hother)

/-! ## The store as a finite map -/

/-- A store that only `chatContactsVerifyOrPin` has written, with the contacts
in the order in which they were pinned. -/
structure Pins (db : ContactsDb) (contacts : List (Str × Bytes 32)) : Prop where
  valid : ∀ contact ∈ contacts, chatUsernameIsValid contact.1 = true
  text : db.getD [] = contactsText contacts

theorem findContact_pins {db : ContactsDb} {contacts : List (Str × Bytes 32)}
    (hpins : Pins db contacts) {io : ContactsIo} (hio : io ≠ .unreadable)
    (username : Str) :
    findContact io db username = (.ok, contacts.lookup username) := by
  cases db with
  | none =>
      have hempty : contacts = [] := by
        have htext := hpins.text
        cases contacts with
        | nil => rfl
        | cons contact contacts =>
            simp [contactsText, contactLine] at htext
      simp [findContact, hio, hempty]
  | some content =>
      have htext : content = contactsText contacts := hpins.text
      simp only [findContact, hio, if_false, htext]
      rw [fgetsLines_contactsText hpins.valid, findContactLines_map hpins.valid]

theorem appendContact_fits {username : Str}
    (hvalid : chatUsernameIsValid username = true) (identityPk : Bytes 32) :
    ¬ chatContactsLineMax ≤ (contactLine username identityPk).length := by
  have hbound := username_length hvalid
  have hmax : chatContactsLineMax = 100 := rfl
  simp only [contactLine, List.length_append, List.length_cons,
    length_sodiumBin2hex, List.length_nil, hmax]
  omega

/-- What a call does to a store of pinned contacts: it fails and leaves the
file alone, it confirms the pinned key, or it pins the key of a new name. -/
theorem verifyOrPin_cases {db : ContactsDb} {contacts : List (Str × Bytes 32)}
    (hpins : Pins db contacts) {io : ContactsIo} (hwhole : io.Whole)
    (username : Str) (identityPk : Bytes 32) :
    let call := chatContactsVerifyOrPin io db username identityPk
    (call.result ≠ .ok ∧ call.db = db) ∨
      (call.result = .ok ∧ call.db = db ∧
        contacts.lookup username = some identityPk) ∨
      (call.result = .ok ∧ contacts.lookup username = none ∧
        Pins call.db (contacts ++ [(username, identityPk)])) := by
  intro call
  have hcall : call = chatContactsVerifyOrPin io db username identityPk := rfl
  unfold chatContactsVerifyOrPin at hcall
  by_cases hvalid : chatUsernameIsValid username = false
  · rw [if_pos hvalid] at hcall
    exact Or.inl (by simp [hcall])
  rw [if_neg hvalid] at hcall
  rw [Bool.not_eq_false] at hvalid
  by_cases hio : io = .unreadable
  · have hfind : findContact io db username = (.io, none) := by
      simp [findContact, hio]
    rw [hfind] at hcall
    exact Or.inl (by simp [hcall])
  rw [findContact_pins hpins hio] at hcall
  cases hlookup : contacts.lookup username with
  | some storedPk =>
      simp only [hlookup] at hcall
      by_cases hmatch : storedPk = identityPk
      · rw [if_pos hmatch] at hcall
        exact Or.inr (Or.inl (by simp [hcall, hmatch]))
      · rw [if_neg hmatch] at hcall
        exact Or.inl (by simp [hcall])
  | none =>
      simp only [hlookup, appendContact,
        if_neg (appendContact_fits hvalid identityPk)] at hcall
      cases io with
      | unreadable => exact absurd rfl hio
      | appendFails written =>
          obtain rfl : written = 0 := hwhole
          exact Or.inl (by simp [hcall])
      | works =>
          refine Or.inr (Or.inr ⟨by simp [hcall], rfl, ?_, ?_⟩)
          · intro contact hcontact
            rcases List.mem_append.mp hcontact with hold | hnew
            · exact hpins.valid contact hold
            · rw [List.mem_singleton.mp hnew]
              exact hvalid
          · simp [hcall, hpins.text, contactsText]

/-- A call keeps every pinned contact, and a name that it accepts is pinned to
the given key. -/
theorem verifyOrPin_pins {db : ContactsDb} {contacts : List (Str × Bytes 32)}
    (hpins : Pins db contacts) {io : ContactsIo} (hwhole : io.Whole)
    (username : Str) (identityPk : Bytes 32) :
    ∃ pinned, Pins (chatContactsVerifyOrPin io db username identityPk).db pinned ∧
      (∀ name key, contacts.lookup name = some key →
        pinned.lookup name = some key) ∧
      ((chatContactsVerifyOrPin io db username identityPk).result = .ok →
        pinned.lookup username = some identityPk) := by
  rcases verifyOrPin_cases hpins hwhole username identityPk with
    ⟨hresult, hdb⟩ | ⟨_, hdb, hlookup⟩ | ⟨_, hlookup, hpinned⟩
  · rw [hdb]
    exact ⟨contacts, hpins, fun _ _ h => h, fun hok => absurd hok hresult⟩
  · rw [hdb]
    exact ⟨contacts, hpins, fun _ _ h => h, fun _ => hlookup⟩
  · refine ⟨_, hpinned, fun name key hname => ?_, fun _ => ?_⟩
    · simp [List.lookup_append, hname]
    · simp [List.lookup_append, hlookup]

end ProntoChat.Contacts
