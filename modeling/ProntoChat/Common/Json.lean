import ProntoChat.Common.Protocole

/-!
# Control messages

Control messages are flat JSON objects.  They are written with a fixed member
order and read with `json_get_string`, a substring search for the quoted
member name; the daemon and the server each have a copy of that reader.  Keys,
signatures and challenges travel as hexadecimal digits.
-/

namespace ProntoChat.Json

open ProntoChat.QuotedText
open ProntoChat.Protocole

/-- The member names that the daemon and the server read or write. -/
inductive JsonKey where
  | type
  | code
  | username
  | publicKey
  | challenge
  | signature
  | from
  | to
  | sessionId
  | sdp
  | known
  | online
  deriving DecidableEq, Repr

def JsonKey.name : JsonKey → Str
  | .type => bytes "type"
  | .code => bytes "code"
  | .username => bytes "username"
  | .publicKey => bytes "public_key"
  | .challenge => bytes "challenge"
  | .signature => bytes "signature"
  | .from => bytes "from"
  | .to => bytes "to"
  | .sessionId => bytes "session_id"
  | .sdp => bytes "sdp"
  | .known => bytes "known"
  | .online => bytes "online"

def JsonKey.all : List JsonKey :=
  [.type, .code, .username, .publicKey, .challenge, .signature, .from, .to,
    .sessionId, .sdp, .known, .online]

theorem JsonKey.mem_all (key : JsonKey) : key ∈ JsonKey.all := by
  cases key <;> decide

theorem JsonKey.searchName (key : JsonKey) : SearchName key.name := by
  have hall : ∀ key ∈ JsonKey.all, Plain key.name ∧ key.name ≠ [] ∧
      key.name.head? ≠ some colon ∧ key.name.head? ≠ some comma ∧
      key.name.head? ≠ some closeBrace := by
    decide +kernel
  obtain ⟨hplain, hnonempty, hcolon, hcomma, hbrace⟩ := hall key key.mem_all
  exact ⟨hplain, hnonempty, hcolon, hcomma, hbrace⟩

theorem JsonKey.length_name_le (key : JsonKey) : key.name.length ≤ 10 := by
  have hall : ∀ key ∈ JsonKey.all, key.name.length ≤ 10 := by
    decide +kernel
  exact hall key key.mem_all

theorem JsonKey.name_injective : Function.Injective JsonKey.name := by
  have hall : ∀ left ∈ JsonKey.all, ∀ right ∈ JsonKey.all,
      left.name = right.name → left = right := by
    decide +kernel
  intro left right heq
  exact hall left left.mem_all right right.mem_all heq

/-- The message types that the daemon or the server compare with. -/
inductive ControlType where
  | error
  | register
  | registerOk
  | hello
  | authChallenge
  | authResponse
  | authOk
  | userLookup
  | userStatus
  | chatRequest
  | chatAccept
  | chatReject
  | chatCancel
  | chatEnd
  | iceCredentials
  | iceCandidate
  | iceDone
  | iceGatheringDone
  deriving DecidableEq, Repr

def ControlType.name : ControlType → Str
  | .error => bytes "error"
  | .register => bytes "register"
  | .registerOk => bytes "register_ok"
  | .hello => bytes "hello"
  | .authChallenge => bytes "auth_challenge"
  | .authResponse => bytes "auth_response"
  | .authOk => bytes "auth_ok"
  | .userLookup => bytes "user_lookup"
  | .userStatus => bytes "user_status"
  | .chatRequest => bytes "chat_request"
  | .chatAccept => bytes "chat_accept"
  | .chatReject => bytes "chat_reject"
  | .chatCancel => bytes "chat_cancel"
  | .chatEnd => bytes "chat_end"
  | .iceCredentials => bytes "ice_credentials"
  | .iceCandidate => bytes "ice_candidate"
  | .iceDone => bytes "ice_done"
  | .iceGatheringDone => bytes "ice_gathering_done"

def ControlType.all : List ControlType :=
  [.error, .register, .registerOk, .hello, .authChallenge, .authResponse,
    .authOk, .userLookup, .userStatus, .chatRequest, .chatAccept, .chatReject,
    .chatCancel, .chatEnd, .iceCredentials, .iceCandidate, .iceDone,
    .iceGatheringDone]

/-- The type whose name `strcmp` finds equal to the text. -/
def ControlType.ofName (text : Str) : Option ControlType :=
  ControlType.all.find? fun type => type.name == text

theorem ControlType.mem_all (type : ControlType) : type ∈ ControlType.all := by
  cases type <;> decide

@[simp]
theorem ControlType.ofName_name (type : ControlType) :
    ControlType.ofName type.name = some type := by
  have hall : ∀ type ∈ ControlType.all,
      ControlType.ofName type.name = some type := by
    decide +kernel
  exact hall type type.mem_all

theorem ControlType.plain_name (type : ControlType) :
    Plain type.name ∧ type.name.length < 32 := by
  have hall : ∀ type ∈ ControlType.all,
      Plain type.name ∧ type.name.length < 32 := by
    decide +kernel
  exact hall type type.mem_all

/-- Size of the buffer that holds the quoted member name. -/
def jsonPatternSize : ℕ := 64

def jsonGetString (json : Str) (key : JsonKey) (outSize : ℕ) : Option Str :=
  if outSize = 0 ∨ jsonPatternSize ≤ (quoted key.name).length then none
  else readFirst key.name (outSize - 1) json

/-- The type of a control message, read into the buffer of 32 bytes that both
programs use. -/
def jsonType (json : Str) : Option ControlType :=
  (jsonGetString json .type 32).bind ControlType.ofName

def jsonBoolIsTrue (json : Str) (key : JsonKey) : Bool :=
  match findFirst (quoted key.name) json with
  | none => false
  | some cursor =>
      match (cursor.drop (quoted key.name).length).dropWhile isBlank with
      | [] => false
      | byte :: rest =>
          byte == colon && (bytes "true").isPrefixOf (rest.dropWhile isBlank)

theorem jsonGetString_eq_readFirst (json : Str) (key : JsonKey) {outSize : ℕ}
    (hsize : 0 < outSize) :
    jsonGetString json key outSize = readFirst key.name (outSize - 1) json := by
  have hpattern : ¬ jsonPatternSize ≤ (quoted key.name).length := by
    cases key <;> decide
  rw [jsonGetString, if_neg]
  rintro (hzero | hlong)
  · omega
  · exact hpattern hlong

/-- Reading back a written control message. -/
theorem jsonGetString_object (key : JsonKey) {outSize : ℕ} (hsize : 0 < outSize)
    {members : List (Str × Str)}
    (hplain : ∀ entry ∈ members, Plain entry.1 ∧ Plain entry.2) :
    jsonGetString (object members) key outSize =
      scanMembers key.name (outSize - 1) members := by
  rw [jsonGetString_eq_readFirst _ key hsize,
    readFirst_object key.searchName _ hplain]

theorem plain_control (type : ControlType) {members : List (Str × Str)}
    (hplain : ∀ entry ∈ members, Plain entry.1 ∧ Plain entry.2) :
    ∀ entry ∈ (JsonKey.type.name, type.name) :: members,
      Plain entry.1 ∧ Plain entry.2 :=
  List.forall_mem_cons.mpr
    ⟨⟨JsonKey.type.searchName.plain, type.plain_name.1⟩, hplain⟩

/-- Reading back the type of a written control message. -/
theorem jsonType_object (type : ControlType) {members : List (Str × Str)}
    (hplain : ∀ entry ∈ members, Plain entry.1 ∧ Plain entry.2) :
    jsonType (object ((JsonKey.type.name, type.name) :: members)) =
      some type := by
  have hlength : type.name.length ≤ 32 - 1 := Nat.le_of_lt_succ type.plain_name.2
  rw [jsonType, jsonGetString_object .type (by decide) (plain_control type hplain)]
  simp only [scanMembers, if_true, if_pos hlength, Option.bind_some,
    ControlType.ofName_name]

/-- A written control message is a C string. -/
theorem cString_object {members : List (Str × Str)}
    (hplain : ∀ entry ∈ members, Plain entry.1 ∧ Plain entry.2) :
    cString (object members) = object members :=
  cString_of_ne_zero (object_ne_zero hplain)

/-- A member is read from the plain part at the front of a message, whatever
follows. -/
theorem jsonGetString_front (key : JsonKey) {outSize : ℕ} (hsize : 0 < outSize)
    {members : List (Str × Str)}
    (hplain : ∀ entry ∈ members, Plain entry.1 ∧ Plain entry.2)
    (hfound : ∃ entry ∈ members, entry.1 = key.name) (rest : List (Str × Str)) :
    jsonGetString (cString (object (members ++ rest))) key outSize =
      scanMembers key.name (outSize - 1) members := by
  rw [jsonGetString_eq_readFirst _ key hsize]
  exact readFirst_takeWhile_object key.searchName _ hplain hfound rest

/-- The type stands first in every message. -/
theorem jsonType_front (type : ControlType) (rest : List (Str × Str)) :
    jsonType (cString (object ((JsonKey.type.name, type.name) :: rest))) =
      some type := by
  have hlength : type.name.length ≤ 32 - 1 := Nat.le_of_lt_succ type.plain_name.2
  have hread := jsonGetString_front .type (by decide : 0 < 32)
    (plain_control type (List.forall_mem_nil _)) ⟨_, List.mem_cons_self, rfl⟩ rest
  rw [List.singleton_append] at hread
  rw [jsonType, hread]
  simp only [scanMembers, if_true, if_pos hlength, Option.bind_some,
    ControlType.ofName_name]

theorem jsonGetString_bounds {json : Str} {key : JsonKey} {outSize : ℕ}
    {value : Str} (hread : jsonGetString json key outSize = some value) :
    Plain value ∧ value.length < outSize := by
  unfold jsonGetString at hread
  split_ifs at hread with hbad
  obtain ⟨hplain, hlength⟩ := readFirst_plain_of_some hread
  exact ⟨hplain, by omega⟩

/-! ## Hexadecimal digits -/

def hexValue (digit : UInt8) : Option UInt8 :=
  if 48 ≤ digit ∧ digit ≤ 57 then some (digit - 48)
  else if 97 ≤ digit ∧ digit ≤ 102 then some (digit - 87)
  else if 65 ≤ digit ∧ digit ≤ 70 then some (digit - 55)
  else none

/-- `sodium_hex2bin` without ignored characters and without an end pointer:
any other byte, an odd number of digits or trailing text is an error. -/
def sodiumHex2bin : List UInt8 → Option (List UInt8)
  | [] => some []
  | [_] => none
  | high :: low :: rest =>
      match hexValue high, hexValue low, sodiumHex2bin rest with
      | some upper, some lower, some tail => some ((upper * 16 + lower) :: tail)
      | _, _, _ => none

def hexToBin (size : ℕ) (hex : Str) : Option (Bytes size) :=
  match sodiumHex2bin hex with
  | none => none
  | some binary =>
      if hlength : binary.length = size then some ⟨binary, hlength⟩ else none

def hexDigit (nibble : UInt8) : UInt8 :=
  if nibble < 10 then nibble + 48 else nibble + 87

def binToHexList : List UInt8 → Str
  | [] => []
  | byte :: rest => hexDigit (byte / 16) :: hexDigit (byte % 16) :: binToHexList rest

/-- `sodium_bin2hex`. -/
def sodiumBin2hex {size : ℕ} (binary : Bytes size) : Str :=
  binToHexList binary.toList

theorem hexDigits_roundtrip (byte : UInt8) :
    hexValue (hexDigit (byte / 16)) = some (byte / 16) ∧
      hexValue (hexDigit (byte % 16)) = some (byte % 16) ∧
      byte / 16 * 16 + byte % 16 = byte := by
  have hall : ∀ value : Fin 256,
      hexValue (hexDigit (UInt8.ofFin value / 16)) = some (UInt8.ofFin value / 16) ∧
        hexValue (hexDigit (UInt8.ofFin value % 16)) =
          some (UInt8.ofFin value % 16) ∧
        UInt8.ofFin value / 16 * 16 + UInt8.ofFin value % 16 =
          UInt8.ofFin value := by
    decide +kernel
  simpa using hall byte.toFin

theorem sodiumHex2bin_binToHexList (binary : List UInt8) :
    sodiumHex2bin (binToHexList binary) = some binary := by
  induction binary with
  | nil => rfl
  | cons byte rest ih =>
      obtain ⟨hupper, hlower, hbyte⟩ := hexDigits_roundtrip byte
      simp only [binToHexList, sodiumHex2bin, hupper, hlower, ih, hbyte]

@[simp]
theorem hexToBin_sodiumBin2hex {size : ℕ} (binary : Bytes size) :
    hexToBin size (sodiumBin2hex binary) = some binary := by
  obtain ⟨content, hlength⟩ := binary
  simp [hexToBin, sodiumBin2hex, sodiumHex2bin_binToHexList, hlength]

@[simp]
theorem length_binToHexList (binary : List UInt8) :
    (binToHexList binary).length = 2 * binary.length := by
  induction binary with
  | nil => rfl
  | cons byte rest ih =>
      simp only [binToHexList, List.length_cons, ih]
      omega

@[simp]
theorem length_sodiumBin2hex {size : ℕ} (binary : Bytes size) :
    (sodiumBin2hex binary).length = 2 * size := by
  simp [sodiumBin2hex]

/-- A nibble is written as a decimal digit or a lower-case letter. -/
theorem isAlnum_hexDigit (nibble : UInt8) (hnibble : nibble < 16) :
    isAlnum (hexDigit nibble) = true := by
  have hall : ∀ value : Fin 256, UInt8.ofFin value < 16 →
      isAlnum (hexDigit (UInt8.ofFin value)) = true := by
    decide +kernel
  exact hall nibble.toFin hnibble

theorem isAlnum_binToHexList (binary : List UInt8) :
    ∀ digit ∈ binToHexList binary, isAlnum digit = true := by
  induction binary with
  | nil => simp [binToHexList]
  | cons byte rest ih =>
      have hupper : byte / 16 < 16 := by
        rw [UInt8.lt_iff_toNat_lt, UInt8.toNat_div]
        have := byte.toNat_lt
        show byte.toNat / 16 < 16
        omega
      have hlower : byte % 16 < 16 := by
        rw [UInt8.lt_iff_toNat_lt, UInt8.toNat_mod]
        exact Nat.mod_lt _ (by decide)
      intro digit hdigit
      simp only [binToHexList, List.mem_cons] at hdigit
      rcases hdigit with rfl | rfl | hdigit
      · exact isAlnum_hexDigit _ hupper
      · exact isAlnum_hexDigit _ hlower
      · exact ih digit hdigit

/-! ## Texts that may be quoted -/

/-- Letters, digits, underscores and hyphens are plain. -/
theorem usernameByte_plain (byte : UInt8) (hbyte : usernameByte byte = true) :
    byte ≠ quoteMark ∧ byte ≠ backslash ∧ 32 ≤ byte := by
  have hall : ∀ value : Fin 256, usernameByte (UInt8.ofFin value) = true →
      UInt8.ofFin value ≠ quoteMark ∧ UInt8.ofFin value ≠ backslash ∧
        32 ≤ UInt8.ofFin value := by
    decide +kernel
  exact hall byte.toFin hbyte

theorem plain_of_username {username : Str}
    (hvalid : chatUsernameIsValid username = true) : Plain username := by
  intro byte hbyte
  simp only [chatUsernameIsValid, Bool.and_eq_true, List.all_eq_true] at hvalid
  exact usernameByte_plain byte (hvalid.2 byte hbyte)

theorem plain_sodiumBin2hex {size : ℕ} (binary : Bytes size) :
    Plain (sodiumBin2hex binary) := by
  intro digit hdigit
  apply usernameByte_plain
  simp [usernameByte, isAlnum_binToHexList binary.toList digit hdigit]

theorem username_length {username : Str}
    (hvalid : chatUsernameIsValid username = true) :
    3 ≤ username.length ∧ username.length ≤ 32 := by
  simp only [chatUsernameIsValid, Bool.and_eq_true] at hvalid
  exact ⟨of_decide_eq_true hvalid.1.1, of_decide_eq_true hvalid.1.2⟩

end ProntoChat.Json
