import ProntoChat.Common.Settings
import ProntoChat.Common.Transparent
import ProntoChat.Core.Writing
import ProntoChat.Core.Transition

/-!
# The identity of a user

Creating an identity writes three files one after another, each with `O_EXCL`,
and nothing takes one of them back when a later step fails.  What a successful
call has written is read back by `chat_identity_load` whatever server URLs are
set afterwards.
-/

namespace ProntoChat.Identity

open ProntoChat.QuotedText
open ProntoChat.Protocole
open ProntoChat.Contacts
open ProntoChat.Lines
open ProntoChat.Config
open ProntoChat.Writing
open ProntoChat.Crypto

/-- Contents of `identity.key`, `identity.pub` and `config.toml`. -/
structure IdentityFiles where
  key : Option Str := none
  pub : Option Str := none
  config : Option Str := none
  deriving DecidableEq

/-- The `access` calls: one of the files exists. -/
def IdentityFiles.present (files : IdentityFiles) : Bool :=
  files.key.isSome || files.pub.isSome || files.config.isSome

/-! ## Writing -/

/-- Outcomes of the calls that write one new file. -/
structure FileIo where
  opened : Bool := true
  writes : List WriteOutcome := []
  synced : Bool := true
  closed : Bool := true

def chatWriteAll (outcomes : List WriteOutcome) (buffer : Str) : Written UInt8 :=
  writeAll true outcomes buffer

def chatWriteNewFile (io : FileIo) (file : Option Str) (buffer : Str) :
    Except ChatIdentityError Unit × Option Str :=
  if file.isSome then (.error .alreadyExists, file)
  else if io.opened = false then (.error .io, file)
  else
    let written := chatWriteAll io.writes buffer
    (if written.complete && io.synced && io.closed then .ok () else .error .io,
      some written.content)

def configContent (username : Str) : Str :=
  bytes "username = \"" ++ username ++ bytes "\"\nserver_url = \"" ++
    chatDefaultServerUrl ++ bytes "\"\n"

def chatWriteConfigFile (io : FileIo) (file : Option Str) (username : Str) :
    Except ChatIdentityError Unit × Option Str :=
  if 512 ≤ (configContent username).length then (.error .buffer, file)
  else chatWriteNewFile io file (configContent username)

/-! ## The fingerprint -/

def upperHexDigit (nibble : UInt8) : UInt8 :=
  if nibble < 10 then nibble + 48 else nibble + 55

/-- `snprintf` of one byte of the digest behind the text so far. -/
def fingerprintByte (outSize : ℕ) (text : Str) (byte : UInt8) :
    Except ChatIdentityError Str :=
  let digits := [upperHexDigit (byte / 16), upperHexDigit (byte % 16)]
  let part := if text = [] then digits else 58 :: digits
  if outSize - text.length ≤ part.length then .error .buffer else .ok (text ++ part)

def chatIdentityFingerprint (sodium : Sodium) (publicKey : Bytes 32) (outSize : ℕ) :
    Except ChatIdentityError Str :=
  let digest := sodium.generichash publicKey.toList
  if outSize < 32 * 3 then .error .buffer
  else digest.toList.foldlM (fingerprintByte outSize) []

/-! ## Creating and loading -/

/-- Outcomes of the calls of `chat_identity_create`. -/
structure CreateIo where
  sodiumReady : Bool := true
  /-- The directory is found and made, and the paths of the files fit. -/
  path : Except ChatIdentityError Unit := .ok ()
  key : FileIo := {}
  pub : FileIo := {}
  config : FileIo := {}

/-- The part of `chat_identity_create` that writes.  `identity` holds the keys of
`crypto_sign_keypair`; without an output buffer there is no fingerprint. -/
def writeIdentity (sodium : Sodium) (io : CreateIo) (files : IdentityFiles)
    (identity : ChatIdentity) (fingerprintOutSize : Option ℕ) :
    Except ChatIdentityError (ChatIdentity × Option Str) × IdentityFiles :=
  let key := chatWriteNewFile io.key files.key identity.secretKey.toList
  let files := { files with key := key.2 }
  match key.1 with
  | .error error => (.error error, files)
  | .ok _ =>
      let pub := chatWriteNewFile io.pub files.pub identity.publicKey.toList
      let files := { files with pub := pub.2 }
      match pub.1 with
      | .error error => (.error error, files)
      | .ok _ =>
          let config := chatWriteConfigFile io.config files.config identity.username
          let files := { files with config := config.2 }
          match config.1, fingerprintOutSize with
          | .error error, _ => (.error error, files)
          | .ok _, none => (.ok (identity, none), files)
          | .ok _, some outSize =>
              match chatIdentityFingerprint sodium identity.publicKey outSize with
              | .error error => (.error error, files)
              | .ok fingerprint => (.ok (identity, some fingerprint), files)

/-- `chat_identity_create`: its result and the files. -/
def chatIdentityCreate (sodium : Sodium) (io : CreateIo) (files : IdentityFiles)
    (identity : ChatIdentity) (fingerprintOutSize : Option ℕ) :
    Except ChatIdentityError (ChatIdentity × Option Str) × IdentityFiles :=
  if chatUsernameIsValid identity.username = false then (.error .invalidUsername, files)
  else if io.sodiumReady = false then (.error .sodium, files)
  else
    match io.path with
    | .error error => (.error error, files)
    | .ok _ =>
        if files.present then (.error .alreadyExists, files)
        else writeIdentity sodium io files identity fingerprintOutSize

def chatReadExactFile (reading : Reading) (length : ℕ) :
    Except ChatIdentityError (Bytes length) :=
  match reading with
  | .missing => .error .notFound
  | .refused => .error .io
  | .text content broken =>
      if hlength : content.length = length then
        if broken then .error .io else .ok ⟨content, hlength⟩
      else if content.length < length ∧ broken = true then .error .io
      else .error .badFile

def chatIdentityLoad (sodiumReady : Bool) (path : Except ChatIdentityError Unit)
    (key pub config : Reading) : Except ChatIdentityError ChatIdentity := do
  if sodiumReady = false then .error .sodium
  path
  let username ← chatLoadUsername config
  let secretKey ← chatReadExactFile key 64
  let publicKey ← chatReadExactFile pub 32
  return { username, publicKey, secretKey }

theorem valid_of_chatLoadUsername {reading : Reading} {username : Str}
    (hload : chatLoadUsername reading = .ok username) :
    chatUsernameIsValid username = true := by
  cases reading with
  | missing => exact nomatch hload
  | refused => exact nomatch hload
  | text content broken =>
      rw [chatLoadUsername] at hload
      cases hread : usernameReader.read content with
      | none => simp [hread] at hload
      | some result =>
          obtain ⟨line, _, hdecides⟩ := List.exists_of_findSome?_eq_some hread
          obtain ⟨parsed, _, hparsed⟩ := Option.map_eq_some_iff.mp hdecides
          rw [hread, Option.getD_some, ← hparsed] at hload
          split_ifs at hload with hvalid
          obtain rfl := Except.ok.inj hload
          exact hvalid

/-- An account that was loaded has a valid name. -/
theorem valid_of_chatIdentityLoad {ready : Bool} {path : Except ChatIdentityError Unit}
    {key pub config : Reading} {identity : ChatIdentity}
    (hload : chatIdentityLoad ready path key pub config = .ok identity) :
    chatUsernameIsValid identity.username = true := by
  unfold chatIdentityLoad at hload
  simp only [bind, Except.bind, pure, Except.pure] at hload
  cases ready with
  | false => exact nomatch hload
  | true =>
      cases path with
      | error failure => exact nomatch hload
      | ok _ =>
          cases hname : chatLoadUsername config with
          | error failure => simp [hname] at hload
          | ok username =>
              cases hkey : chatReadExactFile key 64 with
              | error failure => simp [hname, hkey] at hload
              | ok secretKey =>
                  cases hpub : chatReadExactFile pub 32 with
                  | error failure => simp [hname, hkey, hpub] at hload
                  | ok publicKey =>
                      simp only [hname, hkey, hpub, Bool.true_eq_false, if_false] at hload
                      obtain rfl := Except.ok.inj hload
                      exact valid_of_chatLoadUsername hname

/-! ## What one call does -/

/-- Every call for a file succeeds. -/
def FileIo.Works (io : FileIo) (buffer : Str) : Prop :=
  io.opened = true ∧ (chatWriteAll io.writes buffer).complete = true ∧
    io.synced = true ∧ io.closed = true

theorem chatWriteNewFile_works {io : FileIo} {buffer : Str} (hworks : io.Works buffer) :
    chatWriteNewFile io none buffer = (.ok (), some buffer) := by
  obtain ⟨hopened, hcomplete, hsynced, hclosed⟩ := hworks
  have hcontent : (chatWriteAll io.writes buffer).content = buffer :=
    writeAll_complete hcomplete
  simp [chatWriteNewFile, hopened, hcomplete, hsynced, hclosed, hcontent]

/-- When a call fails, what it has created stays. -/
theorem chatWriteNewFile_fails {io : FileIo} {buffer : Str} (hfails : ¬ io.Works buffer) :
    ∃ left, chatWriteNewFile io none buffer = (.error .io, left) ∧
      (io.opened = true → left.isSome = true) := by
  by_cases hopened : io.opened = false
  · exact ⟨none, by simp [chatWriteNewFile, hopened], by simp [hopened]⟩
  · rw [Bool.not_eq_false] at hopened
    have hfailed : ((chatWriteAll io.writes buffer).complete && io.synced &&
        io.closed) = false := by
      simp only [FileIo.Works, hopened, true_and] at hfails
      simp only [Bool.and_eq_false_iff]
      by_contra hall
      simp only [not_or, Bool.not_eq_false] at hall
      exact hfails ⟨hall.1.1, hall.1.2, hall.2⟩
    refine ⟨some (chatWriteAll io.writes buffer).content, ?_, fun _ => rfl⟩
    simp [chatWriteNewFile, hopened, hfailed]

theorem length_configContent {username : Str} (hvalid : chatUsernameIsValid username = true) :
    ¬ 512 ≤ (configContent username).length := by
  have hbound := (Json.username_length hvalid).2
  have hwords : (bytes "username = \"").length = 12 ∧
      (bytes "\"\nserver_url = \"").length = 16 ∧ chatDefaultServerUrl.length = 29 ∧
      (bytes "\"\n").length = 2 := by decide +kernel
  simp only [configContent, List.length_append, hwords]
  omega

/-- Behind the first byte, each further one takes three places. -/
theorem foldlM_fingerprintByte {outSize : ℕ} (digest : List UInt8) {text : Str}
    (hstarted : text ≠ []) (hroom : text.length + 3 * digest.length < outSize) :
    ∃ fingerprint, digest.foldlM (fingerprintByte outSize) text = .ok fingerprint := by
  induction digest generalizing text with
  | nil => exact ⟨text, rfl⟩
  | cons byte digest ih =>
      simp only [List.length_cons] at hroom
      have hbyte : fingerprintByte outSize text byte =
          .ok (text ++ [58, upperHexDigit (byte / 16), upperHexDigit (byte % 16)]) := by
        simp only [fingerprintByte, if_neg hstarted]
        refine if_neg ?_
        simp only [List.length_cons, List.length_nil]
        omega
      have hnext : (text ++ [58, upperHexDigit (byte / 16),
          upperHexDigit (byte % 16)]).length + 3 * digest.length < outSize := by
        simp only [List.length_append, List.length_cons, List.length_nil]
        omega
      obtain ⟨fingerprint, hrest⟩ := ih (by simp) hnext
      refine ⟨fingerprint, ?_⟩
      rw [List.foldlM_cons, hbyte]
      exact hrest

/-- The buffer of the fingerprint is large enough, or there is none. -/
def FingerprintFits (fingerprintOutSize : Option ℕ) : Prop :=
  ∀ outSize, fingerprintOutSize = some outSize → 96 ≤ outSize

theorem chatIdentityFingerprint_ok (sodium : Sodium) (publicKey : Bytes 32) {outSize : ℕ}
    (hsize : 96 ≤ outSize) :
    ∃ fingerprint, chatIdentityFingerprint sodium publicKey outSize = .ok fingerprint := by
  rcases hdigest : sodium.generichash publicKey.toList with ⟨digest, hlength⟩
  obtain ⟨first, rest, rfl⟩ := List.exists_cons_of_length_eq_add_one hlength
  simp only [List.length_cons, Nat.succ.injEq] at hlength
  have hroom : [upperHexDigit (first / 16), upperHexDigit (first % 16)].length +
      3 * rest.length < outSize := by
    simp only [List.length_cons, List.length_nil]
    omega
  obtain ⟨fingerprint, hrest⟩ := foldlM_fingerprintByte rest (by simp) hroom
  have hfirst : fingerprintByte outSize [] first =
      .ok [upperHexDigit (first / 16), upperHexDigit (first % 16)] := by
    refine if_neg ?_
    simp only [if_true, List.length_cons, List.length_nil]
    omega
  refine ⟨fingerprint, ?_⟩
  rw [chatIdentityFingerprint, hdigest, if_neg (by omega)]
  show List.foldlM (fingerprintByte outSize) [] (first :: rest) = _
  rw [List.foldlM_cons, hfirst]
  exact hrest

/-! ## All or nothing -/

section Create

variable (io : CreateIo) (files : IdentityFiles) (identity : ChatIdentity)
  (fingerprintOutSize : Option ℕ)

/-- The call ends before a file is created. -/
def EndsEarly : Prop :=
  chatUsernameIsValid identity.username = false ∨ io.sodiumReady = false ∨
    (∃ error, io.path = .error error) ∨ files.present = true ∨ io.key.opened = false

/-- Every file is written, and the fingerprint fits its buffer. -/
structure Completes : Prop where
  key : io.key.Works identity.secretKey.toList
  pub : io.pub.Works identity.publicKey.toList
  config : io.config.Works (configContent identity.username)
  fingerprint : FingerprintFits fingerprintOutSize

/-- The files of an identity. -/
def createdFiles : IdentityFiles where
  key := some identity.secretKey.toList
  pub := some identity.publicKey.toList
  config := some (configContent identity.username)

variable {io files identity fingerprintOutSize}

theorem eq_empty_of_not_present (habsent : files.present = false) : files = {} := by
  obtain ⟨key, pub, config⟩ := files
  simp only [IdentityFiles.present, Bool.or_eq_false_iff] at habsent
  obtain ⟨⟨hkey, hpub⟩, hconfig⟩ := habsent
  simp_all

/-- Behind the checks of the call the directory has none of the files. -/
theorem chatIdentityCreate_cases (sodium : Sodium) :
    (EndsEarly io files identity ∧ ∃ error,
        chatIdentityCreate sodium io files identity fingerprintOutSize =
          (.error error, files)) ∨
      (¬ EndsEarly io files identity ∧ files = {} ∧
        chatUsernameIsValid identity.username = true ∧ io.key.opened = true ∧
        chatIdentityCreate sodium io files identity fingerprintOutSize =
          writeIdentity sodium io {} identity fingerprintOutSize) := by
  unfold EndsEarly chatIdentityCreate
  by_cases hname : chatUsernameIsValid identity.username = false
  · exact Or.inl ⟨Or.inl hname, _, if_pos hname⟩
  by_cases hready : io.sodiumReady = false
  · exact Or.inl ⟨Or.inr (Or.inl hready), _, by rw [if_neg hname, if_pos hready]⟩
  rw [if_neg hname, if_neg hready]
  cases hpath : io.path with
  | error error => exact Or.inl ⟨by simp, error, rfl⟩
  | ok _ =>
      by_cases hpresent : files.present = true
      · exact Or.inl ⟨by simp [hpresent], .alreadyExists, by simp [hpresent]⟩
      · rw [Bool.not_eq_true] at hpresent
        obtain rfl := eq_empty_of_not_present hpresent
        by_cases hopened : io.key.opened = false
        · refine Or.inl ⟨by simp [hopened], .io, ?_⟩
          simp [hpresent, writeIdentity, chatWriteNewFile, hopened]
        · rw [Bool.not_eq_false] at hopened
          refine Or.inr ⟨?_, rfl, by simpa using hname, hopened, by simp [hpresent]⟩
          simp [hname, hready, hpresent, hopened]

/-- Either all is written, or a file stays behind. -/
theorem writeIdentity_cases (sodium : Sodium)
    (hvalid : chatUsernameIsValid identity.username = true) (hopened : io.key.opened = true) :
    (Completes io identity fingerprintOutSize ∧ ∃ fingerprint,
        writeIdentity sodium io {} identity fingerprintOutSize =
          (.ok (identity, fingerprint), createdFiles identity)) ∨
      (¬ Completes io identity fingerprintOutSize ∧ ∃ error left,
        writeIdentity sodium io {} identity fingerprintOutSize = (.error error, left) ∧
          left.present = true) := by
  have hfits := length_configContent hvalid
  unfold writeIdentity chatWriteConfigFile
  by_cases hkey : io.key.Works identity.secretKey.toList
  swap
  · obtain ⟨left, hwritten, hleft⟩ := chatWriteNewFile_fails hkey
    refine Or.inr ⟨fun hall => hkey hall.key, .io, { key := left }, ?_, ?_⟩
    · simp [hwritten]
    · simp [IdentityFiles.present, hleft hopened]
  by_cases hpub : io.pub.Works identity.publicKey.toList
  swap
  · obtain ⟨left, hwritten, _⟩ := chatWriteNewFile_fails hpub
    refine Or.inr ⟨fun hall => hpub hall.pub, .io,
      { key := some identity.secretKey.toList, pub := left }, ?_, rfl⟩
    simp only [chatWriteNewFile_works hkey, hwritten]
  by_cases hconfig : io.config.Works (configContent identity.username)
  swap
  · obtain ⟨left, hwritten, _⟩ := chatWriteNewFile_fails hconfig
    refine Or.inr ⟨fun hall => hconfig hall.config, .io,
      { createdFiles identity with config := left }, ?_, rfl⟩
    simp only [chatWriteNewFile_works hkey, chatWriteNewFile_works hpub, if_neg hfits,
      hwritten]
    rfl
  simp only [chatWriteNewFile_works hkey, chatWriteNewFile_works hpub, if_neg hfits,
    chatWriteNewFile_works hconfig]
  cases fingerprintOutSize with
  | none => exact Or.inl ⟨⟨hkey, hpub, hconfig, by simp [FingerprintFits]⟩, none, rfl⟩
  | some outSize =>
      by_cases hsize : 96 ≤ outSize
      · obtain ⟨fingerprint, hfingerprint⟩ :=
          chatIdentityFingerprint_ok sodium identity.publicKey hsize
        refine Or.inl ⟨⟨hkey, hpub, hconfig, ?_⟩, some fingerprint, ?_⟩
        · rintro _ ⟨⟩
          exact hsize
        · simp only [hfingerprint]
          rfl
      · refine Or.inr ⟨fun hall => hsize (hall.fingerprint outSize rfl), .buffer,
          createdFiles identity, ?_, rfl⟩
        have hsmall : outSize < 32 * 3 := by omega
        simp only [chatIdentityFingerprint, if_pos hsmall]
        rfl

theorem fileIo_works (buffer : Str) : ({} : FileIo).Works buffer := by
  simp [FileIo.Works, chatWriteAll, writeAll]

/-- On working storage an identity is created in an empty directory. -/
theorem create_works (sodium : Sodium)
    (hvalid : chatUsernameIsValid identity.username = true)
    (hready : io.sodiumReady = true) (hpath : io.path = .ok ())
    (hcompletes : Completes io identity fingerprintOutSize) :
    ∃ fingerprint, chatIdentityCreate sodium io {} identity fingerprintOutSize =
      (.ok (identity, fingerprint), createdFiles identity) := by
  have hopened := hcompletes.key.1
  have hlate : ¬ EndsEarly io {} identity := by
    simp [EndsEarly, hvalid, hready, hpath, hopened, IdentityFiles.present]
  rcases chatIdentityCreate_cases sodium with ⟨hearly, _⟩ | ⟨_, _, _, _, hwrites⟩
  · exact absurd hearly hlate
  · rcases writeIdentity_cases sodium hvalid hopened with
      ⟨_, fingerprint, hwritten⟩ | ⟨hfails, _⟩
    · exact ⟨fingerprint, hwrites.trans hwritten⟩
    · exact absurd hcompletes hfails

/-- A call that fails leaves the files as they were exactly when it ends before it
creates one; and then a later call on working storage succeeds in an empty
directory. -/
theorem create_all_or_nothing (sodium : Sodium) :
    ((∀ error left, chatIdentityCreate sodium io files identity fingerprintOutSize =
          (.error error, left) → left = files) ↔
        EndsEarly io files identity ∨ Completes io identity fingerprintOutSize) ∧
      (EndsEarly io files identity ∨ Completes io identity fingerprintOutSize →
        files = {} → ∀ error left,
          chatIdentityCreate sodium io files identity fingerprintOutSize =
            (.error error, left) →
          ∀ later outSize, chatUsernameIsValid later.username = true →
            FingerprintFits outSize →
            ∃ fingerprint, chatIdentityCreate sodium {} left later outSize =
              (.ok (later, fingerprint), createdFiles later)) := by
  have hwhole : EndsEarly io files identity ∨ Completes io identity fingerprintOutSize →
      ∀ error left, chatIdentityCreate sodium io files identity fingerprintOutSize =
        (.error error, left) → left = files := by
    intro hcondition error left hcreate
    rcases chatIdentityCreate_cases sodium with
      ⟨_, other, hearly⟩ | ⟨hlate, _, hvalid, hopened, hwrites⟩
    · rw [hearly] at hcreate
      exact (congrArg Prod.snd hcreate).symm
    · rcases writeIdentity_cases sodium hvalid hopened with
        ⟨_, fingerprint, hwritten⟩ | ⟨hfails, _⟩
      · rw [hwrites, hwritten] at hcreate
        exact nomatch hcreate
      · exact absurd (hcondition.resolve_left hlate) hfails
  refine ⟨⟨fun hunchanged => ?_, hwhole⟩, ?_⟩
  · rcases chatIdentityCreate_cases sodium with
      ⟨hearly, _⟩ | ⟨_, hempty, hvalid, hopened, hwrites⟩
    · exact Or.inl hearly
    · rcases writeIdentity_cases sodium hvalid hopened with
        ⟨hcompletes, _⟩ | ⟨_, error, left, hwritten, hleft⟩
      · exact Or.inr hcompletes
      · obtain rfl := hunchanged error left (hwrites.trans hwritten)
        simp [hempty, IdentityFiles.present] at hleft
  · intro hcondition hempty error left hcreate later outSize hvalid hfits
    obtain rfl := hwhole hcondition error left hcreate
    subst hempty
    exact create_works sodium hvalid rfl rfl
      ⟨fileIo_works _, fileIo_works _, fileIo_works _, hfits⟩

end Create

def alexIdentity : ChatIdentity := Transparent.identity (bytes "alex") 1

/-- The public key cannot be written, or the buffer of the fingerprint is too small:
files stay behind and no identity can be created any more. -/
theorem leftover_blocks_creation :
    (∃ left, chatIdentityCreate Transparent.sodium { pub := { opened := false } } {}
          alexIdentity none = (.error .io, left) ∧
        left ≠ {} ∧
        chatIdentityCreate Transparent.sodium {} left alexIdentity none =
          (.error .alreadyExists, left)) ∧
      ∃ left, chatIdentityCreate Transparent.sodium {} {} alexIdentity (some 95) =
          (.error .buffer, left) ∧
        left ≠ {} ∧
        chatIdentityCreate Transparent.sodium {} left alexIdentity none =
          (.error .alreadyExists, left) := by
  refine ⟨⟨{ key := some alexIdentity.secretKey.toList }, ?_⟩,
    ⟨createdFiles alexIdentity, ?_⟩⟩
  · decide +kernel
  · decide +kernel

/-! ## Server URLs -/

def usernameLine (username : Str) : Str :=
  bytes "username = \"" ++ (username ++ [quoteMark, newline])

theorem configContent_eq (username : Str) :
    configContent username = usernameLine username ++ serverUrlLine chatDefaultServerUrl := by
  have hwords : bytes "\"\nserver_url = \"" =
        [quoteMark, newline] ++ bytes "server_url = \"" ∧
      bytes "\"\n" = [quoteMark, newline] := by decide +kernel
  simp [configContent, usernameLine, serverUrlLine, hwords]

section Username

variable {username : Str} (hvalid : chatUsernameIsValid username = true)
include hvalid

theorem terminated_usernameLine : Terminated newline (usernameLine username) := by
  refine ⟨bytes "username = \"" ++ (username ++ [quoteMark]), ?_, by simp [usernameLine]⟩
  have hword : newline ∉ bytes "username = \"" := by decide +kernel
  have hname : newline ∉ username :=
    fun hmem => (username_not_space hvalid newline hmem).2.2 rfl
  simp [hword, hname, show newline ≠ quoteMark by decide]

theorem nulFree_usernameLine : NulFree (usernameLine username) := by
  have hword : ∀ byte ∈ bytes "username = \"", byte ≠ 0 := by decide +kernel
  intro byte hbyte
  simp only [usernameLine, List.mem_append, List.mem_cons, List.not_mem_nil, or_false] at hbyte
  rcases hbyte with hbyte | hbyte | rfl | rfl
  · exact hword byte hbyte
  · exact (username_not_space hvalid byte hbyte).2.1
  · decide
  · decide

theorem length_usernameLine : (usernameLine username).length < 128 := by
  have hbound := (Json.username_length hvalid).2
  have hword : (bytes "username = \"").length = 12 := by decide +kernel
  simp only [usernameLine, List.length_append, hword, List.length_cons, List.length_nil]
  omega

theorem read_usernameLine {Result : Type} {reader : LineReader Result}
    (hsize : 128 ≤ reader.size) :
    reader.read (usernameLine username) = reader.decides (usernameLine username) := by
  have hshort := fgetsLines_short (Or.inl (terminated_usernameLine hvalid))
    (lt_of_lt_of_le (length_usernameLine hvalid) hsize)
  rw [LineReader.read, hshort, List.findSome?_singleton]

theorem cString_usernameLine : cString (usernameLine username) = usernameLine username :=
  cString_of_ne_zero (nulFree_usernameLine hvalid)

/-- The name is found on its line. -/
theorem read_username_usernameLine :
    usernameReader.read (usernameLine username) = some (.ok username) := by
  have hbound := Json.username_length hvalid
  have hwords : bytes "username = \"" = bytes "username" ++ [32, 61, 32, 34] := by
    decide +kernel
  have hlength : (bytes "username").length = 8 := by decide +kernel
  have hbytes : ∀ byte ∈ username, usernameByte byte = true := by
    simp only [chatUsernameIsValid, Bool.and_eq_true, List.all_eq_true] at hvalid
    exact hvalid.2
  have hdrop : (usernameLine username).drop 8 =
      32 :: 61 :: 32 :: 34 :: (username ++ [quoteMark, newline]) := by
    rw [usernameLine, hwords, List.append_assoc, ← hlength, List.drop_left]
    rfl
  have hstarts : (bytes "username").isPrefixOf (usernameLine username) = true := by
    rw [List.isPrefixOf_iff_prefix, usernameLine, hwords, List.append_assoc]
    exact List.prefix_append _ _
  have htake : (username ++ [quoteMark, newline]).takeWhile usernameByte = username := by
    rw [List.takeWhile_append_of_pos hbytes]
    simp [show usernameByte quoteMark = false by decide]
  have hscan : scanUsername (usernameLine username) = some username := by
    have hnonempty : username ≠ [] := by
      rintro rfl
      simp at hbound
    have hmax : username.take chatUsernameMaxLen = username :=
      List.take_of_length_le hbound.2
    simp only [scanUsername, hstarts, if_true, hdrop]
    simp [isSpace, htake, hmax, hnonempty]
  rw [read_usernameLine hvalid (by decide)]
  simp [usernameReader, cString_usernameLine hvalid, hscan, hvalid]

/-- No other setting is. -/
theorem read_value_usernameLine (key : ConfigKey) (outSize : ℕ) :
    (valueReader key.name outSize).read (usernameLine username) = none := by
  have hsize : 128 ≤ (valueReader key.name outSize).size := by
    simp only [valueReader]
    decide
  have hapart : ¬ valuePrefix key.name <+: bytes "username = \"" ∧
      ¬ bytes "username = \"" <+: valuePrefix key.name := by
    cases key <;> decide +kernel
  rw [read_usernameLine hvalid hsize]
  simp only [valueReader, cString_usernameLine hvalid]
  refine if_neg fun hstarts => ?_
  rcases List.prefix_or_prefix_of_prefix (List.isPrefixOf_iff_prefix.mp hstarts)
    (List.prefix_append _ _) with hbefore | hbehind
  · exact hapart.1 hbefore
  · exact hapart.2 hbehind

end Username

/-! ## Runs -/

/-- One call of `chat_identity_set_server_url` on working storage. -/
def setServerUrlStep (files : IdentityFiles) (url : Option Str) : IdentityFiles :=
  { files with config := (chatIdentitySetServerUrl {} files.config url).2 }

/-- The last URL that was accepted, or the default. -/
def currentUrl (urls : List (Option Str)) : Str :=
  (urls.filterMap fun url => if chatServerUrlIsValid url then url else none).getLastD
    chatDefaultServerUrl

/-- The files of an identity with a server URL. -/
structure Holds (identity : ChatIdentity) (url : Str) (files : IdentityFiles) : Prop where
  key : files.key = some identity.secretKey.toList
  pub : files.pub = some identity.publicKey.toList
  config : files.config = some (usernameLine identity.username ++ serverUrlLine url)
  url : chatServerUrlIsValid (some url) = true

theorem holds_createdFiles (identity : ChatIdentity) :
    Holds identity chatDefaultServerUrl (createdFiles identity) where
  key := rfl
  pub := rfl
  config := congrArg some (configContent_eq identity.username)
  url := by decide +kernel

section Runs

variable {identity : ChatIdentity} (hvalid : chatUsernameIsValid identity.username = true)
include hvalid

theorem lines_config {url : Str} (hurl : chatServerUrlIsValid (some url) = true) :
    lines newline (usernameLine identity.username ++ serverUrlLine url) =
      [usernameLine identity.username, serverUrlLine url] := by
  rw [lines_append (terminated_usernameLine hvalid)]
  have hlast := lines_append (terminated_serverUrlLine (newline_notMem hurl)) []
  rw [List.append_nil] at hlast
  rw [hlast]
  rfl

theorem isServerUrlLine_usernameLine :
    isServerUrlLine (usernameLine identity.username) = false := by
  have hstarts : bytes "username = \"" <+: cString (usernameLine identity.username) := by
    rw [cString_usernameLine hvalid]
    exact List.prefix_append _ _
  by_contra hline
  rw [Bool.not_eq_false] at hline
  exact not_prefix_of_isServerUrlLine hline (by decide +kernel) (by decide +kernel) hstarts

theorem rewriteConfig_holds {url next : Str} (hurl : chatServerUrlIsValid (some url) = true) :
    rewriteConfig next (usernameLine identity.username ++ serverUrlLine url) =
      usernameLine identity.username ++ serverUrlLine next := by
  have hfree : NulFree (usernameLine identity.username ++ serverUrlLine url) :=
    List.forall_mem_append.mpr ⟨nulFree_usernameLine hvalid, nulFree_serverUrlLine hurl⟩
  have hfront : ∀ line ∈ [usernameLine identity.username], isServerUrlLine line = false := by
    intro line hline
    rw [List.mem_singleton.mp hline]
    exact isServerUrlLine_usernameLine hvalid
  rw [rewriteConfig_key next hfree (lines_config hvalid hurl) hfront
    (isServerUrlLine_serverUrlLine url)]
  simp

theorem setServerUrlStep_holds {urls : List (Option Str)} {files : IdentityFiles}
    (hholds : Holds identity (currentUrl urls) files) (url : Option Str) :
    Holds identity (currentUrl (urls ++ [url])) (setServerUrlStep files url) := by
  by_cases hurl : chatServerUrlIsValid url = true
  · cases url with
    | none => simp [chatServerUrlIsValid] at hurl
    | some url =>
        have hcurrent : currentUrl (urls ++ [some url]) = url := by
          simp [currentUrl, List.filterMap_append, hurl]
        have hconfig : (setServerUrlStep files (some url)).config =
            some (usernameLine identity.username ++ serverUrlLine url) := by
          simp only [setServerUrlStep, hholds.config, setServerUrl_works hurl]
          rw [rewriteConfig_holds hvalid hholds.url]
        rw [hcurrent]
        exact ⟨hholds.key, hholds.pub, hconfig, hurl⟩
  · have hcurrent : currentUrl (urls ++ [url]) = currentUrl urls := by
      simp [currentUrl, List.filterMap_append, hurl]
    have hstep : setServerUrlStep files url = files := by
      simp [setServerUrlStep, chatIdentitySetServerUrl, hurl]
    rw [hcurrent, hstep]
    exact hholds

theorem holds_run {files : IdentityFiles}
    (hholds : Holds identity chatDefaultServerUrl files) (urls : List (Option Str)) :
    Holds identity (currentUrl urls) (Transition.run setServerUrlStep files urls) := by
  induction urls using List.reverseRecOn with
  | nil => exact hholds
  | append_singleton urls url ih =>
      rw [Transition.run_append]
      exact setServerUrlStep_holds hvalid ih url

theorem Holds.load {url : Str} {files : IdentityFiles} (hholds : Holds identity url files) :
    chatIdentityLoad true (.ok ()) (.ofFile files.key) (.ofFile files.pub)
      (.ofFile files.config) = .ok identity := by
  have hname : chatLoadUsername (.ofFile files.config) = .ok identity.username := by
    simp [hholds.config, Reading.ofFile, chatLoadUsername,
      LineReader.read_append _ (terminated_usernameLine hvalid),
      read_username_usernameLine hvalid]
  have hexact {length : ℕ} (content : Bytes length) :
      chatReadExactFile (.ofFile (some content.toList)) length = .ok content := by
    obtain ⟨content, hlength⟩ := content
    simp [chatReadExactFile, Reading.ofFile, List.Vector.toList, hlength]
  rw [chatIdentityLoad, hname, hholds.key, hholds.pub]
  simp only [Bool.true_eq_false, if_false]
  simp only [bind, Except.bind, hexact, pure, Except.pure]

theorem Holds.loadConfigValue {url : Str} {files : IdentityFiles}
    (hholds : Holds identity url files) (key : ConfigKey) (outSize : ℕ) :
    chatIdentityLoadConfigValue (.ok ()) (.ofFile files.config) key.name outSize =
      ((valueReader key.name outSize).read (serverUrlLine url)).getD (.error .notFound) := by
  simp [chatIdentityLoadConfigValue, chatLoadQuotedConfigValue, Reading.ofFile,
    hholds.config, (length_name key).1,
    LineReader.read_append _ (terminated_usernameLine hvalid),
    read_value_usernameLine hvalid]

/-- An identity that was created is loaded as it was created, whatever server URLs
are set, and the last of them that was accepted is the server URL; the file has
no other setting. -/
theorem identity_survives (sodium : Sodium) {io : CreateIo} (hready : io.sodiumReady = true)
    (hpath : io.path = .ok ()) {fingerprintOutSize : Option ℕ}
    (hstorage : Completes io identity fingerprintOutSize) (urls : List (Option Str)) :
    ∃ fingerprint created,
      chatIdentityCreate sodium io {} identity fingerprintOutSize =
          (.ok (identity, fingerprint), created) ∧
        let files := Transition.run setServerUrlStep created urls
        chatIdentityLoad true (.ok ()) (.ofFile files.key) (.ofFile files.pub)
            (.ofFile files.config) = .ok identity ∧
          chatIdentityLoadServerUrl (.ok ()) (.ofFile files.config)
            chatIdentityServerUrlMax = .ok (currentUrl urls) ∧
          (∀ url, (chatIdentitySetServerUrl {} files.config url).1 = .ok () ↔
            chatServerUrlIsValid url = true) ∧
          files.config.map (lines newline) =
            some [usernameLine identity.username, serverUrlLine (currentUrl urls)] ∧
          ∀ key : ConfigKey, key ≠ .serverUrl → ∀ outSize,
            chatIdentityLoadConfigValue (.ok ()) (.ofFile files.config) key.name outSize =
              .error .notFound := by
  obtain ⟨fingerprint, hcreate⟩ := create_works sodium hvalid hready hpath hstorage
  refine ⟨fingerprint, createdFiles identity, hcreate, ?_⟩
  intro files
  have hholds : Holds identity (currentUrl urls) files :=
    holds_run hvalid (holds_createdFiles identity) urls
  refine ⟨hholds.load hvalid, ?_, ?_, ?_, ?_⟩
  · rw [chatIdentityLoadServerUrl, hholds.loadConfigValue hvalid,
      read_serverUrl_serverUrlLine hholds.url]
    rfl
  · intro url
    by_cases hurl : chatServerUrlIsValid url = true
    · simp [chatIdentitySetServerUrl, hholds.config, hurl]
    · simp [chatIdentitySetServerUrl, hurl]
  · rw [hholds.config, Option.map_some, lines_config hvalid hholds.url]
  · intro key hkey outSize
    rw [hholds.loadConfigValue hvalid, read_other_serverUrlLine hholds.url hkey]
    rfl

end Runs

/-- One URL is refused, the next one accepted, and one without host refused. -/
theorem identity_survives_alex :
    ∃ fingerprint created,
      chatIdentityCreate Transparent.sodium {} {} alexIdentity (some 96) =
          (.ok (alexIdentity, fingerprint), created) ∧
        let files := Transition.run setServerUrlStep created
          [some (bytes "http://a"), some (bytes "ws://b"), some (bytes "ws:///c")]
        chatIdentityLoad true (.ok ()) (.ofFile files.key) (.ofFile files.pub)
            (.ofFile files.config) = .ok alexIdentity ∧
          chatIdentityLoadServerUrl (.ok ()) (.ofFile files.config)
            chatIdentityServerUrlMax = .ok (bytes "ws://b") := by
  have hvalid : chatUsernameIsValid alexIdentity.username = true := by decide +kernel
  have hstorage : Completes {} alexIdentity (some 96) :=
    ⟨fileIo_works _, fileIo_works _, fileIo_works _, by
      rintro _ ⟨⟩
      exact le_rfl⟩
  have hcurrent : currentUrl
      [some (bytes "http://a"), some (bytes "ws://b"), some (bytes "ws:///c")] =
        bytes "ws://b" := by decide +kernel
  obtain ⟨fingerprint, created, hcreate, hload, hurl, _⟩ :=
    identity_survives hvalid Transparent.sodium rfl rfl hstorage
      [some (bytes "http://a"), some (bytes "ws://b"), some (bytes "ws:///c")]
  rw [hcurrent] at hurl
  exact ⟨fingerprint, created, hcreate, hload, hurl⟩

end ProntoChat.Identity
