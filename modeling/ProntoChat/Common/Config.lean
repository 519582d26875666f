import ProntoChat.Common.Contacts
import ProntoChat.Core.Lines

/-!
# The configuration file

`config.toml` is read line by line in three ways: the username with `sscanf`,
other settings by an exact beginning of the line, and the lines that a new
server URL replaces with `getline`.  The first two read into fixed buffers, so
that a long line reaches them in several parts, each of which they take for a
line.
-/

namespace ProntoChat.Config

open ProntoChat.QuotedText
open ProntoChat.Protocole
open ProntoChat.Contacts
open ProntoChat.Lines

inductive ChatIdentityError where
  | invalidUsername
  | alreadyExists
  | sodium
  | io
  | buffer
  | notFound
  | badFile
  | invalidServerUrl
  deriving DecidableEq, Repr

def chatIdentityServerUrlMax : ℕ := 256

def chatDefaultServerUrl : Str := bytes "wss://pronto-chat.duckdns.org"

/-- Settings that the daemon reads with `chat_identity_load_config_value`. -/
inductive ConfigKey where
  | serverUrl
  | iceLocalAddress
  | stunServer
  | stunPort
  | turnServer
  | turnPort
  | turnUsername
  | turnPassword
  | iceForceRelay
  deriving DecidableEq, Repr

def ConfigKey.name : ConfigKey → Str
  | .serverUrl => bytes "server_url"
  | .iceLocalAddress => bytes "ice_local_address"
  | .stunServer => bytes "stun_server"
  | .stunPort => bytes "stun_port"
  | .turnServer => bytes "turn_server"
  | .turnPort => bytes "turn_port"
  | .turnUsername => bytes "turn_username"
  | .turnPassword => bytes "turn_password"
  | .iceForceRelay => bytes "ice_force_relay"

/-! ## Reading -/

/-- What `fopen` and the reads behind it give: no file, no access, or the bytes
that were read; `broken` tells that a read error ended them. -/
inductive Reading where
  | missing
  | refused
  | text (content : Str) (broken : Bool)
  deriving DecidableEq

/-- The reading of a file when every call works. -/
def Reading.ofFile : Option Str → Reading
  | none => .missing
  | some content => .text content false

/-- A loop over the lines that `fgets` reads into a buffer, which the first line
that decides ends. -/
structure LineReader (Result : Type) where
  size : ℕ
  decides : Str → Option Result

def LineReader.read {Result : Type} (reader : LineReader Result) (content : Str) :
    Option Result :=
  (fgetsLines reader.size content).findSome? reader.decides

def chatCopyString (outSize : ℕ) (value : Str) : Except ChatIdentityError Str :=
  if outSize ≤ value.length then .error .buffer else .ok value

/-- `sscanf(line, "username = \"%32[a-zA-Z0-9_-]\"", parsed)`, where a blank of
the pattern matches any white space. -/
def scanUsername (line : Str) : Option Str :=
  if (bytes "username").isPrefixOf line then
    match (line.drop 8).dropWhile isSpace with
    | 61 :: rest =>
        match rest.dropWhile isSpace with
        | 34 :: rest =>
            let parsed := (rest.takeWhile usernameByte).take chatUsernameMaxLen
            if parsed = [] then none else some parsed
        | _ => none
    | _ => none
  else none

def usernameReader : LineReader (Except ChatIdentityError Str) where
  size := 128
  decides line :=
    (scanUsername (cString line)).map fun parsed =>
      if chatUsernameIsValid parsed then .ok parsed else .error .badFile

def chatLoadUsername : Reading → Except ChatIdentityError Str
  | .missing => .error .notFound
  | .refused => .error .io
  | .text content broken =>
      (usernameReader.read content).getD (.error (if broken then .io else .badFile))

/-- The beginning of the line of a setting. -/
def valuePrefix (key : Str) : Str := key ++ bytes " = \""

/-- The value on a line that begins as it should. -/
def quotedValue (outSize : ℕ) (rest : Str) : Except ChatIdentityError Str :=
  if rest.contains quoteMark then
    chatCopyString outSize (rest.takeWhile (· != quoteMark))
  else .error .badFile

def valueReader (key : Str) (outSize : ℕ) : LineReader (Except ChatIdentityError Str) where
  size := 512
  decides line :=
    if (valuePrefix key).isPrefixOf (cString line) then
      some (quotedValue outSize ((cString line).drop (valuePrefix key).length))
    else none

def chatLoadQuotedConfigValue (reading : Reading) (key : Str) (outSize : ℕ) :
    Except ChatIdentityError Str :=
  match reading with
  | .missing => .error .notFound
  | .refused => .error .io
  | .text content broken =>
      if 64 ≤ (valuePrefix key).length then .error .buffer
      else
        ((valueReader key outSize).read content).getD
          (.error (if broken then .io else .notFound))

/-- `chat_identity_load_config_value`; `path` tells whether the path of the file can
be built. -/
def chatIdentityLoadConfigValue (path : Except ChatIdentityError Unit) (reading : Reading)
    (key : Str) (outSize : ℕ) : Except ChatIdentityError Str :=
  match path with
  | .error error => .error error
  | .ok _ => chatLoadQuotedConfigValue reading key outSize

def chatIdentityLoadServerUrl (path : Except ChatIdentityError Unit) (reading : Reading)
    (outSize : ℕ) : Except ChatIdentityError Str :=
  chatIdentityLoadConfigValue path reading ConfigKey.serverUrl.name outSize

/-! ## Setting the server URL -/

def isBlankOrTab (byte : UInt8) : Bool := byte == 32 || byte == 9

def chatConfigLineHasKey (line key : Str) : Bool :=
  let line := line.dropWhile isBlankOrTab
  key.isPrefixOf line &&
    ((line.drop key.length).dropWhile isBlankOrTab).head? == some 61

/-- The part of a URL behind its scheme. -/
def urlAuthority (url : Str) : Option Str :=
  if (bytes "ws://").isPrefixOf url then some (url.drop 5)
  else if (bytes "wss://").isPrefixOf url then some (url.drop 6)
  else none

def urlByte (byte : UInt8) : Bool :=
  !(decide (byte ≤ 32) || byte == 127 || byte == quoteMark || byte == backslash)

/-- `chat_server_url_is_valid`; `none` stands for a null pointer. -/
def chatServerUrlIsValid : Option Str → Bool
  | none => false
  | some url =>
      if url.length = 0 ∨ chatIdentityServerUrlMax ≤ url.length then false
      else
        match (urlAuthority url).bind List.head? with
        | none => false
        | some byte => !(byte == 47 || byte == 63 || byte == 35) && url.all urlByte

def serverUrlLine (url : Str) : Str :=
  bytes "server_url = \"" ++ url ++ [quoteMark, newline]

/-- State of the loop that copies the file. -/
structure Rewrite where
  output : Str := []
  serverUrlWritten : Bool := false
  hadContent : Bool := false
  lastLineHadNewline : Bool := true

def rewriteLine (url : Str) (rewrite : Rewrite) (line : Str) : Rewrite :=
  let line := cString line
  if chatConfigLineHasKey line ConfigKey.serverUrl.name then
    { output :=
        if rewrite.serverUrlWritten then rewrite.output
        else rewrite.output ++ serverUrlLine url
      serverUrlWritten := true
      hadContent := true
      lastLineHadNewline := line.getLast? == some newline }
  else
    { rewrite with
      output := rewrite.output ++ line
      hadContent := true
      lastLineHadNewline := line.getLast? == some newline }

/-- What is written behind the copied lines. -/
def Rewrite.finish (url : Str) (rewrite : Rewrite) : Str :=
  if rewrite.serverUrlWritten then rewrite.output
  else if rewrite.hadContent = true ∧ rewrite.lastLineHadNewline = false then
    rewrite.output ++ newline :: serverUrlLine url
  else rewrite.output ++ serverUrlLine url

/-- The content that `chat_identity_set_server_url` writes. -/
def rewriteConfig (url content : Str) : Str :=
  ((lines newline content).foldl (rewriteLine url) {}).finish url

/-- Outcomes of the calls of `chat_identity_set_server_url`. -/
structure SetUrlIo where
  /-- The path of the file can be built. -/
  path : Except ChatIdentityError Unit := .ok ()
  /-- The file can be opened, and is read without an error. -/
  opened : Bool := true
  whole : Bool := true
  /-- The path of the temporary file fits its buffer. -/
  temporaryPath : Bool := true
  /-- The temporary file is created and opened. -/
  temporary : Bool := true
  /-- Every line is written, and the file flushed, synchronised and closed. -/
  written : Bool := true
  renamed : Bool := true

/-- `chat_identity_set_server_url`: its result and the configuration file.  The
temporary file replaces it only at the end. -/
def chatIdentitySetServerUrl (io : SetUrlIo) (config : Option Str) (url : Option Str) :
    Except ChatIdentityError Unit × Option Str :=
  if chatServerUrlIsValid url = false then (.error .invalidServerUrl, config)
  else
    match io.path, config with
    | .error error, _ => (.error error, config)
    | .ok _, none => (.error .notFound, config)
    | .ok _, some content =>
        if io.opened = false then (.error .io, config)
        else if io.temporaryPath = false then (.error .buffer, config)
        else if io.temporary = false ∨ io.written = false ∨ io.whole = false ∨
            io.renamed = false then
          (.error .io, config)
        else (.ok (), some (rewriteConfig (url.getD []) content))

end ProntoChat.Config
