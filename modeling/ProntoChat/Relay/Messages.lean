import ProntoChat.Daemon.Scenario
import ProntoChat.Server.Control

/-!
# Control messages between the two programs

The messages that the daemon builds and the status reply of the server, and what
the other side reads out of them.  A reader looks for the first occurrence of a
quoted name, so a message is read back as it was written exactly when no value
in it spells the name of a later member.
-/

namespace ProntoChat.Relay

open ProntoChat.QuotedText
open ProntoChat.Protocole
open ProntoChat.Json
open ProntoChat.Crypto
open ProntoChat.Daemon
open ProntoChat.Server (userStatusJson boolText bareMember ChatServerUser
  chatServerHexPublicKeyLen chatServerHexSignatureLen chatServerSessionIdMax
  chatServerMaxJsonSize)

/-! ## Messages of the daemon -/

/-- The messages that the daemon sends to the server. -/
inductive ControlMessage where
  | register (identity : ChatIdentity)
  | hello (username : Str)
  | authResponse (signature : Bytes 64)
  | chatRequest (identity : ChatIdentity) (peer sessionId : Str)
  | chatAccept (identity : ChatIdentity) (peer sessionId : Str)
  | chatCancel (username peer sessionId : Str)
  | iceCredentials (username peer sessionId sdp : Str)

namespace ControlMessage

/-- The text of the message. -/
def json (sodium : Sodium) : ControlMessage → Str
  | .register identity => registerJson identity
  | .hello username => helloJson username
  | .authResponse signature => authResponseJson signature
  | .chatRequest identity peer sessionId =>
      offerJson .chatRequest identity peer sessionId
  | .chatAccept identity peer sessionId =>
      offerJson .chatAccept identity peer sessionId
  | .chatCancel username peer sessionId => chatCancelJson username peer sessionId
  | .iceCredentials username peer sessionId sdp =>
      iceCredentialsJson username peer sessionId (sodium.bin2base64 sdp)

/-- The members of the message in the order in which they are written. -/
def members (sodium : Sodium) : ControlMessage → List (JsonKey × Str)
  | .register identity =>
      [(.type, ControlType.register.name), (.username, identity.username),
        (.publicKey, sodiumBin2hex identity.publicKey)]
  | .hello username => [(.type, ControlType.hello.name), (.username, username)]
  | .authResponse signature =>
      [(.type, ControlType.authResponse.name),
        (.signature, sodiumBin2hex signature)]
  | .chatRequest identity peer sessionId =>
      [(.type, ControlType.chatRequest.name), (.from, identity.username),
        (.to, peer), (.sessionId, sessionId),
        (.publicKey, sodiumBin2hex identity.publicKey)]
  | .chatAccept identity peer sessionId =>
      [(.type, ControlType.chatAccept.name), (.from, identity.username),
        (.to, peer), (.sessionId, sessionId),
        (.publicKey, sodiumBin2hex identity.publicKey)]
  | .chatCancel username peer sessionId =>
      [(.type, ControlType.chatCancel.name), (.from, username), (.to, peer),
        (.sessionId, sessionId)]
  | .iceCredentials username peer sessionId sdp =>
      [(.type, ControlType.iceCredentials.name), (.from, username), (.to, peer),
        (.sessionId, sessionId), (.sdp, sodium.bin2base64 sdp)]

/-- The size of the buffer in which the daemon formats the message. -/
def bufferSize : ControlMessage → ℕ
  | .register _ | .chatRequest _ _ _ | .chatAccept _ _ _ => 512
  | .hello _ => 128
  | .authResponse _ => 256
  | .chatCancel _ _ _ => 384
  | .iceCredentials _ _ _ _ => chatdMaxJsonSize

end ControlMessage

/-- A session identifier that the daemon draws or accepts. -/
structure SessionIdValid (sessionId : Str) : Prop where
  nonempty : sessionId ≠ []
  plain : Plain sessionId
  length : sessionId.length < chatdSessionIdHexLen

/-- The codec of libsodium works for a description: its text has the documented
alphabet and length. -/
structure Base64Works (sodium : Sodium) (sdp : Str) : Prop where
  plain : Plain (sodium.bin2base64 sdp)
  length : (sodium.bin2base64 sdp).length < base64EncodedLen sdp.length

/-- Names, identifiers and descriptions that occur in the daemon. -/
def ControlMessage.Valid (sodium : Sodium) : ControlMessage → Prop
  | .register identity => chatUsernameIsValid identity.username = true
  | .hello username => chatUsernameIsValid username = true
  | .authResponse _ => True
  | .chatRequest identity peer sessionId | .chatAccept identity peer sessionId =>
      chatUsernameIsValid identity.username = true ∧
        chatUsernameIsValid peer = true ∧ SessionIdValid sessionId
  | .chatCancel username peer sessionId =>
      chatUsernameIsValid username = true ∧ chatUsernameIsValid peer = true ∧
        SessionIdValid sessionId
  | .iceCredentials username peer sessionId sdp =>
      chatUsernameIsValid username = true ∧ chatUsernameIsValid peer = true ∧
        SessionIdValid sessionId ∧ sdp ≠ [] ∧ sdp.length ≤ chatdIceSdpMax ∧
        Base64Works sodium sdp

/-- The buffers into which the server and the daemon read a member. -/
def readSizes : JsonKey → List ℕ
  | .type => [32]
  | .username => [Server.usernameSize, Daemon.usernameSize]
  | .publicKey => [chatServerHexPublicKeyLen, chatdHexPublicKeyLen]
  | .signature => [chatServerHexSignatureLen]
  | .from | .to => [Server.usernameSize, Daemon.usernameSize]
  | .sessionId => [chatServerSessionIdMax, chatdSessionIdHexLen]
  | .sdp => [encodedSdpSize]
  | .code | .challenge | .known | .online => []

/-- Every reader gets what was written. -/
def ControlMessage.ReadBack (sodium : Sodium) (message : ControlMessage) : Prop :=
  ∀ entry ∈ message.members sodium, ∀ size ∈ readSizes entry.1,
    jsonGetString (message.json sodium) entry.1 size = some entry.2

/-- No value spells the name of a later member. -/
def ControlMessage.Unambiguous (sodium : Sodium) (message : ControlMessage) : Prop :=
  (message.members sodium).Pairwise fun earlier later =>
    earlier.2 ≠ later.1.name

section Members

variable {sodium : Sodium} {message : ControlMessage}

theorem json_eq_object (sodium : Sodium) (message : ControlMessage) :
    message.json sodium =
      object ((message.members sodium).map fun entry => (entry.1.name, entry.2)) := by
  cases message <;> rfl

theorem nodup_members (sodium : Sodium) (message : ControlMessage) :
    ((message.members sodium).map Prod.fst).Nodup := by
  cases message <;> simp [ControlMessage.members]

theorem plain_members (hvalid : message.Valid sodium) :
    ∀ entry ∈ message.members sodium, Plain entry.2 := by
  cases message with
  | register identity =>
      simp [ControlMessage.members, ControlType.plain_name, plain_of_username hvalid,
        plain_sodiumBin2hex]
  | hello username =>
      simp [ControlMessage.members, ControlType.plain_name, plain_of_username hvalid]
  | authResponse signature =>
      simp [ControlMessage.members, ControlType.plain_name, plain_sodiumBin2hex]
  | chatRequest identity peer sessionId =>
      obtain ⟨hname, hpeer, hid⟩ := hvalid
      simp [ControlMessage.members, ControlType.plain_name, plain_of_username hname,
        plain_of_username hpeer, hid.plain, plain_sodiumBin2hex]
  | chatAccept identity peer sessionId =>
      obtain ⟨hname, hpeer, hid⟩ := hvalid
      simp [ControlMessage.members, ControlType.plain_name, plain_of_username hname,
        plain_of_username hpeer, hid.plain, plain_sodiumBin2hex]
  | chatCancel username peer sessionId =>
      obtain ⟨hname, hpeer, hid⟩ := hvalid
      simp [ControlMessage.members, ControlType.plain_name, plain_of_username hname,
        plain_of_username hpeer, hid.plain]
  | iceCredentials username peer sessionId sdp =>
      obtain ⟨hname, hpeer, hid, _, _, hbase64⟩ := hvalid
      simp [ControlMessage.members, ControlType.plain_name, plain_of_username hname,
        plain_of_username hpeer, hid.plain, hbase64.plain]

theorem base64EncodedLen_le {size : ℕ} (hsize : size ≤ chatdIceSdpMax) :
    base64EncodedLen size ≤ encodedSdpSize := by
  have hmax : encodedSdpSize = 2732 := by decide
  unfold chatdIceSdpMax at hsize
  rw [hmax, base64EncodedLen]
  split_ifs <;> omega

/-- Every value leaves room for its terminator in every buffer it is read
into. -/
theorem length_members (hvalid : message.Valid sodium) :
    ∀ entry ∈ message.members sodium, ∀ size ∈ readSizes entry.1,
      entry.2.length < size := by
  have htype (type : ControlType) : type.name.length < 32 := type.plain_name.2
  have hname {username : Str} (hname : chatUsernameIsValid username = true) :
      username.length < Server.usernameSize ∧
        username.length < Daemon.usernameSize := by
    have := username_length hname
    constructor <;> simp only [Server.usernameSize, Daemon.usernameSize,
      chatUsernameMaxLen] <;> omega
  have hsession {sessionId : Str} (hid : SessionIdValid sessionId) :
      sessionId.length < chatServerSessionIdMax ∧
        sessionId.length < chatdSessionIdHexLen :=
    ⟨hid.length.trans (by decide), hid.length⟩
  have hkey (publicKey : Bytes 32) :
      (sodiumBin2hex publicKey).length < chatServerHexPublicKeyLen ∧
        (sodiumBin2hex publicKey).length < chatdHexPublicKeyLen := by
    rw [length_sodiumBin2hex]
    decide
  cases message with
  | register identity =>
      simp [ControlMessage.members, readSizes, htype, hname hvalid,
        -length_sodiumBin2hex, hkey]
  | hello username =>
      simp [ControlMessage.members, readSizes, htype, hname hvalid]
  | authResponse signature =>
      simp [ControlMessage.members, readSizes, htype, chatServerHexSignatureLen]
  | chatRequest identity peer sessionId =>
      obtain ⟨hown, hpeer, hid⟩ := hvalid
      simp [ControlMessage.members, readSizes, htype, hname hown, hname hpeer,
        hsession hid, -length_sodiumBin2hex, hkey]
  | chatAccept identity peer sessionId =>
      obtain ⟨hown, hpeer, hid⟩ := hvalid
      simp [ControlMessage.members, readSizes, htype, hname hown, hname hpeer,
        hsession hid, -length_sodiumBin2hex, hkey]
  | chatCancel username peer sessionId =>
      obtain ⟨hown, hpeer, hid⟩ := hvalid
      simp [ControlMessage.members, readSizes, htype, hname hown, hname hpeer,
        hsession hid]
  | iceCredentials username peer sessionId sdp =>
      obtain ⟨hown, hpeer, hid, _, hlength, hbase64⟩ := hvalid
      have hsdp := hbase64.length.trans_le (base64EncodedLen_le hlength)
      simp [ControlMessage.members, readSizes, htype, hname hown, hname hpeer,
        hsession hid, hsdp]

theorem plain_objectMembers (hvalid : message.Valid sodium) :
    ∀ entry ∈ (message.members sodium).map fun entry => (entry.1.name, entry.2),
      Plain entry.1 ∧ Plain entry.2 := by
  intro entry hentry
  obtain ⟨member, hmember, rfl⟩ := List.mem_map.mp hentry
  exact ⟨member.1.searchName.plain, plain_members hvalid member hmember⟩

theorem length_json_le (sodium : Sodium) (message : ControlMessage) :
    (message.json sodium).length ≤
      ((message.members sodium).map fun entry => entry.2.length + 16).sum + 1 := by
  have hkey (key : JsonKey) := key.length_name_le
  have hsum : (((message.members sodium).map fun entry =>
      (entry.1.name, entry.2)).map fun entry =>
        entry.1.length + entry.2.length + 6).sum ≤
      ((message.members sodium).map fun entry => entry.2.length + 16).sum := by
    rw [List.map_map]
    refine List.sum_le_sum fun entry _ => ?_
    have := hkey entry.1
    simp only [Function.comp_apply]
    omega
  rw [json_eq_object]
  cases hmembers : message.members sodium with
  | nil => cases message <;> simp [ControlMessage.members] at hmembers
  | cons entry rest =>
      rw [hmembers] at hsum
      rw [List.map_cons, length_object]
      exact Nat.add_le_add_right hsum 1

/-- The message fits the buffer in which it is formatted. -/
theorem length_json (hvalid : message.Valid sodium) :
    (message.json sodium).length < message.bufferSize := by
  have hlengths := length_members hvalid
  have hjson := length_json_le sodium message
  have hsdp : encodedSdpSize = 2732 := by decide
  cases message <;>
  · simp only [ControlMessage.members, readSizes, List.forall_mem_cons,
      List.map_cons, List.map_nil, List.sum_cons, List.sum_nil,
      ControlMessage.bufferSize, Server.usernameSize, Daemon.usernameSize,
      chatUsernameMaxLen, chatServerHexPublicKeyLen, chatdHexPublicKeyLen,
      chatServerHexSignatureLen, chatServerSessionIdMax, chatdSessionIdHexLen,
      chatdMaxJsonSize] at hlengths hjson ⊢
    omega

/-- The server has room for what fits the buffers of the daemon. -/
theorem bufferSize_le (message : ControlMessage) :
    message.bufferSize ≤ chatServerMaxJsonSize := by
  cases message <;> simp [ControlMessage.bufferSize, chatServerMaxJsonSize,
    chatdMaxJsonSize]

theorem cString_json (hvalid : message.Valid sodium) :
    cString (message.json sodium) = message.json sodium := by
  rw [json_eq_object, cString_object (plain_objectMembers hvalid)]

theorem readSizes_members (sodium : Sodium) (message : ControlMessage) :
    ∀ entry ∈ message.members sodium, ∃ size, size ∈ readSizes entry.1 := by
  cases message <;> simp [ControlMessage.members, readSizes]

/-- What a reader finds in a valid message. -/
theorem jsonGetString_json (hvalid : message.Valid sodium) (key : JsonKey)
    {size : ℕ} (hsize : 0 < size) :
    jsonGetString (message.json sodium) key size =
      scanMembers key.name (size - 1) ((message.members sodium).map
        fun entry => (entry.1.name, entry.2)) := by
  rw [json_eq_object, jsonGetString_object key hsize (plain_objectMembers hvalid)]

/-- A valid message is read back exactly when it is unambiguous. -/
theorem readBack_iff (hvalid : message.Valid sodium) :
    message.ReadBack sodium ↔ message.Unambiguous sodium := by
  have hnodup : (((message.members sodium).map fun entry =>
      (entry.1.name, entry.2)).map Prod.fst).Nodup := by
    have hnames := (nodup_members sodium message).map JsonKey.name_injective
    rw [List.map_map] at hnames ⊢
    exact hnames
  have hall := scanMembers_all_iff hnodup
  rw [List.pairwise_map, List.forall_mem_map] at hall
  rw [ControlMessage.Unambiguous, ← hall]
  constructor
  · intro hback entry hentry room hroom
    obtain ⟨size, hsize⟩ := readSizes_members sodium message entry hentry
    have hfits := length_members hvalid entry hentry size hsize
    have hsome := hback entry hentry size hsize
    rw [jsonGetString_json hvalid entry.1 (Nat.zero_lt_of_lt hfits)] at hsome
    exact scanMembers_room hsome hroom
  · intro hscan entry hentry size hsize
    have hfits := length_members hvalid entry hentry size hsize
    rw [jsonGetString_json hvalid entry.1 (Nat.zero_lt_of_lt hfits)]
    exact hscan entry hentry (size - 1) (Nat.le_sub_one_of_lt hfits)

end Members

/-! ## The status reply -/

section Status

variable {username : Str} {status : Option ChatServerUser}

theorem isPrefixOf_boolText (value : Bool) (rest : List UInt8) :
    (bytes "true").isPrefixOf (boolText value ++ rest) = value := by
  cases value <;> simp [boolText, bytes, List.isPrefixOf]

theorem dropWhile_boolText (value : Bool) (rest : List UInt8) :
    (boolText value ++ rest).dropWhile isBlank = boolText value ++ rest := by
  cases value <;> simp [boolText, bytes, isBlank]

/-- A flag that is found behind its name. -/
theorem jsonBoolIsTrue_of_found {json : Str} {key : JsonKey} {value : Bool}
    {rest : List UInt8}
    (hfound : findFirst (quoted key.name) json =
      some (quoted key.name ++ colon :: (boolText value ++ rest))) :
    jsonBoolIsTrue json key = value := by
  have hblank : isBlank colon = false := by decide
  simp only [jsonBoolIsTrue, hfound, List.drop_left, List.dropWhile_cons, hblank,
    Bool.false_eq_true, if_false, dropWhile_boolText, isPrefixOf_boolText,
    beq_self_eq_true, Bool.true_and]

/-- A name that is found as a value is no flag. -/
theorem jsonBoolIsTrue_of_value {json : Str} {key : JsonKey} {rest : List UInt8}
    (hfound : findFirst (quoted key.name) json =
      some (quoted key.name ++ comma :: rest)) :
    jsonBoolIsTrue json key = false := by
  have hblank : isBlank comma = false := by decide
  have hcolon : (comma == colon) = false := by decide
  simp only [jsonBoolIsTrue, hfound, List.drop_left, List.dropWhile_cons, hblank,
    Bool.false_eq_true, if_false, hcolon, Bool.false_and]

/-- The reply behind the flag `online`. -/
def statusEnd : Option ChatServerUser → Str
  | none => [closeBrace]
  | some user =>
      comma :: (member JsonKey.publicKey.name (sodiumBin2hex user.identityPk) ++
        [closeBrace])

/-- The reply behind the flag `known`. -/
def onlineTail (status : Option ChatServerUser) : Str :=
  comma :: (quoted JsonKey.online.name ++
    colon :: (boolText (status.any ChatServerUser.online) ++ statusEnd status))

/-- The reply from its second member on. -/
def statusTail (username : Str) (status : Option ChatServerUser) : Str :=
  member JsonKey.username.name username ++
    comma :: (quoted JsonKey.known.name ++
      colon :: (boolText status.isSome ++ onlineTail status))

theorem userStatusJson_eq (username : Str) (status : Option ChatServerUser) :
    userStatusJson username status =
      openBrace :: (member JsonKey.type.name ControlType.userStatus.name ++
        comma :: statusTail username status) := by
  cases status <;>
    simp [userStatusJson, statusTail, onlineTail, statusEnd, bareMember]

theorem jsonType_userStatusJson (username : Str) (status : Option ChatServerUser) :
    jsonType (userStatusJson username status) = some .userStatus := by
  have hopen : openBrace ≠ quoteMark := by decide
  have hlength : ControlType.userStatus.name.length ≤ 32 - 1 := by decide
  have hshape : member JsonKey.type.name ControlType.userStatus.name ++
      comma :: statusTail username status = quoted JsonKey.type.name ++
        colon :: (quoted ControlType.userStatus.name ++
          comma :: statusTail username status) := by
    simp [member]
  rw [jsonType, jsonGetString_eq_readFirst _ _ (by decide), userStatusJson_eq, readFirst,
    findFirst_quoted_cons_ne hopen, hshape,
    findFirst_quoted_self JsonKey.type.searchName.plain]
  simp only [Option.bind_some, List.drop_left]
  rw [readMember_colon ControlType.userStatus.plain_name.1, if_pos hlength]
  exact ControlType.ofName_name .userStatus

/-- The first member is skipped. -/
theorem findFirst_userStatusJson {key : JsonKey} (hkey : key ≠ .type)
    (hvalue : ControlType.userStatus.name ≠ key.name) :
    findFirst (quoted key.name) (userStatusJson username status) =
      findFirst (quoted key.name) (statusTail username status) := by
  have hopen : openBrace ≠ quoteMark := by decide
  have hname : JsonKey.type.name ≠ key.name :=
    fun hsame => hkey (JsonKey.name_injective hsame).symm
  rw [userStatusJson_eq, findFirst_quoted_cons_ne hopen,
    findFirst_member_ne key.searchName JsonKey.type.searchName.plain
      ControlType.userStatus.plain_name.1 hname hvalue (Or.inl rfl)]

theorem username_userStatusJson (hvalid : chatUsernameIsValid username = true) :
    jsonGetString (userStatusJson username status) .username Daemon.usernameSize =
      some username := by
  have hlength : username.length ≤ Daemon.usernameSize - 1 := (username_length hvalid).2
  have hshape (rest : List UInt8) : member JsonKey.username.name username ++ rest =
      quoted JsonKey.username.name ++ colon :: (quoted username ++ rest) := by
    simp [member]
  rw [jsonGetString_eq_readFirst _ _ (by decide), readFirst,
    findFirst_userStatusJson (by decide) (by decide), statusTail, hshape,
    findFirst_quoted_self JsonKey.username.searchName.plain]
  simp only [Option.bind_some, List.drop_left]
  rw [readMember_colon (plain_of_username hvalid), if_pos hlength]

/-- The flag `known` is read unless the name hides it. -/
theorem known_userStatusJson (hvalid : chatUsernameIsValid username = true) :
    jsonBoolIsTrue (userStatusJson username status) .known =
      (decide (username ≠ JsonKey.known.name) && status.isSome) := by
  have hname : JsonKey.username.name ≠ JsonKey.known.name := by decide
  have hskip : findFirst (quoted JsonKey.known.name) (userStatusJson username status) =
      findFirst (quoted JsonKey.known.name) (statusTail username status) :=
    findFirst_userStatusJson (by decide) (by decide)
  by_cases hhides : username = JsonKey.known.name
  · have hfound : findFirst (quoted JsonKey.known.name)
        (userStatusJson username status) = some (quoted JsonKey.known.name ++
          comma :: (quoted JsonKey.known.name ++
            colon :: (boolText status.isSome ++ onlineTail status))) := by
      rw [hskip, statusTail, hhides, findFirst_member_value JsonKey.known.searchName
        JsonKey.username.searchName.plain hname]
    rw [jsonBoolIsTrue_of_value hfound]
    simp [hhides]
  · have hfound : findFirst (quoted JsonKey.known.name)
        (userStatusJson username status) = some (quoted JsonKey.known.name ++
          colon :: (boolText status.isSome ++ onlineTail status)) := by
      rw [hskip, statusTail, findFirst_member_ne JsonKey.known.searchName
        JsonKey.username.searchName.plain (plain_of_username hvalid) hname hhides
        (Or.inl rfl), findFirst_quoted_self JsonKey.known.searchName.plain]
    rw [jsonBoolIsTrue_of_found hfound]
    simp [hhides]

theorem plain_boolText (value : Bool) : Plain (boolText value) := by
  cases value <;> decide

/-- The flag `online` is read unless the name hides it. -/
theorem online_userStatusJson (hvalid : chatUsernameIsValid username = true) :
    jsonBoolIsTrue (userStatusJson username status) .online =
      (decide (username ≠ JsonKey.online.name) &&
        status.any ChatServerUser.online) := by
  have hname : JsonKey.username.name ≠ JsonKey.online.name := by decide
  have hknown : JsonKey.known.name ≠ JsonKey.online.name := by decide
  have hcomma : comma ≠ quoteMark := by decide
  have hskip : findFirst (quoted JsonKey.online.name) (userStatusJson username status) =
      findFirst (quoted JsonKey.online.name) (statusTail username status) :=
    findFirst_userStatusJson (by decide) (by decide)
  by_cases hhides : username = JsonKey.online.name
  · have hfound : findFirst (quoted JsonKey.online.name)
        (userStatusJson username status) = some (quoted JsonKey.online.name ++
          comma :: (quoted JsonKey.known.name ++
            colon :: (boolText status.isSome ++ onlineTail status))) := by
      rw [hskip, statusTail, hhides, findFirst_member_value JsonKey.online.searchName
        JsonKey.username.searchName.plain hname]
    rw [jsonBoolIsTrue_of_value hfound]
    simp [hhides]
  · have hfound : findFirst (quoted JsonKey.online.name)
        (userStatusJson username status) = some (quoted JsonKey.online.name ++
          colon :: (boolText (status.any ChatServerUser.online) ++
            statusEnd status)) := by
      rw [hskip, statusTail, findFirst_member_ne JsonKey.online.searchName
        JsonKey.username.searchName.plain (plain_of_username hvalid) hname hhides
        (Or.inl rfl), findFirst_quoted_ne JsonKey.online.searchName
        JsonKey.known.searchName.plain hknown (Or.inl rfl),
        findFirst_plain_append (plain_boolText _), onlineTail,
        findFirst_quoted_cons_ne hcomma,
        findFirst_quoted_self JsonKey.online.searchName.plain]
    rw [jsonBoolIsTrue_of_found hfound]
    simp [hhides]

theorem statusEnd_ne_zero (status : Option ChatServerUser) :
    ∀ byte ∈ statusEnd status, byte ≠ 0 := by
  cases status with
  | none => exact List.forall_mem_singleton.mpr (by decide)
  | some user =>
      exact List.forall_mem_cons.mpr ⟨by decide, List.forall_mem_append.mpr
        ⟨member_ne_zero JsonKey.publicKey.searchName.plain (plain_sodiumBin2hex _),
          List.forall_mem_singleton.mpr (by decide)⟩⟩

/-- The reply is a C string. -/
theorem cString_userStatusJson (hvalid : chatUsernameIsValid username = true) :
    cString (userStatusJson username status) = userStatusJson username status := by
  refine cString_of_ne_zero ?_
  rw [userStatusJson_eq, statusTail, onlineTail]
  simp only [List.forall_mem_cons, List.forall_mem_append]
  exact ⟨by decide, member_ne_zero JsonKey.type.searchName.plain
    ControlType.userStatus.plain_name.1, by decide,
    member_ne_zero JsonKey.username.searchName.plain (plain_of_username hvalid),
    by decide, JsonKey.known.searchName.plain.quoted_ne_zero, by decide,
    (plain_boolText _).ne_zero, by decide, JsonKey.online.searchName.plain.quoted_ne_zero,
    by decide, (plain_boolText _).ne_zero, statusEnd_ne_zero status⟩

theorem length_boolText (value : Bool) : (boolText value).length ≤ 5 := by
  cases value <;> decide

/-- The reply fits the buffer in which the server formats it. -/
theorem length_userStatusJson (hvalid : chatUsernameIsValid username = true) :
    (userStatusJson username status).length <
      if status.isSome then 320 else 160 := by
  have hname := username_length hvalid
  have hknown := length_boolText status.isSome
  have honline := length_boolText (status.any ChatServerUser.online)
  have hkeys : JsonKey.type.name.length = 4 ∧ JsonKey.username.name.length = 8 ∧
      JsonKey.known.name.length = 5 ∧ JsonKey.online.name.length = 6 ∧
      JsonKey.publicKey.name.length = 10 ∧
      ControlType.userStatus.name.length = 11 := by decide
  cases status <;>
  · simp only [userStatusJson_eq, statusTail, onlineTail, statusEnd, member, quoted,
      List.length_cons, List.length_append, List.length_nil, length_sodiumBin2hex,
      Option.isSome_none, Option.isSome_some, Bool.false_eq_true, if_false,
      if_true] at hknown honline ⊢
    omega

end Status

/-- The daemon reads the name and the flags that the server wrote. -/
def StatusReadBack (username : Str) (status : Option ChatServerUser) : Prop :=
  jsonGetString (userStatusJson username status) .username Daemon.usernameSize =
      some username ∧
    jsonBoolIsTrue (userStatusJson username status) .known = status.isSome ∧
    jsonBoolIsTrue (userStatusJson username status) .online =
      status.any ChatServerUser.online

theorem statusReadBack_iff {username : Str} (status : Option ChatServerUser)
    (hvalid : chatUsernameIsValid username = true) :
    StatusReadBack username status ↔
      (username = JsonKey.known.name → status = none) ∧
        (username = JsonKey.online.name →
          status.any ChatServerUser.online = false) := by
  have hflag (name : Str) (flag : Bool) :
      (decide (username ≠ name) && flag) = flag ↔
        (username = name → flag = false) := by
    by_cases hhides : username = name <;> cases flag <;> simp [hhides]
  rw [StatusReadBack, username_userStatusJson hvalid, known_userStatusJson hvalid,
    online_userStatusJson hvalid, hflag, hflag, Option.isSome_eq_false_iff,
    Option.isNone_iff_eq_none]
  exact and_iff_right rfl

/-- A message that the daemon builds fits its buffer, and the other side reads
back what was written exactly when no name or identifier in the message spells
the name of a later member.  A status reply fits its buffer, and the daemon
reads it back exactly when the name does not hide a flag that is set. -/
theorem control_roundTrip_iff (sodium : Sodium) :
    (∀ message : ControlMessage, message.Valid sodium →
      (message.json sodium).length < message.bufferSize ∧
      message.bufferSize ≤ chatServerMaxJsonSize ∧
      cString (message.json sodium) = message.json sodium ∧
      (message.ReadBack sodium ↔ message.Unambiguous sodium)) ∧
    ∀ username (status : Option ChatServerUser),
      chatUsernameIsValid username = true →
      (userStatusJson username status).length <
        (if status.isSome then 320 else 160) ∧
      cString (userStatusJson username status) = userStatusJson username status ∧
      (StatusReadBack username status ↔
        (username = JsonKey.known.name → status = none) ∧
          (username = JsonKey.online.name →
            status.any ChatServerUser.online = false)) := by
  refine ⟨fun message hvalid => ?_, fun username status hvalid => ?_⟩
  · exact ⟨length_json hvalid, bufferSize_le message, cString_json hvalid,
      readBack_iff hvalid⟩
  · exact ⟨length_userStatusJson hvalid, cString_userStatusJson hvalid,
      statusReadBack_iff status hvalid⟩

/-- Alice's request is read back by the server and by Bob. -/
theorem control_roundTrip_alice :
    (ControlMessage.chatRequest alice bob.username (bytes "ca11")).ReadBack
      Transparent.sodium := by
  have hvalid : (ControlMessage.chatRequest alice bob.username
      (bytes "ca11")).Valid Transparent.sodium :=
    ⟨by decide, by decide, by decide, by decide, by decide⟩
  have hclear : (ControlMessage.chatRequest alice bob.username
      (bytes "ca11")).Unambiguous Transparent.sodium := by
    unfold ControlMessage.Unambiguous
    decide +kernel
  obtain ⟨_, _, _, hback⟩ :=
    (control_roundTrip_iff Transparent.sodium).1 _ hvalid
  exact hback.mpr hclear

/-- A user may be called `public_key`; the server then reads no key out of the
registration. -/
theorem register_public_key_unread :
    let identity := Transparent.identity (bytes "public_key") 4
    chatUsernameIsValid identity.username = true ∧
      jsonGetString (registerJson identity) .publicKey chatServerHexPublicKeyLen =
        none ∧
      Server.parseRegister (registerJson identity) = none := by
  decide +kernel

end ProntoChat.Relay
