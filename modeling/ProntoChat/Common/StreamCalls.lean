import ProntoChat.Common.Transparent
import ProntoChat.Core.OrderedStream

/-!
# Calls of the stream wrapper

`chat_crypto_secretstream_encrypt` and `chat_crypto_secretstream_decrypt` with
their output buffers and the `size_t` arithmetic of their checks.  Over an ideal
stream, ciphertexts decrypt to their plaintexts whatever other strings arrive in
between, and such strings leave nothing in the outputs.
-/

namespace ProntoChat.Crypto

open ProntoChat.Protocole
open ProntoChat.OrderedStream

/-! ## Sizes -/

/-- Addition of `size_t` values. -/
def sizeAdd (left right : ℕ) : ℕ := (left + right) % 2 ^ 64

/-- Subtraction of `size_t` values. -/
def sizeSub (left right : ℕ) : ℕ := (left + 2 ^ 64 - right) % 2 ^ 64

theorem sizeAdd_eq {left right : ℕ} (hfits : left + right < 2 ^ 64) :
    sizeAdd left right = left + right := Nat.mod_eq_of_lt hfits

theorem sizeSub_eq {left right : ℕ} (hle : right ≤ left) (hfits : left < 2 ^ 64) :
    sizeSub left right = left - right := by
  rw [sizeSub, Nat.sub_add_comm hle, Nat.add_mod_right, Nat.mod_eq_of_lt (by omega)]

/-! ## Calls -/

/-- A call of `chat_crypto_secretstream_encrypt` with a buffer that suffices. -/
structure StreamItem where
  plaintext : List UInt8
  final : Bool
  ciphertextSize : ℕ
  short : plaintext.length ≤ chatMaxMessageSize
  room : plaintext.length + Sodium.streamABytes ≤ ciphertextSize

def StreamItem.tag (item : StreamItem) : UInt8 :=
  if item.final then Sodium.tagFinal else Sodium.tagMessage

/-- A string passed to `chat_crypto_secretstream_decrypt` with a buffer that
suffices, and what was in the buffer before. -/
structure StreamInput where
  content : List UInt8
  buffer : List UInt8
  sized : content.length < 2 ^ 64
  room : content.length ≤ buffer.length + Sodium.streamABytes

/-- The outputs of `chat_crypto_secretstream_decrypt`. -/
structure Decrypted where
  result : Except ChatCryptoError Unit
  buffer : List UInt8
  length : ℕ
  tag : UInt8
  stream : ChatCryptoSecretstream

/-- `chat_crypto_secretstream_encrypt`, with the wrapping sum of its size check. -/
def encryptSized (sodium : Sodium) (stream : ChatCryptoSecretstream)
    (plaintext : List UInt8) (final : Bool) (ciphertextSize : ℕ) :
    Except ChatCryptoError (List UInt8 × ChatCryptoSecretstream) :=
  if stream.pushInitialized = false then .error .invalid
  else if chatMaxMessageSize < plaintext.length then .error .tooLarge
  else if ciphertextSize < sizeAdd plaintext.length Sodium.streamABytes then
    .error .buffer
  else
    let tag := if final then Sodium.tagFinal else Sodium.tagMessage
    let output := sodium.secretstreamPush stream.push plaintext tag
    .ok (output.1, { stream with push := output.2 })

/-- `chat_crypto_secretstream_decrypt`, with the wrapping difference of its size
check.  A failure wipes the whole buffer with `sodium_memzero`. -/
def decryptInto (sodium : Sodium) (stream : ChatCryptoSecretstream)
    (ciphertext buffer : List UInt8) : Decrypted :=
  let fail (failure : ChatCryptoError) : Decrypted :=
    { result := .error failure
      buffer := List.replicate buffer.length 0
      length := 0
      tag := 0
      stream }
  if stream.pullInitialized = false ∨ ciphertext.length < Sodium.streamABytes then
    fail .invalid
  else if buffer.length < sizeSub ciphertext.length Sodium.streamABytes then
    fail .buffer
  else
    match sodium.secretstreamPull stream.pull ciphertext with
    | none => fail .decrypt
    | some (plaintext, tag, pull) =>
        { result := .ok ()
          buffer := plaintext ++ buffer.drop plaintext.length
          length := plaintext.length
          tag
          stream := { stream with pull } }

theorem fits_of_short {length : ℕ} (hshort : length ≤ chatMaxMessageSize) :
    length + Sodium.streamABytes < 2 ^ 64 := by
  have hmax : chatMaxMessageSize = 65536 := rfl
  have hoverhead : Sodium.streamABytes = 17 := rfl
  omega

/-- The size check of an encryption does not wrap. -/
theorem encryptSized_eq (sodium : Sodium) (stream : ChatCryptoSecretstream)
    (plaintext : List UInt8) (final : Bool) (ciphertextSize : ℕ) :
    encryptSized sodium stream plaintext final ciphertextSize =
      chatCryptoSecretstreamEncrypt sodium stream plaintext final ciphertextSize := by
  unfold encryptSized chatCryptoSecretstreamEncrypt
  by_cases hlarge : chatMaxMessageSize < plaintext.length
  · simp only [if_pos hlarge]
  · rw [sizeAdd_eq (fits_of_short (Nat.le_of_not_lt hlarge))]

theorem encryptSized_of_item {sodium : Sodium} {stream : ChatCryptoSecretstream}
    (hopen : stream.pushInitialized = true) (item : StreamItem) :
    encryptSized sodium stream item.plaintext item.final item.ciphertextSize =
      .ok ((sodium.secretstreamPush stream.push item.plaintext item.tag).1,
        { stream with
          push := (sodium.secretstreamPush stream.push item.plaintext item.tag).2 }) := by
  have hshort := item.short
  have hroom := item.room
  rw [encryptSized_eq, chatCryptoSecretstreamEncrypt, if_neg (by simp [hopen]),
    if_neg (by omega), if_neg (by omega)]
  rfl

/-- The outputs of a failed decryption. -/
def refused (stream : ChatCryptoSecretstream) (buffer : List UInt8)
    (failure : ChatCryptoError) : Decrypted where
  result := .error failure
  buffer := List.replicate buffer.length 0
  length := 0
  tag := 0
  stream

/-- The outputs of a successful decryption: the plaintext in front of what the
buffer held. -/
def accepted (next : ChatCryptoSecretstream) (buffer plaintext : List UInt8)
    (tag : UInt8) : Decrypted where
  result := .ok ()
  buffer := plaintext ++ buffer.drop plaintext.length
  length := plaintext.length
  tag
  stream := next

/-- The size check of a decryption does not wrap, and the outputs are those of the
decryption on values. -/
theorem decryptInto_eq (sodium : Sodium) (stream : ChatCryptoSecretstream)
    {ciphertext : List UInt8} (buffer : List UInt8)
    (hsized : ciphertext.length < 2 ^ 64) :
    decryptInto sodium stream ciphertext buffer =
      match chatCryptoSecretstreamDecrypt sodium stream ciphertext buffer.length with
      | .error failure => refused stream buffer failure
      | .ok (plaintext, tag, next) => accepted next buffer plaintext tag := by
  unfold decryptInto chatCryptoSecretstreamDecrypt
  by_cases hinvalid : stream.pullInitialized = false ∨
      ciphertext.length < Sodium.streamABytes
  · simp only [if_pos hinvalid, refused]
  · have hlong : Sodium.streamABytes ≤ ciphertext.length := by
      by_contra hshort
      exact hinvalid (.inr (Nat.lt_of_not_le hshort))
    rw [if_neg hinvalid, if_neg hinvalid, sizeSub_eq hlong hsized]
    split_ifs
    · rfl
    · cases sodium.secretstreamPull stream.pull ciphertext <;> rfl

/-- What the stream does not accept is refused, and the stream is unchanged. -/
theorem decryptInto_of_none {sodium : Sodium} {stream : ChatCryptoSecretstream}
    {ciphertext : List UInt8} (buffer : List UInt8)
    (hsized : ciphertext.length < 2 ^ 64)
    (hpull : sodium.secretstreamPull stream.pull ciphertext = none) :
    ∃ failure, decryptInto sodium stream ciphertext buffer =
      refused stream buffer failure := by
  have hfails : ∃ failure, chatCryptoSecretstreamDecrypt sodium stream ciphertext
      buffer.length = .error failure := by
    unfold chatCryptoSecretstreamDecrypt
    rw [hpull]
    split_ifs
    · exact ⟨_, rfl⟩
    · exact ⟨_, rfl⟩
    · exact ⟨_, rfl⟩
  obtain ⟨failure, hfailure⟩ := hfails
  exact ⟨failure, by rw [decryptInto_eq sodium stream buffer hsized, hfailure]⟩

theorem decryptInto_of_some {sodium : Sodium} {stream : ChatCryptoSecretstream}
    {plaintext : List UInt8} {tag : UInt8} {pull : Bytes 52}
    (hopen : stream.pullInitialized = true) (input : StreamInput)
    (hlong : Sodium.streamABytes ≤ input.content.length)
    (hpull : sodium.secretstreamPull stream.pull input.content =
      some (plaintext, tag, pull)) :
    decryptInto sodium stream input.content input.buffer =
      accepted { stream with pull } input.buffer plaintext tag := by
  have hroom := input.room
  have hok : chatCryptoSecretstreamDecrypt sodium stream input.content
      input.buffer.length = .ok (plaintext, tag, { stream with pull }) := by
    rw [chatCryptoSecretstreamDecrypt, if_neg (by simp [hopen, hlong]),
      if_neg (by omega), hpull]
  rw [decryptInto_eq sodium stream input.buffer input.sized, hok]

/-! ## Sequences of calls -/

/-- The ciphertexts of one side's calls. -/
def encryptAll (sodium : Sodium) :
    ChatCryptoSecretstream → List StreamItem →
      Except ChatCryptoError (List (List UInt8))
  | _, [] => .ok []
  | stream, item :: items => do
      let (ciphertext, next) ←
        encryptSized sodium stream item.plaintext item.final item.ciphertextSize
      let ciphertexts ← encryptAll sodium next items
      return ciphertext :: ciphertexts

/-- The outputs of the other side's calls. -/
def decryptAll (sodium : Sodium) :
    ChatCryptoSecretstream → List StreamInput → List Decrypted
  | _, [] => []
  | stream, input :: inputs =>
      let output := decryptInto sodium stream input.content input.buffer
      output :: decryptAll sodium output.stream inputs

/-- The strings passed to the receiver: the ciphertexts in their order, each with
the item it was made from, and any other strings in between. -/
inductive Interleaved :
    List (List UInt8 × StreamItem) → List (StreamInput × Option StreamItem) → Prop
  | done (pairs : List (List UInt8 × StreamItem)) : Interleaved pairs []
  | genuine {pairs : List (List UInt8 × StreamItem)}
      {calls : List (StreamInput × Option StreamItem)} {input : StreamInput}
      {ciphertext : List UInt8} {item : StreamItem}
      (hgenuine : input.content = ciphertext) (hrest : Interleaved pairs calls) :
      Interleaved ((ciphertext, item) :: pairs) ((input, some item) :: calls)
  | other {pairs : List (List UInt8 × StreamItem)}
      {calls : List (StreamInput × Option StreamItem)} {input : StreamInput}
      (hother : pairs.head?.map Prod.fst ≠ some input.content)
      (hrest : Interleaved pairs calls) :
      Interleaved pairs ((input, none) :: calls)

/-- The outputs that a call should have: the item in front of the buffer, or
nothing but zeros. -/
def Answered : StreamInput × Option StreamItem → Decrypted → Prop
  | (input, some item), output =>
      output.result = .ok () ∧ output.length = item.plaintext.length ∧
        output.buffer = item.plaintext ++ input.buffer.drop item.plaintext.length ∧
        output.buffer.length = input.buffer.length ∧ output.tag = item.tag
  | (input, none), output =>
      (∃ failure, output.result = .error failure) ∧ output.length = 0 ∧
        output.tag = 0 ∧ output.buffer = List.replicate input.buffer.length 0

/-! ## The ideal stream -/

def pushItem (sodium : Sodium) (state : Bytes 52) (item : List UInt8 × UInt8) :
    List UInt8 × Bytes 52 :=
  sodium.secretstreamPush state item.1 item.2

def pullItem (sodium : Sodium) (state : Bytes 52) (ciphertext : List UInt8) :
    Option ((List UInt8 × UInt8) × Bytes 52) :=
  (sodium.secretstreamPull state ciphertext).map fun output =>
    ((output.1, output.2.1), output.2.2)

theorem pullItem_some {sodium : Sodium} {state next : Bytes 52}
    {ciphertext plaintext : List UInt8} {tag : UInt8}
    (hpull : pullItem sodium state ciphertext = some ((plaintext, tag), next)) :
    sodium.secretstreamPull state ciphertext = some (plaintext, tag, next) := by
  obtain ⟨⟨text, mark, after⟩, hsome, houtput⟩ := Option.map_eq_some_iff.mp hpull
  simp only [Prod.mk.injEq] at houtput
  obtain ⟨⟨rfl, rfl⟩, rfl⟩ := houtput
  exact hsome

theorem pullItem_none {sodium : Sodium} {state : Bytes 52} {ciphertext : List UInt8}
    (hpull : pullItem sodium state ciphertext = none) :
    sodium.secretstreamPull state ciphertext = none :=
  Option.map_eq_none_iff.mp hpull

/-- An ideal secretstream under a key and a header: whoever reads it is accepted
the pushed items in their order, and nothing else. -/
structure IdealSecretstream (sodium : Sodium) (key : Bytes 32) (header : Bytes 24)
    (items : List (List UInt8 × UInt8)) : Prop where
  opens : sodium.secretstreamInitPull header key =
    some (sodium.secretstreamInitPush header key)
  exact : Exact (pushItem sodium) (pullItem sodium)
    (sodium.secretstreamInitPush header key) items
  length_push : ∀ state plaintext tag,
    (sodium.secretstreamPush state plaintext tag).1.length =
      plaintext.length + Sodium.streamABytes

def StreamItem.payload (item : StreamItem) : List UInt8 × UInt8 :=
  (item.plaintext, item.tag)

/-- The ciphertexts of a sequence of items behind a state. -/
def ciphertextsFrom (sodium : Sodium) : Bytes 52 → List StreamItem → List (List UInt8)
  | _, [] => []
  | state, item :: items =>
      let output := pushItem sodium state item.payload
      output.1 :: ciphertextsFrom sodium output.2 items

theorem length_ciphertextsFrom (sodium : Sodium) (state : Bytes 52)
    (items : List StreamItem) :
    (ciphertextsFrom sodium state items).length = items.length := by
  induction items generalizing state with
  | nil => rfl
  | cons item items ih => exact congrArg (· + 1) (ih _)

theorem encryptAll_eq (sodium : Sodium) {stream : ChatCryptoSecretstream}
    (hopen : stream.pushInitialized = true) (items : List StreamItem) :
    encryptAll sodium stream items = .ok (ciphertextsFrom sodium stream.push items) := by
  induction items generalizing stream with
  | nil => rfl
  | cons item items ih =>
      rw [encryptAll, encryptSized_of_item hopen]
      simp only [bind, Except.bind]
      rw [ih]
      · rfl
      · exact hopen

/-- A string that is not the next ciphertext is answered with zeros. -/
theorem answered_other {sodium : Sodium} {stream : ChatCryptoSecretstream}
    {items : List StreamItem} {input : StreamInput}
    (hexact : Exact (pushItem sodium) (pullItem sodium) stream.pull
      (items.map StreamItem.payload))
    (hother : ((ciphertextsFrom sodium stream.pull items).zip items).head?.map Prod.fst ≠
      some input.content) :
    Answered (input, none) (decryptInto sodium stream input.content input.buffer) ∧
      (decryptInto sodium stream input.content input.buffer).stream = stream := by
  have hpull : pullItem sodium stream.pull input.content = none := by
    cases items with
    | nil => exact hexact input.content
    | cons item items =>
        refine Exact.pull_none hexact fun hsame => hother ?_
        exact congrArg some hsame.symm
  obtain ⟨failure, houtput⟩ := decryptInto_of_none input.buffer input.sized
    (pullItem_none hpull)
  rw [houtput]
  exact ⟨⟨⟨failure, rfl⟩, rfl, rfl, rfl⟩, rfl⟩

/-- The next ciphertext is answered with its item, and the stream moves on. -/
theorem answered_genuine {sodium : Sodium} {stream : ChatCryptoSecretstream}
    {item : StreamItem} {items : List StreamItem} {input : StreamInput}
    (hlength : ∀ state plaintext tag,
      (sodium.secretstreamPush state plaintext tag).1.length =
        plaintext.length + Sodium.streamABytes)
    (hopen : stream.pullInitialized = true)
    (hexact : Exact (pushItem sodium) (pullItem sodium) stream.pull
      (item.payload :: items.map StreamItem.payload))
    (hcontent : input.content = (pushItem sodium stream.pull item.payload).1) :
    Answered (input, some item)
        (decryptInto sodium stream input.content input.buffer) ∧
      (decryptInto sodium stream input.content input.buffer).stream =
        { stream with pull := (pushItem sodium stream.pull item.payload).2 } := by
  have hsize : input.content.length = item.plaintext.length + Sodium.streamABytes := by
    rw [hcontent]
    exact hlength _ _ _
  have hpull : sodium.secretstreamPull stream.pull input.content =
      some (item.plaintext, item.tag, (pushItem sodium stream.pull item.payload).2) := by
    rw [hcontent]
    exact pullItem_some hexact.pull_push
  have hroom := input.room
  rw [decryptInto_of_some hopen input (by omega) hpull]
  refine ⟨⟨rfl, rfl, rfl, ?_, rfl⟩, rfl⟩
  rw [accepted, List.length_append, List.length_drop]
  omega

/-- A receiver at the state before some items answers every interleaving of their
ciphertexts. -/
theorem answered_decryptAll {sodium : Sodium} {stream : ChatCryptoSecretstream}
    {items : List StreamItem} {calls : List (StreamInput × Option StreamItem)}
    (hlength : ∀ state plaintext tag,
      (sodium.secretstreamPush state plaintext tag).1.length =
        plaintext.length + Sodium.streamABytes)
    (hopen : stream.pullInitialized = true)
    (hexact : Exact (pushItem sodium) (pullItem sodium) stream.pull
      (items.map StreamItem.payload))
    (hcalls : Interleaved ((ciphertextsFrom sodium stream.pull items).zip items) calls) :
    List.Forall₂ Answered calls (decryptAll sodium stream (calls.map Prod.fst)) := by
  generalize hpairs : (ciphertextsFrom sodium stream.pull items).zip items = pairs
    at hcalls
  induction hcalls generalizing stream items with
  | done => exact .nil
  | @other pairs calls input hother _ ih =>
      rw [← hpairs] at hother
      obtain ⟨hanswered, hstream⟩ := answered_other hexact hother
      refine .cons hanswered ?_
      rw [hstream]
      exact ih hopen hexact hpairs
  | @genuine pairs calls input ciphertext item hgenuine _ ih =>
      cases items with
      | nil => exact nomatch hpairs
      | cons first items =>
          obtain ⟨⟨hcontent, rfl⟩, hrest⟩ := by
            simpa [ciphertextsFrom] using hpairs
          obtain ⟨hanswered, hstream⟩ :=
            answered_genuine hlength hopen hexact (hgenuine.trans hcontent.symm)
          refine .cons hanswered ?_
          rw [hstream]
          exact ih hopen hexact.2 hrest

/-- Round trip in the presence of garbage.  One side opens its push stream and
encrypts any sequence of items; the other side opens its pull stream with the
header.  Whatever strings are passed between the ciphertexts, each ciphertext
decrypts to its item, every other string is refused with nothing in the outputs,
and no size wraps. -/
theorem secretstream_round_trip (sodium : Sodium) (key : Bytes 32) (header : Bytes 24)
    (sender receiver : ChatCryptoSecretstream) (items : List StreamItem)
    (hideal : IdealSecretstream sodium key header (items.map StreamItem.payload)) :
    ∃ writer reader ciphertexts,
      chatCryptoSecretstreamInitPush sodium sender key (some header) =
          .ok (writer, header) ∧
        chatCryptoSecretstreamInitPull sodium receiver key header = .ok reader ∧
        encryptAll sodium writer items = .ok ciphertexts ∧
        ciphertexts.length = items.length ∧
        (∀ calls, Interleaved (ciphertexts.zip items) calls →
          List.Forall₂ Answered calls
            (decryptAll sodium reader (calls.map Prod.fst))) ∧
        (∀ item ∈ items, sizeAdd item.plaintext.length Sodium.streamABytes =
          item.plaintext.length + Sodium.streamABytes) ∧
        ∀ input : StreamInput, Sodium.streamABytes ≤ input.content.length →
          sizeSub input.content.length Sodium.streamABytes =
            input.content.length - Sodium.streamABytes := by
  let start := sodium.secretstreamInitPush header key
  refine ⟨{ sender with push := start, pushInitialized := true },
    { receiver with pull := start, pullInitialized := true },
    ciphertextsFrom sodium start items, rfl, ?_, encryptAll_eq sodium rfl items,
    length_ciphertextsFrom sodium start items, ?_, ?_, ?_⟩
  · rw [chatCryptoSecretstreamInitPull, hideal.opens]
  · intro calls hcalls
    exact answered_decryptAll hideal.length_push rfl hideal.exact hcalls
  · intro item _
    exact sizeAdd_eq (fits_of_short item.short)
  · intro input hlong
    exact sizeSub_eq hlong input.sized

end ProntoChat.Crypto

namespace ProntoChat.Transparent

open ProntoChat.QuotedText
open ProntoChat.Protocole
open ProntoChat.Crypto
open ProntoChat.OrderedStream

/-! ## Two ciphertexts and a replay -/

def salut : StreamItem where
  plaintext := bytes "salut nathan"
  final := false
  ciphertextSize := 29
  short := by decide
  room := by decide

def goodbye : StreamItem where
  plaintext := bytes "bye"
  final := true
  ciphertextSize := 20
  short := by decide
  room := by decide

def salutStart : Bytes 52 := openStream (repeated 24 1) (repeated 32 1)

def salutCiphertext : List UInt8 :=
  (push salutStart salut.plaintext salut.tag).1

def goodbyeCiphertext : List UInt8 :=
  (push (advance salutStart) goodbye.plaintext goodbye.tag).1

/-- A libsodium whose streams accept the two items behind one state, in their
order, and nothing else. -/
def twoOnly : Sodium :=
  { sodium with
    secretstreamPull := fun state ciphertext =>
      if state = salutStart then
        if ciphertext = salutCiphertext then
          some (salut.plaintext, salut.tag, advance salutStart)
        else none
      else if state = advance salutStart then
        if ciphertext = goodbyeCiphertext then
          some (goodbye.plaintext, goodbye.tag, advance (advance salutStart))
        else none
      else none }

/-- A state that accepts one ciphertext reads the item it was made from. -/
theorem pullItem_iff {sodium : Sodium} {state next : Bytes 52}
    {item : List UInt8 × UInt8} {expected : List UInt8}
    (hpush : pushItem sodium state item = (expected, next))
    (hpull : ∀ ciphertext, sodium.secretstreamPull state ciphertext =
      if ciphertext = expected then some (item.1, item.2, next) else none)
    (ciphertext : List UInt8) (got : List UInt8 × UInt8) (after : Bytes 52) :
    pullItem sodium state ciphertext = some (got, after) ↔
      got = item ∧ (ciphertext, after) = pushItem sodium state item := by
  rw [pullItem, hpull, hpush]
  by_cases hsame : ciphertext = expected
  · simp [hsame, eq_comm]
  · simp [hsame]

theorem twoOnly_ideal : IdealSecretstream twoOnly (repeated 32 1) (repeated 24 1)
    [salut.payload, goodbye.payload] where
  opens := rfl
  exact := by
    have hsecond : advance salutStart ≠ salutStart := by decide
    have hthird : advance (advance salutStart) ≠ salutStart := by decide
    have hlast : advance (advance salutStart) ≠ advance salutStart := by decide
    have hfirst : ∀ ciphertext, twoOnly.secretstreamPull salutStart ciphertext =
        if ciphertext = salutCiphertext then
          some (salut.plaintext, salut.tag, advance salutStart)
        else none := by
      simp [twoOnly]
    have hnext : ∀ ciphertext, twoOnly.secretstreamPull (advance salutStart) ciphertext =
        if ciphertext = goodbyeCiphertext then
          some (goodbye.plaintext, goodbye.tag, advance (advance salutStart))
        else none := by
      simp [twoOnly, hsecond]
    have hend : ∀ ciphertext, twoOnly.secretstreamPull (advance (advance salutStart))
        ciphertext = none := by
      simp [twoOnly, hthird, hlast]
    exact ⟨pullItem_iff rfl hfirst, pullItem_iff rfl hnext,
      fun ciphertext => congrArg (Option.map _) (hend ciphertext)⟩
  length_push := streamCorrect.length_push

/-- A string with a buffer of 32 bytes that holds old data. -/
def received (content : List UInt8) (hshort : content.length ≤ 32) : StreamInput where
  content
  buffer := List.replicate 32 165
  sized := by omega
  room := by
    rw [List.length_replicate]
    omega

/-- Garbage, the first ciphertext, its replay, and the final ciphertext. -/
def replayed : List (StreamInput × Option StreamItem) :=
  [(received [1, 2, 3] (by decide), none),
    (received salutCiphertext (by decide), some salut),
    (received salutCiphertext (by decide), none),
    (received goodbyeCiphertext (by decide), some goodbye)]

theorem secretstream_round_trip_replayed :
    ∃ reader, chatCryptoSecretstreamInitPull twoOnly {} (repeated 32 1)
        (repeated 24 1) = .ok reader ∧
      List.Forall₂ Answered replayed
        (decryptAll twoOnly reader (replayed.map Prod.fst)) := by
  obtain ⟨writer, reader, ciphertexts, hwriter, hreader, hall, -, hanswered, -⟩ :=
    secretstream_round_trip twoOnly (repeated 32 1) (repeated 24 1) {} {}
      [salut, goodbye] twoOnly_ideal
  refine ⟨reader, hreader, hanswered _ ?_⟩
  have hciphertexts : ciphertexts = [salutCiphertext, goodbyeCiphertext] := by
    cases hwriter
    rw [encryptAll_eq twoOnly rfl] at hall
    exact (Except.ok.inj hall).symm
  rw [hciphertexts]
  refine .other ?_ (.genuine rfl (.other ?_ (.genuine rfl (.done []))))
  · decide
  · decide

end ProntoChat.Transparent
