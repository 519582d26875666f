import ProntoChat.Common.Config
import ProntoChat.Daemon.Ice

/-!
# The ICE configuration

At its start the daemon reads from `config.toml` which servers its sessions use, and
every session sets up its agent from that.  A daemon that is told to force a relay never
gathers candidates without one.
-/

namespace ProntoChat.Ice

open ProntoChat.QuotedText
open ProntoChat.Protocole
open ProntoChat.Contacts
open ProntoChat.Config

/-! ## Reading -/

def isDigit (byte : UInt8) : Bool := decide (48 ≤ byte) && decide (byte ≤ 57)

/-- `strtoul(value, &end, 10)` with 64 bits: the number and what stands behind it, or
nothing without a digit. -/
def strtoul (value : Str) : Option (ℕ × Str) :=
  let text := value.dropWhile isSpace
  let negative := text.head? = some 45
  let text := if negative ∨ text.head? = some 43 then text.tail else text
  let digits := text.takeWhile isDigit
  let number := digits.foldl (fun number digit => 10 * number + (digit.toNat - 48)) 0
  if digits = [] then none
  else if 2 ^ 64 ≤ number then some (2 ^ 64 - 1, text.dropWhile isDigit)
  else if negative then some ((2 ^ 64 - number) % 2 ^ 64, text.dropWhile isDigit)
  else some (number, text.dropWhile isDigit)

abbrev ConfigPort := { port : ℕ // 0 < port ∧ port ≤ 65535 }

/-- `parse_config_uint`; an empty value has no digit. -/
def parseConfigUint (value : Str) : Option ConfigPort :=
  (strtoul value).bind fun (parsed, rest) =>
    if hport : 0 < parsed ∧ parsed ≤ 65535 then
      if rest = [] then some ⟨parsed, hport⟩ else none
    else none

/-- `load_optional_config_value`: the value, `some none` without such a setting, or
`none` when the call fails. -/
def loadOptionalConfigValue (path : Except ChatIdentityError Unit) (reading : Reading)
    (key : ConfigKey) (outSize : ℕ) : Option (Option Str) :=
  match chatIdentityLoadConfigValue path reading key.name outSize with
  | .ok value => some (some value)
  | .error .notFound => some none
  | .error _ => none

structure StunServer where
  host : Str
  port : ConfigPort
  deriving DecidableEq

structure TurnServer where
  host : Str
  port : ConfigPort
  username : Str
  password : Str
  filled : username ≠ [] ∧ password ≠ []
  deriving DecidableEq

/-- `chat_ice_config_t`; the flags `has_…` tell which of the optional parts are there. -/
structure ChatIceConfig where
  localAddress : Option Str
  stun : Option StunServer
  turn : Option TurnServer
  forceRelay : Bool
  address : localAddress ≠ some []
  relay : forceRelay = true → turn.isSome = true

def loadStun : Option Str → Option Str → Option (Option StunServer)
  | none, none => some none
  | some host, some port => (parseConfigUint port).map fun port => some { host, port }
  | _, _ => none

def loadTurn : Option Str → Option Str → Option Str → Option Str →
    Option (Option TurnServer)
  | none, none, none, none => some none
  | some host, some port, some username, some password =>
      if filled : username ≠ [] ∧ password ≠ [] then
        (parseConfigUint port).map fun port =>
          some { host, port, username, password, filled }
      else none
  | _, _, _, _ => none

/-- `load_ice_config`; every value is read from the file anew.  All failures have the
same result, so their order does not show. -/
def loadIceConfig (path : Except ChatIdentityError Unit) (reading : ConfigKey → Reading) :
    Option ChatIceConfig := do
  let load (key : ConfigKey) := loadOptionalConfigValue path (reading key) key
  let localAddress ← load .iceLocalAddress 256
  let stun ← loadStun (← load .stunServer 256) (← load .stunPort 16)
  let turn ← loadTurn (← load .turnServer 256) (← load .turnPort 16)
    (← load .turnUsername 128) (← load .turnPassword 256)
  let force ← load .iceForceRelay 8
  if address : localAddress ≠ some [] then
    if force = none ∨ force = some (bytes "false") then
      some ⟨localAddress, stun, turn, false, address, fun h => absurd h Bool.false_ne_true⟩
    else if relay : force = some (bytes "true") ∧ turn.isSome = true then
      some ⟨localAddress, stun, turn, true, address, fun _ => relay.2⟩
    else none
  else none

/-! ## Setting up the agent -/

/-- The calls into libnice by which a session gets its agent. -/
inductive AgentCall where
  | newAgent (controlling forceRelay : Bool)
  | addStream
  | setStreamName
  | addLocalAddress (address : Str)
  | setStunServer (server : StunServer)
  | setRelayInfo (server : TurnServer)
  | attachRecv
  | gatherCandidates
  deriving DecidableEq

/-- The calls of `chat_ice_session_start` in front of the last one. -/
def setupCalls (controlling : Bool) (config : ChatIceConfig) : List AgentCall :=
  [.newAgent controlling config.forceRelay, .addStream, .setStreamName] ++
    config.localAddress.toList.map .addLocalAddress ++
    config.stun.toList.map .setStunServer ++ config.turn.toList.map .setRelayInfo ++
    [.attachRecv]

/-- Calls are made up to the first that fails. -/
def madeCalls (works : AgentCall → Bool) : List AgentCall → List AgentCall
  | [] => []
  | call :: calls => if works call then call :: madeCalls works calls else [call]

/-- The calls of `chat_ice_session_start` that are made. -/
def startCalls (works : AgentCall → Bool) (controlling : Bool) (config : ChatIceConfig) :
    List AgentCall :=
  madeCalls works (setupCalls controlling config ++ [.gatherCandidates])

/-- The outcome of these calls for the session. -/
def startOutcome (works : AgentCall → Bool) (controlling : Bool) (config : ChatIceConfig) :
    Except ChatIceError Unit :=
  if (setupCalls controlling config).all works = false then .error .agent
  else if works .gatherCandidates = false then .error .gather
  else .ok ()

theorem works_of_mem_madeCalls {works : AgentCall → Bool} {calls : List AgentCall}
    {last : AgentCall} (hmade : last ∈ madeCalls works (calls ++ [last]))
    (hfresh : last ∉ calls) : ∀ call ∈ calls, works call = true := by
  induction calls with
  | nil => exact List.forall_mem_nil _
  | cons call calls ih =>
      obtain ⟨hne, hrest⟩ := not_or.mp (mt List.mem_cons.mpr hfresh)
      rw [List.cons_append, madeCalls] at hmade
      split_ifs at hmade with hworks
      · have hlater := (List.mem_cons.mp hmade).resolve_left hne
        exact List.forall_mem_cons.mpr ⟨hworks, ih hlater hrest⟩
      · exact absurd (List.mem_singleton.mp hmade) hne

theorem works_of_agent {works : AgentCall → Bool} {controlling : Bool}
    {config : ChatIceConfig}
    (hagent : (chatIceSessionStart (startOutcome works controlling config)).1.agent = true) :
    ∀ call ∈ setupCalls controlling config, works call = true := by
  unfold startOutcome at hagent
  split_ifs at hagent with hfails
  · exact absurd hagent Bool.false_ne_true
  · exact absurd hagent Bool.false_ne_true
  · exact List.all_eq_true.mp (Bool.not_eq_false _ ▸ hfails)

/-- With a forced relay, only an agent that was made to use a relay and has accepted the
one of the configuration gathers candidates, and a session has no other agent. -/
theorem relay_before_candidates {config : ChatIceConfig} (hforce : config.forceRelay = true)
    {works : AgentCall → Bool} {controlling : Bool}
    (hstarts : .gatherCandidates ∈ startCalls works controlling config ∨
      (chatIceSessionStart (startOutcome works controlling config)).1.agent = true) :
    works (.newAgent controlling true) = true ∧
      ∃ server, config.turn = some server ∧ works (.setRelayInfo server) = true := by
  have hfresh : .gatherCandidates ∉ setupCalls controlling config := by simp [setupCalls]
  have hworks : ∀ call ∈ setupCalls controlling config, works call = true :=
    hstarts.elim (works_of_mem_madeCalls · hfresh) works_of_agent
  obtain ⟨server, hserver⟩ := Option.isSome_iff_exists.mp (config.relay hforce)
  refine ⟨hworks _ ?_, server, hserver, hworks _ ?_⟩
  · simp [setupCalls, hforce]
  · simp [setupCalls, hserver]

/-- A file that forces a relay. -/
def relayConfig : Str :=
  bytes "turn_server = \"relay\"\nturn_port = \"3478\"\nturn_username = \"alice\"\n" ++
    bytes "turn_password = \"secret\"\nice_force_relay = \"true\"\n"

theorem relay_before_candidates_relayConfig :
    ∃ config, loadIceConfig (.ok ()) (fun _ => .text relayConfig false) = some config ∧
      ∃ server, config.turn = some server := by
  have hloaded : (loadIceConfig (.ok ()) fun _ => .text relayConfig false).any
      (fun config => config.forceRelay = true ∧
        .gatherCandidates ∈ startCalls (fun _ => true) true config) = true := by
    decide +kernel
  cases hload : loadIceConfig (.ok ()) fun _ => .text relayConfig false with
  | none => simp [hload] at hloaded
  | some config =>
      rw [hload] at hloaded
      obtain ⟨hforce, hgathers⟩ := of_decide_eq_true hloaded
      obtain ⟨_, server, hserver, _⟩ := relay_before_candidates hforce (.inl hgathers)
      exact ⟨config, rfl, server, hserver⟩

end ProntoChat.Ice
