import ProntoChat.Daemon.Invariants
import ProntoChat.Daemon.Scenario

/-!
# The ready flag

A session is ready only after the handshake with the pinned key of its peer,
and a text reaches the command-line client only when it came out of the stream
of such a session.
-/

namespace ProntoChat.Daemon

open ProntoChat.QuotedText
open ProntoChat.Protocole
open ProntoChat.Contacts
open ProntoChat.Crypto

variable {sodium : Sodium} {admits : Admission}

/-- What an entry of the log says about the contacts and the rest of the
log. -/
def Effect.Justified (sodium : Sodium) (contacts : List (Str × Bytes 32))
    (log : List Effect) : Effect → Prop
  | .decrypted peer identityPk keys _ plaintext =>
      contacts.lookup peer = some identityPk ∧
        DecryptedUnder sodium keys.rx plaintext ∧
        ∃ role sessionId message,
          Effect.handshakeAccepted role identityPk sessionId message keys ∈ log
  | .ipcLine _ _ (.message peer text) _ => ∃ identityPk keys plaintext,
      Effect.decrypted peer identityPk keys .message plaintext ∈ log ∧
        text = printableText plaintext
  | _ => True

theorem Effect.Quiet.justified {effect : Effect} (hquiet : effect.Quiet)
    (contacts : List (Str × Bytes 32)) (log : List Effect) :
    effect.Justified sodium contacts log := by
  cases effect with
  | ipcLine fd opened line delivered =>
      cases line with
      | message => exact hquiet.elim
      | _ => trivial
  | decrypted => exact hquiet.elim
  | _ => trivial

theorem Effect.Justified.mono {effect : Effect}
    {contacts pinned : List (Str × Bytes 32)} {log more : List Effect}
    (hjustified : effect.Justified sodium contacts log)
    (hpinned : ∀ name key, contacts.lookup name = some key →
      pinned.lookup name = some key)
    (hlog : log ⊆ more) : effect.Justified sodium pinned more := by
  cases effect with
  | decrypted peer identityPk keys type plaintext =>
      obtain ⟨hlookup, hunder, role, sessionId, message, hmem⟩ := hjustified
      exact ⟨hpinned _ _ hlookup, hunder, role, sessionId, message, hlog hmem⟩
  | ipcLine fd opened line delivered =>
      cases line with
      | message peer text =>
          obtain ⟨identityPk, keys, plaintext, hmem, htext⟩ := hjustified
          exact ⟨identityPk, keys, plaintext, hlog hmem, htext⟩
      | _ => trivial
  | _ => trivial

/-- The contacts file holds the pinned contacts, the peer of an active session
is one of them, and so are the peers of the texts in the log. -/
structure PinsSound (sodium : Sodium) (store : ContactsDb)
    (session : SessionCore) (log : List Effect)
    (contacts : List (Str × Bytes 32)) : Prop where
  pins : Pins store contacts
  peer : session.active = true →
    contacts.lookup session.peer = some session.remotePk
  justified : ∀ effect ∈ log, effect.Justified sodium contacts log

theorem PinsSound.append {store : ContactsDb} {session : SessionCore}
    {log : List Effect} {contacts : List (Str × Bytes 32)}
    (hsound : PinsSound sodium store session log contacts) {effect : Effect}
    (heffect : effect.Justified sodium contacts (log ++ [effect])) :
    PinsSound sodium store session (log ++ [effect]) contacts where
  pins := hsound.pins
  peer := hsound.peer
  justified := List.forall_mem_append.mpr
    ⟨fun old hold => (hsound.justified old hold).mono (fun _ _ h => h)
      (List.subset_append_left _ _), List.forall_mem_singleton.mpr heffect⟩

/-- Checking or pinning a contact keeps the invariant, also when a session
with that contact begins. -/
theorem PinsSound.pin {store : ContactsDb} {session next : SessionCore}
    {log : List Effect} {contacts : List (Str × Bytes 32)}
    (hsound : PinsSound sodium store session log contacts) {io : ContactsIo}
    (hwhole : io.Whole) (peer : Str) (remotePk : Bytes 32)
    (hnext : next = session ∨
      (chatContactsVerifyOrPin io store peer remotePk).result = .ok ∧
        next.peer = peer ∧ next.remotePk = remotePk) :
    ∃ pinned, PinsSound sodium
      (chatContactsVerifyOrPin io store peer remotePk).db next log pinned := by
  obtain ⟨pinned, hpins, hkept, hnew⟩ :=
    verifyOrPin_pins hsound.pins hwhole peer remotePk
  refine ⟨pinned, hpins, fun hactive => ?_, fun effect heffect =>
    (hsound.justified effect heffect).mono hkept (List.Subset.refl _)⟩
  rcases hnext with rfl | ⟨hok, rfl, rfl⟩
  · exact hkept _ _ (hsound.peer hactive)
  · exact hnew hok

end ProntoChat.Daemon
