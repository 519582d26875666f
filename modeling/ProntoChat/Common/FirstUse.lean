import ProntoChat.Common.Contacts
import ProntoChat.Core.Transition

/-!
# Trust on first use

Sequences of calls on one contacts file.  The abstract store remembers for
every name the key of the first call that offered one; a file that starts empty
answers every later call as this store does.
-/

namespace ProntoChat.Contacts

open ProntoChat.QuotedText
open ProntoChat.Protocole

/-- `chat_contacts_load_public_key`: its result and the key that was found. -/
def chatContactsLoadPublicKey (io : ContactsIo) (db : ContactsDb)
    (username : Str) : ChatContactsResult × Option (Bytes 32) :=
  if chatUsernameIsValid username = false then (.invalid, none)
  else
    match findContact io db username with
    | (.ok, none) => (.notFound, none)
    | found => found

inductive ContactsCall where
  | verifyOrPin (username : Str) (identityPk : Bytes 32)
  | loadPublicKey (username : Str)
  deriving DecidableEq

def ContactsCall.username : ContactsCall → Str
  | .verifyOrPin username _ => username
  | .loadPublicKey username => username

/-- What a call returns: its result, whether the contact is new, and the key
that was loaded. -/
structure ContactsAnswer where
  result : ChatContactsResult
  isNewContact : Bool := false
  identityPk : Option (Bytes 32) := none
  deriving DecidableEq

/-- The answer to a call when every file operation succeeds. -/
def contactsAnswer (db : ContactsDb) : ContactsCall → ContactsAnswer
  | .verifyOrPin username identityPk =>
      let call := chatContactsVerifyOrPin .works db username identityPk
      { result := call.result, isNewContact := call.isNewContact }
  | .loadPublicKey username =>
      let call := chatContactsLoadPublicKey .works db username
      { result := call.1, identityPk := call.2 }

/-- The file after a call. -/
def contactsStep (db : ContactsDb) : ContactsCall → ContactsDb
  | .verifyOrPin username identityPk =>
      (chatContactsVerifyOrPin .works db username identityPk).db
  | .loadPublicKey _ => db

/-! ## The abstract store -/

/-- The key that a call offers for a name. -/
def ContactsCall.offered (username : Str) : ContactsCall → Option (Bytes 32)
  | .verifyOrPin name identityPk => if name = username then some identityPk else none
  | .loadPublicKey _ => none

/-- The first key that was offered for a name. -/
def firstKey (username : Str) (calls : List ContactsCall) : Option (Bytes 32) :=
  calls.findSome? (ContactsCall.offered username)

/-- The answer of a store that trusts the first key of a name. -/
def trustedAnswer (trusted : Option (Bytes 32)) : ContactsCall → ContactsAnswer
  | .verifyOrPin _ identityPk =>
      match trusted with
      | none => { result := .ok, isNewContact := true }
      | some first =>
          if identityPk = first then { result := .ok } else { result := .mismatch }
  | .loadPublicKey _ =>
      match trusted with
      | none => { result := .notFound }
      | some first => { result := .ok, identityPk := some first }

theorem firstKey_append (username : Str) (calls : List ContactsCall)
    (call : ContactsCall) :
    firstKey username (calls ++ [call]) =
      (firstKey username calls).or (call.offered username) := by
  simp [firstKey, List.findSome?_append, List.findSome?_cons]
  cases call.offered username <;> rfl

theorem offered_of_ne {username : Str} (call : ContactsCall)
    (hname : call.username ≠ username) : call.offered username = none := by
  cases call with
  | verifyOrPin name identityPk => exact if_neg hname
  | loadPublicKey name => rfl

theorem firstKey_append_of_ne {username : Str} (calls : List ContactsCall)
    (call : ContactsCall) (hname : call.username ≠ username) :
    firstKey username (calls ++ [call]) = firstKey username calls := by
  rw [firstKey_append, offered_of_ne call hname, Option.or_none]

/-! ## The file refines the store -/

/-- A call on a file of pinned contacts, when every file operation succeeds. -/
theorem verifyOrPin_works {db : ContactsDb} {contacts : List (Str × Bytes 32)}
    (hpins : Pins db contacts) {username : Str}
    (hvalid : chatUsernameIsValid username = true) (identityPk : Bytes 32) :
    chatContactsVerifyOrPin .works db username identityPk =
      match contacts.lookup username with
      | some first =>
          if first = identityPk then ⟨.ok, false, db⟩ else ⟨.mismatch, false, db⟩
      | none =>
          ⟨.ok, true, some (db.getD [] ++ contactLine username identityPk)⟩ := by
  have hfind : findContact .works db username =
      (.ok, contacts.lookup username) :=
    findContact_pins hpins (by decide) username
  unfold chatContactsVerifyOrPin
  rw [if_neg (by simp [hvalid]), hfind]
  cases contacts.lookup username with
  | some first => rfl
  | none =>
      simp only [appendContact, if_neg (appendContact_fits hvalid identityPk),
        beq_self_eq_true]

theorem Pins.append {db : ContactsDb} {contacts : List (Str × Bytes 32)}
    (hpins : Pins db contacts) {username : Str}
    (hvalid : chatUsernameIsValid username = true) (identityPk : Bytes 32) :
    Pins (some (db.getD [] ++ contactLine username identityPk))
      (contacts ++ [(username, identityPk)]) where
  valid := List.forall_mem_append.mpr
    ⟨hpins.valid, List.forall_mem_singleton.mpr hvalid⟩
  text := by simp [hpins.text, contactsText]

/-- The file holds the first key of every name. -/
def Trusts (calls : List ContactsCall) (db : ContactsDb) : Prop :=
  ∃ contacts, Pins db contacts ∧ ∀ username,
    chatUsernameIsValid username = true →
      contacts.lookup username = firstKey username calls

theorem trusts_nil {db : ContactsDb} (hempty : db.getD [] = []) : Trusts [] db :=
  ⟨[], ⟨by simp, hempty⟩, fun _ _ => rfl⟩

theorem trusts_step {calls : List ContactsCall} {db : ContactsDb}
    (htrusts : Trusts calls db) (call : ContactsCall) :
    Trusts (calls ++ [call]) (contactsStep db call) := by
  obtain ⟨contacts, hpins, hfirst⟩ := htrusts
  cases call with
  | loadPublicKey username =>
      refine ⟨contacts, hpins, fun name hname => ?_⟩
      rw [firstKey_append, hfirst name hname]
      exact (Option.or_none).symm
  | verifyOrPin username identityPk =>
      cases hvalid : chatUsernameIsValid username with
      | false =>
          -- A refused name pins nothing, and no valid name is equal to it.
          refine ⟨contacts, ?_, fun name hname => ?_⟩
          · simpa [contactsStep, chatContactsVerifyOrPin, hvalid] using hpins
          · have hne : username ≠ name := by
              rintro rfl
              rw [hvalid] at hname
              exact absurd hname (by decide)
            rw [firstKey_append_of_ne calls (.verifyOrPin _ _) hne]
            exact hfirst name hname
      | true =>
          have hcall := verifyOrPin_works hpins hvalid identityPk
          cases hlookup : contacts.lookup username with
          | some first =>
              refine ⟨contacts, ?_, fun name hname => ?_⟩
              · have hdb : contactsStep db (.verifyOrPin username identityPk) = db := by
                  simp only [contactsStep, hcall, hlookup]
                  split_ifs <;> rfl
                rw [hdb]
                exact hpins
              · by_cases hsame : username = name
                · subst hsame
                  rw [firstKey_append, ← hfirst username hname, hlookup]
                  rfl
                · rw [firstKey_append_of_ne calls (.verifyOrPin _ _) hsame]
                  exact hfirst name hname
          | none =>
              refine ⟨contacts ++ [(username, identityPk)], ?_, fun name hname => ?_⟩
              · have hpinned := hpins.append hvalid identityPk
                simpa only [contactsStep, hcall, hlookup] using hpinned
              · by_cases hsame : username = name
                · subst hsame
                  rw [firstKey_append, ← hfirst username hname, hlookup]
                  simp [List.lookup_append, hlookup, ContactsCall.offered]
                · have hbeq : (name == username) = false := by
                    simpa using Ne.symm hsame
                  rw [firstKey_append_of_ne calls (.verifyOrPin _ _) hsame,
                    ← hfirst name hname]
                  simp [List.lookup_append, List.lookup_cons, hbeq]

theorem trusts_run {db : ContactsDb} (hempty : db.getD [] = [])
    (calls : List ContactsCall) :
    Trusts calls (Transition.run contactsStep db calls) := by
  induction calls using List.reverseRecOn with
  | nil => exact trusts_nil hempty
  | append_singleton calls call ih =>
      rw [Transition.run_append]
      exact trusts_step ih call

/-- A file that holds the first keys answers as the abstract store. -/
theorem contactsAnswer_eq {calls : List ContactsCall} {db : ContactsDb}
    (htrusts : Trusts calls db) {call : ContactsCall}
    (hvalid : chatUsernameIsValid call.username = true) :
    contactsAnswer db call = trustedAnswer (firstKey call.username calls) call := by
  obtain ⟨contacts, hpins, hfirst⟩ := htrusts
  have hlookup := hfirst call.username hvalid
  cases call with
  | verifyOrPin username identityPk =>
      have hcall := verifyOrPin_works hpins hvalid identityPk
      simp only [ContactsCall.username] at hcall hlookup ⊢
      rw [← hlookup, contactsAnswer, hcall]
      cases contacts.lookup username with
      | none => rfl
      | some first =>
          by_cases hsame : first = identityPk
          · simp [trustedAnswer, hsame]
          · simp [trustedAnswer, hsame, Ne.symm hsame]
  | loadPublicKey username =>
      have hfind : findContact .works db username =
          (.ok, contacts.lookup username) :=
        findContact_pins hpins (by decide) username
      simp only [ContactsCall.username] at hvalid hlookup ⊢
      rw [← hlookup, contactsAnswer, chatContactsLoadPublicKey,
        if_neg (by simp [hvalid]), hfind]
      cases contacts.lookup username <;> rfl

/-- A name that is not valid is refused by every call. -/
theorem contactsAnswer_invalid {call : ContactsCall}
    (hvalid : chatUsernameIsValid call.username = false) (db : ContactsDb) :
    contactsAnswer db call = { result := .invalid } := by
  cases call <;>
    simp_all [contactsAnswer, chatContactsVerifyOrPin, chatContactsLoadPublicKey,
      ContactsCall.username]

/-- Over every sequence of calls on a missing or empty file, the calls for a
valid name are answered by the first key that was offered for it, and a call
for one name changes no answer for another. -/
theorem trust_on_first_use {db : ContactsDb} (hempty : db = none ∨ db = some [])
    (calls : List ContactsCall) (call : ContactsCall) :
    (chatUsernameIsValid call.username = true →
      contactsAnswer (Transition.run contactsStep db calls) call =
        trustedAnswer (firstKey call.username calls) call) ∧
    ∀ other : ContactsCall, other.username ≠ call.username →
      contactsAnswer (Transition.run contactsStep db (calls ++ [other])) call =
        contactsAnswer (Transition.run contactsStep db calls) call := by
  have hdb : db.getD [] = [] := by
    rcases hempty with rfl | rfl <;> rfl
  have hrun := trusts_run hdb
  refine ⟨fun hvalid => contactsAnswer_eq (hrun calls) hvalid, ?_⟩
  intro other hother
  cases hvalid : chatUsernameIsValid call.username with
  | false => rw [contactsAnswer_invalid hvalid, contactsAnswer_invalid hvalid]
  | true =>
      rw [contactsAnswer_eq (hrun calls) hvalid,
        contactsAnswer_eq (hrun (calls ++ [other])) hvalid,
        firstKey_append_of_ne calls other hother]

/-- Another key for a pinned name is refused, whatever is looked up meanwhile. -/
theorem trust_on_first_use_bob :
    let bob := bytes "bob"
    let calls := [ContactsCall.verifyOrPin bob (zeroBytes 32)]
    let call := ContactsCall.verifyOrPin bob (List.Vector.replicate 32 1)
    contactsAnswer (Transition.run contactsStep none calls) call =
        { result := .mismatch } ∧
      contactsAnswer (Transition.run contactsStep none
          (calls ++ [.loadPublicKey (bytes "carol")])) call =
        contactsAnswer (Transition.run contactsStep none calls) call := by
  intro bob calls call
  obtain ⟨hanswer, hother⟩ := trust_on_first_use (Or.inl rfl) calls call
  have htrusted : trustedAnswer (firstKey call.username calls) call =
      { result := .mismatch } := by
    decide +kernel
  exact ⟨(hanswer (by decide +kernel)).trans htrusted,
    hother (.loadPublicKey (bytes "carol")) (by decide +kernel)⟩

end ProntoChat.Contacts
