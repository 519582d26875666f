import Mathlib

/-!
# Buffers of a fixed size

A store behind the end of a buffer has no result, so stores that have one
stayed inside it.
-/

namespace ProntoChat.Buffer

variable {α : Type*}

/-- Store one entry. -/
def store (buffer : List α) (offset : ℕ) (entry : α) : Option (List α) :=
  if offset < buffer.length then some (buffer.set offset entry) else none

/-- Store entries one after the other. -/
def storeAll (buffer : List α) (offset : ℕ) : List α → Option (List α)
  | [] => some buffer
  | entry :: entries =>
      (store buffer offset entry).bind fun next => storeAll next (offset + 1) entries

theorem store_append (front back : List α) (old entry : α) :
    store (front ++ old :: back) front.length entry =
      some (front ++ entry :: back) := by
  simp [store, List.set_append_right]

/-- Entries replace as many others. -/
theorem storeAll_append {entries middle : List α}
    (hlength : middle.length = entries.length) (front back : List α) :
    storeAll (front ++ (middle ++ back)) front.length entries =
      some (front ++ (entries ++ back)) := by
  induction entries generalizing front middle with
  | nil =>
      obtain rfl := List.length_eq_zero_iff.mp hlength
      rfl
  | cons entry entries ih =>
      obtain ⟨old, middle, rfl⟩ := List.exists_cons_of_length_eq_add_one hlength
      have htail : middle.length = entries.length := by simpa using hlength
      have hfront : front.length + 1 = (front ++ [entry]).length := by simp
      rw [storeAll, List.cons_append, store_append, Option.bind_some, hfront,
        show front ++ entry :: (middle ++ back) = (front ++ [entry]) ++ (middle ++ back) by
          simp,
        ih htail]
      simp

/-- Entries that fit are stored, and nothing else changes. -/
theorem storeAll_of_le {buffer entries : List α} {offset : ℕ}
    (hfits : offset + entries.length ≤ buffer.length) :
    storeAll buffer offset entries =
      some (buffer.take offset ++ (entries ++ buffer.drop (offset + entries.length))) := by
  have hsplit : buffer = buffer.take offset ++
      ((buffer.drop offset).take entries.length ++
        buffer.drop (offset + entries.length)) := by
    rw [← List.drop_drop, List.take_append_drop, List.take_append_drop]
  have hoffset : (buffer.take offset).length = offset := by
    rw [List.length_take]
    omega
  have hmiddle : ((buffer.drop offset).take entries.length).length = entries.length := by
    rw [List.length_take, List.length_drop]
    omega
  have hstored := storeAll_append hmiddle (buffer.take offset)
    (buffer.drop (offset + entries.length))
  rw [← hsplit, hoffset] at hstored
  exact hstored

/-- A table with one entry for each index of a finite range. -/
theorem getElem?_ofFn_val {n : ℕ} (table : Fin n → α) (index : Fin n) :
    (List.ofFn table)[index.val]? = some (table index) := by
  simp

theorem store_ofFn {n : ℕ} (table : Fin n → α) (index : Fin n) (entry : α) :
    store (List.ofFn table) index.val entry =
      some (List.ofFn (Function.update table index entry)) := by
  rw [store, if_pos (by simp), Option.some.injEq]
  apply List.ext_getElem (by simp)
  intro place hleft hright
  have hplace : place < n := by simpa using hright
  by_cases hsame : index.val = place
  · obtain rfl : index = ⟨place, hplace⟩ := Fin.ext hsame
    simp
  · have hne : (⟨place, hplace⟩ : Fin n) ≠ index := fun heq =>
      hsame (congrArg Fin.val heq).symm
    simp [List.getElem_set_of_ne hsame, Function.update_of_ne hne]

/-- Entries are stored at the front. -/
theorem storeAll_zero {buffer entries : List α} (hfits : entries.length ≤ buffer.length) :
    storeAll buffer 0 entries = some (entries ++ buffer.drop entries.length) := by
  rw [storeAll_of_le (by omega), List.take_zero, List.nil_append, Nat.zero_add]

end ProntoChat.Buffer
