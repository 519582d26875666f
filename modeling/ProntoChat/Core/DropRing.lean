import Mathlib

/-!
# Bounded rings that drop their oldest entry

A ring stores at most `capacity` entries in a circular array.  Pushing into a
full ring first discards the oldest entry.  The structure carries its own
bounds, and `toList` reads the stored window in arrival order: pushing appends
at the end, taking removes the head, and an overflow removes the head before
it appends.
-/

namespace ProntoChat

/-- A circular array with the position of its oldest entry and the number of
entries it holds. -/
structure DropRing (α : Type*) (capacity : ℕ) where
  slots : Fin capacity → α
  head : Fin capacity
  count : ℕ
  count_le : count ≤ capacity

namespace DropRing

variable {α : Type*} {capacity : ℕ} [NeZero capacity]

/-- The array position `offset` places after the oldest entry. -/
def slotAt (ring : DropRing α capacity) (offset : ℕ) : Fin capacity :=
  Fin.ofNat capacity (ring.head.val + offset)

def empty (blank : α) : DropRing α capacity where
  slots := fun _ => blank
  head := 0
  count := 0
  count_le := Nat.zero_le _

/-- The stored entries, oldest first. -/
def toList (ring : DropRing α capacity) : List α :=
  (List.range ring.count).map fun offset => ring.slots (ring.slotAt offset)

/-- Overwrite the oldest slot with `blank` and move past it. -/
def dropOldest (blank : α) (ring : DropRing α capacity) :
    DropRing α capacity where
  slots := Function.update ring.slots ring.head blank
  head := ring.slotAt 1
  count := ring.count - 1
  count_le := (Nat.sub_le _ _).trans ring.count_le

/-- Store an entry behind the newest one of a ring that has room. -/
def pushFree (ring : DropRing α capacity) (entry : α)
    (hroom : ring.count < capacity) : DropRing α capacity where
  slots := Function.update ring.slots (ring.slotAt ring.count) entry
  head := ring.head
  count := ring.count + 1
  count_le := hroom

/-- Store an entry, discarding the oldest one first when the ring is full. -/
def push (blank : α) (ring : DropRing α capacity) (entry : α) :
    DropRing α capacity :=
  if hfull : capacity ≤ ring.count then
    (ring.dropOldest blank).pushFree entry (by
      have hpos := Nat.pos_of_neZero capacity
      have hle := ring.count_le
      simp only [dropOldest]
      omega)
  else
    ring.pushFree entry (Nat.lt_of_not_le hfull)

/-- Remove the oldest entry, if there is one. -/
def take (blank : α) (ring : DropRing α capacity) :
    Option (α × DropRing α capacity) :=
  if ring.count = 0 then none
  else some (ring.slots ring.head, ring.dropOldest blank)

@[simp]
theorem length_toList (ring : DropRing α capacity) :
    ring.toList.length = ring.count := by
  simp [toList]

@[simp]
theorem toList_empty (blank : α) :
    (empty blank : DropRing α capacity).toList = [] := rfl

theorem toList_length_le (ring : DropRing α capacity) :
    ring.toList.length ≤ capacity := by
  simpa using ring.count_le

@[simp]
theorem slotAt_zero (ring : DropRing α capacity) :
    ring.slotAt 0 = ring.head := by
  apply Fin.ext
  simp [slotAt]

/-- Offsets below the capacity address pairwise different slots. -/
theorem slotAt_injOn (ring : DropRing α capacity) {left right : ℕ}
    (hleft : left < capacity) (hright : right < capacity)
    (heq : ring.slotAt left = ring.slotAt right) : left = right := by
  have hmod : (ring.head.val + left) % capacity =
      (ring.head.val + right) % capacity := congrArg Fin.val heq
  have hcancel : left % capacity = right % capacity :=
    Nat.ModEq.add_left_cancel' _ hmod
  rwa [Nat.mod_eq_of_lt hleft, Nat.mod_eq_of_lt hright] at hcancel

theorem slotAt_dropOldest (blank : α) (ring : DropRing α capacity)
    (offset : ℕ) :
    (ring.dropOldest blank).slotAt offset = ring.slotAt (offset + 1) := by
  apply Fin.ext
  simp only [slotAt, dropOldest, Fin.val_ofNat, Nat.mod_add_mod]
  congr 1
  omega

theorem toList_dropOldest (blank : α) (ring : DropRing α capacity) :
    (ring.dropOldest blank).toList = ring.toList.tail := by
  rcases hcount : ring.count with _ | stored
  · simp [toList, dropOldest, hcount]
  · have hle := ring.count_le
    have hrange : ring.toList.tail = (List.range stored).map fun offset =>
        ring.slots (ring.slotAt (offset + 1)) := by
      simp [toList, hcount, List.range_succ_eq_map, Function.comp_def]
    rw [hrange]
    simp only [toList, slotAt_dropOldest]
    have hdrop : (ring.dropOldest blank).count = stored := by
      simp [dropOldest, hcount]
    rw [hdrop]
    apply List.map_congr_left
    intro offset hoffset
    have hlt : offset < stored := List.mem_range.mp hoffset
    have hne : ring.slotAt (offset + 1) ≠ ring.head := by
      intro heq
      rw [← slotAt_zero] at heq
      have := slotAt_injOn ring (by omega) (by omega) heq
      omega
    simp [dropOldest, hne]

theorem toList_pushFree (ring : DropRing α capacity) (entry : α)
    (hroom : ring.count < capacity) :
    (ring.pushFree entry hroom).toList = ring.toList ++ [entry] := by
  have hslot : ∀ offset, (ring.pushFree entry hroom).slotAt offset =
      ring.slotAt offset := fun _ => rfl
  simp only [toList, hslot]
  rw [show (ring.pushFree entry hroom).count = ring.count + 1 from rfl,
    List.range_succ, List.map_append]
  congr 1
  · apply List.map_congr_left
    intro offset hoffset
    have hlt : offset < ring.count := List.mem_range.mp hoffset
    have hne : ring.slotAt offset ≠ ring.slotAt ring.count := by
      intro heq
      have := slotAt_injOn ring (by omega) hroom heq
      omega
    simp [pushFree, hne]
  · simp [pushFree]

theorem toList_push_of_lt (blank : α) (ring : DropRing α capacity) (entry : α)
    (hroom : ring.toList.length < capacity) :
    (ring.push blank entry).toList = ring.toList ++ [entry] := by
  have hcount : ¬ capacity ≤ ring.count := by
    simpa using hroom
  simp only [push, hcount, dite_false]
  exact toList_pushFree ring entry _

theorem toList_push_of_full (blank : α) (ring : DropRing α capacity)
    (entry : α) (hfull : ring.toList.length = capacity) :
    (ring.push blank entry).toList = ring.toList.tail ++ [entry] := by
  have hcount : capacity ≤ ring.count := by
    simp only [length_toList] at hfull
    omega
  simp only [push, hcount, dite_true]
  rw [toList_pushFree, toList_dropOldest]

theorem take_eq_none_iff (blank : α) (ring : DropRing α capacity) :
    ring.take blank = none ↔ ring.toList = [] := by
  rw [← List.length_eq_zero_iff, length_toList]
  simp [take]

/-- Taking returns the head of the stored list and leaves its tail. -/
theorem toList_of_take_eq_some {blank : α} {ring : DropRing α capacity}
    {entry : α} {rest : DropRing α capacity} (htake : ring.take blank = some (entry, rest)) :
    ring.toList = entry :: rest.toList := by
  rcases hcount : ring.count with _ | stored
  · simp [take, hcount] at htake
  · simp only [take, hcount, Nat.succ_ne_zero, if_false, Option.some.injEq,
      Prod.mk.injEq] at htake
    obtain ⟨hentry, hrest⟩ := htake
    rw [← hentry, ← hrest, toList_dropOldest]
    simp [toList, hcount, List.range_succ_eq_map]

/-! ## The queue that a ring implements -/

/-- Append to a queue of bounded length, which forgets its oldest entry when it
is full. -/
def enqueue (capacity : ℕ) (queue : List α) (entry : α) : List α :=
  (if capacity ≤ queue.length then queue.tail else queue) ++ [entry]

theorem toList_push (blank : α) (ring : DropRing α capacity) (entry : α) :
    (ring.push blank entry).toList = enqueue capacity ring.toList entry := by
  unfold enqueue
  split_ifs with hfull
  · exact toList_push_of_full blank ring entry (le_antisymm ring.toList_length_le hfull)
  · exact toList_push_of_lt blank ring entry (Nat.lt_of_not_le hfull)

/-- The slots outside the stored window are blank. -/
def Cleared (blank : α) (ring : DropRing α capacity) : Prop :=
  ∀ offset, ring.count ≤ offset → offset < capacity →
    ring.slots (ring.slotAt offset) = blank

theorem cleared_empty (blank : α) : Cleared blank (empty blank : DropRing α capacity) :=
  fun _ _ _ => rfl

/-- The slot that leaves the window is overwritten. -/
theorem Cleared.dropOldest {blank : α} {ring : DropRing α capacity}
    (hcleared : ring.Cleared blank) : (ring.dropOldest blank).Cleared blank := by
  intro offset hcount hoffset
  rw [slotAt_dropOldest]
  by_cases hhead : ring.slotAt (offset + 1) = ring.head
  · simp [DropRing.dropOldest, hhead]
  · have hnext : offset + 1 < capacity := by
      refine lt_of_le_of_ne hoffset fun hlast => hhead ?_
      apply Fin.ext
      simp [slotAt, hlast, Nat.mod_eq_of_lt ring.head.isLt]
    have hoff : ring.count ≤ offset + 1 := by
      simp only [DropRing.dropOldest] at hcount
      omega
    simp only [DropRing.dropOldest, Function.update_of_ne hhead]
    exact hcleared (offset + 1) hoff hnext

theorem Cleared.pushFree {blank : α} {ring : DropRing α capacity}
    (hcleared : ring.Cleared blank) (entry : α) (hroom : ring.count < capacity) :
    (ring.pushFree entry hroom).Cleared blank := by
  intro offset hcount hoffset
  have hcount : ring.count + 1 ≤ offset := hcount
  have hne : ring.slotAt offset ≠ ring.slotAt ring.count := by
    intro heq
    have := slotAt_injOn ring hoffset hroom heq
    omega
  have hslot : (ring.pushFree entry hroom).slotAt offset = ring.slotAt offset := rfl
  rw [hslot]
  simp only [DropRing.pushFree, Function.update_of_ne hne]
  exact hcleared offset (by omega) hoffset

/-- A slot is in the window, or it is reached behind the window. -/
theorem exists_offset (ring : DropRing α capacity) (index : Fin capacity) :
    ∃ offset < capacity, ring.slotAt offset = index := by
  have hpos := Nat.pos_of_neZero capacity
  refine ⟨(index.val + (capacity - ring.head.val)) % capacity,
    Nat.mod_lt _ hpos, Fin.ext ?_⟩
  have hhead := ring.head.isLt
  have hsum : ring.head.val + (index.val + (capacity - ring.head.val)) =
      index.val + capacity := by omega
  simp only [slotAt, Fin.val_ofNat, Nat.add_mod_mod, hsum, Nat.add_mod_right]
  exact Nat.mod_eq_of_lt index.isLt

end DropRing

end ProntoChat
