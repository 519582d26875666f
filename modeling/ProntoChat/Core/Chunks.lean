import Mathlib

/-!
# Texts that arrive in parts

A text of terminated lines is read in parts, and a part need not end where a line
ends.  The first line is then carried by some pieces, and it is whole when only one
of them is not empty.
-/

namespace ProntoChat.Chunks

variable {α : Type*} {stop : α} {parts : List (List α)} {body : List α}

/-- A text in front of others ends inside the first line or behind its terminator. -/
theorem append_eq_line_iff {front back rest : List α} :
    front ++ back = body ++ stop :: rest ↔
      (∃ middle, body = front ++ middle ∧ back = middle ++ stop :: rest) ∨
        ∃ middle, front = body ++ stop :: middle ∧ rest = middle ++ back := by
  rw [List.append_eq_append_iff]
  constructor
  · rintro (⟨middle, hbody, hback⟩ | ⟨middle, hfront, hrest⟩)
    · exact Or.inl ⟨middle, hbody, hback⟩
    · rcases List.cons_eq_append_iff.mp hrest with ⟨rfl, hback⟩ | ⟨more, rfl, hmore⟩
      · refine Or.inl ⟨[], ?_, hback⟩
        rw [hfront, List.append_nil, List.append_nil]
      · exact Or.inr ⟨more, hfront, hmore⟩
  · rintro (⟨middle, hbody, hback⟩ | ⟨middle, hfront, hrest⟩)
    · exact Or.inl ⟨middle, hbody, hback⟩
    · exact Or.inr ⟨stop :: middle, hfront, by rw [hrest]; rfl⟩

/-- The parts with the first terminator, and what stands around it. -/
theorem exists_first_stop {rest : List α} (hbody : stop ∉ body)
    (hparts : parts.flatten = body ++ stop :: rest) :
    ∃ front head tail back, parts = front ++ (head ++ stop :: tail) :: back ∧
      (front ++ [head]).flatten = body ∧ (tail :: back).flatten = rest := by
  induction parts generalizing body with
  | nil => simp at hparts
  | cons part parts ih =>
      rw [List.flatten_cons, append_eq_line_iff] at hparts
      rcases hparts with ⟨middle, rfl, hrest⟩ | ⟨middle, rfl, rfl⟩
      · obtain ⟨front, head, tail, back, rfl, hhead, htail⟩ :=
          ih (fun hmem => hbody (List.mem_append_right _ hmem)) hrest
        exact ⟨part :: front, head, tail, back, rfl, by simp [← hhead], htail⟩
      · exact ⟨[], body, middle, parts, rfl, by simp, rfl⟩

/-! ## Whole lines -/

/-- The parts of a line that are not empty. -/
def pieces (parts : List (List α)) : List (List α) := parts.filter (!·.isEmpty)

theorem ne_nil_of_mem_pieces {piece : List α} (hpiece : piece ∈ pieces parts) :
    piece ≠ [] := by
  have hnonempty := (List.mem_filter.mp hpiece).2
  simpa using hnonempty

theorem flatten_pieces (parts : List (List α)) : (pieces parts).flatten = parts.flatten :=
  List.flatten_filter_not_isEmpty

theorem pieces_eq_nil (hparts : parts.flatten = []) : pieces parts = [] := by
  rw [List.flatten_eq_nil_iff] at hparts
  simpa [pieces] using hparts

/-- A line has one piece exactly when no part ends inside it. -/
theorem pieces_eq_singleton_iff (hparts : parts.flatten = body) (hbody : body ≠ []) :
    pieces parts = [body] ↔
      ∀ front back, parts = front ++ back →
        front.flatten = [] ∨ front.flatten = body := by
  induction parts with
  | nil => exact absurd hparts.symm hbody
  | cons part parts ih =>
      rw [List.flatten_cons] at hparts
      by_cases hpart : part = []
      · subst hpart
        rw [List.nil_append] at hparts
        have hpieces : pieces ([] :: parts) = pieces parts := by simp [pieces]
        rw [hpieces, ih hparts]
        constructor
        · intro hsplit front back hshape
          rcases List.cons_eq_append_iff.mp hshape with ⟨rfl, _⟩ | ⟨rest, rfl, hrest⟩
          · exact Or.inl rfl
          · exact hsplit rest back hrest
        · intro hsplit front back hshape
          exact hsplit ([] :: front) back (by rw [hshape]; rfl)
      · have hpieces : pieces (part :: parts) = part :: pieces parts := by
          simp [pieces, hpart]
        rw [hpieces]
        constructor
        · intro hwhole front back hshape
          obtain ⟨rfl, _⟩ := List.cons.inj hwhole
          rcases List.cons_eq_append_iff.mp hshape with ⟨rfl, _⟩ | ⟨rest, rfl, rfl⟩
          · exact Or.inl rfl
          · rw [List.flatten_append] at hparts
            have hrest := List.append_right_eq_self.mp hparts
            rw [List.append_eq_nil_iff] at hrest
            exact Or.inr (by simp [hrest.1])
        · intro hsplit
          have hfirst := hsplit [part] parts rfl
          rw [List.flatten_singleton] at hfirst
          obtain rfl := hfirst.resolve_left hpart
          rw [pieces_eq_nil (List.append_right_eq_self.mp hparts)]

/-- No part ends inside one of the lines that stand in front of `limit`. -/
def Unbroken (stop : α) (limit : ℕ) (parts : List (List α)) : Prop :=
  ∀ front back, parts = front ++ back → front.flatten.length < limit →
    front.flatten = [] ∨ front.flatten.getLast? = some stop ∨
      back.flatten.head? = some stop

theorem unbroken_zero (parts : List (List α)) : Unbroken stop 0 parts :=
  fun _ _ _ hlimit => absurd hlimit (Nat.not_lt_zero _)

section FirstLine

variable {front back : List (List α)} {head tail : List α} {limit : ℕ}

/-- The first line is whole. -/
theorem Unbroken.first_whole (hstop : stop ∉ body)
    (hbody : (front ++ [head]).flatten = body)
    (hunbroken : Unbroken stop ((body ++ [stop]).length + limit)
      (front ++ (head ++ stop :: tail) :: back)) :
    ∀ first second, front ++ [head] = first ++ second →
      first.flatten = [] ∨ first.flatten = body := by
  intro first second hshape
  rcases List.eq_nil_or_concat second with rfl | ⟨middle, last, rfl⟩
  · rw [List.append_nil] at hshape
    exact Or.inr (hshape ▸ hbody)
  · rw [List.concat_eq_append, ← List.append_assoc] at hshape
    obtain ⟨rfl, hlast⟩ := List.append_inj' hshape rfl
    obtain rfl : head = last := by simpa using hlast
    have hflat : first.flatten ++ (middle.flatten ++ head) = body := by
      simpa using hbody
    have hrest : (middle ++ (head ++ stop :: tail) :: back).flatten =
        (middle.flatten ++ head) ++ stop :: (tail ++ back.flatten) := by
      simp
    have hcut := hunbroken first (middle ++ (head ++ stop :: tail) :: back)
      (by simp) (by
        simp only [← hflat, List.length_append, List.length_singleton]
        omega)
    rw [hrest] at hcut
    rcases hcut with hnil | hlast | hnext
    · exact Or.inl hnil
    · refine absurd ?_ hstop
      rw [← hflat]
      exact List.mem_append_left _ (List.mem_of_getLast? hlast)
    · right
      cases hopen : middle.flatten ++ head with
      | nil => rw [← hflat, hopen, List.append_nil]
      | cons byte rest =>
          refine absurd ?_ hstop
          rw [hopen] at hnext
          obtain rfl : byte = stop := by simpa using hnext
          rw [← hflat, hopen]
          exact List.mem_append_right _ List.mem_cons_self

/-- The lines behind the first one are not broken. -/
theorem Unbroken.behind_first (hbody : (front ++ [head]).flatten = body)
    (hunbroken : Unbroken stop ((body ++ [stop]).length + limit)
      (front ++ (head ++ stop :: tail) :: back)) :
    Unbroken stop limit (tail :: back) := by
  intro first second hshape hlimit
  rcases List.cons_eq_append_iff.mp hshape with ⟨rfl, _⟩ | ⟨rest, rfl, rfl⟩
  · exact Or.inl rfl
  · have hflat : (front ++ (head ++ stop :: tail) :: rest).flatten =
        (body ++ [stop]) ++ (tail :: rest).flatten := by
      simp [← hbody]
    have hcut := hunbroken (front ++ (head ++ stop :: tail) :: rest) second
      (by simp) (by rw [hflat, List.length_append]; omega)
    rw [hflat] at hcut
    rcases hcut with hnil | hlast | hnext
    · simp at hnil
    · by_cases hempty : (tail :: rest).flatten = []
      · exact Or.inl hempty
      · rw [List.getLast?_append_of_ne_nil _ hempty] at hlast
        exact Or.inr (Or.inl hlast)
    · exact Or.inr (Or.inr hnext)

theorem unbroken_of_first (hbody : (front ++ [head]).flatten = body)
    (hwhole : ∀ first second, front ++ [head] = first ++ second →
      first.flatten = [] ∨ first.flatten = body)
    (hunbroken : Unbroken stop limit (tail :: back)) :
    Unbroken stop ((body ++ [stop]).length + limit)
      (front ++ (head ++ stop :: tail) :: back) := by
  have hflat : front.flatten ++ head = body := by simpa using hbody
  intro first second hshape hlimit
  rcases List.append_eq_append_iff.mp hshape with
    ⟨middle, rfl, hmiddle⟩ | ⟨middle, rfl, rfl⟩
  · rcases List.cons_eq_append_iff.mp hmiddle with ⟨rfl, rfl⟩ | ⟨rest, rfl, rfl⟩
    · -- the cut stands in front of the part with the terminator
      rw [List.append_nil]
      rcases hwhole front [head] rfl with hnil | hall
      · exact Or.inl hnil
      · have hhead : head = [] := List.append_right_eq_self.mp (by rw [hflat, hall])
        exact Or.inr (Or.inr (by simp [hhead]))
    · have hpassed : (front ++ (head ++ stop :: tail) :: rest).flatten =
          (body ++ [stop]) ++ (tail :: rest).flatten := by
        simp [← hflat]
      rw [hpassed, List.length_append] at hlimit
      rw [hpassed]
      rcases hunbroken (tail :: rest) second rfl (by omega) with hnil | hlast | hnext
      · exact Or.inr (Or.inl (by simp [hnil]))
      · refine Or.inr (Or.inl ?_)
        rw [List.getLast?_append_of_ne_nil _
          (List.ne_nil_of_mem (List.mem_of_getLast? hlast)), hlast]
      · exact Or.inr (Or.inr hnext)
  · rcases hwhole first (middle ++ [head]) (List.append_assoc _ _ _) with hnil | hall
    · exact Or.inl hnil
    · rw [List.flatten_append, hall, List.append_assoc] at hflat
      have hrest := List.append_right_eq_self.mp hflat
      rw [List.append_eq_nil_iff] at hrest
      exact Or.inr (Or.inr (by simp [hrest]))

/-- No line is broken exactly when the first one is one piece and no later one is
broken. -/
theorem unbroken_line_iff (hstop : stop ∉ body) (hnonempty : body ≠ [])
    (hbody : (front ++ [head]).flatten = body) :
    Unbroken stop ((body ++ [stop]).length + limit)
        (front ++ (head ++ stop :: tail) :: back) ↔
      pieces (front ++ [head]) = [body] ∧ Unbroken stop limit (tail :: back) := by
  rw [pieces_eq_singleton_iff hbody hnonempty]
  constructor
  · intro hunbroken
    exact ⟨hunbroken.first_whole hstop hbody, hunbroken.behind_first hbody⟩
  · rintro ⟨hwhole, hunbroken⟩
    exact unbroken_of_first hbody hwhole hunbroken

end FirstLine

/-! ## Weights -/

section Weights

variable {weight : List α → ℕ} {overhead : ℕ}

/-- Every piece but a worthless one is worth at most its length without the
overhead, and so are all of them together. -/
theorem sum_weight_le
    (hweight : ∀ part ∈ parts, weight part = 0 ∨ weight part + overhead ≤ part.length) :
    (parts.map weight).sum = 0 ∨
      (parts.map weight).sum + overhead ≤ parts.flatten.length := by
  induction parts with
  | nil => exact Or.inl rfl
  | cons part parts ih =>
      obtain ⟨hpart, hparts⟩ := List.forall_mem_cons.mp hweight
      have hrest := ih hparts
      simp only [List.map_cons, List.sum_cons, List.flatten_cons, List.length_append]
      omega

theorem sum_weight_pieces (hempty : weight [] = 0) (parts : List (List α)) :
    ((pieces parts).map weight).sum = (parts.map weight).sum := by
  induction parts with
  | nil => rfl
  | cons part parts ih =>
      unfold pieces at ih ⊢
      cases part with
      | nil => simpa [hempty] using ih
      | cons byte part => simpa using ih

/-- Pieces that are worth as much as the whole line are only one. -/
theorem eq_singleton_of_sum (hoverhead : 0 < overhead)
    (hnonempty : ∀ part ∈ parts, part ≠ [])
    (hweight : ∀ part ∈ parts, weight part = 0 ∨ weight part + overhead ≤ part.length)
    (hpositive : 0 < (parts.map weight).sum)
    (hsum : parts.flatten.length ≤ (parts.map weight).sum + overhead) :
    parts = [parts.flatten] := by
  cases parts with
  | nil => simp at hpositive
  | cons part parts =>
      cases parts with
      | nil => simp
      | cons other parts =>
          exfalso
          obtain ⟨hpart, hrest⟩ := List.forall_mem_cons.mp hweight
          have hshort := sum_weight_le hrest
          have hfirst := List.length_pos_iff.mpr (hnonempty part (by simp))
          have hsecond := List.length_pos_iff.mpr (hnonempty other (by simp))
          simp only [List.map_cons, List.sum_cons, List.flatten_cons,
            List.length_append] at hpositive hsum hshort
          omega

end Weights

end ProntoChat.Chunks
