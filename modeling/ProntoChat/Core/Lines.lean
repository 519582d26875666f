import Mathlib

/-!
# Lines of a text

A text is cut behind every terminator, so that each line but perhaps the last
one ends with it.  Cutting and joining are inverse to each other: a list of
lines in which only the last one may be open is the list of lines of the text
that it spells.
-/

namespace ProntoChat.Lines

variable {α : Type*}

/-- A line with its terminator. -/
def Terminated (stop : α) (line : List α) : Prop :=
  ∃ body, stop ∉ body ∧ line = body ++ [stop]

/-- A line without terminator. -/
def Unterminated (stop : α) (line : List α) : Prop :=
  line ≠ [] ∧ stop ∉ line

/-- Lines of which only the last one may lack its terminator. -/
inductive LineList (stop : α) : List (List α) → Prop
  | nil : LineList stop []
  | last {line : List α} (hline : Unterminated stop line) : LineList stop [line]
  | cons {line : List α} {rest : List (List α)} (hline : Terminated stop line)
      (hrest : LineList stop rest) : LineList stop (line :: rest)

variable {stop : α}

namespace LineList

/-- Terminated lines can stand in front of any others. -/
theorem append {front rest : List (List α)} (hfront : ∀ line ∈ front, Terminated stop line)
    (hrest : LineList stop rest) : LineList stop (front ++ rest) := by
  induction front with
  | nil => exact hrest
  | cons line front ih =>
      obtain ⟨hline, hfront⟩ := List.forall_mem_cons.mp hfront
      exact .cons hline (ih hfront)

/-- Lines in front of another one are terminated. -/
theorem of_append {front rest : List (List α)} (hlist : LineList stop (front ++ rest))
    (hrest : rest ≠ []) :
    (∀ line ∈ front, Terminated stop line) ∧ LineList stop rest := by
  induction front with
  | nil => exact ⟨List.forall_mem_nil _, hlist⟩
  | cons line front ih =>
      rw [List.cons_append] at hlist
      generalize hjoined : front ++ rest = joined at hlist
      cases hlist with
      | last _ => simp_all
      | cons hline hlist =>
          subst hjoined
          obtain ⟨hfront, hrest⟩ := ih hlist
          exact ⟨List.forall_mem_cons.mpr ⟨hline, hfront⟩, hrest⟩

theorem filter {list : List (List α)} (hlist : LineList stop list)
    (keep : List α → Bool) : LineList stop (list.filter keep) := by
  induction hlist with
  | nil => exact .nil
  | @last line hline =>
      by_cases hkeep : keep line = true
      · rw [List.filter_cons_of_pos hkeep]
        exact .last hline
      · rw [List.filter_cons_of_neg hkeep]
        exact .nil
  | @cons line _ hline _ ih =>
      by_cases hkeep : keep line = true
      · rw [List.filter_cons_of_pos hkeep]
        exact .cons hline ih
      · rw [List.filter_cons_of_neg hkeep]
        exact ih

/-- All lines are terminated, or all but the last one. -/
theorem terminated_or {list : List (List α)} (hlist : LineList stop list) :
    (∀ line ∈ list, Terminated stop line) ∨
      ∃ front line, list = front ++ [line] ∧ (∀ line ∈ front, Terminated stop line) ∧
        Unterminated stop line := by
  induction hlist with
  | nil => exact Or.inl (List.forall_mem_nil _)
  | @last line hline => exact Or.inr ⟨[], line, rfl, List.forall_mem_nil _, hline⟩
  | @cons line _ hline _ ih =>
      rcases ih with hall | ⟨front, last, rfl, hfront, hlast⟩
      · exact Or.inl (List.forall_mem_cons.mpr ⟨hline, hall⟩)
      · exact Or.inr ⟨line :: front, last, rfl, List.forall_mem_cons.mpr ⟨hline, hfront⟩,
          hlast⟩

end LineList

/-! ## Replacing lines -/

/-- The first line with a property is replaced and the others with it are dropped;
without such a line the new one is added at the end. -/
def replaceFirst (p : List α → Bool) (new : List α) : List (List α) → List (List α)
  | [] => [new]
  | line :: rest =>
      if p line then new :: rest.filter fun line => !p line
      else line :: replaceFirst p new rest

section Replace

variable {p : List α → Bool} {new : List α}

theorem replaceFirst_append {front : List (List α)} (hfront : ∀ line ∈ front, p line = false)
    (rest : List (List α)) :
    replaceFirst p new (front ++ rest) = front ++ replaceFirst p new rest := by
  induction front with
  | nil => rfl
  | cons line front ih =>
      obtain ⟨hline, hfront⟩ := List.forall_mem_cons.mp hfront
      rw [List.cons_append, replaceFirst, hline, if_neg Bool.false_ne_true, ih hfront,
        List.cons_append]

theorem replaceFirst_of_pos {line : List α} (hline : p line = true)
    (rest : List (List α)) :
    replaceFirst p new (line :: rest) = new :: rest.filter fun line => !p line := by
  rw [replaceFirst, if_pos hline]

/-- A list has a first line with the property or none. -/
theorem exists_first (p : List α → Bool) (list : List (List α)) :
    (∀ line ∈ list, p line = false) ∨
      ∃ front line rest, list = front ++ line :: rest ∧
        (∀ line ∈ front, p line = false) ∧ p line = true := by
  induction list with
  | nil => exact Or.inl (List.forall_mem_nil _)
  | cons line list ih =>
      cases hline : p line with
      | true => exact Or.inr ⟨[], line, list, rfl, List.forall_mem_nil _, hline⟩
      | false =>
          rcases ih with hnone | ⟨front, first, rest, rfl, hfront, hfirst⟩
          · exact Or.inl (List.forall_mem_cons.mpr ⟨hline, hnone⟩)
          · exact Or.inr ⟨line :: front, first, rest, rfl,
              List.forall_mem_cons.mpr ⟨hline, hfront⟩, hfirst⟩

theorem replaceFirst_of_none {list : List (List α)} (hnone : ∀ line ∈ list, p line = false) :
    replaceFirst p new list = list ++ [new] := by
  have happend : replaceFirst p new (list ++ []) = list ++ [new] :=
    replaceFirst_append hnone []
  rw [List.append_nil] at happend
  exact happend

/-- Exactly the new line has the property afterwards. -/
theorem filter_replaceFirst (hnew : p new = true) (list : List (List α)) :
    (replaceFirst p new list).filter p = [new] := by
  induction list with
  | nil => simp [replaceFirst, hnew]
  | cons line list ih =>
      cases hline : p line with
      | true =>
          rw [replaceFirst_of_pos hline, List.filter_cons_of_pos hnew,
            List.filter_filter]
          simp
      | false =>
          rw [replaceFirst, hline, if_neg Bool.false_ne_true,
            List.filter_cons_of_neg (by simp [hline]), ih]

/-- The last replacement counts. -/
theorem replaceFirst_replaceFirst {first : List α} (hfirst : p first = true)
    (list : List (List α)) :
    replaceFirst p new (replaceFirst p first list) = replaceFirst p new list := by
  induction list with
  | nil => simp [replaceFirst, hfirst]
  | cons line list ih =>
      cases hline : p line with
      | true =>
          rw [replaceFirst_of_pos hline, replaceFirst_of_pos hfirst,
            replaceFirst_of_pos hline, List.filter_filter]
          simp
      | false =>
          simp only [replaceFirst, hline, if_neg Bool.false_ne_true, ih]

theorem mem_replaceFirst {line : List α} {list : List (List α)}
    (hmem : line ∈ replaceFirst p new list) : line = new ∨ line ∈ list := by
  induction list with
  | nil => exact Or.inl (List.mem_singleton.mp hmem)
  | cons first list ih =>
      cases hfirst : p first with
      | true =>
          rw [replaceFirst_of_pos hfirst] at hmem
          rcases List.mem_cons.mp hmem with hnew | hmem
          · exact Or.inl hnew
          · exact Or.inr (List.mem_cons_of_mem _ (List.mem_filter.mp hmem).1)
      | false =>
          rw [replaceFirst, hfirst, if_neg Bool.false_ne_true] at hmem
          rcases List.mem_cons.mp hmem with rfl | hmem
          · exact Or.inr List.mem_cons_self
          · exact (ih hmem).imp_right (List.mem_cons_of_mem _)

/-- Where a line was replaced, the result is a list of lines again. -/
theorem LineList.replaceFirst {list : List (List α)} (hlist : LineList stop list)
    (hnew : Terminated stop new)
    (hplace : (∃ line ∈ list, p line = true) ∨ ∀ line ∈ list, Terminated stop line) :
    LineList stop (Lines.replaceFirst p new list) := by
  rcases exists_first p list with hnone | ⟨front, line, rest, rfl, hfront, hline⟩
  · rw [replaceFirst_of_none hnone]
    rcases hplace with ⟨line, hmem, hline⟩ | hall
    · rw [hnone line hmem] at hline
      exact absurd hline Bool.false_ne_true
    · exact .append hall (.cons hnew .nil)
  · obtain ⟨hfrontLines, hrest⟩ := hlist.of_append (List.cons_ne_nil line rest)
    rw [replaceFirst_append hfront, replaceFirst_of_pos hline]
    refine .append hfrontLines (.cons hnew (LineList.filter ?_ _))
    cases hrest with
    | last _ => exact .nil
    | cons _ hrest => exact hrest

/-- A search that skips the new line looks at the lines that are kept. -/
theorem findSome?_replaceFirst {β : Type*} {search : List α → Option β}
    (hnew : search new = none) (list : List (List α)) :
    (replaceFirst p new list).findSome? search =
      (list.filter fun line => !p line).findSome? search := by
  induction list with
  | nil => simp [replaceFirst, hnew]
  | cons line list ih =>
      cases hline : p line with
      | true =>
          rw [replaceFirst_of_pos hline, List.findSome?_cons, hnew,
            List.filter_cons_of_neg (by simp [hline])]
      | false =>
          rw [replaceFirst, hline, if_neg Bool.false_ne_true,
            List.filter_cons_of_pos (by simp [hline]), List.findSome?_cons,
            List.findSome?_cons, ih]

/-- A search that stops at the new line looks at the lines in front of it. -/
theorem findSome?_replaceFirst_of_some {β : Type*} {search : List α → Option β} {found : β}
    (hnew : search new = some found) (list : List (List α)) :
    (replaceFirst p new list).findSome? search =
      some (((list.takeWhile fun line => !p line).findSome? search).getD found) := by
  induction list with
  | nil => simp [replaceFirst, hnew]
  | cons line list ih =>
      cases hline : p line with
      | true =>
          rw [replaceFirst_of_pos hline, List.findSome?_cons, hnew,
            List.takeWhile_cons_of_neg (by simp [hline])]
          rfl
      | false =>
          rw [replaceFirst, hline, if_neg Bool.false_ne_true,
            List.takeWhile_cons_of_pos (by simp [hline]), List.findSome?_cons,
            List.findSome?_cons, ih]
          cases search line <;> rfl

/-- A search that finds nothing on the dropped lines need not look at them. -/
theorem findSome?_filter {β : Type*} {search : List α → Option β} {list : List (List α)}
    (hskips : ∀ line ∈ list, p line = true → search line = none) :
    (list.filter fun line => !p line).findSome? search = list.findSome? search := by
  induction list with
  | nil => rfl
  | cons line list ih =>
      obtain ⟨hline, hskips⟩ := List.forall_mem_cons.mp hskips
      cases hp : p line with
      | true =>
          rw [List.filter_cons_of_neg (by simp [hp]), List.findSome?_cons, hline hp,
            ih hskips]
      | false =>
          rw [List.filter_cons_of_pos (by simp [hp]), List.findSome?_cons,
            List.findSome?_cons, ih hskips]

end Replace

section Cutting

variable [DecidableEq α]

/-- The lines of a text behind the beginning `line` of the first one. -/
def linesFrom (stop : α) : List α → List α → List (List α)
  | line, [] => if line = [] then [] else [line]
  | line, entry :: text =>
      if entry = stop then (line ++ [entry]) :: linesFrom stop [] text
      else linesFrom stop (line ++ [entry]) text

def lines (stop : α) (text : List α) : List (List α) := linesFrom stop [] text

theorem linesFrom_body {body : List α} (hbody : stop ∉ body) (line text : List α) :
    linesFrom stop line (body ++ text) = linesFrom stop (line ++ body) text := by
  induction body generalizing line with
  | nil => simp
  | cons entry body ih =>
      simp only [List.mem_cons, not_or] at hbody
      rw [List.cons_append, linesFrom, if_neg (Ne.symm hbody.1), ih hbody.2]
      simp

/-- A terminated line comes first. -/
theorem lines_append {line : List α} (hline : Terminated stop line) (text : List α) :
    lines stop (line ++ text) = line :: lines stop text := by
  obtain ⟨body, hbody, rfl⟩ := hline
  rw [lines, List.append_assoc, linesFrom_body hbody]
  simp [linesFrom, lines]

theorem lines_unterminated {line : List α} (hline : Unterminated stop line) :
    lines stop line = [line] := by
  have hbody := linesFrom_body hline.2 [] []
  rw [List.append_nil, List.nil_append] at hbody
  rw [lines, hbody, linesFrom, if_neg hline.1]

theorem lines_flatten {list : List (List α)} (hlist : LineList stop list) :
    lines stop list.flatten = list := by
  induction hlist with
  | nil => rfl
  | last hline => rw [List.flatten_singleton, lines_unterminated hline]
  | cons hline _ ih => rw [List.flatten_cons, lines_append hline, ih]

theorem lineList_linesFrom {line : List α} (hline : stop ∉ line) (text : List α) :
    LineList stop (linesFrom stop line text) := by
  induction text generalizing line with
  | nil =>
      rw [linesFrom]
      split_ifs with hempty
      · exact .nil
      · exact .last ⟨hempty, hline⟩
  | cons entry text ih =>
      rw [linesFrom]
      split_ifs with hstop
      · exact .cons ⟨line, hline, by rw [hstop]⟩ (ih List.not_mem_nil)
      · refine ih ?_
        simp [hline, Ne.symm hstop]

theorem lineList_lines (text : List α) : LineList stop (lines stop text) :=
  lineList_linesFrom List.not_mem_nil text

theorem flatten_linesFrom (line text : List α) :
    (linesFrom stop line text).flatten = line ++ text := by
  induction text generalizing line with
  | nil =>
      rw [linesFrom]
      split_ifs with hempty
      · simp [hempty]
      · simp
  | cons entry text ih =>
      rw [linesFrom]
      split_ifs
      · rw [List.flatten_cons, ih]
        simp
      · rw [ih]
        simp

@[simp]
theorem flatten_lines (text : List α) : (lines stop text).flatten = text :=
  flatten_linesFrom [] text

end Cutting

end ProntoChat.Lines
