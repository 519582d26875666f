import Mathlib

/-!
# Writing a text in parts

A loop around a call that writes some of what it is given.  What has reached the
file when the loop ends is a beginning of the text, and all of it exactly when
the loop reports no failure.
-/

namespace ProntoChat.Writing

variable {α : Type*}

/-- The outcome of one call. -/
inductive WriteOutcome where
  | wrote (count : ℕ)
  | interrupted
  | failed
  deriving DecidableEq, Repr

/-- What has reached the file, and whether the loop ended without a failure. -/
structure Written (α : Type*) where
  content : List α
  complete : Bool
  deriving DecidableEq

/-- The loop over the outcomes of its calls; behind the last of them a call writes
all that it is given. -/
def writeAll (retries : Bool) : List WriteOutcome → List α → Written α
  | [], text => ⟨text, true⟩
  | outcome :: outcomes, text =>
      if text.isEmpty then ⟨[], true⟩
      else
        match outcome with
        | .wrote 0 => ⟨[], false⟩
        | .wrote count =>
            let rest := writeAll retries outcomes (text.drop count)
            ⟨text.take count ++ rest.content, rest.complete⟩
        | .interrupted => if retries then writeAll retries outcomes text else ⟨[], false⟩
        | .failed => ⟨[], false⟩

/-- A complete loop wrote the text, another one less than the text. -/
theorem writeAll_cases (retries : Bool) (outcomes : List WriteOutcome) (text : List α) :
    ((writeAll retries outcomes text).complete = true ∧
        (writeAll retries outcomes text).content = text) ∨
      ((writeAll retries outcomes text).complete = false ∧
        ∃ count < text.length, (writeAll retries outcomes text).content = text.take count) := by
  induction outcomes generalizing text with
  | nil => exact Or.inl ⟨rfl, rfl⟩
  | cons outcome outcomes ih =>
      cases text with
      | nil => exact Or.inl ⟨rfl, rfl⟩
      | cons entry text =>
          have hnone : ∃ count < (entry :: text).length, [] = (entry :: text).take count :=
            ⟨0, by simp, rfl⟩
          cases outcome with
          | wrote count =>
              cases count with
              | zero => exact Or.inr ⟨rfl, hnone⟩
              | succ count =>
                  rcases ih (text.drop count) with
                    ⟨hcomplete, hrest⟩ | ⟨hcomplete, more, hmore, hrest⟩
                  · refine Or.inl ⟨hcomplete, ?_⟩
                    simp [writeAll, hrest]
                  · refine Or.inr ⟨hcomplete, count + 1 + more, ?_, ?_⟩
                    · simp only [List.length_drop] at hmore
                      simp only [List.length_cons]
                      omega
                    · rw [List.take_add]
                      simp [writeAll, hrest]
          | interrupted =>
              cases retries with
              | true => exact ih (entry :: text)
              | false => exact Or.inr ⟨rfl, hnone⟩
          | failed => exact Or.inr ⟨rfl, hnone⟩

theorem writeAll_complete {retries : Bool} {outcomes : List WriteOutcome} {text : List α}
    (hcomplete : (writeAll retries outcomes text).complete = true) :
    (writeAll retries outcomes text).content = text := by
  rcases writeAll_cases retries outcomes text with ⟨_, hcontent⟩ | ⟨hfailed, _⟩
  · exact hcontent
  · simp [hcomplete] at hfailed

/-- The call writes nothing and, in a loop without retries, ends it. -/
def WriteOutcome.Nothing : WriteOutcome → Prop
  | .wrote count => count = 0
  | _ => True

/-- In a loop without retries nothing is written exactly when the first call writes
nothing. -/
theorem content_writeAll_eq_nil_iff {outcomes : List WriteOutcome} {text : List α}
    (htext : text ≠ []) :
    (writeAll false outcomes text).content = [] ↔
      ∃ outcome ∈ outcomes.head?, outcome.Nothing := by
  cases outcomes with
  | nil => simp [writeAll, htext]
  | cons outcome outcomes =>
      have hfull : text.isEmpty = false := by simpa using htext
      cases outcome with
      | wrote count =>
          cases count with
          | zero => simp [writeAll, hfull, WriteOutcome.Nothing]
          | succ count => simp [writeAll, hfull, htext, WriteOutcome.Nothing]
      | interrupted => simp [writeAll, hfull, WriteOutcome.Nothing]
      | failed => simp [writeAll, hfull, WriteOutcome.Nothing]

end ProntoChat.Writing
