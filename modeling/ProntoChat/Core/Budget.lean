import ProntoChat.Core.Transition

/-!
# What a run may cost

Every step of a run costs something and earns something.  If a step never costs
more than it earns and takes from a credit that is read off the state, then the
cost of a whole run is bounded by what the run earned and by the credit with which
it started.
-/

namespace ProntoChat.Transition

variable {State Event : Type*}

/-- The cost of all steps of a run. -/
def tally (step : State → Event → State) (cost : State → Event → ℕ) :
    State → List Event → ℕ
  | _, [] => 0
  | state, event :: events =>
      cost state event + tally step cost (step state event) events

theorem tally_mul (step : State → Event → State) (factor : ℕ)
    (cost : State → Event → ℕ) (start : State) (events : List Event) :
    tally step (fun state event => factor * cost state event) start events =
      factor * tally step cost start events := by
  induction events generalizing start with
  | nil => simp [tally]
  | cons event events ih => simp only [tally, ih, Nat.mul_add]

/-- A run whose steps keep within their budget keeps within its budget. -/
theorem tally_add_credit_le {step : State → Event → State}
    {cost earned : State → Event → ℕ} {credit : State → ℕ}
    (hbudget : ∀ state event, cost state event + credit (step state event) ≤
      earned state event + credit state) (start : State) (events : List Event) :
    tally step cost start events + credit (run step start events) ≤
      tally step earned start events + credit start := by
  induction events generalizing start with
  | nil => simp [tally]
  | cons event events ih =>
      have hfirst := hbudget start event
      have hrest := ih (step start event)
      simp only [tally, run_cons]
      omega

end ProntoChat.Transition
