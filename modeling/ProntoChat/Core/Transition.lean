import Mathlib

/-!
# Runs of a deterministic event handler

A component is a function from a state and an event to the next state.  A run
is a list of events, and a guarded run asks that every event be admissible in
the state in which it is handled.  Safety results about a component are proved
once per event and lifted to every run by `invariant_run`.
-/

namespace ProntoChat.Transition

variable {State Event : Type*}

/-- State reached from `start` after handling `events` in order. -/
def run (step : State → Event → State) (start : State) (events : List Event) :
    State :=
  events.foldl step start

/-- Every event of the run is admissible in the state in which it is
handled. -/
def Guarded (step : State → Event → State) (guard : State → Event → Prop) :
    State → List Event → Prop
  | _, [] => True
  | state, event :: events =>
      guard state event ∧ Guarded step guard (step state event) events

instance decidableGuarded (step : State → Event → State)
    (guard : State → Event → Prop) [∀ state event, Decidable (guard state event)] :
    (state : State) → (events : List Event) →
      Decidable (Guarded step guard state events)
  | _, [] => isTrue trivial
  | state, event :: events =>
      have := decidableGuarded step guard (step state event) events
      inferInstanceAs (Decidable (guard state event ∧
        Guarded step guard (step state event) events))

@[simp]
theorem run_nil (step : State → Event → State) (start : State) :
    run step start [] = start := rfl

@[simp]
theorem run_cons (step : State → Event → State) (start : State)
    (event : Event) (events : List Event) :
    run step start (event :: events) = run step (step start event) events := rfl

theorem run_append (step : State → Event → State) (start : State)
    (before after : List Event) :
    run step start (before ++ after) =
      run step (run step start before) after := by
  simp [run]

theorem guarded_append (step : State → Event → State)
    (guard : State → Event → Prop) (start : State)
    (before after : List Event) :
    Guarded step guard start (before ++ after) ↔
      Guarded step guard start before ∧
        Guarded step guard (run step start before) after := by
  induction before generalizing start with
  | nil => simp [Guarded]
  | cons event events ih =>
      simp only [List.cons_append, Guarded, run_cons, ih, and_assoc]

theorem Guarded.imp_of_mem {step : State → Event → State}
    {guard weaker : State → Event → Prop} {start : State} {events : List Event}
    (hguard : Guarded step guard start events)
    (himp : ∀ event ∈ events, ∀ state, guard state event → weaker state event) :
    Guarded step weaker start events := by
  induction events generalizing start with
  | nil => trivial
  | cons event events ih =>
      obtain ⟨hevent, hevents⟩ := List.forall_mem_cons.mp himp
      exact ⟨hevent _ hguard.1, ih hguard.2 hevents⟩

theorem Guarded.imp {step : State → Event → State}
    {guard weaker : State → Event → Prop} {start : State} {events : List Event}
    (hguard : Guarded step guard start events)
    (himp : ∀ state event, guard state event → weaker state event) :
    Guarded step weaker start events :=
  hguard.imp_of_mem fun event _ state => himp state event

theorem guarded_of_forall {step : State → Event → State}
    {guard : State → Event → Prop} {events : List Event}
    (hguard : ∀ event ∈ events, ∀ state, guard state event) (start : State) :
    Guarded step guard start events := by
  induction events generalizing start with
  | nil => trivial
  | cons event events ih =>
      obtain ⟨hevent, hevents⟩ := List.forall_mem_cons.mp hguard
      exact ⟨hevent start, ih hevents (step start event)⟩

/-- An invariant kept by every admissible event holds at the end of every
guarded run.  A prefix of a guarded run is guarded, so it holds in every
state that the run passes through. -/
theorem invariant_run {step : State → Event → State}
    {guard : State → Event → Prop} {Invariant : State → Prop}
    (hstep : ∀ state event, guard state event → Invariant state →
      Invariant (step state event))
    {start : State} (hstart : Invariant start) {events : List Event}
    (hguard : Guarded step guard start events) :
    Invariant (run step start events) := by
  induction events generalizing start with
  | nil => exact hstart
  | cons event events ih =>
      obtain ⟨hevent, hevents⟩ := hguard
      exact ih (hstep start event hevent hstart) hevents

/-- The unguarded form of `invariant_run`. -/
theorem invariant_run_of_step {step : State → Event → State}
    {Invariant : State → Prop}
    (hstep : ∀ state event, Invariant state → Invariant (step state event))
    {start : State} (hstart : Invariant start) (events : List Event) :
    Invariant (run step start events) := by
  induction events generalizing start with
  | nil => exact hstart
  | cons event events ih => exact ih (hstep start event hstart)

/-! ## Histories -/

/-- An event of the run happened, after which every event was quiet.  Whether
it happened may depend on the events before it. -/
def Since (step : State → Event → State) (start : State)
    (happened : List Event → Event → Prop) (quiet : State → Event → Prop)
    (events : List Event) : Prop :=
  ∃ before event after, events = before ++ event :: after ∧
    happened before event ∧
    Guarded step quiet (run step start (before ++ [event])) after

/-- An event of the run happened. -/
def Occurred (happened : List Event → Event → Prop) (events : List Event) :
    Prop :=
  ∃ before event after, events = before ++ event :: after ∧
    happened before event

theorem not_occurred_nil (happened : List Event → Event → Prop) :
    ¬ Occurred happened [] := by
  rintro ⟨before, event, after, hevents, _⟩
  simp at hevents

/-- What happened in a longer run happened before or with the last event. -/
theorem occurred_append_singleton (happened : List Event → Event → Prop)
    (events : List Event) (event : Event) :
    Occurred happened (events ++ [event]) ↔
      Occurred happened events ∨ happened events event := by
  constructor
  · rintro ⟨before, first, after, hevents, hfirst⟩
    rcases List.eq_nil_or_concat after with rfl | ⟨after, last, rfl⟩
    · obtain ⟨rfl, hlast⟩ := List.append_inj' hevents rfl
      obtain rfl := (List.cons.inj hlast).1
      exact Or.inr hfirst
    · rw [List.concat_eq_append, ← List.cons_append, ← List.append_assoc] at hevents
      exact Or.inl ⟨before, first, after, (List.append_inj' hevents rfl).1, hfirst⟩
  · rintro (⟨before, first, after, rfl, hfirst⟩ | hlast)
    · exact ⟨before, first, after ++ [event], by simp, hfirst⟩
    · exact ⟨events, event, [], rfl, hlast⟩

section Histories

variable {step : State → Event → State} {start : State}
  {happened : List Event → Event → Prop} {quiet : State → Event → Prop}
  {events : List Event} {event : Event}

theorem since_happened (hevent : happened events event) :
    Since step start happened quiet (events ++ [event]) :=
  ⟨events, event, [], rfl, hevent, trivial⟩

theorem Since.append (hsince : Since step start happened quiet events)
    (hevent : quiet (run step start events) event) :
    Since step start happened quiet (events ++ [event]) := by
  obtain ⟨before, first, after, rfl, hfirst, hafter⟩ := hsince
  have hrun : run step start (before ++ first :: after) =
      run step (run step start (before ++ [first])) after := by
    rw [← run_append, List.append_assoc, List.singleton_append]
  refine ⟨before, first, after ++ [event], by simp, hfirst, ?_⟩
  rw [guarded_append]
  exact ⟨hafter, hrun ▸ hevent, trivial⟩

/-- A fact about the history holds of every run when every event keeps it. -/
theorem history_run {Holds : List Event → State → Prop} (hstart : Holds [] start)
    (hstep : ∀ events event, Holds events (run step start events) →
      Holds (events ++ [event]) (step (run step start events) event))
    (events : List Event) : Holds events (run step start events) := by
  induction events using List.reverseRecOn with
  | nil => exact hstart
  | append_singleton events event ih =>
      rw [run_append]
      exact hstep events event ih

end Histories

/-! ## Labelled paths -/

section Paths

variable {Label : Type*}

/-- The states behind sequences of labelled steps, in the order of the
steps. -/
inductive Path (Step : State → Label → State → Prop) (start : State) :
    List Label → State → Prop where
  | nil : Path Step start [] start
  | snoc {labels : List Label} {state next : State} {label : Label}
      (hpath : Path Step start labels state) (hstep : Step state label next) :
      Path Step start (labels ++ [label]) next

/-- Every label is allowed by the labels before it. -/
def Orderly (allowed : List Label → Label → Prop) (labels : List Label) : Prop :=
  ∀ before label after, labels = before ++ label :: after → allowed before label

theorem Orderly.snoc {allowed : List Label → Label → Prop} {labels : List Label}
    {label : Label} (horderly : Orderly allowed labels)
    (hallowed : allowed labels label) : Orderly allowed (labels ++ [label]) := by
  intro before first after hlabels
  have hoccurred : Occurred (fun earlier last => earlier = before ∧ last = first)
      (labels ++ [label]) := ⟨before, first, after, hlabels, rfl, rfl⟩
  rcases (occurred_append_singleton _ labels label).mp hoccurred with
    ⟨_, _, rest, hrest, rfl, rfl⟩ | ⟨rfl, rfl⟩
  · exact horderly _ _ rest hrest
  · exact hallowed

end Paths

/-! ## One-message slots -/

/-- A slot of a component: the message it holds, the messages taken out of it
so far, and the events that take out or discard its message. -/
structure Slot (State Event Message : Type*) where
  held : State → Option Message
  delivered : State → List Message
  takes : Event → Prop
  discards : Event → Prop

/-- Admissible events hold the message of the slot until it is taken out or
discarded. -/
structure Slot.Keeps {Message : Type*} (slot : Slot State Event Message)
    (step : State → Event → State) (guard : State → Event → Prop) : Prop where
  kept : ∀ {state event message}, guard state event →
    slot.held state = some message → ¬ slot.takes event → ¬ slot.discards event →
    slot.held (step state event) = some message ∧
      slot.delivered (step state event) = slot.delivered state
  taken : ∀ {state event message}, guard state event →
    slot.held state = some message → slot.takes event →
    slot.delivered (step state event) = slot.delivered state ++ [message]
  grows : ∀ {state event}, guard state event →
    slot.delivered state <+: slot.delivered (step state event)

section Slots

variable {Message : Type*} {slot : Slot State Event Message}
  {step : State → Event → State} {guard : State → Event → Prop}

theorem Slot.Keeps.grows_run (hkeeps : slot.Keeps step guard) {start : State}
    {events : List Event} (hguard : Guarded step guard start events) :
    slot.delivered start <+: slot.delivered (run step start events) := by
  induction events generalizing start with
  | nil => exact List.prefix_rfl
  | cons event events ih => exact (hkeeps.grows hguard.1).trans (ih hguard.2)

/-- A message that is not discarded is the next one taken out, and the slot
holds it until then. -/
theorem Slot.Keeps.run (hkeeps : slot.Keeps step guard) {start : State}
    {message : Message} {events : List Event}
    (hguard : Guarded step guard start events)
    (hheld : slot.held start = some message)
    (hdiscards : ∀ event ∈ events, ¬ slot.discards event) :
    ((∃ event ∈ events, slot.takes event) →
      slot.delivered start ++ [message] <+:
        slot.delivered (run step start events)) ∧
    ((∀ event ∈ events, ¬ slot.takes event) →
      slot.held (run step start events) = some message) := by
  induction events generalizing start with
  | nil => exact ⟨nofun, fun _ => hheld⟩
  | cons event events ih =>
      obtain ⟨hevent, hevents⟩ := List.forall_mem_cons.mp hdiscards
      by_cases htakes : slot.takes event
      · refine ⟨fun _ => ?_, fun hnone => absurd htakes (hnone event ?_)⟩
        · rw [← hkeeps.taken hguard.1 hheld htakes]
          exact hkeeps.grows_run hguard.2
        · exact List.mem_cons_self
      · obtain ⟨hnext, hsame⟩ := hkeeps.kept hguard.1 hheld htakes hevent
        obtain ⟨htaken, hkept⟩ := ih hguard.2 hnext hevents
        refine ⟨fun hsome => ?_, fun hnone => hkept (List.forall_mem_cons.mp hnone).2⟩
        rw [List.exists_mem_cons_iff] at hsome
        rw [hsame] at htaken
        exact htaken (hsome.resolve_left htakes)

end Slots

/-! ## Interleaved components -/

section Family

variable {ι : Type*} [DecidableEq ι]

/-- One component of a family handles an event. -/
def familyStep (step : State → Event → State) (states : ι → State)
    (input : ι × Event) : ι → State :=
  Function.update states input.1 (step (states input.1) input.2)

/-- The events of one component, in order. -/
def eventsOf (component : ι) (inputs : List (ι × Event)) : List Event :=
  inputs.filterMap fun input =>
    if input.1 = component then some input.2 else none

/-- In every interleaving a component runs on its own events. -/
theorem run_familyStep (step : State → Event → State) (states : ι → State)
    (inputs : List (ι × Event)) (component : ι) :
    run (familyStep step) states inputs component =
      run step (states component) (eventsOf component inputs) := by
  induction inputs generalizing states with
  | nil => rfl
  | cons input inputs ih =>
      rw [run_cons, ih]
      by_cases hown : input.1 = component
      · subst hown
        simp [eventsOf, familyStep]
      · have hother : Function.update states input.1
            (step (states input.1) input.2) component = states component :=
          Function.update_of_ne (Ne.symm hown) _ _
        simp [eventsOf, familyStep, hown, hother]

end Family

/-! ## Refinement of a step relation -/

variable {View : Type*}

/-- An invariant of a relation holds after any number of moves. -/
theorem invariant_moves {Move : View → View → Prop} {Invariant : View → Prop}
    (hmove : ∀ view next, Move view next → Invariant view → Invariant next)
    {view next : View} (hmoves : Relation.ReflTransGen Move view next)
    (hview : Invariant view) : Invariant next := by
  induction hmoves with
  | refl => exact hview
  | tail _ hlast ih => exact hmove _ _ hlast ih

/-- A component whose admissible events are sequences of moves on an abstract
view keeps every invariant of the moves. -/
theorem invariant_run_of_moves {step : State → Event → State}
    {guard : State → Event → Prop} {view : State → View}
    {Move : View → View → Prop} {Invariant : View → Prop}
    (hrefine : ∀ state event, guard state event →
      Relation.ReflTransGen Move (view state) (view (step state event)))
    (hmove : ∀ view next, Move view next → Invariant view → Invariant next)
    {start : State} (hstart : Invariant (view start)) {events : List Event}
    (hguard : Guarded step guard start events) :
    Invariant (view (run step start events)) := by
  have hstep : ∀ state event, guard state event → Invariant (view state) →
      Invariant (view (step state event)) := by
    intro state event hevent hstate
    exact invariant_moves hmove (hrefine state event hevent) hstate
  exact invariant_run hstep hstart hguard

end ProntoChat.Transition
