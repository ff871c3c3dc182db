/-!
Runs of a deterministic transition function over a finite list of inputs.
`Always` observes every state a run passes through, its start included;
`Steps` restricts each step by a guard on the state it starts from.
-/
namespace RyzenBuild.Trace

variable {State Input : Type}

def run (step : State → Input → State) (start : State) (inputs : List Input) : State :=
  inputs.foldl step start

def Always (step : State → Input → State) (property : State → Prop) :
    State → List Input → Prop
  | state, [] => property state
  | state, input :: rest => property state ∧ Always step property (step state input) rest

def Steps (step : State → Input → State) (guard : State → Input → Prop) :
    State → List Input → Prop
  | _, [] => True
  | state, input :: rest => guard state input ∧ Steps step guard (step state input) rest

instance (step : State → Input → State) (guard : State → Input → Prop)
    [admits : ∀ state input, Decidable (guard state input)] :
    ∀ start inputs, Decidable (Steps step guard start inputs)
  | _, [] => isTrue trivial
  | start, input :: rest =>
      have : Decidable (Steps step guard (step start input) rest) :=
        instDecidableSteps step guard (step start input) rest
      inferInstanceAs (Decidable (guard start input ∧ Steps step guard (step start input) rest))

def Reachable (step : State → Input → State) (start state : State) : Prop :=
  ∃ inputs, run step start inputs = state

@[simp] theorem run_nil (step : State → Input → State) (start : State) :
    run step start [] = start := rfl

@[simp] theorem run_cons (step : State → Input → State) (start : State)
    (input : Input) (rest : List Input) :
    run step start (input :: rest) = run step (step start input) rest := rfl

theorem run_append (step : State → Input → State) (start : State)
    (first second : List Input) :
    run step start (first ++ second) = run step (run step start first) second := by
  simp [run, List.foldl_append]

theorem always_final (step : State → Input → State) (property : State → Prop)
    (start : State) (inputs : List Input) (always : Always step property start inputs) :
    property (run step start inputs) := by
  induction inputs generalizing start with
  | nil => exact always
  | cons input rest ih => exact ih (step start input) always.2

theorem always_start (step : State → Input → State) (property : State → Prop)
    (start : State) (inputs : List Input) (always : Always step property start inputs) :
    property start := by
  cases inputs with
  | nil => exact always
  | cons input rest => exact always.1

theorem always_mono (step : State → Input → State) (stronger weaker : State → Prop)
    (implies : ∀ state, stronger state → weaker state) (start : State)
    (inputs : List Input) (always : Always step stronger start inputs) :
    Always step weaker start inputs := by
  induction inputs generalizing start with
  | nil => exact implies start always
  | cons input rest ih => exact ⟨implies start always.1, ih (step start input) always.2⟩

theorem always_append (step : State → Input → State) (property : State → Prop) (start : State)
    (first second : List Input) :
    Always step property start (first ++ second) ↔
      Always step property start first ∧ Always step property (run step start first) second := by
  induction first generalizing start with
  | nil =>
      constructor
      · intro later
        exact ⟨always_start step property start second later, later⟩
      · exact fun both => both.2
  | cons input rest ih =>
      constructor
      · rintro ⟨here, later⟩
        obtain ⟨before, after⟩ := (ih (step start input)).mp later
        exact ⟨⟨here, before⟩, after⟩
      · rintro ⟨⟨here, before⟩, after⟩
        exact ⟨here, (ih (step start input)).mpr ⟨before, after⟩⟩

/-- The induction over runs: an invariant that every admitted step keeps
holds in every state of a run whose steps are all admitted. -/
theorem always_of_steps (step : State → Input → State) (guard : State → Input → Prop)
    (invariant : State → Prop)
    (preserved : ∀ state input, invariant state → guard state input →
      invariant (step state input))
    (start : State) (inputs : List Input) (init : invariant start)
    (admitted : Steps step guard start inputs) : Always step invariant start inputs := by
  induction inputs generalizing start with
  | nil => exact init
  | cons input rest ih =>
      exact ⟨init, ih (step start input) (preserved start input init admitted.1) admitted.2⟩

theorem steps_and (step : State → Input → State) (first second : State → Input → Prop)
    (start : State) (inputs : List Input) :
    Steps step (fun state input => first state input ∧ second state input) start inputs ↔
      Steps step first start inputs ∧ Steps step second start inputs := by
  induction inputs generalizing start with
  | nil => exact ⟨fun _ => ⟨trivial, trivial⟩, fun _ => trivial⟩
  | cons input rest ih =>
      constructor
      · rintro ⟨⟨here, also⟩, later⟩
        obtain ⟨left, right⟩ := (ih _).mp later
        exact ⟨⟨here, left⟩, ⟨also, right⟩⟩
      · rintro ⟨⟨here, left⟩, ⟨also, right⟩⟩
        exact ⟨⟨here, also⟩, (ih _).mpr ⟨left, right⟩⟩

theorem steps_append (step : State → Input → State) (guard : State → Input → Prop) (start : State)
    (first second : List Input) :
    Steps step guard start (first ++ second) ↔
      Steps step guard start first ∧ Steps step guard (run step start first) second := by
  induction first generalizing start with
  | nil => exact ⟨fun later => ⟨trivial, later⟩, fun both => both.2⟩
  | cons input rest ih =>
      constructor
      · rintro ⟨here, later⟩
        obtain ⟨before, after⟩ := (ih (step start input)).mp later
        exact ⟨⟨here, before⟩, after⟩
      · rintro ⟨⟨here, before⟩, after⟩
        exact ⟨here, (ih (step start input)).mpr ⟨before, after⟩⟩

theorem always_of_invariant (step : State → Input → State) (invariant : State → Prop)
    (preserved : ∀ state input, invariant state → invariant (step state input))
    (start : State) (inputs : List Input) (init : invariant start) :
    Always step invariant start inputs := by
  induction inputs generalizing start with
  | nil => exact init
  | cons input rest ih => exact ⟨init, ih _ (preserved start input init)⟩

theorem run_invariant (step : State → Input → State) (invariant : State → Prop)
    (preserved : ∀ state input, invariant state → invariant (step state input))
    (start : State) (inputs : List Input) (init : invariant start) :
    invariant (run step start inputs) :=
  always_final step invariant start inputs
    (always_of_invariant step invariant preserved start inputs init)

theorem run_of_steps (step : State → Input → State) (guard : State → Input → Prop)
    (invariant : State → Prop)
    (preserved : ∀ state input, invariant state → guard state input →
      invariant (step state input))
    (start : State) (inputs : List Input) (init : invariant start)
    (admitted : Steps step guard start inputs) : invariant (run step start inputs) :=
  always_final step invariant start inputs
    (always_of_steps step guard invariant preserved start inputs init admitted)

/-- The induction over runs for an invariant that remembers the inputs so far. -/
theorem run_history (step : State → Input → State) (guard : State → Input → Prop)
    (invariant : List Input → State → Prop)
    (preserved : ∀ before state input, invariant before state → guard state input →
      invariant (before ++ [input]) (step state input))
    (start : State) (inputs : List Input) (init : invariant [] start)
    (admitted : Steps step guard start inputs) : invariant inputs (run step start inputs) := by
  have from_any (before : List Input) (held : invariant before start) :
      invariant (before ++ inputs) (run step start inputs) := by
    clear init
    induction inputs generalizing start before with
    | nil => simpa using held
    | cons input rest ih =>
        have next := preserved before start input held admitted.1
        rw [List.append_cons]
        exact ih (step start input) admitted.2 (before ++ [input]) next
  exact from_any [] init

theorem reachable_invariant (step : State → Input → State) (invariant : State → Prop)
    (preserved : ∀ state input, invariant state → invariant (step state input))
    (start state : State) (init : invariant start)
    (reachable : Reachable step start state) : invariant state := by
  obtain ⟨inputs, rfl⟩ := reachable
  exact run_invariant step invariant preserved start inputs init

/-- When, under a background invariant, a step keeps the property exactly if
it meets the guard, a run keeps it exactly if all its steps meet the guard. -/
theorem always_iff_steps (step : State → Input → State) (guard : State → Input → Prop)
    (background property : State → Prop)
    (kept : ∀ state input, background state → background (step state input))
    (exact : ∀ state input, background state → property state →
      (property (step state input) ↔ guard state input))
    (start : State) (inputs : List Input) (base : background start)
    (init : property start) :
    Always step property start inputs ↔ Steps step guard start inputs := by
  induction inputs generalizing start with
  | nil => exact ⟨fun _ => trivial, fun _ => init⟩
  | cons input rest ih =>
      constructor
      · rintro ⟨_, later⟩
        have next := always_start step property _ rest later
        exact ⟨(exact start input base init).mp next,
          (ih (step start input) (kept start input base) next).mp later⟩
      · rintro ⟨admitted, later⟩
        have next := (exact start input base init).mpr admitted
        exact ⟨init, (ih (step start input) (kept start input base) next).mpr later⟩

/-- When a step out of the invariant shows at once, a run of allowed inputs shows
the property throughout exactly if all its steps meet the guard. -/
theorem always_iff_guarded (step : State → Input → State) (allowed guard : State → Input → Prop)
    (invariant property : State → Prop)
    (shows : ∀ state, invariant state → property state)
    (keeps : ∀ state input, invariant state → allowed state input → guard state input →
      invariant (step state input))
    (breaks : ∀ state input, invariant state → allowed state input → property (step state input) →
      guard state input)
    (start : State) (inputs : List Input) (init : invariant start)
    (within : Steps step allowed start inputs) :
    Always step property start inputs ↔ Steps step guard start inputs := by
  induction inputs generalizing start with
  | nil => exact ⟨fun _ => trivial, fun _ => shows start init⟩
  | cons input rest ih =>
      obtain ⟨here, later⟩ := within
      constructor
      · rintro ⟨_, always⟩
        have admitted := breaks start input init here (always_start step property _ rest always)
        have next := keeps start input init here admitted
        exact ⟨admitted, (ih (step start input) next later).mp always⟩
      · rintro ⟨admitted, steps⟩
        have next := keeps start input init here admitted
        exact ⟨shows start init, (ih (step start input) next later).mpr steps⟩

end RyzenBuild.Trace
