import BlobDepot.Container.Upload

set_option autoImplicit false

namespace BlobDepot

namespace Depot

def recorded (depot : Depot) (event : Event) : Depot :=
  { depot with journal := depot.journal.record event }

theorem history_recorded (depot : Depot) (event : Event) :
    (depot.recorded event).journal.history = depot.journal.history ++ [event] := by
  simp [recorded, Journal.record, Journal.history]

@[simp]
theorem schedule_recorded (depot : Depot) (event : Event) :
    (depot.recorded event).schedule = depot.schedule :=
  rfl

@[simp]
theorem references_recorded (depot : Depot) (event : Event) :
    (depot.recorded event).references = depot.references :=
  rfl

@[simp]
theorem current_recorded (depot : Depot) (event : Event) :
    (depot.recorded event).current = depot.current :=
  rfl

@[simp]
theorem source_recorded (depot : Depot) (event : Event) :
    (depot.recorded event).source = depot.source :=
  rfl

end Depot

namespace Action

variable {α β : Type}

@[simp]
theorem run_pure (result : α) (depot : Depot) :
    (pure result : Action α) depot = (.ok result, depot) :=
  rfl

@[simp]
theorem run_throw (failure : Failure) (depot : Depot) :
    (throw failure : Action α) depot = (.error failure, depot) :=
  rfl

@[simp]
theorem run_get (depot : Depot) : (get : Action Depot) depot = (.ok depot, depot) :=
  rfl

@[simp]
theorem run_set (next depot : Depot) : (set next : Action PUnit) depot = (.ok ⟨⟩, next) :=
  rfl

@[simp]
theorem run_modify (change : Depot -> Depot) (depot : Depot) :
    (modify change : Action PUnit) depot = (.ok ⟨⟩, change depot) :=
  rfl

@[simp]
theorem run_attempt (action : Action α) (depot : Depot) :
    attempt action depot = (.ok (action depot).1, (action depot).2) :=
  rfl

@[simp]
theorem run_settle (outcome : Except Failure α) (depot : Depot) :
    settle outcome depot = (outcome, depot) := by
  cases outcome <;> rfl

@[simp]
theorem run_fail (problem : Problem) (depot : Depot) :
    (fail problem : Action α) depot = (.error (.of problem), depot) :=
  rfl

@[simp]
theorem run_record (event : Event) (depot : Depot) :
    record event depot = (.ok (), depot.recorded event) :=
  rfl

@[simp]
theorem run_log
    (level event : String)
    (fields : List (String × Value))
    (depot : Depot) :
    log level event fields depot =
      (.ok (), { depot with journal := depot.journal.log level event fields }) :=
  rfl

@[simp]
theorem run_count (change : Metrics -> Metrics) (depot : Depot) :
    count change depot = (.ok (), { depot with journal := depot.journal.count change }) :=
  rfl

theorem run_bind (first : Action α) (next : α -> Action β) (depot : Depot) :
    (first >>= next) depot =
      match first depot with
      | (.ok result, middle) => next result middle
      | (.error failure, middle) => (.error failure, middle) := by
  change (ExceptT.bindCont next _) _ = _
  rcases first depot with ⟨outcome, middle⟩
  cases outcome <;> rfl

theorem run_bind_ok
    {first : Action α}
    {result : α}
    {depot middle : Depot}
    (next : α -> Action β)
    (ran : first depot = (.ok result, middle)) :
    (first >>= next) depot = next result middle := by
  rw [run_bind, ran]

theorem run_bind_error
    {first : Action α}
    {failure : Failure}
    {depot middle : Depot}
    (next : α -> Action β)
    (ran : first depot = (.error failure, middle)) :
    (first >>= next) depot = (.error failure, middle) := by
  rw [run_bind, ran]

theorem outcome_bind
    {first : Action α}
    {failure : Failure}
    {depot : Depot}
    (failed : (first depot).1 = .error failure)
    (next : α -> Action β) :
    ((first >>= next) depot).1 = .error failure := by
  rw [run_bind_error next (Prod.ext failed rfl)]

/-- Whatever an action does, something goes on to hold. -/
def Keeps (kept : Depot -> Prop) (action : Action α) : Prop :=
  forall depot, kept depot -> kept (action depot).2

variable {kept : Depot -> Prop}

theorem keeps_pure (result : α) : Keeps kept (pure result : Action α) :=
  fun _ holds => holds

theorem keeps_throw (failure : Failure) : Keeps kept (throw failure : Action α) :=
  fun _ holds => holds

theorem keeps_fail (problem : Problem) : Keeps kept (fail problem : Action α) :=
  keeps_throw _

theorem keeps_shaped (result : Except ShapeError α) : Keeps kept (shaped result) := by
  cases result with
  | ok result => exact keeps_pure result
  | error error => exact keeps_fail _

theorem keeps_checked (result : Except ArgumentError α) : Keeps kept (checked result) := by
  cases result with
  | ok result => exact keeps_pure result
  | error error => exact keeps_fail _

theorem keeps_get : Keeps kept (get : Action Depot) :=
  fun _ holds => holds

theorem Keeps.attempt {action : Action α} (keeps : Keeps kept action) :
    Keeps kept (attempt action) :=
  keeps

theorem kept_bind
    {first : Action α}
    {next : α -> Action β}
    {depot : Depot}
    (middle : kept (first depot).2)
    (nextKeeps : forall result, Keeps kept (next result)) :
    kept ((first >>= next) depot).2 := by
  rw [run_bind]
  cases ran : first depot with
  | mk outcome left =>
    rw [ran] at middle
    cases outcome with
    | ok result => exact nextKeeps result left middle
    | error failure => exact middle

theorem Keeps.bind
    {first : Action α}
    {next : α -> Action β}
    (firstKeeps : Keeps kept first)
    (nextKeeps : forall result, Keeps kept (next result)) :
    Keeps kept (first >>= next) :=
  fun depot holds => kept_bind (firstKeeps depot holds) nextKeeps

theorem Keeps.ite
    {condition : Prop}
    [Decidable condition]
    {first second : Action α}
    (firstKeeps : Keeps kept first)
    (secondKeeps : Keeps kept second) :
    Keeps kept (if condition then first else second) := by
  split
  next => exact firstKeeps
  next => exact secondKeeps

theorem Keeps.optional
    {condition : Prop}
    [Decidable condition]
    {first : Action β}
    {next : Action α}
    (firstKeeps : condition -> Keeps kept first)
    (nextKeeps : Keeps kept next) :
    Keeps kept (if condition then first >>= fun _ => next else next) := by
  split
  next holds => exact (firstKeeps holds).bind (fun _ => nextKeeps)
  next => exact nextKeeps

/-- The outcome of an action and the depot that it leaves are as they should be. -/
def Yields
    (action : Action α)
    (depot : Depot)
    (expected : Except Failure α -> Depot -> Prop) : Prop :=
  expected (action depot).1 (action depot).2

theorem Yields.bind
    {first : Action α}
    {next : α -> Action β}
    {depot : Depot}
    {middle : Except Failure α -> Depot -> Prop}
    {expected : Except Failure β -> Depot -> Prop}
    (yields : Yields first depot middle)
    (rest : forall result left, middle (.ok result) left -> Yields (next result) left expected)
    (failed : forall failure left, middle (.error failure) left ->
      expected (.error failure) left) :
    Yields (first >>= next) depot expected := by
  rw [Yields] at yields
  rw [Yields, run_bind]
  cases ran : first depot with
  | mk outcome left =>
    rw [ran] at yields
    cases outcome with
    | ok result => exact rest result left yields
    | error failure => exact failed failure left yields

theorem Yields.after
    {first : Action α}
    {next : α -> Action β}
    {depot middle : Depot}
    {result : α}
    {expected : Except Failure β -> Depot -> Prop}
    (ran : first depot = (.ok result, middle))
    (yields : Yields (next result) middle expected) :
    Yields (first >>= next) depot expected := by
  rw [Yields, run_bind_ok next ran]
  exact yields

theorem Yields.attempt_bind
    {first : Action α}
    {next : Except Failure α -> Action β}
    {depot : Depot}
    {middle : Except Failure α -> Depot -> Prop}
    {expected : Except Failure β -> Depot -> Prop}
    (yields : Yields first depot middle)
    (rest : forall outcome left, middle outcome left -> Yields (next outcome) left expected) :
    Yields (attempt first >>= next) depot expected := by
  rw [Yields, run_bind, run_attempt]
  exact rest _ _ yields

theorem Yields.mono
    {action : Action α}
    {depot : Depot}
    {given expected : Except Failure α -> Depot -> Prop}
    (yields : Yields action depot given)
    (implies : forall outcome left, given outcome left -> expected outcome left) :
    Yields action depot expected :=
  implies _ _ yields

theorem Yields.and
    {action : Action α}
    {depot : Depot}
    {first second : Except Failure α -> Depot -> Prop}
    (yieldsFirst : Yields action depot first)
    (yieldsSecond : Yields action depot second) :
    Yields action depot (fun outcome left => first outcome left ∧ second outcome left) :=
  ⟨yieldsFirst, yieldsSecond⟩

theorem Yields.check
    {condition : Prop}
    [Decidable condition]
    {problem : Problem}
    {next : Action α}
    {depot : Depot}
    {expected : Except Failure α -> Depot -> Prop}
    (failed : condition -> expected (.error (.of problem)) depot)
    (passed : Not condition -> Yields next depot expected) :
    Yields (if condition then (fail problem : Action PUnit) >>= fun _ => next else next) depot
      expected := by
  split
  next holds => exact failed holds
  next fails => exact passed fails

theorem yields_count
    {change : Metrics -> Metrics}
    {depot : Depot}
    {expected : Except Failure α -> Depot -> Prop}
    (next : Unit -> Action α)
    (yields : Yields (next ()) { depot with journal := depot.journal.count change } expected) :
    Yields (count change >>= next) depot expected :=
  .after (run_count change depot) yields

theorem yields_log
    {level event : String}
    {fields : List (String × Value)}
    {depot : Depot}
    {expected : Except Failure α -> Depot -> Prop}
    (next : Unit -> Action α)
    (yields : Yields (next ()) { depot with journal := depot.journal.log level event fields }
      expected) :
    Yields (log level event fields >>= next) depot expected :=
  .after (run_log level event fields depot) yields

theorem Yields.keeping
    {action : Action α}
    {depot : Depot}
    {expected : Except Failure α -> Depot -> Prop}
    (yields : Yields action depot expected)
    (keeps : Keeps kept action)
    (holds : kept depot) :
    Yields action depot (fun outcome left => expected outcome left ∧ kept left) :=
  ⟨yields, keeps depot holds⟩

def Settles (action : Action α) : Prop :=
  forall depot, exists result next, action depot = (.ok result, next)

theorem settles_pure (result : α) : Settles (pure result : Action α) :=
  fun depot => ⟨result, depot, rfl⟩

theorem settles_attempt (action : Action α) : Settles (attempt action) :=
  fun depot => ⟨(action depot).1, (action depot).2, rfl⟩

theorem settles_log (level event : String) (fields : List (String × Value)) :
    Settles (log level event fields) :=
  fun _ => ⟨(), _, rfl⟩

theorem Settles.bind
    {first : Action α}
    {next : α -> Action β}
    (firstSettles : Settles first)
    (nextSettles : forall result, Settles (next result)) :
    Settles (first >>= next) := by
  intro depot
  obtain ⟨result, middle, ran⟩ := firstSettles depot
  rw [run_bind_ok next ran]
  exact nextSettles result middle

end Action

end BlobDepot
