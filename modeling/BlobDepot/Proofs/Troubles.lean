import BlobDepot.Proofs.Faults
import BlobDepot.Proofs.Loans
import Mathlib.Algebra.Order.Ring.Int

set_option autoImplicit false

namespace BlobDepot

open BlobDepot.Action

def Request.doing : Request -> String
  | .headObject .. => "Failed to get object metadata"
  | .getObject .. => "Failed to get object"
  | .putObject .. => "Failed to put object"
  | .createUpload .. => "Failed to create multipart upload"
  | .uploadPart _ _ _ number _ => "Failed to upload part " ++ toString number
  | .completeUpload .. => "Failed to complete multipart upload"
  | .abortUpload .. => "Failed to abort multipart upload"
  | .deleteObject .. => "Failed to delete object"
  | .deleteObjects .. => "Failed to delete objects"
  | .listObjects .. => "Failed to list objects"

inductive Trouble where
  | asked (request : Request) (fault : Failure)
  | other (failure : Failure)

def Trouble.failure : Trouble -> Failure
  | .asked request fault => fault.reported request.doing
  | .other failure => failure

def Request.trouble (request : Request) (failure : Failure) : Trouble :=
  if failure.fromService then .asked request failure else .other failure

@[simp]
theorem Request.failure_trouble (request : Request) (failure : Failure) :
    (request.trouble failure).failure = failure.told request.doing := by
  by_cases service : failure.fromService = true <;>
    simp [trouble, Trouble.failure, Failure.told, service]

def Request.complaint? : Request -> Answer -> Option Failure
  | .createUpload _ key _, answer =>
      match answer.description.findEntry "UploadId" with
      | .error error => some (.of (.shape error))
      | .ok _ => if answer.uploadId?.isSome then none else some (.of (.uploadNotInitialized key))
  | .uploadPart .., answer =>
      match answer.description.entry "ETag" with
      | .error error => some (.of (.shape error))
      | .ok _ => none
  | _, _ => none

namespace Event

/-- The failure of an abort is no trouble of the upload. -/
def trouble? : Event -> Option Trouble
  | .read _ (.error failure) => some (.other failure)
  | .answered (.abortUpload ..) _ => none
  | .answered request (.error failure) => some (request.trouble failure)
  | .answered request (.ok answer) => (request.complaint? answer).map .other
  | _ => none

def started? : Event -> Option String
  | .answered (.createUpload ..) (.ok answer) => answer.uploadId?
  | _ => none

def sentLength : Event -> Int
  | .answered (.uploadPart _ _ _ _ body) (.ok _) => body.length
  | _ => 0

def stores : Event -> Bool
  | .answered (.putObject ..) (.ok _) | .answered (.completeUpload ..) (.ok _) => true
  | _ => false

def abortAnswer? : Event -> Option (Except Failure Answer)
  | .answered (.abortUpload ..) given => some given
  | _ => none

end Event

def firstTrouble? (events : List Event) : Option Trouble :=
  events.findSome? Event.trouble?

def startedUpload? (events : List Event) : Option String :=
  events.findSome? Event.started?

def abortAnswer? (events : List Event) : Option (Except Failure Answer) :=
  events.findSome? Event.abortAnswer?

def sentLength (events : List Event) : Int :=
  (events.map Event.sentLength).sum

section Append

variable (before later : List Event)

@[simp]
theorem firstTrouble?_append :
    firstTrouble? (before ++ later) = (firstTrouble? before).or (firstTrouble? later) :=
  List.findSome?_append

@[simp]
theorem startedUpload?_nil : startedUpload? [] = none :=
  rfl

@[simp]
theorem startedUpload?_append :
    startedUpload? (before ++ later) = (startedUpload? before).or (startedUpload? later) :=
  List.findSome?_append

@[simp]
theorem abortAnswer?_append :
    abortAnswer? (before ++ later) = (abortAnswer? before).or (abortAnswer? later) :=
  List.findSome?_append

@[simp]
theorem sentLength_append :
    sentLength (before ++ later) = sentLength before + sentLength later := by
  simp [sentLength]

end Append

section Exchange

variable (request : Request) (given : Except Failure Answer)

@[simp]
theorem firstTrouble?_events :
    firstTrouble? (request.events given) = (Event.answered request given).trouble? := by
  have asked : (Event.called (.request request)).trouble? = none := rfl
  rw [firstTrouble?, Request.events, List.findSome?_cons, asked]
  exact List.findSome?_singleton

@[simp]
theorem startedUpload?_events :
    startedUpload? (request.events given) = (Event.answered request given).started? := by
  have asked : (Event.called (.request request)).started? = none := rfl
  rw [startedUpload?, Request.events, List.findSome?_cons, asked]
  exact List.findSome?_singleton

@[simp]
theorem abortAnswer?_events :
    abortAnswer? (request.events given) = (Event.answered request given).abortAnswer? := by
  have asked : (Event.called (.request request)).abortAnswer? = none := rfl
  rw [abortAnswer?, Request.events, List.findSome?_cons, asked]
  exact List.findSome?_singleton

@[simp]
theorem sentLength_events :
    sentLength (request.events given) = (Event.answered request given).sentLength := by
  simp [sentLength, Request.events, Event.sentLength]

end Exchange

section Work

variable (events : List Event)

theorem findSome?_work
    {α : Type}
    {shown : Event -> Option α}
    (aside : forall event, event.isWork = false -> shown event = none) :
    (events.filter Event.isWork).findSome? shown = events.findSome? shown := by
  induction events with
  | nil => rfl
  | cons event rest ih =>
    cases work : event.isWork with
    | true => rw [List.filter_cons_of_pos work, List.findSome?_cons, List.findSome?_cons, ih]
    | false =>
      rw [List.filter_cons_of_neg (Bool.not_eq_true _ |>.mpr work), List.findSome?_cons,
        aside event work]
      exact ih

@[simp]
theorem firstTrouble?_work : firstTrouble? (events.filter Event.isWork) = firstTrouble? events :=
  findSome?_work events (fun event aside => by cases event <;> first | rfl | cases aside)

@[simp]
theorem startedUpload?_work :
    startedUpload? (events.filter Event.isWork) = startedUpload? events :=
  findSome?_work events (fun event aside => by cases event <;> first | rfl | cases aside)

@[simp]
theorem abortAnswer?_work : abortAnswer? (events.filter Event.isWork) = abortAnswer? events :=
  findSome?_work events (fun event aside => by cases event <;> first | rfl | cases aside)

@[simp]
theorem any_stores_work :
    (events.filter Event.isWork).any Event.stores = events.any Event.stores := by
  have work (event : Event) : (event.isWork && event.stores) = event.stores := by
    cases event <;> first | rfl | exact Bool.and_false _
  simp only [List.any_filter, work]

@[simp]
theorem sentLength_work : sentLength (events.filter Event.isWork) = sentLength events := by
  induction events with
  | nil => rfl
  | cons event rest ih =>
    simp only [sentLength] at ih ⊢
    cases work : event.isWork with
    | true => simp [work, ih]
    | false =>
      have nothing : event.sentLength = 0 := by cases event <;> first | rfl | cases work
      simp [work, ih, nothing]

end Work

def Tells {α : Type} (events : List Event) : Except Failure α -> Prop
  | .ok _ => firstTrouble? events = none
  | .error failure =>
      exists trouble, firstTrouble? events = some trouble ∧ trouble.failure = failure

theorem Tells.after
    {α β : Type}
    {before later : List Event}
    {result : α}
    {outcome : Except Failure β}
    (untroubled : Tells before (.ok result : Except Failure α))
    (tells : Tells later outcome) :
    Tells (before ++ later) outcome := by
  have quiet : firstTrouble? before = none := untroubled
  cases outcome with
  | ok _ =>
    have goesOn : firstTrouble? later = none := tells
    simp [Tells, quiet, goesOn]
  | error failure =>
    obtain ⟨trouble, found, fails⟩ := tells
    exact ⟨trouble, by simp [quiet, found], fails⟩

namespace Request

def conclude
    {α : Type}
    (request : Request)
    (given : Except Failure Answer)
    (result : Answer -> α) : Except Failure α :=
  match given with
  | .error failure => .error (failure.told request.doing)
  | .ok answer =>
      match request.complaint? answer with
      | some failure => .error failure
      | none => .ok (result answer)

theorem tells_conclude
    {α : Type}
    {request : Request}
    (upload : request.method ≠ .abortUpload)
    (given : Except Failure Answer)
    (result : Answer -> α) :
    Tells (request.events given) (request.conclude given result) := by
  have shown : (Event.answered request given).trouble? =
      match given with
      | .error failure => some (request.trouble failure)
      | .ok answer => (request.complaint? answer).map .other := by
    cases request <;> cases given <;> first | rfl | exact absurd rfl upload
  cases given with
  | error failure => exact ⟨request.trouble failure, by simp [shown], by simp⟩
  | ok answer =>
    cases complaint : request.complaint? answer with
    | none => simp [conclude, Tells, shown, complaint]
    | some failure => simp [conclude, Tells, shown, complaint, Trouble.failure]

theorem of_conclude
    {α : Type}
    {request : Request}
    {given : Except Failure Answer}
    {result : Answer -> α}
    {value : α}
    (concluded : request.conclude given result = .ok value) :
    exists answer,
      given = .ok answer ∧ request.complaint? answer = none ∧ result answer = value := by
  cases given with
  | error failure => cases concluded
  | ok answer =>
    cases complaint : request.complaint? answer with
    | some failure => simp [conclude, complaint] at concluded
    | none => exact ⟨answer, rfl, complaint, by simpa [conclude, complaint] using concluded⟩

end Request

/-- What goes wrong with an upload in parts: the first trouble that shows, or the wrong length. -/
def partsTrouble? (key : String) (size : Int) (events : List Event) : Option Trouble :=
  (firstTrouble? events).or
    (if sentLength events = size then none
      else some (.other (.of (.sizeMismatch key size (sentLength events)))))

def Metrics.failedUploads (metrics : Metrics) : Nat :=
  metrics.singleFailures + metrics.multipartFailures

structure Traced (depot : Depot) (events : List Event) (next : Depot) : Prop where
  trace : next.trace = depot.trace ++ events
  failures : next.journal.metrics.failedUploads = depot.journal.metrics.failedUploads

theorem Traced.trans
    {depot middle next : Depot}
    {events later : List Event}
    (first : Traced depot events middle)
    (second : Traced middle later next) :
    Traced depot (events ++ later) next where
  trace := by rw [second.trace, first.trace, List.append_assoc]
  failures := second.failures.trans first.failures

theorem Apart.traced {depot next : Depot} (apart : Apart depot next) : Traced depot [] next where
  trace := by rw [apart.trace, List.append_nil]
  failures := congrArg Metrics.failedUploads apart.metrics

def Works
    {α : Type}
    (origin : Depot)
    (others : Nat)
    (work : Action α)
    (depot : Depot)
    (expected : Except Failure α -> List Event -> Prop) : Prop :=
  Yields work depot (fun outcome next =>
    Lent origin (others + 1) next ∧
      exists events, Traced depot events next ∧ expected outcome events)

namespace Works

variable {α β : Type} {origin depot : Depot} {others : Nat}

theorem bind
    {first : Action α}
    {next : α -> Action β}
    {middle : Except Failure α -> List Event -> Prop}
    {expected : Except Failure β -> List Event -> Prop}
    (works : Works origin others first depot middle)
    (rest : forall result left events, Lent origin (others + 1) left ->
      middle (.ok result) events -> Works origin others (next result) left
        (fun outcome later => expected outcome (events ++ later)))
    (failed : forall failure events, middle (.error failure) events ->
      expected (.error failure) events) :
    Works origin others (first >>= next) depot expected := by
  refine Yields.bind works (fun result left done => ?_) (fun failure left done => ?_)
  · obtain ⟨lent, events, traced, holds⟩ := done
    refine Yields.mono (rest result left events lent holds) (fun outcome last ended => ?_)
    obtain ⟨lentLast, later, tracedLater, holds⟩ := ended
    exact ⟨lentLast, events ++ later, traced.trans tracedLater, holds⟩
  · obtain ⟨lent, events, traced, holds⟩ := done
    exact ⟨lent, events, traced, failed failure events holds⟩

theorem attempt_bind
    {first : Action α}
    {next : Except Failure α -> Action β}
    {middle : Except Failure α -> List Event -> Prop}
    {expected : Except Failure β -> List Event -> Prop}
    (works : Works origin others first depot middle)
    (rest : forall outcome left events, Lent origin (others + 1) left -> middle outcome events ->
      Works origin others (next outcome) left
        (fun outcome later => expected outcome (events ++ later))) :
    Works origin others (attempt first >>= next) depot expected := by
  have attempted : Works origin others (attempt first) depot (fun outcome events =>
      exists result, outcome = .ok result ∧ middle result events) := by
    obtain ⟨lent, events, traced, holds⟩ := works
    exact ⟨lent, events, traced, _, rfl, holds⟩
  refine attempted.bind (fun result left events lent holds => ?_) (fun failure events holds => ?_)
  · obtain ⟨outcome, same, holds⟩ := holds
    cases same
    exact rest result left events lent holds
  · obtain ⟨outcome, impossible, _⟩ := holds
    cases impossible

theorem mono
    {work : Action α}
    {given expected : Except Failure α -> List Event -> Prop}
    (works : Works origin others work depot given)
    (implies : forall outcome events, given outcome events -> expected outcome events) :
    Works origin others work depot expected := by
  obtain ⟨lent, events, traced, holds⟩ := works
  exact ⟨lent, events, traced, implies _ _ holds⟩

theorem ends
    {work : Action α}
    {outcome : Except Failure α}
    {expected : Except Failure α -> List Event -> Prop}
    (lent : Lent origin (others + 1) depot)
    (ran : work depot = (outcome, depot))
    (holds : expected outcome []) :
    Works origin others work depot expected := by
  rw [Works, Yields, ran]
  exact ⟨lent, [], (Apart.refl depot).traced, holds⟩

theorem after
    {first : Action α}
    {next : α -> Action β}
    {result : α}
    {middle : Depot}
    {expected : Except Failure β -> List Event -> Prop}
    (ran : first depot = (.ok result, middle))
    (traced : Traced depot [] middle)
    (works : Works origin others (next result) middle expected) :
    Works origin others (first >>= next) depot expected := by
  refine Yields.after ran (Yields.mono works (fun outcome left done => ?_))
  obtain ⟨lent, events, tracedLeft, holds⟩ := done
  exact ⟨lent, events, by simpa using traced.trans tracedLeft, holds⟩

theorem log_bind
    {level event : String}
    {fields : List (String × Value)}
    {next : Unit -> Action α}
    {expected : Except Failure α -> List Event -> Prop}
    (lent : Lent origin (others + 1) depot)
    (rest : forall middle, Lent origin (others + 1) middle ->
      Works origin others (next ()) middle expected) :
    Works origin others (log level event fields >>= next) depot expected :=
  after (run_log level event fields depot) ⟨(List.append_nil _).symm, rfl⟩
    (rest _ (lent.logs rfl))

end Works

section Steps

variable {origin depot : Depot} {others : Nat}

theorem Lent.readSource
    (lent : Lent origin (others + 1) depot)
    (size : Int) :
    Works origin others (Client.readSource size) depot
      (fun outcome events => events = [.read size outcome]) := by
  have kept := (Lent.lasting origin others).reads size depot lent
  have apart : Apart depot (Store.close depot).2 :=
    Detached.apart (fun detached => detached.close) depot
  have closes := lent.close_of_borrowed
  have reads : forall middle, Apart depot middle ->
      Traced depot [.read size (middle.source.read size).1]
        (Depot.recorded { middle with source := (middle.source.read size).2 }
          (.read size (middle.source.read size).1)) := by
    intro middle same
    refine ⟨?_, same.traced.failures⟩
    rw [Depot.trace_recorded]
    exact congrArg (· ++ _) same.trace
  rw [Works, Yields]
  refine ⟨kept, ?_⟩
  simp only [Client.readSource, run_bind_ok _ (run_get depot)]
  by_cases closing : depot.source.nextEvent.closesStore = true
  next =>
    rw [if_pos closing]
    cases ran : Store.close depot with
    | mk outcome middle =>
      rw [ran] at closes apart
      cases closes
      simp only [run_bind_ok _ ran, run_bind, run_get, run_set, run_record, run_settle]
      exact ⟨_, reads middle apart, rfl⟩
  next =>
    rw [if_neg closing]
    simp only [run_bind, run_get, run_set, run_record, run_settle]
    exact ⟨_, reads depot (Apart.refl depot), rfl⟩

theorem Lent.send
    (lent : Lent origin (others + 1) depot)
    (request : Request) :
    Works origin others (Action.send request) depot
      (fun outcome events => events = request.events outcome) := by
  -- Closing the store meanwhile adds nothing to the trace.
  let asked (next : Depot) : Prop :=
    next.trace = depot.trace ++ [.called (.request request)] ∧
      next.journal.metrics = depot.journal.metrics
  have closing : Keeps asked Store.close := by
    intro next holds
    have apart : Apart next (Store.close next).2 :=
      Detached.apart (fun detached => detached.close) next
    exact ⟨apart.trace.trans holds.1, apart.metrics.trans holds.2⟩
  have recorded : asked (depot.recorded (.called (.request request))) :=
    ⟨Depot.trace_recorded depot _, rfl⟩
  have called : asked (call Store.close (.request request) (serve request) pure depot).2 :=
    call_keeps recorded (fun _ _ _ _ => closing) (fun _ holds => holds) keeps_pure
  have kept := (Lent.lasting origin others).sends request trivial depot lent
  rw [Works, Yields]
  refine ⟨kept, _, ⟨?_, ?_⟩, rfl⟩
  · simp only [Action.send, run_bind, run_attempt, run_record, run_settle]
    rw [Depot.trace_recorded, called.1, List.append_assoc]
    rfl
  · simp only [Action.send, run_bind, run_attempt, run_record, run_settle]
    exact congrArg Metrics.failedUploads called.2

theorem Lent.asks
    (lent : Lent origin (others + 1) depot)
    (request : Request) :
    Works origin others (Client.ask request request.doing) depot (fun outcome events =>
      exists given, events = request.events given ∧
        outcome = given.mapError (fun failure => failure.told request.doing)) := by
  refine (lent.send request).attempt_bind (fun given left events lentLeft sent => ?_)
  subst sent
  cases given with
  | ok answer => exact .ends lentLeft rfl ⟨.ok answer, List.append_nil _, rfl⟩
  | error failure => exact .ends lentLeft rfl ⟨.error failure, List.append_nil _, rfl⟩

end Steps

end BlobDepot
