import BlobDepot.Proofs.Faults

set_option autoImplicit false

namespace BlobDepot

open BlobDepot.Action

/-- What disrupts a request comes before its effect and leaves the store open, and an answer in
the place of that of the service is a fault. -/
def Schedule.OnlyFaults (schedule : Schedule) : Prop :=
  forall (request : Request) number disruption,
    disruption ∈ schedule.disruptions request.method number ->
      disruption.closesStore = false ∧ disruption.effectFirst = false ∧
        forall outcome, disruption.outcome = some outcome ->
          exists fault : Failure, outcome = .error fault ∧ fault.IsFault

def Schedule.Raises (schedule : Schedule) (failure : Failure) : Prop :=
  exists method number, schedule.outcome? method number = some (.error failure)

theorem exists_request {method : Method} (writing : method.isWriting = true) :
    exists request : Request, request.method = method := by
  cases method
  case putObject => exact ⟨.putObject "" "" default 0 {}, rfl⟩
  case createUpload => exact ⟨.createUpload "" "" {}, rfl⟩
  case uploadPart => exact ⟨.uploadPart "" "" "" 0 default, rfl⟩
  case completeUpload => exact ⟨.completeUpload "" "" "" [], rfl⟩
  case abortUpload => exact ⟨.abortUpload "" "" "", rfl⟩
  all_goals cases writing

theorem Schedule.onlyFaults_calm : calm.OnlyFaults := by
  intro request number disruption listed
  cases listed

namespace Schedule.OnlyFaults

variable {schedule : Schedule}

theorem add
    {disruption : Disruption}
    {fault : Failure}
    (faulty : schedule.OnlyFaults)
    (harmless : disruption.closesStore = false ∧ disruption.effectFirst = false)
    (raised : disruption.outcome = some (.error fault))
    (isFault : fault.IsFault)
    (method : Method)
    (numbers : List Nat) :
    (schedule.add method numbers disruption).OnlyFaults := by
  intro request number added listed
  rcases List.mem_append.mp listed with earlier | new
  next => exact faulty request number added earlier
  next =>
    split at new
    next =>
      rw [List.mem_singleton.mp new]
      refine ⟨harmless.1, harmless.2, fun outcome given => ⟨fault, ?_, isFault⟩⟩
      exact Option.some.inj (given.symm.trans raised)
    next => cases new

theorem keepsOpen (faulty : schedule.OnlyFaults) (request : Request) :
    schedule.KeepsOpen request.method :=
  fun number disruption listed => (faulty request number disruption listed).1

theorem failsEarly (faulty : schedule.OnlyFaults) : schedule.FailsEarly := by
  intro method number disruption writing listed
  obtain ⟨request, rfl⟩ := exists_request writing
  obtain ⟨_, early, faults⟩ := faulty request number disruption listed
  rw [Disruption.IsEarly]
  split
  next answer given =>
    obtain ⟨fault, isFault, _⟩ := faults _ given
    cases isFault
  next => exact early

theorem outcome
    (faulty : schedule.OnlyFaults)
    (request : Request)
    {number : Nat}
    {outcome : Except Failure Answer}
    (given : schedule.outcome? request.method number = some outcome) :
    exists fault : Failure, outcome = .error fault ∧ fault.IsFault := by
  obtain ⟨disruption, listed, answers⟩ := List.exists_of_findSome?_eq_some given
  exact (faulty request number disruption listed).2.2 outcome answers

theorem respond
    (faulty : schedule.OnlyFaults)
    (request : Request)
    (number : Nat)
    (service : Service) :
    service.respond request (schedule.disruptions request.method number) =
      match schedule.outcome? request.method number with
      | some outcome => (outcome, service)
      | none => service.answer request :=
  Service.respond_early
    (fun disruption listed => (faulty request number disruption listed).2.1) service request

end Schedule.OnlyFaults

theorem Service.isFault_of_rejected
    {service : Service}
    {request : Request}
    {rejection : Rejection}
    (rejected : (service.perform request).1 = .error rejection) :
    (Failure.of (.rejected rejection)).IsFault := by
  apply Failure.isFault_of
  right
  cases request <;> simp only [perform] at rejected <;> (repeat' split at rejected) <;>
    cases rejected <;> exact ⟨_, rfl⟩

namespace Responded

variable {origin depot next : Depot} {borrowers : Nat} {request : Request}

theorem isFault
    {failure : Failure}
    (responded : Responded origin borrowers request depot (.error failure) next)
    (faulty : origin.schedule.OnlyFaults) :
    failure.IsFault := by
  have response := responded.response
  rw [faulty.respond] at response
  split at response
  next outcome given =>
    obtain ⟨fault, rfl, isFault⟩ := faulty.outcome request given
    have same : fault = failure := Except.error.inj (congrArg Prod.fst response)
    exact same ▸ isFault
  next =>
    cases performed : (depot.service.perform request).1 with
    | ok answer => simp [Service.answer, performed, Except.mapError] at response
    | error rejection =>
      have same : Failure.of (.rejected rejection) = failure := by
        simpa [Service.answer, performed, Except.mapError] using congrArg Prod.fst response
      exact same ▸ Service.isFault_of_rejected performed

theorem performed
    {answer : Answer}
    (responded : Responded origin borrowers request depot (.ok answer) next)
    (faulty : origin.schedule.OnlyFaults) :
    depot.service.perform request = (.ok answer, next.service) := by
  have response := responded.response
  rw [faulty.respond] at response
  split at response
  next outcome given =>
    obtain ⟨fault, rfl, _⟩ := faulty.outcome request given
    cases congrArg Prod.fst response
  next =>
    cases performed : depot.service.perform request with
    | mk result left =>
      rw [Service.answer, performed] at response
      cases result with
      | ok other =>
        cases response
        rfl
      | error rejection => cases response

theorem raised
    {answer : Answer}
    {service : Service}
    {failure : Failure}
    (responded : Responded origin borrowers request depot (.error failure) next)
    (faulty : origin.schedule.OnlyFaults)
    (performed : depot.service.perform request = (.ok answer, service)) :
    origin.schedule.Raises failure := by
  have response := responded.response
  rw [faulty.respond] at response
  split at response
  next outcome given =>
    have same : outcome = .error failure := congrArg Prod.fst response
    exact ⟨_, _, given.trans (congrArg some same)⟩
  next =>
    rw [Service.answer, performed] at response
    cases response

end Responded

def Event.fault? : Event -> Option (Request × Failure)
  | .answered request (.error failure) => some (request, failure)
  | _ => none

def firstFault? (events : List Event) : Option (Request × Failure) :=
  events.findSome? Event.fault?

def Met (first : Option (Request × Failure)) (depot next : Depot) : Prop :=
  exists events, next.exchange = depot.exchange ++ events ∧ firstFault? events = first

theorem Met.trans
    {first later : Option (Request × Failure)}
    {depot middle next : Depot}
    (met : Met first depot middle)
    (rest : Met later middle next) :
    Met (first.or later) depot next := by
  obtain ⟨events, exchange, isFirst⟩ := met
  obtain ⟨more, moreExchange, isLater⟩ := rest
  refine ⟨events ++ more, ?_, ?_⟩
  · rw [moreExchange, exchange, List.append_assoc]
  · rw [firstFault?, List.findSome?_append]
    exact congrArg₂ Option.or isFirst isLater

theorem SameWork.met {depot next : Depot} (same : SameWork depot next) : Met none depot next :=
  ⟨[], by rw [same.exchange, List.append_nil], rfl⟩

theorem Sent.met
    {request : Request}
    {depot next : Depot}
    {given : Except Failure Answer}
    (sent : Sent request depot given next) :
    Met (Event.answered request given).fault? depot next := by
  refine ⟨_, sent.exchange, ?_⟩
  cases given <;> rfl

def Faulted (schedule : Schedule) (depot : Depot) (failure : Failure) (next : Depot) : Prop :=
  exists request fault doing, failure = Failure.reported fault doing ∧ fault.IsFault ∧
    schedule.Raises fault ∧ Met (some (request, fault)) depot next

def Ended
    {α : Type}
    (schedule : Schedule)
    (depot : Depot)
    (expected : α -> Depot -> Prop) : Except Failure α -> Depot -> Prop
  | .ok result, next => Met none depot next ∧ expected result next
  | .error failure, next => Faulted schedule depot failure next

theorem Faulted.since
    {schedule : Schedule}
    {first depot next : Depot}
    {failure : Failure}
    (met : Met none first depot)
    (faulted : Faulted schedule depot failure next) :
    Faulted schedule first failure next := by
  obtain ⟨request, fault, doing, reported, isFault, raised, hit⟩ := faulted
  exact ⟨request, fault, doing, reported, isFault, raised, met.trans hit⟩

theorem Faulted.later
    {schedule : Schedule}
    {depot left next : Depot}
    {failure : Failure}
    {others : Option (Request × Failure)}
    (faulted : Faulted schedule depot failure left)
    (met : Met others left next) :
    Faulted schedule depot failure next := by
  obtain ⟨request, fault, doing, reported, isFault, raised, hit⟩ := faulted
  exact ⟨request, fault, doing, reported, isFault, raised, hit.trans met⟩

theorem Ended.since
    {α : Type}
    {schedule : Schedule}
    {first depot next : Depot}
    {expected : α -> Depot -> Prop}
    {outcome : Except Failure α}
    (met : Met none first depot)
    (ended : Ended schedule depot expected outcome next) :
    Ended schedule first expected outcome next := by
  cases outcome with
  | ok result => exact ⟨met.trans ended.1, ended.2⟩
  | error failure => exact Faulted.since met ended

def Caused
    {α : Type}
    (schedule : Schedule)
    (kind : Kind)
    (depot : Depot) : Except Failure α -> Depot -> Prop
  | .ok _, next => Met none depot next
  | .error failure, next => failure.kind = kind ∧
      exists cause, failure.cause = some cause ∧ Faulted schedule depot cause next

def Reports
    {α : Type}
    (origin : Depot)
    (borrowers : Nat)
    (work : Action α)
    (depot : Depot)
    (expected : α -> Depot -> Prop) : Prop :=
  Yields work depot (fun outcome next =>
    Attended origin borrowers next ∧ Ended origin.schedule depot expected outcome next)

theorem Reports.bind
    {α β : Type}
    {origin depot : Depot}
    {borrowers : Nat}
    {work : Action α}
    {next : α -> Action β}
    {middle : α -> Depot -> Prop}
    {expected : β -> Depot -> Prop}
    (reports : Reports origin borrowers work depot middle)
    (rest : forall result left, Attended origin borrowers left -> middle result left ->
      Reports origin borrowers (next result) left expected) :
    Reports origin borrowers (work >>= next) depot expected := by
  refine Yields.bind reports (fun result left done => ?_) (fun failure left done => done)
  obtain ⟨attended, met, holds⟩ := done
  -- No fault was met so far, so the first one of the rest is the first one of all.
  exact (rest result left attended holds).mono
    (fun outcome last ended => ⟨ended.1, ended.2.since met⟩)

theorem Reports.after
    {α β : Type}
    {origin depot middle : Depot}
    {borrowers : Nat}
    {work : Action α}
    {next : α -> Action β}
    {result : α}
    {expected : β -> Depot -> Prop}
    (ran : work depot = (.ok result, middle))
    (met : Met none depot middle)
    (reports : Reports origin borrowers (next result) middle expected) :
    Reports origin borrowers (work >>= next) depot expected :=
  Yields.after ran (reports.mono (fun _ _ ended => ⟨ended.1, ended.2.since met⟩))

theorem Reports.imp
    {α : Type}
    {origin depot : Depot}
    {borrowers : Nat}
    {work : Action α}
    {expected another : α -> Depot -> Prop}
    (reports : Reports origin borrowers work depot expected)
    (implies : forall result next, expected result next -> another result next) :
    Reports origin borrowers work depot another := by
  refine Yields.mono reports (fun outcome next done => ⟨done.1, ?_⟩)
  cases outcome with
  | ok result => exact ⟨done.2.1, implies result next done.2.2⟩
  | error failure => exact done.2

theorem Attended.reportsBorrowed
    {α : Type}
    {origin depot : Depot}
    {borrowers : Nat}
    {store : Store}
    {work : Action α}
    {expected : α -> Depot -> Prop}
    (attended : Attended origin borrowers depot)
    (leavesOpen : LeavesOpen store origin.schedule)
    (canLend : store.CanLend depot)
    (works : forall middle, Attended origin (borrowers + 1) middle -> Idle depot middle ->
      Reports origin (borrowers + 1) work middle expected)
    (stays : forall result left next, Idle left next -> expected result left ->
      expected result next) :
    Reports origin borrowers (store.borrowing work) depot expected := by
  -- Neither acquiring the client nor giving it back meets a fault.
  have borrowed : forall middle, Attended origin (borrowers + 1) middle -> Idle depot middle ->
      Yields work middle (fun outcome left => Attended origin (borrowers + 1) left ∧
        Ended origin.schedule depot expected outcome left) :=
    fun middle attendedMiddle before => Yields.mono (works middle attendedMiddle before)
      (fun _ _ done => ⟨done.1, done.2.since before.met⟩)
  refine (attended.borrowing leavesOpen canLend borrowed).mono (fun outcome next done => ?_)
  obtain ⟨attendedNext, _, left, ended, idle⟩ := done
  refine ⟨attendedNext, ?_⟩
  cases outcome with
  | ok result => exact ⟨ended.1.trans idle.met, stays result left next idle ended.2⟩
  | error failure => exact Faulted.later ended idle.met

section Accepted

variable {origin depot : Depot} {borrowers : Nat} {request : Request}
variable {answer : Answer} {service : Service}

theorem Attended.ask_accepted
    (attended : Attended origin (borrowers + 1) depot)
    (faulty : origin.schedule.OnlyFaults)
    (performed : depot.service.perform request = (.ok answer, service))
    (doing : String) :
    Yields (Client.ask request doing) depot (fun outcome next =>
      outcome = .ok answer ∧ Responded origin (borrowers + 1) request depot (.ok answer) next ∨
      exists fault, outcome = .error (Failure.reported fault doing) ∧ fault.IsFault ∧
        origin.schedule.Raises fault ∧
        Responded origin (borrowers + 1) request depot (.error fault) next) := by
  refine (attended.ask request (faulty.keepsOpen request) doing).mono
    (fun outcome next asked => ?_)
  obtain ⟨given, responded, rfl⟩ := asked
  cases given with
  | ok other =>
    -- Only the service gives answers, so this is the one that it would give.
    have same := (responded.performed faulty).symm.trans performed
    cases congrArg Prod.fst same
    exact .inl ⟨rfl, responded⟩
  | error fault =>
    have isFault := responded.isFault faulty
    exact .inr ⟨fault, congrArg Except.error (isFault.told doing), isFault,
      responded.raised faulty performed, responded⟩

theorem Attended.reports
    (attended : Attended origin (borrowers + 1) depot)
    (faulty : origin.schedule.OnlyFaults)
    (performed : depot.service.perform request = (.ok answer, service))
    (doing : String) :
    Reports origin (borrowers + 1) (Client.ask request doing) depot (fun given next =>
      given = answer ∧ Responded origin (borrowers + 1) request depot (.ok answer) next) := by
  refine (attended.ask_accepted faulty performed doing).mono (fun outcome next asked => ?_)
  rcases asked with ⟨rfl, responded⟩ | ⟨fault, rfl, isFault, raised, responded⟩
  next => exact ⟨responded.attended, responded.sent.met, rfl, responded⟩
  next =>
    exact ⟨responded.attended, request, fault, doing, rfl, isFault, raised, responded.sent.met⟩

end Accepted

end BlobDepot
