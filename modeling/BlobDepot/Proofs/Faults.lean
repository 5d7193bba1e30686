import BlobDepot.Proofs.Answers

set_option autoImplicit false

namespace BlobDepot

namespace Failure

/-- A rejected request, the status being absent or a number, or one that got no answer. -/
inductive IsFault (failure : Failure) : Prop
  | rejected (rejection : Rejection) (status : Option Int)
      (problem : failure.problem = .rejected rejection)
      (readable : rejection.statusNumber = .ok status) : IsFault failure
  | unanswered (transport : failure.isA .transport = true) : IsFault failure

def isAbsent (failure : Failure) : Bool :=
  match failure.problem with
  | .rejected rejection =>
      Rejection.absentCodes.contains rejection.codeText ||
        match rejection.statusNumber with
        | .ok status => status == some 404
        | .error _ => false
  | _ => false

theorem isFault_of {rejection : Rejection}
    (integral : rejection.status = none ∨ exists status, rejection.status = some (.int status)) :
    (Failure.of (.rejected rejection)).IsFault := by
  obtain absent | ⟨status, present⟩ := integral
  · exact .rejected rejection none rfl (by simp [Rejection.statusNumber, absent])
  · exact .rejected rejection (some status) rfl (by
      simp [Rejection.statusNumber, present, Value.toInteger, Except.map])

namespace IsFault

variable {failure : Failure}

theorem fromService (fault : failure.IsFault) : failure.fromService = true := by
  cases fault with
  | rejected rejection status problem readable =>
    simp [Failure.fromService, isA, kind, problem, Problem.kind, Kind.isA, Kind.lineage]
  | unanswered transport => simp [Failure.fromService, transport]

theorem told (fault : failure.IsFault) (doing : String) :
    failure.told doing = failure.reported doing :=
  if_pos fault.fromService

theorem not_rejected
    (transport : failure.isA .transport = true)
    (rejection : Rejection) :
    failure.problem ≠ .rejected rejection := by
  intro problem
  simp [isA, kind, problem, Problem.kind, Kind.isA, Kind.lineage] at transport

theorem present_of_transport (transport : failure.isA .transport = true) :
    failure.isAbsent = false := by
  rw [isAbsent]
  split
  next rejection problem => exact absurd problem (not_rejected transport rejection)
  next => rfl

theorem absent (fault : failure.IsFault) : Client.absent failure = .ok failure.isAbsent := by
  cases fault with
  | rejected rejection status problem readable =>
    simp only [Client.absent, isAbsent, problem, Rejection.meansAbsent, readable]
    cases Rejection.absentCodes.contains rejection.codeText <;> rfl
  | unanswered transport =>
    rw [present_of_transport transport, Client.absent]
    split
    next rejection problem => exact absurd problem (not_rejected transport rejection)
    next => rfl

theorem reported (fault : failure.IsFault) (doing : String) :
    exists problem, failure.reported doing = .because problem failure ∧
      problem.kind = if failure.isAbsent then .objectNotFound else .backend := by
  have absent := fault.absent
  cases fault with
  | rejected rejection status problem readable =>
    rw [Client.absent, problem] at absent
    have absent : rejection.meansAbsent = .ok failure.isAbsent := absent
    simp only [Failure.reported, problem, Rejection.reported, absent, readable]
    cases failure.isAbsent with
    | true => exact ⟨_, rfl, rfl⟩
    | false => exact ⟨_, rfl, rfl⟩
  | unanswered transport =>
    -- Without an answer nothing is known of the object, so it does not count as absent.
    rw [present_of_transport transport, Failure.reported]
    split
    next rejection problem => exact absurd problem (not_rejected transport rejection)
    next => exact ⟨_, rfl, rfl⟩

theorem reported_kind (fault : failure.IsFault) (doing : String) :
    (failure.reported doing).kind = if failure.isAbsent then .objectNotFound else .backend := by
  obtain ⟨problem, reports, kind⟩ := fault.reported doing
  rw [reports]
  exact kind

theorem reported_cause (fault : failure.IsFault) (doing : String) :
    (failure.reported doing).cause = some failure := by
  obtain ⟨problem, reports, _⟩ := fault.reported doing
  rw [reports]
  rfl

theorem reported_backend (fault : failure.IsFault) (doing : String) :
    (failure.reported doing).isA .backend = true := by
  rw [isA, fault.reported_kind doing]
  cases failure.isAbsent <;> rfl

theorem reported_ordinary (fault : failure.IsFault) (doing : String) :
    (failure.reported doing).isA .ordinary = true := by
  rw [isA, fault.reported_kind doing]
  cases failure.isAbsent <;> rfl

end IsFault

end Failure

end BlobDepot
