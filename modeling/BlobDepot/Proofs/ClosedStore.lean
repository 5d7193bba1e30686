import BlobDepot.Proofs.AcceptedWrites

set_option autoImplicit false

namespace BlobDepot

open BlobDepot.Action

def Shut (events : List Event) (depot : Depot) : Prop :=
  depot.closed = true ∧ depot.journal.events = events

namespace Shut

variable {events : List Event}

theorem lending (store : Store) : Lending store (Shut events) (fun _ _ => False) where
  logs _ _ same shut := ⟨shut.1, same.trans shut.2⟩
  acquires depot shut := by
    rw [acquire_of_closed store shut.1]
    exact shut
  releases _ _ never := never.elim

theorem lasting : Lasting (fun _ => True) (fun _ => False) where
  logs _ _ _ never := never
  reads _ _ never := never
  sends _ _ _ never := never

theorem operate (container : Container) (operation : Operation) :
    Keeps (Shut events) (operation.run container) :=
  (lending container.store).operate (fun _ => lasting) (fun _ _ shut => shut) operation

end Shut

def Container.refusedWrite (container : Container) (size : Int) : Failure :=
  if container.store.config.Accepts size then .of (.state .storeClosed)
  else .of (.argument (container.refusal size))

/-- What an operation ends with on a closed store.  Whether a blob exists is not known then, which
is also why it is not deleted; to delete no blobs at all takes no client. -/
def Operation.refused (container : Container) : Operation -> Except Failure Reply
  | .write _ _ size _ => .error (container.refusedWrite size)
  | .writeBytes _ content _ => .error (container.refusedWrite content.length)
  | .check name | .delete name =>
      .error (.because (.existenceUnknown name) (.of (.state .storeClosed)))
  | .deleteMany [] => .ok .done
  | .read _ | .deleteIfExists _ | .deleteMany _ | .list _ => .error (.of (.state .storeClosed))

section Closed

variable {container : Container} {depot : Depot} {size : Int}

theorem borrowing_of_closed
    {α : Type}
    (closed : depot.closed = true)
    (store : Store)
    (work : Action α) :
    store.borrowing work depot = (.error (.of (.state .storeClosed)), depot) :=
  run_bind_error _ (acquire_of_closed store closed)

theorem putWhole_of_closed (closed : depot.closed = true) (key : String) :
    (container.putWhole key size depot).1 = .error (.of (.state .storeClosed)) := by
  simp only [Container.putWhole, run_bind, run_attempt, borrowing_of_closed closed]
  rfl

theorem sendPlanned_of_closed (closed : depot.closed = true) (key : String) (plan : PartPlan) :
    (container.sendPlanned key size plan depot).1 = .error (.of (.state .storeClosed)) := by
  have unborrowed : container.borrowForPlan key size plan depot =
      (.ok (.notStarted, .error (.of (.state .storeClosed))), depot) := by
    simp only [Container.borrowForPlan, run_bind, run_attempt, acquire_of_closed _ closed]
    rfl
  rw [Container.sendPlanned, run_bind_ok _ unborrowed]
  rfl

theorem uploadUnguarded_of_closed (closed : depot.closed = true) (key : String) :
    (container.uploadUnguarded key size depot).1 = .error (container.refusedWrite size) := by
  rw [Container.uploadUnguarded]
  split
  next exceeds =>
    rw [Container.refusedWrite, if_neg (exceeds_iff.mp exceeds)]
    rfl
  next held =>
    rw [Container.refusedWrite, if_pos (not_not.mp (exceeds_iff.not.mp held))]
    split
    next => exact putWhole_of_closed closed key
    next => exact sendPlanned_of_closed closed key _

theorem writeBlob_refused
    (closed : depot.closed = true)
    (name : String)
    (failIfExists : Bool) :
    (container.writeBlob name size failIfExists depot).1 =
      .error (container.refusedWrite size) := by
  rw [Container.writeBlob_eq_writeUnguarded, Container.writeUnguarded]
  cases failIfExists with
  | false => exact uploadUnguarded_of_closed closed _
  | true =>
    simp only [if_true, run_bind_ok _ (run_log _ _ _ depot)]
    refine uploadUnguarded_of_closed ?_ _
    exact closed

/-- An operation on a closed store does nothing at the border of the run and is refused. -/
theorem Operation.run_of_closed
    (container : Container)
    (operation : Operation)
    (closed : depot.closed = true) :
    (operation.run container depot).1 = operation.refused container ∧
      (operation.run container depot).2.journal.history = depot.journal.history := by
  have shut := Shut.operate container operation depot ⟨closed, rfl⟩
  refine ⟨?_, congrArg List.reverse shut.2⟩
  have unborrowed {α : Type} (work : Action α) := borrowing_of_closed closed container.store work
  cases operation with
  | write name source size failIfExists =>
    rw [Operation.run, run_bind_ok _ (run_modify _ depot)]
    refine outcome_bind (writeBlob_refused ?_ name failIfExists) _
    exact closed
  | writeBytes name content failIfExists =>
    refine outcome_bind ?_ _
    rw [Container.writeBlobBytes, run_bind_ok _ (run_modify _ depot)]
    refine writeBlob_refused ?_ name failIfExists
    exact closed
  | read name =>
    simp only [Operation.run, Container.readBlob, run_bind, unborrowed]
    rfl
  | check name =>
    simp only [Operation.run, Container.blobExists, Container.reporting, run_bind, run_attempt,
      unborrowed]
    rfl
  | delete name =>
    simp only [Operation.run, Container.deleteBlob, Container.blobExists, Container.reporting,
      run_bind, run_attempt, unborrowed]
    rfl
  | deleteIfExists name =>
    simp only [Operation.run, Container.deleteBlobIfExists, Container.reporting, run_bind,
      run_attempt, unborrowed]
    rfl
  | deleteMany names =>
    cases names with
    | nil => rfl
    | cons name rest =>
      refine outcome_bind ?_ _
      simp only [Container.deleteBlobsIfExist, List.isEmpty_cons, Bool.false_eq_true, if_false]
      obtain ⟨batches, parted⟩ : exists batches, DeleteBatch.partition
          ((name :: rest).map container.key) Limits.bulkDeletes = .ok batches := ⟨_, rfl⟩
      simp only [parted, checked, run_bind, run_pure, unborrowed]
  | list selection =>
    simp only [Operation.run, Container.listBlobs, Container.reporting, run_bind, run_attempt,
      unborrowed]
    rfl

end Closed

end BlobDepot
