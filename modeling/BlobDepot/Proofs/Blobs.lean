import BlobDepot.Proofs.Calm

set_option autoImplicit false

namespace BlobDepot

open BlobDepot.Action

namespace Service

theorem perform_headObject (service : Service) (bucket key : String) :
    service.perform (.headObject bucket key) =
      (match (service.objects bucket).get? key with
        | none => .error (.of "HeadObject" "404" "Not Found" 404)
        | some body => .ok (.data (.ofFields [("ContentLength", .int body.length)])),
        service.reach bucket) := by
  simp only [perform, reachesBucket, if_true, objects_reach, Request.bucket]
  cases (service.objects bucket).get? key <;> rfl

theorem perform_getObject (service : Service) (bucket key : String) :
    service.perform (.getObject bucket key) =
      (match (service.objects bucket).get? key with
        | none => .error (.of "GetObject" "NoSuchKey" "The specified key does not exist." 404)
        | some body => .ok (.content body),
        service.reach bucket) := by
  simp only [perform, reachesBucket, if_true, objects_reach, Request.bucket]
  cases (service.objects bucket).get? key <;> rfl

theorem perform_deleteObject (service : Service) (bucket key : String) :
    exists next, service.perform (.deleteObject bucket key) = (.ok (.data (.map [])), next) ∧
      next.objects =
        Function.update service.objects bucket ((service.objects bucket).erase key) := by
  refine ⟨_, rfl, ?_⟩
  rw [objects_setObjects]
  simp only [reachesBucket, if_true, objects_reach, Request.bucket]

end Service

def Container.missing (name : String) : Failure :=
  readFailure name ((Failure.of (.rejected
    (.of "GetObject" "NoSuchKey" "The specified key does not exist." 404))).reported
      "Failed to get object")

theorem Container.missing_kind (name : String) : (missing name).kind = .blobNotFound :=
  rfl

namespace Steady

variable {origin depot : Depot} {borrowers : Nat}

theorem objectExists
    (steady : Steady origin (borrowers + 1) depot)
    (bucket key : String) :
    Serves origin (borrowers + 1) (Client.objectExists bucket key) depot (fun outcome service =>
      outcome = .ok ((depot.service.objects bucket).get? key).isSome ∧
        service.objects = depot.service.objects) := by
  refine (steady.send (.headObject bucket key)).attempt_bind (fun outcome next sent => ?_)
  obtain ⟨steadyNext, _, service, rfl⟩ := sent
  rw [Service.perform_headObject] at service ⊢
  have objects : next.service.objects = depot.service.objects := by
    rw [service, Service.objects_reach]
  cases (depot.service.objects bucket).get? key with
  | none => exact ⟨steadyNext, rfl, objects⟩
  | some body => exact ⟨steadyNext, rfl, objects⟩

theorem getObject
    (steady : Steady origin (borrowers + 1) depot)
    (bucket key : String) :
    Serves origin (borrowers + 1) (Client.getObject bucket key) depot (fun outcome service =>
      service.objects = depot.service.objects ∧
        match (depot.service.objects bucket).get? key with
        | some body => outcome = .ok (.stream body)
        | none => outcome = .error ((Failure.of (.rejected
            (.of "GetObject" "NoSuchKey" "The specified key does not exist." 404))).reported
              "Failed to get object")) := by
  have performed := Service.perform_getObject depot.service bucket key
  have objects : (depot.service.reach bucket).objects = depot.service.objects :=
    Service.objects_reach _ _
  cases found : (depot.service.objects bucket).get? key with
  | some body =>
    rw [found] at performed
    obtain ⟨next, answered, steadyNext, _, service⟩ :=
      steady.answered performed "Failed to get object"
    rw [Serves, Yields, Client.getObject, run_bind_ok _ answered]
    exact ⟨steadyNext, (congrArg Service.objects service).trans objects, rfl⟩
  | none =>
    rw [found] at performed
    obtain ⟨next, rejected, steadyNext, service⟩ :=
      steady.rejected performed "Failed to get object"
    rw [Serves, Yields, Client.getObject, run_bind_error _ rejected]
    exact ⟨steadyNext, (congrArg Service.objects service).trans objects, rfl⟩

theorem deleteObject
    (steady : Steady origin (borrowers + 1) depot)
    (bucket key : String) :
    Serves origin (borrowers + 1) (Client.deleteObject bucket key) depot (fun outcome service =>
      outcome = .ok () ∧ service.objects =
        Function.update depot.service.objects bucket
          ((depot.service.objects bucket).erase key)) := by
  obtain ⟨service, performed, objects⟩ := depot.service.perform_deleteObject bucket key
  obtain ⟨next, answered, steadyNext, _, isService⟩ :=
    steady.answered performed "Failed to delete object"
  rw [Serves, Yields, Client.deleteObject, run_bind_ok _ answered]
  exact ⟨steadyNext, rfl, (congrArg Service.objects isService).trans objects⟩

theorem blobExists
    (steady : Steady origin borrowers depot)
    (container : Container)
    (name : String) :
    Serves origin borrowers (container.blobExists name) depot (fun outcome service =>
      outcome = .ok ((depot.service.objects container.bucket).get? (container.key name)).isSome ∧
        service.objects = depot.service.objects) := by
  have looks := steady.borrowing container.store (fun middle steadyMiddle same => by
    have answers := steadyMiddle.objectExists container.bucket (container.key name)
    rw [same.service] at answers
    exact answers)
  exact looks.reporting (fun _ _ looked => ⟨_, looked.1⟩) _ _

theorem readBlob
    (steady : Steady origin borrowers depot)
    (container : Container)
    (name : String) :
    Serves origin borrowers (container.readBlob name) depot (fun outcome service =>
      service.objects = depot.service.objects ∧
        match (depot.service.objects container.bucket).get? (container.key name) with
        | some body => outcome = .ok (.stream body)
        | none => outcome = .error (Container.missing name)) := by
  refine steady.borrowing container.store (fun middle steadyMiddle same => ?_)
  have gets := steadyMiddle.getObject container.bucket (container.key name)
  rw [same.service] at gets
  refine gets.attempt_bind (fun outcome next got => ?_)
  obtain ⟨steadyNext, objects, given⟩ := got
  cases found : (depot.service.objects container.bucket).get? (container.key name) with
  | some body =>
    rw [found] at given
    subst given
    exact ⟨steadyNext, objects, rfl⟩
  | none =>
    rw [found] at given
    subst given
    exact ⟨steadyNext, objects, rfl⟩

theorem deleteBlobIfExists
    (steady : Steady origin borrowers depot)
    (container : Container)
    (name : String) :
    Serves origin borrowers (container.deleteBlobIfExists name) depot (fun outcome service =>
      outcome = .ok () ∧ service.objects =
        Function.update depot.service.objects container.bucket
          ((depot.service.objects container.bucket).erase (container.key name))) := by
  have deletes : Serves origin borrowers
      (container.store.borrowing (Client.deleteObject container.bucket (container.key name))) depot
      (fun outcome service => outcome = .ok () ∧ service.objects =
        Function.update depot.service.objects container.bucket
          ((depot.service.objects container.bucket).erase (container.key name))) := by
    refine steady.borrowing container.store (fun middle steadyMiddle same => ?_)
    rw [<- same.service]
    exact steadyMiddle.deleteObject container.bucket (container.key name)
  refine (deletes.reporting (fun _ _ deleted => ⟨_, deleted.1⟩) _ _).bind_ok
    (fun next steadyNext objects => ?_)
  exact ⟨steadyNext.logs rfl, rfl, objects⟩

theorem deleteBlob
    (steady : Steady origin borrowers depot)
    (container : Container)
    (name : String) :
    Serves origin borrowers (container.deleteBlob name) depot (fun outcome service =>
      if ((depot.service.objects container.bucket).get? (container.key name)).isSome = true then
        outcome = .ok () ∧ service.objects =
          Function.update depot.service.objects container.bucket
            ((depot.service.objects container.bucket).erase (container.key name))
      else
        outcome = .error (.of (.blobMissing name)) ∧ service.objects = depot.service.objects) := by
  refine (steady.blobExists container name).bind_ok (fun next steadyNext objects => ?_)
  by_cases found :
      ((depot.service.objects container.bucket).get? (container.key name)).isSome = true
  next =>
    simp only [if_pos found]
    have deletes := steadyNext.deleteBlobIfExists container name
    rw [objects] at deletes
    exact deletes
  next =>
    simp only [if_neg found]
    exact ⟨steadyNext, rfl, objects⟩

end Steady

end BlobDepot
