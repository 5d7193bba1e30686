import BlobDepot.Proofs.Work

set_option autoImplicit false

namespace BlobDepot

open BlobDepot.Action

inductive Operation where
  | write (name : String) (source : Source) (size : Int) (failIfExists : Bool)
  | writeBytes (name : String) (content : List UInt8) (failIfExists : Bool)
  | read (name : String)
  | check (name : String)
  | delete (name : String)
  | deleteIfExists (name : String)
  | deleteMany (names : List String)
  | list (selection : Option String)

inductive Reply where
  | done
  | content (body : Body)
  | found (answer : Bool)
  | listing (listing : Container.Listing)

namespace Operation

def run (container : Container) : Operation -> Action Reply
  | .write name source size failIfExists => do
      modify (fun depot => { depot with source := source })
      container.writeBlob name size failIfExists
      return .done
  | .writeBytes name content failIfExists => do
      container.writeBlobBytes name (.bytes content) failIfExists
      return .done
  | .read name => do return .content (<- (<- container.readBlob name).read)
  | .check name => do return .found (<- container.blobExists name)
  | .delete name => do
      container.deleteBlob name
      return .done
  | .deleteIfExists name => do
      container.deleteBlobIfExists name
      return .done
  | .deleteMany names => do
      container.deleteBlobsIfExist names
      return .done
  | .list selection => do return .listing (<- container.listBlobs selection)

end Operation

def Operation.changed : Operation -> List String
  | .write name .. | .writeBytes name .. | .delete name | .deleteIfExists name => [name]
  | .deleteMany names => names
  | .read _ | .check _ | .list _ => []

/-- What lending a client keeps while objects of some blobs are changed is kept by every operation
that changes no others. -/
theorem Lending.operateOn
    {container : Container}
    {outside : Depot -> Prop}
    {inside : Nat -> Depot -> Prop}
    {operation : Operation}
    {allowed : String -> Prop}
    (lending : Lending container.store outside inside)
    (lasting : forall reference,
      Lasting (Request.ChangesOnly container.bucket allowed) (inside reference))
    (sources : forall depot source, outside depot -> outside { depot with source := source })
    (changes : forall name, name ∈ operation.changed -> allowed (container.key name)) :
    Keeps outside (operation.run container) := by
  have writes : forall name, name ∈ operation.changed -> forall request : Request,
      request.ChangesOnly container.bucket (fun other => other = container.key name) ->
        request.ChangesOnly container.bucket allowed := by
    intro name listed request only
    apply only.mono
    rintro key rfl
    exact changes name listed
  cases operation with
  | write name source size failIfExists =>
    have sourced : Keeps outside (modify (fun depot : Depot => { depot with source := source })) :=
      fun depot holds => sources depot source holds
    refine sourced.bind (fun _ => ?_)
    exact (lending.writeBlobOn lasting (writes name List.mem_cons_self) size failIfExists).bind
      (fun _ => keeps_pure _)
  | writeBytes name content failIfExists =>
    have sourced : Keeps outside
        (modify (fun depot : Depot => { depot with source := .ofBody (.bytes content) })) :=
      fun depot holds => sources depot _ holds
    have written := sourced.bind (fun _ => lending.writeBlobOn lasting
      (writes name List.mem_cons_self) content.length failIfExists)
    exact written.bind (fun _ => keeps_pure _)
  | read name =>
    refine (lending.readBlob lasting trivial).bind (fun content => ?_)
    cases content with
    | stream body => exact keeps_pure _
    | other value => exact (keeps_fail _)
  | check name => exact (lending.blobExists lasting trivial).bind (fun _ => keeps_pure _)
  | delete name =>
    have only := changes name List.mem_cons_self
    exact (lending.deleteBlob lasting trivial ⟨rfl, only⟩).bind (fun _ => keeps_pure _)
  | deleteIfExists name =>
    have only := changes name List.mem_cons_self
    exact (lending.deleteBlobIfExists lasting ⟨rfl, only⟩).bind (fun _ => keeps_pure _)
  | deleteMany names =>
    refine (lending.deleteBlobsIfExist lasting (fun keys ofNames => ⟨rfl, ?_⟩)).bind
      (fun _ => keeps_pure _)
    intro key listed
    obtain ⟨name, isName, rfl⟩ := List.mem_map.mp (ofNames key listed)
    exact changes name isName
  | list selection =>
    exact (lending.listBlobs lasting (fun _ _ _ => trivial) selection).bind
      (fun _ => keeps_pure _)

theorem Lending.operate
    {container : Container}
    {outside : Depot -> Prop}
    {inside : Nat -> Depot -> Prop}
    (lending : Lending container.store outside inside)
    (lasting : forall reference, Lasting (fun _ => True) (inside reference))
    (sources : forall depot source, outside depot -> outside { depot with source := source })
    (operation : Operation) :
    Keeps outside (operation.run container) := by
  have any : forall reference,
      Lasting (Request.ChangesOnly container.bucket (fun _ => True)) (inside reference) :=
    fun reference => (lasting reference).weaken (fun _ _ => trivial)
  exact lending.operateOn any sources (fun _ _ => trivial)

/-- A store whose limits are so small that a few bytes make an upload in parts. -/
def Store.small : Store where
  config := {
    bucket := "b"
    bufferSize := 2
    maxFileSize := 10
    maxMultipartSize := 10
    minMultipartSize := 1
    minMultipartSize_le := by decide
    bufferSize_le := by decide }

end BlobDepot
