import BlobDepot.Proofs.AcceptedWrites
import BlobDepot.Proofs.Deletions

set_option autoImplicit false

namespace BlobDepot

open BlobDepot.Action

namespace Service

def SameBeside (bucket : String) (changed : String -> Prop) (service next : Service) : Prop :=
  forall other key, (other = bucket -> Not (changed key)) ->
    (next.objects other).get? key = (service.objects other).get? key

variable {bucket : String} {changed : String -> Prop} {service middle next : Service}

theorem SameBeside.refl (service : Service) : SameBeside bucket changed service service :=
  fun _ _ _ => rfl

theorem SameBeside.trans
    (first : SameBeside bucket changed service middle)
    (second : SameBeside bucket changed middle next) :
    SameBeside bucket changed service next :=
  fun other key unchanged => (second other key unchanged).trans (first other key unchanged)

theorem sameBeside_of_objects (same : next.objects = service.objects) :
    SameBeside bucket changed service next := by
  intro other key _
  rw [same]

theorem sameBeside_of_update
    {table : Table Body}
    (objects : next.objects = Function.update service.objects bucket table)
    (kept : forall key, Not (changed key) ->
      table.get? key = (service.objects bucket).get? key) :
    SameBeside bucket changed service next := by
  intro other key unchanged
  rw [objects]
  by_cases same : other = bucket
  next =>
    subst same
    rw [Function.update_self]
    exact kept key (unchanged rfl)
  next => rw [Function.update_of_ne same]

theorem sameBeside_set
    {key : String}
    {body : Body}
    (objects : next.objects =
      Function.update service.objects bucket ((service.objects bucket).set key body))
    (isChanged : changed key) :
    SameBeside bucket changed service next := by
  apply sameBeside_of_update objects
  intro other unchanged
  have different : key ≠ other := by
    rintro rfl
    exact unchanged isChanged
  rw [Table.get?_set, if_neg different]

theorem perform_completeUpload_objects
    (service : Service)
    (bucket key uploadId : String)
    (parts : List CompletedPart) :
    let next := (service.perform (.completeUpload bucket key uploadId parts)).2
    next.objects = service.objects ∨ exists body, next.objects =
      Function.update service.objects bucket ((service.objects bucket).set key body) := by
  cases pending : service.uploads.get? uploadId with
  | none => simp [perform, reachesBucket, pending]
  | some stored =>
    cases found : parts.mapM (fun part => partBody? stored part.number) with
    | none => simp [perform, reachesBucket, pending, found]
    | some bodies =>
      rw [perform_completeUpload pending found]
      exact .inr ⟨Body.join bodies, objects_setObjects service bucket _⟩

theorem perform_sameBeside
    {request : Request}
    (only : request.ChangesOnly bucket changed)
    (service : Service) :
    SameBeside bucket changed service (service.perform request).2 := by
  cases request with
  | headObject other key =>
    rw [perform_headObject]
    exact sameBeside_of_objects (objects_reach service other)
  | getObject other key =>
    rw [perform_getObject]
    exact sameBeside_of_objects (objects_reach service other)
  | putObject other key body length settings =>
    obtain ⟨rfl, isChanged⟩ := only
    obtain ⟨next, performed, objects, _⟩ :=
      perform_putObject service other key body length settings
    rw [performed]
    exact sameBeside_set objects isChanged
  | createUpload other key settings => exact sameBeside_of_objects rfl
  | uploadPart other key uploadId number body =>
    cases pending : service.uploads.get? uploadId with
    | none => exact sameBeside_of_objects (by simp [perform, reachesBucket, pending])
    | some parts =>
      rw [perform_uploadPart pending]
      exact sameBeside_of_objects rfl
  | completeUpload other key uploadId parts =>
    obtain ⟨rfl, isChanged⟩ := only
    rcases service.perform_completeUpload_objects other key uploadId parts with same | ⟨_, objects⟩
    next => exact sameBeside_of_objects same
    next => exact sameBeside_set objects isChanged
  | abortUpload other key uploadId =>
    cases pending : service.uploads.get? uploadId with
    | none => exact sameBeside_of_objects (by simp [perform, reachesBucket, pending])
    | some parts =>
      rw [perform_abortUpload pending]
      exact sameBeside_of_objects rfl
  | deleteObject other key =>
    obtain ⟨rfl, isChanged⟩ := only
    obtain ⟨next, performed, objects⟩ := perform_deleteObject service other key
    rw [performed]
    apply sameBeside_of_update objects
    intro kept unchanged
    have different : kept ≠ key := by
      rintro rfl
      exact unchanged isChanged
    rw [Table.get?_erase, if_neg different]
  | deleteObjects other keys quiet =>
    obtain ⟨rfl, areChanged⟩ := only
    obtain ⟨next, performed, objects⟩ := perform_deleteObjects service other keys quiet
    rw [performed]
    apply sameBeside_of_update objects
    intro kept unchanged
    rw [Table.get?_eraseAll, if_neg (fun listed => unchanged (areChanged kept listed))]
  | listObjects other start token =>
    rw [perform]
    cases tokenIndex? token <;> exact sameBeside_of_objects (objects_reach service other)

end Service

section

variable (bucket : String) (changed : String -> Prop) (service : Service)

theorem aloof_sameBeside :
    Aloof (fun depot => service.SameBeside bucket changed depot.service) :=
  SameWork.aloof_of_stable (fun _ _ same beside => same.service ▸ beside)

theorem lasting_sameBeside :
    Lasting (Request.ChangesOnly bucket changed)
      (fun depot => service.SameBeside bucket changed depot.service) where
  logs := (aloof_sameBeside bucket changed service).logs
  reads _ := keeps_readSource (aloof_sameBeside bucket changed service).close
    (fun _ _ _ beside => beside)
  sends _ only := keeps_send (fun _ beside => beside) (fun _ _ beside => beside)
    (fun depot beside => beside.trans (depot.service.perform_sameBeside only))
    (aloof_sameBeside bucket changed service).close

end

/-- An operation changes objects of the blobs that it names only. -/
theorem Operation.sameBeside (container : Container) (operation : Operation) (depot : Depot) :
    depot.service.SameBeside container.bucket
      (fun key => key ∈ operation.changed.map container.key)
      (operation.run container depot).2.service := by
  have lending := (aloof_sameBeside container.bucket
    (fun key => key ∈ operation.changed.map container.key) depot.service).lending container.store
  exact lending.operateOn (fun _ => lasting_sameBeside _ _ _) (fun _ _ beside => beside)
    (fun _ listed => List.mem_map_of_mem listed) depot (Service.SameBeside.refl _)

def StoreStep.changed : StoreStep -> List String
  | .operate path operation => operation.changed.map (fun name => path.toText ++ name)
  | .borrow | .giveBack _ | .close => []

namespace Tenancy

variable {store : Store} {kept : Depot -> Prop} {allowed : String -> Prop}

theorem keeps_step
    (aloof : Aloof kept)
    (lasting : Lasting (Request.ChangesOnly store.config.bucket allowed) kept)
    (sources : forall depot source, kept depot -> kept { depot with source := source })
    {taken : StoreStep}
    (changes : forall key, key ∈ taken.changed -> allowed key)
    {tenancy : Tenancy}
    (holds : kept tenancy.depot) :
    kept (step store tenancy taken).depot := by
  cases taken with
  | operate path operation =>
    have operates : Keeps kept (operation.run ⟨store, path⟩) :=
      Lending.operateOn (aloof.lending store) (fun _ => lasting) sources
        (fun name listed => changes _ (List.mem_map_of_mem listed))
    exact operates tenancy.depot holds
  | borrow =>
    have acquired := aloof.acquire store tenancy.depot holds
    simp only [step]
    cases ran : store.acquire tenancy.depot with
    | mk outcome next =>
      rw [ran] at acquired
      cases outcome with
      | ok reference => exact acquired
      | error failure => exact acquired
  | giveBack index =>
    simp only [step]
    cases tenancy.held[index]? with
    | none => exact holds
    | some reference => exact aloof.release reference tenancy.depot holds
  | close => exact aloof.close tenancy.depot holds

theorem keeps_steps
    (aloof : Aloof kept)
    (lasting : Lasting (Request.ChangesOnly store.config.bucket allowed) kept)
    (sources : forall depot source, kept depot -> kept { depot with source := source })
    {steps : List StoreStep}
    (changes : forall taken, taken ∈ steps -> forall key, key ∈ taken.changed -> allowed key)
    {tenancy : Tenancy}
    (holds : kept tenancy.depot) :
    kept (steps.foldl (step store) tenancy).depot := by
  induction steps generalizing tenancy with
  | nil => exact holds
  | cons first rest ih =>
    rw [List.forall_mem_cons] at changes
    exact ih changes.2 (keeps_step aloof lasting sources changes.1 holds)

theorem run_pageSize (store : Store) (origin : Depot) (steps : List StoreStep) :
    (run store origin steps).depot.service.pageSize = origin.service.pageSize := by
  have lasting : Lasting (Request.ChangesOnly store.config.bucket (fun _ => True))
      (fun depot => depot.service.pageSize = origin.service.pageSize) :=
    (lasting_pageSize _).weaken (fun _ _ => trivial)
  exact keeps_steps (aloof_pageSize _) lasting (fun _ _ same => same) (fun _ _ _ _ => trivial) rfl

theorem steady_run
    {origin : Depot}
    {steps : List StoreStep}
    (calm : origin.schedule.IsCalm)
    (opened : origin.closed = false)
    (unmade : origin.current = none)
    (paged : 0 < origin.service.pageSize)
    (isOpen : (run store origin steps).depot.closed = false) :
    Steady origin (run store origin steps).held.length (run store origin steps).depot where
  lent := (sound_run (calm.leavesOpen store) opened unmade steps).lent
  opened := isOpen
  calm := calm
  paged := run_pageSize store origin steps ▸ paged

theorem sameBeside_operations
    (store : Store)
    (tenancy : Tenancy)
    (path : BlobPath)
    (operations : List Operation) :
    tenancy.depot.service.SameBeside store.config.bucket
      (fun key => exists name, key = path.toText ++ name)
      ((operations.map (.operate path)).foldl (step store) tenancy).depot.service := by
  have changes : forall taken, taken ∈ operations.map (StoreStep.operate path) ->
      forall key, key ∈ taken.changed -> exists name, key = path.toText ++ name := by
    intro taken listed key isChanged
    obtain ⟨operation, _, rfl⟩ := List.mem_map.mp listed
    obtain ⟨name, _, rfl⟩ := List.mem_map.mp isChanged
    exact ⟨name, rfl⟩
  exact keeps_steps (aloof_sameBeside _ _ _) (lasting_sameBeside _ _ _) (fun _ _ beside => beside)
    changes (Service.SameBeside.refl _)

end Tenancy

end BlobDepot
