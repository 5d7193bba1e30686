import BlobDepot.Proofs.Blobs
import BlobDepot.Proofs.AcceptedWrites
import BlobDepot.Proofs.Deletions
import BlobDepot.Proofs.Listing
import BlobDepot.Proofs.Tenancy

set_option autoImplicit false

namespace BlobDepot

open BlobDepot.Action

abbrev Holdings : Type :=
  String -> Option (List UInt8)

inductive Observation where
  | done
  | content (body : Body)
  | found (answer : Bool)
  | listing (lengths : String -> Option Int)
  | failed (kind : Kind)

def observe : Except Failure Reply -> Observation
  | .ok .done => .done
  | .ok (.content body) => .content body
  | .ok (.found answer) => .found answer
  | .ok (.listing listing) => .listing listing.get?
  | .error failure => .failed failure.kind

def Source.upcoming (source : Source) (size : Int) : List UInt8 :=
  (source.rest.content?.getD []).take size.toNat

namespace Holdings

def answer (holdings : Holdings) (path : BlobPath) : Operation -> Observation
  | .write .. | .writeBytes .. | .deleteIfExists _ | .deleteMany _ => .done
  | .read name =>
      match holdings (path.toText ++ name) with
      | some content => .content (.bytes content)
      | none => .failed .blobNotFound
  | .check name => .found (holdings (path.toText ++ name)).isSome
  | .delete name =>
      if (holdings (path.toText ++ name)).isSome then .done else .failed .blobNotFound
  | .list selection => .listing (fun name =>
      if (selection.getD "").toList <+: name.toList then
        (holdings (path.toText ++ name)).map (fun content => (content.length : Int))
      else none)

def after (holdings : Holdings) (path : BlobPath) : Operation -> Holdings
  | .write name source size _ =>
      Function.update holdings (path.toText ++ name) (some (source.upcoming size))
  | .writeBytes name content _ => Function.update holdings (path.toText ++ name) (some content)
  | .delete name | .deleteIfExists name => Function.update holdings (path.toText ++ name) none
  | .deleteMany names => fun key =>
      if key ∈ names.map (fun name => path.toText ++ name) then none else holdings key
  | .read _ | .check _ | .list _ => holdings

def answers (holdings : Holdings) : List (BlobPath × Operation) -> List Observation
  | [] => []
  | (path, operation) :: rest =>
      holdings.answer path operation :: answers (holdings.after path operation) rest

def afterAll (holdings : Holdings) : List (BlobPath × Operation) -> Holdings
  | [] => holdings
  | (path, operation) :: rest => afterAll (holdings.after path operation) rest

end Holdings

/-- Do one operation after the other, whatever becomes of the earlier ones. -/
def Store.operate (store : Store) :
    List (BlobPath × Operation) -> Depot -> List (Except Failure Reply) × Depot
  | [], depot => ([], depot)
  | (path, operation) :: rest, depot =>
      let (outcome, middle) := operation.run ⟨store, path⟩ depot
      let (outcomes, next) := operate store rest middle
      (outcome :: outcomes, next)

/-- What is written has an accepted size, and its stream gives so much. -/
def Operation.Fits (config : Config) : Operation -> Prop
  | .write _ source size _ => 0 <= size ∧ config.Accepts size ∧ source.Gives size ∧
      exists content, source.rest = .bytes content
  | .writeBytes _ content _ => config.Accepts content.length
  | _ => True

def Holds (bucket : String) (holdings : Holdings) (service : Service) : Prop :=
  forall key, (service.objects bucket).get? key = (holdings key).map .bytes

namespace Holds

variable {bucket : String} {holdings : Holdings} {service next : Service}

theorem unchanged (holds : Holds bucket holdings service) (same : next.objects = service.objects) :
    Holds bucket holdings next := by
  intro key
  rw [same]
  exact holds key

theorem set
    (holds : Holds bucket holdings service)
    {key : String}
    {content : List UInt8}
    (objects : next.objects = Function.update service.objects bucket
      ((service.objects bucket).set key (.bytes content))) :
    Holds bucket (Function.update holdings key (some content)) next := by
  intro other
  rw [objects, Function.update_self, Table.get?_set, holds other]
  by_cases same : key = other
  next => simp [same]
  next => simp [same, Ne.symm same]

theorem erase
    (holds : Holds bucket holdings service)
    {key : String}
    (objects : next.objects = Function.update service.objects bucket
      ((service.objects bucket).erase key)) :
    Holds bucket (Function.update holdings key none) next := by
  intro other
  rw [objects, Function.update_self, Table.get?_erase, holds other]
  by_cases same : other = key
  next => simp [same]
  next => simp [same]

theorem eraseAll
    (holds : Holds bucket holdings service)
    {keys : List String}
    (objects : next.objects = Function.update service.objects bucket
      ((service.objects bucket).eraseAll keys)) :
    Holds bucket (fun key => if key ∈ keys then none else holdings key) next := by
  intro other
  rw [objects, Function.update_self, Table.get?_eraseAll, holds other]
  by_cases gone : other ∈ keys
  next => simp [gone]
  next => simp [gone]

theorem bound
    {store : Store}
    (holds : Holds store.config.bucket holdings service)
    (path : BlobPath)
    (name : String) :
    (service.objects (Container.bucket ⟨store, path⟩)).get? (Container.key ⟨store, path⟩ name) =
      (holdings (path.toText ++ name)).map .bytes :=
  holds (path.toText ++ name)

end Holds

abbrev Agrees
    (origin : Depot)
    (borrowers : Nat)
    (store : Store)
    (holdings : Holdings)
    (depot : Depot)
    (path : BlobPath)
    (operation : Operation) : Prop :=
  Serves origin borrowers (operation.run ⟨store, path⟩) depot (fun outcome service =>
    observe outcome = holdings.answer path operation ∧
      Holds store.config.bucket (holdings.after path operation) service)

namespace Steady

variable
  {origin depot : Depot}
  {borrowers : Nat}
  {store : Store}
  {holdings : Holdings}

theorem binds
    {size : Int}
    {content : List UInt8}
    (steady : Steady origin borrowers depot)
    (holds : Holds store.config.bucket holdings depot.service)
    (nonneg : 0 <= size)
    (accepted : store.config.Accepts size)
    (gives : depot.source.Gives size)
    (isContent : depot.source.rest = .bytes content)
    (path : BlobPath)
    (name : String)
    (failIfExists : Bool) :
    Serves origin borrowers (Container.writeBlob ⟨store, path⟩ name size failIfExists) depot
      (fun outcome service => outcome = .ok () ∧ Holds store.config.bucket
        (Function.update holdings (path.toText ++ name) (some (content.take size.toNat)))
        service) := by
  have written := @Steady.writeBlob origin depot borrowers size ⟨store, path⟩ steady gives nonneg
    accepted name failIfExists
  refine written.mono (fun outcome next wrote => ?_)
  obtain ⟨isOk, steadyNext, body, _, known, objects⟩ := wrote
  -- The bytes of the stream are known, so those of the object are too.
  rw [known content isContent] at objects
  exact ⟨steadyNext, isOk, holds.set objects⟩

theorem writes
    (steady : Steady origin borrowers depot)
    (holds : Holds store.config.bucket holdings depot.service)
    (path : BlobPath)
    {name : String}
    {source : Source}
    {size : Int}
    {failIfExists : Bool}
    (fits : (Operation.write name source size failIfExists).Fits store.config) :
    Agrees origin borrowers store holdings depot path (.write name source size failIfExists) := by
  obtain ⟨nonneg, accepted, gives, content, isContent⟩ := fits
  have known : source.upcoming size = content.take size.toNat := by
    rw [Source.upcoming, isContent]
    rfl
  refine .after (run_modify _ depot) ?_
  refine ((steady.sourced source).binds holds nonneg accepted gives isContent path name
    failIfExists).bind_ok (fun next steadyNext holdsNext => ?_)
  rw [<- known] at holdsNext
  exact ⟨steadyNext, rfl, holdsNext⟩

theorem writesBytes
    (steady : Steady origin borrowers depot)
    (holds : Holds store.config.bucket holdings depot.service)
    (path : BlobPath)
    {name : String}
    {content : List UInt8}
    {failIfExists : Bool}
    (accepted : store.config.Accepts content.length) :
    Agrees origin borrowers store holdings depot path (.writeBytes name content failIfExists) := by
  have gives : (Source.ofBody (.bytes content)).Gives content.length := .ofBody (Int.le_refl _)
  have writes := (steady.sourced (.ofBody (.bytes content))).binds holds
    (Int.natCast_nonneg _) accepted gives rfl path name failIfExists
  rw [Int.toNat_natCast, List.take_length] at writes
  have written : Serves origin borrowers
      (Container.writeBlobBytes ⟨store, path⟩ name (.bytes content) failIfExists) depot
      (fun outcome service => outcome = .ok () ∧ Holds store.config.bucket
        (Function.update holdings (path.toText ++ name) (some content)) service) :=
    .after (run_modify _ depot) writes
  exact written.bind_ok (fun next steadyNext holdsNext => ⟨steadyNext, rfl, holdsNext⟩)

theorem reads
    (steady : Steady origin borrowers depot)
    (holds : Holds store.config.bucket holdings depot.service)
    (path : BlobPath)
    (name : String) :
    Agrees origin borrowers store holdings depot path (.read name) := by
  have reads := steady.readBlob ⟨store, path⟩ name
  rw [holds.bound] at reads
  cases isBound : holdings (path.toText ++ name) with
  | some content =>
    rw [isBound] at reads
    refine reads.bind (fun given next read => ?_) (fun failure next read => ?_)
    · obtain ⟨steadyNext, objects, isGiven⟩ := read
      cases isGiven
      refine ⟨steadyNext, ?_, holds.unchanged objects⟩
      rw [Holdings.answer, isBound]
      rfl
    · cases read.2.2
  | none =>
    rw [isBound] at reads
    refine reads.bind (fun given next read => ?_) (fun failure next read => ?_)
    · cases read.2.2
    · obtain ⟨steadyNext, objects, isFailure⟩ := read
      cases isFailure
      refine ⟨steadyNext, ?_, holds.unchanged objects⟩
      rw [Holdings.answer, isBound, observe, Container.missing_kind]

theorem deletes
    (steady : Steady origin borrowers depot)
    (holds : Holds store.config.bucket holdings depot.service)
    (path : BlobPath)
    (name : String) :
    Agrees origin borrowers store holdings depot path (.delete name) := by
  have deletes := steady.deleteBlob ⟨store, path⟩ name
  rw [holds.bound] at deletes
  cases isBound : holdings (path.toText ++ name) with
  | some content =>
    simp only [isBound, Option.map_some, Option.isSome_some, if_true] at deletes
    refine deletes.bind_ok (fun next steadyNext objects => ?_)
    refine ⟨steadyNext, ?_, holds.erase objects⟩
    rw [Holdings.answer, isBound]
    rfl
  | none =>
    simp only [isBound, Option.map_none, Option.isSome_none, Bool.false_eq_true,
      if_false] at deletes
    refine deletes.bind (fun given next deleted => ?_) (fun failure next deleted => ?_)
    · cases deleted.2.1
    · obtain ⟨steadyNext, isFailure, objects⟩ := deleted
      cases isFailure
      -- What is not bound is unbound again, which changes nothing.
      have same : Function.update holdings (path.toText ++ name) none = holdings :=
        Function.update_eq_self_iff.mpr isBound.symm
      refine ⟨steadyNext, ?_, ?_⟩
      · rw [Holdings.answer, isBound]
        rfl
      · rw [Holdings.after, same]
        exact holds.unchanged objects

theorem lists
    (steady : Steady origin borrowers depot)
    (holds : Holds store.config.bucket holdings depot.service)
    (path : BlobPath)
    (selection : Option String) :
    Agrees origin borrowers store holdings depot path (.list selection) := by
  have lists := steady.listBlobs ⟨store, path⟩ selection
  simp only [holds.bound] at lists
  refine lists.bind (fun given next listed => ?_) (fun failure next listed => ?_)
  · obtain ⟨steadyNext, objects, listing, isListing, entries⟩ := listed
    cases isListing
    refine ⟨steadyNext, congrArg Observation.listing (funext fun name => ?_),
      holds.unchanged objects⟩
    rw [entries name, Option.map_map]
    rfl
  · obtain ⟨_, _, _, impossible, _⟩ := listed
    cases impossible

theorem operates
    (steady : Steady origin borrowers depot)
    (holds : Holds store.config.bucket holdings depot.service)
    (path : BlobPath)
    {operation : Operation}
    (fits : operation.Fits store.config) :
    Agrees origin borrowers store holdings depot path operation := by
  cases operation with
  | write name source size failIfExists => exact steady.writes holds path fits
  | writeBytes name content failIfExists => exact steady.writesBytes holds path fits
  | read name => exact steady.reads holds path name
  | check name =>
    refine (steady.blobExists ⟨store, path⟩ name).bind_ok (fun next steadyNext objects => ?_)
    refine ⟨steadyNext, ?_, holds.unchanged objects⟩
    rw [holds.bound, Option.isSome_map]
    rfl
  | delete name => exact steady.deletes holds path name
  | deleteIfExists name =>
    refine (steady.deleteBlobIfExists ⟨store, path⟩ name).bind_ok
      (fun next steadyNext objects => ?_)
    exact ⟨steadyNext, rfl, holds.erase objects⟩
  | deleteMany names =>
    refine (steady.deleteBlobsIfExist ⟨store, path⟩ names).bind_ok
      (fun next steadyNext objects => ?_)
    exact ⟨steadyNext, rfl, holds.eraseAll objects⟩
  | list selection => exact steady.lists holds path selection

theorem operatesAll
    {operations : List (BlobPath × Operation)}
    (steady : Steady origin borrowers depot)
    (holds : Holds store.config.bucket holdings depot.service)
    (fits : forall issued, issued ∈ operations -> issued.2.Fits store.config) :
    (store.operate operations depot).1.map observe = holdings.answers operations ∧
      Steady origin borrowers (store.operate operations depot).2 ∧
        Holds store.config.bucket (holdings.afterAll operations)
          (store.operate operations depot).2.service := by
  induction operations generalizing depot holdings with
  | nil => exact ⟨rfl, steady, holds⟩
  | cons issued rest ih =>
    obtain ⟨path, operation⟩ := issued
    -- What one operation leaves is where the others start.
    obtain ⟨steadyMiddle, answered, holdsMiddle⟩ :=
      steady.operates holds path (fits (path, operation) List.mem_cons_self)
    obtain ⟨answers, steadyNext, holdsNext⟩ :=
      ih steadyMiddle holdsMiddle (fun later listed => fits later (List.mem_cons_of_mem _ listed))
    exact ⟨congrArg₂ List.cons answered answers, steadyNext, holdsNext⟩

end Steady

namespace Store

/-- A store that was not used yet answers operations of all its containers as the map of what its
bucket holds does. -/
theorem operate_as_map
    (store : Store)
    (origin : Depot)
    (holdings : Holdings)
    (operations : List (BlobPath × Operation))
    (calm : origin.schedule.IsCalm)
    (opened : origin.closed = false)
    (unmade : origin.current = none)
    (paged : 0 < origin.service.pageSize)
    (holds : Holds store.config.bucket holdings origin.service)
    (fits : forall issued, issued ∈ operations -> issued.2.Fits store.config) :
    (store.operate operations origin).1.map observe = holdings.answers operations ∧
      Holds store.config.bucket (holdings.afterAll operations)
        (store.operate operations origin).2.service := by
  have steady : Steady origin 0 origin :=
    ⟨(Tenancy.sound_fresh opened unmade).lent, opened, calm, paged⟩
  obtain ⟨answers, _, holdsNext⟩ := steady.operatesAll holds fits
  exact ⟨answers, holdsNext⟩

theorem operate_as_map_nested :
    let content : List UInt8 := [1, 2, 3, 4, 5]
    let operations : List (BlobPath × Operation) :=
      [(⟨["a"]⟩, .write "b/c" (.ofBody (.bytes content)) 3 true),
        (⟨["a", "b"]⟩, .read "c"),
        ({}, .deleteMany ["a/b/c"]),
        (⟨["a"]⟩, .delete "b/c")]
    Schedule.calm.IsCalm ∧ (forall issued, issued ∈ operations -> issued.2.Fits small.config) ∧
      (small.operate operations {}).1.map observe =
        [.done, .content (.bytes [1, 2, 3]), .done, .failed .blobNotFound] := by
  intro content operations
  have calm : Schedule.calm.IsCalm := fun _ _ => rfl
  have gives : (Source.ofBody (.bytes content)).Gives 3 := .ofBody (by decide)
  have fits : forall issued, issued ∈ operations -> issued.2.Fits small.config := by
    simp only [operations, List.forall_mem_cons]
    exact ⟨⟨by decide, by decide, gives, content, rfl⟩, trivial, trivial, trivial, nofun⟩
  refine ⟨calm, fits, ?_⟩
  have answered := operate_as_map small {} (fun _ => none) operations calm rfl rfl (by decide)
    (fun _ => rfl) fits
  exact answered.1.trans rfl

end Store

end BlobDepot
