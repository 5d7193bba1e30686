import BlobDepot.Proofs.Changes
import BlobDepot.Proofs.Listing
import BlobDepot.Proofs.Paths

set_option autoImplicit false

namespace BlobDepot

open BlobDepot.Action

/-- What a container answers about its blobs.  A listing is looked up by names. -/
structure Outlook where
  found : String -> Except Failure Bool
  content : String -> Except Failure Content
  lengths : Option String -> Except Failure (String -> Option Int)

namespace Container

def outlook (container : Container) (depot : Depot) : Outlook where
  found name := (container.blobExists name depot).1
  content name := (container.readBlob name depot).1
  lengths selection := (container.listBlobs selection depot).1.map Table.get?

def view (container : Container) (objects : Table Body) : Outlook where
  found name := .ok (objects.get? (container.key name)).isSome
  content name :=
    match objects.get? (container.key name) with
    | some body => .ok (.stream body)
    | none => .error (missing name)
  lengths selection := .ok (fun name =>
    if (selection.getD "").toList <+: name.toList then
      (objects.get? (container.key name)).map (fun body => (body.length : Int))
    else none)

theorem view_congr
    (container : Container)
    {objects others : Table Body}
    (same : forall name, objects.get? (container.key name) = others.get? (container.key name)) :
    container.view objects = container.view others := by
  simp only [view, same]

theorem outlook_closed
    (container : Container)
    {depot other : Depot}
    (closed : depot.closed = true)
    (otherClosed : other.closed = true) :
    container.outlook depot = container.outlook other := by
  have refuses : forall {α : Type} {work : Action α} {left : Depot}, left.closed = true ->
      container.store.borrowing work left = (.error (.of (.state .storeClosed)), left) :=
    fun isClosed => run_bind_error _ (acquire_of_closed container.store isClosed)
  simp only [outlook, blobExists, readBlob, listBlobs, reporting, run_bind, run_attempt,
    refuses closed, refuses otherClosed, run_throw]

end Container

theorem Steady.outlook
    {origin depot : Depot}
    {borrowers : Nat}
    (steady : Steady origin borrowers depot)
    (container : Container) :
    container.outlook depot = container.view (depot.service.objects container.bucket) := by
  have found : forall name, (container.blobExists name depot).1 =
      .ok ((depot.service.objects container.bucket).get? (container.key name)).isSome :=
    fun name => (steady.blobExists container name).2.1
  have content : forall name, (container.readBlob name depot).1 =
      match (depot.service.objects container.bucket).get? (container.key name) with
      | some body => .ok (.stream body)
      | none => .error (Container.missing name) := by
    intro name
    have reads := (steady.readBlob container name).2.2
    cases isBound : (depot.service.objects container.bucket).get? (container.key name) with
    | some body => simpa only [isBound] using reads
    | none => simpa only [isBound] using reads
  have lengths : forall selection, (container.listBlobs selection depot).1.map Table.get? =
      .ok (fun name => if (selection.getD "").toList <+: name.toList then
        ((depot.service.objects container.bucket).get? (container.key name)).map
          (fun body => (body.length : Int)) else none) := by
    intro selection
    obtain ⟨_, _, listing, isListing, entries⟩ := steady.listBlobs container selection
    rw [isListing]
    exact congrArg Except.ok (funext entries)
  simp only [Container.outlook, Container.view, found, content, lengths]

/-- Neither path goes on from the other. -/
def BlobPath.Apart (path other : BlobPath) : Prop :=
  Not (path.segments <+: other.segments) ∧ Not (other.segments <+: path.segments)

theorem BlobPath.Apart.toText_ne
    {path other : BlobPath}
    (apart : path.Apart other)
    (reached : path.Reached)
    (otherReached : other.Reached)
    (name blob : String) :
    path.toText ++ name ≠ other.toText ++ blob := by
  intro same
  rcases nested_of_append_eq reached.segments otherReached.segments same with within | beyond
  next => exact apart.1 within
  next => exact apart.2 beyond

theorem Container.key_within
    {store : Store}
    {path inner rest : BlobPath}
    (goesOn : inner.segments = path.segments ++ rest.segments)
    (name : String) :
    Container.key ⟨store, inner⟩ name = Container.key ⟨store, path⟩ (rest.toText ++ name) := by
  obtain ⟨segments⟩ := inner
  subst goesOn
  simp only [key, keyPath, BlobPath.toText_append, String.append_assoc]

/-- One container answers as another one does about the blobs whose names begin with a text, and
by the rest of their names. -/
structure Outlook.Within (inner outer : Outlook) (start : String) : Prop where
  found : forall name, inner.found name = outer.found (start ++ name)
  content : forall name body,
    inner.content name = .ok body <-> outer.content (start ++ name) = .ok body
  lengths : exists part whole, inner.lengths none = .ok part ∧
    outer.lengths (some start) = .ok whole ∧
    (forall name, part name = whole (start ++ name)) ∧
    forall name, (whole name).isSome = true -> exists rest, name = start ++ rest

theorem Container.view_within
    {inner outer : Container}
    {start : String}
    (keys : forall name, inner.key name = outer.key (start ++ name))
    (objects : Table Body) :
    (inner.view objects).Within (outer.view objects) start where
  found name := by simp only [view, keys]
  content name body := by
    simp only [view, keys]
    cases objects.get? (outer.key (start ++ name)) <;> simp
  lengths := by
    refine ⟨_, _, rfl, rfl, fun name => ?_, fun name listed => ?_⟩
    · simp [keys, String.toList_append]
    · by_cases begins : start.toList <+: name.toList
      next =>
        obtain ⟨rest, isRest⟩ := begins
        refine ⟨String.ofList rest, ?_⟩
        rw [<- String.toList_inj, String.toList_append, String.toList_ofList, isRest]
      next => simp [begins] at listed

/-- The texts of two paths begin the same key only if one of the paths goes on from the other.  If
neither does, nothing that is done through the container of one changes what that of the other
answers, as long as this does not close the store.  If one does, its container has the blobs of
the other whose names begin with the text of the rest. -/
theorem containers_isolated
    (store : Store)
    (origin : Depot)
    (earlier : List StoreStep)
    (operations : List Operation)
    (path other : BlobPath)
    (calm : origin.schedule.IsCalm)
    (opened : origin.closed = false)
    (unmade : origin.current = none)
    (paged : 0 < origin.service.pageSize)
    (reached : path.Reached)
    (otherReached : other.Reached) :
    let before := (Tenancy.run store origin earlier).depot
    let after := (Tenancy.run store origin (earlier ++ operations.map (.operate path))).depot
    (forall name blob, path.toText ++ name = other.toText ++ blob ->
      path.segments <+: other.segments ∨ other.segments <+: path.segments) ∧
    (path.Apart other -> after.closed = before.closed ->
      Container.outlook ⟨store, other⟩ after = Container.outlook ⟨store, other⟩ before) ∧
    (forall rest : BlobPath, other.segments = path.segments ++ rest.segments ->
      (forall name, Container.key ⟨store, other⟩ name =
        Container.key ⟨store, path⟩ (rest.toText ++ name)) ∧
      (before.closed = false ->
        (Container.outlook ⟨store, other⟩ before).Within
          (Container.outlook ⟨store, path⟩ before) rest.toText)) := by
  intro before after
  refine ⟨fun name blob same => ?_, fun apart sameClosed => ?_, fun rest goesOn => ?_⟩
  · exact BlobPath.nested_of_append_eq reached.segments otherReached.segments same
  · cases closed : before.closed with
    | true => exact Container.outlook_closed _ (sameClosed.trans closed) closed
    | false =>
      have steadyBefore := Tenancy.steady_run calm opened unmade paged closed
      have steadyAfter := Tenancy.steady_run calm opened unmade paged (sameClosed.trans closed)
      rw [steadyBefore.outlook, steadyAfter.outlook]
      apply Container.view_congr
      intro name
      have beside := Tenancy.sameBeside_operations store (Tenancy.run store origin earlier) path
        operations
      rw [Tenancy.run, List.foldl_append]
      apply beside
      rintro _ ⟨blob, same⟩
      exact apart.toText_ne reached otherReached blob name same.symm
  · refine ⟨Container.key_within goesOn, fun isOpen => ?_⟩
    have steady := Tenancy.steady_run calm opened unmade paged isOpen
    rw [steady.outlook, steady.outlook]
    exact Container.view_within (Container.key_within goesOn) _

theorem containers_isolated_alike :
    let origin : Depot := {}
    let path := BlobPath.ofText "a"
    let beside := BlobPath.ofText "/ab"
    let inner : BlobPath := ⟨["a", "b"]⟩
    let earlier := [StoreStep.operate beside (.writeBytes "x" [1] false),
      .operate inner (.writeBytes "x" [1, 2, 3] false)]
    let operations := [Operation.writeBytes "b/x" [1, 2] true, .delete "b/x",
      .deleteMany ["b", "b/x", "/b/x", ""]]
    let before := (Tenancy.run .small origin earlier).depot
    let after := (Tenancy.run .small origin (earlier ++ operations.map (.operate path))).depot
    origin.schedule.IsCalm ∧ origin.closed = false ∧ origin.current = none ∧
      0 < origin.service.pageSize ∧ path.Reached ∧ beside.Reached ∧ inner.Reached ∧
      path.Apart beside ∧ after.closed = before.closed ∧
      Container.outlook ⟨.small, beside⟩ after = Container.outlook ⟨.small, beside⟩ before ∧
      inner.segments = path.segments ++ ["b"] ∧ before.closed = false ∧
      (Container.outlook ⟨.small, inner⟩ before).Within
        (Container.outlook ⟨.small, path⟩ before) "b/" := by
  intro origin path beside inner earlier operations before after
  have calm : origin.schedule.IsCalm := fun _ _ => rfl
  have adds : path.add "b" = .ok inner := by decide +kernel
  have innerReached : inner.Reached := .added (.read "a") adds
  have apart : path.Apart beside := ⟨by decide +kernel, by decide +kernel⟩
  have sameClosed : after.closed = before.closed := by decide +kernel
  have isOpen : before.closed = false := by decide +kernel
  have isolated := containers_isolated .small origin earlier operations path beside calm rfl rfl
    (by decide) (.read "a") (.read "/ab")
  have nested := containers_isolated .small origin earlier operations path inner calm rfl rfl
    (by decide) (.read "a") innerReached
  exact ⟨calm, rfl, rfl, by decide, .read "a", .read "/ab", innerReached, apart, sameClosed,
    isolated.2.1 apart sameClosed, rfl, isOpen, (nested.2.2 ⟨["b"]⟩ rfl).2 isOpen⟩

end BlobDepot
