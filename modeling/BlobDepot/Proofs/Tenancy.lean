import BlobDepot.Proofs.Lifecycle

/-!
# Runs of a store

Operations of any containers, references that are acquired and given back directly, and the
closing of the store, in any order.  Besides the steps of a run the store may be closed in the
middle of any request and of any read, as the schedule and the streams have it.
-/

set_option autoImplicit false

namespace BlobDepot

open BlobDepot.Action

inductive StoreStep where
  | operate (path : BlobPath) (operation : Operation)
  | borrow
  | giveBack (index : Nat)
  | close

/-- A depot, and the references that were acquired directly and not given back yet. -/
structure Tenancy where
  held : List Nat := []
  depot : Depot

namespace Tenancy

/-- Do one thing; a failure does not end the run.  Only what is held can be given back. -/
def step (store : Store) (tenancy : Tenancy) : StoreStep -> Tenancy
  | .operate path operation =>
      { tenancy with depot := (operation.run ⟨store, path⟩ tenancy.depot).2 }
  | .borrow =>
      match store.acquire tenancy.depot with
      | (.ok reference, depot) => { held := tenancy.held ++ [reference], depot := depot }
      | (.error _, depot) => { tenancy with depot := depot }
  | .giveBack index =>
      match tenancy.held[index]? with
      | some reference =>
          { held := tenancy.held.eraseIdx index
            depot := (Reference.release reference tenancy.depot).2 }
      | none => tenancy
  | .close => { tenancy with depot := (Store.close tenancy.depot).2 }

def run (store : Store) (origin : Depot) (steps : List StoreStep) : Tenancy :=
  steps.foldl (step store) { depot := origin }

structure Sound (origin : Depot) (tenancy : Tenancy) : Prop where
  shared : forall reference, reference ∈ tenancy.held -> reference = origin.references.length
  lent : Lent origin tenancy.held.length tenancy.depot

variable {store : Store} {origin : Depot}

theorem Sound.lent_held
    {tenancy : Tenancy}
    (sound : Sound origin tenancy)
    {index reference : Nat}
    (found : tenancy.held[index]? = some reference) :
    reference = origin.references.length ∧
      Lent origin ((tenancy.held.eraseIdx index).length + 1) tenancy.depot := by
  obtain ⟨inRange, _⟩ := List.getElem?_eq_some_iff.mp found
  have others : tenancy.held.length = (tenancy.held.eraseIdx index).length + 1 := by
    rw [List.length_eraseIdx_of_lt inRange]
    omega
  exact ⟨sound.shared reference (List.mem_of_getElem? found), others ▸ sound.lent⟩

theorem sound_step
    (leavesOpen : LeavesOpen store origin.schedule)
    {tenancy : Tenancy}
    (sound : Sound origin tenancy)
    (taken : StoreStep) :
    Sound origin (step store tenancy taken) := by
  have ⟨shared, lent⟩ := sound
  cases taken with
  | operate path operation =>
    exact ⟨shared, Lent.operate ⟨store, path⟩ leavesOpen _ operation tenancy.depot lent⟩
  | borrow =>
    have acquired := lent.acquire leavesOpen
    simp only [step]
    cases ran : store.acquire tenancy.depot with
    | mk outcome next =>
      rw [ran] at acquired
      cases outcome with
      | error failure => exact ⟨shared, acquired⟩
      | ok reference =>
        obtain ⟨same, lent, _⟩ := acquired
        refine ⟨?_, by simpa using lent⟩
        intro other listed
        cases List.mem_append.mp listed with
        | inl earlier => exact shared other earlier
        | inr last => exact (List.mem_singleton.mp last).trans same
  | giveBack index =>
    simp only [step]
    cases found : tenancy.held[index]? with
    | none => exact ⟨shared, lent⟩
    | some reference =>
      obtain ⟨rfl, lent⟩ := sound.lent_held found
      exact ⟨fun other listed => shared other (List.mem_of_mem_eraseIdx listed), lent.release⟩
  | close => exact ⟨shared, lent.close⟩

theorem sound_fresh (opened : origin.closed = false) (unmade : origin.current = none) :
    Sound origin { depot := origin } where
  shared reference listed := by cases listed
  lent := by
    refine ⟨{}, ?_, rfl, fun _ => rfl⟩
    exact {
      recorded := ⟨[], by simp, trivial, rfl⟩
      closable := rfl
      schedule := rfl
      closed := opened
      clients := rfl
      references := by simp
      current := unmade
      idle := fun _ => rfl
      unheld := fun ended => by cases ended }

theorem sound_run
    (leavesOpen : LeavesOpen store origin.schedule)
    (opened : origin.closed = false)
    (unmade : origin.current = none)
    (steps : List StoreStep) :
    Sound origin (run store origin steps) := by
  suffices keeps : forall tenancy, Sound origin tenancy ->
      Sound origin (steps.foldl (step store) tenancy) from
    keeps _ (sound_fresh opened unmade)
  induction steps with
  | nil => exact fun _ sound => sound
  | cons first rest ih => exact fun _ sound => ih _ (sound_step leavesOpen sound first)

theorem lent_sourced
    (leavesOpen : LeavesOpen store origin.schedule)
    (opened : origin.closed = false)
    (unmade : origin.current = none)
    (steps : List StoreStep)
    (source : Source) :
    Lent origin (run store origin steps).held.length
      { (run store origin steps).depot with source := source } :=
  (sound_run leavesOpen opened unmade steps).lent.sourced source

end Tenancy

end BlobDepot
