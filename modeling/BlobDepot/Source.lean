import BlobDepot.Failure
import BlobDepot.Service.Body

set_option autoImplicit false

namespace BlobDepot

/-- What happens at a read: how much it gives at most, whether the store is closed meanwhile, and
how it fails. -/
structure ReadEvent where
  most : Option Nat := none
  closesStore : Bool := false
  failure : Option Failure := none
  deriving Repr

structure Source where
  rest : Body
  position : Nat := 0
  reads : Nat := 0
  events : Nat -> ReadEvent := fun _ => {}

namespace Source

def ofBody (body : Body) : Source :=
  match body with
  | .bytes content => { rest := .bytes content }
  | .virtual length _ => { rest := .virtual length 0 }

instance : Inhabited Source :=
  ⟨ofBody (.bytes [])⟩

def nextEvent (source : Source) : ReadEvent :=
  source.events (source.reads + 1)

def granted (source : Source) (size : Int) : Nat :=
  let left := source.rest.length
  -- A negative size asks for everything that is left.
  let asked := if size < 0 then left else min size.toNat left
  match source.nextEvent.most with
  | some most => min asked most
  | none => asked

def read (source : Source) (size : Int) : Except Failure Body × Source :=
  let counted := { source with reads := source.reads + 1 }
  match source.nextEvent.failure with
  -- A read that fails gives nothing and moves nothing, but it is counted.
  | some failure => (.error failure, counted)
  | none =>
      let count := source.granted size
      (.ok (source.rest.take count),
        { counted with
          rest := source.rest.drop count
          position := source.position + count })

theorem granted_le (source : Source) (size : Int) :
    source.granted size <= source.rest.length := by
  simp only [granted]
  split <;> split <;> omega

theorem granted_le_size (source : Source) (size : Nat) :
    source.granted size <= size := by
  simp only [granted]
  split <;> split <;> omega

end Source

end BlobDepot
