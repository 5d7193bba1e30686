import BlobDepot.Service.Bucket

/-!
# Disruptions

A schedule says what happens to a call besides its effect, by the kind of call and its number:
the effect may come first, the store may be closed meanwhile, and the answer may be another one
or a failure.  Only finitely many calls are disrupted, which is why a listing comes to an end.
-/

set_option autoImplicit false

namespace BlobDepot

/-- What happens to a call instead of, or besides, its effect. -/
structure Disruption where
  effectFirst : Bool := false
  closesStore : Bool := false
  outcome : Option (Except Failure Answer) := none

/-- The disruptions of the calls of each kind, by the number of the call counted from one.  No
call beyond the horizon is disrupted. -/
structure Schedule where
  disruptions : Method -> Nat -> List Disruption
  horizon : Nat
  calm_beyond : forall method number, horizon < number -> disruptions method number = []

namespace Schedule

def calm : Schedule where
  disruptions _ _ := []
  horizon := 0
  calm_beyond _ _ _ := rfl

instance : Inhabited Schedule :=
  ⟨calm⟩

def largest : List Nat -> Nat
  | [] => 0
  | number :: rest => max number (largest rest)

theorem le_largest {number : Nat} {numbers : List Nat} (listed : number ∈ numbers) :
    number <= largest numbers := by
  induction numbers with
  | nil => cases listed
  | cons head rest ih =>
      cases listed with
      | head => exact Nat.le_max_left ..
      | tail _ later => exact Nat.le_trans (ih later) (Nat.le_max_right ..)

def add
    (schedule : Schedule)
    (method : Method)
    (numbers : List Nat)
    (disruption : Disruption) : Schedule where
  disruptions other number :=
    schedule.disruptions other number ++
      if other = method ∧ number ∈ numbers then [disruption] else []
  horizon := max schedule.horizon (largest numbers)
  calm_beyond other number beyond := by
    have earlier : schedule.horizon < number :=
      Nat.lt_of_le_of_lt (Nat.le_max_left ..) beyond
    have unlisted : number ∉ numbers := by
      intro listed
      have small := le_largest listed
      omega
    simp [schedule.calm_beyond other number earlier, unlisted]

@[simp]
theorem disruptions_calm (method : Method) (number : Nat) :
    calm.disruptions method number = [] :=
  rfl

end Schedule

end BlobDepot
