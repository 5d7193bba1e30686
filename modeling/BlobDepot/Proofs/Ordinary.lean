import BlobDepot.Proofs.Confined

set_option autoImplicit false

namespace BlobDepot

open BlobDepot.Action

def Schedule.RaisesOrdinary (schedule : Schedule) : Prop :=
  forall method number disruption failure, disruption ∈ schedule.disruptions method number ->
    disruption.outcome = some (.error failure) -> failure.isA .ordinary = true

theorem Schedule.raisesOrdinary_calm : calm.RaisesOrdinary := by
  intro method number disruption failure listed
  cases listed

theorem Schedule.RaisesOrdinary.add
    {schedule : Schedule}
    {disruption : Disruption}
    (ordinary : schedule.RaisesOrdinary)
    (raises : forall failure, disruption.outcome = some (.error failure) ->
      failure.isA .ordinary = true)
    (method : Method)
    (numbers : List Nat) :
    (schedule.add method numbers disruption).RaisesOrdinary := by
  intro other number added failure listed
  obtain earlier | new := List.mem_append.mp listed
  · exact ordinary other number added failure earlier
  · split at new
    next =>
      rw [List.mem_singleton.mp new]
      exact raises failure
    next => cases new

namespace Failure

theorem shape_ordinary (error : ShapeError) :
    (Failure.of (.shape error)).isA .ordinary = true := by
  cases error with
  | notFinite infinite => cases infinite <;> rfl
  | _ => rfl

theorem reported_isA_ordinary (failure : Failure) (doing : String) :
    (failure.reported doing).isA .ordinary = true := by
  rw [reported]
  split
  next rejection _ =>
    rw [Rejection.reported]
    cases rejection.meansAbsent with
    | error error => exact shape_ordinary error
    | ok absent =>
      cases absent with
      | true => rfl
      | false =>
        cases rejection.statusNumber with
        | error error => exact shape_ordinary error
        | ok status => rfl
  next => rfl

end Failure

namespace Action

variable {α : Type} {schedule : Schedule}

def Ordinary (schedule : Schedule) (action : Action α) : Prop :=
  forall depot, depot.schedule = schedule ->
    Yields action depot (fun outcome next => next.schedule = schedule ∧
      forall failure, outcome = .error failure -> failure.isA .ordinary = true)

theorem ordinary_of_confined
    {expected : α -> Prop}
    {action : Action α}
    (confined : Confined (fun depot => depot.schedule = schedule)
      (fun failure => failure.isA .ordinary = true) expected action) :
    Ordinary schedule action := by
  intro depot same
  refine (confined depot same).mono (fun outcome next ended => ⟨ended.1, ?_⟩)
  rintro failure rfl
  exact ended.2

end Action

theorem Schedule.RaisesOrdinary.confines
    {schedule : Schedule}
    (raises : schedule.RaisesOrdinary) :
    Confines (fun depot => depot.schedule = schedule)
      (fun failure => failure.isA .ordinary = true) where
  stays _ _ same _ isSchedule := same.trans isSchedule
  raises _ method number disruption failure isSchedule listed :=
    raises method number disruption failure (isSchedule ▸ listed)
  states _ := rfl
  rejects _ _ _ _ := rfl
  reports failure doing _ _ := failure.reported_isA_ordinary doing

end BlobDepot
