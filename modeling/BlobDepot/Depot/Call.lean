import BlobDepot.Depot

set_option autoImplicit false

namespace BlobDepot.Action

variable {α : Type}

def disrupted
    (shut : Action Unit)
    (effect : Action α)
    (answered : Answer -> Action α) : List Disruption -> Action α
  | [] => effect
  | disruption :: rest => do
      -- An effect that came first is repeated unless something else answers the call.
      if disruption.effectFirst then
        let _ <- effect
      if disruption.closesStore then
        shut
      match disruption.outcome with
      | some (.ok answer) => answered answer
      | some (.error failure) => throw failure
      | none => disrupted shut effect answered rest

def call
    (shut : Action Unit)
    (made : Call)
    (effect : Action α)
    (answered : Answer -> Action α) : Action α := do
  record (.called made)
  -- The call counts itself, so the first call of a kind has the number one.
  let depot <- get
  let number := depot.journal.callCount made.method
  disrupted shut effect answered (depot.schedule.disruptions made.method number)

def serve (request : Request) : Action Answer :=
  fun depot =>
    let (answer, service) := depot.service.perform request
    (answer.mapError (fun rejection => .of (.rejected rejection)),
      { depot with service := service })

end BlobDepot.Action
