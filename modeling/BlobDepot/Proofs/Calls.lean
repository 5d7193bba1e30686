import BlobDepot.Proofs.Actions

set_option autoImplicit false

namespace BlobDepot.Action

variable {α : Type} {kept : Depot -> Prop}

theorem keeps_disrupted
    {shut : Action Unit}
    {effect : Action α}
    {answered : Answer -> Action α}
    {disruptions : List Disruption}
    (shutKeeps : forall disruption, disruption ∈ disruptions -> disruption.closesStore = true ->
      Keeps kept shut)
    (effectKeeps : Keeps kept effect)
    (answeredKeeps : forall answer, Keeps kept (answered answer)) :
    Keeps kept (disrupted shut effect answered disruptions) := by
  induction disruptions with
  | nil => exact effectKeeps
  | cons disruption rest ih =>
    have restKeeps := ih (fun later listed => shutKeeps later (List.mem_cons_of_mem _ listed))
    rw [disrupted]
    refine Keeps.optional (fun _ => effectKeeps) ?_
    refine Keeps.optional (shutKeeps disruption List.mem_cons_self) ?_
    cases disruption.outcome with
    | none => exact restKeeps
    | some outcome =>
      cases outcome with
      | ok answer => exact answeredKeeps answer
      | error failure => exact keeps_throw failure

theorem call_keeps
    {shut : Action Unit}
    {made : Call}
    {effect : Action α}
    {answered : Answer -> Action α}
    {depot : Depot}
    (recorded : kept (depot.recorded (.called made)))
    (shutKeeps : forall number disruption,
      disruption ∈ depot.schedule.disruptions made.method number ->
        disruption.closesStore = true -> Keeps kept shut)
    (effectKeeps : Keeps kept effect)
    (answeredKeeps : forall answer, Keeps kept (answered answer)) :
    kept (call shut made effect answered depot).2 := by
  simp only [call, run_bind, run_record, run_get]
  exact keeps_disrupted (shutKeeps _) effectKeeps answeredKeeps _ recorded

theorem keeps_send
    {request : Request}
    (called : forall depot, kept depot -> kept (depot.recorded (.called (.request request))))
    (answered : forall depot outcome, kept depot ->
      kept (depot.recorded (.answered request outcome)))
    (served : Keeps kept (serve request))
    (closing : Keeps kept Store.close) :
    Keeps kept (send request) := by
  intro depot holds
  have ran : kept (call Store.close (.request request) (serve request) pure depot).2 :=
    call_keeps (called depot holds) (fun _ _ _ _ => closing) served keeps_pure
  simp only [send, run_bind, run_attempt, run_record, run_settle]
  exact answered _ _ ran

theorem keeps_readSource
    {size : Int}
    (closing : Keeps kept Store.close)
    (moved : forall depot source outcome, kept depot ->
      kept (Depot.recorded { depot with source := source } (.read size outcome))) :
    Keeps kept (Client.readSource size) := by
  refine keeps_get.bind (fun depot => ?_)
  refine Keeps.optional (fun _ => closing) ?_
  intro middle holds
  simp only [run_bind, run_get, run_set, run_record, run_settle]
  exact moved middle _ _ holds

end BlobDepot.Action
