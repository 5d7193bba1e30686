import BlobDepot.Command.Run
import BlobDepot.Proofs.Aloof
import BlobDepot.Proofs.Tenancy

set_option autoImplicit false

namespace BlobDepot

def Event.closes (client : Nat) : Event -> Bool
  | .called (.close other) => other == client
  | _ => false

/-- One client was made at most, and each that was made, but no other, was told to close once, if
it can be closed. -/
structure ClosesAll (closable : Bool) (events : List Event) : Prop where
  madeOnce : events.countP Event.isClientMade <= 1
  closedOnce : closable = true -> forall client, .clientMade client ∈ events ->
    events.countP (Event.closes client) = 1
  closesMade : forall client, .called (.close client) ∈ events -> .clientMade client ∈ events

theorem ClosesAll.nothing (closable : Bool) : ClosesAll closable [] where
  madeOnce := Nat.zero_le 1
  closedOnce _ _ made := by cases made
  closesMade _ told := by cases told

namespace ClientLife

variable {closable : Bool} {events : List Event}

end ClientLife

namespace Command

namespace Step

variable {α β : Type} {kept : Depot -> Prop}

theorem run_bind (first : Step α) (next : α -> Step β) (shell : Shell) :
    (first >>= next) shell =
      match first shell with
      | (.ok result, middle) => next result middle
      | (.error ending, middle) => (.error ending, middle) := by
  change (ExceptT.bindCont next _) _ = _
  rcases first shell with ⟨outcome, middle⟩
  cases outcome <;> rfl

def Keeps (kept : Depot -> Prop) (step : Step α) : Prop :=
  forall shell, kept shell.depot -> kept (step shell).2.depot

theorem keeps_pure (result : α) : Keeps kept (pure result : Step α) :=
  fun _ holds => holds

theorem keeps_throw (ending : Ending) : Keeps kept (throw ending : Step α) :=
  fun _ holds => holds

theorem keeps_get : Keeps kept (get : Step Shell) :=
  fun _ holds => holds

theorem Keeps.bind
    {first : Step α}
    {next : α -> Step β}
    (firstKeeps : Keeps kept first)
    (nextKeeps : forall result, Keeps kept (next result)) :
    Keeps kept (first >>= next) := by
  intro shell holds
  have middle := firstKeeps shell holds
  rw [run_bind]
  cases ran : first shell with
  | mk outcome left =>
    rw [ran] at middle
    cases outcome with
    | ok result => exact nextKeeps result left middle
    | error ending => exact middle

theorem Keeps.ite
    {condition : Prop}
    [Decidable condition]
    {first second : Step α}
    (firstKeeps : Keeps kept first)
    (secondKeeps : Keeps kept second) :
    Keeps kept (if condition then first else second) := by
  split
  next => exact firstKeeps
  next => exact secondKeeps

end Step

open Step

section

variable {origin : Depot} {container : Container}

end

/-- Some events came to a depot by which every client that was made is closed.  Nothing else that
matters to the next command line changed. -/
structure Managed (depot next : Depot) (events : List Event) : Prop where
  history : next.journal.history = depot.journal.history ++ events
  closes : ClosesAll depot.closable events
  schedule : next.schedule = depot.schedule
  closable : next.closable = depot.closable

theorem Managed.refl (depot : Depot) : Managed depot depot [] where
  history := (List.append_nil _).symm
  closes := .nothing _
  schedule := rfl
  closable := rfl

def Connects (schedule : Schedule) : Prop :=
  forall config : Config, LeavesOpen { config := config } schedule

def opened (config : Config) (depot : Depot) : Depot :=
  { depot with
    current := none
    closed := false
    journal := { depot.journal with
      context := .ofList [("bucket", .text config.bucket), ("base_path", .text config.basePath)] } }

section

variable {kept : Depot -> Prop}

end

def Manages {α : Type} (step : Step α) : Prop :=
  forall shell : Shell, Connects shell.depot.schedule ->
    exists events, Managed shell.depot (step shell).2.depot events

theorem Manages.after
    {α β : Type}
    {first : Step α}
    {next : α -> Step β}
    (still : forall depot, Keeps (fun left => left = depot) first)
    (manages : forall result, Manages (next result)) :
    Manages (first >>= next) := by
  intro shell connects
  have same := still shell.depot shell rfl
  rw [run_bind]
  cases ran : first shell with
  | mk outcome left =>
    rw [ran] at same
    cases outcome with
    | error ending => exact ⟨[], same ▸ .refl _⟩
    | ok result =>
      have managed := manages result left (same ▸ connects)
      rwa [same] at managed

end Command

end BlobDepot
