import BlobDepot.Proofs.Lifecycle
import Mathlib.Algebra.GroupWithZero.Nat

set_option autoImplicit false

namespace BlobDepot

open BlobDepot.Action

def Event.tellsToClose (event : Event) (client : Nat) : Bool :=
  match event with
  | .called (.close told) => told == client
  | _ => false

def Depot.closings (depot : Depot) (client : Nat) : Nat :=
  depot.journal.events.countP (fun event => event.tellsToClose client)

def Reference.ending (reference : Nat) (depot : Depot) : Except Failure Unit :=
  (Reference.endClient Store.closeWithin (depot.clientOf reference)
    ((depot.setHolders reference 0).recorded (.returned reference 0))).1

/-- What can be done with a shared client: get hold of it, let go of it, or leave a block at the
end of which it is let go of. -/
inductive ReferenceUse where
  | tryAcquire
  | acquire
  | release
  | leave
  deriving DecidableEq

namespace ReferenceUse

def tells (use : ReferenceUse) (answer : Bool) : Option Bool :=
  match use with
  | .tryAcquire | .release => some answer
  | .acquire | .leave => none

def takes : ReferenceUse -> Bool
  | .tryAcquire | .acquire => true
  | .release | .leave => false

def run (reference : Nat) (use : ReferenceUse) : Action (Option Bool) :=
  match use with
  | .tryAcquire => do return use.tells (<- Reference.tryAcquire reference)
  | .acquire => do
      Reference.acquire reference
      return none
  | .release => do return use.tells (<- Reference.release reference)
  | .leave => do
      Reference.after reference (pure ())
      return none

def refusal : ReferenceUse -> Except Failure (Option Bool)
  | .tryAcquire => .ok (some false)
  | .acquire => .error (.of (.state .referenceClosed))
  | .release | .leave => .error (.of (.state .overReleased))

end ReferenceUse

/-- A use of a client: what it came to, what the end of the client would come to then, how often
the client was told to close meanwhile, and how many hold it afterwards. -/
structure Usage where
  use : ReferenceUse
  answer : Except Failure (Option Bool)
  ending : Except Failure Unit
  closed : Nat
  holders : Nat

namespace Usage

def acquired (usage : Usage) : Bool :=
  match usage.use, usage.answer with
  | .tryAcquire, .ok (some true) | .acquire, .ok _ => true
  | _, _ => false

def released (usage : Usage) : Bool :=
  match usage.use, usage.answer with
  | .release, .ok _ | .leave, .ok _ => true
  | .release, .error _ | .leave, .error _ => usage.closed != 0
  | _, _ => false

/-- What a use is while so many hold the client. -/
inductive Means (closable : Bool) : Nat -> Usage -> Prop
  | refused (use : ReferenceUse) (ending : Except Failure Unit) :
      Means closable 0 ⟨use, use.refusal, ending, 0, 0⟩
  | taken {use : ReferenceUse} (ending : Except Failure Unit) (others : Nat)
      (takes : use.takes = true) :
      Means closable (others + 1) ⟨use, .ok (use.tells true), ending, 0, others + 2⟩
  | given {use : ReferenceUse} (ending : Except Failure Unit) (others : Nat)
      (gives : use.takes = false) :
      Means closable (others + 2) ⟨use, .ok (use.tells false), ending, 0, others + 1⟩
  | last {use : ReferenceUse} {ending : Except Failure Unit} (gives : use.takes = false)
      (unclosable : closable = false -> ending = .ok ()) :
      Means closable 1 ⟨use, ending.map (fun _ => use.tells true), ending, closable.toNat, 0⟩

end Usage

namespace Reference

def usages (reference : Nat) : Depot -> List ReferenceUse -> List Usage
  | _, [] => []
  | depot, use :: rest =>
      let client := depot.clientOf reference
      let next := (use.run reference depot).2
      { use := use
        answer := (use.run reference depot).1
        ending := ending reference depot
        closed := next.closings client - depot.closings client
        holders := next.holders reference } :: usages reference next rest

end Reference

structure ReferenceCounted (closable : Bool) (usages : List Usage) : Prop where
  balanced : forall earlier usage later, usages = earlier ++ usage :: later ->
    usage.holders + (earlier ++ [usage]).countP Usage.released =
      1 + (earlier ++ [usage]).countP Usage.acquired
  closedOnce : (usages.map Usage.closed).sum <= 1
  closedLast : forall usage, usage ∈ usages -> usage.closed =
    if usage.released = true ∧ usage.holders = 0 then closable.toNat else 0
  lastAnswer : forall usage, usage ∈ usages -> usage.released = true -> usage.holders = 0 ->
    usage.answer = usage.ending.map (fun _ => usage.use.tells true)
  heldAnswer : forall usage, usage ∈ usages -> usage.holders ≠ 0 ->
    usage.answer = .ok (usage.use.tells usage.use.takes)
  ended : forall earlier usage later, usages = earlier ++ usage :: later -> usage.holders = 0 ->
    forall next, next ∈ later ->
      next.holders = 0 ∧ next.closed = 0 ∧ next.answer = next.use.refusal

namespace Depot

theorem closings_recorded (depot : Depot) (event : Event) (client : Nat) :
    (depot.recorded event).closings client =
      depot.closings client + (event.tellsToClose client).toNat := by
  rw [closings, recorded, Journal.record, List.countP_cons, closings]
  cases event.tellsToClose client <;> rfl

variable {depot : Depot} {reference : Nat} {entry : Reference}

theorem setHolders_listed
    (listed : depot.references[reference]? = some entry)
    (count : Nat) :
    (depot.setHolders reference count).references[reference]? = some ⟨entry.client, count⟩ := by
  simp [setHolders, listed]

theorem setHolders_other {other : Nat} (different : reference ≠ other) (count : Nat) :
    (depot.setHolders reference count).references[other]? = depot.references[other]? := by
  simp [setHolders, different]

end Depot

/-- So many hold a client, which was told to close so often.  No other reference to it is the one
that the store has. -/
structure Standing
    (reference client : Nat)
    (closable : Bool)
    (holders told : Nat)
    (depot : Depot) : Prop where
  listed : depot.references[reference]? = some ⟨client, holders⟩
  closable : depot.closable = closable
  sole : forall other entry, depot.current = some other ->
    depot.references[other]? = some entry -> other ≠ reference -> entry.client ≠ client
  closings : depot.closings client = told

namespace Standing

variable {reference client holders told : Nat} {closable : Bool} {depot : Depot}

theorem made
    {origin : Depot}
    (sole : forall other entry, origin.current = some other ->
      origin.references[other]? = some entry -> entry.client ≠ client) :
    Standing origin.references.length client origin.closable 1 (origin.closings client)
      (origin.addReference client) where
  listed := List.getElem?_concat_length
  closable := rfl
  sole other entry current listed different := by
    have known : other < origin.references.length := by
      have added := (List.getElem?_eq_some_iff.mp listed).1
      rw [Depot.addReference, List.length_append, List.length_singleton] at added
      omega
    rw [Depot.addReference, List.getElem?_append_left known] at listed
    exact sole other entry current listed
  closings := rfl

theorem holders_eq (standing : Standing reference client closable holders told depot) :
    depot.holders reference = holders :=
  Depot.holders_of_listed standing.listed

theorem clientOf_eq (standing : Standing reference client closable holders told depot) :
    depot.clientOf reference = client :=
  Depot.clientOf_of_listed standing.listed

theorem recorded
    (standing : Standing reference client closable holders told depot)
    (event : Event) :
    Standing reference client closable holders (told + (event.tellsToClose client).toNat)
      (depot.recorded event) where
  listed := standing.listed
  closable := standing.closable
  sole := standing.sole
  closings := by rw [Depot.closings_recorded, standing.closings]

theorem counted
    (standing : Standing reference client closable holders told depot)
    (count : Nat) :
    Standing reference client closable count told (depot.setHolders reference count) where
  listed := Depot.setHolders_listed standing.listed count
  closable := standing.closable
  sole other entry current listed different := by
    rw [Depot.setHolders_other different.symm] at listed
    exact standing.sole other entry current listed different
  closings := standing.closings

theorem counted_other
    (standing : Standing reference client closable holders told depot)
    {other : Nat}
    (different : other ≠ reference)
    (vacant : depot.current = none)
    (count : Nat) :
    Standing reference client closable holders told (depot.setHolders other count) where
  listed := (Depot.setHolders_other different count).trans standing.listed
  closable := standing.closable
  sole _ _ current _ _ := by cases vacant.symm.trans current
  closings := standing.closings

theorem logs (level event : String) (fields : List (String × Value)) :
    Keeps (Standing reference client closable holders told) (log level event fields) :=
  fun _ standing =>
    ⟨standing.listed, standing.closable, standing.sole, standing.closings⟩

theorem endClient
    {shut : Action Unit}
    (standing : Standing reference client closable holders told depot)
    (shuts : forall told, Keeps (Standing reference client closable holders told) shut)
    (ended : Nat) :
    Standing reference client closable holders (told + (closable && ended == client).toNat)
      (Reference.endClient shut ended depot).2 := by
  rw [Reference.endClient, run_bind_ok _ (run_get depot), standing.closable]
  cases closable with
  | true =>
    exact call_keeps (standing.recorded (.called (.close ended))) (fun _ _ _ _ => shuts _)
      (keeps_pure ()) (fun _ => keeps_pure ())
  | false => exact standing

theorem closeClient
    {shut : Action Unit}
    (standing : Standing reference client closable holders told depot)
    (shuts : forall told, Keeps (Standing reference client closable holders told) shut)
    (ended : Nat) :
    Standing reference client closable holders (told + (closable && ended == client).toNat)
      (Reference.closeClient shut ended depot).2 :=
  kept_bind (standing.endClient shuts ended) (fun _ => logs _ _ _)

theorem letGo
    (standing : Standing reference client closable 0 told depot)
    {other : Nat}
    (sole : forall entry, depot.references[other]? = some entry -> other ≠ reference ->
      entry.client ≠ client)
    (vacant : depot.current = none) :
    Standing reference client closable 0 told
      (Reference.releaseThrough (Reference.closeClient (pure ()))
        (fun left => .storeClosed (some left)) other depot).2 := by
  simp only [Reference.releaseThrough, run_bind_ok _ (run_get depot)]
  cases held : depot.holders other with
  | zero => exact standing
  | succ left =>
    have different : other ≠ reference := by
      rintro rfl
      cases held.symm.trans standing.holders_eq
    have named : depot.clientOf other ≠ client := by
      cases listed : depot.references[other]? with
      | none => simp [Depot.holders, listed] at held
      | some entry =>
        rw [Depot.clientOf_of_listed listed]
        exact sole entry listed different
    have given : Standing reference client closable 0 told
        ((depot.setHolders other left).recorded (.storeClosed (some left))) :=
      (standing.counted_other different vacant left).recorded (.storeClosed (some left))
    simp only [run_bind_ok _ (run_set _ depot), run_bind_ok _ (run_record _ _)]
    by_cases last : left = 0
    next =>
      have ended := given.closeClient (fun _ => keeps_pure ()) (depot.clientOf other)
      rw [beq_false_of_ne named, Bool.and_false] at ended
      rw [if_pos last]
      exact kept_bind ended (fun _ => keeps_pure true)
    next =>
      rw [if_neg last]
      exact given

theorem closeWithin (told : Nat) :
    Keeps (Standing reference client closable 0 told) Store.closeWithin := by
  intro depot standing
  cases closed : depot.closed with
  | true =>
    rw [Store.closeWithin, closeThrough_of_closed _ closed]
    exact standing
  | false =>
    have shut : Standing reference client closable 0 told
        { depot with closed := true, current := none } :=
      { standing with sole := fun _ _ current => by cases current }
    simp only [Store.closeWithin, Store.closeThrough, run_bind_ok _ (run_get depot), closed,
      Bool.false_eq_true, if_false, run_bind_ok _ (run_set _ depot)]
    cases current : depot.current with
    | none => exact shut.recorded (.storeClosed none)
    | some other =>
      exact kept_bind (shut.letGo (standing.sole other · current) rfl) (fun _ => keeps_pure ())

theorem tryAcquire_unheld (standing : Standing reference client closable 0 told depot) :
    Reference.tryAcquire reference depot = (.ok false, depot) := by
  rw [Reference.tryAcquire, run_bind_ok _ (run_get depot), standing.holders_eq]
  rfl

theorem tryAcquire_held
    {others : Nat}
    (standing : Standing reference client closable (others + 1) told depot) :
    Reference.tryAcquire reference depot =
      (.ok true, (depot.setHolders reference (others + 2)).recorded
        (.borrowed reference (others + 2))) := by
  rw [Reference.tryAcquire, run_bind_ok _ (run_get depot), standing.holders_eq]
  rfl

theorem acquire_unheld (standing : Standing reference client closable 0 told depot) :
    Reference.acquire reference depot = (.error (.of (.state .referenceClosed)), depot) := by
  rw [Reference.acquire, run_bind_ok _ standing.tryAcquire_unheld]
  rfl

theorem acquire_held
    {others : Nat}
    (standing : Standing reference client closable (others + 1) told depot) :
    Reference.acquire reference depot =
      (.ok (), (depot.setHolders reference (others + 2)).recorded
        (.borrowed reference (others + 2))) := by
  rw [Reference.acquire, run_bind_ok _ standing.tryAcquire_held]
  rfl

theorem release_unheld (standing : Standing reference client closable 0 told depot) :
    Reference.release reference depot = (.error (.of (.state .overReleased)), depot) := by
  rw [Reference.release, Reference.releaseThrough, run_bind_ok _ (run_get depot),
    standing.holders_eq]
  rfl

theorem release_counted
    {others : Nat}
    (standing : Standing reference client closable (others + 1) told depot) :
    Reference.release reference depot =
      (if others = 0 then do
        Reference.closeClient Store.closeWithin client
        return true
      else
        return false : Action Bool)
        ((depot.setHolders reference others).recorded (.returned reference others)) := by
  rw [Reference.release, Reference.releaseThrough, run_bind_ok _ (run_get depot),
    standing.holders_eq, <- standing.clientOf_eq]
  rfl

theorem release_held
    {others : Nat}
    (standing : Standing reference client closable (others + 2) told depot) :
    Reference.release reference depot =
      (.ok false, (depot.setHolders reference (others + 1)).recorded
        (.returned reference (others + 1))) :=
  standing.release_counted

theorem release_last (standing : Standing reference client closable 1 told depot) :
    Yields (Reference.release reference) depot (fun outcome next =>
      outcome = (Reference.ending reference depot).map (fun _ => true) ∧
        Standing reference client closable 0 (told + closable.toNat) next) := by
  let left := (depot.setHolders reference 0).recorded (.returned reference 0)
  have unheld : Standing reference client closable 0 told left :=
    (standing.counted 0).recorded (.returned reference 0)
  have ended := unheld.endClient closeWithin client
  rw [beq_self_eq_true, Bool.and_true] at ended
  rw [Yields, standing.release_counted, if_pos rfl, Reference.closeClient, Reference.ending,
    standing.clientOf_eq, bind_assoc, run_bind]
  rcases ran : Reference.endClient Store.closeWithin client left with ⟨outcome, next⟩
  rw [ran] at ended
  cases outcome with
  | ok _ => exact ⟨rfl, logs _ _ _ next ended⟩
  | error _ => exact ⟨rfl, ended⟩

theorem ending_of_unclosable
    (standing : Standing reference client closable holders told depot)
    (unclosable : closable = false) :
    Reference.ending reference depot = .ok () := by
  have cannot : ((depot.setHolders reference 0).recorded (.returned reference 0)).closable =
      false :=
    standing.closable.trans unclosable
  rw [Reference.ending, Reference.endClient, run_bind_ok _ (run_get _), cannot]
  rfl

end Standing

namespace ReferenceUse

variable {reference client told : Nat} {closable : Bool} {depot : Depot} {use : ReferenceUse}

theorem run_gives (gives : use.takes = false) (reference : Nat) :
    use.run reference depot =
      (do return use.tells (<- Reference.release reference) : Action (Option Bool)) depot := by
  cases use with
  | release => rfl
  | leave =>
    simp only [run, Reference.after, run_bind, run_attempt, run_pure, run_settle, tells]
    rcases Reference.release reference depot with ⟨outcome, next⟩
    cases outcome <;> rfl
  | _ => cases gives

theorem run_unheld
    (standing : Standing reference client closable 0 told depot)
    (use : ReferenceUse) :
    use.run reference depot = (use.refusal, depot) := by
  cases use with
  | tryAcquire =>
    rw [run, run_bind_ok _ standing.tryAcquire_unheld]
    rfl
  | acquire =>
    rw [run, run_bind_error _ standing.acquire_unheld]
    rfl
  | _ =>
    rw [run_gives rfl, run_bind_error _ standing.release_unheld]
    rfl

theorem run_takes
    {others : Nat}
    (standing : Standing reference client closable (others + 1) told depot)
    (takes : use.takes = true) :
    use.run reference depot =
      (.ok (use.tells true), (depot.setHolders reference (others + 2)).recorded
        (.borrowed reference (others + 2))) := by
  cases use with
  | tryAcquire =>
    rw [run, run_bind_ok _ standing.tryAcquire_held]
    rfl
  | acquire =>
    rw [run, run_bind_ok _ standing.acquire_held]
    rfl
  | _ => cases takes

theorem run_gives_last
    (standing : Standing reference client closable 1 told depot)
    (gives : use.takes = false) :
    Yields (use.run reference) depot (fun answer next =>
      answer = (Reference.ending reference depot).map (fun _ => use.tells true) ∧
        Standing reference client closable 0 (told + closable.toNat) next) := by
  rw [Yields, run_gives gives, run_bind]
  obtain ⟨ended, left⟩ := standing.release_last
  rcases ran : Reference.release reference depot with ⟨outcome, next⟩
  rw [ran] at ended left
  obtain rfl : outcome = (Reference.ending reference depot).map (fun _ => true) := ended
  cases Reference.ending reference depot <;> exact ⟨rfl, left⟩

theorem run_means
    {holders : Nat}
    (standing : Standing reference client closable holders told depot)
    (use : ReferenceUse) :
    Yields (use.run reference) depot (fun answer next => exists closed count,
      Usage.Means closable holders
        ⟨use, answer, Reference.ending reference depot, closed, count⟩ ∧
      Standing reference client closable count (told + closed) next) := by
  cases holders with
  | zero =>
    rw [Yields, run_unheld standing use]
    exact ⟨0, 0, .refused use _, standing⟩
  | succ others =>
    by_cases takes : use.takes = true
    next =>
      rw [Yields, run_takes standing takes]
      exact ⟨0, others + 2, .taken _ others takes, (standing.counted _).recorded (.borrowed ..)⟩
    next =>
      have gives : use.takes = false := Bool.eq_false_iff.mpr takes
      cases others with
      | zero =>
        exact (run_gives_last standing gives).mono (fun _ _ ended =>
          ⟨_, 0, ended.1 ▸ .last gives standing.ending_of_unclosable, ended.2⟩)
      | succ rest =>
        rw [Yields, run_gives gives, run_bind_ok _ standing.release_held]
        exact ⟨0, rest + 1, .given _ rest gives, (standing.counted _).recorded (.returned ..)⟩

end ReferenceUse

namespace Usage

def AllMean (closable : Bool) : Nat -> List Usage -> Prop
  | _, [] => True
  | holders, usage :: rest =>
      Means closable holders usage ∧ AllMean closable usage.holders rest

variable {closable : Bool} {holders : Nat} {usage : Usage} {usages : List Usage}

theorem acquired_of_gives (gives : usage.use.takes = false) : usage.acquired = false := by
  rcases usage with ⟨use, answer, ending, closed, count⟩
  cases use with
  | release | leave => rfl
  | _ => cases gives

theorem released_of_takes (takes : usage.use.takes = true) : usage.released = false := by
  rcases usage with ⟨use, answer, ending, closed, count⟩
  cases use with
  | tryAcquire | acquire => rfl
  | _ => cases takes

theorem acquired_of_taken
    (takes : usage.use.takes = true)
    (answer : usage.answer = .ok (usage.use.tells true)) :
    usage.acquired = true := by
  rcases usage with ⟨use, given, ending, closed, count⟩
  obtain rfl : given = .ok (use.tells true) := answer
  cases use with
  | tryAcquire | acquire => rfl
  | _ => cases takes

theorem released_of_given
    {result : Option Bool}
    (gives : usage.use.takes = false)
    (answer : usage.answer = .ok result) :
    usage.released = true := by
  rcases usage with ⟨use, given, ending, closed, count⟩
  obtain rfl : given = .ok result := answer
  cases use with
  | release | leave => rfl
  | _ => cases gives

theorem released_of_closed (gives : usage.use.takes = false) (told : usage.closed ≠ 0) :
    usage.released = true := by
  cases answer : usage.answer with
  | ok result => exact released_of_given gives answer
  | error failure =>
    rcases usage with ⟨use, given, ending, closed, count⟩
    obtain rfl : given = .error failure := answer
    cases use with
    | release | leave => exact bne_iff_ne.mpr told
    | _ => cases gives

theorem unchanged_of_refused (use : ReferenceUse) (ending : Except Failure Unit) :
    acquired ⟨use, use.refusal, ending, 0, 0⟩ = false ∧
      released ⟨use, use.refusal, ending, 0, 0⟩ = false := by
  cases use <;> exact ⟨rfl, rfl⟩

theorem released_of_last
    {use : ReferenceUse}
    {ending : Except Failure Unit}
    (gives : use.takes = false)
    (unclosable : closable = false -> ending = .ok ()) :
    released ⟨use, ending.map (fun _ => use.tells true), ending, closable.toNat, 0⟩ = true := by
  cases closable with
  | true => exact released_of_closed gives Nat.one_ne_zero
  | false =>
    rw [unclosable rfl]
    exact released_of_given gives rfl

namespace Means

theorem balanced (means : Means closable holders usage) :
    usage.holders + [usage].countP released = holders + [usage].countP acquired := by
  rw [List.countP_singleton, List.countP_singleton]
  cases means with
  | refused use ending =>
    obtain ⟨acquired, released⟩ := unchanged_of_refused use ending
    rw [acquired, released]
  | taken ending others takes =>
    rw [acquired_of_taken takes rfl, released_of_takes takes]
    rfl
  | given ending others gives =>
    rw [acquired_of_gives gives, released_of_given gives rfl]
    rfl
  | last gives unclosable =>
    rw [acquired_of_gives gives, released_of_last gives unclosable]
    rfl

theorem lasts (means : Means closable holders usage) (held : usage.holders ≠ 0) :
    usage.closed = 0 ∧ usage.answer = .ok (usage.use.tells usage.use.takes) := by
  cases means with
  | refused => exact absurd rfl held
  | taken ending others takes => exact ⟨rfl, by rw [takes]⟩
  | given ending others gives => exact ⟨rfl, by rw [gives]⟩
  | last => exact absurd rfl held

theorem ends (means : Means closable holders usage) (unheld : usage.holders = 0) :
    (usage.released = true ∧ usage.closed = closable.toNat ∧
      usage.answer = usage.ending.map (fun _ => usage.use.tells true)) ∨
    (usage.released = false ∧ usage.closed = 0) := by
  cases means with
  | refused use ending => exact .inr ⟨(unchanged_of_refused use ending).2, rfl⟩
  | last gives unclosable => exact .inl ⟨released_of_last gives unclosable, rfl, rfl⟩
  | _ => cases unheld

end Means

namespace AllMean

theorem split
    {earlier later : List Usage}
    (all : AllMean closable holders (earlier ++ later)) :
    exists count, AllMean closable count later ∧
      count + earlier.countP released = holders + earlier.countP acquired := by
  induction earlier generalizing holders with
  | nil => exact ⟨holders, all, rfl⟩
  | cons usage rest ih =>
    obtain ⟨means, others⟩ := all
    obtain ⟨count, meant, balanced⟩ := ih others
    refine ⟨count, meant, ?_⟩
    have own := means.balanced
    rw [<- List.singleton_append, List.countP_append, List.countP_append]
    omega

theorem means
    (all : AllMean closable holders usages)
    (listed : usage ∈ usages) :
    exists before, Means closable before usage := by
  obtain ⟨earlier, later, rfl⟩ := List.append_of_mem listed
  obtain ⟨before, ⟨means, _⟩, _⟩ := all.split
  exact ⟨before, means⟩

theorem refused
    (all : AllMean closable 0 usages)
    (listed : usage ∈ usages) :
    usage.holders = 0 ∧ usage.closed = 0 ∧ usage.answer = usage.use.refusal := by
  induction usages with
  | nil => cases listed
  | cons first rest ih =>
    obtain ⟨means, others⟩ := all
    cases means with
    | refused use ending =>
      rcases List.mem_cons.mp listed with rfl | later
      next => exact ⟨rfl, rfl, rfl⟩
      next => exact ih others later

theorem closed_of_unheld (all : AllMean closable 0 usages) : (usages.map closed).sum = 0 := by
  rw [List.sum_eq_zero_iff_forall_eq_nat, List.forall_mem_map]
  intro usage listed
  exact (all.refused listed).2.1

theorem closed_once (all : AllMean closable holders usages) : (usages.map closed).sum <= 1 := by
  induction usages generalizing holders with
  | nil => exact Nat.zero_le 1
  | cons usage rest ih =>
    obtain ⟨means, others⟩ := all
    rw [List.map_cons, List.sum_cons]
    cases means with
    | refused | taken | given =>
      rw [Nat.zero_add]
      exact ih others
    | last =>
      rw [others.closed_of_unheld]
      exact Bool.toNat_le closable

theorem counted (all : AllMean closable 1 usages) : ReferenceCounted closable usages where
  balanced := by
    rintro earlier usage later rfl
    obtain ⟨before, ⟨means, _⟩, balanced⟩ := all.split
    have own := means.balanced
    rw [List.countP_append, List.countP_append]
    omega
  closedOnce := all.closed_once
  closedLast := by
    intro usage listed
    obtain ⟨before, means⟩ := all.means listed
    by_cases unheld : usage.holders = 0
    next =>
      rcases means.ends unheld with ⟨released, closed, _⟩ | ⟨kept, closed⟩
      next => rw [if_pos ⟨released, unheld⟩, closed]
      next => rw [if_neg (by simp [kept]), closed]
    next => rw [if_neg (fun last => unheld last.2), (means.lasts unheld).1]
  lastAnswer := by
    intro usage listed released unheld
    obtain ⟨before, means⟩ := all.means listed
    rcases means.ends unheld with ⟨_, _, answer⟩ | ⟨kept, _⟩
    next => exact answer
    next => cases kept.symm.trans released
  heldAnswer := by
    intro usage listed held
    obtain ⟨before, means⟩ := all.means listed
    exact (means.lasts held).2
  ended := by
    rintro earlier usage later rfl unheld next listed
    obtain ⟨before, ⟨_, others⟩, _⟩ := all.split
    rw [unheld] at others
    exact others.refused listed

end AllMean

end Usage

namespace Reference

theorem usages_allMean
    {reference client holders told : Nat}
    {closable : Bool}
    {depot : Depot}
    (standing : Standing reference client closable holders told depot)
    (uses : List ReferenceUse) :
    Usage.AllMean closable holders (usages reference depot uses) := by
  induction uses generalizing depot holders told with
  | nil => trivial
  | cons use rest ih =>
    obtain ⟨closed, count, means, next⟩ := ReferenceUse.run_means standing use
    have told : (use.run reference depot).2.closings (depot.clientOf reference) -
        depot.closings (depot.clientOf reference) = closed := by
      rw [standing.clientOf_eq, next.closings, standing.closings, Nat.add_sub_cancel_left]
    refine ⟨?_, ?_⟩
    · rw [told, next.holders_eq]
      exact means
    · rw [next.holders_eq]
      exact ih next

theorem after_leave {α : Type} (reference : Nat) (work : Action α) :
    after reference work = (do
      let outcome <- attempt work
      after reference (pure ())
      settle outcome) := by
  funext depot
  simp only [after, run_bind, run_attempt, run_pure, run_settle]
  rcases release reference (work depot).2 with ⟨given, next⟩
  cases given <;> rfl

/-- However a new client is used, as many hold it as its owner and those who got hold of it, less
those who let go of it, and it is told to close at most once, when nobody holds it any more.  It
may be closed in any way, as long as no store has it by another reference. -/
theorem usages_counted
    (origin : Depot)
    (client : Nat)
    (sole : forall other entry, origin.current = some other ->
      origin.references[other]? = some entry -> entry.client ≠ client)
    (uses : List ReferenceUse) :
    let made := origin.addReference client
    let reference := origin.references.length
    made.holders reference = 1 ∧
      ReferenceCounted origin.closable (usages reference made uses) ∧
      (forall {α : Type} (work : Action α), after reference work = do
        let outcome <- attempt work
        after reference (pure ())
        settle outcome) ∧
      (forall use failure, ReferenceUse.refusal use = .error failure ->
        failure.kind = .runtime) := by
  have standing := Standing.made sole
  refine ⟨standing.holders_eq, (usages_allMean standing uses).counted, fun work => ?_, ?_⟩
  · exact after_leave _ work
  · intro use failure refused
    cases use <;> cases refused <;> rfl

theorem usages_counted_failing_close :
    let unclosable : Failure := .of (.raised .runtime [.text "close failed"] .null .null)
    let origin : Depot :=
      { schedule := Schedule.calm.add .close [1]
          { closesStore := true, outcome := some (.error unclosable) }
        references := [⟨3, 1⟩]
        current := some 0 }
    let uses := [.tryAcquire, .release, .leave, .release, .tryAcquire]
    let told := usages 1 (origin.addReference 7) uses
    (forall other entry, origin.current = some other ->
      origin.references[other]? = some entry -> entry.client ≠ 7) ∧
      ReferenceCounted true told ∧
      told.map Usage.holders = [2, 1, 0, 0, 0] ∧
      told.map Usage.closed = [0, 0, 1, 0, 0] ∧
      told.map (fun usage => usage.answer.mapError Failure.kind) =
        [.ok (some true), .ok (some false), .error .runtime, .error .runtime,
          .ok (some false)] := by
  intro unclosable origin uses told
  have sole : forall other entry, origin.current = some other ->
      origin.references[other]? = some entry -> entry.client ≠ 7 := by
    rintro other entry ⟨⟩ ⟨⟩
    decide
  have counted := (usages_counted origin 7 sole uses).2.1
  exact ⟨sole, counted, by decide +kernel, by decide +kernel, by decide +kernel⟩

end Reference

end BlobDepot
