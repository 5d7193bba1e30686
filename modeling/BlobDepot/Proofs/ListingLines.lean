import BlobDepot.Command.Run
import BlobDepot.Proofs.Configs
import BlobDepot.Proofs.Drains

set_option autoImplicit false

namespace BlobDepot

namespace Table

variable {α : Type}

theorem mem_entries_iff
    {table : Table α}
    (unique : table.names.Nodup)
    (name : String)
    (value : α) :
    (name, value) ∈ table.entries ↔ table.get? name = some value := by
  obtain ⟨pairs⟩ := table
  simp only [names, get?] at unique ⊢
  induction pairs with
  | nil => simp [lookup]
  | cons pair rest ih =>
    obtain ⟨key, old⟩ := pair
    rw [List.map_cons, List.nodup_cons] at unique
    rw [List.mem_cons, lookup, Prod.mk.injEq]
    by_cases hit : key = name
    next =>
      subst hit
      have unlisted : (key, value) ∉ rest :=
        fun listed => unique.1 (List.mem_map.mpr ⟨_, listed, rfl⟩)
      simp [unlisted, eq_comm]
    next => simp [hit, Ne.symm hit, ih unique.2]

end Table

open BlobDepot.Action

def Action.Returns {α : Type} (action : Action α) (holds : α -> Prop) : Prop :=
  forall depot, Yields action depot (fun outcome _ => forall result,
    outcome = .ok result -> holds result)

namespace Action.Returns

variable {α β : Type} {holds : β -> Prop}

theorem throws (failure : Failure) : Returns (throw failure : Action β) holds := by
  rintro depot _ ⟨⟩

theorem bind
    {first : Action α}
    {next : α -> Action β}
    (returns : forall result, Returns (next result) holds) :
    Returns (first >>= next) holds := by
  intro depot
  have anything : Yields first depot (fun _ _ => True) := trivial
  refine Yields.bind anything (fun result middle _ => returns result middle) ?_
  rintro _ _ _ _ ⟨⟩

theorem settles
    {outcome : Except Failure β}
    (ok : forall result, outcome = .ok result -> holds result) :
    Returns (settle outcome) holds := by
  intro depot
  rw [Yields, run_settle]
  exact ok

theorem shaped_bind
    {read : Except ShapeError α}
    {next : α -> Action β}
    (returns : forall result, read = .ok result -> Returns (next result) holds) :
    Returns (shaped read >>= next) holds := by
  cases read with
  | ok result => exact returns result rfl
  | error error => exact throws (.of (.shape error))

theorem attempt_bind
    {work : Action β}
    {next : Except Failure β -> Action β}
    (returns : Returns work holds)
    (rest : forall outcome, (forall result, outcome = .ok result -> holds result) ->
      Returns (next outcome) holds) :
    Returns (attempt work >>= next) holds :=
  fun depot => (returns depot).attempt_bind (fun outcome left ok => rest outcome ok left)

theorem borrowing
    {work : Action β}
    (returns : Returns work holds)
    (store : Store) :
    Returns (store.borrowing work) holds :=
  bind (fun _ => returns.attempt_bind (fun _ ok => bind (fun _ => settles ok)))

end Action.Returns

namespace Container

variable {listing : Listing}

theorem nodup_addEntries
    {pathLength : Nat}
    {entries : List (Value × Int)}
    {longer : Listing}
    (unique : (Table.names listing).Nodup)
    (added : addEntries pathLength entries listing = .ok longer) :
    (Table.names longer).Nodup := by
  induction entries generalizing listing with
  | nil =>
    cases added
    exact unique
  | cons entry rest ih =>
    rw [addEntries] at added
    cases dropped : entry.1.dropName pathLength with
    | error error => simp [dropped, bind, Except.bind] at added
    | ok name =>
      simp only [dropped, bind, Except.bind] at added
      exact ih (Table.nodup_replace unique name entry.2) added

theorem nodup_drain
    (container : Container)
    (fuel : Nat)
    (page : ListingPage)
    (unique : (Table.names listing).Nodup) :
    (container.drain fuel page listing).Returns (fun listing => (Table.names listing).Nodup) := by
  induction fuel generalizing page listing with
  | zero =>
    rw [drain]
    refine .bind (fun _ => .shaped_bind (fun longer added => ?_))
    split
    next => exact .throws _
    next =>
      rintro depot _ ⟨⟩
      exact nodup_addEntries unique added
  | succ others ih =>
    rw [drain]
    refine .bind (fun _ => .shaped_bind (fun longer added => ?_))
    have longerUnique := nodup_addEntries unique added
    split
    next => exact .bind (fun next => ih next longerUnique)
    next =>
      rintro depot _ ⟨⟩
      exact longerUnique

theorem nodup_listBlobs (container : Container) (selection : Option String) :
    (container.listBlobs selection).Returns (fun listing => (Table.names listing).Nodup) := by
  have empty : (Table.names (Table.empty : Listing)).Nodup := List.nodup_nil
  have borrows : Action.Returns (container.store.borrowing do
      let page <- Client.listObjects container.bucket (container.key (selection.getD ""))
      let bound := Container.pagesAtMost (<- get) container.bucket
      container.drain bound page .empty) (fun listing => (Table.names listing).Nodup) :=
    .borrowing (.bind (fun page => .bind (fun _ =>
      nodup_drain container _ page empty))) _
  refine borrows.attempt_bind (fun outcome ok => ?_)
  cases outcome with
  | ok listing =>
    rintro depot _ ⟨⟩
    exact ok listing rfl
  | error failure => exact .throws _

end Container

namespace Command

def listingLine (entry : String × Int) : String :=
  aligned 14 entry.2 ++ "  " ++ entry.1

theorem listingLines_ordered
    {listing : Container.Listing}
    (unique : (Table.names listing).Nodup) :
    exists entries : List (String × Int), listingLines listing = entries.map listingLine ∧
      entries.Pairwise (fun first second => first.1 < second.1) ∧
      forall name length, (name, length) ∈ entries ↔ Table.get? listing name = some length := by
  let upTo (left right : String × Int) : Bool := !(right.1 < left.1)
  have upTo_iff (left right : String × Int) : upTo left right = true ↔ left.1 <= right.1 := by
    simp only [upTo, Bool.not_eq_true', decide_eq_false_iff_not, String.not_lt]
  have sorted : (listing.entries.mergeSort upTo).Pairwise (fun left right =>
      upTo left right = true) := by
    refine List.pairwise_mergeSort (fun first second third => ?_) (fun first second => ?_) _
    · simpa only [upTo_iff] using String.le_trans
    · simpa [upTo_iff] using String.le_total first.1 second.1
  have perm := List.mergeSort_perm listing.entries upTo
  have apart : ((listing.entries.mergeSort upTo).map Prod.fst).Nodup :=
    (perm.map Prod.fst).nodup_iff.mpr unique
  refine ⟨listing.entries.mergeSort upTo, rfl, ?_, fun name length => ?_⟩
  · refine (sorted.and (List.pairwise_map.mp apart)).imp (fun {first second} ordered => ?_)
    -- Names in order that are not the same are strictly in order.
    by_contra later
    exact ordered.2 (String.le_antisymm ((upTo_iff _ _).mp ordered.1) (String.not_lt.mp later))
  · rw [perm.mem_iff]
    exact Table.mem_entries_iff unique name length

end Command

end BlobDepot
