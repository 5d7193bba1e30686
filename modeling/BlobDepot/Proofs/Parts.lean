import BlobDepot.Container.Upload
import Mathlib.Algebra.Order.BigOperators.Group.List
import Mathlib.Algebra.Order.Ring.Int
import Mathlib.Tactic.Linarith
import Mathlib.Tactic.Ring

set_option autoImplicit false

namespace BlobDepot

def partSizes (size partSize : Int) : List Int :=
  let count := ((size + partSize - 1) / partSize).toNat
  List.replicate (count - 1) partSize ++ [size - ((count - 1 : Nat) : Int) * partSize]

section Sizes

variable {size partSize : Int}

theorem sum_partSizes (size partSize : Int) : (partSizes size partSize).sum = size := by
  simp [partSizes]

theorem count_pos (positive : 0 < partSize) (some : 0 < size) :
    1 <= (size + partSize - 1) / partSize := by
  rw [Int.le_ediv_iff_mul_le positive]
  omega

theorem length_partSizes (positive : 0 < partSize) (some : 0 < size) :
    ((partSizes size partSize).length : Int) = (size + partSize - 1) / partSize := by
  have least := count_pos positive some
  simp only [partSizes, List.length_append, List.length_replicate, List.length_singleton]
  omega

theorem nonneg_of_mem_partSizes
    (positive : 0 < partSize)
    (some : 0 < size)
    {part : Int}
    (listed : part ∈ partSizes size partSize) :
    0 <= part := by
  have least := count_pos positive some
  rcases List.mem_append.mp listed with full | last
  next =>
    rw [List.eq_of_mem_replicate full]
    omega
  next =>
    rw [List.mem_singleton.mp last]
    have held := Int.ediv_mul_le (size + partSize - 1) (Int.ne_of_gt positive)
    have count : ((((size + partSize - 1) / partSize).toNat - 1 : Nat) : Int) =
        (size + partSize - 1) / partSize - 1 := by omega
    rw [count, Int.sub_mul]
    omega

end Sizes

namespace PartPlan

variable {plan : PartPlan} {size partSize : Int}

def sizes (plan : PartPlan) (partSize : Int) : Int -> Nat -> List Int
  | _, 0 => []
  | number, left + 1 => plan.partSizeFor number partSize :: plan.sizes partSize (number + 1) left

theorem sizes_rest
    (left : Nat)
    {number : Int}
    (rest : number + left = plan.partCount) :
    plan.sizes partSize number (left + 1) =
      List.replicate left partSize ++ [plan.lastPartSize] := by
  induction left generalizing number with
  | zero =>
    have last : Not (number < plan.partCount) := by omega
    simp [sizes, partSizeFor, last]
  | succ left ih =>
    have full : number < plan.partCount := by omega
    rw [sizes, ih (by omega), partSizeFor, if_pos full]
    rfl

structure Fits (plan : PartPlan) (size partSize : Int) : Prop where
  parts : 1 <= plan.partCount
  last : 0 <= plan.lastPartSize
  largest : plan.lastPartSize <= partSize
  total : plan.totalSize partSize = size
  needed : plan.partCount = 1 ∨ (plan.partCount - 1) * partSize < size

theorem ofSizes_fits
    (positive : 0 < partSize)
    (nonneg : 0 <= size)
    (planned : ofSizes size partSize = .ok plan) :
    plan.Fits size partSize := by
  have whole := Int.mul_ediv_add_emod size partSize
  have remainder := Int.emod_nonneg size (Int.ne_of_gt positive)
  rw [ofSizes, if_neg (by omega)] at planned
  split at planned
  next =>
    cases planned
    exact ⟨Int.le_refl 1, nonneg, by assumption, by simp [totalSize], .inl rfl⟩
  next large =>
    have large : partSize < size := by omega
    have parts : 1 <= size / partSize := (Int.le_ediv_iff_mul_le positive).mpr (by omega)
    split at planned
    next even =>
      cases planned
      refine ⟨parts, Int.le_of_lt positive, Int.le_refl _, ?_, .inr ?_⟩
      · simp only [totalSize]
        linarith [Int.mul_comm partSize (size / partSize)]
      · simp only
        linarith [Int.mul_comm partSize (size / partSize)]
    next uneven =>
      cases planned
      have some : 0 < size % partSize := by omega
      have below := Int.emod_lt_of_pos size positive
      refine ⟨by simp only; omega, remainder, Int.le_of_lt below, ?_, .inr ?_⟩
      · simp only [totalSize]
        linarith [Int.mul_comm partSize (size / partSize)]
      · simp only
        linarith [Int.mul_comm partSize (size / partSize)]

theorem exists_fits (positive : 0 < partSize) (nonneg : 0 <= size) :
    exists plan, ofSizes size partSize = .ok plan ∧ plan.Fits size partSize := by
  cases planned : ofSizes size partSize with
  | ok plan => exact ⟨plan, rfl, ofSizes_fits positive nonneg planned⟩
  | error error =>
    rw [ofSizes, if_neg (by omega)] at planned
    repeat' split at planned
    all_goals cases planned

namespace Fits

theorem count (fits : plan.Fits size partSize) (positive : 0 < partSize) (some : 0 < size) :
    plan.partCount = (size + partSize - 1) / partSize := by
  have last := fits.last
  have largest := fits.largest
  have total := fits.total
  rw [totalSize] at total
  apply Int.le_antisymm
  next =>
    rw [Int.le_ediv_iff_mul_le positive]
    rcases fits.needed with single | needed
    next =>
      rw [single]
      omega
    next =>
      have whole : plan.partCount * partSize = (plan.partCount - 1) * partSize + partSize := by ring
      omega
  next =>
    apply Int.lt_add_one_iff.mp
    apply Int.ediv_lt_of_lt_mul positive
    have whole : (plan.partCount + 1) * partSize =
        (plan.partCount - 1) * partSize + partSize + partSize := by ring
    omega

theorem sizes_one (fits : plan.Fits size partSize) (positive : 0 < partSize) (some : 0 < size) :
    plan.sizes partSize 1 plan.partCount.toNat = partSizes size partSize := by
  have parts := fits.parts
  have total := fits.total
  -- The last part is counted apart, since it alone may be smaller.
  obtain ⟨others, isCount⟩ : exists others : Nat, plan.partCount.toNat = others + 1 :=
    ⟨plan.partCount.toNat - 1, by omega⟩
  have count : (others : Int) = plan.partCount - 1 := by omega
  rw [totalSize, <- count] at total
  rw [isCount, sizes_rest others (by omega), partSizes, <- fits.count positive some, isCount]
  simp only [Nat.add_sub_cancel]
  congr 2
  omega

theorem partCount_le
    (fits : plan.Fits size partSize)
    (positive : 0 < partSize)
    {limit : Nat}
    (some : 0 < limit) :
    plan.partCount <= limit ↔ size <= limit * partSize := by
  constructor
  · intro few
    have largest := fits.largest
    have held : plan.partCount * partSize <= limit * partSize :=
      Int.mul_le_mul_of_nonneg_right few (by omega)
    have total := fits.total
    rw [totalSize] at total
    linarith
  · intro held
    obtain single | needed := fits.needed
    · omega
    · by_contra more
      have full : (limit : Int) * partSize <= (plan.partCount - 1) * partSize :=
        Int.mul_le_mul_of_nonneg_right (by omega) (by omega)
      omega

end Fits

end PartPlan

namespace Container

variable {container : Container}

theorem bufferSize_pos : 0 < container.bufferSize :=
  Int.natCast_pos.mpr container.store.config.bufferSize_pos

theorem minMultipartSize_le :
    (container.store.config.minMultipartSize : Int) <= container.bufferSize :=
  Int.ofNat_le.mpr container.store.config.minMultipartSize_le

end Container

namespace Source

def taken (source : Source) (size : Int) : Body :=
  source.rest.take (source.granted size)

def after (source : Source) (size : Int) : Source :=
  (source.read size).2

def pieces : Source -> List Int -> List Body
  | _, [] => []
  | source, size :: sizes => source.taken size :: (source.after size).pieces sizes

theorem length_pieces (source : Source) (sizes : List Int) :
    (source.pieces sizes).length = sizes.length := by
  induction sizes generalizing source with
  | nil => rfl
  | cons size sizes ih => rw [pieces, List.length_cons, ih, List.length_cons]

theorem length_taken_le (source : Source) {size : Int} (nonneg : 0 <= size) :
    ((source.taken size).length : Int) <= size := by
  obtain ⟨asked, rfl⟩ := Int.eq_ofNat_of_zero_le nonneg
  have within := source.granted_le_size asked
  rw [taken, Body.length_take]
  omega

theorem length_pieces_iff
    (source : Source)
    {sizes : List Int}
    (nonneg : forall size, size ∈ sizes -> 0 <= size) :
    ((((source.pieces sizes).map Body.length).sum : Nat) : Int) = sizes.sum ↔
      (source.pieces sizes).map (fun body => (body.length : Int)) = sizes := by
  -- No piece is too large, so none can make up for another one.
  have small : forall (source : Source) (sizes : List Int),
      (forall size, size ∈ sizes -> 0 <= size) ->
        ((((source.pieces sizes).map Body.length).sum : Nat) : Int) <= sizes.sum := by
    intro source sizes nonneg
    induction sizes generalizing source with
    | nil => exact Int.le_refl 0
    | cons size sizes ih =>
      have first := source.length_taken_le (nonneg size List.mem_cons_self)
      have later := ih (source.after size) (fun other listed => nonneg other (.tail _ listed))
      simp only [pieces, List.map_cons, List.sum_cons]
      omega
  induction sizes generalizing source with
  | nil => simp [pieces]
  | cons size sizes ih =>
    have others : forall other, other ∈ sizes -> 0 <= other :=
      fun other listed => nonneg other (.tail _ listed)
    have first := source.length_taken_le (nonneg size List.mem_cons_self)
    have later := small (source.after size) sizes others
    simp only [pieces, List.map_cons, List.sum_cons, List.cons.injEq, <- ih _ others]
    omega

/-- A stream that never fails and does nothing but give what it has.  It may give less than it is
asked for. -/
structure Sound (source : Source) : Prop where
  quiet : forall number, source.reads < number -> (source.events number).closesStore = false
  sound : forall number, source.reads < number -> (source.events number).failure = none

namespace Sound

variable {source : Source}

theorem read (sound : source.Sound) (size : Int) :
    source.read size = (.ok (source.taken size), source.after size) := by
  have unfailing : source.nextEvent.failure = none := sound.sound _ (Nat.lt_succ_self _)
  rw [after, Source.read, unfailing]
  rfl

theorem after (sound : source.Sound) (size : Int) : (source.after size).Sound := by
  have unfailing : source.nextEvent.failure = none := sound.sound _ (Nat.lt_succ_self _)
  rw [Source.after, Source.read, unfailing]
  exact ⟨fun number later => sound.quiet number (Nat.lt_of_succ_lt later),
    fun number later => sound.sound number (Nat.lt_of_succ_lt later)⟩

end Sound

end Source

/-- A stream that gives what it is asked for until it has given so many bytes, and does nothing
else meanwhile. -/
structure Source.Gives (source : Source) (size : Int) : Prop where
  quiet : forall number, source.reads < number -> (source.events number).closesStore = false
  sound : forall number, source.reads < number -> (source.events number).failure = none
  full : forall number, source.reads < number -> forall most,
    (source.events number).most = some most -> size <= most
  enough : size <= source.rest.length

namespace Source.Gives

variable {source : Source} {size asked : Int}

theorem ofBody {body : Body} (enough : size <= body.length) : (Source.ofBody body).Gives size := by
  cases body with
  | bytes content => exact ⟨fun _ _ => rfl, fun _ _ => rfl, fun _ _ _ => (nomatch ·), enough⟩
  | virtual length offset =>
    exact ⟨fun _ _ => rfl, fun _ _ => rfl, fun _ _ _ => (nomatch ·), enough⟩

theorem toSound (gives : source.Gives size) : source.Sound :=
  ⟨gives.quiet, gives.sound⟩

theorem read (gives : source.Gives size) (nonneg : 0 <= asked) (within : asked <= size) :
    exists body next, source.read asked = (.ok body, next) ∧ (body.length : Int) = asked ∧
      next.Gives (size - asked) := by
  have enough := gives.enough
  -- The read neither runs into the end of the stream nor is it cut short.
  have granted : source.granted asked = asked.toNat := by
    have plenty : asked.toNat <= source.rest.length := by omega
    rw [Source.granted, if_neg (by omega), Nat.min_eq_left plenty]
    split
    next most isMost =>
      have large := gives.full _ (Nat.lt_succ_self _) most isMost
      exact Nat.min_eq_left (by omega)
    next => rfl
  have sound : source.nextEvent.failure = none := gives.sound _ (Nat.lt_succ_self _)
  refine ⟨source.rest.take asked.toNat,
    { source with
      reads := source.reads + 1
      rest := source.rest.drop asked.toNat
      position := source.position + asked.toNat }, ?_, ?_, ?_⟩
  · rw [Source.read, sound, granted]
  · rw [Body.length_take]
    omega
  · refine ⟨fun number later => gives.quiet number (Nat.lt_of_succ_lt later),
      fun number later => gives.sound number (Nat.lt_of_succ_lt later),
      fun number later most isMost => ?_, ?_⟩
    · have large := gives.full number (Nat.lt_of_succ_lt later) most isMost
      omega
    · simp only [Body.length_drop]
      omega

theorem taken (gives : source.Gives size) (nonneg : 0 <= size) :
    ((source.taken size).length : Int) = size := by
  obtain ⟨body, next, read, whole, _⟩ := gives.read nonneg (Int.le_refl size)
  rw [gives.toSound.read, Prod.mk.injEq, Except.ok.injEq] at read
  rw [read.1]
  exact whole

theorem pieces
    {sizes : List Int}
    (gives : source.Gives sizes.sum)
    (nonneg : forall size, size ∈ sizes -> 0 <= size) :
    (source.pieces sizes).map (fun body => (body.length : Int)) = sizes := by
  induction sizes generalizing source with
  | nil => rfl
  | cons size sizes ih =>
    have others : forall other, other ∈ sizes -> 0 <= other :=
      fun other listed => nonneg other (.tail _ listed)
    have within : size <= (size :: sizes).sum := by
      have rest := List.sum_nonneg others
      rw [List.sum_cons]
      omega
    obtain ⟨body, next, read, whole, given⟩ :=
      gives.read (nonneg size List.mem_cons_self) within
    rw [gives.toSound.read, Prod.mk.injEq, Except.ok.injEq] at read
    obtain ⟨rfl, rfl⟩ := read
    rw [List.sum_cons, add_sub_cancel_left] at given
    rw [Source.pieces, List.map_cons, whole, ih given others]

end Source.Gives

end BlobDepot
