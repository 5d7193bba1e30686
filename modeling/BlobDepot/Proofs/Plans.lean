import BlobDepot.Failure
import BlobDepot.Proofs.Parts
import Mathlib.Data.Int.ConditionallyCompleteOrder
import Mathlib.Data.Nat.SuccPred
import Mathlib.Order.CompletePartialOrder
import Mathlib.Order.Interval.Set.Union
import Mathlib.Order.SuccPred.IntervalSucc

set_option autoImplicit false

namespace BlobDepot

namespace PartPlan

variable {plan : PartPlan} {size partSize : Int}

/-- A plan cuts a size as it should be cut.  Only an empty size has an empty part. -/
structure Splits (plan : PartPlan) (size partSize : Int) : Prop where
  parts : 1 <= plan.partCount
  total : (plan.partCount - 1) * partSize + plan.lastPartSize = size
  last : (1 <= plan.lastPartSize ∧ plan.lastPartSize <= partSize) ∨
    (plan.partCount = 1 ∧ plan.lastPartSize = 0 ∧ size = 0)

def start (plan : PartPlan) (partSize : Int) (before : Nat) : Int :=
  (plan.sizes partSize 1 before).sum

def slice (plan : PartPlan) (partSize : Int) (before : Nat) : Set Int :=
  Set.Ico (plan.start partSize before)
    (plan.start partSize before + plan.partSizeFor (before + 1) partSize)

/-- All that a plan for a size says. -/
structure Decomposes (plan : PartPlan) (size partSize : Int) : Prop where
  unique : forall other : PartPlan, other.Splits size partSize ↔ other = plan
  single : plan.partCount = 1 ↔ size <= partSize
  total : plan.totalSize partSize = size
  full : forall number, number < plan.partCount -> plan.partSizeFor number partSize = partSize
  sum : (plan.sizes partSize 1 plan.partCount.toNat).sum = size
  consecutive : plan.start partSize 0 = 0 ∧ forall before,
    plan.start partSize (before + 1) =
      plan.start partSize before + plan.partSizeFor (before + 1) partSize
  disjoint : forall first second, first ≠ second ->
    Disjoint (plan.slice partSize first) (plan.slice partSize second)
  covering : ⋃ before ∈ Finset.range plan.partCount.toNat, plan.slice partSize before =
    Set.Ico 0 size

theorem splits_iff_fits (nonneg : 0 <= size) (positive : 0 < partSize) :
    plan.Splits size partSize ↔ plan.Fits size partSize := by
  constructor
  · rintro ⟨parts, total, ⟨some, largest⟩ | ⟨single, empty, none⟩⟩
    · exact ⟨parts, by omega, largest, total, .inr (by omega)⟩
    · exact ⟨parts, by omega, by omega, total, .inl single⟩
  · rintro ⟨parts, last, largest, total, single | needed⟩
    · refine ⟨parts, total, ?_⟩
      have whole : plan.lastPartSize = size := by simpa [totalSize, single] using total
      omega
    · have some : 1 <= plan.lastPartSize := by
        rw [totalSize] at total
        omega
      exact ⟨parts, total, .inl ⟨some, largest⟩⟩

theorem Splits.eq
    {other : PartPlan}
    (splits : plan.Splits size partSize)
    (otherSplits : other.Splits size partSize)
    (nonneg : 0 <= size)
    (positive : 0 < partSize) :
    other = plan := by
  have fits := (splits_iff_fits nonneg positive).mp splits
  have otherFits := (splits_iff_fits nonneg positive).mp otherSplits
  have counts : other.partCount = plan.partCount := by
    rcases Int.lt_or_eq_of_le nonneg with some | none
    next => rw [fits.count positive some, otherFits.count positive some]
    next =>
      -- Nothing is needed for an empty size, so both plans have one part.
      have single {plan : PartPlan} (fits : plan.Fits size partSize) : plan.partCount = 1 := by
        have parts := fits.parts
        rcases fits.needed with single | needed
        next => exact single
        next =>
          have others : 0 <= (plan.partCount - 1) * partSize :=
            Int.mul_nonneg (by omega) (Int.le_of_lt positive)
          omega
      rw [single fits, single otherFits]
  have lasts : other.lastPartSize = plan.lastPartSize := by
    have total := splits.total
    have otherTotal := otherSplits.total
    rw [counts] at otherTotal
    omega
  cases plan
  cases other
  simp_all

theorem Fits.partCount_eq_one_iff (fits : plan.Fits size partSize) (positive : 0 < partSize) :
    plan.partCount = 1 ↔ size <= partSize := by
  have parts := fits.parts
  have few := fits.partCount_le positive Nat.one_pos
  simp only [Int.natCast_one, Int.one_mul] at few
  omega

theorem sizes_succ (plan : PartPlan) (partSize number : Int) (count : Nat) :
    plan.sizes partSize number (count + 1) =
      plan.sizes partSize number count ++ [plan.partSizeFor (number + count) partSize] := by
  induction count generalizing number with
  | zero => simp [sizes]
  | succ count ih =>
    have next : number + 1 + (count : Int) = number + ((count + 1 : Nat) : Int) := by omega
    rw [sizes, ih, sizes, List.cons_append, next]

theorem start_succ (plan : PartPlan) (partSize : Int) (before : Nat) :
    plan.start partSize (before + 1) =
      plan.start partSize before + plan.partSizeFor (before + 1) partSize := by
  rw [start, sizes_succ, List.sum_append, List.sum_singleton, Int.add_comm 1, start]

theorem slice_eq (plan : PartPlan) (partSize : Int) (before : Nat) :
    plan.slice partSize before =
      Set.Ico (plan.start partSize before) (plan.start partSize (before + 1)) := by
  rw [slice, start_succ]

namespace Fits

theorem partSizeFor_nonneg
    (fits : plan.Fits size partSize)
    (positive : 0 < partSize)
    (number : Int) :
    0 <= plan.partSizeFor number partSize := by
  rw [partSizeFor]
  split
  next => exact Int.le_of_lt positive
  next => exact fits.last

theorem monotone_start (fits : plan.Fits size partSize) (positive : 0 < partSize) :
    Monotone (plan.start partSize) := by
  refine monotone_nat_of_le_succ (fun before => ?_)
  have nonneg := fits.partSizeFor_nonneg positive (before + 1)
  rw [start_succ]
  omega

theorem start_partCount (fits : plan.Fits size partSize) :
    plan.start partSize plan.partCount.toNat = size := by
  have parts := fits.parts
  have total := fits.total
  obtain ⟨others, isCount⟩ : exists others : Nat, plan.partCount.toNat = others + 1 :=
    ⟨plan.partCount.toNat - 1, by omega⟩
  have count : (others : Int) = plan.partCount - 1 := by omega
  rw [totalSize, <- count] at total
  rw [start, isCount, sizes_rest others (by omega)]
  simpa using total

theorem disjoint_slices
    (fits : plan.Fits size partSize)
    (positive : 0 < partSize)
    {first second : Nat}
    (different : first ≠ second) :
    Disjoint (plan.slice partSize first) (plan.slice partSize second) := by
  rw [slice_eq, slice_eq]
  exact (fits.monotone_start positive).pairwise_disjoint_on_Ico_succ different

theorem iUnion_slices (fits : plan.Fits size partSize) (positive : 0 < partSize) :
    ⋃ before ∈ Finset.range plan.partCount.toNat, plan.slice partSize before = Set.Ico 0 size := by
  have monotone := fits.monotone_start positive
  simp only [slice_eq]
  apply Set.Subset.antisymm
  next =>
    refine Set.iUnion₂_subset (fun before listed => ?_)
    rw [<- fits.start_partCount]
    exact Set.Ico_subset_Ico (monotone (Nat.zero_le before))
      (monotone (Nat.succ_le_of_lt (Finset.mem_range.mp listed)))
  next =>
    have covered := Ico_subset_biUnion_Ico plan.partCount.toNat (plan.start partSize)
    rwa [fits.start_partCount] at covered

end Fits

theorem ofSizes_of_nonpos (size : Int) (nonpos : partSize <= 0) :
    ofSizes size partSize = .error .partSize :=
  if_pos nonpos

/-- There is one way to cut a size into parts of a positive size, and that is how it is cut. -/
theorem ofSizes_decomposes (size partSize : Int) :
    (0 <= size -> 0 < partSize ->
      exists plan, ofSizes size partSize = .ok plan ∧ plan.Decomposes size partSize) ∧
    (partSize <= 0 ->
      ofSizes size partSize = .error .partSize ∧ (Problem.argument .partSize).kind = .value) := by
  refine ⟨fun nonneg positive => ?_, fun nonpos => ⟨ofSizes_of_nonpos size nonpos, rfl⟩⟩
  obtain ⟨plan, planned, fits⟩ := exists_fits positive nonneg
  have splits := (splits_iff_fits nonneg positive).mpr fits
  refine ⟨plan, planned, ?_⟩
  exact {
    unique := fun other =>
      ⟨fun otherSplits => splits.eq otherSplits nonneg positive, fun same => same ▸ splits⟩
    single := fits.partCount_eq_one_iff positive
    total := fits.total
    full := fun number earlier => if_pos earlier
    sum := fits.start_partCount
    consecutive := ⟨rfl, plan.start_succ partSize⟩
    disjoint := fun _ _ => fits.disjoint_slices positive
    covering := fits.iUnion_slices positive }

theorem ofSizes_decomposes_even :
    (0 <= (10 : Int) ∧ 0 < (5 : Int) ∧
      exists plan, ofSizes 10 5 = .ok plan ∧ plan.Decomposes 10 5) ∧
    ((-1 : Int) <= 0 ∧
      ofSizes 10 (-1) = .error .partSize ∧ (Problem.argument .partSize).kind = .value) :=
  ⟨⟨by decide, by decide, (ofSizes_decomposes 10 5).1 (by decide) (by decide)⟩,
    by decide, (ofSizes_decomposes 10 (-1)).2 (by decide)⟩

end PartPlan

end BlobDepot
