import BlobDepot.Failure
import Mathlib.Algebra.Order.Floor.Div

set_option autoImplicit false

namespace BlobDepot

namespace DeleteBatch

section

variable {α : Type} {size : Nat} {piece items : List α} {pieces : List (List α)}

/-- All pieces but the last one are full, and the last one is not empty. -/
structure Filled (size : Nat) (pieces : List (List α)) : Prop where
  full : forall piece, piece ∈ pieces.dropLast -> piece.length = size
  last : forall piece, pieces.getLast? = some piece -> 1 <= piece.length ∧ piece.length <= size

theorem filled_nil : Filled (α := α) size [] := by
  constructor <;> simp

theorem filled_singleton : Filled size [piece] ↔ 1 <= piece.length ∧ piece.length <= size := by
  constructor
  · intro filled
    exact filled.last piece rfl
  · intro bounds
    constructor <;> simp [bounds]

theorem filled_cons {next : List α} :
    Filled size (piece :: next :: pieces) ↔
      piece.length = size ∧ Filled size (next :: pieces) := by
  constructor
  · intro filled
    refine ⟨filled.full piece (by simp), fun other listed => filled.full other ?_, ?_⟩
    · rw [List.dropLast_cons_cons]
      exact List.mem_cons_of_mem _ listed
    · simpa using filled.last
  · rintro ⟨length, filled⟩
    refine ⟨fun other listed => ?_, by simpa using filled.last⟩
    rw [List.dropLast_cons_cons, List.mem_cons] at listed
    rcases listed with rfl | later
    next => exact length
    next => exact filled.full other later

theorem Filled.take (filled : Filled size pieces) (positive : 0 < size) (count : Nat) :
    Filled size (pieces.take count) := by
  induction pieces generalizing count with
  | nil => simpa using filled
  | cons piece rest ih =>
    -- The last piece that is taken is a full one, unless all of them are taken.
    match count, rest with
    | 0, _ => exact filled_nil
    | _ + 1, [] => simpa using filled
    | 1, next :: later =>
      have length := (filled_cons.mp filled).1
      exact filled_singleton.mpr ⟨by omega, by omega⟩
    | count + 2, next :: later =>
      obtain ⟨length, restFilled⟩ := filled_cons.mp filled
      exact filled_cons.mpr ⟨length, ih restFilled (count + 1)⟩

theorem Filled.bounds
    (filled : Filled size pieces)
    (positive : 0 < size)
    (listed : piece ∈ pieces) :
    1 <= piece.length ∧ piece.length <= size := by
  rcases List.eq_nil_or_concat pieces with rfl | ⟨earlier, last, rfl⟩
  next => cases listed
  next =>
    simp only [List.concat_eq_append, List.mem_append, List.mem_singleton] at listed
    rcases listed with before | rfl
    next =>
      have length := filled.full piece (by simpa using before)
      omega
    next => exact filled.last piece (by simp)

theorem flatten_chunks (size : Nat) (items : List α) : (chunks size items).flatten = items := by
  induction items using chunks.induct size with
  | case1 => rw [chunks, List.flatten_nil]
  | case2 item rest ih =>
    rw [chunks, List.flatten_cons, ih, List.cons_append, List.take_append_drop]

theorem chunks_append (full : piece.length = size + 1) (items : List α) :
    chunks size (piece ++ items) = piece :: chunks size items := by
  cases piece with
  | nil => cases full
  | cons item rest =>
    have length : rest.length = size := by simpa using full
    rw [List.cons_append, chunks, List.take_left' length, List.drop_left' length]

theorem chunks_of_length_le (some : 1 <= items.length) (few : items.length <= size + 1) :
    chunks size items = [items] := by
  cases items with
  | nil => simp at some
  | cons item rest =>
    have fits : rest.length <= size := by simpa using few
    rw [chunks, List.take_of_length_le fits, List.drop_of_length_le fits, chunks]

theorem filled_chunks (size : Nat) (items : List α) : Filled (size + 1) (chunks size items) := by
  induction items using chunks.induct size with
  | case1 =>
    rw [chunks]
    exact filled_nil
  | case2 item rest ih =>
    rw [chunks]
    -- The first piece need not be full just if nothing is left for a second one.
    cases left : rest.drop size with
    | nil =>
      rw [chunks, filled_singleton]
      simp
    | cons next later =>
      have length : rest.length - size = later.length + 1 := by
        simpa using congrArg List.length left
      rw [left, chunks] at ih
      rw [chunks, filled_cons]
      refine ⟨?_, ih⟩
      rw [List.length_cons, List.length_take]
      omega

theorem Filled.chunks_flatten (filled : Filled (size + 1) pieces) :
    chunks size pieces.flatten = pieces := by
  induction pieces with
  | nil => rw [List.flatten_nil, chunks]
  | cons piece rest ih =>
    cases rest with
    | nil =>
      obtain ⟨some, few⟩ := filled_singleton.mp filled
      simpa using chunks_of_length_le some few
    | cons next later =>
      obtain ⟨length, restFilled⟩ := filled_cons.mp filled
      rw [List.flatten_cons, chunks_append length, ih restFilled]

theorem getElem?_chunks (size : Nat) (items : List α) (number : Nat) :
    (chunks size items)[number]? =
      if number * (size + 1) < items.length then
        some ((items.drop (number * (size + 1))).take (size + 1))
      else none := by
  induction items using chunks.induct size generalizing number with
  | case1 => simp [chunks]
  | case2 item rest ih =>
    rw [chunks]
    cases number with
    | zero => simp
    | succ number =>
      have start : (number + 1) * (size + 1) = size + number * (size + 1) + 1 := by
        rw [Nat.succ_mul]
        omega
      have within : number * (size + 1) < rest.length - size ↔
          size + number * (size + 1) + 1 < rest.length + 1 := by omega
      simp only [List.getElem?_cons_succ, ih, List.length_drop, List.drop_drop, start,
        List.length_cons, List.drop_succ_cons, within]

theorem length_chunks (size : Nat) (items : List α) :
    (chunks size items).length = items.length ⌈/⌉ (size + 1) := by
  -- Both are the first number at which no piece begins.
  refine eq_of_forall_ge_iff (fun number => ?_)
  rw [<- List.getElem?_eq_none_iff, getElem?_chunks, ceilDiv_le_iff_le_mul (Nat.succ_pos size),
    Nat.mul_comm]
  simp

end

variable {keys : List String} {size : Nat} {batches : List DeleteBatch}

structure Greedy (keys : List String) (size : Nat) (batches : List DeleteBatch) : Prop where
  keys : batches.flatMap DeleteBatch.keys = keys
  filled : Filled size (batches.map DeleteBatch.keys)
  numbers : forall (number : Nat) (batch : DeleteBatch),
    batches[number]? = some batch -> batch.index = number

theorem getElem?_ofChunks (pieces : List (List String)) (number : Nat) :
    (ofChunks pieces)[number]? = pieces[number]?.map (fun piece => ⟨number, piece⟩) := by
  simp [ofChunks, Function.comp_def]

theorem map_keys_ofChunks (pieces : List (List String)) :
    (ofChunks pieces).map DeleteBatch.keys = pieces := by
  rw [ofChunks, List.map_map]
  exact List.zipIdx_map_fst 0 pieces

theorem greedy_ofChunks (keys : List String) (size : Nat) :
    Greedy keys (size + 1) (ofChunks (chunks size keys)) := by
  constructor
  case keys => rw [List.flatMap_def, map_keys_ofChunks, flatten_chunks]
  case filled =>
    rw [map_keys_ofChunks]
    exact filled_chunks size keys
  case numbers =>
    intro number batch listed
    rw [getElem?_ofChunks, Option.map_eq_some_iff] at listed
    obtain ⟨piece, _, rfl⟩ := listed
    rfl

namespace Greedy

theorem eq_ofChunks (greedy : Greedy keys (size + 1) batches) :
    batches = ofChunks (chunks size keys) := by
  have pieces : chunks size keys = batches.map DeleteBatch.keys := by
    rw [<- greedy.keys, List.flatMap_def, greedy.filled.chunks_flatten]
  refine List.ext_getElem? (fun number => ?_)
  rw [pieces, getElem?_ofChunks, List.getElem?_map]
  cases listed : batches[number]? with
  | none => rfl
  | some batch =>
    have index := greedy.numbers number batch listed
    rw [Option.map_some, Option.map_some, <- index]

theorem take (greedy : Greedy keys size batches) (positive : 0 < size) (count : Nat) :
    Greedy ((batches.take count).flatMap DeleteBatch.keys) size (batches.take count) := by
  constructor
  case keys => rfl
  case filled =>
    rw [List.map_take]
    exact greedy.filled.take positive count
  case numbers =>
    intro number batch listed
    rw [List.getElem?_take] at listed
    split at listed
    next => exact greedy.numbers number batch listed
    next => cases listed

theorem eq
    {other : List DeleteBatch}
    (greedy : Greedy keys size batches)
    (otherGreedy : Greedy keys size other)
    (positive : 0 < size) :
    other = batches := by
  obtain ⟨size, rfl⟩ := Nat.exists_eq_add_one.mpr positive
  rw [greedy.eq_ofChunks, otherGreedy.eq_ofChunks]

theorem count (greedy : Greedy keys size batches) (positive : 0 < size) :
    batches.length = keys.length ⌈/⌉ size := by
  obtain ⟨size, rfl⟩ := Nat.exists_eq_add_one.mpr positive
  rw [greedy.eq_ofChunks, ofChunks, List.length_map, List.length_zipIdx, length_chunks]

theorem slices (greedy : Greedy keys size batches) (positive : 0 < size) (number : Nat) :
    batches[number]? =
      if number * size < keys.length then
        some ⟨number, (keys.drop (number * size)).take size⟩
      else none := by
  obtain ⟨size, rfl⟩ := Nat.exists_eq_add_one.mpr positive
  rw [greedy.eq_ofChunks, getElem?_ofChunks, getElem?_chunks]
  split <;> rfl

end Greedy

theorem partition_eq_ok_iff {batchSize : Int} :
    partition keys batchSize = .ok batches ↔
      0 < batchSize ∧ Greedy keys batchSize.toNat batches := by
  rw [partition]
  split
  next nonpos =>
    have unfit : ¬ 0 < batchSize := by omega
    simp [unfit]
  next positive =>
    obtain ⟨size, isSize⟩ : exists size, batchSize.toNat = size + 1 :=
      ⟨batchSize.toNat - 1, by omega⟩
    rw [isSize, Nat.add_sub_cancel, Except.ok.injEq]
    constructor
    · rintro rfl
      exact ⟨by omega, greedy_ofChunks keys size⟩
    · rintro ⟨_, greedy⟩
      exact greedy.eq_ofChunks.symm

/-- All that is said of the batches into which keys are cut.  The batches that lead are what their
own keys are cut into. -/
structure Partitioned (keys : List String) (size : Nat) (batches : List DeleteBatch) : Prop where
  unique : forall other, Greedy keys size other ↔ other = batches
  count : batches.length = keys.length ⌈/⌉ size
  empty : batches = [] ↔ keys = []
  slices : forall number : Nat, batches[number]? =
    if number * size < keys.length then some ⟨number, (keys.drop (number * size)).take size⟩
    else none
  leading : forall count : Nat,
    partition ((batches.take count).flatMap DeleteBatch.keys) size = .ok (batches.take count)

theorem Greedy.partitioned (greedy : Greedy keys size batches) (positive : 0 < size) :
    Partitioned keys size batches := by
  have count := greedy.count positive
  constructor
  case unique =>
    intro other
    constructor
    · intro otherGreedy
      exact greedy.eq otherGreedy positive
    · rintro rfl
      exact greedy
  case count => exact count
  case empty =>
    constructor
    · rintro rfl
      exact greedy.keys.symm
    · rintro rfl
      simpa using count
  case slices => exact greedy.slices positive
  case leading =>
    intro count
    exact partition_eq_ok_iff.mpr ⟨by omega, greedy.take positive count⟩

/-- There is one way to cut keys into batches of a positive size that are all full but the last
one, and that is how they are cut, also when only the first of the batches are cut again. -/
theorem partition_greedy (keys : List String) (batchSize : Int) :
    (0 < batchSize ->
      exists batches, partition keys batchSize = .ok batches ∧
        Partitioned keys batchSize.toNat batches) ∧
    (batchSize <= 0 ->
      partition keys batchSize = .error .batchSize ∧
        (Problem.argument .batchSize).kind = .value) := by
  refine ⟨fun positive => ?_, fun nonpos => ⟨if_pos nonpos, rfl⟩⟩
  obtain ⟨batches, parted⟩ : exists batches, partition keys batchSize = .ok batches :=
    ⟨_, if_neg (by omega)⟩
  have greedy := (partition_eq_ok_iff.mp parted).2
  exact ⟨batches, parted, greedy.partitioned (by omega)⟩

theorem partition_greedy_even :
    (0 < (2 : Int) ∧ exists batches, partition ["a", "b", "c", "d"] 2 = .ok batches ∧
      Partitioned ["a", "b", "c", "d"] 2 batches) ∧
    ((0 : Int) <= 0 ∧
      partition [] 0 = .error .batchSize ∧ (Problem.argument .batchSize).kind = .value) :=
  ⟨⟨by decide, (partition_greedy ["a", "b", "c", "d"] 2).1 (by decide)⟩,
    by decide, (partition_greedy [] 0).2 (by decide)⟩

example :
    partition ["0", "1", "2", "3", "4"] 2 =
      .ok [⟨0, ["0", "1"]⟩, ⟨1, ["2", "3"]⟩, ⟨2, ["4"]⟩] := by
  cbv

end DeleteBatch

end BlobDepot
