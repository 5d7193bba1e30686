import BlobDepot.Session
import Mathlib.Algebra.BigOperators.Group.List.Basic
import Mathlib.Algebra.Ring.Int.Defs

set_option autoImplicit false

namespace BlobDepot

namespace ActiveSession

def push (session : ActiveSession) (uploaded : UploadedPart) : ActiveSession :=
  { session with
    parts := session.parts ++ [uploaded.part]
    bytesSent := session.bytesSent + uploaded.size }

def offer (session : ActiveSession) (uploaded : UploadedPart) : ActiveSession :=
  match session.addPart uploaded with
  | .ok extended => extended
  | .error _ => session

def taken : ActiveSession -> List UploadedPart -> List UploadedPart
  | _, [] => []
  | session, uploaded :: rest =>
      match session.addPart uploaded with
      | .ok extended => uploaded :: extended.taken rest
      | .error _ => session.taken rest

def history : ActiveSession -> List UploadedPart -> List ActiveSession
  | session, [] => [session]
  | session, uploaded :: rest => session :: (session.offer uploaded).history rest

def numbersFrom (first count : Nat) : List Int :=
  (List.range' first count).map (fun number : Nat => (number : Int))

/-- A session has the parts that it took since it was fresh, numbered from one without gaps. -/
structure GapFree (fresh session : ActiveSession) (taken : List UploadedPart) : Prop where
  parts : session.parts = taken.map UploadedPart.part
  numbered : session.parts.map CompletedPart.number = numbersFrom 1 session.parts.length
  sent : session.bytesSent = (taken.map UploadedPart.size).sum
  bucket : session.bucket = fresh.bucket
  key : session.key = fresh.key
  uploadId : session.uploadId = fresh.uploadId

variable {session extended : ActiveSession} {uploaded : UploadedPart}

theorem numbersFrom_succ (first count : Nat) :
    numbersFrom first (count + 1) = (first : Int) :: numbersFrom (first + 1) count := by
  rw [numbersFrom, List.range'_succ, List.map_cons, numbersFrom]

theorem nextNumber_push (session : ActiveSession) (uploaded : UploadedPart) :
    (session.push uploaded).nextNumber = session.nextNumber + 1 := by
  simp [push, nextNumber]

theorem addPart_eq_ok_iff :
    session.addPart uploaded = .ok extended ↔
      uploaded.part.number = session.nextNumber ∧ extended = session.push uploaded := by
  rw [addPart]
  split
  next inOrder => simp [inOrder, push, eq_comm]
  next outOfOrder => simp [outOfOrder]

theorem addPart_eq_error_iff {error : ArgumentError} :
    session.addPart uploaded = .error error ↔
      uploaded.part.number ≠ session.nextNumber ∧
        error = .partOrder uploaded.part.number session.nextNumber := by
  rw [addPart]
  split
  next inOrder => simp [inOrder]
  next outOfOrder => simp [outOfOrder, eq_comm]

theorem addPart_next (next : uploaded.part.number = session.nextNumber) :
    session.addPart uploaded = .ok (session.push uploaded) :=
  addPart_eq_ok_iff.mpr ⟨next, rfl⟩

theorem addPart_other (other : uploaded.part.number ≠ session.nextNumber) :
    session.addPart uploaded =
      .error (.partOrder uploaded.part.number session.nextNumber) :=
  addPart_eq_error_iff.mpr ⟨other, rfl⟩

theorem offer_next (next : uploaded.part.number = session.nextNumber) :
    session.offer uploaded = session.push uploaded := by
  rw [offer, addPart_next next]

theorem offer_other (other : uploaded.part.number ≠ session.nextNumber) :
    session.offer uploaded = session := by
  rw [offer, addPart_other other]

theorem taken_next (rest : List UploadedPart) (next : uploaded.part.number = session.nextNumber) :
    session.taken (uploaded :: rest) = uploaded :: (session.push uploaded).taken rest := by
  rw [taken, addPart_next next]

theorem taken_other (rest : List UploadedPart) (other : uploaded.part.number ≠ session.nextNumber) :
    session.taken (uploaded :: rest) = session.taken rest := by
  rw [taken, addPart_other other]

theorem foldl_offer (session : ActiveSession) (offered : List UploadedPart) :
    offered.foldl offer session = (session.taken offered).foldl push session := by
  induction offered generalizing session with
  | nil => rfl
  | cons uploaded rest ih =>
    by_cases next : uploaded.part.number = session.nextNumber
    next => rw [List.foldl_cons, offer_next next, taken_next rest next, List.foldl_cons, ih]
    next => rw [List.foldl_cons, offer_other next, taken_other rest next, ih]

theorem foldl_push (session : ActiveSession) (parts : List UploadedPart) :
    parts.foldl push session =
      { session with
        parts := session.parts ++ parts.map UploadedPart.part
        bytesSent := session.bytesSent + (parts.map UploadedPart.size).sum } := by
  induction parts generalizing session with
  | nil => simp
  | cons uploaded rest ih =>
    rw [List.foldl_cons, ih]
    simp [push, Int.add_assoc]

theorem number_taken (session : ActiveSession) (offered : List UploadedPart) :
    (session.taken offered).map (fun uploaded => uploaded.part.number) =
      numbersFrom (session.parts.length + 1) (session.taken offered).length := by
  induction offered generalizing session with
  | nil => rfl
  | cons uploaded rest ih =>
    by_cases next : uploaded.part.number = session.nextNumber
    next =>
      have later := ih (session.push uploaded)
      have length : (session.push uploaded).parts.length = session.parts.length + 1 := by
        simp [push]
      rw [length] at later
      rw [taken_next rest next, List.map_cons, later, next, nextNumber, List.length_cons,
        numbersFrom_succ, Int.natCast_succ]
    next => rw [taken_other rest next, ih]

theorem taken_append (session : ActiveSession) (offered more : List UploadedPart) :
    session.taken (offered ++ more) =
      session.taken offered ++ (offered.foldl offer session).taken more := by
  induction offered generalizing session with
  | nil => rfl
  | cons uploaded rest ih =>
    rw [List.cons_append, List.foldl_cons]
    by_cases next : uploaded.part.number = session.nextNumber
    next =>
      rw [offer_next next, taken_next _ next, taken_next _ next, ih, List.cons_append]
    next => rw [offer_other next, taken_other _ next, taken_other _ next, ih]

theorem taken_eq_self_iff (session : ActiveSession) (offered : List UploadedPart) :
    session.taken offered = offered ↔
      offered.map (fun uploaded => uploaded.part.number) =
        numbersFrom (session.parts.length + 1) offered.length := by
  constructor
  · intro all
    have numbered := number_taken session offered
    rwa [all] at numbered
  · intro numbered
    induction offered generalizing session with
    | nil => rfl
    | cons uploaded rest ih =>
      rw [List.map_cons, List.length_cons, numbersFrom_succ, List.cons.injEq] at numbered
      have later := ih (session.push uploaded) (by simpa [push] using numbered.2)
      rw [taken_next rest numbered.1, later]

theorem history_append (session : ActiveSession) (offered later : List UploadedPart) :
    session.history offered <+: session.history (offered ++ later) := by
  induction offered generalizing session with
  | nil => cases later <;> simp [history]
  | cons uploaded rest ih => exact List.cons_prefix_cons.mpr ⟨rfl, ih _⟩

theorem gapFree_offered
    {fresh : ActiveSession}
    (none : fresh.parts = [])
    (unsent : fresh.bytesSent = 0)
    (offered : List UploadedPart) :
    GapFree fresh (offered.foldl offer fresh) (fresh.taken offered) := by
  have numbered := number_taken fresh offered
  rw [none] at numbered
  rw [foldl_offer, foldl_push, none, unsent]
  constructor
  case numbered => simpa [Function.comp_def] using numbered
  all_goals simp

/-- Whatever is offered to a fresh session, its parts have no gaps.  It takes a part just if that
bears the next number and stays as it is otherwise, nothing that it was before changes, and it
takes everything just if the numbers are those from one on. -/
theorem offered_gapFree (bucket key uploadId : String) (offered : List UploadedPart) :
    let fresh : ActiveSession := { bucket := bucket, key := key, uploadId := uploadId }
    let session := offered.foldl offer fresh
    GapFree fresh session (fresh.taken offered) ∧
    (forall (next : UploadedPart) (extended : ActiveSession),
      session.addPart next = .ok extended ↔
        next.part.number = session.parts.length + 1 ∧ extended = session.push next) ∧
    (forall (next : UploadedPart) (error : ArgumentError),
      session.addPart next = .error error ↔
        next.part.number ≠ session.parts.length + 1 ∧
          error = .partOrder next.part.number (session.parts.length + 1)) ∧
    (forall next : UploadedPart,
      (offered ++ [next]).foldl offer fresh =
          (if next.part.number = session.parts.length + 1 then session.push next else session) ∧
        fresh.taken (offered ++ [next]) = fresh.taken offered ++
          if next.part.number = session.parts.length + 1 then [next] else []) ∧
    (forall later, fresh.history offered <+: fresh.history (offered ++ later)) ∧
    (fresh.taken offered = offered ↔
      offered.map (fun uploaded => uploaded.part.number) = numbersFrom 1 offered.length) := by
  intro fresh session
  refine ⟨gapFree_offered rfl rfl offered, fun _ _ => addPart_eq_ok_iff,
    fun _ _ => addPart_eq_error_iff, fun next => ?_, history_append fresh offered,
    taken_eq_self_iff fresh offered⟩
  rw [List.foldl_append, taken_append]
  split
  next inOrder =>
    refine ⟨offer_next inOrder, ?_⟩
    rw [taken_next [] inOrder, taken]
  next other =>
    refine ⟨offer_other other, ?_⟩
    rw [taken_other [] other, taken]

example :
    let part (number size : Int) : UploadedPart := ⟨⟨number, .text "tag"⟩, size⟩
    let fresh : ActiveSession := { bucket := "b", key := "k", uploadId := "u" }
    (fresh.taken [part 2 5, part 1 4, part 1 3, part 2 2]).map UploadedPart.size = [4, 2] := by
  decide

end ActiveSession

end BlobDepot
