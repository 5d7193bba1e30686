import BlobDepot.Container
import Mathlib.Data.List.Basic

set_option autoImplicit false

namespace BlobDepot

namespace Text

theorem pieces_ne_nil (mark : Char) (chars : List Char) : pieces mark chars ≠ [] := by
  induction chars with
  | nil => simp [pieces]
  | cons c rest ih =>
    by_cases marked : c = mark
    next => simp [pieces, marked]
    next =>
      cases split : pieces mark rest with
      | nil => exact absurd split ih
      | cons first others => simp [pieces, marked, split]

theorem unmarked_of_mem_pieces
    {mark : Char}
    {chars piece : List Char}
    (listed : piece ∈ pieces mark chars) :
    mark ∉ piece := by
  induction chars generalizing piece with
  | nil => simp_all [pieces]
  | cons c rest ih =>
    by_cases marked : c = mark
    next =>
      rw [pieces, if_pos marked] at listed
      rcases List.mem_cons.mp listed with rfl | later
      next => exact List.not_mem_nil
      next => exact ih later
    next =>
      cases split : pieces mark rest with
      | nil => exact absurd split (pieces_ne_nil mark rest)
      | cons first others =>
        rw [pieces, if_neg marked, split] at listed
        rw [split] at ih
        rcases List.mem_cons.mp listed with rfl | later
        next =>
          rw [List.mem_cons, not_or]
          exact ⟨Ne.symm marked, ih List.mem_cons_self⟩
        next => exact ih (List.mem_cons_of_mem first later)

theorem cut_unique
    {mark : Char}
    {left right leftRest rightRest : List Char}
    (unmarkedLeft : mark ∉ left)
    (unmarkedRight : mark ∉ right)
    (same : left ++ mark :: leftRest = right ++ mark :: rightRest) :
    left = right ∧ leftRest = rightRest := by
  induction left generalizing right with
  | nil =>
    cases right with
    | nil => simpa using same
    | cons d later =>
      simp only [List.nil_append, List.cons_append, List.cons.injEq] at same
      exact absurd (same.1 ▸ List.mem_cons_self) unmarkedRight
  | cons c others ih =>
    cases right with
    | nil =>
      simp only [List.nil_append, List.cons_append, List.cons.injEq] at same
      exact absurd (same.1 ▸ List.mem_cons_self) unmarkedLeft
    | cons d later =>
      simp only [List.mem_cons, not_or] at unmarkedLeft unmarkedRight
      simp only [List.cons_append, List.cons.injEq] at same
      obtain ⟨rest, later⟩ := ih unmarkedLeft.2 unmarkedRight.2 same.2
      exact ⟨by rw [same.1, rest], later⟩

end Text

namespace BlobPath

/-- A path that was read from a text, and what adding segments and going up make of it. -/
inductive Reached : BlobPath -> Prop
  | read (text : String) : Reached (ofText text)
  | added {path next : BlobPath} {segment : String} (reached : Reached path)
      (adds : path.add segment = .ok next) : Reached next
  | parent {path : BlobPath} (reached : Reached path) : Reached path.parent

theorem Reached.segments
    {path : BlobPath}
    (reached : Reached path) :
    forall segment, segment ∈ path.segments -> isSegment segment = true := by
  induction reached with
  | read text =>
    intro segment listed
    obtain ⟨piece, isPiece, rfl⟩ := List.mem_map.mp listed
    obtain ⟨isPiece, filled⟩ := List.mem_filter.mp isPiece
    have unmarked := Text.unmarked_of_mem_pieces isPiece
    have some : piece ≠ [] := by simpa using filled
    simp [isSegment, unmarked, some]
  | @added path next segment _ adds ih =>
    by_cases valid : isSegment segment = true
    next =>
      rw [add, if_pos valid] at adds
      cases adds
      intro other listed
      rcases List.mem_append.mp listed with earlier | last
      next => exact ih other earlier
      next => rwa [List.mem_singleton.mp last]
    next =>
      rw [add, if_neg valid] at adds
      cases adds
  | parent _ ih => exact fun segment listed => ih segment (List.dropLast_subset _ listed)

theorem unmarked_of_isSegment
    {segment : String}
    (valid : isSegment segment = true) :
    '/' ∉ segment.toList := by
  have parts : segment ≠ "" ∧ '/' ∉ segment.toList := by simpa [isSegment] using valid
  exact parts.2

theorem toText_cons (segment : String) (rest : List String) :
    toText ⟨segment :: rest⟩ = segment ++ "/" ++ toText ⟨rest⟩ := by
  simp [toText]

theorem toText_append (segments rest : List String) :
    toText ⟨segments ++ rest⟩ = toText ⟨segments⟩ ++ toText ⟨rest⟩ := by
  induction segments with
  | nil => simp [toText]
  | cons segment others ih =>
    simp only [List.cons_append, toText_cons, ih, String.append_assoc]

theorem nested_of_append_eq
    {left right : List String}
    (leftValid : forall segment, segment ∈ left -> isSegment segment = true)
    (rightValid : forall segment, segment ∈ right -> isSegment segment = true)
    {name other : String}
    (same : toText ⟨left⟩ ++ name = toText ⟨right⟩ ++ other) :
    left <+: right ∨ right <+: left := by
  induction left generalizing right with
  | nil => simp
  | cons segment later ih =>
    cases right with
    | nil => simp
    | cons first others =>
      simp only [List.forall_mem_cons] at leftValid rightValid
      have chars := congrArg String.toList same
      simp only [toText_cons, String.toList_append, List.append_assoc] at chars
      obtain ⟨equal, rest⟩ :=
        Text.cut_unique (unmarked_of_isSegment leftValid.1)
          (unmarked_of_isSegment rightValid.1) chars
      rw [← String.toList_append, ← String.toList_append] at rest
      rw [String.toList_inj.mp equal]
      simpa using ih leftValid.2 rightValid.2 (String.toList_inj.mp rest)

end BlobPath

end BlobDepot
