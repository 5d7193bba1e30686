import BlobDepot.Failure
import BlobDepot.Proofs.Paths

set_option autoImplicit false

namespace BlobDepot

namespace Text

def squeeze (mark : Char) : List Char -> List Char
  | [] => []
  | [c] => [c]
  | c :: d :: rest =>
      if c = mark ∧ d = mark then squeeze mark (d :: rest) else c :: squeeze mark (d :: rest)

def finish (mark : Char) (chars : List Char) : List Char :=
  if chars = [] ∨ chars.getLast? = some mark then chars else chars ++ [mark]

def finishPiece (mark : Char) (chars : List Char) : List Char :=
  if chars = [] then [mark] else finish mark chars

def marked (mark : Char) (pieces : List (List Char)) : List Char :=
  (pieces.filter (fun piece => !piece.isEmpty)).flatMap (fun piece => piece ++ [mark])

section

variable {mark c : Char} {left rest piece : List Char} {others : List (List Char)}

theorem pieces_append (mark : Char) (left right : List Char) :
    pieces mark (left ++ mark :: right) = pieces mark left ++ pieces mark right := by
  induction left with
  | nil => simp [pieces]
  | cons c rest ih =>
    rw [List.cons_append, pieces, pieces]
    by_cases isMark : c = mark
    next => rw [if_pos isMark, if_pos isMark, ih, List.cons_append]
    next =>
      rw [if_neg isMark, if_neg isMark, ih]
      cases split : pieces mark rest with
      | nil => exact absurd split (pieces_ne_nil mark rest)
      | cons first others => rfl

theorem pieces_of_unmarked (unmarked : mark ∉ left) : pieces mark left = [left] := by
  induction left with
  | nil => rfl
  | cons c rest ih =>
    simp only [List.mem_cons, not_or] at unmarked
    rw [pieces, if_neg (Ne.symm unmarked.1), ih unmarked.2]

theorem marked_cons (filled : piece ≠ []) :
    marked mark (piece :: others) = piece ++ mark :: marked mark others := by
  simp [marked, filled]

theorem squeeze_mark (mark : Char) (chars : List Char) :
    squeeze mark (mark :: chars) = mark :: squeeze mark (chars.dropWhile (· == mark)) := by
  induction chars with
  | nil => rfl
  | cons c rest ih =>
    by_cases isMark : c = mark
    next =>
      subst isMark
      rw [squeeze, if_pos ⟨rfl, rfl⟩, ih]
      simp
    next => simp [squeeze, isMark]

theorem squeeze_cons (unmarked : c ≠ mark) :
    squeeze mark (c :: rest) = c :: squeeze mark rest := by
  cases rest with
  | nil => rfl
  | cons d later => rw [squeeze, if_neg (fun marked => unmarked marked.1)]

theorem finish_mark (mark : Char) (chars : List Char) :
    finish mark (mark :: chars) = mark :: finish mark chars := by
  cases chars with
  | nil => simp [finish]
  | cons c rest =>
    by_cases last : (c :: rest).getLast? = some mark <;>
      simp [finish, List.getLast?_cons_cons, last]

theorem finish_cons (unmarked : c ≠ mark) :
    finish mark (c :: rest) = c :: finishPiece mark rest := by
  cases rest with
  | nil => simp [finish, finishPiece, unmarked]
  | cons d later =>
    by_cases last : (d :: later).getLast? = some mark <;>
      simp [finish, finishPiece, List.getLast?_cons_cons, last]

theorem marked_pieces (mark : Char) (chars : List Char) :
    marked mark (pieces mark chars) =
        finish mark (squeeze mark (chars.dropWhile (· == mark))) ∧
      forall first others, pieces mark chars = first :: others ->
        first ++ mark :: marked mark others = finishPiece mark (squeeze mark chars) := by
  induction chars with
  | nil => simp [pieces, marked, finish, finishPiece, squeeze]
  | cons c rest ih =>
    obtain ⟨whole, inside⟩ := ih
    by_cases isMark : c = mark
    next =>
      subst isMark
      have split : pieces c (c :: rest) = [] :: pieces c rest := by rw [pieces, if_pos rfl]
      have skipped : marked c ([] :: pieces c rest) = marked c (pieces c rest) := by simp [marked]
      refine ⟨by simpa [split, skipped] using whole, fun first others same => ?_⟩
      rw [split, List.cons.injEq] at same
      obtain ⟨rfl, rfl⟩ := same
      rw [squeeze_mark, finishPiece, if_neg (List.cons_ne_nil _ _), finish_mark, whole,
        List.nil_append]
    next =>
      cases restSplit : pieces mark rest with
      | nil => exact absurd restSplit (pieces_ne_nil mark rest)
      | cons first others =>
        have split : pieces mark (c :: rest) = (c :: first) :: others := by
          rw [pieces, if_neg isMark, restSplit]
        have begun : c :: first ++ mark :: marked mark others =
            finish mark (squeeze mark (c :: rest)) := by
          rw [squeeze_cons isMark, finish_cons isMark, <- inside first others restSplit,
            List.cons_append]
        have kept : (c :: rest).dropWhile (· == mark) = c :: rest := by simp [isMark]
        refine ⟨?_, fun firstPiece later same => ?_⟩
        · rw [split, marked_cons (List.cons_ne_nil _ _), kept, begun]
        · rw [split, List.cons.injEq] at same
          obtain ⟨rfl, rfl⟩ := same
          rw [begun, finishPiece, squeeze_cons isMark, if_neg (List.cons_ne_nil _ _)]

end

/-- A text without slashes in front, with one slash for every run of slashes and a slash behind
it, unless it is empty then. -/
def tidied (text : String) : String :=
  String.ofList (finish '/' (squeeze '/' (text.toList.dropWhile (· == '/'))))

end Text

namespace BlobPath

variable {path other : BlobPath}

theorem toList_toText (pieces : List (List Char)) :
    (toText ⟨pieces.map String.ofList⟩).toList = pieces.flatMap (fun piece => piece ++ ['/']) := by
  induction pieces with
  | nil => simp [toText]
  | cons piece rest ih => simp [toText_cons, ih]

theorem toText_ofText (text : String) : (ofText text).toText = Text.tidied text := by
  apply String.toList_inj.mp
  have tidy := (Text.marked_pieces '/' text.toList).1
  rw [ofText, toList_toText, Text.tidied, String.toList_ofList, <- tidy, Text.marked]

theorem ofText_append (text more : String) :
    (ofText (text ++ "/" ++ more)).segments = (ofText text).segments ++ (ofText more).segments := by
  have chars : (text ++ "/" ++ more).toList = text.toList ++ '/' :: more.toList := by simp
  rw [ofText, chars, Text.pieces_append, List.filter_append, List.map_append, ofText, ofText]

theorem ofText_segment {segment : String} (valid : isSegment segment = true) :
    (ofText segment).segments = [segment] := by
  have filled : segment.toList ≠ [] := by
    have parts : segment ≠ "" ∧ '/' ∉ segment.toList := by simpa [isSegment] using valid
    simpa using parts.1
  simp [ofText, Text.pieces_of_unmarked (unmarked_of_isSegment valid), filled]

theorem ofText_toText
    {segments : List String}
    (valid : forall segment, segment ∈ segments -> isSegment segment = true) :
    ofText (toText ⟨segments⟩) = ⟨segments⟩ := by
  induction segments with
  | nil => rfl
  | cons segment rest ih =>
    rw [List.forall_mem_cons] at valid
    have first := ofText_segment valid.1
    have later := congrArg BlobPath.segments (ih valid.2)
    have all : (ofText (segment ++ "/" ++ toText ⟨rest⟩)).segments = segment :: rest := by
      rw [ofText_append, first, later, List.singleton_append]
    rw [toText_cons, <- all]

theorem Reached.ofText_toText (reached : Reached path) : ofText path.toText = path :=
  BlobPath.ofText_toText reached.segments

theorem isSegment_iff {segment : String} :
    isSegment segment = true ↔ Not (segment = "" ∨ '/' ∈ segment.toList) := by
  simp [isSegment]

theorem parent_of_add
    {segment : String}
    (added : path.add segment = .ok other) :
    other.parent = path := by
  rw [add] at added
  split at added
  next =>
    cases added
    simp [parent]
  next => cases added

theorem add_eq_error_iff {segment : String} {error : ArgumentError} :
    path.add segment = .error error ↔
      (segment = "" ∨ '/' ∈ segment.toList) ∧ error = .segment segment := by
  rw [add]
  split
  next valid => simp [isSegment_iff.mp valid]
  next invalid =>
    rw [isSegment_iff, not_not] at invalid
    simp [invalid, eq_comm]

/-- A path that can be told from its text: its segments are proper ones, it is read from its text
again, and no other path has that text. -/
structure Legible (path : BlobPath) : Prop where
  proper : forall segment, segment ∈ path.segments -> segment ≠ "" ∧ '/' ∉ segment.toList
  again : ofText path.toText = path
  alone : forall other, Reached other -> other.toText = path.toText -> other = path

theorem Reached.legible (reached : Reached path) : Legible path where
  proper segment listed := not_or.mp (isSegment_iff.mp (reached.segments segment listed))
  again := reached.ofText_toText
  alone other otherReached same := by
    rw [<- otherReached.ofText_toText, same, reached.ofText_toText]

/-- Paths and their texts are inverse.  A text that was tidied is read as before, a text with a
slash in the middle is read as its two sides are, and a segment that was added can be dropped
again.  A path is a value, so that refusing a segment leaves nothing but the complaint. -/
theorem texts_inverse :
    (forall path, Reached path -> Legible path) ∧
    (forall text,
      (ofText text).toText = Text.tidied text ∧ ofText (ofText text).toText = ofText text) ∧
    (forall text more, (ofText (text ++ "/" ++ more)).segments =
      (ofText text).segments ++ (ofText more).segments) ∧
    (forall (path next : BlobPath) (segment : String),
      path.add segment = .ok next -> next.parent = path) ∧
    (forall (path : BlobPath) (segment : String) (error : ArgumentError),
      path.add segment = .error error ↔
        (segment = "" ∨ '/' ∈ segment.toList) ∧ error = .segment segment) ∧
    (forall segment, (Problem.argument (.segment segment)).kind = .value) :=
  ⟨fun _ reached => reached.legible,
    fun text => ⟨toText_ofText text, (Reached.read text).ofText_toText⟩,
    ofText_append,
    fun _ _ _ => parent_of_add,
    fun _ _ _ => add_eq_error_iff,
    fun _ => rfl⟩

theorem texts_inverse_untidy :
    let path := ofText "/a//b"
    let next : BlobPath := ⟨["a", "b", "c"]⟩
    Reached path ∧ Legible path ∧ path.add "c" = .ok next ∧ next.parent = path := by
  intro path next
  have reached : Reached path := .read "/a//b"
  have added : path.add "c" = .ok next := by cbv
  exact ⟨reached, texts_inverse.1 path reached, added,
    texts_inverse.2.2.2.1 path next "c" added⟩

end BlobPath

end BlobDepot
