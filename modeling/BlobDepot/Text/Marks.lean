set_option autoImplicit false

namespace BlobDepot.Text

def isMarkParameter (c : Char) : Bool :=
  c == ';' || c == '?' || c.isDigit

def afterMark? : List Char -> Option (List Char)
  | '\x1b' :: '[' :: rest =>
      match rest.dropWhile isMarkParameter with
      | letter :: rest => if letter.isAlpha then some rest else none
      | [] => none
  | _ => none

theorem length_afterMark? {chars rest : List Char}
    (found : afterMark? chars = some rest) :
    rest.length < chars.length := by
  unfold afterMark? at found
  split at found
  · rename_i tail
    have shorter := (List.dropWhile_suffix isMarkParameter (l := tail)).length_le
    split at found
    · rename_i letter others dropped
      rw [dropped] at shorter
      split at found
      · cases found
        simp only [List.length_cons] at shorter ⊢
        omega
      · cases found
    · cases found
  · cases found

def withoutMarks (chars : List Char) : List Char :=
  match _ : afterMark? chars with
  | some rest => withoutMarks rest
  | none =>
      match chars with
      | [] => []
      | c :: rest => c :: withoutMarks rest
termination_by chars.length
decreasing_by
  · exact length_afterMark? (by assumption)
  · simp

def dropMarks (text : String) : String :=
  String.ofList (withoutMarks text.toList)

end BlobDepot.Text
