import BlobDepot.Client
import Mathlib.Data.List.Forall2

set_option autoImplicit false

namespace BlobDepot

theorem mapM_of_forall₂
    {α β : Type}
    {read : α -> Except ShapeError β}
    {values : List α}
    {results : List β}
    (reads : List.Forall₂ (fun value result => read value = .ok result) values results) :
    values.mapM read = .ok results := by
  induction reads with
  | nil => rfl
  | cons first _ ih =>
    rw [List.mapM_cons, first, ih]
    rfl

namespace Text

theorem digitValue?_of_basic {c : Char} (basic : isBasicDigit c = true) :
    digitValue? c = some (c.toNat - 48) := by
  simp only [isBasicDigit, Bool.and_eq_true, decide_eq_true_eq] at basic
  rw [digitValue?, if_pos (by omega), if_pos (by simp [basic])]

theorem isBasicDigit_of_isDigit {c : Char} (digit : c.isDigit = true) : isBasicDigit c = true := by
  simp only [Char.isDigit, Bool.and_eq_true, decide_eq_true_eq] at digit
  obtain ⟨low, high⟩ := digit
  simp only [isBasicDigit, Bool.and_eq_true, decide_eq_true_eq]
  have low : 48 <= c.toNat := low
  have high : c.toNat <= 57 := high
  omega

theorem ofDigits_basic
    {chars : List Char}
    (basic : forall c, c ∈ chars -> isBasicDigit c = true) :
    ofDigits (chars.filterMap digitValue?) = Nat.ofDigitChars 10 chars 0 := by
  suffices reads : forall number, (chars.filterMap digitValue?).foldl
      (fun number value => 10 * number + value) number = Nat.ofDigitChars 10 chars number from
    reads 0
  -- The number so far grows with each digit, so the fold is taken from any number.
  induction chars with
  | nil => exact fun _ => rfl
  | cons c rest ih =>
    intro number
    have value := digitValue?_of_basic (basic c List.mem_cons_self)
    rw [List.filterMap_cons_some value, List.foldl_cons, Nat.ofDigitChars_cons]
    exact ih (fun other listed => basic other (List.mem_cons_of_mem _ listed)) _

end Text

namespace Service

theorem tokenIndex?_toString (index : Nat) :
    tokenIndex? (some (.text (toString index))) = some index := by
  have basic : forall c, c ∈ Nat.toDigits 10 index -> Text.isBasicDigit c = true := fun c listed =>
    Text.isBasicDigit_of_isDigit (Nat.isDigit_of_mem_toDigits (by decide) (by decide) listed)
  have all : (Nat.toDigits 10 index).all Text.isBasicDigit = true := List.all_eq_true.mpr basic
  -- A text without digits would be no token.
  have filled : (Nat.toDigits 10 index).isEmpty = false := by
    simp [Nat.toDigits_ne_nil]
  simp only [tokenIndex?, Nat.toString_eq_repr, Nat.toList_repr, all, filled, Bool.not_false,
    Bool.and_self, if_true]
  rw [Text.ofDigits_basic basic, Nat.ofDigitChars_ten_toDigits]

end Service

def Table.sizeOf (objects : Table Body) (key : String) : Int :=
  ((objects.get? key).map Body.length).getD 0

def Table.keysWith (objects : Table Body) (start : String) : List String :=
  objects.names.filter (fun key => start.toList.isPrefixOf key.toList)

theorem keysFrom_perm (objects : Table Body) (start : String) :
    (Service.keysFrom objects start).Perm (objects.keysWith start) :=
  List.mergeSort_perm _ _

theorem length_keysFrom_le (objects : Table Body) (start : String) :
    (Service.keysFrom objects start).length <= objects.entries.length := by
  rw [(keysFrom_perm objects start).length_eq, Table.keysWith]
  exact Nat.le_trans (List.length_filter_le _ _) (Nat.le_of_eq (List.length_map _))

namespace Table

variable {objects : Table Body}

theorem append_mem_keysWith {path start name : String} :
    path ++ name ∈ objects.keysWith (path ++ start) ↔
      (objects.get? (path ++ name)).isSome = true ∧ start.toList <+: name.toList := by
  rw [keysWith, List.mem_filter, mem_names, List.isPrefixOf_iff_prefix, String.toList_append,
    String.toList_append, List.prefix_append_right_inj]

theorem named_of_mem_keysWith
    {path start key : String}
    (listed : key ∈ objects.keysWith (path ++ start)) :
    exists name, key = path ++ name := by
  obtain ⟨rest, isKey⟩ := List.isPrefixOf_iff_prefix.mp (List.mem_filter.mp listed).2
  refine ⟨start ++ String.ofList rest, String.toList_inj.mp ?_⟩
  simp [<- isKey, String.toList_append]

end Table

end BlobDepot
