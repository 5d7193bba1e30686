import BlobDepot.Proofs.Sizes
import BlobDepot.Text.Encoding

set_option autoImplicit false

namespace BlobDepot.Text

theorem isStandIn_iff {c : Char} :
    isStandIn c = true <-> 0xfd800 <= c.toNat ∧ c.toNat < 0xfe000 := by
  have valid : c.toNat < 0xd800 ∨ 0xdfff < c.toNat ∧ c.toNat < 0x110000 := c.valid
  have isHalf_iff (code : Nat) : isHalf code = true <-> 0xd800 <= code ∧ code < 0xe000 := by
    rw [isHalf, Bool.and_eq_true, decide_eq_true_eq, decide_eq_true_eq]
  rw [isStandIn, codePoint, standInOffset]
  split
  next half =>
    rw [isHalf_iff] at half ⊢
    omega
  next whole =>
    rw [isHalf_iff] at whole ⊢
    omega

def isWhole (chars : List Char) : Bool :=
  chars.all (fun c => !isStandIn c)

theorem isWhole_iff {chars : List Char} :
    isWhole chars = true <-> forall c, c ∈ chars -> isStandIn c = false := by
  simp [isWhole]

@[simp]
theorem isWhole_append (chars others : List Char) :
    isWhole (chars ++ others) = (isWhole chars && isWhole others) :=
  List.all_append

theorem firstHalves?_eq_none {text : String} :
    firstHalves? text = none <-> isWhole text.toList = true := by
  rw [firstHalves?, isWhole_iff]
  simp only [ite_eq_left_iff, reduceCtorEq, imp_false, Decidable.not_not, List.isEmpty_iff,
    List.dropWhile_eq_nil_iff, Bool.not_eq_true']

theorem isWhole_basic {chars : List Char} (basic : forall c, c ∈ chars -> c.toNat < 128) :
    isWhole chars = true := by
  rw [isWhole_iff]
  intro c listed
  rw [Bool.eq_false_iff, ne_eq, isStandIn_iff]
  have := basic c listed
  omega

theorem isWhole_toString (number : Nat) : isWhole (toString number).toList = true := by
  apply isWhole_basic
  intro c listed
  have digit := Size.isBasicDigit_toString c listed
  simp only [isBasicDigit, Bool.and_eq_true, decide_eq_true_eq] at digit
  omega

theorem isPrintable_of_isStandIn {c : Char} (half : isStandIn c = true) :
    isPrintable c = false := by
  obtain ⟨above, _⟩ := isStandIn_iff.mp half
  have changes : forall change, change ∈ printableChanges -> change <= 0xfd800 := by
    decide +kernel
  -- Half characters lie beyond the last change, so only the number of all changes counts.
  have all : printableChanges.takeWhile (fun change => change <= c.toNat) = printableChanges := by
    refine List.takeWhile_eq_self_iff.mpr (fun change listed => decide_eq_true ?_)
    exact Nat.le_trans (changes change listed) above
  have even : (printableChanges.length % 2 == 1) = false := by decide +kernel
  rw [isPrintable, if_neg (by omega), all, even]

theorem basic_hexDigits (width number : Nat) :
    forall c, c ∈ hexDigits width number -> c.toNat < 128 := by
  have digits : forall value, value < 16 -> (hexDigit value).toNat < 128 := by decide
  induction width generalizing number with
  | zero => exact fun c listed => nomatch listed
  | succ width ih =>
    intro c listed
    rw [hexDigits, List.mem_append, List.mem_singleton] at listed
    rcases listed with earlier | rfl
    · exact ih _ c earlier
    · exact digits _ (Nat.mod_lt _ (by decide))

theorem isWhole_escapeCode (code : Nat) : isWhole (escapeCode code) = true := by
  -- An escape is the same but for its mark and its width.
  have marked (mark : Char) (width : Nat) (basic : mark.toNat < 128) :
      isWhole (backslash :: mark :: hexDigits width code) = true := by
    apply isWhole_basic
    simp only [List.mem_cons]
    rintro c (rfl | rfl | listed)
    · decide
    · exact basic
    · exact basic_hexDigits width code c listed
  rw [escapeCode]
  split
  next => exact marked 'x' 2 (by decide)
  next =>
    split
    next => exact marked 'u' 4 (by decide)
    next => exact marked 'U' 8 (by decide)

theorem isWhole_quoteChar {enclosing : Char} (whole : isStandIn enclosing = false) (c : Char) :
    isWhole (quoteChar enclosing c) = true := by
  have escaped (other : Char) (whole : isStandIn other = false) :
      isWhole [backslash, other] = true := by
    have bar : isStandIn backslash = false := by decide
    simp [isWhole, bar, whole]
  rw [quoteChar]
  split
  next special =>
    refine escaped c ?_
    simp only [Bool.or_eq_true, beq_iff_eq] at special
    rcases special with rfl | rfl
    · exact whole
    · decide
  next =>
    repeat' split
    · exact escaped 'n' (by decide)
    · exact escaped 'r' (by decide)
    · exact escaped 't' (by decide)
    next printable =>
      have kept : isStandIn c = false := by
        by_contra half
        rw [isPrintable_of_isStandIn (Bool.not_eq_false _ ▸ half)] at printable
        cases printable
      simp [isWhole, kept]
    next => exact isWhole_escapeCode _

theorem isWhole_quote (text : String) : isWhole (quote text).toList = true := by
  have whole : isStandIn (enclosingQuote text.toList) = false := by
    rw [enclosingQuote]
    split <;> decide
  rw [quote, String.toList_ofList]
  have chars : isWhole (text.toList.flatMap (quoteChar (enclosingQuote text.toList))) = true := by
    rw [isWhole, List.all_flatMap, List.all_eq_true]
    exact fun c _ => isWhole_quoteChar whole c
  simp only [isWhole, List.cons_append, List.all_cons, List.all_append, List.all_nil, whole,
    Bool.and_true, Bool.not_false, Bool.true_and]
  exact chars

theorem mem_dropWhile {drop : Char -> Bool} {chars : List Char} {c : Char} (listed : c ∈ chars)
    (kept : drop c = false) :
    c ∈ chars.dropWhile drop := by
  have split : c ∈ chars.takeWhile drop ++ chars.dropWhile drop := by
    rwa [List.takeWhile_append_dropWhile]
  rcases List.mem_append.mp split with dropped | left
  · rw [List.mem_takeWhile_imp dropped] at kept
    cases kept
  · exact left

theorem mem_strip
    {text : String}
    {c : Char}
    (listed : c ∈ text.toList)
    (half : isStandIn c = true) :
    c ∈ (strip text).toList := by
  obtain ⟨above, _⟩ := isStandIn_iff.mp half
  have filled : isBlank c = false := by
    rw [Bool.eq_false_iff]
    intro blank
    simp only [isBlank, Bool.or_eq_true, Bool.and_eq_true, decide_eq_true_eq,
      beq_iff_eq] at blank
    omega
  rw [strip, trim, String.toList_ofList, trimChars, List.mem_reverse]
  exact mem_dropWhile (List.mem_reverse.mpr (mem_dropWhile listed filled)) filled

theorem smallLetter_of_isStandIn {c : Char} (half : isStandIn c = true) : smallLetter c = c := by
  obtain ⟨above, _⟩ := isStandIn_iff.mp half
  have runs : forall run, run ∈ capitalRuns -> run.2.1 < 0xfd800 := by decide +kernel
  rw [smallLetter]
  split
  next run found =>
    have inside := List.find?_some found
    simp only [Bool.and_eq_true, decide_eq_true_eq] at inside
    have below := runs run (List.mem_of_find?_eq_some found)
    omega
  next => rfl

theorem mem_lower
    {text : String}
    {c : Char}
    (listed : c ∈ text.toList)
    (half : isStandIn c = true) :
    c ∈ (lower text).toList := by
  obtain ⟨above, _⟩ := isStandIn_iff.mp half
  have small : lowerChars c = [c] := by
    simp only [lowerChars, smallLetter_of_isStandIn half, beq_iff_eq, Bool.and_eq_true,
      decide_eq_true_eq]
    rw [if_neg (by omega), if_neg (by omega), if_neg (by omega)]
  have other : c ≠ 'Σ' := by
    rintro rfl
    exact absurd above (by decide)
  -- What came before decides only of the letter sigma.
  have kept : forall afterCased chars, c ∈ chars -> c ∈ lowerFrom afterCased chars := by
    intro afterCased chars listed
    induction chars generalizing afterCased with
    | nil => cases listed
    | cons d rest ih =>
      rw [lowerFrom]
      rcases List.mem_cons.mp listed with rfl | later
      · simp [small, other]
      · exact List.mem_append_right _ (ih _ later)
  rw [lower, String.toList_ofList]
  exact kept false _ listed

theorem mem_upper
    {text : String}
    {c : Char}
    (listed : c ∈ text.toList)
    (half : isStandIn c = true) :
    c ∈ (upper text).toList := by
  obtain ⟨above, _⟩ := isStandIn_iff.mp half
  have capital : upperChars c = [c] := by
    simp only [upperChars, beq_iff_eq, Bool.or_eq_true, Bool.and_eq_true, decide_eq_true_eq]
    iterate 11 rw [if_neg (by omega)]
  rw [upper, String.toList_ofList, List.mem_flatMap]
  exact ⟨c, listed, by simp [capital]⟩

theorem isWhole_of_mem
    {text other : String}
    (kept : forall c, c ∈ text.toList -> isStandIn c = true -> c ∈ other.toList)
    (whole : isWhole other.toList = true) :
    isWhole text.toList = true := by
  rw [isWhole_iff] at whole ⊢
  intro c listed
  by_contra half
  have half := Bool.not_eq_false _ ▸ half
  rw [whole c (kept c listed half)] at half
  cases half

end BlobDepot.Text
