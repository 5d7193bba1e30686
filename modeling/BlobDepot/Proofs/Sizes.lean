import BlobDepot.Limits
import BlobDepot.Proofs.Pages
import BlobDepot.Size
import Mathlib.Data.List.TakeWhile
import Mathlib.Data.Nat.Digits.Defs

set_option autoImplicit false

namespace BlobDepot

namespace Text

theorem isDigit_of_isBlank {c : Char} (blank : isBlank c = true) : isDigit c = false := by
  -- All digits lie in gaps between the blanks.
  have apart : forall start, start ∈ zeros -> start = 0x30 ∨ 0xa0 < start ∧ start + 10 <= 0x1680 ∨
      0x1680 < start ∧ start + 10 <= 0x2000 ∨ 0x3000 < start := by decide
  have notDigit : digitValue? c = none := by
    simp only [isBlank, Bool.or_eq_true, Bool.and_eq_true, decide_eq_true_eq, beq_iff_eq] at blank
    rw [digitValue?]
    split
    next basic =>
      rw [if_neg]
      simp only [Bool.and_eq_true, decide_eq_true_eq]
      omega
    next other =>
      rw [Option.map_eq_none_iff, List.find?_eq_none]
      intro start listed
      have places := apart start listed
      simp only [Bool.and_eq_true, decide_eq_true_eq]
      omega
  rw [isDigit, notDigit]
  rfl

theorem isBlank_of_isDigit {c : Char} (digit : isDigit c = true) : isBlank c = false := by
  by_contra blank
  rw [isDigit_of_isBlank (Bool.not_eq_false _ ▸ blank)] at digit
  cases digit

theorem toNat_of_ofNat {code : Nat} {c : Char} (isChar : Char.ofNat code = c) (some : c ≠ '\x00') :
    code = c.toNat := by
  subst isChar
  by_cases valid : code.isValidChar
  next => rw [Char.ofNat, dif_pos valid]; rfl
  next => exact absurd (by rw [Char.ofNat, dif_neg valid]; rfl) some

theorem eq_of_smallLetter
    {c letter : Char}
    (small : smallLetter c = letter)
    (some : letter ≠ '\x00')
    (basic : letter.toNat < 128)
    (beyond : 128 <= c.toNat) :
    c.toNat = 0x212a ∧ letter.toNat = 107 := by
  have images : forall run, run ∈ capitalRuns -> run.2.1 < 128 ∨ run = (0x212a, 0x212a, 1, -8383) ∨
      (128 : Int) <= run.1 + run.2.2.2 := by decide +kernel
  rw [smallLetter] at small
  split at small
  next run found =>
    have inside := List.find?_some found
    simp only [Bool.and_eq_true, decide_eq_true_eq] at inside
    have image := toNat_of_ofNat small some
    obtain capitals | rfl | beyondBasic := images run (List.mem_of_find?_eq_some found)
    · omega
    · simp only at image inside
      omega
    · omega
  next =>
    subst small
    omega

theorem eq_of_lowerChars
    {c letter : Char}
    (small : lowerChars c = [letter])
    (isLetter : 97 <= letter.toNat ∧ letter.toNat <= 122) :
    c = letter ∨ c = Char.ofNat (letter.toNat - 32) ∨ c = '\u212a' ∧ letter = 'k' := by
  have some : letter ≠ '\x00' := by
    rintro rfl
    exact absurd isLetter.1 (by decide)
  have same {c : Char} {code : Nat} (isCode : c.toNat = code) : c = Char.ofNat code := by
    rw [<- isCode, Char.ofNat_toNat]
  simp only [lowerChars] at small
  split at small
  next =>
    have capital := toNat_of_ofNat (List.cons.inj small).1 some
    exact .inr (.inl (same (by omega)))
  next =>
    split at small
    next => exact .inl (List.cons.inj small).1
    next =>
      split at small
      next => cases small
      next =>
        obtain ⟨isKelvin, isK⟩ :=
          eq_of_smallLetter (List.cons.inj small).1 some (by omega) (by omega)
        exact .inr (.inr ⟨same isKelvin, same isK⟩)

end Text

namespace Size

inductive Scale where
  | bytes
  | kilobytes
  | megabytes
  | gigabytes
  | terabytes
  deriving Repr, DecidableEq

namespace Scale

def factor : Scale -> Nat
  | .bytes => 1
  | .kilobytes => Limits.kilobyte
  | .megabytes => Limits.megabyte
  | .gigabytes => Limits.gigabyte
  | .terabytes => Limits.terabyte

def signs : Scale -> List (List Char)
  | .bytes => [[]]
  | .kilobytes => [['k'], ['K'], ['\u212a']]
  | .megabytes => [['m'], ['M']]
  | .gigabytes => [['g'], ['G']]
  | .terabytes => [['t'], ['T']]

end Scale

def byteMarks : List (List Char) :=
  [[], ['b'], ['B']]

/-- Digits of any scripts and a unit, with blanks around both. -/
structure Spelling where
  before : List Char
  digits : List Char
  gap : List Char
  scale : Scale
  sign : List Char
  mark : List Char
  after : List Char
  blankBefore : forall c, c ∈ before -> Text.isBlank c = true
  someDigits : digits ≠ []
  areDigits : forall c, c ∈ digits -> Text.isDigit c = true
  blankGap : forall c, c ∈ gap -> Text.isBlank c = true
  isSign : sign ∈ scale.signs
  isMark : mark ∈ byteMarks
  blankAfter : forall c, c ∈ after -> Text.isBlank c = true

namespace Spelling

def letters (spelling : Spelling) : List Char :=
  spelling.sign ++ spelling.mark

def tail (spelling : Spelling) : List Char :=
  spelling.gap ++ (spelling.letters ++ spelling.after)

def chars (spelling : Spelling) : List Char :=
  spelling.before ++ (spelling.digits ++ spelling.tail)

def number (spelling : Spelling) : Nat :=
  Nat.ofDigits 10 (spelling.digits.filterMap Text.digitValue?).reverse

def size (spelling : Spelling) : Nat :=
  spelling.number * spelling.scale.factor

end Spelling

theorem unitFactor?_of_sign {scale : Scale} {c : Char} (isSign : [c] ∈ scale.signs) :
    unitFactor? c = some scale.factor := by
  cases scale <;> simp only [Scale.signs, List.mem_cons, List.not_mem_nil, or_false,
    List.cons.injEq, and_true] at isSign
  · cases isSign
  all_goals
    rcases isSign with rfl | rfl | rfl <;> rfl

theorem eq_nil_or_of_isSign {scale : Scale} {sign : List Char} (isSign : sign ∈ scale.signs) :
    sign = [] ∧ scale = .bytes ∨ exists c, sign = [c] := by
  cases scale <;>
    simp only [Scale.signs, List.mem_cons, List.not_mem_nil, or_false] at isSign <;> grind

namespace Spelling

variable (spelling : Spelling)

def isPlain (letters : List Char) : Bool :=
  letters.all (fun c => !Text.isBlank c && !Text.isDigit c)

theorem not_blank_letters :
    forall c, c ∈ spelling.letters -> Text.isBlank c = false ∧ Text.isDigit c = false := by
  have signs : forall scale : Scale, scale.signs.all isPlain = true := by
    intro scale
    cases scale <;> decide +kernel
  have marks : byteMarks.all isPlain = true := by decide +kernel
  have letters : isPlain spelling.letters = true := by
    simp only [isPlain, Spelling.letters, List.all_append, Bool.and_eq_true]
    exact ⟨List.all_eq_true.mp (signs spelling.scale) _ spelling.isSign,
      List.all_eq_true.mp marks _ spelling.isMark⟩
  intro c listed
  simpa using List.all_eq_true.mp letters c listed

theorem not_digit_tail : forall c, c ∈ spelling.tail -> Text.isDigit c = false := by
  intro c listed
  rw [tail, List.mem_append, List.mem_append] at listed
  rcases listed with blank | letter | blank
  · exact Text.isDigit_of_isBlank (spelling.blankGap c blank)
  · exact (spelling.not_blank_letters c letter).2
  · exact Text.isDigit_of_isBlank (spelling.blankAfter c blank)

theorem dropWhile_chars :
    spelling.chars.dropWhile Text.isBlank = spelling.digits ++ spelling.tail := by
  obtain ⟨digit, rest, isDigits⟩ := List.exists_cons_of_ne_nil spelling.someDigits
  have first := Text.isBlank_of_isDigit (spelling.areDigits digit (by simp [isDigits]))
  rw [chars, List.dropWhile_append_of_pos spelling.blankBefore, isDigits, List.cons_append,
    List.dropWhile_cons_of_neg (by simp [first])]

theorem takeWhile_digits :
    (spelling.digits ++ spelling.tail).takeWhile Text.isDigit = spelling.digits := by
  have stops : spelling.tail.takeWhile Text.isDigit = [] := by
    cases isTail : spelling.tail with
    | nil => rfl
    | cons c rest =>
      have first := spelling.not_digit_tail c (by simp [isTail])
      simp [first]
  rw [List.takeWhile_append_of_pos spelling.areDigits, stops, List.append_nil]

theorem dropWhile_digits :
    (spelling.digits ++ spelling.tail).dropWhile Text.isDigit = spelling.tail := by
  have whole := List.takeWhile_append_dropWhile (p := Text.isDigit)
    (l := spelling.digits ++ spelling.tail)
  rw [takeWhile_digits] at whole
  exact List.append_cancel_left whole

theorem blank_dropByteMark :
    (dropByteMark (spelling.mark ++ spelling.after)).all Text.isBlank = true := by
  have ends : spelling.after.all Text.isBlank = true := List.all_eq_true.mpr spelling.blankAfter
  have isMark := spelling.isMark
  simp only [byteMarks, List.mem_cons, List.not_mem_nil, or_false] at isMark
  rcases isMark with unmarked | small | capital
  · rw [unmarked, List.nil_append]
    unfold dropByteMark
    -- What follows is blank, so it begins with no mark.
    split
    next isAfter => simp [isAfter, Text.isBlank] at ends
    next isAfter => simp [isAfter, Text.isBlank] at ends
    next => exact ends
  · rw [small]
    exact ends
  · rw [capital]
    exact ends

theorem factor?_tail :
    factor? (spelling.tail.dropWhile Text.isBlank) = some spelling.scale.factor := by
  have ends := spelling.blank_dropByteMark
  rw [tail, List.dropWhile_append_of_pos spelling.blankGap]
  cases isLetters : spelling.letters with
  | nil =>
    obtain ⟨noSign, noMark⟩ := List.append_eq_nil_iff.mp isLetters
    obtain ⟨_, isBytes⟩ | ⟨c, isSign⟩ := eq_nil_or_of_isSign spelling.isSign
    · rw [List.nil_append, List.dropWhile_eq_nil_iff.mpr spelling.blankAfter, isBytes]
      rfl
    · rw [noSign] at isSign
      cases isSign
  | cons letter rest =>
    have first := (spelling.not_blank_letters letter (by simp [isLetters])).1
    rw [List.cons_append, List.dropWhile_cons_of_neg (by simp [first]), <- List.cons_append,
      <- isLetters, letters, List.append_assoc]
    obtain ⟨noSign, isBytes⟩ | ⟨c, isSign⟩ := eq_nil_or_of_isSign spelling.isSign
    -- Without a unit the letter is a byte mark, which must not be taken for a unit.
    · rw [letters, noSign, List.nil_append] at isLetters
      have noUnit : unitFactor? letter = none := by
        have isMark := spelling.isMark
        simp only [byteMarks, isLetters, List.mem_cons, List.not_mem_nil, or_false,
          List.cons.injEq] at isMark
        rcases isMark with isNil | ⟨rfl, _⟩ | ⟨rfl, _⟩
        · cases isNil
        · rfl
        · rfl
      rw [noSign, isBytes, List.nil_append]
      rw [isLetters, List.cons_append] at ends ⊢
      simp only [factor?, noUnit, ends, if_true]
      rfl
    · have unit := unitFactor?_of_sign (isSign ▸ spelling.isSign)
      rw [isSign, List.singleton_append]
      simp only [factor?, unit, ends, if_true]

theorem parts?_chars :
    parts? spelling.chars = some (spelling.digits, spelling.scale.factor) := by
  have some : spelling.digits.isEmpty = false := by
    simpa using spelling.someDigits
  simp only [parts?, dropWhile_chars, takeWhile_digits, dropWhile_digits, factor?_tail, some]
  rfl

end Spelling

theorem exists_sign {c : Char} {factor : Nat} (unit : unitFactor? c = some factor) :
    exists scale : Scale, [c] ∈ scale.signs ∧ scale.factor = factor := by
  have isSign {letter : Char} {scale : Scale} (small : Text.lowerChars c = [letter])
      (isLetter : 97 <= letter.toNat ∧ letter.toNat <= 122)
      (signs : [letter] ∈ scale.signs ∧ [Char.ofNat (letter.toNat - 32)] ∈ scale.signs ∧
        (letter = 'k' -> ['\u212a'] ∈ scale.signs)) :
      [c] ∈ scale.signs := by
    obtain rfl | rfl | ⟨rfl, isK⟩ := Text.eq_of_lowerChars small isLetter
    · exact signs.1
    · exact signs.2.1
    · exact signs.2.2 isK
  simp only [unitFactor?] at unit
  split at unit
  next small =>
    exact ⟨.kilobytes, isSign small (by decide) (by decide), Option.some.inj unit⟩
  next small =>
    exact ⟨.megabytes, isSign small (by decide) (by decide), Option.some.inj unit⟩
  next small =>
    exact ⟨.gigabytes, isSign small (by decide) (by decide), Option.some.inj unit⟩
  next small =>
    exact ⟨.terabytes, isSign small (by decide) (by decide), Option.some.inj unit⟩
  next => cases unit

theorem exists_mark (rest : List Char) :
    exists mark, mark ∈ byteMarks ∧ rest = mark ++ dropByteMark rest := by
  unfold dropByteMark
  split
  next after => exact ⟨['b'], by decide, rfl⟩
  next after => exact ⟨['B'], by decide, rfl⟩
  next => exact ⟨[], by decide, rfl⟩

theorem exists_letters {unit : List Char} {factor : Nat} (read : factor? unit = some factor) :
    exists (scale : Scale) (sign mark after : List Char), unit = sign ++ (mark ++ after) ∧
      sign ∈ scale.signs ∧ mark ∈ byteMarks ∧ (forall c, c ∈ after -> Text.isBlank c = true) ∧
      scale.factor = factor := by
  have split (rest : List Char) (scale : Scale) (sign : List Char) (isSign : sign ∈ scale.signs)
      (read : (if (dropByteMark rest).all Text.isBlank then some scale.factor else none) =
        some factor) :
      exists mark after, sign ++ rest = sign ++ (mark ++ after) ∧
        sign ∈ scale.signs ∧ mark ∈ byteMarks ∧ (forall c, c ∈ after -> Text.isBlank c = true) ∧
        scale.factor = factor := by
    obtain ⟨mark, isMark, isRest⟩ := exists_mark rest
    split at read
    next blank =>
      exact ⟨mark, dropByteMark rest, congrArg _ isRest, isSign, isMark,
        List.all_eq_true.mp blank, Option.some.inj read⟩
    next => cases read
  cases unit with
  | nil => exact ⟨.bytes, [], split [] .bytes [] (by decide) read⟩
  | cons c rest =>
    simp only [factor?] at read
    cases isUnit : unitFactor? c with
    | none =>
      rw [isUnit] at read
      exact ⟨.bytes, [], split (c :: rest) .bytes [] (by decide) read⟩
    | some known =>
      rw [isUnit] at read
      obtain ⟨scale, isSign, rfl⟩ := exists_sign isUnit
      exact ⟨scale, [c], split rest scale [c] isSign read⟩

theorem exists_spelling
    {text digits : List Char}
    {factor : Nat}
    (read : parts? text = some (digits, factor)) :
    exists spelling : Spelling, spelling.chars = text ∧ spelling.digits = digits ∧
      spelling.scale.factor = factor := by
  let body := text.dropWhile Text.isBlank
  let tail := body.dropWhile Text.isDigit
  simp only [parts?] at read
  split at read
  next => cases read
  next some =>
    obtain ⟨known, units, same⟩ := Option.map_eq_some_iff.mp read
    obtain ⟨rfl, rfl⟩ := Prod.mk.inj same
    obtain ⟨scale, sign, mark, after, isUnit, isSign, isMark, blankAfter, isFactor⟩ :=
      exists_letters units
    refine ⟨{
      before := text.takeWhile Text.isBlank
      digits := body.takeWhile Text.isDigit
      gap := tail.takeWhile Text.isBlank
      scale := scale
      sign := sign
      mark := mark
      after := after
      blankBefore := fun _ => List.mem_takeWhile_imp
      someDigits := by simpa using some
      areDigits := fun _ => List.mem_takeWhile_imp
      blankGap := fun _ => List.mem_takeWhile_imp
      isSign := isSign
      isMark := isMark
      blankAfter := blankAfter }, ?_, rfl, isFactor⟩
    rw [Spelling.chars, Spelling.tail, Spelling.letters, List.append_assoc, <- isUnit]
    simp only [tail, body, List.takeWhile_append_dropWhile]

namespace Spelling

/-- Two spellings that differ in nothing but the blanks of a size without letters. -/
structure Agrees (first second : Spelling) : Prop where
  before : first.before = second.before
  digits : first.digits = second.digits
  scale : first.scale = second.scale
  sign : first.sign = second.sign
  mark : first.mark = second.mark
  blanks : first.gap ++ first.after = second.gap ++ second.after
  placed : first.letters ≠ [] -> first.gap = second.gap ∧ first.after = second.after

theorem Agrees.size {first second : Spelling} (agrees : first.Agrees second) :
    first.size = second.size := by
  rw [Spelling.size, number, agrees.digits, agrees.scale]
  rfl

variable (spelling : Spelling)

theorem filter_letters :
    spelling.tail.filter (fun c => !Text.isBlank c) = spelling.letters := by
  rw [tail, List.filter_append, List.filter_append, List.filter_eq_nil_iff.mpr,
    List.filter_eq_self.mpr, List.filter_eq_nil_iff.mpr, List.nil_append, List.append_nil]
  · exact fun c listed => by simp [spelling.blankAfter c listed]
  · exact fun c listed => by simp [spelling.not_blank_letters c listed]
  · exact fun c listed => by simp [spelling.blankGap c listed]

theorem filter_blanks :
    spelling.tail.filter Text.isBlank = spelling.gap ++ spelling.after := by
  rw [tail, List.filter_append, List.filter_append, List.filter_eq_self.mpr spelling.blankGap,
    List.filter_eq_nil_iff.mpr, List.filter_eq_self.mpr spelling.blankAfter, List.nil_append]
  exact fun c listed => by simp [spelling.not_blank_letters c listed]

theorem takeWhile_tail (some : spelling.letters ≠ []) :
    spelling.tail.takeWhile Text.isBlank = spelling.gap := by
  obtain ⟨letter, rest, isLetters⟩ := List.exists_cons_of_ne_nil some
  have first := (spelling.not_blank_letters letter (by simp [isLetters])).1
  rw [tail, List.takeWhile_append_of_pos spelling.blankGap, isLetters, List.cons_append,
    List.takeWhile_cons_of_neg (by simp [first]), List.append_nil]

end Spelling

theorem letters_unique
    {scale other : Scale}
    {sign mark otherSign otherMark : List Char}
    (isSign : sign ∈ scale.signs)
    (isMark : mark ∈ byteMarks)
    (isOtherSign : otherSign ∈ other.signs)
    (isOtherMark : otherMark ∈ byteMarks)
    (same : sign ++ mark = otherSign ++ otherMark) :
    scale = other ∧ sign = otherSign ∧ mark = otherMark := by
  have table : forall scale other : Scale,
      scale.signs.all (fun sign => byteMarks.all (fun mark => other.signs.all (fun otherSign =>
        byteMarks.all (fun otherMark => sign ++ mark != otherSign ++ otherMark ||
          decide (scale = other ∧ sign = otherSign ∧ mark = otherMark))))) = true := by
    intro scale other
    cases scale <;> cases other <;> decide
  have entry := table scale other
  simp only [List.all_eq_true] at entry
  have entry := entry sign isSign mark isMark otherSign isOtherSign otherMark isOtherMark
  simpa [same] using entry

theorem Spelling.agrees {first second : Spelling} (same : first.chars = second.chars) :
    first.Agrees second := by
  -- Each piece is what a scan of the text gives, and both spellings are of one text.
  have bodies := first.dropWhile_chars
  rw [same, second.dropWhile_chars] at bodies
  have digits := first.takeWhile_digits
  rw [<- bodies, second.takeWhile_digits] at digits
  have tails := first.dropWhile_digits
  rw [<- bodies, second.dropWhile_digits] at tails
  have letters := first.filter_letters
  rw [<- tails, second.filter_letters] at letters
  have blanks := first.filter_blanks
  rw [<- tails, second.filter_blanks] at blanks
  obtain ⟨scale, sign, mark⟩ :=
    letters_unique first.isSign first.isMark second.isSign second.isMark letters.symm
  rw [chars, chars, bodies] at same
  exact {
    before := List.append_cancel_right same
    digits := digits.symm
    scale := scale
    sign := sign
    mark := mark
    blanks := blanks.symm
    placed := fun some => by
      have gap := first.takeWhile_tail some
      rw [<- tails, second.takeWhile_tail (letters ▸ some)] at gap
      rw [gap] at blanks
      exact ⟨gap.symm, (List.append_cancel_left blanks).symm⟩ }

theorem ofDigits_eq (values : List Nat) :
    Text.ofDigits values = Nat.ofDigits 10 values.reverse := by
  rw [Nat.ofDigits_eq_foldr, List.foldr_reverse, Text.ofDigits]
  congr 1
  funext number value
  exact Nat.add_comm _ _

theorem isBasicDigit_toString {number : Nat} :
    forall c, c ∈ (toString number).toList -> Text.isBasicDigit c = true := by
  intro c listed
  rw [Nat.toString_eq_repr, Nat.toList_repr] at listed
  exact Text.isBasicDigit_of_isDigit (Nat.isDigit_of_mem_toDigits (by decide) (by decide) listed)

theorem ofDigits_toString (number : Nat) :
    Text.ofDigits ((toString number).toList.filterMap Text.digitValue?) = number := by
  rw [Text.ofDigits_basic isBasicDigit_toString, Nat.toString_eq_repr, Nat.toList_repr,
    Nat.ofDigitChars_ten_toDigits]

namespace Spelling

def withNumber (spelling : Spelling) (number : Nat) : Spelling :=
  { spelling with
    digits := (toString number).toList
    someDigits := by simp [Nat.toString_eq_repr, Nat.toList_repr, Nat.toDigits_ne_nil]
    areDigits := by
      intro c listed
      rw [Text.isDigit, Text.digitValue?_of_basic (isBasicDigit_toString c listed)]
      rfl }

theorem size_withNumber (spelling : Spelling) (number : Nat) :
    (spelling.withNumber number).size = number * spelling.scale.factor := by
  have isNumber : (spelling.withNumber number).number = number :=
    (ofDigits_eq _).symm.trans (ofDigits_toString number)
  rw [size, isNumber]
  rfl

theorem read_chars {spelling : Spelling} {text : String} (spells : spelling.chars = text.toList) :
    read text = if spelling.digits.length <= Number.digitLimit then .ok spelling.size
      else .error (.literal (.tooLong spelling.digits.length)) := by
  rw [read, <- spells, parts?_chars]
  simp only [Number.ofDigitChars]
  by_cases fits : spelling.digits.length <= Number.digitLimit
  next =>
    rw [if_neg (Nat.not_lt.mpr fits), if_pos fits, ofDigits_eq]
    rfl
  next => rw [if_pos (Nat.lt_of_not_le fits), if_neg fits]

theorem ofValue_text
    {spelling : Spelling}
    {text : String}
    (spells : spelling.chars = text.toList)
    (fits : spelling.digits.length <= Number.digitLimit) :
    ofValue (.text text) = .ok (.int spelling.size) := by
  rw [ofValue, read_chars spells, if_pos fits]

end Spelling

inductive Told (text : String) : Except Refusal Value -> Prop
  | size (spelling : Spelling)
      (spells : spelling.chars = text.toList)
      (fits : spelling.digits.length <= Number.digitLimit) :
      Told text (.ok (.int spelling.size))
  | tooLong (spelling : Spelling)
      (spells : spelling.chars = text.toList)
      (long : Number.digitLimit < spelling.digits.length) :
      Told text (.error (.argument (.literal (.tooLong spelling.digits.length))))
  | unspelled (never : forall spelling : Spelling, spelling.chars ≠ text.toList) :
      Told text (.error (.argument (.byteSize text)))

theorem told_ofValue (text : String) : Told text (ofValue (.text text)) := by
  cases found : parts? text.toList with
  | none =>
    have refused : ofValue (.text text) = .error (.argument (.byteSize text)) := by
      rw [ofValue, read, found]
    rw [refused]
    refine .unspelled (fun spelling spells => ?_)
    rw [<- spells, Spelling.parts?_chars] at found
    cases found
  | some known =>
    obtain ⟨spelling, spells, _⟩ := @exists_spelling text.toList known.1 known.2 found
    by_cases fits : spelling.digits.length <= Number.digitLimit
    next =>
      rw [Spelling.ofValue_text spells fits]
      exact .size spelling spells fits
    next =>
      rw [ofValue, Spelling.read_chars spells, if_neg fits]
      exact .tooLong spelling spells (Nat.lt_of_not_le fits)

/-- A text is read as a size if it spells one that has not too many digits, and it spells no other
one.  All other texts are refused for their value.  So a number is read back from all texts that it
is written into, as often as the unit says. -/
theorem ofValue_spelled (text : String) :
    (forall value, ofValue (.text text) = .ok value <->
      exists spelling : Spelling, spelling.chars = text.toList ∧
        spelling.digits.length <= Number.digitLimit ∧ value = .int spelling.size) ∧
    (forall first second : Spelling, first.chars = text.toList -> second.chars = text.toList ->
      first.Agrees second ∧ first.size = second.size) ∧
    (forall refusal, ofValue (.text text) = .error refusal ->
      exists error, refusal = .argument error ∧ (Failure.of (.argument error)).kind = .value ∧
        ((forall spelling : Spelling, spelling.chars ≠ text.toList) ∧ error = .byteSize text ∨
          exists spelling : Spelling, spelling.chars = text.toList ∧
            Number.digitLimit < spelling.digits.length ∧
            error = .literal (.tooLong spelling.digits.length))) ∧
    forall (spelling : Spelling) (number : Nat),
      (spelling.withNumber number).chars = text.toList ->
      (toString number).length <= Number.digitLimit ->
      ofValue (.text text) = .ok (.int (number * spelling.scale.factor)) := by
  have told := told_ofValue text
  refine ⟨fun value => ⟨fun read => ?_, ?_⟩, fun first second isFirst isSecond => ?_,
    fun refusal refused => ?_, fun spelling number spells fits => ?_⟩
  · rw [read] at told
    cases told with
    | size spelling spells fits => exact ⟨spelling, spells, fits, rfl⟩
  · rintro ⟨spelling, spells, fits, rfl⟩
    exact Spelling.ofValue_text spells fits
  · have agrees := Spelling.agrees (isFirst.trans isSecond.symm)
    exact ⟨agrees, agrees.size⟩
  · rw [refused] at told
    cases told with
    | tooLong spelling spells long => exact ⟨_, rfl, rfl, .inr ⟨spelling, spells, long, rfl⟩⟩
    | unspelled never => exact ⟨_, rfl, rfl, .inl ⟨never, rfl⟩⟩
  · rw [Spelling.ofValue_text spells fits, Spelling.size_withNumber]
    rfl

theorem ofValue_spelled_kelvin :
    let spelling : Spelling := {
      before := [' ']
      digits := ['\u0661', '7']
      gap := ['\t']
      scale := .kilobytes
      sign := ['\u212a']
      mark := ['b']
      after := ['\n']
      blankBefore := List.all_eq_true.mp rfl
      someDigits := by decide
      areDigits := List.all_eq_true.mp rfl
      blankGap := List.all_eq_true.mp rfl
      isSign := by decide
      isMark := by decide
      blankAfter := List.all_eq_true.mp rfl }
    spelling.chars = " \u06617\t\u212ab\n".toList ∧
      spelling.digits.length <= Number.digitLimit ∧
      ofValue (.text " \u06617\t\u212ab\n") = .ok (.int 17408) := by
  intro spelling
  have spells : spelling.chars = " \u06617\t\u212ab\n".toList := by decide +kernel
  have fits : spelling.digits.length <= Number.digitLimit := by decide +kernel
  have size : spelling.size = 17408 := by decide +kernel
  have read := ((ofValue_spelled " \u06617\t\u212ab\n").1 _).mpr ⟨spelling, spells, fits, rfl⟩
  rw [size] at read
  exact ⟨spells, fits, read⟩

end Size

end BlobDepot
