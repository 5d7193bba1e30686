/-!
# Half characters

Text may hold code points that are only half of a character.  They have no encoding and are no
characters, so each is kept as a stand-in from a range that is left to private use: the one whose
code point is `0xf0000` above it.  The characters `U+FD800` to `U+FDFFF` are reserved for this.
They stand for nothing else, and a text in which one of them is meant itself is not represented.
-/

set_option autoImplicit false

namespace BlobDepot.Text

def standInOffset : Nat :=
  0xf0000

def isHalf (code : Nat) : Bool :=
  0xd800 <= code && code < 0xe000

/-- The character with a code point, or the stand-in of half a one. -/
def ofCodePoint (code : Nat) : Char :=
  Char.ofNat (if isHalf code then standInOffset + code else code)

def codePoint (c : Char) : Nat :=
  if isHalf (c.toNat - standInOffset) then c.toNat - standInOffset else c.toNat

def isStandIn (c : Char) : Bool :=
  isHalf (codePoint c)

def firstHalves? (text : String) : Option (Nat × Nat) :=
  let chars := text.toList
  let rest := chars.dropWhile (fun c => !isStandIn c)
  if rest.isEmpty then none
  else some (chars.length - rest.length, (rest.takeWhile isStandIn).length)

/-- A text can be told from its characters: outside of the reserved range every code point, half a
character's too, is read back from the character that is kept for it. -/
theorem codePoint_ofCodePoint
    {code : Nat}
    (inRange : code < 0x110000)
    (unreserved : isHalf (code - standInOffset) = false) :
    codePoint (ofCodePoint code) = code := by
  have toNat_ofNat {number : Nat} (valid : number.isValidChar) :
      (Char.ofNat number).toNat = number := by
    rw [Char.ofNat, dif_pos valid]
    rfl
  cases half : isHalf code with
  | true =>
    have bounds : 0xd800 ≤ code ∧ code < 0xe000 := by
      simpa [isHalf] using half
    have valid : (standInOffset + code).isValidChar := by
      refine Or.inr ⟨?_, ?_⟩ <;> unfold standInOffset <;> omega
    simp [codePoint, ofCodePoint, half, toNat_ofNat valid]
  | false =>
    have bounds : ¬(0xd800 ≤ code ∧ code < 0xe000) := by
      simpa [isHalf] using half
    have valid : code.isValidChar := by
      rw [Nat.isValidChar]
      omega
    simp [codePoint, ofCodePoint, half, toNat_ofNat valid, unreserved]

end BlobDepot.Text
