/-
This file decodes bytes to characters. A text comes in one of the encodings of
Unicode with units of eight, sixteen or thirty-two bits, and which one it is
follows from its first bytes: from a mark, or else from where the zeros stand
among the first two characters, which are taken to be ASCII.

Nothing is decoded unless every byte is well formed; only the halves of a pair
that stand alone are let through. Such a half is no character, yet an escaped
text may hold one, too. It is kept as a private code point of the last plane,
and is written as the half that it stands for.
-/

namespace StateContainer.Text

/-! ### Halves of surrogate pairs -/

/-- Whether a code is the half of a pair. -/
def isHalf (code : Nat) : Bool :=
  0xD800 ≤ code && code < 0xE000

/-- The distance between the halves and the code points that they are kept as. -/
def halfOffset : Nat := 0xFD000

/-- The character of a code, where the half of a pair is kept. -/
def charOfCode (code : Nat) : Char :=
  if isHalf code then Char.ofNat (code + halfOffset) else Char.ofNat code

/-- The code that a character stands for. -/
def codeOfChar (c : Char) : Nat :=
  if isHalf (c.toNat - halfOffset) then c.toNat - halfOffset else c.toNat

/-- A character that is kept as itself stands for itself. -/
theorem codeOfChar_of_lt (c : Char) (low : c.toNat < 0x10A800) : codeOfChar c = c.toNat := by
  have short : ¬ 0xD800 ≤ c.toNat - halfOffset := by
    unfold halfOffset
    omega
  have below : isHalf (c.toNat - halfOffset) = false := by
    unfold isHalf
    rw [decide_eq_false short, Bool.false_and]
  unfold codeOfChar
  rw [below]
  rfl

/-! ### Units of eight bits -/

/-- Whether a byte continues a character. -/
def isContinuation (byte : UInt8) : Bool :=
  byte.toNat / 64 = 2

/-- Puts a decoded code in front of the rest, if the code is within the given bounds. -/
def consCode (lower upper code : Nat) (rest : Option (List Char)) : Option (List Char) :=
  if lower ≤ code && code ≤ upper then rest.map (charOfCode code :: ·) else none

/-- Decodes units of eight bits. Each length of a character has a least code. -/
def decode8 : List UInt8 → Option (List Char)
  | [] => some []
  | a :: rest₁ =>
    let first := a.toNat
    if first < 0x80 then consCode 0 0x7F first (decode8 rest₁)
    else
      match rest₁ with
      | b :: rest₂ =>
        if !isContinuation b then none
        else if 0xC0 ≤ first && first < 0xE0 then
          consCode 0x80 0x7FF (first % 32 * 64 + b.toNat % 64) (decode8 rest₂)
        else
          match rest₂ with
          | c :: rest₃ =>
            if !isContinuation c then none
            else if 0xE0 ≤ first && first < 0xF0 then
              consCode 0x800 0xFFFF (first % 16 * 4096 + b.toNat % 64 * 64 + c.toNat % 64)
                (decode8 rest₃)
            else
              match rest₃ with
              | d :: rest₄ =>
                if isContinuation d && 0xF0 ≤ first && first < 0xF8 then
                  consCode 0x10000 0x10FFFF
                    (first % 8 * 262144 + b.toNat % 64 * 4096 + c.toNat % 64 * 64 + d.toNat % 64)
                    (decode8 rest₄)
                else none
              | [] => none
          | [] => none
      | [] => none

/-! ### Units of sixteen bits -/

/-- The order of the bytes in a unit. -/
inductive ByteOrder where
  /-- The most significant byte comes first. -/
  | big
  /-- The least significant byte comes first. -/
  | little
deriving DecidableEq, Repr

/-- The number of a unit of two bytes. -/
def ByteOrder.unit (order : ByteOrder) (first second : UInt8) : Nat :=
  match order with
  | big => first.toNat * 256 + second.toNat
  | little => second.toNat * 256 + first.toNat

/-- The units of sixteen bits. -/
def units16 (order : ByteOrder) : List UInt8 → Option (List Nat)
  | [] => some []
  | first :: second :: rest => (units16 order rest).map (order.unit first second :: ·)
  | [_] => none

/-- The characters of units of sixteen bits. -/
def joinUnits : List Nat → List Char
  | [] => []
  | [code] => [charOfCode code]
  | high :: low :: rest =>
    if 0xD800 ≤ high && high < 0xDC00 && 0xDC00 ≤ low && low < 0xE000 then
      Char.ofNat (0x10000 + (high - 0xD800) * 0x400 + (low - 0xDC00)) :: joinUnits rest
    else charOfCode high :: joinUnits (low :: rest)

/-- Decodes units of sixteen bits. -/
def decode16 (order : ByteOrder) (bytes : List UInt8) : Option (List Char) :=
  (units16 order bytes).map joinUnits

/-! ### Units of thirty-two bits -/

/-- Decodes units of thirty-two bits. -/
def decode32 (order : ByteOrder) : List UInt8 → Option (List Char)
  | [] => some []
  | a :: b :: c :: d :: rest =>
    let code :=
      match order with
      | .big => order.unit a b * 65536 + order.unit c d
      | .little => order.unit c d * 65536 + order.unit a b
    consCode 0 0x10FFFF code (decode32 order rest)
  | _ => none

/-! ### Telling the encoding -/

/-- Decodes bytes in the encoding that their beginning tells. A mark is no part of the text. -/
def decodeBytes (bytes : List UInt8) : Option (List Char) :=
  match bytes with
  | 0x00 :: 0x00 :: 0xFE :: 0xFF :: rest => decode32 .big rest
  | 0xFF :: 0xFE :: 0x00 :: 0x00 :: rest => decode32 .little rest
  | 0xFE :: 0xFF :: rest => decode16 .big rest
  | 0xFF :: 0xFE :: rest => decode16 .little rest
  | 0xEF :: 0xBB :: 0xBF :: rest => decode8 rest
  | a :: b :: c :: d :: _ =>
    if a = 0 then if b = 0 then decode32 .big bytes else decode16 .big bytes
    else if b = 0 then
      if c = 0 && d = 0 then decode32 .little bytes else decode16 .little bytes
    else decode8 bytes
  | [a, b] =>
    if a = 0 then decode16 .big bytes
    else if b = 0 then decode16 .little bytes
    else decode8 bytes
  | _ => decode8 bytes

end StateContainer.Text
