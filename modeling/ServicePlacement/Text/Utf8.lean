import ServicePlacement.CharSet

/-!
Ranges of characters as sequences of byte ranges: a character is in the range if its bytes in UTF-8
are, one by one, in the ranges of one of the sequences. Each sequence stands for a part of the range
whose characters have the same number of bytes, and in which every byte is free to take each value
of its range.
-/
namespace ServicePlacement.Text

structure ByteRange where
  low : UInt8
  high : UInt8
deriving DecidableEq

instance : Inhabited ByteRange := ⟨⟨0, 0⟩⟩

def ByteRange.contains (r : ByteRange) (byte : UInt8) : Bool := r.low ≤ byte && byte ≤ r.high

def utf8 (c : Char) : List UInt8 := String.utf8EncodeChar c

/-- Cut a range of code points so that no part has both `left` and `right`; what is between these
two is left out. -/
def cutBetween (left right : Nat) (r : Nat × Nat) : List (Nat × Nat) :=
  if r.1 ≤ left && right ≤ r.2 then [(r.1, left), (right, r.2)] else [r]

def cutAtBlocks (size : Nat) (r : Nat × Nat) : List (Nat × Nat) :=
  if r.1 / size = r.2 / size then [r]
  else
    let first := (r.1 + size - 1) / size * size
    let last := (r.2 + 1) / size * size
    let head := if r.1 < first then [(r.1, first - 1)] else []
    let body := if first < last then [(first, last - 1)] else []
    let tail := if last ≤ r.2 then [(last, r.2)] else []
    head ++ body ++ tail

def equallyLong (r : Nat × Nat) : List (Nat × Nat) :=
  (((cutBetween 0xD7FF 0xE000 r).flatMap (cutBetween 0x7F 0x80)).flatMap
    (cutBetween 0x7FF 0x800)).flatMap (cutBetween 0xFFFF 0x10000)

/-- The parts of an equally long range in which the last bytes are free. Blocks are as large as the
number of values that the last one, two or three bytes have. -/
def freeAtEnd (r : Nat × Nat) : List (Nat × Nat) :=
  if r.2 < 0x80 then [r]
  else ((cutAtBlocks 0x40 r).flatMap (cutAtBlocks 0x1000)).flatMap (cutAtBlocks 0x40000)

def byteRanges (r : Nat × Nat) : List ByteRange :=
  List.zipWith ByteRange.mk (utf8 (Char.ofNat r.1)) (utf8 (Char.ofNat r.2))

def byteSequences (r : Nat × Nat) : List (List ByteRange) :=
  ((equallyLong r).flatMap freeAtEnd).map byteRanges

end ServicePlacement.Text
