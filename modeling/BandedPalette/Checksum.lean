namespace BandedPalette.Checksum

/-- The dividing polynomial without its highest power. Low powers stand in high bits.
-/
def polynomial : BitVec 32 := 0xEDB88320#32

def shift (register : BitVec 32) : BitVec 32 :=
  if register.getLsbD 0 then (register >>> 1) ^^^ polynomial else register >>> 1

def shifts : Nat → BitVec 32 → BitVec 32
  | 0, register => register
  | count + 1, register => shift (shifts count register)

def absorb (register : BitVec 32) (byte : UInt8) : BitVec 32 :=
  shifts 8 (register ^^^ byte.toBitVec.setWidth 32)

/-- The check of a sequence of bytes; the register is complemented before the
first byte and after the last. -/
def ofBytes (bytes : List UInt8) : BitVec 32 :=
  ~~~ bytes.foldl absorb (~~~ 0#32)

end BandedPalette.Checksum
