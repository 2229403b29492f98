namespace BandedPalette.Numeral

def decimal (n : Nat) : String :=
  String.ofList (Nat.toDigits 10 n)

def signed : Int → String
  | .ofNat n => decimal n
  | .negSucc n => "-" ++ decimal (n + 1)

def padded (base width n : Nat) : List Char :=
  let digits := Nat.toDigits base n
  List.replicate (width - digits.length) '0' ++ digits

def hex (width n : Nat) : String :=
  String.ofList (padded 16 width n)

def binary (width n : Nat) : String :=
  String.ofList (padded 2 width n)

def column (width n : Nat) : String :=
  let digits := Nat.toDigits 10 n
  String.ofList (List.replicate (width - digits.length) ' ' ++ digits)

def hexPair (byte : UInt8) : List Char :=
  [Nat.digitChar (byte.toNat / 16), Nat.digitChar (byte.toNat % 16)]

def hexBytes (bytes : List UInt8) : String :=
  String.ofList (bytes.flatMap hexPair)

@[simp] theorem toList_decimal (n : Nat) : (decimal n).toList = Nat.toDigits 10 n := by
  simp [decimal]

end BandedPalette.Numeral
