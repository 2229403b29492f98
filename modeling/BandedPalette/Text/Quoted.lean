import BandedPalette.Text.Printable
namespace BandedPalette.Text

/-- A quoted character. The common controls have a letter, and any other character
without a shape of its own is written as its number. -/
def quoteChar (c : Char) : List Char :=
  match c with
  | '"' => ['\\', '"']
  | '\\' => ['\\', '\\']
  | '\n' => ['\\', 'n']
  | '\r' => ['\\', 'r']
  | '\t' => ['\\', 't']
  | '\x00' => ['\\', '0']
  | _ =>
      if isPrintable c && !isExtending c then [c]
      else ['\\', 'u', '\x7b'] ++ Nat.toDigits 16 c.toNat ++ ['\x7d']

def quote (text : List Char) : List Char :=
  '"' :: (text.flatMap quoteChar ++ ['"'])

end BandedPalette.Text
