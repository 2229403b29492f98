namespace BandedPalette.Text

def octets : List Char → Nat
  | [] => 0
  | c :: rest => c.utf8Size + octets rest

@[simp] theorem octets_cons (c : Char) (rest : List Char) :
    octets (c :: rest) = c.utf8Size + octets rest := rfl

end BandedPalette.Text
