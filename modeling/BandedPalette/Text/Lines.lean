namespace BandedPalette.Text

/-- The lines of a text, without their ends. A line ends at a line feed, which takes
along a carriage return right before it. There is no empty line after a final line
feed. -/
def lines : List Char → List (List Char)
  | [] => []
  | '\n' :: rest => [] :: lines rest
  | '\r' :: '\n' :: rest => [] :: lines rest
  | c :: rest =>
      match lines rest with
      | [] => [[c]]
      | line :: others => (c :: line) :: others

/-- The pieces between the occurrences of a mark.  There is always one more
piece than there are marks. -/
def pieces (mark : Char) : List Char → List (List Char)
  | [] => [[]]
  | c :: rest =>
      if c = mark then [] :: pieces mark rest
      else
        match pieces mark rest with
        | [] => [[c]]
        | piece :: others => (c :: piece) :: others

end BandedPalette.Text
