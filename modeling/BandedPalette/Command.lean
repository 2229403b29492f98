namespace BandedPalette

inductive EntryFormat where
  | rows
  | records
deriving DecidableEq, Repr

inductive SummaryFormat where
  | lines
  | json
deriving DecidableEq, Repr

inductive SeriesFormat where
  | csv
  | records
deriving DecidableEq, Repr

/-- Paths that are not given stand for the built-in formula, the built-in
reference and standard output. -/
inductive Command where
  | encode (index : Option Nat) (formula : Option String) (format : EntryFormat)
  | analyze (reference formula : Option String) (top : Nat) (bands : Bool)
      (format : SummaryFormat)
  | series (reference formula : Option String) (format : SeriesFormat) (out : Option String)
  | inspect (formula : Option String)
  | dump (out : Option String)
  | tint (index : Nat) (base : String) (formula : Option String)
deriving DecidableEq, Repr

end BandedPalette
