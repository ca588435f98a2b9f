namespace RecordCodec.Numeral

-- Powers of natural numbers are those of the core library.
attribute [local instance (high)] instPowNat

def maxDecimalDigits : Nat := 4300

/-- The least magnitude whose numeral is too long. -/
def unwritableFrom : Nat := 10 ^ maxDecimalDigits

def isWritable (n : Int) : Bool :=
  n.natAbs < unwritableFrom

end RecordCodec.Numeral
