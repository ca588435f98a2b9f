namespace RecordCodec.Latin1

def decode (bytes : List UInt8) : String :=
  String.ofList (bytes.map fun b => Char.ofNat b.toNat)

def byte? (c : Char) : Option UInt8 :=
  if c.toNat < 256 then some (UInt8.ofNat c.toNat) else none

def encode? (s : String) : Option (List UInt8) :=
  s.toList.mapM byte?

end RecordCodec.Latin1
