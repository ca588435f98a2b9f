namespace RecordCodec.Text

def lower (c : Char) : Char :=
  if c = '\u212A' then 'k'
  else if c = '\u212B' then 'å'
  else if 0xC0 ≤ c.toNat ∧ c.toNat ≤ 0xDE ∧ c.toNat ≠ 0xD7 then Char.ofNat (c.toNat + 0x20)
  else c.toLower

end RecordCodec.Text
