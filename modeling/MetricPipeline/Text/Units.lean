/-! Strings ordered by their UTF-16 code units. A character beyond the basic plane is two surrogates and
so sorts below the characters from U+E000 to U+FFFF, unlike in the order of code points. -/

namespace MetricPipeline.Text

def charUnits (c : Char) : List Nat :=
  if c.toNat < 0x10000 then [c.toNat]
  else [0xD800 + (c.toNat - 0x10000) / 0x400, 0xDC00 + (c.toNat - 0x10000) % 0x400]

def units (s : String) : List Nat := s.toList.flatMap charUnits

def unitsLe (a b : String) : Bool := !List.lex (units b) (units a)

end MetricPipeline.Text
