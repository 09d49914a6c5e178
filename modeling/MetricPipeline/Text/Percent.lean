import MetricPipeline.Text.Digit

/-! Percent escapes: a percent sign with two hexadecimal digits stands for a byte, and any other percent
sign for itself. -/

namespace MetricPipeline.Text

/-- The bytes of escaped text, in which `plain` gives those of a character that escapes nothing. -/
def percentBytes (plain : Char → List UInt8) : List Char → List UInt8
  | [] => []
  | [a] => plain a
  | [a, b] => plain a ++ plain b
  | a :: b :: c :: rest =>
    if a = '%' then
      match hexValue? b, hexValue? c with
      | some high, some low => UInt8.ofNat (high * 16 + low) :: percentBytes plain rest
      | _, _ => plain a ++ percentBytes plain (b :: c :: rest)
    else plain a ++ percentBytes plain (b :: c :: rest)

def upperHex (n : Nat) : Char := if n < 10 then Char.ofNat (48 + n) else Char.ofNat (55 + n)

def percentEscape (b : UInt8) : List Char := ['%', upperHex (b.toNat / 16), upperHex (b.toNat % 16)]

end MetricPipeline.Text
