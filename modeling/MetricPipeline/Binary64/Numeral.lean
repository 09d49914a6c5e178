import MetricPipeline.Binary64.Decimal
import MetricPipeline.Text.Blank
import MetricPipeline.Text.Digit

/-! Numbers written as text, as environment variables carry them. Blanks at both ends do not count; what
is left is empty (zero), an unsigned number in base 16, 8 or 2, or a decimal with optional sign, point and
exponent, or `Infinity`. Any other text is read as NaN. -/

namespace MetricPipeline.Binary64

def exponent? : List Char → Option Int
  | [] => some 0
  | c :: rest =>
    if c = 'e' ∨ c = 'E' then
      match rest with
      | '+' :: digits => (Text.natOfDigits? 10 digits).map Int.ofNat
      | '-' :: digits => (Text.natOfDigits? 10 digits).map fun n => -(n : Int)
      | digits => (Text.natOfDigits? 10 digits).map Int.ofNat
    else none

/-- Digits before and after the point and what follows them; the point needs a digit on one side. -/
def fixedPoint (s : List Char) : List Char × List Char × List Char :=
  let rest := s.dropWhile Char.isDigit
  match rest with
  | '.' :: fraction =>
    (s.takeWhile Char.isDigit, fraction.takeWhile Char.isDigit, fraction.dropWhile Char.isDigit)
  | _ => (s.takeWhile Char.isDigit, [], rest)

def unsigned? (negative : Bool) (s : List Char) : Option Binary64 :=
  if s = "Infinity".toList then some (.infinite negative)
  else
    let (whole, fraction, rest) := fixedPoint s
    match Text.natOfDigits? 10 (whole ++ fraction), exponent? rest with
    | some digits, some e => some (ofDecimal negative digits (e - fraction.length))
    | _, _ => none

def numeral? : List Char → Option Binary64
  | [] => some (zero false)
  | '+' :: rest => unsigned? false rest
  | '-' :: rest => unsigned? true rest
  | '0' :: mark :: rest =>
    if mark = 'x' ∨ mark = 'X' then (Text.natOfDigits? 16 rest).map ofNat
    else if mark = 'o' ∨ mark = 'O' then (Text.natOfDigits? 8 rest).map ofNat
    else if mark = 'b' ∨ mark = 'B' then (Text.natOfDigits? 2 rest).map ofNat
    else unsigned? false ('0' :: mark :: rest)
  | s => unsigned? false s

def ofText (s : String) : Binary64 := (numeral? (Text.trim s.toList)).getD .nan

end MetricPipeline.Binary64
