/-! JSON strings and arrays of strings without white space. Escaped are the quote, the backslash and the
control characters below U+0020, each in its shortest form; every other character stands for itself. -/

namespace MetricPipeline.Text

def escape (c : Char) : List Char :=
  if c = '"' then ['\\', '"']
  else if c = '\\' then ['\\', '\\']
  else if c.toNat = 8 then ['\\', 'b']
  else if c.toNat = 9 then ['\\', 't']
  else if c.toNat = 10 then ['\\', 'n']
  else if c.toNat = 12 then ['\\', 'f']
  else if c.toNat = 13 then ['\\', 'r']
  else if c.toNat < 32 then
    ['\\', 'u', '0', '0', Nat.digitChar (c.toNat / 16), Nat.digitChar (c.toNat % 16)]
  else [c]

def quote (s : String) : List Char := '"' :: (s.toList.flatMap escape ++ ['"'])

/-- The items between commas, in brackets. -/
def bracket : List (List Char) → List Char
  | [] => ['[', ']']
  | item :: items => '[' :: (item ++ items.flatMap (',' :: ·) ++ [']'])

end MetricPipeline.Text
