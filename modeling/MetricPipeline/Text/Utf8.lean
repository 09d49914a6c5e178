/-! Bytes read as UTF-8. A byte that cannot continue what was begun ends it, and each part that is
begun but not finished, or cannot begin anything, is read as U+FFFD. -/

namespace MetricPipeline.Text.Utf8

def replacement : Char := '\uFFFD'

/-- A character of which the first bytes are read: its bits so far, how many bytes are still to come and
the bounds of the next one. -/
structure Unfinished where
  bits : Nat
  missing : Nat
  lower : Nat := 0x80
  upper : Nat := 0xBF

/-- What a byte begins: a whole character, the replacement or an unfinished character. -/
def begin? (b : Nat) : Char ⊕ Unfinished :=
  if b < 0x80 then .inl (Char.ofNat b)
  else if 0xC2 ≤ b ∧ b ≤ 0xDF then .inr { bits := b - 0xC0, missing := 1 }
  else if b = 0xE0 then .inr { bits := 0, missing := 2, lower := 0xA0 }
  else if b = 0xED then .inr { bits := 0xD, missing := 2, upper := 0x9F }
  else if 0xE1 ≤ b ∧ b ≤ 0xEF then .inr { bits := b - 0xE0, missing := 2 }
  else if b = 0xF0 then .inr { bits := 0, missing := 3, lower := 0x90 }
  else if b = 0xF4 then .inr { bits := 4, missing := 3, upper := 0x8F }
  else if 0xF1 ≤ b ∧ b ≤ 0xF3 then .inr { bits := b - 0xF0, missing := 3 }
  else .inl replacement

def decodeFrom : Option Unfinished → List UInt8 → List Char
  | none, [] => []
  | some _, [] => [replacement]
  | none, b :: rest =>
    match begin? b.toNat with
    | .inl c => c :: decodeFrom none rest
    | .inr u => decodeFrom (some u) rest
  | some u, b :: rest =>
    if u.lower ≤ b.toNat ∧ b.toNat ≤ u.upper then
      let bits := u.bits * 64 + (b.toNat - 0x80)
      if u.missing ≤ 1 then Char.ofNat bits :: decodeFrom none rest
      else decodeFrom (some { bits, missing := u.missing - 1 }) rest
    else
      match begin? b.toNat with
      | .inl c => replacement :: c :: decodeFrom none rest
      | .inr u => replacement :: decodeFrom (some u) rest

def decode (bytes : List UInt8) : List Char := decodeFrom none bytes

def encode (s : List Char) : List UInt8 := s.flatMap String.utf8EncodeChar

end MetricPipeline.Text.Utf8
