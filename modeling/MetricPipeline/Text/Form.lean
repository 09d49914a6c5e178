import MetricPipeline.Text.Blank
import MetricPipeline.Text.Percent
import MetricPipeline.Text.Utf8

/-! Lists of names and values in the form encoding of URL queries: pairs joined by `&`, a plus for a
space, and percent escapes for the bytes of all but letters, digits and four marks. -/

namespace MetricPipeline.Text.Form

def plainBytes (c : Char) : List UInt8 := if c = '+' then [0x20] else String.utf8EncodeChar c

def decodeText (s : List Char) : String := String.ofList (Utf8.decode (percentBytes plainBytes s))

/-- A piece is cut at its first equals sign; without one it is a name with an empty value. -/
def decodePair (piece : List Char) : String × String :=
  (decodeText (piece.takeWhile (· ≠ '=')), decodeText ((piece.dropWhile (· ≠ '=')).drop 1))

def decode (query : List Char) : List (String × String) :=
  ((split '&' query).filter (· ≠ [])).map decodePair

def isPlain (c : Char) : Bool :=
  c.isAlphanum || c = '*' || c = '-' || c = '.' || c = '_'

def encodeChar (c : Char) : List Char :=
  if isPlain c then [c] else if c = ' ' then ['+'] else (String.utf8EncodeChar c).flatMap percentEscape

def encodeText (s : String) : List Char := s.toList.flatMap encodeChar

def encodePair (pair : String × String) : List Char :=
  encodeText pair.1 ++ '=' :: encodeText pair.2

def encode : List (String × String) → List Char
  | [] => []
  | pair :: pairs => encodePair pair ++ pairs.flatMap ('&' :: encodePair ·)

end MetricPipeline.Text.Form
