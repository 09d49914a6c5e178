import MetricPipeline.Text.Blank
import MetricPipeline.Text.Percent
import MetricPipeline.Text.Utf8
import MetricPipeline.Url.Domain.Label

/-! Which hosts a URL can have. A host in brackets is an IPv6 address. Under the schemes of the web any
other host is a domain: its escapes are read, characters that are read alike are made the same, each of
its labels follows the rules for labels, it is not empty and holds no delimiters, and when its last label
is a number it has to be an IPv4 address. Under other schemes a host is any text without delimiters. -/

namespace MetricPipeline.Url

def isDigits (s : List Char) : Bool := s ≠ [] && s.all Char.isDigit

/-- A part of an IPv4 address within an IPv6 address: a decimal up to 255 without leading zero. -/
def isByte (s : List Char) : Bool :=
  isDigits s && (s.length = 1 || s.head? ≠ some '0') && s.length ≤ 3 &&
    ((Text.natOfDigits? 10 s).any (· ≤ 255))

def isDottedBytes (s : List Char) : Bool :=
  let parts := Text.split '.' s
  parts.length = 4 && parts.all isByte

def isHexGroup (s : List Char) : Bool :=
  s ≠ [] && s.length ≤ 4 && s.all fun c => (Text.hexValue? c).isSome

/-- How many of the eight groups of an IPv6 address some text gives, when it may end in an IPv4 address. -/
def groups? (mayDot : Bool) (s : List Char) : Option Nat :=
  if s = [] then some 0
  else
    let parts := Text.split ':' s
    let last := parts.getLastD []
    let first := parts.dropLast
    if first.all isHexGroup then
      if isHexGroup last then some parts.length
      else if mayDot && isDottedBytes last then some (parts.length + 1) else none
    else none

/-- Text before and after the first two colons in a row. -/
def splitCompressed? : List Char → Option (List Char × List Char)
  | ':' :: ':' :: rest => some ([], rest)
  | c :: rest => (splitCompressed? rest).map fun (before, after) => (c :: before, after)
  | [] => none

def isIpv6 (s : List Char) : Bool :=
  match splitCompressed? s with
  | none => groups? true s = some 8
  | some (before, after) =>
    match groups? false before, groups? true after with
    | some m, some n => m + n ≤ 7
    | _, _ => false

/-- A label read as a number: hexadecimal after `0x`, octal after `0`, else decimal. -/
def labelNumber? (s : List Char) : Option Nat :=
  match s with
  | [] => none
  | ['0'] => some 0
  | '0' :: mark :: rest =>
    if mark = 'x' ∨ mark = 'X' then
      if rest = [] then some 0 else Text.natOfDigits? 16 rest
    else Text.natOfDigits? 8 (mark :: rest)
  | _ => Text.natOfDigits? 10 s

/-- The labels of a domain, without the empty one after a dot at its end. -/
def labels (domain : List Char) : List (List Char) :=
  let parts := Text.split '.' domain
  if 1 < parts.length ∧ parts.getLastD [] = [] then parts.dropLast else parts

def endsInNumber (domain : List Char) : Bool :=
  let last := (labels domain).getLastD []
  isDigits last || (labelNumber? last).isSome

/-- The parts before the last are bytes; the last one fills the bytes that are left. -/
def isIpv4 (domain : List Char) : Bool :=
  let parts := labels domain
  parts.length ≤ 4 &&
    match parts.mapM labelNumber? with
    | none => false
    | some numbers =>
      numbers.dropLast.all (· ≤ 255) && numbers.getLastD 0 < Nat.pow 256 (5 - numbers.length)

def isForbidden (c : Char) : Bool :=
  c.toNat = 0 || c.toNat = 9 || c.toNat = 10 || c.toNat = 13 || " #/:<>?@[\\]^|".toList.contains c

def isForbiddenInDomain (c : Char) : Bool :=
  isForbidden c || c = '%' || c.toNat < 32 || c.toNat = 127

/-- The domain that some text is read as. Bytes that are not UTF-8 become a character that no domain has. -/
def domain? (s : List Char) : Option (List Char) :=
  ((Domain.map? (Text.Utf8.decode (Text.percentBytes String.utf8EncodeChar s))).map Text.composed).filter
    fun domain => (Text.split '.' domain).all Domain.isLabel

def isDomain (s : List Char) : Bool :=
  match domain? s with
  | none => false
  | some domain =>
    domain ≠ [] && !domain.any isForbiddenInDomain && (!endsInNumber domain || isIpv4 domain)

def isBracketed (s : List Char) : Bool := s.getLast? = some ']' && isIpv6 (s.drop 1).dropLast

def isHost (web : Bool) (s : List Char) : Bool :=
  if s.head? = some '[' then isBracketed s
  else if web then isDomain s else !s.any isForbidden

end MetricPipeline.Url
