import MetricPipeline.Text.Form
import MetricPipeline.Url.Host

/-! Absolute URLs, as far as telling whether a text is one, and reading its scheme and its query. -/

namespace MetricPipeline

structure Url where
  scheme : String
  query : List (String × String)
deriving DecidableEq

namespace Url

def isC0OrSpace (c : Char) : Bool := c.toNat ≤ 32

def isTabOrBreak (c : Char) : Bool := c.toNat = 9 || c.toNat = 10 || c.toNat = 13

/-- Control characters and spaces at the ends and all tabs and line breaks do not count. -/
def clean (s : List Char) : List Char :=
  (((s.dropWhile isC0OrSpace).reverse.dropWhile isC0OrSpace).reverse).filter (!isTabOrBreak ·)

def isSchemeChar (c : Char) : Bool := c.isAlphanum || c = '+' || c = '-' || c = '.'

/-- Scheme in lower case and what follows its colon. -/
def scheme? (s : List Char) : Option (List Char × List Char) :=
  let scheme := s.takeWhile isSchemeChar
  match scheme, s.dropWhile isSchemeChar with
  | c :: _, ':' :: rest => if c.isAlpha then some (scheme.map Char.toLower, rest) else none
  | _, _ => none

/-- The schemes of the web, whose authority is not optional and where a backslash is a slash. -/
def webSchemes : List String := ["http", "https", "ws", "wss", "ftp"]

def isPort (s : List Char) : Bool :=
  s.all Char.isDigit && (s = [] || (Text.natOfDigits? 10 s).any (· ≤ 65535))

/-- Host and what follows its colon; a colon within brackets belongs to the host. -/
def splitPort (inBrackets : Bool) : List Char → List Char × Option (List Char)
  | [] => ([], none)
  | c :: rest =>
    if c = ':' ∧ inBrackets = false then ([], some rest)
    else
      let inside := if c = '[' then true else if c = ']' then false else inBrackets
      let (host, port) := splitPort inside rest
      (c :: host, port)

/-- What follows the last `@`, if there is one. -/
def afterCredentials? (s : List Char) : Option (List Char) :=
  if '@' ∈ s then some ((s.reverse.takeWhile (· ≠ '@')).reverse) else none

def isHostAndPort (web : Bool) (s : List Char) : Bool :=
  match splitPort false s with
  | (host, none) => isHost web host
  | (host, some port) => host ≠ [] && isHost web host && isPort port

/-- Credentials need a host after them. -/
def isAuthority (web : Bool) (s : List Char) : Bool :=
  match afterCredentials? s with
  | some rest => rest ≠ [] && isHostAndPort web rest
  | none => isHostAndPort web s

def endsAuthority (web : Bool) (c : Char) : Bool := c = '/' || c = '?' || c = '#' || (web && c = '\\')

def isSlash (c : Char) : Bool := c = '/' || c = '\\'

def isDrive (s : List Char) : Bool :=
  match s with
  | [letter, mark] => letter.isAlpha && (mark = ':' || mark = '|')
  | _ => false

/-- What follows the authority, when the text after a scheme begins in a way that the scheme allows. -/
def path? (scheme : String) (s : List Char) : Option (List Char) :=
  if scheme ∈ webSchemes then
    let rest := s.dropWhile isSlash
    if isAuthority true (rest.takeWhile (!endsAuthority true ·)) then
      some (rest.dropWhile (!endsAuthority true ·))
    else none
  else if scheme = "file" then
    match s with
    | a :: b :: rest =>
      if isSlash a ∧ isSlash b then
        let host := rest.takeWhile (!endsAuthority true ·)
        if host = [] ∨ isDrive host ∨ isHost true host then some (rest.dropWhile (!endsAuthority true ·))
        else none
      else some s
    | _ => some s
  else
    match s with
    | '/' :: '/' :: rest =>
      if isAuthority false (rest.takeWhile (!endsAuthority false ·)) then
        some (rest.dropWhile (!endsAuthority false ·))
      else none
    | _ => some s

/-- The text between the first question mark and the number sign after it. -/
def queryText (s : List Char) : List Char :=
  ((s.takeWhile (· ≠ '#')).dropWhile (· ≠ '?')).drop 1

def parse? (text : String) : Option Url :=
  match scheme? (clean text.toList) with
  | none => none
  | some (scheme, rest) =>
    (path? (String.ofList scheme) rest).map fun path =>
      ⟨String.ofList scheme, Text.Form.decode (queryText path)⟩

/-- The first value of a name in the query. -/
def parameter? (url : Url) (name : String) : Option String := url.query.lookup name

end Url
end MetricPipeline
