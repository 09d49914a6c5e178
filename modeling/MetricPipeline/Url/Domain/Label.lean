import MetricPipeline.Text.Composition
import MetricPipeline.Text.Direction
import MetricPipeline.Text.Joining
import MetricPipeline.Text.Mark
import MetricPipeline.Text.Punycode
import MetricPipeline.Url.Domain.Mapping

/-! Labels of domains. Those of ASCII alone are free, unless they begin like encoded ones. A label beyond
ASCII does not begin with a mark, joiners stand in it where they have an effect, and its characters are
written in one direction. -/

namespace MetricPipeline.Url.Domain

open Text

def isAscii (c : Char) : Bool := c.toNat < 128

/-- What encoded labels begin with. -/
def encodedMark : List Char := ['x', 'n', '-', '-']

/-- Whether the first joiner has an effect: after a sign that joins consonants, or, for the one that
separates, between letters that would be joined. None in a label without joiner. -/
def joinerRule? (before : List Char) : List Char → Option Bool
  | [] => none
  | c :: rest =>
    if c = joiner ∨ c = nonJoiner then
      some (before.head?.any isVirama ||
        (c = nonJoiner && before.any joinsNext && rest.any joinsPrevious))
    else joinerRule? (c :: before) rest

/-- A label with characters from right to left has none from left to right and numbers of one kind, and
it ends with a letter or a number and perhaps marks on it. -/
def directionRule (label : List Char) : Bool :=
  let directions := label.map Direction.ofChar
  match directions.reverse.find? (· ≠ .nonspacing) with
  | none => false
  | some last =>
    if .rightToLeft ∈ directions ∨ .arabicNumber ∈ directions then
      .leftToRight ∉ directions && !(.europeanNumber ∈ directions && .arabicNumber ∈ directions) &&
        last ≠ .neutral
    else true

/-- The rules for labels beyond ASCII. One with a joiner may mix directions. -/
def isUnicodeLabel (label : List Char) : Bool :=
  !encodedMark.isPrefixOf label && !label.head?.any isMark &&
    (joinerRule? [] label).getD (directionRule label)

/-- An encoded label stands for a label that cannot be written without encoding. -/
def isEncodedLabel (label : List Char) : Bool :=
  label.all isAscii &&
    match Punycode.decode? (label.drop encodedMark.length) with
    | none => false
    | some text => !text.all isAscii && map? text = some text && composed text = text && isUnicodeLabel text

def isLabel (label : List Char) : Bool :=
  if encodedMark.isPrefixOf label then isEncodedLabel label
  else label.all isAscii || isUnicodeLabel label

end MetricPipeline.Url.Domain
