import MetricPipeline.Binary64.Numeral

/-! Values that come from outside without a type, before they are checked. -/

namespace MetricPipeline

inductive Untyped where
  | undefined
  | null
  | boolean (b : Bool)
  | number (x : Binary64)
  /-- An integer of any size. -/
  | integer (n : Int)
  | string (s : String)
  | array (items : List Untyped)
  | object (fields : List (String × Untyped))

/-- Kinds of values as messages name them. -/
inductive Kind where
  | undefined
  | null
  | boolean
  | number
  | nan
  | bigInteger
  | string
  | array
  | object
  | int
deriving DecidableEq

def Kind.name : Kind → String
  | undefined => "undefined"
  | null => "null"
  | boolean => "boolean"
  | number => "number"
  | nan => "NaN"
  | bigInteger => "bigint"
  | string => "string"
  | array => "array"
  | object => "object"
  | int => "int"

namespace Untyped

def kind : Untyped → Kind
  | undefined => .undefined
  | null => .null
  | boolean _ => .boolean
  | number x => if x = .nan then .nan else .number
  | integer _ => .bigInteger
  | string _ => .string
  | array _ => .array
  | object _ => .object

/-- The value of a field, undefined when there is none. -/
def field (fields : List (String × Untyped)) (name : String) : Untyped :=
  (fields.lookup name).getD .undefined

mutual

/-- The text that an item of a list contributes when the list is read as text. An object that has its own
field for this cannot be read as text, as no field is a function. -/
def text? : Untyped → Option String
  | undefined => some "undefined"
  | null => some "null"
  | boolean b => some (if b then "true" else "false")
  | number x => some x.text
  | integer n => some (toString n)
  | string s => some s
  | array items => (itemTexts? items).map (",".intercalate ·)
  | object fields => if (field fields "toString").kind = .undefined then some "[object Object]" else none

def itemTexts? : List Untyped → Option (List String)
  | [] => some []
  | undefined :: rest => (itemTexts? rest).map ("" :: ·)
  | null :: rest => (itemTexts? rest).map ("" :: ·)
  | item :: rest => (text? item).bind fun text => (itemTexts? rest).map (text :: ·)

end

/-- The number that a value is taken for: null is zero, a truth value is zero or one, and what is not a
number is read from its text. -/
def toNumber? : Untyped → Option Binary64
  | undefined => some .nan
  | null => some (.zero false)
  | boolean b => some (.ofNat b.toNat)
  | number x => some x
  | integer n => some (.ofInt n)
  | string s => some (.ofText s)
  | array items => (text? (.array items)).map .ofText
  | object fields => (text? (.object fields)).map .ofText

end Untyped
end MetricPipeline
