import ClassOrder.Assoc

/-!
# JSON values

The values that messages and settings carry.  Whole numbers and doubles are kept apart, and an
object keeps its fields in the order in which their names first came.

## Main definitions

* `Json` — the values.
* `Json.field?` — the value of a field of an object.
* `Json.isFilled` — whether a value is neither null, false, zero nor empty.
* `Json.kind` — the word for the kind of a value.
-/

namespace ClassOrder

/-- A JSON value. -/
inductive Json where
  | null
  | bool (b : Bool)
  /-- A number written without a point or an exponent. -/
  | int (n : Int)
  /-- A number written with a point or an exponent, or one of the doubles that have a name. -/
  | float (x : Float)
  | string (s : String)
  | array (items : List Json)
  | object (fields : List (String × Json))
  deriving Inhabited

namespace Json

/-- The value of the field `name` of an object. -/
def field? (name : String) : Json → Option Json
  | object fields => Assoc.get? name fields
  | _ => none

/-- Whether an object has a field `name`. -/
def hasField (name : String) (v : Json) : Bool := (v.field? name).isSome

/-- A field that is absent reads as null. -/
def fieldOrNull (name : String) (v : Json) : Json := (v.field? name).getD null

def isNull : Json → Bool
  | null => true
  | _ => false

def isObject : Json → Bool
  | object _ => true
  | _ => false

/-- Whether a value is neither null, false, zero nor empty. -/
def isFilled : Json → Bool
  | null => false
  | bool b => b
  | int n => n != 0
  | float x => x != 0.0
  | string s => !s.isEmpty
  | array items => !items.isEmpty
  | object fields => !fields.isEmpty

/-- The word for the kind of a value. -/
def kind : Json → String
  | null => "NoneType"
  | bool _ => "bool"
  | int _ => "int"
  | float _ => "float"
  | string _ => "str"
  | array _ => "list"
  | object _ => "dict"

/-- A list of texts. -/
def ofTexts (texts : List String) : Json := array (texts.map string)

end Json

end ClassOrder
