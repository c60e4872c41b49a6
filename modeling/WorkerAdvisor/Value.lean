import WorkerAdvisor.Text.Blank
import WorkerAdvisor.Text.Quoted

/-!
Data of unknown shape.

What a caller passes for a parameter is an `Argument`: it is sent as JSON, and so has one of the seven shapes of JSON.
What a record is made of, by a caller or in a file, is a `Value`. Four of its constructors occur only in files: bytes,
calendar values, sets, and `enclosing`, which stands for a collection inside itself. Mappings keep the entries whose
key is a text, in order; the last entry of a name counts.
-/

set_option autoImplicit false

namespace WorkerAdvisor

/-- An argument before it is known to be of the right shape. -/
inductive Argument
  | null
  | boolean (truth : Bool)
  | integer (number : Int)
  | real (number : Float)
  | text (content : String)
  | list (items : List Argument)
  | mapping (entries : List (String × Argument))

namespace Argument

/-- What a message calls an argument of this shape. -/
def typeName : Argument → String
  | null => "NoneType"
  | boolean _ => "bool"
  | integer _ => "int"
  | real _ => "float"
  | text _ => "str"
  | list _ => "list"
  | mapping _ => "dict"

/-- How an empty argument is shown; `none` for one that is not empty. A text is empty if it holds nothing but white
space, and a number if it is zero. -/
def emptyForm? : Argument → Option String
  | null => some "None"
  | boolean false => some "False"
  | integer 0 => some "0"
  | real x => if x == 0 then some (if x.toBits >>> 63 == 1 then "-0.0" else "0.0") else none
  | text s => if s.toList.all Text.isBlank then some (Text.quoted s) else none
  | list [] => some "[]"
  | mapping [] => some "\x7b\x7d"
  | _ => none

end Argument

/-- Data whose shape has yet to be checked. -/
inductive Value
  | null
  | boolean (truth : Bool)
  | integer (number : Int)
  | real (number : Float)
  | text (content : String)
  | bytes (content : List UInt8)
  | calendar (year month day : Nat)
  | list (items : List Value)
  | set (members : List Value)
  | mapping (entries : List (String × Value))
  /-- The collection around this place that carries the anchor. -/
  | enclosing (anchor : String)

namespace Value

/-- The value of a name among the entries of a mapping: the last entry of that name counts. -/
def field? (entries : List (String × Value)) (name : String) : Option Value :=
  entries.reverse.lookup name

end Value

end WorkerAdvisor
