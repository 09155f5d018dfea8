import MonkeyScan.Number.Shortest
import MonkeyScan.Text.Quoted

/-!
# JSON values

Whole numbers have any size and stay apart from doubles. The fields of an object keep the order
in which their names first appeared, and a name has one value, the last one given.
-/
namespace MonkeyScan

/-- A JSON value. -/
inductive Json
  | null
  | bool (b : Bool)
  | int (n : Int)
  | float (x : Binary64)
  | str (s : String)
  | arr (items : List Json)
  | obj (fields : List (String × Json))
  deriving Repr, Inhabited

namespace Json

/-- Give a name its value, in its old place if it has one and at the end otherwise. -/
def put (fields : List (String × Json)) (name : String) (value : Json) : List (String × Json) :=
  match fields with
  | [] => [(name, value)]
  | (n, v) :: more => if n = name then (n, value) :: more else (n, v) :: put more name value

/-- The object with the given fields in the order of a text, where a name may recur. -/
def ofFields (fields : List (String × Json)) : Json :=
  .obj (fields.foldl (fun acc f => put acc f.1 f.2) [])

/-- The value of a name in an object. -/
def field? (name : String) : Json → Option Json
  | .obj fields => fields.lookup name
  | _ => none

/-- The name of a value's type, as messages give it. -/
def typeName : Json → String
  | .null => "NoneType"
  | .bool _ => "bool"
  | .int _ => "int"
  | .float _ => "float"
  | .str _ => "str"
  | .arr _ => "list"
  | .obj _ => "dict"

mutual

/-- The form in which messages show a value: texts quoted, collections in brackets. -/
def display : Json → String
  | .null => "None"
  | .bool b => if b then "True" else "False"
  | .int n => toString n
  | .float x => x.display
  | .str s => quoted s
  | .arr items => "[" ++ ", ".intercalate (displayItems items) ++ "]"
  | .obj fields => "\x7b" ++ ", ".intercalate (displayFields fields) ++ "\x7d"

def displayItems : List Json → List String
  | [] => []
  | v :: more => display v :: displayItems more

def displayFields : List (String × Json) → List String
  | [] => []
  | (name, v) :: more => (quoted name ++ ": " ++ display v) :: displayFields more

end

end Json

end MonkeyScan
