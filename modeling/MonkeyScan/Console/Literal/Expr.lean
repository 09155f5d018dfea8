/-!
# Expressions and the values they write

An expression is a tree, kept as far as its kind, its operators and its parts matter; parts that may
be targets of a loop keep the column that they start at. A literal writes a value: a constant, a
signed or complex number, a tuple, a set or a table. Members of a set and keys of a table must not
be able to change, so they are and hold no set and no table.
-/
namespace MonkeyScan.Console.Literal

/-- What an expression is of which only the parts matter. The last ones stand in other expressions
only. -/
inductive Compound
  | logical
  | conditional
  | named
  | function
  | generator
  | setComprehension
  | tableComprehension
  | yielded
  | awaited
  | loop
  | keyword
  | parameters
  | field
  deriving DecidableEq, Repr

def Compound.description : Compound → String
  | .logical => "expression"
  | .conditional => "conditional expression"
  | .named => "named expression"
  | .function => "lambda"
  | .generator => "generator expression"
  | .setComprehension => "set comprehension"
  | .tableComprehension => "dict comprehension"
  | .yielded => "yield expression"
  | .awaited => "await expression"
  | .loop | .keyword | .parameters | .field => ""

/-- An expression. A table has entries with a key, or a whole table in the place of an entry. -/
inductive Expr
  | nothing
  | truth (b : Bool)
  | ellipsis
  | number (imaginary : Bool)
  | text
  | formatted (parts : List Expr)
  | name (id : String)
  | tuple (items : List Expr)
  | set (items : List Expr)
  | table (entries : List Expr)
  | entry (key value : Expr)
  | unpacked (value : Expr)
  | unary (op : String) (operand : Expr)
  | binary (op : String) (left right : Expr)
  | comparison (left : Expr) (op : String) (others : List Expr)
  | starred (operand : Expr)
  | call (function : Expr) (arguments : List Expr)
  | member (object : Expr)
  | compound (kind : Compound) (parts : List Expr)
  | placed (column : Nat) (e : Expr)
  deriving Repr, Inhabited

namespace Expr

def description : Expr → String
  | nothing => "None"
  | truth true => "True"
  | truth false => "False"
  | ellipsis => "ellipsis"
  | number _ | text => "literal"
  | formatted _ => "f-string expression"
  | name _ => "name"
  | tuple _ => "tuple"
  | set _ => "set display"
  | table _ => "dict literal"
  | entry _ _ | unpacked _ => "dict literal"
  | unary _ _ | binary _ _ _ => "expression"
  | comparison _ _ _ => "comparison"
  | starred _ => "starred"
  | call _ _ => "function call"
  | member _ => "attribute"
  | compound kind _ => kind.description
  | placed _ e => description e

mutual

/-- The part of an expression that keeps it from being the target of a loop, and the column of the
part, given that of the whole. -/
def badTarget? (column : Nat) : Expr → Option (Nat × Expr)
  | name _ | member _ => none
  | placed column e => badTarget? column e
  | tuple items => firstBadTarget? column items
  | starred operand => badTarget? column operand
  | comparison left op _ => if op = "in" then badTarget? column left else none
  | e => some (column, e)

def firstBadTarget? (column : Nat) : List Expr → Option (Nat × Expr)
  | [] => none
  | e :: more =>
    match badTarget? column e with
    | some part => some part
    | none => firstBadTarget? column more

end

mutual

/-- How many expressions are in each other. An entry of a table is none by itself. -/
def height : Expr → Nat
  | nothing | truth _ | ellipsis | number _ | text | name _ => 1
  | formatted parts | tuple parts | set parts | table parts | compound _ parts =>
    highest parts + 1
  | entry key value => max (height key) (height value)
  | unpacked value => height value
  | unary _ operand | starred operand | member operand => height operand + 1
  | binary _ left right => max (height left) (height right) + 1
  | comparison left _ others => max (height left) (highest others) + 1
  | call function arguments => max (height function) (highest arguments) + 1
  | placed _ e => height e

def highest : List Expr → Nat
  | [] => 0
  | e :: more => max (height e) (highest more)

end

end Expr

/-- The value that a literal writes, as far as it matters whether it can change. -/
inductive Value
  | constant
  | tuple (items : List Value)
  | set
  | table
  deriving Repr, Inhabited

/-- Why an expression writes no value. -/
inductive LiteralFault
  | changeable (kind : String)
  | noKey
  | noLiteral
  deriving DecidableEq, Repr

def LiteralFault.message : LiteralFault → String
  | .changeable kind => "unhashable type: '" ++ kind ++ "'"
  | .noKey => "malformed node or string: None"
  | .noLiteral => "malformed node or string"

mutual

def Value.changeable? : Value → Option String
  | .constant => none
  | .tuple items => Value.firstChangeable? items
  | .set => some "set"
  | .table => some "dict"

def Value.firstChangeable? : List Value → Option String
  | [] => none
  | v :: more =>
    match v.changeable? with
    | some kind => some kind
    | none => Value.firstChangeable? more

end

def Value.fix (v : Value) : Except LiteralFault Unit :=
  match v.changeable? with
  | some kind => .error (.changeable kind)
  | none => .ok ()

namespace Expr

/-- Whether a number is imaginary; other expressions are none. -/
def number? : Expr → Option Bool
  | number imaginary => some imaginary
  | _ => none

/-- Whether a number that may have a sign is imaginary. -/
def signedNumber? : Expr → Option Bool
  | unary op operand => if op = "+" ∨ op = "-" then operand.number? else none
  | e => e.number?

/-- Whether an expression is a complex number, a real part and an imaginary part. -/
def isComplex : Expr → Bool
  | binary op left right =>
    (op = "+" || op = "-") && left.signedNumber? = some false && right.number? = some true
  | _ => false

mutual

/-- The value that an expression writes. -/
def value : Expr → Except LiteralFault Value
  | nothing | truth _ | ellipsis | number _ | text => .ok .constant
  | tuple items => (values items).map .tuple
  | set items => do
    members items
    return .set
  | table entries => do
    members entries
    return .table
  | placed _ e => value e
  | call (name id) [] => if id = "set" then .ok .set else .error .noLiteral
  | e => if e.signedNumber?.isSome ∨ e.isComplex then .ok .constant else .error .noLiteral

/-- The values that expressions write. -/
def values : List Expr → Except LiteralFault (List Value)
  | [] => .ok []
  | e :: more => do
    let v ← value e
    return v :: (← values more)

/-- Judge the members of a set or the entries of a table, one after the other. -/
def members : List Expr → Except LiteralFault Unit
  | [] => .ok ()
  | entry key content :: more => do
    let v ← value key
    let _ ← value content
    v.fix
    members more
  | unpacked _ :: _ => .error .noKey
  | e :: more => do
    (← value e).fix
    members more

end

end Expr

end MonkeyScan.Console.Literal
