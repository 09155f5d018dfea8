import MonkeyScan.Console.Literal.Expr
import MonkeyScan.Console.Literal.Formatted
import MonkeyScan.Console.Literal.Symbol
import MonkeyScan.Text.PlainLetters

/-!
# The grammar of expressions

A rule has alternatives, which are tried in order, and each is a sequence of elements. What the
elements of an alternative match is built into an item, or turns out to be a fault. Some rules only
look for faults; they are tried when the text is known to be no expression. A fault is at the first
symbol or expression of its alternative, or at the element that is marked as its spot. How deep
rules may get into each other is bounded, and elements that choose or repeat count for this as rules
do.
-/
namespace MonkeyScan.Console.Literal

inductive Rule
  | whole
  | field
  | expressions
  | expression
  | quietExpression
  | yieldExpression
  | starExpressions
  | starExpression
  | starNamedExpressions
  | starNamedExpression
  | assignmentExpression
  | namedExpression
  | disjunction
  | conjunction
  | inversion
  | comparison
  | comparisonTail
  | bitwiseOr
  | bitwiseXor
  | bitwiseAnd
  | shift
  | sum
  | term
  | factor
  | power
  | awaited
  | primary
  | atom
  | group
  | quotedTexts
  | tuple
  | setDisplay
  | table
  | tableEntries
  | tableEntry
  | keyValue
  | loops
  | loop
  | setComprehension
  | generator
  | tableComprehension
  | arguments
  | plainArguments
  | keywords
  | starredExpression
  | keywordOrStarred
  | keywordOrUnpacked
  | targets
  | tupleTargets
  | target
  | starAtomTarget
  | starAtom
  | primaryTarget
  | function
  | parameters
  | parameterList
  | slashParameters
  | slashDefaults
  | starParameters
  | unpackedParameters
  | parameter
  | plainParameter
  | defaultParameter
  | anyParameter
  | defaultValue
  | badExpression
  | badStatement
  | badNamed
  | badGroup
  | badComprehension
  | badTableComprehension
  | badTarget
  | badEntries
  | badEntry
  | badArguments
  | badKeyword
  | badParameters
  | badDefaults
  | badStarParameters
  | badUnpackedParameters
  | badDefault
  deriving DecidableEq, Repr

namespace Rule

/-- Whether a rule, alone in an alternative, only looks for faults. -/
def isProbe : Rule → Bool
  | badExpression | badStatement | badNamed | badGroup | badComprehension
  | badTableComprehension | badTarget | badArguments | badKeyword | badParameters
  | badStarParameters | badUnpackedParameters | badDefault => true
  | _ => false

/-- Whether what a rule matches in a place is remembered. -/
def isKept : Rule → Bool
  | expression | starExpression | disjunction | conjunction | inversion | bitwiseOr | bitwiseXor
  | bitwiseAnd | shift | sum | term | factor | awaited | primary | quotedTexts | arguments
  | target | starAtomTarget | primaryTarget | badNamed => true
  | _ => false

/-- Whether a rule starts with itself, to be matched by growing. It counts twice then. -/
def isGrown : Rule → Bool
  | bitwiseOr | bitwiseXor | bitwiseAnd | shift | sum | term | primary | primaryTarget => true
  | _ => false

end Rule

inductive Element
  | word (text : String)
  | name
  | softName
  | number
  | quotation
  | lineEnd
  | finish
  | rule (r : Rule)
  | many (elements : List Element)
  | some (elements : List Element)
  | separated (element : Element)
  | grown (sequences : List (List Element))
  | optional (elements : List Element)
  | oneOf (sequences : List (List Element))
  | ahead (elements : List Element)
  | notAhead (elements : List Element)
  | spot (element : Element)
  | commit

instance : Coe String Element := ⟨.word⟩

instance : Coe Rule Element := ⟨.rule⟩

/-- What is matched: symbols, expressions where they stand, the column that a fault is at, keywords,
which may be unpacked, and arguments: where they stand, the positional ones and the keywords. -/
inductive Item
  | symbol (s : Symbol)
  | expr (e : Expr) (extent : Extent)
  | spot (column : Nat)
  | list (items : List Item)
  | keyword (unpacking : Bool) (e : Expr)
  | arguments (extent : Extent) (positional : List (Expr × Extent)) (keywords : List (Bool × Expr))
  deriving Inhabited

namespace Item

mutual

/-- The expressions in an item, however deep, and where they stand. -/
def exprs : Item → List (Expr × Extent)
  | expr e extent => [(e, extent)]
  | list items => allExprs items
  | _ => []

def allExprs : List Item → List (Expr × Extent)
  | [] => []
  | i :: more => exprs i ++ allExprs more

end

mutual

def symbols : Item → List Symbol
  | symbol s => [s]
  | list items => allSymbols items
  | _ => []

def allSymbols : List Item → List Symbol
  | [] => []
  | i :: more => symbols i ++ allSymbols more

end

mutual

def keywords : Item → List (Bool × Expr)
  | keyword unpacking e => [(unpacking, e)]
  | list items => allKeywords items
  | _ => []

def allKeywords : List Item → List (Bool × Expr)
  | [] => []
  | i :: more => keywords i ++ allKeywords more

end

mutual

/-- The columns of faults that are marked in an item, however deep. -/
def spots : Item → List Nat
  | spot column => [column]
  | list items => allSpots items
  | _ => []

def allSpots : List Item → List Nat
  | [] => []
  | i :: more => spots i ++ allSpots more

end

mutual

def starts : Item → List Nat
  | symbol s => [s.extent.start]
  | expr _ extent => [extent.start]
  | arguments extent _ _ => [extent.start]
  | list items => allStarts items
  | _ => []

def allStarts : List Item → List Nat
  | [] => []
  | i :: more => starts i ++ allStarts more

end

def firstExpr (items : List Item) : Expr :=
  ((allExprs items).head?.map Prod.fst).getD .nothing

/-- The expressions in some items as parts that may be targets. -/
def parts (items : List Item) : List Expr :=
  (allExprs items).map fun (e, extent) => .placed extent.start e

def firstText (items : List Item) : String :=
  ((allSymbols items).head?.map Symbol.text).getD ""

/-- The column of a fault about some items: the one that is marked, or else the first. -/
def faultColumn (items : List Item) : Nat :=
  (allSpots items ++ allStarts items).headD 0

def passed : Item → List Expr
  | arguments _ positional keywords => positional.map Prod.fst ++ keywords.map Prod.snd
  | i => (exprs i).map Prod.fst

def join : List Item → Item
  | [i] => i
  | items => list items

end Item

/-- What becomes of a matched alternative. A fault has a place, which is a column counted from one,
or else is at the last symbol that was asked for. -/
inductive Verdict
  | item (i : Item)
  | texts (adjacent : List QuotedText)
  | miss
  | fault (f : SyntaxFault) (place : Option Nat)

/-- Where a matched alternative stands, and how many brackets are open behind it. -/
structure Matched where
  extent : Extent
  depth : Nat

/-- An alternative. What it builds may depend on where it stands. -/
structure Alternative where
  elements : List Element
  build : Matched → List Item → Verdict

/-! ## What alternatives build -/

/-- What the elements matched, as it is. -/
def keep (_ : Matched) (items : List Item) : Verdict :=
  .item (Item.join items)

/-- What the first element matched, as it is. -/
def keepFirst (_ : Matched) (items : List Item) : Verdict :=
  .item (items.headD (.list []))

/-- The first expression of the elements, as it is. -/
def inner (_ : Matched) (items : List Item) : Verdict :=
  match Item.allExprs items with
  | (e, extent) :: _ => .item (.expr e extent)
  | [] => .miss

def make (f : List Expr → Expr) (m : Matched) (items : List Item) : Verdict :=
  .item (.expr (f ((Item.allExprs items).map Prod.fst)) m.extent)

def makeOne (f : Expr → Expr) : Matched → List Item → Verdict :=
  make fun es => f (es.headD .nothing)

def compound (kind : Compound) : Matched → List Item → Verdict :=
  make (.compound kind)

def plain (e : Expr) : Matched → List Item → Verdict :=
  make fun _ => e

/-- A fault. -/
def refuse (f : SyntaxFault) (_ : Matched) (items : List Item) : Verdict :=
  .fault f (some (Item.faultColumn items + 1))

/-- A fault about the first expression. -/
def refuseExpr (f : String → SyntaxFault) (m : Matched) (items : List Item) : Verdict :=
  refuse (f (Item.firstExpr items).description) m items

/-- A fault at the end of the first expression. -/
def refuseBehind (f : SyntaxFault) (_ : Matched) (items : List Item) : Verdict :=
  .fault f ((Item.allExprs items).head?.map fun (_, extent) => extent.behind)

/-- A fault at the last symbol that was asked for. -/
def refuseLast (f : SyntaxFault) (_ : Matched) (_ : List Item) : Verdict :=
  .fault f none

def nameOf (m : Matched) (items : List Item) : Verdict :=
  let letters := (Item.firstText items).toList.flatMap plainLetters
  .item (.expr (.name (String.ofList letters)) m.extent)

/-- A number. The place of one that is too long is not known. -/
def numberOf (m : Matched) (items : List Item) : Verdict :=
  let digits := (Item.firstText items).toList
  match checkNumber digits with
  | .ok () => .item (.expr (.number (isImaginary digits)) m.extent)
  | .error f => .fault f (some 0)

def textsOf (_ : Matched) (items : List Item) : Verdict :=
  .texts <| (Item.allSymbols items).filterMap fun s =>
    match s.kind with
    | .quoted q => some q
    | _ => none

def tupleOf (m : Matched) (items : List Item) : Verdict :=
  .item (.expr (.tuple (Item.parts items)) m.extent)

def starredOf (m : Matched) (items : List Item) : Verdict :=
  .item (.expr (.starred ((Item.parts items).headD .nothing)) m.extent)

def unaryOf (m : Matched) (items : List Item) : Verdict :=
  .item (.expr (.unary (Item.firstText items) (Item.firstExpr items)) m.extent)

/-- Operators between operands, from left to right. A single operand is kept. -/
def binaryOf (m : Matched) (items : List Item) : Verdict :=
  match Item.allExprs items with
  | [(e, extent)] => .item (.expr e extent)
  | (first, _) :: operands =>
    let e := (List.zip (Item.allSymbols items) operands).foldl
      (fun left (op, right, _) => .binary op.text left right) first
    .item (.expr e m.extent)
  | [] => .miss

def comparisonOf (m : Matched) (items : List Item) : Verdict :=
  let left := (Item.parts items).headD .nothing
  let others := (Item.allExprs items).tail.map Prod.fst
  .item (.expr (.comparison left (Item.firstText items) others) m.extent)

def suffixed (e : Expr) : Item → Expr
  | .list (.symbol s :: rest) =>
    if s.text = "." then .member e
    else match rest with
      | .list [arguments] :: _ => .call e arguments.passed
      | _ => .call e []
  | generator => .call e generator.passed

/-- An expression with its members and calls, from left to right. One without is kept. -/
def primaryOf (m : Matched) (items : List Item) : Verdict :=
  match items with
  | [first, .list []] => .item first
  | [first, .list suffixes] =>
    .item (.expr (suffixes.foldl suffixed (Item.firstExpr [first])) m.extent)
  | _ => .miss

def keywordOf (unpacking : Bool) (_ : Matched) (items : List Item) : Verdict :=
  .item (.keyword unpacking (.compound .keyword [Item.firstExpr items]))

def argumentsOf (m : Matched) (items : List Item) : Verdict :=
  .item (.arguments m.extent (Item.allExprs items) (Item.allKeywords items))

/-- A missing comma shows only inside brackets, and not where a call lacks its own. -/
def commaMissing (m : Matched) (items : List Item) : Verdict :=
  let lacksCall : Bool := match Item.firstExpr items with
    | .name id => id = "print" || id = "exec"
    | _ => false
  if lacksCall ∨ m.depth = 0 then .miss else refuse .missingComma m items

/-- Two old statements are calls without brackets. -/
def statementOf (m : Matched) (items : List Item) : Verdict :=
  let id := String.ofList ((Item.firstText items).toList.flatMap plainLetters)
  if id = "print" ∨ id = "exec" then refuse (.missingCall id) m items else .miss

/-- A loop needs a target. -/
def targetOf (_ : Matched) (items : List Item) : Verdict :=
  match (Item.parts items).head?.bind (Expr.badTarget? 0) with
  | some (column, e) => .fault (.assignTo e.description) (some (column + 1))
  | none => .miss

/-- A generator among other arguments. -/
def generatorOf (_ : Matched) (items : List Item) : Verdict :=
  match items with
  | .arguments _ (_ :: more) _ :: _ =>
    match more.getLast? with
    | some (_, extent) => .fault .bareGenerator (some (extent.start + 1))
    | none => .miss
  | _ => .miss

/-- Arguments behind keywords. -/
def orderOf (_ : Matched) (items : List Item) : Verdict :=
  match items with
  | .arguments _ _ keywords :: _ =>
    let unpacking := keywords.any Prod.fst
    .fault (if unpacking then .positionalAfterUnpacking else .positionalAfterKeyword) none
  | _ => .miss

/-- A value in the place of a keyword. -/
def constantKeyword (m : Matched) (items : List Item) : Verdict :=
  refuse (.assignTo (Item.firstText items)) m items

/-! ## The rules -/

open Element Rule

def openBrace : String := "\x7b"

def closeBrace : String := "\x7d"

def ranked (operators : List String) (operand : Rule) : List Alternative :=
  [⟨[operand, grown (operators.map fun op => [word op, operand])], binaryOf⟩]

def compared (operator : List Element) : Alternative :=
  ⟨[oneOf [operator ++ [rule bitwiseOr]]], keep⟩

/-- An expression that is not the left side of a naming. -/
def unnamed : Element := oneOf [[assignmentExpression], [expression, notAhead [":="]]]

/-- An argument that is no keyword. -/
def positional : Element := oneOf [[starredExpression], [unnamed, notAhead ["="]]]

def goesOn : Element := ahead [oneOf [["("], ["."]]]

def endsHere : Element := notAhead [oneOf [["("], ["."]]]

def operatorAlternatives : Rule → List Alternative
  | whole => [⟨[expressions, many [lineEnd], finish], keep⟩]
  | field => [⟨[starExpressions], keep⟩]
  | expressions => [
      ⟨[expression, some [",", expression], optional [","]], tupleOf⟩,
      ⟨[expression, ","], tupleOf⟩,
      ⟨[expression], keep⟩]
  | expression => [
      ⟨[badExpression], keep⟩,
      ⟨[badStatement], keep⟩,
      ⟨[disjunction, "if", disjunction, "else", expression], compound .conditional⟩,
      ⟨[disjunction], keep⟩,
      ⟨[function], keep⟩]
  | quietExpression => [
      ⟨[disjunction, "if", disjunction, "else", expression], compound .conditional⟩,
      ⟨[disjunction], keep⟩,
      ⟨[function], keep⟩]
  | yieldExpression => [
      ⟨["yield", "from", expression], compound .yielded⟩,
      ⟨["yield", optional [starExpressions]], compound .yielded⟩]
  | starExpressions => [
      ⟨[starExpression, some [",", starExpression], optional [","]], tupleOf⟩,
      ⟨[starExpression, ","], tupleOf⟩,
      ⟨[starExpression], keep⟩]
  | starExpression => [
      ⟨["*", bitwiseOr], starredOf⟩,
      ⟨[expression], keep⟩]
  | starNamedExpressions => [⟨[separated starNamedExpression, optional [","]], keep⟩]
  | starNamedExpression => [
      ⟨["*", bitwiseOr], starredOf⟩,
      ⟨[namedExpression], keep⟩]
  | assignmentExpression => [⟨[name, ":=", commit, expression], compound .named⟩]
  | namedExpression => [
      ⟨[assignmentExpression], keep⟩,
      ⟨[badNamed], keep⟩,
      ⟨[expression, notAhead [":="]], keep⟩]
  | disjunction => [
      ⟨[conjunction, some ["or", conjunction]], compound .logical⟩,
      ⟨[conjunction], keep⟩]
  | conjunction => [
      ⟨[inversion, some ["and", inversion]], compound .logical⟩,
      ⟨[inversion], keep⟩]
  | inversion => [⟨["not", inversion], unaryOf⟩, ⟨[comparison], keep⟩]
  | comparison => [
      ⟨[bitwiseOr, some [comparisonTail]], comparisonOf⟩,
      ⟨[bitwiseOr], keep⟩]
  | comparisonTail => [
      compared ["=="], compared [oneOf [["!="]]], compared ["<="], compared ["<"], compared [">="],
      compared [">"], compared ["not", "in"], compared ["in"], compared ["is", "not"],
      compared ["is"]]
  | bitwiseOr => ranked ["|"] bitwiseXor
  | bitwiseXor => ranked ["^"] bitwiseAnd
  | bitwiseAnd => ranked ["&"] shift
  | shift => ranked ["<<", ">>"] sum
  | sum => ranked ["+", "-"] term
  | term => ranked ["*", "/", "//", "%", "@"] factor
  | factor => [
      ⟨["+", factor], unaryOf⟩,
      ⟨["-", factor], unaryOf⟩,
      ⟨["~", factor], unaryOf⟩,
      ⟨[power], keep⟩]
  | power => [⟨[awaited, "**", factor], binaryOf⟩, ⟨[awaited], keep⟩]
  | awaited => [⟨["await", primary], compound .awaited⟩, ⟨[primary], keep⟩]
  | primary => [
      ⟨[atom, grown [[".", name], [generator], ["(", optional [arguments], ")"]]], primaryOf⟩]
  | _ => []

def atomAlternatives : Rule → List Alternative
  | atom => [
      ⟨[name], nameOf⟩,
      ⟨["True"], plain (.truth true)⟩,
      ⟨["False"], plain (.truth false)⟩,
      ⟨["None"], plain .nothing⟩,
      ⟨[ahead [quotation], quotedTexts], keep⟩,
      ⟨[number], numberOf⟩,
      ⟨[ahead ["("], oneOf [[tuple], [group], [generator]]], keep⟩,
      ⟨[ahead [openBrace],
          oneOf [[table], [setDisplay], [tableComprehension], [setComprehension]]], keep⟩,
      ⟨["..."], plain .ellipsis⟩]
  | group => [
      ⟨["(", oneOf [[yieldExpression], [namedExpression]], ")"], inner⟩,
      ⟨[badGroup], keep⟩]
  | quotedTexts => [⟨[some [quotation]], textsOf⟩]
  | tuple => [
      ⟨["(", optional [starNamedExpression, ",", optional [starNamedExpressions]], ")"],
        tupleOf⟩]
  | setDisplay => [⟨[openBrace, starNamedExpressions, closeBrace], make .set⟩]
  | table => [
      ⟨[openBrace, optional [tableEntries], closeBrace], make .table⟩,
      ⟨[openBrace, badEntries, closeBrace], keep⟩]
  | tableEntries => [⟨[separated tableEntry, optional [","]], keep⟩]
  | tableEntry => [
      ⟨["**", bitwiseOr], make fun es => .unpacked (es.headD .nothing)⟩,
      ⟨[keyValue], keep⟩]
  | keyValue => [
      ⟨[expression, ":", expression],
        make fun es => .entry (es.headD .nothing) (es.getLastD .nothing)⟩]
  | loops => [⟨[some [loop]], keep⟩]
  | loop => [
      ⟨["async", "for", targets, "in", commit, disjunction, many ["if", disjunction]],
        compound .loop⟩,
      ⟨["for", targets, "in", commit, disjunction, many ["if", disjunction]], compound .loop⟩,
      ⟨[badTarget], keep⟩]
  | setComprehension => [
      ⟨[openBrace, namedExpression, loops, closeBrace], compound .setComprehension⟩,
      ⟨[badComprehension], keep⟩]
  | generator => [
      ⟨["(", unnamed, loops, ")"], compound .generator⟩,
      ⟨[badComprehension], keep⟩]
  | tableComprehension => [
      ⟨[openBrace, keyValue, loops, closeBrace], compound .tableComprehension⟩,
      ⟨[badTableComprehension], keep⟩]
  | arguments => [
      ⟨[plainArguments, optional [","], ahead [")"]], keepFirst⟩,
      ⟨[badArguments], keep⟩]
  | plainArguments => [
      ⟨[separated positional, optional [",", keywords]], argumentsOf⟩,
      ⟨[keywords], argumentsOf⟩]
  | keywords => [
      ⟨[separated keywordOrStarred, ",", separated keywordOrUnpacked], keep⟩,
      ⟨[separated keywordOrStarred], keep⟩,
      ⟨[separated keywordOrUnpacked], keep⟩]
  | starredExpression => [
      ⟨["*", expression], starredOf⟩]
  | keywordOrStarred => [
      ⟨[badKeyword], keep⟩,
      ⟨[name, "=", expression], keywordOf false⟩,
      ⟨[starredExpression], keep⟩]
  | keywordOrUnpacked => [
      ⟨[badKeyword], keep⟩,
      ⟨[name, "=", expression], keywordOf false⟩,
      ⟨["**", expression], keywordOf true⟩]
  | _ => []

def bindingAlternatives : Rule → List Alternative
  | targets => [
      ⟨[target, notAhead [","]], keep⟩,
      ⟨[target, many [",", target], optional [","]], tupleOf⟩]
  | tupleTargets => [
      ⟨[target, some [",", target], optional [","]], keep⟩,
      ⟨[target, ","], keep⟩]
  | target => [⟨["*", oneOf [[notAhead ["*"], target]]], starredOf⟩, ⟨[starAtomTarget], keep⟩]
  | starAtomTarget => [
      ⟨[primaryTarget, ".", name, endsHere], makeOne .member⟩,
      ⟨[starAtom], keep⟩]
  | starAtom => [
      ⟨[name], nameOf⟩,
      ⟨["(", starAtomTarget, ")"], inner⟩,
      ⟨["(", optional [tupleTargets], ")"], tupleOf⟩]
  | primaryTarget => [
      ⟨[atom, goesOn, grown [[".", name, goesOn], [generator, goesOn],
        ["(", optional [arguments], ")", goesOn]]], primaryOf⟩]
  | function => [⟨["lambda", optional [parameters], ":", expression], compound .function⟩]
  | parameters => [⟨[badParameters], keep⟩, ⟨[parameterList], keep⟩]
  | parameterList => [
      ⟨[slashParameters, many [plainParameter], many [defaultParameter],
        optional [starParameters]], compound .parameters⟩,
      ⟨[slashDefaults, many [defaultParameter], optional [starParameters]], compound .parameters⟩,
      ⟨[some [plainParameter], many [defaultParameter], optional [starParameters]],
        compound .parameters⟩,
      ⟨[some [defaultParameter], optional [starParameters]], compound .parameters⟩,
      ⟨[starParameters], compound .parameters⟩]
  | slashParameters => [
      ⟨[some [plainParameter], "/", ","], keep⟩,
      ⟨[some [plainParameter], "/", ahead [":"]], keep⟩]
  | slashDefaults => [
      ⟨[many [plainParameter], some [defaultParameter], "/", ","], keep⟩,
      ⟨[many [plainParameter], some [defaultParameter], "/", ahead [":"]], keep⟩]
  | starParameters => [
      ⟨[badStarParameters], keep⟩,
      ⟨["*", plainParameter, many [anyParameter], optional [unpackedParameters]], keep⟩,
      ⟨["*", ",", some [anyParameter], optional [unpackedParameters]], keep⟩,
      ⟨[unpackedParameters], keep⟩]
  | unpackedParameters => [⟨[badUnpackedParameters], keep⟩, ⟨["**", plainParameter], keep⟩]
  | parameter => [⟨[name], nameOf⟩]
  | plainParameter => [⟨[parameter, ","], inner⟩, ⟨[parameter, ahead [":"]], inner⟩]
  | defaultParameter => [
      ⟨[parameter, defaultValue, ","], keep⟩,
      ⟨[parameter, defaultValue, ahead [":"]], keep⟩]
  | anyParameter => [
      ⟨[parameter, optional [defaultValue], ","], keep⟩,
      ⟨[parameter, optional [defaultValue], ahead [":"]], keep⟩]
  | defaultValue => [⟨["=", expression], keep⟩, ⟨[badDefault], keep⟩]
  | _ => []

def faultAlternatives : Rule → List Alternative
  | badExpression => [
      ⟨[notAhead [oneOf [[name, quotation], [softName]]], disjunction, quietExpression],
        commaMissing⟩,
      ⟨[disjunction, "if", disjunction, notAhead [oneOf [["else"], [":"]]]],
        refuse .missingElse⟩]
  | badStatement => [⟨[name, notAhead ["("], starExpressions], statementOf⟩]
  | badNamed => [
      ⟨[expression, ":=", expression], refuseExpr .nameInstead⟩,
      ⟨[name, "=", bitwiseOr, notAhead [oneOf [["="], [":="]]]], refuse .assignInstead⟩,
      ⟨[notAhead [oneOf [[tuple], [generator], ["True"], ["None"], ["False"]]], bitwiseOr, "=",
        bitwiseOr, notAhead [oneOf [["="], [":="]]]], refuseExpr .assignHere⟩]
  | badGroup => [
      ⟨["(", spot starredExpression, ")"], refuse .starredGroup⟩,
      ⟨["(", spot "**", expression, ")"], refuse .doubleStarredGroup⟩]
  | badComprehension => [
      ⟨[oneOf [["("], [openBrace]], spot starredExpression, loops],
        refuse .starredComprehension⟩,
      ⟨[openBrace, spot starNamedExpression, ",", starNamedExpressions, loops],
        refuse .bareTarget⟩,
      ⟨[openBrace, spot starNamedExpression, ",", loops], refuse .bareTarget⟩]
  | badTableComprehension => [
      ⟨[openBrace, spot "**", bitwiseOr, loops, closeBrace], refuse .unpackedComprehension⟩]
  | badTarget => [⟨[optional ["async"], "for", starExpressions], targetOf⟩]
  | badEntries => [
      ⟨[separated tableEntry, ",", badEntry], keep⟩,
      ⟨[expression, ":", spot "*", bitwiseOr], refuse .starredValue⟩,
      ⟨[expression, spot ":", ahead [oneOf [[closeBrace], [","]]]], refuse .missingKeyValue⟩]
  | badEntry => [
      ⟨[expression, notAhead [":"]], refuseBehind .missingKeyColon⟩,
      ⟨[expression, ":", spot "*", bitwiseOr], refuse .starredValue⟩,
      ⟨[expression, spot ":", ahead [oneOf [[closeBrace], [","]]]], refuse .missingKeyValue⟩]
  | badArguments => [
      ⟨[plainArguments, ",", "*"], refuse .iterableAfterUnpacking⟩,
      ⟨[expression, loops, ",", optional [oneOf [[plainArguments], [expression, loops]]]],
        refuse .bareGenerator⟩,
      ⟨[name, "=", expression, loops], refuse .assignInstead⟩,
      ⟨[plainArguments, loops], generatorOf⟩,
      ⟨[plainArguments, ",", spot expression, loops], refuse .bareGenerator⟩,
      ⟨[plainArguments, ",", plainArguments], orderOf⟩]
  | badKeyword => [
      ⟨[oneOf [["True"], ["False"], ["None"]], "="], constantKeyword⟩,
      ⟨[name, "=", expression, loops], refuse .assignInstead⟩,
      ⟨[notAhead [name, "="], expression, "="], refuse .assignArgument⟩]
  | _ => []

/-- The alternatives that look for faults in the parameters of functions. -/
def parameterFaultAlternatives : Rule → List Alternative
  | badParameters => [
      ⟨[many [plainParameter], badDefaults, spot plainParameter], refuse .defaultNotLast⟩,
      ⟨[many [plainParameter], spot "(", separated parameter, optional [","], ")"],
        refuse .bracketedParameters⟩,
      ⟨["/", ","], refuse .nothingBeforeSlash⟩,
      ⟨[oneOf [[slashParameters], [slashDefaults]], many [anyParameter], spot "/"],
        refuse .secondSlash⟩,
      ⟨[optional [oneOf [[slashParameters], [slashDefaults]]], many [anyParameter], "*",
        oneOf [[","], [plainParameter]], many [anyParameter], spot "/"], refuse .slashAfterStar⟩,
      ⟨[some [anyParameter], "/", spot "*"], refuse .slashBesideStar⟩]
  | badDefaults => [⟨[slashDefaults], keep⟩, ⟨[some [defaultParameter]], keep⟩]
  | badStarParameters => [
      ⟨["*", oneOf [[":"], [",", oneOf [[":"], ["**"]]]]], refuseLast .nothingAfterStar⟩,
      ⟨["*", parameter, spot "="], refuse .starDefault⟩,
      ⟨["*", oneOf [[plainParameter], [","]], many [anyParameter], spot "*",
        oneOf [[plainParameter], [","]]], refuse .secondStar⟩]
  | badUnpackedParameters => [
      ⟨["**", parameter, spot "="], refuse .doubleStarDefault⟩,
      ⟨["**", parameter, ",", spot parameter], refuse .afterDoubleStar⟩,
      ⟨["**", parameter, ",", spot (oneOf [["*"], ["**"], ["/"]])], refuse .afterDoubleStar⟩]
  | badDefault => [⟨["=", ahead [oneOf [[")"], [","]]]], refuse .missingDefault⟩]
  | _ => []

def alternatives (r : Rule) : List Alternative :=
  operatorAlternatives r ++ atomAlternatives r ++ bindingAlternatives r ++ faultAlternatives r ++
    parameterFaultAlternatives r

end MonkeyScan.Console.Literal
