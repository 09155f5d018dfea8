import MonkeyScan.Console.Literal.Reader
import MonkeyScan.Text.Quoted
import MonkeyScan.Text.Strip
import MonkeyScan.Text.Words

/-!
# Actions

The parameters of an action name a handler and pass it a value, which stands in parentheses behind
the name. A name on its own passes nothing. Parameters that are no such call are a value by
themselves. The value must be written as a literal, and nothing else is asked of it.
-/
namespace MonkeyScan.Console

/-- Why the parameters of an action are refused. -/
inductive ActionFault
  | unreadable (literal parameters : List Char) (fault : Literal.ReadFault)
  | noValue (parameters : List Char) (fault : Literal.LiteralFault)
  deriving DecidableEq, Repr

def ActionFault.message : ActionFault → String
  | .unreadable literal parameters (.fault fault) =>
    "error parsing " ++ String.ofList (quotedChars literal) ++ " in " ++
      String.ofList (quotedChars parameters) ++ "; " ++ fault.message
  | .unreadable _ parameters fault =>
    "error parsing " ++ String.ofList (quotedChars parameters) ++ "; " ++ fault.message
  | .noValue parameters fault =>
    "error parsing " ++ String.ofList (quotedChars parameters) ++ "; " ++ fault.message

def isHandlerChar (c : Char) : Bool :=
  isWordChar c || c == '.'

/-- What stands behind the name of a handler: nothing, or parentheses that close at the end of the
text and hold no line end. There is none if the text is no call. -/
def callPart? (s : List Char) : Option (List Char) :=
  match s.dropWhile isHandlerChar with
  | [] => some []
  | '(' :: rest =>
    if rest.getLast? = some ')' ∧ '\n' ∉ rest then some ('(' :: rest) else none
  | _ :: _ => none

def passedLiteral (parameters : List Char) : List Char :=
  let s := strip parameters
  match callPart? s with
  | some [] => ['(', ')']
  | some call => call
  | none => s

/-- Judge the parameters of an action. Having none is no fault. -/
def checkAction (parameters : List Char) : Except ActionFault Unit :=
  if parameters = [] then .ok ()
  else do
    let literal := passedLiteral parameters
    let expr ← (Literal.readExpr literal).mapError (.unreadable literal parameters)
    let _ ← expr.value.mapError (.noValue parameters)

end MonkeyScan.Console
