import MonkeyScan.Console.Literal.Grammar
import MonkeyScan.Text.Lines

/-!
# Reading expressions

A text is read by the grammar, first as it is and, if it is no expression, once more by the rules
that look for faults. Symbols are asked for one by one, so that a fault among them counts only where
the reading gets there. A fault of the grammar gives way to one that the rest of the symbols holds.
The expressions in formatted text are read on their own, in brackets.
-/
namespace MonkeyScan.Console.Literal

/-- The symbols to read, the column that they start at, why they end if that is not the end of the
text, and how adjacent quoted texts are read. -/
structure Given where
  symbols : Array Symbol
  origin : Nat
  stop : Option Stop
  texts : List QuotedText → Except TextFault Expr

/-- What is remembered while reading: what rules matched where, and how many symbols have been
asked for. -/
structure Memory where
  kept : Array (List (Rule × Option (Item × Nat)))
  reached : Nat

abbrev Reading := ExceptT ReadFault (StateM Memory)

/-- Whether elements match: what they matched and the place behind it, or no match, which may rule
out the other alternatives as well. -/
inductive Match
  | found (items : List Item) (next : Nat)
  | missed (final : Bool)

namespace Given

def ask (g : Given) (place : Nat) : Reading (Option Symbol) := do
  modify fun m => { m with reached := max m.reached (place + 1) }
  match g.symbols[place]?, g.stop with
  | some s, _ => return some s
  | none, some stop => throw (.fault stop.fault)
  | none, none => return none

def symbol (g : Given) (place : Nat) (fits : Symbol → Bool) : Reading Match := do
  match ← g.ask place with
  | some s => return if fits s then .found [.symbol s] (place + 1) else .missed false
  | none => return .missed false

def matched (g : Given) (place next : Nat) : Matched :=
  let start := (g.symbols[place]?.map fun s => s.extent.start).getD 0
  let behind := (g.symbols[next - 1]?.map fun s => s.extent.behind).getD 0
  ⟨⟨start, behind⟩, (g.symbols[next - 1]?.map Symbol.depth).getD 0⟩

def lastAsked? (g : Given) (reached : Nat) : Option Symbol :=
  g.symbols[reached - 1]?

def placeOf (s : Option Symbol) : Nat :=
  (s.map fun s => s.extent.start + 1).getD 0

/-- A fault at a place, or at the last symbol that was asked for. It must not be left of where the
symbols start. -/
def faultAt (g : Given) (reached : Nat) (fault : SyntaxFault) (place : Option Nat) : ReadFault :=
  if place.getD (placeOf (g.lastAsked? reached)) < g.origin then .unplaced else .fault fault

/-- Refuse to read on, for a fault at a place or at the last symbol that was asked for. -/
def refuseAt {α : Type} (g : Given) (fault : SyntaxFault) (place : Option Nat) : Reading α := do
  throw (g.faultAt (← get).reached fault place)

end Given

def remembered? (r : Rule) (place : Nat) : Reading (Option (Option (Item × Nat))) := do
  let m ← get
  return ((m.kept[place]?).getD []).find? (fun entry => entry.1 = r) |>.map (·.2)

def remember (r : Rule) (place : Nat) (result : Option (Item × Nat)) : Reading Unit :=
  modify fun m => { m with kept := m.kept.modify place ((r, result) :: ·) }

/-- How many rules may be in each other. -/
def deepestRule : Nat := 6000

/-- Go one rule deeper, given how many more there may be. -/
def enter : Nat → Reading Nat
  | 0 => throw .exhausted
  | room + 1 => return room

/-- The words that are names except where the notation needs them. -/
def softWords : List String := ["_", "case", "match"]

/-- Whether a name may be on its way to one of these words. -/
def startsSoftWord (name : String) : Bool :=
  softWords.any fun word => name.toList.isPrefixOf word.toList

/-- Several elements as one, which counts as a rule. -/
def grouped : List Element → List Element
  | [e] => [e]
  | elements => [.oneOf [elements]]

mutual

/-- Match one element at a place. The numbers are how many more rules may be in each other and a
bound for the steps. -/
def readElement (g : Given) (probing : Bool) (room fuel : Nat) (element : Element) (place : Nat) :
    Reading Match :=
  match fuel with
  | 0 => return .missed false
  | fuel + 1 =>
    match element with
    | .word text => g.symbol place fun s => (s.kind = .word || s.kind = .mark) && s.text = text
    | .name => g.symbol place fun s => s.kind = .name
    | .softName => g.symbol place fun s => s.kind = .name && startsSoftWord s.text
    | .number => g.symbol place fun s => s.kind = .number
    | .quotation => g.symbol place fun s =>
      match s.kind with
      | .quoted _ => true
      | _ => false
    | .lineEnd => g.symbol place fun s => s.kind = .lineEnd
    | .finish => g.symbol place fun s => s.kind = .finish
    | .rule r => do
      match ← readRule g probing room fuel r place with
      | some (item, next) => return .found [item] next
      | none => return .missed false
    | .many elements => do
      let room ← enter room
      let (items, next) ← readMany g probing room fuel [grouped elements] place
      return .found [.list items] next
    | .some elements => do
      let room ← enter room
      match ← readMany g probing room fuel [grouped elements] place with
      | ([], _) => return .missed false
      | (items, next) => return .found [.list items] next
    | .separated element => do
      let room ← enter room
      match ← readElement g probing room fuel element place with
      | .found first next =>
        let room ← enter room
        let (more, last) ← readMany g probing room fuel [[.word ",", element]] next
        return .found [.list (Item.join first :: more)] last
      | .missed _ => return .missed false
    | .grown sequences => do
      let (items, next) ← readMany g probing room fuel sequences place
      return .found [.list items] next
    | .optional elements => do
      match ← readElements g probing room fuel (grouped elements) place with
      | .found items next => return .found [.list [Item.join items]] next
      | .missed _ => return .found [.list []] place
    | .oneOf sequences => do
      let room ← enter room
      readFirst g probing room fuel sequences place
    | .ahead elements => do
      match ← readElements g probing room fuel (grouped elements) place with
      | .found _ _ => return .found [] place
      | .missed _ => return .missed false
    | .notAhead elements => do
      match ← readElements g probing room fuel (grouped elements) place with
      | .found _ _ => return .missed false
      | .missed _ => return .found [] place
    | .spot element => do
      match ← readElement g probing room fuel element place with
      | .found items next => return .found [.spot (Item.faultColumn items)] next
      | result => return result
    | .commit => return .found [] place

def readElements (g : Given) (probing : Bool) (room fuel : Nat) (elements : List Element)
    (place : Nat) : Reading Match :=
  match fuel, elements with
  | 0, _ => return .missed false
  | _, [] => return .found [] place
  | fuel + 1, .commit :: more => do
    match ← readElements g probing room fuel more place with
    | .missed _ => return .missed true
    | result => return result
  | fuel + 1, element :: more => do
    match ← readElement g probing room fuel element place with
    | .found items next =>
      match ← readElements g probing room fuel more next with
      | .found rest last => return .found (items ++ rest) last
      | result => return result
    | result => return result

/-- Match the first sequence that matches, as often as one does. -/
def readMany (g : Given) (probing : Bool) (room fuel : Nat) (sequences : List (List Element))
    (place : Nat) : Reading (List Item × Nat) :=
  match fuel with
  | 0 => return ([], place)
  | fuel + 1 => do
    match ← readFirst g probing room fuel sequences place with
    | .found items next =>
      let (more, last) ← readMany g probing room fuel sequences next
      return (Item.join items :: more, last)
    | .missed _ => return ([], place)

def readFirst (g : Given) (probing : Bool) (room fuel : Nat) (sequences : List (List Element))
    (place : Nat) : Reading Match :=
  match fuel, sequences with
  | 0, _ => return .missed false
  | _, [] => return .missed false
  | fuel + 1, elements :: more => do
    match ← readElements g probing room fuel elements place with
    | .found items next => return .found [Item.join items] next
    | .missed _ => readFirst g probing room fuel more place

def readRule (g : Given) (probing : Bool) (room fuel : Nat) (r : Rule) (place : Nat) :
    Reading (Option (Item × Nat)) :=
  match fuel with
  | 0 => return none
  | fuel + 1 => do
    let room ← enter room
    if let some result := ← remembered? r place then
      return result
    let room ← if r.isGrown then enter room else pure room
    let probing := probing && r ≠ .quietExpression
    let result ← readAlternatives g probing room fuel (alternatives r) place
    if r.isKept then remember r place result
    return result

/-- Match the first alternative that matches and build what it stands for. -/
def readAlternatives (g : Given) (probing : Bool) (room fuel : Nat) (choices : List Alternative)
    (place : Nat) : Reading (Option (Item × Nat)) :=
  match fuel, choices with
  | 0, _ => return none
  | _, [] => return none
  | fuel + 1, choice :: more => do
    let isProbe := match choice.elements with
      | [.rule r] => r.isProbe
      | _ => false
    if isProbe && !probing then readAlternatives g probing room fuel more place
    else
      match ← readElements g probing room fuel choice.elements place with
      | .found items next =>
        let m := g.matched place next
        match choice.build m items with
        | .item i => return some (i, next)
        | .texts adjacent =>
          match g.texts adjacent with
          | .ok e => return some (.expr e m.extent, next)
          | .error (.own fault spot) => g.refuseAt fault spot
          | .error (.nested fault) => throw fault
        | .miss => return none
        | .fault fault spot => g.refuseAt fault spot
      | .missed true => return none
      | .missed false => readAlternatives g probing room fuel more place

end

namespace Given

/-- A bound for the steps of a reading in each other. -/
def bound (g : Given) : Nat :=
  (g.symbols.size + deepestRule) * 100

/-- Read everything by a rule, from what has been reached before. -/
def read (g : Given) (top : Rule) (probing : Bool) (reached : Nat) :
    Except ReadFault (Option Expr) × Nat :=
  let memory : Memory := ⟨Array.replicate (g.symbols.size + 1) [], reached⟩
  let (result, after) := (readRule g probing deepestRule g.bound top 0).run.run memory
  (result.map fun found => found.map fun (item, _) => Item.firstExpr [item], after.reached)

/-- The fault to report for one of the grammar: what the rest of the symbols holds counts more. A
bracket that is never closed does so only from an earlier line. -/
def outrank (g : Given) (reached : Nat) (fault : ReadFault) : ReadFault :=
  match g.stop with
  | none => fault
  | some stop =>
    if stop.atOnce then .fault stop.fault
    else match stop.opened with
      | [] => fault
      | (opening, line) :: _ =>
        if ((g.lastAsked? reached).map Symbol.line).getD 0 ≤ line then fault
        else .fault (.neverClosed opening)

/-- The fault to report for one that the reading ended with. One of a symbol stands, and so does any
other if the end of the text has been seen. -/
def settle (g : Given) (reached : Nat) : ReadFault → ReadFault
  | .fault fault =>
    if g.symbols.size < reached ∨ (g.lastAsked? reached).any Symbol.atEnd then .fault fault
    else g.outrank reached (.fault fault)
  | other => other

/-- Read everything by a rule, and once more for the fault if nothing else is known of it. What is
left is at the last symbol that the first reading asked for. -/
def readWhole (g : Given) (top : Rule) : Except ReadFault Expr :=
  match g.read top false 0 with
  | (.ok (some e), _) => .ok e
  | (.error fault, reached) => .error (g.settle reached fault)
  | (.ok none, first) =>
    match g.read top true first with
    | (.error fault, reached) => .error (g.settle reached fault)
    | (.ok _, reached) =>
      match (g.lastAsked? first).map Symbol.kind with
      | some .indent => .error (.fault .unexpectedIndent)
      | some .dedent => .error (.fault .unexpectedDedent)
      | _ => .error (g.outrank reached (g.faultAt first .invalid none))

end Given

/-- The fault of the expression of a field, as one of what surrounds it. -/
def ReadFault.ofField : ReadFault → ReadFault
  | .fault f => .fault f.ofField
  | other => other

/-- The expression that a text is by a rule, from a position on. Formatted text in it may hold
others, as often in each other as the first number says. -/
def readNested : Nat → Rule → Position → List Char → Except ReadFault Expr
  | 0, _, _, _ => .error .exhausted
  | deeper + 1, top, origin, text =>
    let (symbols, stop) := symbolsOf origin text
    let judge (start : Position) (field : List Char) : Except ReadFault Expr :=
      (readNested deeper .field start ('(' :: field ++ [')', '\n'])).mapError ReadFault.ofField
    let g : Given := ⟨symbols.toArray, origin.column, stop, readAdjacent judge⟩
    g.readWhole top

def deepestExpr : Nat := 2948

/-- The expression that a text is. Formatted text cannot be deeper in itself than it is long. -/
def readExpr (text : List Char) : Except ReadFault Expr := do
  let e ← readNested (text.length + 1) .whole ⟨1, 0⟩ (unifyLineEnds text)
  if deepestExpr < e.height then throw .tooHigh
  return e

end MonkeyScan.Console.Literal
