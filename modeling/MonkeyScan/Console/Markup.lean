import MonkeyScan.Console.Action
import MonkeyScan.Console.Emoji
import MonkeyScan.Console.Line
import MonkeyScan.Console.Style

/-!
# Styled text

Words in square brackets are style tags and are not printed. A tag that starts with a slash
closes the last open tag of its style, or the last one of any style if it names none; closing
what is not open is a fault. A tag that starts with an at sign is an action, whose parameters are
judged when it is closed. A backslash before a tag makes it plain text, and two make one
backslash. What is not of the form of a tag is plain text too. Emoji codes are replaced in each
stretch of plain text on its own.
-/
namespace MonkeyScan.Console

/-- A stretch of plain text, or a tag with the offset it stands at. -/
inductive MarkupPiece
  | plain (s : List Char)
  | tag (offset : Nat) (body : List Char)
  deriving DecidableEq, Repr

/-- What the first character of a tag may be. -/
def isTagStart (c : Char) : Bool :=
  ('a' ≤ c && c ≤ 'z') || c == '#' || c == '/' || c == '@'

/-- Up to the closing bracket, with what follows it; there is none if another bracket opens
first. -/
def untilBracket? : List Char → Option (List Char × List Char)
  | [] => none
  | c :: rest =>
    if c = ']' then some ([], rest)
    else if c = '[' then none
    else (untilBracket? rest).map fun (body, after) => (c :: body, after)

theorem untilBracket?_length_lt {s body after : List Char}
    (h : untilBracket? s = some (body, after)) : after.length < s.length := by
  induction s generalizing body with
  | nil => simp [untilBracket?] at h
  | cons c rest ih =>
    simp only [untilBracket?] at h
    split at h
    · simp only [Option.some.injEq, Prod.mk.injEq] at h
      simp [h.2]
    · split at h
      · simp at h
      · obtain ⟨p, hp, he⟩ := Option.map_eq_some_iff.1 h
        simp only [Prod.mk.injEq] at he
        have : after.length < rest.length := @ih p.1 (by rw [hp, ← he.2])
        simp only [List.length_cons]
        omega

/-- A tag at the head of a text: the backslashes before it, its body, and what follows it. -/
def tagAt? (s : List Char) : Option (Nat × List Char × List Char) :=
  match s.dropWhile (· = '\\') with
  | '[' :: c :: rest =>
    if isTagStart c then
      (untilBracket? rest).map fun (body, after) =>
        ((s.takeWhile (· = '\\')).length, c :: body, after)
    else none
  | _ => none

theorem tagAt?_length_lt {s body after : List Char} {n : Nat}
    (h : tagAt? s = some (n, body, after)) : after.length < s.length := by
  unfold tagAt? at h
  have bound := (List.dropWhile_suffix (l := s) fun c => decide (c = '\\')).length_le
  split at h
  · rename_i c rest e
    split at h
    · obtain ⟨p, hp, he⟩ := Option.map_eq_some_iff.1 h
      simp only [Prod.mk.injEq] at he
      have : p.2.length < rest.length := untilBracket?_length_lt hp
      rw [e] at bound
      simp only [List.length_cons] at bound
      rw [← he.2.2]
      omega
    · simp at h
  · simp at h

/-- The pieces of a text from an offset on; `before` is plain text just read, last character
first. -/
def markupPieces (offset : Nat) (before : List Char) (s : List Char) : List MarkupPiece :=
  let flushed := if before = [] then [] else [MarkupPiece.plain before.reverse]
  match _e : s with
  | [] => flushed
  | c :: rest =>
    match _h : tagAt? (c :: rest) with
    | some (slashes, body, after) =>
      let kept := List.replicate (slashes / 2) '\\'
      let lead := if kept = [] then [] else [MarkupPiece.plain kept]
      let tagged :=
        if slashes % 2 = 1 then .plain ('[' :: body ++ [']']) else .tag (offset + slashes) body
      flushed ++ lead ++ tagged ::
        markupPieces (offset + slashes + body.length + 2) [] after
    | none => markupPieces (offset + 1) (c :: before) rest
termination_by s.length
decreasing_by
  · exact tagAt?_length_lt _h
  · simp

/-- A bracket that opens no tag loses the backslash before it. -/
def unescapeBrackets : List Char → List Char
  | '\\' :: '[' :: rest => '[' :: unescapeBrackets rest
  | c :: rest => c :: unescapeBrackets rest
  | [] => []

inductive MarkupFault
  | unmatched (body : List Char) (offset : Nat)
  | nothingToClose (offset : Nat)
  | part (fault : PartFault)
  | action (fault : ActionFault)
  deriving DecidableEq, Repr

def MarkupFault.message : MarkupFault → String
  | .unmatched body offset =>
    "closing tag '[" ++ String.ofList body ++ "]' at position " ++ toString offset ++
      " doesn't match any open tag"
  | .nothingToClose offset =>
    "closing tag '[/]' at position " ++ toString offset ++ " has nothing to close"
  | .part fault => fault.message
  | .action fault => fault.message

/-- A style that is open: the normal form of its name, what stands behind the equals sign of its
tag, and how many characters are printed before it. -/
structure OpenStyle where
  name : String
  parameters : Option (List Char)
  start : Nat
  deriving DecidableEq, Repr

namespace OpenStyle

def ofTag (body : List Char) (start : Nat) : Except MarkupFault OpenStyle := do
  let name ← (Style.normalForm (body.takeWhile (· ≠ '='))).mapError .part
  return ⟨name, (body.dropWhile (· ≠ '=')).tail?, start⟩

def isAction (s : OpenStyle) : Bool :=
  s.name.toList.head? = some '@'

/-- What is judged when the style is closed: the parameters of an action. -/
def checkClosed (s : OpenStyle) : Except MarkupFault Unit :=
  if s.isAction then (checkAction (s.parameters.getD [])).mapError .action else .ok ()

/-- What is judged when the text is shown: the style with its parameters, unless it is an action. -/
def checkShown (s : OpenStyle) : Except MarkupFault Unit :=
  if s.isAction then .ok ()
  else
    let parameters := match s.parameters with
      | some p => ' ' :: p
      | none => []
    ((Style.ofText? (s.name.toList ++ parameters)).map fun _ => ()).mapError .part

end OpenStyle

/-- A style and where it ends, as the number of characters printed before that. -/
structure StyleSpan where
  style : OpenStyle
  stop : Nat
  deriving DecidableEq, Repr

def StyleSpan.covered (text : List Char) (span : StyleSpan) : List Char :=
  (text.take span.stop).drop span.style.start

/-- A text that is printed, and the styles on it, the last one to end first. -/
structure StyledText where
  text : List Char
  spans : List StyleSpan
  deriving DecidableEq, Repr

/-- Close the style of a name, or the last one for no name: that style, and the styles that stay
open, last one first. -/
def closeStyle? (name : Option String) : List OpenStyle → Option (OpenStyle × List OpenStyle)
  | [] => none
  | s :: more =>
    if name = none ∨ name = some s.name then some (s, more)
    else (closeStyle? name more).map fun (closed, rest) => (closed, s :: rest)

def closeTag (opened : List OpenStyle) (offset : Nat) (body : List Char) :
    Except MarkupFault (OpenStyle × List OpenStyle) := do
  let text := strip ((body.takeWhile (· ≠ '=')).drop 1)
  if text = [] then
    match closeStyle? none opened with
    | some closed => return closed
    | none => throw (.nothingToClose offset)
  else
    let name ← (Style.normalForm text).mapError .part
    match closeStyle? (some name) opened with
    | some closed => return closed
    | none => throw (.unmatched body offset)

namespace StyledText

/-- The text of the pieces behind `before`, which is last character first. The styles that are open
are given last one first, and those that have ended last one first. What is still open at the end
ends there, from the inside out. -/
def ofPieces (before : List Char) (opened : List OpenStyle) (ended : List StyleSpan) :
    List MarkupPiece → Except MarkupFault StyledText
  | [] => .ok ⟨before.reverse, (opened.map fun s => ⟨s, before.length⟩).reverse ++ ended⟩
  | .plain s :: more =>
    let shown := dropControls (replaceEmoji (unescapeBrackets s))
    ofPieces (shown.reverse ++ before) opened ended more
  | .tag offset body :: more => do
    if body.head? = some '/' then
      let (closed, rest) ← closeTag opened offset body
      closed.checkClosed
      ofPieces before rest (⟨closed, before.length⟩ :: ended) more
    else
      let style ← OpenStyle.ofTag body before.length
      ofPieces before (style :: opened) ended more

/-- The styles that are shown, by where they start, and from there on the last one to end first. A
text with line feeds or tabs is shown in parts, and a style that is on no part is not shown. -/
def shownSpans (t : StyledText) : List StyleSpan :=
  let sorted := t.spans.mergeSort fun a b => a.style.start ≤ b.style.start
  if '\n' ∈ t.text ∨ '\t' ∈ t.text then
    sorted.filter fun span => (span.covered t.text).any (· ≠ '\n')
  else sorted

end StyledText

/-- The plain text of styled text. -/
def ofMarkup (s : List Char) : Except MarkupFault (List Char) := do
  let t ← StyledText.ofPieces [] [] [] (markupPieces 0 [] s)
  t.shownSpans.forM fun span => span.style.checkShown
  return t.text

end MonkeyScan.Console
