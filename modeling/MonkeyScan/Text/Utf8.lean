import MonkeyScan.Text.Hex

/-!
# UTF-8

Bytes are decoded one at a time. Between characters nothing is pending; inside one, the number of
bytes still owed is known and the least and greatest value that the next one may have. A fault
covers the longest prefix of a character that was read, which is one byte at least.
-/
namespace MonkeyScan.Utf8

/-- Why bytes are not UTF-8. -/
inductive Reason
  | invalidStart
  | invalidContinuation
  | unexpectedEnd
  deriving DecidableEq, Repr

def Reason.message : Reason → String
  | .invalidStart => "invalid start byte"
  | .invalidContinuation => "invalid continuation byte"
  | .unexpectedEnd => "unexpected end of data"

/-- A sequence of `length` bytes at `offset`, the first of them `byte`, that is no character. -/
structure Fault where
  reason : Reason
  offset : Nat
  length : Nat
  byte : UInt8
  deriving DecidableEq, Repr

def Fault.message (f : Fault) : String :=
  "'utf-8' codec can't decode byte" ++
    (if f.length = 1 then " 0x" ++ String.ofList (hexFixed 2 f.byte.toNat) ++
      " in position " ++ toString f.offset
    else "s in position " ++ toString f.offset ++ "-" ++ toString (f.offset + f.length - 1)) ++
    ": " ++ f.reason.message

/-- A character of which some bytes have been read. -/
structure Pending where
  lead : UInt8
  taken : Nat
  owed : Nat
  low : Nat
  high : Nat
  code : Nat
  deriving DecidableEq, Repr

/-- What the first byte of a longer character owes. -/
def Pending.ofLead? (lead : UInt8) : Option Pending :=
  let b := lead.toNat
  if b < 0xc2 then none
  else if b < 0xe0 then some ⟨lead, 1, 1, 0x80, 0xbf, b - 0xc0⟩
  else if b < 0xf0 then
    some ⟨lead, 1, 2, if b = 0xe0 then 0xa0 else 0x80, if b = 0xed then 0x9f else 0xbf, b - 0xe0⟩
  else if b < 0xf5 then
    some ⟨lead, 1, 3, if b = 0xf0 then 0x90 else 0x80, if b = 0xf4 then 0x8f else 0xbf, b - 0xf0⟩
  else none

/-- The bytes of a pending character are not followed by what they owe. -/
def Pending.fault (p : Pending) (reason : Reason) (offset : Nat) : Fault :=
  ⟨reason, offset - p.taken, p.taken, p.lead⟩

/-- Decode from an offset on, in the middle of a character or between two. -/
def decodeFrom : Nat → Option Pending → List UInt8 → Except Fault (List Char)
  | _, none, [] => .ok []
  | offset, some p, [] => .error (p.fault .unexpectedEnd offset)
  | offset, none, b :: rest =>
    if b < 0x80 then (decodeFrom (offset + 1) none rest).map (Char.ofNat b.toNat :: ·)
    else match Pending.ofLead? b with
      | none => .error ⟨.invalidStart, offset, 1, b⟩
      | some p => decodeFrom (offset + 1) (some p) rest
  | offset, some p, b :: rest =>
    if p.low ≤ b.toNat ∧ b.toNat ≤ p.high then
      let code := p.code * 64 + (b.toNat - 0x80)
      if p.owed = 1 then (decodeFrom (offset + 1) none rest).map (Char.ofNat code :: ·)
      else decodeFrom (offset + 1)
        (some { p with taken := p.taken + 1, owed := p.owed - 1, low := 0x80, high := 0xbf, code })
        rest
    else .error (p.fault .invalidContinuation offset)

/-- The text that bytes stand for. -/
def decode (bytes : List UInt8) : Except Fault (List Char) :=
  decodeFrom 0 none bytes

/-- The bytes of a text. -/
def encode (text : List Char) : List UInt8 :=
  text.flatMap String.utf8EncodeChar

end MonkeyScan.Utf8
