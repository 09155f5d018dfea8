/-!
# Echoed messages

What the program says about its arguments may repeat them, and those may hold terminal control
sequences: an escape and an opening bracket, then digits, semicolons and question marks, and an
ASCII letter at the end. Where no terminal listens the sequences are left out.
-/
namespace MonkeyScan.Command

def isSequencePart (c : Char) : Bool :=
  c.isDigit || c == ';' || c == '?'

def afterSequence? : List Char → Option (List Char)
  | '\x1b' :: '[' :: rest =>
    match rest.dropWhile isSequencePart with
    | c :: after => if c.isAlpha then some after else none
    | [] => none
  | _ => none

theorem afterSequence?_length_lt {s after : List Char} (h : afterSequence? s = some after) :
    after.length < s.length := by
  unfold afterSequence? at h
  split at h
  · rename_i rest
    have bound := (List.dropWhile_suffix (l := rest) isSequencePart).length_le
    split at h
    · rename_i c tail e
      split at h
      · simp only [Option.some.injEq] at h
        rw [e, h] at bound
        simp only [List.length_cons] at bound ⊢
        omega
      · simp at h
    · simp at h
  · simp at h

def withoutSequences (s : List Char) : List Char :=
  match s with
  | [] => []
  | c :: rest =>
    match _h : afterSequence? (c :: rest) with
    | some after => withoutSequences after
    | none => c :: withoutSequences rest
termination_by s.length
decreasing_by
  · exact afterSequence?_length_lt _h
  · simp

def echoed (message : String) : String :=
  String.ofList (withoutSequences message.toList)

end MonkeyScan.Command
