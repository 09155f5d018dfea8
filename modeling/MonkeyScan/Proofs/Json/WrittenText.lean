import MonkeyScan.Json.Reader
import MonkeyScan.Proofs.Text.Hex

/-!
# Written texts are read back

Every character is written in one of four ways: plainly, by an escape of one letter, by the escape
of its only UTF-16 unit, or by those of its two units. Each is read into pieces that are joined to
the character again, whatever pieces follow: a character never has a unit of a surrogate pair for
its only unit.
-/
namespace MonkeyScan.Json

/-- The two UTF-16 units of a code point above the basic plane. -/
def highUnit (n : Nat) : Nat := 0xd800 + (n - 0x10000) / 0x400

def lowUnit (n : Nat) : Nat := 0xdc00 + (n - 0x10000) % 0x400

theorem units_of_pair {n : Nat} (hlow : 0x10000 ≤ n) (hhigh : n < 0x110000) :
    highUnit n < 0x10000 ∧ lowUnit n < 0x10000 ∧ isPair (highUnit n) (lowUnit n) = true := by
  simp only [isPair, Bool.and_eq_true, decide_eq_true_eq]
  unfold highUnit lowUnit
  omega

/-- How a character is written. -/
inductive Writing (c : Char) : List Char → List Piece → Prop
  | plain : c ≠ '"' → c ≠ '\\' → 0x20 ≤ c.toNat → c.toNat < 0x7f → Writing c [c] [.char c]
  | short {x} : x ≠ 'u' → shortEscape? x = some c → 0x20 ≤ x.toNat → x.toNat < 0x7f →
      Writing c ['\\', x] [.char c]
  | unit : c.toNat < 0x10000 → Writing c (unitEscape c.toNat) [.unit c.toNat]
  | pair : 0x10000 ≤ c.toNat →
      Writing c (unitEscape (highUnit c.toNat) ++ unitEscape (lowUnit c.toNat))
        [.unit (highUnit c.toNat), .unit (lowUnit c.toNat)]

theorem exists_writing (c : Char) : ∃ pieces, Writing c (escapedChar c) pieces := by
  have hchar : Char.ofNat c.toNat = c := Char.ofNat_toNat c
  unfold escapedChar
  simp only
  iterate 5
    split
    · rename_i h
      exact ⟨_, .short (by decide) (by rw [h]; rfl) (by decide) (by decide)⟩
  iterate 2
    split
    · rename_i h
      exact ⟨_, .short (by decide) (by rw [← hchar, h]; rfl) (by decide) (by decide)⟩
  split
  · rename_i hquote hbackslash _ _ _ _ _ h
    exact ⟨_, .plain hquote hbackslash h.1 h.2⟩
  split
  · rename_i h
    exact ⟨_, .unit h⟩
  · rename_i h
    exact ⟨_, .pair (Nat.not_lt.mp h)⟩

/-! ## Reading one character -/

theorem hexFixed_four (n : Nat) : hexFixed 4 n =
    [hexDigit (n / 16 / 16 / 16 % 16), hexDigit (n / 16 / 16 % 16), hexDigit (n / 16 % 16),
      hexDigit (n % 16)] := rfl

theorem hexNumber?_hexFixed_four {n : Nat} (hn : n < 0x10000) :
    hexNumber? (hexFixed 4 n) = some n := by
  have hsmall : n % 16 ^ 4 = n := Nat.mod_eq_of_lt (by simpa using hn)
  rw [hexNumber?_hexFixed, hsmall]

/-- The escape of a unit is read into the unit, if anything follows it. -/
theorem readPieces_unitEscape {n : Nat} (offset : Nat) {rest : List Char} (hn : n < 0x10000)
    (hrest : rest ≠ []) : readPieces offset (unitEscape n ++ rest) =
      (readPieces (offset + 6) rest).map fun (ps, more) => (.unit n :: ps, more) := by
  obtain ⟨e, rest, rfl⟩ := List.exists_cons_of_ne_nil hrest
  have hnumber := hexNumber?_hexFixed_four hn
  rw [hexFixed_four] at hnumber
  rw [unitEscape, hexFixed_four]
  simp only [List.cons_append, List.nil_append, readPieces, hnumber]

theorem readPieces_short {c x : Char} (offset : Nat) (rest : List Char) (hx : x ≠ 'u')
    (h : shortEscape? x = some c) : readPieces offset ('\\' :: x :: rest) =
      (readPieces (offset + 2) rest).map fun (ps, more) => (.char c :: ps, more) := by
  rw [readPieces, if_neg hx, h]
  · intro a b c d e rest' hu
    exact absurd hu hx

theorem readPieces_plain {c : Char} (offset : Nat) (rest : List Char) (hquote : c ≠ '"')
    (hbackslash : c ≠ '\\') (h : 0x20 ≤ c.toNat) : readPieces offset (c :: rest) =
      (readPieces (offset + 1) rest).map fun (ps, more) => (.char c :: ps, more) := by
  rw [readPieces, if_neg (Nat.not_lt.mpr h)]
  · exact hquote
  · exact fun hc _ => hbackslash hc
  · exact fun _ _ _ _ _ _ hc _ => hbackslash hc
  · exact fun _ _ hc _ => hbackslash hc

namespace Writing
variable {c : Char} {written : List Char} {pieces : List Piece}

/-- What is written for a character is read into its pieces. -/
theorem readPieces_append (h : Writing c written pieces) (offset : Nat) {rest : List Char}
    (hrest : rest ≠ []) : ∃ offset', readPieces offset (written ++ rest) =
      (readPieces offset' rest).map fun (ps, more) => (pieces ++ ps, more) := by
  cases h with
  | plain hquote hbackslash hlow _ =>
    exact ⟨offset + 1, readPieces_plain offset rest hquote hbackslash hlow⟩
  | short hx hshort _ _ => exact ⟨offset + 2, readPieces_short offset rest hx hshort⟩
  | unit hunit => exact ⟨offset + 6, readPieces_unitEscape offset hunit hrest⟩
  | pair hpair =>
    have hvalid : c.toNat < 0xd800 ∨ 0xdfff < c.toNat ∧ c.toNat < 0x110000 := c.valid
    obtain ⟨hhigh, hlow, -⟩ := units_of_pair hpair (by omega)
    refine ⟨offset + 6 + 6, ?_⟩
    rw [List.append_assoc, readPieces_unitEscape offset hhigh (by simp [unitEscape]),
      readPieces_unitEscape (offset + 6) hlow hrest]
    cases readPieces (offset + 6 + 6) rest <;> rfl

/-- The pieces of a character are joined to it, whatever pieces follow. -/
theorem joined_append (h : Writing c written pieces) (more : List Piece) :
    joined (pieces ++ more) = c :: joined more := by
  have hvalid : c.toNat < 0xd800 ∨ 0xdfff < c.toNat ∧ c.toNat < 0x110000 := c.valid
  have hchar : Char.ofNat c.toNat = c := Char.ofNat_toNat c
  cases h with
  | plain _ _ _ _ => rfl
  | short _ _ _ _ => rfl
  | unit hunit =>
    have hisChar : c.toNat.isValidChar := c.valid
    have hself : unitChar c.toNat = c := by
      rw [unitChar, if_pos hisChar, hchar]
    rcases more with _ | ⟨⟨d⟩ | ⟨low⟩, more⟩
    · simp [joined, hself]
    · simp [joined, hself]
    · have hno : isPair c.toNat low = false := by
        simp only [isPair, Bool.and_eq_false_iff, decide_eq_false_iff_not]
        omega
      simp [joined, hno, hself]
  | pair hpair =>
    obtain ⟨-, -, hyes⟩ := units_of_pair hpair (by omega)
    have hcode : 0x10000 + (highUnit c.toNat - 0xd800) * 0x400 + (lowUnit c.toNat - 0xdc00) =
        c.toNat := by
      unfold highUnit lowUnit
      omega
    rw [List.cons_append, List.singleton_append, joined, if_pos hyes, hcode, hchar]

theorem printable (h : Writing c written pieces) {x : Char} (hx : x ∈ written) :
    0x20 ≤ x.toNat ∧ x.toNat < 0x7f := by
  have hunit : ∀ {n}, x ∈ unitEscape n → 0x20 ≤ x.toNat ∧ x.toNat < 0x7f := by
    intro n hn
    rw [unitEscape, List.mem_cons, List.mem_cons] at hn
    rcases hn with rfl | rfl | hn
    · decide
    · decide
    · exact hexFixed_printable hn
  cases h with
  | plain _ _ hlow hhigh =>
    obtain rfl := List.mem_singleton.mp hx
    exact ⟨hlow, hhigh⟩
  | short _ _ hlow hhigh =>
    rw [List.mem_cons, List.mem_singleton] at hx
    rcases hx with rfl | rfl
    · decide
    · exact ⟨hlow, hhigh⟩
  | unit _ => exact hunit hx
  | pair _ => exact (List.mem_append.mp hx).elim hunit hunit

end Writing

/-! ## Reading a text -/

/-- What is written between quotes is read up to the closing one. -/
theorem readPieces_flatMap (offset : Nat) (text rest : List Char) :
    ∃ pieces offset', readPieces offset (text.flatMap escapedChar ++ '"' :: rest) =
      .ok (pieces, rest, offset') ∧ joined pieces = text := by
  induction text generalizing offset with
  | nil => exact ⟨[], offset + 1, rfl, rfl⟩
  | cons c text ih =>
    obtain ⟨piecesOf, hc⟩ := exists_writing c
    have hrest : text.flatMap escapedChar ++ '"' :: rest ≠ [] := by simp
    obtain ⟨offset', hread⟩ := hc.readPieces_append offset hrest
    obtain ⟨pieces, offset'', hmore, hjoined⟩ := ih offset'
    refine ⟨piecesOf ++ pieces, offset'', ?_, ?_⟩
    · rw [List.flatMap_cons, List.append_assoc, hread, hmore]
      rfl
    · rw [hc.joined_append, hjoined]

/-- **A written text is read back.** -/
theorem readText_writtenText (offset : Nat) (text : String) (rest : List Char) :
    ∃ offset', readText ⟨writtenText text ++ rest, offset⟩ = .ok (text, ⟨rest, offset'⟩) := by
  obtain ⟨pieces, offset', hread, hjoined⟩ := readPieces_flatMap (offset + 1) text.toList rest
  have hdrop : (writtenText text ++ rest).drop 1 =
      text.toList.flatMap escapedChar ++ '"' :: rest := by
    simp [writtenText]
  refine ⟨offset', ?_⟩
  simp only [readText, hdrop, hread, hjoined, String.ofList_toList]

theorem writtenText_printable {text : String} {x : Char} (hx : x ∈ writtenText text) :
    0x20 ≤ x.toNat ∧ x.toNat < 0x7f := by
  simp only [writtenText, List.cons_append, List.mem_cons, List.mem_append, List.mem_flatMap,
    List.not_mem_nil, or_false] at hx
  rcases hx with rfl | ⟨c, -, hx⟩ | rfl
  · decide
  · obtain ⟨pieces, hc⟩ := exists_writing c
    exact hc.printable hx
  · decide

end MonkeyScan.Json
