import MonkeyScan.Text.Utf8

/-!
# Decoding undoes encoding

A character is encoded as a first byte, which says how many bytes follow, and bytes of six bits
each. The decoder collects the bits again. It bounds the second byte, so that no character has two
encodings and no surrogate has one; the encoding of a character always lies within the bounds.
-/
namespace MonkeyScan.Utf8

/-- Every character has a code point outside the surrogates. -/
theorem toNat_valid (c : Char) : c.toNat < 0xd800 ∨ 0xdfff < c.toNat ∧ c.toNat < 0x110000 :=
  c.valid

theorem toNat_ofNat_byte {n : Nat} (h : n < 256) : (UInt8.ofNat n).toNat = n :=
  UInt8.toNat_ofNat_of_lt' h

/-! ## One byte -/

variable {offset n : Nat} {p : Pending} {rest : List UInt8}

theorem decodeFrom_ascii (h : n < 0x80) :
    decodeFrom offset none (UInt8.ofNat n :: rest) =
      (decodeFrom (offset + 1) none rest).map (Char.ofNat n :: ·) := by
  have hn : (UInt8.ofNat n).toNat = n := toNat_ofNat_byte (by omega)
  have hlt : UInt8.ofNat n < 0x80 := by
    rw [UInt8.lt_iff_toNat_lt, hn]
    exact h
  rw [decodeFrom, if_pos hlt, hn]

theorem decodeFrom_lead (hp : Pending.ofLead? (UInt8.ofNat n) = some p) :
    decodeFrom offset none (UInt8.ofNat n :: rest) = decodeFrom (offset + 1) (some p) rest := by
  have hlt : ¬ UInt8.ofNat n < 0x80 := by
    intro hlt
    rw [UInt8.lt_iff_toNat_lt] at hlt
    have hlow : (UInt8.ofNat n).toNat < 0xc2 := Nat.lt_trans hlt (by decide)
    simp only [Pending.ofLead?, if_pos hlow] at hp
    cases hp
  rw [decodeFrom, if_neg hlt, hp]

theorem decodeFrom_more (h : n < 256) (hbounds : p.low ≤ n ∧ n ≤ p.high) (howed : p.owed ≠ 1) :
    decodeFrom offset (some p) (UInt8.ofNat n :: rest) =
      decodeFrom (offset + 1) (some ⟨p.lead, p.taken + 1, p.owed - 1, 0x80, 0xbf,
        p.code * 64 + (n - 0x80)⟩) rest := by
  rw [decodeFrom, toNat_ofNat_byte h, if_pos hbounds]
  simp only [if_neg howed]

theorem decodeFrom_last (h : n < 256) (hbounds : p.low ≤ n ∧ n ≤ p.high) (howed : p.owed = 1) :
    decodeFrom offset (some p) (UInt8.ofNat n :: rest) =
      (decodeFrom (offset + 1) none rest).map (Char.ofNat (p.code * 64 + (n - 0x80)) :: ·) := by
  rw [decodeFrom, toNat_ofNat_byte h, if_pos hbounds]
  simp only [if_pos howed]

/-! ## One character -/

theorem ofLead?_two {n : Nat} (h : 0xc2 ≤ n ∧ n < 0xe0) : Pending.ofLead? (UInt8.ofNat n) =
    some ⟨UInt8.ofNat n, 1, 1, 0x80, 0xbf, n - 0xc0⟩ := by
  simp only [Pending.ofLead?, toNat_ofNat_byte (n := n) (by omega)]
  rw [if_neg (by omega), if_pos (by omega)]

theorem ofLead?_three {n : Nat} (h : 0xe0 ≤ n ∧ n < 0xf0) : Pending.ofLead? (UInt8.ofNat n) =
    some ⟨UInt8.ofNat n, 1, 2, if n = 0xe0 then 0xa0 else 0x80, if n = 0xed then 0x9f else 0xbf,
      n - 0xe0⟩ := by
  simp only [Pending.ofLead?, toNat_ofNat_byte (n := n) (by omega)]
  rw [if_neg (by omega), if_neg (by omega), if_pos (by omega)]

theorem ofLead?_four {n : Nat} (h : 0xf0 ≤ n ∧ n < 0xf5) : Pending.ofLead? (UInt8.ofNat n) =
    some ⟨UInt8.ofNat n, 1, 3, if n = 0xf0 then 0x90 else 0x80, if n = 0xf4 then 0x8f else 0xbf,
      n - 0xf0⟩ := by
  simp only [Pending.ofLead?, toNat_ofNat_byte (n := n) (by omega)]
  rw [if_neg (by omega), if_neg (by omega), if_neg (by omega), if_pos (by omega)]

/-- The bytes of a character are decoded to it, and what follows them is decoded on its own. -/
theorem decodeFrom_encodeChar (offset : Nat) (c : Char) (rest : List UInt8) :
    ∃ offset', decodeFrom offset none (String.utf8EncodeChar c ++ rest) =
      (decodeFrom offset' none rest).map (c :: ·) := by
  have hvalid := toNat_valid c
  have hchar : Char.ofNat c.toNat = c := Char.ofNat_toNat c
  have hval : c.val.toNat = c.toNat := rfl
  simp only [String.utf8EncodeChar, hval]
  generalize c.toNat = v at hvalid hchar
  split
  · rename_i hone
    exact ⟨offset + 1, by rw [List.singleton_append, decodeFrom_ascii (by omega), hchar]⟩
  split
  · rename_i hone htwo
    refine ⟨offset + 1 + 1, ?_⟩
    have hcode : (v / 64 % 0x20 + 0xc0 - 0xc0) * 64 + (v % 0x40 + 0x80 - 0x80) = v := by omega
    rw [List.cons_append, List.singleton_append,
      decodeFrom_lead (ofLead?_two (by omega)),
      decodeFrom_last (by omega) (by simp only; omega) rfl]
    simp only [hcode, hchar]
  split
  · rename_i hone htwo hthree
    refine ⟨offset + 1 + 1 + 1, ?_⟩
    have hcode : ((v / 4096 % 0x10 + 0xe0 - 0xe0) * 64 + (v / 64 % 0x40 + 0x80 - 0x80)) * 64 +
        (v % 0x40 + 0x80 - 0x80) = v := by omega
    rw [List.cons_append, List.cons_append, List.singleton_append,
      decodeFrom_lead (ofLead?_three (by omega)),
      decodeFrom_more (by omega) (by simp only; split <;> split <;> omega) (by simp),
      decodeFrom_last (by omega) (by simp only; omega) rfl]
    simp only [hcode, hchar]
  · rename_i hone htwo hthree
    refine ⟨offset + 1 + 1 + 1 + 1, ?_⟩
    have hcode : (((v / 262144 % 0x08 + 0xf0 - 0xf0) * 64 + (v / 4096 % 0x40 + 0x80 - 0x80)) * 64 +
        (v / 64 % 0x40 + 0x80 - 0x80)) * 64 + (v % 0x40 + 0x80 - 0x80) = v := by omega
    rw [List.cons_append, List.cons_append, List.cons_append, List.singleton_append,
      decodeFrom_lead (ofLead?_four (by omega)),
      decodeFrom_more (by omega) (by simp only; split <;> split <;> omega) (by simp),
      decodeFrom_more (by omega) (by simp only; omega) (by simp),
      decodeFrom_last (by omega) (by simp only; omega) rfl]
    simp only [hcode, hchar]

/-! ## Texts -/

theorem decodeFrom_encode (offset : Nat) (text : List Char) :
    decodeFrom offset none (encode text) = .ok text := by
  induction text generalizing offset with
  | nil => rfl
  | cons c text ih =>
    obtain ⟨offset', hc⟩ := decodeFrom_encodeChar offset c (encode text)
    have hencode : encode (c :: text) = String.utf8EncodeChar c ++ encode text := List.flatMap_cons
    rw [hencode, hc, ih]
    rfl

/-- **Decoding undoes encoding.** -/
theorem decode_encode (text : List Char) : decode (encode text) = .ok text :=
  decodeFrom_encode 0 text

theorem encodeChar_of_lt {c : Char} (h : c.toNat < 0x80) :
    String.utf8EncodeChar c = [UInt8.ofNat c.toNat] := by
  have hval : c.val.toNat = c.toNat := rfl
  simp only [String.utf8EncodeChar, hval]
  rw [if_pos (by omega)]

/-- The bytes of an ASCII text are ASCII. -/
theorem encode_lt_of_ascii {text : List Char} (h : ∀ c ∈ text, c.toNat < 0x80) :
    ∀ b ∈ encode text, b < 0x80 := by
  intro b hb
  obtain ⟨c, hc, hbyte⟩ := List.mem_flatMap.mp hb
  have hlt : c.toNat < 0x80 := h c hc
  rw [encodeChar_of_lt hlt, List.mem_singleton] at hbyte
  rw [hbyte, UInt8.lt_iff_toNat_lt, toNat_ofNat_byte (by omega)]
  exact hlt

/-- An ASCII character is one of the bytes. -/
theorem mem_encode_of_lt {text : List Char} {c : Char} (hc : c ∈ text) (h : c.toNat < 0x80) :
    UInt8.ofNat c.toNat ∈ encode text := by
  refine List.mem_flatMap.mpr ⟨c, hc, ?_⟩
  rw [encodeChar_of_lt h]
  exact List.mem_singleton_self _

/-- A string is kept as its bytes. -/
theorem encode_toList (s : String) : encode s.toList = s.toByteArray.data.toList := by
  rw [← String.utf8Encode_toList, List.utf8Encode, List.toList_data_toByteArray, encode]

end MonkeyScan.Utf8
