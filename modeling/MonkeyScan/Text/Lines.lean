/-!
# Lines

A text is read line by line up to and including each line feed; the last line may lack it. Text
files are read with every line end, `"\r\n"` or `"\r"` alone, turned into a line feed.
-/
namespace MonkeyScan

/-- The first line with its line feed, if it has one, and what follows it. -/
def splitLine : List Char → List Char × List Char
  | [] => ([], [])
  | c :: rest =>
    if c = '\n' then (['\n'], rest)
    else
      let (line, more) := splitLine rest
      (c :: line, more)

theorem splitLine_append (s : List Char) : (splitLine s).1 ++ (splitLine s).2 = s := by
  induction s with
  | nil => rfl
  | cons c rest ih =>
    by_cases h : c = '\n' <;> simp [splitLine, h, ih]

/-- A line of a nonempty text is not empty. -/
theorem splitLine_fst_ne_nil (c : Char) (rest : List Char) : (splitLine (c :: rest)).1 ≠ [] := by
  by_cases h : c = '\n' <;> simp [splitLine, h]

theorem splitLine_snd_length_lt (c : Char) (rest : List Char) :
    (splitLine (c :: rest)).2.length < (c :: rest).length := by
  have whole := congrArg List.length (splitLine_append (c :: rest))
  have first := List.length_pos_iff.2 (splitLine_fst_ne_nil c rest)
  rw [List.length_append] at whole
  omega

/-- Every line end as a line feed. -/
def unifyLineEnds : List Char → List Char
  | '\r' :: '\n' :: rest => '\n' :: unifyLineEnds rest
  | '\r' :: rest => '\n' :: unifyLineEnds rest
  | c :: rest => c :: unifyLineEnds rest
  | [] => []

end MonkeyScan
