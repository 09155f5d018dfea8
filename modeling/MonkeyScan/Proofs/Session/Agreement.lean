import MonkeyScan.Proofs.Scan.Concatenation
import MonkeyScan.Session

/-!
# A session agrees with a scan of the whole text

A session scans its input line by line, each line on its own. No lexeme crosses the end of a line,
so what it prints for the lines is what a single scan of all of them would print. A line that asks
to leave ends the session; what stands behind it is not read.
-/
namespace MonkeyScan

/-- The lines of an input, each with its line feed; the last one may lack it. -/
def inputLines : List Char → List (List Char)
  | [] => []
  | c :: rest =>
    if c = '\n' then ['\n'] :: inputLines rest
    else
      match inputLines rest with
      | [] => [[c]]
      | line :: more => (c :: line) :: more

theorem flatten_inputLines (input : List Char) : (inputLines input).flatten = input := by
  induction input with
  | nil => rfl
  | cons c rest ih =>
    by_cases hc : c = '\n'
    · simp [inputLines, hc, ih]
    · rw [inputLines, if_neg hc]
      cases hrest : inputLines rest with
      | nil =>
        rw [hrest] at ih
        rw [← ih]
        rfl
      | cons line more =>
        rw [hrest] at ih
        rw [← ih]
        rfl

/-- Every line but the last ends in a line feed. -/
theorem isChain_inputLines (input : List Char) :
    (inputLines input).IsChain fun line _ => line.getLast? = some '\n' := by
  induction input with
  | nil => exact .nil
  | cons c rest ih =>
    by_cases hc : c = '\n'
    · rw [inputLines, if_pos hc]
      exact List.isChain_cons.mpr ⟨fun _ _ => rfl, ih⟩
    · rw [inputLines, if_neg hc]
      cases hrest : inputLines rest with
      | nil => exact .singleton _
      | cons line more =>
        rw [hrest, List.isChain_cons] at ih
        refine List.isChain_cons.mpr ⟨?_, ih.2⟩
        intro next hnext
        rw [List.getLast?_cons, ih.1 next hnext]
        rfl

/-- The lines are what is read one after the other. -/
theorem inputLines_cons (c : Char) (rest : List Char) : inputLines (c :: rest) =
    (splitLine (c :: rest)).1 :: inputLines (splitLine (c :: rest)).2 := by
  induction rest generalizing c with
  | nil => by_cases hc : c = '\n' <;> simp [inputLines, splitLine, hc]
  | cons d rest ih =>
    by_cases hc : c = '\n'
    · simp [inputLines, splitLine, hc]
    · have hsplit : splitLine (c :: d :: rest) =
          (c :: (splitLine (d :: rest)).1, (splitLine (d :: rest)).2) := by
        rw [splitLine, if_neg hc]
      rw [inputLines, if_neg hc, ih d, hsplit]

/-- Lines are scanned apart from each other. -/
theorem Scanner.lexed_flatten (s : Scanner) {lines : List (List Char)}
    (h : lines.IsChain fun line _ => line.getLast? = some '\n') :
    s.lexed lines.flatten = lines.flatMap s.lexed := by
  induction lines with
  | nil => exact s.lexed_of_segmentation (.nil (by simp))
  | cons line more ih =>
    cases more with
    | nil => simp
    | cons next more =>
      obtain ⟨hline, hmore⟩ := List.isChain_cons_cons.mp h
      rw [List.flatten_cons, List.flatMap_cons, s.lexed_append_of_blank hline rfl, ih hmore]

namespace Session

/-- The lines before the first that asks to leave, all of them if none does. -/
def answered (input : List Char) : List (List Char) :=
  (inputLines input).takeWhile fun line => !asksToLeave line

/-- What is printed for the tokens of a text, the end token aside. -/
def spoken (s : Scanner) (text : List Char) : List Write :=
  reply ((s.tokenize (String.ofList text)).1.filter fun t => t.kind ≠ .eof)

theorem spoken_eq (s : Scanner) (text : List Char) :
    spoken s text = reply (s.drain (.ofText (String.ofList text))).value := by
  rw [spoken, s.filter_tokenize]

/-- What is printed for a token depends on its kind and its literal only. -/
theorem reply_eq_map_lexed (tokens : List Token) : reply tokens =
    (tokens.map Token.lexed).map fun x => .text ((⟨x.1, x.2, 0, 0⟩ : Token).display ++ "\n") := by
  rw [List.map_map]
  rfl

theorem spoken_eq_map_lexed (s : Scanner) : spoken s = fun text =>
    (s.lexed text).map fun x => .text ((⟨x.1, x.2, 0, 0⟩ : Token).display ++ "\n") := by
  funext text
  rw [spoken_eq, reply_eq_map_lexed]
  rfl

/-- The lines that are answered are answered as their whole is. -/
theorem spoken_flatten_answered (s : Scanner) (input : List Char) :
    spoken s (answered input).flatten = (answered input).flatMap (spoken s) := by
  have hlines : (answered input).IsChain fun line _ => line.getLast? = some '\n' := by
    have hsplit := List.takeWhile_append_dropWhile (p := fun line => !asksToLeave line)
      (l := inputLines input)
    have hall := isChain_inputLines input
    rw [← hsplit] at hall
    exact hall.left_of_append
  simp only [spoken_eq_map_lexed, s.lexed_flatten hlines, List.map_flatMap]

/-- A session reads line after line, answers each, and stops behind the line that asks to leave. -/
theorem run_spec (s : Scanner) (prompt : String) (input : List Char) :
    (run s prompt input).writes =
        (answered input).flatMap (fun line => ask prompt ++ spoken s line) ++ ask prompt ∧
      (run s prompt input).rest = ((inputLines input).drop ((answered input).length + 1)).flatten ∧
      (run s prompt input).left = (inputLines input).any asksToLeave := by
  fun_induction run s prompt input with
  | case1 => simp [answered, inputLines]
  | case2 c rest line hrespond =>
    have hleave : asksToLeave line = true := by
      by_contra h
      simp [respond, h] at hrespond
    have hlines : inputLines (c :: rest) = line :: inputLines (splitLine (c :: rest)).2 :=
      inputLines_cons c rest
    simp [answered, hlines, hleave, flatten_inputLines]
  | case3 c rest line writes log hrespond after ih =>
    have hstay : asksToLeave line = false := by
      by_contra h
      simp [respond, h] at hrespond
    have hwrites : writes = spoken s line := by
      simp only [respond, hstay, Bool.false_eq_true, if_false, Option.some.injEq,
        Prod.mk.injEq] at hrespond
      rw [spoken_eq, hrespond.1]
    have hlines : inputLines (c :: rest) = line :: inputLines (splitLine (c :: rest)).2 :=
      inputLines_cons c rest
    obtain ⟨ihwrites, ihrest, ihleft⟩ := ih
    have hanswered : answered (c :: rest) = line :: answered (splitLine (c :: rest)).2 := by
      simp [answered, hlines, hstay]
    refine ⟨?_, ?_, ?_⟩
    · simp only [after, ihwrites, hanswered, hwrites, List.flatMap_cons, List.append_assoc]
    · simp only [after, ihrest, hanswered, hlines, List.length_cons, List.drop_succ_cons]
    · simp only [after, ihleft, hlines, hstay, List.any_cons, Bool.false_or]

theorem answered_eq_takeWhile (input : List Char) : answered input =
    (inputLines input).takeWhile fun line => String.ofList (strip line) ∉ ["exit", "quit"] := by
  refine congrArg (List.takeWhile · (inputLines input)) (funext fun line => ?_)
  rw [asksToLeave, exitCommands, List.contains_eq_mem, decide_not]

/-- **A session agrees with a scan of the whole text.** It prompts before each line up to the first
that is one of the two commands, and once more at the end. Between the prompts it writes one line for
each token of the line but the end token, and all these are, in order, the ones for a single scan of
the lines together. Nothing is read behind the line that is a command. -/
theorem run_agrees_with_tokenize (s : Scanner) (prompt configured : String) (input : List Char) :
    let leaves := fun line => String.ofList (strip line) ∈ ["exit", "quit"]
    let tokenLines : List Char → List String := fun text =>
      ((s.tokenize (String.ofList text)).1.filter fun t => t.kind ≠ .eof).map fun t =>
        "\x7bType:" ++ t.kind.label ++ " Literal:" ++ t.literal ++ "\x7d" ++ "\n"
    let course := run s (choosePrompt (some prompt) configured) input
    let lines := (inputLines input).takeWhile fun line => ¬ leaves line
    course.writes = lines.flatMap (fun line =>
        .text prompt :: .flush :: (tokenLines line).map .text) ++ [.text prompt, .flush] ∧
      lines.flatMap tokenLines = tokenLines lines.flatten ∧
      (inputLines input).flatten = input ∧
      course.rest = ((inputLines input).drop (lines.length + 1)).flatten ∧
      (course.left = true ↔ ∃ line ∈ inputLines input, leaves line) := by
  intro leaves tokenLines course lines
  obtain ⟨hwrites, hrest, hleft⟩ := run_spec s prompt input
  have hlines : answered input = lines := answered_eq_takeWhile input
  have hspoken : spoken s = fun text => (tokenLines text).map .text := by
    funext text
    rw [List.map_map]
    rfl
  have hflatten := spoken_flatten_answered s input
  rw [hlines] at hwrites hrest hflatten
  rw [hspoken] at hwrites
  rw [hspoken, ← List.map_flatMap] at hflatten
  have htext : Function.Injective Write.text := fun a b h => Write.text.inj h
  refine ⟨hwrites, (htext.list_map hflatten).symm, flatten_inputLines input, hrest, ?_⟩
  have hcourse : course.left = (inputLines input).any asksToLeave := hleft
  simp only [hcourse, List.any_eq_true, asksToLeave, exitCommands, List.contains_eq_mem,
    decide_eq_true_eq, leaves]

end Session

end MonkeyScan
