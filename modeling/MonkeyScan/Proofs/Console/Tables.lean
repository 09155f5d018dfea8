import MonkeyScan.Console.Table
import MonkeyScan.Proofs.Console.Breaking
import Mathlib.Data.List.Forall2

/-!
# Tables that fit

A table that is no wider than the console is printed with a line for each row, and each cell stands
whole between its bars. The columns are as wide as their widest cells then, so nothing is broken or
cut.
-/
namespace MonkeyScan.Console

/-- What is printed of a cell: its text without the controls that a console obeys. -/
def shownCell (cell : String) : List Char :=
  cell.toList.filter fun c => c ∉ ['\x07', '\x08', '\x0b', '\x0c', '\r']

/-- A printed row. Each cell has a space before it, at least one behind it, and then a bar. -/
def ShowsRow (bar : Char) (row : List String) (line : List Char) : Prop :=
  ∃ fills : List Nat, fills.length = row.length ∧ line = bar :: (List.zipWith
    (fun cell n => ' ' :: shownCell cell ++ List.replicate (n + 1) ' ' ++ [bar]) row fills).flatten

/-- A printed table: the title between spaces, the names of the columns, and a line for each row,
with lines of the frame around the names and below. -/
def ShowsTable (title : String) (names : List String) (rows : List (List String))
    (printed : String) : Prop :=
  ∃ (left right : Nat) (top head under bottom : List Char) (body : List (List Char)),
    textLines printed.toList =
      (List.replicate left ' ' ++ title.toList ++ List.replicate right ' ') :: top :: head ::
        under :: (body ++ [bottom, []]) ∧
    ShowsRow '┃' names head ∧ List.Forall₂ (ShowsRow '│') rows body

/-- A console has room for columns in which these rows fit, with a space on either side of each cell
and a bar between them and around. -/
def RoomFor (columns : Nat) (rows : List (List String)) : Prop :=
  ∃ widths : List Nat, widths.foldr (fun w total => w + 3 + total) 1 ≤ columns ∧
    ∀ row ∈ rows, List.Forall₂ (fun cell w => width (shownCell cell) ≤ w) row widths

theorem forall_mem_of_forall₂ {α β : Type} {R : α → β → Prop} {p : α → Prop} {q : β → Prop}
    {xs : List α} {ys : List β} (h : List.Forall₂ R xs ys) (hp : ∀ x ∈ xs, p x)
    (hq : ∀ x y, p x → R x y → q y) : ∀ y ∈ ys, q y := by
  induction h with
  | nil => exact List.forall_mem_nil _
  | cons hfirst _ ih =>
    obtain ⟨hx, hmore⟩ := List.forall_mem_cons.mp hp
    exact List.forall_mem_cons.mpr ⟨hq _ _ hx hfirst, ih hmore⟩

theorem ShowsRow.newline_not_mem {bar : Char} {row : List String} {line : List Char}
    (h : ShowsRow bar row line) (hbar : '\n' ≠ bar)
    (hcells : ∀ cell ∈ row, '\n' ∉ cell.toList) : '\n' ∉ line := by
  obtain ⟨fills, -, rfl⟩ := h
  rw [List.mem_cons, not_or, List.mem_flatten]
  refine ⟨hbar, ?_⟩
  rintro ⟨part, hpart, hmem⟩
  rw [← List.map_uncurry_zip_eq_zipWith, List.mem_map] at hpart
  obtain ⟨⟨cell, n⟩, hzip, rfl⟩ := hpart
  have hcell : '\n' ∉ shownCell cell :=
    fun hnew => hcells cell (List.of_mem_zip hzip).1 (List.mem_filter.mp hnew).1
  revert hmem
  simp [hbar, hcell]

namespace Table
variable {t : Table} {columns : Nat} {row : List String} {widths : List Nat} {bar : Char}

theorem cellText_eq_shownCell (cell : String) : cellText cell = shownCell cell := by
  refine List.filter_congr fun c _ => ?_
  have hdropped : isDropped c = true ↔ c ∈ ['\x07', '\x08', '\x0b', '\x0c', '\r'] := by
    simp only [isDropped, List.mem_cons, List.not_mem_nil, or_false, ← Char.toNat_inj,
      Char.reduceToNat, Bool.or_eq_true, Bool.and_eq_true, decide_eq_true_eq]
    omega
  by_cases hc : isDropped c = true
  · simp [hc, hdropped.mp hc]
  · simp [hc, mt hdropped.mpr hc]

/-! ## Widths -/

/-- There is room for one thing in each column. -/
def HasRoom {α : Type} (need : α → Nat) (widths : List Nat) (xs : List α) : Prop :=
  List.Forall₂ (fun w x => need x ≤ w) widths xs

section
variable {α : Type} {need : α → Nat} {xs : List α} {rows : List (List String)}

theorem HasRoom.zipWith_max (h : HasRoom need widths xs) {others : List Nat}
    (hlength : others.length = widths.length) :
    HasRoom need (List.zipWith max widths others) xs := by
  induction h generalizing others with
  | nil => exact .nil
  | cons hx _ ih =>
    obtain ⟨other, more, rfl⟩ := List.exists_cons_of_length_eq_add_one hlength
    exact .cons (Nat.le_trans hx (Nat.le_max_left _ _)) (ih (by simpa using hlength))

theorem hasRoom_zipWith_max (f : String → Nat) (hlength : row.length = widths.length) :
    HasRoom f (List.zipWith max widths (row.map f)) row := by
  induction row generalizing widths with
  | nil => simp [HasRoom]
  | cons cell more ih =>
    obtain ⟨w, widths, rfl⟩ := List.exists_cons_of_length_eq_add_one hlength.symm
    exact .cons (Nat.le_max_right _ _) (ih (by simpa using hlength))

/-- No column gets narrower by further rows. -/
theorem HasRoom.foldl (h : HasRoom need widths xs) (f : String → Nat)
    (hrows : ∀ row ∈ rows, row.length = xs.length) :
    HasRoom need (rows.foldl (fun widths row => List.zipWith max widths (row.map f)) widths) xs := by
  induction rows generalizing widths with
  | nil => exact h
  | cons first more ih =>
    obtain ⟨hfirst, hmore⟩ := List.forall_mem_cons.mp hrows
    refine ih (h.zipWith_max ?_) hmore
    rw [List.length_map, hfirst, h.length_eq]

end

theorem zipWith_max_le {bound : List Nat} {f : String → Nat}
    (h : List.Forall₂ (· ≤ ·) widths bound) (hrow : List.Forall₂ (fun cell w => f cell ≤ w) row bound) :
    List.Forall₂ (· ≤ ·) (List.zipWith max widths (row.map f)) bound := by
  induction hrow generalizing widths with
  | nil => simp
  | cons hcell _ ih =>
    cases h with
    | cons hw hmore => exact .cons (Nat.max_le.mpr ⟨hw, hcell⟩) (ih hmore)

/-- The columns get no wider than a room that every row has. -/
theorem foldl_max_le {bound : List Nat} {f : String → Nat} {rows : List (List String)}
    (h : List.Forall₂ (· ≤ ·) widths bound)
    (hrows : ∀ row ∈ rows, List.Forall₂ (fun cell w => f cell ≤ w) row bound) :
    List.Forall₂ (· ≤ ·)
      (rows.foldl (fun widths row => List.zipWith max widths (row.map f)) widths) bound := by
  induction rows generalizing widths with
  | nil => exact h
  | cons first more ih =>
    obtain ⟨hfirst, hmore⟩ := List.forall_mem_cons.mp hrows
    exact ih (zipWith_max_le h hfirst) hmore

/-- A table whose cells can be shown on one line each, with a title no wider than its header. -/
structure Regular (t : Table) : Prop where
  length_eq : ∀ row ∈ t.rows, row.length = t.header.length
  names : t.header ≠ [] ∧ ∀ name ∈ t.header, 0 < width (cellText name)
  cells : ∀ row ∈ t.header :: t.rows, ∀ cell ∈ row, '\n' ∉ cell.toList ∧ Whole (cellText cell)
  title : '\n' ∉ t.title.toList ∧
    LineFits (totalWidth (t.header.map fun name => width (cellText name) + 2)) t.title.toList

theorem Regular.hasRoom (h : t.Regular) (hrow : row ∈ t.header :: t.rows) :
    HasRoom (fun cell => width (cellText cell) + 2) t.columnWidths row := by
  have hlengths : ∀ row ∈ t.header :: t.rows, row.length = t.header.length :=
    List.forall_mem_cons.mpr ⟨rfl, h.length_eq⟩
  obtain ⟨before, after, hrows⟩ := List.append_of_mem hrow
  rw [hrows] at hlengths
  have hbefore := fun first hfirst => hlengths first (List.mem_append_left _ hfirst)
  obtain ⟨hlength, hafter⟩ :=
    List.forall_mem_cons.mp fun next hnext => hlengths next (List.mem_append_right _ hnext)
  have hstart : HasRoom (fun _ => 0) (t.header.map fun _ => 0) t.header := by
    rw [HasRoom, List.forall₂_map_left_iff, List.forall₂_same]
    exact fun _ _ => Nat.le_refl _
  have hlast := (hstart.foldl (fun cell => width (cellText cell) + 2) hbefore).length_eq
  rw [columnWidths, hrows, List.foldl_append, List.foldl_cons]
  exact (hasRoom_zipWith_max _ (hlength.trans hlast.symm)).foldl _ fun next hnext =>
    (hafter next hnext).trans hlength.symm

@[simp] theorem totalWidth_cons (w : Nat) (more : List Nat) :
    totalWidth (w :: more) = w + 1 + totalWidth more := rfl

theorem totalWidth_mono {others : List Nat} (h : List.Forall₂ (· ≤ ·) widths others) :
    totalWidth widths ≤ totalWidth others := by
  induction h with
  | nil => exact Nat.le_refl _
  | cons hw _ ih => exact Nat.add_le_add (Nat.add_le_add_right hw 1) ih

theorem length_lt_totalWidth (widths : List Nat) : widths.length < totalWidth widths := by
  induction widths with
  | nil => exact Nat.one_pos
  | cons w more ih =>
    rw [totalWidth_cons, List.length_cons]
    omega

theorem add_length_lt_totalWidth {w : Nat} (h : w ∈ widths) :
    w + widths.length < totalWidth widths := by
  induction widths with
  | nil => exact absurd h List.not_mem_nil
  | cons first more ih =>
    have hmore := length_lt_totalWidth more
    rw [totalWidth_cons, List.length_cons]
    rcases List.mem_cons.mp h with rfl | hmem
    · omega
    · have hlt := ih hmem
      omega

/-- Where a console has room for the rows, it has room for the table. -/
theorem totalWidth_le_of_roomFor (h : RoomFor columns (t.header :: t.rows)) :
    totalWidth t.columnWidths ≤ columns := by
  obtain ⟨widths, htotal, hrows⟩ := h
  have hcells : ∀ row ∈ t.header :: t.rows,
      List.Forall₂ (fun cell w => width (cellText cell) + 2 ≤ w) row (widths.map (· + 2)) := by
    intro row hrow
    rw [List.forall₂_map_right_iff]
    exact (hrows row hrow).imp fun cell w hw => by
      rw [cellText_eq_shownCell]
      exact Nat.add_le_add_right hw 2
  have hstart : List.Forall₂ (· ≤ ·) (t.header.map fun _ => 0) (widths.map (· + 2)) := by
    rw [List.forall₂_map_left_iff]
    exact (hcells _ List.mem_cons_self).imp fun _ _ _ => Nat.zero_le _
  have hle : totalWidth t.columnWidths ≤ totalWidth (widths.map (· + 2)) :=
    totalWidth_mono (foldl_max_le hstart hcells)
  have hwidths : totalWidth (widths.map (· + 2)) = widths.foldr (fun w total => w + 3 + total) 1 := by
    rw [totalWidth, List.foldr_map]
  exact hle.trans (hwidths.trans_le htotal)

theorem Regular.lineFits_title (h : t.Regular) :
    LineFits (totalWidth t.columnWidths) t.title.toList := by
  have hroom := h.hasRoom List.mem_cons_self
  have hle := totalWidth_mono (List.forall₂_map_left_iff.mpr hroom.flip)
  exact ⟨h.title.2.1.trans hle, h.title.2.2.trans hle⟩

/-- On a console with room for all columns these are as wide as their cells need. -/
theorem Regular.shownWidths_eq (h : t.Regular) (hfits : totalWidth t.columnWidths ≤ columns) :
    t.shownWidths columns = t.columnWidths := by
  have hlength := (h.hasRoom List.mem_cons_self).length_eq
  have hcapped : t.columnWidths.map (min (columns - (t.header.length + 1))) = t.columnWidths := by
    refine (List.map_congr_left fun w hw => Nat.min_eq_right ?_).trans (List.map_id _)
    have hlt := add_length_lt_totalWidth hw
    omega
  simp only [shownWidths, hcapped]
  cases totalWidth t.columnWidths with
  | zero => rfl
  | succ steps => rw [collapsed, if_pos hfits]

/-- The cell has its column to itself, on one line. -/
structure FitsIn (w : Nat) (cell : String) : Prop where
  lt : 2 < w
  le : width (cellText cell) + 2 ≤ w
  whole : Whole (cellText cell)

theorem FitsIn.cellLines_eq {w : Nat} {cell : String} (h : FitsIn w cell) :
    cellLines w cell = [paddedCell w (cellText cell)] := by
  have hlt := h.lt
  have hle := h.le
  have hwidth : width (cellText cell) ≤ w - 2 := by omega
  have hsome : 0 < w - 2 := by omega
  have htrimmed := h.whole.trimmed_eq hsome
  rw [cellLines, brokenLines_of_trimmed hwidth htrimmed, List.map_singleton]

theorem FitsIn.exists_paddedCell {w : Nat} {cell : String} (h : FitsIn w cell) :
    ∃ n, paddedCell w (cellText cell) = ' ' :: shownCell cell ++ List.replicate (n + 1) ' ' := by
  let text := cellText cell
  have hpadded : paddedCell w text = ' ' :: pad (w - 2) (pad (w - 2) text) ++ [' '] :=
    if_neg (by have := h.lt; omega)
  refine ⟨(w - 2 - width text) + (w - 2 - width (pad (w - 2) text)), ?_⟩
  rw [hpadded, ← cellText_eq_shownCell, ← List.replicate_append_replicate,
    ← List.replicate_append_replicate]
  simp [pad, text]

theorem zipWith_cellLines (h : List.Forall₂ FitsIn widths row) : ∃ fills : List Nat,
    fills.length = row.length ∧ List.zipWith cellLines widths row = (List.zipWith
      (fun cell n => ' ' :: shownCell cell ++ List.replicate (n + 1) ' ') row fills).map ([·]) := by
  induction h with
  | nil => exact ⟨[], rfl, rfl⟩
  | cons hcell _ ih =>
    obtain ⟨n, hn⟩ := hcell.exists_paddedCell
    obtain ⟨fills, hlength, hmore⟩ := ih
    refine ⟨n :: fills, congrArg (· + 1) hlength, ?_⟩
    rw [List.zipWith_cons_cons, hcell.cellLines_eq, hmore, hn]
    rfl

/-- Cells of one line each make up one line. -/
theorem rowLines_of_singletons {cells : List (List Char)} (hne : cells ≠ [])
    (hlength : cells.length = widths.length)
    (hcells : List.zipWith cellLines widths row = cells.map ([·])) :
    rowLines bar widths row = [rowLine bar cells] := by
  have hheight : ((cells.map ([·])).map List.length).foldl max 0 = 1 := by
    obtain ⟨first, more, rfl⟩ := List.exists_cons_of_ne_nil hne
    rw [List.map_map, List.foldl_map, List.foldl_cons]
    exact List.foldl_fixed' (fun _ => rfl) more
  have hline : List.zipWith (fun w lines => lines.getD 0 (List.replicate w ' ')) widths
      (cells.map ([·])) = cells := by
    refine List.ext_getElem (by simp [hlength]) fun i _ _ => ?_
    simp
  simp only [rowLines, hcells, hheight, List.range_one, List.map_singleton, hline]

theorem rowLine_eq_flatten {cells : List (List Char)} (hne : cells ≠ []) :
    rowLine bar cells = bar :: (cells.map (· ++ [bar])).flatten := by
  have hbars : ∀ {cells : List (List Char)}, cells ≠ [] →
      [bar].intercalate cells ++ [bar] = (cells.map (· ++ [bar])).flatten := by
    intro cells hne
    induction cells with
    | nil => exact absurd rfl hne
    | cons first more ih =>
      cases more with
      | nil => simp
      | cons next more =>
        rw [List.intercalate_cons_cons, List.append_assoc, ih (List.cons_ne_nil _ _)]
        simp
  rw [rowLine, List.cons_append, hbars hne]

/-- Cells that have their columns to themselves make up one line, which shows them. -/
theorem exists_rowLines (h : List.Forall₂ FitsIn widths row) (hne : row ≠ []) :
    ∃ line, rowLines bar widths row = [line] ∧ ShowsRow bar row line := by
  obtain ⟨fills, hlength, hcells⟩ := zipWith_cellLines h
  let cells := List.zipWith
    (fun cell n => ' ' :: shownCell cell ++ List.replicate (n + 1) ' ') row fills
  have hcount : cells.length = row.length := by simp [cells, hlength]
  have hsome : cells ≠ [] := by
    rw [← List.length_pos_iff, hcount]
    exact List.length_pos_iff.mpr hne
  refine ⟨rowLine bar cells, rowLines_of_singletons hsome (hcount.trans h.length_eq.symm) hcells,
    fills, hlength, ?_⟩
  rw [rowLine_eq_flatten hsome, List.map_zipWith]

theorem exists_body {rows : List (List String)}
    (h : ∀ row ∈ rows, List.Forall₂ FitsIn widths row ∧ row ≠ []) :
    ∃ body, rows.flatMap (rowLines '│' widths) = body ∧ List.Forall₂ (ShowsRow '│') rows body := by
  induction rows with
  | nil => exact ⟨[], rfl, .nil⟩
  | cons row more ih =>
    obtain ⟨⟨hrow, hne⟩, hmore⟩ := List.forall_mem_cons.mp h
    obtain ⟨line, hline, hshows⟩ := exists_rowLines hrow hne
    obtain ⟨body, rfl, hbody⟩ := ih hmore
    refine ⟨_, ?_, .cons hshows hbody⟩
    rw [List.flatMap_cons, hline]
    rfl

/-! ## Line feeds -/

theorem not_mem_intercalate {x : Char} {sep : List Char} {parts : List (List Char)}
    (hsep : x ∉ sep) (h : ∀ part ∈ parts, x ∉ part) : x ∉ sep.intercalate parts := by
  induction parts with
  | nil => simp
  | cons first more ih =>
    obtain ⟨hfirst, hmore⟩ := List.forall_mem_cons.mp h
    cases more with
    | nil => simpa using hfirst
    | cons next more =>
      rw [List.intercalate_cons_cons]
      simp only [List.mem_append, not_or]
      exact ⟨⟨hfirst, hsep⟩, ih hmore⟩

theorem newline_not_mem_rule {left fill joint right : Char}
    (h : '\n' ∉ [left, fill, joint, right]) (widths : List Nat) :
    '\n' ∉ rule left fill joint right widths := by
  simp only [List.mem_cons, List.not_mem_nil, or_false, not_or] at h
  obtain ⟨hleft, hfill, hjoint, hright⟩ := h
  have hinner : '\n' ∉ [joint].intercalate (widths.map fun w => List.replicate w fill) := by
    refine not_mem_intercalate (by simpa using hjoint) ?_
    rw [List.forall_mem_map]
    exact fun w _ => by simp [hfill]
  simp [rule, hleft, hinner, hright]

/-! ## The whole table -/

theorem Regular.lt_of_mem_columnWidths (h : t.Regular) : ∀ w ∈ t.columnWidths, 2 < w :=
  forall_mem_of_forall₂ (h.hasRoom List.mem_cons_self).flip h.names.2 fun _ _ hname hroom =>
    Nat.lt_of_lt_of_le (Nat.add_lt_add_right hname 2) hroom

/-- Each cell has its column to itself. -/
theorem Regular.fitsIn (h : t.Regular) (hrow : row ∈ t.header :: t.rows) :
    List.Forall₂ FitsIn t.columnWidths row ∧ row ≠ [] := by
  have hroom := h.hasRoom hrow
  have hwhole := (List.forall₂_and_left _ _).mpr ⟨fun cell hcell => (h.cells row hrow cell hcell).2,
    ((List.forall₂_and_left _ _).mpr ⟨h.lt_of_mem_columnWidths, hroom⟩).flip⟩
  refine ⟨hwhole.flip.imp fun w cell hcell => ⟨hcell.2.1, hcell.2.2, hcell.1⟩, ?_⟩
  rw [← List.length_pos_iff, ← hroom.length_eq, (h.hasRoom List.mem_cons_self).length_eq]
  exact List.length_pos_iff.mpr h.names.1

/-- **A table that fits is printed whole.** -/
theorem Regular.showsTable (h : t.Regular) (hroom : RoomFor columns (t.header :: t.rows)) :
    ShowsTable t.title t.header t.rows (t.text columns) := by
  have hfits := totalWidth_le_of_roomFor hroom
  let widths := t.columnWidths
  have hrows : ∀ row ∈ t.rows, List.Forall₂ FitsIn widths row ∧ row ≠ [] :=
    fun row hrow => h.fitsIn (List.mem_cons_of_mem _ hrow)
  obtain ⟨hheader, hne⟩ := h.fitsIn List.mem_cons_self
  obtain ⟨head, hhead, hshows⟩ : ∃ head, rowLines '┃' widths t.header = [head] ∧
      ShowsRow '┃' t.header head := exists_rowLines hheader hne
  obtain ⟨body, hbody, hshown⟩ := exists_body hrows
  obtain ⟨hnames, hcells⟩ := List.forall_mem_cons.mp h.cells
  let title := titleLine (totalWidth widths) t.title.toList
  let top := rule '┏' '━' '┳' '┓' widths
  let under := rule '┡' '━' '╇' '┩' widths
  let bottom := rule '└' '─' '┴' '┘' widths
  have hlines : t.lines columns = title :: top :: head :: under :: (body ++ [bottom]) := by
    simp only [lines, h.shownWidths_eq hfits, h.lineFits_title.brokenLines_eq]
    rw [hhead, hbody]
    simp [title, top, under, bottom, widths]
  have htitle : '\n' ∉ title := by simp [title, titleLine, h.title.1]
  have hbodyFree : ∀ line ∈ body, '\n' ∉ line := forall_mem_of_forall₂ hshown hcells
    fun row line hrow hline => hline.newline_not_mem (by decide) fun cell hcell => (hrow cell hcell).1
  have hfree : ∀ line ∈ t.lines columns, '\n' ∉ line := by
    rw [hlines]
    simp only [List.forall_mem_cons, List.forall_mem_append]
    exact ⟨htitle, newline_not_mem_rule (by decide) _,
      hshows.newline_not_mem (by decide) fun cell hcell => (hnames cell hcell).1,
      newline_not_mem_rule (by decide) _, hbodyFree, newline_not_mem_rule (by decide) _,
      List.forall_mem_nil _⟩
  have hread : textLines (t.text columns).toList = t.lines columns ++ [[]] := by
    rw [text, String.toList_ofList, textLines_flatMap hfree]
  let left := (totalWidth widths - width t.title.toList) / 2
  let right := totalWidth widths - left - width t.title.toList
  refine ⟨left, right, top, head, under, bottom, body, ?_, hshows, hshown⟩
  rw [hread, hlines, List.cons_append, List.cons_append, List.cons_append, List.cons_append,
    List.append_assoc]
  rfl

end Table

end MonkeyScan.Console
