import Mathlib.Tactic

namespace Vtb.Library
variable {Symbol : Type*}

/-- A text of columns: each entry is followed by blanks up to the width of its column. -/
def padded (blank : Symbol) (width : Nat) (entry : List Symbol) : List Symbol :=
  entry ++ List.replicate (width - entry.length) blank

/-- A blank entry is shown like an empty one. -/
theorem padded_blank (blank : Symbol) {width : Nat} (positive : 0 < width) :
    padded blank width [blank] = padded blank width [] := by
  obtain ⟨less, rfl⟩ := Nat.exists_eq_add_one.mpr positive
  simp [padded, List.replicate_succ]

/-- An entry that fits fills its column. -/
theorem length_padded {blank : Symbol} {width : Nat} {entry : List Symbol} (fits : entry.length ≤ width) :
    (padded blank width entry).length = width := by
  rw [padded, List.length_append, List.length_replicate]
  omega

/-- A column and the text behind it can be read back when its entry has no blank and fits. -/
theorem padded_append_inj {blank : Symbol} {width : Nat} {entry other rest more : List Symbol}
    (clean : blank ∉ entry) (otherClean : blank ∉ other) (fits : entry.length ≤ width)
    (otherFits : other.length ≤ width)
    (same : padded blank width entry ++ rest = padded blank width other ++ more) :
    entry = other ∧ rest = more := by
  classical
  obtain ⟨columns, behind⟩ := List.append_inj same (by rw [length_padded fits, length_padded otherFits])
  apply And.intro _ behind
  have read : ∀ text : List Symbol, blank ∉ text →
      (padded blank width text).takeWhile (fun symbol => decide (symbol ≠ blank)) = text := by
    intro text free
    have kept : ∀ symbol ∈ text, decide (symbol ≠ blank) = true := by
      intro symbol member
      have apart : symbol ≠ blank := fun equal => free (equal ▸ member)
      simpa using apart
    rw [padded, List.takeWhile_append_of_pos kept, List.takeWhile_replicate]
    simp
  rw [← read entry clean, columns, read other otherClean]

/-- A row of a table: each column has a width and an entry. -/
def columns (blank : Symbol) (row : List (Nat × List Symbol)) : List Symbol :=
  row.flatMap fun column => padded blank column.1 column.2

/-- An entry has no blank and is not wider than its column. -/
def Column (blank : Symbol) (column : Nat × List Symbol) : Prop :=
  blank ∉ column.2 ∧ column.2.length ≤ column.1

/-- The columns of a row and the text behind them can be read back. -/
theorem columns_append_inj {blank : Symbol} {row other : List (Nat × List Symbol)} {rest more : List Symbol}
    (widths : row.map Prod.fst = other.map Prod.fst) (clean : ∀ column ∈ row, Column blank column)
    (otherClean : ∀ column ∈ other, Column blank column)
    (same : columns blank row ++ rest = columns blank other ++ more) : row = other ∧ rest = more := by
  induction row generalizing other with
  | nil =>
      obtain rfl : other = [] := List.map_eq_nil_iff.mp widths.symm
      exact ⟨rfl, same⟩
  | cons column row ih =>
      obtain ⟨next, others, rfl, width, later⟩ := List.map_eq_cons_iff.mp widths.symm
      simp only [columns, List.flatMap_cons, List.append_assoc] at same
      obtain ⟨blankFree, fits⟩ := clean column (by simp)
      obtain ⟨otherFree, otherFits⟩ := otherClean next (by simp)
      rw [width] at same otherFits
      obtain ⟨entry, behind⟩ := padded_append_inj blankFree otherFree fits otherFits same
      obtain ⟨rows, rests⟩ := ih later.symm (fun one member => clean one (List.mem_cons_of_mem _ member))
        (fun one member => otherClean one (List.mem_cons_of_mem _ member)) behind
      exact ⟨by rw [Prod.ext width.symm entry, rows], rests⟩

/-- A partial function can be followed by a total one inside or outside of the list. -/
theorem mapM_option_map {Entry Middle Image : Type*} (convert : Entry → Option Middle) (image : Middle → Image)
    (entries : List Entry) :
    (entries.mapM fun entry => (convert entry).map image) = (entries.mapM convert).map (List.map image) := by
  induction entries with
  | nil => rfl
  | cons entry entries ih =>
      simp only [List.mapM_cons, ih]
      cases convert entry <;> cases entries.mapM convert <;> rfl

/-- Lists with the same images are the same when the images of their entries tell these apart. -/
theorem map_inj_of {Entry Image : Type*} {image : Entry → Image} {entries others : List Entry}
    (apart : ∀ entry ∈ entries, ∀ other ∈ others, image entry = image other → entry = other)
    (same : entries.map image = others.map image) : entries = others := by
  induction entries generalizing others with
  | nil => exact (List.map_eq_nil_iff.mp same.symm).symm
  | cons entry entries ih =>
      obtain ⟨other, rest, rfl, first, later⟩ := List.map_eq_cons_iff.mp same.symm
      rw [apart entry (by simp) other (by simp) first.symm,
        ih (fun one member two inside => apart one (List.mem_cons_of_mem _ member) two
          (List.mem_cons_of_mem _ inside)) later.symm]

variable [DecidableEq Symbol] (ending : Symbol)

/-- The lines of a text; nothing may stand behind the last ending. -/
def cutLines : List Symbol → Option (List (List Symbol))
  | [] => some []
  | symbol :: rest =>
      if symbol = ending then (cutLines rest).map fun lines => [] :: lines
      else
        match cutLines rest with
        | some (line :: lines) => some ((symbol :: line) :: lines)
        | _ => none

/-- Each line is followed by the ending. -/
def joinLines (lines : List (List Symbol)) : List Symbol := lines.flatMap fun line => line ++ [ending]

variable {ending}

/-- The first line of a text is read back. -/
theorem cutLines_append {line : List Symbol} (clean : ending ∉ line) (rest : List Symbol) :
    cutLines ending (line ++ ending :: rest) = (cutLines ending rest).map fun lines => line :: lines := by
  induction line with
  | nil => simp [cutLines]
  | cons symbol line ih =>
      have apart : symbol ≠ ending := fun same => clean (by simp [same])
      have later := ih fun member => clean (List.mem_cons_of_mem _ member)
      rw [List.cons_append, cutLines, if_neg apart, later]
      cases cutLines ending rest <;> rfl

/-- The lines of a text that ends with a line stand before the lines of what follows. -/
theorem cutLines_append_text {first : List Symbol} {lines : List (List Symbol)}
    (whole : cutLines ending first = some lines) (second : List Symbol) :
    cutLines ending (first ++ second) = (cutLines ending second).map fun later => lines ++ later := by
  induction first generalizing lines with
  | nil =>
      obtain rfl := Option.some.inj whole
      simp
  | cons symbol rest ih =>
      rw [List.cons_append, cutLines]
      rw [cutLines] at whole
      by_cases ended : symbol = ending
      · rw [if_pos ended] at whole ⊢
        obtain ⟨tail, cut, rfl⟩ := Option.map_eq_some_iff.mp whole
        rw [ih cut, Option.map_map]
        rfl
      · rw [if_neg ended] at whole ⊢
        cases cut : cutLines ending rest with
        | none => simp [cut] at whole
        | some tail =>
            cases tail with
            | nil => simp [cut] at whole
            | cons line later =>
                rw [cut] at whole
                obtain rfl := Option.some.inj whole
                rw [ih cut]
                cases cutLines ending second <;> rfl

/-- Lines without an ending inside are read back from their text. -/
theorem cutLines_joinLines {lines : List (List Symbol)} (clean : ∀ line ∈ lines, ending ∉ line) :
    cutLines ending (joinLines ending lines) = some lines := by
  induction lines with
  | nil => rfl
  | cons line lines ih =>
      have later := ih fun other member => clean other (List.mem_cons_of_mem _ member)
      rw [joinLines, List.flatMap_cons, ← joinLines, List.append_assoc, List.singleton_append,
        cutLines_append (clean line (by simp)), later, Option.map_some]

/-- Texts of lines without an ending inside are the same only for the same lines. -/
theorem joinLines_inj {lines others : List (List Symbol)} (clean : ∀ line ∈ lines, ending ∉ line)
    (otherClean : ∀ line ∈ others, ending ∉ line) (same : joinLines ending lines = joinLines ending others) :
    lines = others := by
  apply Option.some.inj
  rw [← cutLines_joinLines clean, same, cutLines_joinLines otherClean]

end Vtb.Library
