import Mathlib
import Vtb.Library.Text
import Vtb.Construction.ConfigManager

namespace Vtb
open Library

/-- The columns of a device, which its first row shows. -/
structure ShownDevice where
  portId : Int
  vid : Int
  nofQueuePairs : Int
  ready : Bool
  ctlqId : UInt16
  ctlFd : Int
deriving DecidableEq

/-- A row of the table: the device in the first row only, and one queue pair. -/
structure ShownRow where
  device : Option ShownDevice
  qpid : Int
  queues : VhostQueuePair
  descriptors : PortQueuePair
deriving DecidableEq

namespace ConfigManager

/-- What row `i` of a port shows. -/
def shownRow (portId : Int) (pm : PortMap) (i : Nat) : Option ShownRow :=
  (readCell pm.vd.qp i).bind fun queues =>
  (readCell pm.pd.qp i).bind fun descriptors =>
  (readCell pm.vd.qpid i).map fun qpid =>
    { device := if i = 0 then
        some ⟨portId, pm.vd.vid, pm.vd.nofQueuePairs, pm.vd.ready, pm.vd.ctlqId, pm.pd.ctlqId⟩ else none
      qpid, queues, descriptors }

/-- What a printout shows: the rows of each port, in the order of the ports. -/
def picture (config : ConfigManager) : Option (List (List ShownRow)) :=
  config.pmap.toList.mapM fun entry =>
    (List.range entry.2.vd.nofQueuePairs.toNat).mapM (shownRow entry.1 entry.2)

end ConfigManager

namespace ShownRow

/-- The columns of the queues are in each row. -/
def queueColumns (row : ShownRow) : List (Nat × List Char) :=
  [(8, (toString row.qpid).toList), (8, (toString row.queues.rxqId).toList),
    (8, (toString row.queues.txqId).toList), (10, (ConfigManager.yesNo row.queues.rxqEnabled).toList),
    (10, (ConfigManager.yesNo row.queues.txqEnabled).toList)]

def descriptorColumns (row : ShownRow) : List (Nat × List Char) :=
  [(8, (ConfigManager.fdColumn row.descriptors.rxqId).toList),
    (8, (ConfigManager.fdColumn row.descriptors.txqId).toList)]

/-- The columns of a row. The columns of the device are empty in the later rows. -/
def columnsOf (row : ShownRow) : List (Nat × List Char) :=
  match row.device with
  | some device =>
      [(8, (toString device.portId).toList), (6, (toString device.vid).toList),
        (8, (toString device.nofQueuePairs).toList)] ++ row.queueColumns ++
      [(8, (ConfigManager.yesNo device.ready).toList), (8, (toString device.ctlqId).toList)] ++
      row.descriptorColumns
  | none => [(22, [])] ++ row.queueColumns ++ [(8, []), (8, [])] ++ row.descriptorColumns

/-- The last column has no width. -/
def lastColumn (row : ShownRow) : List Char :=
  match row.device with
  | some device => (toString device.ctlFd).toList
  | none => [' ']

def text (row : ShownRow) : String := String.ofList (columns ' ' row.columnsOf ++ row.lastColumn)

end ShownRow

namespace ConfigManager

/-- Repeated characters stand behind a text. -/
theorem pushn_toList (text : String) (symbol : Char) (count : Nat) :
    (text.pushn symbol count).toList = text.toList ++ List.replicate count symbol := by
  induction count with
  | zero => simp [String.pushn_eq_repeat_push, Nat.repeat]
  | succ count ih =>
      rw [String.pushn_eq_repeat_push] at ih ⊢
      rw [Nat.repeat, String.toList_push, ih, List.append_assoc, List.replicate_succ']

/-- Each character of the text is one byte in UTF-8. -/
def Ascii (text : String) : Prop := ∀ c ∈ text.toList, c.toNat ≤ 127

instance (text : String) : Decidable (Ascii text) := inferInstanceAs (Decidable (∀ _ ∈ _, _))

theorem Ascii.utf8ByteSize_eq {text : String} (ascii : Ascii text) : text.utf8ByteSize = text.length := by
  induction text using String.push_induction with
  | empty => rfl
  | push text c ih =>
      rw [Ascii, String.toList_push, List.forall_mem_append, List.forall_mem_singleton] at ascii
      rw [String.utf8ByteSize_push, String.length_push, ih ascii.1, Char.utf8Size_eq_one_iff.mpr ascii.2]

theorem isDigit_of_mem_nat {number : Nat} {c : Char} (member : c ∈ number.repr.toList) : c.isDigit = true := by
  rw [Nat.toList_repr] at member
  exact Nat.isDigit_of_mem_toDigits (by decide) (by decide) member

/-- The text of a number is digits, with a sign before them. -/
theorem symbol_of_mem_int {value : Int} {c : Char} (member : c ∈ value.repr.toList) :
    c.isDigit = true ∨ c = '-' := by
  rw [Int.repr_eq_if] at member
  split at member
  · exact .inl (isDigit_of_mem_nat member)
  · rw [String.toList_append, List.mem_append] at member
    rcases member with sign | digit
    · exact .inr (by simpa using sign)
    · exact .inl (isDigit_of_mem_nat digit)

theorem toNat_le_of_isDigit {c : Char} (digit : c.isDigit = true) : c.toNat ≤ 127 := by
  simp only [Char.isDigit, Bool.and_eq_true, decide_eq_true_eq, UInt32.le_iff_toNat_le] at digit
  exact digit.2.trans (by decide)

@[simp] theorem ascii_nat (number : Nat) : Ascii number.repr :=
  fun _ member => toNat_le_of_isDigit (isDigit_of_mem_nat member)

@[simp] theorem ascii_int (value : Int) : Ascii value.repr := by
  intro c member
  rcases symbol_of_mem_int member with digit | rfl
  · exact toNat_le_of_isDigit digit
  · decide

@[simp] theorem ascii_uint16 (value : UInt16) : Ascii (toString value) := ascii_nat value.toNat

@[simp] theorem ascii_yesNo (flag : Bool) : Ascii (yesNo flag) := by
  cases flag <;> simp [Ascii, yesNo]

@[simp] theorem ascii_fdColumn (fd : Int) : Ascii (fdColumn fd) := by
  unfold fdColumn
  split
  · simp [Ascii]
  · exact ascii_int fd

@[simp] theorem ascii_blank : Ascii " " := by simp [Ascii]

/-- A text of such characters under a width is its characters and then blanks. -/
theorem padRight_toList (width : Nat) {text : String} (ascii : Ascii text) :
    (padRight width text).toList = padded ' ' width text.toList := by
  rw [padRight, ascii.utf8ByteSize_eq, pushn_toList, padded, String.length_toList]

/-- A printed row is the text of what it shows. -/
theorem portmapRow_eq (portId : Int) (pm : PortMap) (i : Nat) :
    portmapRow portId pm i = (shownRow portId pm i).map ShownRow.text := by
  unfold portmapRow shownRow
  cases readCell pm.vd.qp i <;> cases readCell pm.pd.qp i <;> cases readCell pm.vd.qpid i <;> simp
  apply String.toList_inj.mp
  split <;> simp [ShownRow.text, ShownRow.columnsOf, ShownRow.lastColumn, ShownRow.queueColumns,
    ShownRow.descriptorColumns, columns, padRight_toList, padded_blank]

end ConfigManager

section Columns

/-- A number is not wider than its column, with its sign. -/
def FitsNumber (width : Nat) (value : Int) : Prop := -(10 ^ (width - 1)) < value ∧ value < 10 ^ width

instance (width : Nat) (value : Int) : Decidable (FitsNumber width value) := inferInstanceAs (Decidable (_ ∧ _))

/-- The digits of a number contain no blank. -/
theorem blank_not_mem_repr (number : Nat) : ' ' ∉ number.repr.toList := by
  intro member
  exact absurd (ConfigManager.isDigit_of_mem_nat member) (by decide)

theorem column_nat {width number : Nat} (positive : 0 < width) (fits : number < 10 ^ width) :
    Column ' ' (width, number.repr.toList) := by
  apply And.intro (blank_not_mem_repr number)
  rw [String.length_toList]
  exact (Nat.length_repr_le_iff positive).mpr fits

/-- A number that fits is a column without a blank. -/
theorem column_int {width : Nat} {value : Int} (wide : 1 < width) (fits : FitsNumber width value) :
    Column ' ' (width, (toString value).toList) := by
  obtain ⟨above, below⟩ := fits
  rw [Int.toString_eq_repr, Int.repr_eq_if]
  split
  · next positive =>
      apply column_nat (by omega)
      zify
      rw [Int.toNat_of_nonneg positive]
      exact below
  · next negative =>
      have small : (-value).toNat < 10 ^ (width - 1) := by
        zify
        rw [Int.toNat_of_nonneg (by omega)]
        omega
      obtain ⟨clean, short⟩ := column_nat (by omega) small
      constructor
      · simp only [String.toList_append, List.mem_append, not_or]
        exact ⟨by decide, clean⟩
      · have one : "-".toList.length = 1 := by decide
        simp only [String.toList_append, List.length_append, one]
        dsimp only at short
        omega

theorem column_uint16 (value : UInt16) : Column ' ' (8, (toString value).toList) := by
  apply column_nat (by decide)
  have bound := value.toNat_lt
  omega

theorem column_yesNo {width : Nat} (flag : Bool) (wide : 3 ≤ width) :
    Column ' ' (width, (ConfigManager.yesNo flag).toList) := by
  have short : ∀ flag,
      ' ' ∉ (ConfigManager.yesNo flag).toList ∧ (ConfigManager.yesNo flag).toList.length ≤ 3 := by
    decide
  exact ⟨(short flag).1, (short flag).2.trans wide⟩

theorem column_fd {fd : Int} (fits : FitsNumber 8 fd) : Column ' ' (8, (ConfigManager.fdColumn fd).toList) := by
  unfold ConfigManager.fdColumn
  split
  · exact ⟨by decide, by decide⟩
  · exact column_int (by decide) fits

theorem yesNo_injective : Function.Injective ConfigManager.yesNo := by
  intro flag other same
  cases flag <;> cases other <;> first | rfl | exact absurd same (by decide)

/-- No number is shown as a dash. -/
theorem toString_ne_dash (value : Int) : toString value ≠ "-" := by
  intro dash
  rw [Int.toString_eq_repr, Int.repr_eq_if] at dash
  split at dash
  · have member : '-' ∈ value.toNat.repr.toList := by
      rw [dash]
      decide
    exact absurd (ConfigManager.isDigit_of_mem_nat member) (by decide)
  · have lengths := congrArg String.length dash
    have one : "-".length = 1 := by decide
    rw [String.length_append, one] at lengths
    have positive := Nat.length_repr_pos (n := (-value).toNat)
    omega

theorem fdColumn_injective : Function.Injective ConfigManager.fdColumn := by
  intro fd other same
  unfold ConfigManager.fdColumn at same
  split_ifs at same with left right right
  · rw [left, right]
  · exact absurd same.symm (toString_ne_dash other)
  · exact absurd same (toString_ne_dash fd)
  · exact Int.repr_injective same

theorem toString_uint16_injective : Function.Injective (fun value : UInt16 => toString value) := by
  intro value other same
  exact UInt16.toNat_inj.mp (Nat.repr_injective same)

end Columns

namespace ShownRow

/-- Every number that a row shows fits into its column; the last column has no width. -/
structure Fits (row : ShownRow) : Prop where
  device : ∀ device ∈ row.device,
    FitsNumber 8 device.portId ∧ FitsNumber 6 device.vid ∧ FitsNumber 8 device.nofQueuePairs
  qpid : FitsNumber 8 row.qpid
  rxqFd : FitsNumber 8 row.descriptors.rxqId
  txqFd : FitsNumber 8 row.descriptors.txqId

variable {row other : ShownRow}

theorem column_empty (width : Nat) : Column ' ' (width, ([] : List Char)) := ⟨by simp, by simp⟩

theorem Fits.queueColumns (fits : row.Fits) : ∀ column ∈ row.queueColumns, Column ' ' column := by
  simp only [ShownRow.queueColumns, List.forall_mem_cons, List.not_mem_nil, false_implies, implies_true, and_true]
  exact ⟨column_int (by decide) fits.qpid, column_uint16 _, column_uint16 _, column_yesNo _ (by decide),
    column_yesNo _ (by decide)⟩

theorem Fits.descriptorColumns (fits : row.Fits) : ∀ column ∈ row.descriptorColumns, Column ' ' column := by
  simp only [ShownRow.descriptorColumns, List.forall_mem_cons, List.not_mem_nil, false_implies, implies_true,
    and_true]
  exact ⟨column_fd fits.rxqFd, column_fd fits.txqFd⟩

/-- The columns of a row that fits can be told apart. -/
theorem Fits.columnsOf (fits : row.Fits) : ∀ column ∈ row.columnsOf, Column ' ' column := by
  intro column member
  unfold ShownRow.columnsOf at member
  split at member
  · next device shown =>
      obtain ⟨port, vid, count⟩ := fits.device device (by simp [shown])
      simp only [List.mem_append, or_assoc] at member
      rcases member with first | queues | middle | descriptors
      · simp only [List.mem_cons, List.not_mem_nil, or_false] at first
        rcases first with rfl | rfl | rfl
        · exact column_int (by decide) port
        · exact column_int (by decide) vid
        · exact column_int (by decide) count
      · exact fits.queueColumns column queues
      · simp only [List.mem_cons, List.not_mem_nil, or_false] at middle
        rcases middle with rfl | rfl
        · exact column_yesNo _ (by decide)
        · exact column_uint16 _
      · exact fits.descriptorColumns column descriptors
  · simp only [List.mem_append, or_assoc] at member
    rcases member with first | queues | middle | descriptors
    · obtain rfl := List.mem_singleton.mp first
      exact column_empty _
    · exact fits.queueColumns column queues
    · simp only [List.mem_cons, List.not_mem_nil, or_false, or_self] at middle
      rw [middle]
      exact column_empty _
    · exact fits.descriptorColumns column descriptors

/-- The same columns of the queues show the same queues. -/
theorem queues_of_columns (queues : row.queueColumns = other.queueColumns)
    (descriptors : row.descriptorColumns = other.descriptorColumns) :
    row.qpid = other.qpid ∧ row.queues = other.queues ∧ row.descriptors = other.descriptors := by
  obtain ⟨_, qpid, ⟨rxq, txq, rxqEnabled, txqEnabled⟩, ⟨rxqFd, txqFd⟩⟩ := row
  obtain ⟨_, otherQpid, ⟨otherRxq, otherTxq, otherRxqOn, otherTxqOn⟩, ⟨otherRxqFd, otherTxqFd⟩⟩ := other
  simp only [ShownRow.queueColumns, ShownRow.descriptorColumns, List.cons.injEq, Prod.mk.injEq, true_and,
    and_true, String.toList_inj] at queues descriptors
  simp only [VhostQueuePair.mk.injEq, PortQueuePair.mk.injEq]
  exact ⟨Int.repr_injective queues.1,
    ⟨toString_uint16_injective queues.2.1, toString_uint16_injective queues.2.2.1,
      yesNo_injective queues.2.2.2.1, yesNo_injective queues.2.2.2.2⟩,
    fdColumn_injective descriptors.1, fdColumn_injective descriptors.2⟩

/-- The first row of a device starts with a digit or a sign. -/
theorem head_ne_blank (value : Int) (rest : List Char) :
    (padded ' ' 8 (toString value).toList ++ rest).head? ≠ some ' ' := by
  have clean : ' ' ∉ (toString value).toList := by
    intro member
    exact absurd (ConfigManager.symbol_of_mem_int member) (by decide)
  have shown : (toString value).toList ≠ [] := by
    rw [Int.toString_eq_repr, Int.repr_eq_if]
    split
    · intro empty
      have positive := Nat.length_repr_pos (n := value.toNat)
      rw [← String.length_toList, empty] at positive
      exact absurd positive (by decide)
    · simp
  obtain ⟨first, more, same⟩ := List.exists_cons_of_ne_nil shown
  rw [same] at clean
  rw [padded, same]
  intro blank
  simp only [List.cons_append, List.head?_cons, Option.some.injEq] at blank
  exact clean (by simp [blank])

/-- Rows of one kind have the same columns. -/
theorem widths_eq (row other : ShownRow) (same : row.device.isSome = other.device.isSome) :
    row.columnsOf.map Prod.fst = other.columnsOf.map Prod.fst := by
  unfold columnsOf
  cases left : row.device <;> cases right : other.device <;> simp [left, right] at same <;> rfl

/-- The text of a row tells what it shows. -/
theorem text_inj (fits : row.Fits) (otherFits : other.Fits) (same : row.text = other.text) : row = other := by
  have texts : columns ' ' row.columnsOf ++ row.lastColumn = columns ' ' other.columnsOf ++ other.lastColumn := by
    simpa [text] using congrArg String.toList same
  have clean := fits.columnsOf
  have otherClean := otherFits.columnsOf
  obtain ⟨device, qpid, queues, descriptors⟩ := row
  obtain ⟨otherDevice, otherQpid, otherQueues, otherDescriptors⟩ := other
  cases device with
  | none =>
      cases otherDevice with
      | none =>
          have widths := widths_eq ⟨none, qpid, queues, descriptors⟩
            ⟨none, otherQpid, otherQueues, otherDescriptors⟩ rfl
          obtain ⟨table, _⟩ := columns_append_inj widths clean otherClean texts
          obtain ⟨front, descriptorsSame⟩ := List.append_inj' table rfl
          obtain ⟨front, _⟩ := List.append_inj' front rfl
          obtain ⟨_, queuesSame⟩ := List.append_inj front rfl
          obtain ⟨rfl, rfl, rfl⟩ := queues_of_columns queuesSame descriptorsSame
          rfl
      | some otherDevice =>
          have heads := congrArg List.head? texts
          simp only [columnsOf, columns, List.flatMap_append, List.flatMap_cons, List.append_assoc] at heads
          exact absurd heads.symm (head_ne_blank otherDevice.portId _)
  | some device =>
      cases otherDevice with
      | none =>
          have heads := congrArg List.head? texts
          simp only [columnsOf, columns, List.flatMap_append, List.flatMap_cons, List.append_assoc] at heads
          exact absurd heads (head_ne_blank device.portId _)
      | some otherDevice =>
          have widths := widths_eq ⟨some device, qpid, queues, descriptors⟩
            ⟨some otherDevice, otherQpid, otherQueues, otherDescriptors⟩ rfl
          obtain ⟨table, last⟩ := columns_append_inj widths clean otherClean texts
          obtain ⟨front, descriptorsSame⟩ := List.append_inj' table rfl
          obtain ⟨front, middle⟩ := List.append_inj' front rfl
          obtain ⟨first, queuesSame⟩ := List.append_inj front rfl
          obtain ⟨rfl, rfl, rfl⟩ := queues_of_columns queuesSame descriptorsSame
          obtain ⟨portId, vid, nofQueuePairs, ready, ctlqId, ctlFd⟩ := device
          obtain ⟨otherPortId, otherVid, otherPairs, otherReady, otherCtlqId, otherCtlFd⟩ := otherDevice
          simp only [List.cons.injEq, Prod.mk.injEq, true_and, and_true, String.toList_inj] at first middle
          obtain rfl := Int.repr_injective first.1
          obtain rfl := Int.repr_injective first.2.1
          obtain rfl := Int.repr_injective first.2.2
          obtain rfl := yesNo_injective middle.1
          obtain rfl := toString_uint16_injective middle.2
          obtain rfl := Int.repr_injective (String.toList_inj.mp last)
          rfl

/-- A row has a blank in it, so it is not the rule. -/
theorem text_ne_rule (row : ShownRow) : row.text ≠ ConfigManager.portmapRule := by
  intro same
  have shown : (10, (ConfigManager.yesNo row.queues.rxqEnabled).toList) ∈ row.columnsOf := by
    unfold columnsOf
    split <;> simp [queueColumns]
  have blank : ' ' ∈ padded ' ' 10 (ConfigManager.yesNo row.queues.rxqEnabled).toList := by
    cases row.queues.rxqEnabled <;> decide
  have inside : ' ' ∈ row.text.toList := by
    rw [text, String.toList_ofList]
    exact List.mem_append_left _ (List.mem_flatMap.mpr ⟨_, shown, blank⟩)
  rw [same, ConfigManager.portmapRule, ConfigManager.pushn_toList] at inside
  simp at inside

end ShownRow

namespace ConfigManager

/-- Each number that a printout shows fits into its column. -/
def FitsColumns (config : ConfigManager) : Prop :=
  ∀ ports, config.picture = some ports → ∀ rows ∈ ports, ∀ row ∈ rows, ShownRow.Fits row

/-- A printout is the header and the text of what it shows; a rule ends each port. -/
theorem printPortmap_eq (config : ConfigManager) :
    config.printPortmap = config.picture.map fun ports =>
      portmapHeader :: portmapRule :: joinLines portmapRule (ports.map fun rows => rows.map ShownRow.text) := by
  have rows (entry : Int × PortMap) : portmapRows entry.1 entry.2 =
      ((List.range entry.2.vd.nofQueuePairs.toNat).mapM (shownRow entry.1 entry.2)).map fun rows =>
        rows.map ShownRow.text ++ [portmapRule] := by
    have images : portmapRow entry.1 entry.2 = fun i => (shownRow entry.1 entry.2 i).map ShownRow.text := by
      funext i
      exact portmapRow_eq entry.1 entry.2 i
    rw [portmapRows, images, mapM_option_map, Option.map_map]
    rfl
  simp only [printPortmap, picture, rows]
  rw [mapM_option_map, Option.map_map]
  apply congrArg (fun print => Option.map print _)
  funext ports
  rw [joinLines, List.flatMap_def, List.map_map]
  rfl

/-- Two port maps print alike exactly when the rows of their ports show the same: no two different ports,
queues or descriptors have one text, and the rows of one port cannot be taken for those of another. -/
theorem prints_alike_iff {first second : ConfigManager} (fits : first.FitsColumns) (otherFits : second.FitsColumns) :
    first.printPortmap = second.printPortmap ↔ first.picture = second.picture := by
  constructor
  · intro same
    rw [printPortmap_eq, printPortmap_eq] at same
    cases left : first.picture with
    | none => cases right : second.picture <;> simp [left, right] at same ⊢
    | some ports =>
        cases right : second.picture with
        | none => simp [left, right] at same
        | some others =>
            simp only [left, right, Option.map_some, Option.some.injEq, List.cons.injEq, true_and] at same
            have blocks := joinLines_inj (by simp [ShownRow.text_ne_rule]) (by simp [ShownRow.text_ne_rule]) same
            congr 1
            apply map_inj_of _ blocks
            intro rows member other inside texts
            apply map_inj_of _ texts
            intro row shown one also alike
            exact ShownRow.text_inj (fits ports left rows member row shown)
              (otherFits others right other inside one also) alike
  · intro same
    rw [printPortmap_eq, printPortmap_eq, same]

/-- A port map with one device of one queue pair, whose transmit ring may be enabled. -/
def onePort (enabled : Bool) : ConfigManager :=
  ⟨CmdlineParser.empty, (∅ : PortTable).insert 0 { PortMap.zero with
    vd := { PortMap.zero.vd with
      nofQueuePairs := 1, ready := true, qp := PortMap.zero.vd.qp.set 0 ⟨0, 1, true, enabled⟩ }
    pd := { PortMap.zero.pd with qp := PortMap.zero.pd.qp.set 0 ⟨-1, -1⟩ } }⟩

/-- What the port map with one device shows. -/
def onePortRow (enabled : Bool) : ShownRow :=
  ⟨some ⟨0, 0, 1, true, 0, 0⟩, 0, ⟨0, 1, true, enabled⟩, ⟨-1, -1⟩⟩

theorem picture_onePort (enabled : Bool) : (onePort enabled).picture = some [[onePortRow enabled]] := by
  cases enabled <;> decide +kernel

theorem fitsColumns_onePort (enabled : Bool) : (onePort enabled).FitsColumns := by
  intro ports shown rows member row inside
  rw [picture_onePort, Option.some.injEq] at shown
  obtain rfl : rows = [onePortRow enabled] := by simpa [← shown] using member
  obtain rfl := List.mem_singleton.mp inside
  exact ⟨by simp [onePortRow, FitsNumber], by simp [onePortRow, FitsNumber], by simp [onePortRow, FitsNumber],
    by simp [onePortRow, FitsNumber]⟩

/-- An enabled ring is printed in another way. -/
theorem prints_apart_onePort : (onePort true).printPortmap ≠ (onePort false).printPortmap := by
  rw [Ne, prints_alike_iff (fitsColumns_onePort true) (fitsColumns_onePort false), picture_onePort, picture_onePort]
  decide

end ConfigManager

end Vtb
