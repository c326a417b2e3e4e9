import Vtb.Construction.UnsignedArguments
import Vtb.Construction.Database
import Vtb.Proof.Parser.Integers
import Vtb.Proof.System.StartUp

namespace Vtb
open Library

namespace CmdlineParser

/-- No hexadecimal digit stands behind a marker. -/
def Unmarked (text : List Char) : Prop :=
  ∀ marker digit more, text = marker :: digit :: more → IsMarker marker → isDigitOf 16 digit = false

/-- A text that starts with digits of a base, and what may stand behind them. -/
inductive Spells : List Char → Nat → List Char → Prop where
  | hexadecimal (marker : Char) (marked : IsMarker marker) (digits rest : List Char) (some : digits ≠ [])
      (digital : ∀ c ∈ digits, isDigitOf 16 c = true) (stop : ∀ c ∈ rest.head?, isDigitOf 16 c = false) :
      Spells ('0' :: marker :: (digits ++ rest)) 16 digits
  | octal (digits rest : List Char) (digital : ∀ c ∈ digits, isDigitOf 8 c = true)
      (stop : ∀ c ∈ rest.head?, isDigitOf 8 c = false) (unmarked : Unmarked (digits ++ rest)) :
      Spells ('0' :: (digits ++ rest)) 8 ('0' :: digits)
  | decimal (digits rest : List Char) (some : digits ≠ []) (digital : ∀ c ∈ digits, isDigitOf 10 c = true)
      (stop : ∀ c ∈ rest.head?, isDigitOf 10 c = false) (start : digits.head? ≠ Option.some '0') :
      Spells (digits ++ rest) 10 digits

variable {text digits : List Char} {base : Nat}

theorem baseOf_hexadecimal {marker digit : Char} (marked : IsMarker marker) (digital : isDigitOf 16 digit = true)
    (more : List Char) : baseOf ('0' :: marker :: digit :: more) = (16, digit :: more) := by
  simp [baseOf, marked, digital]

theorem baseOf_octal {rest : List Char} (unmarked : Unmarked rest) : baseOf ('0' :: rest) = (8, '0' :: rest) := by
  simp only [baseOf, if_true]
  split
  · next marker digit more =>
      apply if_neg
      intro both
      rw [unmarked marker digit more rfl both.1] at both
      exact absurd both.2 (by decide)
  · rfl

theorem baseOf_decimal (start : text.head? ≠ some '0') : baseOf text = (10, text) := by
  cases text with
  | nil => rfl
  | cons c rest => exact if_neg (by simpa using start)

/-- A text is marked, or it has another leading zero, or none. -/
theorem base_cases (text : List Char) :
    (∃ marker digit more, text = '0' :: marker :: digit :: more ∧ IsMarker marker ∧ isDigitOf 16 digit = true) ∨
      (∃ rest, text = '0' :: rest ∧ Unmarked rest) ∨ text.head? ≠ some '0' := by
  by_cases start : text.head? = some '0'
  · obtain ⟨rest, rfl⟩ := List.head?_eq_some_iff.mp start
    by_cases unmarked : Unmarked rest
    · exact Or.inr (Or.inl ⟨rest, rfl, unmarked⟩)
    · unfold Unmarked at unmarked
      push Not at unmarked
      obtain ⟨marker, digit, more, rfl, marked, digital⟩ := unmarked
      exact Or.inl ⟨marker, digit, more, rfl, marked, by simpa using digital⟩
  · exact Or.inr (Or.inr start)

/-- The digits of the base that a text shows are its spelling. -/
theorem spells_iff : Spells text base digits ↔
    digits ≠ [] ∧ (baseOf text).1 = base ∧ (baseOf text).2.takeWhile (isDigitOf base) = digits := by
  constructor
  · intro spelled
    cases spelled with
    | hexadecimal marker marked _ rest some digital stop =>
        obtain ⟨first, others, rfl⟩ := List.exists_cons_of_ne_nil some
        rw [List.cons_append, baseOf_hexadecimal marked (digital first (by simp)), ← List.cons_append]
        exact ⟨some, rfl, (span_append digital stop).1⟩
    | octal others rest digital stop unmarked =>
        have all : ∀ c ∈ '0' :: others, isDigitOf 8 c = true :=
          List.forall_mem_cons.mpr ⟨by decide, digital⟩
        rw [baseOf_octal unmarked, ← List.cons_append]
        exact ⟨by simp, rfl, (span_append all stop).1⟩
    | decimal _ rest some digital stop start =>
        rw [baseOf_decimal (by rwa [List.head?_append_of_ne_nil _ some])]
        exact ⟨some, rfl, (span_append digital stop).1⟩
  · rintro ⟨some, rfl, rfl⟩
    rcases base_cases text with ⟨marker, digit, more, rfl, marked, digital⟩ | ⟨rest, rfl, unmarked⟩ | start
    · rw [baseOf_hexadecimal marked digital] at some ⊢
      have whole : (digit :: more).takeWhile (isDigitOf 16) ++ (digit :: more).dropWhile (isDigitOf 16) =
          digit :: more := List.takeWhile_append_dropWhile
      have spelled := Spells.hexadecimal marker marked _ _ some (fun _ member => List.mem_takeWhile_imp member)
        (head_dropWhile (isDigitOf 16) (digit :: more))
      rwa [whole] at spelled
    · rw [baseOf_octal unmarked]
      have whole : rest.takeWhile (isDigitOf 8) ++ rest.dropWhile (isDigitOf 8) = rest :=
        List.takeWhile_append_dropWhile
      have spelled := Spells.octal _ _ (fun _ member => List.mem_takeWhile_imp member)
        (head_dropWhile (isDigitOf 8) rest) (whole ▸ unmarked)
      have first : ('0' :: rest).takeWhile (isDigitOf 8) = '0' :: rest.takeWhile (isDigitOf 8) :=
        List.takeWhile_cons_of_pos (by decide)
      rwa [whole, ← first] at spelled
    · rw [baseOf_decimal start] at some ⊢
      have whole : text.takeWhile (isDigitOf 10) ++ text.dropWhile (isDigitOf 10) = text :=
        List.takeWhile_append_dropWhile
      have head : (text.takeWhile (isDigitOf 10)).head? ≠ Option.some '0' := by
        rwa [← whole, List.head?_append_of_ne_nil _ some] at start
      have spelled := Spells.decimal _ _ some (fun _ member => List.mem_takeWhile_imp member)
        (head_dropWhile (isDigitOf 10) text) head
      rwa [whole] at spelled

theorem isDigit_of_isDigitOf {c : Char} (digital : isDigitOf 10 c = true) : c.isDigit = true := by
  have value : digitValue c < 10 := by simpa [isDigitOf] using digital
  simp only [Char.isDigit, Bool.and_eq_true, decide_eq_true_eq, UInt32.le_iff_toNat_le]
  unfold digitValue at value
  split_ifs at value with low middle high
  · exact low
  · omega
  · omega
  · omega

/-- A number starts with a digit. -/
theorem Spells.head (spelled : Spells text base digits) : ∀ c ∈ text.head?, c.isDigit = true := by
  cases spelled with
  | hexadecimal marker marked _ rest some digital stop => simp
  | octal others rest digital stop unmarked => simp
  | decimal _ rest some digital stop start =>
      obtain ⟨first, others, rfl⟩ := List.exists_cons_of_ne_nil some
      simpa using isDigit_of_isDigitOf (digital first (by simp))

/-- The number of 64 bits that a sign and a number give. -/
def signedValue (sign : List Char) (number : Nat) : UInt64 :=
  if sign = ['-'] then -UInt64.ofNat number else UInt64.ofNat number

/-- A text that is read as a value: white space, at most one sign and a number below 2 ^ 64 in one of the three
spellings, with anything behind the number; a minus negates the value in 64 bits. -/
def ReadAs (text : List Char) (value : UInt64) : Prop :=
  ∃ spaces sign body base digits, text = spaces ++ sign ++ body ∧ (∀ c ∈ spaces, isSpace c = true) ∧
    (sign = [] ∨ sign = ['+'] ∨ sign = ['-']) ∧ Spells body base digits ∧ numeral base digits < 2 ^ 64 ∧
    value = signedValue sign (numeral base digits)

theorem stoull_eq_ok_iff (text : String) (value : UInt64) :
    stoull text = .ok value ↔ ReadAs text.toList value := by
  constructor
  · intro read
    unfold stoull at read
    dsimp only at read
    split at read
    · cases read
    · next inside =>
        obtain ⟨some, small⟩ := not_or.mp inside
        obtain ⟨spaces, sign, whole, spaced, signed, minus⟩ := afterSign_eq text.toList
        refine ⟨spaces, sign, _, _, _, whole, spaced, signed, spells_iff.mpr ⟨some, rfl, rfl⟩, by omega, ?_⟩
        rw [← Except.ok.inj read, signedValue]
        simp only [minus]
  · rintro ⟨spaces, sign, body, base, digits, whole, spaced, signed, spelled, small, rfl⟩
    obtain ⟨some, rfl, rfl⟩ := spells_iff.mp spelled
    unfold stoull
    rw [whole, afterSign_of_split spaced signed spelled.head]
    dsimp only
    rw [if_neg (not_or.mpr ⟨some, by omega⟩), signedValue]
    simp only [decide_eq_true_eq]

/-- An empty text is no number. -/
theorem not_readAs_nil (value : UInt64) : ¬ ReadAs [] value := by
  rintro ⟨spaces, sign, body, base, digits, whole, _, _, spelled, _⟩
  obtain ⟨_, rfl⟩ := List.append_eq_nil_iff.mp whole.symm
  obtain ⟨some, rfl, rfl⟩ := spells_iff.mp spelled
  exact some rfl

/-- `get<uint64_t>` returns zero for an empty text, and otherwise a value exactly when the text is read as it;
every other text is an exception. -/
theorem getUInt64_eq_ok_iff (parser : CmdlineParser) (name : String) (value : UInt64) :
    parser.getUInt64 name = .ok value ↔
      parser.get name = "" ∧ value = 0 ∨ ReadAs (parser.get name).toList value := by
  unfold getUInt64
  by_cases empty : parser.get name = ""
  · rw [if_pos (by simp [empty]), Except.ok.injEq]
    constructor
    · intro zero
      exact Or.inl ⟨empty, zero.symm⟩
    · rintro (⟨_, rfl⟩ | read)
      · rfl
      · rw [empty] at read
        exact absurd read (not_readAs_nil value)
  · rw [if_neg (by simpa using empty), stoull_eq_ok_iff]
    exact ⟨Or.inr, fun either => either.resolve_left fun both => empty both.1⟩

/-- A decimal number is spelled in base 10; zero alone has base 8. -/
theorem spells_decimal (number : Nat) :
    ∃ base digits, Spells (Nat.toDigits 10 number) base digits ∧ numeral base digits = number := by
  rcases Nat.eq_zero_or_pos number with rfl | positive
  · have spelled := Spells.octal [] [] (by simp) (by simp) (by simp [Unmarked])
    exact ⟨8, ['0'], spelled, by decide⟩
  · have spelled := Spells.decimal (Nat.toDigits 10 number) [] Nat.toDigits_ne_nil
      (isDigitOf_toDigits (by decide) (by decide) number) (by simp) (head_toDigits (by decide) (by decide) positive)
    rw [List.append_nil] at spelled
    exact ⟨10, _, spelled, numeral_toDigits (by decide) (by decide) number⟩

/-- A hexadecimal number is spelled behind its marker. -/
theorem spells_hexadecimal (number : Nat) :
    Spells ('0' :: 'x' :: Nat.toDigits 16 number) 16 (Nat.toDigits 16 number) := by
  have spelled := Spells.hexadecimal 'x' (Or.inl rfl) (Nat.toDigits 16 number) [] Nat.toDigits_ne_nil
    (isDigitOf_toDigits (by decide) (by decide) number) (by simp)
  rwa [List.append_nil] at spelled

/-- A text that is a number alone is read as this number. -/
theorem stoull_of_spells {text : String} (spelled : Spells text.toList base digits) {value : UInt64}
    (same : numeral base digits = value.toNat) : stoull text = .ok value := by
  apply (stoull_eq_ok_iff text value).mpr
  refine ⟨[], [], text.toList, base, digits, rfl, by simp, Or.inl rfl, spelled, ?_, ?_⟩
  · rw [same]
    exact value.toNat_lt
  · rw [same, signedValue, if_neg (by simp), UInt64.ofNat_toNat]

/-- The texts under which a number is written: in decimal digits, and as the configuration dump shows it. -/
inductive Written (value : UInt64) : String → Prop where
  | decimal : Written value (toString value)
  | dumped {Object : String → Type} : Written value (AnyValue.shown (⟨.uint64, value⟩ : AnyValue Object))

theorem Written.read {value : UInt64} {text : String} (written : Written value text) : stoull text = .ok value := by
  cases written with
  | decimal =>
      obtain ⟨base, digits, spelled, same⟩ := spells_decimal value.toNat
      have shown : (toString value).toList = Nat.toDigits 10 value.toNat := Nat.toList_repr
      rw [← shown] at spelled
      exact stoull_of_spells spelled same
  | dumped =>
      have shown : ("0x" ++ String.ofList (Nat.toDigits 16 value.toNat)).toList =
          '0' :: 'x' :: Nat.toDigits 16 value.toNat := by
        rw [String.toList_append, String.toList_ofList (l := Nat.toDigits 16 value.toNat)]
        rfl
      have spelled := spells_hexadecimal value.toNat
      rw [← shown] at spelled
      exact stoull_of_spells spelled (numeral_toDigits (by decide) (by decide) value.toNat)

/-- A written number is not the empty text. -/
theorem Written.some {value : UInt64} {text : String} (written : Written value text) : text.isEmpty = false := by
  have nothing : stoull "" = .error "stoull" := by decide
  by_contra empty
  have blank : text = "" := String.isEmpty_iff.mp (by simpa using empty)
  rw [← blank, written.read] at nothing
  cases nothing

/-- When the last value that a command line gives to an argument is a written 64-bit number, in decimal digits or
in the form of the configuration dump, `get<uint64_t>` returns this number under each name of the argument. -/
theorem uint64_read_back {calls : List AddArgument} {argv : List String} {parsed : CmdlineParser}
    (accepted : parse argv (registered calls) = .ok parsed) {name : String} {index : Nat}
    (found : resolve (registered calls).arguments name = some index) {value : UInt64} {text : String}
    (given : latest (setsValue (registered calls).arguments index) (groupsOf (appTokens argv)) = some text)
    (written : Written value text) : parsed.getUInt64 name = .ok value := by
  obtain ⟨arg, stored⟩ : ∃ arg, (registered calls).arguments[index]? = some arg := by
    obtain ⟨inside, _⟩ := List.findIdx?_eq_some_iff_getElem.mp found
    exact ⟨_, List.getElem?_eq_getElem inside⟩
  have stores : parsed.get name = text := by
    rw [get_of_parse accepted found stored, storedValue, given, Option.getD_some]
  rw [getUInt64, stores, if_neg (by simp [written.some]), written.read]

/-- A table with one argument. -/
def oneArgument : List AddArgument := [⟨"--seed", "-s", "A number", false, "0"⟩]

/-- The largest number is read back from its dump. -/
theorem uint64_read_back_largest :
    ∃ parsed, parse ["vtb", "--", "-s", "0xffffffffffffffff"] (registered oneArgument) = .ok parsed ∧
      parsed.getUInt64 "--seed" = .ok 0xffffffffffffffff := by
  have written : Written 0xffffffffffffffff "0xffffffffffffffff" := by
    have shown : AnyValue.shown (⟨.uint64, (0xffffffffffffffff : UInt64)⟩ : AnyValue fun _ => String) =
        "0xffffffffffffffff" := by decide +kernel
    rw [← shown]
    exact Written.dumped
  have accepted : (parse ["vtb", "--", "-s", "0xffffffffffffffff"] (registered oneArgument)).isOk := by
    decide +kernel
  cases parsing : parse ["vtb", "--", "-s", "0xffffffffffffffff"] (registered oneArgument) with
  | error what => simp [parsing, Except.isOk, Except.toBool] at accepted
  | ok parsed =>
      have found : resolve (registered oneArgument).arguments "--seed" = some 0 := by decide
      have given : latest (setsValue (registered oneArgument).arguments 0)
          (groupsOf (appTokens ["vtb", "--", "-s", "0xffffffffffffffff"])) = some "0xffffffffffffffff" := by
        decide +kernel
      exact ⟨parsed, rfl, uint64_read_back parsing found given written⟩

end CmdlineParser

end Vtb
