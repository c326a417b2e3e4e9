import Mathlib.Data.List.TakeWhile
import Vtb.Construction.CmdlineParser

namespace Vtb

namespace CmdlineParser

/-- White space, an optional plus sign, any number of zeros, the digit, and no digit behind it. -/
def SpellsDigit (digit : Char) (text : List Char) : Prop :=
  ∃ spaces sign zeros rest, text = spaces ++ sign ++ List.replicate zeros '0' ++ digit :: rest ∧
    (∀ c ∈ spaces, isSpace c = true) ∧ (sign = [] ∨ sign = ['+']) ∧
    (∀ c ∈ rest.head?, c.isDigit = false)

theorem toNat_of_isDigit {c : Char} (digit : c.isDigit = true) : 48 ≤ c.toNat ∧ c.toNat ≤ 57 := by
  simp only [Char.isDigit, Bool.and_eq_true, decide_eq_true_eq, UInt32.le_iff_toNat_le] at digit
  exact digit

/-- A digit sequence has a value below ten exactly when only its last digit can differ from zero. -/
theorem ofDigitChars_eq_digit {digits : List Char} (decimal : ∀ c ∈ digits, c.isDigit = true)
    {digit : Char} (own : digit.isDigit = true) (positive : digit ≠ '0') :
    Nat.ofDigitChars 10 digits 0 = digit.toNat - 48 ↔
      ∃ zeros, digits = List.replicate zeros '0' ++ [digit] := by
  obtain ⟨low, high⟩ := toNat_of_isDigit own
  have above : digit.toNat ≠ 48 := fun zero => positive (Char.toNat_inj.mp zero)
  constructor
  · intro value
    induction digits with
    | nil =>
        simp at value
        omega
    | cons c rest ih =>
        obtain ⟨lowC, highC⟩ := toNat_of_isDigit (decimal c (by simp))
        by_cases zero : c = '0'
        · subst zero
          obtain ⟨zeros, rfl⟩ := ih (fun other member => decimal other (by simp [member]))
            (by simpa [Nat.ofDigitChars_cons] using value)
          exact ⟨zeros + 1, rfl⟩
        · have nonzero : c.toNat ≠ 48 := fun same => zero (Char.toNat_inj.mp same)
          rw [Nat.ofDigitChars_cons, Nat.ofDigitChars_eq_ofDigitChars_zero] at value
          cases rest with
          | nil =>
              have same : c = digit := by
                apply Char.toNat_inj.mp
                simp at value
                omega
              exact ⟨0, by rw [same]; rfl⟩
          | cons next more =>
              have large : 10 ≤ 10 ^ (next :: more).length := by
                rw [List.length_cons, pow_succ]
                have one := Nat.one_le_pow more.length 10 (by decide)
                omega
              have product : 10 * 1 ≤ 10 ^ (next :: more).length * (10 * 0 + (c.toNat - '0'.toNat)) := by
                apply Nat.mul_le_mul large
                simp
                omega
              omega
  · rintro ⟨zeros, rfl⟩
    rw [Nat.ofDigitChars_append, Nat.ofDigitChars_replicate_zero, Nat.ofDigitChars_cons]
    simp

/-- A maximal run of a character class ends where the next character leaves the class. -/
theorem span_append {class_ : Char → Bool} {inside rest : List Char}
    (all : ∀ c ∈ inside, class_ c = true) (stop : ∀ c ∈ rest.head?, class_ c = false) :
    (inside ++ rest).takeWhile class_ = inside ∧ (inside ++ rest).dropWhile class_ = rest := by
  rw [List.takeWhile_append_of_pos all, List.dropWhile_append_of_pos all]
  cases rest with
  | nil => simp
  | cons c more => simp [stop c rfl]

/-- The character behind a maximal run leaves the class. -/
theorem head_dropWhile (class_ : Char → Bool) (text : List Char) :
    ∀ c ∈ (text.dropWhile class_).head?, class_ c = false := by
  intro c head
  have left := List.head?_dropWhile_not class_ text
  rw [Option.mem_def.mp head] at left
  simpa using left

/-- A digit is no white space and no sign. -/
theorem plain_of_isDigit {c : Char} (digit : c.isDigit = true) : isSpace c = false ∧ c ≠ '-' ∧ c ≠ '+' := by
  obtain ⟨low, high⟩ := toNat_of_isDigit digit
  have different (other : Char) (below : other.toNat < 48) : c ≠ other := by
    rintro rfl
    omega
  refine ⟨?_, different '-' (by decide), different '+' (by decide)⟩
  simp only [isSpace, Bool.or_eq_false_iff, beq_eq_false_iff_ne, ne_eq, different ' ' (by decide),
    not_false_eq_true, true_and, Bool.and_eq_false_iff, decide_eq_false_iff_not]
  omega

/-- White space in front of a text without it is dropped. -/
theorem dropWhile_spaces {spaces text : List Char} (spaced : ∀ c ∈ spaces, isSpace c = true)
    (leaves : ∀ c ∈ text.head?, isSpace c = false) : (spaces ++ text).dropWhile isSpace = text :=
  (span_append spaced leaves).2

/-- White space and at most one sign stand in front of a number. -/
theorem afterSign_eq (text : List Char) : ∃ spaces sign, text = spaces ++ sign ++ (afterSign text).2 ∧
    (∀ c ∈ spaces, isSpace c = true) ∧ (sign = [] ∨ sign = ['+'] ∨ sign = ['-']) ∧
    ((afterSign text).1 = true ↔ sign = ['-']) := by
  have whole : text.takeWhile isSpace ++ text.dropWhile isSpace = text := List.takeWhile_append_dropWhile
  have blank : ∀ c ∈ text.takeWhile isSpace, isSpace c = true := fun _ member => List.mem_takeWhile_imp member
  unfold afterSign
  split
  · next ended =>
      rw [ended] at whole
      exact ⟨text.takeWhile isSpace, [], by simpa using whole.symm, blank, by simp, by simp⟩
  · next c rest trimmed =>
      rw [trimmed] at whole
      split
      · next minus =>
          exact ⟨text.takeWhile isSpace, ['-'], by simpa [minus] using whole.symm, blank, by simp, by simp⟩
      · split
        · next plus =>
            exact ⟨text.takeWhile isSpace, ['+'], by simpa [plus] using whole.symm, blank, by simp, by simp⟩
        · exact ⟨text.takeWhile isSpace, [], by simpa using whole.symm, blank, by simp, by simp⟩

/-- A sign behind white space and in front of a digit is found. -/
theorem afterSign_of_split {spaces sign text : List Char} (spaced : ∀ c ∈ spaces, isSpace c = true)
    (signed : sign = [] ∨ sign = ['+'] ∨ sign = ['-']) (digital : ∀ c ∈ text.head?, c.isDigit = true) :
    afterSign (spaces ++ sign ++ text) = (decide (sign = ['-']), text) := by
  have visible : ∀ c ∈ text.head?, isSpace c = false := fun c head => (plain_of_isDigit (digital c head)).1
  rw [List.append_assoc]
  rcases signed with rfl | rfl | rfl
  · rw [afterSign, List.nil_append, dropWhile_spaces spaced visible]
    cases text with
    | nil => rfl
    | cons c rest =>
        obtain ⟨_, minus, plus⟩ := plain_of_isDigit (digital c rfl)
        simp [minus, plus]
  · rw [afterSign, dropWhile_spaces spaced (by simp [isSpace])]
    simp
  · rw [afterSign, dropWhile_spaces spaced (by simp [isSpace])]
    simp

/-- `stoi` reads a positive number below ten exactly when it finds digits of this value without a minus. -/
theorem stoi_eq_small {text : String} {number : Nat} (positive : 0 < number) (small : number < 10) :
    stoi text = .ok (number : Int) ↔
      ∃ digits, signedDigits text.toList = (false, digits) ∧ digits ≠ [] ∧
        Nat.ofDigitChars 10 digits 0 = number := by
  unfold stoi
  obtain ⟨negative, digits⟩ := signedDigits text.toList
  cases negative with
  | true =>
      simp only [if_true, Prod.mk.injEq, Bool.true_eq_false, false_and, exists_false, iff_false]
      split
      · simp
      · simp only [Except.ok.injEq]
        omega
  | false =>
      simp only [Bool.false_eq_true, if_false, Prod.mk.injEq, true_and, exists_eq_left']
      split
      · next outside =>
          simp only [reduceCtorEq, false_iff, not_and]
          intro some
          rcases outside with none | low | high
          · exact absurd none some
          · omega
          · omega
      · next inside =>
          simp only [Except.ok.injEq, Int.natCast_inj]
          exact ⟨fun same => ⟨fun none => inside (Or.inl none), same⟩, fun both => both.2⟩

/-- The digits without a minus stand between white space with at most one plus and the rest. -/
theorem signedDigits_eq {text digits : List Char} (some : digits ≠ []) :
    signedDigits text = (false, digits) ↔
      ∃ spaces sign rest, text = spaces ++ sign ++ digits ++ rest ∧
        (∀ c ∈ spaces, isSpace c = true) ∧ (sign = [] ∨ sign = ['+']) ∧
        (∀ c ∈ digits, c.isDigit = true) ∧ (∀ c ∈ rest.head?, c.isDigit = false) := by
  constructor
  · intro read
    obtain ⟨spaces, sign, whole, spaced, signed, minus⟩ := afterSign_eq text
    rw [signedDigits, Prod.mk.injEq] at read
    obtain ⟨positive, rfl⟩ := read
    have unsigned : sign = [] ∨ sign = ['+'] := by
      have plus : sign ≠ ['-'] := by simp [← minus, positive]
      simpa [plus] using signed
    refine ⟨spaces, sign, (afterSign text).2.dropWhile Char.isDigit, ?_, spaced, unsigned,
      fun _ member => List.mem_takeWhile_imp member, head_dropWhile Char.isDigit _⟩
    rw [List.append_assoc, List.takeWhile_append_dropWhile]
    exact whole
  · rintro ⟨spaces, sign, rest, rfl, spaced, signed, digital, stop⟩
    have found : afterSign (spaces ++ sign ++ (digits ++ rest)) = (decide (sign = ['-']), digits ++ rest) := by
      apply afterSign_of_split spaced (signed.imp_right Or.inl)
      obtain ⟨first, more, rfl⟩ := List.exists_cons_of_ne_nil some
      simpa using digital first (by simp)
    rw [List.append_assoc, signedDigits, found]
    rcases signed with rfl | rfl <;> simp [(span_append digital stop).1]

/-- `stoi` reads a digit other than zero exactly from its spellings. -/
theorem stoi_eq_digit {text : String} {digit : Char} (own : digit.isDigit = true)
    (positive : digit ≠ '0') :
    stoi text = .ok ((digit.toNat - 48 : Nat) : Int) ↔ SpellsDigit digit text.toList := by
  obtain ⟨low, high⟩ := toNat_of_isDigit own
  have above : digit.toNat ≠ 48 := fun zero => positive (Char.toNat_inj.mp zero)
  rw [stoi_eq_small (by omega) (by omega)]
  constructor
  · rintro ⟨digits, read, some, value⟩
    obtain ⟨spaces, sign, rest, text, blank, signed, decimal, stop⟩ := (signedDigits_eq some).mp read
    obtain ⟨zeros, rfl⟩ := (ofDigitChars_eq_digit decimal own positive).mp value
    exact ⟨spaces, sign, zeros, rest, by simpa using text, blank, signed, stop⟩
  · rintro ⟨spaces, sign, zeros, rest, text, blank, signed, stop⟩
    have decimal : ∀ c ∈ List.replicate zeros '0' ++ [digit], c.isDigit = true := by
      intro c member
      rcases List.mem_append.mp member with zero | last
      · rw [List.eq_of_mem_replicate zero]
        rfl
      · rw [List.mem_singleton.mp last, own]
    refine ⟨List.replicate zeros '0' ++ [digit], (signedDigits_eq (by simp)).mpr ?_, by simp,
      (ofDigitChars_eq_digit decimal own positive).mpr ⟨zeros, rfl⟩⟩
    exact ⟨spaces, sign, rest, by simpa using text, blank, signed, decimal, stop⟩

end CmdlineParser

end Vtb
