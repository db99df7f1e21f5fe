import Mathlib.Data.List.Basic
import Mathlib.Tactic.Ring

/-!
# Decimal numbers and UTC timestamps in text

Numbers are printed in decimal, of any width or of a fixed one, and read back.
A timestamp is printed in the extended format of ISO 8601 with the offset of
UTC, without a fraction when it has none.  What is printed is read back as it
was, whatever text follows a field.
-/

namespace UtcTimestamp

/-! ## Decimal numbers -/

/-- The number of a nonempty text of digits. -/
def natOf? (text : List Char) : Option Nat :=
  if text ≠ [] ∧ text.all Char.isDigit then
    some (Nat.ofDigitChars 10 text 0)
  else none

/-- The number of a text of digits, after a minus sign or not. -/
def intOf? : List Char → Option Int
  | '-' :: text => (natOf? text).map fun value => -(value : Int)
  | text => (natOf? text).map Int.ofNat

theorem natOf?_toDigits (value : Nat) :
    natOf? (Nat.toDigits 10 value) = some value := by
  have digits : (Nat.toDigits 10 value).all Char.isDigit = true :=
    List.all_eq_true.mpr fun _ mem =>
      Nat.isDigit_of_mem_toDigits (by decide) (by decide) mem
  rw [natOf?, if_pos ⟨Nat.toDigits_ne_nil, digits⟩,
    Nat.ofDigitChars_ten_toDigits]

theorem intOf?_toDigits (value : Nat) :
    intOf? (Nat.toDigits 10 value) = some (value : Int) := by
  have noSign (text : List Char) : Nat.toDigits 10 value ≠ '-' :: text := by
    intro isSigned
    have mem : '-' ∈ Nat.toDigits 10 value := by simp [isSigned]
    have isDigit := Nat.isDigit_of_mem_toDigits (by decide) (by decide) mem
    exact absurd isDigit (by decide)
  rw [intOf?.eq_2 _ noSign, natOf?_toDigits]
  rfl

/-- A printed integer reads as itself. -/
theorem intOf?_repr (value : Int) : intOf? value.repr.toList = some value := by
  cases value with
  | ofNat value =>
      have printed : (Int.repr (.ofNat value)).toList = Nat.toDigits 10 value :=
        Nat.toList_repr
      rw [printed]
      exact intOf?_toDigits value
  | negSucc value =>
      have printed : (Int.repr (.negSucc value)).toList =
          '-' :: Nat.toDigits 10 (value + 1) := by
        rw [Int.repr, String.toList_append, Nat.toList_repr]
        rfl
      rw [printed, intOf?, natOf?_toDigits]
      rfl

/-! ## Fields of fixed width -/

def digit (value : Nat) : Char :=
  Nat.digitChar value

def digitValue? (char : Char) : Option Nat :=
  if char.isDigit then some (char.toNat - '0'.toNat) else none

theorem digitValue?_digit {value : Nat} (small : value < 10) :
    digitValue? (digit value) = some value := by
  revert value
  decide

/-- A number in `width` digits. -/
def fixed : (width value : Nat) → List Char
  | 0, _ => []
  | width + 1, value =>
      digit (value / 10 ^ width) :: fixed width (value % 10 ^ width)

/-- Read `width` digits after those of `high`. -/
def readFixed : (width high : Nat) → List Char → Option (Nat × List Char)
  | 0, high, text => some (high, text)
  | _ + 1, _, [] => none
  | width + 1, high, char :: text =>
      (digitValue? char).bind fun low => readFixed width (10 * high + low) text

theorem readFixed_fixed {width high value : Nat} (rest : List Char)
    (fits : value < 10 ^ width) :
    readFixed width high (fixed width value ++ rest) =
      some (high * 10 ^ width + value, rest) := by
  induction width generalizing high value with
  | zero =>
      have isZero : value = 0 := by simpa using fits
      simp [readFixed, fixed, isZero]
  | succ width ih =>
      have small : value / 10 ^ width < 10 :=
        Nat.div_lt_of_lt_mul (by rwa [Nat.pow_succ] at fits)
      have below : value % 10 ^ width < 10 ^ width :=
        Nat.mod_lt _ (Nat.pow_pos (by decide))
      have together := Nat.div_add_mod value (10 ^ width)
      rw [fixed, List.cons_append, readFixed, digitValue?_digit small,
        Option.bind_some, ih below]
      congr 2
      calc (10 * high + value / 10 ^ width) * 10 ^ width + value % 10 ^ width
          = high * 10 ^ (width + 1) +
              (10 ^ width * (value / 10 ^ width) + value % 10 ^ width) := by ring
        _ = high * 10 ^ (width + 1) + value := by rw [together]

theorem digit_ne : (value : Nat) → digit value ≠ 'Z'
  | 0 | 1 | 2 | 3 | 4 | 5 | 6 | 7 | 8 | 9 | 10 | 11 | 12 | 13 | 14 | 15
  | _ + 16 => by simp [digit, Nat.digitChar]

theorem not_mem_fixed {width value : Nat} : 'Z' ∉ fixed width value := by
  induction width generalizing value with
  | zero => exact List.not_mem_nil
  | succ width ih =>
      intro mem
      rcases List.mem_cons.mp mem with isZ | mem
      · exact digit_ne _ isZ.symm
      · exact ih mem

/-- Read a character. -/
def expect (char : Char) : List Char → Option (List Char)
  | [] => none
  | head :: text => if head = char then some text else none

@[simp]
theorem expect_cons (char : Char) (text : List Char) :
    expect char (char :: text) = some text :=
  if_pos rfl

/-! ## Timestamps -/

/-- The days of a month of the proleptic Gregorian calendar. -/
def daysInMonth (year month : Nat) : Nat :=
  if month = 2 then
    if year % 4 = 0 ∧ (year % 100 ≠ 0 ∨ year % 400 = 0) then 29 else 28
  else if month ∈ [4, 6, 9, 11] then 30
  else 31

/-- The fields of a moment in UTC. -/
structure Fields where
  year : Nat
  month : Nat
  day : Nat
  hour : Nat
  minute : Nat
  second : Nat
  microsecond : Nat
  deriving DecidableEq

/-- The fields name a moment. -/
def Fields.Valid (fields : Fields) : Prop :=
  1 ≤ fields.year ∧ fields.year ≤ 9999 ∧
  1 ≤ fields.month ∧ fields.month ≤ 12 ∧
  1 ≤ fields.day ∧ fields.day ≤ daysInMonth fields.year fields.month ∧
  fields.hour < 24 ∧ fields.minute < 60 ∧ fields.second < 60 ∧
  fields.microsecond < 1000000

instance (fields : Fields) : Decidable fields.Valid := by
  unfold Fields.Valid
  infer_instance

/-- A moment in UTC, to the microsecond. -/
abbrev Moment : Type :=
  {fields : Fields // fields.Valid}

theorem daysInMonth_le (year month : Nat) : daysInMonth year month ≤ 31 := by
  unfold daysInMonth
  repeat' split
  all_goals omega

/-- The fraction of a second, if there is one. -/
def fraction (microsecond : Nat) : List Char :=
  if microsecond = 0 then [] else '.' :: fixed 6 microsecond

/-- The text of a moment, in the extended format with the offset of UTC. -/
def isoformat (moment : Moment) : List Char :=
  let fields := moment.val
  fixed 4 fields.year ++ '-' :: (fixed 2 fields.month ++ '-' ::
    (fixed 2 fields.day ++ 'T' :: (fixed 2 fields.hour ++ ':' ::
      (fixed 2 fields.minute ++ ':' :: (fixed 2 fields.second ++
        (fraction fields.microsecond ++ ['+', '0', '0', ':', '0', '0']))))))

/-- Read the fraction of a second. -/
def readFraction : List Char → Option (Nat × List Char)
  | '.' :: text => readFixed 6 0 text
  | text => some (0, text)

/-- Read the fields of a moment. -/
def readFields (text : List Char) : Option Fields := do
  let (year, text) ← readFixed 4 0 text
  let (month, text) ← readFixed 2 0 (← expect '-' text)
  let (day, text) ← readFixed 2 0 (← expect '-' text)
  let (hour, text) ← readFixed 2 0 (← expect 'T' text)
  let (minute, text) ← readFixed 2 0 (← expect ':' text)
  let (second, text) ← readFixed 2 0 (← expect ':' text)
  let (microsecond, text) ← readFraction text
  if text = ['+', '0', '0', ':', '0', '0'] then
    some { year, month, day, hour, minute, second, microsecond }
  else none

/-- The moment of a text in the extended format with the offset of UTC. -/
def fromisoformat (text : List Char) : Option Moment :=
  (readFields text).bind fun fields =>
    if valid : fields.Valid then some ⟨fields, valid⟩ else none

theorem readFraction_fraction {microsecond : Nat}
    (fits : microsecond < 1000000) :
    readFraction (fraction microsecond ++ ['+', '0', '0', ':', '0', '0']) =
      some (microsecond, ['+', '0', '0', ':', '0', '0']) := by
  unfold fraction
  split
  case isTrue isZero =>
    rw [isZero]
    rfl
  case isFalse =>
    rw [List.cons_append, readFraction, readFixed_fixed _ (by omega)]
    simp

/-- A printed moment reads as itself. -/
theorem fromisoformat_isoformat (moment : Moment) :
    fromisoformat (isoformat moment) = some moment := by
  obtain ⟨fields, valid⟩ := moment
  have days := daysInMonth_le fields.year fields.month
  have ⟨_, year, _, month, _, day, hour, minute, second, microsecond⟩ := valid
  have read : readFields (isoformat ⟨fields, valid⟩) = some fields := by
    simp only [readFields, isoformat, Option.bind_eq_bind, Option.bind_some,
      expect_cons, readFixed_fixed _ (show fields.year < 10 ^ 4 by omega),
      readFixed_fixed _ (show fields.month < 10 ^ 2 by omega),
      readFixed_fixed _ (show fields.day < 10 ^ 2 by omega),
      readFixed_fixed _ (show fields.hour < 10 ^ 2 by omega),
      readFixed_fixed _ (show fields.minute < 10 ^ 2 by omega),
      readFixed_fixed _ (show fields.second < 10 ^ 2 by omega),
      readFraction_fraction microsecond, Nat.zero_mul, Nat.zero_add, if_true]
  rw [fromisoformat, read, Option.bind_some, dif_pos valid]

theorem not_mem_fraction (microsecond : Nat) : 'Z' ∉ fraction microsecond := by
  unfold fraction
  split
  case isTrue => exact List.not_mem_nil
  case isFalse =>
    intro mem
    rcases List.mem_cons.mp mem with isZ | mem
    · exact absurd isZ (by decide)
    · exact not_mem_fixed mem

/-- The offset is never printed as `Z`. -/
theorem not_mem_isoformat (moment : Moment) : 'Z' ∉ isoformat moment := by
  simp [isoformat, not_mem_fixed, not_mem_fraction]

end UtcTimestamp
