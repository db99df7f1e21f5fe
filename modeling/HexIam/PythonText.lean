import Mathlib.Data.List.Basic
import Mathlib.Data.Rat.Defs

/-!
# Python strings and request values

The string methods of the source, on character lists so that they evaluate in
the kernel, and the values a request body can carry: JSON, form strings and
uploaded files, with Python's truth value of each.
-/

namespace HexIam

/-! ## String methods -/

/-- `text.startswith(prefix)`. -/
def startsWith (text front : String) : Bool :=
  front.toList.isPrefixOf text.toList

/-- `text.endswith(suffix)`. -/
def endsWith (text back : String) : Bool :=
  back.toList.isSuffixOf text.toList

/-- `part in text`. -/
def occursIn (part text : String) : Bool :=
  text.toList.tails.any fun tail => part.toList.isPrefixOf tail

/-- `text.split(separator)`. -/
def split (text : String) (separator : Char) : List String :=
  (text.toList.splitOn separator).map String.ofList

/-- `first, second = text.split(separator, 1)`; `none` is its `ValueError`. -/
def splitOnce (text : String) (separator : Char) : Option (String × String) :=
  match text.toList.dropWhile (· ≠ separator) with
  | [] => none
  | _ :: rest =>
      some (String.ofList (text.toList.takeWhile (· ≠ separator)),
        String.ofList rest)

/-- `text[count:]`. -/
def dropFront (text : String) (count : Nat) : String :=
  String.ofList (text.toList.drop count)

/-- `text.rstrip(char)`. -/
def stripEnd (text : String) (char : Char) : String :=
  String.ofList (text.toList.reverse.dropWhile (· = char)).reverse

/-- The characters `str.isspace` accepts. -/
def isSpace (char : Char) : Bool :=
  char.toNat ∈ [0x09, 0x0a, 0x0b, 0x0c, 0x0d, 0x1c, 0x1d, 0x1e, 0x1f, 0x20,
    0x85, 0xa0, 0x1680, 0x2028, 0x2029, 0x202f, 0x205f, 0x3000] ||
  (0x2000 ≤ char.toNat && char.toNat ≤ 0x200a)

/-- `text.split()`. -/
def splitWhitespace (text : String) : List String :=
  ((text.toList.splitOnP isSpace).filter (· ≠ [])).map String.ofList

/-- `text.lower()`, exact on the strings whose lower case is ASCII. -/
def lower (text : String) : String :=
  String.ofList (text.toList.map fun char =>
    if char = Char.ofNat 0x212a then 'k' else char.toLower)

/-- The characters outside ASCII whose upper case is ASCII. -/
def upperChar (char : Char) : List Char :=
  match char.toNat with
  | 0xdf => ['S', 'S']
  | 0x131 => ['I']
  | 0x17f => ['S']
  | 0xfb00 => ['F', 'F']
  | 0xfb01 => ['F', 'I']
  | 0xfb02 => ['F', 'L']
  | 0xfb03 => ['F', 'F', 'I']
  | 0xfb04 => ['F', 'F', 'L']
  | 0xfb05 => ['S', 'T']
  | 0xfb06 => ['S', 'T']
  | _ => [char.toUpper]

/-- `text.upper()`, exact on the strings whose upper case is ASCII. -/
def upper (text : String) : String :=
  String.ofList (text.toList.flatMap upperChar)

/-- The truth value of a string. -/
def filled (text : String) : Bool :=
  text ≠ ""

/-- The truth value of an optional string. -/
def given : Option String → Bool
  | none => false
  | some text => filled text

@[simp]
theorem given_none : given none = false :=
  rfl

@[simp]
theorem given_some (text : String) : given (some text) = filled text :=
  rfl

theorem given_eq_true {value : Option String} :
    given value = true ↔ ∃ text, value = some text ∧ filled text = true := by
  cases value <;> simp

/-- `text or None`. -/
def orNone (text : String) : Option String :=
  if filled text then some text else none

/-- The last of a symbol that the ends do not have splits a list. -/
theorem append_cons_inj_of_notMem_right {α : Type*} {mark : α}
    {first second firstEnd secondEnd : List α} (notFirst : mark ∉ firstEnd)
    (notSecond : mark ∉ secondEnd)
    (same : first ++ mark :: firstEnd = second ++ mark :: secondEnd) :
    first = second ∧ firstEnd = secondEnd := by
  rcases List.append_eq_append_iff.mp same with
    ⟨between, secondEq, endEq⟩ | ⟨between, firstEq, endEq⟩
  · cases between with
    | nil => exact ⟨by simpa using secondEq.symm, by simpa using endEq⟩
    | cons head between =>
        obtain ⟨-, rfl⟩ := List.cons.inj endEq
        exact absurd (List.mem_append_right between List.mem_cons_self) notFirst
  · cases between with
    | nil => exact ⟨by simpa using firstEq, by simpa using endEq.symm⟩
    | cons head between =>
        obtain ⟨-, rfl⟩ := List.cons.inj endEq
        exact absurd (List.mem_append_right between List.mem_cons_self) notSecond

theorem split_getLast_append {separator : Char} (front back : List Char) :
    ((front ++ separator :: back).splitOn separator).getLast? =
      (back.splitOn separator).getLast? := by
  rw [List.splitOn_append_cons_self, List.getLast?_append]
  cases found : (back.splitOn separator).getLast? with
  | none =>
      exact absurd (List.getLast?_eq_none_iff.mp found)
        (List.splitOn_ne_nil _ _)
  | some last => rfl

/-! ## Values -/

/-- A value read from a request body or a JSON document. -/
inductive PyValue : Type
  | none
  | bool (value : Bool)
  | number (value : Rat)
  | text (value : String)
  | list (items : List PyValue)
  | dict (fields : List (String × PyValue))
  | upload (filename : String)

namespace PyValue

/-- Python's `bool(value)`. -/
def truthy : PyValue → Bool
  | .none => false
  | .bool value => value
  | .number value => value ≠ 0
  | .text value => filled value
  | .list items => !items.isEmpty
  | .dict fields => !fields.isEmpty
  | .upload _ => true

/-- `first or second`. -/
def orElse (first second : PyValue) : PyValue :=
  if first.truthy then first else second

/-- `data.get(name)` on the fields of a dictionary. -/
def get (fields : List (String × PyValue)) (name : String) : PyValue :=
  ((fields.find? fun field => field.1 = name).map Prod.snd).getD .none

@[simp]
theorem truthy_none : truthy .none = false :=
  rfl

@[simp]
theorem truthy_text (value : String) : truthy (.text value) = filled value :=
  rfl

end PyValue

end HexIam
