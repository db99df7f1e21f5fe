import Mathlib.Data.List.TakeWhile

/-!
# Query strings

`urlencode` and the way back: the query of a URL lies between its first `?` and
its fragment, its pieces are separated by `&`, and each has a name and a value
with `+` and percent escapes for the bytes of a text.  Parameters that are
encoded behind an address come back exactly when the address has no query and no
fragment of its own.
-/

namespace UrlQuery

/-! ## Encoding -/

/-- The characters that are never quoted. -/
def alwaysSafe : List Char :=
  "ABCDEFGHIJKLMNOPQRSTUVWXYZabcdefghijklmnopqrstuvwxyz0123456789_.-~".toList

def hexDigit (value : Nat) : Char :=
  "0123456789ABCDEF".toList.getD value '0'

/-- A byte in a quoted text, where a space is a plus sign. -/
def quoteByte (byte : UInt8) : List Char :=
  if byte = 0x20 then ['+']
  else
    match alwaysSafe.find? fun char => UInt8.ofNat char.toNat = byte with
    | some char => [char]
    | none => ['%', hexDigit (byte.toNat / 16), hexDigit (byte.toNat % 16)]

/-- The UTF-8 bytes of a text. -/
def utf8 (text : String) : List UInt8 :=
  text.toList.flatMap String.utf8EncodeChar

def quotePlus (text : String) : List Char :=
  (utf8 text).flatMap quoteByte

def quotedPair (param : String × String) : List Char :=
  quotePlus param.1 ++ '=' :: quotePlus param.2

def urlencode (params : List (String × String)) : String :=
  String.ofList (['&'].intercalate (params.map quotedPair))

/-! ## Decoding -/

def hexValue (char : Char) : Option Nat :=
  if '0' ≤ char ∧ char ≤ '9' then some (char.toNat - '0'.toNat)
  else if 'A' ≤ char ∧ char ≤ 'F' then some (char.toNat - 'A'.toNat + 10)
  else if 'a' ≤ char ∧ char ≤ 'f' then some (char.toNat - 'a'.toNat + 10)
  else none

/-- The byte that two hexadecimal digits stand for. -/
def hexByte (high low : Char) : Option UInt8 := do
  let high ← hexValue high
  let low ← hexValue low
  return UInt8.ofNat (16 * high + low)

/-- The bytes of a quoted text; what is no escape stands for itself. -/
def unquoteBytes : List Char → List UInt8
  | [] => []
  | '+' :: rest => 0x20 :: unquoteBytes rest
  | '%' :: high :: low :: rest =>
      match hexByte high low with
      | some byte => byte :: unquoteBytes rest
      | none => String.utf8EncodeChar '%' ++ unquoteBytes (high :: low :: rest)
  | char :: rest => String.utf8EncodeChar char ++ unquoteBytes rest

/-- The text of these bytes; `replaced` is what becomes of other bytes than
UTF-8. -/
def textOf (replaced : List UInt8 → String) (bytes : List UInt8) : String :=
  (String.fromUTF8? bytes.toByteArray).getD (replaced bytes)

section Decoding

variable (replaced : List UInt8 → String)

def unquotePlus (quoted : List Char) : String :=
  textOf replaced (unquoteBytes quoted)

/-- The name and the value of a piece; an empty piece is none. -/
def parsePair (piece : List Char) : Option (String × String) :=
  if piece = [] then none
  else some (unquotePlus replaced (piece.takeWhile (· ≠ '=')),
    unquotePlus replaced ((piece.dropWhile (· ≠ '=')).drop 1))

def parseQuery (query : List Char) : List (String × String) :=
  (query.splitOn '&').filterMap (parsePair replaced)

/-- Between the first question mark and the fragment. -/
def queryOf (url : List Char) : List Char :=
  ((url.takeWhile (· ≠ '#')).dropWhile (· ≠ '?')).drop 1

def urlParams (url : String) : List (String × String) :=
  parseQuery replaced (queryOf url.toList)

end Decoding

/-! ## A text -/

theorem hexDigit_facts : ∀ value < 16, hexValue (hexDigit value) = some value ∧
    hexDigit value ∉ ['&', '=', '#', '?'] := by
  decide

theorem alwaysSafe_facts : ∀ char ∈ alwaysSafe,
    char ∉ ['&', '=', '#', '?', '%', '+'] ∧
      String.utf8EncodeChar char = [UInt8.ofNat char.toNat] :=
  -- decided along the list, not over all characters
  @of_decide_eq_true _ (List.decidableBAll _ _) rfl

theorem unquoteBytes_cons {char : Char} (notPlus : char ≠ '+')
    (notPercent : char ≠ '%') (rest : List Char) :
    unquoteBytes (char :: rest) =
      String.utf8EncodeChar char ++ unquoteBytes rest := by
  rw [unquoteBytes]
  · exact notPlus
  · rintro _ _ _ isPercent
    exact absurd isPercent notPercent

theorem hexByte_hexDigits (byte : UInt8) :
    hexByte (hexDigit (byte.toNat / 16)) (hexDigit (byte.toNat % 16)) = some byte := by
  have small := byte.toNat_lt
  have high := (hexDigit_facts (byte.toNat / 16) (by omega)).1
  have low := (hexDigit_facts (byte.toNat % 16) (by omega)).1
  rw [hexByte, high, low]
  change some (UInt8.ofNat (16 * (byte.toNat / 16) + byte.toNat % 16)) = some byte
  rw [Nat.div_add_mod, UInt8.ofNat_toNat]

/-- A byte is read back. -/
theorem unquoteBytes_quoteByte (byte : UInt8) (rest : List Char) :
    unquoteBytes (quoteByte byte ++ rest) = byte :: unquoteBytes rest := by
  unfold quoteByte
  split
  case isTrue isSpace =>
    rw [isSpace, List.singleton_append, unquoteBytes]
  case isFalse =>
    split
    case h_1 char found =>
      obtain ⟨notSpecial, encoded⟩ := alwaysSafe_facts _ (List.mem_of_find?_eq_some found)
      have isByte : UInt8.ofNat char.toNat = byte := by
        simpa using List.find?_some found
      have notPlus : char ≠ '+' := by
        rintro rfl
        exact notSpecial (by decide)
      have notPercent : char ≠ '%' := by
        rintro rfl
        exact notSpecial (by decide)
      rw [List.singleton_append, unquoteBytes_cons notPlus notPercent, encoded, isByte,
        List.singleton_append]
    case h_2 =>
      change unquoteBytes ('%' :: _ :: _ :: rest) = _
      rw [unquoteBytes, hexByte_hexDigits]

theorem unquoteBytes_quotePlus (text : String) :
    unquoteBytes (quotePlus text) = utf8 text := by
  unfold quotePlus
  induction utf8 text with
  | nil => rw [List.flatMap_nil, unquoteBytes]
  | cons byte rest ih => rw [List.flatMap_cons, unquoteBytes_quoteByte, ih]

theorem quoteByte_facts : ∀ char ∈ alwaysSafe,
    quoteByte (UInt8.ofNat char.toNat) = [char] :=
  -- decided along the list, not over all characters
  @of_decide_eq_true _ (List.decidableBAll _ _) rfl

/-- A text of characters that are never quoted stays as it is. -/
theorem quotePlus_of_safe {text : String}
    (safe : ∀ char ∈ text.toList, char ∈ alwaysSafe) :
    quotePlus text = text.toList := by
  unfold quotePlus utf8
  generalize text.toList = chars at safe
  induction chars with
  | nil => rfl
  | cons char rest ih =>
      rw [List.forall_mem_cons] at safe
      rw [List.flatMap_cons, List.flatMap_append, ih safe.2,
        (alwaysSafe_facts char safe.1).2, List.flatMap_singleton,
        quoteByte_facts char safe.1, List.singleton_append]

theorem textOf_utf8 (replaced : List UInt8 → String) (text : String) :
    textOf replaced (utf8 text) = text := by
  have bytes : (utf8 text).toByteArray = text.toByteArray :=
    String.utf8Encode_toList
  have valid : (utf8 text).toByteArray.IsValidUTF8 := bytes ▸ text.isValidUTF8
  rw [textOf, String.fromUTF8?, dif_pos valid, Option.getD_some]
  exact String.toByteArray_inj.mp bytes

section Texts

variable (replaced : List UInt8 → String)

/-- A text is read back. -/
theorem unquotePlus_quotePlus (text : String) :
    unquotePlus replaced (quotePlus text) = text := by
  rw [unquotePlus, unquoteBytes_quotePlus, textOf_utf8]

theorem mem_quoteByte {byte : UInt8} {char : Char} (isChar : char ∈ quoteByte byte) :
    char ∉ ['&', '=', '#', '?'] := by
  have small := byte.toNat_lt
  unfold quoteByte at isChar
  split at isChar
  case isTrue =>
    rw [List.mem_singleton.mp isChar]
    decide
  case isFalse =>
    split at isChar
    case h_1 safe found =>
      rw [List.mem_singleton.mp isChar]
      have notSpecial := (alwaysSafe_facts _ (List.mem_of_find?_eq_some found)).1
      intro special
      exact notSpecial (List.mem_append_left ['%', '+'] special)
    case h_2 =>
      have high := (hexDigit_facts (byte.toNat / 16) (by omega)).2
      have low := (hexDigit_facts (byte.toNat % 16) (by omega)).2
      simp only [List.mem_cons, List.not_mem_nil, or_false] at isChar
      rcases isChar with rfl | rfl | rfl
      · decide
      · exact high
      · exact low

theorem notMem_quotePlus (text : String) {char : Char}
    (isSeparator : char ∈ ['&', '=', '#', '?']) : char ∉ quotePlus text := by
  intro isChar
  obtain ⟨byte, -, isChar⟩ := List.mem_flatMap.mp isChar
  exact mem_quoteByte isChar isSeparator

end Texts

/-! ## The first separator -/

theorem takeWhile_append_cons {front back : List Char} {separator : Char}
    (notMem : separator ∉ front) :
    (front ++ separator :: back).takeWhile (· ≠ separator) = front := by
  rw [List.takeWhile_append_of_pos]
  · simp
  · intro char isChar
    have different : char ≠ separator := fun same => notMem (same ▸ isChar)
    simpa using different

theorem dropWhile_append_cons {front back : List Char} {separator : Char}
    (notMem : separator ∉ front) :
    (front ++ separator :: back).dropWhile (· ≠ separator) = separator :: back := by
  rw [List.dropWhile_append_of_pos]
  · simp
  · intro char isChar
    have different : char ≠ separator := fun same => notMem (same ▸ isChar)
    simpa using different

/-! ## Parameters -/

section Params

variable (replaced : List UInt8 → String)

theorem notMem_quotedPair (param : String × String) {char : Char}
    (isSeparator : char ∈ ['&', '#', '?']) : char ∉ quotedPair param := by
  have other : char ∈ ['&', '=', '#', '?'] := by
    simp only [List.mem_cons, List.not_mem_nil, or_false] at isSeparator
    rcases isSeparator with rfl | rfl | rfl <;> decide
  have notEqual : char ≠ '=' := by
    rintro rfl
    exact absurd isSeparator (by decide)
  rw [quotedPair, List.mem_append, List.mem_cons]
  rintro (isName | isEqual | isValue)
  · exact notMem_quotePlus _ other isName
  · exact notEqual isEqual
  · exact notMem_quotePlus _ other isValue

/-- A name, with whatever is in front of it, and the value. -/
theorem parsePair_append {front : List Char} (noEqual : '=' ∉ front)
    (param : String × String) :
    parsePair replaced (front ++ quotedPair param) =
      some (unquotePlus replaced (front ++ quotePlus param.1), param.2) := by
  have noEqual' : '=' ∉ front ++ quotePlus param.1 := by
    rw [List.mem_append, not_or]
    exact ⟨noEqual, notMem_quotePlus _ (by decide)⟩
  rw [quotedPair, ← List.append_assoc, parsePair, if_neg (by simp),
    takeWhile_append_cons noEqual', dropWhile_append_cons noEqual', List.drop_one,
    List.tail_cons, unquotePlus_quotePlus]

theorem parseQuery_append (front back : List Char) :
    parseQuery replaced (front ++ '&' :: back) =
      parseQuery replaced front ++ parseQuery replaced back := by
  rw [parseQuery, List.splitOn_append_cons_self, List.filterMap_append]
  rfl

theorem parseQuery_piece {piece : List Char} (noSeparator : '&' ∉ piece) :
    parseQuery replaced piece = (parsePair replaced piece).toList := by
  rw [parseQuery, List.splitOn_eq_singleton noSeparator]
  cases found : parsePair replaced piece <;> simp [found]

@[simp]
theorem parseQuery_nil : parseQuery replaced [] = [] :=
  rfl

/-- The characters of encoded parameters. -/
def encoded (params : List (String × String)) : List Char :=
  ['&'].intercalate (params.map quotedPair)

theorem encoded_cons (param : String × String) {rest : List (String × String)}
    (nonempty : rest ≠ []) :
    encoded (param :: rest) = quotedPair param ++ '&' :: encoded rest := by
  cases rest with
  | nil => exact absurd rfl nonempty
  | cons next others => simp [encoded, List.intercalate]

theorem encoded_singleton (param : String × String) :
    encoded [param] = quotedPair param := by
  simp [encoded, List.intercalate]

theorem parsePair_quotedPair (param : String × String) :
    parsePair replaced (quotedPair param) = some param := by
  have read := @parsePair_append replaced [] (by simp) param
  rwa [List.nil_append, List.nil_append, unquotePlus_quotePlus] at read

/-- Encoded parameters are read back. -/
theorem parseQuery_encoded (params : List (String × String)) :
    parseQuery replaced (encoded params) = params := by
  induction params with
  | nil => rfl
  | cons param rest ih =>
      have piece : parseQuery replaced (quotedPair param) = [param] := by
        rw [parseQuery_piece replaced (notMem_quotedPair _ (by decide)),
          parsePair_quotedPair, Option.toList_some]
      by_cases isLast : rest = []
      · rw [isLast, encoded_singleton, piece]
      · rw [encoded_cons _ isLast, parseQuery_append, piece, ih, List.singleton_append]

/-- The first parameter may have something in front of it. -/
theorem parseQuery_front {front : List Char} (noSeparator : '&' ∉ front)
    (param : String × String) (rest : List (String × String)) :
    parseQuery replaced (front ++ encoded (param :: rest)) =
      (parsePair replaced (front ++ quotedPair param)).toList ++ rest := by
  have noSeparator' : '&' ∉ front ++ quotedPair param := by
    rw [List.mem_append, not_or]
    exact ⟨noSeparator, notMem_quotedPair _ (by decide)⟩
  by_cases isLast : rest = []
  · rw [isLast, encoded_singleton, parseQuery_piece replaced noSeparator',
      List.append_nil]
  · rw [encoded_cons _ isLast, ← List.append_assoc, parseQuery_append,
      parseQuery_piece replaced noSeparator', parseQuery_encoded]

theorem unquotePlus_question_ne (name : String) :
    unquotePlus replaced (['?'] ++ quotePlus name) ≠ name := by
  have bytes : unquoteBytes (['?'] ++ quotePlus name) = utf8 ("?" ++ name) := by
    rw [List.singleton_append, unquoteBytes_cons (by decide) (by decide),
      unquoteBytes_quotePlus, utf8, utf8, String.toList_append, List.flatMap_append]
    rfl
  rw [unquotePlus, bytes, textOf_utf8]
  intro same
  have lengths := congrArg String.length same
  rw [String.length_append] at lengths
  have one : "?".length = 1 := rfl
  omega

/-- Behind a question mark of the query the parameters are not read back. -/
theorem parseQuery_second (query : List Char) (param : String × String)
    (rest : List (String × String)) :
    parseQuery replaced (query ++ '?' :: encoded (param :: rest)) ≠
      parseQuery replaced query ++ param :: rest := by
  by_cases separated : '&' ∈ query
  · obtain ⟨front, back, rfl⟩ := List.append_of_mem separated
    rw [List.append_assoc, List.cons_append, parseQuery_append, parseQuery_append,
      List.append_assoc]
    exact fun same => parseQuery_second back param rest (List.append_cancel_left same)
  · intro same
    have noSeparator : '&' ∉ query ++ ['?'] := by simp [separated]
    rw [List.append_cons, parseQuery_front replaced noSeparator,
      parseQuery_piece replaced separated] at same
    cases query with
    | nil =>
        -- The question mark is the first character of the name.
        rw [List.nil_append, parsePair_append replaced (by decide)] at same
        have names := congrArg Prod.fst (List.cons.inj same).1
        exact unquotePlus_question_ne replaced param.1 names
    | cons char others =>
        -- The first parameter is in the piece before it.
        have lengths := congrArg List.length same
        simp [parsePair] at lengths
termination_by query.length
decreasing_by
  subst_vars
  simp only [List.length_append, List.length_cons]
  omega

end Params

/-! ## URLs -/

section Urls

variable (replaced : List UInt8 → String)

theorem notMem_encoded (params : List (String × String)) {char : Char}
    (isSeparator : char ∈ ['#', '?']) : char ∉ encoded params := by
  have other : char ∈ ['&', '#', '?'] := List.mem_cons_of_mem _ isSeparator
  have notAmpersand : char ≠ '&' := by
    rintro rfl
    exact absurd isSeparator (by decide)
  induction params with
  | nil => simp [encoded]
  | cons param rest ih =>
      by_cases isLast : rest = []
      · rw [isLast, encoded_singleton]
        exact notMem_quotedPair param other
      · rw [encoded_cons _ isLast, List.mem_append, List.mem_cons, not_or, not_or]
        exact ⟨notMem_quotedPair param other, notAmpersand, ih⟩

theorem takeWhile_ne_eq_self {chars : List Char} {separator : Char}
    (notMem : separator ∉ chars) : chars.takeWhile (· ≠ separator) = chars := by
  rw [List.takeWhile_eq_self_iff]
  intro char isChar
  have different : char ≠ separator := fun same => notMem (same ▸ isChar)
  simpa using different

theorem queryOf_of_fragment {base : List Char} (fragment : '#' ∈ base)
    (rest : List Char) : queryOf (base ++ rest) = queryOf base := by
  obtain ⟨front, back, rfl, notMem⟩ := List.eq_append_cons_of_mem fragment
  rw [queryOf, queryOf, List.append_assoc, List.cons_append,
    takeWhile_append_cons notMem, takeWhile_append_cons notMem]

/-- A query goes on to the end. -/
theorem queryOf_of_query {base rest : List Char} (noFragment : '#' ∉ base ++ rest)
    (query : '?' ∈ base) : queryOf (base ++ rest) = queryOf base ++ rest := by
  have noFragment' : '#' ∉ base := fun mem => noFragment (List.mem_append_left _ mem)
  rw [queryOf, takeWhile_ne_eq_self noFragment, queryOf,
    takeWhile_ne_eq_self noFragment']
  obtain ⟨front, back, rfl, notMem⟩ := List.eq_append_cons_of_mem query
  rw [List.append_assoc, List.cons_append, dropWhile_append_cons notMem,
    dropWhile_append_cons notMem]
  rfl

theorem queryOf_of_plain {base rest : List Char} (noFragment : '#' ∉ base ++ '?' :: rest)
    (noQuery : '?' ∉ base) : queryOf (base ++ '?' :: rest) = rest := by
  rw [queryOf, takeWhile_ne_eq_self noFragment, dropWhile_append_cons noQuery]
  rfl

theorem queryOf_eq_nil {base : List Char} (noFragment : '#' ∉ base)
    (noQuery : '?' ∉ base) : queryOf base = [] := by
  rw [queryOf, takeWhile_ne_eq_self noFragment, List.dropWhile_eq_nil_iff.mpr]
  · rfl
  · intro char isChar
    have different : char ≠ '?' := fun same => noQuery (same ▸ isChar)
    simpa using different

/-- Parameters that are encoded behind an address are read back exactly when the
address has no query and no fragment. -/
theorem urlParams_append_iff (base : String) {params : List (String × String)}
    (nonempty : params ≠ []) :
    urlParams replaced (base ++ "?" ++ urlencode params) =
        urlParams replaced base ++ params ↔
      '?' ∉ base.toList ∧ '#' ∉ base.toList := by
  have chars : (base ++ "?" ++ urlencode params).toList =
      base.toList ++ '?' :: encoded params := by
    simp [urlencode, encoded]
  rw [urlParams, urlParams, chars]
  by_cases fragment : '#' ∈ base.toList
  · rw [queryOf_of_fragment fragment, List.self_eq_append_right]
    exact iff_of_false nonempty fun plain => plain.2 fragment
  have noFragment : '#' ∉ base.toList ++ '?' :: encoded params := by
    rw [List.mem_append, List.mem_cons, not_or, not_or]
    exact ⟨fragment, by decide, notMem_encoded params (by decide)⟩
  by_cases query : '?' ∈ base.toList
  · rw [queryOf_of_query noFragment query]
    refine iff_of_false ?_ fun plain => plain.1 query
    cases params with
    | nil => exact absurd rfl nonempty
    | cons param rest => exact parseQuery_second replaced _ param rest
  · rw [queryOf_of_plain noFragment query, queryOf_eq_nil fragment query,
      parseQuery_encoded, parseQuery_nil, List.nil_append]
    exact iff_of_true rfl ⟨query, fragment⟩

/-- A parameter with characters that are never quoted is read back from behind a
plain address as it is written there. -/
theorem urlParams_of_safe {base name value : String} (noQuery : '?' ∉ base.toList)
    (noFragment : '#' ∉ base.toList)
    (safeName : ∀ char ∈ name.toList, char ∈ alwaysSafe)
    (safeValue : ∀ char ∈ value.toList, char ∈ alwaysSafe) :
    urlParams replaced (base ++ "?" ++ (name ++ "=" ++ value)) =
      [(name, value)] := by
  have written : urlencode [(name, value)] = name ++ "=" ++ value := by
    apply String.toList_inj.mp
    simp [urlencode, quotedPair, quotePlus_of_safe safeName,
      quotePlus_of_safe safeValue]
  have nonempty : [(name, value)] ≠ [] := List.cons_ne_nil _ _
  have readBack := (urlParams_append_iff replaced base nonempty).mpr
    ⟨noQuery, noFragment⟩
  rw [written] at readBack
  rw [readBack, urlParams, queryOf_eq_nil noFragment noQuery, parseQuery_nil,
    List.nil_append]

end Urls

end UrlQuery
