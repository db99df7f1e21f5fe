import Mathlib.Algebra.Group.Nat.Defs
import Mathlib.Data.List.GetD
import Mathlib.Data.Nat.Size

/-!
# Octets as numbers and as text

Big-endian numbers and unpadded base64url.  A number has one row of octets of
each length it fits in, and only the shortest does not begin with a zero.  Three
octets are four sextets, and a last group of one or two octets is two or three;
the text of some octets is the one text that decodes to them.
-/

/-! ## Big-endian numbers -/

namespace BigEndian

/-- The number that octets stand for, the first octet being the highest. -/
def number : List UInt8 → Nat
  | [] => 0
  | octet :: rest => octet.toNat * 256 ^ rest.length + number rest

/-- The lowest octets of a number. -/
def octets : (size number : Nat) → List UInt8
  | 0, _ => []
  | size + 1, number => UInt8.ofNat (number / 256 ^ size) :: octets size number

@[simp]
theorem length_octets (size number : Nat) : (octets size number).length = size := by
  induction size with
  | zero => rfl
  | succ size ih => rw [octets, List.length_cons, ih]

theorem number_octets (size value : Nat) :
    number (octets size value) = value % 256 ^ size := by
  induction size with
  | zero => simp [octets, number, Nat.mod_one]
  | succ size ih =>
      rw [octets, number, ih, length_octets, Nat.mod_pow_succ, UInt8.toNat_ofNat',
        Nat.add_comm, Nat.mul_comm (256 ^ size)]

theorem number_octets_of_lt {size value : Nat} (fits : value < 256 ^ size) :
    number (octets size value) = value := by
  rw [number_octets, Nat.mod_eq_of_lt fits]

theorem number_lt (raw : List UInt8) : number raw < 256 ^ raw.length := by
  induction raw with
  | nil => exact Nat.one_pos
  | cons octet rest ih =>
      have below : octet.toNat + 1 ≤ 256 := octet.toNat_lt
      calc octet.toNat * 256 ^ rest.length + number rest
          < (octet.toNat + 1) * 256 ^ rest.length := by
            rw [Nat.succ_mul]
            exact Nat.add_lt_add_left ih _
        _ ≤ 256 * 256 ^ rest.length := Nat.mul_le_mul_right _ below
        _ = 256 ^ (rest.length + 1) := by rw [Nat.pow_succ, Nat.mul_comm]

/-- Octets of one length are told apart by their numbers. -/
theorem number_injective_of_length_eq {first second : List UInt8}
    (lengthEq : first.length = second.length)
    (same : number first = number second) : first = second := by
  induction first generalizing second with
  | nil => exact (List.length_eq_zero_iff.mp lengthEq.symm).symm
  | cons octet rest ih =>
      cases second with
      | nil => cases lengthEq
      | cons other others =>
          have restLength : rest.length = others.length := Nat.succ.inj lengthEq
          rw [number, number, restLength] at same
          have restLt := number_lt rest
          rw [restLength] at restLt
          have positive : 0 < 256 ^ others.length := Nat.pow_pos (by decide)
          have heads := congrArg (· / 256 ^ others.length) same
          have tails := congrArg (· % 256 ^ others.length) same
          simp only [Nat.mul_comm _ (256 ^ others.length), Nat.mul_add_div positive,
            Nat.mul_add_mod, Nat.div_eq_of_lt restLt, Nat.div_eq_of_lt (number_lt others),
            Nat.mod_eq_of_lt restLt, Nat.mod_eq_of_lt (number_lt others),
            Nat.add_zero] at heads tails
          rw [UInt8.toNat_inj.mp heads, ih restLength tails]

theorem octets_number (raw : List UInt8) : octets raw.length (number raw) = raw :=
  number_injective_of_length_eq (length_octets _ _)
    (number_octets_of_lt (number_lt raw))

/-- The highest octet is a zero only when the number fits without it. -/
theorem head?_octets_ne_zero {size value : Nat} (fits : value < 256 ^ (size + 1))
    (needed : 256 ^ size ≤ value) : (octets (size + 1) value).head? ≠ some 0 := by
  have positive : 0 < 256 ^ size := Nat.pow_pos (by decide)
  have atLeast : 0 < value / 256 ^ size := Nat.div_pos needed positive
  have below : value / 256 ^ size < 256 := by
    rw [Nat.div_lt_iff_lt_mul positive, Nat.mul_comm, ← Nat.pow_succ]
    exact fits
  rw [octets, List.head?_cons]
  intro isZero
  have zero := congrArg UInt8.toNat (Option.some.inj isZero)
  rw [UInt8.toNat_ofNat_of_lt' below] at zero
  exact Nat.ne_of_gt atLeast zero

/-! ### The shortest octets -/

/-- The number of octets that the bits of a number take. -/
def width (value : Nat) : Nat :=
  (value.size + 7) / 8

theorem lt_pow_of_width_le {value size : Nat} (enough : width value ≤ size) :
    value < 256 ^ size := by
  have bits : value.size ≤ 8 * size := by
    unfold width at enough
    omega
  rw [show (256 : Nat) = 2 ^ 8 by rfl, ← Nat.pow_mul]
  exact Nat.size_le.mp bits

theorem pow_le_of_width_eq {value size : Nat} (widthEq : width value = size + 1) :
    256 ^ size ≤ value := by
  have needed : 8 * size < value.size := by
    unfold width at widthEq
    omega
  rw [show (256 : Nat) = 2 ^ 8 by rfl, ← Nat.pow_mul]
  exact Nat.lt_size.mp needed

theorem width_pos {value : Nat} (positive : 0 < value) : 0 < width value := by
  have bits : 0 < value.size := Nat.size_pos.mpr positive
  unfold width
  omega

/-- The shortest octets of a positive number do not begin with a zero. -/
theorem head?_octets_width {value : Nat} (positive : 0 < value) :
    (octets (width value) value).head? ≠ some 0 := by
  obtain ⟨size, widthEq⟩ :=
    Nat.exists_eq_succ_of_ne_zero (Nat.ne_of_gt (width_pos positive))
  have fits := lt_pow_of_width_le (Nat.le_of_eq widthEq)
  rw [widthEq]
  exact head?_octets_ne_zero fits (pow_le_of_width_eq widthEq)

end BigEndian

/-! ## Unpadded base64url -/

namespace Base64Url

/-! ### Groups of sextets -/

/-- Three octets are four sextets; what is missing of a last group is zero. -/
def sextetsOf : List UInt8 → List Nat
  | [] => []
  | [first] => [first.toNat / 4, first.toNat % 4 * 16]
  | [first, second] =>
      [first.toNat / 4, first.toNat % 4 * 16 + second.toNat / 16, second.toNat % 16 * 4]
  | first :: second :: third :: rest =>
      first.toNat / 4 :: (first.toNat % 4 * 16 + second.toNat / 16) ::
        (second.toNat % 16 * 4 + third.toNat / 64) :: third.toNat % 64 ::
          sextetsOf rest

def firstOctet (first second : Nat) : UInt8 :=
  UInt8.ofNat (first * 4 + second / 16)

def secondOctet (second third : Nat) : UInt8 :=
  UInt8.ofNat (second % 16 * 16 + third / 4)

def thirdOctet (third fourth : Nat) : UInt8 :=
  UInt8.ofNat (third % 4 * 64 + fourth)

/-- The octets of sextets.  One sextet is no group, and the bits that a last
group has too many are zero. -/
def octetsOf : List Nat → Option (List UInt8)
  | [] => some []
  | [_] => none
  | [first, second] =>
      if second % 16 = 0 then some [firstOctet first second] else none
  | [first, second, third] =>
      if third % 4 = 0 then some [firstOctet first second, secondOctet second third]
      else none
  | first :: second :: third :: fourth :: rest =>
      (octetsOf rest).map fun octets =>
        firstOctet first second :: secondOctet second third ::
          thirdOctet third fourth :: octets

theorem length_sextetsOf (octets : List UInt8) :
    (sextetsOf octets).length = (4 * octets.length + 2) / 3 := by
  induction octets using sextetsOf.induct with
  | case1 => rfl
  | case2 first => simp [sextetsOf]
  | case3 first second => simp [sextetsOf]
  | case4 first second third rest ih =>
      simp only [sextetsOf, List.length_cons, ih]
      omega

theorem sextetsOf_lt (octets : List UInt8) :
    ∀ sextet ∈ sextetsOf octets, sextet < 64 := by
  induction octets using sextetsOf.induct with
  | case1 => exact nofun
  | case2 first =>
      have firstLt := first.toNat_lt
      simp only [sextetsOf, List.forall_mem_cons, List.not_mem_nil, false_imp_iff,
        implies_true, and_true]
      omega
  | case3 first second =>
      have firstLt := first.toNat_lt
      have secondLt := second.toNat_lt
      simp only [sextetsOf, List.forall_mem_cons, List.not_mem_nil, false_imp_iff,
        implies_true, and_true]
      omega
  | case4 first second third rest ih =>
      have firstLt := first.toNat_lt
      have secondLt := second.toNat_lt
      have thirdLt := third.toNat_lt
      simp only [sextetsOf, List.forall_mem_cons]
      refine ⟨?_, ?_, ?_, ?_, ih⟩ <;> omega

theorem firstOctet_eq (octet : UInt8) {low : Nat} (lowLt : low < 16) :
    firstOctet (octet.toNat / 4) (octet.toNat % 4 * 16 + low) = octet := by
  have value : octet.toNat / 4 * 4 + (octet.toNat % 4 * 16 + low) / 16 = octet.toNat := by
    omega
  rw [firstOctet, value, UInt8.ofNat_toNat]

theorem secondOctet_eq (octet : UInt8) (high : Nat) {low : Nat} (lowLt : low < 4) :
    secondOctet (high * 16 + octet.toNat / 16) (octet.toNat % 16 * 4 + low) = octet := by
  have octetLt := octet.toNat_lt
  have value : (high * 16 + octet.toNat / 16) % 16 * 16 +
      (octet.toNat % 16 * 4 + low) / 4 = octet.toNat := by
    omega
  rw [secondOctet, value, UInt8.ofNat_toNat]

theorem thirdOctet_eq (octet : UInt8) (high : Nat) :
    thirdOctet (high * 4 + octet.toNat / 64) (octet.toNat % 64) = octet := by
  have octetLt := octet.toNat_lt
  have value : (high * 4 + octet.toNat / 64) % 4 * 64 + octet.toNat % 64 =
      octet.toNat := by
    omega
  rw [thirdOctet, value, UInt8.ofNat_toNat]

theorem octetsOf_sextetsOf (octets : List UInt8) :
    octetsOf (sextetsOf octets) = some octets := by
  induction octets using sextetsOf.induct with
  | case1 => rfl
  | case2 first =>
      have restored := firstOctet_eq first (by decide : 0 < 16)
      rw [Nat.add_zero] at restored
      rw [sextetsOf, octetsOf, if_pos (Nat.mul_mod_left _ _), restored]
  | case3 first second =>
      have secondLt : second.toNat / 16 < 16 := by
        have secondLt := second.toNat_lt
        omega
      have restored := secondOctet_eq second (first.toNat % 4) (by decide : 0 < 4)
      rw [Nat.add_zero] at restored
      rw [sextetsOf, octetsOf, if_pos (Nat.mul_mod_left _ _),
        firstOctet_eq first secondLt, restored]
  | case4 first second third rest ih =>
      have secondLt : second.toNat / 16 < 16 := by
        have secondLt := second.toNat_lt
        omega
      have thirdLt : third.toNat / 64 < 4 := by
        have thirdLt := third.toNat_lt
        omega
      rw [sextetsOf, octetsOf, ih, Option.map_some, firstOctet_eq first secondLt,
        secondOctet_eq second _ thirdLt, thirdOctet_eq]

theorem toNat_firstOctet {first second : Nat} (firstLt : first < 64)
    (secondLt : second < 64) :
    (firstOctet first second).toNat = first * 4 + second / 16 := by
  have below : first * 4 + second / 16 < 256 := by omega
  exact UInt8.toNat_ofNat_of_lt' below

theorem toNat_secondOctet (second : Nat) {third : Nat} (thirdLt : third < 64) :
    (secondOctet second third).toNat = second % 16 * 16 + third / 4 := by
  have below : second % 16 * 16 + third / 4 < 256 := by omega
  exact UInt8.toNat_ofNat_of_lt' below

theorem toNat_thirdOctet (third : Nat) {fourth : Nat} (fourthLt : fourth < 64) :
    (thirdOctet third fourth).toNat = third % 4 * 64 + fourth := by
  have below : third % 4 * 64 + fourth < 256 := by omega
  exact UInt8.toNat_ofNat_of_lt' below

theorem sextetsOf_of_octetsOf {sextets : List Nat} {octets : List UInt8}
    (below : ∀ sextet ∈ sextets, sextet < 64) (read : octetsOf sextets = some octets) :
    sextetsOf octets = sextets := by
  induction sextets using octetsOf.induct generalizing octets with
  | case1 =>
      cases read
      rfl
  | case2 first => cases read
  | case3 first second isZero =>
      rw [octetsOf, if_pos isZero] at read
      cases read
      simp only [List.forall_mem_cons] at below
      obtain ⟨firstLt, secondLt, -⟩ := below
      simp only [sextetsOf, toNat_firstOctet firstLt secondLt, List.cons.injEq, and_true]
      constructor <;> omega
  | case4 first second nonzero =>
      rw [octetsOf, if_neg nonzero] at read
      cases read
  | case5 first second third isZero =>
      rw [octetsOf, if_pos isZero] at read
      cases read
      simp only [List.forall_mem_cons] at below
      obtain ⟨firstLt, secondLt, thirdLt, -⟩ := below
      simp only [sextetsOf, toNat_firstOctet firstLt secondLt,
        toNat_secondOctet second thirdLt, List.cons.injEq, and_true]
      refine ⟨?_, ?_, ?_⟩ <;> omega
  | case6 first second third nonzero =>
      rw [octetsOf, if_neg nonzero] at read
      cases read
  | case7 first second third fourth rest ih =>
      rw [octetsOf] at read
      obtain ⟨others, restRead, rfl⟩ := Option.map_eq_some_iff.mp read
      simp only [List.forall_mem_cons] at below
      obtain ⟨firstLt, secondLt, thirdLt, fourthLt, restBelow⟩ := below
      simp only [sextetsOf, toNat_firstOctet firstLt secondLt,
        toNat_secondOctet second thirdLt, toNat_thirdOctet third fourthLt,
        ih restBelow restRead, List.cons.injEq, and_true]
      refine ⟨?_, ?_, ?_, ?_⟩ <;> omega

/-! ### Text -/

/-- The characters of the sextets, in order. -/
def alphabet : List Char :=
  "ABCDEFGHIJKLMNOPQRSTUVWXYZabcdefghijklmnopqrstuvwxyz0123456789-_".toList

def symbol (sextet : Nat) : Char :=
  alphabet.getD sextet 'A'

def sextetOf (char : Char) : Option Nat :=
  alphabet.idxOf? char

def encode (octets : List UInt8) : List Char :=
  (sextetsOf octets).map symbol

/-- The octets of a text without padding. -/
def decode (text : List Char) : Option (List UInt8) :=
  (text.mapM sextetOf).bind octetsOf

/-- A letter, a digit, a dash or an underscore. -/
def IsUrlSafe (char : Char) : Prop :=
  char.isAlphanum = true ∨ char = '-' ∨ char = '_'

instance (char : Char) : Decidable (IsUrlSafe char) :=
  inferInstanceAs (Decidable (_ ∨ _))

theorem symbol_facts : ∀ sextet < 64, sextetOf (symbol sextet) = some sextet ∧
    IsUrlSafe (symbol sextet) := by
  decide

theorem symbol_of_sextetOf {char : Char} {sextet : Nat}
    (found : sextetOf char = some sextet) : sextet < 64 ∧ symbol sextet = char := by
  obtain ⟨below, isChar, -⟩ := List.findIdx?_eq_some_iff_getElem.mp found
  refine ⟨below, ?_⟩
  rw [symbol, List.getD_eq_getElem _ _ below]
  exact eq_of_beq isChar

@[simp]
theorem length_encode (octets : List UInt8) :
    (encode octets).length = (4 * octets.length + 2) / 3 := by
  rw [encode, List.length_map, length_sextetsOf]

theorem isUrlSafe_of_mem_encode {octets : List UInt8} {char : Char}
    (charMem : char ∈ encode octets) : IsUrlSafe char := by
  obtain ⟨sextet, sextetMem, rfl⟩ := List.mem_map.mp charMem
  exact (symbol_facts sextet (sextetsOf_lt octets sextet sextetMem)).2

theorem pad_notMem_encode (octets : List UInt8) : '=' ∉ encode octets := by
  intro padMem
  have isSafe := isUrlSafe_of_mem_encode padMem
  exact absurd isSafe (by decide)

theorem mapM_sextetOf_map_symbol {sextets : List Nat}
    (below : ∀ sextet ∈ sextets, sextet < 64) :
    (sextets.map symbol).mapM sextetOf = some sextets := by
  induction sextets with
  | nil => rfl
  | cons sextet rest ih =>
      obtain ⟨sextetLt, restBelow⟩ := List.forall_mem_cons.mp below
      rw [List.map_cons, List.mapM_cons, (symbol_facts sextet sextetLt).1, ih restBelow]
      rfl

theorem map_symbol_of_mapM {text : List Char} {sextets : List Nat}
    (read : text.mapM sextetOf = some sextets) :
    (∀ sextet ∈ sextets, sextet < 64) ∧ sextets.map symbol = text := by
  induction text generalizing sextets with
  | nil =>
      cases read
      exact ⟨nofun, rfl⟩
  | cons char rest ih =>
      rw [List.mapM_cons] at read
      obtain ⟨sextet, found, read⟩ := Option.bind_eq_some_iff.mp read
      obtain ⟨others, restRead, read⟩ := Option.bind_eq_some_iff.mp read
      cases read
      obtain ⟨below, isChar⟩ := symbol_of_sextetOf found
      obtain ⟨restBelow, restEq⟩ := ih restRead
      exact ⟨List.forall_mem_cons.mpr ⟨below, restBelow⟩,
        by rw [List.map_cons, isChar, restEq]⟩

theorem decode_encode (octets : List UInt8) : decode (encode octets) = some octets := by
  rw [decode, encode, mapM_sextetOf_map_symbol (sextetsOf_lt octets), Option.bind_some,
    octetsOf_sextetsOf]

/-- The only text that decodes to some octets is the one that encodes them. -/
theorem decode_eq_some {text : List Char} {octets : List UInt8} :
    decode text = some octets ↔ text = encode octets := by
  constructor
  · intro read
    obtain ⟨sextets, textRead, sextetsRead⟩ := Option.bind_eq_some_iff.mp read
    obtain ⟨below, textEq⟩ := map_symbol_of_mapM textRead
    rw [encode, sextetsOf_of_octetsOf below sextetsRead, textEq]
  · rintro rfl
    exact decode_encode octets

end Base64Url
