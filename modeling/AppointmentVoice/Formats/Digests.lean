import AppointmentVoice.Ivr.Menus

/-!
# Digests and numerals as texts

A digest travels as hexadecimal text, and is compared with one from outside by
`hmac.compare_digest`, which takes ASCII texts only.  Numbers travel as decimal numerals.
-/

set_option autoImplicit false

namespace AppointmentVoice

/-! ## ASCII and hexadecimal text -/

/-- `str.isascii()`. -/
def isAscii (text : List Char) : Bool := text.all fun char => char.toNat < 128

/-- A digit of `hexdigest()`. -/
def isHexDigit (char : Char) : Bool :=
  ('0' ≤ char && char ≤ '9') || ('a' ≤ char && char ≤ 'f')

/-- A digest as `hexdigest()` writes it. -/
structure Digest where
  text : List Char
  hex : text.all isHexDigit = true
  deriving DecidableEq, Repr

theorem isAscii_of_hex {text : List Char} (hex : text.all isHexDigit = true) :
    isAscii text = true := by
  rw [isAscii, List.all_eq_true]
  intro char member
  have digit := List.all_eq_true.mp hex char member
  simp only [isHexDigit, Bool.or_eq_true, Bool.and_eq_true, decide_eq_true_eq] at digit
  rw [decide_eq_true_eq]
  have below : ∀ bound : Char, char ≤ bound → char.toNat ≤ bound.toNat := fun bound le => le
  rcases digit with ⟨-, le⟩ | ⟨-, le⟩
  · exact (below '9' le).trans_lt (by decide)
  · exact (below 'f' le).trans_lt (by decide)

/-- `hmac.compare_digest` of two texts; `none` is its `TypeError`. -/
def compareDigest (expected given : List Char) : Option Bool :=
  if isAscii expected && isAscii given then some (expected == given) else none

theorem Digest.compare (expected : Digest) (given : List Char) :
    compareDigest expected.text given =
      if isAscii given then some (expected.text == given) else none := by
  rw [compareDigest, isAscii_of_hex expected.hex, Bool.true_and]

/-! ## Numerals -/

/-- `str(number)`; `none` is the `ValueError` of a number with too many digits. -/
def pyStr (number : Int) : Option String :=
  if (Nat.toDigits 10 number.natAbs).length ≤ maxIntDigits then some (toString number) else none

theorem pyStr_eq_some {number : Int} {text : String} :
    pyStr number = some text ↔
      (Nat.toDigits 10 number.natAbs).length ≤ maxIntDigits ∧ toString number = text := by
  rw [pyStr, Option.ite_none_right_eq_some, Option.some_inj]

/-- The digits of a number are read back. -/
theorem decimalValue_of_isDigit {char : Char} (digit : char.isDigit = true) :
    decimalValue char = some (char.toNat - '0'.toNat) := by
  obtain ⟨low, high⟩ : 48 ≤ char.toNat ∧ char.toNat ≤ 57 := by
    rw [Char.isDigit, Bool.and_eq_true, decide_eq_true_eq, decide_eq_true_eq] at digit
    exact digit
  rw [decimalValue, Customers.decimalZeros, List.find?_cons_of_pos]
  · rfl
  · rw [Bool.and_eq_true, decide_eq_true_eq, decide_eq_true_eq]
    omega

theorem digitsAfter_of_isDigit {text : List Char} (digits : ∀ char ∈ text, char.isDigit = true) :
    digitsAfter text = some (text.map fun char => char.toNat - '0'.toNat) := by
  induction text with
  | nil => rfl
  | cons char text ih =>
      have mine := digits char List.mem_cons_self
      have rest := ih fun other member => digits other (List.mem_cons_of_mem char member)
      rw [digitsAfter.eq_3, decimalValue_of_isDigit mine, rest]
      · rfl
      · rintro _ _ rfl
        exact absurd mine (by decide)

theorem digitsOf_of_isDigit {text : List Char} (nonempty : text ≠ [])
    (digits : ∀ char ∈ text, char.isDigit = true) :
    digitsOf text = some (text.map fun char => char.toNat - '0'.toNat) := by
  obtain ⟨char, rest, rfl⟩ := List.exists_cons_of_ne_nil nonempty
  rw [digitsOf, decimalValue_of_isDigit (digits char List.mem_cons_self),
    digitsAfter_of_isDigit fun other member => digits other (List.mem_cons_of_mem char member)]
  rfl

theorem isDigit_of_mem_toDigits {number : Nat} {char : Char}
    (member : char ∈ Nat.toDigits 10 number) : char.isDigit = true :=
  Nat.isDigit_of_mem_toDigits (by decide) (by decide) member

theorem unsignedInt_toDigits {number : Nat}
    (short : (Nat.toDigits 10 number).length ≤ maxIntDigits) :
    unsignedInt (Nat.toDigits 10 number) = some (number : Int) := by
  have value : (Nat.toDigits 10 number).foldl
      (fun value char => value * 10 + (char.toNat - '0'.toNat)) 0 = number := by
    have read := Nat.ofDigitChars_ten_toDigits (n := number)
    rw [Nat.ofDigitChars_eq_foldl] at read
    simpa only [Nat.mul_comm 10] using read
  rw [unsignedInt, digitsOf_of_isDigit Nat.toDigits_ne_nil fun char => isDigit_of_mem_toDigits]
  simp only [Option.bind_eq_bind, Option.bind_some, List.length_map, List.foldl_map, value,
    if_neg (Nat.not_lt.mpr short)]

theorem isSpace_of_isDigit {char : Char} (digit : char.isDigit = true) : isSpace char = false := by
  obtain ⟨low, high⟩ : 48 ≤ char.toNat ∧ char.toNat ≤ 57 := by
    rw [Char.isDigit, Bool.and_eq_true, decide_eq_true_eq, decide_eq_true_eq] at digit
    exact digit
  simp only [isSpace, Bool.or_eq_false_iff, Bool.and_eq_false_iff, decide_eq_false_iff_not,
    beq_eq_false_iff_ne, ne_eq]
  omega

theorem trim_of_solid {space : Char → Bool} {text : List Char}
    (solid : ∀ char ∈ text, space char = false) : trim space text = text := by
  have dropped : ∀ text : List Char, (∀ char ∈ text, space char = false) →
      text.dropWhile space = text := by
    intro text solid
    cases text with
    | nil => rfl
    | cons char rest => exact List.dropWhile_cons_of_neg (by simp [solid char List.mem_cons_self])
  rw [trim, dropped text solid, dropped text.reverse, List.reverse_reverse]
  exact fun char member => solid char (List.mem_reverse.mp member)

/-- The characters of a numeral. -/
theorem numeral_char {number : Int} {char : Char} (member : char ∈ (toString number).toList) :
    char = '-' ∨ char.isDigit = true := by
  rw [Int.toString_eq_repr, Int.repr_eq_if] at member
  split at member
  · rw [Nat.toList_repr] at member
    exact .inr (isDigit_of_mem_toDigits member)
  · rw [String.toList_append, Nat.toList_repr, List.mem_append] at member
    rcases member with sign | digit
    · exact .inl (by simpa using sign)
    · exact .inr (isDigit_of_mem_toDigits digit)

theorem numeral_solid {number : Int} {char : Char} (member : char ∈ (toString number).toList) :
    isIntSpace char = false := by
  rcases numeral_char member with rfl | digit
  · decide
  · rw [isIntSpace, isSpace_of_isDigit digit, Bool.false_and]

/-- A numeral has no dot. -/
theorem numeral_ne_dot {number : Int} {char : Char} (member : char ∈ (toString number).toList) :
    char ≠ '.' := by
  rintro rfl
  rcases numeral_char member with sign | digit
  · exact absurd sign (by decide)
  · exact absurd digit (by decide)

theorem pyInt_of_natural {number : Int} (natural : 0 ≤ number)
    (short : (Nat.toDigits 10 number.natAbs).length ≤ maxIntDigits) :
    pyInt (toString number) = some number := by
  have read : unsignedInt (Nat.toDigits 10 number.toNat) = some number := by
    rw [← Int.natAbs_of_nonneg natural, Int.toNat_natCast, unsignedInt_toDigits short]
  have digits : ∀ char ∈ Nat.toDigits 10 number.toNat, char.isDigit = true :=
    fun char => isDigit_of_mem_toDigits
  rw [pyInt, trim_of_solid fun char => numeral_solid, Int.toString_eq_repr, Int.repr_eq_if,
    if_pos natural, Nat.toList_repr]
  split
  next rest shape => exact absurd (digits '+' (shape ▸ List.mem_cons_self)) (by decide)
  next rest shape => exact absurd (digits '-' (shape ▸ List.mem_cons_self)) (by decide)
  next => exact read

theorem pyInt_of_negative {number : Int} (negative : number < 0)
    (short : (Nat.toDigits 10 number.natAbs).length ≤ maxIntDigits) :
    pyInt (toString number) = some number := by
  have read : unsignedInt (Nat.toDigits 10 (-number).toNat) = some (-number) := by
    rw [show (-number).toNat = number.natAbs by omega, unsignedInt_toDigits short,
      Int.ofNat_natAbs_of_nonpos negative.le]
  rw [pyInt, trim_of_solid fun char => numeral_solid, Int.toString_eq_repr, Int.repr_eq_if,
    if_neg (by omega), String.toList_append, Nat.toList_repr]
  exact (congrArg (Option.map (-·)) read).trans (congrArg some (Int.neg_neg number))

/-- `int(str(number)) == number`. -/
theorem pyInt_pyStr {number : Int} {text : String} (written : pyStr number = some text) :
    pyInt text = some number := by
  obtain ⟨short, rfl⟩ := pyStr_eq_some.mp written
  rcases lt_or_ge number 0 with negative | natural
  · exact pyInt_of_negative negative short
  · exact pyInt_of_natural natural short

/-! ## What is read can be written -/

theorem decimalValue_lt {char : Char} {digit : Nat} (value : decimalValue char = some digit) :
    digit < 10 := by
  obtain ⟨first, found, rfl⟩ := Option.map_eq_some_iff.mp value
  have inside := List.find?_some found
  rw [Bool.and_eq_true, decide_eq_true_eq, decide_eq_true_eq] at inside
  omega

theorem digitsAfter_lt {text : List Char} {digits : List Nat}
    (read : digitsAfter text = some digits) : ∀ digit ∈ digits, digit < 10 := by
  induction text using digitsAfter.induct generalizing digits with
  | case1 =>
      obtain rfl := Option.some.inj read
      exact fun _ member => absurd member List.not_mem_nil
  | case2 char rest ih =>
      rw [digitsAfter] at read
      obtain ⟨first, value, read⟩ := Option.bind_eq_some_iff.mp read
      obtain ⟨others, tail, same⟩ := Option.bind_eq_some_iff.mp read
      obtain rfl := Option.some.inj same
      exact List.forall_mem_cons.mpr ⟨decimalValue_lt value, ih tail⟩
  | case3 char rest other ih =>
      rw [digitsAfter] at read
      obtain ⟨first, value, read⟩ := Option.bind_eq_some_iff.mp read
      obtain ⟨others, tail, same⟩ := Option.bind_eq_some_iff.mp read
      obtain rfl := Option.some.inj same
      exact List.forall_mem_cons.mpr ⟨decimalValue_lt value, ih tail⟩
      exact other

theorem digitsOf_lt {text : List Char} {digits : List Nat} (read : digitsOf text = some digits) :
    ∀ digit ∈ digits, digit < 10 := by
  cases text with
  | nil => cases read
  | cons char rest =>
      rw [digitsOf] at read
      obtain ⟨first, value, read⟩ := Option.bind_eq_some_iff.mp read
      obtain ⟨others, tail, same⟩ := Option.bind_eq_some_iff.mp read
      obtain rfl := Option.some.inj same
      exact List.forall_mem_cons.mpr ⟨decimalValue_lt value, digitsAfter_lt tail⟩

theorem foldl_digits_lt {digits : List Nat} (small : ∀ digit ∈ digits, digit < 10) (value : Nat) :
    digits.foldl (fun number digit => number * 10 + digit) value <
      (value + 1) * 10 ^ digits.length := by
  induction digits generalizing value with
  | nil => simp
  | cons digit digits ih =>
      obtain ⟨mine, rest⟩ := List.forall_mem_cons.mp small
      calc digits.foldl (fun number digit => number * 10 + digit) (value * 10 + digit)
          < (value * 10 + digit + 1) * 10 ^ digits.length := ih rest _
        _ ≤ ((value + 1) * 10) * 10 ^ digits.length := Nat.mul_le_mul_right _ (by omega)
        _ = (value + 1) * 10 ^ (digits.length + 1) := by rw [Nat.mul_assoc, Nat.pow_succ']

theorem unsignedInt_short {text : List Char} {number : Int}
    (read : unsignedInt text = some number) :
    (Nat.toDigits 10 number.natAbs).length ≤ maxIntDigits := by
  rw [unsignedInt] at read
  obtain ⟨digits, found, read⟩ := Option.bind_eq_some_iff.mp read
  split at read
  · cases read
  · rename_i short
    obtain rfl := Option.some.inj read
    rw [Nat.length_toDigits_le_iff (by decide) (by decide), Int.natAbs_natCast]
    calc digits.foldl (fun number digit => number * 10 + digit) 0
        < (0 + 1) * 10 ^ digits.length := foldl_digits_lt (digitsOf_lt found) 0
      _ ≤ 10 ^ maxIntDigits := by
          rw [Nat.zero_add, Nat.one_mul]
          exact Nat.pow_le_pow_right (by decide) (Nat.not_lt.mp short)

/-- A number that `int` has read has no more digits than `str` writes. -/
theorem pyStr_of_pyInt {text : String} {number : Int} (read : pyInt text = some number) :
    pyStr number = some (toString number) := by
  refine pyStr_eq_some.mpr ⟨?_, rfl⟩
  rw [pyInt] at read
  split at read
  · exact unsignedInt_short read
  · obtain ⟨size, unsigned, rfl⟩ := Option.map_eq_some_iff.mp read
    rw [Int.natAbs_neg]
    exact unsignedInt_short unsigned
  · exact unsignedInt_short read

end AppointmentVoice
