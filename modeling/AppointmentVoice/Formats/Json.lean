import Mathlib

/-!
# JSON texts

Printing of JSON values as `json.dumps` does it by default, all of it ASCII with
`", "` and `": "` as separators, and reading as `json.loads` does it.  Numbers are
integers; a text with a fraction or an exponent is not read.  Reading recurs on
fuel, and the length of the text is always enough.

What has been printed is read back: `loads_dumps`.
-/

set_option autoImplicit false

namespace Formats.Json

/-- A JSON value.  The members of an object are in the order of the dictionary. -/
inductive Value where
  | null
  | bool (value : Bool)
  | int (value : Int)
  | string (text : String)
  | array (items : List Value)
  | object (members : List (String × Value))

/-! ## Printing -/

/-- Four lower-case hexadecimal digits. -/
def hexFour (code : Nat) : List Char :=
  [(code / 4096 % 16).digitChar, (code / 256 % 16).digitChar, (code / 16 % 16).digitChar,
    (code % 16).digitChar]

/-- `\uXXXX`. -/
def escapeUnit (code : Nat) : List Char := '\\' :: 'u' :: hexFour code

/-- A character inside a string: what is not printable ASCII is escaped, and what
lies above the first plane becomes a pair of surrogates. -/
def escapeChar (char : Char) : List Char :=
  if char = '"' then ['\\', '"']
  else if char = '\\' then ['\\', '\\']
  else if char = '\n' then ['\\', 'n']
  else if char = '\r' then ['\\', 'r']
  else if char = '\t' then ['\\', 't']
  else if char = '\x0c' then ['\\', 'f']
  else if char = '\x08' then ['\\', 'b']
  else if 32 ≤ char.toNat ∧ char.toNat ≤ 126 then [char]
  else if char.toNat < 0x10000 then escapeUnit char.toNat
  else escapeUnit (0xd800 + (char.toNat - 0x10000) / 1024) ++
    escapeUnit (0xdc00 + (char.toNat - 0x10000) % 1024)

/-- A text between quotation marks. -/
def printString (text : String) : List Char :=
  '"' :: text.toList.flatMap escapeChar ++ ['"']

/-- A whole number in decimal digits. -/
def printInt (number : Int) : List Char :=
  if number < 0 then '-' :: Nat.toDigits 10 number.natAbs else Nat.toDigits 10 number.natAbs

mutual

/-- The text of a value, as `json.dumps` writes it. -/
def Value.print : Value → List Char
  | .null => ['n', 'u', 'l', 'l']
  | .bool true => ['t', 'r', 'u', 'e']
  | .bool false => ['f', 'a', 'l', 's', 'e']
  | .int value => printInt value
  | .string text => printString text
  | .array [] => ['[', ']']
  | .array (item :: items) => '[' :: item.print ++ printItems items
  | .object [] => ['\x7b', '\x7d']
  | .object ((key, value) :: members) =>
      '\x7b' :: printString key ++ [':', ' '] ++ value.print ++ printMembers members

/-- The items after the first, and the closing bracket. -/
def printItems : List Value → List Char
  | [] => [']']
  | item :: items => [',', ' '] ++ item.print ++ printItems items

/-- The members after the first, and the closing brace. -/
def printMembers : List (String × Value) → List Char
  | [] => ['\x7d']
  | (key, value) :: members =>
      [',', ' '] ++ printString key ++ [':', ' '] ++ value.print ++ printMembers members

end

/-- `json.dumps`. -/
def dumps (value : Value) : String := String.ofList value.print

/-! ## Reading -/

/-- The blanks of JSON. -/
def isSpace (char : Char) : Bool := char == ' ' || char == '\t' || char == '\n' || char == '\r'

/-- The input behind its first blanks. -/
def skipSpace (input : List Char) : List Char := input.dropWhile isSpace

/-- A hexadecimal digit, of either case. -/
def hexValue (char : Char) : Option Nat :=
  if char.isDigit then some (char.toNat - 48)
  else if 97 ≤ char.toNat ∧ char.toNat ≤ 102 then some (char.toNat - 87)
  else if 65 ≤ char.toNat ∧ char.toNat ≤ 70 then some (char.toNat - 55)
  else none

/-- The number of four hexadecimal digits. -/
def readHexFour : List Char → Option (Nat × List Char)
  | first :: second :: third :: fourth :: rest => do
      let first ← hexValue first
      let second ← hexValue second
      let third ← hexValue third
      let fourth ← hexValue fourth
      return (first * 4096 + second * 256 + third * 16 + fourth, rest)
  | _ => none

/-- What follows `\u`.  A lone surrogate is no character. -/
def readUnit (input : List Char) : Option (Char × List Char) := do
  let (code, rest) ← readHexFour input
  if code < 0xd800 ∨ 0xdfff < code then return (Char.ofNat code, rest)
  else if code < 0xdc00 then
    match rest with
    | '\\' :: 'u' :: more =>
        let (low, rest) ← readHexFour more
        if 0xdc00 ≤ low ∧ low ≤ 0xdfff then
          return (Char.ofNat (0x10000 + (code - 0xd800) * 1024 + (low - 0xdc00)), rest)
        else none
    | _ => none
  else none

/-- What follows a backslash. -/
def readEscape : List Char → Option (Char × List Char)
  | [] => none
  | char :: rest =>
      if char = 'u' then readUnit rest
      else if char = '"' then some ('"', rest)
      else if char = '\\' then some ('\\', rest)
      else if char = '/' then some ('/', rest)
      else if char = 'n' then some ('\n', rest)
      else if char = 'r' then some ('\r', rest)
      else if char = 't' then some ('\t', rest)
      else if char = 'f' then some ('\x0c', rest)
      else if char = 'b' then some ('\x08', rest)
      else none

/-- The characters of a string up to its closing quote. -/
def readChars : Nat → List Char → Option (List Char × List Char)
  | 0, _ => none
  | _ + 1, [] => none
  | fuel + 1, char :: rest =>
      if char = '"' then some ([], rest)
      else if char = '\\' then do
        let (char, rest) ← readEscape rest
        let (chars, rest) ← readChars fuel rest
        return (char :: chars, rest)
      else if char.toNat < 32 then none
      else do
        let (chars, rest) ← readChars fuel rest
        return (char :: chars, rest)

/-- The text up to the closing quotation mark. -/
def readString (input : List Char) : Option (String × List Char) := do
  let (chars, rest) ← readChars input.length input
  return (String.ofList chars, rest)

/-- A number begins with no zero but its only digit, and has no fraction or
exponent. -/
def readNat (input : List Char) : Option (Nat × List Char) :=
  let digits := input.takeWhile Char.isDigit
  let rest := input.dropWhile Char.isDigit
  if digits = [] ∨ (digits.head? = some '0' ∧ 1 < digits.length) then none
  else if rest.head? = some '.' ∨ rest.head? = some 'e' ∨ rest.head? = some 'E' then none
  else some (Nat.ofDigitChars 10 digits 0, rest)

/-- A whole number with or without a sign. -/
def readInt : List Char → Option (Int × List Char)
  | '-' :: rest => do
      let (number, rest) ← readNat rest
      return (-(number : Int), rest)
  | input => do
      let (number, rest) ← readNat input
      return ((number : Int), rest)

/-- The rest of a word of which the first letter has been read. -/
def readWord (word : List Char) (value : Value) (input : List Char) : Option (Value × List Char) :=
  if word <+: input then some (value, input.drop word.length) else none

/-- A dictionary from pairs: a key that comes again replaces the value at its
first place. -/
def insertMember (members : List (String × Value)) (member : String × Value) :
    List (String × Value) :=
  if members.any (·.1 = member.1) then
    members.map fun other => if other.1 = member.1 then member else other
  else members ++ [member]

/-- The members of an object; of two with one key the later one stays. -/
def dictionary (pairs : List (String × Value)) : List (String × Value) :=
  pairs.foldl insertMember []

mutual

/-- A value at the beginning of the input; the fuel bounds how deep it nests. -/
def readValue : Nat → List Char → Option (Value × List Char)
  | 0, _ => none
  | _ + 1, [] => none
  | fuel + 1, char :: rest =>
      if char = '"' then do
        let (text, rest) ← readString rest
        return (.string text, rest)
      else if char = '[' then
        match skipSpace rest with
        | ']' :: rest => some (.array [], rest)
        | input => do
            let (item, rest) ← readValue fuel input
            let (items, rest) ← readItems fuel rest
            return (.array (item :: items), rest)
      else if char = '\x7b' then
        match skipSpace rest with
        | '\x7d' :: rest => some (.object [], rest)
        | input => do
            let (member, rest) ← readMember fuel input
            let (members, rest) ← readMembers fuel rest
            return (.object (dictionary (member :: members)), rest)
      else if char = 'n' then readWord ['u', 'l', 'l'] .null rest
      else if char = 't' then readWord ['r', 'u', 'e'] (.bool true) rest
      else if char = 'f' then readWord ['a', 'l', 's', 'e'] (.bool false) rest
      else do
        let (number, rest) ← readInt (char :: rest)
        return (.int number, rest)

/-- The items after the first, up to the closing bracket. -/
def readItems : Nat → List Char → Option (List Value × List Char)
  | 0, _ => none
  | fuel + 1, input =>
      match skipSpace input with
      | ']' :: rest => some ([], rest)
      | ',' :: rest => do
          let (item, rest) ← readValue fuel (skipSpace rest)
          let (items, rest) ← readItems fuel rest
          return (item :: items, rest)
      | _ => none

/-- A key and its value. -/
def readMember : Nat → List Char → Option ((String × Value) × List Char)
  | 0, _ => none
  | fuel + 1, input =>
      match input with
      | '"' :: rest => do
          let (key, rest) ← readString rest
          match skipSpace rest with
          | ':' :: rest =>
              let (value, rest) ← readValue fuel (skipSpace rest)
              return ((key, value), rest)
          | _ => none
      | _ => none

/-- The members after the first, up to the closing brace. -/
def readMembers : Nat → List Char → Option (List (String × Value) × List Char)
  | 0, _ => none
  | fuel + 1, input =>
      match skipSpace input with
      | '\x7d' :: rest => some ([], rest)
      | ',' :: rest => do
          let (member, rest) ← readMember fuel (skipSpace rest)
          let (members, rest) ← readMembers fuel rest
          return (member :: members, rest)
      | _ => none

end

/-- `json.loads`. -/
def loads (text : String) : Option Value := do
  let (value, rest) ← readValue (text.length + 1) (skipSpace text.toList)
  if skipSpace rest = [] then return value else none

/-! ## Strings are read back -/

theorem hexValue_digitChar : ∀ digit < 16, hexValue digit.digitChar = some digit := by decide

theorem readHexFour_hexFour {code : Nat} (small : code < 65536) (rest : List Char) :
    readHexFour (hexFour code ++ rest) = some (code, rest) := by
  have digits : ∀ number, hexValue (number % 16).digitChar = some (number % 16) :=
    fun number => hexValue_digitChar _ (Nat.mod_lt _ (by decide))
  simp only [hexFour, readHexFour, List.cons_append, List.nil_append, digits, Option.bind_eq_bind,
    Option.bind_some, Option.pure_def, Option.some.injEq, Prod.mk.injEq, and_true]
  omega

/-- A character of the first plane is its own unit. -/
theorem readUnit_small {char : Char} (small : char.toNat < 0x10000) (rest : List Char) :
    readUnit (hexFour char.toNat ++ rest) = some (char, rest) := by
  have valid : char.toNat < 0xd800 ∨ 0xdfff < char.toNat := by
    rcases char.valid with low | high
    · exact .inl low
    · exact .inr high.1
  rw [readUnit, readHexFour_hexFour small, Option.bind_eq_bind, Option.bind_some]
  dsimp only
  rw [if_pos valid, Char.ofNat_toNat]
  rfl

/-- A character above the first plane is a pair of surrogates. -/
theorem readUnit_large {char : Char} (large : ¬char.toNat < 0x10000) (rest : List Char) :
    readUnit (hexFour (0xd800 + (char.toNat - 0x10000) / 1024) ++
      (escapeUnit (0xdc00 + (char.toNat - 0x10000) % 1024) ++ rest)) = some (char, rest) := by
  have bounded : char.toNat < 0x110000 := by
    rcases char.valid with low | high
    · exact Nat.lt_trans low (by decide)
    · exact high.2
  have highSurrogate : ¬(0xd800 + (char.toNat - 0x10000) / 1024 < 0xd800 ∨
      0xdfff < 0xd800 + (char.toNat - 0x10000) / 1024) := by omega
  have isHigh : 0xd800 + (char.toNat - 0x10000) / 1024 < 0xdc00 := by omega
  have lowSurrogate : 0xdc00 ≤ 0xdc00 + (char.toNat - 0x10000) % 1024 ∧
      0xdc00 + (char.toNat - 0x10000) % 1024 ≤ 0xdfff := by omega
  have whole : 0x10000 + (0xd800 + (char.toNat - 0x10000) / 1024 - 0xd800) * 1024 +
      (0xdc00 + (char.toNat - 0x10000) % 1024 - 0xdc00) = char.toNat := by omega
  rw [readUnit, readHexFour_hexFour (by omega), Option.bind_eq_bind, Option.bind_some]
  dsimp only [escapeUnit, List.cons_append]
  rw [if_neg highSurrogate, if_pos isHigh]
  change (readHexFour (hexFour _ ++ rest)).bind _ = _
  rw [readHexFour_hexFour (by omega), Option.bind_some]
  dsimp only
  rw [if_pos lowSurrogate, whole, Char.ofNat_toNat]
  rfl

/-- One escape is one character. -/
theorem readChars_backslash {input rest : List Char} {char : Char}
    (read : readEscape input = some (char, rest)) (fuel : Nat) :
    readChars (fuel + 1) ('\\' :: input) =
      (readChars fuel rest).map fun read => (char :: read.1, read.2) := by
  rw [readChars, if_neg (by decide), if_pos rfl, read, Option.bind_eq_bind, Option.bind_some]
  dsimp only
  cases readChars fuel rest <;> rfl

/-- A character is read back from its escape. -/
theorem readChars_escapeChar (char : Char) (fuel : Nat) (rest : List Char) :
    readChars (fuel + 1) (escapeChar char ++ rest) =
      (readChars fuel rest).map fun read => (char :: read.1, read.2) := by
  unfold escapeChar
  split_ifs with quote backslash newline carriage tab form bell plain small
  · subst quote
    exact readChars_backslash rfl fuel
  · subst backslash
    exact readChars_backslash rfl fuel
  · subst newline
    exact readChars_backslash rfl fuel
  · subst carriage
    exact readChars_backslash rfl fuel
  · subst tab
    exact readChars_backslash rfl fuel
  · subst form
    exact readChars_backslash rfl fuel
  · subst bell
    exact readChars_backslash rfl fuel
  · rw [List.singleton_append, readChars, if_neg quote, if_neg backslash, if_neg (by omega)]
    cases readChars fuel rest <;> rfl
  · refine readChars_backslash ?_ fuel
    exact readUnit_small small rest
  · rw [List.append_assoc]
    refine readChars_backslash ?_ fuel
    exact readUnit_large small rest

theorem escapeChar_ne_nil (char : Char) : 1 ≤ (escapeChar char).length := by
  unfold escapeChar
  repeat' split
  all_goals simp [escapeUnit]

theorem readChars_flatMap (chars : List Char) {fuel : Nat} (enough : chars.length < fuel)
    (rest : List Char) :
    readChars fuel (chars.flatMap escapeChar ++ '"' :: rest) = some (chars, rest) := by
  induction chars generalizing fuel with
  | nil =>
      cases fuel with
      | zero => cases enough
      | succ fuel => rfl
  | cons char chars ih =>
      cases fuel with
      | zero => cases enough
      | succ fuel =>
          rw [List.flatMap_cons, List.append_assoc, readChars_escapeChar,
            ih (Nat.lt_of_succ_lt_succ enough)]
          rfl

theorem length_le_flatMap (chars : List Char) :
    chars.length ≤ (chars.flatMap escapeChar).length := by
  induction chars with
  | nil => exact Nat.le_refl _
  | cons char chars ih =>
      have one := escapeChar_ne_nil char
      rw [List.flatMap_cons, List.length_append, List.length_cons]
      omega

theorem printString_append (text : String) (rest : List Char) :
    printString text ++ rest = '"' :: (text.toList.flatMap escapeChar ++ '"' :: rest) := by
  simp [printString]

theorem readString_print (text : String) (rest : List Char) :
    readString (text.toList.flatMap escapeChar ++ '"' :: rest) = some (text, rest) := by
  have enough : text.toList.length < (text.toList.flatMap escapeChar ++ '"' :: rest).length := by
    have shorter := length_le_flatMap text.toList
    rw [List.length_append, List.length_cons]
    omega
  rw [readString, readChars_flatMap _ enough, Option.bind_eq_bind, Option.bind_some]
  dsimp only
  rw [String.ofList_toList]
  rfl

/-! ## Numbers are read back -/

/-- What can come after a value. -/
def Follows (rest : List Char) : Prop :=
  ∀ char ∈ rest.head?, char = ',' ∨ char = ']' ∨ char = '\x7d'

theorem follows_cons {char : Char} (isClosing : char = ',' ∨ char = ']' ∨ char = '\x7d')
    (rest : List Char) : Follows (char :: rest) := by
  rintro _ ⟨⟩
  exact isClosing

theorem head_toDigits {number : Nat} (positive : 0 < number) :
    (Nat.toDigits 10 number).head? ≠ some '0' := by
  induction number using Nat.strong_induction_on with
  | _ number ih =>
      by_cases small : number < 10
      · rw [Nat.toDigits_of_lt_base small, List.head?_cons, ne_eq, Option.some.injEq,
          Nat.digitChar_eq_zero]
        omega
      · have earlier := ih (number / 10) (by omega) (by omega)
        rw [Nat.toDigits_of_base_le (by decide) (by omega), List.head?_append]
        cases text : Nat.toDigits 10 (number / 10) with
        | nil => exact absurd text Nat.toDigits_ne_nil
        | cons char tail =>
            rw [text] at earlier
            exact earlier

theorem readNat_toDigits (number : Nat) {rest : List Char} (follows : Follows rest) :
    readNat (Nat.toDigits 10 number ++ rest) = some (number, rest) := by
  have digits : ∀ char ∈ Nat.toDigits 10 number, char.isDigit = true :=
    fun char member => Nat.isDigit_of_mem_toDigits (by decide) (by decide) member
  have nothing : rest.takeWhile Char.isDigit = [] ∧ rest.dropWhile Char.isDigit = rest := by
    cases rest with
    | nil => exact ⟨rfl, rfl⟩
    | cons char tail =>
        have isNoDigit : char.isDigit = false := by
          rcases follows char rfl with rfl | rfl | rfl <;> rfl
        rw [List.takeWhile_cons_of_neg (by rw [isNoDigit]; decide),
          List.dropWhile_cons_of_neg (by rw [isNoDigit]; decide)]
        exact ⟨rfl, rfl⟩
  have noFraction : ¬(rest.head? = some '.' ∨ rest.head? = some 'e' ∨ rest.head? = some 'E') := by
    rintro (same | same | same) <;> rcases follows _ same with other | other | other <;> cases other
  have noZero : ¬(Nat.toDigits 10 number = [] ∨
      ((Nat.toDigits 10 number).head? = some '0' ∧ 1 < (Nat.toDigits 10 number).length)) := by
    rintro (empty | ⟨zero, long⟩)
    · exact Nat.toDigits_ne_nil empty
    · rcases Nat.eq_zero_or_pos number with rfl | positive
      · rw [Nat.toDigits_zero] at long
        exact absurd long (by decide)
      · exact head_toDigits positive zero
  simp only [readNat, List.takeWhile_append_of_pos digits, List.dropWhile_append_of_pos digits,
    nothing, List.append_nil]
  rw [if_neg noZero, if_neg noFraction, Nat.ofDigitChars_ten_toDigits]

/-- A number begins with a digit or a sign. -/
theorem printInt_cons (number : Int) : ∃ char tail, printInt number = char :: tail ∧
    (char = '-' ∨ char.isDigit = true) := by
  rw [printInt]
  split
  · exact ⟨_, _, rfl, .inl rfl⟩
  · cases text : Nat.toDigits 10 number.natAbs with
    | nil => exact absurd text Nat.toDigits_ne_nil
    | cons char tail =>
        refine ⟨char, tail, rfl, .inr ?_⟩
        exact Nat.isDigit_of_mem_toDigits (by decide) (by decide)
          (text ▸ List.mem_cons_self : char ∈ Nat.toDigits 10 number.natAbs)

theorem readInt_print (number : Int) {rest : List Char} (follows : Follows rest) :
    readInt (printInt number ++ rest) = some (number, rest) := by
  rw [printInt]
  split
  · next negative =>
      rw [List.cons_append, readInt, readNat_toDigits _ follows]
      have same : -(number.natAbs : Int) = number := by omega
      change some (-(number.natAbs : Int), rest) = some (number, rest)
      rw [same]
  · next positive =>
      have same : (number.natAbs : Int) = number := by omega
      have read := readNat_toDigits number.natAbs follows
      cases text : Nat.toDigits 10 number.natAbs with
      | nil => exact absurd text Nat.toDigits_ne_nil
      | cons char tail =>
          have isDigit : char.isDigit = true :=
            Nat.isDigit_of_mem_toDigits (by decide) (by decide)
              (text ▸ List.mem_cons_self : char ∈ Nat.toDigits 10 number.natAbs)
          rw [text] at read
          rw [List.cons_append] at read ⊢
          rw [readInt]
          · rw [read]
            simp [same]
          · rintro _ same
            cases same
            cases isDigit

/-! ## Values are read back -/

mutual

/-- No dictionary in the value has a key twice. -/
def Value.distinct : Value → Bool
  | .array items => itemsDistinct items
  | .object members => decide (members.map Prod.fst).Nodup && membersDistinct members
  | _ => true

/-- No object in the items has a key twice. -/
def itemsDistinct : List Value → Bool
  | [] => true
  | item :: items => item.distinct && itemsDistinct items

/-- No object in the members has a key twice. -/
def membersDistinct : List (String × Value) → Bool
  | [] => true
  | (_, value) :: members => value.distinct && membersDistinct members

end

theorem foldl_insertMember (earlier pairs : List (String × Value))
    (distinct : ((earlier ++ pairs).map Prod.fst).Nodup) :
    pairs.foldl insertMember earlier = earlier ++ pairs := by
  induction pairs generalizing earlier with
  | nil => rw [List.append_nil]; rfl
  | cons pair pairs ih =>
      have fresh : ¬earlier.any (·.1 = pair.1) = true := by
        rw [List.any_eq_true]
        rintro ⟨other, there, same⟩
        rw [List.map_append, List.nodup_append] at distinct
        exact distinct.2.2 _ (List.mem_map_of_mem there) _ (List.mem_map_of_mem List.mem_cons_self)
          (of_decide_eq_true same)
      have inserted : insertMember earlier pair = earlier ++ [pair] := if_neg fresh
      rw [List.foldl_cons, inserted, ih]
      · rw [List.append_assoc, List.singleton_append]
      · rwa [List.append_assoc, List.singleton_append]

theorem dictionary_of_nodup {pairs : List (String × Value)}
    (distinct : (pairs.map Prod.fst).Nodup) :
    dictionary pairs = pairs :=
  foldl_insertMember [] pairs distinct

theorem skipSpace_cons {char : Char} (solid : isSpace char = false) (rest : List Char) :
    skipSpace (char :: rest) = char :: rest :=
  List.dropWhile_cons_of_neg (by rw [solid]; decide)

/-- The text of a value begins with neither a space nor a closing bracket. -/
theorem print_cons (value : Value) : ∃ char tail, value.print = char :: tail ∧
    isSpace char = false ∧ char ≠ ']' := by
  cases value with
  | null => exact ⟨_, _, rfl, rfl, by decide⟩
  | bool value => cases value <;> exact ⟨_, _, rfl, rfl, by decide⟩
  | int value =>
      obtain ⟨char, tail, text, sign | digit⟩ := printInt_cons value
      · exact ⟨char, tail, by rw [Value.print, text], by rw [sign]; rfl, by rw [sign]; decide⟩
      · refine ⟨char, tail, by rw [Value.print, text], ?_, ?_⟩
        · cases space : isSpace char with
          | false => rfl
          | true =>
              simp only [isSpace, Bool.or_eq_true, beq_iff_eq] at space
              rcases space with ((rfl | rfl) | rfl) | rfl <;> cases digit
        · rintro rfl
          cases digit
  | string text => exact ⟨_, _, rfl, rfl, by decide⟩
  | array items =>
      cases items with
      | nil => exact ⟨_, _, by rw [Value.print], rfl, by decide⟩
      | cons item items => exact ⟨_, _, by rw [Value.print]; rfl, rfl, by decide⟩
  | object members =>
      cases members with
      | nil => exact ⟨_, _, by rw [Value.print], rfl, by decide⟩
      | cons member members => exact ⟨_, _, by rw [Value.print]; rfl, rfl, by decide⟩

theorem skipSpace_print (value : Value) (rest : List Char) :
    skipSpace (value.print ++ rest) = value.print ++ rest := by
  obtain ⟨char, tail, text, solid, -⟩ := print_cons value
  rw [text, List.cons_append, skipSpace_cons solid]

theorem skipSpace_printString (text : String) (rest : List Char) :
    skipSpace (printString text ++ rest) = printString text ++ rest := by
  rw [printString_append, skipSpace_cons rfl]

theorem follows_printItems (items : List Value) (rest : List Char) :
    Follows (printItems items ++ rest) := by
  cases items <;> rw [printItems] <;> exact follows_cons (by decide) _

theorem follows_printMembers (members : List (String × Value)) (rest : List Char) :
    Follows (printMembers members ++ rest) := by
  cases members <;> rw [printMembers] <;> exact follows_cons (by decide) _

/-- With this much fuel, texts of that length are read back. -/
structure ReadsBack (fuel : Nat) : Prop where
  value : ∀ (value : Value) (rest : List Char), value.print.length ≤ fuel → value.distinct = true →
    Follows rest → readValue fuel (value.print ++ rest) = some (value, rest)
  items : ∀ (items : List Value) (rest : List Char), (printItems items).length ≤ fuel →
    itemsDistinct items = true → readItems fuel (printItems items ++ rest) = some (items, rest)
  member : ∀ (key : String) (value : Value) (rest : List Char), value.print.length < fuel →
    value.distinct = true → Follows rest →
      readMember fuel (printString key ++ ([':', ' '] ++ (value.print ++ rest))) =
        some ((key, value), rest)
  members : ∀ (members : List (String × Value)) (rest : List Char),
    (printMembers members).length ≤ fuel → membersDistinct members = true →
      readMembers fuel (printMembers members ++ rest) = some (members, rest)

theorem readWord_append (word : List Char) (value : Value) (rest : List Char) :
    readWord word value (word ++ rest) = some (value, rest) := by
  rw [readWord, if_pos (List.prefix_append word rest), List.drop_left]

theorem readValue_scalar {fuel : Nat} {value : Value} {rest : List Char}
    (scalar : match value with
      | .array _ => False
      | .object _ => False
      | _ => True) (follows : Follows rest) :
    readValue (fuel + 1) (value.print ++ rest) = some (value, rest) := by
  cases value with
  | null => exact readWord_append ['u', 'l', 'l'] .null rest
  | bool value =>
      cases value with
      | true => exact readWord_append ['r', 'u', 'e'] (.bool true) rest
      | false => exact readWord_append ['a', 'l', 's', 'e'] (.bool false) rest
  | int value =>
      have read := readInt_print value follows
      obtain ⟨char, tail, text, kind⟩ := printInt_cons value
      have other : char ≠ '"' ∧ char ≠ '[' ∧ char ≠ '\x7b' ∧ char ≠ 'n' ∧ char ≠ 't' ∧
        char ≠ 'f' := by
        refine ⟨?_, ?_, ?_, ?_, ?_, ?_⟩ <;> rintro rfl <;> rcases kind with sign | digit <;>
          first | cases sign | cases digit
      rw [text, List.cons_append] at read
      rw [Value.print, text, List.cons_append, readValue]
      rw [if_neg other.1, if_neg other.2.1, if_neg other.2.2.1, if_neg other.2.2.2.1,
        if_neg other.2.2.2.2.1, if_neg other.2.2.2.2.2, read]
      rfl
  | string text =>
      rw [Value.print, printString_append, readValue, if_pos rfl, readString_print]
      rfl
  | array items => cases scalar
  | object members => cases scalar

theorem length_print_pos (value : Value) : 0 < value.print.length := by
  obtain ⟨char, tail, text, -⟩ := print_cons value
  rw [text, List.length_cons]
  exact Nat.succ_pos _

theorem readValue_array {fuel : Nat} {input middle rest : List Char} {item : Value}
    {items : List Value} (solid : skipSpace input = input) (notEnd : input.head? ≠ some ']')
    (first : readValue fuel input = some (item, middle))
    (others : readItems fuel middle = some (items, rest)) :
    readValue (fuel + 1) ('[' :: input) = some (.array (item :: items), rest) := by
  rw [readValue, if_neg (by decide), if_pos rfl, solid]
  split
  · exact absurd rfl notEnd
  · rw [first, Option.bind_eq_bind, Option.bind_some]
    dsimp only
    rw [others]
    rfl

theorem readValue_object {fuel : Nat} {input middle rest : List Char} {member : String × Value}
    {members : List (String × Value)} (solid : skipSpace input = input)
    (notEnd : input.head? ≠ some '\x7d')
    (first : readMember fuel input = some (member, middle))
    (others : readMembers fuel middle = some (members, rest)) :
    readValue (fuel + 1) ('\x7b' :: input) =
      some (.object (dictionary (member :: members)), rest) := by
  rw [readValue, if_neg (by decide), if_neg (by decide), if_pos rfl, solid]
  split
  · exact absurd rfl notEnd
  · rw [first, Option.bind_eq_bind, Option.bind_some]
    dsimp only
    rw [others]
    rfl

theorem readItems_cons {fuel : Nat} {input middle rest : List Char} {item : Value}
    {items : List Value} (solid : skipSpace input = input)
    (first : readValue fuel input = some (item, middle))
    (others : readItems fuel middle = some (items, rest)) :
    readItems (fuel + 1) (',' :: ' ' :: input) = some (item :: items, rest) := by
  have spaces : skipSpace (' ' :: input) = input := solid
  rw [readItems, skipSpace_cons rfl]
  change (readValue fuel (skipSpace (' ' :: input))).bind _ = _
  rw [spaces, first, Option.bind_some]
  dsimp only
  rw [others]
  rfl

theorem readMembers_cons {fuel : Nat} {input middle rest : List Char} {member : String × Value}
    {members : List (String × Value)} (solid : skipSpace input = input)
    (first : readMember fuel input = some (member, middle))
    (others : readMembers fuel middle = some (members, rest)) :
    readMembers (fuel + 1) (',' :: ' ' :: input) = some (member :: members, rest) := by
  have spaces : skipSpace (' ' :: input) = input := solid
  rw [readMembers, skipSpace_cons rfl]
  change (readMember fuel (skipSpace (' ' :: input))).bind _ = _
  rw [spaces, first, Option.bind_some]
  dsimp only
  rw [others]
  rfl

theorem readMember_print {fuel : Nat} {input rest : List Char} {key : String} {value : Value}
    (solid : skipSpace input = input) (read : readValue fuel input = some (value, rest)) :
    readMember (fuel + 1) (printString key ++ ([':', ' '] ++ input)) =
      some ((key, value), rest) := by
  have spaces : skipSpace (' ' :: input) = input := solid
  rw [printString_append, readMember, readString_print, Option.bind_eq_bind, Option.bind_some]
  dsimp only [List.cons_append, List.nil_append]
  rw [skipSpace_cons rfl]
  change (readValue fuel (skipSpace (' ' :: input))).bind _ = _
  rw [spaces, read]
  rfl

/-- **Reading back.** Each text takes no more fuel than it is long. -/
theorem readsBack (fuel : Nat) : ReadsBack fuel := by
  induction fuel with
  | zero =>
      refine ⟨fun value _ short => ?_, fun items _ short => ?_, fun _ _ _ short => ?_,
        fun members _ short => ?_⟩
      · exact absurd (length_print_pos value) (Nat.not_lt.mpr short)
      · cases items <;> rw [printItems] at short <;> simp at short
      · exact absurd short (Nat.not_lt_zero _)
      · cases members <;> rw [printMembers] at short <;> simp at short
  | succ fuel ih =>
      refine ⟨fun value rest short distinct follows => ?_, fun items rest short distinct => ?_,
        fun key value rest short distinct follows => ?_, fun members rest short distinct => ?_⟩
      · cases value with
        | array items =>
            cases items with
            | nil => rfl
            | cons item items =>
                simp only [Value.print, List.length_append, List.length_cons] at short
                rw [Value.distinct, itemsDistinct, Bool.and_eq_true] at distinct
                simp only [Value.print, List.cons_append, List.append_assoc]
                refine readValue_array (skipSpace_print item _) ?_
                  (ih.value item (printItems items ++ rest) (by omega) distinct.1
                    (follows_printItems items rest))
                  (ih.items items rest (by omega) distinct.2)
                obtain ⟨char, tail, text, -, notEnd⟩ := print_cons item
                rw [text, List.cons_append, List.head?_cons, ne_eq, Option.some.injEq]
                exact notEnd
        | object members =>
            cases members with
            | nil => rfl
            | cons member members =>
                obtain ⟨key, value⟩ := member
                simp only [Value.print, List.length_append, List.length_cons] at short
                rw [Value.distinct, membersDistinct, Bool.and_eq_true, Bool.and_eq_true,
                  decide_eq_true_eq]
                  at distinct
                have text : (Value.object ((key, value) :: members)).print ++ rest =
                    '\x7b' :: (printString key ++ ([':', ' '] ++ (value.print ++
                      (printMembers members ++ rest)))) := by
                  simp only [Value.print, List.cons_append, List.append_assoc]
                rw [text, readValue_object (skipSpace_printString key _) ?_
                  (ih.member key value (printMembers members ++ rest) (by omega) distinct.2.1
                    (follows_printMembers members rest))
                  (ih.members members rest (by omega) distinct.2.2),
                  dictionary_of_nodup distinct.1]
                rw [printString_append, List.head?_cons, ne_eq, Option.some.injEq]
                decide
        | _ => exact readValue_scalar trivial follows
      · cases items with
        | nil => rfl
        | cons item items =>
            simp only [printItems, List.length_append, List.length_cons, List.length_nil] at short
            rw [itemsDistinct, Bool.and_eq_true] at distinct
            simp only [printItems, List.cons_append, List.append_assoc, List.nil_append]
            exact readItems_cons (skipSpace_print item _)
              (ih.value item _ (by omega) distinct.1 (follows_printItems items rest))
              (ih.items items rest (by omega) distinct.2)
      · exact readMember_print (skipSpace_print value rest)
          (ih.value value rest (by omega) distinct follows)
      · cases members with
        | nil => rfl
        | cons member members =>
            obtain ⟨key, value⟩ := member
            simp only [printMembers, List.length_append, List.length_cons, List.length_nil] at short
            rw [membersDistinct, Bool.and_eq_true] at distinct
            have text : printMembers ((key, value) :: members) ++ rest =
                ',' :: ' ' :: (printString key ++ ([':', ' '] ++ (value.print ++
                  (printMembers members ++ rest)))) := by
              simp only [printMembers, List.cons_append, List.append_assoc, List.nil_append]
            rw [text]
            exact readMembers_cons (skipSpace_printString key _)
              (ih.member key value (printMembers members ++ rest) (by omega) distinct.1
                (follows_printMembers members rest))
              (ih.members members rest (by omega) distinct.2)

/-- **What has been printed is read back.** -/
theorem loads_dumps {value : Value} (distinct : value.distinct = true) :
    loads (dumps value) = some value := by
  have long : value.print.length ≤ (dumps value).length + 1 := by
    rw [dumps, String.length_ofList]
    exact Nat.le_succ _
  have read := (readsBack _).value value [] long distinct nofun
  have start := skipSpace_print value []
  rw [List.append_nil] at read start
  have text : (dumps value).toList = value.print := String.toList_ofList
  rw [loads, text, start, read]
  rfl

end Formats.Json
