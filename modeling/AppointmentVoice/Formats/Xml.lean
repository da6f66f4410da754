import Mathlib

/-!
# XML documents

Printing of elements, attributes and text with the markup characters escaped, as
`html.escape` does it, and reading as XML 1.0 asks for it: the characters of a document, line
ends, the declaration, elements and their attributes, character data, character references
and the predefined entities.  Names are ASCII.  A document with a comment, a processing
instruction, a CDATA section or a document type is not read.

What a printed document is read as is said by `read_document`: a reader sees the line ends
and the blanks of attributes changed, and refuses a character that XML does not have.
-/

set_option autoImplicit false

namespace Formats.Xml

/-- A name and its value. -/
abbrev Attribute : Type := List Char × List Char

/-- A part of a document.  An empty element is written with one tag. -/
inductive Node where
  | text (text : List Char)
  | empty (name : List Char) (attributes : List Attribute)
  | element (name : List Char) (attributes : List Attribute) (children : List Node)

/-! ## Characters -/

/-- The characters that a document may have. -/
def isXmlChar (char : Char) : Bool :=
  char == '\t' || char == '\n' || char == '\r' || (32 ≤ char.toNat && char.toNat ≤ 0xfffd) ||
    0x10000 ≤ char.toNat

/-- The white space of XML. -/
def isSpace (char : Char) : Bool := char == ' ' || char == '\t' || char == '\n' || char == '\r'

/-- The characters that a name begins with, within ASCII. -/
def isNameStart (char : Char) : Bool := char.isAlpha || char == '_' || char == ':'

/-- The characters of a name, within ASCII. -/
def isNameChar (char : Char) : Bool :=
  isNameStart char || char.isDigit || char == '-' || char == '.'

/-- A name. -/
def isName : List Char → Bool
  | [] => false
  | first :: rest => isNameStart first && rest.all isNameChar

/-! ## Printing -/

/-- A character of `html.escape`. -/
def escapeChar (char : Char) : List Char :=
  if char = '&' then ['&', 'a', 'm', 'p', ';']
  else if char = '<' then ['&', 'l', 't', ';']
  else if char = '>' then ['&', 'g', 't', ';']
  else if char = '"' then ['&', 'q', 'u', 'o', 't', ';']
  else if char = '\x27' then ['&', '#', 'x', '2', '7', ';']
  else [char]

/-- `html.escape`. -/
def escape (text : List Char) : List Char := text.flatMap escapeChar

/-- A blank, the name, and the value between quotation marks. -/
def printAttribute (pair : Attribute) : List Char :=
  ' ' :: pair.1 ++ '=' :: '"' :: escape pair.2 ++ ['"']

/-- The attributes, one after the other. -/
def printAttributes (attributes : List Attribute) : List Char := attributes.flatMap printAttribute

mutual

/-- The text of a node. -/
def Node.print : Node → List Char
  | .text text => escape text
  | .empty name attributes => '<' :: name ++ printAttributes attributes ++ ['/', '>']
  | .element name attributes children =>
      '<' :: name ++ printAttributes attributes ++ '>' :: printNodes children ++
        '<' :: '/' :: name ++ ['>']

/-- The text of some nodes. -/
def printNodes : List Node → List Char
  | [] => []
  | node :: nodes => node.print ++ printNodes nodes

end

/-- The declaration that documents begin with. -/
def declaration : List Char := "<?xml version=\"1.0\" encoding=\"UTF-8\"?>".toList

/-! ## Reading -/

/-- Every line end becomes a line feed. -/
def normalizeLines : List Char → List Char
  | [] => []
  | '\r' :: '\n' :: rest => '\n' :: normalizeLines rest
  | '\r' :: rest => '\n' :: normalizeLines rest
  | char :: rest => char :: normalizeLines rest

/-- The input behind its first white space. -/
def skipSpace (input : List Char) : List Char := input.dropWhile isSpace

/-- The name at the beginning of the input. -/
def readName (input : List Char) : Option (List Char × List Char) :=
  let name := input.takeWhile isNameChar
  if isName name then some (name, input.dropWhile isNameChar) else none

/-- The value of a hexadecimal digit. -/
def hexValue (char : Char) : Option Nat :=
  if char.isDigit then some (char.toNat - 48)
  else if 97 ≤ char.toNat ∧ char.toNat ≤ 102 then some (char.toNat - 87)
  else if 65 ≤ char.toNat ∧ char.toNat ≤ 70 then some (char.toNat - 55)
  else none

/-- The value of a decimal digit. -/
def decimalValue (char : Char) : Option Nat :=
  if char.isDigit then some (char.toNat - 48) else none

/-- The character of a character reference. -/
def numbered (base : Nat) (value : Char → Option Nat) (digits : List Char) : Option Char := do
  if digits = [] then none
  let code ← digits.foldlM (fun code digit => (value digit).map (code * base + ·)) 0
  if code.isValidChar ∧ isXmlChar (Char.ofNat code) then some (Char.ofNat code) else none

/-- What stands between `&` and `;`. -/
def reference (name : List Char) : Option Char :=
  if name = ['a', 'm', 'p'] then some '&'
  else if name = ['l', 't'] then some '<'
  else if name = ['g', 't'] then some '>'
  else if name = ['q', 'u', 'o', 't'] then some '"'
  else if name = ['a', 'p', 'o', 's'] then some '\x27'
  else
    match name with
    | '#' :: 'x' :: digits => numbered 16 hexValue digits
    | '#' :: digits => numbered 10 decimalValue digits
    | _ => none

/-- Character data with its references replaced.  The first argument is what has been read of a
reference. -/
def decode : Option (List Char) → List Char → Option (List Char)
  | none, [] => some []
  | some _, [] => none
  | none, char :: rest =>
      if char = '&' then decode (some []) rest else (decode none rest).map (char :: ·)
  | some name, char :: rest =>
      if char = ';' then do
        let found ← reference name
        (decode none rest).map (found :: ·)
      else decode (some (name ++ [char])) rest

/-- Character data up to the next tag. -/
def readText (input : List Char) : Option (List Char × List Char) :=
  let raw := input.takeWhile (· != '<')
  if [']', ']', '>'] <:+: raw then none
  else (decode none raw).map fun text => (text, input.dropWhile (· != '<'))

/-- A blank of an attribute becomes a space. -/
def blank (char : Char) : Char := if isSpace char then ' ' else char

/-- The rest of a value after its first quote. -/
def readQuoted (quote : Char) (input : List Char) : Option (List Char × List Char) :=
  let raw := input.takeWhile (· != quote)
  let after := input.dropWhile (· != quote)
  if after.isEmpty || raw.contains '<' then none
  else (decode none (raw.map blank)).map fun value => (value, after.tail)

/-- A name, an equals sign and a value in quotes. -/
def readAttribute (input : List Char) : Option (Attribute × List Char) := do
  let (name, rest) ← readName input
  match skipSpace rest with
  | '=' :: rest =>
      match skipSpace rest with
      | '"' :: rest => (readQuoted '"' rest).map fun read => ((name, read.1), read.2)
      | '\x27' :: rest => (readQuoted '\x27' rest).map fun read => ((name, read.1), read.2)
      | _ => none
  | _ => none

/-- The attributes of a tag, and the space after them. -/
def readAttributes : Nat → List Char → Option (List Attribute × List Char)
  | 0, _ => none
  | fuel + 1, input =>
      let next := skipSpace input
      if next.length < input.length ∧ next.head?.any isNameStart then do
        let (pair, rest) ← readAttribute next
        let (attributes, rest) ← readAttributes fuel rest
        return (pair :: attributes, rest)
      else some ([], next)

/-- The closing tag of an element. -/
def readClosing (name : List Char) : List Char → Option (List Char)
  | '<' :: '/' :: rest => do
      let (closing, rest) ← readName rest
      match skipSpace rest with
      | '>' :: rest => if closing = name then some rest else none
      | _ => none
  | _ => none

mutual

/-- An element at the beginning of the input; the fuel bounds how deep it nests. -/
def readElement : Nat → List Char → Option (Node × List Char)
  | 0, _ => none
  | _ + 1, [] => none
  | fuel + 1, char :: input =>
      if char = '<' then do
        let (name, rest) ← readName input
        let (attributes, rest) ← readAttributes (rest.length + 1) rest
        if (attributes.map Prod.fst).Nodup then
          match rest with
          | '/' :: '>' :: rest => some (.empty name attributes, rest)
          | '>' :: rest => do
              let (children, rest) ← readNodes fuel rest
              let rest ← readClosing name rest
              return (.element name attributes children, rest)
          | _ => none
        else none
      else none

/-- The parts of an element, up to its closing tag. -/
def readNodes : Nat → List Char → Option (List Node × List Char)
  | 0, _ => none
  | fuel + 1, input =>
      match input with
      | [] => some ([], [])
      | '<' :: '/' :: rest => some ([], '<' :: '/' :: rest)
      | '<' :: rest => do
          let (node, rest) ← readElement fuel ('<' :: rest)
          let (nodes, rest) ← readNodes fuel rest
          return (node :: nodes, rest)
      | input => do
          let (text, rest) ← readText input
          let (nodes, rest) ← readNodes fuel rest
          return (.text text :: nodes, rest)

end

/-- The declaration, if there is one. -/
def readDeclaration (input : List Char) : Option (List Char) :=
  if ['<', '?', 'x', 'm', 'l'] <+: input then do
    let (attributes, rest) ← readAttributes input.length (input.drop 5)
    match rest with
    | '?' :: '>' :: rest =>
        if attributes.head? = some ("version".toList, "1.0".toList) then some rest else none
    | _ => none
  else some input

/-- A document is read as its root element. -/
def read (document : List Char) : Option Node :=
  if document.all isXmlChar then do
    let rest ← readDeclaration (normalizeLines document)
    let input := skipSpace rest
    let (root, rest) ← readElement (input.length + 1) input
    if skipSpace rest = [] then some root else none
  else none

/-! ## Trees -/

/-- The node is a text. -/
def Node.isText : Node → Bool
  | .text _ => true
  | _ => false

/-- Attributes have names, and different ones. -/
def attributesSound (attributes : List Attribute) : Bool :=
  attributes.all (fun pair => isName pair.1) && (attributes.map Prod.fst).Nodup

mutual

/-- Names are names, and text is neither empty nor beside other text. -/
def Node.sound : Node → Bool
  | .text text => !text.isEmpty
  | .empty name attributes => isName name && attributesSound attributes
  | .element name attributes children =>
      isName name && attributesSound attributes && nodesSound children

/-- All nodes are sound, and no two texts are next to each other. -/
def nodesSound : List Node → Bool
  | [] => true
  | node :: nodes => node.sound && nodesSound nodes && !(node.isText && nodes.head?.any Node.isText)

end

/-- The attributes with changed values. -/
def mapValues (change : List Char → List Char) (attributes : List Attribute) : List Attribute :=
  attributes.map fun pair => (pair.1, change pair.2)

mutual

/-- The same tree with other texts and values of attributes. -/
def Node.mapTexts (text value : List Char → List Char) : Node → Node
  | .text data => .text (text data)
  | .empty name attributes => .empty name (mapValues value attributes)
  | .element name attributes children =>
      .element name (mapValues value attributes) (mapTextsOf text value children)

/-- The nodes with changed texts and values. -/
def mapTextsOf (text value : List Char → List Char) : List Node → List Node
  | [] => []
  | node :: nodes => node.mapTexts text value :: mapTextsOf text value nodes

end

mutual

/-- All texts and values of attributes consist of characters of XML. -/
def Node.legal : Node → Bool
  | .text text => text.all isXmlChar
  | .empty _ attributes => attributes.all fun pair => pair.2.all isXmlChar
  | .element _ attributes children =>
      (attributes.all fun pair => pair.2.all isXmlChar) && nodesLegal children

/-- All nodes are legal. -/
def nodesLegal : List Node → Bool
  | [] => true
  | node :: nodes => node.legal && nodesLegal nodes

end

/-- What a reader sees: line feeds for line ends, and spaces for the blanks of attributes. -/
def Node.received (node : Node) : Node :=
  node.mapTexts normalizeLines fun value => (normalizeLines value).map blank

/-! ## Line ends -/

theorem normalizeLines_cons {char : Char} (other : char ≠ '\r') (rest : List Char) :
    normalizeLines (char :: rest) = char :: normalizeLines rest := by
  rw [normalizeLines]
  · exact fun _ same _ => other same
  · exact other

theorem normalizeLines_return {rest : List Char} (alone : rest.head? ≠ some '\n') :
    normalizeLines ('\r' :: rest) = '\n' :: normalizeLines rest := by
  rw [normalizeLines]
  rintro more rfl
  exact alone rfl

theorem head_ne {char : Char} (other : char ≠ '\n') (rest : List Char) :
    (char :: rest).head? ≠ some '\n' :=
  fun same => other (Option.some.inj same)

theorem head_of_unpaired {text : List Char} (alone : ∀ rest, text = '\n' :: rest → False) :
    text.head? ≠ some '\n' := by
  intro paired
  cases text with
  | nil => cases paired
  | cons char more =>
      cases paired
      exact alone more rfl

theorem normalizeLines_append {text : List Char} (plain : '\r' ∉ text) (rest : List Char) :
    normalizeLines (text ++ rest) = text ++ normalizeLines rest := by
  induction text with
  | nil => rfl
  | cons char text ih =>
      rw [List.mem_cons, not_or] at plain
      rw [List.cons_append, normalizeLines_cons (Ne.symm plain.1), ih plain.2]
      rfl

theorem normalizeLines_ne_nil {text : List Char} (some : text ≠ []) : normalizeLines text ≠ [] := by
  cases text with
  | nil => exact absurd rfl some
  | cons char rest =>
      unfold normalizeLines
      split <;> simp_all

/-! ## Escaped text -/

@[simp] theorem escape_nil : escape [] = [] := rfl

theorem escape_cons (char : Char) (text : List Char) :
    escape (char :: text) = escapeChar char ++ escape text := List.flatMap_cons

/-- What an escaped character consists of. -/
theorem escapeChar_cases (char : Char) :
    escapeChar char = [char] ∧ char ≠ '&' ∧ char ≠ '<' ∧ char ≠ '>' ∧ char ≠ '"' ∨
      isXmlChar char = true ∧ isSpace char = false ∧ ∃ rest, escapeChar char = '&' :: rest ∧
        rest.all (fun other => isXmlChar other && !isSpace other && other != '<' && other != '>' &&
          other != '"') = true := by
  unfold escapeChar
  split_ifs with ampersand less greater quote apostrophe
  · subst ampersand
    exact .inr ⟨by decide, by decide, _, rfl, by decide⟩
  · subst less
    exact .inr ⟨by decide, by decide, _, rfl, by decide⟩
  · subst greater
    exact .inr ⟨by decide, by decide, _, rfl, by decide⟩
  · subst quote
    exact .inr ⟨by decide, by decide, _, rfl, by decide⟩
  · subst apostrophe
    exact .inr ⟨by decide, by decide, _, rfl, by decide⟩
  · exact .inl ⟨rfl, ampersand, less, greater, quote⟩

/-- Escaped text has no markup. -/
theorem not_markup {text : List Char} {char : Char} (member : char ∈ escape text) :
    char ≠ '<' ∧ char ≠ '>' ∧ char ≠ '"' := by
  obtain ⟨source, -, inside⟩ := List.mem_flatMap.mp member
  rcases escapeChar_cases source with ⟨plain, -, less, greater, quote⟩ | ⟨-, -, rest, escaped, safe⟩
  · rw [plain, List.mem_singleton] at inside
    subst inside
    exact ⟨less, greater, quote⟩
  · rw [escaped] at inside
    rcases List.mem_cons.mp inside with rfl | later
    · decide
    · have each := List.all_eq_true.mp safe char later
      simp only [Bool.and_eq_true, bne_iff_ne, ne_eq] at each
      exact ⟨each.1.1.2, each.1.2, each.2⟩

/-- Escaping neither adds nor removes a character that XML does not have. -/
theorem all_escape (text : List Char) : (escape text).all isXmlChar = text.all isXmlChar := by
  induction text with
  | nil => rfl
  | cons char text ih =>
      rw [escape_cons, List.all_append, ih, List.all_cons]
      rcases escapeChar_cases char with ⟨plain, -⟩ | ⟨legal, -, rest, escaped, safe⟩
      · simp [plain]
      · have all : rest.all isXmlChar = true := by
          rw [List.all_eq_true] at safe ⊢
          intro other member
          have each := safe other member
          simp only [Bool.and_eq_true] at each
          exact each.1.1.1.1
        rw [escaped, List.all_cons, all, legal]
        rfl

theorem escape_ne_nil {text : List Char} (some : text ≠ []) : escape text ≠ [] := by
  cases text with
  | nil => exact absurd rfl some
  | cons char rest =>
      rw [escape_cons]
      rcases escapeChar_cases char with ⟨plain, -⟩ | ⟨-, -, rest, escaped, -⟩
      · simp [plain]
      · simp [escaped]

/-- Text that is not empty has no line feed at its head that was not there before. -/
theorem head_escape {text rest : List Char} (alone : text.head? ≠ some '\n')
    (follows : rest.head? ≠ some '\n') : (escape text ++ rest).head? ≠ some '\n' := by
  cases text with
  | nil => exact follows
  | cons char text =>
      rw [escape_cons]
      rcases escapeChar_cases char with ⟨plain, -⟩ | ⟨-, -, tail, escaped, -⟩
      · rw [plain]
        exact alone
      · rw [escaped, List.cons_append, List.cons_append, List.head?_cons]
        decide

theorem normalizeLines_escape (text : List Char) {rest : List Char}
    (follows : rest.head? ≠ some '\n') :
    normalizeLines (escape text ++ rest) = escape (normalizeLines text) ++ normalizeLines rest := by
  induction text using normalizeLines.induct with
  | case1 => rfl
  | case2 text ih =>
      have both : escape ('\r' :: '\n' :: text) ++ rest = '\r' :: '\n' :: (escape text ++ rest) :=
        rfl
      rw [both, normalizeLines, ih, normalizeLines]
      rfl
  | case3 text alone ih =>
      have first : escape ('\r' :: text) ++ rest = '\r' :: (escape text ++ rest) := rfl
      have notPaired := head_of_unpaired alone
      rw [first, normalizeLines_return (head_escape notPaired follows), ih,
        normalizeLines_return notPaired]
      rfl
  | case4 char text notPaired other ih =>
      have different : char ≠ '\r' := fun same => other same
      have plain : '\r' ∉ escapeChar char := by
        rcases escapeChar_cases char with ⟨plain, -⟩ | ⟨-, -, tail, escaped, safe⟩
        · rw [plain, List.mem_singleton]
          exact Ne.symm different
        · rw [escaped, List.mem_cons, not_or]
          refine ⟨by decide, fun member => ?_⟩
          have each := List.all_eq_true.mp safe _ member
          revert each
          decide
      rw [escape_cons, List.append_assoc, normalizeLines_append plain, ih,
        normalizeLines_cons different, escape_cons, List.append_assoc]

theorem decode_escapeChar (char : Char) (rest : List Char) :
    decode none (escapeChar char ++ rest) = (decode none rest).map (char :: ·) := by
  unfold escapeChar
  split_ifs with ampersand less greater quote apostrophe
  · subst ampersand
    rfl
  · subst less
    rfl
  · subst greater
    rfl
  · subst quote
    rfl
  · subst apostrophe
    rfl
  · rw [List.singleton_append, decode, if_neg ampersand]

theorem decode_escape (text : List Char) : decode none (escape text) = some text := by
  induction text with
  | nil => rfl
  | cons char text ih =>
      rw [escape_cons, decode_escapeChar, ih]
      rfl

theorem map_blank_escapeChar (char : Char) :
    (escapeChar char).map blank = escapeChar (blank char) := by
  rcases escapeChar_cases char with ⟨plain, -⟩ | ⟨-, solid, rest, escaped, safe⟩
  · rw [plain]
    by_cases space : isSpace char = true
    · rw [List.map_singleton, blank, if_pos space]
      rfl
    · rw [List.map_singleton, blank, if_neg space, plain]
  · have same : rest.map blank = rest := by
      refine (List.map_congr_left fun other member => ?_).trans (List.map_id rest)
      have each := List.all_eq_true.mp safe other member
      simp only [Bool.and_eq_true, Bool.not_eq_true'] at each
      rw [blank, each.1.1.1.2, if_neg Bool.false_ne_true]
      rfl
    rw [escaped, blank, solid, if_neg Bool.false_ne_true, escaped, List.map_cons, same]
    rfl

theorem map_blank_escape (text : List Char) :
    (escape text).map blank = escape (text.map blank) := by
  induction text with
  | nil => rfl
  | cons char text ih =>
      rw [escape_cons, List.map_append, ih, List.map_cons, escape_cons, map_blank_escapeChar]

/-! ## Pieces are read back -/

theorem takeWhile_until (p : Char → Bool) {text rest : List Char}
    (inside : ∀ char ∈ text, p char = true)
    (ends : rest.head?.all fun char => !p char) :
    (text ++ rest).takeWhile p = text ∧ (text ++ rest).dropWhile p = rest := by
  rw [List.takeWhile_append_of_pos inside, List.dropWhile_append_of_pos inside]
  cases rest with
  | nil => simp
  | cons char rest =>
      rw [List.head?_cons, Option.all_some, Bool.not_eq_true'] at ends
      simp [ends]

theorem readText_escape {text rest : List Char} (ends : rest.head?.all (· == '<')) :
    readText (escape text ++ rest) = some (text, rest) := by
  have inside : ∀ char ∈ escape text, (char != '<') = true := by
    intro char member
    rw [bne_iff_ne]
    exact (not_markup member).1
  have outside : rest.head?.all fun char => !(char != '<') := by
    simp only [bne, Bool.not_not]
    exact ends
  have both := takeWhile_until _ inside outside
  have noEnd : ¬[']', ']', '>'] <:+: escape text := by
    intro inside
    have member : '>' ∈ escape text := inside.subset (by decide)
    exact (not_markup member).2.1 rfl
  rw [readText, both.1, both.2, if_neg noEnd, decode_escape]
  rfl

theorem nameChars_of_isName {name : List Char} (isNamed : isName name = true) :
    ∀ char ∈ name, isNameChar char = true := by
  cases name with
  | nil => cases isNamed
  | cons first rest =>
      rw [isName, Bool.and_eq_true] at isNamed
      intro char member
      rcases List.mem_cons.mp member with rfl | later
      · rw [isNameChar, isNamed.1]
        rfl
      · exact List.all_eq_true.mp isNamed.2 char later

theorem readName_append {name rest : List Char} (isNamed : isName name = true)
    (ends : rest.head?.all fun char => !isNameChar char) :
    readName (name ++ rest) = some (name, rest) := by
  have both := takeWhile_until _ (nameChars_of_isName isNamed) ends
  rw [readName, both.1, both.2, if_pos isNamed]

theorem skipSpace_of_solid {input : List Char} (solid : input.head?.all fun char => !isSpace char) :
    skipSpace input = input := by
  cases input with
  | nil => rfl
  | cons char rest =>
      rw [List.head?_cons, Option.all_some, Bool.not_eq_true'] at solid
      rw [skipSpace, List.dropWhile_cons_of_neg (by simp [solid])]

theorem solid_of_isNameChar {char : Char} (named : isNameChar char = true) :
    isSpace char = false := by
  by_contra space
  rw [Bool.not_eq_false, isSpace] at space
  simp only [Bool.or_eq_true, beq_iff_eq] at space
  rcases space with ((rfl | rfl) | rfl) | rfl <;> revert named <;> decide

/-- A name begins with a character that may begin a name, and that is no space. -/
theorem head_of_isName {name : List Char} (isNamed : isName name = true) (rest : List Char) :
    (name ++ rest).head?.any isNameStart = true ∧
      (name ++ rest).head?.all (fun char => !isSpace char) = true := by
  cases name with
  | nil => cases isNamed
  | cons first more =>
      have named := nameChars_of_isName isNamed first List.mem_cons_self
      rw [isName, Bool.and_eq_true] at isNamed
      exact ⟨isNamed.1, by simp [solid_of_isNameChar named]⟩

/-- What a value is read as. -/
def blanked (attributes : List Attribute) : List Attribute := mapValues (List.map blank) attributes

theorem readQuoted_escape (value rest : List Char) :
    readQuoted '"' (escape value ++ '"' :: rest) = some (value.map blank, rest) := by
  have inside : ∀ char ∈ escape value, (char != '"') = true := by
    intro char member
    rw [bne_iff_ne]
    exact (not_markup member).2.2
  have outside : ('"' :: rest).head?.all (fun char => !(char != '"')) = true := rfl
  have both := takeWhile_until _ inside outside
  have noLess : (escape value).contains '<' = false := by
    rw [List.contains_eq_mem, decide_eq_false_iff_not]
    exact fun member => (not_markup member).1 rfl
  rw [readQuoted, both.1, both.2, noLess]
  have going : ¬(('"' :: rest).isEmpty || false) = true := Bool.false_ne_true
  rw [if_neg going, map_blank_escape, decode_escape]
  rfl

theorem readAttribute_print {name : List Char} (isNamed : isName name = true)
    (value rest : List Char) :
    readAttribute (name ++ '=' :: '"' :: (escape value ++ '"' :: rest)) =
      some ((name, value.map blank), rest) := by
  rw [readAttribute, readName_append isNamed rfl, Option.bind_eq_bind, Option.bind_some]
  change (readQuoted '"' (escape value ++ '"' :: rest)).map _ = _
  rw [readQuoted_escape]
  rfl

theorem readAttributes_print {attributes : List Attribute} {fuel : Nat} {rest : List Char}
    (sound : ∀ pair ∈ attributes, isName pair.1 = true) (enough : attributes.length < fuel)
    (solid : rest.head?.all fun char => !isSpace char) :
    readAttributes fuel (printAttributes attributes ++ rest) = some (blanked attributes, rest) := by
  induction attributes generalizing fuel with
  | nil =>
      obtain ⟨fuel, rfl⟩ := Nat.exists_eq_succ_of_ne_zero (Nat.ne_of_gt enough)
      have ended : ¬((skipSpace rest).length < rest.length ∧
          (skipSpace rest).head?.any isNameStart = true) := by
        rw [skipSpace_of_solid solid]
        exact fun both => absurd both.1 (lt_irrefl _)
      have nothing : printAttributes [] ++ rest = rest := rfl
      rw [nothing, readAttributes]
      dsimp only
      rw [if_neg ended, skipSpace_of_solid solid]
      rfl
  | cons pair attributes ih =>
      obtain ⟨fuel, rfl⟩ := Nat.exists_eq_succ_of_ne_zero (Nat.ne_zero_of_lt enough)
      obtain ⟨name, value⟩ := pair
      have isNamed : isName name = true := sound _ List.mem_cons_self
      let later := printAttributes attributes ++ rest
      have printed : printAttributes ((name, value) :: attributes) ++ rest =
          ' ' :: (name ++ '=' :: '"' :: (escape value ++ '"' :: later)) := by
        simp [printAttributes, printAttribute, later]
      obtain ⟨starts, solidName⟩ := head_of_isName isNamed
        ('=' :: '"' :: (escape value ++ '"' :: later))
      have next : skipSpace (' ' :: (name ++ '=' :: '"' :: (escape value ++ '"' :: later))) =
          name ++ '=' :: '"' :: (escape value ++ '"' :: later) := skipSpace_of_solid solidName
      rw [printed, readAttributes]
      dsimp only
      rw [next, if_pos ⟨Nat.lt_succ_self _, starts⟩, readAttribute_print isNamed,
        Option.bind_eq_bind, Option.bind_some]
      dsimp only
      rw [ih (fun other member => sound other (List.mem_cons_of_mem _ member))
        (Nat.lt_of_succ_lt_succ enough)]
      rfl

/-! ## Trees are read back -/

/-- The same tree with spaces for the blanks of attributes. -/
def Node.blanked (node : Node) : Node := node.mapTexts id (List.map blank)

/-- The nodes with the white space of their values made blanks. -/
def nodesBlanked (nodes : List Node) : List Node := mapTextsOf id (List.map blank) nodes

theorem names_of_sound {attributes : List Attribute} (sound : attributesSound attributes = true) :
    (∀ pair ∈ attributes, isName pair.1 = true) ∧ (attributes.map Prod.fst).Nodup := by
  rw [attributesSound, Bool.and_eq_true, List.all_eq_true, decide_eq_true_eq] at sound
  exact sound

theorem map_fst_mapValues (change : List Char → List Char) (attributes : List Attribute) :
    (mapValues change attributes).map Prod.fst = attributes.map Prod.fst := by
  rw [mapValues, List.map_map]
  rfl

theorem length_le_printAttributes (attributes : List Attribute) :
    attributes.length ≤ (printAttributes attributes).length := by
  induction attributes with
  | nil => exact Nat.le_refl _
  | cons pair attributes ih =>
      have split : printAttributes (pair :: attributes) =
          printAttribute pair ++ printAttributes attributes := rfl
      rw [split, List.length_append, List.length_cons, printAttribute]
      simp only [List.length_append, List.length_cons]
      omega

/-- The name and the attributes of a tag. -/
theorem read_tag {name rest : List Char} {attributes : List Attribute}
    (isNamed : isName name = true) (sound : attributesSound attributes = true)
    (ends : rest.head?.all fun char => !isSpace char && !isNameChar char) :
    readName (name ++ (printAttributes attributes ++ rest)) =
        some (name, printAttributes attributes ++ rest) ∧
      readAttributes ((printAttributes attributes ++ rest).length + 1)
        (printAttributes attributes ++ rest) = some (blanked attributes, rest) := by
  have solid : rest.head?.all (fun char => !isSpace char) = true ∧
      rest.head?.all (fun char => !isNameChar char) = true := by
    cases rest with
    | nil => exact ⟨rfl, rfl⟩
    | cons char rest =>
        simp only [List.head?_cons, Option.all_some, Bool.and_eq_true] at ends ⊢
        exact ends
  refine ⟨readName_append isNamed ?_, readAttributes_print (names_of_sound sound).1 ?_ solid.1⟩
  · cases attributes with
    | nil => exact solid.2
    | cons pair attributes => rfl
  · rw [List.length_append]
    have enough := length_le_printAttributes attributes
    omega

theorem readElement_empty {fuel : Nat} {name : List Char} {attributes : List Attribute}
    (isNamed : isName name = true) (sound : attributesSound attributes = true)
    (rest : List Char) :
    readElement (fuel + 1) ((Node.empty name attributes).print ++ rest) =
      some (.empty name (blanked attributes), rest) := by
  have printed : (Node.empty name attributes).print ++ rest =
      '<' :: (name ++ (printAttributes attributes ++ '/' :: '>' :: rest)) := by
    simp [Node.print]
  obtain ⟨named, listed⟩ := read_tag isNamed sound (show ('/' :: '>' :: rest).head?.all _ = true
    from rfl)
  rw [printed, readElement, if_pos rfl, named]
  simp only [Option.bind_eq_bind, Option.bind_some, listed]
  rw [blanked, map_fst_mapValues, if_pos (names_of_sound sound).2]

theorem readElement_element {fuel : Nat} {name rest : List Char} {attributes : List Attribute}
    {children read : List Node} (isNamed : isName name = true)
    (sound : attributesSound attributes = true)
    (inner : readNodes fuel (printNodes children ++ '<' :: '/' :: (name ++ '>' :: rest)) =
      some (read, '<' :: '/' :: (name ++ '>' :: rest))) :
    readElement (fuel + 1) ((Node.element name attributes children).print ++ rest) =
      some (.element name (blanked attributes) read, rest) := by
  have printed : (Node.element name attributes children).print ++ rest =
      '<' :: (name ++ (printAttributes attributes ++
        '>' :: (printNodes children ++ '<' :: '/' :: (name ++ '>' :: rest)))) := by
    simp [Node.print]
  obtain ⟨named, listed⟩ := read_tag isNamed sound (show ('>' :: (printNodes children ++
    '<' :: '/' :: (name ++ '>' :: rest))).head?.all _ = true from rfl)
  have closing : readClosing name ('<' :: '/' :: (name ++ '>' :: rest)) = some rest := by
    rw [readClosing, readName_append isNamed rfl, Option.bind_eq_bind, Option.bind_some]
    dsimp only
    rw [skipSpace_of_solid rfl]
    exact if_pos rfl
  rw [printed, readElement, if_pos rfl, named]
  simp only [Option.bind_eq_bind, Option.bind_some, listed]
  rw [blanked, map_fst_mapValues, if_pos (names_of_sound sound).2, inner, Option.bind_some]
  dsimp only
  rw [closing]
  rfl

/-- What can come after the parts of an element. -/
def Closes (rest : List Char) : Prop := rest = [] ∨ ∃ more, rest = '<' :: '/' :: more

theorem readNodes_closes {fuel : Nat} {rest : List Char} (closes : Closes rest) :
    readNodes (fuel + 1) rest = some ([], rest) := by
  rcases closes with rfl | ⟨more, rfl⟩ <;> rfl

theorem readNodes_element {fuel : Nat} {char : Char} {input rest : List Char} {node : Node}
    (opens : isNameStart char = true)
    (read : readElement fuel ('<' :: char :: input) = some (node, rest)) :
    readNodes (fuel + 1) ('<' :: char :: input) =
      (readNodes fuel rest).map fun read => (node :: read.1, read.2) := by
  have other : char ≠ '/' := by
    rintro rfl
    cases opens
  rw [readNodes]
  · rw [read, Option.bind_eq_bind, Option.bind_some]
    dsimp only
    cases readNodes fuel rest <;> rfl
  · rintro more ⟨⟩
    exact other rfl

theorem readNodes_text {fuel : Nat} {text rest : List Char} (some : text ≠ [])
    (ends : rest.head?.all (· == '<')) :
    readNodes (fuel + 1) (escape text ++ rest) =
      (readNodes fuel rest).map fun read => (.text text :: read.1, read.2) := by
  obtain ⟨char, tail, escaped⟩ := List.exists_cons_of_ne_nil (escape_ne_nil some)
  have member : char ∈ escape text := by
    rw [escaped]
    exact List.mem_cons_self
  have plain : char ≠ '<' := (not_markup member).1
  have read : readText (escape text ++ rest) = _ := readText_escape ends
  rw [escaped] at read ⊢
  rw [List.cons_append] at read ⊢
  rw [readNodes]
  · rw [read, Option.bind_eq_bind, Option.bind_some]
    dsimp only
    cases readNodes fuel rest <;> rfl
  · rintro ⟨⟩
  · exact fun more same => plain (List.cons.inj same).1
  · exact fun more same => plain (List.cons.inj same).1

/-- A tag begins with a letter. -/
theorem print_tag {node : Node} (tag : node.isText = false) (sound : node.sound = true) :
    ∃ char rest, node.print = '<' :: char :: rest ∧ isNameStart char = true := by
  have named : ∀ name : List Char, isName name = true → ∃ char rest, name = char :: rest ∧
      isNameStart char = true := by
    intro name isNamed
    cases name with
    | nil => cases isNamed
    | cons char rest =>
        rw [isName, Bool.and_eq_true] at isNamed
        exact ⟨char, rest, rfl, isNamed.1⟩
  cases node with
  | text text => cases tag
  | empty name attributes =>
      rw [Node.sound, Bool.and_eq_true] at sound
      obtain ⟨char, rest, rfl, opens⟩ := named name sound.1
      exact ⟨char, _, rfl, opens⟩
  | element name attributes children =>
      rw [Node.sound, Bool.and_eq_true, Bool.and_eq_true] at sound
      obtain ⟨char, rest, rfl, opens⟩ := named name sound.1.1
      exact ⟨char, _, rfl, opens⟩

/-- What comes after text is a tag, or the end. -/
theorem head_after_text {nodes : List Node} {rest : List Char} (sound : nodesSound nodes = true)
    (apart : nodes.head?.any Node.isText = false) (closes : Closes rest) :
    (printNodes nodes ++ rest).head?.all (· == '<') = true := by
  cases nodes with
  | nil => rcases closes with rfl | ⟨more, rfl⟩ <;> rfl
  | cons node nodes =>
      rw [nodesSound, Bool.and_eq_true, Bool.and_eq_true] at sound
      obtain ⟨char, tail, printed, -⟩ := print_tag apart sound.1.1
      rw [printNodes, printed]
      rfl

/-- What is read of a text that is short enough. -/
structure ReadsBack (fuel : Nat) : Prop where
  node : ∀ (node : Node) (rest : List Char), node.isText = false → node.sound = true →
    node.print.length ≤ fuel → readElement fuel (node.print ++ rest) = some (node.blanked, rest)
  nodes : ∀ (nodes : List Node) (rest : List Char), nodesSound nodes = true → Closes rest →
    (printNodes nodes).length < fuel →
      readNodes fuel (printNodes nodes ++ rest) = some (nodesBlanked nodes, rest)

theorem readsBack (fuel : Nat) : ReadsBack fuel := by
  induction fuel with
  | zero =>
      refine ⟨fun node rest tag sound short => ?_, fun _ _ _ _ short => absurd short (by omega)⟩
      obtain ⟨char, tail, printed, -⟩ := print_tag tag sound
      rw [printed] at short
      cases short
  | succ fuel ih =>
      refine ⟨fun node rest tag sound short => ?_, fun nodes rest sound closes short => ?_⟩
      · cases node with
        | text text => cases tag
        | empty name attributes =>
            rw [Node.sound, Bool.and_eq_true] at sound
            exact readElement_empty sound.1 sound.2 rest
        | element name attributes children =>
            rw [Node.sound, Bool.and_eq_true, Bool.and_eq_true] at sound
            simp only [Node.print, List.length_append, List.length_cons] at short
            exact readElement_element sound.1.1 sound.1.2
              (ih.nodes children _ sound.2 (.inr ⟨_, rfl⟩) (by omega))
      · cases nodes with
        | nil => exact readNodes_closes closes
        | cons node nodes =>
            rw [nodesSound, Bool.and_eq_true, Bool.and_eq_true, Bool.not_eq_true'] at sound
            obtain ⟨⟨one, others⟩, apart⟩ := sound
            rw [printNodes, List.length_append] at short
            rw [printNodes, List.append_assoc]
            cases kind : node.isText with
            | true =>
                cases node with
                | text text =>
                    have some : text ≠ [] := by
                      rintro rfl
                      cases one
                    have long := List.length_pos_iff.mpr (escape_ne_nil some)
                    rw [Node.print] at short ⊢
                    rw [readNodes_text some, ih.nodes nodes rest others closes (by omega)]
                    · rfl
                    · exact head_after_text others apart closes
                | empty name attributes => cases kind
                | element name attributes children => cases kind
            | false =>
                obtain ⟨char, tail, printed, opens⟩ := print_tag kind one
                have read := ih.node node (printNodes nodes ++ rest) kind one (by omega)
                rw [printed] at short
                rw [printed, List.cons_append, List.cons_append] at read ⊢
                rw [readNodes_element opens read, ih.nodes nodes rest others closes (by
                  rw [List.length_cons] at short
                  omega)]
                rfl

/-! ## Changed trees -/

mutual

theorem Node.mapTexts_mapTexts (text value more other : List Char → List Char) : (node : Node) →
    (node.mapTexts text value).mapTexts more other = node.mapTexts (more ∘ text) (other ∘ value)
  | .text data => rfl
  | .empty name attributes => by simp [Node.mapTexts, mapValues]
  | .element name attributes children => by
      simp [Node.mapTexts, mapValues, mapTextsOf_mapTextsOf text value more other children]

theorem mapTextsOf_mapTextsOf (text value more other : List Char → List Char) :
    (nodes : List Node) → mapTextsOf more other (mapTextsOf text value nodes) =
      mapTextsOf (more ∘ text) (other ∘ value) nodes
  | [] => rfl
  | node :: nodes => by
      rw [mapTextsOf, mapTextsOf, mapTextsOf, Node.mapTexts_mapTexts text value more other node,
        mapTextsOf_mapTextsOf text value more other nodes]

end

theorem Node.isText_mapTexts (text value : List Char → List Char) (node : Node) :
    (node.mapTexts text value).isText = node.isText := by
  cases node <;> rfl

theorem attributesSound_mapValues (change : List Char → List Char) (attributes : List Attribute) :
    attributesSound (mapValues change attributes) = attributesSound attributes := by
  rw [attributesSound, attributesSound, map_fst_mapValues, mapValues, List.all_map]
  rfl

mutual

theorem Node.sound_mapTexts {text value : List Char → List Char}
    (empty : ∀ data, (text data).isEmpty = data.isEmpty) : (node : Node) →
    (node.mapTexts text value).sound = node.sound
  | .text data => by rw [Node.mapTexts, Node.sound, Node.sound, empty]
  | .empty name attributes => by
      rw [Node.mapTexts, Node.sound, Node.sound, attributesSound_mapValues]
  | .element name attributes children => by
      rw [Node.mapTexts, Node.sound, Node.sound, attributesSound_mapValues,
        nodesSound_mapTextsOf empty children]

theorem nodesSound_mapTextsOf {text value : List Char → List Char}
    (empty : ∀ data, (text data).isEmpty = data.isEmpty) : (nodes : List Node) →
    nodesSound (mapTextsOf text value nodes) = nodesSound nodes
  | [] => rfl
  | node :: nodes => by
      have next : (mapTextsOf text value nodes).head?.any Node.isText =
          nodes.head?.any Node.isText := by
        cases nodes with
        | nil => rfl
        | cons other nodes => exact other.isText_mapTexts text value
      rw [mapTextsOf, nodesSound, nodesSound, Node.sound_mapTexts empty node,
        nodesSound_mapTextsOf empty nodes, next, node.isText_mapTexts]

end

/-! ## Documents -/

/-- The same tree with line feeds for line ends. -/
def Node.lines (node : Node) : Node := node.mapTexts normalizeLines normalizeLines

theorem blanked_lines (node : Node) : node.lines.blanked = node.received :=
  node.mapTexts_mapTexts normalizeLines normalizeLines id (List.map blank)

theorem isEmpty_normalizeLines (text : List Char) :
    (normalizeLines text).isEmpty = text.isEmpty := by
  cases text with
  | nil => rfl
  | cons char rest =>
      have some := normalizeLines_ne_nil (List.cons_ne_nil char rest)
      rw [List.isEmpty_cons, List.isEmpty_eq_false_iff]
      exact some

theorem return_notMem_of_isName {name : List Char} (isNamed : isName name = true) :
    '\r' ∉ name := by
  intro member
  have solid := solid_of_isNameChar (nameChars_of_isName isNamed _ member)
  revert solid
  decide

theorem normalizeLines_printAttributes {attributes : List Attribute} {rest : List Char}
    (sound : ∀ pair ∈ attributes, isName pair.1 = true) :
    normalizeLines (printAttributes attributes ++ rest) =
      printAttributes (mapValues normalizeLines attributes) ++ normalizeLines rest := by
  induction attributes with
  | nil => rfl
  | cons pair attributes ih =>
      have others : ∀ other ∈ attributes, isName other.1 = true :=
        fun other member => sound other (List.mem_cons_of_mem _ member)
      obtain ⟨name, value⟩ := pair
      have plain : '\r' ∉ name := return_notMem_of_isName (sound _ List.mem_cons_self)
      have printed : ∀ (value : List Char) (more : List Attribute) (later : List Char),
          printAttributes ((name, value) :: more) ++ later =
            ' ' :: (name ++
              '=' :: '"' :: (escape value ++ '"' :: (printAttributes more ++ later))) := by
        simp [printAttributes, printAttribute]
      have first : mapValues normalizeLines ((name, value) :: attributes) =
          (name, normalizeLines value) :: mapValues normalizeLines attributes := rfl
      rw [printed, normalizeLines_cons (by decide), normalizeLines_append plain,
        normalizeLines_cons (by decide), normalizeLines_cons (by decide),
        normalizeLines_escape value (head_ne (by decide) _), normalizeLines_cons
          (by decide), ih others,
        first, printed]

mutual

theorem Node.normalizeLines_print : (node : Node) → node.sound = true → (rest : List Char) →
    (node.isText = true → rest.head? ≠ some '\n') →
      normalizeLines (node.print ++ rest) = node.lines.print ++ normalizeLines rest
  | .text text, _, rest, follows => normalizeLines_escape text (follows rfl)
  | .empty name attributes, sound, rest, _ => by
      rw [Node.sound, Bool.and_eq_true] at sound
      have printed : ∀ (attributes : List Attribute) (later : List Char),
          (Node.empty name attributes).print ++ later =
            '<' :: (name ++ (printAttributes attributes ++ '/' :: '>' :: later)) := by
        simp [Node.print]
      rw [Node.lines, Node.mapTexts, printed, printed, normalizeLines_cons (by decide),
        normalizeLines_append (return_notMem_of_isName sound.1),
        normalizeLines_printAttributes (names_of_sound sound.2).1, normalizeLines_cons (by decide),
        normalizeLines_cons (by decide)]
  | .element name attributes children, sound, rest, _ => by
      rw [Node.sound, Bool.and_eq_true, Bool.and_eq_true] at sound
      have plain := return_notMem_of_isName sound.1.1
      have printed : ∀ (attributes : List Attribute) (children : List Node) (later : List Char),
          (Node.element name attributes children).print ++ later =
            '<' :: (name ++ (printAttributes attributes ++
              '>' :: (printNodes children ++ '<' :: '/' :: (name ++ '>' :: later)))) := by
        simp [Node.print]
      rw [Node.lines, Node.mapTexts, printed, printed, normalizeLines_cons (by decide),
        normalizeLines_append plain, normalizeLines_printAttributes (names_of_sound sound.1.2).1,
        normalizeLines_cons (by decide),
        normalizeLines_printNodes children sound.2 _ (head_ne (by decide) _),
        normalizeLines_cons (by decide), normalizeLines_cons (by decide),
        normalizeLines_append plain, normalizeLines_cons (by decide)]

theorem normalizeLines_printNodes : (nodes : List Node) → nodesSound nodes = true →
    (rest : List Char) → rest.head? ≠ some '\n' →
      normalizeLines (printNodes nodes ++ rest) =
        printNodes (mapTextsOf normalizeLines normalizeLines nodes) ++ normalizeLines rest
  | [], _, _, _ => rfl
  | node :: nodes, sound, rest, follows => by
      rw [nodesSound, Bool.and_eq_true, Bool.and_eq_true, Bool.not_eq_true'] at sound
      have next : node.isText = true → (printNodes nodes ++ rest).head? ≠ some '\n' := by
        intro kind
        rw [kind, Bool.true_and] at sound
        cases nodes with
        | nil => exact follows
        | cons other nodes =>
            have others := sound.1.2
            rw [nodesSound, Bool.and_eq_true, Bool.and_eq_true] at others
            obtain ⟨char, tail, printed, -⟩ := print_tag sound.2 others.1.1
            rw [printNodes, printed]
            simp
      rw [printNodes, List.append_assoc, Node.normalizeLines_print node sound.1.1 _ next,
        normalizeLines_printNodes nodes sound.1.2 rest follows, mapTextsOf, printNodes,
        List.append_assoc]
      rfl

end

/-! ## Characters of documents -/

theorem legal_of_isName {name : List Char} (isNamed : isName name = true) :
    name.all isXmlChar = true := by
  rw [List.all_eq_true]
  intro char member
  have named := nameChars_of_isName isNamed char member
  have range : 32 ≤ char.toNat ∧ char.toNat ≤ 0xfffd := by
    simp only [isNameChar, isNameStart, Char.isAlpha, Char.isUpper, Char.isLower, Char.isDigit,
      Bool.or_eq_true, Bool.and_eq_true, decide_eq_true_eq, beq_iff_eq, ge_iff_le,
      UInt32.le_iff_toNat_le] at named
    rcases named with (((((upper | lower) | rfl) | rfl) | digit) | rfl) | rfl
    · exact ⟨le_trans (by decide) upper.1, le_trans upper.2 (by decide)⟩
    · exact ⟨le_trans (by decide) lower.1, le_trans lower.2 (by decide)⟩
    · decide
    · decide
    · exact ⟨le_trans (by decide) digit.1, le_trans digit.2 (by decide)⟩
    · decide
    · decide
  simp [isXmlChar, range]

theorem all_printAttributes {attributes : List Attribute}
    (sound : ∀ pair ∈ attributes, isName pair.1 = true) :
    (printAttributes attributes).all isXmlChar =
      attributes.all fun pair => pair.2.all isXmlChar := by
  induction attributes with
  | nil => rfl
  | cons pair attributes ih =>
      have others : ∀ other ∈ attributes, isName other.1 = true :=
        fun other member => sound other (List.mem_cons_of_mem _ member)
      have split : printAttributes (pair :: attributes) =
          printAttribute pair ++ printAttributes attributes := rfl
      have quotes : isXmlChar ' ' = true ∧ isXmlChar '=' = true ∧ isXmlChar '"' = true := by decide
      rw [split, List.all_append, ih others, List.all_cons, printAttribute]
      simp [quotes, legal_of_isName (sound pair List.mem_cons_self), all_escape]

mutual

theorem Node.all_print : (node : Node) → node.sound = true →
    node.print.all isXmlChar = node.legal
  | .text text, _ => all_escape text
  | .empty name attributes, sound => by
      rw [Node.sound, Bool.and_eq_true] at sound
      have marks : isXmlChar '<' = true ∧ isXmlChar '/' = true ∧ isXmlChar '>' = true := by decide
      simp [Node.print, Node.legal, marks, legal_of_isName sound.1,
        all_printAttributes (names_of_sound sound.2).1]
  | .element name attributes children, sound => by
      rw [Node.sound, Bool.and_eq_true, Bool.and_eq_true] at sound
      have marks : isXmlChar '<' = true ∧ isXmlChar '/' = true ∧ isXmlChar '>' = true := by decide
      simp [Node.print, Node.legal, marks, legal_of_isName sound.1.1,
        all_printAttributes (names_of_sound sound.1.2).1, all_printNodes children sound.2]

theorem all_printNodes : (nodes : List Node) → nodesSound nodes = true →
    (printNodes nodes).all isXmlChar = nodesLegal nodes
  | [], _ => rfl
  | node :: nodes, sound => by
      rw [nodesSound, Bool.and_eq_true, Bool.and_eq_true] at sound
      rw [printNodes, List.all_append, Node.all_print node sound.1.1,
        all_printNodes nodes sound.1.2, nodesLegal]

end

/-! ## What a reader leaves as it is -/

theorem return_notMem_normalizeLines (text : List Char) : '\r' ∉ normalizeLines text := by
  induction text using normalizeLines.induct with
  | case1 => exact List.not_mem_nil
  | case2 text ih =>
      rw [normalizeLines, List.mem_cons, not_or]
      exact ⟨by decide, ih⟩
  | case3 text alone ih =>
      rw [normalizeLines_return (head_of_unpaired alone), List.mem_cons, not_or]
      exact ⟨by decide, ih⟩
  | case4 char text notPaired other ih =>
      rw [normalizeLines_cons fun same => other same, List.mem_cons, not_or]
      exact ⟨fun same => other same.symm, ih⟩

/-- Text without carriage returns is seen as it is. -/
theorem normalizeLines_eq_self_iff {text : List Char} :
    normalizeLines text = text ↔ '\r' ∉ text := by
  constructor
  · intro same
    rw [← same]
    exact return_notMem_normalizeLines text
  · intro plain
    have whole := normalizeLines_append plain []
    rw [List.append_nil] at whole
    rw [whole]
    exact List.append_nil text

/-- A value of an attribute without blanks other than spaces is seen as it is. -/
theorem blank_normalizeLines_eq_self_iff {value : List Char} :
    (normalizeLines value).map blank = value ↔ ∀ char ∈ value, isSpace char = true →
      char = ' ' := by
  constructor
  · intro same char member space
    rw [← same, List.mem_map] at member
    obtain ⟨other, -, rfl⟩ := member
    rw [blank] at space ⊢
    split at space
    · next blanked => rw [if_pos blanked]
    · next solid => exact absurd space solid
  · intro solid
    have plain : '\r' ∉ value := by
      intro member
      have blanked := solid _ member rfl
      revert blanked
      decide
    rw [normalizeLines_eq_self_iff.mpr plain]
    refine (List.map_congr_left fun char member => ?_).trans (List.map_id value)
    rw [blank]
    split
    · next space => exact (solid char member space).symm
    · rfl

/-- A reader sees the text as it is. -/
def TextKept (text : List Char) : Prop := ∀ char ∈ text, isXmlChar char = true ∧ char ≠ '\r'

/-- A reader sees the value of an attribute as it is. -/
def ValueKept (value : List Char) : Prop :=
  ∀ char ∈ value, isXmlChar char = true ∧ (isSpace char = true → char = ' ')

instance (text : List Char) : Decidable (TextKept text) :=
  decidable_of_iff (text.all (fun char => isXmlChar char && char != '\r') = true)
    (by simp [TextKept])

instance (value : List Char) : Decidable (ValueKept value) :=
  decidable_of_iff (value.all (fun char => isXmlChar char && (!isSpace char || char == ' ')) = true)
    (by simp [ValueKept, imp_iff_not_or])

/-- A reader sees the tree as it is. -/
def Node.Kept (node : Node) : Prop := node.legal = true ∧ node.received = node

theorem kept_text_iff {text : List Char} : (Node.text text).Kept ↔ TextKept text := by
  have received : (Node.text text).received = .text text ↔ '\r' ∉ text := by
    rw [← normalizeLines_eq_self_iff]
    exact ⟨fun same => Node.text.inj same, congrArg Node.text⟩
  rw [Node.Kept, received, Node.legal, List.all_eq_true, TextKept]
  constructor
  · rintro ⟨legal, plain⟩ char member
    refine ⟨legal char member, ?_⟩
    rintro rfl
    exact plain member
  · intro kept
    exact ⟨fun char member => (kept char member).1, fun member => (kept _ member).2 rfl⟩

/-- The values that are seen as they are. -/
theorem attributes_kept_iff {attributes : List Attribute} :
    ((attributes.all fun pair => pair.2.all isXmlChar) = true ∧
      mapValues (fun value => (normalizeLines value).map blank) attributes = attributes) ↔
        ∀ pair ∈ attributes, ValueKept pair.2 := by
  induction attributes with
  | nil => simp [mapValues]
  | cons pair attributes ih =>
      obtain ⟨name, value⟩ := pair
      have head : ValueKept value ↔
          value.all isXmlChar = true ∧ (normalizeLines value).map blank = value := by
        rw [blank_normalizeLines_eq_self_iff, List.all_eq_true]
        exact ⟨fun kept => ⟨fun char member => (kept char member).1,
          fun char member => (kept char member).2⟩,
          fun both char member => ⟨both.1 char member, both.2 char member⟩⟩
      rw [List.forall_mem_cons, head, ← ih, mapValues, List.map_cons, List.all_cons,
        Bool.and_eq_true, List.cons.injEq, Prod.mk.injEq, mapValues]
      tauto

theorem nodes_kept_iff {nodes : List Node} : (nodesLegal nodes = true ∧
    mapTextsOf normalizeLines (fun value => (normalizeLines value).map blank) nodes = nodes) ↔
      ∀ node ∈ nodes, node.Kept := by
  induction nodes with
  | nil => simp [nodesLegal, mapTextsOf]
  | cons node nodes ih =>
      rw [List.forall_mem_cons, Node.Kept, ← ih, nodesLegal, mapTextsOf, Bool.and_eq_true,
        List.cons.injEq, Node.received]
      tauto

theorem kept_empty_iff {name : List Char} {attributes : List Attribute} :
    (Node.empty name attributes).Kept ↔ ∀ pair ∈ attributes, ValueKept pair.2 := by
  rw [← attributes_kept_iff, Node.Kept, Node.legal, Node.received, Node.mapTexts, Node.empty.injEq]
  tauto

theorem kept_element_iff {name : List Char} {attributes : List Attribute} {children : List Node} :
    (Node.element name attributes children).Kept ↔
      (∀ pair ∈ attributes, ValueKept pair.2) ∧ ∀ child ∈ children, child.Kept := by
  rw [← attributes_kept_iff, ← nodes_kept_iff, Node.Kept, Node.legal, Node.received, Node.mapTexts,
    Node.element.injEq, Bool.and_eq_true]
  tauto

/-! ## Results -/

/-- A document: the declaration, and the root element on the next line. -/
def printDocument (root : Node) : List Char := declaration ++ '\n' :: root.print

/-- The attributes of the declaration. -/
def declarationAttributes : List Attribute :=
  [("version".toList, "1.0".toList), ("encoding".toList, "UTF-8".toList)]

theorem readDeclaration_declaration (rest : List Char) :
    readDeclaration (declaration ++ rest) = some rest := by
  have closed : declaration = ['<', '?', 'x', 'm', 'l'] ++
      printAttributes declarationAttributes ++ ['?', '>'] := by decide
  have printed : declaration ++ rest = ['<', '?', 'x', 'm', 'l'] ++
      (printAttributes declarationAttributes ++ '?' :: '>' :: rest) := by
    rw [closed]
    simp
  have enough : declarationAttributes.length <
      (['<', '?', 'x', 'm', 'l'] ++ (printAttributes declarationAttributes ++
        '?' :: '>' :: rest)).length := by
    have count : declarationAttributes.length = 2 := rfl
    have five : ['<', '?', 'x', 'm', 'l'].length = 5 := rfl
    rw [count, List.length_append, five]
    omega
  have inside : readAttributes (['<', '?', 'x', 'm', 'l'] ++
      (printAttributes declarationAttributes ++ '?' :: '>' :: rest)).length
        (printAttributes declarationAttributes ++ '?' :: '>' :: rest) =
          some (blanked declarationAttributes, '?' :: '>' :: rest) :=
    readAttributes_print (by decide) enough rfl
  have version : (blanked declarationAttributes).head? =
      some ("version".toList, "1.0".toList) := by decide
  rw [printed, readDeclaration, if_pos (List.prefix_append _ _)]
  change (readAttributes _ (printAttributes declarationAttributes ++ '?' :: '>' :: rest)).bind _ = _
  rw [inside, Option.bind_some]
  exact if_pos version

/-- **Reading a printed document.**  A reader refuses a document with a character that XML does
not have, and sees any other as it is received. -/
theorem read_document {root : Node} (tag : root.isText = false) (sound : root.sound = true) :
    read (printDocument root) = if root.legal then some root.received else none := by
  have legal : (printDocument root).all isXmlChar = root.legal := by
    have declared : declaration.all isXmlChar = true := by decide
    rw [printDocument, List.all_append, declared, List.all_cons, Node.all_print root sound]
    rfl
  have lines : normalizeLines (printDocument root) = declaration ++ '\n' :: root.lines.print := by
    have printed := root.normalizeLines_print sound [] (by simp)
    rw [List.append_nil] at printed
    rw [printDocument, normalizeLines_append (by decide), normalizeLines_cons (by decide), printed]
    simp [normalizeLines]
  have soundLines : root.lines.sound = true :=
    (root.sound_mapTexts isEmpty_normalizeLines).trans sound
  have tagLines : root.lines.isText = false := (root.isText_mapTexts _ _).trans tag
  obtain ⟨char, tail, printed, -⟩ := print_tag tagLines soundLines
  have skipped : skipSpace ('\n' :: root.lines.print) = root.lines.print := by
    rw [printed]
    rfl
  have whole := (readsBack (root.lines.print.length + 1)).node root.lines [] tagLines soundLines
    (Nat.le_succ _)
  rw [List.append_nil] at whole
  rw [read, legal, lines]
  split
  · rw [readDeclaration_declaration, Option.bind_eq_bind, Option.bind_some]
    dsimp only
    rw [skipped, whole, blanked_lines]
    rfl
  · rfl

/-- A document is read as it was meant if and only if a reader changes nothing of it. -/
theorem read_document_iff {root : Node} (tag : root.isText = false) (sound : root.sound = true) :
    read (printDocument root) = some root ↔ root.Kept := by
  rw [read_document tag sound, Node.Kept]
  cases root.legal with
  | true => simp
  | false => simp

end Formats.Xml
