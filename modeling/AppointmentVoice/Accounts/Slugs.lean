import AppointmentVoice.Accounts.Requests

/-!
# Slugs

What the schemas and the frontend take for the slug of a tenant, and the candidates that
the signup generates from the name of a salon.  All of them have the form of a slug; their
lengths are as they come.

**The form.** `slugify_pattern` and `candidates_pattern`.
-/

set_option autoImplicit false

namespace AppointmentVoice.Accounts

/-! ## The form of a slug -/

/-- What may come after a letter or digit: more of them, in groups behind single hyphens. -/
def slugTail : List Char → Bool
  | [] => true
  | '-' :: char :: rest => slugChar char && slugTail rest
  | char :: rest => slugChar char && slugTail rest

/-- `TENANT_SLUG_PATTERN.fullmatch`. -/
def tenantSlugPattern (slug : String) : Bool :=
  match slug.toList with
  | [] => false
  | char :: rest => slugChar char && slugTail rest

/-- `setLoginTenantSlug` of the frontend sets the cookie. -/
def setLoginTenantSlug (slug : String) : Bool :=
  !(63 < slug.length || !tenantSlugPattern slug)

/-- The characters of slugs and hyphens, no two of which are next to each other. -/
structure Hyphenated (chars : List Char) : Prop where
  among : ∀ char ∈ chars, slugChar char = true ∨ char = '-'
  single : chars.IsChain fun char next => ¬(char = '-' ∧ next = '-')

theorem Hyphenated.cons_char {char : Char} {chars : List Char} (ordinary : slugChar char = true)
    (hyphenated : Hyphenated chars) : Hyphenated (char :: chars) where
  among other member := by
    rcases List.mem_cons.mp member with rfl | rest
    · exact .inl ordinary
    · exact hyphenated.among other rest
  single := by
    refine List.isChain_cons.mpr ⟨fun next _ both => ?_, hyphenated.single⟩
    rw [both.1] at ordinary
    cases ordinary

theorem Hyphenated.cons_hyphen {chars : List Char} (other : ∀ rest, chars ≠ '-' :: rest)
    (hyphenated : Hyphenated chars) : Hyphenated ('-' :: chars) where
  among char member := by
    rcases List.mem_cons.mp member with rfl | rest
    · exact .inr rfl
    · exact hyphenated.among char rest
  single := by
    refine List.isChain_cons.mpr ⟨fun next first both => ?_, hyphenated.single⟩
    obtain ⟨rest, rfl⟩ := List.head?_eq_some_iff.mp (both.2 ▸ first)
    exact other rest rfl

theorem hyphenate_hyphenated (chars : List Char) : Hyphenated (hyphenate chars) := by
  induction chars with
  | nil => exact ⟨fun _ member => (List.not_mem_nil member).elim, List.IsChain.nil⟩
  | cons char rest ih =>
      rw [hyphenate]
      split
      · next ordinary => exact ih.cons_char ordinary
      · split
        · next others same => exact same ▸ ih
        · next others => exact ih.cons_hyphen others

theorem Hyphenated.of_infix {chars part : List Char} (hyphenated : Hyphenated chars)
    (inside : part <:+: chars) : Hyphenated part where
  among char member := hyphenated.among char (inside.subset member)
  single := hyphenated.single.infix inside

/-- What does not end in a hyphen may come after a letter or digit. -/
theorem Hyphenated.slugTail {chars : List Char} (hyphenated : Hyphenated chars)
    (ends : chars.getLast? ≠ some '-') : Accounts.slugTail chars = true := by
  induction chars using Accounts.slugTail.induct with
  | case1 => rfl
  | case2 char rest ih =>
      have single := (List.isChain_cons_cons.mp hyphenated.single).1
      rw [Accounts.slugTail, Bool.and_eq_true]
      constructor
      · rcases hyphenated.among char (by simp) with ordinary | hyphen
        · exact ordinary
        · exact absurd ⟨rfl, hyphen⟩ single
      · refine ih (hyphenated.of_infix ⟨['-', char], [], by simp⟩) fun last => ends ?_
        cases rest with
        | nil => cases last
        | cons next rest => simpa using last
  | case3 char rest other ih =>
      rw [Accounts.slugTail]
      · rw [Bool.and_eq_true]
        constructor
        · rcases hyphenated.among char (by simp) with ordinary | hyphen
          · exact ordinary
          · cases rest with
            | nil => exact absurd (congrArg some hyphen) ends
            | cons next rest => exact absurd rfl (other next rest hyphen)
        · refine ih (hyphenated.of_infix ⟨[char], [], by simp⟩) fun last => ends ?_
          cases rest with
          | nil => cases last
          | cons next rest => simpa using last
      · exact other

/-- What neither begins nor ends with a hyphen has the form of a slug. -/
theorem Hyphenated.pattern {char : Char} {rest : List Char} (hyphenated : Hyphenated (char :: rest))
    (begins : char ≠ '-') (ends : (char :: rest).getLast? ≠ some '-') :
    tenantSlugPattern (String.ofList (char :: rest)) = true := by
  rw [tenantSlugPattern, String.toList_ofList, Bool.and_eq_true]
  constructor
  · exact (hyphenated.among char (List.mem_cons_self ..)).resolve_right begins
  · refine (hyphenated.of_infix ⟨[char], [], by simp⟩).slugTail fun last => ends ?_
    cases rest with
    | nil => cases last
    | cons next rest => simpa using last

/-- **The slug of a name has the form of a slug.** -/
theorem slugify_pattern (name : String) : tenantSlugPattern (slugify name) = true := by
  unfold slugify
  generalize named : hyphenate (name.toList.flatMap asciiLower) = chars
  have hyphenated : Hyphenated chars := named ▸ hyphenate_hyphenated _
  change tenantSlugPattern
    (if ((chars.dropWhile (· == '-')).rdropWhile (· == '-')).isEmpty then "salon"
    else String.ofList ((chars.dropWhile (· == '-')).rdropWhile (· == '-'))) = true
  have begins := List.rdropWhile_prefix (· == '-') (chars.dropWhile (· == '-'))
  have inside := begins.isInfix.trans (List.dropWhile_suffix (· == '-') (l := chars)).isInfix
  have ends := List.rdropWhile_last_not (· == '-') (chars.dropWhile (· == '-'))
  have first := List.head?_dropWhile_not (· == '-') chars
  generalize (chars.dropWhile (· == '-')).rdropWhile (· == '-') = slug at begins inside ends ⊢
  cases slug with
  | nil => decide
  | cons char rest =>
      have filled : char :: rest ≠ [] := nofun
      refine (hyphenated.of_infix inside).pattern (fun hyphen => ?_) fun last => ?_
      · obtain ⟨more, whole⟩ := begins
        rw [← whole, hyphen] at first
        cases first
      · refine ends filled ?_
        rw [List.getLast?_eq_some_getLast filled, Option.some.injEq] at last
        rw [last]
        rfl

/-! ## The candidates -/

/-- A letter or digit goes on with what may come after it. -/
theorem slugTail_cons {char : Char} (ordinary : slugChar char = true) (rest : List Char) :
    slugTail (char :: rest) = slugTail rest := by
  rw [slugTail]
  · rw [ordinary, Bool.true_and]
  · rintro next more rfl
    cases ordinary

theorem slugTail_of_all {chars : List Char} (all : ∀ char ∈ chars, slugChar char = true) :
    slugTail chars = true := by
  induction chars with
  | nil => rfl
  | cons char rest ih =>
      rw [slugTail_cons (all char (List.mem_cons_self ..))]
      exact ih fun other member => all other (List.mem_cons_of_mem _ member)

/-- A group of letters and digits may come after a hyphen. -/
theorem slugTail_append {chars group : List Char} (tail : slugTail chars = true)
    (filled : group ≠ []) (all : ∀ char ∈ group, slugChar char = true) :
    slugTail (chars ++ '-' :: group) = true := by
  induction chars using slugTail.induct with
  | case1 =>
      obtain ⟨char, rest, rfl⟩ := List.exists_cons_of_ne_nil filled
      rw [List.nil_append, slugTail, Bool.and_eq_true]
      exact ⟨all char (List.mem_cons_self ..),
        slugTail_of_all fun other member => all other (List.mem_cons_of_mem _ member)⟩
  | case2 char rest ih =>
      rw [slugTail, Bool.and_eq_true] at tail
      rw [List.cons_append, List.cons_append, slugTail, Bool.and_eq_true]
      exact ⟨tail.1, ih tail.2⟩
  | case3 char rest other ih =>
      rw [slugTail, Bool.and_eq_true] at tail
      · rw [List.cons_append, slugTail_cons tail.1]
        exact ih tail.2
      · exact other

/-- A candidate of `_unique_slug` after the first one. -/
def suffixed (baseSlug : String) (suffix : Nat) : String := baseSlug ++ "-" ++ toString suffix

/-- The slugs that `_unique_slug` looks for, in order. -/
def slugCandidates (baseSlug : String) : List String :=
  baseSlug :: (List.range' 2 998).map (suffixed baseSlug)

theorem slugChar_of_isDigit {char : Char} (digit : char.isDigit = true) : slugChar char = true := by
  rw [slugChar, Bool.or_eq_true]
  right
  rw [Char.isDigit, Bool.and_eq_true, decide_eq_true_eq, decide_eq_true_eq] at digit
  rw [Bool.and_eq_true, decide_eq_true_eq, decide_eq_true_eq]
  exact digit

theorem suffixed_pattern {baseSlug : String} (pattern : tenantSlugPattern baseSlug = true)
    (suffix : Nat) : tenantSlugPattern (suffixed baseSlug suffix) = true := by
  have chars : (suffixed baseSlug suffix).toList =
      baseSlug.toList ++ '-' :: Nat.toDigits 10 suffix := by
    rw [suffixed, String.toList_append, String.toList_append, Nat.toString_eq_repr, Nat.toList_repr,
      List.append_assoc]
    rfl
  have digits : ∀ char ∈ Nat.toDigits 10 suffix, slugChar char = true := fun char member =>
    slugChar_of_isDigit (Nat.isDigit_of_mem_toDigits (by decide) (by decide) member)
  have filled : Nat.toDigits 10 suffix ≠ [] := List.ne_nil_of_length_pos Nat.length_toDigits_pos
  rw [tenantSlugPattern] at pattern ⊢
  rw [chars]
  split at pattern
  · cases pattern
  next char rest same =>
    rw [Bool.and_eq_true] at pattern
    rw [same, List.cons_append, Bool.and_eq_true]
    exact ⟨pattern.1, slugTail_append pattern.2 filled digits⟩

/-- **All candidates have the form of a slug.** -/
theorem candidates_pattern (name : String) :
    ∀ slug ∈ slugCandidates (slugify name), tenantSlugPattern slug = true := by
  rintro slug member
  rcases List.mem_cons.mp member with rfl | member
  · exact slugify_pattern name
  · obtain ⟨suffix, -, rfl⟩ := List.mem_map.mp member
    exact suffixed_pattern (slugify_pattern name) suffix

end AppointmentVoice.Accounts
