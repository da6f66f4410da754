import Mathlib

/-!
# Custody of tokens

Tokens lie in a common bag or are in the hand of somebody on their way from one place in
the bag to another, and who has them in hand need not know more of them than who they are.
Tokens of one kind may lie in the bag in the charge of somebody; as long as nobody else
takes those out, every token is at one place, whoever drops what they have: `Custody.step`.
-/

set_option autoImplicit false

namespace AppointmentVoice.Concurrency

variable {Who ι τ : Type} {idOf : τ → ι} {kept : τ → Prop} {fresh : ι → Prop}

/-- What somebody has of the tokens: one in hand, or the charge of one in the bag. -/
structure Hold (ι τ : Type) where
  hand : Option ι
  charge : Option τ

namespace Hold

/-- Nothing. -/
def nothing : Hold ι τ := ⟨none, none⟩

/-- An item is in hand. -/
def carrying (id : ι) : Hold ι τ := ⟨some id, none⟩

/-- A token is in hand. -/
def minding (token : τ) : Hold ι τ := ⟨none, some token⟩

/-- The token with that identity is in hand or in charge. -/
def Has (idOf : τ → ι) (hold : Hold ι τ) (id : ι) : Prop :=
  hold.hand = some id ∨ ∃ token, hold.charge = some token ∧ idOf token = id

@[simp] theorem not_has_nothing (id : ι) : ¬(nothing : Hold ι τ).Has idOf id := by
  rintro (hand | ⟨token, charge, -⟩)
  · cases hand
  · cases charge

@[simp] theorem has_carrying {id other : ι} :
    (carrying other : Hold ι τ).Has idOf id ↔ other = id := by
  constructor
  · rintro (hand | ⟨token, charge, -⟩)
    · exact Option.some.inj hand
    · cases charge
  · rintro rfl
    exact .inl rfl

@[simp] theorem has_minding {token : τ} {id : ι} :
    (minding token : Hold ι τ).Has idOf id ↔ idOf token = id := by
  constructor
  · rintro (hand | ⟨other, charge, same⟩)
    · cases hand
    · cases charge
      exact same
  · intro same
    exact .inr ⟨token, rfl, same⟩

end Hold

/-- Every token is at one place, and all that is in the charge of somebody is kept in the
bag. -/
structure Custody (idOf : τ → ι) (kept : τ → Prop) (bag : Multiset τ) (holds : Who → Hold ι τ) :
    Prop where
  sole : (bag.map idOf).Nodup
  apart : ∀ who id, (holds who).hand = some id → id ∉ bag.map idOf
  charged : ∀ who token, (holds who).charge = some token → token ∈ bag ∧ kept token
  alone : ∀ who other id, (holds who).Has idOf id → (holds other).Has idOf id → who = other

/-- What somebody does with one token; a token that is new has a fresh identity. -/
inductive Transfer (idOf : τ → ι) (kept : τ → Prop) (fresh : ι → Prop) (bag : Multiset τ)
    (holds : Who → Hold ι τ) (who : Who) : Multiset τ → Hold ι τ → Prop where
  | same : Transfer idOf kept fresh bag holds who bag (holds who)
  | create {id : ι} (free : holds who = .nothing) (new : fresh id) (absent : id ∉ bag.map idOf)
      (unknown : ∀ other, ¬(holds other).Has idOf id) :
      Transfer idOf kept fresh bag holds who bag (.carrying id)
  | put {id : ι} {token : τ} (hand : holds who = .carrying id) (same : idOf token = id)
      (loose : ¬kept token) :
      Transfer idOf kept fresh bag holds who (token ::ₘ bag) .nothing
  | store {id : ι} {token : τ} (hand : holds who = .carrying id) (same : idOf token = id)
      (keeps : kept token) : Transfer idOf kept fresh bag holds who (token ::ₘ bag) (.minding token)
  | take {id : ι} {token : τ} {rest : Multiset τ} (free : holds who = .nothing)
      (unminded : ∀ other, (holds other).charge ≠ some token) (split : bag = token ::ₘ rest)
      (same : idOf token = id) :
      Transfer idOf kept fresh bag holds who rest (.carrying id)
  | claim {token new : τ} {rest : Multiset τ} (free : holds who = .nothing)
      (unminded : ∀ other, (holds other).charge ≠ some token) (split : bag = token ::ₘ rest)
      (same : idOf new = idOf token)
      (keeps : kept new) : Transfer idOf kept fresh bag holds who (new ::ₘ rest) (.minding new)
  | lift {id : ι} {token : τ} {rest : Multiset τ} (charge : holds who = .minding token)
      (split : bag = token ::ₘ rest) (same : idOf token = id) :
      Transfer idOf kept fresh bag holds who rest (.carrying id)
  | remove {token : τ} {rest : Multiset τ} (charge : holds who = .minding token)
      (split : bag = token ::ₘ rest) : Transfer idOf kept fresh bag holds who rest .nothing

namespace Custody

variable {bag : Multiset τ} {holds : Who → Hold ι τ}

/-- The bag is empty, and nobody has anything. -/
theorem initial : Custody idOf kept 0 (fun _ : Who => (.nothing : Hold ι τ)) where
  sole := Multiset.nodup_zero
  apart _ _ hand := nomatch hand
  charged _ _ charge := nomatch charge
  alone _ _ id has := absurd has (Hold.not_has_nothing id)

/-- One token of an identity. -/
theorem unique (custody : Custody idOf kept bag holds) {token other : τ} (member : token ∈ bag)
    (there : other ∈ bag) (same : idOf token = idOf other) : token = other :=
  Multiset.inj_on_of_nodup_map custody.sole token member other there same

/-- What somebody has in hand or in charge is in nobody else's. -/
theorem not_has (custody : Custody idOf kept bag holds) {who other : Who} {id : ι}
    (has : (holds who).Has idOf id) (different : other ≠ who) : ¬(holds other).Has idOf id :=
  fun hasToo => different (custody.alone other who id hasToo has)

/-- What is not kept is in nobody's charge. -/
theorem unminded (custody : Custody idOf kept bag holds) {token : τ} (notKept : ¬kept token)
    (who : Who) : (holds who).charge ≠ some token :=
  fun charge => notKept (custody.charged who token charge).2

/-- What lies in the bag in nobody's charge is in nobody's hand either. -/
theorem not_has_of_unminded (custody : Custody idOf kept bag holds) {token : τ}
    (member : token ∈ bag) (free : ∀ other, (holds other).charge ≠ some token) (who : Who) :
    ¬(holds who).Has idOf (idOf token) := by
  rintro (hand | ⟨other, charge, same⟩)
  · exact custody.apart who _ hand (Multiset.mem_map_of_mem idOf member)
  · obtain ⟨there, -⟩ := custody.charged who other charge
    exact free who (custody.unique there member same ▸ charge)

/-- What is in hand or has its token in the bag is known to be so. -/
theorem charged_of_minding (custody : Custody idOf kept bag holds) {who : Who} {token : τ}
    (charge : holds who = .minding token) : token ∈ bag ∧ kept token :=
  custody.charged who token (by rw [charge]; rfl)

/-- Whoever drops what they have leaves the others theirs. -/
theorem forget (custody : Custody idOf kept bag holds) {less : Who → Hold ι τ}
    (part : ∀ who, less who = holds who ∨ less who = .nothing) : Custody idOf kept bag less := by
  have hand : ∀ who id, (less who).hand = some id → (holds who).hand = some id := by
    intro who id carried
    rcases part who with same | nothing
    · exact same ▸ carried
    · rw [nothing] at carried
      cases carried
  have charge : ∀ who token, (less who).charge = some token → (holds who).charge = some token := by
    intro who token minded
    rcases part who with same | nothing
    · exact same ▸ minded
    · rw [nothing] at minded
      cases minded
  have has : ∀ who id, (less who).Has idOf id → (holds who).Has idOf id := by
    intro who id mine
    exact mine.imp (hand who id) fun ⟨token, minded, same⟩ => ⟨token, charge who token minded, same⟩
  exact ⟨custody.sole, fun who id carried => custody.apart who id (hand who id carried),
    fun who token minded => custody.charged who token (charge who token minded),
    fun who other id mine theirs => custody.alone who other id (has who id mine)
      (has other id theirs)⟩

/-- The rule of the holds: those of the others stay, and the one that changes is in order. -/
theorem update [DecidableEq Who] (custody : Custody idOf kept bag holds) {who : Who}
    {after : Multiset τ} {hold : Hold ι τ}
    (sole : (after.map idOf).Nodup)
    (hand : ∀ id, hold.hand = some id → id ∉ after.map idOf)
    (charge : ∀ token, hold.charge = some token → token ∈ after ∧ kept token)
    (alone : ∀ id, hold.Has idOf id → ∀ other, other ≠ who → ¬(holds other).Has idOf id)
    (hands : ∀ other id, other ≠ who → (holds other).hand = some id → id ∉ after.map idOf)
    (charges : ∀ other token, other ≠ who → (holds other).charge = some token → token ∈ after) :
    Custody idOf kept after (Function.update holds who hold) where
  sole := sole
  apart other id := by
    by_cases same : other = who
    · subst same
      rw [Function.update_self]
      exact hand id
    · rw [Function.update_of_ne same]
      exact hands other id same
  charged other token := by
    by_cases same : other = who
    · subst same
      rw [Function.update_self]
      exact charge token
    · rw [Function.update_of_ne same]
      exact fun here => ⟨charges other token same here, (custody.charged other token here).2⟩
  alone first second id hasFirst hasSecond := by
    by_cases sameFirst : first = who
    · by_cases sameSecond : second = who
      · exact sameFirst.trans sameSecond.symm
      · rw [sameFirst, Function.update_self] at hasFirst
        rw [Function.update_of_ne sameSecond] at hasSecond
        exact absurd hasSecond (alone id hasFirst second sameSecond)
    · rw [Function.update_of_ne sameFirst] at hasFirst
      by_cases sameSecond : second = who
      · rw [sameSecond, Function.update_self] at hasSecond
        exact absurd hasFirst (alone id hasSecond first sameFirst)
      · rw [Function.update_of_ne sameSecond] at hasSecond
        exact custody.alone first second id hasFirst hasSecond

/-- A token goes into the bag from the hand of who has it there. -/
theorem put_down [DecidableEq Who] (custody : Custody idOf kept bag holds) {who : Who} {token : τ}
    {hold : Hold ι τ} (carries : holds who = .carrying (idOf token))
    (mine : hold = .nothing ∨ hold = .minding token ∧ kept token) :
    Custody idOf kept (token ::ₘ bag) (Function.update holds who hold) := by
  have has : (holds who).Has idOf (idOf token) := by rw [carries]; exact .inl rfl
  have absent : idOf token ∉ bag.map idOf := custody.apart who _ (by rw [carries]; rfl)
  refine custody.update ?_ ?_ ?_ ?_ ?_ ?_
  · rw [Multiset.map_cons, Multiset.nodup_cons]
    exact ⟨absent, custody.sole⟩
  · rcases mine with rfl | ⟨rfl, -⟩ <;> exact fun _ hand => nomatch hand
  · rcases mine with rfl | ⟨rfl, keeps⟩
    · exact fun _ charge => nomatch charge
    · rintro _ ⟨⟩
      exact ⟨Multiset.mem_cons_self _ _, keeps⟩
  · rcases mine with rfl | ⟨rfl, -⟩
    · exact fun id hasId => absurd hasId (Hold.not_has_nothing id)
    · intro id hasId other different
      rw [Hold.has_minding] at hasId
      exact hasId ▸ custody.not_has has different
  · intro other id different hand there
    rw [Multiset.map_cons, Multiset.mem_cons] at there
    rcases there with same | old
    · exact custody.not_has has different (same ▸ .inl hand)
    · exact custody.apart other id hand old
  · exact fun other _ _ charge => Multiset.mem_cons_of_mem (custody.charged other _ charge).1

/-- A token that nobody minds goes out of the bag, into the hand of who has nothing. -/
theorem take_up [DecidableEq Who] {rest : Multiset τ} {token : τ}
    (custody : Custody idOf kept (token ::ₘ rest) holds) (who : Who)
    (unminded : ∀ other, (holds other).charge ≠ some token) :
    Custody idOf kept rest (Function.update holds who (.carrying (idOf token))) := by
  have nobody := custody.not_has_of_unminded (Multiset.mem_cons_self token rest) unminded
  have sole := custody.sole
  rw [Multiset.map_cons, Multiset.nodup_cons] at sole
  refine custody.update sole.2 ?_ (fun _ charge => nomatch charge) ?_ ?_ ?_
  · rintro _ ⟨⟩
    exact sole.1
  · intro id has other _
    rw [Hold.has_carrying] at has
    exact has ▸ nobody other
  · intro other id _ hand there
    refine custody.apart other id hand ?_
    rw [Multiset.map_cons]
    exact Multiset.mem_cons_of_mem there
  · intro other found _ charge
    rcases Multiset.mem_cons.mp (custody.charged other found charge).1 with rfl | old
    · exact absurd charge (unminded other)
    · exact old

/-- A token goes out of the bag with who has the charge of it. -/
theorem take_out [DecidableEq Who] {rest : Multiset τ} {token : τ} {hold : Hold ι τ}
    (custody : Custody idOf kept (token ::ₘ rest) holds) {who : Who}
    (minds : holds who = .minding token)
    (mine : hold = .nothing ∨ hold = .carrying (idOf token)) :
    Custody idOf kept rest (Function.update holds who hold) := by
  have has : (holds who).Has idOf (idOf token) := by rw [minds]; exact .inr ⟨token, rfl, rfl⟩
  have sole := custody.sole
  rw [Multiset.map_cons, Multiset.nodup_cons] at sole
  refine custody.update sole.2 ?_ ?_ ?_ ?_ ?_
  · rcases mine with rfl | rfl
    · exact fun _ hand => nomatch hand
    · rintro _ ⟨⟩
      exact sole.1
  · rcases mine with rfl | rfl <;> exact fun _ charge => nomatch charge
  · rcases mine with rfl | rfl
    · exact fun id hasId => absurd hasId (Hold.not_has_nothing id)
    · intro id hasId other different
      rw [Hold.has_carrying] at hasId
      exact hasId ▸ custody.not_has has different
  · intro other id _ hand there
    refine custody.apart other id hand ?_
    rw [Multiset.map_cons]
    exact Multiset.mem_cons_of_mem there
  · intro other found different charge
    rcases Multiset.mem_cons.mp (custody.charged other found charge).1 with rfl | old
    · exact absurd (.inr ⟨found, charge, rfl⟩) (custody.not_has has different)
    · exact old

/-- **The step rule of custody.** -/
theorem step [DecidableEq Who] (custody : Custody idOf kept bag holds) {who : Who}
    {after : Multiset τ} {hold : Hold ι τ}
    (transfer : Transfer idOf kept fresh bag holds who after hold) :
    Custody idOf kept after (Function.update holds who hold) := by
  cases transfer with
  | same =>
      rw [Function.update_eq_self]
      exact custody
  | @create id free new absent unknown =>
      refine custody.update custody.sole ?_ (fun _ charge => nomatch charge) ?_ ?_ ?_
      · rintro _ ⟨⟩
        exact absent
      · intro found has other _
        rw [Hold.has_carrying] at has
        exact has ▸ unknown other
      · exact fun other found _ hand => custody.apart other found hand
      · exact fun other token _ charge => (custody.charged other token charge).1
  | put hand same loose =>
      subst same
      exact custody.put_down hand (.inl rfl)
  | store hand same keeps =>
      subst same
      exact custody.put_down hand (.inr ⟨rfl, keeps⟩)
  | take free unminded split same =>
      subst split same
      exact custody.take_up who unminded
  | @claim token new rest free unminded split same keeps =>
      subst split
      -- What is claimed is taken up and put down again at once.
      have carried := custody.take_up who unminded
      have carries : Function.update holds who (.carrying (idOf token)) who =
        .carrying (idOf new) := by
        rw [Function.update_self, same]
      have stored := carried.put_down carries (.inr ⟨rfl, keeps⟩)
      rwa [Function.update_idem] at stored
  | lift charge split same =>
      subst split same
      exact custody.take_out charge (.inr rfl)
  | remove charge split =>
      subst split
      exact custody.take_out charge (.inl rfl)

/-! ## Where tokens come from -/

/-- **Nothing comes from nowhere.** What is in the bag or in a hand or charge after a step was
so before it, or is fresh. -/
theorem origin [DecidableEq Who] {who : Who} {after : Multiset τ} {hold : Hold ι τ}
    (transfer : Transfer idOf kept fresh bag holds who after hold) {id : ι}
    (there : id ∈ after.map idOf ∨ ∃ other, (Function.update holds who hold other).Has idOf id) :
    (id ∈ bag.map idOf ∨ ∃ other, (holds other).Has idOf id) ∨ fresh id := by
  have others : ∀ {more : Hold ι τ}, (more.Has idOf id → id ∈ bag.map idOf ∨
      ∃ other, (holds other).Has idOf id) →
      (∃ other, (Function.update holds who more other).Has idOf id) →
        id ∈ bag.map idOf ∨ ∃ other, (holds other).Has idOf id := by
    rintro more mine ⟨other, has⟩
    by_cases same : other = who
    · rw [same, Function.update_self] at has
      exact mine has
    · rw [Function.update_of_ne same] at has
      exact .inr ⟨other, has⟩
  cases transfer with
  | same => exact .inl (there.elim .inl (others fun has => .inr ⟨who, has⟩))
  | @create found free new absent unknown =>
      by_cases same : found = id
      · exact .inr (same ▸ new)
      · exact .inl (there.elim .inl (others fun has => absurd (Hold.has_carrying.mp has) same))
  | @put _ token hand same loose =>
      subst same
      refine .inl
        (there.elim (fun old => ?_) (others fun has => absurd has (Hold.not_has_nothing id)))
      rw [Multiset.map_cons, Multiset.mem_cons] at old
      rcases old with rfl | old
      · exact .inr ⟨who, by rw [hand]; exact .inl rfl⟩
      · exact .inl old
  | @store _ token hand same keeps =>
      subst same
      have mine : (holds who).Has idOf (idOf token) := by rw [hand]; exact .inl rfl
      refine .inl (there.elim (fun old => ?_)
        (others fun has => .inr ⟨who, Hold.has_minding.mp has ▸ mine⟩))
      rw [Multiset.map_cons, Multiset.mem_cons] at old
      rcases old with rfl | old
      · exact .inr ⟨who, mine⟩
      · exact .inl old
  | take free unminded split same =>
      subst split same
      rw [Multiset.map_cons] at *
      refine .inl (there.elim (fun old => .inl (Multiset.mem_cons_of_mem old))
        (others fun has => .inl ?_))
      rw [← Hold.has_carrying.mp has]
      exact Multiset.mem_cons_self _ _
  | @claim token new rest free unminded split same keeps =>
      subst split
      rw [Multiset.map_cons] at *
      refine .inl (there.elim (fun old => .inl (same ▸ old)) (others fun has => .inl ?_))
      rw [← Hold.has_minding.mp has, same]
      exact Multiset.mem_cons_self _ _
  | lift charge split same =>
      subst split same
      rw [Multiset.map_cons] at *
      refine .inl (there.elim (fun old => .inl (Multiset.mem_cons_of_mem old))
        (others fun has => .inl ?_))
      rw [← Hold.has_carrying.mp has]
      exact Multiset.mem_cons_self _ _
  | remove charge split =>
      subst split
      rw [Multiset.map_cons] at *
      exact .inl (there.elim (fun old => .inl (Multiset.mem_cons_of_mem old))
        (others fun has => absurd has (Hold.not_has_nothing id)))

/-- **What is not handed on stays.** A token that the mover has neither before nor after the
step is where it was. -/
theorem stays {who : Who} {after : Multiset τ} {hold : Hold ι τ}
    (transfer : Transfer idOf kept fresh bag holds who after hold) {token : τ}
    (member : token ∈ bag)
    (notBefore : ¬(holds who).Has idOf (idOf token)) (notAfter : ¬hold.Has idOf (idOf token)) :
    token ∈ after := by
  cases transfer with
  | same => exact member
  | create free new absent unknown => exact member
  | put hand same loose => exact Multiset.mem_cons_of_mem member
  | store hand same keeps => exact Multiset.mem_cons_of_mem member
  | take free unminded split same =>
      subst split
      rcases Multiset.mem_cons.mp member with rfl | old
      · exact absurd (Hold.has_carrying.mpr same.symm) notAfter
      · exact old
  | claim free unminded split same keeps =>
      subst split
      rcases Multiset.mem_cons.mp member with rfl | old
      · exact absurd (Hold.has_minding.mpr same) notAfter
      · exact Multiset.mem_cons_of_mem old
  | lift charge split same =>
      subst split
      rcases Multiset.mem_cons.mp member with rfl | old
      · exact absurd (charge ▸ Hold.has_minding.mpr rfl) notBefore
      · exact old
  | remove charge split =>
      subst split
      rcases Multiset.mem_cons.mp member with rfl | old
      · exact absurd (charge ▸ Hold.has_minding.mpr rfl) notBefore
      · exact old

/-- Who comes to have a token had nothing, and takes one that nobody minds or a new one. -/
theorem acquires {who : Who} {after : Multiset τ} {hold : Hold ι τ}
    (transfer : Transfer idOf kept fresh bag holds who after hold) {id : ι}
    (notBefore : ¬(holds who).Has idOf id) (has : hold.Has idOf id) : holds who = .nothing := by
  cases transfer with
  | same => exact absurd has notBefore
  | create free new absent unknown => exact free
  | put hand same loose => exact absurd has (Hold.not_has_nothing id)
  | store hand same keeps =>
      have token : idOf _ = id := Hold.has_minding.mp has
      rw [← same, token] at hand
      exact absurd (hand ▸ Hold.has_carrying.mpr rfl) notBefore
  | take free unminded split same => exact free
  | claim free unminded split same keeps => exact free
  | lift charge split same =>
      rw [Hold.has_carrying] at has
      exact absurd (charge ▸ Hold.has_minding.mpr (same.trans has)) notBefore
  | remove charge split => exact absurd has (Hold.not_has_nothing id)

/-- What is removed for good is gone. -/
theorem gone [DecidableEq Who] {token : τ} {rest : Multiset τ}
    (custody : Custody idOf kept (token ::ₘ rest) holds) {who : Who}
    (minds : holds who = .minding token) :
    idOf token ∉ rest.map idOf ∧
      ∀ other, ¬(Function.update holds who .nothing other).Has idOf (idOf token) := by
  have sole := custody.sole
  rw [Multiset.map_cons, Multiset.nodup_cons] at sole
  refine ⟨sole.1, fun other has => ?_⟩
  have mine : (holds who).Has idOf (idOf token) := by rw [minds]; exact Hold.has_minding.mpr rfl
  by_cases same : other = who
  · rw [same, Function.update_self] at has
    exact Hold.not_has_nothing _ has
  · rw [Function.update_of_ne same] at has
    exact custody.not_has mine same has

end Custody

/-! ## Tokens that are looked after -/

/-- Every token of the kind that may be in charge is in somebody's charge. -/
def Attended (kept : τ → Prop) (bag : Multiset τ) (holds : Who → Hold ι τ) : Prop :=
  ∀ token ∈ bag, kept token → ∃ who, (holds who).charge = some token

/-- **What is looked after stays so**, as long as nobody drops what they have. -/
theorem Attended.step [DecidableEq Who] {bag after : Multiset τ} {holds : Who → Hold ι τ}
    {who : Who} {hold : Hold ι τ} (attended : Attended kept bag holds)
    (custody : Custody idOf kept bag holds)
    (transfer : Transfer idOf kept fresh bag holds who after hold) :
    Attended kept after (Function.update holds who hold) := by
  -- What is not in the charge of the mover is still in that of another.
  have others : ∀ {token : τ}, token ∈ bag → kept token → (holds who).charge ≠ some token →
      ∃ other, (Function.update holds who hold other).charge = some token := by
    intro token member keeps notMine
    obtain ⟨other, minds⟩ := attended token member keeps
    refine ⟨other, ?_⟩
    rwa [Function.update_of_ne]
    rintro rfl
    exact notMine minds
  have mine : ∀ {token : τ}, hold.charge = some token →
      ∃ other, (Function.update holds who hold other).charge = some token :=
    fun minds => ⟨who, by rwa [Function.update_self]⟩
  intro token member keeps
  cases transfer with
  | same =>
      rw [Function.update_eq_self]
      exact attended token member keeps
  | create free new absent unknown => exact others member keeps (by rw [free]; exact nofun)
  | put hand same loose =>
      rcases Multiset.mem_cons.mp member with rfl | old
      · exact absurd keeps loose
      · exact others old keeps (by rw [hand]; exact nofun)
  | store hand same keepsNew =>
      rcases Multiset.mem_cons.mp member with rfl | old
      · exact mine rfl
      · exact others old keeps (by rw [hand]; exact nofun)
  | take free unminded split same =>
      subst split
      exact others (Multiset.mem_cons_of_mem member) keeps (by rw [free]; exact nofun)
  | claim free unminded split same keepsNew =>
      subst split
      rcases Multiset.mem_cons.mp member with rfl | old
      · exact mine rfl
      · exact others (Multiset.mem_cons_of_mem old) keeps (by rw [free]; exact nofun)
  | @lift _ lifted rest charge split same =>
      subst split
      refine others (Multiset.mem_cons_of_mem member) keeps fun minds => ?_
      rw [charge] at minds
      cases minds
      have sole := custody.sole
      rw [Multiset.map_cons, Multiset.nodup_cons] at sole
      exact sole.1 (Multiset.mem_map_of_mem idOf member)
  | @remove removed rest charge split =>
      subst split
      refine others (Multiset.mem_cons_of_mem member) keeps fun minds => ?_
      rw [charge] at minds
      cases minds
      have sole := custody.sole
      rw [Multiset.map_cons, Multiset.nodup_cons] at sole
      exact sole.1 (Multiset.mem_map_of_mem idOf member)

end AppointmentVoice.Concurrency
