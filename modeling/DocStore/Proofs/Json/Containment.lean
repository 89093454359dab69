import DocStore.Json.Containment
import DocStore.Proofs.Dict
import DocStore.Proofs.Json.Integral
import DocStore.Proofs.Json.Order

/-!
# Containment level by level

By the documentation of containment a scalar lies only in an equal scalar, except that an array as
a whole also contains the scalars among its items (`Documented`).  Here arrays contain the scalars
among their items at every level (`contains_iff_within`).  The two agree unless a scalar of the
inner value stands at the level of such an array below the whole outer value, and they agree for
every outer value just when the inner value has no scalar below its outermost level
(`contains_iff_documented_iff`).
-/

namespace DocStore
namespace Json

/-! ## Scalars -/

/-- Whether the value is neither an array nor an object. -/
def isScalar : Json → Bool
  | arr _ => false
  | obj _ => false
  | _ => true

/-- Equal scalars: integers and floats are compared by value, in units of the least positive
double-precision number. -/
def SameScalar : Json → Json → Prop
  | null, null => True
  | bool left, bool right => left = right
  | int left, int right => left = right
  | int left, float right => left * Binary64.unitsPerOne = right.units
  | float left, int right => left.units = right * Binary64.unitsPerOne
  | float left, float right => left.units = right.units
  | str left, str right => left = right
  | _, _ => False

theorem sameScalar_self {value : Json} (scalar : value.isScalar = true) :
    SameScalar value value := by
  cases value with
  | null => trivial
  | arr items => cases scalar
  | obj members => cases scalar
  | _ => rfl

theorem SameScalar.isScalar {left right : Json} (same : SameScalar left right) :
    left.isScalar = true ∧ right.isScalar = true := by
  cases left <;> cases right <;> first | exact ⟨rfl, rfl⟩ | cases same

/-- The value is an array with a scalar among its items. -/
def HoldsScalar (value : Json) : Prop :=
  ∃ items, value = arr items ∧ ∃ item ∈ items, item.isScalar = true

/-- The value is an array, and an item of it equals the scalar. -/
def Lists (outer scalar : Json) : Prop :=
  ∃ items, outer = arr items ∧ ∃ item ∈ items, SameScalar item scalar

theorem Lists.isScalar {outer inner : Json} (lists : Lists outer inner) :
    inner.isScalar = true := by
  obtain ⟨items, -, item, -, same⟩ := lists
  exact same.isScalar.2

theorem Lists.holdsScalar {outer inner : Json} (lists : Lists outer inner) :
    HoldsScalar outer := by
  obtain ⟨items, whole, item, member, same⟩ := lists
  exact ⟨items, whole, item, member, same.isScalar.1⟩

/-! ## Levels -/

/-- Some part of the value has the property that many levels below the whole. -/
def AtLevel (holds : Json → Prop) : Nat → Json → Prop
  | 0, value => holds value
  | level + 1, arr items => ∃ item ∈ items, AtLevel holds level item
  | level + 1, obj members => ∃ member ∈ members, AtLevel holds level member.2
  | _, _ => False

variable {holds : Json → Prop}

theorem not_atLevel_succ_of_isScalar {value : Json} (scalar : value.isScalar = true)
    (level : Nat) : ¬AtLevel holds (level + 1) value := by
  cases value with
  | arr items => cases scalar
  | obj members => cases scalar
  | _ => exact id

/-- A value whose members are in order and whose integers double precision tells apart. -/
structure Precise (value : Json) : Prop where
  ordered : value.Ordered
  integers : ∀ level n, AtLevel (· = int n) level value → Fits53 n

theorem Precise.item {items : List Json} (precise : Precise (arr items)) {item : Json}
    (member : item ∈ items) : Precise item where
  ordered := (orderedItems_iff items).1 precise.ordered item member
  integers level n found := precise.integers (level + 1) n ⟨item, member, found⟩

theorem Precise.member {members : List (String × Json)} (precise : Precise (obj members))
    {entry : String × Json} (member : entry ∈ members) : Precise entry.2 where
  ordered := (orderedMembers_iff members).1 precise.ordered.2 entry member
  integers level n found := precise.integers (level + 1) n ⟨entry, member, found⟩

/-- Values whose numbers are integers of at most `2 ^ 53` are precise. -/
theorem Precise.of_integral {value : Json} (integral : Integral Fits53 value)
    (ordered : value.Ordered) : Precise value := by
  refine ⟨ordered, fun level n found => ?_⟩
  induction level generalizing value with
  | zero =>
    cases found
    exact integral
  | succ level ih =>
    cases value with
    | arr items =>
      obtain ⟨item, member, below⟩ := found
      exact ih ((integralItems_iff _ items).1 integral item member)
        ((orderedItems_iff items).1 ordered item member) below
    | obj members =>
      obtain ⟨entry, member, below⟩ := found
      exact ih ((integralMembers_iff _ members).1 integral entry member)
        ((orderedMembers_iff members).1 ordered.2 entry member) below
    | _ => cases found

/-- Fields that are scalars are equal as numbers by value. -/
theorem equal_iff_sameScalar {left right : Json} (leftPrecise : Precise left)
    (rightPrecise : Precise right) (scalar : right.isScalar = true) :
    equal (some left) (some right) = true ↔ SameScalar left right := by
  have leftFits := leftPrecise.integers 0
  have rightFits := rightPrecise.integers 0
  cases left with
  | int m =>
    have fits : Fits53 m := leftFits m rfl
    cases right with
    | int n =>
      have otherFits : Fits53 n := rightFits n rfl
      simp only [equal, toBinary64?, Binary64.same, beq_iff_eq, SameScalar]
      exact ⟨Binary64.units_ofInt_inj fits otherFits, fun same => by rw [same]⟩
    | float y =>
      simp only [equal, toBinary64?, Binary64.same, beq_iff_eq, SameScalar,
        Binary64.units_ofInt fits]
    | _ => simp [equal, toBinary64?, same, SameScalar]
  | float x =>
    cases right with
    | int n =>
      have otherFits : Fits53 n := rightFits n rfl
      simp only [equal, toBinary64?, Binary64.same, beq_iff_eq, SameScalar,
        Binary64.units_ofInt otherFits]
    | float y => simp [equal, toBinary64?, Binary64.same, SameScalar]
    | _ => simp [equal, toBinary64?, same, SameScalar]
  | _ =>
    cases right with
    | arr items => cases scalar
    | obj members => cases scalar
    | _ => simp [equal, toBinary64?, same, SameScalar]

/-! ## Within a value -/

mutual

/-- The inner value lies in the outer one: members under their names, items in some item, scalars
in equal scalars and, if so everywhere, in arrays that list them. -/
def Within (everywhere : Bool) : Json → Json → Prop
  | arr wanted, outer => ∃ items, outer = arr items ∧ ItemsWithin everywhere wanted items
  | obj wanted, outer => ∃ members, outer = obj members ∧ MembersWithin everywhere wanted members
  | scalar, outer => SameScalar outer scalar ∨ everywhere = true ∧ Lists outer scalar

/-- Every wanted item lies in some item. -/
def ItemsWithin (everywhere : Bool) : List Json → List Json → Prop
  | [], _ => True
  | inner :: rest, items =>
    (∃ item ∈ items, Within everywhere inner item) ∧ ItemsWithin everywhere rest items

/-- Every wanted member lies in the member of its name. -/
def MembersWithin (everywhere : Bool) : List (String × Json) → List (String × Json) → Prop
  | [], _ => True
  | (name, inner) :: rest, members =>
    (∃ outer, Assoc.find? name members = some outer ∧ Within everywhere inner outer) ∧
      MembersWithin everywhere rest members

end

/-- Containment as it is documented: arrays contain the scalars that they list as a whole, but not
inside other values. -/
def Documented (outer inner : Json) : Prop := Within false inner outer ∨ Lists outer inner

variable {everywhere : Bool}

theorem itemsWithin_iff (wanted items : List Json) :
    ItemsWithin everywhere wanted items ↔
      ∀ inner ∈ wanted, ∃ item ∈ items, Within everywhere inner item := by
  induction wanted with
  | nil => simp [ItemsWithin]
  | cons inner rest ih => simp [ItemsWithin, ih]

theorem membersWithin_iff (wanted members : List (String × Json)) :
    MembersWithin everywhere wanted members ↔ ∀ entry ∈ wanted,
      ∃ outer, Assoc.find? entry.1 members = some outer ∧ Within everywhere entry.2 outer := by
  induction wanted with
  | nil => simp [MembersWithin]
  | cons entry rest ih => simp [MembersWithin, ih]

theorem within_arr_iff {wanted : List Json} {outer : Json} :
    Within everywhere (arr wanted) outer ↔ ∃ items, outer = arr items ∧
      ∀ inner ∈ wanted, ∃ item ∈ items, Within everywhere inner item := by
  simp only [Within, itemsWithin_iff]

theorem within_obj_iff {wanted : List (String × Json)} {outer : Json} :
    Within everywhere (obj wanted) outer ↔ ∃ members, outer = obj members ∧ ∀ entry ∈ wanted,
      ∃ value, Assoc.find? entry.1 members = some value ∧ Within everywhere entry.2 value := by
  simp only [Within, membersWithin_iff]

theorem within_scalar_iff {inner : Json} (scalar : inner.isScalar = true) {outer : Json} :
    Within everywhere inner outer ↔
      SameScalar outer inner ∨ everywhere = true ∧ Lists outer inner := by
  cases inner with
  | arr items => cases scalar
  | obj members => cases scalar
  | _ => rfl

/-! ## What containment is -/

theorem itemsContainedIn_iff (wanted items : List Json) :
    itemsContainedIn wanted items = true ↔
      ∀ inner ∈ wanted, ∃ item ∈ items, containedIn inner item = true := by
  induction wanted with
  | nil => simp [itemsContainedIn]
  | cons inner rest ih => simp [itemsContainedIn, ih]

theorem membersContainedIn_iff (wanted members : List (String × Json)) :
    membersContainedIn wanted members = true ↔ ∀ entry ∈ wanted,
      ∃ outer, Assoc.find? entry.1 members = some outer ∧ containedIn entry.2 outer = true := by
  induction wanted with
  | nil => simp [membersContainedIn]
  | cons entry rest ih =>
    obtain ⟨name, inner⟩ := entry
    cases found : Assoc.find? name members <;> simp [membersContainedIn, ih, found]

theorem containedIn_arr_of_isScalar {inner : Json} (scalar : inner.isScalar = true)
    (items : List Json) :
    containedIn inner (arr items) = items.any fun item => equal (some item) (some inner) := by
  cases inner with
  | arr wanted => cases scalar
  | obj wanted => cases scalar
  | _ => rw [containedIn] <;> simp

theorem containedIn_of_isScalar {inner outer : Json} (scalar : inner.isScalar = true)
    (notArray : ∀ items, outer ≠ arr items) :
    containedIn inner outer = equal (some outer) (some inner) := by
  cases inner with
  | arr wanted => cases scalar
  | obj wanted => cases scalar
  | _ => rw [containedIn] <;> simp [notArray]

theorem containedIn_scalar_iff {inner outer : Json} (scalar : inner.isScalar = true)
    (innerPrecise : Precise inner) (outerPrecise : Precise outer) :
    containedIn inner outer = true ↔ SameScalar outer inner ∨ Lists outer inner := by
  cases outer with
  | arr items =>
    have apart : ¬SameScalar (arr items) inner := fun same => Bool.false_ne_true same.isScalar.1
    rw [containedIn_arr_of_isScalar scalar, List.any_eq_true, or_iff_right apart]
    constructor
    · rintro ⟨item, member, equals⟩
      exact ⟨items, rfl, item, member,
        (equal_iff_sameScalar (outerPrecise.item member) innerPrecise scalar).1 equals⟩
    · rintro ⟨_, ⟨⟩, item, member, same⟩
      exact ⟨item, member,
        (equal_iff_sameScalar (outerPrecise.item member) innerPrecise scalar).2 same⟩
  | _ =>
    have unlisted : ∀ {value}, (∀ items, value ≠ arr items) → ¬Lists value inner := by
      rintro value notArray ⟨items, whole, -⟩
      exact notArray items whole
    rw [containedIn_of_isScalar scalar (fun _ => Json.noConfusion),
      equal_iff_sameScalar outerPrecise innerPrecise scalar,
      or_iff_left (unlisted fun _ => Json.noConfusion)]

theorem containedIn_arr_iff {wanted : List Json} {outer : Json} :
    containedIn (arr wanted) outer = true ↔ ∃ items, outer = arr items ∧
      ∀ inner ∈ wanted, ∃ item ∈ items, containedIn inner item = true := by
  cases outer with
  | arr items => simp [containedIn, itemsContainedIn_iff]
  | _ => simp [containedIn, equal, toBinary64?, same]

theorem containedIn_obj_iff {wanted : List (String × Json)} {outer : Json} :
    containedIn (obj wanted) outer = true ↔ ∃ members, outer = obj members ∧ ∀ entry ∈ wanted,
      ∃ value, Assoc.find? entry.1 members = some value ∧ containedIn entry.2 value = true := by
  cases outer with
  | obj members => simp [containedIn, membersContainedIn_iff]
  | _ => simp [containedIn, equal, toBinary64?, same]

/-- Arrays contain the scalars that they list at every level. -/
theorem contains_iff_within {inner outer : Json} (innerPrecise : Precise inner)
    (outerPrecise : Precise outer) : contains outer inner = true ↔ Within true inner outer := by
  show containedIn inner outer = true ↔ _
  induction inner generalizing outer with
  | arr wanted ih =>
    rw [containedIn_arr_iff, within_arr_iff]
    refine exists_congr fun items => and_congr_right ?_
    rintro rfl
    refine forall₂_congr fun inner wants => exists_congr fun item => ?_
    refine and_congr_right fun member => ?_
    exact ih inner wants (innerPrecise.item wants) (outerPrecise.item member)
  | obj wanted ih =>
    rw [containedIn_obj_iff, within_obj_iff]
    refine exists_congr fun members => and_congr_right ?_
    rintro rfl
    refine forall₂_congr fun entry wants => exists_congr fun value => ?_
    refine and_congr_right fun found => ?_
    have present := Assoc.mem_of_find? found
    exact ih entry wants (innerPrecise.member wants) (outerPrecise.member present)
  | _ =>
    rw [containedIn_scalar_iff rfl innerPrecise outerPrecise, within_scalar_iff rfl]
    simp

/-! ## Where the two agree -/

/-- At a level there are a scalar of the inner value and an array of the outer one that holds
scalars. -/
def Mixed (level : Nat) (inner outer : Json) : Prop :=
  AtLevel (isScalar · = true) level inner ∧ AtLevel HoldsScalar level outer

/-- Only where a level is mixed does it matter whether arrays contain scalars. -/
theorem Within.change {elsewhere : Bool} {inner outer : Json}
    (needed : ∀ level, Mixed level inner outer → elsewhere = true)
    (within : Within everywhere inner outer) : Within elsewhere inner outer := by
  induction inner generalizing outer with
  | arr wanted ih =>
    obtain ⟨items, rfl, each⟩ := within_arr_iff.1 within
    refine within_arr_iff.2 ⟨items, rfl, fun inner wants => ?_⟩
    obtain ⟨item, member, inside⟩ := each inner wants
    refine ⟨item, member, ih inner wants (fun level mixed => needed (level + 1) ?_) inside⟩
    exact ⟨⟨inner, wants, mixed.1⟩, ⟨item, member, mixed.2⟩⟩
  | obj wanted ih =>
    obtain ⟨members, rfl, each⟩ := within_obj_iff.1 within
    refine within_obj_iff.2 ⟨members, rfl, fun entry wants => ?_⟩
    obtain ⟨value, found, inside⟩ := each entry wants
    refine ⟨value, found, ih entry wants (fun level mixed => needed (level + 1) ?_) inside⟩
    exact ⟨⟨entry, wants, mixed.1⟩, ⟨_, Assoc.mem_of_find? found, mixed.2⟩⟩
  | _ =>
    refine (within_scalar_iff rfl).2 (((within_scalar_iff rfl).1 within).imp_right ?_)
    rintro ⟨-, lists⟩
    exact ⟨needed 0 ⟨rfl, lists.holdsScalar⟩, lists⟩

theorem Documented.within {inner outer : Json} (documented : Documented outer inner) :
    Within true inner outer := by
  rcases documented with within | lists
  · exact within.change fun _ _ => rfl
  · exact (within_scalar_iff lists.isScalar).2 (.inr ⟨rfl, lists⟩)

/-- The outermost level may be mixed. -/
theorem documented_of_within {inner outer : Json}
    (apart : ∀ level, ¬Mixed (level + 1) inner outer) (within : Within everywhere inner outer) :
    Documented outer inner := by
  cases scalar : inner.isScalar with
  | true =>
    refine ((within_scalar_iff scalar).1 within).imp (fun same => ?_) (·.2)
    exact (within_scalar_iff scalar).2 (.inl same)
  | false =>
    refine .inl (within.change fun level mixed => False.elim ?_)
    cases level with
    | zero => exact Bool.false_ne_true (scalar.symm.trans mixed.1)
    | succ level => exact apart level mixed

/-! ## Where they differ -/

mutual

/-- The value with every scalar in brackets. -/
def bracketed : Json → Json
  | arr items => arr (bracketedItems items)
  | obj members => obj (bracketedMembers members)
  | scalar => arr [scalar]

/-- The items with every scalar in brackets. -/
def bracketedItems : List Json → List Json
  | [] => []
  | item :: rest => bracketed item :: bracketedItems rest

/-- The members with every scalar in brackets. -/
def bracketedMembers : List (String × Json) → List (String × Json)
  | [] => []
  | (name, value) :: rest => (name, bracketed value) :: bracketedMembers rest

end

theorem bracketedItems_eq_map (items : List Json) : bracketedItems items = items.map bracketed := by
  induction items with
  | nil => rfl
  | cons item rest ih => simp [bracketedItems, ih]

theorem bracketedMembers_eq_map (members : List (String × Json)) :
    bracketedMembers members = members.map fun entry => (entry.1, bracketed entry.2) := by
  induction members with
  | nil => rfl
  | cons entry rest ih => simp [bracketedMembers, ih]

theorem bracketed_of_isScalar {value : Json} (scalar : value.isScalar = true) :
    bracketed value = arr [value] := by
  cases value with
  | arr items => cases scalar
  | obj members => cases scalar
  | _ => rfl

theorem isScalar_bracketed (value : Json) : (bracketed value).isScalar = false := by
  cases value <;> rfl

theorem sorted_bracketedMembers {members : List (String × Json)} (sorted : Assoc.Sorted members) :
    Assoc.Sorted (bracketedMembers members) := by
  rw [bracketedMembers_eq_map, Assoc.Sorted, List.pairwise_map]
  exact sorted

theorem ordered_bracketed {value : Json} (ordered : value.Ordered) : (bracketed value).Ordered := by
  induction value with
  | arr items ih =>
    have each := (orderedItems_iff items).1 ordered
    rw [bracketed, bracketedItems_eq_map, Ordered, orderedItems_iff, List.forall_mem_map]
    exact fun item member => ih item member (each item member)
  | obj members ih =>
    have each := (orderedMembers_iff members).1 ordered.2
    refine ⟨sorted_bracketedMembers ordered.1, ?_⟩
    rw [bracketedMembers_eq_map, orderedMembers_iff, List.forall_mem_map]
    exact fun entry member => ih entry member (each entry member)
  | _ => exact ⟨trivial, trivial⟩

/-- The scalars stand one level deeper. -/
theorem atLevel_bracketed {level : Nat} {value : Json}
    (scalars : ∀ part, holds part → part.isScalar = true)
    (found : AtLevel holds level (bracketed value)) :
    ∃ above, level = above + 1 ∧ AtLevel holds above value := by
  induction level generalizing value with
  | zero =>
    have scalar := scalars _ found
    rw [isScalar_bracketed] at scalar
    cases scalar
  | succ level ih =>
    cases scalar : value.isScalar with
    | true =>
      rw [bracketed_of_isScalar scalar] at found
      obtain ⟨item, member, below⟩ := found
      rw [List.mem_singleton.1 member] at below
      exact ⟨level, rfl, below⟩
    | false =>
      cases value with
      | arr items =>
        rw [bracketed, bracketedItems_eq_map] at found
        obtain ⟨_, member, below⟩ := found
        obtain ⟨item, origin, rfl⟩ := List.mem_map.1 member
        obtain ⟨above, rfl, inside⟩ := ih below
        exact ⟨above + 1, rfl, item, origin, inside⟩
      | obj members =>
        rw [bracketed, bracketedMembers_eq_map] at found
        obtain ⟨_, member, below⟩ := found
        obtain ⟨entry, origin, rfl⟩ := List.mem_map.1 member
        obtain ⟨above, rfl, inside⟩ := ih below
        exact ⟨above + 1, rfl, entry, origin, inside⟩
      | _ => cases scalar

theorem precise_bracketed {value : Json} (precise : Precise value) : Precise (bracketed value) := by
  refine ⟨ordered_bracketed precise.ordered, fun level n found => ?_⟩
  have scalars : ∀ part, part = int n → part.isScalar = true := by
    rintro _ rfl
    rfl
  obtain ⟨above, -, inside⟩ := atLevel_bracketed scalars found
  exact precise.integers above n inside

/-- Arrays that list scalars everywhere contain what the brackets were put into. -/
theorem within_bracketed {inner : Json} (ordered : inner.Ordered) :
    Within true inner (bracketed inner) := by
  induction inner with
  | arr wanted ih =>
    have each := (orderedItems_iff wanted).1 ordered
    refine within_arr_iff.2 ⟨_, rfl, fun inner wants => ?_⟩
    rw [bracketedItems_eq_map]
    exact ⟨_, List.mem_map_of_mem wants, ih inner wants (each inner wants)⟩
  | obj wanted ih =>
    have each := (orderedMembers_iff wanted).1 ordered.2
    refine within_obj_iff.2 ⟨_, rfl, fun entry wants => ?_⟩
    refine ⟨bracketed entry.2, ?_, ih entry wants (each entry wants)⟩
    rw [Assoc.find?_eq_some_iff (sorted_bracketedMembers ordered.1), bracketedMembers_eq_map]
    exact List.mem_map_of_mem wants
  | _ =>
    refine (within_scalar_iff rfl).2 (.inr ⟨rfl, _, rfl, _, List.mem_singleton_self _, ?_⟩)
    exact sameScalar_self rfl

/-- Where arrays contain no scalars, a scalar lies in a scalar of its own level. -/
theorem atLevel_of_within {level : Nat} {inner outer : Json} (within : Within false inner outer)
    (found : AtLevel (isScalar · = true) level inner) :
    AtLevel (isScalar · = true) level outer := by
  induction level generalizing inner outer with
  | zero =>
    rcases (within_scalar_iff found).1 within with same | ⟨never, -⟩
    · exact same.isScalar.1
    · cases never
  | succ level ih =>
    cases inner with
    | arr wanted =>
      obtain ⟨items, rfl, each⟩ := within_arr_iff.1 within
      obtain ⟨inner, wants, below⟩ := found
      obtain ⟨item, member, inside⟩ := each inner wants
      exact ⟨item, member, ih inside below⟩
    | obj wanted =>
      obtain ⟨members, rfl, each⟩ := within_obj_iff.1 within
      obtain ⟨entry, wants, below⟩ := found
      obtain ⟨value, present, inside⟩ := each entry wants
      exact ⟨_, Assoc.mem_of_find? present, ih inside below⟩
    | _ => cases found

/-- A value with a scalar below its outermost level does not lie in its bracketed form, as the
documentation has it: the scalar would have to stand one level higher as well. -/
theorem not_documented_bracketed {level : Nat} {inner : Json}
    (found : AtLevel (isScalar · = true) (level + 1) inner) :
    ¬Documented (bracketed inner) inner := by
  rintro (within | lists)
  · have higher : ∀ level, AtLevel (isScalar · = true) level inner →
        ∃ above, level = above + 1 ∧ AtLevel (isScalar · = true) above inner := fun _ stands =>
      atLevel_bracketed (fun _ => id) (atLevel_of_within within stands)
    -- Level by level up to the outermost one, which is no scalar.
    induction level with
    | zero =>
      obtain ⟨_, ⟨⟩, inside⟩ := higher _ found
      exact not_atLevel_succ_of_isScalar inside 0 found
    | succ level ih =>
      obtain ⟨_, ⟨⟩, inside⟩ := higher _ found
      exact ih inside
  · exact not_atLevel_succ_of_isScalar lists.isScalar level found

/-! ## Containment and its documentation -/

/-- Containment takes arrays to contain the scalars that they list at every level.  So it accepts
what is documented, and nothing else unless a level below the outermost one is mixed; and it is as
documented for every outer value just when the inner value has no scalar below its outermost
level. -/
theorem contains_iff_documented_iff {inner : Json} (precise : Precise inner) :
    (∀ outer, Precise outer →
      (contains outer inner = true ↔ Within true inner outer) ∧
      (Documented outer inner → contains outer inner = true) ∧
      ((∀ level, ¬Mixed (level + 1) inner outer) →
        (contains outer inner = true ↔ Documented outer inner))) ∧
    ((∀ outer, Precise outer → (contains outer inner = true ↔ Documented outer inner)) ↔
      ∀ level, ¬AtLevel (isScalar · = true) (level + 1) inner) := by
  have general : ∀ outer, Precise outer → (∀ level, ¬Mixed (level + 1) inner outer) →
      (contains outer inner = true ↔ Documented outer inner) := by
    intro outer outerPrecise apart
    rw [contains_iff_within precise outerPrecise]
    exact ⟨documented_of_within apart, Documented.within⟩
  refine ⟨fun outer outerPrecise => ⟨contains_iff_within precise outerPrecise, fun documented => ?_,
    general outer outerPrecise⟩, fun agree level found => ?_, fun flat outer outerPrecise => ?_⟩
  · exact (contains_iff_within precise outerPrecise).2 documented.within
  · have outerPrecise := precise_bracketed precise
    refine not_documented_bracketed found ((agree _ outerPrecise).1 ?_)
    exact (contains_iff_within precise outerPrecise).2 (within_bracketed precise.ordered)
  · exact general outer outerPrecise fun level mixed => flat level mixed.1

/-- Nested values whose arrays hold objects and arrays only. -/
theorem contains_iff_documented_iff_nested :
    let outer : Json := obj [("a", arr [obj [("b", int 1), ("c", str "x")], arr []]), ("d", null)]
    let inner : Json := obj [("a", arr [obj [("b", int 1)]])]
    Precise inner ∧ Precise outer ∧ (∀ level, ¬Mixed (level + 1) inner outer) ∧
      contains outer inner = true ∧ Documented outer inner := by
  intro outer inner
  have precise : Precise inner := .of_integral (by decide) (by decide)
  have outerPrecise : Precise outer := .of_integral (by decide) (by decide)
  have apart : ∀ level, ¬Mixed (level + 1) inner outer := by
    rintro level ⟨-, array⟩
    rcases level with _ | _ | _ | level <;> simp [outer, AtLevel, HoldsScalar, isScalar] at array
  have contained : contains outer inner = true := by decide +kernel
  obtain ⟨-, -, agree⟩ := (contains_iff_documented_iff precise).1 outer outerPrecise
  exact ⟨precise, outerPrecise, apart, contained, (agree apart).1 contained⟩

/-- An array of an array contains the scalar of the inner one in an array, which the documentation
does not have. -/
theorem bracketed_text_contained :
    contains (arr [arr [str "x"]]) (arr [str "x"]) = true ∧
      ¬Documented (arr [arr [str "x"]]) (arr [str "x"]) := by
  refine ⟨rfl, ?_⟩
  exact @not_documented_bracketed 0 (arr [str "x"]) ⟨_, List.mem_singleton_self _, rfl⟩

end Json
end DocStore
