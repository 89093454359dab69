import Mathlib.Algebra.Group.Int.Defs
import DocStore.Json.Basic

/-!
# Values without floats

What is true of a value and of everything inside it is defined along the value.  Here it is
said with the members of lists: a list of items is ordered if every item is, and so on.
-/

namespace DocStore
namespace Json

/-- Induction over values: what holds of the items of an array and of the members of an
object holds of the whole. -/
@[induction_eliminator]
theorem inductionOn {motive : Json → Prop} (null : motive null)
    (bool : ∀ value, motive (bool value)) (int : ∀ value, motive (int value))
    (float : ∀ value, motive (float value)) (str : ∀ text, motive (str text))
    (arr : ∀ items, (∀ item ∈ items, motive item) → motive (arr items))
    (obj : ∀ members, (∀ member ∈ members, motive member.2) → motive (obj members)) :
    ∀ value, motive value
  | .null => null
  | .bool value => bool value
  | .int value => int value
  | .float value => float value
  | .str text => str text
  | .arr items => arr items fun item _ => inductionOn null bool int float str arr obj item
  | .obj members =>
    obj members fun member _ => inductionOn null bool int float str arr obj member.2
termination_by value => sizeOf value
decreasing_by
  · have smaller : sizeOf item < sizeOf items := List.sizeOf_lt_of_mem ‹_›
    simp only [Json.arr.sizeOf_spec]
    omega
  · have smaller : sizeOf member < sizeOf members := List.sizeOf_lt_of_mem ‹_›
    have part : sizeOf member.2 < sizeOf member := by
      cases member
      simp only [Prod.mk.sizeOf_spec]
      omega
    simp only [Json.obj.sizeOf_spec]
    omega

mutual

/-- The value holds no float, and the integers in it fit. -/
def Integral (fits : Int → Prop) : Json → Prop
  | int value => fits value
  | float _ => False
  | arr items => IntegralItems fits items
  | obj members => IntegralMembers fits members
  | _ => True

/-- Every item is integral. -/
def IntegralItems (fits : Int → Prop) : List Json → Prop
  | [] => True
  | item :: rest => Integral fits item ∧ IntegralItems fits rest

/-- Every member's value is integral. -/
def IntegralMembers (fits : Int → Prop) : List (String × Json) → Prop
  | [] => True
  | (_, value) :: rest => Integral fits value ∧ IntegralMembers fits rest

end

mutual

/-- Whether the value is integral can be found out. -/
def decideIntegral (fits : Int → Prop) [DecidablePred fits] :
    (value : Json) → Decidable (Integral fits value)
  | null => .isTrue trivial
  | bool _ => .isTrue trivial
  | int value => inferInstanceAs (Decidable (fits value))
  | float _ => .isFalse id
  | str _ => .isTrue trivial
  | arr items => decideIntegralItems fits items
  | obj members => decideIntegralMembers fits members

/-- Whether every item is integral can be found out. -/
def decideIntegralItems (fits : Int → Prop) [DecidablePred fits] :
    (items : List Json) → Decidable (IntegralItems fits items)
  | [] => .isTrue trivial
  | item :: rest => @instDecidableAnd _ _ (decideIntegral fits item) (decideIntegralItems fits rest)

/-- Whether every member's value is integral can be found out. -/
def decideIntegralMembers (fits : Int → Prop) [DecidablePred fits] :
    (members : List (String × Json)) → Decidable (IntegralMembers fits members)
  | [] => .isTrue trivial
  | (_, value) :: rest =>
    @instDecidableAnd _ _ (decideIntegral fits value) (decideIntegralMembers fits rest)

end

mutual

/-- Whether the value is ordered can be found out. -/
def decideOrdered : (value : Json) → Decidable (Ordered value)
  | null => .isTrue trivial
  | bool _ => .isTrue trivial
  | int _ => .isTrue trivial
  | float _ => .isTrue trivial
  | str _ => .isTrue trivial
  | arr items => decideOrderedItems items
  | obj members =>
    @instDecidableAnd _ _ (inferInstanceAs (Decidable (List.Pairwise _ _)))
      (decideOrderedMembers members)

/-- Whether every item is ordered can be found out. -/
def decideOrderedItems : (items : List Json) → Decidable (OrderedItems items)
  | [] => .isTrue trivial
  | item :: rest => @instDecidableAnd _ _ (decideOrdered item) (decideOrderedItems rest)

/-- Whether every member's value is ordered can be found out. -/
def decideOrderedMembers : (members : List (String × Json)) → Decidable (OrderedMembers members)
  | [] => .isTrue trivial
  | (_, value) :: rest => @instDecidableAnd _ _ (decideOrdered value) (decideOrderedMembers rest)

end

instance (fits : Int → Prop) [DecidablePred fits] : DecidablePred (Integral fits) :=
  decideIntegral fits

instance : DecidablePred Ordered := decideOrdered

/-- The integers that JSON text can carry: signed or unsigned ones of 64 bits. -/
def Fits64 (value : Int) : Prop := -2 ^ 63 ≤ value ∧ value < 2 ^ 64

instance : DecidablePred Fits64 := fun value =>
  inferInstanceAs (Decidable (-2 ^ 63 ≤ value ∧ value < 2 ^ 64))

/-- The integers that double precision tells apart. -/
def Fits53 (value : Int) : Prop := -2 ^ 53 ≤ value ∧ value ≤ 2 ^ 53

instance : DecidablePred Fits53 := fun value =>
  inferInstanceAs (Decidable (-2 ^ 53 ≤ value ∧ value ≤ 2 ^ 53))

theorem Fits53.fits64 {value : Int} (fits : Fits53 value) : Fits64 value := by
  obtain ⟨low, high⟩ := fits
  constructor <;> omega

/-! ## Lists of items and members -/

theorem integralItems_iff (fits : Int → Prop) (items : List Json) :
    IntegralItems fits items ↔ ∀ item ∈ items, Integral fits item := by
  induction items with
  | nil => simp [IntegralItems]
  | cons item rest ih => simp [IntegralItems, ih]

theorem integralMembers_iff (fits : Int → Prop) (members : List (String × Json)) :
    IntegralMembers fits members ↔ ∀ member ∈ members, Integral fits member.2 := by
  induction members with
  | nil => simp [IntegralMembers]
  | cons member rest ih => simp [IntegralMembers, ih]

theorem orderedItems_iff (items : List Json) :
    OrderedItems items ↔ ∀ item ∈ items, Ordered item := by
  induction items with
  | nil => simp [OrderedItems]
  | cons item rest ih => simp [OrderedItems, ih]

theorem orderedMembers_iff (members : List (String × Json)) :
    OrderedMembers members ↔ ∀ member ∈ members, Ordered member.2 := by
  induction members with
  | nil => simp [OrderedMembers]
  | cons member rest ih => simp [OrderedMembers, ih]

theorem depthItems_le_iff (bound : Nat) (items : List Json) :
    depthItems items ≤ bound ↔ ∀ item ∈ items, depth item ≤ bound := by
  induction items with
  | nil => simp [depthItems]
  | cons item rest ih => rw [depthItems, Nat.max_le, ih, List.forall_mem_cons]

theorem depthMembers_le_iff (bound : Nat) (members : List (String × Json)) :
    depthMembers members ≤ bound ↔ ∀ member ∈ members, depth member.2 ≤ bound := by
  induction members with
  | nil => simp [depthMembers]
  | cons member rest ih => rw [depthMembers, Nat.max_le, ih, List.forall_mem_cons]

/-! ## Fewer integers -/

/-- What holds of the integers that fit holds of those in an integral value. -/
theorem Integral.mono {few many : Int → Prop} (weaker : ∀ value, few value → many value)
    {value : Json} (integral : Integral few value) : Integral many value := by
  induction value with
  | null => trivial
  | bool value => trivial
  | int value => exact weaker value integral
  | float value => exact integral
  | str text => trivial
  | arr items ih =>
    rw [Integral, integralItems_iff] at integral ⊢
    exact fun item member => ih item member (integral item member)
  | obj members ih =>
    rw [Integral, integralMembers_iff] at integral ⊢
    exact fun entry member => ih entry member (integral entry member)

end Json
end DocStore
