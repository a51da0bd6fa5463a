import Mathlib
import FrameIngest.DataType

namespace FrameIngest.DataType

/-- The element type that the rows of a column of numbers or truth values have. -/
def element? (type : DataType) : Option Element :=
  match type.layout with
  | .numeric tag => some tag.element
  | .bool => some .u8
  | _ => none

variable {type : DataType} {element : Element}

theorem isFixedString_iff : type.isFixedString = true ↔ type.layout = .fixedString :=
  decide_eq_true_iff

theorem isDynamicString_iff : type.isDynamicString = true ↔ type.layout = .dynamicString :=
  decide_eq_true_iff

theorem isEmpty_iff : type.isEmpty = true ↔ type.layout = .empty :=
  decide_eq_true_iff

theorem element?_eq_some_iff : type.element? = some element ↔
    type.layout = .numeric ⟨type, element⟩ ∨ type.layout = .bool ∧ element = .u8 := by
  unfold element?
  cases stored : type.layout with
  | numeric tag =>
    obtain ⟨tagType, tagElement⟩ := tag
    cases type_of_layout_numeric stored
    simp
  | bool => simp [eq_comm]
  | fixedString | dynamicString | empty => simp

theorem element?_of_numeric {tag : StaticTag} (numbers : type.layout = .numeric tag) :
    type.element? = some tag.element := by
  rw [element?, numbers]

theorem element?_of_bool (bool : type.layout = .bool) : type.element? = some .u8 :=
  element?_eq_some_iff.2 (Or.inr ⟨bool, rfl⟩)

theorem element?_eq_none_iff : type.element? = none ↔
    type.isFixedString = true ∨ type.isDynamicString = true ∨ type.isEmpty = true := by
  rw [isFixedString_iff, isDynamicString_iff, isEmpty_iff]
  unfold element?
  cases type.layout <;> simp

theorem fixedWidth?_of_element? (elements : type.element? = some element) :
    type.fixedWidth? = some element.width := by
  rcases element?_eq_some_iff.1 elements with numeric | ⟨bool, rfl⟩
  · simp only [fixedWidth?, numeric]
  · simp only [fixedWidth?, bool]
    rfl

theorem isDynamicString_of_element? (elements : type.element? = some element) :
    type.isDynamicString = false := by
  by_contra pooled
  rw [element?_eq_none_iff.2 (.inr (.inl (by simpa using pooled)))] at elements
  cases elements

end FrameIngest.DataType
