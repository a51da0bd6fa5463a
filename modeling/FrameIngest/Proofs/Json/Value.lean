import Mathlib
import FrameIngest.Proofs.Json.Number
import FrameIngest.Json.Value

namespace FrameIngest.Json.Value

/-- A value or a value inside of it. -/
inductive IsPartOf : Value → Value → Prop
  | self (value : Value) : IsPartOf value value
  | item {part item : Value} {items : List Value} :
      item ∈ items → IsPartOf part item → IsPartOf part (.array items)
  | member {part : Value} {member : String × Value} {members : List (String × Value)} :
      member ∈ members → IsPartOf part member.2 → IsPartOf part (.object members)

/-- What holds of all numbers in the value. -/
def EachNumber (holds : Number → Prop) (value : Value) : Prop :=
  ∀ number, (Value.number number).IsPartOf value → holds number

/-- All numbers in the value are whole. -/
def IsWhole (value : Value) : Prop :=
  value.EachNumber Number.IsWhole

/-- All whole numbers in the value have 64 bits. -/
def Fits (value : Value) : Prop :=
  value.EachNumber Number.Fits

/-- The keys of the members ascend, so that each is there once. -/
def AreOrdered (members : List (String × Value)) : Prop :=
  members.Pairwise fun member other => member.1 < other.1

/-- The keys of all objects in the value ascend. -/
def IsOrdered (value : Value) : Prop :=
  ∀ members, (Value.object members).IsPartOf value → AreOrdered members

mutual

/-- How many brackets are open around the innermost part of a value. -/
def depth : Value → Nat
  | .array items => depthOfItems items + 1
  | .object members => depthOfMembers members + 1
  | .null => 0
  | .bool _ => 0
  | .number _ => 0
  | .string _ => 0

def depthOfItems : List Value → Nat
  | [] => 0
  | item :: items => max (depth item) (depthOfItems items)

def depthOfMembers : List (String × Value) → Nat
  | [] => 0
  | (_, value) :: members => max (depth value) (depthOfMembers members)

end

mutual

/-- What holds of arrays and objects if it holds of what is in them holds of all values. -/
@[elab_as_elim]
theorem partsInduction {motive : Value → Prop} (null : motive .null)
    (bool : ∀ value, motive (.bool value)) (number : ∀ value, motive (.number value))
    (string : ∀ text, motive (.string text))
    (array : ∀ items, (∀ item ∈ items, motive item) → motive (.array items))
    (object : ∀ members, (∀ member ∈ members, motive member.2) → motive (.object members)) :
    ∀ value, motive value
  | .null => null
  | .bool value => bool value
  | .number value => number value
  | .string text => string text
  | .array items => array items (partsInductionItems null bool number string array object items)
  | .object members =>
    object members (partsInductionMembers null bool number string array object members)

theorem partsInductionItems {motive : Value → Prop} (null : motive .null)
    (bool : ∀ value, motive (.bool value)) (number : ∀ value, motive (.number value))
    (string : ∀ text, motive (.string text))
    (array : ∀ items, (∀ item ∈ items, motive item) → motive (.array items))
    (object : ∀ members, (∀ member ∈ members, motive member.2) → motive (.object members)) :
    ∀ items : List Value, ∀ item ∈ items, motive item
  | [] => by nofun
  | first :: items => List.forall_mem_cons.2
    ⟨partsInduction null bool number string array object first,
      partsInductionItems null bool number string array object items⟩

theorem partsInductionMembers {motive : Value → Prop} (null : motive .null)
    (bool : ∀ value, motive (.bool value)) (number : ∀ value, motive (.number value))
    (string : ∀ text, motive (.string text))
    (array : ∀ items, (∀ item ∈ items, motive item) → motive (.array items))
    (object : ∀ members, (∀ member ∈ members, motive member.2) → motive (.object members)) :
    ∀ members : List (String × Value), ∀ member ∈ members, motive member.2
  | [] => by nofun
  | (_, value) :: members => List.forall_mem_cons.2
    ⟨partsInduction null bool number string array object value,
      partsInductionMembers null bool number string array object members⟩

end

theorem isPartOf_array {part : Value} {items : List Value} :
    part.IsPartOf (.array items) ↔ part = .array items ∨ ∃ item ∈ items, part.IsPartOf item := by
  constructor
  · rintro (_ | ⟨member, within⟩)
    · exact Or.inl rfl
    · exact Or.inr ⟨_, member, within⟩
  · rintro (rfl | ⟨item, member, within⟩)
    · exact .self _
    · exact .item member within

theorem isPartOf_object {part : Value} {members : List (String × Value)} :
    part.IsPartOf (.object members) ↔
      part = .object members ∨ ∃ member ∈ members, part.IsPartOf member.2 := by
  constructor
  · rintro (_ | _ | ⟨member, within⟩)
    · exact Or.inl rfl
    · exact Or.inr ⟨_, member, within⟩
  · rintro (rfl | ⟨member, isMember, within⟩)
    · exact .self _
    · exact .member isMember within

section EachNumber

variable {holds : Number → Prop}

@[simp] theorem eachNumber_null : Value.null.EachNumber holds :=
  fun _ within => by cases within

@[simp] theorem eachNumber_bool (value : Bool) : (Value.bool value).EachNumber holds :=
  fun _ within => by cases within

@[simp] theorem eachNumber_string (text : String) : (Value.string text).EachNumber holds :=
  fun _ within => by cases within

@[simp] theorem eachNumber_number {number : Number} :
    (Value.number number).EachNumber holds ↔ holds number :=
  ⟨fun each => each number (.self _), fun own _ within => by cases within; exact own⟩

@[simp] theorem eachNumber_array {items : List Value} :
    (Value.array items).EachNumber holds ↔ ∀ item ∈ items, item.EachNumber holds := by
  simp only [EachNumber, isPartOf_array]
  constructor
  · exact fun each item member number within => each number (.inr ⟨item, member, within⟩)
  · rintro each number (same | ⟨item, member, within⟩)
    · cases same
    · exact each item member number within

@[simp] theorem eachNumber_object {members : List (String × Value)} :
    (Value.object members).EachNumber holds ↔ ∀ member ∈ members, member.2.EachNumber holds := by
  simp only [EachNumber, isPartOf_object]
  constructor
  · exact fun each member isMember number within => each number (.inr ⟨member, isMember, within⟩)
  · rintro each number (same | ⟨member, isMember, within⟩)
    · cases same
    · exact each member isMember number within

end EachNumber

theorem depthOfItems_le_iff {items : List Value} {bound : Nat} :
    depthOfItems items ≤ bound ↔ ∀ item ∈ items, item.depth ≤ bound := by
  induction items with
  | nil => simp [depthOfItems]
  | cons item items ih => rw [depthOfItems, max_le_iff, List.forall_mem_cons, ih]

theorem depthOfMembers_le_iff {members : List (String × Value)} {bound : Nat} :
    depthOfMembers members ≤ bound ↔ ∀ member ∈ members, member.2.depth ≤ bound := by
  induction members with
  | nil => simp [depthOfMembers]
  | cons member members ih => rw [depthOfMembers, max_le_iff, List.forall_mem_cons, ih]

theorem canonicalItems_eq_map (items : List Value) :
    canonicalItems items = items.map canonical := by
  induction items with
  | nil => rfl
  | cons item items ih => rw [canonicalItems, ih, List.map_cons]

theorem mem_insertMember {key : String} {value : Value} {placed : List (String × Value)}
    {member : String × Value} (inserted : member ∈ insertMember key value placed) :
    member = (key, value) ∨ member ∈ placed := by
  induction placed with
  | nil => exact Or.inl (List.mem_singleton.1 inserted)
  | cons first placed ih =>
    rw [insertMember] at inserted
    split at inserted
    · exact List.mem_cons.1 inserted
    split at inserted
    · rcases List.mem_cons.1 inserted with same | later
      · exact Or.inl same
      · exact Or.inr (List.mem_cons_of_mem _ later)
    · rcases List.mem_cons.1 inserted with rfl | later
      · exact Or.inr List.mem_cons_self
      · exact (ih later).imp_right (List.mem_cons_of_mem _)

theorem areOrdered_insertMember {placed : List (String × Value)} (ordered : AreOrdered placed)
    (key : String) (value : Value) : AreOrdered (insertMember key value placed) := by
  induction placed with
  | nil => exact List.pairwise_singleton ..
  | cons first placed ih =>
    have split := List.pairwise_cons.1 ordered
    rw [insertMember]
    split_ifs with before same
    · refine List.pairwise_cons.2 ⟨fun member isMember => ?_, ordered⟩
      rcases List.mem_cons.1 isMember with rfl | later
      · exact before
      · exact before.trans (split.1 member later)
    · refine List.pairwise_cons.2 ⟨fun member isMember => ?_, split.2⟩
      rw [same]
      exact split.1 member isMember
    · refine List.pairwise_cons.2 ⟨fun member isMember => ?_, ih split.2⟩
      rcases mem_insertMember isMember with rfl | later
      · exact lt_of_le_of_ne (not_lt.1 before) (Ne.symm same)
      · exact split.1 member later

/-- A member behind all others is put at the end. -/
theorem insertMember_of_behind {placed : List (String × Value)} {key : String}
    (behind : ∀ member ∈ placed, member.1 < key) (value : Value) :
    insertMember key value placed = placed ++ [(key, value)] := by
  induction placed with
  | nil => rfl
  | cons first placed ih =>
    have after := behind first List.mem_cons_self
    rw [insertMember, if_neg after.asymm, if_neg after.ne', List.cons_append,
      ih fun member isMember => behind member (List.mem_cons_of_mem _ isMember)]

theorem mem_canonicalMembers {members placed : List (String × Value)} {member : String × Value}
    (isMember : member ∈ canonicalMembers members placed) :
    member ∈ placed ∨ ∃ source ∈ members, member = (source.1, source.2.canonical) := by
  induction members generalizing placed with
  | nil => exact Or.inl isMember
  | cons first members ih =>
    rcases ih isMember with inPlace | ⟨source, isSource, same⟩
    · rcases mem_insertMember inPlace with same | before
      · exact Or.inr ⟨first, List.mem_cons_self, same⟩
      · exact Or.inl before
    · exact Or.inr ⟨source, List.mem_cons_of_mem _ isSource, same⟩

theorem areOrdered_canonicalMembers {placed : List (String × Value)} (ordered : AreOrdered placed)
    (members : List (String × Value)) : AreOrdered (canonicalMembers members placed) := by
  induction members generalizing placed with
  | nil => exact ordered
  | cons first members ih => exact ih (areOrdered_insertMember ordered ..)

theorem canonicalMembers_eq {members placed : List (String × Value)}
    (ordered : AreOrdered (placed ++ members))
    (same : ∀ member ∈ members, member.2.canonical = member.2) :
    canonicalMembers members placed = placed ++ members := by
  induction members generalizing placed with
  | nil => exact (List.append_nil placed).symm
  | cons first members ih =>
    have behind : ∀ member ∈ placed, member.1 < first.1 := fun member isMember =>
      (List.pairwise_append.1 ordered).2.2 member isMember first List.mem_cons_self
    rw [List.append_cons] at ordered ⊢
    rw [canonicalMembers, same first List.mem_cons_self, insertMember_of_behind behind,
      ih ordered fun member isMember => same member (List.mem_cons_of_mem _ isMember)]

theorem canonical_eq_null {value : Value} (null : value.canonical = .null) : value = .null := by
  cases value <;> cases null
  rfl

/-- A value whose keys ascend is in canonical form. -/
theorem canonical_eq {value : Value} (ordered : value.IsOrdered) : value.canonical = value := by
  induction value using partsInduction with
  | null => rfl
  | bool => rfl
  | number => rfl
  | string => rfl
  | array items ih =>
    have same : ∀ item ∈ items, item.canonical = id item := fun item member =>
      ih item member fun members within => ordered members (.item member within)
    rw [canonical, canonicalItems_eq_map, List.map_congr_left same, List.map_id]
  | object members ih =>
    have same : ∀ member ∈ members, member.2.canonical = member.2 := fun member isMember =>
      ih member isMember fun inner within => ordered inner (.member isMember within)
    have own : AreOrdered ([] ++ members) := ordered members (.self _)
    rw [canonical, canonicalMembers_eq own same, List.nil_append]

/-- In canonical form keys ascend. -/
theorem isOrdered_canonical (value : Value) : value.canonical.IsOrdered := by
  induction value using partsInduction with
  | null => intro members within; cases within
  | bool => intro members within; cases within
  | number => intro members within; cases within
  | string => intro members within; cases within
  | array items ih =>
    intro members within
    rw [canonical, isPartOf_array] at within
    rcases within with same | ⟨item, isItem, within⟩
    · cases same
    · rw [canonicalItems_eq_map] at isItem
      obtain ⟨source, isSource, rfl⟩ := List.mem_map.1 isItem
      exact ih source isSource members within
  | object members ih =>
    intro inner within
    rw [canonical, isPartOf_object] at within
    rcases within with same | ⟨member, isMember, within⟩
    · cases same
      exact areOrdered_canonicalMembers .nil members
    · rcases mem_canonicalMembers isMember with nothing | ⟨source, isSource, rfl⟩
      · cases nothing
      · exact ih source isSource inner within

/-- The canonical form has no other numbers. -/
theorem isPartOf_of_canonical {number : Number} {value : Value}
    (within : (Value.number number).IsPartOf value.canonical) :
    (Value.number number).IsPartOf value := by
  induction value using partsInduction with
  | null => exact within
  | bool => exact within
  | number => exact within
  | string => exact within
  | array items ih =>
    rw [canonical, isPartOf_array] at within
    rcases within with same | ⟨item, isItem, within⟩
    · cases same
    · rw [canonicalItems_eq_map] at isItem
      obtain ⟨source, isSource, rfl⟩ := List.mem_map.1 isItem
      exact .item isSource (ih source isSource within)
  | object members ih =>
    rw [canonical, isPartOf_object] at within
    rcases within with same | ⟨member, isMember, within⟩
    · cases same
    · rcases mem_canonicalMembers isMember with nothing | ⟨source, isSource, rfl⟩
      · cases nothing
      · exact .member isSource (ih source isSource within)

/-- The canonical form lies no deeper. -/
theorem depth_canonical_le (value : Value) : value.canonical.depth ≤ value.depth := by
  induction value using partsInduction with
  | null => exact Nat.le_refl _
  | bool => exact Nat.le_refl _
  | number => exact Nat.le_refl _
  | string => exact Nat.le_refl _
  | array items ih =>
    have all := depthOfItems_le_iff.1 (Nat.le_refl (depthOfItems items))
    rw [canonical, depth, depth, canonicalItems_eq_map]
    refine Nat.succ_le_succ (depthOfItems_le_iff.2 fun item isItem => ?_)
    obtain ⟨source, isSource, rfl⟩ := List.mem_map.1 isItem
    exact (ih source isSource).trans (all source isSource)
  | object members ih =>
    have all := depthOfMembers_le_iff.1 (Nat.le_refl (depthOfMembers members))
    rw [canonical, depth, depth]
    refine Nat.succ_le_succ (depthOfMembers_le_iff.2 fun member isMember => ?_)
    rcases mem_canonicalMembers isMember with nothing | ⟨source, isSource, rfl⟩
    · cases nothing
    · exact (ih source isSource).trans (all source isSource)

end FrameIngest.Json.Value
