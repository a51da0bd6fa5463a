import Mathlib
import FrameIngest.Proofs.Json.Readers

namespace FrameIngest.Json

variable {α σ : Type}

/-- Written members fill a draft one after the other, each in the slot of its name. -/
inductive Fills (slots : List (Slot σ)) (depth : Nat) : List (String × Value) → σ → σ → Prop
  | done (draft : σ) : Fills slots depth [] draft draft
  | member {name : String} {value : Value} {members : List (String × Value)} {slot : Slot σ}
      {draft next last : σ} :
      slots.find? (·.name == name) = some slot → slot.isFilled draft = false →
      (∀ ⦃reading⦄, depth ≤ reading.depth →
        slot.fill reading (Node.ofValue value) draft = .ok next) →
      Fills slots depth members next last → Fills slots depth ((name, value) :: members) draft last

namespace Fills

variable {slots : List (Slot σ)} {depth : Nat} {members : List (String × Value)} {draft last : σ}

/-- A member that a reader reads into the part of the draft that `set` sets. -/
theorem read {name : String} {reader : Reader α} {get : σ → Option α} {set : σ → Option α → σ}
    {value : Value} {result : α}
    (found : slots.find? (·.name == name) = some (.ofReader name reader get set))
    (blank : get draft = none) (reads : reader.Reads depth value result)
    (rest : Fills slots depth members (set draft (some result)) last) :
    Fills slots depth ((name, value) :: members) draft last := by
  refine .member found (by simp [Slot.ofReader, blank]) (fun reading deep => ?_) rest
  simp only [Slot.ofReader, reads deep]
  rfl

theorem fillByName_eq (fills : Fills slots depth members draft last) {reading : Reading}
    (deep : depth ≤ reading.depth) :
    Shape.fillByName slots reading (.ofMembers members) draft = .ok last := by
  induction fills with
  | done => rfl
  | @member name value members slot draft next last found empty filled rest ih =>
    have slotFor : Shape.slotFor slots name draft = .ok (some slot) := by
      rw [Shape.slotFor, found]
      simp only [empty]
      rfl
    rw [Members.ofMembers, Shape.fillByName, Literal.text_ofString]
    simp only [liftFault, Except.mapError, bind, Except.bind, slotFor, filled deep, ih]

end Fills

namespace Shape

variable {shape : Shape σ α} {depth : Nat} {members : List (String × Value)} {draft : σ}
  {record : α}

/-- A record is read from members that fill a draft of it. -/
theorem ofMembers_eq (fills : Fills shape.slots depth members shape.blank draft)
    (complete : shape.complete draft = .ok record) {reading : Reading}
    (deep : depth ≤ reading.depth) : shape.ofMembers reading (.ofMembers members) = .ok record := by
  rw [ofMembers, fills.fillByName_eq deep]
  simp only [bind, Except.bind, complete]
  rfl

theorem reads_object (fills : Fills shape.slots depth members shape.blank draft)
    (complete : shape.complete draft = .ok record) :
    shape.reader.Reads (depth + 1) (.object members) record := by
  intro reading deep
  obtain ⟨entered, inside⟩ := Reading.enter_of_lt deep
  rw [Node.ofValue, reader, entered]
  exact ofMembers_eq fills complete inside

end Shape

/-- No slot breaks what holds of a draft. -/
def Keeps (slots : List (Slot σ)) (reading : Reading) (holds : σ → Prop) : Prop :=
  ∀ slot ∈ slots, ∀ node draft next,
    holds draft → slot.fill reading node draft = .ok next → holds next

namespace Shape

variable {slots : List (Slot σ)} {reading : Reading} {holds : σ → Prop}

theorem fillByName_keeps (keeps : Keeps slots reading holds) :
    ∀ (members : Members) {draft last : σ},
      holds draft → fillByName slots reading members draft = .ok last → holds last
  | .close, draft, last, before, read => by
    cases read
    exact before
  | .member key node rest, draft, last, before, read => by
    obtain ⟨name, -, read⟩ := bind_eq_ok_iff.1 read
    obtain ⟨slot?, found, read⟩ := bind_eq_ok_iff.1 read
    cases slot? with
    | none =>
      obtain ⟨_, -, read⟩ := bind_eq_ok_iff.1 read
      exact fillByName_keeps keeps rest before read
    | some slot =>
      obtain ⟨next, filled, read⟩ := bind_eq_ok_iff.1 read
      have member : slot ∈ slots := by
        rw [slotFor] at found
        split at found
        · cases found
        · rename_i named
          split at found
          · cases found
          · cases found
            exact List.mem_of_find?_eq_some named
      exact fillByName_keeps keeps rest (keeps slot member node draft next before filled) read
  | .bareKey key fault, draft, last, before, read => by
    obtain ⟨name, -, read⟩ := bind_eq_ok_iff.1 read
    obtain ⟨_, -, read⟩ := bind_eq_ok_iff.1 read
    cases read

theorem fillInOrder_keeps (keeps : Keeps slots reading holds) {items : Items} {draft : σ}
    {result : σ × Items} (before : holds draft)
    (read : fillInOrder reading slots items draft = .ok result) : holds result.1 := by
  induction slots generalizing items draft with
  | nil =>
    cases read
    exact before
  | cons slot slots ih =>
    obtain ⟨next?, found, read⟩ := bind_eq_ok_iff.1 read
    cases next? with
    | none =>
      cases read
      exact before
    | some next =>
      obtain ⟨after, filled, read⟩ := bind_eq_ok_iff.1 read
      exact ih (fun slot member => keeps slot (List.mem_cons_of_mem _ member))
        (keeps slot List.mem_cons_self next.1 draft after before filled) read

/-- Every record that is read completes a draft of which holds what no slot breaks. -/
theorem exists_draft {shape : Shape σ α} {node : Node} {record : α}
    (keeps : Keeps shape.slots reading.inner holds) (blank : holds shape.blank)
    (read : shape.reader reading node = .ok record) :
    ∃ draft, holds draft ∧ shape.complete draft = .ok record := by
  rw [reader.eq_def] at read
  split at read
  · obtain ⟨inside, entered, read⟩ := bind_eq_ok_iff.1 read
    obtain ⟨-, rfl⟩ := Reading.enter_eq_ok_iff.1 entered
    obtain ⟨⟨draft, rest⟩, filled, read⟩ := bind_eq_ok_iff.1 read
    refine ⟨draft, fillInOrder_keeps keeps blank filled, ?_⟩
    dsimp only at read
    split at read
    · rename_i complete
      obtain ⟨-, -, read⟩ := bind_eq_ok_iff.1 read
      cases read
      exact complete
    · cases read
  · obtain ⟨inside, entered, read⟩ := bind_eq_ok_iff.1 read
    obtain ⟨-, rfl⟩ := Reading.enter_eq_ok_iff.1 entered
    obtain ⟨draft, filled, read⟩ := bind_eq_ok_iff.1 read
    refine ⟨draft, fillByName_keeps keeps _ blank filled, ?_⟩
    split at read
    · rename_i complete
      cases read
      exact complete
    · cases read
  · obtain ⟨found, -, read⟩ := bind_eq_ok_iff.1 read
    cases read

end Shape

namespace Tagged

variable {name : String} {variants : List (String × α)} {members : List (String × Value)}

/-- Members of other names are left, if they can be read at all. -/
theorem takeTag_ofMembers {reading : Reading} (found : Option α)
    (others : ∀ member ∈ members, member.1 ≠ name)
    (readable : ∀ member ∈ members,
      (Node.ofValue member.2).value reading = .ok member.2) :
    takeTag name variants reading (.ofMembers members) found = .ok (found, .ofMembers members) := by
  induction members with
  | nil => rfl
  | cons member members ih =>
    rw [Members.ofMembers, takeTag, Literal.text_ofString]
    simp only [liftFault, Except.mapError, bind, Except.bind,
      if_neg (others member List.mem_cons_self), readable member List.mem_cons_self,
      ih (fun member isMember => others member (List.mem_cons_of_mem _ isMember))
        (fun member isMember => readable member (List.mem_cons_of_mem _ isMember))]
    rfl

/-- A tag that is written first is taken, and all other members are left. -/
theorem reader_object {title tag : String} {variant : α} {reading : Reading}
    (named : variantNamed variants tag = .ok variant)
    (others : ∀ member ∈ members, member.1 ≠ name)
    (whole : (Value.object ((name, .string tag) :: members)).IsWhole)
    (fits : (Value.object ((name, .string tag) :: members)).Fits)
    (deep : (Value.object ((name, .string tag) :: members)).depth ≤ reading.depth) :
    Tagged.reader name title variants reading
        (Node.ofValue (.object ((name, .string tag) :: members))) =
      .ok ({ reading.inner with again := true }, .inMembers variant (.ofMembers members)) := by
  rw [Value.depth] at deep
  obtain ⟨entered, inside⟩ := Reading.enter_of_lt deep
  have shallow := Value.depthOfMembers_le_iff.1 inside
  have readable : ∀ member ∈ members,
      (Node.ofValue member.2).value reading.inner = .ok member.2 := fun member isMember =>
    Node.value_ofValue (Value.eachNumber_object.1 whole member (List.mem_cons_of_mem _ isMember))
      (Value.eachNumber_object.1 fits member (List.mem_cons_of_mem _ isMember))
      (shallow member (List.mem_cons_of_mem _ isMember))
  have tagged := Reader.reads_tag named (Nat.zero_le reading.inner.depth)
  have taken : takeTag name variants reading.inner (.ofMembers members) (some variant) =
      .ok (some variant, .ofMembers members) :=
    takeTag_ofMembers (some variant) others readable
  rw [Node.ofValue, Tagged.reader, entered]
  rw [Members.ofMembers]
  simp only [bind, Except.bind, takeTag, Literal.text_ofString, liftFault, Except.mapError,
    tagged, taken]
  rfl

end Tagged

end FrameIngest.Json
