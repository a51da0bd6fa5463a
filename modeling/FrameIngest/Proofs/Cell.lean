import Mathlib
import FrameIngest.Proofs.StringPool

namespace FrameIngest

open StringPool

/-- Where one of two lists that are related item by item has an item, so has the other. -/
theorem exists_getElem?_of_forall₂ {α β : Type} {related : α → β → Prop} {items : List α}
    {others : List β} (each : List.Forall₂ related items others) {index : Nat} {item : α}
    (found : items[index]? = some item) :
    ∃ other, others[index]? = some other ∧ related item other := by
  obtain ⟨within, rfl⟩ := List.getElem?_eq_some_iff.1 found
  have bound : index < others.length := each.length_eq ▸ within
  exact ⟨_, List.getElem?_eq_getElem bound, each.get within bound⟩

/-- The string that a cell holds under an encoding. -/
def Cell.content? (encoding : StringEncoding) (cell : Cell) : Option (List UInt8) :=
  match cell.encode encoding with
  | .ok (.content text) => some text
  | _ => Option.none

/-- What is stored for a cell, among the strings of a pool. -/
def EncodedCell.offsetIn (contents : List (List UInt8)) : EncodedCell → Option Nat
  | .sentinel offset => some offset
  | .content bytes => positionOf contents bytes

/-- An offset that stands for a cell in a pool with these strings. -/
def Cell.StoredAs (encoding : StringEncoding) (contents : List (List UInt8)) (cell : Cell)
    (offset : Nat) : Prop :=
  ∃ encoded, cell.encode encoding = .ok encoded ∧ encoded.offsetIn contents = some offset

theorem EncodedCell.offsetIn_append {contents : List (List UInt8)} {encoded : EncodedCell}
    {offset : Nat} (found : encoded.offsetIn contents = some offset)
    (added : List (List UInt8)) : encoded.offsetIn (contents ++ added) = some offset := by
  cases encoded with
  | sentinel => exact found
  | content bytes => exact positionOf_append found added

theorem Cell.StoredAs.append {encoding : StringEncoding} {contents : List (List UInt8)}
    {cell : Cell} {offset : Nat} (stored : cell.StoredAs encoding contents offset)
    (added : List (List UInt8)) : cell.StoredAs encoding (contents ++ added) offset := by
  obtain ⟨encoded, encodes, found⟩ := stored
  exact ⟨encoded, encodes, encoded.offsetIn_append found added⟩

/-- Two cells that stand for the same, each under the encoding of its column. -/
def Cell.SameAs (encoding other : StringEncoding) (cell twin : Cell) : Prop :=
  cell = .none ∧ twin = .none ∨ cell = .nan ∧ twin = .nan ∨
    ∃ text, cell.encode encoding = .ok (.content text) ∧ twin.encode other = .ok (.content text)

theorem Cell.encode_cases {encoding : StringEncoding} {cell : Cell} {encoded : EncodedCell}
    (encodes : cell.encode encoding = .ok encoded) :
    cell = .none ∧ encoded = .sentinel missingOffset ∨
      cell = .nan ∧ encoded = .sentinel nanOffset ∨
      (cell ≠ .none ∧ cell ≠ .nan) ∧ ∃ text, encoded = .content text := by
  cases cell with
  | none =>
    cases encodes
    exact Or.inl ⟨rfl, rfl⟩
  | nan =>
    cases encodes
    exact Or.inr (Or.inl ⟨rfl, rfl⟩)
  | bytes content =>
    refine Or.inr (Or.inr ⟨⟨nofun, nofun⟩, ?_⟩)
    simp only [encode] at encodes
    split at encodes
    · cases encodes
      exact ⟨_, rfl⟩
    · split at encodes <;> cases encodes
      exact ⟨_, rfl⟩
  | wide codePoints =>
    refine Or.inr (Or.inr ⟨⟨nofun, nofun⟩, ?_⟩)
    simp only [encode, encodeWide] at encodes
    split at encodes
    · cases encodes
      exact ⟨_, rfl⟩
    · split at encodes
      · cases encodes
      · split at encodes <;> cases encodes
        exact ⟨_, rfl⟩

namespace Cell.StoredAs

variable {encoding other : StringEncoding} {contents : List (List UInt8)} {cell twin : Cell}
  {offset twinOffset : Nat}

/-- In a pool that is small enough no string has the offset of a missing value or a NaN. -/
theorem cases_of_small (stored : cell.StoredAs encoding contents offset)
    (small : totalSize contents < nanOffset) :
    cell = .none ∧ offset = missingOffset ∨ cell = .nan ∧ offset = nanOffset ∨
      (cell ≠ .none ∧ cell ≠ .nan) ∧ offset < nanOffset ∧ ∃ text,
        cell.encode encoding = .ok (.content text) ∧ positionOf contents text = some offset := by
  obtain ⟨encoded, encodes, found⟩ := stored
  rcases encode_cases encodes with ⟨absent, rfl⟩ | ⟨nan, rfl⟩ | ⟨real, text, rfl⟩
  · cases found
    exact Or.inl ⟨absent, rfl⟩
  · cases found
    exact Or.inr (Or.inl ⟨nan, rfl⟩)
  · have bound := positionOf_lt found
    exact Or.inr (Or.inr ⟨real, by omega, text, encodes, found⟩)

theorem content?_eq_none_iff (stored : cell.StoredAs encoding contents offset) :
    cell.content? encoding = Option.none ↔ cell = .none ∨ cell = .nan := by
  obtain ⟨encoded, encodes, _⟩ := stored
  rcases encode_cases encodes with ⟨absent, rfl⟩ | ⟨nan, rfl⟩ | ⟨⟨present, number⟩, text, rfl⟩
  · simp [content?, encode, absent]
  · simp [content?, encode, nan]
  · simp [content?, encodes, present, number]

theorem offset_lt (stored : cell.StoredAs encoding contents offset)
    (small : totalSize contents < nanOffset) : offset < 256 ^ stringOffsetWidth := by
  have limits : nanOffset < missingOffset ∧ missingOffset < 256 ^ stringOffsetWidth := by decide
  rcases stored.cases_of_small small with ⟨_, rfl⟩ | ⟨_, rfl⟩ | ⟨_, below, _⟩ <;> omega

/-- Cells share an offset exactly if they stand for the same. -/
theorem offset_eq_iff (stored : cell.StoredAs encoding contents offset)
    (twinStored : twin.StoredAs other contents twinOffset)
    (small : totalSize contents < nanOffset) :
    offset = twinOffset ↔ cell.SameAs encoding other twin := by
  have apart : nanOffset < missingOffset := by decide
  rcases stored.cases_of_small small with
    ⟨rfl, rfl⟩ | ⟨rfl, rfl⟩ | ⟨real, below, text, encodes, found⟩
  · rcases twinStored.cases_of_small small with ⟨rfl, rfl⟩ | ⟨rfl, rfl⟩ | ⟨real, below, _⟩
    · exact iff_of_true rfl (Or.inl ⟨rfl, rfl⟩)
    · exact iff_of_false (by omega) (by simp [SameAs, encode])
    · exact iff_of_false (by omega) (by simp [SameAs, encode, real])
  · rcases twinStored.cases_of_small small with ⟨rfl, rfl⟩ | ⟨rfl, rfl⟩ | ⟨real, below, _⟩
    · exact iff_of_false (by omega) (by simp [SameAs, encode])
    · exact iff_of_true rfl (Or.inr (Or.inl ⟨rfl, rfl⟩))
    · exact iff_of_false (by omega) (by simp [SameAs, encode, real])
  · rcases twinStored.cases_of_small small with
      ⟨rfl, rfl⟩ | ⟨rfl, rfl⟩ | ⟨_, _, twinText, twinEncodes, twinFound⟩
    · exact iff_of_false (by omega) (by simp [SameAs, encode, real])
    · exact iff_of_false (by omega) (by simp [SameAs, encode, real])
    · constructor
      · rintro rfl
        cases positionOf_inj found twinFound
        exact Or.inr (Or.inr ⟨text, encodes, twinEncodes⟩)
      · rintro (⟨absent, _⟩ | ⟨nan, _⟩ | ⟨shared, sharedEncodes, twinShared⟩)
        · exact absurd absent real.1
        · exact absurd nan real.2
        · rw [encodes] at sharedEncodes
          rw [twinEncodes] at twinShared
          cases sharedEncodes
          cases twinShared
          exact Option.some.inj (found.symm.trans twinFound)

end Cell.StoredAs

end FrameIngest
