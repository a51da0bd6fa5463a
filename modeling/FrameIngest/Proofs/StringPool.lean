import Mathlib
import FrameIngest.Bytes.LittleEndian.Lemmas
import FrameIngest.StringPool

namespace FrameIngest.StringPool

/-- The bytes of an entry: its length and its content. -/
def entrySize (content : List UInt8) : Nat := lengthWidth + content.length

/-- The bytes of all entries. -/
def totalSize (contents : List (List UInt8)) : Nat := (contents.map entrySize).sum

/-- The offset of a string among the strings of a pool: the entries before it. -/
def positionOf : List (List UInt8) → List UInt8 → Option Nat
  | [], _ => none
  | first :: rest, content =>
    if first = content then some 0 else (positionOf rest content).map (entrySize first + ·)

/-- The strings of a pool after one more was asked for. -/
def extend (contents : List (List UInt8)) (content : List UInt8) : List (List UInt8) :=
  if content ∈ contents then contents else contents ++ [content]

/-- A pool that holds these strings, added in this order. -/
structure Stores (pool : StringPool) (contents : List (List UInt8)) : Prop where
  entries : pool.storage.toList = contents.flatMap entryOf
  positions : ∀ content, pool.find? content = positionOf contents content

theorem length_entryOf (content : List UInt8) : (entryOf content).length = entrySize content := by
  rw [entryOf, List.length_append, LittleEndian.length_toBytes, entrySize]

theorem length_entries (contents : List (List UInt8)) :
    (contents.flatMap entryOf).length = totalSize contents := by
  simp only [List.length_flatMap, length_entryOf, totalSize]

theorem positionOf_eq_none_iff {contents : List (List UInt8)} {content : List UInt8} :
    positionOf contents content = none ↔ content ∉ contents := by
  induction contents with
  | nil => simp [positionOf]
  | cons first rest ih =>
    by_cases same : first = content
    · simp [positionOf, same]
    · simp [positionOf, same, ih, Ne.symm same]

/-- A string is found where it was, or among those behind. -/
theorem positionOf_append_eq (contents added : List (List UInt8)) (content : List UInt8) :
    positionOf (contents ++ added) content =
      (positionOf contents content).or
        ((positionOf added content).map (totalSize contents + ·)) := by
  induction contents with
  | nil => simp [positionOf, totalSize]
  | cons first rest ih =>
    rw [List.cons_append, positionOf, positionOf]
    split
    · rfl
    · rw [ih, Option.map_or, Option.map_map]
      congr 2
      funext behind
      simp only [Function.comp_apply, totalSize, List.map_cons, List.sum_cons, Nat.add_assoc]

theorem positionOf_append {contents : List (List UInt8)} {content : List UInt8} {offset : Nat}
    (found : positionOf contents content = some offset) (added : List (List UInt8)) :
    positionOf (contents ++ added) content = some offset := by
  rw [positionOf_append_eq, found, Option.some_or]

theorem positionOf_append_new {contents : List (List UInt8)} {content : List UInt8}
    (fresh : content ∉ contents) (other : List UInt8) :
    positionOf (contents ++ [content]) other =
      if content = other then some (totalSize contents) else positionOf contents other := by
  rw [positionOf_append_eq]
  by_cases asked : content = other
  · rw [if_pos asked, ← asked, positionOf_eq_none_iff.2 fresh]
    simp [positionOf]
  · simp [positionOf, asked]

/-- Different strings have different offsets. -/
theorem positionOf_inj {contents : List (List UInt8)} {content other : List UInt8} {offset : Nat}
    (found : positionOf contents content = some offset)
    (foundOther : positionOf contents other = some offset) : content = other := by
  induction contents generalizing offset with
  | nil => simp [positionOf] at found
  | cons first rest ih =>
    have positive : 0 < entrySize first := by simp [entrySize, lengthWidth]
    rw [positionOf] at found foundOther
    split at found <;> split at foundOther
    · rename_i same sameOther
      exact same.symm.trans sameOther
    · obtain ⟨behind, _, value⟩ := Option.map_eq_some_iff.1 foundOther
      cases found
      omega
    · obtain ⟨behind, _, value⟩ := Option.map_eq_some_iff.1 found
      cases foundOther
      omega
    · obtain ⟨behind, foundBehind, value⟩ := Option.map_eq_some_iff.1 found
      obtain ⟨otherBehind, foundOtherBehind, otherValue⟩ := Option.map_eq_some_iff.1 foundOther
      have same : behind = otherBehind := by omega
      exact ih foundBehind (same ▸ foundOtherBehind)

theorem entries_split {contents : List (List UInt8)} {content : List UInt8} {offset : Nat}
    (found : positionOf contents content = some offset) :
    ∃ before after, contents.flatMap entryOf = before ++ entryOf content ++ after ∧
      before.length = offset := by
  induction contents generalizing offset with
  | nil => simp [positionOf] at found
  | cons first rest ih =>
    rw [positionOf] at found
    split at found
    · rename_i same
      cases found
      exact ⟨[], rest.flatMap entryOf, by simp [same], rfl⟩
    · obtain ⟨behind, foundBehind, rfl⟩ := Option.map_eq_some_iff.1 found
      obtain ⟨before, after, split, length⟩ := ih foundBehind
      refine ⟨entryOf first ++ before, after, ?_, ?_⟩
      · simp only [List.flatMap_cons, split, List.append_assoc]
      · rw [List.length_append, length_entryOf, length]

theorem positionOf_lt {contents : List (List UInt8)} {content : List UInt8} {offset : Nat}
    (found : positionOf contents content = some offset) :
    offset + entrySize content ≤ totalSize contents := by
  obtain ⟨before, after, split, length⟩ := entries_split found
  have total := congrArg List.length split
  simp only [length_entries, List.length_append, length_entryOf, length] at total
  omega

theorem stores_empty : empty.Stores [] where
  entries := rfl
  positions content := by rw [find?_empty, positionOf]

namespace Stores

variable {pool : StringPool} {contents : List (List UInt8)}

theorem byteSize_eq (stores : pool.Stores contents) : pool.byteSize = totalSize contents := by
  rw [byteSize, ← Array.length_toList, stores.entries, length_entries]

/-- Adding a string extends the list by it if it is new, and the string is found afterwards. -/
theorem intern (stores : pool.Stores contents) (content : List UInt8) :
    (pool.intern content).2.Stores (extend contents content) ∧
      positionOf (extend contents content) content = some (pool.intern content).1.offset := by
  have position := stores.positions content
  rw [StringPool.intern]
  cases found : pool.find? content with
  | some offset =>
    have known : content ∈ contents := by
      by_contra absent
      rw [positionOf_eq_none_iff.2 absent, found] at position
      cases position
    rw [extend, if_pos known]
    exact ⟨stores, by rw [← position, found]⟩
  | none =>
    have fresh : content ∉ contents := positionOf_eq_none_iff.1 (position.symm.trans found)
    have size : pool.storage.size = totalSize contents := stores.byteSize_eq
    rw [extend, if_neg fresh, positionOf_append_new fresh, if_pos rfl, size]
    refine ⟨⟨?_, fun other => ?_⟩, rfl⟩
    · simp [add, stores.entries]
    · rw [find?_add, positionOf_append_new fresh, stores.positions, size]

/-- The entry of a string is found at its offset, as long as eight bytes can hold its length. -/
theorem entryAt_eq (stores : pool.Stores contents) {content : List UInt8} {offset : Nat}
    (found : positionOf contents content = some offset)
    (small : totalSize contents < UInt64.size) :
    entryAt pool.storage offset = some content := by
  obtain ⟨before, after, split, rfl⟩ := entries_split found
  have bound := positionOf_lt found
  have size := stores.byteSize_eq
  rw [byteSize] at size
  rw [entrySize] at bound
  rw [← stores.entries, List.append_assoc] at split
  have prefixWidth : (LittleEndian.toBytes lengthWidth content.length).length = lengthWidth :=
    LittleEndian.length_toBytes ..
  have atPrefix : window pool.storage before.length lengthWidth =
      LittleEndian.toBytes lengthWidth content.length := by
    have found := window_middle before (LittleEndian.toBytes lengthWidth content.length)
      (content ++ after) (by rw [split, entryOf, List.append_assoc])
    rwa [prefixWidth] at found
  have atContent : window pool.storage (before.length + lengthWidth) content.length = content := by
    have found := window_middle (before ++ LittleEndian.toBytes lengthWidth content.length)
      content after (by rw [split, entryOf]; simp only [List.append_assoc])
    rwa [List.length_append, prefixWidth] at found
  have fits : content.length < 256 ^ lengthWidth := by
    have limit : UInt64.size = 256 ^ lengthWidth := by decide
    omega
  simp only [entryAt, atPrefix, LittleEndian.ofBytes_toBytes fits, atContent]
  rw [if_pos (by omega), if_pos (by omega)]

theorem view_eq (stores : pool.Stores contents) {content : List UInt8} {offset : Nat}
    (found : positionOf contents content = some offset)
    (small : pool.byteSize < nanOffset) : pool.view offset = .ok content := by
  rw [stores.byteSize_eq] at small
  have bound := positionOf_lt found
  have missing : nanOffset < missingOffset := by decide
  have limit : nanOffset < UInt64.size := by decide
  have real : isString offset = true := by
    simp only [isString, decide_eq_true_eq]
    omega
  simp only [view, real, Bool.not_true, Bool.false_eq_true, if_false,
    stores.entryAt_eq found (by omega)]

end Stores

end FrameIngest.StringPool
