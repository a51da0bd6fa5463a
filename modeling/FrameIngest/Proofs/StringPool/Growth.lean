import Mathlib
import FrameIngest.Proofs.StringPool.History

namespace FrameIngest.StringPool

/-- The strings among those asked for that a pool does not have, each once, in the order in which
they are asked for first. -/
def newStrings (pool : StringPool) (asked : List (List UInt8)) : List (List UInt8) :=
  (asked.filter fun content => (pool.find? content).isNone).eraseDups

/-- A pool after strings that it did not have were added behind its entries, in this order. -/
structure Grows (pool : StringPool) (added : List (List UInt8)) (after : StringPool) : Prop where
  entries : after.storage.toList = pool.storage.toList ++ added.flatMap entryOf
  kept : ∀ content offset, pool.find? content = some offset → after.find? content = some offset
  fresh : ∀ content, pool.find? content = none →
    after.find? content = (positionOf added content).map (pool.byteSize + ·)

theorem extend_append {contents : List (List UInt8)} {content : List UInt8}
    (fresh : content ∉ contents) (added : List (List UInt8)) :
    extend (contents ++ added) content = contents ++ extend added content := by
  unfold extend
  by_cases known : content ∈ added
  · rw [if_pos (List.mem_append_right contents known), if_pos known]
  · rw [if_neg (by simp [fresh, known]), if_neg known, List.append_assoc]

/-- What the pool does not have already is added in the order of the first requests. -/
theorem foldl_extend (contents asked : List (List UInt8)) :
    asked.foldl extend contents =
      contents ++ (asked.filter fun content => content ∉ contents).eraseDups := by
  induction asked using List.reverseRecOn with
  | nil => rw [List.filter_nil, List.eraseDups_nil, List.append_nil, List.foldl_nil]
  | append_singleton asked content ih =>
    rw [List.foldl_concat, ih, List.filter_append]
    by_cases known : content ∈ contents
    · rw [extend, if_pos (List.mem_append_left _ known)]
      simp [known]
    · rw [extend_append known, extend_eraseDups]
      simp [known]

variable {pool after : StringPool} {contents : List (List UInt8)}

theorem Stores.newStrings_eq (stores : pool.Stores contents) (asked : List (List UInt8)) :
    pool.newStrings asked = (asked.filter fun content => content ∉ contents).eraseDups := by
  unfold newStrings
  congr 1
  refine List.filter_congr fun content _ => ?_
  rw [stores.positions, Bool.eq_iff_iff, Option.isNone_iff_eq_none, positionOf_eq_none_iff,
    decide_eq_true_iff]

theorem Stores.grows (stores : pool.Stores contents) {asked : List (List UInt8)}
    (extended : after.Stores (asked.foldl extend contents)) :
    pool.Grows (pool.newStrings asked) after := by
  rw [foldl_extend, ← stores.newStrings_eq] at extended
  refine ⟨?_, ?_, ?_⟩
  · rw [extended.entries, List.flatMap_append, stores.entries]
  · intro content offset found
    rw [stores.positions] at found
    rw [extended.positions, positionOf_append found]
  · intro content absent
    rw [stores.positions] at absent
    rw [extended.positions, positionOf_append_eq, absent, Option.none_or, stores.byteSize_eq]

end FrameIngest.StringPool
