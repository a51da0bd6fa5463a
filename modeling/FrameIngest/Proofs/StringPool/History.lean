import Mathlib
import FrameIngest.Proofs.StringPool

namespace FrameIngest.StringPool

/-- A new pool after it was asked for strings, the first one first. -/
def ofHistory (asked : List (List UInt8)) : StringPool :=
  asked.foldl (fun pool content => (pool.intern content).2) empty

/-- What a new pool returns for a string after it was asked for others. -/
def answer (before : List (List UInt8)) (content : List UInt8) : Interned :=
  ((ofHistory before).intern content).1

/-- One of the entries that a pool knows of has this content, as its bytes tell. -/
def HasEntry (pool : StringPool) (content : List UInt8) (offset : Nat) : Prop :=
  offset ∈ pool.positions.toList.map Prod.snd ∧ entryAt pool.storage offset = some content

section Contents

variable {pool : StringPool} {contents : List (List UInt8)} {content : List UInt8}

theorem nodup_extend (distinct : contents.Nodup) (content : List UInt8) :
    (extend contents content).Nodup := by
  unfold extend
  split
  · exact distinct
  · rename_i fresh
    rw [← List.concat_eq_append]
    exact distinct.concat fresh

theorem extend_eraseDups (asked : List (List UInt8)) (content : List UInt8) :
    extend asked.eraseDups content = (asked ++ [content]).eraseDups := by
  rw [List.eraseDups_append, extend]
  by_cases known : content ∈ asked
  · have nothing : [content].removeAll asked = [] := by simp [List.removeAll, known]
    rw [if_pos (List.mem_eraseDups.2 known), nothing]
    exact (List.append_nil _).symm
  · have rest : [content].removeAll asked = [content] := by simp [List.removeAll, known]
    rw [if_neg (mt List.mem_eraseDups.1 known), rest]
    rfl

theorem nodup_eraseDups (asked : List (List UInt8)) : asked.eraseDups.Nodup := by
  induction asked using List.reverseRecOn with
  | nil => exact List.nodup_nil
  | append_singleton asked content ih =>
    rw [← extend_eraseDups]
    exact nodup_extend ih content

theorem Stores.find?_eq_some_iff (stores : pool.Stores contents) {offset : Nat} :
    pool.find? content = some offset ↔ positionOf contents content = some offset := by
  rw [stores.positions]

/-- The pool counts its strings. -/
theorem Stores.size_eq (stores : pool.Stores contents) (distinct : contents.Nodup) :
    pool.size = contents.length := by
  have known (content : List UInt8) : content ∈ pool.positions.keys ↔ content ∈ contents := by
    have position := stores.positions content
    rw [Std.TreeMap.mem_keys, Std.TreeMap.mem_iff_isSome_getElem?, ← not_iff_not,
      ← positionOf_eq_none_iff, ← position, find?, Bool.not_eq_true, Option.isSome_eq_false_iff,
      Option.isNone_iff_eq_none]
  have same : pool.positions.keys.Perm contents :=
    (List.perm_ext_iff_of_nodup Std.TreeMap.nodup_keys distinct).2 known
  rw [size, ← Std.TreeMap.length_keys, same.length_eq]

/-- The bytes of the entries tell the same as the index. -/
theorem Stores.hasEntry_iff (stores : pool.Stores contents)
    (small : totalSize contents < UInt64.size) {offset : Nat} :
    pool.HasEntry content offset ↔ pool.find? content = some offset := by
  constructor
  · rintro ⟨known, bytes⟩
    obtain ⟨⟨other, _⟩, member, rfl⟩ := List.mem_map.1 known
    have found := Std.TreeMap.mem_toList_iff_getElem?_eq_some.1 member
    have entry := stores.entryAt_eq (stores.find?_eq_some_iff.1 found) small
    rw [bytes] at entry
    cases entry
    exact found
  · intro found
    have member := Std.TreeMap.mem_toList_iff_getElem?_eq_some.2 found
    exact ⟨List.mem_map.2 ⟨_, member, rfl⟩,
      stores.entryAt_eq (stores.find?_eq_some_iff.1 found) small⟩

end Contents

theorem ofHistory_concat (asked : List (List UInt8)) (content : List UInt8) :
    ofHistory (asked ++ [content]) = ((ofHistory asked).intern content).2 := by
  rw [ofHistory, List.foldl_append]
  rfl

/-- After any calls the pool holds each string that was asked for once, in the order of the first
calls. -/
theorem stores_ofHistory (asked : List (List UInt8)) :
    (ofHistory asked).Stores asked.eraseDups := by
  induction asked using List.reverseRecOn with
  | nil => exact stores_empty
  | append_singleton asked content ih =>
    rw [ofHistory_concat, ← extend_eraseDups]
    exact (ih.intern content).1

/-- A call that finds nothing adds an entry behind all others. -/
theorem answer_cases (before : List (List UInt8)) (content : List UInt8) :
    content ∈ before ∧ (answer before content).inserted = false ∧
        (ofHistory before).find? content = some (answer before content).offset ∨
      content ∉ before ∧ (ofHistory before).find? content = none ∧
        answer before content = ⟨totalSize before.eraseDups, true⟩ := by
  have stores := stores_ofHistory before
  have position := stores.positions content
  cases found : (ofHistory before).find? content with
  | some offset =>
    rw [found] at position
    have known : content ∈ before := by
      by_contra absent
      rw [positionOf_eq_none_iff.2 (mt List.mem_eraseDups.1 absent)] at position
      cases position
    have returned : answer before content = ⟨offset, false⟩ := by rw [answer, intern, found]
    exact Or.inl ⟨known, by rw [returned], by rw [returned]⟩
  | none =>
    rw [found] at position
    have fresh := mt List.mem_eraseDups.2 (positionOf_eq_none_iff.1 position.symm)
    have size : (ofHistory before).storage.size = totalSize before.eraseDups := stores.byteSize_eq
    exact Or.inr ⟨fresh, rfl, by rw [answer, intern, found, size]⟩

/-- The offset that a call returned is that of its string in every later pool. -/
theorem positionOf_answer {before asked : List (List UInt8)} {content : List UInt8}
    (call : before ++ [content] <+: asked) :
    positionOf asked.eraseDups content = some (answer before content).offset := by
  obtain ⟨after, rfl⟩ := call
  have placed := ((stores_ofHistory before).intern content).2
  rw [extend_eraseDups] at placed
  rw [List.eraseDups_append]
  exact positionOf_append placed _

theorem totalSize_le_of_prefix {before asked : List (List UInt8)} (first : before <+: asked) :
    totalSize before.eraseDups ≤ totalSize asked.eraseDups := by
  obtain ⟨after, rfl⟩ := first
  rw [List.eraseDups_append, totalSize, totalSize, List.map_append, List.sum_append]
  omega

theorem byteSize_ofHistory (asked : List (List UInt8)) :
    (ofHistory asked).byteSize = totalSize asked.eraseDups :=
  (stores_ofHistory asked).byteSize_eq

/-- A call finds what the bytes of the entries say, as long as lengths fit into eight of them. -/
theorem hasEntry_iff_answer {before : List (List UInt8)} {content : List UInt8} {offset : Nat}
    (small : totalSize before.eraseDups < UInt64.size) :
    (ofHistory before).HasEntry content offset ↔ answer before content = ⟨offset, false⟩ := by
  rw [(stores_ofHistory before).hasEntry_iff small]
  rcases answer_cases before content with ⟨_, again, found⟩ | ⟨_, nothing, fresh⟩
  · rw [found, Option.some.injEq]
    constructor
    · rintro rfl
      rw [← again]
    · intro returned
      rw [returned]
  · rw [nothing, fresh]
    simp

/-- The laws of a new pool, for as long as its entries end before the two offsets that stand for no
string. A string is added by the first call that asks for it, behind all entries before; later calls
return the same offset, and no two strings share one. A call finds an entry exactly if the bytes
of one hold its string. The pool counts its strings and their bytes, and every offset that was ever
returned leads to the string that it was returned for. -/
theorem answers_of_history {asked : List (List UInt8)}
    (small : (ofHistory asked).byteSize < nanOffset) :
    (ofHistory asked).size = asked.eraseDups.length ∧
    (ofHistory asked).byteSize = totalSize asked.eraseDups ∧
    ∀ before content, before ++ [content] <+: asked →
      ((answer before content).inserted = true ↔ content ∉ before) ∧
      ((answer before content).inserted = true →
        (answer before content).offset = totalSize before.eraseDups) ∧
      (∀ offset, (ofHistory before).HasEntry content offset ↔
        answer before content = ⟨offset, false⟩) ∧
      isString (answer before content).offset = true ∧
      (ofHistory asked).view (answer before content).offset = .ok content ∧
      ∀ earlier other, earlier ++ [other] <+: asked →
        ((answer earlier other).offset = (answer before content).offset ↔ other = content) ∧
        (earlier.length < before.length → (answer before content).inserted = true →
          (answer earlier other).offset < (answer before content).offset) := by
  have stores := stores_ofHistory asked
  have total := byteSize_ofHistory asked
  have beforeNan := small
  rw [total] at beforeNan
  have nanBelow : nanOffset < missingOffset := by decide
  have fits : nanOffset < UInt64.size := by decide
  refine ⟨stores.size_eq (nodup_eraseDups asked), total, fun before content call => ?_⟩
  have placed := positionOf_answer call
  have inside := positionOf_lt placed
  have begun : before <+: asked := (List.prefix_append before [content]).trans call
  have smaller := totalSize_le_of_prefix begun
  refine ⟨?_, ?_, fun offset => hasEntry_iff_answer (by omega), ?_, stores.view_eq placed small, ?_⟩
  · rcases answer_cases before content with ⟨known, again, _⟩ | ⟨fresh, _, added⟩
    · rw [again]
      exact iff_of_false Bool.false_ne_true (not_not_intro known)
    · rw [added]
      exact iff_of_true rfl fresh
  · intro inserted
    rcases answer_cases before content with ⟨_, again, _⟩ | ⟨_, _, added⟩
    · rw [again] at inserted
      cases inserted
    · rw [added]
  · rw [entrySize] at inside
    simp only [isString, decide_eq_true_eq]
    omega
  · intro earlier other otherCall
    have otherPlaced := positionOf_answer otherCall
    refine ⟨⟨fun same => ?_, fun same => ?_⟩, fun shorter inserted => ?_⟩
    · rw [same] at otherPlaced
      exact positionOf_inj otherPlaced placed
    · rw [same, placed] at otherPlaced
      rw [same, Option.some.inj otherPlaced]
    · -- The earlier call is part of what was asked before the later one.
      have previous : earlier ++ [other] <+: before :=
        List.prefix_of_prefix_length_le otherCall begun (by simpa using shorter)
      have bound := positionOf_lt (positionOf_answer previous)
      have positive : 0 < entrySize other := by simp [entrySize, lengthWidth]
      rcases answer_cases before content with ⟨_, again, _⟩ | ⟨_, _, added⟩
      · rw [again] at inserted
        cases inserted
      · rw [added]
        simp only
        omega

/-- A string that looks like the length of an empty one. -/
def eightZeros : List UInt8 := [0, 0, 0, 0, 0, 0, 0, 0]

theorem answers_of_history_eightZeros :
    (ofHistory [eightZeros, [], eightZeros]).byteSize < nanOffset ∧
      (ofHistory [eightZeros, [], eightZeros]).size = 2 ∧
      (answer [eightZeros] []).inserted = true ∧
      (ofHistory [eightZeros, [], eightZeros]).view (answer [eightZeros] []).offset = .ok [] ∧
      ((answer [] eightZeros).offset = (answer [eightZeros] []).offset ↔ eightZeros = []) := by
  have small : (ofHistory [eightZeros, [], eightZeros]).byteSize < nanOffset := by decide
  obtain ⟨count, _, calls⟩ := answers_of_history small
  obtain ⟨inserted, _, _, _, view, others⟩ := calls [eightZeros] [] ⟨[eightZeros], rfl⟩
  have first := others [] eightZeros ⟨[[], eightZeros], rfl⟩
  exact ⟨small, count.trans (by decide), inserted.2 (by decide), view, first.1⟩

end FrameIngest.StringPool
