import Mathlib
import FrameIngest.Proofs.Write.Leaves
import FrameIngest.Proofs.Write.Step

namespace FrameIngest

/-- A write that was tried, and what came of it. -/
structure Attempt where
  write : ColumnWrite
  outcome : Except IngestError (Option EncodingError)

namespace Attempt

def completed (attempt : Attempt) : Bool :=
  match attempt.outcome with
  | .ok none => true
  | _ => false

/-- Whether the write stopped when its column was in place already. -/
def brokeOff (attempt : Attempt) : Bool :=
  attempt.write.breaksOff attempt.outcome

/-- Whether the write changed this column. -/
def reached (position : Nat) (attempt : Attempt) : Bool :=
  attempt.write.column == position && (attempt.completed || attempt.brokeOff)

end Attempt

/-- The latest write that changed a column; attempts are listed from the latest on. -/
def latest (past : List Attempt) (position : Nat) : Option Attempt :=
  past.find? (Attempt.reached position)

theorem latest_cons {attempt : Attempt} {past : List Attempt}
    (changed : (attempt.completed || attempt.brokeOff) = true) (position : Nat) :
    latest (attempt :: past) position =
      if attempt.write.column = position then some attempt else latest past position := by
  by_cases here : attempt.write.column = position <;>
    simp [latest, Attempt.reached, changed, here]

theorem latest_cons_rejected {attempt : Attempt} {past : List Attempt}
    (unchanged : (attempt.completed || attempt.brokeOff) = false) (position : Nat) :
    latest (attempt :: past) position = latest past position := by
  simp [latest, Attempt.reached, unchanged]

namespace Segment

/-- The states of a segment that begins empty, with the writes that were tried so far. The lock may
be in any state at each of them. -/
inductive Reach (schema : Schema) : List Attempt → Segment → Prop
  | start : Reach schema [] (.ofSchema schema)
  | next {past : List Attempt} {segment : Segment} (lock : DecodeLock) (write : ColumnWrite) :
      Reach schema past segment →
      Reach schema (⟨write, (segment.write lock write).outcome⟩ :: past)
        (segment.write lock write).segment

theorem getElem?_setColumn {segment : Segment} {position : Nat} {old column : Column}
    (found : segment.columns[position]? = some old) (other : Nat) :
    (segment.setColumn position column).columns[other]? =
      if position = other then some column else segment.columns[other]? := by
  obtain ⟨within, _⟩ := List.getElem?_eq_some_iff.1 found
  rw [setColumn, List.getElem?_set]
  simp [within]

/-- A segment whose pool holds these strings, and whose columns hold what their latest writes left
in them. -/
structure Holds (segment : Segment) (past : List Attempt) (contents : List (List UInt8)) :
    Prop where
  stores : (segment.pool.getD .empty).Stores contents
  widths : ∀ (position : Nat) (column : Column),
    segment.columns[position]? = some column → column.HasWidth
  kept : ∀ position attempt, latest past position = some attempt → attempt.completed = true →
    ∃ column, segment.columns[position]? = some column ∧ attempt.write.Leaves contents column

/-- A write that changes its column leaves the other columns as they are. -/
theorem Holds.replace {segment after : Segment} {past : List Attempt}
    {contents added : List (List UInt8)} {attempt : Attempt} {old written : Column}
    (holds : segment.Holds past contents)
    (found : segment.columns[attempt.write.column]? = some old)
    (columns : after.columns = (segment.setColumn attempt.write.column written).columns)
    (stores : (after.pool.getD .empty).Stores (contents ++ added)) (width : written.HasWidth)
    (changed : (attempt.completed || attempt.brokeOff) = true)
    (leaves : attempt.completed = true → attempt.write.Leaves (contents ++ added) written) :
    after.Holds (attempt :: past) (contents ++ added) := by
  refine ⟨stores, ?_, ?_⟩
  · intro position column at_position
    rw [columns, getElem?_setColumn found] at at_position
    split at at_position
    · cases at_position
      exact width
    · exact holds.widths position column at_position
  · intro position kept isLatest completed
    rw [columns, getElem?_setColumn found]
    rw [latest_cons changed] at isLatest
    split at isLatest
    · rename_i here
      cases isLatest
      exact ⟨written, if_pos here, leaves completed⟩
    · rename_i elsewhere
      obtain ⟨column, at_position, left⟩ := holds.kept position kept isLatest completed
      exact ⟨column, by rw [if_neg elsewhere, at_position], left.append added⟩

/-- Nothing is lost by a write: strings are only added, and what the latest writes left is kept. -/
theorem Holds.step {segment after : Segment} {past : List Attempt} {contents : List (List UInt8)}
    {write : ColumnWrite} {outcome : Except IngestError (Option EncodingError)}
    (holds : segment.Holds past contents) (step : write.Step segment outcome after) :
    ∃ added, after.Holds (⟨write, outcome⟩ :: past) (contents ++ added) := by
  cases step with
  | rejected clean =>
    refine ⟨[], ?_⟩
    have unchanged : ∀ position, latest (⟨write, _⟩ :: past) position = latest past position :=
      latest_cons_rejected (by rw [Attempt.brokeOff, clean]; rfl)
    rw [List.append_nil]
    exact ⟨holds.stores, holds.widths, fun position attempt isLatest =>
      holds.kept position attempt (unchanged position ▸ isLatest)⟩
  | @placed column written fits agrees pooled places =>
    have width := holds.widths write.column column fits.found
    refine ⟨[], holds.replace fits.found rfl ?_ (places.hasWidth fits.stored width) rfl ?_⟩
    · rw [List.append_nil]
      exact holds.stores
    · intro _
      exact .placed fits.stored width (fits.plain pooled) places
  | @pooled column lock fits agrees pooled ended =>
    have reflects := write.pooling_reflects holds.stores lock
    obtain ⟨added, same⟩ := StringPool.exists_extendBy write.encoding contents
      (write.rowCells.take (write.pooling segment lock).offsets.length)
    have offsets := reflects.offsets
    rw [same, reflects.whole ended, List.take_length] at offsets
    refine ⟨added, holds.replace fits.found rfl (same ▸ reflects.stores)
      (ColumnWrite.offsetColumn_hasWidth fits.stored pooled _) rfl ?_⟩
    intro _
    exact .pooled fits.stored pooled offsets
  | @stopped column lock reason fits agrees pooled ended =>
    have reflects := write.pooling_reflects holds.stores lock
    obtain ⟨added, same⟩ := StringPool.exists_extendBy write.encoding contents
      (write.rowCells.take (write.pooling segment lock).offsets.length)
    exact ⟨added, holds.replace fits.found rfl (same ▸ reflects.stores)
      (ColumnWrite.offsetColumn_hasWidth fits.stored pooled _) rfl nofun⟩
  | @emptied column fits agrees plain =>
    have pooled := ColumnWrite.isDynamicString_of_poolsPlainData plain
    have changed : Attempt.brokeOff
        ⟨write, .error (.unsupportedType (.plainCells write.tensor.type))⟩ = true := plain
    refine ⟨[], holds.replace fits.found rfl ?_
      (ColumnWrite.offsetColumn_hasWidth fits.stored pooled _) ?_ nofun⟩
    · rw [List.append_nil]
      exact holds.stores
    · rw [changed, Bool.or_true]

/-- In every state the columns hold what their latest writes left in them. -/
theorem Reach.holds {schema : Schema} {past : List Attempt} {segment : Segment}
    (reach : Reach schema past segment) : ∃ contents, segment.Holds past contents := by
  induction reach with
  | start =>
    refine ⟨[], StringPool.stores_empty, ?_, ?_⟩
    · intro position column found
      simp only [ofSchema, List.getElem?_map, Option.map_eq_some_iff] at found
      obtain ⟨field, _, rfl⟩ := found
      intro width known
      change field.type.fixedWidth?.getD 0 = width
      rw [Column.ofType] at known
      rw [known, Option.getD_some]
    · intro position attempt isLatest
      cases isLatest
  | @next past segment lock write reach ih =>
    obtain ⟨contents, holds⟩ := ih
    obtain ⟨added, after⟩ := holds.step (ColumnWrite.write_step segment lock write)
    exact ⟨contents ++ added, after⟩

end Segment

end FrameIngest
