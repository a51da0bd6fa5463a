import Mathlib
import FrameIngest.Frame.Write
import FrameIngest.Proofs.Frame.Reconcile
import FrameIngest.Proofs.Segment.Reach

namespace FrameIngest

theorem Schema.field_eq_ok_iff {schema : Schema} {position : Nat} {field : SchemaField} :
    schema.field position = .ok field ↔ schema.fields[position]? = some field := by
  unfold Schema.field
  split <;> simp_all

namespace InputFrame

/-- The write of a column of a slice. -/
def sliceWrite (frame : InputFrame) (config : Config) (slice : Slice) (column : Nat)
    (field : SchemaField) (tensor : Tensor) : ColumnWrite where
  column := column - slice.columns.start
  type := field.type
  tensor
  firstRow := slice.rows.start - frame.offset
  rows := slice.rows.span
  sparsify := config.sparsifyFloats

variable {frame : InputFrame} {config : Config} {slice : Slice} {lock : DecodeLock}

theorem writeColumns_succ_eq_ok {count column : Nat} {segment final : Segment}
    (ok : (frame.writeColumns config slice (slice.rows.start - frame.offset) (count + 1) column
      segment lock).1 = .ok final) :
    ∃ field tensor,
      frame.schema.fields[column]? = some field ∧ frame.tensors[column]? = some tensor ∧
      (segment.write lock (frame.sliceWrite config slice column field tensor)).outcome =
        .ok none ∧
      (frame.writeColumns config slice (slice.rows.start - frame.offset) count (column + 1)
        (segment.write lock (frame.sliceWrite config slice column field tensor)).segment
        (segment.write lock (frame.sliceWrite config slice column field tensor)).lock).1 =
          .ok final := by
  rw [writeColumns] at ok
  split at ok
  · cases ok
  · cases ok
  · rename_i field tensor named given
    refine ⟨field, tensor, Schema.field_eq_ok_iff.1 named, given, ?_⟩
    simp only at ok
    split at ok
    · cases ok
    · cases ok
    · rename_i reached
      exact ⟨reached, ok⟩

/-- The columns of a slice keep what was written there while those behind them are written. -/
theorem writeColumns_reach {count column : Nat} {segment final : Segment} {schema : Schema}
    {past : List Attempt} (reach : Segment.Reach schema past segment)
    (behind : slice.columns.start ≤ column)
    (ok : (frame.writeColumns config slice (slice.rows.start - frame.offset) count column
      segment lock).1 = .ok final) :
    ∃ now, Segment.Reach schema now final ∧
      (∀ position < column - slice.columns.start, latest now position = latest past position) ∧
      ∀ index, column ≤ index → index < column + count → ∃ field tensor,
        frame.schema.fields[index]? = some field ∧ frame.tensors[index]? = some tensor ∧
          latest now (index - slice.columns.start) =
            some ⟨frame.sliceWrite config slice index field tensor, .ok none⟩ := by
  induction count generalizing column segment lock past with
  | zero =>
    cases ok
    exact ⟨past, reach, fun _ _ => rfl, fun index _ _ => by omega⟩
  | succ count ih =>
    obtain ⟨field, tensor, named, given, reached, rest⟩ := writeColumns_succ_eq_ok ok
    have step := Segment.Reach.next lock (frame.sliceWrite config slice column field tensor) reach
    rw [reached] at step
    obtain ⟨now, final_reach, kept, written⟩ := ih step (by omega) rest
    have atColumn := @latest_cons ⟨frame.sliceWrite config slice column field tensor, .ok none⟩
      past rfl
    refine ⟨now, final_reach, ?_, ?_⟩
    · intro position before
      rw [kept position (by omega), atColumn, if_neg]
      simp only [sliceWrite]
      omega
    · intro index from_column below
      by_cases here : index = column
      · subst here
        refine ⟨field, tensor, named, given, ?_⟩
        rw [kept _ (by omega), atColumn]
        exact if_pos rfl
      · exact written index (by omega) (by omega)

/-- An entry whose segment came about by writing every column of its slice. -/
def Wrote (frame : InputFrame) (config : Config) (entry : SliceEntry) : Prop :=
  ∃ segment schema past, entry.segment = some segment ∧ Segment.Reach schema past segment ∧
    ∀ column, entry.slice.columns.start ≤ column → column < entry.slice.columns.stop →
      ∃ field tensor,
        frame.schema.fields[column]? = some field ∧ frame.tensors[column]? = some tensor ∧
          latest past (column - entry.slice.columns.start) =
            some ⟨frame.sliceWrite config entry.slice column field tensor, .ok none⟩

theorem writeSlice_eq_ok {entry : SliceEntry}
    (ok : (frame.writeSlice config slice lock).1 = .ok entry) :
    entry.slice = slice ∧ frame.Wrote config entry := by
  unfold writeSlice at ok
  split at ok
  · cases ok
  · rename_i schema _
    simp only at ok
    cases written : (frame.writeColumns config slice (slice.rows.start - frame.offset)
        slice.columns.span slice.columns.start (.ofSchema schema) lock).1 with
    | error e =>
      rw [written] at ok
      cases ok
    | ok segment =>
      rw [written] at ok
      cases ok
      obtain ⟨now, reach, _, columns⟩ := writeColumns_reach .start (Nat.le_refl _) written
      refine ⟨rfl, segment, schema, now, rfl, reach, fun column from_start below => ?_⟩
      refine columns column from_start ?_
      unfold ColumnRange.span
      simp only at from_start below
      omega

theorem writeSlices_eq_ok {slices : List Slice} {entries : List SliceEntry}
    (ok : (frame.writeSlices config slices lock).1.mapM id = .ok entries) :
    entries.map SliceEntry.slice = slices ∧ ∀ entry ∈ entries, frame.Wrote config entry := by
  induction slices generalizing lock entries with
  | nil =>
    cases ok
    exact ⟨rfl, nofun⟩
  | cons slice slices ih =>
    rw [writeSlices] at ok
    simp only [List.mapM_cons, id_eq, bind, Except.bind, pure, Except.pure] at ok
    split at ok
    · cases ok
    · rename_i first written
      split at ok
      · cases ok
      · rename_i rest others
        cases ok
        obtain ⟨here, wrote⟩ := writeSlice_eq_ok written
        obtain ⟨there, behind⟩ := ih others
        refine ⟨by rw [List.map_cons, here, there], ?_⟩
        intro entry member
        rcases List.mem_cons.1 member with rfl | later
        · exact wrote
        · exact behind entry later

/-- The context of a frame that was written is that of the entries of its slices. -/
theorem exists_entries_of_write {context : FrameContext}
    (ok : (frame.write config lock).1 = .ok context) :
    ∃ slices entries, frame.slices config = .ok slices ∧
      (frame.writeSlices config slices lock).1.mapM id = .ok entries ∧
      context = frame.contextOf entries := by
  unfold InputFrame.write at ok
  split at ok
  · cases ok
  · rename_i slices cuts
    split at ok
    · cases ok
    · simp only at ok
      cases written : (frame.writeSlices config slices lock).1.mapM id with
      | error e =>
        rw [written] at ok
        cases ok
      | ok entries =>
        rw [written] at ok
        cases ok
        exact ⟨slices, entries, cuts, written, rfl⟩

/-- A frame that was written has an entry for each of its slices. -/
theorem write_eq_ok {context : FrameContext} (ok : (frame.write config lock).1 = .ok context) :
    frame.slices config = .ok context.slices ∧
      ∀ entry ∈ context.entries, frame.Wrote config entry := by
  obtain ⟨slices, entries, cuts, written, rfl⟩ := exists_entries_of_write ok
  obtain ⟨here, wrote⟩ := writeSlices_eq_ok written
  obtain ⟨whole, rows, columns⟩ := slices_eq cuts
  have kept : (frame.contextOf entries).entries = entries :=
    FrameContext.reconcile_entries rows columns (here.trans whole)
  refine ⟨?_, ?_⟩
  · rw [FrameContext.slices, kept, here, cuts]
  · rw [kept]
    exact wrote

end InputFrame

end FrameIngest
