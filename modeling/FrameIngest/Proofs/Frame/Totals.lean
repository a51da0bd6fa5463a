import Mathlib
import FrameIngest.Proofs.Frame.Fidelity
import FrameIngest.Proofs.Frame.WordWrite

namespace FrameIngest

namespace InputFrame

variable {frame : InputFrame} {config : Config} {lock : DecodeLock} {context : FrameContext}

/-- A frame without tensors has no rows. -/
theorem IsBuilt.rows_eq_zero (built : frame.IsBuilt) (nothing : frame.tensors = []) :
    frame.rows = 0 := by
  have fields : frame.schema.fields.length = 0 := by
    rw [← built.length_eq, nothing, List.length_nil]
  unfold IsBuilt ofTensors at built
  rw [if_neg (by simp [nothing, fields]), nothing, List.length_eq_zero_iff.1 fields] at built
  have counted := congrArg InputFrame.rows (Except.ok.inj built)
  exact counted.symm

theorem rowCount_slices (built : frame.IsBuilt) {slices : List Slice}
    (cuts : frame.slices config = .ok slices) : rowCount slices = frame.rows := by
  obtain ⟨rfl, rows, columns⟩ := slices_eq cuts
  by_cases nothing : frame.tensors = []
  · have no_rows := built.rows_eq_zero nothing
    have no_groups : runs frame.tensors.length config.columnsPerSegment = [] := by
      by_contra some_groups
      obtain ⟨group, member⟩ := List.exists_mem_of_ne_nil _ some_groups
      have bounds := columns.bounds member
      have ends := columns.le_stop member
      rw [nothing, List.length_nil] at ends
      omega
    rw [no_groups, cut_nil, no_rows]
    rfl
  · have some_groups : runs frame.tensors.length config.columnsPerSegment ≠ [] := by
      intro no_groups
      rw [no_groups] at columns
      have none_left : 0 = frame.tensors.length := columns
      exact nothing (List.length_eq_zero_iff.1 none_left.symm)
    have total := rowCount_cut rows columns some_groups
    omega

/-- The last slice ends with the last row of the frame. -/
theorem stop_of_getLast? {slices : List Slice} (cuts : frame.slices config = .ok slices)
    {last : Slice} (final : slices.getLast? = some last) :
    last.rows.stop = frame.offset + frame.rows := by
  obtain ⟨rfl, rows, columns⟩ := slices_eq cuts
  have some_groups : runs frame.tensors.length config.columnsPerSegment ≠ [] := by
    intro no_groups
    rw [no_groups, cut_nil] at final
    cases final
  have total := rowCount_cut rows columns some_groups
  have ends := (renumbers_rebaseRows frame.offset (cut (frame.blocks config)
    (runs frame.tensors.length config.columnsPerSegment))).partition.ends
  rw [rebaseRows_cut rows columns, total] at ends
  exact ends last.rows (by rw [List.getLast?_map, final, Option.map_some])

/-- The total of a written context is what its slices, put in order, still count. -/
theorem totalRows_of_write (written : (frame.write config lock).1 = .ok context) :
    context.totalRows = context.countRows := by
  obtain ⟨_, entries, _, _, rfl⟩ := exists_entries_of_write written
  have renumbers := renumbers_rebaseRows (frame.gathered entries).firstRow
    (frame.gathered entries).slices
  rw [contextOf, FrameContext.totalRows_reconcile, FrameContext.countRows,
    FrameContext.slices_reconcile, renumbers.recounted]

/-- The slices of a frame that was written are those that it is cut into, also after their rows were
put in order. All counts agree: the context's total, the rows of its slices with row groups counted
once, the end of the last slice, and the totals of both descriptors. -/
theorem write_totals (built : frame.IsBuilt) (written : (frame.write config lock).1 = .ok context)
    (previous : Option StorageKey) :
    frame.slices config = .ok context.slices ∧
    context.totalRows = frame.rows ∧
    context.offsetAndRowCount =
      (if context.slices = [] then (0, 0) else (frame.offset, frame.rows)) ∧
    (∀ last, context.slices.getLast? = some last →
      (frame.indexDescriptor frame.offset previous).totalRows = last.rows.stop.toUInt64 ∧
      (last.rows.stop < UInt64.size →
        (frame.indexDescriptor frame.offset previous).totalRows.toNat = last.rows.stop)) ∧
    context.toDescriptor previous frame.bucketizeDynamic =
      frame.indexDescriptor 0 previous ∧
    (frame.FitsWords config → ∀ overflow,
      frame.writeWord overflow config lock = some (frame.write config lock) ∧
      context.offsetAndRowCountWord overflow = some context.offsetAndRowCount ∧
      frame.indexDescriptorWord overflow frame.offset previous =
        some (frame.indexDescriptor frame.offset previous) ∧
      context.toDescriptorWord overflow previous frame.bucketizeDynamic =
        some (context.toDescriptor previous frame.bucketizeDynamic)) := by
  obtain ⟨cuts, _⟩ := write_eq_ok written
  have counted : context.countRows = frame.rows := rowCount_slices built cuts
  have total := totalRows_of_write written
  obtain ⟨_, entries, _, _, rfl⟩ := exists_entries_of_write written
  refine ⟨cuts, total.trans counted, ?_, ?_, ?_, fun fits overflow => ?_⟩
  · by_cases empty : (frame.contextOf entries).slices = []
    · have nothing := List.map_eq_nil_iff.1 empty
      rw [if_pos empty, FrameContext.offsetAndRowCount, FrameContext.firstRow, nothing,
        FrameContext.countRows, empty]
      rfl
    · obtain ⟨whole, rows, _⟩ := slices_eq cuts
      have first := (FrameContext.firstRow_eq rows whole).resolve_left fun nothing =>
        empty (List.map_eq_nil_iff.2 nothing)
      rw [if_neg empty, FrameContext.offsetAndRowCount, first, counted]
  · intro last final
    have ends := stop_of_getLast? cuts final
    have total : (frame.indexDescriptor frame.offset previous).totalRows =
        last.rows.stop.toUInt64 := by
      rw [ends, Nat.add_comm, indexDescriptor]
    refine ⟨total, fun fits => ?_⟩
    rw [total]
    exact Nat.mod_eq_of_lt fits
  · rw [FrameContext.toDescriptor, counted]
    rfl
  · have few : (frame.contextOf entries).countRows < UInt64.size :=
      counted.trans_lt (fits.rows.trans (by decide))
    have ends := fits.ends
    refine ⟨writeWord_eq_some fits, FrameContext.offsetAndRowCountWord_eq_some few, ?_,
      FrameContext.toDescriptorWord_eq_some few⟩
    rw [indexDescriptorWord, Overflow.add_eq_some (by omega)]
    rfl

theorem write_totals_threeTicks :
    ∃ context, (threeTicks.write narrowSlices .free).1 = .ok context ∧
      context.slices.length = 4 ∧ context.totalRows = 3 ∧ context.offsetAndRowCount = (7, 3) ∧
      (threeTicks.indexDescriptor threeTicks.offset none).totalRows = 10 ∧
      context.toDescriptor none false = threeTicks.indexDescriptor 0 none ∧
      ∀ overflow, context.offsetAndRowCountWord overflow = some (7, 3) := by
  have built : threeTicks.IsBuilt := rfl
  obtain ⟨context, written⟩ :
      ∃ context, (threeTicks.write narrowSlices .free).1 = .ok context := ⟨_, rfl⟩
  have fits : threeTicks.FitsWords narrowSlices :=
    ⟨by decide, by decide, by decide, by decide, by decide⟩
  obtain ⟨cuts, total, counted, ends, same, inWords⟩ := write_totals built written none
  have slices : context.slices =
      [⟨⟨0, 1⟩, ⟨7, 9⟩⟩, ⟨⟨1, 2⟩, ⟨7, 9⟩⟩, ⟨⟨0, 1⟩, ⟨9, 10⟩⟩, ⟨⟨1, 2⟩, ⟨9, 10⟩⟩] :=
    (Except.ok.inj cuts).symm
  rw [slices] at counted
  have countedWord (overflow : Overflow) :
      context.offsetAndRowCountWord overflow = some (7, 3) :=
    (inWords fits overflow).2.1.trans (congrArg some counted)
  have final : context.slices.getLast? = some ⟨⟨1, 2⟩, ⟨9, 10⟩⟩ := by
    rw [slices]
    rfl
  exact ⟨context, written, by rw [slices]; rfl, total, counted, (ends _ final).1, same,
    countedWord⟩

end InputFrame

end FrameIngest
