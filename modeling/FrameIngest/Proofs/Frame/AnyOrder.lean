import Mathlib
import FrameIngest.Proofs.Frame.Failure
import FrameIngest.Proofs.Write.Locking

namespace FrameIngest

namespace InputFrame

/-- Slices of which some are written: what came of those, each in its place, and the lock. -/
structure Progress where
  results : List (Option (Except IngestError SliceEntry))
  lock : DecodeLock

/-- Before the first slice is written. -/
def Progress.start (slices : List Slice) (lock : DecodeLock) : Progress :=
  ⟨slices.map fun _ => none, lock⟩

/-- Writes the slice with this number, whatever came of those before. -/
def Progress.next (frame : InputFrame) (config : Config) (slices : List Slice)
    (progress : Progress) (number : Nat) : Progress :=
  match slices[number]? with
  | none => progress
  | some slice =>
    let (result, lock) := frame.writeSlice config slice progress.lock
    ⟨progress.results.set number (some result), lock⟩

/-- Writes a frame with its slices in the order of these numbers. What comes of them is put back in
the order of the slices. -/
def writeInOrder (frame : InputFrame) (config : Config) (order : List Nat) (lock : DecodeLock) :
    Except IngestError FrameContext × DecodeLock :=
  match frame.slices config with
  | .error e => (.error e, lock)
  | .ok slices =>
    match config.sparsifyFloats, frame.denseField? with
    | true, some field => (.error (.sparsifyType field.type), lock)
    | _, _ =>
      let progress := order.foldl (Progress.next frame config slices) (.start slices lock)
      ((progress.results.reduceOption.mapM id).map frame.contextOf, progress.lock)

/-- The writes of some columns of a slice. -/
def columnWrites (frame : InputFrame) (config : Config) (slice : Slice) (columns : List Nat) :
    List ColumnWrite :=
  columns.filterMap fun column =>
    match frame.schema.fields[column]?, frame.tensors[column]? with
    | some field, some tensor => some (frame.sliceWrite config slice column field tensor)
    | _, _ => none

/-- The writes of a slice. There are none if the schema ends before its columns. -/
def sliceWrites (frame : InputFrame) (config : Config) (slice : Slice) : List ColumnWrite :=
  if slice.columns.stop ≤ frame.schema.fields.length then
    frame.columnWrites config slice (List.range' slice.columns.start slice.columns.span)
  else []

/-- How often a slice takes the lock. -/
def acquisitions (frame : InputFrame) (config : Config) (slice : Slice) : Nat :=
  ColumnWrite.acquisitions (frame.sliceWrites config slice)

/-- What comes of a slice. -/
def sliceResult (frame : InputFrame) (config : Config) (slice : Slice) :
    Except IngestError SliceEntry :=
  (frame.writeSlice config slice .free).1

variable {frame : InputFrame} {config : Config} {slice : Slice} {slices : List Slice}

theorem writeColumns_of_lock {count column : Nat} {segment : Segment} (lock held : DecodeLock) :
    (frame.writeColumns config slice (slice.rows.start - frame.offset) count column
        segment held).1 =
      (frame.writeColumns config slice (slice.rows.start - frame.offset) count column
        segment lock).1 := by
  induction count generalizing column segment lock held with
  | zero => rfl
  | succ count ih =>
    cases named : frame.schema.field column with
    | error e => rw [writeColumns, writeColumns, named]
    | ok field =>
      cases given : frame.tensors[column]? with
      | none => rw [writeColumns, writeColumns, named, given]
      | some tensor =>
        have isColumn : frame.ColumnIs column field tensor :=
          ⟨Schema.field_eq_ok_iff.1 named, given⟩
        obtain ⟨outcome, left⟩ := ColumnWrite.write_of_lock
          (frame.sliceWrite config slice column field tensor) segment lock held
        rw [writeColumns_succ isColumn count segment held rfl,
          writeColumns_succ isColumn count segment lock rfl, outcome, left]
        cases (segment.write lock (frame.sliceWrite config slice column field tensor)).outcome with
        | error e => rfl
        | ok failure =>
          cases failure with
          | some failure => rfl
          | none => exact ih ..

/-- Whoever has the lock, the same comes of a slice. -/
theorem writeSlice_of_lock (frame : InputFrame) (config : Config) (slice : Slice)
    (lock : DecodeLock) :
    (frame.writeSlice config slice lock).1 = frame.sliceResult config slice := by
  unfold sliceResult writeSlice
  cases frame.schema.subset slice.columns.start slice.columns.stop with
  | error e => rfl
  | ok schema =>
    simp only
    rw [writeColumns_of_lock .free lock]

theorem columnWrites_cons {column : Nat} {field : SchemaField} {tensor : Tensor}
    (isColumn : frame.ColumnIs column field tensor) (columns : List Nat) :
    frame.columnWrites config slice (column :: columns) =
      frame.sliceWrite config slice column field tensor ::
        frame.columnWrites config slice columns := by
  unfold columnWrites
  rw [List.filterMap_cons, isColumn.named, isColumn.given]

/-- The write of a column of a slice takes a free lock as it does by itself, and the columns behind
it are written if it succeeds. -/
theorem sliceWrite_lock {column : Nat} {field : SchemaField} {tensor : Tensor} {segment : Segment}
    (isColumn : frame.ColumnIs column field tensor)
    (inside : slice.columns.contains column = true) (ready : frame.Ready slice segment)
    (taken : Nat) :
    (segment.write ⟨false, taken⟩ (frame.sliceWrite config slice column field tensor)).lock =
        ⟨false, taken + (frame.sliceWrite config slice column field tensor).takesLock.toNat⟩ ∧
      ((segment.write ⟨false, taken⟩
          (frame.sliceWrite config slice column field tensor)).outcome = .ok none ↔
        (frame.sliceWrite config slice column field tensor).succeeds = true) := by
  obtain ⟨stored, found, typed⟩ := ready.column_at isColumn inside
  have agrees : (frame.sliceWrite config slice column field tensor).Agrees segment :=
    ready.rows.imp_right Eq.symm
  exact ⟨ColumnWrite.write_lock_eq found typed agrees taken,
    ColumnWrite.write_outcome_eq_ok_none_iff found typed agrees ⟨false, taken⟩⟩

theorem writeColumns_lock {count column : Nat} {segment : Segment}
    (ready : frame.Ready slice segment) (from_start : slice.columns.start ≤ column)
    (to_stop : column + count ≤ slice.columns.stop)
    (fields : slice.columns.stop ≤ frame.schema.fields.length)
    (tensors : slice.columns.stop ≤ frame.tensors.length) (taken : Nat) :
    (frame.writeColumns config slice (slice.rows.start - frame.offset) count column segment
        ⟨false, taken⟩).2 =
      ⟨false, taken + ColumnWrite.acquisitions
        (frame.columnWrites config slice (List.range' column count))⟩ := by
  induction count generalizing column segment taken with
  | zero => rfl
  | succ count ih =>
    have isColumn : frame.ColumnIs column frame.schema.fields[column] frame.tensors[column] :=
      ⟨List.getElem?_eq_getElem (by omega), List.getElem?_eq_getElem (by omega)⟩
    have inside : slice.columns.contains column = true :=
      ColumnRange.contains_iff.2 ⟨from_start, by omega⟩
    obtain ⟨lock, reaches⟩ :=
      @sliceWrite_lock frame config slice _ _ _ _ isColumn inside ready taken
    have step := (frame.sliceWrite config slice column frame.schema.fields[column]
      frame.tensors[column]).write_step segment ⟨false, taken⟩
    rw [writeColumns_succ isColumn count segment _ rfl, List.range'_succ,
      columnWrites_cons isColumn, ColumnWrite.acquisitions_cons]
    split
    · rename_i e failed
      rw [failed] at reaches
      rw [if_neg (mt reaches.2 nofun)]
      exact lock
    · rename_i failure stopped
      rw [stopped] at reaches
      rw [if_neg (mt reaches.2 nofun)]
      exact lock
    · rename_i reached
      rw [reached] at step
      rw [if_pos (reaches.1 reached), lock, ih (ready.next rfl step) (by omega) (by omega),
        Nat.add_assoc]

/-- A slice of a frame takes a free lock as often as its writes do, and leaves it free. -/
theorem writeSlice_lock (cuts : frame.slices config = .ok slices) (member : slice ∈ slices)
    (taken : Nat) :
    (frame.writeSlice config slice ⟨false, taken⟩).2 =
      ⟨false, taken + frame.acquisitions config slice⟩ := by
  obtain ⟨tensors, within⟩ := within_of_mem cuts member
  unfold acquisitions sliceWrites
  by_cases fields : slice.columns.stop ≤ frame.schema.fields.length
  · obtain ⟨schema, subset, ready⟩ := (within fields).exists_ready
    have to_stop : slice.columns.start + slice.columns.span ≤ slice.columns.stop := by
      have some_columns := (within fields).some_columns
      unfold ColumnRange.span
      omega
    rw [if_pos fields, writeSlice, subset]
    exact writeColumns_lock ready (Nat.le_refl _) to_stop fields tensors taken
  · have missing : slice.columns.stop < slice.columns.start ∨
        frame.schema.fields.length < slice.columns.stop := Or.inr (Nat.lt_of_not_le fields)
    rw [if_neg fields, writeSlice, Schema.subset, if_pos missing]
    rfl

theorem writeSlices_eq
    (counts : ∀ slice ∈ slices, ∀ taken, (frame.writeSlice config slice ⟨false, taken⟩).2 =
      ⟨false, taken + frame.acquisitions config slice⟩) (taken : Nat) :
    frame.writeSlices config slices ⟨false, taken⟩ =
      (slices.map (frame.sliceResult config),
        ⟨false, taken + (slices.map (frame.acquisitions config)).sum⟩) := by
  induction slices generalizing taken with
  | nil => rfl
  | cons slice slices ih =>
    rw [List.forall_mem_cons] at counts
    simp only [writeSlices, List.map_cons, List.sum_cons]
    rw [writeSlice_of_lock, counts.1, ih counts.2, Nat.add_assoc]

/-- How often the slice with this number takes the lock. -/
def acquisitionsAt (frame : InputFrame) (config : Config) (slices : List Slice) (number : Nat) :
    Nat :=
  (slices[number]?.map (frame.acquisitions config)).getD 0

/-- The progress after slices with these numbers were written, whatever their order: each of them
has its result in its place, and the lock was taken as often as each of them takes it. -/
structure Progress.Has (frame : InputFrame) (config : Config) (slices : List Slice)
    (taken : Nat) (written : List Nat) (progress : Progress) : Prop where
  length : progress.results.length = slices.length
  results : ∀ number slice, slices[number]? = some slice → progress.results[number]? =
    some (if number ∈ written then some (frame.sliceResult config slice) else none)
  lock : progress.lock =
    ⟨false, taken + (written.map (frame.acquisitionsAt config slices)).sum⟩

theorem Progress.next_eq (config : Config) (progress : Progress) {number : Nat}
    (found : slices[number]? = some slice) :
    progress.next frame config slices number =
      ⟨progress.results.set number (some (frame.sliceResult config slice)),
        (frame.writeSlice config slice progress.lock).2⟩ := by
  rw [next, found, ← writeSlice_of_lock frame config slice progress.lock]

theorem Progress.has_start (frame : InputFrame) (config : Config) (slices : List Slice)
    (taken : Nat) : Progress.Has frame config slices taken [] (.start slices ⟨false, taken⟩) := by
  refine ⟨List.length_map _, fun number slice found => ?_, rfl⟩
  rw [Progress.start, List.getElem?_map, found]
  rfl

section Counts

variable (counts : ∀ slice ∈ slices, ∀ taken,
  (frame.writeSlice config slice ⟨false, taken⟩).2 =
    ⟨false, taken + frame.acquisitions config slice⟩)
include counts

theorem Progress.Has.next {taken : Nat} {written : List Nat} {progress : Progress}
    (has : Progress.Has frame config slices taken written progress) (number : Nat) :
    Progress.Has frame config slices taken (written ++ [number])
      (progress.next frame config slices number) := by
  have total : (((written ++ [number]).map (frame.acquisitionsAt config slices)).sum) =
      (written.map (frame.acquisitionsAt config slices)).sum +
        frame.acquisitionsAt config slices number := by
    rw [List.map_append, List.sum_append, List.map_singleton, List.sum_singleton]
  cases found : slices[number]? with
  | none =>
    -- There is no such slice: nothing is written, and nothing is counted for it.
    rw [Progress.next, found]
    refine ⟨has.length, fun other slice atOther => ?_, ?_⟩
    · have differs : other ≠ number := by
        rintro rfl
        rw [found] at atOther
        cases atOther
      rw [has.results other slice atOther]
      simp [differs]
    · rw [has.lock, total, acquisitionsAt, found]
      rfl
  | some slice =>
    rw [Progress.next_eq config progress found]
    refine ⟨by rw [List.length_set, has.length], fun other twin atOther => ?_, ?_⟩
    · have inside : number < progress.results.length := by
        rw [has.length]
        exact (List.getElem?_eq_some_iff.1 found).1
      rw [List.getElem?_set]
      by_cases here : number = other
      · subst here
        cases Option.some.inj (found.symm.trans atOther)
        simp [inside]
      · rw [if_neg here, has.results other twin atOther]
        simp [Ne.symm here]
    · rw [has.lock, counts slice (List.mem_of_getElem? found), total, acquisitionsAt, found,
        Option.map_some, Option.getD_some, Nat.add_assoc]

/-- Every run of writes keeps the account of what was written. -/
theorem Progress.Has.run {taken : Nat} {written : List Nat} {progress : Progress}
    (has : Progress.Has frame config slices taken written progress) (order : List Nat) :
    Progress.Has frame config slices taken (written ++ order)
      (order.foldl (Progress.next frame config slices) progress) := by
  induction order generalizing written progress with
  | nil => rwa [List.append_nil]
  | cons number order ih =>
    rw [List.append_cons]
    exact ih (has.next counts number)

omit counts in
/-- Once all slices are written nothing is left to tell the order. -/
theorem Progress.Has.complete {taken : Nat} {order : List Nat} {progress : Progress}
    (has : Progress.Has frame config slices taken order progress)
    (every : order.Perm (List.range slices.length)) :
    progress.results.reduceOption = slices.map (frame.sliceResult config) ∧
      progress.lock = ⟨false, taken + (slices.map (frame.acquisitions config)).sum⟩ := by
  refine ⟨?_, ?_⟩
  · have all : progress.results = (slices.map (frame.sliceResult config)).map some := by
      refine List.ext_getElem? fun number => ?_
      cases found : slices[number]? with
      | none =>
        have beyond := List.getElem?_eq_none_iff.1 found
        rw [List.getElem?_eq_none (has.length ▸ beyond),
          List.getElem?_eq_none (by simpa using beyond)]
      | some slice =>
        have member : number ∈ order :=
          every.mem_iff.2 (List.mem_range.2 (List.getElem?_eq_some_iff.1 found).1)
        rw [has.results number slice found, if_pos member, List.getElem?_map, List.getElem?_map,
          found]
        rfl
    rw [all, List.reduceOption, List.filterMap_map]
    exact List.filterMap_some
  · have counted : (List.range slices.length).map (frame.acquisitionsAt config slices) =
        slices.map (frame.acquisitions config) := by
      refine List.ext_getElem (by simp) fun number within _ => ?_
      rw [List.length_map, List.length_range] at within
      simp [acquisitionsAt, within]
    rw [has.lock, (every.map _).sum_eq, counted]

end Counts

/-- No slice takes the lock if numbers are written sparsely. -/
theorem acquisitions_of_sparsify (asked : config.sparsifyFloats = true) (slice : Slice) :
    frame.acquisitions config slice = 0 := by
  refine ColumnWrite.acquisitions_of_sparsify fun write member => ?_
  unfold sliceWrites at member
  split at member
  · obtain ⟨column, _, found⟩ := List.mem_filterMap.1 member
    split at found
    · cases found
      exact asked
    · cases found
  · cases member

/-- In whatever order the slices of a frame are written, the context or the error is that of
writing them one after the other, and so is the lock. It ends up free, and was taken once for each
UTF-8 column that is not rejected as a whole, is not behind the first failing column of its slice,
and has a wide cell outside ASCII at or before its first cell that cannot be encoded. A frame that
fits into the machine words is written alike in them. -/
theorem write_in_any_order (cuts : frame.slices config = .ok slices) {order : List Nat}
    (every : order.Perm (List.range slices.length)) (taken : Nat) :
    frame.writeInOrder config order ⟨false, taken⟩ = frame.write config ⟨false, taken⟩ ∧
      (frame.write config ⟨false, taken⟩).2 =
        ⟨false, taken + (slices.map (frame.acquisitions config)).sum⟩ ∧
      (frame.FitsWords config → ∀ overflow, frame.writeWord overflow config ⟨false, taken⟩ =
        some (frame.write config ⟨false, taken⟩)) := by
  have inWords (fits : frame.FitsWords config) (overflow : Overflow) :
      frame.writeWord overflow config ⟨false, taken⟩ =
        some (frame.write config ⟨false, taken⟩) := writeWord_eq_some fits
  refine and_assoc.1 ⟨?_, inWords⟩
  have counts : ∀ slice ∈ slices, ∀ taken, (frame.writeSlice config slice ⟨false, taken⟩).2 =
      ⟨false, taken + frame.acquisitions config slice⟩ :=
    fun slice member => writeSlice_lock cuts member
  have inTurn := writeSlices_eq counts taken
  obtain ⟨results, lock⟩ :=
    ((Progress.has_start frame config slices taken).run counts order).complete every
  unfold writeInOrder InputFrame.write
  rw [cuts]
  cases asked : config.sparsifyFloats with
  | false => simp only [results, lock, inTurn, and_self]
  | true =>
    cases frame.denseField? with
    | none => simp only [results, lock, inTurn, and_self]
    | some field =>
      have none_taken : (slices.map (frame.acquisitions config)).sum = 0 := by
        refine List.sum_eq_zero fun count member => ?_
        obtain ⟨slice, _, rfl⟩ := List.mem_map.1 member
        exact acquisitions_of_sparsify asked slice
      simp only [none_taken, Nat.add_zero, and_self]

theorem write_in_any_order_brokenTicks :
    [3, 0, 2, 1].Perm (List.range 4) ∧
    brokenTicks.writeInOrder narrowSlices [3, 0, 2, 1] ⟨false, 5⟩ =
      brokenTicks.write narrowSlices ⟨false, 5⟩ ∧
    (brokenTicks.write narrowSlices ⟨false, 5⟩).1 =
      .error (.stringEncoding "symbol" 3 (.invalidUtf8 ⟨0, some 1⟩)) ∧
    (brokenTicks.write narrowSlices ⟨false, 5⟩).2 = ⟨false, 6⟩ := by
  have cuts : brokenTicks.slices narrowSlices =
      .ok [⟨⟨0, 1⟩, ⟨7, 9⟩⟩, ⟨⟨1, 2⟩, ⟨7, 9⟩⟩, ⟨⟨0, 1⟩, ⟨9, 11⟩⟩, ⟨⟨1, 2⟩, ⟨9, 11⟩⟩] := rfl
  have every : [3, 0, 2, 1].Perm (List.range 4) := by decide
  obtain ⟨same, lock, _⟩ := write_in_any_order cuts every 5
  exact ⟨every, same, rfl, lock.trans rfl⟩

/-- How often a slice would take the lock if a column that is rejected as a whole took it, too. -/
def wideColumns (frame : InputFrame) (config : Config) (slice : Slice) : Nat :=
  (throughFirst (fun write => !write.succeeds) (frame.sliceWrites config slice)).countP
    ColumnWrite.meetsWide

/-- A frame of one accented symbol in a tensor that is marked as ASCII. -/
def mismarkedSymbol : InputFrame where
  schema := ⟨"ticks", .rowCount, [⟨"symbol", .utf8Dynamic64⟩]⟩
  tensors := [{ Tensor.ofCells [.wide [0xe9]] with type := .asciiDynamic64 }]
  normalization := .raw
  userMetadata := none
  rows := 1
  offset := 0
  bucketizeDynamic := false

/-- A column that is rejected before its cells are read takes no lock for them. -/
theorem not_forall_acquisitions_eq_wideColumns :
    ¬∀ (frame : InputFrame) (config : Config) (slices : List Slice) (taken : Nat),
      frame.IsBuilt → frame.slices config = .ok slices →
      (frame.write config ⟨false, taken⟩).2 =
        ⟨false, taken + (slices.map (frame.wideColumns config)).sum⟩ := by
  intro counts
  have built : mismarkedSymbol.IsBuilt := rfl
  have same := counts mismarkedSymbol .default [⟨⟨0, 1⟩, ⟨0, 1⟩⟩] 0 built rfl
  have untouched : (mismarkedSymbol.write .default ⟨false, 0⟩).2 = ⟨false, 0⟩ := rfl
  have wide : ([(⟨⟨0, 1⟩, ⟨0, 1⟩⟩ : Slice)].map (mismarkedSymbol.wideColumns .default)).sum = 1 :=
    rfl
  rw [untouched, wide] at same
  cases same

end InputFrame

end FrameIngest
