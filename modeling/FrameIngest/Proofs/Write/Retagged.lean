import Mathlib
import FrameIngest.Proofs.Write.Outcome

namespace FrameIngest

namespace Tensor

/-- A tensor after its elements were to be seen as each of some types in turn. Where they may not
be, it stays as it was. -/
def retagAll (tensor : Tensor) (types : List DataType) : Tensor :=
  types.foldl (fun tensor type => (tensor.retag type).toOption.getD tensor) tensor

theorem retag_getD (tensor : Tensor) (type : DataType) :
    (tensor.retag type).toOption.getD tensor =
      if tensor.accepts type then { tensor with type } else tensor := by
  unfold retag
  split <;> rfl

/-- Of the types that a tensor was to be seen as, the last that suits its elements is left. Which of
them do so does not depend on the types before. -/
theorem retagAll_eq (tensor : Tensor) (types : List DataType) :
    tensor.retagAll types =
      { tensor with type := (types.filter tensor.accepts).getLastD tensor.type } := by
  induction types generalizing tensor with
  | nil => rfl
  | cons type types ih =>
    rw [retagAll, List.foldl_cons, retag_getD]
    cases accepted : tensor.accepts type with
    | true =>
      have same : { tensor with type }.accepts = tensor.accepts := rfl
      rw [if_pos rfl, List.filter_cons_of_pos accepted, List.getLastD_cons]
      exact (ih { tensor with type }).trans (by rw [same])
    | false =>
      rw [if_neg Bool.false_ne_true, List.filter_cons_of_neg (by rw [accepted]; exact nofun)]
      exact ih tensor

theorem IsSafe.retagAll {tensor : Tensor} (safe : tensor.IsSafe) (types : List DataType) :
    (tensor.retagAll types).IsSafe := by
  induction types generalizing tensor with
  | nil => exact safe
  | cons type types ih =>
    rw [Tensor.retagAll, List.foldl_cons]
    cases seen : tensor.retag type with
    | error e => exact ih safe
    | ok retagged => exact ih (safe.retag seen)

end Tensor

namespace ColumnWrite

variable {write : ColumnWrite} {segment : Segment} {lock : DecodeLock}

theorem write_error_of_tagged (tagged : write.tensor.Tagged) {e : IngestError}
    (failed : (segment.write lock write).outcome = .error e) :
    segment.write lock write = ⟨.error e, segment, lock⟩ := by
  have checks : write.check segment = _ := check_of_tagged tagged
  rw [write_outcome_eq_fault tagged] at failed
  cases faulty : write.fault? segment with
  | some cause =>
    rw [faulty] at checks failed
    cases failed
    exact write_outcome_of_check checks
  | none =>
    rw [faulty] at failed
    cases failed

theorem isDynamicString_of_stopped (tagged : write.tensor.Tagged) {failure : EncodingError}
    (stopped : (segment.write lock write).outcome = .ok (some failure)) :
    write.type.isDynamicString = true := by
  rw [write_outcome_eq_fault tagged] at stopped
  split at stopped
  · cases stopped
  · by_contra plain
    rw [if_neg plain] at stopped
    cases stopped

/-- However often the elements of a tensor are seen as another type, they stay what they are and
their type suits them. A write of them ends at the first check that it does not pass, and leaves
everything as it was, or it succeeds, except that a cell of a dynamic string may have no
encoding. -/
theorem write_retagged {source : Tensor} (safe : source.IsSafe) (types : List DataType) :
    ((source.retagAll types).shape = source.shape ∧
      (source.retagAll types).strides = source.strides ∧
      (source.retagAll types).width = source.width ∧
      (source.retagAll types).holdsObjects = source.holdsObjects) ∧
    ((source.retagAll types).holdsObjects = (source.retagAll types).type.isDynamicString ∧
      ((source.retagAll types).holdsObjects = false →
        (source.retagAll types).type.isFixedString = true ∨
          (source.retagAll types).type.fixedWidth? = some (source.retagAll types).width)) ∧
    ∀ (segment : Segment) (lock : DecodeLock) (write : ColumnWrite),
      write.tensor = source.retagAll types →
      ((segment.write lock write).outcome =
        match write.fault? segment with
        | some e => .error e
        | none => .ok (if write.type.isDynamicString then
            write.encoding.firstFailure? write.rowCells else none)) ∧
      (∀ e, (segment.write lock write).outcome = .error e →
        segment.write lock write = ⟨.error e, segment, lock⟩) ∧
      ∀ failure, (segment.write lock write).outcome = .ok (some failure) →
        write.type.isDynamicString = true := by
  have tagged := (safe.retagAll types).tagged
  refine ⟨?_, ⟨tagged.objects, fun plain => tagged.width (tagged.objects ▸ plain)⟩, ?_⟩
  · rw [Tensor.retagAll_eq]
    exact ⟨rfl, rfl, rfl, rfl⟩
  · intro segment lock write same
    rw [← same] at tagged
    exact ⟨write_outcome_eq_fault tagged, fun _ => write_error_of_tagged tagged,
      fun _ => isDynamicString_of_stopped tagged⟩

/-- Two times, first seen as floats, which they are too wide for, then as strings, as nothing and as
times. -/
def retaggedTimes : ColumnWrite where
  column := 0
  type := .nanosecondsUtc64
  tensor := (Tensor.ofNumbers .i64 [5, 7]).retagAll
    [.float32, .asciiFixed64, .empty, .nanosecondsUtc64]
  firstRow := 0
  rows := 2
  sparsify := false

/-- A segment of one column of times. -/
def times : Segment :=
  .ofSchema ⟨"ticks", .rowCount, [⟨"time", .nanosecondsUtc64⟩]⟩

theorem write_retagged_times :
    retaggedTimes.tensor.type = .nanosecondsUtc64 ∧ retaggedTimes.tensor.width = 8 ∧
    (times.write .free retaggedTimes).outcome = .ok none ∧
    times.write .free { retaggedTimes with sparsify := true, rows := 3 } =
      ⟨.error (.sparsifyType .nanosecondsUtc64), times, .free⟩ := by
  obtain ⟨⟨_, _, width, _⟩, _, written⟩ := write_retagged
    (.numbers .i64 [5, 7]) [.float32, .asciiFixed64, .empty, .nanosecondsUtc64]
  obtain ⟨outcome, _⟩ := written times .free retaggedTimes rfl
  obtain ⟨rejected, untouched, _⟩ :=
    written times .free { retaggedTimes with sparsify := true, rows := 3 } rfl
  exact ⟨rfl, width, outcome.trans rfl, untouched _ (rejected.trans rfl)⟩

end ColumnWrite

end FrameIngest
