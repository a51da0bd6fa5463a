import Mathlib
import FrameIngest.Bytes.LittleEndian.Lemmas
import FrameIngest.Frame.StringSize
import FrameIngest.Proofs.Frame.Faults
import FrameIngest.Proofs.Frame.WordWrite
import FrameIngest.Proofs.Segment.Representation

namespace FrameIngest

open StringPool

/-- The bytes that an entry keeps for a column of the frame. -/
def SliceEntry.columnBytes (entry : SliceEntry) (column : Nat) : List UInt8 :=
  match entry.segment with
  | none => []
  | some segment =>
    ((segment.columns[column - entry.slice.columns.start]?).map Column.bytes).getD []

/-- Whether an entry has the rows of its slice for a column of the frame. -/
def SliceEntry.hasColumn (column : Nat) (entry : SliceEntry) : Bool :=
  entry.slice.columns.contains column

/-- The offsets of a string column of the frame: for one block of rows after the other those in the
segment that has the column. -/
def FrameContext.columnBuffer (context : FrameContext) (column : Nat) : Buffer :=
  ⟨(context.entries.filter (SliceEntry.hasColumn column)).flatMap
    fun entry => entry.columnBytes column⟩

/-- The strings in the rows of a slice, without the rows that hold none. -/
def InputFrame.sliceTexts (frame : InputFrame) (slice : Slice) (field : SchemaField)
    (tensor : Tensor) : List (List UInt8) :=
  (List.range' (slice.rows.start - frame.offset) slice.rows.span).filterMap fun row =>
    (tensor.rowCell row).content? field.type.encoding

section Column

variable {start stop : Nat} {ranges : List (Nat × Nat)}

theorem Tiles.append {others : List (Nat × Nat)} (tiles : Tiles start stop (ranges ++ others)) :
    ∃ middle, Tiles start middle ranges ∧ Tiles middle stop others := by
  induction ranges generalizing start with
  | nil => exact ⟨start, rfl, tiles⟩
  | cons range ranges ih =>
    obtain ⟨begins, some_inside, rest⟩ := tiles
    obtain ⟨middle, before, behind⟩ := ih rest
    exact ⟨middle, ⟨begins, some_inside, before⟩, behind⟩

/-- A number lies in exactly one of the ranges. -/
theorem Tiles.exists_filter_eq (tiles : Tiles start stop ranges) {number : Nat}
    (from_start : start ≤ number) (below : number < stop) :
    ∃ range, ranges.filter (fun range => (ColumnRange.mk range.1 range.2).contains number) =
      [range] := by
  induction ranges generalizing start with
  | nil =>
    have same : start = stop := tiles
    omega
  | cons first ranges ih =>
    obtain ⟨begins, _, rest⟩ := tiles
    have reached : first.1 ≤ number := by omega
    by_cases inside : number < first.2
    · refine ⟨first, ?_⟩
      have here : (ColumnRange.mk first.1 first.2).contains number = true :=
        ColumnRange.contains_iff.2 ⟨reached, inside⟩
      have behind : ranges.filter (fun range => (ColumnRange.mk range.1 range.2).contains number) =
          [] := by
        refine List.filter_eq_nil_iff.2 fun range member found => ?_
        have bounds := rest.bounds member
        have contained := (ColumnRange.contains_iff.1 found).1
        simp only at contained
        omega
      rw [List.filter_cons, if_pos here, behind]
    · obtain ⟨range, found⟩ := ih rest (by omega)
      have elsewhere : ¬(ColumnRange.mk first.1 first.2).contains number = true := fun found =>
        inside (ColumnRange.contains_iff.1 found).2
      exact ⟨range, by rw [List.filter_cons, if_neg elsewhere, found]⟩

/-- A column has one slice in each block of rows. -/
theorem exists_filter_cut_eq {left right column : Nat} {groups : List (Nat × Nat)}
    (columns : Tiles left right groups) (from_left : left ≤ column) (below : column < right)
    (blocks : List (Nat × Nat)) :
    ∃ group : Nat × Nat, (cut blocks groups).filter (fun slice => slice.columns.contains column) =
      blocks.map fun block => ⟨⟨group.1, group.2⟩, ⟨block.1, block.2⟩⟩ := by
  obtain ⟨group, found⟩ := columns.exists_filter_eq from_left below
  refine ⟨group, ?_⟩
  rw [cut, List.filter_flatMap, List.map_eq_flatMap]
  refine List.flatMap_congr fun block _ => ?_
  rw [List.filter_map, Function.comp_def, found]
  rfl

end Column

section Views

variable {pool : StringPool} {contents : List (List UInt8)} {encoding : StringEncoding}
  {cells : List Cell} {offsets : List Nat} {texts : List (List UInt8)}

/-- The offsets that stand for strings lead to the strings of their cells. -/
theorem forall₂_view (stores : pool.Stores contents) (small : pool.byteSize < nanOffset)
    (stored : List.Forall₂ (Cell.StoredAs encoding contents) cells offsets) :
    List.Forall₂ (fun offset text => pool.view offset = .ok text) (offsets.filter isString)
      (cells.filterMap (Cell.content? encoding)) := by
  have limit : nanOffset < missingOffset := by decide
  induction stored with
  | nil => exact .nil
  | @cons cell offset cells offsets here _ ih =>
    rcases here.cases_of_small (stores.byteSize_eq ▸ small) with
      ⟨rfl, rfl⟩ | ⟨rfl, rfl⟩ | ⟨_, below, text, encodes, found⟩
    · rwa [List.filter_cons_of_neg (by decide), List.filterMap_cons_none rfl]
    · rwa [List.filter_cons_of_neg (by decide), List.filterMap_cons_none rfl]
    · have string : isString offset = true := by
        simp only [isString, decide_eq_true_eq]
        omega
      have content : cell.content? encoding = some text := by rw [Cell.content?, encodes]
      rw [List.filter_cons_of_pos string, List.filterMap_cons_some content]
      exact .cons (stores.view_eq found small) ih

theorem forall_offset_lt (small : totalSize contents < nanOffset)
    (stored : List.Forall₂ (Cell.StoredAs encoding contents) cells offsets) :
    ∀ offset ∈ offsets, offset < 256 ^ stringOffsetWidth := by
  induction stored with
  | nil => nofun
  | cons here _ ih => exact List.forall_mem_cons.2 ⟨here.offset_lt small, ih⟩

theorem foldlM_length_eq
    (views : List.Forall₂ (fun offset text => pool.view offset = .ok text) offsets texts)
    (longest : Nat) :
    offsets.foldlM (fun longest offset => return max longest (← pool.view offset).length)
      longest = .ok ((texts.map List.length).foldl max longest) := by
  induction views generalizing longest with
  | nil => rfl
  | cons here _ ih =>
    rw [List.foldlM_cons, here, List.map_cons, List.foldl_cons]
    exact ih _

theorem foldl_max_zero (lengths : List Nat) : lengths.foldl max 0 = lengths.max?.getD 0 := by
  cases lengths with
  | nil => rfl
  | cons first lengths => rw [List.max?_cons', Option.getD_some, List.foldl_cons, Nat.zero_max]

end Views

namespace FrameContext

theorem elements_words (words : List Nat) :
    (Buffer.mk (words.flatMap (LittleEndian.toBytes stringOffsetWidth))).elements Element.u64 =
      .ok (words.map (· % 256 ^ stringOffsetWidth)) := by
  have even : (Buffer.mk (words.flatMap (LittleEndian.toBytes stringOffsetWidth))).size %
      Element.u64.plain.width = 0 := by
    rw [Buffer.size, LittleEndian.length_flatMap_toBytes]
    exact Nat.mul_mod_left ..
  rw [Buffer.elements, Buffer.count, if_pos even]
  exact congrArg Except.ok (LittleEndian.numbers_flatMap_toBytes (by decide) words)

/-- The offsets of a slice are found behind those of the rows before it, of which some may be left
out as long as the buffer is said to begin with the first that is there. -/
theorem sliceOffsets_eq (position : Nat) {slice : Slice} {before own behind : List Nat}
    {start dropped : Nat} (begins : start + before.length = slice.rows.start)
    (whole : own.length = slice.rows.span)
    (fits : ∀ offset ∈ own, offset < 256 ^ stringOffsetWidth) (few : dropped ≤ before.length) :
    sliceOffsets position slice
      ⟨((before ++ own ++ behind).flatMap (LittleEndian.toBytes stringOffsetWidth)).drop
        (dropped * stringOffsetWidth)⟩ (start + dropped) = .ok own := by
  have rest : (before ++ own ++ behind).drop dropped = before.drop dropped ++ own ++ behind := by
    rw [List.append_assoc, List.drop_append_of_le_length few, List.append_assoc]
  have kept : own.map (· % 256 ^ stringOffsetWidth) = own := by
    refine (List.map_congr_left fun offset member => ?_).trans (List.map_id own)
    exact Nat.mod_eq_of_lt (fits offset member)
  have first : slice.rows.start - (start + dropped) = (before.drop dropped).length := by
    rw [List.length_drop]
    omega
  unfold sliceOffsets
  rw [LittleEndian.drop_flatMap_toBytes, rest, elements_words, List.map_append, List.map_append,
    kept, first, ← whole]
  simp only [bind, Except.bind]
  rw [if_neg (by omega), if_neg (by simp only [List.length_append, List.length_map]; omega)]
  rw [List.take_left' (by rw [List.length_append, List.length_map]),
    List.drop_left' (List.length_map _)]
  rfl

end FrameContext

/-- What an entry keeps of a string column: an offset for each row of its slice, among the strings of
its pool. -/
structure SliceEntry.Keeps (entry : SliceEntry) (column : Nat) (encoding : StringEncoding)
    (cells : List Cell) (pool : StringPool) (contents : List (List UInt8)) (offsets : List Nat) :
    Prop where
  held : entry.pool = some pool
  stores : pool.Stores contents
  stored : List.Forall₂ (Cell.StoredAs encoding contents) cells offsets
  bytes : entry.columnBytes column =
    offsets.flatMap (LittleEndian.toBytes stringOffsetWidth)

namespace FrameContext

variable {context : FrameContext} {position : Nat}

/-- The strings of a slice are found by the offsets behind those of the rows before it. -/
theorem sliceStrings_eq {column : Nat} {entry : SliceEntry} {encoding : StringEncoding}
    {cells : List Cell} {pool : StringPool} {contents : List (List UInt8)}
    {before offsets : List Nat} (behind : List Nat) {start dropped : Nat}
    (found : context.entries[position]? = some entry)
    (keeps : entry.Keeps column encoding cells pool contents offsets)
    (small : pool.byteSize < nanOffset) (begins : start + before.length = entry.slice.rows.start)
    (whole : offsets.length = entry.slice.rows.span) (few : dropped ≤ before.length) :
    context.sliceStrings position
      ⟨((before ++ offsets ++ behind).flatMap (LittleEndian.toBytes stringOffsetWidth)).drop
        (dropped * stringOffsetWidth)⟩ (start + dropped) =
      .ok (pool, offsets.filter isString) := by
  have total : totalSize contents < nanOffset := keeps.stores.byteSize_eq ▸ small
  unfold sliceStrings FrameContext.pool FrameContext.entry
  rw [found]
  simp only [bind, Except.bind, keeps.held]
  rw [sliceOffsets_eq position begins whole (forall_offset_lt total keeps.stored) few]
  rfl

theorem stringSizes_eq {source : Buffer} {firstRow : Nat} {pool : StringPool}
    {offsets : List Nat} {texts : List (List UInt8)}
    (strings : context.sliceStrings position source firstRow = .ok (pool, offsets))
    (views : List.Forall₂ (fun offset text => pool.view offset = .ok text) offsets texts) :
    context.maxStringSize position source firstRow =
        .ok ((texts.map List.length).max?.getD 0) ∧
      context.firstStringSize position source firstRow =
        .ok ((texts.map List.length).head?.getD 0) := by
  refine ⟨?_, ?_⟩
  · rw [maxStringSize, strings, ← foldl_max_zero]
    exact foldlM_length_eq views 0
  · rw [firstStringSize, strings]
    simp only [bind, Except.bind]
    cases views with
    | nil => rfl
    | cons here _ =>
      simp only [here]
      rfl

end FrameContext

namespace InputFrame

variable {frame : InputFrame} {config : Config} {column : Nat} {field : SchemaField}
  {tensor : Tensor}

theorem Wrote.exists_keeps {entry : SliceEntry} (wrote : frame.Wrote config entry)
    (isColumn : frame.ColumnIs column field tensor)
    (pooled : field.type.isDynamicString = true)
    (inside : entry.slice.columns.contains column = true) :
    ∃ pool contents offsets, entry.Keeps column field.type.encoding
      (frame.sliceWrite config entry.slice column field tensor).rowCells pool contents offsets := by
  obtain ⟨segment, schema, past, held, reach, columns⟩ := wrote
  obtain ⟨from_start, below⟩ := ColumnRange.contains_iff.1 inside
  obtain ⟨other, twin, named, given, isLatest⟩ := columns column from_start below
  obtain ⟨rfl, rfl⟩ := isColumn.eq ⟨named, given⟩
  obtain ⟨contents, holds⟩ := reach.holds
  obtain ⟨stored, found, leaves⟩ := holds.kept _ _ isLatest rfl
  cases leaves with
  | placed _ _ _ places => exact absurd places (ColumnWrite.not_places_of_dynamic pooled)
  | @pooled before offsets typed _ cells =>
    have whole : offsets.length = (frame.sliceWrite config entry.slice column other twin).rows := by
      rw [← cells.length_eq, ColumnWrite.length_rowCells]
    have dynamic : before.type.isDynamicString = true := by rw [typed]; exact pooled
    obtain ⟨pool, atPool⟩ := Option.isSome_iff_exists.1
      (reach.wellKept.pooled _ (List.mem_of_getElem? found) dynamic rfl)
    have stores := holds.stores
    rw [atPool, Option.getD_some] at stores
    refine ⟨pool, contents, offsets, ?_, stores, cells, ?_⟩
    · rw [SliceEntry.pool, held, Option.bind_some, atPool]
    · rw [SliceEntry.columnBytes, held]
      simp only [found, Option.map_some, Option.getD_some]
      rw [ColumnWrite.bytes_offsetColumn, whole, Nat.sub_self, List.replicate_zero,
        List.append_nil, List.flatMap_def]

/-- Entries that lie one behind the other keep an offset for each row between their ends. -/
theorem exists_words {start stop : Nat} {entries : List SliceEntry}
    (wrote : ∀ entry ∈ entries, frame.Wrote config entry)
    (isColumn : frame.ColumnIs column field tensor)
    (pooled : field.type.isDynamicString = true)
    (inside : ∀ entry ∈ entries, entry.slice.columns.contains column = true)
    (tiles : Tiles start stop
      (entries.map fun entry => (entry.slice.rows.start, entry.slice.rows.stop))) :
    ∃ words : List Nat, entries.flatMap (fun entry => entry.columnBytes column) =
        words.flatMap (LittleEndian.toBytes stringOffsetWidth) ∧
      start + words.length = stop := by
  induction entries generalizing start with
  | nil => exact ⟨[], rfl, tiles⟩
  | cons entry entries ih =>
    rw [List.forall_mem_cons] at wrote inside
    obtain ⟨begins, some_rows, rest⟩ := tiles
    obtain ⟨words, bytes, total⟩ := ih wrote.2 inside.2 rest
    obtain ⟨pool, contents, offsets, keeps⟩ := wrote.1.exists_keeps isColumn pooled inside.1
    have length := keeps.stored.length_eq
    rw [ColumnWrite.length_rowCells] at length
    change entry.slice.rows.stop - entry.slice.rows.start = _ at length
    simp only at begins some_rows total
    refine ⟨offsets ++ words, ?_, ?_⟩
    · rw [List.flatMap_cons, List.flatMap_append, keeps.bytes, bytes]
    · rw [List.length_append]
      omega

/-- The slices of a column lie one behind the other, from the first to the last row of the frame. -/
theorem tiles_of_column {lock : DecodeLock} {context : FrameContext}
    (written : (frame.write config lock).1 = .ok context)
    (below : column < frame.tensors.length) :
    Tiles frame.offset (frame.offset + frame.rows)
      ((context.entries.filter (SliceEntry.hasColumn column)).map fun entry =>
        (entry.slice.rows.start, entry.slice.rows.stop)) := by
  obtain ⟨cuts, _⟩ := write_eq_ok written
  obtain ⟨whole, rows, columns⟩ := slices_eq cuts
  obtain ⟨group, covering⟩ :=
    exists_filter_cut_eq columns (Nat.zero_le column) below (frame.blocks config)
  have slices : (context.entries.filter (SliceEntry.hasColumn column)).map SliceEntry.slice =
      (frame.blocks config).map fun block => ⟨⟨group.1, group.2⟩, ⟨block.1, block.2⟩⟩ := by
    rw [← covering, ← whole, FrameContext.slices, List.filter_map]
    rfl
  have ranges := congrArg (List.map fun slice : Slice => (slice.rows.start, slice.rows.stop))
    slices
  rw [List.map_map, List.map_map] at ranges
  exact (ranges.trans (List.map_id _)).symm ▸ rows

/-- The offsets of a column lie one behind the other, those of a slice behind as many as the frame
has rows before it. -/
theorem exists_columnBuffer_eq {lock : DecodeLock} {context : FrameContext}
    (written : (frame.write config lock).1 = .ok context)
    (isColumn : frame.ColumnIs column field tensor)
    (pooled : field.type.isDynamicString = true) {entry : SliceEntry}
    (member : entry ∈ context.entries)
    (inside : entry.slice.columns.contains column = true) :
    ∃ pool contents before offsets behind,
      entry.Keeps column field.type.encoding
        (frame.sliceWrite config entry.slice column field tensor).rowCells pool contents offsets ∧
      frame.offset + before.length = entry.slice.rows.start ∧
      context.columnBuffer column =
        ⟨(before ++ offsets ++ behind).flatMap (LittleEndian.toBytes stringOffsetWidth)⟩ := by
  have wrote := (write_eq_ok written).2
  have tiles := tiles_of_column written (List.getElem?_eq_some_iff.1 isColumn.given).1
  obtain ⟨front, back, split⟩ := List.append_of_mem member
  have here : SliceEntry.hasColumn column entry = true := inside
  rw [split, List.filter_append, List.filter_cons_of_pos here, List.map_append] at tiles
  obtain ⟨middle, frontTiles, begins, _, backTiles⟩ := tiles.append
  have wroteFront : ∀ other ∈ front.filter (SliceEntry.hasColumn column),
      frame.Wrote config other := fun other found =>
    wrote other (split ▸ List.mem_append_left _ (List.mem_filter.1 found).1)
  have wroteBack : ∀ other ∈ back.filter (SliceEntry.hasColumn column),
      frame.Wrote config other := fun other found =>
    wrote other (split ▸ List.mem_append_right _
      (List.mem_cons_of_mem _ (List.mem_filter.1 found).1))
  obtain ⟨before, beforeBytes, total⟩ := exists_words wroteFront isColumn pooled
    (fun other found => (List.mem_filter.1 found).2) frontTiles
  obtain ⟨behind, behindBytes, _⟩ := exists_words wroteBack isColumn pooled
    (fun other found => (List.mem_filter.1 found).2) backTiles
  obtain ⟨pool, contents, offsets, keeps⟩ :=
    (wrote entry member).exists_keeps isColumn pooled inside
  refine ⟨pool, contents, before, offsets, behind, keeps, total.trans begins.symm, ?_⟩
  rw [FrameContext.columnBuffer, split, List.filter_append, List.filter_cons_of_pos here,
    List.flatMap_append, List.flatMap_cons, beforeBytes, keeps.bytes, behindBytes,
    List.flatMap_append, List.flatMap_append, List.append_assoc]

/-- The lengths that are found for a slice are those of the longest and the first of the strings
that were written there, and zero if there are none. What the buffer has for rows before the slice
may be left out. A row holds no string exactly if its cell is missing or a NaN. Machine words change
nothing as long as the frame fits into them. -/
theorem write_string_sizes {lock : DecodeLock} {context : FrameContext}
    (written : (frame.write config lock).1 = .ok context)
    (isColumn : frame.ColumnIs column field tensor)
    (pooled : field.type.isDynamicString = true) {position : Nat} {entry : SliceEntry}
    (found : context.entries[position]? = some entry)
    (inside : entry.slice.columns.contains column = true)
    (small : ∀ pool, entry.pool = some pool → pool.byteSize < nanOffset) {dropped : Nat}
    (before_slice : frame.offset + dropped ≤ entry.slice.rows.start) :
    context.maxStringSize position
        ⟨(context.columnBuffer column).bytes.drop (dropped * stringOffsetWidth)⟩
        (frame.offset + dropped) =
      .ok (((frame.sliceTexts entry.slice field tensor).map List.length).max?.getD 0) ∧
    context.firstStringSize position
        ⟨(context.columnBuffer column).bytes.drop (dropped * stringOffsetWidth)⟩
        (frame.offset + dropped) =
      .ok (((frame.sliceTexts entry.slice field tensor).map List.length).head?.getD 0) ∧
    (∀ row, entry.slice.rows.contains (frame.offset + row) = true →
      ((tensor.rowCell row).content? field.type.encoding = none ↔
        tensor.rowCell row = .none ∨ tensor.rowCell row = .nan)) ∧
    (frame.FitsWords config → ∀ overflow,
      frame.writeWord overflow config lock = some (frame.write config lock)) := by
  obtain ⟨pool, contents, before, offsets, behind, keeps, begins, buffer⟩ :=
    exists_columnBuffer_eq written isColumn pooled (List.mem_of_getElem? found) inside
  have fewBytes := small pool keeps.held
  have whole : offsets.length = entry.slice.rows.span := by
    rw [← keeps.stored.length_eq, ColumnWrite.length_rowCells]
    rfl
  have texts : (frame.sliceWrite config entry.slice column field tensor).rowCells.filterMap
      (Cell.content? field.type.encoding) = frame.sliceTexts entry.slice field tensor :=
    List.filterMap_map ..
  have views := forall₂_view keeps.stores fewBytes keeps.stored
  rw [texts] at views
  have few : dropped ≤ before.length := by omega
  have strings := FrameContext.sliceStrings_eq behind found keeps fewBytes begins whole few
  rw [buffer]
  obtain ⟨longest, first⟩ := FrameContext.stringSizes_eq strings views
  refine ⟨longest, first, fun row inRows => ?_, fun fits _ => writeWord_eq_some fits⟩
  obtain ⟨place, below, rfl⟩ := exists_sliceRow (by omega) inRows
  obtain ⟨_, _, stored⟩ := exists_getElem?_of_forall₂ keeps.stored
    (ColumnWrite.getElem?_rowCells below)
  exact stored.content?_eq_none_iff

/-- A frame of five symbols and five sizes that starts at row 7 of its stream. -/
def fiveTicks : InputFrame where
  schema := ⟨"ticks", .rowCount, [⟨"symbol", .utf8Dynamic64⟩, ⟨"size", .uint8⟩]⟩
  tensors := [.ofCells [.bytes [0x78], .nan, .bytes [], .wide [0xe9, 0x78], .none],
    .ofNumbers .u8 [1, 2, 3, 4, 5]]
  normalization := .raw
  userMetadata := none
  rows := 5
  offset := 7
  bucketizeDynamic := false

/-- The frame in slices of two rows and one column. -/
def writtenTicks : FrameContext :=
  match (fiveTicks.write narrowSlices .free).1 with
  | .ok context => context
  | .error _ => fiveTicks.contextOf []

theorem write_string_sizes_fiveTicks :
    (fiveTicks.write narrowSlices .free).1 = .ok writtenTicks ∧
    writtenTicks.maxStringSize 2 ⟨(writtenTicks.columnBuffer 0).bytes.drop (2 * 8)⟩ (7 + 2) =
      .ok 3 ∧
    writtenTicks.firstStringSize 2 ⟨(writtenTicks.columnBuffer 0).bytes.drop (2 * 8)⟩ (7 + 2) =
      .ok 0 := by
  have written : (fiveTicks.write narrowSlices .free).1 = .ok writtenTicks := rfl
  have isColumn : fiveTicks.ColumnIs 0 ⟨"symbol", .utf8Dynamic64⟩
      (.ofCells [.bytes [0x78], .nan, .bytes [], .wide [0xe9, 0x78], .none]) := ⟨rfl, rfl⟩
  obtain ⟨entry, found, slice, small⟩ : ∃ entry, writtenTicks.entries[2]? = some entry ∧
      entry.slice = ⟨⟨0, 1⟩, ⟨9, 11⟩⟩ ∧
      ∀ pool, entry.pool = some pool → pool.byteSize < nanOffset :=
    ⟨_, rfl, rfl, by rintro pool ⟨⟩; decide⟩
  have inside : entry.slice.columns.contains 0 = true := by rw [slice]; rfl
  have before_slice : fiveTicks.offset + 2 ≤ entry.slice.rows.start := by
    rw [slice]
    exact Nat.le_refl 9
  obtain ⟨longest, first, _⟩ :=
    write_string_sizes written isColumn rfl found inside small before_slice
  rw [slice] at longest first
  exact ⟨written, longest, first⟩

end InputFrame

end FrameIngest
