import Mathlib
import FrameIngest.Proofs.Frame.StringSizes

namespace FrameIngest

namespace Buffer

variable {source : Buffer} {first count total : Nat}

/-- Some words of a buffer, the first of them at position `first`. -/
def words (source : Buffer) (first count : Nat) : List Nat :=
  (List.range' first count).map (source.get Element.u64)

theorem elements_eq_words (whole : source.size % 8 = 0) :
    source.elements Element.u64 = .ok (source.words 0 (source.size / 8)) := by
  have counted : source.count Element.u64 = .ok (source.size / 8) := if_pos whole
  have found : source.elements Element.u64 = .ok (LittleEndian.numbers 8 source.bytes) := by
    rw [elements, counted]
    rfl
  have length : (LittleEndian.numbers 8 source.bytes).length = source.size / 8 :=
    LittleEndian.length_read ..
  rw [found]
  refine congrArg Except.ok (List.ext_getElem? fun position => ?_)
  by_cases inside : position < source.size / 8
  · rw [getElem?_elements counted found inside, words, List.getElem?_map,
      List.getElem?_range' inside, Option.map_some, Nat.zero_add, Nat.one_mul]
  · have beyond : (source.words 0 (source.size / 8)).length ≤ position := by
      rw [words, List.length_map, List.length_range']
      exact Nat.le_of_not_lt inside
    rw [List.getElem?_eq_none (by omega), List.getElem?_eq_none beyond]

theorem drop_take_words (inside : first + count ≤ total) :
    ((source.words 0 total).take (first + count)).drop first = source.words first count := by
  obtain ⟨rest, rfl⟩ := Nat.exists_eq_add_of_le inside
  have front : (List.range' 0 (first + count + rest)).take (first + count) =
      List.range' 0 (first + count) := by
    rw [← List.range'_append_1, List.take_left' List.length_range']
  rw [words, words, ← List.map_take, ← List.map_drop, front, List.drop_range', Nat.zero_add,
    Nat.mul_one, Nat.add_sub_cancel_left]

theorem words_congr {other : Buffer}
    (same : ∀ place, first ≤ place → place < first + count →
      other.get Element.u64 place = source.get Element.u64 place) :
    other.words first count = source.words first count := by
  refine List.map_congr_left fun place member => ?_
  obtain ⟨from_first, below⟩ := List.mem_range'_1.1 member
  exact same place from_first below

end Buffer

/-- The offsets of the strings in the rows of a slice, in a buffer that begins with the offset of
row `firstRow`. -/
def Slice.stringOffsets (slice : Slice) (source : Buffer) (firstRow : Nat) : List Nat :=
  (source.words (slice.rows.start - firstRow) slice.rows.span).filter isString

/-- Why the rows of a slice are not all in a buffer, by the first of the checks. -/
def Slice.extentFault? (slice : Slice) (position : Nat) (source : Buffer) (firstRow : Nat) :
    Option IngestError :=
  let first := slice.rows.start - firstRow
  let last := first + slice.rows.span
  if source.size % 8 ≠ 0 then some .partialElement
  else if slice.rows.start < firstRow then
    some (.outOfBounds (.beforeBuffer position slice.rows.start firstRow))
  else if source.size / 8 < last then
    some (.outOfBounds (.afterBuffer position slice.rows first last (source.size / 8)))
  else none

/-- What is wrong with a slice before the first of its strings is looked up. -/
def SliceEntry.stringsFault? (entry : SliceEntry) (position : Nat) (source : Buffer)
    (firstRow : Nat) : Option IngestError :=
  if entry.pool.isNone then some (.missingStringPool position)
  else entry.slice.extentFault? position source firstRow

namespace FrameContext

variable {context : FrameContext} {position : Nat} {entry : SliceEntry} {source : Buffer}
  {firstRow : Nat}

theorem sliceOffsets_eq_words (position : Nat) (slice : Slice) (source : Buffer) (firstRow : Nat) :
    sliceOffsets position slice source firstRow =
      (slice.extentFault? position source firstRow).elim
        (.ok (source.words (slice.rows.start - firstRow) slice.rows.span)) .error := by
  unfold Slice.extentFault?
  by_cases whole : source.size % 8 = 0
  · have length : (source.words 0 (source.size / 8)).length = source.size / 8 := by
      rw [Buffer.words, List.length_map, List.length_range']
    rw [if_neg (not_not.2 whole), sliceOffsets, Buffer.elements_eq_words whole]
    simp only [bind, Except.bind, length]
    split_ifs with before behind
    · rfl
    · rfl
    · rw [Buffer.drop_take_words (Nat.le_of_not_lt behind)]
      rfl
  · have counted : source.count Element.u64 = .error .partialElement := if_neg whole
    rw [if_pos whole, sliceOffsets, Buffer.elements, counted]
    rfl

/-- The offsets of a slice are found unless something is wrong with it. -/
theorem sliceStrings_eq_stringOffsets (found : context.entries[position]? = some entry) :
    (∀ e, entry.stringsFault? position source firstRow = some e →
      context.sliceStrings position source firstRow = .error e) ∧
    (entry.stringsFault? position source firstRow = none → ∃ pool, entry.pool = some pool ∧
      context.sliceStrings position source firstRow =
        .ok (pool, entry.slice.stringOffsets source firstRow)) := by
  unfold SliceEntry.stringsFault? sliceStrings FrameContext.pool FrameContext.entry
  rw [found]
  cases held : entry.pool with
  | none =>
    simp only [bind, Except.bind, held, Option.isNone_none, if_true, Option.some.injEq]
    exact ⟨fun e missing => by rw [missing], nofun⟩
  | some pool =>
    simp only [bind, Except.bind, held, sliceOffsets_eq_words, Option.isNone_some,
      Bool.false_eq_true, if_false]
    refine ⟨fun e fault => ?_, fun clean => ⟨pool, rfl, ?_⟩⟩
    · rw [fault]
      rfl
    · rw [clean]
      rfl

end FrameContext

namespace StringPool

variable {pool : StringPool} {offsets : List Nat} {texts : List (List UInt8)}

/-- The longest and the first length of the strings at some offsets, not each of which need lead to
a string. The longest length is known if all of them do, the first one if the first of them does. -/
structure Measures (pool : StringPool) (offsets : List Nat)
    (longest first : Except IngestError Nat) : Prop where
  known : (∃ size, longest = .ok size) ↔ ∀ offset ∈ offsets, ∃ text, pool.view offset = .ok text
  bound : ∀ size, longest = .ok size → ∀ offset ∈ offsets, ∀ text, pool.view offset = .ok text →
    text.length ≤ size
  attained : ∀ size, longest = .ok size → offsets = [] ∧ size = 0 ∨
    ∃ offset ∈ offsets, ∃ text, pool.view offset = .ok text ∧ text.length = size
  unknown : ∀ e, longest = .error e → ∃ before offset behind, offsets = before ++ offset :: behind ∧
    (∀ earlier ∈ before, ∃ text, pool.view earlier = .ok text) ∧ pool.view offset = .error e
  first : first = offsets.head?.elim (.ok 0) fun offset => (pool.view offset).map List.length

/-- The offsets lead to strings up to the first of them that does not. -/
theorem exists_views (pool : StringPool) (offsets : List Nat) :
    (∃ texts, List.Forall₂ (fun offset text => pool.view offset = .ok text) offsets texts) ∨
      ∃ before offset behind texts e, offsets = before ++ offset :: behind ∧
        List.Forall₂ (fun offset text => pool.view offset = .ok text) before texts ∧
        pool.view offset = .error e := by
  induction offsets with
  | nil => exact Or.inl ⟨[], .nil⟩
  | cons offset offsets ih =>
    cases here : pool.view offset with
    | error e => exact Or.inr ⟨[], offset, offsets, [], e, rfl, .nil, here⟩
    | ok text =>
      rcases ih with ⟨texts, views⟩ | ⟨before, failing, behind, texts, e, split, views, fails⟩
      · exact Or.inl ⟨text :: texts, .cons here views⟩
      · exact Or.inr ⟨offset :: before, failing, behind, text :: texts, e,
          by rw [split, List.cons_append], .cons here views, fails⟩

section Views

variable (views : List.Forall₂ (fun offset text => pool.view offset = .ok text) offsets texts)
include views

theorem mem_iff_of_views {text : List UInt8} :
    text ∈ texts ↔ ∃ offset ∈ offsets, pool.view offset = .ok text := by
  induction views with
  | nil => simp
  | cons here _ ih =>
    rw [List.mem_cons, List.exists_mem_cons_iff, ih, here, Except.ok.injEq, eq_comm]

theorem exists_text_of_views : ∀ offset ∈ offsets, ∃ text, pool.view offset = .ok text := by
  induction views with
  | nil => nofun
  | cons here _ ih => exact List.forall_mem_cons.2 ⟨⟨_, here⟩, ih⟩

theorem foldlM_length_error {offset : Nat} {e : IngestError} (fails : pool.view offset = .error e)
    (behind : List Nat) (longest : Nat) :
    (offsets ++ offset :: behind).foldlM
      (fun longest offset => return max longest (← pool.view offset).length) longest =
      .error e := by
  induction views generalizing longest with
  | nil =>
    rw [List.nil_append, List.foldlM_cons, fails]
    rfl
  | cons here _ ih =>
    rw [List.cons_append, List.foldlM_cons, here]
    exact ih _

end Views

theorem measures_foldlM (pool : StringPool) (offsets : List Nat) :
    pool.Measures offsets
      (offsets.foldlM (fun longest offset => return max longest (← pool.view offset).length) 0)
      (offsets.head?.elim (.ok 0) fun offset => (pool.view offset).map List.length) := by
  rcases pool.exists_views offsets with
    ⟨texts, views⟩ | ⟨before, failing, behind, texts, e, rfl, views, fails⟩
  · have lengths : offsets.foldlM
        (fun longest offset => return max longest (← pool.view offset).length) 0 =
          .ok ((texts.map List.length).max?.getD 0) := by
      rw [foldlM_length_eq views, foldl_max_zero]
    rw [lengths]
    refine ⟨iff_of_true ⟨_, rfl⟩ (exists_text_of_views views), ?_, ?_, ?_, rfl⟩
    · rintro size ⟨⟩ offset member text found
      exact List.le_max?_getD_of_mem
        (List.mem_map_of_mem ((mem_iff_of_views views).2 ⟨offset, member, found⟩))
    · rintro size ⟨⟩
      cases most : (texts.map List.length).max? with
      | none =>
        have nothing : texts = [] := List.map_eq_nil_iff.1 (List.max?_eq_none_iff.1 most)
        rw [nothing] at views
        exact Or.inl ⟨List.forall₂_nil_right_iff.1 views, rfl⟩
      | some size =>
        obtain ⟨text, member, rfl⟩ := List.mem_map.1 (List.max?_mem most)
        obtain ⟨offset, inside, found⟩ := (mem_iff_of_views views).1 member
        exact Or.inr ⟨offset, inside, text, found, rfl⟩
    · rintro e ⟨⟩
  · rw [foldlM_length_error views fails]
    refine ⟨iff_of_false ?_ fun all => ?_, ?_, ?_, ?_, rfl⟩
    · rintro ⟨size, ⟨⟩⟩
    · obtain ⟨text, found⟩ := all failing (by simp)
      rw [fails] at found
      cases found
    · rintro size ⟨⟩
    · rintro size ⟨⟩
    · rintro _ ⟨⟩
      exact ⟨before, failing, behind, rfl, exists_text_of_views views, fails⟩

/-- The first length is known if the longest one is, and is no longer. -/
theorem Measures.first_le {longest first : Except IngestError Nat}
    (measures : pool.Measures offsets longest first) {size : Nat} (most : longest = .ok size) :
    ∃ length, first = .ok length ∧ length ≤ size := by
  have all := measures.known.1 ⟨size, most⟩
  have bound := measures.bound size most
  rw [measures.first]
  cases offsets with
  | nil => exact ⟨0, rfl, Nat.zero_le size⟩
  | cons offset offsets =>
    obtain ⟨text, found⟩ := all offset List.mem_cons_self
    have length : (pool.view offset).map List.length = .ok text.length := by
      rw [found]
      rfl
    exact ⟨text.length, length, bound offset List.mem_cons_self text found⟩

end StringPool

theorem Slice.le_start_of_extentFault? {slice : Slice} {position firstRow : Nat} {source : Buffer}
    (clean : slice.extentFault? position source firstRow = none) : firstRow ≤ slice.rows.start := by
  by_contra before
  have start : slice.rows.start < firstRow := Nat.lt_of_not_le before
  simp only [extentFault?, if_pos start] at clean
  split at clean <;> cases clean

/-- Only the offsets in the rows of a slice count. -/
theorem Slice.stringOffsets_congr {slice : Slice} {source other : Buffer} {firstRow : Nat}
    (reached : firstRow ≤ slice.rows.start)
    (same : ∀ row, slice.rows.contains row = true →
      other.get Element.u64 (row - firstRow) = source.get Element.u64 (row - firstRow)) :
    slice.stringOffsets other firstRow = slice.stringOffsets source firstRow := by
  refine congrArg (List.filter isString) (Buffer.words_congr fun place from_first below => ?_)
  rw [RowRange.span] at below
  have row := same (place + firstRow) (RowRange.contains_iff.2 ⟨by omega, by omega⟩)
  rwa [Nat.add_sub_cancel] at row

theorem SliceEntry.stringsFault?_congr {entry : SliceEntry} {position firstRow : Nat}
    {source other : Buffer} (alike : other.size = source.size ∨
      entry.stringsFault? position other firstRow = none ∧
        entry.stringsFault? position source firstRow = none) :
    entry.stringsFault? position other firstRow = entry.stringsFault? position source firstRow := by
  rcases alike with sizes | ⟨clean, otherClean⟩
  · -- A fault tells the size of the buffer and nothing of what is in it.
    simp only [stringsFault?, Slice.extentFault?, sizes]
  · rw [clean, otherClean]

namespace FrameContext

variable {context : FrameContext} {position : Nat} {entry : SliceEntry} {source : Buffer}
  {firstRow : Nat}

theorem stringSizes_of_error {e : IngestError}
    (failed : context.sliceStrings position source firstRow = .error e) :
    context.maxStringSize position source firstRow = .error e ∧
      context.firstStringSize position source firstRow = .error e := by
  rw [maxStringSize, firstStringSize, failed]
  exact ⟨rfl, rfl⟩

theorem measures_of_sliceStrings {pool : StringPool} {offsets : List Nat}
    (strings : context.sliceStrings position source firstRow = .ok (pool, offsets)) :
    pool.Measures offsets (context.maxStringSize position source firstRow)
      (context.firstStringSize position source firstRow) := by
  have longest : context.maxStringSize position source firstRow =
      offsets.foldlM (fun longest offset => return max longest (← pool.view offset).length) 0 := by
    rw [maxStringSize, strings]
    rfl
  have first : context.firstStringSize position source firstRow =
      offsets.head?.elim (.ok 0) fun offset => (pool.view offset).map List.length := by
    rw [firstStringSize, strings]
    cases offsets with
    | nil => rfl
    | cons offset offsets =>
      simp only [bind, Except.bind, List.head?_cons, Option.elim_some]
      cases pool.view offset <;> rfl
  rw [longest, first]
  exact pool.measures_foldlM offsets

/-- For any slice, buffer and first row of the buffer: if the slice has no pool, the buffer does not
consist of whole offsets, or the rows of the slice begin before the buffer or end behind it, then
the first of these is the error of both lengths. Otherwise they are those of the strings that the
offsets in the rows of the slice lead to. Offsets in other rows do not matter. -/
theorem stringSizes_exact (found : context.entries[position]? = some entry) (source : Buffer)
    (firstRow : Nat) :
    (∀ e, entry.stringsFault? position source firstRow = some e →
      context.maxStringSize position source firstRow = .error e ∧
      context.firstStringSize position source firstRow = .error e) ∧
    (entry.stringsFault? position source firstRow = none → ∃ pool, entry.pool = some pool ∧
      pool.Measures (entry.slice.stringOffsets source firstRow)
        (context.maxStringSize position source firstRow)
        (context.firstStringSize position source firstRow)) ∧
    (∀ longest, context.maxStringSize position source firstRow = .ok longest →
      ∃ first, context.firstStringSize position source firstRow = .ok first ∧ first ≤ longest) ∧
    (∀ other : Buffer, other.size = source.size ∨
        entry.stringsFault? position other firstRow = none ∧
          entry.stringsFault? position source firstRow = none →
      (∀ row, entry.slice.rows.contains row = true →
        other.get Element.u64 (row - firstRow) = source.get Element.u64 (row - firstRow)) →
      context.maxStringSize position other firstRow =
          context.maxStringSize position source firstRow ∧
        context.firstStringSize position other firstRow =
          context.firstStringSize position source firstRow) := by
  have strings (buffer : Buffer) :=
    @sliceStrings_eq_stringOffsets context position entry buffer firstRow found
  cases checked : entry.stringsFault? position source firstRow with
  | some e =>
    have failed := stringSizes_of_error ((strings source).1 e checked)
    refine ⟨?_, ?_, ?_, fun other alike _ => ?_⟩
    · rintro _ ⟨⟩
      exact failed
    · rintro ⟨⟩
    · intro longest most
      rw [failed.1] at most
      cases most
    · have fault := (SliceEntry.stringsFault?_congr (checked ▸ alike)).trans checked
      have others := stringSizes_of_error ((strings other).1 e fault)
      rw [others.1, others.2, failed.1, failed.2]
      exact ⟨rfl, rfl⟩
  | none =>
    obtain ⟨pool, held, extent⟩ := (strings source).2 checked
    have measures := measures_of_sliceStrings extent
    refine ⟨?_, fun _ => ⟨pool, held, measures⟩, fun longest most => measures.first_le most,
      fun other alike same => ?_⟩
    · rintro e ⟨⟩
    obtain ⟨otherPool, otherHeld, otherExtent⟩ :=
      (strings other).2 ((SliceEntry.stringsFault?_congr (checked ▸ alike)).trans checked)
    cases Option.some.inj (held.symm.trans otherHeld)
    have reached : firstRow ≤ entry.slice.rows.start := by
      rw [SliceEntry.stringsFault?, held] at checked
      exact Slice.le_start_of_extentFault? checked
    have equal : context.sliceStrings position other firstRow =
        context.sliceStrings position source firstRow := by
      rw [extent, otherExtent, Slice.stringOffsets_congr reached same]
    rw [maxStringSize, maxStringSize, firstStringSize, firstStringSize, equal]
    exact ⟨rfl, rfl⟩

/-- Offsets of rows 8 to 11, of which only those of rows 9 and 10 lead to strings of their slice. -/
def strayOffsets : Buffer := .ofNumbers Element.u64 [5, 0, 8, 1000]

/-- The same offsets in rows 9 and 10, and others around them. -/
def otherStrayOffsets : Buffer := .ofNumbers Element.u64 [nanOffset, 0, 8, UInt64.size - 9]

theorem stringSizes_exact_writtenTicks :
    InputFrame.writtenTicks.maxStringSize 2 strayOffsets 8 = .ok 3 ∧
    InputFrame.writtenTicks.firstStringSize 2 strayOffsets 8 = .ok 0 ∧
    InputFrame.writtenTicks.maxStringSize 2 otherStrayOffsets 8 = .ok 3 ∧
    InputFrame.writtenTicks.firstStringSize 2 otherStrayOffsets 8 = .ok 0 ∧
    InputFrame.writtenTicks.maxStringSize 2 strayOffsets 10 =
      .error (.outOfBounds (.beforeBuffer 2 9 10)) := by
  have third : InputFrame.writtenTicks.entries[2]?.map (fun entry =>
      (entry.slice, entry.pool.isNone)) = some (⟨⟨0, 1⟩, ⟨9, 11⟩⟩, false) := by decide
  obtain ⟨entry, found, parts⟩ := Option.map_eq_some_iff.1 third
  obtain ⟨slice, held⟩ := Prod.mk.inj parts
  obtain ⟨_, _, _, others⟩ := stringSizes_exact found strayOffsets 8
  obtain ⟨faults, _⟩ := stringSizes_exact found strayOffsets 10
  have clean : entry.stringsFault? 2 strayOffsets 8 = none := by
    rw [SliceEntry.stringsFault?, held, slice]
    rfl
  have otherClean : entry.stringsFault? 2 otherStrayOffsets 8 = none := by
    rw [SliceEntry.stringsFault?, held, slice]
    rfl
  have early : entry.stringsFault? 2 strayOffsets 10 =
      some (.outOfBounds (.beforeBuffer 2 9 10)) := by
    rw [SliceEntry.stringsFault?, held, slice]
    rfl
  have same : ∀ row, entry.slice.rows.contains row = true →
      otherStrayOffsets.get Element.u64 (row - 8) = strayOffsets.get Element.u64 (row - 8) := by
    intro row inside
    have bounds := RowRange.contains_iff.1 inside
    rw [slice] at bounds
    have cases_of_row : row = 9 ∨ row = 10 := by
      simp only at bounds
      omega
    rcases cases_of_row with rfl | rfl <;> rfl
  have longest : InputFrame.writtenTicks.maxStringSize 2 strayOffsets 8 = .ok 3 := rfl
  have first : InputFrame.writtenTicks.firstStringSize 2 strayOffsets 8 = .ok 0 := rfl
  have equal := others otherStrayOffsets (Or.inr ⟨otherClean, clean⟩) same
  exact ⟨longest, first, equal.1.trans longest, equal.2.trans first, (faults _ early).1⟩

end FrameContext

end FrameIngest
