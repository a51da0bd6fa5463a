import Mathlib
import FrameIngest.Proofs.Frame.Slicing
import FrameIngest.Schema

namespace FrameIngest

/-- Ranges that follow one another from `start` to before `stop`. They may be empty. -/
def Consecutive (start stop : Nat) : List (Nat × Nat) → Prop
  | [] => start = stop
  | range :: ranges => range.1 = start ∧ start ≤ range.2 ∧ Consecutive range.2 stop ranges

theorem Consecutive.start_le_stop {start stop : Nat} {ranges : List (Nat × Nat)}
    (consecutive : Consecutive start stop ranges) : start ≤ stop := by
  induction ranges generalizing start with
  | nil => exact Nat.le_of_eq consecutive
  | cons range ranges ih =>
    obtain ⟨_, forward, rest⟩ := consecutive
    exact forward.trans (ih rest)

theorem Tiles.consecutive {start stop : Nat} {ranges : List (Nat × Nat)}
    (tiles : Tiles start stop ranges) : Consecutive start stop ranges := by
  induction ranges generalizing start with
  | nil => exact tiles
  | cons range ranges ih =>
    obtain ⟨begins, some_inside, rest⟩ := tiles
    exact ⟨begins, some_inside.le, ih rest⟩

namespace Schema

/-- Whether the field at a position belongs to the index. -/
def IsIndexField (schema : Schema) (position : Nat) : Prop :=
  position < schema.index.fieldCount.toNat

instance (schema : Schema) (position : Nat) : Decidable (schema.IsIndexField position) :=
  inferInstanceAs (Decidable (_ < _))

/-- What a schema has of another one: its fields from `first` to before `last` in order, each of
them an index field if it was one, and the kind of its index unless none of the index is among them.
-/
structure IsPart (schema : Schema) (first last : Nat) (part : Schema) : Prop where
  stream : part.streamId = schema.streamId
  fields : ∀ place, part.fields[place]? =
    if place < last - first then schema.fields[first + place]? else none
  isIndex : ∀ place, part.IsIndexField place ↔
    schema.IsIndexField (first + place) ∧ place < last - first
  count : part.index.fieldCount.toNat =
    min (schema.index.fieldCount.toNat - first) (last - first)
  kind : part.index.kind = if schema.IsIndexField first then schema.index.kind else .rowCount

/-- The fields from `first` to before `last`, whether or not there are so many. -/
def part (schema : Schema) (first last : Nat) : Schema where
  streamId := schema.streamId
  index := schema.subsetIndex first last
  fields := (schema.fields.take last).drop first

variable {schema : Schema} {first last : Nat}

theorem subset_eq_part (forward : first ≤ last) (inside : last ≤ schema.fields.length) :
    schema.subset first last = .ok (schema.part first last) := by
  have range : ¬(last < first ∨ schema.fields.length < last) := by omega
  rw [subset, if_neg range]
  rfl

/-- The index fields of a part are at most those of the whole, so their count fits its 32 bits. -/
theorem fieldCount_part (schema : Schema) (first last : Nat) :
    (schema.part first last).index.fieldCount.toNat =
      min (schema.index.fieldCount.toNat - first) (last - first) := by
  have bound := schema.index.fieldCount.toNat_lt
  unfold part subsetIndex
  split
  · simp only [Nat.toUInt32, UInt32.toNat_ofNat']
    exact Nat.mod_eq_of_lt (by omega)
  · simp only [SchemaIndex.rowCount, UInt32.toNat_zero]
    omega

theorem kind_part (schema : Schema) (first last : Nat) :
    (schema.part first last).index.kind =
      if schema.IsIndexField first then schema.index.kind else .rowCount := by
  by_cases begins : schema.IsIndexField first
  · have below : first < schema.index.fieldCount.toNat := begins
    rw [if_pos begins, part, subsetIndex, if_pos below]
  · have behind : ¬first < schema.index.fieldCount.toNat := begins
    rw [if_neg begins, part, subsetIndex, if_neg behind]
    rfl

theorem isPart_part (schema : Schema) (first last : Nat) :
    schema.IsPart first last (schema.part first last) where
  stream := rfl
  fields place := by
    rw [part, List.getElem?_drop, List.getElem?_take]
    by_cases within : place < last - first
    · rw [if_pos within, if_pos (by omega)]
    · rw [if_neg within, if_neg (by omega)]
  isIndex place := by
    unfold IsIndexField
    rw [fieldCount_part]
    omega
  count := fieldCount_part schema first last
  kind := kind_part schema first last

theorem fields_part_append {middle : Nat} (forward : first ≤ middle) (onward : middle ≤ last)
    (inside : last ≤ schema.fields.length) :
    (schema.part first middle).fields ++ (schema.part middle last).fields =
      (schema.part first last).fields := by
  have front : schema.fields.take middle = (schema.fields.take last).take middle := by
    rw [List.take_take, Nat.min_eq_left onward]
  have reached : first ≤ ((schema.fields.take last).take middle).length := by
    rw [List.length_take, List.length_take]
    omega
  simp only [part]
  rw [front, ← List.drop_append_of_le_length reached, List.take_append_drop]

/-- The parts of consecutive ranges have the fields and the index fields between their ends. -/
theorem subsets_of_consecutive {ranges : List (Nat × Nat)}
    (consecutive : Consecutive first last ranges) (inside : last ≤ schema.fields.length) :
    ∃ parts, ranges.mapM (fun range => schema.subset range.1 range.2) = .ok parts ∧
      parts.flatMap Schema.fields = (schema.part first last).fields ∧
      (parts.map fun part => part.index.fieldCount.toNat).sum =
        min (schema.index.fieldCount.toNat - first) (last - first) := by
  induction ranges generalizing first with
  | nil =>
    have same : first = last := consecutive
    refine ⟨[], rfl, ?_, ?_⟩
    · have none_left : (schema.part last last).fields = [] :=
        List.drop_eq_nil_of_le (List.length_take_le ..)
      rw [same, none_left, List.flatMap_nil]
    · rw [same, Nat.sub_self, Nat.min_zero, List.map_nil, List.sum_nil]
  | cons range ranges ih =>
    obtain ⟨rfl, forward, rest⟩ := consecutive
    have onward := rest.start_le_stop
    obtain ⟨parts, found, fields, count⟩ := ih rest
    refine ⟨schema.part range.1 range.2 :: parts, ?_, ?_, ?_⟩
    · rw [List.mapM_cons, subset_eq_part forward (onward.trans inside), found]
      rfl
    · rw [List.flatMap_cons, fields, fields_part_append forward onward inside]
    · rw [List.map_cons, List.sum_cons, count, fieldCount_part]
      omega

/-- A part of a part is a part. If it had no fields, an index that begins right behind it would be
told of by the one and not by the other. -/
theorem part_part (schema : Schema) {a b c e : Nat} (some_fields : c < e) (inside : e ≤ b - a) :
    (schema.part a b).part c e = schema.part (a + c) (a + e) := by
  have index : ((schema.part a b).part c e).index = (schema.part (a + c) (a + e)).index := by
    have counts : ((schema.part a b).part c e).index.fieldCount =
        (schema.part (a + c) (a + e)).index.fieldCount := by
      apply UInt32.toNat_inj.1
      rw [fieldCount_part, fieldCount_part, fieldCount_part]
      omega
    have kinds : ((schema.part a b).part c e).index.kind =
        (schema.part (a + c) (a + e)).index.kind := by
      have nested : (schema.part a b).IsIndexField c ↔ schema.IsIndexField (a + c) := by
        rw [(isPart_part schema a b).isIndex]
        exact and_iff_left (by omega)
      have earlier : schema.IsIndexField (a + c) → schema.IsIndexField a := by
        unfold IsIndexField
        omega
      rw [kind_part, kind_part, kind_part]
      simp only [nested]
      by_cases reached : schema.IsIndexField (a + c)
      · rw [if_pos reached, if_pos reached, if_pos (earlier reached)]
      · rw [if_neg reached, if_neg reached]
    calc ((schema.part a b).part c e).index
        = ⟨((schema.part a b).part c e).index.kind,
            ((schema.part a b).part c e).index.fieldCount⟩ := rfl
      _ = (schema.part (a + c) (a + e)).index := by rw [kinds, counts]
  have fields : ((schema.part a b).part c e).fields = (schema.part (a + c) (a + e)).fields := by
    simp only [part]
    rw [List.take_drop, List.take_take, List.drop_drop, Nat.min_eq_left (by omega)]
  calc (schema.part a b).part c e
      = ⟨schema.streamId, ((schema.part a b).part c e).index,
          ((schema.part a b).part c e).fields⟩ := rfl
    _ = schema.part (a + c) (a + e) := by rw [index, fields]; rfl

/-- A range of the fields of a schema gives the schema of just those fields, in which the fields
that were index fields are index fields, and any other range is refused. The parts of consecutive
ranges, as the column groups of a frame are, have all fields and all index fields between them, and
a part of a part that has fields is a part of the whole. -/
theorem subsets_keep_index (schema : Schema) :
    (∀ first last, first ≤ last ∧ last ≤ schema.fields.length →
      ∃ part, schema.subset first last = .ok part ∧ schema.IsPart first last part) ∧
    (∀ first last, ¬(first ≤ last ∧ last ≤ schema.fields.length) →
      schema.subset first last = .error
        (.outOfBounds (.fieldRange first last schema.streamId schema.fields.length))) ∧
    (∀ ranges, Consecutive 0 schema.fields.length ranges →
      ∃ parts, ranges.mapM (fun range => schema.subset range.1 range.2) = .ok parts ∧
        parts.flatMap Schema.fields = schema.fields ∧
        (parts.map fun part => part.index.fieldCount.toNat).sum =
          min schema.index.fieldCount.toNat schema.fields.length) ∧
    (∀ size, 0 < size → Consecutive 0 schema.fields.length (runs schema.fields.length size)) ∧
    (∀ a b c e, a ≤ b → b ≤ schema.fields.length → c < e → e ≤ b - a →
      ∃ part inner, schema.subset a b = .ok part ∧ part.subset c e = .ok inner ∧
        schema.subset (a + c) (a + e) = .ok inner) := by
  refine ⟨fun first last bounds => ?_, fun first last beyond => ?_, fun ranges consecutive => ?_,
    fun size positive => ?_, fun a b c e forward inside some_fields within => ?_⟩
  · exact ⟨_, subset_eq_part bounds.1 bounds.2, isPart_part schema first last⟩
  · have range : last < first ∨ schema.fields.length < last := by omega
    rw [subset, if_pos range]
  · obtain ⟨parts, found, fields, count⟩ := subsets_of_consecutive consecutive (Nat.le_refl _)
    refine ⟨parts, found, ?_, count⟩
    rw [fields, part, List.take_length, List.drop_zero]
  · exact (runs_tiles _ positive).consecutive
  · have length : (schema.part a b).fields.length = b - a := by
      simp only [part, List.length_drop, List.length_take]
      omega
    refine ⟨_, _, subset_eq_part forward inside, ?_,
      subset_eq_part (by omega) (by omega)⟩
    rw [subset_eq_part some_fields.le (by omega), part_part schema some_fields within]

/-- Four fields, of which an index is said to take six. -/
def indexedQuotes : Schema :=
  ⟨"quotes", ⟨.timestamp, 6⟩,
    [⟨"time", .nanosecondsUtc64⟩, ⟨"sent", .nanosecondsUtc64⟩, ⟨"bid", .float64⟩,
      ⟨"ask", .float64⟩]⟩

/-- The fields in three groups, of which the second is empty, and a part of a part. -/
theorem subsets_keep_index_indexedQuotes :
    (∃ parts, [(0, 3), (3, 3), (3, 4)].mapM
        (fun range : Nat × Nat => indexedQuotes.subset range.1 range.2) = .ok parts ∧
      parts.map (fun part => part.index.fieldCount.toNat) = [3, 0, 1] ∧
      (parts.map fun part => part.index.fieldCount.toNat).sum = 4) ∧
    indexedQuotes.subset 2 5 = .error (.outOfBounds (.fieldRange 2 5 "quotes" 4)) ∧
    ∃ part inner, indexedQuotes.subset 1 4 = .ok part ∧ part.subset 1 2 = .ok inner ∧
      indexedQuotes.subset 2 3 = .ok inner ∧ inner.index = ⟨.timestamp, 1⟩ := by
  obtain ⟨_, beyond, cuts, _, nested⟩ := subsets_keep_index indexedQuotes
  have consecutive : Consecutive 0 4 [(0, 3), (3, 3), (3, 4)] := by simp [Consecutive]
  obtain ⟨parts, found, _, count⟩ := cuts _ consecutive
  obtain ⟨part, inner, outer, within, whole⟩ :=
    nested 1 4 1 2 (by decide) (by decide) (by decide) (by decide)
  have counts : parts.map (fun part => part.index.fieldCount.toNat) = [3, 0, 1] := by
    cases found
    rfl
  have index : inner.index = ⟨.timestamp, 1⟩ := by
    cases whole
    rfl
  exact ⟨⟨parts, found, counts, count⟩, beyond 2 5 (by decide), part, inner, outer, within, whole,
    index⟩

end Schema

end FrameIngest
