import Mathlib
import FrameIngest.Proofs.Descriptor.Parts

namespace FrameIngest

open Json

/-- Metadata that can be kept: whole numbers of 64 bits, objects with ascending keys, and no more
brackets than may be open inside the one of the descriptor. -/
structure Json.Value.IsStorable (value : Value) : Prop where
  whole : value.IsWhole
  fits : value.Fits
  ordered : value.IsOrdered
  shallow : value.depth < Reading.start.depth

namespace FrameDescriptor

/-- The metadata that a text keeps: null is the same as none. -/
def keptMetadata : Option Value → Option Value
  | some .null => none
  | metadata => metadata

theorem keptMetadata_eq {metadata : Option Value} (notNull : metadata ≠ some .null) :
    keptMetadata metadata = metadata := by
  rw [keptMetadata.eq_def]
  split
  · exact absurd rfl notNull
  · rfl

variable {descriptor : FrameDescriptor}

theorem schema_isWhole (schema : Schema) : schema.toJson.IsWhole := by
  simp [Schema.toJson, SchemaIndex.toJson, SchemaField.toJson, nameIn, Value.IsWhole, Value.nat,
    Number.IsWhole]

theorem key_isWhole (key : StorageKey) : key.toJson.IsWhole := by
  simp [StorageKey.toJson, nameIn, Value.IsWhole, Value.nat, Value.int, Number.IsWhole]

theorem normalization_isWhole (normalization : Normalization) : normalization.toJson.IsWhole :=
  normalization.eachNumber_toJson fun _ => trivial

theorem optionalMember_isWhole {α : Type} {name : String} {toJson : α → Value} {part : Option α}
    (whole : ∀ value, part = some value → (toJson value).IsWhole) :
    ∀ member ∈ optionalMember name toJson part, member.2.IsWhole := by
  intro member isMember
  cases part with
  | none => cases isMember
  | some value =>
    obtain rfl := List.mem_singleton.1 isMember
    exact whole value rfl

/-- No number of a descriptor is a fraction, if there is none in its metadata. -/
theorem isWhole_toValue (whole : ∀ value, descriptor.userMetadata = some value → value.IsWhole) :
    descriptor.toValue.IsWhole := by
  have metadata : ∀ member ∈ optionalMember "user_metadata" id descriptor.userMetadata,
      member.2.IsWhole := optionalMember_isWhole whole
  refine Value.eachNumber_object.2 ?_
  simp only [List.forall_mem_cons, List.forall_mem_append]
  exact ⟨Value.eachNumber_number.2 trivial, schema_isWhole _, normalization_isWhole _,
    ⟨⟨metadata, optionalMember_isWhole fun key _ => key_isWhole key⟩,
      optionalMember_isWhole fun key _ => key_isWhole key⟩, Value.eachNumber_bool _, by nofun⟩

/-- A key is not read as null. -/
theorem reads_someKey {depth : Nat} (deep : 1 ≤ depth) {part : Option StorageKey} :
    ∀ key, part = some key → StorageKey.shape.reader.Reads depth key.toJson key ∧
      Node.ofValue key.toJson ≠ .word .null := by
  intro key _
  have notNull : key.toJson ≠ .null := by simp [StorageKey.toJson]
  exact ⟨key.reads_toJson.mono deep, Node.ofValue_ne_null (key_isWhole key) notNull⟩

/-- Metadata fills its part of the draft. Null fills it with nothing. -/
theorem fills_userMetadata {depth : Nat} {metadata : Option Value} {draft last : Draft}
    {members : List (String × Value)}
    (storable : ∀ value, metadata = some value → value.IsStorable)
    (shallow : ∀ value, metadata = some value → value.depth ≤ depth)
    (blank : draft.userMetadata = none)
    (rest : Fills shape.slots depth members
      { draft with userMetadata := metadata.map fun value => keptMetadata (some value) } last) :
    Fills shape.slots depth (optionalMember "user_metadata" id metadata ++ members) draft last := by
  by_cases null : metadata = some .null
  · subst null
    exact .read rfl blank ((Reader.reads_null .any).mono (Nat.zero_le depth)) rest
  · have kept : (metadata.map fun value => keptMetadata (some value)) = metadata.map some := by
      refine Option.map_congr fun value member => keptMetadata_eq ?_
      exact fun isNull => null (member.trans isNull)
    rw [kept] at rest
    refine fills_optionalMember rfl blank ?_ (fun value isSome => ?_) rest
    · rw [← blank]
    · obtain ⟨whole, fits, ordered, -⟩ := storable value isSome
      refine ⟨(Reader.reads_any whole fits ordered).mono (shallow value isSome), ?_⟩
      exact Node.ofValue_ne_null whole fun isNull => null (isSome.trans (congrArg some isNull))

theorem reads_toValue
    (storable : ∀ value, descriptor.userMetadata = some value → value.IsStorable) :
    shape.reader.Reads Reading.start.depth descriptor.toValue
      { descriptor with userMetadata := keptMetadata descriptor.userMetadata } := by
  obtain ⟨totalRows, schema, normalization, userMetadata, previousKey, nextKey, bucketizeDynamic⟩ :=
    descriptor
  have rows := Reader.reads_word totalRows
  have inSchema := schema.reads_toJson
  have inNormalization := normalization.reads_toJson
  have bucketize := Reader.reads_boolean bucketizeDynamic
  have shallow : ∀ value, userMetadata = some value → value.depth ≤ 126 := fun value isSome =>
    Nat.le_of_lt_succ (storable value isSome).shallow
  have complete : shape.complete ⟨some totalRows, some schema, some normalization,
      userMetadata.map fun value => keptMetadata (some value), previousKey.map some,
      nextKey.map some, some bucketizeDynamic⟩ = .ok ⟨totalRows, schema, normalization,
        keptMetadata userMetadata, previousKey, nextKey, bucketizeDynamic⟩ := by
    cases userMetadata <;> cases previousKey <;> cases nextKey <;> rfl
  change shape.reader.Reads (126 + 1) _ _
  refine Shape.reads_object ?_ complete
  simp only [List.append_assoc]
  refine .read rfl rfl (rows.mono (by decide)) <| .read rfl rfl (inSchema.mono (by decide)) <|
    .read rfl rfl (inNormalization.mono (by decide)) ?_
  exact fills_userMetadata storable shallow rfl <|
    fills_optionalMember rfl rfl rfl (reads_someKey (by decide)) <|
    fills_optionalMember rfl rfl rfl (reads_someKey (by decide)) <|
    .read rfl rfl (bucketize.mono (by decide)) <| .done _

theorem ofJson_toJson_kept
    (storable : ∀ value, descriptor.userMetadata = some value → value.IsStorable) :
    ofJson descriptor.toJson =
      .ok { descriptor with userMetadata := keptMetadata descriptor.userMetadata } := by
  have whole : descriptor.toValue.IsWhole :=
    isWhole_toValue fun value isSome => (storable value isSome).whole
  exact mapError_eq_ok_iff.2 (decode_print whole (reads_toValue storable))

/-- The metadata of a draft is not null and in canonical form, and no deeper than brackets may be
open. -/
def Draft.HasReadMetadata (reading : Reading) (draft : Draft) : Prop :=
  ∀ value, draft.userMetadata = some (some value) →
    value ≠ .null ∧ value.IsOrdered ∧ value.Fits ∧ value.depth ≤ reading.depth

theorem keeps_hasReadMetadata (reading : Reading) :
    Keeps shape.slots reading (Draft.HasReadMetadata reading) := by
  intro slot isSlot node draft next before filled
  simp only [shape, List.mem_cons, List.not_mem_nil, or_false] at isSlot
  rcases isSlot with rfl | rfl | rfl | rfl | rfl | rfl | rfl
  all_goals
    obtain ⟨part, readPart, same⟩ := bind_eq_ok_iff.1 filled
    cases same
  -- The fourth slot is that of the metadata, all others leave them alone.
  case inr.inr.inr.inl =>
    intro value isRead
    cases isRead
    exact Reader.bounds_of_optional_any readPart
  all_goals exact before

theorem userMetadata_of_complete {draft : Draft}
    (complete : shape.complete draft = .ok descriptor) :
    descriptor.userMetadata = draft.userMetadata.getD none := by
  obtain ⟨totalRows, -, complete⟩ := bind_eq_ok_iff.1 complete
  obtain ⟨schema, -, complete⟩ := bind_eq_ok_iff.1 complete
  obtain ⟨normalization, -, complete⟩ := bind_eq_ok_iff.1 complete
  obtain ⟨bucketizeDynamic, -, complete⟩ := bind_eq_ok_iff.1 complete
  cases complete
  rfl

/-- Metadata that is read is not null and can be kept, if its numbers are whole. -/
theorem metadata_of_ofJson {text : String} {value : Value} (read : ofJson text = .ok descriptor)
    (isSome : descriptor.userMetadata = some value) :
    value ≠ .null ∧ (value.IsWhole → value.IsStorable) := by
  obtain ⟨node, readNode⟩ := exists_node_of_decode (mapError_eq_ok_iff.1 read)
  obtain ⟨draft, hasRead, complete⟩ :=
    Shape.exists_draft (keeps_hasReadMetadata Reading.start.inner) (by nofun) readNode
  rw [userMetadata_of_complete complete] at isSome
  have inDraft : draft.userMetadata = some (some value) := by
    cases part : draft.userMetadata with
    | none => rw [part] at isSome; cases isSome
    | some metadata => rw [part] at isSome; exact congrArg some isSome
  obtain ⟨notNull, ordered, fits, depth⟩ := hasRead value inDraft
  exact ⟨notNull, fun whole => ⟨whole, fits, ordered, Nat.lt_succ_of_le depth⟩⟩

/-- A descriptor is read back as it was written, but for metadata that is null, which is not there
when it is read back. So what is read from any text is read again from its own text, and has that
text again. -/
theorem ofJson_toJson :
    (∀ descriptor : FrameDescriptor,
      (∀ value, descriptor.userMetadata = some value → value.IsStorable) →
        (descriptor.userMetadata ≠ some .null →
          ofJson descriptor.toJson = .ok descriptor) ∧
        (descriptor.userMetadata = some .null →
          ofJson descriptor.toJson = .ok { descriptor with userMetadata := none })) ∧
    ∀ text descriptor, ofJson text = .ok descriptor →
      (∀ value, descriptor.userMetadata = some value → value.IsWhole) →
        ofJson descriptor.toJson = .ok descriptor ∧
        ∀ again, ofJson descriptor.toJson = .ok again → again.toJson = descriptor.toJson := by
  refine ⟨fun descriptor storable => ⟨fun notNull => ?_, fun null => ?_⟩,
    fun text descriptor read whole => ?_⟩
  · have same := ofJson_toJson_kept storable
    rw [keptMetadata_eq notNull] at same
    exact same
  · have same := ofJson_toJson_kept storable
    rw [null] at same
    exact same
  · have storable : ∀ value, descriptor.userMetadata = some value → value.IsStorable :=
      fun value isSome => (metadata_of_ofJson read isSome).2 (whole value isSome)
    have notNull : descriptor.userMetadata ≠ some .null := fun null =>
      (metadata_of_ofJson read null).1 rfl
    have same := ofJson_toJson_kept storable
    rw [keptMetadata_eq notNull] at same
    refine ⟨same, fun again readAgain => ?_⟩
    cases same.symm.trans readAgain
    rfl

/-- Metadata with numbers at both ends of their range, an escaped key and one beyond 16 bits. -/
def notes : Value :=
  .object [
    ("limits", .array [.int (-2 ^ 63), .int (2 ^ 64 - 1), .object []]),
    ("quote \" and\ttab", .null),
    ("𝄞", .object [("on", .bool true)])]

/-- A descriptor with notes and a key. -/
def annotated : FrameDescriptor where
  totalRows := 0xffffffffffffffff
  schema := ⟨"ticks", ⟨.timestamp, 1⟩, [⟨"time", .nanosecondsUtc64⟩, ⟨"price", .float64⟩]⟩
  normalization := .series ⟨none, true, some "UTC"⟩ none
  userMetadata := some notes
  previousKey := some ⟨"ticks", .tableIndex, 3, -1, 0xffffffffffffffff, -5, 5⟩
  nextKey := none
  bucketizeDynamic := false

theorem notes_isStorable : notes.IsStorable where
  whole := by simp [notes, Value.IsWhole, Value.int, Number.IsWhole]
  fits := by simp [notes, Value.Fits, Value.int, Number.Fits]
  ordered := by
    have same : notes.canonical = notes := rfl
    exact same ▸ Value.isOrdered_canonical notes
  shallow := by decide

theorem ofJson_toJson_annotated :
    notes.IsStorable ∧ annotated.userMetadata ≠ some .null ∧
      ofJson annotated.toJson = .ok annotated ∧
      ofJson { annotated with userMetadata := some .null }.toJson =
        .ok { annotated with userMetadata := none } ∧
      ∀ again, ofJson annotated.toJson = .ok again → again.toJson = annotated.toJson := by
  have notNull : annotated.userMetadata ≠ some .null := by simp [annotated, notes]
  have storable : ∀ value, annotated.userMetadata = some value → value.IsStorable := by
    rintro value ⟨⟩
    exact notes_isStorable
  have nullStorable : ∀ value, some Value.null = some value → value.IsStorable := by
    rintro value ⟨⟩
    exact ⟨Value.eachNumber_null, Value.eachNumber_null, Value.isOrdered_canonical .null,
      by decide⟩
  have same := (ofJson_toJson.1 annotated storable).1 notNull
  have nullDropped :=
    (ofJson_toJson.1 { annotated with userMetadata := some .null } nullStorable).2 rfl
  exact ⟨notes_isStorable, notNull, same, nullDropped,
    (ofJson_toJson.2 annotated.toJson annotated same fun value isSome =>
      (storable value isSome).whole).2⟩

end FrameDescriptor

end FrameIngest
