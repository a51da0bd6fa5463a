import Mathlib
import FrameIngest.Descriptor.Json
import FrameIngest.Proofs.Json.Record

namespace FrameIngest

open Json

variable {α σ : Type}

/-- A member that is there only if it says something. Its part of the draft stays as it is if it is
left out. -/
theorem fills_optionalMember {slots : List (Slot σ)} {depth : Nat}
    {members : List (String × Value)} {draft last : σ} {name : String} {reader : Reader α}
    {get : σ → Option (Option α)} {set : σ → Option (Option α) → σ} {toJson : α → Value}
    {part : Option α}
    (found : slots.find? (·.name == name) = some (.ofReader name (.optional reader) get set))
    (blank : get draft = none) (stays : set draft none = draft)
    (reads : ∀ value, part = some value → reader.Reads depth (toJson value) value ∧
      Node.ofValue (toJson value) ≠ .word .null)
    (rest : Fills slots depth members (set draft (part.map some)) last) :
    Fills slots depth (optionalMember name toJson part ++ members) draft last := by
  cases part with
  | none =>
    rw [Option.map_none, stays] at rest
    exact rest
  | some value =>
    obtain ⟨read, notNull⟩ := reads value rfl
    exact .read found blank (Reader.reads_optional read notNull) rest

theorem SchemaIndex.reads_toJson (index : SchemaIndex) :
    SchemaIndex.shape.reader.Reads 1 index.toJson index := by
  have kind : (Reader.variant IndexKind.names).Reads 0 (nameIn IndexKind.names index.kind)
      index.kind := by
    cases index.kind <;> exact Reader.reads_variant rfl
  have fieldCount := Reader.reads_short index.fieldCount
  exact Shape.reads_object (.read rfl rfl kind (.read rfl rfl fieldCount (.done _))) rfl

theorem SchemaField.reads_toJson (field : SchemaField) :
    SchemaField.shape.reader.Reads 1 field.toJson field := by
  have name := Reader.reads_string field.name
  have type : (Reader.variant DataType.names).Reads 0 (.string field.type.name) field.type := by
    cases field.type <;> exact Reader.reads_variant rfl
  exact Shape.reads_object (.read rfl rfl name (.read rfl rfl type (.done _))) rfl

theorem Schema.reads_toJson (schema : Schema) :
    Schema.shape.reader.Reads 3 schema.toJson schema := by
  have streamId := Reader.reads_string schema.streamId
  have index := schema.index.reads_toJson
  have fields : (Reader.list SchemaField.shape.reader).Reads 2
      (.array (schema.fields.map SchemaField.toJson)) schema.fields :=
    Reader.reads_list fun field _ => field.reads_toJson
  exact Shape.reads_object
    (.read rfl rfl (streamId.mono (by decide)) <| .read rfl rfl (index.mono (by decide)) <|
      .read rfl rfl fields <| .done _) rfl

theorem StorageKey.reads_toJson (key : StorageKey) :
    StorageKey.shape.reader.Reads 1 key.toJson key := by
  have streamId := Reader.reads_string key.streamId
  have type : (Reader.variant KeyType.names).Reads 0 (nameIn KeyType.names key.type) key.type := by
    cases key.type <;> exact Reader.reads_variant rfl
  have versionId := Reader.reads_word key.versionId
  have created := Reader.reads_long key.created
  have contentHash := Reader.reads_word key.contentHash
  have startIndex := Reader.reads_long key.startIndex
  have endIndex := Reader.reads_long key.endIndex
  exact Shape.reads_object
    (.read rfl rfl streamId <| .read rfl rfl type <| .read rfl rfl versionId <|
      .read rfl rfl created <| .read rfl rfl contentHash <| .read rfl rfl startIndex <|
      .read rfl rfl endIndex <| .done _) rfl

/-- A string is not read as null. -/
theorem reads_someString {depth : Nat} {part : Option String} :
    ∀ text, part = some text → Reader.string.Reads depth (.string text) text ∧
      Node.ofValue (.string text) ≠ .word .null := by
  intro text _
  exact ⟨(Reader.reads_string text).mono (Nat.zero_le depth),
    Node.ofValue_ne_null (Value.eachNumber_string text) (by simp)⟩

theorem IndexNormalization.reads_toJson (index : IndexNormalization) :
    IndexNormalization.shape.reader.Reads 1 index.toJson index := by
  have stored := Reader.reads_boolean index.isPhysicallyStored
  have written : index.toJson = .object (optionalMember "name" .string index.name ++
      ("is_physically_stored", .bool index.isPhysicallyStored) ::
        (optionalMember "timezone" .string index.timezone ++ [])) := by
    rw [List.append_nil, toJson]
  have complete : shape.complete ⟨index.name.map some, index.isPhysicallyStored,
      index.timezone.map some⟩ = .ok index := by
    obtain ⟨name, isPhysicallyStored, timezone⟩ := index
    cases name <;> cases timezone <;> rfl
  rw [written]
  refine Shape.reads_object ?_ complete
  exact fills_optionalMember rfl rfl rfl reads_someString <| .read rfl rfl stored <|
    fills_optionalMember rfl rfl rfl reads_someString <| .done _

theorem IndexNormalization.eachNumber_toJson {holds : Number → Prop} (index : IndexNormalization) :
    index.toJson.EachNumber holds := by
  obtain ⟨name, isPhysicallyStored, timezone⟩ := index
  cases name <;> cases timezone <;> simp [toJson, optionalMember]

theorem IndexNormalization.depth_toJson (index : IndexNormalization) : index.toJson.depth = 1 := by
  obtain ⟨name, isPhysicallyStored, timezone⟩ := index
  cases name <;> cases timezone <;> rfl

namespace Normalization

theorem eachNumber_renamedToJson {holds : Number → Prop} (renamed : List (String × String)) :
    ∀ member ∈ renamedToJson renamed, member.2.EachNumber holds := by
  intro member isMember
  rw [renamedToJson] at isMember
  split at isMember
  · cases isMember
  · obtain rfl := List.mem_singleton.1 isMember
    refine Value.eachNumber_array.2 fun item isItem => ?_
    obtain ⟨names, -, rfl⟩ := List.mem_map.1 isItem
    simp

/-- The only numbers of a normalization are sizes. -/
theorem eachNumber_toJson {holds : Number → Prop}
    (sizes : ∀ size : UInt64, holds (.integer size.toNat)) (normalization : Normalization) :
    normalization.toJson.EachNumber holds := by
  cases normalization with
  | dataFrame index renamed =>
    refine Value.eachNumber_object.2 (List.forall_mem_cons.2 ⟨Value.eachNumber_string _, ?_⟩)
    exact List.forall_mem_cons.2 ⟨index.eachNumber_toJson, eachNumber_renamedToJson renamed⟩
  | series index name =>
    have inIndex : index.toJson.EachNumber holds := index.eachNumber_toJson
    cases name <;> simp [toJson, optionalMember, inIndex]
  | ndArray shape => simp [toJson, Value.nat, sizes]
  | raw => simp [toJson]

theorem depth_renamedToJson_le (renamed : List (String × String)) :
    ∀ member ∈ renamedToJson renamed, member.2.depth ≤ 2 := by
  intro member isMember
  rw [renamedToJson] at isMember
  split at isMember
  · cases isMember
  · obtain rfl := List.mem_singleton.1 isMember
    refine Nat.succ_le_succ (Value.depthOfItems_le_iff.2 fun item isItem => ?_)
    obtain ⟨names, -, rfl⟩ := List.mem_map.1 isItem
    rfl

theorem depth_toJson_le (normalization : Normalization) : normalization.toJson.depth ≤ 3 := by
  cases normalization with
  | dataFrame index renamed =>
    refine Nat.succ_le_succ (Value.depthOfMembers_le_iff.2 ?_)
    refine List.forall_mem_cons.2 ⟨Nat.zero_le _, List.forall_mem_cons.2 ⟨?_, ?_⟩⟩
    · exact index.depth_toJson.trans_le (by decide)
    · exact depth_renamedToJson_le renamed
  | series index name =>
    have inIndex := index.depth_toJson
    cases name <;> simp [toJson, optionalMember, Value.depth, Value.depthOfMembers, inIndex]
  | ndArray shape =>
    have sizes : Value.depthOfItems (shape.map fun size => .nat size.toNat) ≤ 0 := by
      refine Value.depthOfItems_le_iff.2 fun item isItem => ?_
      obtain ⟨size, -, rfl⟩ := List.mem_map.1 isItem
      exact Nat.zero_le _
    simp only [toJson, Value.depth, Value.depthOfMembers]
    omega
  | raw => decide

/-- What is written with a tag is read by the shape of the tag. -/
theorem reads_tagged {normalization : Normalization} {tag : String} {kind : Kind}
    {members : List (String × Value)}
    (written : normalization.toJson = .object (("input_type", .string tag) :: members))
    (named : variantNamed Kind.names tag = .ok kind)
    (others : ∀ member ∈ members, member.1 ≠ "input_type")
    (fields : ∀ reading : Reading, 2 ≤ reading.depth →
      ofTagged reading (.inMembers kind (.ofMembers members)) = .ok normalization) :
    reader.Reads 3 normalization.toJson normalization := by
  intro reading deep
  have whole : normalization.toJson.IsWhole := eachNumber_toJson (fun _ => trivial) _
  have fits : normalization.toJson.Fits := eachNumber_toJson (fun size => by
    have small := size.toNat_lt
    exact ⟨by omega, by omega⟩) _
  have shallow := normalization.depth_toJson_le.trans deep
  rw [written] at whole fits shallow ⊢
  obtain ⟨_, inside⟩ := Reading.enter_of_lt deep
  rw [reader, Tagged.reader_object named others whole fits shallow]
  exact fields _ inside

theorem dataFrame_fills (index : IndexNormalization) (renamed : List (String × String)) :
    ∃ draft, Fills dataFrameShape.slots 2 (("index", index.toJson) :: renamedToJson renamed)
        dataFrameShape.blank draft ∧
      dataFrameShape.complete draft = .ok (.dataFrame index renamed) := by
  have inIndex := index.reads_toJson.mono (by decide : 1 ≤ 2)
  cases renamed with
  | nil => exact ⟨⟨some index, none⟩, .read rfl rfl inIndex (.done _), rfl⟩
  | cons names more =>
    have pairs : (Reader.list (.pair .string)).Reads 2 (.array ((names :: more).map fun names =>
        .array [.string names.1, .string names.2])) (names :: more) :=
      Reader.reads_list fun names _ =>
        Reader.reads_pair (Reader.reads_string names.1) (Reader.reads_string names.2)
    exact ⟨⟨some index, some (names :: more)⟩,
      .read rfl rfl inIndex (.read rfl rfl pairs (.done _)), rfl⟩

theorem series_fills (index : IndexNormalization) (name : Option String) :
    Fills seriesShape.slots 2 (("index", index.toJson) :: optionalMember "name" .string name)
      seriesShape.blank ⟨some index, name.map some⟩ := by
  have inIndex := index.reads_toJson.mono (by decide : 1 ≤ 2)
  rw [← List.append_nil (optionalMember ..)]
  exact .read rfl rfl inIndex (fills_optionalMember rfl rfl rfl reads_someString (.done _))

theorem ndArray_fills (sizes : List UInt64) :
    Fills ndArrayShape.slots 2 [("shape", .array (sizes.map fun size => .nat size.toNat))] none
      (some sizes) := by
  have read : (Reader.list .size).Reads 1 (.array (sizes.map fun size => .nat size.toNat)) sizes :=
    Reader.reads_list fun size _ => Reader.reads_size size
  exact .read rfl rfl (read.mono (by decide)) (.done _)

theorem reads_toJson (normalization : Normalization) :
    reader.Reads 3 normalization.toJson normalization := by
  cases normalization with
  | dataFrame index renamed =>
    obtain ⟨draft, fills, complete⟩ := dataFrame_fills index renamed
    refine reads_tagged rfl rfl (List.forall_mem_cons.2 ⟨by simp, fun member isMember => ?_⟩)
      fun reading deep => Shape.ofMembers_eq fills complete deep
    rw [renamedToJson] at isMember
    split at isMember
    · cases isMember
    · obtain rfl := List.mem_singleton.1 isMember
      simp
  | series index name =>
    have complete :
        seriesShape.complete ⟨some index, name.map some⟩ = .ok (.series index name) := by
      cases name <;> rfl
    refine reads_tagged rfl rfl (List.forall_mem_cons.2 ⟨by simp, fun member isMember => ?_⟩)
      fun reading deep => Shape.ofMembers_eq (series_fills index name) complete deep
    cases name with
    | none => cases isMember
    | some name =>
      obtain rfl := List.mem_singleton.1 isMember
      simp
  | ndArray sizes =>
    refine reads_tagged rfl rfl (List.forall_mem_singleton.2 (by simp))
      fun reading deep => Shape.ofMembers_eq (ndArray_fills sizes) rfl deep
  | raw => exact reads_tagged rfl rfl (by nofun) fun _ _ => rfl

end Normalization

end FrameIngest
