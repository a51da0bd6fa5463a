import Mathlib
import FrameIngest.Bytes.LittleEndian.Lemmas
import FrameIngest.Proofs.StringPool.History

namespace FrameIngest.StringPool

/-- The bytes from one position to another, if these are in order and in the array. -/
def between? (bytes : Array UInt8) (start stop : UInt64) : Option (List UInt8) :=
  if start ≤ stop ∧ stop.toNat ≤ bytes.size then
    some (window bytes start.toNat (stop.toNat - start.toNat))
  else none

/-- `entryAt` with ends that are sums of words, which wrap. -/
def entryAtWord (storage : Array UInt8) (offset : UInt64) : Option (List UInt8) := do
  let digits ← between? storage offset (offset + lengthWidth.toUInt64)
  if digits.length ≠ lengthWidth then none
  else
    let length := (LittleEndian.ofBytes digits).toUInt64
    let body := offset + lengthWidth.toUInt64
    between? storage body (body + length)

/-- `view` with ends that are sums of words, which wrap. -/
def viewWord (pool : StringPool) (offset : UInt64) : Except IngestError (List UInt8) :=
  if !isString offset.toNat then .error (.outOfBounds (.sentinel offset.toNat))
  else
    match entryAtWord pool.storage offset with
    | some content => .ok content
    | none => .error (.outOfBounds (.poolOffset offset.toNat pool.byteSize))

section Words

variable {bytes : Array UInt8} {start length : UInt64}

/-- A sum that wraps is below the number that was added to. -/
theorem add_lt_of_wraps (wraps : UInt64.size ≤ start.toNat + length.toNat) :
    start + length < start := by
  have limit : UInt64.size = 2 ^ 64 := rfl
  have below := length.toNat_lt
  rw [UInt64.lt_iff_toNat_lt, UInt64.toNat_add]
  omega

theorem toNat_add_of_lt (fits : start.toNat + length.toNat < UInt64.size) :
    (start + length).toNat = start.toNat + length.toNat := by
  rw [UInt64.toNat_add, Nat.mod_eq_of_lt fits]

theorem between?_of_wraps (wraps : UInt64.size ≤ start.toNat + length.toNat) :
    between? bytes start (start + length) = none :=
  if_neg fun ordered => UInt64.not_le.2 (add_lt_of_wraps wraps) ordered.1

/-- An end that wraps is not taken for another one. -/
theorem between?_add (small : bytes.size < UInt64.size) :
    between? bytes start (start + length) =
      if start.toNat + length.toNat ≤ bytes.size then
        some (window bytes start.toNat length.toNat)
      else none := by
  rcases Nat.lt_or_ge (start.toNat + length.toNat) UInt64.size with fits | wraps
  · have sum := toNat_add_of_lt fits
    rw [between?, sum, Nat.add_sub_cancel_left]
    simp only [UInt64.le_iff_toNat_le, sum, Nat.le_add_right, true_and]
  · rw [between?_of_wraps wraps, if_neg (by omega)]

theorem entryAtWord_eq (small : bytes.size < UInt64.size) (offset : UInt64) :
    entryAtWord bytes offset = entryAt bytes offset.toNat := by
  have width : lengthWidth.toUInt64.toNat = lengthWidth := rfl
  rw [entryAtWord, entryAt, between?_add small, width]
  by_cases inside : offset.toNat + lengthWidth ≤ bytes.size
  · have body : (offset + lengthWidth.toUInt64).toNat = offset.toNat + lengthWidth :=
      toNat_add_of_lt (by omega)
    -- Eight bytes hold no more than a word does.
    have limit := LittleEndian.ofBytes_lt (window bytes offset.toNat lengthWidth)
    rw [length_window] at limit
    have length : (LittleEndian.ofBytes (window bytes offset.toNat lengthWidth)).toUInt64.toNat =
        LittleEndian.ofBytes (window bytes offset.toNat lengthWidth) :=
      UInt64.toNat_ofNat_of_lt' limit
    simp only [if_pos inside, Option.bind_eq_bind, Option.bind_some, length_window, ne_eq,
      not_true_eq_false, if_false, between?_add small, body, length]
  · simp only [if_neg inside]
    rfl

theorem viewWord_eq {pool : StringPool} (small : pool.byteSize < UInt64.size) (offset : UInt64) :
    pool.viewWord offset = pool.view offset.toNat := by
  cases found : entryAt pool.storage offset.toNat with
  | none => simp only [viewWord, view, entryAtWord_eq small, found]
  | some content => simp only [viewWord, view, entryAtWord_eq small, found]

end Words

/-- The number in the eight bytes at an offset, which is the length of an entry there. -/
def lengthAt (pool : StringPool) (offset : Nat) : Nat :=
  LittleEndian.ofBytes ((pool.storage.toList.drop offset).take lengthWidth)

/-- The bytes behind a length, as many as it says. -/
def contentAt (pool : StringPool) (offset : Nat) : List UInt8 :=
  (pool.storage.toList.drop (offset + lengthWidth)).take (pool.lengthAt offset)

/-- An offset that stands for a string, with a length and a content that end inside the pool. -/
structure LeadsToContent (pool : StringPool) (offset : Nat) : Prop where
  real : isString offset = true
  length_inside : offset + lengthWidth ≤ pool.byteSize
  content_inside : offset + lengthWidth + pool.lengthAt offset ≤ pool.byteSize

section Views

variable {pool : StringPool} {offset : Nat}

theorem ofBytes_window_eq_lengthAt (inside : offset + lengthWidth ≤ pool.byteSize) :
    LittleEndian.ofBytes (window pool.storage offset lengthWidth) = pool.lengthAt offset := by
  rw [window_eq_take_drop inside, lengthAt]

theorem LeadsToContent.view_eq (leads : pool.LeadsToContent offset) :
    pool.view offset = .ok (pool.contentAt offset) := by
  have entry : entryAt pool.storage offset = some (pool.contentAt offset) := by
    have lengthInside : offset + lengthWidth ≤ pool.storage.size := leads.length_inside
    have contentInside : offset + lengthWidth + pool.lengthAt offset ≤ pool.storage.size :=
      leads.content_inside
    simp only [entryAt, ofBytes_window_eq_lengthAt lengthInside]
    rw [if_pos lengthInside, if_pos contentInside, window_eq_take_drop contentInside, contentAt]
  simp only [view, leads.real, Bool.not_true, Bool.false_eq_true, if_false, entry]

theorem view_eq_error (astray : ¬pool.LeadsToContent offset) :
    ∃ place, pool.view offset = .error (.outOfBounds place) := by
  cases real : isString offset with
  | false =>
    refine ⟨.sentinel offset, ?_⟩
    rw [view, real]
    rfl
  | true =>
    have nothing : entryAt pool.storage offset = none := by
      simp only [entryAt]
      split_ifs with lengthInside contentInside
      · rw [ofBytes_window_eq_lengthAt lengthInside] at contentInside
        exact absurd ⟨real, lengthInside, contentInside⟩ astray
      · rfl
      · rfl
    refine ⟨.poolOffset offset pool.byteSize, ?_⟩
    rw [view, real, nothing]
    rfl

end Views

/-- Whatever the bytes of a pool are, every word is a safe offset. There is a view at it if and only
if it stands for a string and, in numbers without bound, the length and as many bytes as it says end
inside the pool, and the view is those bytes; at every other word the view is out of bounds. Ends
that are computed in words change nothing: one that wraps is below its start, and nothing lies
between the two. -/
theorem view_exact {pool : StringPool} (small : pool.byteSize < UInt64.size) (offset : UInt64) :
    (∀ content, pool.view offset.toNat = .ok content ↔
      pool.LeadsToContent offset.toNat ∧ content = pool.contentAt offset.toNat) ∧
    (¬pool.LeadsToContent offset.toNat →
      ∃ place, pool.view offset.toNat = .error (.outOfBounds place)) ∧
    pool.viewWord offset = pool.view offset.toNat ∧
    ∀ start length : UInt64, UInt64.size ≤ start.toNat + length.toNat →
      start + length < start ∧ between? pool.storage start (start + length) = none := by
  refine ⟨fun content => ⟨fun viewed => ?_, ?_⟩, view_eq_error, viewWord_eq small offset,
    fun start length wraps => ⟨add_lt_of_wraps wraps, between?_of_wraps wraps⟩⟩
  · by_cases leads : pool.LeadsToContent offset.toNat
    · rw [leads.view_eq] at viewed
      exact ⟨leads, (Except.ok.inj viewed).symm⟩
    · obtain ⟨place, failed⟩ := view_eq_error leads
      rw [failed] at viewed
      cases viewed
  · rintro ⟨leads, rfl⟩
    exact leads.view_eq

/-- A string that looks like the largest length. -/
def eightOnes : List UInt8 := [255, 255, 255, 255, 255, 255, 255, 255]

/-- The second entry, a position inside the first one, and two offsets from which an end wraps. -/
theorem view_exact_insideEntries :
    (ofHistory [eightZeros, eightOnes]).byteSize < UInt64.size ∧
    (ofHistory [eightZeros, eightOnes]).viewWord 16 = .ok eightOnes ∧
    (ofHistory [eightZeros, eightOnes]).viewWord 8 = .ok [] ∧
    (∃ place, (ofHistory [eightZeros, eightOnes]).viewWord 24 = .error (.outOfBounds place)) ∧
    (∃ place, (ofHistory [eightZeros, eightOnes]).viewWord 0xfffffffffffffff8 =
      .error (.outOfBounds place)) := by
  have small : (ofHistory [eightZeros, eightOnes]).byteSize < UInt64.size := by decide
  obtain ⟨atEntry, _, entryWord, _⟩ := view_exact small 16
  obtain ⟨inside, _, insideWord, _⟩ := view_exact small 8
  obtain ⟨_, atOnes, onesWord, _⟩ := view_exact small 24
  obtain ⟨_, behind, behindWord, _⟩ := view_exact small 0xfffffffffffffff8
  rw [entryWord, insideWord, onesWord, behindWord]
  refine ⟨small, (atEntry _).2 ⟨⟨by decide, by decide, by decide⟩, by decide⟩,
    (inside _).2 ⟨⟨by decide, by decide, by decide⟩, by decide⟩, atOnes fun leads => ?_,
    behind fun leads => ?_⟩
  · exact absurd leads.content_inside (by decide)
  · exact absurd leads.length_inside (by decide)

end FrameIngest.StringPool
