import Mathlib
import FrameIngest.Frame.Context
import FrameIngest.Proofs.Frame.Slicing

namespace FrameIngest

namespace RowRange

/-- The same rows again, or those right behind. -/
def Continues (range next : RowRange) : Prop :=
  next = range ∨ next.start = range.stop

section Chain

variable {current last : RowRange} {ranges : List RowRange}
  (chain : (current :: ranges).IsChain Continues)
  (ordered : ∀ range ∈ current :: ranges, range.start ≤ range.stop)
include chain ordered

/-- In a chain no range goes back behind the one it begins with. -/
theorem eq_or_behind_of_isChain {range : RowRange} (member : range ∈ ranges) :
    range = current ∨ current.stop ≤ range.start := by
  induction ranges generalizing current with
  | nil => cases member
  | cons first ranges ih =>
    obtain ⟨continues, rest⟩ := List.isChain_cons_cons.1 chain
    have further := ih rest fun range member => ordered range (List.mem_cons_of_mem _ member)
    have firstOrdered := ordered first (by simp)
    rcases continues with rfl | begins
    · rcases List.mem_cons.1 member with rfl | later
      · exact Or.inl rfl
      · exact further later
    · rcases List.mem_cons.1 member with rfl | later
      · exact Or.inr begins.ge
      · rcases further later with rfl | behind
        · exact Or.inr begins.ge
        · exact Or.inr (by omega)

/-- The ranges of a chain leave out no row between its ends. -/
theorem exists_contains_of_isChain (ends : (current :: ranges).getLast? = some last) {row : Nat} :
    (∃ range ∈ current :: ranges, range.contains row = true) ↔
      current.start ≤ row ∧ row < last.stop := by
  induction ranges generalizing current with
  | nil =>
    cases ends
    simp [contains_iff]
  | cons first ranges ih =>
    have currentOrdered := ordered current (by simp)
    obtain ⟨continues, rest⟩ := List.isChain_cons_cons.1 chain
    rw [List.getLast?_cons_cons] at ends
    have restOrdered : ∀ range ∈ first :: ranges, range.start ≤ range.stop :=
      fun range member => ordered range (List.mem_cons_of_mem _ member)
    have firstOrdered := restOrdered first (by simp)
    have behind := ih rest restOrdered ends
    have stops : first.stop ≤ last.stop := by
      by_contra beyond
      have member : last ∈ first :: ranges := List.mem_of_getLast? ends
      have lastOrdered := restOrdered last member
      rcases List.mem_cons.1 member with rfl | later
      · omega
      · rcases eq_or_behind_of_isChain rest restOrdered later with rfl | further <;> omega
    rw [List.exists_mem_cons_iff, behind, contains_iff]
    rcases continues with rfl | begins <;> omega

/-- Two ranges of a chain are equal or have no row in common. -/
theorem eq_of_contains_of_isChain {range other : RowRange} (member : range ∈ current :: ranges)
    (otherMember : other ∈ current :: ranges) {row : Nat} (inside : range.contains row = true)
    (otherInside : other.contains row = true) : range = other := by
  rw [contains_iff] at inside otherInside
  induction ranges generalizing current with
  | nil =>
    rw [List.mem_singleton.1 member, List.mem_singleton.1 otherMember]
  | cons first ranges ih =>
    obtain ⟨_, rest⟩ := List.isChain_cons_cons.1 chain
    have restOrdered : ∀ range ∈ first :: ranges, range.start ≤ range.stop :=
      fun range member => ordered range (List.mem_cons_of_mem _ member)
    have apart {range : RowRange} (later : range ∈ first :: ranges) :=
      eq_or_behind_of_isChain chain ordered later
    rcases List.mem_cons.1 member with rfl | later
    · rcases List.mem_cons.1 otherMember with rfl | otherLater
      · rfl
      · rcases apart otherLater with rfl | behind
        · rfl
        · omega
    · rcases List.mem_cons.1 otherMember with rfl | otherLater
      · rcases apart later with rfl | behind
        · rfl
        · omega
      · exact ih rest restOrdered later otherLater

end Chain

/-- Ranges that cover the rows from `start` to before `stop` one behind the other, each of them once
or several times in a row. -/
structure Partition (start stop : Nat) (ranges : List RowRange) : Prop where
  begins : ∀ range, ranges.head? = some range → range.start = start
  continues : ranges.IsChain Continues
  ends : ∀ range, ranges.getLast? = some range → range.stop = stop
  covers : ∀ row, (∃ range ∈ ranges, range.contains row = true) ↔ start ≤ row ∧ row < stop
  apart : ∀ range ∈ ranges, ∀ other ∈ ranges, ∀ row,
    range.contains row = true → other.contains row = true → range = other

/-- A chain that begins behind an empty range is a partition. -/
theorem partition_of_isChain {start : Nat} {last : RowRange} {ranges : List RowRange}
    (chain : (⟨start, start⟩ :: ranges).IsChain Continues)
    (ordered : ∀ range ∈ ranges, range.start ≤ range.stop)
    (ends : (⟨start, start⟩ :: ranges).getLast? = some last) :
    Partition start last.stop ranges := by
  have allOrdered : ∀ range ∈ RowRange.mk start start :: ranges, range.start ≤ range.stop := by
    intro range member
    rcases List.mem_cons.1 member with rfl | later
    · exact Nat.le_refl start
    · exact ordered range later
  refine ⟨?_, chain.tail, ?_, fun row => ?_, fun range member other otherMember row => ?_⟩
  · intro range first
    obtain ⟨rest, rfl⟩ := List.head?_eq_some_iff.1 first
    rcases (List.isChain_cons_cons.1 chain).1 with rfl | begins
    · rfl
    · exact begins
  · intro range final
    have same : (RowRange.mk start start :: ranges).getLast? = some range := by
      rw [List.getLast?_cons, final, Option.getD_some]
    rw [Option.some.inj (same.symm.trans ends)]
  · rw [← exists_contains_of_isChain chain allOrdered ends, List.exists_mem_cons_iff]
    have nothing : ¬(RowRange.mk start start).contains row = true := by
      rw [contains_iff]
      simp only
      omega
    exact (or_iff_right nothing).symm
  · exact eq_of_contains_of_isChain chain allOrdered (List.mem_cons_of_mem _ member)
      (List.mem_cons_of_mem _ otherMember)

end RowRange

namespace RowGroup

variable {group again : RowGroup} {current : RowRange}

/-- Where a slice is moved to: behind the group it leaves, or to where its group is. -/
def place (group : RowGroup) (current : RowRange) (slice : Slice) : RowRange :=
  if group.isLeftBy slice then ⟨current.stop, current.stop + slice.rows.span⟩ else current

theorem rebase_cons (group : RowGroup) (current : RowRange) (slice : Slice) (slices : List Slice) :
    rebase group current (slice :: slices) =
      ({ slice with rows := group.place current slice } ::
          (rebase (group.next slice) (group.place current slice) slices).1,
        (rebase (group.next slice) (group.place current slice) slices).2) :=
  rfl

theorem next_rows (group : RowGroup) (slice : Slice) :
    (group.next slice).rows = some slice.rows := by
  unfold next
  cases leaves : group.isLeftBy slice with
  | true => rfl
  | false =>
    simp only [isLeftBy, Bool.or_eq_false_iff, decide_eq_false_iff_not, ne_eq, not_not] at leaves
    exact leaves.1

theorem place_continues (group : RowGroup) (current : RowRange) (slice : Slice) :
    current.Continues (group.place current slice) := by
  unfold place
  split
  · exact Or.inr rfl
  · exact Or.inl rfl

theorem place_ordered (ordered : current.start ≤ current.stop) (slice : Slice) :
    (group.place current slice).start ≤ (group.place current slice).stop := by
  unfold place
  split
  · exact Nat.le_add_right ..
  · exact ordered

/-- A slice has as many rows where it is moved to, if its group has. -/
theorem place_span (same : ∀ range, group.rows = some range → current.span = range.span)
    (slice : Slice) : (group.place current slice).span = slice.rows.span := by
  unfold place
  cases leaves : group.isLeftBy slice with
  | true =>
    rw [if_pos rfl, RowRange.span]
    exact Nat.add_sub_cancel_left ..
  | false =>
    simp only [isLeftBy, Bool.or_eq_false_iff, decide_eq_false_iff_not, ne_eq, not_not] at leaves
    exact same slice.rows leaves.1

theorem rebase_isChain (group : RowGroup) (current : RowRange) (slices : List Slice) :
    (current :: (rebase group current slices).1.map Slice.rows).IsChain RowRange.Continues := by
  induction slices generalizing group current with
  | nil => exact .singleton current
  | cons slice slices ih =>
    exact .cons_cons (place_continues group current slice) (ih (group.next slice) _)

theorem rebase_ordered (ordered : current.start ≤ current.stop) (slices : List Slice) :
    ∀ moved ∈ (rebase group current slices).1, moved.rows.start ≤ moved.rows.stop := by
  induction slices generalizing group current with
  | nil => nofun
  | cons slice slices ih =>
    intro moved member
    have placed := @place_ordered group current ordered slice
    rcases List.mem_cons.1 member with rfl | later
    · exact placed
    · exact ih placed moved later

theorem rebase_getLast? (group : RowGroup) (current : RowRange) (slices : List Slice) :
    (current :: (rebase group current slices).1.map Slice.rows).getLast? =
      some (rebase group current slices).2 := by
  induction slices generalizing group current with
  | nil => rfl
  | cons slice slices ih =>
    rw [rebase_cons, List.map_cons, List.getLast?_cons_cons]
    exact ih (group.next slice) _

/-- The last group ends behind as many rows as all groups have. -/
theorem rebase_stop (group : RowGroup) (current : RowRange) (slices : List Slice) :
    (rebase group current slices).2.stop =
      current.stop + (group.spans slices).foldr (· + ·) 0 := by
  induction slices generalizing group current with
  | nil => rfl
  | cons slice slices ih =>
    rw [rebase_cons, spans, ih, place]
    split
    · rw [List.foldr_cons, Nat.add_assoc]
    · rfl

theorem rebase_kept (same : ∀ range, group.rows = some range → current.span = range.span)
    (slices : List Slice) :
    List.Forall₂ (fun slice moved => moved.columns = slice.columns ∧
      moved.rows.span = slice.rows.span) slices (rebase group current slices).1 := by
  induction slices generalizing group current with
  | nil => exact .nil
  | cons slice slices ih =>
    refine .cons ⟨rfl, place_span same slice⟩ (ih fun range rows => ?_)
    rw [next_rows] at rows
    cases rows
    exact place_span same slice

/-- The group of a walk through slices that were moved, beside that of the walk that moved them. The
columns of the two agree only if the group has rows: groups without rows that follow each other come
to the same place and may be one group to the second walk. -/
structure Repeats (group again : RowGroup) (current : RowRange) : Prop where
  ordered : current.start ≤ current.stop
  rows : ∀ range, again.rows = some range → range = current
  columns : current.start < current.stop →
    again.rows = some current ∧ again.columns = group.columns

theorem isLeftBy_iff (group : RowGroup) (slice : Slice) :
    group.isLeftBy slice = true ↔
      group.rows ≠ some slice.rows ∨ slice.columns ∈ group.columns := by
  simp [isLeftBy]

/-- The second walk places a slice where the first one did. -/
theorem Repeats.place_eq (repeats : group.Repeats again current) (slice : Slice) :
    again.place current { slice with rows := group.place current slice } =
      group.place current slice := by
  have ordered := repeats.ordered
  by_cases leaves : group.isLeftBy slice = true
  · have placed : group.place current slice = ⟨current.stop, current.stop + slice.rows.span⟩ :=
      if_pos leaves
    rw [placed, place]
    split
    · simp [RowRange.span]
    · rename_i stays
      have here := mt (isLeftBy_iff again _).2 stays
      simp only [ne_eq, not_or, not_not] at here
      exact (repeats.rows _ here.1).symm
  · have placed : group.place current slice = current := if_neg leaves
    rw [placed, place]
    split
    · rename_i left
      -- A slice that stays leaves in the second walk only if its group has no rows.
      have nothing : ¬current.start < current.stop := by
        intro some_rows
        obtain ⟨rows, columns⟩ := repeats.columns some_rows
        have stays := mt (isLeftBy_iff group slice).2 leaves
        rcases (isLeftBy_iff again _).1 left with elsewhere | seen
        · exact elsewhere rows
        · exact stays (Or.inr (columns ▸ seen))
      have same : current.start = current.stop := by omega
      rw [RowRange.span, same, Nat.sub_self, Nat.add_zero, ← same]
      obtain ⟨start, stop⟩ := current
      simp only at same
      rw [same]
    · rfl

theorem Repeats.next (repeats : group.Repeats again current) (slice : Slice) :
    (group.next slice).Repeats (again.next { slice with rows := group.place current slice })
      (group.place current slice) := by
  have ordered := repeats.ordered
  refine ⟨place_ordered ordered slice, ?_, fun some_rows => ⟨next_rows .., ?_⟩⟩
  · intro range rows
    rw [next_rows] at rows
    exact (Option.some.inj rows).symm
  · by_cases leaves : group.isLeftBy slice = true
    · have placed : group.place current slice = ⟨current.stop, current.stop + slice.rows.span⟩ :=
        if_pos leaves
      rw [placed] at some_rows ⊢
      simp only at some_rows
      have leavesAgain : again.isLeftBy
          { slice with rows := ⟨current.stop, current.stop + slice.rows.span⟩ } = true := by
        refine (isLeftBy_iff ..).2 (Or.inl fun here => ?_)
        have starts := congrArg RowRange.start (repeats.rows _ here)
        have stops := congrArg RowRange.stop (repeats.rows _ here)
        simp only at starts stops
        omega
      rw [RowGroup.next, if_pos leavesAgain, RowGroup.next, if_pos leaves]
    · have placed : group.place current slice = current := if_neg leaves
      rw [placed] at some_rows ⊢
      obtain ⟨rows, columns⟩ := repeats.columns some_rows
      have stays := mt (isLeftBy_iff group slice).2 leaves
      have staysAgain : ¬again.isLeftBy { slice with rows := current } = true := by
        rw [isLeftBy_iff, columns]
        simp only [rows, ne_eq, not_true_eq_false, false_or]
        exact fun seen => stays (Or.inr seen)
      rw [RowGroup.next, if_neg staysAgain, RowGroup.next, if_neg leaves, columns]

theorem Repeats.rebase_eq (repeats : group.Repeats again current) (slices : List Slice) :
    rebase again current (rebase group current slices).1 = rebase group current slices := by
  induction slices generalizing group again current with
  | nil => rfl
  | cons slice slices ih =>
    have step := ih (repeats.next slice)
    rw [rebase_cons group, rebase_cons again, repeats.place_eq slice, step]

theorem repeats_none (base : Nat) : RowGroup.none.Repeats .none ⟨base, base⟩ where
  ordered := Nat.le_refl base
  rows _ begun := by cases begun
  columns some_rows := absurd some_rows (Nat.lt_irrefl base)

end RowGroup

/-- What a renumbering from the row `base` on makes of slices: each keeps its columns and its number
of rows, all rows are counted, and they lie one behind the other. -/
structure Renumbers (base : Nat) (slices moved : List Slice) (total : Nat) : Prop where
  kept : List.Forall₂ (fun slice moved => moved.columns = slice.columns ∧
    moved.rows.span = slice.rows.span) slices moved
  counted : rowCount slices = total
  recounted : rowCount moved = total
  partition : RowRange.Partition base (base + total) (moved.map Slice.rows)

theorem rebaseRows_rebaseRows (base : Nat) (slices : List Slice) :
    rebaseRows base (rebaseRows base slices).1 = rebaseRows base slices := by
  have same := (RowGroup.repeats_none base).rebase_eq slices
  change ((RowGroup.none.rebase ⟨base, base⟩ (RowGroup.none.rebase ⟨base, base⟩ slices).1).1,
    (RowGroup.none.rebase ⟨base, base⟩ (RowGroup.none.rebase ⟨base, base⟩ slices).1).2.stop) = _
  rw [same]
  rfl

theorem rebaseRows_stop (base : Nat) (slices : List Slice) :
    (rebaseRows base slices).2 = base + rowCount slices :=
  RowGroup.rebase_stop ..

theorem renumbers_rebaseRows (base : Nat) (slices : List Slice) :
    Renumbers base slices (rebaseRows base slices).1 (rowCount slices) where
  kept := RowGroup.rebase_kept (fun _ begun => by cases begun) slices
  counted := rfl
  recounted := by
    have again := congrArg Prod.snd (rebaseRows_rebaseRows base slices)
    rw [rebaseRows_stop, rebaseRows_stop] at again
    exact Nat.add_left_cancel again
  partition := by
    have ordered := @RowGroup.rebase_ordered .none ⟨base, base⟩ (Nat.le_refl base) slices
    have whole := RowRange.partition_of_isChain (RowGroup.rebase_isChain .none ⟨base, base⟩ slices)
      (fun range member => by
        obtain ⟨moved, movedMember, rfl⟩ := List.mem_map.1 member
        exact ordered moved movedMember)
      (RowGroup.rebase_getLast? ..)
    rwa [RowGroup.rebase_stop] at whole

namespace FrameContext

variable {context : FrameContext}

/-- A context of slices that have no segments yet. -/
def ofSlices (slices : List Slice) : FrameContext :=
  { empty ⟨"ticks", .rowCount, []⟩ .raw none with
    entries := slices.map fun slice => ⟨slice, none, none⟩ }

theorem slices_withSlices {slices : List Slice} (length : context.slices.length = slices.length) :
    (context.withSlices slices).slices = slices := by
  rw [FrameContext.slices, List.length_map] at length
  rw [FrameContext.slices, withSlices, List.map_zipWith]
  exact List.ext_getElem (by simp [length]) (by simp)

theorem slices_withSlices_rebaseRows (context : FrameContext) (base : Nat) :
    (context.withSlices (rebaseRows base context.slices).1).slices =
      (rebaseRows base context.slices).1 :=
  slices_withSlices (renumbers_rebaseRows base context.slices).kept.length_eq

theorem slices_reconcile (context : FrameContext) :
    context.reconcile.slices = (rebaseRows context.firstRow context.slices).1 :=
  context.slices_withSlices_rebaseRows context.firstRow

theorem totalRows_reconcile (context : FrameContext) :
    context.reconcile.totalRows = rowCount context.slices := by
  change (rebaseRows context.firstRow context.slices).2 - context.firstRow = _
  rw [rebaseRows_stop, Nat.add_sub_cancel_left]

/-- The slices of a context after a renumbering from zero on. -/
theorem adjustSlices_eq (context : FrameContext) :
    context.adjustSlices =
      (rowCount context.slices, context.withSlices (rebaseRows 0 context.slices).1) := by
  have total := rebaseRows_stop 0 context.slices
  rw [Nat.zero_add] at total
  exact congrArg (·, context.withSlices (rebaseRows 0 context.slices).1) total

end FrameContext

end FrameIngest
