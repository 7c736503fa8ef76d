import AckiNacki.Bitmask.ThreadsTable
import AckiNacki.Lib.SameOrder
import Mathlib.Data.List.Nodup

namespace ackinacki.types

namespace ThreadsTable

open ackinacki.bitmask BitmasksTable Interleave

/-- The rows `merge_loop` emitted, bottom up, from the rows `self_rows` and
    `another_table_rows` of the two tables: every thread once, every row of either table, and
    the rows of each table in their order. -/
structure MergeOf (emitted self_rows another_table_rows :
    List (Bitmask AccountRouting × ThreadIdentifier)) : Prop where
  nodup : (emitted.map Prod.snd).Nodup
  mem_iff : ∀ row, row ∈ emitted ↔ row ∈ self_rows ∨ row ∈ another_table_rows
  self_sublist : self_rows.Sublist emitted
  another_sublist : another_table_rows.Sublist emitted

/-- The rows both loops can merge: unique threads in each, one mask per shared thread, and the
    shared threads in the same order. -/
structure Mergeable (self_rows another_table_rows :
    List (Bitmask AccountRouting × ThreadIdentifier)) : Prop where
  self_nodup : (self_rows.map Prod.snd).Nodup
  another_nodup : (another_table_rows.map Prod.snd).Nodup
  masks_agree : ∀ row ∈ self_rows, ∀ row' ∈ another_table_rows, row.2 = row'.2 → row.1 = row'.1
  same_order : SameOrder (self_rows.map Prod.snd) (another_table_rows.map Prod.snd)

variable {emitted self_rows another_table_rows : List (Bitmask AccountRouting × ThreadIdentifier)}
  {row : Bitmask AccountRouting × ThreadIdentifier}

theorem MergeOf.nil : MergeOf [] [] [] :=
  ⟨List.nodup_nil, fun _ => by simp, List.Sublist.slnil, List.Sublist.slnil⟩

/-- A thread neither table has is not among the emitted ones. -/
theorem MergeOf.not_mem (hmerge : MergeOf emitted self_rows another_table_rows)
    {thread : ThreadIdentifier} (hself : thread ∉ self_rows.map Prod.snd)
    (hanother : thread ∉ another_table_rows.map Prod.snd) : thread ∉ emitted.map Prod.snd := by
  simp only [List.mem_map, not_exists, not_and] at hself hanother ⊢
  intro row hrow hthread
  rcases (hmerge.mem_iff row).mp hrow with hmem | hmem
  · exact hself row hmem hthread
  · exact hanother row hmem hthread

theorem MergeOf.cons_self (hmerge : MergeOf emitted self_rows another_table_rows)
    (hnew : row.2 ∉ emitted.map Prod.snd) : MergeOf (row :: emitted) (row :: self_rows) another_table_rows where
  nodup := List.nodup_cons.mpr ⟨hnew, hmerge.nodup⟩
  mem_iff row' := by simp [hmerge.mem_iff, or_assoc]
  self_sublist := hmerge.self_sublist.cons_cons row
  another_sublist := hmerge.another_sublist.cons row

theorem MergeOf.cons_another (hmerge : MergeOf emitted self_rows another_table_rows)
    (hnew : row.2 ∉ emitted.map Prod.snd) :
    MergeOf (row :: emitted) self_rows (row :: another_table_rows) where
  nodup := List.nodup_cons.mpr ⟨hnew, hmerge.nodup⟩
  mem_iff row' := by
    simp only [List.mem_cons, hmerge.mem_iff]
    tauto
  self_sublist := hmerge.self_sublist.cons row
  another_sublist := hmerge.another_sublist.cons_cons row

theorem MergeOf.cons_both (hmerge : MergeOf emitted self_rows another_table_rows)
    (hnew : row.2 ∉ emitted.map Prod.snd) :
    MergeOf (row :: emitted) (row :: self_rows) (row :: another_table_rows) where
  nodup := List.nodup_cons.mpr ⟨hnew, hmerge.nodup⟩
  mem_iff row' := by
    simp only [List.mem_cons, hmerge.mem_iff]
    tauto
  self_sublist := hmerge.self_sublist.cons_cons row
  another_sublist := hmerge.another_sublist.cons_cons row

theorem Mergeable.tail_self (hm : Mergeable (row :: self_rows) another_table_rows)
    (hnew : row.2 ∉ another_table_rows.map Prod.snd) : Mergeable self_rows another_table_rows where
  self_nodup := (List.nodup_cons.mp hm.self_nodup).2
  another_nodup := hm.another_nodup
  masks_agree r hr r' hr' := hm.masks_agree r (List.mem_cons_of_mem _ hr) r' hr'
  same_order := hm.same_order.drop_left hnew

theorem Mergeable.tail_another (hm : Mergeable self_rows (row :: another_table_rows))
    (hnew : row.2 ∉ self_rows.map Prod.snd) : Mergeable self_rows another_table_rows where
  self_nodup := hm.self_nodup
  another_nodup := (List.nodup_cons.mp hm.another_nodup).2
  masks_agree r hr r' hr' := hm.masks_agree r hr r' (List.mem_cons_of_mem _ hr')
  same_order := hm.same_order.drop_right hnew

theorem Mergeable.tail_both (hm : Mergeable (row :: self_rows) (row :: another_table_rows)) :
    Mergeable self_rows another_table_rows where
  self_nodup := (List.nodup_cons.mp hm.self_nodup).2
  another_nodup := (List.nodup_cons.mp hm.another_nodup).2
  masks_agree r hr r' hr' :=
    hm.masks_agree r (List.mem_cons_of_mem _ hr) r' (List.mem_cons_of_mem _ hr')
  same_order := hm.same_order.tail (List.nodup_cons.mp hm.self_nodup).1
    (List.nodup_cons.mp hm.another_nodup).1

/-- The test the loop makes of a thread on the rows of one table. -/
theorem any_thread_eq_iff {rows : List (Bitmask AccountRouting × ThreadIdentifier)}
    {thread_id : ThreadIdentifier} :
    rows.any (fun row => row.2 = thread_id) = true ↔ thread_id ∈ rows.map Prod.snd := by
  simp [List.any_eq_true, List.mem_map]

section Turn

variable {merged_table : ThreadsTable} (hrows : 0 < merged_table.masks.length)
include hrows

theorem merge_loop_cons_nil (mask : Bitmask AccountRouting) (thread_id : ThreadIdentifier) :
    merge_loop ((mask, thread_id) :: self_rows) [] merged_table =
      merge_loop self_rows [] ⟨(mask, thread_id) :: merged_table.masks⟩ := by
  rw [merge_loop, insert_above_zero hrows]

theorem merge_loop_nil_cons (mask : Bitmask AccountRouting) (thread_id : ThreadIdentifier) :
    merge_loop [] ((mask, thread_id) :: another_table_rows) merged_table =
      merge_loop [] another_table_rows ⟨(mask, thread_id) :: merged_table.masks⟩ := by
  rw [merge_loop, insert_above_zero hrows]

theorem merge_loop_cons_cons (mask mask2 : Bitmask AccountRouting)
    (thread_id thread_id2 : ThreadIdentifier) :
    merge_loop ((mask, thread_id) :: self_rows) ((mask2, thread_id2) :: another_table_rows)
        merged_table =
      if thread_id = thread_id2 then
        if mask = mask2 then
          merge_loop self_rows another_table_rows ⟨(mask, thread_id) :: merged_table.masks⟩
        else .error "Condition failed: `&mask == mask2`"
      else if ((mask, thread_id) :: self_rows).any (fun row => row.2 = thread_id2) then
        merge_loop self_rows ((mask2, thread_id2) :: another_table_rows)
          ⟨(mask, thread_id) :: merged_table.masks⟩
      else if ((mask2, thread_id2) :: another_table_rows).any (fun row => row.2 = thread_id) then
        merge_loop ((mask, thread_id) :: self_rows) another_table_rows
          ⟨(mask2, thread_id2) :: merged_table.masks⟩
      else
        merge_loop self_rows ((mask2, thread_id2) :: another_table_rows)
          ⟨(mask, thread_id) :: merged_table.masks⟩ := by
  rw [merge_loop]
  simp only [insert_above_zero hrows]

end Turn

/-- The loop merges mergeable rows: it emits, bottom up, rows that merge both lists. Induction
    on the number of rows left; each turn emits a row whose thread no remaining row has. -/
theorem Mergeable.merge_loop_eq :
    ∀ (n : Nat) {self_rows another_table_rows : List (Bitmask AccountRouting × ThreadIdentifier)}
      {merged_table : ThreadsTable}, self_rows.length + another_table_rows.length = n →
      Mergeable self_rows another_table_rows → 0 < merged_table.masks.length →
      ∃ emitted, merge_loop self_rows another_table_rows merged_table =
          .ok ⟨emitted.reverse ++ merged_table.masks⟩ ∧
        MergeOf emitted self_rows another_table_rows := by
  intro n
  induction n using Nat.strongRecOn with
  | ind n ih =>
  intro self_rows another_table_rows merged_table hn hm hrows
  have hrows' : ∀ row, 0 < (⟨row :: merged_table.masks⟩ : ThreadsTable).masks.length :=
    fun _ => Nat.succ_pos _
  have hemit : ∀ {self_rows' another_table_rows'} (row : Bitmask AccountRouting × ThreadIdentifier),
      self_rows'.length + another_table_rows'.length < n → Mergeable self_rows' another_table_rows' →
      ∃ emitted, merge_loop self_rows' another_table_rows' ⟨row :: merged_table.masks⟩ =
          .ok ⟨emitted.reverse ++ row :: merged_table.masks⟩ ∧
        MergeOf emitted self_rows' another_table_rows' :=
    fun row hlt hm' => ih _ hlt rfl hm' (hrows' row)
  match self_rows, another_table_rows, hm with
  | [], [], _ => exact ⟨[], by rw [merge_loop]; rfl, MergeOf.nil⟩
  | (mask, thread_id) :: self_rows, [], hm =>
    obtain ⟨emitted, hloop, hmerge⟩ := hemit (mask, thread_id) (by simp at hn ⊢; omega)
      (hm.tail_self (by simp))
    refine ⟨(mask, thread_id) :: emitted, ?_, hmerge.cons_self ?_⟩
    · rw [merge_loop_cons_nil hrows, hloop]
      simp
    · exact hmerge.not_mem (List.nodup_cons.mp hm.self_nodup).1 (by simp)
  | [], (mask, thread_id) :: another_table_rows, hm =>
    obtain ⟨emitted, hloop, hmerge⟩ := hemit (mask, thread_id) (by simp at hn ⊢; omega)
      (hm.tail_another (by simp))
    refine ⟨(mask, thread_id) :: emitted, ?_, hmerge.cons_another ?_⟩
    · rw [merge_loop_nil_cons hrows, hloop]
      simp
    · exact hmerge.not_mem (by simp) (List.nodup_cons.mp hm.another_nodup).1
  | (mask, thread_id) :: self_rows, (mask2, thread_id2) :: another_table_rows, hm =>
    have hself_new := (List.nodup_cons.mp hm.self_nodup).1
    have hanother_new := (List.nodup_cons.mp hm.another_nodup).1
    simp only [List.length_cons] at hn
    rw [merge_loop_cons_cons hrows]
    by_cases hsame : thread_id = thread_id2
    · subst hsame
      have hmask : mask = mask2 :=
        hm.masks_agree _ List.mem_cons_self _ List.mem_cons_self rfl
      subst hmask
      obtain ⟨emitted, hloop, hmerge⟩ := hemit (mask, thread_id) (by omega) hm.tail_both
      refine ⟨(mask, thread_id) :: emitted, ?_, hmerge.cons_both ?_⟩
      · rw [if_pos rfl, if_pos rfl, hloop]
        simp
      · exact hmerge.not_mem hself_new hanother_new
    rw [if_neg hsame]
    by_cases hlater : ((mask, thread_id) :: self_rows).any (fun row => row.2 = thread_id2)
    · have hin : thread_id2 ∈ self_rows.map Prod.snd := by
        rcases List.mem_cons.mp (any_thread_eq_iff.mp hlater) with heq | hin
        · exact absurd heq.symm hsame
        · exact hin
      have hnot : thread_id ∉ ((mask2, thread_id2) :: another_table_rows).map Prod.snd := by
        have := hm.same_order.not_mem_of_mem hsame hin
        simpa [hsame] using this
      obtain ⟨emitted, hloop, hmerge⟩ := hemit (mask, thread_id) (by simp; omega)
        (hm.tail_self hnot)
      refine ⟨(mask, thread_id) :: emitted, ?_, hmerge.cons_self ?_⟩
      · rw [if_pos hlater, hloop]
        simp
      · exact hmerge.not_mem hself_new hnot
    rw [if_neg hlater]
    have hnot2 : thread_id2 ∉ ((mask, thread_id) :: self_rows).map Prod.snd :=
      fun hmem => hlater (any_thread_eq_iff.mpr hmem)
    by_cases hthere : ((mask2, thread_id2) :: another_table_rows).any (fun row => row.2 = thread_id)
    · obtain ⟨emitted, hloop, hmerge⟩ := hemit (mask2, thread_id2) (by simp; omega)
        (hm.tail_another hnot2)
      refine ⟨(mask2, thread_id2) :: emitted, ?_, hmerge.cons_another ?_⟩
      · rw [if_pos hthere, hloop]
        simp
      · exact hmerge.not_mem hnot2 hanother_new
    · have hnot : thread_id ∉ ((mask2, thread_id2) :: another_table_rows).map Prod.snd :=
        fun hmem => hthere (any_thread_eq_iff.mpr hmem)
      obtain ⟨emitted, hloop, hmerge⟩ := hemit (mask, thread_id) (by simp; omega)
        (hm.tail_self hnot)
      refine ⟨(mask, thread_id) :: emitted, ?_, hmerge.cons_self ?_⟩
      · rw [if_neg hthere, hloop]
        simp
      · exact hmerge.not_mem hself_new hnot

section Tables

variable {self another_table : ThreadsTable}

/-- Two tables ending in the default rule, with unique threads in each, one mask per shared
    thread, and the shared threads in the same order, give the loop mergeable rows. -/
theorem Mergeable.of_tables (hself : self.rows.getLast? = some (default, default))
    (hanother : another_table.rows.getLast? = some (default, default))
    (hself_unique : (self.rows.map Prod.snd).Nodup)
    (hanother_unique : (another_table.rows.map Prod.snd).Nodup)
    (hmasks : ∀ row ∈ self.rows, ∀ row' ∈ another_table.rows, row.2 = row'.2 → row.1 = row'.1)
    (horder : SameOrder (self.rows.map Prod.snd) (another_table.rows.map Prod.snd)) :
    Mergeable self.rows.dropLast.reverse another_table.rows.dropLast.reverse := by
  obtain ⟨front, hfront⟩ := List.getLast?_eq_some_iff.mp hself
  obtain ⟨back, hback⟩ := List.getLast?_eq_some_iff.mp hanother
  simp only [hfront, List.map_append, List.map_cons, List.map_nil] at hself_unique horder
  simp only [hback, List.map_append, List.map_cons, List.map_nil] at hanother_unique horder
  rw [hfront, hback] at hmasks
  rw [hfront, hback, List.dropLast_concat, List.dropLast_concat]
  have hfront_nodup := List.nodup_append.mp hself_unique
  have hback_nodup := List.nodup_append.mp hanother_unique
  have hfront_default : (default : ThreadIdentifier) ∉ front.map Prod.snd :=
    fun hmem => hfront_nodup.2.2 _ hmem _ (List.mem_singleton_self _) rfl
  have hback_default : (default : ThreadIdentifier) ∉ back.map Prod.snd :=
    fun hmem => hback_nodup.2.2 _ hmem _ (List.mem_singleton_self _) rfl
  constructor
  case self_nodup =>
    rw [List.map_reverse]
    exact List.nodup_reverse.mpr hfront_nodup.1
  case another_nodup =>
    rw [List.map_reverse]
    exact List.nodup_reverse.mpr hback_nodup.1
  case masks_agree =>
    intro row hrow row' hrow'
    exact hmasks row (List.mem_append_left _ (List.mem_reverse.mp hrow)) row'
      (List.mem_append_left _ (List.mem_reverse.mp hrow'))
  case same_order =>
    rw [List.map_reverse, List.map_reverse]
    exact (horder.dropLast hfront_default hback_default).reverse

/-- A merge of mergeable tables succeeds, with the emitted rows above the default rule. -/
theorem merge_eq_ok (hself : self.rows.getLast? = some (default, default))
    (hanother : another_table.rows.getLast? = some (default, default))
    (hm : Mergeable self.rows.dropLast.reverse another_table.rows.dropLast.reverse) :
    ∃ rows, self.merge another_table = (.ok (), ⟨rows ++ [(default, default)]⟩) ∧
      (rows.map Prod.snd).Nodup ∧
      (∀ row, row ∈ rows ↔ row ∈ self.rows.dropLast ∨ row ∈ another_table.rows.dropLast) ∧
      self.rows.dropLast.Sublist rows ∧ another_table.rows.dropLast.Sublist rows := by
  obtain ⟨emitted, hloop, hmerge⟩ := hm.merge_loop_eq _ rfl
    (show 0 < (BitmasksTable.new : ThreadsTable).masks.length from Nat.one_pos)
  refine ⟨emitted.reverse, ?_, ?_, fun row => ?_, ?_, ?_⟩
  · unfold merge
    rw [if_neg (not_not.mpr hself), if_neg (not_not.mpr hanother), hloop]
    rfl
  · rw [List.map_reverse]
    exact List.nodup_reverse.mpr hmerge.nodup
  · simpa using hmerge.mem_iff row
  · simpa using hmerge.self_sublist.reverse
  · simpa using hmerge.another_sublist.reverse

/-- Merging a table with itself keeps it. -/
theorem merge_self_eq (hself : self.rows.getLast? = some (default, default))
    (hself_unique : (self.rows.map Prod.snd).Nodup) : self.merge self = (.ok (), self) := by
  have hm : Mergeable self.rows.dropLast.reverse self.rows.dropLast.reverse :=
    Mergeable.of_tables hself hself hself_unique hself_unique
      (fun row hrow row' hrow' hthread =>
        congrArg Prod.fst (List.inj_on_of_nodup_map hself_unique hrow hrow' hthread))
      (SameOrder.refl _)
  obtain ⟨rows, hmerge, hnodup, hmem, hsublist, -⟩ := merge_eq_ok hself hself hm
  have hsubset : rows ⊆ self.rows.dropLast := fun row hrow => by simpa using (hmem row).mp hrow
  have hrows : self.rows.dropLast = rows :=
    hsublist.eq_of_length (Nat.le_antisymm hsublist.length_le
      ((List.Nodup.of_map _ hnodup).length_le_of_subset hsubset))
  obtain ⟨front, hfront⟩ := List.getLast?_eq_some_iff.mp hself
  rw [hmerge, ← hrows, hfront, List.dropLast_concat, ← hfront]
  rfl

end Tables

end ThreadsTable

open ackinacki.bitmask

theorem merge_unions_rows (self another_table : ThreadsTable)
    (hself : self.rows.getLast? = some (default, default))
    (hanother : another_table.rows.getLast? = some (default, default))
    (hself_unique : (self.rows.map Prod.snd).Nodup)
    (hanother_unique : (another_table.rows.map Prod.snd).Nodup)
    (hmasks : ∀ row ∈ self.rows, ∀ row' ∈ another_table.rows, row.2 = row'.2 → row.1 = row'.1)
    (horder : Interleave.SameOrder (self.rows.map Prod.snd) (another_table.rows.map Prod.snd)) :
    (∃ rows, self.merge another_table = (.ok (), ⟨rows ++ [(default, default)]⟩) ∧
      (rows.map Prod.snd).Nodup ∧
      (∀ row, row ∈ rows ↔ row ∈ self.rows.dropLast ∨ row ∈ another_table.rows.dropLast) ∧
      self.rows.dropLast.Sublist rows ∧ another_table.rows.dropLast.Sublist rows) ∧
    self.merge self = (.ok (), self) :=
  ⟨ThreadsTable.merge_eq_ok hself hanother
      (ThreadsTable.Mergeable.of_tables hself hanother hself_unique hanother_unique hmasks horder),
    ThreadsTable.merge_self_eq hself hself_unique⟩

/-- Two threads other than the default one. -/
def thread_one : ThreadIdentifier := ⟨Vector.replicate 34 1⟩

def thread_two : ThreadIdentifier := ⟨Vector.replicate 34 2⟩

/-- The routings whose dapp identifier has its first bit set, and those that have it clear. -/
def first_bit_set : Bitmask AccountRouting := ⟨⟨⟨⟨1#256 <<< 255⟩⟩, ⟨0⟩⟩, ⟨⟨⟨1#256 <<< 255⟩⟩, ⟨0⟩⟩⟩

def first_bit_clear : Bitmask AccountRouting := ⟨default, ⟨⟨⟨1#256 <<< 255⟩⟩, ⟨0⟩⟩⟩

/-- A table that routes one thread, and one that routes it and another below it. -/
def one_thread_table : ThreadsTable := ⟨[(first_bit_set, thread_one), (default, default)]⟩

def two_thread_table : ThreadsTable :=
  ⟨[(first_bit_set, thread_one), (first_bit_clear, thread_two), (default, default)]⟩

theorem merge_unions_rows_of_two_tables :
    one_thread_table.rows.getLast? = some (default, default) ∧
      two_thread_table.rows.getLast? = some (default, default) ∧
      (one_thread_table.rows.map Prod.snd).Nodup ∧ (two_thread_table.rows.map Prod.snd).Nodup ∧
      (∀ row ∈ one_thread_table.rows, ∀ row' ∈ two_thread_table.rows,
        row.2 = row'.2 → row.1 = row'.1) ∧
      Interleave.SameOrder (one_thread_table.rows.map Prod.snd)
        (two_thread_table.rows.map Prod.snd) ∧
      (∃ rows, one_thread_table.merge two_thread_table = (.ok (), ⟨rows ++ [(default, default)]⟩) ∧
        (rows.map Prod.snd).Nodup ∧
        (∀ row, row ∈ rows ↔ row ∈ one_thread_table.rows.dropLast ∨
          row ∈ two_thread_table.rows.dropLast) ∧
        one_thread_table.rows.dropLast.Sublist rows ∧ two_thread_table.rows.dropLast.Sublist rows) ∧
      one_thread_table.merge one_thread_table = (.ok (), one_thread_table) := by
  have hone_last : one_thread_table.rows.getLast? = some (default, default) := by decide +kernel
  have htwo_last : two_thread_table.rows.getLast? = some (default, default) := by decide +kernel
  have hone_unique : (one_thread_table.rows.map Prod.snd).Nodup := by decide +kernel
  have htwo_unique : (two_thread_table.rows.map Prod.snd).Nodup := by decide +kernel
  have hmasks : ∀ row ∈ one_thread_table.rows, ∀ row' ∈ two_thread_table.rows,
      row.2 = row'.2 → row.1 = row'.1 := by decide +kernel
  have horder : Interleave.SameOrder (one_thread_table.rows.map Prod.snd)
      (two_thread_table.rows.map Prod.snd) := by decide +kernel
  exact ⟨hone_last, htwo_last, hone_unique, htwo_unique, hmasks, horder,
    merge_unions_rows one_thread_table two_thread_table hone_last htwo_last hone_unique
      htwo_unique hmasks horder⟩

end ackinacki.types
