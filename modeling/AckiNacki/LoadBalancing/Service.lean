import AckiNacki.LoadBalancing.ThreadsSplit
import AckiNacki.Lib.Run

namespace ackinacki.types

/-- `BlockIdentifier`: a block's 32-byte hash. -/
structure BlockIdentifier where
  val : Vector UInt8 32
  deriving DecidableEq, Repr

/-- `ThreadIdentifier::new`: the local index in the first two bytes, high byte first, then the
    identifier of the block the thread is spawned after. -/
def ThreadIdentifier.new (block_id : BlockIdentifier) (id : UInt16) : ThreadIdentifier :=
  ⟨#v[((id >>> 8) &&& 0xFF).toUInt8, (id &&& 0xFF).toUInt8] ++ block_id.val⟩

/-- `ThreadIdentifier::is_spawning_block`: bytes `2..34` are the block's identifier. -/
def ThreadIdentifier.is_spawning_block (self : ThreadIdentifier) (block_id : BlockIdentifier) :
    Bool :=
  self.val.toList.drop 2 == block_id.val.toList

/-- A thread made by `ThreadIdentifier::new` after a block is spawned by that block. -/
theorem ThreadIdentifier.new_is_spawning_block (block_id : BlockIdentifier) (id : UInt16) :
    (ThreadIdentifier.new block_id id).is_spawning_block block_id = true := by
  simp only [ThreadIdentifier.is_spawning_block, ThreadIdentifier.new, Vector.toList_append,
    beq_iff_eq]
  rfl

/-- `ThreadsTable::list_threads`: the threads of the rows, each once (a `HashSet`). -/
def ThreadsTable.list_threads (self : ThreadsTable) : List ThreadIdentifier :=
  (self.rows.map Prod.snd).dedup

end ackinacki.types

namespace ackinacki.multithreading.load_balancing_service

open ackinacki.types ackinacki.bitmask

deriving instance DecidableEq for ThreadAction

/-- `MAX_LOAD_DISPROPORTION`: a thread splits at the table's size limit only if it carries more
    than twice the load of the least loaded thread. -/
def MAX_LOAD_DISPROPORTION : Nat := 2

/-- `CheckError`. -/
inductive CheckError
  | StatsAreNotReady
  | ThreadIsNotInTheTable
  deriving DecidableEq, Repr

/-- `LoadBalancingService`; the metrics are left out. The `HashMap` of windows is a partial
    function. -/
structure LoadBalancingService where
  thread_load_map : ThreadIdentifier → Option AggregatedLoad
  window_size : Nat
  load_threshold : Nat

/-- A finalized block as the service reads it: its identifier, its thread and the threads table
    of its common section, and what `append_from` reads off it (the internal message queue
    length of its state, and `InThreadAccountsLoad::new_from`). -/
structure FinalizedBlock where
  identifier : BlockIdentifier
  thread_id : ThreadIdentifier
  threads_table : Option ThreadsTable
  queue_length : Nat
  accounts_load : InThreadAccountsLoad

/-- Whether a thread of the block's threads table is spawned by the block. -/
def FinalizedBlock.spawns_thread (block : FinalizedBlock) : Bool :=
  match block.threads_table with
  | some threads_table =>
    threads_table.list_threads.any fun thread_id => thread_id.is_spawning_block block.identifier
  | none => false

/-- The accumulators of the loop of `check` over the table's rows. -/
structure CheckScan where
  min_load : Nat
  min_load_thread_id : ThreadIdentifier
  max_load : Nat
  max_load_thread_id : ThreadIdentifier
  last_thread_id : Option ThreadIdentifier
  pre_last_thread_id : Option ThreadIdentifier
  this_thread_row_index : Option Nat
  this_thread_bitmask : Option (Bitmask AccountRouting)
  i : Nat

namespace LoadBalancingService

def start (window_size load_threshold : Nat) : LoadBalancingService :=
  ⟨fun _ => none, window_size, load_threshold⟩

/-- `read_load`: the load of a thread whose window is ready. -/
def read_load (self : LoadBalancingService) (thread_identifier : ThreadIdentifier) :
    Except CheckError Nat :=
  match self.thread_load_map thread_identifier with
  | none => .error .StatsAreNotReady
  | some load => if !load.is_ready then .error .StatsAreNotReady else .ok load.load_value

/-- The accumulators before the loop: this thread is both the least and the most loaded. -/
def CheckScan.init (thread_identifier : ThreadIdentifier) (current_load : Nat) : CheckScan :=
  ⟨current_load, thread_identifier, current_load, thread_identifier, none, none, none, none, 0⟩

/-- One turn of the loop of `check`: a thread whose load is not ready is skipped; otherwise a
    strictly higher load is the new maximum, an equal or lower one the new minimum (the later
    row wins the tie), and the row is the last one read. -/
def check_scan_row (self : LoadBalancingService) (thread_identifier : ThreadIdentifier)
    (acc : CheckScan) (row : Bitmask AccountRouting × ThreadIdentifier) : CheckScan :=
  match self.read_load row.2 with
  | .error _ => { acc with i := acc.i + 1 }
  | .ok thread_load =>
    let (max_load, max_load_thread_id) :=
      if thread_load > acc.max_load then (thread_load, row.2)
      else (acc.max_load, acc.max_load_thread_id)
    let (this_thread_row_index, this_thread_bitmask) :=
      if row.2 = thread_identifier then (some acc.i, some row.1)
      else (acc.this_thread_row_index, acc.this_thread_bitmask)
    let (min_load, min_load_thread_id) :=
      if acc.min_load ≥ thread_load then (thread_load, row.2)
      else (acc.min_load, acc.min_load_thread_id)
    { min_load, min_load_thread_id, max_load, max_load_thread_id
      last_thread_id := some row.2
      pre_last_thread_id := acc.last_thread_id
      this_thread_row_index, this_thread_bitmask
      i := acc.i + 1 }

/-- The loop of `check` over the rows. -/
def check_scan (self : LoadBalancingService) (thread_identifier : ThreadIdentifier)
    (current_load : Nat) (rows : List (Bitmask AccountRouting × ThreadIdentifier)) : CheckScan :=
  rows.foldl (self.check_scan_row thread_identifier) (CheckScan.init thread_identifier current_load)

end LoadBalancingService

/-- `threads_merge::try_threads_merge` as built by default, without the `allow-threads-merge`
    feature: threads never collapse. -/
def try_threads_merge (_this_thread_id : ThreadIdentifier) (_this_thread_row_index : Nat)
    (_thread_with_min_load : ThreadIdentifier) (_pre_default_thread : Option ThreadIdentifier)
    (_default_thread_id : ThreadIdentifier) (_threads_table : ThreadsTable) :
    Except CheckError ThreadAction :=
  .ok .ContinueAsIs

/-- What a split proposal needs: this thread has the highest load, the table is below its size
    limit or the load is out of proportion with the least one, the window proposes a mask no
    row has, and it goes in above the thread's row. -/
theorem try_threads_split_eq_split_ok {new_thread_id this_thread_id : ThreadIdentifier}
    {this_thread_row_index : Nat} {this_thread_aggregated_load : AggregatedLoad}
    {this_thread_bitmask : Bitmask AccountRouting}
    {max_load min_load max_load_disproportion_coefficient : Nat}
    {thread_with_max_load : ThreadIdentifier} {threads_table proposed_threads_table : ThreadsTable}
    {max_table_size : Nat}
    (h : try_threads_split new_thread_id this_thread_id this_thread_row_index
      this_thread_aggregated_load this_thread_bitmask max_load min_load
      max_load_disproportion_coefficient thread_with_max_load threads_table max_table_size =
        some (.Split proposed_threads_table)) :
    thread_with_max_load = this_thread_id ∧
    ¬(threads_table.len ≥ max_table_size ∧ max_load ≤ max_load_disproportion_coefficient * min_load) ∧
    ∃ proposed_mask,
      this_thread_aggregated_load.propose_new_bitmask this_thread_bitmask = some proposed_mask ∧
      (∀ row ∈ threads_table.rows, row.1 ≠ proposed_mask) ∧
      threads_table.insert_above this_thread_row_index proposed_mask new_thread_id =
        (.ok (), proposed_threads_table) := by
  unfold try_threads_split at h
  split_ifs at h with hmax hbalanced
  · cases h
  · cases h
  split at h
  · cases h
  rename_i proposed_mask hproposed
  split_ifs at h with hexists
  · cases h
  split at h
  · rename_i hinsert
    cases h
    refine ⟨not_not.mp hmax, hbalanced, proposed_mask, hproposed, fun row hrow heq => ?_, hinsert⟩
    exact hexists (List.any_eq_true.mpr ⟨row, hrow, by simp [heq]⟩)
  · cases h

namespace LoadBalancingService

/-- The service with a thread's window reset. -/
def reset_load (self : LoadBalancingService) (thread_identifier : ThreadIdentifier)
    (load : AggregatedLoad) : LoadBalancingService :=
  { self with thread_load_map := Function.update self.thread_load_map thread_identifier (some load.reset) }

/-- `check`, on the block a producer has just built for a thread. `none` is a panic: the
    `assert!` on the table size, or one inside `try_threads_split`. A thread that gets as far
    as `try_threads_split` resets its window, whatever the answer. -/
def check (self : LoadBalancingService) (block_identifier : BlockIdentifier)
    (thread_identifier : ThreadIdentifier) (threads_table : ThreadsTable) (max_table_size : Nat) :
    Option (Except CheckError ThreadAction × LoadBalancingService) :=
  if max_table_size = 0 then none
  else
    match self.read_load thread_identifier with
    | .error e => some (.error e, self)
    | .ok current_load =>
      let scan := self.check_scan thread_identifier current_load threads_table.rows
      match scan.this_thread_row_index, scan.this_thread_bitmask, scan.last_thread_id with
      | none, _, _ => some (.error .ThreadIsNotInTheTable, self)
      | some _, none, _ => none
      | some _, some _, none => none
      | some this_thread_row_index, some this_thread_bitmask, some last_thread_id =>
        if threads_table.len > max_table_size then
          some (try_threads_merge thread_identifier this_thread_row_index scan.min_load_thread_id
            scan.pre_last_thread_id last_thread_id threads_table, self)
        else if scan.max_load ≥ self.load_threshold then
          match self.thread_load_map thread_identifier with
          | none => some (.error .ThreadIsNotInTheTable, self)
          | some load =>
            (try_threads_split (ThreadIdentifier.new block_identifier 0) thread_identifier
                this_thread_row_index load this_thread_bitmask scan.max_load scan.min_load
                MAX_LOAD_DISPROPORTION scan.max_load_thread_id threads_table max_table_size).map
              fun res => (.ok res, self.reset_load thread_identifier load)
        else some (.ok .ContinueAsIs, self)

/-- `handle_block_finalized`: the thread of a block in which a thread was spawned resets its
    window; any other block is appended to its thread's window. `none` is a panic: a thread
    with no window, or a failed `append_from`. -/
def handle_block_finalized (self : LoadBalancingService) (block : FinalizedBlock) :
    Option LoadBalancingService :=
  match block.spawns_thread, self.thread_load_map block.thread_id with
  | true, some load => some (self.reset_load block.thread_id load)
  | _, _ =>
    match self.thread_load_map block.thread_id with
    | some e =>
      (e.append_from block.queue_length block.accounts_load).map fun e =>
        { self with thread_load_map := Function.update self.thread_load_map block.thread_id (some e) }
    | none => none

/-- `handle_start_thread`: the new thread gets an empty window, and the thread of the row right
    below the new thread's first row, its parent, resets its own. -/
def handle_start_thread (self : LoadBalancingService) (thread_identifier : ThreadIdentifier)
    (threads_table : Option ThreadsTable) : LoadBalancingService :=
  let self :=
    match threads_table with
    | none => self
    | some threads =>
      match threads.rows.findIdx?
          (fun row : Bitmask AccountRouting × ThreadIdentifier => row.2 == thread_identifier) with
      | none => self
      | some index =>
        match threads.rows[index + 1]? with
        | none => self
        | some (_, parent_thread) =>
          match self.thread_load_map parent_thread with
          | some load => self.reset_load parent_thread load
          | none => self
  { self with
    thread_load_map :=
      Function.update self.thread_load_map thread_identifier (some (AggregatedLoad.new self.window_size)) }

/-- `handle_stop_thread`. -/
def handle_stop_thread (self : LoadBalancingService) (thread_identifier : ThreadIdentifier) :
    LoadBalancingService :=
  { self with thread_load_map := Function.update self.thread_load_map thread_identifier none }

end LoadBalancingService

/-- What the node hands the service: a block built for a thread to check, a finalized block, and
    the start and the stop of a thread (`threads_tracking_service::Subscriber`). -/
inductive ServiceEvent
  | check (block_identifier : BlockIdentifier) (thread_identifier : ThreadIdentifier)
      (threads_table : ThreadsTable) (max_table_size : Nat)
  | block_finalized (block : FinalizedBlock)
  | start_thread (thread_identifier : ThreadIdentifier) (threads_table : Option ThreadsTable)
  | stop_thread (thread_identifier : ThreadIdentifier)

namespace LoadBalancingService

/-- One call on the service: a check answers its result; `none` is a panic. -/
def step (self : LoadBalancingService) :
    ServiceEvent → Option (Option (Except CheckError ThreadAction) × LoadBalancingService)
  | .check block_identifier thread_identifier threads_table max_table_size =>
    (self.check block_identifier thread_identifier threads_table max_table_size).map
      fun (result, self) => (some result, self)
  | .block_finalized block => (self.handle_block_finalized block).map fun self => (none, self)
  | .start_thread thread_identifier threads_table =>
    some (none, self.handle_start_thread thread_identifier threads_table)
  | .stop_thread thread_identifier => some (none, self.handle_stop_thread thread_identifier)

end LoadBalancingService

namespace AggregatedLoad

/-- A ready window sums, slot by slot, the last `window_size` blocks of its history. -/
theorem Consistent.sum_map_eq {M : Type} [AddCommMonoid M] {self : AggregatedLoad}
    {history : List (Nat × InThreadAccountsLoad)} (hinv : Consistent self history)
    (hready : self.is_ready = true) (f : Nat × InThreadAccountsLoad → M) :
    (self.window.map f).sum = ((history.take self.window_size).map f).sum := by
  have hfilled : self.window_size ≤ history.length := hinv.filled_iff.mp hready
  have hslots : (self.window.map f).length = self.window_size := by
    simpa using hinv.window_length
  rw [List.map_take, ← hslots]
  apply Ring.sum_eq_sum_take (n := history.length)
  · omega
  · rw [List.length_map, List.length_map, hinv.window_length]
    exact hfilled
  · intro k hk
    rw [hslots] at hk ⊢
    simpa using congrArg (Option.map f) (hinv.slot_eq k hk (by omega))

/-- A ready window's accounts load is that of the last `window_size` blocks of its history. -/
theorem Consistent.accounts_value_eq {self : AggregatedLoad}
    {history : List (Nat × InThreadAccountsLoad)} (hinv : Consistent self history)
    (hready : self.is_ready = true) :
    self.aggregated_value.2 = ((history.take self.window_size).map Prod.snd).sum := by
  rw [hinv.accounts_sum]
  exact hinv.sum_map_eq hready Prod.snd

end AggregatedLoad

namespace LoadBalancingService

variable {self self' : LoadBalancingService}

theorem read_load_eq_ok {thread_identifier : ThreadIdentifier} {thread_load : Nat} :
    self.read_load thread_identifier = .ok thread_load ↔
      ∃ load, self.thread_load_map thread_identifier = some load ∧ load.is_ready = true ∧
        load.load_value = thread_load := by
  unfold read_load
  split
  · simp_all
  · rename_i load hload
    by_cases hready : load.is_ready = true
    · simp [hready, hload]
    · simp [hready, hload]

theorem reset_load_thread_load_map (thread_identifier thread : ThreadIdentifier)
    (load : AggregatedLoad) :
    (self.reset_load thread_identifier load).thread_load_map thread =
      if thread = thread_identifier then some load.reset else self.thread_load_map thread := by
  simp only [reset_load, Function.update_apply]

/-- What the loop of `check` knows after a run of rows, on a thread of load `current_load`: the
    rows counted; the row of the thread, its last one, with its mask; the highest load, which is
    the thread's own unless another thread's is strictly higher; and the lowest load, of the
    thread or of a row. -/
structure CheckScan.Spec (service : LoadBalancingService) (thread_identifier : ThreadIdentifier)
    (current_load : Nat) (rows : List (Bitmask AccountRouting × ThreadIdentifier))
    (scan : CheckScan) : Prop where
  i_eq : scan.i = rows.length
  index_none : scan.this_thread_row_index = none → ∀ row ∈ rows, row.2 ≠ thread_identifier
  index_some : ∀ i, scan.this_thread_row_index = some i →
    ∃ mask, rows[i]? = some (mask, thread_identifier) ∧ scan.this_thread_bitmask = some mask ∧
      scan.last_thread_id.isSome ∧
      ∀ j row, i < j → rows[j]? = some row → row.2 ≠ thread_identifier
  max_cases : (scan.max_load_thread_id = thread_identifier ∧ scan.max_load = current_load) ∨
    (current_load < scan.max_load ∧ scan.max_load_thread_id ≠ thread_identifier)
  le_max : ∀ row ∈ rows, ∀ thread_load, service.read_load row.2 = .ok thread_load →
    thread_load ≤ scan.max_load
  min_le : scan.min_load ≤ current_load
  min_le_row : ∀ row ∈ rows, ∀ thread_load, service.read_load row.2 = .ok thread_load →
    scan.min_load ≤ thread_load
  min_of : scan.min_load = current_load ∨ ∃ row ∈ rows, service.read_load row.2 = .ok scan.min_load

variable {thread_identifier : ThreadIdentifier} {current_load : Nat}

theorem CheckScan.spec_init :
    CheckScan.Spec self thread_identifier current_load [] (CheckScan.init thread_identifier current_load) where
  i_eq := rfl
  index_none _ _ hrow := absurd hrow List.not_mem_nil
  index_some _ hi := by cases hi
  max_cases := .inl ⟨rfl, rfl⟩
  le_max _ hrow := absurd hrow List.not_mem_nil
  min_le := le_rfl
  min_le_row _ hrow := absurd hrow List.not_mem_nil
  min_of := .inl rfl

theorem check_scan_row_error {acc : CheckScan} {row : Bitmask AccountRouting × ThreadIdentifier}
    {e : CheckError} (hread : self.read_load row.2 = .error e) :
    self.check_scan_row thread_identifier acc row = { acc with i := acc.i + 1 } := by
  unfold check_scan_row
  rw [hread]

theorem check_scan_row_ok {acc : CheckScan} {row : Bitmask AccountRouting × ThreadIdentifier}
    {thread_load : Nat} (hread : self.read_load row.2 = .ok thread_load) :
    self.check_scan_row thread_identifier acc row =
      { min_load := if acc.min_load ≥ thread_load then thread_load else acc.min_load
        min_load_thread_id := if acc.min_load ≥ thread_load then row.2 else acc.min_load_thread_id
        max_load := if thread_load > acc.max_load then thread_load else acc.max_load
        max_load_thread_id := if thread_load > acc.max_load then row.2 else acc.max_load_thread_id
        last_thread_id := some row.2
        pre_last_thread_id := acc.last_thread_id
        this_thread_row_index :=
          if row.2 = thread_identifier then some acc.i else acc.this_thread_row_index
        this_thread_bitmask :=
          if row.2 = thread_identifier then some row.1 else acc.this_thread_bitmask
        i := acc.i + 1 } := by
  unfold check_scan_row
  rw [hread]
  dsimp only
  split_ifs <;> rfl

/-- A row read before the last one stays where it was once the last one is appended. -/
theorem getElem?_append_singleton_of_lt {rows : List (Bitmask AccountRouting × ThreadIdentifier)}
    {row : Bitmask AccountRouting × ThreadIdentifier} {j : Nat} (hj : j < rows.length) :
    (rows ++ [row])[j]? = rows[j]? :=
  List.getElem?_append_left hj

/-- The rows after a row of the extended list: rows after it before, or the last one. -/
theorem mem_later_rows {rows : List (Bitmask AccountRouting × ThreadIdentifier)}
    {row other : Bitmask AccountRouting × ThreadIdentifier} {j : Nat}
    (hj : (rows ++ [row])[j]? = some other) :
    (j < rows.length ∧ rows[j]? = some other) ∨ (j = rows.length ∧ other = row) := by
  rcases Nat.lt_or_ge j rows.length with hlt | hge
  · exact .inl ⟨hlt, by rwa [getElem?_append_singleton_of_lt hlt] at hj⟩
  · rw [List.getElem?_append_right hge] at hj
    have hzero : j - rows.length = 0 := by
      by_contra hpos
      rw [List.getElem?_singleton, if_neg hpos] at hj
      cases hj
    rw [hzero, List.getElem?_singleton, if_pos rfl, Option.some.injEq] at hj
    exact .inr ⟨by omega, hj.symm⟩

/-- Step lemma of the loop of `check`. -/
theorem CheckScan.Spec.step (hcur : self.read_load thread_identifier = .ok current_load)
    {rows : List (Bitmask AccountRouting × ThreadIdentifier)} {acc : CheckScan}
    (hspec : CheckScan.Spec self thread_identifier current_load rows acc)
    (row : Bitmask AccountRouting × ThreadIdentifier) :
    CheckScan.Spec self thread_identifier current_load (rows ++ [row])
      (self.check_scan_row thread_identifier acc row) := by
  have hmax_ge : current_load ≤ acc.max_load := by
    rcases hspec.max_cases with ⟨-, h⟩ | ⟨h, -⟩ <;> omega
  cases hread : self.read_load row.2 with
  | error e =>
    have hne : row.2 ≠ thread_identifier := by
      intro heq
      rw [heq, hcur] at hread
      cases hread
    rw [check_scan_row_error hread]
    constructor
    case i_eq => simp [hspec.i_eq]
    case index_none =>
      intro hnone other hother
      rcases List.mem_append.mp hother with hother | hother
      · exact hspec.index_none hnone other hother
      · rw [List.mem_singleton.mp hother]
        exact hne
    case index_some =>
      intro i hi
      obtain ⟨mask, hrow, hmask, hlast, hlater⟩ := hspec.index_some i hi
      have hlt : i < rows.length := (List.getElem?_eq_some_iff.mp hrow).1
      refine ⟨mask, by rwa [getElem?_append_singleton_of_lt hlt], hmask, hlast, ?_⟩
      intro j other hij hother
      rcases mem_later_rows hother with ⟨-, hother⟩ | ⟨-, rfl⟩
      · exact hlater j other hij hother
      · exact hne
    case max_cases => exact hspec.max_cases
    case le_max =>
      intro other hother thread_load hload
      rcases List.mem_append.mp hother with hother | hother
      · exact hspec.le_max other hother thread_load hload
      · rw [List.mem_singleton.mp hother, hread] at hload
        cases hload
    case min_le => exact hspec.min_le
    case min_le_row =>
      intro other hother thread_load hload
      rcases List.mem_append.mp hother with hother | hother
      · exact hspec.min_le_row other hother thread_load hload
      · rw [List.mem_singleton.mp hother, hread] at hload
        cases hload
    case min_of =>
      rcases hspec.min_of with hmin | ⟨other, hother, hload⟩
      · exact .inl hmin
      · exact .inr ⟨other, List.mem_append_left _ hother, hload⟩
  | ok thread_load =>
    rw [check_scan_row_ok hread]
    constructor
    case i_eq => simp [hspec.i_eq]
    case index_none =>
      intro hnone other hother
      dsimp only at hnone
      split_ifs at hnone with hrow
      rcases List.mem_append.mp hother with hother | hother
      · exact hspec.index_none hnone other hother
      · rw [List.mem_singleton.mp hother]
        exact hrow
    case index_some =>
      intro i hi
      dsimp only at hi ⊢
      split_ifs at hi ⊢ with hrow
      · rw [Option.some.injEq] at hi
        subst hi
        refine ⟨row.1, ?_, rfl, rfl, ?_⟩
        · rw [List.getElem?_append_right (by rw [hspec.i_eq]), hspec.i_eq, Nat.sub_self]
          simp [← hrow]
        · intro j other hij hother
          rcases mem_later_rows hother with ⟨hj, -⟩ | ⟨hj, -⟩ <;> rw [hspec.i_eq] at hij <;> omega
      · obtain ⟨mask, hrow', hmask, -, hlater⟩ := hspec.index_some i hi
        have hlt : i < rows.length := (List.getElem?_eq_some_iff.mp hrow').1
        refine ⟨mask, by rwa [getElem?_append_singleton_of_lt hlt], hmask, rfl, ?_⟩
        intro j other hij hother
        rcases mem_later_rows hother with ⟨-, hother⟩ | ⟨-, rfl⟩
        · exact hlater j other hij hother
        · exact hrow
    case max_cases =>
      dsimp only
      split_ifs with hmax
      · refine .inr ⟨by omega, fun heq => ?_⟩
        rw [heq, hcur, Except.ok.injEq] at hread
        omega
      · exact hspec.max_cases
    case le_max =>
      intro other hother load hload
      dsimp only
      rcases List.mem_append.mp hother with hother | hother
      · have := hspec.le_max other hother load hload
        split_ifs <;> omega
      · rw [List.mem_singleton.mp hother, hread, Except.ok.injEq] at hload
        split_ifs <;> omega
    case min_le =>
      dsimp only
      have := hspec.min_le
      split_ifs <;> omega
    case min_le_row =>
      intro other hother load hload
      dsimp only
      rcases List.mem_append.mp hother with hother | hother
      · have := hspec.min_le_row other hother load hload
        split_ifs <;> omega
      · rw [List.mem_singleton.mp hother, hread, Except.ok.injEq] at hload
        split_ifs <;> omega
    case min_of =>
      dsimp only
      split_ifs with hmin
      · exact .inr ⟨row, List.mem_append_right _ (List.mem_singleton_self row), hread⟩
      · rcases hspec.min_of with hmin' | ⟨other, hother, hload⟩
        · exact .inl hmin'
        · exact .inr ⟨other, List.mem_append_left _ hother, hload⟩

/-- Run lemma of the loop of `check`, over the rows of the table. -/
theorem check_scan_spec (hcur : self.read_load thread_identifier = .ok current_load)
    (rows : List (Bitmask AccountRouting × ThreadIdentifier)) :
    CheckScan.Spec self thread_identifier current_load rows
      (self.check_scan thread_identifier current_load rows) := by
  induction rows using List.reverseRecOn with
  | nil => exact CheckScan.spec_init
  | append_singleton rows row ih =>
    rw [check_scan, List.foldl_append, List.foldl_cons, List.foldl_nil]
    exact ih.step hcur row

/-- An answer on the service as it was, other than a split. -/
theorem check_quiet {result result' : Except CheckError ThreadAction}
    (hquiet : ∀ proposed_threads_table, result' ≠ .ok (.Split proposed_threads_table))
    (h : some (result', self) = some (result, self')) :
    self' = self ∧ ∀ proposed_threads_table, result ≠ .ok (.Split proposed_threads_table) := by
  simp only [Option.some.injEq, Prod.mk.injEq] at h
  obtain ⟨rfl, rfl⟩ := h
  exact ⟨rfl, hquiet⟩

/-- Inversion of `check`: it panics on an empty table size; otherwise it leaves the service as it
    was and does not split, or, for a thread of ready load found in a table within the size
    limit while the highest load reaches the threshold, it resets the thread's window and answers
    what `try_threads_split` answers. -/
theorem check_cases {block_identifier : BlockIdentifier} {threads_table : ThreadsTable}
    {max_table_size : Nat} {result : Except CheckError ThreadAction}
    (h : self.check block_identifier thread_identifier threads_table max_table_size =
      some (result, self')) :
    0 < max_table_size ∧
    ((self' = self ∧ ∀ proposed_threads_table, result ≠ .ok (.Split proposed_threads_table)) ∨
      ∃ current_load scan this_thread_row_index this_thread_bitmask load res,
        self.read_load thread_identifier = .ok current_load ∧
        self.check_scan thread_identifier current_load threads_table.rows = scan ∧
        scan.this_thread_row_index = some this_thread_row_index ∧
        scan.this_thread_bitmask = some this_thread_bitmask ∧
        threads_table.len ≤ max_table_size ∧ self.load_threshold ≤ scan.max_load ∧
        self.thread_load_map thread_identifier = some load ∧
        try_threads_split (ThreadIdentifier.new block_identifier 0) thread_identifier
          this_thread_row_index load this_thread_bitmask scan.max_load scan.min_load
          MAX_LOAD_DISPROPORTION scan.max_load_thread_id threads_table max_table_size = some res ∧
        result = .ok res ∧ self' = self.reset_load thread_identifier load) := by
  unfold check at h
  split at h
  · cases h
  rename_i hsize
  refine ⟨Nat.pos_of_ne_zero hsize, ?_⟩
  split at h
  · exact .inl (check_quiet (fun _ hsplit => by cases hsplit) h)
  rename_i current_load hcur
  dsimp only at h
  split at h
  · exact .inl (check_quiet (fun _ hsplit => by cases hsplit) h)
  · cases h
  · cases h
  rename_i this_thread_row_index this_thread_bitmask last_thread_id hindex hmask hlast
  split at h
  · exact .inl (check_quiet (fun _ hsplit => by cases hsplit) h)
  rename_i hlen
  split at h
  · rename_i hthreshold
    split at h
    · exact .inl (check_quiet (fun _ hsplit => by cases hsplit) h)
    rename_i load hload
    obtain ⟨res, hres, hpair⟩ := Option.map_eq_some_iff.mp h
    simp only [Prod.mk.injEq] at hpair
    exact .inr ⟨current_load, _, this_thread_row_index, this_thread_bitmask, load, res, hcur, rfl,
      hindex, hmask, Nat.le_of_not_lt hlen, hthreshold, hload, hres, hpair.1.symm, hpair.2.symm⟩
  · exact .inl (check_quiet (fun _ hsplit => by cases hsplit) h)

/-- `check` panics only on an empty table size: the row of the thread comes with its mask and
    a last row, and the split proposal goes above a row of the table. -/
theorem check_isSome {block_identifier : BlockIdentifier} {threads_table : ThreadsTable}
    {max_table_size : Nat} (hsize : 0 < max_table_size) :
    (self.check block_identifier thread_identifier threads_table max_table_size).isSome := by
  unfold check
  rw [if_neg (Nat.pos_iff_ne_zero.mp hsize)]
  split
  · rfl
  rename_i current_load hcur
  have hspec := check_scan_spec hcur threads_table.rows
  dsimp only
  split
  · rfl
  · rename_i i hindex hmask
    obtain ⟨mask, -, hmask', -, -⟩ := hspec.index_some i hindex
    rw [hmask] at hmask'
    cases hmask'
  · rename_i i mask hindex _ hlast
    obtain ⟨-, -, -, hlast', -⟩ := hspec.index_some i hindex
    rw [hlast] at hlast'
    cases hlast'
  rename_i i mask last hindex hmask _
  split
  · rfl
  split
  · split
    · rfl
    · obtain ⟨mask', hrow, hmask', -, -⟩ := hspec.index_some i hindex
      have hlt : i < threads_table.masks.length := (List.getElem?_eq_some_iff.mp hrow).1
      rw [Option.isSome_map]
      exact try_threads_split_isSome hlt
  · rfl

/-- `check` leaves the service as it was, or resets the window of the thread it checks. -/
theorem check_state {block_identifier : BlockIdentifier} {threads_table : ThreadsTable}
    {max_table_size : Nat} {result : Except CheckError ThreadAction}
    (h : self.check block_identifier thread_identifier threads_table max_table_size =
      some (result, self')) :
    self' = self ∨
      ∃ load, self.thread_load_map thread_identifier = some load ∧
        self' = self.reset_load thread_identifier load := by
  rcases (check_cases h).2 with ⟨rfl, -⟩ | ⟨-, -, -, -, load, -, -, -, -, -, -, -, hload, -, -, rfl⟩
  · exact .inl rfl
  · exact .inr ⟨load, hload, rfl⟩

/-- A split is proposed by a thread of ready load that reaches the threshold and is at least
    every ready load of the table; at the table's size limit, only when some thread has less than
    half of it. The window's mask, new to the table, goes in above the thread's last row, and the
    thread's window is reset. -/
theorem check_eq_split {block_identifier : BlockIdentifier} {threads_table : ThreadsTable}
    {max_table_size : Nat} {proposed_threads_table : ThreadsTable}
    (h : self.check block_identifier thread_identifier threads_table max_table_size =
      some (.ok (.Split proposed_threads_table), self')) :
    ∃ current_load this_thread_row_index this_thread_bitmask load proposed_mask,
      self.read_load thread_identifier = .ok current_load ∧
      self.thread_load_map thread_identifier = some load ∧
      self.load_threshold ≤ current_load ∧
      (∀ row ∈ threads_table.rows, ∀ thread_load, self.read_load row.2 = .ok thread_load →
        thread_load ≤ current_load) ∧
      threads_table.len ≤ max_table_size ∧
      (threads_table.len < max_table_size ∨ ∃ row ∈ threads_table.rows, ∃ thread_load,
        self.read_load row.2 = .ok thread_load ∧ MAX_LOAD_DISPROPORTION * thread_load < current_load) ∧
      threads_table.rows[this_thread_row_index]? = some (this_thread_bitmask, thread_identifier) ∧
      (∀ j row, this_thread_row_index < j → threads_table.rows[j]? = some row →
        row.2 ≠ thread_identifier) ∧
      load.propose_new_bitmask this_thread_bitmask = some proposed_mask ∧
      (∀ row ∈ threads_table.rows, row.1 ≠ proposed_mask) ∧
      threads_table.insert_above this_thread_row_index proposed_mask
        (ThreadIdentifier.new block_identifier 0) = (.ok (), proposed_threads_table) ∧
      self' = self.reset_load thread_identifier load := by
  obtain ⟨-, ⟨-, hquiet⟩ | ⟨current_load, scan, this_thread_row_index, this_thread_bitmask, load, res,
    hcur, rfl, hindex, hmask, hlen, hthreshold, hload, hsplit, hres, rfl⟩⟩ := check_cases h
  · exact absurd rfl (hquiet proposed_threads_table)
  cases hres
  have hspec := check_scan_spec hcur threads_table.rows
  obtain ⟨mask, hrow, hmask', -, hlater⟩ := hspec.index_some this_thread_row_index hindex
  rw [hmask, Option.some.injEq] at hmask'
  subst hmask'
  obtain ⟨hmax_thread, hbalanced, proposed_mask, hproposed, hnew, hinsert⟩ :=
    try_threads_split_eq_split_ok hsplit
  have hmax : (self.check_scan thread_identifier current_load threads_table.rows).max_load =
      current_load := by
    rcases hspec.max_cases with ⟨-, hmax⟩ | ⟨-, hne⟩
    · exact hmax
    · exact absurd hmax_thread hne
  have hthreshold' : self.load_threshold ≤ current_load := by
    rw [← hmax]
    exact hthreshold
  have hle_max : ∀ row ∈ threads_table.rows, ∀ thread_load, self.read_load row.2 = .ok thread_load →
      thread_load ≤ current_load := by
    intro row hrow thread_load hread
    rw [← hmax]
    exact hspec.le_max row hrow thread_load hread
  refine ⟨current_load, this_thread_row_index, this_thread_bitmask, load, proposed_mask, hcur, hload,
    hthreshold', hle_max, hlen, ?_, hrow, hlater, hproposed, hnew, hinsert, rfl⟩
  rcases Nat.lt_or_ge threads_table.len max_table_size with hlt | hge
  · exact .inl hlt
  · have hdisproportion : MAX_LOAD_DISPROPORTION *
        (self.check_scan thread_identifier current_load threads_table.rows).min_load < current_load := by
      have hbelow := Nat.lt_of_not_le fun hle => hbalanced ⟨hge, hle⟩
      rwa [hmax] at hbelow
    rcases hspec.min_of with hmin | ⟨row, hrow, hread⟩
    · rw [hmin, MAX_LOAD_DISPROPORTION] at hdisproportion
      omega
    · exact .inr ⟨row, hrow, _, hread, hdisproportion⟩

/-- A block that spawned a thread resets its thread's window. -/
theorem handle_block_finalized_of_spawns_thread {block : FinalizedBlock} {load : AggregatedLoad}
    (hspawns : block.spawns_thread = true)
    (hload : self.thread_load_map block.thread_id = some load) :
    self.handle_block_finalized block = some (self.reset_load block.thread_id load) := by
  unfold handle_block_finalized
  simp only [hspawns, hload]

/-- A block that spawned no thread is appended to its thread's window. -/
theorem handle_block_finalized_of_not_spawns_thread {block : FinalizedBlock}
    {load : AggregatedLoad} (hspawns : block.spawns_thread = false)
    (hload : self.thread_load_map block.thread_id = some load) :
    self.handle_block_finalized block =
      (load.append_from block.queue_length block.accounts_load).map fun load' =>
        { self with
          thread_load_map := Function.update self.thread_load_map block.thread_id (some load') } := by
  unfold handle_block_finalized
  simp only [hspawns, hload]

/-- A block of a thread with no window panics. -/
theorem handle_block_finalized_eq_none {block : FinalizedBlock}
    (hmap : self.thread_load_map block.thread_id = none) :
    self.handle_block_finalized block = none := by
  unfold handle_block_finalized
  simp [hmap]

/-- Inversion of `handle_block_finalized`: the block's thread has a window, which is reset or
    takes the block. -/
theorem handle_block_finalized_cases {block : FinalizedBlock}
    (h : self.handle_block_finalized block = some self') :
    ∃ load, self.thread_load_map block.thread_id = some load ∧
      (self' = self.reset_load block.thread_id load ∨
        ∃ load', load.append_from block.queue_length block.accounts_load = some load' ∧
          self' = { self with
            thread_load_map := Function.update self.thread_load_map block.thread_id (some load') }) := by
  cases hload : self.thread_load_map block.thread_id with
  | none =>
    rw [handle_block_finalized_eq_none hload] at h
    cases h
  | some load =>
    refine ⟨load, rfl, ?_⟩
    cases hspawns : block.spawns_thread with
    | true =>
      rw [handle_block_finalized_of_spawns_thread hspawns hload] at h
      exact .inl (Option.some.inj h).symm
    | false =>
      rw [handle_block_finalized_of_not_spawns_thread hspawns hload] at h
      obtain ⟨load', happend, rfl⟩ := Option.map_eq_some_iff.mp h
      exact .inr ⟨load', happend, rfl⟩

/-- A block in whose threads table some thread was spawned by it resets its thread's window. -/
theorem handle_block_finalized_spawned {block : FinalizedBlock} {threads_table : ThreadsTable}
    {load : AggregatedLoad} (htable : block.threads_table = some threads_table)
    (hspawned : ∃ row ∈ threads_table.rows, row.2.is_spawning_block block.identifier = true)
    (hload : self.thread_load_map block.thread_id = some load) :
    self.handle_block_finalized block = some (self.reset_load block.thread_id load) := by
  have hspawns : block.spawns_thread = true := by
    obtain ⟨row, hrow, hspawning⟩ := hspawned
    rw [FinalizedBlock.spawns_thread, htable, List.any_eq_true]
    exact ⟨row.2, List.mem_dedup.mpr (List.mem_map_of_mem hrow), hspawning⟩
  exact handle_block_finalized_of_spawns_thread hspawns hload

/-- A block of a thread with a consistent window is taken without a panic. -/
theorem handle_block_finalized_isSome {block : FinalizedBlock} {load : AggregatedLoad}
    {history : List (Nat × InThreadAccountsLoad)}
    (hload : self.thread_load_map block.thread_id = some load)
    (hconsistent : AggregatedLoad.Consistent load history) :
    (self.handle_block_finalized block).isSome := by
  obtain ⟨load', happend, -, -⟩ := hconsistent.append_from block.queue_length block.accounts_load
  cases hspawns : block.spawns_thread with
  | true =>
    rw [handle_block_finalized_of_spawns_thread hspawns hload]
    rfl
  | false =>
    rw [handle_block_finalized_of_not_spawns_thread hspawns hload, happend]
    rfl

/-- `handle_start_thread` gives the new thread an empty window, after resetting the window of at
    most one other thread. -/
theorem handle_start_thread_eq (self : LoadBalancingService) (thread_identifier : ThreadIdentifier)
    (threads_table : Option ThreadsTable) :
    ∃ base : LoadBalancingService,
      (base = self ∨ ∃ parent_thread load, self.thread_load_map parent_thread = some load ∧
        base = self.reset_load parent_thread load) ∧
      self.handle_start_thread thread_identifier threads_table =
        { base with
          thread_load_map :=
            Function.update base.thread_load_map thread_identifier
              (some (AggregatedLoad.new self.window_size)) } := by
  unfold handle_start_thread
  repeat' split
  all_goals first
    | exact ⟨_, .inr ⟨_, _, ‹_›, rfl⟩, rfl⟩
    | exact ⟨_, .inl rfl, rfl⟩

/-- No call changes the window size or the threshold. -/
theorem step_config {event : ServiceEvent}
    {output : Option (Except CheckError ThreadAction)}
    (h : self.step event = some (output, self')) :
    self'.window_size = self.window_size ∧ self'.load_threshold = self.load_threshold := by
  cases event with
  | check block_identifier thread_identifier threads_table max_table_size =>
    obtain ⟨⟨result, self''⟩, hcheck, hpair⟩ := Option.map_eq_some_iff.mp h
    simp only [Prod.mk.injEq] at hpair
    obtain ⟨-, rfl⟩ := hpair
    rcases check_state hcheck with rfl | ⟨load, -, rfl⟩ <;> exact ⟨rfl, rfl⟩
  | block_finalized block =>
    obtain ⟨self'', hfinalized, hpair⟩ := Option.map_eq_some_iff.mp h
    simp only [Prod.mk.injEq] at hpair
    obtain ⟨-, rfl⟩ := hpair
    obtain ⟨load, -, rfl | ⟨load', -, rfl⟩⟩ := handle_block_finalized_cases hfinalized <;>
      exact ⟨rfl, rfl⟩
  | start_thread thread_identifier threads_table =>
    simp only [step, Option.some.injEq, Prod.mk.injEq] at h
    obtain ⟨-, rfl⟩ := h
    obtain ⟨base, rfl | ⟨parent_thread, load, -, rfl⟩, heq⟩ :=
      handle_start_thread_eq self thread_identifier threads_table <;>
      rw [heq] <;> exact ⟨rfl, rfl⟩
  | stop_thread thread_identifier =>
    simp only [step, Option.some.injEq, Prod.mk.injEq] at h
    obtain ⟨-, rfl⟩ := h
    exact ⟨rfl, rfl⟩

end LoadBalancingService

/-- What `append_from` reads of a block, if the event is the finalization of a block of the
    thread. -/
def ServiceEvent.finalized_block (thread_identifier : ThreadIdentifier) :
    ServiceEvent → Option (Nat × InThreadAccountsLoad)
  | .block_finalized block =>
    if block.thread_id = thread_identifier then some (block.queue_length, block.accounts_load)
    else none
  | _ => none

/-- The blocks of a thread finalized over a run, oldest first. -/
def finalized_blocks (thread_identifier : ThreadIdentifier) (events : List ServiceEvent) :
    List (Nat × InThreadAccountsLoad) :=
  events.filterMap (ServiceEvent.finalized_block thread_identifier)

/-- The last `window_size` blocks of a thread finalized over a run, newest first. -/
def last_finalized_blocks (window_size : Nat) (thread_identifier : ThreadIdentifier)
    (events : List ServiceEvent) : List (Nat × InThreadAccountsLoad) :=
  (finalized_blocks thread_identifier events).reverse.take window_size

/-- Whether a thread was started, and not stopped since, over a run. -/
def ServiceEvent.running (thread_identifier : ThreadIdentifier) (running : Bool) :
    ServiceEvent → Bool
  | .start_thread thread _ => if thread = thread_identifier then true else running
  | .stop_thread thread => if thread = thread_identifier then false else running
  | _ => running

def running (thread_identifier : ThreadIdentifier) (events : List ServiceEvent) : Bool :=
  events.foldl (ServiceEvent.running thread_identifier) false

theorem finalized_blocks_append_singleton (thread_identifier : ThreadIdentifier)
    (events : List ServiceEvent) (event : ServiceEvent) :
    finalized_blocks thread_identifier (events ++ [event]) =
      finalized_blocks thread_identifier events ++ (event.finalized_block thread_identifier).toList := by
  simp only [finalized_blocks, List.filterMap_append, List.filterMap_cons, List.filterMap_nil]
  cases event.finalized_block thread_identifier <;> rfl

theorem running_append_singleton (thread_identifier : ThreadIdentifier)
    (events : List ServiceEvent) (event : ServiceEvent) :
    running thread_identifier (events ++ [event]) =
      event.running thread_identifier (running thread_identifier events) := by
  simp only [running, List.foldl_append, List.foldl_cons, List.foldl_nil]

namespace LoadBalancingService

variable {self self' : LoadBalancingService} {thread_identifier : ThreadIdentifier}
  {events : List ServiceEvent}

/-- A thread has a window exactly while it runs. -/
def HasWindow (thread_identifier : ThreadIdentifier) (events : List ServiceEvent)
    (self : LoadBalancingService) : Prop :=
  (self.thread_load_map thread_identifier).isSome = running thread_identifier events

/-- A thread's window, if it has one, is of the service's size and holds the newest of the
    thread's finalized blocks: those since its last reset. -/
def WindowHolds (thread_identifier : ThreadIdentifier) (events : List ServiceEvent)
    (self : LoadBalancingService) : Prop :=
  0 < self.window_size ∧
    ∀ load, self.thread_load_map thread_identifier = some load →
      load.window_size = self.window_size ∧
        ∃ j, AggregatedLoad.Consistent load
          (((finalized_blocks thread_identifier events).reverse).take j)

/-- Every window has as many slots as the service's window size. -/
def WindowsSized (self : LoadBalancingService) : Prop :=
  ∀ thread_identifier load, self.thread_load_map thread_identifier = some load →
    load.window.length = self.window_size

theorem has_window_start (window_size load_threshold : Nat) :
    HasWindow thread_identifier [] (start window_size load_threshold) := rfl

theorem window_holds_start {window_size : Nat} (hsize : 0 < window_size) (load_threshold : Nat) :
    WindowHolds thread_identifier [] (start window_size load_threshold) :=
  ⟨hsize, fun _ hload => by cases hload⟩

/-- A window the call does not touch, on a call that finalizes no block of its thread, keeps
    what it holds. -/
theorem WindowHolds.keep {event : ServiceEvent} (hholds : WindowHolds thread_identifier events self)
    (hsize : self'.window_size = self.window_size)
    (hmap : self'.thread_load_map thread_identifier = self.thread_load_map thread_identifier)
    (hblock : event.finalized_block thread_identifier = none) :
    WindowHolds thread_identifier (events ++ [event]) self' := by
  obtain ⟨hpos, hwindow⟩ := hholds
  refine ⟨hsize ▸ hpos, fun load hload => ?_⟩
  rw [hmap] at hload
  rw [finalized_blocks_append_singleton, hblock, Option.toList_none, List.append_nil, hsize]
  exact hwindow load hload

/-- A reset window holds nothing yet, whatever the call. -/
theorem WindowHolds.reset {event : ServiceEvent} {load : AggregatedLoad}
    (hholds : WindowHolds thread_identifier events self)
    (hsize : self'.window_size = self.window_size)
    (hload : self.thread_load_map thread_identifier = some load)
    (hmap : self'.thread_load_map thread_identifier = some load.reset) :
    WindowHolds thread_identifier (events ++ [event]) self' := by
  obtain ⟨hpos, hwindow⟩ := hholds
  obtain ⟨hload_size, j, hconsistent⟩ := hwindow load hload
  refine ⟨hsize ▸ hpos, fun load' hload' => ?_⟩
  rw [hmap, Option.some.injEq] at hload'
  subst hload'
  exact ⟨hload_size.trans hsize.symm, 0, by simpa using hconsistent.reset⟩

/-- Step lemma: every call keeps what each window holds. -/
theorem WindowHolds.step {event : ServiceEvent} {output : Option (Except CheckError ThreadAction)}
    (hholds : WindowHolds thread_identifier events self)
    (h : self.step event = some (output, self')) :
    WindowHolds thread_identifier (events ++ [event]) self' := by
  have hsize := (step_config h).1
  cases event with
  | check block_identifier thread thread_table max_table_size =>
    obtain ⟨⟨result, self''⟩, hcheck, hpair⟩ := Option.map_eq_some_iff.mp h
    simp only [Prod.mk.injEq] at hpair
    obtain ⟨-, rfl⟩ := hpair
    rcases check_state hcheck with rfl | ⟨load, hload, rfl⟩
    · exact hholds.keep rfl rfl rfl
    · by_cases hthread : thread_identifier = thread
      · subst hthread
        exact hholds.reset rfl hload (by rw [reset_load_thread_load_map, if_pos rfl])
      · exact hholds.keep rfl (by rw [reset_load_thread_load_map, if_neg hthread]) rfl
  | block_finalized block =>
    obtain ⟨self'', hfinalized, hpair⟩ := Option.map_eq_some_iff.mp h
    simp only [Prod.mk.injEq] at hpair
    obtain ⟨-, rfl⟩ := hpair
    obtain ⟨load, hload, hcases⟩ := handle_block_finalized_cases hfinalized
    by_cases hthread : block.thread_id = thread_identifier
    · subst hthread
      rcases hcases with rfl | ⟨load', happend, rfl⟩
      · exact hholds.reset rfl hload (by rw [reset_load_thread_load_map, if_pos rfl])
      · obtain ⟨hpos, hwindow⟩ := hholds
        obtain ⟨hload_size, j, hconsistent⟩ := hwindow load hload
        obtain ⟨next, hnext, hnext_size, hnext_consistent⟩ :=
          hconsistent.append_from block.queue_length block.accounts_load
        rw [happend, Option.some.injEq] at hnext
        subst hnext
        refine ⟨hpos, fun load'' hload'' => ?_⟩
        simp only [Function.update_self, Option.some.injEq] at hload''
        subst hload''
        refine ⟨hnext_size.trans hload_size, j + 1, ?_⟩
        rw [finalized_blocks_append_singleton]
        simpa [ServiceEvent.finalized_block] using hnext_consistent
    · have hblock : (ServiceEvent.block_finalized block).finalized_block thread_identifier = none := by
        simp [ServiceEvent.finalized_block, hthread]
      have hne : thread_identifier ≠ block.thread_id := Ne.symm hthread
      rcases hcases with rfl | ⟨load', -, rfl⟩
      · exact hholds.keep rfl (by rw [reset_load_thread_load_map, if_neg hne]) hblock
      · exact hholds.keep rfl (Function.update_of_ne hne _ _) hblock
  | start_thread thread threads_table =>
    simp only [LoadBalancingService.step, Option.some.injEq, Prod.mk.injEq] at h
    obtain ⟨-, rfl⟩ := h
    obtain ⟨base, hbase, heq⟩ := handle_start_thread_eq self thread threads_table
    rw [heq]
    have hbase_size : base.window_size = self.window_size := by
      rcases hbase with rfl | ⟨_, _, -, rfl⟩ <;> rfl
    by_cases hthread : thread_identifier = thread
    · subst hthread
      refine ⟨hbase_size ▸ hholds.1, fun load hload => ?_⟩
      simp only [Function.update_self, Option.some.injEq] at hload
      subst hload
      exact ⟨hbase_size.symm, 0, by simpa using AggregatedLoad.consistent_new hholds.1⟩
    · rcases hbase with rfl | ⟨parent_thread, load, hload, rfl⟩
      · exact hholds.keep rfl (Function.update_of_ne hthread _ _) rfl
      · by_cases hparent : thread_identifier = parent_thread
        · subst hparent
          exact hholds.reset rfl hload (by
            dsimp only
            rw [Function.update_of_ne hthread, reset_load_thread_load_map, if_pos rfl])
        · exact hholds.keep rfl (by
            dsimp only
            rw [Function.update_of_ne hthread, reset_load_thread_load_map, if_neg hparent]) rfl
  | stop_thread thread =>
    simp only [LoadBalancingService.step, Option.some.injEq, Prod.mk.injEq] at h
    obtain ⟨-, rfl⟩ := h
    by_cases hthread : thread_identifier = thread
    · subst hthread
      refine ⟨hholds.1, fun load hload => ?_⟩
      simp [handle_stop_thread] at hload
    · exact hholds.keep rfl (Function.update_of_ne hthread _ _) rfl

theorem reset_load_isSome {parent_thread : ThreadIdentifier} {load : AggregatedLoad}
    (hload : self.thread_load_map parent_thread = some load) (thread : ThreadIdentifier) :
    ((self.reset_load parent_thread load).thread_load_map thread).isSome =
      (self.thread_load_map thread).isSome := by
  rw [reset_load_thread_load_map]
  split_ifs with hthread
  · rw [hthread, hload]
    rfl
  · rfl

/-- Step lemma: a thread has a window after a call exactly if it runs. -/
theorem HasWindow.step {event : ServiceEvent} {output : Option (Except CheckError ThreadAction)}
    (hhas : HasWindow thread_identifier events self)
    (h : self.step event = some (output, self')) :
    HasWindow thread_identifier (events ++ [event]) self' := by
  unfold HasWindow at hhas ⊢
  rw [running_append_singleton]
  cases event with
  | check block_identifier thread thread_table max_table_size =>
    obtain ⟨⟨result, self''⟩, hcheck, hpair⟩ := Option.map_eq_some_iff.mp h
    simp only [Prod.mk.injEq] at hpair
    obtain ⟨-, rfl⟩ := hpair
    rcases check_state hcheck with rfl | ⟨load, hload, rfl⟩
    · exact hhas
    · rw [reset_load_isSome hload]
      exact hhas
  | block_finalized block =>
    obtain ⟨self'', hfinalized, hpair⟩ := Option.map_eq_some_iff.mp h
    simp only [Prod.mk.injEq] at hpair
    obtain ⟨-, rfl⟩ := hpair
    obtain ⟨load, hload, rfl | ⟨load', -, rfl⟩⟩ := handle_block_finalized_cases hfinalized
    · rw [reset_load_isSome hload]
      exact hhas
    · dsimp only
      rw [Function.update_apply]
      split_ifs with hthread
      · rw [← hhas, hthread, hload]
        rfl
      · exact hhas
  | start_thread thread threads_table =>
    simp only [LoadBalancingService.step, Option.some.injEq, Prod.mk.injEq] at h
    obtain ⟨-, rfl⟩ := h
    obtain ⟨base, hbase, heq⟩ := handle_start_thread_eq self thread threads_table
    rw [heq]
    dsimp only [ServiceEvent.running]
    rw [Function.update_apply]
    split_ifs with hthread hrunning hrunning'
    · rfl
    · exact absurd hthread.symm hrunning
    · exact absurd hrunning'.symm hthread
    · rcases hbase with rfl | ⟨parent_thread, load, hload, rfl⟩
      · exact hhas
      · rw [reset_load_isSome hload]
        exact hhas
  | stop_thread thread =>
    simp only [LoadBalancingService.step, Option.some.injEq, Prod.mk.injEq] at h
    obtain ⟨-, rfl⟩ := h
    dsimp only [handle_stop_thread, ServiceEvent.running]
    rw [Function.update_apply]
    split_ifs with hthread hrunning hrunning'
    · rfl
    · exact absurd hthread.symm hrunning
    · exact absurd hrunning'.symm hthread
    · exact hhas

theorem WindowsSized.update (hsized : WindowsSized self) {thread_identifier : ThreadIdentifier}
    {window : Option AggregatedLoad}
    (hwindow : ∀ load ∈ window, load.window.length = self.window_size) :
    WindowsSized
      { self with thread_load_map := Function.update self.thread_load_map thread_identifier window } := by
  intro thread load hload
  change Function.update self.thread_load_map thread_identifier window thread = some load at hload
  rw [Function.update_apply] at hload
  split_ifs at hload
  · exact hwindow load hload
  · exact hsized thread load hload

theorem WindowsSized.reset_load (hsized : WindowsSized self) {load : AggregatedLoad}
    (hload : self.thread_load_map thread_identifier = some load) :
    WindowsSized (self.reset_load thread_identifier load) :=
  hsized.update fun _ hreset => Option.some.inj hreset ▸ hsized thread_identifier load hload

/-- Step lemma: no call changes how many slots a window has. -/
theorem WindowsSized.step {event : ServiceEvent} {output : Option (Except CheckError ThreadAction)}
    (hsized : WindowsSized self) (h : self.step event = some (output, self')) :
    WindowsSized self' := by
  cases event with
  | check block_identifier thread threads_table max_table_size =>
    obtain ⟨⟨result, self''⟩, hcheck, hpair⟩ := Option.map_eq_some_iff.mp h
    simp only [Prod.mk.injEq] at hpair
    obtain ⟨-, rfl⟩ := hpair
    rcases check_state hcheck with rfl | ⟨load, hload, rfl⟩
    · exact hsized
    · exact hsized.reset_load hload
  | block_finalized block =>
    obtain ⟨self'', hfinalized, hpair⟩ := Option.map_eq_some_iff.mp h
    simp only [Prod.mk.injEq] at hpair
    obtain ⟨-, rfl⟩ := hpair
    obtain ⟨load, hload, rfl | ⟨load', happend, rfl⟩⟩ := handle_block_finalized_cases hfinalized
    · exact hsized.reset_load hload
    · refine hsized.update fun _ hnext => ?_
      rw [← Option.some.inj hnext, AggregatedLoad.append_from_window_length happend]
      exact hsized block.thread_id load hload
  | start_thread thread threads_table =>
    simp only [LoadBalancingService.step, Option.some.injEq, Prod.mk.injEq] at h
    obtain ⟨-, rfl⟩ := h
    obtain ⟨base, hbase, heq⟩ := handle_start_thread_eq self thread threads_table
    rw [heq]
    have hbase_sized : WindowsSized base := by
      rcases hbase with rfl | ⟨parent_thread, load, hload, rfl⟩
      · exact hsized
      · exact hsized.reset_load hload
    have hbase_size : base.window_size = self.window_size := by
      rcases hbase with rfl | ⟨_, _, -, rfl⟩ <;> rfl
    refine hbase_sized.update fun _ hnew => ?_
    rw [← Option.some.inj hnew, hbase_size]
    exact List.length_replicate
  | stop_thread thread =>
    simp only [LoadBalancingService.step, Option.some.injEq, Prod.mk.injEq] at h
    obtain ⟨-, rfl⟩ := h
    exact hsized.update fun _ hnone => by cases hnone

/-- Run lemma: over any run, the service keeps its window size and threshold. -/
theorem run_config {events : List ServiceEvent}
    {trace : List (ServiceEvent × Option (Except CheckError ThreadAction))}
    (h : Run.run LoadBalancingService.step self events = some (trace, self')) :
    self'.window_size = self.window_size ∧ self'.load_threshold = self.load_threshold :=
  Run.run_invariant (fun service => service.window_size = self.window_size ∧
      service.load_threshold = self.load_threshold)
    (fun _ _ _ _ _ hstep hconfig =>
      ⟨(step_config hstep).1.trans hconfig.1, (step_config hstep).2.trans hconfig.2⟩)
    h ⟨rfl, rfl⟩

/-- Run lemma: over any run from `start`, a thread has a window exactly while it runs. -/
theorem run_start_has_window {window_size load_threshold : Nat} {events : List ServiceEvent}
    {trace : List (ServiceEvent × Option (Except CheckError ThreadAction))}
    (h : Run.run LoadBalancingService.step (start window_size load_threshold) events =
      some (trace, self'))
    (thread_identifier : ThreadIdentifier) :
    HasWindow thread_identifier events self' := by
  have hhas := Run.run_invariant_prefix (HasWindow thread_identifier)
    (fun _ _ _ _ _ _ hstep hhas => hhas.step hstep) h (has_window_start window_size load_threshold)
  rwa [List.nil_append] at hhas

/-- Run lemma: over any run from `start`, a thread has a window exactly while it runs, and its
    window holds the newest of its finalized blocks. -/
theorem run_start_windows {window_size load_threshold : Nat} (hsize : 0 < window_size)
    {events : List ServiceEvent}
    {trace : List (ServiceEvent × Option (Except CheckError ThreadAction))}
    (h : Run.run LoadBalancingService.step (start window_size load_threshold) events =
      some (trace, self'))
    (thread_identifier : ThreadIdentifier) :
    HasWindow thread_identifier events self' ∧ WindowHolds thread_identifier events self' := by
  have hholds := Run.run_invariant_prefix (WindowHolds thread_identifier)
    (fun _ _ _ _ _ _ hstep hholds => hholds.step hstep) h (window_holds_start hsize load_threshold)
  rw [List.nil_append] at hholds
  exact ⟨run_start_has_window h thread_identifier, hholds⟩

/-- Run lemma: over any run from `start`, every window has `window_size` slots. -/
theorem run_start_windows_sized {window_size load_threshold : Nat} {events : List ServiceEvent}
    {trace : List (ServiceEvent × Option (Except CheckError ThreadAction))}
    (h : Run.run LoadBalancingService.step (start window_size load_threshold) events =
      some (trace, self')) :
    WindowsSized self' :=
  Run.run_invariant WindowsSized (fun _ _ _ _ _ hstep hsized => hsized.step hstep) h
    fun _ _ hload => by cases hload

/-- A window holding the newest of a thread's blocks, once ready, reports the newest
    `window_size` of them: their queue lengths summed, and their accounts load. -/
theorem WindowHolds.ready {load : AggregatedLoad}
    (hholds : WindowHolds thread_identifier events self)
    (hload : self.thread_load_map thread_identifier = some load) (hready : load.is_ready = true) :
    self.window_size ≤ (finalized_blocks thread_identifier events).length ∧
    load.load_value =
      ((last_finalized_blocks self.window_size thread_identifier events).map Prod.fst).sum ∧
    load.aggregated_value.2 =
      ((last_finalized_blocks self.window_size thread_identifier events).map Prod.snd).sum := by
  obtain ⟨hload_size, j, hconsistent⟩ := hholds.2 load hload
  have hfilled := hconsistent.filled_iff.mp hready
  rw [hload_size] at hfilled
  have htake : (((finalized_blocks thread_identifier events).reverse.take j).take self.window_size) =
      last_finalized_blocks self.window_size thread_identifier events := by
    rw [last_finalized_blocks, List.take_take, Nat.min_eq_left (hfilled.trans (List.length_take_le _ _))]
  refine ⟨?_, ?_, ?_⟩
  · calc self.window_size ≤ ((finalized_blocks thread_identifier events).reverse.take j).length :=
          hfilled
      _ ≤ (finalized_blocks thread_identifier events).reverse.length := List.length_take_le' _ _
      _ = (finalized_blocks thread_identifier events).length := List.length_reverse
  · rw [hconsistent.load_value_eq hready, hload_size, htake]
  · rw [hconsistent.accounts_value_eq hready, hload_size, htake]

/-- A call panics exactly on a finalized block of a thread with no window or, with a zero window
    size, of a block that spawned no thread, or on a check with an empty table size, when every
    window has its slots and, with a positive window size, holds the newest blocks of its thread. -/
theorem step_eq_none_iff {event : ServiceEvent} (hsized : WindowsSized self)
    (hholds : 0 < self.window_size → ∀ thread_identifier, WindowHolds thread_identifier events self) :
    self.step event = none ↔
      (∃ block, event = .block_finalized block ∧
        (self.thread_load_map block.thread_id = none ∨
          self.window_size = 0 ∧ block.spawns_thread = false)) ∨
      ∃ block_identifier thread_identifier threads_table,
        event = .check block_identifier thread_identifier threads_table 0 := by
  constructor
  · intro h
    cases event with
    | check block_identifier thread threads_table max_table_size =>
      refine .inr ⟨block_identifier, thread, threads_table, ?_⟩
      rcases Nat.eq_zero_or_pos max_table_size with rfl | hsize
      · rfl
      · have hsome : (self.check block_identifier thread threads_table max_table_size).isSome :=
          check_isSome hsize
        simp only [LoadBalancingService.step, Option.map_eq_none_iff] at h
        rw [h] at hsome
        cases hsome
    | block_finalized block =>
      refine .inl ⟨block, rfl, ?_⟩
      have hfinalized : self.handle_block_finalized block = none := by
        simpa only [LoadBalancingService.step, Option.map_eq_none_iff] using h
      cases hload : self.thread_load_map block.thread_id with
      | none => exact .inl rfl
      | some load =>
        cases hspawns : block.spawns_thread with
        | true =>
          rw [handle_block_finalized_of_spawns_thread hspawns hload] at hfinalized
          cases hfinalized
        | false =>
          rcases Nat.eq_zero_or_pos self.window_size with hzero | hpos
          · exact .inr ⟨hzero, rfl⟩
          · obtain ⟨-, j, hconsistent⟩ := (hholds hpos block.thread_id).2 load hload
            have hsome := handle_block_finalized_isSome hload hconsistent
            rw [hfinalized] at hsome
            cases hsome
    | start_thread thread threads_table => cases h
    | stop_thread thread => cases h
  · rintro (⟨block, rfl, hmap | ⟨hzero, hspawns⟩⟩ | ⟨block_identifier, thread, threads_table, rfl⟩)
    · simp [LoadBalancingService.step, handle_block_finalized_eq_none hmap]
    · cases hload : self.thread_load_map block.thread_id with
      | none => simp [LoadBalancingService.step, handle_block_finalized_eq_none hload]
      | some load =>
        have hwindow : load.window = [] :=
          List.eq_nil_of_length_eq_zero ((hsized block.thread_id load hload).trans hzero)
        simp [LoadBalancingService.step, handle_block_finalized_of_not_spawns_thread hspawns hload,
          AggregatedLoad.append_from_of_window_eq_nil hwindow]
    · simp [LoadBalancingService.step, check]

/-- After any run from `start`, a call panics exactly on a finalized block of a thread that does
    not run or, with a zero window size, of a block that spawned no thread, or on a check with an
    empty table size. -/
theorem run_start_step_eq_none_iff {window_size load_threshold : Nat} {pre : List ServiceEvent}
    {trace : List (ServiceEvent × Option (Except CheckError ThreadAction))}
    (hpre : Run.run LoadBalancingService.step (start window_size load_threshold) pre =
      some (trace, self'))
    (event : ServiceEvent) :
    self'.step event = none ↔
      (∃ block, event = .block_finalized block ∧
        (running block.thread_id pre = false ∨ window_size = 0 ∧ block.spawns_thread = false)) ∨
      ∃ block_identifier thread_identifier threads_table,
        event = .check block_identifier thread_identifier threads_table 0 := by
  have hsize : self'.window_size = window_size := (run_config hpre).1
  have hholds : 0 < self'.window_size → ∀ thread_identifier, WindowHolds thread_identifier pre self' :=
    fun hpos thread_identifier => (run_start_windows (hsize ▸ hpos) hpre thread_identifier).2
  have hrunning : ∀ thread_identifier,
      self'.thread_load_map thread_identifier = none ↔ running thread_identifier pre = false := by
    intro thread_identifier
    rw [← run_start_has_window hpre thread_identifier, Option.isSome_eq_false_iff,
      Option.isNone_iff_eq_none]
  rw [step_eq_none_iff (run_start_windows_sized hpre) hholds, hsize]
  simp only [hrunning]

end LoadBalancingService

open LoadBalancingService in
/-- Over any run of the service from `start`, the load it reports for a thread is the internal
    queue length summed over the thread's last `window_size` finalized blocks, and it reports
    one only after that many. -/
theorem reported_load_is_window_sum {window_size load_threshold : Nat} (hsize : 0 < window_size)
    {events : List ServiceEvent}
    {trace : List (ServiceEvent × Option (Except CheckError ThreadAction))}
    {self' : LoadBalancingService}
    (h : Run.run LoadBalancingService.step (start window_size load_threshold) events =
      some (trace, self'))
    {thread_identifier : ThreadIdentifier} {load : Nat}
    (hread : self'.read_load thread_identifier = .ok load) :
    window_size ≤ (finalized_blocks thread_identifier events).length ∧
    load = ((last_finalized_blocks window_size thread_identifier events).map Prod.fst).sum := by
  obtain ⟨-, hholds⟩ := run_start_windows hsize h thread_identifier
  obtain ⟨hsize', -⟩ := run_config h
  obtain ⟨window, hwindow, hready, rfl⟩ := read_load_eq_ok.mp hread
  obtain ⟨hfinalized, hvalue, -⟩ := hholds.ready hwindow hready
  rw [hsize'] at hfinalized hvalue
  exact ⟨hfinalized, hvalue⟩

/-- The identifier of the blocks of the runs below. -/
def sample_block_id : BlockIdentifier := ⟨Vector.replicate 32 7⟩

/-- The default thread started, and two of its blocks finalized, of queue lengths `5` and `3`. -/
def sample_service_events : List ServiceEvent :=
  [.start_thread default none, .block_finalized ⟨sample_block_id, default, none, 5, even_load⟩,
    .block_finalized ⟨sample_block_id, default, none, 3, even_load⟩]

open LoadBalancingService in
theorem reported_load_of_sample_run :
    0 < 2 ∧ ∃ trace self',
      Run.run LoadBalancingService.step (start 2 0) sample_service_events = some (trace, self') ∧
      self'.read_load default = .ok 8 ∧
      2 ≤ (finalized_blocks default sample_service_events).length ∧
      8 = ((last_finalized_blocks 2 default sample_service_events).map Prod.fst).sum := by
  have hread : (Run.run LoadBalancingService.step (start 2 0) sample_service_events).map
      (fun p => p.2.read_load default) = some (.ok 8) := by
    decide +kernel
  obtain ⟨⟨trace, self'⟩, h, hread⟩ := Option.map_eq_some_iff.mp hread
  exact ⟨by decide, trace, self', h, hread, reported_load_is_window_sum (by decide) h hread⟩

open LoadBalancingService in
/-- A run of the service from `start` panics exactly when it finalizes a block of a thread that
    was never started or was stopped since, or, with a zero window size, a block of a running
    thread that spawned no thread, or checks against an empty table size. -/
theorem service_panics_only_on_unknown_thread {window_size load_threshold : Nat}
    {events : List ServiceEvent} :
    Run.run LoadBalancingService.step (start window_size load_threshold) events = none ↔
      ∃ pre event post trace self₁, events = pre ++ event :: post ∧
        Run.run LoadBalancingService.step (start window_size load_threshold) pre =
          some (trace, self₁) ∧
        ((∃ block, event = .block_finalized block ∧
            (running block.thread_id pre = false ∨ window_size = 0 ∧ block.spawns_thread = false)) ∨
          ∃ block_identifier thread_identifier threads_table,
            event = .check block_identifier thread_identifier threads_table 0) := by
  constructor
  · intro h
    obtain ⟨pre, event, post, self₁, trace, rfl, hpre, hstep⟩ := Run.run_eq_none h
    exact ⟨pre, event, post, trace, self₁, rfl, hpre, (run_start_step_eq_none_iff hpre event).mp hstep⟩
  · rintro ⟨pre, event, post, trace, self₁, rfl, hpre, hpanic⟩
    exact Run.run_eq_none_of_step ((run_start_step_eq_none_iff hpre event).mpr hpanic) hpre

open LoadBalancingService in
/-- With a zero window size, the first block of the started default thread panics. -/
theorem service_panics_on_sample_zero_window :
    Run.run LoadBalancingService.step (start 0 0)
        [.start_thread default none, .block_finalized ⟨sample_block_id, default, none, 5, even_load⟩] =
      none ∧
      ∃ pre event post trace self₁,
        [ServiceEvent.start_thread default none,
            .block_finalized ⟨sample_block_id, default, none, 5, even_load⟩] =
          pre ++ event :: post ∧
        Run.run LoadBalancingService.step (start 0 0) pre = some (trace, self₁) ∧
        ((∃ block, event = .block_finalized block ∧
            (running block.thread_id pre = false ∨ 0 = 0 ∧ block.spawns_thread = false)) ∨
          ∃ block_identifier thread_identifier threads_table,
            event = .check block_identifier thread_identifier threads_table 0) := by
  have hnone : (Run.run LoadBalancingService.step (start 0 0)
      [.start_thread default none,
        .block_finalized ⟨sample_block_id, default, none, 5, even_load⟩]).isNone = true := by
    decide +kernel
  have hnone' := Option.isNone_iff_eq_none.mp hnone
  exact ⟨hnone', service_panics_only_on_unknown_thread.mp hnone'⟩

open LoadBalancingService in
/-- Over any run of the service from `start`, a split is proposed only by a thread whose
    reported load, the queue lengths of its last `window_size` finalized blocks, reaches the
    threshold and is at least every load the table's threads report; at the table's size limit,
    only when some thread reports less than half of it. The mask it proposes is the best split of
    the accounts load of those same blocks, new to the table, and goes in above the thread's last
    row. -/
theorem split_proposed_by_most_loaded_thread {window_size load_threshold : Nat}
    (hsize : 0 < window_size) {events : List ServiceEvent}
    {trace : List (ServiceEvent × Option (Except CheckError ThreadAction))}
    {self' : LoadBalancingService}
    (h : Run.run LoadBalancingService.step (start window_size load_threshold) events =
      some (trace, self'))
    {block_identifier : BlockIdentifier} {thread_identifier : ThreadIdentifier}
    {threads_table proposed_threads_table : ThreadsTable} {max_table_size : Nat}
    (hsplit : (ServiceEvent.check block_identifier thread_identifier threads_table max_table_size,
      some (.ok (.Split proposed_threads_table))) ∈ trace) :
    ∃ pre post trace₁ self₁ this_thread_row_index this_thread_bitmask proposed_mask,
      events = pre ++ .check block_identifier thread_identifier threads_table max_table_size :: post ∧
      Run.run LoadBalancingService.step (start window_size load_threshold) pre = some (trace₁, self₁) ∧
      window_size ≤ (finalized_blocks thread_identifier pre).length ∧
      self₁.read_load thread_identifier =
        .ok ((last_finalized_blocks window_size thread_identifier pre).map Prod.fst).sum ∧
      load_threshold ≤ ((last_finalized_blocks window_size thread_identifier pre).map Prod.fst).sum ∧
      (∀ row ∈ threads_table.rows, ∀ thread_load, self₁.read_load row.2 = .ok thread_load →
        thread_load ≤ ((last_finalized_blocks window_size thread_identifier pre).map Prod.fst).sum) ∧
      threads_table.len ≤ max_table_size ∧
      (threads_table.len < max_table_size ∨ ∃ row ∈ threads_table.rows, ∃ thread_load,
        self₁.read_load row.2 = .ok thread_load ∧ MAX_LOAD_DISPROPORTION * thread_load <
          ((last_finalized_blocks window_size thread_identifier pre).map Prod.fst).sum) ∧
      threads_table.rows[this_thread_row_index]? = some (this_thread_bitmask, thread_identifier) ∧
      (∀ j row, this_thread_row_index < j → threads_table.rows[j]? = some row →
        row.2 ≠ thread_identifier) ∧
      ((last_finalized_blocks window_size thread_identifier pre).map Prod.snd).sum.best_split
        this_thread_bitmask = some proposed_mask ∧
      (∀ row ∈ threads_table.rows, row.1 ≠ proposed_mask) ∧
      threads_table.insert_above this_thread_row_index proposed_mask
        (ThreadIdentifier.new block_identifier 0) = (.ok (), proposed_threads_table) := by
  obtain ⟨pre, post, self₁, self₂, trace₁, hevents, hpre, hstep⟩ := Run.run_mem_trace h hsplit
  have hcheck : self₁.check block_identifier thread_identifier threads_table max_table_size =
      some (.ok (.Split proposed_threads_table), self₂) := by
    obtain ⟨⟨result, self''⟩, hcheck, hpair⟩ := Option.map_eq_some_iff.mp hstep
    simp only [Prod.mk.injEq, Option.some.injEq] at hpair
    obtain ⟨rfl, rfl⟩ := hpair
    exact hcheck
  obtain ⟨current_load, this_thread_row_index, this_thread_bitmask, load, proposed_mask, hcur, hload,
    hthreshold, hle, hlen, hdisproportion, hrow, hlater, hproposed, hnew, hinsert, -⟩ :=
    check_eq_split hcheck
  obtain ⟨-, hholds⟩ := run_start_windows hsize hpre thread_identifier
  obtain ⟨hwindow_size, hload_threshold⟩ := run_config hpre
  obtain ⟨window, hwindow, hready, hvalue⟩ := read_load_eq_ok.mp hcur
  rw [hload, Option.some.injEq] at hwindow
  subst hwindow
  obtain ⟨hfinalized, hload_value, haccounts⟩ := hholds.ready hload hready
  rw [hwindow_size] at hfinalized hload_value haccounts
  rw [hload_value] at hvalue
  subst hvalue
  rw [AggregatedLoad.propose_new_bitmask, haccounts] at hproposed
  rw [hload_threshold] at hthreshold
  exact ⟨pre, post, trace₁, self₁, this_thread_row_index, this_thread_bitmask, proposed_mask, hevents,
    hpre, hfinalized, hcur, hthreshold, hle, hlen, hdisproportion, hrow, hlater,
    hproposed, hnew, hinsert⟩

/-- The default thread started, one block of it finalized, and the block after it checked
    against the new table, with room for four threads. -/
def sample_split_events : List ServiceEvent :=
  [.start_thread default none, .block_finalized ⟨sample_block_id, default, none, 5, even_load⟩,
    .check sample_block_id default BitmasksTable.new 4]

/-- The new table with the default thread split on the first bit of the dapp identifier, the
    new thread spawned by the sample block. -/
def sample_split_table : ThreadsTable :=
  ((BitmasksTable.new : ThreadsTable).insert_above 0 first_dapp_bit_split
    (ThreadIdentifier.new sample_block_id 0)).2

open LoadBalancingService in
theorem split_proposed_by_sample_thread :
    0 < 1 ∧ ∃ trace self' proposed_threads_table,
      Run.run LoadBalancingService.step (start 1 0) sample_split_events = some (trace, self') ∧
      (ServiceEvent.check sample_block_id default BitmasksTable.new 4,
        some (.ok (.Split proposed_threads_table))) ∈ trace ∧
      ∃ pre post trace₁ self₁ this_thread_row_index this_thread_bitmask proposed_mask,
        sample_split_events = pre ++ .check sample_block_id default BitmasksTable.new 4 :: post ∧
        Run.run LoadBalancingService.step (start 1 0) pre = some (trace₁, self₁) ∧
        1 ≤ (finalized_blocks default pre).length ∧
        self₁.read_load default = .ok ((last_finalized_blocks 1 default pre).map Prod.fst).sum ∧
        0 ≤ ((last_finalized_blocks 1 default pre).map Prod.fst).sum ∧
        (∀ row ∈ (BitmasksTable.new : ThreadsTable).rows, ∀ thread_load,
          self₁.read_load row.2 = .ok thread_load →
            thread_load ≤ ((last_finalized_blocks 1 default pre).map Prod.fst).sum) ∧
        (BitmasksTable.new : ThreadsTable).len ≤ 4 ∧
        ((BitmasksTable.new : ThreadsTable).len < 4 ∨
          ∃ row ∈ (BitmasksTable.new : ThreadsTable).rows, ∃ thread_load,
            self₁.read_load row.2 = .ok thread_load ∧ MAX_LOAD_DISPROPORTION * thread_load <
              ((last_finalized_blocks 1 default pre).map Prod.fst).sum) ∧
        (BitmasksTable.new : ThreadsTable).rows[this_thread_row_index]? =
          some (this_thread_bitmask, default) ∧
        (∀ j row, this_thread_row_index < j →
          (BitmasksTable.new : ThreadsTable).rows[j]? = some row → row.2 ≠ default) ∧
        ((last_finalized_blocks 1 default pre).map Prod.snd).sum.best_split this_thread_bitmask =
          some proposed_mask ∧
        (∀ row ∈ (BitmasksTable.new : ThreadsTable).rows, row.1 ≠ proposed_mask) ∧
        (BitmasksTable.new : ThreadsTable).insert_above this_thread_row_index proposed_mask
          (ThreadIdentifier.new sample_block_id 0) = (.ok (), proposed_threads_table) := by
  have houtputs : (Run.run LoadBalancingService.step (start 1 0) sample_split_events).map
      (fun p => p.1.map Prod.snd) = some [none, none, some (.ok (.Split sample_split_table))] := by
    decide +kernel
  obtain ⟨⟨trace, self'⟩, h, houtputs⟩ := Option.map_eq_some_iff.mp houtputs
  have htrace : trace = List.zip sample_split_events
      [none, none, some (.ok (.Split sample_split_table))] := by
    rw [← Run.run_map_fst h, ← houtputs, ← List.unzip_fst, ← List.unzip_snd, List.zip_unzip]
  subst htrace
  exact ⟨by decide, _, self', sample_split_table, h, by simp [sample_split_events],
    split_proposed_by_most_loaded_thread (by decide) h (by simp [sample_split_events])⟩

open LoadBalancingService in
/-- A thread that proposes a split has its window reset when the block it proposed it on is
    finalized with the proposed table, from any state in which it still has a window: the new
    thread in that table was spawned by the block. -/
theorem split_block_finalization_resets_window {self self' : LoadBalancingService}
    {block_identifier : BlockIdentifier} {thread_identifier : ThreadIdentifier}
    {threads_table proposed_threads_table : ThreadsTable} {max_table_size : Nat}
    (hsplit : self.check block_identifier thread_identifier threads_table max_table_size =
      some (.ok (.Split proposed_threads_table), self'))
    {service : LoadBalancingService} {load : AggregatedLoad}
    (hload : service.thread_load_map thread_identifier = some load) {block : FinalizedBlock}
    (hidentifier : block.identifier = block_identifier) (hthread : block.thread_id = thread_identifier)
    (htable : block.threads_table = some proposed_threads_table) :
    service.handle_block_finalized block = some (service.reset_load thread_identifier load) := by
  obtain ⟨-, this_thread_row_index, -, -, proposed_mask, -, -, -, -, -, -, -, -, -, -, hinsert, -⟩ :=
    check_eq_split hsplit
  have hmem : (proposed_mask, ThreadIdentifier.new block_identifier 0) ∈ proposed_threads_table.rows := by
    rcases threads_table.insert_above_cases this_thread_row_index proposed_mask
      (ThreadIdentifier.new block_identifier 0) with ⟨e, herror⟩ | ⟨hlt, hok⟩
    · rw [hinsert] at herror
      cases herror
    · rw [hinsert, Prod.mk.injEq] at hok
      obtain ⟨-, rfl⟩ := hok
      exact (List.mem_insertIdx (Nat.le_of_lt hlt)).mpr (.inl rfl)
  subst hidentifier hthread
  exact handle_block_finalized_spawned htable
    ⟨_, hmem, ThreadIdentifier.new_is_spawning_block _ _⟩ hload

/-- A ready window of one slot, holding one block of queue length `5`. -/
def sample_window : AggregatedLoad := ⟨[(5, even_load)], 0, (5, even_load), true, 1⟩

/-- A service with a window of one slot, at threshold `0`, for the default thread only. -/
def sample_service : LoadBalancingService :=
  ⟨Function.update (fun _ => none) default (some sample_window), 1, 0⟩

open LoadBalancingService in
theorem split_block_finalization_resets_sample_window :
    ∃ proposed_threads_table self',
      sample_service.check sample_block_id default BitmasksTable.new 4 =
        some (.ok (.Split proposed_threads_table), self') ∧
      sample_service.thread_load_map default = some sample_window ∧
      sample_service.handle_block_finalized
          ⟨sample_block_id, default, some proposed_threads_table, 0, default⟩ =
        some (sample_service.reset_load default sample_window) := by
  have hsplit : (sample_service.check sample_block_id default BitmasksTable.new 4).map Prod.fst =
      some (.ok (.Split sample_split_table)) := by
    decide +kernel
  obtain ⟨⟨result, self'⟩, h, hresult⟩ := Option.map_eq_some_iff.mp hsplit
  subst hresult
  have hload : sample_service.thread_load_map default = some sample_window := by
    simp [sample_service]
  exact ⟨sample_split_table, self', h, hload,
    split_block_finalization_resets_window h hload rfl rfl rfl⟩

end ackinacki.multithreading.load_balancing_service
