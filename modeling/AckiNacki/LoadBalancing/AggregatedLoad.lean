import AckiNacki.LoadBalancing.AccountsLoad
import AckiNacki.Lib.Ring

namespace ackinacki.multithreading.load_balancing_service

open ackinacki.types ackinacki.bitmask

/-- `AggregatedLoad`; a `Load` (`usize`) is a `Nat`. -/
structure AggregatedLoad where
  window : List (Nat × InThreadAccountsLoad)
  cursor : Nat
  aggregated_value : Nat × InThreadAccountsLoad
  is_filled : Bool
  window_size : Nat

namespace AggregatedLoad

def new (window_size : Nat) : AggregatedLoad where
  window := List.replicate window_size (0, default)
  cursor := 0
  aggregated_value := (0, default)
  is_filled := false
  window_size := window_size

def is_ready (self : AggregatedLoad) : Bool := self.is_filled

def reset (self : AggregatedLoad) : AggregatedLoad := { self with is_filled := false, cursor := 0 }

def load_value (self : AggregatedLoad) : Nat := self.aggregated_value.1

def propose_new_bitmask (self : AggregatedLoad) (current_bitmask : Bitmask AccountRouting) :
    Option (Bitmask AccountRouting) :=
  self.aggregated_value.2.best_split current_bitmask

/-- `append_from`, given what it reads off the block: the internal message queue length
    (`snapshot_load`) and the accounts load (`InThreadAccountsLoad::new_from`). `none` is a
    panic: the window indexed out of bounds or a counter going below zero. -/
def append_from (self : AggregatedLoad) (queue_length : Nat)
    (accounts_load : InThreadAccountsLoad) : Option AggregatedLoad := do
  let (is_filled, cursor) :=
    if self.cursor + 1 ≥ self.window_size then (true, 0) else (self.is_filled, self.cursor + 1)
  let prev ← self.window[cursor]?
  let load := self.aggregated_value.1 + queue_length
  if prev.1 ≤ load then
    let accounts ← (self.aggregated_value.2.add_in_place accounts_load).sub_in_place prev.2
    pure
      { window := self.window.set cursor (queue_length, accounts_load)
        cursor
        aggregated_value := (load - prev.1, accounts)
        is_filled
        window_size := self.window_size }
  else none

/-- The calls the load balancing service makes on a thread's window. -/
inductive Call
  | append_from (queue_length : Nat) (accounts_load : InThreadAccountsLoad)
  | reset

def apply (self : AggregatedLoad) : Call → Option AggregatedLoad
  | .append_from queue_length accounts_load => self.append_from queue_length accounts_load
  | .reset => some self.reset

/-- A run of calls; `none` if one of them panics. -/
def run (calls : List Call) (self : AggregatedLoad) : Option AggregatedLoad :=
  calls.foldlM apply self

/-- What the calls appended, newest first, forgotten at each reset. -/
def Call.record (history : List (Nat × InThreadAccountsLoad)) :
    Call → List (Nat × InThreadAccountsLoad)
  | .append_from queue_length accounts_load => (queue_length, accounts_load) :: history
  | .reset => []

/-- The blocks appended since the most recent reset, newest first. -/
def appended_since_reset (calls : List Call) : List (Nat × InThreadAccountsLoad) :=
  calls.foldl Call.record []

/-- The window holds the blocks appended since the last reset: `history` newest first, the
    `n`-th at slot `n % window_size`, so the `k`-th newest at slot `(n - k) % window_size`;
    the window is filled once every slot has been written, and the aggregate is the sum of the
    slots. -/
structure Consistent (aggregate : AggregatedLoad) (history : List (Nat × InThreadAccountsLoad)) :
    Prop where
  size_pos : 0 < aggregate.window_size
  window_length : aggregate.window.length = aggregate.window_size
  cursor_eq : aggregate.cursor = history.length % aggregate.window_size
  filled_iff : aggregate.is_filled = true ↔ aggregate.window_size ≤ history.length
  slot_eq : ∀ k < aggregate.window_size, k < history.length →
    aggregate.window[(history.length - k) % aggregate.window_size]? = history[k]?
  load_sum : aggregate.aggregated_value.1 = (aggregate.window.map Prod.fst).sum
  accounts_sum : aggregate.aggregated_value.2 = (aggregate.window.map Prod.snd).sum

/-- What a successful `append_from` returns, from the pieces it computes: the moved cursor and
    filled flag, the slot it overwrites, and the two subtractions that did not go below zero. -/
theorem append_from_eq_some {self : AggregatedLoad} {queue_length : Nat}
    {accounts_load : InThreadAccountsLoad} {is_filled : Bool} {cursor : Nat}
    (hstep : (if self.cursor + 1 ≥ self.window_size then (true, 0)
      else (self.is_filled, self.cursor + 1)) = (is_filled, cursor))
    {prev : Nat × InThreadAccountsLoad} (hprev : self.window[cursor]? = some prev)
    (hload : prev.1 ≤ self.aggregated_value.1 + queue_length) {accounts : InThreadAccountsLoad}
    (haccounts : (self.aggregated_value.2.add_in_place accounts_load).sub_in_place prev.2 =
      some accounts) :
    self.append_from queue_length accounts_load =
      some { window := self.window.set cursor (queue_length, accounts_load)
             cursor
             aggregated_value := (self.aggregated_value.1 + queue_length - prev.1, accounts)
             is_filled
             window_size := self.window_size } := by
  unfold append_from
  rw [hstep]
  simp only [hprev, Option.bind_eq_bind, Option.bind_some, if_pos hload, haccounts]
  rfl

/-- `append_from` overwrites one slot: the window keeps its length. -/
theorem append_from_window_length {self next : AggregatedLoad} {queue_length : Nat}
    {accounts_load : InThreadAccountsLoad}
    (h : self.append_from queue_length accounts_load = some next) :
    next.window.length = self.window.length := by
  unfold append_from at h
  generalize (if self.cursor + 1 ≥ self.window_size then (true, 0)
    else (self.is_filled, self.cursor + 1)) = step at h
  obtain ⟨is_filled, cursor⟩ := step
  simp only [Option.bind_eq_bind, Option.bind_eq_some_iff] at h
  obtain ⟨prev, -, h⟩ := h
  split_ifs at h with hload
  obtain ⟨accounts, -, hnext⟩ := Option.bind_eq_some_iff.mp h
  rw [← Option.some.inj hnext]
  exact List.length_set

/-- An empty window takes no block: the slot `append_from` reads is out of bounds. -/
theorem append_from_of_window_eq_nil {self : AggregatedLoad} (hwindow : self.window = [])
    (queue_length : Nat) (accounts_load : InThreadAccountsLoad) :
    self.append_from queue_length accounts_load = none := by
  unfold append_from
  simp [hwindow]

theorem consistent_new {window_size : Nat} (hsize : 0 < window_size) :
    Consistent (new window_size) [] where
  size_pos := hsize
  window_length := List.length_replicate
  cursor_eq := by simp [new]
  filled_iff := by simp [new]; omega
  slot_eq _ _ hk := absurd hk (Nat.not_lt_zero _)
  load_sum := by simp [new]
  accounts_sum := by
    simp only [new, List.map_replicate, List.sum_replicate]
    exact (nsmul_zero window_size).symm

/-- A reset forgets the history: the cursor is back at slot `0` and nothing counts as written,
    though the slots and the sum are untouched. -/
theorem Consistent.reset {self : AggregatedLoad} {history : List (Nat × InThreadAccountsLoad)}
    (hinv : Consistent self history) : Consistent self.reset [] where
  size_pos := hinv.size_pos
  window_length := hinv.window_length
  cursor_eq := by simp [AggregatedLoad.reset]
  filled_iff := by
    have hpos := hinv.size_pos
    simp [AggregatedLoad.reset]
    omega
  slot_eq _ _ hk := absurd hk (Nat.not_lt_zero _)
  load_sum := hinv.load_sum
  accounts_sum := hinv.accounts_sum

/-- An append writes the new block at the slot after the newest, and keeps the window and its
    sums consistent; neither subtraction goes below zero, since the slot it overwrites is part
    of the sum. -/
theorem Consistent.append_from {self : AggregatedLoad}
    {history : List (Nat × InThreadAccountsLoad)} (hinv : Consistent self history)
    (queue_length : Nat) (accounts_load : InThreadAccountsLoad) :
    ∃ next, self.append_from queue_length accounts_load = some next ∧
      next.window_size = self.window_size ∧
      Consistent next ((queue_length, accounts_load) :: history) := by
  have hpos := hinv.size_pos
  have hstep : (if self.cursor + 1 ≥ self.window_size then (true, 0)
      else (self.is_filled, self.cursor + 1)) =
        (decide (self.window_size ≤ history.length + 1), (history.length + 1) % self.window_size) := by
    rw [hinv.cursor_eq, Ring.succ_mod_eq_ite hpos]
    split_ifs with hwrap
    · simp [Ring.le_succ_of_wrap hwrap]
    · simp only [Ring.le_succ_iff_of_not_wrap hwrap]
      congr 1
      rw [Bool.eq_iff_iff, decide_eq_true_iff]
      exact hinv.filled_iff
  generalize hslot : (history.length + 1) % self.window_size = slot at hstep
  have hslot_lt : slot < self.window.length := by
    rw [hinv.window_length, ← hslot]
    exact Nat.mod_lt _ hpos
  have hslot_lt_map : ∀ {β} (f : Nat × InThreadAccountsLoad → β), slot < (self.window.map f).length :=
    fun f => by simpa using hslot_lt
  have hload : ((self.window.set slot (queue_length, accounts_load)).map Prod.fst).sum +
      self.window[slot].1 = self.aggregated_value.1 + queue_length := by
    have hset := Ring.sum_set_add (self.window.map Prod.fst) (hslot_lt_map Prod.fst) queue_length
    rw [List.getElem_map] at hset
    rw [List.map_set, hinv.load_sum, hset]
  have haccounts : self.aggregated_value.2.add_in_place accounts_load =
      ((self.window.set slot (queue_length, accounts_load)).map Prod.snd).sum +
        self.window[slot].2 := by
    have hset := Ring.sum_set_add (self.window.map Prod.snd) (hslot_lt_map Prod.snd) accounts_load
    rw [List.getElem_map] at hset
    rw [List.map_set, hset, hinv.accounts_sum]
    rfl
  have hle : self.window[slot].1 ≤ self.aggregated_value.1 + queue_length := by omega
  have hsub : (self.aggregated_value.2.add_in_place accounts_load).sub_in_place self.window[slot].2 =
      some ((self.window.set slot (queue_length, accounts_load)).map Prod.snd).sum := by
    rw [haccounts]
    exact InThreadAccountsLoad.sub_in_place_add _ _
  refine ⟨_, append_from_eq_some hstep (List.getElem?_eq_getElem hslot_lt) hle hsub, rfl, ?_⟩
  constructor
  case size_pos => exact hpos
  case window_length => simpa using hinv.window_length
  case cursor_eq => simp [← hslot]
  case filled_iff => simp
  case load_sum =>
    dsimp only
    omega
  case accounts_sum => rfl
  case slot_eq =>
    intro k hk hk_history
    simp only [List.length_cons] at hk hk_history ⊢
    cases k with
    | zero => simp [hslot, hslot_lt]
    | succ k =>
      have hne : slot ≠ (history.length - k) % self.window_size := by
        intro heq
        have hsame : (history.length + 1 - 0) % self.window_size =
            (history.length + 1 - (k + 1)) % self.window_size := by
          rw [Nat.sub_zero, hslot, heq, Nat.add_sub_add_right]
        have := Ring.sub_mod_injective hpos hk (by omega) (by omega) hsame
        omega
      rw [Nat.add_sub_add_right, List.getElem?_cons_succ, List.getElem?_set_ne hne]
      exact hinv.slot_eq k (by omega) (by omega)

theorem run_cons (call : Call) (calls : List Call) (self : AggregatedLoad) :
    run (call :: calls) self = (self.apply call).bind (run calls) := rfl

/-- Run lemma: every run of calls from a consistent window succeeds, keeps the window size, and
    leaves the window consistent with what was appended since the last reset. -/
theorem Consistent.run (calls : List Call) :
    ∀ {self : AggregatedLoad} {history : List (Nat × InThreadAccountsLoad)},
      Consistent self history →
        ∃ next, run calls self = some next ∧ next.window_size = self.window_size ∧
          Consistent next (calls.foldl Call.record history) := by
  induction calls with
  | nil => exact fun hinv => ⟨_, rfl, rfl, hinv⟩
  | cons call calls ih =>
    intro self history hinv
    cases call with
    | append_from queue_length accounts_load =>
      obtain ⟨next, hnext, hsize, hinv'⟩ := hinv.append_from queue_length accounts_load
      obtain ⟨last, hrun, hsize', hlast⟩ := ih hinv'
      exact ⟨last, by rw [run_cons]; simp [apply, hnext, hrun], hsize'.trans hsize, hlast⟩
    | reset =>
      obtain ⟨last, hrun, hsize', hlast⟩ := ih hinv.reset
      exact ⟨last, by rw [run_cons]; simp [apply, hrun], hsize', hlast⟩

/-- Once the window is ready, the load it reports is the sum of the queue lengths of the last
    `window_size` blocks of its history. -/
theorem Consistent.load_value_eq {self : AggregatedLoad}
    {history : List (Nat × InThreadAccountsLoad)} (hinv : Consistent self history)
    (hready : self.is_ready = true) :
    self.load_value = ((history.take self.window_size).map Prod.fst).sum := by
  have hfilled : self.window_size ≤ history.length := hinv.filled_iff.mp hready
  have hslots : (self.window.map Prod.fst).length = self.window_size := by
    simpa using hinv.window_length
  rw [load_value, hinv.load_sum, List.map_take, ← hslots]
  apply Ring.sum_eq_sum_take (n := history.length)
  · omega
  · rw [List.length_map, List.length_map, hinv.window_length]
    exact hfilled
  · intro k hk
    rw [hslots] at hk ⊢
    simpa using congrArg (Option.map Prod.fst) (hinv.slot_eq k hk (by omega))

end AggregatedLoad

open AggregatedLoad in
theorem aggregated_load_window_sums (window_size : Nat) (hsize : 1 ≤ window_size)
    (calls : List Call) :
    ∃ aggregate, run calls (new window_size) = some aggregate ∧
      aggregate.aggregated_value.1 = (aggregate.window.map Prod.fst).sum ∧
      aggregate.aggregated_value.2 = (aggregate.window.map Prod.snd).sum ∧
      (aggregate.is_ready = true ↔ window_size ≤ (appended_since_reset calls).length) ∧
      (aggregate.is_ready = true → aggregate.load_value =
        (((appended_since_reset calls).take window_size).map Prod.fst).sum) := by
  obtain ⟨aggregate, hrun, hwindow, hinv⟩ := (consistent_new hsize).run calls
  change aggregate.window_size = window_size at hwindow
  refine ⟨aggregate, hrun, hinv.load_sum, hinv.accounts_sum, ?_, ?_⟩
  · rw [← hwindow]
    exact hinv.filled_iff
  · intro hready
    rw [← hwindow]
    exact hinv.load_value_eq hready

open AggregatedLoad in
theorem aggregated_load_window_sums_after_reset :
    1 ≤ 2 ∧ ∃ aggregate,
      run [.append_from 7 default, .reset, .append_from 3 default, .append_from 4 default] (new 2) =
        some aggregate ∧
      aggregate.aggregated_value.1 = (aggregate.window.map Prod.fst).sum ∧
      aggregate.aggregated_value.2 = (aggregate.window.map Prod.snd).sum ∧
      (aggregate.is_ready = true ↔ 2 ≤ (appended_since_reset
        [.append_from 7 default, .reset, .append_from 3 default, .append_from 4 default]).length) ∧
      (aggregate.is_ready = true → aggregate.load_value =
        (((appended_since_reset [.append_from 7 default, .reset, .append_from 3 default,
          .append_from 4 default]).take 2).map Prod.fst).sum) :=
  ⟨by decide, aggregated_load_window_sums 2 (by decide) _⟩

end ackinacki.multithreading.load_balancing_service
