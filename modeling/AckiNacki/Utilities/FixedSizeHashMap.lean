import Mathlib.Data.List.AList
import AckiNacki.Lib.Fifo

namespace ackinacki.utilities

/-- `FixedSizeHashMap`. -/
structure FixedSizeHashMap (K V : Type) [DecidableEq K] where
  capacity : Nat
  blocks : AList (fun _ : K => V)
  eviction_order : List K
  eviction_order_cursor : Nat

namespace FixedSizeHashMap

variable {K V : Type} [DecidableEq K]

def new (capacity : Nat) : FixedSizeHashMap K V := ⟨capacity, ∅, [], 0⟩

def contains_key (self : FixedSizeHashMap K V) (id : K) : Bool := decide (id ∈ self.blocks)

def get (self : FixedSizeHashMap K V) (k : K) : Option V := self.blocks.lookup k

/-- `FixedSizeHashMap::insert`; `none` is the panic of `self.eviction_order[cursor]` out of
    bounds. -/
def insert (self : FixedSizeHashMap K V) (id : K) (value : V) : Option (FixedSizeHashMap K V) :=
  if id ∈ self.blocks then some self
  else if self.capacity > self.eviction_order.length then
    some { self with
      blocks := self.blocks.insert id value
      eviction_order := self.eviction_order ++ [id] }
  else
    match self.eviction_order[self.eviction_order_cursor]? with
    | none => none
    | some evicted =>
      let eviction_order_cursor := self.eviction_order_cursor + 1
      some { self with
        blocks := (self.blocks.erase evicted).insert id value
        eviction_order := self.eviction_order.set self.eviction_order_cursor id
        eviction_order_cursor :=
          if eviction_order_cursor ≥ self.capacity then 0 else eviction_order_cursor }

/-- A sequence of `insert` calls. -/
def run (self : FixedSizeHashMap K V) (inserts : List (K × V)) : Option (FixedSizeHashMap K V) :=
  inserts.foldlM (fun map entry => map.insert entry.1 entry.2) self

end FixedSizeHashMap

/-- `FixedSizeHashSet`: the map with a `HashSet` for `blocks`, that is a map to `()`. -/
abbrev FixedSizeHashSet (T : Type) [DecidableEq T] := FixedSizeHashMap T Unit

namespace FixedSizeHashSet

variable {T : Type} [DecidableEq T]

def new (capacity : Nat) : FixedSizeHashSet T := FixedSizeHashMap.new capacity

def contains (self : FixedSizeHashSet T) (id : T) : Bool := FixedSizeHashMap.contains_key self id

def insert (self : FixedSizeHashSet T) (id : T) : Option (FixedSizeHashSet T) :=
  FixedSizeHashMap.insert self id ()

/-- A sequence of `insert` calls. -/
def run (self : FixedSizeHashSet T) (ids : List T) : Option (FixedSizeHashSet T) :=
  ids.foldlM insert self

theorem run_eq (self : FixedSizeHashSet T) (ids : List T) :
    run self ids = FixedSizeHashMap.run self (ids.map fun id => (id, ())) := by
  induction ids generalizing self with
  | nil => rfl
  | cons id ids ih =>
    cases hinsert : FixedSizeHashMap.insert self id () with
    | none => simp [run, FixedSizeHashMap.run, insert, hinsert]
    | some self' => simpa [run, FixedSizeHashMap.run, insert, hinsert] using ih self'

end FixedSizeHashSet

namespace FixedSizeHashMap

variable {K V : Type} [DecidableEq K]

/-- The map holds the FIFO window `window`: its eviction order, read from the cursor, is the
    window's keys, and its blocks map each key of the window to the window's value. -/
structure Holds (map : FixedSizeHashMap K V) (window : List (K × V)) : Prop where
  capacity_pos : 0 < map.capacity
  cursor_lt : map.eviction_order_cursor < map.capacity
  cursor_of_not_full : map.eviction_order.length < map.capacity → map.eviction_order_cursor = 0
  rotate_eviction_order :
    map.eviction_order.rotate map.eviction_order_cursor = window.map Prod.fst
  lookup_blocks : ∀ k, map.blocks.lookup k = window.lookup k
  length_le : window.length ≤ map.capacity
  nodup : (window.map Prod.fst).Nodup

variable {self : FixedSizeHashMap K V} {window : List (K × V)}

theorem holds_new {capacity : Nat} (hcapacity : 0 < capacity) :
    Holds (new capacity : FixedSizeHashMap K V) [] where
  capacity_pos := hcapacity
  cursor_lt := hcapacity
  cursor_of_not_full _ := rfl
  rotate_eviction_order := rfl
  lookup_blocks _ := rfl
  length_le := Nat.zero_le _
  nodup := List.nodup_nil

theorem Holds.length_eviction_order (h : Holds self window) :
    self.eviction_order.length = window.length := by
  rw [← List.length_rotate self.eviction_order self.eviction_order_cursor,
    h.rotate_eviction_order, List.length_map]

theorem Holds.mem_eviction_order (h : Holds self window) (k : K) :
    k ∈ self.eviction_order ↔ k ∈ window.map Prod.fst := by
  rw [← List.mem_rotate (n := self.eviction_order_cursor), h.rotate_eviction_order]

theorem Holds.mem_blocks (h : Holds self window) (k : K) :
    k ∈ self.blocks ↔ k ∈ window.map Prod.fst := by
  rw [← AList.lookup_isSome, h.lookup_blocks, Fifo.isSome_lookup_iff]

/-- `blocks` holds exactly the keys of the eviction order. -/
theorem Holds.mem_blocks_iff (h : Holds self window) (k : K) :
    k ∈ self.blocks ↔ k ∈ self.eviction_order := by
  rw [h.mem_blocks, h.mem_eviction_order]

theorem Holds.nodup_eviction_order (h : Holds self window) : self.eviction_order.Nodup := by
  rw [← List.nodup_rotate (n := self.eviction_order_cursor), h.rotate_eviction_order]
  exact h.nodup

/-- While there is room, the new key goes to the end; the cursor has not moved. -/
theorem Holds.insert_push (h : Holds self window) {id : K} (value : V)
    (habsent : id ∉ window.map Prod.fst) (hroom : self.capacity > self.eviction_order.length) :
    Holds { self with
        blocks := self.blocks.insert id value
        eviction_order := self.eviction_order ++ [id] } (window ++ [(id, value)]) := by
  have hcursor := h.cursor_of_not_full hroom
  have hlength := h.length_eviction_order
  refine ⟨h.capacity_pos, h.cursor_lt, fun _ => hcursor, ?_, fun k => ?_, ?_, ?_⟩
  · have hrotate := h.rotate_eviction_order
    simp only [hcursor, List.rotate_zero] at hrotate ⊢
    simp [hrotate]
  · rw [Fifo.lookup_append_singleton habsent]
    by_cases hk : k = id
    · subst hk
      simp
    · simp [AList.lookup_insert_ne hk, h.lookup_blocks, hk]
  · simp only [List.length_append, List.length_singleton]
    omega
  · exact Fifo.nodup_map_append_singleton h.nodup habsent

/-- A full map evicts the key under the cursor, the oldest of the window, and moves the cursor
    on. -/
theorem Holds.insert_evict (h : Holds self window) {id : K} (value : V)
    (habsent : id ∉ window.map Prod.fst) (hfull : ¬self.capacity > self.eviction_order.length) :
    ∃ evicted, self.eviction_order[self.eviction_order_cursor]? = some evicted ∧
      Holds { self with
          blocks := (self.blocks.erase evicted).insert id value
          eviction_order := self.eviction_order.set self.eviction_order_cursor id
          eviction_order_cursor := if self.eviction_order_cursor + 1 ≥ self.capacity then 0
            else self.eviction_order_cursor + 1 } (window.tail ++ [(id, value)]) := by
  have hlength := h.length_eviction_order
  have hfull' : self.eviction_order.length = self.capacity := by
    have := h.length_le
    omega
  have hcursor : self.eviction_order_cursor < self.eviction_order.length := by
    rw [hfull']
    exact h.cursor_lt
  obtain ⟨⟨evicted, evicted_value⟩, rest, rfl⟩ : ∃ entry rest, window = entry :: rest := by
    cases window with
    | nil =>
      have hpos := h.capacity_pos
      simp only [List.length_nil] at hlength
      omega
    | cons entry rest => exact ⟨entry, rest, rfl⟩
  have hhead := List.head?_rotate hcursor
  rw [h.rotate_eviction_order, List.map_cons, List.head?_cons] at hhead
  have hnodup := h.nodup
  rw [List.map_cons, List.nodup_cons] at hnodup
  rw [List.map_cons] at habsent
  have hrest : id ∉ rest.map Prod.fst := fun hmem => habsent (List.mem_cons_of_mem _ hmem)
  refine ⟨evicted, hhead.symm, ?_⟩
  refine ⟨h.capacity_pos, ?_, fun hroom => ?_, ?_, fun k => ?_, ?_, ?_⟩
  · have hpos := h.capacity_pos
    dsimp only
    split_ifs <;> omega
  · simp only [List.length_set] at hroom
    omega
  · have hwrap := Fifo.rotate_wrap (l := self.eviction_order.set self.eviction_order_cursor id)
      (by rwa [List.length_set])
    rw [List.length_set, hfull'] at hwrap
    dsimp only
    rw [hwrap, Fifo.rotate_set_succ hcursor, h.rotate_eviction_order]
    simp
  · dsimp only
    rw [List.tail_cons, Fifo.lookup_append_singleton hrest, Fifo.lookup_cons_of_nodup h.nodup]
    by_cases hk : k = id
    · subst hk
      simp
    · by_cases hke : k = evicted
      · subst hke
        simp [AList.lookup_insert_ne hk, hk]
      · simp [AList.lookup_insert_ne hk, AList.lookup_erase_ne hke, hk, hke, h.lookup_blocks]
  · have := h.length_le
    simp only [List.tail_cons, List.length_append, List.length_singleton]
    simp only [List.length_cons] at this hlength
    omega
  · rw [List.tail_cons]
    exact Fifo.nodup_map_append_singleton hnodup.2 hrest

/-- **One insert keeps the map a FIFO cache**: it never panics, and the map then holds the window
    the cache `Fifo.insert` holds after the same insert. -/
theorem Holds.insert (h : Holds self window) (id : K) (value : V) :
    ∃ self', self.insert id value = some self' ∧ self'.capacity = self.capacity ∧
      Holds self' (Fifo.insert Prod.fst self.capacity window (id, value)) := by
  unfold FixedSizeHashMap.insert Fifo.insert
  by_cases hpresent : id ∈ window.map Prod.fst
  · rw [if_pos ((h.mem_blocks id).mpr hpresent)]
    exact ⟨self, rfl, rfl, by simpa [hpresent] using h⟩
  rw [if_neg (fun hmem => hpresent ((h.mem_blocks id).mp hmem))]
  simp only [hpresent, if_false]
  have hlength := h.length_eviction_order
  by_cases hroom : self.capacity > self.eviction_order.length
  · have hshort : window.length < self.capacity := by omega
    rw [if_pos hroom, if_pos hshort]
    exact ⟨_, rfl, rfl, h.insert_push value hpresent hroom⟩
  · have hfull : ¬window.length < self.capacity := by omega
    rw [if_neg hroom, if_neg hfull]
    obtain ⟨evicted, hevicted, hholds⟩ := h.insert_evict value hpresent hroom
    rw [hevicted]
    exact ⟨_, rfl, rfl, hholds⟩

/-- Over a whole run, the map holds the window of the cache after the same inserts. -/
theorem Holds.run (h : Holds self window) (inserts : List (K × V)) :
    ∃ self', self.run inserts = some self' ∧ self'.capacity = self.capacity ∧
      Holds self' (inserts.foldl (Fifo.insert Prod.fst self.capacity) window) := by
  induction inserts generalizing self window with
  | nil => exact ⟨self, rfl, rfl, h⟩
  | cons entry inserts ih =>
    obtain ⟨self', hinsert, hcapacity, hholds⟩ := h.insert entry.1 entry.2
    obtain ⟨self'', hrun, hcapacity', hholds'⟩ := ih hholds
    refine ⟨self'', ?_, hcapacity'.trans hcapacity, ?_⟩
    · simp only [FixedSizeHashMap.run, List.foldlM_cons, hinsert] at hrun ⊢
      exact hrun
    · rw [hcapacity] at hholds'
      rw [List.foldl_cons]
      exact hholds'

/-- From empty, a run holds the last `capacity` entries the cache accepts. -/
theorem run_new {capacity : Nat} (hcapacity : 0 < capacity) (inserts : List (K × V)) :
    ∃ map, (new capacity : FixedSizeHashMap K V).run inserts = some map ∧
      map.capacity = capacity ∧
      Holds map (Fifo.window capacity (Fifo.accepted Prod.fst capacity inserts)) := by
  obtain ⟨map, hrun, hcapacity', hholds⟩ := (holds_new hcapacity).run inserts
  rw [show (new capacity : FixedSizeHashMap K V).capacity = capacity from rfl,
    Fifo.foldl_insert_eq_window Prod.fst hcapacity] at hholds
  exact ⟨map, hrun, hcapacity', hholds⟩

end FixedSizeHashMap

open FixedSizeHashMap in
theorem fixed_size_keeps_last_accepted {T K V : Type} [DecidableEq T] [DecidableEq K]
    {capacity : Nat} (hcapacity : 0 < capacity) (ids : List T) (inserts : List (K × V)) :
    (∃ set, (FixedSizeHashSet.new capacity).run ids = some set ∧
      (∀ x, x ∈ set.blocks ↔ x ∈ set.eviction_order) ∧ set.eviction_order.Nodup ∧
      set.eviction_order.length = min capacity (Fifo.accepted id capacity ids).length ∧
      set.eviction_order.length = min capacity (Fifo.accepted id capacity ids).dedup.length ∧
      set.eviction_order_cursor < capacity ∧
      ∀ x, set.contains x ↔ x ∈ Fifo.window capacity (Fifo.accepted id capacity ids)) ∧
    ∃ map, (FixedSizeHashMap.new capacity).run inserts = some map ∧
      (∀ k, k ∈ map.blocks ↔ k ∈ map.eviction_order) ∧ map.eviction_order.Nodup ∧
      map.eviction_order.length = min capacity (Fifo.accepted Prod.fst capacity inserts).length ∧
      map.eviction_order.length =
        min capacity ((Fifo.accepted Prod.fst capacity inserts).map Prod.fst).dedup.length ∧
      map.eviction_order_cursor < capacity ∧
      ∀ k, map.get k = (Fifo.window capacity (Fifo.accepted Prod.fst capacity inserts)).lookup k := by
  constructor
  · obtain ⟨set, hrun, hcapacity', hholds⟩ := run_new hcapacity (ids.map fun id => (id, ()))
    have haccepted : Fifo.accepted Prod.fst capacity (ids.map fun id => (id, ())) =
        (Fifo.accepted id capacity ids).map fun id => (id, ()) :=
      Fifo.accepted_map _ (fun _ => rfl) capacity ids
    have hkeys : (Fifo.window capacity (Fifo.accepted Prod.fst capacity
        (ids.map fun id => (id, ())))).map Prod.fst = Fifo.window capacity (Fifo.accepted id capacity ids) := by
      rw [haccepted, Fifo.window_map, List.map_map]
      exact List.map_id _
    have hlength := hholds.length_eviction_order
    rw [Fifo.length_window, haccepted, List.length_map] at hlength
    have hdistinct : min capacity (Fifo.accepted id capacity ids).length =
        min capacity ((Fifo.accepted id capacity ids).map id).dedup.length :=
      Fifo.min_length_accepted id ids
    rw [List.map_id] at hdistinct
    refine ⟨set, (FixedSizeHashSet.run_eq _ ids).trans hrun, hholds.mem_blocks_iff,
      hholds.nodup_eviction_order, hlength, hlength.trans hdistinct,
      hcapacity' ▸ hholds.cursor_lt, fun x => ?_⟩
    rw [FixedSizeHashSet.contains, contains_key, decide_eq_true_iff, hholds.mem_blocks, hkeys]
  · obtain ⟨map, hrun, hcapacity', hholds⟩ := run_new hcapacity inserts
    have hlength := hholds.length_eviction_order
    rw [Fifo.length_window] at hlength
    exact ⟨map, hrun, hholds.mem_blocks_iff, hholds.nodup_eviction_order, hlength,
      hlength.trans (Fifo.min_length_accepted Prod.fst inserts), hcapacity' ▸ hholds.cursor_lt,
      hholds.lookup_blocks⟩

/-- A set of two: `1` is evicted by `3` and accepted again. A map of two keeps the first value
    of a key inserted twice. -/
theorem fixed_size_keeps_last_two :
    0 < 2 ∧
      (∃ set, (FixedSizeHashSet.new 2).run [1, 2, 3, 1] = some set ∧
        ∀ x, set.contains x ↔ x ∈ [3, 1]) ∧
      ∃ map, (FixedSizeHashMap.new 2).run [(1, 10), (2, 20), (2, 30)] = some map ∧
        map.get 2 = some 20 := by
  obtain ⟨⟨set, hset, -, -, -, -, -, hcontains⟩, map, hmap, -, -, -, -, -, hget⟩ :=
    fixed_size_keeps_last_accepted (T := Nat) (K := Nat) (V := Nat) (by decide : 0 < 2)
      [1, 2, 3, 1] [(1, 10), (2, 20), (2, 30)]
  have hwindow : Fifo.window 2 (Fifo.accepted id 2 [1, 2, 3, 1]) = [3, 1] := by decide
  refine ⟨by decide, ⟨set, hset, fun x => ?_⟩, map, hmap, ?_⟩
  · rw [hcontains, hwindow]
  · rw [hget]
    decide

end ackinacki.utilities
