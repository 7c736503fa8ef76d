import Mathlib.Data.List.Dedup
import Mathlib.Data.List.Rotate

namespace Fifo

variable {α κ β : Type}

/-- The last `capacity` entries of a history. -/
def window (capacity : Nat) (history : List α) : List α :=
  history.drop (history.length - capacity)

theorem length_window (capacity : Nat) (history : List α) :
    (window capacity history).length = min capacity history.length := by
  simp only [window, List.length_drop]
  omega

theorem window_of_length_le {capacity : Nat} {history : List α}
    (h : history.length ≤ capacity) : window capacity history = history := by
  simp [window, Nat.sub_eq_zero_of_le h]

theorem window_map (f : α → β) (capacity : Nat) (history : List α) :
    window capacity (history.map f) = (window capacity history).map f := by
  simp [window, List.map_drop]

/-- One more entry: it goes to the end, and the oldest leaves once there are `capacity`. -/
theorem window_append {capacity : Nat} (hcapacity : 0 < capacity) (history : List α) (a : α) :
    window capacity (history ++ [a]) =
      (if history.length < capacity then window capacity history
        else (window capacity history).tail) ++ [a] := by
  have hle : history.length + 1 - capacity ≤ history.length := by omega
  rw [window, List.length_append, List.length_singleton, List.drop_append_of_le_length hle]
  split_ifs with hlt
  · rw [window, show history.length + 1 - capacity = history.length - capacity by omega]
  · rw [window, List.tail_drop, show history.length + 1 - capacity = history.length - capacity + 1 by omega]

/-- Writing slot `i` of a ring buffer and moving its cursor past it drops the oldest entry of
    the view from the cursor and puts the new one at its end. -/
theorem rotate_set_succ {l : List α} {i : Nat} (hi : i < l.length) (x : α) :
    (l.set i x).rotate (i + 1) = (l.rotate i).tail ++ [x] := by
  have htake : (l.take (i + 1)).set i x = l.take i ++ [x] := by
    rw [List.take_add_one, List.getElem?_eq_getElem hi, Option.toList_some,
      List.set_append_right _ _ (List.length_take_le i l), List.length_take, min_eq_left hi.le, Nat.sub_self]
    rfl
  rw [List.rotate_eq_drop_append_take (by rw [List.length_set]; omega),
    List.rotate_eq_drop_append_take hi.le, List.drop_set, if_pos (Nat.lt_succ_self i),
    List.take_set, htake, List.tail_append_of_ne_nil (by simpa using hi), List.tail_drop,
    List.append_assoc]

/-- A cursor that wraps to the start has gone round the whole list. -/
theorem rotate_wrap {l : List α} {i : Nat} (hi : i < l.length) :
    l.rotate (if i + 1 ≥ l.length then 0 else i + 1) = l.rotate (i + 1) := by
  split_ifs with hwrap
  · rw [show i + 1 = l.length by omega, List.rotate_length, List.rotate_zero]
  · rfl

/-- A new key at the end of a list of distinct keys. -/
theorem nodup_map_append_singleton {key : α → κ} {l : List α} {a : α}
    (hnodup : (l.map key).Nodup) (ha : key a ∉ l.map key) : ((l ++ [a]).map key).Nodup := by
  rw [List.map_append, List.nodup_append]
  refine ⟨hnodup, List.nodup_singleton _, ?_⟩
  intro b hb c hc hbc
  simp only [List.map_cons, List.map_nil, List.mem_singleton] at hc
  subst hc hbc
  exact ha hb

section Lookup

variable [DecidableEq κ]

theorem isSome_lookup_iff {l : List (κ × β)} {k : κ} :
    (l.lookup k).isSome ↔ k ∈ l.map Prod.fst := by
  induction l with
  | nil => simp
  | cons entry l ih =>
    obtain ⟨k', v⟩ := entry
    by_cases hk : k = k'
    · subst hk
      simp
    · simp only [List.lookup_cons, beq_false_of_ne hk, ih, List.map_cons, List.mem_cons, hk,
        false_or]

theorem lookup_eq_none_of_not_mem {l : List (κ × β)} {k : κ} (hk : k ∉ l.map Prod.fst) :
    l.lookup k = none := by
  rw [List.lookup_eq_none_iff]
  intro p hp
  have hne : k ≠ p.1 := fun h => hk (h ▸ List.mem_map_of_mem hp)
  simpa using hne

/-- A window with a new key at its end. -/
theorem lookup_append_singleton {l : List (κ × β)} {k : κ} (hk : k ∉ l.map Prod.fst) (v : β)
    (x : κ) : (l ++ [(k, v)]).lookup x = if x = k then some v else l.lookup x := by
  rw [List.lookup_append]
  by_cases hx : x = k
  · subst hx
    simp [lookup_eq_none_of_not_mem hk]
  · simp only [if_neg hx, List.lookup_cons, beq_false_of_ne hx, List.lookup_nil, Option.or_none]

/-- A window without its oldest entry, no key of the window being there twice. -/
theorem lookup_cons_of_nodup {k : κ} {v : β} {l : List (κ × β)}
    (hnodup : (((k, v) :: l).map Prod.fst).Nodup) (x : κ) :
    l.lookup x = if x = k then none else ((k, v) :: l).lookup x := by
  rw [List.map_cons, List.nodup_cons] at hnodup
  by_cases hx : x = k
  · subst hx
    simp [lookup_eq_none_of_not_mem hnodup.1]
  · simp only [if_neg hx, List.lookup_cons, beq_false_of_ne hx]

end Lookup

variable [DecidableEq κ] (key : α → κ)

/-- The cache: an entry whose key is in the window is refused; another goes to the end, and the
    oldest entry leaves a full window. -/
def insert (capacity : Nat) (window : List α) (a : α) : List α :=
  if key a ∈ window.map key then window
  else (if window.length < capacity then window else window.tail) ++ [a]

/-- The history of accepted entries grows by an entry whose key is not among the last
    `capacity` accepted. -/
def accept (capacity : Nat) (history : List α) (a : α) : List α :=
  if key a ∈ (window capacity history).map key then history else history ++ [a]

/-- The entries a cache of `capacity` accepts out of `inserts`, in order. -/
def accepted (capacity : Nat) (inserts : List α) : List α :=
  inserts.foldl (accept key capacity) []

/-- **The cache holds the window of its accepted history**, one insert at a time. -/
theorem insert_window {capacity : Nat} (hcapacity : 0 < capacity) (history : List α) (a : α) :
    insert key capacity (window capacity history) a = window capacity (accept key capacity history a) := by
  unfold insert accept
  by_cases hmem : key a ∈ (window capacity history).map key
  · simp only [hmem, if_true]
  · simp only [hmem, if_false]
    rw [window_append hcapacity, length_window]
    by_cases hlt : history.length < capacity
    · rw [if_pos (by omega), if_pos hlt]
    · rw [if_neg (by omega), if_neg hlt]

theorem foldl_insert_window {capacity : Nat} (hcapacity : 0 < capacity) :
    ∀ (inserts history : List α), inserts.foldl (insert key capacity) (window capacity history) =
      window capacity (inserts.foldl (accept key capacity) history)
  | [], _ => rfl
  | a :: inserts, history => by
    rw [List.foldl_cons, insert_window key hcapacity, List.foldl_cons]
    exact foldl_insert_window hcapacity inserts _

/-- A run of the cache from empty holds the last `capacity` accepted entries. -/
theorem foldl_insert_eq_window {capacity : Nat} (hcapacity : 0 < capacity) (inserts : List α) :
    inserts.foldl (insert key capacity) [] = window capacity (accepted key capacity inserts) := by
  rw [accepted, ← foldl_insert_window key hcapacity,
    show window capacity ([] : List α) = [] by simp [window]]

variable {key}

/-- Accepting entries under a map that keeps their keys. -/
theorem accept_map {key' : β → κ} (f : α → β) (hkey : ∀ a, key' (f a) = key a) (capacity : Nat)
    (history : List α) (a : α) :
    accept key' capacity (history.map f) (f a) = (accept key capacity history a).map f := by
  have hcomp : key' ∘ f = key := funext hkey
  unfold accept
  rw [window_map, List.map_map, hcomp, hkey]
  split_ifs <;> simp

theorem accepted_map {key' : β → κ} (f : α → β) (hkey : ∀ a, key' (f a) = key a) (capacity : Nat)
    (inserts : List α) : accepted key' capacity (inserts.map f) = (accepted key capacity inserts).map f := by
  suffices h : ∀ history : List α, (inserts.map f).foldl (accept key' capacity) (history.map f) =
      (inserts.foldl (accept key capacity) history).map f from h []
  induction inserts with
  | nil => simp
  | cons a inserts ih =>
    intro history
    rw [List.map_cons, List.foldl_cons, accept_map f hkey, ih, List.foldl_cons]

/-- The first `capacity` accepted entries came in while nothing was pushed out, so no two of them
    share a key. -/
theorem accept_nodup_take {capacity : Nat} {history : List α}
    (hnodup : ((history.take capacity).map key).Nodup) (a : α) :
    (((accept key capacity history a).take capacity).map key).Nodup := by
  unfold accept
  split_ifs with hmem
  · exact hnodup
  · by_cases hlt : history.length < capacity
    · rw [window_of_length_le hlt.le] at hmem
      rw [List.take_of_length_le hlt.le] at hnodup
      rw [List.take_of_length_le (by simp; omega), List.map_append, List.nodup_append]
      simpa [hnodup] using hmem
    · rwa [List.take_append_of_le_length (by omega)]

variable (key) in
/-- The window holds as many entries as there are distinct keys accepted, up to `capacity`. -/
theorem min_length_accepted {capacity : Nat} (inserts : List α) :
    min capacity (accepted key capacity inserts).length =
      min capacity ((accepted key capacity inserts).map key).dedup.length := by
  have hnodup : ∀ (inserts history : List α), ((history.take capacity).map key).Nodup →
      (((inserts.foldl (accept key capacity) history).take capacity).map key).Nodup := by
    intro inserts
    induction inserts with
    | nil => exact fun _ h => h
    | cons a inserts ih => exact fun history h => ih _ (accept_nodup_take h a)
  set history := accepted key capacity inserts
  have hle : ((history.map key).dedup).length ≤ history.length :=
    (List.dedup_sublist _).length_le.trans (by simp)
  have hsub : (history.take capacity).map key ⊆ (history.map key).dedup := fun x hx => by
    rw [List.mem_dedup]
    exact List.map_subset _ (List.take_subset _ _) hx
  have hfirst : ((history.take capacity).map key).Nodup := hnodup inserts [] (by simp)
  have hge := hfirst.length_le_of_subset hsub
  simp only [List.length_map, List.length_take] at hge
  omega

end Fifo
