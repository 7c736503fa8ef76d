import Mathlib.Data.List.Basic

namespace ackinacki.bitmask

/-- `mask::Bitmask`: a value matches when it agrees with `mask_bits` on the meaningful bits. -/
structure Bitmask (T : Type) where
  mask_bits : T
  meaningful_mask_bits : T
  deriving DecidableEq, Repr

namespace Bitmask

variable {T : Type}

/-- The derived `Default`: both fields at their default. -/
instance [Inhabited T] : Inhabited (Bitmask T) := ⟨⟨default, default⟩⟩

def is_match [AndOp T] [DecidableEq T] (self : Bitmask T) (account_address : T) : Bool :=
  let mask := self.mask_bits &&& self.meaningful_mask_bits
  let meaningful_value := account_address &&& self.meaningful_mask_bits
  decide (meaningful_value = mask)

/-- The default mask matches every value exactly when `default` absorbs `&&&` from the right
    the way it does itself. -/
theorem default_is_match_iff [AndOp T] [DecidableEq T] [Inhabited T] (bits : T) :
    (default : Bitmask T).is_match bits = true ↔
      bits &&& default = (default : T) &&& default := by
  simp [is_match, default]

end Bitmask

/-- `table::BitmasksTable`: the rules, first to last. -/
structure BitmasksTable (T U : Type) where
  masks : List (Bitmask T × U)
  deriving DecidableEq, Repr

namespace BitmasksTable

variable {T U : Type}

def rows (self : BitmasksTable T U) : List (Bitmask T × U) := self.masks

def len (self : BitmasksTable T U) : Nat := self.masks.length

def new [Inhabited T] [Inhabited U] : BitmasksTable T U := ⟨[(default, default)]⟩

/-- `find_match`: the target of the first matching rule; `none` stands for the panic the source
    raises when no rule matches. -/
def find_match [AndOp T] [DecidableEq T] (self : BitmasksTable T U) (bits : T) : Option U :=
  (self.rows.find? fun row => row.1.is_match bits).map Prod.snd

def is_match [AndOp T] [DecidableEq T] [DecidableEq U] (self : BitmasksTable T U) (bits : T)
    (target : U) : Option Bool :=
  (self.find_match bits).map (· == target)

/-- `insert_above`: put a rule at `row_index`, above the row that was there; never at or below
    the default row. -/
def insert_above (self : BitmasksTable T U) (row_index : Nat) (mask : Bitmask T) (thread : U) :
    Except String Unit × BitmasksTable T U :=
  if row_index = self.masks.length then
    (.error "It is not allowed to insert below the default row.", self)
  else if ¬ row_index < self.masks.length then
    (.error "row_index is outside of the table size.", self)
  else (.ok (), ⟨self.masks.insertIdx row_index (mask, thread)⟩)

/-- `remove`: take out the rule at `row_index`, never the default row. Indices are `Nat`:
    `row_index + 1usize` overflows only at `usize::MAX`, where the source panics before it
    touches the table. -/
def remove (self : BitmasksTable T U) (row_index : Nat) :
    Except String (Bitmask T × U) × BitmasksTable T U :=
  if row_index + 1 = self.masks.length then
    (.error "It is not allowed to remove the default row", self)
  else if h : row_index + 1 < self.masks.length then
    have : row_index < self.masks.length := by omega
    (.ok self.masks[row_index], ⟨self.masks.eraseIdx row_index⟩)
  else (.error "row_index is out of bounds.", self)

/-- What `insert_above` can do: fail and keep the table, or insert strictly above the last
    row. -/
theorem insert_above_cases (self : BitmasksTable T U) (row_index : Nat) (mask : Bitmask T)
    (thread : U) :
    (∃ e, self.insert_above row_index mask thread = (.error e, self)) ∨
      (row_index < self.masks.length ∧
        self.insert_above row_index mask thread =
          (.ok (), ⟨self.masks.insertIdx row_index (mask, thread)⟩)) := by
  unfold insert_above
  by_cases hlast : row_index = self.masks.length
  · exact Or.inl ⟨_, if_pos hlast⟩
  · by_cases hlt : row_index < self.masks.length
    · exact Or.inr ⟨hlt, by rw [if_neg hlast, if_neg (not_not.mpr hlt)]⟩
    · exact Or.inl ⟨_, by rw [if_neg hlast, if_pos hlt]⟩

/-- What `remove` can do: fail and keep the table, or erase a row strictly above the last
    one. -/
theorem remove_cases (self : BitmasksTable T U) (row_index : Nat) :
    (∃ e, self.remove row_index = (.error e, self)) ∨
      ∃ hindex : row_index + 1 < self.masks.length,
        self.remove row_index = (.ok self.masks[row_index], ⟨self.masks.eraseIdx row_index⟩) := by
  unfold remove
  by_cases hlast : row_index + 1 = self.masks.length
  · exact Or.inl ⟨_, if_pos hlast⟩
  · by_cases hlt : row_index + 1 < self.masks.length
    · exact Or.inr ⟨hlt, by rw [if_neg hlast, dif_pos hlt]⟩
    · exact Or.inl ⟨_, by rw [if_neg hlast, dif_neg hlt]⟩

/-- Inserting at the top of a table with at least one row puts the rule first. -/
theorem insert_above_zero {self : BitmasksTable T U} (hrows : 0 < self.masks.length)
    (mask : Bitmask T) (thread : U) :
    self.insert_above 0 mask thread = (.ok (), ⟨(mask, thread) :: self.masks⟩) := by
  rcases self.insert_above_cases 0 mask thread with ⟨e, he⟩ | ⟨_, hok⟩
  · simp [insert_above, Nat.ne_of_lt hrows, hrows] at he
  · rw [hok, List.insertIdx_zero]

/-- A failed `insert_above` leaves the table as it was. -/
theorem insert_above_of_error {self : BitmasksTable T U} {row_index : Nat} {mask : Bitmask T}
    {thread : U} {e : String} (h : (self.insert_above row_index mask thread).1 = .error e) :
    (self.insert_above row_index mask thread).2 = self := by
  rcases self.insert_above_cases row_index mask thread with ⟨e', he'⟩ | ⟨_, hok⟩
  · rw [he']
  · rw [hok] at h
    cases h

/-- A failed `remove` leaves the table as it was. -/
theorem remove_of_error {self : BitmasksTable T U} {row_index : Nat} {e : String}
    (h : (self.remove row_index).1 = .error e) : (self.remove row_index).2 = self := by
  rcases self.remove_cases row_index with ⟨e', he'⟩ | ⟨_, hok⟩
  · rw [he']
  · rw [hok] at h
    cases h

section DefaultLast

variable [Inhabited T] [Inhabited U] {self : BitmasksTable T U}

/-- The last row of the table is the default rule. -/
def DefaultLast (self : BitmasksTable T U) : Prop :=
  self.masks.getLast? = some (default, default)

theorem new_default_last : (new : BitmasksTable T U).DefaultLast := rfl

theorem DefaultLast.insert_above (hlast : self.DefaultLast) (row_index : Nat) (mask : Bitmask T)
    (thread : U) : (self.insert_above row_index mask thread).2.DefaultLast := by
  rcases self.insert_above_cases row_index mask thread with ⟨e, he⟩ | ⟨hlt, hok⟩
  · rw [he]
    exact hlast
  · rw [hok]
    have hlength : (self.masks.insertIdx row_index (mask, thread)).length = self.masks.length + 1 :=
      List.length_insertIdx_of_le_length (Nat.le_of_lt hlt) _
    unfold DefaultLast at hlast
    show (self.masks.insertIdx row_index (mask, thread)).getLast? = _
    rw [List.getLast?_eq_getElem?, List.getElem?_eq_getElem (by omega)] at hlast
    rw [List.getLast?_eq_getElem?, hlength, Nat.add_sub_cancel, List.getElem?_eq_getElem (by omega),
      List.getElem_insertIdx_of_gt (by omega)]
    exact hlast

/-- The same fact read off a call's result. -/
theorem DefaultLast.of_insert_above_eq (hlast : self.DefaultLast) {row_index : Nat}
    {mask : Bitmask T} {thread : U} {r : Except String Unit} {table : BitmasksTable T U}
    (h : self.insert_above row_index mask thread = (r, table)) : table.DefaultLast := by
  have hinserted := hlast.insert_above row_index mask thread
  rwa [h] at hinserted

theorem DefaultLast.remove (hlast : self.DefaultLast) (row_index : Nat) :
    (self.remove row_index).2.DefaultLast := by
  rcases self.remove_cases row_index with ⟨e, he⟩ | ⟨hlt, hok⟩
  · rw [he]
    exact hlast
  · rw [hok]
    obtain ⟨rows, hrows⟩ := List.getLast?_eq_some_iff.mp hlast
    have hrow : row_index < rows.length := by
      simp only [hrows, List.length_append, List.length_singleton] at hlt
      omega
    show (self.masks.eraseIdx row_index).getLast? = _
    rw [hrows, List.eraseIdx_append_of_lt_length hrow, List.getLast?_concat]

/-- With the default rule last, and the default mask matching every value, every value finds a
    target. -/
theorem DefaultLast.find_match_isSome [AndOp T] [DecidableEq T] (hlast : self.DefaultLast)
    (hdefault : ∀ bits : T, (default : Bitmask T).is_match bits = true) (bits : T) :
    (self.find_match bits).isSome := by
  have hmem : ((default : Bitmask T), (default : U)) ∈ self.rows := List.mem_of_getLast? hlast
  simp only [find_match, Option.isSome_map]
  exact List.find?_isSome.mpr ⟨_, hmem, hdefault bits⟩

end DefaultLast

section FindMatch

variable [AndOp T] [DecidableEq T] {self : BitmasksTable T U} {row_index : Nat}
  {row_mask : Bitmask T} {row_thread : U}

theorem insertIdx_eq_take_cons_drop {α : Type} (x : α) :
    ∀ {l : List α} {i : Nat}, i ≤ l.length → l.insertIdx i x = l.take i ++ x :: l.drop i
  | [], 0, _ => rfl
  | _ :: _, 0, _ => rfl
  | a :: l, i + 1, hi => by
    rw [List.insertIdx_succ_cons, insertIdx_eq_take_cons_drop x (l := l) (by simpa using hi)]
    rfl

omit [AndOp T] [DecidableEq T] in
/-- The rows above and below the row at `row_index`. -/
theorem exists_split_of_getElem? (hrow : self.masks[row_index]? = some (row_mask, row_thread)) :
    ∃ front back, self.masks = front ++ (row_mask, row_thread) :: back ∧
      front.length = row_index := by
  obtain ⟨hlt, hrow_eq⟩ := List.getElem?_eq_some_iff.mp hrow
  refine ⟨self.masks.take row_index, self.masks.drop (row_index + 1), ?_, ?_⟩
  · rw [← hrow_eq, List.getElem_cons_drop, List.take_append_drop]
  · simp only [List.length_take]
    omega

/-- The first row that matches, in rows split around one row. -/
theorem find?_split (front back : List (Bitmask T × U)) (row : Bitmask T × U) (bits : T) :
    (front ++ row :: back).find? (fun row => row.1.is_match bits) =
      (front.find? fun row => row.1.is_match bits).or
        (if row.1.is_match bits then some row
        else back.find? fun row => row.1.is_match bits) := by
  rw [List.find?_append, List.find?_cons]
  cases row.1.is_match bits <;> rfl

/-- An insert above a row, with a mask that only matches values the row matched, sends to the
    new thread exactly the values of that row's thread that the new mask matches, when that
    thread has no other row. -/
theorem find_match_insert_above [DecidableEq U]
    (hrow : self.masks[row_index]? = some (row_mask, row_thread))
    (hunique : (self.masks.map Prod.snd).Nodup) {mask : Bitmask T} (thread : U)
    (hnarrow : ∀ bits, mask.is_match bits = true → row_mask.is_match bits = true) (bits : T) :
    (self.insert_above row_index mask thread).2.find_match bits =
      if self.find_match bits = some row_thread ∧ mask.is_match bits = true then some thread
      else self.find_match bits := by
  obtain ⟨front, back, hmasks, hfront_length⟩ := exists_split_of_getElem? hrow
  have hlt : row_index < self.masks.length := (List.getElem?_eq_some_iff.mp hrow).1
  have hinserted : self.masks.insertIdx row_index (mask, thread) =
      front ++ (mask, thread) :: (row_mask, row_thread) :: back := by
    rw [insertIdx_eq_take_cons_drop _ (Nat.le_of_lt hlt), hmasks, ← hfront_length]
    simp
  have hfront : ∀ row ∈ front, row.2 ≠ row_thread := by
    intro row hmem hthread
    rw [hmasks, List.map_append, List.nodup_append] at hunique
    exact hunique.2.2 _ (List.mem_map_of_mem hmem) _ List.mem_cons_self hthread
  rcases self.insert_above_cases row_index mask thread with ⟨e, he⟩ | ⟨_, hok⟩
  · simp [insert_above, Nat.ne_of_lt hlt, hlt] at he
  rw [hok]
  simp only [find_match, rows]
  rw [hinserted]
  simp only [hmasks, find?_split, List.find?_cons]
  cases hfind : front.find? (fun row => row.1.is_match bits) with
  | some row =>
    have hne : row.2 ≠ row_thread := hfront row (List.mem_of_find?_eq_some hfind)
    simp [hne]
  | none =>
    by_cases hmatch : mask.is_match bits = true
    · simp [hmatch, hnarrow bits hmatch]
    · cases row_mask.is_match bits <;> simp [hmatch]

/-- A remove changes the target only of values the removed row routed. -/
theorem find_match_remove (hrow : self.masks[row_index]? = some (row_mask, row_thread))
    (bits : T) (hother : self.find_match bits ≠ some row_thread) :
    (self.remove row_index).2.find_match bits = self.find_match bits := by
  rcases self.remove_cases row_index with ⟨e, he⟩ | ⟨_, hok⟩
  · rw [he]
  obtain ⟨front, back, hmasks, hfront_length⟩ := exists_split_of_getElem? hrow
  have herased : self.masks.eraseIdx row_index = front ++ back := by
    rw [List.eraseIdx_eq_take_drop_succ, hmasks, ← hfront_length]
    simp
  rw [hok]
  simp only [find_match, rows] at hother ⊢
  rw [herased, hmasks, find?_split, List.find?_append]
  rw [hmasks, find?_split] at hother
  cases hfind : front.find? (fun row => row.1.is_match bits) with
  | some row => rfl
  | none =>
    by_cases hmatch : row_mask.is_match bits = true
    · simp [hfind, hmatch] at hother
    · simp [hmatch]

end FindMatch

end BitmasksTable

end ackinacki.bitmask
