import Mathlib.Data.List.AList

namespace ackinacki.multithreading.cross_thread_messaging

/-- `ReferencedBlock`. -/
structure ReferencedBlock (B T : Type) where
  block_thread_identifier : T
  block_identifier : B
  block_seq_no : Nat
  deriving DecidableEq, Repr

/-- The fields of `repository::CrossThreadRefData` the references read: the block, its thread,
    its parent, the blocks it references and the threads it spawns. -/
structure CrossThreadRefData (B T : Type) where
  block_identifier : B
  block_seq_no : Nat
  block_thread_identifier : T
  parent_block_identifier : B
  refs : List B
  spawned_threads : List T
  deriving DecidableEq, Repr

def CrossThreadRefData.as_reference_state_data {B T : Type} (self : CrossThreadRefData B T) :
    ReferencedBlock B T :=
  ⟨self.block_thread_identifier, self.block_identifier, self.block_seq_no⟩

/-- `ThreadReferencesState`: the tail of every known thread. -/
structure ThreadReferencesState (B T : Type) [DecidableEq T] where
  all_thread_refs : AList (fun _ : T => ReferencedBlock B T)

/-- Why a reference query fails: an `anyhow` error (from `get_ref_data` or an `ensure!`), a
    panic, or a loop running past its fuel. -/
inductive RefsError where
  | Anyhow (message : String)
  | Panic (message : String)
  | OutOfFuel
  deriving DecidableEq, Repr

variable {B T : Type} [DecidableEq B] [DecidableEq T]

/-- The `loop` of `walk_back_into_history`: the blocks from `cursor` back along parent links,
    newest first, up to (without) the first block at or before the tail of its thread. -/
def walk_back_loop (read : B → Except String (CrossThreadRefData B T))
    (cutoff : AList (fun _ : T => ReferencedBlock B T)) :
    Nat → CrossThreadRefData B T → List (CrossThreadRefData B T) →
      Except RefsError (List (CrossThreadRefData B T))
  | 0, _, _ => .error .OutOfFuel
  | fuel + 1, cursor, trail =>
    let cut : Bool :=
      match cutoff.lookup cursor.block_thread_identifier with
      | some thread_last_block => thread_last_block.block_seq_no ≥ cursor.block_seq_no
      | none => false
    if cut then
      match cutoff.lookup cursor.block_thread_identifier with
      | some thread_last_block =>
        if thread_last_block.block_seq_no = cursor.block_seq_no ∧
            thread_last_block.block_identifier ≠ cursor.block_identifier then
          .error (.Anyhow "Wrong state refs")
        else .ok trail
      | none => .ok trail
    else
      match read cursor.parent_block_identifier with
      | .error e => .error (.Anyhow e)
      | .ok parent => walk_back_loop read cutoff fuel parent (trail ++ [cursor])

def walk_back_into_history (read : B → Except String (CrossThreadRefData B T))
    (cutoff : AList (fun _ : T => ReferencedBlock B T)) (fuel : Nat) (cursor : B) :
    Except RefsError (List (CrossThreadRefData B T)) :=
  match read cursor with
  | .error e => .error (.Anyhow e)
  | .ok cursor => walk_back_loop read cutoff fuel cursor []

/-- The walk back never runs out of fuel when the fuel exceeds the cursor's sequence number:
    each step goes to a parent with a smaller one. -/
theorem walk_back_loop_ne_out_of_fuel {read : B → Except String (CrossThreadRefData B T)}
    {cutoff : AList (fun _ : T => ReferencedBlock B T)}
    (hparent : ∀ b block parent, read b = .ok block →
      read block.parent_block_identifier = .ok parent → parent.block_seq_no < block.block_seq_no) :
    ∀ fuel cursor trail, (∃ b, read b = .ok cursor) → cursor.block_seq_no < fuel →
      walk_back_loop read cutoff fuel cursor trail ≠ .error .OutOfFuel
  | 0, _, _, _, hfuel => absurd hfuel (Nat.not_lt_zero _)
  | fuel + 1, cursor, trail, ⟨b, hcursor⟩, hfuel => by
    unfold walk_back_loop
    dsimp only
    split_ifs
    · split
      · split_ifs <;> simp
      · simp
    · split
      · simp
      · next parent hread =>
        exact walk_back_loop_ne_out_of_fuel hparent fuel parent _ ⟨_, hread⟩
          (Nat.lt_of_lt_of_le (hparent b cursor parent hcursor hread) (Nat.lt_succ_iff.mp hfuel))

theorem walk_back_into_history_ne_out_of_fuel {read : B → Except String (CrossThreadRefData B T)}
    {cutoff : AList (fun _ : T => ReferencedBlock B T)}
    (hparent : ∀ b block parent, read b = .ok block →
      read block.parent_block_identifier = .ok parent → parent.block_seq_no < block.block_seq_no)
    {cursor : B} {block : CrossThreadRefData B T} (hcursor : read cursor = .ok block) {fuel : Nat}
    (hfuel : block.block_seq_no < fuel) :
    walk_back_into_history read cutoff fuel cursor ≠ .error .OutOfFuel := by
  unfold walk_back_into_history
  rw [hcursor]
  exact walk_back_loop_ne_out_of_fuel hparent fuel block [] ⟨cursor, hcursor⟩ hfuel

/-- The state of `can_reference`'s work list. The set of explicitly referenced blocks keeps the
    order of insertion, one of the orders a `HashSet` may iterate in. -/
structure CanReferenceState (B T : Type) [DecidableEq T] where
  tails : AList (fun _ : T => ReferencedBlock B T)
  stack : List B
  all_referenced_blocks : List (ReferencedBlock B T)
  explicitly_referenced_set : List B

/-- The body of the `for` over a trail, oldest block first: move the tail of its thread when it
    is newer, count it as explicit when no tail had it before the query, and queue its refs. -/
def visit_block (previously_referenced_set : List B) (state : CanReferenceState B T)
    (block : CrossThreadRefData B T) : CanReferenceState B T :=
  let referenced_block := block.as_reference_state_data
  let thread_id := block.block_thread_identifier
  let should_update : Bool :=
    match state.tails.lookup thread_id with
    | some existing => block.block_seq_no > existing.block_seq_no
    | none => true
  let state :=
    if should_update then
      { state with
        tails := state.tails.insert thread_id referenced_block
        explicitly_referenced_set :=
          if referenced_block.block_identifier ∉ previously_referenced_set ∧
              referenced_block.block_identifier ∉ state.explicitly_referenced_set then
            state.explicitly_referenced_set ++ [referenced_block.block_identifier]
          else state.explicitly_referenced_set }
    else state
  { state with
    all_referenced_blocks := state.all_referenced_blocks ++ [referenced_block]
    stack := state.stack ++ block.refs }

/-- The `while let Some(cursor) = stack.pop_front()` loop of `can_reference`. -/
def can_reference_loop (read : B → Except String (CrossThreadRefData B T))
    (previously_referenced_set : List B) :
    Nat → CanReferenceState B T → Except RefsError (CanReferenceState B T)
  | 0, _ => .error .OutOfFuel
  | fuel + 1, state =>
    match state.stack with
    | [] => .ok state
    | cursor :: stack =>
      match walk_back_into_history read state.tails fuel cursor with
      | .error e => .error e
      | .ok trail =>
        can_reference_loop read previously_referenced_set fuel
          (trail.reverse.foldl (visit_block previously_referenced_set) { state with stack })

/-- `ResultingState`. -/
structure ResultingState (B : Type) where
  implicitly_referenced_blocks : List B
  explicitly_referenced_blocks : List B

/-- `CanRefQueryResult`. -/
inductive CanRefQueryResult (B : Type) where
  | No
  | Yes (result : ResultingState B)

namespace ThreadReferencesState

/-- `ThreadReferencesState::can_reference`: the blocks a query imports, split into those no tail
    had before (explicit) and the rest (implicit). -/
def can_reference (self : ThreadReferencesState B T) (explicit_references : List B)
    (get_ref_data : B → Except String (CrossThreadRefData B T)) (fuel : Nat) :
    Except RefsError (CanRefQueryResult B) :=
  if explicit_references.isEmpty then .ok (.Yes ⟨[], []⟩)
  else
    let previously_referenced_set :=
      self.all_thread_refs.entries.map fun entry => entry.2.block_identifier
    match can_reference_loop get_ref_data previously_referenced_set fuel
        ⟨self.all_thread_refs, explicit_references, [], []⟩ with
    | .error e => .error e
    | .ok state =>
      let explicitly_referenced_blocks := state.explicitly_referenced_set
      let implicitly_referenced_blocks :=
        (state.all_referenced_blocks.filter fun e =>
          e.block_identifier ∉ explicitly_referenced_blocks).map fun e => e.block_identifier
      .ok (.Yes ⟨implicitly_referenced_blocks, explicitly_referenced_blocks⟩)

end ThreadReferencesState

/-- `keep_tails`: the newest block of each thread among the given ones. -/
def keep_tails (referenced_blocks : List (ReferencedBlock B T)) : List (ReferencedBlock B T) :=
  let tails := referenced_blocks.foldl
    (fun (tails : AList (fun _ : T => ReferencedBlock B T)) block =>
      match tails.lookup block.block_thread_identifier with
      | some e =>
        if block.block_seq_no > e.block_seq_no then tails.insert block.block_thread_identifier block
        else tails
      | none => tails.insert block.block_thread_identifier block)
    ∅
  tails.entries.map fun entry => entry.2

namespace ThreadReferencesState

/-- The "phantoms" of `move_refs`: a referenced block becomes the tail of every thread it
    spawns. -/
def add_phantoms (get_ref_data : B → Except String (CrossThreadRefData B T))
    (all_thread_refs : AList (fun _ : T => ReferencedBlock B T)) (all_refs : List B) :
    Except RefsError (AList (fun _ : T => ReferencedBlock B T)) :=
  all_refs.foldlM
    (fun all_thread_refs block_id =>
      match get_ref_data block_id with
      | .error e => .error (.Anyhow e)
      | .ok referenced_block =>
        .ok (referenced_block.spawned_threads.foldl
          (fun all_thread_refs spawned_thread =>
            all_thread_refs.insert spawned_thread referenced_block.as_reference_state_data)
          all_thread_refs))
    all_thread_refs

/-- `ThreadReferencesState::move_refs`: import the blocks a new block references, move the
    tails, and return the data of every imported block. On an error the caller, `preprocess`,
    drops the whole state, so a failed call keeps none of its changes. -/
def move_refs (self : ThreadReferencesState B T) (refs : List B)
    (get_ref_data : B → Except String (CrossThreadRefData B T)) (fuel : Nat) :
    Except RefsError (List (CrossThreadRefData B T) × ThreadReferencesState B T) :=
  match self.can_reference refs get_ref_data fuel with
  | .error e => .error e
  | .ok .No => .error (.Anyhow "Can not reference to the given set of refs")
  | .ok (.Yes ⟨implicitly_referenced_blocks, explicitly_referenced_blocks⟩) =>
    let all_refs := explicitly_referenced_blocks ++ implicitly_referenced_blocks
    match add_phantoms get_ref_data self.all_thread_refs all_refs with
    | .error e => .error e
    | .ok all_thread_refs =>
      match all_refs.mapM get_ref_data with
      | .error _ => .error (.Panic "must be here")
      | .ok referenced =>
        let all_thread_refs :=
          (keep_tails (referenced.map CrossThreadRefData.as_reference_state_data)).foldl
            (fun all_thread_refs e => all_thread_refs.insert e.block_thread_identifier e)
            all_thread_refs
        .ok (referenced, ⟨all_thread_refs⟩)

end ThreadReferencesState

end ackinacki.multithreading.cross_thread_messaging
