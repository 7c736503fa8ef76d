import Mathlib.Algebra.BigOperators.Group.Finset.Piecewise
import Mathlib.Data.Fintype.Basic
import AckiNacki.Finalization.TryFinalize
import AckiNacki.AuthoritySwitch.ActionLock

namespace ackinacki.node.block_state.tools

open ackinacki.node.block_state
open ackinacki.node.services.finalization (FinalizationError invalidate_branch
  invalidate_branch_loop)
open ackinacki.protocol.authority_switch
open ackinacki.protocol.authority_switch.ThreadAuthority (NextRoundSuccess)
open ackinacki.types (BlockHeight)

variable {B T S P : Type}

section Operations

variable [DecidableEq B] [DecidableEq T]

/-- `do_link`: the parent learns its child; a child of an invalidated parent is invalidated with
    its descendants, and a child of a finalized parent learns that. The panic for a parent with
    both flags is given without the block identifier its text names. -/
def do_link (parent child : B) (block_state_repository : B → AckiNackiBlockState B T)
    (fuel : Nat) : Except FinalizationError (B → AckiNackiBlockState B T) :=
  match (block_state_repository child).thread_identifier with
  | none => .error (.Panic
      "It is not possible to connect a child that has no thread identifier information set.")
  | some _ =>
    let states := Function.update block_state_repository parent
      ((block_state_repository parent).add_child child)
    let is_parent_finalized := (states parent).is_finalized
    let is_parent_invalidated := (states parent).is_invalidated
    if is_parent_invalidated && is_parent_finalized then
      .error (.Panic "Critical: wrong block state. Block is invalidated and finalized at the same time")
    else do
      let states ← if is_parent_invalidated then invalidate_branch child states fuel
        else pure states
      let states := Function.update states child ((states child).set_parent_block_identifier parent)
      pure (if is_parent_finalized then
        Function.update states child (states child).set_has_parent_finalized else states)

/-- The part of the finalization service's `on_block_finalized` that writes block states: the
    block is marked finalized (`mark_block_as_finalized`), and its known children learn that
    their parent is. -/
def on_block_finalized (block_state_repository : B → AckiNackiBlockState B T) (block_id : B) :
    B → AckiNackiBlockState B T :=
  let states := Function.update block_state_repository block_id
    (block_state_repository block_id).set_finalized
  (states block_id).known_children.foldl
    (fun states child => Function.update states child (states child).set_has_parent_finalized)
    states

/-- What the operations act on: the block states, and the authority of each thread. -/
structure Node (B T S P : Type) where
  states : B → AckiNackiBlockState B T
  authority : T → ThreadAuthority B (BlockHeight T) S P

/-- An operation that sets a flag. -/
inductive Operation (B T : Type) where
  | link (parent child : B)
  | finalize (block_identifier : B)
  | invalidate (block_identifier : B)
  | next_round_success (message : NextRoundSuccess B (BlockHeight T))

/-- The lock handling's view of the blocks, its flags read from the block states. -/
def with_flags {H : Type} (env : Env B H S P) (states : B → AckiNackiBlockState B T) :
    Env B H S P :=
  { env with block_state := fun block_identifier =>
      { env.block_state block_identifier with
        is_finalized := (states block_identifier).is_finalized
        is_invalidated := (states block_identifier).is_invalidated } }

/-- One operation; `fuel` bounds each walk of `invalidate_branch`. -/
def apply [Inhabited B] (env : Env B (BlockHeight T) S P) (fuel : Nat) (node : Node B T S P) :
    Operation B T → Except FinalizationError (Node B T S P)
  | .link parent child =>
    (do_link parent child node.states fuel).map fun states => { node with states }
  | .finalize block_id =>
    let block_state := node.states block_id
    if !block_state.is_finalized && block_state.can_be_finalized then
      match block_state.block_height, block_state.block_seq_no, block_state.attestation_target,
        block_state.thread_identifier with
      | some height, some _, some _, some thread_identifier =>
        .ok { states := on_block_finalized node.states block_id
              authority := Function.update node.authority thread_identifier
                ((node.authority thread_identifier).on_block_finalized ⟨thread_identifier, height⟩) }
      | _, _, _, _ => .ok node
    else .ok node
  | .invalidate block_id =>
    if (node.states block_id).is_finalized then .ok node
    else (invalidate_branch block_id node.states fuel).map fun states => { node with states }
  | .next_round_success message =>
    let thread_identifier := message.block_height.thread_identifier
    match (node.authority thread_identifier).on_next_round_success (with_flags env node.states)
        message with
    | none => .error (.Panic "called `Result::unwrap()` on an `Err` value")
    | some (authority, to_invalidate) =>
      let node := { node with
        authority := Function.update node.authority thread_identifier authority }
      match to_invalidate with
      | none => .ok node
      | some abandoned =>
        (invalidate_branch abandoned.2.block_identifier node.states fuel).map fun states =>
          { node with states }

/-- A run of operations, stopping at the first panic. -/
def run [Inhabited B] (env : Env B (BlockHeight T) S P) (fuel : Nat) (node : Node B T S P)
    (operations : List (Operation B T)) : Except FinalizationError (Node B T S P) :=
  operations.foldlM (apply env fuel) node

end Operations

/-- `states'` is `states` with some blocks that are not finalized invalidated. -/
def InvalidatedFrom (states states' : B → AckiNackiBlockState B T) : Prop :=
  ∀ b, states' b = states b ∨
    ((states b).is_finalized = false ∧ states' b = (states b).set_invalidated)

namespace InvalidatedFrom

variable {states states' states'' : B → AckiNackiBlockState B T}

theorem refl (states : B → AckiNackiBlockState B T) : InvalidatedFrom states states :=
  fun _ => .inl rfl

theorem trans (h : InvalidatedFrom states states') (h' : InvalidatedFrom states' states'') :
    InvalidatedFrom states states'' := by
  intro b
  rcases h b with hb | ⟨hfin, hb⟩ <;> rcases h' b with hb' | ⟨hfin', hb'⟩
  · exact .inl (hb'.trans hb)
  · exact .inr ⟨by rw [← hb]; exact hfin', by rw [hb', hb]⟩
  · exact .inr ⟨hfin, hb'.trans hb⟩
  · exact .inr ⟨hfin, by rw [hb', hb]; rfl⟩

theorem update [DecidableEq B] (states : B → AckiNackiBlockState B T) {b : B}
    (hb : (states b).is_finalized = false) :
    InvalidatedFrom states (Function.update states b (states b).set_invalidated) := by
  intro x
  by_cases hx : x = b
  · subst hx
    exact .inr ⟨hb, by simp⟩
  · exact .inl (by simp [hx])

/-- What the walk leaves as it was: the finalized flag, the children, and whether the parent is
    known to be finalized. -/
theorem frame (h : InvalidatedFrom states states') (b : B) :
    (states' b).is_finalized = (states b).is_finalized ∧
      (states' b).known_children = (states b).known_children ∧
      (states' b).has_parent_finalized = (states b).has_parent_finalized := by
  rcases h b with hb | ⟨-, hb⟩ <;> rw [hb] <;> exact ⟨rfl, rfl, rfl⟩

end InvalidatedFrom

section Invariant

variable (parent_of : B → Option B)

/-- The flags agree with each other and with the parents: no block is finalized and
    invalidated, the known children of a block are its children, a block told that its parent is
    finalized has a finalized parent, and so has every finalized block. -/
structure Consistent (states : B → AckiNackiBlockState B T) : Prop where
  not_invalidated : ∀ b, (states b).is_finalized → (states b).is_invalidated = false
  children : ∀ b, ∀ c ∈ (states b).known_children, parent_of c = some b
  has_parent_finalized : ∀ b, (states b).has_parent_finalized = some true →
    ∃ p, parent_of b = some p ∧ (states p).is_finalized
  finalized_parent : ∀ b p, (states b).is_finalized → parent_of b = some p →
    (states p).is_finalized

variable {parent_of} {states states' : B → AckiNackiBlockState B T}

theorem Consistent.of_invalidated_from (hcons : Consistent parent_of states)
    (h : InvalidatedFrom states states') : Consistent parent_of states' where
  not_invalidated b hfin := by
    rcases h b with hb | ⟨hnot, hb⟩
    · rw [hb] at hfin ⊢
      exact hcons.not_invalidated b hfin
    · rw [hb, AckiNackiBlockState.is_finalized_set_invalidated, hnot] at hfin
      cases hfin
  children b c hc := hcons.children b c (by rwa [(h.frame b).2.1] at hc)
  has_parent_finalized b hb := by
    obtain ⟨p, hp, hfin⟩ := hcons.has_parent_finalized b (by rwa [(h.frame b).2.2] at hb)
    exact ⟨p, hp, by rwa [(h.frame p).1]⟩
  finalized_parent b p hb hp := by
    rw [(h.frame b).1] at hb
    rw [(h.frame p).1]
    exact hcons.finalized_parent b p hb hp

theorem Consistent.not_finalized_of_invalidated (hcons : Consistent parent_of states) {b : B}
    (hinv : (states b).is_invalidated = true) : (states b).is_finalized = false := by
  cases hfin : (states b).is_finalized
  · rfl
  · have hnot := hcons.not_invalidated b hfin
    rw [hinv] at hnot
    cases hnot

/-- A block whose parent is not finalized is not finalized either. -/
theorem Consistent.not_finalized_of_parent (hcons : Consistent parent_of states) {b p : B}
    (hp : parent_of b = some p) (hpfin : (states p).is_finalized = false) :
    (states b).is_finalized = false := by
  cases hfin : (states b).is_finalized
  · rfl
  · have hparent := hcons.finalized_parent b p hfin hp
    rw [hpfin] at hparent
    cases hparent

variable [DecidableEq B]

/-- The walk of `invalidate_branch` from blocks that are not finalized never meets a finalized
    one: it runs out of fuel, or it invalidates some blocks that are not finalized. -/
theorem invalidate_branch_loop_spec : ∀ (fuel : Nat) (states : B → AckiNackiBlockState B T)
    (to_process : List B), Consistent parent_of states →
    (∀ b ∈ to_process, (states b).is_finalized = false) →
    invalidate_branch_loop states fuel to_process = .error .OutOfFuel ∨
      ∃ states', invalidate_branch_loop states fuel to_process = .ok states' ∧
        InvalidatedFrom states states'
  | 0, _, _, _, _ => .inl rfl
  | _ + 1, states, [], _, _ => .inr ⟨states, rfl, .refl states⟩
  | fuel + 1, states, next :: to_process, hcons, hqueue => by
    have hnext : (states next).is_finalized = false := hqueue next List.mem_cons_self
    by_cases hinv : (states next).is_invalidated
    · have hrest := invalidate_branch_loop_spec fuel states to_process hcons
        (fun b hb => hqueue b (List.mem_cons_of_mem _ hb))
      simpa [invalidate_branch_loop, hnext, hinv] using hrest
    · have hframe := InvalidatedFrom.update states hnext
      have hqueue' : ∀ b ∈ to_process ++ (states next).known_children,
          (Function.update states next (states next).set_invalidated b).is_finalized = false := by
        intro b hb
        rw [(hframe.frame b).1]
        rcases List.mem_append.mp hb with hb | hb
        · exact hqueue b (List.mem_cons_of_mem _ hb)
        · exact hcons.not_finalized_of_parent (hcons.children next b hb) hnext
      rcases invalidate_branch_loop_spec fuel _ _ (hcons.of_invalidated_from hframe) hqueue' with
        hfuel | ⟨states', hloop, hframe'⟩
      · left
        simpa [invalidate_branch_loop, hnext, hinv] using hfuel
      · right
        exact ⟨states', by simpa [invalidate_branch_loop, hnext, hinv] using hloop,
          hframe.trans hframe'⟩

/-- What the walk still has to visit: the queue, and the children of every block it may still
    invalidate. Each turn of the loop takes one off, so the walk ends on every finite graph,
    cycles included. -/
def pending [Fintype B] (states : B → AckiNackiBlockState B T) (to_process : List B) : Nat :=
  to_process.length +
    ∑ b, if (states b).is_invalidated then 0 else (states b).known_children.length

omit [DecidableEq B] in
theorem pending_cons [Fintype B] (states : B → AckiNackiBlockState B T) (next : B)
    (to_process : List B) : pending states (next :: to_process) = pending states to_process + 1 := by
  simp only [pending, List.length_cons]
  omega

/-- Invalidating the next block moves its children from the sum into the queue. -/
theorem pending_invalidate [Fintype B] (states : B → AckiNackiBlockState B T) {next : B}
    (hinv : (states next).is_invalidated = false) (to_process : List B) :
    pending (Function.update states next (states next).set_invalidated)
        (to_process ++ (states next).known_children) + 1 =
      pending states (next :: to_process) := by
  have hsum : (∑ b, if (Function.update states next (states next).set_invalidated b).is_invalidated
        then 0 else (Function.update states next (states next).set_invalidated b).known_children.length) =
      ∑ b, Function.update (fun b => if (states b).is_invalidated then 0
        else (states b).known_children.length) next 0 b := by
    refine Finset.sum_congr rfl fun b _ => ?_
    by_cases hb : b = next
    · subst hb
      rw [Function.update_self, Function.update_self,
        AckiNackiBlockState.is_invalidated_set_invalidated, if_pos rfl]
    · simp [hb]
  have hsplit := Finset.sum_eq_add_sum_sdiff_singleton_of_mem (Finset.mem_univ next)
    (fun b => if (states b).is_invalidated then 0 else (states b).known_children.length)
  simp only [pending, hsum, Finset.sum_update_of_mem (Finset.mem_univ next), hsplit, hinv,
    List.length_append, List.length_cons]
  simp
  omega

/-- A change to a block that stays invalidated changes nothing the walk still has to visit. -/
theorem pending_update_of_invalidated [Fintype B] (states : B → AckiNackiBlockState B T) {b : B}
    {state : AckiNackiBlockState B T} (hold : (states b).is_invalidated = true)
    (hnew : state.is_invalidated = true) (to_process : List B) :
    pending (Function.update states b state) to_process = pending states to_process := by
  simp only [pending, Nat.add_left_cancel_iff]
  refine Finset.sum_congr rfl fun b' _ => ?_
  by_cases hb : b' = b
  · subst hb
    simp [hold, hnew]
  · simp [hb]

/-- **The walk of `invalidate_branch` terminates**: with more fuel than `pending`, it never runs
    out of it. -/
theorem invalidate_branch_loop_ne_out_of_fuel [Fintype B] : ∀ (fuel : Nat)
    (states : B → AckiNackiBlockState B T) (to_process : List B),
    pending states to_process < fuel →
      invalidate_branch_loop states fuel to_process ≠ .error .OutOfFuel
  | 0, _, _, h => absurd h (Nat.not_lt_zero _)
  | _ + 1, _, [], _ => by simp [invalidate_branch_loop]
  | fuel + 1, states, next :: to_process, h => by
    by_cases hfin : (states next).is_finalized
    · simp [invalidate_branch_loop, hfin]
    · by_cases hinv : (states next).is_invalidated
      · rw [pending_cons] at h
        simpa [invalidate_branch_loop, hfin, hinv] using
          invalidate_branch_loop_ne_out_of_fuel fuel states to_process (by omega)
      · have hdrop := pending_invalidate states (by simpa using hinv) to_process
        simpa [invalidate_branch_loop, hfin, hinv] using
          invalidate_branch_loop_ne_out_of_fuel fuel _ _ (by omega)

/-- With enough fuel, the walk from a block that is not finalized ends well. -/
theorem invalidate_branch_eq_ok [Fintype B] (hcons : Consistent parent_of states) {root : B}
    (hroot : (states root).is_finalized = false) {fuel : Nat} (hfuel : pending states [root] < fuel) :
    ∃ states', invalidate_branch root states fuel = .ok states' ∧ InvalidatedFrom states states' := by
  rcases invalidate_branch_loop_spec fuel states [root] hcons (by simpa using hroot) with
    hout | hok
  · exact absurd hout (invalidate_branch_loop_ne_out_of_fuel fuel states [root] hfuel)
  · exact hok

/-- A walk that ends well started from a block that is not finalized. -/
theorem invalidate_branch_spec (hcons : Consistent parent_of states) {root : B} {fuel : Nat}
    (h : invalidate_branch root states fuel = .ok states') : InvalidatedFrom states states' := by
  cases fuel with
  | zero => cases h
  | succ fuel =>
    cases hfin : (states root).is_finalized
    · rcases invalidate_branch_loop_spec (fuel + 1) states [root] hcons (by simpa using hfin) with
        hfuel | ⟨states'', hloop, hframe⟩
      · rw [invalidate_branch, hfuel] at h
        cases h
      · rw [invalidate_branch, hloop] at h
        cases h
        exact hframe
    · simp [invalidate_branch, invalidate_branch_loop, hfin] at h

/-- A block's state may change where the flags stay, the new children are the block's, and the
    parent is finalized if the block is told so. -/
theorem Consistent.update (hcons : Consistent parent_of states) (b : B)
    (state : AckiNackiBlockState B T) (hfin : state.is_finalized = (states b).is_finalized)
    (hinv : state.is_invalidated = (states b).is_invalidated)
    (hchildren : ∀ c ∈ state.known_children, parent_of c = some b)
    (hparent : state.has_parent_finalized = some true →
      ∃ p, parent_of b = some p ∧ (states p).is_finalized) :
    Consistent parent_of (Function.update states b state) := by
  have hflags : ∀ x, (Function.update states b state x).is_finalized = (states x).is_finalized := by
    intro x
    by_cases hx : x = b
    · subst hx
      simpa using hfin
    · simp [hx]
  constructor
  · intro x hx
    by_cases hxb : x = b
    · subst hxb
      simp only [Function.update_self] at hx ⊢
      rw [hinv]
      exact hcons.not_invalidated x (hfin ▸ hx)
    · simp only [Function.update_of_ne hxb] at hx ⊢
      exact hcons.not_invalidated x hx
  · intro x c hc
    by_cases hxb : x = b
    · subst hxb
      exact hchildren c (by simpa using hc)
    · exact hcons.children x c (by simpa [hxb] using hc)
  · intro x hx
    simp only [hflags]
    by_cases hxb : x = b
    · subst hxb
      exact hparent (by simpa using hx)
    · exact hcons.has_parent_finalized x (by simpa [hxb] using hx)
  · intro x p hx hp
    rw [hflags] at hx ⊢
    exact hcons.finalized_parent x p hx hp

/-- Finalizing a block that is not invalidated and whose parent is known to be finalized. -/
theorem Consistent.set_finalized (hcons : Consistent parent_of states) {b : B}
    (hinv : (states b).is_invalidated = false)
    (hparent : (states b).has_parent_finalized = some true) :
    Consistent parent_of (Function.update states b (states b).set_finalized) := by
  have hgrow : ∀ x, (states x).is_finalized →
      (Function.update states b (states b).set_finalized x).is_finalized := by
    intro x hx
    by_cases hxb : x = b
    · subst hxb
      rw [Function.update_self, AckiNackiBlockState.is_finalized_set_finalized]
    · simpa [hxb] using hx
  obtain ⟨p, hp, hpfin⟩ := hcons.has_parent_finalized b hparent
  constructor
  · intro x hx
    by_cases hxb : x = b
    · subst hxb
      simpa [AckiNackiBlockState.set_finalized, AckiNackiBlockState.is_invalidated] using hinv
    · simp only [Function.update_of_ne hxb] at hx ⊢
      exact hcons.not_invalidated x hx
  · intro x c hc
    by_cases hxb : x = b
    · subst hxb
      exact hcons.children x c (by simpa [AckiNackiBlockState.set_finalized] using hc)
    · exact hcons.children x c (by simpa [hxb] using hc)
  · intro x hx
    have hx' : (states x).has_parent_finalized = some true := by
      by_cases hxb : x = b
      · subst hxb
        simpa [AckiNackiBlockState.set_finalized] using hx
      · simpa [hxb] using hx
    obtain ⟨q, hq, hqfin⟩ := hcons.has_parent_finalized x hx'
    exact ⟨q, hq, hgrow q hqfin⟩
  · intro x q hx hq
    by_cases hxb : x = b
    · subst hxb
      rw [hp, Option.some.injEq] at hq
      subst hq
      exact hgrow p hpfin
    · exact hgrow q (hcons.finalized_parent x q (by simpa [hxb] using hx) hq)

/-- The end of a link: the child records its parent, and learns whether it is finalized. -/
theorem Consistent.link_child (hcons : Consistent parent_of states) {parent child : B}
    (hparent : parent_of child = some parent) (is_parent_finalized : Bool)
    (hfin : is_parent_finalized = true → (states parent).is_finalized = true) :
    Consistent parent_of
      (let states := Function.update states child
        ((states child).set_parent_block_identifier parent)
      if is_parent_finalized then
        Function.update states child (states child).set_has_parent_finalized else states) := by
  have hrecorded := hcons.update child ((states child).set_parent_block_identifier parent)
    (AckiNackiBlockState.is_finalized_set_parent_block_identifier _ parent)
    (AckiNackiBlockState.is_invalidated_set_parent_block_identifier _ parent)
    (fun c hc => hcons.children child c
      (by rwa [AckiNackiBlockState.known_children_set_parent_block_identifier] at hc))
    (fun h => hcons.has_parent_finalized child
      (by rwa [AckiNackiBlockState.has_parent_finalized_set_parent_block_identifier] at h))
  cases is_parent_finalized with
  | false => exact hrecorded
  | true =>
    refine hrecorded.update child _ (AckiNackiBlockState.is_finalized_set_has_parent_finalized _)
      (AckiNackiBlockState.is_invalidated_set_has_parent_finalized _) (fun c hc => ?_) (fun _ => ?_)
    · rw [AckiNackiBlockState.known_children_set_has_parent_finalized] at hc
      exact hrecorded.children child c hc
    · refine ⟨parent, hparent, ?_⟩
      by_cases hsame : parent = child
      · subst hsame
        simpa using hfin rfl
      · simpa [Function.update_of_ne hsame] using hfin rfl

/-- Whatever a walk that ends well is mapped into keeps the flags it leaves. -/
theorem Consistent.of_invalidate_branch_map {α : Type} (hcons : Consistent parent_of states)
    {root : B} {fuel : Nat} {f : (B → AckiNackiBlockState B T) → α} {g : α → B → AckiNackiBlockState B T}
    (hf : ∀ states', g (f states') = states') {a : α}
    (h : (invalidate_branch root states fuel).map f = .ok a) : Consistent parent_of (g a) := by
  obtain ⟨states', hwalk, rfl⟩ := Iterate.except_map_eq_ok.mp h
  rw [hf]
  exact hcons.of_invalidated_from (invalidate_branch_spec hcons hwalk)

/-- A link that follows `parent_of`, of a child with a thread, keeps the flags consistent; it
    fails only when the walk over an invalidated parent's new branch runs out of fuel. -/
theorem do_link_spec (hcons : Consistent parent_of states) {parent child : B} (fuel : Nat)
    (hparent : parent_of child = some parent) {thread : T}
    (hthread : (states child).thread_identifier = some thread) :
    (states parent).is_invalidated = true ∧
        invalidate_branch_loop (Function.update states parent ((states parent).add_child child))
          fuel [child] = .error .OutOfFuel ∧
        do_link parent child states fuel = .error .OutOfFuel ∨
      ∃ states', do_link parent child states fuel = .ok states' ∧ Consistent parent_of states' := by
  have hadded := hcons.update parent ((states parent).add_child child) (by simp) (by simp)
    (fun c hc => by
      rcases (AckiNackiBlockState.mem_known_children_add_child _ _).mp hc with hc | rfl
      · exact hcons.children parent c hc
      · exact hparent)
    (fun h => hcons.has_parent_finalized parent (by simpa using h))
  set added := Function.update states parent ((states parent).add_child child) with hadded_def
  have hflags : (added parent).is_finalized = (states parent).is_finalized ∧
      (added parent).is_invalidated = (states parent).is_invalidated := by
    simp [hadded_def]
  simp only [do_link, hthread, ← hadded_def]
  cases hinv : (added parent).is_invalidated with
  | false =>
    right
    refine ⟨_, ?_, hadded.link_child hparent (added parent).is_finalized id⟩
    simp [bind, Except.bind, pure, Except.pure]
  | true =>
    have hnot := hadded.not_finalized_of_invalidated hinv
    have hchild : ∀ b ∈ [child], (added b).is_finalized = false := by
      intro b hb
      rw [List.mem_singleton.mp hb]
      exact hadded.not_finalized_of_parent hparent hnot
    rcases invalidate_branch_loop_spec fuel added [child] hadded hchild with
      hfuel | ⟨walked, hwalk, hframe⟩
    · left
      exact ⟨hflags.2 ▸ hinv, hfuel, by simp [hnot, invalidate_branch, hfuel, bind, Except.bind]⟩
    · right
      refine ⟨_, ?_, (hadded.of_invalidated_from hframe).link_child hparent
        (added parent).is_finalized (fun h => by rw [hnot] at h; cases h)⟩
      simp [hnot, invalidate_branch, hwalk, bind, Except.bind, pure, Except.pure]

/-- With fuel enough to walk the branch from the child, such a link ends well. -/
theorem do_link_eq_ok [Fintype B] (hcons : Consistent parent_of states) {parent child : B}
    {fuel : Nat} (hparent : parent_of child = some parent) {thread : T}
    (hthread : (states child).thread_identifier = some thread)
    (hfuel : pending states [child] < fuel) :
    ∃ states', do_link parent child states fuel = .ok states' ∧ Consistent parent_of states' := by
  rcases do_link_spec hcons fuel hparent hthread with ⟨hinv, hwalk, -⟩ | hok
  · have hpending : pending (Function.update states parent ((states parent).add_child child))
        [child] = pending states [child] :=
      pending_update_of_invalidated states hinv (by simpa using hinv) [child]
    exact absurd hwalk (invalidate_branch_loop_ne_out_of_fuel fuel _ [child] (hpending ▸ hfuel))
  · exact hok

/-- Finalizing a ready block: it is marked finalized, and its children learn it. -/
theorem Consistent.on_block_finalized (hcons : Consistent parent_of states) {b : B}
    (hready : (states b).can_be_finalized = true) :
    Consistent parent_of (on_block_finalized states b) := by
  obtain ⟨hinv, hparent⟩ := AckiNackiBlockState.flags_of_can_be_finalized hready
  have hmarked := hcons.set_finalized hinv hparent
  refine (Iterate.foldl_invariant (fun t => Consistent parent_of t ∧ (t b).is_finalized = true)
    (fun c hc t ht => ?_)
    ⟨hmarked, by rw [Function.update_self, AckiNackiBlockState.is_finalized_set_finalized]⟩).1
  obtain ⟨ht, hb⟩ := ht
  have hcb : parent_of c = some b := hmarked.children b c hc
  refine ⟨ht.update c _ (AckiNackiBlockState.is_finalized_set_has_parent_finalized _)
    (AckiNackiBlockState.is_invalidated_set_has_parent_finalized _)
    (fun d hd => ht.children c d
      (by rwa [AckiNackiBlockState.known_children_set_has_parent_finalized] at hd))
    (fun _ => ⟨b, hcb, hb⟩), ?_⟩
  by_cases hsame : b = c
  · subst hsame
    rwa [Function.update_self, AckiNackiBlockState.is_finalized_set_has_parent_finalized]
  · simpa [Function.update_of_ne hsame] using hb

/-- Which operations follow the parents: a link joins a block to its parent. -/
def Operation.follows (parent_of : B → Option B) : Operation B T → Prop
  | .link parent child => parent_of child = some parent
  | _ => True

variable [DecidableEq T] [Inhabited B] {env : Env B (BlockHeight T) S P} {fuel : Nat}
  {node node' : Node B T S P}

/-- Every operation that follows the parents and ends well keeps the flags consistent. -/
theorem apply_consistent {operation : Operation B T} (hfollows : operation.follows parent_of)
    (hcons : Consistent parent_of node.states) (h : apply env fuel node operation = .ok node') :
    Consistent parent_of node'.states := by
  cases operation with
  | link parent child =>
    obtain ⟨states', hlink, rfl⟩ := Iterate.except_map_eq_ok.mp h
    cases hthread : (node.states child).thread_identifier with
    | none => simp [do_link, hthread] at hlink
    | some thread =>
      rcases do_link_spec hcons fuel hfollows hthread with hfuel | ⟨states'', hlink', hcons'⟩
      · rw [hfuel.2.2] at hlink
        cases hlink
      · rw [hlink'] at hlink
        cases hlink
        exact hcons'
  | finalize block_id =>
    simp only [apply] at h
    split_ifs at h with hready
    · split at h
      · cases h
        simp only [Bool.and_eq_true, Bool.not_eq_true'] at hready
        exact hcons.on_block_finalized hready.2
      · cases h
        exact hcons
    · cases h
      exact hcons
  | invalidate block_id =>
    simp only [apply] at h
    split_ifs at h
    · cases h
      exact hcons
    · exact hcons.of_invalidate_branch_map (fun _ => rfl) h
  | next_round_success message =>
    simp only [apply] at h
    split at h
    · cases h
    · split at h
      · cases h
        exact hcons
      · exact hcons.of_invalidate_branch_map (fun _ => rfl) h

/-- **The flags stay consistent over every run** whose links follow the parents. -/
theorem run_consistent {operations : List (Operation B T)}
    (hfollows : ∀ operation ∈ operations, operation.follows parent_of)
    (hcons : Consistent parent_of node.states) (h : run env fuel node operations = .ok node') :
    Consistent parent_of node'.states :=
  Iterate.foldlM_except_invariant (fun node => Consistent parent_of node.states)
    (fun operation hmem _ _ hstep ht => apply_consistent (hfollows operation hmem) ht hstep) h hcons

/-- **No assertion fails but through a `NextRoundSuccess`.** Every other operation that follows the
    parents, linking only children with a thread, ends well and keeps the flags consistent, given
    fuel enough to walk the branch from any block. -/
theorem apply_ok_of_not_next_round_success [Fintype B] {operation : Operation B T}
    (hfollows : operation.follows parent_of) (hcons : Consistent parent_of node.states)
    (hthread : ∀ parent child, operation = .link parent child →
      (node.states child).thread_identifier.isSome)
    (hlock : ∀ message, operation ≠ .next_round_success message)
    (hfuel : ∀ b, pending node.states [b] < fuel) :
    ∃ node', apply env fuel node operation = .ok node' ∧ Consistent parent_of node'.states := by
  suffices hok : ∃ node', apply env fuel node operation = .ok node' by
    obtain ⟨node', h⟩ := hok
    exact ⟨node', h, apply_consistent hfollows hcons h⟩
  cases operation with
  | link parent child =>
    obtain ⟨thread, hthread'⟩ := Option.isSome_iff_exists.mp (hthread parent child rfl)
    obtain ⟨states', hlink, -⟩ := do_link_eq_ok hcons hfollows hthread' (hfuel child)
    exact ⟨{ node with states := states' }, by simp [apply, hlink, Except.map]⟩
  | finalize block_id =>
    cases h : apply env fuel node (.finalize block_id) with
    | error e =>
      simp only [apply] at h
      split_ifs at h
      split at h <;> cases h
    | ok node' => exact ⟨node', rfl⟩
  | invalidate block_id =>
    cases hfin : (node.states block_id).is_finalized with
    | true => exact ⟨node, by simp [apply, hfin]⟩
    | false =>
      obtain ⟨states', hwalk, -⟩ := invalidate_branch_eq_ok hcons hfin (hfuel block_id)
      exact ⟨{ node with states := states' }, by simp [apply, hfin, hwalk, Except.map]⟩
  | next_round_success message => exact absurd rfl (hlock message)

end Invariant

/-- Two blocks: block `false` is invalidated, and block `true`, of thread `0`, is not linked
    yet. -/
def invalidated_parent : Node Bool Nat Unit Unit :=
  ⟨fun
    | false => { (AckiNackiBlockState.new false : AckiNackiBlockState Bool Nat) with
        invalidated := some true }
    | true => { (AckiNackiBlockState.new true : AckiNackiBlockState Bool Nat) with
        thread_identifier := some 0 },
    fun _ => ⟨⟨fun _ => none, fun _ => none⟩, fun _ _ => ∅⟩⟩

/-- Block `true` is a child of block `false`, the root. -/
def child_of_root : Bool → Option Bool
  | false => none
  | true => some false

theorem apply_ok_of_not_next_round_success_on_invalidated_parent :
    ∃ node', apply (⟨fun _ => ⟨false, false, false, true, none, none, none, none, none, none, none,
        none⟩, default_round_time⟩ : Env Bool (BlockHeight Nat) Unit Unit) 2
        invalidated_parent (.link false true) = .ok node' ∧
      Consistent child_of_root node'.states := by
  have hcons : Consistent child_of_root invalidated_parent.states :=
    ⟨by decide, by decide, by decide, by decide⟩
  exact apply_ok_of_not_next_round_success rfl hcons (fun _ _ h => by cases h; rfl)
    (fun _ h => by cases h) (by decide)

open ackinacki.node.services.finalization (ready_block_state)

/-- The blocks of a run: block `0` is finalized and prefinalized, with the data a lock on its
    children needs; every other block is a child of it. -/
def lock_env : Env Nat (BlockHeight Nat) Unit Unit where
  block_state
    | 0 => ⟨true, true, false, true, none, none, some 0, none, none, none, some (), some ()⟩
    | _ => ⟨false, false, false, true, none, none, none, none, none, none, none, none⟩
  round_buckets := default_round_time

def single_parent (block_identifier : Nat) : Option Nat :=
  if block_identifier = 0 then none else some 0

/-- Block `0` is finalized; block `1`, at height `1` of thread `0`, is ready to be finalized once
    it is linked to block `0`. -/
def finalized_parent_states : Nat → AckiNackiBlockState Nat Nat
  | 0 => { (AckiNackiBlockState.new 0 : AckiNackiBlockState Nat Nat) with
      thread_identifier := some 0
      finalized := some true }
  | 1 => { ready_block_state 1 1 0 with parent_block_identifier := none, has_parent_finalized := none }
  | n => AckiNackiBlockState.new n

/-- A node with no lock, in memory or in its stores. -/
def unlocked : Node Nat Nat Unit Unit :=
  ⟨finalized_parent_states, fun _ => ⟨⟨fun _ => none, fun _ => none⟩, fun _ _ => ∅⟩⟩

theorem unlocked_consistent : Consistent single_parent unlocked.states where
  not_invalidated b _ := by
    rcases b with _ | _ | b <;> rfl
  children b c hc := by
    rcases b with _ | _ | b <;> simp [unlocked, finalized_parent_states, ready_block_state,
      AckiNackiBlockState.new] at hc
  has_parent_finalized b hb := by
    rcases b with _ | _ | b <;> simp [unlocked, finalized_parent_states,
      AckiNackiBlockState.new] at hb
  finalized_parent b p hb hp := by
    rcases b with _ | _ | b
    · simp [single_parent] at hp
    · simp [unlocked, finalized_parent_states, ready_block_state, AckiNackiBlockState.new,
        AckiNackiBlockState.is_finalized] at hb
    · simp [unlocked, finalized_parent_states, AckiNackiBlockState.new,
        AckiNackiBlockState.is_finalized] at hb

/-- The node locks height `1` on block `1` for round `0`, links block `1` to its parent, and
    finalizes it. -/
def lock_and_finalize : List (Operation Nat Nat) :=
  [.next_round_success ⟨⟨0, 1⟩, 0, some ⟨0, 0, 1, 1, ∅⟩⟩, .link 0 1, .finalize 1]

/-- A majority asks, for height `1` and round `1`, for block `2` of round `1`. -/
def late_next_round_success : Operation Nat Nat :=
  .next_round_success ⟨⟨0, 1⟩, 1, some ⟨1, 0, 1, 2, ∅⟩⟩

theorem late_next_round_success_invalidates_finalized_block :
    ∃ node, run lock_env 10 unlocked lock_and_finalize = .ok node ∧
      Consistent single_parent node.states ∧ (node.states 1).is_finalized = true ∧
      apply lock_env 10 node late_next_round_success =
        .error (.Panic "assertion failed: !next.guarded(|e| e.is_finalized())") := by
  have hfollows : ∀ operation ∈ lock_and_finalize, operation.follows single_parent := by
    simp [lock_and_finalize, Operation.follows, single_parent]
  exact ⟨_, rfl, run_consistent hfollows unlocked_consistent
    (show run lock_env 10 unlocked lock_and_finalize = _ from rfl), rfl, rfl⟩

end ackinacki.node.block_state.tools
