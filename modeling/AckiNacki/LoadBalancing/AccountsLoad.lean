import AckiNacki.Bitmask.DirectBitAccess
import AckiNacki.Repository.DAppIdTable
import AckiNacki.Lib.Iterate
import Mathlib.Algebra.Group.Defs
import Mathlib.Tactic.Ring

namespace ackinacki.multithreading.load_balancing_service

open ackinacki.types ackinacki.bitmask ackinacki.repository

/-- `InThreadAccountsLoad`. Part `0` of `zero_bits_count` counts the bits of the dapp
    identifier, part `1` those of the account address. The `u32` counters are `Nat` and the
    `i64` total is `Int`: additions are unbounded, and the subtraction of `u32` counters, which
    the release profile checks, is modelled with its panic. -/
@[ext]
structure InThreadAccountsLoad where
  total_transactions_count : Int
  zero_bits_count : Fin 2 → Fin 256 → Nat

namespace InThreadAccountsLoad

/-- `Default`: nothing counted. -/
instance : Inhabited InThreadAccountsLoad := ⟨⟨0, fun _ _ => 0⟩⟩

def add_in_place (self other : InThreadAccountsLoad) : InThreadAccountsLoad where
  total_transactions_count := self.total_transactions_count + other.total_transactions_count
  zero_bits_count outer inner := self.zero_bits_count outer inner + other.zero_bits_count outer inner

/-- `sub_in_place`; `none` is the panic of a counter going below zero. -/
def sub_in_place (self other : InThreadAccountsLoad) : Option InThreadAccountsLoad :=
  if ∀ outer inner, other.zero_bits_count outer inner ≤ self.zero_bits_count outer inner then
    some
      { total_transactions_count := self.total_transactions_count - other.total_transactions_count
        zero_bits_count outer inner :=
          self.zero_bits_count outer inner - other.zero_bits_count outer inner }
  else none

instance : Add InThreadAccountsLoad := ⟨add_in_place⟩

instance : Zero InThreadAccountsLoad := ⟨default⟩

@[simp]
theorem add_total_transactions_count (a b : InThreadAccountsLoad) :
    (a + b).total_transactions_count = a.total_transactions_count + b.total_transactions_count :=
  rfl

@[simp]
theorem add_zero_bits_count (a b : InThreadAccountsLoad) (outer : Fin 2) (inner : Fin 256) :
    (a + b).zero_bits_count outer inner = a.zero_bits_count outer inner + b.zero_bits_count outer inner :=
  rfl

/-- Loads under `add_in_place` are the product of `Int` and `512` copies of `Nat`. -/
instance : AddCommMonoid InThreadAccountsLoad where
  add_assoc a b c := by
    ext <;> exact add_assoc _ _ _
  zero_add a := by
    ext <;> exact zero_add _
  add_zero a := by
    ext <;> exact add_zero _
  add_comm a b := by
    ext <;> exact add_comm _ _
  nsmul := nsmulRec

/-- Subtracting a part of a sum succeeds and leaves the rest. -/
theorem sub_in_place_add (rest part : InThreadAccountsLoad) :
    (rest + part).sub_in_place part = some rest := by
  unfold sub_in_place
  rw [if_pos (fun outer inner => by rw [add_zero_bits_count]; omega)]
  congr 1
  ext
  · dsimp only
    rw [add_total_transactions_count]
    omega
  · dsimp only
    rw [add_zero_bits_count]
    omega

end InThreadAccountsLoad

/-- `MAX_ROUTE_PART_SPLIT` of the default build, without the feature
    `allow-dappid-thread-split` that makes it `2`: only the dapp identifier's bits are split
    on. -/
def MAX_ROUTE_PART_SPLIT : Nat := 1

/-- What `append_from` reads of an inbound message of a block: its internal destination and
    the dapp identifier in its header. -/
structure InMessage where
  int_dst_account_id : Option AccountAddress
  src_dapp_id : Option AccountAddress

namespace InThreadAccountsLoad

/-- One turn of the loop of `append_from`: a message that does not read, has no internal
    destination, or has no dapp identifier (in the table, or else in its header) is skipped;
    any other is counted, with every zero bit of its routing. -/
def count_message {L : Type} (self : InThreadAccountsLoad)
    (dapps : DAppIdTable AccountAddress DAppIdentifier L) (in_msg : Option InMessage) :
    InThreadAccountsLoad :=
  match in_msg with
  | none => self
  | some message =>
    match message.int_dst_account_id with
    | none => self
    | some destination =>
      match ((dapps.get destination).bind (·.1)).or (message.src_dapp_id.map DAppIdentifier.mk) with
      | none => self
      | some dapp_id =>
        let bits := (AccountRouting.from (some dapp_id) destination).to_bits
        { total_transactions_count := self.total_transactions_count + 1
          zero_bits_count outer inner :=
            self.zero_bits_count outer inner + if !bits outer inner then 1 else 0 }

/-- `append_from`, over the inbound messages of the block (`none` for one that does not read)
    and the dapp identifier table of its state. -/
def append_from {L : Type} (self : InThreadAccountsLoad)
    (dapps : DAppIdTable AccountAddress DAppIdentifier L) (in_msgs : List (Option InMessage)) :
    InThreadAccountsLoad :=
  in_msgs.foldl (fun self in_msg => self.count_message dapps in_msg) self

def new_from {L : Type} (dapps : DAppIdTable AccountAddress DAppIdentifier L)
    (in_msgs : List (Option InMessage)) : InThreadAccountsLoad :=
  append_from default dapps in_msgs

/-- One turn of the scan of `best_split`, at bit `inner` of part `outer`: a bit that all counted
    messages have the same way, or that the mask already uses, is skipped; any other becomes the
    proposal when it divides the messages strictly more evenly than the proposal so far. -/
def best_split_step (self : InThreadAccountsLoad) (meaningful_mask_bits : Fin 2 → Fin 256 → Bool)
    (best : Option Nat × Option Int) (outer : Fin 2) (inner : Fin 256) : Option Nat × Option Int :=
  let zero_bits_count_at_this : Int := self.zero_bits_count outer inner
  let one_bits_count_at_this : Int := self.total_transactions_count - zero_bits_count_at_this
  if zero_bits_count_at_this = 0 ∨ one_bits_count_at_this = 0 then best
  else if meaningful_mask_bits outer inner then best
  else
    let distance := |one_bits_count_at_this - zero_bits_count_at_this|
    let closer := match best.2 with
      | none => true
      | some best_proposed_distance => decide (best_proposed_distance > distance)
    if closer then (some (outer.val * 256 + inner.val), some distance) else best

/-- The two loops of `best_split`, over the first `MAX_ROUTE_PART_SPLIT` parts and all their
    bits; the result is the index of the proposed bit and its distance. -/
def best_split_scan (self : InThreadAccountsLoad) (meaningful_mask_bits : Fin 2 → Fin 256 → Bool) :
    Option Nat × Option Int :=
  ((List.finRange 2).take MAX_ROUTE_PART_SPLIT).foldl
    (fun best outer => (List.finRange 256).foldl
      (fun best inner => self.best_split_step meaningful_mask_bits best outer inner) best)
    (none, none)

/-- `best_split`; `none` also stands for a panic of `set_bit_value`, which an index the scan
    proposes never causes. -/
def best_split (self : InThreadAccountsLoad) (current_bitmask : Bitmask AccountRouting) :
    Option (Bitmask AccountRouting) :=
  let meaningful_mask_bits := current_bitmask.meaningful_mask_bits.to_bits
  match (self.best_split_scan meaningful_mask_bits).1 with
  | none => none
  | some split_at_index => do
    let new_meaningful_mask_bits ←
      current_bitmask.meaningful_mask_bits.set_bit_value split_at_index true
    let new_mask_bits ← current_bitmask.mask_bits.set_bit_value split_at_index true
    pure { mask_bits := new_mask_bits, meaningful_mask_bits := new_meaningful_mask_bits }

/-- A proposed split bit: in the first `MAX_ROUTE_PART_SPLIT` parts, and free in the mask. -/
def FreeSplitBit (meaningful_mask_bits : Fin 2 → Fin 256 → Bool) (best : Option Nat × Option Int) :
    Prop :=
  ∀ index, best.1 = some index → ∃ (outer : Fin 2) (inner : Fin 256),
    outer.val < MAX_ROUTE_PART_SPLIT ∧ index = outer.val * 256 + inner.val ∧
      meaningful_mask_bits outer inner = false

theorem FreeSplitBit.best_split_step {meaningful_mask_bits : Fin 2 → Fin 256 → Bool}
    {best : Option Nat × Option Int} (hfree : FreeSplitBit meaningful_mask_bits best)
    (self : InThreadAccountsLoad) {outer : Fin 2} (houter : outer.val < MAX_ROUTE_PART_SPLIT)
    (inner : Fin 256) :
    FreeSplitBit meaningful_mask_bits (self.best_split_step meaningful_mask_bits best outer inner) := by
  unfold InThreadAccountsLoad.best_split_step
  dsimp only
  split_ifs with hunused hused hcloser
  · exact hfree
  · exact hfree
  · rintro index hindex
    cases hindex
    exact ⟨outer, inner, houter, rfl, Bool.eq_false_iff.mpr hused⟩
  · exact hfree

/-- The scan proposes only free bits of the first `MAX_ROUTE_PART_SPLIT` parts. -/
theorem best_split_scan_free (self : InThreadAccountsLoad)
    (meaningful_mask_bits : Fin 2 → Fin 256 → Bool) :
    FreeSplitBit meaningful_mask_bits (self.best_split_scan meaningful_mask_bits) := by
  unfold best_split_scan
  apply Iterate.foldl_invariant (FreeSplitBit meaningful_mask_bits)
  · intro outer houter best hfree
    have houter_lt : outer.val < MAX_ROUTE_PART_SPLIT := by
      have := List.mem_take_iff_getElem.mp houter
      obtain ⟨i, hi, rfl⟩ := this
      simp only [List.getElem_finRange, Fin.cast_mk]
      omega
    apply Iterate.foldl_invariant (FreeSplitBit meaningful_mask_bits)
    · intro inner _ best hfree
      exact hfree.best_split_step self houter_lt inner
    · exact hfree
  · intro index hindex
    cases hindex

/-- What a proposal is: the mask with one more bit set in both fields, a bit of the first
    `MAX_ROUTE_PART_SPLIT` parts that was not meaningful before. -/
theorem best_split_spec {self : InThreadAccountsLoad} {current_bitmask split : Bitmask AccountRouting}
    (hsplit : self.best_split current_bitmask = some split) :
    ∃ index < 256 * MAX_ROUTE_PART_SPLIT,
      current_bitmask.meaningful_mask_bits.bit index = false ∧
      (∀ j < 512, split.meaningful_mask_bits.bit j =
        (current_bitmask.meaningful_mask_bits.bit j || decide (j = index))) ∧
      ∀ j < 512, split.mask_bits.bit j = (current_bitmask.mask_bits.bit j || decide (j = index)) := by
  unfold best_split at hsplit
  cases hscan : (self.best_split_scan current_bitmask.meaningful_mask_bits.to_bits).1 with
  | none => simp [hscan] at hsplit
  | some index =>
    obtain ⟨outer, inner, houter, rfl, hfree⟩ := best_split_scan_free self _ index hscan
    have hindex : outer.val * 256 + inner.val < 512 := by omega
    obtain ⟨meaningful, hmeaningful, hmeaningful_bits⟩ :=
      AccountRouting.set_bit_value_bit hindex current_bitmask.meaningful_mask_bits
    obtain ⟨mask_bits, hmask, hmask_bits⟩ :=
      AccountRouting.set_bit_value_bit hindex current_bitmask.mask_bits
    simp only [hscan, hmeaningful, hmask, Option.bind_eq_bind, Option.bind_some] at hsplit
    cases hsplit
    refine ⟨_, by simp only [MAX_ROUTE_PART_SPLIT] at houter ⊢; omega, ?_, hmeaningful_bits,
      hmask_bits⟩
    rw [← AccountRouting.to_bits_eq]
    exact hfree

end InThreadAccountsLoad

end ackinacki.multithreading.load_balancing_service
