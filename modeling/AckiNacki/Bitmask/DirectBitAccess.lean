import AckiNacki.Bitmask.ThreadsTable
import AckiNacki.Lib.Bits

namespace ackinacki.types

open ackinacki.bitmask

namespace AccountAddress

/-- `UInt256::as_array`, byte `k`: the bytes are big-endian, so byte `k` holds bits
    `8 * (31 - k)` to `8 * (31 - k) + 7` of the number. -/
def as_array (self : AccountAddress) (k : Nat) : BitVec 8 :=
  self.val.extractLsb' (8 * (31 - k)) 8

/-- `DirectBitAccess::get_bit_value`; `none` is the out-of-bounds panic. -/
def get_bit_value (self : AccountAddress) (index : Nat) : Option Bool :=
  let bytes := self.as_array
  if index ≥ 256 then none
  else
    let hi := index / 8
    let lo := index % 8
    some (bytes hi >>> (7 - lo) &&& 1#8 != 0#8)

/-- `DirectBitAccess::set_bit_value`; `none` is a panic, of the assertion that `value` holds or
    of the index out of bounds. Or-ing bit `lo` into byte `hi` of the big-endian bytes and
    reading the number back or-s bit `8 * (31 - hi) + lo` into the number. -/
def set_bit_value (self : AccountAddress) (index : Nat) (value : Bool) : Option AccountAddress :=
  if !value then none
  else if index ≥ 256 then none
  else
    let hi := index / 8
    let lo := 7 - index % 8
    some ⟨self.val ||| 1#256 <<< (8 * (31 - hi) + lo)⟩

/-- Bit `index` in the numbering of `get_bit_value`. -/
def bit (self : AccountAddress) (index : Nat) : Bool := self.val.getLsbD (255 - index)

theorem get_bit_value_eq {index : Nat} (hindex : index < 256) (self : AccountAddress) :
    self.get_bit_value index = some (self.bit index) := by
  have hpos : 8 * (31 - index / 8) + (7 - index % 8) = 255 - index := by omega
  simp only [get_bit_value, as_array, bit, if_neg (Nat.not_le.mpr hindex)]
  rw [Bits.ushiftRight_and_one_ne_zero (by decide), BitVec.getLsbD_extractLsb', hpos]
  simp [show 7 - index % 8 < 8 by omega]

/-- Setting a bit in bounds succeeds, and sets that bit and no other. -/
theorem set_bit_value_bit {index : Nat} (hindex : index < 256) (self : AccountAddress) :
    ∃ next, self.set_bit_value index true = some next ∧
      ∀ j < 256, next.bit j = (self.bit j || decide (j = index)) := by
  have hpos : 8 * (31 - index / 8) + (7 - index % 8) = 255 - index := by omega
  refine ⟨⟨self.val ||| 1#256 <<< (255 - index)⟩, ?_, fun j hj => ?_⟩
  · simp [set_bit_value, hpos, Nat.not_le.mpr hindex]
  · simp only [bit]
    rw [Bits.getLsbD_or_one_shiftLeft (by omega)]
    have hsame : 255 - j = 255 - index ↔ j = index := by omega
    simp [hsame, show 255 - j < 256 by omega]

/-- Two addresses agree on the meaningful bits of `m` when they agree at every meaningful
    bit. -/
theorem and_eq_and_iff_bit {x k m : AccountAddress} :
    x.val &&& m.val = k.val &&& m.val ↔ ∀ j < 256, m.bit j = true → x.bit j = k.bit j := by
  rw [Bits.and_eq_and_iff]
  constructor
  · intro h j _ hm
    exact h _ hm
  · intro h i hm
    have hi : i < 256 := BitVec.lt_of_getLsbD hm
    have hback : 255 - (255 - i) = i := by omega
    have hbit := h (255 - i) (by omega) (by rwa [bit, hback])
    rwa [bit, bit, hback] at hbit

end AccountAddress

/-- `From<(Option<DAppIdentifier>, AccountAddress)>`: an account without a dapp identifier is
    routed as its own dapp. -/
def AccountRouting.from (dapp : Option DAppIdentifier) (acc : AccountAddress) : AccountRouting :=
  ⟨dapp.getD ⟨acc⟩, acc⟩

namespace AccountRouting

/-- `DirectBitAccess::get_bit_value`: bits `0` to `255` are the dapp identifier's. -/
def get_bit_value (self : AccountRouting) (index : Nat) : Option Bool :=
  if index < 256 then self.dapp_id.val.get_bit_value index
  else self.account_address.get_bit_value (index - 256)

/-- `DirectBitAccess::set_bit_value`. -/
def set_bit_value (self : AccountRouting) (index : Nat) (value : Bool) : Option AccountRouting :=
  if index < 256 then
    (self.dapp_id.val.set_bit_value index value).map fun dapp => { self with dapp_id := ⟨dapp⟩ }
  else
    (self.account_address.set_bit_value (index - 256) value).map fun acc =>
      { self with account_address := acc }

/-- `From<AccountRouting> for [[bool; 256]; 2]`: entry `inner * 8 + (7 - shift)` of part
    `outer` is bit `shift` of byte `inner` of that part. The source's loop writes each entry
    once, so entry `index` is bit `7 - index % 8` of byte `index / 8`. -/
def to_bits (val : AccountRouting) (outer : Fin 2) (index : Fin 256) : Bool :=
  let part := if outer = 0 then val.dapp_id.val else val.account_address
  let inner := index.val / 8
  let shift := 7 - index.val % 8
  part.as_array inner &&& 1#8 <<< shift != 0#8

/-- Bit `index` of a routing in the numbering of `get_bit_value`. -/
def bit (self : AccountRouting) (index : Nat) : Bool :=
  if index < 256 then self.dapp_id.val.bit index else self.account_address.bit (index - 256)

theorem get_bit_value_eq {index : Nat} (hindex : index < 512) (self : AccountRouting) :
    self.get_bit_value index = some (self.bit index) := by
  unfold get_bit_value bit
  split_ifs with hlt
  · exact AccountAddress.get_bit_value_eq hlt _
  · exact AccountAddress.get_bit_value_eq (by omega) _

/-- The conversion the load counters use reads the same bits as `get_bit_value`. -/
theorem to_bits_eq (self : AccountRouting) (outer : Fin 2) (index : Fin 256) :
    self.to_bits outer index = self.bit (outer.val * 256 + index.val) := by
  have hbyte : ∀ part : AccountAddress,
      (part.as_array (index.val / 8) &&& 1#8 <<< (7 - index.val % 8) != 0#8) = part.bit index := by
    intro part
    rw [Bits.and_one_shiftLeft_ne_zero (by omega), AccountAddress.as_array,
      BitVec.getLsbD_extractLsb', AccountAddress.bit]
    have hpos : 8 * (31 - index.val / 8) + (7 - index.val % 8) = 255 - index.val := by omega
    simp [hpos, show 7 - index.val % 8 < 8 by omega]
  unfold to_bits bit
  rcases outer with ⟨_ | _ | outer, houter⟩
  · simp [hbyte, index.isLt]
  · simp [hbyte]
  · omega

/-- Setting a bit in bounds succeeds, and sets that bit and no other. -/
theorem set_bit_value_bit {index : Nat} (hindex : index < 512) (self : AccountRouting) :
    ∃ next, self.set_bit_value index true = some next ∧
      ∀ j < 512, next.bit j = (self.bit j || decide (j = index)) := by
  unfold set_bit_value
  split_ifs with hlt
  · obtain ⟨dapp, hset, hdapp⟩ := AccountAddress.set_bit_value_bit hlt self.dapp_id.val
    refine ⟨{ self with dapp_id := ⟨dapp⟩ }, by rw [hset]; rfl, fun j hj => ?_⟩
    by_cases hj256 : j < 256
    · simp [bit, hj256, hdapp j hj256]
    · simp [bit, hj256, show j ≠ index by omega]
  · obtain ⟨acc, hset, hacc⟩ := @AccountAddress.set_bit_value_bit (index - 256) (by omega)
      self.account_address
    refine ⟨{ self with account_address := acc }, by rw [hset]; rfl, fun j hj => ?_⟩
    by_cases hj256 : j < 256
    · simp [bit, hj256, show j ≠ index by omega]
    · have hsame : j - 256 = index - 256 ↔ j = index := by omega
      simp [bit, hj256, hacc (j - 256) (by omega), hsame]

/-- A mask matches a routing when the routing agrees with its mask bits at every meaningful
    bit. -/
theorem is_match_iff (mask : Bitmask AccountRouting) (x : AccountRouting) :
    mask.is_match x = true ↔
      ∀ j < 512, mask.meaningful_mask_bits.bit j = true → x.bit j = mask.mask_bits.bit j := by
  simp only [Bitmask.is_match, decide_eq_true_eq]
  show (⟨⟨⟨x.dapp_id.val.val &&& mask.meaningful_mask_bits.dapp_id.val.val⟩⟩,
      ⟨x.account_address.val &&& mask.meaningful_mask_bits.account_address.val⟩⟩ :
        AccountRouting) =
      ⟨⟨⟨mask.mask_bits.dapp_id.val.val &&& mask.meaningful_mask_bits.dapp_id.val.val⟩⟩,
        ⟨mask.mask_bits.account_address.val &&& mask.meaningful_mask_bits.account_address.val⟩⟩ ↔ _
  simp only [AccountRouting.mk.injEq, DAppIdentifier.mk.injEq, AccountAddress.mk.injEq,
    AccountAddress.and_eq_and_iff_bit]
  constructor
  · rintro ⟨hdapp, hacc⟩ j hj hmeaningful
    by_cases hlt : j < 256
    · simp only [bit, hlt, if_true] at hmeaningful ⊢
      exact hdapp j hlt hmeaningful
    · simp only [bit, hlt, if_false] at hmeaningful ⊢
      exact hacc (j - 256) (by omega) hmeaningful
  · intro h
    refine ⟨fun j hj hmeaningful => ?_, fun j hj hmeaningful => ?_⟩
    · have hbit := h j (by omega) (by simpa [bit, hj] using hmeaningful)
      simpa [bit, hj] using hbit
    · have hge : ¬ j + 256 < 256 := by omega
      have hbit := h (j + 256) (by omega) (by simpa [bit, hge] using hmeaningful)
      simpa [bit, hge] using hbit

/-- Setting one more meaningful bit, outside the old ones, in both fields of a mask narrows it:
    whatever the new mask matches, the old one matched. -/
theorem is_match_of_set_bit {mask : Bitmask AccountRouting} {index : Nat} (hindex : index < 512)
    (hfree : mask.meaningful_mask_bits.bit index = false) {mask_bits meaningful_mask_bits : AccountRouting}
    (hmask : ∀ j < 512, mask_bits.bit j = (mask.mask_bits.bit j || decide (j = index)))
    (hmeaningful : ∀ j < 512,
      meaningful_mask_bits.bit j = (mask.meaningful_mask_bits.bit j || decide (j = index)))
    {x : AccountRouting} (hmatch : (Bitmask.mk mask_bits meaningful_mask_bits).is_match x = true) :
    mask.is_match x = true := by
  rw [is_match_iff] at hmatch ⊢
  intro j hj hold
  have hne : j ≠ index := by
    rintro rfl
    rw [hfree] at hold
    exact absurd hold (by decide)
  have hbit := hmatch j hj (by simp [hmeaningful j hj, hold])
  simpa [hmask j hj, hne] using hbit

end AccountRouting

end ackinacki.types
