import AckiNacki.Lib.Bytes
import AckiNacki.Lib.Iterate

namespace ackinacki.types

/-- An encoding of values of `α` as values of `β`, both ways fallible. -/
structure Codec (α β : Type) where
  encode : α → Except String β
  decode : β → Except String α

/-- The decoder reads back what the encoder wrote. -/
def Codec.RoundTrips {α β : Type} (codec : Codec α β) : Prop :=
  ∀ value encoded, codec.encode value = .ok encoded → codec.decode encoded = .ok value

/-- The codecs the block format rests on: bincode for the common section, the tvm block to and
    from its cell (`serialize`, `construct_from_cell`), and the cell to and from bytes
    (`write_boc`, `read_single_root_boc`). -/
structure BlockCodecs (C B Cell : Type) where
  bincode : Codec C (List UInt8)
  tvm_block : Codec B Cell
  boc : Codec Cell (List UInt8)

/-- Each of the three codecs reads back what it wrote. -/
structure BlockCodecs.RoundTrips {C B Cell : Type} (codecs : BlockCodecs C B Cell) : Prop where
  bincode : codecs.bincode.RoundTrips
  tvm_block : codecs.tvm_block.RoundTrips
  boc : codecs.boc.RoundTrips

/-- `AckiNackiBlock`: a common section of type `C` and a tvm block of type `B`, with the cell and
    the raw data that serialization caches. -/
structure AckiNackiBlock (C B Cell : Type) where
  common_section : C
  block : B
  tx_cnt : Nat
  hash : Vector UInt8 32
  raw_data : Option (List UInt8)
  block_cell : Option Cell

def BLOCK_SUFFIX_LEN : Nat := 32

/-- `usize::to_be_bytes` and `usize::from_be_bytes`. -/
def to_be_bytes (n : Nat) : List UInt8 := Bytes.to_be 8 n

def from_be_bytes (bytes : List UInt8) : Nat := Bytes.from_be bytes

@[simp]
theorem length_to_be_bytes (n : Nat) : (to_be_bytes n).length = 8 := Bytes.length_to_be 8 n

theorem from_be_bytes_to_be_bytes {n : Nat} (hn : n < 2 ^ 64) : from_be_bytes (to_be_bytes n) = n :=
  Bytes.from_be_to_be_of_lt (by simpa using hn)

/-- The codec that passes values through unchanged reads back what it wrote. -/
theorem Codec.round_trips_of_ok {α : Type} : (⟨.ok, .ok⟩ : Codec α α).RoundTrips :=
  fun _ _ hencode => congrArg Except.ok (Except.ok.inj hencode).symm

/-- Codecs that pass byte strings through unchanged. -/
def bytes_codecs : BlockCodecs (List UInt8) (List UInt8) (List UInt8) :=
  ⟨⟨.ok, .ok⟩, ⟨.ok, .ok⟩, ⟨.ok, .ok⟩⟩

namespace AckiNackiBlock

variable {C B Cell : Type} (codecs : BlockCodecs C B Cell)

def get_raw_data_without_hash (self : AckiNackiBlock C B Cell) : Except String (List UInt8) := do
  let common_section ← codecs.bincode.encode self.common_section
  let block_cell ← match codecs.tvm_block.encode self.block with
    | .ok block_cell => pure block_cell
    | .error e => throw ("Failed to serialize tvm block: " ++ e)
  let block_data ← match codecs.boc.encode block_cell with
    | .ok block_data => pure block_data
    | .error e => throw ("Failed to serialize tvm block cell: " ++ e)
  pure (to_be_bytes common_section.length ++ common_section ++
    to_be_bytes block_data.length ++ block_data ++ to_be_bytes self.tx_cnt)

/-- `Serialize`: the cached raw data when there is one, else a fresh encoding and the hash. -/
def serialize (self : AckiNackiBlock C B Cell) : Except String (List UInt8) :=
  match self.raw_data with
  | some data => .ok data
  | none =>
    match self.get_raw_data_without_hash codecs with
    | .error _ => .error "Failed to get block raw data"
    | .ok data => .ok (data ++ self.hash.toList)

/-- `Deserialize`, from the byte string bincode reads; `none` is a panic, of a `split_at` past
    the end of the input or of the assertion on the length of the hash. An 8-byte slice always
    converts to `[u8; 8]`, so those conversions never fail. -/
def deserialize (raw_data : List UInt8) : Option (Except String (AckiNackiBlock C B Cell)) := do
  let (common_section_len_data, rest) ← Bytes.split_at raw_data 8
  let common_section_len := from_be_bytes common_section_len_data
  let (common_section_data, rest) ← Bytes.split_at rest common_section_len
  match codecs.bincode.decode common_section_data with
  | .error _ => pure (.error "Failed to deserialize common section")
  | .ok common_section =>
    let (block_len_data, rest) ← Bytes.split_at rest 8
    let block_len := from_be_bytes block_len_data
    let (block_data, rest) ← Bytes.split_at rest block_len
    match codecs.boc.decode block_data with
    | .error _ => pure (.error "Failed to deserialize tvm block cell")
    | .ok block_cell =>
      match codecs.tvm_block.decode block_cell with
      | .error _ => pure (.error "Failed to deserialize tvm block")
      | .ok block =>
        let (tx_cnt_data, rest) ← Bytes.split_at rest 8
        let tx_cnt := from_be_bytes tx_cnt_data
        if hlen : rest.length = 32 then
          pure (.ok { common_section, block, tx_cnt
                      hash := ⟨rest.toArray, by simpa using hlen⟩
                      raw_data := some raw_data
                      block_cell := some block_cell })
        else none

/-- `set_common_section`; on a failed encoding the common section is already replaced. -/
def set_common_section (calculate_hash : List UInt8 → Vector UInt8 32)
    (self : AckiNackiBlock C B Cell) (common_section : C) (update_hash : Bool) :
    Except String Unit × AckiNackiBlock C B Cell :=
  let self := { self with common_section }
  if update_hash then
    match self.get_raw_data_without_hash codecs with
    | .error e => (.error e, self)
    | .ok raw_data =>
      let hash := calculate_hash raw_data
      (.ok (), { self with hash, raw_data := some (raw_data ++ hash.toList) })
  else (.ok (), self)

/-- `check_hash`; `none` is the panic of its assertion that the raw data is longer than the
    hash. -/
def check_hash (calculate_hash : List UInt8 → Vector UInt8 32) (self : AckiNackiBlock C B Cell) :
    Option (Except String Bool) :=
  match self.raw_data with
  | some raw_data =>
    if raw_data.length > BLOCK_SUFFIX_LEN then
      some (.ok (self.hash == calculate_hash (raw_data.take (raw_data.length - BLOCK_SUFFIX_LEN))))
    else none
  | none =>
    match self.get_raw_data_without_hash codecs with
    | .error e => some (.error e)
    | .ok raw_data => some (.ok (self.hash == calculate_hash raw_data))

/-- The cached raw data, when there is one, is a fresh encoding of the fields and the hash. -/
def RawDataCurrent (self : AckiNackiBlock C B Cell) : Prop :=
  ∀ data, self.raw_data = some data →
    ∃ raw, self.get_raw_data_without_hash codecs = .ok raw ∧ data = raw ++ self.hash.toList

variable {codecs}

theorem get_raw_data_without_hash_eq_ok {self : AckiNackiBlock C B Cell} {raw : List UInt8}
    (hraw : self.get_raw_data_without_hash codecs = .ok raw) :
    ∃ common_section block_cell block_data,
      codecs.bincode.encode self.common_section = .ok common_section ∧
      codecs.tvm_block.encode self.block = .ok block_cell ∧
      codecs.boc.encode block_cell = .ok block_data ∧
      raw = to_be_bytes common_section.length ++ common_section ++
        to_be_bytes block_data.length ++ block_data ++ to_be_bytes self.tx_cnt := by
  unfold get_raw_data_without_hash at hraw
  cases hcs : codecs.bincode.encode self.common_section with
  | error e => simp [hcs, bind, Except.bind] at hraw
  | ok common_section =>
  cases hcell : codecs.tvm_block.encode self.block with
  | error e => simp [hcs, hcell, bind, Except.bind, throw, throwThe, MonadExceptOf.throw] at hraw
  | ok block_cell =>
  cases hdata : codecs.boc.encode block_cell with
  | error e =>
    simp [hcs, hcell, hdata, bind, Except.bind, pure, Except.pure] at hraw
  | ok block_data =>
    simp [hcs, hcell, hdata, bind, Except.bind, pure, Except.pure] at hraw
    refine ⟨common_section, block_cell, block_data, rfl, rfl, hdata, ?_⟩
    rw [← hraw]
    simp only [List.append_assoc]

theorem length_get_raw_data_without_hash {self : AckiNackiBlock C B Cell} {raw : List UInt8}
    (hraw : self.get_raw_data_without_hash codecs = .ok raw) : 24 ≤ raw.length := by
  obtain ⟨_, _, _, _, _, _, rfl⟩ := get_raw_data_without_hash_eq_ok hraw
  simp
  omega

/-- A common section set with `update_hash` leaves the cached raw data current. -/
theorem set_common_section_raw_data_current (calculate_hash : List UInt8 → Vector UInt8 32)
    (self : AckiNackiBlock C B Cell) (common_section : C)
    (hok : (self.set_common_section codecs calculate_hash common_section true).1 = .ok ()) :
    RawDataCurrent codecs (self.set_common_section codecs calculate_hash common_section true).2 := by
  simp only [set_common_section, ↓reduceIte] at hok ⊢
  cases hraw : get_raw_data_without_hash codecs { self with common_section } with
  | error e => simp [hraw] at hok
  | ok raw =>
    intro data hdata
    exact ⟨raw, hraw, (Option.some.inj hdata).symm⟩

/-- With current raw data, `serialize` is a fresh encoding followed by the hash, cached or not. -/
theorem serialize_of_raw_data_current {self : AckiNackiBlock C B Cell}
    (hcur : RawDataCurrent codecs self) {raw : List UInt8}
    (hraw : self.get_raw_data_without_hash codecs = .ok raw) :
    self.serialize codecs = .ok (raw ++ self.hash.toList) := by
  unfold serialize
  cases hdata : self.raw_data with
  | none => simp [hraw]
  | some data =>
    obtain ⟨raw', hraw', rfl⟩ := hcur data hdata
    obtain rfl : raw' = raw := Except.ok.inj (hraw'.symm.trans hraw)
    rfl

/-- With current raw data, `check_hash` hashes the fresh encoding, cached or not. -/
theorem check_hash_of_raw_data_current (calculate_hash : List UInt8 → Vector UInt8 32)
    {self : AckiNackiBlock C B Cell} (hcur : RawDataCurrent codecs self) {raw : List UInt8}
    (hraw : self.get_raw_data_without_hash codecs = .ok raw) :
    self.check_hash codecs calculate_hash = some (.ok (self.hash == calculate_hash raw)) := by
  unfold check_hash
  cases hdata : self.raw_data with
  | none => simp [hraw]
  | some data =>
    obtain ⟨raw', hraw', rfl⟩ := hcur data hdata
    obtain rfl : raw' = raw := Except.ok.inj (hraw'.symm.trans hraw)
    have hne : raw' ≠ [] := by
      have hlen := length_get_raw_data_without_hash hraw
      intro hnil
      simp [hnil] at hlen
    simp [BLOCK_SUFFIX_LEN, hne]

/-- Decoding a fresh encoding and the hash gives the block back, with both caches filled. -/
theorem deserialize_get_raw_data_without_hash (hcodecs : codecs.RoundTrips)
    {self : AckiNackiBlock C B Cell} {raw : List UInt8}
    (hraw : self.get_raw_data_without_hash codecs = .ok raw) (hfits : raw.length < 2 ^ 64)
    (htx_cnt : self.tx_cnt < 2 ^ 64) :
    ∃ block_cell, deserialize codecs (raw ++ self.hash.toList) =
      some (.ok { self with raw_data := some (raw ++ self.hash.toList),
                            block_cell := some block_cell }) := by
  obtain ⟨common_section, block_cell, block_data, hcs, hcell, hdata, hraw_eq⟩ :=
    get_raw_data_without_hash_eq_ok hraw
  subst hraw_eq
  have hcs_len : from_be_bytes (to_be_bytes common_section.length) = common_section.length :=
    from_be_bytes_to_be_bytes (by simp at hfits; omega)
  have hdata_len : from_be_bytes (to_be_bytes block_data.length) = block_data.length :=
    from_be_bytes_to_be_bytes (by simp at hfits; omega)
  refine ⟨block_cell, ?_⟩
  simp only [deserialize, List.append_assoc]
  rw [Bytes.split_at_append (length_to_be_bytes _)]
  simp only [Option.bind_eq_bind, Option.bind_some, hcs_len]
  rw [Bytes.split_at_append rfl]
  simp only [Option.bind_some, hcodecs.bincode _ _ hcs]
  rw [Bytes.split_at_append (length_to_be_bytes _)]
  simp only [Option.bind_some, hdata_len]
  rw [Bytes.split_at_append rfl]
  simp only [Option.bind_some, hcodecs.boc _ _ hdata, hcodecs.tvm_block _ _ hcell]
  rw [Bytes.split_at_append (length_to_be_bytes _)]
  simp [from_be_bytes_to_be_bytes htx_cnt, Vector.toList]

/-- The decoded block's cached raw data is current: it is what it was decoded from. -/
theorem raw_data_current_of_deserialize {self : AckiNackiBlock C B Cell} {raw : List UInt8}
    (hraw : self.get_raw_data_without_hash codecs = .ok raw) (block_cell : Cell) :
    RawDataCurrent codecs
      { self with raw_data := some (raw ++ self.hash.toList), block_cell := some block_cell } := by
  intro data hdata
  exact ⟨raw, hraw, (Option.some.inj hdata).symm⟩

/-- The round trip of a block whose cached raw data is current: `serialize` gives a fresh
    encoding and the hash, `deserialize` reads the same fields back from it, and `check_hash`
    answers the same on both blocks. -/
theorem serialize_round_trip (hcodecs : codecs.RoundTrips) {self : AckiNackiBlock C B Cell}
    (hcur : RawDataCurrent codecs self) {raw : List UInt8}
    (hraw : self.get_raw_data_without_hash codecs = .ok raw) (hfits : raw.length < 2 ^ 64)
    (htx_cnt : self.tx_cnt < 2 ^ 64) :
    self.serialize codecs = .ok (raw ++ self.hash.toList) ∧
      ∃ decoded, deserialize codecs (raw ++ self.hash.toList) = some (.ok decoded) ∧
        decoded.common_section = self.common_section ∧ decoded.block = self.block ∧
        decoded.tx_cnt = self.tx_cnt ∧ decoded.hash = self.hash ∧
        decoded.serialize codecs = .ok (raw ++ self.hash.toList) ∧
        ∀ calculate_hash, decoded.check_hash codecs calculate_hash =
          self.check_hash codecs calculate_hash := by
  obtain ⟨block_cell, hdecode⟩ := deserialize_get_raw_data_without_hash hcodecs hraw hfits htx_cnt
  have hdecoded_cur := raw_data_current_of_deserialize hraw block_cell
  refine ⟨serialize_of_raw_data_current hcur hraw, _, hdecode, rfl, rfl, rfl, rfl,
    serialize_of_raw_data_current hdecoded_cur hraw, fun calculate_hash => ?_⟩
  rw [check_hash_of_raw_data_current calculate_hash hdecoded_cur hraw,
    check_hash_of_raw_data_current calculate_hash hcur hraw]

/-- A block with the one-byte common section `[1]`, set with `update_hash` under a constant
    hash, over the one-byte tvm block `[2]` and three transactions. -/
def sample_block : AckiNackiBlock (List UInt8) (List UInt8) (List UInt8) :=
  (({ common_section := [], block := [2], tx_cnt := 3, hash := Vector.replicate 32 0,
      raw_data := none, block_cell := none } : AckiNackiBlock (List UInt8) (List UInt8)
      (List UInt8)).set_common_section bytes_codecs (fun _ => Vector.replicate 32 7) [1] true).2

theorem serialize_round_trip_of_sample_block :
    sample_block.serialize bytes_codecs =
        .ok (to_be_bytes 1 ++ [1] ++ to_be_bytes 1 ++ [2] ++ to_be_bytes 3 ++
          sample_block.hash.toList) ∧
      ∃ decoded, deserialize bytes_codecs (to_be_bytes 1 ++ [1] ++ to_be_bytes 1 ++ [2] ++
          to_be_bytes 3 ++ sample_block.hash.toList) = some (.ok decoded) ∧
        decoded.common_section = sample_block.common_section ∧
        decoded.block = sample_block.block ∧ decoded.tx_cnt = sample_block.tx_cnt ∧
        decoded.hash = sample_block.hash ∧
        decoded.serialize bytes_codecs = .ok (to_be_bytes 1 ++ [1] ++ to_be_bytes 1 ++ [2] ++
          to_be_bytes 3 ++ sample_block.hash.toList) ∧
        ∀ calculate_hash, decoded.check_hash bytes_codecs calculate_hash =
          sample_block.check_hash bytes_codecs calculate_hash :=
  serialize_round_trip ⟨Codec.round_trips_of_ok, Codec.round_trips_of_ok, Codec.round_trips_of_ok⟩
    (set_common_section_raw_data_current _ _ _ rfl) rfl (by decide) (by decide)

end AckiNackiBlock

/-- `deserialize` panics on every input too short for its first two fields: fewer than the 8
    bytes of the common section's length, or fewer bytes after them than that length. -/
theorem deserialize_panics_on_truncated_input {C B Cell : Type} (codecs : BlockCodecs C B Cell)
    (raw_data : List UInt8) (hshort : raw_data.length < 8 + from_be_bytes (raw_data.take 8)) :
    AckiNackiBlock.deserialize codecs raw_data = none := by
  unfold AckiNackiBlock.deserialize
  by_cases hlen : 8 ≤ raw_data.length
  · have hrest : (raw_data.drop 8).length < from_be_bytes (raw_data.take 8) := by
      rw [List.length_drop]
      omega
    simp [Bytes.split_at_eq_some hlen, Bytes.split_at_eq_none hrest]
  · simp [Bytes.split_at_eq_none (Nat.lt_of_not_le hlen)]

theorem deserialize_panics_on_missing_common_section :
    (to_be_bytes 1).length < 8 + from_be_bytes ((to_be_bytes 1).take 8) ∧
      AckiNackiBlock.deserialize bytes_codecs (to_be_bytes 1) = none :=
  ⟨by decide, deserialize_panics_on_truncated_input bytes_codecs (to_be_bytes 1) (by decide)⟩

end ackinacki.types
