import MicroChat.Support.Bytes

/-!
# Longlink — Packer

`MicroChatSDK/PublicComponentV2/longlink_packer.cc`: the frames of the long connection.

* `STNetMsgXpHeader`: the 16-byte header, `toBytes` and `ofBytes` in network byte order.
* `longlinkPack`, `unpackTest`, `longlinkUnpack`: the functions of the source.
* `Accepted`, `unpackTest_ok_iff`: the buffers on which the test says `LONGLINK_UNPACK_OK`.
* `readsInside_iff`: on which buffers an accepted frame is read inside its own bounds.

The client is a 32-bit program: `size_t` is a `UInt32`, except for the length of a buffer that is
in memory, which is the length of the list.
-/

namespace MicroChat
open Support

/-! ### The header -/

/-- `__STNetMsgXpHeader`, its fields in host byte order. -/
structure STNetMsgXpHeader where
  packLength : UInt32
  headLength : UInt16
  clientVersion : UInt16
  cmdid : UInt32
  seq : UInt32
  deriving DecidableEq, Repr

namespace STNetMsgXpHeader

/-- `sizeof(__STNetMsgXpHeader)`. -/
def size : Nat := 16

/-- The bytes of the header, `htonl` and `htons` applied to the fields. -/
def toBytes (st : STNetMsgXpHeader) : Bytes :=
  be 4 st.packLength.toNat ++ (be 2 st.headLength.toNat ++ (be 2 st.clientVersion.toNat ++
    (be 4 st.cmdid.toNat ++ be 4 st.seq.toNat)))

/-- The `memcpy` out of a buffer, `ntohl` and `ntohs` applied to the fields. -/
def ofBytes (packed : Bytes) : STNetMsgXpHeader where
  packLength := .ofNat (fromBe (packed.take 4))
  headLength := .ofNat (fromBe ((packed.drop 4).take 2))
  clientVersion := .ofNat (fromBe ((packed.drop 6).take 2))
  cmdid := .ofNat (fromBe ((packed.drop 8).take 4))
  seq := .ofNat (fromBe ((packed.drop 12).take 4))

@[simp] theorem length_toBytes (st : STNetMsgXpHeader) : st.toBytes.length = size := by
  simp [toBytes, size]

theorem fromBe_be_32 (n : UInt32) : UInt32.ofNat (fromBe (be 4 n.toNat)) = n := by
  rw [fromBe_be, Nat.mod_eq_of_lt (n.toNat_lt.trans_eq (by decide)), UInt32.ofNat_toNat]

theorem fromBe_be_16 (n : UInt16) : UInt16.ofNat (fromBe (be 2 n.toNat)) = n := by
  rw [fromBe_be, Nat.mod_eq_of_lt (n.toNat_lt.trans_eq (by decide)), UInt16.ofNat_toNat]

/-- A field behind the bytes `a`. -/
theorem take_drop_field (a b c : Bytes) : ((a ++ (b ++ c)).drop a.length).take b.length = b := by
  rw [List.drop_left, List.take_left]

/-- A header in front of anything reads back. -/
theorem ofBytes_toBytes (st : STNetMsgXpHeader) (rest : Bytes) :
    ofBytes (st.toBytes ++ rest) = st := by
  obtain ⟨packLength, headLength, clientVersion, cmdid, seq⟩ := st
  have h₁ := take_drop_field [] (be 4 packLength.toNat) (be 2 headLength.toNat ++
    (be 2 clientVersion.toNat ++ (be 4 cmdid.toNat ++ (be 4 seq.toNat ++ rest))))
  have h₂ := take_drop_field (be 4 packLength.toNat) (be 2 headLength.toNat)
    (be 2 clientVersion.toNat ++ (be 4 cmdid.toNat ++ (be 4 seq.toNat ++ rest)))
  have h₃ := take_drop_field (be 4 packLength.toNat ++ be 2 headLength.toNat)
    (be 2 clientVersion.toNat) (be 4 cmdid.toNat ++ (be 4 seq.toNat ++ rest))
  have h₄ := take_drop_field (be 4 packLength.toNat ++ be 2 headLength.toNat ++
    be 2 clientVersion.toNat) (be 4 cmdid.toNat) (be 4 seq.toNat ++ rest)
  have h₅ := take_drop_field (be 4 packLength.toNat ++ be 2 headLength.toNat ++
    be 2 clientVersion.toNat ++ be 4 cmdid.toNat) (be 4 seq.toNat) rest
  simp only [List.append_assoc, List.length_append, length_be, List.length_nil, List.drop_zero,
    List.nil_append, Nat.reduceAdd] at h₁ h₂ h₃ h₄ h₅
  simp only [ofBytes, toBytes, List.append_assoc, h₁, h₂, h₃, h₄, h₅, fromBe_be_32, fromBe_be_16]

end STNetMsgXpHeader

/-! ### Packing and unpacking -/

/-- The `LONGLINK_UNPACK_*` codes the packer uses. -/
inductive UnpackRet where
  | longlinkUnpackContinue
  | longlinkUnpackFalse
  | longlinkUnpackOk
  deriving DecidableEq, Repr

/-- What `__unpack_test` returns and leaves in its reference parameters. -/
structure UnpackTest where
  ret : UnpackRet
  cmdid : UInt32
  seq : UInt32
  packageLen : UInt32
  bodyLen : UInt32
  deriving DecidableEq, Repr

/-- `__unpack_test`, on the values `cmdid` and `seq` had before the call. -/
def unpackTest (sgClientVersion : UInt32) (packed : Bytes) (cmdid seq : UInt32) : UnpackTest :=
  if packed.length < STNetMsgXpHeader.size then ⟨.longlinkUnpackContinue, cmdid, seq, 0, 0⟩
  else
    let st := STNetMsgXpHeader.ofBytes packed
    if st.clientVersion.toUInt32 ≠ sgClientVersion then ⟨.longlinkUnpackFalse, cmdid, seq, 0, 0⟩
    else
      let packageLen := st.packLength
      let bodyLen := packageLen - st.headLength.toUInt32
      let ret : UnpackRet :=
        if packageLen > 1024 * 1024 then .longlinkUnpackFalse
        else if packageLen.toNat > packed.length then .longlinkUnpackContinue
        else .longlinkUnpackOk
      ⟨ret, st.cmdid, st.seq, packageLen, bodyLen⟩

/-- `longlink_pack`, on the body's bytes. -/
def longlinkPack (sgClientVersion cmdid seq : UInt32) (body : Bytes) : Bytes :=
  STNetMsgXpHeader.toBytes
    { packLength := .ofNat (body.length + STNetMsgXpHeader.size)
      headLength := .ofNat STNetMsgXpHeader.size
      clientVersion := sgClientVersion.toUInt16
      cmdid, seq } ++ body

/-- What `longlink_unpack` returns and leaves in its reference parameters.  `body` is `none` where
the bytes written to it are not all bytes of `packed`. -/
structure Unpacked where
  ret : UnpackRet
  cmdid : UInt32
  seq : UInt32
  packageLen : UInt32
  body : Option Bytes
  deriving DecidableEq, Repr

/-- `longlink_unpack`. -/
def longlinkUnpack (sgClientVersion : UInt32) (packed : Bytes) (cmdid seq : UInt32) : Unpacked :=
  let t := unpackTest sgClientVersion packed cmdid seq
  match t.ret with
  | .longlinkUnpackOk =>
      ⟨t.ret, t.cmdid, t.seq, t.packageLen,
        slice packed (t.packageLen - t.bodyLen).toNat t.bodyLen.toNat⟩
  | ret => ⟨ret, t.cmdid, t.seq, t.packageLen, some []⟩

/-- `longlink_ispush`: `PUSH_DATA_CMDID` and `RECV_PUSH_CMDID`, for no task. -/
def longlinkIspush (cmdid : UInt32) (taskid : Nat) : Bool :=
  taskid = 0 ∧ (cmdid = 122 ∨ cmdid = 24)

/-! ### The test -/

/-- A buffer whose first bytes are a header of the client's version, `pack_length` within the
limit and within the buffer. -/
structure Accepted (sgClientVersion : UInt32) (packed : Bytes) : Prop where
  header : STNetMsgXpHeader.size ≤ packed.length
  version : (STNetMsgXpHeader.ofBytes packed).clientVersion.toUInt32 = sgClientVersion
  limit : (STNetMsgXpHeader.ofBytes packed).packLength ≤ 1024 * 1024
  whole : (STNetMsgXpHeader.ofBytes packed).packLength.toNat ≤ packed.length

section Test
variable {v : UInt32} {packed : Bytes} {cmdid seq : UInt32}

/-- **What the test accepts**, and what it reports then. -/
theorem unpackTest_ok_iff :
    (unpackTest v packed cmdid seq).ret = .longlinkUnpackOk ↔ Accepted v packed := by
  rw [unpackTest]
  by_cases h₁ : packed.length < STNetMsgXpHeader.size
  · rw [if_pos h₁]
    exact ⟨fun h => (by cases h), fun h => absurd h.header (Nat.not_le_of_lt h₁)⟩
  · rw [if_neg h₁]
    by_cases h₂ : (STNetMsgXpHeader.ofBytes packed).clientVersion.toUInt32 ≠ v
    · rw [if_pos h₂]
      exact ⟨fun h => (by cases h), fun h => absurd h.version h₂⟩
    · rw [if_neg h₂]
      dsimp only
      by_cases h₃ : (STNetMsgXpHeader.ofBytes packed).packLength > 1024 * 1024
      · rw [if_pos h₃]
        exact ⟨fun h => (by cases h), fun h => absurd h.limit (UInt32.not_le.mpr h₃)⟩
      · rw [if_neg h₃]
        by_cases h₄ : (STNetMsgXpHeader.ofBytes packed).packLength.toNat > packed.length
        · rw [if_pos h₄]
          exact ⟨fun h => (by cases h), fun h => absurd h.whole (Nat.not_le_of_lt h₄)⟩
        · rw [if_neg h₄]
          exact ⟨fun _ => ⟨Nat.le_of_not_lt h₁, not_not.mp h₂, UInt32.not_lt.mp h₃,
            Nat.le_of_not_lt h₄⟩, fun _ => rfl⟩

theorem Accepted.unpackTest_eq (h : Accepted v packed) : unpackTest v packed cmdid seq =
    let st := STNetMsgXpHeader.ofBytes packed
    ⟨.longlinkUnpackOk, st.cmdid, st.seq, st.packLength,
      st.packLength - st.headLength.toUInt32⟩ := by
  rw [unpackTest, if_neg (Nat.not_lt_of_le h.header), if_neg (not_not.mpr h.version)]
  dsimp only
  rw [if_neg (UInt32.not_lt.mpr h.limit), if_neg (Nat.not_lt_of_le h.whole)]

/-- On an accepted frame the copy starts at `head_length` and is as long as the wrapped
difference says. -/
theorem Accepted.longlinkUnpack_eq (h : Accepted v packed) : longlinkUnpack v packed cmdid seq =
    let st := STNetMsgXpHeader.ofBytes packed
    ⟨.longlinkUnpackOk, st.cmdid, st.seq, st.packLength,
      slice packed st.headLength.toNat (st.packLength - st.headLength.toUInt32).toNat⟩ := by
  rw [longlinkUnpack, h.unpackTest_eq]
  have hself (a b : UInt32) : a - (a - b) = b := by grind
  simp only [hself, UInt16.toNat_toUInt32]

theorem longlinkUnpack_ret : (longlinkUnpack v packed cmdid seq).ret =
    (unpackTest v packed cmdid seq).ret := by
  rw [longlinkUnpack]
  cases (unpackTest v packed cmdid seq).ret <;> rfl

theorem longlinkUnpack_ok_iff :
    (longlinkUnpack v packed cmdid seq).ret = .longlinkUnpackOk ↔ Accepted v packed := by
  rw [longlinkUnpack_ret, unpackTest_ok_iff]

end Test

/-! ### Frames read inside their bounds -/

/-- What an accepted frame has to satisfy: the two length fields are in order, their difference
does not wrap, and the body is the part of the frame behind the header. -/
def ReadsInside (sgClientVersion : UInt32) (packed : Bytes) (cmdid seq : UInt32) : Prop :=
  let st := STNetMsgXpHeader.ofBytes packed
  let u := longlinkUnpack sgClientVersion packed cmdid seq
  u.ret = .longlinkUnpackOk →
    st.headLength.toNat ≤ st.packLength.toNat ∧ st.packLength.toNat ≤ packed.length ∧
    (st.packLength - st.headLength.toUInt32).toNat = st.packLength.toNat - st.headLength.toNat ∧
    u.body = some ((packed.take st.packLength.toNat).drop st.headLength.toNat)

section Bounds
variable {v : UInt32} {packed : Bytes} {cmdid seq : UInt32}

theorem toNat_packLength_sub (st : STNetMsgXpHeader) :
    (st.packLength - st.headLength.toUInt32).toNat =
      (2 ^ 32 - st.headLength.toNat + st.packLength.toNat) % 2 ^ 32 := by
  rw [UInt32.toNat_sub, UInt16.toNat_toUInt32]

/-- A frame shorter than its header: the copy is nearly `2 ^ 32` bytes long and leaves any buffer
that fits in memory. -/
theorem Accepted.body_eq_none (h : Accepted v packed) (hmem : packed.length < 2 ^ 32)
    (hlt : (STNetMsgXpHeader.ofBytes packed).packLength.toNat <
      (STNetMsgXpHeader.ofBytes packed).headLength.toNat) :
    (longlinkUnpack v packed cmdid seq).body = none := by
  have h16 := (STNetMsgXpHeader.ofBytes packed).headLength.toNat_lt
  have hsub := toNat_packLength_sub (STNetMsgXpHeader.ofBytes packed)
  rw [h.longlinkUnpack_eq]
  exact if_neg (by omega)

/-- **Which frames are read inside their bounds**: all but the accepted ones whose `head_length`
is larger than their `pack_length`. -/
theorem readsInside_iff : ReadsInside v packed cmdid seq ↔
    ¬ (Accepted v packed ∧ (STNetMsgXpHeader.ofBytes packed).packLength.toNat <
      (STNetMsgXpHeader.ofBytes packed).headLength.toNat) := by
  constructor
  · rintro h ⟨ha, hlt⟩
    have := (h (longlinkUnpack_ok_iff.mpr ha)).1
    omega
  · intro h hok
    have ha := longlinkUnpack_ok_iff.mp hok
    have hle := Nat.le_of_not_lt fun hlt => h ⟨ha, hlt⟩
    have hwhole := ha.whole
    have hlimit : _ ≤ 1024 * 1024 := UInt32.le_iff_toNat_le.mp ha.limit
    have hd := toNat_packLength_sub (STNetMsgXpHeader.ofBytes packed)
    have hsub : ((STNetMsgXpHeader.ofBytes packed).packLength -
        (STNetMsgXpHeader.ofBytes packed).headLength.toUInt32).toNat =
        (STNetMsgXpHeader.ofBytes packed).packLength.toNat -
          (STNetMsgXpHeader.ofBytes packed).headLength.toNat := by omega
    refine ⟨hle, hwhole, hsub, ?_⟩
    rw [ha.longlinkUnpack_eq]
    dsimp only
    rw [hsub, slice_of_le (by omega), List.drop_take]

/-- A header alone, its `pack_length` 16 and its `head_length` 17. -/
theorem not_readsInside : ¬ ∀ (sgClientVersion : UInt32) (packed : Bytes) (cmdid seq : UInt32),
    ReadsInside sgClientVersion packed cmdid seq := fun h =>
  absurd (h 1 [0, 0, 0, 16, 0, 17, 0, 1, 0, 0, 0, 0, 0, 0, 0, 0] 0 0 (by decide)).1 (by decide)

end Bounds

end MicroChat
