import MicroChat.Longlink.Packer
import MicroChat.Support.Framing

/-!
# Longlink — Receive

The receiving half of `LongLink::__RunReadWrite` (`mars/stn/src/longlink.cc`) over the packer:
`bufrecv` grows by what a `recv` returned, and `longlink_unpack` is called on it while it is not
empty.

* `unpackFrame`: one iteration, as a `Framing.Verdict`.
* `longlink_codec`, `longlink_receive`: frames of bounded bodies are delivered in order from any
  cut of the stream.
* `ZeroFrame`, `receiveEnds_iff`: the loop over a buffer ends, each accepted frame non-empty,
  exactly when no frame in it starts with a `pack_length` of 0.
-/

namespace MicroChat
open Support Support.Framing

/-- What `__RunReadWrite` hands to `OnResponse`. -/
structure Received where
  cmdid : UInt32
  taskid : UInt32
  body : Bytes
  deriving DecidableEq, Repr

/-- One iteration of the loop: `longlink_unpack`, then `bufrecv.Move(-packlen)` unless the frame
is not complete or not one.  `cmdid` and `taskid` start as 0. -/
def unpackFrame (sgClientVersion : UInt32) (bufrecv : Bytes) : Verdict Received :=
  let u := longlinkUnpack sgClientVersion bufrecv 0 0
  match u.ret with
  | .longlinkUnpackFalse => .bad
  | .longlinkUnpackContinue => .wait
  | .longlinkUnpackOk =>
      match u.body with
      | some body => .ok u.packageLen.toNat ⟨u.cmdid, u.seq, body⟩
      | none => .fault

/-! ### Delivery -/

/-- A frame to send, its body within the receiver's limit. -/
structure Frame where
  cmdid : UInt32
  seq : UInt32
  body : Bytes
  fits : body.length + STNetMsgXpHeader.size ≤ 1024 * 1024

namespace Frame

/-- The header `longlink_pack` writes. -/
def header (v : UInt32) (f : Frame) : STNetMsgXpHeader where
  packLength := .ofNat (f.body.length + STNetMsgXpHeader.size)
  headLength := .ofNat STNetMsgXpHeader.size
  clientVersion := v.toUInt16
  cmdid := f.cmdid
  seq := f.seq

def pack (v : UInt32) (f : Frame) : Bytes := longlinkPack v f.cmdid f.seq f.body

def received (f : Frame) : Received := ⟨f.cmdid, f.seq, f.body⟩

theorem pack_eq (v : UInt32) (f : Frame) : f.pack v = (f.header v).toBytes ++ f.body := rfl

theorem length_pack (v : UInt32) (f : Frame) : (f.pack v).length = 16 + f.body.length := by
  rw [pack_eq, List.length_append, STNetMsgXpHeader.length_toBytes]
  rfl

theorem toNat_packLength (v : UInt32) (f : Frame) :
    (f.header v).packLength.toNat = 16 + f.body.length := by
  have := f.fits
  have h16 : STNetMsgXpHeader.size = 16 := rfl
  change (UInt32.ofNat _).toNat = _
  rw [UInt32.toNat_ofNat', Nat.mod_eq_of_lt (by omega)]
  omega

/-- The header is of the receiver's version and within its limit. -/
theorem header_ok {v : UInt32} (hv : v.toNat < 65536) (f : Frame) :
    (f.header v).clientVersion.toUInt32 = v ∧ (f.header v).packLength ≤ 1024 * 1024 := by
  constructor
  · change v.toUInt16.toUInt32 = v
    rw [← UInt32.toNat_inj, UInt16.toNat_toUInt32, UInt32.toNat_toUInt16]
    exact Nat.mod_eq_of_lt hv
  · have := f.fits
    have h16 : STNetMsgXpHeader.size = 16 := rfl
    rw [UInt32.le_iff_toNat_le, toNat_packLength]
    change _ ≤ 1048576
    omega

end Frame

/-- **The packer is a codec** for the loop. -/
theorem longlink_codec {v : UInt32} (hv : v.toNat < 65536) :
    Codec (unpackFrame v) (Frame.pack v) Frame.received where
  ne_nil f h := by
    have := f.length_pack v
    rw [h, List.length_nil] at this
    omega
  whole f rest := by
    obtain ⟨hver, hlim⟩ := f.header_ok hv
    have hst : STNetMsgXpHeader.ofBytes (f.pack v ++ rest) = f.header v := by
      rw [f.pack_eq, List.append_assoc, STNetMsgXpHeader.ofBytes_toBytes]
    have hlen := f.length_pack v
    have hpl := f.toNat_packLength v
    have ha : Accepted v (f.pack v ++ rest) := by
      refine ⟨?_, hst ▸ hver, hst ▸ hlim, ?_⟩
      · rw [List.length_append, hlen, STNetMsgXpHeader.size]
        omega
      · rw [hst, List.length_append, hpl, hlen]
        omega
    have hsub : ((f.header v).packLength - (f.header v).headLength.toUInt32).toNat =
        f.body.length := by
      have h16 : (f.header v).headLength.toNat = 16 := rfl
      have := f.fits
      rw [toNat_packLength_sub, hpl, h16]
      omega
    rw [unpackFrame, ha.longlinkUnpack_eq, hst]
    dsimp only
    rw [hsub, slice_of_le (by rw [List.length_append, hlen]; exact Nat.le_add_right _ _)]
    have hbody : ((f.pack v ++ rest).drop 16).take f.body.length = f.body := by
      have h16 : ((f.header v).toBytes).length = 16 := STNetMsgXpHeader.length_toBytes _
      rw [f.pack_eq, List.append_assoc, ← h16, List.drop_left, List.take_left]
    change Verdict.ok (f.header v).packLength.toNat
      (⟨f.cmdid, f.seq, ((f.pack v ++ rest).drop 16).take f.body.length⟩ : Received) = _
    rw [hbody, hpl, hlen]
    rfl
  part f p hp hne hlt := by
    obtain ⟨hver, hlim⟩ := f.header_ok hv
    by_cases h16 : p.length < STNetMsgXpHeader.size
    · rw [unpackFrame, longlinkUnpack, unpackTest, if_pos h16]
    · -- the whole header is there, and part of the body is not
      have hhead : (f.header v).toBytes <+: p := by
        refine List.prefix_of_prefix_length_le ⟨f.body, rfl⟩ hp ?_
        rw [STNetMsgXpHeader.length_toBytes]
        exact Nat.le_of_not_lt h16
      obtain ⟨q, rfl⟩ := hhead
      have hshort : ((f.header v).toBytes ++ q).length < (f.pack v).length :=
        Nat.lt_of_le_of_ne hp.length_le fun e => hlt (hp.eq_of_length e)
      rw [f.length_pack] at hshort
      rw [unpackFrame, longlinkUnpack, unpackTest, if_neg h16,
        STNetMsgXpHeader.ofBytes_toBytes, if_neg (not_not.mpr hver)]
      dsimp only
      rw [if_neg (UInt32.not_lt.mpr hlim), if_pos (by rw [f.toNat_packLength]; exact hshort)]

/-- **Framing survives any fragmentation.**  However the packed frames are cut, the receiver never
meets a bad frame, delivers each frame once and in order, and ends with an empty buffer. -/
theorem longlink_receive {v : UInt32} (hv : v.toNat < 65536) {fs : List Frame}
    {chunks : List Bytes} (hc : chunks.flatten = fs.flatMap (Frame.pack v)) {fuel : Nat}
    (hf : fs.length < fuel) :
    receive (unpackFrame v) fuel [] chunks = some ⟨fs.map Frame.received, [], .waiting⟩ :=
  (longlink_codec hv).receive_frames (.inl rfl) hc hf

/-- Two frames in three chunks, the cuts in a header and in a body. -/
theorem receive_two_frames :
    receive (unpackFrame 1) 3 []
      [[0, 0, 0, 18, 0, 16, 0, 1, 0, 0, 0], [121, 0, 0, 0, 7, 0xbf, 0x8e, 0, 0, 0, 17, 0, 16, 0, 1,
        0, 0, 0, 6, 0, 0, 0, 8], [0xff]] =
      some ⟨[⟨121, 7, [0xbf, 0x8e]⟩, ⟨6, 8, [0xff]⟩], [], .waiting⟩ :=
  @longlink_receive 1 (by decide)
    [⟨121, 7, [0xbf, 0x8e], by decide⟩, ⟨6, 8, [0xff], by decide⟩] _ (by decide) 3 (by decide)

/-! ### Termination -/

/-- The bytes `longlink_unpack` copies out of `s` are all in `s`. -/
def CopyInside (s : Bytes) : Prop :=
  let st := STNetMsgXpHeader.ofBytes s
  st.headLength.toNat + (st.packLength - st.headLength.toUInt32).toNat ≤ s.length

/-- `t` is what is left of `s` after some accepted frames. -/
inductive FrameStart (v : UInt32) : Bytes → Bytes → Prop where
  | here (s : Bytes) : FrameStart v s s
  | next {s t : Bytes} (ha : Accepted v s) (hc : CopyInside s)
      (ht : FrameStart v (s.drop (STNetMsgXpHeader.ofBytes s).packLength.toNat) t) :
      FrameStart v s t

/-- A header of the client's version with a `pack_length` of 0. -/
structure ZeroFrame (v : UInt32) (t : Bytes) : Prop where
  header : STNetMsgXpHeader.size ≤ t.length
  version : (STNetMsgXpHeader.ofBytes t).clientVersion.toUInt32 = v
  zero : (STNetMsgXpHeader.ofBytes t).packLength = 0

/-- Every call of the loop over `s` that says OK reports a frame of at least one byte, and the
loop ends. -/
def ReceiveEnds (v : UInt32) (s : Bytes) : Prop :=
  (∀ t, FrameStart v s t → (longlinkUnpack v t 0 0).ret = .longlinkUnpackOk →
    1 ≤ (longlinkUnpack v t 0 0).packageLen.toNat) ∧
  ∃ fuel d, drain (unpackFrame v) fuel s = some d

section Termination
variable {v : UInt32}

/-- What an iteration that delivers a frame has found. -/
theorem unpackFrame_ok_iff {s : Bytes} {n : Nat} :
    (∃ m, unpackFrame v s = .ok n m) ↔
      Accepted v s ∧ CopyInside s ∧ n = (STNetMsgXpHeader.ofBytes s).packLength.toNat := by
  constructor
  · rintro ⟨m, h⟩
    have hok : (longlinkUnpack v s 0 0).ret = .longlinkUnpackOk := by
      rw [unpackFrame] at h
      split at h
      · cases h
      · cases h
      · assumption
    have ha := longlinkUnpack_ok_iff.mp hok
    rw [unpackFrame, ha.longlinkUnpack_eq] at h
    dsimp only at h
    split at h
    · rename_i body hbody
      cases h
      exact ⟨ha, slice_isSome.mp (by rw [hbody]; rfl), rfl⟩
    · cases h
  · rintro ⟨ha, hc, rfl⟩
    rw [unpackFrame, ha.longlinkUnpack_eq]
    dsimp only
    rw [slice_of_le hc]
    exact ⟨_, rfl⟩

theorem Accepted.ne_nil {s : Bytes} (h : Accepted v s) : s ≠ [] := by
  rintro rfl
  exact absurd h.header (by decide)

theorem boundary_iff {s t : Bytes} : Boundary (unpackFrame v) s t ↔ FrameStart v s t := by
  constructor
  · intro h
    induction h with
    | refl s => exact .here s
    | more hs h _ ih =>
        obtain ⟨ha, hc, rfl⟩ := unpackFrame_ok_iff.mp ⟨_, h⟩
        exact .next ha hc ih
  · intro h
    induction h with
    | here s => exact .refl s
    | next ha hc _ ih =>
        obtain ⟨m, hm⟩ := unpackFrame_ok_iff.mpr ⟨ha, hc, rfl⟩
        exact .more ha.ne_nil hm ih

theorem ZeroFrame.accepted {t : Bytes} (h : ZeroFrame v t) : Accepted v t := by
  refine ⟨h.header, h.version, ?_, ?_⟩
  · rw [h.zero]; decide
  · rw [h.zero]; exact Nat.zero_le _

/-- **When the receive loop ends.**  The loop over a buffer ends, every accepted frame of at least
one byte, exactly when no frame of the buffer starts with a `pack_length` of 0. -/
theorem receiveEnds_iff {s : Bytes} :
    ReceiveEnds v s ↔ ∀ t, FrameStart v s t → ¬ ZeroFrame v t := by
  constructor
  · rintro ⟨hlen, -⟩ t ht hz
    have hok := hlen t ht (longlinkUnpack_ok_iff.mpr hz.accepted)
    rw [hz.accepted.longlinkUnpack_eq] at hok
    simp [hz.zero] at hok
  · intro h
    have pos : ∀ t, FrameStart v s t → Accepted v t →
        0 < (STNetMsgXpHeader.ofBytes t).packLength.toNat := by
      intro t ht ha
      refine Nat.pos_of_ne_zero fun e => h t ht ⟨ha.header, ha.version, ?_⟩
      exact UInt32.toNat_inj.mp e
    refine ⟨fun t ht hok => ?_, drain_terminates_iff.mpr fun t ht _ n m hm => ?_⟩
    · have ha := longlinkUnpack_ok_iff.mp hok
      rw [ha.longlinkUnpack_eq]
      exact pos t ht ha
    · obtain ⟨ha, -, rfl⟩ := unpackFrame_ok_iff.mp ⟨m, hm⟩
      exact pos t (boundary_iff.mp ht) ha

/-- A header of zeros but for the version: it is accepted for ever. -/
theorem not_receiveEnds :
    ¬ ReceiveEnds 1 [0, 0, 0, 0, 0, 0, 0, 1, 0, 0, 0, 0, 0, 0, 0, 0] := by
  rintro ⟨-, fuel, d, hd⟩
  rw [drain_empty_frame (m := ⟨0, 0, []⟩) (by decide) (by decide) fuel] at hd
  cases hd

end Termination

end MicroChat
