import MicroChat.Business.Crypto
import MicroChat.Support.Tiles

/-!
# Business — RsaBlocks

`compress_rsa` and `nocompress_rsa` as the calls of `RSA_public_encrypt` they make.

* `RsaCall`, `rsaCalls`: the calls for an input of a given length.
* `RsaCall.run`, `nocompressRsa_eq`: the function makes exactly these calls.
* `rsaCalls_eq`: both of its ways cut the input at the same bounds.
* `Lossless`, `rsa_lossless`: the blocks and their slots, and what decrypts to the input.
* `FailsCleanly`, `failsCleanly_iff`: what becomes of blocks that cannot be encrypted.
-/

namespace MicroChat
open Support

/-! ### The calls -/

/-- A call of `RSA_public_encrypt`: its number, the part of the input it gets, and where in the
output it writes. -/
structure RsaCall where
  i : Nat
  pos : Nat
  blockSize : Nat
  slot : Nat
  deriving DecidableEq, Repr

/-- `blockCnt`. -/
def blockCnt (rsa_len len : Nat) : Nat :=
  len / (rsa_len - 12) + if len % (rsa_len - 12) = 0 then 0 else 1

/-- The calls for an input of `len` bytes, one for each block or one for all of it. -/
def rsaCalls (rsa_len len : Nat) : List RsaCall :=
  if len ≥ rsa_len - 12 then
    (List.range (blockCnt rsa_len len)).map fun i =>
      { i
        pos := i * (rsa_len - 12)
        blockSize :=
          if i = blockCnt rsa_len len - 1 then len - i * (rsa_len - 12) else rsa_len - 12
        slot := i * rsa_len }
  else [⟨0, 0, len, 0⟩]

/-- What `strOut` is resized to. -/
def rsaOutLen (rsa_len len : Nat) : Nat :=
  if len ≥ rsa_len - 12 then blockCnt rsa_len len * rsa_len else rsa_len

/-- The block a call is handed. -/
def RsaCall.block (s : Bytes) (call : RsaCall) : Bytes := (s.drop call.pos).take call.blockSize

/-- A call: its output goes into its slot, or `strOut` is emptied. -/
def RsaCall.run (rsa : RsaKey) (s strOut : Bytes) (call : RsaCall) : Option Bytes := do
  let block ← slice s call.pos call.blockSize
  match rsa.encrypt call.i block with
  | some c => writeAt strOut call.slot c
  | none => some []

theorem rsaBlocks_eq {rsa : RsaKey} {s : Bytes} {k : Nat} (n i : Nat) (strOut : Bytes) :
    rsaBlocks rsa s k n i strOut =
      ((List.range' i n).map fun i => (⟨i, i * (rsa.size - 12),
        if i = k - 1 then s.length - i * (rsa.size - 12) else rsa.size - 12,
        i * rsa.size⟩ : RsaCall)).foldlM (RsaCall.run rsa s) strOut := by
  induction n generalizing i strOut with
  | zero => rfl
  | succ n ih =>
      rw [rsaBlocks, List.range'_succ, List.map_cons, List.foldlM_cons]
      dsimp only [RsaCall.run]
      cases slice s (i * (rsa.size - 12))
        (if i = k - 1 then s.length - i * (rsa.size - 12) else rsa.size - 12) with
      | none => rfl
      | some block =>
          simp only [Option.bind_eq_bind, Option.bind_some]
          cases rsa.encrypt i block with
          | none => exact ih (i + 1) []
          | some c =>
              dsimp only
              cases writeAt strOut (i * rsa.size) c with
              | none => rfl
              | some strOut => exact ih (i + 1) strOut

/-- **The function makes these calls**, one after the other, into an output of the length the
source gives it. -/
theorem nocompressRsa_eq {C : Crypto} {keye keyn : Bytes} {rsa : RsaKey}
    (h : C.rsa keye keyn = some rsa) (s : Bytes) :
    nocompressRsa C keye keyn s = (rsaCalls rsa.size s.length).foldlM (RsaCall.run rsa s)
      (List.replicate (rsaOutLen rsa.size s.length) 0) := by
  rw [nocompressRsa, h, rsaCalls, rsaOutLen]
  dsimp only
  by_cases hlen : s.length ≥ rsa.size - 12
  · rw [if_pos hlen, if_pos hlen, if_pos hlen, List.range_eq_range']
    exact rsaBlocks_eq _ 0 _
  · rw [if_neg hlen, if_neg hlen, if_neg hlen, List.foldlM_cons]
    have hslice : slice s 0 s.length = some s := by
      rw [slice_of_le (by omega), List.drop_zero, List.take_length]
    simp only [RsaCall.run, hslice, Option.bind_eq_bind, Option.bind_some, List.foldlM_nil]
    cases rsa.encrypt 0 s with
    | none => rfl
    | some c => exact (Option.bind_fun_some _).symm

/-! ### Bounds -/

/-- How many calls there are. -/
def rsaCallCnt (rsa_len len : Nat) : Nat :=
  if len ≥ rsa_len - 12 then blockCnt rsa_len len else 1

/-- Where the `i`th block begins, and the one before it ends. -/
def rsaBound (rsa_len len i : Nat) : Nat := min (i * (rsa_len - 12)) len

section
variable {rsa_len len : Nat}

theorem rsaBound_le_succ (i : Nat) : rsaBound rsa_len len i ≤ rsaBound rsa_len len (i + 1) := by
  have : i * (rsa_len - 12) ≤ (i + 1) * (rsa_len - 12) := Nat.mul_le_mul_right _ (Nat.le_succ i)
  rw [rsaBound, rsaBound]
  omega

/-- The blocks before the last one end inside of the input, the last one at its end. -/
theorem blockCnt_bounds (h : 12 < rsa_len) :
    len ≤ blockCnt rsa_len len * (rsa_len - 12) ∧
      ∀ i, i + 1 < blockCnt rsa_len len → (i + 1) * (rsa_len - 12) ≤ len := by
  have hpos : 0 < rsa_len - 12 := by omega
  have hdiv := Nat.div_add_mod len (rsa_len - 12)
  have hmod := Nat.mod_lt len hpos
  have hcomm := Nat.mul_comm (len / (rsa_len - 12)) (rsa_len - 12)
  refine ⟨?_, ?_⟩
  · rw [blockCnt]
    split
    · rw [Nat.add_zero]
      omega
    · rw [Nat.succ_mul]
      omega
  · intro i hi
    have hle : i + 1 ≤ len / (rsa_len - 12) := by
      rw [blockCnt] at hi
      split at hi <;> omega
    have := Nat.mul_le_mul_right (rsa_len - 12) hle
    omega

/-- The last bound is the end of the input. -/
theorem rsaBound_callCnt (h : 12 < rsa_len) :
    rsaBound rsa_len len (rsaCallCnt rsa_len len) = len := by
  rw [rsaBound, rsaCallCnt]
  split
  · have := (@blockCnt_bounds rsa_len len h).1
    omega
  · omega

theorem rsaOutLen_eq (rsa_len len : Nat) :
    rsaOutLen rsa_len len = rsaCallCnt rsa_len len * rsa_len := by
  rw [rsaOutLen, rsaCallCnt]
  split
  · rfl
  · exact (Nat.one_mul _).symm

/-- **Both ways cut the input at the same bounds.** -/
theorem rsaCalls_eq (h : 12 < rsa_len) :
    rsaCalls rsa_len len = (List.range (rsaCallCnt rsa_len len)).map fun i =>
      ⟨i, rsaBound rsa_len len i, rsaBound rsa_len len (i + 1) - rsaBound rsa_len len i,
        i * rsa_len⟩ := by
  have hbounds := @blockCnt_bounds rsa_len len h
  rw [rsaCalls, rsaCallCnt]
  split
  · refine List.map_congr_left ?_
    intro i hi
    rw [List.mem_range] at hi
    -- a block before the last one is whole, and the last one takes the rest
    have hsucc : (i + 1) * (rsa_len - 12) = i * (rsa_len - 12) + (rsa_len - 12) :=
      Nat.succ_mul ..
    have hstart : i * (rsa_len - 12) ≤ len := by
      cases i with
      | zero => omega
      | succ i => exact hbounds.2 i hi
    by_cases hlast : i = blockCnt rsa_len len - 1
    · have hend := hbounds.1
      have hi' : blockCnt rsa_len len = i + 1 := by omega
      rw [hi'] at hend
      simp only [RsaCall.mk.injEq, rsaBound, if_pos hlast, true_and, and_true]
      omega
    · have hnext := hbounds.2 i (by omega)
      simp only [RsaCall.mk.injEq, rsaBound, if_neg hlast, true_and, and_true]
      omega
  · rename_i hlen
    simp only [List.range_one, List.map_cons, List.map_nil, rsaBound, Nat.zero_mul, Nat.zero_min,
      Nat.zero_add, Nat.one_mul, Nat.sub_zero]
    rw [Nat.min_eq_right (by omega)]

/-- The blocks lie one behind the other and make up the input. -/
theorem tiles_blocks (h : 12 < rsa_len) :
    Tiles 0 len ((rsaCalls rsa_len len).map fun call => (call.pos, call.blockSize)) := by
  have htiles := Tiles.of_bounds (rsaBound rsa_len len) rsaBound_le_succ
    (rsaCallCnt rsa_len len) 0
  rw [Nat.zero_add, rsaBound_callCnt h, rsaBound, Nat.zero_mul, Nat.zero_min] at htiles
  rw [rsaCalls_eq h, List.map_map, List.range_eq_range']
  exact htiles

/-- The slots lie one behind the other and make up the output. -/
theorem tiles_slots (h : 12 < rsa_len) : Tiles 0 (rsaOutLen rsa_len len)
    ((rsaCalls rsa_len len).map fun call => (call.slot, rsa_len)) := by
  have hstep (i : Nat) : (i + 1) * rsa_len - i * rsa_len = rsa_len := by
    rw [Nat.succ_mul, Nat.add_sub_cancel_left]
  have htiles := Tiles.of_bounds (· * rsa_len)
    (fun i => Nat.mul_le_mul_right _ (Nat.le_succ i)) (rsaCallCnt rsa_len len) 0
  simp only [hstep, Nat.zero_mul, Nat.zero_add] at htiles
  rw [rsaCalls_eq h, List.map_map, List.range_eq_range', rsaOutLen_eq]
  exact htiles

/-- No block is longer than PKCS#1 padding lets it be. -/
theorem blockSize_le (h : 12 < rsa_len) {call : RsaCall} (hc : call ∈ rsaCalls rsa_len len) :
    call.blockSize ≤ rsa_len - 12 := by
  rw [rsaCalls_eq h] at hc
  obtain ⟨i, -, rfl⟩ := List.mem_map.mp hc
  have : (i + 1) * (rsa_len - 12) = i * (rsa_len - 12) + (rsa_len - 12) := Nat.succ_mul ..
  simp only [rsaBound]
  omega

theorem length_rsaCalls (h : 12 < rsa_len) :
    (rsaCalls rsa_len len).length = rsaCallCnt rsa_len len := by
  rw [rsaCalls_eq h, List.length_map, List.length_range]

end

/-! ### Runs of calls -/

section
variable {rsa : RsaKey} {s : Bytes}

/-- The call cannot encrypt its block. -/
def RsaCall.Fails (rsa : RsaKey) (s : Bytes) (call : RsaCall) : Prop :=
  rsa.encrypt call.i (call.block s) = none

/-- What it encrypts its block to. -/
def RsaCall.cipher (rsa : RsaKey) (s : Bytes) (call : RsaCall) : Bytes :=
  (rsa.encrypt call.i (call.block s)).getD []

theorem RsaCall.encrypt_cipher {call : RsaCall} (h : ¬ call.Fails rsa s) :
    rsa.encrypt call.i (call.block s) = some (call.cipher rsa s) := by
  obtain ⟨c, hc⟩ := Option.ne_none_iff_exists'.mp h
  rw [RsaCall.cipher, hc, Option.getD_some]

theorem writeAt_append {done rest c : Bytes} (h : c.length ≤ rest.length) :
    writeAt (done ++ rest) done.length c = some (done ++ c ++ rest.drop c.length) := by
  rw [writeAt, if_pos (by rw [List.length_append]; omega), List.take_left, ← List.drop_drop,
    List.drop_left]

theorem RsaCall.run_of_fails {call : RsaCall} (hin : call.pos + call.blockSize ≤ s.length)
    (hf : call.Fails rsa s) (strOut : Bytes) : call.run rsa s strOut = some [] := by
  rw [RsaCall.Fails, RsaCall.block] at hf
  rw [RsaCall.run, slice_of_le hin]
  simp only [Option.bind_eq_bind, Option.bind_some, hf]

theorem RsaCall.run_of_encrypt {call : RsaCall} {c : Bytes}
    (hin : call.pos + call.blockSize ≤ s.length)
    (he : rsa.encrypt call.i (call.block s) = some c) (strOut : Bytes) :
    call.run rsa s strOut = writeAt strOut call.slot c := by
  rw [RsaCall.block] at he
  rw [RsaCall.run, slice_of_le hin]
  simp only [Option.bind_eq_bind, Option.bind_some, he]

/-- The next call, with the output written up to its slot. -/
theorem RsaCall.run_next {call : RsaCall} {done c : Bytes} {k : Nat}
    (hin : call.pos + call.blockSize ≤ s.length) (hslot : call.slot = done.length)
    (he : rsa.encrypt call.i (call.block s) = some c) :
    call.run rsa s (done ++ List.replicate ((k + 1) * rsa.size) 0) =
      some (done ++ c ++ List.replicate (k * rsa.size) 0) := by
  have hc := rsa.length_encrypt he
  rw [Nat.succ_mul, RsaCall.run_of_encrypt hin he, hslot,
    writeAt_append (by rw [List.length_replicate]; omega), List.drop_replicate, hc,
    Nat.add_sub_cancel]

/-- **Calls that all encrypt** fill the output with what they give, in order. -/
theorem foldlM_run_of_encrypts {calls : List RsaCall} {b : Nat} {done : Bytes}
    (hin : ∀ call ∈ calls, call.pos + call.blockSize ≤ s.length)
    (htiles : Tiles done.length b (calls.map fun call => (call.slot, rsa.size)))
    (hok : ∀ call ∈ calls, ¬ call.Fails rsa s) :
    calls.foldlM (RsaCall.run rsa s) (done ++ List.replicate (calls.length * rsa.size) 0) =
      some (done ++ (calls.map (RsaCall.cipher rsa s)).flatten) := by
  induction calls generalizing done with
  | nil => simp
  | cons call calls ih =>
      obtain ⟨hcall, hcalls⟩ := List.forall_mem_cons.mp hin
      obtain ⟨hcok, hok⟩ := List.forall_mem_cons.mp hok
      rw [List.map_cons, Tiles.cons_iff] at htiles
      obtain ⟨hslot, htiles⟩ := htiles
      have he := RsaCall.encrypt_cipher hcok
      have hlen : done.length + rsa.size = (done ++ call.cipher rsa s).length := by
        rw [List.length_append, rsa.length_encrypt he]
      rw [hlen] at htiles
      rw [List.foldlM_cons, List.length_cons, RsaCall.run_next hcall hslot he, List.map_cons,
        List.flatten_cons, ← List.append_assoc]
      exact ih hcalls htiles hok

/-- Once the output is empty, a call that encrypts writes outside of it. -/
theorem foldlM_run_nil_iff {calls : List RsaCall} {strOut : Bytes}
    (hin : ∀ call ∈ calls, call.pos + call.blockSize ≤ s.length) :
    calls.foldlM (RsaCall.run rsa s) [] = some strOut ↔
      strOut = [] ∧ ∀ call ∈ calls, call.Fails rsa s := by
  induction calls with
  | nil => simp [eq_comm]
  | cons call calls ih =>
      obtain ⟨hcall, hcalls⟩ := List.forall_mem_cons.mp hin
      rw [List.foldlM_cons, List.forall_mem_cons]
      cases he : rsa.encrypt call.i (call.block s) with
      | none =>
          rw [RsaCall.run_of_fails hcall he]
          exact (ih hcalls).trans (and_congr_right fun _ => (and_iff_right he).symm)
      | some c =>
          have hc := rsa.length_encrypt he
          have hsize := rsa.size_gt
          have hout : writeAt [] call.slot c = none :=
            if_neg (by rw [List.length_nil]; omega)
          rw [RsaCall.run_of_encrypt hcall he, hout]
          refine ⟨nofun, ?_⟩
          rintro ⟨-, hf, -⟩
          exact absurd (he.symm.trans hf) nofun

/-- **Calls of which some fail**: that is handled cleanly just if none encrypts its block after
one that has failed. -/
theorem foldlM_run_iff {calls : List RsaCall} {b : Nat} {done : Bytes}
    (hin : ∀ call ∈ calls, call.pos + call.blockSize ≤ s.length)
    (htiles : Tiles done.length b (calls.map fun call => (call.slot, rsa.size))) :
    (∃ strOut, calls.foldlM (RsaCall.run rsa s)
        (done ++ List.replicate (calls.length * rsa.size) 0) = some strOut ∧
        ((∃ call ∈ calls, call.Fails rsa s) → strOut = [])) ↔
      calls.Pairwise fun call call' => call.Fails rsa s → call'.Fails rsa s := by
  induction calls generalizing done with
  | nil => simp
  | cons call calls ih =>
      obtain ⟨hcall, hcalls⟩ := List.forall_mem_cons.mp hin
      rw [List.map_cons, Tiles.cons_iff] at htiles
      obtain ⟨hslot, htiles⟩ := htiles
      rw [List.foldlM_cons, List.pairwise_cons, List.length_cons]
      cases he : rsa.encrypt call.i (call.block s) with
      | none =>
          -- the output is emptied, and stays so only if all the others fail
          rw [RsaCall.run_of_fails hcall he]
          constructor
          · rintro ⟨strOut, hrun, -⟩
            have hall := ((foldlM_run_nil_iff hcalls).mp hrun).2
            exact ⟨fun call' h _ => hall call' h,
              List.pairwise_of_forall_mem_list fun _ _ call' h _ => hall call' h⟩
          · rintro ⟨hall, -⟩
            exact ⟨[], (foldlM_run_nil_iff hcalls).mpr ⟨rfl, fun call' h => hall call' h he⟩,
              fun _ => rfl⟩
      | some c =>
          have hlen : done.length + rsa.size = (done ++ c).length := by
            rw [List.length_append, rsa.length_encrypt he]
          have hok : ¬ call.Fails rsa s := fun hf => absurd (he.symm.trans hf) nofun
          rw [hlen] at htiles
          rw [RsaCall.run_next hcall hslot he]
          refine Iff.trans ?_ ((ih hcalls htiles).trans
            (and_iff_right fun _ _ hf => absurd hf hok).symm)
          simp only [Option.bind_eq_bind, Option.bind_some, List.mem_cons, or_and_right, exists_or,
            exists_eq_left, hok, false_or]

/-- The blocks are parts of the input. -/
theorem RsaCall.block_le {call : RsaCall} (h : call ∈ rsaCalls rsa.size s.length) :
    call.pos + call.blockSize ≤ s.length :=
  ((tiles_blocks rsa.size_gt).mem_le (List.mem_map_of_mem h)).2

/-- The blocks put together are the input. -/
theorem flatMap_block (rsa : RsaKey) (s : Bytes) :
    (rsaCalls rsa.size s.length).flatMap (RsaCall.block s) = s := by
  have h := (@tiles_blocks _ s.length rsa.size_gt).flatMap_slices s
  rw [Nat.sub_zero, List.drop_zero, List.take_length, List.flatMap_map] at h
  exact h

/-! ### Nothing is lost -/

/-- The output decrypted `rsa_len` bytes at a time. -/
def rsaDecrypt (dec : Bytes → Bytes) (rsa_len : Nat) (strOut : Bytes) : Bytes :=
  (pieces rsa_len (strOut.length / rsa_len) strOut).flatMap dec

/-- How `result` comes from `s`: the calls that are made, the blocks they are handed, the slots
they write, and what comes back if all of them encrypt. -/
structure Lossless (rsa : RsaKey) (s : Bytes) (result : Option Bytes) : Prop where
  calls : result = (rsaCalls rsa.size s.length).foldlM (RsaCall.run rsa s)
    (List.replicate (rsaOutLen rsa.size s.length) 0)
  blocks : Tiles 0 s.length
    ((rsaCalls rsa.size s.length).map fun call => (call.pos, call.blockSize))
  small : ∀ call ∈ rsaCalls rsa.size s.length, call.blockSize ≤ rsa.size - 12
  slots : Tiles 0 (rsaOutLen rsa.size s.length)
    ((rsaCalls rsa.size s.length).map fun call => (call.slot, rsa.size))
  back : ∀ dec : Bytes → Bytes, (∀ i b c, rsa.encrypt i b = some c → dec c = b) →
    (∀ call ∈ rsaCalls rsa.size s.length, ¬ call.Fails rsa s) →
    ∃ strOut, result = some strOut ∧ strOut.length = rsaOutLen rsa.size s.length ∧
      rsaDecrypt dec rsa.size strOut = s

/-- What the blocks are encrypted to decrypts to the input. -/
theorem rsaDecrypt_ciphers {dec : Bytes → Bytes}
    (hdec : ∀ i b c, rsa.encrypt i b = some c → dec c = b)
    (hok : ∀ call ∈ rsaCalls rsa.size s.length, ¬ call.Fails rsa s) :
    let strOut := ((rsaCalls rsa.size s.length).map (RsaCall.cipher rsa s)).flatten
    strOut.length = rsaOutLen rsa.size s.length ∧ rsaDecrypt dec rsa.size strOut = s := by
  have hpos := rsa.size_gt
  have hsize : ∀ c ∈ (rsaCalls rsa.size s.length).map (RsaCall.cipher rsa s),
      c.length = rsa.size := by
    intro c hc
    obtain ⟨call, hcall, rfl⟩ := List.mem_map.mp hc
    exact rsa.length_encrypt (RsaCall.encrypt_cipher (hok call hcall))
  have hlen := length_flatten_of_length hsize
  have hmap : ((rsaCalls rsa.size s.length).map (RsaCall.cipher rsa s)).map dec =
      (rsaCalls rsa.size s.length).map (RsaCall.block s) := by
    rw [List.map_map]
    refine List.map_congr_left ?_
    intro call hcall
    exact hdec _ _ _ (RsaCall.encrypt_cipher (hok call hcall))
  refine ⟨?_, ?_⟩
  · rw [hlen, List.length_map, length_rsaCalls hpos, rsaOutLen_eq]
  · rw [rsaDecrypt, hlen, Nat.mul_div_cancel _ (by omega), pieces_flatten hsize,
      List.flatMap_def, hmap, ← List.flatMap_def, flatMap_block]

/-- **The calls lose nothing.** -/
theorem lossless_calls (rsa : RsaKey) (s : Bytes) :
    Lossless rsa s ((rsaCalls rsa.size s.length).foldlM (RsaCall.run rsa s)
      (List.replicate (rsaOutLen rsa.size s.length) 0)) where
  calls := rfl
  blocks := tiles_blocks rsa.size_gt
  small call hc := blockSize_le rsa.size_gt hc
  slots := tiles_slots rsa.size_gt
  back dec hdec hok := by
    obtain ⟨hlen, hback⟩ := rsaDecrypt_ciphers hdec hok
    have hrun := @foldlM_run_of_encrypts rsa s _ _ [] (fun _ => RsaCall.block_le)
      (tiles_slots rsa.size_gt) hok
    rw [length_rsaCalls rsa.size_gt, ← rsaOutLen_eq] at hrun
    exact ⟨_, hrun, hlen, hback⟩

/-- **RSA chunking is lossless**, for an input as it is and for one that is compressed before. -/
theorem rsa_lossless {C : Crypto} {keye keyn : Bytes} (h : C.rsa keye keyn = some rsa)
    (strIn : Bytes) :
    Lossless rsa strIn (nocompressRsa C keye keyn strIn) ∧
      ∀ strCompressed, C.compress strIn = some strCompressed →
        Lossless rsa strCompressed (compressRsa C keye keyn strIn).1 := by
  refine ⟨?_, ?_⟩
  · rw [nocompressRsa_eq h]
    exact lossless_calls rsa strIn
  · intro strCompressed hz
    rw [compressRsa, hz]
    dsimp only
    rw [nocompressRsa_eq h]
    exact lossless_calls rsa strCompressed

/-- RSA with a modulus of 16 bytes and the exponent 3; the padding is filled up with ones.  The
calls for which `fails` holds get no random bytes. -/
def rsa128 (fails : Nat → Bool) : RsaKey where
  size := 16
  encrypt i s :=
    if fails i ∨ 5 < s.length then none
    else some (be 16 (fromBe (0 :: 2 :: List.replicate (13 - s.length) 1 ++ 0 :: s) ^ 3 %
      0xe5257b9cd3baa9cea2d2f108729bbc45))
  size_gt := by decide
  length_encrypt {i s c} h := by
    split at h
    · cases h
    · cases h
      exact length_be 16 _

/-- Libraries that know this key. -/
def rsa128Crypto (fails : Nat → Bool) : Crypto where
  __ := plainCrypto
  rsa keye keyn :=
    if keye = ascii "3" ∧ keyn = ascii "E5257B9CD3BAA9CEA2D2F108729BBC45" then some (rsa128 fails)
    else none

theorem rsa_rsa128Crypto (fails : Nat → Bool) : (rsa128Crypto fails).rsa (ascii "3")
    (ascii "E5257B9CD3BAA9CEA2D2F108729BBC45") = some (rsa128 fails) := by
  simp [rsa128Crypto]

/-- Five bytes, in two blocks. -/
theorem rsa_lossless_hello : Lossless (rsa128 fun _ => false) (ascii "hello")
    (nocompressRsa (rsa128Crypto fun _ => false) (ascii "3")
      (ascii "E5257B9CD3BAA9CEA2D2F108729BBC45") (ascii "hello")) :=
  (rsa_lossless (rsa_rsa128Crypto _) _).1

/-! ### Blocks that fail -/

/-- No block is written outside of the output, and the output is empty if one was not encrypted. -/
def FailsCleanly (rsa : RsaKey) (s : Bytes) (result : Option Bytes) : Prop :=
  ∃ strOut, result = some strOut ∧
    ((∃ call ∈ rsaCalls rsa.size s.length, call.Fails rsa s) → strOut = [])

/-- No block is encrypted after one that was not. -/
def NoneAfterFailure (rsa : RsaKey) (s : Bytes) : Prop :=
  (rsaCalls rsa.size s.length).Pairwise fun call call' => call.Fails rsa s → call'.Fails rsa s

theorem failsCleanly_calls_iff (rsa : RsaKey) (s : Bytes) :
    FailsCleanly rsa s ((rsaCalls rsa.size s.length).foldlM (RsaCall.run rsa s)
      (List.replicate (rsaOutLen rsa.size s.length) 0)) ↔ NoneAfterFailure rsa s := by
  have h := @foldlM_run_iff rsa s (rsaCalls rsa.size s.length) _ [] (fun _ => RsaCall.block_le)
    (tiles_slots rsa.size_gt)
  rw [length_rsaCalls rsa.size_gt, ← rsaOutLen_eq] at h
  exact h

/-- **Which failures are handled cleanly**: those after which no block is encrypted. -/
theorem failsCleanly_iff {C : Crypto} {keye keyn : Bytes} (h : C.rsa keye keyn = some rsa)
    (strIn : Bytes) :
    (FailsCleanly rsa strIn (nocompressRsa C keye keyn strIn) ↔ NoneAfterFailure rsa strIn) ∧
      ∀ strCompressed, C.compress strIn = some strCompressed →
        (FailsCleanly rsa strCompressed (compressRsa C keye keyn strIn).1 ↔
          NoneAfterFailure rsa strCompressed) := by
  refine ⟨?_, ?_⟩
  · rw [nocompressRsa_eq h]
    exact failsCleanly_calls_iff rsa strIn
  · intro strCompressed hz
    rw [compressRsa, hz]
    dsimp only
    rw [nocompressRsa_eq h]
    exact failsCleanly_calls_iff rsa strCompressed

/-- Two blocks of which the second one fails. -/
theorem failsCleanly_last :
    FailsCleanly (rsa128 (· = 1)) (ascii "hello")
        (nocompressRsa (rsa128Crypto (· = 1)) (ascii "3")
          (ascii "E5257B9CD3BAA9CEA2D2F108729BBC45") (ascii "hello")) ↔
      NoneAfterFailure (rsa128 (· = 1)) (ascii "hello") :=
  (failsCleanly_iff (rsa_rsa128Crypto _) _).1

/-- If the first one of two blocks fails, the second one is written behind the empty string. -/
theorem not_failsCleanly : ¬ ∀ (C : Crypto) (keye keyn : Bytes) (rsa : RsaKey) (strIn : Bytes),
    C.rsa keye keyn = some rsa → FailsCleanly rsa strIn (nocompressRsa C keye keyn strIn) := by
  intro h
  obtain ⟨strOut, hret, -⟩ := h (rsa128Crypto (· = 0)) (ascii "3")
    (ascii "E5257B9CD3BAA9CEA2D2F108729BBC45") _ (ascii "hello") (rsa_rsa128Crypto _)
  have hnone : nocompressRsa (rsa128Crypto (· = 0)) (ascii "3")
      (ascii "E5257B9CD3BAA9CEA2D2F108729BBC45") (ascii "hello") = none := by decide +kernel
  rw [hnone] at hret
  cases hret

end

end MicroChat
