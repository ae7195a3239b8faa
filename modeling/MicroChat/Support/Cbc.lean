import MicroChat.Support.Bytes
import Mathlib.Data.FinEnum
import Mathlib.Data.Fintype.Vector

/-!
# Support — Cbc

Cipher block chaining over any block cipher, for texts of any length: a last block that is not
whole counts as filled up with zeros, in both directions.

* `BlockCipher`: a cipher on blocks of `n` bytes, and its inverse.
* `encrypt`, `decrypt`: what chaining makes of a text, whole blocks and as many bytes as there are.
* `chain`: the block that goes into the next one.
* `decrypt_append`: decryption behind blocks that were encrypted.
* `decrypt_take_encrypt`: decryption of a ciphertext cut to the length of its text.
* `decrypt_encrypt`, `encrypt_decrypt`: on whole blocks the two undo each other.
-/

namespace Support.Cbc

theorem xor_left_comm (a b c : UInt8) : a ^^^ (b ^^^ c) = b ^^^ (a ^^^ c) := by
  rw [← UInt8.xor_assoc, UInt8.xor_comm a b, UInt8.xor_assoc]

theorem xor_xor_cancel (a b : UInt8) : a ^^^ (a ^^^ b) = b := by
  rw [← UInt8.xor_assoc, UInt8.xor_self, UInt8.zero_xor]

/-- Two texts added byte by byte. -/
def xorBytes (s t : Bytes) : Bytes := List.zipWith (· ^^^ ·) s t

theorem length_xorBytes {s t : Bytes} (h : s.length = t.length) :
    (xorBytes s t).length = s.length := by
  rw [xorBytes, List.length_zipWith, h, Nat.min_self]

theorem xorBytes_cancel : ∀ {s t : Bytes}, s.length = t.length → xorBytes (xorBytes s t) t = s
  | [], [], _ => rfl
  | a :: s, b :: t, h => by
      have ih := xorBytes_cancel (Nat.succ_inj.mp h)
      change (a ^^^ b ^^^ b) :: xorBytes (xorBytes s t) t = a :: s
      rw [ih, UInt8.xor_assoc, UInt8.xor_self, UInt8.xor_zero]

theorem getD_xorBytes : ∀ {s t : Bytes} {i : Nat}, s.length = t.length →
    (xorBytes s t).getD i 0 = s.getD i 0 ^^^ t.getD i 0
  | [], [], i, _ => by simp [xorBytes]
  | a :: s, b :: t, 0, _ => rfl
  | a :: s, b :: t, i + 1, h => getD_xorBytes (s := s) (t := t) (Nat.succ_inj.mp h)

/-- The first `n` bytes of a text, zeros where it has ended. -/
def block (n : Nat) (s : Bytes) : Bytes := (s ++ List.replicate n 0).take n

@[simp] theorem length_block (n : Nat) (s : Bytes) : (block n s).length = n := by
  rw [block, List.length_take, List.length_append, List.length_replicate]
  omega

theorem block_of_le {n : Nat} {s : Bytes} (h : n ≤ s.length) : block n s = s.take n :=
  List.take_append_of_le_length h

theorem block_append {n : Nat} {s : Bytes} (h : s.length = n) (t : Bytes) :
    block n (s ++ t) = s := by
  rw [block_of_le (by rw [List.length_append]; omega), ← h, List.take_left]

theorem getD_block {n i : Nat} (h : i < n) (s : Bytes) : (block n s).getD i 0 = s.getD i 0 := by
  simp only [block, List.getD_eq_getElem?_getD, List.getElem?_take, h, if_true,
    List.getElem?_append, List.getElem?_replicate]
  split
  · rfl
  · rw [List.getElem?_eq_none (by omega)]
    split <;> rfl

/-- A block cipher under some key. -/
structure BlockCipher (n : Nat) where
  enc : Bytes → Bytes
  dec : Bytes → Bytes
  length_enc : ∀ b, b.length = n → (enc b).length = n
  length_dec : ∀ b, b.length = n → (dec b).length = n
  dec_enc : ∀ b, b.length = n → dec (enc b) = b

/-- Encryption undoes decryption as well: there are only finitely many blocks. -/
theorem BlockCipher.enc_dec {n : Nat} (B : BlockCipher n) {b : Bytes} (h : b.length = n) :
    B.enc (B.dec b) = b := by
  let enc : List.Vector UInt8 n → List.Vector UInt8 n :=
    fun v => ⟨B.enc v.1, B.length_enc _ v.2⟩
  let dec : List.Vector UInt8 n → List.Vector UInt8 n :=
    fun v => ⟨B.dec v.1, B.length_dec _ v.2⟩
  have hinv : Function.LeftInverse dec enc := fun v => Subtype.ext (B.dec_enc v.1 v.2)
  have hinv' : Function.LeftInverse enc dec := hinv.rightInverse_of_card_le le_rfl
  exact congrArg Subtype.val (hinv' ⟨b, h⟩)

/-- The cipher that swaps two blocks. -/
def BlockCipher.swap {n : Nat} (X Y : Bytes) (hX : X.length = n) (hY : Y.length = n) :
    BlockCipher n where
  enc x := if x = X then Y else if x = Y then X else x
  dec x := if x = X then Y else if x = Y then X else x
  length_enc x hx := by split_ifs <;> assumption
  length_dec x hx := by split_ifs <;> assumption
  dec_enc x _ := by split_ifs <;> simp_all

/-- One cipher after the other. -/
def BlockCipher.comp {n : Nat} (A B : BlockCipher n) : BlockCipher n where
  enc x := A.enc (B.enc x)
  dec x := B.dec (A.dec x)
  length_enc x hx := A.length_enc _ (B.length_enc _ hx)
  length_dec x hx := B.length_dec _ (A.length_dec _ hx)
  dec_enc x hx := by rw [A.dec_enc _ (B.length_enc _ hx), B.dec_enc _ hx]

variable {n : Nat} (B : BlockCipher n)

/-! ### Chaining -/

/-- The next block of ciphertext. -/
def encryptBlock (iv s : Bytes) : Bytes := B.enc (xorBytes (block n s) iv)

/-- `k` blocks encrypted. -/
def encryptBlocks : Nat → Bytes → Bytes → Bytes
  | 0, _, _ => []
  | k + 1, iv, s => encryptBlock B iv s ++ encryptBlocks k (encryptBlock B iv s) (s.drop n)

/-- `k` blocks decrypted. -/
def decryptBlocks : Nat → Bytes → Bytes → Bytes
  | 0, _, _ => []
  | k + 1, iv, s => xorBytes (B.dec (block n s)) iv ++ decryptBlocks k (block n s) (s.drop n)

/-- The number of blocks a text takes. -/
def blockCount (n : Nat) (s : Bytes) : Nat := (s.length + (n - 1)) / n

def encrypt (iv s : Bytes) : Bytes := encryptBlocks B (blockCount n s) (block n iv) s

def decrypt (iv s : Bytes) : Bytes :=
  (decryptBlocks B (blockCount n s) (block n iv) s).take s.length

/-- The block that `k` blocks leave for the next one. -/
def chain : Nat → Bytes → Bytes → Bytes
  | 0, iv, _ => iv
  | k + 1, iv, s => chain k (encryptBlock B iv s) (s.drop n)

variable {B}

theorem length_encryptBlock {iv : Bytes} (h : iv.length = n) (s : Bytes) :
    (encryptBlock B iv s).length = n :=
  B.length_enc _ (by rw [length_xorBytes (by rw [length_block, h]), length_block])

theorem length_encryptBlocks (k : Nat) {iv : Bytes} (s : Bytes) (h : iv.length = n) :
    (encryptBlocks B k iv s).length = k * n := by
  induction k generalizing iv s with
  | zero => exact (Nat.zero_mul n).symm
  | succ k ih =>
      rw [encryptBlocks, List.length_append, length_encryptBlock h,
        ih _ (length_encryptBlock h s)]
      ring

theorem length_decryptBlocks (k : Nat) {iv : Bytes} (s : Bytes) (h : iv.length = n) :
    (decryptBlocks B k iv s).length = k * n := by
  induction k generalizing iv s with
  | zero => exact (Nat.zero_mul n).symm
  | succ k ih =>
      have hdec := B.length_dec (block n s) (length_block n s)
      rw [decryptBlocks, List.length_append, length_xorBytes (hdec.trans h.symm), hdec,
        ih _ (length_block n s)]
      ring

theorem length_chain (k : Nat) {iv : Bytes} (s : Bytes) (h : iv.length = n) :
    (chain B k iv s).length = n := by
  induction k generalizing iv s with
  | zero => exact h
  | succ k ih => exact ih (s.drop n) (length_encryptBlock h s)

theorem le_blockCount {n : Nat} (hn : 0 < n) (s : Bytes) : s.length ≤ blockCount n s * n := by
  have h := Nat.lt_div_mul_add (a := s.length + (n - 1)) hn
  rw [blockCount]
  omega

/-- The last block holds `r` bytes of the text. -/
theorem blockCount_eq {n k r : Nat} {s : Bytes} (h : s.length = k * n + r) (hr : 0 < r)
    (hrn : r ≤ n) : blockCount n s = k + 1 := by
  have hmul : n * (k + 1) = k * n + n := by ring
  have hsum : s.length + (n - 1) = (r - 1) + n * (k + 1) := by omega
  rw [blockCount, hsum, Nat.add_mul_div_left _ _ (hr.trans_le hrn), Nat.div_eq_of_lt (by omega),
    Nat.zero_add]

/-- A ciphertext is made of whole blocks. -/
theorem length_encrypt (iv s : Bytes) : (encrypt B iv s).length = blockCount n s * n :=
  length_encryptBlocks _ s (length_block n iv)

theorem length_decrypt (hn : 0 < n) (iv s : Bytes) : (decrypt B iv s).length = s.length := by
  have h := le_blockCount hn s
  rw [decrypt, List.length_take, length_decryptBlocks _ s (length_block n iv)]
  omega

/-- The chain goes through the blocks of ciphertext. -/
theorem chain_succ (k : Nat) (iv s : Bytes) :
    chain B (k + 1) iv s = encryptBlock B (chain B k iv s) (s.drop (k * n)) := by
  induction k generalizing iv s with
  | zero =>
      rw [Nat.zero_mul, List.drop_zero]
      rfl
  | succ k ih =>
      rw [chain, ih, List.drop_drop, Nat.succ_mul, Nat.add_comm]
      rfl

/-- One more block of ciphertext, from the chain. -/
theorem encryptBlocks_succ (k : Nat) (iv s : Bytes) : encryptBlocks B (k + 1) iv s =
    encryptBlocks B k iv s ++ encryptBlock B (chain B k iv s) (s.drop (k * n)) := by
  induction k generalizing iv s with
  | zero =>
      rw [Nat.zero_mul, List.drop_zero]
      exact List.append_nil _
  | succ k ih =>
      rw [encryptBlocks, ih, List.drop_drop, ← List.append_assoc, Nat.succ_mul, Nat.add_comm]
      rfl

/-- **Decryption behind encrypted blocks**: they come back, and what follows is decrypted as one
block. -/
theorem decryptBlocks_append (k : Nat) {iv : Bytes} (s t : Bytes) (hiv : iv.length = n)
    (hlen : k * n ≤ s.length) : decryptBlocks B (k + 1) iv (encryptBlocks B k iv s ++ t) =
      s.take (k * n) ++ xorBytes (B.dec (block n t)) (chain B k iv s) := by
  induction k generalizing iv s with
  | zero =>
      rw [Nat.zero_mul, List.take_zero]
      exact List.append_nil _
  | succ k ih =>
      have hmul : (k + 1) * n = n + k * n := by ring
      have hc := length_encryptBlock (B := B) hiv s
      have hdrop : k * n ≤ (s.drop n).length := by
        rw [List.length_drop]
        omega
      have hxor : (block n s).length = iv.length := by rw [length_block, hiv]
      have hdec : xorBytes (B.dec (encryptBlock B iv s)) iv = s.take n := by
        rw [encryptBlock, B.dec_enc _ (by rw [length_xorBytes hxor, length_block]),
          xorBytes_cancel hxor, block_of_le (by omega)]
      rw [encryptBlocks, List.append_assoc, decryptBlocks, block_append hc, List.drop_left' hc,
        ih (s.drop n) hc hdrop, hdec, hmul, List.take_add, List.append_assoc]
      rfl

/-- The last block of a ciphertext cut short: as many bytes come back as are left, the whole
blocks as they were. -/
theorem decrypt_append {k : Nat} {iv s t : Bytes} (hlen : k * n ≤ s.length)
    (ht : 0 < t.length) (htn : t.length ≤ n) :
    decrypt B iv (encryptBlocks B k (block n iv) s ++ t) = s.take (k * n) ++
      (xorBytes (B.dec (block n t)) (chain B k (block n iv) s)).take t.length := by
  have hiv := length_block n iv
  have hcount : blockCount n (encryptBlocks B k (block n iv) s ++ t) = k + 1 := by
    refine blockCount_eq (r := t.length) ?_ ht htn
    rw [List.length_append, length_encryptBlocks k s hiv]
  have htake : (s.take (k * n)).length = k * n := by
    rw [List.length_take]
    omega
  rw [decrypt, hcount, decryptBlocks_append k s t hiv hlen, List.length_append,
    length_encryptBlocks k s hiv, List.take_append, htake, List.take_of_length_le (by omega),
    Nat.add_sub_cancel_left]

/-- A ciphertext cut to the length of its text: the last block is the one that is cut. -/
theorem take_encrypt {k r : Nat} {iv s : Bytes} (h : s.length = k * n + r) (hr : 0 < r)
    (hrn : r ≤ n) : (encrypt B iv s).take s.length = encryptBlocks B k (block n iv) s ++
      (encryptBlock B (chain B k (block n iv) s) (s.drop (k * n))).take r := by
  have hblocks := length_encryptBlocks (B := B) k s (length_block n iv)
  rw [encrypt, blockCount_eq h hr hrn, encryptBlocks_succ, List.take_append, hblocks, h,
    List.take_of_length_le (by omega), Nat.add_sub_cancel_left]

/-- **Decryption of a cut ciphertext**: the whole blocks come back, and of the last one what the
bytes that are left decrypt to. -/
theorem decrypt_take_encrypt {k r : Nat} {iv s : Bytes} (h : s.length = k * n + r) (hr : 0 < r)
    (hrn : r ≤ n) : decrypt B iv ((encrypt B iv s).take s.length) = s.take (k * n) ++
      (xorBytes (B.dec (block n ((encryptBlock B (chain B k (block n iv) s)
        (s.drop (k * n))).take r))) (chain B k (block n iv) s)).take r := by
  have hchain := length_chain (B := B) k s (length_block n iv)
  have hcut : ((encryptBlock B (chain B k (block n iv) s) (s.drop (k * n))).take r).length = r := by
    rw [List.length_take, length_encryptBlock hchain]
    omega
  rw [take_encrypt h hr hrn, decrypt_append (by omega) (by omega) (by omega), hcut]

/-- **Whole blocks come back.** -/
theorem decrypt_encrypt {k : Nat} {iv s : Bytes} (hn : 0 < n) (h : s.length = (k + 1) * n) :
    decrypt B iv (encrypt B iv s) = s := by
  have hlen : s.length = k * n + n := by rw [h, Nat.succ_mul]
  have hchain := length_chain (B := B) k s (length_block n iv)
  have hblock := length_encryptBlock (B := B) hchain (s.drop (k * n))
  have htail : (s.drop (k * n)).length = n := by
    rw [List.length_drop]
    omega
  have hlast : block n (s.drop (k * n)) = s.drop (k * n) := by
    rw [block_of_le htail.ge, List.take_of_length_le htail.le]
  have hxor : (block n (s.drop (k * n))).length = (chain B k (block n iv) s).length := by
    rw [length_block, hchain]
  -- nothing is cut off
  have hwhole : (encrypt B iv s).take s.length = encrypt B iv s := by
    rw [List.take_of_length_le]
    rw [length_encrypt, blockCount_eq hlen hn le_rfl, h]
  have hsame : block n (encryptBlock B (chain B k (block n iv) s) (s.drop (k * n))) =
      encryptBlock B (chain B k (block n iv) s) (s.drop (k * n)) := by
    rw [block_of_le hblock.ge, List.take_of_length_le hblock.le]
  have hdec : xorBytes (B.dec (encryptBlock B (chain B k (block n iv) s) (s.drop (k * n))))
      (chain B k (block n iv) s) = s.drop (k * n) := by
    rw [encryptBlock, B.dec_enc _ (by rw [length_xorBytes hxor, length_block]),
      xorBytes_cancel hxor, hlast]
  rw [← hwhole, decrypt_take_encrypt hlen hn le_rfl, List.take_of_length_le hblock.le, hsame, hdec,
    List.take_of_length_le htail.le]
  exact List.take_append_drop _ _

/-- What was decrypted from whole blocks encrypts to them again. -/
theorem encryptBlocks_decryptBlocks (k : Nat) {iv : Bytes} (c : Bytes) (hiv : iv.length = n)
    (hlen : c.length = k * n) : encryptBlocks B k iv (decryptBlocks B k iv c) = c := by
  induction k generalizing iv c with
  | zero =>
      rw [Nat.zero_mul, List.length_eq_zero_iff] at hlen
      rw [hlen]
      rfl
  | succ k ih =>
      rw [Nat.succ_mul] at hlen
      have hblock := length_block n c
      have hdec := B.length_dec _ hblock
      have hxor : (xorBytes (B.dec (block n c)) iv).length = n := by
        rw [length_xorBytes (hdec.trans hiv.symm), hdec]
      have hfirst : encryptBlock B iv (decryptBlocks B (k + 1) iv c) = block n c := by
        rw [decryptBlocks, encryptBlock, block_append hxor,
          xorBytes_cancel (hdec.trans hiv.symm), B.enc_dec hblock]
      have hdrop : (c.drop n).length = k * n := by
        rw [List.length_drop]
        omega
      rw [encryptBlocks, hfirst, decryptBlocks, List.drop_left' hxor, ih (c.drop n) hblock hdrop,
        block_of_le (by omega), List.take_append_drop]

/-- **Whole blocks of ciphertext come back.** -/
theorem encrypt_decrypt {k : Nat} {iv c : Bytes} (hn : 0 < n) (h : c.length = k * n) :
    encrypt B iv (decrypt B iv c) = c := by
  have hiv := length_block n iv
  have hcount (s : Bytes) (hs : s.length = k * n) : blockCount n s = k := by
    rw [blockCount, hs, Nat.add_comm, Nat.add_mul_div_right _ _ hn, Nat.div_eq_of_lt (by omega),
      Nat.zero_add]
  have hblocks := length_decryptBlocks (B := B) k c hiv
  have hdec : decrypt B iv c = decryptBlocks B k (block n iv) c := by
    rw [decrypt, hcount c h, List.take_of_length_le (by omega)]
  rw [hdec, encrypt, hcount _ hblocks, encryptBlocks_decryptBlocks k c hiv h]

end Support.Cbc
