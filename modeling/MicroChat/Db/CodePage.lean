import Mathlib.Data.Nat.Digits.Defs
import MicroChat.Support.Sql
import MicroChat.Support.Utf16

/-!
# Db — CodePage

The texts of the client and what they pass through: the system code page, UTF-16 and UTF-8, and
the `%d` of `Format`.

* `Platform`: the conversions and the calendar of the machine the client runs on.
* `unicodeToUtf8`, `utf8ToUnicode` of `db/sql.cpp`; `cStringA2Utf8`, `utf82CStringA` of
  `Business/fun.cpp`.
* `decimal`, `atoll`: numbers written by `Format` and read back.
-/

namespace MicroChat
open Support Support.Utf16

/-- The fields of `struct tm` that are printed. -/
structure Tm where
  tm_year : Int
  tm_mon : Int
  tm_mday : Int
  tm_hour : Int
  tm_min : Int
  tm_sec : Int
  deriving DecidableEq, Repr

/-- The machine the client runs on.  Every code page Windows can be set to agrees with ASCII. -/
structure Platform where
  /-- `MultiByteToWideChar(CP_ACP, …)` -/
  ca2w : Bytes → Wide
  /-- `WideCharToMultiByte(CP_ACP, …)` -/
  cw2a : Wide → Bytes
  /-- `MultiByteToWideChar(CP_UTF8, …)` -/
  utf8ToWide : Bytes → Wide
  localtime : UInt32 → Tm
  ca2w_ascii : ∀ s : Bytes, (∀ b ∈ s, b < 0x80) → ca2w s = ofAscii s

section
variable (P : Platform)

/-! ### Conversions -/

/-- `CString(CA2W(str))`. -/
def cA2W (str : Bytes) : Wide := wcstr (P.ca2w (cstr str))

/-- `CStringA(CW2A(strUnicode))`. -/
def cW2A (strUnicode : Wide) : Bytes := cstr (P.cw2a (wcstr strUnicode))

/-- `CStringA UnicodeToUtf8(CString strUnicode)`. -/
def unicodeToUtf8 (strUnicode : Wide) : Bytes := toUtf8 (wcstr strUnicode)

/-- `CString Utf8ToUnicode(CStringA strUtf8)`. -/
def utf8ToUnicode (strUtf8 : Bytes) : Wide := wcstr (P.utf8ToWide (cstr strUtf8))

/-- `CStringA CStringA2Utf8(CStringA strGbk)`. -/
def cStringA2Utf8 (strGbk : Bytes) : Bytes := unicodeToUtf8 (cA2W P strGbk)

/-- `CStringA Utf82CStringA(CStringA strUtf8)`. -/
def utf82CStringA (strUtf8 : Bytes) : Bytes := cW2A P (utf8ToUnicode P strUtf8)

theorem zero_notMem_unicodeToUtf8 (w : Wide) : (0 : UInt8) ∉ unicodeToUtf8 w :=
  zero_notMem_toUtf8 (zero_notMem_wcstr w)

theorem zero_notMem_cStringA2Utf8 (s : Bytes) : (0 : UInt8) ∉ cStringA2Utf8 P s :=
  zero_notMem_unicodeToUtf8 _

/-- What `Utf82CStringA` gives is a C string. -/
theorem zero_notMem_utf82CStringA (s : Bytes) : (0 : UInt8) ∉ utf82CStringA P s :=
  zero_notMem_cstr _

theorem cstr_utf82CStringA (s : Bytes) : cstr (utf82CStringA P s) = utf82CStringA P s :=
  cstr_eq_self (zero_notMem_utf82CStringA P s)

/-- Converting a text to UTF-8 and back gives the text. -/
def Platform.RoundTrips : Prop :=
  ∀ t : Bytes, (0 : UInt8) ∉ t → utf82CStringA P (cStringA2Utf8 P t) = t

theorem cA2W_ascii {s : Bytes} (h : ∀ b ∈ s, b < 0x80) (h0 : (0 : UInt8) ∉ s) :
    cA2W P s = ofAscii s := by
  rw [cA2W, cstr_eq_self h0, P.ca2w_ascii s h, wcstr_eq_self (zero_notMem_ofAscii h0)]

/-- ASCII text is UTF-8 as it is. -/
theorem cStringA2Utf8_ascii {s : Bytes} (h : ∀ b ∈ s, b < 0x80) (h0 : (0 : UInt8) ∉ s) :
    cStringA2Utf8 P s = s := by
  have hw : wcstr (cA2W P s) = cA2W P s := wcstr_eq_self (zero_notMem_wcstr _)
  rw [cStringA2Utf8, unicodeToUtf8, hw, cA2W_ascii P h h0, toUtf8_ofAscii h]

end

/-! ### Numbers -/

/-- The digits of a number, one for 0. -/
def natText (n : Nat) : Bytes :=
  if n = 0 then [0x30] else (Nat.digits 10 n).reverse.map fun d => UInt8.ofNat (0x30 + d)

/-- `"%d"`, and `"%lld"`. -/
def decimal (i : Int) : Bytes := if i < 0 then 0x2d :: natText i.natAbs else natText i.natAbs

/-- `"%02d"`. -/
def decimal2 (i : Int) : Bytes := if 0 ≤ i ∧ i < 10 then 0x30 :: decimal i else decimal i

/-- The value of a run of digits. -/
def digitsValue (s : Bytes) : Nat := s.foldl (fun n c => 10 * n + (c.toNat - 0x30)) 0

/-- `atoll`, on a text that is a number. -/
def atoll : Bytes → Int
  | [] => 0
  | c :: s => if c = 0x2d then -(digitsValue s : Int) else digitsValue (c :: s)

theorem mem_natText {n : Nat} {b : UInt8} (h : b ∈ natText n) :
    0x30 ≤ b.toNat ∧ b.toNat < 0x3a := by
  rw [natText] at h
  split at h
  · rw [List.mem_singleton] at h
    subst h
    decide
  · obtain ⟨d, hd, rfl⟩ := List.mem_map.mp h
    have : d < 10 := Nat.digits_lt_base (by decide) (List.mem_reverse.mp hd)
    rw [toNat_ofNat_byte (by omega)]
    omega

/-- The characters of a number are its digits and its sign. -/
theorem mem_decimal {i : Int} {b : UInt8} (h : b ∈ decimal i) :
    b = 0x2d ∨ (0x30 ≤ b.toNat ∧ b.toNat < 0x3a) := by
  rw [decimal] at h
  split at h
  · rcases List.mem_cons.mp h with rfl | h
    · exact .inl rfl
    · exact .inr (mem_natText h)
  · exact .inr (mem_natText h)

theorem mem_decimal2 {i : Int} {b : UInt8} (h : b ∈ decimal2 i) :
    b = 0x2d ∨ (0x30 ≤ b.toNat ∧ b.toNat < 0x3a) := by
  rw [decimal2] at h
  split at h
  · rcases List.mem_cons.mp h with rfl | h
    · decide
    · exact mem_decimal h
  · exact mem_decimal h

theorem digitsValue_natText (n : Nat) : digitsValue (natText n) = n := by
  rw [natText]
  split
  · rename_i h
    rw [h]
    rfl
  · have fold : ∀ ds : List Nat, (∀ d ∈ ds, d < 10) →
        digitsValue (ds.reverse.map fun d => UInt8.ofNat (0x30 + d)) = Nat.ofDigits 10 ds := by
      intro ds
      induction ds with
      | nil => intro _; rfl
      | cons d ds ih =>
          intro h
          obtain ⟨hd, hds⟩ := List.forall_mem_cons.mp h
          have := ih hds
          rw [digitsValue] at this
          rw [digitsValue, List.reverse_cons, List.map_append, List.foldl_append, this,
            Nat.ofDigits_cons, List.map_singleton, List.foldl_cons, List.foldl_nil,
            toNat_ofNat_byte (by omega)]
          change 10 * Nat.ofDigits 10 ds + (48 + d - 48) = d + 10 * Nat.ofDigits 10 ds
          omega
    rw [fold _ fun d hd => Nat.digits_lt_base (by decide) hd, Nat.ofDigits_digits]

/-- **A number reads back** as it was written. -/
theorem atoll_decimal (i : Int) : atoll (decimal i) = i := by
  rw [decimal]
  split
  · rename_i h
    rw [atoll, if_pos rfl, digitsValue_natText]
    omega
  · rename_i h
    have hval := digitsValue_natText i.natAbs
    cases hs : natText i.natAbs with
    | nil =>
        rw [hs] at hval
        change 0 = i
        change 0 = i.natAbs at hval
        omega
    | cons c s =>
        have hc : c ≠ 0x2d := by
          rintro rfl
          have := mem_natText (n := i.natAbs) (b := 0x2d) (by rw [hs]; exact List.mem_cons_self)
          exact absurd this (by decide)
        rw [hs] at hval
        rw [atoll, if_neg hc, hval]
        omega

end MicroChat
