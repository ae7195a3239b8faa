import MicroChat.Business.SyncKey
import MicroChat.Db.LoadDB

/-!
# Business — AuthInfo

The sync key as `CAuthInfo` stores it and reads it back, and `LoadFromDB`, which goes by it.

* `CAuthInfo.getSyncKey`, `loadFromDB`: the functions of `AuthInfo.cpp` and `interface.cpp`.
* `readsKey_setSyncKey_iff`: what is read once a key has been stored, whatever becomes of the
  statements.
* `getSyncKey_setSyncKey_iff`: which keys come back.
-/

namespace MicroChat
open Support

/-- `string CAuthInfo::GetSyncKey()`; `none` where the text of the key does not fit into the array
it is copied to. -/
def CAuthInfo.getSyncKey (E : Sqlite) (s : Sql3) : Sql3 × Option Bytes :=
  let (s, strSyncKey) := CMicroChatDB.getSyncKey E s
  (s, strSyncKey.map hex2bin)

/-- `void LoadFromDB()` on the database it has opened: the database afterwards, and whether it
calls `NewInit`.  With a key, `LoadContact` and `LoadMsgRecord` execute one statement each, which
reads. -/
def loadFromDB (E : Sqlite) (s : Sql3) : Option (Sql3 × Bool) :=
  let (s, strSync) := CAuthInfo.getSyncKey E s
  strSync.map fun strSync =>
    if strSync.length = 0 then (CMicroChatDB.clearDB E s, true)
    else ({ s with calls := s.calls + 2 }, false)

/-! ### What is read back -/

/-- `GetSyncKey` returns this key, its statement succeeding. -/
def ReadsKey (db : Sql3) (key : Bytes) : Prop :=
  (CMicroChatDB.copiedKey ((db.rows synckeyTable).getD [])).map hex2bin = some key

/-- A statement about the key table is executed as the `n`th call. -/
def Executes (E : Sqlite) (db : Sql3) (n : Nat) : Prop :=
  (db.rows synckeyTable).isSome ∧ E.fails n = false

/-- With `key'` being stored, `key` is read afterwards: `key'` if it is inserted and fits, else the
empty text if the old key has been deleted, else the old key. -/
def KeyStored (E : Sqlite) (db : Sql3) (key' key : Bytes) : Prop :=
  (Executes E db (db.calls + 1) → key = key' ∧ 3 * key'.length < 4096 ∧
    (Executes E db db.calls ∨ ∃ old, ReadsKey db old)) ∧
  (¬ Executes E db (db.calls + 1) → (Executes E db db.calls → key = []) ∧
    (¬ Executes E db db.calls → ReadsKey db key))

section
variable {E : Sqlite} {db : Sql3} {rows : List Row} {key key' : Bytes}

theorem executes_iff {n : Nat} (h : db.rows synckeyTable = some rows) :
    Executes E db n ↔ E.fails n = false :=
  and_iff_right (by rw [h]; rfl)

theorem readsKey_iff (h : db.rows synckeyTable = some rows) :
    ReadsKey db key ↔ (CMicroChatDB.copiedKey rows).map hex2bin = some key := by
  rw [ReadsKey, h, Option.getD_some]

/-- Without its table a database has the empty key. -/
theorem readsKey_of_rows_none (h : db.rows synckeyTable = none) : ReadsKey db key ↔ key = [] := by
  have hnil : (CMicroChatDB.copiedKey []).map hex2bin = some [] := rfl
  rw [ReadsKey, h, Option.getD_none, hnil, Option.some_inj, eq_comm]

theorem getSyncKey_eq_some_iff (hf : E.fails db.calls = false) :
    (CAuthInfo.getSyncKey E db).2 = some key ↔ ReadsKey db key := by
  obtain ⟨m_pDB, n⟩ := db
  cases m_pDB with
  | none => exact Iff.rfl
  | some db =>
      change (CMicroChatDB.getSyncKey E ⟨some db, n⟩).2.map hex2bin = some key ↔ _
      rw [CMicroChatDB.getSyncKey_of_open hf]
      exact Iff.rfl

/-- A statement that fails reads nothing. -/
theorem getSyncKey_of_fails (hf : E.fails db.calls = true) :
    (CAuthInfo.getSyncKey E db).2 = some [] := by
  obtain ⟨m_pDB, n⟩ := db
  change E.fails n = true at hf
  cases m_pDB with
  | none => rfl
  | some db =>
      simp only [CAuthInfo.getSyncKey, CMicroChatDB.getSyncKey, Sql3.select, Sqlite.select, hf,
        if_true]
      rfl

/-- What is read of rows that a key has been added to: the key, if all of them can be copied. -/
theorem copiedKey_add (old : List Row) (key' : Bytes) :
    (CMicroChatDB.copiedKey (old ++ [synckeyColumns.zip [bin2Hex key']])).map hex2bin = some key ↔
      key = key' ∧ 3 * key'.length < 4096 ∧
        ∃ k, (CMicroChatDB.copiedKey old).map hex2bin = some k := by
  rw [CMicroChatDB.copiedKey_append (zero_notMem_bin2Hex key'), length_bin2Hex]
  cases CMicroChatDB.copiedKey old with
  | none =>
      refine iff_of_false (fun h => (by cases h)) ?_
      rintro ⟨-, -, k, hk⟩
      cases hk
  | some t =>
      rw [Option.bind_some]
      by_cases hlen : 3 * key'.length < 4096
      · rw [if_pos hlen, Option.map_some, hex2bin_bin2Hex, Option.some_inj]
        exact ⟨fun h => ⟨h.symm, hlen, _, rfl⟩, fun h => h.1.symm⟩
      · rw [if_neg hlen]
        exact iff_of_false (fun h => (by cases h)) fun h => hlen h.2.1

/-- Nothing is stored where the table is not there. -/
theorem keyStored_of_rows_none (h : db.rows synckeyTable = none) (key' : Bytes) :
    KeyStored E db key' key ↔ ReadsKey db key := by
  have hno (n : Nat) : ¬ Executes E db n := by
    rintro ⟨hsome, -⟩
    rw [h] at hsome
    cases hsome
  simp only [KeyStored, hno, false_imp_iff, not_false_iff, true_imp_iff, true_and]

/-- **What is read once a key has been stored**, whatever becomes of the two statements. -/
theorem readsKey_setSyncKey_iff (P : Platform) (key' : Bytes) :
    ReadsKey (setSyncKey P E db key') key ↔ KeyStored E db key' key := by
  obtain ⟨m_pDB, n⟩ := db
  cases m_pDB with
  | none => exact (keyStored_of_rows_none rfl key').symm
  | some db =>
      have hafter := @rows_setSyncKey P E db n key'
      change _ = ((⟨some db, n⟩ : Sql3).rows synckeyTable).map _ at hafter
      cases hrows : (⟨some db, n⟩ : Sql3).rows synckeyTable with
      | none =>
          rw [keyStored_of_rows_none hrows, readsKey_of_rows_none hrows]
          refine readsKey_of_rows_none ?_
          rw [hafter, hrows, Option.map_none]
      | some rows =>
          have hnil : (CMicroChatDB.copiedKey []).map hex2bin = some [] := rfl
          rw [hrows, Option.map_some] at hafter
          simp only [readsKey_iff hafter, KeyStored, executes_iff hrows, readsKey_iff hrows]
          cases E.fails (n + 1) with
          | true =>
              cases E.fails n with
              | true => simp
              | false => simp [hnil, eq_comm]
          | false =>
              cases E.fails n with
              | true => simp only [if_true, Bool.false_eq_true, if_false, copiedKey_add]; simp
              | false =>
                  simp only [Bool.false_eq_true, if_false, copiedKey_add, hnil]
                  simp

/-- Both statements being executed, the new key is read if it fits. -/
theorem keyStored_iff_of_executes (h : ∀ i, Executes E db i) :
    KeyStored E db key' key ↔ key = key' ∧ 3 * key'.length < 4096 := by
  simp only [KeyStored, h, true_imp_iff, not_true, false_imp_iff, and_true, true_or]

end

/-- **Which sync keys come back.**  A key that has been set on an open database, all statements
succeeding, is read back, by a copy that stays in its 4096 characters, exactly when its hex text,
three characters a byte, fits in there with its terminator. -/
theorem getSyncKey_setSyncKey_iff (P : Platform) {E : Sqlite} {db : Database} {n : Nat}
    {rows : List Row} (key : Bytes) (hopen : db.tables synckeyTable = some rows)
    (hok : ∀ i, E.fails i = false) :
    (CAuthInfo.getSyncKey E (setSyncKey P E ⟨some db, n⟩ key)).2 = some key ↔
      3 * key.length < 4096 := by
  have hexec (i : Nat) : Executes E ⟨some db, n⟩ i :=
    (executes_iff (show (⟨some db, n⟩ : Sql3).rows synckeyTable = _ from hopen)).mpr (hok i)
  rw [getSyncKey_eq_some_iff (hok _), readsKey_setSyncKey_iff, keyStored_iff_of_executes hexec]
  exact and_iff_right rfl

/-- A database whose tables are all there, and empty. -/
def emptyDb : Database := ⟨fun _ => some []⟩

/-- A key of six bytes. -/
theorem getSyncKey_setSyncKey_six :
    (CAuthInfo.getSyncKey plainEnv.sqlite (setSyncKey asciiPlatform plainEnv.sqlite
      ⟨some emptyDb, 0⟩ [0x12, 0x04, 0x12, 0x02, 0x10, 0x05])).2 =
        some [0x12, 0x04, 0x12, 0x02, 0x10, 0x05] :=
  (getSyncKey_setSyncKey_iff asciiPlatform _ rfl fun _ => rfl).mpr (by decide)

/-- A key of 1366 bytes is copied beyond the end of the array. -/
theorem not_getSyncKey_setSyncKey : ¬ ∀ (P : Platform) (E : Sqlite) (db : Database) (n : Nat)
    (rows : List Row) (key : Bytes), db.tables synckeyTable = some rows →
    (∀ i, E.fails i = false) →
    (CAuthInfo.getSyncKey E (setSyncKey P E ⟨some db, n⟩ key)).2 = some key := by
  intro h
  have hkey := h asciiPlatform plainEnv.sqlite emptyDb 0 [] (List.replicate 1366 0) rfl fun _ => rfl
  rw [getSyncKey_eq_some_iff rfl, readsKey_setSyncKey_iff,
    keyStored_iff_of_executes fun i => ⟨rfl, rfl⟩, List.length_replicate] at hkey
  exact absurd hkey.2 (by decide)

end MicroChat
