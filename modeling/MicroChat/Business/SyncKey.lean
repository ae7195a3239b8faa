import MicroChat.Business.SyncTasks

/-!
# Business — SyncKey

What a failed sync does to the sync key.  `Buf2Resp` stores the key of a response before it looks
at the items, so a response whose items are rejected has moved the key already.

* `KeyKept`, `rows_setSyncKey_iff`: when storing a key leaves the table of the key as it was.
* `RejectedLate`: the responses that fail after the key has been stored.
* `keepsKey_iff`: which responses leave the key when they fail.
-/

namespace MicroChat
open Support Support.Sql Support.Utf16

/-! ### Storing a key -/

/-- Deleting the keys and adding `hex` leave the table of the keys as it is: there is no table, or
neither statement is executed, or only the deletion and there was no key, or both and `hex` was
the key. -/
def KeyKept (E : Sqlite) (s : Sql3) (hex : Bytes) : Prop :=
  ∀ rows, s.rows synckeyTable = some rows →
    if E.fails s.calls then E.fails (s.calls + 1) = true
    else rows = if E.fails (s.calls + 1) then [] else [synckeyColumns.zip [hex]]

theorem setSyncKey_eq (P : Platform) (E : Sqlite) (s : Sql3) (key : Bytes) :
    setSyncKey P E s key =
      ((s.execSQL E (deleteText synckeyTable)).1.execSQL E
        (insertText synckeyTable synckeyColumns [bin2Hex key])).1 := by
  have hdel : unicodeToUtf8 (ofAscii (ascii "delete from synckey;")) = deleteText synckeyTable := by
    decide +kernel
  have hascii : ∀ b ∈ bin2Hex key, b < 0x80 := fun b hb =>
    ascii_lt (by decide) b (mem_bin2Hex hb)
  rw [setSyncKey, updateSyncKey, hdel, updateSyncKeyText_eq P hascii (zero_notMem_bin2Hex key)]

/-- A hex text can stand between apostrophes. -/
theorem quoteFree_bin2Hex (key : Bytes) : ∀ v ∈ [bin2Hex key], apostrophe ∉ v := by
  have hquote : apostrophe ∉ bin2Hex key := fun h => absurd (mem_bin2Hex h) (by decide)
  exact List.forall_mem_singleton.mpr hquote

theorem insertable_bin2Hex (key : Bytes) :
    Insertable synckeyTable synckeyColumns [bin2Hex key] :=
  ⟨isWord_tables.1, List.cons_ne_nil _ _, isWord_columns.1, rfl,
    List.forall_mem_singleton.mpr (zero_notMem_bin2Hex key)⟩

/-- The statements that store a key, executed one after the other. -/
theorem rows_setSyncKey {P : Platform} {E : Sqlite} {db : Database} {n : Nat} {key : Bytes} :
    (setSyncKey P E ⟨some db, n⟩ key).rows synckeyTable =
      (db.tables synckeyTable).map fun rows =>
        let rows := if E.fails n then rows else []
        if E.fails (n + 1) then rows else rows ++ [synckeyColumns.zip [bin2Hex key]] := by
  have hdel : cstr (deleteText synckeyTable) = deleteText synckeyTable := by decide +kernel
  have hins := insertable_bin2Hex key
  rw [setSyncKey_eq]
  change (E.exec (n + 1) (cstr _) (E.exec n (cstr (deleteText synckeyTable)) db).1).1.tables
    synckeyTable = _
  rw [hins.cstr_insertText, hdel, exec_insertText_eq hins (quoteFree_bin2Hex key),
    exec_deleteText isWord_tables.1]
  cases hdb : db.tables synckeyTable with
  | none => cases E.fails n <;> cases E.fails (n + 1) <;> simp [hdb]
  | some rows => cases E.fails n <;> cases E.fails (n + 1) <;> simp [hdb]

/-- **When storing a key changes nothing.** -/
theorem rows_setSyncKey_iff {P : Platform} {E : Sqlite} {s : Sql3} {key : Bytes} :
    (setSyncKey P E s key).rows synckeyTable = s.rows synckeyTable ↔
      KeyKept E s (bin2Hex key) := by
  obtain ⟨m_pDB, n⟩ := s
  cases m_pDB with
  | none => exact ⟨fun _ _ h => (by cases h), fun _ => rfl⟩
  | some db =>
      change _ = db.tables synckeyTable ↔ ∀ rows, db.tables synckeyTable = some rows → _
      rw [rows_setSyncKey]
      cases db.tables synckeyTable with
      | none => exact ⟨fun _ _ h => (by cases h), fun _ => rfl⟩
      | some rows =>
          simp only [Option.map_some, Option.some_inj, forall_eq']
          cases E.fails n <;> cases E.fails (n + 1) <;> simp [eq_comm]

/-! ### Responses that fail late -/

/-- `buf2Resp`, wherever it finishes with an error, leaves the table of the key. -/
def KeepsKey (buf2Resp : Session → BaseHeader → Sql3 → Bytes → Option SyncResponse) (s : Session)
    (m : BaseHeader) (db : Sql3) (inbuffer : Bytes) : Prop :=
  ∀ r, buf2Resp s m db inbuffer = some r → r.errorCode ≠ cgiCodeOk →
    r.db.rows synckeyTable = db.rows synckeyTable

section
variable (env : Env) (H : SyncHandler) (s : Session) (m : BaseHeader) (inbuffer : Bytes)

/-- The response holds `key`, and an item that does not parse, or a count of 0 where that is an
error. -/
def RejectedLate (key : Bytes) : Prop :=
  ∃ cnt items, Opens env H s m inbuffer key cnt items ∧
    ((cnt = 0 ∧ H.onEmpty ≠ cgiCodeOk) ∨
      (0 < cnt.toInt ∧ ItemFails H.decode cnt.toInt.toNat items))

/-- No text of the item that goes into a statement holds an apostrophe. -/
def Decoded.QuoteFree (P : Platform) (storesContacts : Bool) : Decoded → Prop
  | .message pMsg => pMsg.QuoteFree P
  | .contact pInfo => storesContacts = true → pInfo.QuoteFree P
  | .skip | .bad => True

/-- No item of the response holds an apostrophe. -/
def ItemsQuoteFree : Prop :=
  ∀ key cnt items, Opens env H s m inbuffer key cnt items → ∀ item ∈ items, ∀ d,
    H.decode item = some d → d.QuoteFree env.platform H.storesContacts

end

section
variable {env : Env} {H : SyncHandler} {s : Session} {m : BaseHeader} {db : Sql3}
  {inbuffer : Bytes}

/-- Storing an item without apostrophes leaves the table of the key. -/
theorem rows_storeItem {storesContacts : Bool} {st : SyncState} {d : Decoded}
    (h : d.QuoteFree env.platform storesContacts) :
    (storeItem env storesContacts st d).db.rows synckeyTable = st.db.rows synckeyTable := by
  cases d with
  | message pMsg => exact rows_addMsg env.platform h (by decide)
  | contact pInfo =>
      cases storesContacts with
      | true => exact rows_insertContact env.platform (h rfl) (by decide)
      | false => rfl
  | skip | bad => rfl

/-- An error comes before the key is stored, or from a rejected response. -/
theorem rejected_of_error {r : SyncResponse} (h : buf2RespWith env H s m db inbuffer = some r)
    (he : r.errorCode ≠ cgiCodeOk) : r.db = db ∨ ∃ key, RejectedLate env H s m inbuffer key := by
  cases buf2RespWith_outcome h with
  | closed hdb _ => exact .inl hdb
  | empty ho hcode _ => exact .inr ⟨_, 0, _, ho, .inl ⟨rfl, hcode ▸ he⟩⟩
  | failed ho hpos hfails _ => exact .inr ⟨_, _, _, ho, .inr ⟨hpos, hfails⟩⟩
  | finished _ _ _ hcode _ => exact absurd hcode he

/-- **A rejected response** ends in an error, and without apostrophes in it has done to the key
what storing the new one does. -/
theorem rows_of_rejected (db : Sql3) {key : Bytes} (hR : RejectedLate env H s m inbuffer key)
    (hQ : ItemsQuoteFree env H s m inbuffer) :
    ∃ r, buf2RespWith env H s m db inbuffer = some r ∧ r.errorCode ≠ cgiCodeOk ∧
      r.db.rows synckeyTable =
        (setSyncKey env.platform env.sqlite db key).rows synckeyTable := by
  obtain ⟨cnt, items, ho, ⟨rfl, hempty⟩ | ⟨hpos, hfails⟩⟩ := hR
  · obtain ⟨u, hr⟩ := buf2RespWith_of_opens db ho
    exact ⟨_, hr, hempty, rfl⟩
  · obtain ⟨u, hr⟩ := buf2RespWith_of_opens db ho
    obtain ⟨st, hloop⟩ := (@itemLoop_false_iff H.decode (storeItem env H.storesContacts)
      cnt.toInt.toNat items
      ⟨{ dwSize := cnt.toInt.toNat }, setSyncKey env.platform env.sqlite db key⟩).mpr hfails
    have hcnt : cnt ≠ 0 := by
      rintro rfl
      exact absurd hpos (by decide)
    have hkey := itemLoop_preserves (f := fun st => st.db.rows synckeyTable)
      (fun item hi d hd st =>
        rows_storeItem (hQ key cnt items ho item (List.mem_of_mem_take hi) d hd)) hloop
    simp only [if_neg hcnt, if_neg (not_lt.mpr hpos.le), hloop] at hr
    exact ⟨_, hr, (by decide : cgiCodeParseProtobufErr ≠ cgiCodeOk), hkey⟩

/-- A response that is not rejected late leaves the key when it fails. -/
theorem keepsKey_of_not_rejected (h : ¬ ∃ key, RejectedLate env H s m inbuffer key) :
    KeepsKey (buf2RespWith env H) s m db inbuffer := by
  intro r hr he
  rcases rejected_of_error hr he with hdb | hR
  · rw [hdb]
  · exact absurd hR h

/-- **When a failure leaves the sync key**: just where storing the key of the response does. -/
theorem keepsKey_iff (hQ : ItemsQuoteFree env H s m inbuffer) :
    KeepsKey (buf2RespWith env H) s m db inbuffer ↔
      ∀ key, RejectedLate env H s m inbuffer key → KeyKept env.sqlite db (bin2Hex key) := by
  constructor
  · intro h key hR
    obtain ⟨r, hr, he, hrows⟩ := rows_of_rejected db hR hQ
    rw [← rows_setSyncKey_iff (P := env.platform), ← hrows]
    exact h r hr he
  · intro h r hr he
    rcases rejected_of_error hr he with hdb | ⟨key, hR⟩
    · rw [hdb]
    · obtain ⟨r', hr', -, hrows⟩ := rows_of_rejected db hR hQ
      obtain rfl : r' = r := Option.some_inj.mp (hr'.symm.trans hr)
      rw [hrows]
      exact rows_setSyncKey_iff.mpr (h key hR)

end

/-- **A failed sync and the sync key.**  Both functions leave the key on every response that they
do not reject after storing it; on one that they do, without apostrophes in its items, just where
storing the key changes nothing. -/
theorem failures_keep_key_iff (env : Env) (s : Session) (m : BaseHeader) (db : Sql3)
    (inbuffer : Bytes) :
    ((¬ ∃ key, RejectedLate env (newSyncHandler env) s m inbuffer key) →
      KeepsKey (newSyncBuf2Resp env) s m db inbuffer) ∧
    ((¬ ∃ key, RejectedLate env (newInitHandler env) s m inbuffer key) →
      KeepsKey (newInitBuf2Resp env) s m db inbuffer) ∧
    (ItemsQuoteFree env (newSyncHandler env) s m inbuffer →
      (KeepsKey (newSyncBuf2Resp env) s m db inbuffer ↔
        ∀ key, RejectedLate env (newSyncHandler env) s m inbuffer key →
          KeyKept env.sqlite db (bin2Hex key))) ∧
    (ItemsQuoteFree env (newInitHandler env) s m inbuffer →
      (KeepsKey (newInitBuf2Resp env) s m db inbuffer ↔
        ∀ key, RejectedLate env (newInitHandler env) s m inbuffer key →
          KeyKept env.sqlite db (bin2Hex key))) :=
  ⟨keepsKey_of_not_rejected, keepsKey_of_not_rejected, keepsKey_iff, keepsKey_iff⟩

/-! ### A response with a broken message -/

/-- The key `k`, and one message that is a tag without a value. -/
def brokenText : Bytes :=
  [0x12, 0x09, 0x08, 0x01, 0x12, 0x05, 0x08, 0x05, 0x12, 0x01, 0x12, 0x22, 0x01, 0x6b]

/-- `brokenText` and its padding under AES-128-CBC. -/
def brokenBody : Bytes :=
  [0x55, 0x75, 0x9d, 0x5f, 0xe1, 0x05, 0x62, 0x4c, 0x68, 0x84, 0xbc, 0x9d, 0x3a, 0xa8, 0x9e, 0xce]

def brokenResponse : Bytes :=
  [0xbf, 0x7a, 0x5f, 0, 0, 0, 0, 0, 0, 0, 0] ++ List.replicate 15 1 ++ [0x8a, 0x01, 0x0e, 0x0e] ++
    brokenBody

def brokenKey : Bytes := ascii "0123456789abcdef"

/-- Libraries that decrypt one more text under `brokenKey`. -/
def decrypting (body text : Bytes) (h : text.length = body.length) : Crypto where
  __ := plainCrypto
  cbcDecrypt key iv s := if key = brokenKey ∧ iv = brokenKey ∧ s = body then text else s
  length_cbcDecrypt key iv s := by
    split
    · rename_i hs
      rw [hs.2.2, h]
    · rfl

/-- The libraries on `brokenResponse`. -/
def brokenEnv : Env :=
  { plainEnv with
    crypto := decrypting brokenBody (brokenText ++ [0x02, 0x02]) rfl
    proto := { plainEnv.proto with
      newSyncResp := fun s =>
        if s = brokenText then some ⟨ascii "k", 1, [⟨5, [0x12]⟩]⟩ else none } }

/-- A broken message: the error is returned, and the key in the database is the new one. -/
theorem not_keepsKey_brokenResponse : ¬ ∀ env s m db inbuffer,
    KeepsKey (newSyncBuf2Resp env) s m db inbuffer := by
  intro h
  let db : Sql3 := ⟨some ⟨fun t => if t = synckeyTable then some [] else none⟩, 0⟩
  let s : Session := { authInfo := { m_Session := brokenKey } }
  have hcode : (newSyncBuf2Resp brokenEnv s {} db brokenResponse).map (·.errorCode) =
      some cgiCodeParseProtobufErr := by decide +kernel
  have hrows : (newSyncBuf2Resp brokenEnv s {} db brokenResponse).map
      (·.db.rows synckeyTable) = some (some [[(ascii "key", ascii "6b ")]]) := by decide +kernel
  obtain ⟨r, hr, he⟩ := Option.map_eq_some_iff.mp hcode
  rw [hr, Option.map_some, Option.some_inj] at hrows
  have := h brokenEnv s {} db brokenResponse r hr (by rw [he]; decide)
  rw [hrows] at this
  revert this
  decide

end MicroChat
