import MicroChat.Business.AuthInfo

/-!
# Business — ContactRows

Which contacts of a response are in the database once it has been accepted.

* `HasRow`: the item is a contact, and its row is there.
* `rows_contact_of_ok`: the contact table after an accepted response.
* `contacts_durable_iff`: which accepted responses have all their contacts in it.
-/

namespace MicroChat
open Support Support.Sql

/-- The row of a contact. -/
def contactRow (P : Platform) (pInfo : ContactInfo) : Row :=
  contactColumns.zip (contactValues P pInfo)

/-- The item is a contact, and its row is among `rows`. -/
def HasRow (env : Env) (H : SyncHandler) (rows : List Row) (item : Item) : Prop :=
  ∃ pInfo, H.decode item = some (.contact pInfo) ∧ contactRow env.platform pInfo ∈ rows

/-- The row an item adds to the contact table, if its task stores contacts. -/
def addedRow (env : Env) (H : SyncHandler) (item : Item) : Option Row :=
  match H.decode item with
  | some (.contact pInfo) => if H.storesContacts then some (contactRow env.platform pInfo) else none
  | _ => none

/-- The statement the item is stored with is the insertion of its row. -/
def Decoded.IsInserted (P : Platform) (storesContacts : Bool) : Decoded → Prop
  | .message pMsg => AddsRow (addMsgText P pMsg) msgTable msgColumns (msgValues P pMsg)
  | .contact pInfo => storesContacts = true →
      AddsRow (unicodeToUtf8 (insertContactText P pInfo)) contactTable contactColumns
        (contactValues P pInfo)
  | .skip | .bad => True

/-- All statements succeed: none fails, and those of the first `n` items insert their rows. -/
def StatementsSucceed (env : Env) (H : SyncHandler) (n : Nat) (items : List Item) : Prop :=
  (∀ i, env.sqlite.fails i = false) ∧ ∀ item ∈ items.take n, ∀ d, H.decode item = some d →
    d.IsInserted env.platform H.storesContacts

/-! ### The contact table -/

section
variable {env : Env} {H : SyncHandler} {s : Session} {m : BaseHeader} {inbuffer : Bytes}

/-- One item: its row is added, or the table stays. -/
theorem rows_contact_storeItem {st : SyncState} {item : Item} {d : Decoded} {rows : List Row}
    (hd : H.decode item = some d) (hf : ∀ i, env.sqlite.fails i = false)
    (hins : d.IsInserted env.platform H.storesContacts)
    (hrows : st.db.rows contactTable = some rows) :
    (storeItem env H.storesContacts st d).db.rows contactTable =
      some (rows ++ (addedRow env H item).toList) := by
  rw [addedRow, hd]
  cases d with
  | message pMsg =>
      have hq := (addsRow_addMsgText_iff env.platform).mp hins
      change (addMsg env.platform env.sqlite st.db pMsg).rows contactTable = some (rows ++ [])
      rw [rows_addMsg env.platform hq (by decide), hrows, List.append_nil]
  | contact pInfo =>
      cases hs : H.storesContacts with
      | true =>
          have hq := (addsRow_insertContactText_iff env.platform).mp (hins hs)
          change (insertContact env.platform env.sqlite st.db pInfo).rows contactTable = _
          rw [insertContact, insertContactText_eq]
          exact rows_execSQL_insertText_self (insertable_contactValues _ _) hq (hf _) hrows
      | false => exact hrows.trans (by simp)
  | skip | bad => exact hrows.trans (by simp)

/-- The loop, to its end. -/
theorem rows_contact_itemLoop (hf : ∀ i, env.sqlite.fails i = false) {n : Nat} {items : List Item}
    {st st' : SyncState} {rows : List Row}
    (hins : ∀ item ∈ items.take n, ∀ d, H.decode item = some d →
      d.IsInserted env.platform H.storesContacts)
    (h : itemLoop H.decode (storeItem env H.storesContacts) n items st = some (true, st'))
    (hrows : st.db.rows contactTable = some rows) :
    st'.db.rows contactTable = some (rows ++ (items.take n).filterMap (addedRow env H)) := by
  induction n generalizing items st rows with
  | zero =>
      cases h
      rw [List.take_zero, List.filterMap_nil, List.append_nil]
      exact hrows
  | succ n ih =>
      cases items with
      | nil => cases h
      | cons item items =>
          rw [List.take_succ_cons] at hins ⊢
          obtain ⟨hitem, hitems⟩ := List.forall_mem_cons.mp hins
          cases hd : H.decode item with
          | none =>
              rw [itemLoop, hd] at h
              cases h
          | some d =>
              by_cases hb : d = .bad
              · subst hb
                rw [itemLoop, hd] at h
                cases h
              · rw [itemLoop_good hd hb] at h
                rw [ih hitems h (rows_contact_storeItem hd hf (hitem d hd) hrows),
                  List.filterMap_cons]
                cases addedRow env H item <;> simp

/-- Storing a key leaves the contacts. -/
theorem rows_contact_setSyncKey (P : Platform) (E : Sqlite) (db : Sql3) (key : Bytes) :
    (setSyncKey P E db key).rows contactTable = db.rows contactTable := by
  have hdel : cstr (deleteText synckeyTable) = deleteText synckeyTable := by decide +kernel
  rw [setSyncKey_eq, rows_execSQL_insertText (insertable_bin2Hex key) (quoteFree_bin2Hex key)
    (by decide)]
  obtain ⟨m_pDB, n⟩ := db
  cases m_pDB with
  | none => rfl
  | some db =>
      change (E.exec n (cstr _) db).1.tables contactTable = db.tables contactTable
      rw [hdel, exec_deleteText isWord_tables.1]
      split
      · rfl
      · split
        · exact db.set_ne (by decide) []
        · rfl

/-- **The contact table after an accepted response**: the items within the count have added their
rows.  They all are good. -/
theorem rows_contact_of_ok {r : SyncResponse} {db : Sql3} {key : Bytes} {cnt : Int32}
    {items : List Item} {rows : List Row} (ho : Opens env H s m inbuffer key cnt items)
    (hs : StatementsSucceed env H cnt.toInt.toNat items)
    (hr : buf2RespWith env H s m db inbuffer = some r) (hcode : r.errorCode = cgiCodeOk)
    (hrows : db.rows contactTable = some rows) :
    r.db.rows contactTable =
      some (rows ++ (items.take cnt.toInt.toNat).filterMap (addedRow env H)) ∧
    ∀ item ∈ items.take cnt.toInt.toNat, GoodItem H.decode item := by
  have hkey : (setSyncKey env.platform env.sqlite db key).rows contactTable = some rows :=
    (rows_contact_setSyncKey ..).trans hrows
  rcases buf2RespWith_cases ho hr with
    ⟨rfl, -, hdb, -⟩ | ⟨ok, st, -, hloop, hok, hdb, -⟩
  · have hzero : (0 : Int32).toInt.toNat = 0 := rfl
    rw [hdb, hzero, List.take_zero, List.filterMap_nil, List.append_nil]
    exact ⟨hkey, nofun⟩
  · rw [hdb]
    cases ok with
    | false => exact absurd (hcode.symm.trans hok) (by decide)
    | true =>
        exact ⟨rows_contact_itemLoop hs.1 hs.2 hloop hkey,
          (itemLoop_true_iff.mp ⟨st, hloop⟩).2⟩

end

/-! ### Durable contacts -/

section
variable {env : Env} {s : Session} {m : BaseHeader} {inbuffer : Bytes}

/-- A good contact item of `NewInit` adds the row of a contact. -/
theorem addedRow_newInit {item : Item} (hgood : GoodItem (newInitItem env) item)
    (htype : item.type = 2) : ∃ pInfo, newInitItem env item = some (.contact pInfo) ∧
      addedRow env (newInitHandler env) item = some (contactRow env.platform pInfo) := by
  obtain ⟨d, hd, hb⟩ := hgood
  have hcontact : ∃ pInfo, d = .contact pInfo := by
    rw [newInitItem, htype, if_neg (by decide), if_pos rfl] at hd
    split at hd
    · obtain ⟨pInfo, -, rfl⟩ := Option.map_eq_some_iff.mp hd
      exact ⟨pInfo, rfl⟩
    · cases hd
      exact absurd rfl hb
  obtain ⟨pInfo, rfl⟩ := hcontact
  refine ⟨pInfo, hd, ?_⟩
  rw [addedRow]
  change (match newInitItem env item with
    | some (.contact pInfo) =>
        if (newInitHandler env).storesContacts then some (contactRow env.platform pInfo) else none
    | _ => none) = _
  rw [hd]
  rfl

/-- `NewSync` adds no row. -/
theorem addedRow_newSync (item : Item) : addedRow env (newSyncHandler env) item = none := by
  rw [addedRow]
  split
  · rfl
  · rfl

/-- **Which contacts are durable.**  Once a response has been accepted, all statements succeeding,
each of its contact items has its row in the contact table: for `NewInit` exactly if those beyond
the count find theirs among the rows that were there or that the others have added; for `NewSync`
exactly if they all had it there before. -/
theorem contacts_durable_iff {db : Sql3} {r : SyncResponse} {key : Bytes} {cnt : Int32}
    {items : List Item} {rows : List Row} (hcode : r.errorCode = cgiCodeOk)
    (hrows : db.rows contactTable = some rows) :
    (newInitBuf2Resp env s m db inbuffer = some r →
      Opens env (newInitHandler env) s m inbuffer key cnt items →
      StatementsSucceed env (newInitHandler env) cnt.toInt.toNat items →
      ((∀ item ∈ items, item.type = 2 → ∃ rows', r.db.rows contactTable = some rows' ∧
          HasRow env (newInitHandler env) rows' item) ↔
        ∀ item ∈ items.drop cnt.toInt.toNat, item.type = 2 →
          HasRow env (newInitHandler env) (rows ++
            (items.take cnt.toInt.toNat).filterMap (addedRow env (newInitHandler env))) item)) ∧
    (newSyncBuf2Resp env s m db inbuffer = some r →
      Opens env (newSyncHandler env) s m inbuffer key cnt items →
      StatementsSucceed env (newSyncHandler env) cnt.toInt.toNat items →
      ((∀ item ∈ items, item.type = 2 → ∃ rows', r.db.rows contactTable = some rows' ∧
          HasRow env (newSyncHandler env) rows' item) ↔
        ∀ item ∈ items, item.type = 2 → HasRow env (newSyncHandler env) rows item)) := by
  constructor
  · intro hr ho hs
    obtain ⟨hafter, hgood⟩ := rows_contact_of_ok ho hs hr hcode hrows
    rw [hafter]
    simp only [Option.some_inj, exists_eq_left']
    refine ⟨fun h item hi => h item (List.mem_of_mem_drop hi), ?_⟩
    intro h item hi htype
    rw [← List.take_append_drop cnt.toInt.toNat items, List.mem_append] at hi
    rcases hi with hi | hi
    · obtain ⟨pInfo, hd, hadd⟩ := addedRow_newInit (hgood item hi) htype
      exact ⟨pInfo, hd, List.mem_append_right _ (List.mem_filterMap.mpr ⟨item, hi, hadd⟩)⟩
    · exact h item hi htype
  · intro hr ho hs
    obtain ⟨hafter, -⟩ := rows_contact_of_ok ho hs hr hcode hrows
    have hnone : (items.take cnt.toInt.toNat).filterMap (addedRow env (newSyncHandler env)) = [] :=
      List.filterMap_eq_nil_iff.mpr fun item _ => addedRow_newSync item
    rw [hafter, hnone, List.append_nil]
    simp only [Option.some_inj, exists_eq_left']

end

/-! ### A new contact -/

/-- The key `k`, and one item: the contact with the id `w`. -/
def contactText : Bytes :=
  [0x12, 0x0f, 0x08, 0x01, 0x12, 0x0b, 0x08, 0x02, 0x12, 0x07, 0x12, 0x05, 0x0a, 0x03, 0x0a, 0x01,
    0x77, 0x22, 0x01, 0x6b]

/-- `contactText` and its padding under AES-128-CBC. -/
def contactBody : Bytes :=
  [0x4a, 0x50, 0xa1, 0xd8, 0x03, 0xf4, 0x3b, 0xa8, 0x73, 0x64, 0xb7, 0x73, 0xb7, 0x78, 0x67, 0x4f,
    0x24, 0xe0, 0xf0, 0xaa, 0xc5, 0x35, 0xe7, 0xe8, 0xd4, 0x72, 0xd2, 0x97, 0x91, 0xab, 0x2a, 0x76]

def contactResponse : Bytes :=
  [0xbf, 0x7a, 0x5f, 0, 0, 0, 0, 0, 0, 0, 0] ++ List.replicate 15 1 ++ [0x8a, 0x01, 0x14, 0x14] ++
    contactBody

def contactItem : Item := ⟨2, [0x12, 0x05, 0x0a, 0x03, 0x0a, 0x01, 0x77]⟩

/-- The libraries on `contactResponse`. -/
def contactEnv : Env :=
  { plainEnv with
    crypto := decrypting contactBody (contactText ++ List.replicate 12 0x0c) rfl
    proto := { plainEnv.proto with
      newSyncResp := fun s => if s = contactText then some ⟨ascii "k", 1, [contactItem]⟩ else none
      commonMsg := fun s =>
        if s = contactItem.payload then some [0x0a, 0x03, 0x0a, 0x01, 0x77] else none
      contactInfo := fun s =>
        if s = [0x0a, 0x03, 0x0a, 0x01, 0x77] then some ⟨ascii "w", [], [], []⟩ else none } }

def contactSession : Session := { authInfo := { m_Session := brokenKey } }

theorem opens_contactResponse : Opens contactEnv (newSyncHandler contactEnv) contactSession {}
    contactResponse (ascii "k") 1 [contactItem] :=
  (opens_iff_of_text (show _ = some (some contactText) by decide +kernel)).mpr
    (by decide +kernel)

theorem statementsSucceed_contactResponse :
    StatementsSucceed contactEnv (newSyncHandler contactEnv) (1 : Int32).toInt.toNat
      [contactItem] := by
  refine ⟨fun _ => rfl, ?_⟩
  intro item hi d hd
  obtain rfl : item = contactItem := by simpa using List.mem_of_mem_take hi
  have hcontact : (newSyncHandler contactEnv).decode contactItem =
      some (.contact ⟨ascii "w", [], [], []⟩) := by decide +kernel
  cases hcontact.symm.trans hd
  exact nofun

/-- A database with some contacts. -/
def contactDb (rows : List Row) : Sql3 := ⟨some (emptyDb.set contactTable rows), 0⟩

theorem rows_contactDb (rows : List Row) : (contactDb rows).rows contactTable = some rows :=
  Database.set_self ..

/-- The response is accepted. -/
theorem newSyncBuf2Resp_contactResponse (rows : List Row) : ∃ r,
    newSyncBuf2Resp contactEnv contactSession {} (contactDb rows) contactResponse = some r ∧
      r.errorCode = cgiCodeOk := by
  obtain ⟨u, hu⟩ := buf2RespWith_of_opens (contactDb rows) opens_contactResponse
  have hgood :
      AllGood (newSyncHandler contactEnv).decode (1 : Int32).toInt.toNat [contactItem] := by
    refine ⟨by decide, fun item hi => ⟨.contact ⟨ascii "w", [], [], []⟩, ?_, nofun⟩⟩
    obtain rfl : item = contactItem := by simpa using List.mem_of_mem_take hi
    decide +kernel
  have hends (store : SyncState → Decoded → SyncState) (st₀ : SyncState) :
      ∃ st, itemLoop (newSyncHandler contactEnv).decode store (1 : Int32).toInt.toNat
        [contactItem] st₀ = some (true, st) := itemLoop_true_iff.mpr hgood
  obtain ⟨st, hloop⟩ := hends _ _
  rw [if_neg (by decide), if_neg (by decide), hloop] at hu
  exact ⟨_, hu, rfl⟩

/-- A contact that the database has is sent again, and its row is there. -/
theorem contacts_durable_again : ∃ r rows, newSyncBuf2Resp contactEnv contactSession {}
      (contactDb [contactRow contactEnv.platform ⟨ascii "w", [], [], []⟩]) contactResponse =
        some r ∧
    r.db.rows contactTable = some rows ∧
    HasRow contactEnv (newSyncHandler contactEnv) rows contactItem := by
  obtain ⟨r, hr, hcode⟩ := newSyncBuf2Resp_contactResponse
    [contactRow contactEnv.platform ⟨ascii "w", [], [], []⟩]
  have hiff := (contacts_durable_iff hcode (rows_contactDb _)).2 hr opens_contactResponse
    statementsSucceed_contactResponse
  have hhad : ∀ item ∈ [contactItem], item.type = 2 →
      HasRow contactEnv (newSyncHandler contactEnv)
        [contactRow contactEnv.platform ⟨ascii "w", [], [], []⟩] item := by
    intro item hi _
    obtain rfl : item = contactItem := by simpa using hi
    exact ⟨⟨ascii "w", [], [], []⟩, by decide +kernel, List.mem_singleton_self _⟩
  obtain ⟨rows, hrows, hhas⟩ := hiff.mpr hhad contactItem (List.mem_singleton_self _) rfl
  exact ⟨r, rows, hr, hrows, hhas⟩

/-- A new contact in a `NewSync` response, every statement executed: it gets no row. -/
theorem not_contacts_durable : ¬ ∀ (env : Env) (s : Session) (m : BaseHeader) (db : Sql3)
    (inbuffer : Bytes) (r : SyncResponse) (key : Bytes) (cnt : Int32) (items : List Item),
    newSyncBuf2Resp env s m db inbuffer = some r → r.errorCode = cgiCodeOk →
    Opens env (newSyncHandler env) s m inbuffer key cnt items →
    StatementsSucceed env (newSyncHandler env) cnt.toInt.toNat items →
    ∀ item ∈ items, item.type = 2 → ∃ rows, r.db.rows contactTable = some rows ∧
      HasRow env (newSyncHandler env) rows item := by
  intro h
  obtain ⟨r, hr, hcode⟩ := newSyncBuf2Resp_contactResponse []
  obtain ⟨rows, hrows, pInfo, -, hmem⟩ := h _ _ _ _ _ r _ _ _ hr hcode opens_contactResponse
    statementsSucceed_contactResponse contactItem (List.mem_singleton_self _) rfl
  have hafter := (rows_contact_of_ok opens_contactResponse statementsSucceed_contactResponse hr
    hcode (rows_contactDb [])).1
  have hnone : ([contactItem].take (1 : Int32).toInt.toNat).filterMap
      (addedRow contactEnv (newSyncHandler contactEnv)) = [] :=
    List.filterMap_eq_nil_iff.mpr fun item _ => addedRow_newSync item
  rw [hrows, hnone, List.append_nil, Option.some_inj] at hafter
  rw [hafter] at hmem
  cases hmem

end MicroChat
