import MicroChat.Business.Items
import MicroChat.Db.SqlLog

/-!
# Business — Delivery

`Buf2Resp` of `NewSync` and `NewInit` with the calls of `LOG` that its statements make.

* `buf2RespLogged`: the handler of `SyncTasks.lean`, which ends where a call of `LOG` does not
  return, and `buf2RespWith_of_logged`: what it does otherwise.
* `SyncHandler.statements`: the statements that a response is stored with.
* `items_delivered_iff`: which responses are delivered.
-/

namespace MicroChat
open Support Support.Sql Support.Utf16

/-! ### The handlers -/

section
variable (env : Env) (L : LogEnv)

/-- An item goes into the arrays of the result, and into the database. -/
def storeItemLogged (storesContacts : Bool) (st : SyncState) : Decoded → Option SyncState
  | .message pMsg =>
      (addMsgLogged env.platform env.sqlite L st.db pMsg).map fun db =>
        ⟨{ st.res with ppNewMsg := st.res.ppNewMsg ++ [pMsg] }, db⟩
  | .contact pInfo =>
      (if storesContacts then insertContactLogged env.platform env.sqlite L st.db pInfo
        else some st.db).map fun db =>
          ⟨{ st.res with ppContanct := st.res.ppContanct ++ [pInfo] }, db⟩
  | .skip | .bad => some st

/-- The loop over the items with index below `n`. -/
def itemLoopLogged (H : SyncHandler) : Nat → List Item → SyncState → Option (Bool × SyncState)
  | 0, _, st => some (true, st)
  | _ + 1, [], _ => none
  | n + 1, item :: items, st =>
      match H.decode item with
      | none => none
      | some .bad => some (false, st)
      | some d => (storeItemLogged env L H.storesContacts st d).bind (itemLoopLogged H n items)

/-- `Buf2Resp` of a task.  What is logged of an empty body is a constant text. -/
def buf2RespLogged (H : SyncHandler) (s : Session) (m : BaseHeader) (db : Sql3)
    (inbuffer : Bytes) : Option SyncResponse := do
  let (u, text) ← openResponse env.crypto H.initial s m inbuffer
  match text with
  | .error code => return ⟨code, u.header, u.session, db, {}, false⟩
  | .ok respProtobuf =>
      match H.parse respProtobuf with
      | none => return ⟨H.onParseErr, u.header, u.session, db, {}, false⟩
      | some (key, cnt, items) =>
          let db ← updateSyncKeyLogged env.platform env.sqlite L db (bin2Hex key)
          if cnt = 0 then return ⟨H.onEmpty, u.header, u.session, db, {}, false⟩
          if cnt.toInt < 0 then none
          let (ok, st) ← itemLoopLogged env L H cnt.toInt.toNat items
            ⟨{ dwSize := cnt.toInt.toNat }, db⟩
          if ok then return ⟨cgiCodeOk, u.header, u.session, st.db, st.res, H.reports⟩
          else return ⟨cgiCodeParseProtobufErr, u.header, u.session, st.db, st.res, false⟩

/-- `int NewSyncCGITask::Buf2Resp(…)`. -/
def newSyncBuf2RespLogged := buf2RespLogged env L (newSyncHandler env)

/-- `int NewInitCGITask::Buf2Resp(…)`. -/
def newInitBuf2RespLogged := buf2RespLogged env L (newInitHandler env)

end

/-! ### The statements of a response -/

/-- The statement that an item is stored with. -/
def Decoded.text (P : Platform) (storesContacts : Bool) : Decoded → Option Bytes
  | .message pMsg => some (addMsgText P pMsg)
  | .contact pInfo =>
      if storesContacts then some (unicodeToUtf8 (insertContactText P pInfo)) else none
  | .skip | .bad => none

/-- The statements that the items are stored with. -/
def SyncHandler.itemTexts (P : Platform) (H : SyncHandler) (items : List Item) : List Bytes :=
  items.filterMap fun item => (H.decode item).bind (Decoded.text P H.storesContacts)

/-- The statements of a response: those that store its key, and those of its items. -/
def SyncHandler.statements (P : Platform) (H : SyncHandler) (key : Bytes) (items : List Item) :
    List Bytes :=
  unicodeToUtf8 (ofAscii (ascii "delete from synckey;")) ::
    unicodeToUtf8 (updateSyncKeyText P (bin2Hex key)) :: H.itemTexts P items

section
variable {env : Env} {L : LogEnv} {H : SyncHandler} {s : Session} {m : BaseHeader} {db : Sql3}
  {inbuffer : Bytes}

theorem updateSyncKeyLogged_eq_some {db' : Sql3} {key : Bytes} :
    updateSyncKeyLogged env.platform env.sqlite L db (bin2Hex key) = some db' ↔
      AllLogged env.platform env.sqlite L db (H.statements env.platform key []) ∧
        setSyncKey env.platform env.sqlite db key = db' := by
  rw [updateSyncKeyLogged, execSQLLogged_eq, SyncHandler.statements, AllLogged, AllLogged]
  by_cases hdel : Logged env.platform env.sqlite L db
      (unicodeToUtf8 (ofAscii (ascii "delete from synckey;")))
  · rw [if_pos hdel]
    simp only [Option.bind_eq_bind, Option.bind_some, execSQLLogged_eq]
    split
    · rename_i hins
      simp [hdel, hins, SyncHandler.itemTexts, AllLogged, setSyncKey, updateSyncKey]
    · rename_i hins
      simp [hins]
  · rw [if_neg hdel]
    simp [hdel]

/-- Storing an item is executing its statement. -/
theorem storeItemLogged_eq {storesContacts : Bool} {st : SyncState} (d : Decoded) :
    storeItemLogged env L storesContacts st d =
      if ∀ text ∈ d.text env.platform storesContacts,
          Logged env.platform env.sqlite L st.db text then
        some (storeItem env storesContacts st d)
      else none := by
  cases d with
  | message pMsg =>
      simp only [storeItemLogged, addMsgLogged, execSQLLogged_eq, Decoded.text, Option.mem_some_iff,
        forall_eq']
      split <;> rfl
  | contact pInfo =>
      cases storesContacts with
      | true =>
          simp only [storeItemLogged, if_true, insertContactLogged, execSQLLogged_eq, Decoded.text,
            Option.mem_some_iff, forall_eq']
          split <;> rfl
      | false => simp [storeItemLogged, Decoded.text, storeItem]
  | skip | bad => simp [storeItemLogged, Decoded.text, storeItem]

theorem db_storeItem {storesContacts : Bool} {st : SyncState} (d : Decoded) :
    (storeItem env storesContacts st d).db =
      match d.text env.platform storesContacts with
      | none => st.db
      | some text => (st.db.execSQL env.sqlite text).1 := by
  cases d with
  | message pMsg => rfl
  | contact pInfo => cases storesContacts <;> rfl
  | skip | bad => rfl

/-! ### With and without `LOG` -/

theorem itemLoopLogged_good {n : Nat} {item : Item} {items : List Item} {st : SyncState}
    {d : Decoded} (hd : H.decode item = some d) (hb : d ≠ .bad) :
    itemLoopLogged env L H (n + 1) (item :: items) st =
      (storeItemLogged env L H.storesContacts st d).bind (itemLoopLogged env L H n items) := by
  cases d with
  | bad => exact absurd rfl hb
  | message | contact | skip => rw [itemLoopLogged, hd]

/-- The loop does what it does without `LOG`. -/
theorem itemLoop_of_logged {n : Nat} {items : List Item} {st : SyncState} {r : Bool × SyncState}
    (h : itemLoopLogged env L H n items st = some r) :
    itemLoop H.decode (storeItem env H.storesContacts) n items st = some r := by
  induction n generalizing items st with
  | zero => exact h
  | succ n ih =>
      cases items with
      | nil => cases h
      | cons item items =>
          cases hd : H.decode item with
          | none => rw [itemLoopLogged, hd] at h; cases h
          | some d =>
              by_cases hb : d = .bad
              · subst hb
                rw [itemLoopLogged, hd] at h
                rw [itemLoop, hd]
                exact h
              · rw [itemLoopLogged_good hd hb, storeItemLogged_eq] at h
                rw [itemLoop_good hd hb]
                split at h
                · exact ih h
                · cases h

/-- **What the handler does with `LOG`**, where it does not end there, is what it does without. -/
theorem buf2RespWith_of_logged {r : SyncResponse}
    (h : buf2RespLogged env L H s m db inbuffer = some r) :
    buf2RespWith env H s m db inbuffer = some r := by
  obtain ⟨⟨u, text⟩, ho, h⟩ := Option.bind_eq_some_iff.mp h
  rw [buf2RespWith, ho]
  cases text with
  | error code => exact h
  | ok respProtobuf =>
      dsimp only [Option.bind_eq_bind, Option.bind_some] at h ⊢
      cases hp : H.parse respProtobuf with
      | none =>
          rw [hp] at h
          exact h
      | some p =>
          obtain ⟨key, cnt, items⟩ := p
          rw [hp] at h
          obtain ⟨db', hdb, h⟩ := Option.bind_eq_some_iff.mp h
          obtain ⟨-, rfl⟩ := (updateSyncKeyLogged_eq_some (H := H)).mp hdb
          dsimp only at h ⊢
          split at h
          · rename_i hcnt
            rw [if_pos hcnt]
            exact h
          · rename_i hcnt
            rw [if_neg hcnt]
            split at h
            · cases h
            · rename_i hneg
              rw [if_neg hneg]
              obtain ⟨⟨ok, st⟩, hloop, h⟩ := Option.bind_eq_some_iff.mp h
              rw [itemLoop_of_logged hloop]
              exact h

/-- The loop over good items gets past `LOG` just if their statements do. -/
theorem isSome_itemLoopLogged_iff {items : List Item} {st : SyncState}
    (h : ∀ item ∈ items, GoodItem H.decode item) :
    (itemLoopLogged env L H items.length items st).isSome ↔
      AllLogged env.platform env.sqlite L st.db (H.itemTexts env.platform items) := by
  induction items generalizing st with
  | nil => exact iff_of_true rfl trivial
  | cons item items ih =>
      obtain ⟨⟨d, hd, hb⟩, hitems⟩ := List.forall_mem_cons.mp h
      have hdb := @db_storeItem env H.storesContacts st d
      rw [List.length_cons, itemLoopLogged_good hd hb, storeItemLogged_eq, SyncHandler.itemTexts,
        List.filterMap_cons, hd, Option.bind_some]
      cases htext : d.text env.platform H.storesContacts with
      | none =>
          rw [htext] at hdb
          rw [if_pos (by simp), Option.bind_some, ih hitems, hdb]
          rfl
      | some text =>
          rw [htext] at hdb
          rw [AllLogged]
          by_cases hlog : Logged env.platform env.sqlite L st.db text
          · rw [if_pos (by simpa using hlog), Option.bind_some, ih hitems, hdb]
            exact (and_iff_right hlog).symm
          · rw [if_neg (by simpa using hlog)]
            exact iff_of_false (by simp) fun hall => hlog hall.1

/-- **When the handler gets past `LOG`**, on a response that counts its items right and all of whose
items are good. -/
theorem isSome_buf2RespLogged_iff {key : Bytes} {cnt : Int32} {items : List Item}
    (ho : Opens env H s m inbuffer key cnt items) (hcnt : cnt.toInt = items.length)
    (hgood : ∀ item ∈ items, GoodItem H.decode item) :
    (buf2RespLogged env L H s m db inbuffer).isSome ↔
      AllLogged env.platform env.sqlite L db (H.statements env.platform key items) := by
  obtain ⟨u, text, ho, hp⟩ := ho
  have hnat : cnt.toInt.toNat = items.length := by omega
  rw [buf2RespLogged, ho]
  simp only [Option.bind_eq_bind, Option.bind_some, hp]
  cases hkey : updateSyncKeyLogged env.platform env.sqlite L db (bin2Hex key) with
  | none =>
      refine iff_of_false (by simp) fun hall => ?_
      have hstored : AllLogged env.platform env.sqlite L db (H.statements env.platform key []) :=
        ⟨hall.1, hall.2.1, trivial⟩
      cases hkey.symm.trans (updateSyncKeyLogged_eq_some.mpr ⟨hstored, rfl⟩)
  | some db' =>
      obtain ⟨⟨hdel, hins, -⟩, rfl⟩ := (updateSyncKeyLogged_eq_some (H := H)).mp hkey
      have hrest : AllLogged env.platform env.sqlite L db (H.statements env.platform key items) ↔
          AllLogged env.platform env.sqlite L (setSyncKey env.platform env.sqlite db key)
            (H.itemTexts env.platform items) :=
        ⟨fun hall => hall.2.2, fun hall => ⟨hdel, hins, hall⟩⟩
      rw [hrest, Option.bind_some]
      by_cases hzero : cnt = 0
      · subst hzero
        obtain rfl : items = [] := List.eq_nil_of_length_eq_zero (hnat.symm.trans rfl)
        exact iff_of_true rfl trivial
      · have hloop := @isSome_itemLoopLogged_iff env L H items
          ⟨{ dwSize := items.length }, setSyncKey env.platform env.sqlite db key⟩ hgood
        rw [if_neg hzero, if_neg (by omega), hnat, ← hloop]
        cases itemLoopLogged env L H items.length items
          ⟨{ dwSize := items.length }, setSyncKey env.platform env.sqlite db key⟩ with
        | none => exact Iff.rfl
        | some r =>
            obtain ⟨ok, st⟩ := r
            cases ok <;> exact Iff.rfl

/-- A response that would be delivered is, just if its statements get past `LOG`. -/
theorem delivered_logged_iff {rd : ItemReader} {key : Bytes} {cnt : Int32} {items : List Item}
    (ho : Opens env H s m inbuffer key cnt items) (hcnt : cnt.toInt = items.length)
    (hgood : ∀ item ∈ items, GoodItem H.decode item)
    (hdelivered : ∃ r, buf2RespWith env H s m db inbuffer = some r ∧
      Delivered env rd H.storesContacts key items db r) :
    (∃ r, buf2RespLogged env L H s m db inbuffer = some r ∧
      Delivered env rd H.storesContacts key items db r) ↔
      AllLogged env.platform env.sqlite L db (H.statements env.platform key items) := by
  obtain ⟨r, hr, hd⟩ := hdelivered
  rw [← isSome_buf2RespLogged_iff ho hcnt hgood, Option.isSome_iff_exists]
  constructor
  · rintro ⟨r', hr', -⟩
    exact ⟨r', hr'⟩
  · rintro ⟨r', hr'⟩
    obtain rfl : r = r' := Option.some_inj.mp (hr.symm.trans (buf2RespWith_of_logged hr'))
    exact ⟨r, hr', hd⟩

theorem goodItem_of_reads {rd : ItemReader} {item : Item} (hdec : H.decode item = rd.decode item)
    (h : rd.Reads item) : GoodItem H.decode item := by
  rw [GoodItem, hdec, ItemReader.decode]
  split
  · obtain ⟨pMsg, hmsg⟩ := Option.isSome_iff_exists.mp (h.1 ‹_›)
    exact ⟨.message pMsg, by rw [hmsg, Option.map_some], by simp⟩
  · split
    · obtain ⟨pInfo, hinfo⟩ := Option.isSome_iff_exists.mp (h.2 ‹_›)
      exact ⟨.contact pInfo, by rw [hinfo, Option.map_some], by simp⟩
    · exact ⟨.skip, rfl, by simp⟩

end

/-- **When no item is lost, doubled or moved**, in a `NewSync` response whose count is right and
whose messages and contacts can be read, and in such a `NewInit` response with some items, if the
items of type 1 parse: just where every statement of the response gets past `LOG`. -/
theorem items_delivered_iff {env : Env} (L : LogEnv) {items : List Item} {s : Session}
    {m : BaseHeader} {inbuffer key : Bytes} {cnt : Int32} (db : Sql3)
    (hcnt : cnt.toInt = items.length) :
    (Opens env (newSyncHandler env) s m inbuffer key cnt items →
      (∀ item ∈ items, (newSyncReader env).Reads item) →
      ((∃ r, newSyncBuf2RespLogged env L s m db inbuffer = some r ∧
          Delivered env (newSyncReader env) false key items db r) ↔
        AllLogged env.platform env.sqlite L db
          ((newSyncHandler env).statements env.platform key items))) ∧
    (Opens env (newInitHandler env) s m inbuffer key cnt items → cnt ≠ 0 →
      (∀ item ∈ items, (newInitReader env).Reads item ∧
        (item.type = 1 → env.proto.userInfo item.payload = true)) →
      ((∃ r, newInitBuf2RespLogged env L s m db inbuffer = some r ∧
          Delivered env (newInitReader env) true key items db r) ↔
        AllLogged env.platform env.sqlite L db
          ((newInitHandler env).statements env.platform key items))) := by
  obtain ⟨hsync, hinit⟩ := @items_delivered env items s m inbuffer key cnt db hcnt
  constructor
  · intro ho hreads
    exact delivered_logged_iff ho hcnt
      (fun item hi => goodItem_of_reads (newSyncItem_of_reads (hreads item hi)) (hreads item hi))
      (hsync ho hreads)
  · intro ho hne hreads
    exact delivered_logged_iff ho hcnt
      (fun item hi => goodItem_of_reads (newInitItem_of_reads (hreads item hi).1 (hreads item hi).2)
        (hreads item hi).1)
      (hinit ho hne hreads)

/-! ### Two responses, and a message `%s` -/

def plainLog : LogEnv := ⟨fun _ => epoch, fun _ => epoch, fun _ => []⟩

/-- An open database whose tables are all there, and empty. -/
def openDb : Sql3 := ⟨some ⟨fun _ => some []⟩, 0⟩

/-- Both responses are delivered into an open database. -/
theorem items_delivered_iff_both :
    (∃ r, newSyncBuf2RespLogged itemsEnv plainLog { authInfo := { m_Session := brokenKey } } {}
        openDb (responseOf 53 itemsBody) = some r ∧
      Delivered itemsEnv (newSyncReader itemsEnv) false (ascii "k")
        [messageItem, wxidItem, ⟨3, []⟩] openDb r) ∧
    ∃ r, newInitBuf2RespLogged initEnv plainLog { authInfo := { m_Session := brokenKey } } {}
        openDb (responseOf 28 initBody) = some r ∧
      Delivered initEnv (newInitReader initEnv) true (ascii "k")
        [⟨1, [0x08, 0x00]⟩, ⟨2, [0x0a, 0x03, 0x0a, 0x01, 0x77]⟩] openDb r := by
  have hsync := @items_delivered_iff itemsEnv plainLog [messageItem, wxidItem, ⟨3, []⟩]
    { authInfo := { m_Session := brokenKey } } {} (responseOf 53 itemsBody) (ascii "k") 3 openDb rfl
  have hinit := @items_delivered_iff initEnv plainLog
    [⟨1, [0x08, 0x00]⟩, ⟨2, [0x0a, 0x03, 0x0a, 0x01, 0x77]⟩]
    { authInfo := { m_Session := brokenKey } } {} (responseOf 28 initBody) (ascii "k") 2 openDb rfl
  refine ⟨(hsync.1 opens_itemsText ?_).mpr (by decide +kernel),
    (hinit.2 opens_initText (by decide) ?_).mpr (by decide +kernel)⟩
  · intro item hi
    simp only [List.mem_cons, List.not_mem_nil, or_false] at hi
    rcases hi with rfl | rfl | rfl <;> exact ⟨by decide +kernel, by decide +kernel⟩
  · intro item hi
    simp only [List.mem_cons, List.not_mem_nil, or_false] at hi
    rcases hi with rfl | rfl <;> exact ⟨⟨by decide +kernel, by decide +kernel⟩, by decide +kernel⟩

/-- A `NewSync` item with the message `%s` from `a` to `b`. -/
def percentItem : Item :=
  ⟨5, [0x12, 0x16, 0x08, 0x07, 0x12, 0x03, 0x0a, 0x01, 0x61, 0x1a, 0x03, 0x0a, 0x01, 0x62, 0x20,
    0x01, 0x2a, 0x04, 0x0a, 0x02, 0x25, 0x73, 0x48, 0x05]⟩

/-- The key `k` and that item. -/
def percentText : Bytes :=
  [0x12, 0x20, 0x08, 0x01, 0x12, 0x1c, 0x08, 0x05, 0x12, 0x18] ++ percentItem.payload ++
    [0x22, 0x01, 0x6b]

/-- `percentText` and its padding under AES-128-CBC. -/
def percentBody : Bytes :=
  [0x7c, 0x75, 0xe8, 0xfd, 0xfd, 0xcf, 0x51, 0x75, 0x40, 0xf6, 0xfe, 0x43, 0x5b, 0xe7, 0xcf, 0xc3,
    0xa5, 0x72, 0x3f, 0x35, 0x8f, 0xdb, 0xbc, 0xfa, 0x0e, 0x53, 0xd0, 0x3e, 0x9e, 0xf7, 0x8c, 0xf2,
    0x5f, 0x33, 0x9c, 0x7e, 0x97, 0x71, 0x4b, 0xa7, 0x55, 0x97, 0xe3, 0xda, 0x86, 0x85, 0x27, 0x9e]

/-- The libraries on a response with this body. -/
def percentEnv : Env :=
  { plainEnv with
    crypto := decrypting percentBody (percentText ++ List.replicate 11 0x0b) rfl
    proto := { plainEnv.proto with
      newSyncResp := fun s => if s = percentText then some ⟨ascii "k", 1, [percentItem]⟩ else none
      newSyncRespMsg := fun s =>
        if s = percentItem.payload then some ⟨ascii "a", ascii "b", ascii "%s", 1, 5, 7⟩
        else none } }

theorem opens_percentText : Opens percentEnv (newSyncHandler percentEnv)
    { authInfo := { m_Session := brokenKey } } {} (responseOf 37 percentBody) (ascii "k") 1
    [percentItem] :=
  (opens_iff_of_text (show _ = some (some percentText) by decide +kernel)).mpr
    (by decide +kernel)

/-- The message `%s`: what is printed before it is stored is a format without its argument. -/
theorem not_items_delivered : ¬ ∀ (env : Env) (L : LogEnv) (s : Session) (m : BaseHeader)
    (inbuffer key : Bytes) (cnt : Int32) (items : List Item) (db : Sql3),
    Opens env (newSyncHandler env) s m inbuffer key cnt items → cnt.toInt = items.length →
    (∀ item ∈ items, (newSyncReader env).Reads item) →
    ∃ r, newSyncBuf2RespLogged env L s m db inbuffer = some r ∧
      Delivered env (newSyncReader env) false key items db r := by
  intro h
  have hnone : newSyncBuf2RespLogged percentEnv plainLog
      { authInfo := { m_Session := brokenKey } } {} openDb (responseOf 37 percentBody) = none := by
    rw [← Option.isNone_iff_eq_none]
    decide +kernel
  obtain ⟨r, hr, -⟩ := h percentEnv plainLog _ {} _ _ 1 [percentItem] openDb opens_percentText rfl
    (List.forall_mem_singleton.mpr ⟨by decide +kernel, by decide +kernel⟩)
  cases hnone.symm.trans hr

end MicroChat
