import MicroChat.Business.SyncKey

/-!
# Business — Items

The items of a response that opens: what the loop over them reads, and what it delivers.

* `itemAccesses`, `staysInside_iff`: the indices the loop reads, for any count and any items.
* `ItemReader`, `newSyncReader`, `newInitReader`: the message or the contact an item holds.
* `itemLoop_delivers`: the loop over items that can be read, and what it has left of each part of
  them.
* `Delivered`, `items_delivered`: the arrays and the calls of the database after a response.
-/

namespace MicroChat
open Support

/-! ### The indices that are read -/

/-- The arguments of `msg(i)` or `tag7(i)` in the loop over `n` items, from the index `i` on.
Behind the last item the loop reads what is not there, and nothing is known of what follows. -/
def itemAccesses (decode : Item → Option Decoded) : Nat → Nat → List Item → List Nat
  | 0, _, _ => []
  | _ + 1, i, [] => [i]
  | n + 1, i, item :: items =>
      match decode item with
      | none | some .bad => [i]
      | some _ => i :: itemAccesses decode n (i + 1) items

/-- The arrays are not of a negative size, and the loop reads no item that is not there. -/
structure StaysInside (decode : Item → Option Decoded) (cnt : Int32) (items : List Item) :
    Prop where
  size : 0 ≤ cnt.toInt
  accesses : ∀ i ∈ itemAccesses decode cnt.toInt.toNat 0 items, i < items.length

section Accesses
variable {decode : Item → Option Decoded} {n i : Nat} {item : Item} {items : List Item}

theorem itemAccesses_good (h : GoodItem decode item) :
    itemAccesses decode (n + 1) i (item :: items) =
      i :: itemAccesses decode n (i + 1) items := by
  obtain ⟨d, hd, hb⟩ := h
  cases d with
  | bad => exact absurd rfl hb
  | message | contact | skip => rw [itemAccesses, hd]

theorem itemAccesses_not_good (h : ¬ GoodItem decode item) :
    itemAccesses decode (n + 1) i (item :: items) = [i] := by
  rw [itemAccesses]
  cases hd : decode item with
  | none => rfl
  | some d =>
      have hb : d = .bad := by
        by_contra hb
        exact h ⟨d, hd, hb⟩
      rw [hb]

/-- **Which loops stay inside**: those that find as many items as they count, or one they stop
at. -/
theorem itemAccesses_lt_iff {n i : Nat} {items : List Item} :
    (∀ j ∈ itemAccesses decode n i items, j < i + items.length) ↔
      n ≤ items.length ∨ ∃ item ∈ items, ¬ GoodItem decode item := by
  induction n generalizing i items with
  | zero => simp [itemAccesses]
  | succ n ih =>
      cases items with
      | nil => simp [itemAccesses]
      | cons item items =>
          by_cases hgood : GoodItem decode item
          · have hsum : i + (item :: items).length = i + 1 + items.length := by
              rw [List.length_cons]
              omega
            rw [itemAccesses_good hgood, List.forall_mem_cons, hsum, ih, List.length_cons,
              Nat.succ_le_succ_iff]
            simp only [List.mem_cons, or_and_right, exists_or, exists_eq_left, hgood, not_true,
              false_or]
            exact and_iff_right (by omega)
          · rw [itemAccesses_not_good hgood]
            refine iff_of_true ?_ (.inr ⟨item, List.mem_cons_self, hgood⟩)
            intro j hj
            rw [List.mem_singleton.mp hj, List.length_cons]
            omega

theorem staysInside_iff_of_loop {cnt : Int32} :
    StaysInside decode cnt items ↔ 0 ≤ cnt.toInt ∧
      (cnt.toInt ≤ items.length ∨ ∃ item ∈ items, ¬ GoodItem decode item) := by
  have h := @itemAccesses_lt_iff decode cnt.toInt.toNat 0 items
  rw [Nat.zero_add] at h
  constructor
  · rintro ⟨hsize, hacc⟩
    exact ⟨hsize, (h.mp hacc).imp_left fun h => by omega⟩
  · rintro ⟨hsize, hor⟩
    exact ⟨hsize, h.mpr (hor.imp_left fun h => by omega)⟩

/-- Where the loop reads an item that is not there, it has no result. -/
theorem itemLoop_none_of_access {store : SyncState → Decoded → SyncState} {n i : Nat}
    {items : List Item} {st : SyncState}
    (h : ∃ j ∈ itemAccesses decode n i items, i + items.length ≤ j) :
    itemLoop decode store n items st = none := by
  induction n generalizing i items st with
  | zero => simp [itemAccesses] at h
  | succ n ih =>
      cases items with
      | nil => rfl
      | cons item items =>
          obtain ⟨j, hj, hle⟩ := h
          rw [List.length_cons] at hle
          by_cases hgood : GoodItem decode item
          · obtain ⟨d, hd, hb⟩ := hgood
            rw [itemAccesses_good ⟨d, hd, hb⟩] at hj
            rcases List.mem_cons.mp hj with rfl | hj
            · omega
            · rw [itemLoop_good hd hb]
              exact ih ⟨j, hj, by omega⟩
          · rw [itemAccesses_not_good hgood, List.mem_singleton] at hj
            omega

end Accesses

section
variable {env : Env} {H : SyncHandler} {s : Session} {m : BaseHeader} {inbuffer key : Bytes}
  {cnt : Int32} {items : List Item}

/-- A response with which the handler leaves its items has no result. -/
theorem buf2RespWith_none_of_not_staysInside (db : Sql3)
    (h : Opens env H s m inbuffer key cnt items) (hout : ¬ StaysInside H.decode cnt items) :
    buf2RespWith env H s m db inbuffer = none := by
  obtain ⟨u, hu⟩ := buf2RespWith_of_opens db h
  rw [hu]
  dsimp only
  by_cases hneg : cnt.toInt < 0
  · have hcnt : cnt ≠ 0 := by
      rintro rfl
      exact absurd hneg (by decide)
    rw [if_neg hcnt, if_pos hneg]
  · have hacc : ∃ j ∈ itemAccesses H.decode cnt.toInt.toNat 0 items, items.length ≤ j := by
      by_contra hno
      refine hout ⟨not_lt.mp hneg, ?_⟩
      intro j hj
      by_contra hge
      exact hno ⟨j, hj, not_lt.mp hge⟩
    have hcnt : cnt ≠ 0 := by
      rintro rfl
      obtain ⟨j, hj, -⟩ := hacc
      cases hj
    obtain ⟨j, hj, hle⟩ := hacc
    rw [if_neg hcnt, if_neg hneg, itemLoop_none_of_access ⟨j, hj, by rwa [Nat.zero_add]⟩]
    rfl

end

/-- The count is not negative, and there are as many items as it says or one that the loop stops
at. -/
def CountCovered (decode : Item → Option Decoded) (cnt : Int32) (items : List Item) : Prop :=
  0 ≤ cnt.toInt ∧ (cnt.toInt ≤ items.length ∨ ∃ item ∈ items, ¬ GoodItem decode item)

/-- **Which responses keep the two functions inside of their items**; after others they have no
result. -/
theorem staysInside_iff {env : Env} {s : Session} {m : BaseHeader} {inbuffer key : Bytes}
    {cnt : Int32} {items : List Item} :
    (Opens env (newSyncHandler env) s m inbuffer key cnt items →
      (StaysInside (newSyncItem env) cnt items ↔ CountCovered (newSyncItem env) cnt items) ∧
      (¬ StaysInside (newSyncItem env) cnt items →
        ∀ db, newSyncBuf2Resp env s m db inbuffer = none)) ∧
    (Opens env (newInitHandler env) s m inbuffer key cnt items →
      (StaysInside (newInitItem env) cnt items ↔ CountCovered (newInitItem env) cnt items) ∧
      (¬ StaysInside (newInitItem env) cnt items →
        ∀ db, newInitBuf2Resp env s m db inbuffer = none)) :=
  ⟨fun h => ⟨staysInside_iff_of_loop,
      fun hout db => buf2RespWith_none_of_not_staysInside db h hout⟩,
    fun h => ⟨staysInside_iff_of_loop,
      fun hout db => buf2RespWith_none_of_not_staysInside db h hout⟩⟩

/-- A response of header, three lengths and a body; `len` is the length of the plaintext. -/
def responseOf (len : UInt8) (body : Bytes) : Bytes :=
  [0xbf, 0x7a, 0x5f, 0, 0, 0, 0, 0, 0, 0, 0] ++ List.replicate 15 1 ++ [0x8a, 0x01, len, len] ++
    body

/-- A count of 1, no item, and the key `k`. -/
def countText : Bytes := [0x12, 0x02, 0x08, 0x01, 0x22, 0x01, 0x6b]

/-- `countText` and its padding under AES-128-CBC. -/
def countBody : Bytes :=
  [0x2f, 0xdb, 0x42, 0xac, 0x0e, 0x7c, 0x57, 0x9f, 0x83, 0x9e, 0xa3, 0xbb, 0x8b, 0x0f, 0xc2, 0xd8]

/-- The libraries on a response with this body. -/
def countEnv : Env :=
  { plainEnv with
    crypto := decrypting countBody (countText ++ List.replicate 9 0x09) rfl
    proto := { plainEnv.proto with
      newSyncResp := fun s => if s = countText then some ⟨ascii "k", 1, []⟩ else none } }

theorem opens_countText : Opens countEnv (newSyncHandler countEnv)
    { authInfo := { m_Session := brokenKey } } {} (responseOf 7 countBody) (ascii "k") 1 [] :=
  (opens_iff_of_text (show _ = some (some countText) by decide +kernel)).mpr
    (by decide +kernel)

/-- The response is read behind its items, of which there are none. -/
theorem staysInside_countText :
    (StaysInside (newSyncItem countEnv) 1 [] ↔ CountCovered (newSyncItem countEnv) 1 []) ∧
      (¬ StaysInside (newSyncItem countEnv) 1 [] → ∀ db, newSyncBuf2Resp countEnv
        { authInfo := { m_Session := brokenKey } } {} db (responseOf 7 countBody) = none) :=
  staysInside_iff.1 opens_countText

/-- A count of 1 without an item. -/
theorem not_staysInside : ¬ ∀ (env : Env) (s : Session) (m : BaseHeader) (inbuffer key : Bytes)
    (cnt : Int32) (items : List Item), Opens env (newSyncHandler env) s m inbuffer key cnt items →
    StaysInside (newSyncItem env) cnt items := by
  intro h
  have hin := (h countEnv _ {} _ _ 1 [] opens_countText).accesses
  exact absurd (hin 0 (by decide)) (Nat.not_lt_zero 0)

/-! ### Items that can be read -/

/-- The message and the contact that the payload of an item holds, `none` where it does not parse
or a field does not fit. -/
structure ItemReader where
  msg : Item → Option NewMsg
  contact : Item → Option ContactInfo

def newSyncReader (env : Env) : ItemReader where
  msg item := (env.proto.newSyncRespMsg item.payload).bind (newMsgOf env.platform)
  contact item := ((env.proto.commonMsg item.payload).bind env.proto.contactInfo).bind contactOf

def newInitReader (env : Env) : ItemReader where
  msg item := (env.proto.newMsgContent item.payload).bind (newMsgOf env.platform)
  contact item := (env.proto.contactInfo item.payload).bind contactOf

/-- A call that writes an item into the database. -/
inductive DbCall where
  | addMsg (pMsg : NewMsg)
  | insertContact (pInfo : ContactInfo)

def DbCall.run (env : Env) (db : Sql3) : DbCall → Sql3
  | .addMsg pMsg => MicroChat.addMsg env.platform env.sqlite db pMsg
  | .insertContact pInfo => MicroChat.insertContact env.platform env.sqlite db pInfo

/-- The argument of a call of `AddMsg`. -/
def DbCall.pMsg : DbCall → Option NewMsg
  | .addMsg pMsg => some pMsg
  | .insertContact _ => none

namespace ItemReader

/-- The payload of an item of type 5 or 2 parses, and its fields fit. -/
def Reads (rd : ItemReader) (item : Item) : Prop :=
  (item.type = 5 → (rd.msg item).isSome) ∧ (item.type = 2 → (rd.contact item).isSome)

/-- What an item that can be read turns out to be. -/
def decode (rd : ItemReader) (item : Item) : Option Decoded :=
  if item.type = 5 then (rd.msg item).map .message
  else if item.type = 2 then (rd.contact item).map .contact
  else some .skip

/-- The call an item leads to. -/
def call (rd : ItemReader) (storesContacts : Bool) (item : Item) : Option DbCall :=
  if item.type = 5 then (rd.msg item).map .addMsg
  else if item.type = 2 ∧ storesContacts then (rd.contact item).map .insertContact
  else none

end ItemReader

section
variable {env : Env} {rd : ItemReader} {item : Item} {items : List Item}

theorem newSyncItem_of_reads (h : (newSyncReader env).Reads item) :
    newSyncItem env item = (newSyncReader env).decode item := by
  obtain ⟨h5, h2⟩ := h
  rw [newSyncItem, ItemReader.decode]
  by_cases htype : item.type = 5
  · rw [if_pos htype, if_pos htype]
    obtain ⟨pMsg, hmsg⟩ := Option.isSome_iff_exists.mp (h5 htype)
    obtain ⟨msg, hparse, -⟩ := Option.bind_eq_some_iff.mp hmsg
    simp only [newSyncReader, hparse, Option.bind_some]
  · rw [if_neg htype, if_neg htype]
    by_cases htype : item.type = 2
    · rw [if_pos htype, if_pos htype]
      obtain ⟨pInfo, hinfo⟩ := Option.isSome_iff_exists.mp (h2 htype)
      obtain ⟨info, hparse, -⟩ := Option.bind_eq_some_iff.mp hinfo
      obtain ⟨common, hcommon, hcontact⟩ := Option.bind_eq_some_iff.mp hparse
      simp only [newSyncReader, hcommon, hcontact, Option.bind_some]
    · rw [if_neg htype, if_neg htype]

theorem newInitItem_of_reads (h : (newInitReader env).Reads item)
    (h1 : item.type = 1 → env.proto.userInfo item.payload = true) :
    newInitItem env item = (newInitReader env).decode item := by
  obtain ⟨h5, h2⟩ := h
  rw [newInitItem, ItemReader.decode]
  by_cases htype : item.type = 1
  · rw [if_pos htype, if_pos (h1 htype), htype]
    rfl
  · rw [if_neg htype]
    by_cases htype : item.type = 2
    · obtain ⟨pInfo, hinfo⟩ := Option.isSome_iff_exists.mp (h2 htype)
      obtain ⟨info, hparse, -⟩ := Option.bind_eq_some_iff.mp hinfo
      have h25 : item.type ≠ 5 := by
        rw [htype]
        decide
      rw [if_pos htype, if_neg h25, if_pos htype]
      simp only [newInitReader, hparse, Option.bind_some]
    · rw [if_neg htype, if_neg htype]
      by_cases htype : item.type = 5
      · rw [if_pos htype, if_pos htype]
        obtain ⟨pMsg, hmsg⟩ := Option.isSome_iff_exists.mp (h5 htype)
        obtain ⟨msg, hparse, -⟩ := Option.bind_eq_some_iff.mp hmsg
        simp only [newInitReader, hparse, Option.bind_some]
      · rw [if_neg htype, if_neg htype]

/-- **The loop over items that can be read** goes through all of them; each array gets those of its
type, and the database the calls, in order. -/
theorem itemLoop_delivers {decode : Item → Option Decoded} {storesContacts : Bool}
    {items : List Item} {st : SyncState}
    (h : ∀ item ∈ items, decode item = rd.decode item ∧ rd.Reads item) :
    itemLoop decode (storeItem env storesContacts) items.length items st = some (true,
      { res := { st.res with
          ppNewMsg := st.res.ppNewMsg ++ (items.filter (·.type = 5)).filterMap rd.msg
          ppContanct := st.res.ppContanct ++ (items.filter (·.type = 2)).filterMap rd.contact }
        db := (items.filterMap (rd.call storesContacts)).foldl (DbCall.run env) st.db }) := by
  induction items generalizing st with
  | nil => simp [itemLoop]
  | cons item items ih =>
      obtain ⟨⟨hdec, h5, h2⟩, hitems⟩ := List.forall_mem_cons.mp h
      rw [ItemReader.decode] at hdec
      by_cases htype : item.type = 5
      · obtain ⟨pMsg, hmsg⟩ := Option.isSome_iff_exists.mp (h5 htype)
        rw [if_pos htype, hmsg] at hdec
        rw [List.length_cons, itemLoop_good hdec (by simp), ih hitems]
        simp [storeItem, ItemReader.call, htype, hmsg, DbCall.run]
      · by_cases htype' : item.type = 2
        · obtain ⟨pInfo, hinfo⟩ := Option.isSome_iff_exists.mp (h2 htype')
          rw [if_neg htype, if_pos htype', hinfo] at hdec
          rw [List.length_cons, itemLoop_good hdec (by simp), ih hitems]
          cases storesContacts <;>
            simp [storeItem, ItemReader.call, htype', hinfo, DbCall.run]
        · rw [if_neg htype, if_neg htype'] at hdec
          rw [List.length_cons, itemLoop_good hdec (by simp), ih hitems]
          simp [storeItem, ItemReader.call, htype, htype']

end

/-! ### What is delivered -/

/-- The response is accepted; its arrays are the messages and the contacts of the items, in order
and within the size that was allocated, and the database has been called for each item that
leads to a call, `AddMsg` once for each message. -/
structure Delivered (env : Env) (rd : ItemReader) (storesContacts : Bool) (key : Bytes)
    (items : List Item) (db : Sql3) (r : SyncResponse) : Prop where
  code : r.errorCode = cgiCodeOk
  messages : r.res.ppNewMsg.map some = (items.filter (·.type = 5)).map rd.msg
  contacts : r.res.ppContanct.map some = (items.filter (·.type = 2)).map rd.contact
  size : r.res.ppNewMsg.length ≤ r.res.dwSize ∧ r.res.ppContanct.length ≤ r.res.dwSize
  database : r.db = (items.filterMap (rd.call storesContacts)).foldl (DbCall.run env)
    (setSyncKey env.platform env.sqlite db key)
  once : (items.filterMap (rd.call storesContacts)).filterMap DbCall.pMsg = r.res.ppNewMsg

/-- Where a function has a result for every element, none is left out. -/
theorem map_some_filterMap {α β : Type} {f : α → Option β} {l : List α}
    (h : ∀ x ∈ l, (f x).isSome) : (l.filterMap f).map some = l.map f := by
  induction l with
  | nil => rfl
  | cons x l ih =>
      obtain ⟨hx, hl⟩ := List.forall_mem_cons.mp h
      obtain ⟨y, hy⟩ := Option.isSome_iff_exists.mp hx
      rw [List.filterMap_cons_some hy, List.map_cons, List.map_cons, ih hl, hy]

section
variable {env : Env} {rd : ItemReader} {items : List Item}

/-- The calls of `AddMsg` are those for the items of type 5. -/
theorem filterMap_pMsg (storesContacts : Bool) (items : List Item) :
    (items.filterMap (rd.call storesContacts)).filterMap DbCall.pMsg =
      (items.filter (·.type = 5)).filterMap rd.msg := by
  rw [List.filterMap_filterMap, List.filterMap_filter]
  congr 1
  funext item
  rw [ItemReader.call]
  by_cases htype : item.type = 5
  · rw [if_pos htype]
    cases rd.msg item <;> simp [htype, DbCall.pMsg]
  · rw [if_neg htype]
    split
    · cases rd.contact item <;> simp [htype, DbCall.pMsg]
    · simp [htype]

/-- **A response all of whose items can be read**, and that counts them right, is delivered. -/
theorem delivered_of_opens {H : SyncHandler} {s : Session} {m : BaseHeader} {inbuffer key : Bytes}
    {cnt : Int32} (db : Sql3) (ho : Opens env H s m inbuffer key cnt items)
    (hcnt : cnt.toInt = items.length)
    (hitems : ∀ item ∈ items, H.decode item = rd.decode item ∧ rd.Reads item)
    (hempty : cnt = 0 → H.onEmpty = cgiCodeOk) :
    ∃ r, buf2RespWith env H s m db inbuffer = some r ∧
      Delivered env rd H.storesContacts key items db r := by
  obtain ⟨u, hu⟩ := buf2RespWith_of_opens db ho
  have hnat : cnt.toInt.toNat = items.length := by omega
  have hmsgs : ((items.filter (·.type = 5)).filterMap rd.msg).map some =
      (items.filter (·.type = 5)).map rd.msg := by
    refine map_some_filterMap ?_
    intro item hi
    obtain ⟨hmem, htype⟩ := List.mem_filter.mp hi
    exact (hitems item hmem).2.1 (by simpa using htype)
  have hcontacts : ((items.filter (·.type = 2)).filterMap rd.contact).map some =
      (items.filter (·.type = 2)).map rd.contact := by
    refine map_some_filterMap ?_
    intro item hi
    obtain ⟨hmem, htype⟩ := List.mem_filter.mp hi
    exact (hitems item hmem).2.2 (by simpa using htype)
  by_cases hzero : cnt = 0
  · -- nothing is allocated, and there is nothing to deliver
    subst hzero
    obtain rfl : items = [] := List.eq_nil_of_length_eq_zero (hnat.symm.trans rfl)
    rw [if_pos rfl] at hu
    exact ⟨_, hu, hempty rfl, rfl, rfl, ⟨Nat.le_refl 0, Nat.le_refl 0⟩, rfl, rfl⟩
  · rw [if_neg hzero, if_neg (by omega), hnat, itemLoop_delivers hitems] at hu
    refine ⟨_, hu, rfl, ?_, ?_, ⟨?_, ?_⟩, rfl, filterMap_pMsg _ _⟩
    · exact hmsgs
    · exact hcontacts
    · exact (List.length_filterMap_le _ _).trans (List.length_filter_le _ _)
    · exact (List.length_filterMap_le _ _).trans (List.length_filter_le _ _)

/-- **No item is lost, doubled or moved**, in a `NewSync` response whose count is right and whose
messages and contacts can be read, and in such a `NewInit` response with some items, if the items
of type 1 parse. -/
theorem items_delivered {s : Session} {m : BaseHeader} {inbuffer key : Bytes} {cnt : Int32}
    (db : Sql3) (hcnt : cnt.toInt = items.length) :
    (Opens env (newSyncHandler env) s m inbuffer key cnt items →
      (∀ item ∈ items, (newSyncReader env).Reads item) →
      ∃ r, newSyncBuf2Resp env s m db inbuffer = some r ∧
        Delivered env (newSyncReader env) false key items db r) ∧
    (Opens env (newInitHandler env) s m inbuffer key cnt items → cnt ≠ 0 →
      (∀ item ∈ items, (newInitReader env).Reads item ∧
        (item.type = 1 → env.proto.userInfo item.payload = true)) →
      ∃ r, newInitBuf2Resp env s m db inbuffer = some r ∧
        Delivered env (newInitReader env) true key items db r) := by
  constructor
  · intro ho hreads
    exact delivered_of_opens db ho hcnt
      (fun item hi => ⟨newSyncItem_of_reads (hreads item hi), hreads item hi⟩) fun _ => rfl
  · intro ho hne hreads
    exact delivered_of_opens db ho hcnt (fun item hi =>
      ⟨newInitItem_of_reads (hreads item hi).1 (hreads item hi).2, (hreads item hi).1⟩)
      fun h0 => absurd h0 hne

end

/-! ### A message, a contact and another item -/

def messageItem : Item :=
  ⟨5, [0x12, 0x15, 0x08, 0x07, 0x12, 0x03, 0x0a, 0x01, 0x61, 0x1a, 0x03, 0x0a, 0x01, 0x62, 0x20,
    0x01, 0x2a, 0x03, 0x0a, 0x01, 0x78, 0x48, 0x05]⟩

def wxidItem : Item := ⟨2, [0x12, 0x05, 0x0a, 0x03, 0x0a, 0x01, 0x77]⟩

/-- The key `k` and three items: the message `x` from `a` to `b`, the contact `w`, and an empty one
of type 3. -/
def itemsText : Bytes :=
  [0x12, 0x30, 0x08, 0x03, 0x12, 0x1b, 0x08, 0x05, 0x12, 0x17] ++ messageItem.payload ++
    [0x12, 0x0b, 0x08, 0x02, 0x12, 0x07] ++ wxidItem.payload ++
    [0x12, 0x02, 0x08, 0x03, 0x22, 0x01, 0x6b]

/-- `itemsText` and its padding under AES-128-CBC. -/
def itemsBody : Bytes :=
  [0x27, 0x3e, 0x60, 0xcd, 0xca, 0x53, 0x73, 0x35, 0x7b, 0x78, 0xb0, 0xef, 0xb1, 0xde, 0x6e, 0xd5,
    0x88, 0xaa, 0x0c, 0x16, 0x14, 0xb0, 0xfc, 0x53, 0xf3, 0x76, 0x41, 0x9c, 0xb5, 0x3d, 0x25, 0x30,
    0x6b, 0xe4, 0xf4, 0xf6, 0x17, 0x6c, 0x71, 0x3b, 0x7e, 0xe0, 0x74, 0xce, 0x4a, 0x9c, 0xbf, 0x15,
    0xb9, 0xbe, 0xd9, 0xcf, 0xa3, 0xc7, 0xc0, 0x6f, 0x65, 0x0b, 0x16, 0x65, 0x4c, 0xb8, 0x72, 0xa6]

/-- The key `k` and two items of a `NewInit` response: a profile, and the contact `w`. -/
def initText : Bytes :=
  [0x12, 0x01, 0x6b, 0x30, 0x02, 0x3a, 0x08, 0x08, 0x01, 0x12, 0x04, 0x12, 0x02, 0x08, 0x00, 0x3a,
    0x0b, 0x08, 0x02, 0x12, 0x07, 0x12, 0x05, 0x0a, 0x03, 0x0a, 0x01, 0x77]

/-- `initText` and its padding under AES-128-CBC. -/
def initBody : Bytes :=
  [0x58, 0x24, 0x84, 0xe1, 0x56, 0x19, 0x27, 0xeb, 0x13, 0xc4, 0x2c, 0xa0, 0xfb, 0xe7, 0xfc, 0x8c,
    0xd2, 0xa3, 0xd2, 0x9b, 0x40, 0xd1, 0x9d, 0xef, 0x89, 0x6f, 0x45, 0x45, 0x66, 0x1f, 0xd2, 0x45]

/-- The parsers on these responses. -/
def itemsProto : Proto where
  newSyncResp s :=
    if s = itemsText then some ⟨ascii "k", 3, [messageItem, wxidItem, ⟨3, []⟩]⟩ else none
  newInitResponse s :=
    if s = initText then
      some ⟨ascii "k", 2, [⟨1, [0x08, 0x00]⟩, ⟨2, [0x0a, 0x03, 0x0a, 0x01, 0x77]⟩]⟩
    else none
  newSyncRespMsg s :=
    if s = messageItem.payload then some ⟨ascii "a", ascii "b", ascii "x", 1, 5, 7⟩ else none
  newMsgContent _ := none
  commonMsg s := if s = wxidItem.payload then some [0x0a, 0x03, 0x0a, 0x01, 0x77] else none
  contactInfo s :=
    if s = [0x0a, 0x03, 0x0a, 0x01, 0x77] then some ⟨ascii "w", [], [], []⟩ else none
  userInfo s := s = [0x08, 0x00]

def itemsEnv : Env :=
  { plainEnv with
    crypto := decrypting itemsBody (itemsText ++ List.replicate 11 0x0b) rfl
    proto := itemsProto }

def initEnv : Env :=
  { plainEnv with
    crypto := decrypting initBody (initText ++ List.replicate 4 0x04) rfl
    proto := itemsProto }

theorem opens_itemsText : Opens itemsEnv (newSyncHandler itemsEnv)
    { authInfo := { m_Session := brokenKey } } {} (responseOf 53 itemsBody) (ascii "k") 3
    [messageItem, wxidItem, ⟨3, []⟩] :=
  (opens_iff_of_text (show _ = some (some itemsText) by decide +kernel)).mpr (by decide +kernel)

theorem opens_initText : Opens initEnv (newInitHandler initEnv)
    { authInfo := { m_Session := brokenKey } } {} (responseOf 28 initBody) (ascii "k") 2
    [⟨1, [0x08, 0x00]⟩, ⟨2, [0x0a, 0x03, 0x0a, 0x01, 0x77]⟩] :=
  (opens_iff_of_text (show _ = some (some initText) by decide +kernel)).mpr (by decide +kernel)

/-- The first is accepted. -/
theorem accepted_itemsText : AcceptedResponse itemsEnv (newSyncHandler itemsEnv)
    { authInfo := { m_Session := brokenKey } } {} (responseOf 53 itemsBody) := by
  have hrep : (newSyncBuf2Resp itemsEnv { authInfo := { m_Session := brokenKey } } {} ⟨none, 0⟩
      (responseOf 53 itemsBody)).map (·.reported) = some true := by decide +kernel
  obtain ⟨r, hr, hreported⟩ := Option.map_eq_some_iff.mp hrep
  exact ((reported_iff hr).mp hreported).2

end MicroChat
