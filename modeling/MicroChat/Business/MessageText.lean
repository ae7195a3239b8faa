import MicroChat.Business.Decoding
import MicroChat.Business.Delivery
import MicroChat.Db.LoadRecords

/-!
# Business — MessageText

The text of a message on its way through the database: a sent message from the user interface and
a received one from the server, and both back to the user interface.

* `sentMsg`, `newSendBuf2RespLogged_eq`: the message `NewSendCGITask::Buf2Resp` stores, with the
  calls of `LOG` that storing it makes.
* `KeepsText`: a message is one row, and read back with a given text.
* `sameEncoding_iff`: which texts are stored alike by both, and read back.
-/

namespace MicroChat
open Support Support.Sql Support.Utf16

/-! ### The messages stored -/

/-- The message `NewSendCGITask::Buf2Resp` stores. -/
def sentMsg (t : NewSendCGITask) (x : CgiState) (time : UInt32) : Option NewMsg := do
  let szFrom ← strcpyS 1024 x.auth.account.m_WxId
  let szTo ← strcpyS 1024 t.m_ToId
  let szContent ← strcpyS 65535 t.m_content
  return ⟨0, szFrom, szTo, 1, time, szContent⟩

/-- `int NewSendCGITask::Buf2Resp(…)`; `none` also where a call of `LOG` does not return. -/
def newSendBuf2RespLogged (env : CgiEnv) (L : LogEnv) (t : NewSendCGITask) (x : CgiState)
    (time : UInt32) : Option CgiState := do
  let szFrom ← strcpyS 1024 x.auth.account.m_WxId
  let szTo ← strcpyS 1024 t.m_ToId
  let szContent ← strcpyS 65535 t.m_content
  let db ← addMsgLogged env.platform env.sqlite L x.db ⟨0, szFrom, szTo, 1, time, szContent⟩
  return { x with db }

theorem newSendBuf2Resp_eq (env : CgiEnv) (t : NewSendCGITask) (x : CgiState) (time : UInt32) :
    newSendBuf2Resp env t x time =
      (sentMsg t x time).map fun pMsg =>
        { x with db := addMsg env.platform env.sqlite x.db pMsg } := by
  rw [newSendBuf2Resp, sentMsg]
  cases strcpyS 1024 x.auth.account.m_WxId with
  | none => rfl
  | some szFrom =>
      cases strcpyS 1024 t.m_ToId with
      | none => rfl
      | some szTo => cases strcpyS 65535 t.m_content <;> rfl

/-- The message gets past `LOG`, and then what is done is what is done without. -/
theorem newSendBuf2RespLogged_eq {env : CgiEnv} {L : LogEnv} {t : NewSendCGITask} {x : CgiState}
    {time : UInt32} {pMsg : NewMsg} (h : sentMsg t x time = some pMsg) :
    newSendBuf2RespLogged env L t x time =
      if Logged env.platform env.sqlite L x.db (addMsgText env.platform pMsg) then
        newSendBuf2Resp env t x time
      else none := by
  rw [newSendBuf2Resp_eq, h]
  obtain ⟨szFrom, hfrom, h⟩ := Option.bind_eq_some_iff.mp h
  obtain ⟨szTo, hto, h⟩ := Option.bind_eq_some_iff.mp h
  obtain ⟨szContent, hcontent, h⟩ := Option.bind_eq_some_iff.mp h
  cases h
  simp only [newSendBuf2RespLogged, hfrom, hto, hcontent, Option.bind_eq_bind, Option.bind_some,
    addMsgLogged, execSQLLogged_eq]
  split <;> rfl

/-- An id that fits into its array and keeps within its literal. -/
def Storable (wxid : Bytes) : Prop := (cstr wxid).length < 1024 ∧ apostrophe ∉ cstr wxid

instance (wxid : Bytes) : Decidable (Storable wxid) := inferInstanceAs (Decidable (_ ∧ _))

/-- The ids of the sender and the receiver of both messages can be stored. -/
def IdsStorable (x : CgiState) (m_ToId : Bytes) (msg : NewMsgContent) : Prop :=
  (Storable x.auth.account.m_WxId ∧ Storable m_ToId) ∧ Storable msg.fromId ∧ Storable msg.toId

/-- The message that is sent, and the one that is received, where their fields fit and the text
stays as it is. -/
def sentAs (x : CgiState) (m_ToId : Bytes) (time : UInt32) (t : Bytes) : NewMsg :=
  ⟨0, cstr x.auth.account.m_WxId, cstr m_ToId, 1, time, t⟩

def receivedAs (msg : NewMsgContent) (t : Bytes) : NewMsg :=
  ⟨msg.serverid.toUInt64, cstr msg.fromId, cstr msg.toId, msg.type, msg.createtime.toUInt32, t⟩

/-- Both get past `LOG` when they are stored. -/
def BothLogged (env : CgiEnv) (L : LogEnv) (x : CgiState) (st : SyncState) (m_ToId : Bytes)
    (time : UInt32) (msg : NewMsgContent) (t : Bytes) : Prop :=
  Logged env.platform env.sqlite L x.db (addMsgText env.platform (sentAs x m_ToId time t)) ∧
    Logged env.platform env.sqlite L st.db (addMsgText env.platform (receivedAs msg t))

/-- The column `content` of the row of a message. -/
def contentColumn (P : Platform) (pMsg : NewMsg) : Option Bytes :=
  (msgColumns.zip (msgValues P pMsg)).lookup (ascii "content")

theorem contentColumn_eq (P : Platform) (pMsg : NewMsg) :
    contentColumn P pMsg = some (cStringA2Utf8 P pMsg.szContent) := rfl

/-- The message goes into the database as one row of its values and nothing else, and is read back
out of there with the text `t`. -/
structure KeepsText (P : Platform) (t : Bytes) (pMsg : NewMsg) : Prop where
  stored : AddsRow (addMsgText P pMsg) msgTable msgColumns (msgValues P pMsg)
  loaded : ∀ (res : SyncResult) (count : Bytes), res.ppNewMsg.length < recordArraySize →
    CMicroChatDB.loadMsgRecordCallBack P res
        (recordColumns (msgColumns.zip (msgValues P pMsg)) count) =
      some { res with
        ppNewMsg := res.ppNewMsg ++ [{ pMsg with szContent := t }], dwSize := res.dwSize + 1 }

/-- The text `t`, sent, and received in an item, is stored in the same encoding, and read back; `st`
is what the loop over the items has come to. -/
def SameEncoding (env : CgiEnv) (L : LogEnv) (x : CgiState) (st : SyncState) (m_ToId : Bytes)
    (time : UInt32) (item : Item) (t : Bytes) : Prop :=
  ∃ sent received,
    sentMsg ⟨cStringA2Utf8 env.platform t, m_ToId⟩ x time = some sent ∧
    newSendBuf2RespLogged env L ⟨cStringA2Utf8 env.platform t, m_ToId⟩ x time =
      some { x with db := addMsg env.platform env.sqlite x.db sent } ∧
    newSyncItem env.toEnv item = some (.message received) ∧
    (storeItemLogged env.toEnv L false st (.message received)).map SyncState.db =
      some (addMsg env.platform env.sqlite st.db received) ∧
    contentColumn env.platform sent = contentColumn env.platform received ∧
    KeepsText env.platform t sent ∧ KeepsText env.platform t received

section
variable {P : Platform}

theorem strcpyS_of_length {n : Nat} {s : Bytes} (h0 : (0 : UInt8) ∉ s) :
    strcpyS n s = if s.length < n then some s else none := by
  rw [strcpyS, cstr_eq_self h0]

theorem Storable.strcpyS {wxid : Bytes} (h : Storable wxid) :
    MicroChat.strcpyS 1024 wxid = some (cstr wxid) := if_pos h.1

/-- An id that has been copied and holds no apostrophe. -/
theorem storable_of_strcpyS {wxid sz : Bytes} (h : strcpyS 1024 wxid = some sz)
    (hquote : apostrophe ∉ cstr sz) : Storable wxid := by
  have hsz : cstr wxid = sz := cstr_of_strcpyS h
  rw [← hsz, cstr_eq_self (zero_notMem_cstr wxid)] at hquote
  refine ⟨?_, hquote⟩
  by_contra hlong
  rw [strcpyS, if_neg hlong] at h
  cases h

/-- **Which messages keep their text**: those whose text comes back from UTF-8, on a machine that
brings every text back. -/
theorem keepsText (hround : P.RoundTrips) {pMsg : NewMsg} (hfits : pMsg.Fits)
    (hquote : pMsg.QuoteFree P) : KeepsText P pMsg.szContent pMsg where
  stored := (addsRow_addMsgText_iff P).mpr hquote
  loaded res count hres := by
    have h0 : (0 : UInt8) ∉ pMsg.szContent := by
      rw [← cstr_of_strcpyS hfits.szContent]
      exact zero_notMem_cstr _
    rw [loadMsgRecordCallBack_msgValues hfits hres, hround _ h0, hfits.szContent]
    rfl

end

section
variable {env : CgiEnv} {L : LogEnv} {x : CgiState} {st : SyncState} {m_ToId : Bytes}
  {time : UInt32} {item : Item} {t : Bytes}

/-- The message sent is one whose arrays hold what was copied, `m_content` among it. -/
theorem sentMsg_eq_some {task : NewSendCGITask} {pMsg : NewMsg}
    (h : sentMsg task x time = some pMsg) :
    strcpyS 1024 x.auth.account.m_WxId = some pMsg.szFrom ∧
      strcpyS 1024 task.m_ToId = some pMsg.szTo ∧
      strcpyS 65535 task.m_content = some pMsg.szContent := by
  obtain ⟨szFrom, hfrom, h⟩ := Option.bind_eq_some_iff.mp h
  obtain ⟨szTo, hto, h⟩ := Option.bind_eq_some_iff.mp h
  obtain ⟨szContent, hcontent, h⟩ := Option.bind_eq_some_iff.mp h
  cases h
  exact ⟨hfrom, hto, hcontent⟩

theorem newSyncItem_message {msg : NewMsgContent} (htype : item.type = 5)
    (hparse : env.proto.newSyncRespMsg item.payload = some msg) :
    newSyncItem env.toEnv item = (newMsgOf env.platform msg).map .message := by
  rw [newSyncItem, if_pos htype, hparse]

/-- So it is the one of the copied fields. -/
theorem sentMsg_eq_sentAs {task : NewSendCGITask} {pMsg : NewMsg}
    (h : sentMsg task x time = some pMsg) :
    pMsg = sentAs x task.m_ToId time (cstr task.m_content) := by
  obtain ⟨szFrom, hfrom, h⟩ := Option.bind_eq_some_iff.mp h
  obtain ⟨szTo, hto, h⟩ := Option.bind_eq_some_iff.mp h
  obtain ⟨szContent, hcontent, h⟩ := Option.bind_eq_some_iff.mp h
  cases h
  rw [sentAs, cstr_of_strcpyS hfrom, cstr_of_strcpyS hto, cstr_of_strcpyS hcontent]

/-- The message received is the text back from UTF-8. -/
theorem newMsgOf_eq_receivedAs {P : Platform} {msg : NewMsgContent} {pMsg : NewMsg}
    (h : newMsgOf P msg = some pMsg) :
    pMsg = receivedAs msg (cstr (utf82CStringA P msg.rawcontent)) := by
  obtain ⟨szFrom, hfrom, h⟩ := Option.bind_eq_some_iff.mp h
  obtain ⟨szTo, hto, h⟩ := Option.bind_eq_some_iff.mp h
  obtain ⟨szContent, hcontent, h⟩ := Option.bind_eq_some_iff.mp h
  cases h
  rw [receivedAs, cstr_of_strcpyS hfrom, cstr_of_strcpyS hto, cstr_of_strcpyS hcontent]

/-- A text that is stored alike and read back is UTF-8 as it is. -/
theorem fixed_of_sameEncoding (hround : env.platform.RoundTrips) (h0 : (0 : UInt8) ∉ t)
    {msg : NewMsgContent} (htype : item.type = 5)
    (hparse : env.proto.newSyncRespMsg item.payload = some msg)
    (hraw : msg.rawcontent = cStringA2Utf8 env.platform t)
    (h : SameEncoding env L x st m_ToId time item t) :
    IdsStorable x m_ToId msg ∧ cStringA2Utf8 env.platform t = t ∧ t.length < 65535 ∧
      BothLogged env L x st m_ToId time msg t := by
  obtain ⟨sent, received, hsent, hlogged, hreceived, hlogged', hcolumn, hkept, hkept'⟩ := h
  have hsentAs := sentMsg_eq_sentAs hsent
  rw [newSendBuf2RespLogged_eq hsent] at hlogged
  rw [storeItemLogged_eq] at hlogged'
  obtain ⟨hfrom, hto, hcontent⟩ := sentMsg_eq_some hsent
  rw [newSyncItem_message htype hparse, Option.map_eq_some_iff] at hreceived
  obtain ⟨received', hmsg, he⟩ := hreceived
  cases he
  have hreceivedAs := newMsgOf_eq_receivedAs hmsg
  obtain ⟨hfrom', hto', hreceived⟩ := newMsgOf_eq_some hmsg
  have hsentText := cstr_of_strcpyS hcontent
  have hreceivedText := cstr_of_strcpyS hreceived
  rw [cstr_eq_self (zero_notMem_cStringA2Utf8 _ _)] at hsentText
  rw [hraw, hround t h0, cstr_eq_self h0] at hreceivedText
  rw [contentColumn_eq, contentColumn_eq, Option.some_inj, ← hsentText, ← hreceivedText] at hcolumn
  -- back from UTF-8 on both sides
  have hfixed : cStringA2Utf8 env.platform t = t := by
    have hback := congrArg (utf82CStringA env.platform) hcolumn
    rwa [hround t h0, hround _ (zero_notMem_cStringA2Utf8 _ _)] at hback
  have htext : cstr (cStringA2Utf8 env.platform t) = t := by
    rw [cstr_eq_self (zero_notMem_cStringA2Utf8 _ _), hfixed]
  rw [hraw, hround t h0, cstr_eq_self h0] at hreceivedAs
  rw [htext] at hsentAs
  subst hsentAs hreceivedAs
  refine ⟨?_, hfixed, ?_, ?_, ?_⟩
  · obtain ⟨hq, hq', -⟩ := (addsRow_addMsgText_iff env.platform).mp hkept.stored
    obtain ⟨hq₂, hq₂', -⟩ := (addsRow_addMsgText_iff env.platform).mp hkept'.stored
    exact ⟨⟨storable_of_strcpyS hfrom hq, storable_of_strcpyS hto hq'⟩,
      storable_of_strcpyS hfrom' hq₂, storable_of_strcpyS hto' hq₂'⟩
  · rw [strcpyS_of_length (zero_notMem_cStringA2Utf8 _ _), hfixed] at hcontent
    by_contra hlong
    rw [if_neg hlong] at hcontent
    cases hcontent
  · by_contra hno
    rw [if_neg hno] at hlogged
    cases hlogged
  · by_contra hno
    rw [if_neg (by simpa [Decoded.text] using hno)] at hlogged'
    cases hlogged'

/-- **Which texts are stored alike, sent and received, and read back**: with ids that can be stored
at all, the quote-free texts that `CStringA2Utf8` leaves as they are, that fit, and whose statements
get past `LOG`, on a machine that brings every text back. -/
theorem sameEncoding_iff (hround : env.platform.RoundTrips) (h0 : (0 : UInt8) ∉ t)
    (hquote : apostrophe ∉ t) {msg : NewMsgContent} (htype : item.type = 5)
    (hparse : env.proto.newSyncRespMsg item.payload = some msg)
    (hraw : msg.rawcontent = cStringA2Utf8 env.platform t) :
    SameEncoding env L x st m_ToId time item t ↔
      IdsStorable x m_ToId msg ∧ cStringA2Utf8 env.platform t = t ∧ t.length < 65535 ∧
        BothLogged env L x st m_ToId time msg t := by
  refine ⟨fixed_of_sameEncoding hround h0 htype hparse hraw, ?_⟩
  rintro ⟨⟨⟨hself, hto⟩, hfrom', hto'⟩, hfixed, hlen, hlogged, hlogged'⟩
  have hquoted (wxid : Bytes) (h : Storable wxid) : apostrophe ∉ cstr (cstr wxid) := by
    rw [cstr_eq_self (zero_notMem_cstr wxid)]
    exact h.2
  have htext : strcpyS 65535 t = some t := by
    rw [strcpyS_of_length h0, if_pos hlen]
  have hquote' : apostrophe ∉ cStringA2Utf8 env.platform t := by
    rwa [hfixed]
  have hsent : sentMsg ⟨cStringA2Utf8 env.platform t, m_ToId⟩ x time =
      some (sentAs x m_ToId time t) := by
    rw [sentMsg, hself.strcpyS, hto.strcpyS, hfixed, htext]
    rfl
  have hmsg : newMsgOf env.platform msg = some (receivedAs msg t) := by
    rw [newMsgOf, hfrom'.strcpyS, hto'.strcpyS, hraw, hround t h0, htext]
    rfl
  refine ⟨sentAs x m_ToId time t, receivedAs msg t, hsent, ?_, ?_, ?_, ?_, ?_, ?_⟩
  · rw [newSendBuf2RespLogged_eq hsent, if_pos hlogged, newSendBuf2Resp_eq, hsent]
    rfl
  · rw [newSyncItem_message htype hparse, hmsg]
    rfl
  · rw [storeItemLogged_eq, if_pos (by simpa [Decoded.text] using hlogged')]
    rfl
  · rw [contentColumn_eq, contentColumn_eq]
    rfl
  · have hfits : (sentAs x m_ToId time t).Fits :=
      ⟨strcpyS_strcpyS hself.strcpyS, strcpyS_strcpyS hto.strcpyS, htext⟩
    exact keepsText hround hfits ⟨hquoted _ hself, hquoted _ hto, hquote'⟩
  · exact keepsText hround (fits_of_newMsgOf hmsg) ⟨hquoted _ hfrom', hquoted _ hto', hquote'⟩

end

/-! ### A machine set to Latin-1 -/

/-- UTF-8 of one and two bytes read; a byte of anything else is `U+FFFD`. -/
def wideOfUtf8 : Bytes → Wide
  | [] => []
  | [b] => [if b < 0x80 then b.toUInt16 else 0xfffd]
  | b :: c :: s =>
      if b < 0x80 then b.toUInt16 :: wideOfUtf8 (c :: s)
      else if 0xc2 ≤ b ∧ b < 0xe0 ∧ 0x80 ≤ c ∧ c < 0xc0 then
        UInt16.ofNat (b.toNat % 32 * 64 + c.toNat % 64) :: wideOfUtf8 s
      else 0xfffd :: wideOfUtf8 (c :: s)

def latin1Platform : Platform :=
  { asciiPlatform with
    cw2a := fun w => w.map fun u => if u < 0x100 then u.toUInt8 else 0x3f
    utf8ToWide := wideOfUtf8 }

theorem isHigh_toUInt16 (b : UInt8) : isHigh b.toUInt16 = false := by
  have : ¬ (0xd800 : UInt16) ≤ b.toUInt16 := by
    rw [UInt16.le_iff_toNat_le, UInt8.toNat_toUInt16]
    have := b.toNat_lt
    simp only [UInt16.reduceToNat]
    omega
  simp [isHigh, this]

/-- The two bytes of a character beyond ASCII, and what is read out of them. -/
theorem encodeUnit_toUInt16 (b : UInt8) : ¬ b < 0x80 →
    encodeUnit b.toUInt16 = [UInt8.ofNat (0xc0 + b.toNat / 64), tail b.toNat] ∧
      (∀ s, wideOfUtf8 (UInt8.ofNat (0xc0 + b.toNat / 64) :: tail b.toNat :: s) =
        b.toUInt16 :: wideOfUtf8 s) := by
  have hbytes : ∀ b : UInt8, ¬ b < 0x80 →
      encodeUnit b.toUInt16 = [UInt8.ofNat (0xc0 + b.toNat / 64), tail b.toNat] ∧
        ¬ UInt8.ofNat (0xc0 + b.toNat / 64) < 0x80 ∧
        (0xc2 ≤ UInt8.ofNat (0xc0 + b.toNat / 64) ∧ UInt8.ofNat (0xc0 + b.toNat / 64) < 0xe0 ∧
          0x80 ≤ tail b.toNat ∧ tail b.toNat < 0xc0) ∧
        UInt16.ofNat ((UInt8.ofNat (0xc0 + b.toNat / 64)).toNat % 32 * 64 +
          (tail b.toNat).toNat % 64) = b.toUInt16 := forall_byte (by decide +kernel)
  intro hb
  obtain ⟨he, hlead, hrange, hvalue⟩ := hbytes b hb
  refine ⟨he, ?_⟩
  intro s
  rw [wideOfUtf8, if_neg hlead, if_pos hrange, hvalue]

theorem wideOfUtf8_encodeUnit (b : UInt8) (s : Bytes) :
    wideOfUtf8 (encodeUnit b.toUInt16 ++ s) = b.toUInt16 :: wideOfUtf8 s := by
  by_cases hb : b < 0x80
  · rw [encodeUnit_ascii (toUInt16_lt hb), UInt8.toUInt8_toUInt16, List.singleton_append]
    cases s with
    | nil => simp only [wideOfUtf8, if_pos hb]
    | cons c s => rw [wideOfUtf8, if_pos hb]
  · obtain ⟨he, hread⟩ := encodeUnit_toUInt16 b hb
    rw [he, List.cons_append, List.singleton_append, hread]

theorem wideOfUtf8_toUtf8 (t : Bytes) : wideOfUtf8 (toUtf8 (ofAscii t)) = ofAscii t := by
  induction t with
  | nil => rfl
  | cons b t ih =>
      rw [ofAscii, List.map_cons, toUtf8_cons (isHigh_toUInt16 b), wideOfUtf8_encodeUnit]
      exact congrArg _ ih

/-- Every text comes back. -/
theorem roundTrips_latin1Platform : latin1Platform.RoundTrips := by
  intro t h0
  have hz : (0 : UInt16) ∉ ofAscii t := zero_notMem_ofAscii h0
  have hbyte : ∀ b : UInt8, (if b.toUInt16 < 0x100 then b.toUInt16.toUInt8 else 0x3f) = b :=
    forall_byte (by decide +kernel)
  have hback : latin1Platform.cw2a (ofAscii t) = t := by
    change (t.map UInt8.toUInt16).map _ = t
    rw [List.map_map]
    exact (List.map_congr_left fun b _ => hbyte b).trans (List.map_id t)
  have hwide : cA2W latin1Platform t = ofAscii t := by
    rw [cA2W, cstr_eq_self h0]
    exact wcstr_eq_self hz
  have hread : utf8ToUnicode latin1Platform (toUtf8 (ofAscii t)) = ofAscii t := by
    rw [utf8ToUnicode, cstr_eq_self (zero_notMem_toUtf8 hz)]
    change wcstr (wideOfUtf8 _) = _
    rw [wideOfUtf8_toUtf8, wcstr_eq_self hz]
  rw [cStringA2Utf8, hwide, unicodeToUtf8, wcstr_eq_self hz, utf82CStringA, hread, cW2A,
    wcstr_eq_self hz, hback, cstr_eq_self h0]

/-- A `NewSync` item with the message `é` from `a` to `b`. -/
def acuteItem : Item :=
  ⟨5, [0x12, 0x16, 0x08, 0x07, 0x12, 0x03, 0x0a, 0x01, 0x61, 0x1a, 0x03, 0x0a, 0x01, 0x62, 0x20,
    0x01, 0x2a, 0x04, 0x0a, 0x02, 0xc3, 0xa9, 0x48, 0x05]⟩

/-- A machine set to Latin-1 on `messageItem` and `acuteItem`. -/
def latin1Env : CgiEnv :=
  { itemsCgiEnv with
    platform := latin1Platform
    proto := { itemsProto with
      newSyncRespMsg := fun s =>
        if s = acuteItem.payload then some ⟨ascii "a", ascii "b", [0xc3, 0xa9], 1, 5, 7⟩
        else itemsProto.newSyncRespMsg s } }

/-- The client with an open database, and the loop before its first item. -/
def openState : CgiState := { loggedIn with db := openDb }

def firstState : SyncState := ⟨{}, openDb⟩

/-- The text `x`, on its way both ways. -/
theorem sameEncoding_x :
    SameEncoding latin1Env plainLog openState firstState (ascii "b") 0 messageItem (ascii "x") := by
  have hlogged : BothLogged latin1Env plainLog openState firstState (ascii "b") 0
      ⟨ascii "a", ascii "b", ascii "x", 1, 5, 7⟩ (ascii "x") :=
    ⟨by decide +kernel, by decide +kernel⟩
  exact (@sameEncoding_iff latin1Env plainLog openState firstState (ascii "b") 0 messageItem
    (ascii "x") roundTrips_latin1Platform (by decide) (by decide)
    ⟨ascii "a", ascii "b", ascii "x", 1, 5, 7⟩ rfl (by decide +kernel) (by decide +kernel)).mpr
      ⟨⟨⟨by decide, by decide⟩, by decide, by decide⟩,
        cStringA2Utf8_ascii latin1Platform (ascii_lt (by decide)) (by decide), by decide, hlogged⟩

/-- The text `é`: sent, it is stored in four bytes. -/
theorem not_sameEncoding : ¬ ∀ (env : CgiEnv) (L : LogEnv) (x : CgiState) (st : SyncState)
    (m_ToId : Bytes) (time : UInt32) (item : Item) (msg : NewMsgContent) (t : Bytes),
    env.platform.RoundTrips → (0 : UInt8) ∉ t → apostrophe ∉ t → IdsStorable x m_ToId msg →
    item.type = 5 → env.proto.newSyncRespMsg item.payload = some msg →
    msg.rawcontent = cStringA2Utf8 env.platform t →
    SameEncoding env L x st m_ToId time item t := by
  intro h
  have hparse : latin1Env.proto.newSyncRespMsg acuteItem.payload =
      some ⟨ascii "a", ascii "b", [0xc3, 0xa9], 1, 5, 7⟩ := by decide +kernel
  have hsame := h latin1Env plainLog openState firstState (ascii "b") 0 acuteItem
    ⟨ascii "a", ascii "b", [0xc3, 0xa9], 1, 5, 7⟩ [0xe9] roundTrips_latin1Platform (by decide)
    (by decide) ⟨⟨by decide, by decide⟩, by decide, by decide⟩ rfl hparse (by decide +kernel)
  have hfixed := fixed_of_sameEncoding roundTrips_latin1Platform (by decide) rfl hparse
    (by decide +kernel) hsame
  exact absurd hfixed.2.1 (by decide +kernel)

end MicroChat
