import MicroChat.Business.Messages

/-!
# Db — LoadRecords

The callbacks of `MicroChatSDK/db/db.cpp` that read records back out of the database.

* `setMsgColumn`, `CMicroChatDB.loadMsgRecordCallBack`: a row of messages as a `NewMsg`.
* `loadMsgRecordCallBack_msgValues`: what `AddMsg` has stored, read back.
-/

namespace MicroChat
open Support

/-- A column of a row as a callback gets it: `lpszValue[i]`, and `argv[i]`, `none` for `NULL`. -/
abbrev Column := Bytes × Option Bytes

/-- A row of `select *,count(fromWxid) from msg group by fromWxid;`, as its callback gets it. -/
def recordColumns (row : Row) (count : Bytes) : List Column :=
  row.map (fun c => (c.1, some c.2)) ++ [(ascii "count(fromWxid)", some count)]

/-- `DB_INDEX_MSG_CNT`. -/
def dbIndexMsgCnt : Nat := 7

/-- The number of pointers in `ppNewMsg` of `LoadMsgRecord`. -/
def recordArraySize : Nat := 1024

/-- `NewMsg()`. -/
def newMsg : NewMsg := ⟨0, [], [], 0, 0, []⟩

/-- One round of the loop over the columns; `argv0` is `argv[DB_INDEX_MSG_SVRID]`. `none` where a
field does not fit, or `argv0` is read and `NULL`. -/
def setMsgColumn (P : Platform) (argv0 : Option Bytes) (pMsg : NewMsg) : Column → Option NewMsg
  | (_, none) => some pMsg
  | (strNameValue, some text) =>
      if strNameValue = ascii "fromWxid" then
        (strcpyS 1024 text).map fun szFrom => { pMsg with szFrom }
      else if strNameValue = ascii "toWxid" then
        (strcpyS 1024 text).map fun szTo => { pMsg with szTo }
      else if strNameValue = ascii "content" then
        (strcpyS 65535 (utf82CStringA P text)).map fun szContent => { pMsg with szContent }
      else if strNameValue = ascii "type" then
        some { pMsg with nType := Int32.ofInt (atoll text) }
      else if strNameValue = ascii "utc" then
        some { pMsg with utc := (Int32.ofInt (atoll text)).toUInt32 }
      else if strNameValue = ascii "svrid" then
        argv0.map fun text => { pMsg with svrid := (Int64.ofInt (atoll text)).toUInt64 }
      else some pMsg

/-- `int CMicroChatDB::LoadMsgRecordCallBack(…)`; `none` where the program is ended, or where it
writes behind the array. -/
def CMicroChatDB.loadMsgRecordCallBack (P : Platform) (res : SyncResult) (columns : List Column) :
    Option SyncResult :=
  if dbIndexMsgCnt + 1 ≠ columns.length then some res
  else do
    let pMsg ← columns.foldlM (setMsgColumn P (columns.head?.bind Prod.snd)) newMsg
    if res.ppNewMsg.length < recordArraySize then
      return { res with ppNewMsg := res.ppNewMsg ++ [pMsg], dwSize := res.dwSize + 1 }
    else none

/-! ### Messages read back -/

/-- The arrays of a message hold C strings. -/
structure NewMsg.Fits (pMsg : NewMsg) : Prop where
  szFrom : strcpyS 1024 pMsg.szFrom = some pMsg.szFrom
  szTo : strcpyS 1024 pMsg.szTo = some pMsg.szTo
  szContent : strcpyS 65535 pMsg.szContent = some pMsg.szContent

section
variable {P : Platform} {res : SyncResult}

/-- What the arrays of a message received are copied from. -/
theorem newMsgOf_eq_some {c : NewMsgContent} {pMsg : NewMsg} (h : newMsgOf P c = some pMsg) :
    strcpyS 1024 c.fromId = some pMsg.szFrom ∧ strcpyS 1024 c.toId = some pMsg.szTo ∧
      strcpyS 65535 (utf82CStringA P c.rawcontent) = some pMsg.szContent := by
  obtain ⟨szFrom, hfrom, h⟩ := Option.bind_eq_some_iff.mp h
  obtain ⟨szTo, hto, h⟩ := Option.bind_eq_some_iff.mp h
  obtain ⟨szContent, hcontent, h⟩ := Option.bind_eq_some_iff.mp h
  cases h
  exact ⟨hfrom, hto, hcontent⟩

theorem fits_of_newMsgOf {c : NewMsgContent} {pMsg : NewMsg} (h : newMsgOf P c = some pMsg) :
    pMsg.Fits := by
  obtain ⟨hfrom, hto, hcontent⟩ := newMsgOf_eq_some h
  exact ⟨strcpyS_strcpyS hfrom, strcpyS_strcpyS hto, strcpyS_strcpyS hcontent⟩

/-- The message read out of a row of the table of messages. -/
def recordMsg (P : Platform) (svrid utc fromWxid toWxid type content : Bytes) : Option NewMsg := do
  let szFrom ← strcpyS 1024 fromWxid
  let szTo ← strcpyS 1024 toWxid
  let szContent ← strcpyS 65535 (utf82CStringA P content)
  return ⟨(Int64.ofInt (atoll svrid)).toUInt64, szFrom, szTo, Int32.ofInt (atoll type),
    (Int32.ofInt (atoll utc)).toUInt32, szContent⟩

/-- The loop over the columns of a row of messages. -/
theorem foldlM_setMsgColumn (svrid utc createtime fromWxid toWxid type content count : Bytes) :
    (recordColumns (msgColumns.zip [svrid, utc, createtime, fromWxid, toWxid, type, content])
        count).foldlM (setMsgColumn P (some svrid)) newMsg =
      recordMsg P svrid utc fromWxid toWxid type content := by
  have hset (pMsg : NewMsg) (text : Bytes) :
      setMsgColumn P (some svrid) pMsg (ascii "svrid", some text) =
          some { pMsg with svrid := (Int64.ofInt (atoll svrid)).toUInt64 } ∧
        setMsgColumn P (some svrid) pMsg (ascii "utc", some text) =
          some { pMsg with utc := (Int32.ofInt (atoll text)).toUInt32 } ∧
        setMsgColumn P (some svrid) pMsg (ascii "createtime", some text) = some pMsg ∧
        setMsgColumn P (some svrid) pMsg (ascii "fromWxid", some text) =
          (strcpyS 1024 text).map (fun szFrom => { pMsg with szFrom }) ∧
        setMsgColumn P (some svrid) pMsg (ascii "toWxid", some text) =
          (strcpyS 1024 text).map (fun szTo => { pMsg with szTo }) ∧
        setMsgColumn P (some svrid) pMsg (ascii "type", some text) =
          some { pMsg with nType := Int32.ofInt (atoll text) } ∧
        setMsgColumn P (some svrid) pMsg (ascii "content", some text) =
          (strcpyS 65535 (utf82CStringA P text)).map (fun szContent => { pMsg with szContent }) ∧
        setMsgColumn P (some svrid) pMsg (ascii "count(fromWxid)", some text) = some pMsg :=
    ⟨rfl, rfl, rfl, rfl, rfl, rfl, rfl, rfl⟩
  have hcolumns : recordColumns
      (msgColumns.zip [svrid, utc, createtime, fromWxid, toWxid, type, content]) count =
        [(ascii "svrid", some svrid), (ascii "utc", some utc),
          (ascii "createtime", some createtime), (ascii "fromWxid", some fromWxid),
          (ascii "toWxid", some toWxid), (ascii "type", some type),
          (ascii "content", some content), (ascii "count(fromWxid)", some count)] := rfl
  rw [hcolumns, recordMsg]
  simp only [List.foldlM_cons, List.foldlM_nil, hset]
  cases strcpyS 1024 fromWxid with
  | none => rfl
  | some szFrom =>
      cases strcpyS 1024 toWxid with
      | none => rfl
      | some szTo => cases strcpyS 65535 (utf82CStringA P content) <;> rfl

/-- **A row of messages is one more message**, or the end of the program. -/
theorem loadMsgRecordCallBack_row
    (svrid utc createtime fromWxid toWxid type content count : Bytes) :
    CMicroChatDB.loadMsgRecordCallBack P res (recordColumns
        (msgColumns.zip [svrid, utc, createtime, fromWxid, toWxid, type, content]) count) =
      (recordMsg P svrid utc fromWxid toWxid type content).bind fun pMsg =>
        if res.ppNewMsg.length < recordArraySize then
          some { res with ppNewMsg := res.ppNewMsg ++ [pMsg], dwSize := res.dwSize + 1 }
        else none := by
  rw [CMicroChatDB.loadMsgRecordCallBack, if_neg (fun hne => hne rfl),
    ← foldlM_setMsgColumn svrid utc createtime fromWxid toWxid type content count]
  rfl

/-- **What `AddMsg` has stored is read back** as it was, but for the conversions of its text. -/
theorem loadMsgRecordCallBack_msgValues {pMsg : NewMsg} (hfits : pMsg.Fits)
    (hres : res.ppNewMsg.length < recordArraySize) (count : Bytes) :
    CMicroChatDB.loadMsgRecordCallBack P res
        (recordColumns (msgColumns.zip (msgValues P pMsg)) count) =
      (strcpyS 65535 (utf82CStringA P (cStringA2Utf8 P pMsg.szContent))).map fun szContent =>
        { res with
          ppNewMsg := res.ppNewMsg ++ [{ pMsg with szContent }], dwSize := res.dwSize + 1 } := by
  obtain ⟨hsvrid, hutc, htype⟩ := msgValues_numbers pMsg
  rw [msgValues, loadMsgRecordCallBack_row, recordMsg, cstr_of_strcpyS hfits.szFrom,
    cstr_of_strcpyS hfits.szTo, hfits.szFrom, hfits.szTo, hsvrid, hutc, htype]
  cases strcpyS 65535 (utf82CStringA P (cStringA2Utf8 P pMsg.szContent)) with
  | none => rfl
  | some szContent => exact if_pos hres

end

end MicroChat
