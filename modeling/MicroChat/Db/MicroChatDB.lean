import MicroChat.Db.Sql3

/-!
# Db — MicroChatDB

`MicroChatSDK/db/db.cpp`: the tables of the client and the statements it writes.

* `addMsg`, `updateSyncKey`, `insertContact`: the three writers, the last from
  `NewInitCGITask::Buf2Resp`.
* `addMsgText_eq`, `insertContactText_eq`: the texts are insertions of the interpolated values.
* `addsRow_addMsgText_iff`, `addsRow_insertContactText_iff`: they are read as that, and add just
  one row, exactly when no value holds an apostrophe.
-/

namespace MicroChat
open Support Support.Sql Support.Utf16

/-- `NewMsg` of `interface.h`; the arrays hold C strings. -/
structure NewMsg where
  svrid : UInt64
  szFrom : Bytes
  szTo : Bytes
  nType : Int32
  utc : UInt32
  szContent : Bytes
  deriving DecidableEq, Repr

/-- `ContactInfo` of `interface.h`. -/
structure ContactInfo where
  wxid : Bytes
  nickName : Bytes
  headicon : Bytes
  v1_Name : Bytes
  deriving DecidableEq, Repr

/-! ### The tables -/

def synckeyTable : Bytes := ascii "synckey"
def synckeyColumns : List Bytes := [ascii "key"]

def contactTable : Bytes := ascii "contact"
def contactColumns : List Bytes :=
  [ascii "wxid", ascii "nickname", ascii "headicon", ascii "v1_name"]

def msgTable : Bytes := ascii "msg"
def msgColumns : List Bytes :=
  [ascii "svrid", ascii "utc", ascii "createtime", ascii "fromWxid", ascii "toWxid", ascii "type",
    ascii "content"]

theorem isWord_tables : IsWord synckeyTable ∧ IsWord contactTable ∧ IsWord msgTable := by decide

theorem isWord_columns : (∀ c ∈ synckeyColumns, IsWord c) ∧ (∀ c ∈ contactColumns, IsWord c) ∧
    ∀ c ∈ msgColumns, IsWord c := by decide

/-! ### The writers -/

section
variable (P : Platform)

/-- `Utc2BeijingTime`. -/
def utc2BeijingTime (dwUtc : UInt32) : Bytes :=
  let tmdate := P.localtime dwUtc
  decimal (tmdate.tm_year + 1900) ++ ascii "-" ++ decimal2 (tmdate.tm_mon + 1) ++ ascii "-" ++
    decimal2 tmdate.tm_mday ++ ascii " " ++ decimal2 tmdate.tm_hour ++ ascii ":" ++
    decimal2 tmdate.tm_min ++ ascii ":" ++ decimal2 tmdate.tm_sec

/-- The text `AddMsg` formats; `%lld` and `%d` print the unsigned fields as signed. -/
def addMsgText (pMsg : NewMsg) : Bytes :=
  ascii "insert into msg(svrid,utc,createtime,fromWxid,toWxid,type,content) values('" ++
    decimal pMsg.svrid.toInt64.toInt ++ ascii "','" ++ decimal pMsg.utc.toInt32.toInt ++
    ascii "','" ++ utc2BeijingTime P pMsg.utc ++ ascii "','" ++ cstr pMsg.szFrom ++ ascii "','" ++
    cstr pMsg.szTo ++ ascii "','" ++ decimal pMsg.nType.toInt ++ ascii "','" ++
    cStringA2Utf8 P pMsg.szContent ++ ascii "');"

/-- The text `NewInitCGITask::Buf2Resp` formats for a contact, as UTF-16. -/
def insertContactText (pInfo : ContactInfo) : Wide :=
  ofAscii (ascii "insert into contact(wxid,nickname,headicon,v1_name) values('") ++
    cA2W P pInfo.wxid ++ ofAscii (ascii "','") ++ utf8ToUnicode P pInfo.nickName ++
    ofAscii (ascii "','") ++ cA2W P pInfo.headicon ++ ofAscii (ascii "','") ++
    cA2W P pInfo.v1_Name ++ ofAscii (ascii "');")

/-- The text `UpdateSyncKey` formats for the new key, as UTF-16. -/
def updateSyncKeyText (strSyncKey : Bytes) : Wide :=
  ofAscii (ascii "insert into synckey(key) values('") ++ cA2W P strSyncKey ++
    ofAscii (ascii "');")

variable (E : Sqlite)

/-- `void CMicroChatDB::AddMsg(NewMsg *pMsg)`. -/
def addMsg (s : Sql3) (pMsg : NewMsg) : Sql3 := (s.execSQL E (addMsgText P pMsg)).1

/-- The insertion of a contact in `NewInitCGITask::Buf2Resp`. -/
def insertContact (s : Sql3) (pInfo : ContactInfo) : Sql3 :=
  (s.execSQL E (unicodeToUtf8 (insertContactText P pInfo))).1

/-- `void CMicroChatDB::UpdateSyncKey(string strSyncKey)`. -/
def updateSyncKey (s : Sql3) (strSyncKey : Bytes) : Sql3 :=
  let s := (s.execSQL E (unicodeToUtf8 (ofAscii (ascii "delete from synckey;")))).1
  (s.execSQL E (unicodeToUtf8 (updateSyncKeyText P strSyncKey))).1

end

/-! ### The texts as insertions -/

section
variable (P : Platform)

/-- The values of a message's row. -/
def msgValues (pMsg : NewMsg) : List Bytes :=
  [decimal pMsg.svrid.toInt64.toInt, decimal pMsg.utc.toInt32.toInt, utc2BeijingTime P pMsg.utc,
    cstr pMsg.szFrom, cstr pMsg.szTo, decimal pMsg.nType.toInt, cStringA2Utf8 P pMsg.szContent]

/-- The values of a contact's row. -/
def contactValues (pInfo : ContactInfo) : List Bytes :=
  [cStringA2Utf8 P pInfo.wxid, unicodeToUtf8 (utf8ToUnicode P pInfo.nickName),
    cStringA2Utf8 P pInfo.headicon, cStringA2Utf8 P pInfo.v1_Name]

/-- The numbers of a message are in its row, as `LoadMsgRecordCallBack` reads them back. -/
theorem msgValues_numbers (pMsg : NewMsg) :
    (Int64.ofInt (atoll (decimal pMsg.svrid.toInt64.toInt))).toUInt64 = pMsg.svrid ∧
    (Int32.ofInt (atoll (decimal pMsg.utc.toInt32.toInt))).toUInt32 = pMsg.utc ∧
    Int32.ofInt (atoll (decimal pMsg.nType.toInt)) = pMsg.nType := by
  simp only [atoll_decimal, Int64.ofInt_toInt, Int32.ofInt_toInt]
  exact ⟨rfl, rfl, trivial⟩

/-- The two separators of the values, as the apostrophes and symbols they are made of. -/
theorem ascii_separators : ascii "','" = [apostrophe, comma, apostrophe] ∧
    ascii "');" = [apostrophe, rparen, semicolon] := by decide

theorem separators_lt : (∀ b ∈ ascii "','", b < 0x80) ∧ ∀ b ∈ ascii "');", b < 0x80 :=
  ⟨ascii_lt (by decide), ascii_lt (by decide)⟩

theorem addMsgText_eq (pMsg : NewMsg) :
    addMsgText P pMsg = insertText msgTable msgColumns (msgValues P pMsg) := by
  have h₁ : ascii "insert into msg(svrid,utc,createtime,fromWxid,toWxid,type,content) values('" =
      ascii "insert into " ++ (msgTable ++ lparen :: (sepBy comma id msgColumns ++
        (ascii ") values(" ++ [apostrophe]))) := by decide +kernel
  obtain ⟨h₂, h₃⟩ := ascii_separators
  simp only [addMsgText, insertText, msgValues, h₁, h₂, h₃, sepBy, quoted, List.append_assoc,
    List.cons_append, List.nil_append]

theorem unicodeToUtf8_eq {w : Wide} (h : (0 : UInt16) ∉ w) : unicodeToUtf8 w = toUtf8 w := by
  rw [unicodeToUtf8, wcstr_eq_self h]

theorem insertContactText_eq (pInfo : ContactInfo) :
    unicodeToUtf8 (insertContactText P pInfo) =
      insertText contactTable contactColumns (contactValues P pInfo) := by
  have h₁ : ascii "insert into contact(wxid,nickname,headicon,v1_name) values('" =
      ascii "insert into " ++ (contactTable ++ lparen :: (sepBy comma id contactColumns ++
        (ascii ") values(" ++ [apostrophe]))) := by decide +kernel
  obtain ⟨h₂, h₃⟩ := ascii_separators
  have hpre : ∀ b ∈ ascii "insert into contact(wxid,nickname,headicon,v1_name) values('",
      b < 0x80 := ascii_lt (by decide)
  obtain ⟨hsep, hend⟩ := separators_lt
  have zA (s : Bytes) : (0 : UInt16) ∉ cA2W P s := zero_notMem_wcstr _
  have zU (s : Bytes) : (0 : UInt16) ∉ utf8ToUnicode P s := zero_notMem_wcstr _
  have z₁ : (0 : UInt16) ∉
      ofAscii (ascii "insert into contact(wxid,nickname,headicon,v1_name) values('") :=
    zero_notMem_ofAscii (by decide +kernel)
  have z₂ : (0 : UInt16) ∉ ofAscii (ascii "','") := zero_notMem_ofAscii (by decide)
  have z₃ : (0 : UInt16) ∉ ofAscii (ascii "');") := zero_notMem_ofAscii (by decide)
  have z : (0 : UInt16) ∉ insertContactText P pInfo := by
    simp only [insertContactText, List.mem_append, zA, zU, z₁, z₂, z₃, or_self, not_false_iff]
  have hlast := toUtf8_append_ofAscii hend (by decide) (cA2W P pInfo.v1_Name) []
  rw [List.append_nil] at hlast
  rw [unicodeToUtf8_eq z, insertContactText]
  simp only [List.append_assoc]
  rw [toUtf8_ofAscii_append hpre, toUtf8_append_ofAscii hsep (by decide),
    toUtf8_append_ofAscii hsep (by decide), toUtf8_append_ofAscii hsep (by decide), hlast]
  simp only [contactValues, cStringA2Utf8, unicodeToUtf8_eq (zA _), unicodeToUtf8_eq (zU _),
    insertText, h₁, h₂, h₃, sepBy, quoted, List.append_assoc, List.cons_append, List.nil_append,
    toUtf8]

/-- On a key of ASCII characters the text is the insertion of the key itself. -/
theorem updateSyncKeyText_eq {strSyncKey : Bytes} (h : ∀ b ∈ strSyncKey, b < 0x80)
    (h0 : (0 : UInt8) ∉ strSyncKey) :
    unicodeToUtf8 (updateSyncKeyText P strSyncKey) =
      insertText synckeyTable synckeyColumns [strSyncKey] := by
  have h₁ : ascii "insert into synckey(key) values('" =
      ascii "insert into " ++ (synckeyTable ++ lparen :: (sepBy comma id synckeyColumns ++
        (ascii ") values(" ++ [apostrophe]))) := by decide +kernel
  obtain ⟨-, h₃⟩ := ascii_separators
  have hpre : ∀ b ∈ ascii "insert into synckey(key) values('", b < 0x80 := ascii_lt (by decide)
  obtain ⟨-, hend⟩ := separators_lt
  have z₁ : (0 : UInt16) ∉ ofAscii (ascii "insert into synckey(key) values('") :=
    zero_notMem_ofAscii (by decide)
  have z₃ : (0 : UInt16) ∉ ofAscii (ascii "');") := zero_notMem_ofAscii (by decide)
  have zA : (0 : UInt16) ∉ cA2W P strSyncKey := zero_notMem_wcstr _
  have z : (0 : UInt16) ∉ updateSyncKeyText P strSyncKey := by
    simp only [updateSyncKeyText, List.mem_append, zA, z₁, z₃, or_self, not_false_iff]
  have hlast := toUtf8_append_ofAscii hend (by decide) (cA2W P strSyncKey) []
  rw [List.append_nil] at hlast
  rw [unicodeToUtf8_eq z, updateSyncKeyText, List.append_assoc, toUtf8_ofAscii_append hpre, hlast,
    cA2W_ascii P h h0, toUtf8_ofAscii h]
  simp only [insertText, h₁, h₃, sepBy, quoted, List.append_assoc, List.cons_append,
    List.nil_append, toUtf8]

/-! ### Reading and executing them -/

/-- The text is read as the insertion of these values and nothing else; so, wherever SQLite
executes it without failing, one row is added to the table and nothing else changes. -/
def AddsRow (text table : Bytes) (columns values : List Bytes) : Prop :=
  parse (lex text) = some (.insert table columns values) ∧
  ∀ (E : Sqlite) (n : Nat) (db : Database) (rows : List Row), E.fails n = false →
    db.tables table = some rows →
    E.exec n text db = (db.set table (rows ++ [columns.zip values]), true)

theorem addsRow_insertText_iff {table : Bytes} {columns values : List Bytes}
    (h : Insertable table columns values) :
    AddsRow (insertText table columns values) table columns values ↔
      ∀ v ∈ values, apostrophe ∉ v := by
  refine ⟨fun hadds => h.parse_iff.mp hadds.1, fun hq => ⟨h.parse_iff.mpr hq, ?_⟩⟩
  intro E n db rows hf hdb
  exact exec_insertText h hq hdb hf

/-- A printed time holds digits, signs and the separators. -/
theorem notMem_utc2BeijingTime {b : UInt8}
    (hb : ¬ (b = 0x2d ∨ (0x30 ≤ b.toNat ∧ b.toNat < 0x3a))) (hsep : b ∉ ascii "- :")
    (dwUtc : UInt32) : b ∉ utc2BeijingTime P dwUtc := by
  have hd (i : Int) : b ∉ decimal i := fun h => hb (mem_decimal h)
  have hd2 (i : Int) : b ∉ decimal2 i := fun h => hb (mem_decimal2 h)
  have hascii : ascii "- :" = ascii "-" ++ ascii " " ++ ascii ":" := by decide
  rw [hascii, List.mem_append, List.mem_append, not_or, not_or] at hsep
  simp only [utc2BeijingTime, List.mem_append, hd, hd2, hsep, or_self, not_false_iff]

/-- No text of a message that is interpolated holds an apostrophe. -/
def NewMsg.QuoteFree (pMsg : NewMsg) : Prop :=
  apostrophe ∉ cstr pMsg.szFrom ∧ apostrophe ∉ cstr pMsg.szTo ∧
    apostrophe ∉ cStringA2Utf8 P pMsg.szContent

/-- No text of a contact that is interpolated holds an apostrophe. -/
def ContactInfo.QuoteFree (pInfo : ContactInfo) : Prop :=
  ∀ v ∈ contactValues P pInfo, apostrophe ∉ v

theorem msgValues_quoteFree_iff {pMsg : NewMsg} :
    (∀ v ∈ msgValues P pMsg, apostrophe ∉ v) ↔ pMsg.QuoteFree P := by
  have hb : ¬ (apostrophe = 0x2d ∨ (0x30 ≤ apostrophe.toNat ∧ apostrophe.toNat < 0x3a)) := by
    decide
  have hd (i : Int) : apostrophe ∉ decimal i := fun h => hb (mem_decimal h)
  have htime := notMem_utc2BeijingTime P hb (by decide) pMsg.utc
  simp only [msgValues, List.mem_cons, List.not_mem_nil, or_false, forall_eq_or_imp, forall_eq,
    hd, htime, not_false_iff, true_and, NewMsg.QuoteFree]

theorem zero_notMem_msgValues (pMsg : NewMsg) : ∀ v ∈ msgValues P pMsg, (0 : UInt8) ∉ v := by
  have hb : ¬ ((0 : UInt8) = 0x2d ∨ (0x30 ≤ (0 : UInt8).toNat ∧ (0 : UInt8).toNat < 0x3a)) := by
    decide
  have hd (i : Int) : (0 : UInt8) ∉ decimal i := fun h => hb (mem_decimal h)
  have htime := notMem_utc2BeijingTime P hb (by decide) pMsg.utc
  simp only [msgValues, List.mem_cons, List.not_mem_nil, or_false, forall_eq_or_imp, forall_eq,
    hd, htime, zero_notMem_cstr, cStringA2Utf8, zero_notMem_unicodeToUtf8, not_false_iff, and_self]

theorem zero_notMem_contactValues (pInfo : ContactInfo) :
    ∀ v ∈ contactValues P pInfo, (0 : UInt8) ∉ v := by
  simp only [contactValues, List.mem_cons, List.not_mem_nil, or_false, forall_eq_or_imp, forall_eq,
    cStringA2Utf8, zero_notMem_unicodeToUtf8, not_false_iff, and_self]

theorem insertable_msgValues (pMsg : NewMsg) :
    Insertable msgTable msgColumns (msgValues P pMsg) where
  table_word := isWord_tables.2.2
  columns_ne := List.cons_ne_nil _ _
  columns_word := isWord_columns.2.2
  length_eq := by simp only [msgColumns, msgValues, List.length_cons, List.length_nil]
  zero_notMem := zero_notMem_msgValues P pMsg

theorem insertable_contactValues (pInfo : ContactInfo) :
    Insertable contactTable contactColumns (contactValues P pInfo) where
  table_word := isWord_tables.2.1
  columns_ne := List.cons_ne_nil _ _
  columns_word := isWord_columns.2.1
  length_eq := by simp only [contactColumns, contactValues, List.length_cons, List.length_nil]
  zero_notMem := zero_notMem_contactValues P pInfo

/-- **Which messages are stored as they are**: those without an apostrophe. -/
theorem addsRow_addMsgText_iff {pMsg : NewMsg} :
    AddsRow (addMsgText P pMsg) msgTable msgColumns (msgValues P pMsg) ↔ pMsg.QuoteFree P := by
  rw [addMsgText_eq, addsRow_insertText_iff (insertable_msgValues P pMsg), msgValues_quoteFree_iff]

/-- **Which contacts are stored as they are.** -/
theorem addsRow_insertContactText_iff {pInfo : ContactInfo} :
    AddsRow (unicodeToUtf8 (insertContactText P pInfo)) contactTable contactColumns
      (contactValues P pInfo) ↔ pInfo.QuoteFree P := by
  rw [insertContactText_eq, addsRow_insertText_iff (insertable_contactValues P pInfo),
    ContactInfo.QuoteFree]

/-- Storing a message leaves the other tables. -/
theorem rows_addMsg {E : Sqlite} {s : Sql3} {pMsg : NewMsg} {table : Bytes}
    (h : pMsg.QuoteFree P) (hne : table ≠ msgTable) :
    (addMsg P E s pMsg).rows table = s.rows table := by
  rw [addMsg, addMsgText_eq]
  exact rows_execSQL_insertText (insertable_msgValues P pMsg) ((msgValues_quoteFree_iff P).mpr h)
    hne

/-- Storing a contact leaves the other tables. -/
theorem rows_insertContact {E : Sqlite} {s : Sql3} {pInfo : ContactInfo} {table : Bytes}
    (h : pInfo.QuoteFree P) (hne : table ≠ contactTable) :
    (insertContact P E s pInfo).rows table = s.rows table := by
  rw [insertContact, insertContactText_eq]
  exact rows_execSQL_insertText (insertable_contactValues P pInfo) h hne

/-- **Message data and the statements executed.**  The text of a message, and of a contact, is one
insertion of exactly its values just where no interpolated text holds an apostrophe; the numbers
of a message are always read back as they were. -/
theorem insertions_iff :
    (∀ pMsg : NewMsg, AddsRow (addMsgText P pMsg) msgTable msgColumns (msgValues P pMsg) ↔
      pMsg.QuoteFree P) ∧
    (∀ pInfo : ContactInfo, AddsRow (unicodeToUtf8 (insertContactText P pInfo)) contactTable
      contactColumns (contactValues P pInfo) ↔ pInfo.QuoteFree P) ∧
    ∀ pMsg : NewMsg,
      (Int64.ofInt (atoll (decimal pMsg.svrid.toInt64.toInt))).toUInt64 = pMsg.svrid ∧
      (Int32.ofInt (atoll (decimal pMsg.utc.toInt32.toInt))).toUInt32 = pMsg.utc ∧
      Int32.ofInt (atoll (decimal pMsg.nType.toInt)) = pMsg.nType :=
  ⟨fun _ => addsRow_addMsgText_iff P, fun _ => addsRow_insertContactText_iff P,
    msgValues_numbers⟩

end

/-- A machine in Beijing that has seen ASCII text only, at the start of the epoch. -/
def asciiPlatform : Platform where
  ca2w := ofAscii
  cw2a w := w.map UInt16.toUInt8
  utf8ToWide := ofAscii
  localtime _ := ⟨70, 0, 1, 8, 0, 0⟩
  ca2w_ascii _ _ := rfl

/-- The message `it's`: its text ends the literal early. -/
theorem not_addsRow_its : ¬ ∀ (P : Platform) (pMsg : NewMsg),
    AddsRow (addMsgText P pMsg) msgTable msgColumns (msgValues P pMsg) := fun h =>
  absurd (h asciiPlatform ⟨1, ascii "a", ascii "b", 1, 0, ascii "it's"⟩).1 (by decide +kernel)

end MicroChat
