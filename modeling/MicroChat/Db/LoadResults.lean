import MicroChat.Db.LoadDB
import MicroChat.Db.LoadRecords
import MicroChat.Support.Rows

/-!
# Db — LoadResults

`LoadContact` and `LoadMsgRecord` of `MicroChatSDK/db/db.cpp`: the arrays of 1024 pointers they
allocate, and the callbacks that fill them row by row.

* `CMicroChatDB.loadContact`, `CMicroChatDB.loadMsgRecord`: the two functions, up to the result
  they hand on.
* `loadContactCallBack_eq`, `loadMsgRecordCallBack_eq`: the callbacks as rows put into an array.
* `loaded_contact_iff`, `loaded_msgRecord_iff`: when all rows get into the arrays.
-/

namespace MicroChat
open Support Support.Sql

/-! ### Rows as they are delivered -/

/-- A row of `select *` from a table with these columns, `NULL` where the row has no text. -/
def tableColumns (columns : List Bytes) (row : Row) : List Column :=
  columns.map fun c => (c, row.lookup c)

/-- A row of `select *,count(fromWxid) from msg group by fromWxid;`. -/
def groupColumns (g : Row × Bytes) : List Column :=
  tableColumns msgColumns g.1 ++ [(ascii "count(fromWxid)", some g.2)]

/-- A row with the columns of the messages is delivered as it is. -/
theorem groupColumns_eq {row : Row} (h : row.map Prod.fst = msgColumns) (count : Bytes) :
    groupColumns (row, count) = recordColumns row count := by
  have hnodup : (row.map Prod.fst).Nodup := by
    rw [h]
    decide
  rw [groupColumns, recordColumns, tableColumns, ← h, List.map_map]
  congr 1
  refine List.map_congr_left fun c hc => ?_
  obtain ⟨pre, post, rfl⟩ := List.append_of_mem hc
  -- the names differ, so that `lookup` finds the column itself
  have hbefore : ∀ p ∈ pre, (c.1 != p.1) = true := by
    intro p hp
    rw [List.map_append, List.nodup_append] at hnodup
    exact bne_iff_ne.mpr (hnodup.2.2 p.1 (List.mem_map_of_mem hp) c.1 List.mem_cons_self).symm
  exact congrArg (Prod.mk c.1) (List.lookup_eq_some_iff.mpr ⟨pre, post, rfl, hbefore⟩)

/-- What SQLite makes of the groups: which row it chooses of each, and their order. -/
structure Grouping where
  /-- the rows delivered, with the texts of their counts -/
  groups : List Row → List (Row × Bytes)
  onePerKey : ∀ rows, OnePerKey (fun row : Row => row.lookup (ascii "fromWxid")) rows
    ((groups rows).map Prod.fst)

/-! ### The two functions -/

/-- `DB_INDEX_CONTACT_CNT`. -/
def dbIndexContactCnt : Nat := 4

/-- The number of pointers in `ppContanct` of `LoadContact`. -/
def contactArraySize : Nat := 1024

/-- `argv[i]` copied into the array of `n` characters; `none` where it is `NULL` or does not
fit. -/
def copyArgv (columns : List Column) (i n : Nat) : Option Bytes :=
  ((columns[i]?).bind Prod.snd).bind (strcpyS n)

/-- The contact a row is copied into: `DB_INDEX_CONTACT_WXID` and so on. -/
def contactOfRow (columns : List Column) : Option ContactInfo := do
  let wxid ← copyArgv columns 0 100
  let nickName ← copyArgv columns 1 100
  let headicon ← copyArgv columns 2 200
  let v1_Name ← copyArgv columns 3 200
  return ⟨wxid, nickName, headicon, v1_Name⟩

namespace CMicroChatDB

/-- `int CMicroChatDB::LoadContactCallBack(…)`; `none` where the program is ended, or where it
writes behind the array. -/
def loadContactCallBack (res : SyncResult) (columns : List Column) : Option SyncResult :=
  if dbIndexContactCnt ≠ columns.length then some res
  else do
    let pInfo ← contactOfRow columns
    if res.ppContanct.length < contactArraySize then
      return { res with ppContanct := res.ppContanct ++ [pInfo], dwSize := res.dwSize + 1 }
    else none

section
variable (P : Platform) (E : Sqlite) (G : Grouping) (s : Sql3)

/-- The rows that `select * from contact;` delivers. -/
def contactRows : List (List Column) :=
  (s.select E contactTable).2.map (tableColumns contactColumns)

/-- The rows that `select *,count(fromWxid) from msg group by fromWxid;` delivers. -/
def recordRows : List (List Column) := (G.groups (s.select E msgTable).2).map groupColumns

/-- `void CMicroChatDB::LoadContact()`, up to the result for the callback; `SafeFree` of the
pointers that are left does nothing, as it deletes null pointers only. -/
def loadContact : Option SyncResult := (contactRows E s).foldlM loadContactCallBack {}

/-- `void CMicroChatDB::LoadMsgRecord()`, up to the result for the callback. -/
def loadMsgRecord : Option SyncResult :=
  (recordRows E G s).foldlM (loadMsgRecordCallBack P) {}

end

end CMicroChatDB

/-! ### The callbacks -/

/-- `ppContanct` and `ppNewMsg`, with `dwSize`. -/
def contactFiller : Filler SyncResult ContactInfo where
  elems := SyncResult.ppContanct
  store res pInfo := { res with ppContanct := res.ppContanct ++ [pInfo], dwSize := res.dwSize + 1 }
  elems_store _ _ := rfl

def recordFiller : Filler SyncResult NewMsg where
  elems := SyncResult.ppNewMsg
  store res pMsg := { res with ppNewMsg := res.ppNewMsg ++ [pMsg], dwSize := res.dwSize + 1 }
  elems_store _ _ := rfl

/-- The message a row is copied into. -/
def recordOfRow (P : Platform) (columns : List Column) : Option NewMsg :=
  columns.foldlM (setMsgColumn P (columns.head?.bind Prod.snd)) newMsg

theorem loadContactCallBack_eq (res : SyncResult) (row : Row) :
    CMicroChatDB.loadContactCallBack res (tableColumns contactColumns row) =
      contactFiller.push contactOfRow contactArraySize res (tableColumns contactColumns row) :=
  if_neg fun hne => hne rfl

theorem loadMsgRecordCallBack_eq {P : Platform} (res : SyncResult) (g : Row × Bytes) :
    CMicroChatDB.loadMsgRecordCallBack P res (groupColumns g) =
      recordFiller.push (recordOfRow P) recordArraySize res (groupColumns g) :=
  if_neg fun hne => hne rfl

/-- The texts of a contact are there, and shorter than their arrays. -/
structure ContactRowShort (row : Row) : Prop where
  wxid : ∃ text ∈ row.lookup (ascii "wxid"), (cstr text).length < 100
  nickname : ∃ text ∈ row.lookup (ascii "nickname"), (cstr text).length < 100
  headicon : ∃ text ∈ row.lookup (ascii "headicon"), (cstr text).length < 200
  v1_name : ∃ text ∈ row.lookup (ascii "v1_name"), (cstr text).length < 200

/-- The ids of a message are shorter than their arrays, and so is the content in the code page. -/
structure RecordRowShort (P : Platform) (row : Row) : Prop where
  fromWxid : ∀ text ∈ row.lookup (ascii "fromWxid"), (cstr text).length < 1024
  toWxid : ∀ text ∈ row.lookup (ascii "toWxid"), (cstr text).length < 1024
  content : ∀ text ∈ row.lookup (ascii "content"), (utf82CStringA P text).length < 65535

theorem isSome_copyArgv_iff (row : Row) (n : Nat) {i : Nat} {name : Bytes}
    (h : contactColumns[i]? = some name) :
    (copyArgv (tableColumns contactColumns row) i n).isSome ↔
      ∃ text ∈ row.lookup name, (cstr text).length < n := by
  rw [copyArgv, tableColumns, List.getElem?_map, h, Option.map_some, Option.bind_some]
  cases row.lookup name with
  | none => simp
  | some text => simpa using isSome_strcpyS_iff

/-- **Which rows of contacts can be copied.** -/
theorem isSome_contactOfRow_iff {row : Row} :
    (contactOfRow (tableColumns contactColumns row)).isSome ↔ ContactRowShort row := by
  have hwxid := isSome_copyArgv_iff row 100 (show contactColumns[0]? = some (ascii "wxid") from rfl)
  have hname := isSome_copyArgv_iff row 100
    (show contactColumns[1]? = some (ascii "nickname") from rfl)
  have hicon := isSome_copyArgv_iff row 200
    (show contactColumns[2]? = some (ascii "headicon") from rfl)
  have hv1 := isSome_copyArgv_iff row 200
    (show contactColumns[3]? = some (ascii "v1_name") from rfl)
  have hall : (contactOfRow (tableColumns contactColumns row)).isSome ↔
      (copyArgv (tableColumns contactColumns row) 0 100).isSome ∧
        (copyArgv (tableColumns contactColumns row) 1 100).isSome ∧
        (copyArgv (tableColumns contactColumns row) 2 200).isSome ∧
        (copyArgv (tableColumns contactColumns row) 3 200).isSome := by
    rw [contactOfRow]
    generalize copyArgv (tableColumns contactColumns row) 0 100 = wxid
    generalize copyArgv (tableColumns contactColumns row) 1 100 = nickName
    generalize copyArgv (tableColumns contactColumns row) 2 200 = headicon
    generalize copyArgv (tableColumns contactColumns row) 3 200 = v1_Name
    cases wxid <;> cases nickName <;> cases headicon <;> cases v1_Name <;> simp
  rw [hall, hwxid, hname, hicon, hv1]
  exact ⟨fun ⟨h₁, h₂, h₃, h₄⟩ => ⟨h₁, h₂, h₃, h₄⟩,
    fun ⟨h₁, h₂, h₃, h₄⟩ => ⟨h₁, h₂, h₃, h₄⟩⟩

section
variable {P : Platform} {argv0 : Option Bytes}

/-- Whether a round of the loop over the columns succeeds does not depend on what has been
copied. -/
theorem isSome_setMsgColumn (pMsg : NewMsg) (c : Column) :
    (setMsgColumn P argv0 pMsg c).isSome = (setMsgColumn P argv0 newMsg c).isSome := by
  obtain ⟨name, text⟩ := c
  cases text with
  | none => rfl
  | some text =>
      simp only [setMsgColumn]
      split_ifs <;> simp only [Option.isSome_map, Option.isSome_some]

/-- A column that is copied. -/
theorem isSome_setMsgColumn_copy {name : Bytes} {n : Nat} {f : Bytes → Bytes}
    (h : ∀ text, (setMsgColumn P argv0 newMsg (name, some text)).isSome =
      (strcpyS n (f text)).isSome) (text : Option Bytes) :
    (setMsgColumn P argv0 newMsg (name, text)).isSome ↔ ∀ t ∈ text, (cstr (f t)).length < n := by
  cases text with
  | none => simp [setMsgColumn]
  | some text =>
      rw [h, isSome_strcpyS_iff]
      simp

/-- A column that is not. -/
theorem isSome_setMsgColumn_other {name : Bytes} (h : name ∈ [ascii "utc", ascii "createtime",
    ascii "type", ascii "count(fromWxid)"]) (text : Option Bytes) :
    (setMsgColumn P argv0 newMsg (name, text)).isSome := by
  simp only [List.mem_cons, List.not_mem_nil, or_false] at h
  cases text with
  | none => rfl
  | some text => rcases h with rfl | rfl | rfl | rfl <;> rfl

theorem isSome_setMsgColumn_svrid :
    (setMsgColumn P argv0 newMsg (ascii "svrid", argv0)).isSome := by
  cases argv0 <;> rfl

/-- **Which rows of messages can be copied.** -/
theorem isSome_recordOfRow_iff {g : Row × Bytes} :
    (recordOfRow P (groupColumns g)).isSome ↔ RecordRowShort P g.1 := by
  have hround (s : NewMsg) (c : Column) :
      (setMsgColumn P (g.1.lookup (ascii "svrid")) s c).isSome ↔
        (setMsgColumn P (g.1.lookup (ascii "svrid")) newMsg c).isSome := by
    rw [isSome_setMsgColumn]
  have hfold : (recordOfRow P (groupColumns g)).isSome ↔ ∀ c ∈ groupColumns g,
      (setMsgColumn P (g.1.lookup (ascii "svrid")) newMsg c).isSome := isSome_foldlM_iff hround
  have hcolumns : groupColumns g =
      [(ascii "svrid", g.1.lookup (ascii "svrid")), (ascii "utc", g.1.lookup (ascii "utc")),
        (ascii "createtime", g.1.lookup (ascii "createtime")),
        (ascii "fromWxid", g.1.lookup (ascii "fromWxid")),
        (ascii "toWxid", g.1.lookup (ascii "toWxid")), (ascii "type", g.1.lookup (ascii "type")),
        (ascii "content", g.1.lookup (ascii "content")),
        (ascii "count(fromWxid)", some g.2)] := rfl
  have hfrom (text : Option Bytes) :
      (setMsgColumn P (g.1.lookup (ascii "svrid")) newMsg (ascii "fromWxid", text)).isSome ↔
        ∀ t ∈ text, (cstr t).length < 1024 := by
    refine isSome_setMsgColumn_copy ?_ text
    exact fun _ => Option.isSome_map
  have hto (text : Option Bytes) :
      (setMsgColumn P (g.1.lookup (ascii "svrid")) newMsg (ascii "toWxid", text)).isSome ↔
        ∀ t ∈ text, (cstr t).length < 1024 := by
    refine isSome_setMsgColumn_copy ?_ text
    exact fun _ => Option.isSome_map
  have hcontent (text : Option Bytes) :
      (setMsgColumn P (g.1.lookup (ascii "svrid")) newMsg (ascii "content", text)).isSome ↔
        ∀ t ∈ text, (cstr (utf82CStringA P t)).length < 65535 := by
    refine isSome_setMsgColumn_copy ?_ text
    exact fun _ => Option.isSome_map
  rw [hfold, hcolumns]
  simp only [List.forall_mem_cons, List.not_mem_nil, false_implies, implies_true, and_true,
    hfrom, hto, hcontent, cstr_utf82CStringA, isSome_setMsgColumn_svrid, true_and]
  constructor
  · rintro ⟨-, -, h₁, h₂, -, h₃, -⟩
    exact ⟨h₁, h₂, h₃⟩
  · rintro ⟨h₁, h₂, h₃⟩
    exact ⟨isSome_setMsgColumn_other (by simp) _, isSome_setMsgColumn_other (by simp) _, h₁, h₂,
      isSome_setMsgColumn_other (by simp) _, h₃, isSome_setMsgColumn_other (by simp) _⟩

end

/-! ### The results -/

section
variable (P : Platform) (E : Sqlite) (G : Grouping) (s : Sql3)

/-- `LoadContact` ends with all rows of the contacts in the array, and counted. -/
def LoadsContacts : Prop :=
  ∃ res, CMicroChatDB.loadContact E s = some res ∧
    contactFiller.Loaded contactOfRow contactArraySize SyncResult.dwSize
      (CMicroChatDB.contactRows E s) res

/-- `LoadMsgRecord` ends with the rows of all groups in the array, and counted. -/
def LoadsRecords : Prop :=
  ∃ res, CMicroChatDB.loadMsgRecord P E G s = some res ∧
    recordFiller.Loaded (recordOfRow P) recordArraySize SyncResult.dwSize
      (CMicroChatDB.recordRows E G s) res

/-- The senders of the messages. -/
def senders : List (Option Bytes) :=
  ((s.select E msgTable).2.map fun row => row.lookup (ascii "fromWxid")).dedup

theorem loadsContacts_iff :
    LoadsContacts E s ↔ (s.select E contactTable).2.length ≤ 1024 ∧
      ∀ row ∈ (s.select E contactTable).2, ContactRowShort row := by
  have hload : CMicroChatDB.loadContact E s = (CMicroChatDB.contactRows E s).foldlM
      (contactFiller.push contactOfRow contactArraySize) {} := by
    simp only [CMicroChatDB.loadContact, CMicroChatDB.contactRows, List.foldlM_map,
      loadContactCallBack_eq]
  rw [LoadsContacts, hload, contactFiller.loaded_iff (fun _ _ => rfl) rfl rfl,
    CMicroChatDB.contactRows, List.length_map, List.forall_mem_map]
  simp only [isSome_contactOfRow_iff, contactArraySize]

theorem loadsRecords_iff :
    LoadsRecords P E G s ↔ (senders E s).length ≤ 1024 ∧
      ∀ g ∈ G.groups (s.select E msgTable).2, RecordRowShort P g.1 := by
  have hload : CMicroChatDB.loadMsgRecord P E G s = (CMicroChatDB.recordRows E G s).foldlM
      (recordFiller.push (recordOfRow P) recordArraySize) {} := by
    simp only [CMicroChatDB.loadMsgRecord, CMicroChatDB.recordRows, List.foldlM_map,
      loadMsgRecordCallBack_eq]
  have hcount : (G.groups (s.select E msgTable).2).length = (senders E s).length := by
    rw [senders, ← (G.onePerKey _).length_eq, List.length_map]
  rw [LoadsRecords, hload, recordFiller.loaded_iff (fun _ _ => rfl) rfl rfl,
    CMicroChatDB.recordRows, List.length_map, hcount, List.forall_mem_map]
  simp only [isSome_recordOfRow_iff, recordArraySize]

/-- **Which databases are loaded whole**: those of at most 1024 contacts and 1024 senders, where
the texts of each row that is delivered are short. -/
theorem loads_iff :
    (LoadsContacts E s ↔ (s.select E contactTable).2.length ≤ 1024 ∧
      ∀ row ∈ (s.select E contactTable).2, ContactRowShort row) ∧
    (LoadsRecords P E G s ↔ (senders E s).length ≤ 1024 ∧
      ∀ g ∈ G.groups (s.select E msgTable).2, RecordRowShort P g.1) :=
  ⟨loadsContacts_iff E s, loadsRecords_iff P E G s⟩

end

/-! ### One contact too many -/

/-- A database of one table. -/
def tableDb (table : Bytes) (rows : List Row) : Sql3 :=
  ⟨some ⟨fun t => if t = table then some rows else none⟩, 0⟩

theorem select_tableDb (table : Bytes) (rows : List Row) :
    ((tableDb table rows).select plainEnv.sqlite table).2 = rows := by
  have htable : (if table = table then some rows else none).getD [] = rows := by
    rw [if_pos rfl]
    rfl
  exact htable

/-- The last row of each group, in the order of the table. -/
def lastRows : Grouping where
  groups rows := (rows.pwFilter fun x y =>
    x.lookup (ascii "fromWxid") ≠ y.lookup (ascii "fromWxid")).map fun row =>
      (row, decimal (rows.countP fun r => (r.lookup (ascii "fromWxid")).isSome ∧
        r.lookup (ascii "fromWxid") = row.lookup (ascii "fromWxid")))
  onePerKey rows := by
    rw [List.map_map]
    change OnePerKey _ rows (List.map id _)
    rw [List.map_id]
    exact onePerKey_pwFilter (fun row : Row => row.lookup (ascii "fromWxid")) rows

/-- A message from a sender of its own. -/
def messageRow (i : Nat) : Row :=
  msgColumns.zip [decimal i, ascii "0", ascii "1970-01-01 08:00:00", decimal i, ascii "b",
    ascii "1", ascii "x"]

theorem length_senders_messageRow (n : Nat) :
    (senders plainEnv.sqlite (tableDb msgTable ((List.range n).map messageRow))).length = n := by
  have hinj : Function.Injective
      ((fun row : Row => row.lookup (ascii "fromWxid")) ∘ messageRow) := by
    intro i j hij
    -- the number can be read back from the sender
    have hnum := congrArg atoll (Option.some_inj.mp hij)
    rw [atoll_decimal, atoll_decimal] at hnum
    omega
  rw [senders, select_tableDb, List.map_map, (List.nodup_range.map hinj).dedup, List.length_map,
    List.length_range]

/-- The 1025th contact is written behind the array, and so is the message of the 1025th sender. -/
theorem not_loads : ¬ (∀ (E : Sqlite) (s : Sql3), LoadsContacts E s) ∧
    ¬ ∀ (P : Platform) (E : Sqlite) (G : Grouping) (s : Sql3), LoadsRecords P E G s := by
  constructor
  · intro h
    have hle := ((loadsContacts_iff _ _).mp (h plainEnv.sqlite (tableDb contactTable
      (List.replicate 1025 (contactColumns.zip [ascii "w", [], [], []]))))).1
    rw [select_tableDb, List.length_replicate] at hle
    omega
  · intro h
    have hle := ((loadsRecords_iff _ _ _ _).mp (h asciiPlatform plainEnv.sqlite lastRows
      (tableDb msgTable ((List.range 1025).map messageRow)))).1
    rw [length_senders_messageRow] at hle
    omega

end MicroChat
