import MicroChat.Db.MicroChatDB

/-!
# Db — LoadDB

What `MicroChatSDK/db/db.cpp` reads from the database, and how it empties it.

* `Sql3.select`: `ExecSQL` of `select * from …;` with a callback.
* `CMicroChatDB.getSyncKey`: the text of the stored sync key.
* `CMicroChatDB.clearDB`: the three tables emptied.
-/

namespace MicroChat
open Support Support.Sql Support.Utf16

/-- `sqlite3_exec` of `select * from …;` as the `n`th call: the rows the callback is called with,
in the order they were inserted. -/
def Sqlite.select (E : Sqlite) (n : Nat) (table : Bytes) (db : Database) : List Row :=
  if E.fails n then [] else (db.tables table).getD []

/-- `ExecSQL` of `select * from …;`. -/
def Sql3.select (E : Sqlite) (s : Sql3) (table : Bytes) : Sql3 × List Row :=
  match s.m_pDB with
  | none => (s, [])
  | some db => ({ s with calls := s.calls + 1 }, E.select s.calls table db)

/-- The texts of a row: `argv`. -/
def Row.argv (row : Row) : List Bytes := row.map Prod.snd

namespace CMicroChatDB

/-- `int CMicroChatDB::GetSyncKeyCallBack(…)` on the 4096 characters it copies the text to; `none`
where the copy leaves them. -/
def getSyncKeyCallBack (szSyncKey : Bytes) (argv : List Bytes) : Option Bytes :=
  match argv with
  | [key] => if (cstr key).length < 4096 then some (cstr key) else none
  | _ => some szSyncKey

/-- What the callback has copied once it has been called for all the rows. -/
def copiedKey (rows : List Row) : Option Bytes := (rows.map Row.argv).foldlM getSyncKeyCallBack []

/-- `string CMicroChatDB::GetSyncKey()`. -/
def getSyncKey (E : Sqlite) (s : Sql3) : Sql3 × Option Bytes :=
  let (s, rows) := s.select E synckeyTable
  (s, copiedKey rows)

/-- `void CMicroChatDB::ClearDB()`. -/
def clearDB (E : Sqlite) (s : Sql3) : Sql3 :=
  let s := (s.execSQL E (deleteText msgTable)).1
  let s := (s.execSQL E (deleteText contactTable)).1
  (s.execSQL E (deleteText synckeyTable)).1

/-- Another key row: its text is copied over what was there. -/
theorem copiedKey_append {rows : List Row} {hex : Bytes} (h0 : (0 : UInt8) ∉ hex) :
    copiedKey (rows ++ [synckeyColumns.zip [hex]]) =
      (copiedKey rows).bind fun _ => if hex.length < 4096 then some hex else none := by
  have hrow : Row.argv (synckeyColumns.zip [hex]) = [hex] := rfl
  rw [copiedKey, List.map_append, List.foldlM_append, List.map_singleton, hrow]
  change ((rows.map Row.argv).foldlM getSyncKeyCallBack []).bind (fun t =>
    [[hex]].foldlM getSyncKeyCallBack t) = _
  congr 1
  funext t
  rw [List.foldlM_cons, getSyncKeyCallBack, cstr_eq_self h0]
  split <;> rfl

theorem getSyncKey_of_open {E : Sqlite} {db : Database} {n : Nat} (h : E.fails n = false) :
    (getSyncKey E ⟨some db, n⟩).2 = copiedKey ((db.tables synckeyTable).getD []) := by
  simp [getSyncKey, Sql3.select, Sqlite.select, h]

end CMicroChatDB

end MicroChat
