import MicroChat.Db.CodePage

/-!
# Db — Sql3

`MicroChatSDK/db/sql.cpp`: one connection to a database file, and statements executed on it one
at a time.

* `Database`, `Sqlite`: the tables of a file, and what `sqlite3_exec` does to them.
* `Sql3.execSQL`: the synchronous `Sql3::ExecSQL(LPCSTR …)`.
* `exec_insertText`, `exec_deleteText`: what the two kinds of statement the client writes do.

A row is its columns with their texts; a number in an `integer` column has the text it was
written as.  The columns a statement names are taken to be columns of the table.
-/

namespace MicroChat
open Support Support.Sql

abbrev Row := List (Bytes × Bytes)

/-- The tables of a database file by name, `none` for a table that is not there. -/
structure Database where
  tables : Bytes → Option (List Row)

/-- The rows of one table replaced. -/
def Database.set (db : Database) (table : Bytes) (rows : List Row) : Database :=
  ⟨fun t => if t = table then some rows else db.tables t⟩

@[simp] theorem Database.set_self (db : Database) (table : Bytes) (rows : List Row) :
    (db.set table rows).tables table = some rows := if_pos rfl

theorem Database.set_ne (db : Database) {t table : Bytes} (h : t ≠ table) (rows : List Row) :
    (db.set table rows).tables t = db.tables t := if_neg h

/-- The SQLite library on the client's machine. -/
structure Sqlite where
  /-- whether the `n`th call fails before it does anything: the disk is full, the file locked -/
  fails : Nat → Bool
  /-- what any text but one insertion or deletion does, and whether without an error -/
  other : Bytes → Database → Database × Bool

/-- `sqlite3_exec` of a text, as the `n`th call. -/
def Sqlite.exec (E : Sqlite) (n : Nat) (text : Bytes) (db : Database) : Database × Bool :=
  if E.fails n then (db, false)
  else
    match parse (lex text) with
    | some (.insert table columns values) =>
        match db.tables table with
        | some rows =>
            if columns.length = values.length then
              (db.set table (rows ++ [columns.zip values]), true)
            else (db, false)
        | none => (db, false)
    | some (.delete table) =>
        match db.tables table with
        | some _ => (db.set table [], true)
        | none => (db, false)
    | none => E.other text db

/-- `Sql3`: the open database, `none` for a null `m_pDB`, and the number of statements executed
so far. -/
structure Sql3 where
  m_pDB : Option Database
  calls : Nat

/-- The rows of a table of the open database. -/
def Sql3.rows (s : Sql3) (table : Bytes) : Option (List Row) := s.m_pDB.bind (·.tables table)

/-- What `int Sql3::ExecSQL(LPCSTR strSQLUtf8, NULL, NULL)` does to the database, and whether the
statement was executed without an error; with its calls of `LOG` it is `execSQLLogged`. -/
def Sql3.execSQL (E : Sqlite) (s : Sql3) (strSQLUtf8 : Bytes) : Sql3 × Bool :=
  match s.m_pDB with
  | none => (s, false)
  | some db =>
      let r := E.exec s.calls (cstr strSQLUtf8) db
      (⟨some r.1, s.calls + 1⟩, r.2)

/-! ### The statements of the client -/

theorem mem_sepBy {sep b : UInt8} {f : Bytes → Bytes} : ∀ {vs : List Bytes},
    b ∈ sepBy sep f vs → b = sep ∨ ∃ v ∈ vs, b ∈ f v
  | [], h => by cases h
  | [v], h => .inr ⟨v, List.mem_cons_self, h⟩
  | v :: w :: vs, h => by
      rw [sepBy, List.mem_append, List.mem_cons] at h
      rcases h with h | rfl | h
      · exact .inr ⟨v, List.mem_cons_self, h⟩
      · exact .inl rfl
      · rcases mem_sepBy h with rfl | ⟨u, hu, hb⟩
        · exact .inl rfl
        · exact .inr ⟨u, List.mem_cons_of_mem _ hu, hb⟩

theorem zero_notMem_word {w : Bytes} (h : IsWord w) : (0 : UInt8) ∉ w := fun h0 =>
  absurd (h.2 0 h0) (by decide)

/-- An insertion text is a C string if its values are. -/
theorem zero_notMem_insertText {table : Bytes} {columns values : List Bytes} (ht : IsWord table)
    (hc : ∀ c ∈ columns, IsWord c) (hv : ∀ v ∈ values, (0 : UInt8) ∉ v) :
    (0 : UInt8) ∉ insertText table columns values := by
  have hcols : (0 : UInt8) ∉ sepBy comma id columns := fun h => by
    rcases mem_sepBy h with h | ⟨c, hmem, h⟩
    · exact absurd h (by decide)
    · exact zero_notMem_word (hc c hmem) h
  have hvals : (0 : UInt8) ∉ sepBy comma quoted values := fun h => by
    rcases mem_sepBy h with h | ⟨v, hmem, h⟩
    · exact absurd h (by decide)
    · rw [quoted, List.mem_cons, List.mem_append, List.mem_singleton] at h
      rcases h with h | h | h
      · exact absurd h (by decide)
      · exact hv v hmem h
      · exact absurd h (by decide)
  have h₁ : (0 : UInt8) ∉ ascii "insert into " := by decide
  have h₂ : (0 : UInt8) ∉ ascii ") values(" := by decide
  have h₃ : (0 : UInt8) ∉ [rparen, semicolon] := by decide
  have h₄ : (0 : UInt8) ≠ lparen := by decide
  simp only [insertText, List.mem_append, List.mem_cons, h₁, h₂, h₃, h₄, hcols, hvals,
    zero_notMem_word ht, or_false, not_false_iff]

/-- What an insertion can be formatted with: words for the names, a value for each column, and no
NUL in any value. -/
structure Insertable (table : Bytes) (columns values : List Bytes) : Prop where
  table_word : IsWord table
  columns_ne : columns ≠ []
  columns_word : ∀ c ∈ columns, IsWord c
  length_eq : columns.length = values.length
  zero_notMem : ∀ v ∈ values, (0 : UInt8) ∉ v

namespace Insertable
variable {table : Bytes} {columns values : List Bytes}

theorem values_ne (h : Insertable table columns values) : values ≠ [] := by
  rintro rfl
  exact h.columns_ne (List.eq_nil_of_length_eq_zero h.length_eq)

theorem parse_iff (h : Insertable table columns values) :
    parse (lex (insertText table columns values)) = some (.insert table columns values) ↔
      ∀ v ∈ values, apostrophe ∉ v :=
  parse_insertText_iff h.table_word h.columns_ne h.columns_word h.values_ne

theorem cstr_insertText (h : Insertable table columns values) :
    cstr (insertText table columns values) = insertText table columns values :=
  cstr_eq_self (zero_notMem_insertText h.table_word h.columns_word h.zero_notMem)

end Insertable

section Exec
variable {E : Sqlite} {n : Nat} {db : Database} {s : Sql3} {table t : Bytes}
  {columns values : List Bytes} {rows : List Row}

/-- **An insertion of values without apostrophes** adds one row and does nothing else, where it
does not fail. -/
theorem exec_insertText_eq (h : Insertable table columns values)
    (hq : ∀ v ∈ values, apostrophe ∉ v) : E.exec n (insertText table columns values) db =
      if E.fails n then (db, false)
      else match db.tables table with
        | some rows => (db.set table (rows ++ [columns.zip values]), true)
        | none => (db, false) := by
  rw [Sqlite.exec, h.parse_iff.mpr hq]
  simp only [if_pos h.length_eq]

theorem exec_insertText (h : Insertable table columns values)
    (hq : ∀ v ∈ values, apostrophe ∉ v) (hdb : db.tables table = some rows)
    (hf : E.fails n = false) :
    E.exec n (insertText table columns values) db =
      (db.set table (rows ++ [columns.zip values]), true) := by
  rw [exec_insertText_eq h hq, hf, if_neg (by decide), hdb]

/-- Whatever becomes of such an insertion, the other tables stay. -/
theorem exec_insertText_ne (h : Insertable table columns values)
    (hq : ∀ v ∈ values, apostrophe ∉ v) (hne : t ≠ table) :
    (E.exec n (insertText table columns values) db).1.tables t = db.tables t := by
  rw [exec_insertText_eq h hq]
  split
  · rfl
  · split
    · exact db.set_ne hne _
    · rfl

theorem exec_deleteText (ht : IsWord table) : E.exec n (deleteText table) db =
    if E.fails n then (db, false)
    else match db.tables table with
      | some _ => (db.set table [], true)
      | none => (db, false) := by
  rw [Sqlite.exec, parse_deleteText ht]

/-- An insertion of values without apostrophes leaves the other tables of the connection. -/
theorem rows_execSQL_insertText (h : Insertable table columns values)
    (hq : ∀ v ∈ values, apostrophe ∉ v) (hne : t ≠ table) :
    (s.execSQL E (insertText table columns values)).1.rows t = s.rows t := by
  obtain ⟨m_pDB, calls⟩ := s
  cases m_pDB with
  | none => rfl
  | some db =>
      change (E.exec calls (cstr _) db).1.tables t = db.tables t
      rw [h.cstr_insertText, exec_insertText_ne h hq hne]

/-- An insertion that is executed adds its row. -/
theorem rows_execSQL_insertText_self (h : Insertable table columns values)
    (hq : ∀ v ∈ values, apostrophe ∉ v) (hf : E.fails s.calls = false)
    (hrows : s.rows table = some rows) :
    (s.execSQL E (insertText table columns values)).1.rows table =
      some (rows ++ [columns.zip values]) := by
  obtain ⟨m_pDB, calls⟩ := s
  cases m_pDB with
  | none => cases hrows
  | some db =>
      change (E.exec calls (cstr _) db).1.tables table = _
      rw [h.cstr_insertText, exec_insertText h hq hrows hf]
      exact db.set_self table _

end Exec

end MicroChat
