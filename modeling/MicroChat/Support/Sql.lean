import MicroChat.Support.Bytes

/-!
# Support — Sql

Enough of SQLite's reading of a text to say which statement a text is.

* `lex`: the tokens of a text.  Strings are between apostrophes, an apostrophe in one written
  twice; names may be quoted as well; spaces and the two kinds of comment lie between tokens.
* `parse`: a token list that is one `insert into … values (…)` of string literals, or one
  `delete from …` of a whole table.
* `insertText`, `deleteText`: such statements as programs write them, each value between
  apostrophes as it is.
* `parse_insertText_iff`: an `insertText` is read as the insertion of its values exactly when no
  value holds an apostrophe.

Numbers, variables and the prefix of a blob are words here, and operators are read one character
at a time: the statements of `parse` have none of them.
-/

namespace Support

namespace Sql

inductive Token where
  /-- an identifier, keyword or number -/
  | word (w : Bytes)
  /-- a string, decoded -/
  | str (v : Bytes)
  /-- a quoted identifier, decoded -/
  | ident (v : Bytes)
  | sym (c : UInt8)
  | illegal
  deriving DecidableEq, Repr

/-- Where the lexer stands between two characters. -/
inductive Mode where
  | start
  | word (acc : Bytes)
  /-- inside a string or a quoted name, `q` its quote -/
  | lit (q : UInt8) (acc : Bytes)
  /-- behind a `q` there, which ends it or is the first of two -/
  | litQuote (q : UInt8) (acc : Bytes)
  | bracket (acc : Bytes)
  | minus
  | slash
  | line
  | blockOpen
  | block
  | blockStar
  deriving DecidableEq, Repr

/-! ### The lexer -/

def apostrophe : UInt8 := 0x27
def comma : UInt8 := 0x2c
def lparen : UInt8 := 0x28
def rparen : UInt8 := 0x29
def semicolon : UInt8 := 0x3b

def isSpace (c : UInt8) : Bool := c = 0x20 || c = 0x09 || c = 0x0a || c = 0x0c || c = 0x0d

def isQuote (c : UInt8) : Bool := c = apostrophe || c = 0x22 || c = 0x60

/-- SQLite's `IdChar`. -/
def idChar (c : UInt8) : Bool :=
  (0x30 ≤ c && c ≤ 0x39) || (0x41 ≤ c && c ≤ 0x5a) || (0x61 ≤ c && c ≤ 0x7a) || c = 0x5f ||
    c = 0x24 || 0x80 ≤ c

/-- What a closed literal is. -/
def close (q : UInt8) (acc : Bytes) : Token := if q = apostrophe then .str acc else .ident acc

/-- A character that begins a token. -/
def startStep (c : UInt8) : Mode × List Token :=
  if isSpace c then (.start, [])
  else if isQuote c then (.lit c [], [])
  else if c = 0x5b then (.bracket [], [])
  else if idChar c then (.word [c], [])
  else if c = 0x2d then (.minus, [])
  else if c = 0x2f then (.slash, [])
  else (.start, [.sym c])

/-- The token `t` ends before the character `c`. -/
def endBefore (t : Token) (c : UInt8) : Mode × List Token :=
  ((startStep c).1, t :: (startStep c).2)

def step : Mode → UInt8 → Mode × List Token
  | .start, c => startStep c
  | .word acc, c => if idChar c then (.word (acc ++ [c]), []) else endBefore (.word acc) c
  | .lit q acc, c => if c = q then (.litQuote q acc, []) else (.lit q (acc ++ [c]), [])
  | .litQuote q acc, c => if c = q then (.lit q (acc ++ [c]), []) else endBefore (close q acc) c
  | .bracket acc, c => if c = 0x5d then (.start, [.ident acc]) else (.bracket (acc ++ [c]), [])
  | .minus, c => if c = 0x2d then (.line, []) else endBefore (.sym 0x2d) c
  | .slash, c => if c = 0x2a then (.blockOpen, []) else endBefore (.sym 0x2f) c
  | .line, c => if c = 0x0a then (.start, []) else (.line, [])
  | .blockOpen, c | .block, c => if c = 0x2a then (.blockStar, []) else (.block, [])
  | .blockStar, c =>
      if c = 0x2f then (.start, []) else if c = 0x2a then (.blockStar, []) else (.block, [])

/-- The tokens at the end of the text.  A comment may be left open, a literal may not. -/
def finish : Mode → List Token
  | .start | .line | .block | .blockStar => []
  | .word acc => [.word acc]
  | .lit _ _ | .bracket _ => [.illegal]
  | .litQuote q acc => [close q acc]
  | .minus => [.sym 0x2d]
  | .slash => [.sym 0x2f]
  | .blockOpen => [.sym 0x2f, .sym 0x2a]

def scan : Mode → Bytes → List Token
  | m, [] => finish m
  | m, c :: s => (step m c).2 ++ scan (step m c).1 s

def lex (s : Bytes) : List Token := scan .start s

/-! ### Statements -/

/-- A statement that adds one row of strings to a table, or empties one. -/
inductive Statement where
  | insert (table : Bytes) (columns values : List Bytes)
  | delete (table : Bytes)
  deriving DecidableEq, Repr

def Token.word? : Token → Option Bytes
  | .word w => some w
  | _ => none

def Token.str? : Token → Option Bytes
  | .str v => some v
  | _ => none

/-- Items with commas between them, up to a closing parenthesis. -/
def parseItems (item : Token → Option Bytes) : List Token → Option (List Bytes × List Token)
  | a :: .sym c :: ts =>
      match item a with
      | none => none
      | some v =>
          if c = comma then (parseItems item ts).map fun r => (v :: r.1, r.2)
          else if c = rparen then some ([v], ts)
          else none
  | _ => none

def parseValues (table : Bytes) (columns : List Bytes) : List Token → Option Statement
  | .word a :: .sym c :: ts =>
      if a = ascii "values" ∧ c = lparen then
        match parseItems Token.str? ts with
        | some (values, [.sym d]) =>
            if d = semicolon then some (.insert table columns values) else none
        | _ => none
      else none
  | _ => none

def parse : List Token → Option Statement
  | .word a :: .word b :: .word t :: .sym c :: ts =>
      if a = ascii "delete" ∧ b = ascii "from" ∧ c = semicolon ∧ ts = [] then some (.delete t)
      else if a = ascii "insert" ∧ b = ascii "into" ∧ c = lparen then
        match parseItems Token.word? ts with
        | some (columns, ts) => parseValues t columns ts
        | none => none
      else none
  | _ => none

/-! ### Texts -/

/-- The images of the items, `sep` between them. -/
def sepBy {α : Type*} (sep : α) (f : Bytes → List α) : List Bytes → List α
  | [] => []
  | [v] => f v
  | v :: w :: vs => f v ++ sep :: sepBy sep f (w :: vs)

/-- A value between apostrophes, as it is. -/
def quoted (v : Bytes) : Bytes := apostrophe :: (v ++ [apostrophe])

/-- `insert into table(columns) values('…','…');`. -/
def insertText (table : Bytes) (columns values : List Bytes) : Bytes :=
  ascii "insert into " ++ (table ++ lparen :: (sepBy comma id columns ++
    (ascii ") values(" ++ (sepBy comma quoted values ++ [rparen, semicolon]))))

/-- `delete from table;`. -/
def deleteText (table : Bytes) : Bytes := ascii "delete from " ++ (table ++ [semicolon])

/-- The tokens of an insertion. -/
def insertTokens (table : Bytes) (columns values : List Bytes) : List Token :=
  .word (ascii "insert") :: .word (ascii "into") :: .word table :: .sym lparen ::
    (sepBy (.sym comma) (fun w => [.word w]) columns ++ .sym rparen :: .word (ascii "values") ::
      .sym lparen :: (sepBy (.sym comma) (fun v => [.str v]) values ++
        [.sym rparen, .sym semicolon]))

/-- A non-empty text of identifier characters. -/
def IsWord (w : Bytes) : Prop := w ≠ [] ∧ ∀ c ∈ w, idChar c

instance (w : Bytes) : Decidable (IsWord w) :=
  decidable_of_iff (w ≠ [] ∧ w.all idChar = true) (and_congr_right' List.all_eq_true)

/-! ### Scanning texts without apostrophes -/

theorem scan_word_append {w : Bytes} (hw : ∀ c ∈ w, idChar c) (acc rest : Bytes) :
    scan (.word acc) (w ++ rest) = scan (.word (acc ++ w)) rest := by
  induction w generalizing acc with
  | nil => rw [List.nil_append, List.append_nil]
  | cons c w ih =>
      obtain ⟨hc, hw⟩ := List.forall_mem_cons.mp hw
      rw [List.cons_append, scan, step, if_pos hc, ih hw, List.append_assoc]
      rfl

theorem startStep_idChar {c : UInt8} (hc : idChar c) : startStep c = (.word [c], []) :=
  forall_byte (P := fun c => idChar c → startStep c = (.word [c], [])) (by decide +kernel) c hc

/-- A word, up to a character that is not part of one. -/
theorem scan_word {w : Bytes} (hw : IsWord w) {c : UInt8} (hc : idChar c = false) (rest : Bytes) :
    scan .start (w ++ c :: rest) = .word w :: scan .start (c :: rest) := by
  obtain ⟨hne, hw⟩ := hw
  obtain ⟨a, w, rfl⟩ := List.exists_cons_of_ne_nil hne
  obtain ⟨ha, hw⟩ := List.forall_mem_cons.mp hw
  rw [List.cons_append, scan, step, startStep_idChar ha, scan_word_append hw, scan, step,
    if_neg (by simp [hc]), scan]
  rfl

theorem scan_lit_append {q : UInt8} {v : Bytes} (hv : q ∉ v) (acc rest : Bytes) :
    scan (.lit q acc) (v ++ rest) = scan (.lit q (acc ++ v)) rest := by
  induction v generalizing acc with
  | nil => rw [List.nil_append, List.append_nil]
  | cons c v ih =>
      rw [List.mem_cons, not_or] at hv
      obtain ⟨hc, hv⟩ := hv
      rw [List.cons_append, scan, step, if_neg (Ne.symm hc), ih hv, List.append_assoc]
      rfl

/-- A quoted value without apostrophes, up to a character that is not one. -/
theorem scan_quoted {v : Bytes} (hv : apostrophe ∉ v) {c : UInt8} (hc : c ≠ apostrophe)
    (rest : Bytes) :
    scan .start (quoted v ++ c :: rest) = .str v :: scan .start (c :: rest) := by
  have h0 : step .start apostrophe = (.lit apostrophe [], []) := by decide
  rw [quoted, List.cons_append, List.append_assoc, scan, h0, scan_lit_append hv, List.nil_append,
    List.singleton_append, scan, step, if_pos rfl, scan, step, if_neg hc, scan]
  rfl

/-- A list of words, up to the parenthesis behind it. -/
theorem scan_words : ∀ {ws : List Bytes} (_ : ws ≠ []) (_ : ∀ w ∈ ws, IsWord w) (rest : Bytes),
    scan .start (sepBy comma id ws ++ rparen :: rest) =
      sepBy (.sym comma) (fun w => [.word w]) ws ++ .sym rparen :: scan .start rest
  | [w], _, hw, rest => by
      rw [sepBy, id, scan_word (hw w List.mem_cons_self) (by decide), scan]
      rfl
  | w :: w' :: ws, _, hw, rest => by
      obtain ⟨hw, hws⟩ := List.forall_mem_cons.mp hw
      have hcomma : step .start comma = (.start, [.sym comma]) := by decide
      rw [sepBy, id, List.append_assoc, List.cons_append, scan_word hw (by decide), scan, hcomma,
        scan_words (List.cons_ne_nil _ _) hws]
      rfl

/-- A list of quoted values without apostrophes, up to the parenthesis behind it. -/
theorem scan_values : ∀ {vs : List Bytes} (_ : vs ≠ []) (_ : ∀ v ∈ vs, apostrophe ∉ v)
    (rest : Bytes), scan .start (sepBy comma quoted vs ++ rparen :: rest) =
      sepBy (.sym comma) (fun v => [.str v]) vs ++ .sym rparen :: scan .start rest
  | [v], _, hv, rest => by
      rw [sepBy, scan_quoted (hv v List.mem_cons_self) (by decide), scan]
      rfl
  | v :: v' :: vs, _, hv, rest => by
      obtain ⟨hv, hvs⟩ := List.forall_mem_cons.mp hv
      have hcomma : step .start comma = (.start, [.sym comma]) := by decide
      rw [sepBy, List.append_assoc, List.cons_append, scan_quoted hv (by decide), scan, hcomma,
        scan_values (List.cons_ne_nil _ _) hvs]
      rfl

/-- What an insertion is up to its values: the rest is scanned from the start. -/
theorem lex_insertText_prefix {table : Bytes} {columns : List Bytes} (ht : IsWord table)
    (hne : columns ≠ []) (hc : ∀ c ∈ columns, IsWord c) (rest : Bytes) :
    lex (ascii "insert into " ++ (table ++ lparen :: (sepBy comma id columns ++
      (ascii ") values(" ++ rest)))) =
    .word (ascii "insert") :: .word (ascii "into") :: .word table :: .sym lparen ::
      (sepBy (.sym comma) (fun w => [.word w]) columns ++ .sym rparen :: .word (ascii "values") ::
        .sym lparen :: scan .start rest) := by
  have h₁ : ascii "insert into " = ascii "insert" ++ 0x20 :: (ascii "into" ++ [0x20]) := by decide
  have h₂ : ascii ") values(" = rparen :: 0x20 :: (ascii "values" ++ [lparen]) := by decide
  have hspace (s : Bytes) : scan .start (0x20 :: s) = scan .start s := rfl
  have hlparen (s : Bytes) : scan .start (lparen :: s) = .sym lparen :: scan .start s := rfl
  rw [lex, h₁, h₂]
  simp only [List.append_assoc, List.cons_append, List.nil_append]
  rw [scan_word (by decide) (by decide), hspace, scan_word (by decide) (by decide), hspace,
    scan_word ht (by decide), hlparen, scan_words hne hc, hspace,
    scan_word (by decide) (by decide), hlparen]

/-! ### How much text a token takes -/

/-- The least number of characters a token is written in. -/
def Token.width : Token → Nat
  | .word w => w.length
  | .str v => v.length + v.count apostrophe + 2
  | .ident v => v.length + 2
  | .sym _ | .illegal => 1

/-- The number of characters read since the last token. -/
def Mode.width : Mode → Nat
  | .start | .line | .block | .blockStar => 0
  | .word acc => acc.length
  | .lit q acc => acc.length + acc.count q + 1
  | .litQuote q acc => acc.length + acc.count q + 2
  | .bracket acc => acc.length + 1
  | .minus | .slash => 1
  | .blockOpen => 2

def width (ts : List Token) : Nat := (ts.map Token.width).sum

@[simp] theorem width_nil : width [] = 0 := rfl

@[simp] theorem width_cons (t : Token) (ts : List Token) :
    width (t :: ts) = t.width + width ts := by
  rw [width, List.map_cons, List.sum_cons, width]

@[simp] theorem width_append (ts us : List Token) : width (ts ++ us) = width ts + width us := by
  rw [width, List.map_append, List.sum_append, width, width]

theorem width_close (q : UInt8) (acc : Bytes) :
    (close q acc).width ≤ acc.length + acc.count q + 2 := by
  by_cases h : q = apostrophe
  · rw [close, if_pos h, h, Token.width]
  · rw [close, if_neg h, Token.width]
    omega

theorem width_startStep (c : UInt8) : width (startStep c).2 + (startStep c).1.width ≤ 1 :=
  forall_byte (P := fun c => width (startStep c).2 + (startStep c).1.width ≤ 1)
    (by decide +kernel) c

theorem width_endBefore (t : Token) (c : UInt8) :
    width (endBefore t c).2 + (endBefore t c).1.width ≤ t.width + 1 := by
  have := width_startStep c
  simp only [endBefore, width_cons]
  omega

/-- One character makes for one character of tokens at most. -/
theorem width_step (m : Mode) (c : UInt8) :
    width (step m c).2 + (step m c).1.width ≤ m.width + 1 := by
  cases m with
  | start =>
      have := width_startStep c
      simpa [step, Mode.width] using this
  | word acc =>
      have := width_endBefore (.word acc) c
      by_cases h : idChar c
      · simp [step, h, Mode.width]
      · simpa [step, h, Mode.width, Token.width] using this
  | lit q acc =>
      by_cases h : c = q
      · simp [step, h, Mode.width]
      · have hcount : (acc ++ [c]).count q = acc.count q := by
          rw [List.count_append, List.count_singleton, if_neg (by simpa using h)]
          rfl
        simp only [step, if_neg h, Mode.width, hcount, width_nil, List.length_append,
          List.length_singleton]
        omega
  | litQuote q acc =>
      have h₁ := width_endBefore (close q acc) c
      have h₂ := width_close q acc
      by_cases h : c = q
      · subst h
        simp only [step, if_true, Mode.width, width_nil, List.length_append,
          List.length_singleton, List.count_append, List.count_singleton_self]
        omega
      · rw [step, if_neg h]
        change _ ≤ acc.length + acc.count q + 2 + 1
        omega
  | bracket acc =>
      by_cases h : c = 0x5d
      · simp [step, h, Mode.width, Token.width]
      · simp only [step, if_neg h, Mode.width, width_nil, List.length_append,
          List.length_singleton]
        omega
  | minus =>
      have := width_endBefore (.sym 0x2d) c
      by_cases h : c = 0x2d
      · simp [step, h, Mode.width]
      · simpa [step, h, Mode.width, Token.width] using this
  | slash =>
      have := width_endBefore (.sym 0x2f) c
      by_cases h : c = 0x2a
      · simp [step, h, Mode.width]
      · simpa [step, h, Mode.width, Token.width] using this
  | line =>
      by_cases h : c = 0x0a <;> simp [step, h, Mode.width]
  | blockOpen | block =>
      by_cases h : c = 0x2a <;> simp [step, h, Mode.width]
  | blockStar =>
      by_cases h : c = 0x2f
      · simp [step, h, Mode.width]
      · by_cases h' : c = 0x2a <;> simp [step, h, h', Mode.width]

theorem width_finish (m : Mode) : width (finish m) ≤ m.width := by
  cases m with
  | litQuote q acc => simpa [finish, Mode.width] using width_close q acc
  | lit q acc => simp [finish, Mode.width, Token.width]
  | bracket acc => simp [finish, Mode.width, Token.width]
  | _ => simp [finish, Mode.width, Token.width]

/-- **The tokens of a text fit in it**, the apostrophes of a string counted twice. -/
theorem width_scan_le (m : Mode) (s : Bytes) : width (scan m s) ≤ m.width + s.length := by
  induction s generalizing m with
  | nil => exact width_finish m
  | cons c s ih =>
      have h₁ := width_step m c
      have h₂ := ih (step m c).1
      rw [scan, width_append, List.length_cons]
      omega

/-- A list of strings takes as much text as the values between apostrophes, and every apostrophe
in a value once more. -/
theorem width_values : ∀ vs : List Bytes,
    width (sepBy (.sym comma) (fun v => [.str v]) vs) =
      (sepBy comma quoted vs).length + (vs.map fun v => v.count apostrophe).sum
  | [] => rfl
  | [v] => by
      simp [sepBy, quoted, Token.width]
      omega
  | v :: w :: vs => by
      have ih := width_values (w :: vs)
      rw [sepBy, sepBy, width_append, width_cons (.sym comma), ih, List.map_cons, List.sum_cons,
        List.length_append, List.length_cons, quoted]
      simp [Token.width]
      omega

/-! ### Parsing -/

theorem parseItems_sepBy (item : Token → Option Bytes) (mk : Bytes → Token)
    (h : ∀ v, item (mk v) = some v) : ∀ {vs : List Bytes} (_ : vs ≠ []) (ts : List Token),
    parseItems item (sepBy (.sym comma) (fun v => [mk v]) vs ++ .sym rparen :: ts) = some (vs, ts)
  | [v], _, ts => by
      have hne : rparen ≠ comma := by decide
      simp only [sepBy, List.singleton_append, parseItems, h, if_neg hne, if_true]
  | v :: w :: vs, _, ts => by
      have ih := parseItems_sepBy item mk h (List.cons_ne_nil w vs) ts
      rw [sepBy, List.singleton_append, List.cons_append, List.cons_append, parseItems]
      simp only [h, if_true, ih, Option.map_some]

theorem eq_of_parseItems {item : Token → Option Bytes} {mk : Bytes → Token}
    (h : ∀ {a v}, item a = some v → a = mk v) (ts : List Token) :
    ∀ {vs : List Bytes} {us : List Token}, parseItems item ts = some (vs, us) →
      vs ≠ [] ∧ ts = sepBy (.sym comma) (fun v => [mk v]) vs ++ .sym rparen :: us := by
  induction ts using parseItems.induct item with
  | case1 a c ts hnone =>
      intro vs us hp
      simp [parseItems, hnone] at hp
  | case2 a ts v hv ih =>
      intro vs us hp
      simp only [parseItems, hv, if_true, Option.map_eq_some_iff, Prod.mk.injEq] at hp
      obtain ⟨⟨ws, us⟩, hr, rfl, rfl⟩ := hp
      obtain ⟨hne, rfl⟩ := ih hr
      obtain ⟨w, ws, rfl⟩ := List.exists_cons_of_ne_nil hne
      exact ⟨List.cons_ne_nil _ _, by rw [h hv]; rfl⟩
  | case3 a ts v hv hne =>
      intro vs us hp
      simp only [parseItems, hv, if_neg hne, if_true, Option.some.injEq, Prod.mk.injEq] at hp
      obtain ⟨rfl, rfl⟩ := hp
      exact ⟨List.cons_ne_nil _ _, by rw [h hv]; rfl⟩
  | case4 a c ts v hv h₁ h₂ =>
      intro vs us hp
      simp [parseItems, hv, h₁, h₂] at hp
  | case5 ts hno =>
      intro vs us hp
      rw [parseItems] at hp
      · cases hp
      · exact hno

theorem eq_word_of_word? {a : Token} {v : Bytes} (h : a.word? = some v) : a = .word v := by
  cases a <;> simp_all [Token.word?]

theorem eq_str_of_str? {a : Token} {v : Bytes} (h : a.str? = some v) : a = .str v := by
  cases a <;> simp_all [Token.str?]

theorem eq_of_parseValues {table : Bytes} {columns : List Bytes} {ts : List Token}
    {st : Statement} (h : parseValues table columns ts = some st) :
    ∃ values ≠ [], st = .insert table columns values ∧
      ts = .word (ascii "values") :: .sym lparen ::
        (sepBy (.sym comma) (fun v => [.str v]) values ++ [.sym rparen, .sym semicolon]) := by
  unfold parseValues at h
  split at h
  · rename_i a c us
    split at h
    · rename_i hval
      obtain ⟨rfl, rfl⟩ := hval
      split at h
      · rename_i values d hvals
        obtain ⟨hne, rfl⟩ := eq_of_parseItems eq_str_of_str? us hvals
        split at h
        · rename_i hd
          cases h
          exact ⟨values, hne, rfl, by rw [hd]⟩
        · cases h
      · cases h
    · cases h
  · cases h

/-- **The token lists read as an insertion**: its tokens. -/
theorem parse_eq_insert_iff {ts : List Token} {table : Bytes} {columns values : List Bytes} :
    parse ts = some (.insert table columns values) ↔
      columns ≠ [] ∧ values ≠ [] ∧ ts = insertTokens table columns values := by
  constructor
  · intro h
    unfold parse at h
    split at h
    · rename_i a b t c us
      split at h
      · cases h
      · split at h
        · rename_i hins
          obtain ⟨rfl, rfl, rfl⟩ := hins
          split at h
          · rename_i cols vs hcols
            obtain ⟨hne, rfl⟩ := eq_of_parseItems eq_word_of_word? us hcols
            obtain ⟨vals, hne', hst, rfl⟩ := eq_of_parseValues h
            cases hst
            exact ⟨hne, hne', rfl⟩
          · cases h
        · cases h
    · cases h
  · rintro ⟨hc, hv, rfl⟩
    have hvals := parseItems_sepBy Token.str? .str (fun _ => rfl) hv
      [.sym semicolon]
    rw [insertTokens, parse, if_neg fun h => absurd h.1 (by decide), if_pos ⟨rfl, rfl, rfl⟩,
      parseItems_sepBy Token.word? .word (fun _ => rfl) hc]
    simp only [parseValues, and_self, if_true, hvals]

/-! ### Statements without apostrophes -/

/-- **What an insertion text is read as.**  It is the insertion of the values as they are exactly
when no value holds an apostrophe. -/
theorem parse_insertText_iff {table : Bytes} {columns values : List Bytes} (ht : IsWord table)
    (hne : columns ≠ []) (hc : ∀ c ∈ columns, IsWord c) (hv : values ≠ []) :
    parse (lex (insertText table columns values)) = some (.insert table columns values) ↔
      ∀ v ∈ values, apostrophe ∉ v := by
  rw [parse_eq_insert_iff, insertText, lex_insertText_prefix ht hne hc, insertTokens]
  constructor
  · rintro ⟨-, -, h⟩
    simp only [List.cons.injEq, true_and, List.append_cancel_left_eq] at h
    -- the strings would take more text than there is
    have hw := width_scan_le .start (sepBy comma quoted values ++ [rparen, semicolon])
    rw [h, width_append, width_values, List.length_append] at hw
    simp only [width_cons, width_nil, Token.width, Mode.width, List.length_cons,
      List.length_nil] at hw
    have hsum : (values.map fun v => v.count apostrophe).sum = 0 := by omega
    intro v hmem hq
    have hpos : 0 < v.count apostrophe := List.count_pos_iff.mpr hq
    have hzero := List.sum_eq_zero_iff_forall_eq_nat.mp hsum _
      (List.mem_map_of_mem (f := fun v => v.count apostrophe) hmem)
    omega
  · intro h
    refine ⟨hne, hv, ?_⟩
    rw [scan_values hv h]
    rfl

theorem parse_deleteText {table : Bytes} (ht : IsWord table) :
    parse (lex (deleteText table)) = some (.delete table) := by
  have h₁ : ascii "delete from " = ascii "delete" ++ 0x20 :: (ascii "from" ++ [0x20]) := by decide
  have hspace (s : Bytes) : scan .start (0x20 :: s) = scan .start s := rfl
  have hsemi : scan .start [semicolon] = [.sym semicolon] := rfl
  rw [lex, deleteText, h₁]
  simp only [List.append_assoc, List.cons_append, List.nil_append]
  rw [scan_word (by decide) (by decide), hspace, scan_word (by decide) (by decide), hspace,
    scan_word ht (by decide), hsemi, parse, if_pos ⟨rfl, rfl, rfl, rfl⟩]

end Sql

end Support
