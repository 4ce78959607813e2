import DbAccess.Sqlite.Sql.Syntax
import DbAccess.Sqlite.Sql.Token
/-!
# Reading SQL

`Command.read` reads the first statement of a text. A text that is no statement is refused with the token
that does not fit, or with none when the text ends too soon.
-/

namespace DbAccess.Sqlite

/-- Reads from the front of a list of tokens. What is refused is refused with the tokens that are left. -/
abbrev SqlReader := StateT (List Token) (Except (List Token))

namespace SqlReader

/-- Words that name nothing. -/
def reserved : List String :=
  ["ADD", "ALL", "ALTER", "AND", "AS", "AUTOINCREMENT", "BETWEEN", "CASE", "CHECK", "COLLATE", "COMMIT",
    "CONSTRAINT", "CREATE", "DEFAULT", "DEFERRABLE", "DELETE", "DISTINCT", "DROP", "ELSE", "ESCAPE",
    "EXCEPT", "EXISTS", "FOREIGN", "FROM", "GROUP", "HAVING", "IN", "INDEX", "INSERT", "INTERSECT", "INTO", "IS",
    "ISNULL", "JOIN", "LIMIT", "NOT", "NOTHING", "NOTNULL", "NULL", "ON", "OR", "ORDER", "PRIMARY",
    "REFERENCES", "RETURNING", "SELECT", "SET", "TABLE", "THEN", "TO", "TRANSACTION", "UNION", "UNIQUE",
    "UPDATE", "USING", "VALUES", "WHEN", "WHERE"]

/-- Refuses what is next. -/
def refuse {α : Type} : SqlReader α := fun ts => .error ts

/-- The next token, which stays. -/
def peek? : SqlReader (Option Token) := fun ts => .ok (ts.head?, ts)

/-- Takes the next token. -/
def skip : SqlReader Unit := fun ts => .ok ((), ts.drop 1)

/-- Takes the next token when it is the keyword. -/
def optional (keyword : String) : SqlReader Bool := do
  if (← peek?).any fun t => t.keyword = keyword then
    skip
    return true
  else return false

/-- Takes the next token when it is the mark. -/
def optionalMark (mark : String) : SqlReader Bool := do
  if (← peek?).any fun t => t.isSymbol mark then
    skip
    return true
  else return false

/-- Takes the keyword. -/
def keyword (k : String) : SqlReader Unit := do
  if !(← optional k) then refuse

/-- Takes the keywords in order. -/
def keywords : List String → SqlReader Unit
  | [] => return ()
  | k :: ks => do
    keyword k
    keywords ks

/-- Takes the mark. -/
def mark (m : String) : SqlReader Unit := do
  if !(← optionalMark m) then refuse

/-- Takes a name. -/
def name : SqlReader String := do
  match ← peek? with
  | some t =>
    if t.lexeme = .word && !reserved.contains t.keyword then
      skip
      return t.text
    else refuse
  | none => refuse

/-- One or more, with commas between them; the first argument bounds their number. -/
def commaList {α : Type} (item : SqlReader α) : Nat → SqlReader (List α)
  | 0 => refuse
  | fuel + 1 => do
    let a ← item
    if ← optionalMark "," then return a :: (← commaList item fuel)
    else return [a]

mutual

/-- An operand; the first argument of this and the following bounds the nesting. -/
def operand : Nat → SqlReader Expr
  | 0 => refuse
  | fuel + 1 => do
    match ← peek? with
    | none => refuse
    | some t =>
      match t.lexeme with
      | .number n =>
        skip
        return .integer n
      | .quoted s =>
        skip
        return .text s
      | .param n =>
        skip
        return .param n
      | .symbol =>
        mark "("
        let e ← comparison fuel
        mark ")"
        return e
      | .word =>
        if t.keyword = "NULL" then
          skip
          return .null
        else if t.keyword = "CAST" then
          skip
          mark "("
          let e ← comparison fuel
          keywords ["AS", "TEXT"]
          mark ")"
          return .asText e
        else
          let n ← name
          if t.keyword = "COUNT" && (← optionalMark "(") then
            mark "*"
            mark ")"
            return .countRows
          else return .column n t.start

/-- The rest of a sum. -/
def sumRest : Nat → Expr → SqlReader Expr
  | 0, a => return a
  | fuel + 1, a => do
    if ← optionalMark "+" then
      let b ← operand fuel
      sumRest fuel (.plus a b)
    else return a

/-- Two sums that are compared, or one sum. -/
def comparison : Nat → SqlReader Expr
  | 0 => refuse
  | fuel + 1 => do
    let a ← operand fuel
    let a ← sumRest fuel a
    if ← optionalMark "=" then
      let b ← operand fuel
      return .equal a (← sumRest fuel b)
    else if ← optionalMark ">=" then
      let b ← operand fuel
      return .atLeast a (← sumRest fuel b)
    else return a

end

/-- The nesting that is read. -/
def maxNesting : Nat := 100

/-- An expression. -/
def expr : SqlReader Expr := comparison maxNesting

/-- The most items of a list. -/
def maxItems : Nat := 2000

/-- Expressions with commas between them. -/
def exprs : SqlReader (List Expr) := commaList expr maxItems

/-- The preference of a declared type. -/
def affinityOf (type : String) : Affinity :=
  let has (part : String) : Bool := 1 < (type.splitOn part).length
  if has "INT" then .integer else if has "CHAR" || has "CLOB" || has "TEXT" then .text else .none

/-- The constraints of a column, taken into account one after another. -/
def constraints : Nat → ColumnDef → SqlReader ColumnDef
  | 0, c => return c
  | fuel + 1, c => do
    if ← optional "PRIMARY" then
      keyword "KEY"
      constraints fuel { c with primaryKey := true }
    else if ← optional "NOT" then
      keyword "NULL"
      constraints fuel { c with notNull := true }
    else if ← optional "UNIQUE" then constraints fuel { c with unique := true }
    else if ← optional "CHECK" then
      mark "("
      let e ← expr
      mark ")"
      constraints fuel { c with check := some e }
    else if ← optional "REFERENCES" then
      let table ← name
      mark "("
      let column ← name
      mark ")"
      constraints fuel { c with references := some (table, column) }
    else return c

/-- A column of a table: its name, its type if it has one, and its constraints. -/
def columnDef : SqlReader ColumnDef := do
  let n ← name
  let type ← (do
    match ← peek? with
    | some t =>
      if t.lexeme = .word && !reserved.contains t.keyword then
        skip
        return t.keyword
      else return ""
    | none => return "" : SqlReader String)
  constraints maxItems ⟨n, affinityOf type, false, false, false, none, none⟩

/-- A condition, when there is one. -/
def condition : SqlReader (Option Expr) := do
  if ← optional "WHERE" then return some (← expr) else return none

/-- A query behind its keyword. -/
def query : SqlReader Command := do
  let outputs ← (do
    if ← optionalMark "*" then return .star else return .list (← exprs) : SqlReader Outputs)
  if ← optional "FROM" then
    let table ← name
    let c ← condition
    if ← optional "ORDER" then
      keyword "BY"
      return .select outputs (some ⟨table, c, some (← expr)⟩)
    else return .select outputs (some ⟨table, c, none⟩)
  else
    match outputs with
    | .star => refuse
    | _ => return .select outputs none

/-- An insertion behind its keyword. -/
def insertion : SqlReader Command := do
  keyword "INTO"
  let table ← name
  let columns ← (do
    if ← optionalMark "(" then
      let ns ← commaList name maxItems
      mark ")"
      return some ns
    else return none : SqlReader (Option (List String)))
  keyword "VALUES"
  mark "("
  let values ← exprs
  mark ")"
  let returning ← (do
    if ← optional "RETURNING" then exprs else return [] : SqlReader (List Expr))
  return .insert table columns values returning

/-- A recursive query that counts its rows, behind its first keyword. -/
def recursion : SqlReader Command := do
  keyword "RECURSIVE"
  let table ← name
  mark "("
  let _ ← name
  mark ")"
  keyword "AS"
  mark "("
  keyword "SELECT"
  let start ← expr
  keywords ["UNION", "ALL", "SELECT"]
  let next ← expr
  keyword "FROM"
  let again ← name
  mark ")"
  keyword "SELECT"
  let output ← expr
  keyword "FROM"
  let counted ← name
  if again = table && counted = table && output = .countRows then return .unbounded start next
  else refuse

/-- A statement. -/
def command : SqlReader Command := do
  if ← optional "SELECT" then query
  else if ← optional "INSERT" then insertion
  else if ← optional "UPDATE" then
    let table ← name
    keyword "SET"
    let column ← name
    mark "="
    let value ← expr
    return .update table column value (← condition)
  else if ← optional "DELETE" then
    keyword "FROM"
    let table ← name
    return .delete table (← condition)
  else if ← optional "CREATE" then
    keyword "TABLE"
    let n ← name
    mark "("
    let columns ← commaList columnDef maxItems
    mark ")"
    return .createTable n columns
  else if ← optional "DROP" then
    keyword "TABLE"
    return .dropTable (← name)
  else if ← optional "PRAGMA" then
    let setting ← name
    mark "="
    match ← peek? with
    | some t =>
      skip
      return .pragma setting t.text
    | none => refuse
  else if ← optional "BEGIN" then
    let _ ← optional "DEFERRED"
    let _ ← optional "TRANSACTION"
    return .begin
  else if ← optional "COMMIT" then
    let _ ← optional "TRANSACTION"
    return .commit
  else if ← optional "ROLLBACK" then
    let _ ← optional "TRANSACTION"
    if ← optional "TO" then
      let _ ← optional "SAVEPOINT"
      return .rollbackTo (← name)
    else return .rollback
  else if ← optional "SAVEPOINT" then return .savepoint (← name)
  else if ← optional "RELEASE" then
    let _ ← optional "SAVEPOINT"
    return .release (← name)
  else if ← optional "WITH" then recursion
  else refuse

/-- A statement, and nothing after it. -/
def whole : SqlReader Command := do
  let c ← command
  match ← peek? with
  | some _ => refuse
  | none => return c

end SqlReader

/-- Reads the first statement of a text; there may be none in it. What is refused is refused with the token
that does not fit. -/
def Command.read (sql : String) : Except (Option Token) Command :=
  match firstStatement (tokens sql) with
  | [] => .ok .nothing
  | ts =>
    match SqlReader.whole ts with
    | .ok (c, _) => .ok c
    | .error rest => .error rest.head?

end DbAccess.Sqlite
