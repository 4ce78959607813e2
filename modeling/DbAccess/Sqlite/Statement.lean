import DbAccess.Sqlite.Engine
import DbAccess.Text.Blank
/-!
# Statements

A connection keeps the statements that it compiled last, by their texts. A statement that is kept is not
compiled again: that its tables are gone shows only when it runs, after its arguments were counted. The
statements of scripts are not kept.
-/

namespace DbAccess.Sqlite

/-- Compiled statements by their texts, the last used first. -/
abbrev KeptStatements := List (String × Compiled)

namespace KeptStatements

/-- How many statements are kept. -/
def capacity : Nat := 16

/-- Keeps a statement that was just used. An empty text is no statement to keep. -/
def keep (kept : KeptStatements) (sql : String) (p : Compiled) : KeptStatements :=
  if sql.isEmpty then kept else ((sql, p) :: kept.filter fun e => e.1 != sql).take capacity

end KeptStatements

/-- An engine with the statements that are kept for it. -/
structure Workbench (ε : Type) where
  engine : ε
  kept : KeptStatements
deriving Repr

/-- A task of the engine alone. -/
def EngineTask.onWorkbench {ε α : Type} (x : EngineTask ε α) : EngineTask (Workbench ε) α :=
  fun handler env b =>
    let w := x handler env b.engine
    ⟨w.ended, w.env, { b with engine := w.state }⟩

namespace Engine

variable {ε : Type}

open EngineTask

/-- Keeps a statement that was just used, and answers with it. -/
def keep (text : String) (p : Compiled) : EngineTask (Workbench ε) Compiled := fun _ env b =>
  ⟨.done p, env, { b with kept := b.kept.keep text p }⟩

/-- Compiles a statement, unless it is kept. Blanks around its text do not count. -/
def prepare (E : Engine ε) (sql : String) : EngineTask (Workbench ε) Compiled :=
  let text := Text.trimBlank sql
  andThen (ask fun b => b.kept.lookup text) fun
    | some p => keep text p
    | none => andThen (onWorkbench (E.compiling text)) fun p => keep text p

/-- Prepares a statement and compares the number of arguments with that of its parameters. -/
def prepareFor (E : Engine ε) (sql : String) (args : List Value) : EngineTask (Workbench ε) Compiled :=
  andThen (E.prepare sql) fun p =>
    if args.length = p.params then done p
    else fail (.wrongCount (min args.length (p.params + 1)) p.params)

/-- Runs a statement with arguments that were counted. -/
def runBound (E : Engine ε) (extent : Extent) (sql : String) (args : List Value) :
    EngineTask (Workbench ε) (List (List Stored)) :=
  onWorkbench (E.run extent (Text.trimBlank sql) (args.map Stored.ofValue))

/-- Runs a statement and counts the rows it changed. For a statement with rows, which are run through, the
count is what it adds to all changes so far. -/
def execute (E : Engine ε) (sql : String) (args : List Value) : EngineTask (Workbench ε) UInt64 :=
  andThen (E.prepareFor sql args) fun p =>
    if p.columns.isEmpty then
      andThen (E.runBound .all sql args) fun _ =>
        andThen (onWorkbench (ask E.changes)) fun n => done n.toUInt64
    else
      andThen (onWorkbench (ask E.totalChanges)) fun before =>
        andThen (E.runBound .all sql args) fun _ =>
          andThen (onWorkbench (ask E.totalChanges)) fun after => done (after - before).toUInt64

/-- Runs a statement for its rows. -/
def query (E : Engine ε) (extent : Extent) (sql : String) (args : List Value) :
    EngineTask (Workbench ε) (List (List String × List Stored)) :=
  andThen (E.prepareFor sql args) fun p =>
    andThen (E.runBound extent sql args) fun rows => done (rows.map fun r => (p.columns, r))

/-- Runs one statement of a script. -/
def runText (E : Engine ε) (sql : String) : EngineTask (Workbench ε) Unit :=
  onWorkbench <| andThen (E.compiling sql) fun _ => andThen (E.run .first sql []) fun _ => done ()

/-- Runs statements one after another, up to the first that fails. -/
def runTexts (E : Engine ε) : List String → EngineTask (Workbench ε) Unit
  | [] => done ()
  | sql :: rest => andThen (E.runText sql) fun _ => E.runTexts rest

/-- The question whether the engine answers. -/
def pingText : String := "SELECT 1"

/-- Makes sure that the engine answers. -/
def ping (E : Engine ε) : EngineTask (Workbench ε) Unit :=
  onWorkbench <| andThen (E.compiling pingText) fun _ =>
    andThen (E.run .first pingText []) fun rows => if rows.isEmpty then fail .noRow else done ()

end Engine

end DbAccess.Sqlite
