import Screencast.Json.Shape
import Screencast.Store.Pool

/-!
# Snapshots

All tables are saved as the text of one JSON object, and restored from it. Connections, counters and
queued faults are not part of a snapshot.
-/

namespace Screencast

namespace Pool

/-- The tables as a JSON value. -/
def snapshot (pool : Pool) : Json :=
  Json.object (pool.tables.map fun (table, rows) => (table, Json.array (rows.map Json.object)))

/-- The text of a snapshot. -/
def save (pool : Pool) : Bytes := Text.encode pool.snapshot.pretty

/-- The tables that a snapshot holds. -/
def readTables? (bytes : Bytes) : Option (KeyMap (List Row)) := do
  let source ← JsonSource.read? bytes
  Shape.map (Shape.list Shape.row) JsonSource.nesting source

/-- Replace all tables by those of a snapshot, if it can be read. -/
def restore? (pool : Pool) (bytes : Bytes) : Option Pool :=
  (readTables? bytes).map fun tables => { pool with tables }

/-- Why tables are not restored: there is no file, or its content is no snapshot. -/
inductive RestoreError
  | missing
  | malformed
  deriving DecidableEq, Repr

/-- Restore the tables from a file, if it is there. A failure leaves the pool as it is. -/
def restore (pool : Pool) (file : Option Bytes) : Except RestoreError Unit × Pool :=
  match file with
  | none => (Except.error RestoreError.missing, pool)
  | some content =>
    match pool.restore? content with
    | none => (Except.error RestoreError.malformed, pool)
    | some restored => (Except.ok (), restored)

end Pool

end Screencast
