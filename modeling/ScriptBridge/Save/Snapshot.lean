import ScriptBridge.NameTable
import ScriptBridge.Save.Tables

/-!
# Snapshots

A snapshot is what a computer leaves behind when it is saved: its globals, and
the tables that their tokens refer to, with the state of its wait.
-/

namespace ScriptBridge

structure Snapshot where
  globals : NameTable SavedValue
  tables : SaveTables

namespace Snapshot

/-- Save globals, in the order of their names, and a wait through fresh tables. -/
def take (globals : NameTable Value) (wait : Wait) : Snapshot :=
  let (saved, tables) := globals.mapState SaveTables.save .empty
  ⟨saved, { tables with wait := wait }⟩

/-- The globals of a snapshot under the types of a registry. -/
def loadGlobals (s : Snapshot) (types : TypeTable) :
    Except LoadError (NameTable Value) :=
  s.globals.tryMap (s.tables.load types)

end Snapshot

end ScriptBridge
