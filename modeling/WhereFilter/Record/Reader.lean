/-
Reading lists of records from JSON texts.
-/
import WhereFilter.Json.Reader
import WhereFilter.Record

namespace WhereFilter

/-- Reads an array of objects. Of members with one name the last one counts. -/
def Record.readList (text : String) : Except Json.ReadError (List Record) := do
  let objects ← Json.readAll (fun width => Json.listOf (Json.membersOf width) width) text
  return objects.map .mk

/-- Reads an array of objects, each put member by member into an empty table. -/
def Record.readTables {τ : Type} (empty : τ) (put : String → Json → τ → τ) (text : String) :
    Except Json.ReadError (List τ) :=
  Json.readAll (fun width => Json.listOf (Json.tableOf empty put width) width) text

/-- Reads an array of objects as tables without an order, kept by whatever hash. -/
def Record.readHashMaps [Hashable String] (text : String) :
    Except Json.ReadError (List (Std.HashMap String Json)) :=
  readTables ∅ (fun name value table => table.insert name value) text

/-- Reads an array of objects as tables in the order of the names. -/
def Record.readTreeMaps (text : String) :
    Except Json.ReadError (List (Std.TreeMap String Json)) :=
  readTables ∅ (fun name value table => table.insert name value) text

/-- Reads an array of whatever values. -/
def Json.readList (text : String) : Except Json.ReadError (List Json) :=
  Json.readAll (fun width => Json.listOf (Json.value width) width) text

end WhereFilter
