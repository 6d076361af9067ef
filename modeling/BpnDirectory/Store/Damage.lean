import BpnDirectory.Store.Tables

namespace BpnDirectory
namespace Store

/-!
Damage to a database from outside.

Someone else with access to the database can drop its tables, empty one of them,
write values that the service would not write, or take the connections away.
-/

/-- One change to the database that does not go through the store. -/
inductive Damage where
  | dropMappings
  | dropMetadata
  | clearMetadata
  | setCreatedAt (bpn text : String)
  | setUpdatedAt (bpn text : String)
  | setVersion (bpn : String) (version : Int)
  | setDirectoryVersion (version : Int)
  | close
  deriving DecidableEq, Repr

/-- The database after a change to one row, if the table is there. -/
def Tables.damageRow (tables : Tables) (bpn : String) (change : Row → Row) : Option Tables :=
  tables.mappings.map fun table =>
    { tables with mappings := some (table.modify bpn change) }

/-- The database after a damage, or nothing if its statement fails. -/
def Tables.damage? (tables : Tables) (damage : Damage) : Option Tables :=
  match tables.isOpen, damage with
  | _, .close => some { tables with isOpen := false }
  | false, _ => none
  | true, .dropMappings => tables.mappings.map fun _ => { tables with mappings := none }
  | true, .dropMetadata => tables.metadata.map fun _ => { tables with metadata := none }
  | true, .clearMetadata => tables.metadata.map fun _ => { tables with metadata := some none }
  | true, .setCreatedAt bpn text => tables.damageRow bpn fun row => { row with createdAt := text }
  | true, .setUpdatedAt bpn text => tables.damageRow bpn fun row => { row with updatedAt := text }
  | true, .setVersion bpn version => tables.damageRow bpn fun row => { row with version }
  | true, .setDirectoryVersion version =>
    tables.metadata.map fun row => { tables with metadata := some (row.map fun _ => version) }

end Store
end BpnDirectory
