import BpnDirectory.Proofs.Store.Lawful

namespace BpnDirectory
namespace Store

/-!
Stores whose snapshot shows everything they hold.
-/

/-- A store whose snapshot has the DID of every BPN and nothing else. -/
class SnapshotStore (S : Type) [MappingStore S] [LawfulStore S] : Prop where
  find?_snapshot : ∀ {store : S} {entries : OrderedMap String},
    (MappingStore.snapshot store).1 = .ok entries →
      ∀ bpn, entries.find? bpn = (LawfulStore.held store bpn).map Held.did

instance : SnapshotStore Memory where
  find?_snapshot := by
    intro memory entries shown bpn
    cases shown
    rw [OrderedMap.find?_mapValues]
    change _ = (memory.held bpn).map Held.did
    rw [Memory.held, Option.map_map]
    rfl

instance : SnapshotStore Tables where
  find?_snapshot := by
    intro tables entries shown bpn
    rcases bind_eq_ok.mp shown with ⟨_, _, shown⟩
    rcases bind_eq_ok.mp shown with ⟨table, selected, shown⟩
    cases shown
    have mappings : tables.mappings = some table := by
      unfold Tables.mappingTable at selected
      split at selected
      · next present =>
          cases selected
          exact present
      · cases selected
    change _ = (tables.held bpn).map Held.did
    rw [OrderedMap.find?_mapValues, Tables.held_eq mappings, Option.map_map]
    rfl

instance : SnapshotStore Backend where
  find?_snapshot := by
    intro store entries shown bpn
    cases store with
    | memory store =>
        exact @SnapshotStore.find?_snapshot Memory _ _ _ store entries shown bpn
    | tables store =>
        exact @SnapshotStore.find?_snapshot Tables _ _ _ store entries shown bpn

instance {S : Type} [MappingStore S] [LawfulStore S] [SnapshotStore S] : SnapshotStore (Link S) where
  find?_snapshot := by
    intro link entries shown bpn
    exact @SnapshotStore.find?_snapshot S _ _ _ link.store entries (Link.relay_eq_ok shown) bpn

end Store
end BpnDirectory
