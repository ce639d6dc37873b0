import SupplierSwitch.Memory.Store
import SupplierSwitch.Postgres.Peer
import SupplierSwitch.Postgres.Store
import SupplierSwitch.Scenario.Bench

namespace SupplierSwitch

/-!
# Worlds for scenarios

Where scenarios take place: surroundings without surprises, and a bench for each sort of store.
-/

namespace World

/-- The identifier that a still world issues after so many others. -/
def stillId (second issued : Nat) : Uuid :=
  Uuid.timeOrdered (1000 * second) (issued + 1)

/-- A world whose clock stands still at a second counted from 1970, and whose identifiers are
numbered. -/
def still {σ : Type} (second : Nat) (store : σ) : World σ where
  store := store
  clock := ⟨fun _ => (Timestamp.ofParts? second 0).getD .epoch, 0⟩
  ids := ⟨stillId second, 0⟩
  journal := []
  spans := []

end World

namespace Workbench

/-- The bench of the store in memory. -/
def memory : Workbench Tables ChangeSet where
  store := Memory.store.beside Bench
  commandAt? tables place :=
    (tables.commands.find? (·.command.sequence = some place)).map (·.command.id)

/-- The bench of a store whose server is a scripted peer. Places are known to the server only. -/
def peer (runtime : Runtime) : Workbench Peer ChangeSet where
  store := (Postgres.store Peer.connection runtime).beside Bench
  commandAt? _ _ := none

end Workbench

end SupplierSwitch
