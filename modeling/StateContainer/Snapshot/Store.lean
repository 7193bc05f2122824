/-
This file holds stores of snapshots, which keep texts under keys, and restores
snapshots from them.

Restoring takes whatever a store holds: without a store, without a text under the
key, and with a text that does not fit, nothing is restored, and the last case is
logged.
-/

import StateContainer.OrderedMap
import StateContainer.Snapshot.Decode
import StateContainer.Snapshot.Encode

namespace StateContainer

/-- A store of snapshots. -/
structure SnapshotStore where
  blobs : OrderedMap String Blob := {}
deriving Repr, Inhabited

namespace SnapshotStore

/-- What is kept under a key. -/
def load (store : SnapshotStore) (key : String) : Option Blob :=
  (store.blobs.get? key).filter (!·.isAbsent)

/-- Keeps a text under a key. -/
def save (store : SnapshotStore) (key : String) (blob : Blob) : SnapshotStore :=
  { store with blobs := store.blobs.insert key blob }

/-- Whether something is kept under a key. -/
def contains (store : SnapshotStore) (key : String) : Bool :=
  store.blobs.contains key

end SnapshotStore

namespace SnapshotClass

/-- What is logged about a text that does not fit. -/
def ignored (key : String) (error : SnapshotError) : String :=
  "Ignoring snapshot " ++ key ++ ": " ++ error.message

/-- The snapshot that a store holds under a key, if there is one, and what is logged. -/
def restore (s : SnapshotClass) (store : Option SnapshotStore) (key : String) :
    Except SnapshotError (Option Decoded × List String) :=
  match store.bind (·.load key) with
  | none => .ok (none, [])
  | some blob =>
    match s.decode blob with
    | .ok snapshot => .ok (some snapshot, [])
    | .error (.undecodable className detail) =>
      .ok (none, [ignored key (.undecodable className detail)])
    | .error error => .error error

end SnapshotClass

end StateContainer
