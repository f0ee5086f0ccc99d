import Mathlib.Data.List.Nodup

/-!
# The data of the FSM update handler

The `updatehandler.Handler` of the FSM design (`src/unnamed/part_008`, lines 18-868) drives
the components through the `looplab/fsm` machine `idle → prepared → updated → idle`. This
module holds its states and events, the component statuses, the `handlerState` that
`saveState` persists, and the calls it makes (`ExtCall`) with their replies (`Reply`).
-/

namespace UpdateManager.Fsm

/-- `stateIdle`, `statePrepared`, `stateUpdated`, `stateFailed`. -/
inductive UpdateState
  | idle
  | prepared
  | updated
  | failed
  deriving DecidableEq, Repr

/-- `umclient.StatusInstalled`, `StatusInstalling`, `StatusError`. -/
inductive ComponentStatus
  | installed
  | installing
  | error
  deriving DecidableEq, Repr

structure ComponentStatusInfo where
  id : String
  vendorVersion : String
  aosVersion : Nat
  status : ComponentStatus
  error : String
  deriving DecidableEq, Repr

/-- `umclient.ComponentUpdateInfo`, one item of a prepare request. The hashes and the
annotations are opaque here. -/
structure ComponentUpdateInfo where
  id : String
  vendorVersion : String
  aosVersion : Nat
  url : String
  size : Nat
  sha256 : String
  sha512 : String
  annotations : String
  deriving DecidableEq, Repr

/-! ### The component status map -/

/-- `map[string]*umclient.ComponentStatusInfo`: each status is kept under its own id. -/
@[ext]
structure StatusMap where
  entries : List ComponentStatusInfo
  keyed : (entries.map ComponentStatusInfo.id).Nodup

namespace StatusMap

instance : DecidableEq StatusMap := fun _ _ =>
  decidable_of_iff _ StatusMap.ext_iff.symm

def empty : StatusMap := ⟨[], List.nodup_nil⟩

def ids (statuses : StatusMap) : List String := statuses.entries.map ComponentStatusInfo.id

def find? (statuses : StatusMap) (id : String) : Option ComponentStatusInfo :=
  statuses.entries.find? (fun status => status.id == id)

private theorem insert_keyed (entries : List ComponentStatusInfo) (status : ComponentStatusInfo)
    (keyed : (entries.map ComponentStatusInfo.id).Nodup) :
    ((entries.filter (fun other => other.id != status.id) ++ [status]).map
      ComponentStatusInfo.id).Nodup := by
  rw [List.map_append, List.nodup_append]
  refine ⟨keyed.sublist ((List.filter_sublist entries).map _), List.nodup_singleton _, ?_⟩
  intro key kept same
  obtain ⟨other, member, rfl⟩ := List.mem_map.mp kept
  simp only [List.map_cons, List.map_nil, List.mem_singleton] at same
  simp [List.mem_filter, same] at member

def insert (statuses : StatusMap) (status : ComponentStatusInfo) : StatusMap :=
  ⟨statuses.entries.filter (fun other => other.id != status.id) ++ [status],
    insert_keyed _ _ statuses.keyed⟩

/-- Rewrites the status under `id` in place, as a write through its pointer does. -/
def modify (statuses : StatusMap) (id : String)
    (change : ComponentStatusInfo → ComponentStatusInfo)
    (keepsId : ∀ status, (change status).id = status.id) : StatusMap :=
  ⟨statuses.entries.map (fun status => if status.id = id then change status else status), by
    have same : (statuses.entries.map (fun status => if status.id = id then change status
        else status)).map ComponentStatusInfo.id = statuses.ids := by
      rw [List.map_map]
      apply List.map_congr_left
      intro status _
      by_cases hit : status.id = id <;> simp [hit, keepsId]
    rw [same]
    exact statuses.keyed⟩

/-- `componentError`: the status under `id` becomes `StatusError` with the error text. -/
def componentError (statuses : StatusMap) (id message : String) : StatusMap :=
  statuses.modify id (fun status => { status with status := .error, error := message })
    (fun _ => rfl)

/-- The loop of `onStateChanged` that deletes every status that is not `StatusError`. -/
def purge (statuses : StatusMap) : StatusMap :=
  ⟨statuses.entries.filter (fun status => status.status == .error),
    statuses.keyed.sublist ((List.filter_sublist _).map _)⟩

end StatusMap

/-- The status `onPrepareState` makes for one requested item. -/
def ComponentUpdateInfo.installing (info : ComponentUpdateInfo) : ComponentStatusInfo :=
  { id := info.id, vendorVersion := info.vendorVersion, aosVersion := info.aosVersion,
    status := .installing, error := "" }

/-- The status map of `onPrepareState`, one status per item; a later item with the same id
replaces an earlier one. -/
def statusesOf (infos : List ComponentUpdateInfo) : StatusMap :=
  infos.foldl (fun statuses info => statuses.insert info.installing) StatusMap.empty

/-- `componentsInfo[id]` of `onPrepareState`: the last item with the id. -/
def infoOf (infos : List ComponentUpdateInfo) (id : String) : Option ComponentUpdateInfo :=
  infos.foldl (fun found info => if info.id = id then some info else found) none

private theorem infoOf_snoc (infos : List ComponentUpdateInfo) (info : ComponentUpdateInfo) (id : String) :
    infoOf (infos ++ [info]) id = if info.id = id then some info else infoOf infos id := by
  simp [infoOf, List.foldl_append]

theorem infoOf_id {infos : List ComponentUpdateInfo} {id : String} {info : ComponentUpdateInfo}
    (found : infoOf infos id = some info) : info.id = id := by
  induction infos using List.reverseRecOn with
  | nil => cases found
  | append_singleton infos last ih =>
      rw [infoOf_snoc] at found
      split at found
      · cases found
        assumption
      · exact ih found

theorem statusesOf_info (infos : List ComponentUpdateInfo) :
    ∀ status ∈ (statusesOf infos).entries,
      ∃ info, infoOf infos status.id = some info ∧ info.aosVersion = status.aosVersion := by
  induction infos using List.reverseRecOn with
  | nil => intro status member; cases member
  | append_singleton infos last ih =>
      intro status member
      simp only [statusesOf, List.foldl_append, List.foldl_cons, List.foldl_nil,
        StatusMap.insert, List.mem_append, List.mem_filter, List.mem_singleton] at member
      rw [infoOf_snoc]
      rcases member with ⟨old, other⟩ | rfl
      · have different : ¬last.id = status.id := by
          simp [ComponentUpdateInfo.installing] at other
          exact fun same => other same.symm
        rw [if_neg different]
        exact ih status old
      · exact ⟨last, by simp [ComponentUpdateInfo.installing], rfl⟩

private theorem StatusMap.mem_ids_insert (statuses : StatusMap) (status : ComponentStatusInfo) (id : String) :
    id ∈ (statuses.insert status).ids ↔ id ∈ statuses.ids ∨ id = status.id := by
  by_cases same : id = status.id
  · simp [StatusMap.insert, StatusMap.ids, same]
  · simp only [StatusMap.insert, StatusMap.ids, List.map_append, List.mem_append, List.mem_map,
      List.mem_filter, bne_iff_ne, List.map_cons, List.map_nil, List.mem_singleton, same, or_false]
    exact ⟨fun ⟨other, ⟨member, _⟩, named⟩ => ⟨other, member, named⟩,
      fun ⟨other, member, named⟩ => ⟨other, ⟨member, named ▸ same⟩, named⟩⟩

theorem mem_statusesOf_ids {infos : List ComponentUpdateInfo} {id : String} :
    id ∈ (statusesOf infos).ids ↔ ∃ info ∈ infos, info.id = id := by
  induction infos using List.reverseRecOn with
  | nil => simp [statusesOf, StatusMap.ids, StatusMap.empty]
  | append_singleton infos last ih =>
      simp only [statusesOf, List.foldl_append, List.foldl_cons, List.foldl_nil] at ih ⊢
      rw [StatusMap.mem_ids_insert, ih]
      simp only [List.mem_append, List.mem_singleton, or_and_right, exists_or, exists_eq_left]
      simp [ComponentUpdateInfo.installing, eq_comm]

/-- `handlerState`, the blob `saveState` writes and `getState` reads. -/
structure HandlerState where
  updateState : UpdateState
  error : String
  componentStatuses : StatusMap
  deriving DecidableEq

/-- The state `New` starts from when the storage holds no blob: the zero `handlerState`,
with its empty `UpdateState` read as `stateIdle`. -/
def HandlerState.initial : HandlerState :=
  { updateState := .idle, error := "", componentStatuses := .empty }

/-! ### Events -/

/-- The events of `fsm.NewFSM`, with the argument of `PrepareUpdate`. -/
inductive Event
  | prepare (infos : List ComponentUpdateInfo)
  | update
  | apply
  | revert
  deriving DecidableEq

/-- The `Src` states of the event table. -/
def Event.sources : Event → List UpdateState
  | .prepare _ => [.idle]
  | .update => [.prepared]
  | .apply => [.updated]
  | .revert => [.prepared, .updated, .failed]

/-- The `Dst` state of the event table. -/
def Event.destination : Event → UpdateState
  | .prepare _ => .prepared
  | .update => .updated
  | .apply => .idle
  | .revert => .idle

/-- `stopOnError` of the `componentOperation` call of the event's `after_` callback. -/
def Event.stopOnError : Event → Bool
  | .prepare _ => true
  | .update => true
  | .apply => false
  | .revert => false

/-! ### Calls out of the handler -/

/-- The methods of `UpdateModule` that the handler calls during transitions. -/
inductive ModuleCall
  | getVendorVersion
  | prepare (imagePath vendorVersion annotations : String)
  | update
  | apply
  | revert
  | reboot
  deriving DecidableEq, Repr

/-- A call to a module, to the `StateStorage`, or to the fetcher and verifier. -/
inductive ExtCall
  | module (id : String) (call : ModuleCall)
  | setVendorVersion (id version : String)
  | getAosVersion (id : String)
  | setAosVersion (id : String) (version : Nat)
  | downloadImage (downloadDir url : String)
  | checkFileInfo (path sha256 sha512 : String) (size : Nat)
  deriving DecidableEq, Repr

/-- What a call returns: `rebootRequired`, a version or a file path, an Aos version, and the
error text (`none` for a `nil` error). A call reads only the fields it returns. -/
structure Reply where
  rebootRequired : Bool := false
  value : String := ""
  number : Nat := 0
  err : Option String := none
  deriving DecidableEq, Repr

end UpdateManager.Fsm
