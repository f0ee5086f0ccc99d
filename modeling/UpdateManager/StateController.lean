import Mathlib.Data.List.Basic

set_option autoImplicit false

/-!
# The state controller

`statecontroller.New` (`src/unnamed/part_000`, lines 1-211) reads the kernel command line and
gives the file-system update modules their partitions: `parseBootCmd` takes the root partition
from the last `root=` option (`parseBootCmd_ok_iff`), and `rootfs` only ever gets a configured
partition other than the active one (`new_rootfs_inactive`). The file system, the JSON decoder
and the module provider are parameters.
-/

namespace UpdateManager.StateController

def rootFSModuleID : String := "rootfs"

def bootloaderModuleID : String := "bootloader"

def kernelRootPrefix : String := "root="

structure PartitionInfo where
  device : String
  fsType : String
  deriving DecidableEq, Repr

structure ControllerConfig where
  kernelCmdline : String
  rootPartitions : List PartitionInfo
  deriving DecidableEq, Repr

/-- The configuration JSON as `json.Unmarshal` decoded it: an absent or null field is `none`. -/
structure ConfigJson where
  kernelCmdline : Option String
  rootPartitions : Option (List PartitionInfo)
  deriving DecidableEq, Repr

structure Controller where
  config : ControllerConfig
  activeRootPart : String
  deriving DecidableEq, Repr

/-- `json.Unmarshal` into the configuration `New` starts from: the command line defaults to
`/proc/cmdline`, the partitions to none. -/
def unmarshalConfig (json : ConfigJson) : ControllerConfig :=
  ⟨json.kernelCmdline.getD "/proc/cmdline", json.rootPartitions.getD []⟩

/-! ### Reading the command line -/

/-- `unicode.IsSpace`: in Latin-1 the six ASCII spaces, NEL and NBSP; above it the other
characters of Unicode's `White_Space`. -/
def isSpace (c : Char) : Bool :=
  if c.toNat ≤ 0xFF then
    c = '\t' || c = '\n' || c = '\x0B' || c = '\x0C' || c = '\r' || c = ' ' || c = '\x85' ||
      c = '\xA0'
  else
    c.toNat = 0x1680 || (0x2000 ≤ c.toNat && c.toNat ≤ 0x200A) || c.toNat = 0x2028 ||
      c.toNat = 0x2029 || c.toNat = 0x202F || c.toNat = 0x205F || c.toNat = 0x3000

def trimSpace (s : List Char) : List Char :=
  ((s.dropWhile isSpace).reverse.dropWhile isSpace).reverse

def trimPrefix (s pre : List Char) : List Char :=
  if pre.isPrefixOf s then s.drop pre.length else s

/-- The loop of `parseBootCmd` over the options: each is trimmed, and one that starts with
`root=` sets `activeRootPart` to what follows. -/
def scanOptions (activeRootPart : List Char) : List (List Char) → List Char
  | [] => activeRootPart
  | option :: options =>
      let option := trimSpace option
      scanOptions (if kernelRootPrefix.toList.isPrefixOf option then
        trimPrefix option kernelRootPrefix.toList else activeRootPart) options

/-- `parseBootCmd`: the active root partition, from a controller that has none yet. Go's
`strings.Split(data, " ")` is `List.splitOn` on the characters. -/
def parseBootCmd (readFile : String → Except String String) (config : ControllerConfig) :
    Except String String := do
  let data ← readFile config.kernelCmdline
  let activeRootPart := scanOptions [] (data.toList.splitOn ' ')
  if activeRootPart = [] then .error "can't define active root FS"
  else .ok (String.mk activeRootPart)

/-! ### Giving the modules their partitions -/

/-- `getRootFSUpdatePartition`: the first configured root partition that is not the active
one. -/
def getRootFSUpdatePartition (activeRootPart : String) :
    List PartitionInfo → Except String PartitionInfo
  | [] => .error "no root FS update partition found"
  | partition :: partitions =>
      if partition.device ≠ activeRootPart then .ok partition
      else getRootFSUpdatePartition activeRootPart partitions

/-- `getBootloaderUpdatePartition`: the zero partition. -/
def getBootloaderUpdatePartition : Except String PartitionInfo := .ok ⟨"", ""⟩

/-- What `GetModuleByID` returns: a module with `SetPartitionForUpdate`, given by what that
call returns, or a module without it. -/
inductive ProvidedModule
  | fs (setPartitionForUpdate : String → String → Option String)
  | other

/-- A call of `SetPartitionForUpdate` on the module `id`. -/
structure PartitionCall where
  id : String
  device : String
  fsType : String
  deriving DecidableEq, Repr

/-- `initFileSystemUpdateModule`: the calls it made and the error it returned. -/
def initFileSystemUpdateModule (getModuleByID : String → Except String ProvidedModule)
    (id : String) (resourceProvider : Except String PartitionInfo) :
    List PartitionCall × Option String :=
  match getModuleByID id with
  | .error err => ([], some err)
  | .ok .other => ([], some ("module " ++ id ++ " doesn't implement required interface"))
  | .ok (.fs setPartitionForUpdate) =>
      match resourceProvider with
      | .error err => ([], some err)
      | .ok partition =>
          ([⟨id, partition.device, partition.fsType⟩],
            setPartitionForUpdate partition.device partition.fsType)

def initModules (getModuleByID : String → Except String ProvidedModule)
    (config : ControllerConfig) (activeRootPart : String) : List PartitionCall × Option String :=
  let rootfs := initFileSystemUpdateModule getModuleByID rootFSModuleID
    (getRootFSUpdatePartition activeRootPart config.rootPartitions)
  match rootfs.2 with
  | some err => (rootfs.1, some err)
  | none =>
      let bootloader := initFileSystemUpdateModule getModuleByID bootloaderModuleID
        getBootloaderUpdatePartition
      (rootfs.1 ++ bootloader.1, bootloader.2)

/-- `New`: the calls of `SetPartitionForUpdate` it made, and the controller or its error. -/
def new (configJSON : Except String ConfigJson)
    (moduleProvider : Option (String → Except String ProvidedModule))
    (readFile : String → Except String String) : List PartitionCall × Except String Controller :=
  match moduleProvider with
  | none => ([], .error "module provider should not be nil")
  | some getModuleByID =>
      match configJSON with
      | .error err => ([], .error err)
      | .ok json =>
          let config := unmarshalConfig json
          match parseBootCmd readFile config with
          | .error err => ([], .error err)
          | .ok activeRootPart =>
              let init := initModules getModuleByID config activeRootPart
              (init.1, match init.2 with
                | some err => .error err
                | none => .ok ⟨config, activeRootPart⟩)

/-! ### What `parseBootCmd` reads -/

/-- The values of the options that, trimmed, start with `root=`, in order. -/
def rootValues (options : List (List Char)) : List (List Char) :=
  options.filterMap fun option =>
    if kernelRootPrefix.toList.isPrefixOf (trimSpace option) then
      some (trimPrefix (trimSpace option) kernelRootPrefix.toList) else none

private theorem scanOptions_eq (activeRootPart : List Char) (options : List (List Char)) :
    scanOptions activeRootPart options = ((rootValues options).getLast?).getD activeRootPart := by
  induction options generalizing activeRootPart with
  | nil => rfl
  | cons option options ih =>
      by_cases root : kernelRootPrefix.toList.isPrefixOf (trimSpace option)
      · simp only [scanOptions, rootValues, List.filterMap_cons, root, if_true, ih,
          List.getLast?_cons, Option.getD_some]
      · simp only [scanOptions, rootValues, List.filterMap_cons, root, ih]
        rfl

/-- `parseBootCmd` succeeds exactly when the command line could be read and its last `root=`
option has a value, which it returns: a later empty `root=` hides an earlier one. -/
theorem parseBootCmd_ok_iff {readFile : String → Except String String}
    {config : ControllerConfig} {activeRootPart : String} :
    parseBootCmd readFile config = .ok activeRootPart ↔
      ∃ data, readFile config.kernelCmdline = .ok data ∧
        (rootValues (data.toList.splitOn ' ')).getLast? = some activeRootPart.toList ∧
        activeRootPart ≠ "" := by
  unfold parseBootCmd
  cases read : readFile config.kernelCmdline with
  | error err => simp [bind, Except.bind]
  | ok data =>
      simp only [bind, Except.bind, scanOptions_eq, Except.ok.injEq, exists_eq_left']
      cases (rootValues (data.toList.splitOn ' ')).getLast? with
      | none => simp
      | some value =>
          simp only [Option.getD_some, Option.some.injEq]
          by_cases empty : value = []
          · subst empty
            exact iff_of_false nofun fun ⟨same, named⟩ => named (String.ext same.symm)
          · rw [if_neg empty, Except.ok.injEq]
            constructor
            · rintro rfl
              exact ⟨rfl, fun same => empty (congrArg String.data same)⟩
            · rintro ⟨rfl, -⟩
              rfl

/-! ### A command line of options joined by spaces -/

private theorem intercalate_go_toList (acc : String) (options : List String) :
    (String.intercalate.go acc " " options).toList =
      acc.toList ++ (options.map fun option => ' ' :: option.toList).flatten := by
  induction options generalizing acc with
  | nil => simp [String.intercalate.go]
  | cons option options ih =>
      simp only [String.intercalate.go, ih, List.map_cons, List.flatten_cons]
      simp [String.toList]

private theorem splitOn_join {field : List Char} {fields : List (List Char)}
    (spaceless : ∀ each ∈ field :: fields, ' ' ∉ each) :
    (field ++ (fields.map fun each => ' ' :: each).flatten).splitOn ' ' = field :: fields := by
  have noSpace : ∀ x ∈ field, ¬(x == ' ') = true := fun x inside same =>
    spaceless field (List.mem_cons_self _ _) (beq_iff_eq.mp same ▸ inside)
  induction fields generalizing field with
  | nil =>
      simpa [List.splitOn] using List.splitOnP_eq_single _ _ noSpace
  | cons next fields ih =>
      rw [List.map_cons, List.flatten_cons, List.cons_append, List.splitOn,
        List.splitOnP_first _ _ noSpace ' ' (beq_self_eq_true ' ')]
      exact congrArg (field :: ·) (ih (fun each member => spaceless each (List.mem_cons_of_mem _ member))
        fun x inside same => spaceless next (by simp) (beq_iff_eq.mp same ▸ inside))

private theorem rootValues_join {options : List String}
    (spaceless : ∀ option ∈ options, ' ' ∉ option.toList) :
    rootValues ((" ".intercalate options).toList.splitOn ' ') =
      rootValues (options.map String.toList) := by
  cases options with
  | nil => rfl
  | cons option options =>
      have spread : (options.map fun option => ' ' :: option.toList) =
          (options.map String.toList).map fun each => ' ' :: each := (List.map_map _ _ _).symm
      rw [String.intercalate, intercalate_go_toList, spread, splitOn_join]
      · rfl
      · simpa using spaceless

/-- On a command line of options joined by single spaces, none of which holds a space,
`parseBootCmd` returns the value of the last option that, trimmed, starts with `root=`, when
that value is not empty, and fails otherwise. -/
theorem parseBootCmd_join {readFile : String → Except String String} {config : ControllerConfig}
    {options : List String} (read : readFile config.kernelCmdline = .ok (" ".intercalate options))
    (spaceless : ∀ option ∈ options, ' ' ∉ option.toList) {activeRootPart : String} :
    parseBootCmd readFile config = .ok activeRootPart ↔
      (rootValues (options.map String.toList)).getLast? = some activeRootPart.toList ∧
        activeRootPart ≠ "" := by
  rw [parseBootCmd_ok_iff, ← rootValues_join spaceless]
  constructor
  · rintro ⟨data, same, found⟩
    rw [read, Except.ok.injEq] at same
    subst same
    exact found
  · exact fun found => ⟨_, read, found⟩

theorem parseBootCmd_sample :
    parseBootCmd (fun _ => .ok (" ".intercalate ["ro", "root=/dev/sda2"])) ⟨"/proc/cmdline", []⟩ =
      .ok "/dev/sda2" :=
  (parseBootCmd_join rfl (by decide)).mpr ⟨by decide, by decide⟩

/-! ### The partitions `New` gives the modules -/

private theorem getRootFSUpdatePartition_ok_iff {activeRootPart : String} {partition : PartitionInfo} :
    ∀ {partitions : List PartitionInfo},
      getRootFSUpdatePartition activeRootPart partitions = .ok partition ↔
        ∃ before after, partitions = before ++ partition :: after ∧
          (∀ other ∈ before, other.device = activeRootPart) ∧ partition.device ≠ activeRootPart
  | [] => by simp [getRootFSUpdatePartition]
  | first :: rest => by
      by_cases active : first.device = activeRootPart
      · rw [getRootFSUpdatePartition, if_neg (not_not.mpr active), getRootFSUpdatePartition_ok_iff]
        constructor
        · rintro ⟨before, after, rfl, earlier, fresh⟩
          refine ⟨first :: before, after, rfl, fun other member => ?_, fresh⟩
          rcases List.mem_cons.mp member with rfl | inner
          exacts [active, earlier other inner]
        · rintro ⟨_ | ⟨head, before⟩, after, same, earlier, fresh⟩
          · cases same
            exact absurd active fresh
          · cases same
            exact ⟨before, after, rfl, fun other member => earlier other (List.mem_cons_of_mem _ member),
              fresh⟩
      · rw [getRootFSUpdatePartition, if_pos active, Except.ok.injEq]
        constructor
        · rintro rfl
          exact ⟨[], rest, rfl, nofun, active⟩
        · rintro ⟨_ | ⟨head, before⟩, after, same, earlier, -⟩
          · cases same
            rfl
          · cases same
            exact absurd (earlier first (List.mem_cons_self _ _)) active

section Modules

variable {getModuleByID : String → Except String ProvidedModule} {id : String}
  {resourceProvider : Except String PartitionInfo}

private theorem initFileSystemUpdateModule_calls {call : PartitionCall}
    (member : call ∈ (initFileSystemUpdateModule getModuleByID id resourceProvider).1) :
    ∃ partition, resourceProvider = .ok partition ∧ call = ⟨id, partition.device, partition.fsType⟩ := by
  unfold initFileSystemUpdateModule at member
  cases resourceProvider with
  | error err => split at member <;> cases member
  | ok partition =>
      split at member
      · cases member
      · cases member
      · exact ⟨partition, rfl, List.mem_singleton.mp member⟩

private theorem initFileSystemUpdateModule_ok
    (ok : (initFileSystemUpdateModule getModuleByID id resourceProvider).2 = none) :
    ∃ partition, resourceProvider = .ok partition ∧
      (initFileSystemUpdateModule getModuleByID id resourceProvider).1 =
        [⟨id, partition.device, partition.fsType⟩] := by
  unfold initFileSystemUpdateModule at ok ⊢
  cases resourceProvider with
  | error err => split at ok <;> cases ok
  | ok partition =>
      refine ⟨partition, rfl, ?_⟩
      split
      · rename_i found
        simp [found] at ok
      · rename_i found
        simp [found] at ok
      · rfl

variable {config : ControllerConfig} {activeRootPart : String}

private theorem initModules_calls {call : PartitionCall}
    (member : call ∈ (initModules getModuleByID config activeRootPart).1) :
    (∃ partition, getRootFSUpdatePartition activeRootPart config.rootPartitions = .ok partition ∧
        call = ⟨rootFSModuleID, partition.device, partition.fsType⟩) ∨
      call = ⟨bootloaderModuleID, "", ""⟩ := by
  dsimp only [initModules] at member
  split at member
  · exact .inl (initFileSystemUpdateModule_calls member)
  · rcases List.mem_append.mp member with rootfs | bootloader
    · exact .inl (initFileSystemUpdateModule_calls rootfs)
    · obtain ⟨partition, provided, rfl⟩ := initFileSystemUpdateModule_calls bootloader
      cases provided
      exact .inr rfl

private theorem initModules_ok (ok : (initModules getModuleByID config activeRootPart).2 = none) :
    ∃ partition, getRootFSUpdatePartition activeRootPart config.rootPartitions = .ok partition ∧
      (initModules getModuleByID config activeRootPart).1 =
        [⟨rootFSModuleID, partition.device, partition.fsType⟩, ⟨bootloaderModuleID, "", ""⟩] := by
  dsimp only [initModules] at ok ⊢
  split at ok
  · cases ok
  · rename_i rootfsOk
    obtain ⟨partition, provided, rootfs⟩ := initFileSystemUpdateModule_ok rootfsOk
    obtain ⟨_, bootloaderProvided, bootloader⟩ := initFileSystemUpdateModule_ok ok
    cases bootloaderProvided
    refine ⟨partition, provided, ?_⟩
    simp only [rootfsOk, rootfs, bootloader]
    rfl

end Modules

/-- `New` returns a controller only when the module provider is set, the configuration was
decoded and the active root partition read from the last `root=` option of the command line;
it has then given `rootfs` the first configured root partition other than the active one and
`bootloader` an empty device and type, one call each. -/
theorem new_gives_partitions {configJSON : Except String ConfigJson}
    {moduleProvider : Option (String → Except String ProvidedModule)}
    {readFile : String → Except String String} {calls : List PartitionCall} {controller : Controller}
    (created : new configJSON moduleProvider readFile = (calls, .ok controller)) :
    moduleProvider.isSome ∧ (∃ json, configJSON = .ok json ∧ controller.config = unmarshalConfig json) ∧
      parseBootCmd readFile controller.config = .ok controller.activeRootPart ∧
      ∃ before partition after, controller.config.rootPartitions = before ++ partition :: after ∧
        (∀ other ∈ before, other.device = controller.activeRootPart) ∧
        partition.device ≠ controller.activeRootPart ∧
        calls = [⟨rootFSModuleID, partition.device, partition.fsType⟩, ⟨bootloaderModuleID, "", ""⟩] := by
  unfold new at created
  cases moduleProvider with
  | none => simp at created
  | some getModuleByID =>
      cases configJSON with
      | error err => simp at created
      | ok json =>
          dsimp only at created
          cases parsed : parseBootCmd readFile (unmarshalConfig json) with
          | error err => simp [parsed] at created
          | ok activeRootPart =>
              cases initialized : (initModules getModuleByID (unmarshalConfig json) activeRootPart).2 with
              | some err => simp [parsed, initialized] at created
              | none =>
                  simp only [parsed, initialized, Prod.mk.injEq] at created
                  obtain ⟨rfl, created⟩ := created
                  cases created
                  obtain ⟨partition, provided, calls⟩ := initModules_ok initialized
                  obtain ⟨before, after, split, earlier, fresh⟩ :=
                    getRootFSUpdatePartition_ok_iff.mp provided
                  exact ⟨rfl, ⟨json, rfl, rfl⟩, parsed, before, partition, after, split, earlier, fresh,
                    calls⟩

/-- Whatever `New` returns, the only partitions it asked `rootfs` to write are configured root
partitions whose device is not the active root partition it read from the command line. -/
theorem new_rootfs_inactive {configJSON : Except String ConfigJson}
    {moduleProvider : Option (String → Except String ProvidedModule)}
    {readFile : String → Except String String} {call : PartitionCall}
    (member : call ∈ (new configJSON moduleProvider readFile).1) (rootfs : call.id = rootFSModuleID) :
    ∃ json activeRootPart, configJSON = .ok json ∧
      parseBootCmd readFile (unmarshalConfig json) = .ok activeRootPart ∧
      (⟨call.device, call.fsType⟩ : PartitionInfo) ∈ (unmarshalConfig json).rootPartitions ∧
      call.device ≠ activeRootPart := by
  unfold new at member
  cases moduleProvider with
  | none => cases member
  | some getModuleByID =>
      cases configJSON with
      | error err => cases member
      | ok json =>
          dsimp only at member
          cases parsed : parseBootCmd readFile (unmarshalConfig json) with
          | error err => simp [parsed] at member
          | ok activeRootPart =>
              simp only [parsed] at member
              refine ⟨json, activeRootPart, rfl, parsed, ?_⟩
              rcases initModules_calls member with ⟨partition, provided, rfl⟩ | rfl
              · obtain ⟨before, after, split, -, fresh⟩ := getRootFSUpdatePartition_ok_iff.mp provided
                refine ⟨?_, fresh⟩
                rw [split]
                exact List.mem_append_right _ (List.mem_cons_self _ _)
              · exact absurd rootfs (by decide)

def twoPartitions : ConfigJson := ⟨none, some [⟨"/dev/sda1", "ext4"⟩, ⟨"/dev/sda2", "ext4"⟩]⟩

def acceptingProvider : String → Except String ProvidedModule := fun _ => .ok (.fs fun _ _ => none)

def bootCmdline : String → Except String String := fun _ => .ok "console=ttyS0 root=/dev/sda1 ro\n"

theorem new_two_partitions :
    new (.ok twoPartitions) (some acceptingProvider) bootCmdline =
        ([⟨"rootfs", "/dev/sda2", "ext4"⟩, ⟨"bootloader", "", ""⟩],
          .ok ⟨unmarshalConfig twoPartitions, "/dev/sda1"⟩) ∧
      parseBootCmd bootCmdline (unmarshalConfig twoPartitions) = .ok "/dev/sda1" :=
  have created : new (.ok twoPartitions) (some acceptingProvider) bootCmdline =
      ([⟨"rootfs", "/dev/sda2", "ext4"⟩, ⟨"bootloader", "", ""⟩],
        .ok ⟨unmarshalConfig twoPartitions, "/dev/sda1"⟩) := rfl
  ⟨created, (new_gives_partitions created).2.2.1⟩

theorem two_partitions_rootfs_inactive :
    ∃ json activeRootPart, (.ok twoPartitions : Except String ConfigJson) = .ok json ∧
      parseBootCmd bootCmdline (unmarshalConfig json) = .ok activeRootPart ∧
      (⟨"/dev/sda2", "ext4"⟩ : PartitionInfo) ∈ (unmarshalConfig json).rootPartitions ∧
      "/dev/sda2" ≠ activeRootPart :=
  new_rootfs_inactive (show (⟨"rootfs", "/dev/sda2", "ext4"⟩ : PartitionCall) ∈
    (new (.ok twoPartitions) (some acceptingProvider) bootCmdline).1 by decide) rfl

end UpdateManager.StateController
