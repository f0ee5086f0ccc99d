import UpdateManager.Efi.DevicePath
import Mathlib.Data.List.Sort

set_option autoImplicit false

/-!
# The boot entries of an `efi.Instance`

`New`, `readBootItems` and `readBootItem` (`src/unnamed/part_000`, lines 310-695) read the
boot entries once; `GetBootActive`, `SetBootActive` and `GetBootByPartUUID` work on the copies
in memory. A load option's first four bytes are its `Attributes`; where `efi_loadopt_path`
finds the device path is the parameter `loadoptPath`. Over every run of the writing calls the
copies agree with the variables (`boot_items_synced`).
-/

namespace UpdateManager.Efi

/-! ### Load options -/

/-- `loadOptionActive`, `LOAD_OPTION_ACTIVE`. -/
def loadOptionActive : UInt32 := 0x00000001

/-- `efi_loadopt_attrs`: the `Attributes` field, the first four bytes of the option. -/
def loadoptAttrs (data : List UInt8) : UInt32 := uint32 (data.take 4)

/-- The option with its `Attributes` replaced, copied back with the option's length. -/
def loadoptWithAttrs (data : List UInt8) (attrs : UInt32) : List UInt8 :=
  (putLittleEndian 4 attrs.toNat ++ data.drop 4).take data.length

def loadoptAttrSet (data : List UInt8) (attr : UInt32) : List UInt8 :=
  loadoptWithAttrs data (loadoptAttrs data ||| attr)

def loadoptAttrClear (data : List UInt8) (attr : UInt32) : List UInt8 :=
  loadoptWithAttrs data (loadoptAttrs data &&& ~~~attr)

def isActive (data : List UInt8) : Bool := loadoptAttrs data &&& loadOptionActive != 0

/-- The option `SetBootActive` writes to make an entry active or inactive. -/
def activeOption (data : List UInt8) (active : Bool) : List UInt8 :=
  if active then loadoptAttrSet data loadOptionActive else loadoptAttrClear data loadOptionActive

private theorem uint32_putLittleEndian (value : UInt32) : uint32 (putLittleEndian 4 value.toNat) = value := by
  have fits : value.toNat < 256 ^ 4 := value.toNat_lt_size
  apply UInt32.toNat.inj
  rw [uint32, littleEndian_putLittleEndian, Nat.mod_eq_of_lt fits]
  exact UInt32.toNat_ofNat_of_lt fits

/-! The active bit, on the bits of `BitVec 32` under `UInt32`. -/

private theorem or_active (attrs : UInt32) :
    (attrs ||| loadOptionActive) &&& loadOptionActive = loadOptionActive := by
  apply UInt32.eq_of_toBitVec_eq
  show (attrs.toBitVec ||| 1#32) &&& 1#32 = 1#32
  ext i
  simp
  exact fun zero => .inr zero

private theorem and_not_active (attrs : UInt32) : (attrs &&& ~~~loadOptionActive) &&& loadOptionActive = 0 := by
  apply UInt32.eq_of_toBitVec_eq
  show (attrs.toBitVec &&& ~~~1#32) &&& 1#32 = 0#32
  rw [BitVec.and_assoc, show ~~~1#32 &&& 1#32 = 0#32 by decide, BitVec.and_zero]

private theorem or_active_others (attrs : UInt32) :
    (attrs ||| loadOptionActive) &&& ~~~loadOptionActive = attrs &&& ~~~loadOptionActive := by
  apply UInt32.eq_of_toBitVec_eq
  show (attrs.toBitVec ||| 1#32) &&& ~~~1#32 = attrs.toBitVec &&& ~~~1#32
  ext i
  by_cases zero : (i : Nat) = 0 <;> simp [zero]

private theorem and_not_active_others (attrs : UInt32) :
    (attrs &&& ~~~loadOptionActive) &&& ~~~loadOptionActive = attrs &&& ~~~loadOptionActive := by
  apply UInt32.eq_of_toBitVec_eq
  show (attrs.toBitVec &&& ~~~1#32) &&& ~~~1#32 = attrs.toBitVec &&& ~~~1#32
  rw [BitVec.and_assoc, BitVec.and_self]

section LoadOption

variable {data : List UInt8}

private theorem loadoptWithAttrs_eq (long : 4 ≤ data.length) (attrs : UInt32) :
    loadoptWithAttrs data attrs = putLittleEndian 4 attrs.toNat ++ data.drop 4 :=
  List.take_of_length_le (by simp; omega)

private theorem loadoptAttrs_withAttrs (long : 4 ≤ data.length) (attrs : UInt32) :
    loadoptAttrs (loadoptWithAttrs data attrs) = attrs := by
  rw [loadoptAttrs, loadoptWithAttrs_eq long, List.take_left' (length_putLittleEndian 4 _)]
  exact uint32_putLittleEndian attrs

private theorem drop_loadoptWithAttrs (long : 4 ≤ data.length) (attrs : UInt32) :
    (loadoptWithAttrs data attrs).drop 4 = data.drop 4 := by
  rw [loadoptWithAttrs_eq long, List.drop_left' (length_putLittleEndian 4 _)]

private theorem length_loadoptWithAttrs (long : 4 ≤ data.length) (attrs : UInt32) :
    (loadoptWithAttrs data attrs).length = data.length := by
  rw [loadoptWithAttrs_eq long, List.length_append, length_putLittleEndian, List.length_drop]
  omega

variable (long : 4 ≤ data.length) (active : Bool)
include long

private theorem isActive_activeOption : isActive (activeOption data active) = active := by
  cases active
  · rw [activeOption, if_neg Bool.false_ne_true, loadoptAttrClear, isActive,
      loadoptAttrs_withAttrs long, and_not_active]
    rfl
  · rw [activeOption, if_pos rfl, loadoptAttrSet, isActive, loadoptAttrs_withAttrs long, or_active]
    rfl

private theorem others_activeOption :
    loadoptAttrs (activeOption data active) &&& ~~~loadOptionActive =
      loadoptAttrs data &&& ~~~loadOptionActive := by
  cases active
  · rw [activeOption, if_neg Bool.false_ne_true, loadoptAttrClear, loadoptAttrs_withAttrs long,
      and_not_active_others]
  · rw [activeOption, if_pos rfl, loadoptAttrSet, loadoptAttrs_withAttrs long, or_active_others]

private theorem drop_activeOption : (activeOption data active).drop 4 = data.drop 4 := by
  cases active <;> exact drop_loadoptWithAttrs long _

private theorem length_activeOption : (activeOption data active).length = data.length := by
  cases active <;> exact length_loadoptWithAttrs long _

end LoadOption

/-! ### Boot entries -/

/-- `bootItem` without `attributes`, which the variable store of this model does not keep,
and `description`, which nothing reads. -/
structure BootItem where
  id : UInt16
  name : String
  data : List UInt8
  deriving DecidableEq, Repr

structure Instance where
  bootItems : List BootItem
  deriving DecidableEq, Repr

def isXDigit (c : Char) : Bool :=
  ('0' ≤ c && c ≤ '9') || ('a' ≤ c && c ≤ 'f') || ('A' ≤ c && c ≤ 'F')

/-- The value of a hexadecimal digit. -/
def xdigitValue (c : Char) : Nat :=
  if c ≤ '9' then c.toNat - '0'.toNat
  else if c ≤ 'F' then c.toNat - 'A'.toNat + 10
  else c.toNat - 'a'.toNat + 10

/-- `bootItemNamePattern`, `^Boot[[:xdigit:]]{4}$`. -/
def matchBootItemName (name : String) : Bool :=
  match name.toList with
  | ['B', 'o', 'o', 't', a, b, c, d] => isXDigit a && isXDigit b && isXDigit c && isXDigit d
  | _ => false

/-- `regexp.MustCompile(bootItemIDPattern).FindString(name)`: `[[:xdigit:]]{4}$` can match
only the last four characters. -/
def findBootItemId (name : String) : List Char :=
  let last := name.toList.drop (name.length - 4)
  if 4 ≤ name.length ∧ last.all isXDigit then last else []

def parseUint16Hex (digits : List Char) : Except String UInt16 :=
  if digits = [] ∨ digits.any (fun c => !isXDigit c) then
    .error ("strconv.ParseUint: parsing \"" ++ String.mk digits ++ "\": invalid syntax")
  else
    let value := digits.foldl (fun value digit => 16 * value + xdigitValue digit) 0
    if value < 2 ^ 16 then .ok (UInt16.ofNat value)
    else .error ("strconv.ParseUint: parsing \"" ++ String.mk digits ++ "\": value out of range")

def readBootItem (vars : String → Option (List UInt8)) (fault : Option String) (name : String) :
    Except String BootItem := do
  let id ← parseUint16Hex (findBootItemId name)
  let data ← readVar vars fault name
  pure ⟨id, name, data⟩

/-- `readBootItems` over the names `efi_get_next_variable_name` yields, with `faults` the
platform's errors on reading each variable. `sort.Slice` leaves the order of equal ids open;
the model keeps the order of the names. -/
def readBootItems (vars : String → Option (List UInt8)) (faults : String → Option String)
    (names : List String) : List BootItem :=
  ((names.filter matchBootItemName).filterMap fun name =>
    (readBootItem vars (faults name) name).toOption).insertionSort fun first second =>
      first.id ≤ second.id

/-- `New`; `supported` is what `efi_variables_supported` returns. -/
def new (supported : Bool) (vars : String → Option (List UInt8)) (faults : String → Option String)
    (names : List String) : Except String Instance :=
  if supported then .ok ⟨readBootItems vars faults names⟩
  else .error "EFI variables are not supported on this system"

def getBootActive (efi : Instance) (id : UInt16) : Except String Bool :=
  match efi.bootItems.find? fun item => item.id == id with
  | some item => .ok (isActive item.data)
  | none => .error errNotFound

/-- The loop of `SetBootActive`: the variable is written first, and the copy of the entry
changes only when the write succeeds. -/
def setBootActiveLoop (vars : String → Option (List UInt8)) (fault : Option String) (id : UInt16)
    (active : Bool) : List BootItem → List BootItem × (String → Option (List UInt8)) × Option String
  | [] => ([], vars, some errNotFound)
  | item :: items =>
      if item.id = id then
        if active = isActive item.data then (item :: items, vars, none)
        else
          let data := activeOption item.data active
          match writeVar vars fault item.name data with
          | (vars, some err) => (item :: items, vars, some err)
          | (vars, none) => ({ item with data } :: items, vars, none)
      else
        let rest := setBootActiveLoop vars fault id active items
        (item :: rest.1, rest.2)

def setBootActive (efi : Instance) (vars : String → Option (List UInt8))
    (fault : Option String) (id : UInt16) (active : Bool) :
    Instance × (String → Option (List UInt8)) × Option String :=
  let done := setBootActiveLoop vars fault id active efi.bootItems
  (⟨done.1⟩, done.2)

/-- `deleteVar`: `efi_del_variable` fails with the platform's error `fault`, or with `ENOENT`
when the variable does not exist. -/
def deleteVar (vars : String → Option (List UInt8)) (fault : Option String) (name : String) :
    (String → Option (List UInt8)) × Option String :=
  match fault, vars name with
  | some message, _ => (vars, some message)
  | none, none => (vars, some errNotFound)
  | none, some _ => (Function.update vars name none, none)

def deleteBootNext (vars : String → Option (List UInt8)) (fault : Option String) :
    (String → Option (List UInt8)) × Option String :=
  deleteVar vars fault efiBootNextName

def deleteBootOrder (vars : String → Option (List UInt8)) (fault : Option String) :
    (String → Option (List UInt8)) × Option String :=
  deleteVar vars fault efiBootOrderName

/-! ### `GetBootByPartUUID` -/

def hdSignatureGUID : UInt8 := 2

/-- The UUID `uuid.Parse` reads from what `efi_guid_to_str` prints of a GUID signature: the
first three fields of an `efi_guid_t` are little-endian, the printed digits big-endian. -/
def guidToUUID (signature : List UInt8) : List UInt8 :=
  (signature.take 4).reverse ++ ((signature.drop 4).take 2).reverse ++
    ((signature.drop 6).take 2).reverse ++ signature.drop 8

/-- Whether an entry of `parseDP` is a GPT partition with the UUID `partUUID`. -/
def namesPartition (partUUID : List UInt8) : Option HdData → Bool
  | some hd => hd.signatureType == hdSignatureGUID && guidToUUID hd.signature == partUUID
  | none => false

/-- The loop of `GetBootByPartUUID`. `C.GoBytes` never returns `nil`, so no entry is skipped
as one without data. -/
def getBootByPartUUIDLoop (loadoptPath : List UInt8 → List UInt8) (partUUID : List UInt8) :
    List BootItem → Except String UInt16
  | [] => .error errNotFound
  | item :: items =>
      match parseDP [] (loadoptPath item.data) with
      | .error err => .error err
      | .ok dps =>
          if dps.any (namesPartition partUUID) then .ok item.id
          else getBootByPartUUIDLoop loadoptPath partUUID items

def getBootByPartUUID (efi : Instance) (loadoptPath : List UInt8 → List UInt8)
    (partUUID : List UInt8) : Except String UInt16 :=
  getBootByPartUUIDLoop loadoptPath partUUID efi.bootItems

/-! ### What `SetBootActive` does -/

private theorem find?_id_append {id : UInt16} {before after : List BootItem} {item : BootItem}
    (others : ∀ other ∈ before, other.id ≠ id) (hit : item.id = id) :
    (before ++ item :: after).find? (fun item => item.id == id) = some item := by
  rw [List.find?_append, List.find?_eq_none.mpr fun other mem => by simpa using others other mem]
  simp [hit]

section SetBootActive

variable {vars : String → Option (List UInt8)} {fault : Option String} {id : UInt16}
  {active : Bool}

private theorem setBootActiveLoop_missing : ∀ {items : List BootItem}, (∀ item ∈ items, item.id ≠ id) →
    setBootActiveLoop vars fault id active items = (items, vars, some errNotFound)
  | [], _ => rfl
  | item :: items, missing => by
      rw [setBootActiveLoop, if_neg (missing item (.head _)),
        setBootActiveLoop_missing fun other mem => missing other (.tail _ mem)]

private theorem setBootActiveLoop_append : ∀ (before : List BootItem), (∀ item ∈ before, item.id ≠ id) →
    ∀ items, setBootActiveLoop vars fault id active (before ++ items) =
      (before ++ (setBootActiveLoop vars fault id active items).1,
        (setBootActiveLoop vars fault id active items).2)
  | [], _, _ => rfl
  | item :: before, others, items => by
      rw [List.cons_append, setBootActiveLoop, if_neg (others item (.head _)),
        setBootActiveLoop_append before (fun other mem => others other (.tail _ mem))]
      rfl

private theorem setBootActive_cases (efi : Instance) :
    ((∀ item ∈ efi.bootItems, item.id ≠ id) ∧
      setBootActive efi vars fault id active = (efi, vars, some errNotFound)) ∨
    ∃ before item after, efi.bootItems = before ++ item :: after ∧
      (∀ other ∈ before, other.id ≠ id) ∧ item.id = id ∧
      ((active = isActive item.data ∧ setBootActive efi vars fault id active = (efi, vars, none)) ∨
        (active ≠ isActive item.data ∧ ∃ err, fault = some err ∧
          setBootActive efi vars fault id active = (efi, vars, some err)) ∨
        (active ≠ isActive item.data ∧ fault = none ∧
          setBootActive efi vars fault id active =
            (⟨before ++ { item with data := activeOption item.data active } :: after⟩,
              Function.update vars item.name (some (activeOption item.data active)), none))) := by
  rcases found : efi.bootItems.find? (fun item => item.id == id) with _ | item
  · have missing : ∀ item ∈ efi.bootItems, item.id ≠ id := fun item mem same =>
      List.find?_eq_none.mp found item mem (by simpa using same)
    refine .inl ⟨missing, ?_⟩
    rw [setBootActive, setBootActiveLoop_missing missing]
  · obtain ⟨hit, before, after, split, others⟩ := List.find?_eq_some.mp found
    have others : ∀ other ∈ before, other.id ≠ id := fun other mem same => by
      simpa [same] using others other mem
    have hit : item.id = id := by simpa using hit
    refine .inr ⟨before, item, after, split, others, hit, ?_⟩
    obtain ⟨items⟩ := efi
    subst split
    rw [setBootActive, setBootActiveLoop_append before others, setBootActiveLoop, if_pos hit]
    by_cases same : active = isActive item.data
    · exact .inl ⟨same, by rw [if_pos same]⟩
    · rw [if_neg same]
      cases fault with
      | some err => exact .inr (.inl ⟨same, err, rfl, rfl⟩)
      | none => exact .inr (.inr ⟨same, rfl, rfl⟩)

end SetBootActive

private theorem getBootActive_missing {efi : Instance} {id : UInt16}
    (missing : ∀ item ∈ efi.bootItems, item.id ≠ id) : getBootActive efi id = .error errNotFound := by
  rw [getBootActive, List.find?_eq_none.mpr fun item mem same => missing item mem (by simpa using same)]

private theorem getBootActive_append {id : UInt16} {before after : List BootItem} {item : BootItem}
    (others : ∀ other ∈ before, other.id ≠ id) (hit : item.id = id) :
    getBootActive ⟨before ++ item :: after⟩ id = .ok (isActive item.data) := by
  rw [getBootActive, find?_id_append others hit]

/-- `SetBootActive` succeeds exactly when the id is known and the entry already has the state
asked for or the platform raises no error, and `GetBootActive` then returns that state. A
failed call changes neither the instance nor the variables; a successful one changes only the
variable of the first entry with the id, and in it only the active bit. -/
theorem setBootActive_spec {efi : Instance} {vars : String → Option (List UInt8)}
    {fault : Option String} {id : UInt16} {active : Bool}
    (long : ∀ item ∈ efi.bootItems, 4 ≤ item.data.length) :
    ((setBootActive efi vars fault id active).2.2 = none ↔
      ∃ current, getBootActive efi id = .ok current ∧ (current = active ∨ fault = none)) ∧
    ((setBootActive efi vars fault id active).2.2 = none →
      getBootActive (setBootActive efi vars fault id active).1 id = .ok active) ∧
    ((setBootActive efi vars fault id active).2.2 ≠ none →
      (setBootActive efi vars fault id active).1 = efi ∧
        (setBootActive efi vars fault id active).2.1 = vars) ∧
    ∀ name, (setBootActive efi vars fault id active).2.1 name ≠ vars name →
      ∃ item ∈ efi.bootItems, item.id = id ∧ item.name = name ∧ ∃ data,
        (setBootActive efi vars fault id active).2.1 name = some data ∧
        data.drop 4 = item.data.drop 4 ∧
        loadoptAttrs data &&& ~~~loadOptionActive = loadoptAttrs item.data &&& ~~~loadOptionActive := by
  obtain ⟨items⟩ := efi
  rcases @setBootActive_cases vars fault id active ⟨items⟩ with
    ⟨missing, done⟩ | ⟨before, item, after, split, others, hit, cases⟩
  · rw [done]
    exact ⟨by simp [getBootActive_missing missing], nofun, fun _ => ⟨rfl, rfl⟩,
      fun _ changed => absurd rfl changed⟩
  · simp only at split
    subst split
    have found := @getBootActive_append id before after item others hit
    have inside : item ∈ before ++ item :: after := List.mem_append_right _ (.head _)
    rcases cases with ⟨same, done⟩ | ⟨same, err, rfl, done⟩ | ⟨same, rfl, done⟩ <;> rw [done]
    · exact ⟨iff_of_true rfl ⟨_, found, .inl same.symm⟩, fun _ => same ▸ found,
        fun failed => absurd rfl failed, fun _ changed => absurd rfl changed⟩
    · refine ⟨iff_of_false nofun ?_, nofun, fun _ => ⟨rfl, rfl⟩, fun _ changed => absurd rfl changed⟩
      rintro ⟨current, read, same' | absurd⟩
      · rw [found] at read
        cases read
        exact same same'.symm
      · cases absurd
    · refine ⟨iff_of_true rfl ⟨_, found, .inr rfl⟩, fun _ => ?_, fun failed => absurd rfl failed, ?_⟩
      · rw [@getBootActive_append id before after { item with data := activeOption item.data active }
          others hit, isActive_activeOption (long item inside)]
      · intro name changed
        by_cases mine : name = item.name
        · subst mine
          exact ⟨item, inside, hit, rfl, _, Function.update_same _ _ _,
            drop_activeOption (long item inside) active, others_activeOption (long item inside) active⟩
        · exact absurd (Function.update_noteq mine _ _) changed

/-- An active entry made inactive reads back inactive. -/
theorem one_entry_deactivated :
    getBootActive (setBootActive ⟨[⟨1, "Boot0001", [1, 0, 0, 0, 0, 0]⟩]⟩ (fun _ => none) none 1
      false).1 1 = .ok false :=
  (setBootActive_spec (show ∀ item ∈ [(⟨1, "Boot0001", [1, 0, 0, 0, 0, 0]⟩ : BootItem)],
    4 ≤ item.data.length by decide)).2.1 rfl

/-! ### What `readBootItems` keeps -/

private theorem xdigitValue_lt {c : Char} (hex : isXDigit c = true) : xdigitValue c < 16 := by
  have le : ∀ a b : Char, a ≤ b ↔ a.toNat ≤ b.toNat := fun _ _ => Iff.rfl
  simp only [isXDigit, xdigitValue, Bool.or_eq_true, Bool.and_eq_true, decide_eq_true_eq, le]
    at hex ⊢
  have bounds : '0'.toNat = 48 ∧ '9'.toNat = 57 ∧ 'a'.toNat = 97 ∧ 'f'.toNat = 102 ∧
      'A'.toNat = 65 ∧ 'F'.toNat = 70 := ⟨rfl, rfl, rfl, rfl, rfl, rfl⟩
  split_ifs <;> omega

private theorem parseUint16Hex_four {a b c d : Char} (hex : [a, b, c, d].all isXDigit = true) :
    parseUint16Hex [a, b, c, d] = .ok (UInt16.ofNat
      (16 * (16 * (16 * xdigitValue a + xdigitValue b) + xdigitValue c) + xdigitValue d)) := by
  simp only [List.all_cons, List.all_nil, Bool.and_true, Bool.and_eq_true] at hex
  obtain ⟨ha, hb, hc, hd⟩ := hex
  have small := And.intro (And.intro (xdigitValue_lt ha) (xdigitValue_lt hb))
    (And.intro (xdigitValue_lt hc) (xdigitValue_lt hd))
  rw [parseUint16Hex, if_neg (by simp [ha, hb, hc, hd])]
  simp only [List.foldl_cons, List.foldl_nil, Nat.mul_zero, Nat.zero_add]
  rw [if_pos (by omega)]

private theorem findBootItemId_of_match {name : String} (matched : matchBootItemName name = true) :
    ∃ a b c d, findBootItemId name = [a, b, c, d] ∧ [a, b, c, d].all isXDigit = true := by
  unfold matchBootItemName at matched
  split at matched
  · rename_i a b c d chars
    have long : name.length = 8 := by
      show name.toList.length = 8
      rw [chars]
      rfl
    have hex : [a, b, c, d].all isXDigit = true := by simpa [Bool.and_assoc] using matched
    refine ⟨a, b, c, d, ?_, hex⟩
    rw [findBootItemId, long, chars, if_pos ⟨by decide, hex⟩]
    rfl
  · cases matched

private theorem readVar_ok {vars : String → Option (List UInt8)} {fault : Option String} {name : String}
    {data : List UInt8} (read : readVar vars fault name = .ok data) : vars name = some data := by
  unfold readVar at read
  split at read <;> cases read
  assumption

private theorem readBootItem_eq_ok_iff {vars : String → Option (List UInt8)} {fault : Option String}
    {name : String} {item : BootItem} :
    readBootItem vars fault name = .ok item ↔ item.name = name ∧
      readVar vars fault name = .ok item.data ∧ parseUint16Hex (findBootItemId name) = .ok item.id := by
  constructor
  · intro read
    obtain ⟨id, parsed, rest⟩ := bind_eq_ok read
    obtain ⟨data, got, done⟩ := bind_eq_ok rest
    cases done
    exact ⟨rfl, got, parsed⟩
  · rintro ⟨rfl, got, parsed⟩
    simp only [readBootItem, parsed, got]
    rfl

/-- `IsTotal` for the order `readBootItems` sorts by. -/
instance bootItemIdTotal : IsTotal BootItem fun first second => first.id ≤ second.id :=
  ⟨fun first second => Nat.le_total first.id.toNat second.id.toNat⟩

/-- `IsTrans` for the order `readBootItems` sorts by. -/
instance bootItemIdTrans : IsTrans BootItem fun first second => first.id ≤ second.id :=
  ⟨fun _ _ _ => Nat.le_trans⟩

private theorem mem_readBootItems_iff {vars : String → Option (List UInt8)}
    {faults : String → Option String} {names : List String} {item : BootItem} :
    item ∈ readBootItems vars faults names ↔ item.name ∈ names ∧
      matchBootItemName item.name = true ∧ readVar vars (faults item.name) item.name = .ok item.data ∧
      parseUint16Hex (findBootItemId item.name) = .ok item.id := by
  rw [readBootItems, (List.perm_insertionSort _ _).mem_iff, List.mem_filterMap]
  constructor
  · rintro ⟨name, inside, read⟩
    rcases same : readBootItem vars (faults name) name with err | item'
    · simp [same, Except.toOption] at read
    · simp only [same, Except.toOption, Option.some.injEq] at read
      subst read
      obtain ⟨rfl, got, parsed⟩ := readBootItem_eq_ok_iff.mp same
      exact ⟨(List.mem_filter.mp inside).1, by simpa using (List.mem_filter.mp inside).2, got, parsed⟩
  · rintro ⟨inside, matched, got, parsed⟩
    refine ⟨item.name, List.mem_filter.mpr ⟨inside, matched⟩, ?_⟩
    rw [readBootItem_eq_ok_iff.mpr ⟨rfl, got, parsed⟩]
    rfl

/-- `readBootItems` keeps, sorted by id, an entry for each name of the pattern whose variable
reads, and nothing else: the id of a name of the pattern always parses, so only a failed read
skips one. -/
theorem readBootItems_spec (vars : String → Option (List UInt8)) (faults : String → Option String)
    (names : List String) :
    (readBootItems vars faults names).Sorted (fun first second => first.id ≤ second.id) ∧
    (∀ item, item ∈ readBootItems vars faults names ↔ item.name ∈ names ∧
      matchBootItemName item.name = true ∧ readVar vars (faults item.name) item.name = .ok item.data ∧
      parseUint16Hex (findBootItemId item.name) = .ok item.id) ∧
    ∀ name ∈ names, matchBootItemName name = true → ∀ data,
      readVar vars (faults name) name = .ok data →
        ∃ id, (⟨id, name, data⟩ : BootItem) ∈ readBootItems vars faults names := by
  refine ⟨List.sorted_insertionSort _ _, fun _ => mem_readBootItems_iff,
    fun name inside matched data got => ?_⟩
  obtain ⟨a, b, c, d, found, hex⟩ := findBootItemId_of_match matched
  exact ⟨_, mem_readBootItems_iff.mpr ⟨inside, matched, got, by rw [found, parseUint16Hex_four hex]⟩⟩

/-! ### The entries and the variables over a run -/

/-- The entries have distinct names, all of the pattern, and each holds what its variable
holds. -/
def Synced (vars : String → Option (List UInt8)) (items : List BootItem) : Prop :=
  (items.map BootItem.name).Nodup ∧
    ∀ item ∈ items, matchBootItemName item.name = true ∧ vars item.name = some item.data

/-- A call on the instance that writes EFI variables. -/
inductive Call
  | setBootActive (id : UInt16) (active : Bool)
  | setBootOrder (ids : List UInt16)
  | setBootNext (id : UInt16)
  | deleteBootNext
  | deleteBootOrder
  deriving DecidableEq, Repr

/-- A call, with the platform's error `fault`. -/
def Call.apply (efi : Instance) (vars : String → Option (List UInt8)) (fault : Option String) :
    Call → Instance × (String → Option (List UInt8)) × Option String
  | .setBootActive id active => Efi.setBootActive efi vars fault id active
  | .setBootOrder ids => (efi, Efi.setBootOrder vars fault ids)
  | .setBootNext id => (efi, Efi.setBootNext vars fault id)
  | .deleteBootNext => (efi, Efi.deleteBootNext vars fault)
  | .deleteBootOrder => (efi, Efi.deleteBootOrder vars fault)

/-- The instance and the variables after the calls, each made with its fault whatever the
previous ones returned. -/
def run : Instance × (String → Option (List UInt8)) → List (Call × Option String) →
    Instance × (String → Option (List UInt8))
  | state, [] => state
  | (efi, vars), (call, fault) :: calls =>
      run ((call.apply efi vars fault).1, (call.apply efi vars fault).2.1) calls

section Synced

variable {vars : String → Option (List UInt8)} {faults : String → Option String}

private theorem names_readBootItems_sublist : ∀ names : List String,
    ((names.filterMap fun name => (readBootItem vars (faults name) name).toOption).map
      BootItem.name).Sublist names
  | [] => .slnil
  | name :: names => by
      rw [List.filterMap_cons]
      rcases read : readBootItem vars (faults name) name with err | item
      · exact (names_readBootItems_sublist names).cons _
      · rw [Except.toOption, List.map_cons, (readBootItem_eq_ok_iff.mp read).1]
        exact (names_readBootItems_sublist names).cons₂ _

private theorem Synced.of_new {supported : Bool} {names : List String} {efi : Instance}
    (distinct : names.Nodup) (opened : new supported vars faults names = .ok efi) :
    Synced vars efi.bootItems := by
  unfold new at opened
  split at opened <;> cases opened
  have sorted := List.perm_insertionSort (fun first second : BootItem => first.id ≤ second.id)
    ((names.filter matchBootItemName).filterMap fun name =>
      (readBootItem vars (faults name) name).toOption)
  refine ⟨(sorted.map _).nodup_iff.mpr
    ((distinct.sublist (List.filter_sublist _)).sublist (names_readBootItems_sublist _)), ?_⟩
  intro item mem
  obtain ⟨-, matched, got, -⟩ := mem_readBootItems_iff.mp mem
  exact ⟨matched, readVar_ok got⟩

variable {items : List BootItem}

private theorem Synced.of_other (synced : Synced vars items) {name : String}
    (other : matchBootItemName name = false) {vars' : String → Option (List UInt8)}
    (only : ∀ other, other ≠ name → vars' other = vars other) : Synced vars' items :=
  ⟨synced.1, fun item mem => by
    obtain ⟨pattern, holds⟩ := synced.2 item mem
    have differs : item.name ≠ name := fun same => by
      rw [same, other] at pattern
      cases pattern
    exact ⟨pattern, (only _ differs).trans holds⟩⟩

private theorem writeVar_other {fault : Option String} {name : String} (data : List UInt8) (other : String)
    (differs : other ≠ name) : (writeVar vars fault name data).1 other = vars other := by
  cases fault with
  | some _ => rfl
  | none => exact Function.update_noteq differs _ _

private theorem deleteVar_other {fault : Option String} {name : String} (other : String)
    (differs : other ≠ name) : (deleteVar vars fault name).1 other = vars other := by
  unfold deleteVar
  split
  · rfl
  · rfl
  · exact Function.update_noteq differs _ _

private theorem Synced.setBootActive {efi : Instance} {fault : Option String} {id : UInt16}
    {active : Bool} (synced : Synced vars efi.bootItems) :
    Synced (setBootActive efi vars fault id active).2.1
      (setBootActive efi vars fault id active).1.bootItems := by
  rcases @setBootActive_cases vars fault id active efi with ⟨-, done⟩ |
    ⟨before, item, after, split, -, -, ⟨-, done⟩ | ⟨-, _, -, done⟩ | ⟨-, -, done⟩⟩ <;>
    rw [done]
  · exact synced
  · exact synced
  · exact synced
  · rw [split] at synced
    obtain ⟨distinct, holds⟩ := synced
    have fresh : item.name ∉ (before ++ after).map BootItem.name := by
      have moved := List.nodup_middle.mp (by simpa only [List.map_append, List.map_cons] using distinct)
      exact (List.nodup_cons.mp (by simpa only [List.map_append] using moved)).1
    refine ⟨by simpa only [List.map_append, List.map_cons] using distinct, fun other mem => ?_⟩
    rcases List.mem_append.mp mem with early | here | ⟨_, late⟩
    · have differs : other.name ≠ item.name := fun same =>
        fresh (List.mem_map.mpr ⟨other, List.mem_append_left _ early, same⟩)
      obtain ⟨pattern, held⟩ := holds other (List.mem_append_left _ early)
      exact ⟨pattern, (Function.update_noteq differs _ _).trans held⟩
    · exact ⟨(holds item (List.mem_append_right _ (.head _))).1, Function.update_same _ _ _⟩
    · have differs : other.name ≠ item.name := fun same =>
        fresh (List.mem_map.mpr ⟨other, List.mem_append_right _ ‹_›, same⟩)
      obtain ⟨pattern, held⟩ := holds other (List.mem_append_right _ (.tail _ ‹_›))
      exact ⟨pattern, (Function.update_noteq differs _ _).trans held⟩

theorem Synced.apply {efi : Instance} (synced : Synced vars efi.bootItems) (fault : Option String)
    (call : Call) : Synced (call.apply efi vars fault).2.1 (call.apply efi vars fault).1.bootItems := by
  cases call with
  | setBootActive id active => exact synced.setBootActive
  | setBootOrder ids => exact synced.of_other (by decide) (writeVar_other _)
  | setBootNext id => exact synced.of_other (by decide) (writeVar_other _)
  | deleteBootNext => exact synced.of_other (by decide) deleteVar_other
  | deleteBootOrder => exact synced.of_other (by decide) deleteVar_other

end Synced

theorem Synced.run : ∀ {efi : Instance} {vars : String → Option (List UInt8)}
    (calls : List (Call × Option String)), Synced vars efi.bootItems →
      Synced (run (efi, vars) calls).2 (run (efi, vars) calls).1.bootItems
  | _, _, [], synced => synced
  | _, _, (call, fault) :: calls, synced => Synced.run calls (synced.apply fault call)

private theorem Synced.getBootActive {vars : String → Option (List UInt8)} {efi : Instance} {id : UInt16}
    {active : Bool} (synced : Synced vars efi.bootItems) (read : getBootActive efi id = .ok active) :
    ∃ item ∈ efi.bootItems, item.id = id ∧ vars item.name = some item.data ∧
      isActive item.data = active := by
  unfold Efi.getBootActive at read
  split at read
  · rename_i item found
    cases read
    have inside := List.mem_of_find?_eq_some found
    exact ⟨item, inside, by simpa using List.find?_some found, (synced.2 item inside).2, rfl⟩
  · cases read

/-- The entries of an instance agree with the EFI variables: from `New` over distinct variable
names, along every run of `SetBootActive`, `SetBootOrder`, `SetBootNext`, `DeleteBootNext` and
`DeleteBootOrder` with any platform errors, every entry holds what its variable holds, and
`GetBootActive` returns the active bit of the variable of the first entry with the id. -/
theorem boot_items_synced {supported : Bool} {vars : String → Option (List UInt8)}
    {faults : String → Option String} {names : List String} {efi : Instance}
    (distinct : names.Nodup) (opened : new supported vars faults names = .ok efi)
    (calls : List (Call × Option String)) :
    Synced (run (efi, vars) calls).2 (run (efi, vars) calls).1.bootItems ∧
      ∀ id active, getBootActive (run (efi, vars) calls).1 id = .ok active →
        ∃ item ∈ (run (efi, vars) calls).1.bootItems, item.id = id ∧
          (run (efi, vars) calls).2 item.name = some item.data ∧ isActive item.data = active :=
  have synced := (Synced.of_new distinct opened).run calls
  ⟨synced, fun _ _ read => synced.getBootActive read⟩

/-- One active entry, made inactive, and then the boot order written: the entry still agrees
with its variable. -/
theorem deactivated_entry_synced :
    Synced
      (run (⟨[⟨1, "Boot0001", [1, 0, 0, 0, 0, 0]⟩]⟩,
          fun name => if name = "Boot0001" then some [1, 0, 0, 0, 0, 0] else none)
        [(.setBootActive 1 false, none), (.setBootOrder [1], none)]).2
      (run (⟨[⟨1, "Boot0001", [1, 0, 0, 0, 0, 0]⟩]⟩,
          fun name => if name = "Boot0001" then some [1, 0, 0, 0, 0, 0] else none)
        [(.setBootActive 1 false, none), (.setBootOrder [1], none)]).1.bootItems :=
  (boot_items_synced (show ["Boot0001", "BootOrder"].Nodup by decide)
    (show new true (fun name => if name = "Boot0001" then some [1, 0, 0, 0, 0, 0] else none)
      (fun _ => none) ["Boot0001", "BootOrder"] = .ok ⟨[⟨1, "Boot0001", [1, 0, 0, 0, 0, 0]⟩]⟩
      from rfl) _).1

/-! ### The search of `GetBootByPartUUID` -/

private theorem getBootByPartUUIDLoop_ok_iff (loadoptPath : List UInt8 → List UInt8)
    (partUUID : List UInt8) (id : UInt16) : ∀ items : List BootItem,
    getBootByPartUUIDLoop loadoptPath partUUID items = .ok id ↔
      ∃ before item after, items = before ++ item :: after ∧ item.id = id ∧
        (∀ other ∈ before, ∃ dps, parseDP [] (loadoptPath other.data) = .ok dps ∧
          dps.any (namesPartition partUUID) = false) ∧
        ∃ dps, parseDP [] (loadoptPath item.data) = .ok dps ∧
          dps.any (namesPartition partUUID) = true
  | [] => by simp [getBootByPartUUIDLoop]
  | first :: items => by
      have ih := getBootByPartUUIDLoop_ok_iff loadoptPath partUUID id items
      rw [getBootByPartUUIDLoop]
      rcases parsed : parseDP [] (loadoptPath first.data) with err | dps
      · refine iff_of_false nofun ?_
        rintro ⟨_ | ⟨_, before⟩, item, after, split, -, earlier, dps, parsed', -⟩ <;>
          obtain ⟨rfl, -⟩ := List.cons.inj split
        · cases parsed.symm.trans parsed'
        · obtain ⟨dps, parsed', -⟩ := earlier _ (.head _)
          cases parsed.symm.trans parsed'
      · dsimp only
        by_cases names : dps.any (namesPartition partUUID) = true
        · rw [if_pos names]
          refine ⟨fun found => ⟨[], first, items, rfl, by cases found; rfl, nofun, dps, parsed, names⟩, ?_⟩
          rintro ⟨_ | ⟨_, before⟩, item, after, split, same, earlier, -⟩ <;>
            obtain ⟨rfl, -⟩ := List.cons.inj split
          · rw [same]
          · obtain ⟨dps', parsed', none⟩ := earlier _ (.head _)
            cases parsed.symm.trans parsed'
            exact absurd names (by rw [none]; decide)
        · rw [if_neg names, ih]
          constructor
          · rintro ⟨before, item, after, rfl, same, earlier, found⟩
            exact ⟨first :: before, item, after, rfl, same,
              List.forall_mem_cons.mpr ⟨⟨dps, parsed, by simpa using names⟩, earlier⟩, found⟩
          · rintro ⟨_ | ⟨_, before⟩, item, after, split, same, earlier, found⟩ <;>
              obtain ⟨rfl, rest⟩ := List.cons.inj split
            · obtain ⟨dps', parsed', hit⟩ := found
              cases parsed.symm.trans parsed'
              exact absurd hit names
            · exact ⟨before, item, after, rest, same,
                fun other mem => earlier other (.tail _ mem), found⟩

/-- `GetBootByPartUUID` returns the id of the first entry, in id order, whose device path has a
GPT partition with the UUID, provided the device path of every entry before it parses: one
that does not ends the search with its error. -/
theorem getBootByPartUUID_ok_iff (efi : Instance) (loadoptPath : List UInt8 → List UInt8)
    (partUUID : List UInt8) (id : UInt16) :
    getBootByPartUUID efi loadoptPath partUUID = .ok id ↔
      ∃ before item after, efi.bootItems = before ++ item :: after ∧ item.id = id ∧
        (∀ other ∈ before, ∃ dps, parseDP [] (loadoptPath other.data) = .ok dps ∧
          dps.any (namesPartition partUUID) = false) ∧
        ∃ dps, parseDP [] (loadoptPath item.data) = .ok dps ∧
          dps.any (namesPartition partUUID) = true :=
  getBootByPartUUIDLoop_ok_iff loadoptPath partUUID id efi.bootItems

end UpdateManager.Efi
