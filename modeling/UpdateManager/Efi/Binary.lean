import Mathlib.Data.List.Basic
import Mathlib.Algebra.Group.Nat.Basic

set_option autoImplicit false

/-!
# Little-endian values in EFI variables

`encoding/binary` on a `bytes.Buffer`, as the `efi` package (`src/unnamed/part_000`, lines
212-789) uses it; a buffer is the list of its unread bytes. `binary.Read` is `io.ReadFull`
followed by the little-endian decoding. `readU16` decodes exactly what `writeU16` encodes
(`u16_codec`).
-/

namespace UpdateManager.Efi

/-! ### `io.ReadFull` and `binary.Read` on a `bytes.Buffer` -/

/-- The errors `io.ReadFull` returns on a `bytes.Buffer`: `io.EOF` when the buffer is empty,
`io.ErrUnexpectedEOF` when it holds fewer bytes than asked for. -/
inductive ReadError
  | eof
  | unexpectedEOF
  deriving DecidableEq, Repr

/-- The `Error()` text of a read error. -/
def ReadError.message : ReadError → String
  | .eof => "EOF"
  | .unexpectedEOF => "unexpected EOF"

/-- `io.ReadFull` of `n` bytes from a buffer holding `buffer`: the bytes read and what is
left. Reading no byte always succeeds. -/
def readFull (n : Nat) (buffer : List UInt8) : Except ReadError (List UInt8 × List UInt8) :=
  if n ≤ buffer.length then .ok (buffer.take n, buffer.drop n)
  else if buffer = [] then .error .eof
  else .error .unexpectedEOF

/-- `binary.Read` of a value of `size` bytes, which `decode` makes of its bytes. -/
def binaryRead {α : Type} (size : Nat) (decode : List UInt8 → α) (buffer : List UInt8) :
    Except ReadError (α × List UInt8) :=
  (readFull size buffer).map fun read => (decode read.1, read.2)

section Reads

variable {α : Type} {n : Nat} {buffer bytes rest : List UInt8}

private theorem readFull_of_le (enough : n ≤ buffer.length) :
    readFull n buffer = .ok (buffer.take n, buffer.drop n) := by
  simp [readFull, enough]

@[simp] theorem readFull_append (sized : bytes.length = n) :
    readFull n (bytes ++ rest) = .ok (bytes, rest) := by
  rw [readFull_of_le (by simp [sized]), List.take_left' sized, List.drop_left' sized]

theorem readFull_ok (read : readFull n buffer = .ok (bytes, rest)) :
    buffer = bytes ++ rest ∧ bytes.length = n := by
  unfold readFull at read
  split at read
  · cases read
    exact ⟨(List.take_append_drop n buffer).symm, List.length_take_of_le ‹_›⟩
  · split at read <;> cases read

private theorem readFull_short (short : buffer.length < n) : ∃ err, readFull n buffer = .error err := by
  unfold readFull
  rw [if_neg (by omega)]
  split
  · exact ⟨_, rfl⟩
  · exact ⟨_, rfl⟩

private theorem readFull_nil (positive : 0 < n) : readFull n [] = .error .eof := by
  simp [readFull, Nat.pos_iff_ne_zero.mp positive]

private theorem readFull_unexpected (short : buffer.length < n) (nonempty : buffer ≠ []) :
    readFull n buffer = .error .unexpectedEOF := by
  simp [readFull, nonempty, Nat.not_le.mpr short]

theorem binaryRead_of_le {decode : List UInt8 → α} (enough : n ≤ buffer.length) :
    binaryRead n decode buffer = .ok (decode (buffer.take n), buffer.drop n) := by
  simp [binaryRead, readFull_of_le enough, Except.map]

@[simp] theorem binaryRead_append {decode : List UInt8 → α} (sized : bytes.length = n) :
    binaryRead n decode (bytes ++ rest) = .ok (decode bytes, rest) := by
  simp [binaryRead, sized, Except.map]

@[simp] theorem binaryRead_cons {decode : List UInt8 → α} (byte : UInt8) (rest : List UInt8) :
    binaryRead 1 decode (byte :: rest) = .ok (decode [byte], rest) :=
  show binaryRead 1 decode ([byte] ++ rest) = _ from binaryRead_append rfl

@[simp] theorem binaryRead_cons_cons {decode : List UInt8 → α} (first second : UInt8)
    (rest : List UInt8) :
    binaryRead 2 decode (first :: second :: rest) = .ok (decode [first, second], rest) :=
  show binaryRead 2 decode ([first, second] ++ rest) = _ from binaryRead_append rfl

theorem binaryRead_ok {decode : List UInt8 → α} {value : α}
    (read : binaryRead n decode buffer = .ok (value, rest)) :
    ∃ bytes, buffer = bytes ++ rest ∧ bytes.length = n ∧ value = decode bytes := by
  unfold binaryRead at read
  cases full : readFull n buffer with
  | error err => simp [full, Except.map] at read
  | ok got =>
      simp only [full, Except.map, Except.ok.injEq, Prod.mk.injEq] at read
      obtain ⟨rfl, rfl⟩ := read
      exact ⟨got.1, (readFull_ok full).1, (readFull_ok full).2, rfl⟩

private theorem binaryRead_error {decode : List UInt8 → α} {err : ReadError} :
    binaryRead n decode buffer = .error err ↔ readFull n buffer = .error err := by
  unfold binaryRead
  cases readFull n buffer <;> simp [Except.map]

theorem binaryRead_shorter {decode : List UInt8 → α} {value : α}
    (read : binaryRead n decode buffer = .ok (value, rest)) (positive : 0 < n) :
    rest.length < buffer.length := by
  obtain ⟨bytes, rfl, sized, -⟩ := binaryRead_ok read
  simp only [List.length_append]
  omega

end Reads

/-! ### Little-endian numbers -/

/-- The number whose little-endian bytes are `bytes`. -/
def littleEndian : List UInt8 → Nat
  | [] => 0
  | byte :: rest => byte.toNat + 256 * littleEndian rest

/-- The `width` little-endian bytes of `value`, as `binary.LittleEndian.PutUint16` and its
siblings write them: the bits above `8 * width` are dropped. -/
def putLittleEndian : Nat → Nat → List UInt8
  | 0, _ => []
  | width + 1, value => UInt8.ofNat (value % 256) :: putLittleEndian width (value / 256)

/-- `bs[0]`, the decoding of a `uint8`. -/
def uint8 (bytes : List UInt8) : UInt8 := bytes.headD 0

def uint16 (bytes : List UInt8) : UInt16 := UInt16.ofNat (littleEndian bytes)

def uint32 (bytes : List UInt8) : UInt32 := UInt32.ofNat (littleEndian bytes)

def uint64 (bytes : List UInt8) : UInt64 := UInt64.ofNat (littleEndian bytes)

@[simp] theorem length_putLittleEndian (width value : Nat) :
    (putLittleEndian width value).length = width := by
  induction width generalizing value with
  | zero => rfl
  | succ width ih => simp [putLittleEndian, ih]

private theorem littleEndian_lt (bytes : List UInt8) : littleEndian bytes < 256 ^ bytes.length := by
  induction bytes with
  | nil => simp [littleEndian]
  | cons byte rest ih =>
      have small : byte.toNat < 256 := byte.toNat_lt_size
      rw [littleEndian, List.length_cons, Nat.pow_succ]
      omega

theorem littleEndian_putLittleEndian (width value : Nat) :
    littleEndian (putLittleEndian width value) = value % 256 ^ width := by
  induction width generalizing value with
  | zero => simp [putLittleEndian, littleEndian, Nat.mod_one]
  | succ width ih =>
      have low : (UInt8.ofNat (value % 256)).toNat = value % 256 :=
        UInt8.toNat_ofNat_of_lt (Nat.mod_lt _ (by decide))
      rw [putLittleEndian, littleEndian, ih, low, Nat.pow_succ', Nat.mod_mul]

private theorem putLittleEndian_littleEndian (bytes : List UInt8) :
    putLittleEndian bytes.length (littleEndian bytes) = bytes := by
  induction bytes with
  | nil => rfl
  | cons byte rest ih =>
      have small : byte.toNat < 256 := byte.toNat_lt_size
      have low : (byte.toNat + 256 * littleEndian rest) % 256 = byte.toNat := by omega
      have high : (byte.toNat + 256 * littleEndian rest) / 256 = littleEndian rest := by omega
      simp only [List.length_cons, putLittleEndian, littleEndian, low, high, ih]
      exact congrArg (· :: rest) (UInt8.toNat.inj (UInt8.toNat_ofNat_of_lt small))

@[simp] theorem uint16_putLittleEndian (value : UInt16) :
    uint16 (putLittleEndian 2 value.toNat) = value := by
  have fits : value.toNat < 256 ^ 2 := value.toNat_lt_size
  apply UInt16.toNat.inj
  rw [uint16, littleEndian_putLittleEndian, Nat.mod_eq_of_lt fits]
  exact UInt16.toNat_ofNat_of_lt fits

theorem putLittleEndian_uint16 {bytes : List UInt8} (sized : bytes.length = 2) :
    putLittleEndian 2 (uint16 bytes).toNat = bytes := by
  have fits : littleEndian bytes < UInt16.size := by
    simpa [sized] using littleEndian_lt bytes
  rw [uint16, UInt16.toNat_ofNat_of_lt fits, ← sized, putLittleEndian_littleEndian]

/-! ### `readU16` and `writeU16` -/

/-- The loop of `readU16`: `binary.Read` of one `uint16` after another into `data`, up to
`io.EOF`; any other error is returned. -/
def readU16Loop (data : List UInt16) (buffer : List UInt8) : Except ReadError (List UInt16) :=
  match _read : binaryRead 2 uint16 buffer with
  | .ok (id, rest) => readU16Loop (data ++ [id]) rest
  | .error .eof => .ok data
  | .error err => .error err
termination_by buffer.length
decreasing_by exact binaryRead_shorter _read (by decide)

/-- The loop of `writeU16`: `binary.Write` of each value after the bytes of the ones before. -/
def writeU16Loop (buffer : List UInt8) : List UInt16 → List UInt8
  | [] => buffer
  | value :: rest => writeU16Loop (buffer ++ putLittleEndian 2 value.toNat) rest

section Loops

variable (data : List UInt16)

private theorem readU16Loop_eq (buffer : List UInt8) :
    readU16Loop data buffer =
      match binaryRead 2 uint16 buffer with
      | .ok (id, rest) => readU16Loop (data ++ [id]) rest
      | .error .eof => .ok data
      | .error err => .error err := by
  rw [readU16Loop]
  split <;> rename_i read <;> rw [read]
  cases ‹ReadError› <;> simp_all

private theorem readU16Loop_nil : readU16Loop data [] = .ok data := by
  simp [readU16Loop_eq, binaryRead, readFull, Except.map]

private theorem readU16Loop_single (byte : UInt8) :
    readU16Loop data [byte] = .error .unexpectedEOF := by
  simp [readU16Loop_eq, binaryRead, readFull, Except.map]

private theorem readU16Loop_append {bytes : List UInt8} (sized : bytes.length = 2) (rest : List UInt8) :
    readU16Loop data (bytes ++ rest) = readU16Loop (data ++ [uint16 bytes]) rest := by
  rw [readU16Loop_eq, binaryRead_append sized]

private theorem writeU16Loop_eq (buffer : List UInt8) (values : List UInt16) :
    writeU16Loop buffer values = buffer ++ writeU16Loop [] values := by
  induction values generalizing buffer with
  | nil => simp [writeU16Loop]
  | cons value rest ih => rw [writeU16Loop, writeU16Loop, ih, ih (List.nil ++ _)]; simp

private theorem writeU16Loop_cons (value : UInt16) (rest : List UInt16) :
    writeU16Loop [] (value :: rest) = putLittleEndian 2 value.toNat ++ writeU16Loop [] rest := by
  rw [writeU16Loop, writeU16Loop_eq, List.nil_append]

-- Each value goes low byte first.
example : writeU16Loop [] [0x0001, 0x0A0B] = [0x01, 0x00, 0x0B, 0x0A] := by decide

private theorem readU16Loop_writeU16Loop (values : List UInt16) :
    readU16Loop data (writeU16Loop [] values) = .ok (data ++ values) := by
  induction values generalizing data with
  | nil => simpa [writeU16Loop] using readU16Loop_nil data
  | cons value rest ih =>
      rw [writeU16Loop_cons, readU16Loop_append data (length_putLittleEndian 2 _),
        uint16_putLittleEndian, ih, List.append_assoc, List.singleton_append]

end Loops

private theorem readU16Loop_odd : ∀ (data : List UInt16) (buffer : List UInt8),
    buffer.length % 2 = 1 → readU16Loop data buffer = .error .unexpectedEOF
  | _, [], odd => by simp at odd
  | data, [byte], _ => readU16Loop_single data byte
  | data, first :: second :: rest, odd => by
      rw [show first :: second :: rest = [first, second] ++ rest from rfl,
        @readU16Loop_append data [first, second] rfl rest]
      exact readU16Loop_odd _ rest (by simp only [List.length_cons] at odd; omega)

private theorem readU16Loop_even : ∀ (data : List UInt16) (buffer : List UInt8),
    buffer.length % 2 = 0 →
      ∃ values, readU16Loop data buffer = .ok (data ++ values) ∧ writeU16Loop [] values = buffer
  | data, [], _ => ⟨[], by simpa using readU16Loop_nil data, rfl⟩
  | _, [_], odd => by simp at odd
  | data, first :: second :: rest, even => by
      obtain ⟨values, read, written⟩ :=
        readU16Loop_even (data ++ [uint16 [first, second]]) rest (by simp only [List.length_cons] at even; omega)
      refine ⟨uint16 [first, second] :: values, ?_, ?_⟩
      · rw [show first :: second :: rest = [first, second] ++ rest from rfl,
          @readU16Loop_append data [first, second] rfl rest, read, List.append_assoc, List.singleton_append]
      · rw [writeU16Loop_cons, written, @putLittleEndian_uint16 [first, second] rfl]
        rfl

/-! ### EFI variables -/

/-- `ErrNotFound`, what `getEfiError` returns for `ENOENT`. -/
def errNotFound : String := "EFI var not found"

/-- `readVar` on the variables of `efiGlobalGUID`: `efi_get_variable` fails with the
platform's error `fault`, or with `ENOENT` when the variable does not exist. -/
def readVar (vars : String → Option (List UInt8)) (fault : Option String) (name : String) :
    Except String (List UInt8) :=
  match fault, vars name with
  | some message, _ => .error message
  | none, none => .error errNotFound
  | none, some data => .ok data

/-- `writeVar`: `efi_set_variable` stores `data` unless it fails with `fault`. -/
def writeVar (vars : String → Option (List UInt8)) (fault : Option String) (name : String)
    (data : List UInt8) : (String → Option (List UInt8)) × Option String :=
  match fault with
  | some message => (vars, some message)
  | none => (Function.update vars name (some data), none)

def readU16 (vars : String → Option (List UInt8)) (fault : Option String) (name : String) :
    Except String (List UInt16) :=
  (readVar vars fault name).bind fun data => (readU16Loop [] data).mapError ReadError.message

def writeU16 (vars : String → Option (List UInt8)) (fault : Option String) (name : String)
    (data : List UInt16) : (String → Option (List UInt8)) × Option String :=
  writeVar vars fault name (writeU16Loop [] data)

def efiBootOrderName : String := "BootOrder"

def efiBootCurrentName : String := "BootCurrent"

def efiBootNextName : String := "BootNext"

def getBootOrder (vars : String → Option (List UInt8)) (fault : Option String) :
    Except String (List UInt16) :=
  readU16 vars fault efiBootOrderName

def setBootOrder (vars : String → Option (List UInt8)) (fault : Option String)
    (ids : List UInt16) : (String → Option (List UInt8)) × Option String :=
  writeU16 vars fault efiBootOrderName ids

/-- `GetBootCurrent` and `GetBootNext`: the variable must hold exactly one `uint16`. -/
def readBootId (name : String) (vars : String → Option (List UInt8)) (fault : Option String) :
    Except String UInt16 :=
  (readU16 vars fault name).bind fun data =>
    match data with
    | [id] => .ok id
    | _ => .error "invalid data size"

def getBootCurrent : (String → Option (List UInt8)) → Option String → Except String UInt16 :=
  readBootId efiBootCurrentName

def getBootNext : (String → Option (List UInt8)) → Option String → Except String UInt16 :=
  readBootId efiBootNextName

def setBootNext (vars : String → Option (List UInt8)) (fault : Option String) (id : UInt16) :
    (String → Option (List UInt8)) × Option String :=
  writeU16 vars fault efiBootNextName [id]

private theorem readU16_writeU16 (vars : String → Option (List UInt8)) (name : String)
    (values : List UInt16) : readU16 (writeU16 vars none name values).1 none name = .ok values := by
  simp [readU16, writeU16, writeVar, readVar, readU16Loop_writeU16Loop, Except.mapError,
    Except.bind]

/-- The `uint16` codec of EFI variables: decoding undoes encoding, a byte string decodes
exactly when its length is even and is then the encoding of what it decodes, and
`GetBootOrder` returns the boot order `SetBootOrder` stored. -/
theorem u16_codec :
    (∀ values : List UInt16, readU16Loop [] (writeU16Loop [] values) = .ok values) ∧
    (∀ bytes : List UInt8, (∃ values, readU16Loop [] bytes = .ok values) ↔ bytes.length % 2 = 0) ∧
    (∀ bytes : List UInt8, bytes.length % 2 = 0 →
      ∃ values, readU16Loop [] bytes = .ok values ∧ writeU16Loop [] values = bytes) ∧
    (∀ (vars : String → Option (List UInt8)) (ids : List UInt16),
      getBootOrder (setBootOrder vars none ids).1 none = .ok ids) := by
  refine ⟨fun values => by simpa using readU16Loop_writeU16Loop [] values, fun bytes => ?_,
    fun bytes even => by simpa using readU16Loop_even [] bytes even,
    fun vars ids => readU16_writeU16 vars efiBootOrderName ids⟩
  constructor
  · rintro ⟨values, read⟩
    rcases Nat.mod_two_eq_zero_or_one bytes.length with even | odd
    · exact even
    · rw [readU16Loop_odd [] bytes odd] at read
      cases read
  · intro even
    obtain ⟨values, read, -⟩ := readU16Loop_even [] bytes even
    exact ⟨values, by simpa using read⟩

end UpdateManager.Efi
