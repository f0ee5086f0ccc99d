import UpdateManager.Efi.Binary

set_option autoImplicit false

/-!
# Device paths of boot entries

`parseDP`, `parseMediaType` and `parseHD` (`src/unnamed/part_000`, lines 697-789). A device
path is a list of nodes, each a type, a subtype, a little-endian length counting the four
header bytes, and a payload, up to the end node. `parseDP` is total, and it succeeds exactly on
the well-formed buffers (`parseDP_ok_iff`).
-/

namespace UpdateManager.Efi

/-- `EFIDP_MEDIA_TYPE` of `efivar-dp.h`. -/
def efidpMediaType : UInt8 := 0x04

/-- `EFIDP_MEDIA_HD` of `efivar-dp.h`. -/
def efidpMediaHd : UInt8 := 0x01

/-- `EFIDP_END_TYPE` of `efivar-dp.h`. -/
def efidpEndType : UInt8 := 0x7f

/-- `EFIDP_END_ENTIRE` of `efivar-dp.h`. -/
def efidpEndEntire : UInt8 := 0xff

/-- `hdData`, the payload of a hard-drive media node; `signature` holds its 16 bytes. -/
structure HdData where
  partNumber : UInt32
  start : UInt64
  size : UInt64
  signature : List UInt8
  format : UInt8
  signatureType : UInt8
  deriving DecidableEq, Repr

def parseHD (data : List UInt8) : Except ReadError HdData := do
  let (partNumber, data) ← binaryRead 4 uint32 data
  let (start, data) ← binaryRead 8 uint64 data
  let (size, data) ← binaryRead 8 uint64 data
  let (signature, data) ← binaryRead 16 id data
  let (format, data) ← binaryRead 1 uint8 data
  let (signatureType, _) ← binaryRead 1 uint8 data
  pure ⟨partNumber, start, size, signature, format, signatureType⟩

/-- `parseMediaType`: the `hdData` of a hard-drive node, `nil` for the other subtypes. -/
def parseMediaType (subType : UInt8) (data : List UInt8) : Except ReadError (Option HdData) :=
  if subType = efidpMediaHd then (parseHD data).map some else .ok none

private theorem parseDP_shorter {buffer afterType afterSubType afterLen data rest : List UInt8}
    {dpType dpSubType : UInt8} {dpLen : UInt16} {n : Nat}
    (readType : binaryRead 1 uint8 buffer = .ok (dpType, afterType))
    (readSubType : binaryRead 1 uint8 afterType = .ok (dpSubType, afterSubType))
    (readLen : binaryRead 2 uint16 afterSubType = .ok (dpLen, afterLen))
    (readData : readFull n afterLen = .ok (data, rest)) : rest.length < buffer.length := by
  have first := binaryRead_shorter readType (by decide)
  have second := binaryRead_shorter readSubType (by decide)
  have third := binaryRead_shorter readLen (by decide)
  have last := congrArg List.length (readFull_ok readData).1
  simp only [List.length_append] at last
  omega

/-- The loop of `parseDP`, with the entries `dps` kept so far. -/
def parseDP (dps : List (Option HdData)) (buffer : List UInt8) :
    Except String (List (Option HdData)) :=
  match _readType : binaryRead 1 uint8 buffer with
  | .error err => .error err.message
  | .ok (dpType, afterType) =>
      match _readSubType : binaryRead 1 uint8 afterType with
      | .error err => .error err.message
      | .ok (dpSubType, afterSubType) =>
          match _readLen : binaryRead 2 uint16 afterSubType with
          | .error err => .error err.message
          | .ok (dpLen, afterLen) =>
              if dpLen < 4 then .error "invalid dp size"
              else
                match _readData : readFull (dpLen.toNat - 4) afterLen with
                | .error err => .error err.message
                | .ok (data, rest) =>
                    if dpType = efidpMediaType then
                      match parseMediaType dpSubType data with
                      | .error err => .error err.message
                      | .ok dp => parseDP (dps ++ [dp]) rest
                    else if dpType = efidpEndType ∧ dpSubType = efidpEndEntire then .ok dps
                    else parseDP dps rest
termination_by buffer.length
decreasing_by
  all_goals exact parseDP_shorter _readType _readSubType _readLen _readData

private theorem parseDP_eq (dps : List (Option HdData)) (buffer : List UInt8) :
    parseDP dps buffer =
      match binaryRead 1 uint8 buffer with
      | .error err => .error err.message
      | .ok (dpType, afterType) =>
          match binaryRead 1 uint8 afterType with
          | .error err => .error err.message
          | .ok (dpSubType, afterSubType) =>
              match binaryRead 2 uint16 afterSubType with
              | .error err => .error err.message
              | .ok (dpLen, afterLen) =>
                  if dpLen < 4 then .error "invalid dp size"
                  else
                    match readFull (dpLen.toNat - 4) afterLen with
                    | .error err => .error err.message
                    | .ok (data, rest) =>
                        if dpType = efidpMediaType then
                          match parseMediaType dpSubType data with
                          | .error err => .error err.message
                          | .ok dp => parseDP (dps ++ [dp]) rest
                        else if dpType = efidpEndType ∧ dpSubType = efidpEndEntire then .ok dps
                        else parseDP dps rest := by
  rw [parseDP]
  split <;> rename_i readType <;> simp only [readType]
  split <;> rename_i readSubType <;> simp only [readSubType]
  split <;> rename_i readLen <;> simp only [readLen]
  split
  · rfl
  · split <;> rename_i readData <;> simp only [readData]

/-! ### `parseHD` and `parseMediaType` -/

/-- The `hdData` whose fields the first 38 bytes of `payload` hold, each decoded
little-endian from its own bytes. -/
def HdData.ofPayload (payload : List UInt8) : HdData where
  partNumber := uint32 (payload.take 4)
  start := uint64 ((payload.drop 4).take 8)
  size := uint64 ((payload.drop 12).take 8)
  signature := (payload.drop 20).take 16
  format := uint8 ((payload.drop 36).take 1)
  signatureType := uint8 ((payload.drop 37).take 1)

theorem bind_eq_ok {ε α β : Type} {x : Except ε α} {f : α → Except ε β} {b : β}
    (bound : x >>= f = .ok b) : ∃ a, x = .ok a ∧ f a = .ok b := by
  cases x with
  | error err => cases bound
  | ok a => exact ⟨a, rfl, bound⟩

private theorem parseHD_of_le {data : List UInt8} (long : 38 ≤ data.length) :
    parseHD data = .ok (HdData.ofPayload data) := by
  simp (disch := (try simp only [List.length_drop]) <;> omega) only [parseHD, binaryRead_of_le,
    List.drop_drop, bind, Except.bind, pure, Except.pure]
  rfl

private theorem parseHD_ok_iff {data : List UInt8} {hd : HdData} :
    parseHD data = .ok hd ↔ 38 ≤ data.length ∧ hd = HdData.ofPayload data := by
  constructor
  · intro parsed
    have long : 38 ≤ data.length := by
      have read := parsed
      unfold parseHD at read
      obtain ⟨⟨_, data1⟩, read1, read⟩ := bind_eq_ok read
      obtain ⟨⟨_, data2⟩, read2, read⟩ := bind_eq_ok read
      obtain ⟨⟨_, data3⟩, read3, read⟩ := bind_eq_ok read
      obtain ⟨⟨_, data4⟩, read4, read⟩ := bind_eq_ok read
      obtain ⟨⟨_, data5⟩, read5, read⟩ := bind_eq_ok read
      obtain ⟨⟨_, data6⟩, read6, -⟩ := bind_eq_ok read
      obtain ⟨_, rfl, l1, -⟩ := binaryRead_ok read1
      obtain ⟨_, rfl, l2, -⟩ := binaryRead_ok read2
      obtain ⟨_, rfl, l3, -⟩ := binaryRead_ok read3
      obtain ⟨_, rfl, l4, -⟩ := binaryRead_ok read4
      obtain ⟨_, rfl, l5, -⟩ := binaryRead_ok read5
      obtain ⟨_, rfl, l6, -⟩ := binaryRead_ok read6
      simp only [List.length_append]
      omega
    rw [parseHD_of_le long, Except.ok.injEq] at parsed
    exact ⟨long, parsed.symm⟩
  · rintro ⟨long, rfl⟩
    exact parseHD_of_le long

private theorem parseMediaType_ok_iff {subType : UInt8} {data : List UInt8} {dp : Option HdData} :
    parseMediaType subType data = .ok dp ↔
      (subType = efidpMediaHd → 38 ≤ data.length) ∧
        dp = if subType = efidpMediaHd then some (HdData.ofPayload data) else none := by
  unfold parseMediaType
  by_cases hd : subType = efidpMediaHd
  · cases parsed : parseHD data with
    | error err =>
        have short : ¬ 38 ≤ data.length := fun long => by simp [parseHD_of_le long] at parsed
        simp [hd, parsed, Except.map, short]
    | ok found =>
        obtain ⟨long, rfl⟩ := parseHD_ok_iff.mp parsed
        simp [hd, parsed, Except.map, long, eq_comm]
  · simp [hd, eq_comm]

/-! ### The language `parseDP` accepts -/

/-- A device-path node: its type, subtype and payload. Its length field, `payload.length + 4`,
fits a `uint16`. -/
structure Node where
  type : UInt8
  subType : UInt8
  payload : List UInt8
  fits : payload.length + 4 < 2 ^ 16

/-- The bytes of a node: type, subtype, the little-endian length, the payload. -/
def Node.bytes (node : Node) : List UInt8 :=
  node.type :: node.subType :: (putLittleEndian 2 (node.payload.length + 4) ++ node.payload)

/-- The node that ends a device path. -/
def Node.IsEnd (node : Node) : Prop := node.type = efidpEndType ∧ node.subType = efidpEndEntire

/-- A hard-drive media node. -/
def Node.IsHd (node : Node) : Prop := node.type = efidpMediaType ∧ node.subType = efidpMediaHd

/-- The entry kept for a node: for a media node, its `hdData` if it is a hard-drive node and
`nil` otherwise; nothing for the other nodes. -/
def Node.entry (node : Node) : Option (Option HdData) :=
  if node.type = efidpMediaType then
    some (if node.subType = efidpMediaHd then some (HdData.ofPayload node.payload) else none)
  else none

private theorem Node.length_bytes (node : Node) : node.bytes.length = node.payload.length + 4 := by
  simp [Node.bytes]
  omega

private theorem efidpMediaType_ne_efidpEndType : efidpMediaType ≠ efidpEndType := by decide

private theorem toNat_uint16_putLittleEndian {value : Nat} (fits : value < 2 ^ 16) :
    (uint16 (putLittleEndian 2 value)).toNat = value := by
  have fits : value < 256 ^ 2 := fits
  rw [uint16, littleEndian_putLittleEndian, Nat.mod_eq_of_lt fits]
  exact UInt16.toNat_ofNat_of_lt fits

private theorem UInt16.lt_four_iff (value : UInt16) : value < 4 ↔ value.toNat < 4 := by
  rw [UInt16.lt_def, BitVec.lt_def]
  rfl

private theorem parseDP_node (dps : List (Option HdData)) (node : Node) (rest : List UInt8) :
    parseDP dps (node.bytes ++ rest) =
      if node.type = efidpMediaType then
        match parseMediaType node.subType node.payload with
        | .error err => .error err.message
        | .ok dp => parseDP (dps ++ [dp]) rest
      else if node.type = efidpEndType ∧ node.subType = efidpEndEntire then .ok dps
      else parseDP dps rest := by
  have length := toNat_uint16_putLittleEndian node.fits
  have long : ¬ uint16 (putLittleEndian 2 (node.payload.length + 4)) < 4 := by
    rw [UInt16.lt_four_iff, length]
    omega
  rw [parseDP_eq]
  simp only [Node.bytes, List.cons_append, binaryRead_cons, List.append_assoc,
    binaryRead_append (length_putLittleEndian 2 _), long, if_false, length,
    Nat.add_sub_cancel, readFull_append, uint8, List.headD_cons]

private theorem parseDP_cases (dps : List (Option HdData)) (buffer : List UInt8) :
    (∃ err, parseDP dps buffer = .error err) ∨ ∃ node rest, buffer = Node.bytes node ++ rest := by
  match buffer with
  | [] | [_] | [_, _] | [_, _, _] =>
      exact .inl ⟨_, by simp [parseDP_eq, binaryRead, readFull, Except.map]; rfl⟩
  | dpType :: dpSubType :: low :: high :: more =>
      by_cases small : uint16 [low, high] < 4
      · refine .inl ⟨"invalid dp size", ?_⟩
        rw [parseDP_eq]
        simp only [binaryRead_cons, binaryRead_cons_cons, small,
          if_true]
      · cases read : readFull ((uint16 [low, high]).toNat - 4) more with
        | error err =>
            refine .inl ⟨err.message, ?_⟩
            rw [parseDP_eq]
            simp only [binaryRead_cons, binaryRead_cons_cons, small,
              if_false, read]
        | ok got =>
            obtain ⟨rfl, sized⟩ := readFull_ok read
            have four : 4 ≤ (uint16 [low, high]).toNat := by
              rw [UInt16.lt_four_iff] at small
              omega
            have fits : got.1.length + 4 < 2 ^ 16 := by
              have := (uint16 [low, high]).toNat_lt_size
              simp only [UInt16.size] at this
              omega
            refine .inr ⟨⟨dpType, dpSubType, got.1, fits⟩, got.2, ?_⟩
            have header : putLittleEndian 2 (got.1.length + 4) = [low, high] := by
              rw [sized, Nat.sub_add_cancel four, @putLittleEndian_uint16 [low, high] rfl]
            simp [Node.bytes, header]

private theorem parseDP_nodes (acc : List (Option HdData)) (nodes : List Node) (last : Node)
    (rest : List UInt8) (isEnd : last.IsEnd) (notEnd : ∀ node ∈ nodes, ¬ node.IsEnd)
    (long : ∀ node ∈ nodes, node.IsHd → 38 ≤ node.payload.length) :
    parseDP acc ((nodes.map Node.bytes).flatten ++ last.bytes ++ rest) =
      .ok (acc ++ nodes.filterMap Node.entry) := by
  induction nodes generalizing acc with
  | nil =>
      obtain ⟨endType, endSubType⟩ := isEnd
      simp [parseDP_node, endType, endSubType, efidpMediaType_ne_efidpEndType.symm]
  | cons node nodes ih =>
      obtain ⟨nodeNotEnd, restNotEnd⟩ := List.forall_mem_cons.mp notEnd
      obtain ⟨nodeLong, restLong⟩ := List.forall_mem_cons.mp long
      simp only [List.map_cons, List.flatten_cons, List.append_assoc] at ih ⊢
      rw [parseDP_node]
      by_cases media : node.type = efidpMediaType
      · rw [if_pos media, parseMediaType_ok_iff.mpr ⟨fun hd => nodeLong ⟨media, hd⟩, rfl⟩]
        simp [ih _ restNotEnd restLong, Node.entry, media]
      · rw [if_neg media, if_neg (show ¬ (_ ∧ _) from nodeNotEnd), ih _ restNotEnd restLong]
        simp [Node.entry, media]

private theorem parseDP_ok_nodes {acc dps : List (Option HdData)} {buffer : List UInt8}
    (parsed : parseDP acc buffer = .ok dps) :
    ∃ (nodes : List Node) (last : Node) (rest : List UInt8),
      buffer = (nodes.map Node.bytes).flatten ++ last.bytes ++ rest ∧ last.IsEnd ∧
        (∀ node ∈ nodes, ¬ node.IsEnd) ∧
        (∀ node ∈ nodes, node.IsHd → 38 ≤ node.payload.length) ∧
        dps = acc ++ nodes.filterMap Node.entry := by
  obtain ⟨bound, within⟩ : ∃ bound, buffer.length ≤ bound := ⟨_, le_rfl⟩
  induction bound generalizing acc buffer with
  | zero =>
      rcases parseDP_cases acc buffer with ⟨err, failed⟩ | ⟨node, rest, rfl⟩
      · rw [failed] at parsed
        cases parsed
      · simp [Node.length_bytes] at within
  | succ bound ih =>
      rcases parseDP_cases acc buffer with ⟨err, failed⟩ | ⟨node, rest, rfl⟩
      · rw [failed] at parsed
        cases parsed
      have shorter : rest.length ≤ bound := by
        simp only [List.length_append, Node.length_bytes] at within
        omega
      rw [parseDP_node] at parsed
      by_cases media : node.type = efidpMediaType
      · have notEnd : ¬ node.IsEnd := fun isEnd =>
          efidpMediaType_ne_efidpEndType (media.symm.trans isEnd.1)
        rw [if_pos media] at parsed
        cases found : parseMediaType node.subType node.payload with
        | error err =>
            rw [found] at parsed
            cases parsed
        | ok dp =>
            rw [found] at parsed
            obtain ⟨checked, rfl⟩ := parseMediaType_ok_iff.mp found
            obtain ⟨nodes, last, rest', rfl, isEnd, notEnds, long, rfl⟩ := ih parsed shorter
            refine ⟨node :: nodes, last, rest', by simp, isEnd,
              List.forall_mem_cons.mpr ⟨notEnd, notEnds⟩,
              List.forall_mem_cons.mpr ⟨fun hd => checked hd.2, long⟩, ?_⟩
            simp [Node.entry, media]
      · rw [if_neg media] at parsed
        by_cases isEnd : node.IsEnd
        · rw [if_pos (show _ ∧ _ from isEnd)] at parsed
          cases parsed
          exact ⟨[], node, rest, by simp, isEnd, by simp, by simp, by simp⟩
        · rw [if_neg (show ¬ (_ ∧ _) from isEnd)] at parsed
          obtain ⟨nodes, last, rest', rfl, lastEnd, notEnds, long, rfl⟩ := ih parsed shorter
          refine ⟨node :: nodes, last, rest', by simp, lastEnd,
            List.forall_mem_cons.mpr ⟨isEnd, notEnds⟩,
            List.forall_mem_cons.mpr ⟨fun hd => absurd hd.1 media, long⟩, ?_⟩
          simp [Node.entry, media]

/-- `parseDP` succeeds exactly on the byte strings made of device-path nodes up to the first
node of type `EFIDP_END_TYPE` and subtype `EFIDP_END_ENTIRE`, in which every hard-drive
media node has the 38 payload bytes of an `hdData`, followed by any bytes. It then returns
one entry per media node before the end node: the `hdData` of a hard-drive node, decoded
little-endian from its first 38 payload bytes, and `nil` for the other media nodes. -/
theorem parseDP_ok_iff (buffer : List UInt8) (dps : List (Option HdData)) :
    parseDP [] buffer = .ok dps ↔
      ∃ (nodes : List Node) (last : Node) (rest : List UInt8),
        buffer = (nodes.map Node.bytes).flatten ++ last.bytes ++ rest ∧ last.IsEnd ∧
          (∀ node ∈ nodes, ¬ node.IsEnd) ∧
          (∀ node ∈ nodes, node.IsHd → 38 ≤ node.payload.length) ∧
          dps = nodes.filterMap Node.entry := by
  constructor
  · intro parsed
    simpa using parseDP_ok_nodes parsed
  · rintro ⟨nodes, last, rest, rfl, isEnd, notEnd, long, rfl⟩
    simpa using parseDP_nodes [] nodes last rest isEnd notEnd long

end UpdateManager.Efi
