import Kernmux.Library.Chunks
import Kernmux.Library.Result
import Kernmux.Library.Stream
import Mathlib.Data.List.Forall2

/-!
# Kernmux.Core.DeviceTree

**Properties of the Multikernel device tree.** A property is bytes, read as
big-endian cells of 32 bits. Each decoder accepts exactly the bytes that some
value is written as, with one exception: where hardware ids are listed, a single
pair of zero cells stands for an empty list, which can also be written as no
bytes at all.
-/

namespace Kernmux.Core

open Library

/-- A part of the tree that cannot be understood. -/
structure InventoryError where
  location : String
  detail : String
  deriving DecidableEq, Repr

structure NodeProperty where
  name : String
  value : List UInt8
  deriving DecidableEq, Repr

def invalid (detail : String) : InventoryError := ⟨"device_tree", detail⟩

/-! ### Decoders -/

def propertyCells (property : Option NodeProperty) (name : String) :
    Except InventoryError (List UInt32) := do
  let property ← okOr property (invalid ("missing " ++ name))
  rejectIf (property.value.length % 4 ≠ 0)
    (invalid (name ++ " is not a sequence of 32-bit cells"))
  return (asChunks 4 property.value).map fun chunk => UInt32.ofNat (fromBeBytes chunk)

def propertyU32 (property : Option NodeProperty) (name : String) : Except InventoryError UInt32 := do
  match ← propertyCells property name with
  | [value] => return value
  | _ => throw (invalid (name ++ " must contain one cell"))

def joinCells (high low : UInt32) : UInt64 := (high.toUInt64 <<< 32) ||| low.toUInt64

def propertyU64 (property : Option NodeProperty) (name : String) : Except InventoryError UInt64 := do
  match ← propertyCells property name with
  | [high, low] => return joinCells high low
  | _ => throw (invalid (name ++ " must contain two cells"))

/-- The hardware id in a pair of cells. -/
def narrow (name : String) (pair : List UInt32) : Except InventoryError UInt32 := do
  let joined := joinCells (pair.getD 0 0) (pair.getD 1 0)
  rejectIf (2 ^ 32 ≤ joined.toNat) (invalid (name ++ " contains a hardware ID larger than u32"))
  return joined.toUInt32

def propertyHardwareIds (property : Option NodeProperty) (name : String) :
    Except InventoryError (List UInt32) :=
  match property with
  | none => .ok []
  | some property => do
      let cells ← propertyCells (some property) name
      if cells = [0, 0] then return []
      rejectIf (cells.length % 2 ≠ 0) (invalid (name ++ " must contain pairs of cells"))
      collectEach (asChunks 2 cells) (narrow name)

/-! ### What is accepted -/

/-- The bytes of a cell. -/
def cellBytes (cell : UInt32) : List UInt8 := toBeBytes cell.toNat

/-- Two cells for each id, of which the first is zero. -/
def idBytes (ids : List UInt32) : List UInt8 := ids.flatMap fun id => cellBytes 0 ++ cellBytes id

theorem length_cellBytes (cell : UInt32) : (cellBytes cell).length = 4 := rfl

theorem fromBeBytes_cellBytes (cell : UInt32) : fromBeBytes (cellBytes cell) = cell.toNat :=
  fromBeBytes_toBeBytes cell.toNat_lt

theorem cellBytes_ofNat {chunk : List UInt8} (h : chunk.length = 4) :
    cellBytes (UInt32.ofNat (fromBeBytes chunk)) = chunk := by
  obtain ⟨hlt, hbytes⟩ := toBeBytes_fromBeBytes h
  rw [cellBytes, UInt32.toNat_ofNat', Nat.mod_eq_of_lt hlt, hbytes]

variable {property : NodeProperty} {name : String} {ids : List UInt32}

/-- Cells are read from exactly the bytes they are written as. -/
theorem propertyCells_eq_ok {cells : List UInt32} :
    propertyCells (some property) name = .ok cells ↔ property.value = cells.flatMap cellBytes := by
  have hunfold : propertyCells (some property) name = (rejectIf (property.value.length % 4 ≠ 0)
        (invalid (name ++ " is not a sequence of 32-bit cells")) >>= fun _ =>
          pure ((asChunks 4 property.value).map fun chunk => UInt32.ofNat (fromBeBytes chunk))) :=
    rfl
  rw [hunfold, guard_eq_ok, rejectIf_eq_ok, not_not, pure_eq_ok, ← Nat.dvd_iff_mod_eq_zero]
  constructor
  · intro ⟨hdvd, hcells⟩
    obtain ⟨hvalue, hlengths⟩ := (asChunks_eq_iff (by decide) hdvd).mp rfl
    rw [← hcells, List.flatMap_map]
    nth_rewrite 1 [hvalue]
    rw [← List.flatMap_id', List.flatMap_congr]
    intro chunk hchunk
    rw [cellBytes_ofNat (hlengths chunk hchunk)]
  · intro hvalue
    have hflatten : property.value = (cells.map cellBytes).flatten := by
      rw [hvalue, List.flatMap_def]
    have hlengths : ∀ chunk ∈ cells.map cellBytes, chunk.length = 4 := by simp [length_cellBytes]
    refine ⟨hflatten ▸ dvd_length_flatten hlengths, ?_⟩
    rw [hflatten, asChunks_flatten (by decide) hlengths, List.map_map]
    simp [Function.comp_def, fromBeBytes_cellBytes]

theorem toNat_joinCells (high low : UInt32) :
    (joinCells high low).toNat = high.toNat * 2 ^ 32 + low.toNat := by
  have hhigh := high.toNat_lt
  have hor := Nat.two_pow_add_eq_or_of_lt low.toNat_lt high.toNat
  have hshift : high.toNat * 2 ^ 32 % 2 ^ 64 = 2 ^ 32 * high.toNat := by omega
  rw [joinCells, UInt64.toNat_or, UInt64.toNat_shiftLeft, UInt32.toNat_toUInt64,
    UInt32.toNat_toUInt64, Nat.shiftLeft_eq]
  show high.toNat * 2 ^ 32 % 2 ^ 64 ||| low.toNat = _
  rw [hshift, ← hor, Nat.mul_comm]

/-- One cell is read from its four bytes and from no others. -/
theorem propertyU32_eq_ok {value : UInt32} :
    propertyU32 (some property) name = .ok value ↔ property.value = cellBytes value := by
  constructor
  · intro h
    obtain ⟨cells, hcells, h⟩ := bind_eq_ok.mp h
    rw [propertyCells_eq_ok] at hcells
    match cells, h with
    | [cell], h =>
        obtain rfl := pure_eq_ok.mp h
        simpa using hcells
  · intro hvalue
    refine bind_eq_ok.mpr ⟨[value], propertyCells_eq_ok.mpr ?_, rfl⟩
    simpa using hvalue

/-- A 64-bit number is read from its eight bytes and from no others. -/
theorem propertyU64_eq_ok {value : UInt64} : propertyU64 (some property) name = .ok value ↔
      property.value.length = 8 ∧ fromBeBytes property.value = value.toNat := by
  constructor
  · intro h
    obtain ⟨cells, hcells, h⟩ := bind_eq_ok.mp h
    rw [propertyCells_eq_ok] at hcells
    match cells, h with
    | [high, low], h =>
        obtain rfl := pure_eq_ok.mp h
        have hbytes : property.value = cellBytes high ++ cellBytes low := by simpa using hcells
        refine ⟨by simp [hbytes, length_cellBytes], ?_⟩
        rw [hbytes, fromBeBytes_append (length_cellBytes low), fromBeBytes_cellBytes,
          fromBeBytes_cellBytes, toNat_joinCells]
  · intro ⟨hlength, hvalue⟩
    have hhigh : (property.value.take 4).length = 4 := by simp [hlength]
    have hlow : (property.value.drop 4).length = 4 := by simp [hlength]
    have hjoined : joinCells (.ofNat (fromBeBytes (property.value.take 4)))
        (.ofNat (fromBeBytes (property.value.drop 4))) = value := by
      apply UInt64.toNat_inj.mp
      rw [toNat_joinCells, UInt32.toNat_ofNat', UInt32.toNat_ofNat',
        Nat.mod_eq_of_lt (toBeBytes_fromBeBytes hhigh).1,
        Nat.mod_eq_of_lt (toBeBytes_fromBeBytes hlow).1, ← fromBeBytes_append hlow,
        List.take_append_drop, hvalue]
    refine bind_eq_ok.mpr ⟨[_, _], propertyCells_eq_ok.mpr ?_, congrArg Except.ok hjoined⟩
    simp [cellBytes_ofNat hhigh, cellBytes_ofNat hlow]

/-- A pair of cells is an id when its first cell is zero. -/
theorem narrow_eq_ok {pair : List UInt32} (h : pair.length = 2) {id : UInt32} :
    narrow name pair = .ok id ↔ pair = [0, id] := by
  match pair, h with
  | [high, low], _ =>
      have hjoined := toNat_joinCells high low
      have hlow := low.toNat_lt
      have hnarrow : narrow name [high, low] = (rejectIf (2 ^ 32 ≤ (joinCells high low).toNat)
          (invalid (name ++ " contains a hardware ID larger than u32")) >>= fun _ =>
            pure (joinCells high low).toUInt32) := rfl
      rw [hnarrow, guard_eq_ok, rejectIf_eq_ok, pure_eq_ok, hjoined]
      simp only [List.cons.injEq, and_true, ← UInt32.toNat_inj, UInt64.toNat_toUInt32, hjoined,
        UInt32.toNat_zero]
      omega

theorem collectEach_narrow_eq_ok {pairs : List (List UInt32)}
    (h : ∀ pair ∈ pairs, pair.length = 2) :
    collectEach pairs (narrow name) = .ok ids ↔ pairs = ids.map fun id => [0, id] := by
  induction pairs generalizing ids with
  | nil =>
      rw [collectEach_eq_ok, List.forall₂_nil_left_iff]
      cases ids <;> simp
  | cons pair pairs ih =>
      obtain ⟨hpair, hpairs⟩ := List.forall_mem_cons.mp h
      rw [collectEach_eq_ok]
      cases ids with
      | nil =>
          refine iff_of_false (fun hall => ?_) (by simp)
          cases hall
      | cons id ids =>
          rw [List.forall₂_cons, narrow_eq_ok hpair, ← collectEach_eq_ok, ih hpairs, List.map_cons,
            List.cons.injEq]

/-- The cells of ids are their bytes. -/
theorem flatMap_cellBytes (ids : List UInt32) :
    (ids.flatMap fun id => [0, id]).flatMap cellBytes = idBytes ids := by
  rw [List.flatMap_assoc, idBytes]
  simp

theorem flatten_map_pair (ids : List UInt32) :
    (ids.map fun id => [0, id]).flatten = ids.flatMap fun id => [0, id] := by
  rw [List.flatMap_def]

/-- Hardware ids are read from exactly the bytes they are written as, except that the bytes of a
single zero are read as no ids. -/
theorem propertyHardwareIds_eq_ok : propertyHardwareIds (some property) name = .ok ids ↔
      (property.value = idBytes [0] ∧ ids = []) ∨ (property.value = idBytes ids ∧ ids ≠ [0]) := by
  have hunfold : propertyHardwareIds (some property) name =
      (propertyCells (some property) name >>= fun cells =>
        if cells = [0, 0] then pure []
        else rejectIf (cells.length % 2 ≠ 0) (invalid (name ++ " must contain pairs of cells")) >>=
          fun _ => collectEach (asChunks 2 cells) (narrow name)) := rfl
  have hlengths : ∀ pair ∈ ids.map fun id => [(0 : UInt32), id], pair.length = 2 := by simp
  rw [hunfold]
  constructor
  · intro h
    obtain ⟨cells, hcells, h⟩ := bind_eq_ok.mp h
    rw [propertyCells_eq_ok] at hcells
    by_cases hzero : cells = [0, 0]
    · rw [if_pos hzero, pure_eq_ok] at h
      exact .inl ⟨by rw [hcells, hzero]; rfl, h.symm⟩
    · rw [if_neg hzero, guard_eq_ok, rejectIf_eq_ok, not_not, ← Nat.dvd_iff_mod_eq_zero] at h
      obtain ⟨hdvd, hids⟩ := h
      obtain ⟨hflatten, hpairs⟩ := (asChunks_eq_iff (by decide) hdvd).mp rfl
      rw [(collectEach_narrow_eq_ok hpairs).mp hids, flatten_map_pair] at hflatten
      refine .inr ⟨by rw [hcells, hflatten, flatMap_cellBytes], ?_⟩
      intro hsingle
      exact hzero (by rw [hflatten, hsingle]; rfl)
  · intro h
    obtain ⟨hvalue, rfl⟩ | ⟨hvalue, hsingle⟩ := h
    · exact bind_eq_ok.mpr ⟨[0, 0], propertyCells_eq_ok.mpr hvalue, rfl⟩
    · rw [← flatMap_cellBytes] at hvalue
      have hzero : (ids.flatMap fun id => [(0 : UInt32), id]) ≠ [0, 0] := by
        intro hcells
        match ids, hsingle with
        | [], _ => simp at hcells
        | [id], hsingle => simp_all
        | _ :: _ :: _, _ => simp at hcells
      refine bind_eq_ok.mpr ⟨_, propertyCells_eq_ok.mpr hvalue, ?_⟩
      rw [if_neg hzero, guard_eq_ok, rejectIf_eq_ok, not_not, ← Nat.dvd_iff_mod_eq_zero,
        ← flatten_map_pair, asChunks_flatten (by decide) hlengths,
        collectEach_narrow_eq_ok hlengths]
      exact ⟨dvd_length_flatten hlengths, rfl⟩

/-! ### Groups of 64 bits -/

/-- The 64-bit numbers in the bytes. -/
def groups (bytes : List UInt8) : List ℕ := (asChunks 8 bytes).map fromBeBytes

/-- A group below `2 ^ 32` is an id. -/
theorem eq_cellBytes_of_lt {chunk : List UInt8} (hlength : chunk.length = 8)
    (hlt : fromBeBytes chunk < 2 ^ 32) :
    cellBytes 0 ++ cellBytes (UInt32.ofNat (fromBeBytes chunk)) = chunk := by
  have hhigh : (chunk.take 4).length = 4 := by simp [hlength]
  have hlow : (chunk.drop 4).length = 4 := by simp [hlength]
  have hvalue : fromBeBytes (chunk.take 4 ++ chunk.drop 4) = _ := fromBeBytes_append hlow
  rw [List.take_append_drop] at hvalue
  have hzero : fromBeBytes (chunk.take 4) = 0 := by omega
  have htake : cellBytes 0 = chunk.take 4 := by
    rw [← (toBeBytes_fromBeBytes hhigh).2, hzero]
    rfl
  rw [hzero, Nat.zero_mul, Nat.zero_add] at hvalue
  rw [hvalue, cellBytes_ofNat hlow, htake, List.take_append_drop]

/-- The groups of ids are the ids. -/
theorem groups_idBytes (ids : List UInt32) :
    8 ∣ (idBytes ids).length ∧ groups (idBytes ids) = ids.map UInt32.toNat := by
  have hlengths : ∀ chunk ∈ ids.map fun id => cellBytes 0 ++ cellBytes id, chunk.length = 8 := by
    simp [length_cellBytes]
  have hgroup : ∀ id, fromBeBytes (cellBytes 0 ++ cellBytes id) = id.toNat := by
    intro id
    rw [fromBeBytes_append (length_cellBytes id), fromBeBytes_cellBytes, fromBeBytes_cellBytes]
    simp
  rw [idBytes, List.flatMap_def]
  refine ⟨dvd_length_flatten hlengths, ?_⟩
  rw [groups, asChunks_flatten (by decide) hlengths, List.map_map]
  simp [Function.comp_def, hgroup]

/-- Bytes in groups below `2 ^ 32` are those of some ids. -/
theorem exists_idBytes {bytes : List UInt8} (hdvd : 8 ∣ bytes.length)
    (hlt : ∀ group ∈ groups bytes, group < 2 ^ 32) : ∃ ids, bytes = idBytes ids := by
  obtain ⟨hbytes, hlengths⟩ := (asChunks_eq_iff (by decide) hdvd).mp rfl
  refine ⟨(asChunks 8 bytes).map fun chunk => UInt32.ofNat (fromBeBytes chunk), ?_⟩
  rw [idBytes, List.flatMap_map]
  nth_rewrite 1 [hbytes]
  rw [← List.flatMap_id', List.flatMap_congr]
  intro chunk hchunk
  exact (eq_cellBytes_of_lt (hlengths chunk hchunk) (hlt _ (List.mem_map_of_mem hchunk))).symm

/-- Whatever is accepted is the bytes of some ids. -/
theorem exists_of_propertyHardwareIds (h : propertyHardwareIds (some property) name = .ok ids) :
    ∃ written, property.value = idBytes written ∧ ids = if written = [0] then [] else written := by
  obtain ⟨hvalue, rfl⟩ | ⟨hvalue, hsingle⟩ := propertyHardwareIds_eq_ok.mp h
  · exact ⟨[0], hvalue, rfl⟩
  · exact ⟨ids, hvalue, by rw [if_neg hsingle]⟩

theorem propertyHardwareIds_of_value {written : List UInt32}
    (h : property.value = idBytes written) :
    propertyHardwareIds (some property) name = .ok (if written = [0] then [] else written) := by
  rw [propertyHardwareIds_eq_ok]
  by_cases hsingle : written = [0]
  · rw [if_pos hsingle]
    exact .inl ⟨by rw [h, hsingle], rfl⟩
  · rw [if_neg hsingle]
    exact .inr ⟨h, hsingle⟩

theorem propertyHardwareIds_isOk_iff : (propertyHardwareIds (some property) name).isOk = true ↔
      8 ∣ property.value.length ∧ ∀ group ∈ groups property.value, group < 2 ^ 32 := by
  constructor
  · intro h
    cases hresult : propertyHardwareIds (some property) name with
    | error error => simp [hresult, Except.isOk, Except.toBool] at h
    | ok ids =>
        obtain ⟨written, hvalue, _⟩ := exists_of_propertyHardwareIds hresult
        obtain ⟨hdvd, hgroups⟩ := groups_idBytes written
        rw [hvalue, hgroups]
        refine ⟨hdvd, ?_⟩
        intro group hgroup
        obtain ⟨id, _, rfl⟩ := List.mem_map.mp hgroup
        exact id.toNat_lt
  · intro ⟨hdvd, hlt⟩
    obtain ⟨written, hvalue⟩ := exists_idBytes hdvd hlt
    rw [propertyHardwareIds_of_value hvalue]
    rfl

/-- Hardware ids are decoded exactly: which bytes are accepted, what they are decoded to, that every
list of ids but a single zero can be written, and which bytes mean the same. -/
theorem propertyHardwareIds_exact (property : NodeProperty) (name : String) :
    ((propertyHardwareIds (some property) name).isOk = true ↔
      8 ∣ property.value.length ∧ ∀ group ∈ groups property.value, group < 2 ^ 32) ∧
    (∀ ids, propertyHardwareIds (some property) name = .ok ids →
      if groups property.value = [0] then ids = []
      else ids.map UInt32.toNat = groups property.value) ∧
    (∀ ids, ids ≠ [0] → property.value = idBytes ids →
      propertyHardwareIds (some property) name = .ok ids) ∧
    ∀ (other : NodeProperty) (otherName : String) (ids : List UInt32),
      propertyHardwareIds (some property) name = .ok ids →
      propertyHardwareIds (some other) otherName = .ok ids →
      property.value = other.value ∨ (property.value = [] ∧ other.value = List.replicate 8 0) ∨
        (property.value = List.replicate 8 0 ∧ other.value = []) := by
  have hempty : idBytes [] = [] := rfl
  have hzero : idBytes [0] = List.replicate 8 0 := by decide
  refine ⟨propertyHardwareIds_isOk_iff, ?_, ?_, ?_⟩
  · intro ids h
    obtain ⟨written, hvalue, rfl⟩ := exists_of_propertyHardwareIds h
    have hgroups : groups property.value = written.map UInt32.toNat := by
      rw [hvalue, (groups_idBytes written).2]
    have hsingle : groups property.value = [0] ↔ written = [0] := by
      rw [hgroups]
      exact (List.map_injective_iff.mpr fun _ _ => UInt32.toNat_inj.mp).eq_iff (b := [0])
    by_cases hwritten : written = [0]
    · rw [if_pos (hsingle.mpr hwritten), if_pos hwritten]
    · rw [if_neg (fun heq => hwritten (hsingle.mp heq)), if_neg hwritten, hgroups]
  · intro ids hsingle hvalue
    rw [propertyHardwareIds_of_value hvalue, if_neg hsingle]
  · intro other otherName ids h hother
    rw [propertyHardwareIds_eq_ok] at h hother
    obtain ⟨hvalue, rfl⟩ | ⟨hvalue, _⟩ := h
    · obtain ⟨hsame, _⟩ | ⟨hsame, _⟩ := hother
      · exact .inl (hvalue.trans hsame.symm)
      · exact .inr (.inr ⟨hvalue.trans hzero, hsame.trans hempty⟩)
    · obtain ⟨hsame, rfl⟩ | ⟨hsame, _⟩ := hother
      · exact .inr (.inl ⟨hvalue.trans hempty, hsame.trans hzero⟩)
      · exact .inl (hvalue.trans hsame.symm)

example : propertyHardwareIds (some ⟨"cpus", List.replicate 8 0⟩) "cpus" = .ok [] := by decide

end Kernmux.Core
