import LunaVmm.RegisterState
import Mathlib.Tactic.IntervalCases

/-! The Q35 LPC bridge of `lpc.hpp`: a 256-byte PCI configuration space behind byte, word
and dword views, the write dispatcher `pci_write` and the register side effects that move
the ACPI PM block. The ACPI device is observed through the calls it receives. -/

namespace LunaVmm.Lpc

def capBase : Nat := 0xE0
def pmbase : Nat := 0x40
def acpiCntl : Nat := 0x44
def pirqABase : Nat := 0x60
def pirqALen : Nat := 0x4
def pirqBBase : Nat := 0x68
def pirqBLen : Nat := 0x4
def rootComplexBase : Nat := 0xF0

/-- Modelled from the spec: `sizeof(pci::ConfigSpaceHeader)` (`pci.hpp`, not under src/), the
64-byte type-0 header. -/
def configSpaceHeaderSize : Nat := 0x40

/-- Modelled from the spec: `ranges_overlap` (`common.hpp`, not under src/) on the half-open
ranges `[a, a + alen)` and `[b, b + blen)`. -/
def rangesOverlap (a alen b blen : Nat) : Bool := a < b + blen && b < a + alen

/-- Modelled from the spec: `pci::ConfigSpace` (`pci.hpp`, not under src/), a union of the
256 bytes with their 16- and 32-bit views; on x86 the views are little-endian. -/
structure ConfigSpace where
  data8 : Fin 256 → BitVec 8

namespace ConfigSpace

def byte (s : ConfigSpace) (i : Nat) : BitVec 8 := if h : i < 256 then s.data8 ⟨i, h⟩ else 0

def data16 (s : ConfigSpace) (k : Nat) : BitVec 16 := s.byte (2 * k + 1) ++ s.byte (2 * k)

def data32 (s : ConfigSpace) (k : Nat) : BitVec 32 :=
  s.byte (4 * k + 3) ++ s.byte (4 * k + 2) ++ s.byte (4 * k + 1) ++ s.byte (4 * k)

def setData8 (s : ConfigSpace) (i : Nat) (v : BitVec 8) : ConfigSpace :=
  ⟨fun k => if k.val = i then v else s.data8 k⟩

def setData16 (s : ConfigSpace) (k : Nat) (v : BitVec 16) : ConfigSpace :=
  (s.setData8 (2 * k) (v.extractLsb' 0 8)).setData8 (2 * k + 1) (v.extractLsb' 8 8)

def setData32 (s : ConfigSpace) (k : Nat) (v : BitVec 32) : ConfigSpace :=
  (((s.setData8 (4 * k) (v.extractLsb' 0 8)).setData8 (4 * k + 1) (v.extractLsb' 8 8)).setData8
    (4 * k + 2) (v.extractLsb' 16 8)).setData8 (4 * k + 3) (v.extractLsb' 24 8)

/-- Byte `j` of a little-endian value. -/
def byteOf (v : BitVec 32) (j : Nat) : BitVec 8 := v.extractLsb' (8 * j) 8

theorem byte_setData8 (s : ConfigSpace) (i j : Nat) (v : BitVec 8) :
    (s.setData8 i v).byte j = if j = i ∧ j < 256 then v else s.byte j := by
  by_cases hj : j < 256 <;> simp [byte, setData8, hj]

theorem byte_setData32 (s : ConfigSpace) (k j : Nat) (v : BitVec 32) (small : 4 * k + 4 ≤ 256) :
    (s.setData32 k v).byte j = if 4 * k ≤ j ∧ j < 4 * k + 4 then byteOf v (j - 4 * k) else s.byte j := by
  simp only [setData32, byte_setData8, byteOf]
  split_ifs <;> first | omega | (congr 1; omega) | rfl

theorem byte_setData16 (s : ConfigSpace) (k j : Nat) (v : BitVec 16) (small : 2 * k + 2 ≤ 256) :
    (s.setData16 k v).byte j =
      if 2 * k ≤ j ∧ j < 2 * k + 2 then v.extractLsb' (8 * (j - 2 * k)) 8 else s.byte j := by
  simp only [setData16, byte_setData8]
  split_ifs <;> first | omega | (congr 1; omega) | rfl

theorem setWidth8_eq_byteOf (v : BitVec 32) : v.setWidth 8 = byteOf v 0 := by
  apply BitVec.eq_of_getLsbD_eq; intro ⟨i, hi⟩
  simp [byteOf, hi]

theorem extractLsb'_setWidth16 (v : BitVec 32) {j : Nat} (small : j < 2) :
    (v.setWidth 16).extractLsb' (8 * j) 8 = byteOf v j := by
  apply BitVec.eq_of_getLsbD_eq; intro ⟨i, hi⟩
  simp [byteOf, hi]; omega

theorem byteOf_data32 (s : ConfigSpace) (k : Nat) {j : Nat} (small : j < 4) :
    byteOf (s.data32 k) j = s.byte (4 * k + j) := by
  apply BitVec.eq_of_getLsbD_eq; intro ⟨i, hi⟩
  simp only [byteOf, data32, BitVec.getLsbD_extractLsb', BitVec.getLsbD_append, hi,
    decide_True, Bool.true_and, cond_eq_if, decide_eq_true_eq]
  interval_cases j <;> split_ifs <;> first | omega | (congr 1; omega)

/-- The access-size switch shared by `pci_write`'s `do_write` and the end of `pci_update`. -/
def store (s : ConfigSpace) (reg : Nat) (value : BitVec 32) (size : Nat) :
    Except Fault ConfigSpace :=
  match size with
  | 1 => .ok (s.setData8 reg (value.setWidth 8))
  | 2 => .ok (s.setData16 (reg / 2) (value.setWidth 16))
  | 4 => .ok (s.setData32 (reg / 4) value)
  | _ => .error (.panic "Unknown PCI Access size")


theorem store_size {s s' : ConfigSpace} {reg size : Nat} {value : BitVec 32}
    (stored : s.store reg value size = .ok s') : size = 1 ∨ size = 2 ∨ size = 4 := by
  unfold store at stored
  split at stored <;> simp_all

/-- A store writes `size` bytes of `value` from `reg` rounded down to the access size. -/
theorem byte_store {s s' : ConfigSpace} {reg size : Nat} {value : BitVec 32} (j : Nat)
    (stored : s.store reg value size = .ok s') (inside : reg < 256) :
    s'.byte j = if reg / size * size ≤ j ∧ j < reg / size * size + size
      then byteOf value (j - reg / size * size) else s.byte j := by
  unfold store at stored
  split at stored <;> simp only [Except.ok.injEq, reduceCtorEq] at stored <;> subst stored
  · rw [byte_setData8, setWidth8_eq_byteOf]
    by_cases same : j = reg
    · subst same; simp [inside]
    · have outside : ¬(reg ≤ j ∧ j < reg + 1) := by omega
      simp [same, outside]
  · rw [byte_setData16 _ _ _ _ (by omega)]
    by_cases inRange : 2 * (reg / 2) ≤ j ∧ j < 2 * (reg / 2) + 2
    · rw [if_pos inRange, if_pos (by omega), extractLsb'_setWidth16 _ (by omega)]
      congr 1; omega
    · rw [if_neg inRange, if_neg (by omega)]
  · rw [byte_setData32 _ _ _ _ (by omega)]
    by_cases inRange : 4 * (reg / 4) ≤ j ∧ j < 4 * (reg / 4) + 4
    · rw [if_pos inRange, if_pos (by omega)]
      congr 1; omega
    · rw [if_neg inRange, if_neg (by omega)]

end ConfigSpace

/-- The fields of `lpc::Driver` the modelled functions use; `acpiUpdates` lists the calls
`acpi_dev->update(enable, base)` received, the most recent first. -/
structure Driver where
  space : ConfigSpace
  acpiEnable : Bool
  acpiPmbase : BitVec 16
  sci : BitVec 8
  rootComplexEnable : Bool
  rootComplexAddr : BitVec 32
  acpiUpdates : List (Bool × BitVec 16)

/-- `Driver::Driver`: its stores over whatever the object's memory held. The header offsets
are those of the PCI type-0 header (modelled from the spec: `pci.hpp` is not under src/). -/
def Driver.new (raw : Driver) : Driver :=
  let space := raw.space
    |>.setData16 0 0x8086 |>.setData16 1 0x2918    -- vendor_id, device_id
    |>.setData16 2 0b111 |>.setData16 3 0x210      -- command, status
    |>.setData8 8 2 |>.setData8 0xB 6 |>.setData8 0xA 1 |>.setData8 9 0
    |>.setData8 0xE 0x80 |>.setData8 0x34 (BitVec.ofNat 8 capBase)
    |>.setData8 capBase 9 |>.setData8 (capBase + 1) 0
    |>.setData8 (capBase + 2) 0xC |>.setData8 (capBase + 3) 0x10
    |>.setData32 ((capBase + 4) / 4) 0 |>.setData32 ((capBase + 8) / 4) 0
    |>.setData32 (pmbase / 4) 1 |>.setData8 acpiCntl 0
    |>.setData8 pirqABase 0x80 |>.setData8 (pirqABase + 1) 0x80
    |>.setData8 (pirqABase + 2) 0x80 |>.setData8 (pirqABase + 3) 0x80
    |>.setData8 pirqBBase 0x80 |>.setData8 (pirqBBase + 1) 0x80
    |>.setData8 (pirqBBase + 2) 0x80 |>.setData8 (pirqBBase + 3) 0x80
    |>.setData32 (rootComplexBase / 4) 0
  { raw with space, acpiUpdates := [] }

def Driver.pirqUpdate (d : Driver) : Driver := d

def Driver.pmbaseUpdate (d : Driver) : Driver :=
  let space := d.space.setData32 (pmbase / 4) (d.space.data32 (pmbase / 4) ||| 1)
  { d with space, acpiPmbase := (space.data32 (pmbase / 4) &&& ~~~1).setWidth 16 }

def sciMap : Nat → BitVec 8
  | 0b000 => 9
  | 0b001 => 10
  | 0b010 => 11
  | 0b100 => 20
  | 0b101 => 21
  | _ => 0xFF

def Driver.acpiCntlUpdate (d : Driver) : Driver :=
  let cntl := d.space.byte acpiCntl
  let acpiEnable := (cntl >>> 7) &&& 1 != 0
  { d with acpiEnable, sci := sciMap (cntl &&& 0x7).toNat,
           acpiUpdates := (acpiEnable, d.acpiPmbase) :: d.acpiUpdates }

def Driver.rootComplexBaseUpdate (d : Driver) : Driver :=
  let rcba := d.space.data32 (rootComplexBase / 4)
  { d with rootComplexEnable := rcba &&& 1 != 0, rootComplexAddr := (rcba >>> 13) <<< 13 }

/-- The BAR offsets `pci_update` tries `handle_bar` on: BAR0 to BAR5 and the expansion ROM. -/
def barOffsets : List Nat := [0x10, 0x14, 0x18, 0x1C, 0x20, 0x24, 0x30]

/-- `handle_bar` for the BAR at `reg`: it stores to `data32[reg]`, not `data32[reg / 4]`. -/
def Driver.handleBar (d : Driver) (reg size : Nat) (value : BitVec 32) : Except Fault Driver :=
  if size = 4 then
    .ok { d with space := d.space.setData32 reg (if value = 0xFFFFFFFF then 0xFFFFFFFF else value) }
  else .error (.panic "size == 4")

def Driver.pciUpdate (d : Driver) (reg size : Nat) (value : BitVec 32) : Except Fault Driver :=
  if reg ∈ barOffsets then d.handleBar reg size value
  else (d.space.store reg value size).map fun space => { d with space }

/-- The register window a write lands in: the `if` chain of `pci_write`, in its order. -/
inductive Window where
  | header | pirq | pmbase | acpiCntl | rootComplex | unhandled
  deriving DecidableEq

def window (reg size : Nat) : Window :=
  if rangesOverlap reg size 0 configSpaceHeaderSize then .header
  else if rangesOverlap reg size pirqABase pirqALen || rangesOverlap reg size pirqBBase pirqBLen
    then .pirq
  else if rangesOverlap reg size pmbase 4 then .pmbase
  else if rangesOverlap reg size acpiCntl 1 then .acpiCntl
  else if rangesOverlap reg size rootComplexBase 4 then .rootComplex
  else .unhandled

def Driver.pciWrite (d : Driver) (reg : Nat) (value : BitVec 32) (size : Nat) :
    Except Fault Driver :=
  let doWrite (update : Driver → Driver) :=
    (d.space.store reg value size).map fun space => update { d with space }
  match window reg size with
  | .header => d.pciUpdate reg size value
  | .pirq => doWrite Driver.pirqUpdate
  | .pmbase => doWrite Driver.pmbaseUpdate
  | .acpiCntl => doWrite Driver.acpiCntlUpdate
  | .rootComplex => doWrite Driver.rootComplexBaseUpdate
  | .unhandled => .ok d

/-- Every view index `pci_read` forms is in the buffer exactly when `reg < 256`. -/
def Driver.pciRead (d : Driver) (reg size : Nat) : Except Fault (BitVec 32) :=
  if reg < 256 then
    match size with
    | 1 => .ok ((d.space.byte reg).setWidth 32)
    | 2 => .ok ((d.space.data16 (reg / 2)).setWidth 32)
    | 4 => .ok (d.space.data32 (reg / 4))
    | _ => .error (.panic "Unknown PCI Access size")
  else .error (.outOfBounds reg)

structure PciWrite where
  reg : Nat
  value : BitVec 32
  size : Nat

/-- A sequence of configuration writes from the guest; a panic ends it. -/
def Driver.run (d : Driver) : List PciWrite → Except Fault Driver
  | [] => .ok d
  | w :: ws => (d.pciWrite w.reg w.value w.size).bind fun d' => d'.run ws

end LunaVmm.Lpc
