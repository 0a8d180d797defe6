import LunaVmm.RegisterState
import Mathlib.Tactic.IntervalCases

/-! The MTRR shadow of a VCPU and `VCPU::update_mtrr`, which decodes an MSR index in
0x200..0x2FF into a shadow register. Each index decodes to its own register, so the shadow
behaves as a register file keyed by index. -/

namespace LunaVmm

namespace Msr

/-! Modelled from the spec: the architectural indices of the `msr::` constants the VCPU uses
(`regs.hpp` under src/ declares only `apic_base`, `ia32_pat` and the VMX ones). -/

def ia32Tsc : BitVec 32 := 0x10
def ia32ApicBase : BitVec 32 := 0x1B
def ia32MtrrCap : BitVec 32 := 0xFE
def ia32MtrrPhysbase0 : BitVec 32 := 0x200
def ia32MtrrPhysmask7 : BitVec 32 := 0x20F
def ia32MtrrFix64K00000 : BitVec 32 := 0x250
def ia32MtrrFix16K80000 : BitVec 32 := 0x258
def ia32MtrrFix16KA0000 : BitVec 32 := 0x259
def ia32MtrrFix4KC0000 : BitVec 32 := 0x268
def ia32MtrrFix4KF8000 : BitVec 32 := 0x26F
def ia32MtrrDefType : BitVec 32 := 0x2FF

end Msr

open Msr

structure VarMtrr where
  base : BitVec 64
  mask : BitVec 64
  deriving DecidableEq

/-- Modelled from the spec: the `mtrr` member of `vm::VCPU` (`vm.hpp`): the default type, `var[8]`
and `fix[11]`, each the 64-bit value written. -/
structure Mtrr where
  cmd : BitVec 64
  enable : Bool
  fixedEnable : Bool
  defaultType : BitVec 8
  var : Nat → VarMtrr
  fix : Nat → BitVec 64

/-- `update_mtrr`: the shadow afterwards and the in/out `value`, which a read replaces; its
`update()` hook only holds commented-out output. -/
def updateMtrr (m : Mtrr) (write : Bool) (index : BitVec 32) (value : BitVec 64) :
    Mtrr × BitVec 64 :=
  if index = ia32MtrrDefType then
    if write then
      ({ m with cmd := value, enable := (value >>> 11) &&& 1 != 0,
                fixedEnable := (value >>> 10) &&& 1 != 0, defaultType := (value &&& 0xFF).setWidth 8 },
        value)
    else (m, m.cmd)
  else if ia32MtrrPhysbase0 ≤ index ∧ index ≤ ia32MtrrPhysmask7 then
    let i := (((index - ia32MtrrPhysbase0) &&& ~~~1) / 2).toNat
    let mask := index &&& 1 != 0
    if write then
      ({ m with var := fun k => if k = i then
          (if mask then { m.var k with mask := value } else { m.var k with base := value })
          else m.var k }, value)
    else (m, if mask then (m.var i).mask else (m.var i).base)
  else if index = ia32MtrrFix64K00000 then
    if write then ({ m with fix := fun k => if k = 0 then value else m.fix k }, value)
    else (m, m.fix 0)
  else if index = ia32MtrrFix16K80000 ∨ index = ia32MtrrFix16KA0000 then
    let i := (index - ia32MtrrFix16K80000).toNat + 1
    if write then ({ m with fix := fun k => if k = i then value else m.fix k }, value)
    else (m, m.fix i)
  else if ia32MtrrFix4KC0000 ≤ index ∧ index ≤ ia32MtrrFix4KF8000 then
    let i := (index - ia32MtrrFix4KC0000).toNat + 3
    if write then ({ m with fix := fun k => if k = i then value else m.fix k }, value)
    else (m, m.fix i)
  else (m, value)

inductive MtrrSlot where
  | defType
  | varBase (i : Nat)
  | varMask (i : Nat)
  | fix (i : Nat)
  deriving DecidableEq

/-- The register `update_mtrr` selects: DEF_TYPE, the variable pairs at 0x200..0x20F, and the fixed
ranges in `fix` order. -/
def mtrrSlot (index : BitVec 32) : Option MtrrSlot :=
  if index = 0x2FF then some .defType
  else if 0x200 ≤ index ∧ index ≤ 0x20F then
    let i := (index.toNat - 0x200) / 2
    some (if index.toNat % 2 = 1 then .varMask i else .varBase i)
  else if index = 0x250 then some (.fix 0)
  else if index = 0x258 ∨ index = 0x259 then some (.fix (index.toNat - 0x257))
  else if 0x268 ≤ index ∧ index ≤ 0x26F then some (.fix (index.toNat - 0x265))
  else none

def MtrrSlot.index : MtrrSlot → BitVec 32
  | .defType => 0x2FF
  | .varBase i => BitVec.ofNat 32 (0x200 + 2 * i)
  | .varMask i => BitVec.ofNat 32 (0x201 + 2 * i)
  | .fix i => BitVec.ofNat 32 (if i = 0 then 0x250 else if i ≤ 2 then 0x257 + i else 0x265 + i)

namespace Mtrr

def get (m : Mtrr) : MtrrSlot → BitVec 64
  | .defType => m.cmd
  | .varBase i => (m.var i).base
  | .varMask i => (m.var i).mask
  | .fix i => m.fix i

def set (m : Mtrr) (value : BitVec 64) : MtrrSlot → Mtrr
  | .defType =>
    { m with cmd := value, enable := (value >>> 11) &&& 1 != 0,
             fixedEnable := (value >>> 10) &&& 1 != 0, defaultType := (value &&& 0xFF).setWidth 8 }
  | .varBase i => { m with var := fun k => if k = i then { m.var k with base := value } else m.var k }
  | .varMask i => { m with var := fun k => if k = i then { m.var k with mask := value } else m.var k }
  | .fix i => { m with fix := fun k => if k = i then value else m.fix k }

@[simp] theorem get_set (m : Mtrr) (value : BitVec 64) (s t : MtrrSlot) :
    (m.set value s).get t = if s = t then value else m.get t := by
  cases s <;> cases t <;> simp only [get, set] <;> split_ifs <;> simp_all

end Mtrr

private theorem var_decode (index : BitVec 32) (lower : 0x200 ≤ index) (upper : index ≤ 0x20F) :
    (((index - 0x200) &&& ~~~1) / 2).toNat = (index.toNat - 0x200) / 2 ∧
      (index &&& 1 != 0) = decide (index.toNat % 2 = 1) := by
  rw [BitVec.le_def] at lower upper
  obtain ⟨k, small, rfl⟩ : ∃ k < 16, index = BitVec.ofNat 32 (0x200 + k) :=
    ⟨index.toNat - 0x200, by simp at upper; omega, by
      apply BitVec.eq_of_toNat_eq; simp at lower ⊢; omega⟩
  interval_cases k <;> simp

/-- `update_mtrr` reads or writes the slot its index names and leaves other indices alone. -/
theorem updateMtrr_eq (m : Mtrr) (write : Bool) (index : BitVec 32) (value : BitVec 64) :
    updateMtrr m write index value =
      match mtrrSlot index with
      | some s => if write then (m.set value s, value) else (m, m.get s)
      | none => (m, value) := by
  unfold updateMtrr mtrrSlot
  simp only [Msr.ia32MtrrDefType, Msr.ia32MtrrPhysbase0, Msr.ia32MtrrPhysmask7,
    Msr.ia32MtrrFix64K00000, Msr.ia32MtrrFix16K80000, Msr.ia32MtrrFix16KA0000,
    Msr.ia32MtrrFix4KC0000, Msr.ia32MtrrFix4KF8000]
  by_cases defType : index = 0x2FF
  · subst defType; cases write <;> simp [Mtrr.set, Mtrr.get]
  simp only [if_neg defType]
  by_cases var : 0x200 ≤ index ∧ index ≤ 0x20F
  · obtain ⟨i, mask⟩ := var_decode index var.1 var.2
    simp only [if_pos var, i, mask]
    by_cases odd : index.toNat % 2 = 1 <;> cases write <;> simp [odd, Mtrr.set, Mtrr.get]
  simp only [if_neg var]
  by_cases fix64 : index = 0x250
  · subst fix64; cases write <;> simp [Mtrr.set, Mtrr.get]
  simp only [if_neg fix64]
  by_cases fix16 : index = 0x258 ∨ index = 0x259
  · rcases fix16 with rfl | rfl <;> cases write <;> simp [Mtrr.set, Mtrr.get]
  simp only [if_neg fix16]
  by_cases fix4 : 0x268 ≤ index ∧ index ≤ 0x26F
  · have i : (index - 0x268).toNat + 3 = index.toNat - 0x265 := by
      have lower := BitVec.le_def.mp fix4.1
      rw [BitVec.toNat_sub]
      simp at lower ⊢
      omega
    simp only [if_pos fix4, i]
    cases write <;> simp [Mtrr.set, Mtrr.get]
  · simp only [if_neg fix4]

theorem index_of_mtrrSlot {index : BitVec 32} {s : MtrrSlot} (decoded : mtrrSlot index = some s) :
    s.index = index := by
  unfold mtrrSlot at decoded
  split_ifs at decoded with defType var odd fix64 fix16 fix4 <;> cases decoded
  · exact defType.symm
  all_goals try simp only [BitVec.le_def] at var
  · apply BitVec.eq_of_toNat_eq
    simp [MtrrSlot.index] at var ⊢
    omega
  · apply BitVec.eq_of_toNat_eq
    simp [MtrrSlot.index] at var ⊢
    omega
  · exact fix64.symm
  · rcases fix16 with rfl | rfl <;> rfl
  · simp only [BitVec.le_def] at fix4
    apply BitVec.eq_of_toNat_eq
    simp at fix4
    rw [MtrrSlot.index, if_neg (show ¬index.toNat - 0x265 = 0 by omega),
      if_neg (show ¬index.toNat - 0x265 ≤ 2 by omega)]
    simp
    omega

end LunaVmm
