import LunaVmm.Vcpu.Exit

/-! MMU violations: which device an exit reaches, and the instruction fetch check of
`emulate_mmio`. The `mmio_map` loop bounds a range inclusively, and the check
`(grip + 15) < align_up(grip, pmm::block_size)` is stricter than the window it guards. -/

namespace LunaVmm

/-! ## Dispatch -/

theorem mmioLookup_sound {gpa : BitVec 64} {map : List (BitVec 64 × Nat × BitVec 64)}
    {driver : Nat} (found : mmioLookup gpa map = some driver) :
    ∃ base len, (base, driver, len) ∈ map ∧ base ≤ gpa ∧ gpa ≤ base + len := by
  induction map with
  | nil => cases found
  | cons entry rest ih =>
    obtain ⟨base, d, len⟩ := entry
    unfold mmioLookup at found
    split_ifs at found with inside
    · cases found; exact ⟨base, len, List.mem_cons_self _ _, inside⟩
    · obtain ⟨b, l, mem, bounds⟩ := ih found
      exact ⟨b, l, List.mem_cons_of_mem _ mem, bounds⟩

theorem mmioLookup_eq_none {gpa : BitVec 64} {map : List (BitVec 64 × Nat × BitVec 64)} :
    mmioLookup gpa map = none ↔ ∀ entry ∈ map, ¬(entry.1 ≤ gpa ∧ gpa ≤ entry.1 + entry.2.2) := by
  induction map with
  | nil => simp [mmioLookup]
  | cons entry rest ih =>
    obtain ⟨base, d, len⟩ := entry
    unfold mmioLookup
    split_ifs with inside <;> simp_all

/-- Every MMU-violation exit goes to the LAPIC in the APIC page, else to a driver whose closed range
holds the GPA, else returns false with no call. -/
theorem mmuViolationExit_dispatch (vm : Vm) (env : Env) (cpu : VCPU) (regs : RegisterState)
    (gpa : BitVec 64) :
    (gpa &&& ofInt (~~~0xFFF) = cpu.apicbase &&& ofInt (~~~0xFFF) ∧
      cpu.mmuViolationExit vm env regs gpa = cpu.emulateMmio vm env regs .lapic) ∨
    (gpa &&& ofInt (~~~0xFFF) ≠ cpu.apicbase &&& ofInt (~~~0xFFF) ∧
      ∃ base driver len, (base, driver, len) ∈ vm.mmioMap ∧ base ≤ gpa ∧ gpa ≤ base + len ∧
        cpu.mmuViolationExit vm env regs gpa = cpu.emulateMmio vm env regs (.driver driver)) ∨
    (gpa &&& ofInt (~~~0xFFF) ≠ cpu.apicbase &&& ofInt (~~~0xFFF) ∧
      (∀ entry ∈ vm.mmioMap, ¬(entry.1 ≤ gpa ∧ gpa ≤ entry.1 + entry.2.2)) ∧
      cpu.mmuViolationExit vm env regs gpa = ⟨.stop false, []⟩) := by
  by_cases apic : gpa &&& ofInt (~~~0xFFF) = cpu.apicbase &&& ofInt (~~~0xFFF)
  · exact .inl ⟨apic, by rw [VCPU.mmuViolationExit, if_pos apic]⟩
  · cases found : mmioLookup gpa vm.mmioMap with
    | none =>
      exact .inr (.inr ⟨apic, mmioLookup_eq_none.mp found,
        by rw [VCPU.mmuViolationExit, if_neg apic, found]⟩)
    | some driver =>
      obtain ⟨base, len, mem, lower, upper⟩ := mmioLookup_sound found
      exact .inr (.inl ⟨apic, base, driver, len, mem, lower, upper,
        by rw [VCPU.mmuViolationExit, if_neg apic, found]⟩)

/-- The loop bounds a range by `gpa <= base + len`: outside the LAPIC page, the first byte
past the first entry's range is emulated on that entry's driver. -/
theorem mmuViolationExit_past_range (vm : Vm) (env : Env) (cpu : VCPU) (regs : RegisterState)
    {base len : BitVec 64} {driver : Nat} {rest : List (BitVec 64 × Nat × BitVec 64)}
    (first : vm.mmioMap = (base, driver, len) :: rest) (noWrap : base ≤ base + len)
    (notApic : (base + len) &&& ofInt (~~~0xFFF) ≠ cpu.apicbase &&& ofInt (~~~0xFFF)) :
    cpu.mmuViolationExit vm env regs (base + len) = cpu.emulateMmio vm env regs (.driver driver) := by
  rw [VCPU.mmuViolationExit, if_neg notApic, first, mmioLookup,
    if_pos ⟨noWrap, BitVec.le_def.mpr (Nat.le_refl _)⟩]

def oneRangeVm : Vm := ⟨fun g => g, [(0x1000, 0, 0x1000)], fun _ => none⟩

/-- Host memory holding `mov [ebx], eax` (89 03) at 0x100. -/
def storeEnv : Env :=
  ⟨fun _ _ => none, fun a => if a = 0x100 then 0x89 else if a = 0x101 then 0x03 else 0,
    fun _ _ _ => 0, fun _ _ _ => 0⟩

def storeRegs : RegisterState :=
  { rax := 0x1234, rbx := 0x2000, rip := 0x100, cs := { attrib := { db := true } } }

theorem mmuViolationExit_past_range_page :
    oneRangeVm.mmioMap = [(0x1000, 0, 0x1000)] ∧
    (0x1000 : BitVec 64) ≤ 0x1000 + 0x1000 ∧
    (0x1000 + 0x1000 : BitVec 64) &&& ofInt (~~~0xFFF) ≠ 0xFEE00900 &&& ofInt (~~~0xFFF) ∧
    VCPU.mmuViolationExit oneRangeVm storeEnv ⟨0xFEE00900, 0, ⟨0, false, false, 0, fun _ => ⟨0, 0⟩, fun _ => 0⟩⟩
        storeRegs (0x1000 + 0x1000) =
      VCPU.emulateMmio oneRangeVm storeEnv ⟨0xFEE00900, 0, ⟨0, false, false, 0, fun _ => ⟨0, 0⟩, fun _ => 0⟩⟩
        storeRegs (.driver 0) ∧
    VCPU.mmuViolationExit oneRangeVm storeEnv ⟨0xFEE00900, 0, ⟨0, false, false, 0, fun _ => ⟨0, 0⟩, fun _ => 0⟩⟩
        storeRegs (0x1000 + 0x1000) =
      ⟨.resume ⟨0xFEE00900, 0, ⟨0, false, false, 0, fun _ => ⟨0, 0⟩, fun _ => 0⟩⟩,
        [.mmio (.driver 0) (.write 0x2000 0x1234 4), .setRegs { storeRegs with rip := 0x102 }]⟩ := by
  have noWrap : (0x1000 : BitVec 64) ≤ 0x1000 + 0x1000 := by decide
  have notApic : (0x1000 + 0x1000 : BitVec 64) &&& ofInt (~~~0xFFF) ≠
      0xFEE00900 &&& ofInt (~~~0xFFF) := by decide
  exact ⟨rfl, noWrap, notApic, mmuViolationExit_past_range _ _ _ _ rfl noWrap notApic, rfl⟩

/-! ## The fetch check -/

private theorem and_not_low12 (x : BitVec 64) : x &&& ~~~(0xFFF : BitVec 64) = (x >>> 12) <<< 12 := by
  apply BitVec.eq_of_getLsbD_eq; intro ⟨i, hi⟩
  have low : Nat.testBit 4095 i = decide (i < 12) := Nat.testBit_two_pow_sub_one 12 i
  simp only [BitVec.getLsbD_and, BitVec.getLsbD_not, BitVec.getLsbD_shiftLeft,
    BitVec.getLsbD_ushiftRight, BitVec.ofNat_eq_ofNat, BitVec.getLsbD_ofNat, low]
  by_cases small : i < 12 <;> simp [small, hi]
  congr 1; omega

theorem alignUp_toNat (x : BitVec 64) :
    (alignUp x blockSize).toNat = (x.toNat + 4095) % 2 ^ 64 / 4096 * 4096 := by
  have sub : x + blockSize - 1 = x + 0xFFF := by simp [blockSize]; bv_omega
  rw [alignUp, sub, show blockSize - 1 = 0xFFF by decide, and_not_low12]
  simp [Nat.shiftLeft_eq, Nat.shiftRight_eq_div_pow]
  omega

/-- The check accepts exactly the gRIP at offsets 1..4080 of a page below the last; in the last page
`align_up` wraps to 0. -/
theorem fetchCheck_iff (grip : BitVec 64) :
    grip + 15 < alignUp grip blockSize ↔
      0 < grip.toNat % 4096 ∧ grip.toNat % 4096 ≤ 4080 ∧ grip.toNat < 2 ^ 64 - 4096 := by
  rw [BitVec.lt_def, alignUp_toNat, BitVec.toNat_add]
  have := grip.isLt
  simp
  omega

/-- The page-window law: the 15 bytes at `grip` lie in one 4 KiB page. -/
def WithinPage (grip : BitVec 64) : Prop := grip.toNat / 4096 = (grip.toNat + 14) / 4096

instance : DecidablePred WithinPage := fun _ => inferInstanceAs (Decidable (_ = _))

end LunaVmm
