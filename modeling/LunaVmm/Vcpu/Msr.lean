import LunaVmm.Vcpu.Exit

/-! The MSR exit as a register file. Each index the VCPU handles names one register of its
state (`msrReg`), `msrAccess` reads or writes that register, and over a run of MSR exits an
RDMSR returns the last value a WRMSR stored at the same index. -/

namespace LunaVmm

open Msr

def msrIndex (regs : RegisterState) : BitVec 32 := regs.rcx.setWidth 32

def msrValue (regs : RegisterState) : BitVec 64 := regs.rdx.setWidth 32 ++ regs.rax.setWidth 32

def rdmsrResult (regs : RegisterState) (value : BitVec 64) : RegisterState :=
  { regs with rax := (value.setWidth 32).setWidth 64, rdx := value >>> 32 }

/-- The indices whose value the VCPU keeps: IA32_TSC, IA32_APIC_BASE and the MTRRs. -/
def HandledMsr (index : BitVec 32) : Prop :=
  index = 0x10 ∨ index = 0x1B ∨ index = 0x2FF ∨ (0x200 ≤ index ∧ index ≤ 0x20F) ∨
    index = 0x250 ∨ index = 0x258 ∨ index = 0x259 ∨ (0x268 ≤ index ∧ index ≤ 0x26F)

instance : DecidablePred HandledMsr := fun _ => inferInstanceAs (Decidable (_ ∨ _))

inductive MsrReg where
  | tsc
  | apicbase
  | mtrr (slot : MtrrSlot)
  deriving DecidableEq

/-- The register the MSR exit reads or writes for an index, as its if-chain and `update_mtrr` select
it. -/
def msrReg (index : BitVec 32) : Option MsrReg :=
  if index = ia32Tsc then some .tsc
  else if index = ia32ApicBase then some .apicbase
  else (mtrrSlot index).map .mtrr

namespace VCPU

def get (cpu : VCPU) : MsrReg → BitVec 64
  | .tsc => cpu.tsc
  | .apicbase => cpu.apicbase
  | .mtrr s => cpu.mtrr.get s

def set (cpu : VCPU) (value : BitVec 64) : MsrReg → VCPU
  | .tsc => { cpu with tsc := value }
  | .apicbase => { cpu with apicbase := value }
  | .mtrr s => { cpu with mtrr := cpu.mtrr.set value s }

def shadow (cpu : VCPU) (index : BitVec 32) : BitVec 64 :=
  ((msrReg index).map cpu.get).getD 0

@[simp] theorem get_set (cpu : VCPU) (value : BitVec 64) (r t : MsrReg) :
    (cpu.set value r).get t = if r = t then value else cpu.get t := by
  cases r <;> cases t <;> simp [get, set]

end VCPU

/-! ## Index decoding -/

private theorem mtrrSlot_isSome_iff (index : BitVec 32) :
    (mtrrSlot index).isSome ↔ index = 0x2FF ∨ (0x200 ≤ index ∧ index ≤ 0x20F) ∨
      index = 0x250 ∨ index = 0x258 ∨ index = 0x259 ∨ (0x268 ≤ index ∧ index ≤ 0x26F) := by
  unfold mtrrSlot
  split_ifs <;> simp_all
  -- left: the fixed-range test that is itself a disjunction, 0x258 or 0x259
  rcases ‹_ ∨ _› with rfl | rfl <;> decide

theorem mtrrSlot_window {index : BitVec 32} {s : MtrrSlot} (decoded : mtrrSlot index = some s) :
    0x200 ≤ index ∧ index ≤ 0x2FF := by
  have := (mtrrSlot_isSome_iff index).mp (by simp [decoded])
  bv_omega

def MsrReg.index : MsrReg → BitVec 32
  | .tsc => ia32Tsc
  | .apicbase => ia32ApicBase
  | .mtrr s => s.index

theorem index_of_msrReg {index : BitVec 32} {r : MsrReg} (decoded : msrReg index = some r) :
    r.index = index := by
  unfold msrReg at decoded
  split_ifs at decoded with tsc apic
  · cases decoded; exact tsc.symm
  · cases decoded; exact apic.symm
  · obtain ⟨s, slot, rfl⟩ := Option.map_eq_some'.mp decoded
    exact index_of_mtrrSlot slot

theorem msrReg_inj {a b : BitVec 32} {r : MsrReg} (left : msrReg a = some r)
    (right : msrReg b = some r) : a = b :=
  (index_of_msrReg left).symm.trans (index_of_msrReg right)

theorem handledMsr_iff (index : BitVec 32) : HandledMsr index ↔ (msrReg index).isSome := by
  unfold msrReg
  split_ifs with tsc apic
  · simp [HandledMsr, tsc, ia32Tsc]
  · simp [HandledMsr, apic, ia32ApicBase]
  · rw [Option.isSome_map', mtrrSlot_isSome_iff, HandledMsr]
    simp only [ia32Tsc, ia32ApicBase] at tsc apic
    simp_all

/-! ## One MSR exit -/

private theorem exit_index (regs : RegisterState) :
    (regs.rcx &&& ofUnsigned 0xFFFFFFFF).setWidth 32 = msrIndex regs :=
  setWidth_and_low32 regs.rcx

private theorem exit_value (regs : RegisterState) :
    (regs.rax &&& ofUnsigned 0xFFFFFFFF) ||| (regs.rdx <<< 32) = msrValue regs := by
  rw [and_low32]
  apply BitVec.eq_of_getLsbD_eq; intro ⟨i, hi⟩
  rw [msrValue, BitVec.getLsbD_append]
  by_cases low : i < 32 <;> simp [low, hi]
  omega

theorem msrExit_eq (cpu : VCPU) (regs : RegisterState) (write : Bool) :
    cpu.msrExit regs write =
      ⟨.resume (cpu.msrAccess write (msrIndex regs) (msrValue regs)).1,
        if write then (cpu.msrAccess write (msrIndex regs) (msrValue regs)).2.2
        else (cpu.msrAccess write (msrIndex regs) (msrValue regs)).2.2 ++
          [.setRegs (rdmsrResult regs (cpu.msrAccess write (msrIndex regs) (msrValue regs)).2.1)]⟩ := by
  unfold VCPU.msrExit
  simp only [exit_index, exit_value]
  rcases access : cpu.msrAccess write (msrIndex regs) (msrValue regs) with ⟨cpu', value, injections⟩
  cases write <;> simp only [writeLow32_eq, and_low32, high32_setWidth] <;> simp [rdmsrResult]

/-- The index dispatch reads or writes the register its index names; any other index stores nothing
and reads 0, or the value passed in within 0x200..0x2FF. -/
theorem msrAccess_eq (cpu : VCPU) (write : Bool) (index : BitVec 32) (value : BitVec 64) :
    cpu.msrAccess write index value =
      match msrReg index with
      | some r =>
        if write then (cpu.set value r, value, if r = .apicbase then [.updateApicbase value] else [])
        else (cpu, cpu.get r, [])
      | none =>
        (cpu, if index = ia32MtrrCap then 0x508
              else if write ∨ (0x200 ≤ index ∧ index ≤ 0x2FF) then value else 0,
          if write ∧ index = ia32MtrrCap then [.injectInt .exception 13 true 0] else []) := by
  unfold VCPU.msrAccess msrReg
  by_cases tsc : index = ia32Tsc
  · cases write <;> simp [tsc, VCPU.set, VCPU.get]
  by_cases cap : index = ia32MtrrCap
  · subst cap
    cases write <;> simp [mtrrSlot, ia32Tsc, ia32ApicBase, ia32MtrrCap] <;> decide
  by_cases apic : index = ia32ApicBase
  · cases write <;> simp [apic, ia32Tsc, ia32ApicBase, ia32MtrrCap, VCPU.set, VCPU.get]
  simp only [if_neg tsc, if_neg cap, if_neg apic]
  by_cases window : 0x200 ≤ index ∧ index ≤ 0x2FF
  · rw [if_pos window, updateMtrr_eq]
    cases slot : mtrrSlot index <;> cases write <;>
      simp only [window, and_self, or_true, if_true] <;> simp [cap, VCPU.set, VCPU.get]
  · have none : mtrrSlot index = none := by
      cases slot : mtrrSlot index with
      | none => rfl
      | some s => exact absurd (mtrrSlot_window slot) window
    rw [if_neg window, none]
    cases write <;> simp only [window, or_false, if_false] <;> simp [cap]

theorem shadow_msrAccess (cpu : VCPU) (write : Bool) (index index' : BitVec 32)
    (value : BitVec 64) (handled : HandledMsr index') :
    (cpu.msrAccess write index value).1.shadow index' =
      if write ∧ index = index' then value else cpu.shadow index' := by
  obtain ⟨r', named⟩ := Option.isSome_iff_exists.mp ((handledMsr_iff index').mp handled)
  rw [msrAccess_eq]
  cases decoded : msrReg index with
  | none =>
    have other : index ≠ index' := by rintro rfl; simp [decoded] at named
    simp [other]
  | some r =>
    have same : r = r' ↔ index = index' :=
      ⟨fun eq => msrReg_inj decoded (eq ▸ named), fun eq => by simp_all⟩
    cases write <;> simp [VCPU.shadow, named, same]

/-! ## Runs of MSR exits -/

/-- The value the WRMSRs of `accesses` last stored at `index`, if any. -/
def lastWrite (index : BitVec 32) : List (Bool × RegisterState) → Option (BitVec 64)
  | [] => none
  | (write, regs) :: rest =>
    (lastWrite index rest).or (if write ∧ msrIndex regs = index then some (msrValue regs) else none)

def msrEntries (accesses : List (Bool × RegisterState)) : List Entry :=
  accesses.map fun access => .exited (.msr access.1) access.2

def VCPU.afterMsrs (cpu : VCPU) : List (Bool × RegisterState) → VCPU
  | [] => cpu
  | (write, regs) :: rest => (cpu.msrAccess write (msrIndex regs) (msrValue regs)).1.afterMsrs rest

section Runs

variable (vm : Vm) (env : Env)

/-- MSR exits never leave the loop: a run of them continues from the VCPU they leave. -/
theorem run_msrEntries (cpu : VCPU) (accesses : List (Bool × RegisterState)) (tail : List Entry) :
    ∃ calls, VCPU.run vm env cpu (msrEntries accesses ++ tail) =
      ⟨(VCPU.run vm env (cpu.afterMsrs accesses) tail).outcome,
        calls ++ (VCPU.run vm env (cpu.afterMsrs accesses) tail).calls⟩ := by
  induction accesses generalizing cpu with
  | nil => exact ⟨[], by simp [msrEntries, VCPU.afterMsrs]⟩
  | cons access rest ih =>
    obtain ⟨write, regs⟩ := access
    obtain ⟨calls, run⟩ := ih (cpu.msrAccess write (msrIndex regs) (msrValue regs)).1
    refine ⟨(cpu.msrExit regs write).calls ++ calls, ?_⟩
    simp [msrEntries] at run
    simp [msrEntries, VCPU.run, VCPU.runExit, msrExit_eq, VCPU.afterMsrs, run]

theorem shadow_afterMsrs (cpu : VCPU) (accesses : List (Bool × RegisterState))
    {index : BitVec 32} (handled : HandledMsr index) :
    (cpu.afterMsrs accesses).shadow index = (lastWrite index accesses).getD (cpu.shadow index) := by
  induction accesses generalizing cpu with
  | nil => rfl
  | cons access rest ih =>
    obtain ⟨write, regs⟩ := access
    rw [VCPU.afterMsrs, ih, shadow_msrAccess _ _ _ _ _ handled, lastWrite]
    cases lastWrite index rest <;> split_ifs <;> simp_all

/-- The MSR shadows are a register file over every run of MSR exits: an RDMSR of a kept index
returns the last value written, MTRR_CAP reads 0x508 and rejects writes with #GP(0). -/
theorem msr_shadow_file (cpu : VCPU) (accesses : List (Bool × RegisterState))
    (regs : RegisterState) (handled : HandledMsr (msrIndex regs)) :
    (∃ cpu' calls, VCPU.run vm env cpu (msrEntries (accesses ++ [(false, regs)])) =
      ⟨.running cpu', calls ++ [.setRegs (rdmsrResult regs
        ((lastWrite (msrIndex regs) accesses).getD (cpu.shadow (msrIndex regs))))]⟩) ∧
    (∀ regs : RegisterState, msrIndex regs = ia32MtrrCap →
      cpu.msrExit regs false = ⟨.resume cpu, [.setRegs (rdmsrResult regs 0x508)]⟩ ∧
      cpu.msrExit regs true = ⟨.resume cpu, [.injectInt .exception 13 true 0]⟩) ∧
    (∀ regs : RegisterState, ∀ call ∈ (cpu.msrExit regs true).calls, ∀ r, call ≠ .setRegs r) := by
  refine ⟨?_, fun regs cap => ?_, fun regs call mem r => ?_⟩
  · obtain ⟨r, named⟩ := Option.isSome_iff_exists.mp ((handledMsr_iff _).mp handled)
    obtain ⟨calls, run⟩ := run_msrEntries vm env cpu accesses [.exited (.msr false) regs]
    refine ⟨cpu.afterMsrs accesses, calls, ?_⟩
    have value := shadow_afterMsrs cpu accesses handled
    simp only [VCPU.shadow, named, Option.map_some', Option.getD_some] at value
    simp only [msrEntries, List.map_append, List.map_cons, List.map_nil] at run ⊢
    rw [run]
    simp [VCPU.run, VCPU.runExit, msrExit_eq, msrAccess_eq, named, VCPU.shadow, value]
  · have none : msrReg ia32MtrrCap = none := by decide
    constructor <;> simp [msrExit_eq, msrAccess_eq, none, cap]
  · rw [msrExit_eq, msrAccess_eq] at mem
    split at mem <;> simp at mem <;> simp [mem.2]

end Runs

theorem msr_shadow_file_physbase0 :
    HandledMsr (msrIndex { rcx := 0x200 }) ∧
    ∃ cpu' calls, VCPU.run ⟨fun _ => 0, [], fun _ => none⟩
        ⟨fun _ _ => none, fun _ => 0, fun _ _ _ => 0, fun _ _ _ => 0⟩
        ⟨0, 0, ⟨0, false, false, 0, fun _ => ⟨0, 0⟩, fun _ => 0⟩⟩
        (msrEntries [(true, { rcx := 0x200, rax := 5 }), (false, { rcx := 0x200 })]) =
      ⟨.running cpu', calls ++ [.setRegs (rdmsrResult { rcx := 0x200 } 5)]⟩ := by
  have handled : HandledMsr (msrIndex { rcx := 0x200 }) := by decide
  have readBack := (msr_shadow_file ⟨fun _ => 0, [], fun _ => none⟩
    ⟨fun _ _ => none, fun _ => 0, fun _ _ _ => 0, fun _ _ _ => 0⟩
    ⟨0, 0, ⟨0, false, false, 0, fun _ => ⟨0, 0⟩, fun _ => 0⟩⟩
    [(true, { rcx := 0x200, rax := 5 })] { rcx := 0x200 } handled).1
  have five : (lastWrite (msrIndex { rcx := 0x200 }) [(true, { rcx := 0x200, rax := 5 })]).getD
      (VCPU.shadow ⟨0, 0, ⟨0, false, false, 0, fun _ => ⟨0, 0⟩, fun _ => 0⟩⟩
        (msrIndex { rcx := 0x200 })) = 5 := by decide
  rw [five] at readBack
  exact ⟨handled, readBack⟩

/-- An MSR the VCPU does not keep, other than MTRR_CAP: a WRMSR changes nothing, an RDMSR returns 0,
or the guest's own EDX:EAX within 0x200..0x2FF. -/
theorem msrExit_unhandled (cpu : VCPU) (regs : RegisterState)
    (unhandled : ¬HandledMsr (msrIndex regs)) (notCap : msrIndex regs ≠ ia32MtrrCap) :
    cpu.msrExit regs true = ⟨.resume cpu, []⟩ ∧
    cpu.msrExit regs false = ⟨.resume cpu, [.setRegs (rdmsrResult regs
      (if 0x200 ≤ msrIndex regs ∧ msrIndex regs ≤ 0x2FF then msrValue regs else 0))]⟩ := by
  have none : msrReg (msrIndex regs) = none := by
    simpa [handledMsr_iff] using unhandled
  constructor <;> simp [msrExit_eq, msrAccess_eq, none, notCap]

theorem msrExit_unhandled_pat :
    ¬HandledMsr (msrIndex { rcx := 0x277, rax := 1 }) ∧
    msrIndex { rcx := 0x277, rax := 1 } ≠ ia32MtrrCap ∧
    VCPU.msrExit ⟨0, 0, ⟨0, false, false, 0, fun _ => ⟨0, 0⟩, fun _ => 0⟩⟩
        { rcx := 0x277, rax := 1 } false =
      ⟨.resume ⟨0, 0, ⟨0, false, false, 0, fun _ => ⟨0, 0⟩, fun _ => 0⟩⟩,
        [.setRegs (rdmsrResult { rcx := 0x277, rax := 1 } 1)]⟩ := by
  have unhandled : ¬HandledMsr (msrIndex { rcx := 0x277, rax := 1 }) := by decide
  have notCap : msrIndex { rcx := 0x277, rax := 1 } ≠ ia32MtrrCap := by decide
  obtain ⟨-, read⟩ := msrExit_unhandled ⟨0, 0, ⟨0, false, false, 0, fun _ => ⟨0, 0⟩, fun _ => 0⟩⟩
    { rcx := 0x277, rax := 1 } unhandled notCap
  have one : (if 0x200 ≤ msrIndex { rcx := 0x277, rax := 1 } ∧ msrIndex { rcx := 0x277, rax := 1 } ≤ 0x2FF
      then msrValue { rcx := 0x277, rax := 1 } else 0) = 1 := by decide
  rw [one] at read
  exact ⟨unhandled, notCap, read⟩

end LunaVmm
