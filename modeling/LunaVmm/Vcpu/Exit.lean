import LunaVmm.Emulate.Decode
import LunaVmm.Vcpu.Mtrr

/-! The exit loop of `vm::VCPU::run`, its four handlers, and the VCPU and VM constructors. What
the host and devices answer comes from an `Env`; what the VCPU asks of them is logged as `Call`s. -/

namespace LunaVmm

open Msr Emulate

/-- Modelled from the spec: the kinds of `AbstractVm::InjectType` (`vm.hpp`) that `run` injects. -/
inductive InjectType where
  | exception
  deriving DecidableEq

inductive MmioTarget where
  | lapic
  | driver (id : Nat)
  deriving DecidableEq

inductive Call where
  | setRegs (regs : RegisterState)
  | injectInt (kind : InjectType) (vector : BitVec 8) (hasError : Bool) (error : BitVec 32)
  | pioRead (driver : Nat) (port : BitVec 16) (size : Nat)
  | pioWrite (driver : Nat) (port : BitVec 16) (value : BitVec 64) (size : Nat)
  | mmio (target : MmioTarget) (access : MmioAccess)
  | updateApicbase (apicbase : BitVec 64)
  | setSimd (fcw : BitVec 16) (mxcsr : BitVec 32)
  deriving DecidableEq

/-- Modelled from the spec: `vm::VmExit` (`vm.hpp`) with the fields `run` reads; the reasons it only
logs are `other`. -/
inductive VmExit where
  | vmcall
  | mmuViolation (gpa : BitVec 64)
  | pio (port : BitVec 16) (size : Nat) (write rep string : Bool)
  | cpuid
  | msr (write : Bool)
  | other

/-- The parts of `vm::Vm` that `run` reads; `mmio_map` as (base, driver, length) in iteration order.
-/
structure Vm where
  getPhys : BitVec 64 → BitVec 64
  mmioMap : List (BitVec 64 × Nat × BitVec 64)
  pioMap : BitVec 16 → Option Nat

/-- What the host and the devices answer: `cpu::cpuid`, host memory, `pio_read` and `mmio_read`. -/
structure Env where
  cpuid : BitVec 32 → BitVec 32 → Option (BitVec 32 × BitVec 32 × BitVec 32 × BitVec 32)
  hostMem : BitVec 64 → BitVec 8
  pioRead : Nat → BitVec 16 → Nat → BitVec 64
  mmioRead : MmioTarget → BitVec 64 → Nat → BitVec 64

/-- Modelled from the spec: what `vm::VCPU` keeps across exits (`vm.hpp`): the APIC base, TSC and
MTRR shadows. -/
structure VCPU where
  apicbase : BitVec 64
  tsc : BitVec 64
  mtrr : Mtrr

inductive Next where
  | resume (cpu : VCPU)
  | stop (ok : Bool)
  | fault (fault : Fault)

structure ExitResult where
  next : Next
  calls : List Call

def ExitResult.ofExcept (cpu : VCPU) (before : List Call) : Except Fault (List Call) → ExitResult
  | .ok calls => ⟨.resume cpu, before ++ calls⟩
  | .error f => ⟨.fault f, before⟩

@[simp] theorem ExitResult.ofExcept_pure (cpu : VCPU) (before calls : List Call) :
    ExitResult.ofExcept cpu before (pure calls) = ⟨.resume cpu, before ++ calls⟩ := rfl

/-! ## The constructor -/

def dataSegment : Segment :=
  { limit := 0xFFFF, attrib := { type := 0b11, s := true, present := true } }

def resetRegs (cr0Constraint cr4Constraint eferConstraint : BitVec 64) : RegisterState :=
  { cs := { selector := 0xF000, base := 0xFFFF0000, limit := 0xFFFF,
            attrib := { type := 0b11, s := true, present := true } },
    ds := dataSegment, es := dataSegment, ss := dataSegment, fs := dataSegment, gs := dataSegment,
    ldtr := { limit := 0xFFFF, attrib := { type := 2, present := true } },
    tr := { limit := 0xFFFF, attrib := { type := 3, present := true } },
    idtr := { limit := 0xFFFF }, gdtr := { limit := 0xFFFF },
    dr6 := 0xFFFF0FF0, dr7 := 0x400, rsp := 0, rip := 0xFFF0, rflags := ofInt (1 <<< 1),
    cr0 := cr0Constraint &&& ofInt (~~~((1 <<< 0) ||| (1 <<< 31))),
    cr4 := cr4Constraint, cr3 := 0, efer := eferConstraint }

/-- `VCPU::VCPU` after its vendor switch: `tsc` and `mtrr` keep what `raw` held, and the `unsigned
int` `0xFEE0'0000` widens with zeros. -/
def VCPU.new (raw : VCPU) (id : BitVec 8) (cr0Constraint cr4Constraint eferConstraint : BitVec 64) :
    VCPU × List Call :=
  let apicbase := ofUnsigned (0xFEE00000 ||| (1 <<< 11) ||| ((if id = 0 then 1 else 0) <<< 8))
  ({ raw with apicbase },
    [.setRegs (resetRegs cr0Constraint cr4Constraint eferConstraint), .setSimd 0x40 0x1F80,
      .updateApicbase apicbase])

/-- Modelled from the spec: `CpuVendor` (`cpu.hpp`), the vendors `vm::init` stores and any other
value. -/
inductive CpuVendor where
  | intel
  | amd
  | other
  deriving DecidableEq, Repr

structure Host where
  vmxSupported : Bool
  svmSupported : Bool
  vmxCr0 : BitVec 64
  vmxCr4 : BitVec 64
  svmCr0 : BitVec 64
  svmEfer : BitVec 64

def vmInit (host : Host) : Except Fault CpuVendor :=
  if host.vmxSupported then .ok .intel
  else if host.svmSupported then .ok .amd
  else .error (.panic "Unknown virtualization vendor")

def vendorConstraints (host : Host) : CpuVendor → Except Fault (BitVec 64 × BitVec 64 × BitVec 64)
  | .intel => .ok (host.vmxCr0, host.vmxCr4, 0)
  | .amd => .ok (host.svmCr0, 0, host.svmEfer)
  | .other => .error (.panic "Unknown virtualization vendor")

def vcpuNew (host : Host) (vendor : CpuVendor) (raw : VCPU) (id : BitVec 8) :
    Except Fault (VCPU × List Call) := do
  let (cr0Constraint, cr4Constraint, eferConstraint) ← vendorConstraints host vendor
  pure (VCPU.new raw id cr0Constraint cr4Constraint eferConstraint)

/-- `vm::Vm::Vm`: its vendor switch, the ASSERT on `n_cpus`, then a `VCPU::VCPU` per id; the N/EPT
belongs to the backend. -/
def vmCreate (host : Host) (vendor : CpuVendor) (raw : Nat → VCPU) (nCpus : BitVec 8) :
    Except Fault (List (VCPU × List Call)) :=
  match vendor with
  | .other => .error (.panic "Unknown virtualization vendor")
  | .intel | .amd =>
    if 0 < nCpus then (List.range nCpus.toNat).mapM fun i => vcpuNew host vendor (raw i) (BitVec.ofNat 8 i)
    else throw (.panic "n_cpus > 0")

private theorem mapM_ok {α β ε : Type} (f : α → β) (l : List α) :
    l.mapM (fun a => (.ok (f a) : Except ε β)) = .ok (l.map f) := by
  induction l with
  | nil => rfl
  | cons a l ih => simp only [List.mapM_cons, List.map_cons, ih]; rfl

/-- After `vm::init` no vendor switch panics: `Vm::Vm` runs `VCPU.new` on every id with the chosen
vendor's constraints. -/
theorem vmCreate_after_init {host : Host} {vendor : CpuVendor} (init : vmInit host = .ok vendor)
    (raw : Nat → VCPU) (nCpus : BitVec 8) :
    ∃ cr0Constraint cr4Constraint eferConstraint,
      vmCreate host vendor raw nCpus =
        (if 0 < nCpus then .ok ((List.range nCpus.toNat).map fun i =>
          VCPU.new (raw i) (BitVec.ofNat 8 i) cr0Constraint cr4Constraint eferConstraint)
        else .error (.panic "n_cpus > 0")) ∧
      (cr0Constraint, cr4Constraint, eferConstraint) =
        if host.vmxSupported then (host.vmxCr0, host.vmxCr4, 0) else (host.svmCr0, 0, host.svmEfer) := by
  have chosen : (vendor = .intel ∧ host.vmxSupported) ∨ (vendor = .amd ∧ host.vmxSupported = false) := by
    unfold vmInit at init
    split_ifs at init <;> cases init <;> simp_all
  have each {cr0 cr4 efer} (switch : vendorConstraints host vendor = .ok (cr0, cr4, efer)) :
      (fun i => vcpuNew host vendor (raw i) (BitVec.ofNat 8 i)) =
        fun i => .ok (VCPU.new (raw i) (BitVec.ofNat 8 i) cr0 cr4 efer) := by
    funext i
    simp only [vcpuNew, switch]
    rfl
  rcases chosen with ⟨rfl, vmx⟩ | ⟨rfl, vmx⟩ <;>
    exact ⟨_, _, _, by simp only [vmCreate, each rfl, mapM_ok]; rfl, by simp [vmx]⟩

/-! ## MMU violations -/

/-- Modelled from the spec: `pmm::block_size`, the 4 KiB frame. -/
def blockSize : BitVec 64 := 0x1000

/-- Modelled from the spec: `align_up`, in `uint64_t` arithmetic. -/
def alignUp (value align : BitVec 64) : BitVec 64 :=
  (value + align - 1) &&& ~~~(align - 1)

def fetchInstruction (env : Env) (hpa : BitVec 64) : Instruction :=
  ⟨(List.range maxX86InstructionSize).map fun j => env.hostMem (hpa + BitVec.ofNat 64 j),
    by simp⟩

def VCPU.fetchAndEmulate (vm : Vm) (env : Env) (cpu : VCPU) (regs : RegisterState)
    (target : MmioTarget) (grip : BitVec 64) : ExitResult :=
  let hpa := vm.getPhys grip
  if hpa = 0 then ⟨.fault (.panic "hpa"), []⟩
  else match emulateInstruction (fetchInstruction env hpa) regs (env.mmioRead target) with
    | .ok (regs, access) => ⟨.resume cpu, [.mmio target access, .setRegs regs]⟩
    | .error f => ⟨.fault f, []⟩

def VCPU.emulateMmio (vm : Vm) (env : Env) (cpu : VCPU) (regs : RegisterState)
    (target : MmioTarget) : ExitResult :=
  let grip := regs.cs.base + regs.rip
  if grip + 15 < alignUp grip blockSize then cpu.fetchAndEmulate vm env regs target grip
  else ⟨.fault (.panic "(grip + 15) < align_up(grip, pmm::block_size)"), []⟩

/-- The `mmio_map` loop: the first entry in iteration order with `base <= gpa <= base + len`. -/
def mmioLookup (gpa : BitVec 64) : List (BitVec 64 × Nat × BitVec 64) → Option Nat
  | [] => none
  | (base, driver, len) :: rest =>
    if base ≤ gpa ∧ gpa ≤ base + len then some driver else mmioLookup gpa rest

def VCPU.mmuViolationExit (vm : Vm) (env : Env) (cpu : VCPU) (regs : RegisterState)
    (gpa : BitVec 64) : ExitResult :=
  if gpa &&& ofInt (~~~0xFFF) = cpu.apicbase &&& ofInt (~~~0xFFF) then
    cpu.emulateMmio vm env regs .lapic
  else match mmioLookup gpa vm.mmioMap with
    | some driver => cpu.emulateMmio vm env regs (.driver driver)
    | none => ⟨.stop false, []⟩

/-! ## Port I/O -/

def regClear (size : Nat) (value : BitVec 64) : Except Fault (BitVec 64) :=
  match size with
  | 1 => pure (value &&& ofInt 0xFF)
  | 2 => pure (value &&& ofInt 0xFFFF)
  | 4 => pure (value &&& ofUnsigned 0xFFFFFFFF)
  | _ => throw (.panic "Unknown PIO Size")

/-- RAX cleared before a read: the complements of the `int` literals widen with ones, that of
`0xFFFF'FFFF` to 0. -/
def raxClear (size : Nat) (rax : BitVec 64) : Except Fault (BitVec 64) :=
  match size with
  | 1 => pure (rax &&& ofInt (~~~0xFF))
  | 2 => pure (rax &&& ofInt (~~~0xFFFF))
  | 4 => pure (rax &&& ofUnsigned (~~~0xFFFFFFFF))
  | _ => throw (.panic "Unknown PIO Size")

def VCPU.pioExit (vm : Vm) (env : Env) (cpu : VCPU) (regs : RegisterState) (port : BitVec 16)
    (size : Nat) (write rep string : Bool) : ExitResult :=
  if rep then ⟨.fault (.panic "!exit.pio.rep"), []⟩
  else if string then ⟨.fault (.panic "!exit.pio.string"), []⟩
  else match vm.pioMap port with
    | none =>
      if write then ⟨.resume cpu, [.setRegs regs]⟩
      else ExitResult.ofExcept cpu [] do
        let rax ← raxClear size regs.rax
        pure [.setRegs { regs with rax }]
    | some driver =>
      if write then ExitResult.ofExcept cpu [] do
        let value ← regClear size regs.rax
        pure [.pioWrite driver port value size]
      else ExitResult.ofExcept cpu [.pioRead driver port size] do
        let rax ← raxClear size regs.rax
        let value ← regClear size (env.pioRead driver port size)
        pure [.setRegs { regs with rax := rax ||| value }]

/-! ## CPUID -/

def lunaSig : BitVec 32 := 0x616E754C

def osSupportBit (cr4 reg : BitVec 64) (cr4Bit bit : Nat) : BitVec 64 :=
  let reg := reg &&& ofInt (~~~(1 <<< bit))
  let os := (cr4 >>> cr4Bit) &&& 1 != 0
  reg ||| ofInt ((if os then 1 else 0) <<< bit)

def passthrough (env : Env) (leaf subleaf : BitVec 32) (regs : RegisterState) :
    Except Fault RegisterState :=
  match env.cpuid leaf subleaf with
  | some (a, b, c, d) =>
    pure { regs with rax := writeLow32 regs.rax a, rbx := writeLow32 regs.rbx b,
                     rcx := writeLow32 regs.rcx c, rdx := writeLow32 regs.rdx d }
  | none => throw (.panic "cpu::cpuid(leaf, subleaf, a, b, c, d)")

/-- The leaf dispatch of the CPUID exit; `1 << 31` is an `int`, so it widens with ones. -/
def cpuidPolicy (env : Env) (regs : RegisterState) : Except Fault RegisterState :=
  let leaf := (regs.rax &&& ofUnsigned 0xFFFFFFFF).setWidth 32
  let subleaf := (regs.rcx &&& ofUnsigned 0xFFFFFFFF).setWidth 32
  if leaf = 0 then passthrough env leaf subleaf regs
  else if leaf = 1 then do
    let regs ← passthrough env leaf subleaf regs
    let regs := { regs with rcx := regs.rcx ||| ofInt (1 <<< 31) }
    let regs := { regs with rdx := osSupportBit regs.cr4 regs.rdx 9 24 }
    pure { regs with rcx := osSupportBit regs.cr4 regs.rcx 18 27 }
  else if leaf = 0x40000000 then
    pure { regs with rax := writeLow32 regs.rax 0, rbx := writeLow32 regs.rbx lunaSig,
                     rcx := writeLow32 regs.rcx lunaSig, rdx := writeLow32 regs.rdx lunaSig }
  else if leaf = 0x80000000 then passthrough env leaf subleaf regs
  else if leaf = 0x80000001 then do
    let regs ← passthrough env leaf subleaf regs
    pure { regs with rdx := osSupportBit regs.cr4 regs.rdx 9 24 }
  else if leaf = 0x80000008 then do
    let regs ← passthrough env leaf subleaf regs
    pure { regs with rcx := writeLow32 regs.rcx 0 }
  else pure regs

def VCPU.cpuidExit (env : Env) (cpu : VCPU) (regs : RegisterState) : ExitResult :=
  ExitResult.ofExcept cpu [] do
    let regs ← cpuidPolicy env regs
    pure [.setRegs regs]

/-! ## MSRs -/

def VCPU.msrAccess (cpu : VCPU) (write : Bool) (index : BitVec 32) (value : BitVec 64) :
    VCPU × BitVec 64 × List Call :=
  if index = ia32Tsc then
    if write then ({ cpu with tsc := value }, value, []) else (cpu, cpu.tsc, [])
  else if index = ia32MtrrCap then
    (cpu, ofInt ((1 <<< 10) ||| (1 <<< 8) ||| 8),
      if write then [.injectInt .exception 13 true 0] else [])
  else if index = ia32ApicBase then
    if write then ({ cpu with apicbase := value }, value, [.updateApicbase value])
    else (cpu, cpu.apicbase, [])
  else if 0x200 ≤ index ∧ index ≤ 0x2FF then
    let (mtrr, value) := updateMtrr cpu.mtrr write index value
    ({ cpu with mtrr }, value, [])
  else (cpu, if write then value else 0, [])

/-- The MSR exit; the index is masked to 32 bits, so comparing it with the `uint32_t` constants is
exact. -/
def VCPU.msrExit (cpu : VCPU) (regs : RegisterState) (write : Bool) : ExitResult :=
  let index := (regs.rcx &&& ofUnsigned 0xFFFFFFFF).setWidth 32
  let value := (regs.rax &&& ofUnsigned 0xFFFFFFFF) ||| (regs.rdx <<< 32)
  let (cpu, value, injections) := cpu.msrAccess write index value
  if write then ⟨.resume cpu, injections⟩
  else
    ⟨.resume cpu, injections ++
      [.setRegs { regs with rax := writeLow32 regs.rax ((value &&& ofUnsigned 0xFFFFFFFF).setWidth 32),
                            rdx := writeLow32 regs.rdx ((value >>> 32).setWidth 32) }]⟩

/-! ## The loop -/

def VCPU.runExit (vm : Vm) (env : Env) (cpu : VCPU) (regs : RegisterState) : VmExit → ExitResult
  | .vmcall => ⟨.stop true, []⟩
  | .mmuViolation gpa => cpu.mmuViolationExit vm env regs gpa
  | .pio port size write rep string => cpu.pioExit vm env regs port size write rep string
  | .cpuid => cpu.cpuidExit env regs
  | .msr write => cpu.msrExit regs write
  | .other => ⟨.resume cpu, []⟩

inductive Entry where
  | failed
  | exited (exit : VmExit) (regs : RegisterState)

inductive Outcome where
  | returned (ok : Bool)
  | faulted (fault : Fault)
  | running (cpu : VCPU)

structure RunResult where
  outcome : Outcome
  calls : List Call

/-- `VCPU::run` over the entries the backend produces, in order. -/
def VCPU.run (vm : Vm) (env : Env) : VCPU → List Entry → RunResult
  | cpu, [] => ⟨.running cpu, []⟩
  | _, .failed :: _ => ⟨.returned false, []⟩
  | cpu, .exited exit regs :: rest =>
    let r := cpu.runExit vm env regs exit
    match r.next with
    | .resume cpu => ⟨(VCPU.run vm env cpu rest).outcome, r.calls ++ (VCPU.run vm env cpu rest).calls⟩
    | .stop ok => ⟨.returned ok, r.calls⟩
    | .fault f => ⟨.faulted f, r.calls⟩

end LunaVmm
