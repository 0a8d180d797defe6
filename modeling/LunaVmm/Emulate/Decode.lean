import LunaVmm.RegisterState
import Mathlib.Tactic.IntervalCases

/-! `vm::emulate::emulate_instruction`, the MOV decoder the VCPU runs on MMIO exits, with the
register helpers of `emulate.cpp`. The decode loop indexes the 15-byte buffer without a bound;
a read past its end is the fault `outOfBounds`. -/

namespace LunaVmm.Emulate

/-- Modelled from the spec: `max_x86_instruction_size` (in `emulate.hpp`, not under src/). -/
def maxX86InstructionSize : Nat := 15

structure Instruction where
  bytes : List (BitVec 8)
  length_eq : bytes.length = maxX86InstructionSize

inductive MmioAccess where
  | read (gpa : BitVec 64) (size : Nat)
  | write (gpa : BitVec 64) (value : BitVec 64) (size : Nat)
  deriving DecidableEq

def getMask : Nat → Except Fault (BitVec 64)
  | 1 => .ok 0xFF
  | 2 => .ok 0xFFFF
  | 4 => .ok 0xFFFFFFFF
  | 8 => .ok 0xFFFFFFFFFFFFFFFF
  | _ => .error (.panic "Unknown size")

/-- `get_r64`; modelled from the spec: the `r64` enumerators (`emulate.hpp`) are numbered as ModR/M
encodes them. -/
def getR64 (regs : RegisterState) : Nat → Except Fault (BitVec 64)
  | 0 => .ok regs.rax
  | 1 => .ok regs.rcx
  | 2 => .ok regs.rdx
  | 3 => .ok regs.rbx
  | 4 => .ok regs.rsp
  | 5 => .ok regs.rbp
  | 6 => .ok regs.rsi
  | 7 => .ok regs.rdi
  | _ => .error (.panic "Unknown reg")

def setR64 (regs : RegisterState) (r : Nat) (v : BitVec 64) : RegisterState :=
  match r with
  | 0 => { regs with rax := v }
  | 1 => { regs with rcx := v }
  | 2 => { regs with rdx := v }
  | 3 => { regs with rbx := v }
  | 4 => { regs with rsp := v }
  | 5 => { regs with rbp := v }
  | 6 => { regs with rsi := v }
  | 7 => { regs with rdi := v }
  | _ => regs

inductive Sreg where
  | es | cs | ss | ds | fs | gs
  deriving DecidableEq

def getSreg (regs : RegisterState) : Sreg → Segment
  | .es => regs.es
  | .cs => regs.cs
  | .ss => regs.ss
  | .ds => regs.ds
  | .fs => regs.fs
  | .gs => regs.gs

def readR64 (regs : RegisterState) (r s : Nat) : Except Fault (BitVec 64) := do
  let reg ← getR64 regs r
  let mask ← getMask s
  pure (reg &&& mask)

/-- `write_r64`: the narrow stores write the low bytes of the little-endian register, the
4-byte store zero-extends. -/
def writeR64 (regs : RegisterState) (r : Nat) (v : BitVec 64) (s : Nat) :
    Except Fault RegisterState := do
  let reg ← getR64 regs r
  match s with
  | 1 => pure (setR64 regs r ((reg &&& ~~~0xFF) ||| (v.setWidth 8).setWidth 64))
  | 2 => pure (setR64 regs r ((reg &&& ~~~0xFFFF) ||| (v.setWidth 16).setWidth 64))
  | 4 => pure (setR64 regs r ((v.setWidth 32).setWidth 64))
  | 8 => pure (setR64 regs r v)
  | _ => throw (.panic "Unknown size")

structure Modrm where
  mod : BitVec 8
  reg : BitVec 8
  rm : BitVec 8

def parseModrm (v : BitVec 8) : Modrm :=
  { mod := (v >>> 6) &&& 0b11, reg := (v >>> 3) &&& 0b111, rm := v &&& 0b111 }

structure Prefixes where
  operandSize : Nat
  addressSize : Nat
  segment : Sreg

/-- The ModR/M handling the three opcodes share: register indirect through `rm` at the address size,
offset by the segment's base. -/
def modrmAddress (regs : RegisterState) (p : Prefixes) (m : Modrm) : Except Fault (BitVec 64) :=
  if m.mod = 0 then
    if m.rm = 0b100 ∨ m.rm = 0b101 then throw (.panic "TODO")
    else do
      let src ← readR64 regs m.rm.toNat p.addressSize
      pure ((getSreg regs p.segment).base + src)
  else throw (.panic "Unknown")

def movStore (regs : RegisterState) (p : Prefixes) (m : Modrm) :
    Except Fault (RegisterState × MmioAccess) := do
  let gpa ← modrmAddress regs p m
  let v ← readR64 regs m.reg.toNat p.operandSize
  pure (regs, .write gpa v p.operandSize)

/-- Opcodes `0x8A` (`size = 1`) and `0x8B` (the operand size): `mmio_read`'s result goes to register
`reg`. -/
def movLoad (regs : RegisterState) (mmioRead : BitVec 64 → Nat → BitVec 64) (p : Prefixes)
    (m : Modrm) (size : Nat) : Except Fault (RegisterState × MmioAccess) := do
  let gpa ← modrmAddress regs p m
  let regs' ← writeR64 regs m.reg.toNat (mmioRead gpa size) size
  pure (regs', .read gpa size)

def withModrm (rest : List (BitVec 8)) (i : Nat)
    (k : Modrm → Except Fault (RegisterState × MmioAccess)) :
    Except Fault (RegisterState × MmioAccess × Nat) :=
  match rest with
  | [] => throw (.outOfBounds (i + 1))
  | m :: _ => (k (parseModrm m)).map fun r => (r.1, r.2, i + 2)

/-- The `while (!done)` loop over `instruction[i]`; the list is the buffer from `i` on. -/
def decode (regs : RegisterState) (mmioRead : BitVec 64 → Nat → BitVec 64) (other : Nat) :
    List (BitVec 8) → Nat → Prefixes → Except Fault (RegisterState × MmioAccess × Nat)
  | [], i, _ => throw (.outOfBounds i)
  | op :: rest, i, p =>
    match op with
    | 0x26 => decode regs mmioRead other rest (i + 1) { p with segment := .es }
    | 0x2E => decode regs mmioRead other rest (i + 1) { p with segment := .cs }
    | 0x36 => decode regs mmioRead other rest (i + 1) { p with segment := .ss }
    | 0x3E => decode regs mmioRead other rest (i + 1) { p with segment := .ds }
    | 0x64 => decode regs mmioRead other rest (i + 1) { p with segment := .fs }
    | 0x65 => decode regs mmioRead other rest (i + 1) { p with segment := .gs }
    | 0x66 => decode regs mmioRead other rest (i + 1) { p with operandSize := other }
    | 0x67 => decode regs mmioRead other rest (i + 1) { p with addressSize := other }
    | 0x89 => withModrm rest i (movStore regs p)
    | 0x8A => withModrm rest i fun m => movLoad regs mmioRead p m 1
    | 0x8B => withModrm rest i fun m => movLoad regs mmioRead p m p.operandSize
    | _ => throw (.panic "Unknown instruction")

def emulateInstruction (instruction : Instruction) (regs : RegisterState)
    (mmioRead : BitVec 64 → Nat → BitVec 64) : Except Fault (RegisterState × MmioAccess) := do
  let defaultOperandSize := if regs.cs.attrib.db then 4 else 2
  let otherOperandSize := if regs.cs.attrib.db then 2 else 4
  let (regs', access, i) ← decode regs mmioRead otherOperandSize instruction.bytes 0
    { operandSize := defaultOperandSize, addressSize := defaultOperandSize, segment := .ds }
  pure ({ regs' with rip := regs'.rip + BitVec.ofNat 64 i }, access)


/-! ## Which faults the decoder can raise -/

variable {regs : RegisterState} {read : BitVec 64 → Nat → BitVec 64}

/-- The sizes the decoder's locals can hold: `default_operand_size` or `other_operand_size`. -/
def Prefixes.Valid (p : Prefixes) : Prop :=
  (p.operandSize = 2 ∨ p.operandSize = 4) ∧ (p.addressSize = 2 ∨ p.addressSize = 4)

/-- The faults of the decoding itself: the `TODO`, `Unknown` and `Unknown instruction` panics and
reads past the buffer. -/
def DecodeFault : Fault → Prop
  | .panic msg => msg = "TODO" ∨ msg = "Unknown" ∨ msg = "Unknown instruction"
  | .outOfBounds _ => True

theorem getR64_ok (regs : RegisterState) {r : Nat} (small : r < 8) :
    ∃ v, getR64 regs r = .ok v := by
  interval_cases r <;> simp [getR64]

theorem getMask_ok {s : Nat} (size : s = 1 ∨ s = 2 ∨ s = 4) : ∃ m, getMask s = .ok m := by
  rcases size with rfl | rfl | rfl <;> simp [getMask]

theorem readR64_ok (regs : RegisterState) {r s : Nat} (small : r < 8)
    (size : s = 1 ∨ s = 2 ∨ s = 4) : ∃ v, readR64 regs r s = .ok v := by
  obtain ⟨reg, hreg⟩ := getR64_ok regs small
  obtain ⟨mask, hmask⟩ := getMask_ok size
  exact ⟨reg &&& mask, by simp [readR64, hreg, hmask, bind, Except.bind, pure, Except.pure]⟩

theorem writeR64_ok (regs : RegisterState) {r s : Nat} (v : BitVec 64) (small : r < 8)
    (size : s = 1 ∨ s = 2 ∨ s = 4) : ∃ regs', writeR64 regs r v s = .ok regs' := by
  obtain ⟨reg, hreg⟩ := getR64_ok regs small
  rcases size with rfl | rfl | rfl <;>
    simp [writeR64, hreg, bind, Except.bind, pure, Except.pure]

theorem parseModrm_reg_lt (v : BitVec 8) : (parseModrm v).reg.toNat < 8 :=
  Nat.lt_of_le_of_lt Nat.and_le_right (by decide)

theorem parseModrm_rm_lt (v : BitVec 8) : (parseModrm v).rm.toNat < 8 :=
  Nat.lt_of_le_of_lt Nat.and_le_right (by decide)

theorem modrmAddress_fault {p : Prefixes} {v : BitVec 8} {f : Fault} (valid : p.Valid)
    (h : modrmAddress regs p (parseModrm v) = .error f) : DecodeFault f := by
  unfold modrmAddress at h
  split at h
  · split at h
    · cases h; simp [DecodeFault]
    · obtain ⟨src, hsrc⟩ := readR64_ok regs (parseModrm_rm_lt v) (s := p.addressSize)
        (by have := valid.2; omega)
      simp [hsrc, bind, Except.bind, pure, Except.pure] at h
  · cases h; simp [DecodeFault]

theorem movStore_fault {p : Prefixes} {v : BitVec 8} {f : Fault} (valid : p.Valid)
    (h : movStore regs p (parseModrm v) = .error f) : DecodeFault f := by
  rcases bind_eq_error.mp h with h | ⟨gpa, -, h⟩
  · exact modrmAddress_fault valid h
  · obtain ⟨w, hw⟩ := readR64_ok regs (parseModrm_reg_lt v) (s := p.operandSize)
      (by have := valid.1; omega)
    simp [hw, bind, Except.bind, pure, Except.pure] at h

theorem movLoad_fault {p : Prefixes} {v : BitVec 8} {size : Nat} {f : Fault} (valid : p.Valid)
    (sized : size = 1 ∨ size = 2 ∨ size = 4)
    (h : movLoad regs read p (parseModrm v) size = .error f) : DecodeFault f := by
  rcases bind_eq_error.mp h with h | ⟨gpa, -, h⟩
  · exact modrmAddress_fault valid h
  · obtain ⟨regs', hw⟩ := writeR64_ok regs (read gpa size) (parseModrm_reg_lt v) sized
    simp [hw, bind, Except.bind, pure, Except.pure] at h

theorem withModrm_fault {rest : List (BitVec 8)} {i : Nat} {f : Fault}
    {k : Modrm → Except Fault (RegisterState × MmioAccess)}
    (hk : ∀ v f, k (parseModrm v) = .error f → DecodeFault f)
    (h : withModrm rest i k = .error f) : DecodeFault f := by
  unfold withModrm at h
  split at h
  · cases h; trivial
  · rename_i v _
    cases hkv : k (parseModrm v) <;> simp [hkv, Except.map] at h
    exact h ▸ hk v _ hkv

theorem decode_fault {other : Nat} (sized : other = 2 ∨ other = 4) :
    ∀ {bytes : List (BitVec 8)} {i : Nat} {p : Prefixes} {f : Fault},
      decode regs read other bytes i p = .error f → p.Valid → DecodeFault f
  | [], _, _, f, h, _ => by cases h; trivial
  | op :: rest, i, p, f, h, valid => by
    unfold decode at h
    split at h
    case h_7 => exact decode_fault sized h ⟨sized, valid.2⟩
    case h_8 => exact decode_fault sized h ⟨valid.1, sized⟩
    case h_9 => exact withModrm_fault (fun v f => movStore_fault valid) h
    case h_10 => exact withModrm_fault (fun v f => movLoad_fault valid (by omega)) h
    case h_11 => exact withModrm_fault (fun v f => movLoad_fault valid (by have := valid.1; omega)) h
    case h_12 => cases h; simp [DecodeFault]
    all_goals exact decode_fault sized h valid

/-- The emulator never reaches its helpers' `Unknown size` and `Unknown reg` panics: every size it
passes is 1, 2 or 4, every register index three bits. -/
theorem emulateInstruction_fault (instruction : Instruction) (regs : RegisterState)
    (read : BitVec 64 → Nat → BitVec 64) {f : Fault}
    (failed : emulateInstruction instruction regs read = .error f) : DecodeFault f := by
  rcases bind_eq_error.mp failed with failed | ⟨_, -, failed⟩
  · exact decode_fault (by split <;> simp) failed (by constructor <;> split <;> simp)
  · cases failed

theorem emulateInstruction_fault_nop :
    emulateInstruction ⟨List.replicate 15 0x90, rfl⟩ {} (fun _ _ => 0) =
      .error (.panic "Unknown instruction") ∧ DecodeFault (.panic "Unknown instruction") := by
  have failed : emulateInstruction ⟨List.replicate 15 0x90, rfl⟩ {} (fun _ _ => 0) =
      .error (.panic "Unknown instruction") := by
    unfold emulateInstruction
    split <;> rfl
  exact ⟨failed, emulateInstruction_fault _ _ _ failed⟩

/-- The prefix run has no bound: after fifteen `0x66` bytes the loop reads `instruction[15]`, and
after fourteen so does the ModR/M byte of `0x89`. -/
theorem emulateInstruction_reads_past_buffer (regs : RegisterState)
    (read : BitVec 64 → Nat → BitVec 64) :
    emulateInstruction ⟨List.replicate 15 0x66, rfl⟩ regs read = .error (.outOfBounds 15) ∧
      emulateInstruction ⟨List.replicate 14 0x66 ++ [0x89], by decide⟩ regs read =
        .error (.outOfBounds 15) := by
  unfold emulateInstruction
  constructor <;> split <;> rfl

end LunaVmm.Emulate
