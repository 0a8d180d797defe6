import LunaVmm.Emulate.Decode

/-! The x86 meaning of legacy prefixes and `MOV` `0x88`..`0x8B` with `mod = 00`, in the mode
`CS.L` and `CS.D` select: the reference the decoder of `emulate.cpp` is compared against. -/

namespace LunaVmm.Emulate

def isLegacyPrefix (b : BitVec 8) : Bool :=
  b = 0x26 || b = 0x2E || b = 0x36 || b = 0x3E || b = 0x64 || b = 0x65 || b = 0x66 || b = 0x67

/-- The segment a segment-override prefix selects. -/
def overrideOf (b : BitVec 8) : Option Sreg :=
  if b = 0x26 then some .es else if b = 0x2E then some .cs else if b = 0x36 then some .ss
  else if b = 0x3E then some .ds else if b = 0x64 then some .fs else if b = 0x65 then some .gs
  else none

/-- The last override of a prefix run wins. -/
def lastOverride : List (BitVec 8) → Option Sreg
  | [] => none
  | b :: pre => (lastOverride pre).or (overrideOf b)

def modeOperandSize (cs : Attrib) : Nat := if cs.l || cs.db then 4 else 2

def modeAddressSize (cs : Attrib) : Nat := if cs.l then 8 else if cs.db then 4 else 2

/-- `0x66` selects the other operand size of the mode, 16 bits in 64-bit mode. -/
def operandSizeOf (cs : Attrib) (pre : List (BitVec 8)) : Nat :=
  if 0x66 ∈ pre then 6 - modeOperandSize cs else modeOperandSize cs

/-- `0x67` selects the other address size: 32 bits in 64-bit mode, else 16 ↔ 32. -/
def addressSizeOf (cs : Attrib) (pre : List (BitVec 8)) : Nat :=
  if 0x67 ∈ pre then (if cs.l then 4 else 6 - modeAddressSize cs) else modeAddressSize cs

/-- The general registers in ModR/M numbering. -/
def gpr (regs : RegisterState) (r : Nat) : BitVec 64 :=
  match r with
  | 0 => regs.rax | 1 => regs.rcx | 2 => regs.rdx | 3 => regs.rbx
  | 4 => regs.rsp | 5 => regs.rbp | 6 => regs.rsi | _ => regs.rdi

def setGpr (regs : RegisterState) (r : Nat) (v : BitVec 64) : RegisterState :=
  match r with
  | 0 => { regs with rax := v } | 1 => { regs with rcx := v } | 2 => { regs with rdx := v }
  | 3 => { regs with rbx := v } | 4 => { regs with rsp := v } | 5 => { regs with rbp := v }
  | 6 => { regs with rsi := v } | _ => { regs with rdi := v }

/-- Without a REX prefix, byte registers 0-3 are AL, CL, DL, BL and 4-7 are AH, CH, DH, BH. -/
def byteReg (regs : RegisterState) (r : Nat) : BitVec 8 :=
  if r < 4 then (gpr regs r).setWidth 8 else (gpr regs (r - 4) >>> 8).setWidth 8

def setByteReg (regs : RegisterState) (r : Nat) (b : BitVec 8) : RegisterState :=
  if r < 4 then setGpr regs r ((gpr regs r &&& ~~~(0xFF : BitVec 64)) ||| b.setWidth 64)
  else setGpr regs (r - 4) ((gpr regs (r - 4) &&& ~~~(0xFF00 : BitVec 64)) ||| (b.setWidth 64 <<< 8))

/-- A load into a 16-bit register keeps bits 63..16; a 32-bit load zero-extends. -/
def loadGpr (regs : RegisterState) (r size : Nat) (v : BitVec 64) : RegisterState :=
  if size = 2 then setGpr regs r ((gpr regs r &&& ~~~0xFFFF) ||| (v.setWidth 16).setWidth 64)
  else if size = 4 then setGpr regs r ((v.setWidth 32).setWidth 64)
  else setGpr regs r v

/-- In 64-bit mode only FS and GS contribute a base. -/
def segmentBase (regs : RegisterState) (s : Sreg) : BitVec 64 :=
  if regs.cs.attrib.l && !(s = .fs || s = .gs) then 0 else (getSreg regs s).base

def littleEndian : List (BitVec 8) → BitVec 64
  | [] => 0
  | b :: bs => b.setWidth 64 ||| (littleEndian bs <<< 8)

/-- Effective address of `mod = 00`, its default segment and the displacement length, read
from the bytes after the ModR/M byte. SIB and RIP-relative forms are left out. -/
def effectiveAddress (regs : RegisterState) (size rm : Nat) (disp : List (BitVec 8)) :
    Option (BitVec 64 × Sreg × Nat) :=
  let w16 (x : BitVec 64) := (x.setWidth 16).setWidth 64
  if size = 2 then
    match rm with
    | 0 => some (w16 (regs.rbx + regs.rsi), .ds, 0)
    | 1 => some (w16 (regs.rbx + regs.rdi), .ds, 0)
    | 2 => some (w16 (regs.rbp + regs.rsi), .ss, 0)
    | 3 => some (w16 (regs.rbp + regs.rdi), .ss, 0)
    | 4 => some (w16 regs.rsi, .ds, 0)
    | 5 => some (w16 regs.rdi, .ds, 0)
    | 6 => some (littleEndian (disp.take 2), .ds, 2)
    | _ => some (w16 regs.rbx, .ds, 0)
  else if rm = 4 then none
  else if rm = 5 then (if size = 4 then some (littleEndian (disp.take 4), .ds, 4) else none)
  else some (gpr regs rm &&& sizeMask size, .ds, 0)

/-- The x86 effect of the instruction at the start of `bytes`: the new registers and the one
memory access, or `none` outside the forms above or past 15 bytes. -/
def x86Mov (regs : RegisterState) (read : BitVec 64 → Nat → BitVec 64) (bytes : List (BitVec 8)) :
    Option (RegisterState × MmioAccess) :=
  let pre := bytes.takeWhile isLegacyPrefix
  match bytes.drop pre.length with
  | op :: modrm :: disp =>
    let mod := modrm.toNat / 64
    let reg := modrm.toNat / 8 % 8
    let rm := modrm.toNat % 8
    let cs := regs.cs.attrib
    let osize := operandSizeOf cs pre
    match mod, effectiveAddress regs (addressSizeOf cs pre) rm disp with
    | 0, some (ea, seg, dispLength) =>
      let length := pre.length + 2 + dispLength
      let gpa := segmentBase regs ((lastOverride pre).getD seg) + ea
      let next := { regs with rip := regs.rip + BitVec.ofNat 64 length }
      if length > 15 then none
      else if op = 0x88 then some (next, .write gpa ((byteReg regs reg).setWidth 64) 1)
      else if op = 0x89 then some (next, .write gpa (gpr regs reg &&& sizeMask osize) osize)
      else if op = 0x8A then some (setByteReg next reg ((read gpa 1).setWidth 8), .read gpa 1)
      else if op = 0x8B then some (loadGpr next reg osize (read gpa osize), .read gpa osize)
      else none
    | _, _ => none
  | _ => none


/-! ## The decoder against the reference -/

variable {regs : RegisterState} {read : BitVec 64 → Nat → BitVec 64}

theorem parseModrm_rm (v : BitVec 8) : (parseModrm v).rm.toNat = v.toNat % 8 := by
  simp only [parseModrm, BitVec.toNat_and]
  exact Nat.and_pow_two_sub_one_eq_mod v.toNat 3

theorem parseModrm_reg (v : BitVec 8) : (parseModrm v).reg.toNat = v.toNat / 8 % 8 := by
  simp only [parseModrm, BitVec.toNat_and, BitVec.toNat_ushiftRight, Nat.shiftRight_eq_div_pow]
  exact Nat.and_pow_two_sub_one_eq_mod _ 3

theorem parseModrm_mod (v : BitVec 8) : (parseModrm v).mod.toNat = v.toNat / 64 := by
  simp [parseModrm, Nat.shiftRight_eq_div_pow]
  rw [show (3 : Nat) = 2 ^ 2 - 1 from rfl, Nat.and_pow_two_sub_one_eq_mod]
  omega

theorem getR64_eq_gpr (regs : RegisterState) {r : Nat} (small : r < 8) :
    getR64 regs r = .ok (gpr regs r) := by
  interval_cases r <;> rfl

theorem setR64_eq_setGpr (regs : RegisterState) {r : Nat} (v : BitVec 64) (small : r < 8) :
    setR64 regs r v = setGpr regs r v := by
  interval_cases r <;> rfl

@[simp] theorem gpr_setRip (regs : RegisterState) (r : Nat) (x : BitVec 64) :
    gpr { regs with rip := x } r = gpr regs r := by
  unfold gpr; split <;> rfl

@[simp] theorem setGpr_rip (regs : RegisterState) (r : Nat) (v : BitVec 64) :
    (setGpr regs r v).rip = regs.rip := by
  unfold setGpr; split <;> rfl

theorem setGpr_setRip (regs : RegisterState) (r : Nat) (v x : BitVec 64) :
    { setGpr regs r v with rip := x } = setGpr { regs with rip := x } r v := by
  unfold setGpr; split <;> rfl

/-- What one prefix byte does to the decoder's locals. -/
def applyPrefix (other : Nat) (p : Prefixes) (b : BitVec 8) : Prefixes :=
  if b = 0x66 then { p with operandSize := other }
  else if b = 0x67 then { p with addressSize := other }
  else { p with segment := (overrideOf b).getD p.segment }

@[simp] theorem applyPrefix_operandSize (other : Nat) (p : Prefixes) (b : BitVec 8) :
    (applyPrefix other p b).operandSize = if b = 0x66 then other else p.operandSize := by
  unfold applyPrefix; split_ifs <;> rfl

@[simp] theorem applyPrefix_addressSize (other : Nat) (p : Prefixes) (b : BitVec 8) :
    (applyPrefix other p b).addressSize = if b = 0x67 then other else p.addressSize := by
  unfold applyPrefix
  by_cases six : b = 0x66
  · subst six; rfl
  · rw [if_neg six]; split_ifs <;> rfl

/-- The size prefixes select no segment. -/
@[simp] theorem applyPrefix_segment (other : Nat) (p : Prefixes) (b : BitVec 8) :
    (applyPrefix other p b).segment = (overrideOf b).getD p.segment := by
  unfold applyPrefix; split_ifs with six seven
  · subst six; rfl
  · subst seven; rfl
  · rfl

theorem decode_prefix {other : Nat} {b : BitVec 8} (rest : List (BitVec 8)) (i : Nat)
    (p : Prefixes) (legacy : isLegacyPrefix b) :
    decode regs read other (b :: rest) i p = decode regs read other rest (i + 1) (applyPrefix other p b) := by
  simp only [isLegacyPrefix, Bool.or_eq_true, decide_eq_true_eq] at legacy
  rcases legacy with ((((((rfl | rfl) | rfl) | rfl) | rfl) | rfl) | rfl) | rfl <;> rfl

/-- The prefix run is consumed byte by byte; the opcode is read at its length. -/
theorem decode_prefixes {other : Nat} (tail : List (BitVec 8)) :
    ∀ (pre : List (BitVec 8)) (i : Nat) (p : Prefixes), (∀ b ∈ pre, isLegacyPrefix b) →
      decode regs read other (pre ++ tail) i p =
        decode regs read other tail (i + pre.length) (pre.foldl (applyPrefix other) p)
  | [], i, p, _ => rfl
  | b :: pre, i, p, legacy => by
    rw [List.cons_append, decode_prefix _ _ _ (legacy b (List.mem_cons_self ..)),
      decode_prefixes tail pre _ _ fun b h => legacy b (List.mem_cons_of_mem _ h)]
    simp [Nat.add_assoc, Nat.add_comm 1]

theorem foldl_operandSize {other : Nat} :
    ∀ (pre : List (BitVec 8)) (p : Prefixes),
      (pre.foldl (applyPrefix other) p).operandSize = if 0x66 ∈ pre then other else p.operandSize
  | [], _ => rfl
  | b :: pre, p => by
    rw [List.foldl_cons, foldl_operandSize pre, applyPrefix_operandSize]
    simp only [List.mem_cons]; split_ifs <;> simp_all [eq_comm]

theorem foldl_addressSize {other : Nat} :
    ∀ (pre : List (BitVec 8)) (p : Prefixes),
      (pre.foldl (applyPrefix other) p).addressSize = if 0x67 ∈ pre then other else p.addressSize
  | [], _ => rfl
  | b :: pre, p => by
    rw [List.foldl_cons, foldl_addressSize pre, applyPrefix_addressSize]
    simp only [List.mem_cons]; split_ifs <;> simp_all [eq_comm]

theorem foldl_segment {other : Nat} :
    ∀ (pre : List (BitVec 8)) (p : Prefixes),
      (pre.foldl (applyPrefix other) p).segment = (lastOverride pre).getD p.segment
  | [], _ => rfl
  | b :: pre, p => by
    rw [List.foldl_cons, foldl_segment pre, applyPrefix_segment, lastOverride]
    cases lastOverride pre <;> rfl

/-- Outside 64-bit mode the decoder's locals after a prefix run are the reference's sizes and
segment. -/
theorem foldl_prefixes_legacy {cs : Attrib} (legacy : cs.l = false) (pre : List (BitVec 8)) :
    let q := pre.foldl (applyPrefix (if cs.db then 2 else 4))
      { operandSize := if cs.db then 4 else 2, addressSize := if cs.db then 4 else 2, segment := .ds }
    q.operandSize = operandSizeOf cs pre ∧ q.addressSize = addressSizeOf cs pre ∧
      q.segment = (lastOverride pre).getD .ds := by
  simp only [foldl_operandSize, foldl_addressSize, foldl_segment, operandSizeOf, addressSizeOf,
    modeOperandSize, modeAddressSize, legacy]
  cases cs.db <;> simp

theorem withModrm_ok {m : BitVec 8} {rest : List (BitVec 8)} {j : Nat}
    {k : Modrm → Except Fault (RegisterState × MmioAccess)} {res : RegisterState × MmioAccess × Nat}
    (h : withModrm (m :: rest) j k = .ok res) :
    res.2.2 = j + 2 ∧ k (parseModrm m) = .ok (res.1, res.2.1) := by
  simp only [withModrm] at h
  cases hk : k (parseModrm m) <;> simp only [hk, Except.map, Except.ok.injEq, reduceCtorEq] at h
  subst h
  exact ⟨rfl, rfl⟩

theorem decode_mov_ok {other : Nat} {op m : BitVec 8} {rest : List (BitVec 8)} {j : Nat}
    {q : Prefixes} {res : RegisterState × MmioAccess × Nat} (opcode : isLegacyPrefix op = false)
    (h : decode regs read other (op :: m :: rest) j q = .ok res) :
    res.2.2 = j + 2 ∧
      (op = 0x89 ∧ movStore regs q (parseModrm m) = .ok (res.1, res.2.1) ∨
        op = 0x8A ∧ movLoad regs read q (parseModrm m) 1 = .ok (res.1, res.2.1) ∨
        op = 0x8B ∧ movLoad regs read q (parseModrm m) q.operandSize = .ok (res.1, res.2.1)) := by
  unfold decode at h
  split at h
  case h_9 => exact (withModrm_ok h).imp_right fun hk => .inl ⟨rfl, hk⟩
  case h_10 => exact (withModrm_ok h).imp_right fun hk => .inr (.inl ⟨rfl, hk⟩)
  case h_11 => exact (withModrm_ok h).imp_right fun hk => .inr (.inr ⟨rfl, hk⟩)
  case h_12 => cases h
  all_goals exact absurd opcode (by decide)

theorem readR64_eq (regs : RegisterState) {r s : Nat} (small : r < 8) (size : s = 2 ∨ s = 4) :
    readR64 regs r s = .ok (gpr regs r &&& sizeMask s) := by
  rcases size with rfl | rfl <;> simp [readR64, getR64_eq_gpr regs small, getMask, bind,
    Except.bind, pure, Except.pure] <;> rfl

/-- With 32-bit addressing the decoder's address is the `mod = 00` register-indirect one. -/
theorem modrmAddress_wide {q : Prefixes} {m : BitVec 8} {gpa : BitVec 64} (wide : q.addressSize = 4)
    (h : modrmAddress regs q (parseModrm m) = .ok gpa) :
    m.toNat / 64 = 0 ∧ m.toNat % 8 ≠ 4 ∧ m.toNat % 8 ≠ 5 ∧
      gpa = (getSreg regs q.segment).base + (gpr regs (m.toNat % 8) &&& sizeMask 4) := by
  unfold modrmAddress at h
  split_ifs at h with hmod hrm
  · rw [readR64_eq regs (parseModrm_rm_lt m) (.inr wide), parseModrm_rm, wide] at h
    refine ⟨?_, ?_, ?_, (Except.ok.inj h).symm⟩
    · simpa [parseModrm_mod] using congrArg BitVec.toNat hmod
    · intro four; apply hrm; left; apply BitVec.eq_of_toNat_eq; simp [parseModrm_rm, four]
    · intro five; apply hrm; right; apply BitVec.eq_of_toNat_eq; simp [parseModrm_rm, five]

theorem movStore_eq {q : Prefixes} {m : BitVec 8} {gpa : BitVec 64} {res : RegisterState × MmioAccess}
    (hgpa : modrmAddress regs q (parseModrm m) = .ok gpa) (sized : q.operandSize = 2 ∨ q.operandSize = 4)
    (h : movStore regs q (parseModrm m) = .ok res) :
    res = (regs, .write gpa (gpr regs (m.toNat / 8 % 8) &&& sizeMask q.operandSize) q.operandSize) := by
  rw [movStore, hgpa, readR64_eq regs (parseModrm_reg_lt m) sized, parseModrm_reg] at h
  exact (Except.ok.inj h).symm

theorem movLoad_eq {q : Prefixes} {m : BitVec 8} {size : Nat} {gpa : BitVec 64}
    {loaded : RegisterState} {res : RegisterState × MmioAccess}
    (hgpa : modrmAddress regs q (parseModrm m) = .ok gpa)
    (hw : writeR64 regs (m.toNat / 8 % 8) (read gpa size) size = .ok loaded)
    (h : movLoad regs read q (parseModrm m) size = .ok res) : res = (loaded, .read gpa size) := by
  simp only [movLoad, hgpa, parseModrm_reg, bind, Except.bind] at h
  rw [hw] at h
  exact (Except.ok.inj h).symm

theorem takeWhile_prefixes {pre rest : List (BitVec 8)} {op : BitVec 8}
    (prefixes : ∀ b ∈ pre, isLegacyPrefix b) (opcode : isLegacyPrefix op = false) :
    (pre ++ op :: rest).takeWhile isLegacyPrefix = pre := by
  induction pre with
  | nil => simp [List.takeWhile, opcode]
  | cons b pre ih =>
    simp [List.takeWhile, prefixes b (List.mem_cons_self ..),
      ih fun b h => prefixes b (List.mem_cons_of_mem _ h)]

theorem effectiveAddress_wide (regs : RegisterState) {rm : Nat} (disp : List (BitVec 8))
    (four : rm ≠ 4) (five : rm ≠ 5) :
    effectiveAddress regs 4 rm disp = some (gpr regs rm &&& sizeMask 4, .ds, 0) := by
  simp [effectiveAddress, four, five]

theorem segmentBase_legacy {s : Sreg} (legacy : regs.cs.attrib.l = false) :
    segmentBase regs s = (getSreg regs s).base := by
  simp [segmentBase, legacy]

theorem operandSizeOf_legacy {cs : Attrib} (pre : List (BitVec 8)) (legacy : cs.l = false) :
    operandSizeOf cs pre = 2 ∨ operandSizeOf cs pre = 4 := by
  unfold operandSizeOf modeOperandSize
  cases cs.db <;> split_ifs <;> simp_all

theorem writeR64_eq_loadGpr (regs : RegisterState) {r s : Nat} (v : BitVec 64) (small : r < 8)
    (size : s = 2 ∨ s = 4) : writeR64 regs r v s = .ok (loadGpr regs r s v) := by
  rcases size with rfl | rfl <;>
    simp [writeR64, loadGpr, getR64_eq_gpr regs small, setR64_eq_setGpr regs _ small, bind,
      Except.bind, pure, Except.pure]

theorem writeR64_eq_setByteReg (regs : RegisterState) {r : Nat} (v : BitVec 64) (small : r < 4) :
    writeR64 regs r v 1 = .ok (setByteReg regs r (v.setWidth 8)) := by
  simp [writeR64, setByteReg, small, getR64_eq_gpr regs (by omega : r < 8),
    setR64_eq_setGpr regs _ (by omega : r < 8), bind, Except.bind, pure, Except.pure]

@[simp] theorem setByteReg_rip (regs : RegisterState) (r : Nat) (b : BitVec 8) :
    (setByteReg regs r b).rip = regs.rip := by
  unfold setByteReg; split <;> simp

@[simp] theorem loadGpr_rip (regs : RegisterState) (r s : Nat) (v : BitVec 64) :
    (loadGpr regs r s v).rip = regs.rip := by
  unfold loadGpr; split_ifs <;> simp

theorem setByteReg_setRip (regs : RegisterState) (r : Nat) (b : BitVec 8) (x : BitVec 64) :
    { setByteReg regs r b with rip := x } = setByteReg { regs with rip := x } r b := by
  unfold setByteReg; split <;> simp [setGpr_setRip]

theorem loadGpr_setRip (regs : RegisterState) (r s : Nat) (v x : BitVec 64) :
    { loadGpr regs r s v with rip := x } = loadGpr { regs with rip := x } r s v := by
  unfold loadGpr; split_ifs <;> simp [setGpr_setRip]

theorem emulateInstruction_eq_x86Mov {instruction : Instruction} {res : RegisterState × MmioAccess}
    (pre : List (BitVec 8)) (op modrm : BitVec 8) (rest : List (BitVec 8))
    (parts : instruction.bytes = pre ++ op :: modrm :: rest)
    (prefixes : ∀ b ∈ pre, isLegacyPrefix b) (opcode : isLegacyPrefix op = false)
    (legacy : regs.cs.attrib.l = false) (wide : addressSizeOf regs.cs.attrib pre = 4)
    (lowByte : op = 0x8A → modrm.toNat / 8 % 8 < 4)
    (ok : emulateInstruction instruction regs read = .ok res) :
    x86Mov regs read instruction.bytes = some res := by
  obtain ⟨⟨regs', access, n⟩, hdecode, hres⟩ := bind_eq_ok.mp ok
  cases hres
  rw [parts, decode_prefixes _ _ _ _ prefixes] at hdecode
  obtain ⟨hn, hop⟩ := decode_mov_ok opcode hdecode
  simp only at hn hop
  subst hn
  have short : pre.length + 2 ≤ 15 := by
    have := instruction.length_eq
    simp [parts, maxX86InstructionSize] at this
    omega
  obtain ⟨hosize, hasize, hseg⟩ := foldl_prefixes_legacy legacy pre
  generalize List.foldl _ _ pre = q at hop hosize hasize hseg
  obtain ⟨gpa, hgpa⟩ : ∃ gpa, modrmAddress regs q (parseModrm modrm) = .ok gpa := by
    rcases hop with ⟨-, hk⟩ | ⟨-, hk⟩ | ⟨-, hk⟩ <;> exact (bind_eq_ok.mp hk).imp fun _ h => h.1
  obtain ⟨mod0, four, five, rfl⟩ := modrmAddress_wide (hasize.trans wide) hgpa
  rw [parts]
  simp only [x86Mov, takeWhile_prefixes prefixes opcode, List.drop_left]
  rw [mod0, wide, effectiveAddress_wide regs rest four five]
  simp only [Nat.add_zero, if_neg (Nat.not_lt.mpr short)]
  rw [segmentBase_legacy legacy, ← hseg, Nat.zero_add]
  have reg8 : modrm.toNat / 8 % 8 < 8 := Nat.mod_lt _ (by decide)
  have osize := hosize ▸ operandSizeOf_legacy pre legacy
  rcases hop with ⟨rfl, hk⟩ | ⟨rfl, hk⟩ | ⟨rfl, hk⟩
  · obtain ⟨rfl, rfl⟩ := Prod.mk.inj (movStore_eq hgpa osize hk)
    simp [hosize]
  · obtain ⟨rfl, rfl⟩ := Prod.mk.inj (movLoad_eq hgpa (writeR64_eq_setByteReg regs _ (lowByte rfl)) hk)
    simp [setByteReg_setRip]
  · obtain ⟨rfl, rfl⟩ := Prod.mk.inj (movLoad_eq hgpa (writeR64_eq_loadGpr regs _ reg8 osize) hk)
    simp [hosize, loadGpr_setRip]

/-- The spec's MMIO scenario: `mov dword ptr [ebx], eax` at CS.base 0 in a 32-bit segment. -/
theorem emulateInstruction_eq_x86Mov_storeEbx :
    let regs : RegisterState :=
      { rax := 0xDEADBEEF, rbx := 0xFEC00000, cs := { limit := 0xFFFF, attrib := { db := true } } }
    let instruction : Instruction := ⟨0x89 :: 0x03 :: List.replicate 13 0, rfl⟩
    emulateInstruction instruction regs (fun _ _ => 0) =
        .ok ({ regs with rip := 2 }, .write 0xFEC00000 0xDEADBEEF 4) ∧
      x86Mov regs (fun _ _ => 0) instruction.bytes =
        some ({ regs with rip := 2 }, .write 0xFEC00000 0xDEADBEEF 4) :=
  ⟨rfl, emulateInstruction_eq_x86Mov [] 0x89 0x03 _ rfl (by simp) rfl rfl rfl (by decide) rfl⟩

/-- Three instructions the emulator completes unlike x86: `mov [bx], ax` in a 16-bit segment
(through DI), `mov ah, [eax]` (into SPL) and `mov [rax], eax` in 64-bit mode (16-bit sizes). -/
theorem emulateInstruction_diverges_from_x86Mov :
    (∃ res, emulateInstruction ⟨0x89 :: 0x07 :: List.replicate 13 0, rfl⟩
        { rbx := 0x10, rdi := 0x20, rax := 0x1234 } (fun _ _ => 0) = .ok res ∧
      x86Mov { rbx := 0x10, rdi := 0x20, rax := 0x1234 } (fun _ _ => 0)
        (0x89 :: 0x07 :: List.replicate 13 0) ≠ some res) ∧
    (∃ res, emulateInstruction ⟨0x8A :: 0x20 :: List.replicate 13 0, rfl⟩
        { rsp := 0x1000, cs := { attrib := { db := true } } } (fun _ _ => 0x5A) = .ok res ∧
      x86Mov { rsp := 0x1000, cs := { attrib := { db := true } } } (fun _ _ => 0x5A)
        (0x8A :: 0x20 :: List.replicate 13 0) ≠ some res) ∧
    (∃ res, emulateInstruction ⟨0x89 :: 0x00 :: List.replicate 13 0, rfl⟩
        { rax := 0x100000000, cs := { attrib := { l := true } } } (fun _ _ => 0) = .ok res ∧
      x86Mov { rax := 0x100000000, cs := { attrib := { l := true } } } (fun _ _ => 0)
        (0x89 :: 0x00 :: List.replicate 13 0) ≠ some res) :=
  ⟨⟨_, rfl, by decide⟩, ⟨_, rfl, by decide⟩, ⟨_, rfl, by decide⟩⟩

end LunaVmm.Emulate

