import LunaVmm.Vcpu.Exit

/-! The CPUID exit. Results are written through `write_low32`, which zero-extends them, but
leaf 1 then ORs in the hypervisor bit as the `int` `1 << 31`, which widens with ones. Whatever
the leaf, an exit changes RAX, RBX, RCX and RDX alone. -/

namespace LunaVmm

def cpuidLeaf (regs : RegisterState) : BitVec 32 := regs.rax.setWidth 32

def cpuidSubleaf (regs : RegisterState) : BitVec 32 := regs.rcx.setWidth 32

theorem passthrough_ok {env : Env} {leaf subleaf a b c d : BitVec 32}
    (host : env.cpuid leaf subleaf = some (a, b, c, d)) (regs : RegisterState) :
    passthrough env leaf subleaf regs =
      pure { regs with rax := a.setWidth 64, rbx := b.setWidth 64,
                       rcx := c.setWidth 64, rdx := d.setWidth 64 } := by
  simp [passthrough, host]

theorem cpuidPolicy_leaf1 {env : Env} {regs : RegisterState} {a b c d : BitVec 32}
    (leaf : cpuidLeaf regs = 1) (host : env.cpuid 1 (cpuidSubleaf regs) = some (a, b, c, d)) :
    cpuidPolicy env regs =
      pure { regs with rax := a.setWidth 64, rbx := b.setWidth 64,
                       rcx := osSupportBit regs.cr4 (c.setWidth 64 ||| ofInt (1 <<< 31)) 18 27,
                       rdx := osSupportBit regs.cr4 (d.setWidth 64) 9 24 } := by
  unfold cpuidPolicy
  simp only [setWidth_and_low32]
  rw [← cpuidLeaf, ← cpuidSubleaf, leaf, if_neg (by decide), if_pos rfl, passthrough_ok host]
  rfl

private theorem high_of_masks (reg keep add : BitVec 64) (kept : keep >>> 32 = 0xFFFFFFFF)
    (none : add >>> 32 = 0) : ((reg &&& keep) ||| add) >>> 32 = reg >>> 32 := by
  rw [BitVec.ushiftRight_or_distrib, BitVec.ushiftRight_and_distrib, kept, none,
    show (0xFFFFFFFF : BitVec 64) = ofUnsigned 0xFFFFFFFF by decide, and_low32, high32_setWidth]
  simp

theorem osSupportBit_high (cr4 reg : BitVec 64) (cr4Bit : Nat) {bit : Nat}
    (used : bit = 24 ∨ bit = 27) : osSupportBit cr4 reg cr4Bit bit >>> 32 = reg >>> 32 := by
  unfold osSupportBit
  generalize ((cr4 >>> cr4Bit) &&& 1 != 0) = os
  rcases used with rfl | rfl <;> apply high_of_masks <;> cases os <;> decide

private theorem high_hypervisorBit (c : BitVec 32) :
    (c.setWidth 64 ||| ofInt (1 <<< 31)) >>> 32 = 0xFFFFFFFF := by
  have zeroExtended : c.setWidth 64 >>> 32 = 0 := by
    apply BitVec.eq_of_toNat_eq
    simp [Nat.shiftRight_eq_div_pow]
    exact Nat.div_eq_of_lt (by omega)
  rw [BitVec.ushiftRight_or_distrib, zeroExtended]
  decide

/-- Every CPUID exit for leaf 1 that the host answers leaves bits 63..32 of RCX all set. -/
theorem cpuidExit_leaf1_rcx (env : Env) (cpu : VCPU) (regs : RegisterState) (a b c d : BitVec 32)
    (leaf : cpuidLeaf regs = 1) (host : env.cpuid 1 (cpuidSubleaf regs) = some (a, b, c, d)) :
    ∃ regs', cpu.cpuidExit env regs = ⟨.resume cpu, [.setRegs regs']⟩ ∧
      regs'.rcx >>> 32 = 0xFFFFFFFF := by
  refine ⟨{ regs with
      rax := a.setWidth 64, rbx := b.setWidth 64,
      rcx := osSupportBit regs.cr4 (c.setWidth 64 ||| ofInt (1 <<< 31)) 18 27,
      rdx := osSupportBit regs.cr4 (d.setWidth 64) 9 24 }, ?_, ?_⟩
  · simp [VCPU.cpuidExit, cpuidPolicy_leaf1 leaf host]
  · exact (osSupportBit_high _ _ _ (Or.inr rfl)).trans (high_hypervisorBit c)

theorem cpuidExit_leaf1_hostZero :
    cpuidLeaf { rax := 1 } = 1 ∧
    (⟨fun _ _ => some (0, 0, 0, 0), fun _ => 0, fun _ _ _ => 0, fun _ _ _ => 0⟩ : Env).cpuid 1
      (cpuidSubleaf { rax := 1 }) = some (0, 0, 0, 0) ∧
    ∃ regs', VCPU.cpuidExit ⟨fun _ _ => some (0, 0, 0, 0), fun _ => 0, fun _ _ _ => 0, fun _ _ _ => 0⟩
        ⟨0, 0, ⟨0, false, false, 0, fun _ => ⟨0, 0⟩, fun _ => 0⟩⟩ { rax := 1 } =
      ⟨.resume ⟨0, 0, ⟨0, false, false, 0, fun _ => ⟨0, 0⟩, fun _ => 0⟩⟩, [.setRegs regs']⟩ ∧
      regs'.rcx >>> 32 = 0xFFFFFFFF :=
  ⟨by decide, rfl, cpuidExit_leaf1_rcx _ _ _ 0 0 0 0 (by decide) rfl⟩

/-! ## The frame of every CPUID exit -/

/-- A CPUID answer differs from the guest's registers in RAX, RBX, RCX and RDX alone. -/
def CpuidFrame (regs regs' : RegisterState) : Prop :=
  { regs' with rax := regs.rax, rbx := regs.rbx, rcx := regs.rcx, rdx := regs.rdx } = regs

/-- What the leaf dispatch may leave: registers in the frame, or the `ASSERT` of `passthrough`
failing for a leaf the host cannot answer. -/
def PolicyResult (env : Env) (regs : RegisterState) (result : Except Fault RegisterState) : Prop :=
  (∃ regs', result = .ok regs' ∧ CpuidFrame regs regs') ∨
  (env.cpuid (cpuidLeaf regs) (cpuidSubleaf regs) = none ∧
    result = .error (.panic "cpu::cpuid(leaf, subleaf, a, b, c, d)"))

section Frame

variable {env : Env} {regs : RegisterState}

theorem passthrough_policyResult :
    PolicyResult env regs (passthrough env (cpuidLeaf regs) (cpuidSubleaf regs) regs) := by
  unfold passthrough
  split
  · exact .inl ⟨_, rfl, rfl⟩
  · exact .inr ⟨‹_›, rfl⟩

theorem PolicyResult.post {result : Except Fault RegisterState} (possible : PolicyResult env regs result)
    {post : RegisterState → RegisterState} (keeps : ∀ r, CpuidFrame regs r → CpuidFrame regs (post r)) :
    PolicyResult env regs (result >>= fun r => pure (post r)) := by
  rcases possible with ⟨r, rfl, frame⟩ | ⟨none, rfl⟩
  · exact .inl ⟨post r, rfl, keeps r frame⟩
  · exact .inr ⟨none, rfl⟩

theorem cpuidPolicy_policyResult (env : Env) (regs : RegisterState) :
    PolicyResult env regs (cpuidPolicy env regs) := by
  unfold cpuidPolicy
  simp only [setWidth_and_low32]
  rw [← cpuidLeaf, ← cpuidSubleaf]
  have host : PolicyResult env regs _ := passthrough_policyResult
  have kept : ∀ r, CpuidFrame regs r → PolicyResult env regs (pure r) :=
    fun r frame => .inl ⟨r, rfl, frame⟩
  -- leaves 0, 1, 0x40000000, 0x80000000, 0x80000001, 0x80000008, then every other leaf
  refine iteInduction (fun _ => host) fun _ => ?_
  refine iteInduction (fun _ => host.post fun _ frame => frame) fun _ => ?_
  refine iteInduction (fun _ => kept _ rfl) fun _ => ?_
  refine iteInduction (fun _ => host) fun _ => ?_
  refine iteInduction (fun _ => host.post fun _ frame => frame) fun _ => ?_
  exact iteInduction (fun _ => host.post fun _ frame => frame) fun _ => kept _ rfl

end Frame

/-- Every CPUID exit resumes with one `set_regs` that changes RAX, RBX, RCX and RDX alone, or fails
the `ASSERT` of `passthrough`. -/
theorem cpuidExit_frame (env : Env) (cpu : VCPU) (regs : RegisterState) :
    (∃ regs', cpu.cpuidExit env regs = ⟨.resume cpu, [.setRegs regs']⟩ ∧ CpuidFrame regs regs') ∨
    (env.cpuid (cpuidLeaf regs) (cpuidSubleaf regs) = none ∧
      cpu.cpuidExit env regs = ⟨.fault (.panic "cpu::cpuid(leaf, subleaf, a, b, c, d)"), []⟩) := by
  rcases cpuidPolicy_policyResult env regs with ⟨answer, answered, frame⟩ | ⟨none, failed⟩
  · exact .inl ⟨answer, by rw [VCPU.cpuidExit, answered]; rfl, frame⟩
  · exact .inr ⟨none, by rw [VCPU.cpuidExit, failed]; rfl⟩

end LunaVmm
