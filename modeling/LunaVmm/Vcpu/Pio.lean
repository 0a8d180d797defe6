import LunaVmm.Vcpu.Exit

/-! The PIO exit. Its one- and two-byte masks are `int` literals and its four-byte mask an
`unsigned int`, so only a four-byte read replaces all of RAX. -/

namespace LunaVmm

/-- RAX after a PIO read of `size` bytes returning `value`: its low bytes replaced, or the
zero-extended value for four bytes. -/
def pioReadRax (size : Nat) (rax value : BitVec 64) : BitVec 64 :=
  if size = 4 then value &&& 0xFFFFFFFF
  else (rax &&& ~~~sizeMask size) ||| (value &&& sizeMask size)

def pioClearRax (size : Nat) (rax : BitVec 64) : BitVec 64 :=
  if size = 4 then 0 else rax &&& ~~~sizeMask size

variable {size : Nat}

theorem regClear_ok (sized : size = 1 ∨ size = 2 ∨ size = 4) (value : BitVec 64) :
    regClear size value = pure (value &&& sizeMask size) := by
  rcases sized with rfl | rfl | rfl <;> rfl

theorem raxClear_ok (sized : size = 1 ∨ size = 2 ∨ size = 4) (rax : BitVec 64) :
    raxClear size rax = pure (if size = 4 then 0 else rax &&& ~~~sizeMask size) := by
  rcases sized with rfl | rfl | rfl <;> simp [raxClear, ofUnsigned] <;> rfl

/-- Every PIO exit of size 1, 2 or 4 without REP or string: a registered port calls only its device,
merging a read into RAX's low bytes; otherwise no call, and a read clears them. -/
theorem pioExit_spec (vm : Vm) (env : Env) (cpu : VCPU) (regs : RegisterState) (port : BitVec 16)
    (write : Bool) (sized : size = 1 ∨ size = 2 ∨ size = 4) :
    cpu.pioExit vm env regs port size write false false =
      match vm.pioMap port, write with
      | some driver, true => ⟨.resume cpu, [.pioWrite driver port (regs.rax &&& sizeMask size) size]⟩
      | some driver, false =>
        ⟨.resume cpu, [.pioRead driver port size,
          .setRegs { regs with rax := pioReadRax size regs.rax (env.pioRead driver port size) }]⟩
      | none, true => ⟨.resume cpu, [.setRegs regs]⟩
      | none, false => ⟨.resume cpu, [.setRegs { regs with rax := pioClearRax size regs.rax }]⟩ := by
  unfold VCPU.pioExit
  cases vm.pioMap port <;> cases write <;>
    simp [regClear_ok sized, raxClear_ok sized, pioReadRax, pioClearRax]
  split_ifs with four
  · subst four; simp [sizeMask]
  · rfl

theorem pioExit_spec_unregisteredIn :
    (1 = 1 ∨ 1 = 2 ∨ 1 = 4) ∧
    VCPU.pioExit ⟨fun _ => 0, [], fun _ => none⟩
        ⟨fun _ _ => none, fun _ => 0, fun _ _ _ => 0, fun _ _ _ => 0⟩
        ⟨0, 0, ⟨0, false, false, 0, fun _ => ⟨0, 0⟩, fun _ => 0⟩⟩
        { rax := 0xFFFFFFFF } 0x80 1 false false false =
      ⟨.resume ⟨0, 0, ⟨0, false, false, 0, fun _ => ⟨0, 0⟩, fun _ => 0⟩⟩,
        [.setRegs { rax := 0xFFFFFF00 }]⟩ := by
  have sized : 1 = 1 ∨ 1 = 2 ∨ 1 = 4 := Or.inl rfl
  refine ⟨sized, ?_⟩
  rw [pioExit_spec _ _ _ _ _ _ sized]
  rfl

end LunaVmm
