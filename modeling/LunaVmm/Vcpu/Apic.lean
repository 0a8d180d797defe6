import LunaVmm.Vcpu.Run

/-! The LAPIC model's APIC base. `VCPU::VCPU` and a WRMSR to IA32_APIC_BASE are the only places
that call `lapic.update_apicbase`, each with the base the VCPU then holds. So in every run the
base the LAPIC was last told is the VCPU's, the one the MMU-violation dispatch compares against. -/

namespace LunaVmm

def Call.toApicbase : Call → Option (BitVec 64)
  | .updateApicbase apicbase => some apicbase
  | _ => none

/-- The base the last `update_apicbase` of a log handed the LAPIC. -/
def lapicBase (calls : List Call) : Option (BitVec 64) := (calls.filterMap Call.toApicbase).getLast?

@[simp] theorem lapicBase_append (calls calls' : List Call) :
    lapicBase (calls ++ calls') = (lapicBase calls').or (lapicBase calls) := by
  simp [lapicBase]

/-! ## One exit -/

section Steps

variable {vm : Vm} {env : Env} {cpu cpu' : VCPU} {regs : RegisterState}

theorem lapicBase_ofExcept {before : List Call} {result : Except Fault (List Call)}
    (quiet : lapicBase before = none)
    (quietOk : ∀ calls, result = .ok calls → lapicBase calls = none) :
    lapicBase (ExitResult.ofExcept cpu before result).calls = none := by
  cases result with
  | error f => exact quiet
  | ok calls => simp [ExitResult.ofExcept, quiet, quietOk calls rfl]

theorem lapicBase_emulateMmio {target : MmioTarget} :
    lapicBase (cpu.emulateMmio vm env regs target).calls = none := by
  simp only [VCPU.emulateMmio, VCPU.fetchAndEmulate]
  split_ifs
  · rfl
  · split <;> rfl
  · rfl

theorem lapicBase_mmuViolationExit {gpa : BitVec 64} :
    lapicBase (cpu.mmuViolationExit vm env regs gpa).calls = none := by
  unfold VCPU.mmuViolationExit
  split_ifs
  · exact lapicBase_emulateMmio
  · split
    · exact lapicBase_emulateMmio
    · rfl

theorem quiet_bind_pure {α : Type} {x : Except Fault α} {calls : α → List Call}
    (quiet : ∀ a, lapicBase (calls a) = none) :
    ∀ done, (x >>= fun a => pure (calls a)) = .ok done → lapicBase done = none := fun done ok => by
  obtain ⟨a, -, ok⟩ := bind_eq_ok.mp ok
  cases ok
  exact quiet a

theorem lapicBase_pioExit {port : BitVec 16} {size : Nat} {write rep string : Bool} :
    lapicBase (cpu.pioExit vm env regs port size write rep string).calls = none := by
  unfold VCPU.pioExit
  split_ifs with rep string write
  · rfl
  · rfl
  · -- a write: to a port no device claims, then to a device
    split
    · rfl
    · exact lapicBase_ofExcept rfl (quiet_bind_pure fun _ => rfl)
  · -- a read: of a port no device claims, then of a device
    split
    · exact lapicBase_ofExcept rfl (quiet_bind_pure fun _ => rfl)
    · refine lapicBase_ofExcept rfl fun done ok => ?_
      obtain ⟨_, -, ok⟩ := bind_eq_ok.mp ok
      refine quiet_bind_pure ?_ done ok
      exact fun _ => rfl

theorem lapicBase_cpuidExit : lapicBase (cpu.cpuidExit env regs).calls = none :=
  lapicBase_ofExcept rfl (quiet_bind_pure fun _ => rfl)

/-- An exit that resumes keeps the LAPIC's base at the VCPU's: only a WRMSR to IA32_APIC_BASE
changes one and tells the other. -/
theorem lapicBase_runExit {exit : VmExit} (resumed : (cpu.runExit vm env regs exit).next = .resume cpu') :
    (lapicBase (cpu.runExit vm env regs exit).calls).getD cpu.apicbase = cpu'.apicbase := by
  have kept := runExit_resume resumed
  cases exit with
  | vmcall => cases resumed
  | mmuViolation gpa => simp only [VCPU.runExit, lapicBase_mmuViolationExit, kept, Option.getD_none]
  | pio port size write rep string => simp only [VCPU.runExit, lapicBase_pioExit, kept, Option.getD_none]
  | cpuid => simp only [VCPU.runExit, lapicBase_cpuidExit, kept, Option.getD_none]
  | other => simp only [VCPU.runExit, kept]; rfl
  | msr write =>
    simp only [VCPU.runExit, msrExit_eq, kept, msrAccess_eq]
    cases msrReg (msrIndex regs) with
    | none =>
      have quiet (cap : Prop) [Decidable cap] :
          lapicBase (if cap then [.injectInt .exception 13 true 0] else []) = none := by
        split <;> rfl
      cases write <;> simp only [if_true, Bool.false_eq_true, if_false, lapicBase_append, quiet] <;> rfl
    | some r => cases write <;> cases r <;> rfl

end Steps

/-! ## Runs -/

/-- Along every run that is still going, the LAPIC's base stays the VCPU's, whatever exits come. -/
theorem run_lapicBase (vm : Vm) (env : Env) {cpu cpu' : VCPU} {entries : List Entry}
    {before : List Call} (told : lapicBase before = some cpu.apicbase)
    (running : (VCPU.run vm env cpu entries).outcome = .running cpu') :
    lapicBase (before ++ (VCPU.run vm env cpu entries).calls) = some cpu'.apicbase := by
  induction entries generalizing cpu before with
  | nil => cases running; simpa only [VCPU.run, List.append_nil] using told
  | cons entry rest ih =>
    cases entry with
    | failed => cases running
    | exited exit regs =>
      simp only [VCPU.run] at running ⊢
      split at running
      · rename_i next resumed
        simp only [resumed]
        rw [← List.append_assoc]
        refine ih ?_ running
        rw [lapicBase_append, told, ← lapicBase_runExit resumed]
        cases lapicBase (cpu.runExit vm env regs exit).calls <;> rfl
      · cases running
      · cases running

/-! ## A new VCPU -/

/-- In every run of a new VCPU still going, the LAPIC was last told the VCPU's APIC base, and MMU
violations in that page go to the LAPIC. -/
theorem run_new_lapicBase (vm : Vm) (env : Env) {raw : VCPU} {id : BitVec 8}
    {cr0Constraint cr4Constraint eferConstraint : BitVec 64} {cpu cpu' : VCPU} {calls : List Call}
    {entries : List Entry}
    (created : VCPU.new raw id cr0Constraint cr4Constraint eferConstraint = (cpu, calls))
    (running : (VCPU.run vm env cpu entries).outcome = .running cpu') :
    lapicBase (calls ++ (VCPU.run vm env cpu entries).calls) = some cpu'.apicbase ∧
      ∀ (regs : RegisterState) (gpa : BitVec 64),
        gpa &&& ofInt (~~~0xFFF) = cpu'.apicbase &&& ofInt (~~~0xFFF) →
          cpu'.mmuViolationExit vm env regs gpa = cpu'.emulateMmio vm env regs .lapic := by
  have told : lapicBase calls = some cpu.apicbase := by
    rw [VCPU.new] at created
    cases created
    rfl
  exact ⟨run_lapicBase vm env told running,
    fun regs gpa page => by rw [VCPU.mmuViolationExit, if_pos page]⟩

theorem run_new_lapicBase_relocated :
    VCPU.new ⟨0, 0, ⟨0, false, false, 0, fun _ => ⟨0, 0⟩, fun _ => 0⟩⟩ 0 0 0 0 =
        (⟨0xFEE00900, 0, ⟨0, false, false, 0, fun _ => ⟨0, 0⟩, fun _ => 0⟩⟩,
          [.setRegs (resetRegs 0 0 0), .setSimd 0x40 0x1F80, .updateApicbase 0xFEE00900]) ∧
    (VCPU.run ⟨fun _ => 0, [], fun _ => none⟩
        ⟨fun _ _ => none, fun _ => 0, fun _ _ _ => 0, fun _ _ _ => 0⟩
        ⟨0xFEE00900, 0, ⟨0, false, false, 0, fun _ => ⟨0, 0⟩, fun _ => 0⟩⟩
        [.exited (.msr true) { rcx := 0x1B, rax := 0xFEE01900 }, .exited .cpuid { rax := 0x40000000 }]).outcome =
      .running ⟨0xFEE01900, 0, ⟨0, false, false, 0, fun _ => ⟨0, 0⟩, fun _ => 0⟩⟩ ∧
    lapicBase ([.setRegs (resetRegs 0 0 0), .setSimd 0x40 0x1F80, .updateApicbase 0xFEE00900] ++
        (VCPU.run ⟨fun _ => 0, [], fun _ => none⟩
          ⟨fun _ _ => none, fun _ => 0, fun _ _ _ => 0, fun _ _ _ => 0⟩
          ⟨0xFEE00900, 0, ⟨0, false, false, 0, fun _ => ⟨0, 0⟩, fun _ => 0⟩⟩
          [.exited (.msr true) { rcx := 0x1B, rax := 0xFEE01900 }, .exited .cpuid { rax := 0x40000000 }]).calls) =
      some (VCPU.apicbase ⟨0xFEE01900, 0, ⟨0, false, false, 0, fun _ => ⟨0, 0⟩, fun _ => 0⟩⟩) ∧
    ∀ (regs : RegisterState) (gpa : BitVec 64),
      gpa &&& ofInt (~~~0xFFF) =
          VCPU.apicbase ⟨0xFEE01900, 0, ⟨0, false, false, 0, fun _ => ⟨0, 0⟩, fun _ => 0⟩⟩ &&& ofInt (~~~0xFFF) →
        VCPU.mmuViolationExit ⟨fun _ => 0, [], fun _ => none⟩
            ⟨fun _ _ => none, fun _ => 0, fun _ _ _ => 0, fun _ _ _ => 0⟩
            ⟨0xFEE01900, 0, ⟨0, false, false, 0, fun _ => ⟨0, 0⟩, fun _ => 0⟩⟩ regs gpa =
          VCPU.emulateMmio ⟨fun _ => 0, [], fun _ => none⟩
            ⟨fun _ _ => none, fun _ => 0, fun _ _ _ => 0, fun _ _ _ => 0⟩
            ⟨0xFEE01900, 0, ⟨0, false, false, 0, fun _ => ⟨0, 0⟩, fun _ => 0⟩⟩ regs .lapic := by
  have created : VCPU.new ⟨0, 0, ⟨0, false, false, 0, fun _ => ⟨0, 0⟩, fun _ => 0⟩⟩ 0 0 0 0 =
      (⟨0xFEE00900, 0, ⟨0, false, false, 0, fun _ => ⟨0, 0⟩, fun _ => 0⟩⟩,
        [.setRegs (resetRegs 0 0 0), .setSimd 0x40 0x1F80, .updateApicbase 0xFEE00900]) := rfl
  have running : (VCPU.run ⟨fun _ => 0, [], fun _ => none⟩
      ⟨fun _ _ => none, fun _ => 0, fun _ _ _ => 0, fun _ _ _ => 0⟩
      ⟨0xFEE00900, 0, ⟨0, false, false, 0, fun _ => ⟨0, 0⟩, fun _ => 0⟩⟩
      [.exited (.msr true) { rcx := 0x1B, rax := 0xFEE01900 }, .exited .cpuid { rax := 0x40000000 }]).outcome =
      .running ⟨0xFEE01900, 0, ⟨0, false, false, 0, fun _ => ⟨0, 0⟩, fun _ => 0⟩⟩ := rfl
  exact ⟨created, running, run_new_lapicBase _ _ created running⟩

end LunaVmm
