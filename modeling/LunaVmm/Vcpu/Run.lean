import LunaVmm.Vcpu.Msr

/-! Whole runs of the exit loop. Only the MSR exit changes the VCPU: MMU violations, PIO,
CPUID and the exits the loop only logs resume with the VCPU they were given. So the MSR
register file of `Vcpu.Msr` holds across every interleaving of exits. -/

namespace LunaVmm

/-- The MSR exits among a list of entries, in order, up to the first failed entry. -/
def msrAccesses : List Entry → List (Bool × RegisterState)
  | [] => []
  | .failed :: _ => []
  | .exited (.msr write) regs :: rest => (write, regs) :: msrAccesses rest
  | .exited _ _ :: rest => msrAccesses rest

section Steps

variable {vm : Vm} {env : Env} {cpu cpu' : VCPU} {regs : RegisterState}

theorem ofExcept_resume {before : List Call} {result : Except Fault (List Call)}
    (resumed : (ExitResult.ofExcept cpu before result).next = .resume cpu') : cpu' = cpu := by
  cases result <;> cases resumed; rfl

theorem emulateMmio_resume {target : MmioTarget}
    (resumed : (cpu.emulateMmio vm env regs target).next = .resume cpu') : cpu' = cpu := by
  simp only [VCPU.emulateMmio, VCPU.fetchAndEmulate] at resumed
  split_ifs at resumed
  · split at resumed <;> cases resumed
    rfl

theorem mmuViolationExit_resume {gpa : BitVec 64}
    (resumed : (cpu.mmuViolationExit vm env regs gpa).next = .resume cpu') : cpu' = cpu := by
  unfold VCPU.mmuViolationExit at resumed
  split_ifs at resumed
  · exact emulateMmio_resume resumed
  · split at resumed
    · exact emulateMmio_resume resumed
    · cases resumed

theorem pioExit_resume {port : BitVec 16} {size : Nat} {write rep string : Bool}
    (resumed : (cpu.pioExit vm env regs port size write rep string).next = .resume cpu') :
    cpu' = cpu := by
  unfold VCPU.pioExit at resumed
  split_ifs at resumed <;> try split at resumed
  all_goals first
    | exact ofExcept_resume resumed
    | exact (Next.resume.inj resumed).symm

/-- An exit resumes with the VCPU it was given, or for an MSR exit with the state
`msrAccess` leaves. -/
theorem runExit_resume {exit : VmExit} (resumed : (cpu.runExit vm env regs exit).next = .resume cpu') :
    cpu' = match exit with
      | .msr write => (cpu.msrAccess write (msrIndex regs) (msrValue regs)).1
      | _ => cpu := by
  cases exit with
  | vmcall => cases resumed
  | mmuViolation gpa => exact mmuViolationExit_resume resumed
  | pio port size write rep string => exact pioExit_resume resumed
  | cpuid => exact ofExcept_resume resumed
  | msr write =>
    rw [VCPU.runExit, msrExit_eq] at resumed
    cases resumed
    rfl
  | other => cases resumed; rfl

end Steps

/-- While the loop runs, the VCPU is what the run's MSR exits alone make of it. -/
theorem run_running (vm : Vm) (env : Env) {cpu cpu' : VCPU} {entries : List Entry}
    (running : (VCPU.run vm env cpu entries).outcome = .running cpu') :
    cpu' = cpu.afterMsrs (msrAccesses entries) := by
  induction entries generalizing cpu with
  | nil => cases running; rfl
  | cons entry rest ih =>
    cases entry with
    | failed => cases running
    | exited exit regs =>
      simp only [VCPU.run] at running
      split at running
      · rename_i next resumed
        rw [ih running, runExit_resume resumed]
        cases exit <;> rfl
      · cases running
      · cases running

/-- In every run of the exit loop that is still going, an RDMSR of a kept index reads the last
value a WRMSR stored there, whatever MMIO, PIO, CPUID and logged exits came between. -/
theorem run_shadow (vm : Vm) (env : Env) {cpu cpu' : VCPU} {entries : List Entry}
    (running : (VCPU.run vm env cpu entries).outcome = .running cpu') {index : BitVec 32}
    (handled : HandledMsr index) :
    cpu'.shadow index = (lastWrite index (msrAccesses entries)).getD (cpu.shadow index) := by
  rw [run_running vm env running, shadow_afterMsrs _ _ handled]

theorem run_shadow_tsc :
    (VCPU.run ⟨fun _ => 0, [], fun _ => none⟩
        ⟨fun _ _ => none, fun _ => 0, fun _ _ _ => 0, fun _ _ _ => 0⟩
        ⟨0, 0, ⟨0, false, false, 0, fun _ => ⟨0, 0⟩, fun _ => 0⟩⟩
        [.exited (.msr true) { rcx := 0x10, rax := 7 }, .exited .cpuid { rax := 0x40000000 },
          .exited .other {}]).outcome =
      .running ⟨0, 7, ⟨0, false, false, 0, fun _ => ⟨0, 0⟩, fun _ => 0⟩⟩ ∧
    HandledMsr 0x10 ∧
    VCPU.shadow ⟨0, 7, ⟨0, false, false, 0, fun _ => ⟨0, 0⟩, fun _ => 0⟩⟩ 0x10 = 7 := by
  have running : (VCPU.run ⟨fun _ => 0, [], fun _ => none⟩
      ⟨fun _ _ => none, fun _ => 0, fun _ _ _ => 0, fun _ _ _ => 0⟩
      ⟨0, 0, ⟨0, false, false, 0, fun _ => ⟨0, 0⟩, fun _ => 0⟩⟩
      [.exited (.msr true) { rcx := 0x10, rax := 7 }, .exited .cpuid { rax := 0x40000000 },
        .exited .other {}]).outcome =
      .running ⟨0, 7, ⟨0, false, false, 0, fun _ => ⟨0, 0⟩, fun _ => 0⟩⟩ := rfl
  have handled : HandledMsr 0x10 := by decide
  refine ⟨running, handled, ?_⟩
  rw [run_shadow _ _ running handled]
  decide

end LunaVmm
