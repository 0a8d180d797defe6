import LunaVmm.RegisterState

/-! Bringing the processors up (`cpu.cpp`, `smp.cpp`). The `stivale2` SMP tag is the fields
`start_cpus` reads and writes, and `pmm::alloc_block` the blocks it returns, in order. -/

namespace LunaVmm.Cpu

/-- `cpu::cpuid(leaf, a, b, c, d)` on the host, `none` where `__get_cpuid` returns false. -/
def Cpuid := BitVec 32 → Option (BitVec 32 × BitVec 32 × BitVec 32 × BitVec 32)

/-! ## `cpu::init` -/

structure Regs where
  efer : BitVec 64
  cr0 : BitVec 64
  deriving DecidableEq

/-- `cpu::init`: No-Execute support is asserted, then `EFER` gets bit 11 and `CR0` bit 16. -/
def init (cpuid : Cpuid) (regs : Regs) : Except Fault Regs :=
  match cpuid 0x80000001 with
  | none => .error (.panic "cpuid(0x8000'0001, a, b, c, d)")
  | some (_, _, _, d) =>
    if d &&& 1 <<< 20 = 0 then .error (.panic "d & (1 << 20)")
    else .ok ⟨regs.efer ||| 1 <<< 11, regs.cr0 ||| 1 <<< 16⟩

private theorem getLsbD_bit {w : Nat} (n i : Nat) :
    ((1 <<< n : Nat) : BitVec w).getLsbD i = (decide (i < w) && decide (n = i)) := by
  rw [BitVec.natCast_eq_ofNat, BitVec.getLsbD_ofNat, Nat.one_shiftLeft, Nat.testBit_two_pow]

private theorem and_bit_eq_zero (d : BitVec 32) : d &&& 1 <<< 20 = 0 ↔ d.getLsbD 20 = false := by
  constructor
  · intro zero
    have bit : (d &&& 1 <<< 20).getLsbD 20 = (0 : BitVec 32).getLsbD 20 := by rw [zero]
    rw [BitVec.getLsbD_and, getLsbD_bit] at bit
    simpa using bit
  · intro clear
    apply BitVec.eq_of_getLsbD_eq
    intro ⟨i, hi⟩
    by_cases here : i = 20
    · subst here
      simp [clear]
    · rw [BitVec.getLsbD_and, getLsbD_bit]
      simp [Ne.symm here]

theorem init_eq_ok {cpuid : Cpuid} {regs regs' : Regs} :
    init cpuid regs = .ok regs' ↔
      (∃ a b c d, cpuid 0x80000001 = some (a, b, c, d) ∧ d.getLsbD 20 = true) ∧
        regs' = ⟨regs.efer ||| 1 <<< 11, regs.cr0 ||| 1 <<< 16⟩ := by
  unfold init
  cases cpuid 0x80000001 with
  | none => simp
  | some answer =>
    obtain ⟨a, b, c, d⟩ := answer
    have reported : (∃ a' b' c' d', some (a, b, c, d) = some (a', b', c', d') ∧ d'.getLsbD 20 = true) ↔
        d.getLsbD 20 = true :=
      ⟨fun ⟨_, _, _, _, same, set⟩ => by cases same; exact set, fun set => ⟨a, b, c, d, rfl, set⟩⟩
    rw [reported]
    dsimp only
    by_cases clear : d.getLsbD 20 = false
    · rw [if_pos ((and_bit_eq_zero d).mpr clear)]
      simp [clear]
    · rw [if_neg (mt (and_bit_eq_zero d).mp clear)]
      simp only [Bool.not_eq_false] at clear
      simp [clear, @eq_comm _ regs']

private theorem getLsbD_or_bit (x : BitVec 64) (n i : Nat) (hn : n < 64) :
    (x ||| 1 <<< n).getLsbD i = (x.getLsbD i || decide (i = n)) := by
  rw [BitVec.getLsbD_or, getLsbD_bit]
  by_cases within : i < 64
  · simp [within, @eq_comm _ n]
  · simp [BitVec.getLsbD_ge x i (by omega), within]
    omega

def nxCpuid : Cpuid := fun _ => some (0, 0, 0, 1 <<< 20)

/-- The fields of a `stivale2_smp_info` entry that `start_cpus` reads and writes. -/
structure SmpInfo where
  processorId : BitVec 32
  lapicId : BitVec 32
  targetStack : BitVec 64
  gotoAddress : BitVec 64
  deriving DecidableEq

/-- A store of `start_cpus` to entry `cpu`: `target_stack`, or the atomic `goto_address` store that
releases it. -/
inductive Store where
  | targetStack (cpu : Nat) (value : BitVec 64)
  | gotoAddress (cpu : Nat) (value : BitVec 64)
  deriving DecidableEq

/-- `bsp_id`: bits 24..31 of `EBX` of leaf 1 with the xAPIC, `EDX` of leaf 0xB with the x2APIC. -/
def bspId (cpuid : Cpuid) (x2apic : Bool) : Except Fault (BitVec 32) :=
  if !x2apic then
    match cpuid 1 with
    | none => .error (.panic "cpu::cpuid(0x1, a, b, c, d)")
    | some (_, b, _, _) => .ok ((b >>> 24) &&& 0xFF)
  else
    match cpuid 0xB with
    | none => .error (.panic "cpu::cpuid(0xB, a, b, c, d)")
    | some (_, _, _, d) => .ok d

section Loop

variable (bsp : BitVec 32) (allocBlock : Nat → BitVec 64) (physMemMap f : BitVec 64)

/-- The loop of `start_cpus` from entry `i` on, `k` blocks allocated before it: the entries it
leaves and its stores, in order. -/
def startLoop : Nat → Nat → List SmpInfo → List SmpInfo × List Store
  | _, _, [] => ([], [])
  | i, k, cpu :: cpus =>
    if cpu.lapicId = bsp then
      let (cpus, stores) := startLoop (i + 1) k cpus
      (cpu :: cpus, stores)
    else
      let stackTop := allocBlock k + physMemMap + 0x1000
      let (cpus, stores) := startLoop (i + 1) (k + 1) cpus
      ({ cpu with targetStack := stackTop, gotoAddress := f } :: cpus,
        .targetStack i stackTop :: .gotoAddress i f :: stores)

/-- What the loop is for: the entries whose `lapic_id` is not the BSP's, in order, the `n`-th on the
`n`-th block allocated. -/
def plannedStarts (i k : Nat) (cpus : List SmpInfo) : List (Nat × BitVec 64) :=
  (((cpus.enumFrom i).filter fun entry => entry.2.lapicId ≠ bsp).enumFrom k).map
    fun (n, p, _) => (p, allocBlock n + physMemMap + 0x1000)

def handoff (starts : List (Nat × BitVec 64)) : List Store :=
  starts.flatMap fun (p, top) => [.targetStack p top, .gotoAddress p f]

@[simp] theorem plannedStarts_nil (i k : Nat) : plannedStarts bsp allocBlock physMemMap i k [] = [] := rfl

theorem plannedStarts_cons (i k : Nat) (cpu : SmpInfo) (cpus : List SmpInfo) :
    plannedStarts bsp allocBlock physMemMap i k (cpu :: cpus) =
      if cpu.lapicId = bsp then plannedStarts bsp allocBlock physMemMap (i + 1) k cpus
      else (i, allocBlock k + physMemMap + 0x1000) :: plannedStarts bsp allocBlock physMemMap (i + 1) (k + 1) cpus := by
  by_cases isBsp : cpu.lapicId = bsp <;> simp [plannedStarts, isBsp]

theorem plannedStarts_ge (i k : Nat) (cpus : List SmpInfo) :
    ∀ start ∈ plannedStarts bsp allocBlock physMemMap i k cpus, i ≤ start.1 := by
  intro start planned
  obtain ⟨⟨n, p, cpu⟩, mem, rfl⟩ := List.mem_map.mp planned
  show i ≤ p
  exact List.le_fst_of_mem_enumFrom (List.mem_of_mem_filter (List.snd_mem_of_mem_enumFrom mem))

/-- The loop's stores are the planned starts, each as a stack store, then the releasing store. -/
theorem startLoop_stores (i k : Nat) (cpus : List SmpInfo) :
    (startLoop bsp allocBlock physMemMap f i k cpus).2 =
      handoff f (plannedStarts bsp allocBlock physMemMap i k cpus) := by
  induction cpus generalizing i k with
  | nil => rfl
  | cons cpu cpus ih =>
    by_cases isBsp : cpu.lapicId = bsp
    · simp only [startLoop, plannedStarts_cons, isBsp, if_true, ih]
    · simp [startLoop, plannedStarts_cons, isBsp, ih, handoff]

def afterStart (starts : List (Nat × BitVec 64)) (p : Nat) (cpu : SmpInfo) : SmpInfo :=
  match starts.lookup p with
  | none => cpu
  | some top => { cpu with targetStack := top, gotoAddress := f }

private theorem lookup_cons_ne {p i : Nat} {top : BitVec 64} {rest : List (Nat × BitVec 64)} (ne : p ≠ i) :
    ((i, top) :: rest).lookup p = rest.lookup p := by
  rw [List.lookup_cons, beq_false_of_ne ne]

private theorem lookup_below {p : Nat} {starts : List (Nat × BitVec 64)} (below : ∀ s ∈ starts, p < s.1) :
    starts.lookup p = none := by
  induction starts with
  | nil => rfl
  | cons s rest ih =>
    obtain ⟨q, top⟩ := s
    rw [lookup_cons_ne (Nat.ne_of_lt (below _ (List.mem_cons_self _ _))), ih fun s mem => below s (List.mem_cons_of_mem _ mem)]

theorem plannedStarts_tops_nodup (inj : Function.Injective allocBlock) (i k : Nat) (cpus : List SmpInfo) :
    ((plannedStarts bsp allocBlock physMemMap i k cpus).map Prod.snd).Nodup := by
  have tops : (plannedStarts bsp allocBlock physMemMap i k cpus).map Prod.snd =
      (List.range' k ((cpus.enumFrom i).filter fun entry => entry.2.lapicId ≠ bsp).length).map
        fun n => allocBlock n + physMemMap + 0x1000 := by
    rw [← List.enumFrom_map_fst, List.map_map, plannedStarts, List.map_map]
    rfl
  rw [tops]
  exact (List.nodup_range' _ _).map fun m n same => inj (add_right_cancel (add_right_cancel same))

theorem plannedStarts_lookup_bsp (i k : Nat) (cpus : List SmpInfo) {p : Nat} {cpu : SmpInfo}
    (entry : cpus[p]? = some cpu) (isBsp : cpu.lapicId = bsp) :
    (plannedStarts bsp allocBlock physMemMap i k cpus).lookup (i + p) = none := by
  rw [List.lookup_eq_none_iff]
  intro start planned
  obtain ⟨⟨n, q, other⟩, mem, rfl⟩ := List.mem_map.mp planned
  obtain ⟨listed, notBsp⟩ := List.mem_filter.mp (List.snd_mem_of_mem_enumFrom mem)
  show (i + p != q) = true
  rw [bne_iff_ne]
  rintro rfl
  rw [List.mk_mem_enumFrom_iff_le_and_getElem?_sub, Nat.add_sub_cancel_left, entry] at listed
  obtain rfl : cpu = other := Option.some.inj listed.2
  simp [isBsp] at notBsp

theorem startLoop_entries (i k : Nat) (cpus : List SmpInfo) :
    ∀ p cpu, cpus[p]? = some cpu → (startLoop bsp allocBlock physMemMap f i k cpus).1[p]? =
      some (afterStart f (plannedStarts bsp allocBlock physMemMap i k cpus) (i + p) cpu) := by
  induction cpus generalizing i k with
  | nil => simp
  | cons cpu cpus ih =>
    have later := plannedStarts_ge bsp allocBlock physMemMap
    rintro (_ | p) entry found
    · obtain rfl : cpu = entry := Option.some.inj (List.getElem?_cons_zero.symm.trans found)
      by_cases isBsp : cpu.lapicId = bsp
      · simp only [startLoop, plannedStarts_cons, isBsp, if_true, List.getElem?_cons_zero, afterStart, Nat.add_zero,
          lookup_below fun s mem => Nat.lt_of_lt_of_le (Nat.lt_succ_self i) (later _ _ _ s mem)]
      · simp [startLoop, plannedStarts_cons, isBsp, afterStart, List.lookup_cons_self]
    · have shifted : i + (p + 1) = i + 1 + p := by omega
      by_cases isBsp : cpu.lapicId = bsp
      · simp only [startLoop, plannedStarts_cons, isBsp, if_true, List.getElem?_cons_succ, shifted]
        exact ih (i + 1) k p entry (List.getElem?_cons_succ.symm.trans found)
      · simp only [startLoop, plannedStarts_cons, isBsp, if_false, List.getElem?_cons_succ, shifted]
        rw [ih (i + 1) (k + 1) p entry (List.getElem?_cons_succ.symm.trans found)]
        simp only [afterStart, lookup_cons_ne (by omega : i + 1 + p ≠ i)]

end Loop

/-- `smp::start_cpus` up to its loop: `x2apic` from bit 0 of the tag's `flags`, and `bsp_id`. -/
def startCpus (cpuid : Cpuid) (allocBlock : Nat → BitVec 64) (physMemMap f flags : BitVec 64)
    (cpus : List SmpInfo) : Except Fault (List SmpInfo × List Store) := do
  let bsp ← bspId cpuid (flags &&& 1 != 0)
  pure (startLoop bsp allocBlock physMemMap f 0 0 cpus)

/-- `start_cpus` starts exactly the non-BSP entries, in order, each on the next allocated block and
with its stack stored first; the BSP's entry is untouched. -/
theorem startCpus_handoff {cpuid : Cpuid} {allocBlock : Nat → BitVec 64} {physMemMap f flags : BitVec 64}
    {cpus : List SmpInfo} {r : List SmpInfo × List Store}
    (h : startCpus cpuid allocBlock physMemMap f flags cpus = .ok r) :
    ∃ bsp, bspId cpuid (flags &&& 1 != 0) = .ok bsp ∧
      r.2 = handoff f (plannedStarts bsp allocBlock physMemMap 0 0 cpus) ∧
      (∀ p cpu, cpus[p]? = some cpu →
        r.1[p]? = some (afterStart f (plannedStarts bsp allocBlock physMemMap 0 0 cpus) p cpu)) ∧
      (∀ (p : Nat) (cpu : SmpInfo), cpus[p]? = some cpu → cpu.lapicId = bsp → r.1[p]? = some cpu) ∧
      (Function.Injective allocBlock →
        ((plannedStarts bsp allocBlock physMemMap 0 0 cpus).map Prod.snd).Nodup) := by
  obtain ⟨bsp, found, ⟨⟩⟩ := bind_eq_ok.mp h
  refine ⟨bsp, found, startLoop_stores .., fun p cpu entry => by
    simpa using startLoop_entries bsp allocBlock physMemMap f 0 0 cpus p cpu entry,
    fun p cpu entry isBsp => by
      have untouched := plannedStarts_lookup_bsp bsp allocBlock physMemMap 0 0 cpus entry isBsp
      rw [Nat.zero_add] at untouched
      simpa [afterStart, untouched] using startLoop_entries bsp allocBlock physMemMap f 0 0 cpus p cpu entry,
    fun inj => plannedStarts_tops_nodup bsp allocBlock physMemMap inj 0 0 cpus⟩

def leafOne : Cpuid := fun leaf => if leaf = 1 then some (0, 0, 0, 0) else none

def bspSecond : List SmpInfo := [⟨0, 1, 0, 0⟩, ⟨1, 0, 0, 0⟩]

def pageBlocks (n : Nat) : BitVec 64 := BitVec.ofNat 64 (0x100000 + 0x1000 * n)

theorem startCpus_handoff_bspSecond :
    startCpus leafOne pageBlocks 0x8000 0x42 0 bspSecond =
        .ok ([⟨0, 1, 0x109000, 0x42⟩, ⟨1, 0, 0, 0⟩], [.targetStack 0 0x109000, .gotoAddress 0 0x42]) ∧
      ∃ bsp, bspId leafOne (0 &&& 1 != 0) = .ok bsp ∧
        [.targetStack 0 0x109000, .gotoAddress 0 0x42] = handoff 0x42 (plannedStarts bsp pageBlocks 0x8000 0 0 bspSecond) ∧
        (∀ p cpu, bspSecond[p]? = some cpu →
          [⟨0, 1, 0x109000, 0x42⟩, ⟨1, 0, 0, 0⟩][p]? = some (afterStart 0x42 (plannedStarts bsp pageBlocks 0x8000 0 0 bspSecond) p cpu)) ∧
        (∀ (p : Nat) (cpu : SmpInfo), bspSecond[p]? = some cpu → cpu.lapicId = bsp → [⟨0, 1, 0x109000, 0x42⟩, ⟨1, 0, 0, 0⟩][p]? = some cpu) ∧
        (Function.Injective pageBlocks → ((plannedStarts bsp pageBlocks 0x8000 0 0 bspSecond).map Prod.snd).Nodup) := by
  have ran : startCpus leafOne pageBlocks 0x8000 0x42 0 bspSecond =
      .ok ([⟨0, 1, 0x109000, 0x42⟩, ⟨1, 0, 0, 0⟩], [.targetStack 0 0x109000, .gotoAddress 0 0x42]) := rfl
  have c := startCpus_handoff ran
  dsimp only at c
  exact ⟨ran, c⟩

end LunaVmm.Cpu
