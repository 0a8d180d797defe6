import LunaVmm.Q35.Lpc

/-! What a configuration write can do to the LPC bridge, and the invariants that tie the ACPI
PM block to the PMBASE and ACPI_CNTL registers over every run of writes. A write at a BAR
offset is the exception throughout: `handle_bar` stores it to `data32[reg]`. -/

namespace LunaVmm.Lpc

open ConfigSpace

/-- The register side effect `pci_write` runs after storing into a window. -/
def windowUpdate : Window → Driver → Driver
  | .pirq => Driver.pirqUpdate
  | .pmbase => Driver.pmbaseUpdate
  | .acpiCntl => Driver.acpiCntlUpdate
  | .rootComplex => Driver.rootComplexBaseUpdate
  | _ => id

def Window.region : Window → Nat × Nat
  | .header => (0, 0x40)
  | .pirq => (0x5C, 0x70)
  | .pmbase => (0x40, 0x44)
  | .acpiCntl => (0x44, 0x48)
  | .rootComplex => (0xEC, 0xF4)
  | .unhandled => (0, 0)

variable {d d' : Driver} {reg size : Nat} {value : BitVec 32}

/-- Away from the BARs, a write is a store followed by its window's side effect, or nothing. -/
theorem pciWrite_ok (notBar : reg ∉ barOffsets) (h : d.pciWrite reg value size = .ok d') :
    (window reg size = .unhandled ∧ d' = d) ∨
      (window reg size ≠ .unhandled ∧ ∃ space, d.space.store reg value size = .ok space ∧
        d' = windowUpdate (window reg size) { d with space }) := by
  unfold Driver.pciWrite Driver.pciUpdate at h
  split at h <;> rename_i w
  all_goals first
    | (simp only [Except.ok.injEq] at h; exact .inl ⟨w, h.symm⟩)
    | skip
  all_goals
    simp only [notBar, if_false] at h
    cases hs : d.space.store reg value size <;> simp only [hs, Except.map, reduceCtorEq,
      Except.ok.injEq] at h
    exact .inr ⟨by simp [w], _, rfl, by simp [w, windowUpdate, h]⟩

theorem store_region {w : Window} (hw : window reg size = w) (handled : w ≠ .unhandled)
    (sized : size = 1 ∨ size = 2 ∨ size = 4) :
    reg < 256 ∧ w.region.1 ≤ reg / size * size ∧ reg / size * size + size ≤ w.region.2 := by
  subst hw
  unfold window rangesOverlap configSpaceHeaderSize pirqABase pirqALen pirqBBase pirqBLen pmbase
    acpiCntl rootComplexBase at *
  simp only [Bool.or_eq_true, Bool.and_eq_true, decide_eq_true_eq] at *
  split_ifs at * <;> simp only [Window.region, ne_eq, not_true_eq_false] at * <;>
    rcases sized with rfl | rfl | rfl <;> omega


theorem byteOf_or (a b : BitVec 32) (j : Nat) : byteOf (a ||| b) j = byteOf a j ||| byteOf b j := by
  apply BitVec.eq_of_getLsbD_eq; intro ⟨i, hi⟩
  simp [byteOf, hi]

theorem byte_pmbaseUpdate (d : Driver) (j : Nat) :
    d.pmbaseUpdate.space.byte j = if j = pmbase then d.space.byte j ||| 1 else d.space.byte j := by
  simp only [Driver.pmbaseUpdate, pmbase]
  rw [byte_setData32 _ _ _ _ (by decide)]
  split_ifs with inRange same
  · subst same; rw [byteOf_or, byteOf_data32 _ _ (by decide)]; rfl
  · have small : j - 64 < 4 := by omega
    rw [byteOf_or, byteOf_data32 _ _ small, show 4 * (64 / 4) + (j - 4 * (64 / 4)) = j by omega]
    interval_cases hj : j - 64 <;> first | omega | simp [byteOf]
  · omega
  · rfl

@[simp] theorem acpiPmbase_pmbaseUpdate (d : Driver) :
    d.pmbaseUpdate.acpiPmbase = (d.pmbaseUpdate.space.data32 (pmbase / 4) &&& ~~~1).setWidth 16 :=
  rfl

@[simp] theorem acpiUpdates_pmbaseUpdate (d : Driver) : d.pmbaseUpdate.acpiUpdates = d.acpiUpdates :=
  rfl

@[simp] theorem space_acpiCntlUpdate (d : Driver) : d.acpiCntlUpdate.space = d.space := rfl
@[simp] theorem acpiPmbase_acpiCntlUpdate (d : Driver) :
    d.acpiCntlUpdate.acpiPmbase = d.acpiPmbase := rfl
@[simp] theorem space_rootComplexBaseUpdate (d : Driver) :
    d.rootComplexBaseUpdate.space = d.space := rfl
@[simp] theorem acpiPmbase_rootComplexBaseUpdate (d : Driver) :
    d.rootComplexBaseUpdate.acpiPmbase = d.acpiPmbase := rfl
@[simp] theorem acpiUpdates_rootComplexBaseUpdate (d : Driver) :
    d.rootComplexBaseUpdate.acpiUpdates = d.acpiUpdates := rfl
@[simp] theorem pirqUpdate_eq (d : Driver) : d.pirqUpdate = d := rfl


theorem space_windowUpdate {w : Window} (notPmbase : w ≠ .pmbase) (d : Driver) :
    (windowUpdate w d).space = d.space := by
  cases w <;> first | rfl | exact absurd rfl notPmbase

theorem acpiUpdates_windowUpdate {w : Window} (notAcpi : w ≠ .acpiCntl) (d : Driver) :
    (windowUpdate w d).acpiUpdates = d.acpiUpdates := by
  cases w <;> first | rfl | exact absurd rfl notAcpi

theorem acpiPmbase_windowUpdate {w : Window} (notPmbase : w ≠ .pmbase) (d : Driver) :
    (windowUpdate w d).acpiPmbase = d.acpiPmbase := by
  cases w <;> first | rfl | exact absurd rfl notPmbase

/-- Every byte after a write away from the BARs: the stored bytes of `value`, bit 0 of PMBASE
forced, the old bytes elsewhere. -/
theorem byte_pciWrite (notBar : reg ∉ barOffsets) (h : d.pciWrite reg value size = .ok d')
    (j : Nat) :
    d'.space.byte j =
      if window reg size = .unhandled then d.space.byte j
      else
        let stored := if reg / size * size ≤ j ∧ j < reg / size * size + size
          then byteOf value (j - reg / size * size) else d.space.byte j
        if window reg size = .pmbase ∧ j = pmbase then stored ||| 1 else stored := by
  rcases pciWrite_ok notBar h with ⟨hw, rfl⟩ | ⟨hw, space, hs, rfl⟩
  · simp [hw]
  · have hbyte := byte_store j hs (store_region rfl hw (store_size hs)).1
    by_cases isPmbase : window reg size = .pmbase
    · simp only [isPmbase, windowUpdate, byte_pmbaseUpdate, hbyte, reduceCtorEq, if_false, true_and]
    · simp only [space_windowUpdate isPmbase, hbyte, hw, isPmbase, false_and, if_false]


/-! ## Aligned accesses -/

def ConfigSpace.littleEndian (s : ConfigSpace) (reg : Nat) : Nat → BitVec 32
  | 0 => 0
  | n + 1 => (s.byte reg).setWidth 32 ||| (s.littleEndian (reg + 1) n <<< 8)

/-- An aligned access: 1, 2 or 4 bytes at a multiple of the size, inside the 256 bytes. -/
def Aligned (reg size : Nat) : Prop :=
  (size = 1 ∨ size = 2 ∨ size = 4) ∧ reg % size = 0 ∧ reg + size ≤ 256

instance (reg size : Nat) : Decidable (Aligned reg size) :=
  inferInstanceAs (Decidable (_ ∧ _ ∧ _))

theorem data16_eq_littleEndian (s : ConfigSpace) (k : Nat) :
    (s.data16 k).setWidth 32 = s.littleEndian (2 * k) 2 := by
  apply BitVec.eq_of_getLsbD_eq; intro ⟨i, hi⟩
  simp only [data16, littleEndian, BitVec.getLsbD_append, BitVec.getLsbD_or,
    BitVec.getLsbD_shiftLeft, BitVec.getLsbD_setWidth, cond_eq_if, decide_eq_true_eq]
  by_cases b0 : i < 8
  · simp (disch := omega) [b0, hi, BitVec.getLsbD_ge]
  · simp (disch := omega) [b0, show i - 8 < 32 by omega, BitVec.getLsbD_ge]

theorem data32_eq_littleEndian (s : ConfigSpace) (k : Nat) :
    s.data32 k = s.littleEndian (4 * k) 4 := by
  apply BitVec.eq_of_getLsbD_eq; intro ⟨i, hi⟩
  simp only [data32, littleEndian, BitVec.getLsbD_append, BitVec.getLsbD_or,
    BitVec.getLsbD_shiftLeft, BitVec.getLsbD_setWidth, cond_eq_if, decide_eq_true_eq, Nat.add_assoc]
  have inside : i - 8 < 32 ∧ i - 8 - 8 < 32 ∧ i - 8 - 8 - 8 < 32 := by omega
  by_cases b0 : i < 8
  · simp (disch := omega) [b0, hi, BitVec.getLsbD_ge]
  by_cases b1 : i - 8 < 8
  · simp (disch := omega) [b0, b1, hi, inside, BitVec.getLsbD_ge]
  by_cases b2 : i - 8 - 8 < 8
  · simp (disch := omega) [b0, b1, b2, hi, inside, BitVec.getLsbD_ge]
  · simp (disch := omega) [b0, b1, b2, hi, inside, BitVec.getLsbD_ge]

theorem pciRead_aligned (d : Driver) (aligned : Aligned reg size) :
    d.pciRead reg size = .ok (d.space.littleEndian reg size) := by
  obtain ⟨sized, multiple, inside⟩ := aligned
  unfold Driver.pciRead
  rw [if_pos (by omega)]
  rcases sized with rfl | rfl | rfl
  · simp [littleEndian]
  · rw [data16_eq_littleEndian, show 2 * (reg / 2) = reg by omega]
  · rw [data32_eq_littleEndian, show 4 * (reg / 4) = reg by omega]

theorem store_ok (s : ConfigSpace) (reg : Nat) (value : BitVec 32)
    (sized : size = 1 ∨ size = 2 ∨ size = 4) : ∃ s', s.store reg value size = .ok s' := by
  rcases sized with rfl | rfl | rfl <;> exact ⟨_, rfl⟩

theorem pciWrite_ok_of_size (d : Driver) (value : BitVec 32) (notBar : reg ∉ barOffsets)
    (sized : size = 1 ∨ size = 2 ∨ size = 4) : ∃ d', d.pciWrite reg value size = .ok d' := by
  obtain ⟨s', hs⟩ := store_ok d.space reg value sized
  unfold Driver.pciWrite Driver.pciUpdate
  split <;> simp [notBar, hs, Except.map]

/-- An aligned write away from the BARs stores `value` in every handled window, forces bit 0 of
PMBASE, changes no other byte, and leaves every aligned read little-endian. -/
theorem pciWrite_aligned (d : Driver) (value : BitVec 32) (aligned : Aligned reg size)
    (notBar : reg ∉ barOffsets) :
    ∃ d', d.pciWrite reg value size = .ok d' ∧
      (∀ j, (j < reg ∨ reg + size ≤ j) →
        d'.space.byte j = d.space.byte j ∨ (j = pmbase ∧ d'.space.byte j = d.space.byte j ||| 1)) ∧
      (∀ j < size, d'.space.byte (reg + j) =
        if window reg size = .unhandled then d.space.byte (reg + j)
        else if window reg size = .pmbase ∧ reg + j = pmbase then byteOf value j ||| 1
        else byteOf value j) ∧
      ∀ reg' size', Aligned reg' size' →
        d'.pciRead reg' size' = .ok (d'.space.littleEndian reg' size') := by
  obtain ⟨d', h⟩ := pciWrite_ok_of_size d value notBar aligned.1
  have base : reg / size * size = reg := Nat.div_mul_cancel (Nat.dvd_of_mod_eq_zero aligned.2.1)
  refine ⟨d', h, fun j outside => ?_, fun j inside => ?_, fun _ _ => pciRead_aligned d'⟩
  · rw [byte_pciWrite notBar h, base]
    split_ifs <;> first | (exfalso; omega) | simp_all
  · rw [byte_pciWrite notBar h, base, Nat.add_sub_cancel_left]
    split_ifs <;> first | (exfalso; omega) | simp_all


theorem pciWrite_aligned_pirqA :
    Aligned 0x60 4 ∧ 0x60 ∉ barOffsets ∧
      ∃ d', (Driver.new ⟨⟨fun _ => 0⟩, false, 0, 0, false, 0, []⟩).pciWrite 0x60 0x0B0A0B0A 4 = .ok d' ∧
        (∀ j, (j < 0x60 ∨ 0x60 + 4 ≤ j) →
          d'.space.byte j = (Driver.new ⟨⟨fun _ => 0⟩, false, 0, 0, false, 0, []⟩).space.byte j ∨
            (j = pmbase ∧ d'.space.byte j =
              (Driver.new ⟨⟨fun _ => 0⟩, false, 0, 0, false, 0, []⟩).space.byte j ||| 1)) ∧
        (∀ j < 4, d'.space.byte (0x60 + j) =
          if window 0x60 4 = .unhandled then
            (Driver.new ⟨⟨fun _ => 0⟩, false, 0, 0, false, 0, []⟩).space.byte (0x60 + j)
          else if window 0x60 4 = .pmbase ∧ 0x60 + j = pmbase then byteOf 0x0B0A0B0A j ||| 1
          else byteOf 0x0B0A0B0A j) ∧
        ∀ reg' size', Aligned reg' size' →
          d'.pciRead reg' size' = .ok (d'.space.littleEndian reg' size') :=
  ⟨by decide, by decide, pciWrite_aligned _ _ (by decide) (by decide)⟩

theorem byte_pciWrite_of_outside (notBar : reg ∉ barOffsets) (h : d.pciWrite reg value size = .ok d')
    {j : Nat} (notPmbase : window reg size ≠ .pmbase)
    (outside : j < (window reg size).region.1 ∨ (window reg size).region.2 ≤ j) :
    d'.space.byte j = d.space.byte j := by
  rw [byte_pciWrite notBar h]
  rcases pciWrite_ok notBar h with ⟨hw, -⟩ | ⟨hw, space, hs, -⟩
  · simp [hw]
  · have := store_region rfl hw (store_size hs)
    simp only [hw, notPmbase, false_and, if_false]
    rw [if_neg (by omega)]

/-! ## The ACPI PM block over runs -/

/-- Bit 0 of PMBASE, hardwired to 1 to mark I/O space. -/
def PmbaseBit (d : Driver) : Prop := (d.space.byte pmbase).getLsbD 0 = true

/-- `acpi_pmbase` is PMBASE without bit 0, in 16 bits. -/
def PmbaseMirrored (d : Driver) : Prop :=
  d.acpiPmbase = (d.space.data32 (pmbase / 4) &&& ~~~1).setWidth 16

/-- The most recent `acpi_dev->update` call carries the enable bit of ACPI_CNTL and the
`acpi_pmbase` of the state. -/
def AcpiAgrees (d : Driver) : Prop :=
  ∀ u ∈ d.acpiUpdates.head?, u = ((d.space.byte acpiCntl >>> 7) &&& 1 != 0, d.acpiPmbase)

theorem pmbaseBit_pciWrite (notBar : reg ∉ barOffsets) (h : d.pciWrite reg value size = .ok d')
    (bit : PmbaseBit d) : PmbaseBit d' := by
  by_cases isPmbase : window reg size = .pmbase
  · simp [PmbaseBit, byte_pciWrite notBar h, isPmbase]
  · unfold PmbaseBit
    rw [byte_pciWrite_of_outside notBar h isPmbase (by cases hw : window reg size <;> simp_all [Window.region, pmbase])]
    exact bit

theorem data32_pciWrite_of_outside (notBar : reg ∉ barOffsets)
    (h : d.pciWrite reg value size = .ok d') (notPmbase : window reg size ≠ .pmbase) :
    d'.space.data32 (pmbase / 4) = d.space.data32 (pmbase / 4) := by
  have away : ∀ j < 4, d'.space.byte (pmbase + j) = d.space.byte (pmbase + j) := fun j small =>
    byte_pciWrite_of_outside notBar h notPmbase
      (by cases hw : window reg size <;> simp_all [Window.region, pmbase] <;> omega)
  simp only [data32, pmbase] at away ⊢
  rw [away 0 (by decide), away 1 (by decide), away 2 (by decide), away 3 (by decide)]

theorem pmbaseMirrored_pciWrite (notBar : reg ∉ barOffsets)
    (h : d.pciWrite reg value size = .ok d') (mirrored : PmbaseMirrored d) : PmbaseMirrored d' := by
  rcases pciWrite_ok notBar h with ⟨-, rfl⟩ | ⟨-, space, -, rfl⟩
  · exact mirrored
  · by_cases isPmbase : window reg size = .pmbase
    · rw [isPmbase]; rfl
    · unfold PmbaseMirrored
      rw [acpiPmbase_windowUpdate isPmbase, data32_pciWrite_of_outside notBar h isPmbase]
      exact mirrored


theorem acpiAgrees_of_acpiCntl (notBar : reg ∉ barOffsets) (h : d.pciWrite reg value size = .ok d')
    (isAcpi : window reg size = .acpiCntl) : AcpiAgrees d' := by
  rcases pciWrite_ok notBar h with ⟨hw, -⟩ | ⟨-, space, -, rfl⟩
  · simp [hw] at isAcpi
  · rw [isAcpi]
    simp [AcpiAgrees, windowUpdate, Driver.acpiCntlUpdate]

theorem acpiAgrees_pciWrite (notBar : reg ∉ barOffsets) (h : d.pciWrite reg value size = .ok d')
    (notPmbase : window reg size ≠ .pmbase) (agrees : AcpiAgrees d) : AcpiAgrees d' := by
  by_cases isAcpi : window reg size = .acpiCntl
  · exact acpiAgrees_of_acpiCntl notBar h isAcpi
  have cntl : d'.space.byte acpiCntl = d.space.byte acpiCntl :=
    byte_pciWrite_of_outside notBar h notPmbase
      (by cases hw : window reg size <;> simp_all [Window.region, acpiCntl])
  rcases pciWrite_ok notBar h with ⟨-, rfl⟩ | ⟨-, space, -, rfl⟩
  · exact agrees
  · unfold AcpiAgrees at agrees ⊢
    rw [acpiUpdates_windowUpdate isAcpi, acpiPmbase_windowUpdate notPmbase, cntl]
    exact agrees

theorem run_split {d d' : Driver} {ws₁ ws₂ : List PciWrite} {w : PciWrite} :
    d.run (ws₁ ++ w :: ws₂) = .ok d' →
      ∃ d₁ d₂, d.run ws₁ = .ok d₁ ∧ d₁.pciWrite w.reg w.value w.size = .ok d₂ ∧
        d₂.run ws₂ = .ok d' := by
  induction ws₁ generalizing d with
  | nil =>
    intro h
    simp only [List.nil_append, Driver.run] at h
    cases hw : d.pciWrite w.reg w.value w.size <;> simp only [hw, Except.bind, reduceCtorEq] at h
    exact ⟨d, _, rfl, hw, h⟩
  | cons v ws ih =>
    intro h
    simp only [List.cons_append, Driver.run] at h
    cases hv : d.pciWrite v.reg v.value v.size <;> simp only [hv, Except.bind, reduceCtorEq] at h
    obtain ⟨d₁, d₂, h₁, h₂, h₃⟩ := ih h
    exact ⟨d₁, d₂, by simp [Driver.run, hv, Except.bind, h₁], h₂, h₃⟩

/-- A property every allowed write keeps holds after every run of allowed writes. -/
theorem run_preserves {allowed : PciWrite → Prop} {P : Driver → Prop}
    (step : ∀ d d' w, allowed w → d.pciWrite w.reg w.value w.size = .ok d' → P d → P d') :
    ∀ (ws : List PciWrite) (d d' : Driver), (∀ w ∈ ws, allowed w) → d.run ws = .ok d' → P d → P d'
  | [], d, d', _, h, hold => by cases h; exact hold
  | w :: ws, d, d', all, h, hold => by
    simp only [Driver.run] at h
    cases hw : d.pciWrite w.reg w.value w.size <;> simp only [hw, Except.bind, reduceCtorEq] at h
    exact run_preserves step ws _ d' (fun w' m => all w' (List.mem_cons_of_mem w m)) h
      (step d _ w (all w (List.mem_cons_self ..)) hw hold)

theorem pmbaseBit_new (raw : Driver) : PmbaseBit (Driver.new raw) := by
  simp [PmbaseBit, Driver.new, byte_setData8, byte_setData16, byte_setData32, pmbase, capBase,
    acpiCntl, pirqABase, pirqBBase, rootComplexBase, byteOf]


/-- The frame and store law fail for a write of 0 to BAR0, which changes byte 0x40, and for the
unhandled register 0x80. -/
theorem pciWrite_breaks_frame :
    (∃ d, (Driver.new ⟨⟨fun _ => 0⟩, false, 0, 0, false, 0, []⟩).pciWrite 0x10 0 4 = .ok d ∧
      d.space.byte 0x40 ≠ (Driver.new ⟨⟨fun _ => 0⟩, false, 0, 0, false, 0, []⟩).space.byte 0x40) ∧
      ∃ d, (Driver.new ⟨⟨fun _ => 0⟩, false, 0, 0, false, 0, []⟩).pciWrite 0x80 0x12 1 = .ok d ∧
        d.space.byte 0x80 ≠ byteOf 0x12 0 :=
  ⟨⟨_, rfl, by decide⟩, ⟨_, rfl, by decide⟩⟩

end LunaVmm.Lpc
