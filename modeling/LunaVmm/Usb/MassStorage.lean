import LunaVmm.Usb.Device

/-! The USB mass-storage driver (`usb_msd.cpp`) and Bulk-Only Transport. The host controller
and the device are one oracle, `Bus`, answering each bulk transfer from those before it. -/

namespace LunaVmm.Usb.Msd

def bulkIn1 : Endpoint := (bulkEndpoint 0x81).record
def bulkOut2 : Endpoint := (bulkEndpoint 0x02).record
def bulkOut1 : Endpoint := (bulkEndpoint 0x01).record

def cbwSig : BitVec 32 := 0x43425355
def cswSig : BitVec 32 := 0x53425355
def cbwDirOut : BitVec 8 := 0
def cbwDirIn : BitVec 8 := 1 <<< 7

/-! ## Packed words -/

def le32 (v : BitVec 32) : List (BitVec 8) :=
  [v.extractLsb' 0 8, v.extractLsb' 8 8, v.extractLsb' 16 8, v.extractLsb' 24 8]

def ofLe32 (bs : List (BitVec 8)) : BitVec 32 := bs.getD 3 0 ++ bs.getD 2 0 ++ bs.getD 1 0 ++ bs.getD 0 0

@[simp] theorem length_le32 (v : BitVec 32) : (le32 v).length = 4 := rfl

@[simp] theorem ofLe32_le32 (v : BitVec 32) : ofLe32 (le32 v) = v := by
  apply BitVec.eq_of_getLsbD_eq
  intro ⟨i, hi⟩
  simp only [ofLe32, le32, List.getD_cons_succ, List.getD_cons_zero, BitVec.getLsbD_append,
    BitVec.getLsbD_extractLsb', cond_eq_if, decide_eq_true_eq]
  split_ifs <;> simp (disch := omega) [decide_eq_true, Nat.add_sub_cancel', Nat.sub_sub]

/-! ## The wrappers -/

/-- `CBW`, as packed: `sig`, `tag`, `len`, `flags`, `lun`, `cmd_len` and `scsi_cmd[16]`. -/
structure CBW where
  sig : BitVec 32
  tag : BitVec 32
  len : BitVec 32
  flags : BitVec 8
  lun : BitVec 8
  cmdLen : BitVec 8
  scsiCmd : Fin 16 → BitVec 8

/-- `cbw.span()`: the 31 bytes of the packed struct. -/
def CBW.span (c : CBW) : List (BitVec 8) :=
  le32 c.sig ++ le32 c.tag ++ le32 c.len ++ [c.flags, c.lun, c.cmdLen] ++ List.ofFn c.scsiCmd

@[simp] theorem CBW.length_span (c : CBW) : c.span.length = 31 := by
  simp [CBW.span]

def CBW.ofSpan (bs : List (BitVec 8)) : CBW :=
  ⟨ofLe32 bs, ofLe32 (bs.drop 4), ofLe32 (bs.drop 8), bs.getD 12 0, bs.getD 13 0, bs.getD 14 0,
    fun i => bs.getD (i.val + 15) 0⟩

@[simp] theorem CBW.ofSpan_span (c : CBW) : CBW.ofSpan c.span = c := by
  have sig : ofLe32 c.span = ofLe32 (le32 c.sig) := rfl
  have tag : ofLe32 (c.span.drop 4) = ofLe32 (le32 c.tag) := rfl
  have len : ofLe32 (c.span.drop 8) = ofLe32 (le32 c.len) := rfl
  have flags : c.span.getD 12 0 = c.flags := rfl
  have lun : c.span.getD 13 0 = c.lun := rfl
  have cmdLen : c.span.getD 14 0 = c.cmdLen := rfl
  have cmd (i : Fin 16) : c.span.getD (i.val + 15) 0 = c.scsiCmd i := by
    have bound : i.val < (List.ofFn c.scsiCmd).length := by simp
    rw [CBW.span, List.getD_eq_getElem?_getD, List.getElem?_append_right (by simp)]
    simp only [List.length_append, length_le32, List.length_cons, List.length_nil, Nat.add_sub_cancel,
      List.getElem?_eq_getElem bound, List.getElem_ofFn, Option.getD_some]
  simp only [CBW.ofSpan, sig, tag, len, flags, lun, cmdLen, cmd, ofLe32_le32]

structure CSW where
  sig : BitVec 32
  tag : BitVec 32
  residue : BitVec 32
  status : BitVec 8

def CSW.span (c : CSW) : List (BitVec 8) := le32 c.sig ++ le32 c.tag ++ le32 c.residue ++ [c.status]

@[simp] theorem CSW.length_span (c : CSW) : c.span.length = 13 := by
  simp [CSW.span]

/-- The `CSW` that `csw.span()` holds after the transfer. -/
def CSW.ofSpan (bs : List (BitVec 8)) : CSW :=
  ⟨ofLe32 bs, ofLe32 (bs.drop 4), ofLe32 (bs.drop 8), bs.getD 12 0⟩

@[simp] theorem CSW.ofSpan_span (c : CSW) : CSW.ofSpan c.span = c := by
  have sig : ofLe32 c.span = ofLe32 (le32 c.sig) := rfl
  have tag : ofLe32 (c.span.drop 4) = ofLe32 (le32 c.tag) := rfl
  have residue : ofLe32 (c.span.drop 8) = ofLe32 (le32 c.residue) := rfl
  have status : c.span.getD 12 0 = c.status := rfl
  simp only [CSW.ofSpan, sig, tag, residue, status, ofLe32_le32]

/-- What the SCSI layer hands `scsi_cmd` (`scsi.hpp` is not under src/): the direction, the packet
and the buffer. -/
structure Command where
  write : Bool
  packet : List (BitVec 8)
  xfer : List (BitVec 8)

def inquiry : Command := ⟨false, [0x12, 0, 0, 0, 36, 0], List.replicate 36 0⟩

/-- The CBW `scsi_cmd` fills for `tag`: `memset` zeroes `scsi_cmd`, then `memcpy` copies the packet
over its start. -/
def CBW.ofCommand (tag : BitVec 32) (cmd : Command) : CBW :=
  ⟨cbwSig, tag, BitVec.ofNat 32 cmd.xfer.length, if cmd.write then cbwDirOut else cbwDirIn, 0,
    BitVec.ofNat 8 cmd.packet.length, fun i => cmd.packet.getD i 0⟩

/-- The CBW of `scsi_cmd`, whose `memcpy` writes past the wrapper for a packet longer than 16 bytes.
-/
def cbwOf (tag : BitVec 32) (cmd : Command) : Except Fault CBW :=
  if cmd.packet.length ≤ 16 then .ok (CBW.ofCommand tag cmd) else .error (.outOfBounds 31)

def goodCswBus : Bus := fun _ _ => some (CSW.span ⟨cswSig, 0, 0, 0⟩)

/-! ## The driver -/

/-- The driver's `Device`: the endpoint contexts `out` and `in`, and the next `tag`. -/
structure Device where
  out : Endpoint
  inEp : Endpoint
  tag : BitVec 32

/-- The `scsi_cmd` lambda: CBW on `out`, data on `out` or `in` by direction, CSW from `in`, whose
signature alone is asserted. -/
def scsiCmd (bus : Bus) (dev : Device) (log : List Transfer) (cmd : Command) :
    Except Fault (Device × List Transfer × List (BitVec 8)) := do
  let cbw ← cbwOf dev.tag cmd
  let dev := { dev with tag := dev.tag + 1 }
  let (log, _) ← xfer bus log dev.out cbw.span
  let (log, data) ← xfer bus log (if cmd.write then dev.out else dev.inEp) cmd.xfer
  let (log, csw) ← xfer bus log dev.inEp (List.replicate 13 0)
  if (CSW.ofSpan csw).sig = cswSig then pure (dev, log, data)
  else throw (.panic "csw.sig == csw_sig")

/-- The three transfers `scsi_cmd` makes for `cmd` under `tag`, with the spans as it passes them. -/
def frames (out inEp : Endpoint) (tag : BitVec 32) (cmd : Command) : List Transfer :=
  [⟨out.dci, (CBW.ofCommand tag cmd).span⟩, ⟨(if cmd.write then out else inEp).dci, cmd.xfer⟩,
    ⟨inEp.dci, List.replicate 13 0⟩]

theorem scsiCmd_eq_ok {bus : Bus} {dev : Device} {log : List Transfer} {cmd : Command}
    {r : Device × List Transfer × List (BitVec 8)} :
    scsiCmd bus dev log cmd = .ok r ↔
      cmd.packet.length ≤ 16 ∧ ∃ g₁ g₂ g₃,
        answers bus log (frames dev.out dev.inEp dev.tag cmd) = some [g₁, g₂, g₃] ∧
        (CSW.ofSpan (received dev.inEp (List.replicate 13 0) g₃)).sig = cswSig ∧
        r = ({ dev with tag := dev.tag + 1 }, log ++ frames dev.out dev.inEp dev.tag cmd,
          received (if cmd.write then dev.out else dev.inEp) cmd.xfer g₂) := by
  simp only [scsiCmd, cbwOf, bind_eq_ok, xfer_eq_ok]
  by_cases room : cmd.packet.length ≤ 16
  · simp only [room, if_true, Except.ok.injEq, exists_eq_left', frames, answers_cons_eq_some,
      answers_nil_eq_some, true_and, and_true, ite_throw_eq_ok]
    constructor
    · rintro ⟨_, ⟨g₁, h₁, rfl⟩, _, ⟨g₂, h₂, rfl⟩, _, ⟨g₃, h₃, rfl⟩, sig, rfl⟩
      exact ⟨g₁, g₂, g₃, ⟨h₁, h₂, h₃⟩, sig, by simp⟩
    · rintro ⟨g₁, g₂, g₃, ⟨h₁, h₂, h₃⟩, sig, rfl⟩
      exact ⟨_, ⟨g₁, h₁, rfl⟩, _, ⟨g₂, h₂, rfl⟩, _, ⟨g₃, h₃, rfl⟩, sig, by simp⟩
  · simp only [room, if_false, reduceCtorEq, false_and, exists_false, iff_self]

/-- The CSW's tag, residue and status never decide the outcome: any CSW carrying `csw_sig` completes
the command, a failed one or a phase error included. -/
theorem scsiCmd_csw_ignored {bus : Bus} {dev : Device} {log : List Transfer} {cmd : Command}
    {g₁ g₂ : List (BitVec 8)} (csw : CSW) (room : cmd.packet.length ≤ 16) (inDir : dev.inEp.dir = true)
    (sig : csw.sig = cswSig)
    (answered : answers bus log (frames dev.out dev.inEp dev.tag cmd) = some [g₁, g₂, csw.span]) :
    scsiCmd bus dev log cmd =
      .ok ({ dev with tag := dev.tag + 1 }, log ++ frames dev.out dev.inEp dev.tag cmd,
        received (if cmd.write then dev.out else dev.inEp) cmd.xfer g₂) :=
  scsiCmd_eq_ok.mpr ⟨room, g₁, g₂, csw.span, answered,
    by rw [received_in inDir (by simp), CSW.ofSpan_span, sig], rfl⟩

/-- INQUIRY answered with status 1 (failed), tag 7 and residue 36 still completes. -/
theorem scsiCmd_csw_ignored_failed :
    inquiry.packet.length ≤ 16 ∧ bulkIn1.dir = true ∧
      (CSW.mk cswSig 7 36 1).sig = cswSig ∧
      answers (fun _ _ => some (CSW.mk cswSig 7 36 1).span) []
          (frames bulkOut2 bulkIn1 1 inquiry) =
        some [(CSW.mk cswSig 7 36 1).span, (CSW.mk cswSig 7 36 1).span, (CSW.mk cswSig 7 36 1).span] ∧
      scsiCmd (fun _ _ => some (CSW.mk cswSig 7 36 1).span)
          ⟨bulkOut2, bulkIn1, 1⟩ [] inquiry =
        .ok (⟨bulkOut2, bulkIn1, 1 + 1⟩,
          [] ++ frames bulkOut2 bulkIn1 1 inquiry,
          received (if inquiry.write then bulkOut2 else bulkIn1)
            inquiry.xfer (CSW.mk cswSig 7 36 1).span) := by
  have room : inquiry.packet.length ≤ 16 := by decide
  have inDir : bulkIn1.dir = true := rfl
  have answered : answers (fun _ _ => some (CSW.mk cswSig 7 36 1).span) []
      (frames bulkOut2 bulkIn1 1 inquiry) =
      some [(CSW.mk cswSig 7 36 1).span, (CSW.mk cswSig 7 36 1).span, (CSW.mk cswSig 7 36 1).span] := rfl
  exact ⟨room, inDir, rfl, answered, scsiCmd_csw_ignored (CSW.mk cswSig 7 36 1) room inDir rfl answered⟩

/-- With an OUT endpoint as its IN context `scsi_cmd` never completes: the CSW goes to the device,
`csw` keeps the zeroes of `CSW csw{}`, and the signature ASSERT fails. -/
theorem scsiCmd_out_as_in {bus : Bus} {dev : Device} {log : List Transfer} {cmd : Command}
    (outDir : dev.inEp.dir = false) : ∃ f, scsiCmd bus dev log cmd = .error f := by
  cases h : scsiCmd bus dev log cmd with
  | error f => exact ⟨f, rfl⟩
  | ok r =>
    obtain ⟨-, g₁, g₂, g₃, -, sig, -⟩ := scsiCmd_eq_ok.mp h
    rw [received_out outDir] at sig
    exact absurd sig (by decide)

theorem scsiCmd_out_as_in_ep1 :
    bulkOut1.dir = false ∧ ∃ f, scsiCmd goodCswBus ⟨bulkOut1, bulkOut1, 1⟩ [] inquiry = .error f :=
  ⟨rfl, scsiCmd_out_as_in rfl⟩

/-- The SCSI layer's calls of `scsi_cmd`, one after another. -/
def run (bus : Bus) : Device → List Transfer → List Command →
    Except Fault (Device × List Transfer × List (List (BitVec 8)))
  | dev, log, [] => .ok (dev, log, [])
  | dev, log, cmd :: cmds => do
    let (dev, log, data) ← scsiCmd bus dev log cmd
    let (dev, log, datas) ← run bus dev log cmds
    pure (dev, log, data :: datas)

def runFrames (out inEp : Endpoint) : BitVec 32 → List Command → List Transfer
  | _, [] => []
  | tag, cmd :: cmds => frames out inEp tag cmd ++ runFrames out inEp (tag + 1) cmds

/-- Over every run that completes: the contexts stay, the tag advances once per command, and the log
grows by each command's three transfers. -/
theorem run_eq_ok {bus : Bus} {cmds : List Command} :
    ∀ {dev log r}, run bus dev log cmds = .ok r →
      r.1 = { dev with tag := dev.tag + BitVec.ofNat 32 cmds.length } ∧
      r.2.1 = log ++ runFrames dev.out dev.inEp dev.tag cmds ∧
      r.2.2.map List.length = cmds.map (·.xfer.length) ∧
      ∀ cmd ∈ cmds, cmd.packet.length ≤ 16 := by
  induction cmds with
  | nil =>
    rintro dev log r ⟨⟩
    simp [runFrames]
  | cons cmd cmds ih =>
    intro dev log r h
    obtain ⟨⟨dev₁, log₁, data⟩, step, h⟩ := bind_eq_ok.mp h
    obtain ⟨⟨dev₂, log₂, datas⟩, rest, ⟨⟩⟩ := bind_eq_ok.mp h
    obtain ⟨room, g₁, g₂, g₃, -, -, same⟩ := scsiCmd_eq_ok.mp step
    simp only [Prod.mk.injEq] at same
    obtain ⟨rfl, rfl, rfl⟩ := same
    obtain ⟨rfl, rfl, lengths, rooms⟩ := ih rest
    refine ⟨?_, by simp [runFrames], by simp [lengths], List.forall_mem_cons.mpr ⟨room, rooms⟩⟩
    simp only [List.length_cons, BitVec.ofNat_add]
    congr 1
    ac_rfl

/-- `init` up to `scsi::register_device`: `find_ep` for bulk OUT and IN, `setup_ep` for IN then OUT,
`configure`, and `tag = 1`. -/
def init (hciSetupEp : Endpoint → Bool) (d : Usb.Device) :
    Except Fault (Usb.Device × Device × BitVec 8) := do
  let outN ← d.findEp false epTypeBulk
  let inN ← d.findEp true epTypeBulk
  let (d, inEp) ← d.setupEp hciSetupEp inN
  let (d, out) ← d.setupEp hciSetupEp outN
  let value ← d.configure
  pure (d, ⟨out, inEp, 1⟩, value)

theorem init_eq_ok {hciSetupEp : Endpoint → Bool} {d : Usb.Device} {r : Usb.Device × Device × BitVec 8}
    (h : init hciSetupEp d = .ok r) :
    ∃ i o ie, d.interface = .ok i ∧
      i.eps.find? (fun ep => ep.dir == false && ep.epType == epTypeBulk) = some o ∧
      i.eps.find? (fun ep => ep.dir == true && ep.epType == epTypeBulk) = some ie ∧
      i.eps.find? (fun ep => ep.epNum == o.epNum) = some r.2.1.out ∧
      i.eps.find? (fun ep => ep.epNum == ie.epNum) = some r.2.1.inEp ∧
      r.1 = { d with endpoints := d.endpoints ++ [r.2.1.inEp, r.2.1.out] } ∧
      d.configure = .ok r.2.2 ∧ r.2.1.tag = 1 := by
  obtain ⟨outN, outFound, h⟩ := bind_eq_ok.mp h
  obtain ⟨inN, inFound, h⟩ := bind_eq_ok.mp h
  obtain ⟨⟨d₁, inEp⟩, inSet, h⟩ := bind_eq_ok.mp h
  obtain ⟨⟨d₂, out⟩, outSet, h⟩ := bind_eq_ok.mp h
  obtain ⟨value, configured, ⟨⟩⟩ := bind_eq_ok.mp h
  obtain ⟨i, ie, hi, ieFirst, inFirst, -, first⟩ := Device.setupEp_findEp inFound inSet
  dsimp only at first ieFirst inFirst
  subst first
  obtain ⟨i', o, hi', oFirst, outFirst, -, second⟩ :=
    Device.setupEp_findEp (by simpa using outFound) outSet
  dsimp only at second oFirst outFirst
  subst second
  obtain rfl : i = i' := Except.ok.inj (hi.symm.trans (by simpa using hi'))
  exact ⟨i, o, ie, hi, oFirst, ieFirst, outFirst, inFirst, by simp, by simpa using configured, rfl⟩

theorem init_bulk_endpoints {hciSetupEp : Endpoint → Bool} {d : Usb.Device} {i : Interface}
    {r : Usb.Device × Device × BitVec 8} (hi : d.interface = .ok i)
    (distinct : (i.eps.map Endpoint.epNum).Nodup) (h : init hciSetupEp d = .ok r) :
    i.eps.find? (fun ep => ep.dir == false && ep.epType == epTypeBulk) = some r.2.1.out ∧
      i.eps.find? (fun ep => ep.dir == true && ep.epType == epTypeBulk) = some r.2.1.inEp := by
  obtain ⟨i', o, ie, hi', oFirst, ieFirst, outFirst, inFirst, -⟩ := init_eq_ok h
  obtain rfl : i' = i := Except.ok.inj (hi'.symm.trans hi)
  rw [Device.find?_epNum_of_nodup distinct (List.mem_of_find?_eq_some oFirst)] at outFirst
  rw [Device.find?_epNum_of_nodup distinct (List.mem_of_find?_eq_some ieFirst)] at inFirst
  exact ⟨oFirst.trans outFirst, ieFirst.trans inFirst⟩

theorem runFrames_one_endpoint (ep : Endpoint) (tag : BitVec 32) (cmds : List Command) :
    ∀ t ∈ runFrames ep ep tag cmds, t.dci = ep.dci := by
  induction cmds generalizing tag with
  | nil => simp [runFrames]
  | cons cmd cmds ih =>
    intro t mem
    rcases List.mem_append.mp mem with here | later
    · simp only [frames, ite_self, List.mem_cons, List.mem_singleton, List.not_mem_nil, or_false] at here
      rcases here with rfl | rfl | rfl <;> rfl
    · exact ih _ t later

/-- When the first bulk OUT and bulk IN endpoints share a number (EP1 OUT and EP1 IN), `init` uses
one endpoint as both contexts, for every transfer of every run. -/
theorem init_shared_number {hciSetupEp : Endpoint → Bool} {d : Usb.Device} {i : Interface}
    {o ie : Endpoint} {r : Usb.Device × Device × BitVec 8} (hi : d.interface = .ok i)
    (firstOut : i.eps.find? (fun ep => ep.dir == false && ep.epType == epTypeBulk) = some o)
    (firstIn : i.eps.find? (fun ep => ep.dir == true && ep.epType == epTypeBulk) = some ie)
    (same : o.epNum = ie.epNum) (h : init hciSetupEp d = .ok r) :
    i.eps.find? (fun ep => ep.epNum == o.epNum) = some r.2.1.out ∧ r.2.1.inEp = r.2.1.out ∧
      ∀ bus cmds s, run bus r.2.1 [] cmds = .ok s → ∀ t ∈ s.2.1, t.dci = r.2.1.out.dci := by
  obtain ⟨i', o', ie', hi', oFirst, ieFirst, outFirst, inFirst, -⟩ := init_eq_ok h
  obtain rfl : i' = i := Except.ok.inj (hi'.symm.trans hi)
  obtain rfl : o' = o := Option.some.inj (oFirst.symm.trans firstOut)
  obtain rfl : ie' = ie := Option.some.inj (ieFirst.symm.trans firstIn)
  have one : r.2.1.inEp = r.2.1.out := Option.some.inj (inFirst.symm.trans (same ▸ outFirst))
  refine ⟨outFirst, one, fun bus cmds s ran => ?_⟩
  obtain ⟨-, log, -⟩ := run_eq_ok ran
  rw [log, List.nil_append, one]
  exact runFrames_one_endpoint _ _ _

def sharedInterface : Interface := ⟨massStorageInterface.record.desc, [bulkOut1, bulkIn1]⟩

def sharedNumberDevice : Usb.Device :=
  ⟨oneConfigDescriptor, [⟨massStorage.record.desc, [sharedInterface]⟩], 0, 0, []⟩

theorem init_shared_number_ep1 :
    sharedNumberDevice.interface = .ok sharedInterface ∧
      sharedInterface.eps.find? (fun ep => ep.dir == false && ep.epType == epTypeBulk) = some bulkOut1 ∧
      sharedInterface.eps.find? (fun ep => ep.dir == true && ep.epType == epTypeBulk) = some bulkIn1 ∧
      bulkOut1.epNum = bulkIn1.epNum ∧
      init (fun _ => true) sharedNumberDevice =
        .ok ({ sharedNumberDevice with endpoints := [bulkOut1, bulkOut1] }, ⟨bulkOut1, bulkOut1, 1⟩, 1) ∧
      sharedInterface.eps.find? (fun ep => ep.epNum == bulkOut1.epNum) = some bulkOut1 ∧
      bulkOut1 = bulkOut1 ∧
      ∀ bus cmds s, run bus ⟨bulkOut1, bulkOut1, 1⟩ [] cmds = .ok s → ∀ t ∈ s.2.1, t.dci = bulkOut1.dci :=
  have hi : sharedNumberDevice.interface = .ok sharedInterface := rfl
  have firstOut : sharedInterface.eps.find? (fun ep => ep.dir == false && ep.epType == epTypeBulk) =
      some bulkOut1 := rfl
  have firstIn : sharedInterface.eps.find? (fun ep => ep.dir == true && ep.epType == epTypeBulk) =
      some bulkIn1 := rfl
  have h : init (fun _ => true) sharedNumberDevice =
      .ok ({ sharedNumberDevice with endpoints := [bulkOut1, bulkOut1] }, ⟨bulkOut1, bulkOut1, 1⟩, 1) := rfl
  ⟨hi, firstOut, firstIn, rfl, h, init_shared_number hi firstOut firstIn rfl h⟩

/-! ## Bulk-Only Transport -/

/-- A command as Bulk-Only Transport carries it: tag, data length and direction, LUN and command
block. -/
structure Transaction where
  tag : BitVec 32
  length : Nat
  dirIn : Bool
  lun : BitVec 8
  cb : List (BitVec 8)
  deriving DecidableEq

/-- How a device reads a CBW (Bulk-Only Transport 5.1). -/
def CBW.transaction (c : CBW) : Transaction :=
  ⟨c.tag, c.len.toNat, c.flags.getLsbD 7, c.lun &&& 0x0F,
    (List.ofFn c.scsiCmd).take (c.cmdLen &&& 0x1F).toNat⟩

def decodeCbw (bs : List (BitVec 8)) : Option Transaction :=
  if bs.length = 31 ∧ (CBW.ofSpan bs).sig = cbwSig then some (CBW.ofSpan bs).transaction else none

@[simp] theorem decodeCbw_span (c : CBW) :
    decodeCbw c.span = if c.sig = cbwSig then some c.transaction else none := by
  simp [decodeCbw]

private theorem toNat_cmdLen {n : Nat} (room : n ≤ 16) : (BitVec.ofNat 8 n &&& 0x1F).toNat = n := by
  have low : n &&& 2 ^ 5 - 1 = n := Nat.and_pow_two_sub_one_of_lt_two_pow (by omega)
  simp only [BitVec.toNat_and, BitVec.toNat_ofNat, Nat.mod_eq_of_lt (by omega : n < 2 ^ 8)]
  exact low

private theorem take_ofFn_getD (l : List (BitVec 8)) (room : l.length ≤ 16) :
    (List.ofFn fun i : Fin 16 => l.getD i 0).take l.length = l := by
  apply List.ext_getElem (by simp only [List.length_take, List.length_ofFn]; omega)
  intro k _ within
  simp only [List.getElem_take, List.getElem_ofFn, List.getD_eq_getElem?_getD,
    List.getElem?_eq_getElem within, Option.getD_some]

theorem transaction_ofCommand (tag : BitVec 32) (cmd : Command) (room : cmd.packet.length ≤ 16)
    (fits : cmd.xfer.length < 2 ^ 32) :
    (CBW.ofCommand tag cmd).transaction = ⟨tag, cmd.xfer.length, !cmd.write, 0, cmd.packet⟩ := by
  have direction : (if cmd.write then cbwDirOut else cbwDirIn).getLsbD 7 = !cmd.write := by
    cases cmd.write <;> rfl
  simp only [CBW.transaction, CBW.ofCommand, BitVec.toNat_ofNat, Nat.mod_eq_of_lt fits, direction,
    toNat_cmdLen room, take_ofFn_getD _ room]
  rfl

/-- The bulk transfers of a host speaking Bulk-Only Transport on `outDci` and `inDci`, read back as
the transactions they carry. -/
def conversation (outDci inDci : Nat) : List Transfer → Option (List Transaction)
  | [] => some []
  | cbw :: rest =>
    match decodeCbw cbw.span with
    | none => none
    | some t =>
      if cbw.dci ≠ outDci then none
      else if t.length = 0 then
        match rest with
        | csw :: rest =>
          if csw.dci = inDci ∧ csw.span.length = 13 then (conversation outDci inDci rest).map (t :: ·)
          else none
        | [] => none
      else
        match rest with
        | data :: csw :: rest =>
          if data.dci = (if t.dirIn then inDci else outDci) ∧ data.span.length = t.length ∧
              csw.dci = inDci ∧ csw.span.length = 13 then
            (conversation outDci inDci rest).map (t :: ·)
          else none
        | _ => none

def transactions : BitVec 32 → List Command → List Transaction
  | _, [] => []
  | tag, cmd :: cmds => ⟨tag, cmd.xfer.length, !cmd.write, 0, cmd.packet⟩ :: transactions (tag + 1) cmds

theorem conversation_frames (out inEp : Endpoint) (tag : BitVec 32) (cmd : Command)
    (rest : List Transfer) (room : cmd.packet.length ≤ 16) (fits : cmd.xfer.length < 2 ^ 32) :
    conversation out.dci inEp.dci (frames out inEp tag cmd ++ rest) =
      if cmd.xfer = [] then none
      else (conversation out.dci inEp.dci rest).map (⟨tag, cmd.xfer.length, !cmd.write, 0, cmd.packet⟩ :: ·) := by
  have sig : (CBW.ofCommand tag cmd).sig = cbwSig := rfl
  -- stated on the transfer, as `conversation` matches it, so that the kernel never unfolds it
  have head : decodeCbw (Transfer.mk out.dci (CBW.ofCommand tag cmd).span).span =
      some ⟨tag, cmd.xfer.length, !cmd.write, 0, cmd.packet⟩ := by
    rw [decodeCbw_span, if_pos sig, transaction_ofCommand _ _ room fits]
  have dataEp : (if cmd.write then out else inEp).dci = if !cmd.write then inEp.dci else out.dci := by
    cases cmd.write <;> rfl
  simp only [frames, List.cons_append, List.nil_append]
  rw [conversation, head]
  by_cases empty : cmd.xfer = []
  · simp [empty]
  · simp [empty, dataEp]

theorem conversation_runFrames (out inEp : Endpoint) (cmds : List Command)
    (room : ∀ cmd ∈ cmds, cmd.packet.length ≤ 16) (fits : ∀ cmd ∈ cmds, cmd.xfer.length < 2 ^ 32)
    (tag : BitVec 32) :
    conversation out.dci inEp.dci (runFrames out inEp tag cmds) =
      if ∀ cmd ∈ cmds, cmd.xfer ≠ [] then some (transactions tag cmds) else none := by
  induction cmds generalizing tag with
  | nil => simp [runFrames, conversation, transactions]
  | cons cmd cmds ih =>
    rw [runFrames, conversation_frames _ _ _ _ _ (room cmd (List.mem_cons_self _ _))
      (fits cmd (List.mem_cons_self _ _)),
      ih (fun c h => room c (List.mem_cons_of_mem _ h)) (fun c h => fits c (List.mem_cons_of_mem _ h))]
    by_cases empty : cmd.xfer = [] <;> simp [empty, transactions]

/-- From `init` on, on an interface whose endpoints have distinct numbers, every run reads back as
exactly its commands' Bulk-Only transactions, tagged from 1, unless a buffer is empty. -/
theorem init_run_conversation {hciSetupEp : Endpoint → Bool} {bus : Bus} {d : Usb.Device}
    {i : Interface} {cmds : List Command} {r : Usb.Device × Device × BitVec 8}
    {s : Device × List Transfer × List (List (BitVec 8))}
    (hi : d.interface = .ok i) (distinct : (i.eps.map Endpoint.epNum).Nodup)
    (h : init hciSetupEp d = .ok r) (ran : run bus r.2.1 [] cmds = .ok s)
    (fits : ∀ cmd ∈ cmds, cmd.xfer.length < 2 ^ 32) :
    (r.2.1.out.dir = false ∧ r.2.1.out.epType = epTypeBulk) ∧
      (r.2.1.inEp.dir = true ∧ r.2.1.inEp.epType = epTypeBulk) ∧
      conversation r.2.1.out.dci r.2.1.inEp.dci s.2.1 =
        if ∀ cmd ∈ cmds, cmd.xfer ≠ [] then some (transactions 1 cmds) else none := by
  obtain ⟨out, inEp⟩ := init_bulk_endpoints hi distinct h
  obtain ⟨-, -, -, -, -, -, -, -, -, -, tag⟩ := init_eq_ok h
  obtain ⟨-, log, -, room⟩ := run_eq_ok ran
  refine ⟨by simpa using List.find?_some out, by simpa using List.find?_some inEp, ?_⟩
  rw [log, List.nil_append, tag, conversation_runFrames _ _ _ room fits]

theorem init_run_conversation_inquiry :
    massStorageDevice.interface = .ok massStorageInterface.record ∧
      (massStorageInterface.record.eps.map Endpoint.epNum).Nodup ∧
      init (fun _ => true) massStorageDevice =
        .ok ({ massStorageDevice with endpoints := [bulkIn1, bulkOut2] }, ⟨bulkOut2, bulkIn1, 1⟩, 1) ∧
      run goodCswBus ⟨bulkOut2, bulkIn1, 1⟩ [] [inquiry] =
        .ok (⟨bulkOut2, bulkIn1, 2⟩, runFrames bulkOut2 bulkIn1 1 [inquiry],
          [received bulkIn1 inquiry.xfer (CSW.span ⟨cswSig, 0, 0, 0⟩)]) ∧
      (∀ cmd ∈ [inquiry], cmd.xfer.length < 2 ^ 32) ∧
      (bulkOut2.dir = false ∧ bulkOut2.epType = epTypeBulk) ∧
      (bulkIn1.dir = true ∧ bulkIn1.epType = epTypeBulk) ∧
      conversation bulkOut2.dci bulkIn1.dci (runFrames bulkOut2 bulkIn1 1 [inquiry]) =
        if ∀ cmd ∈ [inquiry], cmd.xfer ≠ [] then some (transactions 1 [inquiry]) else none := by
  have hi : massStorageDevice.interface = .ok massStorageInterface.record := rfl
  have distinct : (massStorageInterface.record.eps.map Endpoint.epNum).Nodup := by decide
  have h : init (fun _ => true) massStorageDevice =
      .ok ({ massStorageDevice with endpoints := [bulkIn1, bulkOut2] }, ⟨bulkOut2, bulkIn1, 1⟩, 1) := rfl
  have ran : run goodCswBus ⟨bulkOut2, bulkIn1, 1⟩ [] [inquiry] =
      .ok (⟨bulkOut2, bulkIn1, 2⟩, runFrames bulkOut2 bulkIn1 1 [inquiry],
        [received bulkIn1 inquiry.xfer (CSW.span ⟨cswSig, 0, 0, 0⟩)]) := rfl
  have fits : ∀ cmd ∈ [inquiry], cmd.xfer.length < 2 ^ 32 := by decide
  have conversed := init_run_conversation hi distinct h ran fits
  dsimp only at conversed
  exact ⟨hi, distinct, h, ran, fits, conversed⟩

end LunaVmm.Usb.Msd
