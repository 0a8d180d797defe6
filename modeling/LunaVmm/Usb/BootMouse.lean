import LunaVmm.Usb.Device

/-! The HID boot-protocol mouse driver (`boot_mouse.cpp`). Its loop awaits `xfer(data)`, which
`usb::Endpoint::xfer` does not return: a turn is modelled as one `xfer` that completes. -/

namespace LunaVmm.Usb.BootMouse

/-- `driver`: matched on class 3 (HID), subclass 1 (boot interface) and protocol 2 (mouse). -/
def driver : Driver :=
  ⟨"USB Boot Protocol Mouse Driver", true, ⟨false, true, true, true, false⟩, 0, 3, 1, 2, []⟩

/-- `init` up to `spawn`: `find_ep` for interrupt IN, `setup_ep` for it, `configure`; `set_idle`'s
answer is not read. -/
def init (hciSetupEp : Endpoint → Bool) (d : Usb.Device) : Except Fault (Usb.Device × Endpoint × BitVec 8) := do
  let inData ← d.findEp true epTypeIrq
  let (d, inEp) ← d.setupEp hciSetupEp inData
  let value ← d.configure
  pure (d, inEp, value)

theorem init_eq_ok {hciSetupEp : Endpoint → Bool} {d : Usb.Device} {r : Usb.Device × Endpoint × BitVec 8}
    (h : init hciSetupEp d = .ok r) :
    ∃ i ep, d.interface = .ok i ∧
      i.eps.find? (fun ep => ep.dir == true && ep.epType == epTypeIrq) = some ep ∧
      i.eps.find? (fun e => e.epNum == ep.epNum) = some r.2.1 ∧
      r.1 = { d with endpoints := d.endpoints ++ [r.2.1] } ∧ d.configure = .ok r.2.2 := by
  obtain ⟨inData, found, h⟩ := bind_eq_ok.mp h
  obtain ⟨⟨d₁, inEp⟩, set, h⟩ := bind_eq_ok.mp h
  obtain ⟨value, configured, ⟨⟩⟩ := bind_eq_ok.mp h
  obtain ⟨i, ep, hi, first, setUp, -, upd⟩ := Device.setupEp_findEp found set
  dsimp only at upd setUp
  subst upd
  exact ⟨i, ep, hi, first, setUp, rfl, by simpa using configured⟩

def motion (report : List (BitVec 8)) : Int × Int := ((report.getD 1 0).toInt, (report.getD 2 0).toInt)

/-- `n` turns of the spawned loop: a zeroed `BootReport` transferred on the IN context, then its
motion pushed. -/
def reports (bus : Bus) (inEp : Endpoint) : Nat → List Transfer →
    Except Fault (List Transfer × List (Int × Int))
  | 0, log => .ok (log, [])
  | n + 1, log => do
    let (log, report) ← xfer bus log inEp (List.replicate 3 0)
    let (log, events) ← reports bus inEp n log
    pure (log, motion report :: events)

/-- Every completed run of the loop: `n` identical 3-byte transfers, and per turn one event, that
report's motion alone; the buttons never reach the queue. -/
theorem reports_eq_ok {bus : Bus} {inEp : Endpoint} {n : Nat} :
    ∀ {log r}, reports bus inEp n log = .ok r →
      r.1 = log ++ List.replicate n ⟨inEp.dci, List.replicate 3 0⟩ ∧
      ∃ gs, answers bus log (List.replicate n ⟨inEp.dci, List.replicate 3 0⟩) = some gs ∧
        r.2 = gs.map fun got => motion (received inEp (List.replicate 3 0) got) := by
  induction n with
  | zero =>
    rintro log r ⟨⟩
    exact ⟨by simp, [], rfl, rfl⟩
  | succ n ih =>
    intro log r h
    obtain ⟨⟨log₁, report⟩, step, h⟩ := bind_eq_ok.mp h
    obtain ⟨⟨log₂, events⟩, later, ⟨⟩⟩ := bind_eq_ok.mp h
    obtain ⟨got, answered, same⟩ := xfer_eq_ok.mp step
    simp only [Prod.mk.injEq] at same
    obtain ⟨rfl, rfl⟩ := same
    obtain ⟨logs, gs, answeredLater, rfl⟩ := ih later
    have turn : List.replicate (n + 1) (Transfer.mk inEp.dci (List.replicate 3 0)) =
        ⟨inEp.dci, List.replicate 3 0⟩ :: List.replicate n ⟨inEp.dci, List.replicate 3 0⟩ := rfl
    rw [turn]
    exact ⟨by simpa using logs, got :: gs, answers_cons_eq_some.mpr ⟨answered, answeredLater⟩, rfl⟩

def mouseEndpoint : Endpoint := ⟨[7, 5, 0x81, 3, 4, 0, 10], none⟩

theorem reports_eq_ok_buttonHeld :
    reports (fun _ _ => some [1, 5, 0xFB]) mouseEndpoint 2 [] =
        .ok (List.replicate 2 (Transfer.mk mouseEndpoint.dci (List.replicate 3 0)), [(5, -5), (5, -5)]) ∧
      List.replicate 2 (Transfer.mk mouseEndpoint.dci (List.replicate 3 0)) =
        [] ++ List.replicate 2 (Transfer.mk mouseEndpoint.dci (List.replicate 3 0)) ∧
      ∃ gs, answers (fun _ _ => some [1, 5, 0xFB]) []
          (List.replicate 2 (Transfer.mk mouseEndpoint.dci (List.replicate 3 0))) = some gs ∧
        [(5, -5), (5, -5)] = gs.map fun got => motion (received mouseEndpoint (List.replicate 3 0) got) := by
  have ran : reports (fun _ _ => some [1, 5, 0xFB]) mouseEndpoint 2 [] =
      .ok (List.replicate 2 (Transfer.mk mouseEndpoint.dci (List.replicate 3 0)), [(5, -5), (5, -5)]) := rfl
  exact ⟨ran, reports_eq_ok ran⟩

end LunaVmm.Usb.BootMouse
