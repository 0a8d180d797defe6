import LunaVmm.Usb.Parse

/-! A `usb::Device` after `usb::register_device`, driver binding in `usb::init`, and endpoint
lookup and transfers (`usb.cpp`). Descriptor fields sit at the standard layout's offsets. -/

namespace LunaVmm.Usb

/-- Modelled from the standard layout: `usb::ep_type::bulk` and `usb::ep_type::irq`. -/
def epTypeBulk : BitVec 8 := 2
def epTypeIrq : BitVec 8 := 3

namespace Endpoint

def epNum (ep : Endpoint) : BitVec 8 := ep.desc.getD 2 0 &&& 0x0F

def dir (ep : Endpoint) : Bool := (ep.desc.getD 2 0).getLsbD 7

def epType (ep : Endpoint) : BitVec 8 := ep.desc.getD 3 0 &&& 3

/-- The endpoint `usb::Endpoint::xfer` names to `hci.ep_bulk_xfer`:
`(2 * data.desc.ep_num) + data.desc.dir`. -/
def dci (ep : Endpoint) : Nat := 2 * ep.epNum.toNat + ep.dir.toNat

theorem epNum_lt (ep : Endpoint) : ep.epNum.toNat < 16 := by
  rw [epNum, BitVec.toNat_and]
  exact Nat.lt_of_le_of_lt Nat.and_le_right (by decide)

theorem dci_mod_two (ep : Endpoint) : ep.dci % 2 = ep.dir.toNat := by
  have := Bool.toNat_le ep.dir
  simp only [dci]
  omega

theorem dci_inj {ep ep' : Endpoint} : ep.dci = ep'.dci ↔ ep.epNum = ep'.epNum ∧ ep.dir = ep'.dir := by
  constructor
  · intro same
    have parity : ep.dir.toNat = ep'.dir.toNat := by
      rw [← dci_mod_two, ← dci_mod_two, same]
    have direction : ep.dir = ep'.dir := by
      cases h : ep.dir <;> cases h' : ep'.dir <;> simp_all
    refine ⟨BitVec.eq_of_toNat_eq ?_, direction⟩
    simp only [dci, direction] at same
    omega
  · rintro ⟨number, direction⟩
    simp [dci, number, direction]

end Endpoint

/-! ## Transfers on an endpoint -/

/-- One `hci.ep_bulk_xfer` call: the endpoint it names and the span the driver passes. -/
structure Transfer where
  dci : Nat
  span : List (BitVec 8)
  deriving DecidableEq

/-- The host controller and the device: for each bulk transfer after the ones before it, none when
it fails, else the bytes an IN transfer receives. -/
def Bus := List Transfer → Transfer → Option (List (BitVec 8))

/-- A span after a transfer on `ep`: an IN transfer puts the device's bytes at its start, an OUT
transfer leaves it. -/
def received (ep : Endpoint) (span got : List (BitVec 8)) : List (BitVec 8) :=
  if ep.dir then (got ++ span.drop got.length).take span.length else span

@[simp] theorem length_received (ep : Endpoint) (span got : List (BitVec 8)) :
    (received ep span got).length = span.length := by
  unfold received
  split <;> simp only [List.length_take, List.length_append, List.length_drop]
  omega

/-- `usb::Endpoint::xfer` on the context of `ep`, whose `ASSERT` fails when the transfer does not
complete. -/
def xfer (bus : Bus) (log : List Transfer) (ep : Endpoint) (span : List (BitVec 8)) :
    Except Fault (List Transfer × List (BitVec 8)) :=
  match bus log ⟨ep.dci, span⟩ with
  | none => .error (.panic
      "device->hci.ep_bulk_xfer(device->hci.userptr, (2 * data.desc.ep_num) + data.desc.dir, xfer)")
  | some got => .ok (log ++ [⟨ep.dci, span⟩], received ep span got)

theorem received_out {ep : Endpoint} {span got : List (BitVec 8)} (outDir : ep.dir = false) :
    received ep span got = span := by
  simp [received, outDir]

theorem received_in {ep : Endpoint} {span got : List (BitVec 8)} (inDir : ep.dir = true)
    (full : got.length = span.length) : received ep span got = got := by
  simp [received, inDir, ← full]

theorem xfer_eq_ok {bus : Bus} {log : List Transfer} {ep : Endpoint} {span : List (BitVec 8)}
    {r : List Transfer × List (BitVec 8)} :
    xfer bus log ep span = .ok r ↔
      ∃ got, bus log ⟨ep.dci, span⟩ = some got ∧ r = (log ++ [⟨ep.dci, span⟩], received ep span got) := by
  cases answer : bus log ⟨ep.dci, span⟩ <;> simp [xfer, answer, eq_comm]

def answers (bus : Bus) (log : List Transfer) : List Transfer → Option (List (List (BitVec 8)))
  | [] => some []
  | t :: ts => do
    let got ← bus log t
    let rest ← answers bus (log ++ [t]) ts
    pure (got :: rest)

@[simp] theorem answers_nil_eq_some {bus : Bus} {log : List Transfer} {gs : List (List (BitVec 8))} :
    answers bus log [] = some gs ↔ gs = [] := by
  simp [answers, eq_comm]

@[simp] theorem answers_cons_eq_some {bus : Bus} {log : List Transfer} {t : Transfer}
    {ts : List Transfer} {g : List (BitVec 8)} {gs : List (List (BitVec 8))} :
    answers bus log (t :: ts) = some (g :: gs) ↔
      bus log t = some g ∧ answers bus (log ++ [t]) ts = some gs := by
  simp [answers, Option.bind_eq_some]

def Interface.codes (interface : Interface) : BitVec 8 × BitVec 8 × BitVec 8 :=
  (interface.desc.getD 5 0, interface.desc.getD 6 0, interface.desc.getD 7 0)

def Config.configVal (config : Config) : BitVec 8 := config.desc.getD 5 0

def field16 (desc : List (BitVec 8)) (off : Nat) : BitVec 16 := desc.getD (off + 1) 0 ++ desc.getD off 0

/-- The `usb::Device` fields the driver side reads. -/
structure Device where
  descriptor : List (BitVec 8)
  configs : List Config
  currConfig : Nat
  currInterface : Nat
  endpoints : List Endpoint

namespace Device

def interface (d : Device) : Except Fault Interface :=
  match d.configs.get? d.currConfig with
  | none => .error (.outOfBounds d.currConfig)
  | some config =>
    match config.interfaces.get? d.currInterface with
    | none => .error (.outOfBounds d.currInterface)
    | some interface => .ok interface

/-- `usb::Device::find_ep`: the number of the first endpoint with that direction and type, or `-1`
as a `uint8_t`. -/
def findEp (d : Device) (dirIn : Bool) (type : BitVec 8) : Except Fault (BitVec 8) :=
  d.interface.map fun interface =>
    match interface.eps.find? fun ep => ep.dir == dirIn && ep.epType == type with
    | some ep => ep.epNum
    | none => 0xFF

/-- `usb::Device::setup_ep`: the first endpoint with that number is set up (`hciSetupEp` answers for
`hci.setup_ep`) and appended to `endpoints`. -/
def setupEp (hciSetupEp : Endpoint → Bool) (d : Device) (epNum : BitVec 8) :
    Except Fault (Device × Endpoint) := do
  let interface ← d.interface
  match interface.eps.find? fun ep => ep.epNum == epNum with
  | some ep =>
    if hciSetupEp ep then pure ({ d with endpoints := d.endpoints ++ [ep] }, ep)
    else throw (.panic "hci.setup_ep(hci.userptr, ep)")
  | none => throw (.panic "Unable to setup EP")

/-- `usb::Device::configure`: the `config_val` that `set_configuration` sends. -/
def configure (d : Device) : Except Fault (BitVec 8) :=
  match d.configs.get? d.currConfig with
  | none => .error (.outOfBounds d.currConfig)
  | some config => .ok config.configVal

@[simp] theorem interface_endpoints (d : Device) (eps : List Endpoint) :
    { d with endpoints := eps }.interface = d.interface := rfl

@[simp] theorem configure_endpoints (d : Device) (eps : List Endpoint) :
    { d with endpoints := eps }.configure = d.configure := rfl

@[simp] theorem findEp_endpoints (d : Device) (eps : List Endpoint) :
    { d with endpoints := eps }.findEp = d.findEp := rfl

theorem findEp_eq_ok {d : Device} {dirIn : Bool} {type n : BitVec 8} :
    d.findEp dirIn type = .ok n ↔ ∃ i, d.interface = .ok i ∧
      ((i.eps.find? fun ep => ep.dir == dirIn && ep.epType == type).map Endpoint.epNum).getD 0xFF = n := by
  unfold findEp
  cases d.interface with
  | error f => simp [Except.map]
  | ok i =>
    simp only [Except.map, Except.ok.injEq, exists_eq_left']
    cases i.eps.find? fun ep => ep.dir == dirIn && ep.epType == type <;> rfl

theorem setupEp_eq_ok {hciSetupEp : Endpoint → Bool} {d : Device} {n : BitVec 8}
    {r : Device × Endpoint} :
    d.setupEp hciSetupEp n = .ok r ↔ ∃ i ep, d.interface = .ok i ∧
      i.eps.find? (fun ep => ep.epNum == n) = some ep ∧ hciSetupEp ep = true ∧
      r = ({ d with endpoints := d.endpoints ++ [ep] }, ep) := by
  simp only [setupEp, bind_eq_ok]
  refine exists_congr fun i => ?_
  cases found : i.eps.find? fun ep => ep.epNum == n
  · simp [found, throw, throwThe, MonadExceptOf.throw]
  · simp [found, ite_throw_eq_ok, @eq_comm _ r]

theorem find?_epNum_of_nodup {eps : List Endpoint} {ep : Endpoint}
    (distinct : (eps.map Endpoint.epNum).Nodup) (mem : ep ∈ eps) :
    eps.find? (fun e => e.epNum == ep.epNum) = some ep := by
  cases first : eps.find? fun e => e.epNum == ep.epNum with
  | none => exact absurd (List.find?_eq_none.mp first ep mem) (by simp)
  | some e =>
    have same : e.epNum = ep.epNum := by simpa using List.find?_some first
    rw [List.inj_on_of_nodup_map distinct (List.mem_of_find?_eq_some first) mem same]

/-- `setup_ep` of the number `find_ep` returned sets up the first endpoint with that number,
whatever its direction and type; `-1` never reaches it. -/
theorem setupEp_findEp {hciSetupEp : Endpoint → Bool} {d : Device} {dirIn : Bool} {type n : BitVec 8}
    {r : Device × Endpoint} (found : d.findEp dirIn type = .ok n) (set : d.setupEp hciSetupEp n = .ok r) :
    ∃ i o, d.interface = .ok i ∧
      i.eps.find? (fun ep => ep.dir == dirIn && ep.epType == type) = some o ∧
      i.eps.find? (fun ep => ep.epNum == o.epNum) = some r.2 ∧ hciSetupEp r.2 = true ∧
      r.1 = { d with endpoints := d.endpoints ++ [r.2] } := by
  obtain ⟨i, hi, rfl⟩ := findEp_eq_ok.mp found
  obtain ⟨i', ep, hi', first, ok, rfl⟩ := setupEp_eq_ok.mp set
  obtain rfl : i = i' := Except.ok.inj (hi.symm.trans hi')
  cases lookup : i.eps.find? fun ep => ep.dir == dirIn && ep.epType == type with
  | none =>
    simp only [lookup, Option.map_none', Option.getD_none] at first
    have num : ep.epNum = 0xFF := by simpa using List.find?_some first
    have low := Endpoint.epNum_lt ep
    rw [num] at low
    exact absurd low (by decide)
  | some o => exact ⟨i, o, hi, lookup, by simpa [lookup] using first, ok, rfl⟩

end Device

/-! ## Binding a driver -/

structure Match where
  version : Bool
  classCode : Bool
  subclassCode : Bool
  protocolCode : Bool
  vendorProduct : Bool
  deriving DecidableEq

/-- The fields of a `usb::Driver` that `usb::init` reads. -/
structure Driver where
  name : String
  hasInit : Bool
  matching : Match
  version : BitVec 16
  classCode : BitVec 8
  subclassCode : BitVec 8
  protocolCode : BitVec 8
  idList : List (BitVec 16 × BitVec 16)
  deriving DecidableEq

/-- The `continue` chain of `find`: a driver with no flag is skipped, and each flag it sets must
hold. `usb_version`, `vendor_id` and `product_id` sit at offsets 2, 8 and 10. -/
def Driver.accepts (driver : Driver) (descriptor : List (BitVec 8))
    (codes : BitVec 8 × BitVec 8 × BitVec 8) : Bool :=
  driver.matching != ⟨false, false, false, false, false⟩ &&
  !(driver.matching.version && driver.version != field16 descriptor 2) &&
  !(driver.matching.classCode && driver.classCode != codes.1) &&
  !(driver.matching.subclassCode && driver.subclassCode != codes.2.1) &&
  !(driver.matching.protocolCode && driver.protocolCode != codes.2.2) &&
  !(driver.matching.vendorProduct &&
    !driver.idList.any fun (vid, pid) => field16 descriptor 8 == vid && field16 descriptor 10 == pid)

/-- `find` in `usb::init`: the first driver in link order that accepts the interface, or `nullptr`.
-/
def findDriver (drivers : List Driver) (descriptor : List (BitVec 8))
    (codes : BitVec 8 × BitVec 8 × BitVec 8) : Option Driver :=
  drivers.find? fun driver => driver.accepts descriptor codes

def selectInterface (drivers : List Driver) (descriptor : List (BitVec 8)) (i : Nat) (config : Config) :
    Option (Nat × Nat × Driver) :=
  config.interfaces.enum.findSome? fun (j, interface) =>
    (findDriver drivers descriptor interface.codes).map fun driver => (i, j, driver)

/-- The loops of `usb::init` over `dev.configs` and their interfaces, up to `goto found`. -/
def selectDriver (drivers : List Driver) (d : Device) : Option (Nat × Nat × Driver) :=
  d.configs.enum.findSome? fun (i, config) => selectInterface drivers d.descriptor i config

/-- `usb::init` on one device once the strings are read: record the indices, `set_configuration`,
then the driver's `init`. -/
def bindDriver (drivers : List Driver) (d : Device) : Except Fault (Option (Device × Driver × BitVec 8)) :=
  match selectDriver drivers d with
  | none => .ok none
  | some (i, j, driver) =>
    let d := { d with currConfig := i, currInterface := j }
    match d.configure with
    | .error f => .error f
    | .ok value => if driver.hasInit then .ok (some (d, driver, value)) else .error (.panic "dev.driver->init")

theorem selectDriver_sound {drivers : List Driver} {d : Device} {i j : Nat} {driver : Driver}
    (h : selectDriver drivers d = some (i, j, driver)) :
    ∃ config interface, d.configs[i]? = some config ∧ config.interfaces[j]? = some interface ∧
      findDriver drivers d.descriptor interface.codes = some driver := by
  obtain ⟨⟨i', config⟩, mem, inner⟩ := List.exists_of_findSome?_eq_some h
  obtain ⟨⟨j', interface⟩, mem', found⟩ := List.exists_of_findSome?_eq_some inner
  obtain ⟨driver', accepted, same⟩ := Option.map_eq_some'.mp found
  simp only [Prod.mk.injEq] at same
  obtain ⟨rfl, rfl, rfl⟩ := same
  exact ⟨config, interface, List.mem_enum_iff_getElem?.mp mem, List.mem_enum_iff_getElem?.mp mem',
    accepted⟩

private theorem findSome?_enumFrom_eq_some {α β : Type} {f : Nat × α → Option β} {b : β} :
    ∀ (n : Nat) (l : List α), (l.enumFrom n).findSome? f = some b ↔
      ∃ i a, l[i]? = some a ∧ f (n + i, a) = some b ∧
        ∀ k < i, ∀ a', l[k]? = some a' → f (n + k, a') = none
  | n, [] => by simp
  | n, x :: xs => by
    rw [List.enumFrom_cons, List.findSome?_cons]
    have shift (k : Nat) : n + 1 + k = n + (k + 1) := by omega
    cases head : f (n, x) with
    | some b' =>
      simp only [Option.some.injEq]
      constructor
      · rintro rfl
        exact ⟨0, x, List.getElem?_cons_zero, head, fun k hk => absurd hk (Nat.not_lt_zero k)⟩
      · rintro ⟨_ | i, a, hi, hf, earlier⟩
        · obtain rfl : x = a := by simpa using hi
          simpa [head] using hf
        · simpa [head] using earlier 0 (Nat.succ_pos i) x List.getElem?_cons_zero
    | none =>
      dsimp only
      rw [findSome?_enumFrom_eq_some (n + 1) xs]
      constructor
      · rintro ⟨i, a, hi, hf, earlier⟩
        refine ⟨i + 1, a, by rwa [List.getElem?_cons_succ], by rwa [shift] at hf, ?_⟩
        rintro (_ | k) hk a' hk'
        · obtain rfl : x = a' := by simpa using hk'
          exact head
        · rw [← shift]
          exact earlier k (by omega) a' (by rwa [List.getElem?_cons_succ] at hk')
      · rintro ⟨_ | i, a, hi, hf, earlier⟩
        · obtain rfl : x = a := by simpa using hi
          simp [head] at hf
        · refine ⟨i, a, by rwa [List.getElem?_cons_succ] at hi, by rwa [shift], ?_⟩
          intro k hk a' hk'
          rw [shift]
          exact earlier (k + 1) (by omega) a' (by rwa [List.getElem?_cons_succ])

/-- What `usb::init` should bind: interface `j` of configuration `i`, by the first driver that
accepts it, with no accepted interface before it. -/
def FirstAccepted (drivers : List Driver) (d : Device) (i j : Nat) (driver : Driver) : Prop :=
  ∃ config interface, d.configs[i]? = some config ∧ config.interfaces[j]? = some interface ∧
    findDriver drivers d.descriptor interface.codes = some driver ∧
    (∀ k < i, ∀ c, d.configs[k]? = some c →
      ∀ x ∈ c.interfaces, findDriver drivers d.descriptor x.codes = none) ∧
    ∀ k < j, ∀ x, config.interfaces[k]? = some x → findDriver drivers d.descriptor x.codes = none

theorem selectInterface_eq_none {drivers : List Driver} {descriptor : List (BitVec 8)} {i : Nat}
    {config : Config} :
    selectInterface drivers descriptor i config = none ↔
      ∀ x ∈ config.interfaces, findDriver drivers descriptor x.codes = none := by
  rw [selectInterface, List.findSome?_eq_none_iff]
  constructor
  · intro none x mem
    obtain ⟨k, hk⟩ := List.mem_iff_getElem?.mp mem
    simpa using none (k, x) (List.mem_enum_iff_getElem?.mpr hk)
  · rintro none ⟨k, x⟩ mem
    simp [none x (List.mem_iff_getElem?.mpr ⟨k, List.mem_enum_iff_getElem?.mp mem⟩)]

theorem selectInterface_eq_some {drivers : List Driver} {descriptor : List (BitVec 8)} {i k j : Nat}
    {config : Config} {driver : Driver} :
    selectInterface drivers descriptor k config = some (i, j, driver) ↔ k = i ∧
      ∃ interface, config.interfaces[j]? = some interface ∧
        findDriver drivers descriptor interface.codes = some driver ∧
        ∀ k < j, ∀ x, config.interfaces[k]? = some x → findDriver drivers descriptor x.codes = none := by
  rw [selectInterface, List.enum_eq_enumFrom, findSome?_enumFrom_eq_some]
  simp only [Nat.zero_add, Option.map_eq_some', Option.map_eq_none', Prod.mk.injEq]
  constructor
  · rintro ⟨_, interface, hi, ⟨_, found, rfl, rfl, rfl⟩, earlier⟩
    exact ⟨rfl, interface, hi, found, earlier⟩
  · rintro ⟨rfl, interface, hi, found, earlier⟩
    exact ⟨j, interface, hi, ⟨driver, found, rfl, rfl, rfl⟩, earlier⟩

theorem selectDriver_eq_some_iff {drivers : List Driver} {d : Device} {i j : Nat} {driver : Driver} :
    selectDriver drivers d = some (i, j, driver) ↔ FirstAccepted drivers d i j driver := by
  rw [selectDriver, List.enum_eq_enumFrom, findSome?_enumFrom_eq_some]
  simp only [Nat.zero_add, selectInterface_eq_some, selectInterface_eq_none]
  constructor
  · rintro ⟨_, config, hc, ⟨rfl, interface, hi, found, earlierInterfaces⟩, earlierConfigs⟩
    exact ⟨config, interface, hc, hi, found, earlierConfigs, earlierInterfaces⟩
  · rintro ⟨config, interface, hc, hi, found, earlierConfigs, earlierInterfaces⟩
    exact ⟨i, config, hc, ⟨rfl, interface, hi, found, earlierInterfaces⟩, earlierConfigs⟩

theorem selectDriver_eq_none {drivers : List Driver} {d : Device} :
    selectDriver drivers d = none ↔
      ∀ config ∈ d.configs, ∀ x ∈ config.interfaces, findDriver drivers d.descriptor x.codes = none := by
  rw [selectDriver, List.findSome?_eq_none_iff]
  constructor
  · intro none config mem
    obtain ⟨k, hk⟩ := List.mem_iff_getElem?.mp mem
    exact selectInterface_eq_none.mp (none (k, config) (List.mem_enum_iff_getElem?.mpr hk))
  · rintro none ⟨k, config⟩ mem
    exact selectInterface_eq_none.mpr
      (none config (List.mem_iff_getElem?.mpr ⟨k, List.mem_enum_iff_getElem?.mp mem⟩))

/-- `usb::init` binds the first accepted interface, configurations first, by the first driver in
link order, and nothing when no driver accepts any interface. -/
theorem selectDriver_spec (drivers : List Driver) (d : Device) :
    (∀ i j driver, selectDriver drivers d = some (i, j, driver) ↔ FirstAccepted drivers d i j driver) ∧
      (selectDriver drivers d = none ↔
        ∀ config ∈ d.configs, ∀ x ∈ config.interfaces, findDriver drivers d.descriptor x.codes = none) :=
  ⟨fun _ _ _ => selectDriver_eq_some_iff, selectDriver_eq_none⟩

theorem bindDriver_eq_some {drivers : List Driver} {d : Device} {r : Device × Driver × BitVec 8}
    (h : bindDriver drivers d = .ok (some r)) :
    ∃ config interface, d.configs[r.1.currConfig]? = some config ∧
      config.interfaces[r.1.currInterface]? = some interface ∧
      findDriver drivers d.descriptor interface.codes = some r.2.1 ∧ r.2.1.hasInit = true ∧
      r.2.2 = config.configVal ∧
      r.1 = { d with currConfig := r.1.currConfig, currInterface := r.1.currInterface } := by
  unfold bindDriver at h
  cases sel : selectDriver drivers d with
  | none => simp [sel] at h
  | some found =>
    obtain ⟨i, j, driver⟩ := found
    obtain ⟨config, interface, hc, hi, accepted⟩ := selectDriver_sound sel
    have configured : ({ d with currConfig := i, currInterface := j } : Device).configure =
        .ok config.configVal := by
      simp [Device.configure, hc]
    simp only [sel, configured] at h
    split at h
    · cases h
      exact ⟨config, interface, hc, hi, accepted, ‹_›, rfl, rfl⟩
    · cases h

/-! ## After `register_device` -/

/-- Modelled from the standard layout: `sizeof(DeviceDescriptor)`. -/
def deviceSize : Nat := 18

/-- A configuration as `dev.configs.resize` value-initialises it: a zeroed descriptor, no
interfaces. -/
def emptyConfig : Config := ⟨List.replicate configSize 0, []⟩

/-- The `usb::Device` that `usb::register_device` leaves: its device descriptor, `num_configs`
configurations of which `get_configuration` fills the first, and `Device{}`'s indices. -/
def registeredDevice (addressed : Bool) (device config : List (BitVec 8)) (heap : Nat → BitVec 8) :
    Except Fault Device := do
  let reg ← registerDevice addressed device config heap
  if reg.numConfigs = 0 then throw (.outOfBounds 0)
  let parsed ← reg.configuration.result
  pure ⟨(List.range deviceSize).map fun i => device.getD i 0,
    (List.replicate reg.numConfigs emptyConfig).set 0 parsed, 0, 0, []⟩

theorem registeredDevice_eq_ok {addressed : Bool} {device config : List (BitVec 8)}
    {heap : Nat → BitVec 8} {d : Device} (h : registeredDevice addressed device config heap = .ok d) :
    ∃ parsed, (getConfiguration config heap).result = .ok parsed ∧ 0 < (device.getD 17 0).toNat ∧
      d.configs = (List.replicate (device.getD 17 0).toNat emptyConfig).set 0 parsed ∧
      d.descriptor = (List.range deviceSize).map (fun i => device.getD i 0) := by
  obtain ⟨reg, registered, h⟩ := bind_eq_ok.mp h
  unfold registerDevice at registered
  split at registered
  · cases registered
  · cases registered
    dsimp only at h
    by_cases none : (device.getD 17 0).toNat = 0
    · rw [if_pos none] at h
      cases h
    · rw [if_neg none] at h
      obtain ⟨_, -, h⟩ := bind_eq_ok.mp h
      obtain ⟨parsed, hp, ⟨⟩⟩ := bind_eq_ok.mp h
      exact ⟨parsed, hp, Nat.pos_of_ne_zero none, rfl, rfl⟩

/-- `usb::init` binds a registered device only to an interface of configuration 0, since `resize`
leaves the others empty; the indices it records stay in range. -/
theorem bindDriver_registered {drivers : List Driver} {addressed : Bool}
    {device config : List (BitVec 8)} {heap : Nat → BitVec 8} {d : Device}
    {r : Device × Driver × BitVec 8} (registered : registeredDevice addressed device config heap = .ok d)
    (bound : bindDriver drivers d = .ok (some r)) :
    ∃ parsed interface, (getConfiguration config heap).result = .ok parsed ∧ r.1.currConfig = 0 ∧
      parsed.interfaces[r.1.currInterface]? = some interface ∧ r.1.interface = .ok interface ∧
      findDriver drivers r.1.descriptor interface.codes = some r.2.1 ∧ r.2.2 = parsed.configVal := by
  obtain ⟨parsed, hp, some, configs, -⟩ := registeredDevice_eq_ok registered
  obtain ⟨config, interface, hc, hi, accepted, -, value, shape⟩ := bindDriver_eq_some bound
  rw [configs, List.getElem?_set, List.getElem?_replicate] at hc
  have first : r.1.currConfig = 0 := by
    by_contra other
    simp only [Ne.symm other, if_false] at hc
    split at hc
    · cases hc
      simp [emptyConfig] at hi
    · cases hc
  simp only [first, if_true, List.length_replicate, some] at hc
  cases hc
  have zero : d.configs[0]? = .some parsed := by
    rw [configs, List.getElem?_set_self (by rw [List.length_replicate]; exact some)]
  refine ⟨parsed, interface, hp, first, hi, ?_, by rw [shape]; exact accepted, value⟩
  rw [shape]
  simp only [Device.interface, List.get?_eq_getElem?, first, zero, hi]

def oneConfigDescriptor : List (BitVec 8) := [18, 1, 0, 2, 0, 0, 0, 64, 0, 0, 0, 0, 0, 1, 0, 0, 0, 1]

def massStorageDevice : Device := ⟨oneConfigDescriptor, [massStorage.record], 0, 0, []⟩

def bulkOnlyDriver : Driver :=
  ⟨"USB Mass Storage Driver", true, ⟨false, true, true, true, false⟩, 0, 8, 6, 0x50, []⟩

theorem bindDriver_registered_massStorage :
    registeredDevice true oneConfigDescriptor massStorage.bytes (fun _ => 0) = .ok massStorageDevice ∧
      bindDriver [bulkOnlyDriver] massStorageDevice = .ok (some (massStorageDevice, bulkOnlyDriver, 1)) ∧
      ∃ parsed interface, (getConfiguration massStorage.bytes fun _ => 0).result = .ok parsed ∧
        massStorageDevice.currConfig = 0 ∧
        parsed.interfaces[massStorageDevice.currInterface]? = some interface ∧
        massStorageDevice.interface = .ok interface ∧
        findDriver [bulkOnlyDriver] massStorageDevice.descriptor interface.codes = some bulkOnlyDriver ∧
        1 = parsed.configVal :=
  have registered : registeredDevice true oneConfigDescriptor massStorage.bytes (fun _ => 0) =
      .ok massStorageDevice := rfl
  have bound : bindDriver [bulkOnlyDriver] massStorageDevice =
      .ok (some (massStorageDevice, bulkOnlyDriver, 1)) := rfl
  ⟨registered, bound, bindDriver_registered registered bound⟩

end LunaVmm.Usb
