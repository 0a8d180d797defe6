import LunaVmm.RegisterState

/-! `get_configuration` and `usb::register_device` (`usb.cpp`). The parser never compares an
offset with `total_length`, so the model keeps every offset of `buf` it reads. -/

namespace LunaVmm.Usb

/-! Modelled from the standard USB descriptor layout (`usb.hpp`, which declares
`usb::descriptor_types` and the descriptor structs, is not under src/). -/

def configType : BitVec 8 := 2
def interfaceType : BitVec 8 := 4
def endpointType : BitVec 8 := 5
def epCompanionType : BitVec 8 := 0x30

/-- Modelled from the standard layout: the sizes of the configuration, interface, endpoint and
companion descriptors. -/
def configSize : Nat := 9
def interfaceSize : Nat := 9
def endpointSize : Nat := 7
def companionSize : Nat := 6

/-- Modelled from the standard layout: `usb::Endpoint`, a descriptor and the companion that followed
it, if any. -/
structure Endpoint where
  desc : List (BitVec 8)
  companion : Option (List (BitVec 8))
  deriving DecidableEq

/-- Modelled from the standard layout: `usb::Interface`. -/
structure Interface where
  desc : List (BitVec 8)
  eps : List Endpoint
  deriving DecidableEq

/-- Modelled from the standard layout: `usb::Configuration`. -/
structure Config where
  desc : List (BitVec 8)
  interfaces : List Interface
  deriving DecidableEq

structure Walk (α : Type) where
  result : Except Fault α
  reads : List Nat

/-- `buf` as the parser sees it: `total` is `total_length`, and `byte i` is `buf[i]` for every `i`,
past the end too. -/
structure ConfigBuffer where
  total : Nat
  byte : Nat → BitVec 8

namespace ConfigBuffer

def bytesAt (b : ConfigBuffer) (off n : Nat) : List (BitVec 8) := (List.range' off n).map b.byte

end ConfigBuffer

/-- The `companion.type == ep_companion` step after an endpoint ending at `next`. -/
def companionAt (b : ConfigBuffer) (next : Nat) : Option (List (BitVec 8)) × Nat × List Nat :=
  if b.byte (next + 1) = epCompanionType then
    (some (b.bytesAt next companionSize), next + (b.byte next).toNat,
      [next + 1] ++ List.range' next companionSize)
  else (none, next, [next + 1])

def endpoints (b : ConfigBuffer) : Nat → Nat → Walk (List Endpoint × Nat)
  | 0, off => ⟨.ok ([], off), []⟩
  | k + 1, off =>
    if b.byte (off + 1) = endpointType then
      let (companion, after, probe) := companionAt b (off + (b.byte off).toNat)
      let rest := endpoints b k after
      ⟨rest.result.map fun r => (⟨b.bytesAt off endpointSize, companion⟩ :: r.1, r.2),
        [off + 1] ++ List.range' off endpointSize ++ probe ++ rest.reads⟩
    else ⟨.error (.panic "ep.type == usb::descriptor_types::endpoint"), [off + 1]⟩

def interfaces (b : ConfigBuffer) : Nat → Nat → Walk (List Interface × Nat)
  | 0, off => ⟨.ok ([], off), []⟩
  | k + 1, off =>
    if b.byte (off + 1) = interfaceType then
      let eps := endpoints b (b.byte (off + 4)).toNat (off + (b.byte off).toNat)
      let reads := [off + 1] ++ List.range' off interfaceSize ++ eps.reads
      match eps.result with
      | .ok (list, after) =>
        let rest := interfaces b k after
        ⟨rest.result.map fun r => (⟨b.bytesAt off interfaceSize, list⟩ :: r.1, r.2),
          reads ++ rest.reads⟩
      | .error f => ⟨.error f, reads⟩
    else ⟨.error (.panic "interface.type == usb::descriptor_types::interface"), [off + 1]⟩

def firstDescriptor (config : List (BitVec 8)) : List (BitVec 8) :=
  (List.range configSize).map fun i => config.getD i 0

def totalLength (desc : List (BitVec 8)) : Nat := (desc.getD 2 0).toNat + 256 * (desc.getD 3 0).toNat

/-- `buf` after the second `get_descriptor`: the device's first `total_length` bytes, and elsewhere
`heap`. -/
def configBuffer (config : List (BitVec 8)) (total : Nat) (heap : Nat → BitVec 8) : ConfigBuffer :=
  ⟨total, fun i => if i < total then config.getD i (heap i) else heap i⟩

/-- `get_configuration(dev, i)`: the interface count from the copy in `buf`, the first offset from
the first transfer's `desc`. -/
def getConfiguration (config : List (BitVec 8)) (heap : Nat → BitVec 8) : Walk Config :=
  let desc := firstDescriptor config
  let b := configBuffer config (totalLength desc) heap
  let walk := interfaces b (b.byte 4).toNat (desc.getD 0 0).toNat
  ⟨walk.result.map fun r => ⟨b.bytesAt 0 configSize, r.1⟩, List.range' 0 configSize ++ walk.reads⟩

structure Registered where
  numConfigs : Nat
  configAccesses : List Nat
  configuration : Walk Config

/-- `usb::register_device` over the value-initialised `Device` that `emplace_back` made. -/
def registerDevice (addressed : Bool) (device config : List (BitVec 8)) (heap : Nat → BitVec 8) :
    Except Fault Registered :=
  if !addressed then .error (.panic "TODO: Send ADDRESS_DEVICE packet")
  else .ok ⟨(device.getD 17 0).toNat, [0], getConfiguration config heap⟩

end LunaVmm.Usb
