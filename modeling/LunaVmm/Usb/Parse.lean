import LunaVmm.Usb.Grammar

/-! What `get_configuration` makes of configuration sets: everything, in order, for sets of
interface, endpoint and companion descriptors, and an assertion failure otherwise. -/

namespace LunaVmm.Usb

namespace ConfigSet

variable (s : ConfigSet) (heap : Nat → BitVec 8)

/-- On a set of strict interfaces `get_configuration` records every interface and endpoint in order,
if the byte past `buf` is no companion type; it reads nothing beyond that byte. -/
theorem getConfiguration_strict (strict : ∀ i ∈ s.interfaces, i.Strict)
    (settings : ∀ i ∈ s.interfaces, i.alternate = 0) (probe : heap (s.bytes.length + 1) ≠ epCompanionType) :
    (getConfiguration s.bytes heap).result = .ok s.record ∧
      ∀ r ∈ (getConfiguration s.bytes heap).reads, r < s.bytes.length + 2 := by
  have all : s.numInterfaces = s.interfaces.length := by
    rw [numInterfaces, s.counted, List.countP_eq_length.2 (by simpa using settings)]
  have size : configSize + (s.interfaces.flatMap InterfaceEntry.bytes).length = s.bytes.length := by
    simp [bytes, s.length_desc_bytes]
  have past : (s.buffer heap).byte (s.bytes.length + 1) = heap (s.bytes.length + 1) := by
    simp [buffer, configBuffer]
  obtain ⟨reads, readsIn, walk⟩ :=
    s.getConfiguration_leading heap (List.append_nil _).symm strict all.ge (by rwa [size, past])
  rw [size] at readsIn walk
  rw [walk, all, Nat.sub_self]
  exact ⟨by simp [Usb.interfaces, Except.map, record], by simpa [Usb.interfaces] using readsIn⟩

end ConfigSet

def bulkEndpoint (address : BitVec 8) : EndpointEntry :=
  ⟨⟨endpointType, [address, 2, 0, 2, 0], by simp⟩, ⟨rfl, rfl⟩, none, by simp⟩

/-- The interface `usb_msd.cpp` matches: class 8, subclass 6, protocol 0x50, one bulk IN and one
bulk OUT endpoint. -/
def massStorageInterface : InterfaceEntry where
  associations := []
  associationsOk := by simp
  desc := ⟨interfaceType, [0, 0, 2, 8, 6, 0x50, 0], by decide⟩
  interface := by decide
  classSpecific := []
  classSpecificOk := by simp
  eps := [bulkEndpoint 0x81, bulkEndpoint 0x02]
  counted := by decide

def massStorage : ConfigSet where
  desc := ⟨configType, [32, 0, 1, 1, 0, 0x80, 50], by decide⟩
  config := by decide
  interfaces := [massStorageInterface]
  total := by decide
  counted := by decide

theorem massStorage_recorded :
    (∀ i ∈ massStorage.interfaces, i.Strict) ∧ (∀ i ∈ massStorage.interfaces, i.alternate = 0) ∧
      (fun _ => 0 : Nat → BitVec 8) (massStorage.bytes.length + 1) ≠ epCompanionType ∧
      (getConfiguration massStorage.bytes fun _ => 0).result = .ok massStorage.record ∧
      ∀ r ∈ (getConfiguration massStorage.bytes fun _ => 0).reads, r < massStorage.bytes.length + 2 := by
  have strict : ∀ i ∈ massStorage.interfaces, i.Strict := by decide
  have settings : ∀ i ∈ massStorage.interfaces, i.alternate = 0 := by decide
  have probe : (fun _ => 0 : Nat → BitVec 8) (massStorage.bytes.length + 1) ≠ epCompanionType := by decide
  exact ⟨strict, settings, probe, massStorage.getConfiguration_strict _ strict settings probe⟩

namespace ConfigSet

variable (s : ConfigSet) (heap : Nat → BitVec 8)

theorem getConfiguration_reaches {pre post : List InterfaceEntry} {i : InterfaceEntry}
    (split : s.interfaces = pre ++ i :: post) (strict : ∀ x ∈ pre, x.Strict)
    (reaches : pre.length < s.numInterfaces) :
    let off := configSize + (pre.flatMap InterfaceEntry.bytes).length
    (s.buffer heap).Holds off (i.bytes ++ post.flatMap InterfaceEntry.bytes) ∧
      ∃ k reads, getConfiguration s.bytes heap =
        ⟨(Usb.interfaces (s.buffer heap) (k + 1) off).result.map
            fun r => ⟨s.desc.bytes, pre.map InterfaceEntry.record ++ r.1⟩,
          reads ++ (Usb.interfaces (s.buffer heap) (k + 1) off).reads⟩ := by
  have holds := (s.holds_split heap split).2
  rw [List.flatMap_cons] at holds
  obtain ⟨reads, -, walk⟩ :=
    s.getConfiguration_leading heap split strict reaches.le (InterfaceEntry.first_not_companion holds)
  refine ⟨holds, s.numInterfaces - pre.length - 1, reads, ?_⟩
  rwa [Nat.sub_add_cancel (by omega)]

theorem getConfiguration_reads_past {pre : List InterfaceEntry} {last : InterfaceEntry}
    {eps : List EndpointEntry} {e : EndpointEntry} (split : s.interfaces = pre ++ [last])
    (strict : ∀ i ∈ pre ++ [last], i.Strict) (reaches : pre.length < s.numInterfaces)
    (lastEps : last.eps = eps ++ [e]) (bare : e.companion = none) :
    s.bytes.length + 1 ∈ (getConfiguration s.bytes heap).reads := by
  obtain ⟨holds, k, reads, walk⟩ :=
    s.getConfiguration_reaches heap split (fun i mem => strict i (by simp [mem])) reaches
  have size : s.bytes.length = configSize + (pre.flatMap InterfaceEntry.bytes).length + last.bytes.length := by
    simp [bytes, split, s.length_desc_bytes, Nat.add_assoc]
  rw [walk, size]
  exact List.mem_append_right _ (interfaces_probe_mem (strict last (by simp)) holds lastEps bare)

/-- `get_configuration` stops at the `ep.type` assertion on the first interface with a
class-specific descriptor before its endpoints. -/
theorem getConfiguration_classSpecific {pre post : List InterfaceEntry} {i : InterfaceEntry}
    (split : s.interfaces = pre ++ i :: post) (strict : ∀ x ∈ pre, x.Strict)
    (reaches : pre.length < s.numInterfaces) (unassociated : i.associations = [])
    (specific : i.classSpecific ≠ []) (withEndpoints : i.eps ≠ []) :
    (getConfiguration s.bytes heap).result = .error (.panic "ep.type == usb::descriptor_types::endpoint") := by
  obtain ⟨holds, k, reads, walk⟩ := s.getConfiguration_reaches heap split strict reaches
  rw [walk]
  exact congrArg (Except.map _) (interfaces_classSpecific holds unassociated specific withEndpoints)

/-- `get_configuration` stops at the `interface.type` assertion on the first interface after an
association descriptor. -/
theorem getConfiguration_association {pre post : List InterfaceEntry} {i : InterfaceEntry}
    (split : s.interfaces = pre ++ i :: post) (strict : ∀ x ∈ pre, x.Strict)
    (reaches : pre.length < s.numInterfaces) (associated : i.associations ≠ []) :
    (getConfiguration s.bytes heap).result =
      .error (.panic "interface.type == usb::descriptor_types::interface") := by
  obtain ⟨holds, k, reads, walk⟩ := s.getConfiguration_reaches heap split strict reaches
  rw [walk]
  exact congrArg (Except.map _) (interfaces_association holds associated)

theorem getConfiguration_alternate (alternate : ∃ i ∈ s.interfaces, i.alternate ≠ 0) :
    (getConfiguration s.bytes heap).result ≠ .ok s.record := by
  intro ok
  rw [getConfiguration_eq] at ok
  obtain ⟨r, walk, same⟩ := map_eq_ok ok
  have recorded := congrArg (fun c : Config => c.interfaces.length) same
  have fewer : s.numInterfaces < s.interfaces.length := by
    rw [numInterfaces, s.counted, List.countP_eq_length_filter]
    exact List.length_filter_lt_length_iff_exists.2 (by simpa using alternate)
  simp only [record, List.length_map, interfaces_length walk] at recorded
  omega

end ConfigSet

/-- `register_device` and `get_configuration` check no index against its bound: `configs[0]` with no
configuration, 9 bytes of a shorter `buf`, and the probe past its end. -/
theorem registerDevice_reads_unchecked :
    (∀ device config heap, device.getD 17 0 = 0 →
      ∃ r, registerDevice true device config heap = .ok r ∧ ∃ i ∈ r.configAccesses, r.numConfigs ≤ i) ∧
    (∀ config heap, totalLength (firstDescriptor config) < configSize →
      ∃ i ∈ (getConfiguration config heap).reads, totalLength (firstDescriptor config) ≤ i) ∧
    (∀ (s : ConfigSet) pre last eps e heap, s.interfaces = pre ++ [last] →
      (∀ i ∈ pre ++ [last], i.Strict) → pre.length < s.numInterfaces → last.eps = eps ++ [e] →
        e.companion = none →
          totalLength (firstDescriptor s.bytes) = s.bytes.length ∧
            s.bytes.length + 1 ∈ (getConfiguration s.bytes heap).reads) :=
  ⟨fun _ _ _ zero => ⟨_, rfl, 0, List.mem_singleton_self 0, (congrArg BitVec.toNat zero).le⟩,
    fun _ _ short => ⟨configSize - 1, by simp [getConfiguration, configSize], by omega⟩,
    fun s _ _ _ _ heap split strict reaches last bare =>
      ⟨s.totalLength_bytes, s.getConfiguration_reads_past heap split strict reaches last bare⟩⟩

theorem massStorage_reads_past_end :
    ([] : List (BitVec 8)).getD 17 0 = 0 ∧
      (∃ r, registerDevice true [] massStorage.bytes (fun _ => 0) = .ok r ∧
        ∃ i ∈ r.configAccesses, r.numConfigs ≤ i) ∧
    totalLength (firstDescriptor []) < configSize ∧
      (∃ i ∈ (getConfiguration [] fun _ => 0).reads, totalLength (firstDescriptor []) ≤ i) ∧
    massStorage.interfaces = [] ++ [massStorageInterface] ∧
      (∀ i ∈ [] ++ [massStorageInterface], i.Strict) ∧
      ([] : List InterfaceEntry).length < massStorage.numInterfaces ∧
      massStorageInterface.eps = [bulkEndpoint 0x81] ++ [bulkEndpoint 0x02] ∧
      (bulkEndpoint 0x02).companion = none ∧
      totalLength (firstDescriptor massStorage.bytes) = massStorage.bytes.length ∧
      massStorage.bytes.length + 1 ∈ (getConfiguration massStorage.bytes fun _ => 0).reads := by
  have zero : ([] : List (BitVec 8)).getD 17 0 = 0 := rfl
  have short : totalLength (firstDescriptor []) < configSize := by decide
  have strict : ∀ i ∈ [] ++ [massStorageInterface], i.Strict := by decide
  have reaches : ([] : List InterfaceEntry).length < massStorage.numInterfaces := by decide
  exact ⟨zero, registerDevice_reads_unchecked.1 _ _ _ zero, short,
    registerDevice_reads_unchecked.2.1 _ _ short, rfl, strict, reaches, rfl, rfl,
    registerDevice_reads_unchecked.2.2 massStorage [] massStorageInterface [bulkEndpoint 0x81]
      (bulkEndpoint 0x02) _ rfl strict reaches rfl rfl⟩

/-- `get_configuration` fails on a class-specific descriptor before the endpoints and on an
association descriptor, and never records a set with alternate settings whole. -/
theorem getConfiguration_fails_beyond_strict :
    (∀ (s : ConfigSet) pre i post heap, s.interfaces = pre ++ i :: post → (∀ x ∈ pre, x.Strict) →
      pre.length < s.numInterfaces → i.associations = [] → i.classSpecific ≠ [] → i.eps ≠ [] →
        (getConfiguration s.bytes heap).result =
          .error (.panic "ep.type == usb::descriptor_types::endpoint")) ∧
    (∀ (s : ConfigSet) pre i post heap, s.interfaces = pre ++ i :: post → (∀ x ∈ pre, x.Strict) →
      pre.length < s.numInterfaces → i.associations ≠ [] →
        (getConfiguration s.bytes heap).result =
          .error (.panic "interface.type == usb::descriptor_types::interface")) ∧
    (∀ (s : ConfigSet) heap, (∃ i ∈ s.interfaces, i.alternate ≠ 0) →
      (getConfiguration s.bytes heap).result ≠ .ok s.record) :=
  ⟨fun s _ _ _ heap => s.getConfiguration_classSpecific heap,
    fun s _ _ _ heap => s.getConfiguration_association heap,
    fun s heap => s.getConfiguration_alternate heap⟩

/-- The interface `boot_mouse.cpp` matches (class 3, subclass 1, protocol 2), with its HID
descriptor and an interrupt IN endpoint. -/
def bootMouseInterface : InterfaceEntry where
  associations := []
  associationsOk := by simp
  desc := ⟨interfaceType, [0, 0, 1, 3, 1, 2, 0], by decide⟩
  interface := by decide
  classSpecific := [⟨0x21, [0x11, 0x01, 0, 1, 0x22, 52, 0], by decide⟩]
  classSpecificOk := by decide
  eps := [⟨⟨endpointType, [0x81, 3, 4, 0, 10], by decide⟩, by decide, none, by simp⟩]
  counted := by decide

def bootMouse : ConfigSet where
  desc := ⟨configType, [34, 0, 1, 1, 0, 0xA0, 50], by decide⟩
  config := by decide
  interfaces := [bootMouseInterface]
  total := by decide
  counted := by decide

def streamingIdle : InterfaceEntry where
  associations := [⟨iadType, [0, 1, 1, 2, 0, 0], by decide⟩]
  associationsOk := by decide
  desc := ⟨interfaceType, [0, 0, 0, 1, 2, 0, 0], by decide⟩
  interface := by decide
  classSpecific := []
  classSpecificOk := by simp
  eps := []
  counted := by decide

def streamingActive : InterfaceEntry where
  associations := []
  associationsOk := by simp
  desc := ⟨interfaceType, [0, 1, 1, 1, 2, 0, 0], by decide⟩
  interface := by decide
  classSpecific := []
  classSpecificOk := by simp
  eps := [⟨⟨endpointType, [0x01, 1, 0xC0, 0, 1], by decide⟩, by decide, none, by simp⟩]
  counted := by decide

def audioStreaming : ConfigSet where
  desc := ⟨configType, [42, 0, 1, 1, 0, 0x80, 50], by decide⟩
  config := by decide
  interfaces := [streamingIdle, streamingActive]
  total := by decide
  counted := by decide

theorem bootMouse_asserts :
    (bootMouse.interfaces = [] ++ bootMouseInterface :: [] ∧ (∀ x ∈ ([] : List InterfaceEntry), x.Strict) ∧
      ([] : List InterfaceEntry).length < bootMouse.numInterfaces ∧ bootMouseInterface.associations = [] ∧
      bootMouseInterface.classSpecific ≠ [] ∧ bootMouseInterface.eps ≠ [] ∧
      (getConfiguration bootMouse.bytes fun _ => 0).result =
        .error (.panic "ep.type == usb::descriptor_types::endpoint")) ∧
    (audioStreaming.interfaces = [] ++ streamingIdle :: [streamingActive] ∧
      ([] : List InterfaceEntry).length < audioStreaming.numInterfaces ∧ streamingIdle.associations ≠ [] ∧
      (getConfiguration audioStreaming.bytes fun _ => 0).result =
        .error (.panic "interface.type == usb::descriptor_types::interface")) ∧
    (∃ i ∈ audioStreaming.interfaces, i.alternate ≠ 0) ∧
      (getConfiguration audioStreaming.bytes fun _ => 0).result ≠ .ok audioStreaming.record := by
  have empty : ∀ x ∈ ([] : List InterfaceEntry), x.Strict := by simp
  have mouse : ([] : List InterfaceEntry).length < bootMouse.numInterfaces := by decide
  have specific : bootMouseInterface.classSpecific ≠ [] := by decide
  have withEndpoints : bootMouseInterface.eps ≠ [] := List.cons_ne_nil _ _
  have audio : ([] : List InterfaceEntry).length < audioStreaming.numInterfaces := by decide
  have association : streamingIdle.associations ≠ [] := by decide
  have alternate : ∃ i ∈ audioStreaming.interfaces, i.alternate ≠ 0 := by decide
  exact ⟨⟨rfl, empty, mouse, rfl, specific, withEndpoints,
      getConfiguration_fails_beyond_strict.1 bootMouse [] bootMouseInterface [] _ rfl empty mouse rfl
        specific withEndpoints⟩,
    ⟨rfl, audio, association,
      getConfiguration_fails_beyond_strict.2.1 audioStreaming [] streamingIdle [streamingActive] _ rfl
        empty audio association⟩,
    alternate, getConfiguration_fails_beyond_strict.2.2 _ _ alternate⟩

end LunaVmm.Usb
