import LunaVmm.Usb.Config

/-! Configuration descriptor sets as the USB standard lays them out, and what
`get_configuration` makes of them; the parser knows only interface, endpoint and companion. -/

namespace LunaVmm.Usb

/-- A descriptor as a device sends it: `bLength`, `bDescriptorType`, then the rest. -/
structure Descriptor where
  type : BitVec 8
  body : List (BitVec 8)
  fits : body.length + 2 < 256
  deriving DecidableEq

namespace Descriptor

def bytes (d : Descriptor) : List (BitVec 8) := BitVec.ofNat 8 (d.body.length + 2) :: d.type :: d.body

@[simp] theorem length_bytes (d : Descriptor) : d.bytes.length = d.body.length + 2 := by
  simp [bytes]

theorem toNat_getD_zero (d : Descriptor) : (d.bytes.getD 0 0).toNat = d.body.length + 2 := by
  simp [bytes, BitVec.toNat_ofNat, Nat.mod_eq_of_lt d.fits]

end Descriptor

def iadType : BitVec 8 := 0x0B

namespace ConfigBuffer

variable {b : ConfigBuffer} {off : Nat} {xs ys : List (BitVec 8)}

/-- `buf` holds `bs` from `off` on. -/
def Holds (b : ConfigBuffer) (off : Nat) (bs : List (BitVec 8)) : Prop := b.bytesAt off bs.length = bs

theorem holds_cons {x : BitVec 8} : b.Holds off (x :: xs) ↔ b.byte off = x ∧ b.Holds (off + 1) xs := by
  simp [Holds, bytesAt, List.range'_succ]

theorem holds_append : b.Holds off (xs ++ ys) ↔ b.Holds off xs ∧ b.Holds (off + xs.length) ys := by
  unfold Holds bytesAt
  rw [List.length_append, Nat.add_comm, ← List.range'_append_1 off xs.length ys.length, List.map_append]
  constructor
  · intro h
    exact List.append_inj h (by simp)
  · rintro ⟨left, right⟩
    rw [left, right]

theorem Holds.byte_eq (holds : b.Holds off xs) {j : Nat} (lt : j < xs.length) :
    b.byte (off + j) = xs.getD j 0 := by
  rw [← holds]
  simp [bytesAt, List.getElem?_range', lt]

theorem Holds.descriptor {d : Descriptor} (holds : b.Holds off d.bytes) :
    (b.byte off).toNat = d.body.length + 2 ∧ b.byte (off + 1) = d.type ∧
      b.bytesAt off (d.body.length + 2) = d.bytes := by
  have whole := holds
  rw [Descriptor.bytes, holds_cons, holds_cons] at holds
  refine ⟨?_, holds.2.1, by simpa [Holds] using whole⟩
  rw [holds.1, BitVec.toNat_ofNat, Nat.mod_eq_of_lt d.fits]

end ConfigBuffer

/-! ## Loops that take entries the buffer holds -/

private theorem map_map_result {α β γ : Type} (g : α → β) (f : β → γ) (x : Except Fault α) :
    (x.map g).map f = x.map (f ∘ g) :=
  Functor.map_map g f x

theorem map_eq_ok {α β : Type} {f : α → β} {x : Except Fault α} {r : β}
    (h : x.map f = .ok r) : ∃ a, x = .ok a ∧ f a = r := by
  cases x with
  | error => cases h
  | ok a => exact ⟨a, rfl, Except.ok.inj h⟩

section Advances

variable {α β : Type} {b : ConfigBuffer} {walk : Nat → Nat → Walk (List α × Nat)}

/-- `walk`, one of the parser loops, takes `n` turns over `len` bytes of entries from `off`: it
records `recs`, moves past them, and reads only below `off + len + 2`. -/
def Advances (walk : Nat → Nat → Walk (List α × Nat)) (n off len : Nat) (recs : List α) : Prop :=
  ∀ k, ∃ reads, (∀ r ∈ reads, off ≤ r ∧ r < off + len + 2) ∧
    walk (n + k) off =
      ⟨(walk k (off + len)).result.map fun r => (recs ++ r.1, r.2), reads ++ (walk k (off + len)).reads⟩

theorem advances_zero (off : Nat) : Advances walk 0 off 0 [] := by
  intro k
  refine ⟨[], by simp, ?_⟩
  rw [Nat.zero_add, Nat.add_zero]
  exact congrArg (Walk.mk · _) (congrFun Except.map_id _).symm

theorem Advances.trans {n m off len len' : Nat} {recs recs' : List α}
    (first : Advances walk n off len recs) (second : Advances walk m (off + len) len' recs') :
    Advances walk (n + m) off (len + len') (recs ++ recs') := by
  intro k
  obtain ⟨here, hereIn, now⟩ := first (m + k)
  obtain ⟨there, thereIn, next⟩ := second k
  refine ⟨here ++ there, ?_, ?_⟩
  · intro r mem
    rcases List.mem_append.1 mem with mem | mem
    · have := hereIn r mem
      omega
    · have := thereIn r mem
      omega
  · rw [Nat.add_assoc, now, next, ← Nat.add_assoc, map_map_result]
    simp only [List.append_assoc]
    rfl

/-- A loop over entries held one after another, from its turn over one entry, given no entry starts
like a companion. -/
theorem advances_flatMap {bytes : β → List (BitVec 8)} {record : β → α} {es : List β} {off : Nat}
    (first : ∀ e ∈ es, ∀ {off ys}, b.Holds off (bytes e ++ ys) → b.byte (off + 1) ≠ epCompanionType)
    (step : ∀ e ∈ es, ∀ {off}, b.Holds off (bytes e) →
      b.byte (off + (bytes e).length + 1) ≠ epCompanionType →
        Advances walk 1 off (bytes e).length [record e])
    (holds : b.Holds off (es.flatMap bytes))
    (probe : b.byte (off + (es.flatMap bytes).length + 1) ≠ epCompanionType) :
    Advances walk es.length off (es.flatMap bytes).length (es.map record) := by
  induction es generalizing off with
  | nil => exact advances_zero off
  | cons e rest ih =>
    rw [List.flatMap_cons, ConfigBuffer.holds_append] at holds
    have next : b.byte (off + (bytes e).length + 1) ≠ epCompanionType := by
      cases rest with
      | nil => simpa using probe
      | cons e' _ =>
        rw [List.flatMap_cons] at holds
        exact first e' (by simp) holds.2
    have tail := ih (fun e mem => first e (by simp [mem])) (fun e mem => step e (by simp [mem]))
      holds.2 (by simpa [Nat.add_assoc] using probe)
    rw [List.length_cons, Nat.add_comm rest.length 1, List.flatMap_cons, List.length_append, List.map_cons]
    exact (step e (by simp) holds.1 next).trans tail

end Advances

/-! ## Endpoints -/

/-- An endpoint descriptor and the SuperSpeed companion that follows it, if any. -/
structure EndpointEntry where
  desc : Descriptor
  endpoint : desc.type = endpointType ∧ desc.body.length + 2 = endpointSize
  companion : Option Descriptor
  companionOk : ∀ c ∈ companion, c.type = epCompanionType ∧ c.body.length + 2 = companionSize

namespace EndpointEntry

def bytes (e : EndpointEntry) : List (BitVec 8) := e.desc.bytes ++ (e.companion.map Descriptor.bytes).getD []

def record (e : EndpointEntry) : Endpoint := ⟨e.desc.bytes, e.companion.map Descriptor.bytes⟩

theorem header {b : ConfigBuffer} {off : Nat} {e : EndpointEntry} {ys : List (BitVec 8)}
    (holds : b.Holds off (e.bytes ++ ys)) :
    b.byte (off + 1) = endpointType ∧ (b.byte off).toNat = endpointSize := by
  rw [bytes, List.append_assoc, ConfigBuffer.holds_append] at holds
  obtain ⟨length, type, -⟩ := holds.1.descriptor
  exact ⟨type.trans e.endpoint.1, length.trans e.endpoint.2⟩

end EndpointEntry

section Endpoints

variable {b : ConfigBuffer} {off : Nat}

/-- One turn of the endpoint loop: it records the endpoint and its companion and moves past them. -/
theorem endpoints_entry {e : EndpointEntry} (holds : b.Holds off e.bytes)
    (probe : e.companion = none → b.byte (off + e.bytes.length + 1) ≠ epCompanionType) :
    Advances (endpoints b) 1 off e.bytes.length [e.record] := by
  intro k
  rw [EndpointEntry.bytes, ConfigBuffer.holds_append] at holds
  obtain ⟨length, type, copy⟩ := holds.1.descriptor
  have seven : e.desc.body.length + 2 = 7 := e.endpoint.2
  rw [seven] at length copy
  rw [Nat.add_comm 1 k, endpoints, if_pos (type.trans e.endpoint.1), length]
  cases companion : e.companion with
  | none =>
    have bare : b.byte (off + 7 + 1) ≠ epCompanionType := by
      simpa [EndpointEntry.bytes, companion, seven] using probe companion
    refine ⟨[off + 1] ++ List.range' off endpointSize ++ [off + 7 + 1], ?_, ?_⟩
    · intro r mem
      simp [EndpointEntry.bytes, companion, seven, endpointSize] at mem ⊢
      omega
    · simp only [companionAt, if_neg bare, EndpointEntry.bytes, EndpointEntry.record, companion,
        endpointSize, copy, Descriptor.length_bytes, seven, Option.map_none', Option.getD_none,
        List.length_append, List.length_nil, Nat.add_zero, List.append_assoc, List.singleton_append]
  | some c =>
    obtain ⟨cType, six⟩ : c.type = epCompanionType ∧ c.body.length + 2 = 6 := e.companionOk c companion
    have held : b.Holds (off + 7) c.bytes := by
      simpa [companion, seven] using holds.2
    obtain ⟨cLength, cTypeByte, cCopy⟩ := held.descriptor
    rw [six] at cLength cCopy
    refine ⟨[off + 1] ++ List.range' off endpointSize ++
      ([off + 7 + 1] ++ List.range' (off + 7) companionSize), ?_, ?_⟩
    · intro r mem
      simp [EndpointEntry.bytes, companion, seven, six, endpointSize, companionSize] at mem ⊢
      omega
    · simp only [companionAt, if_pos (cTypeByte.trans cType), cLength, EndpointEntry.bytes,
        EndpointEntry.record, companion, endpointSize, companionSize, copy, cCopy,
        Descriptor.length_bytes, seven, six, Option.map_some', Option.getD_some,
        List.length_append, List.append_assoc, Nat.add_assoc, List.singleton_append]

/-- The endpoint loop records the endpoints the buffer holds, in order. -/
theorem endpoints_entries {eps : List EndpointEntry} (holds : b.Holds off (eps.flatMap EndpointEntry.bytes))
    (probe : b.byte (off + (eps.flatMap EndpointEntry.bytes).length + 1) ≠ epCompanionType) :
    Advances (endpoints b) eps.length off (eps.flatMap EndpointEntry.bytes).length
      (eps.map EndpointEntry.record) :=
  advances_flatMap (fun _ _ _ _ holds => by rw [(EndpointEntry.header holds).1]; decide)
    (fun _ _ _ holds probe => endpoints_entry holds fun _ => probe) holds probe

theorem endpoints_probe_mem {k : Nat} (type : b.byte (off + 1) = endpointType) :
    off + (b.byte off).toNat + 1 ∈ (endpoints b (k + 1) off).reads := by
  rw [endpoints, if_pos type]
  simp only [companionAt]
  split <;> simp

end Endpoints

/-! ## Interfaces -/

/-- One interface of a set: associations before it, its descriptor, class-specific descriptors after
it, and its `n_endpoints` endpoints. -/
structure InterfaceEntry where
  associations : List Descriptor
  associationsOk : ∀ a ∈ associations, a.type = iadType ∧ a.body.length + 2 = 8
  desc : Descriptor
  interface : desc.type = interfaceType ∧ desc.body.length + 2 = interfaceSize
  classSpecific : List Descriptor
  classSpecificOk : ∀ c ∈ classSpecific,
    c.type ≠ interfaceType ∧ c.type ≠ endpointType ∧ c.type ≠ epCompanionType
  eps : List EndpointEntry
  counted : (desc.body.getD 2 0).toNat = eps.length

namespace InterfaceEntry

def bytes (i : InterfaceEntry) : List (BitVec 8) :=
  i.associations.flatMap Descriptor.bytes ++ i.desc.bytes ++ i.classSpecific.flatMap Descriptor.bytes ++
    i.eps.flatMap EndpointEntry.bytes

def record (i : InterfaceEntry) : Interface := ⟨i.desc.bytes, i.eps.map EndpointEntry.record⟩

def alternate (i : InterfaceEntry) : Nat := (i.desc.body.getD 1 0).toNat

/-- Only the descriptors the parser knows: no association before the interface, nothing before its
endpoints. -/
def Strict (i : InterfaceEntry) : Prop := i.associations = [] ∧ i.classSpecific = []

instance (i : InterfaceEntry) : Decidable i.Strict := inferInstanceAs (Decidable (_ ∧ _))

theorem bytes_strict {i : InterfaceEntry} (strict : i.Strict) :
    i.bytes = i.desc.bytes ++ i.eps.flatMap EndpointEntry.bytes := by
  simp [bytes, strict.1, strict.2]

variable {b : ConfigBuffer} {off : Nat} {i : InterfaceEntry} {ys : List (BitVec 8)}

theorem header (unassociated : i.associations = []) (holds : b.Holds off (i.bytes ++ ys)) :
    b.byte (off + 1) = interfaceType ∧ (b.byte off).toNat = interfaceSize ∧
      (b.byte (off + 4)).toNat = i.eps.length ∧ b.bytesAt off interfaceSize = i.desc.bytes ∧
      b.Holds (off + interfaceSize)
        (i.classSpecific.flatMap Descriptor.bytes ++ i.eps.flatMap EndpointEntry.bytes ++ ys) := by
  simp only [bytes, unassociated, List.flatMap_nil, List.nil_append, List.append_assoc,
    ConfigBuffer.holds_append] at holds
  obtain ⟨length, type, copy⟩ := holds.1.descriptor
  have nine : i.desc.body.length + 2 = interfaceSize := i.interface.2
  rw [nine] at length copy
  refine ⟨type.trans i.interface.1, length, ?_, copy, ?_⟩
  · rw [holds.1.byte_eq (by simp [nine, interfaceSize]), ← i.counted]
    simp [Descriptor.bytes]
  · simpa [nine, List.append_assoc, ConfigBuffer.holds_append] using holds.2

theorem first_not_companion (holds : b.Holds off (i.bytes ++ ys)) : b.byte (off + 1) ≠ epCompanionType := by
  cases associations : i.associations with
  | nil =>
    rw [(header associations holds).1]
    decide
  | cons a _ =>
    simp only [bytes, associations, List.flatMap_cons, List.append_assoc,
      ConfigBuffer.holds_append] at holds
    rw [holds.1.descriptor.2.1, (i.associationsOk a (by simp [associations])).1]
    decide

end InterfaceEntry

section Interfaces

variable {b : ConfigBuffer} {off : Nat}

/-- One turn of the interface loop over a strict interface: it records it with its endpoints and
moves past them. -/
theorem interfaces_entry {i : InterfaceEntry} (strict : i.Strict) (holds : b.Holds off i.bytes)
    (probe : b.byte (off + i.bytes.length + 1) ≠ epCompanionType) :
    Advances (interfaces b) 1 off i.bytes.length [i.record] := by
  intro k
  have held : b.Holds off (i.bytes ++ []) := by simpa using holds
  obtain ⟨type, length, count, copy, rest⟩ := InterfaceEntry.header strict.1 held
  have shape : i.bytes.length = interfaceSize + (i.eps.flatMap EndpointEntry.bytes).length := by
    simp [InterfaceEntry.bytes_strict strict, i.interface.2]
  simp only [strict.2, List.flatMap_nil, List.nil_append, List.append_nil] at rest
  rw [shape] at probe ⊢
  obtain ⟨reads, readsIn, walk⟩ := endpoints_entries rest (by simpa [Nat.add_assoc] using probe) 0
  simp only [Nat.add_zero] at walk
  refine ⟨[off + 1] ++ List.range' off interfaceSize ++ reads, ?_, ?_⟩
  · intro r mem
    simp only [List.mem_append, List.mem_singleton, List.mem_range'_1] at mem
    rcases mem with (rfl | mem) | mem
    · omega
    · omega
    · have := readsIn r mem
      omega
  · rw [Nat.add_comm 1 k, interfaces, if_pos type, count, length, walk]
    simp [endpoints, Except.map, InterfaceEntry.record, copy, Nat.add_assoc]

/-- The interface loop records the strict interfaces the buffer holds, in order. -/
theorem interfaces_entries {is : List InterfaceEntry} (strict : ∀ i ∈ is, i.Strict)
    (holds : b.Holds off (is.flatMap InterfaceEntry.bytes))
    (probe : b.byte (off + (is.flatMap InterfaceEntry.bytes).length + 1) ≠ epCompanionType) :
    Advances (interfaces b) is.length off (is.flatMap InterfaceEntry.bytes).length
      (is.map InterfaceEntry.record) :=
  advances_flatMap (fun _ _ _ _ holds => InterfaceEntry.first_not_companion holds)
    (fun i mem _ holds probe => interfaces_entry (strict i mem) holds probe) holds probe

theorem interfaces_length {k : Nat} {r : List Interface × Nat}
    (ok : (interfaces b k off).result = .ok r) : r.1.length = k := by
  induction k generalizing off r with
  | zero =>
    cases ok
    rfl
  | succ k ih =>
    rw [interfaces] at ok
    split at ok
    · dsimp only at ok
      split at ok
      · obtain ⟨r', rest, rfl⟩ := map_eq_ok ok
        simp [ih rest]
      · cases ok
    · cases ok

theorem interfaces_reads_endpoints {k : Nat} (type : b.byte (off + 1) = interfaceType) :
    (endpoints b (b.byte (off + 4)).toNat (off + (b.byte off).toNat)).reads ⊆
      (interfaces b (k + 1) off).reads := by
  intro r mem
  simp only [interfaces, if_pos type]
  split <;> simp [mem]

theorem interfaces_probe_mem {i : InterfaceEntry} {eps : List EndpointEntry} {e : EndpointEntry} {k : Nat}
    {ys : List (BitVec 8)} (strict : i.Strict) (holds : b.Holds off (i.bytes ++ ys))
    (last : i.eps = eps ++ [e]) (bare : e.companion = none) :
    off + i.bytes.length + 1 ∈ (interfaces b (k + 1) off).reads := by
  obtain ⟨type, length, count, -, rest⟩ := InterfaceEntry.header strict.1 holds
  simp only [strict.2, last, List.flatMap_nil, List.nil_append, List.flatMap_append, List.flatMap_cons,
    List.append_nil, List.append_assoc] at rest
  rw [ConfigBuffer.holds_append] at rest
  obtain ⟨eType, eLength⟩ := EndpointEntry.header rest.2
  have size : off + i.bytes.length + 1 =
      off + interfaceSize + (eps.flatMap EndpointEntry.bytes).length + endpointSize + 1 := by
    simp only [InterfaceEntry.bytes_strict strict, last, List.flatMap_append, List.flatMap_cons,
      List.flatMap_nil, List.append_nil, List.length_append, Descriptor.length_bytes, i.interface.2,
      EndpointEntry.bytes, bare, Option.map_none', Option.getD_none, e.endpoint.2]
    omega
  obtain ⟨_, -, walk⟩ := endpoints_entries rest.1 (by rw [eType]; decide) 1
  apply interfaces_reads_endpoints type
  rw [count, length, last, List.length_append, List.length_singleton, walk, size, ← eLength]
  exact List.mem_append_right _ (endpoints_probe_mem eType)

/-- The interface loop stops at the `ep.type` assertion when a class-specific descriptor precedes
the endpoints. -/
theorem interfaces_classSpecific {i : InterfaceEntry} {k : Nat} {ys : List (BitVec 8)}
    (holds : b.Holds off (i.bytes ++ ys)) (unassociated : i.associations = [])
    (specific : i.classSpecific ≠ []) (withEndpoints : i.eps ≠ []) :
    (interfaces b (k + 1) off).result = .error (.panic "ep.type == usb::descriptor_types::endpoint") := by
  obtain ⟨type, length, count, -, rest⟩ := InterfaceEntry.header unassociated holds
  obtain ⟨c, cs, specific⟩ := List.exists_cons_of_ne_nil specific
  obtain ⟨e, es, withEndpoints⟩ := List.exists_cons_of_ne_nil withEndpoints
  simp only [specific, List.flatMap_cons, List.append_assoc, ConfigBuffer.holds_append] at rest
  have other : b.byte (off + interfaceSize + 1) ≠ endpointType := by
    rw [rest.1.descriptor.2.1]
    exact (i.classSpecificOk c (by simp [specific])).2.1
  rw [interfaces, if_pos type, count, length, withEndpoints, List.length_cons]
  simp only [endpoints, if_neg other]

/-- The interface loop stops at the `interface.type` assertion after an association descriptor. -/
theorem interfaces_association {i : InterfaceEntry} {k : Nat} {ys : List (BitVec 8)}
    (holds : b.Holds off (i.bytes ++ ys)) (associated : i.associations ≠ []) :
    (interfaces b (k + 1) off).result =
      .error (.panic "interface.type == usb::descriptor_types::interface") := by
  obtain ⟨a, as, associated⟩ := List.exists_cons_of_ne_nil associated
  simp only [InterfaceEntry.bytes, associated, List.flatMap_cons, List.append_assoc,
    ConfigBuffer.holds_append] at holds
  have other : b.byte (off + 1) ≠ interfaceType := by
    rw [holds.1.descriptor.2.1, (i.associationsOk a (by simp [associated])).1]
    decide
  simp only [interfaces, if_neg other]

end Interfaces

/-! ## Configuration sets -/

/-- A configuration descriptor set: the configuration descriptor, whose `total_length` and
`n_interfaces` describe the set, then the interfaces. -/
structure ConfigSet where
  desc : Descriptor
  config : desc.type = configType ∧ desc.body.length + 2 = configSize
  interfaces : List InterfaceEntry
  total : totalLength desc.bytes = configSize + (interfaces.flatMap InterfaceEntry.bytes).length
  counted : (desc.body.getD 2 0).toNat = interfaces.countP fun i => i.alternate = 0

theorem firstDescriptor_append {xs ys : List (BitVec 8)} (nine : xs.length = configSize) :
    firstDescriptor (xs ++ ys) = xs := by
  apply List.ext_getElem
  · simp [firstDescriptor, nine]
  · intro j _ lt
    simp [firstDescriptor, List.getElem?_append_left lt, List.getElem?_eq_getElem lt]

theorem holds_configBuffer (xs : List (BitVec 8)) (heap : Nat → BitVec 8) :
    (configBuffer xs xs.length heap).Holds 0 xs := by
  apply List.ext_getElem
  · simp [ConfigBuffer.bytesAt]
  · intro j _ lt
    simp [ConfigBuffer.bytesAt, configBuffer, lt]

namespace ConfigSet

def bytes (s : ConfigSet) : List (BitVec 8) := s.desc.bytes ++ s.interfaces.flatMap InterfaceEntry.bytes

def record (s : ConfigSet) : Config := ⟨s.desc.bytes, s.interfaces.map InterfaceEntry.record⟩

def numInterfaces (s : ConfigSet) : Nat := (s.desc.body.getD 2 0).toNat

def buffer (s : ConfigSet) (heap : Nat → BitVec 8) : ConfigBuffer := configBuffer s.bytes s.bytes.length heap

variable (s : ConfigSet) (heap : Nat → BitVec 8)

theorem length_desc_bytes : s.desc.bytes.length = configSize := by
  simpa using s.config.2

theorem firstDescriptor_bytes : firstDescriptor s.bytes = s.desc.bytes :=
  firstDescriptor_append s.length_desc_bytes

theorem totalLength_bytes : totalLength (firstDescriptor s.bytes) = s.bytes.length := by
  rw [firstDescriptor_bytes, s.total, bytes, List.length_append, s.length_desc_bytes]

theorem holds_desc : (s.buffer heap).Holds 0 s.desc.bytes :=
  (ConfigBuffer.holds_append.1 (holds_configBuffer s.bytes heap)).1

/-- `get_configuration` on a set: `n_interfaces` turns of the interface loop after the configuration
descriptor. -/
theorem getConfiguration_eq :
    getConfiguration s.bytes heap =
      ⟨(Usb.interfaces (s.buffer heap) s.numInterfaces configSize).result.map
          fun r => ⟨s.desc.bytes, r.1⟩,
        List.range' 0 configSize ++ (Usb.interfaces (s.buffer heap) s.numInterfaces configSize).reads⟩ := by
  have count : ((s.buffer heap).byte 4).toNat = s.numInterfaces := by
    rw [← Nat.zero_add 4, (s.holds_desc heap).byte_eq (by simp [s.length_desc_bytes, configSize])]
    simp [Descriptor.bytes, numInterfaces]
  have copy : (s.buffer heap).bytesAt 0 configSize = s.desc.bytes := by
    simpa [ConfigBuffer.Holds, s.length_desc_bytes] using s.holds_desc heap
  have first : ((firstDescriptor s.bytes).getD 0 0).toNat = configSize := by
    rw [firstDescriptor_bytes, s.desc.toNat_getD_zero, s.config.2]
  simp only [getConfiguration, totalLength_bytes, first]
  rw [show configBuffer s.bytes s.bytes.length heap = s.buffer heap from rfl, count, copy]

theorem holds_split {pre rest : List InterfaceEntry} (split : s.interfaces = pre ++ rest) :
    (s.buffer heap).Holds configSize (pre.flatMap InterfaceEntry.bytes) ∧
      (s.buffer heap).Holds (configSize + (pre.flatMap InterfaceEntry.bytes).length)
        (rest.flatMap InterfaceEntry.bytes) := by
  have holds : (s.buffer heap).Holds 0 s.bytes := holds_configBuffer s.bytes heap
  rw [bytes, split, List.flatMap_append, ConfigBuffer.holds_append, ConfigBuffer.holds_append,
    s.length_desc_bytes, Nat.zero_add] at holds
  exact holds.2

/-- `get_configuration` records the strict interfaces `pre` that start a set, then continues after
them. -/
theorem getConfiguration_leading {pre rest : List InterfaceEntry} (split : s.interfaces = pre ++ rest)
    (strict : ∀ i ∈ pre, i.Strict) (reaches : pre.length ≤ s.numInterfaces)
    (probe : (s.buffer heap).byte (configSize + (pre.flatMap InterfaceEntry.bytes).length + 1) ≠
      epCompanionType) :
    ∃ reads, (∀ r ∈ reads, r < configSize + (pre.flatMap InterfaceEntry.bytes).length + 2) ∧
      getConfiguration s.bytes heap =
        let after := Usb.interfaces (s.buffer heap) (s.numInterfaces - pre.length)
          (configSize + (pre.flatMap InterfaceEntry.bytes).length)
        ⟨after.result.map fun r => ⟨s.desc.bytes, pre.map InterfaceEntry.record ++ r.1⟩,
          reads ++ after.reads⟩ := by
  obtain ⟨reads, readsIn, walk⟩ :=
    interfaces_entries strict (s.holds_split heap split).1 probe (s.numInterfaces - pre.length)
  rw [Nat.add_sub_cancel' reaches] at walk
  refine ⟨List.range' 0 configSize ++ reads, ?_, ?_⟩
  · intro r mem
    rcases List.mem_append.1 mem with mem | mem
    · simp only [List.mem_range'_1] at mem
      omega
    · have := readsIn r mem
      omega
  · rw [getConfiguration_eq, walk, map_map_result]
    simp only [List.append_assoc]
    rfl

end ConfigSet

end LunaVmm.Usb
