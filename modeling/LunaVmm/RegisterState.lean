import Mathlib.Data.BitVec

/-! The normalized guest register state that crosses the backend boundary, and the C++
integer conversions that decide what the VCPU's masks do to the upper register bits. -/

namespace LunaVmm

/-- How modelled code stops instead of returning: a `PANIC` or failed `ASSERT`, or an access past a
fixed-size buffer. -/
inductive Fault where
  | panic (msg : String)
  | outOfBounds (index : Nat)
  deriving DecidableEq

/-! Modelled code that can stop is written in `Except`; its steps are taken apart with these. -/

theorem bind_eq_ok {ε α β : Type} {x : Except ε α} {f : α → Except ε β} {b : β} :
    x >>= f = .ok b ↔ ∃ a, x = .ok a ∧ f a = .ok b := by
  cases x <;> simp [bind, Except.bind]

theorem ite_throw_eq_ok {ε α : Type} {c : Prop} [Decidable c] {a r : α} {e : ε} :
    (if c then pure a else throw e : Except ε α) = .ok r ↔ c ∧ a = r := by
  by_cases h : c <;> simp [h, pure, Except.pure, throw, throwThe, MonadExceptOf.throw]

theorem bind_eq_error {ε α β : Type} {x : Except ε α} {f : α → Except ε β} {e : ε} :
    x >>= f = .error e ↔ x = .error e ∨ ∃ a, x = .ok a ∧ f a = .error e := by
  cases x <;> simp [bind, Except.bind]

/-- An `int` operand widened to `uint64_t`: the usual arithmetic conversions sign-extend it. -/
def ofInt (x : BitVec 32) : BitVec 64 := x.signExtend 64

/-- An `unsigned int` operand widened to `uint64_t`: zero extension. -/
def ofUnsigned (x : BitVec 32) : BitVec 64 := x.setWidth 64

def sizeMask (size : Nat) : BitVec 64 := BitVec.ofNat 64 (2 ^ (8 * size) - 1)

/-- Modelled from the spec (`vm.hpp`): a segment's access rights. -/
structure Attrib where
  type : BitVec 4 := 0
  s : Bool := false
  dpl : BitVec 2 := 0
  present : Bool := false
  avl : Bool := false
  l : Bool := false
  db : Bool := false
  g : Bool := false
  deriving DecidableEq

structure Segment where
  selector : BitVec 16 := 0
  base : BitVec 64 := 0
  limit : BitVec 32 := 0
  attrib : Attrib := {}
  deriving DecidableEq

structure DescriptorTable where
  base : BitVec 64 := 0
  limit : BitVec 16 := 0
  deriving DecidableEq

/-- Modelled from the spec: `vm::RegisterState` (`vm.hpp`); the defaults are the value-initialised
`regs{}`. -/
structure RegisterState where
  rax : BitVec 64 := 0
  rbx : BitVec 64 := 0
  rcx : BitVec 64 := 0
  rdx : BitVec 64 := 0
  rsi : BitVec 64 := 0
  rdi : BitVec 64 := 0
  rbp : BitVec 64 := 0
  rsp : BitVec 64 := 0
  r8 : BitVec 64 := 0
  r9 : BitVec 64 := 0
  r10 : BitVec 64 := 0
  r11 : BitVec 64 := 0
  r12 : BitVec 64 := 0
  r13 : BitVec 64 := 0
  r14 : BitVec 64 := 0
  r15 : BitVec 64 := 0
  rip : BitVec 64 := 0
  rflags : BitVec 64 := 0
  es : Segment := {}
  cs : Segment := {}
  ss : Segment := {}
  ds : Segment := {}
  fs : Segment := {}
  gs : Segment := {}
  ldtr : Segment := {}
  tr : Segment := {}
  idtr : DescriptorTable := {}
  gdtr : DescriptorTable := {}
  cr0 : BitVec 64 := 0
  cr2 : BitVec 64 := 0
  cr3 : BitVec 64 := 0
  cr4 : BitVec 64 := 0
  dr6 : BitVec 64 := 0
  dr7 : BitVec 64 := 0
  efer : BitVec 64 := 0
  deriving DecidableEq

/-- The `write_low32` lambda: `reg &= ~0xFFFF'FFFF; reg |= val;`, whose `unsigned int` complement
widens to zero. -/
def writeLow32 (reg : BitVec 64) (val : BitVec 32) : BitVec 64 :=
  (reg &&& ofUnsigned (~~~0xFFFFFFFF)) ||| val.setWidth 64

@[simp] theorem writeLow32_eq (reg : BitVec 64) (val : BitVec 32) :
    writeLow32 reg val = val.setWidth 64 := by
  simp [writeLow32, ofUnsigned]

theorem and_low32 (x : BitVec 64) :
    x &&& ofUnsigned 0xFFFFFFFF = (x.setWidth 32).setWidth 64 := by
  apply BitVec.eq_of_getLsbD_eq; intro ⟨i, hi⟩
  have low : Nat.testBit 4294967295 i = decide (i < 32) := Nat.testBit_two_pow_sub_one 32 i
  simp [ofUnsigned, BitVec.getLsbD_ofNat, low, hi, Bool.and_comm]

theorem setWidth_and_low32 (x : BitVec 64) :
    (x &&& ofUnsigned 0xFFFFFFFF).setWidth 32 = x.setWidth 32 := by
  rw [and_low32]
  apply BitVec.eq_of_getLsbD_eq; intro ⟨i, hi⟩
  simp [hi]

theorem high32_setWidth (v : BitVec 64) : ((v >>> 32).setWidth 32).setWidth 64 = v >>> 32 := by
  apply BitVec.eq_of_getLsbD_eq; intro ⟨i, hi⟩
  by_cases low : i < 32 <;> simp [low, hi]
  exact BitVec.getLsbD_ge _ _ (by omega)

end LunaVmm
