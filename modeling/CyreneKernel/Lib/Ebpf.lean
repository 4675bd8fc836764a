import Mathlib.Algebra.Ring.Nat
import Mathlib.Logic.Basic
import Mathlib.Data.List.Basic

/-!
# eBPF programs

The instructions of eBPF that a filter of accesses needs: loads of words, two operations with a
constant, jumps, and the exit.  A program reads words of a memory that it does not write.

## Main definitions

* `Insn`: an encoded instruction.
* `Machine`, `step`, `exec`: a run, for as many steps as the fuel lasts.
* `Halts`: a run exits with a result.
* `JumpsInside`: every jump of a program leads to one of its instructions.

## Main results

* `halts_of_running`, `halts_of_exited`: runs, step by step.
* `Halts.unique`: a program has one result.
* `JumpsWithin.append`, `JumpsWithin.jumpsInside`: jumps, piece by piece.
-/

namespace CyreneKernel.Lib.Ebpf

/-- An instruction; the lower half of `dstSrc` is the number of the destination register. -/
structure Insn where
  code : BitVec 8
  dstSrc : BitVec 8
  off : BitVec 16
  imm : BitVec 32
deriving DecidableEq

namespace Insn

def dst (i : Insn) : Nat := (i.dstSrc &&& 0x0f).toNat

def src (i : Insn) : Nat := (i.dstSrc >>> 4).toNat

/-- The constant of an instruction, as the operand of a 64-bit operation. -/
def operand (i : Insn) : BitVec 64 := i.imm.signExtend 64

end Insn

def ldxW : BitVec 8 := 0x61
def and64K : BitVec 8 := 0x57
def mov64K : BitVec 8 := 0xb7
def jeqK : BitVec 8 := 0x15
def ja : BitVec 8 := 0x05
def exitCode : BitVec 8 := 0x95

def Insn.isJump (i : Insn) : Bool := i.code = jeqK ∨ i.code = ja

structure Machine where
  pc : Nat
  regs : Nat → BitVec 64

namespace Machine

def next (m : Machine) : Machine := { m with pc := m.pc + 1 }

def set (m : Machine) (register : Nat) (value : BitVec 64) : Machine :=
  { m with regs := fun r => if r = register then value else m.regs r }

end Machine

inductive Outcome
  | running (m : Machine)
  | exited (result : BitVec 64)
  | fault

/-- Where a jump leads to; the offset counts from the next instruction. -/
def target (pc : Nat) (off : BitVec 16) : Int := pc + 1 + off.toInt

def jump (m : Machine) (off : BitVec 16) : Outcome :=
  if 0 ≤ target m.pc off then .running { m with pc := (target m.pc off).toNat } else .fault

/-- One instruction, in a memory that is read with `load`. -/
def step (program : List Insn) (load : BitVec 64 → Option (BitVec 32)) (m : Machine) : Outcome :=
  match program[m.pc]? with
  | none => .fault
  | some i =>
    if i.code = ldxW then
      match load (m.regs i.src + i.off.signExtend 64) with
      | none => .fault
      | some word => .running (m.next.set i.dst (word.setWidth 64))
    else if i.code = and64K then .running (m.next.set i.dst (m.regs i.dst &&& i.operand))
    else if i.code = mov64K then .running (m.next.set i.dst i.operand)
    else if i.code = jeqK then
      if m.regs i.dst = i.operand then jump m i.off else .running m.next
    else if i.code = ja then jump m i.off
    else if i.code = exitCode then .exited (m.regs 0)
    else .fault

/-- The result of a run, unless the fuel is not enough. -/
def exec (program : List Insn) (load : BitVec 64 → Option (BitVec 32)) :
    Nat → Machine → Option (BitVec 64)
  | 0, _ => none
  | fuel + 1, m =>
    match step program load m with
    | .running m => exec program load fuel m
    | .exited result => some result
    | .fault => none

/-- The run from `m` exits with `result`. -/
def Halts (program : List Insn) (load : BitVec 64 → Option (BitVec 32)) (m : Machine)
    (result : BitVec 64) : Prop :=
  ∃ fuel, exec program load fuel m = some result

def JumpsInside (program : List Insn) : Prop :=
  ∀ pc i, program[pc]? = some i → i.isJump →
    0 ≤ target pc i.off ∧ target pc i.off < program.length

/-- The jumps of a piece of code lead to its instructions, or right behind them. -/
def JumpsWithin (code : List Insn) : Prop :=
  ∀ k i, code[k]? = some i → i.isJump → 0 ≤ target k i.off ∧ target k i.off ≤ code.length

variable {program : List Insn} {load : BitVec 64 → Option (BitVec 32)} {m m' : Machine}
  {result result' : BitVec 64}

theorem halts_of_running (hstep : step program load m = .running m')
    (h : Halts program load m' result) : Halts program load m result := by
  obtain ⟨fuel, hfuel⟩ := h
  refine ⟨fuel + 1, ?_⟩
  rw [exec, hstep]
  exact hfuel

theorem halts_of_exited (hstep : step program load m = .exited result) :
    Halts program load m result :=
  ⟨1, by rw [exec, hstep]⟩

/-- More fuel does not change the result. -/
theorem exec_add {fuel : Nat} (h : exec program load fuel m = some result) (more : Nat) :
    exec program load (fuel + more) m = some result := by
  induction fuel generalizing m with
  | zero => cases h
  | succ fuel ih =>
    rw [Nat.succ_add, exec]
    rw [exec] at h
    cases hstep : step program load m with
    | running m' =>
      rw [hstep] at h
      exact ih h
    | exited _ => rwa [hstep] at h
    | fault => rw [hstep] at h; cases h

theorem Halts.unique (h : Halts program load m result) (h' : Halts program load m result') :
    result = result' := by
  obtain ⟨fuel, hfuel⟩ := h
  obtain ⟨fuel', hfuel'⟩ := h'
  have hadd := exec_add hfuel fuel'
  rw [Nat.add_comm, exec_add hfuel' fuel] at hadd
  exact (Option.some.inj hadd).symm

/-! ### Instructions -/

section Steps

variable {dstSrc : BitVec 8} {off : BitVec 16} {imm : BitVec 32}

theorem step_ldxW {word : BitVec 32} (h : program[m.pc]? = some ⟨ldxW, dstSrc, off, imm⟩)
    (hload : load (m.regs (Insn.mk ldxW dstSrc off imm).src + off.signExtend 64) = some word) :
    step program load m =
      .running (m.next.set (Insn.mk ldxW dstSrc off imm).dst (word.setWidth 64)) := by
  simp only [step, h, ↓reduceIte, hload]

theorem step_and64K (h : program[m.pc]? = some ⟨and64K, dstSrc, off, imm⟩) :
    step program load m = .running (m.next.set (Insn.mk and64K dstSrc off imm).dst
      (m.regs (Insn.mk and64K dstSrc off imm).dst &&& imm.signExtend 64)) := by
  simp [step, h, ldxW, and64K, Insn.operand]

theorem step_mov64K (h : program[m.pc]? = some ⟨mov64K, dstSrc, off, imm⟩) :
    step program load m =
      .running (m.next.set (Insn.mk mov64K dstSrc off imm).dst (imm.signExtend 64)) := by
  simp [step, h, ldxW, and64K, mov64K, Insn.operand]

theorem step_jeqK (h : program[m.pc]? = some ⟨jeqK, dstSrc, off, imm⟩) :
    step program load m =
      if m.regs (Insn.mk jeqK dstSrc off imm).dst = imm.signExtend 64 then jump m off
      else .running m.next := by
  simp only [step, h]
  rfl

theorem step_ja (h : program[m.pc]? = some ⟨ja, dstSrc, off, imm⟩) :
    step program load m = jump m off := by
  simp [step, h, ldxW, and64K, mov64K, jeqK, ja]

theorem step_exit (h : program[m.pc]? = some ⟨exitCode, dstSrc, off, imm⟩) :
    step program load m = .exited (m.regs 0) := by
  simp [step, h, ldxW, and64K, mov64K, jeqK, ja, exitCode]

/-- A jump by a small number of instructions forwards. -/
theorem jump_ofNat (m : Machine) {n : Nat} (hn : n < 2 ^ 15) :
    jump m (BitVec.ofNat 16 n) = .running { m with pc := m.pc + 1 + n } := by
  have hnat : (BitVec.ofNat 16 n).toNat = n := by
    rw [BitVec.toNat_ofNat]
    omega
  have hoff : (BitVec.ofNat 16 n).toInt = n := by
    rw [BitVec.toInt_eq_toNat_of_lt (by omega), hnat]
  have htarget : target m.pc (BitVec.ofNat 16 n) = (m.pc + 1 + n : Nat) := by
    rw [target, hoff]
    omega
  rw [jump, htarget, if_pos (by omega)]
  rfl

end Steps

/-! ### Jumps -/

theorem target_add (n k : Nat) (off : BitVec 16) : target (n + k) off = n + target k off := by
  simp only [target]
  omega

theorem JumpsWithin.append {code code' : List Insn} (h : JumpsWithin code)
    (h' : JumpsWithin code') : JumpsWithin (code ++ code') := by
  intro k i hi hjump
  rw [List.length_append]
  rcases Nat.lt_or_ge k code.length with hk | hk
  · rw [List.getElem?_append_left hk] at hi
    obtain ⟨hlow, hhigh⟩ := h k i hi hjump
    exact ⟨hlow, by omega⟩
  · obtain ⟨n, rfl⟩ := Nat.exists_eq_add_of_le hk
    rw [List.getElem?_append_right hk, Nat.add_sub_cancel_left] at hi
    obtain ⟨hlow, hhigh⟩ := h' n i hi hjump
    rw [target_add]
    exact ⟨by omega, by omega⟩

theorem JumpsWithin.flatMap {α : Type} {block : α → List Insn} (h : ∀ a, JumpsWithin (block a)) :
    ∀ l : List α, JumpsWithin (l.flatMap block)
  | [] => fun k i hi _ => by simp at hi
  | a :: l => by
    exact (h a).append (flatMap h l)

theorem jumpsWithin_of_not_isJump {code : List Insn} (h : ∀ i ∈ code, i.isJump = false) :
    JumpsWithin code := by
  intro k i hi hjump
  rw [h i (List.mem_of_getElem? hi)] at hjump
  cases hjump

/-- Jumps right behind the code are jumps to the code that follows it. -/
theorem JumpsWithin.jumpsInside {code rest : List Insn} (h : JumpsWithin code)
    (hrest : ∀ i ∈ rest, i.isJump = false) (hne : rest ≠ []) : JumpsInside (code ++ rest) := by
  intro pc i hi hjump
  have hpos := List.length_pos_iff.2 hne
  rw [List.length_append]
  rcases Nat.lt_or_ge pc code.length with hpc | hpc
  · rw [List.getElem?_append_left hpc] at hi
    obtain ⟨hlow, hhigh⟩ := h pc i hi hjump
    exact ⟨hlow, by omega⟩
  · rw [List.getElem?_append_right hpc] at hi
    rw [hrest i (List.mem_of_getElem? hi)] at hjump
    cases hjump

end CyreneKernel.Lib.Ebpf
