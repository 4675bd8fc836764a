import Mathlib.Data.List.ReduceOption
import Mathlib.Tactic.IntervalCases
import CyreneKernel.Contract.Resource
import CyreneKernel.Lib.Checks
import CyreneKernel.Lib.Ebpf

/-!
# The device filter of a control group

For a binding with hard enforcement the sandbox daemon attaches a program to the control group of
the worker, which the operating system asks about every access to a device.  The program has a block
of instructions for every device of the binding, and allows the access when a block does.

The operating system describes an access by one word, which has the number of the device type in its
lower half and the kind of access in its upper half.  The program takes the upper half for the type.

## Main results

* `filters_iff`: the answer of the program.
* `exact_iff`: when the program answers as it should.
-/

namespace CyreneKernel.Sandbox

open Lib Lib.Ebpf

/-! ### The devices of a binding -/

inductive FileType
  | charDevice
  | blockDevice
  | other
deriving DecidableEq

structure Metadata where
  fileType : FileType
  rdev : BitVec 64
deriving DecidableEq

/-- A failed system call, with the text of its error. -/
structure OsError where
  errno : Option Nat
  text : String
deriving DecidableEq

structure DeviceRule where
  kind : BitVec 32
  major : BitVec 32
  minor : BitVec 32
deriving DecidableEq

def bpfDevcgDevBlock : BitVec 32 := 1#32 <<< 16

def bpfDevcgDevChar : BitVec 32 := 2#32 <<< 16

def deviceError (reasonCode message : String) : ProviderError :=
  ⟨"linux-device-bpf", reasonCode, message⟩

/-- Why the node of a required device cannot be inspected. -/
def statFailure (error : OsError) : String × String :=
  if error.errno = some 1 ∨ error.errno = some 13 then
    ("DEVICE_NODE_PERMISSION_DENIED", "check sandboxd access to the required device node")
  else if error.errno = some 2 then
    ("DEVICE_NODE_MISSING", "the required device node does not exist")
  else
    ("DEVICE_NODE_STAT_FAILED", "the required device node could not be inspected")

def debugNumber : Option (BitVec 32) → String
  | none => "None"
  | some number => "Some(" ++ toString number.toNat ++ ")"

def majorOf (rdev : BitVec 64) : BitVec 64 := (rdev >>> 8) &&& 0x0fff

def minorOf (rdev : BitVec 64) : BitVec 64 := (rdev &&& 0xff) ||| ((rdev >>> 12) &&& 0x0fff00)

def kindOf (node : DeviceNode) (fileType : FileType) : Except ProviderError (BitVec 32) :=
  match fileType with
  | .charDevice => .ok bpfDevcgDevChar
  | .blockDevice => .ok bpfDevcgDevBlock
  | .other =>
    .error (deviceError "DEVICE_NODE_TYPE_INVALID"
      (node.path ++ ": expected a character or block device node"))

/-- The rule for a device whose node was found. -/
def ruleOf (node : DeviceNode) (metadata : Metadata) : Except ProviderError DeviceRule := do
  let kind ← kindOf node metadata.fileType
  let major := majorOf metadata.rdev
  let minor := minorOf metadata.rdev
  failIf (node.major.any (· ≠ major.setWidth 32) ∨ node.minor.any (· ≠ minor.setWidth 32))
    (deviceError "DEVICE_NODE_IDENTITY_CHANGED"
      (node.path ++ ": expected major/minor " ++ debugNumber node.major ++ "/" ++
        debugNumber node.minor ++ ", observed " ++ toString major.toNat ++ "/" ++
        toString minor.toNat))
  return ⟨kind, major.setWidth 32, minor.setWidth 32⟩

/-- The rule for a device node; a device that is not required may be missing. -/
def deviceRule (stat : String → Except OsError Metadata) (node : DeviceNode) :
    Except ProviderError (Option DeviceRule) :=
  match stat node.path with
  | .ok metadata => (ruleOf node metadata).map some
  | .error error =>
    if node.required then
      let (reasonCode, diagnosis) := statFailure error
      .error (deviceError reasonCode (node.path ++ ": " ++ diagnosis ++ ": " ++ error.text))
    else .ok none

def deviceRules (stat : String → Except OsError Metadata) (binding : DeviceBinding) :
    Except ProviderError (List DeviceRule) := do
  let devices ← binding.nodes.mapM (deviceRule stat)
  failIf (devices.reduceOption = [])
    (deviceError "DEVICE_RULES_EMPTY" "HARD binding contains no valid device nodes")
  return devices.reduceOption

/-! ### The program -/

def insn (code dst src : BitVec 8) (off : BitVec 16) (imm : BitVec 32) : Insn :=
  ⟨code, dst ||| (src <<< 4), off, imm⟩

theorem dst_insn (code dst src : BitVec 8) (off : BitVec 16) (imm : BitVec 32) :
    (insn code dst src off imm).dst = ((dst ||| (src <<< 4)) &&& 0x0f).toNat := rfl

/-- Add an instruction that leads to the next rule, with a jump that is filled in later. -/
def pushTest (program : List Insn) (register : BitVec 8) (imm : BitVec 32) : List Insn × Nat :=
  let program := program ++ [insn jeqK register 0 1 imm]
  (program ++ [insn ja 0 0 0 0], program.length)

/-- Add the instructions of a rule. -/
def pushRule (program : List Insn) (rule : DeviceRule) : List Insn :=
  let (program, skipKind) := pushTest program 4 rule.kind
  let (program, skipMajor) := pushTest program 2 rule.major
  let (program, skipMinor) := pushTest program 3 rule.minor
  let program := program ++ [insn mov64K 0 0 0 1, insn exitCode 0 0 0 0]
  let next := program.length
  [skipKind, skipMajor, skipMinor].foldl (fun program index =>
    program.modify index fun i => { i with off := BitVec.ofNat 16 (next - index - 1) }) program

def buildDeviceFilterProgram (rules : List DeviceRule) : List Insn :=
  let program :=
    [ insn ldxW 4 1 0 0
    , insn ldxW 2 1 4 0
    , insn ldxW 3 1 8 0
    , insn and64K 4 0 0 0xffff0000 ]
  rules.foldl pushRule program ++ [insn mov64K 0 0 0 0, insn exitCode 0 0 0 0]

/-! ### Accesses -/

inductive DeviceType
  | block
  | char
deriving DecidableEq

/-- The number of a device type at the interface of the operating system. -/
def DeviceType.number : DeviceType → BitVec 16
  | .block => 1
  | .char => 2

/-- The number of a device type in the rules. -/
def DeviceType.kind : DeviceType → BitVec 32
  | .block => bpfDevcgDevBlock
  | .char => bpfDevcgDevChar

theorem DeviceType.kind_injective {t t' : DeviceType} (h : t.kind = t'.kind) : t = t' := by
  revert h
  cases t <;> cases t' <;> decide

/-- An access to a device. -/
structure DeviceAccess where
  access : BitVec 16
  deviceType : DeviceType
  major : BitVec 32
  minor : BitVec 32
deriving DecidableEq

namespace DeviceAccess

/-- The word that describes the access. -/
def accessType (ctx : DeviceAccess) : BitVec 32 :=
  (ctx.access.setWidth 32 <<< 16) ||| ctx.deviceType.number.setWidth 32

/-- The memory that the program reads: the words of the access, from an address on. -/
def load (ctx : DeviceAccess) (base address : BitVec 64) : Option (BitVec 32) :=
  if address = base then some ctx.accessType
  else if address = base + 4 then some ctx.major
  else if address = base + 8 then some ctx.minor
  else none

end DeviceAccess

/-- The program answers an access with `result`, wherever its description is. -/
def Filters (rules : List DeviceRule) (ctx : DeviceAccess) (result : BitVec 64) : Prop :=
  ∀ m : Machine, m.pc = 0 →
    Halts (buildDeviceFilterProgram rules) (ctx.load (m.regs 1)) m result

/-- The rule is for the device with these numbers. -/
def DeviceRule.Numbers (rule : DeviceRule) (ctx : DeviceAccess) : Prop :=
  rule.major = ctx.major ∧ rule.minor = ctx.minor

/-- The program allows the access when a rule has the type and the numbers of the device. -/
def Exact (rules : List DeviceRule) (ctx : DeviceAccess) : Prop :=
  ((∃ rule ∈ rules, rule.kind = ctx.deviceType.kind ∧ rule.Numbers ctx) ∧ Filters rules ctx 1) ∨
    (¬ (∃ rule ∈ rules, rule.kind = ctx.deviceType.kind ∧ rule.Numbers ctx) ∧ Filters rules ctx 0)

/-! ### The text of the program -/

/-- The instructions of a rule: a test of each number, with a jump to the next rule when it
fails. -/
def ruleBlock (rule : DeviceRule) : List Insn :=
  [ insn jeqK 4 0 1 rule.kind, insn ja 0 0 6 0
  , insn jeqK 2 0 1 rule.major, insn ja 0 0 4 0
  , insn jeqK 3 0 1 rule.minor, insn ja 0 0 2 0
  , insn mov64K 0 0 0 1, insn exitCode 0 0 0 0 ]

theorem pushRule_eq (program : List Insn) (rule : DeviceRule) :
    pushRule program rule = program ++ ruleBlock rule := by
  have hmodify : ∀ (n : Nat) (f : Insn → Insn) (tail : List Insn),
      (program ++ tail).modify (program.length + n) f = program ++ tail.modify n f :=
    fun n f tail => List.modifyTailIdx_add (List.modifyHead f) n program tail
  simp only [pushRule, pushTest, List.append_assoc, List.length_append, List.length_cons,
    List.length_nil, List.foldl_cons, List.foldl_nil, Nat.add_assoc, hmodify, List.cons_append,
    List.nil_append]
  simp [ruleBlock, insn, List.modify_cons]

theorem buildDeviceFilterProgram_eq (rules : List DeviceRule) :
    buildDeviceFilterProgram rules =
      [ insn ldxW 4 1 0 0, insn ldxW 2 1 4 0, insn ldxW 3 1 8 0, insn and64K 4 0 0 0xffff0000 ] ++
        (rules.flatMap ruleBlock ++ [insn mov64K 0 0 0 0, insn exitCode 0 0 0 0]) := by
  have hfold : ∀ (rules : List DeviceRule) (program : List Insn),
      rules.foldl pushRule program = program ++ rules.flatMap ruleBlock := by
    intro rules
    induction rules with
    | nil => simp
    | cons rule rules ih =>
      intro program
      rw [List.foldl_cons, ih, pushRule_eq, List.flatMap_cons, List.append_assoc]
  rw [buildDeviceFilterProgram, hfold, List.append_assoc]

theorem getElem?_append_length_add {α : Type} (pre code : List α) (k : Nat) :
    (pre ++ code)[pre.length + k]? = code[k]? := by
  rw [List.getElem?_append_right (Nat.le_add_right _ _), Nat.add_sub_cancel_left]

/-! ### Running the program -/

section Running

variable {program pre : List Insn} {load : BitVec 64 → Option (BitVec 32)} {m : Machine}
  {result : BitVec 64}

/-- What the program compares with the numbers of a rule. -/
def matchesRule (regs : Nat → BitVec 64) (rule : DeviceRule) : Bool :=
  regs 4 = rule.kind.signExtend 64 ∧ regs 2 = rule.major.signExtend 64 ∧
    regs 3 = rule.minor.signExtend 64

/-- A test leads past its jump, or along it. -/
theorem halts_test {register : BitVec 8} {imm : BitVec 32} {n : Nat} (hn : n < 2 ^ 15)
    (htest : program[m.pc]? = some (insn jeqK register 0 1 imm))
    (hjump : program[m.pc + 1]? = some (insn ja 0 0 (BitVec.ofNat 16 n) 0))
    (h : Halts program load { m with
      pc := if m.regs (insn jeqK register 0 1 imm).dst = imm.signExtend 64 then m.pc + 2
        else m.pc + 2 + n } result) :
    Halts program load m result := by
  by_cases heq : m.regs (insn jeqK register 0 1 imm).dst = imm.signExtend 64
  · rw [if_pos heq] at h
    have hstep : step program load m = .running { m with pc := m.pc + 2 } :=
      (step_jeqK htest).trans ((if_pos heq).trans (jump_ofNat m (by decide)))
    exact halts_of_running hstep h
  · rw [if_neg heq] at h
    have hstep : step program load m = .running m.next :=
      (step_jeqK htest).trans (if_neg heq)
    refine halts_of_running hstep (halts_of_running (m := m.next) ?_ h)
    rw [step_ja hjump, jump_ofNat _ hn]
    rfl

/-- A load of a word that the first register points to. -/
theorem step_load {dst : BitVec 8} {off : BitVec 16} {word : BitVec 32} (r : Nat)
    (hfetch : program[m.pc]? = some (insn ldxW dst 1 off 0))
    (hdst : (insn ldxW dst 1 off 0).dst = r)
    (hsrc : (insn ldxW dst 1 off 0).src = 1)
    (hload : load (m.regs 1 + off.signExtend 64) = some word) :
    step program load m = .running (m.next.set r (word.setWidth 64)) := by
  have hload' : load (m.regs (insn ldxW dst 1 off 0).src + off.signExtend 64) = some word := by
    rw [hsrc, hload]
  rw [← hdst]
  exact step_ldxW hfetch hload'

/-- The instructions of a rule allow the access, or lead to what follows them. -/
theorem halts_ruleBlock {rule : DeviceRule} {rest : List Insn} (hpc : m.pc = pre.length)
    (h : matchesRule m.regs rule = false →
      Halts (pre ++ (ruleBlock rule ++ rest)) load { m with pc := pre.length + 8 } result)
    (hresult : matchesRule m.regs rule = true → result = 1) :
    Halts (pre ++ (ruleBlock rule ++ rest)) load m result := by
  have hfetch : ∀ k < 8,
      (pre ++ (ruleBlock rule ++ rest))[pre.length + k]? = (ruleBlock rule)[k]? := by
    intro k hk
    rw [getElem?_append_length_add, List.getElem?_append_left (by simpa [ruleBlock] using hk)]
  have hkind : (insn jeqK 4 0 1 rule.kind).dst = 4 := by rw [dst_insn]; decide
  have hmajor : (insn jeqK 2 0 1 rule.major).dst = 2 := by rw [dst_insn]; decide
  have hminor : (insn jeqK 3 0 1 rule.minor).dst = 3 := by rw [dst_insn]; decide
  obtain ⟨pc, regs⟩ := m
  subst hpc
  -- The three tests, then the answer.
  refine halts_test (n := 6) (by decide) (hfetch 0 (by decide)) (hfetch 1 (by decide)) ?_
  rw [hkind]
  split
  swap
  · next hne => exact h (by simp [matchesRule, hne])
  next heq =>
  refine halts_test (n := 4) (by decide) (hfetch 2 (by decide)) (hfetch 3 (by decide)) ?_
  rw [hmajor]
  split
  swap
  · next hne => exact h (by simp [matchesRule, hne])
  next heq' =>
  refine halts_test (n := 2) (by decide) (hfetch 4 (by decide)) (hfetch 5 (by decide)) ?_
  rw [hminor]
  split
  swap
  · next hne => exact h (by simp [matchesRule, hne])
  next heq'' =>
  obtain rfl := hresult (decide_eq_true ⟨heq, heq', heq''⟩)
  refine halts_of_running (step_mov64K (hfetch 6 (by decide))) (halts_of_exited ?_)
  exact step_exit (hfetch 7 (by decide))

theorem halts_rules (rules : List DeviceRule) (hpc : m.pc = pre.length) :
    Halts (pre ++ (rules.flatMap ruleBlock ++ [insn mov64K 0 0 0 0, insn exitCode 0 0 0 0])) load m
      (if rules.any (matchesRule m.regs) then 1 else 0) := by
  induction rules generalizing pre m with
  | nil =>
    obtain ⟨pc, regs⟩ := m
    subst hpc
    refine halts_of_running (step_mov64K (getElem?_append_length_add pre _ 0)) (halts_of_exited ?_)
    exact step_exit (getElem?_append_length_add pre _ 1)
  | cons rule rules ih =>
    refine halts_ruleBlock hpc (fun hno => ?_) fun hyes => by simp [hyes]
    have hnext := @ih (pre ++ ruleBlock rule) { m with pc := pre.length + 8 } (by simp [ruleBlock])
    rw [List.append_assoc] at hnext
    rwa [List.any_cons, hno, Bool.false_or]

end Running

/-! ### The answer -/

section Answer

variable {rules : List DeviceRule} {ctx : DeviceAccess} {result : BitVec 64}

/-- The registers that the tests read, after the words of the access are loaded. -/
def loaded (ctx : DeviceAccess) : Nat → BitVec 64
  | 2 => ctx.major.setWidth 64
  | 3 => ctx.minor.setWidth 64
  | 4 => ctx.accessType.setWidth 64 &&& (0xffff0000#32).signExtend 64
  | _ => 0

theorem load_base (ctx : DeviceAccess) (base : BitVec 64) :
    ctx.load base base = some ctx.accessType ∧ ctx.load base (base + 4) = some ctx.major ∧
      ctx.load base (base + 8) = some ctx.minor := by
  simp [DeviceAccess.load]

theorem halts_program (rules : List DeviceRule) (ctx : DeviceAccess) {m : Machine}
    (hpc : m.pc = 0) :
    Halts (buildDeviceFilterProgram rules) (ctx.load (m.regs 1)) m
      (if rules.any (matchesRule (loaded ctx)) then 1 else 0) := by
  obtain ⟨pc, regs⟩ := m
  subst hpc
  obtain ⟨hload, hload4, hload8⟩ := load_base ctx (regs 1)
  have h0 : regs 1 + (0 : BitVec 16).signExtend 64 = regs 1 := by simp
  rw [← h0] at hload
  rw [buildDeviceFilterProgram_eq]
  refine halts_of_running (step_load 4 rfl (by decide) (by decide) (by rwa [h0] at hload ⊢)) ?_
  refine halts_of_running (step_load 2 rfl (by decide) (by decide) hload4) ?_
  refine halts_of_running (step_load 3 rfl (by decide) (by decide) hload8) ?_
  refine halts_of_running (step_and64K rfl) ?_
  exact halts_rules rules rfl

theorem filters_iff :
    Filters rules ctx result ↔ result = if rules.any (matchesRule (loaded ctx)) then 1 else 0 := by
  constructor
  · intro h
    exact (h ⟨0, fun _ => 0⟩ rfl).unique (halts_program rules ctx rfl)
  · rintro rfl m hpc
    exact halts_program rules ctx hpc

end Answer

/-! ### Rules of a binding -/

section Bits

/-- The upper half of the word is the kind of access. -/
theorem loaded_four (ctx : DeviceAccess) : loaded ctx 4 = ctx.access.setWidth 64 <<< 16 := by
  have hmask : (0xffff0000#32).signExtend 64 = BitVec.allOnes 64 <<< 16 := by decide
  rw [loaded, hmask, DeviceAccess.accessType]
  ext i hi
  simp only [BitVec.getElem_and, BitVec.getElem_setWidth, BitVec.getLsbD_or,
    BitVec.getLsbD_shiftLeft, BitVec.getLsbD_setWidth, BitVec.getElem_shiftLeft,
    BitVec.getElem_allOnes]
  rcases Nat.lt_or_ge i 16 with hlow | hhigh
  · simp [hlow]
  · have hnumber : ctx.deviceType.number.getLsbD i = false := BitVec.getLsbD_of_ge _ i hhigh
    rcases Nat.lt_or_ge i 32 with hi32 | hi32
    · have hi16 : i - 16 < 32 := by omega
      simp [hnumber, hi32, hi16, Nat.not_lt.2 hhigh]
    · have haccess : ctx.access.getLsbD (i - 16) = false := BitVec.getLsbD_of_ge _ _ (by omega)
      simp [hnumber, haccess]

theorem shiftLeft_injective {a b : BitVec 16} (h : a.setWidth 64 <<< 16 = b.setWidth 64 <<< 16) :
    a = b := by
  have hnat := congrArg BitVec.toNat h
  simp only [BitVec.toNat_shiftLeft, BitVec.toNat_setWidth, Nat.shiftLeft_eq] at hnat
  exact BitVec.eq_of_toNat_eq (by omega)

theorem kind_signExtend (t : DeviceType) : t.kind.signExtend 64 = t.number.setWidth 64 <<< 16 := by
  cases t <;> decide

end Bits

/-- A rule that `deviceRule` makes. -/
structure DeviceRule.Made (rule : DeviceRule) : Prop where
  kind : ∃ t : DeviceType, rule.kind = t.kind
  major : rule.major.toNat < 2 ^ 12
  minor : rule.minor.toNat < 2 ^ 20

theorem majorOf_lt (rdev : BitVec 64) : (majorOf rdev).toNat < 2 ^ 12 := by
  exact Nat.lt_of_le_of_lt Nat.and_le_right (by decide)

theorem minorOf_lt (rdev : BitVec 64) : (minorOf rdev).toNat < 2 ^ 20 := by
  exact Nat.or_lt_two_pow (Nat.lt_of_le_of_lt Nat.and_le_right (by decide))
    (Nat.lt_of_le_of_lt Nat.and_le_right (by decide))

theorem toNat_setWidth_lt {number : BitVec 64} {bound : Nat} (h : number.toNat < bound) :
    (number.setWidth 32).toNat < bound := by
  exact Nat.lt_of_le_of_lt (Nat.mod_le _ _) h

theorem exists_of_kindOf {node : DeviceNode} {fileType : FileType} {kind : BitVec 32}
    (h : kindOf node fileType = .ok kind) : ∃ t : DeviceType, kind = t.kind := by
  cases fileType with
  | charDevice => exact ⟨.char, (Except.ok.inj h).symm⟩
  | blockDevice => exact ⟨.block, (Except.ok.inj h).symm⟩
  | other => cases h

theorem made_of_ruleOf {node : DeviceNode} {metadata : Metadata} {rule : DeviceRule}
    (h : ruleOf node metadata = .ok rule) : rule.Made := by
  simp only [ruleOf, except_bind_eq_ok, except_pure_eq_ok] at h
  obtain ⟨kind, hkind, -, -, rfl⟩ := h
  exact ⟨exists_of_kindOf hkind, toNat_setWidth_lt (majorOf_lt _), toNat_setWidth_lt (minorOf_lt _)⟩

theorem made_of_deviceRule {stat : String → Except OsError Metadata} {node : DeviceNode}
    {rule : DeviceRule} (h : deviceRule stat node = .ok (some rule)) : rule.Made := by
  rw [deviceRule] at h
  split at h
  · next metadata _ =>
    cases hrule : ruleOf node metadata with
    | error error => rw [hrule] at h; cases h
    | ok rule' =>
      rw [hrule] at h
      cases h
      exact made_of_ruleOf hrule
  · split at h <;> cases h

theorem made_of_deviceRules {stat : String → Except OsError Metadata} {binding : DeviceBinding}
    {rules : List DeviceRule} (h : deviceRules stat binding = .ok rules) :
    ∀ rule ∈ rules, rule.Made := by
  simp only [deviceRules, except_bind_eq_ok, except_pure_eq_ok, failIf_eq_ok] at h
  obtain ⟨devices, hdevices, -, -, rfl⟩ := h
  intro rule hrule
  rw [List.reduceOption_mem_iff] at hrule
  obtain ⟨node, -, hnode⟩ := exists_of_mem_mapM hdevices hrule
  exact made_of_deviceRule hnode

/-! ### Exactness -/

section Exactness

variable {rules : List DeviceRule} {rule : DeviceRule} {ctx : DeviceAccess}

/-- A small number is compared as it is. -/
theorem setWidth_eq_signExtend_iff {a b : BitVec 32} (hb : b.toNat < 2 ^ 31) :
    a.setWidth 64 = b.signExtend 64 ↔ b = a := by
  have hmsb : b.msb = false := by
    rw [BitVec.msb_eq_decide]
    exact decide_eq_false (by omega)
  rw [BitVec.signExtend_eq_setWidth_of_msb_false hmsb]
  constructor
  · intro h
    have hnat := congrArg BitVec.toNat h
    simp only [BitVec.toNat_setWidth] at hnat
    exact BitVec.eq_of_toNat_eq (by omega)
  · rintro rfl
    rfl

theorem matchesRule_loaded_iff (h : rule.Made) :
    matchesRule (loaded ctx) rule ↔
      rule.Numbers ctx ∧ ∃ t : DeviceType, rule.kind = t.kind ∧ ctx.access = t.number := by
  obtain ⟨⟨t, ht⟩, hmajor, hminor⟩ := h
  have hkind : loaded ctx 4 = rule.kind.signExtend 64 ↔
      ∃ t : DeviceType, rule.kind = t.kind ∧ ctx.access = t.number := by
    rw [ht, loaded_four, kind_signExtend]
    constructor
    · intro h
      exact ⟨t, rfl, shiftLeft_injective h⟩
    · rintro ⟨t', ht', haccess⟩
      rw [DeviceType.kind_injective ht', haccess]
  have hnumbers : (loaded ctx 2 = rule.major.signExtend 64 ∧
      loaded ctx 3 = rule.minor.signExtend 64) ↔ rule.Numbers ctx :=
    and_congr (setWidth_eq_signExtend_iff (by omega)) (setWidth_eq_signExtend_iff (by omega))
  rw [matchesRule, decide_eq_true_iff, hkind, hnumbers, and_comm]

theorem filters_one_iff (h : ∀ rule ∈ rules, rule.Made) :
    Filters rules ctx 1 ↔ ∃ rule ∈ rules, rule.Numbers ctx ∧
      ∃ t : DeviceType, rule.kind = t.kind ∧ ctx.access = t.number := by
  have hany : rules.any (matchesRule (loaded ctx)) = true ↔ ∃ rule ∈ rules, rule.Numbers ctx ∧
      ∃ t : DeviceType, rule.kind = t.kind ∧ ctx.access = t.number := by
    rw [List.any_eq_true]
    exact exists_congr fun rule => and_congr_right fun hrule =>
      matchesRule_loaded_iff (h rule hrule)
  rw [filters_iff, ← hany]
  split
  · next hyes => simp [hyes]
  · next hno => simp [hno]

theorem filters_zero_iff : Filters rules ctx 0 ↔ ¬ Filters rules ctx 1 := by
  rw [filters_iff, filters_iff]
  split <;> simp

theorem jumpsWithin_ruleBlock (rule : DeviceRule) : JumpsWithin (ruleBlock rule) := by
  intro k i hi hjump
  have hk : k < 8 := by
    by_contra hk
    rw [List.getElem?_eq_none (by simpa [ruleBlock] using hk)] at hi
    cases hi
  interval_cases k <;> cases hi <;> cases hjump <;> simp [target, insn, ruleBlock]

theorem jumpsInside_program (rules : List DeviceRule) :
    JumpsInside (buildDeviceFilterProgram rules) := by
  rw [buildDeviceFilterProgram_eq, ← List.append_assoc]
  refine JumpsWithin.jumpsInside (.append (jumpsWithin_of_not_isJump ?_)
    (.flatMap jumpsWithin_ruleBlock rules)) ?_ (by simp)
  · decide
  · decide

theorem exact_iff_of_made (h : ∀ rule ∈ rules, rule.Made) :
    Exact rules ctx ↔
      ((∃ rule ∈ rules, rule.Numbers ctx ∧
          ∃ t : DeviceType, rule.kind = t.kind ∧ ctx.access = t.number) ↔
        ∃ rule ∈ rules, rule.kind = ctx.deviceType.kind ∧ rule.Numbers ctx) := by
  rw [Exact, filters_zero_iff, ← filters_one_iff h]
  generalize Filters rules ctx 1 = answer
  generalize (∃ rule ∈ rules, rule.kind = ctx.deviceType.kind ∧ rule.Numbers ctx) = allowed
  by_cases hanswer : answer
  · simp [hanswer]
  · simp [hanswer]

/-- The jumps of the program lead to its instructions.  It answers an access as it should exactly
when the kind of access, read as a type, tells the rules apart as the type does. -/
theorem exact_iff {stat : String → Except OsError Metadata} {binding : DeviceBinding}
    (h : deviceRules stat binding = .ok rules) (ctx : DeviceAccess) :
    JumpsInside (buildDeviceFilterProgram rules) ∧
      (Exact rules ctx ↔
        ((∃ rule ∈ rules, rule.Numbers ctx ∧
            ∃ t : DeviceType, rule.kind = t.kind ∧ ctx.access = t.number) ↔
          ∃ rule ∈ rules, rule.kind = ctx.deviceType.kind ∧ rule.Numbers ctx)) :=
  ⟨jumpsInside_program rules, exact_iff_of_made (made_of_deviceRules h)⟩

end Exactness

/-- A binding of the first graphics card, `/dev/nvidia0`. -/
def cardBinding : DeviceBinding where
  resourceId := "gpu-0"
  nodes := [⟨"/dev/nvidia0", some 195, some 0, true⟩]
  environment := ∅
  joinableEnvironmentKeys := ∅
  requiredGids := []
  enforcement := .hard
  adapterId := "nvidia"
  reasonCode := "NVIDIA_DEVICE_NODES"

def cardStat (path : String) : Except OsError Metadata :=
  if path = "/dev/nvidia0" then .ok ⟨.charDevice, 0xc300⟩
  else .error ⟨some 2, "No such file or directory (os error 2)"⟩

def cardRule : DeviceRule := ⟨bpfDevcgDevChar, 195, 0⟩

theorem deviceRules_cardBinding : deviceRules cardStat cardBinding = .ok [cardRule] := by
  decide +kernel

/-- To open the card for reading and writing is an access that the program refuses. -/
theorem not_exact_readWrite :
    deviceRules cardStat cardBinding = .ok [cardRule] ∧
      ¬ Exact [cardRule] ⟨6, .char, 195, 0⟩ := by
  refine ⟨deviceRules_cardBinding, ?_⟩
  rw [exact_iff_of_made (made_of_deviceRules deviceRules_cardBinding)]
  intro h
  obtain ⟨rule, -, -, t, -, ht⟩ := h.2 ⟨cardRule, List.mem_cons_self, rfl, rfl, rfl⟩
  revert ht
  cases t <;> decide

/-- To read from the card is one that it allows. -/
theorem exact_read : Exact [cardRule] ⟨2, .char, 195, 0⟩ :=
  (exact_iff deviceRules_cardBinding ⟨2, .char, 195, 0⟩).2.2
    ⟨fun _ => ⟨cardRule, List.mem_cons_self, rfl, rfl, rfl⟩,
      fun _ => ⟨cardRule, List.mem_cons_self, ⟨rfl, rfl⟩, .char, rfl, rfl⟩⟩

end CyreneKernel.Sandbox
