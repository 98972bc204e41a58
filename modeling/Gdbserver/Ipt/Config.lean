import Gdbserver.Foundation.Bytes
import Gdbserver.Logic.BitFields

/-!
# Configuration of the trace collector

`IptConfig` of `bin/ipt/server.h`, and what is handed to the device from it. The
control register is described by the layout of its fields.
-/

set_option autoImplicit false

namespace Gdbserver.Ipt

open Logic

/-- `IPT_MODE_CPUS` and `IPT_MODE_THREADS`. -/
inductive Mode where
  | cpus
  | threads
  deriving DecidableEq, Repr

inductive AddrFilter where
  | off
  | enable
  | stop
  deriving DecidableEq, Repr

/-- The values of the enumeration. -/
def AddrFilter.toUInt64 : AddrFilter → UInt64
  | .off => 0
  | .enable => 1
  | .stop => 2

/-- `elf` is empty if there is none. -/
structure AddrRange where
  elf : Bytes
  beginAddr : UInt64
  endAddr : UInt64
  deriving DecidableEq, Repr

structure IptConfig where
  mode : Mode
  numCpus : UInt32
  numBuffers : UInt64
  bufferOrder : UInt64
  isCircular : Bool
  addr : Fin 2 → AddrFilter
  addrRange : Fin 2 → AddrRange
  branch : Bool
  cr3Match : UInt64
  cr3MatchSet : Bool
  cyc : Bool
  cycThresh : UInt32
  mtc : Bool
  mtcFreq : UInt32
  psbFreq : UInt32
  os : Bool
  user : Bool
  retc : Bool
  tsc : Bool
  outputPathPrefix : Bytes

/-- The indices of the two filters. -/
def addr0 : Fin 2 := 0

def addr1 : Fin 2 := 1

namespace IptConfig

/-- The constructor. It leaves the addresses of the ranges as the memory was. -/
def new (numCpus : UInt32) (memory : Fin 2 → UInt64 × UInt64) : IptConfig where
  mode := .cpus
  numCpus := numCpus
  numBuffers := 16
  bufferOrder := 2
  isCircular := false
  addr := fun _ => .off
  addrRange := fun index => ⟨[], (memory index).1, (memory index).2⟩
  branch := true
  cr3Match := 0
  cr3MatchSet := false
  cyc := false
  cycThresh := 0
  mtc := false
  mtcFreq := 0
  psbFreq := 0
  os := true
  user := true
  retc := true
  tsc := true
  outputPathPrefix := ascii "/tmp/ptout"

/-- `if (condition) msr |= 1 << offset` -/
def flagBit (condition : Bool) (offset : UInt64) : UInt64 := if condition then 1 <<< offset else 0

/-- The value to write to the CTL MSR. -/
def ctlMsr (config : IptConfig) : UInt64 :=
  (0 : UInt64) ||| flagBit config.cyc 1 ||| flagBit config.os 2 ||| flagBit config.user 3
    ||| flagBit (config.cr3Match != 0) 7 ||| flagBit config.mtc 9 ||| flagBit config.tsc 10
    ||| flagBit (!config.retc) 11 ||| flagBit config.branch 13
    ||| ((config.mtcFreq &&& 15) <<< 14).toUInt64
    ||| ((config.cycThresh &&& 15) <<< 19).toUInt64
    ||| ((config.psbFreq &&& 15) <<< 24).toUInt64
    ||| (config.addr addr0).toUInt64 <<< 32
    ||| (config.addr addr1).toUInt64 <<< 36

def addrBegin (config : IptConfig) (index : Fin 2) : UInt64 := (config.addrRange index).beginAddr

def addrEnd (config : IptConfig) (index : Fin 2) : UInt64 := (config.addrRange index).endAddr

end IptConfig

/-- `ioctl_ipt_buffer_config_t` of the device. -/
structure BufferConfig where
  numBuffers : UInt32
  bufferOrder : UInt32
  isCircular : Bool
  ctl : UInt64
  cr3Match : UInt64
  addrRanges : Fin 2 → UInt64 × UInt64

def initIptBufferConfig (config : IptConfig) : BufferConfig where
  numBuffers := config.numBuffers.toUInt32
  bufferOrder := config.bufferOrder.toUInt32
  isCircular := config.isCircular
  ctl := config.ctlMsr
  cr3Match := config.cr3Match
  addrRanges := fun index => (config.addrBegin index, config.addrEnd index)

/-! ## The control register -/

namespace IptConfig

variable (config : IptConfig)

/-- The fields of the register, from the lowest bit on as the encoder writes them. -/
def registerFields : List BitField :=
  [⟨1, 1, config.cyc.toNat⟩, ⟨2, 1, config.os.toNat⟩, ⟨3, 1, config.user.toNat⟩,
    ⟨7, 1, (config.cr3Match != 0).toNat⟩, ⟨9, 1, config.mtc.toNat⟩, ⟨10, 1, config.tsc.toNat⟩,
    ⟨11, 1, (!config.retc).toNat⟩, ⟨13, 1, config.branch.toNat⟩,
    ⟨14, 4, config.mtcFreq.toNat⟩, ⟨19, 4, config.cycThresh.toNat⟩,
    ⟨24, 4, config.psbFreq.toNat⟩, ⟨32, 4, (config.addr addr0).toUInt64.toNat⟩,
    ⟨36, 4, (config.addr addr1).toUInt64.toNat⟩]

theorem registerFields_apart : config.registerFields.Pairwise BitField.Apart := by
  simp [registerFields, BitField.Apart]

theorem toNat_freq (value : UInt32) {offset : UInt32} (low : offset.toNat < 28) :
    (((value &&& 15) <<< offset).toUInt64).toNat = (value.toNat % 2 ^ 4) <<< offset.toNat := by
  have masked : (value &&& 15).toNat = value.toNat % 2 ^ 4 := by
    rw [UInt32.toNat_and]
    exact Nat.and_two_pow_sub_one_eq_mod value.toNat 4
  have small : (value.toNat % 2 ^ 4) <<< offset.toNat < 2 ^ 32 := by
    have digit : value.toNat % 2 ^ 4 < 2 ^ 4 := Nat.mod_lt _ (by decide)
    calc (value.toNat % 2 ^ 4) <<< offset.toNat
        < 2 ^ 4 <<< offset.toNat := by
          rw [Nat.shiftLeft_eq, Nat.shiftLeft_eq]
          exact Nat.mul_lt_mul_of_pos_right digit (Nat.two_pow_pos _)
      _ = 2 ^ (4 + offset.toNat) := by rw [Nat.shiftLeft_eq, Nat.pow_add]
      _ ≤ 2 ^ 32 := Nat.pow_le_pow_right (by decide) (by omega)
  rw [UInt32.toNat_toUInt64, UInt32.toNat_shiftLeft, masked,
    Nat.mod_eq_of_lt (Nat.lt_trans low (by decide)), Nat.mod_eq_of_lt small]

theorem toNat_addr (filter : AddrFilter) {offset : UInt64} (low : offset = 32 ∨ offset = 36) :
    (filter.toUInt64 <<< offset).toNat = (filter.toUInt64.toNat % 2 ^ 4) <<< offset.toNat := by
  rcases low with rfl | rfl <;> cases filter <;> rfl

theorem toNat_flagBit (condition : Bool) {offset : UInt64} (low : offset.toNat < 64) :
    (flagBit condition offset).toNat = (condition.toNat % 2 ^ 1) <<< offset.toNat := by
  cases condition with
  | false => simp [flagBit]
  | true =>
      have bit : (1 : Nat) <<< offset.toNat < 2 ^ 64 := by
        rw [Nat.one_shiftLeft]
        exact Nat.pow_lt_pow_right (by decide) low
      rw [flagBit, if_pos rfl, UInt64.toNat_shiftLeft, Nat.mod_eq_of_lt low]
      exact Nat.mod_eq_of_lt bit

/-- The encoder puts every field in its place. -/
theorem toNat_ctlMsr : config.ctlMsr.toNat = BitField.packed config.registerFields := by
  have flag {condition : Bool} {offset : UInt64} (low : offset.toNat < 64) :=
    toNat_flagBit condition low
  have freq {value offset : UInt32} (low : offset.toNat < 28) := toNat_freq value low
  rw [ctlMsr]
  simp only [UInt64.toNat_or, registerFields, BitField.packed, List.foldl_cons, List.foldl_nil,
    BitField.placed]
  rw [flag (by decide), flag (by decide), flag (by decide), flag (by decide), flag (by decide),
    flag (by decide), flag (by decide), flag (by decide), freq (by decide), freq (by decide),
    freq (by decide), toNat_addr _ (.inl rfl), toNat_addr _ (.inr rfl)]
  rfl

end IptConfig

end Gdbserver.Ipt
