import Gdbserver.Foundation.Bytes
import Gdbserver.Inferior.Kernel

/-!
# Architectures

`arch-*.cc` and the parts of `registers-*.cc` that work on the cached register
set alone. A register set is laid out as consecutive little-endian words.
-/

set_option autoImplicit false

namespace Gdbserver

inductive GdbSignal where
  | unsupported
  | ill
  | trap
  | emt
  | fpe
  | segv
  | urg
  | vtalrm
  | usr1
  | usr2
  deriving DecidableEq

def GdbSignal.number : GdbSignal → Int
  | .unsupported => -1
  | .ill => 4
  | .trap => 5
  | .emt => 7
  | .fpe => 8
  | .segv => 11
  | .urg => 16
  | .vtalrm => 26
  | .usr1 => 30
  | .usr2 => 31

namespace Arch

/-- The vectors of `arch-x86.h`, from `INT_DIVIDE_0` on. -/
def computeGdbSignalAmd64 (vector : Nat) : GdbSignal :=
  match vector with
  | 0 => .fpe
  | 1 => .trap
  | 2 => .urg
  | 3 => .trap
  | 4 => .fpe
  | 5 => .segv
  | 6 => .ill
  | 7 => .fpe
  | 8 => .emt
  | 9 | 10 | 11 | 12 | 13 | 14 => .segv
  | 15 => .usr1
  | 16 | 17 => .emt
  | 18 => .urg
  | 19 => .fpe
  | 20 => .vtalrm
  | 21 => .segv
  | _ => if 22 ≤ vector ∧ vector ≤ 31 then .usr1 else .usr2

/-- By exception class. The two system call classes are asserted away, so they
leave the value the variable starts with. -/
def computeGdbSignalArm64 (exceptionClass : Nat) : GdbSignal :=
  match exceptionClass with
  | 0b111000 | 0b111100 => .trap
  | 0b000111 => .fpe
  | 0b100000 | 0b100001 => .ill
  | _ => .segv

def computeGdbSignal (arch : Arch) (context : ExceptionContext) : GdbSignal :=
  match arch with
  | .amd64 => computeGdbSignalAmd64 context.vector.toNat
  | .arm64 => computeGdbSignalArm64 (context.esr >>> 26).toNat
  | .other => .unsupported

/-- Every vector stands for some signal. -/
theorem computeGdbSignalAmd64_supported (vector : Nat) :
    computeGdbSignalAmd64 vector ≠ .unsupported := by
  unfold computeGdbSignalAmd64
  split
  -- the vectors past the reserved ones come last
  on_goal 23 => split
  all_goals decide

def getPCRegisterNumber : Arch → Int
  | .amd64 => 16
  | .arm64 => 32
  | .other => -1

def getFPRegisterNumber : Arch → Int
  | .amd64 => 6
  | .arm64 => 29
  | .other => -1

def getSPRegisterNumber : Arch → Int
  | .amd64 => 7
  | .arm64 => 31
  | .other => -1

def numRegisters : Arch → Nat
  | .amd64 => 18
  | .arm64 => 34
  | .other => 0

end Arch

namespace Registers

def wordBytes (word : UInt64) : Bytes :=
  (List.range 8).map fun index => (word >>> (8 * index.toUInt64)).toUInt8

def bytesWord (bytes : Bytes) : UInt64 :=
  bytes.foldr (fun byte rest => (rest <<< 8) ||| byte.toUInt64) 0

def regsetBytes (gregs : RegisterSet) (first count : Nat) : Bytes :=
  (List.range count).flatMap fun index => wordBytes (gregs (first + index))

def overwrite (gregs : RegisterSet) (bytes : Bytes) : RegisterSet := fun regno =>
  bytesWord ((bytes.drop (8 * regno)).take 8 ++ (wordBytes (gregs regno)).drop (bytes.length - 8 * regno))

/-- `sizeof(RspArm64GeneralRegs)`: 33 words and the 32 bits of `cpsr`. -/
def rspArm64Size : Nat := 268

/-- The number of bytes `memcpy` moves between the two `r` arrays: their
element count. -/
def arm64CopiedBytes : Nat := 30

/-- `TranslateToRsp`; `stack` is what was in the local variable before. -/
def translateToRsp (gregs : RegisterSet) (stack : Nat → UInt64) : Bytes :=
  (regsetBytes gregs 0 30).take arm64CopiedBytes ++
    (regsetBytes stack 0 30).drop arm64CopiedBytes ++
    regsetBytes gregs 30 3 ++ (wordBytes (gregs 33)).take 4

def translateFromRsp (gregs : RegisterSet) (rsp : Bytes) : RegisterSet := fun regno =>
  if regno < 30 then overwrite gregs (rsp.take arm64CopiedBytes) regno
  else bytesWord ((rsp.drop (8 * regno)).take 8)

def getGeneralRegistersAsString (arch : Arch) (gregs : RegisterSet) (stack : Nat → UInt64) : Bytes :=
  match arch with
  | .amd64 => Util.encodeByteArrayString (regsetBytes gregs 0 18)
  | .arm64 => Util.encodeByteArrayString (translateToRsp gregs stack)
  | .other => []

def setGeneralRegistersFromString (arch : Arch) (gregs : RegisterSet) (value : Bytes) :
    Option RegisterSet :=
  let bytes := Util.decodeByteArrayString value
  match arch with
  | .amd64 => if bytes.length ≠ 8 * 18 then none else some (overwrite gregs bytes)
  | .arm64 => if bytes.length ≠ rspArm64Size then none else some (translateFromRsp gregs bytes)
  | .other => none

def getRegisterAsString (arch : Arch) (gregs : RegisterSet) (regno : Int) : Bytes :=
  if regno < 0 ∨ regno ≥ arch.numRegisters then []
  else
    match arch with
    | .arm64 =>
        -- `CPSR` is sent as 32 bits.
        if regno = 33 then Util.encodeByteArrayString ((wordBytes (gregs 33)).take 4)
        else Util.encodeByteArrayString (wordBytes (gregs regno.toNat))
    | _ => Util.encodeByteArrayString (wordBytes (gregs regno.toNat))

/-- `GetRegister` into a 64-bit variable. -/
def getRegister (arch : Arch) (gregs : RegisterSet) (regno : Int) : Option UInt64 :=
  if regno < 0 ∨ regno ≥ arch.numRegisters then none else some (gregs regno.toNat)

def setRegister (arch : Arch) (gregs : RegisterSet) (regno : Int) (value : Bytes) :
    Option RegisterSet :=
  if regno < 0 ∨ regno ≥ arch.numRegisters then none
  else if value.length ≠ 8 then none
  else some (Function.update gregs regno.toNat (bytesWord value))

def eflagsTFMask : UInt64 := 0x100

def setSingleStep (arch : Arch) (gregs : RegisterSet) (enable : Bool) : Option RegisterSet :=
  match arch with
  | .amd64 =>
      some (Function.update gregs 17
        (if enable then gregs 17 ||| eflagsTFMask else gregs 17 &&& ~~~ eflagsTFMask))
  | .arm64 | .other => none

def getUninitializedGeneralRegistersAsString : Arch → Bytes
  | .amd64 => List.replicate (8 * 18 * 2) (chr '0')
  | .arm64 => List.replicate (rspArm64Size * 2) (chr '0')
  | .other => []

@[simp] theorem wordBytes_length (word : UInt64) : (wordBytes word).length = 8 := by
  simp [wordBytes]

@[simp] theorem regsetBytes_length (gregs : RegisterSet) (first count : Nat) :
    (regsetBytes gregs first count).length = 8 * count := by
  simp only [regsetBytes, List.length_flatMap, wordBytes_length, List.map_const',
    List.sum_replicate_nat, List.length_range]
  exact Nat.mul_comm count 8

theorem translateToRsp_length (gregs : RegisterSet) (stack : Nat → UInt64) :
    (translateToRsp gregs stack).length = rspArm64Size := by
  simp [translateToRsp, arm64CopiedBytes, rspArm64Size]

/-- The longest register set is the one of arm64. -/
theorem getGeneralRegistersAsString_length (arch : Arch) (gregs : RegisterSet)
    (stack : Nat → UInt64) : (getGeneralRegistersAsString arch gregs stack).length ≤ 536 := by
  cases arch <;>
    simp [getGeneralRegistersAsString, translateToRsp_length, rspArm64Size]

theorem getUninitializedGeneralRegistersAsString_length (arch : Arch) :
    (getUninitializedGeneralRegistersAsString arch).length ≤ 536 := by
  cases arch with
  | amd64 => exact Nat.le_trans (Nat.le_of_eq List.length_replicate) (by decide)
  | arm64 => exact Nat.le_trans (Nat.le_of_eq List.length_replicate) (by decide)
  | other => exact Nat.zero_le _

theorem getRegisterAsString_length (arch : Arch) (gregs : RegisterSet) (regno : Int) :
    (getRegisterAsString arch gregs regno).length ≤ 16 := by
  unfold getRegisterAsString
  split
  · simp
  · cases arch with
    | arm64 =>
        dsimp only
        split <;> simp
    | amd64 => simp
    | other => simp

end Registers

end Gdbserver
