import Gdbserver.Foundation.Ftl
import Mathlib.Logic.Function.Basic

/-!
# The kernel seen by the server

Every call the server makes to the kernel, to launchpad or to another library
outside the repository has an answer chosen by the environment: the answer to
the `n`-th time that very call is made. What the machine holds (registers and
memory) is state, so that a successful write can be read back.
-/

set_option autoImplicit false

namespace Gdbserver

/-- `mx_koid_t`; 0 is `MX_KOID_INVALID`. -/
abbrev Koid := UInt64

/-- `mx_handle_t`; 0 is `MX_HANDLE_INVALID`. -/
abbrev Handle := UInt32

/-- `mx_status_t`; 0 is `NO_ERROR`, errors are negative. -/
abbrev Status := Int

/-- The builds of `lib/inferior-control/BUILD.gn`. -/
inductive Arch where
  | amd64
  | arm64
  | other
  deriving DecidableEq

abbrev RegisterSet := Nat → UInt64

/-- What the kernel holds for the inferior. -/
structure Kernel where
  registers : Koid → RegisterSet
  memory : UInt64 → UInt8

/-- The part of `dsoinfo_t` that is read after the list has been fetched. -/
structure Dso where
  isMainExec : Bool
  entry : UInt64
  phdr : UInt64
  phentsize : UInt32
  phnum : UInt32

structure RDebug where
  version : Int
  brk : UInt64
  map : UInt64

/-- The calls that leave the repository. Calls on a thread are kept apart by
the thread's koid. -/
inductive Call where
  | portCreate
  | listen
  | launchpadCreate
  | launchpadSetArgs
  | launchpadAddVdsoVmo
  | launchpadElfLoad
  | launchpadLoadVdso
  | launchpadGetBaseAddress
  | launchpadGetEntryAddress
  | launchpadStart
  | processKoid
  | processDebugHandle
  | bindExceptionPort
  | taskKill
  | processInfo
  | threadCount
  | threadKoids
  | threadHandle (tid : Koid)
  | threadReadState (tid : Koid)
  | threadWriteState (tid : Koid)
  | taskResume (tid : Koid)
  | readMemory
  | writeMemory
  | debugAddress
  | readRDebug
  | dsoFetchList
  | firstBucket
  | uninitialized
  deriving DecidableEq

/-- The type of the answers. `firstBucket` is the position in the map at which
`begin()` of the unordered thread map happens to point; `uninitialized` is the
stack memory one command finds in the variables it never set. -/
@[reducible] def Call.Answer : Call → Type
  | .portCreate | .bindExceptionPort | .taskKill => Status
  | .listen => Bool
  | .launchpadCreate | .launchpadSetArgs | .launchpadAddVdsoVmo => Status
  | .launchpadElfLoad | .launchpadLoadVdso => Status
  | .launchpadGetBaseAddress | .launchpadGetEntryAddress => Status × UInt64
  | .launchpadStart => Status
  | .processKoid => Status × Koid
  | .processDebugHandle => Status × Handle
  | .processInfo => Status × Int
  | .threadCount => Status × Nat
  | .threadKoids => Status × List Koid
  | .threadHandle _ | .threadReadState _ | .threadWriteState _ | .taskResume _ => Status
  | .readMemory | .writeMemory => Status
  | .debugAddress => Status
  | .readRDebug => Option RDebug
  | .dsoFetchList => List Dso
  | .firstBucket => Nat
  | .uninitialized => Nat → UInt64

/-- A heap that never hands out an address in use. Nothing is promised about
the addresses of destroyed objects. -/
structure Allocator where
  address : List Nat → Nat → Nat
  fresh : ∀ inUse time, address inUse time ∉ inUse

/-- Everything outside the repository that a run depends on. -/
structure Env where
  arch : Arch
  ftl : Ftl
  answer : (call : Call) → Nat → call.Answer
  allocator : Allocator

/-- The types of exception packets. `unrecognized` stands for the synthetic
types the server does not know. -/
inductive ExceptionType where
  | general
  | fatalPageFault
  | undefinedInstruction
  | swBreakpoint
  | hwBreakpoint
  | threadStarting
  | threadExiting
  | gone
  | unrecognized
  deriving DecidableEq

def ExceptionType.isArch : ExceptionType → Bool
  | .general | .fatalPageFault | .undefinedInstruction | .swBreakpoint | .hwBreakpoint => true
  | _ => false

/-- The part of `mx_exception_context_t` the server reads. -/
structure ExceptionContext where
  tid : Koid
  vector : UInt64
  esr : UInt32
  deriving DecidableEq

end Gdbserver
