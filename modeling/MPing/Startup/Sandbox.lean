import Mathlib.Algebra.Group.Nat.Defs
import MPing.Infra.Checklist
import MPing.Net.Asio

/-!
# `CapabilityManagment` and `LandlockRuleset`

The wrappers around libcap-ng (`capability_managment.cpp`) and around the system calls of Landlock
(`landlock.hpp`, `landlock.cpp`).

Library and kernel are outside the program, and nothing is assumed of what their calls do: a call is
entered in the journal, and its answer is free (`Libcapng`, `LandlockKernel`). What is modelled is
which calls are made in which order with which arguments, and what the program makes of the answers.
`main` makes each call once at most, so one answer for each call is all there is.

The functions are all of one kind: a call, a look at its answer, an exception of their own. Each is
a `Check` with its own calls, condition and message; the constructor of `LandlockRuleset` is two.
-/

namespace MPing

open Infra

/-! ## The calls -/

/-- `capng_type_t`. -/
inductive CapngType where
  | effective
  | permitted
  | inheritable
  | boundingSet
  | ambient
deriving DecidableEq, Repr

/-- `capng_select_t`. -/
inductive CapngSelect where
  | caps
  | bounds
  | both
  | ambient
  | all
deriving DecidableEq, Repr

/-- `struct landlock_path_beneath_attr`. -/
structure PathBeneath where
  allowedAccess : UInt64
  parentFd : Int
deriving DecidableEq, Repr

/-- The calls of the two wrappers. -/
inductive OutsideCall where
  | capngHaveCapability (which : CapngType) (capability : Nat)
  | capngLock
  | capngClear (set : CapngSelect)
  | capngApply (set : CapngSelect)
  /-- `landlock_create_ruleset(nullptr, 0, LANDLOCK_CREATE_RULESET_VERSION)`. -/
  | landlockVersion
  /-- `landlock_create_ruleset(&attr, sizeof(attr), 0)`; nothing is scoped. -/
  | landlockCreateRuleset (handledAccessFs handledAccessNet : UInt64)
  /-- `landlock_add_rule` with `LANDLOCK_RULE_PATH_BENEATH`. -/
  | landlockAddRule (ruleset : Int) (rule : PathBeneath)
  | landlockRestrictSelf (ruleset : Int) (flags : UInt32)
deriving DecidableEq, Repr

abbrev OutsideAction := Journal OutsideCall Exception

/-! ## `CapabilityManagment` -/

/-- `CAP_SETPCAP`. -/
def capSetpcap : Nat := 8

/-- How libcap-ng answers. -/
structure Libcapng where
  haveCapability : CapngType → Nat → Int
  /-- What `capng_lock` returns, and `errno` after it. -/
  lock : Int × ErrorCode
  /-- What `capng_apply` returns, and `errno` after it. -/
  apply : CapngSelect → Int × ErrorCode

namespace CapabilityManagment

variable (lib : Libcapng)

def lock : OutsideAction Unit :=
  Check.perform
    { calls := [.capngLock]
      passed := lib.lock.1 = 0
      error := .systemError lib.lock.2 "Failed to lock capabilities" }

def checkForCapabilites : OutsideAction Unit :=
  Check.perform
    { calls := [.capngHaveCapability .permitted capSetpcap]
      passed := lib.haveCapability .permitted capSetpcap = 1
      error := .runtimeError "Missing CAP_SETPCAP capability" }

/-- `capng_clear` returns nothing. -/
def dropAllCapabilies : OutsideAction Unit :=
  Check.perform
    { calls := [.capngClear .all, .capngApply .all]
      passed := (lib.apply .all).1 = 0
      error := .systemError (lib.apply .all).2 "Failed to apply capabilities" }

end CapabilityManagment

/-! ## `LandlockRuleset` -/

/-- How the kernel answers. -/
structure LandlockKernel where
  version : Int
  /-- The new descriptor, or -1. -/
  createRuleset : UInt64 → UInt64 → Int
  addRule : Int → PathBeneath → Int
  restrictSelf : Int → UInt32 → Int

/-- The object holds the descriptor. -/
structure LandlockRuleset where
  ruleset : Int
deriving DecidableEq, Repr

namespace LandlockRuleset

variable (kernel : LandlockKernel)

/-- The call is entered by the constructor, the only one to ask. -/
def abiVersion : Int := kernel.version

/-- The constructor. -/
def new (handledAccessFr handledAccessNet : UInt64) : OutsideAction LandlockRuleset := do
  Check.perform
    { calls := [.landlockVersion]
      passed := ¬abiVersion kernel < 6
      error := .runtimeError "Landlock is too old." }
  let ruleset := kernel.createRuleset handledAccessFr handledAccessNet
  Check.perform
    { calls := [.landlockCreateRuleset handledAccessFr handledAccessNet]
      passed := ruleset ≠ -1
      error := .runtimeError "Failed to create landlock ruleset." }
  return { ruleset }

def addPathBeneathRule (allowedAccess : UInt64) (parentFd : Int) (this : LandlockRuleset) :
    OutsideAction Unit :=
  Check.perform
    { calls := [.landlockAddRule this.ruleset ⟨allowedAccess, parentFd⟩]
      passed := kernel.addRule this.ruleset ⟨allowedAccess, parentFd⟩ = 0
      error := .runtimeError "Failed to add rule." }

def restrictSelf (this : LandlockRuleset) : OutsideAction Unit :=
  Check.perform
    { calls := [.landlockRestrictSelf this.ruleset 0]
      passed := kernel.restrictSelf this.ruleset 0 = 0
      error := .runtimeError "Failed to restrict self via landlock." }

end LandlockRuleset

/-! ## The rights `main` handles -/

/-- The rights on files, `LANDLOCK_ACCESS_FS_…`. -/
inductive FsRight where
  | execute
  | writeFile
  | readFile
  | readDir
  | removeDir
  | removeFile
  | makeChar
  | makeDir
  | makeReg
  | makeSock
  | makeFifo
  | makeBlock
  | makeSym
  | refer
  | truncate
  | ioctlDev
deriving DecidableEq, Repr

/-- The rights on ports, `LANDLOCK_ACCESS_NET_…`. -/
inductive NetRight where
  | bindTcp
  | connectTcp
deriving DecidableEq, Repr

def FsRight.mask (r : FsRight) : UInt64 := 1 <<< UInt64.ofNat r.ctorIdx

def NetRight.mask (r : NetRight) : UInt64 := 1 <<< UInt64.ofNat r.ctorIdx

/-- The first argument of the constructor in `main`. -/
def mainAccessFs : UInt64 :=
  FsRight.execute.mask ||| FsRight.writeFile.mask ||| FsRight.readFile.mask |||
    FsRight.truncate.mask ||| FsRight.readDir.mask ||| FsRight.removeDir.mask |||
    FsRight.removeFile.mask ||| FsRight.makeChar.mask ||| FsRight.makeDir.mask |||
    FsRight.makeReg.mask ||| FsRight.makeSock.mask ||| FsRight.makeFifo.mask |||
    FsRight.makeBlock.mask ||| FsRight.makeSym.mask ||| FsRight.refer.mask

/-- The second one. -/
def mainAccessNet : UInt64 := NetRight.bindTcp.mask ||| NetRight.connectTcp.mask

/-- All the rights on files but that on the calls of devices. -/
theorem mainAccessFs_handles (r : FsRight) : mainAccessFs &&& r.mask ≠ 0 ↔ r ≠ .ioctlDev := by
  cases r <;> decide

theorem mainAccessNet_handles (r : NetRight) : mainAccessNet &&& r.mask ≠ 0 := by
  cases r <;> decide

end MPing
