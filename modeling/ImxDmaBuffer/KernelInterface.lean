import ImxDmaBuffer.Library.CallContracts

/-!
# What the library asks of the kernel and of the vendor libraries

Every system call, ioctl and vendor library function the allocators use is one
call of the signature `kernel w`, where `w` is the width of a machine word
(`size_t`, pointers and physical addresses).  An answer carries what the code
reads back: a failing system call its errno, a successful one its result.

Three calls are not kernel calls but things the statements talk about: the
store to the caller's error variable, and the two marks at which the dma-heap
allocator begins and ends a cache sync session.  `Call.isKernel` tells them
apart, and `kernelEvents` keeps the kernel's part of a trace.
-/

namespace ImxDmaBuffer

open CallProgram

/-- The errno of a failing system call. It is never zero. -/
structure Errno where
  code : Int
  ne_zero : code ≠ 0

/-- Where a successful `mmap` placed a mapping. Without `MAP_FIXED` the kernel
never places one at address 0. -/
structure MappedAddress (w : Nat) where
  address : BitVec w
  ne_null : address ≠ 0

/-- The access mode of `open`. -/
inductive OpenMode where
  | rdonly
  | rdwr
  deriving DecidableEq

/-- One entry of the heap list that `ION_IOC_HEAP_QUERY` fills in. -/
structure IonHeapData where
  type : BitVec 32
  heapId : BitVec 32

/-- The memory types of the PxP driver. -/
inductive PxpMemoryType where
  | uncached
  | wc
  | cached
  deriving DecidableEq

/-- `struct pxp_mem_desc`: the request to, and the answer of, the PxP driver. -/
structure PxpMemDesc (w : Nat) where
  handle : BitVec 32
  size : BitVec w
  physAddr : BitVec w
  mtype : PxpMemoryType
  deriving DecidableEq

/-- The decoder that a DWL instance is created for. -/
inductive DwlClientType where
  | hevcDec
  | h264Dec
  deriving DecidableEq

/-- The memory types of DWL. -/
inductive DwlMemType where
  | cpu
  | slice
  deriving DecidableEq

/-- `struct DWLLinearMem`, as `DWLMallocLinear` fills it in. -/
structure DwlLinearMem (w : Nat) where
  virtualAddress : BitVec w
  busAddress : BitVec w
  memType : DwlMemType
  deriving DecidableEq

/-- `struct g2d_buf`, as `g2d_alloc` returns it. -/
structure G2dBuf (w : Nat) where
  bufVaddr : BitVec w
  bufPaddr : BitVec w
  deriving DecidableEq

/-- The calls of the allocators. -/
inductive Call (w : Nat) where
  | openDevice (path : String) (mode : OpenMode)
  | close (fd : Int)
  | mmap (length : BitVec w) (prot : BitVec 32) (fd : Int) (offset : BitVec w)
  | munmap (address length : BitVec w)
  | dmaHeapIoctlAlloc (fd : Int) (len : BitVec w) (heapFlags fdFlags : BitVec 32)
  | dmaBufIoctlPhys (fd : Int)
  | ionIocHeapCount (fd : Int)
  | ionIocHeapQuery (fd : Int) (cnt : BitVec 32)
  | ionIocAllocFd (fd : Int) (len : BitVec w) (heapIdMask flags : BitVec 32)
  | ionIocAllocHandle (fd : Int) (len align : BitVec w) (heapIdMask flags : BitVec 32)
  | ionIocMap (fd handle : Int)
  | ionIocFree (fd handle : Int)
  | ionIocCustomPhysDma (fd dmafd : Int)
  | ipuAlloc (fd : Int) (size : BitVec w)
  | ipuFree (fd : Int) (physicalAddress : BitVec w)
  | pxpIocGetPhymem (fd : Int) (size : BitVec w) (mtype : PxpMemoryType)
  | pxpIocPutPhymem (fd : Int) (memDesc : PxpMemDesc w)
  | dwlInit (clientType : DwlClientType)
  | dwlRelease (dwlInstance : BitVec w)
  | dwlMallocLinear (dwlInstance size : BitVec w) (memType : DwlMemType)
  | dwlFreeLinear (dwlInstance : BitVec w) (mem : DwlLinearMem w)
  | g2dAlloc (size : BitVec w) (cacheable : Bool)
  | g2dFree (buf : G2dBuf w)
  | storeError (code : Int)
  | syncSessionStarts (fd : Int)
  | syncSessionStops (fd : Int)

variable {w : Nat}

/-- What each call answers. Calls whose result the code ignores, and which
report nothing the statements need, answer nothing. An ioctl answers -1 and an
errno, or what it was asked for; `PXP_IOC_GET_PHYMEM`, which the code compares
with 0 where it tests the others for being negative, answers 0 or -1 too. -/
abbrev Call.Answer : Call w → Type
  | .openDevice _ _ => Except Errno Nat
  | .mmap _ _ _ _ => Except Errno (MappedAddress w)
  | .dmaHeapIoctlAlloc _ _ _ _ => Except Errno Int
  | .dmaBufIoctlPhys _ => Except Errno (BitVec w)
  | .ionIocHeapCount _ => Except Errno (BitVec 32)
  | .ionIocHeapQuery _ _ => Except Errno (List IonHeapData)
  | .ionIocAllocFd _ _ _ _ => Except Errno Int
  | .ionIocAllocHandle _ _ _ _ _ => Except Errno Int
  | .ionIocMap _ _ => Except Errno Int
  | .ionIocCustomPhysDma _ _ => Except Errno (BitVec w)
  | .ipuAlloc _ _ => Except Errno (BitVec w)
  | .pxpIocGetPhymem _ _ _ => Except Errno (BitVec 32 × BitVec w)
  | .dwlInit _ => BitVec w
  | .dwlMallocLinear _ _ _ => Option (BitVec w × BitVec w)
  | .g2dAlloc _ _ => Option (G2dBuf w)
  | _ => Unit

/-- Why a call of the library may not return: an assertion failed, or the C
code has no defined behaviour. -/
inductive Fault where
  | assertionFailed
  | undefinedBehaviour
  deriving DecidableEq

/-- The signature of the library's environment. -/
abbrev kernel (w : Nat) : Signature := ⟨Call w, Call.Answer, Fault⟩

/-- Library code on a machine of word width `w`. -/
abbrev Code (w : Nat) (α : Type) := Prog (kernel w) α

/-- One call with its answer. -/
abbrev KEvent (w : Nat) := Event (kernel w)

/-- Whether a call leaves the library. -/
def Call.isKernel : Call w → Bool
  | .storeError _ => false
  | .syncSessionStarts _ => false
  | .syncSessionStops _ => false
  | _ => true

/-- Whether a call belongs to a cache sync session. -/
def Call.isSync : Call w → Bool
  | .dmaBufIoctlPhys _ => true
  | .syncSessionStarts _ => true
  | .syncSessionStops _ => true
  | _ => false

/-- The kernel's part of a trace. -/
def kernelEvents (t : List (KEvent w)) : List (KEvent w) :=
  t.filter (fun e => e.call.isKernel)

@[simp] theorem kernelEvents_nil : kernelEvents ([] : List (KEvent w)) = [] := rfl

@[simp] theorem kernelEvents_append (t t' : List (KEvent w)) :
    kernelEvents (t ++ t') = kernelEvents t ++ kernelEvents t' :=
  List.filter_append t t'

theorem kernelEvents_cons (e : KEvent w) (t : List (KEvent w)) :
    kernelEvents (e :: t) = if e.call.isKernel then e :: kernelEvents t else kernelEvents t := by
  simp [kernelEvents, List.filter_cons]

/-- `assert(p)`. Assertions are live in every build. -/
abbrev assertThat (p : Prop) [Decidable p] : Code w Unit := require p Fault.assertionFailed

/-- `if (error != NULL) *error = code`. -/
def storeError (errorNonNull : Bool) (code : Int) : Code w Unit :=
  if errorNonNull then perform (S := kernel w) (.storeError code) else pure ()

/-- What storing an error leaves in the trace. -/
def storeEvents (errorNonNull : Bool) (code : Int) : List (KEvent w) :=
  if errorNonNull then [⟨.storeError code, ()⟩] else []

@[simp] theorem runs_storeError_done_iff {errorNonNull : Bool} {code : Int} {t : List (KEvent w)}
    {u : Unit} : Runs (storeError errorNonNull code) t (.done u) ↔ t = storeEvents errorNonNull code := by
  unfold storeError storeEvents
  cases errorNonNull with
  | false => simp
  | true =>
      simp only [if_true, perform, runs_call_iff, runs_ret_iff]
      constructor
      · intro h
        obtain ⟨⟨⟩, _, rfl, rfl, _⟩ := h
        rfl
      · intro h
        exact ⟨(), [], h, rfl, trivial⟩

/-- Code that stores an error and returns. -/
theorem runs_storeError_return_iff {α : Type} {errorNonNull : Bool} {code : Int}
    {t : List (KEvent w)} {a b : α} :
    Runs (storeError errorNonNull code >>= fun _ => pure a) t (.done b) ↔
      t = storeEvents errorNonNull code ∧ a = b := by
  rw [runs_bind_done_iff]
  constructor
  · intro h
    obtain ⟨_, rest, _, rfl, hstore, hrest⟩ := h
    obtain rfl := runs_storeError_done_iff.mp hstore
    obtain ⟨rfl, rfl⟩ := runs_ret_done_iff.mp hrest
    exact ⟨List.append_nil _, rfl⟩
  · intro h
    obtain ⟨rfl, rfl⟩ := h
    exact ⟨_, [], (), (List.append_nil _).symm, runs_storeError_done_iff.mpr rfl, .ret a⟩

@[simp] theorem kernelEvents_storeEvents (errorNonNull : Bool) (code : Int) :
    kernelEvents (storeEvents (w := w) errorNonNull code) = [] := by
  cases errorNonNull <;> rfl

/-- Storing an error keeps every contract that allows it. -/
theorem storeError_meets {K : Contract (kernel w)} {errorNonNull : Bool} {code : Int}
    (hissues : K.issues (.storeError code)) :
    (storeError errorNonNull code).Meets K fun _ => True := by
  unfold storeError
  exact .ite (fun _ => ⟨hissues, fun _ _ => trivial⟩) (fun _ => trivial)

/-- So does storing an error and returning. -/
theorem storeError_return_meets {α : Type} {K : Contract (kernel w)} {errorNonNull : Bool}
    {code : Int} {Q : α → Prop} {a : α} (hissues : K.issues (.storeError code)) (ha : Q a) :
    (storeError errorNonNull code >>= fun _ => pure a).Meets K Q :=
  (storeError_meets hissues).bind (fun _ _ => ha)

/-- A descriptor that is not taken for a failure. -/
theorem descriptor_nonneg {fd : Int} (h : ¬ fd < 0) : 0 ≤ fd := Int.not_lt.mp h

/-- `ENOMEM` -/
def ENOMEM : Int := 12

/-- The largest value of a C `int`. -/
def INT_MAX : Int := 2147483647

/-- The smallest value of a C `int`. -/
def INT_MIN : Int := -2147483648

/-- The value of an `int` expression whose exact value is `n`: signed overflow
has no defined behaviour. -/
def intResult (n : Int) : Code w Int :=
  if INT_MIN ≤ n ∧ n ≤ INT_MAX then pure n else .halt Fault.undefinedBehaviour

@[simp] theorem runs_intResult_done_iff {n m : Int} {t : List (KEvent w)} :
    Runs (intResult n) t (.done m) ↔ (INT_MIN ≤ n ∧ n ≤ INT_MAX) ∧ t = [] ∧ m = n := by
  unfold intResult
  by_cases hrange : INT_MIN ≤ n ∧ n ≤ INT_MAX
  · simp [hrange]
  · rw [if_neg hrange]
    simp [hrange]

/-- An `int` expression keeps every contract, where overflow may stop the program. -/
theorem intResult_meets {K : Contract (kernel w)} {n : Int}
    (hstop : ¬ (INT_MIN ≤ n ∧ n ≤ INT_MAX) → K.mayStop Fault.undefinedBehaviour) :
    (intResult n).Meets K fun _ => True := by
  unfold intResult
  exact .ite (fun _ => trivial) hstop

/-- `KERNEL_VERSION(a, b, c)` -/
def kernelVersion (a b c : Nat) : Nat := a * 65536 + b * 256 + c

/-- What the build fixes: the kernel headers' `LINUX_VERSION_CODE`, and the
dma-heap settings of the build script. -/
structure BuildConfig where
  linuxVersionCode : Nat
  dmaHeapDeviceNodePath : String
  dmaHeapAllocatesUncachedMemory : Bool
  dwlClientType : DwlClientType

/-- What a call finds but does not set: the errno left by an earlier failure,
and the content of freshly allocated memory. -/
structure Ambient where
  errno : Int
  mallocMapFlags : BitVec 32

end ImxDmaBuffer
