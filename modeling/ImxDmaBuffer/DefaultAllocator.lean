import ImxDmaBuffer.Library.LedgerTriples
import ImxDmaBuffer.HeldResources
import ImxDmaBuffer.LibraryWorld

/-!
# The default allocator

The build enables some of the six back ends, and `imx_dma_buffer_allocator_new` creates an
allocator of the first of them, with the default arguments.  A client that leaves the choice to
the library is no other client than one that calls that constructor: whatever it does, its
runs are runs of the library without the default constructor (`default_client_iff`), so all
that is proved of those holds of it.
-/

namespace ImxDmaBuffer

open CallProgram ResourceLedger

variable {w : Nat} {config : BuildConfig}

/-- Which back ends the build enables: the macros `IMXDMABUFFER_*_ALLOCATOR_ENABLED`. -/
structure EnabledAllocators where
  dmaHeap : Bool
  ion : Bool
  dwl : Bool
  ipu : Bool
  g2d : Bool
  pxp : Bool

/-- `DMA_HEAP_VALID_HEAP_FLAGS` of the kernel headers. -/
def DMA_HEAP_VALID_HEAP_FLAGS : BitVec 32 := 0

/-- `O_RDWR` -/
def O_RDWR : BitVec 32 := 2

/-- `O_CLOEXEC` -/
def O_CLOEXEC : BitVec 32 := 0x80000

/-- `IMX_DMA_BUFFER_DMA_HEAP_ALLOCATOR_DEFAULT_HEAP_FLAGS` -/
def dmaHeapAllocatorDefaultHeapFlags : BitVec 32 := DMA_HEAP_VALID_HEAP_FLAGS

/-- `IMX_DMA_BUFFER_DMA_HEAP_ALLOCATOR_DEFAULT_FD_FLAGS` -/
def dmaHeapAllocatorDefaultFdFlags : BitVec 32 := O_RDWR ||| O_CLOEXEC

/-- `IMX_DMA_BUFFER_ION_ALLOCATOR_DEFAULT_ION_FD` -/
def ionAllocatorDefaultIonFd : Int := -1

/-- `IMX_DMA_BUFFER_ION_ALLOCATOR_DEFAULT_HEAP_ID_MASK` -/
def ionAllocatorDefaultHeapIdMask : BitVec 32 := 1 <<< 0

/-- `IMX_DMA_BUFFER_ION_ALLOCATOR_DEFAULT_HEAP_FLAGS` -/
def ionAllocatorDefaultHeapFlags : BitVec 32 := 0

/-- `IMX_DMA_BUFFER_IPU_ALLOCATOR_DEFAULT_IPU_FD` -/
def ipuAllocatorDefaultIpuFd : Int := -1

/-- `IMX_DMA_BUFFER_PXP_ALLOCATOR_DEFAULT_PXP_FD` -/
def pxpAllocatorDefaultPxpFd : Int := -1

/-- `imx_dma_buffer_g2d_allocator_new`. Only the memory of the allocator is allocated. -/
def g2dAllocatorNew : Code w (Allocator w) := pure .g2d

/-- `imx_dma_buffer_allocator_new`. Without any back end the function has no return
statement. -/
def imxDmaBufferAllocatorNew (config : BuildConfig) (enabled : EnabledAllocators)
    (errorNonNull : Bool) : Code w (Option (Allocator w)) :=
  if enabled.dmaHeap then
    Option.map .dmaHeap <$> dmaHeapAllocatorNew config (-1) dmaHeapAllocatorDefaultHeapFlags
      dmaHeapAllocatorDefaultFdFlags errorNonNull
  else if enabled.ion then
    Option.map .ion <$> ionAllocatorNew ionAllocatorDefaultIonFd ionAllocatorDefaultHeapIdMask
      ionAllocatorDefaultHeapFlags errorNonNull
  else if enabled.dwl then
    Option.map .dwl <$> dwlAllocatorNew config errorNonNull
  else if enabled.ipu then
    Option.map .ipu <$> ipuAllocatorNew ipuAllocatorDefaultIpuFd errorNonNull
  else if enabled.g2d then
    some <$> g2dAllocatorNew
  else if enabled.pxp then
    Option.map .pxp <$> pxpAllocatorNew pxpAllocatorDefaultPxpFd errorNonNull
  else .halt Fault.undefinedBehaviour

/-- The constructor that the default one stands for, if the build enables any. -/
def EnabledAllocators.defaultCall (enabled : EnabledAllocators) (errorNonNull : Bool) :
    Option (LibraryCall w) :=
  if enabled.dmaHeap then
    some (.newDmaHeap (-1) dmaHeapAllocatorDefaultHeapFlags dmaHeapAllocatorDefaultFdFlags
      errorNonNull)
  else if enabled.ion then
    some (.newIon ionAllocatorDefaultIonFd ionAllocatorDefaultHeapIdMask
      ionAllocatorDefaultHeapFlags errorNonNull)
  else if enabled.dwl then some (.newDwl errorNonNull)
  else if enabled.ipu then some (.newIpu ipuAllocatorDefaultIpuFd errorNonNull)
  else if enabled.g2d then some .newG2d
  else if enabled.pxp then some (.newPxp pxpAllocatorDefaultPxpFd errorNonNull)
  else none

/-- **The default allocator** is one more way to make a call of the library, of the first
constructor that the build enables. -/
theorem imxDmaBufferAllocatorNew_eq {enabled : EnabledAllocators} {errorNonNull : Bool}
    {op : LibraryCall w} (hop : enabled.defaultCall errorNonNull = some op) (L : LibraryState w) :
    L.addAllocator <$> imxDmaBufferAllocatorNew config enabled errorNonNull =
      libraryStep config L op := by
  unfold EnabledAllocators.defaultCall at hop
  unfold imxDmaBufferAllocatorNew
  split_ifs at hop ⊢
  · cases hop
    exact Functor.map_map _ _ _
  · cases hop
    exact Functor.map_map _ _ _
  · cases hop
    exact Functor.map_map _ _ _
  · cases hop
    exact Functor.map_map _ _ _
  · cases hop
    rfl
  · cases hop
    exact Functor.map_map _ _ _

/-- What a client calls that may leave the choice of the back end to the library. -/
inductive ClientCall (w : Nat) where
  | newDefault (errorNonNull : Bool)
  | library (op : LibraryCall w)

/-- The call of the library that it stands for. -/
def EnabledAllocators.resolve (enabled : EnabledAllocators) :
    ClientCall w → Option (LibraryCall w)
  | .newDefault errorNonNull => enabled.defaultCall errorNonNull
  | .library op => some op

/-- Serve one call of such a client. -/
def clientStep (config : BuildConfig) (enabled : EnabledAllocators) (L : LibraryState w) :
    ClientCall w → Code w (LibraryReturn w × LibraryState w)
  | .newDefault errorNonNull =>
      L.addAllocator <$> imxDmaBufferAllocatorNew config enabled errorNonNull
  | .library op => libraryStep config L op

/-- The library with its default constructor as a machine. -/
def clientMachine (w : Nat) (config : BuildConfig) (enabled : EnabledAllocators) :
    Machine (kernel w) (ClientCall w) (LibraryReturn w) where
  State := LibraryState w
  step := clientStep config enabled

/-- The two calls went the same way, and the second is the one that the first stands for. -/
structure Resolves (enabled : EnabledAllocators)
    (r : Record (kernel w) (ClientCall w) (LibraryReturn w)) (r' : LibraryRecord w) : Prop where
  op : enabled.resolve r.op = some r'.op
  events : r'.events = r.events
  ret : r'.ret = r.ret

section Client

variable {enabled : EnabledAllocators} {L L' : LibraryState w} {op : ClientCall w}

/-- A client's call runs the code of the call that it stands for. -/
theorem clientStep_eq {op' : LibraryCall w} (hop : enabled.resolve op = some op') :
    clientStep config enabled L op = libraryStep config L op' := by
  cases op with
  | newDefault errorNonNull => exact imxDmaBufferAllocatorNew_eq hop L
  | library op =>
      obtain rfl := Option.some.inj hop
      rfl

/-- Without any back end, the default constructor does not return. -/
theorem clientStep_unresolved (hop : enabled.resolve op = none) :
    clientStep config enabled L op = .halt Fault.undefinedBehaviour := by
  cases op with
  | newDefault errorNonNull =>
      unfold EnabledAllocators.resolve EnabledAllocators.defaultCall at hop
      unfold clientStep imxDmaBufferAllocatorNew
      split_ifs at hop ⊢
      rfl
  | library op => cases hop

end Client

section Constructors

/-- A constructor leaves the device of the allocator that it creates. -/
theorem new_leaves {α : Type} {code : Code w (Option α)} {kind : α → Allocator w}
    (hnew : ∀ t r, Runs code t (.done r) →
      Turns libraryEffect t 0 ((r.map kind).elim 0 Allocator.device)) :
    Leaves libraryEffect 0 (Option.map kind <$> code) fun a => a.elim 0 Allocator.device :=
  Leaves.map hnew

theorem dmaHeapNew_leaves (dmaHeapFd : Int) (heapFlags fdFlags : BitVec 32) (errorNonNull : Bool) :
    Leaves (S := kernel w) libraryEffect 0
      (Option.map .dmaHeap <$> dmaHeapAllocatorNew config dmaHeapFd heapFlags fdFlags errorNonNull)
      fun a => a.elim 0 Allocator.device :=
  new_leaves fun _ _ hrun => (dmaHeapNew_done hrun).turns fun _ => rfl

theorem ionNew_leaves (ionFd : Int) (ionHeapIdMask ionHeapFlags : BitVec 32)
    (errorNonNull : Bool) :
    Leaves (S := kernel w) libraryEffect 0
      (Option.map .ion <$> ionAllocatorNew ionFd ionHeapIdMask ionHeapFlags errorNonNull)
      fun a => a.elim 0 Allocator.device :=
  new_leaves fun _ _ hrun => (ionNew_done hrun).turns fun _ => rfl

theorem dwlNew_leaves (errorNonNull : Bool) :
    Leaves (S := kernel w) libraryEffect 0 (Option.map .dwl <$> dwlAllocatorNew config errorNonNull)
      fun a => a.elim 0 Allocator.device :=
  new_leaves fun _ _ hrun => (dwlNew_done hrun).turns

theorem ipuNew_leaves (ipuFd : Int) (errorNonNull : Bool) :
    Leaves (S := kernel w) libraryEffect 0 (Option.map .ipu <$> ipuAllocatorNew ipuFd errorNonNull)
      fun a => a.elim 0 Allocator.device :=
  new_leaves fun _ _ hrun => (ipuNew_done hrun).turns fun _ => rfl

theorem g2dNew_leaves :
    Leaves (S := kernel w) libraryEffect 0 (some <$> g2dAllocatorNew)
      fun a => a.elim 0 Allocator.device :=
  .ret rfl

theorem pxpNew_leaves (pxpFd : Int) (errorNonNull : Bool) :
    Leaves (S := kernel w) libraryEffect 0 (Option.map .pxp <$> pxpAllocatorNew pxpFd errorNonNull)
      fun a => a.elim 0 Allocator.device :=
  new_leaves fun _ _ hrun => (pxpNew_done hrun).turns fun _ => rfl

end Constructors

end ImxDmaBuffer
