import ImxDmaBuffer.MapState

/-!
# The ION allocator

Buffers are DMA-BUFs allocated from the i.MX version of ION.  The code differs
between kernels before 4.14 and later ones: the older ones need a user handle
and two more ioctls to get a descriptor, the later ones let the heap mask be
autodetected.  The mask found is kept in a static variable, which the model
passes in and out.
-/

namespace ImxDmaBuffer

open CallProgram

variable {w : Nat}

/-- `ImxDmaBufferIonAllocator` -/
structure IonAllocator where
  ionFd : Int
  ionFdIsInternal : Bool
  ionHeapIdMask : BitVec 32
  ionHeapFlags : BitVec 32
  ionFd_nonneg : 0 ≤ ionFd

/-- `ImxDmaBufferIonBuffer` -/
structure IonBuffer (w : Nat) extends MapState w where
  dmabufFd : Int
  physicalAddress : BitVec w
  size : BitVec w
  dmabufFd_nonneg : 0 ≤ dmabufFd

/-- `ION_HEAP_TYPE_DMA` -/
def ionHeapTypeDma : BitVec 32 := 4#32

/-- The kernel headers the library was built against have the ION interface of
kernel 4.14 and later. -/
def BuildConfig.hasIonHeapQuery (config : BuildConfig) : Prop :=
  config.linuxVersionCode ≥ kernelVersion 4 14 0

instance (config : BuildConfig) : Decidable config.hasIonHeapQuery := by
  unfold BuildConfig.hasIonHeapQuery; infer_instance

/-- The loop over the heap list, from entry `i` on with `remaining` entries to
go. Shifting by the width of the mask or more has no defined behaviour. -/
def heapIdMaskLoop (heapData : Nat → IonHeapData) (i : Nat) :
    (remaining : Nat) → (heapIdMask : BitVec 32) → Code w (BitVec 32)
  | 0, heapIdMask => pure heapIdMask
  | remaining + 1, heapIdMask =>
      if (heapData i).type = ionHeapTypeDma then
        if (heapData i).heapId.toNat < 32 then
          heapIdMaskLoop heapData (i + 1) remaining
            (heapIdMask ||| (1#32 <<< (heapData i).heapId.toNat))
        else .halt Fault.undefinedBehaviour
      else heapIdMaskLoop heapData (i + 1) remaining heapIdMask

/-- The heap list as the loop reads it: zero-initialised, then written by the
kernel. -/
def heapDataArray (written : List IonHeapData) (i : Nat) : IonHeapData :=
  written.getD i ⟨0, 0⟩

/-- `get_heap_id_mask`. The second component of the result is the value left in
the static variable. -/
def getHeapIdMask (ionFd : Int) (heapIdMask : BitVec 32) (errno : Int) (errorNonNull : Bool) :
    Code w (BitVec 32 × BitVec 32) := do
  if heapIdMask ≠ 0 then
    return (heapIdMask, heapIdMask)
  match ← perform (S := kernel w) (.ionIocHeapCount ionFd) with
  | .error e =>
      storeError errorNonNull e.code
      return (0, heapIdMask)
  | .ok cnt =>
      if cnt = 0 then
        -- The query succeeded, so errno is whatever an earlier failure left.
        storeError errorNonNull errno
        return (0, heapIdMask)
      let heapCount := cnt.toInt
      match ← perform (S := kernel w) (.ionIocHeapQuery ionFd cnt) with
      | .error e =>
          storeError errorNonNull e.code
          return (0, heapIdMask)
      | .ok written =>
          let heapIdMask ← heapIdMaskLoop (heapDataArray written) 0 heapCount.toNat heapIdMask
          return (heapIdMask, heapIdMask)

/-- `imx_dma_buffer_ion_allocate_dmabuf` on kernels from 4.14 on. -/
def ionAllocateDmabufQuery (ionFd : Int) (size : BitVec w) (ionHeapFlags : BitVec 32)
    (heapIdMask : BitVec 32) (errno : Int) (errorNonNull : Bool) :
    Code w (Int × BitVec 32) := do
  let (ionHeapIdMask, heapIdMask) ← getHeapIdMask ionFd heapIdMask errno errorNonNull
  if ionHeapIdMask = 0 then
    return (-1, heapIdMask)
  match ← perform (S := kernel w) (.ionIocAllocFd ionFd size ionHeapIdMask ionHeapFlags) with
  | .error e =>
      storeError errorNonNull e.code
      return (-1, heapIdMask)
  | .ok fd => return (fd, heapIdMask)

/-- The descriptor of a user handle, by `ION_IOC_MAP`. -/
def ionMapHandle (ionFd handle : Int) (errno : Int) (errorNonNull : Bool) : Code w Int := do
  match ← perform (S := kernel w) (.ionIocMap ionFd handle) with
  | .error e =>
      storeError errorNonNull e.code
      return -1
  | .ok fd =>
      if fd < 0 then
        -- The ioctl succeeded, so errno is whatever an earlier failure left.
        storeError errorNonNull errno
        return -1
      return fd

/-- `imx_dma_buffer_ion_allocate_dmabuf` on kernels before 4.14. -/
def ionAllocateDmabufHandle (ionFd : Int) (size alignment : BitVec w)
    (ionHeapIdMask ionHeapFlags : BitVec 32) (errno : Int) (errorNonNull : Bool) :
    Code w Int := do
  match ← perform (S := kernel w)
      (.ionIocAllocHandle ionFd size alignment ionHeapIdMask ionHeapFlags) with
  | .error e =>
      storeError errorNonNull e.code
      return -1
  | .ok handle =>
      let dmabufFd ← ionMapHandle ionFd handle errno errorNonNull
      perform (S := kernel w) (.ionIocFree ionFd handle)
      return dmabufFd

/-- `imx_dma_buffer_ion_allocate_dmabuf`. The second component of the result is
the value left in the static variable of `get_heap_id_mask`. -/
def ionAllocateDmabuf (config : BuildConfig) (ionFd : Int) (size alignment : BitVec w)
    (ionHeapIdMask ionHeapFlags : BitVec 32) (heapIdMask : BitVec 32) (errno : Int)
    (errorNonNull : Bool) : Code w (Int × BitVec 32) := do
  assertThat (0 ≤ ionFd)
  if config.hasIonHeapQuery then
    ionAllocateDmabufQuery ionFd size ionHeapFlags heapIdMask errno errorNonNull
  else
    let dmabufFd ← ionAllocateDmabufHandle ionFd size alignment ionHeapIdMask ionHeapFlags errno
      errorNonNull
    return (dmabufFd, heapIdMask)

/-- `imx_dma_buffer_ion_get_physical_address_from_dmabuf_fd` -/
def ionGetPhysicalAddressFromDmabufFd (config : BuildConfig) (ionFd dmabufFd : Int)
    (errorNonNull : Bool) : Code w (BitVec w) := do
  if config.hasIonHeapQuery then
    assertThat (0 ≤ dmabufFd)
    match ← perform (S := kernel w) (.dmaBufIoctlPhys dmabufFd) with
    | .error e =>
        storeError errorNonNull e.code
        return 0
    | .ok phys => return phys
  else
    assertThat (0 ≤ ionFd)
    match ← perform (S := kernel w) (.ionIocCustomPhysDma ionFd dmabufFd) with
    | .error e =>
        storeError errorNonNull e.code
        return 0
    | .ok phys => return phys

/-- `imx_dma_buffer_ion_allocator_destroy` -/
def ionAllocatorDestroy (allocator : IonAllocator) : Code w Unit :=
  if allocator.ionFd ≥ 0 ∧ allocator.ionFdIsInternal then
    perform (S := kernel w) (.close allocator.ionFd)
  else pure ()

/-- `imx_dma_buffer_ion_allocator_allocate` -/
def ionAllocatorAllocate (config : BuildConfig) (allocator : IonAllocator)
    (size alignment : BitVec w) (heapIdMask : BitVec 32) (ambient : Ambient)
    (errorNonNull : Bool) : Code w (Option (IonBuffer w) × BitVec 32) := do
  assertThat (allocator.ionFd ≥ 0)
  let (dmabufFd, heapIdMask) ← ionAllocateDmabuf config allocator.ionFd size alignment
    allocator.ionHeapIdMask allocator.ionHeapFlags heapIdMask ambient.errno errorNonNull
  if hfd : dmabufFd < 0 then
    return (none, heapIdMask)
  else
    let physicalAddress ← ionGetPhysicalAddressFromDmabufFd config allocator.ionFd dmabufFd
      errorNonNull
    if physicalAddress = 0 then
      perform (S := kernel w) (.close dmabufFd)
      return (none, heapIdMask)
    return (some {
      toMapState := .initial ambient
      dmabufFd := dmabufFd
      physicalAddress := physicalAddress
      size := size
      dmabufFd_nonneg := descriptor_nonneg hfd }, heapIdMask)

/-- `imx_dma_buffer_ion_allocator_map` -/
def ionAllocatorMap (buffer : IonBuffer w) (flags : BitVec 32) (errorNonNull : Bool) :
    Code w (BitVec w × IonBuffer w) := do
  assertThat (buffer.dmabufFd ≥ 0)
  let mapState ← buffer.toMapState.map ⟨buffer.size, buffer.dmabufFd, 0⟩ (normaliseZero flags)
    errorNonNull
  return (mapState.mappedVirtualAddress, { buffer with toMapState := mapState })

/-- `imx_dma_buffer_ion_allocator_unmap` -/
def ionAllocatorUnmap (buffer : IonBuffer w) : Code w (IonBuffer w) := do
  assertThat (buffer.dmabufFd ≥ 0)
  let mapState ← buffer.toMapState.unmap buffer.size
  return { buffer with toMapState := mapState }

/-- `imx_dma_buffer_ion_allocator_deallocate` -/
def ionAllocatorDeallocate (buffer : IonBuffer w) : Code w Unit := do
  assertThat (buffer.dmabufFd ≥ 0)
  if buffer.mappedVirtualAddress ≠ 0 then
    -- A refcount of 1 makes the unmap actually unmap the buffer.
    let _ ← ionAllocatorUnmap { buffer with mappingRefcount := 1 }
  perform (S := kernel w) (.close buffer.dmabufFd)

/-- `imx_dma_buffer_ion_allocator_new` -/
def ionAllocatorNew (ionFd : Int) (ionHeapIdMask ionHeapFlags : BitVec 32) (errorNonNull : Bool) :
    Code w (Option IonAllocator) :=
  if hfd : ionFd < 0 then do
    match ← perform (S := kernel w) (.openDevice "/dev/ion" .rdonly) with
    | .error e =>
        storeError errorNonNull e.code
        return none
    | .ok fd =>
        return some {
          ionFd := fd
          ionFdIsInternal := true
          ionHeapIdMask := ionHeapIdMask
          ionHeapFlags := ionHeapFlags
          ionFd_nonneg := Int.natCast_nonneg fd }
  else
    return some {
      ionFd := ionFd
      ionFdIsInternal := false
      ionHeapIdMask := ionHeapIdMask
      ionHeapFlags := ionHeapFlags
      ionFd_nonneg := descriptor_nonneg hfd }

end ImxDmaBuffer
