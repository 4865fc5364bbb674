import ImxDmaBuffer.MapState

/-!
# The dma-heap allocator

Buffers are DMA-BUFs allocated from a dma-heap.  This is the only allocator
whose memory may be cached, so mapping, unmapping and deallocating also begin
and end cache sync sessions.  As the source is configured, a session's start
and stop issue `DMA_BUF_IOCTL_PHYS` as a workaround; the `DMA_BUF_IOCTL_SYNC`
variant is compiled out.
-/

namespace ImxDmaBuffer

open CallProgram

variable {w : Nat}

/-- `ImxDmaBufferDmaHeapAllocator`. Caching is recorded twice, in `isCached`
and in the vtable entries, and the two always agree. -/
structure DmaHeapAllocator where
  dmaHeapFd : Int
  dmaHeapFdIsInternal : Bool
  heapFlags : BitVec 32
  fdFlags : BitVec 32
  isCached : Bool
  syncVfuncs : SyncVfuncs
  dmaHeapFd_nonneg : 0 ≤ dmaHeapFd
  syncVfuncs_eq : syncVfuncs = if isCached then .dmaHeap else .noop

/-- The descriptors of the allocator that are not 0 are positive. -/
theorem DmaHeapAllocator.dmaHeapFd_pos {a : DmaHeapAllocator} (h : a.dmaHeapFd ≠ 0) :
    0 < a.dmaHeapFd := by
  have hnonneg := a.dmaHeapFd_nonneg
  omega

/-- `ImxDmaBufferDmaHeapBuffer` -/
structure DmaHeapBuffer (w : Nat) extends MapState w where
  dmabufFd : Int
  physicalAddress : BitVec w
  size : BitVec w
  syncStarted : Bool
  dmabufFd_pos : 0 < dmabufFd

/-- `imx_dma_buffer_dma_heap_allocate_dmabuf` -/
def dmaHeapAllocateDmabuf (dmaHeapFd : Int) (size : BitVec w) (heapFlags fdFlags : BitVec 32)
    (errorNonNull : Bool) : Code w Int := do
  assertThat (dmaHeapFd > 0)
  assertThat (size > 0)
  match ← perform (S := kernel w) (.dmaHeapIoctlAlloc dmaHeapFd size heapFlags fdFlags) with
  | .error errno =>
      storeError errorNonNull errno.code
      return -1
  | .ok fd => return fd

/-- `imx_dma_buffer_dma_heap_get_physical_address_from_dmabuf_fd`. The proof
that the descriptor passed the assertion is handed on to the caller. -/
def dmaHeapGetPhysicalAddressFromDmabufFd (dmabufFd : Int) (errorNonNull : Bool) :
    Code w (BitVec w × PLift (0 < dmabufFd)) :=
  if hpos : 0 < dmabufFd then do
    match ← perform (S := kernel w) (.dmaBufIoctlPhys dmabufFd) with
    | .error errno =>
        storeError errorNonNull errno.code
        return (0, ⟨hpos⟩)
    | .ok phys => return (phys, ⟨hpos⟩)
  else .halt Fault.assertionFailed

/-- `imx_dma_buffer_dma_heap_allocator_destroy` -/
def dmaHeapAllocatorDestroy (allocator : DmaHeapAllocator) : Code w Unit :=
  if allocator.dmaHeapFd > 0 ∧ allocator.dmaHeapFdIsInternal then
    perform (S := kernel w) (.close allocator.dmaHeapFd)
  else pure ()

/-- `imx_dma_buffer_dma_heap_allocator_allocate` -/
def dmaHeapAllocatorAllocate (allocator : DmaHeapAllocator) (size _alignment : BitVec w)
    (ambient : Ambient) (errorNonNull : Bool) : Code w (Option (DmaHeapBuffer w)) := do
  assertThat (allocator.dmaHeapFd > 0)
  let dmabufFd ← dmaHeapAllocateDmabuf allocator.dmaHeapFd size allocator.heapFlags
    allocator.fdFlags errorNonNull
  if dmabufFd < 0 then
    return none
  let (physicalAddress, ⟨hpos⟩) ← dmaHeapGetPhysicalAddressFromDmabufFd dmabufFd errorNonNull
  if physicalAddress = 0 then
    perform (S := kernel w) (.close dmabufFd)
    return none
  return some {
    toMapState := .initial ambient
    dmabufFd := dmabufFd
    physicalAddress := physicalAddress
    size := size
    syncStarted := false
    dmabufFd_pos := hpos }

/-- `imx_dma_buffer_dma_heap_allocator_start_sync_session_impl` -/
def dmaHeapAllocatorStartSyncSessionImpl (buffer : DmaHeapBuffer w) : Code w (DmaHeapBuffer w) := do
  perform (S := kernel w) (.syncSessionStarts buffer.dmabufFd)
  if reads buffer.mapFlags then
    -- Forces the CPU cache to be repopulated; the answer is not looked at.
    let _ ← perform (S := kernel w) (.dmaBufIoctlPhys buffer.dmabufFd)
  return { buffer with syncStarted := true }

/-- `imx_dma_buffer_dma_heap_allocator_stop_sync_session_impl` -/
def dmaHeapAllocatorStopSyncSessionImpl (buffer : DmaHeapBuffer w) : Code w (DmaHeapBuffer w) := do
  perform (S := kernel w) (.syncSessionStops buffer.dmabufFd)
  if writes buffer.mapFlags then
    -- Forces the CPU cache to be written back; the answer is not looked at.
    let _ ← perform (S := kernel w) (.dmaBufIoctlPhys buffer.dmabufFd)
  return { buffer with syncStarted := false }

/-- `imx_dma_buffer_dma_heap_allocator_start_sync_session` -/
def dmaHeapAllocatorStartSyncSession (buffer : DmaHeapBuffer w) : Code w (DmaHeapBuffer w) := do
  if buffer.syncStarted then
    return buffer
  if ¬ manualSync buffer.mapFlags then
    return buffer
  dmaHeapAllocatorStartSyncSessionImpl buffer

/-- `imx_dma_buffer_dma_heap_allocator_stop_sync_session` -/
def dmaHeapAllocatorStopSyncSession (buffer : DmaHeapBuffer w) : Code w (DmaHeapBuffer w) := do
  assertThat (buffer.mappedVirtualAddress ≠ 0)
  if ¬ buffer.syncStarted then
    return buffer
  if ¬ manualSync buffer.mapFlags then
    return buffer
  dmaHeapAllocatorStopSyncSessionImpl buffer

/-- `imx_dma_buffer_dma_heap_allocator_map` -/
def dmaHeapAllocatorMap (allocator : DmaHeapAllocator) (buffer : DmaHeapBuffer w)
    (flags : BitVec 32) (errorNonNull : Bool) : Code w (BitVec w × DmaHeapBuffer w) := do
  assertThat (buffer.dmabufFd > 0)
  let flags := normaliseReadwriteAbsent flags
  if buffer.mappedVirtualAddress ≠ 0 then
    let mapState ← buffer.toMapState.redundantMap flags
    return (mapState.mappedVirtualAddress, { buffer with toMapState := mapState })
  else
    let mapState ← buffer.toMapState.freshMap ⟨buffer.size, buffer.dmabufFd, 0⟩ flags errorNonNull
    let buffer := { buffer with toMapState := mapState }
    -- Reached whether or not the mmap succeeded.
    let buffer ← if allocator.isCached && !manualSync flags then
        dmaHeapAllocatorStartSyncSessionImpl buffer
      else pure buffer
    return (buffer.mappedVirtualAddress, buffer)

/-- `imx_dma_buffer_dma_heap_allocator_unmap` -/
def dmaHeapAllocatorUnmap (allocator : DmaHeapAllocator) (buffer : DmaHeapBuffer w) :
    Code w (DmaHeapBuffer w) := do
  assertThat (buffer.dmabufFd > 0)
  if buffer.mappedVirtualAddress = 0 then
    return buffer
  let mappingRefcount ← intResult (buffer.mappingRefcount - 1)
  let buffer := { buffer with mappingRefcount := mappingRefcount }
  if mappingRefcount ≠ 0 then
    return buffer
  let buffer ← if allocator.isCached && !manualSync buffer.mapFlags then
      dmaHeapAllocatorStopSyncSessionImpl buffer
    else pure buffer
  perform (S := kernel w) (.munmap buffer.mappedVirtualAddress buffer.size)
  return { buffer with mappedVirtualAddress := 0 }

/-- `imx_dma_buffer_dma_heap_allocator_deallocate` -/
def dmaHeapAllocatorDeallocate (allocator : DmaHeapAllocator) (buffer : DmaHeapBuffer w) :
    Code w Unit := do
  assertThat (buffer.dmabufFd > 0)
  if buffer.mappedVirtualAddress ≠ 0 then
    let buffer ← dmaHeapAllocatorStopSyncSession buffer
    -- A refcount of 1 makes the unmap below actually unmap the buffer.
    let _ ← dmaHeapAllocatorUnmap allocator { buffer with mappingRefcount := 1 }
  perform (S := kernel w) (.close buffer.dmabufFd)

/-- `imx_dma_buffer_dma_heap_allocator_new` -/
def dmaHeapAllocatorNew (config : BuildConfig) (dmaHeapFd : Int) (heapFlags fdFlags : BitVec 32)
    (errorNonNull : Bool) : Code w (Option DmaHeapAllocator) :=
  let isCached := !config.dmaHeapAllocatesUncachedMemory
  let syncVfuncs := if config.dmaHeapAllocatesUncachedMemory then .noop else .dmaHeap
  have hvfuncs : syncVfuncs = if isCached then SyncVfuncs.dmaHeap else .noop := by
    cases h : config.dmaHeapAllocatesUncachedMemory <;> simp [isCached, syncVfuncs, h]
  if hfd : dmaHeapFd < 0 then do
    match ← perform (S := kernel w) (.openDevice config.dmaHeapDeviceNodePath .rdwr) with
    | .error errno =>
        storeError errorNonNull errno.code
        return none
    | .ok fd =>
        return some {
          dmaHeapFd := fd
          dmaHeapFdIsInternal := true
          heapFlags := heapFlags
          fdFlags := fdFlags
          isCached := isCached
          syncVfuncs := syncVfuncs
          dmaHeapFd_nonneg := Int.natCast_nonneg fd
          syncVfuncs_eq := hvfuncs }
  else
    return some {
      dmaHeapFd := dmaHeapFd
      dmaHeapFdIsInternal := false
      heapFlags := heapFlags
      fdFlags := fdFlags
      isCached := isCached
      syncVfuncs := syncVfuncs
      dmaHeapFd_nonneg := descriptor_nonneg hfd
      syncVfuncs_eq := hvfuncs }

/-- `imx_dma_buffer_dma_heap_allocator_new_from_fd` -/
def dmaHeapAllocatorNewFromFd (dmaHeapFd : Int) (heapFlags fdFlags : BitVec 32)
    (isCachedMemoryHeap : Int) : Code w DmaHeapAllocator :=
  if hfd : 0 < dmaHeapFd then
    return {
      dmaHeapFd := dmaHeapFd
      dmaHeapFdIsInternal := false
      heapFlags := heapFlags
      fdFlags := fdFlags
      isCached := isCachedMemoryHeap != 0
      syncVfuncs := if isCachedMemoryHeap != 0 then .dmaHeap else .noop
      dmaHeapFd_nonneg := Int.le_of_lt hfd
      syncVfuncs_eq := rfl }
  else .halt Fault.assertionFailed

end ImxDmaBuffer
