import ImxDmaBuffer.AlignmentPadding
import ImxDmaBuffer.MapState

/-!
# The PxP allocator

Buffers are physically contiguous memory blocks allocated by the PxP driver and
mapped through its device node.  Alignment is meant to be obtained by padding;
the size that is requested from the driver is the unpadded one.
-/

namespace ImxDmaBuffer

open CallProgram

variable {w : Nat}

/-- `ImxDmaBufferPxpAllocator` -/
structure PxpAllocator where
  pxpFd : Int
  pxpFdIsInternal : Bool
  pxpFd_nonneg : 0 ≤ pxpFd

/-- `ImxDmaBufferPxpBuffer` -/
structure PxpBuffer (w : Nat) extends MapState w where
  physicalAddress : BitVec w
  actualSize : BitVec w
  size : BitVec w
  alignedPhysicalAddress : BitVec w
  memDesc : PxpMemDesc w

/-- `imx_dma_buffer_pxp_allocator_destroy` -/
def pxpAllocatorDestroy (allocator : PxpAllocator) : Code w Unit :=
  if allocator.pxpFd ≥ 0 ∧ allocator.pxpFdIsInternal then
    perform (S := kernel w) (.close allocator.pxpFd)
  else pure ()

/-- `imx_dma_buffer_pxp_allocator_allocate` -/
def pxpAllocatorAllocate (allocator : PxpAllocator) (size alignment : BitVec w)
    (ambient : Ambient) (errorNonNull : Bool) : Code w (Option (PxpBuffer w)) := do
  assertThat (allocator.pxpFd ≥ 0)
  let alignment := effectiveAlignment alignment
  let actualSize := paddedSize size alignment
  -- The requested size is `size`, not `actualSize`.
  match ← perform (S := kernel w) (.pxpIocGetPhymem allocator.pxpFd size .wc) with
  | .error errno =>
      storeError errorNonNull errno.code
      return none
  | .ok (handle, physAddr) =>
      return some {
        toMapState := .initial ambient
        physicalAddress := physAddr
        actualSize := actualSize
        size := size
        alignedPhysicalAddress := alignValTo physAddr alignment
        memDesc := { handle := handle, size := size, physAddr := physAddr, mtype := .wc } }

/-- `imx_dma_buffer_pxp_allocator_map` -/
def pxpAllocatorMap (allocator : PxpAllocator) (buffer : PxpBuffer w) (flags : BitVec 32)
    (errorNonNull : Bool) : Code w (BitVec w × PxpBuffer w) := do
  assertThat (allocator.pxpFd ≥ 0)
  assertThat (buffer.physicalAddress ≠ 0)
  let mapState ← buffer.toMapState.map ⟨buffer.size, allocator.pxpFd, buffer.physicalAddress⟩
    (normaliseNone flags) errorNonNull
  return (mapState.mappedVirtualAddress, { buffer with toMapState := mapState })

/-- `imx_dma_buffer_pxp_allocator_unmap` -/
def pxpAllocatorUnmap (buffer : PxpBuffer w) : Code w (PxpBuffer w) := do
  assertThat (buffer.physicalAddress ≠ 0)
  let mapState ← buffer.toMapState.unmap buffer.size
  return { buffer with toMapState := mapState }

/-- `imx_dma_buffer_pxp_allocator_deallocate` -/
def pxpAllocatorDeallocate (allocator : PxpAllocator) (buffer : PxpBuffer w) : Code w Unit := do
  assertThat (allocator.pxpFd ≥ 0)
  assertThat (buffer.physicalAddress ≠ 0)
  if buffer.mappedVirtualAddress ≠ 0 then
    -- A refcount of 1 makes the unmap actually unmap the buffer.
    let _ ← pxpAllocatorUnmap { buffer with mappingRefcount := 1 }
  perform (S := kernel w) (.pxpIocPutPhymem allocator.pxpFd buffer.memDesc)

/-- `imx_dma_buffer_pxp_allocator_new` -/
def pxpAllocatorNew (pxpFd : Int) (errorNonNull : Bool) : Code w (Option PxpAllocator) :=
  if hfd : pxpFd < 0 then do
    match ← perform (S := kernel w) (.openDevice "/dev/pxp_device" .rdwr) with
    | .error errno =>
        storeError errorNonNull errno.code
        return none
    | .ok fd =>
        return some {
          pxpFd := fd
          pxpFdIsInternal := true
          pxpFd_nonneg := Int.natCast_nonneg fd }
  else
    return some {
      pxpFd := pxpFd
      pxpFdIsInternal := false
      pxpFd_nonneg := descriptor_nonneg hfd }

end ImxDmaBuffer
