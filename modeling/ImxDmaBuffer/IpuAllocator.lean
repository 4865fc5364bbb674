import ImxDmaBuffer.AlignmentPadding
import ImxDmaBuffer.MapState

/-!
# The IPU allocator

Buffers are physically contiguous memory blocks allocated by the IPU driver and
mapped through its device node.  Alignment is obtained by padding.
-/

namespace ImxDmaBuffer

open CallProgram

variable {w : Nat}

/-- `ImxDmaBufferIpuAllocator` -/
structure IpuAllocator where
  ipuFd : Int
  ipuFdIsInternal : Bool
  ipuFd_nonneg : 0 ≤ ipuFd

/-- `ImxDmaBufferIpuBuffer` -/
structure IpuBuffer (w : Nat) extends MapState w where
  physicalAddress : BitVec w
  actualSize : BitVec w
  size : BitVec w
  alignedPhysicalAddress : BitVec w
  physicalAddress_ne_zero : physicalAddress ≠ 0

/-- `imx_dma_buffer_ipu_allocate` -/
def ipuAllocate (ipuFd : Int) (size : BitVec w) (errorNonNull : Bool) : Code w (BitVec w) := do
  match ← perform (S := kernel w) (.ipuAlloc ipuFd size) with
  | .error errno =>
      storeError errorNonNull errno.code
      return 0
  | .ok m => return m

/-- `imx_dma_buffer_ipu_deallocate` -/
def ipuDeallocate (ipuFd : Int) (physicalAddress : BitVec w) : Code w Unit :=
  perform (S := kernel w) (.ipuFree ipuFd physicalAddress)

/-- `imx_dma_buffer_ipu_allocator_destroy` -/
def ipuAllocatorDestroy (allocator : IpuAllocator) : Code w Unit :=
  if allocator.ipuFd ≥ 0 ∧ allocator.ipuFdIsInternal then
    perform (S := kernel w) (.close allocator.ipuFd)
  else pure ()

/-- `imx_dma_buffer_ipu_allocator_allocate` -/
def ipuAllocatorAllocate (allocator : IpuAllocator) (size alignment : BitVec w)
    (ambient : Ambient) (errorNonNull : Bool) : Code w (Option (IpuBuffer w)) := do
  assertThat (allocator.ipuFd ≥ 0)
  let alignment := effectiveAlignment alignment
  let actualSize := paddedSize size alignment
  let physicalAddress ← ipuAllocate allocator.ipuFd actualSize errorNonNull
  if hzero : physicalAddress = 0 then
    return none
  else
    return some {
      toMapState := .initial ambient
      physicalAddress := physicalAddress
      actualSize := actualSize
      size := size
      alignedPhysicalAddress := alignValTo physicalAddress alignment
      physicalAddress_ne_zero := hzero }

/-- `imx_dma_buffer_ipu_allocator_map` -/
def ipuAllocatorMap (allocator : IpuAllocator) (buffer : IpuBuffer w) (flags : BitVec 32)
    (errorNonNull : Bool) : Code w (BitVec w × IpuBuffer w) := do
  assertThat (allocator.ipuFd ≥ 0)
  assertThat (buffer.physicalAddress ≠ 0)
  let mapState ← buffer.toMapState.map ⟨buffer.size, allocator.ipuFd, buffer.physicalAddress⟩
    (normaliseNone flags) errorNonNull
  return (mapState.mappedVirtualAddress, { buffer with toMapState := mapState })

/-- `imx_dma_buffer_ipu_allocator_unmap` -/
def ipuAllocatorUnmap (buffer : IpuBuffer w) : Code w (IpuBuffer w) := do
  assertThat (buffer.physicalAddress ≠ 0)
  let mapState ← buffer.toMapState.unmap buffer.size
  return { buffer with toMapState := mapState }

/-- `imx_dma_buffer_ipu_allocator_deallocate` -/
def ipuAllocatorDeallocate (allocator : IpuAllocator) (buffer : IpuBuffer w) : Code w Unit := do
  assertThat (allocator.ipuFd ≥ 0)
  assertThat (buffer.physicalAddress ≠ 0)
  if buffer.mappedVirtualAddress ≠ 0 then
    -- A refcount of 1 makes the unmap actually unmap the buffer.
    let _ ← ipuAllocatorUnmap { buffer with mappingRefcount := 1 }
  ipuDeallocate allocator.ipuFd buffer.physicalAddress

/-- `imx_dma_buffer_ipu_allocator_new` -/
def ipuAllocatorNew (ipuFd : Int) (errorNonNull : Bool) : Code w (Option IpuAllocator) :=
  if hfd : ipuFd < 0 then do
    match ← perform (S := kernel w) (.openDevice "/dev/mxc_ipu" .rdwr) with
    | .error errno =>
        storeError errorNonNull errno.code
        return none
    | .ok fd =>
        return some {
          ipuFd := fd
          ipuFdIsInternal := true
          ipuFd_nonneg := Int.natCast_nonneg fd }
  else
    return some {
      ipuFd := ipuFd
      ipuFdIsInternal := false
      ipuFd_nonneg := descriptor_nonneg hfd }

end ImxDmaBuffer
