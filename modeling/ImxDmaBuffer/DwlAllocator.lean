import ImxDmaBuffer.AlignmentPadding
import ImxDmaBuffer.MapState

/-!
# The DWL allocator

Buffers are memory blocks that the Hantro DWL library keeps mapped, so the map
and unmap functions only count and check flags.  Alignment is obtained by
padding, and the virtual address is rounded up as well, independently of the
physical one.
-/

namespace ImxDmaBuffer

open CallProgram

variable {w : Nat}

/-- `ImxDmaBufferDwlAllocator` -/
structure DwlAllocator (w : Nat) where
  clientType : DwlClientType
  dwlInstance : BitVec w
  dwlInstance_ne_null : dwlInstance ≠ 0

/-- `ImxDmaBufferDwlBuffer` -/
structure DwlBuffer (w : Nat) extends CountState where
  dwlLinearMem : DwlLinearMem w
  actualSize : BitVec w
  size : BitVec w
  alignedVirtualAddress : BitVec w
  alignedPhysicalAddress : BitVec w

/-- `imx_dma_buffer_dwl_allocator_destroy` -/
def dwlAllocatorDestroy (allocator : DwlAllocator w) : Code w Unit := do
  assertThat (allocator.dwlInstance ≠ 0)
  perform (S := kernel w) (.dwlRelease allocator.dwlInstance)

/-- `imx_dma_buffer_dwl_allocator_allocate` -/
def dwlAllocatorAllocate (allocator : DwlAllocator w) (size alignment : BitVec w)
    (ambient : Ambient) (errorNonNull : Bool) : Code w (Option (DwlBuffer w)) := do
  assertThat (allocator.dwlInstance ≠ 0)
  let alignment := effectiveAlignment alignment
  let actualSize := paddedSize size alignment
  match ← perform (S := kernel w) (.dwlMallocLinear allocator.dwlInstance actualSize .cpu) with
  | none =>
      storeError errorNonNull ENOMEM
      return none
  | some (virtualAddress, busAddress) =>
      return some {
        toCountState := .initial ambient
        dwlLinearMem := { virtualAddress := virtualAddress, busAddress := busAddress, memType := .cpu }
        actualSize := actualSize
        size := size
        alignedVirtualAddress := alignValTo virtualAddress alignment
        alignedPhysicalAddress := alignValTo busAddress alignment }

/-- `imx_dma_buffer_dwl_allocator_deallocate` -/
def dwlAllocatorDeallocate (allocator : DwlAllocator w) (buffer : DwlBuffer w) : Code w Unit := do
  assertThat (allocator.dwlInstance ≠ 0)
  perform (S := kernel w) (.dwlFreeLinear allocator.dwlInstance buffer.dwlLinearMem)

/-- `imx_dma_buffer_dwl_allocator_map` -/
def dwlAllocatorMap (buffer : DwlBuffer w) (flags : BitVec 32) :
    Code w (BitVec w × DwlBuffer w) := do
  let countState ← buffer.toCountState.map (normaliseZero flags)
  return (buffer.alignedVirtualAddress, { buffer with toCountState := countState })

/-- `imx_dma_buffer_dwl_allocator_unmap` -/
def dwlAllocatorUnmap (buffer : DwlBuffer w) : Code w (DwlBuffer w) := do
  let countState ← buffer.toCountState.unmap
  return { buffer with toCountState := countState }

/-- `imx_dma_buffer_dwl_allocator_new` -/
def dwlAllocatorNew (config : BuildConfig) (errorNonNull : Bool) :
    Code w (Option (DwlAllocator w)) := do
  let dwlInstance : BitVec w ← perform (S := kernel w) (.dwlInit config.dwlClientType)
  if hnull : dwlInstance = 0 then
    storeError errorNonNull ENOMEM
    return none
  else
    return some {
      clientType := config.dwlClientType
      dwlInstance := dwlInstance
      dwlInstance_ne_null := hnull }

end ImxDmaBuffer
