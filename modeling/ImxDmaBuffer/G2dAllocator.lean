import ImxDmaBuffer.AlignmentPadding
import ImxDmaBuffer.MapState

/-!
# The G2D allocator

Buffers are memory blocks that the Vivante G2D library keeps mapped.  The
allocator has no state of its own; otherwise it follows the DWL allocator.
-/

namespace ImxDmaBuffer

open CallProgram

variable {w : Nat}

/-- `ImxDmaBufferG2dBuffer` -/
structure G2dBuffer (w : Nat) extends CountState where
  actualSize : BitVec w
  size : BitVec w
  alignedVirtualAddress : BitVec w
  alignedPhysicalAddress : BitVec w
  buf : G2dBuf w

/-- `imx_dma_buffer_g2d_allocator_allocate` -/
def g2dAllocatorAllocate (size alignment : BitVec w) (ambient : Ambient) (errorNonNull : Bool) :
    Code w (Option (G2dBuffer w)) := do
  let alignment := effectiveAlignment alignment
  let actualSize := paddedSize size alignment
  match ← perform (S := kernel w) (.g2dAlloc actualSize false) with
  | none =>
      storeError errorNonNull ENOMEM
      return none
  | some buf =>
      return some {
        toCountState := .initial ambient
        actualSize := actualSize
        size := size
        alignedVirtualAddress := alignValTo buf.bufVaddr alignment
        alignedPhysicalAddress := alignValTo buf.bufPaddr alignment
        buf := buf }

/-- `imx_dma_buffer_g2d_allocator_deallocate` -/
def g2dAllocatorDeallocate (buffer : G2dBuffer w) : Code w Unit :=
  perform (S := kernel w) (.g2dFree buffer.buf)

/-- `imx_dma_buffer_g2d_allocator_map` -/
def g2dAllocatorMap (buffer : G2dBuffer w) (flags : BitVec 32) :
    Code w (BitVec w × G2dBuffer w) := do
  let countState ← buffer.toCountState.map (normaliseZero flags)
  return (buffer.alignedVirtualAddress, { buffer with toCountState := countState })

/-- `imx_dma_buffer_g2d_allocator_unmap` -/
def g2dAllocatorUnmap (buffer : G2dBuffer w) : Code w (G2dBuffer w) := do
  let countState ← buffer.toCountState.unmap
  return { buffer with toCountState := countState }

end ImxDmaBuffer
