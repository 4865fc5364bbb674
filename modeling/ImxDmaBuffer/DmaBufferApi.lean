import ImxDmaBuffer.DmaHeapAllocator
import ImxDmaBuffer.IonAllocator
import ImxDmaBuffer.IpuAllocator
import ImxDmaBuffer.PxpAllocator
import ImxDmaBuffer.DwlAllocator
import ImxDmaBuffer.G2dAllocator

/-!
# The public interface

An allocator is one of six implementations behind a vtable, and a buffer holds
a pointer to the allocator that created it.  The functions `imx_dma_buffer_*`
dispatch on it.  `bufferMachine` is the library as a client sees it through one
buffer: the state is the buffer, or nothing once it has been deallocated.
-/

namespace ImxDmaBuffer

open CallProgram

variable {w : Nat}

/-- `ImxDmaBufferAllocator`: an allocator of one of the six kinds. -/
inductive Allocator (w : Nat) where
  | dmaHeap (allocator : DmaHeapAllocator)
  | ion (allocator : IonAllocator)
  | dwl (allocator : DwlAllocator w)
  | ipu (allocator : IpuAllocator)
  | g2d
  | pxp (allocator : PxpAllocator)

/-- `ImxDmaBuffer`: a buffer together with the allocator it points to. -/
inductive DmaBuffer (w : Nat) where
  | dmaHeap (allocator : DmaHeapAllocator) (buffer : DmaHeapBuffer w)
  | ion (allocator : IonAllocator) (buffer : IonBuffer w)
  | dwl (allocator : DwlAllocator w) (buffer : DwlBuffer w)
  | ipu (allocator : IpuAllocator) (buffer : IpuBuffer w)
  | g2d (buffer : G2dBuffer w)
  | pxp (allocator : PxpAllocator) (buffer : PxpBuffer w)

/-- The allocator a buffer points to. -/
def DmaBuffer.allocator : DmaBuffer w → Allocator w
  | .dmaHeap allocator _ => .dmaHeap allocator
  | .ion allocator _ => .ion allocator
  | .dwl allocator _ => .dwl allocator
  | .ipu allocator _ => .ipu allocator
  | .g2d _ => .g2d
  | .pxp allocator _ => .pxp allocator

/-- `imx_dma_buffer_allocator_destroy` -/
def imxDmaBufferAllocatorDestroy : Allocator w → Code w Unit
  | .dmaHeap allocator => dmaHeapAllocatorDestroy allocator
  | .ion allocator => ionAllocatorDestroy allocator
  | .dwl allocator => dwlAllocatorDestroy allocator
  | .ipu allocator => ipuAllocatorDestroy allocator
  | .g2d => pure ()
  | .pxp allocator => pxpAllocatorDestroy allocator

/-- `imx_dma_buffer_allocate`. The second component of the result is the value
left in the static variable of `get_heap_id_mask`. -/
def imxDmaBufferAllocate (config : BuildConfig) (allocator : Allocator w)
    (size alignment : BitVec w) (heapIdMask : BitVec 32) (ambient : Ambient)
    (errorNonNull : Bool) : Code w (Option (DmaBuffer w) × BitVec 32) := do
  assertThat (size ≥ 1)
  match allocator with
  | .dmaHeap allocator =>
      let buffer ← dmaHeapAllocatorAllocate allocator size alignment ambient errorNonNull
      return (buffer.map (.dmaHeap allocator), heapIdMask)
  | .ion allocator =>
      let (buffer, heapIdMask) ← ionAllocatorAllocate config allocator size alignment heapIdMask
        ambient errorNonNull
      return (buffer.map (.ion allocator), heapIdMask)
  | .dwl allocator =>
      let buffer ← dwlAllocatorAllocate allocator size alignment ambient errorNonNull
      return (buffer.map (.dwl allocator), heapIdMask)
  | .ipu allocator =>
      let buffer ← ipuAllocatorAllocate allocator size alignment ambient errorNonNull
      return (buffer.map (.ipu allocator), heapIdMask)
  | .g2d =>
      let buffer ← g2dAllocatorAllocate size alignment ambient errorNonNull
      return (buffer.map .g2d, heapIdMask)
  | .pxp allocator =>
      let buffer ← pxpAllocatorAllocate allocator size alignment ambient errorNonNull
      return (buffer.map (.pxp allocator), heapIdMask)

/-- `imx_dma_buffer_deallocate` -/
def imxDmaBufferDeallocate : DmaBuffer w → Code w Unit
  | .dmaHeap allocator buffer => dmaHeapAllocatorDeallocate allocator buffer
  | .ion _ buffer => ionAllocatorDeallocate buffer
  | .dwl allocator buffer => dwlAllocatorDeallocate allocator buffer
  | .ipu allocator buffer => ipuAllocatorDeallocate allocator buffer
  | .g2d buffer => g2dAllocatorDeallocate buffer
  | .pxp allocator buffer => pxpAllocatorDeallocate allocator buffer

/-- `imx_dma_buffer_map` -/
def imxDmaBufferMap (buffer : DmaBuffer w) (flags : BitVec 32) (errorNonNull : Bool) :
    Code w (BitVec w × DmaBuffer w) :=
  match buffer with
  | .dmaHeap allocator buffer =>
      Prod.map id (.dmaHeap allocator) <$> dmaHeapAllocatorMap allocator buffer flags errorNonNull
  | .ion allocator buffer =>
      Prod.map id (.ion allocator) <$> ionAllocatorMap buffer flags errorNonNull
  | .dwl allocator buffer => Prod.map id (.dwl allocator) <$> dwlAllocatorMap buffer flags
  | .ipu allocator buffer =>
      Prod.map id (.ipu allocator) <$> ipuAllocatorMap allocator buffer flags errorNonNull
  | .g2d buffer => Prod.map id .g2d <$> g2dAllocatorMap buffer flags
  | .pxp allocator buffer =>
      Prod.map id (.pxp allocator) <$> pxpAllocatorMap allocator buffer flags errorNonNull

/-- `imx_dma_buffer_unmap` -/
def imxDmaBufferUnmap : DmaBuffer w → Code w (DmaBuffer w)
  | .dmaHeap allocator buffer => .dmaHeap allocator <$> dmaHeapAllocatorUnmap allocator buffer
  | .ion allocator buffer => .ion allocator <$> ionAllocatorUnmap buffer
  | .dwl allocator buffer => .dwl allocator <$> dwlAllocatorUnmap buffer
  | .ipu allocator buffer => .ipu allocator <$> ipuAllocatorUnmap buffer
  | .g2d buffer => .g2d <$> g2dAllocatorUnmap buffer
  | .pxp allocator buffer => .pxp allocator <$> pxpAllocatorUnmap buffer

/-- `imx_dma_buffer_start_sync_session`. Only the dma-heap allocator can have
anything but the no-op function in its vtable. -/
def imxDmaBufferStartSyncSession : DmaBuffer w → Code w (DmaBuffer w)
  | .dmaHeap allocator buffer =>
      match allocator.syncVfuncs with
      | .noop => pure (.dmaHeap allocator buffer)
      | .dmaHeap => .dmaHeap allocator <$> dmaHeapAllocatorStartSyncSession buffer
  | buffer => pure buffer

/-- `imx_dma_buffer_stop_sync_session` -/
def imxDmaBufferStopSyncSession : DmaBuffer w → Code w (DmaBuffer w)
  | .dmaHeap allocator buffer =>
      match allocator.syncVfuncs with
      | .noop => pure (.dmaHeap allocator buffer)
      | .dmaHeap => .dmaHeap allocator <$> dmaHeapAllocatorStopSyncSession buffer
  | buffer => pure buffer

/-- `imx_dma_buffer_get_physical_address` -/
def imxDmaBufferGetPhysicalAddress : DmaBuffer w → BitVec w
  | .dmaHeap _ buffer => buffer.physicalAddress
  | .ion _ buffer => buffer.physicalAddress
  | .dwl _ buffer => buffer.alignedPhysicalAddress
  | .ipu _ buffer => buffer.alignedPhysicalAddress
  | .g2d buffer => buffer.alignedPhysicalAddress
  | .pxp _ buffer => buffer.alignedPhysicalAddress

/-- `imx_dma_buffer_get_fd` -/
def imxDmaBufferGetFd : DmaBuffer w → Int
  | .dmaHeap _ buffer => buffer.dmabufFd
  | .ion _ buffer => buffer.dmabufFd
  | _ => -1

/-- `imx_dma_buffer_get_size` -/
def imxDmaBufferGetSize : DmaBuffer w → BitVec w
  | .dmaHeap _ buffer => buffer.size
  | .ion _ buffer => buffer.size
  | .dwl _ buffer => buffer.size
  | .ipu _ buffer => buffer.size
  | .g2d buffer => buffer.size
  | .pxp _ buffer => buffer.size

/-- The `mapping_refcount` of a buffer. -/
def DmaBuffer.mappingRefcount : DmaBuffer w → Int
  | .dmaHeap _ buffer => buffer.mappingRefcount
  | .ion _ buffer => buffer.mappingRefcount
  | .dwl _ buffer => buffer.mappingRefcount
  | .ipu _ buffer => buffer.mappingRefcount
  | .g2d buffer => buffer.mappingRefcount
  | .pxp _ buffer => buffer.mappingRefcount

/-- The `map_flags` of a buffer. -/
def DmaBuffer.mapFlags : DmaBuffer w → BitVec 32
  | .dmaHeap _ buffer => buffer.mapFlags
  | .ion _ buffer => buffer.mapFlags
  | .dwl _ buffer => buffer.mapFlags
  | .ipu _ buffer => buffer.mapFlags
  | .g2d buffer => buffer.mapFlags
  | .pxp _ buffer => buffer.mapFlags

/-- The `mapped_virtual_address` of a buffer of the mmap-based allocators; DWL
and G2D buffers have no such field. -/
def DmaBuffer.mappedVirtualAddress : DmaBuffer w → Option (BitVec w)
  | .dmaHeap _ buffer => some buffer.mappedVirtualAddress
  | .ion _ buffer => some buffer.mappedVirtualAddress
  | .ipu _ buffer => some buffer.mappedVirtualAddress
  | .pxp _ buffer => some buffer.mappedVirtualAddress
  | _ => none

/-- The allocators that map buffers with `mmap`: dma-heap, ION, IPU and PxP. -/
def DmaBuffer.IsMmapBased (buffer : DmaBuffer w) : Prop :=
  buffer.mappedVirtualAddress.isSome

/-- A buffer is mapped when its address is set or, for the allocators without
one, when maps are outstanding. -/
def DmaBuffer.IsMapped (buffer : DmaBuffer w) : Prop :=
  match buffer.mappedVirtualAddress with
  | some address => address ≠ 0
  | none => 0 < buffer.mappingRefcount

/-- The calls a client makes on one buffer. -/
inductive BufferCall where
  | map (flags : BitVec 32) (errorNonNull : Bool)
  | unmap
  | startSyncSession
  | stopSyncSession
  | deallocate
  deriving DecidableEq

/-- Serve one call. A map returns a pointer, the other calls return nothing. A
deallocated buffer must not be used. -/
def bufferStep : Option (DmaBuffer w) → BufferCall →
    Code w (Option (BitVec w) × Option (DmaBuffer w))
  | none, _ => .halt Fault.undefinedBehaviour
  | some buffer, .map flags errorNonNull =>
      Prod.map some some <$> imxDmaBufferMap buffer flags errorNonNull
  | some buffer, .unmap => (fun b => (none, some b)) <$> imxDmaBufferUnmap buffer
  | some buffer, .startSyncSession =>
      (fun b => (none, some b)) <$> imxDmaBufferStartSyncSession buffer
  | some buffer, .stopSyncSession =>
      (fun b => (none, some b)) <$> imxDmaBufferStopSyncSession buffer
  | some buffer, .deallocate => (fun _ => (none, none)) <$> imxDmaBufferDeallocate buffer

/-- The library as seen through one buffer. -/
def bufferMachine (w : Nat) : Machine (kernel w) BufferCall (Option (BitVec w)) where
  State := Option (DmaBuffer w)
  step := bufferStep

/-- One served call on a buffer. -/
abbrev CallRecord (w : Nat) := Record (kernel w) BufferCall (Option (BitVec w))

end ImxDmaBuffer
