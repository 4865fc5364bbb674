import ImxDmaBuffer.BufferModel

/-!
# Every buffer is an instance of the model

`DmaBuffer.view` reads a buffer as a `BufferModel`, and `view_step` says that
every call of the public interface is the model's call under this view.  For
each allocator the link is one lemma per function: the function is the model's
operation with the allocator's parameters, followed by storing the mutable part
back into the buffer.

Histories of the library through one buffer are therefore histories of the model
from its view (`steps_view`).
-/

namespace ImxDmaBuffer

open CallProgram

variable {w : Nat}

/-- The parameters of a dma-heap buffer. -/
def DmaHeapBuffer.params (allocator : DmaHeapAllocator) (buffer : DmaHeapBuffer w) :
    MmapParams w where
  mapAsserts := decide (buffer.dmabufFd > 0)
  unmapAsserts := decide (buffer.dmabufFd > 0)
  deallocateAsserts := decide (buffer.dmabufFd > 0)
  normalise := normaliseReadwriteAbsent
  args := ⟨buffer.size, buffer.dmabufFd, 0⟩
  isCached := allocator.isCached
  release := .close buffer.dmabufFd

/-- The parameters of an ION buffer. -/
def IonBuffer.params (buffer : IonBuffer w) : MmapParams w where
  mapAsserts := decide (buffer.dmabufFd ≥ 0)
  unmapAsserts := decide (buffer.dmabufFd ≥ 0)
  deallocateAsserts := decide (buffer.dmabufFd ≥ 0)
  normalise := normaliseZero
  args := ⟨buffer.size, buffer.dmabufFd, 0⟩
  isCached := false
  release := .close buffer.dmabufFd

/-- The parameters of an IPU buffer. -/
def IpuBuffer.params (allocator : IpuAllocator) (buffer : IpuBuffer w) : MmapParams w where
  mapAsserts := decide (allocator.ipuFd ≥ 0) && decide (buffer.physicalAddress ≠ 0)
  unmapAsserts := decide (buffer.physicalAddress ≠ 0)
  deallocateAsserts := decide (allocator.ipuFd ≥ 0) && decide (buffer.physicalAddress ≠ 0)
  normalise := normaliseNone
  args := ⟨buffer.size, allocator.ipuFd, buffer.physicalAddress⟩
  isCached := false
  release := .ipuFree allocator.ipuFd buffer.physicalAddress

/-- The parameters of a PxP buffer. -/
def PxpBuffer.params (allocator : PxpAllocator) (buffer : PxpBuffer w) : MmapParams w where
  mapAsserts := decide (allocator.pxpFd ≥ 0) && decide (buffer.physicalAddress ≠ 0)
  unmapAsserts := decide (buffer.physicalAddress ≠ 0)
  deallocateAsserts := decide (allocator.pxpFd ≥ 0) && decide (buffer.physicalAddress ≠ 0)
  normalise := normaliseNone
  args := ⟨buffer.size, allocator.pxpFd, buffer.physicalAddress⟩
  isCached := false
  release := .pxpIocPutPhymem allocator.pxpFd buffer.memDesc

/-- The mapping of a buffer. -/
def DmaBuffer.mapping : DmaBuffer w → Mapping w
  | .dmaHeap allocator buffer =>
      .mmapBacked (buffer.params allocator) ⟨buffer.toMapState, buffer.syncStarted⟩
  | .ion _ buffer => .mmapBacked buffer.params ⟨buffer.toMapState, false⟩
  | .dwl allocator buffer =>
      .alwaysMapped ⟨buffer.alignedVirtualAddress, decide (allocator.dwlInstance ≠ 0),
        .dwlFreeLinear allocator.dwlInstance buffer.dwlLinearMem⟩ buffer.toCountState
  | .ipu allocator buffer =>
      .mmapBacked (buffer.params allocator) ⟨buffer.toMapState, false⟩
  | .g2d buffer =>
      .alwaysMapped ⟨buffer.alignedVirtualAddress, true, .g2dFree buffer.buf⟩ buffer.toCountState
  | .pxp allocator buffer =>
      .mmapBacked (buffer.params allocator) ⟨buffer.toMapState, false⟩

/-- Read a buffer as a model. -/
def DmaBuffer.view (b : DmaBuffer w) : BufferModel w where
  size := imxDmaBufferGetSize b
  fd := imxDmaBufferGetFd b
  physicalAddress := imxDmaBufferGetPhysicalAddress b
  mapping := b.mapping

namespace MmapParams

variable {p : MmapParams w}

/-- Without caching, mapping is the code that ION, IPU and PxP share. -/
theorem map_uncached (h : p.isCached = false) (s : SyncState w) (flags : BitVec 32)
    (errorNonNull : Bool) :
    p.map s flags errorNonNull = do
      assertThat (p.mapAsserts = true)
      let mapState ← s.toMapState.map p.args (p.normalise flags) errorNonNull
      return (mapState.mappedVirtualAddress, { s with toMapState := mapState }) := by
  unfold MmapParams.map MapState.map
  congr 1
  funext _
  split
  · rfl
  · simp [autoStart, autoSync, h]

/-- Without caching, unmapping is the code that ION, IPU and PxP share. -/
theorem unmap_uncached (h : p.isCached = false) (s : SyncState w) :
    p.unmap s = do
      assertThat (p.unmapAsserts = true)
      let mapState ← s.toMapState.unmap p.args.length
      return { s with toMapState := mapState } := by
  unfold MmapParams.unmap MapState.unmap
  congr 1
  funext _
  by_cases hmapped : s.mappedVirtualAddress = 0
  · simp only [if_pos hmapped, pure_bind]
  · simp only [if_neg hmapped, bind_assoc]
    congr 1
    funext n
    by_cases hn : n = 0
    · simp [autoStop, autoSync, hn, h]
    · simp [hn]

/-- Nothing is stopped when no session was started. -/
theorem stopExplicit_of_not_started {s : SyncState w} (hmapped : s.mappedVirtualAddress ≠ 0)
    (hstarted : s.syncStarted = false) : p.stopExplicit s = pure s := by
  simp only [stopExplicit, require, if_pos hmapped, Prog.ret_bind, hstarted]
  rfl

/-- Deallocating a buffer without a session leaves out the stop. -/
theorem deallocate_of_not_started {s : SyncState w} (hstarted : s.syncStarted = false) :
    p.deallocate s = (do
      assertThat (p.deallocateAsserts = true)
      if s.mappedVirtualAddress ≠ 0 then
        let _ ← p.unmap { s with mappingRefcount := 1 }
      let _ ← perform (S := kernel w) p.release) := by
  unfold MmapParams.deallocate
  congr 1
  funext _
  by_cases hmapped : s.mappedVirtualAddress = 0
  · simp only [hmapped, ne_eq, not_true_eq_false, if_false]
  · simp only [ne_eq, hmapped, not_false_eq_true, if_true,
      stopExplicit_of_not_started hmapped hstarted, pure_bind]

end MmapParams


namespace DmaHeapBuffer

variable (allocator : DmaHeapAllocator) (buffer : DmaHeapBuffer w)

/-- The mutable part of a dma-heap buffer. -/
abbrev sync : SyncState w := ⟨buffer.toMapState, buffer.syncStarted⟩

/-- A dma-heap buffer with another mutable part. -/
def withSync (s : SyncState w) : DmaHeapBuffer w :=
  { buffer with toMapState := s.toMapState, syncStarted := s.syncStarted }

theorem startSyncSessionImpl_eq :
    dmaHeapAllocatorStartSyncSessionImpl buffer =
      buffer.withSync <$> (buffer.params allocator).startImpl buffer.sync := by
  unfold dmaHeapAllocatorStartSyncSessionImpl MmapParams.startImpl
  simp only [map_bind, Prog.map_ite]
  rfl

theorem stopSyncSessionImpl_eq :
    dmaHeapAllocatorStopSyncSessionImpl buffer =
      buffer.withSync <$> (buffer.params allocator).stopImpl buffer.sync := by
  unfold dmaHeapAllocatorStopSyncSessionImpl MmapParams.stopImpl
  simp only [map_bind, Prog.map_ite]
  rfl

theorem startSyncSession_eq (hcached : allocator.isCached = true) :
    dmaHeapAllocatorStartSyncSession buffer =
      buffer.withSync <$> (buffer.params allocator).start buffer.sync := by
  unfold dmaHeapAllocatorStartSyncSession MmapParams.start
  rw [startSyncSessionImpl_eq allocator]
  cases hstarted : buffer.syncStarted <;> cases hmanual : manualSync buffer.mapFlags <;>
    simp [params, hcached, hstarted, withSync] <;> simp [← hstarted]

theorem stopSyncSession_eq :
    dmaHeapAllocatorStopSyncSession buffer =
      buffer.withSync <$> (buffer.params allocator).stopExplicit buffer.sync := by
  unfold dmaHeapAllocatorStopSyncSession MmapParams.stopExplicit
  simp only [map_bind, Prog.map_ite, stopSyncSessionImpl_eq allocator]
  rfl

theorem map_eq (flags : BitVec 32) (errorNonNull : Bool) :
    dmaHeapAllocatorMap allocator buffer flags errorNonNull =
      Prod.map id buffer.withSync <$>
        (buffer.params allocator).map buffer.sync flags errorNonNull := by
  unfold dmaHeapAllocatorMap MmapParams.map MmapParams.autoStart
  simp only [map_bind, Prog.map_ite, Prog.ite_bind, startSyncSessionImpl_eq allocator,
    bind_map_left]
  simp only [params, decide_eq_true_eq]
  rfl

theorem unmap_eq :
    dmaHeapAllocatorUnmap allocator buffer =
      buffer.withSync <$> (buffer.params allocator).unmap buffer.sync := by
  unfold dmaHeapAllocatorUnmap MmapParams.unmap MmapParams.autoStop
  simp only [map_bind, Prog.map_ite, Prog.ite_bind, stopSyncSessionImpl_eq allocator,
    bind_map_left]
  simp only [params, decide_eq_true_eq]
  rfl

theorem deallocate_eq :
    dmaHeapAllocatorDeallocate allocator buffer =
      (buffer.params allocator).deallocate buffer.sync := by
  unfold dmaHeapAllocatorDeallocate MmapParams.deallocate
  simp only [stopSyncSession_eq allocator, unmap_eq allocator, bind_map_left]
  simp only [params, decide_eq_true_eq]
  rfl

/-- Either vtable starts sessions as the model does. -/
theorem vtableStart_eq :
    imxDmaBufferStartSyncSession (.dmaHeap allocator buffer) =
      (fun s => .dmaHeap allocator (buffer.withSync s)) <$>
        (buffer.params allocator).start buffer.sync := by
  have hvfuncs := allocator.syncVfuncs_eq
  cases hcached : allocator.isCached with
  | false =>
      rw [hcached] at hvfuncs
      simp [imxDmaBufferStartSyncSession, hvfuncs, MmapParams.start, params, hcached, withSync]
  | true =>
      rw [hcached] at hvfuncs
      simp only [imxDmaBufferStartSyncSession, hvfuncs, if_true,
        startSyncSession_eq allocator _ hcached, Functor.map_map]

/-- Either vtable stops sessions as the model does. -/
theorem vtableStop_eq :
    imxDmaBufferStopSyncSession (.dmaHeap allocator buffer) =
      (fun s => .dmaHeap allocator (buffer.withSync s)) <$>
        (buffer.params allocator).stop buffer.sync := by
  have hvfuncs := allocator.syncVfuncs_eq
  cases hcached : allocator.isCached with
  | false =>
      rw [hcached] at hvfuncs
      simp [imxDmaBufferStopSyncSession, hvfuncs, MmapParams.stop, params, hcached, withSync]
  | true =>
      rw [hcached] at hvfuncs
      simp only [imxDmaBufferStopSyncSession, hvfuncs, if_true, stopSyncSession_eq allocator,
        Functor.map_map, MmapParams.stop]
      simp only [params, hcached, if_true]

end DmaHeapBuffer

namespace IonBuffer

variable (buffer : IonBuffer w)

theorem map_eq (flags : BitVec 32) (errorNonNull : Bool) :
    ionAllocatorMap buffer flags errorNonNull =
      Prod.map id (fun s => { buffer with toMapState := s.toMapState }) <$>
        buffer.params.map ⟨buffer.toMapState, false⟩ flags errorNonNull := by
  unfold ionAllocatorMap
  rw [MmapParams.map_uncached rfl]
  simp only [map_bind, params, decide_eq_true_eq]
  rfl

theorem unmap_eq :
    ionAllocatorUnmap buffer =
      (fun s => { buffer with toMapState := s.toMapState }) <$>
        buffer.params.unmap ⟨buffer.toMapState, false⟩ := by
  unfold ionAllocatorUnmap
  rw [MmapParams.unmap_uncached rfl]
  simp only [map_bind, params, decide_eq_true_eq]
  rfl

theorem deallocate_eq :
    ionAllocatorDeallocate buffer = buffer.params.deallocate ⟨buffer.toMapState, false⟩ := by
  unfold ionAllocatorDeallocate
  rw [MmapParams.deallocate_of_not_started rfl]
  simp only [unmap_eq, bind_map_left]
  simp only [params, decide_eq_true_eq]
  rfl

end IonBuffer

namespace IpuBuffer

variable (allocator : IpuAllocator) (buffer : IpuBuffer w)

theorem map_eq (flags : BitVec 32) (errorNonNull : Bool) :
    ipuAllocatorMap allocator buffer flags errorNonNull =
      Prod.map id (fun s => { buffer with toMapState := s.toMapState }) <$>
        (buffer.params allocator).map ⟨buffer.toMapState, false⟩ flags errorNonNull := by
  unfold ipuAllocatorMap
  rw [MmapParams.map_uncached rfl]
  simp only [map_bind, params, require_bind_require, Bool.and_eq_true, decide_eq_true_eq]
  rfl

theorem unmap_eq :
    ipuAllocatorUnmap buffer =
      (fun s => { buffer with toMapState := s.toMapState }) <$>
        (buffer.params allocator).unmap ⟨buffer.toMapState, false⟩ := by
  unfold ipuAllocatorUnmap
  rw [MmapParams.unmap_uncached rfl]
  simp only [map_bind, params, decide_eq_true_eq]
  rfl

theorem deallocate_eq :
    ipuAllocatorDeallocate allocator buffer =
      (buffer.params allocator).deallocate ⟨buffer.toMapState, false⟩ := by
  unfold ipuAllocatorDeallocate
  rw [MmapParams.deallocate_of_not_started rfl]
  simp only [unmap_eq allocator, bind_map_left]
  simp only [params, require_bind_require, Bool.and_eq_true, decide_eq_true_eq]
  rfl

end IpuBuffer

namespace PxpBuffer

variable (allocator : PxpAllocator) (buffer : PxpBuffer w)

theorem map_eq (flags : BitVec 32) (errorNonNull : Bool) :
    pxpAllocatorMap allocator buffer flags errorNonNull =
      Prod.map id (fun s => { buffer with toMapState := s.toMapState }) <$>
        (buffer.params allocator).map ⟨buffer.toMapState, false⟩ flags errorNonNull := by
  unfold pxpAllocatorMap
  rw [MmapParams.map_uncached rfl]
  simp only [map_bind, params, require_bind_require, Bool.and_eq_true, decide_eq_true_eq]
  rfl

theorem unmap_eq :
    pxpAllocatorUnmap buffer =
      (fun s => { buffer with toMapState := s.toMapState }) <$>
        (buffer.params allocator).unmap ⟨buffer.toMapState, false⟩ := by
  unfold pxpAllocatorUnmap
  rw [MmapParams.unmap_uncached rfl]
  simp only [map_bind, params, decide_eq_true_eq]
  rfl

theorem deallocate_eq :
    pxpAllocatorDeallocate allocator buffer =
      (buffer.params allocator).deallocate ⟨buffer.toMapState, false⟩ := by
  unfold pxpAllocatorDeallocate
  rw [MmapParams.deallocate_of_not_started rfl]
  simp only [unmap_eq allocator, bind_map_left]
  simp only [params, require_bind_require, Bool.and_eq_true, decide_eq_true_eq]
  rfl

end PxpBuffer

/-- Mapping a buffer is mapping its view. -/
theorem view_map (b : DmaBuffer w) (flags : BitVec 32) (errorNonNull : Bool) :
    b.view.map flags errorNonNull =
      Prod.map id DmaBuffer.view <$> imxDmaBufferMap b flags errorNonNull := by
  cases b with
  | dmaHeap allocator buffer =>
      simp only [imxDmaBufferMap, DmaHeapBuffer.map_eq, Functor.map_map]
      rfl
  | ion allocator buffer =>
      have huncached : buffer.params.isCached = false := rfl
      simp only [imxDmaBufferMap, IonBuffer.map_eq, Functor.map_map, BufferModel.map,
        DmaBuffer.view, DmaBuffer.mapping, MmapParams.map_uncached huncached, map_bind]
      rfl
  | dwl allocator buffer =>
      simp only [imxDmaBufferMap, dwlAllocatorMap, bind_pure_comp, Functor.map_map]
      rfl
  | ipu allocator buffer =>
      have huncached : (buffer.params allocator).isCached = false := rfl
      simp only [imxDmaBufferMap, IpuBuffer.map_eq, Functor.map_map, BufferModel.map,
        DmaBuffer.view, DmaBuffer.mapping, MmapParams.map_uncached huncached, map_bind]
      rfl
  | g2d buffer =>
      simp only [imxDmaBufferMap, g2dAllocatorMap, bind_pure_comp, Functor.map_map]
      rfl
  | pxp allocator buffer =>
      have huncached : (buffer.params allocator).isCached = false := rfl
      simp only [imxDmaBufferMap, PxpBuffer.map_eq, Functor.map_map, BufferModel.map,
        DmaBuffer.view, DmaBuffer.mapping, MmapParams.map_uncached huncached, map_bind]
      rfl

/-- Unmapping a buffer is unmapping its view. -/
theorem view_unmap (b : DmaBuffer w) :
    b.view.unmap = DmaBuffer.view <$> imxDmaBufferUnmap b := by
  cases b with
  | dmaHeap allocator buffer =>
      simp only [imxDmaBufferUnmap, DmaHeapBuffer.unmap_eq, Functor.map_map]
      rfl
  | ion allocator buffer =>
      have huncached : buffer.params.isCached = false := rfl
      simp only [imxDmaBufferUnmap, IonBuffer.unmap_eq, Functor.map_map, BufferModel.unmap,
        DmaBuffer.view, DmaBuffer.mapping, MmapParams.unmap_uncached huncached, map_bind]
      rfl
  | dwl allocator buffer =>
      simp only [imxDmaBufferUnmap, dwlAllocatorUnmap, bind_pure_comp, Functor.map_map]
      rfl
  | ipu allocator buffer =>
      have huncached : (buffer.params allocator).isCached = false := rfl
      simp only [imxDmaBufferUnmap, IpuBuffer.unmap_eq allocator, Functor.map_map, BufferModel.unmap,
        DmaBuffer.view, DmaBuffer.mapping, MmapParams.unmap_uncached huncached, map_bind]
      rfl
  | g2d buffer =>
      simp only [imxDmaBufferUnmap, g2dAllocatorUnmap, bind_pure_comp, Functor.map_map]
      rfl
  | pxp allocator buffer =>
      have huncached : (buffer.params allocator).isCached = false := rfl
      simp only [imxDmaBufferUnmap, PxpBuffer.unmap_eq allocator, Functor.map_map, BufferModel.unmap,
        DmaBuffer.view, DmaBuffer.mapping, MmapParams.unmap_uncached huncached, map_bind]
      rfl

/-- Starting a session agrees with the model, through either vtable. -/
theorem view_start (b : DmaBuffer w) :
    b.view.start = DmaBuffer.view <$> imxDmaBufferStartSyncSession b := by
  cases b with
  | dmaHeap allocator buffer =>
      simp only [DmaHeapBuffer.vtableStart_eq, Functor.map_map]
      rfl
  | ion => rfl
  | dwl => rfl
  | ipu => rfl
  | g2d => rfl
  | pxp => rfl

/-- Stopping a session agrees with the model, through either vtable. -/
theorem view_stop (b : DmaBuffer w) :
    b.view.stop = DmaBuffer.view <$> imxDmaBufferStopSyncSession b := by
  cases b with
  | dmaHeap allocator buffer =>
      simp only [DmaHeapBuffer.vtableStop_eq, Functor.map_map]
      rfl
  | ion => rfl
  | dwl => rfl
  | ipu => rfl
  | g2d => rfl
  | pxp => rfl

/-- Deallocating a buffer is deallocating its view. -/
theorem view_deallocate (b : DmaBuffer w) : b.view.deallocate = imxDmaBufferDeallocate b := by
  cases b with
  | dmaHeap allocator buffer => exact (DmaHeapBuffer.deallocate_eq allocator buffer).symm
  | ion allocator buffer => exact (IonBuffer.deallocate_eq buffer).symm
  | dwl allocator buffer =>
      simp only [imxDmaBufferDeallocate, dwlAllocatorDeallocate, BufferModel.deallocate,
        DmaBuffer.view, DmaBuffer.mapping, decide_eq_true_eq]
      rfl
  | ipu allocator buffer => exact (IpuBuffer.deallocate_eq allocator buffer).symm
  | g2d buffer => rfl
  | pxp allocator buffer => exact (PxpBuffer.deallocate_eq allocator buffer).symm

/-- **Every call is the model's call.** -/
theorem view_step (s : Option (DmaBuffer w)) (op : BufferCall) :
    modelStep (s.map DmaBuffer.view) op =
      Prod.map id (Option.map DmaBuffer.view) <$> bufferStep s op := by
  cases s with
  | none => rfl
  | some b =>
      cases op with
      | map flags errorNonNull =>
          simp only [Option.map_some, modelStep, bufferStep, view_map, Functor.map_map]
          rfl
      | unmap =>
          simp only [Option.map_some, modelStep, bufferStep, view_unmap, Functor.map_map]
          rfl
      | startSyncSession =>
          simp only [Option.map_some, modelStep, bufferStep, view_start, Functor.map_map]
          rfl
      | stopSyncSession =>
          simp only [Option.map_some, modelStep, bufferStep, view_stop, Functor.map_map]
          rfl
      | deallocate =>
          simp only [Option.map_some, modelStep, bufferStep, view_deallocate, Functor.map_map]
          rfl

/-- A history of the library is one of the model. -/
theorem steps_view {G : (bufferMachine w).Guard} {H : (modelMachine w).Guard}
    (hguard : ∀ s op t, G s op t → H (s.map DmaBuffer.view) op t)
    {s finish : Option (DmaBuffer w)} {h : List (CallRecord w)}
    (hs : (bufferMachine w).Steps G s h finish) :
    (modelMachine w).Steps H (s.map DmaBuffer.view) h (finish.map DmaBuffer.view) :=
  Machine.Steps.project view_step hguard hs

end ImxDmaBuffer
