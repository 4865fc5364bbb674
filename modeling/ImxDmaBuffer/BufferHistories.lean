import ImxDmaBuffer.BufferSteps

/-!
# Histories of one buffer

A buffer is either mmap-based or always mapped, and stays so with the same
parameters.  A history of the library through one buffer is therefore a history
of the small machine `MmapParams.machine` or `AlwaysParams.machine`, whose
states are just the mutable part of the buffer, and conversely.  Statements about
histories of buffers are proved over these machines and carried over here.

`Fresh` describes the buffers that allocating returns.
-/

namespace ImxDmaBuffer

open CallProgram

variable {w : Nat}

/-- The model of an mmap-based buffer with this mutable part. -/
def BufferModel.mmapBacked (m : BufferModel w) (p : MmapParams w) (s : SyncState w) :
    BufferModel w :=
  m.withMapping (.mmapBacked p s)

/-- The model of an always mapped buffer with this mutable part. -/
def BufferModel.alwaysMapped (m : BufferModel w) (p : AlwaysParams w) (s : CountState) :
    BufferModel w :=
  m.withMapping (.alwaysMapped p s)

/-- The address of a mapping, for the buffers that have the field. -/
def Mapping.mappedVirtualAddress : Mapping w → Option (BitVec w)
  | .mmapBacked _ s => some s.mappedVirtualAddress
  | .alwaysMapped _ _ => none

/-- The number of outstanding maps. -/
def Mapping.mappingRefcount : Mapping w → Int
  | .mmapBacked _ s => s.mappingRefcount
  | .alwaysMapped _ s => s.mappingRefcount

/-- The stored flags. -/
def Mapping.mapFlags : Mapping w → BitVec 32
  | .mmapBacked _ s => s.mapFlags
  | .alwaysMapped _ s => s.mapFlags

/-- Whether a sync session was started; only mmap-based buffers record it. -/
def Mapping.syncStarted : Mapping w → Bool
  | .mmapBacked _ s => s.syncStarted
  | .alwaysMapped _ _ => false

/-- The `sync_started` of a dma-heap buffer; the other buffers have no such
field. -/
def DmaBuffer.syncStarted : DmaBuffer w → Bool
  | .dmaHeap _ buffer => buffer.syncStarted
  | _ => false

/-- Whether the buffer belongs to a cached dma-heap allocator. -/
def DmaBuffer.isCached : DmaBuffer w → Bool
  | .dmaHeap allocator _ => allocator.isCached
  | _ => false

/-- Whether cache syncing takes part. -/
def Mapping.isCached : Mapping w → Bool
  | .mmapBacked p _ => p.isCached
  | .alwaysMapped _ _ => false

/-- How the flags of a map are normalised. -/
def Mapping.normaliseFlags : Mapping w → BitVec 32 → BitVec 32
  | .mmapBacked p _ => p.normalise
  | .alwaysMapped _ _ => normaliseZero

/-- How the map function of a buffer's allocator normalises flags. -/
def DmaBuffer.normaliseFlags : DmaBuffer w → BitVec 32 → BitVec 32
  | .dmaHeap _ _ => normaliseReadwriteAbsent
  | .ion _ _ => normaliseZero
  | .dwl _ _ => normaliseZero
  | .ipu _ _ => normaliseNone
  | .g2d _ => normaliseZero
  | .pxp _ _ => normaliseNone

/-- The length that is passed to `mmap` and `munmap`. -/
def Mapping.length : Mapping w → Option (BitVec w)
  | .mmapBacked p _ => some p.args.length
  | .alwaysMapped _ _ => none

/-- The address at which an always mapped buffer can be used. -/
def Mapping.virtualAddress : Mapping w → Option (BitVec w)
  | .mmapBacked _ _ => none
  | .alwaysMapped p _ => some p.virtualAddress

/-- The `aligned_virtual_address` of a DWL or G2D buffer. -/
def DmaBuffer.alignedVirtualAddress : DmaBuffer w → Option (BitVec w)
  | .dwl _ buffer => some buffer.alignedVirtualAddress
  | .g2d buffer => some buffer.alignedVirtualAddress
  | _ => none

/-- Whether the buffer is mapped. -/
def Mapping.IsMapped : Mapping w → Prop
  | .mmapBacked _ s => s.mappedVirtualAddress ≠ 0
  | .alwaysMapped _ s => 0 < s.mappingRefcount

theorem view_isMapped (b : DmaBuffer w) : b.view.mapping.IsMapped ↔ b.IsMapped := by
  cases b <;> exact Iff.rfl

@[simp] theorem view_mappedVirtualAddress (b : DmaBuffer w) :
    b.view.mapping.mappedVirtualAddress = b.mappedVirtualAddress := by
  cases b <;> rfl

@[simp] theorem view_mappingRefcount (b : DmaBuffer w) :
    b.view.mapping.mappingRefcount = b.mappingRefcount := by
  cases b <;> rfl

@[simp] theorem view_mapFlags (b : DmaBuffer w) : b.view.mapping.mapFlags = b.mapFlags := by
  cases b <;> rfl

@[simp] theorem view_syncStarted (b : DmaBuffer w) :
    b.view.mapping.syncStarted = b.syncStarted := by
  cases b <;> rfl

@[simp] theorem view_isCached (b : DmaBuffer w) : b.view.mapping.isCached = b.isCached := by
  cases b <;> rfl

@[simp] theorem view_normaliseFlags (b : DmaBuffer w) :
    b.view.mapping.normaliseFlags = b.normaliseFlags := by
  cases b <;> rfl

theorem view_length (b : DmaBuffer w) :
    b.view.mapping.length = b.mappedVirtualAddress.map fun _ => imxDmaBufferGetSize b := by
  cases b <;> rfl

@[simp] theorem view_virtualAddress (b : DmaBuffer w) :
    b.view.mapping.virtualAddress = b.alignedVirtualAddress := by
  cases b <;> rfl

@[simp] theorem view_physicalAddress (b : DmaBuffer w) :
    b.view.physicalAddress = imxDmaBufferGetPhysicalAddress b := by
  cases b <;> rfl

@[simp] theorem view_size (b : DmaBuffer w) : b.view.size = imxDmaBufferGetSize b := by
  cases b <;> rfl

/-- A buffer with an aligned virtual address has no mapped one. -/
theorem mappedVirtualAddress_of_aligned {b : DmaBuffer w} {address : BitVec w}
    (h : b.alignedVirtualAddress = some address) : b.mappedVirtualAddress = none := by
  cases b with
  | dwl => rfl
  | g2d => rfl
  | dmaHeap => cases h
  | ion => cases h
  | ipu => cases h
  | pxp => cases h

section Fields

variable {b : DmaBuffer w} {m : BufferModel w} {p : MmapParams w} {s : SyncState w}

/-- The buffers with a `mapped_virtual_address` are the mmap-based ones. -/
theorem view_mmapBacked {address : BitVec w} (h : b.mappedVirtualAddress = some address) :
    ∃ p s, b.view = b.view.mmapBacked p s := by
  cases b with
  | dmaHeap => exact ⟨_, _, rfl⟩
  | ion => exact ⟨_, _, rfl⟩
  | ipu => exact ⟨_, _, rfl⟩
  | pxp => exact ⟨_, _, rfl⟩
  | dwl => cases h
  | g2d => cases h

theorem mappedVirtualAddress_of_view (hb : b.view = m.mmapBacked p s) :
    b.mappedVirtualAddress = some s.mappedVirtualAddress := by
  rw [← view_mappedVirtualAddress, hb]
  rfl

theorem mappingRefcount_of_view (hb : b.view = m.mmapBacked p s) :
    b.mappingRefcount = s.mappingRefcount := by
  rw [← view_mappingRefcount, hb]
  rfl

theorem mapFlags_of_view (hb : b.view = m.mmapBacked p s) : b.mapFlags = s.mapFlags := by
  rw [← view_mapFlags, hb]
  rfl

theorem syncStarted_of_view (hb : b.view = m.mmapBacked p s) :
    b.syncStarted = s.syncStarted := by
  rw [← view_syncStarted, hb]
  rfl

theorem isCached_of_view (hb : b.view = m.mmapBacked p s) : b.isCached = p.isCached := by
  rw [← view_isCached, hb]
  rfl

theorem normaliseFlags_of_view (hb : b.view = m.mmapBacked p s) :
    b.normaliseFlags = p.normalise := by
  rw [← view_normaliseFlags, hb]
  rfl

theorem length_of_view (hb : b.view = m.mmapBacked p s) :
    p.args.length = imxDmaBufferGetSize b := by
  have hlength := view_length b
  rw [mappedVirtualAddress_of_view hb, hb] at hlength
  exact Option.some.inj hlength

theorem isMapped_of_view (hb : b.view = m.mmapBacked p s) :
    b.IsMapped ↔ s.mappedVirtualAddress ≠ 0 := by
  rw [← view_isMapped, hb]
  exact Iff.rfl

/-- The buffers without a `mapped_virtual_address` are the always mapped ones. -/
theorem view_alwaysMapped (h : b.mappedVirtualAddress = none) :
    ∃ p s, b.view = b.view.alwaysMapped p s := by
  cases b with
  | dwl => exact ⟨_, _, rfl⟩
  | g2d => exact ⟨_, _, rfl⟩
  | dmaHeap => cases h
  | ion => cases h
  | ipu => cases h
  | pxp => cases h

variable {q : AlwaysParams w} {c : CountState}

theorem mappedVirtualAddress_of_always (hb : b.view = m.alwaysMapped q c) :
    b.mappedVirtualAddress = none := by
  rw [← view_mappedVirtualAddress, hb]
  rfl

theorem mappingRefcount_of_always (hb : b.view = m.alwaysMapped q c) :
    b.mappingRefcount = c.mappingRefcount := by
  rw [← view_mappingRefcount, hb]
  rfl

theorem mapFlags_of_always (hb : b.view = m.alwaysMapped q c) : b.mapFlags = c.mapFlags := by
  rw [← view_mapFlags, hb]
  rfl

theorem normaliseFlags_of_always (hb : b.view = m.alwaysMapped q c) :
    b.normaliseFlags = normaliseZero := by
  rw [← view_normaliseFlags, hb]
  rfl

theorem alignedVirtualAddress_of_always (hb : b.view = m.alwaysMapped q c) :
    b.alignedVirtualAddress = some q.virtualAddress := by
  rw [← view_virtualAddress, hb]
  rfl

theorem isMapped_of_always (hb : b.view = m.alwaysMapped q c) :
    b.IsMapped ↔ 0 < c.mappingRefcount := by
  rw [← view_isMapped, hb]
  exact Iff.rfl

end Fields

/-- A buffer as `allocate` returns it: never mapped, and no session started. -/
structure DmaBuffer.Fresh (b : DmaBuffer w) : Prop where
  mappingRefcount : b.mappingRefcount = 0
  mappedVirtualAddress : ∀ address, b.mappedVirtualAddress = some address → address = 0
  syncStarted : b.syncStarted = false

/-- A call on an mmap-based buffer only changes the mutable part. -/
theorem modelStep_mmapBacked (m : BufferModel w) (p : MmapParams w) (s : Option (SyncState w))
    (op : BufferCall) :
    modelStep (s.map (m.mmapBacked p)) op =
      Prod.map id (Option.map (m.mmapBacked p)) <$> p.step s op := by
  cases s with
  | none => rfl
  | some s =>
      cases op with
      | map flags errorNonNull =>
          simp only [Option.map_some, modelStep, MmapParams.step, BufferModel.map,
            BufferModel.mmapBacked, BufferModel.withMapping, Functor.map_map]
          rfl
      | unmap =>
          simp only [Option.map_some, modelStep, MmapParams.step, BufferModel.unmap,
            BufferModel.mmapBacked, BufferModel.withMapping, Functor.map_map]
          rfl
      | startSyncSession =>
          simp only [Option.map_some, modelStep, MmapParams.step, BufferModel.start,
            BufferModel.mmapBacked, BufferModel.withMapping, Functor.map_map]
          rfl
      | stopSyncSession =>
          simp only [Option.map_some, modelStep, MmapParams.step, BufferModel.stop,
            BufferModel.mmapBacked, BufferModel.withMapping, Functor.map_map]
          rfl
      | deallocate =>
          simp only [Option.map_some, modelStep, MmapParams.step, BufferModel.deallocate,
            BufferModel.mmapBacked, BufferModel.withMapping, Functor.map_map]
          rfl

/-- A call on an always mapped buffer only changes the mutable part. -/
theorem modelStep_alwaysMapped (m : BufferModel w) (p : AlwaysParams w) (s : Option CountState)
    (op : BufferCall) :
    modelStep (s.map (m.alwaysMapped p)) op =
      Prod.map id (Option.map (m.alwaysMapped p)) <$> p.step s op := by
  cases s with
  | none => rfl
  | some s =>
      cases op with
      | map flags errorNonNull =>
          simp only [Option.map_some, modelStep, AlwaysParams.step, BufferModel.map,
            BufferModel.alwaysMapped, BufferModel.withMapping, Functor.map_map]
          rfl
      | unmap =>
          simp only [Option.map_some, modelStep, AlwaysParams.step, BufferModel.unmap,
            BufferModel.alwaysMapped, BufferModel.withMapping, Functor.map_map]
          rfl
      | startSyncSession => rfl
      | stopSyncSession => rfl
      | deallocate =>
          simp only [Option.map_some, modelStep, AlwaysParams.step, BufferModel.deallocate,
            BufferModel.alwaysMapped, BufferModel.withMapping, map_bind]
          rfl

/-- A completed call on an mmap-based buffer is one on its mutable part. -/
theorem step_mmapBacked {b : DmaBuffer w} {m : BufferModel w} {p : MmapParams w} {s : SyncState w}
    (hb : b.view = m.mmapBacked p s) {op : BufferCall} {t : List (KEvent w)}
    {ret : Option (BitVec w)} {c : Option (DmaBuffer w)}
    (h : Runs (bufferStep (some b) op) t (.done (ret, c))) :
    ∃ u, c.map DmaBuffer.view = u.map (m.mmapBacked p) ∧
      Runs (p.step (some s) op) t (.done (ret, u)) := by
  have hmodel : Runs (modelStep ((some s).map (m.mmapBacked p)) op) t
      (.done (ret, c.map DmaBuffer.view)) := by
    rw [Option.map_some, ← hb, ← Option.map_some, view_step]
    exact runs_map_done_iff.mpr ⟨_, h, rfl⟩
  rw [modelStep_mmapBacked] at hmodel
  obtain ⟨⟨_, u⟩, hrun, heq⟩ := runs_map_done_iff.mp hmodel
  obtain ⟨rfl, hu⟩ := Prod.mk.inj heq
  exact ⟨u, hu.symm, hrun⟩

/-- Conversely, a completed call on the mutable part is one on the buffer. -/
theorem step_of_mmapBacked {b : DmaBuffer w} {m : BufferModel w} {p : MmapParams w}
    {s : SyncState w} (hb : b.view = m.mmapBacked p s) {op : BufferCall} {t : List (KEvent w)}
    {ret : Option (BitVec w)} {u : Option (SyncState w)}
    (h : Runs (p.step (some s) op) t (.done (ret, u))) :
    ∃ c, c.map DmaBuffer.view = u.map (m.mmapBacked p) ∧
      Runs (bufferStep (some b) op) t (.done (ret, c)) := by
  have hmodel : Runs (modelStep ((some b).map DmaBuffer.view) op) t
      (.done (ret, u.map (m.mmapBacked p))) := by
    rw [Option.map_some, hb, ← Option.map_some, modelStep_mmapBacked]
    exact runs_map_done_iff.mpr ⟨_, h, rfl⟩
  rw [view_step] at hmodel
  obtain ⟨⟨_, c⟩, hrun, heq⟩ := runs_map_done_iff.mp hmodel
  obtain ⟨rfl, hc⟩ := Prod.mk.inj heq
  exact ⟨c, hc, hrun⟩

/-- A completed call on an always mapped buffer is one on its mutable part. -/
theorem step_alwaysMapped {b : DmaBuffer w} {m : BufferModel w} {p : AlwaysParams w}
    {s : CountState} (hb : b.view = m.alwaysMapped p s) {op : BufferCall} {t : List (KEvent w)}
    {ret : Option (BitVec w)} {c : Option (DmaBuffer w)}
    (h : Runs (bufferStep (some b) op) t (.done (ret, c))) :
    ∃ u, c.map DmaBuffer.view = u.map (m.alwaysMapped p) ∧
      Runs (p.step (some s) op) t (.done (ret, u)) := by
  have hmodel : Runs (modelStep ((some s).map (m.alwaysMapped p)) op) t
      (.done (ret, c.map DmaBuffer.view)) := by
    rw [Option.map_some, ← hb, ← Option.map_some, view_step]
    exact runs_map_done_iff.mpr ⟨_, h, rfl⟩
  rw [modelStep_alwaysMapped] at hmodel
  obtain ⟨⟨_, u⟩, hrun, heq⟩ := runs_map_done_iff.mp hmodel
  obtain ⟨rfl, hu⟩ := Prod.mk.inj heq
  exact ⟨u, hu.symm, hrun⟩

/-- Conversely, a completed call on the mutable part is one on the buffer. -/
theorem step_of_alwaysMapped {b : DmaBuffer w} {m : BufferModel w} {p : AlwaysParams w}
    {s : CountState} (hb : b.view = m.alwaysMapped p s) {op : BufferCall} {t : List (KEvent w)}
    {ret : Option (BitVec w)} {u : Option CountState}
    (h : Runs (p.step (some s) op) t (.done (ret, u))) :
    ∃ c, c.map DmaBuffer.view = u.map (m.alwaysMapped p) ∧
      Runs (bufferStep (some b) op) t (.done (ret, c)) := by
  have hmodel : Runs (modelStep ((some b).map DmaBuffer.view) op) t
      (.done (ret, u.map (m.alwaysMapped p))) := by
    rw [Option.map_some, hb, ← Option.map_some, modelStep_alwaysMapped]
    exact runs_map_done_iff.mpr ⟨_, h, rfl⟩
  rw [view_step] at hmodel
  obtain ⟨⟨_, c⟩, hrun, heq⟩ := runs_map_done_iff.mp hmodel
  obtain ⟨rfl, hc⟩ := Prod.mk.inj heq
  exact ⟨c, hc, hrun⟩

/-- A call on an mmap-based buffer stops where the one on its mutable part does. -/
theorem halted_mmapBacked {b : DmaBuffer w} {m : BufferModel w} {p : MmapParams w}
    {s : SyncState w} (hb : b.view = m.mmapBacked p s) {op : BufferCall} {t : List (KEvent w)}
    {fault : Fault} :
    Runs (bufferStep (some b) op) t (.halted fault) ↔
      Runs (p.step (some s) op) t (.halted fault) := by
  have hbuffer := view_step (some b) op
  have hmodel := modelStep_mmapBacked m p (some s) op
  rw [Option.map_some, hb, ← Option.map_some, hmodel] at hbuffer
  have heq := congrArg (Runs · t (.halted fault)) hbuffer
  rwa [eq_iff_iff, runs_map_halted_iff, runs_map_halted_iff, iff_comm] at heq

/-- A call on an always mapped buffer stops where the one on its mutable part does. -/
theorem halted_alwaysMapped {b : DmaBuffer w} {m : BufferModel w} {p : AlwaysParams w}
    {s : CountState} (hb : b.view = m.alwaysMapped p s) {op : BufferCall} {t : List (KEvent w)}
    {fault : Fault} :
    Runs (bufferStep (some b) op) t (.halted fault) ↔
      Runs (p.step (some s) op) t (.halted fault) := by
  have hbuffer := view_step (some b) op
  have hmodel := modelStep_alwaysMapped m p (some s) op
  rw [Option.map_some, hb, ← Option.map_some, hmodel] at hbuffer
  have heq := congrArg (Runs · t (.halted fault)) hbuffer
  rwa [eq_iff_iff, runs_map_halted_iff, runs_map_halted_iff, iff_comm] at heq

/-- A completed map, as a completed call. -/
theorem bufferStep_map_iff {b b' : DmaBuffer w} {flags : BitVec 32} {errorNonNull : Bool}
    {t : List (KEvent w)} {ret : BitVec w} :
    Runs (bufferStep (some b) (.map flags errorNonNull)) t (.done (some ret, some b')) ↔
      Runs (imxDmaBufferMap b flags errorNonNull) t (.done (ret, b')) := by
  unfold bufferStep
  rw [runs_map_done_iff]
  constructor
  · intro h
    obtain ⟨⟨_, _⟩, hrun, heq⟩ := h
    obtain ⟨hret, hb⟩ := Prod.mk.inj heq
    obtain rfl := Option.some.inj hret
    obtain rfl := Option.some.inj hb
    exact hrun
  · intro h
    exact ⟨_, h, rfl⟩

/-- What a buffer is apart from its mutable part. -/
def DmaBuffer.skeleton : DmaBuffer w → DmaBuffer w
  | .dmaHeap allocator buffer => .dmaHeap allocator (buffer.withSync ⟨⟨0, 0, 0⟩, false⟩)
  | .ion allocator buffer => .ion allocator { buffer with toMapState := ⟨0, 0, 0⟩ }
  | .dwl allocator buffer => .dwl allocator { buffer with toCountState := ⟨0, 0⟩ }
  | .ipu allocator buffer => .ipu allocator { buffer with toMapState := ⟨0, 0, 0⟩ }
  | .g2d buffer => .g2d { buffer with toCountState := ⟨0, 0⟩ }
  | .pxp allocator buffer => .pxp allocator { buffer with toMapState := ⟨0, 0, 0⟩ }

/-- Maps only change the mutable part. -/
theorem map_skeleton {b b' : DmaBuffer w} {flags : BitVec 32} {errorNonNull : Bool}
    {t : List (KEvent w)} {ret : BitVec w}
    (h : Runs (imxDmaBufferMap b flags errorNonNull) t (.done (ret, b'))) :
    b'.skeleton = b.skeleton := by
  obtain ⟨kept, hkept, heq⟩ : ∃ kept : BitVec w × DmaBuffer w, kept.2.skeleton = b.skeleton ∧
      kept = (ret, b') := by
    cases b with
    | dmaHeap allocator buffer =>
        rw [imxDmaBufferMap, DmaHeapBuffer.map_eq, Functor.map_map] at h
        obtain ⟨result, -, hresult⟩ := runs_map_done_iff.mp h
        exact ⟨_, rfl, hresult⟩
    | ion allocator buffer =>
        rw [imxDmaBufferMap, IonBuffer.map_eq, Functor.map_map] at h
        obtain ⟨result, -, hresult⟩ := runs_map_done_iff.mp h
        exact ⟨_, rfl, hresult⟩
    | dwl allocator buffer =>
        simp only [imxDmaBufferMap, dwlAllocatorMap, bind_pure_comp, Functor.map_map] at h
        obtain ⟨result, -, hresult⟩ := runs_map_done_iff.mp h
        exact ⟨_, rfl, hresult⟩
    | ipu allocator buffer =>
        rw [imxDmaBufferMap, IpuBuffer.map_eq, Functor.map_map] at h
        obtain ⟨result, -, hresult⟩ := runs_map_done_iff.mp h
        exact ⟨_, rfl, hresult⟩
    | g2d buffer =>
        simp only [imxDmaBufferMap, g2dAllocatorMap, bind_pure_comp, Functor.map_map] at h
        obtain ⟨result, -, hresult⟩ := runs_map_done_iff.mp h
        exact ⟨_, rfl, hresult⟩
    | pxp allocator buffer =>
        rw [imxDmaBufferMap, PxpBuffer.map_eq, Functor.map_map] at h
        obtain ⟨result, -, hresult⟩ := runs_map_done_iff.mp h
        exact ⟨_, rfl, hresult⟩
  rwa [heq] at hkept

/-- So do unmaps. -/
theorem unmap_skeleton {b b' : DmaBuffer w} {t : List (KEvent w)}
    (h : Runs (imxDmaBufferUnmap b) t (.done b')) : b'.skeleton = b.skeleton := by
  cases b with
  | dmaHeap allocator buffer =>
      rw [imxDmaBufferUnmap, DmaHeapBuffer.unmap_eq, Functor.map_map] at h
      obtain ⟨result, -, rfl⟩ := runs_map_done_iff.mp h
      rfl
  | ion allocator buffer =>
      rw [imxDmaBufferUnmap, IonBuffer.unmap_eq, Functor.map_map] at h
      obtain ⟨result, -, rfl⟩ := runs_map_done_iff.mp h
      rfl
  | dwl allocator buffer =>
      simp only [imxDmaBufferUnmap, dwlAllocatorUnmap, bind_pure_comp, Functor.map_map] at h
      obtain ⟨result, -, rfl⟩ := runs_map_done_iff.mp h
      rfl
  | ipu allocator buffer =>
      rw [imxDmaBufferUnmap, IpuBuffer.unmap_eq allocator, Functor.map_map] at h
      obtain ⟨result, -, rfl⟩ := runs_map_done_iff.mp h
      rfl
  | g2d buffer =>
      simp only [imxDmaBufferUnmap, g2dAllocatorUnmap, bind_pure_comp, Functor.map_map] at h
      obtain ⟨result, -, rfl⟩ := runs_map_done_iff.mp h
      rfl
  | pxp allocator buffer =>
      rw [imxDmaBufferUnmap, PxpBuffer.unmap_eq allocator, Functor.map_map] at h
      obtain ⟨result, -, rfl⟩ := runs_map_done_iff.mp h
      rfl

/-- So do session starts, through either vtable. -/
theorem startSyncSession_skeleton {b b' : DmaBuffer w} {t : List (KEvent w)}
    (h : Runs (imxDmaBufferStartSyncSession b) t (.done b')) : b'.skeleton = b.skeleton := by
  cases b with
  | dmaHeap allocator buffer =>
      rw [DmaHeapBuffer.vtableStart_eq] at h
      obtain ⟨result, -, rfl⟩ := runs_map_done_iff.mp h
      rfl
  | _ =>
      obtain ⟨-, rfl⟩ := runs_ret_done_iff.mp h
      rfl

/-- So do session stops. -/
theorem stopSyncSession_skeleton {b b' : DmaBuffer w} {t : List (KEvent w)}
    (h : Runs (imxDmaBufferStopSyncSession b) t (.done b')) : b'.skeleton = b.skeleton := by
  cases b with
  | dmaHeap allocator buffer =>
      rw [DmaHeapBuffer.vtableStop_eq] at h
      obtain ⟨result, -, rfl⟩ := runs_map_done_iff.mp h
      rfl
  | _ =>
      obtain ⟨-, rfl⟩ := runs_ret_done_iff.mp h
      rfl

/-- **Calls only change the mutable part** of a buffer. -/
theorem bufferStep_skeleton {b b' : DmaBuffer w} {op : BufferCall} {t : List (KEvent w)}
    {ret : Option (BitVec w)} (h : Runs (bufferStep (some b) op) t (.done (ret, some b'))) :
    b'.skeleton = b.skeleton := by
  cases op with
  | map flags errorNonNull =>
      obtain ⟨⟨pointer, c⟩, hrun, heq⟩ := runs_map_done_iff.mp h
      obtain rfl := Option.some.inj (Prod.mk.inj heq).2
      exact map_skeleton hrun
  | unmap =>
      obtain ⟨c, hrun, heq⟩ := runs_map_done_iff.mp h
      obtain rfl := Option.some.inj (Prod.mk.inj heq).2
      exact unmap_skeleton hrun
  | startSyncSession =>
      obtain ⟨c, hrun, heq⟩ := runs_map_done_iff.mp h
      obtain rfl := Option.some.inj (Prod.mk.inj heq).2
      exact startSyncSession_skeleton hrun
  | stopSyncSession =>
      obtain ⟨c, hrun, heq⟩ := runs_map_done_iff.mp h
      obtain rfl := Option.some.inj (Prod.mk.inj heq).2
      exact stopSyncSession_skeleton hrun
  | deallocate =>
      obtain ⟨_, -, heq⟩ := runs_map_done_iff.mp h
      cases (Prod.mk.inj heq).2

theorem getPhysicalAddress_skeleton (b : DmaBuffer w) :
    imxDmaBufferGetPhysicalAddress b.skeleton = imxDmaBufferGetPhysicalAddress b := by
  cases b <;> rfl

theorem getSize_skeleton (b : DmaBuffer w) :
    imxDmaBufferGetSize b.skeleton = imxDmaBufferGetSize b := by
  cases b <;> rfl

theorem getFd_skeleton (b : DmaBuffer w) : imxDmaBufferGetFd b.skeleton = imxDmaBufferGetFd b := by
  cases b <;> rfl

theorem allocator_skeleton (b : DmaBuffer w) : b.skeleton.allocator = b.allocator := by
  cases b <;> rfl

/-- What is read off the skeleton stays the same. -/
theorem bufferStep_keeps {α : Type} (read : DmaBuffer w → α)
    (hread : ∀ b, read b.skeleton = read b) {b b' : DmaBuffer w} {op : BufferCall}
    {t : List (KEvent w)} {ret : Option (BitVec w)}
    (h : Runs (bufferStep (some b) op) t (.done (ret, some b'))) : read b' = read b := by
  rw [← hread b', bufferStep_skeleton h, hread]

section Transfer

variable {G : (bufferMachine w).Guard} {b : DmaBuffer w} {h : List (CallRecord w)}

/-- A history of an mmap-based buffer is one of its mutable part. -/
theorem steps_mmapBacked {m : BufferModel w} {p : MmapParams w} {s : SyncState w}
    (hb : b.view = m.mmapBacked p s) {K : p.machine.Guard}
    (hguard : ∀ c u op t, c.map DmaBuffer.view = u.map (m.mmapBacked p) → G c op t → K u op t)
    {finish : Option (DmaBuffer w)} (hs : (bufferMachine w).Steps G (some b) h finish) :
    ∃ s', p.machine.Steps K (some s) h s' ∧
      finish.map DmaBuffer.view = s'.map (m.mmapBacked p) := by
  have hmodel : (modelMachine w).Steps
      (fun v op t => ∃ c : Option (DmaBuffer w), c.map DmaBuffer.view = v ∧ G c op t)
      ((some s).map (m.mmapBacked p)) h (finish.map DmaBuffer.view) := by
    rw [Option.map_some, ← hb]
    exact steps_view (fun c _ _ hc => ⟨c, rfl, hc⟩) hs
  obtain ⟨s', hsteps, heq⟩ := @Machine.Steps.lift _ _ _ p.machine K (modelMachine w) _
    (Option.map (m.mmapBacked p)) (modelStep_mmapBacked m p)
    (fun u op t hu => by
      obtain ⟨c, hc, hG⟩ := hu
      exact hguard c u op t hc hG) h (some s) _ hmodel
  exact ⟨s', hsteps, heq.symm⟩

/-- A history of an always mapped buffer is one of its mutable part. -/
theorem steps_alwaysMapped {m : BufferModel w} {p : AlwaysParams w} {s : CountState}
    (hb : b.view = m.alwaysMapped p s) {K : p.machine.Guard}
    (hguard : ∀ c u op t, c.map DmaBuffer.view = u.map (m.alwaysMapped p) → G c op t → K u op t)
    {finish : Option (DmaBuffer w)} (hs : (bufferMachine w).Steps G (some b) h finish) :
    ∃ s', p.machine.Steps K (some s) h s' ∧
      finish.map DmaBuffer.view = s'.map (m.alwaysMapped p) := by
  have hmodel : (modelMachine w).Steps
      (fun v op t => ∃ c : Option (DmaBuffer w), c.map DmaBuffer.view = v ∧ G c op t)
      ((some s).map (m.alwaysMapped p)) h (finish.map DmaBuffer.view) := by
    rw [Option.map_some, ← hb]
    exact steps_view (fun c _ _ hc => ⟨c, rfl, hc⟩) hs
  obtain ⟨s', hsteps, heq⟩ := @Machine.Steps.lift _ _ _ p.machine K (modelMachine w) _
    (Option.map (m.alwaysMapped p)) (modelStep_alwaysMapped m p)
    (fun u op t hu => by
      obtain ⟨c, hc, hG⟩ := hu
      exact hguard c u op t hc hG) h (some s) _ hmodel
  exact ⟨s', hsteps, heq.symm⟩

end Transfer

section Sessions

/-- Sessions are started and stopped only while the buffer is mapped. -/
def SessionsWhileMapped : (bufferMachine w).Guard := fun (c : Option (DmaBuffer w)) op _ =>
  op = .startSyncSession ∨ op = .stopSyncSession → ∃ b, c = some b ∧ b.IsMapped

/-- The same condition on the mutable part of an mmap-based buffer. -/
def MmapParams.SessionsWhileMapped (p : MmapParams w) : p.machine.Guard :=
  fun (u : Option (SyncState w)) op _ => op = .startSyncSession ∨ op = .stopSyncSession →
    ∃ s, u = some s ∧ s.mappedVirtualAddress ≠ 0

/-- Observational equality of mmap-based buffers is that of their mutable parts. -/
theorem obsEq_mmapBacked {m : BufferModel w} {p : MmapParams w} {b b' : DmaBuffer w}
    {s s' : SyncState w} (hb : b.view = m.mmapBacked p s) (hb' : b'.view = m.mmapBacked p s') :
    (bufferMachine w).ObsEq SessionsWhileMapped kernelEvents (some b) (some b') ↔
      p.machine.ObsEq p.SessionsWhileMapped kernelEvents (some s) (some s') := by
  let H : (modelMachine w).Guard := fun (v : Option (BufferModel w)) op _ =>
    op = .startSyncSession ∨ op = .stopSyncSession → ∃ m, v = some m ∧ m.mapping.IsMapped
  have hbuffer := @Machine.obsEq_view _ _ _ (bufferMachine w) SessionsWhileMapped
    (modelMachine w) H (Option.map DmaBuffer.view) _ kernelEvents view_step
    (fun c op t => by
      refine imp_congr_right (fun _ => ?_)
      cases c <;> simp [view_isMapped])
    (some b) (some b')
  have hmutable := @Machine.obsEq_view _ _ _ p.machine p.SessionsWhileMapped
    (modelMachine w) H (Option.map (m.mmapBacked p)) _ kernelEvents (modelStep_mmapBacked m p)
    (fun u op t => by
      refine imp_congr_right (fun _ => ?_)
      cases u with
      | none => simp
      | some s =>
        simp [BufferModel.mmapBacked, BufferModel.withMapping, Mapping.IsMapped])
    (some s) (some s')
  rw [← hbuffer, ← hmutable, Option.map_some, Option.map_some, hb, hb']
  exact Iff.rfl

end Sessions

/-- A build against recent kernel headers, with the defaults of the build script. -/
def recentKernelConfig : BuildConfig where
  linuxVersionCode := kernelVersion 5 15 0
  dmaHeapDeviceNodePath := "/dev/dma_heap/linux,cma"
  dmaHeapAllocatesUncachedMemory := false
  dwlClientType := .hevcDec

/-- No earlier failure, and zeroed memory from `malloc`. -/
def cleanAmbient : Ambient := ⟨0, 0⟩

/-- A dma-heap allocator for cached memory. -/
def cachedHeap : DmaHeapAllocator where
  dmaHeapFd := 3
  dmaHeapFdIsInternal := true
  heapFlags := 0
  fdFlags := 2
  isCached := true
  syncVfuncs := .dmaHeap
  dmaHeapFd_nonneg := by decide
  syncVfuncs_eq := rfl

/-- The sample buffers have the descriptor 4. -/
theorem sample_dmabufFd_pos : (0 : Int) < 4 := by decide

/-- They are mapped at this address. -/
theorem sample_address_ne_null : (0x10000 : BitVec 64) ≠ 0 := by decide

/-- A buffer of that allocator, as `allocate` returns it. -/
def cachedBuffer : DmaBuffer 64 :=
  .dmaHeap cachedHeap {
    mappedVirtualAddress := 0
    mapFlags := 0
    mappingRefcount := 0
    dmabufFd := 4
    physicalAddress := 0x80000000
    size := 4096
    syncStarted := false
    dmabufFd_pos := sample_dmabufFd_pos }

/-- The allocation that returns it. -/
theorem cachedBuffer_allocated :
    Runs (imxDmaBufferAllocate recentKernelConfig (.dmaHeap cachedHeap) 4096 0 0 cleanAmbient true)
      [⟨.dmaHeapIoctlAlloc 3 4096 0 2, .ok 4⟩, ⟨.dmaBufIoctlPhys 4, .ok 0x80000000⟩]
      (.done (some cachedBuffer, 0)) :=
  .call _ (.call _ (.ret _))

/-- An IPU allocator with a device that the library opened. -/
def ipuDevice : IpuAllocator where
  ipuFd := 5
  ipuFdIsInternal := true
  ipuFd_nonneg := by decide

end ImxDmaBuffer
