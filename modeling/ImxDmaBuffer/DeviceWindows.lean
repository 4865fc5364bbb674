import Mathlib.Order.CompletePartialOrder
import Mathlib.Order.Interval.Set.Disjoint
import ImxDmaBuffer.AddressViews
import ImxDmaBuffer.UsedResources

/-!
# Where the devices may write

A client hands the physical address of a buffer to a device, together with its size.  The
device then reads and writes this window of physical memory, past all protection.  So the
windows of different buffers must never overlap, whichever allocators the buffers come
from, and each must lie in memory that was reserved for it and has not been given back.

The kernel hands out memory that is free; that is assumed.  The windows are not what was
handed out, though: most allocators move them for the sake of the alignment.
-/

namespace ImxDmaBuffer

open CallProgram ResourceLedger

variable {w : Nat} {config : BuildConfig}

/-- The physical memory that was reserved. -/
def BackendGrant.range (g : BackendGrant w) : Set Nat :=
  Set.Ico g.physicalAddress.toNat (g.physicalAddress.toNat + g.bytes.toNat)

/-- The memory of the DMA-BUFs in a trace: `size` bytes were requested, and an address
query said where they are. -/
def heapGrants (size : BitVec w) (t : List (KEvent w)) : List (BackendGrant w) :=
  t.filterMap fun
    | ⟨.dmaBufIoctlPhys _, .ok phys⟩ => some ⟨none, phys, size⟩
    | ⟨.ionIocCustomPhysDma _ _, .ok phys⟩ => some ⟨none, phys, size⟩
    | _ => none

/-- The memory that an allocation of `size` bytes was given. -/
def memoryGrants (size : BitVec w) (t : List (KEvent w)) : List (BackendGrant w) :=
  backendGrants t ++ heapGrants size t

namespace DmaBuffer

/-- What a buffer has recorded of the memory that was reserved for it. -/
def grant : DmaBuffer w → BackendGrant w
  | .dmaHeap _ b => ⟨none, b.physicalAddress, b.size⟩
  | .ion _ b => ⟨none, b.physicalAddress, b.size⟩
  | .dwl _ b => ⟨some b.dwlLinearMem.virtualAddress, b.dwlLinearMem.busAddress, b.actualSize⟩
  | .ipu _ b => ⟨none, b.physicalAddress, b.actualSize⟩
  | .g2d b => ⟨some b.buf.bufVaddr, b.buf.bufPaddr, b.actualSize⟩
  | .pxp _ b => ⟨none, b.memDesc.physAddr, b.memDesc.size⟩

/-- The window of physical memory that a device works on. -/
def window (b : DmaBuffer w) : Set Nat :=
  Set.Ico (imxDmaBufferGetPhysicalAddress b).toNat
    ((imxDmaBufferGetPhysicalAddress b).toNat + (imxDmaBufferGetSize b).toNat)

theorem grant_skeleton (b : DmaBuffer w) : b.skeleton.grant = b.grant := by
  cases b <;> rfl

theorem window_skeleton (b : DmaBuffer w) : b.skeleton.window = b.window := by
  rw [window, getPhysicalAddress_skeleton, getSize_skeleton, window]

/-- Where the memory is not displaced, the window is all of it. -/
theorem window_of_not_displaced {b : DmaBuffer w} (h : ¬ b.allocator.Displaces) :
    b.window = b.grant.range := by
  cases b with
  | dmaHeap => rfl
  | ion => rfl
  | _ => exact absurd trivial h

end DmaBuffer

section Allocate

variable {allocator : Allocator w} {size alignment : BitVec w} {heapIdMask left : BitVec 32}
  {ambient : Ambient} {errorNonNull : Bool} {t : List (KEvent w)} {b : DmaBuffer w}

/-- The address that a query answered is in the trace. -/
theorem PhysStep.mem_heapGrants {query : Except Errno (BitVec w) → KEvent w} {phys : BitVec w}
    (h : PhysStep query errorNonNull t phys) (hne : phys ≠ 0)
    (hquery : ∀ phys, heapGrants size [query (.ok phys)] = [⟨none, phys, size⟩]) :
    ⟨none, phys, size⟩ ∈ heapGrants size t := by
  cases h with
  | failed errno => exact absurd rfl hne
  | answered phys =>
      rw [hquery]
      exact List.mem_singleton_self _

theorem heapGrants_ionPhysQuery (ionFd fd : Int) (phys : BitVec w) :
    heapGrants size [ionPhysQuery config ionFd fd (.ok phys)] = [⟨none, phys, size⟩] := by
  unfold ionPhysQuery
  split <;> rfl

/-- **An allocated buffer** has recorded the memory that it was given. -/
theorem allocate_grant (h : Runs (imxDmaBufferAllocate config allocator size alignment heapIdMask
    ambient errorNonNull) t (.done (some b, left))) :
    (allocator.Displaces → backendGrants t = [b.grant]) ∧
      (¬ allocator.Displaces → b.grant ∈ heapGrants size t) := by
  obtain ⟨-, hstep⟩ := allocate_done h
  generalize hr : some b = r at hstep
  cases hstep with
  | dmaHeap hstep =>
      obtain ⟨buffer, rfl, rfl⟩ := Option.map_eq_some_iff.mp hr.symm
      refine ⟨fun hdisplaces => hdisplaces.elim, fun _ => ?_⟩
      cases hstep with
      | allocated fd hpos t phys hphys hne =>
          rw [← List.singleton_append, heapGrants, List.filterMap_append]
          exact List.mem_append_right _ (hphys.mem_heapGrants hne fun _ => rfl)
  | ion hstep =>
      obtain ⟨buffer, rfl, rfl⟩ := Option.map_eq_some_iff.mp hr.symm
      refine ⟨fun hdisplaces => hdisplaces.elim, fun _ => ?_⟩
      cases hstep with
      | allocated t fd left hfd hnonneg t' phys hphys hne =>
          rw [heapGrants, List.filterMap_append]
          exact List.mem_append_right _ (hphys.mem_heapGrants hne (heapGrants_ionPhysQuery _ _))
  | dwl hstep =>
      obtain ⟨buffer, rfl, rfl⟩ := Option.map_eq_some_iff.mp hr.symm
      cases hstep
      exact ⟨fun _ => rfl, fun hnot => absurd trivial hnot⟩
  | ipu hstep =>
      obtain ⟨buffer, rfl, rfl⟩ := Option.map_eq_some_iff.mp hr.symm
      cases hstep
      exact ⟨fun _ => rfl, fun hnot => absurd trivial hnot⟩
  | g2d hstep =>
      obtain ⟨buffer, rfl, rfl⟩ := Option.map_eq_some_iff.mp hr.symm
      cases hstep
      exact ⟨fun _ => rfl, fun hnot => absurd trivial hnot⟩
  | pxp hstep =>
      obtain ⟨buffer, rfl, rfl⟩ := Option.map_eq_some_iff.mp hr.symm
      cases hstep
      exact ⟨fun _ => rfl, fun hnot => absurd trivial hnot⟩

theorem grant_mem_memoryGrants (h : Runs (imxDmaBufferAllocate config allocator size alignment
    heapIdMask ambient errorNonNull) t (.done (some b, left))) : b.grant ∈ memoryGrants size t := by
  obtain ⟨hbackend, hheap⟩ := allocate_grant h
  by_cases hdisplaces : allocator.Displaces
  · apply List.mem_append_left
    rw [hbackend hdisplaces]
    exact List.mem_singleton_self _
  · exact List.mem_append_right _ (hheap hdisplaces)

/-- What is asked of a grant: it ends within the address space, the padded size can be
represented, and the memory of the PxP driver is aligned as it was asked for. -/
structure GrantFits (allocator : Allocator w) (size alignment : BitVec w) (g : BackendGrant w) :
    Prop where
  ends : g.physicalAddress.toNat + g.bytes.toNat ≤ 2 ^ w
  representable : size.toNat + alignment.toNat < 2 ^ w
  aligned : allocator.IsPxp →
    alignValTo g.physicalAddress (effectiveAlignment alignment) = g.physicalAddress

/-- The window of a new buffer lies in the memory that was reserved for it. -/
theorem allocate_window (hw : 0 < w) (h : Runs (imxDmaBufferAllocate config allocator size alignment
    heapIdMask ambient errorNonNull) t (.done (some b, left)))
    (hfits : GrantFits allocator size alignment b.grant) : b.window ⊆ b.grant.range := by
  obtain ⟨-, hallocator, hsize⟩ := allocate_fresh h
  by_cases hdisplaces : allocator.Displaces
  · obtain ⟨g, hg, hplaced⟩ := allocate_placed hdisplaces h
    obtain rfl : g = b.grant := List.singleton_inj.mp (hg.symm.trans ((allocate_grant h).1 hdisplaces))
    by_cases hpxp : allocator.IsPxp
    · have hwindow : b.window = b.grant.range := by
        rw [DmaBuffer.window, hplaced.physical, hfits.aligned hpxp, hsize, BackendGrant.range,
          (hplaced.unpadded hpxp).1]
      exact hwindow.subset
    · have hinside := window_inside_of_padded hw hplaced hpxp hsize (allocate_size_pos hw h)
        hfits.representable hfits.ends
      exact Set.Ico_subset_Ico hinside.starts hinside.ends
  · rw [← hallocator] at hdisplaces
    exact (DmaBuffer.window_of_not_displaced hdisplaces).subset

end Allocate

/-- The kernel hands out free memory: what is granted in an allocation fits the request as
far as the code relies on it, and overlaps nothing that was reserved for a buffer which is
still there. -/
def GrantsFreeMemory (L : LibraryState w) (op : LibraryCall w) (t : List (KEvent w)) : Prop :=
  ∀ i a size alignment ambient errorNonNull,
    op = .allocate i size alignment ambient errorNonNull → L.liveAllocator i = some a →
    ∀ g ∈ memoryGrants size t, GrantFits a size alignment g ∧
      ∀ j b, L.bufferAt j = some b → Disjoint g.range b.grant.range

/-- The windows of the buffers lie in memory that was reserved for each alone. -/
structure WindowsApart (L : LibraryState w) : Prop where
  inside : ∀ j b, L.bufferAt j = some b → b.window ⊆ b.grant.range
  apart : ∀ j k b b', j ≠ k → L.bufferAt j = some b → L.bufferAt k = some b' →
    Disjoint b.grant.range b'.grant.range

namespace WindowsApart

variable {L L' : LibraryState w} {op : LibraryCall w} {t : List (KEvent w)}
  {ret : LibraryReturn w}

theorem empty : WindowsApart (w := w) LibraryState.empty :=
  ⟨fun _ _ hb => (by cases hb), fun _ _ _ _ _ hb => (by cases hb)⟩

/-- What matters of a buffer is in its skeleton. -/
theorem of_skeletons (hwindows : WindowsApart L)
    (hkept : ∀ j b', L'.bufferAt j = some b' → ∃ b, L.bufferAt j = some b ∧
      b'.skeleton = b.skeleton) : WindowsApart L' := by
  constructor
  · intro j b' hb'
    obtain ⟨b, hb, hsame⟩ := hkept j b' hb'
    rw [← b'.window_skeleton, ← b'.grant_skeleton, hsame, b.window_skeleton, b.grant_skeleton]
    exact hwindows.inside j b hb
  · intro j k b' c' hne hb' hc'
    obtain ⟨b, hb, hsame⟩ := hkept j b' hb'
    obtain ⟨c, hc, hsame'⟩ := hkept k c' hc'
    rw [← b'.grant_skeleton, ← c'.grant_skeleton, hsame, hsame', b.grant_skeleton,
      c.grant_skeleton]
    exact hwindows.apart j k b c hne hb hc

/-- A new buffer that was given free memory. -/
theorem addBuffer (hwindows : WindowsApart L) {i : Nat} {left : BitVec 32} {b : DmaBuffer w}
    (hinside : b.window ⊆ b.grant.range)
    (hfree : ∀ j c, L.bufferAt j = some c → Disjoint b.grant.range c.grant.range) :
    WindowsApart (L.addBuffer i left (some b)).2 := by
  have hplaces : ∀ j c, (L.addBuffer i left (some b)).2.bufferAt j = some c →
      (L.bufferAt j = some c) ∨ (j = L.buffers.length ∧ c = b) := by
    intro j c hc
    obtain ⟨slot, hslot, hbuffer⟩ := Option.bind_eq_some_iff.mp hc
    rcases LibraryState.addBuffer_slot hslot with ⟨-, hold⟩ | ⟨hj, rfl⟩
    · exact Or.inl ((LibraryState.bufferAt_of_slot hold).trans hbuffer)
    · exact Or.inr ⟨hj, (Option.some.inj hbuffer).symm⟩
  constructor
  · intro j c hc
    rcases hplaces j c hc with hold | ⟨-, rfl⟩
    · exact hwindows.inside j c hold
    · exact hinside
  · intro j k c d hne hc hd
    rcases hplaces j c hc with hold | ⟨hj, rfl⟩
    · rcases hplaces k d hd with hold' | ⟨-, rfl⟩
      · exact hwindows.apart j k c d hne hold hold'
      · exact (hfree j c hold).symm
    · rcases hplaces k d hd with hold' | ⟨hk, -⟩
      · exact hfree k d hold'
      · exact absurd (hj.trans hk.symm) hne

/-- One call. -/
theorem step (hw : 0 < w) (hwindows : WindowsApart L) (hgrants : GrantsFreeMemory L op t)
    (hrun : Runs (libraryStep config L op) t (.done (ret, L'))) : WindowsApart L' := by
  cases buffersStep_of_done hrun with
  | keeps hop hbuffers =>
      apply hwindows.of_skeletons
      intro j b' hb'
      refine ⟨b', ?_, rfl⟩
      rwa [LibraryState.bufferAt, ← hbuffers]
  | allocates i b left hop hallocates =>
      obtain ⟨a, size, alignment, ambient, errorNonNull, rfl, hlive, hallocate⟩ := hallocates
      obtain ⟨hfits, hfree⟩ := hgrants i a size alignment ambient errorNonNull rfl hlive b.grant
        (grant_mem_memoryGrants hallocate)
      exact hwindows.addBuffer (allocate_window hw hallocate hfits) hfree
  | call j call b pointer c hlive hstep =>
      apply hwindows.of_skeletons
      intro k b' hb'
      by_cases hjk : j = k
      · subst hjk
        rw [LibraryState.bufferAt_setBuffer_same (LibraryState.lt_length_of_live hlive)] at hb'
        rw [hb'] at hstep
        exact ⟨b, LibraryState.bufferAt_of_live hlive, bufferStep_skeleton hstep⟩
      · rw [LibraryState.bufferAt_setBuffer_other hjk] at hb'
        exact ⟨b', hb', rfl⟩

end WindowsApart

/-- **Device windows never overlap.**  While the kernel hands out free memory only, and the
grants fit the requests, after every history the window of each buffer lies in memory that
was reserved for it and has not been given back, and no two windows have an address in
common. -/
theorem device_windows_apart (hw : 0 < w) {h : List (LibraryRecord w)} {L : LibraryState w}
    (hs : (libraryMachine w config).Steps GrantsFreeMemory LibraryState.empty h L) :
    ∃ held, replay resourceEffect 0 (historyEvents h) = some held ∧
      (∀ j b, L.bufferAt j = some b → b.memory ∈ held ∧ b.window ⊆ b.grant.range) ∧
      ∀ j k b b', j ≠ k → L.bufferAt j = some b → L.bufferAt k = some b' →
        Disjoint b.window b'.window := by
  have hwindows : WindowsApart L := by
    refine hs.track_history (R := fun _ (L : LibraryState w) => WindowsApart L) ?_ .empty
    intro _ L r L' hwindows hguard hrun
    exact hwindows.step hw hguard hrun
  obtain ⟨lost, hledger⟩ := ledger_of_steps hs
  refine ⟨L.resources + lost, hledger, fun j b hb => ⟨?_, hwindows.inside j b hb⟩, ?_⟩
  · exact Multiset.mem_add.mpr (Or.inl (LibraryState.mem_resources_of_bufferAt hb
      (Multiset.mem_cons_self _ _)))
  · intro j k b b' hne hb hb'
    exact (hwindows.apart j k b b' hne hb hb').mono (hwindows.inside j b hb)
      (hwindows.inside k b' hb')

/-- A G2D buffer in the memory right behind that of `alignedG2dBuffer`. -/
def nextG2dBuffer : DmaBuffer 64 :=
  .g2d {
    mapFlags := 0
    mappingRefcount := 0
    actualSize := 4112
    size := 4096
    alignedVirtualAddress := 0x70002010
    alignedPhysicalAddress := 0x80001020
    buf := ⟨0x70002008, 0x80001018⟩ }

/-- The allocation of a G2D buffer. -/
def g2dAllocated (j : Nat) (virt phys : BitVec 64) : LibraryRecord 64 :=
  ⟨.allocate 0 4096 16 cleanAmbient true, [⟨.g2dAlloc 4112 false, some ⟨virt, phys⟩⟩],
    .created (some j)⟩

/-- What is left to show of the guard where a G2D buffer is allocated. -/
theorem g2d_grants_free {slots : List (BufferSlot 64)} {j : Nat} {virt phys : BitVec 64}
    (hends : phys.toNat + 4112 ≤ 2 ^ 64)
    (hfree : ∀ slot ∈ slots, ∀ b, slot.buffer = some b →
      Disjoint (Set.Ico phys.toNat (phys.toNat + 4112)) b.grant.range) :
    GrantsFreeMemory ⟨[some .g2d], slots, 0⟩ (g2dAllocated j virt phys).op
      (g2dAllocated j virt phys).events := by
  intro i a size alignment ambient errorNonNull hop hlive
  cases hop
  obtain rfl := Option.some.inj hlive
  refine List.forall_mem_singleton.mpr ⟨⟨hends, by decide, fun hpxp => hpxp.elim⟩, ?_⟩
  intro k b hb
  obtain ⟨slot, hslot, hbuffer⟩ := Option.bind_eq_some_iff.mp hb
  exact hfree slot (List.mem_of_getElem? hslot) b hbuffer

/-- The windows of two neighbours do not overlap. -/
theorem neighbours_apart : Disjoint alignedG2dBuffer.window nextG2dBuffer.window := by
  let first : LibraryState 64 := ⟨[some .g2d], [⟨0, some alignedG2dBuffer⟩], 0⟩
  let both : LibraryState 64 :=
    ⟨[some .g2d], [⟨0, some alignedG2dBuffer⟩, ⟨0, some nextG2dBuffer⟩], 0⟩
  have hsecond : (libraryMachine 64 recentKernelConfig).Steps GrantsFreeMemory first
      [g2dAllocated 1 0x70002008 0x80001018] both := by
    refine .single (g2d_grants_free (by decide) ?_) (.call _ (.ret _))
    refine List.forall_mem_singleton.mpr fun b hb => ?_
    obtain rfl := Option.some.inj hb
    exact Set.Ico_disjoint_Ico.mpr (by decide)
  have hs : (libraryMachine 64 recentKernelConfig).Steps GrantsFreeMemory LibraryState.empty
      [⟨.newG2d, [], .created (some 0)⟩, g2dAllocated 0 0x70000008 0x80000008,
        g2dAllocated 1 0x70002008 0x80001018] both := by
    refine .cons (fun _ _ _ _ _ _ hop => (by cases hop)) (.ret _) ?_
    exact .cons (g2d_grants_free (by decide) (List.forall_mem_nil _)) (.call _ (.ret _)) hsecond
  obtain ⟨held, -, -, hapart⟩ := device_windows_apart (by decide) hs
  exact hapart 0 1 _ _ (by decide) rfl rfl

end ImxDmaBuffer
