import ImxDmaBuffer.Library.LedgerTriples
import ImxDmaBuffer.DefaultAllocator
import ImxDmaBuffer.ResourceOwnership
import ImxDmaBuffer.AddressViews

/-!
# The test program

`test-alloc` creates an allocator of every back end of the build, allocates a buffer, maps
it twice, looks at its address, and leaves by the label `finish` from wherever something
went wrong.  It is the one client of the library in the repository.

The ledger of the program is empty at its end, on every path through it and for all
answers of the kernel, except for memory that the library was given at the address 0.
What the program tests is less than it seems: the size and the second pointer are always
what it expects.
-/

namespace ImxDmaBuffer

open CallProgram ResourceLedger

variable {w : Nat} {config : BuildConfig}

/-- `expected_buffer_size` -/
def expectedBufferSize : BitVec w := 4096

/-- `expected_alignment` -/
def expectedAlignment : BitVec w := 16

/-- The local variables of `check_allocation` at the label `finish`. -/
structure CheckLocals (w : Nat) where
  retval : Int
  dmaBuffer : Option (DmaBuffer w)
  mappedVirtualAddress : BitVec w
  secondMappedVirtualAddress : BitVec w

/-- The part of `check_allocation` that works with the buffer. -/
def checkBuffer (dmaBuffer : DmaBuffer w) : Code w (CheckLocals w) := do
  if imxDmaBufferGetSize dmaBuffer ≠ expectedBufferSize then
    return ⟨0, some dmaBuffer, 0, 0⟩
  let (mapped, dmaBuffer) ← imxDmaBufferMap dmaBuffer 0 true
  if mapped = 0 then
    return ⟨0, some dmaBuffer, mapped, 0⟩
  let (secondMapped, dmaBuffer) ← imxDmaBufferMap dmaBuffer 0 true
  if secondMapped = 0 then
    return ⟨0, some dmaBuffer, mapped, secondMapped⟩
  if mapped ≠ secondMapped then
    return ⟨0, some dmaBuffer, mapped, secondMapped⟩
  let physicalAddress := imxDmaBufferGetPhysicalAddress dmaBuffer
  if physicalAddress = 0 then
    return ⟨0, some dmaBuffer, mapped, secondMapped⟩
  if physicalAddress &&& expectedAlignment ≠ 0 then
    return ⟨0, some dmaBuffer, mapped, secondMapped⟩
  return ⟨1, some dmaBuffer, mapped, secondMapped⟩

/-- `check_allocation` up to the label `finish`. -/
def checkAllocationBody (config : BuildConfig) (allocator : Option (Allocator w))
    (heapIdMask : BitVec 32) (ambient : Ambient) : Code w (CheckLocals w × BitVec 32) :=
  match allocator with
  | none => pure (⟨0, none, 0, 0⟩, heapIdMask)
  | some allocator => do
      let (dmaBuffer, heapIdMask) ← imxDmaBufferAllocate config allocator expectedBufferSize
        expectedAlignment heapIdMask ambient true
      match dmaBuffer with
      | none => return (⟨0, none, 0, 0⟩, heapIdMask)
      | some dmaBuffer =>
          let locals ← checkBuffer dmaBuffer
          return (locals, heapIdMask)

/-- `if (pointer != NULL) imx_dma_buffer_unmap(dma_buffer)` -/
def unmapIfMapped (pointer : BitVec w) :
    Option (DmaBuffer w) → Code w (Option (DmaBuffer w))
  | none => do
      -- `imx_dma_buffer_unmap` asserts that there is a buffer.
      assertThat (pointer = 0)
      return none
  | some dmaBuffer =>
      if pointer ≠ 0 then some <$> imxDmaBufferUnmap dmaBuffer else pure (some dmaBuffer)

/-- `check_allocation` from the label `finish` on. -/
def checkAllocationFinish (allocator : Option (Allocator w)) (locals : CheckLocals w) :
    Code w Unit := do
  let dmaBuffer ← unmapIfMapped locals.secondMappedVirtualAddress locals.dmaBuffer
  let dmaBuffer ← unmapIfMapped locals.mappedVirtualAddress dmaBuffer
  match dmaBuffer with
  | none => pure ()
  | some dmaBuffer => imxDmaBufferDeallocate dmaBuffer
  match allocator with
  | none => pure ()
  | some allocator => imxDmaBufferAllocatorDestroy allocator

/-- `check_allocation`, without the messages. -/
def checkAllocation (config : BuildConfig) (allocator : Option (Allocator w))
    (heapIdMask : BitVec 32) (ambient : Ambient) : Code w (Int × BitVec 32) := do
  let (locals, heapIdMask) ← checkAllocationBody config allocator heapIdMask ambient
  checkAllocationFinish allocator locals
  return (locals.retval, heapIdMask)

/-- The part of `main` for one back end: the allocator that was created is checked. The
state is `retval` and the static variable of `get_heap_id_mask`. -/
def checkBackEnd (config : BuildConfig) (ambient : Ambient)
    (create : Code w (Option (Allocator w))) (s : Int × BitVec 32) : Code w (Int × BitVec 32) := do
  match ← create with
  | none => return (-1, s.2)
  | some allocator =>
      let (passed, heapIdMask) ← checkAllocation config (some allocator) s.2 ambient
      return (if passed = 0 then -1 else s.1, heapIdMask)

/-- A part of `main` that the build leaves out where the back end is not enabled. -/
def whenEnabled (enabled : Bool) (part : Int × BitVec 32 → Code w (Int × BitVec 32))
    (s : Int × BitVec 32) : Code w (Int × BitVec 32) :=
  if enabled then part s else pure s

/-- `main` of the test program. The memory that `malloc` returns may differ for every back
end. -/
def testAllocMain (config : BuildConfig) (enabled : EnabledAllocators)
    (dmaHeap ion dwl ipu g2d pxp : Ambient) : Code w (Int × BitVec 32) := do
  let s ← whenEnabled enabled.dmaHeap (checkBackEnd config dmaHeap
    (Option.map .dmaHeap <$> dmaHeapAllocatorNew config (-1) dmaHeapAllocatorDefaultHeapFlags
      dmaHeapAllocatorDefaultFdFlags true)) (0, 0)
  let s ← whenEnabled enabled.ion (checkBackEnd config ion
    (Option.map .ion <$> ionAllocatorNew (-1) ionAllocatorDefaultHeapIdMask
      ionAllocatorDefaultHeapFlags true)) s
  let s ← whenEnabled enabled.dwl (checkBackEnd config dwl
    (Option.map .dwl <$> dwlAllocatorNew config true)) s
  let s ← whenEnabled enabled.ipu (checkBackEnd config ipu
    (Option.map .ipu <$> ipuAllocatorNew (-1) true)) s
  let s ← whenEnabled enabled.g2d (checkBackEnd config g2d (some <$> g2dAllocatorNew)) s
  whenEnabled enabled.pxp (checkBackEnd config pxp
    (Option.map .pxp <$> pxpAllocatorNew (-1) true)) s

section Ledger

/-- Mapping a buffer accounts for its mapping. -/
theorem map_leaves (b : DmaBuffer w) (flags : BitVec 32) (errorNonNull : Bool) :
    Leaves libraryEffect b.resources (imxDmaBufferMap b flags errorNonNull)
      fun r => r.2.resources := by
  intro t r hrun
  exact bufferStep_turns (bufferStep_map_iff.mpr hrun)

/-- So does unmapping it. -/
theorem unmap_leaves (b : DmaBuffer w) :
    Leaves libraryEffect b.resources (imxDmaBufferUnmap b) DmaBuffer.resources := by
  intro t b' hrun
  have hstep : Runs (bufferStep (some b) .unmap) t (.done (none, some b')) :=
    runs_map_done_iff.mpr ⟨b', hrun, rfl⟩
  exact bufferStep_turns hstep

/-- Deallocating a buffer leaves nothing of it. -/
theorem deallocate_leaves (b : DmaBuffer w) :
    Leaves libraryEffect b.resources (imxDmaBufferDeallocate b) fun _ => 0 := by
  intro t u hrun
  have hstep : Runs (bufferStep (some b) .deallocate) t (.done (none, none)) :=
    runs_map_done_iff.mpr ⟨u, hrun, rfl⟩
  exact bufferStep_turns hstep

/-- An allocation leaves the resources of the new buffer. -/
theorem allocate_leaves (allocator : Allocator w) (size alignment : BitVec w)
    (heapIdMask : BitVec 32) (ambient : Ambient) (errorNonNull : Bool) :
    Leaves libraryEffect 0
      (imxDmaBufferAllocate config allocator size alignment heapIdMask ambient errorNonNull)
      fun r => resourcesLeft r.1 :=
  fun _ _ hrun => allocate_turns hrun

/-- Destroying an allocator leaves nothing of it. -/
theorem destroy_leaves {allocator : Allocator w} (hcloses : allocator.ClosesDevice) :
    Leaves libraryEffect allocator.device (imxDmaBufferAllocatorDestroy allocator) fun _ => 0 :=
  fun _ _ hrun => (destroy_turns (fun _ _ => libraryEffect_of_releases) hcloses hrun).1

/-- An allocator that has served an allocation closes its device: the dma-heap allocator
asserts that its descriptor is positive. -/
theorem closesDevice_of_allocate {allocator : Allocator w} {size alignment : BitVec w}
    {heapIdMask : BitVec 32} {ambient : Ambient} {errorNonNull : Bool} {t : List (KEvent w)}
    {r : Option (DmaBuffer w) × BitVec 32}
    (h : Runs (imxDmaBufferAllocate config allocator size alignment heapIdMask ambient
      errorNonNull) t (.done r)) : allocator.ClosesDevice := by
  obtain ⟨-, hbody⟩ := runs_require_bind_iff.mp h
  cases allocator with
  | dmaHeap a =>
      obtain ⟨first, rest, buffer, rfl, hfirst, -⟩ := runs_bind_done_iff.mp hbody
      obtain ⟨hopen, -⟩ := runs_require_bind_iff.mp hfirst
      intro _ hzero
      exact (Int.lt_irrefl 0) (hzero ▸ hopen)
  | _ => trivial

/-- The check keeps to the resources of the buffer. -/
theorem checkBuffer_leaves (b : DmaBuffer w) :
    Leaves libraryEffect b.resources (checkBuffer b) fun locals =>
      resourcesLeft locals.dmaBuffer := by
  unfold checkBuffer
  apply Leaves.ite
  · intro _
    exact .ret rfl
  · intro _
    apply (map_leaves b 0 true).bind
    intro ⟨mapped, b₁⟩ _
    apply Leaves.ite
    · intro _
      exact .ret rfl
    · intro _
      apply (map_leaves b₁ 0 true).bind
      intro ⟨secondMapped, b₂⟩ _
      apply Leaves.ite
      · intro _
        exact .ret rfl
      · intro _
        apply Leaves.ite
        · intro _
          exact .ret rfl
        · intro _
          apply Leaves.ite
          · intro _
            exact .ret rfl
          · intro _
            apply Leaves.ite
            · intro _
              exact .ret rfl
            · intro _
              exact .ret rfl

theorem unmapIfMapped_leaves (pointer : BitVec w) (b : Option (DmaBuffer w)) :
    Leaves libraryEffect (resourcesLeft b) (unmapIfMapped pointer b) resourcesLeft := by
  cases b with
  | none =>
      apply Leaves.require_bind
      intro _
      exact .ret rfl
  | some b =>
      apply Leaves.ite
      · intro _
        exact Leaves.map (f := some) (unmap_leaves b)
      · intro _
        exact .ret rfl

/-- The label `finish` leaves nothing, of the buffer or of the allocator. -/
theorem checkAllocationFinish_leaves {allocator : Allocator w} (hcloses : allocator.ClosesDevice)
    (locals : CheckLocals w) :
    Leaves libraryEffect (resourcesLeft locals.dmaBuffer + allocator.device)
      (checkAllocationFinish (some allocator) locals) fun _ => 0 := by
  apply ((unmapIfMapped_leaves _ _).frame allocator.device).bind
  intro b₁ _
  apply ((unmapIfMapped_leaves _ b₁).frame allocator.device).bind
  intro b₂ _
  have hdestroy : Leaves libraryEffect (0 + allocator.device)
      (imxDmaBufferAllocatorDestroy allocator) fun _ => 0 := by
    rw [zero_add]
    exact destroy_leaves hcloses
  cases b₂ with
  | none => exact hdestroy
  | some b =>
      apply ((deallocate_leaves b).frame allocator.device).bind
      intro _ _
      exact hdestroy

/-- The part before the label leaves the resources of the buffer, and has served an
allocation. -/
theorem checkAllocationBody_leaves (allocator : Allocator w) (heapIdMask : BitVec 32)
    (ambient : Ambient) :
    Leaves libraryEffect 0 (checkAllocationBody config (some allocator) heapIdMask ambient)
      fun r => resourcesLeft r.1.dmaBuffer := by
  apply (allocate_leaves allocator _ _ _ _ _).bind
  intro ⟨b, left⟩ _
  cases b with
  | none => exact .ret rfl
  | some b =>
      apply (checkBuffer_leaves b).bind
      intro locals _
      exact .ret rfl

theorem closesDevice_of_body {allocator : Allocator w} {heapIdMask : BitVec 32}
    {ambient : Ambient} {t : List (KEvent w)} {r : CheckLocals w × BitVec 32}
    (h : Runs (checkAllocationBody config (some allocator) heapIdMask ambient) t (.done r)) :
    allocator.ClosesDevice := by
  obtain ⟨first, rest, _, -, hfirst, -⟩ := runs_bind_done_iff.mp h
  exact closesDevice_of_allocate hfirst

/-- **The check leaves nothing**, neither of the buffer nor of the allocator it is given. -/
theorem checkAllocation_leaves (allocator : Allocator w) (heapIdMask : BitVec 32)
    (ambient : Ambient) :
    Leaves libraryEffect allocator.device
      (checkAllocation config (some allocator) heapIdMask ambient) fun _ => 0 := by
  have hbody := (@checkAllocationBody_leaves w config allocator heapIdMask ambient).frame
    allocator.device
  rw [zero_add] at hbody
  apply hbody.bind
  intro ⟨locals, left⟩ ⟨t, hrun⟩
  apply (checkAllocationFinish_leaves (closesDevice_of_body hrun) locals).bind
  intro _ _
  exact .ret rfl

/-- A constructor and the check of what it created leave nothing. -/
theorem checkBackEnd_leaves {create : Code w (Option (Allocator w))} (ambient : Ambient)
    (s : Int × BitVec 32)
    (hcreate : Leaves libraryEffect 0 create fun a => a.elim 0 Allocator.device) :
    Leaves libraryEffect 0 (checkBackEnd config ambient create s) fun _ => 0 := by
  apply hcreate.bind
  intro a _
  cases a with
  | none => exact .ret rfl
  | some allocator =>
      apply (checkAllocation_leaves allocator s.2 ambient).bind
      intro ⟨passed, left⟩ _
      exact .ret rfl

theorem whenEnabled_leaves {enabled : Bool} {part : Int × BitVec 32 → Code w (Int × BitVec 32)}
    (hpart : ∀ s, Leaves libraryEffect 0 (part s) fun _ => 0) (s : Int × BitVec 32) :
    Leaves libraryEffect 0 (whenEnabled enabled part s) fun _ => 0 := by
  apply Leaves.ite
  · intro _
    exact hpart s
  · intro _
    exact .ret rfl

/-- As the library believes, the program leaves nothing. -/
theorem testAllocMain_leaves (enabled : EnabledAllocators)
    (dmaHeap ion dwl ipu g2d pxp : Ambient) :
    Leaves (S := kernel w) libraryEffect 0
      (testAllocMain config enabled dmaHeap ion dwl ipu g2d pxp) fun _ => 0 := by
  apply (whenEnabled_leaves (fun s => checkBackEnd_leaves _ s (dmaHeapNew_leaves _ _ _ _)) _).bind
  intro s _
  apply (whenEnabled_leaves (fun s => checkBackEnd_leaves _ s (ionNew_leaves _ _ _ _)) s).bind
  intro s _
  apply (whenEnabled_leaves (fun s => checkBackEnd_leaves _ s (dwlNew_leaves _)) s).bind
  intro s _
  apply (whenEnabled_leaves (fun s => checkBackEnd_leaves _ s (ipuNew_leaves _ _)) s).bind
  intro s _
  apply (whenEnabled_leaves (fun s => checkBackEnd_leaves _ s g2dNew_leaves) s).bind
  intro s _
  exact whenEnabled_leaves (fun s => checkBackEnd_leaves _ s (pxpNew_leaves _ _)) s

/-- **The test program leaves nothing behind.**  At the end of every completed run, and
whatever the kernel answered, the ledger holds the memory that was reserved at the address
0 and nothing else. -/
theorem test_alloc_leaves_nothing {enabled : EnabledAllocators}
    {dmaHeap ion dwl ipu g2d pxp : Ambient} {t : List (KEvent w)} {r : Int × BitVec 32}
    (h : Runs (testAllocMain config enabled dmaHeap ion dwl ipu g2d pxp) t (.done r)) :
    replay resourceEffect 0 t = some (lostOf abandons t) := by
  have hturns := turns_with_abandoned (testAllocMain_leaves enabled dmaHeap ion dwl ipu g2d pxp t r h)
  rwa [zero_add] at hturns

/-- A build with the IPU and G2D back ends. -/
def ipuAndG2d : EnabledAllocators where
  dmaHeap := false
  ion := false
  dwl := false
  ipu := true
  g2d := true
  pxp := false

/-- The check of the IPU back end, on a kernel that serves every call. -/
def ipuCheck : List (KEvent 64) :=
  [⟨.openDevice "/dev/mxc_ipu" .rdwr, .ok 5⟩, ⟨.ipuAlloc 5 4112, .ok 0x80000000⟩,
   ⟨.mmap 4096 0 5 0x80000000, .ok ⟨0x10000, sample_address_ne_null⟩⟩, ⟨.munmap 0x10000 4096, ()⟩,
   ⟨.ipuFree 5 0x80000000, ()⟩, ⟨.close 5, ()⟩]

/-- The check of the G2D back end, on memory at this physical address. -/
def g2dCheck (physicalAddress : BitVec 64) : List (KEvent 64) :=
  [⟨.g2dAlloc 4112 false, some ⟨0x70000000, physicalAddress⟩⟩,
   ⟨.g2dFree ⟨0x70000000, physicalAddress⟩, ()⟩]

/-- Both in one run of the program. -/
theorem ipu_and_g2d_left_nothing :
    replay resourceEffect 0 (ipuCheck ++ g2dCheck 0x80000000) = some 0 := by
  have hrun : Runs (testAllocMain recentKernelConfig ipuAndG2d cleanAmbient cleanAmbient
      cleanAmbient cleanAmbient cleanAmbient cleanAmbient) (ipuCheck ++ g2dCheck 0x80000000)
      (.done (0, 0)) :=
    .call _ (.call _ (.call _ (.call _ (.call _ (.call _ (.call _ (.call _ (.ret _))))))))
  exact test_alloc_leaves_nothing hrun

end Ledger

section Verdict

/-- A map of a buffer that a map has just returned a pointer to returns it again. -/
theorem map_again {b b₁ b₂ : DmaBuffer w} {flags flags' : BitVec 32}
    {errorNonNull errorNonNull' : Bool} {t t' : List (KEvent w)} {pointer pointer' : BitVec w}
    (h : Runs (imxDmaBufferMap b flags errorNonNull) t (.done (pointer, b₁)))
    (h' : Runs (imxDmaBufferMap b₁ flags' errorNonNull') t' (.done (pointer', b₂)))
    (hne : pointer ≠ 0) : pointer' = pointer := by
  have hrun := bufferStep_map_iff.mpr h
  have hrun' := bufferStep_map_iff.mpr h'
  cases hmapped : b.mappedVirtualAddress with
  | some address =>
      obtain ⟨p, s, hb⟩ := view_mmapBacked hmapped
      obtain ⟨u, hc, hstep⟩ := step_mmapBacked hb hrun
      obtain ⟨s₁, rfl, hs₁⟩ := Option.map_eq_some_iff.mp hc.symm
      obtain ⟨u', -, hstep'⟩ := step_mmapBacked hs₁.symm hrun'
      have hdone : p.Step s (.map flags errorNonNull) t (some pointer) (some s₁) :=
        MmapParams.step_done hstep
      have hdone' : p.Step s₁ (.map flags' errorNonNull') t' (some pointer') u' :=
        MmapParams.step_done hstep'
      cases hdone with
      | map hmap =>
          rw [hmap.ret_eq] at hne ⊢
          cases hdone' with
          | map hmap' =>
              cases hmap' with
              | redundant => rfl
              | failed hunmapped => exact absurd hunmapped hne
              | fresh hunmapped => exact absurd hunmapped hne
  | none =>
      obtain ⟨p, s, hb⟩ := view_alwaysMapped hmapped
      obtain ⟨u, hc, hstep⟩ := step_alwaysMapped hb hrun
      obtain ⟨s₁, rfl, hs₁⟩ := Option.map_eq_some_iff.mp hc.symm
      obtain ⟨u', -, hstep'⟩ := step_alwaysMapped hs₁.symm hrun'
      have hdone : p.Step s (.map flags errorNonNull) t (some pointer) (some s₁) :=
        AlwaysParams.step_done hstep
      have hdone' : p.Step s₁ (.map flags' errorNonNull') t' (some pointer') u' :=
        AlwaysParams.step_done hstep'
      cases hdone
      cases hdone'
      rfl

/-- `&` with the alignment of 16 bytes, as the check applies it, tests bit 4. -/
theorem and_expectedAlignment (physicalAddress : BitVec w) :
    physicalAddress &&& expectedAlignment = 0 ↔ physicalAddress.getLsbD 4 = false := by
  have htwoPow : (expectedAlignment : BitVec w) = BitVec.twoPow w 4 := by
    apply BitVec.eq_of_toNat_eq
    rw [expectedAlignment, BitVec.toNat_twoPow, BitVec.ofNat_eq_ofNat, BitVec.toNat_ofNat]
  rw [htwoPow, BitVec.and_twoPow]
  by_cases hbit : physicalAddress.getLsbD 4 = true
  · have hlt : 4 < w := BitVec.lt_of_getLsbD hbit
    have hne : BitVec.twoPow w 4 ≠ 0 := by
      intro hzero
      have htoNat := congrArg BitVec.toNat hzero
      rw [BitVec.toNat_twoPow_of_lt hlt] at htoNat
      simp at htoNat
    rw [if_pos hbit, hbit]
    exact ⟨fun h => absurd h hne, fun h => (by cases h)⟩
  · rw [if_neg hbit, Bool.not_eq_true] at *
    exact ⟨fun _ => hbit, fun _ => rfl⟩

/-- What the check finds good. -/
structure Passes (b : DmaBuffer w) (pointer : BitVec w) : Prop where
  mapped : pointer ≠ 0
  address : imxDmaBufferGetPhysicalAddress b ≠ 0
  bit : (imxDmaBufferGetPhysicalAddress b).getLsbD 4 = false

/-- The address 0x80000010 is a multiple of 16 and fails, 0x80000008 is none and does not. -/
example : (0x80000010 : BitVec 64).getLsbD 4 = true ∧ (0x80000008 : BitVec 64).getLsbD 4 = false := by
  decide

/-- Of the tests of the buffer three can fail: the map, and the two of the address. -/
theorem checkBuffer_passes_iff {b : DmaBuffer w} (hsize : imxDmaBufferGetSize b = expectedBufferSize)
    {t : List (KEvent w)} {locals : CheckLocals w} (h : Runs (checkBuffer b) t (.done locals)) :
    (locals.retval = 0 ∨ locals.retval = 1) ∧ ∃ first pointer b', first <+: t ∧
      Runs (imxDmaBufferMap b 0 true) first (.done (pointer, b')) ∧
        (locals.retval = 1 ↔ Passes b pointer) := by
  unfold checkBuffer at h
  rw [if_neg (not_not.mpr hsize)] at h
  obtain ⟨first, second, ⟨pointer, b₁⟩, rfl, hfirst, hsecond⟩ := runs_bind_done_iff.mp h
  have hplace := bufferStep_keeps _ getPhysicalAddress_skeleton (bufferStep_map_iff.mpr hfirst)
  suffices hverdict : (locals.retval = 0 ∨ locals.retval = 1) ∧
      (locals.retval = 1 ↔ Passes b pointer) from
    ⟨hverdict.1, first, pointer, b₁, List.prefix_append first second, hfirst, hverdict.2⟩
  have hfails : ∀ {locals' : CheckLocals w} {t : List (KEvent w)}, locals'.retval = 0 →
      ¬ Passes b pointer → Runs (S := kernel w) (.ret locals') t (.done locals) →
      (locals.retval = 0 ∨ locals.retval = 1) ∧ (locals.retval = 1 ↔ Passes b pointer) := by
    intro locals' t hzero hnot hret
    obtain ⟨-, rfl⟩ := runs_ret_done_iff.mp hret
    rw [hzero]
    exact ⟨Or.inl rfl, fun h => (by cases h), fun hpasses => absurd hpasses hnot⟩
  simp only at hsecond
  by_cases hnull : pointer = 0
  · rw [if_pos hnull] at hsecond
    exact hfails rfl (fun hpasses => hpasses.mapped hnull) hsecond
  · rw [if_neg hnull] at hsecond
    obtain ⟨third, fourth, ⟨pointer', b₂⟩, rfl, hthird, hfourth⟩ := runs_bind_done_iff.mp hsecond
    obtain rfl := map_again hfirst hthird hnull
    have hplace₂ :=
      (bufferStep_keeps _ getPhysicalAddress_skeleton (bufferStep_map_iff.mpr hthird)).trans hplace
    simp only [hplace₂] at hfourth
    rw [if_neg hnull, if_neg (not_not.mpr rfl)] at hfourth
    by_cases hzero : imxDmaBufferGetPhysicalAddress b = 0
    · rw [if_pos hzero] at hfourth
      exact hfails rfl (fun hpasses => hpasses.address hzero) hfourth
    · rw [if_neg hzero] at hfourth
      by_cases hbit : imxDmaBufferGetPhysicalAddress b &&& expectedAlignment = 0
      · rw [if_neg (not_not.mpr hbit)] at hfourth
        obtain ⟨-, rfl⟩ := runs_ret_done_iff.mp hfourth
        exact ⟨Or.inr rfl, fun _ => ⟨hnull, hzero, (and_expectedAlignment _).mp hbit⟩, fun _ => rfl⟩
      · rw [if_pos hbit] at hfourth
        exact hfails rfl (fun hpasses => hbit ((and_expectedAlignment _).mpr hpasses.bit)) hfourth

end Verdict

end ImxDmaBuffer
