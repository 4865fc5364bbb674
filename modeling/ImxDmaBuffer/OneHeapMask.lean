import ImxDmaBuffer.BufferContracts
import ImxDmaBuffer.HeapAutodetection
import ImxDmaBuffer.Library.OnceCell
import ImxDmaBuffer.UsedResources

/-!
# One heap mask for the whole process

From Linux 4.14 on, the heap mask of an ION allocation is the one that `get_heap_id_mask`
collects in a static variable: every ION allocator, through whatever device descriptor, uses
the same one.  (Before, each allocator passes the mask that it was created with.)  Here the
kernel may answer each query differently.  Still no two allocations of a process ever carry
different masks, none is preceded by an allocation with another mask and followed by a new
search, and the mask is that of a single heap list, the one answered last (`one_heap_mask`).
Everything else that the library does leaves the variable alone.
-/

namespace ImxDmaBuffer

open CallProgram

variable {w : Nat} {config : BuildConfig}

/-- The heap mask of an `ION_IOC_ALLOC`, with the argument of either kernel interface. -/
def Call.ionAllocMask : Call w → Option (BitVec 32)
  | .ionIocAllocFd _ _ heapIdMask _ => some heapIdMask
  | .ionIocAllocHandle _ _ _ heapIdMask _ => some heapIdMask
  | _ => none

/-- The calls by which the heaps are searched. -/
def Call.isHeapSearch : Call w → Bool
  | .ionIocHeapCount _ => true
  | .ionIocHeapQuery _ _ => true
  | _ => false

/-- The event answers a heap list whose DMA heaps are the bits of the mask. -/
def ListsMask : KEvent w → BitVec 32 → Prop
  | ⟨.ionIocHeapQuery _ cnt, .ok written⟩, mask =>
      ∀ k, mask.getLsbD k = true ↔ ∃ i < cnt.toInt.toNat,
        (heapDataArray written i).type = ionHeapTypeDma ∧
          (heapDataArray written i).heapId.toNat = k
  | _, _ => False

/-- The static variable of `get_heap_id_mask`, as a value that is found once. -/
def heapMaskCell (w : Nat) : OnceCell (kernel w) (BitVec 32) where
  unset := 0
  carries := Call.ionAllocMask
  seeks call := call.isHeapSearch = true
  yields := ListsMask

/-- Calls that neither search nor carry the mask. -/
abbrev Call.IsMaskFree (call : Call w) : Prop := (heapMaskCell w).Quiet call

/-- A call is neither, unless it is listed. -/
theorem maskFree_of {call : Call w} (hcarries : call.ionAllocMask = none)
    (hseeks : call.isHeapSearch = false) : call.IsMaskFree :=
  ⟨hcarries, Bool.eq_false_iff.mp hseeks⟩

/-- Storing an error. -/
theorem storeEvents_maskFree (errorNonNull : Bool) (code : Int) :
    ∀ e ∈ storeEvents (w := w) errorNonNull code, e.call.IsMaskFree := by
  cases errorNonNull with
  | false => exact List.forall_mem_nil _
  | true => exact List.forall_mem_singleton.mpr (maskFree_of rfl rfl)

/-- Calls that only work with what they release. Searching and allocating release nothing. -/
theorem maskFree_of_uses {call : Call w} (huses : ∀ r ∈ call.uses, call.releases = some r) :
    call.IsMaskFree := by
  cases call with
  | ionIocHeapCount fd => cases huses _ List.mem_cons_self
  | ionIocHeapQuery fd cnt => cases huses _ List.mem_cons_self
  | ionIocAllocFd fd len heapIdMask flags => cases huses _ List.mem_cons_self
  | ionIocAllocHandle fd len align heapIdMask flags => cases huses _ List.mem_cons_self
  | _ => exact maskFree_of rfl rfl

section Search

variable {ionFd : Int} {heapIdMask found left : BitVec 32} {errno : Int} {errorNonNull : Bool}
  {t : List (KEvent w)}

/-- **The loop over the heap list** adds the DMA heaps among the entries to come. -/
theorem heapIdMaskLoop_adds {heapData : Nat → IonHeapData} {remaining i : Nat}
    (h : Runs (heapIdMaskLoop heapData i remaining heapIdMask) t (.done found)) (k : Nat) :
    found.getLsbD k = true ↔ heapIdMask.getLsbD k = true ∨
      ∃ j < remaining, (heapData (i + j)).type = ionHeapTypeDma ∧
        (heapData (i + j)).heapId.toNat = k := by
  induction remaining generalizing i heapIdMask with
  | zero =>
      obtain ⟨-, rfl⟩ := runs_ret_done_iff.mp h
      simp
  | succ remaining ih =>
      have hshift : ∀ j, i + 1 + j = i + (j + 1) := fun j => by omega
      unfold heapIdMaskLoop at h
      rw [Nat.exists_lt_succ_left, Nat.add_zero]
      by_cases hdma : (heapData i).type = ionHeapTypeDma
      · rw [if_pos hdma] at h
        by_cases hid : (heapData i).heapId.toNat < 32
        · rw [if_pos hid] at h
          rw [ih h, getLsbD_setBit hid, or_assoc]
          simp only [hshift, hdma, true_and]
        · rw [if_neg hid] at h
          cases (runs_halt_iff.mp h).2
      · rw [if_neg hdma] at h
        rw [ih h]
        simp only [hshift, hdma, false_and, false_or]

/-- A search carries no mask. -/
theorem HeapIdMaskStep.ionAllocMask
    (h : HeapIdMaskStep ionFd heapIdMask errno errorNonNull t found left) :
    ∀ e ∈ t, e.call.ionAllocMask = none := by
  have hstored : ∀ code, ∀ e ∈ storeEvents (w := w) errorNonNull code, e.call.ionAllocMask = none :=
    fun code e he => (storeEvents_maskFree errorNonNull code e he).1
  cases h with
  | cached => exact List.forall_mem_nil _
  | countFailed => exact List.forall_mem_cons.mpr ⟨rfl, hstored _⟩
  | noHeaps => exact List.forall_mem_cons.mpr ⟨rfl, hstored _⟩
  | queryFailed =>
      exact List.forall_mem_cons.mpr ⟨rfl, List.forall_mem_cons.mpr ⟨rfl, hstored _⟩⟩
  | queried =>
      exact List.forall_mem_cons.mpr ⟨rfl, List.forall_mem_singleton.mpr rfl⟩

/-- A search that has not found the mask leaves none, and one that has leaves that of the
list it was answered. -/
theorem HeapIdMaskStep.keeps (h : HeapIdMaskStep ionFd heapIdMask errno errorNonNull t found left) :
    found = left ∧ (heapMaskCell w).Keeps heapIdMask t left := by
  have hnone := h.ionAllocMask
  cases h with
  | cached hne => exact ⟨rfl, .quiet (List.forall_mem_nil _)⟩
  | countFailed hzero e =>
      subst hzero
      exact ⟨rfl, .fruitless hnone⟩
  | noHeaps hzero =>
      subst hzero
      exact ⟨rfl, .fruitless hnone⟩
  | queryFailed hzero cnt hcnt e =>
      subst hzero
      exact ⟨rfl, .fruitless hnone⟩
  | queried hzero cnt hcnt written found hloop =>
      subst hzero
      refine ⟨rfl, OnceCell.Keeps.search (t := [_]) hnone fun k => ?_⟩
      rw [heapIdMaskLoop_adds hloop]
      simp

/-- Asking for a physical address. -/
theorem PhysStep.maskFree {query : Except Errno (BitVec w) → KEvent w} {phys : BitVec w}
    (hquery : ∀ answer, (query answer).call.IsMaskFree)
    (h : PhysStep query errorNonNull t phys) : ∀ e ∈ t, e.call.IsMaskFree := by
  cases h with
  | failed e => exact List.forall_mem_cons.mpr ⟨hquery _, storeEvents_maskFree _ _⟩
  | answered => exact List.forall_mem_singleton.mpr (hquery _)

/-- The descriptor of an ION allocation is allocated with the mask that is kept. -/
theorem IonDmabufStep.keeps (hnew : config.hasIonHeapQuery) {size alignment : BitVec w}
    {ionHeapIdMask ionHeapFlags : BitVec 32} {fd : Int}
    (h : IonDmabufStep config ionFd size alignment ionHeapIdMask ionHeapFlags heapIdMask errno
      errorNonNull t fd left) : (heapMaskCell w).Keeps heapIdMask t left := by
  cases h with
  | noMask hquery t left hmask => exact hmask.keeps.2
  | allocFailed hquery t found left hmask hne e =>
      obtain ⟨rfl, hkeeps⟩ := hmask.keeps
      refine hkeeps.append (.append (t := [_]) (.use rfl Bool.false_ne_true hne) ?_)
      exact .quiet (storeEvents_maskFree _ _)
  | allocated hquery t found left hmask hne fd =>
      obtain ⟨rfl, hkeeps⟩ := hmask.keeps
      exact hkeeps.append (.use rfl Bool.false_ne_true hne)
  | handleFailed hold => exact absurd hnew hold
  | mapFailed hold => exact absurd hnew hold
  | mapNegative hold => exact absurd hnew hold
  | mapped hold => exact absurd hnew hold

/-- An ION allocation. -/
theorem IonAllocateStep.keeps (hnew : config.hasIonHeapQuery) {allocator : IonAllocator}
    {size alignment : BitVec w} {ambient : Ambient} {r : Option (IonBuffer w)}
    (h : IonAllocateStep config allocator size alignment heapIdMask ambient errorNonNull t r left) :
    (heapMaskCell w).Keeps heapIdMask t left := by
  have hphysQuery : ∀ fd answer,
      (ionPhysQuery (w := w) config allocator.ionFd fd answer).call.IsMaskFree := by
    intro fd answer
    unfold ionPhysQuery
    split <;> exact maskFree_of rfl rfl
  cases h with
  | noDescriptor t fd left hfd hneg => exact hfd.keeps hnew
  | noAddress t fd left hfd hnonneg t' hphys =>
      refine (hfd.keeps hnew).append (.quiet (List.forall_mem_append.mpr ⟨?_, ?_⟩))
      · exact hphys.maskFree (hphysQuery fd)
      · exact List.forall_mem_singleton.mpr (maskFree_of rfl rfl)
  | allocated t fd left hfd hnonneg t' phys hphys hne =>
      exact (hfd.keeps hnew).append (.quiet (hphys.maskFree (hphysQuery fd)))

end Search

section Step

variable {size alignment : BitVec w} {heapIdMask left : BitVec 32} {ambient : Ambient}
  {errorNonNull : Bool} {t : List (KEvent w)}

/-- A dma-heap allocation. -/
theorem DmaHeapAllocateStep.maskFree {allocator : DmaHeapAllocator} {r : Option (DmaHeapBuffer w)}
    (h : DmaHeapAllocateStep allocator size ambient errorNonNull t r) :
    ∀ e ∈ t, e.call.IsMaskFree := by
  have hquery : ∀ fd answer, (⟨.dmaBufIoctlPhys fd, answer⟩ : KEvent w).call.IsMaskFree :=
    fun _ _ => maskFree_of rfl rfl
  cases h with
  | failed e => exact List.forall_mem_cons.mpr ⟨maskFree_of rfl rfl, storeEvents_maskFree _ _⟩
  | negative fd hneg => exact List.forall_mem_singleton.mpr (maskFree_of rfl rfl)
  | noAddress fd hpos t hphys =>
      refine List.forall_mem_cons.mpr ⟨maskFree_of rfl rfl, List.forall_mem_append.mpr ⟨?_, ?_⟩⟩
      · exact hphys.maskFree (hquery fd)
      · exact List.forall_mem_singleton.mpr (maskFree_of rfl rfl)
  | allocated fd hpos t phys hphys hne =>
      exact List.forall_mem_cons.mpr ⟨maskFree_of rfl rfl, hphys.maskFree (hquery fd)⟩

/-- **Allocations.**  Only the ION allocator has to do with the mask. -/
theorem AllocateStep.keeps (hnew : config.hasIonHeapQuery) {allocator : Allocator w}
    {r : Option (DmaBuffer w)}
    (h : AllocateStep config size alignment heapIdMask ambient errorNonNull allocator t r left) :
    (heapMaskCell w).Keeps heapIdMask t left := by
  have hstored : ∀ (e : KEvent w) code, e.call.IsMaskFree →
      ∀ e' ∈ e :: storeEvents errorNonNull code, e'.call.IsMaskFree :=
    fun e code he => List.forall_mem_cons.mpr ⟨he, storeEvents_maskFree _ _⟩
  have hsingle : ∀ e : KEvent w, e.call.IsMaskFree → ∀ e' ∈ [e], e'.call.IsMaskFree :=
    fun e he => List.forall_mem_singleton.mpr he
  cases h with
  | dmaHeap hstep => exact .quiet hstep.maskFree
  | ion hstep => exact hstep.keeps hnew
  | dwl hstep =>
      cases hstep with
      | failed => exact .quiet (hstored _ _ (maskFree_of rfl rfl))
      | allocated => exact .quiet (hsingle _ (maskFree_of rfl rfl))
  | ipu hstep =>
      cases hstep with
      | failed => exact .quiet (hstored _ _ (maskFree_of rfl rfl))
      | zero => exact .quiet (hsingle _ (maskFree_of rfl rfl))
      | allocated => exact .quiet (hsingle _ (maskFree_of rfl rfl))
  | g2d hstep =>
      cases hstep with
      | failed => exact .quiet (hstored _ _ (maskFree_of rfl rfl))
      | allocated => exact .quiet (hsingle _ (maskFree_of rfl rfl))
  | pxp hstep =>
      cases hstep with
      | failed => exact .quiet (hstored _ _ (maskFree_of rfl rfl))
      | allocated => exact .quiet (hsingle _ (maskFree_of rfl rfl))

end Step

section Buffers

/-- What a buffer issues has nothing to do with the mask. -/
theorem issues_maskFree {release : Call w} (hrelease : release.IsMaskFree) :
    IssuesMapping (.ofCalls Call.IsMaskFree) release := by
  rintro call (hmapping | rfl)
  · cases call <;> first | exact maskFree_of rfl rfl | cases hmapping
  · exact hrelease

/-- No memory is given back by an ION call. -/
theorem release_maskFree (b : DmaBuffer w) : b.view.mapping.release.IsMaskFree := by
  cases b <;> exact maskFree_of rfl rfl

/-- Calls on a buffer have nothing to do with the mask. -/
theorem bufferStep_maskFree {b : DmaBuffer w} {op : BufferCall} {t : List (KEvent w)}
    {ret : Option (BitVec w)} {c : Option (DmaBuffer w)}
    (h : Runs (bufferStep (some b) op) t (.done (ret, c))) : ∀ e ∈ t, e.call.IsMaskFree := by
  have hfree := release_maskFree b
  cases hmapped : b.mappedVirtualAddress with
  | some address =>
      obtain ⟨p, s, hb⟩ := view_mmapBacked hmapped
      obtain ⟨u, -, hrun⟩ := step_mmapBacked hb h
      rw [hb] at hfree
      have hmeets : (p.step (some s) op).Meets (.ofCalls Call.IsMaskFree) fun _ => True :=
        MmapParams.step_meets (issues_maskFree hfree) (fun _ => trivial) (fun _ => trivial)
      exact (hmeets.done hrun (fun _ _ => trivial)).1
  | none =>
      obtain ⟨p, c, hb⟩ := view_alwaysMapped hmapped
      obtain ⟨u, -, hrun⟩ := step_alwaysMapped hb h
      rw [hb] at hfree
      have hmeets : (p.step (some c) op).Meets (.ofCalls Call.IsMaskFree) fun _ => True :=
        AlwaysParams.step_meets (issues_maskFree hfree) (fun _ => trivial) (fun _ => trivial)
      exact (hmeets.done hrun (fun _ _ => trivial)).1

end Buffers

section Library

variable {L L' : LibraryState w} {op : LibraryCall w} {t : List (KEvent w)} {ret : LibraryReturn w}

/-- **Every completed call of the library** keeps the mask. -/
theorem libraryStep_keepsMask (hnew : config.hasIonHeapQuery)
    (h : Runs (libraryStep config L op) t (.done (ret, L'))) :
    (heapMaskCell w).Keeps L.heapIdMask t L'.heapIdMask := by
  cases hop : op.isConstructor with
  | true =>
      obtain ⟨created, heq, -⟩ := constructor_opens hop h
      have hmask : L'.heapIdMask = L.heapIdMask := by
        obtain rfl := congrArg Prod.snd heq
        cases created <;> rfl
      rw [hmask]
      refine .quiet fun e he => maskFree_of_uses fun r hr => ?_
      rw [constructor_uses hop h e he] at hr
      cases hr
  | false =>
      cases op with
      | destroy i =>
          obtain ⟨a, -, hrun, rfl⟩ := library_destroy_done h
          exact .quiet fun e he => maskFree_of_uses fun r hr =>
            releases_of_libraryEffect (destroy_uses hrun e he r hr)
      | allocate i size alignment ambient errorNonNull =>
          obtain ⟨a, r, left, -, hrun, rfl⟩ := library_allocate_done h
          have hmask : (L.addBuffer i left r).2.heapIdMask = left := by cases r <;> rfl
          rw [hmask]
          exact (allocate_done hrun).2.keeps hnew
      | buffer j call =>
          obtain ⟨b, pointer, c, -, hrun, rfl⟩ := library_buffer_done h
          exact .quiet (bufferStep_maskFree hrun)
      | _ => cases hop

/-- **One heap mask for the whole process.**  From Linux 4.14 on, over every run of the
library, whatever is called and however the kernel answers: every ION allocation carries the
mask that the static variable has in the end; after an ION allocation the heaps are never
searched again; a mask once found stays and is searched for no more; and a mask that was
found in the run is that of one heap list, which ended the last search. -/
theorem one_heap_mask (hnew : config.hasIonHeapQuery) {G : (libraryMachine w config).Guard}
    {h : List (LibraryRecord w)}
    (hs : (libraryMachine w config).Steps G L h L') :
    (∀ e ∈ historyEvents h, ∀ mask, e.call.ionAllocMask = some mask →
        mask = L'.heapIdMask ∧ L'.heapIdMask ≠ 0) ∧
      (historyEvents h).Pairwise (fun e e' => e.call.ionAllocMask.isSome →
        e'.call.isHeapSearch = false) ∧
      (L.heapIdMask ≠ 0 → L'.heapIdMask = L.heapIdMask ∧
        ∀ e ∈ historyEvents h, e.call.isHeapSearch = false) ∧
      (L'.heapIdMask ≠ L.heapIdMask → ∃ before e after, historyEvents h = before ++ e :: after ∧
        ListsMask e L'.heapIdMask ∧ ∀ e' ∈ after, e'.call.isHeapSearch = false) := by
  have hkeeps : (heapMaskCell w).Keeps L.heapIdMask (historyEvents h) L'.heapIdMask :=
    hs.keeps LibraryState.heapIdMask fun _ _ _ _ _ hrun => libraryStep_keepsMask hnew hrun
  have hfalse : ∀ e : KEvent w, ¬ (heapMaskCell w).seeks e.call → e.call.isHeapSearch = false :=
    fun _ hseeks => Bool.eq_false_iff.mpr hseeks
  refine ⟨hkeeps.carried, ?_, ?_, ?_⟩
  · exact hkeeps.settled.imp fun hsettled hcarries => hfalse _ (hsettled hcarries)
  · intro hset
    obtain ⟨heq, hnone⟩ := hkeeps.frozen hset
    exact ⟨heq, fun e he => hfalse e (hnone e he)⟩
  · intro hchanged
    obtain ⟨before, e, after, heq, hlists, hafter⟩ := hkeeps.found hchanged
    exact ⟨before, e, after, heq, hlists, fun e' he' => hfalse e' (hafter e' he')⟩

/-- An ION allocator with a device that the client opened. -/
def ionAllocatorOn (fd : Nat) : IonAllocator where
  ionFd := fd
  ionFdIsInternal := false
  ionHeapIdMask := 0
  ionHeapFlags := 0
  ionFd_nonneg := Int.natCast_nonneg fd

/-- A page of ION memory. -/
def ionPage (fd : Nat) (physicalAddress : BitVec 64) : IonBuffer 64 where
  toMapState := .initial cleanAmbient
  dmabufFd := fd
  physicalAddress := physicalAddress
  size := 4096
  dmabufFd_nonneg := Int.natCast_nonneg fd

/-- Two allocators on two devices. The first one's search finds the heaps. -/
def twoIonDevices : List (LibraryRecord 64) :=
  [⟨.newIon 7 0 0 true, [], .created (some 0)⟩, ⟨.newIon 8 0 0 true, [], .created (some 1)⟩,
   ⟨.allocate 0 4096 0 cleanAmbient true,
    [⟨.ionIocHeapCount 7, .ok 4⟩, ⟨.ionIocHeapQuery 7 4, .ok sampleHeaps.heaps⟩,
     ⟨.ionIocAllocFd 7 4096 10 0, .ok 20⟩, ⟨.dmaBufIoctlPhys 20, .ok 0x10000⟩],
    .created (some 0)⟩,
   ⟨.allocate 1 4096 0 cleanAmbient true,
    [⟨.ionIocAllocFd 8 4096 10 0, .ok 21⟩, ⟨.dmaBufIoctlPhys 21, .ok 0x20000⟩],
    .created (some 1)⟩]

/-- The library after that. -/
def twoIonPages : LibraryState 64 where
  allocators := [some (.ion (ionAllocatorOn 7)), some (.ion (ionAllocatorOn 8))]
  buffers := [⟨0, some (.ion (ionAllocatorOn 7) (ionPage 20 0x10000))⟩,
    ⟨1, some (.ion (ionAllocatorOn 8) (ionPage 21 0x20000))⟩]
  heapIdMask := 10

/-- Both pages are allocated with the mask that the first search found. -/
theorem two_ion_devices_one_mask :
    ¬ ∃ e ∈ historyEvents twoIonDevices, ∃ mask, e.call.ionAllocMask = some mask ∧ mask ≠ 10 := by
  have hs : (libraryMachine 64 recentKernelConfig).Steps (fun _ _ _ => True) LibraryState.empty
      twoIonDevices twoIonPages := by
    refine .cons trivial (.ret _) (.cons trivial (.ret _) ?_)
    refine .cons trivial (.call _ (.call _ (.call _ (.call _ (.ret _))))) ?_
    exact .single trivial (.call _ (.call _ (.ret _)))
  rintro ⟨e, he, mask, hmask, hne⟩
  exact hne ((one_heap_mask (by decide) hs).1 e he mask hmask).1

end Library

end ImxDmaBuffer
