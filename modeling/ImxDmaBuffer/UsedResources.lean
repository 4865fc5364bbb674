import ImxDmaBuffer.Library.LedgerUses
import ImxDmaBuffer.ResourceOwnership
import ImxDmaBuffer.BufferLives

/-!
# The library works with what it holds

Descriptors are numbers, and the kernel hands a number out again once it has been closed.
A library that goes on using a closed descriptor works with somebody else's file.  Here
every call to the kernel and to the vendor libraries works with descriptors, handles,
mappings and memory that are in the ledger at that moment, or with the device descriptor
that a client gave to a constructor and whose allocator has not been destroyed.

A buffer finds its allocator through a pointer.  That the pointer leads to the allocator
it was allocated by, as long as that one is there, is an invariant of the library
(`KnowsAllocators`).
-/

namespace ImxDmaBuffer

open CallProgram ResourceLedger

variable {w : Nat} {config : BuildConfig}

/-- The resources that a call works with. -/
def Call.uses : Call w → List (Resource w)
  | .close fd => [.descriptor fd]
  | .mmap _ _ fd _ => [.descriptor fd]
  | .munmap address length => [.mapping address length]
  | .dmaHeapIoctlAlloc fd _ _ _ => [.descriptor fd]
  | .dmaBufIoctlPhys fd => [.descriptor fd]
  | .ionIocHeapCount fd => [.descriptor fd]
  | .ionIocHeapQuery fd _ => [.descriptor fd]
  | .ionIocAllocFd fd _ _ _ => [.descriptor fd]
  | .ionIocAllocHandle fd _ _ _ _ => [.descriptor fd]
  | .ionIocMap fd handle => [.descriptor fd, .ionHandle fd handle]
  | .ionIocFree fd handle => [.descriptor fd, .ionHandle fd handle]
  | .ionIocCustomPhysDma fd dmafd => [.descriptor fd, .descriptor dmafd]
  | .ipuAlloc fd _ => [.descriptor fd]
  | .ipuFree fd physicalAddress => [.descriptor fd, .ipuMemory fd physicalAddress]
  | .pxpIocGetPhymem fd _ _ => [.descriptor fd]
  | .pxpIocPutPhymem fd memDesc => [.descriptor fd, .pxpMemory fd memDesc]
  | .dwlRelease dwlInstance => [.dwlInstance dwlInstance]
  | .dwlMallocLinear dwlInstance _ _ => [.dwlInstance dwlInstance]
  | .dwlFreeLinear dwlInstance mem => [.dwlInstance dwlInstance, .dwlMemory dwlInstance mem]
  | .g2dFree buf => [.g2dMemory buf]
  | _ => []

/-- The triple of the library's ledger that also accounts for what is used. -/
abbrev LibraryWorks (t : List (KEvent w)) (before after : Multiset (Resource w)) : Prop :=
  Works (fun e => e.call.uses) libraryEffect t before after

/-- The device descriptor of an allocator that was lent by the client. -/
def lentDescriptor (fd : Int) (isInternal : Bool) : Multiset (Resource w) :=
  if isInternal then 0 else {.descriptor fd}

/-- What an allocator works with but does not hold. -/
def Allocator.lent : Allocator w → Multiset (Resource w)
  | .dmaHeap a => lentDescriptor a.dmaHeapFd a.dmaHeapFdIsInternal
  | .ion a => lentDescriptor a.ionFd a.ionFdIsInternal
  | .dwl _ => 0
  | .ipu a => lentDescriptor a.ipuFd a.ipuFdIsInternal
  | .g2d => 0
  | .pxp a => lentDescriptor a.pxpFd a.pxpFdIsInternal

/-- What an allocator works with. -/
def Allocator.tools (a : Allocator w) : Multiset (Resource w) := a.device + a.lent

/-- The descriptors that the clients of the live allocators have lent them. -/
def LibraryState.lent (L : LibraryState w) : Multiset (Resource w) :=
  (L.allocators.map fun a => a.elim 0 Allocator.lent).sum

/-- An allocator works with its device descriptor, whoever opened it. -/
theorem mem_deviceDescriptor (fd : Int) (isInternal : Bool) :
    (Resource.descriptor fd : Resource w) ∈
      deviceDescriptor fd isInternal + lentDescriptor fd isInternal := by
  cases isInternal with
  | true => exact Multiset.mem_add.mpr (Or.inl (Multiset.mem_singleton_self _))
  | false => exact Multiset.mem_add.mpr (Or.inr (Multiset.mem_singleton_self _))

/-- Storing an error uses nothing. -/
theorem storeEvents_uses {errorNonNull : Bool} {code : Int} :
    ∀ e ∈ storeEvents (w := w) errorNonNull code, e.call.uses = [] := by
  cases errorNonNull with
  | false => exact List.forall_mem_nil _
  | true => exact List.forall_mem_singleton.mpr rfl

theorem storeEvents_works (errorNonNull : Bool) (code : Int) (before : Multiset (Resource w)) :
    LibraryWorks (storeEvents errorNonNull code) before before := by
  cases errorNonNull with
  | false => exact .nil before
  | true => exact .keep rfl (List.forall_mem_nil _) (.nil before)

namespace MmapParams

variable {p : MmapParams w} {s s' : SyncState w} {t : List (KEvent w)}

/-- Cache syncing works with the descriptor of the buffer. -/
theorem SyncIoctl.uses {asked : Bool} (h : p.SyncIoctl asked t) :
    ∀ e ∈ t, ∀ r ∈ e.call.uses, r = .descriptor p.args.fd := by
  unfold SyncIoctl at h
  cases asked with
  | false =>
      obtain rfl := h
      exact List.forall_mem_nil _
  | true =>
      obtain ⟨answer, rfl⟩ := h
      exact List.forall_mem_singleton.mpr (List.forall_mem_singleton.mpr rfl)

theorem StartsSession.uses {flags : BitVec 32} (h : p.StartsSession flags t) :
    ∀ e ∈ t, ∀ r ∈ e.call.uses, r = .descriptor p.args.fd := by
  obtain ⟨rest, rfl, hioctl⟩ := h
  exact List.forall_mem_cons.mpr ⟨List.forall_mem_nil _, hioctl.uses⟩

theorem StopsSession.uses {flags : BitVec 32} (h : p.StopsSession flags t) :
    ∀ e ∈ t, ∀ r ∈ e.call.uses, r = .descriptor p.args.fd := by
  obtain ⟨rest, rfl, hioctl⟩ := h
  exact List.forall_mem_cons.mpr ⟨List.forall_mem_nil _, hioctl.uses⟩

theorem AutoStarts.uses {flags : BitVec 32} (h : p.AutoStarts flags t) :
    ∀ e ∈ t, ∀ r ∈ e.call.uses, r = .descriptor p.args.fd := by
  unfold AutoStarts at h
  split at h
  · exact h.uses
  · rw [h]
    exact List.forall_mem_nil _

theorem AutoStops.uses {flags : BitVec 32} (h : p.AutoStops flags t) :
    ∀ e ∈ t, ∀ r ∈ e.call.uses, r = .descriptor p.args.fd := by
  unfold AutoStops at h
  split at h
  · exact h.uses
  · rw [h]
    exact List.forall_mem_nil _

theorem TeardownStops.uses (h : p.TeardownStops s t) :
    ∀ e ∈ t, ∀ r ∈ e.call.uses, r = .descriptor p.args.fd := by
  unfold TeardownStops at h
  split at h
  · exact h.uses
  · rw [h]
    exact List.forall_mem_nil _

/-- A call that keeps the buffer works with its descriptor, and with the mapping that it
removes. -/
theorem Step.uses {op : BufferCall} {ret : Option (BitVec w)} (h : p.Step s op t ret (some s')) :
    ∀ e ∈ t, ∀ r ∈ e.call.uses, libraryEffect e = .release r ∨ r = .descriptor p.args.fd := by
  cases h with
  | map hstep =>
      cases hstep with
      | redundant => exact List.forall_mem_nil _
      | failed hunmapped errno sync hsync =>
          refine List.forall_mem_cons.mpr ⟨List.forall_mem_singleton.mpr (Or.inr rfl), ?_⟩
          refine List.forall_mem_append.mpr ⟨fun e he r hr => ?_, fun e he r hr => ?_⟩
          · rw [storeEvents_uses e he] at hr
            cases hr
          · exact Or.inr (hsync.uses e he r hr)
      | fresh hunmapped mapped sync hsync =>
          refine List.forall_mem_cons.mpr ⟨List.forall_mem_singleton.mpr (Or.inr rfl), ?_⟩
          exact fun e he r hr => Or.inr (hsync.uses e he r hr)
  | unmap hstep =>
      cases hstep with
      | surplus => exact List.forall_mem_nil _
      | decrement => exact List.forall_mem_nil _
      | last hmapped hone sync hsync =>
          refine List.forall_mem_append.mpr ⟨fun e he r hr => Or.inr (hsync.uses e he r hr), ?_⟩
          exact List.forall_mem_singleton.mpr (List.forall_mem_singleton.mpr (Or.inl rfl))
  | startSyncSession hstep =>
      cases hstep with
      | ignored => exact List.forall_mem_nil _
      | begins _ _ _ _ hsync => exact fun e he r hr => Or.inr (hsync.uses e he r hr)
  | stopSyncSession hstep =>
      cases hstep with
      | ignored => exact List.forall_mem_nil _
      | ends _ _ _ _ hsync => exact fun e he r hr => Or.inr (hsync.uses e he r hr)

/-- A deallocation works with the descriptor of the buffer and with what it gives back. -/
theorem DeallocateStep.uses (h : p.DeallocateStep s t) : ∀ e ∈ t, ∀ r ∈ e.call.uses,
    libraryEffect e = .release r ∨ r = .descriptor p.args.fd ∨ r ∈ p.release.uses := by
  cases h with
  | unmapped hunmapped answer =>
      exact List.forall_mem_singleton.mpr fun r hr => Or.inr (Or.inr hr)
  | mapped hmapped sync hsync answer =>
      refine List.forall_mem_append.mpr ⟨fun e he r hr => ?_, ?_⟩
      · exact Or.inr (Or.inl (hsync.uses e he r hr))
      · refine List.forall_mem_cons.mpr ⟨List.forall_mem_singleton.mpr (Or.inl rfl), ?_⟩
        exact List.forall_mem_singleton.mpr fun r hr => Or.inr (Or.inr hr)

end MmapParams

section Buffer

variable {b : DmaBuffer w} {t : List (KEvent w)}

/-- What a buffer can rely on all the time: its memory, and the tools of its allocator. -/
def DmaBuffer.base (b : DmaBuffer w) : Multiset (Resource w) := b.memory ::ₘ b.allocator.tools

/-- The descriptor that the buffer is mapped with is there. -/
theorem mapsFrom_base {m : BufferModel w} {p : MmapParams w} {s : SyncState w}
    (hb : b.view = m.mmapBacked p s) : Resource.descriptor p.args.fd ∈ b.base := by
  have hmapping := congrArg BufferModel.mapping hb
  cases b with
  | dmaHeap allocator buffer =>
      obtain ⟨rfl, -⟩ := Mapping.mmapBacked.inj hmapping
      exact Multiset.mem_cons_self _ _
  | ion allocator buffer =>
      obtain ⟨rfl, -⟩ := Mapping.mmapBacked.inj hmapping
      exact Multiset.mem_cons_self _ _
  | ipu allocator buffer =>
      obtain ⟨rfl, -⟩ := Mapping.mmapBacked.inj hmapping
      exact Multiset.mem_cons_of_mem (mem_deviceDescriptor _ _)
  | pxp allocator buffer =>
      obtain ⟨rfl, -⟩ := Mapping.mmapBacked.inj hmapping
      exact Multiset.mem_cons_of_mem (mem_deviceDescriptor _ _)
  | dwl allocator buffer => cases hmapping
  | g2d buffer => cases hmapping

/-- So is what the call needs that gives the memory back. -/
theorem release_uses_base (b : DmaBuffer w) :
    ∀ r ∈ b.view.mapping.release.uses, r ∈ b.base := by
  have hmemory : b.memory ∈ b.base := Multiset.mem_cons_self _ _
  cases b with
  | dmaHeap allocator buffer => exact List.forall_mem_singleton.mpr hmemory
  | ion allocator buffer => exact List.forall_mem_singleton.mpr hmemory
  | g2d buffer => exact List.forall_mem_singleton.mpr hmemory
  | dwl allocator buffer =>
      refine List.forall_mem_cons.mpr ⟨?_, List.forall_mem_singleton.mpr hmemory⟩
      exact Multiset.mem_cons_of_mem (Multiset.mem_add.mpr (Or.inl (Multiset.mem_singleton_self _)))
  | ipu allocator buffer =>
      refine List.forall_mem_cons.mpr ⟨?_, List.forall_mem_singleton.mpr hmemory⟩
      exact Multiset.mem_cons_of_mem (mem_deviceDescriptor _ _)
  | pxp allocator buffer =>
      refine List.forall_mem_cons.mpr ⟨?_, List.forall_mem_singleton.mpr hmemory⟩
      exact Multiset.mem_cons_of_mem (mem_deviceDescriptor _ _)

/-- What a buffer holds, next to the tools of its allocator. -/
theorem cons_add_tools (r : Resource w) (mapping tools : Multiset (Resource w)) :
    r ::ₘ mapping + tools = mapping + r ::ₘ tools := by
  rw [Multiset.cons_add, Multiset.add_cons]

/-- The call that gives the memory back, once nothing is mapped. -/
theorem release_works {e : KEvent w} (he : e.call = b.view.mapping.release) :
    LibraryWorks [e] b.base b.allocator.tools := by
  refine .release (libraryEffect_of_releases ?_) ?_ (.nil _)
  · rw [he]
    exact releases_memory b
  · rw [he]
    exact release_uses_base b

/-- **Calls on a buffer** work with what the buffer holds and with the tools of its
allocator. -/
theorem bufferStep_works {op : BufferCall} {ret : Option (BitVec w)} {c : Option (DmaBuffer w)}
    (h : Runs (bufferStep (some b) op) t (.done (ret, c))) :
    LibraryWorks t (b.resources + b.allocator.tools) (resourcesLeft c + b.allocator.tools) := by
  cases hmapped : b.mappedVirtualAddress with
  | some address =>
      obtain ⟨p, s, hb⟩ := view_mmapBacked hmapped
      obtain ⟨u, hc, hrun⟩ := step_mmapBacked hb h
      have hdone : p.Step s op t ret u := MmapParams.step_done hrun
      have hfd := mapsFrom_base hb
      have hrelease : b.view.mapping.release = p.release := by rw [hb]; rfl
      rw [DmaBuffer.resources, mappingHeld_mmapBacked hb, cons_add_tools]
      cases u with
      | some s' =>
          rw [resourcesLeft_mmapBacked hb hc, cons_add_tools]
          refine .of_turns hdone.turns fun e he r hr => ?_
          rcases hdone.uses e he r hr with hreleases | rfl
          · exact Or.inl hreleases
          · exact Or.inr hfd
      | none =>
          obtain rfl := Option.map_eq_none_iff.mp hc
          cases hdone with
          | deallocate hstep =>
              obtain ⟨first, answer, rfl, hturns⟩ := hstep.turns
              have hfirst : LibraryWorks first (p.mappingIn s + b.base) (0 + b.base) := by
                refine .of_turns hturns fun e he r hr => ?_
                rcases hstep.uses e (List.mem_append_left _ he) r hr with hreleases | rfl | hback
                · exact Or.inl hreleases
                · exact Or.inr hfd
                · rw [← hrelease] at hback
                  exact Or.inr (release_uses_base b r hback)
              rw [zero_add] at hfirst
              have hlast : LibraryWorks [⟨p.release, answer⟩] b.base b.allocator.tools :=
                release_works hrelease.symm
              rw [resourcesLeft, Option.elim_none, zero_add]
              exact hfirst.append hlast
  | none =>
      obtain ⟨p, s, hb⟩ := view_alwaysMapped hmapped
      obtain ⟨u, hc, hrun⟩ := step_alwaysMapped hb h
      have hdone : p.Step s op t ret u := AlwaysParams.step_done hrun
      have hrelease : b.view.mapping.release = p.release := by rw [hb]; rfl
      rw [DmaBuffer.resources, mappingHeld_alwaysMapped hb, cons_add_tools, zero_add]
      cases u with
      | some s' =>
          rw [resourcesLeft_alwaysMapped hb hc, hdone.silent, Multiset.singleton_add]
          exact .nil _
      | none =>
          obtain rfl := Option.map_eq_none_iff.mp hc
          cases hdone with
          | deallocate answer =>
              rw [resourcesLeft, Option.elim_none, zero_add]
              exact release_works hrelease.symm

end Buffer

section Allocate

variable {config : BuildConfig} {size alignment : BitVec w} {ambient : Ambient}
  {errorNonNull : Bool} {t : List (KEvent w)} {tools : Multiset (Resource w)}

/-- An address query works with what its call uses. -/
theorem PhysStep.works {query : Except Errno (BitVec w) → KEvent w} {phys : BitVec w}
    (h : PhysStep query errorNonNull t phys)
    (hquery : ∀ answer, libraryEffect (query answer) = .keep)
    (huses : ∀ answer, ∀ r ∈ (query answer).call.uses, r ∈ tools) :
    LibraryWorks t tools tools := by
  cases h with
  | failed errno => exact .keep (hquery _) (huses _) (storeEvents_works _ _ _)
  | answered phys => exact .keep (hquery _) (huses _) (.nil _)

/-- A dma-heap allocation works with the device, and with the DMA-BUF that it was given. -/
theorem DmaHeapAllocateStep.works {allocator : DmaHeapAllocator} {r : Option (DmaHeapBuffer w)}
    (h : DmaHeapAllocateStep allocator size ambient errorNonNull t r)
    (hdevice : .descriptor allocator.dmaHeapFd ∈ tools) :
    LibraryWorks t tools (newMemory (r.map (.dmaHeap allocator)) + tools) := by
  have hheap : ∀ r ∈ [Resource.descriptor (w := w) allocator.dmaHeapFd], r ∈ tools :=
    List.forall_mem_singleton.mpr hdevice
  have hdescriptor : ∀ fd, 0 < fd → libraryEffect (⟨.dmaHeapIoctlAlloc allocator.dmaHeapFd size
      allocator.heapFlags allocator.fdFlags, .ok fd⟩ : KEvent w) = .acquire (.descriptor fd) :=
    fun fd hpos =>
      libraryEffect_of_acquires rfl rfl (answeredDescriptor_of_nonneg (Int.le_of_lt hpos))
  have hown : ∀ fd, ∀ r ∈ [Resource.descriptor (w := w) fd], r ∈ .descriptor fd ::ₘ tools :=
    fun fd => List.forall_mem_singleton.mpr (Multiset.mem_cons_self _ _)
  cases h with
  | failed errno =>
      rw [Option.map_none, newMemory, Option.elim_none, zero_add]
      exact .keep rfl hheap (storeEvents_works _ _ _)
  | negative fd hneg =>
      rw [Option.map_none, newMemory, Option.elim_none, zero_add]
      exact .keep (libraryEffect_of_neither rfl (answeredDescriptor_of_neg hneg)) hheap (.nil _)
  | noAddress fd hpos t hphys =>
      rw [Option.map_none, newMemory, Option.elim_none, zero_add]
      have hquery := hphys.works (fun _ => rfl) fun _ => hown fd
      exact .acquire (hdescriptor fd hpos) hheap
        (hquery.append (.release rfl (hown fd) (.nil _)))
  | allocated fd hpos t phys hphys hne =>
      rw [Option.map_some, newMemory, Option.elim_some, Multiset.singleton_add]
      have hquery := hphys.works (fun _ => rfl) fun _ => hown fd
      exact .acquire (hdescriptor fd hpos) hheap hquery

/-- The search for the DMA heaps works with the device. -/
theorem HeapIdMaskStep.uses {ionFd : Int} {heapIdMask found left : BitVec 32} {errno : Int}
    (h : HeapIdMaskStep ionFd heapIdMask errno errorNonNull t found left) :
    ∀ e ∈ t, ∀ r ∈ e.call.uses, r = .descriptor ionFd := by
  have hdevice : ∀ r ∈ [Resource.descriptor (w := w) ionFd], r = .descriptor ionFd :=
    List.forall_mem_singleton.mpr rfl
  have hstore : ∀ code, ∀ e ∈ storeEvents (w := w) errorNonNull code, ∀ r ∈ e.call.uses,
      r = .descriptor ionFd := by
    intro code e he r hr
    rw [storeEvents_uses e he] at hr
    cases hr
  cases h with
  | cached hne => exact List.forall_mem_nil _
  | countFailed hzero e => exact List.forall_mem_cons.mpr ⟨hdevice, hstore _⟩
  | noHeaps hzero => exact List.forall_mem_cons.mpr ⟨hdevice, hstore _⟩
  | queryFailed hzero cnt hcnt e =>
      exact List.forall_mem_cons.mpr ⟨hdevice, List.forall_mem_cons.mpr ⟨hdevice, hstore _⟩⟩
  | queried hzero cnt hcnt written found hloop =>
      exact List.forall_mem_cons.mpr ⟨hdevice, List.forall_mem_singleton.mpr hdevice⟩

theorem HeapIdMaskStep.works {ionFd : Int} {heapIdMask found left : BitVec 32} {errno : Int}
    (h : HeapIdMaskStep ionFd heapIdMask errno errorNonNull t found left)
    (hdevice : .descriptor ionFd ∈ tools) : LibraryWorks t tools tools := by
  have hworks : LibraryWorks t (0 + tools) (0 + tools) :=
    .of_turns (h.turns 0) fun e he r hr => by
      rw [h.uses e he r hr]
      exact Or.inr hdevice
  rwa [zero_add] at hworks

/-- The descriptor of an ION allocation is obtained with the device, and with the handle
where one is needed. -/
theorem IonDmabufStep.works {ionFd : Int} {ionHeapIdMask ionHeapFlags heapIdMask left : BitVec 32}
    {errno fd : Int} (h : IonDmabufStep config ionFd size alignment ionHeapIdMask ionHeapFlags
      heapIdMask errno errorNonNull t fd left) (hdevice : .descriptor ionFd ∈ tools) :
    LibraryWorks t tools ((if 0 ≤ fd then {.descriptor fd} else 0) + tools) := by
  have hion : ∀ r ∈ [Resource.descriptor (w := w) ionFd], r ∈ tools :=
    List.forall_mem_singleton.mpr hdevice
  have hboth : ∀ handle, ∀ held : Multiset (Resource w), .descriptor ionFd ∈ held →
      .ionHandle ionFd handle ∈ held →
      ∀ r ∈ [Resource.descriptor (w := w) ionFd, .ionHandle ionFd handle], r ∈ held :=
    fun handle held hfd hhandle =>
      List.forall_mem_cons.mpr ⟨hfd, List.forall_mem_singleton.mpr hhandle⟩
  have hheld : ∀ handle, ∀ r ∈ [Resource.descriptor (w := w) ionFd, .ionHandle ionFd handle],
      r ∈ .ionHandle ionFd handle ::ₘ tools := fun handle =>
    hboth handle _ (Multiset.mem_cons_of_mem hdevice) (Multiset.mem_cons_self _ _)
  have hminus : ¬ (0 : Int) ≤ -1 := by decide
  cases h with
  | noMask hquery t left hmask =>
      rw [if_neg hminus, zero_add]
      exact hmask.works hdevice
  | allocFailed hquery t found left hmask hne e =>
      rw [if_neg hminus, zero_add]
      exact (hmask.works hdevice).append (.keep rfl hion (storeEvents_works _ _ _))
  | allocated hquery t found left hmask hne fd =>
      refine (hmask.works hdevice).append ?_
      by_cases hnonneg : 0 ≤ fd
      · rw [if_pos hnonneg, Multiset.singleton_add]
        exact .acquire (libraryEffect_of_acquires rfl rfl (answeredDescriptor_of_nonneg hnonneg))
          hion (.nil _)
      · rw [if_neg hnonneg, zero_add]
        exact .keep (libraryEffect_of_neither rfl
          (answeredDescriptor_of_neg (Int.not_le.mp hnonneg))) hion (.nil _)
  | handleFailed hold e =>
      rw [if_neg hminus, zero_add]
      exact .keep rfl hion (storeEvents_works _ _ _)
  | mapFailed hold handle e =>
      rw [if_neg hminus, zero_add]
      have hfree : LibraryWorks [⟨.ionIocFree ionFd handle, ()⟩]
          (.ionHandle ionFd handle ::ₘ tools) tools := .release rfl (hheld handle) (.nil _)
      exact .acquire rfl hion (.keep rfl (hheld handle)
        ((storeEvents_works _ _ _).append hfree))
  | mapNegative hold handle fd hneg =>
      rw [if_neg hminus, zero_add]
      have hfree : LibraryWorks [⟨.ionIocFree ionFd handle, ()⟩]
          (.ionHandle ionFd handle ::ₘ tools) tools := .release rfl (hheld handle) (.nil _)
      exact .acquire rfl hion (.keep (libraryEffect_of_neither rfl (answeredDescriptor_of_neg hneg))
        (hheld handle) ((storeEvents_works _ _ _).append hfree))
  | mapped hold handle fd hnonneg =>
      rw [if_pos hnonneg, Multiset.singleton_add]
      refine .acquire rfl hion (.acquire
        (libraryEffect_of_acquires rfl rfl (answeredDescriptor_of_nonneg hnonneg))
        (hheld handle) ?_)
      rw [Multiset.cons_swap]
      refine .release rfl (hboth handle _ ?_ (Multiset.mem_cons_self _ _)) (.nil _)
      exact Multiset.mem_cons_of_mem (Multiset.mem_cons_of_mem hdevice)

/-- An ION allocation works with the device, and with the DMA-BUF that it was given. -/
theorem IonAllocateStep.works {allocator : IonAllocator} {heapIdMask left : BitVec 32}
    {r : Option (IonBuffer w)}
    (h : IonAllocateStep config allocator size alignment heapIdMask ambient errorNonNull t r left)
    (hdevice : .descriptor allocator.ionFd ∈ tools) :
    LibraryWorks t tools (newMemory (r.map (.ion allocator)) + tools) := by
  have hkeep : ∀ fd answer,
      libraryEffect (ionPhysQuery (w := w) config allocator.ionFd fd answer) = .keep := by
    intro fd answer
    unfold ionPhysQuery
    split <;> rfl
  have hown : ∀ fd, ∀ r ∈ [Resource.descriptor (w := w) fd], r ∈ .descriptor fd ::ₘ tools :=
    fun fd => List.forall_mem_singleton.mpr (Multiset.mem_cons_self _ _)
  have hquery : ∀ fd answer, ∀ r ∈ (ionPhysQuery (w := w) config allocator.ionFd fd answer).call.uses,
      r ∈ .descriptor fd ::ₘ tools := by
    intro fd answer
    unfold ionPhysQuery
    split
    · exact hown fd
    · exact List.forall_mem_cons.mpr ⟨Multiset.mem_cons_of_mem hdevice, hown fd⟩
  cases h with
  | noDescriptor t fd left hfd hneg =>
      have hworks := hfd.works hdevice
      rwa [if_neg (Int.not_le.mpr hneg)] at hworks
  | noAddress t fd left hfd hnonneg t' hphys =>
      have hworks := hfd.works hdevice
      rw [if_pos hnonneg, Multiset.singleton_add] at hworks
      rw [Option.map_none, newMemory, Option.elim_none, zero_add]
      have hclose : LibraryWorks [⟨.close fd, ()⟩] (.descriptor fd ::ₘ tools) tools :=
        .release rfl (hown fd) (.nil _)
      exact hworks.append ((hphys.works (hkeep fd) (hquery fd)).append hclose)
  | allocated t fd left hfd hnonneg t' phys hphys hne =>
      have hworks := hfd.works hdevice
      rw [if_pos hnonneg, Multiset.singleton_add] at hworks
      rw [Option.map_some, newMemory, Option.elim_some, Multiset.singleton_add]
      exact hworks.append (hphys.works (hkeep fd) (hquery fd))

/-- **Allocation** works with the tools of the allocator, and with what it was given by
then. -/
theorem AllocateStep.works {allocator : Allocator w} {heapIdMask left : BitVec 32}
    {r : Option (DmaBuffer w)}
    (h : AllocateStep config size alignment heapIdMask ambient errorNonNull allocator t r left) :
    LibraryWorks t allocator.tools (newMemory r + allocator.tools) := by
  cases h with
  | dmaHeap hstep => exact hstep.works (mem_deviceDescriptor _ _)
  | ion hstep => exact hstep.works (mem_deviceDescriptor _ _)
  | @dwl allocator t r hstep =>
      have hdevice : ∀ r ∈ [Resource.dwlInstance allocator.dwlInstance],
          r ∈ (Allocator.dwl allocator).tools :=
        List.forall_mem_singleton.mpr
          (Multiset.mem_add.mpr (Or.inl (Multiset.mem_singleton_self _)))
      cases hstep with
      | failed =>
          rw [Option.map_none, newMemory, Option.elim_none, zero_add]
          exact .keep rfl hdevice (storeEvents_works _ _ _)
      | allocated virt bus =>
          rw [Option.map_some, newMemory, Option.elim_some, Multiset.singleton_add]
          exact .acquire rfl hdevice (.nil _)
  | @ipu allocator t r hstep =>
      have hdevice : ∀ r ∈ [Resource.descriptor (w := w) allocator.ipuFd],
          r ∈ (Allocator.ipu allocator).tools :=
        List.forall_mem_singleton.mpr (mem_deviceDescriptor _ _)
      cases hstep with
      | failed e =>
          rw [Option.map_none, newMemory, Option.elim_none, zero_add]
          exact .keep rfl hdevice (storeEvents_works _ _ _)
      | zero =>
          rw [Option.map_none, newMemory, Option.elim_none, zero_add]
          exact .keep rfl hdevice (.nil _)
      | allocated phys hne =>
          rw [Option.map_some, newMemory, Option.elim_some, Multiset.singleton_add]
          exact .acquire (libraryEffect_of_acquires rfl (if_neg hne) rfl) hdevice (.nil _)
  | g2d hstep =>
      cases hstep with
      | failed =>
          rw [Option.map_none, newMemory, Option.elim_none, zero_add]
          exact .keep rfl (List.forall_mem_nil _) (storeEvents_works _ _ _)
      | allocated buf =>
          rw [Option.map_some, newMemory, Option.elim_some, Multiset.singleton_add]
          exact .acquire rfl (List.forall_mem_nil _) (.nil _)
  | @pxp allocator t r hstep =>
      have hdevice : ∀ r ∈ [Resource.descriptor (w := w) allocator.pxpFd],
          r ∈ (Allocator.pxp allocator).tools :=
        List.forall_mem_singleton.mpr (mem_deviceDescriptor _ _)
      cases hstep with
      | failed e =>
          rw [Option.map_none, newMemory, Option.elim_none, zero_add]
          exact .keep rfl hdevice (storeEvents_works _ _ _)
      | allocated handle phys =>
          rw [Option.map_some, newMemory, Option.elim_some, Multiset.singleton_add]
          exact .acquire rfl hdevice (.nil _)

end Allocate

section Constructors

variable {L L' : LibraryState w} {op : LibraryCall w} {t : List (KEvent w)}
  {ret : LibraryReturn w}

theorem NewStep.uses {path : String} {mode : OpenMode} {fd : Int} {errorNonNull : Bool}
    {device : Option (Int × Bool)} (h : NewStep path mode fd errorNonNull t device) :
    ∀ e ∈ t, e.call.uses = [] := by
  cases h with
  | failed hneg e => exact List.forall_mem_cons.mpr ⟨rfl, storeEvents_uses⟩
  | opened hneg opened => exact List.forall_mem_singleton.mpr rfl
  | given hnonneg => exact List.forall_mem_nil _

/-- The constructors work with nothing yet. -/
theorem constructor_uses (hop : op.isConstructor = true)
    (h : Runs (libraryStep config L op) t (.done (ret, L'))) : ∀ e ∈ t, e.call.uses = [] := by
  cases op with
  | newDmaHeap dmaHeapFd heapFlags fdFlags errorNonNull =>
      obtain ⟨r, hrun, -⟩ := runs_map_done_iff.mp h
      exact (dmaHeapNew_done hrun).uses
  | newDmaHeapFromFd dmaHeapFd heapFlags fdFlags isCachedMemoryHeap =>
      obtain ⟨a, hrun, -⟩ := runs_map_done_iff.mp h
      unfold dmaHeapAllocatorNewFromFd at hrun
      by_cases hfd : 0 < dmaHeapFd
      · rw [dif_pos hfd] at hrun
        obtain ⟨rfl, -⟩ := runs_ret_done_iff.mp hrun
        exact List.forall_mem_nil _
      · rw [dif_neg hfd] at hrun
        cases (runs_halt_iff.mp hrun).2
  | newIon ionFd ionHeapIdMask ionHeapFlags errorNonNull =>
      obtain ⟨r, hrun, -⟩ := runs_map_done_iff.mp h
      exact (ionNew_done hrun).uses
  | newDwl errorNonNull =>
      obtain ⟨r, hrun, -⟩ := runs_map_done_iff.mp h
      cases dwlNew_done hrun with
      | failed => exact List.forall_mem_cons.mpr ⟨rfl, storeEvents_uses⟩
      | created dwlInstance hne => exact List.forall_mem_singleton.mpr rfl
  | newIpu ipuFd errorNonNull =>
      obtain ⟨r, hrun, -⟩ := runs_map_done_iff.mp h
      exact (ipuNew_done hrun).uses
  | newG2d =>
      obtain ⟨rfl, -⟩ := runs_ret_done_iff.mp h
      exact List.forall_mem_nil _
  | newPxp pxpFd errorNonNull =>
      obtain ⟨r, hrun, -⟩ := runs_map_done_iff.mp h
      exact (pxpNew_done hrun).uses
  | _ => cases hop

/-- A destruction works with the device that it gives back. -/
theorem destroy_uses {a : Allocator w} (h : Runs (imxDmaBufferAllocatorDestroy a) t (.done ())) :
    ∀ e ∈ t, ∀ r ∈ e.call.uses, libraryEffect e = .release r := by
  have hclose : ∀ (opened : Prop) [Decidable opened] (fd : Int) (isInternal : Bool),
      Runs (if opened ∧ isInternal = true then perform (S := kernel w) (.close fd) else pure ()) t
        (.done ()) → ∀ e ∈ t, ∀ r ∈ e.call.uses, libraryEffect e = .release r := by
    intro opened _ fd isInternal hrun
    obtain ⟨-, rfl⟩ := closeDevice_events hrun
    split
    · exact List.forall_mem_singleton.mpr (List.forall_mem_singleton.mpr rfl)
    · exact List.forall_mem_nil _
  cases a with
  | dmaHeap a => exact hclose _ _ _ h
  | ion a => exact hclose _ _ _ h
  | dwl a =>
      obtain ⟨-, hrelease⟩ := runs_require_bind_iff.mp h
      obtain ⟨answer, rest, rfl, hrest⟩ := runs_call_iff.mp hrelease
      obtain ⟨rfl, -⟩ := runs_ret_done_iff.mp hrest
      exact List.forall_mem_singleton.mpr (List.forall_mem_singleton.mpr rfl)
  | ipu a => exact hclose _ _ _ h
  | g2d =>
      obtain ⟨rfl, -⟩ := runs_ret_done_iff.mp h
      exact List.forall_mem_nil _
  | pxp a => exact hclose _ _ _ h

end Constructors

/-- The pointers from the buffers to their allocators: each leads to an allocator that was
created before, and, while that one is there, to the one that allocated the buffer. -/
structure KnowsAllocators (L : LibraryState w) : Prop where
  born : ∀ slot ∈ L.buffers, slot.allocator < L.allocators.length
  allocator : ∀ slot ∈ L.buffers, ∀ b a, slot.buffer = some b →
    L.liveAllocator slot.allocator = some a → b.allocator = a

namespace KnowsAllocators

variable {L L' : LibraryState w} {r : LibraryRecord w}

theorem empty : KnowsAllocators (w := w) LibraryState.empty :=
  ⟨List.forall_mem_nil _, List.forall_mem_nil _⟩

/-- Calls that create and destroy allocators change none that is left. -/
theorem allocators_kept
    (hrun : Runs (libraryStep config L r.op) r.events (.done (r.ret, L'))) :
    L.allocators.length ≤ L'.allocators.length ∧ ∀ i a, i < L.allocators.length →
      L'.liveAllocator i = some a → L.liveAllocator i = some a := by
  cases hop : r.op.isConstructor with
  | false =>
      obtain ⟨hlength, hlive⟩ := other_keeps_allocators hop hrun
      exact ⟨hlength.ge, fun i a _ => hlive i a⟩
  | true =>
      obtain ⟨created, heq, -⟩ := constructor_opens hop hrun
      obtain rfl := congrArg Prod.snd heq
      cases created with
      | none => exact ⟨le_refl _, fun i a _ hlive => hlive⟩
      | some a =>
          refine ⟨by rw [LibraryState.length_addAllocator]; omega, fun i b hi hlive => ?_⟩
          rcases LibraryState.live_addAllocator hlive with ⟨-, hlive⟩ | ⟨rfl, -⟩
          · exact hlive
          · omega

/-- A buffer and its allocator know each other. -/
theorem live (hknows : KnowsAllocators L) {j : Nat} {b : DmaBuffer w}
    (hlive : L.liveBuffer j = some b) : ∃ i, L.liveAllocator i = some b.allocator := by
  obtain ⟨slot, hslot, hthere⟩ := Option.bind_eq_some_iff.mp hlive
  split at hthere
  · rename_i hsome
    obtain ⟨a, ha⟩ := Option.isSome_iff_exists.mp hsome
    have hmem : slot ∈ L.buffers := List.mem_of_getElem? hslot
    exact ⟨slot.allocator, by rw [hknows.allocator slot hmem b a hthere ha, ha]⟩
  · cases hthere

/-- One call. -/
theorem step (hknows : KnowsAllocators L)
    (hrun : Runs (libraryStep config L r.op) r.events (.done (r.ret, L'))) : KnowsAllocators L' := by
  obtain ⟨hlength, hkept⟩ := allocators_kept hrun
  obtain ⟨op, t, ret⟩ := r
  cases buffersStep_of_done hrun with
  | keeps hop hbuffers =>
      constructor
      · rw [hbuffers]
        exact fun slot hslot => Nat.lt_of_lt_of_le (hknows.born slot hslot) hlength
      · rw [hbuffers]
        intro slot hslot b a hb hlive
        exact hknows.allocator slot hslot b a hb (hkept _ _ (hknows.born slot hslot) hlive)
  | allocates i b left hop hallocates =>
      obtain ⟨a, size, alignment, ambient, errorNonNull, -, hlive, hallocate⟩ := hallocates
      constructor
      · refine List.forall_mem_append.mpr ⟨hknows.born, List.forall_mem_singleton.mpr ?_⟩
        have hentry : L.allocators[i]? = some (some a) := Option.join_eq_some_iff.mp hlive
        exact (List.getElem?_eq_some_iff.mp hentry).1
      · refine List.forall_mem_append.mpr ⟨hknows.allocator, List.forall_mem_singleton.mpr ?_⟩
        intro b' a' hb' ha'
        obtain rfl := Option.some.inj hb'
        rw [(allocate_fresh hallocate).2.1]
        exact Option.some.inj (hlive.symm.trans ha')
  | call j call b pointer c hlive hstep =>
      have hslots : ∀ slot' ∈ (L.setBuffer j c).buffers, ∃ slot ∈ L.buffers,
          slot'.allocator = slot.allocator ∧ ∀ b', slot'.buffer = some b' →
            ∃ before, slot.buffer = some before ∧ b'.allocator = before.allocator := by
        intro slot' hslot'
        obtain ⟨k, hk⟩ := List.getElem?_of_mem hslot'
        rw [LibraryState.setBuffer_slot] at hk
        obtain ⟨slot, hslot, rfl⟩ := Option.map_eq_some_iff.mp hk
        refine ⟨slot, List.mem_of_getElem? hslot, ?_⟩
        by_cases hjk : j = k
        · rw [if_pos hjk]
          refine ⟨rfl, fun b' hb' => ⟨b, ?_, ?_⟩⟩
          · have hat := LibraryState.bufferAt_of_live hlive
            rwa [hjk, LibraryState.bufferAt_of_slot hslot] at hat
          · have hc : c = some b' := hb'
            rw [hc] at hstep
            exact bufferStep_keeps _ allocator_skeleton hstep
        · rw [if_neg hjk]
          exact ⟨rfl, fun b' hb' => ⟨b', hb', rfl⟩⟩
      constructor
      · intro slot' hslot'
        obtain ⟨slot, hmem, hsame, -⟩ := hslots slot' hslot'
        rw [hsame]
        exact hknows.born slot hmem
      · intro slot' hslot' b' a hb' ha
        obtain ⟨slot, hmem, hsame, hbuffer⟩ := hslots slot' hslot'
        obtain ⟨before, hbefore, hallocator⟩ := hbuffer b' hb'
        rw [hallocator]
        rw [hsame] at ha
        exact hknows.allocator slot hmem before a hbefore ha

/-- **The pointers are right** after every history. -/
theorem of_steps {G : (libraryMachine w config).Guard} {h : List (LibraryRecord w)}
    (hs : (libraryMachine w config).Steps G LibraryState.empty h L) : KnowsAllocators L :=
  hs.track_history (R := fun _ (L : LibraryState w) => KnowsAllocators L)
    (fun _ _ _ _ hknows _ hrun => hknows.step hrun) empty

end KnowsAllocators

section Step

variable {L L' : LibraryState w} {op : LibraryCall w} {t : List (KEvent w)}
  {ret : LibraryReturn w}

/-- What a buffer holds, the library holds. -/
theorem LibraryState.mem_resources_of_bufferAt {b : DmaBuffer w} {x : Resource w}
    (hb : L.bufferAt j = some b) (hx : x ∈ b.resources) : x ∈ L.resources := by
  obtain ⟨slot, hslot, hbuffer⟩ := Option.bind_eq_some_iff.mp hb
  obtain ⟨rest, hsum, -⟩ := sum_map_modify (fun slot => resourcesLeft slot.buffer) hslot
  rw [resources, hsum, hbuffer, resourcesLeft, Option.elim_some]
  exact Multiset.mem_add.mpr (Or.inr (Multiset.mem_add.mpr (Or.inl hx)))

/-- The tools of a live allocator are there, next to everything else. -/
theorem LibraryState.tools_of_live {i : Nat} {a : Allocator w} (h : L.liveAllocator i = some a) :
    ∃ rest, (L.allocators.map fun a => a.elim 0 Allocator.device).sum + L.lent = a.tools + rest := by
  have hentry : L.allocators[i]? = some (some a) := Option.join_eq_some_iff.mp h
  obtain ⟨rest, hdevices, -⟩ := sum_map_modify (fun a => a.elim 0 Allocator.device) hentry
  obtain ⟨rest', hlent, -⟩ := sum_map_modify (fun a => a.elim 0 Allocator.lent) hentry
  refine ⟨rest + rest', ?_⟩
  rw [LibraryState.lent, hdevices, hlent, Option.elim_some, Option.elim_some, Allocator.tools,
    add_add_add_comm]

/-- **One call** works with what the library holds and with what it was lent. -/
theorem libraryStep_works (hknows : KnowsAllocators L)
    (h : Runs (libraryStep config L op) t (.done (ret, L'))) :
    ∃ left, LibraryWorks t (L.resources + L.lent) left := by
  cases hconstructor : op.isConstructor with
  | true =>
      have hcloses : DestroysClose L op := by
        rintro i a rfl
        cases hconstructor
      exact ⟨_, .of_turns (libraryStep_turns hcloses h) fun e he r hr => by
        rw [constructor_uses hconstructor h e he] at hr
        cases hr⟩
  | false =>
      cases op with
      | destroy i =>
          obtain ⟨a, hlive, hrun, -⟩ := library_destroy_done h
          by_cases hcloses : DestroysClose L (.destroy i)
          · exact ⟨_, .of_turns (libraryStep_turns hcloses h) fun e he r hr =>
              Or.inl (destroy_uses hrun e he r hr)⟩
          · have hkeeps : ¬ a.ClosesDevice := by
              intro hcloses'
              apply hcloses
              intro i' a' hop hlive'
              obtain rfl := LibraryCall.destroy.inj hop
              obtain rfl := Option.some.inj (hlive.symm.trans hlive')
              exact hcloses'
            obtain ⟨rfl, -⟩ := destroy_keeps hkeeps hrun
            exact ⟨_, .nil _⟩
      | allocate i size alignment ambient errorNonNull =>
          obtain ⟨a, r, left, hlive, hrun, -⟩ := library_allocate_done h
          obtain ⟨rest, hrest⟩ := LibraryState.tools_of_live hlive
          have hworks := (allocate_done hrun).2.works.frame
            (rest + (L.buffers.map fun slot => resourcesLeft slot.buffer).sum)
          rw [← add_assoc, ← hrest, add_right_comm] at hworks
          exact ⟨_, hworks⟩
      | buffer j call =>
          obtain ⟨b, pointer, c, hlive, hrun, -⟩ := library_buffer_done h
          obtain ⟨i, hallocator⟩ := hknows.live hlive
          obtain ⟨rest, hrest⟩ := LibraryState.tools_of_live hallocator
          have hat := LibraryState.bufferAt_of_live hlive
          obtain ⟨slot, hslot, hbuffer⟩ := Option.bind_eq_some_iff.mp hat
          obtain ⟨rest', hrest', -⟩ :=
            sum_map_modify (fun slot => resourcesLeft slot.buffer) hslot
          have hheld : L.resources + L.lent =
              b.resources + b.allocator.tools + (rest' + rest) := by
            rw [LibraryState.resources, add_right_comm, hrest, hrest', hbuffer, resourcesLeft,
              Option.elim_some, add_comm (b.allocator.tools + rest), add_add_add_comm]
          rw [hheld]
          exact ⟨_, (bufferStep_works hrun).frame _⟩
      | _ => cases hconstructor

/-- What one call leaves in the ledger is what the library then should hold, and what was
lost in this call. -/
theorem libraryStep_ledger (h : Runs (libraryStep config L op) t (.done (ret, L'))) :
    ∃ lost, Turns resourceEffect t L.resources (L'.resources + lost) := by
  by_cases hcloses : DestroysClose L op
  · exact ⟨_, turns_with_abandoned (libraryStep_turns hcloses h)⟩
  · simp only [DestroysClose, not_forall] at hcloses
    obtain ⟨i, a, rfl, hlive, hkeeps⟩ := hcloses
    obtain ⟨a', hlive', hdestroy, rfl⟩ := library_destroy_done h
    obtain rfl := Option.some.inj (hlive.symm.trans hlive')
    obtain ⟨rfl, -⟩ := destroy_keeps hkeeps hdestroy
    obtain ⟨rest, hsum, hleft⟩ := LibraryState.resources_liveAllocator hlive
    refine ⟨a.device, ?_⟩
    rw [hleft, add_comm rest, ← hsum]
    exact .nil _

end Step

/-- In every run the ledger holds what the library should hold, and what was lost. -/
theorem ledger_of_steps {G : (libraryMachine w config).Guard} {h : List (LibraryRecord w)}
    {L : LibraryState w} (hs : (libraryMachine w config).Steps G LibraryState.empty h L) :
    ∃ lost, Turns resourceEffect (historyEvents h) 0 (L.resources + lost) := by
  refine hs.track_events (R := fun events (L : LibraryState w) =>
    ∃ lost, Turns resourceEffect events 0 (L.resources + lost)) ?_ ⟨0, .nil 0⟩
  intro events L r L' hbefore _ hrun
  obtain ⟨lost, hturns⟩ := hbefore
  obtain ⟨lost', hstep⟩ := libraryStep_ledger hrun
  refine ⟨lost' + lost, ?_⟩
  rw [← add_assoc]
  exact hturns.append (hstep.frame lost)

/-- **Nothing is used that is not held.**  Whenever a call to the kernel or to a vendor
library is made, everything that it works with is in the ledger of all that was acquired
and not released before, or was lent to an allocator that is there. -/
theorem uses_held {G : (libraryMachine w config).Guard} {h : List (LibraryRecord w)}
    {L : LibraryState w} (hs : (libraryMachine w config).Steps G LibraryState.empty h L) :
    ∀ before r after, h = before ++ r :: after → ∀ first e rest, r.events = first ++ e :: rest →
      ∃ (middle : LibraryState w) (held : Multiset (Resource w)),
        (libraryMachine w config).Steps G LibraryState.empty before middle ∧
        replay resourceEffect 0 (historyEvents before ++ first) = some held ∧
        ∀ x ∈ e.call.uses, x ∈ held ∨ x ∈ middle.lent := by
  intro before r after hsplit first e rest hevents
  rw [hsplit] at hs
  obtain ⟨middle, next, hbefore, -, hrun⟩ := hs.at
  obtain ⟨left, hworks⟩ := libraryStep_works (.of_steps hbefore) hrun
  obtain ⟨lost, hledger⟩ := ledger_of_steps hbefore
  rw [hevents] at hworks
  obtain ⟨held', hheld', huses⟩ := hworks.at
  by_cases hcloses : DestroysClose middle r.op
  · have hturns := libraryStep_turns hcloses hrun
    rw [hevents] at hturns
    obtain ⟨held, hheld, -⟩ := hturns.split
    obtain rfl : held + middle.lent = held' :=
      Option.some.inj ((hheld.frame middle.lent).symm.trans hheld')
    have hfirst := (turns_with_abandoned hheld).frame lost
    refine ⟨middle, _, hbefore, hledger.append hfirst, fun x hx => ?_⟩
    rcases Multiset.mem_add.mp (huses x hx) with hmem | hmem
    · exact Or.inl (Multiset.mem_add.mpr (Or.inl (Multiset.mem_add.mpr (Or.inl hmem))))
    · exact Or.inr hmem
  · simp only [DestroysClose, not_forall] at hcloses
    obtain ⟨i, a, hop, hlive, hkeeps⟩ := hcloses
    rw [hop] at hrun
    have hrun : Runs (libraryStep config middle (.destroy i)) r.events (.done (r.ret, next)) := hrun
    obtain ⟨a', hlive', hdestroy, -⟩ := library_destroy_done hrun
    obtain rfl := Option.some.inj (hlive.symm.trans hlive')
    have hnone := (destroy_keeps hkeeps hdestroy).1
    rw [hevents] at hnone
    exact absurd hnone (List.append_ne_nil_of_right_ne_nil _ (List.cons_ne_nil _ _))

/-- An allocator that was lent the descriptor 7, and a buffer of it that is mapped. -/
def lentIpu : List (LibraryRecord 64) :=
  [⟨.newIpu 7 true, [], .created (some 0)⟩,
   ⟨.allocate 0 4096 0 cleanAmbient true, [⟨.ipuAlloc 7 4096, .ok 0x80000000⟩],
     .created (some 0)⟩,
   ⟨.buffer 0 (.map 3 true), [⟨.mmap 4096 3 7 0x80000000, .ok ⟨0x10000, sample_address_ne_null⟩⟩],
     .returned (some 0x10000)⟩]

/-- The deallocation of the buffer. -/
def lentIpuFreed : LibraryRecord 64 :=
  ⟨.buffer 0 .deallocate, [⟨.munmap 0x10000 4096, ()⟩, ⟨.ipuFree 7 0x80000000, ()⟩],
     .returned none⟩

/-- When the memory is given back, it is held, and the descriptor is still lent. -/
theorem lent_ipu_used : ∃ (middle : LibraryState 64) (held : Multiset (Resource 64)),
    (libraryMachine 64 recentKernelConfig).Steps (fun _ _ _ => True) LibraryState.empty lentIpu
      middle ∧
    replay resourceEffect 0 (historyEvents lentIpu ++ [⟨.munmap 0x10000 4096, ()⟩]) = some held ∧
    ∀ x ∈ [Resource.descriptor (w := 64) 7, .ipuMemory 7 0x80000000],
      x ∈ held ∨ x ∈ middle.lent := by
  have hs : ∃ L, (libraryMachine 64 recentKernelConfig).Steps (fun _ _ _ => True)
      LibraryState.empty (lentIpu ++ [lentIpuFreed]) L := by
    refine ⟨_, .cons trivial (.ret _) (.cons trivial (.call _ (.ret _))
      (.cons trivial (.call _ (.ret _)) (.single trivial (.call _ (.call _ (.ret _))))))⟩
  obtain ⟨L, hs⟩ := hs
  exact uses_held hs lentIpu lentIpuFreed [] rfl [⟨.munmap 0x10000 4096, ()⟩]
    ⟨.ipuFree 7 0x80000000, ()⟩ [] rfl

end ImxDmaBuffer
