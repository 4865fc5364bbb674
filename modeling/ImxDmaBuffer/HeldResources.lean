import ImxDmaBuffer.Library.ResourceLedger
import ImxDmaBuffer.AllocateSteps

/-!
# The kernel resources behind allocators and buffers

Device descriptors, DMA-BUF descriptors, ION handles, mappings, and the memory of the
IPU and PxP drivers and of the vendor libraries are resources: some calls acquire
one, others release one.  Every operation is accounted for by a triple of the
ledger: with the resources of what it works on it can be replayed, and leaves the
resources of what it leaves behind.

One kind of event needs care.  An `IPU_ALLOC` that succeeds with the address 0
acquires memory which the library takes for a failure.  `libraryEffect` is the
ledger as the library believes it to be, without such memory.
-/

namespace ImxDmaBuffer

open CallProgram ResourceLedger

variable {w : Nat}

/-- What the library can hold. -/
inductive Resource (w : Nat) where
  | descriptor (fd : Int)
  | ionHandle (ionFd handle : Int)
  | mapping (address length : BitVec w)
  | ipuMemory (ipuFd : Int) (physicalAddress : BitVec w)
  | pxpMemory (pxpFd : Int) (memDesc : PxpMemDesc w)
  | dwlInstance (dwlInstance : BitVec w)
  | dwlMemory (dwlInstance : BitVec w) (mem : DwlLinearMem w)
  | g2dMemory (buf : G2dBuf w)
  deriving DecidableEq

/-- The resource that a call gives back, whatever it answers. -/
def Call.releases : Call w → Option (Resource w)
  | .close fd => some (.descriptor fd)
  | .munmap address length => some (.mapping address length)
  | .ionIocFree fd handle => some (.ionHandle fd handle)
  | .ipuFree fd physicalAddress => some (.ipuMemory fd physicalAddress)
  | .pxpIocPutPhymem fd memDesc => some (.pxpMemory fd memDesc)
  | .dwlRelease dwlInstance => some (.dwlInstance dwlInstance)
  | .dwlFreeLinear dwlInstance mem => some (.dwlMemory dwlInstance mem)
  | .g2dFree buf => some (.g2dMemory buf)
  | _ => none

/-- A descriptor that a call answered; a negative number is none. -/
def answeredDescriptor (fd : Int) : Option (Resource w) :=
  if 0 ≤ fd then some (.descriptor fd) else none

/-- The resource that a call acquired. -/
def acquires : KEvent w → Option (Resource w)
  | ⟨.openDevice _ _, .ok fd⟩ => some (.descriptor fd)
  | ⟨.mmap length _ _ _, .ok mapped⟩ => some (.mapping mapped.address length)
  | ⟨.dmaHeapIoctlAlloc _ _ _ _, .ok fd⟩ => answeredDescriptor fd
  | ⟨.ionIocAllocFd _ _ _ _, .ok fd⟩ => answeredDescriptor fd
  | ⟨.ionIocAllocHandle fd _ _ _ _, .ok handle⟩ => some (.ionHandle fd handle)
  | ⟨.ionIocMap _ _, .ok fd⟩ => answeredDescriptor fd
  | ⟨.ipuAlloc fd _, .ok phys⟩ => some (.ipuMemory fd phys)
  | ⟨.pxpIocGetPhymem fd size mtype, .ok (handle, phys)⟩ =>
      some (.pxpMemory fd { handle := handle, size := size, physAddr := phys, mtype := mtype })
  | ⟨.dwlInit _, dwlInstance⟩ =>
      if dwlInstance = (0 : BitVec w) then none else some (.dwlInstance dwlInstance)
  | ⟨.dwlMallocLinear dwlInstance _ memType, some (virt, bus)⟩ =>
      some (.dwlMemory dwlInstance
        { virtualAddress := virt, busAddress := bus, memType := memType })
  | ⟨.g2dAlloc _ _, some buf⟩ => some (.g2dMemory buf)
  | _ => none

/-- What an event does to the resources that are held. -/
def resourceEffect (e : KEvent w) : Effect (Resource w) :=
  match e.call.releases with
  | some r => .release r
  | none =>
      match acquires e with
      | some r => .acquire r
      | none => .keep

/-- Memory that the library was given at the address 0, and takes for a failure. -/
def abandons : KEvent w → Option (Resource w)
  | ⟨.ipuAlloc fd _, .ok phys⟩ => if phys = 0 then some (.ipuMemory fd phys) else none
  | _ => none

/-- The effect of an event as the library believes it to be. -/
def libraryEffect (e : KEvent w) : Effect (Resource w) :=
  match abandons e with
  | some _ => .keep
  | none => resourceEffect e

/-- Abandoned memory was acquired. -/
theorem resourceEffect_of_abandons {e : KEvent w} {r : Resource w} (h : abandons e = some r) :
    resourceEffect e = .acquire r := by
  obtain ⟨call, answer⟩ := e
  cases call with
  | ipuAlloc fd size =>
      cases answer with
      | error errno => cases h
      | ok phys =>
          by_cases hzero : phys = 0
          · have hmemory : abandons (⟨.ipuAlloc fd size, .ok phys⟩ : KEvent w) =
                some (.ipuMemory fd phys) := if_pos hzero
            obtain rfl := Option.some.inj (hmemory.symm.trans h)
            rfl
          · have hnone : abandons (⟨.ipuAlloc fd size, .ok phys⟩ : KEvent w) = none :=
              if_neg hzero
            rw [hnone] at h
            cases h
  | _ => cases h

theorem libraryEffect_of_abandons {e : KEvent w} {r : Resource w} (h : abandons e = some r) :
    libraryEffect e = .keep := by
  unfold libraryEffect
  rw [h]

theorem libraryEffect_of_none {e : KEvent w} (h : abandons e = none) :
    libraryEffect e = resourceEffect e := by
  unfold libraryEffect
  rw [h]

/-- The ledger is what the library believes it holds, and the memory it abandoned. -/
theorem turns_with_abandoned {t : List (KEvent w)} {before after : Multiset (Resource w)}
    (h : Turns libraryEffect t before after) :
    Turns resourceEffect t before (after + lostOf abandons t) :=
  h.with_lost (fun _ _ => resourceEffect_of_abandons) (fun _ _ => libraryEffect_of_abandons)
    (fun _ => libraryEffect_of_none)

theorem resourceEffect_of_releases {e : KEvent w} {r : Resource w}
    (h : e.call.releases = some r) : resourceEffect e = .release r := by
  unfold resourceEffect
  rw [h]

/-- A call that gives a resource back. -/
theorem libraryEffect_of_releases {e : KEvent w} {r : Resource w}
    (h : e.call.releases = some r) : libraryEffect e = .release r := by
  have habandons : abandons e = none := by
    obtain ⟨call, answer⟩ := e
    cases call with
    | ipuAlloc => cases h
    | _ => rfl
  rw [libraryEffect_of_none habandons, resourceEffect_of_releases h]

/-- Nothing else releases. -/
theorem releases_of_libraryEffect {e : KEvent w} {r : Resource w}
    (h : libraryEffect e = .release r) : e.call.releases = some r := by
  cases habandons : abandons e with
  | some lost =>
      rw [libraryEffect_of_abandons habandons] at h
      cases h
  | none =>
      rw [libraryEffect_of_none habandons, resourceEffect] at h
      cases hreleases : e.call.releases with
      | some r' =>
          simp only [hreleases] at h
          cases h
          rfl
      | none =>
          simp only [hreleases] at h
          cases hacquires : acquires e <;> simp only [hacquires] at h <;> cases h

/-- A call that acquires a resource which the library notices. -/
theorem libraryEffect_of_acquires {e : KEvent w} {r : Resource w} (hreleases : e.call.releases = none)
    (habandons : abandons e = none) (h : acquires e = some r) : libraryEffect e = .acquire r := by
  rw [libraryEffect_of_none habandons, resourceEffect, hreleases, h]

/-- A call that neither releases nor acquires one. -/
theorem libraryEffect_of_neither {e : KEvent w} (hreleases : e.call.releases = none)
    (hacquires : acquires e = none) : libraryEffect e = .keep := by
  unfold libraryEffect
  cases abandons e with
  | some r => rfl
  | none => simp only [resourceEffect, hreleases, hacquires]

/-- Cache syncing concerns no resource. -/
theorem libraryEffect_of_sync {e : KEvent w} (h : e.call.isSync = true) :
    libraryEffect e = .keep := by
  obtain ⟨call, answer⟩ := e
  cases call with
  | dmaBufIoctlPhys => rfl
  | syncSessionStarts => rfl
  | syncSessionStops => rfl
  | _ => cases h

/-- Storing an error concerns no resource. -/
theorem storeEvents_turns (errorNonNull : Bool) (code : Int) (before : Multiset (Resource w)) :
    Turns libraryEffect (storeEvents errorNonNull code) before before := by
  cases errorNonNull with
  | false => exact .nil before
  | true => exact .keep rfl (.nil before)

/-- The device descriptor of an allocator, if it is its own. -/
def deviceDescriptor (fd : Int) (isInternal : Bool) : Multiset (Resource w) :=
  if isInternal then {.descriptor fd} else 0

/-- What an allocator holds itself. -/
def Allocator.device : Allocator w → Multiset (Resource w)
  | .dmaHeap a => deviceDescriptor a.dmaHeapFd a.dmaHeapFdIsInternal
  | .ion a => deviceDescriptor a.ionFd a.ionFdIsInternal
  | .dwl a => {.dwlInstance a.dwlInstance}
  | .ipu a => deviceDescriptor a.ipuFd a.ipuFdIsInternal
  | .g2d => 0
  | .pxp a => deviceDescriptor a.pxpFd a.pxpFdIsInternal

/-- The memory of a buffer. -/
def DmaBuffer.memory : DmaBuffer w → Resource w
  | .dmaHeap _ b => .descriptor b.dmabufFd
  | .ion _ b => .descriptor b.dmabufFd
  | .dwl a b => .dwlMemory a.dwlInstance b.dwlLinearMem
  | .ipu a b => .ipuMemory a.ipuFd b.physicalAddress
  | .g2d b => .g2dMemory b.buf
  | .pxp a b => .pxpMemory a.pxpFd b.memDesc

/-- The mapping of a buffer, if it is mapped by an `mmap`. -/
def DmaBuffer.mappingHeld (b : DmaBuffer w) : Multiset (Resource w) :=
  match b.mappedVirtualAddress with
  | some address => if address = 0 then 0 else {.mapping address (imxDmaBufferGetSize b)}
  | none => 0

/-- What a buffer holds. -/
def DmaBuffer.resources (b : DmaBuffer w) : Multiset (Resource w) := b.memory ::ₘ b.mappingHeld

/-- Constructors hold the device that they open. -/
theorem NewStep.turns {α : Type} {path : String} {mode : OpenMode} {fd : Int}
    {errorNonNull : Bool} {t : List (KEvent w)} {r : Option α} {device : α → Int × Bool}
    {kind : α → Allocator w} (h : NewStep path mode fd errorNonNull t (r.map device))
    (hkind : ∀ a, (kind a).device = deviceDescriptor (device a).1 (device a).2) :
    Turns libraryEffect t 0 ((r.map kind).elim 0 Allocator.device) := by
  cases r with
  | none =>
      cases h with
      | failed hneg e => exact .keep rfl (storeEvents_turns _ _ _)
  | some a =>
      show Turns libraryEffect t 0 (kind a).device
      rw [hkind]
      generalize hdevice : (some a).map device = r at h
      cases h with
      | failed hneg e => cases hdevice
      | opened hneg opened =>
          rw [Option.some.inj hdevice]
          exact .acquire rfl (.nil _)
      | given hnonneg =>
          rw [Option.some.inj hdevice]
          exact .nil 0

theorem DwlNewStep.turns {clientType : DwlClientType} {errorNonNull : Bool} {t : List (KEvent w)}
    {r : Option (DwlAllocator w)} (h : DwlNewStep clientType errorNonNull t r) :
    Turns libraryEffect t 0 ((r.map .dwl).elim 0 Allocator.device) := by
  cases h with
  | failed =>
      have hacquires : acquires (⟨.dwlInit clientType, (0 : BitVec w)⟩ : KEvent w) = none := by
        show (if (0 : BitVec w) = 0 then none else some (Resource.dwlInstance 0)) = none
        exact if_pos rfl
      exact .keep (libraryEffect_of_neither rfl hacquires) (storeEvents_turns _ _ _)
  | created dwlInstance hne =>
      have hacquires : acquires (⟨.dwlInit clientType, dwlInstance⟩ : KEvent w) =
          some (.dwlInstance dwlInstance) := if_neg hne
      exact .acquire (libraryEffect_of_acquires rfl rfl hacquires) (.nil _)

section Destroy

variable {effect : KEvent w → Effect (Resource w)} {t : List (KEvent w)} {fd : Int}
  {isInternal : Bool}

/-- In this ledger, giving a resource back releases it. -/
def Releases (effect : KEvent w → Effect (Resource w)) : Prop :=
  ∀ (e : KEvent w) (r : Resource w), e.call.releases = some r → effect e = .release r

/-- The code that closes the device descriptor if it is the allocator's own and counts as
open. -/
theorem closeDevice_events {opened : Prop} [Decidable opened] {o : Outcome (kernel w) Unit}
    (h : Runs (if opened ∧ isInternal = true then perform (S := kernel w) (.close fd) else pure ())
      t o) :
    o = .done () ∧ t = if opened ∧ isInternal = true then [⟨.close fd, ()⟩] else [] := by
  by_cases hclose : opened ∧ isInternal = true
  · rw [if_pos hclose] at h ⊢
    obtain ⟨answer, rest, rfl, hrest⟩ := runs_call_iff.mp h
    obtain ⟨rfl, rfl⟩ := runs_ret_iff.mp hrest
    exact ⟨rfl, rfl⟩
  · rw [if_neg hclose] at h ⊢
    obtain ⟨rfl, rfl⟩ := runs_ret_iff.mp h
    exact ⟨rfl, rfl⟩

/-- It accounts for the device of an allocator. -/
theorem closeDevice_turns (heffect : Releases effect) {opened : Prop} [Decidable opened]
    (hopened : opened)
    (h : Runs (if opened ∧ isInternal = true then perform (S := kernel w) (.close fd) else pure ())
      t (.done ())) :
    Turns effect t (deviceDescriptor fd isInternal) 0 ∧
      ((deviceDescriptor fd isInternal : Multiset (Resource w)) = 0 → t = []) := by
  obtain ⟨-, rfl⟩ := closeDevice_events h
  cases isInternal with
  | false =>
      rw [if_neg (fun hboth => Bool.false_ne_true hboth.2)]
      exact ⟨.nil 0, fun _ => rfl⟩
  | true =>
      rw [if_pos ⟨hopened, rfl⟩]
      exact ⟨.release (heffect _ _ rfl) (.nil 0),
        fun hnone => absurd hnone (Multiset.singleton_ne_zero _)⟩

/-- Destroying the allocator gives its device back. The dma-heap allocator takes the
descriptor 0 for none. -/
def Allocator.ClosesDevice : Allocator w → Prop
  | .dmaHeap a => a.dmaHeapFdIsInternal = true → a.dmaHeapFd ≠ 0
  | _ => True

/-- A dma-heap allocator with the descriptor 0 closes nothing. -/
theorem destroy_zero_descriptor {a : DmaHeapAllocator} (hzero : ¬ a.dmaHeapFd > 0)
    (h : Runs (dmaHeapAllocatorDestroy a : Code w Unit) t (.done ())) : t = [] := by
  exact (closeDevice_events h).2.trans (if_neg fun hboth => hzero hboth.1)

/-- A destroyed allocator has given its device back, and closed no other. -/
theorem destroy_turns (heffect : Releases effect) {a : Allocator w} (hcloses : a.ClosesDevice)
    (h : Runs (imxDmaBufferAllocatorDestroy a) t (.done ())) :
    Turns effect t a.device 0 ∧ (a.device = 0 → t = []) := by
  cases a with
  | dmaHeap a =>
      by_cases hopen : a.dmaHeapFd > 0
      · exact closeDevice_turns heffect hopen h
      · have hnone : a.dmaHeapFdIsInternal = false := by
          by_contra hinternal
          have hne := hcloses (by simpa using hinternal)
          exact hopen (a.dmaHeapFd_pos hne)
        have hdevice : Allocator.device (.dmaHeap a : Allocator w) = 0 := by
          show deviceDescriptor a.dmaHeapFd a.dmaHeapFdIsInternal = 0
          rw [hnone]
          rfl
        obtain rfl := destroy_zero_descriptor hopen h
        rw [hdevice]
        exact ⟨.nil 0, fun _ => rfl⟩
  | ion a => exact closeDevice_turns heffect a.ionFd_nonneg h
  | dwl a =>
      obtain ⟨-, hrelease⟩ := runs_require_bind_iff.mp h
      obtain ⟨answer, rest, rfl, hrest⟩ := runs_call_iff.mp hrelease
      obtain ⟨rfl, -⟩ := runs_ret_done_iff.mp hrest
      exact ⟨.release (heffect _ _ rfl) (.nil 0),
        fun hnone => absurd hnone (Multiset.singleton_ne_zero _)⟩
  | ipu a => exact closeDevice_turns heffect a.ipuFd_nonneg h
  | g2d =>
      obtain ⟨rfl, -⟩ := runs_ret_done_iff.mp h
      exact ⟨.nil 0, fun _ => rfl⟩
  | pxp a => exact closeDevice_turns heffect a.pxpFd_nonneg h

/-- Otherwise it has closed nothing. -/
theorem destroy_keeps {a : Allocator w} (hkeeps : ¬ a.ClosesDevice)
    (h : Runs (imxDmaBufferAllocatorDestroy a) t (.done ())) : t = [] ∧ a.device ≠ 0 := by
  cases a with
  | dmaHeap a =>
      obtain ⟨hinternal, hzero⟩ := Classical.not_imp.mp hkeeps
      have hfd : a.dmaHeapFd = 0 := not_not.mp hzero
      have hopen : ¬ a.dmaHeapFd > 0 := by omega
      obtain rfl := destroy_zero_descriptor hopen h
      refine ⟨rfl, ?_⟩
      show deviceDescriptor a.dmaHeapFd a.dmaHeapFdIsInternal ≠ 0
      rw [hinternal]
      exact Multiset.singleton_ne_zero _
  | ion => exact absurd trivial hkeeps
  | dwl => exact absurd trivial hkeeps
  | ipu => exact absurd trivial hkeeps
  | g2d => exact absurd trivial hkeeps
  | pxp => exact absurd trivial hkeeps

end Destroy

section Allocate

/-- A descriptor that was answered. -/
theorem answeredDescriptor_of_nonneg {fd : Int} (h : 0 ≤ fd) :
    (answeredDescriptor fd : Option (Resource w)) = some (.descriptor fd) := if_pos h

theorem answeredDescriptor_of_neg {fd : Int} (h : fd < 0) :
    (answeredDescriptor fd : Option (Resource w)) = none := if_neg (Int.not_le.mpr h)

/-- Querying an address concerns no resource. -/
theorem PhysStep.turns {query : Except Errno (BitVec w) → KEvent w} {errorNonNull : Bool}
    {t : List (KEvent w)} {phys : BitVec w} (h : PhysStep query errorNonNull t phys)
    (hquery : ∀ answer, libraryEffect (query answer) = .keep) (before : Multiset (Resource w)) :
    Turns libraryEffect t before before := by
  cases h with
  | failed errno => exact .keep (hquery _) (storeEvents_turns _ _ before)
  | answered phys => exact .keep (hquery _) (.nil before)

/-- The resource that a new buffer holds, if there is one. -/
def newMemory (r : Option (DmaBuffer w)) : Multiset (Resource w) :=
  r.elim 0 fun b => {b.memory}

/-- A dma-heap allocation holds the DMA-BUF that it returns, and nothing else. -/
theorem DmaHeapAllocateStep.turns {allocator : DmaHeapAllocator} {size : BitVec w}
    {ambient : Ambient} {errorNonNull : Bool} {t : List (KEvent w)} {r : Option (DmaHeapBuffer w)}
    (h : DmaHeapAllocateStep allocator size ambient errorNonNull t r) :
    Turns libraryEffect t 0 (newMemory (r.map (.dmaHeap allocator))) := by
  have hdescriptor : ∀ fd, 0 < fd → libraryEffect (⟨.dmaHeapIoctlAlloc allocator.dmaHeapFd size
      allocator.heapFlags allocator.fdFlags, .ok fd⟩ : KEvent w) = .acquire (.descriptor fd) :=
    fun fd hpos =>
      libraryEffect_of_acquires rfl rfl (answeredDescriptor_of_nonneg (Int.le_of_lt hpos))
  cases h with
  | failed errno => exact .keep rfl (storeEvents_turns _ _ 0)
  | negative fd hneg =>
      exact .keep (libraryEffect_of_neither rfl (answeredDescriptor_of_neg hneg)) (.nil 0)
  | noAddress fd hpos t hphys =>
      have hquery := hphys.turns (fun _ => rfl) {.descriptor fd}
      exact .acquire (hdescriptor fd hpos) (hquery.append (.release rfl (.nil 0)))
  | allocated fd hpos t phys hphys hne =>
      exact .acquire (hdescriptor fd hpos) (hphys.turns (fun _ => rfl) {.descriptor fd})

/-- The search for the DMA heaps concerns no resource. -/
theorem HeapIdMaskStep.turns {ionFd : Int} {heapIdMask found left : BitVec 32} {errno : Int}
    {errorNonNull : Bool} {t : List (KEvent w)}
    (h : HeapIdMaskStep ionFd heapIdMask errno errorNonNull t found left)
    (before : Multiset (Resource w)) : Turns libraryEffect t before before := by
  cases h with
  | cached hne => exact .nil before
  | countFailed hzero e => exact .keep rfl (storeEvents_turns _ _ before)
  | noHeaps hzero => exact .keep rfl (storeEvents_turns _ _ before)
  | queryFailed hzero cnt hcnt e => exact .keep rfl (.keep rfl (storeEvents_turns _ _ before))
  | queried hzero cnt hcnt written found hloop => exact .keep rfl (.keep rfl (.nil before))

/-- The handle that older kernels need is given back in every case. -/
theorem IonDmabufStep.turns {config : BuildConfig} {ionFd : Int} {size alignment : BitVec w}
    {ionHeapIdMask ionHeapFlags heapIdMask left : BitVec 32} {errno : Int} {errorNonNull : Bool}
    {t : List (KEvent w)} {fd : Int} (h : IonDmabufStep config ionFd size alignment ionHeapIdMask
      ionHeapFlags heapIdMask errno errorNonNull t fd left) :
    Turns libraryEffect t (0 : Multiset (Resource w))
      (if 0 ≤ fd then {.descriptor fd} else 0) := by
  have hminus : ¬ (0 : Int) ≤ -1 := by decide
  cases h with
  | noMask hquery t left hmask =>
      rw [if_neg hminus]
      exact hmask.turns 0
  | allocFailed hquery t found left hmask hne e =>
      rw [if_neg hminus]
      exact (hmask.turns 0).append (.keep rfl (storeEvents_turns _ _ 0))
  | allocated hquery t found left hmask hne fd =>
      refine (hmask.turns 0).append ?_
      by_cases hnonneg : 0 ≤ fd
      · rw [if_pos hnonneg]
        exact .acquire (libraryEffect_of_acquires rfl rfl (answeredDescriptor_of_nonneg hnonneg))
          (.nil _)
      · rw [if_neg hnonneg]
        exact .keep (libraryEffect_of_neither rfl
          (answeredDescriptor_of_neg (Int.not_le.mp hnonneg))) (.nil 0)
  | handleFailed hold e =>
      rw [if_neg hminus]
      exact .keep rfl (storeEvents_turns _ _ 0)
  | mapFailed hold handle e =>
      rw [if_neg hminus]
      have hstore := storeEvents_turns (w := w) errorNonNull e.code {.ionHandle ionFd handle}
      exact .acquire rfl (.keep rfl (hstore.append (.release rfl (.nil 0))))
  | mapNegative hold handle fd hneg =>
      rw [if_neg hminus]
      have hstore := storeEvents_turns (w := w) errorNonNull errno {.ionHandle ionFd handle}
      exact .acquire rfl (.keep (libraryEffect_of_neither rfl (answeredDescriptor_of_neg hneg))
        (hstore.append (.release rfl (.nil 0))))
  | mapped hold handle fd hnonneg =>
      rw [if_pos hnonneg]
      have hfree : Turns libraryEffect [(⟨.ionIocFree ionFd handle, ()⟩ : KEvent w)]
          {.ionHandle ionFd handle} 0 := .release rfl (.nil 0)
      exact .acquire rfl (.acquire
        (libraryEffect_of_acquires rfl rfl (answeredDescriptor_of_nonneg hnonneg))
        (hfree.frame_cons (.descriptor fd)))

/-- An ION allocation holds the DMA-BUF that it returns, and nothing else. -/
theorem IonAllocateStep.turns {config : BuildConfig} {allocator : IonAllocator}
    {size alignment : BitVec w} {heapIdMask left : BitVec 32} {ambient : Ambient}
    {errorNonNull : Bool} {t : List (KEvent w)} {r : Option (IonBuffer w)}
    (h : IonAllocateStep config allocator size alignment heapIdMask ambient errorNonNull t r left) :
    Turns libraryEffect t 0 (newMemory (r.map (.ion allocator))) := by
  have hquery : ∀ fd answer,
      libraryEffect (ionPhysQuery (w := w) config allocator.ionFd fd answer) = .keep := by
    intro fd answer
    unfold ionPhysQuery
    split
    · rfl
    · rfl
  cases h with
  | noDescriptor t fd left hfd hneg =>
      have hdescriptor := hfd.turns
      rwa [if_neg (Int.not_le.mpr hneg)] at hdescriptor
  | noAddress t fd left hfd hnonneg t' hphys =>
      have hdescriptor := hfd.turns
      rw [if_pos hnonneg] at hdescriptor
      exact hdescriptor.append ((hphys.turns (hquery fd) _).append (.release rfl (.nil 0)))
  | allocated t fd left hfd hnonneg t' phys hphys hne =>
      have hdescriptor := hfd.turns
      rw [if_pos hnonneg] at hdescriptor
      exact hdescriptor.append (hphys.turns (hquery fd) _)

/-- **Allocation.**  As the library believes, an allocation holds the memory of the
buffer that it returns, and nothing else. -/
theorem AllocateStep.turns {config : BuildConfig} {allocator : Allocator w}
    {size alignment : BitVec w} {heapIdMask left : BitVec 32} {ambient : Ambient}
    {errorNonNull : Bool} {t : List (KEvent w)} {r : Option (DmaBuffer w)}
    (h : AllocateStep config size alignment heapIdMask ambient errorNonNull allocator t r left) :
    Turns libraryEffect t 0 (newMemory r) := by
  cases h with
  | dmaHeap hstep => exact hstep.turns
  | ion hstep => exact hstep.turns
  | dwl hstep =>
      cases hstep with
      | failed => exact .keep rfl (storeEvents_turns _ _ 0)
      | allocated virt bus => exact .acquire rfl (.nil _)
  | ipu hstep =>
      cases hstep with
      | failed e => exact .keep rfl (storeEvents_turns _ _ 0)
      | zero => exact .keep rfl (.nil 0)
      | allocated phys hne => exact .acquire (libraryEffect_of_acquires rfl (if_neg hne) rfl) (.nil _)
  | g2d hstep =>
      cases hstep with
      | failed => exact .keep rfl (storeEvents_turns _ _ 0)
      | allocated buf => exact .acquire rfl (.nil _)
  | pxp hstep =>
      cases hstep with
      | failed e => exact .keep rfl (storeEvents_turns _ _ 0)
      | allocated handle phys => exact .acquire rfl (.nil _)

end Allocate

namespace MmapParams

variable {p : MmapParams w}

/-- The mapping of an mmap-based buffer in a state, if it has one. -/
def mappingIn (p : MmapParams w) (s : SyncState w) : Multiset (Resource w) :=
  if s.mappedVirtualAddress = 0 then 0 else {.mapping s.mappedVirtualAddress p.args.length}

theorem mappingIn_of_unmapped {s : SyncState w} (h : s.mappedVirtualAddress = 0) :
    p.mappingIn s = 0 := if_pos h

theorem mappingIn_of_mapped {s : SyncState w} (h : s.mappedVirtualAddress ≠ 0) :
    p.mappingIn s = {.mapping s.mappedVirtualAddress p.args.length} := if_neg h

/-- Maps account for the mapping. -/
theorem MapStep.turns {s s' : SyncState w} {flags : BitVec 32} {errorNonNull : Bool}
    {t : List (KEvent w)} {ret : BitVec w} (h : p.MapStep s flags errorNonNull t ret s') :
    Turns libraryEffect t (p.mappingIn s) (p.mappingIn s') := by
  cases h with
  | redundant => exact .nil _
  | failed hunmapped errno t hsync =>
      have hsyncs := Turns.of_keep (fun e he => libraryEffect_of_sync (hsync.isSync e he))
        (p.mappingIn s)
      exact .keep rfl ((storeEvents_turns _ _ _).append hsyncs)
  | fresh hunmapped mapped t hsync =>
      rw [mappingIn_of_unmapped hunmapped, mappingIn_of_mapped mapped.ne_null]
      exact .acquire rfl (.of_keep (fun e he => libraryEffect_of_sync (hsync.isSync e he)) _)

/-- Unmaps account for the mapping. -/
theorem UnmapStep.turns {s s' : SyncState w} {t : List (KEvent w)} (h : p.UnmapStep s t s') :
    Turns libraryEffect t (p.mappingIn s) (p.mappingIn s') := by
  cases h with
  | surplus => exact .nil _
  | decrement => exact .nil _
  | last hmapped hone t hsync =>
      rw [mappingIn_of_mapped hmapped, mappingIn_of_unmapped rfl]
      have hsyncs := Turns.of_keep (fun e he => libraryEffect_of_sync (hsync.isSync e he))
        ({.mapping s.mappedVirtualAddress p.args.length} : Multiset (Resource w))
      exact hsyncs.append (.release rfl (.nil 0))

/-- Session starts concern no resource. -/
theorem StartStep.turns {s s' : SyncState w} {t : List (KEvent w)} (h : p.StartStep s t s') :
    Turns libraryEffect t (p.mappingIn s) (p.mappingIn s') := by
  cases h with
  | ignored => exact .nil _
  | begins _ _ _ t hsync =>
      exact .of_keep (fun e he => libraryEffect_of_sync (hsync.isSync e he)) _

/-- Session stops concern no resource. -/
theorem StopStep.turns {s s' : SyncState w} {t : List (KEvent w)} (h : p.StopStep s t s') :
    Turns libraryEffect t (p.mappingIn s) (p.mappingIn s') := by
  cases h with
  | ignored => exact .nil _
  | ends _ _ _ t hsync =>
      exact .of_keep (fun e he => libraryEffect_of_sync (hsync.isSync e he)) _

/-- Every call that keeps the buffer accounts for the mapping. -/
theorem Step.turns {s s' : SyncState w} {op : BufferCall} {t : List (KEvent w)}
    {ret : Option (BitVec w)} (h : p.Step s op t ret (some s')) :
    Turns libraryEffect t (p.mappingIn s) (p.mappingIn s') := by
  cases h with
  | map hstep => exact hstep.turns
  | unmap hstep => exact hstep.turns
  | startSyncSession hstep => exact hstep.turns
  | stopSyncSession hstep => exact hstep.turns

/-- Forced teardown stops sessions by sync calls only. -/
theorem TeardownStops.isSync {s : SyncState w} {t : List (KEvent w)} (h : p.TeardownStops s t) :
    ∀ e ∈ t, e.call.isSync = true := by
  unfold TeardownStops at h
  split at h
  · exact h.isSync
  · intro e he
    rw [h] at he
    cases he

/-- A deallocation gives the memory back in its last event, and has removed the
mapping by then. -/
theorem DeallocateStep.turns {s : SyncState w} {t : List (KEvent w)}
    (h : p.DeallocateStep s t) : ∃ first answer, t = first ++ [⟨p.release, answer⟩] ∧
      Turns libraryEffect first (p.mappingIn s) 0 := by
  cases h with
  | unmapped hunmapped answer =>
      refine ⟨[], answer, rfl, ?_⟩
      rw [mappingIn_of_unmapped hunmapped]
      exact .nil 0
  | mapped hmapped t hsync answer =>
      refine ⟨t ++ [⟨.munmap s.mappedVirtualAddress p.args.length, ()⟩], answer, ?_, ?_⟩
      · rw [List.append_assoc]
        rfl
      · rw [mappingIn_of_mapped hmapped]
        have hsyncs := Turns.of_keep (fun e he => libraryEffect_of_sync (hsync.isSync e he))
          ({.mapping s.mappedVirtualAddress p.args.length} : Multiset (Resource w))
        exact hsyncs.append (.release rfl (.nil 0))

end MmapParams

/-- A call that keeps an always mapped buffer issues nothing. -/
theorem AlwaysParams.Step.silent {p : AlwaysParams w} {s s' : CountState} {op : BufferCall}
    {t : List (KEvent w)} {ret : Option (BitVec w)} (h : p.Step s op t ret (some s')) : t = [] := by
  cases h with
  | map => rfl
  | unmap => rfl
  | startSyncSession => rfl
  | stopSyncSession => rfl

section Buffer

/-- The call that gives the memory of a buffer back. -/
def Mapping.release : Mapping w → Call w
  | .mmapBacked p _ => p.release
  | .alwaysMapped p _ => p.release

/-- It is the memory that the buffer holds. -/
theorem releases_memory (b : DmaBuffer w) : b.view.mapping.release.releases = some b.memory := by
  cases b <;> rfl

/-- Buffers with the same release hold the same memory. -/
theorem memory_eq_of_release {b b' : DmaBuffer w}
    (h : b'.view.mapping.release = b.view.mapping.release) : b'.memory = b.memory := by
  have hreleases := releases_memory b'
  rw [h, releases_memory b] at hreleases
  exact (Option.some.inj hreleases).symm

variable {b b' : DmaBuffer w} {m : BufferModel w}

theorem mappingHeld_mmapBacked {p : MmapParams w} {s : SyncState w} (hb : b.view = m.mmapBacked p s) :
    b.mappingHeld = p.mappingIn s := by
  unfold DmaBuffer.mappingHeld MmapParams.mappingIn
  rw [mappedVirtualAddress_of_view hb, length_of_view hb]

theorem mappingHeld_alwaysMapped {p : AlwaysParams w} {s : CountState}
    (hb : b.view = m.alwaysMapped p s) : b.mappingHeld = 0 := by
  unfold DmaBuffer.mappingHeld
  rw [mappedVirtualAddress_of_always hb]

/-- A new buffer holds its memory only. -/
theorem resources_of_fresh (hfresh : b.Fresh) : b.resources = {b.memory} := by
  unfold DmaBuffer.resources DmaBuffer.mappingHeld
  cases hmapped : b.mappedVirtualAddress with
  | none => rfl
  | some address =>
      show b.memory ::ₘ (if address = 0 then 0 else _) = {b.memory}
      rw [if_pos (hfresh.mappedVirtualAddress address hmapped)]
      rfl

/-- What the calls on a buffer account for: the buffer's resources, or none once it is
deallocated. -/
def resourcesLeft (c : Option (DmaBuffer w)) : Multiset (Resource w) :=
  c.elim 0 DmaBuffer.resources

theorem resourcesLeft_mmapBacked {p : MmapParams w} {s s' : SyncState w}
    (hb : b.view = m.mmapBacked p s) {c : Option (DmaBuffer w)}
    (hc : c.map DmaBuffer.view = (some s').map (m.mmapBacked p)) :
    resourcesLeft c = b.memory ::ₘ p.mappingIn s' := by
  obtain ⟨b', rfl, hb'⟩ := Option.map_eq_some_iff.mp hc
  show b'.memory ::ₘ b'.mappingHeld = _
  rw [mappingHeld_mmapBacked hb', memory_eq_of_release (b := b) (by rw [hb, hb']; rfl)]

theorem resourcesLeft_alwaysMapped {p : AlwaysParams w} {s s' : CountState}
    (hb : b.view = m.alwaysMapped p s) {c : Option (DmaBuffer w)}
    (hc : c.map DmaBuffer.view = (some s').map (m.alwaysMapped p)) :
    resourcesLeft c = {b.memory} := by
  obtain ⟨b', rfl, hb'⟩ := Option.map_eq_some_iff.mp hc
  show b'.memory ::ₘ b'.mappingHeld = _
  rw [mappingHeld_alwaysMapped hb', memory_eq_of_release (b := b) (by rw [hb, hb']; rfl)]
  rfl

/-- **Deallocation** gives the memory back in its last event. The mapping has been
removed by then, and nothing else has changed. -/
theorem deallocate_turns {t : List (KEvent w)} {ret : Option (BitVec w)}
    {c : Option (DmaBuffer w)} (h : Runs (bufferStep (some b) .deallocate) t (.done (ret, c))) :
    c = none ∧ ∃ first e, t = first ++ [e] ∧ e.call.releases = some b.memory ∧
      Turns libraryEffect first b.resources {b.memory} := by
  have hrelease := releases_memory b
  unfold DmaBuffer.resources
  cases hmapped : b.mappedVirtualAddress with
  | some address =>
      obtain ⟨p, s, hb⟩ := view_mmapBacked hmapped
      obtain ⟨u, hc, hrun⟩ := step_mmapBacked hb h
      have hdone : p.Step s .deallocate t ret u := MmapParams.step_done hrun
      rw [hb] at hrelease
      cases hdone with
      | deallocate hstep =>
          obtain ⟨first, answer, rfl, hturns⟩ := hstep.turns
          refine ⟨Option.map_eq_none_iff.mp hc, first, _, rfl, hrelease, ?_⟩
          rw [mappingHeld_mmapBacked hb]
          exact hturns.frame_cons b.memory
  | none =>
      obtain ⟨p, s, hb⟩ := view_alwaysMapped hmapped
      obtain ⟨u, hc, hrun⟩ := step_alwaysMapped hb h
      have hdone : p.Step s .deallocate t ret u := AlwaysParams.step_done hrun
      rw [hb] at hrelease
      cases hdone with
      | deallocate answer =>
          refine ⟨Option.map_eq_none_iff.mp hc, [], _, rfl, hrelease, ?_⟩
          rw [mappingHeld_alwaysMapped hb]
          exact .nil _

/-- **Calls on a buffer** account for its memory and its mapping. -/
theorem bufferStep_turns {op : BufferCall} {t : List (KEvent w)} {ret : Option (BitVec w)}
    {c : Option (DmaBuffer w)} (h : Runs (bufferStep (some b) op) t (.done (ret, c))) :
    Turns libraryEffect t b.resources (resourcesLeft c) := by
  by_cases hop : op = .deallocate
  · rw [hop] at h
    obtain ⟨rfl, first, e, rfl, hreleases, hturns⟩ := deallocate_turns h
    exact hturns.append (.release (libraryEffect_of_releases hreleases) (.nil 0))
  · cases hmapped : b.mappedVirtualAddress with
    | some address =>
        obtain ⟨p, s, hb⟩ := view_mmapBacked hmapped
        obtain ⟨u, hc, hrun⟩ := step_mmapBacked hb h
        have hdone : p.Step s op t ret u := MmapParams.step_done hrun
        cases u with
        | none =>
            cases hdone
            exact absurd rfl hop
        | some s' =>
            rw [resourcesLeft_mmapBacked hb hc, DmaBuffer.resources, mappingHeld_mmapBacked hb]
            exact hdone.turns.frame_cons b.memory
    | none =>
        obtain ⟨p, s, hb⟩ := view_alwaysMapped hmapped
        obtain ⟨u, hc, hrun⟩ := step_alwaysMapped hb h
        have hdone : p.Step s op t ret u := AlwaysParams.step_done hrun
        cases u with
        | none =>
            cases hdone
            exact absurd rfl hop
        | some s' =>
            rw [resourcesLeft_alwaysMapped hb hc, DmaBuffer.resources, mappingHeld_alwaysMapped hb,
              hdone.silent]
            exact .nil _

end Buffer

end ImxDmaBuffer
