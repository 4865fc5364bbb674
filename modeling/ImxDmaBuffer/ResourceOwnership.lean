import Mathlib.Data.Multiset.OrderedMonoid
import ImxDmaBuffer.HeldResources
import ImxDmaBuffer.LibraryWorld

/-!
# Who owns which resource

Between two calls the library holds the device of every live allocator, and the
memory and the mapping of every live buffer, and nothing else.  Each call is
accounted for by the triple of the one allocator or buffer that it works on, next to
everything else that is held; the run lemma follows by induction on the history.

Three things go wrong.  A dma-heap allocator whose own descriptor is 0 never closes
it; memory that the IPU driver reserves at the address 0 is forgotten; and destroying
an allocator does not release its buffers.
-/

namespace ImxDmaBuffer

open CallProgram ResourceLedger

variable {w : Nat} {config : BuildConfig}

namespace LibraryState

/-- What the library should hold: the devices of the allocators, and the memory and the
mappings of the buffers. -/
def resources (L : LibraryState w) : Multiset (Resource w) :=
  (L.allocators.map fun a => a.elim 0 Allocator.device).sum +
    (L.buffers.map fun slot => resourcesLeft slot.buffer).sum

variable {L : LibraryState w} {t : List (KEvent w)}

/-- A constructor adds the device of the new allocator. -/
theorem addAllocator_turns {r : Option (Allocator w)}
    (h : Turns libraryEffect t 0 (r.elim 0 Allocator.device)) :
    Turns libraryEffect t L.resources (L.addAllocator r).2.resources := by
  have hframe := h.frame L.resources
  rw [zero_add] at hframe
  cases r with
  | none => rwa [Option.elim_none, zero_add] at hframe
  | some a =>
      have hsum : (L.addAllocator (some a)).2.resources = a.device + L.resources := by
        simp only [addAllocator, resources, List.map_append, List.map_cons, List.map_nil,
          List.sum_append, List.sum_cons, List.sum_nil, Option.elim_some, add_zero]
        rw [add_right_comm, add_comm]
      rw [hsum]
      exact hframe

/-- So does a call of the library that runs one. -/
theorem created_turns {α : Type} {code : Code w (Option α)} {kind : α → Allocator w}
    {ret : LibraryReturn w} {L' : LibraryState w}
    (h : Runs ((fun r => L.addAllocator (r.map kind)) <$> code) t (.done (ret, L')))
    (hnew : ∀ r, Runs code t (.done r) →
      Turns libraryEffect t 0 ((r.map kind).elim 0 Allocator.device)) :
    Turns libraryEffect t L.resources L'.resources := by
  obtain ⟨r, hrun, heq⟩ := runs_map_done_iff.mp h
  obtain rfl := congrArg Prod.snd heq
  exact addAllocator_turns (hnew r hrun)

/-- An allocation adds the resources of the new buffer. -/
theorem addBuffer_turns {i : Nat} {heapIdMask : BitVec 32} {r : Option (DmaBuffer w)}
    (h : Turns libraryEffect t 0 (resourcesLeft r)) :
    Turns libraryEffect t L.resources (L.addBuffer i heapIdMask r).2.resources := by
  have hframe := h.frame L.resources
  rw [zero_add] at hframe
  cases r with
  | none => rwa [resourcesLeft, Option.elim_none, zero_add] at hframe
  | some b =>
      have hsum : (L.addBuffer i heapIdMask (some b)).2.resources =
          resourcesLeft (some b) + L.resources := by
        simp only [addBuffer, resources, List.map_append, List.map_cons, List.map_nil,
          List.sum_append, List.sum_cons, List.sum_nil, add_zero]
        rw [← add_assoc, add_comm]
      rw [hsum]
      exact hframe

/-- A live allocator's device is held, next to everything else. -/
theorem resources_liveAllocator {i : Nat} {a : Allocator w} (h : L.liveAllocator i = some a) :
    ∃ rest, L.resources = a.device + rest ∧ (L.removeAllocator i).resources = rest := by
  have hentry : L.allocators[i]? = some (some a) := Option.join_eq_some_iff.mp h
  obtain ⟨rest, hsum, hmodify⟩ := sum_map_modify (fun a => a.elim 0 Allocator.device) hentry
  refine ⟨rest + (L.buffers.map fun slot => resourcesLeft slot.buffer).sum, ?_, ?_⟩
  · rw [resources, hsum, Option.elim_some, add_assoc]
  · rw [resources, removeAllocator, hmodify, Option.elim_none, zero_add]

/-- A live buffer's resources are held, next to everything else. -/
theorem resources_liveBuffer {j : Nat} {b : DmaBuffer w} (h : L.liveBuffer j = some b) :
    ∃ rest, L.resources = b.resources + rest ∧
      ∀ c, (L.setBuffer j c).resources = resourcesLeft c + rest := by
  obtain ⟨slot, hslot, hlive⟩ := Option.bind_eq_some_iff.mp h
  have hbuffer : slot.buffer = some b := by
    split at hlive
    · exact hlive
    · cases hlive
  obtain ⟨rest, hsum, hmodify⟩ := sum_map_modify (fun slot => resourcesLeft slot.buffer) hslot
  refine ⟨rest + (L.allocators.map fun a => a.elim 0 Allocator.device).sum, ?_, fun c => ?_⟩
  · rw [resources, hsum, hbuffer, add_comm, add_assoc]
    rfl
  · rw [resources, setBuffer, hmodify, add_comm, add_assoc]

end LibraryState

/-- As the library believes, an allocation holds the resources of the buffer that it
returns. -/
theorem allocate_turns {allocator : Allocator w} {size alignment : BitVec w}
    {heapIdMask left : BitVec 32} {ambient : Ambient} {errorNonNull : Bool} {t : List (KEvent w)}
    {r : Option (DmaBuffer w)}
    (h : Runs (imxDmaBufferAllocate config allocator size alignment heapIdMask ambient
      errorNonNull) t (.done (r, left))) : Turns libraryEffect t 0 (resourcesLeft r) := by
  have hturns := (allocate_done h).2.turns
  cases r with
  | none => exact hturns
  | some b =>
      show Turns libraryEffect t 0 b.resources
      rw [resources_of_fresh (allocate_fresh h).1]
      exact hturns

/-- No allocator whose own descriptor is 0 is destroyed. -/
def DestroysClose (L : LibraryState w) (op : LibraryCall w) : Prop :=
  ∀ i a, op = .destroy i → L.liveAllocator i = some a → a.ClosesDevice

/-- **One call.**  As the library believes, what it holds afterwards is what it should
hold. -/
theorem libraryStep_turns {L L' : LibraryState w} {op : LibraryCall w} {t : List (KEvent w)}
    {ret : LibraryReturn w} (hcloses : DestroysClose L op)
    (h : Runs (libraryStep config L op) t (.done (ret, L'))) :
    Turns libraryEffect t L.resources L'.resources := by
  cases op with
  | newDmaHeap dmaHeapFd heapFlags fdFlags errorNonNull =>
      exact LibraryState.created_turns h fun r hrun => (dmaHeapNew_done hrun).turns fun _ => rfl
  | newDmaHeapFromFd dmaHeapFd heapFlags fdFlags isCachedMemoryHeap =>
      obtain ⟨a, hrun, heq⟩ := runs_map_done_iff.mp h
      obtain rfl := congrArg Prod.snd heq
      refine LibraryState.addAllocator_turns ?_
      unfold dmaHeapAllocatorNewFromFd at hrun
      by_cases hfd : 0 < dmaHeapFd
      · rw [dif_pos hfd] at hrun
        obtain ⟨rfl, rfl⟩ := runs_ret_done_iff.mp hrun
        exact .nil 0
      · rw [dif_neg hfd] at hrun
        cases (runs_halt_iff.mp hrun).2
  | newIon ionFd ionHeapIdMask ionHeapFlags errorNonNull =>
      exact LibraryState.created_turns h fun r hrun => (ionNew_done hrun).turns fun _ => rfl
  | newDwl errorNonNull =>
      exact LibraryState.created_turns h fun r hrun => (dwlNew_done hrun).turns
  | newIpu ipuFd errorNonNull =>
      exact LibraryState.created_turns h fun r hrun => (ipuNew_done hrun).turns fun _ => rfl
  | newG2d =>
      obtain ⟨rfl, heq⟩ := runs_ret_done_iff.mp h
      obtain rfl := congrArg Prod.snd heq
      exact LibraryState.addAllocator_turns (r := some .g2d) (.nil 0)
  | newPxp pxpFd errorNonNull =>
      exact LibraryState.created_turns h fun r hrun => (pxpNew_done hrun).turns fun _ => rfl
  | destroy i =>
      obtain ⟨a, hlive, hrun, rfl⟩ := library_destroy_done h
      obtain ⟨rest, hsum, hleft⟩ := LibraryState.resources_liveAllocator hlive
      have hturns := (destroy_turns (fun _ _ => libraryEffect_of_releases)
        (hcloses i a rfl hlive) hrun).1.frame rest
      rwa [zero_add, ← hsum, ← hleft] at hturns
  | allocate i size alignment ambient errorNonNull =>
      obtain ⟨a, r, left, -, hrun, rfl⟩ := library_allocate_done h
      exact LibraryState.addBuffer_turns (allocate_turns hrun)
  | buffer j call =>
      obtain ⟨b, pointer, c, hlive, hrun, rfl⟩ := library_buffer_done h
      obtain ⟨rest, hsum, hleft⟩ := LibraryState.resources_liveBuffer hlive
      rw [hsum, hleft]
      exact (bufferStep_turns hrun).frame rest

/-- Where no memory is abandoned, none is lost. -/
theorem lostOf_eq_zero_iff {t : List (KEvent w)} :
    lostOf abandons t = 0 ↔ ∀ e ∈ t, abandons e = none := by
  unfold lostOf
  rw [Multiset.coe_eq_zero, List.filterMap_eq_nil_iff]

/-- What is asked of a step: an allocator whose own descriptor the library takes for
none is not destroyed, and the IPU driver reserves no memory at the address 0. -/
structure Accountable (L : LibraryState w) (op : LibraryCall w) (t : List (KEvent w)) : Prop where
  closes : DestroysClose L op
  noticed : ∀ e ∈ t, abandons e = none

/-- One accountable call. -/
theorem accountable_turns {L L' : LibraryState w} {op : LibraryCall w} {t : List (KEvent w)}
    {ret : LibraryReturn w} (hguard : Accountable L op t)
    (h : Runs (libraryStep config L op) t (.done (ret, L'))) :
    Turns resourceEffect t L.resources L'.resources := by
  have hturns := turns_with_abandoned (libraryStep_turns hguard.closes h)
  rwa [lostOf_eq_zero_iff.mpr hguard.noticed, Multiset.add_zero] at hturns

/-- How a step gives resources back: a deallocation releases the memory of the buffer
last, when of all that was held only the mapping of the buffer is gone; destroying an
allocator that works with the caller's descriptor closes nothing. -/
structure Orderly (L : LibraryState w) (op : LibraryCall w) (t : List (KEvent w)) : Prop where
  deallocation : ∀ j b, op = .buffer j .deallocate → L.liveBuffer j = some b →
    ∃ first e held, t = first ++ [e] ∧ e.call.releases = some b.memory ∧
      replay resourceEffect L.resources first = some held ∧ held + b.mappingHeld = L.resources
  destruction : ∀ i a, op = .destroy i → L.liveAllocator i = some a → a.device = 0 → t = []

/-- Every accountable step is orderly. -/
theorem orderly_of_accountable {L L' : LibraryState w} {op : LibraryCall w} {t : List (KEvent w)}
    {ret : LibraryReturn w} (hguard : Accountable L op t)
    (h : Runs (libraryStep config L op) t (.done (ret, L'))) : Orderly L op t := by
  constructor
  · intro j b hop hlive
    rw [hop] at h
    obtain ⟨b', pointer, c, hlive', hrun, -⟩ := library_buffer_done h
    obtain rfl := Option.some.inj (hlive.symm.trans hlive')
    obtain ⟨-, first, e, rfl, hreleases, hturns⟩ := deallocate_turns hrun
    obtain ⟨rest, hsum, -⟩ := LibraryState.resources_liveBuffer hlive
    have hfirst := turns_with_abandoned (hturns.frame rest)
    rw [lostOf_eq_zero_iff.mpr (fun e he => hguard.noticed e (List.mem_append_left _ he)),
      Multiset.add_zero, ← hsum] at hfirst
    refine ⟨first, e, _, rfl, hreleases, hfirst, ?_⟩
    rw [hsum, DmaBuffer.resources, add_right_comm, Multiset.singleton_add]
  · intro i a hop hlive hdevice
    rw [hop] at h
    obtain ⟨a', hlive', hrun, -⟩ := library_destroy_done h
    obtain rfl := Option.some.inj (hlive.symm.trans hlive')
    exact (destroy_turns (fun _ _ => libraryEffect_of_releases)
      (hguard.closes i a hop hlive) hrun).2 hdevice

/-- **Resources are owned.**  In every run the ledger can be replayed, so nothing is
released twice and nothing foreign, and holds exactly what the live allocators and
buffers hold; and every step gives resources back in order. -/
theorem resources_owned {h : List (LibraryRecord w)} {L : LibraryState w}
    (hs : (libraryMachine w config).Steps Accountable LibraryState.empty h L) :
    replay resourceEffect 0 (historyEvents h) = some L.resources ∧
      ∀ before r after, h = before ++ r :: after → ∃ middle,
        (libraryMachine w config).Steps Accountable LibraryState.empty before middle ∧
          Orderly middle r.op r.events := by
  constructor
  · refine hs.track_events (R := fun events (L : LibraryState w) =>
      Turns resourceEffect events 0 L.resources) ?_
      (.nil 0)
    intro events L r L' hturns hguard hrun
    exact hturns.append (accountable_turns hguard hrun)
  · intro before r after hsplit
    rw [hsplit] at hs
    obtain ⟨middle, next, hbefore, hguard, hrun⟩ := hs.at
    exact ⟨middle, hbefore, orderly_of_accountable hguard hrun⟩

/-- **No other step keeps this.**  A step that is not accountable leaves something in
the ledger that nobody owns. -/
theorem unaccountable_step_leaks {h : List (LibraryRecord w)} {L L' : LibraryState w}
    (hs : (libraryMachine w config).Steps Accountable LibraryState.empty h L)
    {op : LibraryCall w} {t : List (KEvent w)} {ret : LibraryReturn w}
    (hrun : Runs (libraryStep config L op) t (.done (ret, L'))) (hnot : ¬ Accountable L op t) :
    ∃ leaked, leaked ≠ 0 ∧
      replay resourceEffect 0 (historyEvents h ++ t) = some (L'.resources + leaked) := by
  have hbefore : Turns resourceEffect (historyEvents h) 0 L.resources := (resources_owned hs).1
  by_cases hcloses : DestroysClose L op
  · refine ⟨lostOf abandons t, fun hnone => ?_, ?_⟩
    · exact hnot ⟨hcloses, lostOf_eq_zero_iff.mp hnone⟩
    · exact hbefore.append (turns_with_abandoned (libraryStep_turns hcloses hrun))
  · simp only [DestroysClose, not_forall] at hcloses
    obtain ⟨i, a, rfl, hlive, hkeeps⟩ := hcloses
    obtain ⟨a', hlive', hdestroy, rfl⟩ := library_destroy_done hrun
    obtain rfl := Option.some.inj (hlive.symm.trans hlive')
    obtain ⟨rfl, hdevice⟩ := destroy_keeps hkeeps hdestroy
    obtain ⟨rest, hsum, hleft⟩ := LibraryState.resources_liveAllocator hlive
    refine ⟨a.device, hdevice, ?_⟩
    rw [List.append_nil, hleft, add_comm, ← hsum]
    exact hbefore

/-- The life of an IPU allocator and of one buffer of it, mapped when it is
deallocated. -/
def ipuLife : List (LibraryRecord 64) :=
  [⟨.newIpu (-1) true, [⟨.openDevice "/dev/mxc_ipu" .rdwr, .ok 5⟩], .created (some 0)⟩,
   ⟨.allocate 0 4096 0 cleanAmbient true, [⟨.ipuAlloc 5 4096, .ok 0x80000000⟩],
     .created (some 0)⟩,
   ⟨.buffer 0 (.map 3 true), [⟨.mmap 4096 3 5 0x80000000, .ok ⟨0x10000, sample_address_ne_null⟩⟩],
     .returned (some 0x10000)⟩,
   ⟨.buffer 0 .deallocate, [⟨.munmap 0x10000 4096, ()⟩, ⟨.ipuFree 5 0x80000000, ()⟩],
     .returned none⟩,
   ⟨.destroy 0, [⟨.close 5, ()⟩], .returned none⟩]

/-- At its end nothing is held. -/
theorem ipu_life_owned : replay resourceEffect 0 (historyEvents ipuLife) = some 0 := by
  have hs : (libraryMachine 64 recentKernelConfig).Steps Accountable LibraryState.empty ipuLife
      ⟨[none], [⟨0, none⟩], 0⟩ := by
    refine .cons ⟨fun _ _ hop => (by cases hop), List.forall_mem_singleton.mpr rfl⟩
      (.call _ (.ret _)) ?_
    refine .cons ⟨fun _ _ hop => (by cases hop), List.forall_mem_singleton.mpr rfl⟩
      (.call _ (.ret _)) ?_
    refine .cons ⟨fun _ _ hop => (by cases hop), List.forall_mem_singleton.mpr rfl⟩
      (.call _ (.ret _)) ?_
    refine .cons ⟨fun _ _ hop => (by cases hop), List.forall_mem_cons.mpr
      ⟨rfl, List.forall_mem_singleton.mpr rfl⟩⟩ (.call _ (.call _ (.ret _))) ?_
    refine .single ⟨fun i a hop hlive => ?_, List.forall_mem_singleton.mpr rfl⟩ (.call _ (.ret _))
    obtain rfl := LibraryCall.destroy.inj hop
    obtain rfl := Option.some.inj hlive
    trivial
  exact (resources_owned hs).1

/-- A dma-heap allocator is created while the descriptor 0 is free, and destroyed. -/
def zeroDescriptorLife : List (LibraryRecord 64) :=
  [⟨.newDmaHeap (-1) 0 2 true, [⟨.openDevice "/dev/dma_heap/linux,cma" .rdwr, .ok 0⟩],
     .created (some 0)⟩,
   ⟨.destroy 0, [], .returned none⟩]

/-- At its end the descriptor is still open, and nobody owns it. -/
theorem zero_descriptor_leaks : ∃ L,
    (libraryMachine 64 recentKernelConfig).Steps (fun _ _ _ => True) LibraryState.empty
      zeroDescriptorLife L ∧
    L.resources = 0 ∧
    replay resourceEffect 0 (historyEvents zeroDescriptorLife) = some {.descriptor 0} ∧
    replay resourceEffect 0 (historyEvents zeroDescriptorLife) ≠ some L.resources := by
  refine ⟨⟨[none], [], 0⟩, .cons trivial (.call _ (.ret _)) (.single trivial (.ret _)), rfl, rfl, ?_⟩
  intro hheld
  exact absurd (Option.some.inj hheld) (Multiset.singleton_ne_zero _)

/-- The library with one allocator, after it was created. -/
def LibraryState.single (a : Allocator w) (heapIdMask : BitVec 32) : LibraryState w where
  allocators := [some a]
  buffers := []
  heapIdMask := heapIdMask

/-- Calls that allocate buffers or work on them. -/
def UsesBuffers (_ : LibraryState w) (op : LibraryCall w) (_ : List (KEvent w)) : Prop :=
  match op with
  | .allocate _ _ _ _ _ => True
  | .buffer _ _ => True
  | _ => False

/-- Such calls do not touch the allocator. -/
theorem UsesBuffers.allocators {L L' : LibraryState w} {op : LibraryCall w} {t : List (KEvent w)}
    {ret : LibraryReturn w} (hguard : UsesBuffers L op t)
    (h : Runs (libraryStep config L op) t (.done (ret, L'))) :
    DestroysClose L op ∧ L'.allocators = L.allocators := by
  cases op with
  | allocate i size alignment ambient errorNonNull =>
      obtain ⟨a, r, left, -, -, rfl⟩ := library_allocate_done h
      refine ⟨fun _ _ hop => (by cases hop), ?_⟩
      cases r with
      | none => rfl
      | some b => rfl
  | buffer j call =>
      obtain ⟨b, pointer, c, -, -, rfl⟩ := library_buffer_done h
      exact ⟨fun _ _ hop => (by cases hop), rfl⟩
  | _ => exact hguard.elim

/-- What the buffers hold is nothing exactly when none of them is live. -/
theorem buffers_hold_nothing_iff {slots : List (BufferSlot w)} :
    (slots.map fun slot => resourcesLeft slot.buffer).sum = 0 ↔
      ∀ slot ∈ slots, slot.buffer = none := by
  induction slots with
  | nil => exact ⟨fun _ slot hslot => (by cases hslot), fun _ => rfl⟩
  | cons slot slots ih =>
      rw [List.map_cons, List.sum_cons, add_eq_zero, ih, List.forall_mem_cons]
      refine and_congr_left' ?_
      cases hbuffer : slot.buffer with
      | none => exact ⟨fun _ => rfl, fun _ => rfl⟩
      | some b =>
          refine ⟨fun hnone => ?_, fun hnone => (by cases hnone)⟩
          exact absurd hnone (Multiset.cons_ne_zero)

/-- **Destroying an allocator releases all it made** exactly when there is nothing left
to release but its own device: no buffer is live, the device is not taken for none,
and no memory was abandoned. -/
theorem destroy_releases_iff {a : Allocator w} {heapIdMask : BitVec 32}
    {h : List (LibraryRecord w)} {L L' : LibraryState w}
    (hs : (libraryMachine w config).Steps UsesBuffers (LibraryState.single a heapIdMask) h L)
    {t : List (KEvent w)} {ret : LibraryReturn w}
    (hdestroy : Runs (libraryStep config L (.destroy 0)) t (.done (ret, L'))) :
    replay resourceEffect a.device (historyEvents h ++ t) = some 0 ↔
      (∀ slot ∈ L.buffers, slot.buffer = none) ∧ a.ClosesDevice ∧
        ∀ e ∈ historyEvents h, abandons e = none := by
  have hrun : L.allocators = [some a] ∧ Turns libraryEffect (historyEvents h) a.device
      L.resources := by
    refine hs.track_events (R := fun events (L : LibraryState w) =>
      L.allocators = [some a] ∧ Turns libraryEffect events a.device L.resources) ?_ ⟨rfl, ?_⟩
    · intro events L r L' hbefore hguard hrun
      obtain ⟨hcloses, hallocators⟩ := UsesBuffers.allocators hguard hrun
      exact ⟨hallocators.trans hbefore.1, hbefore.2.append (libraryStep_turns hcloses hrun)⟩
    · have hsingle : (LibraryState.single a heapIdMask).resources = a.device := by
        simp [LibraryState.single, LibraryState.resources]
      rw [hsingle]
      exact .nil _
  obtain ⟨hallocators, hbelieved⟩ := hrun
  have hturns := turns_with_abandoned hbelieved
  have hheld : L.resources =
      a.device + (L.buffers.map fun slot => resourcesLeft slot.buffer).sum := by
    simp [LibraryState.resources, hallocators]
  rw [hheld, add_assoc] at hturns
  have hlive : L.liveAllocator 0 = some a := by simp [LibraryState.liveAllocator, hallocators]
  obtain ⟨a', hlive', hrun, -⟩ := library_destroy_done hdestroy
  obtain rfl := Option.some.inj (hlive.symm.trans hlive')
  rw [← lostOf_eq_zero_iff, ← buffers_hold_nothing_iff]
  by_cases hcloses : a.ClosesDevice
  · have hreleased := (destroy_turns (fun _ _ => resourceEffect_of_releases) hcloses hrun).1.frame
      ((L.buffers.map fun slot => resourcesLeft slot.buffer).sum + lostOf abandons (historyEvents h))
    have hall := hturns.append hreleased
    rw [zero_add] at hall
    rw [hall, Option.some_inj, add_eq_zero]
    exact ⟨fun hnone => ⟨hnone.1, hcloses, hnone.2⟩, fun hnone => ⟨hnone.1, hnone.2.2⟩⟩
  · obtain ⟨rfl, hdevice⟩ := destroy_keeps hcloses hrun
    rw [List.append_nil, hturns, Option.some_inj, add_eq_zero]
    exact ⟨fun hnone => absurd hnone.1 hdevice, fun hnone => absurd hnone.2.1 hcloses⟩

/-- A buffer is allocated by a dma-heap allocator. -/
def heapAllocated : LibraryRecord 64 :=
  ⟨.allocate 0 4096 0 cleanAmbient true,
    [⟨.dmaHeapIoctlAlloc 3 4096 0 2, .ok 4⟩, ⟨.dmaBufIoctlPhys 4, .ok 0x80000000⟩],
    .created (some 0)⟩

/-- It is deallocated. -/
def heapDeallocated : LibraryRecord 64 :=
  ⟨.buffer 0 .deallocate, [⟨.close 4, ()⟩], .returned none⟩

/-- The allocator with a buffer that has been deallocated. -/
def spentHeap : LibraryState 64 where
  allocators := [some (.dmaHeap cachedHeap)]
  buffers := [⟨0, none⟩]
  heapIdMask := 0

/-- Destroying the allocator then releases all that it made. -/
theorem spent_heap_released :
    replay resourceEffect {.descriptor 3} (historyEvents [heapAllocated, heapDeallocated] ++
      [⟨.close 3, ()⟩]) = some 0 := by
  have hs : (libraryMachine 64 recentKernelConfig).Steps UsesBuffers
      (LibraryState.single (.dmaHeap cachedHeap) 0) [heapAllocated, heapDeallocated] spentHeap :=
    .cons trivial (.call _ (.call _ (.ret _))) (.single trivial (.call _ (.ret _)))
  have hdestroy : Runs (libraryStep recentKernelConfig spentHeap (.destroy 0)) [⟨.close 3, ()⟩]
      (.done (.returned none, spentHeap.removeAllocator 0)) := .call _ (.ret _)
  refine (destroy_releases_iff hs hdestroy).mpr ⟨List.forall_mem_singleton.mpr rfl, ?_, ?_⟩
  · intro _
    decide
  · intro e he
    rcases List.mem_cons.mp he with rfl | he
    · rfl
    · rcases List.mem_cons.mp he with rfl | he
      · rfl
      · obtain rfl := List.mem_singleton.mp he
        rfl

/-- If the buffer is not deallocated, its DMA-BUF outlives the allocator. -/
theorem live_buffer_outlives_heap : ∃ L L',
    (libraryMachine 64 recentKernelConfig).Steps UsesBuffers
      (LibraryState.single (.dmaHeap cachedHeap) 0) [heapAllocated] L ∧
    Runs (libraryStep recentKernelConfig L (.destroy 0)) [⟨.close 3, ()⟩]
      (.done (.returned none, L')) ∧
    replay resourceEffect {.descriptor 3} (historyEvents [heapAllocated] ++ [⟨.close 3, ()⟩]) =
      some {.descriptor 4} ∧
    replay resourceEffect {.descriptor 3} (historyEvents [heapAllocated] ++ [⟨.close 3, ()⟩]) ≠
      some 0 := by
  refine ⟨_, _, .single trivial (.call _ (.call _ (.ret _))), .call _ (.ret _), rfl, ?_⟩
  intro hreleased
  exact absurd (Option.some.inj hreleased) (Multiset.singleton_ne_zero _)

end ImxDmaBuffer
