import ImxDmaBuffer.DmaBufferApi

/-!
# The library as a whole

`bufferMachine` shows the library through one buffer.  `libraryMachine` is all of
it: any number of allocators, created and destroyed in any order, any number of
buffers, and the static variable that the ION allocators share.  A client names
allocators and buffers by the order of their creation; what has been destroyed or
deallocated must not be used any more, and neither must a buffer whose allocator
has been destroyed.
-/

namespace ImxDmaBuffer

open CallProgram

variable {w : Nat}

/-- A buffer that was allocated: by which allocator, and the buffer while it has not
been deallocated. -/
structure BufferSlot (w : Nat) where
  allocator : Nat
  buffer : Option (DmaBuffer w)

/-- The allocators, which are `none` once destroyed, the buffers, and the static
variable of `get_heap_id_mask`. -/
structure LibraryState (w : Nat) where
  allocators : List (Option (Allocator w))
  buffers : List (BufferSlot w)
  heapIdMask : BitVec 32

/-- The calls of a client. -/
inductive LibraryCall (w : Nat) where
  | newDmaHeap (dmaHeapFd : Int) (heapFlags fdFlags : BitVec 32) (errorNonNull : Bool)
  | newDmaHeapFromFd (dmaHeapFd : Int) (heapFlags fdFlags : BitVec 32) (isCachedMemoryHeap : Int)
  | newIon (ionFd : Int) (ionHeapIdMask ionHeapFlags : BitVec 32) (errorNonNull : Bool)
  | newDwl (errorNonNull : Bool)
  | newIpu (ipuFd : Int) (errorNonNull : Bool)
  | newG2d
  | newPxp (pxpFd : Int) (errorNonNull : Bool)
  | destroy (allocator : Nat)
  | allocate (allocator : Nat) (size alignment : BitVec w) (ambient : Ambient)
      (errorNonNull : Bool)
  | buffer (index : Nat) (call : BufferCall)

/-- What a call returns: the place of a new allocator or buffer, if it succeeded, or
what a call on a buffer returns. -/
inductive LibraryReturn (w : Nat) where
  | created (index : Option Nat)
  | returned (pointer : Option (BitVec w))

namespace LibraryState

/-- No allocator and no buffer yet. -/
def empty : LibraryState w where
  allocators := []
  buffers := []
  heapIdMask := 0

/-- An allocator that has not been destroyed. -/
def liveAllocator (L : LibraryState w) (i : Nat) : Option (Allocator w) := L.allocators[i]?.join

/-- A buffer that has not been deallocated, and whose allocator is there. -/
def liveBuffer (L : LibraryState w) (j : Nat) : Option (DmaBuffer w) :=
  L.buffers[j]?.bind fun slot =>
    if (L.liveAllocator slot.allocator).isSome then slot.buffer else none

/-- The result of a constructor. -/
def addAllocator (L : LibraryState w) : Option (Allocator w) → LibraryReturn w × LibraryState w
  | none => (.created none, L)
  | some a => (.created L.allocators.length, { L with allocators := L.allocators ++ [some a] })

/-- The result of an allocation. -/
def addBuffer (L : LibraryState w) (i : Nat) (heapIdMask : BitVec 32) :
    Option (DmaBuffer w) → LibraryReturn w × LibraryState w
  | none => (.created none, { L with heapIdMask := heapIdMask })
  | some b =>
      (.created L.buffers.length,
        { L with buffers := L.buffers ++ [⟨i, some b⟩], heapIdMask := heapIdMask })

/-- The allocator is gone. -/
def removeAllocator (L : LibraryState w) (i : Nat) : LibraryState w :=
  { L with allocators := L.allocators.modify i fun _ => none }

/-- A buffer after a call on it. -/
def setBuffer (L : LibraryState w) (j : Nat) (b : Option (DmaBuffer w)) : LibraryState w :=
  { L with buffers := L.buffers.modify j fun slot => { slot with buffer := b } }

end LibraryState

/-- Serve one call. -/
def libraryStep (config : BuildConfig) (L : LibraryState w) :
    LibraryCall w → Code w (LibraryReturn w × LibraryState w)
  | .newDmaHeap dmaHeapFd heapFlags fdFlags errorNonNull =>
      (fun r => L.addAllocator (r.map .dmaHeap)) <$>
        dmaHeapAllocatorNew config dmaHeapFd heapFlags fdFlags errorNonNull
  | .newDmaHeapFromFd dmaHeapFd heapFlags fdFlags isCachedMemoryHeap =>
      (fun a => L.addAllocator (some (.dmaHeap a))) <$>
        dmaHeapAllocatorNewFromFd dmaHeapFd heapFlags fdFlags isCachedMemoryHeap
  | .newIon ionFd ionHeapIdMask ionHeapFlags errorNonNull =>
      (fun r => L.addAllocator (r.map .ion)) <$>
        ionAllocatorNew ionFd ionHeapIdMask ionHeapFlags errorNonNull
  | .newDwl errorNonNull =>
      (fun r => L.addAllocator (r.map .dwl)) <$> dwlAllocatorNew config errorNonNull
  | .newIpu ipuFd errorNonNull =>
      (fun r => L.addAllocator (r.map .ipu)) <$> ipuAllocatorNew ipuFd errorNonNull
  | .newG2d => pure (L.addAllocator (some .g2d))
  | .newPxp pxpFd errorNonNull =>
      (fun r => L.addAllocator (r.map .pxp)) <$> pxpAllocatorNew pxpFd errorNonNull
  | .destroy i =>
      match L.liveAllocator i with
      | none => .halt Fault.undefinedBehaviour
      | some a => (fun _ => (.returned none, L.removeAllocator i)) <$> imxDmaBufferAllocatorDestroy a
  | .allocate i size alignment ambient errorNonNull =>
      match L.liveAllocator i with
      | none => .halt Fault.undefinedBehaviour
      | some a =>
          (fun r => L.addBuffer i r.2 r.1) <$>
            imxDmaBufferAllocate config a size alignment L.heapIdMask ambient errorNonNull
  | .buffer j call =>
      match L.liveBuffer j with
      | none => .halt Fault.undefinedBehaviour
      | some b => (fun r => (.returned r.1, L.setBuffer j r.2)) <$> bufferStep (some b) call

/-- The whole library as a machine. -/
def libraryMachine (w : Nat) (config : BuildConfig) :
    Machine (kernel w) (LibraryCall w) (LibraryReturn w) where
  State := LibraryState w
  step := libraryStep config

section Done

variable {config : BuildConfig} {L L' : LibraryState w} {t : List (KEvent w)}
  {ret : LibraryReturn w}

/-- A completed destruction is one of a live allocator. -/
theorem library_destroy_done {i : Nat}
    (h : Runs (libraryStep config L (.destroy i)) t (.done (ret, L'))) :
    ∃ a, L.liveAllocator i = some a ∧ Runs (imxDmaBufferAllocatorDestroy a) t (.done ()) ∧
      L' = L.removeAllocator i := by
  simp only [libraryStep] at h
  cases hlive : L.liveAllocator i with
  | none =>
      rw [hlive] at h
      cases (runs_halt_iff.mp h).2
  | some a =>
      rw [hlive] at h
      obtain ⟨⟨⟩, hrun, heq⟩ := runs_map_done_iff.mp h
      exact ⟨a, rfl, hrun, (Prod.mk.inj heq).2.symm⟩

/-- A completed allocation is one by a live allocator. -/
theorem library_allocate_done {i : Nat} {size alignment : BitVec w} {ambient : Ambient}
    {errorNonNull : Bool}
    (h : Runs (libraryStep config L (.allocate i size alignment ambient errorNonNull)) t
      (.done (ret, L'))) :
    ∃ a r left, L.liveAllocator i = some a ∧
      Runs (imxDmaBufferAllocate config a size alignment L.heapIdMask ambient errorNonNull) t
        (.done (r, left)) ∧ L' = (L.addBuffer i left r).2 := by
  simp only [libraryStep] at h
  cases hlive : L.liveAllocator i with
  | none =>
      rw [hlive] at h
      cases (runs_halt_iff.mp h).2
  | some a =>
      rw [hlive] at h
      obtain ⟨⟨r, left⟩, hrun, heq⟩ := runs_map_done_iff.mp h
      exact ⟨a, r, left, rfl, hrun, (congrArg Prod.snd heq).symm⟩

/-- A completed call on a buffer is one on a live buffer. -/
theorem library_buffer_done {j : Nat} {call : BufferCall}
    (h : Runs (libraryStep config L (.buffer j call)) t (.done (ret, L'))) :
    ∃ b pointer c, L.liveBuffer j = some b ∧
      Runs (bufferStep (some b) call) t (.done (pointer, c)) ∧ L' = L.setBuffer j c := by
  simp only [libraryStep] at h
  cases hlive : L.liveBuffer j with
  | none =>
      rw [hlive] at h
      cases (runs_halt_iff.mp h).2
  | some b =>
      rw [hlive] at h
      obtain ⟨⟨pointer, c⟩, hrun, heq⟩ := runs_map_done_iff.mp h
      exact ⟨b, pointer, c, rfl, hrun, (Prod.mk.inj heq).2.symm⟩

end Done

/-- One served call of the library. -/
abbrev LibraryRecord (w : Nat) := Record (kernel w) (LibraryCall w) (LibraryReturn w)

end ImxDmaBuffer
