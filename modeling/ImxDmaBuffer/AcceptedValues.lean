import ImxDmaBuffer.BufferContracts
import ImxDmaBuffer.OpenedDevices
import ImxDmaBuffer.Teardown

/-!
# What is accepted once is accepted always

Whether a descriptor or an address is valid is tested in several places: in the
constructors, after an allocation, in the assertions of the later calls, and when the
allocator is destroyed.  They agree except on the value 0.  A dma-heap constructor
takes the descriptor 0, but allocating and destroying do not; the dma-heap driver may
answer the descriptor 0, which then fails an assertion; and the PxP allocator returns
a buffer at the address 0, with which no later call works.

The calls are shown to stop at no assertion wherever the zeros are avoided and the
client keeps to its own part of the assertions (`NoAssertion`), and a zero is shown never
to be harmless.  Which devices the library opened is read from the history.
-/

namespace ImxDmaBuffer

open CallProgram

variable {w : Nat} {config : BuildConfig}

/-- The calls that work with the physical address of a buffer. -/
def BufferCall.usesAddress : BufferCall → Bool
  | .map _ _ => true
  | .unmap => true
  | .deallocate => true
  | .startSyncSession => false
  | .stopSyncSession => false

/-- The calls on the buffer accept its physical address. PxP buffers have the address
that the driver answered, whatever it is. -/
def DmaBuffer.HasAddress : DmaBuffer w → Prop
  | .pxp _ buffer => buffer.physicalAddress ≠ 0
  | _ => True

/-- The dma-heap driver answers the descriptor 0. -/
def IsZeroDmabuf : KEvent w → Prop
  | ⟨.dmaHeapIoctlAlloc _ _ _ _, .ok fd⟩ => fd = 0
  | _ => False

/-- What the calls on a buffer assert about the client: a redundant map asks for access
that the first one asked for, and a session is stopped only while the buffer is mapped. -/
def BufferCall.KeptBy (b : DmaBuffer w) : BufferCall → Prop
  | .map flags _ => b.IsMapped → Compatible b.mapFlags (b.normaliseFlags flags)
  | .stopSyncSession => b.IsMapped
  | _ => True

/-- What the library asserts about the client. -/
def ClientKeeps (L : LibraryState w) : LibraryCall w → Prop
  | .newDmaHeapFromFd dmaHeapFd _ _ _ => 0 < dmaHeapFd
  | .allocate _ size _ _ _ => 0 < size
  | .buffer j call => ∀ b, L.liveBuffer j = some b → call.KeptBy b
  | _ => True

/-- The allocation works with no descriptor 0, neither the allocator's nor the new one. -/
def Allocator.AllocatesNonzero : Allocator w → List (KEvent w) → Prop
  | .dmaHeap a, t => a.dmaHeapFd ≠ 0 ∧ ∀ e ∈ t, ¬ IsZeroDmabuf e
  | _, _ => True

/-- The step meets no zero on which the tests disagree. -/
def AvoidsZero (L : LibraryState w) (op : LibraryCall w) (t : List (KEvent w)) : Prop :=
  match op with
  | .allocate i _ _ _ _ => ∀ a, L.liveAllocator i = some a → a.AllocatesNonzero t
  | .buffer j call => call.usesAddress = true → ∀ b, L.liveBuffer j = some b → b.HasAddress
  | .destroy i => ∀ a, L.liveAllocator i = some a → a.ClosesDevice
  | _ => True

/-- A destruction closes the device descriptor that the library opened for the allocator,
and closes nothing if it opened none. -/
def ClosesOpened (h : List (LibraryRecord w)) (op : LibraryCall w) (t : List (KEvent w)) : Prop :=
  ∀ i, op = .destroy i → t.filterMap closedDescriptor = (openedDevice h i).toList

/-- What was accepted before stays accepted in this call: it stops at no assertion, and if
it destroys an allocator, it closes what the library opened for it. -/
structure StaysAccepted (h : List (LibraryRecord w)) (op : LibraryCall w) (t : List (KEvent w))
    (o : Outcome (kernel w) (LibraryReturn w × LibraryState w)) : Prop where
  asserts : o ≠ .halted Fault.assertionFailed
  closes : ∀ r, o = .done r → ClosesOpened h op t

/-- Stopping at no failed assertion, when the answers are those of `t`. -/
abbrev NoAssertion (t : List (KEvent w)) : Contract (kernel w) :=
  .ofFaults (fun e => e ∈ t) fun fault => fault ≠ Fault.assertionFailed

/-- Stopping at a failed assertion. -/
abbrev StopsAtAssertion : Contract (kernel w) :=
  .ofFaults (fun _ => True) fun fault => fault = Fault.assertionFailed

/-- Undefined behaviour is no failed assertion. -/
theorem overflow_no_assertion {t : List (KEvent w)} :
    (NoAssertion t).mayStop Fault.undefinedBehaviour :=
  fun h => (by cases h)

/-- A program under this contract fails no assertion. -/
theorem no_assertion {α : Type} {p : Code w α} {t : List (KEvent w)} {o : Outcome (kernel w) α}
    (h : p.Meets (NoAssertion t) fun _ => True) (hrun : Runs p t o) :
    o ≠ .halted Fault.assertionFailed := by
  rintro rfl
  exact h.halted hrun (fun _ he => he) rfl

/-- A program that can only fail one does. -/
theorem assertion_fails {α : Type} {p : Code w α} {t : List (KEvent w)} {o : Outcome (kernel w) α}
    (h : p.Meets StopsAtAssertion fun _ => False) (hrun : Runs p t o) :
    o = .halted Fault.assertionFailed := by
  rcases h.ends hrun (fun _ _ => trivial) with ⟨a, -, hnone⟩ | ⟨fault, rfl, rfl⟩
  · exact hnone.elim
  · rfl

section Buffers

variable {t : List (KEvent w)}

/-- A buffer with an address passes the assertions of the map function. -/
theorem mapAsserts_of_hasAddress {b : DmaBuffer w} {m : BufferModel w} {p : MmapParams w}
    {s : SyncState w} (hb : b.view = m.mmapBacked p s) (haddress : b.HasAddress) :
    p.mapAsserts = true := by
  have hmapping := congrArg BufferModel.mapping hb
  cases b with
  | dmaHeap allocator buffer =>
      obtain ⟨rfl, -⟩ := Mapping.mmapBacked.inj hmapping
      exact decide_eq_true buffer.dmabufFd_pos
  | ion allocator buffer =>
      obtain ⟨rfl, -⟩ := Mapping.mmapBacked.inj hmapping
      exact decide_eq_true buffer.dmabufFd_nonneg
  | dwl => cases hmapping
  | ipu allocator buffer =>
      obtain ⟨rfl, -⟩ := Mapping.mmapBacked.inj hmapping
      exact Bool.and_eq_true_iff.mpr ⟨decide_eq_true allocator.ipuFd_nonneg,
        decide_eq_true buffer.physicalAddress_ne_zero⟩
  | g2d => cases hmapping
  | pxp allocator buffer =>
      obtain ⟨rfl, -⟩ := Mapping.mmapBacked.inj hmapping
      exact Bool.and_eq_true_iff.mpr ⟨decide_eq_true allocator.pxpFd_nonneg,
        decide_eq_true haddress⟩

/-- The assertions of an always mapped buffer always hold. -/
theorem deallocateAsserts_of_always {b : DmaBuffer w} {m : BufferModel w} {p : AlwaysParams w}
    {c : CountState} (hb : b.view = m.alwaysMapped p c) : p.deallocateAsserts = true := by
  have hmapping := congrArg BufferModel.mapping hb
  cases b with
  | dwl allocator buffer =>
      obtain ⟨rfl, -⟩ := Mapping.alwaysMapped.inj hmapping
      exact decide_eq_true allocator.dwlInstance_ne_null
  | g2d buffer =>
      obtain ⟨rfl, -⟩ := Mapping.alwaysMapped.inj hmapping
      rfl
  | dmaHeap => cases hmapping
  | ion => cases hmapping
  | ipu => cases hmapping
  | pxp => cases hmapping

/-- With an address and a client that keeps its part, the assertions of the model hold. -/
theorem asserts_of_view {b : DmaBuffer w} {m : BufferModel w} {p : MmapParams w} {s : SyncState w}
    (hb : b.view = m.mmapBacked p s) {call : BufferCall} (hkept : call.KeptBy b)
    (haddress : call.usesAddress = true → b.HasAddress) : p.Asserts s call := by
  cases call with
  | map flags errorNonNull =>
      refine ⟨mapAsserts_of_hasAddress hb (haddress rfl), fun hmapped => ?_⟩
      rw [← mapFlags_of_view hb, ← normaliseFlags_of_view hb]
      exact hkept ((isMapped_of_view hb).mpr hmapped)
  | unmap => exact (assertsTogether_of_view hb (mapAsserts_of_hasAddress hb (haddress rfl))).1
  | startSyncSession => trivial
  | stopSyncSession => exact fun _ => (isMapped_of_view hb).mp hkept
  | deallocate =>
      have htogether := assertsTogether_of_view hb (mapAsserts_of_hasAddress hb (haddress rfl))
      exact ⟨htogether.2, fun _ => htogether.1⟩

/-- Always mapped buffers need no address. -/
theorem asserts_of_always {b : DmaBuffer w} {m : BufferModel w} {p : AlwaysParams w}
    {c : CountState} (hb : b.view = m.alwaysMapped p c) {call : BufferCall}
    (hkept : call.KeptBy b) : p.Asserts c call := by
  cases call with
  | map flags errorNonNull =>
      intro hpos
      rw [← mapFlags_of_always hb, ← normaliseFlags_of_always hb]
      exact hkept ((isMapped_of_always hb).mpr hpos)
  | deallocate => exact deallocateAsserts_of_always hb
  | _ => trivial

/-- The calls on a buffer with an address. -/
theorem bufferStep_safe {b : DmaBuffer w} {call : BufferCall} {o : Outcome (kernel w) _}
    (hkept : call.KeptBy b) (haddress : call.usesAddress = true → b.HasAddress)
    (hrun : Runs (bufferStep (some b) call) t o) : o ≠ .halted Fault.assertionFailed := by
  rintro rfl
  cases hmapped : b.mappedVirtualAddress with
  | some address =>
      obtain ⟨p, s, hb⟩ := view_mmapBacked hmapped
      have hasserts := asserts_of_view hb hkept haddress
      refine no_assertion ?_ ((halted_mmapBacked hb).mp hrun) rfl
      exact MmapParams.step_meets (fun _ _ => trivial) (absurd hasserts) fun _ =>
        overflow_no_assertion
  | none =>
      obtain ⟨p, c, hb⟩ := view_alwaysMapped hmapped
      have hasserts := asserts_of_always hb hkept
      refine no_assertion ?_ ((halted_alwaysMapped hb).mp hrun) rfl
      exact AlwaysParams.step_meets (fun _ _ => trivial) (absurd hasserts) fun _ =>
        overflow_no_assertion

/-- The calls on a PxP buffer at the address 0. -/
theorem zero_address_fails {allocator : PxpAllocator} {buffer : PxpBuffer w} {call : BufferCall}
    (hzero : buffer.physicalAddress = 0) (huses : call.usesAddress = true) :
    (bufferStep (some (.pxp allocator buffer)) call).Meets StopsAtAssertion fun _ => False := by
  have hfails : buffer.physicalAddress ≠ 0 → False := fun hne => hne hzero
  cases call with
  | map flags errorNonNull =>
      refine .map (.map (.require_bind allocator.pxpFd_nonneg ?_))
      exact .require_bind_mayStop rfl (fun hne => (hfails hne).elim)
  | unmap => exact .map (.map (.require_bind_mayStop rfl (fun hne => (hfails hne).elim)))
  | deallocate =>
      refine .map (.require_bind allocator.pxpFd_nonneg ?_)
      exact .require_bind_mayStop rfl (fun hne => (hfails hne).elim)
  | startSyncSession => cases huses
  | stopSyncSession => cases huses

/-- **Calls on a buffer** fail no assertion exactly when it has an address, or the call
needs none. -/
theorem bufferStep_asserts_iff {b : DmaBuffer w} {call : BufferCall} {o : Outcome (kernel w) _}
    (hkept : call.KeptBy b) (hrun : Runs (bufferStep (some b) call) t o) :
    o ≠ .halted Fault.assertionFailed ↔ (call.usesAddress = true → b.HasAddress) := by
  refine ⟨fun hsafe huses => ?_, fun haddress => bufferStep_safe hkept haddress hrun⟩
  cases b with
  | pxp allocator buffer =>
      intro hzero
      exact hsafe (assertion_fails (zero_address_fails hzero huses) hrun)
  | _ => exact trivial

end Buffers

section Allocations

variable {size alignment : BitVec w} {ambient : Ambient} {errorNonNull : Bool}
  {t : List (KEvent w)}

/-- A dma-heap allocation by an allocator with a positive descriptor stops only where the
driver answers the descriptor 0. -/
theorem dmaHeapAllocate_meets {allocator : DmaHeapAllocator} {A : KEvent w → Prop}
    {F : Fault → Prop} (hpos : 0 < allocator.dmaHeapFd) (hsize : 0 < size)
    (hzero : ∀ e, A e → IsZeroDmabuf e → F .assertionFailed) :
    (dmaHeapAllocatorAllocate allocator size alignment ambient errorNonNull).Meets (.ofFaults A F)
      fun _ => True := by
  unfold dmaHeapAllocatorAllocate dmaHeapAllocateDmabuf
  refine .require_bind hpos (Prog.Meets.bind (Q := fun fd : Int => fd = 0 → F .assertionFailed)
    (.require_bind hpos (.require_bind hsize (.call_bind trivial (fun answer hanswer => ?_))))
    (fun fd hfd => .ite (fun _ => trivial) (fun hnonneg => ?_)))
  · cases answer with
    | error errno =>
        refine storeError_return_meets trivial ?_
        intro hminus
        cases hminus
    | ok fd => exact hzero _ hanswer
  · refine Prog.Meets.bind (Q := fun _ => True) ?_ (fun r _ => ?_)
    · unfold dmaHeapGetPhysicalAddressFromDmabufFd
      refine .dite (fun hfdpos => .call_bind trivial (fun answer _ => ?_)) (fun hfdpos => ?_)
      · cases answer with
        | error errno => exact storeError_return_meets trivial trivial
        | ok phys => exact trivial
      · exact hfd (by omega)
    · exact .ite (fun _ => .call_bind trivial (fun _ _ => trivial)) (fun _ => trivial)

/-- The search for the DMA heaps. -/
theorem getHeapIdMask_safe {ionFd : Int} {heapIdMask : BitVec 32} {errno : Int} :
    (getHeapIdMask (w := w) ionFd heapIdMask errno errorNonNull).Meets (NoAssertion t)
      fun _ => True := by
  have hloop : ∀ (heapData : Nat → IonHeapData) (remaining i : Nat) (heapIdMask : BitVec 32),
      (heapIdMaskLoop (w := w) heapData i remaining heapIdMask).Meets (NoAssertion t)
        fun _ => True := by
    intro heapData remaining
    induction remaining with
    | zero => exact fun _ _ => trivial
    | succ remaining ih =>
        intro i heapIdMask
        unfold heapIdMaskLoop
        refine .ite (fun _ => .ite (fun _ => ih _ _) (fun _ => ?_)) (fun _ => ih _ _)
        exact overflow_no_assertion
  unfold getHeapIdMask
  refine .ite (fun _ => trivial) (fun _ => .call_bind trivial (fun answer _ => ?_))
  cases answer with
  | error e => exact storeError_return_meets trivial trivial
  | ok cnt =>
      refine .ite (fun _ => storeError_return_meets trivial trivial) (fun _ => ?_)
      refine .call_bind trivial (fun answer _ => ?_)
      cases answer with
      | error e => exact storeError_return_meets trivial trivial
      | ok written => exact (hloop _ _ _ _).bind (fun _ _ => trivial)

/-- The descriptor of an ION allocation. -/
theorem ionAllocateDmabuf_safe {ionFd : Int} {ionHeapIdMask ionHeapFlags heapIdMask : BitVec 32}
    {errno : Int} (hfd : 0 ≤ ionFd) :
    (ionAllocateDmabuf config ionFd size alignment ionHeapIdMask ionHeapFlags heapIdMask errno
      errorNonNull).Meets (NoAssertion t) fun _ => True := by
  unfold ionAllocateDmabuf ionAllocateDmabufQuery ionAllocateDmabufHandle ionMapHandle
  refine .require_bind hfd (.ite (fun _ => ?_) (fun _ => ?_))
  · refine getHeapIdMask_safe.bind (fun r _ => .ite (fun _ => trivial) (fun _ => ?_))
    refine .call_bind trivial (fun answer _ => ?_)
    cases answer with
    | error e => exact storeError_return_meets trivial trivial
    | ok fd => exact trivial
  · refine Prog.Meets.bind (Q := fun _ => True) ?_ (fun _ _ => trivial)
    refine .call_bind trivial (fun answer _ => ?_)
    cases answer with
    | error e => exact storeError_return_meets trivial trivial
    | ok handle =>
        refine Prog.Meets.bind (Q := fun _ => True) ?_ (fun _ _ => ?_)
        · refine .call_bind trivial (fun answer _ => ?_)
          cases answer with
          | error e => exact storeError_return_meets trivial trivial
          | ok fd =>
              refine .ite (fun _ => ?_) (fun _ => trivial)
              exact storeError_return_meets trivial trivial
        · exact .call_bind trivial (fun _ _ => trivial)

/-- An ION allocation. -/
theorem ionAllocate_safe {allocator : IonAllocator} {heapIdMask : BitVec 32} :
    (ionAllocatorAllocate config allocator size alignment heapIdMask ambient errorNonNull).Meets
      (NoAssertion t) fun _ => True := by
  unfold ionAllocatorAllocate ionGetPhysicalAddressFromDmabufFd
  refine .require_bind allocator.ionFd_nonneg ?_
  refine (ionAllocateDmabuf_safe allocator.ionFd_nonneg).bind (fun r _ => ?_)
  refine .dite (fun _ => trivial) (fun hfd => ?_)
  refine Prog.Meets.bind (Q := fun _ => True) ?_ (fun phys _ => ?_)
  · refine .ite (fun _ => .require_bind (descriptor_nonneg hfd) ?_)
      (fun _ => .require_bind allocator.ionFd_nonneg ?_)
    all_goals
      refine .call_bind trivial (fun answer _ => ?_)
      cases answer with
      | error e => exact storeError_return_meets trivial trivial
      | ok phys => exact trivial
  · exact .ite (fun _ => .call_bind trivial (fun _ _ => trivial)) (fun _ => trivial)

/-- An IPU allocation. -/
theorem ipuAllocate_safe {allocator : IpuAllocator} :
    (ipuAllocatorAllocate allocator size alignment ambient errorNonNull).Meets (NoAssertion t)
      fun _ => True := by
  unfold ipuAllocatorAllocate ipuAllocate
  refine .require_bind allocator.ipuFd_nonneg (Prog.Meets.bind (Q := fun _ => True) ?_
    (fun phys _ => .dite (fun _ => trivial) (fun _ => trivial)))
  refine .call_bind trivial (fun answer _ => ?_)
  cases answer with
  | error e => exact storeError_return_meets trivial trivial
  | ok m => exact trivial

/-- A PxP allocation. -/
theorem pxpAllocate_safe {allocator : PxpAllocator} :
    (pxpAllocatorAllocate allocator size alignment ambient errorNonNull).Meets (NoAssertion t)
      fun _ => True := by
  unfold pxpAllocatorAllocate
  refine .require_bind allocator.pxpFd_nonneg (.call_bind trivial (fun answer _ => ?_))
  cases answer with
  | error e => exact storeError_return_meets trivial trivial
  | ok m => exact trivial

/-- A DWL allocation. -/
theorem dwlAllocate_safe {allocator : DwlAllocator w} :
    (dwlAllocatorAllocate allocator size alignment ambient errorNonNull).Meets (NoAssertion t)
      fun _ => True := by
  unfold dwlAllocatorAllocate
  refine .require_bind allocator.dwlInstance_ne_null (.call_bind trivial (fun answer _ => ?_))
  cases answer with
  | none => exact storeError_return_meets trivial trivial
  | some m => exact trivial

/-- A G2D allocation. -/
theorem g2dAllocate_safe :
    (g2dAllocatorAllocate size alignment ambient errorNonNull).Meets (NoAssertion t)
      fun _ => True := by
  unfold g2dAllocatorAllocate
  refine .call_bind trivial (fun answer _ => ?_)
  cases answer with
  | none => exact storeError_return_meets trivial trivial
  | some buf => exact trivial

/-- A size above 0 passes the assertion of the public function. -/
theorem one_le_size (hsize : 0 < size) : size ≥ 1 := by
  have hpos : 0 < size.toNat := by simpa using BitVec.lt_def.mp hsize
  have hone : (1 : BitVec w).toNat ≤ 1 := by
    rw [BitVec.ofNat_eq_ofNat, BitVec.toNat_ofNat]
    exact Nat.mod_le 1 _
  exact BitVec.le_def.mpr (Nat.le_trans hone hpos)

variable {allocator : Allocator w} {heapIdMask : BitVec 32}

/-- Allocations that work with no descriptor 0. -/
theorem allocate_safe (hsize : 0 < size) (hnonzero : allocator.AllocatesNonzero t) :
    (imxDmaBufferAllocate config allocator size alignment heapIdMask ambient errorNonNull).Meets
      (NoAssertion t) fun _ => True := by
  unfold imxDmaBufferAllocate
  refine .require_bind (one_le_size hsize) ?_
  cases allocator with
  | dmaHeap a =>
      obtain ⟨hne, hdmabuf⟩ := hnonzero
      have hmeets : (dmaHeapAllocatorAllocate a size alignment ambient errorNonNull).Meets
          (NoAssertion t) fun _ => True :=
        dmaHeapAllocate_meets (a.dmaHeapFd_pos hne) hsize (fun e he hzero => absurd hzero (hdmabuf e he))
      exact hmeets.bind (fun _ _ => trivial)
  | ion a => exact ionAllocate_safe.bind (fun _ _ => trivial)
  | dwl a => exact dwlAllocate_safe.bind (fun _ _ => trivial)
  | ipu a => exact ipuAllocate_safe.bind (fun _ _ => trivial)
  | g2d => exact g2dAllocate_safe.bind (fun _ _ => trivial)
  | pxp a => exact pxpAllocate_safe.bind (fun _ _ => trivial)

/-- Storing an error answers no descriptor. -/
theorem storeEvents_nonzero {code : Int} :
    ∀ e ∈ storeEvents (w := w) errorNonNull code, ¬ IsZeroDmabuf e := by
  cases errorNonNull with
  | false => exact List.forall_mem_nil _
  | true => exact List.forall_mem_singleton.mpr id

/-- Neither does querying an address. -/
theorem PhysStep.nonzero {fd : Int} {phys : BitVec w}
    (h : PhysStep (fun answer => ⟨.dmaBufIoctlPhys fd, answer⟩) errorNonNull t phys) :
    ∀ e ∈ t, ¬ IsZeroDmabuf e := by
  cases h with
  | failed errno => exact List.forall_mem_cons.mpr ⟨id, storeEvents_nonzero⟩
  | answered phys => exact List.forall_mem_singleton.mpr id

/-- A dma-heap allocation completes only where the driver does not answer 0. -/
theorem DmaHeapAllocateStep.nonzero {a : DmaHeapAllocator} {r : Option (DmaHeapBuffer w)}
    (h : DmaHeapAllocateStep a size ambient errorNonNull t r) : ∀ e ∈ t, ¬ IsZeroDmabuf e := by
  cases h with
  | failed errno => exact List.forall_mem_cons.mpr ⟨id, storeEvents_nonzero⟩
  | negative fd hneg => exact List.forall_mem_singleton.mpr (Int.ne_of_lt hneg)
  | noAddress fd hpos t hphys =>
      refine List.forall_mem_cons.mpr ⟨Int.ne_of_gt hpos, List.forall_mem_append.mpr ⟨?_, ?_⟩⟩
      · exact hphys.nonzero
      · exact List.forall_mem_singleton.mpr id
  | allocated fd hpos t phys hphys hne =>
      exact List.forall_mem_cons.mpr ⟨Int.ne_of_gt hpos, hphys.nonzero⟩

/-- An allocation by a dma-heap allocator with the descriptor 0. -/
theorem zero_descriptor_fails {a : DmaHeapAllocator} (hzero : a.dmaHeapFd = 0) :
    (imxDmaBufferAllocate config (.dmaHeap a) size alignment heapIdMask ambient
      errorNonNull).Meets StopsAtAssertion fun _ => False := by
  unfold imxDmaBufferAllocate
  refine .require_bind_mayStop rfl (fun _ => Prog.Meets.bind (Q := fun _ => False) ?_
    (fun _ hnone => hnone.elim))
  unfold dmaHeapAllocatorAllocate
  exact .require_bind_mayStop rfl (fun hpos => absurd hzero (Int.ne_of_gt hpos))

/-- **Allocations** fail no assertion exactly when they work with no descriptor 0. -/
theorem allocate_asserts_iff {o : Outcome (kernel w) _} (hsize : 0 < size)
    (hrun : Runs (imxDmaBufferAllocate config allocator size alignment heapIdMask ambient
      errorNonNull) t o) :
    o ≠ .halted Fault.assertionFailed ↔ allocator.AllocatesNonzero t := by
  refine ⟨fun hsafe => ?_, fun hnonzero => no_assertion (allocate_safe hsize hnonzero) hrun⟩
  cases allocator with
  | dmaHeap a =>
      have hne : a.dmaHeapFd ≠ 0 := fun hzero =>
        hsafe (assertion_fails (zero_descriptor_fails hzero) hrun)
      refine ⟨hne, ?_⟩
      have hheap : (dmaHeapAllocatorAllocate a size alignment ambient errorNonNull).Meets
          StopsAtAssertion fun _ => True :=
        dmaHeapAllocate_meets (a.dmaHeapFd_pos hne) hsize (fun _ _ _ => rfl)
      have hmeets : (imxDmaBufferAllocate config (.dmaHeap a) size alignment heapIdMask ambient
          errorNonNull).Meets StopsAtAssertion fun _ => True :=
        .require_bind (one_le_size hsize) (hheap.bind (fun _ _ => trivial))
      rcases hmeets.ends hrun (fun _ _ => trivial) with ⟨⟨r, left⟩, rfl, -⟩ | ⟨fault, rfl, rfl⟩
      · cases (allocate_done hrun).2 with
        | dmaHeap hstep => exact hstep.nonzero
      · exact absurd rfl hsafe
  | _ => exact trivial

end Allocations

section Library

variable {h : List (LibraryRecord w)} {L : LibraryState w} {op : LibraryCall w}
  {t : List (KEvent w)} {o : Outcome (kernel w) (LibraryReturn w × LibraryState w)}

/-- The part of the constructors that opens the device. -/
theorem openDevice_safe {α : Type} {path : String} {mode : OpenMode} {errorNonNull : Bool}
    {next : Except Errno Nat → Code w (Option α)}
    (hfailed : ∀ e, next (.error e) = do storeError errorNonNull e.code; return none)
    (hopened : ∀ n, ∃ a, next (.ok n) = return a) :
    (perform (S := kernel w) (.openDevice path mode) >>= next).Meets (NoAssertion t)
      fun _ => True := by
  refine .call_bind trivial (fun answer _ => ?_)
  cases answer with
  | error e =>
      rw [hfailed]
      exact storeError_return_meets trivial trivial
  | ok n =>
      obtain ⟨a, ha⟩ := hopened n
      rw [ha]
      exact trivial

/-- The constructors. -/
theorem constructor_safe (hop : op.isConstructor = true) (hkeeps : ClientKeeps L op) :
    (libraryStep config L op).Meets (NoAssertion t) fun _ => True := by
  cases op with
  | newDmaHeap dmaHeapFd heapFlags fdFlags errorNonNull =>
      refine .map (.dite (fun _ => ?_) (fun _ => trivial))
      exact openDevice_safe (fun _ => rfl) (fun _ => ⟨_, rfl⟩)
  | newDmaHeapFromFd dmaHeapFd heapFlags fdFlags isCachedMemoryHeap =>
      exact .map (.dite (fun _ => trivial) (fun hfd => absurd hkeeps hfd))
  | newIon ionFd ionHeapIdMask ionHeapFlags errorNonNull =>
      refine .map (.dite (fun _ => ?_) (fun _ => trivial))
      exact openDevice_safe (fun _ => rfl) (fun _ => ⟨_, rfl⟩)
  | newDwl errorNonNull =>
      refine .map (.call_bind trivial (fun dwlInstance _ => .dite (fun _ => ?_) (fun _ => trivial)))
      exact storeError_return_meets trivial trivial
  | newIpu ipuFd errorNonNull =>
      refine .map (.dite (fun _ => ?_) (fun _ => trivial))
      exact openDevice_safe (fun _ => rfl) (fun _ => ⟨_, rfl⟩)
  | newG2d => exact trivial
  | newPxp pxpFd errorNonNull =>
      refine .map (.dite (fun _ => ?_) (fun _ => trivial))
      exact openDevice_safe (fun _ => rfl) (fun _ => ⟨_, rfl⟩)
  | _ => cases hop

/-- A call that destroys nothing stays accepted when it fails no assertion. -/
theorem staysAccepted_iff (hop : ∀ i, op ≠ .destroy i) :
    StaysAccepted h op t o ↔ o ≠ .halted Fault.assertionFailed :=
  ⟨StaysAccepted.asserts, fun hsafe => ⟨hsafe, fun _ _ i heq => absurd heq (hop i)⟩⟩

/-- A call on an allocator or a buffer that is not there. -/
theorem missing_staysAccepted (hrun : Runs (.halt Fault.undefinedBehaviour) t o) :
    StaysAccepted h op t o := by
  obtain ⟨-, rfl⟩ := runs_halt_iff.mp hrun
  exact ⟨fun heq => (by cases heq), fun _ heq => (by cases heq)⟩

/-- Destroying an allocator. -/
theorem destroy_staysAccepted_iff {i : Nat}
    (hopened : ∀ a, L.liveAllocator i = some a → a.ownDevice = openedDevice h i)
    (hrun : Runs (libraryStep config L (.destroy i)) t o) :
    StaysAccepted h (.destroy i) t o ↔ AvoidsZero L (.destroy i) t := by
  simp only [libraryStep] at hrun
  simp only [AvoidsZero]
  cases hlive : L.liveAllocator i with
  | none =>
      rw [hlive] at hrun
      exact iff_of_true (missing_staysAccepted hrun) (fun _ hnone => (by cases hnone))
  | some a =>
      rw [hlive] at hrun
      obtain ⟨o', hdestroy, rfl⟩ := runs_map_iff.mp hrun
      obtain ⟨rfl, hcloses⟩ := destroy_closes hdestroy
      rw [hopened a hlive] at hcloses
      constructor
      · rintro hstays _ ⟨⟩
        exact hcloses.mp (hstays.closes _ rfl i rfl)
      · intro havoids
        refine ⟨fun heq => (by cases heq), fun r _ j heq => ?_⟩
        obtain rfl := LibraryCall.destroy.inj heq
        exact hcloses.mpr (havoids a rfl)

/-- Allocating a buffer. -/
theorem allocate_staysAccepted_iff {i : Nat} {size alignment : BitVec w} {ambient : Ambient}
    {errorNonNull : Bool} (hsize : 0 < size)
    (hrun : Runs (libraryStep config L (.allocate i size alignment ambient errorNonNull)) t o) :
    StaysAccepted h (.allocate i size alignment ambient errorNonNull) t o ↔
      AvoidsZero L (.allocate i size alignment ambient errorNonNull) t := by
  simp only [libraryStep] at hrun
  simp only [AvoidsZero]
  cases hlive : L.liveAllocator i with
  | none =>
      rw [hlive] at hrun
      exact iff_of_true (missing_staysAccepted hrun) (fun _ hnone => (by cases hnone))
  | some a =>
      rw [hlive] at hrun
      obtain ⟨o', hallocate, rfl⟩ := runs_map_iff.mp hrun
      rw [staysAccepted_iff (fun _ heq => (by cases heq)), Ne, Outcome.map_eq_halted_iff]
      refine (allocate_asserts_iff hsize hallocate).trans ⟨?_, fun havoids => havoids a rfl⟩
      rintro hnonzero _ ⟨⟩
      exact hnonzero

/-- A call on a buffer. -/
theorem buffer_staysAccepted_iff {j : Nat} {call : BufferCall}
    (hkeeps : ∀ b, L.liveBuffer j = some b → call.KeptBy b)
    (hrun : Runs (libraryStep config L (.buffer j call)) t o) :
    StaysAccepted h (.buffer j call) t o ↔ AvoidsZero L (.buffer j call) t := by
  simp only [libraryStep] at hrun
  simp only [AvoidsZero]
  cases hlive : L.liveBuffer j with
  | none =>
      rw [hlive] at hrun
      exact iff_of_true (missing_staysAccepted hrun) (fun _ _ hnone => (by cases hnone))
  | some b =>
      rw [hlive] at hrun
      obtain ⟨o', hcall, rfl⟩ := runs_map_iff.mp hrun
      rw [staysAccepted_iff (fun _ heq => (by cases heq)), Ne, Outcome.map_eq_halted_iff]
      refine (bufferStep_asserts_iff (hkeeps b hlive) hcall).trans
        ⟨?_, fun havoids huses => havoids huses b rfl⟩
      rintro haddress huses _ ⟨⟩
      exact haddress huses

/-- **One call** after any history stays accepted exactly when it avoids the zeros. -/
theorem staysAccepted_iff_avoidsZero (hR : RecordsOpened h L) (hkeeps : ClientKeeps L op)
    (hrun : Runs (libraryStep config L op) t o) :
    StaysAccepted h op t o ↔ AvoidsZero L op t := by
  cases hop : op.isConstructor with
  | true =>
      have hsafe := no_assertion (constructor_safe hop hkeeps) hrun
      have hother : ∀ i, op ≠ .destroy i := by
        rintro i rfl
        cases hop
      refine iff_of_true ((staysAccepted_iff hother).mpr hsafe) ?_
      cases op with
      | destroy => cases hop
      | allocate => cases hop
      | buffer => cases hop
      | _ => exact trivial
  | false =>
      cases op with
      | destroy i => exact destroy_staysAccepted_iff (hR.live i) hrun
      | allocate i size alignment ambient errorNonNull =>
          exact allocate_staysAccepted_iff hkeeps hrun
      | buffer j call => exact buffer_staysAccepted_iff hkeeps hrun
      | _ => cases hop

/-- **What is accepted once is accepted always**, while the zeros are avoided: every
destruction of the run closes what the library opened, and whatever call comes next
stays accepted exactly when it avoids them too. -/
theorem accepted_always (hs : (libraryMachine w config).Steps AvoidsZero LibraryState.empty h L) :
    (∀ before r after, h = before ++ r :: after → ClosesOpened before r.op r.events) ∧
      ∀ op t o, ClientKeeps L op → Runs (libraryStep config L op) t o →
        (StaysAccepted h op t o ↔ AvoidsZero L op t) := by
  constructor
  · rintro before r after rfl i hop
    obtain ⟨middle, next, hbefore, havoids, hrun⟩ := hs.at
    rw [hop] at havoids
    have hdestroy : Runs (libraryStep config middle (.destroy i)) r.events (.done (r.ret, next)) :=
      hop ▸ hrun
    have hlive := (recordsOpened_of_steps hbefore).live i
    have hstays := (destroy_staysAccepted_iff hlive hdestroy).mpr havoids
    exact hstays.closes _ rfl i rfl
  · intro op t o hkeeps hrun
    exact staysAccepted_iff_avoidsZero (recordsOpened_of_steps hs) hkeeps hrun

/-- A PxP allocator with a device of its own, and a buffer of it that is mapped when it
is deallocated. -/
def pxpLife : List (LibraryRecord 64) :=
  [⟨.newPxp (-1) true, [⟨.openDevice "/dev/pxp_device" .rdwr, .ok 0⟩], .created (some 0)⟩,
   ⟨.allocate 0 4096 0 cleanAmbient true, [⟨.pxpIocGetPhymem 0 4096 .wc, .ok (7, 0x80000000)⟩],
     .created (some 0)⟩,
   ⟨.buffer 0 (.map 3 true), [⟨.mmap 4096 3 0 0x80000000, .ok ⟨0x10000, sample_address_ne_null⟩⟩],
     .returned (some 0x10000)⟩,
   ⟨.buffer 0 .deallocate, [⟨.munmap 0x10000 4096, ()⟩,
     ⟨.pxpIocPutPhymem 0 ⟨7, 4096, 0x80000000, .wc⟩, ()⟩], .returned none⟩]

/-- The allocator is left, with a buffer that has been deallocated. -/
def spentPxp : LibraryState 64 where
  allocators := [some (.pxp ⟨0, true, by decide⟩)]
  buffers := [⟨0, none⟩]
  heapIdMask := 0

/-- The device has the descriptor 0, and destroying the allocator closes it. -/
theorem pxp_life_closes :
    StaysAccepted pxpLife (.destroy 0) [⟨.close 0, ()⟩]
      (.done (.returned none, spentPxp.removeAllocator 0)) := by
  have haddress : (0x80000000 : BitVec 64) ≠ 0 := by decide
  have hs : (libraryMachine 64 recentKernelConfig).Steps AvoidsZero LibraryState.empty pxpLife
      spentPxp := by
    refine .cons trivial (.call _ (.ret _)) (.cons ?_ (.call _ (.ret _)) (.cons ?_
      (.call _ (.ret _)) (.single ?_ (.call _ (.call _ (.ret _))))))
    · rintro a ⟨⟩
      trivial
    · rintro - b ⟨⟩
      exact haddress
    · rintro - b ⟨⟩
      exact haddress
  have hdestroy : Runs (libraryStep recentKernelConfig spentPxp (.destroy 0)) [⟨.close 0, ()⟩]
      (.done (.returned none, spentPxp.removeAllocator 0)) := .call _ (.ret _)
  refine ((accepted_always hs).2 (.destroy 0) _ _ trivial hdestroy).mpr ?_
  rintro a ⟨⟩
  trivial

/-- A dma-heap allocator is created with the descriptor 0. -/
def zeroHeap : List (LibraryRecord 64) := [⟨.newDmaHeap 0 0 2 true, [], .created (some 0)⟩]

/-- The constructor accepts the descriptor, and allocating stops at an assertion about it. -/
theorem zero_descriptor_accepted_then_fails : ∃ L,
    (libraryMachine 64 recentKernelConfig).Steps (fun _ _ _ => True) LibraryState.empty zeroHeap L ∧
    ClientKeeps L (.allocate 0 4096 0 cleanAmbient true) ∧
    Runs (libraryStep recentKernelConfig L (.allocate 0 4096 0 cleanAmbient true)) []
      (.halted Fault.assertionFailed) ∧
    ¬ StaysAccepted zeroHeap (.allocate 0 4096 0 cleanAmbient true) []
      (.halted Fault.assertionFailed) :=
  ⟨_, .single trivial (.ret _), (by decide : (0 : BitVec 64) < 4096), .halt _,
    fun hstays => hstays.asserts rfl⟩

end Library

end ImxDmaBuffer
