import ImxDmaBuffer.BufferHistories

/-!
# Wrapped buffers

A client can wrap memory that was not allocated by this library, or not by itself, and
hand it on as a DMA buffer.  It sets up the physical address, the descriptor and the size,
and two functions that map and unmap.  All other calls on such a buffer do nothing; in
particular, deallocating it does not release what it wraps.  A wrapper that is not set up
does nothing at all (`initialised_wrapper_inert`).

The functions are code of the client, so they are parameters here.  The natural ones for a
buffer of this library forward to it.  With these, a history of the wrapped buffer is one
of the buffer inside, of which only the maps and unmaps are left
(`wrapped_forwards_iff`).  A client cannot tell the two apart unless it relies on its own
sync sessions (`wrapped_transparent_iff`): these never reach the buffer inside.
-/

namespace ImxDmaBuffer

open CallProgram

variable {w : Nat} {σ : Type}

/-- `ImxWrappedDmaBuffer`, with what the client keeps next to it. -/
structure WrappedDmaBuffer (w : Nat) (σ : Type) where
  fd : Int
  physicalAddress : BitVec w
  size : BitVec w
  client : σ

/-- The function pointers in an `ImxWrappedDmaBuffer`, which may be `NULL`. -/
structure WrappedFuncs (w : Nat) (σ : Type) where
  map : Option (WrappedDmaBuffer w σ → BitVec 32 → Bool →
    Code w (BitVec w × WrappedDmaBuffer w σ))
  unmap : Option (WrappedDmaBuffer w σ → Code w (WrappedDmaBuffer w σ))

/-- `imx_dma_buffer_init_wrapped_buffer` -/
def imxDmaBufferInitWrappedBuffer (client : σ) : WrappedDmaBuffer w σ × WrappedFuncs w σ :=
  ({ fd := 0, physicalAddress := 0, size := 0, client := client }, { map := none, unmap := none })

/-- `wrapped_dma_buffer_allocator_deallocate` -/
def wrappedDmaBufferAllocatorDeallocate (_ : WrappedDmaBuffer w σ) : Code w Unit := pure ()

/-- `wrapped_dma_buffer_allocator_map` -/
def wrappedDmaBufferAllocatorMap (funcs : WrappedFuncs w σ) (buffer : WrappedDmaBuffer w σ)
    (flags : BitVec 32) (errorNonNull : Bool) : Code w (BitVec w × WrappedDmaBuffer w σ) :=
  match funcs.map with
  | some map => map buffer flags errorNonNull
  | none => return (0, buffer)

/-- `wrapped_dma_buffer_allocator_unmap` -/
def wrappedDmaBufferAllocatorUnmap (funcs : WrappedFuncs w σ) (buffer : WrappedDmaBuffer w σ) :
    Code w (WrappedDmaBuffer w σ) :=
  match funcs.unmap with
  | some unmap => unmap buffer
  | none => return buffer

/-- `wrapped_dma_buffer_allocator_get_physical_address` -/
def wrappedDmaBufferAllocatorGetPhysicalAddress (buffer : WrappedDmaBuffer w σ) : BitVec w :=
  buffer.physicalAddress

/-- `wrapped_dma_buffer_allocator_get_fd` -/
def wrappedDmaBufferAllocatorGetFd (buffer : WrappedDmaBuffer w σ) : Int := buffer.fd

/-- `wrapped_dma_buffer_allocator_get_size` -/
def wrappedDmaBufferAllocatorGetSize (buffer : WrappedDmaBuffer w σ) : BitVec w := buffer.size

/-- Serve one call on a wrapped buffer. Its vtable has the no-op functions for sync
sessions. -/
def wrappedStep (funcs : WrappedFuncs w σ) (buffer : WrappedDmaBuffer w σ) :
    BufferCall → Code w (Option (BitVec w) × WrappedDmaBuffer w σ)
  | .map flags errorNonNull =>
      Prod.map some id <$> wrappedDmaBufferAllocatorMap funcs buffer flags errorNonNull
  | .unmap => (fun b => (none, b)) <$> wrappedDmaBufferAllocatorUnmap funcs buffer
  | .startSyncSession => return (none, buffer)
  | .stopSyncSession => return (none, buffer)
  | .deallocate => (fun _ => (none, buffer)) <$> wrappedDmaBufferAllocatorDeallocate buffer

/-- A wrapped buffer as a machine. -/
def wrappedMachine (funcs : WrappedFuncs w σ) :
    Machine (kernel w) BufferCall (Option (BitVec w)) where
  State := WrappedDmaBuffer w σ
  step := wrappedStep funcs

/-- The calls that reach the functions of the client. -/
def BufferCall.forwarded : BufferCall → Bool
  | .map _ _ => true
  | .unmap => true
  | _ => false

section Wrapped

variable {funcs : WrappedFuncs w σ} {s s' : WrappedDmaBuffer w σ} {op : BufferCall}
  {t : List (KEvent w)} {ret : Option (BitVec w)} {h : List (CallRecord w)}

/-- The other calls do nothing. -/
theorem wrapped_silent_iff (hop : op.forwarded = false) :
    Runs (wrappedStep funcs s op) t (.done (ret, s')) ↔ t = [] ∧ ret = none ∧ s' = s := by
  have hreturn : wrappedStep funcs s op = return (none, s) := by
    cases op with
    | map => cases hop
    | unmap => cases hop
    | _ => rfl
  rw [hreturn]
  constructor
  · intro hrun
    obtain ⟨ht, heq⟩ := runs_ret_done_iff.mp hrun
    obtain ⟨hret, hs⟩ := Prod.mk.inj heq
    exact ⟨ht, hret.symm, hs.symm⟩
  · rintro ⟨rfl, rfl, rfl⟩
    exact .ret _

/-- Without functions, no call issues anything or changes the wrapper. -/
theorem unset_step (hmap : funcs.map = none) (hunmap : funcs.unmap = none)
    (hrun : Runs (wrappedStep funcs s op) t (.done (ret, s'))) :
    s' = s ∧ t = [] ∧ (ret = none ∨ ret = some 0) := by
  cases op with
  | map flags errorNonNull =>
      simp only [wrappedStep, wrappedDmaBufferAllocatorMap, hmap] at hrun
      obtain ⟨ht, heq⟩ := runs_ret_done_iff.mp hrun
      obtain ⟨hret, hs⟩ := Prod.mk.inj heq
      exact ⟨hs.symm, ht, Or.inr hret.symm⟩
  | unmap =>
      simp only [wrappedStep, wrappedDmaBufferAllocatorUnmap, hunmap] at hrun
      obtain ⟨ht, heq⟩ := runs_ret_done_iff.mp hrun
      obtain ⟨hret, hs⟩ := Prod.mk.inj heq
      exact ⟨hs.symm, ht, Or.inl hret.symm⟩
  | _ =>
      obtain ⟨ht, hret, hs⟩ := (wrapped_silent_iff rfl).mp hrun
      exact ⟨hs, ht, Or.inl hret⟩

/-- **A wrapper that was only initialised** maps nothing and reports nothing: all maps
return `NULL`, nothing is issued, and address, descriptor and size stay 0. -/
theorem initialised_wrapper_inert {client : σ}
    {G : (wrappedMachine (imxDmaBufferInitWrappedBuffer (w := w) client).2).Guard}
    (hs : (wrappedMachine (imxDmaBufferInitWrappedBuffer client).2).Steps G
      (imxDmaBufferInitWrappedBuffer client).1 h s') :
    (∀ r ∈ h, r.events = [] ∧ (r.ret = none ∨ r.ret = some 0)) ∧
      wrappedDmaBufferAllocatorGetPhysicalAddress s' = 0 ∧
      wrappedDmaBufferAllocatorGetFd s' = 0 ∧ wrappedDmaBufferAllocatorGetSize s' = 0 := by
  have hinert : s' = (imxDmaBufferInitWrappedBuffer client).1 ∧
      ∀ r ∈ h, r.events = [] ∧ (r.ret = none ∨ r.ret = some 0) := by
    refine hs.track_history (R := fun h (u : WrappedDmaBuffer w σ) =>
      u = (imxDmaBufferInitWrappedBuffer client).1 ∧
        ∀ r ∈ h, r.events = [] ∧ (r.ret = none ∨ r.ret = some 0)) ?_
      ⟨rfl, List.forall_mem_nil _⟩
    intro before u r u' hbefore _ hrun
    obtain ⟨rfl, hsilent⟩ := hbefore
    obtain ⟨hu, hr⟩ := unset_step rfl rfl hrun
    exact ⟨hu, List.forall_mem_append.mpr ⟨hsilent, List.forall_mem_singleton.mpr hr⟩⟩
  obtain ⟨rfl, hsilent⟩ := hinert
  exact ⟨hsilent, rfl, rfl, rfl⟩

end Wrapped

/-- A buffer of this library, wrapped: the client initialises the wrapper and sets what it
is to report. -/
def wrap (b : DmaBuffer w) : WrappedDmaBuffer w (DmaBuffer w) :=
  { (imxDmaBufferInitWrappedBuffer (w := w) b).1 with
    fd := imxDmaBufferGetFd b
    physicalAddress := imxDmaBufferGetPhysicalAddress b
    size := imxDmaBufferGetSize b }

/-- The functions that the client sets: they forward to the buffer inside. -/
def forwardingFuncs : WrappedFuncs w (DmaBuffer w) where
  map := some fun buffer flags errorNonNull =>
    Prod.map id (fun b => { buffer with client := b }) <$>
      imxDmaBufferMap buffer.client flags errorNonNull
  unmap := some fun buffer =>
    (fun b => { buffer with client := b }) <$> imxDmaBufferUnmap buffer.client

/-- The wrapper reports the address, the descriptor and the size of the buffer. -/
structure WrappedDmaBuffer.Reports (s : WrappedDmaBuffer w σ) (b : DmaBuffer w) : Prop where
  physicalAddress : wrappedDmaBufferAllocatorGetPhysicalAddress s = imxDmaBufferGetPhysicalAddress b
  fd : wrappedDmaBufferAllocatorGetFd s = imxDmaBufferGetFd b
  size : wrappedDmaBufferAllocatorGetSize s = imxDmaBufferGetSize b

theorem reports_wrap (b : DmaBuffer w) : (wrap b).Reports b := ⟨rfl, rfl, rfl⟩

section Forwarding

variable {b b' : DmaBuffer w} {s' : WrappedDmaBuffer w (DmaBuffer w)} {op : BufferCall}
  {t : List (KEvent w)} {ret : Option (BitVec w)} {h : List (CallRecord w)}

/-- A call that keeps the buffer inside keeps what the wrapper says about it. -/
theorem wrap_of_done (hrun : Runs (bufferStep (some b) op) t (.done (ret, some b'))) :
    { wrap b with client := b' } = wrap b' := by
  unfold wrap imxDmaBufferInitWrappedBuffer
  rw [bufferStep_keeps _ getPhysicalAddress_skeleton hrun, bufferStep_keeps _ getSize_skeleton hrun,
    bufferStep_keeps _ getFd_skeleton hrun]

/-- **Maps and unmaps** are those of the buffer inside. -/
theorem wrapped_forwards (hop : op.forwarded = true) :
    Runs (wrappedStep forwardingFuncs (wrap b) op) t (.done (ret, s')) ↔
      ∃ b', s' = wrap b' ∧ Runs (bufferStep (some b) op) t (.done (ret, some b')) := by
  -- Both run the same code; they differ in how they store what it returns.
  have hboth : ∀ {α : Type} (code : Code w α) (f : α → Option (BitVec w)) (g : α → DmaBuffer w),
      bufferStep (some b) op = (fun a => (f a, some (g a))) <$> code →
      wrappedStep forwardingFuncs (wrap b) op =
        (fun a => (f a, { wrap b with client := g a })) <$> code →
      (Runs (wrappedStep forwardingFuncs (wrap b) op) t (.done (ret, s')) ↔
        ∃ b', s' = wrap b' ∧ Runs (bufferStep (some b) op) t (.done (ret, some b'))) := by
    intro α code f g hbuffer hwrapped
    constructor
    · intro hrun
      rw [hwrapped] at hrun
      obtain ⟨a, hcode, heq⟩ := runs_map_done_iff.mp hrun
      obtain ⟨rfl, rfl⟩ := Prod.mk.inj heq
      have hinner : Runs (bufferStep (some b) op) t (.done (f a, some (g a))) := by
        rw [hbuffer]
        exact runs_map_done_iff.mpr ⟨a, hcode, rfl⟩
      exact ⟨g a, wrap_of_done hinner, hinner⟩
    · rintro ⟨b', rfl, hinner⟩
      rw [← wrap_of_done hinner]
      rw [hbuffer] at hinner
      obtain ⟨a, hcode, heq⟩ := runs_map_done_iff.mp hinner
      obtain ⟨rfl, hb'⟩ := Prod.mk.inj heq
      obtain rfl := Option.some.inj hb'
      rw [hwrapped]
      exact runs_map_done_iff.mpr ⟨a, hcode, rfl⟩
  cases op with
  | map flags errorNonNull =>
      exact hboth (imxDmaBufferMap b flags errorNonNull) (fun a => some a.1) (fun a => a.2) rfl
        (by simp only [wrappedStep]; exact Functor.map_map _ _ _)
  | unmap =>
      exact hboth (imxDmaBufferUnmap b) (fun _ => none) (fun a => a) rfl
        (by simp only [wrappedStep]; exact Functor.map_map _ _ _)
  | _ => cases hop

/-- Nothing that was deallocated is used again. -/
theorem gone_buffer_unused {G : (bufferMachine w).Guard} :
    ¬ (bufferMachine w).Steps G none h (some b) := by
  intro hs
  cases h with
  | nil => cases Machine.steps_nil_iff.mp hs
  | cons r h =>
      obtain ⟨c, -, hrun, -⟩ := Machine.steps_cons_iff.mp hs
      cases (runs_halt_iff.mp hrun).2

/-- Nothing that a call leaves alone changes in a history. -/
theorem steps_keep {α : Type} (read : DmaBuffer w → α) (hread : ∀ b, read b.skeleton = read b)
    {G : (bufferMachine w).Guard} (hs : (bufferMachine w).Steps G (some b) h (some b')) :
    read b' = read b := by
  refine hs.track_history (R := fun _ u => ∀ c, u = some c → read c = read b) ?_ ?_ b' rfl
  · intro _ u r u' hbefore _ hrun c hc
    subst hc
    cases u with
    | none => cases (runs_halt_iff.mp hrun).2
    | some d => exact (bufferStep_keeps read hread hrun).trans (hbefore d rfl)
  · rintro c hc
    rw [Option.some.inj hc]

/-- What the wrapper reports is true of the buffer as it was wrapped, too. -/
theorem reports_of_steps {G : (bufferMachine w).Guard}
    (hs : (bufferMachine w).Steps G (some b) h (some b')) : (wrap b').Reports b where
  physicalAddress := steps_keep _ getPhysicalAddress_skeleton hs
  fd := steps_keep _ getFd_skeleton hs
  size := steps_keep _ getSize_skeleton hs

/-- What the buffer inside sees of a history. -/
def innerCalls (h : List (CallRecord w)) : List (CallRecord w) := h.filter fun r => r.op.forwarded

theorem innerCalls_cons_of_forwarded {r : CallRecord w} (hop : r.op.forwarded = true) :
    innerCalls (r :: h) = r :: innerCalls h := List.filter_cons_of_pos hop

theorem innerCalls_cons_of_other {r : CallRecord w} (hop : r.op.forwarded = false) :
    innerCalls (r :: h) = innerCalls h :=
  List.filter_cons_of_neg fun hforwarded => Bool.false_ne_true (hop.symm.trans hforwarded)

/-- A call does nothing at all. -/
def SilentCall (r : CallRecord w) : Prop := r.events = [] ∧ r.ret = none

/-- The histories of a wrapped buffer, by those of the buffer inside. -/
theorem wrapped_steps_iff :
    (wrappedMachine forwardingFuncs).Steps (fun _ _ _ => True) (wrap b) h s' ↔
      (∃ b', s' = wrap b' ∧
        (bufferMachine w).Steps (fun _ _ _ => True) (some b) (innerCalls h) (some b')) ∧
      ∀ r ∈ h, r.op.forwarded = false → SilentCall r := by
  induction h generalizing b with
  | nil =>
      constructor
      · intro hs
        exact ⟨⟨b, Machine.steps_nil_iff.mp hs, .nil _⟩, List.forall_mem_nil _⟩
      · rintro ⟨⟨b', rfl, hinner⟩, -⟩
        obtain rfl := Option.some.inj (Machine.steps_nil_iff.mp hinner)
        exact .nil _
  | cons r h ih =>
      rw [List.forall_mem_cons]
      cases hop : r.op.forwarded with
      | true =>
          rw [innerCalls_cons_of_forwarded hop]
          constructor
          · intro hs
            obtain ⟨middle, -, hrun, hrest⟩ := Machine.steps_cons_iff.mp hs
            obtain ⟨c, rfl, hstep⟩ := (wrapped_forwards hop).mp hrun
            obtain ⟨⟨b', hs', hinner⟩, hsilent⟩ := ih.mp hrest
            exact ⟨⟨b', hs', .cons trivial hstep hinner⟩, fun hno => (by cases hno), hsilent⟩
          · rintro ⟨⟨b', hs', hinner⟩, -, hsilent⟩
            obtain ⟨c, -, hstep, hrest⟩ := Machine.steps_cons_iff.mp hinner
            cases c with
            | none => exact absurd hrest gone_buffer_unused
            | some c =>
                exact .cons trivial ((wrapped_forwards hop).mpr ⟨c, rfl, hstep⟩)
                  (ih.mpr ⟨⟨b', hs', hrest⟩, hsilent⟩)
      | false =>
          rw [innerCalls_cons_of_other hop]
          constructor
          · intro hs
            obtain ⟨middle, -, hrun, hrest⟩ := Machine.steps_cons_iff.mp hs
            obtain ⟨ht, hret, rfl⟩ := (wrapped_silent_iff hop).mp hrun
            obtain ⟨hinner, hsilent⟩ := ih.mp hrest
            exact ⟨hinner, fun _ => ⟨ht, hret⟩, hsilent⟩
          · rintro ⟨hinner, hr, hsilent⟩
            obtain ⟨ht, hret⟩ := hr rfl
            exact .cons trivial ((wrapped_silent_iff hop).mpr ⟨ht, hret, rfl⟩)
              (ih.mpr ⟨hinner, hsilent⟩)

/-- **A wrapped buffer forwards.**  The histories of a wrapped buffer are those of which
the maps and unmaps are a history of the buffer inside, and in which all other calls,
deallocation among them, do nothing.  What the wrapper reports about the buffer stays true. -/
theorem wrapped_forwards_iff :
    (wrappedMachine forwardingFuncs).Steps (fun _ _ _ => True) (wrap b) h s' ↔
      (∃ b', s' = wrap b' ∧ s'.Reports b' ∧ s'.Reports b ∧
        (bufferMachine w).Steps (fun _ _ _ => True) (some b) (innerCalls h) (some b')) ∧
      ∀ r ∈ h, r.op.forwarded = false → SilentCall r := by
  rw [wrapped_steps_iff]
  refine and_congr_left fun _ => exists_congr fun b' => and_congr_right ?_
  rintro rfl
  exact ⟨fun hs => ⟨reports_wrap b', reports_of_steps hs, hs⟩, fun h => h.2.2⟩

end Forwarding

/-- A call that would start or stop a session of the client's own on this buffer. -/
def DmaBuffer.SyncsOn : DmaBuffer w → BufferCall → Prop
  | .dmaHeap allocator buffer, .startSyncSession =>
      allocator.isCached = true ∧ buffer.syncStarted = false ∧ manualSync buffer.mapFlags = true
  | .dmaHeap allocator buffer, .stopSyncSession =>
      allocator.isCached = true ∧ buffer.syncStarted = true ∧ manualSync buffer.mapFlags = true
  | _, _ => False

section Sessions

variable {b c : DmaBuffer w} {op : BufferCall} {t : List (KEvent w)} {h : List (CallRecord w)}

/-- Maps and unmaps are no session calls. -/
theorem not_syncsOn_of_forwarded (hop : op.forwarded = true) : ¬ b.SyncsOn op := by
  intro hsyncs
  cases op with
  | map flags errorNonNull => cases b <;> exact hsyncs
  | unmap => cases b <;> exact hsyncs
  | _ => cases hop

/-- All other session starts are ignored. -/
theorem start_ignored (hno : ¬ b.SyncsOn .startSyncSession) :
    imxDmaBufferStartSyncSession b = pure b := by
  cases b with
  | dmaHeap allocator buffer =>
      rw [DmaHeapBuffer.vtableStart_eq, MmapParams.start, if_neg]
      · rfl
      · intro hstarts
        simp only [Bool.and_eq_true, Bool.not_eq_true'] at hstarts
        exact hno ⟨hstarts.1.1, hstarts.1.2, hstarts.2⟩
  | _ => rfl

/-- So are all other session stops, while the buffer is mapped. -/
theorem stop_ignored (hmapped : b.IsMapped) (hno : ¬ b.SyncsOn .stopSyncSession) :
    imxDmaBufferStopSyncSession b = pure b := by
  cases b with
  | dmaHeap allocator buffer =>
      have haddress : buffer.mappedVirtualAddress ≠ 0 := hmapped
      rw [DmaHeapBuffer.vtableStop_eq, MmapParams.stop]
      cases hcached : (buffer.params allocator).isCached with
      | false => rfl
      | true =>
          have hexplicit : (buffer.params allocator).stopExplicit buffer.sync = pure buffer.sync := by
            rw [MmapParams.stopExplicit, require_bind_of haddress]
            by_cases hstarted : buffer.syncStarted = true
            · have hmanual : ¬ manualSync buffer.mapFlags = true := fun hmanual =>
                hno ⟨hcached, hstarted, hmanual⟩
              simp [hstarted, hmanual]
            · simp [hstarted]
          rw [if_pos rfl, hexplicit]
          rfl
  | _ => rfl

/-- A session call that is ignored. -/
theorem session_ignored (hop : op = .startSyncSession ∨ op = .stopSyncSession)
    (hmapped : b.IsMapped) (hno : ¬ b.SyncsOn op) :
    Runs (bufferStep (some b) op) [] (.done (none, some b)) := by
  rcases hop with rfl | rfl
  · rw [bufferStep, start_ignored hno]
    exact .ret _
  · rw [bufferStep, stop_ignored hmapped hno]
    exact .ret _

/-- A session that is started or stopped shows in the trace. -/
theorem session_shows {ret : Option (BitVec w)} {d : Option (DmaBuffer w)} (hsyncs : b.SyncsOn op)
    (hrun : Runs (bufferStep (some b) op) t (.done (ret, d))) : t ≠ [] := by
  cases b with
  | dmaHeap allocator buffer =>
      have hb : (DmaBuffer.dmaHeap allocator buffer).view =
          (DmaBuffer.dmaHeap allocator buffer).view.mmapBacked (buffer.params allocator)
            buffer.sync := rfl
      cases op with
      | startSyncSession =>
          obtain ⟨u, -, hstep⟩ := step_mmapBacked hb hrun
          have hdone : (buffer.params allocator).Step buffer.sync .startSyncSession t ret u :=
            MmapParams.step_done hstep
          cases hdone with
          | startSyncSession hstart =>
              cases hstart with
              | ignored hno => exact absurd hsyncs hno
              | begins _ _ _ _ hstarts =>
                  obtain ⟨rest, rfl, -⟩ := hstarts
                  exact List.cons_ne_nil _ _
      | stopSyncSession =>
          obtain ⟨u, -, hstep⟩ := step_mmapBacked hb hrun
          have hdone : (buffer.params allocator).Step buffer.sync .stopSyncSession t ret u :=
            MmapParams.step_done hstep
          cases hdone with
          | stopSyncSession hstop =>
              cases hstop with
              | ignored hno => exact absurd hsyncs hno
              | ends _ _ _ _ hstops =>
                  obtain ⟨rest, rfl, -⟩ := hstops
                  exact List.cons_ne_nil _ _
      | _ => exact hsyncs.elim
  | _ => exact hsyncs.elim

/-- A client that keeps to the rules of sync sessions, and leaves deallocation alone. -/
def KeepsSessionRules : (wrappedMachine (forwardingFuncs (w := w))).Guard :=
  fun (s : WrappedDmaBuffer w (DmaBuffer w)) op _ => op ≠ .deallocate ∧
    (op = .startSyncSession ∨ op = .stopSyncSession → s.client.IsMapped)

/-- No session of the client's own is due in this call. -/
def NoOwnSession : (wrappedMachine (forwardingFuncs (w := w))).Guard :=
  fun (s : WrappedDmaBuffer w (DmaBuffer w)) op _ => ¬ s.client.SyncsOn op

/-- The buffer of a cached heap, mapped with a session of the client's own. -/
def ownSession : List (CallRecord 64) :=
  [⟨.map 7 true, [⟨.mmap 4096 3 4 0, .ok ⟨0x10000, sample_address_ne_null⟩⟩], some 0x10000⟩,
   ⟨.startSyncSession, [], none⟩]

/-- That buffer, mapped for the client's own sessions. -/
def ownSyncBuffer : DmaBuffer 64 :=
  .dmaHeap cachedHeap {
    mappedVirtualAddress := 0x10000
    mapFlags := 7
    mappingRefcount := 1
    dmabufFd := 4
    physicalAddress := 0x80000000
    size := 4096
    syncStarted := false
    dmabufFd_pos := sample_dmabufFd_pos }

end Sessions

section Manual

/-- Maps ask for sessions of the client's own. -/
def MapsManually (op : BufferCall) : Prop :=
  ∀ flags errorNonNull, op = .map flags errorNonNull → manualSync flags = true

/-- Storing an error does not sync. -/
theorem storeEvents_isSync {errorNonNull : Bool} {code : Int} :
    ∀ e ∈ storeEvents (w := w) errorNonNull code, e.call.isSync = false := by
  cases errorNonNull with
  | false => exact List.forall_mem_nil _
  | true => exact List.forall_mem_singleton.mpr rfl

namespace MmapParams

variable {p : MmapParams w} {s s' : SyncState w} {op : BufferCall} {t : List (KEvent w)}
  {ret : Option (BitVec w)} {flags : BitVec 32}

/-- No session comes with a manual mapping. -/
theorem AutoStarts.eq_nil (h : p.AutoStarts flags t) (hmanual : manualSync flags = true) :
    t = [] := by
  unfold AutoStarts autoSync at h
  simpa [hmanual] using h

theorem AutoStops.eq_nil (h : p.AutoStops flags t) (hmanual : manualSync flags = true) :
    t = [] := by
  unfold AutoStops autoSync at h
  simpa [hmanual] using h

/-- While it is mapped, the buffer is mapped manually. -/
def ManuallyMapped (s : SyncState w) : Prop :=
  s.mappedVirtualAddress ≠ 0 → manualSync s.mapFlags = true

/-- A map or an unmap of a buffer that is always mapped manually does not sync. -/
theorem manual_step (hnormalise : ∀ flags, manualSync (p.normalise flags) = manualSync flags)
    (hop : op.forwarded = true) (hmaps : MapsManually op) (hs : ManuallyMapped s)
    (h : p.Step s op t ret (some s')) :
    ManuallyMapped s' ∧ ∀ e ∈ t, e.call.isSync = false := by
  cases h with
  | @map flags errorNonNull t ret s' hstep =>
      have hmanual : manualSync (p.normalise flags) = true :=
        (hnormalise flags).trans (hmaps flags errorNonNull rfl)
      cases hstep with
      | redundant hmapped => exact ⟨fun _ => hs hmapped, List.forall_mem_nil _⟩
      | failed hunmapped errno t hsync =>
          refine ⟨fun hmapped => absurd hunmapped hmapped, ?_⟩
          rw [hsync.eq_nil hmanual, List.append_nil]
          exact List.forall_mem_cons.mpr ⟨rfl, storeEvents_isSync⟩
      | fresh hunmapped mapped t hsync =>
          refine ⟨fun _ => hmanual, ?_⟩
          rw [hsync.eq_nil hmanual]
          exact List.forall_mem_singleton.mpr rfl
  | unmap hstep =>
      cases hstep with
      | surplus hunmapped => exact ⟨hs, List.forall_mem_nil _⟩
      | decrement hmapped hmore => exact ⟨fun _ => hs hmapped, List.forall_mem_nil _⟩
      | last hmapped hone t hsync =>
          refine ⟨fun hagain => absurd rfl hagain, ?_⟩
          rw [hsync.eq_nil (hs hmapped)]
          exact List.forall_mem_singleton.mpr rfl
  | _ => cases hop

end MmapParams

/-- **No syncing at all.**  If a wrapped buffer of a dma-heap is only mapped for sessions
of the client's own, its cache is never synced, whatever sessions the client asks for. -/
theorem wrapped_manual_never_syncs {allocator : DmaHeapAllocator} {buffer : DmaHeapBuffer w}
    (hunmapped : buffer.mappedVirtualAddress = 0) {h : List (CallRecord w)}
    {s' : WrappedDmaBuffer w (DmaBuffer w)}
    (hs : (wrappedMachine forwardingFuncs).Steps (fun _ op _ => MapsManually op)
      (wrap (.dmaHeap allocator buffer)) h s') :
    ∀ e ∈ historyEvents h, e.call.isSync = false := by
  let m := (DmaBuffer.dmaHeap allocator buffer).view
  let p := buffer.params allocator
  have hrun : ∃ b s, s' = wrap b ∧ b.view = m.mmapBacked p s ∧ MmapParams.ManuallyMapped s ∧
      ∀ e ∈ historyEvents h, e.call.isSync = false := by
    refine hs.track_events (R := fun (events : List (KEvent w)) (u : WrappedDmaBuffer w (DmaBuffer w)) =>
      ∃ b s, u = wrap b ∧ b.view = m.mmapBacked p s ∧ MmapParams.ManuallyMapped s ∧
        ∀ e ∈ events, e.call.isSync = false) ?_
      ⟨_, buffer.sync, rfl, rfl, fun hmapped => absurd hunmapped hmapped, List.forall_mem_nil _⟩
    rintro events u r u' ⟨b, s, rfl, hb, hmanual, hsilent⟩ hmaps hcall
    cases hop : r.op.forwarded with
    | true =>
        obtain ⟨c, rfl, hstep⟩ := (wrapped_forwards hop).mp hcall
        obtain ⟨next, hview, hnext⟩ := step_mmapBacked hb hstep
        obtain ⟨s₁, rfl, hc⟩ := Option.map_eq_some_iff.mp hview.symm
        have hdone : p.Step s r.op r.events r.ret (some s₁) := MmapParams.step_done hnext
        obtain ⟨hmanual', hquiet⟩ :=
          MmapParams.manual_step manualSync_normaliseReadwriteAbsent hop hmaps hmanual hdone
        exact ⟨c, s₁, rfl, hc.symm, hmanual', List.forall_mem_append.mpr ⟨hsilent, hquiet⟩⟩
    | false =>
        obtain ⟨ht, -, rfl⟩ := (wrapped_silent_iff hop).mp hcall
        rw [ht, List.append_nil]
        exact ⟨b, s, rfl, hb, hmanual, hsilent⟩
  obtain ⟨b, s, -, -, -, hquiet⟩ := hrun
  exact hquiet

/-- The session that was lost did not sync. -/
theorem own_session_never_synced : ¬ ∃ e ∈ historyEvents ownSession, e.call.isSync = true := by
  have hs : (wrappedMachine forwardingFuncs).Steps (fun _ op _ => MapsManually op)
      (wrap cachedBuffer) ownSession (wrap ownSyncBuffer) := by
    refine .cons (fun flags errorNonNull hop => ?_) (.call _ (.ret _)) ?_
    · cases hop
      decide
    · exact .single (fun _ _ hop => (by cases hop)) (.ret _)
  rintro ⟨e, he, hsync⟩
  exact Bool.false_ne_true ((wrapped_manual_never_syncs rfl hs e he).symm.trans hsync)

end Manual

end ImxDmaBuffer
