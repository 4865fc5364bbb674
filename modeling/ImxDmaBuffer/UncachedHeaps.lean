import ImxDmaBuffer.AllocateSteps
import ImxDmaBuffer.Library.TraceErasure

/-!
# Cached and uncached dma-heap allocators

Whether a dma-heap allocator's memory is cached is decided by its constructor.
Caching adds sync ioctls to mapping, unmapping and deallocating and lets a client
ask for more of them; it must change nothing else.  So a buffer of an uncached
allocator behaves as one of a cached allocator does, with the sync calls erased:
the code of the two is compared function by function (`map_erases`,
`unmap_erases`, `deallocate_erases`, ...), and `dmaHeap_erasure` puts the
functions together.
-/

namespace ImxDmaBuffer

open CallProgram

variable {w : Nat}

/-- The allocator was created as a cached, or as an uncached one, by either
constructor. -/
inductive CreatedAs (w : Nat) (cached : Bool) (allocator : DmaHeapAllocator) : Prop
  | new (config : BuildConfig) (dmaHeapFd : Int) (heapFlags fdFlags : BitVec 32)
      (errorNonNull : Bool) (t : List (KEvent w))
      (hconfig : config.dmaHeapAllocatesUncachedMemory = !cached)
      (hrun : Runs (dmaHeapAllocatorNew config dmaHeapFd heapFlags fdFlags errorNonNull) t
        (.done (some allocator)))
  | newFromFd (dmaHeapFd : Int) (heapFlags fdFlags : BitVec 32) (isCachedMemoryHeap : Int)
      (t : List (KEvent w)) (hcached : (isCachedMemoryHeap != 0) = cached)
      (hrun : Runs (dmaHeapAllocatorNewFromFd dmaHeapFd heapFlags fdFlags isCachedMemoryHeap) t
        (.done allocator))

/-- The buffer was returned by an allocation. -/
def AllocatedBy (allocator : DmaHeapAllocator) (b : DmaBuffer w) : Prop :=
  ∃ config size alignment heapIdMask ambient errorNonNull t left,
    Runs (imxDmaBufferAllocate config (.dmaHeap allocator) size alignment heapIdMask ambient
      errorNonNull) t (.done (some b, left))

/-- The outcome of an mmap. -/
def mmapOutcome : KEvent w → Option (Except Errno (MappedAddress w))
  | ⟨.mmap _ _ _ _, answer⟩ => some answer
  | _ => none

/-- Two states of a buffer agree on the number of maps and the mapped address. -/
def SameMapping (c c' : Option (DmaBuffer w)) : Prop :=
  c.map DmaBuffer.mappingRefcount = c'.map DmaBuffer.mappingRefcount ∧
    c.map DmaBuffer.mappedVirtualAddress = c'.map DmaBuffer.mappedVirtualAddress

/-- The same mapping. The flags of a buffer that is not mapped do not matter. -/
structure MapState.Same (s s' : MapState w) : Prop where
  address : s.mappedVirtualAddress = s'.mappedVirtualAddress
  refcount : s.mappingRefcount = s'.mappingRefcount
  flags : s.mappedVirtualAddress ≠ 0 → s.mapFlags = s'.mapFlags

/-- The same mapping, and no session in the second state. -/
structure SyncState.SameButSync (s s' : SyncState w) : Prop where
  mapState : s.toMapState.Same s'.toMapState
  notStarted : s'.syncStarted = false

/-- The parameters of the buffer, were its memory not cached. -/
def MmapParams.uncached (p : MmapParams w) : MmapParams w := { p with isCached := false }

section Shared

variable {s s' : MapState w} {flags : BitVec 32}

/-- A result that may overflow is the same for the same exact value. -/
theorem intResult_erases {n n' : Int} (h : n = n') :
    Erases Call.isSync Eq (intResult (w := w) n) (intResult (w := w) n') := by
  subst h
  unfold intResult
  split
  · exact .ret rfl
  · exact .halt _

/-- A redundant map. -/
theorem redundantMap_erases (h : s.Same s') (hmapped : s.mappedVirtualAddress ≠ 0) :
    Erases Call.isSync (MapState.Same (w := w)) (s.redundantMap flags) (s'.redundantMap flags) := by
  unfold MapState.redundantMap
  rw [← h.flags hmapped, ← h.refcount]
  refine .require_bind Iff.rfl (fun _ => (intResult_erases rfl).bind ?_)
  intro n n' hn
  exact .ret ⟨h.address, hn, fun _ => rfl⟩

/-- A map that mmaps. Whether or not this succeeds, both store the flags. -/
theorem freshMap_erases {args : MmapArgs w} {errorNonNull : Bool} (h : s.Same s') :
    Erases Call.isSync (MapState.Same (w := w)) (s.freshMap args flags errorNonNull)
      (s'.freshMap args flags errorNonNull) := by
  unfold MapState.freshMap
  refine .perform_bind rfl (fun answer => ?_)
  cases answer with
  | error errno =>
      refine Erases.bind (R := fun _ _ => True) ?_
        (fun _ _ _ => .ret ⟨h.address, h.refcount, fun _ => rfl⟩)
      unfold storeError
      split
      · exact .call rfl (fun _ => .ret trivial)
      · exact .ret trivial
  | ok mapped => exact .ret ⟨rfl, rfl, fun _ => rfl⟩

end Shared

namespace MmapParams

variable {p : MmapParams w} {s s' : SyncState w}

/-- Beginning a session erases to nothing. -/
theorem startImpl_erases (h : s.SameButSync s') :
    Erases Call.isSync SyncState.SameButSync (p.startImpl s) (pure s') := by
  unfold startImpl
  refine .skip_bind rfl (fun _ => ?_)
  split
  · exact .skip_bind rfl (fun _ => .ret ⟨h.mapState, h.notStarted⟩)
  · exact .ret ⟨h.mapState, h.notStarted⟩

/-- Ending a session erases to nothing. -/
theorem stopImpl_erases (h : s.SameButSync s') :
    Erases Call.isSync SyncState.SameButSync (p.stopImpl s) (pure s') := by
  unfold stopImpl
  refine .skip_bind rfl (fun _ => ?_)
  split
  · exact .skip_bind rfl (fun _ => .ret ⟨h.mapState, h.notStarted⟩)
  · exact .ret ⟨h.mapState, h.notStarted⟩

/-- Stopping an explicit session erases to nothing on a mapped buffer. -/
theorem stopExplicit_erases (h : s.SameButSync s') (hmapped : s.mappedVirtualAddress ≠ 0) :
    Erases Call.isSync SyncState.SameButSync (p.stopExplicit s) (pure s') := by
  unfold stopExplicit
  simp only [require, if_pos hmapped, Prog.ret_bind]
  split
  · exact .ret h
  · split
    · exact .ret h
    · exact stopImpl_erases h

/-- What mapping adds to the mmap erases to nothing. -/
theorem autoStart_erases {flags : BitVec 32} (h : s.SameButSync s') :
    Erases Call.isSync SyncState.SameButSync (p.autoStart flags s)
      (p.uncached.autoStart flags s') := by
  change Erases _ _ _ (pure s')
  unfold autoStart
  split
  · exact startImpl_erases h
  · exact .ret h

/-- What unmapping adds to the munmap erases to nothing. -/
theorem autoStop_erases (h : s.SameButSync s') :
    Erases Call.isSync SyncState.SameButSync (p.autoStop s) (p.uncached.autoStop s') := by
  change Erases _ _ _ (pure s')
  unfold autoStop
  split
  · exact stopImpl_erases h
  · exact .ret h

/-- Asking for a session to start erases to nothing. -/
theorem start_erases (h : s.SameButSync s') :
    Erases Call.isSync SyncState.SameButSync (p.start s) (p.uncached.start s') := by
  change Erases _ _ _ (pure s')
  unfold start
  split
  · exact startImpl_erases h
  · exact .ret h

/-- Asking for a session to stop erases to nothing on a mapped buffer. -/
theorem stop_erases (h : s.SameButSync s') (hmapped : s.mappedVirtualAddress ≠ 0) :
    Erases Call.isSync SyncState.SameButSync (p.stop s) (p.uncached.stop s') := by
  change Erases _ _ _ (pure s')
  unfold stop
  split
  · exact stopExplicit_erases h hmapped
  · exact .ret h

/-- A map: the session that comes with it erases to nothing. -/
theorem map_erases {flags : BitVec 32} {errorNonNull : Bool} (h : s.SameButSync s') :
    Erases Call.isSync (fun x y => x.1 = y.1 ∧ x.2.SameButSync y.2)
      (p.map s flags errorNonNull) (p.uncached.map s' flags errorNonNull) := by
  unfold map
  refine .require_bind Iff.rfl (fun _ => ?_)
  rw [← h.mapState.address]
  by_cases hmapped : s.mappedVirtualAddress = 0
  · simp only [hmapped, ne_eq, not_true_eq_false, if_false]
    refine (freshMap_erases h.mapState).bind (fun r r' hr => ?_)
    have hnext : SyncState.SameButSync { s with toMapState := r } { s' with toMapState := r' } :=
      ⟨hr, h.notStarted⟩
    exact (autoStart_erases hnext).bind (fun x y hxy => .ret ⟨hxy.mapState.address, hxy⟩)
  · simp only [ne_eq, hmapped, not_false_eq_true, if_true]
    refine (redundantMap_erases h.mapState hmapped).bind (fun r r' hr => ?_)
    exact .ret ⟨hr.address, hr, h.notStarted⟩

/-- An unmap: so does the end of that session. -/
theorem unmap_erases (h : s.SameButSync s') :
    Erases Call.isSync SyncState.SameButSync (p.unmap s) (p.uncached.unmap s') := by
  unfold unmap
  refine .require_bind Iff.rfl (fun _ => ?_)
  rw [← h.mapState.address, ← h.mapState.refcount]
  by_cases hmapped : s.mappedVirtualAddress = 0
  · rw [if_pos hmapped, if_pos hmapped]
    exact .ret h
  · rw [if_neg hmapped, if_neg hmapped]
    refine (intResult_erases rfl).bind (fun n n' hn => ?_)
    subst hn
    have hcounted : SyncState.SameButSync { s with mappingRefcount := n }
        { s' with mappedVirtualAddress := s.mappedVirtualAddress, mappingRefcount := n } :=
      ⟨⟨rfl, rfl, h.mapState.flags⟩, h.notStarted⟩
    by_cases hzero : n = 0
    · simp only [hzero, ne_eq, not_true_eq_false, if_false] at hcounted ⊢
      refine (autoStop_erases hcounted).bind (fun x y hxy => ?_)
      rw [hxy.mapState.address]
      refine .perform_bind rfl (fun _ => .ret ?_)
      exact ⟨⟨rfl, hxy.mapState.refcount, fun hne => absurd rfl hne⟩, hxy.notStarted⟩
    · simp only [ne_eq, hzero, not_false_eq_true, if_true]
      exact .ret hcounted

/-- A deallocation, if the call that gives the memory back is not a sync call. -/
theorem deallocate_erases (hrelease : p.release.isSync = false) (h : s.SameButSync s') :
    Erases Call.isSync Eq (p.deallocate s) (p.uncached.deallocate s') := by
  unfold deallocate
  refine .require_bind Iff.rfl (fun _ => ?_)
  by_cases hmapped : s.mappedVirtualAddress = 0
  · have hmapped' : s'.mappedVirtualAddress = 0 := h.mapState.address ▸ hmapped
    simp only [hmapped, hmapped', ne_eq, not_true_eq_false, if_false]
    exact .perform_bind hrelease (fun _ => .ret rfl)
  · have hmapped' : ¬ s'.mappedVirtualAddress = 0 := h.mapState.address ▸ hmapped
    simp only [ne_eq, hmapped, hmapped', not_false_eq_true, if_true]
    rw [stopExplicit_of_not_started hmapped' h.notStarted]
    refine (stopExplicit_erases h hmapped).bind (fun x y hxy => ?_)
    have hforced : SyncState.SameButSync { x with mappingRefcount := 1 }
        { y with mappingRefcount := 1 } :=
      ⟨⟨hxy.mapState.address, rfl, hxy.mapState.flags⟩, hxy.notStarted⟩
    exact (unmap_erases hforced).bind (fun _ _ _ => .perform_bind hrelease (fun _ => .ret rfl))

/-- **One call.** Sessions are started and stopped only while the buffer is
mapped. -/
theorem step_erases (hrelease : p.release.isSync = false) {u u' : Option (SyncState w)}
    {op : BufferCall} {t : List (KEvent w)} (h : Option.Rel SyncState.SameButSync u u')
    (hsessions : p.SessionsWhileMapped u op t) :
    Erases Call.isSync (fun x y => x.1 = y.1 ∧ Option.Rel SyncState.SameButSync x.2 y.2)
      (p.step u op) (p.uncached.step u' op) := by
  cases h with
  | none => exact .halt _
  | some h =>
      cases op with
      | map flags errorNonNull =>
          exact (map_erases h).map (fun _ _ hxy => ⟨congrArg some hxy.1, .some hxy.2⟩)
      | unmap => exact (unmap_erases h).map (fun _ _ hxy => ⟨rfl, .some hxy⟩)
      | startSyncSession => exact (start_erases h).map (fun _ _ hxy => ⟨rfl, .some hxy⟩)
      | stopSyncSession =>
          obtain ⟨_, heq, hmapped⟩ := hsessions (Or.inr rfl)
          obtain rfl := Option.some.inj heq
          exact (stop_erases h hmapped).map (fun _ _ hxy => ⟨rfl, .some hxy⟩)
      | deallocate => exact (deallocate_erases hrelease h).map (fun _ _ _ => ⟨rfl, .none⟩)

end MmapParams

/-- The second buffer is the first one, were its memory not cached. -/
inductive SameButSync : DmaBuffer w → DmaBuffer w → Prop
  | dmaHeap {allocator allocator' : DmaHeapAllocator} {buffer buffer' : DmaHeapBuffer w}
      (hparams : buffer'.params allocator' = (buffer.params allocator).uncached)
      (hstate : buffer.sync.SameButSync buffer'.sync) :
      SameButSync (.dmaHeap allocator buffer) (.dmaHeap allocator' buffer')

theorem SameButSync.isMapped {b b' : DmaBuffer w} (h : SameButSync b b') :
    b.IsMapped ↔ b'.IsMapped := by
  cases h with
  | dmaHeap _ hstate =>
      change _ ≠ _ ↔ _ ≠ _
      rw [hstate.mapState.address]

theorem SameButSync.sameMapping {c c' : Option (DmaBuffer w)} (h : Option.Rel SameButSync c c') :
    SameMapping c c' := by
  cases h with
  | none => exact ⟨rfl, rfl⟩
  | some h =>
      cases h with
      | dmaHeap _ hstate =>
          exact ⟨congrArg some hstate.mapState.refcount,
            congrArg (some ∘ some) hstate.mapState.address⟩

/-- The buffers with other mutable parts. -/
theorem SameButSync.withState {allocator allocator' : DmaHeapAllocator}
    {buffer buffer' : DmaHeapBuffer w}
    (hparams : buffer'.params allocator' = (buffer.params allocator).uncached)
    {u u' : Option (SyncState w)} (h : Option.Rel SyncState.SameButSync u u') :
    Option.Rel SameButSync (u.map (buffer.withState allocator))
      (u'.map (buffer'.withState allocator')) := by
  cases h with
  | none => exact .none
  | some hstate => exact .some (.dmaHeap hparams hstate)

/-- **Calls on the two buffers are the same** but for the sync calls. -/
theorem sync_erasure :
    (bufferMachine w).Erasure Call.isSync SessionsWhileMapped (Option.Rel SameButSync) where
  answer c hsync := by
    cases c with
    | dmaBufIoctlPhys => exact ⟨.ok 0⟩
    | syncSessionStarts => exact ⟨()⟩
    | syncSessionStops => exact ⟨()⟩
    | _ => cases hsync
  guard _ _ h := by
    refine imp_congr_right (fun _ => ?_)
    cases h with
    | none => exact Iff.rfl
    | some h => simp [h.isMapped]
  step t h hsessions := by
    cases h with
    | none => exact .halt _
    | some h =>
        cases h with
        | @dmaHeap allocator allocator' buffer buffer' hparams hstate =>
            change Erases _ _ (bufferStep ((some buffer.sync).map (buffer.withState allocator)) _)
              (bufferStep ((some buffer'.sync).map (buffer'.withState allocator')) _)
            rw [DmaHeapBuffer.bufferStep_eq, DmaHeapBuffer.bufferStep_eq, hparams]
            refine (MmapParams.step_erases (t := t) rfl (.some hstate) ?_).map ?_
            · intro hop
              obtain ⟨_, heq, hmapped⟩ := hsessions hop
              obtain rfl := Option.some.inj heq
              exact ⟨_, rfl, hmapped⟩
            · exact fun x y hxy => ⟨hxy.1, SameButSync.withState hparams hxy.2⟩

section Uncached

/-- A call that is no sync call, and whose answer is known unless it is an mmap. -/
def Call.IsSyncFree (c : Call w) : Prop := c.isSync = false ∧ Settles mmapOutcome c

/-- Calls that answer nothing. -/
theorem settles_of_unit {c : Call w} (hunit : Subsingleton (c.Answer))
    (hnone : ∀ answer, mmapOutcome ⟨c, answer⟩ = none) : Settles mmapOutcome c :=
  Or.inr ⟨hunit, hnone⟩

theorem syncFree_storeError {code : Int} : (Call.storeError code : Call w).IsSyncFree :=
  ⟨rfl, settles_of_unit ⟨fun _ _ => rfl⟩ (fun _ => rfl)⟩

/-- The map code without caching. -/
theorem MapState.map_syncFree {args : MmapArgs w} {s : MapState w} {flags : BitVec 32}
    {errorNonNull : Bool} :
    (s.map args flags errorNonNull).Meets (.ofCalls Call.IsSyncFree) fun _ => True := by
  unfold MapState.map redundantMap freshMap
  refine .ite (fun _ => ?_) (fun _ => ?_)
  · exact .require_bind_mayStop trivial
      (fun _ => (intResult_meets fun _ => trivial).bind (fun _ _ => trivial))
  · refine .call_bind ⟨rfl, Or.inl ⟨id, Function.injective_id, fun _ => rfl⟩⟩ (fun answer _ => ?_)
    cases answer with
    | error errno => exact storeError_return_meets syncFree_storeError trivial
    | ok mapped => exact trivial

/-- The unmap code without caching. -/
theorem MapState.unmap_syncFree {length : BitVec w} {s : MapState w} :
    (s.unmap length).Meets (.ofCalls Call.IsSyncFree) fun _ => True := by
  unfold MapState.unmap
  refine .ite (fun _ => trivial) (fun _ => (intResult_meets fun _ => trivial).bind (fun n _ => ?_))
  refine .ite (fun _ => trivial) (fun _ => ?_)
  exact .call_bind ⟨rfl, settles_of_unit ⟨fun _ _ => rfl⟩ (fun _ => rfl)⟩ (fun _ _ => trivial)

/-- A buffer without caching on which no session was started, or none any more. -/
def NeverSyncs (u : Option (SyncState w)) : Prop := ∀ s, u = some s → s.syncStarted = false

/-- Without caching, no call issues a sync call or starts a session. -/
theorem MmapParams.step_syncFree {p : MmapParams w} (huncached : p.isCached = false)
    (hrelease : p.release.IsSyncFree) {u : Option (SyncState w)} {op : BufferCall}
    (hu : NeverSyncs u) :
    (p.step u op).Meets (.ofCalls Call.IsSyncFree) fun r => NeverSyncs r.2 := by
  cases u with
  | none => exact trivial
  | some s =>
      have hstarted : s.syncStarted = false := hu s rfl
      have hkept : ∀ r : MapState w, NeverSyncs (some ⟨r, s.syncStarted⟩) := by
        intro r s' heq
        obtain rfl := Option.some.inj heq
        exact hstarted
      cases op with
      | map flags errorNonNull =>
          refine .map ?_
          rw [map_uncached huncached]
          refine .require_bind_mayStop trivial (fun _ => ?_)
          exact MapState.map_syncFree.bind (fun r _ => hkept r)
      | unmap =>
          refine .map ?_
          rw [unmap_uncached huncached]
          refine .require_bind_mayStop trivial (fun _ => ?_)
          exact MapState.unmap_syncFree.bind (fun r _ => hkept r)
      | startSyncSession =>
          refine .map ?_
          unfold start
          rw [huncached]
          exact hu
      | stopSyncSession =>
          refine .map ?_
          unfold stop
          rw [huncached]
          exact hu
      | deallocate =>
          refine .map ?_
          rw [deallocate_of_not_started hstarted, unmap_uncached huncached]
          have hrest : ∀ r : Unit, (perform (S := kernel w) p.release >>= fun _ => pure r).Meets
              (.ofCalls Call.IsSyncFree) fun _ => NeverSyncs (none : Option (SyncState w)) :=
            fun _ => .call_bind hrelease (fun _ _ _ h => (by cases h))
          refine .require_bind_mayStop trivial (fun _ => .ite (fun _ => ?_) (fun _ => hrest ()))
          refine Prog.Meets.bind (Q := fun _ => True) ?_ (fun _ _ => hrest ())
          refine .require_bind_mayStop trivial (fun _ => ?_)
          exact MapState.unmap_syncFree.bind (fun _ _ => trivial)

/-- The buffers of uncached dma-heap allocators, and what is left of them. -/
inductive OfUncachedHeap : Option (DmaBuffer w) → Prop
  | live {allocator : DmaHeapAllocator} {buffer : DmaHeapBuffer w}
      (huncached : allocator.isCached = false) (hstarted : buffer.syncStarted = false) :
      OfUncachedHeap (some (.dmaHeap allocator buffer))
  | gone : OfUncachedHeap none

/-- No call on such a buffer issues a sync call. -/
theorem bufferStep_syncFree {c : Option (DmaBuffer w)} {op : BufferCall} (h : OfUncachedHeap c) :
    ((bufferMachine w).step c op).Meets (.ofCalls Call.IsSyncFree) fun r => OfUncachedHeap r.2 := by
  cases h with
  | gone => exact trivial
  | @live allocator buffer huncached hstarted =>
      have hstate : NeverSyncs (some buffer.sync) := by
        intro s heq
        obtain rfl := Option.some.inj heq
        exact hstarted
      change (bufferStep ((some buffer.sync).map (buffer.withState allocator)) _).Meets _ _
      rw [DmaHeapBuffer.bufferStep_eq]
      have hrelease : (buffer.params allocator).release.IsSyncFree :=
        ⟨rfl, settles_of_unit ⟨fun _ _ => rfl⟩ (fun _ => rfl)⟩
      refine .map ((MmapParams.step_syncFree huncached hrelease hstate).mono ?_)
      intro r hr
      change OfUncachedHeap (r.2.map _)
      cases hu : r.2 with
      | none => exact .gone
      | some s => exact .live huncached (hr s hu)

end Uncached

section Created

theorem CreatedAs.isCached {cached : Bool} {allocator : DmaHeapAllocator}
    (h : CreatedAs w cached allocator) : allocator.isCached = cached := by
  cases h with
  | new config dmaHeapFd heapFlags fdFlags errorNonNull t hconfig hrun =>
      have hflag : ∀ cached', allocator.isCached = !config.dmaHeapAllocatesUncachedMemory →
          config.dmaHeapAllocatesUncachedMemory = !cached' → allocator.isCached = cached' := by
        intro cached' hisCached hconfig'
        rw [hisCached, hconfig', Bool.not_not]
      refine hflag cached ?_ hconfig
      unfold dmaHeapAllocatorNew at hrun
      by_cases hneg : dmaHeapFd < 0
      · simp only [dif_pos hneg] at hrun
        obtain ⟨answer, rest, rfl, hanswer⟩ := runs_perform_bind_iff.mp hrun
        cases answer with
        | error errno =>
            cases (runs_storeError_return_iff.mp hanswer).2
        | ok fd =>
            obtain ⟨-, heq⟩ := runs_ret_done_iff.mp hanswer
            obtain rfl := Option.some.inj heq
            rfl
      · simp only [dif_neg hneg] at hrun
        obtain ⟨-, heq⟩ := runs_ret_done_iff.mp hrun
        obtain rfl := Option.some.inj heq
        rfl
  | newFromFd dmaHeapFd heapFlags fdFlags isCachedMemoryHeap t hcached hrun =>
      unfold dmaHeapAllocatorNewFromFd at hrun
      by_cases hfd : 0 < dmaHeapFd
      · rw [dif_pos hfd] at hrun
        obtain ⟨-, rfl⟩ := runs_ret_done_iff.mp hrun
        exact hcached
      · rw [dif_neg hfd] at hrun
        cases (runs_halt_iff.mp hrun).2

/-- An allocated buffer is not mapped, and no session was started. -/
theorem AllocatedBy.fresh {allocator : DmaHeapAllocator} {b : DmaBuffer w}
    (h : AllocatedBy allocator b) :
    ∃ buffer, b = .dmaHeap allocator buffer ∧ buffer.mappedVirtualAddress = 0 ∧
      buffer.mappingRefcount = 0 ∧ buffer.syncStarted = false := by
  obtain ⟨_, _, _, _, _, _, _, _, hrun⟩ := h
  obtain ⟨hfresh, hallocator, -⟩ := allocate_fresh hrun
  cases b with
  | dmaHeap allocator' buffer =>
      cases hallocator
      exact ⟨buffer, rfl, hfresh.mappedVirtualAddress _ rfl, hfresh.mappingRefcount,
        hfresh.syncStarted⟩
  | _ => cases hallocator

end Created

/-- **Caching only adds sync calls.**  Take a buffer of any dma-heap allocator, such
as one created as cached, and a buffer of an allocator created as uncached, with the
same descriptor and size.  A client that does not see the sync calls cannot tell them
apart: the same calls return the same, with the same other events, and stop at the
same faults.  For the same calls and the same outcomes of the mmaps, the uncached
history is the other one with the sync calls erased, and after every call the two
buffers have the same number of maps and the same mapped address.  The uncached
allocator issues no sync call, whatever the client does. -/
theorem uncached_erases_sync {allocator allocator' : DmaHeapAllocator} {b b' : DmaBuffer w}
    (huncached : CreatedAs w false allocator') (hb : AllocatedBy allocator b)
    (hb' : AllocatedBy allocator' b')
    (hsize : imxDmaBufferGetSize b = imxDmaBufferGetSize b')
    (hfd : imxDmaBufferGetFd b = imxDmaBufferGetFd b') :
    (bufferMachine w).ObsEq SessionsWhileMapped (erase Call.isSync) (some b) (some b') ∧
      (∀ h h' s s', (bufferMachine w).Steps SessionsWhileMapped (some b) h s →
        (bufferMachine w).Steps SessionsWhileMapped (some b') h' s' →
        h.map Record.op = h'.map Record.op →
        (historyEvents h).filterMap mmapOutcome = (historyEvents h').filterMap mmapOutcome →
        h' = h.map (Record.erase Call.isSync) ∧
          ∀ n c c', (bufferMachine w).Steps SessionsWhileMapped (some b) (h.take n) c →
            (bufferMachine w).Steps SessionsWhileMapped (some b') (h'.take n) c' →
            SameMapping c c') ∧
      ∀ G h' s', (bufferMachine w).Steps G (some b') h' s' →
        ∀ e ∈ historyEvents h', e.call.isSync = false := by
  obtain ⟨buffer, rfl, haddress, hrefcount, -⟩ := hb.fresh
  obtain ⟨buffer', rfl, haddress', hrefcount', hstarted'⟩ := hb'.fresh
  have hparams : buffer'.params allocator' = (buffer.params allocator).uncached := by
    have hsize : buffer.size = buffer'.size := hsize
    have hfd : buffer.dmabufFd = buffer'.dmabufFd := hfd
    simp only [DmaHeapBuffer.params, MmapParams.uncached, hsize, hfd, huncached.isCached]
  have hsame : Option.Rel SameButSync (some (.dmaHeap allocator buffer))
      (some (.dmaHeap allocator' buffer')) :=
    .some (.dmaHeap hparams ⟨⟨haddress.trans haddress'.symm, hrefcount.trans hrefcount'.symm,
      fun hmapped => absurd haddress hmapped⟩, hstarted'⟩)
  have hcalls : OfUncachedHeap (some (.dmaHeap allocator' buffer')) :=
    .live huncached.isCached hstarted'
  refine ⟨sync_erasure.obsEq hsame, ?_, ?_⟩
  · intro h h' s s' hs hs' hops houtcomes
    have hunseen : ∀ e : KEvent w, e.call.isSync = true → mmapOutcome e = none := by
      intro e hsync
      obtain ⟨c, answer⟩ := e
      cases c with
      | mmap => cases hsync
      | _ => rfl
    have herased : ∀ {h h' : List (CallRecord w)} {c c' : Option (DmaBuffer w)},
        (bufferMachine w).Steps SessionsWhileMapped (some (.dmaHeap allocator buffer)) h c →
        (bufferMachine w).Steps SessionsWhileMapped (some (.dmaHeap allocator' buffer')) h' c' →
        h.map Record.op = h'.map Record.op →
        (historyEvents h).filterMap mmapOutcome = (historyEvents h').filterMap mmapOutcome →
        h' = h.map (Record.erase Call.isSync) ∧ Option.Rel SameButSync c c' :=
      fun hc hc' => sync_erasure.eq_of_seen hunseen (fun _ hcall => hcall.2)
        (fun _ _ hc => bufferStep_syncFree hc) hc hc' hsame hcalls
    obtain ⟨rfl, -⟩ := herased hs hs' hops houtcomes
    refine ⟨rfl, fun n c c' hc hc' => ?_⟩
    have htake : (h.map (Record.erase Call.isSync)).take n =
        (h.take n).map (Record.erase Call.isSync) := List.map_take.symm
    rw [htake] at hc'
    have hprefix : (historyEvents (h.take n)).filterMap mmapOutcome =
        (historyEvents ((h.take n).map (Record.erase Call.isSync))).filterMap mmapOutcome := by
      rw [historyEvents_erase, filterMap_erase hunseen]
    refine SameButSync.sameMapping (herased hc hc' ?_ hprefix).2
    rw [List.map_map]
    rfl
  · intro G h' s' hs' e he
    exact ((hs'.meets (fun _ _ _ hc _ => bufferStep_syncFree hc)
      (fun _ _ _ _ _ _ => trivial) hcalls).1 e he).1

/-- The sample allocator, were its memory not cached. -/
def uncachedHeap : DmaHeapAllocator where
  dmaHeapFd := 3
  dmaHeapFdIsInternal := false
  heapFlags := 0
  fdFlags := 2
  isCached := false
  syncVfuncs := .noop
  dmaHeapFd_nonneg := cachedHeap.dmaHeapFd_nonneg
  syncVfuncs_eq := rfl

/-- A buffer of that allocator, as `allocate` returns it. -/
def uncachedBuffer : DmaBuffer 64 :=
  .dmaHeap uncachedHeap {
    mappedVirtualAddress := 0
    mapFlags := 0
    mappingRefcount := 0
    dmabufFd := 4
    physicalAddress := 0x80000000
    size := 4096
    syncStarted := false
    dmabufFd_pos := sample_dmabufFd_pos }

/-- The sample buffers of a cached and of an uncached allocator cannot be told apart. -/
theorem sample_buffers_alike :
    CreatedAs 64 true cachedHeap ∧ CreatedAs 64 false uncachedHeap ∧
      (bufferMachine 64).ObsEq SessionsWhileMapped (erase Call.isSync) (some cachedBuffer)
        (some uncachedBuffer) := by
  have hopened : Runs (S := kernel 64) (dmaHeapAllocatorNew recentKernelConfig (-1) 0 2 true)
      [⟨.openDevice "/dev/dma_heap/linux,cma" .rdwr, .ok 3⟩] (.done (some cachedHeap)) := by
    simp only [dmaHeapAllocatorNew, dif_pos (show (-1 : Int) < 0 by decide)]
    exact .call _ (.ret _)
  have hcached : CreatedAs 64 true cachedHeap := .new _ _ _ _ _ _ rfl hopened
  have huncached : CreatedAs 64 false uncachedHeap := .newFromFd 3 0 2 0 [] rfl (.ret _)
  have hb : AllocatedBy cachedHeap cachedBuffer := ⟨_, _, _, _, _, _, _, _, cachedBuffer_allocated⟩
  have hb' : AllocatedBy uncachedHeap uncachedBuffer :=
    ⟨recentKernelConfig, 4096, 0, 0, cleanAmbient, true,
      [⟨.dmaHeapIoctlAlloc 3 4096 0 2, .ok 4⟩, ⟨.dmaBufIoctlPhys 4, .ok 0x80000000⟩], 0,
      .call _ (.call _ (.ret _))⟩
  exact ⟨hcached, huncached, (uncached_erases_sync huncached hb hb' rfl rfl).1⟩

end ImxDmaBuffer
