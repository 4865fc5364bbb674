import ImxDmaBuffer.ReferenceCounting

/-!
# Forced and orderly teardown

A client may deallocate a buffer that is still mapped.  The deallocate functions
then overwrite the reference count and call the allocator's own unmap and stop
functions, past the vtable.  The orderly way is to stop the session, to unmap as
often as the buffer was mapped, and to deallocate then.  Both are the same
program: they issue the same calls, whatever the answers.
-/

namespace ImxDmaBuffer

open CallProgram

variable {w : Nat}

/-- Stop the session, unmap `n` times, and deallocate. -/
def orderlyTeardown (n : Nat) (b : DmaBuffer w) : Code w Unit := do
  let b ← imxDmaBufferStopSyncSession b
  let b ← times imxDmaBufferUnmap n b
  imxDmaBufferDeallocate b

namespace MmapParams

variable {p : MmapParams w}

/-- Where the assertions of the map function hold, those of the unmap and
deallocate functions hold as well. -/
def AssertsTogether (p : MmapParams w) : Prop :=
  p.mapAsserts = true → p.unmapAsserts = true ∧ p.deallocateAsserts = true

/-- What every history leaves behind: the count agrees with the calls and fits,
a mapped buffer has passed the assertions, and without caching no session is
ever begun. -/
structure Reached (p : MmapParams w) (a : MapSummary w) (s : SyncState w) : Prop where
  counts : p.Counts a s
  asserts : 0 < a.count → p.mapAsserts = true
  range : (a.count : Int) ≤ INT_MAX
  sync : p.isCached = false → s.syncStarted = false

/-- Calls that neither map nor unmap keep the counts. -/
theorem Counts.session {a : MapSummary w} {s s' : SyncState w} {op : BufferCall}
    {t : List (KEvent w)} {ret : Option (BitVec w)} (hs : p.Counts a s)
    (hop : op = .startSyncSession ∨ op = .stopSyncSession)
    (hsync : ∀ e ∈ t, e.call.isSync = true) (hsame : s'.toMapState = s.toMapState) :
    p.Counts (a.next ⟨op, t, ret⟩) s' := by
  have hmade : (mappingsMade t).getLast?.or a.mapping = a.mapping := by
    rw [(mappings_of_isSync hsync).1]
    rfl
  have hnext : a.next ⟨op, t, ret⟩ = a := by
    rcases hop with rfl | rfl
    · exact congrArg (MapSummary.mk a.count a.pointer) hmade
    · exact congrArg (MapSummary.mk a.count a.pointer) hmade
  rw [hnext]
  refine ⟨?_, ?_, ?_, ?_⟩
  · rw [hsame]
    exact hs.refcount
  · rw [hsame]
    exact hs.mapped
  · rw [hsame]
    exact hs.pointer
  · rw [hsame]
    exact hs.mapping

/-- A completed map leaves a count that fits an `int`. -/
theorem MapStep.fits {s s' : SyncState w} {flags : BitVec 32} {errorNonNull : Bool}
    {t : List (KEvent w)} {ret : BitVec w} (h : p.MapStep s flags errorNonNull t ret s')
    (hfits : s.mappingRefcount ≤ INT_MAX) : s'.mappingRefcount ≤ INT_MAX := by
  cases h with
  | redundant _ _ hmax => exact hmax
  | failed => exact hfits
  | fresh => exact (by decide : (1 : Int) ≤ INT_MAX)

/-- Without caching, a map begins no session. -/
theorem MapStep.stopped {s s' : SyncState w} {flags : BitVec 32} {errorNonNull : Bool}
    {t : List (KEvent w)} {ret : BitVec w} (h : p.MapStep s flags errorNonNull t ret s')
    (huncached : p.isCached = false) (hstopped : s.syncStarted = false) :
    s'.syncStarted = false := by
  have hauto : ∀ flags, p.autoSync flags = false := by simp [autoSync, huncached]
  cases h with
  | redundant => exact hstopped
  | failed => simp [hstopped, hauto]
  | fresh => simp [hstopped, hauto]

/-- An unmap begins no session. -/
theorem UnmapStep.stopped {s s' : SyncState w} {t : List (KEvent w)} (h : p.UnmapStep s t s')
    (hstopped : s.syncStarted = false) : s'.syncStarted = false := by
  cases h with
  | surplus => exact hstopped
  | decrement => exact hstopped
  | last => simp [hstopped]

/-- A call that leaves a buffer behind keeps all this. -/
theorem Reached.step {a : MapSummary w} {s s' : SyncState w} {op : BufferCall}
    {t : List (KEvent w)} {ret : Option (BitVec w)} (hs : p.Reached a s)
    (hrun : Runs (p.machine.step (some s) op) t (.done (ret, some s'))) :
    p.Reached (a.next ⟨op, t, ret⟩) s' := by
  have hrange := hs.range
  cases step_done hrun with
  | map hmap =>
      obtain ⟨_, hmapRun, -⟩ := runs_map_done_iff.mp hrun
      have hasserts := (runs_require_bind_iff.mp hmapRun).1
      have hcounts := (hs.counts.map hmap).1
      refine ⟨hcounts, fun _ => hasserts, ?_, fun huncached => hmap.stopped huncached
        (hs.sync huncached)⟩
      rw [← hcounts.refcount]
      exact hmap.fits (by rw [hs.counts.refcount]; exact hrange)
  | unmap hunmap =>
      have hcounts := (hs.counts.unmap hunmap).1
      have hless : (a.next ⟨.unmap, t, none⟩).count ≤ a.count := Nat.sub_le _ _
      exact ⟨hcounts, fun hpos => hs.asserts (by omega), by omega,
        fun huncached => hunmap.stopped (hs.sync huncached)⟩
  | startSyncSession hstart =>
      cases hstart with
      | ignored =>
          exact ⟨hs.counts.session (Or.inl rfl) (fun e he => by cases he) rfl, hs.asserts, hs.range,
            hs.sync⟩
      | begins hcached _ _ _ hsync =>
          refine ⟨hs.counts.session (Or.inl rfl) hsync.isSync rfl, hs.asserts, hs.range, ?_⟩
          intro huncached
          rw [huncached] at hcached
          cases hcached
  | stopSyncSession hstop =>
      cases hstop with
      | ignored =>
          exact ⟨hs.counts.session (Or.inr rfl) (fun e he => by cases he) rfl, hs.asserts, hs.range,
            hs.sync⟩
      | ends _ _ _ _ hsync =>
          exact ⟨hs.counts.session (Or.inr rfl) hsync.isSync rfl, hs.asserts, hs.range,
            fun _ => rfl⟩

/-- With more maps outstanding, an unmap only counts. -/
theorem unmap_eq_decrement {s : SyncState w} {n : Nat} (hasserts : p.unmapAsserts = true)
    (hmapped : s.mappedVirtualAddress ≠ 0) (hcount : s.mappingRefcount = (n + 2 : Nat))
    (hrange : s.mappingRefcount ≤ INT_MAX) :
    p.unmap s = .ret { s with mappingRefcount := (n + 1 : Nat) } := by
  have hless : s.mappingRefcount - 1 = ((n + 1 : Nat) : Int) := by omega
  have hfits : INT_MIN ≤ ((n + 1 : Nat) : Int) ∧ ((n + 1 : Nat) : Int) ≤ INT_MAX := by
    refine ⟨?_, by omega⟩
    unfold INT_MIN
    omega
  have hne : ((n + 1 : Nat) : Int) ≠ 0 := by omega
  simp only [unmap, require, if_pos hasserts, if_neg hmapped, hless, intResult, if_pos hfits,
    Prog.ret_bind, if_pos hne, Prog.pure_eq_ret]

/-- Unmapping as often as the buffer was mapped is one unmap that is forced. -/
theorem times_unmap {s : SyncState w} {n : Nat} (hasserts : p.unmapAsserts = true)
    (hmapped : s.mappedVirtualAddress ≠ 0) (hcount : s.mappingRefcount = (n + 1 : Nat))
    (hrange : s.mappingRefcount ≤ INT_MAX) :
    times p.unmap (n + 1) s = p.unmap { s with mappingRefcount := 1 } := by
  induction n generalizing s with
  | zero =>
      have hsame : { s with mappingRefcount := 1 } = s := by
        have hone : (1 : Int) = s.mappingRefcount := hcount.symm
        rw [hone]
      rw [hsame]
      exact Prog.bind_ret _
  | succ n ih =>
      have hnext := @ih { s with mappingRefcount := (n + 1 : Nat) } hmapped rfl
        (by change ((n + 1 : Nat) : Int) ≤ INT_MAX; omega)
      change p.unmap s >>= times p.unmap (n + 1) = _
      rw [unmap_eq_decrement hasserts hmapped hcount hrange, Prog.ret_bind, hnext]

/-- Giving back the memory is all that is left for an unmapped buffer. -/
theorem deallocate_unmapped {s : SyncState w} (hasserts : p.deallocateAsserts = true)
    (hunmapped : s.mappedVirtualAddress = 0) :
    p.deallocate s = perform (S := kernel w) p.release >>= fun _ => pure () := by
  have hnot : ¬ s.mappedVirtualAddress ≠ 0 := not_not.mpr hunmapped
  simp only [deallocate, require, if_pos hasserts, if_neg hnot, Prog.ret_bind]

/-- A forced unmap and then a deallocation. -/
theorem unmap_deallocate {s : SyncState w} (hasserts : p.deallocateAsserts = true)
    (hmapped : s.mappedVirtualAddress ≠ 0) :
    (p.unmap { s with mappingRefcount := 1 } >>= p.deallocate) =
      p.unmap { s with mappingRefcount := 1 } >>= fun _ =>
        perform (S := kernel w) p.release >>= fun _ => pure () := by
  refine bind_congr_of_runs (fun t s' hrun => deallocate_unmapped hasserts ?_)
  cases unmap_done hrun with
  | surplus hunmapped => exact absurd hunmapped hmapped
  | decrement _ hmore => exact absurd rfl hmore
  | last => rfl

/-- Without caching, the stop function of the vtable does what the allocator's
own one does on a mapped buffer: nothing. -/
theorem stop_eq_stopExplicit {s : SyncState w} (hmapped : s.mappedVirtualAddress ≠ 0)
    (hsync : p.isCached = false → s.syncStarted = false) : p.stop s = p.stopExplicit s := by
  unfold stop
  cases hcached : p.isCached with
  | true => rfl
  | false => exact (stopExplicit_of_not_started hmapped (hsync hcached)).symm

/-- **Teardown** of the mutable part, with `n + 1` maps outstanding. -/
theorem orderly_eq_forced {s : SyncState w} {n : Nat} (hunmap : p.unmapAsserts = true)
    (hdeallocate : p.deallocateAsserts = true) (hmapped : s.mappedVirtualAddress ≠ 0)
    (hcount : s.mappingRefcount = (n + 1 : Nat)) (hrange : s.mappingRefcount ≤ INT_MAX)
    (hsync : p.isCached = false → s.syncStarted = false) :
    (p.stop s >>= fun s => times p.unmap (n + 1) s >>= p.deallocate) = p.deallocate s := by
  have hforced : p.deallocate s = p.stopExplicit s >>= fun s =>
      p.unmap { s with mappingRefcount := 1 } >>= fun _ =>
        perform (S := kernel w) p.release >>= fun _ => pure () := by
    simp only [deallocate, require, if_pos hdeallocate, if_pos hmapped, Prog.ret_bind]
  rw [hforced, stop_eq_stopExplicit hmapped hsync]
  refine bind_congr_of_runs (fun t s' hrun => ?_)
  -- The stop changes neither the address nor the count.
  have hsame : s'.toMapState = s.toMapState := by
    obtain ⟨-, hstop⟩ := stopExplicit_done hrun
    split at hstop
    · rw [hstop.2]
    · rw [hstop.2]
  have hmapped' : s'.mappedVirtualAddress ≠ 0 := by rwa [hsame]
  have hcount' : s'.mappingRefcount = (n + 1 : Nat) := by rw [hsame, hcount]
  have hrange' : s'.mappingRefcount ≤ INT_MAX := by rwa [hsame]
  rw [times_unmap hunmap hmapped' hcount' hrange', unmap_deallocate hdeallocate hmapped']

end MmapParams

/-- In every allocator, what the map function asserts covers what the unmap and
deallocate functions assert. -/
theorem assertsTogether_of_view {b : DmaBuffer w} {m : BufferModel w} {p : MmapParams w}
    {s : SyncState w} (hb : b.view = m.mmapBacked p s) : p.AssertsTogether := by
  have hmapping := congrArg BufferModel.mapping hb
  cases b with
  | dmaHeap allocator buffer =>
      obtain ⟨rfl, -⟩ := Mapping.mmapBacked.inj hmapping
      exact fun h => ⟨h, h⟩
  | ion allocator buffer =>
      obtain ⟨rfl, -⟩ := Mapping.mmapBacked.inj hmapping
      exact fun h => ⟨h, h⟩
  | dwl => cases hmapping
  | ipu allocator buffer =>
      obtain ⟨rfl, -⟩ := Mapping.mmapBacked.inj hmapping
      exact fun h => ⟨(Bool.and_eq_true_iff.mp h).2, h⟩
  | g2d => cases hmapping
  | pxp allocator buffer =>
      obtain ⟨rfl, -⟩ := Mapping.mmapBacked.inj hmapping
      exact fun h => ⟨(Bool.and_eq_true_iff.mp h).2, h⟩

/-- Orderly teardown, in the terms of the model. -/
theorem orderlyTeardown_view (n : Nat) (b : DmaBuffer w) :
    orderlyTeardown n b =
      b.view.stop >>= fun m => times BufferModel.unmap n m >>= BufferModel.deallocate := by
  unfold orderlyTeardown
  rw [view_stop, bind_map_left]
  simp only [times_view view_unmap, bind_map_left, view_deallocate]

/-- Orderly teardown of an mmap-based buffer is that of its mutable part. -/
theorem orderlyTeardown_mmapBacked {b : DmaBuffer w} {m : BufferModel w} {p : MmapParams w}
    {s : SyncState w} (hb : b.view = m.mmapBacked p s) (n : Nat) :
    orderlyTeardown n b = p.stop s >>= fun s => times p.unmap n s >>= p.deallocate := by
  have hstop : (m.mmapBacked p s).stop = m.mmapBacked p <$> p.stop s := rfl
  have hunmap : ∀ s, (m.mmapBacked p s).unmap = m.mmapBacked p <$> p.unmap s := fun _ => rfl
  have hdeallocate : ∀ s, (m.mmapBacked p s).deallocate = p.deallocate s := fun _ => rfl
  rw [orderlyTeardown_view, hb, hstop, bind_map_left]
  simp only [times_view hunmap, bind_map_left, hdeallocate]

/-- **Forced teardown is orderly teardown**, for every mmap-based buffer and every
history that leaves it mapped at least once. -/
theorem forced_teardown_eq_orderly {config : BuildConfig} {allocator : Allocator w}
    {size alignment : BitVec w} {heapIdMask left : BitVec 32} {ambient : Ambient}
    {errorNonNull : Bool} {t : List (KEvent w)} {b b' : DmaBuffer w}
    (halloc : Runs (imxDmaBufferAllocate config allocator size alignment heapIdMask ambient
      errorNonNull) t (.done (some b, left)))
    (hmmap : b.IsMmapBased) {h : List (CallRecord w)}
    (hs : (bufferMachine w).Steps SessionsWhileMapped (some b) h (some b'))
    (hpos : 1 ≤ (mapSummary h).count) :
    orderlyTeardown (mapSummary h).count b' = imxDmaBufferDeallocate b' := by
  have hfresh := (allocate_fresh halloc).1
  obtain ⟨address, hmapped⟩ := Option.isSome_iff_exists.mp hmmap
  obtain ⟨p, s, hb⟩ := view_mmapBacked hmapped
  have hzero : s.mappedVirtualAddress = 0 :=
    hfresh.mappedVirtualAddress _ (mappedVirtualAddress_of_view hb)
  have hinit : p.Reached ⟨0, none, none⟩ s := by
    refine ⟨⟨?_, ?_, fun h => absurd h (by simp), fun h => absurd h (by simp)⟩,
      fun h => absurd h (by simp), (by decide : (0 : Int) ≤ INT_MAX), fun _ => ?_⟩
    · rw [← mappingRefcount_of_view hb, hfresh.mappingRefcount]
      rfl
    · simp [hzero]
    · rw [← syncStarted_of_view hb, hfresh.syncStarted]
  obtain ⟨u, hsteps, hu⟩ := steps_mmapBacked hb (K := fun _ _ _ => True)
    (fun _ _ _ _ _ _ => trivial) hs
  obtain ⟨s', rfl, hb'⟩ : ∃ s', u = some s' ∧ b'.view = b.view.mmapBacked p s' := by
    obtain ⟨s', hsome, heq⟩ := Option.map_eq_some_iff.mp hu.symm
    exact ⟨s', hsome, heq.symm⟩
  have hreached := Machine.Steps.track MapSummary.next
    (R := fun a u => ∀ s, u = some s → p.Reached a s)
    (fun a u r u' hR _ hrun s' hsome => by
      cases u with
      | none => cases (runs_halt_iff.mp hrun).2
      | some s =>
          rw [hsome] at hrun
          exact (hR s rfl).step hrun) hsteps
    (fun _ hsome => by rwa [← Option.some.inj hsome]) s' rfl
  obtain ⟨n, hn⟩ : ∃ n, (mapSummary h).count = n + 1 := ⟨_, (Nat.sub_add_cancel hpos).symm⟩
  obtain ⟨hunmap, hdeallocate⟩ := assertsTogether_of_view hb' (hreached.asserts hpos)
  have hcount : s'.mappingRefcount = (n + 1 : Nat) := by
    rw [hreached.counts.refcount, ← hn]
    rfl
  have hrange : s'.mappingRefcount ≤ INT_MAX := by
    rw [hreached.counts.refcount]
    exact hreached.range
  rw [hn, orderlyTeardown_mmapBacked hb', ← view_deallocate, hb']
  exact MmapParams.orderly_eq_forced hunmap hdeallocate (hreached.counts.mapped.mpr hpos) hcount
    hrange hreached.sync

/-- The cached sample buffer, mapped twice for manual syncing, with a session
begun. -/
def twiceMappedBuffer : DmaBuffer 64 :=
  .dmaHeap cachedHeap {
    mappedVirtualAddress := 0x10000
    mapFlags := mappingFlagWrite ||| mappingFlagManualSync
    mappingRefcount := 2
    dmabufFd := 4
    physicalAddress := 0x80000000
    size := 4096
    syncStarted := true
    dmabufFd_pos := sample_dmabufFd_pos }

/-- A history that leads there. -/
def twiceMappedHistory : List (CallRecord 64) :=
  [⟨.map (mappingFlagWrite ||| mappingFlagManualSync) true,
      [⟨.mmap 4096 protWrite 4 0, .ok ⟨0x10000, sample_address_ne_null⟩⟩], some 0x10000⟩,
    ⟨.map mappingFlagWrite true, [], some 0x10000⟩,
    ⟨.startSyncSession, [⟨.syncSessionStarts 4, ()⟩], none⟩]

/-- Deallocating that buffer is stopping the session, unmapping twice and
deallocating. -/
theorem twice_mapped_teardown :
    orderlyTeardown 2 twiceMappedBuffer = imxDmaBufferDeallocate twiceMappedBuffer := by
  have hnone : ∀ (c : Option (DmaBuffer 64)) flags errorNonNull t,
      SessionsWhileMapped c (.map flags errorNonNull) t := by
    intro c flags errorNonNull t hop
    rcases hop with hop | hop <;> cases hop
  have hs : (bufferMachine 64).Steps SessionsWhileMapped (some cachedBuffer) twiceMappedHistory
      (some twiceMappedBuffer) := by
    refine .cons (hnone _ _ _ _) (.call _ (.ret _)) (.cons (hnone _ _ _ _) (.ret _)
      (.single ?_ (.call _ (.ret _))))
    exact fun _ => ⟨_, rfl, sample_address_ne_null⟩
  exact forced_teardown_eq_orderly cachedBuffer_allocated rfl hs (by decide)

end ImxDmaBuffer
