import ImxDmaBuffer.BufferHistories

/-!
# A map whose mmap fails

A failed map should leave no trace: `NULL` is returned, nothing but the `mmap`
was issued, and whatever the client does with the buffer afterwards goes as if
the failed call had not been made.  The failing path stores the new flags, which
does no harm because nothing reads the flags of an unmapped buffer.  In the
dma-heap allocator it also begins a sync session, which shows at once when the
flags ask for reading, and otherwise in a later mapping.
-/

namespace ImxDmaBuffer

open CallProgram

variable {w : Nat}

/-- The trace contains an `mmap` that failed. -/
def MmapFailed (t : List (KEvent w)) : Prop :=
  ∃ length prot fd offset errno, ⟨.mmap length prot fd offset, .error errno⟩ ∈ t

/-- Whenever the `mmap` of a map with these flags fails, the map returns `NULL`,
issued no other kernel call, and left a buffer that cannot be told apart from
the one before. -/
def FailedMapIsNoop (b : DmaBuffer w) (flags : BitVec 32) : Prop :=
  ∀ errorNonNull t ret b', Runs (imxDmaBufferMap b flags errorNonNull) t (.done (ret, b')) →
    MmapFailed t →
      ret = 0 ∧ (∃ e, kernelEvents t = [e]) ∧
        (bufferMachine w).ObsEq SessionsWhileMapped kernelEvents (some b) (some b')

namespace MmapParams

variable {p : MmapParams w}

/-- An unmapped buffer's flags are overwritten before they are read. -/
theorem map_mapFlags {s : SyncState w} (hunmapped : s.mappedVirtualAddress = 0)
    (mapFlags flags : BitVec 32) (errorNonNull : Bool) :
    p.map { s with mapFlags := mapFlags } flags errorNonNull = p.map s flags errorNonNull := by
  have hnot : ¬ s.mappedVirtualAddress ≠ 0 := not_not.mpr hunmapped
  simp only [map, if_neg hnot]
  rfl

theorem unmap_unmapped {s : SyncState w} (hunmapped : s.mappedVirtualAddress = 0) :
    p.unmap s = (fun _ => s) <$> assertThat (p.unmapAsserts = true) := by
  simp only [unmap, hunmapped, if_true, bind_pure_comp]

theorem deallocate_mapFlags {s : SyncState w} (hunmapped : s.mappedVirtualAddress = 0)
    (mapFlags : BitVec 32) :
    p.deallocate { s with mapFlags := mapFlags } = p.deallocate s := by
  simp only [deallocate, hunmapped, ne_eq, not_true_eq_false, if_false]

/-- Unmapping an unmapped buffer does nothing. -/
theorem step_unmap_unmapped {s : SyncState w} (hunmapped : s.mappedVirtualAddress = 0) :
    p.step (some s) .unmap = (fun _ => (none, some s)) <$> assertThat (p.unmapAsserts = true) := by
  change (fun s => (none, some s)) <$> p.unmap s = _
  rw [unmap_unmapped hunmapped, Functor.map_map]

/-- No other call that is made on an unmapped buffer reads its flags. -/
theorem step_mapFlags {s : SyncState w} (hunmapped : s.mappedVirtualAddress = 0)
    (mapFlags : BitVec 32) {op : BufferCall} {t : List (KEvent w)}
    (hguard : p.SessionsWhileMapped (some s) op t) (hop : op ≠ .unmap) :
    p.step (some { s with mapFlags := mapFlags }) op = p.step (some s) op := by
  have hnosession : ¬ (op = .startSyncSession ∨ op = .stopSyncSession) := by
    intro hsession
    obtain ⟨_, heq, hmapped⟩ := hguard hsession
    obtain rfl := Option.some.inj heq
    exact hmapped hunmapped
  cases op with
  | map flags errorNonNull =>
      change Prod.map some some <$> p.map _ flags errorNonNull = _
      rw [map_mapFlags hunmapped]
      rfl
  | unmap => exact absurd rfl hop
  | startSyncSession => exact absurd (Or.inl rfl) hnosession
  | stopSyncSession => exact absurd (Or.inr rfl) hnosession
  | deallocate =>
      change (fun _ => (none, none)) <$> p.deallocate _ = _
      rw [deallocate_mapFlags hunmapped]
      rfl

/-- The two states agree except for the flags of an unmapped buffer. -/
def SameButFlags (u u' : Option (SyncState w)) : Prop :=
  u = u' ∨ ∃ s mapFlags, s.mappedVirtualAddress = 0 ∧ u = some s ∧
    u' = some { s with mapFlags := mapFlags }

theorem SameButFlags.symm {u u' : Option (SyncState w)} (h : SameButFlags u u') :
    SameButFlags u' u := by
  rcases h with rfl | ⟨s, mapFlags, hunmapped, rfl, rfl⟩
  · exact Or.inl rfl
  · exact Or.inr ⟨{ s with mapFlags := mapFlags }, s.mapFlags, hunmapped, rfl, rfl⟩

/-- A step does not tell such states apart. -/
theorem simulation_sameButFlags :
    p.machine.Simulation p.SessionsWhileMapped SameButFlags where
  guard := by
    intro u u' op t h hguard hop
    obtain ⟨s, rfl, hmapped⟩ := hguard hop
    rcases h with rfl | ⟨_, _, hunmapped, heq, _⟩
    · exact ⟨s, rfl, hmapped⟩
    · cases heq
      exact absurd hunmapped hmapped
  done := by
    intro u u' op t ret v h hguard hrun
    rcases h with rfl | ⟨s, mapFlags, hunmapped, rfl, rfl⟩
    · exact ⟨v, hrun, Or.inl rfl⟩
    · by_cases hop : op = .unmap
      · subst hop
        change Runs (p.step (some s) .unmap) t _ at hrun
        rw [step_unmap_unmapped hunmapped] at hrun
        obtain ⟨_, hassert, heq⟩ := runs_map_done_iff.mp hrun
        obtain ⟨rfl, rfl⟩ := Prod.mk.inj heq
        refine ⟨some { s with mapFlags := mapFlags }, ?_,
          Or.inr ⟨s, mapFlags, hunmapped, rfl, rfl⟩⟩
        change Runs (p.step (some { s with mapFlags := mapFlags }) .unmap) t _
        rw [step_unmap_unmapped (by exact hunmapped)]
        exact runs_map_done_iff.mpr ⟨(), hassert, rfl⟩
      · refine ⟨v, ?_, Or.inl rfl⟩
        change Runs (p.step _ op) t _
        rwa [step_mapFlags hunmapped mapFlags hguard hop]
  halted := by
    intro u u' op t fault h hguard hrun
    rcases h with rfl | ⟨s, mapFlags, hunmapped, rfl, rfl⟩
    · exact hrun
    · change Runs (p.step (some { s with mapFlags := mapFlags }) op) t (.halted fault)
      by_cases hop : op = .unmap
      · subst hop
        change Runs (p.step (some s) .unmap) t (.halted fault) at hrun
        rw [step_unmap_unmapped hunmapped, runs_map_halted_iff] at hrun
        rw [step_unmap_unmapped (by exact hunmapped), runs_map_halted_iff]
        exact hrun
      · rwa [step_mapFlags hunmapped mapFlags hguard hop]

/-- Nobody can tell apart two states that differ in the flags of an unmapped
buffer. -/
theorem obsEq_mapFlags {s : SyncState w} (hunmapped : s.mappedVirtualAddress = 0)
    (mapFlags : BitVec 32) :
    p.machine.ObsEq p.SessionsWhileMapped kernelEvents (some s)
      (some { s with mapFlags := mapFlags }) := by
  exact Machine.ObsEq.of_simulation simulation_sameButFlags SameButFlags.symm
    (Or.inr ⟨s, mapFlags, hunmapped, rfl, rfl⟩)

/-- The kernel's part of a session start is its ioctl. -/
theorem kernelEvents_startsSession {flags : BitVec 32} {t : List (KEvent w)}
    (h : p.StartsSession flags t) : p.SyncIoctl (reads flags) (kernelEvents t) := by
  obtain ⟨rest, rfl, hioctl⟩ := h
  have hrest : kernelEvents rest = rest := by
    unfold SyncIoctl at hioctl
    by_cases hreads : reads flags = true
    · rw [if_pos hreads] at hioctl
      obtain ⟨answer, rfl⟩ := hioctl
      rfl
    · rw [if_neg hreads] at hioctl
      rw [hioctl]
      rfl
  rw [kernelEvents_cons, if_neg (by exact Bool.false_ne_true), hrest]
  exact hioctl

/-- A session start contains no mmap. -/
theorem not_mmapFailed_autoStarts {flags : BitVec 32} {t : List (KEvent w)}
    (h : p.AutoStarts flags t) : ¬ MmapFailed t := by
  intro hfailed
  obtain ⟨length, prot, fd, offset, errno, hmem⟩ := hfailed
  have hsync := h.isSync _ hmem
  cases hsync

/-- **Harmless failures.**  When the failing map begins no session, or begins one
that is begun already without touching the cache, it only changes the flags. -/
theorem failed_map_changes_flags {s s' : SyncState w} {flags : BitVec 32} {errorNonNull : Bool}
    {t : List (KEvent w)} {ret : BitVec w} (hunmapped : s.mappedVirtualAddress = 0)
    (hharmless : p.autoSync (p.normalise flags) = true →
      s.syncStarted = true ∧ reads (p.normalise flags) = false)
    (hrun : Runs (p.map s flags errorNonNull) t (.done (ret, s'))) (hfailed : MmapFailed t) :
    ret = 0 ∧ (∃ e, kernelEvents t = [e]) ∧ s' = { s with mapFlags := p.normalise flags } := by
  cases map_done hrun with
  | redundant hmapped => exact absurd hunmapped hmapped
  | fresh _ mapped sync hsync =>
      obtain ⟨length, prot, fd, offset, errno, hmem⟩ := hfailed
      rcases List.mem_cons.mp hmem with heq | hmem
      · cases heq
      · exact absurd ⟨length, prot, fd, offset, errno, hmem⟩ (not_mmapFailed_autoStarts hsync)
  | failed _ errno sync hsync =>
      by_cases hauto : p.autoSync (p.normalise flags) = true
      · obtain ⟨hstarted, hreads⟩ := hharmless hauto
        rw [AutoStarts, if_pos hauto] at hsync
        have hnone := kernelEvents_startsSession hsync
        rw [SyncIoctl, hreads, if_neg Bool.false_ne_true] at hnone
        refine ⟨rfl, ⟨⟨.mmap p.args.length (mmapProt (p.normalise flags)) p.args.fd p.args.offset,
          .error errno⟩, ?_⟩, ?_⟩
        · rw [kernelEvents_cons, kernelEvents_append, kernelEvents_storeEvents, hnone]
          rfl
        · rw [hauto, hstarted]
          rfl
      · rw [AutoStarts, if_neg hauto] at hsync
        refine ⟨rfl, ⟨⟨.mmap p.args.length (mmapProt (p.normalise flags)) p.args.fd p.args.offset,
          .error errno⟩, ?_⟩, ?_⟩
        · rw [hsync, kernelEvents_cons, kernelEvents_append, kernelEvents_storeEvents]
          rfl
        · simp [hauto]

/-- A session that was begun while the buffer was not mapped stays begun when
the buffer is mapped. -/
theorem MapStep.syncStarted {s s' : SyncState w} {flags : BitVec 32} {errorNonNull : Bool}
    {t : List (KEvent w)} {ret : BitVec w} (h : p.MapStep s flags errorNonNull t ret s')
    (hstarted : s.syncStarted = true) : s'.syncStarted = true := by
  cases h with
  | redundant => exact hstarted
  | failed => simp [hstarted]
  | fresh => simp [hstarted]

/-- Once a session is begun, mapping and then starting one issues nothing for
the start. -/
theorem start_silent_of_begun {s : SyncState w} {finish : Option (SyncState w)}
    {G : p.machine.Guard} {flags : BitVec 32} {errorNonNull : Bool} {t t' : List (KEvent w)}
    {ret ret' : Option (BitVec w)} (hstarted : s.syncStarted = true)
    (hs : p.machine.Steps G (some s)
      [⟨.map flags errorNonNull, t, ret⟩, ⟨.startSyncSession, t', ret'⟩] finish) : t' = [] := by
  obtain ⟨middle, -, hmap, tail⟩ := Machine.steps_cons_iff.mp hs
  obtain ⟨_, -, hstart, -⟩ := Machine.steps_cons_iff.mp tail
  cases step_done hmap with
  | map hmapStep =>
      have hbegun := hmapStep.syncStarted hstarted
      cases step_done hstart with
      | startSyncSession hstep =>
          cases hstep with
          | ignored => rfl
          | begins _ hstopped => simp [hbegun] at hstopped

/-- So a client that maps and then starts a session does not see it start. -/
theorem not_shows_start_of_begun {s : SyncState w} (hstarted : s.syncStarted = true)
    {G : p.machine.Guard} {flags : BitVec 32} {errorNonNull : Bool} {seen rest : List (KEvent w)}
    {e : KEvent w} {ret ret' : Option (BitVec w)} :
    ¬ p.machine.Shows G kernelEvents (some s)
      [(.map flags errorNonNull, seen, ret), (.startSyncSession, e :: rest, ret')] .running := by
  intro hshows
  obtain ⟨h, finish, hsteps, hlog, -⟩ := hshows
  obtain ⟨⟨op, t, _⟩, tail, rfl, hfirst, htail⟩ := List.map_eq_cons_iff.mp hlog.symm
  obtain ⟨⟨op', t', _⟩, tail, rfl, hsecond, hnil⟩ := List.map_eq_cons_iff.mp htail
  obtain rfl := List.map_eq_nil_iff.mp hnil
  obtain ⟨rfl, -⟩ := Prod.mk.inj hfirst
  obtain ⟨rfl, hevents⟩ := Prod.mk.inj hsecond
  have hsilent : t' = [] := start_silent_of_begun hstarted hsteps
  rw [hsilent] at hevents
  cases (Prod.mk.inj hevents).1

/-- When no session is begun, a client that maps with `MANUAL_SYNC` and then starts
a session sees it start. -/
theorem shows_start_of_stopped (hw : 0 < w) {s : SyncState w} {flags : BitVec 32}
    (hcached : p.isCached = true) (hasserts : p.mapAsserts = true)
    (hmanual : manualSync (p.normalise flags) = true) (hreads : reads (p.normalise flags) = true)
    (hunmapped : s.mappedVirtualAddress = 0) (hstopped : s.syncStarted = false) :
    ∃ seen ret, p.machine.Shows p.SessionsWhileMapped kernelEvents (some s)
      [(.map flags false, seen, ret),
        (.startSyncSession, [⟨.dmaBufIoctlPhys p.args.fd, .ok 0⟩], none)] .running := by
  have hone : 1#w ≠ 0 := by
    intro h
    have hnat := congrArg BitVec.toNat h
    simp at hnat
    omega
  let mmapEvent : KEvent w :=
    ⟨.mmap p.args.length (mmapProt (p.normalise flags)) p.args.fd p.args.offset, .ok ⟨1#w, hone⟩⟩
  let ioctlEvent : KEvent w := ⟨.dmaBufIoctlPhys p.args.fd, .ok 0⟩
  let first : CallRecord w := ⟨.map flags false, [mmapEvent], some 1#w⟩
  let second : CallRecord w :=
    ⟨.startSyncSession, [⟨.syncSessionStarts p.args.fd, ()⟩, ioctlEvent], none⟩
  let middle : SyncState w := ⟨⟨1#w, p.normalise flags, 1⟩, false⟩
  have hfirst : Runs (p.step (some s) first.op) first.events (.done (first.ret, some middle)) := by
    refine runs_map_done_iff.mpr ⟨(1#w, middle), map_runs hasserts hunmapped ?_, rfl⟩
    have hauto : p.autoSync (p.normalise flags) = false := by simp [autoSync, hmanual]
    have hstep := @MapStep.fresh w p s flags false hunmapped ⟨1#w, hone⟩ []
      (by rw [AutoStarts, hauto]; rfl)
    rwa [hauto, hstopped] at hstep
  have hsecond : Runs (p.step (some middle) second.op) second.events
      (.done (second.ret, some { middle with syncStarted := true })) := by
    refine runs_map_done_iff.mpr ⟨{ middle with syncStarted := true }, ?_, rfl⟩
    have hbegins : (p.isCached && !middle.syncStarted && manualSync middle.mapFlags) = true := by
      simp [middle, hcached, hmanual]
    rw [start, if_pos hbegins, runs_startImpl_iff]
    refine ⟨⟨[ioctlEvent], rfl, ?_⟩, rfl⟩
    rw [SyncIoctl, if_pos (by simp [middle, hreads])]
    exact ⟨_, rfl⟩
  refine ⟨kernelEvents first.events, first.ret, [first, second],
    some { middle with syncStarted := true }, ?_, rfl, Or.inl rfl⟩
  refine .cons ?_ hfirst (.cons ?_ hsecond (.nil _))
  · intro hop
    simp [first] at hop
  · exact fun _ => ⟨middle, rfl, hone⟩

/-- A client that maps with `MANUAL_SYNC` and starts a session sees the session
start exactly when none was begun before. -/
theorem not_obsEq_of_begun (hw : 0 < w) {s : SyncState w} (mapFlags : BitVec 32)
    (hcached : p.isCached = true) (hasserts : p.mapAsserts = true)
    (hnormalise : p.normalise = normaliseReadwriteAbsent)
    (hunmapped : s.mappedVirtualAddress = 0) (hstopped : s.syncStarted = false) :
    ¬ p.machine.ObsEq p.SessionsWhileMapped kernelEvents (some s)
      (some { s with mapFlags := mapFlags, syncStarted := true }) := by
  intro hobs
  have hflags : p.normalise (mappingFlagRead ||| mappingFlagManualSync) =
      mappingFlagRead ||| mappingFlagManualSync := by
    rw [hnormalise]
    decide
  obtain ⟨seen, ret, hshows⟩ := shows_start_of_stopped hw hcached hasserts
    (by rw [hflags]; decide) (by rw [hflags]; decide) hunmapped hstopped
  exact not_shows_start_of_begun rfl ((hobs _ _).mp hshows)

end MmapParams

/-- A cached buffer is one of the dma-heap allocator. -/
theorem dmaHeap_of_isCached {b : DmaBuffer w} {m : BufferModel w} {p : MmapParams w}
    {s : SyncState w} (hb : b.view = m.mmapBacked p s) (hcached : b.isCached = true) :
    p.mapAsserts = true ∧ p.normalise = normaliseReadwriteAbsent := by
  cases b with
  | dmaHeap allocator buffer =>
      have hmapping := congrArg BufferModel.mapping hb
      simp only [DmaBuffer.view, DmaBuffer.mapping, BufferModel.mmapBacked,
        BufferModel.withMapping, Mapping.mmapBacked.injEq] at hmapping
      rw [← hmapping.1]
      exact ⟨decide_eq_true buffer.dmabufFd_pos, rfl⟩
  | ion => cases hcached
  | dwl => cases hcached
  | ipu => cases hcached
  | g2d => cases hcached
  | pxp => cases hcached

/-- The maps that begin a session, on the mutable part. -/
theorem autoSync_iff {b : DmaBuffer w} {m : BufferModel w} {p : MmapParams w} {s : SyncState w}
    (hb : b.view = m.mmapBacked p s) (flags : BitVec 32) :
    p.autoSync (p.normalise flags) = true ↔ b.isCached = true ∧ manualSync flags = false := by
  unfold MmapParams.autoSync
  rw [← isCached_of_view hb]
  by_cases hcached : b.isCached = true
  · rw [(dmaHeap_of_isCached hb hcached).2]
    simp [hcached]
  · simp [hcached]

/-- A buffer on which failed maps are no-ops, seen through its mutable part. -/
theorem failedMapIsNoop_iff {b : DmaBuffer w} {m : BufferModel w} {p : MmapParams w}
    {s : SyncState w} (hb : b.view = m.mmapBacked p s) (flags : BitVec 32) :
    FailedMapIsNoop b flags ↔
      ∀ errorNonNull t ret s', Runs (p.map s flags errorNonNull) t (.done (ret, s')) →
        MmapFailed t →
          ret = 0 ∧ (∃ e, kernelEvents t = [e]) ∧
            p.machine.ObsEq p.SessionsWhileMapped kernelEvents (some s) (some s') := by
  constructor
  · intro hnoop errorNonNull t ret s' hrun hfailed
    have hstep : Runs (p.step (some s) (.map flags errorNonNull)) t (.done (some ret, some s')) :=
      runs_map_done_iff.mpr ⟨_, hrun, rfl⟩
    obtain ⟨c, hc, hbuffer⟩ := step_of_mmapBacked hb hstep
    obtain ⟨b', rfl, hb'⟩ := Option.map_eq_some_iff.mp hc
    obtain ⟨hret, hevent, hobs⟩ :=
      hnoop errorNonNull t ret b' (bufferStep_map_iff.mp hbuffer) hfailed
    exact ⟨hret, hevent, (obsEq_mmapBacked hb hb').mp hobs⟩
  · intro hnoop errorNonNull t ret b' hrun hfailed
    obtain ⟨u, hu, hstep⟩ := step_mmapBacked hb (bufferStep_map_iff.mpr hrun)
    obtain ⟨⟨_, s'⟩, hmap, heq⟩ := runs_map_done_iff.mp hstep
    obtain ⟨hret', rfl⟩ := Prod.mk.inj heq
    obtain rfl := Option.some.inj hret'
    obtain ⟨hret, hevent, hobs⟩ := hnoop errorNonNull t _ s' hmap hfailed
    exact ⟨hret, hevent, (obsEq_mmapBacked hb (Option.some.inj hu)).mpr hobs⟩

/-- **Visible failures.**  A failing map that begins a session is visible, at
once or later, unless one was begun before and the cache is not touched. -/
theorem not_failedMapIsNoop (hw : 0 < w) {b : DmaBuffer w}
    (hunmapped : b.mappedVirtualAddress = some 0) {flags : BitVec 32}
    (hcached : b.isCached = true) (hauto : manualSync flags = false)
    (hvisible : ¬ (b.syncStarted = true ∧ reads (b.normaliseFlags flags) = false)) :
    ¬ FailedMapIsNoop b flags := by
  obtain ⟨p, s, hb⟩ := view_mmapBacked hunmapped
  obtain ⟨hasserts, hnormalise⟩ := dmaHeap_of_isCached hb hcached
  have hsync := (autoSync_iff hb flags).mpr ⟨hcached, hauto⟩
  have hzero : s.mappedVirtualAddress = 0 :=
    Option.some.inj ((mappedVirtualAddress_of_view hb).symm.trans hunmapped)
  rw [syncStarted_of_view hb, normaliseFlags_of_view hb] at hvisible
  rw [failedMapIsNoop_iff hb]
  intro hnoop
  obtain ⟨t, ht⟩ := @MmapParams.exists_autoStarts w p (p.normalise flags)
  have hstep := @MmapParams.MapStep.failed w p s flags false hzero ⟨ENOMEM, by decide⟩ t ht
  obtain ⟨-, ⟨e, hone⟩, hobs⟩ := hnoop false _ _ _ (MmapParams.map_runs hasserts hzero hstep)
    ⟨_, _, _, _, _, List.mem_cons_self⟩
  rw [MmapParams.AutoStarts, if_pos hsync] at ht
  have hioctl := MmapParams.kernelEvents_startsSession ht
  rw [kernelEvents_cons, if_pos (by rfl), kernelEvents_append, kernelEvents_storeEvents,
    List.nil_append] at hone
  rw [(List.cons.inj hone).2] at hioctl
  have hreads : reads (p.normalise flags) = false := by
    by_contra hreads
    rw [MmapParams.SyncIoctl, if_pos (by simpa using hreads)] at hioctl
    obtain ⟨_, hnil⟩ := hioctl
    cases hnil
  have hstopped : s.syncStarted = false := by
    by_contra hstarted
    exact hvisible ⟨by simpa using hstarted, hreads⟩
  rw [hsync, hstopped] at hobs
  exact MmapParams.not_obsEq_of_begun hw _ (by rwa [← isCached_of_view hb]) hasserts hnormalise
    hzero hstopped hobs

/-- **Failed maps.**  A failed map is a no-op exactly when it begins no sync
session, or begins one that is begun already without touching the cache. -/
theorem failed_map_noop_iff (hw : 0 < w) {b : DmaBuffer w}
    (hunmapped : b.mappedVirtualAddress = some 0) (flags : BitVec 32) :
    FailedMapIsNoop b flags ↔
      (b.isCached = true → manualSync flags = true ∨
        (b.syncStarted = true ∧ reads (b.normaliseFlags flags) = false)) := by
  constructor
  · intro hnoop hcached
    by_contra hnot
    obtain ⟨hauto, hvisible⟩ := not_or.mp hnot
    exact not_failedMapIsNoop hw hunmapped hcached (by simpa using hauto) hvisible hnoop
  · intro hharmless
    obtain ⟨p, s, hb⟩ := view_mmapBacked hunmapped
    have hzero : s.mappedVirtualAddress = 0 :=
      Option.some.inj ((mappedVirtualAddress_of_view hb).symm.trans hunmapped)
    rw [failedMapIsNoop_iff hb]
    intro errorNonNull t ret s' hrun hfailed
    obtain ⟨hret, hevent, rfl⟩ := MmapParams.failed_map_changes_flags hzero (fun hsync => by
      obtain ⟨hcached, hauto⟩ := (autoSync_iff hb flags).mp hsync
      have hcases := hharmless hcached
      rwa [hauto, syncStarted_of_view hb, normaliseFlags_of_view hb, Bool.false_eq_true,
        false_or] at hcases) hrun hfailed
    exact ⟨hret, hevent, MmapParams.obsEq_mapFlags hzero _⟩

/-- On a new cached buffer, a failed map that asks for manual syncing is a no-op. -/
theorem failed_manual_map_noop : FailedMapIsNoop cachedBuffer mappingFlagManualSync :=
  (failed_map_noop_iff (by decide) rfl mappingFlagManualSync).mpr (fun _ => Or.inl (by decide))

/-- On the same buffer, a failed map for writing is not: the session that it
begins keeps a later one from being started. -/
theorem failed_write_map_visible :
    cachedBuffer.Fresh ∧ ¬ FailedMapIsNoop cachedBuffer mappingFlagWrite := by
  have hfresh : cachedBuffer.Fresh :=
    ⟨rfl, fun address h => (Option.some.inj h).symm, rfl⟩
  refine ⟨hfresh, not_failedMapIsNoop (by decide) rfl rfl (by decide) ?_⟩
  intro h
  cases h.1

end ImxDmaBuffer
