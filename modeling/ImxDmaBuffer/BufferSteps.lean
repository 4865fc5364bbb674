import ImxDmaBuffer.BufferView

/-!
# What one operation on a buffer can do

One relation for each operation of the model lists every way it can complete:
the events it issues, what it returns and the state it leaves.  Everything that
is proved about histories of buffers follows from these relations; no later
proof looks into the programs again.
-/

namespace ImxDmaBuffer

open CallProgram

variable {w : Nat}

namespace MmapParams

variable (p : MmapParams w)

/-- The ioctl by which a session's start or stop touches the cache, if the
flags ask for it. -/
def SyncIoctl (asked : Bool) (t : List (KEvent w)) : Prop :=
  if asked then ∃ answer, t = [⟨.dmaBufIoctlPhys p.args.fd, answer⟩] else t = []

/-- `t` is the start of a session on a buffer mapped with `flags`. -/
def StartsSession (flags : BitVec 32) (t : List (KEvent w)) : Prop :=
  ∃ rest, t = ⟨.syncSessionStarts p.args.fd, ()⟩ :: rest ∧ p.SyncIoctl (reads flags) rest

/-- `t` is the stop of a session on a buffer mapped with `flags`. -/
def StopsSession (flags : BitVec 32) (t : List (KEvent w)) : Prop :=
  ∃ rest, t = ⟨.syncSessionStops p.args.fd, ()⟩ :: rest ∧ p.SyncIoctl (writes flags) rest

/-- `t` is what mapping with `flags` adds to the `mmap`. -/
def AutoStarts (flags : BitVec 32) (t : List (KEvent w)) : Prop :=
  if p.autoSync flags then p.StartsSession flags t else t = []

/-- `t` is what unmapping adds to the `munmap`. -/
def AutoStops (flags : BitVec 32) (t : List (KEvent w)) : Prop :=
  if p.autoSync flags then p.StopsSession flags t else t = []

/-- How a map completes. -/
inductive MapStep (s : SyncState w) (flags : BitVec 32) (errorNonNull : Bool) :
    List (KEvent w) → BitVec w → SyncState w → Prop
  | redundant (hmapped : s.mappedVirtualAddress ≠ 0)
      (hcompatible : Compatible s.mapFlags (p.normalise flags))
      (hrange : s.mappingRefcount + 1 ≤ INT_MAX) :
      MapStep s flags errorNonNull [] s.mappedVirtualAddress
        { s with mappingRefcount := s.mappingRefcount + 1 }
  | failed (hunmapped : s.mappedVirtualAddress = 0) (errno : Errno) (t : List (KEvent w))
      (hsync : p.AutoStarts (p.normalise flags) t) :
      MapStep s flags errorNonNull
        (⟨.mmap p.args.length (mmapProt (p.normalise flags)) p.args.fd p.args.offset,
            .error errno⟩ :: (storeEvents errorNonNull errno.code ++ t)) 0
        { s with
          mapFlags := p.normalise flags
          syncStarted := s.syncStarted || p.autoSync (p.normalise flags) }
  | fresh (hunmapped : s.mappedVirtualAddress = 0) (mapped : MappedAddress w)
      (t : List (KEvent w)) (hsync : p.AutoStarts (p.normalise flags) t) :
      MapStep s flags errorNonNull
        (⟨.mmap p.args.length (mmapProt (p.normalise flags)) p.args.fd p.args.offset,
            .ok mapped⟩ :: t) mapped.address
        { mappedVirtualAddress := mapped.address
          mapFlags := p.normalise flags
          mappingRefcount := 1
          syncStarted := s.syncStarted || p.autoSync (p.normalise flags) }

/-- How an unmap completes. -/
inductive UnmapStep (s : SyncState w) : List (KEvent w) → SyncState w → Prop
  | surplus (hunmapped : s.mappedVirtualAddress = 0) : UnmapStep s [] s
  | decrement (hmapped : s.mappedVirtualAddress ≠ 0) (hmore : s.mappingRefcount ≠ 1) :
      UnmapStep s [] { s with mappingRefcount := s.mappingRefcount - 1 }
  | last (hmapped : s.mappedVirtualAddress ≠ 0) (hone : s.mappingRefcount = 1)
      (t : List (KEvent w)) (hsync : p.AutoStops s.mapFlags t) :
      UnmapStep s (t ++ [⟨.munmap s.mappedVirtualAddress p.args.length, ()⟩])
        { s with
          mappedVirtualAddress := 0
          mappingRefcount := 0
          syncStarted := s.syncStarted && !p.autoSync s.mapFlags }

/-- How a request to start a session completes. -/
inductive StartStep (s : SyncState w) : List (KEvent w) → SyncState w → Prop
  | ignored (hno : ¬ (p.isCached = true ∧ s.syncStarted = false ∧ manualSync s.mapFlags = true)) :
      StartStep s [] s
  | begins (hcached : p.isCached = true) (hstopped : s.syncStarted = false)
      (hmanual : manualSync s.mapFlags = true) (t : List (KEvent w))
      (hsync : p.StartsSession s.mapFlags t) :
      StartStep s t { s with syncStarted := true }

/-- How a request to stop a session completes. -/
inductive StopStep (s : SyncState w) : List (KEvent w) → SyncState w → Prop
  | ignored (hno : ¬ (p.isCached = true ∧ s.syncStarted = true ∧ manualSync s.mapFlags = true)) :
      StopStep s [] s
  | ends (hcached : p.isCached = true) (hstarted : s.syncStarted = true)
      (hmanual : manualSync s.mapFlags = true) (t : List (KEvent w))
      (hsync : p.StopsSession s.mapFlags t) :
      StopStep s t { s with syncStarted := false }

/-- Whether a session is open on a mapped buffer. One that came with the mapping
stays open all the time, whatever `sync_started` says. -/
def sessionOpen (s : SyncState w) : Bool :=
  if manualSync s.mapFlags then s.syncStarted else p.isCached

/-- What forced teardown adds to the `munmap`. -/
def TeardownStops (s : SyncState w) (t : List (KEvent w)) : Prop :=
  if p.sessionOpen s then p.StopsSession s.mapFlags t else t = []

/-- How a deallocation completes. -/
inductive DeallocateStep (s : SyncState w) : List (KEvent w) → Prop
  | unmapped (hunmapped : s.mappedVirtualAddress = 0) (answer : (kernel w).Answer p.release) :
      DeallocateStep s [⟨p.release, answer⟩]
  | mapped (hmapped : s.mappedVirtualAddress ≠ 0) (t : List (KEvent w))
      (hsync : p.TeardownStops s t) (answer : (kernel w).Answer p.release) :
      DeallocateStep s
        (t ++ [⟨.munmap s.mappedVirtualAddress p.args.length, ()⟩, ⟨p.release, answer⟩])

/-- Serve one call on an mmap-based buffer. -/
def step : Option (SyncState w) → BufferCall → Code w (Option (BitVec w) × Option (SyncState w))
  | none, _ => .halt Fault.undefinedBehaviour
  | some s, .map flags errorNonNull => Prod.map some some <$> p.map s flags errorNonNull
  | some s, .unmap => (fun s => (none, some s)) <$> p.unmap s
  | some s, .startSyncSession => (fun s => (none, some s)) <$> p.start s
  | some s, .stopSyncSession => (fun s => (none, some s)) <$> p.stop s
  | some s, .deallocate => (fun _ => (none, none)) <$> p.deallocate s

/-- An mmap-based buffer as a machine of its own. -/
def machine : Machine (kernel w) BufferCall (Option (BitVec w)) where
  State := Option (SyncState w)
  step := p.step

/-- How a call on an mmap-based buffer completes. -/
inductive Step (s : SyncState w) :
    BufferCall → List (KEvent w) → Option (BitVec w) → Option (SyncState w) → Prop
  | map {flags : BitVec 32} {errorNonNull : Bool} {t : List (KEvent w)} {ret : BitVec w}
      {s' : SyncState w} (hstep : p.MapStep s flags errorNonNull t ret s') :
      Step s (.map flags errorNonNull) t (some ret) (some s')
  | unmap {t : List (KEvent w)} {s' : SyncState w} (hstep : p.UnmapStep s t s') :
      Step s .unmap t none (some s')
  | startSyncSession {t : List (KEvent w)} {s' : SyncState w} (hstep : p.StartStep s t s') :
      Step s .startSyncSession t none (some s')
  | stopSyncSession {t : List (KEvent w)} {s' : SyncState w} (hstep : p.StopStep s t s') :
      Step s .stopSyncSession t none (some s')
  | deallocate {t : List (KEvent w)} (hstep : p.DeallocateStep s t) :
      Step s .deallocate t none none

variable {p}

/-- Beginning a session is its start, and nothing else. -/
theorem runs_startImpl_iff {s s' : SyncState w} {t : List (KEvent w)} :
    Runs (p.startImpl s) t (.done s') ↔
      p.StartsSession s.mapFlags t ∧ s' = { s with syncStarted := true } := by
  unfold startImpl StartsSession SyncIoctl
  by_cases hreads : reads s.mapFlags = true
  · simp [hreads, perform]
    grind
  · simp [hreads, perform]
    grind

/-- Ending a session is its stop, and nothing else. -/
theorem runs_stopImpl_iff {s s' : SyncState w} {t : List (KEvent w)} :
    Runs (p.stopImpl s) t (.done s') ↔
      p.StopsSession s.mapFlags t ∧ s' = { s with syncStarted := false } := by
  unfold stopImpl StopsSession SyncIoctl
  by_cases hwrites : writes s.mapFlags = true
  · simp [hwrites, perform]
    grind
  · simp [hwrites, perform]
    grind

/-- The sync part of a map. -/
theorem runs_autoStart_iff {mapped : BitVec w} {flags : BitVec 32} {count : Int} {started : Bool}
    {s' : SyncState w} {t : List (KEvent w)} :
    Runs (p.autoStart flags ⟨⟨mapped, flags, count⟩, started⟩) t (.done s') ↔
      p.AutoStarts flags t ∧ s' = ⟨⟨mapped, flags, count⟩, started || p.autoSync flags⟩ := by
  unfold autoStart AutoStarts
  by_cases hauto : p.autoSync flags = true
  · simp [hauto, runs_startImpl_iff]
  · simp [hauto]

/-- The sync part of an unmap. -/
theorem runs_autoStop_iff {s s' : SyncState w} {t : List (KEvent w)} :
    Runs (p.autoStop s) t (.done s') ↔
      p.AutoStops s.mapFlags t ∧
        s' = { s with syncStarted := s.syncStarted && !p.autoSync s.mapFlags } := by
  unfold autoStop AutoStops
  by_cases hauto : p.autoSync s.mapFlags = true
  · simp [hauto, runs_stopImpl_iff]
  · simp [hauto]

/-- The mmap of a map. -/
theorem runs_freshMap_iff {args : MmapArgs w} {s s' : MapState w} {flags : BitVec 32}
    {errorNonNull : Bool} {t : List (KEvent w)} :
    Runs (s.freshMap args flags errorNonNull) t (.done s') ↔
      (∃ errno, t = ⟨.mmap args.length (mmapProt flags) args.fd args.offset, .error errno⟩ ::
          storeEvents errorNonNull errno.code ∧ s' = { s with mapFlags := flags }) ∨
      (∃ mapped, t = [⟨.mmap args.length (mmapProt flags) args.fd args.offset, .ok mapped⟩] ∧
          s' = { mappedVirtualAddress := mapped.address, mapFlags := flags, mappingRefcount := 1 }) := by
  simp only [MapState.freshMap, perform, Prog.call_bind, Prog.ret_bind, runs_call_iff]
  constructor
  · intro h
    obtain ⟨answer, rest, rfl, hrest⟩ := h
    cases answer with
    | error errno =>
        obtain ⟨_, _, _, rfl, hstore, hret⟩ := runs_bind_done_iff.mp hrest
        simp only [runs_storeError_done_iff] at hstore
        simp only [Prog.pure_eq_ret, runs_ret_iff, Outcome.done.injEq] at hret
        exact Or.inl ⟨errno, by rw [hstore, hret.1, List.append_nil], hret.2⟩
    | ok mapped =>
        simp only [Prog.pure_eq_ret, runs_ret_iff, Outcome.done.injEq] at hrest
        exact Or.inr ⟨mapped, by rw [hrest.1], hrest.2⟩
  · intro h
    rcases h with ⟨errno, rfl, rfl⟩ | ⟨mapped, rfl, rfl⟩
    · refine ⟨.error errno, _, rfl, runs_bind_done_iff.mpr ?_⟩
      exact ⟨_, [], (), (List.append_nil _).symm, runs_storeError_done_iff.mpr rfl, .ret _⟩
    · exact ⟨.ok mapped, [], rfl, .ret _⟩

/-- **Maps.**  A completed map is redundant, failed or fresh. -/
theorem map_done {s s' : SyncState w} {flags : BitVec 32} {errorNonNull : Bool}
    {t : List (KEvent w)} {ret : BitVec w}
    (h : Runs (p.map s flags errorNonNull) t (.done (ret, s'))) :
    p.MapStep s flags errorNonNull t ret s' := by
  obtain ⟨-, hbody⟩ := runs_require_bind_iff.mp h
  by_cases hmapped : s.mappedVirtualAddress = 0
  · simp only [hmapped, ne_eq, not_true_eq_false, if_false] at hbody
    obtain ⟨first, rest, mapState, rfl, hmmap, hrest⟩ := runs_bind_done_iff.mp hbody
    obtain ⟨sync, last, next, rfl, hsync, hret⟩ := runs_bind_done_iff.mp hrest
    obtain ⟨rfl, heq⟩ := runs_ret_done_iff.mp hret
    obtain ⟨rfl, rfl⟩ := Prod.mk.inj heq
    rcases runs_freshMap_iff.mp hmmap with ⟨errno, rfl, rfl⟩ | ⟨mapped, rfl, rfl⟩
    · rw [runs_autoStart_iff] at hsync
      obtain ⟨hstart, rfl⟩ := hsync
      have hstep := @MapStep.failed w p s flags errorNonNull hmapped errno sync hstart
      rw [List.append_nil, List.cons_append]
      rwa [← hmapped] at hstep
    · rw [runs_autoStart_iff] at hsync
      obtain ⟨hstart, rfl⟩ := hsync
      rw [List.append_nil, List.cons_append, List.nil_append]
      exact .fresh hmapped mapped sync hstart
  · simp only [ne_eq, hmapped, not_false_eq_true, if_true] at hbody
    obtain ⟨first, rest, mapState, rfl, hredundant, hret⟩ := runs_bind_done_iff.mp hbody
    obtain ⟨rfl, heq⟩ := runs_ret_done_iff.mp hret
    obtain ⟨rfl, rfl⟩ := Prod.mk.inj heq
    obtain ⟨hcompatible, hcount⟩ := runs_require_bind_iff.mp hredundant
    obtain ⟨_, last, n, rfl, hn, hlast⟩ := runs_bind_done_iff.mp hcount
    obtain ⟨⟨-, hmax⟩, rfl, rfl⟩ := runs_intResult_done_iff.mp hn
    obtain ⟨rfl, rfl⟩ := runs_ret_done_iff.mp hlast
    exact .redundant hmapped hcompatible hmax

/-- A buffer that is not mapped can be mapped, and the mmap may fail. -/
theorem map_runs {s s' : SyncState w} {flags : BitVec 32} {errorNonNull : Bool}
    {t : List (KEvent w)} {ret : BitVec w} (hasserts : p.mapAsserts = true)
    (hunmapped : s.mappedVirtualAddress = 0) (h : p.MapStep s flags errorNonNull t ret s') :
    Runs (p.map s flags errorNonNull) t (.done (ret, s')) := by
  refine runs_bind_done_iff.mpr ⟨[], t, (), rfl, runs_require_done_iff.mpr ⟨hasserts, rfl⟩, ?_⟩
  simp only [hunmapped, ne_eq, not_true_eq_false, if_false]
  refine runs_bind_done_iff.mpr ?_
  cases h with
  | redundant hmapped => exact absurd hunmapped hmapped
  | failed _ errno t hsync =>
      refine ⟨_, t, _, rfl, runs_freshMap_iff.mpr (Or.inl ⟨errno, rfl, rfl⟩),
        runs_bind_done_iff.mpr ⟨t, [], _, (List.append_nil t).symm,
          runs_autoStart_iff.mpr ⟨hsync, rfl⟩, ?_⟩⟩
      rw [← hunmapped]
      exact .ret _
  | fresh _ mapped t hsync =>
      exact ⟨[_], t, _, rfl, runs_freshMap_iff.mpr (Or.inr ⟨mapped, rfl, rfl⟩),
        runs_bind_done_iff.mpr ⟨t, [], _, (List.append_nil t).symm,
          runs_autoStart_iff.mpr ⟨hsync, rfl⟩, .ret _⟩⟩

/-- The sync ioctl of a session is a sync call. -/
theorem SyncIoctl.isSync {asked : Bool} {t : List (KEvent w)} (h : p.SyncIoctl asked t) :
    ∀ e ∈ t, e.call.isSync = true := by
  unfold SyncIoctl at h
  intro e he
  split at h
  · obtain ⟨answer, rfl⟩ := h
    obtain rfl := List.mem_singleton.mp he
    rfl
  · rw [h] at he
    cases he

/-- The start of a session issues sync calls only. -/
theorem StartsSession.isSync {flags : BitVec 32} {t : List (KEvent w)}
    (h : p.StartsSession flags t) : ∀ e ∈ t, e.call.isSync = true := by
  obtain ⟨rest, rfl, hrest⟩ := h
  exact List.forall_mem_cons.mpr ⟨rfl, hrest.isSync⟩

/-- The stop of a session issues sync calls only. -/
theorem StopsSession.isSync {flags : BitVec 32} {t : List (KEvent w)}
    (h : p.StopsSession flags t) : ∀ e ∈ t, e.call.isSync = true := by
  obtain ⟨rest, rfl, hrest⟩ := h
  exact List.forall_mem_cons.mpr ⟨rfl, hrest.isSync⟩

/-- What mapping adds to the mmap are sync calls only. -/
theorem AutoStarts.isSync {flags : BitVec 32} {t : List (KEvent w)}
    (h : p.AutoStarts flags t) : ∀ e ∈ t, e.call.isSync = true := by
  unfold AutoStarts at h
  split at h
  · exact h.isSync
  · intro e he
    rw [h] at he
    cases he

/-- What unmapping adds to the munmap are sync calls only. -/
theorem AutoStops.isSync {flags : BitVec 32} {t : List (KEvent w)}
    (h : p.AutoStops flags t) : ∀ e ∈ t, e.call.isSync = true := by
  unfold AutoStops at h
  split at h
  · exact h.isSync
  · intro e he
    rw [h] at he
    cases he

/-- Some trace is the automatic start of a session. -/
theorem exists_autoStarts (flags : BitVec 32) : ∃ t, p.AutoStarts flags t := by
  obtain ⟨t, ht⟩ : ∃ t, p.SyncIoctl (reads flags) t := by
    unfold SyncIoctl
    by_cases hreads : reads flags = true
    · exact ⟨_, by rw [if_pos hreads]; exact ⟨.ok 0, rfl⟩⟩
    · exact ⟨_, by rw [if_neg hreads]⟩
  unfold AutoStarts
  by_cases hauto : p.autoSync flags = true
  · exact ⟨_, by rw [if_pos hauto]; exact ⟨t, rfl, ht⟩⟩
  · exact ⟨_, by rw [if_neg hauto]⟩

/-- **Unmaps.**  A completed unmap is surplus, a decrement or the last one. -/
theorem unmap_done {s s' : SyncState w} {t : List (KEvent w)}
    (h : Runs (p.unmap s) t (.done s')) : p.UnmapStep s t s' := by
  obtain ⟨-, hbody⟩ := runs_require_bind_iff.mp h
  by_cases hmapped : s.mappedVirtualAddress = 0
  · rw [if_pos hmapped] at hbody
    obtain ⟨rfl, rfl⟩ := runs_ret_done_iff.mp hbody
    exact .surplus hmapped
  · rw [if_neg hmapped] at hbody
    obtain ⟨_, rest, n, rfl, hn, hrest⟩ := runs_bind_done_iff.mp hbody
    obtain ⟨-, rfl, rfl⟩ := runs_intResult_done_iff.mp hn
    by_cases hzero : s.mappingRefcount - 1 = 0
    · have hone : s.mappingRefcount = 1 := by omega
      simp only [hzero, ne_eq, not_true_eq_false, if_false] at hrest
      obtain ⟨sync, last, next, rfl, hsync, hlast⟩ := runs_bind_done_iff.mp hrest
      rw [runs_autoStop_iff] at hsync
      obtain ⟨hstop, rfl⟩ := hsync
      simp only [perform, Prog.call_bind, Prog.ret_bind, runs_call_iff, Prog.pure_eq_ret,
        runs_ret_iff, Outcome.done.injEq] at hlast
      obtain ⟨⟨⟩, _, rfl, rfl, rfl⟩ := hlast
      exact .last hmapped hone sync hstop
    · simp only [ne_eq, hzero, not_false_eq_true, if_true] at hrest
      obtain ⟨rfl, rfl⟩ := runs_ret_done_iff.mp hrest
      exact .decrement hmapped (by omega)

/-- **Starts.**  A completed request to start is ignored, or begins a session. -/
theorem start_done {s s' : SyncState w} {t : List (KEvent w)}
    (h : Runs (p.start s) t (.done s')) : p.StartStep s t s' := by
  unfold start at h
  by_cases hbegins : p.isCached = true ∧ s.syncStarted = false ∧ manualSync s.mapFlags = true
  · have ⟨hcached, hstopped, hmanual⟩ := hbegins
    simp only [hcached, hstopped, hmanual, Bool.not_false, Bool.and_self, if_true] at h
    obtain ⟨hsync, rfl⟩ := runs_startImpl_iff.mp h
    exact .begins hcached hstopped hmanual t hsync
  · rw [if_neg (by simpa [and_assoc] using hbegins)] at h
    obtain ⟨rfl, rfl⟩ := runs_ret_done_iff.mp h
    exact .ignored hbegins

/-- A completed stop of an explicit session. -/
theorem stopExplicit_done {s s' : SyncState w} {t : List (KEvent w)}
    (h : Runs (p.stopExplicit s) t (.done s')) :
    s.mappedVirtualAddress ≠ 0 ∧
      if s.syncStarted = true ∧ manualSync s.mapFlags = true then
        p.StopsSession s.mapFlags t ∧ s' = { s with syncStarted := false }
      else t = [] ∧ s' = s := by
  obtain ⟨hmapped, hbody⟩ := runs_require_bind_iff.mp h
  refine ⟨hmapped, ?_⟩
  by_cases hstarted : s.syncStarted = true
  · by_cases hmanual : manualSync s.mapFlags = true
    · simp only [hstarted, hmanual, not_true_eq_false, if_false, runs_stopImpl_iff] at hbody
      simpa [hstarted, hmanual] using hbody
    · simpa [hstarted, hmanual] using hbody
  · simpa [hstarted] using hbody

/-- **Stops.**  A completed request to stop is ignored, or ends a session. -/
theorem stop_done {s s' : SyncState w} {t : List (KEvent w)}
    (h : Runs (p.stop s) t (.done s')) : p.StopStep s t s' := by
  unfold stop at h
  by_cases hcached : p.isCached = true
  · rw [if_pos hcached] at h
    obtain ⟨-, hstop⟩ := stopExplicit_done h
    by_cases hends : s.syncStarted = true ∧ manualSync s.mapFlags = true
    · rw [if_pos hends] at hstop
      obtain ⟨hsync, rfl⟩ := hstop
      exact .ends hcached hends.1 hends.2 t hsync
    · rw [if_neg hends] at hstop
      obtain ⟨rfl, rfl⟩ := hstop
      exact .ignored (fun hall => hends hall.2)
  · rw [if_neg hcached] at h
    obtain ⟨rfl, rfl⟩ := runs_ret_done_iff.mp h
    exact .ignored (fun hall => hcached hall.1)

/-- The unmap that a deallocation forces removes the mapping. -/
theorem forced_unmap {s finish : SyncState w} {t : List (KEvent w)}
    (hmapped : s.mappedVirtualAddress ≠ 0)
    (h : p.UnmapStep { s with mappingRefcount := 1 } t finish) :
    ∃ sync, t = sync ++ [⟨.munmap s.mappedVirtualAddress p.args.length, ()⟩] ∧
      p.AutoStops s.mapFlags sync := by
  cases h with
  | surplus hunmapped => exact absurd hunmapped hmapped
  | decrement _ hmore => exact absurd rfl hmore
  | last _ _ sync hsync => exact ⟨sync, rfl, hsync⟩

/-- What a completed deallocation adds to the munmap is the stop of the session
that is open. -/
theorem teardownStops_of_done {s middle finish : SyncState w} {first second : List (KEvent w)}
    (hexplicit : Runs (p.stopExplicit s) first (.done middle))
    (hauto : Runs (p.unmap { middle with mappingRefcount := 1 }) second (.done finish)) :
    ∃ t, first ++ second = t ++ [⟨.munmap s.mappedVirtualAddress p.args.length, ()⟩] ∧
      p.TeardownStops s t := by
  obtain ⟨hmapped, hstop⟩ := stopExplicit_done hexplicit
  have hlast := unmap_done hauto
  unfold TeardownStops sessionOpen
  by_cases hmanual : manualSync s.mapFlags = true
  · have hauto_off : p.autoSync s.mapFlags = false := by simp [autoSync, hmanual]
    by_cases hstarted : s.syncStarted = true
    · rw [if_pos ⟨hstarted, hmanual⟩] at hstop
      obtain ⟨hsync, rfl⟩ := hstop
      obtain ⟨sync, rfl, hnone⟩ :=
        @forced_unmap w p { s with syncStarted := false } _ _ hmapped hlast
      rw [AutoStops, hauto_off, if_neg Bool.false_ne_true] at hnone
      refine ⟨first, by rw [hnone, List.nil_append], ?_⟩
      simpa [hmanual, hstarted] using hsync
    · rw [if_neg (fun hall => hstarted hall.1)] at hstop
      obtain ⟨rfl, rfl⟩ := hstop
      obtain ⟨sync, rfl, hnone⟩ := forced_unmap hmapped hlast
      rw [AutoStops, hauto_off, if_neg Bool.false_ne_true] at hnone
      exact ⟨sync, rfl, by simp [hmanual, hstarted, hnone]⟩
  · rw [if_neg (fun hall => hmanual hall.2)] at hstop
    obtain ⟨rfl, rfl⟩ := hstop
    obtain ⟨sync, rfl, hsync⟩ := forced_unmap hmapped hlast
    refine ⟨sync, rfl, ?_⟩
    simpa [AutoStops, autoSync, hmanual] using hsync

/-- **Deallocations.**  A mapped buffer is unmapped first. -/
theorem deallocate_done {s : SyncState w} {t : List (KEvent w)}
    (h : Runs (p.deallocate s) t (.done ())) : p.DeallocateStep s t := by
  obtain ⟨-, hbody⟩ := runs_require_bind_iff.mp h
  by_cases hmapped : s.mappedVirtualAddress = 0
  · simp only [hmapped, ne_eq, not_true_eq_false, if_false, perform, Prog.pure_eq_ret,
      Prog.ret_bind, Prog.call_bind, runs_call_iff, runs_ret_iff] at hbody
    obtain ⟨answer, _, rfl, rfl, -⟩ := hbody
    exact .unmapped hmapped answer
  · simp only [ne_eq, hmapped, not_false_eq_true, if_true] at hbody
    obtain ⟨first, rest, middle, rfl, hexplicit, hrest⟩ := runs_bind_done_iff.mp hbody
    obtain ⟨second, last, finish, rfl, hauto, hlast⟩ := runs_bind_done_iff.mp hrest
    simp only [perform, Prog.pure_eq_ret, Prog.ret_bind, Prog.call_bind, runs_call_iff,
      runs_ret_iff] at hlast
    obtain ⟨answer, _, rfl, rfl, -⟩ := hlast
    obtain ⟨t, heq, hsync⟩ := teardownStops_of_done hexplicit hauto
    rw [← List.append_assoc, heq, List.append_assoc]
    exact .mapped hmapped t hsync answer

/-- **Every completed call is one of the listed ones.** -/
theorem step_done {s : SyncState w} {op : BufferCall} {t : List (KEvent w)}
    {ret : Option (BitVec w)} {s' : Option (SyncState w)}
    (h : Runs (p.machine.step (some s) op) t (.done (ret, s'))) : p.Step s op t ret s' := by
  change Runs (p.step (some s) op) t _ at h
  cases op with
  | map flags errorNonNull =>
      obtain ⟨⟨_, _⟩, hrun, heq⟩ := runs_map_done_iff.mp h
      obtain ⟨rfl, rfl⟩ := Prod.mk.inj heq
      exact .map (map_done hrun)
  | unmap =>
      obtain ⟨_, hrun, heq⟩ := runs_map_done_iff.mp h
      obtain ⟨rfl, rfl⟩ := Prod.mk.inj heq
      exact .unmap (unmap_done hrun)
  | startSyncSession =>
      obtain ⟨_, hrun, heq⟩ := runs_map_done_iff.mp h
      obtain ⟨rfl, rfl⟩ := Prod.mk.inj heq
      exact .startSyncSession (start_done hrun)
  | stopSyncSession =>
      obtain ⟨_, hrun, heq⟩ := runs_map_done_iff.mp h
      obtain ⟨rfl, rfl⟩ := Prod.mk.inj heq
      exact .stopSyncSession (stop_done hrun)
  | deallocate =>
      obtain ⟨_, hrun, heq⟩ := runs_map_done_iff.mp h
      obtain ⟨rfl, rfl⟩ := Prod.mk.inj heq
      exact .deallocate (deallocate_done hrun)

end MmapParams

/-- How a map of an always mapped buffer completes. -/
inductive CountState.MapStep (s : CountState) (flags : BitVec 32) : CountState → Prop
  | redundant (hmapped : 0 < s.mappingRefcount) (hcompatible : Compatible s.mapFlags flags)
      (hrange : s.mappingRefcount + 1 ≤ INT_MAX) :
      MapStep s flags { s with mappingRefcount := s.mappingRefcount + 1 }
  | fresh (hunmapped : ¬ 0 < s.mappingRefcount) :
      MapStep s flags { mapFlags := flags, mappingRefcount := 1 }

/-- How an unmap of an always mapped buffer completes. -/
inductive CountState.UnmapStep (s : CountState) : CountState → Prop
  | surplus (hunmapped : ¬ 0 < s.mappingRefcount) : UnmapStep s s
  | decrement (hmapped : 0 < s.mappingRefcount) :
      UnmapStep s { s with mappingRefcount := s.mappingRefcount - 1 }

/-- **Counting maps.**  They issue nothing. -/
theorem CountState.map_done {s s' : CountState} {flags : BitVec 32} {t : List (KEvent w)}
    (h : Runs (s.map flags) t (.done s')) : t = [] ∧ s.MapStep flags s' := by
  unfold CountState.map at h
  by_cases hmapped : 0 < s.mappingRefcount
  · rw [if_pos hmapped] at h
    obtain ⟨hcompatible, hrest⟩ := runs_require_bind_iff.mp h
    obtain ⟨_, last, n, rfl, hn, hlast⟩ := runs_bind_done_iff.mp hrest
    obtain ⟨⟨-, hmax⟩, rfl, rfl⟩ := runs_intResult_done_iff.mp hn
    obtain ⟨rfl, rfl⟩ := runs_ret_done_iff.mp hlast
    exact ⟨rfl, .redundant hmapped hcompatible hmax⟩
  · rw [if_neg hmapped] at h
    obtain ⟨rfl, rfl⟩ := runs_ret_done_iff.mp h
    exact ⟨rfl, .fresh hmapped⟩

/-- **Counting unmaps.**  They issue nothing. -/
theorem CountState.unmap_done {s s' : CountState} {t : List (KEvent w)}
    (h : Runs s.unmap t (.done s')) : t = [] ∧ s.UnmapStep s' := by
  unfold CountState.unmap at h
  by_cases hmapped : 0 < s.mappingRefcount
  · rw [if_pos hmapped] at h
    obtain ⟨_, last, n, rfl, hn, hlast⟩ := runs_bind_done_iff.mp h
    obtain ⟨-, rfl, rfl⟩ := runs_intResult_done_iff.mp hn
    obtain ⟨rfl, rfl⟩ := runs_ret_done_iff.mp hlast
    exact ⟨rfl, .decrement hmapped⟩
  · rw [if_neg hmapped] at h
    obtain ⟨rfl, rfl⟩ := runs_ret_done_iff.mp h
    exact ⟨rfl, .surplus hmapped⟩

namespace AlwaysParams

variable (p : AlwaysParams w)

/-- Serve one call on an always mapped buffer. -/
def step : Option CountState → BufferCall → Code w (Option (BitVec w) × Option CountState)
  | none, _ => .halt Fault.undefinedBehaviour
  | some s, .map flags _ =>
      (fun s => (some p.virtualAddress, some s)) <$> s.map (normaliseZero flags)
  | some s, .unmap => (fun s => (none, some s)) <$> s.unmap
  | some s, .startSyncSession => pure (none, some s)
  | some s, .stopSyncSession => pure (none, some s)
  | some _, .deallocate => do
      assertThat (p.deallocateAsserts = true)
      let _ ← perform (S := kernel w) p.release
      return (none, none)

/-- An always mapped buffer as a machine of its own. -/
def machine : Machine (kernel w) BufferCall (Option (BitVec w)) where
  State := Option CountState
  step := p.step

/-- How a call on an always mapped buffer completes. -/
inductive Step (s : CountState) :
    BufferCall → List (KEvent w) → Option (BitVec w) → Option CountState → Prop
  | map {flags : BitVec 32} {errorNonNull : Bool} {s' : CountState}
      (hstep : s.MapStep (normaliseZero flags) s') :
      Step s (.map flags errorNonNull) [] (some p.virtualAddress) (some s')
  | unmap {s' : CountState} (hstep : s.UnmapStep s') : Step s .unmap [] none (some s')
  | startSyncSession : Step s .startSyncSession [] none (some s)
  | stopSyncSession : Step s .stopSyncSession [] none (some s)
  | deallocate (answer : (kernel w).Answer p.release) :
      Step s .deallocate [⟨p.release, answer⟩] none none

variable {p}

/-- **Every completed call is one of the listed ones.** -/
theorem step_done {s : CountState} {op : BufferCall} {t : List (KEvent w)}
    {ret : Option (BitVec w)} {s' : Option CountState}
    (h : Runs (p.machine.step (some s) op) t (.done (ret, s'))) : p.Step s op t ret s' := by
  change Runs (p.step (some s) op) t _ at h
  cases op with
  | map flags errorNonNull =>
      obtain ⟨_, hrun, heq⟩ := runs_map_done_iff.mp h
      obtain ⟨rfl, rfl⟩ := Prod.mk.inj heq
      obtain ⟨rfl, hstep⟩ := CountState.map_done hrun
      exact .map hstep
  | unmap =>
      obtain ⟨_, hrun, heq⟩ := runs_map_done_iff.mp h
      obtain ⟨rfl, rfl⟩ := Prod.mk.inj heq
      obtain ⟨rfl, hstep⟩ := CountState.unmap_done hrun
      exact .unmap hstep
  | startSyncSession =>
      obtain ⟨rfl, heq⟩ := runs_ret_done_iff.mp h
      obtain ⟨rfl, rfl⟩ := Prod.mk.inj heq
      exact .startSyncSession
  | stopSyncSession =>
      obtain ⟨rfl, heq⟩ := runs_ret_done_iff.mp h
      obtain ⟨rfl, rfl⟩ := Prod.mk.inj heq
      exact .stopSyncSession
  | deallocate =>
      obtain ⟨-, hrest⟩ := runs_require_bind_iff.mp h
      simp only [perform, Prog.pure_eq_ret, Prog.ret_bind, Prog.call_bind, runs_call_iff,
        runs_ret_iff] at hrest
      obtain ⟨answer, _, rfl, rfl, heq⟩ := hrest
      obtain ⟨rfl, rfl⟩ := Prod.mk.inj (Outcome.done.inj heq)
      exact .deallocate answer

end AlwaysParams

namespace DmaHeapBuffer

variable (allocator : DmaHeapAllocator) (buffer : DmaHeapBuffer w)

/-- The buffer of a dma-heap allocator with another mutable part. -/
def withState (s : SyncState w) : DmaBuffer w := .dmaHeap allocator (buffer.withSync s)

/-- Every call on a dma-heap buffer is the model's call on its mutable part. -/
theorem bufferStep_eq (u : Option (SyncState w)) (op : BufferCall) :
    bufferStep (u.map (buffer.withState allocator)) op =
      Prod.map id (Option.map (buffer.withState allocator)) <$>
        (buffer.params allocator).step u op := by
  cases u with
  | none => rfl
  | some s =>
      cases op with
      | map flags errorNonNull =>
          simp only [Option.map_some, withState, bufferStep, imxDmaBufferMap, map_eq,
            MmapParams.step, Functor.map_map]
          rfl
      | unmap =>
          simp only [Option.map_some, withState, bufferStep, imxDmaBufferUnmap, unmap_eq,
            MmapParams.step, Functor.map_map]
          rfl
      | startSyncSession =>
          simp only [Option.map_some, withState, bufferStep, vtableStart_eq, MmapParams.step,
            Functor.map_map]
          rfl
      | stopSyncSession =>
          simp only [Option.map_some, withState, bufferStep, vtableStop_eq, MmapParams.step,
            Functor.map_map]
          rfl
      | deallocate =>
          simp only [Option.map_some, withState, bufferStep, imxDmaBufferDeallocate, deallocate_eq,
            MmapParams.step, Functor.map_map]
          rfl

end DmaHeapBuffer

end ImxDmaBuffer
