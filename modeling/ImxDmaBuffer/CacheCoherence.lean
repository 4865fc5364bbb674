import ImxDmaBuffer.Library.CachedMemory
import ImxDmaBuffer.SyncSessions

/-!
# Cached buffers stay coherent

What the sync sessions are for: the CPU and the devices see the same content of a cached
dma-heap buffer.  A session hands the memory of the buffer to the CPU, and its end hands
it back.  The allocator issues the `PHYS` ioctl at the start of a session with read access
and at the end of a session with write access because that ioctl seems to clean and
invalidate the cache.  What it does is up to the driver: here it is a parameter, `phys`, and
that it cleans and invalidates the cache a hypothesis.

`cached_buffer_coherent` is about every interleaving of the calls of a client with
accesses to the memory, as long as the CPU accesses it in sessions only, as it has asked
for in the map, and the device outside of them only.  Then every access reads what was
written last, whatever the cache has done in between.
-/

namespace ImxDmaBuffer

open CallProgram CachedMemory

variable {w : Nat}

/-- Who owns the memory of a buffer after calls with this summary: the CPU in a session,
with the access that the first map of the period asked for, and else the device. -/
def SyncSummary.owner (a : SyncSummary w) : MemoryOwner :=
  if a.count = 0 then .device
  else if manualSync a.first = true ∧ a.begun = false then .device
  else .cpu (reads (normaliseReadwriteAbsent a.first)) (writes (normaliseReadwriteAbsent a.first))

/-- The `PHYS` ioctl of a DMA-BUF, answered. -/
def isPhysAnswer (fd : Int) : KEvent w → Bool
  | ⟨.dmaBufIoctlPhys fd', .ok _⟩ => decide (fd' = fd)
  | _ => false

/-- Memory and cache after the events of a call, if `phys` is what the ioctl does to them. -/
def flushedBy {Loc V : Type} (phys : CachedMemory Loc V → CachedMemory Loc V) (fd : Int)
    (t : List (KEvent w)) (m : CachedMemory Loc V) : CachedMemory Loc V :=
  t.foldl (fun m e => if isPhysAnswer fd e then phys m else m) m

/-- The ioctl does not fail. -/
def PhysServed (fd : Int) (t : List (KEvent w)) : Prop :=
  ∀ errno, ⟨.dmaBufIoctlPhys fd, .error errno⟩ ∉ t

/-- What happens to a buffer: calls of the library, and accesses to its memory. -/
inductive Happening (w : Nat) (Loc V : Type) where
  | call (r : CallRecord w)
  | access (a : Access Loc V)

section World

variable {Loc V : Type}

/-- The calls among what happens. -/
def callsOf (x : List (Happening w Loc V)) : List (CallRecord w) :=
  x.filterMap fun
    | .call r => some r
    | .access _ => none

variable [DecidableEq Loc]

/-- Every access returns what memory and cache hold at that time. -/
def Observed (phys : CachedMemory Loc V → CachedMemory Loc V) (fd : Int) :
    CachedMemory Loc V → List (Happening w Loc V) → Prop
  | _, [] => True
  | m, .call r :: x => Observed phys fd (flushedBy phys fd r.events m) x
  | m, .access a :: x => a.ReturnedBy m ∧ Observed phys fd (m.after a) x

/-- Every access is one of the owner at that time. -/
def AccessedByOwner : SyncSummary w → List (Happening w Loc V) → Prop
  | _, [] => True
  | a, .call r :: x => AccessedByOwner (a.next r) x
  | a, .access access :: x => access.AllowedBy a.owner ∧ AccessedByOwner a x

/-- Every access reads what was written last. -/
def ReadLatest : (Loc → V) → List (Happening w Loc V) → Prop
  | _, [] => True
  | latest, .call _ :: x => ReadLatest latest x
  | latest, .access a :: x => a.ReadsLatest latest ∧ ReadLatest (a.written latest) x

end World

section Flushes

variable {Loc V : Type} {phys : CachedMemory Loc V → CachedMemory Loc V} {fd : Int}
  {t : List (KEvent w)} {m : CachedMemory Loc V}

/-- Calls without the ioctl leave memory and cache alone. -/
theorem flushedBy_quiet (hquiet : t.any (isPhysAnswer fd) = false) :
    flushedBy phys fd t m = m := by
  induction t with
  | nil => rfl
  | cons e t ih =>
      obtain ⟨he, hrest⟩ := Bool.or_eq_false_iff.mp hquiet
      unfold flushedBy
      rw [List.foldl_cons, if_neg (by simp [he])]
      exact ih hrest

/-- Other calls end with memory and cache as the ioctl leaves them. -/
theorem flushedBy_last (hany : t.any (isPhysAnswer fd) = true) :
    ∃ before : List (KEvent w), flushedBy phys fd t m = phys (flushedBy phys fd before m) := by
  induction t generalizing m with
  | nil => cases hany
  | cons e t ih =>
      by_cases hrest : t.any (isPhysAnswer fd) = true
      · obtain ⟨before, hbefore⟩ := @ih (if isPhysAnswer fd e then phys m else m) hrest
        exact ⟨e :: before, hbefore⟩
      · have he : isPhysAnswer fd e = true := by simpa [hrest] using hany
        refine ⟨[], ?_⟩
        unfold flushedBy
        rw [List.foldl_cons, if_pos he]
        exact flushedBy_quiet (by simpa using hrest)

variable (hphys : CleansAndInvalidates phys) {latest : Loc → V} {o : MemoryOwner}
include hphys

/-- Where memory and cache agree for an owner, they do for somebody after the ioctls. -/
theorem flushedBy_agrees (h : m.Agrees latest o) :
    ∃ o', (flushedBy phys fd t m).Agrees latest o' := by
  induction t generalizing m o with
  | nil => exact ⟨o, h⟩
  | cons e t ih =>
      have hflushed : (phys m).Agrees latest o := hphys.agrees h
      unfold flushedBy
      rw [List.foldl_cons]
      by_cases he : isPhysAnswer fd e = true
      · rw [if_pos he]
        exact ih hflushed
      · rw [if_neg he]
        exact ih h

/-- Calls with the ioctl leave memory and cache that anybody may own. -/
theorem flushedBy_anybody (h : m.Agrees latest o) {o' : MemoryOwner}
    (hany : t.any (isPhysAnswer fd) = true) : (flushedBy phys fd t m).Agrees latest o' := by
  obtain ⟨before, heq⟩ := @flushedBy_last _ _ _ phys fd t m hany
  obtain ⟨_, hbefore⟩ := @flushedBy_agrees _ _ _ phys fd before m hphys latest o h
  rw [heq]
  exact hphys.agrees hbefore

/-- They leave nothing cached. -/
theorem flushedBy_uncached (hany : t.any (isPhysAnswer fd) = true) (l : Loc) :
    (flushedBy phys fd t m).cache l = none := by
  obtain ⟨before, heq⟩ := @flushedBy_last _ _ _ phys fd t m hany
  rw [heq]
  exact hphys.givenUp _ l

end Flushes

/-- A trace with the ioctl flushes, if the ioctl is served. -/
theorem flushes_of_phys {fd : Int} {t : List (KEvent w)} (hserved : PhysServed fd t)
    {answer : Except Errno (BitVec w)} (hmem : ⟨.dmaBufIoctlPhys fd, answer⟩ ∈ t) :
    t.any (isPhysAnswer fd) = true := by
  cases answer with
  | error errno => exact absurd hmem (hserved errno)
  | ok phys => exact List.any_eq_true.mpr ⟨_, hmem, decide_eq_true rfl⟩

/-- An allocation flushes: it asks for the address of the buffer. -/
theorem allocate_flushes {config : BuildConfig} {allocator : DmaHeapAllocator}
    {size alignment : BitVec w} {heapIdMask left : BitVec 32} {ambient : Ambient}
    {errorNonNull : Bool} {t : List (KEvent w)} {buffer : DmaHeapBuffer w}
    (halloc : Runs (imxDmaBufferAllocate config (.dmaHeap allocator) size alignment heapIdMask
      ambient errorNonNull) t (.done (some (.dmaHeap allocator buffer), left))) :
    t.any (isPhysAnswer buffer.dmabufFd) = true := by
  obtain ⟨-, hstep⟩ := allocate_done halloc
  generalize hr : some (DmaBuffer.dmaHeap allocator buffer) = r at hstep
  cases hstep with
  | dmaHeap hstep =>
      obtain ⟨buffer', rfl, heq⟩ := Option.map_eq_some_iff.mp hr.symm
      obtain ⟨-, rfl⟩ := DmaBuffer.dmaHeap.inj heq
      cases hstep with
      | allocated fd hpos t phys hphys hne =>
          cases hphys with
          | failed errno => exact absurd rfl hne
          | answered phys =>
              exact List.any_eq_true.mpr ⟨_, List.mem_cons_of_mem _ List.mem_cons_self,
                decide_eq_true rfl⟩

namespace SyncSummary

variable {a : SyncSummary w}

theorem owner_of_idle (hzero : a.count = 0) : a.owner = .device := if_pos hzero

theorem owner_of_stopped (hmanual : manualSync a.first = true) (hbegun : a.begun = false) :
    a.owner = .device := by
  unfold owner
  by_cases hzero : a.count = 0
  · rw [if_pos hzero]
  · rw [if_neg hzero, if_pos ⟨hmanual, hbegun⟩]

theorem owner_of_begun (hpos : 0 < a.count) (hopen : ¬ (manualSync a.first = true ∧ a.begun = false)) :
    a.owner =
      .cpu (reads (normaliseReadwriteAbsent a.first)) (writes (normaliseReadwriteAbsent a.first)) := by
  unfold owner
  rw [if_neg (Nat.ne_of_gt hpos), if_neg hopen]

/-- In a period the owner depends on the first flags and, with manual syncing, on the
client's session. -/
theorem owner_congr {a' : SyncSummary w} (hpos : 0 < a.count) (hpos' : 0 < a'.count)
    (hfirst : a'.first = a.first) (hbegun : manualSync a.first = true → a'.begun = a.begun) :
    a'.owner = a.owner := by
  have hsame : (manualSync a'.first = true ∧ a'.begun = false) ↔
      (manualSync a.first = true ∧ a.begun = false) := by
    rw [hfirst]
    exact and_congr_right fun hmanual => by rw [hbegun hmanual]
  by_cases hstopped : manualSync a.first = true ∧ a.begun = false
  · obtain ⟨hmanual', hbegun'⟩ := hsame.mpr hstopped
    rw [owner_of_stopped hstopped.1 hstopped.2, owner_of_stopped hmanual' hbegun']
  · rw [owner_of_begun hpos hstopped, owner_of_begun hpos' (fun h => hstopped (hsame.mp h)), hfirst]

end SyncSummary

/-- An owner that stays needs no flush. -/
theorem flushes_of_same {a a' : SyncSummary w} {P : Prop} (hsame : a'.owner = a.owner)
    (hneeds : needsFlush a.owner a'.owner = true) : P := by
  rw [hsame, needsFlush_self] at hneeds
  cases hneeds

namespace MmapParams

variable {p : MmapParams w} {a : SyncSummary w} {s : SyncState w} {t : List (KEvent w)}

/-- The start of a session with read access issues the ioctl. -/
theorem StartsSession.phys {flags : BitVec 32} (h : p.StartsSession flags t)
    (hreads : reads flags = true) : ∃ answer, ⟨.dmaBufIoctlPhys p.args.fd, answer⟩ ∈ t := by
  obtain ⟨rest, rfl, hioctl⟩ := h
  rw [SyncIoctl, if_pos hreads] at hioctl
  obtain ⟨answer, rfl⟩ := hioctl
  exact ⟨answer, List.mem_cons_of_mem _ (List.mem_singleton.mpr rfl)⟩

/-- So does the stop of one with write access. -/
theorem StopsSession.phys {flags : BitVec 32} (h : p.StopsSession flags t)
    (hwrites : writes flags = true) : ∃ answer, ⟨.dmaBufIoctlPhys p.args.fd, answer⟩ ∈ t := by
  obtain ⟨rest, rfl, hioctl⟩ := h
  rw [SyncIoctl, if_pos hwrites] at hioctl
  obtain ⟨answer, rfl⟩ := hioctl
  exact ⟨answer, List.mem_cons_of_mem _ (List.mem_singleton.mpr rfl)⟩

section Handover

variable (hnormalise : p.normalise = normaliseReadwriteAbsent)
include hnormalise

/-- The CPU gets the memory in a session that starts. -/
theorem handover_start {a' : SyncSummary w} (hdevice : a.owner = .device) (hpos : 0 < a'.count)
    (hserved : PhysServed p.args.fd t)
    (hstart : ¬ (manualSync a'.first = true ∧ a'.begun = false) →
      ∃ sync, p.StartsSession (p.normalise a'.first) sync ∧ ∀ e ∈ sync, e ∈ t)
    (hneeds : needsFlush a.owner a'.owner = true) : t.any (isPhysAnswer p.args.fd) = true := by
  by_cases hstopped : manualSync a'.first = true ∧ a'.begun = false
  · rw [hdevice, SyncSummary.owner_of_stopped hstopped.1 hstopped.2] at hneeds
    cases hneeds
  · rw [hdevice, SyncSummary.owner_of_begun hpos hstopped] at hneeds
    obtain ⟨sync, hsession, hsync⟩ := hstart hstopped
    rw [hnormalise] at hsession
    obtain ⟨answer, hmem⟩ := hsession.phys hneeds
    exact flushes_of_phys hserved (hsync _ hmem)

/-- The device gets it back where the session stops. -/
theorem handover_stop {a' : SyncSummary w} (hdevice : a'.owner = .device) (hpos : 0 < a.count)
    (hserved : PhysServed p.args.fd t)
    (hstop : ¬ (manualSync a.first = true ∧ a.begun = false) →
      ∃ sync, p.StopsSession (p.normalise a.first) sync ∧ ∀ e ∈ sync, e ∈ t)
    (hneeds : needsFlush a.owner a'.owner = true) : t.any (isPhysAnswer p.args.fd) = true := by
  by_cases hstopped : manualSync a.first = true ∧ a.begun = false
  · rw [hdevice, SyncSummary.owner_of_stopped hstopped.1 hstopped.2] at hneeds
    cases hneeds
  · rw [hdevice, SyncSummary.owner_of_begun hpos hstopped] at hneeds
    obtain ⟨sync, hsession, hsync⟩ := hstop hstopped
    rw [hnormalise] at hsession
    obtain ⟨answer, hmem⟩ := hsession.phys hneeds
    exact flushes_of_phys hserved (hsync _ hmem)

theorem manualSync_of_normalise (flags : BitVec 32) :
    manualSync (p.normalise flags) = manualSync flags := by
  rw [hnormalise, manualSync_normaliseReadwriteAbsent]

variable (hcached : p.isCached = true)
include hcached

/-- Maps. The first one of a period starts its session, if there is one. -/
theorem InSession.handover_map {s' : SyncState w} {flags : BitVec 32} {errorNonNull : Bool}
    {ret : BitVec w} (hs : p.InSession a s) (hsucceeds : ¬ MmapFailed t)
    (hserved : PhysServed p.args.fd t) (hstep : p.MapStep s flags errorNonNull t ret s')
    (hneeds : needsFlush a.owner (a.next ⟨.map flags errorNonNull, t, some ret⟩).owner = true) :
    t.any (isPhysAnswer p.args.fd) = true := by
  cases hstep with
  | redundant hmapped =>
      have hpos := hs.mapped.mp hmapped
      rw [SyncSummary.next_map_redundant hpos] at hneeds
      have hsame : ({ a with count := a.count + 1 } : SyncSummary w).owner = a.owner :=
        SyncSummary.owner_congr hpos (Nat.succ_pos _) rfl fun _ => rfl
      exact flushes_of_same hsame hneeds
  | failed => exact absurd ⟨_, _, _, _, _, List.mem_cons_self⟩ hsucceeds
  | fresh hunmapped mapped sync hsync =>
      have hzero := hs.count_eq_zero hunmapped
      rw [SyncSummary.next_map_first hzero] at hneeds
      refine handover_start hnormalise (SyncSummary.owner_of_idle hzero) Nat.one_pos hserved ?_ hneeds
      intro hopen
      have hauto : manualSync flags = false := by
        by_contra hmanual
        exact hopen ⟨by simpa using hmanual, rfl⟩
      have hfirst := AutoStarts.of_first hcached (manualSync_of_normalise hnormalise) hsync
      rw [hauto, if_neg Bool.false_ne_true] at hfirst
      exact ⟨sync, hfirst, fun e he => List.mem_cons_of_mem _ he⟩

/-- Unmaps. The last one of a period stops its session, if there is one. -/
theorem InSession.handover_unmap {s' : SyncState w} (hs : p.InSession a s)
    (hstops : StopsInTime a ⟨.unmap, t, none⟩) (hserved : PhysServed p.args.fd t)
    (hstep : p.UnmapStep s t s')
    (hneeds : needsFlush a.owner (a.next ⟨.unmap, t, none⟩).owner = true) :
    t.any (isPhysAnswer p.args.fd) = true := by
  have hrefcount := hs.refcount
  cases hstep with
  | surplus hunmapped =>
      have hzero := hs.count_eq_zero hunmapped
      rw [SyncSummary.next_unmap_more (by omega)] at hneeds
      have hidle : ({ a with count := a.count - 1 } : SyncSummary w).owner = .device :=
        SyncSummary.owner_of_idle (by rw [hzero])
      exact flushes_of_same (hidle.trans (SyncSummary.owner_of_idle hzero).symm) hneeds
  | decrement hmapped hmore =>
      have hpos := hs.mapped.mp hmapped
      have hleft : 0 < a.count - 1 := by omega
      rw [SyncSummary.next_unmap_more (by omega)] at hneeds
      have hsame : ({ a with count := a.count - 1 } : SyncSummary w).owner = a.owner :=
        SyncSummary.owner_congr hpos hleft rfl fun _ => rfl
      exact flushes_of_same hsame hneeds
  | last hmapped hone sync hsync =>
      have hpos := hs.mapped.mp hmapped
      have hcount : a.count = 1 := by omega
      rw [SyncSummary.next_unmap_last hcount] at hneeds
      refine handover_stop hnormalise (SyncSummary.owner_of_idle rfl) hpos hserved ?_ hneeds
      intro hopen
      have hauto : manualSync a.first = false := by
        by_contra hmanual
        have htrue : manualSync a.first = true := by simpa using hmanual
        exact hopen ⟨htrue, hstops rfl hcount htrue⟩
      rw [AutoStops, autoSync, hcached, hs.mapFlags hpos,
        manualSync_of_normalise hnormalise, hauto, Bool.not_false, Bool.and_true,
        if_pos rfl] at hsync
      exact ⟨sync, hsync, fun e he => List.mem_append_left _ he⟩

/-- Requests to start a session. -/
theorem InSession.handover_begin {s' : SyncState w} {ret : Option (BitVec w)}
    (hs : p.InSession a s) (hpos : 0 < a.count) (hserved : PhysServed p.args.fd t)
    (hstep : p.StartStep s t s')
    (hneeds : needsFlush a.owner (a.next ⟨.startSyncSession, t, ret⟩).owner = true) :
    t.any (isPhysAnswer p.args.fd) = true := by
  have hmanual := manualSync_of_normalise hnormalise
  have hstart := hs.served_start hmanual hcached hpos hstep
  by_cases hbegins : manualSync a.first = true ∧ a.begun = false
  · rw [if_pos hbegins] at hstart
    have hdevice := SyncSummary.owner_of_stopped hbegins.1 hbegins.2
    have hnext : 0 < (a.next ⟨.startSyncSession, t, ret⟩).count := hpos
    exact handover_start hnormalise hdevice hnext hserved
      (fun _ => ⟨t, hstart, fun _ he => he⟩) hneeds
  · have hbegun : manualSync a.first = true → true = a.begun := by
      intro hm
      by_contra hnot
      exact hbegins ⟨hm, by simpa using Ne.symm hnot⟩
    have hsame : (a.next ⟨.startSyncSession, t, ret⟩).owner = a.owner :=
      SyncSummary.owner_congr hpos hpos rfl hbegun
    exact flushes_of_same hsame hneeds

/-- Requests to stop it. -/
theorem InSession.handover_end {s' : SyncState w} {ret : Option (BitVec w)}
    (hs : p.InSession a s) (hpos : 0 < a.count) (hserved : PhysServed p.args.fd t)
    (hstep : p.StopStep s t s')
    (hneeds : needsFlush a.owner (a.next ⟨.stopSyncSession, t, ret⟩).owner = true) :
    t.any (isPhysAnswer p.args.fd) = true := by
  have hmanual := manualSync_of_normalise hnormalise
  have hstop := hs.served_stop hmanual hcached hpos hstep
  by_cases hends : manualSync a.first = true ∧ a.begun = true
  · rw [if_pos hends] at hstop
    refine handover_stop hnormalise ?_ hpos hserved (fun _ => ⟨t, hstop, fun _ he => he⟩) hneeds
    exact SyncSummary.owner_of_stopped hends.1 rfl
  · have hbegun : manualSync a.first = true → false = a.begun := by
      intro hm
      by_contra hnot
      exact hends ⟨hm, by simpa using Ne.symm hnot⟩
    have hsame : (a.next ⟨.stopSyncSession, t, ret⟩).owner = a.owner :=
      SyncSummary.owner_congr hpos hpos rfl hbegun
    exact flushes_of_same hsame hneeds

/-- Deallocations. -/
theorem InSession.handover_deallocate {ret : Option (BitVec w)} (hs : p.InSession a s)
    (hserved : PhysServed p.args.fd t) (hstep : p.DeallocateStep s t)
    (hneeds : needsFlush a.owner (a.next ⟨.deallocate, t, ret⟩).owner = true) :
    t.any (isPhysAnswer p.args.fd) = true := by
  have hmanual := manualSync_of_normalise hnormalise
  cases hstep with
  | unmapped hunmapped answer =>
      have hnext : a.next ⟨.deallocate, [⟨p.release, answer⟩], ret⟩ = a :=
        if_pos (hs.count_eq_zero hunmapped)
      rw [hnext] at hneeds
      exact flushes_of_same rfl hneeds
  | mapped hmapped sync hsync answer =>
      have hpos := hs.mapped.mp hmapped
      have hnext : ∀ t, a.next ⟨.deallocate, t, ret⟩ = a.close t :=
        fun t => if_neg (Nat.ne_of_gt hpos)
      rw [hnext] at hneeds
      refine handover_stop hnormalise (SyncSummary.owner_of_idle rfl) hpos hserved ?_ hneeds
      intro hopen
      have hsession : manualSync a.first = false ∨ a.begun = true := by
        cases hm : manualSync a.first with
        | false => exact Or.inl rfl
        | true => exact Or.inr (by simpa [hm] using hopen)
      have hstops := hs.teardownStops hcached hmanual hpos hsync
      rw [if_pos hsession] at hstops
      exact ⟨sync, hstops, fun e he => List.mem_append_left _ he⟩

/-- **One call** hands the memory over with a flush where one is needed. -/
theorem InSession.handover {r : CallRecord w} {u : Option (SyncState w)} (hs : p.InSession a s)
    (hstops : StopsInTime a r) (hsucceeds : ¬ MmapFailed r.events)
    (hsessions : p.SessionsWhileMapped (some s) r.op r.events)
    (hserved : PhysServed p.args.fd r.events) (hstep : p.Step s r.op r.events r.ret u)
    (hneeds : needsFlush a.owner (a.next r).owner = true) :
    r.events.any (isPhysAnswer p.args.fd) = true := by
  obtain ⟨op, t, ret⟩ := r
  have hmapped : op = .startSyncSession ∨ op = .stopSyncSession → 0 < a.count := by
    intro hop
    obtain ⟨_, heq, hmapped⟩ := hsessions hop
    obtain rfl := Option.some.inj heq
    exact hs.mapped.mp hmapped
  cases hstep with
  | map hmap => exact hs.handover_map hnormalise hcached hsucceeds hserved hmap hneeds
  | unmap hunmap => exact hs.handover_unmap hnormalise hcached hstops hserved hunmap hneeds
  | startSyncSession hstart =>
      exact hs.handover_begin hnormalise hcached (hmapped (Or.inl rfl)) hserved hstart hneeds
  | stopSyncSession hstop =>
      exact hs.handover_end hnormalise hcached (hmapped (Or.inr rfl)) hserved hstop hneeds
  | deallocate hdeallocate =>
      exact hs.handover_deallocate hnormalise hcached hserved hdeallocate hneeds

variable {Loc V : Type} [DecidableEq Loc] {phys : CachedMemory Loc V → CachedMemory Loc V}

/-- **All that happens**, from any state in which memory and cache agree. -/
theorem coherent_run (hphys : CleansAndInvalidates phys) {x : List (Happening w Loc V)}
    {u finish : Option (SyncState w)}
    (hs : p.machine.Steps (fun u op t => ¬ MmapFailed t ∧ p.SessionsWhileMapped u op t) u (callsOf x)
      finish)
    (hstops : Machine.Along SyncSummary.next StopsInTime a (callsOf x))
    (hserved : ∀ r ∈ callsOf x, PhysServed p.args.fd r.events) (htracks : p.Tracks a u)
    {m : CachedMemory Loc V} {latest : Loc → V} (hagrees : m.Agrees latest a.owner)
    (howned : AccessedByOwner a x) (hobserved : Observed phys p.args.fd m x) : ReadLatest latest x := by
  induction x generalizing a u m latest with
  | nil => trivial
  | cons happening x ih =>
      cases happening with
      | access access =>
          obtain ⟨hallowed, howned⟩ := howned
          obtain ⟨hreturned, hobserved⟩ := hobserved
          exact ⟨hagrees.readsLatest hallowed hreturned,
            ih hs hstops hserved htracks (hagrees.after hallowed) howned hobserved⟩
      | call r =>
          obtain ⟨u', hguard, hrun, hrest⟩ := Machine.steps_cons_iff.mp hs
          obtain ⟨hr, hservedRest⟩ := List.forall_mem_cons.mp hserved
          have htracks' := htracks.step hcached (manualSync_of_normalise hnormalise) hstops.1
            hguard.1 hguard.2 hrun
          refine ih hrest hstops.2 hservedRest htracks' ?_ howned hobserved
          cases u with
          | none => cases (runs_halt_iff.mp hrun).2
          | some s =>
              by_cases hflush : r.events.any (isPhysAnswer p.args.fd) = true
              · exact flushedBy_anybody hphys hagrees hflush
              · rw [flushedBy_quiet (by simpa using hflush)]
                refine hagrees.handover ?_
                by_contra hneeds
                exact hflush (InSession.handover hnormalise hcached htracks hstops.1 hguard.1 hguard.2
                  hr (step_done hrun) (by simpa using hneeds))

end Handover

end MmapParams

/-- The client of `manualHistory` stores 7 in its session; the cache gives other lines up and
fetches them again, and a device reads the 7 once the session has stopped. -/
def storeInSession : List (Happening 64 Bool Nat) :=
  [.call ⟨.map (mappingFlagWrite ||| mappingFlagManualSync) true,
      [⟨.mmap 4096 protWrite 4 0, .ok ⟨0x10000, sample_address_ne_null⟩⟩], some 0x10000⟩,
    .access (.fill true), .access (.deviceWrite false 5),
    .call ⟨.startSyncSession, [⟨.syncSessionStarts 4, ()⟩], none⟩,
    .access (.store true 7), .access (.fill false), .access (.store false 8), .access (.evict false),
    .call ⟨.startSyncSession, [], none⟩,
    .call ⟨.stopSyncSession, [⟨.syncSessionStops 4, ()⟩, ⟨.dmaBufIoctlPhys 4, .ok 0x80000000⟩], none⟩,
    .access (.deviceRead true 7),
    .call ⟨.unmap, [⟨.munmap 0x10000 4096, ()⟩], none⟩]

end ImxDmaBuffer
