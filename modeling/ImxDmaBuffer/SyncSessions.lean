import ImxDmaBuffer.FailedMap
import ImxDmaBuffer.ReferenceCounting

/-!
# Cache sync sessions

A cached dma-heap buffer needs its cache synchronised between the `mmap` and the
`munmap` of a mapping period.  If the first map of the period did not ask for
manual syncing, one session spans the whole period.  If it did, the client
starts and stops sessions, and they alternate.  Sessions begin and end in four
places of the code: map, unmap, the two explicit calls and deallocate.

`SessionLaw` says what was issued in every period, and `ServedInPeriod` what the
next call issues.  Both are stated over the calls of a history, from what the
client did and what the environment saw.
-/

namespace ImxDmaBuffer

open CallProgram

variable {w : Nat}

/-- What the calls so far say about a buffer's mapping periods: the number of
outstanding maps, the flags of the period's first map, whether the client has
started a session in the period and not stopped it, what was issued since the
period began, and the first flags and the events of each finished period. -/
structure SyncSummary (w : Nat) where
  count : Nat
  first : BitVec 32
  begun : Bool
  period : List (KEvent w)
  finished : List (BitVec 32 × List (KEvent w))

/-- No period has begun. -/
def SyncSummary.idle : SyncSummary w := ⟨0, 0, false, [], []⟩

/-- The period goes on. -/
def SyncSummary.goOn (a : SyncSummary w) (t : List (KEvent w)) : SyncSummary w :=
  { a with period := a.period ++ t }

/-- The period ends. -/
def SyncSummary.close (a : SyncSummary w) (t : List (KEvent w)) : SyncSummary w :=
  { a with
    count := 0
    period := []
    finished := a.finished ++ [(a.first, a.period ++ t)] }

/-- One more call. A map at count zero begins a period; the unmap that reaches
zero and the deallocation end it. -/
def SyncSummary.next (a : SyncSummary w) (r : CallRecord w) : SyncSummary w :=
  match r.op with
  | .map flags _ =>
      if a.count = 0 then { a with count := 1, first := flags, begun := false, period := r.events }
      else { a.goOn r.events with count := a.count + 1 }
  | .unmap =>
      if a.count = 1 then a.close r.events
      else { a.goOn r.events with count := a.count - 1 }
  | .startSyncSession => { a.goOn r.events with begun := true }
  | .stopSyncSession => { a.goOn r.events with begun := false }
  | .deallocate => if a.count = 0 then a else a.close r.events

/-- The summary of a history. -/
def syncSummary (h : List (CallRecord w)) : SyncSummary w :=
  h.foldl SyncSummary.next .idle

/-- Every `mmap` succeeds, and sessions are started and stopped only while the
buffer is mapped. -/
def SyncClient : (bufferMachine w).Guard := fun (c : Option (DmaBuffer w)) op t =>
  ¬ MmapFailed t ∧ SessionsWhileMapped c op t

/-- A session that the client started in a period with manual syncing is stopped
before the unmap that ends the period. -/
def StopsInTime (a : SyncSummary w) (r : CallRecord w) : Prop :=
  r.op = .unmap → a.count = 1 → manualSync a.first = true → a.begun = false

namespace MmapParams

/-- The sessions of a period with manual syncing: starts and stops alternate,
beginning with a start; the flag says whether one is open at the end. -/
inductive Alternates (p : MmapParams w) (flags : BitVec 32) : Bool → List (KEvent w) → Prop
  | nil : Alternates p flags false []
  | start {t t' : List (KEvent w)} (h : Alternates p flags false t)
      (hstart : p.StartsSession flags t') : Alternates p flags true (t ++ t')
  | stop {t t' : List (KEvent w)} (h : Alternates p flags true t)
      (hstop : p.StopsSession flags t') : Alternates p flags false (t ++ t')

/-- The `mmap` that begins a period with these flags. -/
def mapEvent (p : MmapParams w) (flags : BitVec 32) (mapped : MappedAddress w) : KEvent w :=
  ⟨.mmap p.args.length (mmapProt (p.normalise flags)) p.args.fd p.args.offset, .ok mapped⟩

/-- The `munmap` that ends it. -/
def unmapEvent (p : MmapParams w) (mapped : MappedAddress w) : KEvent w :=
  ⟨.munmap mapped.address p.args.length, ()⟩

/-- What is issued in a period that goes on: right after the `mmap` the one
session starts, or else sessions alternate. -/
def OpenPeriod (p : MmapParams w) (mapped : MappedAddress w) (flags : BitVec 32) (begun : Bool)
    (t : List (KEvent w)) : Prop :=
  ∃ sessions, t = p.mapEvent flags mapped :: sessions ∧
    if manualSync flags then p.Alternates (p.normalise flags) begun sessions
    else p.StartsSession (p.normalise flags) sessions

/-- What is issued in a finished period: the one session stops right before the
`munmap`, or else all sessions are stopped by then. A deallocation also releases
the memory, after the `munmap`. -/
def ClosedPeriod (p : MmapParams w) (flags : BitVec 32) (t : List (KEvent w)) : Prop :=
  ∃ mapped sessions rest,
    t = p.mapEvent flags mapped :: (sessions ++ p.unmapEvent mapped :: rest) ∧
    (∀ e ∈ rest, e.call = p.release) ∧
    if manualSync flags then p.Alternates (p.normalise flags) false sessions
    else ∃ starts stops, sessions = starts ++ stops ∧
      p.StartsSession (p.normalise flags) starts ∧ p.StopsSession (p.normalise flags) stops

end MmapParams

/-- **The law of sessions** after calls with summary `a`: every finished period
is bracketed, and so is the current one as far as it has come. -/
structure SessionLaw (p : MmapParams w) (a : SyncSummary w) : Prop where
  finished : ∀ period ∈ a.finished, p.ClosedPeriod period.1 period.2
  current : 0 < a.count → ∃ mapped, p.OpenPeriod mapped a.first a.begun a.period

/-- What the next call on buffer `b` issues, after calls with summary `a`: the
map that begins a period the `mmap`, and a session start unless it asks for
manual syncing; redundant maps nothing, and their flags are not kept; explicit
calls have no effect in a period of one session, and repeated ones no effect in
any; in a period with manual syncing, only they and the deallocation
synchronise, which stops the session that is open, if one is. -/
structure ServedInPeriod (p : MmapParams w) (a : SyncSummary w) (b : DmaBuffer w)
    (r : CallRecord w) (c : Option (DmaBuffer w)) : Prop where
  first : a.count = 0 → ∀ flags errorNonNull, r.op = .map flags errorNonNull →
    ∃ mapped sync, r.events = p.mapEvent flags mapped :: sync ∧
      if manualSync flags then sync = [] else p.StartsSession (p.normalise flags) sync
  redundant : 0 < a.count → ∀ flags errorNonNull, r.op = .map flags errorNonNull →
    r.events = [] ∧ ∃ b', c = some b' ∧ b'.mapFlags = b.mapFlags ∧ b'.syncStarted = b.syncStarted
  noEffect : 0 < a.count → manualSync a.first = false →
    r.op = .startSyncSession ∨ r.op = .stopSyncSession → r.events = [] ∧ c = some b
  start : 0 < a.count → manualSync a.first = true → r.op = .startSyncSession →
    if a.begun then r.events = [] ∧ c = some b
    else p.StartsSession (p.normalise a.first) r.events
  stop : 0 < a.count → manualSync a.first = true → r.op = .stopSyncSession →
    if a.begun then p.StopsSession (p.normalise a.first) r.events
    else r.events = [] ∧ c = some b
  explicitOnly : 0 < a.count → manualSync a.first = true → r.op.IsMapOrUnmap →
    ∀ e ∈ r.events, e.call.isSync = false
  teardown : 0 < a.count → r.op = .deallocate →
    ∃ stops mapped answer, r.events = stops ++ [p.unmapEvent mapped, ⟨p.release, answer⟩] ∧
      if manualSync a.first = false ∨ a.begun = true
      then p.StopsSession (p.normalise a.first) stops else stops = []
  outside : a.count = 0 → (r.op = .unmap → r.events = [] ∧ c = some b) ∧
    (r.op = .deallocate → ∀ e ∈ r.events, e.call = p.release)

theorem SyncSummary.goOn_nil (a : SyncSummary w) : a.goOn [] = a := by
  unfold SyncSummary.goOn
  rw [List.append_nil]

theorem SyncSummary.next_map_first {a : SyncSummary w} (hzero : a.count = 0) {flags : BitVec 32}
    {errorNonNull : Bool} {t : List (KEvent w)} {ret : Option (BitVec w)} :
    a.next ⟨.map flags errorNonNull, t, ret⟩ =
      { a with count := 1, first := flags, begun := false, period := t } :=
  if_pos hzero

theorem SyncSummary.next_map_redundant {a : SyncSummary w} (hpos : 0 < a.count) {flags : BitVec 32}
    {errorNonNull : Bool} {ret : Option (BitVec w)} :
    a.next ⟨.map flags errorNonNull, [], ret⟩ = { a with count := a.count + 1 } := by
  have hnext : a.next ⟨.map flags errorNonNull, [], ret⟩ =
      { a.goOn [] with count := a.count + 1 } := if_neg (by omega)
  rw [hnext, SyncSummary.goOn_nil]

theorem SyncSummary.next_unmap_last {a : SyncSummary w} (hone : a.count = 1)
    {t : List (KEvent w)} {ret : Option (BitVec w)} : a.next ⟨.unmap, t, ret⟩ = a.close t :=
  if_pos hone

theorem SyncSummary.next_unmap_more {a : SyncSummary w} (hmore : a.count ≠ 1)
    {ret : Option (BitVec w)} : a.next ⟨.unmap, [], ret⟩ = { a with count := a.count - 1 } := by
  have hnext : a.next ⟨.unmap, [], ret⟩ = { a.goOn [] with count := a.count - 1 } := if_neg hmore
  rw [hnext, SyncSummary.goOn_nil]

namespace MmapParams

variable {p : MmapParams w}

/-- The mutable part of a cached buffer agrees with the summary: outside periods
no session is begun, and in a period one is exactly when it is the period's own
or the client's. -/
structure InSession (p : MmapParams w) (a : SyncSummary w) (s : SyncState w) : Prop where
  refcount : s.mappingRefcount = a.count
  mapped : s.mappedVirtualAddress ≠ 0 ↔ 0 < a.count
  mapFlags : 0 < a.count → s.mapFlags = p.normalise a.first
  stopped : a.count = 0 → s.syncStarted = false
  started : 0 < a.count → s.syncStarted = (!manualSync a.first || a.begun)
  current : 0 < a.count → ∃ mapped, s.mappedVirtualAddress = mapped.address ∧
    p.OpenPeriod mapped a.first a.begun a.period
  finished : ∀ period ∈ a.finished, p.ClosedPeriod period.1 period.2

theorem InSession.count_eq_zero {a : SyncSummary w} {s : SyncState w} (hs : p.InSession a s)
    (hunmapped : s.mappedVirtualAddress = 0) : a.count = 0 := by
  by_contra hne
  exact hs.mapped.mpr (Nat.pos_of_ne_zero hne) hunmapped

/-- With manual syncing, a session is started exactly when the client's is. -/
theorem InSession.started_eq_begun {a : SyncSummary w} {s : SyncState w} (hs : p.InSession a s)
    (hpos : 0 < a.count) (hfirst : manualSync a.first = true) : s.syncStarted = a.begun := by
  rw [hs.started hpos, hfirst, Bool.not_true, Bool.false_or]

/-- A period can end once its sessions are stopped. -/
theorem OpenPeriod.close {mapped : MappedAddress w} {flags : BitVec 32} {begun : Bool}
    {t stops rest : List (KEvent w)} (h : p.OpenPeriod mapped flags begun t)
    (hstops : if manualSync flags = false ∨ begun = true
      then p.StopsSession (p.normalise flags) stops else stops = [])
    (hrest : ∀ e ∈ rest, e.call = p.release) :
    p.ClosedPeriod flags (t ++ (stops ++ p.unmapEvent mapped :: rest)) := by
  obtain ⟨sessions, rfl, hsessions⟩ := h
  refine ⟨mapped, sessions ++ stops, rest, ?_, hrest, ?_⟩
  · rw [List.cons_append, List.append_assoc]
  · by_cases hmanual : manualSync flags = true
    · rw [if_pos hmanual] at hsessions
      rw [if_pos hmanual]
      cases begun with
      | true =>
          rw [if_pos (Or.inr rfl)] at hstops
          exact .stop hsessions hstops
      | false =>
          rw [if_neg (by simp [hmanual])] at hstops
          rw [hstops, List.append_nil]
          exact hsessions
    · rw [if_neg hmanual] at hsessions
      rw [if_neg hmanual]
      rw [if_pos (Or.inl (by simpa using hmanual))] at hstops
      exact ⟨sessions, stops, rfl, hsessions, hstops⟩

/-- With manual syncing, a session that is stopped can be started. -/
theorem OpenPeriod.starts {mapped : MappedAddress w} {flags : BitVec 32}
    {t t' : List (KEvent w)} (hm : manualSync flags = true)
    (h : p.OpenPeriod mapped flags false t) (hsync : p.StartsSession (p.normalise flags) t') :
    p.OpenPeriod mapped flags true (t ++ t') := by
  obtain ⟨sessions, rfl, hsessions⟩ := h
  rw [if_pos hm] at hsessions
  refine ⟨sessions ++ t', rfl, ?_⟩
  rw [if_pos hm]
  exact .start hsessions hsync

/-- With manual syncing, a session that is started can be stopped. -/
theorem OpenPeriod.stops {mapped : MappedAddress w} {flags : BitVec 32}
    {t t' : List (KEvent w)} (hm : manualSync flags = true)
    (h : p.OpenPeriod mapped flags true t) (hsync : p.StopsSession (p.normalise flags) t') :
    p.OpenPeriod mapped flags false (t ++ t') := by
  obtain ⟨sessions, rfl, hsessions⟩ := h
  rw [if_pos hm] at hsessions
  refine ⟨sessions ++ t', rfl, ?_⟩
  rw [if_pos hm]
  exact .stop hsessions hsync

/-- In a period of one session it does not matter what the client asked for. -/
theorem OpenPeriod.of_begun {mapped : MappedAddress w} {flags : BitVec 32} {begun begun' : Bool}
    {t : List (KEvent w)} (h : p.OpenPeriod mapped flags begun t)
    (hsame : manualSync flags = true → begun = begun') : p.OpenPeriod mapped flags begun' t := by
  obtain ⟨sessions, rfl, hsessions⟩ := h
  refine ⟨sessions, rfl, ?_⟩
  by_cases hm : manualSync flags = true
  · rw [if_pos hm] at hsessions ⊢
    rwa [← hsame hm]
  · rw [if_neg hm] at hsessions ⊢
    exact hsessions

/-- The summary after a period has ended. -/
theorem closed_finished {a : SyncSummary w} {t : List (KEvent w)}
    (hfinished : ∀ period ∈ a.finished, p.ClosedPeriod period.1 period.2)
    (hclosed : p.ClosedPeriod a.first (a.period ++ t)) :
    ∀ period ∈ (a.close t).finished, p.ClosedPeriod period.1 period.2 := by
  intro period hmem
  rcases List.mem_append.mp hmem with hold | hnew
  · exact hfinished period hold
  · obtain rfl := List.mem_singleton.mp hnew
    exact hclosed

section Cached

variable (hcached : p.isCached = true)
  (hmanual : ∀ flags, manualSync (p.normalise flags) = manualSync flags)
include hcached hmanual

theorem autoSync_normalise (flags : BitVec 32) :
    p.autoSync (p.normalise flags) = !manualSync flags := by
  rw [autoSync, hcached, hmanual, Bool.true_and]

/-- The map that begins a period starts its session, unless the client syncs manually. -/
theorem AutoStarts.of_first {flags : BitVec 32} {sync : List (KEvent w)}
    (h : p.AutoStarts (p.normalise flags) sync) :
    if manualSync flags then sync = [] else p.StartsSession (p.normalise flags) sync := by
  rw [AutoStarts, autoSync_normalise hcached hmanual] at h
  cases hflags : manualSync flags with
  | true => simpa [hflags] using h
  | false => simpa [hflags] using h

omit hcached in
/-- In a period, the buffer syncs manually when the flags of the first map said so. -/
theorem InSession.manualSync_mapFlags {a : SyncSummary w} {s : SyncState w}
    (hs : p.InSession a s) (hpos : 0 < a.count) : manualSync s.mapFlags = manualSync a.first := by
  rw [hs.mapFlags hpos, hmanual]

/-- Maps. -/
theorem InSession.map {a : SyncSummary w} {s s' : SyncState w} {flags : BitVec 32}
    {errorNonNull : Bool} {t : List (KEvent w)} {ret : BitVec w} (hs : p.InSession a s)
    (hsucceeds : ¬ MmapFailed t) (hstep : p.MapStep s flags errorNonNull t ret s') :
    p.InSession (a.next ⟨.map flags errorNonNull, t, some ret⟩) s' := by
  have hrefcount := hs.refcount
  cases hstep with
  | redundant hmapped =>
      have hpos := hs.mapped.mp hmapped
      rw [SyncSummary.next_map_redundant hpos]
      refine ⟨?_, ⟨fun _ => Nat.succ_pos _, fun _ => hmapped⟩, fun _ => hs.mapFlags hpos,
        fun hzero => absurd hzero (Nat.succ_ne_zero _), fun _ => hs.started hpos,
        fun _ => hs.current hpos, hs.finished⟩
      push_cast
      exact congrArg (· + 1) hrefcount
  | failed => exact absurd ⟨_, _, _, _, _, List.mem_cons_self⟩ hsucceeds
  | fresh hunmapped mapped sync hsync =>
      have hzero := hs.count_eq_zero hunmapped
      have hauto := autoSync_normalise hcached hmanual flags
      rw [SyncSummary.next_map_first hzero]
      refine ⟨rfl, ⟨fun _ => Nat.one_pos, fun _ => mapped.ne_null⟩, fun _ => rfl,
        fun hone => absurd hone Nat.one_ne_zero, fun _ => ?_, fun _ => ⟨mapped, rfl, sync, rfl, ?_⟩,
        hs.finished⟩
      · simp only [hauto, hs.stopped hzero, Bool.false_or, Bool.or_false]
      · have hfirst := AutoStarts.of_first hcached hmanual hsync
        by_cases hmanualFlags : manualSync flags = true
        · rw [if_pos hmanualFlags] at hfirst ⊢
          rw [hfirst]
          exact .nil
        · rwa [if_neg hmanualFlags] at hfirst ⊢

/-- Unmaps. -/
theorem InSession.unmap {a : SyncSummary w} {s s' : SyncState w} {t : List (KEvent w)}
    (hs : p.InSession a s) (hstops : StopsInTime a ⟨.unmap, t, none⟩)
    (hstep : p.UnmapStep s t s') : p.InSession (a.next ⟨.unmap, t, none⟩) s' := by
  have hrefcount := hs.refcount
  cases hstep with
  | surplus hunmapped =>
      have hzero := hs.count_eq_zero hunmapped
      have hsame : { a with count := a.count - 1 } = a := by
        rw [hzero]
        cases a
        exact congrArg (fun n => SyncSummary.mk n _ _ _ _) hzero.symm
      rw [SyncSummary.next_unmap_more (by omega), hsame]
      exact hs
  | decrement hmapped hmore =>
      have hpos := hs.mapped.mp hmapped
      have htwo : 0 < a.count - 1 := by omega
      rw [SyncSummary.next_unmap_more (by omega)]
      refine ⟨?_, ⟨fun _ => htwo, fun _ => hmapped⟩, fun _ => hs.mapFlags hpos, ?_,
        fun _ => hs.started hpos, fun _ => hs.current hpos, hs.finished⟩
      · change s.mappingRefcount - 1 = ((a.count - 1 : Nat) : Int)
        omega
      · intro hzero
        exact absurd hzero (Nat.ne_of_gt htwo)
  | last hmapped hone sync hsync =>
      have hpos := hs.mapped.mp hmapped
      have hcount : a.count = 1 := by omega
      have hauto := autoSync_normalise hcached hmanual a.first
      obtain ⟨mapped, haddress, hopen⟩ := hs.current hpos
      rw [AutoStops, hs.mapFlags hpos, hauto] at hsync
      have hstop : manualSync a.first = true → a.begun = false := hstops rfl hcount
      rw [SyncSummary.next_unmap_last hcount]
      refine ⟨rfl, ⟨fun h => absurd rfl h, fun h => absurd h (Nat.lt_irrefl 0)⟩,
        fun h => absurd h (Nat.lt_irrefl 0), fun _ => ?_, fun h => absurd h (Nat.lt_irrefl 0),
        fun h => absurd h (Nat.lt_irrefl 0), closed_finished hs.finished ?_⟩
      · simp only [hs.started hpos, hs.mapFlags hpos, hauto, Bool.not_not]
        cases hflags : manualSync a.first with
        | true => rw [hstop hflags]; rfl
        | false => rfl
      · rw [haddress]
        refine hopen.close ?_ (fun e he => by cases he)
        by_cases hflags : manualSync a.first = true
        · rw [hflags, Bool.not_true, if_neg Bool.false_ne_true] at hsync
          rw [if_neg (by simp [hflags, hstop hflags])]
          exact hsync
        · rw [if_pos (by simpa using hflags)] at hsync
          rw [if_pos (Or.inl (by simpa using hflags))]
          exact hsync

/-- Requests to start a session. -/
theorem InSession.start {a : SyncSummary w} {s s' : SyncState w} {t : List (KEvent w)}
    {ret : Option (BitVec w)} (hs : p.InSession a s) (hpos : 0 < a.count)
    (hstep : p.StartStep s t s') : p.InSession (a.next ⟨.startSyncSession, t, ret⟩) s' := by
  have hflags := hs.manualSync_mapFlags hmanual hpos
  have hstarted := hs.started hpos
  obtain ⟨mapped, haddress, hopen⟩ := hs.current hpos
  cases hstep with
  | ignored hno =>
      have hbegun : s.syncStarted = true := by
        by_contra hstopped
        have hfalse : s.syncStarted = false := by simpa using hstopped
        by_cases hm : manualSync a.first = true
        · exact hno ⟨hcached, hfalse, hflags.trans hm⟩
        · simp [hfalse, hm] at hstarted
      refine ⟨hs.refcount, hs.mapped, hs.mapFlags, fun h => hs.stopped h, fun _ => ?_,
        fun _ => ⟨mapped, haddress, ?_⟩, hs.finished⟩
      · rw [hbegun]
        exact (Bool.or_true _).symm
      · change p.OpenPeriod mapped a.first true (a.period ++ [])
        rw [List.append_nil]
        exact hopen.of_begun (fun hm => (hs.started_eq_begun hpos hm).symm.trans hbegun)
  | begins _ hstopped hm _ hsync =>
      rw [hflags] at hm
      rw [hs.mapFlags hpos] at hsync
      refine ⟨hs.refcount, hs.mapped, hs.mapFlags, fun h => absurd h (Nat.ne_of_gt hpos),
        fun _ => (Bool.or_true _).symm, fun _ => ⟨mapped, haddress, ?_⟩, hs.finished⟩
      rw [← hs.started_eq_begun hpos hm, hstopped] at hopen
      exact hopen.starts hm hsync

/-- Requests to stop the session. -/
theorem InSession.stop {a : SyncSummary w} {s s' : SyncState w} {t : List (KEvent w)}
    {ret : Option (BitVec w)} (hs : p.InSession a s) (hpos : 0 < a.count)
    (hstep : p.StopStep s t s') : p.InSession (a.next ⟨.stopSyncSession, t, ret⟩) s' := by
  have hflags := hs.manualSync_mapFlags hmanual hpos
  have hstarted := hs.started hpos
  obtain ⟨mapped, haddress, hopen⟩ := hs.current hpos
  cases hstep with
  | ignored hno =>
      have hstopped : manualSync a.first = true → s.syncStarted = false := by
        intro hm
        by_contra hbegun
        exact hno ⟨hcached, by simpa using hbegun, hflags.trans hm⟩
      refine ⟨hs.refcount, hs.mapped, hs.mapFlags, fun h => hs.stopped h, fun _ => ?_,
        fun _ => ⟨mapped, haddress, ?_⟩, hs.finished⟩
      · change s.syncStarted = (!manualSync a.first || false)
        cases hm : manualSync a.first with
        | true => exact hstopped hm
        | false => rw [hstarted, hm]; rfl
      · change p.OpenPeriod mapped a.first false (a.period ++ [])
        rw [List.append_nil]
        exact hopen.of_begun (fun hm => (hs.started_eq_begun hpos hm).symm.trans (hstopped hm))
  | ends _ hbegun hm _ hsync =>
      rw [hflags] at hm
      rw [hs.mapFlags hpos] at hsync
      refine ⟨hs.refcount, hs.mapped, hs.mapFlags, fun _ => rfl,
        fun _ => ?_, fun _ => ⟨mapped, haddress, ?_⟩, hs.finished⟩
      · change false = (!manualSync a.first || false)
        rw [hm]
        rfl
      rw [← hs.started_eq_begun hpos hm, hbegun] at hopen
      exact hopen.stops hm hsync

/-- A teardown stops the session that is open: the period's own, or the client's. -/
theorem InSession.teardownStops {a : SyncSummary w} {s : SyncState w} {stops : List (KEvent w)}
    (hs : p.InSession a s) (hpos : 0 < a.count) (hstops : p.TeardownStops s stops) :
    if manualSync a.first = false ∨ a.begun = true
    then p.StopsSession (p.normalise a.first) stops else stops = [] := by
  unfold TeardownStops sessionOpen at hstops
  rw [hs.manualSync_mapFlags hmanual hpos, hs.started hpos, hcached, hs.mapFlags hpos] at hstops
  cases hm : manualSync a.first with
  | true => simpa [hm] using hstops
  | false => simpa [hm] using hstops

/-- Deallocations. -/
theorem InSession.deallocate {a : SyncSummary w} {s : SyncState w} {t : List (KEvent w)}
    {ret : Option (BitVec w)} (hs : p.InSession a s) (hstep : p.DeallocateStep s t) :
    (a.next ⟨.deallocate, t, ret⟩).count = 0 ∧
      ∀ period ∈ (a.next ⟨.deallocate, t, ret⟩).finished, p.ClosedPeriod period.1 period.2 := by
  cases hstep with
  | unmapped hunmapped =>
      have hzero := hs.count_eq_zero hunmapped
      have hnext : ∀ t, a.next ⟨.deallocate, t, ret⟩ = a := fun t => if_pos hzero
      rw [hnext]
      exact ⟨hzero, hs.finished⟩
  | mapped hmapped stops hstops answer =>
      have hpos := hs.mapped.mp hmapped
      obtain ⟨mapped, haddress, hopen⟩ := hs.current hpos
      have hclose : ∀ t, a.next ⟨.deallocate, t, ret⟩ = a.close t :=
        fun t => if_neg (Nat.ne_of_gt hpos)
      rw [hclose]
      refine ⟨rfl, closed_finished hs.finished ?_⟩
      rw [haddress]
      refine hopen.close ?_ (fun e he => by rw [List.mem_singleton.mp he])
      exact hs.teardownStops hcached hmanual hpos hstops

/-- What holds of a buffer that exists or is deallocated already. -/
def Tracks (p : MmapParams w) (a : SyncSummary w) : Option (SyncState w) → Prop
  | some s => p.InSession a s
  | none => a.count = 0 ∧ ∀ period ∈ a.finished, p.ClosedPeriod period.1 period.2

/-- **One call** of a client that stops its sessions in time. -/
theorem Tracks.step {a : SyncSummary w} {u u' : Option (SyncState w)} {r : CallRecord w}
    (hu : p.Tracks a u) (hstops : StopsInTime a r) (hsucceeds : ¬ MmapFailed r.events)
    (hsessions : p.SessionsWhileMapped u r.op r.events)
    (hrun : Runs (p.machine.step u r.op) r.events (.done (r.ret, u'))) :
    p.Tracks (a.next r) u' := by
  cases u with
  | none => cases (runs_halt_iff.mp hrun).2
  | some s =>
      obtain ⟨op, t, ret⟩ := r
      have hmapped : op = .startSyncSession ∨ op = .stopSyncSession → 0 < a.count := by
        intro hop
        obtain ⟨_, heq, hmapped⟩ := hsessions hop
        obtain rfl := Option.some.inj heq
        exact hu.mapped.mp hmapped
      cases step_done hrun with
      | map hstep => exact InSession.map hcached hmanual hu hsucceeds hstep
      | unmap hstep => exact InSession.unmap hcached hmanual hu hstops hstep
      | startSyncSession hstep =>
          exact InSession.start hcached hmanual hu (hmapped (Or.inl rfl)) hstep
      | stopSyncSession hstep =>
          exact InSession.stop hcached hmanual hu (hmapped (Or.inr rfl)) hstep
      | deallocate hstep => exact InSession.deallocate hcached hmanual hu hstep

end Cached

/-- The law, for a buffer that exists or is deallocated already. -/
theorem Tracks.law {a : SyncSummary w} {u : Option (SyncState w)} (hu : p.Tracks a u) :
    SessionLaw p a := by
  cases u with
  | none =>
      obtain ⟨hzero, hfinished⟩ := hu
      exact ⟨hfinished, fun hpos => absurd hzero (Nat.ne_of_gt hpos)⟩
  | some s =>
      refine ⟨hu.finished, fun hpos => ?_⟩
      obtain ⟨mapped, -, hopen⟩ := hu.current hpos
      exact ⟨mapped, hopen⟩

/-- A map in a period issues nothing and leaves its flags and its session alone. -/
theorem InSession.served_map {a : SyncSummary w} {s s' : SyncState w} {flags : BitVec 32}
    {errorNonNull : Bool} {t : List (KEvent w)} {ret : BitVec w} (hs : p.InSession a s)
    (hpos : 0 < a.count) (hstep : p.MapStep s flags errorNonNull t ret s') :
    t = [] ∧ s'.mapFlags = s.mapFlags ∧ s'.syncStarted = s.syncStarted := by
  have hmapped := hs.mapped.mpr hpos
  cases hstep with
  | redundant => exact ⟨rfl, rfl, rfl⟩
  | failed hunmapped => exact absurd hunmapped hmapped
  | fresh hunmapped => exact absurd hunmapped hmapped

section Served

variable (hmanual : ∀ flags, manualSync (p.normalise flags) = manualSync flags)
include hmanual

/-- With manual syncing, an unmap does not synchronise. -/
theorem InSession.served_unmap {a : SyncSummary w} {s s' : SyncState w} {t : List (KEvent w)}
    (hs : p.InSession a s) (hpos : 0 < a.count) (hfirst : manualSync a.first = true)
    (hstep : p.UnmapStep s t s') : ∀ e ∈ t, e.call.isSync = false := by
  cases hstep with
  | surplus => exact fun e he => by cases he
  | decrement => exact fun e he => by cases he
  | last _ _ sync hsync =>
      rw [AutoStops, autoSync, hs.manualSync_mapFlags hmanual hpos, hfirst, Bool.not_true,
        Bool.and_false, if_neg Bool.false_ne_true] at hsync
      rw [hsync]
      intro e he
      rw [List.mem_singleton.mp he]
      rfl

/-- A request to start has an effect in periods with manual syncing only, and
there when no session is begun. -/
theorem InSession.served_start (hcached : p.isCached = true) {a : SyncSummary w}
    {s s' : SyncState w} {t : List (KEvent w)} (hs : p.InSession a s) (hpos : 0 < a.count)
    (hstep : p.StartStep s t s') :
    if manualSync a.first = true ∧ a.begun = false then
      p.StartsSession (p.normalise a.first) t
    else t = [] ∧ s' = s := by
  have hflags := hs.manualSync_mapFlags hmanual hpos
  cases hstep with
  | ignored hno =>
      have hcond : ¬ (manualSync a.first = true ∧ a.begun = false) := by
        intro hbegins
        have hstopped := (hs.started_eq_begun hpos hbegins.1).trans hbegins.2
        exact hno ⟨hcached, hstopped, hflags.trans hbegins.1⟩
      rw [if_neg hcond]
      exact ⟨rfl, rfl⟩
  | begins _ hstopped hm _ hsync =>
      rw [hflags] at hm
      rw [hs.mapFlags hpos] at hsync
      rw [if_pos ⟨hm, (hs.started_eq_begun hpos hm).symm.trans hstopped⟩]
      exact hsync

/-- A request to stop has an effect in periods with manual syncing only, and
there when a session is begun. -/
theorem InSession.served_stop (hcached : p.isCached = true) {a : SyncSummary w}
    {s s' : SyncState w} {t : List (KEvent w)} (hs : p.InSession a s) (hpos : 0 < a.count)
    (hstep : p.StopStep s t s') :
    if manualSync a.first = true ∧ a.begun = true then
      p.StopsSession (p.normalise a.first) t
    else t = [] ∧ s' = s := by
  have hflags := hs.manualSync_mapFlags hmanual hpos
  cases hstep with
  | ignored hno =>
      have hcond : ¬ (manualSync a.first = true ∧ a.begun = true) := by
        intro hends
        have hbegun := (hs.started_eq_begun hpos hends.1).trans hends.2
        exact hno ⟨hcached, hbegun, hflags.trans hends.1⟩
      rw [if_neg hcond]
      exact ⟨rfl, rfl⟩
  | ends _ hbegun hm _ hsync =>
      rw [hflags] at hm
      rw [hs.mapFlags hpos] at hsync
      rw [if_pos ⟨hm, (hs.started_eq_begun hpos hm).symm.trans hbegun⟩]
      exact hsync

end Served

/-- Outside periods, an unmap changes nothing and a deallocation releases the
memory only. -/
theorem InSession.served_outside {a : SyncSummary w} {s : SyncState w} (hs : p.InSession a s)
    (hzero : a.count = 0) {t : List (KEvent w)} :
    (∀ s', p.UnmapStep s t s' → t = [] ∧ s' = s) ∧
      (p.DeallocateStep s t → ∀ e ∈ t, e.call = p.release) := by
  have hunmapped : s.mappedVirtualAddress = 0 := by
    by_contra hmapped
    exact absurd hzero (Nat.ne_of_gt (hs.mapped.mp hmapped))
  constructor
  · intro s' hstep
    cases hstep with
    | surplus => exact ⟨rfl, rfl⟩
    | decrement hmapped => exact absurd hunmapped hmapped
    | last hmapped => exact absurd hunmapped hmapped
  · intro hstep
    cases hstep with
    | unmapped => exact fun e he => by rw [List.mem_singleton.mp he]
    | mapped hmapped => exact absurd hunmapped hmapped

/-- The map that begins a period issues the `mmap`, and starts the period's session. -/
theorem InSession.served_first (hcached : p.isCached = true)
    (hmanual : ∀ flags, manualSync (p.normalise flags) = manualSync flags) {a : SyncSummary w}
    {s s' : SyncState w} {flags : BitVec 32} {errorNonNull : Bool} {t : List (KEvent w)}
    {ret : BitVec w} (hs : p.InSession a s) (hzero : a.count = 0) (hsucceeds : ¬ MmapFailed t)
    (hstep : p.MapStep s flags errorNonNull t ret s') :
    ∃ mapped sync, t = p.mapEvent flags mapped :: sync ∧
      if manualSync flags then sync = [] else p.StartsSession (p.normalise flags) sync := by
  cases hstep with
  | redundant hmapped => exact absurd hzero (Nat.ne_of_gt (hs.mapped.mp hmapped))
  | failed => exact absurd ⟨_, _, _, _, _, List.mem_cons_self⟩ hsucceeds
  | fresh _ mapped sync hsync =>
      exact ⟨mapped, sync, rfl, AutoStarts.of_first hcached hmanual hsync⟩

/-- A deallocation in a period stops the session that is open, if one is, unmaps and
releases the memory. -/
theorem InSession.served_teardown (hcached : p.isCached = true)
    (hmanual : ∀ flags, manualSync (p.normalise flags) = manualSync flags) {a : SyncSummary w}
    {s : SyncState w} {t : List (KEvent w)} (hs : p.InSession a s) (hpos : 0 < a.count)
    (hstep : p.DeallocateStep s t) :
    ∃ stops mapped answer, t = stops ++ [p.unmapEvent mapped, ⟨p.release, answer⟩] ∧
      if manualSync a.first = false ∨ a.begun = true
      then p.StopsSession (p.normalise a.first) stops else stops = [] := by
  cases hstep with
  | unmapped hunmapped => exact absurd hunmapped (hs.mapped.mpr hpos)
  | mapped _ stops hstops answer =>
      obtain ⟨mapped, haddress, -⟩ := hs.current hpos
      refine ⟨stops, mapped, answer, ?_, hs.teardownStops hcached hmanual hpos hstops⟩
      rw [haddress, unmapEvent]

/-- What a call issues, seen through the mutable part. -/
theorem InSession.served (hcached : p.isCached = true)
    (hmanual : ∀ flags, manualSync (p.normalise flags) = manualSync flags)
    {state : SyncState w → DmaBuffer w} (hflags : ∀ s, (state s).mapFlags = s.mapFlags)
    (hsyncStarted : ∀ s, (state s).syncStarted = s.syncStarted) {a : SyncSummary w}
    {s : SyncState w} (hs : p.InSession a s) {r : CallRecord w} {u : Option (SyncState w)}
    (hsucceeds : ¬ MmapFailed r.events) (hstep : p.Step s r.op r.events r.ret u) :
    ServedInPeriod p a (state s) r (u.map state) := by
  obtain ⟨op, t, ret⟩ := r
  constructor
  case first =>
    rintro hzero flags errorNonNull rfl
    cases hstep with
    | map hmap => exact hs.served_first hcached hmanual hzero hsucceeds hmap
  case redundant =>
    rintro hpos flags errorNonNull rfl
    cases hstep with
    | map hmap =>
        obtain ⟨rfl, hkept, hsession⟩ := hs.served_map hpos hmap
        refine ⟨rfl, _, rfl, ?_, ?_⟩
        · rw [hflags, hflags, hkept]
        · rw [hsyncStarted, hsyncStarted, hsession]
  case noEffect =>
    have hno : manualSync a.first = false → ∀ begun,
        ¬ (manualSync a.first = true ∧ a.begun = begun) := by
      intro hfirst begun hmanual
      exact Bool.false_ne_true (hfirst.symm.trans hmanual.1)
    rintro hpos hfirst (rfl | rfl)
    · cases hstep with
      | startSyncSession hstart =>
          have hserved := hs.served_start hmanual hcached hpos hstart
          rw [if_neg (hno hfirst false)] at hserved
          exact ⟨hserved.1, by rw [hserved.2]; rfl⟩
    · cases hstep with
      | stopSyncSession hstop =>
          have hserved := hs.served_stop hmanual hcached hpos hstop
          rw [if_neg (hno hfirst true)] at hserved
          exact ⟨hserved.1, by rw [hserved.2]; rfl⟩
  case start =>
    rintro hpos hfirst rfl
    cases hstep with
    | startSyncSession hstart =>
        have hserved := hs.served_start hmanual hcached hpos hstart
        cases hbegun : a.begun with
        | true =>
            rw [if_neg (by simp [hbegun])] at hserved
            exact ⟨hserved.1, by rw [hserved.2]; rfl⟩
        | false => rwa [if_pos ⟨hfirst, hbegun⟩] at hserved
  case stop =>
    rintro hpos hfirst rfl
    cases hstep with
    | stopSyncSession hstop =>
        have hserved := hs.served_stop hmanual hcached hpos hstop
        cases hbegun : a.begun with
        | true => rwa [if_pos ⟨hfirst, hbegun⟩] at hserved
        | false =>
            rw [if_neg (by simp [hbegun])] at hserved
            exact ⟨hserved.1, by rw [hserved.2]; rfl⟩
  case explicitOnly =>
    rintro hpos hfirst (rfl | ⟨flags, errorNonNull, rfl⟩)
    · cases hstep with
      | unmap hunmap => exact hs.served_unmap hmanual hpos hfirst hunmap
    · cases hstep with
      | map hmap =>
          obtain ⟨rfl, -⟩ := hs.served_map hpos hmap
          exact fun e he => by cases he
  case teardown =>
    rintro hpos rfl
    cases hstep with
    | deallocate hdeallocate => exact hs.served_teardown hcached hmanual hpos hdeallocate
  case outside =>
    refine fun hzero => ⟨?_, ?_⟩
    · rintro rfl
      cases hstep with
      | unmap hunmap =>
          obtain ⟨rfl, rfl⟩ := (hs.served_outside hzero).1 _ hunmap
          exact ⟨rfl, rfl⟩
    · rintro rfl
      cases hstep with
      | deallocate hdeallocate => exact (hs.served_outside hzero).2 hdeallocate

end MmapParams

/-- No session is begun on a new buffer. -/
theorem allocated_inSession {config : BuildConfig} {allocator : DmaHeapAllocator}
    {size alignment : BitVec w} {heapIdMask left : BitVec 32} {ambient : Ambient}
    {errorNonNull : Bool} {t : List (KEvent w)} {buffer : DmaHeapBuffer w}
    (halloc : Runs (imxDmaBufferAllocate config (.dmaHeap allocator) size alignment heapIdMask
      ambient errorNonNull) t (.done (some (.dmaHeap allocator buffer), left))) :
    (buffer.params allocator).InSession .idle buffer.sync := by
  have hfresh := (allocate_fresh halloc).1
  have hzero : buffer.mappedVirtualAddress = 0 := hfresh.mappedVirtualAddress _ rfl
  have hnone : ∀ {P : Prop}, 0 < (SyncSummary.idle : SyncSummary w).count → P :=
    fun h => absurd h (Nat.lt_irrefl 0)
  exact ⟨hfresh.mappingRefcount, ⟨fun h => absurd hzero h, hnone⟩, hnone,
    fun _ => hfresh.syncStarted, hnone, hnone, fun _ h => by cases h⟩

/-- What such a client does with a dma-heap buffer, on its mutable part. -/
theorem syncClient_steps {allocator : DmaHeapAllocator} {buffer : DmaHeapBuffer w}
    {h : List (CallRecord w)} {finish : Option (DmaBuffer w)}
    (hs : (bufferMachine w).Steps SyncClient (some (.dmaHeap allocator buffer)) h finish) :
    ∃ u, (buffer.params allocator).machine.Steps
        (fun u op t => ¬ MmapFailed t ∧ (buffer.params allocator).SessionsWhileMapped u op t)
        (some buffer.sync) h u ∧
      Option.map (buffer.withState allocator) u = finish := by
  have hguard : ∀ u op t, SyncClient (Option.map (buffer.withState allocator) u) op t →
      ¬ MmapFailed t ∧ (buffer.params allocator).SessionsWhileMapped u op t := by
    intro u op t hclient
    refine ⟨hclient.1, fun hop => ?_⟩
    obtain ⟨b, hb, hmapped⟩ := hclient.2 hop
    obtain ⟨s, rfl, rfl⟩ := Option.map_eq_some_iff.mp hb
    exact ⟨s, rfl, hmapped⟩
  exact @Machine.Steps.lift _ _ _ (buffer.params allocator).machine
    (fun u op t => ¬ MmapFailed t ∧ (buffer.params allocator).SessionsWhileMapped u op t)
    (bufferMachine w) SyncClient (Option.map (buffer.withState allocator))
    (buffer.bufferStep_eq allocator) hguard h (some buffer.sync) finish hs

/-- **Sync sessions are bracketed** in every history of a cached dma-heap buffer
whose client stops its sessions in time, and the next call is served accordingly. -/
theorem sync_sessions_bracketed {config : BuildConfig} {allocator : DmaHeapAllocator}
    (hcached : allocator.isCached = true) {size alignment : BitVec w} {heapIdMask left : BitVec 32}
    {ambient : Ambient} {errorNonNull : Bool} {t : List (KEvent w)} {buffer : DmaHeapBuffer w}
    (halloc : Runs (imxDmaBufferAllocate config (.dmaHeap allocator) size alignment heapIdMask
      ambient errorNonNull) t (.done (some (.dmaHeap allocator buffer), left)))
    {h : List (CallRecord w)} {finish : Option (DmaBuffer w)}
    (hs : (bufferMachine w).Steps SyncClient (some (.dmaHeap allocator buffer)) h finish)
    (hstops : Machine.Along SyncSummary.next StopsInTime .idle h) :
    SessionLaw (buffer.params allocator) (syncSummary h) ∧
      ∀ b' r c, finish = some b' → SyncClient finish r.op r.events →
        Runs (bufferStep finish r.op) r.events (.done (r.ret, c)) →
          ServedInPeriod (buffer.params allocator) (syncSummary h) b' r c := by
  have hmanual : ∀ flags, manualSync ((buffer.params allocator).normalise flags) =
      manualSync flags := manualSync_normaliseReadwriteAbsent
  obtain ⟨u, hsteps, rfl⟩ := syncClient_steps hs
  have htracks := hsteps.track_along SyncSummary.next StopsInTime
    (R := (buffer.params allocator).Tracks)
    (fun a u r u' hu hin hK hrun => hu.step hcached hmanual hin hK.1 hK.2 hrun) hstops
    (allocated_inSession halloc)
  refine ⟨htracks.law, fun b' r c hb' hclient hrun => ?_⟩
  obtain ⟨s, rfl, rfl⟩ := Option.map_eq_some_iff.mp hb'
  rw [DmaHeapBuffer.bufferStep_eq] at hrun
  obtain ⟨⟨ret, u⟩, hstep, heq⟩ := runs_map_done_iff.mp hrun
  obtain ⟨hret, rfl⟩ := Prod.mk.inj heq
  have hdone : (buffer.params allocator).Step s r.op r.events r.ret u := by
    rw [← hret]
    exact MmapParams.step_done hstep
  exact MmapParams.InSession.served hcached hmanual (fun _ => rfl) (fun _ => rfl) htracks
    hclient.1 hdone

/-- The history of a client that maps for writing with manual syncing, starts a
session twice, stops it, and unmaps. -/
def manualHistory : List (CallRecord 64) :=
  [⟨.map (mappingFlagWrite ||| mappingFlagManualSync) true,
      [⟨.mmap 4096 protWrite 4 0, .ok ⟨0x10000, sample_address_ne_null⟩⟩], some 0x10000⟩,
    ⟨.startSyncSession, [⟨.syncSessionStarts 4, ()⟩], none⟩,
    ⟨.startSyncSession, [], none⟩,
    ⟨.stopSyncSession, [⟨.syncSessionStops 4, ()⟩, ⟨.dmaBufIoctlPhys 4, .ok 0x80000000⟩], none⟩,
    ⟨.unmap, [⟨.munmap 0x10000 4096, ()⟩], none⟩]

/-- The sample buffer in any state. -/
def cachedBufferIn (s : SyncState 64) : DmaBuffer 64 :=
  .dmaHeap cachedHeap {
    toMapState := s.toMapState
    dmabufFd := 4
    physicalAddress := 0x80000000
    size := 4096
    syncStarted := s.syncStarted
    dmabufFd_pos := sample_dmabufFd_pos }

/-- The one period of that history is bracketed. -/
theorem manual_history_bracketed :
    ∃ buffer : DmaHeapBuffer 64, cachedBuffer = .dmaHeap cachedHeap buffer ∧
      SessionLaw (buffer.params cachedHeap) (syncSummary manualHistory) := by
  refine ⟨_, rfl, ?_⟩
  have hne := sample_address_ne_null
  have hsucceeds : ∀ r ∈ manualHistory, ¬ MmapFailed r.events := by
    intro r hr hfailed
    obtain ⟨_, _, _, _, _, hmem⟩ := hfailed
    simp only [manualHistory, List.mem_cons, List.not_mem_nil, or_false] at hr
    rcases hr with rfl | rfl | rfl | rfl | rfl <;> simp at hmem
  have hs : (bufferMachine 64).Steps SyncClient (some cachedBuffer) manualHistory
      (some (cachedBufferIn ⟨⟨0, mappingFlagWrite ||| mappingFlagManualSync, 0⟩, false⟩)) := by
    refine .cons ⟨hsucceeds _ (by simp [manualHistory]), fun hop => ?_⟩ (.call _ (.ret _))
      (.cons ⟨hsucceeds _ (by simp [manualHistory]), fun _ => ⟨_, rfl, hne⟩⟩ (.call _ (.ret _))
      (.cons ⟨hsucceeds _ (by simp [manualHistory]), fun _ => ⟨_, rfl, hne⟩⟩ (.ret _)
      (.cons ⟨hsucceeds _ (by simp [manualHistory]), fun _ => ⟨_, rfl, hne⟩⟩
        (.call _ (.call _ (.ret _)))
      (.single ⟨hsucceeds _ (by simp [manualHistory]), fun hop => ?_⟩ (.call _ (.ret _))))))
    · rcases hop with hop | hop <;> cases hop
    · rcases hop with hop | hop <;> cases hop
  have hstops : Machine.Along SyncSummary.next StopsInTime .idle manualHistory :=
    ⟨fun hop => (by cases hop), fun hop => (by cases hop), fun hop => (by cases hop),
      fun hop => (by cases hop), fun _ _ _ => rfl, trivial⟩
  exact (sync_sessions_bracketed rfl cachedBuffer_allocated hs hstops).1

end ImxDmaBuffer
