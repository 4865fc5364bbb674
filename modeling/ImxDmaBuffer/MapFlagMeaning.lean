import ImxDmaBuffer.FailedMap
import ImxDmaBuffer.ReferenceCounting

/-!
# What the mapping flags mean

Flags that name no access stand for both reading and writing.  The first map of
a period, from one count of zero to the next, decides the access that is in
force; later maps of the period must stay within it.  `AccessLaw` states this
over the calls of a history, in the same terms for all six allocators.

The allocators normalise flags in three ways, and only the dma-heap allocator's
gives all flags the access they stand for.  `FlagsHonoured` says which flags are
taken as they are meant; in every history that uses only those, the law holds.
-/

namespace ImxDmaBuffer

open CallProgram

variable {w : Nat}

/-- The protections that the successful `mmap` calls of a trace asked for. -/
def protectionsMade (t : List (KEvent w)) : List (BitVec 32) :=
  t.filterMap fun
    | ⟨.mmap _ prot _ _, .ok _⟩ => some prot
    | _ => none

/-- What the calls so far say about the current mapping period: the number of
outstanding maps, the flags of the period's maps from the first one on, and the
protection of the mapping made in it. -/
structure PeriodSummary where
  count : Nat
  requests : List (BitVec 32)
  protection : Option (BitVec 32)

/-- No period has begun. -/
def PeriodSummary.idle : PeriodSummary := ⟨0, [], none⟩

/-- One more call. A map at count zero begins a period, and the unmap that
reaches zero ends it. -/
def PeriodSummary.next (a : PeriodSummary) (r : CallRecord w) : PeriodSummary :=
  match r.op with
  | .map flags _ =>
      { count := a.count + 1
        requests := a.requests ++ [flags]
        protection := (protectionsMade r.events).getLast?.or a.protection }
  | .unmap => if a.count ≤ 1 then .idle else { a with count := a.count - 1 }
  | _ => a

/-- The summary of a history. -/
def periodSummary (h : List (CallRecord w)) : PeriodSummary :=
  h.foldl PeriodSummary.next .idle

/-- The flags without an access bit that the allocator takes to ask for both:
all of them, the value 0, or none. -/
def DmaBuffer.TakesAsBoth : DmaBuffer w → BitVec 32 → Prop
  | .dmaHeap _ _, _ => True
  | .ion _ _, flags => flags = 0
  | .dwl _ _, flags => flags = 0
  | .ipu _ _, _ => False
  | .g2d _, flags => flags = 0
  | .pxp _ _, _ => False

/-- A map with these flags takes them as they are meant: they name an access, or
the allocator takes them to ask for both, or the period allows both anyway. -/
def FlagsHonoured (b : DmaBuffer w) (flags : BitVec 32) : Prop :=
  (reads flags = true ∨ writes flags = true ∨ b.TakesAsBoth flags) ∨
    (b.IsMapped ∧ reads b.mapFlags = true ∧ writes b.mapFlags = true)

/-- The client maps and unmaps with flags that are taken as they are meant, and
every `mmap` succeeds. -/
def HonouredMaps : (bufferMachine w).Guard := fun (c : Option (DmaBuffer w)) op t =>
  op.IsMapOrUnmap ∧ ¬ MmapFailed t ∧
    ∀ b flags errorNonNull, c = some b → op = .map flags errorNonNull → FlagsHonoured b flags

/-- The protection in force on a mapped buffer. DWL and G2D memory has none of
its own; there the stored flags decide. -/
def protectionInForce (b : DmaBuffer w) (a : PeriodSummary) : Option (BitVec 32) :=
  if b.mappedVirtualAddress.isSome then a.protection else some (mmapProt b.mapFlags)

/-- The protection allows exactly the access that the flags stand for. -/
def AllowsExactly (protection flags : BitVec 32) : Prop :=
  (protection &&& protRead ≠ 0 ↔ effReads flags = true) ∧
    (protection &&& protWrite ≠ 0 ↔ effWrites flags = true)

/-- The protection allows the access that the flags stand for. -/
def Covers (protection flags : BitVec 32) : Prop :=
  (effReads flags = true → protection &&& protRead ≠ 0) ∧
    (effWrites flags = true → protection &&& protWrite ≠ 0)

/-- A map with these flags fails the allocator's assertion. -/
def FailsAssertion (b : DmaBuffer w) (flags : BitVec 32) (errorNonNull : Bool) : Prop :=
  ∃ t, Runs (bufferStep (some b) (.map flags errorNonNull)) t (.halted .assertionFailed)

/-- **The meaning of the flags**, in a state reached by calls with summary `a`:
the first map of the period decides the access, a later one passes the assertion
exactly when it stays within, and every map of the period is covered. -/
structure AccessLaw (b : DmaBuffer w) (a : PeriodSummary) : Prop where
  mapped : b.IsMapped ↔ 0 < a.count
  first : 0 < a.count → ∃ f rest protection, a.requests = f :: rest ∧
    protectionInForce b a = some protection ∧ AllowsExactly protection f ∧
    (∀ g errorNonNull, FlagsHonoured b g → (FailsAssertion b g errorNonNull ↔ ¬ EffWithin g f)) ∧
    ∀ g ∈ a.requests, Covers protection g

/-- The stored flags and the count agree with the period: the flags give the
access of the first map, which covers the access of every other. -/
structure PeriodAccess (mapFlags : BitVec 32) (refcount : Int) (a : PeriodSummary) : Prop where
  refcount : refcount = a.count
  idle : a.count = 0 → a.requests = []
  first : 0 < a.count → ∃ f rest, a.requests = f :: rest ∧
    reads mapFlags = effReads f ∧ writes mapFlags = effWrites f
  covered : ∀ g ∈ a.requests,
    (effReads g = true → reads mapFlags = true) ∧ (effWrites g = true → writes mapFlags = true)

/-- An allocator's normalisation gives flags their access exactly when they name
one or are taken to ask for both. -/
theorem meansEff_normaliseFlags_iff (b : DmaBuffer w) (flags : BitVec 32) :
    MeansEff b.normaliseFlags flags ↔
      reads flags = true ∨ writes flags = true ∨ b.TakesAsBoth flags := by
  have hnone : (reads flags = true ∨ writes flags = true) ↔
      (reads flags = true ∨ writes flags = true ∨ False) := by rw [or_false]
  cases b with
  | dmaHeap => exact ⟨fun _ => Or.inr (Or.inr trivial), fun _ => meansEff_readwriteAbsent flags⟩
  | ion => exact meansEff_zero_iff flags
  | dwl => exact meansEff_zero_iff flags
  | ipu => exact (meansEff_none_iff flags).trans hnone
  | g2d => exact meansEff_zero_iff flags
  | pxp => exact (meansEff_none_iff flags).trans hnone

/-- The normalised flags of a redundant map are compatible exactly when their
access stays within the first map's. -/
theorem compatible_iff_effWithin {mapFlags f g : BitVec 32} {normalise : BitVec 32 → BitVec 32}
    (hfirst : reads mapFlags = effReads f ∧ writes mapFlags = effWrites f)
    (hhonoured : MeansEff normalise g ∨ (reads mapFlags = true ∧ writes mapFlags = true)) :
    Compatible mapFlags (normalise g) ↔ EffWithin g f := by
  rw [compatible_iff]
  unfold EffWithin
  rw [← hfirst.1, ← hfirst.2]
  rcases hhonoured with hmeans | hboth
  · rw [hmeans.1, hmeans.2]
  · rw [hboth.1, hboth.2]
    exact ⟨fun _ => ⟨fun _ => rfl, fun _ => rfl⟩, fun _ => ⟨fun _ => rfl, fun _ => rfl⟩⟩

namespace PeriodAccess

variable {mapFlags : BitVec 32} {refcount : Int} {a : PeriodSummary}

/-- The first map of a period. -/
theorem fresh {normalise : BitVec 32 → BitVec 32} {flags : BitVec 32}
    {protection : Option (BitVec 32)} (h : PeriodAccess mapFlags refcount a)
    (hzero : a.count = 0) (hmeans : MeansEff normalise flags) :
    PeriodAccess (normalise flags) 1 ⟨a.count + 1, a.requests ++ [flags], protection⟩ := by
  have hrequests : a.requests ++ [flags] = [flags] := by rw [h.idle hzero, List.nil_append]
  refine ⟨?_, fun hcount => absurd hcount (Nat.succ_ne_zero _),
    fun _ => ⟨flags, [], hrequests, hmeans.1, hmeans.2⟩, ?_⟩
  · rw [hzero]
    rfl
  · intro g hg
    rw [hrequests] at hg
    obtain rfl := List.mem_singleton.mp hg
    rw [hmeans.1, hmeans.2]
    exact ⟨id, id⟩

/-- A later map of the period, when it passes the assertion. -/
theorem redundant {normalise : BitVec 32 → BitVec 32} {flags : BitVec 32}
    {protection : Option (BitVec 32)} (h : PeriodAccess mapFlags refcount a)
    (hpos : 0 < a.count) (hcompatible : Compatible mapFlags (normalise flags))
    (hhonoured : MeansEff normalise flags ∨ (reads mapFlags = true ∧ writes mapFlags = true)) :
    PeriodAccess mapFlags (refcount + 1) ⟨a.count + 1, a.requests ++ [flags], protection⟩ := by
  obtain ⟨f, rest, hrequests, hfirst⟩ := h.first hpos
  refine ⟨?_, fun hcount => absurd hcount (Nat.succ_ne_zero _),
    fun _ => ⟨f, rest ++ [flags], by rw [hrequests, List.cons_append], hfirst⟩, ?_⟩
  · rw [h.refcount]
    push_cast
    rfl
  · intro g hg
    rcases List.mem_append.mp hg with hold | hnew
    · exact h.covered g hold
    · obtain rfl := List.mem_singleton.mp hnew
      have hwithin := (compatible_iff_effWithin hfirst hhonoured).mp hcompatible
      rw [hfirst.1, hfirst.2]
      exact hwithin

/-- An unmap that does not end the period. -/
theorem decrement (h : PeriodAccess mapFlags refcount a) (hmore : 1 < a.count) :
    PeriodAccess mapFlags (refcount - 1) { a with count := a.count - 1 } := by
  refine ⟨?_, ?_, fun _ => h.first (by omega), h.covered⟩
  · have hrefcount := h.refcount
    change refcount - 1 = ((a.count - 1 : Nat) : Int)
    omega
  · intro hcount
    change a.count - 1 = 0 at hcount
    omega

/-- Between periods. -/
theorem ofIdle (mapFlags : BitVec 32) : PeriodAccess mapFlags 0 .idle :=
  ⟨rfl, fun _ => rfl, fun h => absurd h (Nat.lt_irrefl 0), fun g hg => by cases hg⟩

end PeriodAccess

theorem PeriodSummary.next_map {a : PeriodSummary} {flags : BitVec 32} {errorNonNull : Bool}
    {t : List (KEvent w)} {ret : Option (BitVec w)} :
    a.next ⟨.map flags errorNonNull, t, ret⟩ =
      ⟨a.count + 1, a.requests ++ [flags], (protectionsMade t).getLast?.or a.protection⟩ := rfl

theorem PeriodSummary.next_unmap_last {a : PeriodSummary} {t : List (KEvent w)}
    (hlast : a.count ≤ 1) : a.next ⟨.unmap, t, none⟩ = .idle :=
  if_pos hlast

theorem PeriodSummary.next_unmap_more {a : PeriodSummary} {t : List (KEvent w)}
    (hmore : 1 < a.count) : a.next ⟨.unmap, t, none⟩ = { a with count := a.count - 1 } :=
  if_neg (Nat.not_le.mpr hmore)

/-- Sync calls make no mapping. -/
theorem protectionsMade_of_isSync {t : List (KEvent w)} (h : ∀ e ∈ t, e.call.isSync = true) :
    protectionsMade t = [] := by
  refine List.filterMap_eq_nil_iff.mpr ?_
  intro e he
  have hsync := h e he
  split
  · cases hsync
  · rfl

/-- Code that asserts, counts and returns fails an assertion exactly when the
asserted condition does not hold. -/
theorem assert_count_fails_iff {α : Type} {c : Prop} [Decidable c] {n : Int} {f : Int → α} :
    (∃ t : List (KEvent w), Runs (assertThat c >>= fun _ => intResult n >>= fun n => pure (f n)) t
      (.halted .assertionFailed)) ↔ ¬ c := by
  constructor
  · intro h hc
    obtain ⟨t, hrun⟩ := h
    rcases runs_require_bind_halted_iff.mp hrun with ⟨hno, -⟩ | ⟨-, hcount⟩
    · exact hno hc
    · rcases runs_bind_halted_iff.mp hcount with hoverflow | ⟨_, _, _, -, -, hret⟩
      · unfold intResult at hoverflow
        split at hoverflow
        · cases (runs_ret_iff.mp hoverflow).2
        · cases (runs_halt_iff.mp hoverflow).2
      · cases (runs_ret_iff.mp hret).2
  · intro hno
    exact ⟨[], runs_require_bind_halted_iff.mpr (Or.inl ⟨hno, rfl, rfl⟩)⟩

namespace MmapParams

variable {p : MmapParams w}

/-- The mutable part of an mmap-based buffer agrees with the period. -/
structure InPeriod (p : MmapParams w) (a : PeriodSummary) (s : SyncState w) : Prop where
  access : PeriodAccess s.mapFlags s.mappingRefcount a
  mapped : s.mappedVirtualAddress ≠ 0 ↔ 0 < a.count
  asserts : 0 < a.count → p.mapAsserts = true
  protection : 0 < a.count → a.protection = some (mmapProt s.mapFlags)

theorem InPeriod.count_eq_zero {a : PeriodSummary} {s : SyncState w} (hs : p.InPeriod a s)
    (hunmapped : s.mappedVirtualAddress = 0) : a.count = 0 := by
  by_contra hne
  exact hs.mapped.mpr (Nat.pos_of_ne_zero hne) hunmapped

/-- `FlagsHonoured` on the mutable part. -/
def Honoured (p : MmapParams w) (s : SyncState w) (flags : BitVec 32) : Prop :=
  MeansEff p.normalise flags ∨
    (s.mappedVirtualAddress ≠ 0 ∧ reads s.mapFlags = true ∧ writes s.mapFlags = true)

/-- After a successful map, whatever its flags, the protection of the mapping is
the one that the stored flags give. -/
theorem InPeriod.protection_map {a : PeriodSummary} {s s' : SyncState w} {flags : BitVec 32}
    {errorNonNull : Bool} {t : List (KEvent w)} {ret : BitVec w} (hs : p.InPeriod a s)
    (hsucceeds : ¬ MmapFailed t) (hstep : p.MapStep s flags errorNonNull t ret s') :
    (a.next ⟨.map flags errorNonNull, t, some ret⟩).protection = some (mmapProt s'.mapFlags) := by
  rw [PeriodSummary.next_map]
  cases hstep with
  | redundant hmapped => exact hs.protection (hs.mapped.mp hmapped)
  | failed => exact absurd ⟨_, _, _, _, _, List.mem_cons_self⟩ hsucceeds
  | fresh hunmapped mapped sync hsync =>
      have hmade : protectionsMade (⟨.mmap p.args.length (mmapProt (p.normalise flags)) p.args.fd
          p.args.offset, .ok mapped⟩ :: sync) = [mmapProt (p.normalise flags)] := by
        change _ :: protectionsMade sync = _
        rw [protectionsMade_of_isSync hsync.isSync]
      rw [hmade]
      rfl

/-- A map whose flags are taken as they are meant keeps the agreement. -/
theorem InPeriod.map {a : PeriodSummary} {s s' : SyncState w} {flags : BitVec 32}
    {errorNonNull : Bool} {t : List (KEvent w)} {ret : BitVec w} (hs : p.InPeriod a s)
    (hsucceeds : ¬ MmapFailed t) (hhonoured : p.Honoured s flags) (hasserts : p.mapAsserts = true)
    (hstep : p.MapStep s flags errorNonNull t ret s') :
    p.InPeriod (a.next ⟨.map flags errorNonNull, t, some ret⟩) s' := by
  have hprotection := hs.protection_map hsucceeds hstep
  cases hstep with
  | redundant hmapped hcompatible =>
      have hpos := hs.mapped.mp hmapped
      refine ⟨hs.access.redundant hpos hcompatible (hhonoured.imp_right And.right),
        ⟨fun _ => Nat.succ_pos _, fun _ => hmapped⟩, fun _ => hasserts, fun _ => hprotection⟩
  | failed =>
      exact absurd ⟨_, _, _, _, _, List.mem_cons_self⟩ hsucceeds
  | fresh hunmapped mapped sync hsync =>
      have hmeans : MeansEff p.normalise flags :=
        hhonoured.resolve_right (fun h => h.1 hunmapped)
      refine ⟨hs.access.fresh (hs.count_eq_zero hunmapped) hmeans,
        ⟨fun _ => Nat.succ_pos _, fun _ => mapped.ne_null⟩, fun _ => hasserts,
        fun _ => hprotection⟩

/-- An unmap keeps the agreement. -/
theorem InPeriod.unmap {a : PeriodSummary} {s s' : SyncState w} {t : List (KEvent w)}
    (hs : p.InPeriod a s) (hstep : p.UnmapStep s t s') :
    p.InPeriod (a.next ⟨.unmap, t, none⟩) s' := by
  have hrefcount := hs.access.refcount
  cases hstep with
  | surplus hunmapped =>
      have hzero := hs.count_eq_zero hunmapped
      have hnone : s.mappingRefcount = 0 := by omega
      rw [PeriodSummary.next_unmap_last (by omega)]
      refine ⟨?_, ?_, fun h => absurd h (Nat.lt_irrefl 0), fun h => absurd h (Nat.lt_irrefl 0)⟩
      · rw [hnone]
        exact .ofIdle _
      · exact ⟨fun h => absurd hunmapped h, fun h => absurd h (Nat.lt_irrefl 0)⟩
  | decrement hmapped hmore =>
      have hpos := hs.mapped.mp hmapped
      have htwo : 1 < a.count := by omega
      rw [PeriodSummary.next_unmap_more htwo]
      refine ⟨hs.access.decrement htwo, ⟨fun _ => ?_, fun _ => hmapped⟩,
        fun _ => hs.asserts hpos, fun _ => hs.protection hpos⟩
      change 0 < a.count - 1
      omega
  | last hmapped hone sync hsync =>
      rw [PeriodSummary.next_unmap_last (by omega)]
      exact ⟨.ofIdle _, ⟨fun h => absurd rfl h, fun h => absurd h (Nat.lt_irrefl 0)⟩,
        fun h => absurd h (Nat.lt_irrefl 0), fun h => absurd h (Nat.lt_irrefl 0)⟩

/-- **One call** of a client that uses only flags that are taken as meant. -/
theorem InPeriod.step {a : PeriodSummary} {s : SyncState w} {op : BufferCall}
    {t : List (KEvent w)} {ret : Option (BitVec w)} {u : Option (SyncState w)}
    (hs : p.InPeriod a s) (hop : op.IsMapOrUnmap) (hsucceeds : ¬ MmapFailed t)
    (hhonoured : ∀ flags errorNonNull, op = .map flags errorNonNull → p.Honoured s flags)
    (hrun : Runs (p.machine.step (some s) op) t (.done (ret, u))) :
    ∃ s', u = some s' ∧ p.InPeriod (a.next ⟨op, t, ret⟩) s' := by
  cases step_done hrun with
  | map hmap =>
      obtain ⟨_, hmapRun, -⟩ := runs_map_done_iff.mp hrun
      have hasserts := (runs_require_bind_iff.mp hmapRun).1
      exact ⟨_, rfl, hs.map hsucceeds (hhonoured _ _ rfl) hasserts hmap⟩
  | unmap hunmap => exact ⟨_, rfl, hs.unmap hunmap⟩
  | startSyncSession => rcases hop with h | ⟨_, _, h⟩ <;> cases h
  | stopSyncSession => rcases hop with h | ⟨_, _, h⟩ <;> cases h
  | deallocate => rcases hop with h | ⟨_, _, h⟩ <;> cases h

/-- A redundant map fails an assertion exactly when the flags are incompatible. -/
theorem map_fails_iff {s : SyncState w} {flags : BitVec 32} {errorNonNull : Bool}
    (hmapped : s.mappedVirtualAddress ≠ 0) (hasserts : p.mapAsserts = true) :
    (∃ t, Runs (p.map s flags errorNonNull) t (.halted .assertionFailed)) ↔
      ¬ Compatible s.mapFlags (p.normalise flags) := by
  have hmap : p.map s flags errorNonNull = assertThat (p.mapAsserts = true) >>= fun _ =>
      assertThat (Compatible s.mapFlags (p.normalise flags)) >>= fun _ =>
        intResult (s.mappingRefcount + 1) >>= fun n =>
          pure (s.mappedVirtualAddress, { s with mappingRefcount := n }) := by
    simp only [MmapParams.map, if_pos hmapped, MapState.redundantMap, bind_assoc, pure_bind]
  rw [hmap, ← assert_count_fails_iff (w := w)]
  constructor
  · intro h
    obtain ⟨t, hrun⟩ := h
    rcases runs_require_bind_halted_iff.mp hrun with ⟨hno, -⟩ | ⟨-, hrun⟩
    · exact absurd hasserts hno
    · exact ⟨t, hrun⟩
  · intro h
    obtain ⟨t, hrun⟩ := h
    exact ⟨t, runs_require_bind_halted_iff.mpr (Or.inr ⟨hasserts, hrun⟩)⟩

end MmapParams

namespace CountState

/-- `FlagsHonoured` on the mutable part. -/
def Honoured (s : CountState) (flags : BitVec 32) : Prop :=
  MeansEff normaliseZero flags ∨
    (0 < s.mappingRefcount ∧ reads s.mapFlags = true ∧ writes s.mapFlags = true)

/-- Maps and unmaps of an always mapped buffer keep the agreement. -/
theorem inPeriod_step {p : AlwaysParams w} {a : PeriodSummary} {s : CountState} {op : BufferCall}
    {t : List (KEvent w)} {ret : Option (BitVec w)} {u : Option CountState}
    (hs : PeriodAccess s.mapFlags s.mappingRefcount a) (hop : op.IsMapOrUnmap)
    (hhonoured : ∀ flags errorNonNull, op = .map flags errorNonNull → s.Honoured flags)
    (hstep : p.Step s op t ret u) :
    ∃ s', u = some s' ∧ PeriodAccess s'.mapFlags s'.mappingRefcount (a.next ⟨op, t, ret⟩) := by
  have hrefcount := hs.refcount
  cases hstep with
  | map hmap =>
      refine ⟨_, rfl, ?_⟩
      rw [PeriodSummary.next_map]
      have hflags := hhonoured _ _ rfl
      cases hmap with
      | redundant hmapped hcompatible =>
          exact hs.redundant (by omega) hcompatible (hflags.imp_right And.right)
      | fresh hunmapped =>
          exact hs.fresh (by omega) (hflags.resolve_right (fun h => hunmapped h.1))
  | unmap hunmap =>
      refine ⟨_, rfl, ?_⟩
      cases hunmap with
      | surplus hunmapped =>
          rw [PeriodSummary.next_unmap_last (by omega), show s.mappingRefcount = 0 by omega]
          exact .ofIdle _
      | decrement hmapped =>
          by_cases hmore : 1 < a.count
          · rw [PeriodSummary.next_unmap_more hmore]
            exact hs.decrement hmore
          · have hone : s.mappingRefcount - 1 = 0 := by omega
            rw [PeriodSummary.next_unmap_last (by omega)]
            change PeriodAccess s.mapFlags (s.mappingRefcount - 1) _
            rw [hone]
            exact .ofIdle _
  | startSyncSession => rcases hop with h | ⟨_, _, h⟩ <;> cases h
  | stopSyncSession => rcases hop with h | ⟨_, _, h⟩ <;> cases h
  | deallocate => rcases hop with h | ⟨_, _, h⟩ <;> cases h

/-- A redundant map fails its assertion exactly when the flags are incompatible. -/
theorem map_fails_iff {s : CountState} {flags : BitVec 32} (hmapped : 0 < s.mappingRefcount) :
    (∃ t, Runs (S := kernel w) (s.map flags) t (.halted .assertionFailed)) ↔
      ¬ Compatible s.mapFlags flags := by
  have hmap : s.map (w := w) flags = assertThat (Compatible s.mapFlags flags) >>= fun _ =>
      intResult (s.mappingRefcount + 1) >>= fun n => pure { s with mappingRefcount := n } := by
    simp only [CountState.map, gt_iff_lt, if_pos hmapped]
  rw [hmap, assert_count_fails_iff]

end CountState

/-- What the period says about the protection that the stored flags give. -/
theorem PeriodAccess.allows {mapFlags : BitVec 32} {refcount : Int} {a : PeriodSummary}
    (h : PeriodAccess mapFlags refcount a) (hpos : 0 < a.count) :
    ∃ f rest, a.requests = f :: rest ∧ (reads mapFlags = effReads f ∧ writes mapFlags = effWrites f) ∧
      AllowsExactly (mmapProt mapFlags) f ∧ ∀ g ∈ a.requests, Covers (mmapProt mapFlags) g := by
  obtain ⟨f, rest, hrequests, hfirst⟩ := h.first hpos
  refine ⟨f, rest, hrequests, hfirst, ⟨?_, ?_⟩, ?_⟩
  · rw [mmapProt_read, hfirst.1]
  · rw [mmapProt_write, hfirst.2]
  · intro g hg
    obtain ⟨hreads, hwrites⟩ := h.covered g hg
    exact ⟨fun heff => (mmapProt_read _).mpr (hreads heff),
      fun heff => (mmapProt_write _).mpr (hwrites heff)⟩

/-- The law for an mmap-based buffer. -/
theorem accessLaw_mmapBacked {b : DmaBuffer w} {m : BufferModel w} {p : MmapParams w}
    {s : SyncState w} {a : PeriodSummary} (hb : b.view = m.mmapBacked p s)
    (hs : p.InPeriod a s) : AccessLaw b a := by
  refine ⟨(isMapped_of_view hb).trans hs.mapped, fun hpos => ?_⟩
  have hmapped := hs.mapped.mpr hpos
  obtain ⟨f, rest, hrequests, hfirst, hallows, hcovers⟩ := hs.access.allows hpos
  refine ⟨f, rest, mmapProt s.mapFlags, hrequests, ?_, hallows, ?_, hcovers⟩
  · unfold protectionInForce
    rw [mappedVirtualAddress_of_view hb, Option.isSome_some, if_pos rfl, hs.protection hpos]
  · intro g errorNonNull hg
    unfold FlagsHonoured at hg
    rw [← meansEff_normaliseFlags_iff, normaliseFlags_of_view hb, mapFlags_of_view hb] at hg
    have hcompatible := compatible_iff_effWithin hfirst (hg.imp_right And.right)
    have hfails := @MmapParams.map_fails_iff w p s g errorNonNull hmapped (hs.asserts hpos)
    rw [hcompatible] at hfails
    unfold FailsAssertion
    simp only [halted_mmapBacked hb, MmapParams.step, runs_map_halted_iff]
    exact hfails

/-- The law for an always mapped buffer. -/
theorem accessLaw_alwaysMapped {b : DmaBuffer w} {m : BufferModel w} {p : AlwaysParams w}
    {s : CountState} {a : PeriodSummary} (hb : b.view = m.alwaysMapped p s)
    (hs : PeriodAccess s.mapFlags s.mappingRefcount a) : AccessLaw b a := by
  have hrefcount := hs.refcount
  refine ⟨(isMapped_of_always hb).trans (by omega), fun hpos => ?_⟩
  obtain ⟨f, rest, hrequests, hfirst, hallows, hcovers⟩ := hs.allows hpos
  refine ⟨f, rest, mmapProt s.mapFlags, hrequests, ?_, hallows, ?_, hcovers⟩
  · unfold protectionInForce
    rw [mappedVirtualAddress_of_always hb, Option.isSome_none, if_neg Bool.false_ne_true,
      mapFlags_of_always hb]
  · intro g errorNonNull hg
    unfold FlagsHonoured at hg
    rw [← meansEff_normaliseFlags_iff, normaliseFlags_of_always hb, mapFlags_of_always hb] at hg
    have hcompatible := compatible_iff_effWithin hfirst (hg.imp_right And.right)
    have hfails := @CountState.map_fails_iff w s (normaliseZero g) (by omega)
    rw [hcompatible] at hfails
    unfold FailsAssertion
    simp only [halted_alwaysMapped hb, AlwaysParams.step, runs_map_halted_iff]
    exact hfails

/-- `FlagsHonoured` on the mutable part of an mmap-based buffer. -/
theorem flagsHonoured_of_view {b : DmaBuffer w} {m : BufferModel w} {p : MmapParams w}
    {s : SyncState w} (hb : b.view = m.mmapBacked p s) (flags : BitVec 32) :
    FlagsHonoured b flags ↔ p.Honoured s flags := by
  unfold FlagsHonoured MmapParams.Honoured
  rw [← meansEff_normaliseFlags_iff, normaliseFlags_of_view hb, mapFlags_of_view hb,
    isMapped_of_view hb]

/-- `FlagsHonoured` on the mutable part of an always mapped buffer. -/
theorem flagsHonoured_of_always {b : DmaBuffer w} {m : BufferModel w} {p : AlwaysParams w}
    {s : CountState} (hb : b.view = m.alwaysMapped p s) (flags : BitVec 32) :
    FlagsHonoured b flags ↔ s.Honoured flags := by
  unfold FlagsHonoured CountState.Honoured
  rw [← meansEff_normaliseFlags_iff, normaliseFlags_of_always hb, mapFlags_of_always hb,
    isMapped_of_always hb]

/-- The mutable part of an mmap-based buffer agrees with the period after every
history of maps with flags that are taken as meant. -/
theorem inPeriod_mmapBacked {b b' : DmaBuffer w} (hfresh : b.Fresh) {m : BufferModel w}
    {p : MmapParams w} {s : SyncState w} (hb : b.view = m.mmapBacked p s)
    {h : List (CallRecord w)} (hs : (bufferMachine w).Steps HonouredMaps (some b) h (some b')) :
    ∃ s', b'.view = m.mmapBacked p s' ∧ p.InPeriod (periodSummary h) s' := by
  have hzero : s.mappedVirtualAddress = 0 :=
    hfresh.mappedVirtualAddress _ (mappedVirtualAddress_of_view hb)
  have hnone : s.mappingRefcount = 0 := by
    rw [← mappingRefcount_of_view hb, hfresh.mappingRefcount]
  have hinit : p.InPeriod .idle s := by
    refine ⟨?_, ⟨fun h => absurd hzero h, fun h => absurd h (Nat.lt_irrefl 0)⟩,
      fun h => absurd h (Nat.lt_irrefl 0), fun h => absurd h (Nat.lt_irrefl 0)⟩
    rw [hnone]
    exact .ofIdle _
  obtain ⟨u, hsteps, hu⟩ := steps_mmapBacked hb
    (K := fun (u : Option (SyncState w)) op t => op.IsMapOrUnmap ∧ ¬ MmapFailed t ∧
      ∀ s flags errorNonNull, u = some s → op = .map flags errorNonNull → p.Honoured s flags)
    (fun c u op t hview hguard => by
      obtain ⟨hop, hsucceeds, hhonoured⟩ := hguard
      refine ⟨hop, hsucceeds, fun s flags errorNonNull hsome hmap => ?_⟩
      rw [hsome] at hview
      obtain ⟨c, rfl, hc⟩ := Option.map_eq_some_iff.mp hview
      exact (flagsHonoured_of_view hc flags).mp (hhonoured c flags errorNonNull rfl hmap)) hs
  obtain ⟨s', rfl, hperiod⟩ := Machine.Steps.track PeriodSummary.next
    (R := fun a u => ∃ s, u = some s ∧ p.InPeriod a s)
    (fun a u r u' hR hguard hrun => by
      obtain ⟨s, rfl, hs⟩ := hR
      exact hs.step hguard.1 hguard.2.1 (fun flags e hop => hguard.2.2 s flags e rfl hop) hrun)
    hsteps ⟨s, rfl, hinit⟩
  exact ⟨s', Option.some.inj hu, hperiod⟩

/-- The same for an always mapped buffer. -/
theorem inPeriod_alwaysMapped {b b' : DmaBuffer w} (hfresh : b.Fresh) {m : BufferModel w}
    {p : AlwaysParams w} {s : CountState} (hb : b.view = m.alwaysMapped p s)
    {h : List (CallRecord w)} (hs : (bufferMachine w).Steps HonouredMaps (some b) h (some b')) :
    ∃ s' : CountState, b'.view = m.alwaysMapped p s' ∧
      PeriodAccess s'.mapFlags s'.mappingRefcount (periodSummary h) := by
  have hinit : PeriodAccess s.mapFlags s.mappingRefcount .idle := by
    rw [← mappingRefcount_of_always hb, hfresh.mappingRefcount]
    exact .ofIdle _
  obtain ⟨u, hsteps, hu⟩ := steps_alwaysMapped hb
    (K := fun (u : Option CountState) op _ => op.IsMapOrUnmap ∧
      ∀ s flags errorNonNull, u = some s → op = .map flags errorNonNull → s.Honoured flags)
    (fun c u op t hview hguard => by
      obtain ⟨hop, -, hhonoured⟩ := hguard
      refine ⟨hop, fun s flags errorNonNull hsome hmap => ?_⟩
      rw [hsome] at hview
      obtain ⟨c, rfl, hc⟩ := Option.map_eq_some_iff.mp hview
      exact (flagsHonoured_of_always hc flags).mp (hhonoured c flags errorNonNull rfl hmap)) hs
  obtain ⟨s', rfl, hperiod⟩ := Machine.Steps.track PeriodSummary.next
    (R := fun a u => ∃ s : CountState, u = some s ∧ PeriodAccess s.mapFlags s.mappingRefcount a)
    (fun a u r u' hR hguard hrun => by
      obtain ⟨s, rfl, hs⟩ := hR
      exact CountState.inPeriod_step hs hguard.1
        (fun flags e hop => hguard.2 s flags e rfl hop) (AlwaysParams.step_done hrun))
    hsteps ⟨s, rfl, hinit⟩
  exact ⟨s', Option.some.inj hu, hperiod⟩

/-- **The flags keep their meaning** in every history of an allocated buffer
whose maps use flags that are taken as they are meant. -/
theorem map_flags_keep_meaning {config : BuildConfig} {allocator : Allocator w}
    {size alignment : BitVec w} {heapIdMask left : BitVec 32} {ambient : Ambient}
    {errorNonNull : Bool} {t : List (KEvent w)} {b b' : DmaBuffer w}
    (halloc : Runs (imxDmaBufferAllocate config allocator size alignment heapIdMask ambient
      errorNonNull) t (.done (some b, left)))
    {h : List (CallRecord w)} (hs : (bufferMachine w).Steps HonouredMaps (some b) h (some b')) :
    AccessLaw b' (periodSummary h) := by
  have hfresh := (allocate_fresh halloc).1
  cases hmapped : b.mappedVirtualAddress with
  | some address =>
      obtain ⟨p, s, hb⟩ := view_mmapBacked hmapped
      obtain ⟨s', hb', hperiod⟩ := inPeriod_mmapBacked hfresh hb hs
      exact accessLaw_mmapBacked hb' hperiod
  | none =>
      obtain ⟨p, s, hb⟩ := view_alwaysMapped hmapped
      obtain ⟨s', hb', hperiod⟩ := inPeriod_alwaysMapped hfresh hb hs
      exact accessLaw_alwaysMapped hb' hperiod

/-- If the law holds after a map whose flags name no access, the stored flags ask
for both. -/
theorem AccessLaw.both_of_unnamed {b : DmaBuffer w} {a : PeriodSummary} {flags : BitVec 32}
    (hlaw : AccessLaw b a) (hpos : 0 < a.count) (hmem : flags ∈ a.requests)
    (hforce : protectionInForce b a = some (mmapProt b.mapFlags))
    (hreads : reads flags = false) (hwrites : writes flags = false) :
    reads b.mapFlags = true ∧ writes b.mapFlags = true := by
  obtain ⟨f, rest, protection, -, hprotection, -, -, hcovers⟩ := hlaw.first hpos
  obtain rfl := Option.some.inj (hforce.symm.trans hprotection)
  obtain ⟨hread, hwrite⟩ := hcovers flags hmem
  refine ⟨(mmapProt_read _).mp (hread ?_), (mmapProt_write _).mp (hwrite ?_)⟩
  · simp [effReads, hwrites]
  · simp [effWrites, hreads]

/-- A normalisation that turns unnamed flags into a request for both gives them
their access. -/
theorem meansEff_of_both {normalise : BitVec 32 → BitVec 32} {flags : BitVec 32}
    (hreads : reads flags = false) (hwrites : writes flags = false)
    (hboth : reads (normalise flags) = true ∧ writes (normalise flags) = true) :
    MeansEff normalise flags := by
  refine ⟨hboth.1.trans ?_, hboth.2.trans ?_⟩
  · simp [effReads, hwrites]
  · simp [effWrites, hreads]

/-- **No other flags keep the law.**  A map with flags that are not taken as they
are meant breaks it. -/
theorem unhonoured_map_breaks_law {b b' b'' : DmaBuffer w} (hfresh : b.Fresh)
    {h : List (CallRecord w)} (hs : (bufferMachine w).Steps HonouredMaps (some b) h (some b'))
    {flags : BitVec 32} {errorNonNull : Bool} {t : List (KEvent w)} {ret : Option (BitVec w)}
    (hrun : Runs (bufferStep (some b') (.map flags errorNonNull)) t (.done (ret, some b'')))
    (hsucceeds : ¬ MmapFailed t) (hnot : ¬ FlagsHonoured b' flags) :
    ¬ AccessLaw b'' (periodSummary (h ++ [⟨.map flags errorNonNull, t, ret⟩])) := by
  intro hlaw
  unfold periodSummary at hlaw
  rw [List.foldl_append, List.foldl_cons, List.foldl_nil, PeriodSummary.next_map] at hlaw
  have hnamed := (not_or.mp hnot).1
  have hreads : reads flags = false := by
    by_contra hr
    exact hnamed (Or.inl (by simpa using hr))
  have hwrites : writes flags = false := by
    by_contra hw
    exact hnamed (Or.inr (Or.inl (by simpa using hw)))
  have hlast : flags ∈ (periodSummary h).requests ++ [flags] :=
    List.mem_append_right _ List.mem_cons_self
  cases hmapped : b.mappedVirtualAddress with
  | some address =>
      obtain ⟨p, s, hb⟩ := view_mmapBacked hmapped
      obtain ⟨s', hb', hperiod⟩ := inPeriod_mmapBacked hfresh hb hs
      obtain ⟨u, hu, hstep⟩ := step_mmapBacked hb' hrun
      have hdone : p.Step s' (.map flags errorNonNull) t ret u := MmapParams.step_done hstep
      cases hdone with
      | map hmap =>
          have hb'' := Option.some.inj hu
          have hprotection := hperiod.protection_map hsucceeds hmap
          have hboth := hlaw.both_of_unnamed (Nat.succ_pos _) hlast (by
            unfold protectionInForce
            rw [mappedVirtualAddress_of_view hb'', Option.isSome_some, if_pos rfl,
              mapFlags_of_view hb'']
            exact hprotection) hreads hwrites
          rw [mapFlags_of_view hb''] at hboth
          rw [flagsHonoured_of_view hb'] at hnot
          cases hmap with
          | redundant hmapped => exact hnot (Or.inr ⟨hmapped, hboth⟩)
          | failed => exact hsucceeds ⟨_, _, _, _, _, List.mem_cons_self⟩
          | fresh => exact hnot (Or.inl (meansEff_of_both hreads hwrites hboth))
  | none =>
      obtain ⟨p, s, hb⟩ := view_alwaysMapped hmapped
      obtain ⟨s', hb', hperiod⟩ := inPeriod_alwaysMapped hfresh hb hs
      obtain ⟨u, hu, hstep⟩ := step_alwaysMapped hb' hrun
      have hdone : p.Step s' (.map flags errorNonNull) t ret u := AlwaysParams.step_done hstep
      cases hdone with
      | map hmap =>
          have hb'' := Option.some.inj hu
          have hboth := hlaw.both_of_unnamed (Nat.succ_pos _) hlast (by
            unfold protectionInForce
            rw [mappedVirtualAddress_of_always hb'', Option.isSome_none,
              if_neg Bool.false_ne_true]) hreads hwrites
          rw [mapFlags_of_always hb''] at hboth
          rw [flagsHonoured_of_always hb'] at hnot
          cases hmap with
          | redundant hmapped => exact hnot (Or.inr ⟨hmapped, hboth⟩)
          | fresh => exact hnot (Or.inl (meansEff_of_both hreads hwrites hboth))

/-- A buffer of that allocator, unmapped or mapped once. -/
def ipuBuffer (mappedVirtualAddress : BitVec 64) (mapFlags : BitVec 32) (mappingRefcount : Int) :
    DmaBuffer 64 :=
  .ipu ipuDevice {
    mappedVirtualAddress := mappedVirtualAddress
    mapFlags := mapFlags
    mappingRefcount := mappingRefcount
    physicalAddress := 0x80000000
    actualSize := 4096
    size := 4096
    alignedPhysicalAddress := 0x80000000
    physicalAddress_ne_zero := by decide }

/-- The record of that buffer's first map. -/
def ipuMapRecord (flags : BitVec 32) : CallRecord 64 :=
  ⟨.map flags true, [⟨.mmap 4096 (mmapProt flags) 5 0x80000000, .ok ⟨0x10000, sample_address_ne_null⟩⟩],
    some 0x10000⟩

/-- The law holds after an IPU buffer has been mapped for reading. -/
theorem read_map_keeps_meaning :
    AccessLaw (ipuBuffer 0x10000 mappingFlagRead 1) (periodSummary [ipuMapRecord mappingFlagRead]) := by
  have halloc : Runs (imxDmaBufferAllocate recentKernelConfig (.ipu ipuDevice) 4096 0 0 cleanAmbient
      true) [⟨.ipuAlloc 5 4096, .ok 0x80000000⟩] (.done (some (ipuBuffer 0 0 0), 0)) :=
    .call _ (.ret _)
  refine map_flags_keep_meaning halloc (.single ⟨?_, ?_, ?_⟩ (.call _ (.ret _)))
  · exact Or.inr ⟨_, _, rfl⟩
  · intro hfailed
    obtain ⟨_, _, _, _, _, hmem⟩ := hfailed
    cases List.mem_singleton.mp hmem
  · intro b flags errorNonNull _ hop
    obtain ⟨rfl, -⟩ := BufferCall.map.inj hop
    exact Or.inl (Or.inl (by decide))

/-- Mapped with flags 0, which stand for reading and writing, the pages of an IPU
buffer cannot be accessed at all. -/
theorem zero_flags_map_inaccessible :
    (∃ t, Runs (imxDmaBufferAllocate recentKernelConfig (.ipu ipuDevice) 4096 0 0 cleanAmbient true)
      t (.done (some (ipuBuffer 0 0 0), 0))) ∧
    Runs (bufferStep (some (ipuBuffer 0 0 0)) (ipuMapRecord 0).op) (ipuMapRecord 0).events
      (.done ((ipuMapRecord 0).ret, some (ipuBuffer 0x10000 0 1))) ∧
    mmapProt 0 = 0 ∧ ¬ AccessLaw (ipuBuffer 0x10000 0 1) (periodSummary [ipuMapRecord 0]) := by
  refine ⟨⟨[⟨.ipuAlloc 5 4096, .ok 0x80000000⟩], .call _ (.ret _)⟩, .call _ (.ret _), by decide, ?_⟩
  intro hlaw
  obtain ⟨f, rest, protection, hrequests, hforce, hallows, -⟩ := hlaw.first (by decide)
  obtain ⟨rfl, -⟩ := List.cons.inj hrequests
  obtain rfl := Option.some.inj hforce
  exact absurd (hallows.1.mpr (by decide)) (by decide)

end ImxDmaBuffer
