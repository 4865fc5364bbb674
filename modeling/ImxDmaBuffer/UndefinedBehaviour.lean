import ImxDmaBuffer.Library.ExactFaults
import ImxDmaBuffer.BufferContracts
import ImxDmaBuffer.BufferLives

/-!
# Where the library has undefined behaviour

Three kinds of undefined behaviour are modelled: a call on an allocator or a buffer that is
gone, an `int` that overflows, and a shift by the width of its operand or more.  Which runs
meet them is settled here exactly (`undefined_iff`).  The only `int` that can overflow is the
count of outstanding maps, and it does so in a redundant map only, because a mapped buffer
always has at least one map outstanding (`counted_of_steps`); the only shift out of range is
that of the heap mask, exactly when the kernel lists a DMA heap with an id of 32 or more in
the very query of the call.

Two more kinds are left out.  `malloc` and `calloc` are taken to succeed, though not all
callers test their results; and rounding an address up, which the macro does with pointers,
is taken to wrap as the machine's addition does.
-/

namespace ImxDmaBuffer

open CallProgram

variable {w : Nat} {config : BuildConfig}

/-- Entry `i` of the heap list is a DMA heap whose id does not fit the mask. -/
def IsWideHeap (heapData : Nat → IonHeapData) (i : Nat) : Prop :=
  (heapData i).type = ionHeapTypeDma ∧ 32 ≤ (heapData i).heapId.toNat

/-- A successful query for the heap list answers such an entry. -/
def ListsWideHeap : KEvent w → Prop
  | ⟨.ionIocHeapQuery _ cnt, .ok written⟩ =>
      ∃ i, i < cnt.toInt.toNat ∧ IsWideHeap (heapDataArray written) i
  | _ => False

/-- The call is the map that makes the count of outstanding maps overflow. -/
def BufferCall.Overflows (b : DmaBuffer w) : BufferCall → Prop
  | .map flags _ => b.IsMapped ∧ Compatible b.mapFlags (b.normaliseFlags flags) ∧
      b.mappingRefcount = INT_MAX
  | _ => False

/-- The call, answered as in the trace, uses what is gone, makes the count overflow, or shifts
too far. -/
def LibraryCall.Undefined (L : LibraryState w) (t : List (KEvent w)) : LibraryCall w → Prop
  | .destroy i => L.liveAllocator i = none
  | .allocate i _ _ _ _ => L.liveAllocator i = none ∨ ∃ e ∈ t, ListsWideHeap e
  | .buffer j call => ∀ b, L.liveBuffer j = some b → call.Overflows b
  | _ => False

/-- Never running into undefined behaviour. -/
abbrev Defined {α : Type} (p : Code w α) : Prop :=
  p.StopsExactly Fault.undefinedBehaviour fun _ => False

/-- Running into undefined behaviour exactly when the heap list has a wide entry. -/
abbrev DefinedButWide {α : Type} (p : Code w α) : Prop :=
  p.StopsExactly Fault.undefinedBehaviour ListsWideHeap

/-- A failed assertion is no undefined behaviour. -/
theorem assertion_ne_undefined : Fault.assertionFailed ≠ Fault.undefinedBehaviour := by decide

theorem one_le_int_max : 1 ≤ INT_MAX := by decide

section Pieces

variable {bad : KEvent w → Prop} {errorNonNull : Bool} {code : Int}

/-- Storing an error. -/
theorem storeError_stops {α : Type} {a : α} (hgood : ∀ code, ¬ bad ⟨.storeError code, ()⟩) :
    (storeError errorNonNull code >>= fun _ => pure a).StopsExactly Fault.undefinedBehaviour bad := by
  refine .bind (.ite (fun _ => ?_) (fun _ => trivial)) (fun _ => trivial)
  exact fun _ => Or.inr ⟨hgood code, trivial⟩

theorem storeError_defined {α : Type} {a : α} :
    Defined (w := w) (storeError errorNonNull code >>= fun _ => pure a) :=
  storeError_stops (fun _ h => h)

theorem storeError_wide {α : Type} {a : α} :
    DefinedButWide (w := w) (storeError errorNonNull code >>= fun _ => pure a) :=
  storeError_stops (fun _ h => h)

/-- An `int` expression that overflows. -/
theorem intResult_overflow {n : Int} (h : INT_MAX < n) :
    intResult (w := w) n = .halt Fault.undefinedBehaviour :=
  if_neg (fun hrange => absurd hrange.2 (Int.not_le.mpr h))

end Pieces

section Counts

namespace MmapParams

variable {p : MmapParams w} {s : SyncState w} {flags : BitVec 32} {errorNonNull : Bool}

/-- While it is mapped, the buffer passed the assertions of the map function and has maps
outstanding. -/
def Counted (p : MmapParams w) (s : SyncState w) : Prop :=
  s.mappedVirtualAddress ≠ 0 →
    p.mapAsserts = true ∧ 1 ≤ s.mappingRefcount ∧ s.mappingRefcount ≤ INT_MAX

/-- The map at which the count overflows. -/
theorem map_overflow (hasserts : p.mapAsserts = true) (hmapped : s.mappedVirtualAddress ≠ 0)
    (hcompatible : Compatible s.mapFlags (p.normalise flags)) (hfull : s.mappingRefcount = INT_MAX) :
    p.map s flags errorNonNull = .halt Fault.undefinedBehaviour := by
  have hover : intResult (w := w) (s.mappingRefcount + 1) = .halt Fault.undefinedBehaviour :=
    intResult_overflow (by omega)
  simp only [map, MapState.redundantMap, require_bind_of hasserts, if_pos hmapped,
    require_bind_of hcompatible, hover, Prog.halt_bind]

/-- The count fits after a call, unless it is the map at which it overflows. -/
theorem Counted.fits {op : BufferCall} (hcount : p.Counted s)
    (hroom : ∀ flags errorNonNull, op = .map flags errorNonNull → s.mappedVirtualAddress ≠ 0 →
      Compatible s.mapFlags (p.normalise flags) → s.mappingRefcount < INT_MAX) :
    p.CountFits s op := by
  have hmin : INT_MIN ≤ 0 := by decide
  cases op with
  | map flags errorNonNull =>
      intro hmapped hcompatible
      obtain ⟨-, hpos, -⟩ := hcount hmapped
      have hless := hroom flags errorNonNull rfl hmapped hcompatible
      exact ⟨by omega, by omega⟩
  | unmap =>
      intro hmapped
      obtain ⟨-, hpos, hmax⟩ := hcount hmapped
      exact ⟨by omega, by omega⟩
  | _ => trivial

/-- A completed call keeps the count. -/
theorem Counted.step {op : BufferCall} {t : List (KEvent w)} {ret : Option (BitVec w)}
    {s' : SyncState w} (hcount : p.Counted s)
    (hrun : Runs (p.step (some s) op) t (.done (ret, some s'))) : p.Counted s' := by
  have hstep : p.Step s op t ret (some s') := step_done hrun
  cases hstep with
  | map hmap =>
      obtain ⟨_, hmapRun, -⟩ := runs_map_done_iff.mp hrun
      have hasserts := (runs_require_bind_iff.mp hmapRun).1
      cases hmap with
      | redundant hmapped hcompatible hmax =>
          obtain ⟨-, hpos, -⟩ := hcount hmapped
          exact fun _ => ⟨hasserts, Int.le_trans hpos (Int.le_add_of_nonneg_right (by decide)), hmax⟩
      | failed hunmapped => exact fun hmapped => absurd hunmapped hmapped
      | fresh hunmapped mapped => exact fun _ => ⟨hasserts, le_refl _, one_le_int_max⟩
  | unmap hunmap =>
      cases hunmap with
      | surplus hunmapped => exact hcount
      | decrement hmapped hmore =>
          obtain ⟨hasserts, hpos, hmax⟩ := hcount hmapped
          exact fun _ => ⟨hasserts, by show 1 ≤ s.mappingRefcount - 1; omega,
            by show s.mappingRefcount - 1 ≤ INT_MAX; omega⟩
      | last => exact fun hmapped => absurd rfl hmapped
  | startSyncSession hstart => cases hstart <;> exact hcount
  | stopSyncSession hstop => cases hstop <;> exact hcount

end MmapParams

namespace AlwaysParams

variable {p : AlwaysParams w} {c : CountState}

/-- The count fits after a call, unless it is the map at which it overflows. -/
theorem countFits {op : BufferCall} (hmax : c.mappingRefcount ≤ INT_MAX)
    (hroom : ∀ flags errorNonNull, op = .map flags errorNonNull → 0 < c.mappingRefcount →
      Compatible c.mapFlags (normaliseZero flags) → c.mappingRefcount < INT_MAX) :
    CountFits c op := by
  have hmin : INT_MIN ≤ 0 := by decide
  cases op with
  | map flags errorNonNull =>
      intro hmapped hcompatible
      have hless := hroom flags errorNonNull rfl hmapped hcompatible
      exact ⟨by omega, by omega⟩
  | unmap => exact fun hmapped => ⟨by omega, by omega⟩
  | _ => trivial

/-- The map at which the count overflows. -/
theorem map_overflow {flags : BitVec 32} (hmapped : 0 < c.mappingRefcount)
    (hcompatible : Compatible c.mapFlags flags) (hfull : c.mappingRefcount = INT_MAX) :
    c.map (w := w) flags = .halt Fault.undefinedBehaviour := by
  have hover : intResult (w := w) (c.mappingRefcount + 1) = .halt Fault.undefinedBehaviour :=
    intResult_overflow (by omega)
  unfold CountState.map
  rw [if_pos hmapped, require_bind_of hcompatible, hover, Prog.halt_bind]

/-- A completed call keeps the count in range. -/
theorem counted_step {op : BufferCall} {t : List (KEvent w)} {ret : Option (BitVec w)}
    {c' : CountState} (hmax : c.mappingRefcount ≤ INT_MAX)
    (hrun : Runs (p.step (some c) op) t (.done (ret, some c'))) : c'.mappingRefcount ≤ INT_MAX := by
  have hstep : p.Step c op t ret (some c') := step_done hrun
  cases hstep with
  | map hmap =>
      cases hmap with
      | redundant hmapped hcompatible hrange => exact hrange
      | fresh => exact one_le_int_max
  | unmap hunmap =>
      cases hunmap with
      | surplus => exact hmax
      | decrement =>
          show c.mappingRefcount - 1 ≤ INT_MAX
          omega
  | startSyncSession => exact hmax
  | stopSyncSession => exact hmax

end AlwaysParams

/-- The count of outstanding maps is what it should be. -/
def Mapping.Counted : Mapping w → Prop
  | .mmapBacked p s => p.Counted s
  | .alwaysMapped _ c => c.mappingRefcount ≤ INT_MAX

/-- The count of a buffer is what it should be. -/
def DmaBuffer.Counted (b : DmaBuffer w) : Prop := b.view.mapping.Counted

theorem counted_of_view {b : DmaBuffer w} {m : BufferModel w} {p : MmapParams w} {s : SyncState w}
    (hb : b.view = m.mmapBacked p s) : b.Counted ↔ p.Counted s := by
  unfold DmaBuffer.Counted
  rw [hb]
  exact Iff.rfl

theorem counted_of_always {b : DmaBuffer w} {m : BufferModel w} {p : AlwaysParams w}
    {c : CountState} (hb : b.view = m.alwaysMapped p c) :
    b.Counted ↔ c.mappingRefcount ≤ INT_MAX := by
  unfold DmaBuffer.Counted
  rw [hb]
  exact Iff.rfl

/-- A new buffer is not mapped. -/
theorem DmaBuffer.Fresh.counted {b : DmaBuffer w} (hfresh : b.Fresh) : b.Counted := by
  cases hmapped : b.mappedVirtualAddress with
  | some address =>
      obtain ⟨p, s, hb⟩ := view_mmapBacked hmapped
      refine (counted_of_view hb).mpr (fun hne => absurd ?_ hne)
      rw [mappedVirtualAddress_of_view hb] at hmapped
      rw [Option.some.inj hmapped]
      exact hfresh.mappedVirtualAddress address ((mappedVirtualAddress_of_view hb).trans hmapped)
  | none =>
      obtain ⟨p, c, hb⟩ := view_alwaysMapped hmapped
      refine (counted_of_always hb).mpr ?_
      rw [← mappingRefcount_of_always hb, hfresh.mappingRefcount]
      decide

/-- A completed call on a buffer keeps the count. -/
theorem DmaBuffer.Counted.step {b b' : DmaBuffer w} {call : BufferCall} {t : List (KEvent w)}
    {ret : Option (BitVec w)} (hcount : b.Counted)
    (hrun : Runs (bufferStep (some b) call) t (.done (ret, some b'))) : b'.Counted := by
  cases hmapped : b.mappedVirtualAddress with
  | some address =>
      obtain ⟨p, s, hb⟩ := view_mmapBacked hmapped
      obtain ⟨u, hview, hstep⟩ := step_mmapBacked hb hrun
      obtain ⟨s', rfl, hb'⟩ := Option.map_eq_some_iff.mp hview.symm
      exact (counted_of_view hb'.symm).mpr (((counted_of_view hb).mp hcount).step hstep)
  | none =>
      obtain ⟨p, c, hb⟩ := view_alwaysMapped hmapped
      obtain ⟨u, hview, hstep⟩ := step_alwaysMapped hb hrun
      obtain ⟨c', rfl, hb'⟩ := Option.map_eq_some_iff.mp hview.symm
      exact (counted_of_always hb'.symm).mpr
        (AlwaysParams.counted_step ((counted_of_always hb).mp hcount) hstep)

/-- A program that may only stop elsewhere does not run into undefined behaviour. -/
theorem never_undefined {α : Type} {p : Code w α} {t : List (KEvent w)}
    (h : p.Meets (.ofFaults (fun _ => True) fun fault => fault ≠ Fault.undefinedBehaviour)
      fun _ => True) : ¬ Runs p t (.halted Fault.undefinedBehaviour) :=
  fun hrun => h.halted hrun (fun _ _ => trivial) rfl

/-- A call that runs into undefined behaviour makes the count overflow. -/
theorem overflows_of_undefined {b : DmaBuffer w} {call : BufferCall} {t : List (KEvent w)}
    (hcount : b.Counted)
    (hrun : Runs (bufferStep (some b) call) t (.halted Fault.undefinedBehaviour)) :
    call.Overflows b := by
  by_contra hroom
  cases hmapped : b.mappedVirtualAddress with
  | some address =>
      obtain ⟨p, s, hb⟩ := view_mmapBacked hmapped
      refine never_undefined (MmapParams.step_meets (fun _ _ => trivial)
        (fun _ => assertion_ne_undefined) (absurd ?_)) ((halted_mmapBacked hb).mp hrun)
      refine ((counted_of_view hb).mp hcount).fits ?_
      rintro flags errorNonNull rfl hne hcompatible
      refine lt_of_le_of_ne (((counted_of_view hb).mp hcount) hne).2.2 (fun hfull => hroom ?_)
      refine ⟨(isMapped_of_view hb).mpr hne, ?_, (mappingRefcount_of_view hb).trans hfull⟩
      rwa [mapFlags_of_view hb, normaliseFlags_of_view hb]
  | none =>
      obtain ⟨p, c, hb⟩ := view_alwaysMapped hmapped
      refine never_undefined (AlwaysParams.step_meets (fun _ _ => trivial)
        (fun _ => assertion_ne_undefined) (absurd ?_)) ((halted_alwaysMapped hb).mp hrun)
      refine AlwaysParams.countFits ((counted_of_always hb).mp hcount) ?_
      rintro flags errorNonNull rfl hpos hcompatible
      refine lt_of_le_of_ne ((counted_of_always hb).mp hcount) (fun hfull => hroom ?_)
      refine ⟨(isMapped_of_always hb).mpr hpos, ?_, (mappingRefcount_of_always hb).trans hfull⟩
      rwa [mapFlags_of_always hb, normaliseFlags_of_always hb]

/-- The call that makes the count overflow stops before it asks the kernel anything. -/
theorem undefined_of_overflows {b : DmaBuffer w} {call : BufferCall} (hcount : b.Counted)
    (hover : call.Overflows b) :
    Runs (bufferStep (some b) call) [] (.halted Fault.undefinedBehaviour) := by
  cases call with
  | map flags errorNonNull =>
      obtain ⟨hbuffer, hcompatible, hfull⟩ := hover
      cases hmapped : b.mappedVirtualAddress with
      | some address =>
          obtain ⟨p, s, hb⟩ := view_mmapBacked hmapped
          have hne := (isMapped_of_view hb).mp hbuffer
          rw [mapFlags_of_view hb, normaliseFlags_of_view hb] at hcompatible
          refine (halted_mmapBacked hb).mpr (runs_map_halted_iff.mpr ?_)
          rw [MmapParams.map_overflow (((counted_of_view hb).mp hcount) hne).1 hne hcompatible
            ((mappingRefcount_of_view hb).symm.trans hfull)]
          exact .halt _
      | none =>
          obtain ⟨p, c, hb⟩ := view_alwaysMapped hmapped
          have hpos := (isMapped_of_always hb).mp hbuffer
          rw [mapFlags_of_always hb, normaliseFlags_of_always hb] at hcompatible
          refine (halted_alwaysMapped hb).mpr (runs_map_halted_iff.mpr ?_)
          rw [AlwaysParams.map_overflow hpos hcompatible
            ((mappingRefcount_of_always hb).symm.trans hfull)]
          exact .halt _
  | _ => exact hover.elim

/-- **Calls on a buffer** run into undefined behaviour exactly when the count overflows. -/
theorem bufferStep_undefined_iff {b : DmaBuffer w} {call : BufferCall} {t : List (KEvent w)}
    {o : Outcome (kernel w) _} (hcount : b.Counted) (hrun : Runs (bufferStep (some b) call) t o) :
    o = .halted Fault.undefinedBehaviour ↔ call.Overflows b := by
  constructor
  · rintro rfl
    exact overflows_of_undefined hcount hrun
  · intro hover
    rw [eq_halt_of_runs_nil (undefined_of_overflows hcount hover)] at hrun
    exact (runs_halt_iff.mp hrun).2

end Counts

section Allocations

variable {size alignment : BitVec w} {ambient : Ambient} {errorNonNull : Bool}
  {heapData : Nat → IonHeapData} {heapIdMask : BitVec 32}

/-- The loop over a heap list with a wide entry. -/
theorem heapIdMaskLoop_wide {remaining i k : Nat} (hlow : i ≤ k) (hhigh : k < i + remaining)
    (hwide : IsWideHeap heapData k) :
    heapIdMaskLoop (w := w) heapData i remaining heapIdMask = .halt Fault.undefinedBehaviour := by
  induction remaining generalizing i heapIdMask with
  | zero => omega
  | succ remaining ih =>
      unfold heapIdMaskLoop
      by_cases hfirst : i = k
      · subst hfirst
        rw [if_pos hwide.1, if_neg (Nat.not_lt.mpr hwide.2)]
      · have hrest : ∀ mask : BitVec 32, heapIdMaskLoop (w := w) heapData (i + 1) remaining mask =
            .halt Fault.undefinedBehaviour := fun _ => ih (by omega) (by omega)
        split
        · split
          · exact hrest _
          · rfl
        · exact hrest _

/-- The loop over a heap list without any. -/
theorem heapIdMaskLoop_narrow {remaining i : Nat}
    (hnarrow : ∀ k, i ≤ k → k < i + remaining → ¬ IsWideHeap heapData k) :
    DefinedButWide (w := w) (heapIdMaskLoop heapData i remaining heapIdMask) := by
  induction remaining generalizing i heapIdMask with
  | zero => trivial
  | succ remaining ih =>
      have hrest : ∀ mask : BitVec 32,
          DefinedButWide (w := w) (heapIdMaskLoop heapData (i + 1) remaining mask) :=
        fun _ => ih (fun k hlow hhigh => hnarrow k (by omega) (by omega))
      unfold heapIdMaskLoop
      refine .ite (fun hdma => .ite (fun _ => hrest _) (fun hwide => ?_)) (fun _ => hrest _)
      exact absurd ⟨hdma, Nat.not_lt.mp hwide⟩ (hnarrow i (le_refl i) (by omega))

/-- The search for the DMA heaps. -/
theorem getHeapIdMask_wide {ionFd : Int} {errno : Int} :
    DefinedButWide (w := w) (getHeapIdMask ionFd heapIdMask errno errorNonNull) := by
  unfold getHeapIdMask
  refine .ite (fun _ => trivial) (fun _ => .call_bind (fun _ h => h) (fun answer => ?_))
  cases answer with
  | error e => exact storeError_wide
  | ok cnt =>
      refine .ite (fun _ => storeError_wide) (fun _ => .answer_bind (fun answer => ?_))
      cases answer with
      | error e => exact Or.inr ⟨id, storeError_wide⟩
      | ok written =>
          by_cases hwide : ∃ i, i < cnt.toInt.toNat ∧ IsWideHeap (heapDataArray written) i
          · obtain ⟨i, hi, hentry⟩ := hwide
            refine Or.inl ⟨⟨i, hi, hentry⟩, ?_⟩
            have hstop : heapIdMaskLoop (w := w) (heapDataArray written) 0 cnt.toInt.toNat
                heapIdMask = .halt Fault.undefinedBehaviour :=
              heapIdMaskLoop_wide (Nat.zero_le i) (by omega) hentry
            simp only [hstop, Prog.halt_bind]
          · refine Or.inr ⟨hwide, .bind (heapIdMaskLoop_narrow (fun k _ hk hentry => ?_))
              (fun _ => trivial)⟩
            exact hwide ⟨k, by omega, hentry⟩

/-- The descriptor of an ION allocation. -/
theorem ionAllocateDmabuf_wide {ionFd : Int} {ionHeapIdMask ionHeapFlags : BitVec 32}
    {errno : Int} :
    DefinedButWide (ionAllocateDmabuf config ionFd size alignment ionHeapIdMask ionHeapFlags
      heapIdMask errno errorNonNull) := by
  unfold ionAllocateDmabuf ionAllocateDmabufQuery ionAllocateDmabufHandle ionMapHandle
  refine .require_bind assertion_ne_undefined (fun _ => .ite (fun _ => ?_) (fun _ => ?_))
  · refine .bind getHeapIdMask_wide (fun r => .ite (fun _ => trivial) (fun _ => ?_))
    refine .call_bind (fun _ h => h) (fun answer => ?_)
    cases answer with
    | error e => exact storeError_wide
    | ok fd => trivial
  · refine .bind (.call_bind (fun _ h => h) (fun answer => ?_)) (fun _ => trivial)
    cases answer with
    | error e => exact storeError_wide
    | ok handle =>
        refine .bind (.call_bind (fun _ h => h) (fun answer => ?_))
          (fun _ => .call_bind (fun _ h => h) (fun _ => trivial))
        cases answer with
        | error e => exact storeError_wide
        | ok fd => exact .ite (fun _ => storeError_wide) (fun _ => trivial)

/-- An ION allocation. -/
theorem ionAllocate_wide {allocator : IonAllocator} :
    DefinedButWide (ionAllocatorAllocate config allocator size alignment heapIdMask ambient
      errorNonNull) := by
  unfold ionAllocatorAllocate ionGetPhysicalAddressFromDmabufFd
  refine .require_bind assertion_ne_undefined (fun _ => .bind ionAllocateDmabuf_wide (fun r => ?_))
  refine .dite (fun _ => trivial) (fun _ => .bind (.ite (fun _ => ?_) (fun _ => ?_)) (fun phys => ?_))
  · refine .require_bind assertion_ne_undefined (fun _ => .call_bind (fun _ h => h) (fun answer => ?_))
    cases answer with
    | error e => exact storeError_wide
    | ok phys => trivial
  · refine .require_bind assertion_ne_undefined (fun _ => .call_bind (fun _ h => h) (fun answer => ?_))
    cases answer with
    | error e => exact storeError_wide
    | ok phys => trivial
  · exact .ite (fun _ => .call_bind (fun _ h => h) (fun _ => trivial)) (fun _ => trivial)

/-- A dma-heap allocation. -/
theorem dmaHeapAllocate_wide {allocator : DmaHeapAllocator} :
    DefinedButWide (dmaHeapAllocatorAllocate allocator size alignment ambient errorNonNull) := by
  unfold dmaHeapAllocatorAllocate dmaHeapAllocateDmabuf dmaHeapGetPhysicalAddressFromDmabufFd
  refine .require_bind assertion_ne_undefined (fun _ => .bind ?_ (fun fd => ?_))
  · refine .require_bind assertion_ne_undefined (fun _ => ?_)
    refine .require_bind assertion_ne_undefined (fun _ => .call_bind (fun _ h => h) (fun answer => ?_))
    cases answer with
    | error e => exact storeError_wide
    | ok fd => trivial
  · refine .ite (fun _ => trivial) (fun _ => .bind (.dite (fun _ => ?_) (fun _ => ?_)) (fun r => ?_))
    · refine .call_bind (fun _ h => h) (fun answer => ?_)
      cases answer with
      | error e => exact storeError_wide
      | ok phys => trivial
    · exact assertion_ne_undefined
    · exact .ite (fun _ => .call_bind (fun _ h => h) (fun _ => trivial)) (fun _ => trivial)

/-- An IPU allocation. -/
theorem ipuAllocate_wide {allocator : IpuAllocator} :
    DefinedButWide (ipuAllocatorAllocate allocator size alignment ambient errorNonNull) := by
  unfold ipuAllocatorAllocate ipuAllocate
  refine .require_bind assertion_ne_undefined (fun _ => .bind (.call_bind (fun _ h => h)
    (fun answer => ?_)) (fun phys => .dite (fun _ => trivial) (fun _ => trivial)))
  cases answer with
  | error e => exact storeError_wide
  | ok phys => trivial

/-- A PxP allocation. -/
theorem pxpAllocate_wide {allocator : PxpAllocator} :
    DefinedButWide (pxpAllocatorAllocate allocator size alignment ambient errorNonNull) := by
  unfold pxpAllocatorAllocate
  refine .require_bind assertion_ne_undefined (fun _ => .call_bind (fun _ h => h) (fun answer => ?_))
  cases answer with
  | error e => exact storeError_wide
  | ok phys => trivial

/-- A DWL allocation. -/
theorem dwlAllocate_wide {allocator : DwlAllocator w} :
    DefinedButWide (dwlAllocatorAllocate allocator size alignment ambient errorNonNull) := by
  unfold dwlAllocatorAllocate
  refine .require_bind assertion_ne_undefined (fun _ => .call_bind (fun _ h => h) (fun answer => ?_))
  cases answer with
  | none => exact storeError_wide
  | some mem => trivial

/-- A G2D allocation. -/
theorem g2dAllocate_wide :
    DefinedButWide (g2dAllocatorAllocate size alignment ambient errorNonNull) := by
  unfold g2dAllocatorAllocate
  refine .call_bind (fun _ h => h) (fun answer => ?_)
  cases answer with
  | none => exact storeError_wide
  | some buf => trivial

/-- **Allocations** run into undefined behaviour exactly when a wide heap is listed. -/
theorem allocate_wide {allocator : Allocator w} :
    DefinedButWide (imxDmaBufferAllocate config allocator size alignment heapIdMask ambient
      errorNonNull) := by
  unfold imxDmaBufferAllocate
  refine .require_bind assertion_ne_undefined (fun _ => ?_)
  cases allocator with
  | dmaHeap a => exact .bind dmaHeapAllocate_wide (fun _ => trivial)
  | ion a => exact .bind ionAllocate_wide (fun _ => trivial)
  | dwl a => exact .bind dwlAllocate_wide (fun _ => trivial)
  | ipu a => exact .bind ipuAllocate_wide (fun _ => trivial)
  | g2d => exact .bind g2dAllocate_wide (fun _ => trivial)
  | pxp a => exact .bind pxpAllocate_wide (fun _ => trivial)

end Allocations

section Library

variable {L L' : LibraryState w} {op : LibraryCall w} {t : List (KEvent w)}

/-- The part of the constructors that opens the device. -/
theorem openDevice_defined {α : Type} {path : String} {mode : OpenMode} {errorNonNull : Bool}
    {next : Except Errno Nat → Code w (Option α)}
    (hfailed : ∀ e, next (.error e) = do storeError errorNonNull e.code; return none)
    (hopened : ∀ n, ∃ a, next (.ok n) = return a) :
    Defined (perform (S := kernel w) (.openDevice path mode) >>= next) := by
  refine .call_bind (fun _ h => h) (fun answer => ?_)
  cases answer with
  | error e =>
      rw [hfailed]
      exact storeError_defined
  | ok n =>
      obtain ⟨a, ha⟩ := hopened n
      rw [ha]
      trivial

/-- The constructors. -/
theorem constructor_defined (hop : op.isConstructor = true) : Defined (libraryStep config L op) := by
  cases op with
  | newDmaHeap dmaHeapFd heapFlags fdFlags errorNonNull =>
      refine .map (.dite (fun _ => ?_) (fun _ => trivial))
      exact openDevice_defined (fun _ => rfl) (fun _ => ⟨_, rfl⟩)
  | newDmaHeapFromFd dmaHeapFd heapFlags fdFlags isCachedMemoryHeap =>
      exact .map (.dite (fun _ => trivial) (fun _ => assertion_ne_undefined))
  | newIon ionFd ionHeapIdMask ionHeapFlags errorNonNull =>
      refine .map (.dite (fun _ => ?_) (fun _ => trivial))
      exact openDevice_defined (fun _ => rfl) (fun _ => ⟨_, rfl⟩)
  | newDwl errorNonNull =>
      refine .map (.call_bind (fun _ h => h) (fun dwlInstance => .dite (fun _ => ?_)
        (fun _ => trivial)))
      exact storeError_defined
  | newIpu ipuFd errorNonNull =>
      refine .map (.dite (fun _ => ?_) (fun _ => trivial))
      exact openDevice_defined (fun _ => rfl) (fun _ => ⟨_, rfl⟩)
  | newG2d => trivial
  | newPxp pxpFd errorNonNull =>
      refine .map (.dite (fun _ => ?_) (fun _ => trivial))
      exact openDevice_defined (fun _ => rfl) (fun _ => ⟨_, rfl⟩)
  | _ => cases hop

/-- The destructors. -/
theorem destroy_defined (a : Allocator w) : Defined (imxDmaBufferAllocatorDestroy a) := by
  have hclose : ∀ fd, Defined (perform (S := kernel w) (.close fd)) :=
    fun _ _ => Or.inr ⟨id, trivial⟩
  cases a with
  | dmaHeap a => exact .ite (fun _ => hclose _) (fun _ => trivial)
  | ion a => exact .ite (fun _ => hclose _) (fun _ => trivial)
  | dwl a =>
      refine .require_bind assertion_ne_undefined (fun _ _ => ?_)
      exact Or.inr ⟨id, trivial⟩
  | ipu a => exact .ite (fun _ => hclose _) (fun _ => trivial)
  | g2d => trivial
  | pxp a => exact .ite (fun _ => hclose _) (fun _ => trivial)

/-- The counts of all buffers are what they should be. -/
def LibraryState.Counted (L : LibraryState w) : Prop := ∀ j b, L.bufferAt j = some b → b.Counted

/-- A completed call keeps the counts. -/
theorem LibraryState.Counted.step {ret : LibraryReturn w} (hcount : L.Counted)
    (hrun : Runs (libraryStep config L op) t (.done (ret, L'))) : L'.Counted := by
  intro j b hb
  cases buffersStep_of_done hrun with
  | keeps hop hbuffers =>
      rw [bufferAt, hbuffers] at hb
      exact hcount j b hb
  | allocates i new left hop hallocates =>
      obtain ⟨a, size, alignment, ambient, errorNonNull, -, -, hallocate⟩ := hallocates
      obtain ⟨slot, hslot, hbuffer⟩ := Option.bind_eq_some_iff.mp hb
      rcases addBuffer_slot hslot with ⟨-, hold⟩ | ⟨-, rfl⟩
      · exact hcount j b ((bufferAt_of_slot hold).trans hbuffer)
      · obtain rfl := Option.some.inj hbuffer
        exact (allocate_fresh hallocate).1.counted
  | call k call old pointer c hlive hstep =>
      by_cases hkj : k = j
      · subst hkj
        rw [bufferAt_setBuffer_same (lt_length_of_live hlive)] at hb
        rw [hb] at hstep
        exact (hcount k old (bufferAt_of_live hlive)).step hstep
      · rw [bufferAt_setBuffer_other hkj] at hb
        exact hcount j b hb

/-- After every history, mapped buffers have maps outstanding, and no count exceeds its
maximum. -/
theorem counted_of_steps {G : (libraryMachine w config).Guard} {h : List (LibraryRecord w)}
    (hs : (libraryMachine w config).Steps G LibraryState.empty h L) : L.Counted := by
  refine hs.track_history (R := fun _ (L : LibraryState w) => L.Counted) ?_ ?_
  · intro _ L r L' hcount _ hrun
    exact hcount.step hrun
  · intro j b hb
    cases hb

/-- **The modelled undefined behaviour, exactly.**  After every history, whatever call comes
next and however it is answered, it runs into undefined behaviour of one of the three kinds
if and only if it is on an allocator or a buffer that is gone, it is the map with which the
count of outstanding maps overflows, or the kernel lists a DMA heap in it whose id does not
fit the heap mask. -/
theorem undefined_iff {G : (libraryMachine w config).Guard} {h : List (LibraryRecord w)}
    (hs : (libraryMachine w config).Steps G LibraryState.empty h L)
    {o : Outcome (kernel w) (LibraryReturn w × LibraryState w)}
    (hrun : Runs (libraryStep config L op) t o) :
    o = .halted Fault.undefinedBehaviour ↔ op.Undefined L t := by
  cases hop : op.isConstructor with
  | true =>
      have hnever : o ≠ .halted Fault.undefinedBehaviour := by
        rintro rfl
        exact (constructor_defined hop).never hrun
      refine iff_of_false hnever ?_
      cases op with
      | destroy => cases hop
      | allocate => cases hop
      | buffer => cases hop
      | _ => exact id
  | false =>
      cases op with
      | destroy i =>
          simp only [libraryStep] at hrun
          simp only [LibraryCall.Undefined]
          cases hlive : L.liveAllocator i with
          | none =>
              rw [hlive] at hrun
              exact iff_of_true (runs_halt_iff.mp hrun).2 rfl
          | some a =>
              rw [hlive] at hrun
              refine iff_of_false ?_ (fun hnone => (by cases hnone))
              rintro rfl
              exact (destroy_defined a).map.never hrun
      | allocate i size alignment ambient errorNonNull =>
          simp only [libraryStep] at hrun
          simp only [LibraryCall.Undefined]
          cases hlive : L.liveAllocator i with
          | none =>
              rw [hlive] at hrun
              exact iff_of_true (runs_halt_iff.mp hrun).2 (Or.inl rfl)
          | some a =>
              rw [hlive] at hrun
              rw [allocate_wide.map.stops_iff hrun]
              simp
      | buffer j call =>
          simp only [libraryStep] at hrun
          simp only [LibraryCall.Undefined]
          cases hlive : L.liveBuffer j with
          | none =>
              rw [hlive] at hrun
              exact iff_of_true (runs_halt_iff.mp hrun).2 (fun _ hnone => (by cases hnone))
          | some b =>
              rw [hlive] at hrun
              obtain ⟨o', hcall, rfl⟩ := runs_map_iff.mp hrun
              have hcount := counted_of_steps hs j b (LibraryState.bufferAt_of_live hlive)
              rw [Outcome.map_eq_halted_iff, bufferStep_undefined_iff hcount hcall]
              simp
      | _ => cases hop

/-- An ION allocator with a device that the client opened. -/
def lentIon : IonAllocator where
  ionFd := 7
  ionFdIsInternal := false
  ionHeapIdMask := 0
  ionHeapFlags := 0
  ionFd_nonneg := Int.natCast_nonneg 7

/-- The library with that allocator. -/
def lentIonOnly : LibraryState 64 where
  allocators := [some (.ion lentIon)]
  buffers := []
  heapIdMask := 0

/-- The kernel lists one heap: a DMA heap with the id 40. -/
def wideHeapListed : List (KEvent 64) :=
  [⟨.ionIocHeapCount 7, .ok 1⟩, ⟨.ionIocHeapQuery 7 1, .ok [⟨ionHeapTypeDma, 40⟩]⟩]

/-- Allocating with that list has no defined behaviour. -/
theorem wide_heap_undefined :
    LibraryCall.Undefined lentIonOnly wideHeapListed (.allocate 0 4096 0 cleanAmbient true) := by
  have hs : (libraryMachine 64 recentKernelConfig).Steps (fun _ _ _ => True) LibraryState.empty
      [⟨.newIon 7 0 0 true, [], .created (some 0)⟩] lentIonOnly := .single trivial (.ret _)
  have hrun : Runs (libraryStep recentKernelConfig lentIonOnly (.allocate 0 4096 0 cleanAmbient true))
      wideHeapListed (.halted Fault.undefinedBehaviour) := .call _ (.call _ (.halt _))
  exact (undefined_iff hs hrun).mp rfl

end Library

end ImxDmaBuffer
