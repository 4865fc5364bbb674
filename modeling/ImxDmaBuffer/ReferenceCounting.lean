import ImxDmaBuffer.AllocateSteps

/-!
# Reference counting

All six allocators count maps and unmaps.  The abstract counter reads the count
off the calls alone: up by one with each map that returns a pointer, down by one
with each unmap, never below zero.  The library keeps the count twice in the
mmap-based allocators, in `mapping_refcount` and in whether
`mapped_virtual_address` is set, and once in DWL and G2D buffers.  `CountsMaps`
says that along every history the two agree with the abstract counter, and that
`mmap` and `munmap` happen where the count leaves and reaches zero.

The DWL and G2D allocators fail this when rounding the backend's address up
wraps: the pointer they hand out is then `NULL`, but the map counts.
-/

namespace ImxDmaBuffer

open CallProgram

variable {w : Nat}

/-- The mappings that the `mmap` calls of a trace made: address and length. -/
def mappingsMade (t : List (KEvent w)) : List (BitVec w × BitVec w) :=
  t.filterMap fun
    | ⟨.mmap length _ _ _, .ok mapped⟩ => some (mapped.address, length)
    | _ => none

/-- The mappings that the `munmap` calls of a trace removed. -/
def mappingsRemoved (t : List (KEvent w)) : List (BitVec w × BitVec w) :=
  t.filterMap fun
    | ⟨.munmap address length, _⟩ => some (address, length)
    | _ => none

/-- The trace contains an `mmap`, successful or not. -/
def TriesMmap (t : List (KEvent w)) : Prop :=
  ∃ length prot fd offset answer, ⟨.mmap length prot fd offset, answer⟩ ∈ t

/-- What the calls so far say about a buffer: the abstract count, the pointer
that the last successful map returned, and the mapping that the last successful
`mmap` made. -/
structure MapSummary (w : Nat) where
  count : Nat
  pointer : Option (BitVec w)
  mapping : Option (BitVec w × BitVec w)

/-- One more call. -/
def MapSummary.next (a : MapSummary w) (r : CallRecord w) : MapSummary w where
  count :=
    match r.op, r.ret with
    | .map _ _, some pointer => if pointer = 0 then a.count else a.count + 1
    | .unmap, _ => a.count - 1
    | _, _ => a.count
  pointer :=
    match r.op, r.ret with
    | .map _ _, some pointer => if pointer = 0 then a.pointer else some pointer
    | _, _ => a.pointer
  mapping := (mappingsMade r.events).getLast?.or a.mapping

/-- The summary of a history. -/
def mapSummary (h : List (CallRecord w)) : MapSummary w :=
  h.foldl MapSummary.next ⟨0, none, none⟩

/-- The call is a map or an unmap. -/
def BufferCall.IsMapOrUnmap (op : BufferCall) : Prop :=
  op = .unmap ∨ ∃ flags errorNonNull, op = .map flags errorNonNull

/-- The client only maps and unmaps. -/
def MapsAndUnmaps : (bufferMachine w).Guard := fun _ op _ => op.IsMapOrUnmap

/-- In a state reached by calls with summary `a`, the buffer agrees with the
abstract counter, and nothing about it has changed but its mapping. -/
structure AgreesWith (b : DmaBuffer w) (a : MapSummary w) (b' : DmaBuffer w) : Prop where
  refcount : b'.mappingRefcount = a.count
  mapped : ∀ address, b'.mappedVirtualAddress = some address → (address ≠ 0 ↔ 0 < a.count)
  mapping : ∀ address, b'.mappedVirtualAddress = some address → 0 < a.count →
    a.mapping = some (address, imxDmaBufferGetSize b)
  size : imxDmaBufferGetSize b' = imxDmaBufferGetSize b
  fd : imxDmaBufferGetFd b' = imxDmaBufferGetFd b
  physicalAddress : imxDmaBufferGetPhysicalAddress b' = imxDmaBufferGetPhysicalAddress b

/-- A call made at summary `a` maps and unmaps where the abstract counter says. -/
structure ServedAt (a : MapSummary w) (b : DmaBuffer w) (r : CallRecord w) (b' : DmaBuffer w) :
    Prop where
  mmap : TriesMmap r.events → a.count = 0
  munmap : mappingsRemoved r.events =
    if r.op = .unmap ∧ a.count = 1 then a.mapping.toList else []
  pointer : ∀ flags errorNonNull, r.op = .map flags errorNonNull → 0 < a.count →
    r.ret = a.pointer
  surplus : r.op = .unmap → a.count = 0 → r.events = [] ∧ b' = b

/-- **Reference counting.**  Along every history of maps and unmaps, the buffer
agrees with the abstract counter and serves the next call accordingly. -/
def CountsMaps (b : DmaBuffer w) : Prop :=
  ∀ h b', (bufferMachine w).Steps MapsAndUnmaps (some b) h (some b') →
    AgreesWith b (mapSummary h) b' ∧
      ∀ r b'', MapsAndUnmaps (some b') r.op r.events →
        Runs (bufferStep (some b') r.op) r.events (.done (r.ret, some b'')) →
          ServedAt (mapSummary h) b' r b''

theorem MapSummary.next_map {a : MapSummary w} {flags : BitVec 32} {errorNonNull : Bool}
    {t : List (KEvent w)} {pointer : BitVec w} (hne : pointer ≠ 0) :
    a.next ⟨.map flags errorNonNull, t, some pointer⟩ =
      ⟨a.count + 1, some pointer, (mappingsMade t).getLast?.or a.mapping⟩ := by
  simp only [MapSummary.next, if_neg hne]

theorem MapSummary.next_map_null {a : MapSummary w} {flags : BitVec 32} {errorNonNull : Bool}
    {t : List (KEvent w)} :
    a.next ⟨.map flags errorNonNull, t, some 0⟩ =
      ⟨a.count, a.pointer, (mappingsMade t).getLast?.or a.mapping⟩ := by
  simp only [MapSummary.next, if_true]

theorem MapSummary.next_unmap {a : MapSummary w} {t : List (KEvent w)} :
    a.next ⟨.unmap, t, none⟩ =
      ⟨a.count - 1, a.pointer, (mappingsMade t).getLast?.or a.mapping⟩ := rfl

/-- Sync calls neither map nor unmap. -/
theorem mappings_of_isSync {t : List (KEvent w)} (h : ∀ e ∈ t, e.call.isSync = true) :
    mappingsMade t = [] ∧ mappingsRemoved t = [] ∧ ¬ TriesMmap t := by
  refine ⟨List.filterMap_eq_nil_iff.mpr ?_, List.filterMap_eq_nil_iff.mpr ?_, ?_⟩
  · intro e he
    have hsync := h e he
    split
    · cases hsync
    · rfl
  · intro e he
    have hsync := h e he
    split
    · cases hsync
    · rfl
  · intro htries
    obtain ⟨_, _, _, _, _, hmem⟩ := htries
    cases h _ hmem

theorem mappingsMade_append (t t' : List (KEvent w)) :
    mappingsMade (t ++ t') = mappingsMade t ++ mappingsMade t' :=
  List.filterMap_append

theorem mappingsRemoved_append (t t' : List (KEvent w)) :
    mappingsRemoved (t ++ t') = mappingsRemoved t ++ mappingsRemoved t' :=
  List.filterMap_append

namespace MmapParams

variable {p : MmapParams w}

/-- The mutable part of an mmap-based buffer agrees with the abstract counter:
the count is positive exactly while the address is set, and then the address is
the one of the last `mmap`. -/
structure Counts (p : MmapParams w) (a : MapSummary w) (s : SyncState w) : Prop where
  refcount : s.mappingRefcount = a.count
  mapped : s.mappedVirtualAddress ≠ 0 ↔ 0 < a.count
  pointer : 0 < a.count → a.pointer = some s.mappedVirtualAddress
  mapping : 0 < a.count → a.mapping = some (s.mappedVirtualAddress, p.args.length)

theorem Counts.count_eq_zero {a : MapSummary w} {s : SyncState w} (hs : p.Counts a s)
    (hunmapped : s.mappedVirtualAddress = 0) : a.count = 0 := by
  by_contra hne
  exact hs.mapped.mpr (Nat.pos_of_ne_zero hne) hunmapped

/-- A map keeps the agreement, tries `mmap` only at count zero, unmaps nothing,
and returns the address of the mapping when there is one. -/
theorem Counts.map {a : MapSummary w} {s s' : SyncState w} {flags : BitVec 32}
    {errorNonNull : Bool} {t : List (KEvent w)} {ret : BitVec w} (hs : p.Counts a s)
    (hstep : p.MapStep s flags errorNonNull t ret s') :
    p.Counts (a.next ⟨.map flags errorNonNull, t, some ret⟩) s' ∧
      (TriesMmap t → a.count = 0) ∧ mappingsRemoved t = [] ∧ (0 < a.count → some ret = a.pointer) := by
  cases hstep with
  | redundant hmapped =>
      have hpos := hs.mapped.mp hmapped
      have hnone : ¬ TriesMmap ([] : List (KEvent w)) := by
        intro htries
        obtain ⟨_, _, _, _, _, hmem⟩ := htries
        cases hmem
      rw [MapSummary.next_map hmapped]
      refine ⟨⟨?_, ?_, fun _ => rfl, fun _ => hs.mapping hpos⟩, fun h => absurd h hnone, rfl,
        fun _ => (hs.pointer hpos).symm⟩
      · have hcount := hs.refcount
        push_cast
        exact congrArg (· + 1) hcount
      · exact ⟨fun _ => Nat.succ_pos _, fun _ => hmapped⟩
  | failed hunmapped errno sync hsync =>
      have hzero := hs.count_eq_zero hunmapped
      obtain ⟨hmade, hremoved, -⟩ := mappings_of_isSync hsync.isSync
      rw [MapSummary.next_map_null]
      have hnot : ¬ 0 < a.count := by omega
      refine ⟨⟨hs.refcount, hs.mapped, fun h => absurd h hnot, fun h => absurd h hnot⟩,
        fun _ => hzero, ?_, fun h => absurd h hnot⟩
      change mappingsRemoved ([_] ++ (storeEvents errorNonNull errno.code ++ sync)) = []
      rw [mappingsRemoved_append, mappingsRemoved_append, hremoved]
      cases errorNonNull <;> rfl
  | fresh hunmapped mapped sync hsync =>
      have hzero := hs.count_eq_zero hunmapped
      obtain ⟨hmade, hremoved, -⟩ := mappings_of_isSync hsync.isSync
      rw [MapSummary.next_map mapped.ne_null, hzero]
      refine ⟨⟨rfl, ⟨fun _ => Nat.one_pos, fun _ => mapped.ne_null⟩, fun _ => rfl, fun _ => ?_⟩,
        fun _ => rfl, hremoved, fun h => absurd h (by omega)⟩
      change (mappingsMade ([⟨.mmap p.args.length (mmapProt (p.normalise flags)) p.args.fd
        p.args.offset, .ok mapped⟩] ++ sync)).getLast?.or a.mapping = _
      rw [mappingsMade_append, hmade]
      rfl

/-- An unmap keeps the agreement, unmaps exactly on the step from one to zero
what the last `mmap` made, and changes nothing at zero. -/
theorem Counts.unmap {a : MapSummary w} {s s' : SyncState w} {t : List (KEvent w)}
    (hs : p.Counts a s) (hstep : p.UnmapStep s t s') :
    p.Counts (a.next ⟨.unmap, t, none⟩) s' ∧ ¬ TriesMmap t ∧
      mappingsRemoved t = (if a.count = 1 then a.mapping.toList else []) ∧
      (a.count = 0 → t = [] ∧ s' = s) := by
  have hnone : ¬ TriesMmap ([] : List (KEvent w)) := by
    intro htries
    obtain ⟨_, _, _, _, _, hmem⟩ := htries
    cases hmem
  rw [MapSummary.next_unmap]
  cases hstep with
  | surplus hunmapped =>
      have hzero := hs.count_eq_zero hunmapped
      refine ⟨⟨?_, ?_, ?_, ?_⟩, hnone, ?_, fun _ => ⟨rfl, rfl⟩⟩
      · simpa [hzero] using hs.refcount
      · simpa [hzero] using hs.mapped
      · simp [hzero]
      · simp [hzero]
      · rw [if_neg (by omega)]
        rfl
  | decrement hmapped hmore =>
      have hpos := hs.mapped.mp hmapped
      have hcount := hs.refcount
      have htwo : 2 ≤ a.count := by omega
      refine ⟨⟨?_, ⟨fun _ => ?_, fun _ => hmapped⟩, fun _ => hs.pointer hpos,
        fun _ => hs.mapping hpos⟩, hnone, ?_, fun h => absurd h (by omega)⟩
      · change s.mappingRefcount - 1 = ((a.count - 1 : Nat) : Int)
        omega
      · change 0 < a.count - 1
        omega
      · rw [if_neg (by omega)]
        rfl
  | last hmapped hone sync hsync =>
      have hpos := hs.mapped.mp hmapped
      have hcount : a.count = 1 := by
        have := hs.refcount
        omega
      obtain ⟨hmade, hremoved, htries⟩ := mappings_of_isSync hsync.isSync
      refine ⟨⟨?_, ?_, ?_, ?_⟩, ?_, ?_, fun h => absurd h (by omega)⟩
      · simp [hcount]
      · simp [hcount]
      · simp [hcount]
      · simp [hcount]
      · intro h
        obtain ⟨length, prot, fd, offset, answer, hmem⟩ := h
        rcases List.mem_append.mp hmem with hmem | hmem
        · exact htries ⟨length, prot, fd, offset, answer, hmem⟩
        · cases List.mem_singleton.mp hmem
      · rw [if_pos hcount, hs.mapping hpos, mappingsRemoved_append, hremoved]
        rfl

/-- A map or unmap of the mutable part, in the terms of `ServedAt`. -/
theorem Counts.step {a : MapSummary w} {s : SyncState w} {op : BufferCall} {t : List (KEvent w)}
    {ret : Option (BitVec w)} {u : Option (SyncState w)} (hs : p.Counts a s)
    (hop : op.IsMapOrUnmap) (hstep : p.Step s op t ret u) :
    (∃ s', u = some s' ∧ p.Counts (a.next ⟨op, t, ret⟩) s') ∧
      (TriesMmap t → a.count = 0) ∧
      mappingsRemoved t = (if op = .unmap ∧ a.count = 1 then a.mapping.toList else []) ∧
      (∀ flags errorNonNull, op = .map flags errorNonNull → 0 < a.count → ret = a.pointer) ∧
      (op = .unmap → a.count = 0 → t = []) := by
  cases hstep with
  | map hmap =>
      obtain ⟨hcounts, htries, hremoved, hpointer⟩ := hs.map hmap
      exact ⟨⟨_, rfl, hcounts⟩, htries, by simp [hremoved], fun _ _ _ => hpointer,
        fun h => by cases h⟩
  | unmap hunmap =>
      obtain ⟨hcounts, htries, hremoved, hsurplus⟩ := hs.unmap hunmap
      exact ⟨⟨_, rfl, hcounts⟩, fun h => absurd h htries, by simp [hremoved],
        fun _ _ h => (by cases h), fun _ hzero => (hsurplus hzero).1⟩
  | startSyncSession => rcases hop with h | ⟨_, _, h⟩ <;> cases h
  | stopSyncSession => rcases hop with h | ⟨_, _, h⟩ <;> cases h
  | deallocate => rcases hop with h | ⟨_, _, h⟩ <;> cases h

end MmapParams

namespace AlwaysParams

variable {p : AlwaysParams w}

/-- The mutable part of an always mapped buffer agrees with the abstract counter. -/
structure Counts (p : AlwaysParams w) (a : MapSummary w) (s : CountState) : Prop where
  refcount : s.mappingRefcount = a.count
  pointer : 0 < a.count → a.pointer = some p.virtualAddress
  mapping : a.mapping = none

/-- A map or unmap of the mutable part, when the address is not `NULL`. -/
theorem Counts.step (hne : p.virtualAddress ≠ 0) {a : MapSummary w} {s : CountState}
    {op : BufferCall} {t : List (KEvent w)} {ret : Option (BitVec w)} {u : Option CountState}
    (hs : p.Counts a s) (hop : op.IsMapOrUnmap) (hstep : p.Step s op t ret u) :
    (∃ s', u = some s' ∧ p.Counts (a.next ⟨op, t, ret⟩) s') ∧
      (TriesMmap t → a.count = 0) ∧
      mappingsRemoved t = (if op = .unmap ∧ a.count = 1 then a.mapping.toList else []) ∧
      (∀ flags errorNonNull, op = .map flags errorNonNull → 0 < a.count → ret = a.pointer) ∧
      (op = .unmap → a.count = 0 → t = []) := by
  have hnone : ¬ TriesMmap ([] : List (KEvent w)) := by
    intro htries
    obtain ⟨_, _, _, _, _, hmem⟩ := htries
    cases hmem
  have hrefcount := hs.refcount
  cases hstep with
  | map hmap =>
      refine ⟨⟨_, rfl, ?_⟩, fun h => absurd h hnone, by simp [mappingsRemoved],
        fun _ _ _ hpos => (hs.pointer hpos).symm, fun h => by cases h⟩
      rw [MapSummary.next_map hne]
      refine ⟨?_, fun _ => rfl, hs.mapping⟩
      cases hmap with
      | redundant =>
          push_cast
          exact congrArg (· + 1) hrefcount
      | fresh hunmapped =>
          have hzero : a.count = 0 := by omega
          rw [hzero]
          rfl
  | unmap hunmap =>
      refine ⟨⟨_, rfl, ?_⟩, fun h => absurd h hnone, by simp [mappingsRemoved, hs.mapping],
        fun _ _ h => (by cases h), fun _ _ => rfl⟩
      rw [MapSummary.next_unmap]
      cases hunmap with
      | surplus hunmapped =>
          have hzero : a.count = 0 := by omega
          refine ⟨?_, fun h => ?_, hs.mapping⟩
          · rw [hrefcount, hzero]
          · simp [hzero] at h
      | decrement hmapped =>
          refine ⟨?_, fun h => hs.pointer (Nat.lt_of_lt_of_le h (Nat.sub_le _ _)), hs.mapping⟩
          change s.mappingRefcount - 1 = ((a.count - 1 : Nat) : Int)
          omega
  | startSyncSession => rcases hop with h | ⟨_, _, h⟩ <;> cases h
  | stopSyncSession => rcases hop with h | ⟨_, _, h⟩ <;> cases h
  | deallocate => rcases hop with h | ⟨_, _, h⟩ <;> cases h

end AlwaysParams

theorem MmapParams.unmap_same {p : MmapParams w} {s s' : SyncState w} {t : List (KEvent w)}
    (hunmapped : s.mappedVirtualAddress = 0) (h : Runs (p.unmap s) t (.done s')) : s' = s := by
  cases MmapParams.unmap_done h with
  | surplus => rfl
  | decrement hmapped => exact absurd hunmapped hmapped
  | last hmapped => exact absurd hunmapped hmapped

theorem CountState.unmap_same {s s' : CountState} {t : List (KEvent w)}
    (hunmapped : ¬ 0 < s.mappingRefcount) (h : Runs s.unmap t (.done s')) : s' = s := by
  obtain ⟨-, hstep⟩ := CountState.unmap_done h
  cases hstep with
  | surplus => rfl
  | decrement hmapped => exact absurd hmapped hunmapped

/-- Unmapping a buffer that is not mapped leaves it as it is. -/
theorem unmap_of_not_isMapped {b b' : DmaBuffer w} (hunmapped : ¬ b.IsMapped)
    {t : List (KEvent w)} (h : Runs (imxDmaBufferUnmap b) t (.done b')) : b' = b := by
  cases b with
  | dmaHeap allocator buffer =>
      have hzero : buffer.mappedVirtualAddress = 0 := not_not.mp hunmapped
      simp only [imxDmaBufferUnmap, DmaHeapBuffer.unmap_eq, Functor.map_map] at h
      obtain ⟨s', hrun, rfl⟩ := runs_map_done_iff.mp h
      rw [MmapParams.unmap_same (by exact hzero) hrun]
      rfl
  | ion allocator buffer =>
      have hzero : buffer.mappedVirtualAddress = 0 := not_not.mp hunmapped
      simp only [imxDmaBufferUnmap, IonBuffer.unmap_eq, Functor.map_map] at h
      obtain ⟨s', hrun, rfl⟩ := runs_map_done_iff.mp h
      rw [MmapParams.unmap_same (by exact hzero) hrun]
  | dwl allocator buffer =>
      have hzero : ¬ 0 < buffer.mappingRefcount := hunmapped
      simp only [imxDmaBufferUnmap, dwlAllocatorUnmap, bind_pure_comp, Functor.map_map] at h
      obtain ⟨s', hrun, rfl⟩ := runs_map_done_iff.mp h
      rw [CountState.unmap_same hzero hrun]
  | ipu allocator buffer =>
      have hzero : buffer.mappedVirtualAddress = 0 := not_not.mp hunmapped
      simp only [imxDmaBufferUnmap, IpuBuffer.unmap_eq allocator, Functor.map_map] at h
      obtain ⟨s', hrun, rfl⟩ := runs_map_done_iff.mp h
      rw [MmapParams.unmap_same (by exact hzero) hrun]
  | g2d buffer =>
      have hzero : ¬ 0 < buffer.mappingRefcount := hunmapped
      simp only [imxDmaBufferUnmap, g2dAllocatorUnmap, bind_pure_comp, Functor.map_map] at h
      obtain ⟨s', hrun, rfl⟩ := runs_map_done_iff.mp h
      rw [CountState.unmap_same hzero hrun]
  | pxp allocator buffer =>
      have hzero : buffer.mappedVirtualAddress = 0 := not_not.mp hunmapped
      simp only [imxDmaBufferUnmap, PxpBuffer.unmap_eq allocator, Functor.map_map] at h
      obtain ⟨s', hrun, rfl⟩ := runs_map_done_iff.mp h
      rw [MmapParams.unmap_same (by exact hzero) hrun]

/-- A surplus unmap, as a completed call. -/
theorem surplus_unmap_same {b b' : DmaBuffer w} {t : List (KEvent w)} {ret : Option (BitVec w)}
    (hunmapped : ¬ b.IsMapped) (h : Runs (bufferStep (some b) .unmap) t (.done (ret, some b'))) :
    b' = b := by
  obtain ⟨_, hrun, heq⟩ := runs_map_done_iff.mp h
  obtain rfl := Option.some.inj (Prod.mk.inj heq).2
  exact unmap_of_not_isMapped hunmapped hrun

/-- An mmap-based buffer counts maps. -/
theorem countsMaps_mmapBacked {b : DmaBuffer w} (hfresh : b.Fresh) {address : BitVec w}
    (hmmap : b.mappedVirtualAddress = some address) : CountsMaps b := by
  obtain ⟨p, s, hb⟩ := view_mmapBacked hmmap
  have hzero : s.mappedVirtualAddress = 0 :=
    hfresh.mappedVirtualAddress _ (mappedVirtualAddress_of_view hb)
  have hinit : p.Counts ⟨0, none, none⟩ s := by
    refine ⟨?_, ?_, fun h => absurd h (by simp), fun h => absurd h (by simp)⟩
    · rw [← mappingRefcount_of_view hb, hfresh.mappingRefcount]
      rfl
    · simp [hzero]
  intro h b' hs
  obtain ⟨u, hsteps, hu⟩ := steps_mmapBacked hb (K := fun _ op _ => op.IsMapOrUnmap)
    (fun _ _ _ _ _ hop => hop) hs
  obtain ⟨s', rfl, hcounts⟩ := Machine.Steps.track MapSummary.next
    (R := fun a u => ∃ s, u = some s ∧ p.Counts a s)
    (fun a u r u' hR hop hrun => by
      obtain ⟨s, rfl, hs⟩ := hR
      exact (hs.step hop (MmapParams.step_done hrun)).1) hsteps ⟨s, rfl, hinit⟩
  have hb' : b'.view = b.view.mmapBacked p s' := Option.some.inj hu
  refine ⟨⟨?_, ?_, ?_, ?_, ?_, ?_⟩, ?_⟩
  · rw [mappingRefcount_of_view hb', hcounts.refcount]
    rfl
  · intro address haddress
    rw [mappedVirtualAddress_of_view hb'] at haddress
    rw [← Option.some.inj haddress]
    exact hcounts.mapped
  · intro address haddress hpos
    rw [mappedVirtualAddress_of_view hb'] at haddress
    rw [← Option.some.inj haddress, ← length_of_view hb]
    exact hcounts.mapping hpos
  · exact congrArg BufferModel.size hb'
  · exact congrArg BufferModel.fd hb'
  · exact congrArg BufferModel.physicalAddress hb'
  · intro r b'' hop hrun
    obtain ⟨u', hu', hstep⟩ := step_mmapBacked hb' hrun
    obtain ⟨-, htries, hremoved, hpointer, hsilent⟩ :=
      hcounts.step hop (MmapParams.step_done hstep)
    refine ⟨htries, hremoved, hpointer, fun hunmap hcount => ⟨hsilent hunmap hcount, ?_⟩⟩
    have hunmapped : ¬ b'.IsMapped := by
      rw [isMapped_of_view hb', hcounts.mapped]
      exact Nat.not_lt.mpr (Nat.le_of_eq hcount)
    rw [hunmap] at hrun
    exact surplus_unmap_same hunmapped hrun

/-- An always mapped buffer with an address counts maps. -/
theorem countsMaps_alwaysMapped {b : DmaBuffer w} (hfresh : b.Fresh) {address : BitVec w}
    (halways : b.alignedVirtualAddress = some address) (hne : address ≠ 0) : CountsMaps b := by
  have hnone : b.mappedVirtualAddress = none := by
    cases b <;> first | rfl | cases halways
  obtain ⟨p, s, hb⟩ := view_alwaysMapped hnone
  have hvirtual : p.virtualAddress ≠ 0 := by
    have haddress := (alignedVirtualAddress_of_always hb).symm.trans halways
    rw [Option.some.inj haddress]
    exact hne
  have hinit : p.Counts ⟨0, none, none⟩ s := by
    refine ⟨?_, fun h => absurd h (by simp), rfl⟩
    rw [← mappingRefcount_of_always hb, hfresh.mappingRefcount]
    rfl
  intro h b' hs
  obtain ⟨u, hsteps, hu⟩ := steps_alwaysMapped hb (K := fun _ op _ => op.IsMapOrUnmap)
    (fun _ _ _ _ _ hop => hop) hs
  obtain ⟨s', rfl, hcounts⟩ := Machine.Steps.track MapSummary.next
    (R := fun a u => ∃ s, u = some s ∧ p.Counts a s)
    (fun a u r u' hR hop hrun => by
      obtain ⟨s, rfl, hs⟩ := hR
      exact (hs.step hvirtual hop (AlwaysParams.step_done hrun)).1) hsteps ⟨s, rfl, hinit⟩
  have hb' : b'.view = b.view.alwaysMapped p s' := Option.some.inj hu
  have hnone' := mappedVirtualAddress_of_always hb'
  refine ⟨⟨?_, ?_, ?_, ?_, ?_, ?_⟩, ?_⟩
  · rw [mappingRefcount_of_always hb', hcounts.refcount]
    rfl
  · intro _ haddress
    rw [hnone'] at haddress
    cases haddress
  · intro _ haddress
    rw [hnone'] at haddress
    cases haddress
  · exact congrArg BufferModel.size hb'
  · exact congrArg BufferModel.fd hb'
  · exact congrArg BufferModel.physicalAddress hb'
  · intro r b'' hop hrun
    obtain ⟨u', hu', hstep⟩ := step_alwaysMapped hb' hrun
    obtain ⟨-, htries, hremoved, hpointer, hsilent⟩ :=
      hcounts.step hvirtual hop (AlwaysParams.step_done hstep)
    refine ⟨htries, hremoved, hpointer, fun hunmap hcount => ⟨hsilent hunmap hcount, ?_⟩⟩
    have hunmapped : ¬ b'.IsMapped := by
      rw [isMapped_of_always hb', hcounts.refcount]
      have hzero : ((mapSummary h).count : Int) = 0 := by exact_mod_cast hcount
      exact not_lt.mpr (le_of_eq hzero)
    rw [hunmap] at hrun
    exact surplus_unmap_same hunmapped hrun

/-- An always mapped buffer without an address does not: its first map counts,
but returns `NULL`. -/
theorem not_countsMaps_of_null {b : DmaBuffer w} (hfresh : b.Fresh)
    (hnull : b.alignedVirtualAddress = some 0) : ¬ CountsMaps b := by
  intro hcounts
  have hnone : b.mappedVirtualAddress = none := by
    cases b <;> first | rfl | cases hnull
  obtain ⟨p, s, hb⟩ := view_alwaysMapped hnone
  have hvirtual : p.virtualAddress = 0 :=
    Option.some.inj ((alignedVirtualAddress_of_always hb).symm.trans hnull)
  have hunmapped : ¬ s.mappingRefcount > 0 := by
    rw [← mappingRefcount_of_always hb, hfresh.mappingRefcount]
    decide
  have hstep : Runs (p.step (some s) (.map 0 false)) []
      (.done (some 0, some ⟨normaliseZero 0, 1⟩)) := by
    simp only [AlwaysParams.step, CountState.map, if_neg hunmapped, hvirtual]
    exact .ret _
  obtain ⟨c, hc, hrun⟩ := step_of_alwaysMapped hb hstep
  obtain ⟨b', rfl, hb'⟩ := Option.map_eq_some_iff.mp hc
  have hsteps : (bufferMachine w).Steps MapsAndUnmaps (some b) [⟨.map 0 false, [], some 0⟩]
      (some b') := .single (Or.inr ⟨0, false, rfl⟩) hrun
  have hagrees := (hcounts _ _ hsteps).1.refcount
  rw [mappingRefcount_of_always hb'] at hagrees
  simp [mapSummary, MapSummary.next] at hagrees

/-- The virtual address at which the backend keeps a DWL or G2D buffer mapped. -/
def DmaBuffer.backendVirtualAddress : DmaBuffer w → Option (BitVec w)
  | .dwl _ buffer => some buffer.dwlLinearMem.virtualAddress
  | .g2d buffer => some buffer.buf.bufVaddr
  | _ => none

/-- The pointer that DWL and G2D buffers hand out is the backend's address,
rounded up. -/
theorem allocate_alignedVirtualAddress {config : BuildConfig} {allocator : Allocator w}
    {size alignment : BitVec w} {heapIdMask left : BitVec 32} {ambient : Ambient}
    {errorNonNull : Bool} {t : List (KEvent w)} {b : DmaBuffer w}
    (h : Runs (imxDmaBufferAllocate config allocator size alignment heapIdMask ambient
      errorNonNull) t (.done (some b, left))) :
    b.alignedVirtualAddress = b.backendVirtualAddress.map fun v =>
      alignValTo v (effectiveAlignment alignment) := by
  obtain ⟨-, hstep⟩ := allocate_done h
  generalize hr : some b = r at hstep
  cases hstep with
  | dmaHeap hstep =>
      obtain ⟨buffer, rfl, rfl⟩ := Option.map_eq_some_iff.mp hr.symm
      rfl
  | ion hstep =>
      obtain ⟨buffer, rfl, rfl⟩ := Option.map_eq_some_iff.mp hr.symm
      rfl
  | dwl hstep =>
      obtain ⟨buffer, rfl, rfl⟩ := Option.map_eq_some_iff.mp hr.symm
      cases hstep
      rfl
  | ipu hstep =>
      obtain ⟨buffer, rfl, rfl⟩ := Option.map_eq_some_iff.mp hr.symm
      rfl
  | g2d hstep =>
      obtain ⟨buffer, rfl, rfl⟩ := Option.map_eq_some_iff.mp hr.symm
      cases hstep
      rfl
  | pxp hstep =>
      obtain ⟨buffer, rfl, rfl⟩ := Option.map_eq_some_iff.mp hr.symm
      rfl

/-- **Maps are counted** in every allocated buffer, except in the DWL and G2D
buffers whose address wraps when it is rounded up. -/
theorem maps_counted_iff {config : BuildConfig} {allocator : Allocator w}
    {size alignment : BitVec w} {heapIdMask left : BitVec 32} {ambient : Ambient}
    {errorNonNull : Bool} {t : List (KEvent w)} {b : DmaBuffer w}
    (halloc : Runs (imxDmaBufferAllocate config allocator size alignment heapIdMask ambient
      errorNonNull) t (.done (some b, left)))
    (hbackend : ∀ v, b.backendVirtualAddress = some v → v ≠ 0) :
    CountsMaps b ↔ ∀ v, b.backendVirtualAddress = some v →
      v.toNat + (effectiveAlignment alignment).toNat - 1 < 2 ^ w := by
  have hfresh := (allocate_fresh halloc).1
  have haligned := allocate_alignedVirtualAddress halloc
  cases hmapped : b.mappedVirtualAddress with
  | some address =>
      have hnone : b.backendVirtualAddress = none := by
        cases b <;> first | rfl | cases hmapped
      rw [hnone]
      exact ⟨fun _ v h => (by cases h), fun _ => countsMaps_mmapBacked hfresh hmapped⟩
  | none =>
      obtain ⟨v, hv⟩ : ∃ v, b.backendVirtualAddress = some v := by
        cases b <;> first | exact ⟨_, rfl⟩ | cases hmapped
      rw [hv, Option.map_some] at haligned
      constructor
      · intro hcounts u hu
        obtain rfl := Option.some.inj (hv.symm.trans hu)
        rw [← alignValTo_ne_zero_iff (hbackend v hv)]
        intro hnull
        rw [hnull] at haligned
        exact not_countsMaps_of_null hfresh haligned hcounts
      · intro hfit
        exact countsMaps_alwaysMapped hfresh haligned
          ((alignValTo_ne_zero_iff (hbackend v hv)).mpr (hfit v hv))

/-- A G2D buffer with an ordinary alignment. -/
def alignedG2dBuffer : DmaBuffer 64 :=
  .g2d {
    mapFlags := 0
    mappingRefcount := 0
    actualSize := 4112
    size := 4096
    alignedVirtualAddress := 0x70000010
    alignedPhysicalAddress := 0x80000010
    buf := ⟨0x70000008, 0x80000008⟩ }

/-- Maps of an ordinary G2D buffer are counted. -/
theorem aligned_maps_counted : CountsMaps alignedG2dBuffer := by
  have halloc : Runs (imxDmaBufferAllocate recentKernelConfig .g2d 4096 16 0 cleanAmbient true)
      [⟨.g2dAlloc 4112 false, some ⟨0x70000008, 0x80000008⟩⟩]
      (.done (some alignedG2dBuffer, 0)) := .call _ (.ret _)
  refine (maps_counted_iff halloc ?_).mpr ?_
  · intro v hv
    rw [← Option.some.inj hv]
    decide
  · intro v hv
    rw [← Option.some.inj hv]
    decide

/-- A G2D buffer with an alignment so large that both the padded size and the
rounded address wrap. -/
def wrappedG2dBuffer : DmaBuffer 64 :=
  .g2d {
    mapFlags := 0
    mappingRefcount := 0
    actualSize := 1
    size := 2
    alignedVirtualAddress := 0
    alignedPhysicalAddress := 0
    buf := ⟨0x70000000, 0x80000000⟩ }

/-- Such a buffer can be allocated, and does not count its maps. -/
theorem wrapped_maps_not_counted :
    (∃ t, Runs (imxDmaBufferAllocate recentKernelConfig .g2d 2 (-1) 0 cleanAmbient true) t
      (.done (some wrappedG2dBuffer, 0))) ∧
    wrappedG2dBuffer.backendVirtualAddress = some 0x70000000 ∧
    ¬ CountsMaps wrappedG2dBuffer := by
  refine ⟨⟨[⟨.g2dAlloc 1 false, some ⟨0x70000000, 0x80000000⟩⟩], .call _ (.ret _)⟩, rfl, ?_⟩
  exact not_countsMaps_of_null ⟨rfl, fun _ h => (by cases h), rfl⟩ rfl

end ImxDmaBuffer
