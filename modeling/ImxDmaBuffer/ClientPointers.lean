import ImxDmaBuffer.BufferLives
import ImxDmaBuffer.UsedResources

/-!
# The pointers of the client

A map hands out a pointer, and the client may use it until it gives it back with an unmap or
deallocates the buffer.  `clientPointers` reads off the calls which pointers to a buffer the
client then has.  As long as it has one, the pointer is where the CPU sees the buffer, and what backs
it is held: a mapping of the size of the buffer that starts there and has not been unmapped,
or, for DWL and G2D, whose libraries do the mapping, the memory of the buffer, which has not
been given back.  This is so whatever else was created, mapped and destroyed in between
(`client_pointers_valid`).  And a buffer to which it has none holds no mapping.
-/

namespace ImxDmaBuffer

open CallProgram ResourceLedger

variable {w : Nat} {config : BuildConfig}

/-- What a call on a buffer does to the pointers that the client has: a map that succeeds
adds one, an unmap gives one back, and a deallocation all. -/
def nextPointers (pointers : List (BitVec w)) (r : CallRecord w) : List (BitVec w) :=
  match r.op, r.ret with
  | .map _ _, some pointer => if pointer = 0 then pointers else pointer :: pointers
  | .unmap, _ => pointers.tail
  | .deallocate, _ => []
  | _, _ => pointers

/-- The pointers that the client has to buffer `j` after a history. -/
def clientPointers (j : Nat) (h : List (LibraryRecord w)) : List (BitVec w) :=
  (h.filterMap (callOn j)).foldl nextPointers []

/-- Where the CPU sees a buffer. -/
def DmaBuffer.cpuAddress (b : DmaBuffer w) : BitVec w :=
  b.mappedVirtualAddress.getD (b.alignedVirtualAddress.getD 0)

/-- What is behind a pointer to a buffer: a mapping of its own, or its memory. -/
def DmaBuffer.backing (b : DmaBuffer w) (pointer : BitVec w) : Resource w :=
  match b.mappedVirtualAddress with
  | some _ => .mapping pointer (imxDmaBufferGetSize b)
  | none => b.memory

section Calls

variable {pointers : List (BitVec w)} {op : BufferCall} {t : List (KEvent w)}
  {ret : Option (BitVec w)}

/-- An mmap-based buffer counts the pointers, is mapped while there are any, and they all
are its address. -/
structure SyncState.Holds (s : SyncState w) (pointers : List (BitVec w)) : Prop where
  refcount : s.mappingRefcount = pointers.length
  mapped : s.mappedVirtualAddress ≠ 0 ↔ pointers ≠ []
  same : ∀ pointer ∈ pointers, pointer = s.mappedVirtualAddress

theorem SyncState.Holds.eq_nil {s : SyncState w} (hs : s.Holds pointers)
    (hunmapped : s.mappedVirtualAddress = 0) : pointers = [] :=
  not_not.mp (mt hs.mapped.mpr (not_not.mpr hunmapped))

/-- While it is mapped, there is a pointer, and the count is one more than the others. -/
theorem SyncState.Holds.exists_cons {s : SyncState w} (hs : s.Holds pointers)
    (hmapped : s.mappedVirtualAddress ≠ 0) :
    ∃ pointer rest, pointers = pointer :: rest ∧ s.mappingRefcount = rest.length + 1 := by
  obtain ⟨pointer, rest, rfl⟩ := List.exists_cons_of_ne_nil (hs.mapped.mp hmapped)
  refine ⟨pointer, rest, rfl, ?_⟩
  rw [hs.refcount, List.length_cons, Nat.cast_add_one]

/-- A map adds a pointer or fails, and it fails only when there was none. -/
theorem SyncState.Holds.map {p : MmapParams w} {s s' : SyncState w} {flags : BitVec 32}
    {errorNonNull : Bool} {pointer : BitVec w} (hs : s.Holds pointers)
    (h : p.MapStep s flags errorNonNull t pointer s') :
    s'.Holds (nextPointers pointers ⟨.map flags errorNonNull, t, some pointer⟩) := by
  cases h with
  | redundant hmapped =>
      simp only [nextPointers, if_neg hmapped]
      refine ⟨?_, iff_of_true hmapped (List.cons_ne_nil _ _), List.forall_mem_cons.mpr ⟨rfl, hs.same⟩⟩
      rw [List.length_cons, Nat.cast_add_one, ← hs.refcount]
  | failed hunmapped =>
      simp only [nextPointers, if_true]
      exact ⟨hs.refcount, hs.mapped, hs.same⟩
  | fresh hunmapped mapped =>
      obtain rfl := hs.eq_nil hunmapped
      simp only [nextPointers, if_neg mapped.ne_null]
      exact ⟨rfl, iff_of_true mapped.ne_null (List.cons_ne_nil _ _),
        List.forall_mem_singleton.mpr rfl⟩

/-- An unmap takes one back, and the last one's takes the mapping away. -/
theorem SyncState.Holds.unmap {p : MmapParams w} {s s' : SyncState w} (hs : s.Holds pointers)
    (h : p.UnmapStep s t s') : s'.Holds pointers.tail := by
  cases h with
  | surplus hunmapped =>
      obtain rfl := hs.eq_nil hunmapped
      exact hs
  | decrement hmapped hmore =>
      obtain ⟨pointer, rest, rfl, hcount⟩ := hs.exists_cons hmapped
      have hrest : rest ≠ [] := by
        rintro rfl
        exact hmore hcount
      refine ⟨?_, iff_of_true hmapped hrest, (List.forall_mem_cons.mp hs.same).2⟩
      show s.mappingRefcount - 1 = rest.length
      omega
  | last hmapped hone =>
      obtain ⟨pointer, rest, rfl, hcount⟩ := hs.exists_cons hmapped
      have hrest : rest = [] := List.eq_nil_of_length_eq_zero (by omega)
      subst hrest
      exact ⟨rfl, iff_of_false (fun hne => hne rfl) (fun hne => hne rfl), List.forall_mem_nil _⟩

/-- **Calls on an mmap-based buffer** keep count of the client's pointers. -/
theorem SyncState.Holds.step {p : MmapParams w} {s s' : SyncState w} (hs : s.Holds pointers)
    (h : p.Step s op t ret (some s')) : s'.Holds (nextPointers pointers ⟨op, t, ret⟩) := by
  cases h with
  | map hmap => exact hs.map hmap
  | unmap hunmap => exact hs.unmap hunmap
  | startSyncSession hstart => cases hstart <;> exact ⟨hs.refcount, hs.mapped, hs.same⟩
  | stopSyncSession hstop => cases hstop <;> exact ⟨hs.refcount, hs.mapped, hs.same⟩

/-- The pointers to an always mapped buffer all are its address. -/
theorem AlwaysParams.step_pointers {p : AlwaysParams w} {s s' : CountState}
    (hsame : ∀ pointer ∈ pointers, pointer = p.virtualAddress)
    (h : p.Step s op t ret (some s')) :
    ∀ pointer ∈ nextPointers pointers ⟨op, t, ret⟩, pointer = p.virtualAddress := by
  cases h with
  | map hmap =>
      simp only [nextPointers]
      split
      · exact hsame
      · exact List.forall_mem_cons.mpr ⟨rfl, hsame⟩
  | unmap hunmap => exact fun pointer hmem => hsame pointer (List.mem_of_mem_tail hmem)
  | startSyncSession => exact hsame
  | stopSyncSession => exact hsame

/-- The client never has a `NULL` pointer. -/
theorem nextPointers_ne_zero {r : CallRecord w} (hne : ∀ pointer ∈ pointers, pointer ≠ 0) :
    ∀ pointer ∈ nextPointers pointers r, pointer ≠ 0 := by
  unfold nextPointers
  split
  · split
    · exact hne
    · exact List.forall_mem_cons.mpr ⟨‹_›, hne⟩
  · exact fun pointer hmem => hne pointer (List.mem_of_mem_tail hmem)
  · exact List.forall_mem_nil _
  · exact hne

end Calls

section Buffers

variable {b : DmaBuffer w} {m : BufferModel w} {pointers : List (BitVec w)}

/-- A mapping agrees with the pointers that the client has. -/
def Mapping.Holds (pointers : List (BitVec w)) : Mapping w → Prop
  | .mmapBacked _ s => s.Holds pointers
  | .alwaysMapped p _ => ∀ pointer ∈ pointers, pointer = p.virtualAddress

/-- A buffer agrees with the pointers that the client has to it. -/
def DmaBuffer.Holds (b : DmaBuffer w) (pointers : List (BitVec w)) : Prop :=
  b.view.mapping.Holds pointers

/-- There are none to a buffer that is gone. -/
def HeldBy (pointers : List (BitVec w)) : Option (DmaBuffer w) → Prop
  | some b => b.Holds pointers
  | none => pointers = []

theorem holds_of_view {p : MmapParams w} {s : SyncState w} (hb : b.view = m.mmapBacked p s) :
    b.Holds pointers ↔ s.Holds pointers := by
  unfold DmaBuffer.Holds
  rw [hb]
  exact Iff.rfl

theorem holds_of_always {p : AlwaysParams w} {s : CountState}
    (hb : b.view = m.alwaysMapped p s) :
    b.Holds pointers ↔ ∀ pointer ∈ pointers, pointer = p.virtualAddress := by
  unfold DmaBuffer.Holds
  rw [hb]
  exact Iff.rfl

/-- There is none to a new buffer. -/
theorem DmaBuffer.Fresh.holds (hfresh : b.Fresh) : b.Holds [] := by
  cases hmapped : b.mappedVirtualAddress with
  | some address =>
      obtain ⟨p, s, hb⟩ := view_mmapBacked hmapped
      have hzero := hfresh.mappedVirtualAddress _ (mappedVirtualAddress_of_view hb)
      refine (holds_of_view hb).mpr ⟨?_, iff_of_false (not_not.mpr hzero) (fun hne => hne rfl),
        List.forall_mem_nil _⟩
      exact (mappingRefcount_of_view hb).symm.trans hfresh.mappingRefcount
  | none =>
      obtain ⟨p, s, hb⟩ := view_alwaysMapped hmapped
      exact (holds_of_always hb).mpr (List.forall_mem_nil _)

/-- **Calls on a buffer** keep count of the client's pointers to it. -/
theorem DmaBuffer.Holds.step {op : BufferCall} {t : List (KEvent w)} {ret : Option (BitVec w)}
    {c : Option (DmaBuffer w)} (hholds : b.Holds pointers)
    (hrun : Runs (bufferStep (some b) op) t (.done (ret, c))) :
    HeldBy (nextPointers pointers ⟨op, t, ret⟩) c := by
  cases hmapped : b.mappedVirtualAddress with
  | some address =>
      obtain ⟨p, s, hb⟩ := view_mmapBacked hmapped
      obtain ⟨u, hview, hstep⟩ := step_mmapBacked hb hrun
      have hdone : p.Step s op t ret u := MmapParams.step_done hstep
      cases u with
      | some s' =>
          obtain ⟨b', rfl, hb'⟩ := Option.map_eq_some_iff.mp hview
          exact (holds_of_view hb').mpr (((holds_of_view hb).mp hholds).step hdone)
      | none =>
          obtain rfl := Option.map_eq_none_iff.mp hview
          cases hdone
          rfl
  | none =>
      obtain ⟨p, s, hb⟩ := view_alwaysMapped hmapped
      obtain ⟨u, hview, hstep⟩ := step_alwaysMapped hb hrun
      have hdone : p.Step s op t ret u := AlwaysParams.step_done hstep
      cases u with
      | some s' =>
          obtain ⟨b', rfl, hb'⟩ := Option.map_eq_some_iff.mp hview
          exact (holds_of_always hb').mpr
            (AlwaysParams.step_pointers ((holds_of_always hb).mp hholds) hdone)
      | none =>
          obtain rfl := Option.map_eq_none_iff.mp hview
          cases hdone
          rfl

/-- The pointers are where the CPU sees the buffer. -/
theorem DmaBuffer.Holds.eq_cpuAddress (hholds : b.Holds pointers) :
    ∀ pointer ∈ pointers, pointer = b.cpuAddress := by
  unfold DmaBuffer.cpuAddress
  cases hmapped : b.mappedVirtualAddress with
  | some address =>
      obtain ⟨p, s, hb⟩ := view_mmapBacked hmapped
      obtain rfl := Option.some.inj (hmapped.symm.trans (mappedVirtualAddress_of_view hb))
      exact ((holds_of_view hb).mp hholds).same
  | none =>
      obtain ⟨p, s, hb⟩ := view_alwaysMapped hmapped
      rw [alignedVirtualAddress_of_always hb]
      exact (holds_of_always hb).mp hholds

/-- What is behind them is held. -/
theorem DmaBuffer.Holds.backing_mem (hholds : b.Holds pointers) {pointer : BitVec w}
    (hmem : pointer ∈ pointers) : b.backing pointer ∈ b.resources := by
  unfold DmaBuffer.backing
  cases hmapped : b.mappedVirtualAddress with
  | some address =>
      obtain ⟨p, s, hb⟩ := view_mmapBacked hmapped
      have hs := (holds_of_view hb).mp hholds
      have hne := hs.mapped.mpr (List.ne_nil_of_mem hmem)
      obtain rfl := Option.some.inj (hmapped.symm.trans (mappedVirtualAddress_of_view hb))
      refine Multiset.mem_cons_of_mem ?_
      simp only [DmaBuffer.mappingHeld, hmapped, if_neg hne, hs.same pointer hmem]
      exact Multiset.mem_singleton_self _
  | none => exact Multiset.mem_cons_self _ _

/-- Without any, no mapping is held. -/
theorem DmaBuffer.Holds.mappingHeld_eq_zero (hholds : b.Holds []) : b.mappingHeld = 0 := by
  unfold DmaBuffer.mappingHeld
  cases hmapped : b.mappedVirtualAddress with
  | some address =>
      obtain ⟨p, s, hb⟩ := view_mmapBacked hmapped
      obtain rfl := Option.some.inj (hmapped.symm.trans (mappedVirtualAddress_of_view hb))
      have hzero := not_not.mp (mt ((holds_of_view hb).mp hholds).mapped.mp (fun hne => hne rfl))
      simp only [if_pos hzero]
  | none => rfl

end Buffers

section Library

variable {L L' : LibraryState w} {h : List (LibraryRecord w)} {r : LibraryRecord w} {j : Nat}

theorem clientPointers_other (hnone : callOn j r = none) :
    clientPointers j (h ++ [r]) = clientPointers j h := by
  unfold clientPointers
  rw [List.filterMap_append, List.filterMap_cons_none hnone, List.filterMap_nil, List.append_nil]

theorem clientPointers_call {c : CallRecord w} (hcall : callOn j r = some c) :
    clientPointers j (h ++ [r]) = nextPointers (clientPointers j h) c := by
  unfold clientPointers
  rw [List.filterMap_append, List.filterMap_cons_some hcall, List.filterMap_nil,
    List.foldl_append, List.foldl_cons, List.foldl_nil]

/-- All buffers agree with the pointers that the client has to them. -/
def PointersHeld (h : List (LibraryRecord w)) (L : LibraryState w) : Prop :=
  ∀ j, HeldBy (clientPointers j h) (L.bufferAt j)

/-- A completed call keeps this. -/
theorem PointersHeld.step (hheld : PointersHeld h L)
    (hrun : Runs (libraryStep config L r.op) r.events (.done (r.ret, L'))) :
    PointersHeld (h ++ [r]) L' := by
  intro j
  obtain ⟨op, t, ret⟩ := r
  cases buffersStep_of_done hrun with
  | keeps hop hbuffers =>
      rw [clientPointers_other (callOn_of_other hop), LibraryState.bufferAt, hbuffers]
      exact hheld j
  | allocates i b left hop hallocates =>
      rw [clientPointers_other (callOn_of_other hop), LibraryState.bufferAt_addBuffer]
      by_cases hj : j = L.buffers.length
      · have hunborn : L.bufferAt j = none := by
          rw [LibraryState.bufferAt, List.getElem?_eq_none (Nat.le_of_eq hj.symm), Option.bind_none]
        have hheldj := hheld j
        rw [hunborn] at hheldj
        have hnone : clientPointers j h = [] := hheldj
        obtain ⟨a, size, alignment, ambient, errorNonNull, -, -, hallocate⟩ := hallocates
        rw [if_pos hj, hnone]
        exact (allocate_fresh hallocate).1.holds
      · rw [if_neg hj]
        exact hheld j
  | call k call b pointer c hlive hstep =>
      by_cases hk : k = j
      · subst hk
        have hcall : callOn k ⟨.buffer k call, t, .returned pointer⟩ = some ⟨call, t, pointer⟩ :=
          if_pos rfl
        have hb := hheld k
        rw [LibraryState.bufferAt_of_live hlive] at hb
        rw [clientPointers_call hcall,
          LibraryState.bufferAt_setBuffer_same (LibraryState.lt_length_of_live hlive)]
        exact DmaBuffer.Holds.step hb hstep
      · have hother : callOn j ⟨.buffer k call, t, .returned pointer⟩ = none := if_neg hk
        rw [clientPointers_other hother, LibraryState.bufferAt_setBuffer_other hk]
        exact hheld j

/-- After every history, the buffers agree with the pointers that the client has. -/
theorem pointersHeld_of_steps {G : (libraryMachine w config).Guard}
    (hs : (libraryMachine w config).Steps G LibraryState.empty h L) : PointersHeld h L :=
  hs.track_history (fun _ _ _ _ hheld _ hrun => hheld.step hrun) (fun _ => rfl)

theorem clientPointers_ne_zero : ∀ pointer ∈ clientPointers j h, pointer ≠ 0 := by
  unfold clientPointers
  refine List.foldlRecOn (motive := fun pointers => ∀ pointer ∈ pointers, pointer ≠ 0) _ _
    (List.forall_mem_nil _) ?_
  exact fun pointers hne r _ => nextPointers_ne_zero hne

/-- **The client's pointers are valid.**  After every history, whatever else it created,
mapped, failed to map and destroyed, every pointer that the client has to a buffer is where
the CPU sees the buffer, the buffer is there, and what is behind the pointer (a mapping of
the buffer's size that starts at it, or the memory of a buffer that is always mapped) was
acquired and not released.  A buffer to which the client has no pointer is not mapped. -/
theorem client_pointers_valid {G : (libraryMachine w config).Guard}
    (hs : (libraryMachine w config).Steps G LibraryState.empty h L) (j : Nat) :
    ∃ held, replay resourceEffect 0 (historyEvents h) = some held ∧
      (∀ pointer ∈ clientPointers j h, pointer ≠ 0 ∧
        ∃ b, L.bufferAt j = some b ∧ pointer = b.cpuAddress ∧ b.backing pointer ∈ held) ∧
      (clientPointers j h = [] → ∀ b, L.bufferAt j = some b → b.mappingHeld = 0) := by
  obtain ⟨lost, hledger⟩ := ledger_of_steps hs
  have hheld := pointersHeld_of_steps hs j
  refine ⟨_, hledger, fun pointer hmem => ⟨clientPointers_ne_zero pointer hmem, ?_⟩, ?_⟩
  · cases hb : L.bufferAt j with
    | none =>
        rw [hb] at hheld
        have hnone : clientPointers j h = [] := hheld
        rw [hnone] at hmem
        cases hmem
    | some b =>
        rw [hb] at hheld
        have hholds : b.Holds (clientPointers j h) := hheld
        refine ⟨b, rfl, hholds.eq_cpuAddress pointer hmem, ?_⟩
        exact Multiset.mem_add.mpr (Or.inl (LibraryState.mem_resources_of_bufferAt hb
          (hholds.backing_mem hmem)))
  · intro hnone b hb
    rw [hb, hnone] at hheld
    exact DmaBuffer.Holds.mappingHeld_eq_zero hheld

/-- The client has two pointers to the buffer of `lentIpu`, gives one back, and allocates
another buffer that it fails to map. -/
def remappedIpu : List (LibraryRecord 64) :=
  lentIpu ++
    [⟨.buffer 0 (.map 1 true), [], .returned (some 0x10000)⟩, ⟨.buffer 0 .unmap, [], .returned none⟩,
     ⟨.allocate 0 4096 0 cleanAmbient true, [⟨.ipuAlloc 7 4096, .ok 0x90000000⟩],
       .created (some 1)⟩,
     ⟨.buffer 1 (.map 3 false), [⟨.mmap 4096 3 7 0x90000000, .error ⟨12, by decide⟩⟩],
       .returned (some 0)⟩]

/-- The pointer that is left is valid. -/
theorem remapped_ipu_pointer_valid :
    ∃ held, replay resourceEffect 0 (historyEvents remappedIpu) = some held ∧
      Resource.mapping 0x10000 4096 ∈ held := by
  have hs : ∃ L : LibraryState 64,
      (libraryMachine 64 recentKernelConfig).Steps (fun _ _ _ => True) LibraryState.empty
        remappedIpu L ∧
      (L.bufferAt 0).map (fun b => b.backing 0x10000) = some (.mapping 0x10000 4096) := by
    exact ⟨_, .cons trivial (.ret _) (.cons trivial (.call _ (.ret _))
      (.cons trivial (.call _ (.ret _)) (.cons trivial (.ret _) (.cons trivial (.ret _)
        (.cons trivial (.call _ (.ret _)) (.single trivial (.call _ (.ret _)))))))), rfl⟩
  obtain ⟨L, hs, hbacking⟩ := hs
  obtain ⟨held, hreplay, hpointers, -⟩ := client_pointers_valid hs 0
  obtain ⟨-, b, hb, -, hmem⟩ := hpointers 0x10000 (List.mem_singleton_self _)
  rw [hb, Option.map_some] at hbacking
  exact ⟨held, hreplay, Option.some.inj hbacking ▸ hmem⟩

end Library

end ImxDmaBuffer
