import ImxDmaBuffer.Library.Interleaving
import ImxDmaBuffer.OpenedDevices

/-!
# The life of one buffer among the others

`libraryMachine` interleaves the calls on all buffers with the calls that create and
destroy allocators, and `bufferMachine` is the library seen through one buffer.  Here the
two are connected: whatever else happens in a history, the calls on one buffer are a
history of `bufferMachine`, from the buffer that its allocation returned
(`buffer_life`).  So what is proved about histories of one buffer holds inside every
history of the library.

Conversely the order in which the calls on different buffers are served does not matter
(`buffer_calls_reorder`): the calls issue the same events and return the same, and the
library is in the same state afterwards.
-/

namespace ImxDmaBuffer

open CallProgram

variable {w : Nat} {config : BuildConfig}

namespace LibraryState

variable {L : LibraryState w} {j k : Nat} {b c : Option (DmaBuffer w)}

/-- The buffer in a place, while it has not been deallocated. -/
def bufferAt (L : LibraryState w) (j : Nat) : Option (DmaBuffer w) :=
  L.buffers[j]?.bind BufferSlot.buffer

theorem bufferAt_of_slot {slot : BufferSlot w} (h : L.buffers[j]? = some slot) :
    L.bufferAt j = slot.buffer := by
  rw [bufferAt, h, Option.bind_some]

/-- A live buffer is the one in its place. -/
theorem bufferAt_of_live {b : DmaBuffer w} (h : L.liveBuffer j = some b) :
    L.bufferAt j = some b := by
  obtain ⟨slot, hslot, hlive⟩ := Option.bind_eq_some_iff.mp h
  rw [bufferAt_of_slot hslot]
  split at hlive
  · exact hlive
  · cases hlive

/-- The place of a live buffer is taken. -/
theorem lt_length_of_live {b : DmaBuffer w} (h : L.liveBuffer j = some b) :
    j < L.buffers.length := by
  obtain ⟨slot, hslot, -⟩ := Option.bind_eq_some_iff.mp h
  exact (List.getElem?_eq_some_iff.mp hslot).1

@[simp] theorem length_setBuffer : (L.setBuffer j b).buffers.length = L.buffers.length :=
  List.length_modify _ _ _

theorem setBuffer_slot (j k : Nat) (b : Option (DmaBuffer w)) :
    (L.setBuffer j b).buffers[k]? =
      L.buffers[k]?.map fun slot => if j = k then { slot with buffer := b } else slot := by
  rw [setBuffer, List.getElem?_modify]
  split <;> simp

/-- The buffer that was worked on. -/
theorem bufferAt_setBuffer_same (hj : j < L.buffers.length) :
    (L.setBuffer j b).bufferAt j = b := by
  rw [bufferAt, setBuffer_slot, List.getElem?_eq_getElem hj]
  simp

/-- The other buffers are left alone. -/
theorem bufferAt_setBuffer_other (hne : j ≠ k) :
    (L.setBuffer j b).bufferAt k = L.bufferAt k := by
  rw [bufferAt, setBuffer_slot, bufferAt]
  simp [hne]

theorem liveBuffer_setBuffer_other (hne : j ≠ k) :
    (L.setBuffer j b).liveBuffer k = L.liveBuffer k := by
  rw [liveBuffer, setBuffer_slot, liveBuffer]
  simp only [hne, if_false, Option.map_id']
  rfl

/-- Changes to different buffers can be made in either order. -/
theorem setBuffer_comm (hne : j ≠ k) :
    (L.setBuffer j b).setBuffer k c = (L.setBuffer k c).setBuffer j b := by
  have hbuffers : ((L.setBuffer j b).setBuffer k c).buffers =
      ((L.setBuffer k c).setBuffer j b).buffers := by
    refine List.ext_getElem? fun i => ?_
    rw [setBuffer_slot, setBuffer_slot, setBuffer_slot, setBuffer_slot, Option.map_map,
      Option.map_map]
    congr 1
    funext slot
    by_cases hj : j = i
    · have hk : k ≠ i := fun hk => hne (hj.trans hk.symm)
      simp [hj, hk]
    · simp [hj]
  simpa [setBuffer] using hbuffers

/-- The places are filled in order. -/
theorem addBuffer_slot {i : Nat} {heapIdMask : BitVec 32} {b : DmaBuffer w} {slot : BufferSlot w}
    (h : (L.addBuffer i heapIdMask (some b)).2.buffers[j]? = some slot) :
    (j < L.buffers.length ∧ L.buffers[j]? = some slot) ∨
      (j = L.buffers.length ∧ slot = ⟨i, some b⟩) := by
  have hentry : (L.buffers ++ [⟨i, some b⟩])[j]? = some slot := h
  rcases Nat.lt_trichotomy j L.buffers.length with hlt | rfl | hgt
  · rw [List.getElem?_append_left hlt] at hentry
    exact Or.inl ⟨hlt, hentry⟩
  · rw [List.getElem?_concat_length] at hentry
    exact Or.inr ⟨rfl, (Option.some.inj hentry).symm⟩
  · rw [List.getElem?_append_right (by omega), List.getElem?_singleton, if_neg (by omega)] at hentry
    cases hentry

/-- A new buffer is in its place, and the others are where they were. -/
theorem bufferAt_addBuffer {i : Nat} {left : BitVec 32} {b : DmaBuffer w} :
    (L.addBuffer i left (some b)).2.bufferAt j =
      if j = L.buffers.length then some b else L.bufferAt j := by
  unfold bufferAt
  show ((L.buffers ++ [⟨i, some b⟩])[j]?).bind BufferSlot.buffer = _
  rcases Nat.lt_trichotomy j L.buffers.length with hlt | rfl | hgt
  · rw [List.getElem?_append_left hlt, if_neg (Nat.ne_of_lt hlt)]
  · rw [List.getElem?_concat_length, if_pos rfl, Option.bind_some]
  · rw [List.getElem?_eq_none (by simp; omega), List.getElem?_eq_none (by omega),
      if_neg (Nat.ne_of_gt hgt)]

end LibraryState

/-- A call allocates the buffer `b` with allocator `i`. -/
def Allocates (config : BuildConfig) (L : LibraryState w) (i : Nat) (b : DmaBuffer w)
    (op : LibraryCall w) (t : List (KEvent w)) (left : BitVec 32) : Prop :=
  ∃ a size alignment ambient errorNonNull, op = .allocate i size alignment ambient errorNonNull ∧
    L.liveAllocator i = some a ∧
    Runs (imxDmaBufferAllocate config a size alignment L.heapIdMask ambient errorNonNull) t
      (.done (some b, left))

/-- What a completed call does to the buffers: it leaves them alone, adds one, or works
on one. -/
inductive BuffersStep (config : BuildConfig) (L : LibraryState w) :
    LibraryCall w → List (KEvent w) → LibraryReturn w → LibraryState w → Prop
  | keeps {op : LibraryCall w} {t : List (KEvent w)} {ret : LibraryReturn w}
      {L' : LibraryState w} (hop : ∀ j call, op ≠ .buffer j call) (hbuffers : L'.buffers = L.buffers) :
      BuffersStep config L op t ret L'
  | allocates {op : LibraryCall w} {t : List (KEvent w)} (i : Nat) (b : DmaBuffer w)
      (left : BitVec 32) (hop : ∀ j call, op ≠ .buffer j call)
      (hallocates : Allocates config L i b op t left) :
      BuffersStep config L op t (.created (some L.buffers.length)) (L.addBuffer i left (some b)).2
  | call {t : List (KEvent w)} (j : Nat) (call : BufferCall) (b : DmaBuffer w)
      (pointer : Option (BitVec w)) (c : Option (DmaBuffer w)) (hlive : L.liveBuffer j = some b)
      (hrun : Runs (bufferStep (some b) call) t (.done (pointer, c))) :
      BuffersStep config L (.buffer j call) t (.returned pointer) (L.setBuffer j c)

section Step

variable {L L' : LibraryState w} {op : LibraryCall w} {t : List (KEvent w)} {ret : LibraryReturn w}

/-- **Every completed call** does one of these. -/
theorem buffersStep_of_done (h : Runs (libraryStep config L op) t (.done (ret, L'))) :
    BuffersStep config L op t ret L' := by
  cases hconstructor : op.isConstructor with
  | true =>
      have hop : ∀ j call, op ≠ .buffer j call := by
        rintro j call rfl
        cases hconstructor
      obtain ⟨created, heq, -⟩ := constructor_opens hconstructor h
      obtain rfl := congrArg Prod.snd heq
      refine .keeps hop ?_
      cases created <;> rfl
  | false =>
      cases op with
      | destroy i =>
          obtain ⟨a, -, -, rfl⟩ := library_destroy_done h
          exact .keeps (fun _ _ hop => (by cases hop)) rfl
      | allocate i size alignment ambient errorNonNull =>
          simp only [libraryStep] at h
          cases hlive : L.liveAllocator i with
          | none =>
              rw [hlive] at h
              cases (runs_halt_iff.mp h).2
          | some a =>
              rw [hlive] at h
              obtain ⟨⟨r, left⟩, hrun, heq⟩ := runs_map_done_iff.mp h
              cases r with
              | none =>
                  obtain rfl := congrArg Prod.snd heq
                  exact .keeps (fun _ _ hop => (by cases hop)) rfl
              | some b =>
                  obtain ⟨rfl, rfl⟩ := Prod.mk.inj heq
                  exact .allocates i b left (fun _ _ hop => (by cases hop))
                    ⟨a, size, alignment, ambient, errorNonNull, rfl, hlive, hrun⟩
      | buffer j call =>
          simp only [libraryStep] at h
          cases hlive : L.liveBuffer j with
          | none =>
              rw [hlive] at h
              cases (runs_halt_iff.mp h).2
          | some b =>
              rw [hlive] at h
              obtain ⟨⟨pointer, c⟩, hrun, heq⟩ := runs_map_done_iff.mp h
              obtain ⟨rfl, rfl⟩ := Prod.mk.inj heq
              exact .call j call b pointer c hlive hrun
      | _ => cases hconstructor

/-- The last call of a history. -/
theorem library_last {G : (libraryMachine w config).Guard} {h : List (LibraryRecord w)}
    {r : LibraryRecord w} (hs : (libraryMachine w config).Steps G L (h ++ [r]) L') :
    ∃ middle : LibraryState w, (libraryMachine w config).Steps G L h middle ∧
      G middle r.op r.events ∧ Runs (libraryStep config middle r.op) r.events (.done (r.ret, L')) :=
  hs.last

/-- A call on a live buffer is a call of the library. -/
theorem library_buffer_runs {j : Nat} {call : BufferCall} {b : DmaBuffer w}
    {pointer : Option (BitVec w)} {c : Option (DmaBuffer w)} (hlive : L.liveBuffer j = some b)
    (hrun : Runs (bufferStep (some b) call) t (.done (pointer, c))) :
    Runs (libraryStep config L (.buffer j call)) t (.done (.returned pointer, L.setBuffer j c)) := by
  simp only [libraryStep, hlive]
  exact runs_map_done_iff.mpr ⟨_, hrun, rfl⟩

end Step

/-- A record of the library as a record of the calls on buffer `j`, if it is one. -/
def callOn (j : Nat) (r : LibraryRecord w) : Option (CallRecord w) :=
  match r.op, r.ret with
  | .buffer k call, .returned pointer => if k = j then some ⟨call, r.events, pointer⟩ else none
  | _, _ => none

/-- The other calls are no calls on a buffer. -/
theorem callOn_of_other {j : Nat} {r : LibraryRecord w} (h : ∀ k call, r.op ≠ .buffer k call) :
    callOn j r = none := by
  unfold callOn
  split
  · rename_i hop _
    exact absurd hop (h _ _)
  · rfl

section Life

variable {L L' : LibraryState w} {j : Nat} {r : LibraryRecord w}

/-- No call works on a buffer that is not there yet. -/
theorem callOn_unborn (hj : L.buffers.length ≤ j)
    (hrun : Runs (libraryStep config L r.op) r.events (.done (r.ret, L'))) : callOn j r = none := by
  obtain ⟨op, t, ret⟩ := r
  cases buffersStep_of_done hrun with
  | keeps hop => exact callOn_of_other hop
  | allocates i b left hop => exact callOn_of_other hop
  | call k call b pointer c hlive =>
      have hk := LibraryState.lt_length_of_live hlive
      exact if_neg (by omega)

/-- The buffers that are there stay there. -/
theorem length_buffers_mono
    (hrun : Runs (libraryStep config L r.op) r.events (.done (r.ret, L'))) :
    L.buffers.length ≤ L'.buffers.length := by
  obtain ⟨op, t, ret⟩ := r
  cases buffersStep_of_done hrun with
  | keeps hop hbuffers => rw [hbuffers]
  | allocates i b left hop =>
      show _ ≤ (L.buffers ++ [_]).length
      rw [List.length_append]
      exact Nat.le_add_right _ _
  | call k call b pointer c hlive => rw [LibraryState.length_setBuffer]

/-- So a history has no calls on a buffer that is not there yet. -/
theorem calls_unborn {G : (libraryMachine w config).Guard} {h : List (LibraryRecord w)}
    (hs : (libraryMachine w config).Steps G LibraryState.empty h L) (hj : L.buffers.length ≤ j) :
    h.filterMap (callOn j) = [] := by
  have hunborn := hs.track_history
    (R := fun h (L : LibraryState w) => L.buffers.length ≤ j → h.filterMap (callOn j) = [])
    (fun h L r L' ih _ hrun hj => by
      have hbefore : L.buffers.length ≤ j := (length_buffers_mono hrun).trans hj
      rw [List.filterMap_append, ih hbefore, List.filterMap_cons_none (callOn_unborn hbefore hrun)]
      rfl)
    (fun _ => rfl)
  exact hunborn hj

/-- Buffer `b` was allocated by allocator `i` as number `j` in some call of the history. -/
def AllocatedIn (config : BuildConfig) (G : (libraryMachine w config).Guard)
    (h : List (LibraryRecord w)) (j i : Nat) (b : DmaBuffer w) : Prop :=
  ∃ before r after middle left, h = before ++ r :: after ∧
    (libraryMachine w config).Steps G LibraryState.empty before middle ∧
    r.ret = .created (some j) ∧ Allocates config middle i b r.op r.events left

theorem AllocatedIn.append {G : (libraryMachine w config).Guard} {h : List (LibraryRecord w)}
    {i : Nat} {b : DmaBuffer w} (hb : AllocatedIn config G h j i b) (r : LibraryRecord w) :
    AllocatedIn config G (h ++ [r]) j i b := by
  obtain ⟨before, r', after, middle, left, rfl, hrest⟩ := hb
  refine ⟨before, r', after ++ [r], middle, left, ?_, hrest⟩
  rw [List.append_assoc, List.cons_append]

/-- **The life of a buffer.**  Every buffer of a history was allocated in one call of it,
and the calls on it, whatever was served in between, are a history of this buffer alone.
What is in its place now is where that history leads. -/
theorem buffer_life {G : (libraryMachine w config).Guard} {h : List (LibraryRecord w)}
    (hs : (libraryMachine w config).Steps G LibraryState.empty h L) {slot : BufferSlot w}
    (hslot : L.buffers[j]? = some slot) :
    ∃ b, AllocatedIn config G h j slot.allocator b ∧
      (bufferMachine w).Steps (fun _ _ _ => True) (some b) (h.filterMap (callOn j)) slot.buffer := by
  induction h using List.reverseRecOn generalizing L slot with
  | nil =>
      obtain rfl : L = LibraryState.empty := hs.finish_unique (Machine.Steps.nil (G := G) _)
      cases hslot
  | append_singleton h r ih =>
      obtain ⟨middle, hbefore, -, hrun⟩ := library_last hs
      rw [List.filterMap_append]
      -- A buffer that was there before either is worked on by this call or is not.
      have hold : middle.buffers[j]? = some slot → callOn j r = none → ∃ b,
          AllocatedIn config G (h ++ [r]) j slot.allocator b ∧
            (bufferMachine w).Steps (fun _ _ _ => True) (some b)
              (h.filterMap (callOn j) ++ [r].filterMap (callOn j)) slot.buffer := by
        intro hthere hnone
        obtain ⟨b, hb, hlife⟩ := ih hbefore hthere
        refine ⟨b, hb.append r, ?_⟩
        rw [List.filterMap_cons_none hnone, List.filterMap_nil, List.append_nil]
        exact hlife
      obtain ⟨op, t, ret⟩ := r
      cases buffersStep_of_done hrun with
      | keeps hop hbuffers => exact hold (hbuffers ▸ hslot) (callOn_of_other hop)
      | allocates i b left hop hallocates =>
          rcases LibraryState.addBuffer_slot hslot with ⟨-, hthere⟩ | ⟨rfl, rfl⟩
          · exact hold hthere (callOn_of_other hop)
          · refine ⟨b, ⟨h, _, [], middle, left, rfl, hbefore, rfl, hallocates⟩, ?_⟩
            rw [calls_unborn hbefore (le_refl _), List.filterMap_cons_none (callOn_of_other hop)]
            exact .nil _
      | call k call b pointer c hlive hstep =>
          rw [LibraryState.setBuffer_slot] at hslot
          obtain ⟨slot', hthere, heq⟩ := Option.map_eq_some_iff.mp hslot
          by_cases hk : k = j
          · rw [if_pos hk] at heq
            subst hk heq
            obtain ⟨b', hb', hlife⟩ := ih hbefore hthere
            refine ⟨b', hb'.append _, hlife.append ?_⟩
            have hcall : callOn k ⟨.buffer k call, t, .returned pointer⟩ =
                some ⟨call, t, pointer⟩ := if_pos rfl
            rw [List.filterMap_cons_some hcall, ← LibraryState.bufferAt_of_slot hthere,
              LibraryState.bufferAt_of_live hlive]
            exact .single trivial hstep
          · rw [if_neg hk] at heq
            subst heq
            exact hold hthere (if_neg hk)

/-- A G2D buffer of one page, whose memory the CPU and the device see at one address. -/
def g2dPage (address : BitVec 64) (mapFlags : BitVec 32) (mappingRefcount : Int) : DmaBuffer 64 :=
  .g2d {
    mapFlags := mapFlags
    mappingRefcount := mappingRefcount
    actualSize := 4096
    size := 4096
    alignedVirtualAddress := address
    alignedPhysicalAddress := address
    buf := ⟨address, address⟩ }

/-- A G2D allocator is created, and two pages are allocated. -/
def g2dPages : List (LibraryRecord 64) :=
  [⟨.newG2d, [], .created (some 0)⟩,
   ⟨.allocate 0 4096 0 cleanAmbient true, [⟨.g2dAlloc 4096 false, some ⟨0x10000, 0x10000⟩⟩],
     .created (some 0)⟩,
   ⟨.allocate 0 4096 0 cleanAmbient true, [⟨.g2dAlloc 4096 false, some ⟨0x20000, 0x20000⟩⟩],
     .created (some 1)⟩]

/-- A page is mapped. -/
def g2dMapped (j : Nat) (address : BitVec 64) : LibraryRecord 64 :=
  ⟨.buffer j (.map 3 true), [], .returned (some address)⟩

/-- The library after both were mapped. -/
def bothPagesMapped : LibraryState 64 where
  allocators := [some .g2d]
  buffers := [⟨0, some (g2dPage 0x10000 3 1)⟩, ⟨0, some (g2dPage 0x20000 3 1)⟩]
  heapIdMask := 0

theorem g2d_pages_mapped :
    (libraryMachine 64 recentKernelConfig).Steps (fun _ _ _ => True) LibraryState.empty
      (g2dPages ++ [g2dMapped 0 0x10000, g2dMapped 1 0x20000]) bothPagesMapped := by
  refine .cons trivial (.ret _) (.cons trivial (.call _ (.ret _)) ?_)
  refine .cons trivial (.call _ (.ret _)) (.cons trivial (.ret _) ?_)
  exact .single trivial (.ret _)

/-- The second page was allocated in that history, and only its own map concerns it. -/
theorem second_page_life : ∃ b, AllocatedIn recentKernelConfig (fun _ _ _ => True)
      (g2dPages ++ [g2dMapped 0 0x10000, g2dMapped 1 0x20000]) 1 0 b ∧
    (bufferMachine 64).Steps (fun _ _ _ => True) (some b) [⟨.map 3 true, [], some 0x20000⟩]
      (some (g2dPage 0x20000 3 1)) :=
  buffer_life g2d_pages_mapped (j := 1) rfl

end Life

section Order

/-- Which buffer a call works on. -/
def bufferOf (r : LibraryRecord w) : Nat :=
  match r.op with
  | .buffer j _ => j
  | _ => 0

/-- Only calls on buffers are served. -/
def OnBuffers (_ : LibraryState w) (op : LibraryCall w) (_ : List (KEvent w)) : Prop :=
  ∃ j call, op = .buffer j call

/-- Of two calls on different buffers, the second can be served first. -/
theorem swap_buffer_calls {L middle L' : LibraryState w} {j k : Nat} (hne : j ≠ k)
    {call call' : BufferCall} {t t' : List (KEvent w)} {ret ret' : LibraryReturn w}
    (hfirst : Runs (libraryStep config L (.buffer j call)) t (.done (ret, middle)))
    (hsecond : Runs (libraryStep config middle (.buffer k call')) t' (.done (ret', L'))) :
    ∃ other, Runs (libraryStep config L (.buffer k call')) t' (.done (ret', other)) ∧
      Runs (libraryStep config other (.buffer j call)) t (.done (ret, L')) := by
  cases buffersStep_of_done hfirst with
  | keeps hop => exact absurd rfl (hop j call)
  | allocates _ _ _ hop => exact absurd rfl (hop j call)
  | call _ _ b pointer c hlive hrun =>
      cases buffersStep_of_done hsecond with
      | keeps hop => exact absurd rfl (hop k call')
      | allocates _ _ _ hop => exact absurd rfl (hop k call')
      | call _ _ b' pointer' c' hlive' hrun' =>
          rw [LibraryState.liveBuffer_setBuffer_other hne] at hlive'
          refine ⟨L.setBuffer k c', library_buffer_runs hlive' hrun', ?_⟩
          rw [LibraryState.setBuffer_comm hne]
          apply library_buffer_runs _ hrun
          rwa [LibraryState.liveBuffer_setBuffer_other (Ne.symm hne)]

/-- Calls on different buffers commute. -/
theorem buffer_calls_commute :
    (libraryMachine w config).Commutes OnBuffers (bufferOf (w := w)) := by
  intro L L' first second hne hs
  obtain ⟨middle, ⟨j, call, hj⟩, hfirst, hrest⟩ := Machine.steps_cons_iff.mp hs
  obtain ⟨_, ⟨k, call', hk⟩, hsecond, hnil⟩ := Machine.steps_cons_iff.mp hrest
  cases hnil
  have hjk : j ≠ k := by
    intro heq
    apply hne
    rw [bufferOf, bufferOf, hj, hk, heq]
  rw [hj] at hfirst
  rw [hk] at hsecond
  obtain ⟨other, hsecond', hfirst'⟩ := swap_buffer_calls hjk hfirst hsecond
  exact .cons ⟨k, call', hk⟩ (hk ▸ hsecond') (.single ⟨j, call, hj⟩ (hj ▸ hfirst'))

/-- **Any order.**  In every history, calls on buffers that are served one after the other
can be served in any order that keeps the order of the calls on each buffer.  Every call
issues the same events and returns the same then, and the rest of the history goes on
as before. -/
theorem buffer_calls_reorder {before h h' after : List (LibraryRecord w)} {L : LibraryState w}
    (hs : (libraryMachine w config).Steps (fun _ _ _ => True) LibraryState.empty
      (before ++ h ++ after) L)
    (hbuffers : ∀ r ∈ h, ∃ j call, r.op = .buffer j call)
    (hsame : Machine.SameRecords bufferOf h h') :
    (libraryMachine w config).Steps (fun _ _ _ => True) LibraryState.empty
      (before ++ h' ++ after) L := by
  obtain ⟨last, hfirst, hafter⟩ := hs.split
  obtain ⟨middle, hbefore, hmiddle⟩ := hfirst.split
  have hcalls : (libraryMachine w config).Steps OnBuffers middle h last :=
    hmiddle.guarded (fun r hr _ => hbuffers r hr)
  have hreordered := hcalls.reorder buffer_calls_commute hsame
  have hfree : (libraryMachine w config).Steps (fun _ _ _ => True) middle h' last :=
    hreordered.guarded (fun _ _ _ => trivial)
  exact (hbefore.append hfree).append hafter

/-- The two pages could have been mapped the other way round. -/
theorem pages_mapped_backwards :
    (libraryMachine 64 recentKernelConfig).Steps (fun _ _ _ => True) LibraryState.empty
      (g2dPages ++ [g2dMapped 1 0x20000, g2dMapped 0 0x10000] ++ []) bothPagesMapped := by
  have hs : (libraryMachine 64 recentKernelConfig).Steps (fun _ _ _ => True) LibraryState.empty
      (g2dPages ++ [g2dMapped 0 0x10000, g2dMapped 1 0x20000] ++ []) bothPagesMapped := by
    rw [List.append_nil]
    exact g2d_pages_mapped
  refine buffer_calls_reorder hs ?_ ?_
  · intro r hr
    rcases List.mem_cons.mp hr with rfl | hr
    · exact ⟨0, _, rfl⟩
    · obtain rfl := List.mem_singleton.mp hr
      exact ⟨1, _, rfl⟩
  · intro j
    by_cases hj : j = 0
    · subst hj
      rfl
    · have hnot : bufferOf (g2dMapped 0 0x10000) ≠ j := fun heq => hj heq.symm
      rw [Machine.recordsOf_cons_other hnot, Machine.recordsOf, Machine.recordsOf,
        List.filter_cons, List.filter_cons, List.filter_cons_of_neg (by simpa using hnot)]

end Order

end ImxDmaBuffer
