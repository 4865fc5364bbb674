import ImxDmaBuffer.AllocateSteps

/-!
# What is reported through the error pointer

A constructor, an allocation or a map that returns `NULL` should have stored the
errno of the call that failed, and one that succeeds should have stored nothing.

The code below the interface signals failure by values: a negative descriptor, the
address 0, a heap mask without a bit, a list of no heaps.  Where such a value comes
with a failing system call, the error was stored.  Where a system call succeeds
and answers the value itself, nothing belonging to the failure is.  The traces of the
helpers are therefore quiet, reported or silent, and these compose.
-/

namespace ImxDmaBuffer

open CallProgram

variable {w : Nat}

/-- The codes that were stored through the error pointer, in order. -/
def storedCodes (t : List (KEvent w)) : List Int :=
  t.filterMap fun
    | ⟨.storeError code, _⟩ => some code
    | _ => none

/-- What the error variable holds in the end, if it was assigned. -/
def reported (t : List (KEvent w)) : Option Int := (storedCodes t).getLast?

/-- The code of a call that failed. The vendor libraries give none; running out of
memory is what their failure means. -/
def failureCode : KEvent w → Option Int
  | ⟨.openDevice _ _, .error e⟩ => some e.code
  | ⟨.mmap _ _ _ _, .error e⟩ => some e.code
  | ⟨.dmaHeapIoctlAlloc _ _ _ _, .error e⟩ => some e.code
  | ⟨.dmaBufIoctlPhys _, .error e⟩ => some e.code
  | ⟨.ionIocHeapCount _, .error e⟩ => some e.code
  | ⟨.ionIocHeapQuery _ _, .error e⟩ => some e.code
  | ⟨.ionIocAllocFd _ _ _ _, .error e⟩ => some e.code
  | ⟨.ionIocAllocHandle _ _ _ _ _, .error e⟩ => some e.code
  | ⟨.ionIocMap _ _, .error e⟩ => some e.code
  | ⟨.ionIocCustomPhysDma _ _, .error e⟩ => some e.code
  | ⟨.ipuAlloc _ _, .error e⟩ => some e.code
  | ⟨.pxpIocGetPhymem _ _ _, .error e⟩ => some e.code
  | ⟨.dwlInit _, dwlInstance⟩ => if dwlInstance = (0 : BitVec w) then some ENOMEM else none
  | ⟨.dwlMallocLinear _ _ _, none⟩ => some ENOMEM
  | ⟨.g2dAlloc _ _, none⟩ => some ENOMEM
  | _ => none

/-- The codes of the calls that failed. -/
def failureCodes (t : List (KEvent w)) : List Int := t.filterMap failureCode

/-- A call that succeeds, and answers what the allocators take for a failure. -/
def AnswersFailure : KEvent w → Prop
  | ⟨.dmaHeapIoctlAlloc _ _ _ _, .ok fd⟩ => fd < 0
  | ⟨.dmaBufIoctlPhys _, .ok phys⟩ => phys = 0
  | ⟨.ionIocHeapCount _, .ok cnt⟩ => cnt = 0
  | ⟨.ionIocHeapQuery _ cnt, .ok written⟩ =>
      ∀ i < cnt.toInt.toNat, (heapDataArray written i).type ≠ ionHeapTypeDma
  | ⟨.ionIocAllocFd _ _ _ _, .ok fd⟩ => fd < 0
  | ⟨.ionIocMap _ _, .ok fd⟩ => fd < 0
  | ⟨.ionIocCustomPhysDma _ _, .ok phys⟩ => phys = 0
  | ⟨.ipuAlloc _ _, .ok phys⟩ => phys = 0
  | _ => False

/-- **Exact error reporting**: `NULL` comes with a code other than 0 of a call that
failed, anything else with no code. -/
def ErrorExact (t : List (KEvent w)) (isNull : Bool) : Prop :=
  if isNull then ∃ code, reported t = some code ∧ code ≠ 0 ∧ code ∈ failureCodes t
  else reported t = none

@[simp] theorem storedCodes_append (t t' : List (KEvent w)) :
    storedCodes (t ++ t') = storedCodes t ++ storedCodes t' :=
  List.filterMap_append

@[simp] theorem failureCodes_append (t t' : List (KEvent w)) :
    failureCodes (t ++ t') = failureCodes t ++ failureCodes t' :=
  List.filterMap_append

/-- No failure, and nothing stored. -/
structure Quiet (t : List (KEvent w)) : Prop where
  stored : storedCodes t = []
  failures : failureCodes t = []
  answers : ∀ e ∈ t, ¬ AnswersFailure e

/-- A call failed, and its code was stored. -/
structure Reported (t : List (KEvent w)) : Prop where
  code : ∃ e : Errno, storedCodes t = [e.code] ∧ failureCodes t = [e.code]
  answers : ∀ e ∈ t, ¬ AnswersFailure e

/-- A call answered a failure, and none failed. Whatever may have been stored does
not belong to it. -/
structure Silent (t : List (KEvent w)) : Prop where
  failures : failureCodes t = []
  answers : ∃ e ∈ t, AnswersFailure e

section Compose

variable {t t' : List (KEvent w)}

theorem Quiet.append (h : Quiet t) (h' : Quiet t') : Quiet (t ++ t') where
  stored := by rw [storedCodes_append, h.stored, h'.stored, List.append_nil]
  failures := by rw [failureCodes_append, h.failures, h'.failures, List.append_nil]
  answers := List.forall_mem_append.mpr ⟨h.answers, h'.answers⟩

theorem Quiet.append_reported (h : Quiet t) (h' : Reported t') : Reported (t ++ t') where
  code := by
    obtain ⟨e, hstored, hfailures⟩ := h'.code
    refine ⟨e, ?_, ?_⟩
    · rw [storedCodes_append, h.stored, hstored, List.nil_append]
    · rw [failureCodes_append, h.failures, hfailures, List.nil_append]
  answers := List.forall_mem_append.mpr ⟨h.answers, h'.answers⟩

theorem Reported.append_quiet (h : Reported t) (h' : Quiet t') : Reported (t ++ t') where
  code := by
    obtain ⟨e, hstored, hfailures⟩ := h.code
    refine ⟨e, ?_, ?_⟩
    · rw [storedCodes_append, hstored, h'.stored, List.append_nil]
    · rw [failureCodes_append, hfailures, h'.failures, List.append_nil]
  answers := List.forall_mem_append.mpr ⟨h.answers, h'.answers⟩

theorem Quiet.append_silent (h : Quiet t) (h' : Silent t') : Silent (t ++ t') where
  failures := by rw [failureCodes_append, h.failures, h'.failures, List.append_nil]
  answers := by
    obtain ⟨e, he, hanswers⟩ := h'.answers
    exact ⟨e, List.mem_append_right t he, hanswers⟩

theorem Silent.append_quiet (h : Silent t) (h' : Quiet t') : Silent (t ++ t') where
  failures := by rw [failureCodes_append, h.failures, h'.failures, List.append_nil]
  answers := by
    obtain ⟨e, he, hanswers⟩ := h.answers
    exact ⟨e, List.mem_append_left t' he, hanswers⟩

/-- Code that signals failure by its result: quiet where it succeeds, reported or
silent where it fails. -/
def Signals (failed : Prop) (t : List (KEvent w)) : Prop :=
  (¬ failed ∧ Quiet t) ∨ (failed ∧ (Reported t ∨ Silent t))

variable {failed : Prop}

theorem Signals.quiet (h : Signals failed t) (hnot : ¬ failed) : Quiet t := by
  rcases h with ⟨-, hquiet⟩ | ⟨hfailed, -⟩
  · exact hquiet
  · exact absurd hfailed hnot

theorem Signals.report (h : Signals failed t) (hfailed : failed) : Reported t ∨ Silent t := by
  rcases h with ⟨hnot, -⟩ | ⟨-, hreport⟩
  · exact absurd hfailed hnot
  · exact hreport

/-- What comes before and after a failure does not change how it is reported. -/
theorem Signals.around {failed' : Prop} (h : Signals failed t) (hfailed : failed)
    (hfailed' : failed') {before after : List (KEvent w)} (hbefore : Quiet before)
    (hafter : Quiet after) : Signals failed' (before ++ (t ++ after)) := by
  refine Or.inr ⟨hfailed', ?_⟩
  rcases h.report hfailed with hreported | hsilent
  · exact Or.inl (hbefore.append_reported (hreported.append_quiet hafter))
  · exact Or.inr (hbefore.append_silent (hsilent.append_quiet hafter))

/-- Such code reports exactly where no call answered a failure. -/
theorem Signals.errorExact_iff {isNull : Bool} (h : Signals (isNull = true) t) :
    ErrorExact t isNull ↔ ¬ ∃ e ∈ t, AnswersFailure e := by
  unfold ErrorExact reported
  rcases h with ⟨hnot, hquiet⟩ | ⟨hnull, hreported | hsilent⟩
  · rw [if_neg hnot, hquiet.stored]
    refine ⟨fun _ hanswers => ?_, fun _ => rfl⟩
    obtain ⟨e, he, hfailure⟩ := hanswers
    exact hquiet.answers e he hfailure
  · obtain ⟨e, hstored, hfailures⟩ := hreported.code
    rw [if_pos hnull, hstored, hfailures]
    refine ⟨fun _ hanswers => ?_, fun _ => ?_⟩
    · obtain ⟨e', he', hfailure⟩ := hanswers
      exact hreported.answers e' he' hfailure
    · exact ⟨e.code, rfl, e.ne_zero, List.mem_singleton_self _⟩
  · rw [if_pos hnull, hsilent.failures]
    refine ⟨fun hexact => ?_, fun hnot => absurd hsilent.answers hnot⟩
    obtain ⟨_, -, -, hmem⟩ := hexact
    cases hmem

end Compose

section Events

variable {e : KEvent w} {errno : Errno}

/-- A single call that neither fails nor answers a failure. -/
theorem quiet_single (hstored : storedCodes [e] = []) (hfailures : failureCodes [e] = [])
    (hanswers : ¬ AnswersFailure e) : Quiet [e] where
  stored := hstored
  failures := hfailures
  answers := List.forall_mem_singleton.mpr hanswers

/-- A single call that failed, and the store of its code. -/
theorem reported_store (hstored : storedCodes [e] = []) (hfailures : failureCodes [e] = [errno.code])
    (hanswers : ¬ AnswersFailure e) : Reported (e :: storeEvents true errno.code) where
  code := by
    refine ⟨errno, ?_, ?_⟩
    · rw [← List.singleton_append, storedCodes_append, hstored]
      rfl
    · rw [← List.singleton_append, failureCodes_append, hfailures]
      rfl
  answers := by
    intro e' he'
    rcases List.mem_cons.mp he' with rfl | he'
    · exact hanswers
    · obtain rfl := List.mem_singleton.mp he'
      exact id

/-- A single call that answers a failure. -/
theorem silent_single (hfailures : failureCodes [e] = []) (hanswers : AnswersFailure e) :
    Silent [e] where
  failures := hfailures
  answers := ⟨e, List.mem_singleton_self e, hanswers⟩

/-- A single call that answers a failure, and the store of some code. -/
theorem silent_store (hfailures : failureCodes [e] = []) (hanswers : AnswersFailure e)
    (code : Int) : Silent (e :: storeEvents true code) where
  failures := by
    rw [← List.singleton_append, failureCodes_append, hfailures]
    rfl
  answers := ⟨e, List.mem_cons_self, hanswers⟩

end Events

section Allocate

/-- The address query signals failure by the address 0. -/
theorem PhysStep.signals {query : Except Errno (BitVec w) → KEvent w} {t : List (KEvent w)}
    {phys : BitVec w} (h : PhysStep query true t phys)
    (hquery : (∃ fd, query = fun answer => ⟨.dmaBufIoctlPhys fd, answer⟩) ∨
      ∃ ionFd fd, query = fun answer => ⟨.ionIocCustomPhysDma ionFd fd, answer⟩) :
    Signals (phys = 0) t := by
  cases h with
  | failed errno =>
      refine Or.inr ⟨rfl, Or.inl ?_⟩
      rcases hquery with ⟨fd, rfl⟩ | ⟨ionFd, fd, rfl⟩
      · exact reported_store rfl rfl id
      · exact reported_store rfl rfl id
  | answered phys =>
      by_cases hzero : phys = 0
      · refine Or.inr ⟨hzero, Or.inr ?_⟩
        rcases hquery with ⟨fd, rfl⟩ | ⟨ionFd, fd, rfl⟩
        · exact silent_single rfl hzero
        · exact silent_single rfl hzero
      · refine Or.inl ⟨hzero, ?_⟩
        rcases hquery with ⟨fd, rfl⟩ | ⟨ionFd, fd, rfl⟩
        · exact quiet_single rfl rfl hzero
        · exact quiet_single rfl rfl hzero

/-- Closing a descriptor reports nothing. -/
theorem quiet_close (fd : Int) : Quiet [(⟨.close fd, ()⟩ : KEvent w)] :=
  quiet_single rfl rfl id

/-- The dma-heap allocator. -/
theorem DmaHeapAllocateStep.signals {allocator : DmaHeapAllocator} {size : BitVec w}
    {ambient : Ambient} {t : List (KEvent w)} {r : Option (DmaHeapBuffer w)}
    (h : DmaHeapAllocateStep allocator size ambient true t r) : Signals (r = none) t := by
  have hdescriptor : ∀ fd, 0 < fd → Quiet [(⟨.dmaHeapIoctlAlloc allocator.dmaHeapFd size
      allocator.heapFlags allocator.fdFlags, .ok fd⟩ : KEvent w)] := fun fd hpos =>
    quiet_single rfl rfl (Int.not_lt.mpr (Int.le_of_lt hpos))
  cases h with
  | failed errno => exact Or.inr ⟨rfl, Or.inl (reported_store rfl rfl id)⟩
  | negative fd hneg => exact Or.inr ⟨rfl, Or.inr (silent_single rfl hneg)⟩
  | noAddress fd hpos t hphys =>
      exact (hphys.signals (Or.inl ⟨fd, rfl⟩)).around rfl rfl (hdescriptor fd hpos) (quiet_close fd)
  | allocated fd hpos t phys hphys hne =>
      have hquery := (hphys.signals (Or.inl ⟨fd, rfl⟩)).quiet hne
      exact Or.inl ⟨Option.some_ne_none _, (hdescriptor fd hpos).append hquery⟩

/-- A shift within the width of the mask sets a bit. -/
theorem shiftLeft_ne_zero {n : Nat} (hn : n < 32) : (1#32 <<< n) ≠ 0 := by
  intro hzero
  have hbit := congrArg (fun x : BitVec 32 => x.getLsbD n) hzero
  simp [hn] at hbit

/-- The loop over the heap list leaves an empty mask exactly when it started with one
and met no DMA heap. -/
theorem heapIdMaskLoop_eq_zero_iff {heapData : Nat → IonHeapData} {remaining i : Nat}
    {heapIdMask found : BitVec 32} {t : List (KEvent w)}
    (h : Runs (heapIdMaskLoop heapData i remaining heapIdMask) t (.done found)) :
    found = 0 ↔ heapIdMask = 0 ∧ ∀ k < remaining, (heapData (i + k)).type ≠ ionHeapTypeDma := by
  induction remaining generalizing i heapIdMask with
  | zero =>
      obtain ⟨-, rfl⟩ := runs_ret_done_iff.mp h
      exact ⟨fun hzero => ⟨hzero, fun k hk => absurd hk (Nat.not_lt_zero k)⟩, And.left⟩
  | succ remaining ih =>
      have hsplit : (∀ k < remaining + 1, (heapData (i + k)).type ≠ ionHeapTypeDma) ↔
          (heapData i).type ≠ ionHeapTypeDma ∧
            ∀ k < remaining, (heapData (i + 1 + k)).type ≠ ionHeapTypeDma := by
        rw [Nat.forall_lt_succ_left]
        simp only [Nat.add_zero, Nat.add_assoc, Nat.add_comm 1]
      rw [hsplit]
      unfold heapIdMaskLoop at h
      by_cases hdma : (heapData i).type = ionHeapTypeDma
      · rw [if_pos hdma] at h
        by_cases hid : (heapData i).heapId.toNat < 32
        · rw [if_pos hid] at h
          rw [ih h]
          constructor
          · intro hzero
            exact absurd (BitVec.or_eq_zero_iff.mp hzero.1).2 (shiftLeft_ne_zero hid)
          · intro hzero
            exact absurd hdma hzero.2.1
        · rw [if_neg hid] at h
          cases (runs_halt_iff.mp h).2
      · rw [if_neg hdma] at h
        rw [ih h]
        constructor
        · intro hzero
          exact ⟨hzero.1, hdma, hzero.2⟩
        · intro hzero
          exact ⟨hzero.1, hzero.2.2⟩

/-- The search for the DMA heaps signals failure by an empty mask. -/
theorem HeapIdMaskStep.signals {ionFd : Int} {heapIdMask found left : BitVec 32} {errno : Int}
    {t : List (KEvent w)} (h : HeapIdMaskStep ionFd heapIdMask errno true t found left) :
    Signals (found = 0) t := by
  cases h with
  | cached hne => exact Or.inl ⟨hne, rfl, rfl, fun e he => by cases he⟩
  | countFailed hzero e => exact Or.inr ⟨rfl, Or.inl (reported_store rfl rfl id)⟩
  | noHeaps hzero =>
      have hcount : AnswersFailure (⟨.ionIocHeapCount ionFd, .ok 0⟩ : KEvent w) := rfl
      exact Or.inr ⟨rfl, Or.inr (silent_store rfl hcount errno)⟩
  | queryFailed hzero cnt hcnt e =>
      have hcount : Quiet [(⟨.ionIocHeapCount ionFd, .ok cnt⟩ : KEvent w)] :=
        quiet_single rfl rfl hcnt
      exact Or.inr ⟨rfl, Or.inl (hcount.append_reported (reported_store rfl rfl id))⟩
  | queried hzero cnt hcnt written found hloop =>
      have hcount : Quiet [(⟨.ionIocHeapCount ionFd, .ok cnt⟩ : KEvent w)] :=
        quiet_single rfl rfl hcnt
      have hfound := heapIdMaskLoop_eq_zero_iff hloop
      simp only [hzero, true_and, Nat.zero_add] at hfound
      by_cases hnone : found = 0
      · exact Or.inr ⟨hnone, Or.inr (hcount.append_silent (silent_single rfl (hfound.mp hnone)))⟩
      · exact Or.inl ⟨hnone, hcount.append
          (quiet_single rfl rfl (fun hlist => hnone (hfound.mpr hlist)))⟩

/-- The descriptor of an ION allocation. -/
theorem IonDmabufStep.signals {config : BuildConfig} {ionFd : Int} {size alignment : BitVec w}
    {ionHeapIdMask ionHeapFlags heapIdMask left : BitVec 32} {errno : Int} {t : List (KEvent w)}
    {fd : Int} (h : IonDmabufStep config ionFd size alignment ionHeapIdMask ionHeapFlags heapIdMask
      errno true t fd left) : Signals (fd < 0) t := by
  have hfree : ∀ handle, Quiet [(⟨.ionIocFree ionFd handle, ()⟩ : KEvent w)] :=
    fun handle => quiet_single rfl rfl id
  have hhandle : ∀ handle, Quiet [(⟨.ionIocAllocHandle ionFd size alignment ionHeapIdMask
      ionHeapFlags, .ok handle⟩ : KEvent w)] := fun handle => quiet_single rfl rfl id
  have hminus : (-1 : Int) < 0 := by decide
  cases h with
  | noMask hquery t left hmask => exact Or.inr ⟨hminus, hmask.signals.report rfl⟩
  | allocFailed hquery t found left hmask hne e =>
      exact Or.inr ⟨hminus, Or.inl ((hmask.signals.quiet hne).append_reported
        (reported_store rfl rfl id))⟩
  | allocated hquery t found left hmask hne fd =>
      have hquiet := hmask.signals.quiet hne
      by_cases hneg : fd < 0
      · exact Or.inr ⟨hneg, Or.inr (hquiet.append_silent (silent_single rfl hneg))⟩
      · exact Or.inl ⟨hneg, hquiet.append (quiet_single rfl rfl hneg)⟩
  | handleFailed hold e => exact Or.inr ⟨hminus, Or.inl (reported_store rfl rfl id)⟩
  | mapFailed hold handle e =>
      have hreported : Reported ((⟨.ionIocMap ionFd handle, .error e⟩ : KEvent w) ::
          storeEvents true e.code) := reported_store rfl rfl id
      exact Or.inr ⟨hminus, Or.inl ((hhandle handle).append_reported
        (hreported.append_quiet (hfree handle)))⟩
  | mapNegative hold handle fd hneg =>
      have hmap : AnswersFailure (⟨.ionIocMap ionFd handle, .ok fd⟩ : KEvent w) := hneg
      have hsilent := silent_store rfl hmap errno
      exact Or.inr ⟨hminus, Or.inr ((hhandle handle).append_silent
        (hsilent.append_quiet (hfree handle)))⟩
  | mapped hold handle fd hnonneg =>
      have hneg : ¬ fd < 0 := Int.not_lt.mpr hnonneg
      have hmap : Quiet [(⟨.ionIocMap ionFd handle, .ok fd⟩ : KEvent w)] :=
        quiet_single rfl rfl hneg
      exact Or.inl ⟨hneg, (hhandle handle).append (hmap.append (hfree handle))⟩

/-- The ION allocator. -/
theorem IonAllocateStep.signals {config : BuildConfig} {allocator : IonAllocator}
    {size alignment : BitVec w} {heapIdMask left : BitVec 32} {ambient : Ambient}
    {t : List (KEvent w)} {r : Option (IonBuffer w)}
    (h : IonAllocateStep config allocator size alignment heapIdMask ambient true t r left) :
    Signals (r = none) t := by
  have hquery : ∀ fd, (∃ fd', ionPhysQuery config allocator.ionFd fd =
        fun answer => (⟨.dmaBufIoctlPhys fd', answer⟩ : KEvent w)) ∨
      ∃ ionFd fd', ionPhysQuery config allocator.ionFd fd =
        fun answer => (⟨.ionIocCustomPhysDma ionFd fd', answer⟩ : KEvent w) := by
    intro fd
    by_cases hnew : config.hasIonHeapQuery
    · exact Or.inl ⟨fd, funext fun answer => if_pos hnew⟩
    · exact Or.inr ⟨allocator.ionFd, fd, funext fun answer => if_neg hnew⟩
  cases h with
  | noDescriptor t fd left hfd hneg => exact Or.inr ⟨rfl, hfd.signals.report hneg⟩
  | noAddress t fd left hfd hnonneg t' hphys =>
      exact (hphys.signals (hquery fd)).around rfl rfl
        (hfd.signals.quiet (Int.not_lt.mpr hnonneg)) (quiet_close fd)
  | allocated t fd left hfd hnonneg t' phys hphys hne =>
      have hdescriptor := hfd.signals.quiet (Int.not_lt.mpr hnonneg)
      exact Or.inl ⟨Option.some_ne_none _,
        hdescriptor.append ((hphys.signals (hquery fd)).quiet hne)⟩

/-- What the vendor libraries' failure is reported as. -/
def outOfMemory : Errno := ⟨ENOMEM, by decide⟩

/-- An allocation signals failure by `NULL`. -/
theorem AllocateStep.signals {config : BuildConfig} {allocator : Allocator w}
    {size alignment : BitVec w} {heapIdMask left : BitVec 32} {ambient : Ambient}
    {t : List (KEvent w)} {r : Option (DmaBuffer w)}
    (h : AllocateStep config size alignment heapIdMask ambient true allocator t r left) :
    Signals (r = none) t := by
  cases h with
  | dmaHeap hstep =>
      rw [Option.map_eq_none_iff]
      exact hstep.signals
  | ion hstep =>
      rw [Option.map_eq_none_iff]
      exact hstep.signals
  | dwl hstep =>
      cases hstep with
      | failed =>
          exact Or.inr ⟨rfl, Or.inl (@reported_store w _ outOfMemory rfl rfl id)⟩
      | allocated => exact Or.inl ⟨Option.some_ne_none _, quiet_single rfl rfl id⟩
  | ipu hstep =>
      cases hstep with
      | failed e => exact Or.inr ⟨rfl, Or.inl (reported_store rfl rfl id)⟩
      | zero => exact Or.inr ⟨rfl, Or.inr (silent_single rfl rfl)⟩
      | allocated phys hne =>
          exact Or.inl ⟨Option.some_ne_none _, quiet_single rfl rfl hne⟩
  | g2d hstep =>
      cases hstep with
      | failed =>
          exact Or.inr ⟨rfl, Or.inl (@reported_store w _ outOfMemory rfl rfl id)⟩
      | allocated => exact Or.inl ⟨Option.some_ne_none _, quiet_single rfl rfl id⟩
  | pxp hstep =>
      cases hstep with
      | failed e => exact Or.inr ⟨rfl, Or.inl (reported_store rfl rfl id)⟩
      | allocated => exact Or.inl ⟨Option.some_ne_none _, quiet_single rfl rfl id⟩

end Allocate

/-- The constructors signal failure by `NULL`, and never mistake an answer for a
failure. -/
theorem NewStep.signals {path : String} {mode : OpenMode} {fd : Int} {t : List (KEvent w)}
    {r : Option (Int × Bool)} (h : NewStep path mode fd true t r) :
    Signals (r = none) t ∧ ∀ e ∈ t, ¬ AnswersFailure e := by
  cases h with
  | failed hneg e =>
      have hreported : Reported ((⟨.openDevice path mode, .error e⟩ : KEvent w) ::
          storeEvents true e.code) := reported_store rfl rfl id
      exact ⟨Or.inr ⟨rfl, Or.inl hreported⟩, hreported.answers⟩
  | opened hneg opened =>
      have hquiet : Quiet [(⟨.openDevice path mode, .ok opened⟩ : KEvent w)] :=
        quiet_single rfl rfl id
      exact ⟨Or.inl ⟨Option.some_ne_none _, hquiet⟩, hquiet.answers⟩
  | given hnonneg =>
      have hquiet : Quiet ([] : List (KEvent w)) := ⟨rfl, rfl, fun e he => (by cases he)⟩
      exact ⟨Or.inl ⟨Option.some_ne_none _, hquiet⟩, hquiet.answers⟩

theorem DwlNewStep.signals {clientType : DwlClientType} {t : List (KEvent w)}
    {r : Option (DwlAllocator w)} (h : DwlNewStep clientType true t r) :
    Signals (r = none) t ∧ ∀ e ∈ t, ¬ AnswersFailure e := by
  cases h with
  | failed =>
      have hcode : failureCode (⟨.dwlInit clientType, (0 : BitVec w)⟩ : KEvent w) =
          some ENOMEM := by
        show (if (0 : BitVec w) = 0 then some ENOMEM else none) = some ENOMEM
        exact if_pos rfl
      have hreported : Reported ((⟨.dwlInit clientType, (0 : BitVec w)⟩ : KEvent w) ::
          storeEvents true outOfMemory.code) :=
        reported_store rfl (List.filterMap_cons_some hcode) id
      exact ⟨Or.inr ⟨rfl, Or.inl hreported⟩, hreported.answers⟩
  | created dwlInstance hne =>
      have hquiet : Quiet [(⟨.dwlInit clientType, dwlInstance⟩ : KEvent w)] :=
        quiet_single rfl (List.filterMap_cons_none (if_neg hne)) id
      exact ⟨Or.inl ⟨Option.some_ne_none _, hquiet⟩, hquiet.answers⟩

/-- Cache syncing stores no code. -/
theorem storedCodes_of_sync {t : List (KEvent w)} (h : ∀ e ∈ t, e.call.isSync = true) :
    storedCodes t = [] := by
  refine List.filterMap_eq_nil_iff.mpr fun e he => ?_
  obtain ⟨call, answer⟩ := e
  have hsync := h _ he
  cases call with
  | storeError code => cases hsync
  | _ => rfl

/-- A map of an mmap-based buffer reports exactly. -/
theorem MmapParams.MapStep.errorExact {p : MmapParams w} {s s' : SyncState w} {flags : BitVec 32}
    {t : List (KEvent w)} {ret : BitVec w} (h : p.MapStep s flags true t ret s') :
    ErrorExact t (decide (ret = 0)) := by
  unfold ErrorExact reported
  cases h with
  | redundant hmapped =>
      rw [decide_eq_false hmapped]
      rfl
  | failed hunmapped errno t hsync =>
      rw [decide_eq_true rfl, if_pos rfl]
      refine ⟨errno.code, ?_, errno.ne_zero, List.mem_cons_self⟩
      rw [← List.singleton_append, storedCodes_append, storedCodes_append,
        storedCodes_of_sync hsync.isSync, List.append_nil]
      rfl
  | fresh hunmapped mapped t hsync =>
      rw [decide_eq_false mapped.ne_null, ← List.singleton_append, storedCodes_append,
        storedCodes_of_sync hsync.isSync]
      rfl

/-- The calls that report failure through an error pointer. -/
inductive ReportingCall (w : Nat) where
  | newDmaHeap (dmaHeapFd : Int) (heapFlags fdFlags : BitVec 32)
  | newIon (ionFd : Int) (ionHeapIdMask ionHeapFlags : BitVec 32)
  | newDwl
  | newIpu (ipuFd : Int)
  | newPxp (pxpFd : Int)
  | allocate (allocator : Allocator w) (size alignment : BitVec w)
  | map (buffer : DmaBuffer w) (flags : BitVec 32)

/-- Make such a call with a non-NULL error pointer. The result says whether `NULL`
was returned. -/
def ReportingCall.returnsNull (config : BuildConfig) (heapIdMask : BitVec 32)
    (ambient : Ambient) : ReportingCall w → Code w Bool
  | .newDmaHeap dmaHeapFd heapFlags fdFlags =>
      Option.isNone <$> dmaHeapAllocatorNew config dmaHeapFd heapFlags fdFlags true
  | .newIon ionFd ionHeapIdMask ionHeapFlags =>
      Option.isNone <$> ionAllocatorNew ionFd ionHeapIdMask ionHeapFlags true
  | .newDwl => Option.isNone <$> (dwlAllocatorNew config true : Code w _)
  | .newIpu ipuFd => Option.isNone <$> ipuAllocatorNew ipuFd true
  | .newPxp pxpFd => Option.isNone <$> pxpAllocatorNew pxpFd true
  | .allocate allocator size alignment =>
      (fun r => r.1.isNone) <$>
        imxDmaBufferAllocate config allocator size alignment heapIdMask ambient true
  | .map buffer flags => (fun r => decide (r.1 = 0)) <$> imxDmaBufferMap buffer flags true

/-- Failure without a failing call: an allocation in which a call answers one, and a
map of a buffer whose address became `NULL` when it was allocated. -/
def ReportingCall.FailsInBand : ReportingCall w → List (KEvent w) → Prop
  | .allocate _ _ _, t => ∃ e ∈ t, AnswersFailure e
  | .map buffer _, _ => buffer.alignedVirtualAddress = some 0
  | _, _ => False

/-- Constructors report exactly. -/
theorem errorExact_of_new {α : Type} {r : Option α} {t : List (KEvent w)}
    (h : Signals (r = none) t ∧ ∀ e ∈ t, ¬ AnswersFailure e) :
    ErrorExact t r.isNone ↔ ¬ False := by
  have hsignals : Signals (r.isNone = true) t := by
    rw [Option.isNone_iff_eq_none]
    exact h.1
  rw [hsignals.errorExact_iff]
  refine ⟨fun _ => id, fun _ hanswers => ?_⟩
  obtain ⟨e, he, hfailure⟩ := hanswers
  exact h.2 e he hfailure

/-- **Errors are reported exactly**, except where a failure is signalled in-band by a
call that succeeded. -/
theorem error_exact_iff {config : BuildConfig} {heapIdMask : BitVec 32} {ambient : Ambient}
    {call : ReportingCall w} {t : List (KEvent w)} {isNull : Bool}
    (h : Runs (call.returnsNull config heapIdMask ambient) t (.done isNull)) :
    ErrorExact t isNull ↔ ¬ call.FailsInBand t := by
  cases call with
  | newDmaHeap dmaHeapFd heapFlags fdFlags =>
      obtain ⟨r, hrun, rfl⟩ := runs_map_done_iff.mp h
      have hstep := (dmaHeapNew_done hrun).signals
      rw [Option.map_eq_none_iff] at hstep
      exact errorExact_of_new hstep
  | newIon ionFd ionHeapIdMask ionHeapFlags =>
      obtain ⟨r, hrun, rfl⟩ := runs_map_done_iff.mp h
      have hstep := (ionNew_done hrun).signals
      rw [Option.map_eq_none_iff] at hstep
      exact errorExact_of_new hstep
  | newDwl =>
      obtain ⟨r, hrun, rfl⟩ := runs_map_done_iff.mp h
      exact errorExact_of_new (dwlNew_done hrun).signals
  | newIpu ipuFd =>
      obtain ⟨r, hrun, rfl⟩ := runs_map_done_iff.mp h
      have hstep := (ipuNew_done hrun).signals
      rw [Option.map_eq_none_iff] at hstep
      exact errorExact_of_new hstep
  | newPxp pxpFd =>
      obtain ⟨r, hrun, rfl⟩ := runs_map_done_iff.mp h
      have hstep := (pxpNew_done hrun).signals
      rw [Option.map_eq_none_iff] at hstep
      exact errorExact_of_new hstep
  | allocate allocator size alignment =>
      obtain ⟨⟨r, left⟩, hrun, rfl⟩ := runs_map_done_iff.mp h
      obtain ⟨-, hstep⟩ := allocate_done hrun
      have hsignals := hstep.signals
      rw [← Option.isNone_iff_eq_none] at hsignals
      exact hsignals.errorExact_iff
  | map buffer flags =>
      obtain ⟨⟨ret, buffer'⟩, hrun, rfl⟩ := runs_map_done_iff.mp h
      have hcall : Runs (bufferStep (some buffer) (.map flags true)) t
          (.done (some ret, some buffer')) := runs_map_done_iff.mpr ⟨_, hrun, rfl⟩
      show ErrorExact t (decide (ret = 0)) ↔ ¬ buffer.alignedVirtualAddress = some 0
      cases hmapped : buffer.mappedVirtualAddress with
      | some address =>
          obtain ⟨p, s, hb⟩ := view_mmapBacked hmapped
          obtain ⟨u, -, hstep⟩ := step_mmapBacked hb hcall
          have hdone : p.Step s (.map flags true) t (some ret) u := MmapParams.step_done hstep
          have hnone : buffer.alignedVirtualAddress ≠ some 0 := fun haligned => by
            rw [mappedVirtualAddress_of_aligned haligned] at hmapped
            cases hmapped
          cases hdone with
          | map hmap => exact ⟨fun _ => hnone, fun _ => hmap.errorExact⟩
      | none =>
          obtain ⟨p, s, hb⟩ := view_alwaysMapped hmapped
          obtain ⟨u, -, hstep⟩ := step_alwaysMapped hb hcall
          have hdone : p.Step s (.map flags true) t (some ret) u := AlwaysParams.step_done hstep
          rw [alignedVirtualAddress_of_always hb, Option.some_inj]
          cases hdone with
          | map hmap =>
              by_cases hnull : p.virtualAddress = 0
              · rw [decide_eq_true hnull]
                refine ⟨fun hexact => ?_, fun hnot => absurd hnull hnot⟩
                obtain ⟨_, hreported, -⟩ := hexact
                cases hreported
              · rw [decide_eq_false hnull]
                exact ⟨fun _ => hnull, fun _ => rfl⟩

/-- The events of a dma-heap allocation whose ioctl fails. -/
def outOfMemoryEvents : List (KEvent 64) :=
  [⟨.dmaHeapIoctlAlloc 3 4096 0 2, .error outOfMemory⟩, ⟨.storeError ENOMEM, ()⟩]

/-- A failing ioctl is reported. -/
theorem failed_allocation_reported : ErrorExact outOfMemoryEvents true := by
  have hrun : Runs ((ReportingCall.allocate (.dmaHeap cachedHeap) (4096 : BitVec 64) 0).returnsNull
      recentKernelConfig 0 cleanAmbient) outOfMemoryEvents (.done true) :=
    .call _ (.call _ (.ret _))
  refine (error_exact_iff hrun).mpr ?_
  intro hinband
  obtain ⟨e, he, hfailure⟩ := hinband
  rcases List.mem_cons.mp he with rfl | he
  · exact hfailure
  · obtain rfl := List.mem_singleton.mp he
    exact hfailure

/-- An ION allocator with a device that the library opened. -/
def ionDevice : IonAllocator where
  ionFd := 7
  ionFdIsInternal := true
  ionHeapIdMask := 0
  ionHeapFlags := 0
  ionFd_nonneg := by decide

/-- The events of an ION allocation on a system whose only heap is no DMA heap. -/
def noDmaHeapEvents : List (KEvent 64) :=
  [⟨.ionIocHeapCount 7, .ok 1⟩, ⟨.ionIocHeapQuery 7 1, .ok [⟨0, 0⟩]⟩]

/-- That allocation returns `NULL` and reports nothing. -/
theorem missing_dma_heap_unreported :
    Runs ((ReportingCall.allocate (.ion ionDevice) (4096 : BitVec 64) 0).returnsNull
      recentKernelConfig 0 cleanAmbient) noDmaHeapEvents (.done true) ∧
    reported noDmaHeapEvents = none ∧ ¬ ErrorExact noDmaHeapEvents true := by
  refine ⟨.call _ (.call _ (.ret _)), rfl, ?_⟩
  intro hexact
  obtain ⟨_, hreported, -⟩ := hexact
  cases hreported

end ImxDmaBuffer
