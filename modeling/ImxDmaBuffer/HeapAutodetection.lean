import ImxDmaBuffer.AllocateSteps
import ImxDmaBuffer.Library.CallContracts

/-!
# Autodetecting the ION heaps

From kernel 4.14 on, `imx_dma_buffer_ion_allocate_dmabuf` ignores the heap mask it
is given and asks the kernel for the heap list instead.  The mask that it collects
from the list is kept in a static variable, shared by all allocators.

`ionMachine` serves these calls in any order, through any descriptors; its state is
the static variable.  `heapIdMaskLoop_collects` is the loop invariant, and
`DetectStep` what one search can do to the variable.  It is either untouched or set
to the mask of the DMA heaps, and the static variable and the mask in use are
always the same.
-/

namespace ImxDmaBuffer

open CallProgram

variable {w : Nat}

/-- The arguments of `imx_dma_buffer_ion_allocate_dmabuf`, and the errno before the
call. -/
structure IonRequest (w : Nat) where
  ionFd : Int
  size : BitVec w
  alignment : BitVec w
  ionHeapIdMask : BitVec 32
  ionHeapFlags : BitVec 32
  errno : Int
  errorNonNull : Bool

/-- Any number of such calls. The state is the static variable. -/
def ionMachine (w : Nat) (config : BuildConfig) : Machine (kernel w) (IonRequest w) Int where
  State := BitVec 32
  step heapIdMask r := ionAllocateDmabuf config r.ionFd r.size r.alignment r.ionHeapIdMask
    r.ionHeapFlags heapIdMask r.errno r.errorNonNull

/-- One served call. -/
abbrev IonRecord (w : Nat) := Record (kernel w) (IonRequest w) Int

/-- The heaps of a kernel, as the array that the code reads holds them. -/
structure IonHeapList where
  heaps : List IonHeapData
  length_pos : 1 ≤ heaps.length
  length_lt : heaps.length < 2 ^ 31
  heapId_lt : ∀ heap ∈ heaps, heap.heapId.toNat < 32

/-- Some heap in the list is a DMA heap. -/
def IonHeapList.HasDmaHeap (list : IonHeapList) : Prop :=
  ∃ heap ∈ list.heaps, heap.type = ionHeapTypeDma

/-- Bit `k` of the mask is set exactly when some DMA heap has id `k`. -/
def IonHeapList.IsDmaMask (list : IonHeapList) (mask : BitVec 32) : Prop :=
  ∀ k, mask.getLsbD k = true ↔
    ∃ heap ∈ list.heaps, heap.type = ionHeapTypeDma ∧ heap.heapId.toNat = k

/-- A successful query describes this list: it asks for that many heaps, and the
array then holds them. -/
def IonHeapList.DescribedBy (list : IonHeapList) : KEvent w → Prop
  | ⟨.ionIocHeapQuery _ cnt, .ok written⟩ =>
      cnt.toNat = list.heaps.length ∧ ∀ heap i, list.heaps[i]? = some heap →
        heapDataArray written i = heap
  | _ => True

/-- The event is a successful query of the heap list. -/
def IsHeapQuery : KEvent w → Prop
  | ⟨.ionIocHeapQuery _ _, .ok _⟩ => True
  | _ => False

/-- Some query of the heap list succeeded. -/
def QuerySucceeded (t : List (KEvent w)) : Prop := ∃ e ∈ t, IsHeapQuery e

/-- The call is an `ION_IOC_ALLOC` with a mask. -/
def Call.allocMask : Call w → Option (BitVec 32)
  | .ionIocAllocFd _ _ heapIdMask _ => some heapIdMask
  | _ => none

/-- Every successful query describes the same list. -/
def IonHeapList.SameAnswers (list : IonHeapList) (config : BuildConfig) :
    (ionMachine w config).Guard :=
  fun _ _ t => ∀ e ∈ t, list.DescribedBy e

section Loop

/-- Setting a bit of the mask. -/
theorem getLsbD_setBit {mask : BitVec 32} {n : Nat} (hn : n < 32) (k : Nat) :
    (mask ||| (1#32 <<< n)).getLsbD k = true ↔ mask.getLsbD k = true ∨ n = k := by
  have hbit : (1#32 <<< n).getLsbD k = true ↔ n = k := by
    simp only [BitVec.getLsbD_shiftLeft, BitVec.getLsbD_one, Bool.and_eq_true, decide_eq_true_eq,
      Bool.not_eq_true', decide_eq_false_iff_not]
    omega
  rw [BitVec.getLsbD_or, Bool.or_eq_true, hbit]

/-- **The loop invariant.**  The mask so far, and the DMA heaps among the entries to
come. No shift is out of range. -/
theorem heapIdMaskLoop_collects {A : KEvent w → Prop} {heapData : Nat → IonHeapData}
    {remaining i : Nat} {heapIdMask : BitVec 32}
    (hids : ∀ j < remaining, (heapData (i + j)).heapId.toNat < 32) :
    (heapIdMaskLoop heapData i remaining heapIdMask).Meets (.ofFaults A fun _ => False) fun found =>
        ∀ k, found.getLsbD k = true ↔ heapIdMask.getLsbD k = true ∨
          ∃ j < remaining, (heapData (i + j)).type = ionHeapTypeDma ∧
            (heapData (i + j)).heapId.toNat = k := by
  induction remaining generalizing i heapIdMask with
  | zero =>
      intro k
      simp
  | succ remaining ih =>
      have hshift : ∀ j, i + 1 + j = i + (j + 1) := fun j => by omega
      have hids' : ∀ j < remaining, (heapData (i + 1 + j)).heapId.toNat < 32 := by
        intro j hj
        rw [hshift]
        exact hids (j + 1) (Nat.succ_lt_succ hj)
      unfold heapIdMaskLoop
      refine .ite (fun hdma => .ite (fun hid => ?_) (fun hid => ?_)) (fun hother => ?_)
      · refine (ih hids').mono (fun found hfound k => ?_)
        rw [hfound k, getLsbD_setBit hid, Nat.exists_lt_succ_left, or_assoc]
        simp only [hshift, Nat.add_zero, hdma, true_and]
      · exact absurd (hids 0 (Nat.succ_pos remaining)) hid
      · refine (ih hids').mono (fun found hfound k => ?_)
        rw [hfound k, Nat.exists_lt_succ_left]
        simp only [hshift, Nat.add_zero, hother, false_and, false_or]

/-- What the loop reads after a successful query. -/
theorem IonHeapList.loop_meets {A : KEvent w → Prop} {list : IonHeapList} {cnt : BitVec 32}
    {written : List IonHeapData} (hcnt : cnt.toNat = list.heaps.length)
    (hwritten : ∀ heap i, list.heaps[i]? = some heap → heapDataArray written i = heap) :
    (heapIdMaskLoop (heapDataArray written) 0 cnt.toInt.toNat 0).Meets
      (.ofFaults A fun _ => False) list.IsDmaMask := by
  have hcount : cnt.toInt.toNat = list.heaps.length := by
    have hlt := list.length_lt
    rw [BitVec.toInt_eq_toNat_of_lt (by omega), Int.toNat_natCast, hcnt]
  have hentry : ∀ j, (hj : j < list.heaps.length) → heapDataArray written j = list.heaps[j] :=
    fun j hj => hwritten _ j (List.getElem?_eq_getElem hj)
  rw [hcount]
  refine (heapIdMaskLoop_collects ?_).mono (fun found hfound k => ?_)
  · intro j hj
    rw [Nat.zero_add, hentry j hj]
    exact list.heapId_lt _ (List.getElem_mem hj)
  · rw [hfound k]
    simp only [BitVec.ofNat_eq_ofNat, BitVec.getLsbD_zero, Bool.false_eq_true, false_or,
      Nat.zero_add]
    constructor
    · rintro ⟨j, hj, hdma⟩
      rw [hentry j hj] at hdma
      exact ⟨_, List.getElem_mem hj, hdma⟩
    · rintro ⟨heap, hmem, hdma⟩
      obtain ⟨j, hj, rfl⟩ := List.mem_iff_getElem.mp hmem
      refine ⟨j, hj, ?_⟩
      rwa [hentry j hj]

end Loop

section Search

variable {list : IonHeapList}

/-- Without a DMA heap, the mask is empty. -/
theorem IonHeapList.IsDmaMask.eq_zero {mask : BitVec 32} (h : list.IsDmaMask mask)
    (hnone : ¬ list.HasDmaHeap) : mask = 0 := by
  refine BitVec.eq_of_getLsbD_eq (fun k _ => ?_)
  rw [BitVec.ofNat_eq_ofNat, BitVec.getLsbD_zero, Bool.eq_false_iff]
  intro hbit
  obtain ⟨heap, hmem, hdma, -⟩ := (h k).mp hbit
  exact hnone ⟨heap, hmem, hdma⟩

/-- What a search does: it fails or finds a mask already known, leaving the static
variable as it is, or it finds the DMA heaps and keeps their mask. -/
inductive DetectStep (list : IonHeapList) (heapIdMask : BitVec 32) (t : List (KEvent w)) :
    BitVec 32 → Prop
  | unchanged (hno : ¬ QuerySucceeded t) : DetectStep list heapIdMask t heapIdMask
  | detected (hzero : heapIdMask = 0) (hquery : QuerySucceeded t) {found : BitVec 32}
      (hfound : list.IsDmaMask found) : DetectStep list heapIdMask t found

/-- Storing an error is no query. -/
theorem not_querySucceeded_storeEvents (errorNonNull : Bool) (code : Int) :
    ¬ QuerySucceeded (storeEvents (w := w) errorNonNull code) := by
  rintro ⟨e, he, hquery⟩
  cases errorNonNull with
  | false => cases he
  | true =>
      obtain rfl := List.mem_singleton.mp he
      exact hquery

theorem querySucceeded_cons {e : KEvent w} {t : List (KEvent w)} :
    QuerySucceeded (e :: t) ↔ IsHeapQuery e ∨ QuerySucceeded t := by
  simp [QuerySucceeded]

theorem querySucceeded_append {t t' : List (KEvent w)} :
    QuerySucceeded (t ++ t') ↔ QuerySucceeded t ∨ QuerySucceeded t' := by
  simp only [QuerySucceeded, List.mem_append, or_and_right, exists_or]

/-- **The search.**  The mask it returns is the one it leaves in the static variable. -/
theorem HeapIdMaskStep.detect {ionFd : Int} {heapIdMask found left : BitVec 32} {errno : Int}
    {errorNonNull : Bool} {t : List (KEvent w)}
    (h : HeapIdMaskStep ionFd heapIdMask errno errorNonNull t found left)
    (hsame : ∀ e ∈ t, list.DescribedBy e) : left = found ∧ DetectStep list heapIdMask t found := by
  cases h with
  | cached hne => exact ⟨rfl, .unchanged (by simp [QuerySucceeded])⟩
  | countFailed hzero e =>
      subst hzero
      refine ⟨rfl, .unchanged ?_⟩
      rw [querySucceeded_cons]
      exact fun hquery => hquery.elim id (not_querySucceeded_storeEvents _ _)
  | noHeaps hzero =>
      subst hzero
      refine ⟨rfl, .unchanged ?_⟩
      rw [querySucceeded_cons]
      exact fun hquery => hquery.elim id (not_querySucceeded_storeEvents _ _)
  | queryFailed hzero cnt hcnt e =>
      subst hzero
      refine ⟨rfl, .unchanged ?_⟩
      rw [querySucceeded_cons, querySucceeded_cons]
      rintro (hquery | hquery | hquery)
      · exact hquery
      · exact hquery
      · exact not_querySucceeded_storeEvents _ _ hquery
  | queried hzero cnt hcnt written _ hloop =>
      have hquery : list.DescribedBy
          (⟨.ionIocHeapQuery ionFd cnt, .ok written⟩ : KEvent w) :=
        hsame _ (List.mem_cons_of_mem _ List.mem_cons_self)
      subst hzero
      have hmeets := list.loop_meets (A := fun _ : KEvent w => True) hquery.1 hquery.2
      have hmask := (hmeets.done hloop (List.forall_mem_nil _)).2
      refine ⟨rfl, .detected rfl ⟨_, List.mem_cons_of_mem _ List.mem_cons_self, ?_⟩ hmask⟩
      exact trivial

/-- Storing an error allocates nothing. -/
theorem allocMask_storeEvents (errorNonNull : Bool) (code : Int) :
    ∀ e ∈ storeEvents (w := w) errorNonNull code, e.call.allocMask = none := by
  intro e he
  cases errorNonNull with
  | false => cases he
  | true =>
      obtain rfl := List.mem_singleton.mp he
      rfl

/-- The search allocates nothing. -/
theorem HeapIdMaskStep.allocMask {ionFd : Int} {heapIdMask found left : BitVec 32} {errno : Int}
    {errorNonNull : Bool} {t : List (KEvent w)}
    (h : HeapIdMaskStep ionFd heapIdMask errno errorNonNull t found left) :
    ∀ e ∈ t, e.call.allocMask = none := by
  cases h with
  | cached => exact List.forall_mem_nil _
  | countFailed => exact List.forall_mem_cons.mpr ⟨rfl, allocMask_storeEvents _ _⟩
  | noHeaps => exact List.forall_mem_cons.mpr ⟨rfl, allocMask_storeEvents _ _⟩
  | queryFailed =>
      exact List.forall_mem_cons.mpr
        ⟨rfl, List.forall_mem_cons.mpr ⟨rfl, allocMask_storeEvents _ _⟩⟩
  | queried =>
      exact List.forall_mem_cons.mpr
        ⟨rfl, List.forall_mem_cons.mpr ⟨rfl, List.forall_mem_nil _⟩⟩

/-- What a call does with the mask that it leaves in the static variable: it
allocates with this mask, unless the mask is empty. -/
structure UsesMask (t : List (KEvent w)) (ret : Int) (left : BitVec 32) : Prop where
  allocMask : ∀ e ∈ t, ∀ mask, e.call.allocMask = some mask → mask = left ∧ left ≠ 0
  negative : left = 0 → ret < 0

/-- What follows the search is no query. -/
theorem DetectStep.append {heapIdMask found : BitVec 32} {t t' : List (KEvent w)}
    (h : DetectStep list heapIdMask t found) (hno : ¬ QuerySucceeded t') :
    DetectStep list heapIdMask (t ++ t') found := by
  cases h with
  | unchanged hno' =>
      refine .unchanged ?_
      rw [querySucceeded_append]
      exact fun hquery => hquery.elim hno' hno
  | detected hzero hquery hfound =>
      exact .detected hzero (querySucceeded_append.mpr (Or.inl hquery)) hfound

/-- A search that found a mask, and the allocation with it. -/
theorem UsesMask.append {t rest : List (KEvent w)} {ret ionFd : Int} {size : BitVec w}
    {left ionHeapFlags : BitVec 32} {answer : Except Errno Int}
    (hsearch : ∀ e ∈ t, e.call.allocMask = none) (hne : left ≠ 0)
    (hrest : ∀ e ∈ rest, e.call.allocMask = none) :
    UsesMask (t ++ ⟨.ionIocAllocFd ionFd size left ionHeapFlags, answer⟩ :: rest) ret left where
  allocMask := by
    intro e he mask hmask
    rcases List.mem_append.mp he with he | he
    · rw [hsearch e he] at hmask
      cases hmask
    · rcases List.mem_cons.mp he with rfl | he
      · exact ⟨(Option.some.inj hmask).symm, hne⟩
      · rw [hrest e he] at hmask
        cases hmask
  negative := fun hzero => absurd hzero hne

/-- **One call.** -/
theorem ionMachine_step {config : BuildConfig} (hquery : config.hasIonHeapQuery)
    {heapIdMask left : BitVec 32} {r : IonRecord w}
    (hrun : Runs ((ionMachine w config).step heapIdMask r.op) r.events (.done (r.ret, left)))
    (hsame : ∀ e ∈ r.events, list.DescribedBy e) :
    DetectStep list heapIdMask r.events left ∧ UsesMask r.events r.ret left := by
  have hstep := ionAllocateDmabuf_done hrun
  generalize r.events = t at hstep hsame
  generalize r.ret = fd at hstep
  cases hstep with
  | noMask _ _ _ hmask =>
      obtain ⟨rfl, hdetect⟩ := hmask.detect hsame
      refine ⟨hdetect, ?_, fun _ => by decide⟩
      intro e he mask hcarried
      rw [hmask.allocMask e he] at hcarried
      cases hcarried
  | allocFailed _ t found _ hmask hne e =>
      obtain ⟨rfl, hdetect⟩ := hmask.detect (fun e he => hsame e (List.mem_append_left _ he))
      refine ⟨hdetect.append ?_, .append hmask.allocMask hne (allocMask_storeEvents _ _)⟩
      rw [querySucceeded_cons]
      exact fun hquery => hquery.elim id (not_querySucceeded_storeEvents _ _)
  | allocated _ t found _ hmask hne fd =>
      obtain ⟨rfl, hdetect⟩ := hmask.detect (fun e he => hsame e (List.mem_append_left _ he))
      refine ⟨hdetect.append ?_, .append hmask.allocMask hne (List.forall_mem_nil _)⟩
      rw [querySucceeded_cons]
      exact fun hquery => hquery.elim id (fun ⟨_, hmem, _⟩ => (by cases hmem))
  | handleFailed hold => exact absurd hquery hold
  | mapFailed hold => exact absurd hquery hold
  | mapNegative hold => exact absurd hquery hold
  | mapped hold => exact absurd hquery hold

/-- The static variable after a history with these events: still empty, or the mask
of the DMA heaps, which takes a successful query. -/
def IonHeapList.Known (list : IonHeapList) (t : List (KEvent w)) (heapIdMask : BitVec 32) : Prop :=
  heapIdMask = 0 ∨ QuerySucceeded t ∧ list.IsDmaMask heapIdMask

/-- A search keeps this. -/
theorem DetectStep.known {heapIdMask found : BitVec 32} {t t' : List (KEvent w)}
    (h : DetectStep list heapIdMask t' found) (hknown : list.Known t heapIdMask) :
    list.Known (t ++ t') found := by
  unfold IonHeapList.Known at hknown ⊢
  rw [querySucceeded_append]
  cases h with
  | unchanged =>
      exact hknown.imp_right (fun hmask => ⟨Or.inl hmask.1, hmask.2⟩)
  | detected _ hquery hfound => exact Or.inr ⟨Or.inr hquery, hfound⟩

/-- It holds after every history. -/
theorem ionMachine_known {config : BuildConfig} (hquery : config.hasIonHeapQuery)
    {h : List (IonRecord w)} {heapIdMask : BitVec 32}
    (hs : (ionMachine w config).Steps (list.SameAnswers config) (0 : BitVec 32) h heapIdMask) :
    list.Known (historyEvents h) heapIdMask :=
  hs.track_events (R := list.Known)
    (fun _ _ _ _ hknown hsame hrun => (ionMachine_step hquery hrun hsame).1.known hknown)
    (Or.inl rfl)

/-- The search stops at no fault. -/
theorem getHeapIdMask_total {ionFd : Int} {heapIdMask : BitVec 32} {errno : Int}
    {errorNonNull : Bool} :
    (getHeapIdMask (w := w) ionFd heapIdMask errno errorNonNull).Meets
      (.ofFaults list.DescribedBy fun _ => False) fun _ => True := by
  unfold getHeapIdMask
  refine .ite (fun _ => trivial) (fun hzero => .call_bind trivial (fun answer _ => ?_))
  cases answer with
  | error e => exact storeError_return_meets trivial trivial
  | ok cnt =>
      refine .ite (fun _ => storeError_return_meets trivial trivial) (fun _ => ?_)
      refine .call_bind trivial (fun answer hanswer => ?_)
      cases answer with
      | error e => exact storeError_return_meets trivial trivial
      | ok written =>
          rw [not_not.mp hzero]
          exact (list.loop_meets hanswer.1 hanswer.2).bind (fun _ _ => trivial)

/-- Nor does the whole call, if its descriptor is valid. -/
theorem ionMachine_total {config : BuildConfig} (hquery : config.hasIonHeapQuery)
    {heapIdMask : BitVec 32} {op : IonRequest w} (hfd : 0 ≤ op.ionFd) :
    ((ionMachine w config).step heapIdMask op).Meets
      (.ofFaults list.DescribedBy fun _ => False) fun _ => True := by
  refine .require_bind hfd ?_
  rw [if_pos hquery]
  refine getHeapIdMask_total.bind (fun r _ => .ite (fun _ => trivial) (fun _ => ?_))
  refine .call_bind trivial (fun answer _ => ?_)
  cases answer with
  | error e => exact storeError_return_meets trivial trivial
  | ok fd => exact trivial

end Search

/-- The calls of `h` are served from the start of the process on, every successful
query describing the list, and leave this mask in the static variable. -/
def IonHeapList.Serves (list : IonHeapList) (config : BuildConfig) (h : List (IonRecord w))
    (heapIdMask : BitVec 32) : Prop :=
  (ionMachine w config).Steps (list.SameAnswers config) (0 : BitVec 32) h heapIdMask

section Histories

variable {list : IonHeapList} {config : BuildConfig} {before : List (IonRecord w)}
  {r : IonRecord w} {left : BitVec 32}

/-- The last call of a history. -/
theorem IonHeapList.Serves.last (hquery : config.hasIonHeapQuery)
    (hs : list.Serves config (before ++ [r]) left) :
    list.Known (historyEvents (before ++ [r])) left ∧ UsesMask r.events r.ret left := by
  obtain ⟨middle, -, hsame, hrun⟩ := Machine.Steps.last hs
  exact ⟨ionMachine_known hquery hs, (ionMachine_step hquery hrun hsame).2⟩

/-- A fruitless search leaves the static variable as it is. -/
theorem DetectStep.eq_of_fruitless {heapIdMask found : BitVec 32} {t : List (KEvent w)}
    (h : DetectStep list heapIdMask t found) (hfruitless : ¬ list.HasDmaHeap ∨ ¬ QuerySucceeded t) :
    found = heapIdMask := by
  cases h with
  | unchanged => rfl
  | detected hzero hquery hfound =>
      rw [hfound.eq_zero (hfruitless.resolve_right (not_not.mpr hquery)), hzero]

/-- An empty mask stays unused. -/
theorem IonHeapList.Known.eq_zero {t : List (KEvent w)} (h : list.Known t left)
    (hnone : ¬ list.HasDmaHeap ∨ ¬ QuerySucceeded t) : left = 0 := by
  rcases h with hzero | ⟨hquery, hmask⟩
  · exact hzero
  · exact hmask.eq_zero (hnone.resolve_right (not_not.mpr hquery))

/-- A fruitless call can be left out and put in. -/
theorem IonHeapList.Serves.drop_fruitless (hquery : config.hasIonHeapQuery)
    (hs : list.Serves config (before ++ [r]) left)
    (hfruitless : ¬ list.HasDmaHeap ∨ ¬ QuerySucceeded r.events) {after : List (IonRecord w)}
    {finish : BitVec 32} :
    list.Serves config (before ++ r :: after) finish ↔ list.Serves config (before ++ after) finish := by
  obtain ⟨middle, hbefore, hsame, hrun⟩ := Machine.Steps.last hs
  obtain rfl := (ionMachine_step hquery hrun hsame).1.eq_of_fruitless hfruitless
  constructor
  · intro hall
    obtain ⟨middle', hbefore', hrest⟩ := Machine.Steps.split hall
    obtain ⟨next, -, hrun', hafter⟩ := Machine.steps_cons_iff.mp hrest
    obtain rfl := hbefore.finish_unique hbefore'
    obtain ⟨-, rfl⟩ := Prod.mk.inj (Outcome.done.inj (hrun.outcome_unique hrun'))
    exact hbefore.append hafter
  · intro hall
    obtain ⟨middle', hbefore', hafter⟩ := Machine.Steps.split hall
    obtain rfl := hbefore.finish_unique hbefore'
    exact hbefore.append (.cons hsame hrun hafter)

end Histories

/-- **Autodetection finds exactly the DMA heaps**, whatever the history of the calls.
Every `ION_IOC_ALLOC` carries the mask of the DMA heaps.  Without a DMA heap in the
list, or while no query has succeeded, a call issues no `ION_IOC_ALLOC` and returns a
negative value.  A call whose query failed or was fruitless can be left out of a
history, and put into it, without a change to the other calls.  And a call with a valid
descriptor returns. -/
theorem heap_autodetection {config : BuildConfig} (hquery : config.hasIonHeapQuery)
    (list : IonHeapList) :
    (∀ (h : List (IonRecord w)) left, list.Serves config h left →
      ∀ e ∈ historyEvents h, ∀ mask, e.call.allocMask = some mask → list.IsDmaMask mask) ∧
      (∀ before (r : IonRecord w) left, list.Serves config (before ++ [r]) left →
        ¬ list.HasDmaHeap ∨ ¬ QuerySucceeded (historyEvents (before ++ [r])) →
        (∀ e ∈ r.events, e.call.allocMask = none) ∧ r.ret < 0) ∧
      (∀ before (r : IonRecord w) left, list.Serves config (before ++ [r]) left →
        ¬ list.HasDmaHeap ∨ ¬ QuerySucceeded r.events →
        ∀ after finish, list.Serves config (before ++ r :: after) finish ↔
          list.Serves config (before ++ after) finish) ∧
      ∀ heapIdMask (op : IonRequest w) t fault, 0 ≤ op.ionFd → (∀ e ∈ t, list.DescribedBy e) →
        ¬ Runs ((ionMachine w config).step heapIdMask op) t (.halted fault) := by
  refine ⟨?_, ?_, ?_, ?_⟩
  · intro h left hs e he mask hmask
    obtain ⟨r, hr, hevent⟩ := List.mem_flatMap.mp he
    obtain ⟨before, after, rfl⟩ := List.append_of_mem hr
    obtain ⟨middle, next, hbefore, hsame, hrun⟩ := Machine.Steps.at hs
    have hserves : list.Serves config (before ++ [r]) next := hbefore.append (.single hsame hrun)
    obtain ⟨hknown, huses⟩ := hserves.last hquery
    obtain ⟨rfl, hne⟩ := huses.allocMask e hevent mask hmask
    exact (hknown.resolve_left hne).2
  · intro before r left hs hnone
    obtain ⟨hknown, huses⟩ := hs.last hquery
    have hzero := hknown.eq_zero hnone
    refine ⟨fun e he => ?_, huses.negative hzero⟩
    cases hmask : e.call.allocMask with
    | none => rfl
    | some mask => exact absurd hzero (huses.allocMask e he mask hmask).2
  · intro before r left hs hfruitless after finish
    exact hs.drop_fruitless hquery hfruitless
  · intro heapIdMask op t fault hfd hsame hrun
    exact (ionMachine_total hquery hfd).halted hrun hsame

/-- A kernel with two DMA heaps, of which one is listed twice, and a system heap. -/
def sampleHeaps : IonHeapList where
  heaps := [⟨ionHeapTypeDma, 1⟩, ⟨0, 2⟩, ⟨ionHeapTypeDma, 3⟩, ⟨ionHeapTypeDma, 1⟩]
  length_pos := by decide
  length_lt := by decide
  heapId_lt := by decide

/-- A request for a page. -/
def pageRequest : IonRequest 64 := ⟨3, 4096, 0, 0, 0, 0, false⟩

/-- The first query fails, the second one finds the heaps. -/
def secondQuerySucceeds : List (IonRecord 64) :=
  [⟨pageRequest, [⟨.ionIocHeapCount 3, .error ⟨5, by decide⟩⟩], -1⟩,
    ⟨pageRequest,
      [⟨.ionIocHeapCount 3, .ok 4⟩,
        ⟨.ionIocHeapQuery 3 4, .ok sampleHeaps.heaps⟩,
        ⟨.ionIocAllocFd 3 4096 10 0, .ok 7⟩], 7⟩]

/-- The allocation carries the bits 1 and 3. -/
theorem second_query_selects_dma_heaps : sampleHeaps.IsDmaMask 10 := by
  have hdescribed : sampleHeaps.DescribedBy (w := 64)
      ⟨.ionIocHeapQuery 3 4, .ok sampleHeaps.heaps⟩ := by
    refine ⟨rfl, fun heap i hheap => ?_⟩
    rw [heapDataArray, List.getD_eq_getElem?_getD, hheap, Option.getD_some]
  have hs : sampleHeaps.Serves recentKernelConfig secondQuerySucceeds 10 := by
    refine .cons ?_ (.call _ (.ret _)) (.single ?_ (.call _ (.call _ (.call _ (.ret _)))))
    · exact List.forall_mem_singleton.mpr trivial
    · refine List.forall_mem_cons.mpr ⟨trivial, List.forall_mem_cons.mpr ⟨hdescribed, ?_⟩⟩
      exact List.forall_mem_singleton.mpr trivial
  have halloc : (⟨.ionIocAllocFd 3 4096 10 0, .ok 7⟩ : KEvent 64) ∈
      historyEvents secondQuerySucceeds := by
    simp [secondQuerySucceeds, historyEvents]
  exact (heap_autodetection (by decide) sampleHeaps).1 _ _ hs _ halloc 10 rfl

end ImxDmaBuffer
