import ImxDmaBuffer.BufferHistories

/-!
# What a constructor and an allocation can do

As for the operations on a buffer, one relation for each allocator lists every
way its allocate function can complete: the events, and the buffer if there is
one.  The source signals failure in-band at several levels; the relations make
the cases explicit, those that report an error and those that do not.

The constructors of the allocators with a device descriptor all do the same
thing, so one relation serves for the four of them.
-/

namespace ImxDmaBuffer

open CallProgram

variable {w : Nat}

/-- How the constructor of an allocator with a device descriptor completes: the
descriptor that the allocator uses, and whether it is its own. -/
inductive NewStep (path : String) (mode : OpenMode) (fd : Int) (errorNonNull : Bool) :
    List (KEvent w) → Option (Int × Bool) → Prop
  | failed (hneg : fd < 0) (e : Errno) :
      NewStep path mode fd errorNonNull
        (⟨.openDevice path mode, .error e⟩ :: storeEvents errorNonNull e.code) none
  | opened (hneg : fd < 0) (opened : Nat) :
      NewStep path mode fd errorNonNull [⟨.openDevice path mode, .ok opened⟩] (some (opened, true))
  | given (hnonneg : 0 ≤ fd) : NewStep path mode fd errorNonNull [] (some (fd, false))

/-- How the constructor of the DWL allocator completes. -/
inductive DwlNewStep (clientType : DwlClientType) (errorNonNull : Bool) :
    List (KEvent w) → Option (DwlAllocator w) → Prop
  | failed :
      DwlNewStep clientType errorNonNull
        (⟨.dwlInit clientType, (0 : BitVec w)⟩ :: storeEvents errorNonNull ENOMEM) none
  | created (dwlInstance : BitVec w) (hne : dwlInstance ≠ 0) :
      DwlNewStep clientType errorNonNull [⟨.dwlInit clientType, dwlInstance⟩]
        (some {
          clientType := clientType
          dwlInstance := dwlInstance
          dwlInstance_ne_null := hne })

section Constructors

variable {config : BuildConfig} {fd : Int} {errorNonNull : Bool} {t : List (KEvent w)}

/-- The part of these constructors that opens the device. -/
theorem openDevice_done {α : Type} {path : String} {mode : OpenMode}
    {next : Except Errno Nat → Code w (Option α)} {allocator : Nat → α} {device : α → Int × Bool}
    {r : Option α} (hneg : fd < 0)
    (h : Runs (perform (S := kernel w) (.openDevice path mode) >>= next) t (.done r))
    (hfailed : ∀ e, next (.error e) = do storeError errorNonNull e.code; return none)
    (hopened : ∀ n, next (.ok n) = return some (allocator n))
    (hdevice : ∀ n, device (allocator n) = ((n : Int), true)) :
    NewStep path mode fd errorNonNull t (r.map device) := by
  obtain ⟨answer, rest, rfl, hanswer⟩ := runs_perform_bind_iff.mp h
  cases answer with
  | error e =>
      rw [hfailed] at hanswer
      obtain ⟨rfl, rfl⟩ := runs_storeError_return_iff.mp hanswer
      exact .failed hneg e
  | ok opened =>
      rw [hopened] at hanswer
      obtain ⟨rfl, rfl⟩ := runs_ret_done_iff.mp hanswer
      rw [Option.map_some, hdevice]
      exact .opened hneg opened

/-- The constructor of the dma-heap allocator. -/
theorem dmaHeapNew_done {heapFlags fdFlags : BitVec 32} {r : Option DmaHeapAllocator}
    (h : Runs (dmaHeapAllocatorNew config fd heapFlags fdFlags errorNonNull) t (.done r)) :
    NewStep config.dmaHeapDeviceNodePath .rdwr fd errorNonNull t
      (r.map fun a => (a.dmaHeapFd, a.dmaHeapFdIsInternal)) := by
  unfold dmaHeapAllocatorNew at h
  by_cases hneg : fd < 0
  · simp only [dif_pos hneg] at h
    exact openDevice_done hneg h (fun _ => rfl) (fun _ => rfl) (fun _ => rfl)
  · simp only [dif_neg hneg] at h
    obtain ⟨rfl, rfl⟩ := runs_ret_done_iff.mp h
    exact .given (Int.not_lt.mp hneg)

/-- The constructor of the ION allocator. -/
theorem ionNew_done {ionHeapIdMask ionHeapFlags : BitVec 32} {r : Option IonAllocator}
    (h : Runs (ionAllocatorNew fd ionHeapIdMask ionHeapFlags errorNonNull) t (.done r)) :
    NewStep "/dev/ion" .rdonly fd errorNonNull t (r.map fun a => (a.ionFd, a.ionFdIsInternal)) := by
  unfold ionAllocatorNew at h
  by_cases hneg : fd < 0
  · rw [dif_pos hneg] at h
    exact openDevice_done hneg h (fun _ => rfl) (fun _ => rfl) (fun _ => rfl)
  · rw [dif_neg hneg] at h
    obtain ⟨rfl, rfl⟩ := runs_ret_done_iff.mp h
    exact .given (Int.not_lt.mp hneg)

/-- The constructor of the IPU allocator. -/
theorem ipuNew_done {r : Option IpuAllocator}
    (h : Runs (ipuAllocatorNew fd errorNonNull) t (.done r)) :
    NewStep "/dev/mxc_ipu" .rdwr fd errorNonNull t (r.map fun a => (a.ipuFd, a.ipuFdIsInternal)) := by
  unfold ipuAllocatorNew at h
  by_cases hneg : fd < 0
  · rw [dif_pos hneg] at h
    exact openDevice_done hneg h (fun _ => rfl) (fun _ => rfl) (fun _ => rfl)
  · rw [dif_neg hneg] at h
    obtain ⟨rfl, rfl⟩ := runs_ret_done_iff.mp h
    exact .given (Int.not_lt.mp hneg)

/-- The constructor of the PxP allocator. -/
theorem pxpNew_done {r : Option PxpAllocator}
    (h : Runs (pxpAllocatorNew fd errorNonNull) t (.done r)) :
    NewStep "/dev/pxp_device" .rdwr fd errorNonNull t
      (r.map fun a => (a.pxpFd, a.pxpFdIsInternal)) := by
  unfold pxpAllocatorNew at h
  by_cases hneg : fd < 0
  · rw [dif_pos hneg] at h
    exact openDevice_done hneg h (fun _ => rfl) (fun _ => rfl) (fun _ => rfl)
  · rw [dif_neg hneg] at h
    obtain ⟨rfl, rfl⟩ := runs_ret_done_iff.mp h
    exact .given (Int.not_lt.mp hneg)

/-- The constructor of the DWL allocator. -/
theorem dwlNew_done {r : Option (DwlAllocator w)}
    (h : Runs (dwlAllocatorNew config errorNonNull) t (.done r)) :
    DwlNewStep config.dwlClientType errorNonNull t r := by
  obtain ⟨dwlInstance, rest, rfl, hrest⟩ := runs_perform_bind_iff.mp h
  by_cases hnull : dwlInstance = 0
  · rw [dif_pos hnull] at hrest
    obtain ⟨rfl, rfl⟩ := runs_storeError_return_iff.mp hrest
    rw [hnull]
    exact .failed
  · rw [dif_neg hnull] at hrest
    obtain ⟨rfl, rfl⟩ := runs_ret_done_iff.mp hrest
    exact .created dwlInstance hnull

end Constructors

/-- How a query for a physical address completes. Failure is signalled by the
address 0. -/
inductive PhysStep (query : Except Errno (BitVec w) → KEvent w) (errorNonNull : Bool) :
    List (KEvent w) → BitVec w → Prop
  | failed (errno : Errno) :
      PhysStep query errorNonNull (query (.error errno) :: storeEvents errorNonNull errno.code) 0
  | answered (phys : BitVec w) : PhysStep query errorNonNull [query (.ok phys)] phys

/-- How a dma-heap allocation completes. -/
inductive DmaHeapAllocateStep (allocator : DmaHeapAllocator) (size : BitVec w) (ambient : Ambient)
    (errorNonNull : Bool) : List (KEvent w) → Option (DmaHeapBuffer w) → Prop
  | failed (errno : Errno) :
      DmaHeapAllocateStep allocator size ambient errorNonNull
        (⟨.dmaHeapIoctlAlloc allocator.dmaHeapFd size allocator.heapFlags allocator.fdFlags,
          .error errno⟩ :: storeEvents errorNonNull errno.code) none
  | negative (fd : Int) (hneg : fd < 0) :
      DmaHeapAllocateStep allocator size ambient errorNonNull
        [⟨.dmaHeapIoctlAlloc allocator.dmaHeapFd size allocator.heapFlags allocator.fdFlags,
          .ok fd⟩] none
  | noAddress (fd : Int) (hpos : 0 < fd) (t : List (KEvent w))
      (hphys : PhysStep (fun answer => ⟨.dmaBufIoctlPhys fd, answer⟩) errorNonNull t 0) :
      DmaHeapAllocateStep allocator size ambient errorNonNull
        (⟨.dmaHeapIoctlAlloc allocator.dmaHeapFd size allocator.heapFlags allocator.fdFlags,
          .ok fd⟩ :: (t ++ [⟨.close fd, ()⟩])) none
  | allocated (fd : Int) (hpos : 0 < fd) (t : List (KEvent w)) (phys : BitVec w)
      (hphys : PhysStep (fun answer => ⟨.dmaBufIoctlPhys fd, answer⟩) errorNonNull t phys)
      (hne : phys ≠ 0) :
      DmaHeapAllocateStep allocator size ambient errorNonNull
        (⟨.dmaHeapIoctlAlloc allocator.dmaHeapFd size allocator.heapFlags allocator.fdFlags,
          .ok fd⟩ :: t)
        (some {
          toMapState := .initial ambient
          dmabufFd := fd
          physicalAddress := phys
          size := size
          syncStarted := false
          dmabufFd_pos := hpos })

/-- The address query of a dma-heap allocation. -/
theorem dmaHeapPhys_done {fd : Int} {errorNonNull : Bool} {t : List (KEvent w)}
    {phys : BitVec w} {hpos : PLift (0 < fd)}
    (h : Runs (dmaHeapGetPhysicalAddressFromDmabufFd fd errorNonNull) t (.done (phys, hpos))) :
    PhysStep (fun answer => ⟨.dmaBufIoctlPhys fd, answer⟩) errorNonNull t phys := by
  unfold dmaHeapGetPhysicalAddressFromDmabufFd at h
  rw [dif_pos hpos.down] at h
  obtain ⟨answer, rest, rfl, hrest⟩ := runs_perform_bind_iff.mp h
  cases answer with
  | error errno =>
      obtain ⟨rfl, heq⟩ := runs_storeError_return_iff.mp hrest
      cases heq
      exact .failed errno
  | ok phys =>
      obtain ⟨rfl, heq⟩ := runs_ret_done_iff.mp hrest
      cases heq
      exact .answered phys

/-- How the descriptor of a dma-heap allocation is obtained. -/
theorem dmaHeapAllocateDmabuf_done {dmaHeapFd : Int} {size : BitVec w}
    {heapFlags fdFlags : BitVec 32} {errorNonNull : Bool} {t : List (KEvent w)} {fd : Int}
    (h : Runs (dmaHeapAllocateDmabuf dmaHeapFd size heapFlags fdFlags errorNonNull) t (.done fd)) :
    (∃ errno, t = ⟨.dmaHeapIoctlAlloc dmaHeapFd size heapFlags fdFlags, .error errno⟩ ::
        storeEvents errorNonNull errno.code ∧ fd = -1) ∨
      t = [⟨.dmaHeapIoctlAlloc dmaHeapFd size heapFlags fdFlags, .ok fd⟩] := by
  obtain ⟨-, hsize⟩ := runs_require_bind_iff.mp h
  obtain ⟨-, halloc⟩ := runs_require_bind_iff.mp hsize
  obtain ⟨answer, rest, rfl, hrest⟩ := runs_perform_bind_iff.mp halloc
  cases answer with
  | error errno =>
      obtain ⟨rfl, rfl⟩ := runs_storeError_return_iff.mp hrest
      exact Or.inl ⟨errno, rfl, rfl⟩
  | ok fd =>
      obtain ⟨rfl, rfl⟩ := runs_ret_done_iff.mp hrest
      exact Or.inr rfl

/-- **The dma-heap allocator.** -/
theorem dmaHeapAllocate_done {allocator : DmaHeapAllocator} {size alignment : BitVec w}
    {ambient : Ambient} {errorNonNull : Bool} {t : List (KEvent w)}
    {r : Option (DmaHeapBuffer w)}
    (h : Runs (dmaHeapAllocatorAllocate allocator size alignment ambient errorNonNull) t
      (.done r)) : DmaHeapAllocateStep allocator size ambient errorNonNull t r := by
  obtain ⟨-, hbody⟩ := runs_require_bind_iff.mp h
  obtain ⟨first, rest, fd, rfl, hfd, hrest⟩ := runs_bind_done_iff.mp hbody
  by_cases hneg : fd < 0
  · rw [if_pos hneg] at hrest
    obtain ⟨rfl, rfl⟩ := runs_ret_done_iff.mp hrest
    rw [List.append_nil]
    rcases dmaHeapAllocateDmabuf_done hfd with ⟨errno, rfl, -⟩ | rfl
    · exact .failed errno
    · exact .negative fd hneg
  · rcases dmaHeapAllocateDmabuf_done hfd with ⟨errno, -, rfl⟩ | rfl
    · exact absurd (by decide) hneg
    · rw [if_neg hneg] at hrest
      obtain ⟨tphys, last, ⟨phys, hpos⟩, rfl, hphys, hlast⟩ := runs_bind_done_iff.mp hrest
      have hphysStep := dmaHeapPhys_done hphys
      obtain ⟨hpos⟩ := hpos
      by_cases hzero : phys = 0
      · simp only [if_pos hzero] at hlast
        obtain ⟨⟨⟩, _, rfl, hret⟩ := runs_perform_bind_iff.mp hlast
        obtain ⟨rfl, rfl⟩ := runs_ret_done_iff.mp hret
        rw [hzero] at hphysStep
        exact .noAddress fd hpos tphys hphysStep
      · simp only [if_neg hzero] at hlast
        obtain ⟨rfl, rfl⟩ := runs_ret_done_iff.mp hlast
        rw [List.append_nil]
        exact .allocated fd hpos tphys phys hphysStep hzero

/-- How the search for the DMA heaps completes: the mask found, and the mask left
in the static variable. A mask found by an earlier search is used again. -/
inductive HeapIdMaskStep (ionFd : Int) (heapIdMask : BitVec 32) (errno : Int)
    (errorNonNull : Bool) : List (KEvent w) → BitVec 32 → BitVec 32 → Prop
  | cached (hne : heapIdMask ≠ 0) :
      HeapIdMaskStep ionFd heapIdMask errno errorNonNull [] heapIdMask heapIdMask
  | countFailed (hzero : heapIdMask = 0) (e : Errno) :
      HeapIdMaskStep ionFd heapIdMask errno errorNonNull
        (⟨.ionIocHeapCount ionFd, .error e⟩ :: storeEvents errorNonNull e.code) 0 heapIdMask
  | noHeaps (hzero : heapIdMask = 0) :
      HeapIdMaskStep ionFd heapIdMask errno errorNonNull
        (⟨.ionIocHeapCount ionFd, .ok 0⟩ :: storeEvents errorNonNull errno) 0 heapIdMask
  | queryFailed (hzero : heapIdMask = 0) (cnt : BitVec 32) (hcnt : cnt ≠ 0) (e : Errno) :
      HeapIdMaskStep ionFd heapIdMask errno errorNonNull
        (⟨.ionIocHeapCount ionFd, .ok cnt⟩ :: ⟨.ionIocHeapQuery ionFd cnt, .error e⟩ ::
          storeEvents errorNonNull e.code) 0 heapIdMask
  | queried (hzero : heapIdMask = 0) (cnt : BitVec 32) (hcnt : cnt ≠ 0)
      (written : List IonHeapData) (found : BitVec 32)
      (hloop : Runs (heapIdMaskLoop (w := w) (heapDataArray written) 0 cnt.toInt.toNat heapIdMask)
        [] (.done found)) :
      HeapIdMaskStep ionFd heapIdMask errno errorNonNull
        [⟨.ionIocHeapCount ionFd, .ok cnt⟩, ⟨.ionIocHeapQuery ionFd cnt, .ok written⟩] found found

/-- The loop over the heap list issues nothing. -/
theorem heapIdMaskLoop_silent {heapData : Nat → IonHeapData} {remaining i : Nat}
    {heapIdMask found : BitVec 32} {t : List (KEvent w)}
    (h : Runs (heapIdMaskLoop heapData i remaining heapIdMask) t (.done found)) : t = [] := by
  induction remaining generalizing i heapIdMask with
  | zero => exact (runs_ret_done_iff.mp h).1
  | succ remaining ih =>
      unfold heapIdMaskLoop at h
      split at h
      · split at h
        · exact ih h
        · exact (runs_halt_iff.mp h).1
      · exact ih h

/-- The search for the DMA heaps. -/
theorem getHeapIdMask_done {ionFd : Int} {heapIdMask found left : BitVec 32} {errno : Int}
    {errorNonNull : Bool} {t : List (KEvent w)}
    (h : Runs (getHeapIdMask ionFd heapIdMask errno errorNonNull) t (.done (found, left))) :
    HeapIdMaskStep ionFd heapIdMask errno errorNonNull t found left := by
  unfold getHeapIdMask at h
  by_cases hzero : heapIdMask = 0
  · rw [if_neg (not_not.mpr hzero)] at h
    obtain ⟨answer, rest, rfl, hrest⟩ := runs_perform_bind_iff.mp h
    cases answer with
    | error e =>
        obtain ⟨rfl, heq⟩ := runs_storeError_return_iff.mp hrest
        cases heq
        exact .countFailed hzero e
    | ok cnt =>
        by_cases hcnt : cnt = 0
        · simp only [if_pos hcnt] at hrest
          obtain ⟨rfl, heq⟩ := runs_storeError_return_iff.mp hrest
          cases heq
          rw [hcnt]
          exact .noHeaps hzero
        · simp only [if_neg hcnt] at hrest
          obtain ⟨answer, rest', rfl, hrest'⟩ := runs_perform_bind_iff.mp hrest
          cases answer with
          | error e =>
              obtain ⟨rfl, heq⟩ := runs_storeError_return_iff.mp hrest'
              cases heq
              exact .queryFailed hzero cnt hcnt e
          | ok written =>
              obtain ⟨_, _, mask, rfl, hloop, hret⟩ := runs_bind_done_iff.mp hrest'
              obtain ⟨rfl, heq⟩ := runs_ret_done_iff.mp hret
              cases heq
              obtain rfl := heapIdMaskLoop_silent hloop
              exact .queried hzero cnt hcnt written _ hloop
  · rw [if_pos hzero] at h
    obtain ⟨rfl, heq⟩ := runs_ret_done_iff.mp h
    cases heq
    exact .cached hzero

/-- How the descriptor of an ION allocation is obtained, on kernels from 4.14 on
and on older ones, and what is left in the static variable. -/
inductive IonDmabufStep (config : BuildConfig) (ionFd : Int) (size alignment : BitVec w)
    (ionHeapIdMask ionHeapFlags heapIdMask : BitVec 32) (errno : Int) (errorNonNull : Bool) :
    List (KEvent w) → Int → BitVec 32 → Prop
  | noMask (hquery : config.hasIonHeapQuery) (t : List (KEvent w)) (left : BitVec 32)
      (hmask : HeapIdMaskStep ionFd heapIdMask errno errorNonNull t 0 left) :
      IonDmabufStep config ionFd size alignment ionHeapIdMask ionHeapFlags heapIdMask errno
        errorNonNull t (-1) left
  | allocFailed (hquery : config.hasIonHeapQuery) (t : List (KEvent w)) (found left : BitVec 32)
      (hmask : HeapIdMaskStep ionFd heapIdMask errno errorNonNull t found left) (hne : found ≠ 0)
      (e : Errno) :
      IonDmabufStep config ionFd size alignment ionHeapIdMask ionHeapFlags heapIdMask errno
        errorNonNull (t ++ (⟨.ionIocAllocFd ionFd size found ionHeapFlags, .error e⟩ ::
          storeEvents errorNonNull e.code)) (-1) left
  | allocated (hquery : config.hasIonHeapQuery) (t : List (KEvent w)) (found left : BitVec 32)
      (hmask : HeapIdMaskStep ionFd heapIdMask errno errorNonNull t found left) (hne : found ≠ 0)
      (fd : Int) :
      IonDmabufStep config ionFd size alignment ionHeapIdMask ionHeapFlags heapIdMask errno
        errorNonNull (t ++ [⟨.ionIocAllocFd ionFd size found ionHeapFlags, .ok fd⟩]) fd left
  | handleFailed (hold : ¬ config.hasIonHeapQuery) (e : Errno) :
      IonDmabufStep config ionFd size alignment ionHeapIdMask ionHeapFlags heapIdMask errno
        errorNonNull (⟨.ionIocAllocHandle ionFd size alignment ionHeapIdMask ionHeapFlags,
          .error e⟩ :: storeEvents errorNonNull e.code) (-1) heapIdMask
  | mapFailed (hold : ¬ config.hasIonHeapQuery) (handle : Int) (e : Errno) :
      IonDmabufStep config ionFd size alignment ionHeapIdMask ionHeapFlags heapIdMask errno
        errorNonNull (⟨.ionIocAllocHandle ionFd size alignment ionHeapIdMask ionHeapFlags,
          .ok handle⟩ :: ⟨.ionIocMap ionFd handle, .error e⟩ ::
          (storeEvents errorNonNull e.code ++ [⟨.ionIocFree ionFd handle, ()⟩])) (-1) heapIdMask
  | mapNegative (hold : ¬ config.hasIonHeapQuery) (handle fd : Int) (hneg : fd < 0) :
      IonDmabufStep config ionFd size alignment ionHeapIdMask ionHeapFlags heapIdMask errno
        errorNonNull (⟨.ionIocAllocHandle ionFd size alignment ionHeapIdMask ionHeapFlags,
          .ok handle⟩ :: ⟨.ionIocMap ionFd handle, .ok fd⟩ ::
          (storeEvents errorNonNull errno ++ [⟨.ionIocFree ionFd handle, ()⟩])) (-1) heapIdMask
  | mapped (hold : ¬ config.hasIonHeapQuery) (handle fd : Int) (hnonneg : 0 ≤ fd) :
      IonDmabufStep config ionFd size alignment ionHeapIdMask ionHeapFlags heapIdMask errno
        errorNonNull [⟨.ionIocAllocHandle ionFd size alignment ionHeapIdMask ionHeapFlags,
          .ok handle⟩, ⟨.ionIocMap ionFd handle, .ok fd⟩, ⟨.ionIocFree ionFd handle, ()⟩]
        fd heapIdMask

/-- The descriptor of an ION allocation that queries the heaps. -/
theorem ionAllocateDmabufQuery_done {config : BuildConfig} (hquery : config.hasIonHeapQuery)
    {ionFd : Int} {size alignment : BitVec w}
    {ionHeapIdMask ionHeapFlags heapIdMask left : BitVec 32} {errno : Int} {errorNonNull : Bool}
    {t : List (KEvent w)} {fd : Int}
    (h : Runs (ionAllocateDmabufQuery ionFd size ionHeapFlags heapIdMask errno errorNonNull) t
      (.done (fd, left))) :
    IonDmabufStep config ionFd size alignment ionHeapIdMask ionHeapFlags heapIdMask errno
      errorNonNull t fd left := by
  obtain ⟨tmask, rest, ⟨found, left'⟩, rfl, hmask, hrest⟩ := runs_bind_done_iff.mp h
  have hmaskStep := getHeapIdMask_done hmask
  by_cases hne : found = 0
  · simp only [if_pos hne] at hrest
    obtain ⟨rfl, heq⟩ := runs_ret_done_iff.mp hrest
    cases heq
    rw [hne] at hmaskStep
    rw [List.append_nil]
    exact .noMask hquery tmask left hmaskStep
  · simp only [if_neg hne] at hrest
    obtain ⟨answer, _, rfl, hanswer⟩ := runs_perform_bind_iff.mp hrest
    cases answer with
    | error e =>
        obtain ⟨rfl, heq⟩ := runs_storeError_return_iff.mp hanswer
        cases heq
        exact .allocFailed hquery tmask found left hmaskStep hne e
    | ok fd =>
        obtain ⟨rfl, heq⟩ := runs_ret_done_iff.mp hanswer
        cases heq
        exact .allocated hquery tmask found left hmaskStep hne _

/-- The descriptor of an ION allocation by way of a handle. -/
theorem ionAllocateDmabufHandle_done {config : BuildConfig} (hold : ¬ config.hasIonHeapQuery)
    {ionFd : Int} {size alignment : BitVec w} {ionHeapIdMask ionHeapFlags heapIdMask : BitVec 32}
    {errno : Int} {errorNonNull : Bool} {t : List (KEvent w)} {fd : Int}
    (h : Runs (ionAllocateDmabufHandle ionFd size alignment ionHeapIdMask ionHeapFlags errno
      errorNonNull) t (.done fd)) :
    IonDmabufStep config ionFd size alignment ionHeapIdMask ionHeapFlags heapIdMask errno
      errorNonNull t fd heapIdMask := by
  obtain ⟨answer, rest, rfl, hrest⟩ := runs_perform_bind_iff.mp h
  cases answer with
  | error e =>
      obtain ⟨rfl, rfl⟩ := runs_storeError_return_iff.mp hrest
      exact .handleFailed hold e
  | ok handle =>
      obtain ⟨tmap, _, fd', rfl, hmap, hfree⟩ := runs_bind_done_iff.mp hrest
      obtain ⟨⟨⟩, _, rfl, hret⟩ := runs_perform_bind_iff.mp hfree
      obtain ⟨rfl, rfl⟩ := runs_ret_done_iff.mp hret
      obtain ⟨answer, _, rfl, hanswer⟩ := runs_perform_bind_iff.mp hmap
      cases answer with
      | error e =>
          obtain ⟨rfl, rfl⟩ := runs_storeError_return_iff.mp hanswer
          exact .mapFailed hold handle e
      | ok fd =>
          by_cases hneg : fd < 0
          · simp only [if_pos hneg] at hanswer
            obtain ⟨rfl, rfl⟩ := runs_storeError_return_iff.mp hanswer
            exact .mapNegative hold handle fd hneg
          · simp only [if_neg hneg] at hanswer
            obtain ⟨rfl, rfl⟩ := runs_ret_done_iff.mp hanswer
            exact .mapped hold handle fd (Int.not_lt.mp hneg)

/-- The descriptor of an ION allocation. -/
theorem ionAllocateDmabuf_done {config : BuildConfig} {ionFd : Int} {size alignment : BitVec w}
    {ionHeapIdMask ionHeapFlags heapIdMask left : BitVec 32} {errno : Int} {errorNonNull : Bool}
    {t : List (KEvent w)} {fd : Int}
    (h : Runs (ionAllocateDmabuf config ionFd size alignment ionHeapIdMask ionHeapFlags heapIdMask
      errno errorNonNull) t (.done (fd, left))) :
    IonDmabufStep config ionFd size alignment ionHeapIdMask ionHeapFlags heapIdMask errno
      errorNonNull t fd left := by
  obtain ⟨-, hbody⟩ := runs_require_bind_iff.mp h
  by_cases hquery : config.hasIonHeapQuery
  · rw [if_pos hquery] at hbody
    exact ionAllocateDmabufQuery_done hquery hbody
  · rw [if_neg hquery] at hbody
    obtain ⟨first, _, fd', rfl, hhandle, hret⟩ := runs_bind_done_iff.mp hbody
    obtain ⟨rfl, heq⟩ := runs_ret_done_iff.mp hret
    cases heq
    rw [List.append_nil]
    exact ionAllocateDmabufHandle_done hquery hhandle

/-- The call that queries the physical address of an ION buffer. -/
def ionPhysQuery (config : BuildConfig) (ionFd fd : Int) (answer : Except Errno (BitVec w)) :
    KEvent w :=
  if config.hasIonHeapQuery then ⟨.dmaBufIoctlPhys fd, answer⟩
  else ⟨.ionIocCustomPhysDma ionFd fd, answer⟩

/-- The address query of an ION allocation. -/
theorem ionPhys_done {config : BuildConfig} {ionFd fd : Int} {errorNonNull : Bool}
    {t : List (KEvent w)} {phys : BitVec w}
    (h : Runs (ionGetPhysicalAddressFromDmabufFd config ionFd fd errorNonNull) t (.done phys)) :
    PhysStep (ionPhysQuery config ionFd fd) errorNonNull t phys := by
  unfold ionGetPhysicalAddressFromDmabufFd at h
  by_cases hquery : config.hasIonHeapQuery
  · rw [if_pos hquery] at h
    have hevent : ∀ answer, ionPhysQuery config ionFd fd answer =
        (⟨.dmaBufIoctlPhys fd, answer⟩ : KEvent w) := fun answer => if_pos hquery
    obtain ⟨-, hbody⟩ := runs_require_bind_iff.mp h
    obtain ⟨answer, rest, rfl, hrest⟩ := runs_perform_bind_iff.mp hbody
    rw [← hevent answer]
    cases answer with
    | error e =>
        obtain ⟨rfl, rfl⟩ := runs_storeError_return_iff.mp hrest
        exact .failed e
    | ok phys =>
        obtain ⟨rfl, rfl⟩ := runs_ret_done_iff.mp hrest
        exact .answered phys
  · rw [if_neg hquery] at h
    have hevent : ∀ answer, ionPhysQuery config ionFd fd answer =
        (⟨.ionIocCustomPhysDma ionFd fd, answer⟩ : KEvent w) := fun answer => if_neg hquery
    obtain ⟨-, hbody⟩ := runs_require_bind_iff.mp h
    obtain ⟨answer, rest, rfl, hrest⟩ := runs_perform_bind_iff.mp hbody
    rw [← hevent answer]
    cases answer with
    | error e =>
        obtain ⟨rfl, rfl⟩ := runs_storeError_return_iff.mp hrest
        exact .failed e
    | ok phys =>
        obtain ⟨rfl, rfl⟩ := runs_ret_done_iff.mp hrest
        exact .answered phys

/-- How an ION allocation completes. -/
inductive IonAllocateStep (config : BuildConfig) (allocator : IonAllocator)
    (size alignment : BitVec w) (heapIdMask : BitVec 32) (ambient : Ambient) (errorNonNull : Bool) :
    List (KEvent w) → Option (IonBuffer w) → BitVec 32 → Prop
  | noDescriptor (t : List (KEvent w)) (fd : Int) (left : BitVec 32)
      (hfd : IonDmabufStep config allocator.ionFd size alignment allocator.ionHeapIdMask
        allocator.ionHeapFlags heapIdMask ambient.errno errorNonNull t fd left) (hneg : fd < 0) :
      IonAllocateStep config allocator size alignment heapIdMask ambient errorNonNull t none left
  | noAddress (t : List (KEvent w)) (fd : Int) (left : BitVec 32)
      (hfd : IonDmabufStep config allocator.ionFd size alignment allocator.ionHeapIdMask
        allocator.ionHeapFlags heapIdMask ambient.errno errorNonNull t fd left) (hnonneg : 0 ≤ fd)
      (t' : List (KEvent w))
      (hphys : PhysStep (ionPhysQuery config allocator.ionFd fd) errorNonNull t' 0) :
      IonAllocateStep config allocator size alignment heapIdMask ambient errorNonNull
        (t ++ (t' ++ [⟨.close fd, ()⟩])) none left
  | allocated (t : List (KEvent w)) (fd : Int) (left : BitVec 32)
      (hfd : IonDmabufStep config allocator.ionFd size alignment allocator.ionHeapIdMask
        allocator.ionHeapFlags heapIdMask ambient.errno errorNonNull t fd left) (hnonneg : 0 ≤ fd)
      (t' : List (KEvent w)) (phys : BitVec w)
      (hphys : PhysStep (ionPhysQuery config allocator.ionFd fd) errorNonNull t' phys)
      (hne : phys ≠ 0) :
      IonAllocateStep config allocator size alignment heapIdMask ambient errorNonNull (t ++ t')
        (some {
          toMapState := .initial ambient
          dmabufFd := fd
          physicalAddress := phys
          size := size
          dmabufFd_nonneg := hnonneg }) left

/-- **The ION allocator.** -/
theorem ionAllocate_done {config : BuildConfig} {allocator : IonAllocator}
    {size alignment : BitVec w} {heapIdMask left : BitVec 32} {ambient : Ambient}
    {errorNonNull : Bool} {t : List (KEvent w)} {r : Option (IonBuffer w)}
    (h : Runs (ionAllocatorAllocate config allocator size alignment heapIdMask ambient
      errorNonNull) t (.done (r, left))) :
    IonAllocateStep config allocator size alignment heapIdMask ambient errorNonNull t r left := by
  obtain ⟨-, hbody⟩ := runs_require_bind_iff.mp h
  obtain ⟨first, rest, ⟨fd, left'⟩, rfl, hfd, hrest⟩ := runs_bind_done_iff.mp hbody
  have hfdStep := ionAllocateDmabuf_done hfd
  by_cases hneg : fd < 0
  · simp only [dif_pos hneg] at hrest
    obtain ⟨rfl, heq⟩ := runs_ret_done_iff.mp hrest
    cases heq
    rw [List.append_nil]
    exact .noDescriptor first fd left hfdStep hneg
  · simp only [dif_neg hneg] at hrest
    obtain ⟨tphys, last, phys, rfl, hphys, hlast⟩ := runs_bind_done_iff.mp hrest
    have hphysStep := ionPhys_done hphys
    by_cases hzero : phys = 0
    · simp only [if_pos hzero] at hlast
      obtain ⟨⟨⟩, _, rfl, hret⟩ := runs_perform_bind_iff.mp hlast
      obtain ⟨rfl, heq⟩ := runs_ret_done_iff.mp hret
      cases heq
      rw [hzero] at hphysStep
      exact .noAddress first fd left hfdStep (Int.not_lt.mp hneg) tphys hphysStep
    · simp only [if_neg hzero] at hlast
      obtain ⟨rfl, heq⟩ := runs_ret_done_iff.mp hlast
      cases heq
      rw [List.append_nil]
      exact .allocated first fd left hfdStep (Int.not_lt.mp hneg) tphys phys hphysStep hzero

/-- How an IPU allocation completes. -/
inductive IpuAllocateStep (allocator : IpuAllocator) (size alignment : BitVec w)
    (ambient : Ambient) (errorNonNull : Bool) : List (KEvent w) → Option (IpuBuffer w) → Prop
  | failed (e : Errno) :
      IpuAllocateStep allocator size alignment ambient errorNonNull
        (⟨.ipuAlloc allocator.ipuFd (paddedSize size (effectiveAlignment alignment)), .error e⟩ ::
          storeEvents errorNonNull e.code) none
  | zero :
      IpuAllocateStep allocator size alignment ambient errorNonNull
        [⟨.ipuAlloc allocator.ipuFd (paddedSize size (effectiveAlignment alignment)), .ok 0⟩] none
  | allocated (phys : BitVec w) (hne : phys ≠ 0) :
      IpuAllocateStep allocator size alignment ambient errorNonNull
        [⟨.ipuAlloc allocator.ipuFd (paddedSize size (effectiveAlignment alignment)), .ok phys⟩]
        (some {
          toMapState := .initial ambient
          physicalAddress := phys
          actualSize := paddedSize size (effectiveAlignment alignment)
          size := size
          alignedPhysicalAddress := alignValTo phys (effectiveAlignment alignment)
          physicalAddress_ne_zero := hne })

/-- **The IPU allocator.** -/
theorem ipuAllocate_done {allocator : IpuAllocator} {size alignment : BitVec w}
    {ambient : Ambient} {errorNonNull : Bool} {t : List (KEvent w)} {r : Option (IpuBuffer w)}
    (h : Runs (ipuAllocatorAllocate allocator size alignment ambient errorNonNull) t (.done r)) :
    IpuAllocateStep allocator size alignment ambient errorNonNull t r := by
  obtain ⟨-, hbody⟩ := runs_require_bind_iff.mp h
  obtain ⟨first, rest, phys, rfl, hphys, hrest⟩ := runs_bind_done_iff.mp hbody
  obtain ⟨answer, _, rfl, hanswer⟩ := runs_perform_bind_iff.mp hphys
  cases answer with
  | error e =>
      obtain ⟨rfl, rfl⟩ := runs_storeError_return_iff.mp hanswer
      obtain ⟨rfl, rfl⟩ := runs_ret_done_iff.mp hrest
      simpa using IpuAllocateStep.failed e
  | ok m =>
      obtain ⟨rfl, rfl⟩ := runs_ret_done_iff.mp hanswer
      by_cases hzero : m = 0
      · simp only [dif_pos hzero] at hrest
        obtain ⟨rfl, rfl⟩ := runs_ret_done_iff.mp hrest
        rw [hzero]
        exact .zero
      · simp only [dif_neg hzero] at hrest
        obtain ⟨rfl, rfl⟩ := runs_ret_done_iff.mp hrest
        exact .allocated m hzero

/-- How a PxP allocation completes. -/
inductive PxpAllocateStep (allocator : PxpAllocator) (size alignment : BitVec w)
    (ambient : Ambient) (errorNonNull : Bool) : List (KEvent w) → Option (PxpBuffer w) → Prop
  | failed (e : Errno) :
      PxpAllocateStep allocator size alignment ambient errorNonNull
        (⟨.pxpIocGetPhymem allocator.pxpFd size .wc, .error e⟩ ::
          storeEvents errorNonNull e.code) none
  | allocated (handle : BitVec 32) (phys : BitVec w) :
      PxpAllocateStep allocator size alignment ambient errorNonNull
        [⟨.pxpIocGetPhymem allocator.pxpFd size .wc, .ok (handle, phys)⟩]
        (some {
          toMapState := .initial ambient
          physicalAddress := phys
          actualSize := paddedSize size (effectiveAlignment alignment)
          size := size
          alignedPhysicalAddress := alignValTo phys (effectiveAlignment alignment)
          memDesc := { handle := handle, size := size, physAddr := phys, mtype := .wc } })

/-- **The PxP allocator.** -/
theorem pxpAllocate_done {allocator : PxpAllocator} {size alignment : BitVec w}
    {ambient : Ambient} {errorNonNull : Bool} {t : List (KEvent w)} {r : Option (PxpBuffer w)}
    (h : Runs (pxpAllocatorAllocate allocator size alignment ambient errorNonNull) t (.done r)) :
    PxpAllocateStep allocator size alignment ambient errorNonNull t r := by
  obtain ⟨-, hbody⟩ := runs_require_bind_iff.mp h
  obtain ⟨answer, _, rfl, hanswer⟩ := runs_perform_bind_iff.mp hbody
  cases answer with
  | error e =>
      obtain ⟨rfl, rfl⟩ := runs_storeError_return_iff.mp hanswer
      exact .failed e
  | ok memory =>
      obtain ⟨rfl, rfl⟩ := runs_ret_done_iff.mp hanswer
      exact .allocated memory.1 memory.2

/-- How a DWL allocation completes. -/
inductive DwlAllocateStep (allocator : DwlAllocator w) (size alignment : BitVec w)
    (ambient : Ambient) (errorNonNull : Bool) : List (KEvent w) → Option (DwlBuffer w) → Prop
  | failed :
      DwlAllocateStep allocator size alignment ambient errorNonNull
        (⟨.dwlMallocLinear allocator.dwlInstance (paddedSize size (effectiveAlignment alignment))
          .cpu, none⟩ :: storeEvents errorNonNull ENOMEM) none
  | allocated (virt bus : BitVec w) :
      DwlAllocateStep allocator size alignment ambient errorNonNull
        [⟨.dwlMallocLinear allocator.dwlInstance (paddedSize size (effectiveAlignment alignment))
          .cpu, some (virt, bus)⟩]
        (some {
          toCountState := .initial ambient
          dwlLinearMem := { virtualAddress := virt, busAddress := bus, memType := .cpu }
          actualSize := paddedSize size (effectiveAlignment alignment)
          size := size
          alignedVirtualAddress := alignValTo virt (effectiveAlignment alignment)
          alignedPhysicalAddress := alignValTo bus (effectiveAlignment alignment) })

/-- **The DWL allocator.** -/
theorem dwlAllocate_done {allocator : DwlAllocator w} {size alignment : BitVec w}
    {ambient : Ambient} {errorNonNull : Bool} {t : List (KEvent w)} {r : Option (DwlBuffer w)}
    (h : Runs (dwlAllocatorAllocate allocator size alignment ambient errorNonNull) t (.done r)) :
    DwlAllocateStep allocator size alignment ambient errorNonNull t r := by
  obtain ⟨-, hbody⟩ := runs_require_bind_iff.mp h
  obtain ⟨answer, _, rfl, hanswer⟩ := runs_perform_bind_iff.mp hbody
  cases answer with
  | none =>
      obtain ⟨rfl, rfl⟩ := runs_storeError_return_iff.mp hanswer
      exact .failed
  | some memory =>
      obtain ⟨rfl, rfl⟩ := runs_ret_done_iff.mp hanswer
      exact .allocated memory.1 memory.2

/-- How a G2D allocation completes. -/
inductive G2dAllocateStep (size alignment : BitVec w) (ambient : Ambient) (errorNonNull : Bool) :
    List (KEvent w) → Option (G2dBuffer w) → Prop
  | failed :
      G2dAllocateStep size alignment ambient errorNonNull
        (⟨.g2dAlloc (paddedSize size (effectiveAlignment alignment)) false, none⟩ ::
          storeEvents errorNonNull ENOMEM) none
  | allocated (buf : G2dBuf w) :
      G2dAllocateStep size alignment ambient errorNonNull
        [⟨.g2dAlloc (paddedSize size (effectiveAlignment alignment)) false, some buf⟩]
        (some {
          toCountState := .initial ambient
          actualSize := paddedSize size (effectiveAlignment alignment)
          size := size
          alignedVirtualAddress := alignValTo buf.bufVaddr (effectiveAlignment alignment)
          alignedPhysicalAddress := alignValTo buf.bufPaddr (effectiveAlignment alignment)
          buf := buf })

/-- **The G2D allocator.** -/
theorem g2dAllocate_done {size alignment : BitVec w} {ambient : Ambient} {errorNonNull : Bool}
    {t : List (KEvent w)} {r : Option (G2dBuffer w)}
    (h : Runs (g2dAllocatorAllocate size alignment ambient errorNonNull) t (.done r)) :
    G2dAllocateStep size alignment ambient errorNonNull t r := by
  obtain ⟨answer, _, rfl, hanswer⟩ := runs_perform_bind_iff.mp h
  cases answer with
  | none =>
      obtain ⟨rfl, rfl⟩ := runs_storeError_return_iff.mp hanswer
      exact .failed
  | some buf =>
      obtain ⟨rfl, rfl⟩ := runs_ret_done_iff.mp hanswer
      exact .allocated buf

/-- How an allocation through the public interface completes. Only the ION
allocator touches the static variable. -/
inductive AllocateStep (config : BuildConfig) (size alignment : BitVec w) (heapIdMask : BitVec 32)
    (ambient : Ambient) (errorNonNull : Bool) :
    Allocator w → List (KEvent w) → Option (DmaBuffer w) → BitVec 32 → Prop
  | dmaHeap {allocator : DmaHeapAllocator} {t : List (KEvent w)} {r : Option (DmaHeapBuffer w)}
      (hstep : DmaHeapAllocateStep allocator size ambient errorNonNull t r) :
      AllocateStep config size alignment heapIdMask ambient errorNonNull (.dmaHeap allocator) t
        (r.map (.dmaHeap allocator)) heapIdMask
  | ion {allocator : IonAllocator} {t : List (KEvent w)} {r : Option (IonBuffer w)}
      {left : BitVec 32}
      (hstep : IonAllocateStep config allocator size alignment heapIdMask ambient errorNonNull t r
        left) :
      AllocateStep config size alignment heapIdMask ambient errorNonNull (.ion allocator) t
        (r.map (.ion allocator)) left
  | dwl {allocator : DwlAllocator w} {t : List (KEvent w)} {r : Option (DwlBuffer w)}
      (hstep : DwlAllocateStep allocator size alignment ambient errorNonNull t r) :
      AllocateStep config size alignment heapIdMask ambient errorNonNull (.dwl allocator) t
        (r.map (.dwl allocator)) heapIdMask
  | ipu {allocator : IpuAllocator} {t : List (KEvent w)} {r : Option (IpuBuffer w)}
      (hstep : IpuAllocateStep allocator size alignment ambient errorNonNull t r) :
      AllocateStep config size alignment heapIdMask ambient errorNonNull (.ipu allocator) t
        (r.map (.ipu allocator)) heapIdMask
  | g2d {t : List (KEvent w)} {r : Option (G2dBuffer w)}
      (hstep : G2dAllocateStep size alignment ambient errorNonNull t r) :
      AllocateStep config size alignment heapIdMask ambient errorNonNull .g2d t (r.map .g2d)
        heapIdMask
  | pxp {allocator : PxpAllocator} {t : List (KEvent w)} {r : Option (PxpBuffer w)}
      (hstep : PxpAllocateStep allocator size alignment ambient errorNonNull t r) :
      AllocateStep config size alignment heapIdMask ambient errorNonNull (.pxp allocator) t
        (r.map (.pxp allocator)) heapIdMask

/-- **Every completed allocation is one of the listed ones.** -/
theorem allocate_done {config : BuildConfig} {allocator : Allocator w} {size alignment : BitVec w}
    {heapIdMask left : BitVec 32} {ambient : Ambient} {errorNonNull : Bool} {t : List (KEvent w)}
    {r : Option (DmaBuffer w)}
    (h : Runs (imxDmaBufferAllocate config allocator size alignment heapIdMask ambient
      errorNonNull) t (.done (r, left))) :
    size ≥ 1 ∧
      AllocateStep config size alignment heapIdMask ambient errorNonNull allocator t r left := by
  obtain ⟨hsize, hbody⟩ := runs_require_bind_iff.mp h
  refine ⟨hsize, ?_⟩
  cases allocator with
  | dmaHeap allocator =>
      obtain ⟨first, _, r', rfl, hfirst, hret⟩ := runs_bind_done_iff.mp hbody
      obtain ⟨rfl, heq⟩ := runs_ret_done_iff.mp hret
      cases heq
      rw [List.append_nil]
      exact .dmaHeap (dmaHeapAllocate_done hfirst)
  | ion allocator =>
      obtain ⟨first, _, ⟨r', left'⟩, rfl, hfirst, hret⟩ := runs_bind_done_iff.mp hbody
      obtain ⟨rfl, heq⟩ := runs_ret_done_iff.mp hret
      cases heq
      rw [List.append_nil]
      exact .ion (ionAllocate_done hfirst)
  | dwl allocator =>
      obtain ⟨first, _, r', rfl, hfirst, hret⟩ := runs_bind_done_iff.mp hbody
      obtain ⟨rfl, heq⟩ := runs_ret_done_iff.mp hret
      cases heq
      rw [List.append_nil]
      exact .dwl (dwlAllocate_done hfirst)
  | ipu allocator =>
      obtain ⟨first, _, r', rfl, hfirst, hret⟩ := runs_bind_done_iff.mp hbody
      obtain ⟨rfl, heq⟩ := runs_ret_done_iff.mp hret
      cases heq
      rw [List.append_nil]
      exact .ipu (ipuAllocate_done hfirst)
  | g2d =>
      obtain ⟨first, _, r', rfl, hfirst, hret⟩ := runs_bind_done_iff.mp hbody
      obtain ⟨rfl, heq⟩ := runs_ret_done_iff.mp hret
      cases heq
      rw [List.append_nil]
      exact .g2d (g2dAllocate_done hfirst)
  | pxp allocator =>
      obtain ⟨first, _, r', rfl, hfirst, hret⟩ := runs_bind_done_iff.mp hbody
      obtain ⟨rfl, heq⟩ := runs_ret_done_iff.mp hret
      cases heq
      rw [List.append_nil]
      exact .pxp (pxpAllocate_done hfirst)

/-- **Allocated buffers are fresh**, belong to the allocator and have the size
asked for. -/
theorem allocate_fresh {config : BuildConfig} {allocator : Allocator w} {size alignment : BitVec w}
    {heapIdMask left : BitVec 32} {ambient : Ambient} {errorNonNull : Bool} {t : List (KEvent w)}
    {b : DmaBuffer w}
    (h : Runs (imxDmaBufferAllocate config allocator size alignment heapIdMask ambient
      errorNonNull) t (.done (some b, left))) :
    b.Fresh ∧ b.allocator = allocator ∧ imxDmaBufferGetSize b = size := by
  obtain ⟨-, hstep⟩ := allocate_done h
  generalize hr : some b = r at hstep
  cases hstep with
  | dmaHeap hstep =>
      obtain ⟨buffer, rfl, rfl⟩ := Option.map_eq_some_iff.mp hr.symm
      cases hstep
      exact ⟨⟨rfl, fun _ h => (Option.some.inj h).symm, rfl⟩, rfl, rfl⟩
  | ion hstep =>
      obtain ⟨buffer, rfl, rfl⟩ := Option.map_eq_some_iff.mp hr.symm
      cases hstep
      exact ⟨⟨rfl, fun _ h => (Option.some.inj h).symm, rfl⟩, rfl, rfl⟩
  | dwl hstep =>
      obtain ⟨buffer, rfl, rfl⟩ := Option.map_eq_some_iff.mp hr.symm
      cases hstep
      exact ⟨⟨rfl, fun _ h => (by cases h), rfl⟩, rfl, rfl⟩
  | ipu hstep =>
      obtain ⟨buffer, rfl, rfl⟩ := Option.map_eq_some_iff.mp hr.symm
      cases hstep
      exact ⟨⟨rfl, fun _ h => (Option.some.inj h).symm, rfl⟩, rfl, rfl⟩
  | g2d hstep =>
      obtain ⟨buffer, rfl, rfl⟩ := Option.map_eq_some_iff.mp hr.symm
      cases hstep
      exact ⟨⟨rfl, fun _ h => (by cases h), rfl⟩, rfl, rfl⟩
  | pxp hstep =>
      obtain ⟨buffer, rfl, rfl⟩ := Option.map_eq_some_iff.mp hr.symm
      cases hstep
      exact ⟨⟨rfl, fun _ h => (Option.some.inj h).symm, rfl⟩, rfl, rfl⟩

end ImxDmaBuffer
