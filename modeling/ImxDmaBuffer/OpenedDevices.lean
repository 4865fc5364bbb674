import ImxDmaBuffer.HeldResources
import ImxDmaBuffer.LibraryWorld

/-!
# Which devices the library opened

An allocator works with the device descriptor that its constructor was given, or with
one that the constructor opened.  `openedDevice` reads from the history alone which
descriptor was opened for which allocator; after every history each live allocator has
recorded exactly that (`recordsOpened_of_steps`).  Destroying it closes the descriptor that it
has recorded as its own, except that the dma-heap allocator does not close 0.
-/

namespace ImxDmaBuffer

open CallProgram

variable {w : Nat}

/-- The descriptor that an event opened. -/
def openAnswer : KEvent w → Option Int
  | ⟨.openDevice _ _, .ok fd⟩ => some (fd : Int)
  | _ => none

/-- The descriptor that an event closed. -/
def closedDescriptor : KEvent w → Option Int
  | ⟨.close fd, _⟩ => some fd
  | _ => none

/-- The calls that create an allocator. -/
def LibraryCall.isConstructor : LibraryCall w → Bool
  | .destroy _ => false
  | .allocate _ _ _ _ _ => false
  | .buffer _ _ => false
  | _ => true

/-- The descriptor that a call opened for allocator `i`: the call is the constructor
that returned this allocator. -/
def openedFor (i : Nat) (r : LibraryRecord w) : Option Int :=
  match r.ret with
  | .created (some j) =>
      if r.op.isConstructor ∧ j = i then r.events.findSome? openAnswer else none
  | _ => none

/-- The device descriptor that the library opened for allocator `i`, if any. -/
def openedDevice (h : List (LibraryRecord w)) (i : Nat) : Option Int := h.findSome? (openedFor i)

/-- The device descriptor that an allocator has recorded as its own. -/
def ownDescriptor (fd : Int) (isInternal : Bool) : Option Int :=
  if isInternal then some fd else none

/-- The device descriptor of each kind of allocator. The DWL and G2D allocators have
none. -/
def Allocator.ownDevice : Allocator w → Option Int
  | .dmaHeap a => ownDescriptor a.dmaHeapFd a.dmaHeapFdIsInternal
  | .ion a => ownDescriptor a.ionFd a.ionFdIsInternal
  | .dwl _ => none
  | .ipu a => ownDescriptor a.ipuFd a.ipuFdIsInternal
  | .g2d => none
  | .pxp a => ownDescriptor a.pxpFd a.pxpFdIsInternal

namespace LibraryState

variable {L : LibraryState w} {i j : Nat} {a b : Allocator w}

theorem length_addAllocator :
    (L.addAllocator (some a)).2.allocators.length = L.allocators.length + 1 := by
  simp only [addAllocator, List.length_append, List.length_singleton]

/-- A new allocator comes after those that were there. -/
theorem live_addAllocator (h : (L.addAllocator (some a)).2.liveAllocator i = some b) :
    (i < L.allocators.length ∧ L.liveAllocator i = some b) ∨
      (i = L.allocators.length ∧ b = a) := by
  have hentry : (L.allocators ++ [some a])[i]? = some (some b) := Option.join_eq_some_iff.mp h
  rcases Nat.lt_trichotomy i L.allocators.length with hlt | rfl | hgt
  · rw [List.getElem?_append_left hlt] at hentry
    exact Or.inl ⟨hlt, Option.join_eq_some_iff.mpr hentry⟩
  · rw [List.getElem?_concat_length] at hentry
    exact Or.inr ⟨rfl, (Option.some.inj (Option.some.inj hentry)).symm⟩
  · rw [List.getElem?_append_right (by omega), List.getElem?_singleton, if_neg (by omega)] at hentry
    cases hentry

/-- What is left after a destruction was there before. -/
theorem live_removeAllocator (h : (L.removeAllocator i).liveAllocator j = some b) :
    L.liveAllocator j = some b := by
  have hentry : (L.allocators.modify i fun _ => none)[j]? = some (some b) :=
    Option.join_eq_some_iff.mp h
  rw [List.getElem?_modify] at hentry
  obtain ⟨entry, hj, heq⟩ := Option.map_eq_some_iff.mp hentry
  by_cases hij : i = j
  · rw [if_pos hij] at heq
    cases heq
  · rw [if_neg hij] at heq
    rw [heq] at hj
    exact Option.join_eq_some_iff.mpr hj

end LibraryState

/-- Only constructors open a device. -/
theorem openedFor_other {i : Nat} {r : LibraryRecord w} (hop : r.op.isConstructor = false) :
    openedFor i r = none := by
  unfold openedFor
  rw [hop]
  cases r.ret with
  | returned => rfl
  | created index =>
      cases index with
      | none => rfl
      | some j => exact if_neg (fun hboth => Bool.false_ne_true hboth.1)

section Constructors

variable {config : BuildConfig} {L L' : LibraryState w} {op : LibraryCall w}
  {t : List (KEvent w)} {ret : LibraryReturn w}

/-- A constructor records as its own the descriptor that it opened. -/
theorem NewStep.opens {path : String} {mode : OpenMode} {fd : Int} {errorNonNull : Bool}
    {device : Int × Bool} (h : NewStep path mode fd errorNonNull t (some device)) :
    ownDescriptor device.1 device.2 = t.findSome? openAnswer := by
  cases h with
  | opened hneg opened => rfl
  | given hnonneg => rfl

/-- The same of the call of the library that runs the constructor. -/
theorem created_opens {α : Type} {code : Code w (Option α)} {kind : α → Allocator w}
    {path : String} {mode : OpenMode} {fd : Int} {errorNonNull : Bool} {device : α → Int × Bool}
    (h : Runs ((fun r => L.addAllocator (r.map kind)) <$> code) t (.done (ret, L')))
    (hnew : ∀ r, Runs code t (.done r) → NewStep path mode fd errorNonNull t (r.map device))
    (hkind : ∀ a, (kind a).ownDevice = ownDescriptor (device a).1 (device a).2) :
    ∃ r, (ret, L') = L.addAllocator r ∧
      ∀ a, r = some a → a.ownDevice = t.findSome? openAnswer := by
  obtain ⟨r, hrun, heq⟩ := runs_map_done_iff.mp h
  refine ⟨r.map kind, heq.symm, ?_⟩
  rintro _ hr
  obtain ⟨a, rfl, rfl⟩ := Option.map_eq_some_iff.mp hr
  rw [hkind]
  exact (hnew _ hrun).opens

/-- **Constructors.**  A new allocator has recorded as its own what was opened for it. -/
theorem constructor_opens (hop : op.isConstructor = true)
    (h : Runs (libraryStep config L op) t (.done (ret, L'))) :
    ∃ r, (ret, L') = L.addAllocator r ∧
      ∀ a, r = some a → a.ownDevice = t.findSome? openAnswer := by
  cases op with
  | newDmaHeap dmaHeapFd heapFlags fdFlags errorNonNull =>
      exact created_opens h (fun _ => dmaHeapNew_done) (fun _ => rfl)
  | newDmaHeapFromFd dmaHeapFd heapFlags fdFlags isCachedMemoryHeap =>
      obtain ⟨a, hrun, heq⟩ := runs_map_done_iff.mp h
      refine ⟨_, heq.symm, ?_⟩
      rintro _ ⟨⟩
      unfold dmaHeapAllocatorNewFromFd at hrun
      by_cases hfd : 0 < dmaHeapFd
      · rw [dif_pos hfd] at hrun
        obtain ⟨rfl, rfl⟩ := runs_ret_done_iff.mp hrun
        rfl
      · rw [dif_neg hfd] at hrun
        cases (runs_halt_iff.mp hrun).2
  | newIon ionFd ionHeapIdMask ionHeapFlags errorNonNull =>
      exact created_opens h (fun _ => ionNew_done) (fun _ => rfl)
  | newDwl errorNonNull =>
      obtain ⟨r, hrun, heq⟩ := runs_map_done_iff.mp h
      refine ⟨_, heq.symm, ?_⟩
      rintro _ hr
      obtain ⟨a, rfl, rfl⟩ := Option.map_eq_some_iff.mp hr
      cases dwlNew_done hrun
      rfl
  | newIpu ipuFd errorNonNull =>
      exact created_opens h (fun _ => ipuNew_done) (fun _ => rfl)
  | newG2d =>
      obtain ⟨rfl, heq⟩ := runs_ret_done_iff.mp h
      refine ⟨_, heq.symm, ?_⟩
      rintro _ ⟨⟩
      rfl
  | newPxp pxpFd errorNonNull =>
      exact created_opens h (fun _ => pxpNew_done) (fun _ => rfl)
  | _ => cases hop

/-- The other calls create no allocator and change none. -/
theorem other_keeps_allocators (hop : op.isConstructor = false)
    (h : Runs (libraryStep config L op) t (.done (ret, L'))) :
    L'.allocators.length = L.allocators.length ∧
      ∀ i a, L'.liveAllocator i = some a → L.liveAllocator i = some a := by
  cases op with
  | destroy i =>
      obtain ⟨a, -, -, rfl⟩ := library_destroy_done h
      exact ⟨List.length_modify _ _ _, fun _ _ => LibraryState.live_removeAllocator⟩
  | allocate i size alignment ambient errorNonNull =>
      obtain ⟨a, r, left, -, -, rfl⟩ := library_allocate_done h
      cases r with
      | none => exact ⟨rfl, fun _ _ hlive => hlive⟩
      | some b => exact ⟨rfl, fun _ _ hlive => hlive⟩
  | buffer j call =>
      obtain ⟨b, pointer, c, -, -, rfl⟩ := library_buffer_done h
      exact ⟨rfl, fun _ _ hlive => hlive⟩
  | _ => cases hop

end Constructors

/-- What the history says was opened is what the allocators have recorded. -/
structure RecordsOpened (h : List (LibraryRecord w)) (L : LibraryState w) : Prop where
  unborn : ∀ i, L.allocators.length ≤ i → openedDevice h i = none
  live : ∀ i a, L.liveAllocator i = some a → a.ownDevice = openedDevice h i

namespace RecordsOpened

variable {config : BuildConfig} {h : List (LibraryRecord w)} {L L' : LibraryState w}
  {r : LibraryRecord w}

theorem empty : RecordsOpened (w := w) [] LibraryState.empty :=
  ⟨fun _ _ => rfl, fun _ _ hlive => (by cases hlive)⟩

theorem openedDevice_append (i : Nat) :
    openedDevice (h ++ [r]) i = (openedDevice h i).or (openedFor i r) := by
  unfold openedDevice
  rw [List.findSome?_append, List.findSome?_singleton]

/-- A call that is not the constructor of allocator `i` opens nothing for it. -/
theorem openedDevice_other {i : Nat} (hother : openedFor i r = none) :
    openedDevice (h ++ [r]) i = openedDevice h i := by
  rw [openedDevice_append, hother, Option.or_none]

/-- Calls that open nothing for any allocator, and create none. -/
theorem keep (hR : RecordsOpened h L) (hother : ∀ i, openedFor i r = none)
    (hlength : L'.allocators.length = L.allocators.length)
    (hlive : ∀ i a, L'.liveAllocator i = some a → L.liveAllocator i = some a) :
    RecordsOpened (h ++ [r]) L' := by
  constructor
  · intro i hi
    rw [openedDevice_other (hother i)]
    exact hR.unborn i (hlength ▸ hi)
  · intro i a ha
    rw [openedDevice_other (hother i)]
    exact hR.live i a (hlive i a ha)

/-- One call. -/
theorem step (hR : RecordsOpened h L)
    (hrun : Runs (libraryStep config L r.op) r.events (.done (r.ret, L'))) :
    RecordsOpened (h ++ [r]) L' := by
  cases hop : r.op.isConstructor with
  | false =>
      obtain ⟨hlength, hlive⟩ := other_keeps_allocators hop hrun
      exact hR.keep (fun i => openedFor_other hop) hlength hlive
  | true =>
      obtain ⟨created, heq, hown⟩ := constructor_opens hop hrun
      cases created with
      | none =>
          obtain ⟨hret, rfl⟩ := Prod.mk.inj heq
          exact hR.keep (fun i => by rw [openedFor, hret]) rfl (fun _ _ hlive => hlive)
      | some a =>
          have hret : r.ret = .created (some L.allocators.length) := congrArg Prod.fst heq
          obtain rfl : L' = (L.addAllocator (some a)).2 := congrArg Prod.snd heq
          have hopened : ∀ i, openedFor i r =
              if L.allocators.length = i then r.events.findSome? openAnswer else none := by
            intro i
            simp only [openedFor, hret, hop, true_and]
          constructor
          · intro i hi
            rw [LibraryState.length_addAllocator] at hi
            rw [openedDevice_other ((hopened i).trans (if_neg (by omega)))]
            exact hR.unborn i (by omega)
          · intro i b hlive
            rcases LibraryState.live_addAllocator hlive with ⟨hi, hlive⟩ | ⟨rfl, rfl⟩
            · rw [openedDevice_other ((hopened i).trans (if_neg (by omega)))]
              exact hR.live i b hlive
            · rw [openedDevice_append, hR.unborn _ (le_refl _), Option.none_or, hopened, if_pos rfl]
              exact hown b rfl

end RecordsOpened

/-- **The record of what was opened.**  After every history the live allocators have
recorded as their own exactly the descriptors that the library opened for them. -/
theorem recordsOpened_of_steps {config : BuildConfig} {G : (libraryMachine w config).Guard}
    {h : List (LibraryRecord w)} {L : LibraryState w}
    (hs : (libraryMachine w config).Steps G LibraryState.empty h L) : RecordsOpened h L :=
  hs.track_history (fun _ _ _ _ hR _ hrun => hR.step hrun) RecordsOpened.empty

section Destroy

variable {t : List (KEvent w)} {o : Outcome (kernel w) Unit}

/-- The code that closes the device descriptor closes nothing else. -/
theorem closeDevice_closes {opened : Prop} [Decidable opened] {fd : Int} {isInternal : Bool}
    (h : Runs (if opened ∧ isInternal = true then perform (S := kernel w) (.close fd) else pure ())
      t o) :
    o = .done () ∧
      t.filterMap closedDescriptor = if opened ∧ isInternal = true then [fd] else [] := by
  obtain ⟨rfl, rfl⟩ := closeDevice_events h
  refine ⟨rfl, ?_⟩
  by_cases hclose : opened ∧ isInternal = true
  · rw [if_pos hclose, if_pos hclose]
    rfl
  · rw [if_neg hclose, if_neg hclose]
    rfl

/-- Where an open descriptor always counts as open, it is closed. -/
theorem closeDevice_own {opened : Prop} [Decidable opened] {fd : Int} {isInternal : Bool}
    (hopened : opened)
    (h : Runs (if opened ∧ isInternal = true then perform (S := kernel w) (.close fd) else pure ())
      t o) :
    o = .done () ∧ t.filterMap closedDescriptor = (ownDescriptor fd isInternal).toList := by
  obtain ⟨rfl, hclosed⟩ := closeDevice_closes h
  refine ⟨rfl, hclosed.trans ?_⟩
  cases isInternal with
  | false => exact if_neg (fun hboth => Bool.false_ne_true hboth.2)
  | true => exact if_pos ⟨hopened, rfl⟩

/-- **Destroying an allocator** closes its own descriptor and no other, exactly when it
does not take that descriptor for none. -/
theorem destroy_closes {a : Allocator w} (h : Runs (imxDmaBufferAllocatorDestroy a) t o) :
    o = .done () ∧ (t.filterMap closedDescriptor = a.ownDevice.toList ↔ a.ClosesDevice) := by
  cases a with
  | dmaHeap a =>
      obtain ⟨rfl, hclosed⟩ := closeDevice_closes h
      refine ⟨rfl, ?_⟩
      rw [hclosed]
      show _ = (ownDescriptor a.dmaHeapFd a.dmaHeapFdIsInternal).toList ↔
        (a.dmaHeapFdIsInternal = true → a.dmaHeapFd ≠ 0)
      cases a.dmaHeapFdIsInternal with
      | false => simp [ownDescriptor]
      | true =>
          simp only [ownDescriptor, if_true, Option.toList_some, and_true, forall_const]
          by_cases hzero : a.dmaHeapFd = 0
          · simp [hzero]
          · simp [a.dmaHeapFd_pos hzero, hzero]
  | ion a =>
      obtain ⟨rfl, hclosed⟩ := closeDevice_own a.ionFd_nonneg h
      exact ⟨rfl, iff_of_true hclosed trivial⟩
  | dwl a =>
      have hrelease : imxDmaBufferAllocatorDestroy (.dwl a) =
          perform (S := kernel w) (.dwlRelease a.dwlInstance) :=
        require_bind_of a.dwlInstance_ne_null _
      rw [hrelease] at h
      obtain ⟨answer, rest, rfl, hrest⟩ := runs_call_iff.mp h
      obtain ⟨rfl, rfl⟩ := runs_ret_iff.mp hrest
      exact ⟨rfl, iff_of_true rfl trivial⟩
  | ipu a =>
      obtain ⟨rfl, hclosed⟩ := closeDevice_own a.ipuFd_nonneg h
      exact ⟨rfl, iff_of_true hclosed trivial⟩
  | g2d =>
      obtain ⟨rfl, rfl⟩ := runs_ret_iff.mp h
      exact ⟨rfl, iff_of_true rfl trivial⟩
  | pxp a =>
      obtain ⟨rfl, hclosed⟩ := closeDevice_own a.pxpFd_nonneg h
      exact ⟨rfl, iff_of_true hclosed trivial⟩

end Destroy

end ImxDmaBuffer
