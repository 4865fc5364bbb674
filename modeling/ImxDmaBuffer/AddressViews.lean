import ImxDmaBuffer.Library.AddressTranslation
import ImxDmaBuffer.ReferenceCounting

/-!
# The CPU's and the device's view of a buffer

The DWL, G2D, IPU and PxP allocators round the backend's physical address up to
the alignment, and hand the rounded address to the device.  Two things must hold
of the result: the range the device uses stays inside the memory that the
backend reserved, and the CPU sees the same bytes through the pointer that map
returns.

For the first, the padding that was requested must cover the displacement; the
PxP allocator does not request any, and the others request too little where the
padded size wraps.  For the second, the pointer must be displaced by as much as
the physical address: DWL and G2D round the two up independently, IPU and PxP map
the memory from its start.
-/

namespace ImxDmaBuffer

open CallProgram WordRoundUp AddressTranslation

variable {w : Nat}

/-- The allocators that displace addresses: DWL, IPU, G2D and PxP. -/
def Allocator.Displaces : Allocator w → Prop
  | .dmaHeap _ => False
  | .ion _ => False
  | _ => True

/-- The allocator is the PxP one. -/
def Allocator.IsPxp : Allocator w → Prop
  | .pxp _ => True
  | _ => False

/-- Memory that a backend reserved: where, and how many bytes were requested. DWL
and G2D also say at which virtual address the memory can be used. -/
structure BackendGrant (w : Nat) where
  virtualAddress : Option (BitVec w)
  physicalAddress : BitVec w
  bytes : BitVec w

/-- The memory that the successful backend calls of a trace reserved. -/
def backendGrants (t : List (KEvent w)) : List (BackendGrant w) :=
  t.filterMap fun
    | ⟨.dwlMallocLinear _ size _, some (virt, bus)⟩ => some ⟨some virt, bus, size⟩
    | ⟨.g2dAlloc size _, some buf⟩ => some ⟨some buf.bufVaddr, buf.bufPaddr, size⟩
    | ⟨.ipuAlloc _ size, .ok phys⟩ => some ⟨none, phys, size⟩
    | ⟨.pxpIocGetPhymem _ size _, .ok (_, phys)⟩ => some ⟨none, phys, size⟩
    | _ => none

/-- What a displaced buffer makes of the memory it was given: both addresses are
rounded up, the requested size is padded except by PxP, and the buffers without a
virtual address of their own map the memory from its start. -/
structure DmaBuffer.PlacedIn (b : DmaBuffer w) (allocator : Allocator w) (size alignment : BitVec w)
    (g : BackendGrant w) : Prop where
  physical : imxDmaBufferGetPhysicalAddress b =
    alignValTo g.physicalAddress (effectiveAlignment alignment)
  virtual : b.alignedVirtualAddress = g.virtualAddress.map fun v =>
    alignValTo v (effectiveAlignment alignment)
  padded : ¬ allocator.IsPxp → g.bytes = paddedSize size (effectiveAlignment alignment)
  unpadded : allocator.IsPxp → g.bytes = size ∧ g.virtualAddress = none
  mapped : g.virtualAddress = none → ∃ p s, b.view = b.view.mmapBacked p s ∧
    p.args.length = size ∧ p.args.offset = g.physicalAddress

/-- An allocation that displaces addresses is given memory once, and places the
buffer in it. -/
theorem allocate_placed {config : BuildConfig} {allocator : Allocator w}
    (hdisplaces : allocator.Displaces) {size alignment : BitVec w}
    {heapIdMask left : BitVec 32} {ambient : Ambient} {errorNonNull : Bool} {t : List (KEvent w)}
    {b : DmaBuffer w}
    (halloc : Runs (imxDmaBufferAllocate config allocator size alignment heapIdMask ambient
      errorNonNull) t (.done (some b, left))) :
    ∃ g, backendGrants t = [g] ∧ b.PlacedIn allocator size alignment g := by
  obtain ⟨-, hstep⟩ := allocate_done halloc
  generalize hr : some b = r at hstep
  cases hstep with
  | dmaHeap => exact hdisplaces.elim
  | ion => exact hdisplaces.elim
  | dwl hstep =>
      obtain ⟨buffer, rfl, rfl⟩ := Option.map_eq_some_iff.mp hr.symm
      cases hstep with
      | allocated virt bus =>
          exact ⟨⟨some virt, bus, _⟩, rfl, rfl, rfl, fun _ => rfl, fun h => h.elim,
            fun h => by cases h⟩
  | ipu hstep =>
      obtain ⟨buffer, rfl, rfl⟩ := Option.map_eq_some_iff.mp hr.symm
      cases hstep with
      | allocated phys =>
          exact ⟨⟨none, phys, _⟩, rfl, rfl, rfl, fun _ => rfl, fun h => h.elim,
            fun _ => ⟨_, _, rfl, rfl, rfl⟩⟩
  | g2d hstep =>
      obtain ⟨buffer, rfl, rfl⟩ := Option.map_eq_some_iff.mp hr.symm
      cases hstep with
      | allocated buf =>
          exact ⟨⟨some buf.bufVaddr, buf.bufPaddr, _⟩, rfl, rfl, rfl, fun _ => rfl, fun h => h.elim,
            fun h => by cases h⟩
  | pxp hstep =>
      obtain ⟨buffer, rfl, rfl⟩ := Option.map_eq_some_iff.mp hr.symm
      cases hstep with
      | allocated handle phys =>
          exact ⟨⟨none, phys, size⟩, rfl, rfl, rfl, fun h => absurd trivial h,
            fun _ => ⟨rfl, rfl⟩, fun _ => ⟨_, _, rfl, rfl, rfl⟩⟩

/-- Only sizes of at least one byte are allocated. -/
theorem allocate_size_pos (hw : 0 < w) {config : BuildConfig} {allocator : Allocator w}
    {size alignment : BitVec w} {heapIdMask left : BitVec 32} {ambient : Ambient}
    {errorNonNull : Bool} {t : List (KEvent w)} {r : Option (DmaBuffer w)}
    (halloc : Runs (imxDmaBufferAllocate config allocator size alignment heapIdMask ambient
      errorNonNull) t (.done (r, left))) : 1 ≤ size.toNat := by
  obtain ⟨hsize, -⟩ := allocate_done halloc
  have hone : (1 : BitVec w).toNat = 1 := BitVec.toNat_one hw
  have hle := BitVec.le_def.mp hsize
  omega

/-- What a buffer was allocated with is enough: as many bytes were requested as the
buffer reports, and as the padding takes, and the padded size fits in a word. -/
structure RequestSuffices (size alignment : BitVec w) (b : DmaBuffer w) (g : BackendGrant w) :
    Prop where
  reported : (imxDmaBufferGetSize b).toNat ≤ g.bytes.toNat
  padded : 1 < alignment.toNat → size.toNat + alignment.toNat - 1 ≤ g.bytes.toNat
  fits : 1 < alignment.toNat → size.toNat + alignment.toNat < 2 ^ w

/-- A padded request reserves as much as the buffer reports exactly when the padded
size does not wrap. -/
theorem reported_size_le_iff (hw : 0 < w) {allocator : Allocator w} {size alignment : BitVec w}
    {b : DmaBuffer w} {g : BackendGrant w} (hplaced : b.PlacedIn allocator size alignment g)
    (hnot : ¬ allocator.IsPxp) (hb : imxDmaBufferGetSize b = size) :
    (imxDmaBufferGetSize b).toNat ≤ g.bytes.toNat ↔
      (1 < alignment.toNat → size.toNat + alignment.toNat < 2 ^ w) := by
  rw [hplaced.padded hnot, hb]
  exact size_le_paddedSize_iff hw

/-- **Requested sizes suffice** exactly when the padded size does not wrap. -/
theorem request_suffices_iff (hw : 0 < w) {config : BuildConfig} {allocator : Allocator w}
    (hdisplaces : allocator.Displaces) (hnot : ¬ allocator.IsPxp) {size alignment : BitVec w}
    {heapIdMask left : BitVec 32} {ambient : Ambient} {errorNonNull : Bool} {t : List (KEvent w)}
    {b : DmaBuffer w}
    (halloc : Runs (imxDmaBufferAllocate config allocator size alignment heapIdMask ambient
      errorNonNull) t (.done (some b, left)))
    {g : BackendGrant w} (hg : g ∈ backendGrants t) :
    RequestSuffices size alignment b g ↔
      alignment.toNat ≤ 1 ∨ size.toNat + alignment.toNat < 2 ^ w := by
  obtain ⟨-, -, hb⟩ := allocate_fresh halloc
  obtain ⟨g', hgrants, hplaced⟩ := allocate_placed hdisplaces halloc
  rw [hgrants] at hg
  obtain rfl := List.mem_singleton.mp hg
  have hreported := reported_size_le_iff hw hplaced hnot hb
  constructor
  · intro hsuffices
    by_cases hpad : 1 < alignment.toNat
    · exact Or.inr (hreported.mp hsuffices.reported hpad)
    · exact Or.inl (Nat.not_lt.mp hpad)
  · intro hcondition
    have hfit : 1 < alignment.toNat → size.toNat + alignment.toNat < 2 ^ w := fun hpad =>
      hcondition.resolve_left (Nat.not_le.mpr hpad)
    refine ⟨hreported.mpr hfit, fun hpad => ?_, hfit⟩
    have heffective : (effectiveAlignment alignment).toNat = alignment.toNat := by
      rw [toNat_effectiveAlignment hw, if_neg (by omega)]
    rw [hplaced.padded hnot, toNat_paddedSize hw (by rw [heffective]; exact hfit), heffective,
      if_pos hpad]
    exact Nat.sub_le _ _

/-- An ordinary G2D buffer was allocated with enough memory. -/
theorem ordinary_g2d_request_suffices :
    RequestSuffices 4096 16 alignedG2dBuffer ⟨some 0x70000008, 0x80000008, 4112⟩ := by
  have halloc : Runs (imxDmaBufferAllocate recentKernelConfig .g2d 4096 16 0 cleanAmbient true)
      [⟨.g2dAlloc 4112 false, some ⟨0x70000008, 0x80000008⟩⟩]
      (.done (some alignedG2dBuffer, 0)) := .call _ (.ret _)
  have hdisplaces : (Allocator.g2d : Allocator 64).Displaces := trivial
  have hnot : ¬ (Allocator.g2d : Allocator 64).IsPxp := fun hpxp => hpxp
  exact (request_suffices_iff (by decide) hdisplaces hnot halloc
    (List.mem_singleton.mpr rfl)).mpr (Or.inr (by decide))

/-- A G2D buffer that reports almost the whole address space. -/
def hugeG2dBuffer : DmaBuffer 64 :=
  .g2d {
    mapFlags := 0
    mappingRefcount := 0
    actualSize := 4096
    size := 0xfffffffffffff000
    alignedVirtualAddress := 0x70000000
    alignedPhysicalAddress := 0x80000000
    buf := ⟨0x70000000, 0x80000000⟩ }

/-- That buffer was allocated with a single page. -/
theorem huge_g2d_request_wraps :
    Runs (imxDmaBufferAllocate recentKernelConfig .g2d 0xfffffffffffff000 8192 0 cleanAmbient true)
      [⟨.g2dAlloc 4096 false, some ⟨0x70000000, 0x80000000⟩⟩] (.done (some hugeG2dBuffer, 0)) ∧
    imxDmaBufferGetSize hugeG2dBuffer = 0xfffffffffffff000 ∧
    ¬ RequestSuffices 0xfffffffffffff000 8192 hugeG2dBuffer
      ⟨some 0x70000000, 0x80000000, 4096⟩ := by
  refine ⟨.call _ (.ret _), rfl, ?_⟩
  intro hsuffices
  exact absurd hsuffices.reported (by decide)

/-- The window that the device uses lies in the memory that was reserved, and
starts at a multiple of the alignment. -/
structure WindowInside (alignment : Nat) (b : DmaBuffer w) (g : BackendGrant w) : Prop where
  aligned : alignment ∣ (imxDmaBufferGetPhysicalAddress b).toNat
  starts : g.physicalAddress.toNat ≤ (imxDmaBufferGetPhysicalAddress b).toNat
  ends : (imxDmaBufferGetPhysicalAddress b).toNat + (imxDmaBufferGetSize b).toNat ≤
    g.physicalAddress.toNat + g.bytes.toNat

/-- Rounding up leaves an address alone exactly when it is a multiple already and
the sum does not wrap. -/
theorem alignValTo_eq_self_iff (hw : 0 < w) (v alignment : BitVec w) :
    alignValTo v (effectiveAlignment alignment) = v ↔
      v.toNat % (effectiveAlignment alignment).toNat = 0 ∧
        v.toNat + (effectiveAlignment alignment).toNat - 1 < 2 ^ w := by
  have hpos := effectiveAlignment_pos hw alignment
  by_cases hzero : v.toNat = 0
  · have hlt := (effectiveAlignment alignment).isLt
    have hfit : v.toNat + (effectiveAlignment alignment).toNat - 1 < 2 ^ w := by omega
    have hmod : v.toNat % (effectiveAlignment alignment).toNat = 0 := by rw [hzero, Nat.zero_mod]
    refine ⟨fun _ => ⟨hmod, hfit⟩, fun _ => BitVec.eq_of_toNat_eq ?_⟩
    rw [alignValTo, roundUp_eq_add hpos hfit, (displacement_eq_zero_iff hpos).mpr hmod,
      Nat.add_zero]
  · exact roundUp_eq_self_iff hpos (Nat.pos_of_ne_zero hzero)

/-- Where the requested size is padded, the window always lies inside. -/
theorem window_inside_of_padded (hw : 0 < w) {allocator : Allocator w} {size alignment : BitVec w}
    {b : DmaBuffer w} {g : BackendGrant w} (hplaced : b.PlacedIn allocator size alignment g)
    (hnot : ¬ allocator.IsPxp) (hb : imxDmaBufferGetSize b = size) (hone : 1 ≤ size.toNat)
    (hsize : size.toNat + alignment.toNat < 2 ^ w)
    (hgrant : g.physicalAddress.toNat + g.bytes.toNat ≤ 2 ^ w) :
    WindowInside (effectiveAlignment alignment).toNat b g := by
  have hpos := effectiveAlignment_pos hw alignment
  have hpad : 1 < (effectiveAlignment alignment).toNat →
      size.toNat + (effectiveAlignment alignment).toNat < 2 ^ w := by
    rw [toNat_effectiveAlignment hw]
    split
    · omega
    · omega
  have hcovers := displacement_add_size_le hw g.physicalAddress hpad
  rw [hplaced.padded hnot, toNat_paddedSize hw hpad] at hgrant
  have hfit : g.physicalAddress.toNat + (effectiveAlignment alignment).toNat - 1 < 2 ^ w := by
    split at hgrant
    · omega
    · omega
  have hround := roundUp_eq_add hpos hfit
  refine ⟨?_, ?_, ?_⟩
  · rw [hplaced.physical]
    exact dvd_roundUp _ _
  · rw [hplaced.physical, alignValTo, hround]
    exact Nat.le_add_right _ _
  · rw [hplaced.physical, alignValTo, hround, hplaced.padded hnot, hb]
    omega

/-- **The window lies inside the reserved memory**, except in the PxP allocator
where the driver's address is not aligned already. -/
theorem window_inside_iff (hw : 0 < w) {config : BuildConfig} {allocator : Allocator w}
    (hdisplaces : allocator.Displaces) {size alignment : BitVec w} {heapIdMask left : BitVec 32}
    {ambient : Ambient} {errorNonNull : Bool} {t : List (KEvent w)} {b : DmaBuffer w}
    (halloc : Runs (imxDmaBufferAllocate config allocator size alignment heapIdMask ambient
      errorNonNull) t (.done (some b, left)))
    (hsize : size.toNat + alignment.toNat < 2 ^ w) {g : BackendGrant w}
    (hg : g ∈ backendGrants t) (hgrant : g.physicalAddress.toNat + g.bytes.toNat ≤ 2 ^ w) :
    WindowInside (effectiveAlignment alignment).toNat b g ↔
      (allocator.IsPxp → g.physicalAddress.toNat % (effectiveAlignment alignment).toNat = 0 ∧
        g.physicalAddress.toNat + (effectiveAlignment alignment).toNat - 1 < 2 ^ w) := by
  have hone := allocate_size_pos hw halloc
  obtain ⟨-, -, hb⟩ := allocate_fresh halloc
  obtain ⟨g', hgrants, hplaced⟩ := allocate_placed hdisplaces halloc
  rw [hgrants] at hg
  obtain rfl := List.mem_singleton.mp hg
  by_cases hpxp : allocator.IsPxp
  · have hself := alignValTo_eq_self_iff hw g.physicalAddress alignment
    rw [← hself]
    constructor
    · intro hwindow _
      have hends := hwindow.ends
      rw [(hplaced.unpadded hpxp).1, hb] at hends
      rw [← hplaced.physical]
      exact BitVec.eq_of_toNat_eq (Nat.le_antisymm (by omega) hwindow.starts)
    · intro haligned
      have hsame := hplaced.physical.trans (haligned hpxp)
      refine ⟨?_, ?_, ?_⟩
      · rw [hplaced.physical]
        exact dvd_roundUp _ _
      · rw [hsame]
      · rw [hsame, hb, (hplaced.unpadded hpxp).1]
  · refine ⟨fun _ h => absurd h hpxp, fun _ => ?_⟩
    exact window_inside_of_padded hw hplaced hpxp hb hone hsize hgrant

/-- A PxP allocator with a device that the library opened. -/
def pxpDevice : PxpAllocator where
  pxpFd := 6
  pxpFdIsInternal := true
  pxpFd_nonneg := by decide

/-- A PxP buffer of 4096 bytes with an alignment of 8192, for memory at this
address. -/
def pxpBufferAt (physicalAddress : BitVec 64) : DmaBuffer 64 :=
  .pxp pxpDevice {
    mappedVirtualAddress := 0
    mapFlags := 0
    mappingRefcount := 0
    physicalAddress := physicalAddress
    actualSize := 12288
    size := 4096
    alignedPhysicalAddress := alignValTo physicalAddress 8192
    memDesc := ⟨1, 4096, physicalAddress, .wc⟩ }

/-- How the driver reserves that memory. -/
def pxpReserves (physicalAddress : BitVec 64) : List (KEvent 64) :=
  [⟨.pxpIocGetPhymem 6 4096 .wc, .ok (1, physicalAddress)⟩]

theorem allocate_pxpBufferAt (physicalAddress : BitVec 64) :
    Runs (imxDmaBufferAllocate recentKernelConfig (.pxp pxpDevice) 4096 8192 0 cleanAmbient true)
      (pxpReserves physicalAddress) (.done (some (pxpBufferAt physicalAddress), 0)) :=
  .call _ (.ret _)

/-- The window is inside where the driver's memory is aligned. -/
theorem aligned_pxp_window_inside :
    WindowInside 8192 (pxpBufferAt 0x80002000) ⟨none, 0x80002000, 4096⟩ := by
  have hdisplaces : (Allocator.pxp pxpDevice : Allocator 64).Displaces := trivial
  refine (window_inside_iff (by decide) hdisplaces (allocate_pxpBufferAt 0x80002000) (by decide)
    (List.mem_singleton.mpr rfl) (by decide)).mpr ?_
  intro _
  decide

/-- Where it is not, the window of the buffer starts past the end of the memory. -/
theorem misaligned_pxp_window_outside :
    Runs (imxDmaBufferAllocate recentKernelConfig (.pxp pxpDevice) 4096 8192 0 cleanAmbient true)
      (pxpReserves 0x80001000) (.done (some (pxpBufferAt 0x80001000), 0)) ∧
    backendGrants (pxpReserves 0x80001000) = [⟨none, 0x80001000, 4096⟩] ∧
    ¬ WindowInside 8192 (pxpBufferAt 0x80001000) ⟨none, 0x80001000, 4096⟩ := by
  refine ⟨allocate_pxpBufferAt 0x80001000, rfl, ?_⟩
  intro hwindow
  exact absurd hwindow.ends (by decide)

namespace MmapParams

variable {p : MmapParams w}

/-- A map returns the address that is stored then. -/
theorem MapStep.ret_eq {s s' : SyncState w} {flags : BitVec 32} {errorNonNull : Bool}
    {t : List (KEvent w)} {ret : BitVec w} (h : p.MapStep s flags errorNonNull t ret s') :
    ret = s'.mappedVirtualAddress := by
  cases h with
  | redundant => rfl
  | failed hunmapped => exact hunmapped.symm
  | fresh => rfl

/-- The address that is stored, if any, is one at which an `mmap` among these
events placed the buffer. -/
def PlacedBy (p : MmapParams w) (events : List (KEvent w)) (u : Option (SyncState w)) : Prop :=
  ∀ s, u = some s → s.mappedVirtualAddress ≠ 0 → ∃ prot mapped,
    s.mappedVirtualAddress = mapped.address ∧
      ⟨.mmap p.args.length prot p.args.fd p.args.offset, .ok mapped⟩ ∈ events

/-- Every call keeps this. -/
theorem PlacedBy.step {events : List (KEvent w)} {u u' : Option (SyncState w)} {op : BufferCall}
    {t : List (KEvent w)} {ret : Option (BitVec w)} (hu : p.PlacedBy events u)
    (hrun : Runs (p.machine.step u op) t (.done (ret, u'))) : p.PlacedBy (events ++ t) u' := by
  have hkeep : ∀ s s' : SyncState w, u = some s → u' = some s' →
      s'.mappedVirtualAddress = s.mappedVirtualAddress → p.PlacedBy (events ++ t) u' := by
    intro s s' hs hs' hsame x hx hne
    obtain rfl := Option.some.inj (hs'.symm.trans hx)
    obtain ⟨prot, mapped, haddress, hmem⟩ := hu s hs (by rwa [← hsame])
    exact ⟨prot, mapped, hsame.trans haddress, List.mem_append_left t hmem⟩
  cases u with
  | none => cases (runs_halt_iff.mp hrun).2
  | some s =>
      cases step_done hrun with
      | map hmap =>
          cases hmap with
          | redundant => exact hkeep _ _ rfl rfl rfl
          | failed => exact hkeep _ _ rfl rfl rfl
          | fresh _ mapped =>
              intro x hx _
              obtain rfl := Option.some.inj hx
              exact ⟨_, mapped, rfl, List.mem_append_right events List.mem_cons_self⟩
      | unmap hunmap =>
          cases hunmap with
          | surplus => exact hkeep _ _ rfl rfl rfl
          | decrement => exact hkeep _ _ rfl rfl rfl
          | last =>
              intro x hx hne
              obtain rfl := Option.some.inj hx
              exact absurd rfl hne
      | startSyncSession hstart => cases hstart <;> exact hkeep _ _ rfl rfl rfl
      | stopSyncSession hstop => cases hstop <;> exact hkeep _ _ rfl rfl rfl
      | deallocate =>
          intro x hx
          cases hx

end MmapParams

/-- A map that returned this pointer. -/
def mapReturned (flags : BitVec 32) (errorNonNull : Bool) (t : List (KEvent w)) (ptr : BitVec w) :
    CallRecord w :=
  ⟨.map flags errorNonNull, t, some ptr⟩

section Pointer

variable {G : (bufferMachine w).Guard} {b b' : DmaBuffer w} {h : List (CallRecord w)}
  {flags : BitVec 32} {errorNonNull : Bool} {t : List (KEvent w)} {ptr : BitVec w}

/-- The pointer that a map of an mmap-based buffer returns is where an `mmap` of the
history placed the buffer. -/
theorem pointer_mmapBacked (hfresh : b.Fresh) {m : BufferModel w} {p : MmapParams w}
    {s : SyncState w} (hb : b.view = m.mmapBacked p s)
    (hs : (bufferMachine w).Steps G (some b) (h ++ [mapReturned flags errorNonNull t ptr])
      (some b')) (hne : ptr ≠ 0) :
    b'.view.physicalAddress = m.physicalAddress ∧ b'.view.size = m.size ∧
      ∃ (prot : BitVec 32) (mapped : MappedAddress w), ptr = mapped.address ∧
        ⟨.mmap p.args.length prot p.args.fd p.args.offset, .ok mapped⟩ ∈
          historyEvents (h ++ [mapReturned flags errorNonNull t ptr]) := by
  have hzero : s.mappedVirtualAddress = 0 :=
    hfresh.mappedVirtualAddress _ (mappedVirtualAddress_of_view hb)
  obtain ⟨u, hsteps, hu⟩ := steps_mmapBacked hb (K := fun _ _ _ => True)
    (fun _ _ _ _ _ _ => trivial) hs
  obtain ⟨s', rfl, hb'⟩ := Option.map_eq_some_iff.mp hu.symm
  have hplaced := Machine.Steps.track_events (R := p.PlacedBy)
    (fun events u r u' hR _ hrun => hR.step hrun) hsteps (fun x hx hne => by
      obtain rfl := Option.some.inj hx
      exact absurd hzero hne)
  obtain ⟨middle, -, -, hlast⟩ := hsteps.last
  have hret : ptr = s'.mappedVirtualAddress := by
    cases middle with
    | none => cases (runs_halt_iff.mp hlast).2
    | some s'' =>
        have hdone : p.Step s'' (.map flags errorNonNull) t (some ptr) (some s') :=
          MmapParams.step_done hlast
        cases hdone with
        | map hmap => exact hmap.ret_eq
  refine ⟨?_, ?_, ?_⟩
  · rw [← hb']
    rfl
  · rw [← hb']
    rfl
  · obtain ⟨prot, mapped, haddress, hmem⟩ := hplaced s' rfl (by rwa [← hret])
    exact ⟨prot, mapped, hret.trans haddress, hmem⟩

/-- The pointer that a map of an always mapped buffer returns is its aligned
virtual address. -/
theorem pointer_alwaysMapped {m : BufferModel w} {p : AlwaysParams w} {s : CountState}
    (hb : b.view = m.alwaysMapped p s)
    (hs : (bufferMachine w).Steps G (some b) (h ++ [mapReturned flags errorNonNull t ptr])
      (some b')) :
    b'.view.physicalAddress = m.physicalAddress ∧ b'.view.size = m.size ∧
      ptr = p.virtualAddress := by
  obtain ⟨u, hsteps, hu⟩ := steps_alwaysMapped hb (K := fun _ _ _ => True)
    (fun _ _ _ _ _ _ => trivial) hs
  obtain ⟨s', rfl, hb'⟩ := Option.map_eq_some_iff.mp hu.symm
  obtain ⟨middle, -, -, hlast⟩ := hsteps.last
  refine ⟨?_, ?_, ?_⟩
  · rw [← hb']
    rfl
  · rw [← hb']
    rfl
  · cases middle with
    | none => cases (runs_halt_iff.mp hlast).2
    | some s'' =>
        have hdone : p.Step s'' (.map flags errorNonNull) t (some ptr) (some s') :=
          AlwaysParams.step_done hlast
        cases hdone with
        | map => rfl

end Pointer

/-- What is assumed of the memory behind the addresses that the CPU uses: where a
backend gives a virtual address, its bytes are those of the physical memory, and
the pages at `ptr` are those that `mmap` was asked to place there. -/
structure TranslatesMemory (translate : BitVec w → BitVec w) (g : BackendGrant w)
    (events : List (KEvent w)) (ptr : BitVec w) : Prop where
  granted : ∀ v, g.virtualAddress = some v → Backs translate v g.physicalAddress g.bytes.toNat
  mapped : ∀ (length : BitVec w) (prot : BitVec 32) (fd : Int) (offset : BitVec w)
    (mapped : MappedAddress w), mapped.address = ptr →
    ⟨.mmap length prot fd offset, .ok mapped⟩ ∈ events → Backs translate ptr offset length.toNat

/-- No sum that an allocation makes of a size or an address and the alignment
wraps. -/
structure NoSumWraps (size alignment : BitVec w) (g : BackendGrant w) : Prop where
  size : size.toNat + alignment.toNat < 2 ^ w
  physical : g.physicalAddress.toNat + (effectiveAlignment alignment).toNat - 1 < 2 ^ w
  virtual : ∀ v, g.virtualAddress = some v →
    v.toNat + (effectiveAlignment alignment).toNat - 1 < 2 ^ w

/-- The padded size does not wrap where the plain sum does not. -/
theorem NoSumWraps.padded (hw : 0 < w) {size alignment : BitVec w} {g : BackendGrant w}
    (h : NoSumWraps size alignment g) (hpad : 1 < (effectiveAlignment alignment).toNat) :
    size.toNat + (effectiveAlignment alignment).toNat < 2 ^ w := by
  have hsize := h.size
  have htoNat := toNat_effectiveAlignment hw alignment
  by_cases hzero : alignment.toNat = 0
  · rw [if_pos hzero] at htoNat
    omega
  · rw [if_neg hzero] at htoNat
    omega

/-- The virtual address is as far from a multiple of the alignment as the physical
one.  An `mmap` starts at the physical address itself, which then has to be a
multiple. -/
def DisplacedAlike (alignment : Nat) (g : BackendGrant w) : Prop :=
  match g.virtualAddress with
  | some v => v.toNat % alignment = g.physicalAddress.toNat % alignment
  | none => g.physicalAddress.toNat % alignment = 0

/-- **The CPU and the device see the same bytes** exactly when the virtual address
is displaced by as much as the physical one. -/
theorem same_bytes_iff (hw : 0 < w) {config : BuildConfig} {allocator : Allocator w}
    (hdisplaces : allocator.Displaces) {size alignment : BitVec w} {heapIdMask left : BitVec 32}
    {ambient : Ambient} {allocErrorNonNull : Bool} {t : List (KEvent w)} {b b' : DmaBuffer w}
    (halloc : Runs (imxDmaBufferAllocate config allocator size alignment heapIdMask ambient
      allocErrorNonNull) t (.done (some b, left)))
    {G : (bufferMachine w).Guard} {h : List (CallRecord w)} {flags : BitVec 32}
    {errorNonNull : Bool} {t' : List (KEvent w)} {ptr : BitVec w}
    (hs : (bufferMachine w).Steps G (some b) (h ++ [mapReturned flags errorNonNull t' ptr])
      (some b'))
    (hne : ptr ≠ 0) {g : BackendGrant w} (hg : g ∈ backendGrants t)
    (hwraps : NoSumWraps size alignment g) {translate : BitVec w → BitVec w}
    (hmemory : TranslatesMemory translate g
      (historyEvents (h ++ [mapReturned flags errorNonNull t' ptr])) ptr) :
    Backs translate ptr (imxDmaBufferGetPhysicalAddress b') (imxDmaBufferGetSize b').toNat ↔
      DisplacedAlike (effectiveAlignment alignment).toNat g := by
  have hpos := effectiveAlignment_pos hw alignment
  have hone := allocate_size_pos hw halloc
  obtain ⟨hfresh, -, hb⟩ := allocate_fresh halloc
  obtain ⟨g', hgrants, hplaced⟩ := allocate_placed hdisplaces halloc
  rw [hgrants] at hg
  obtain rfl := List.mem_singleton.mp hg
  have hdisplaced : imxDmaBufferGetPhysicalAddress b = g.physicalAddress +
      BitVec.ofNat w (displacement g.physicalAddress (effectiveAlignment alignment)) := by
    rw [hplaced.physical, alignValTo, roundUp_eq_add_ofNat hpos hwraps.physical]
  have hsmall : ∀ x : BitVec w, displacement x (effectiveAlignment alignment) < 2 ^ w := fun x =>
    Nat.lt_trans (displacement_lt x hpos) (effectiveAlignment alignment).isLt
  unfold DisplacedAlike
  cases hvirtual : g.virtualAddress with
  | some v =>
      have hpxp : ¬ allocator.IsPxp := fun hpxp => by
        rw [(hplaced.unpadded hpxp).2] at hvirtual
        cases hvirtual
      have haddress := hplaced.virtual
      rw [hvirtual, Option.map_some] at haddress
      have hnone : b.mappedVirtualAddress = none := mappedVirtualAddress_of_aligned haddress
      obtain ⟨p, s, hview⟩ := view_alwaysMapped hnone
      obtain ⟨hphysical, hsize, hptr⟩ := pointer_alwaysMapped hview hs
      rw [view_physicalAddress, view_physicalAddress] at hphysical
      rw [view_size, view_size] at hsize
      have hptr' : ptr = v + BitVec.ofNat w (displacement v (effectiveAlignment alignment)) := by
        have hp := alignedVirtualAddress_of_always hview
        rw [haddress] at hp
        rw [hptr, ← Option.some.inj hp, alignValTo,
          roundUp_eq_add_ofNat hpos (hwraps.virtual v hvirtual)]
      have hcovers := displacement_add_size_le hw v (hwraps.padded hw)
      rw [← hplaced.padded hpxp] at hcovers
      rw [hptr', hphysical, hdisplaced, hsize, hb]
      rw [backs_displaced_iff (hmemory.granted v hvirtual) hone hcovers (hsmall v) (hsmall _)]
      exact displacement_eq_iff hpos
  | none =>
      obtain ⟨p, s, hview, hlength, hoffset⟩ := hplaced.mapped hvirtual
      obtain ⟨hphysical, hsize, prot, mapped, hptr, hmem⟩ := pointer_mmapBacked hfresh hview hs hne
      rw [view_physicalAddress, view_physicalAddress] at hphysical
      rw [view_size, view_size] at hsize
      have hbacks := hmemory.mapped _ _ _ _ _ hptr.symm hmem
      rw [hlength, hoffset] at hbacks
      have hzero : ptr = ptr + BitVec.ofNat w 0 := by simp
      rw [hzero, hphysical, hdisplaced, hsize, hb]
      rw [backs_displaced_iff hbacks hone (Nat.le_of_eq (Nat.zero_add _)) (Nat.two_pow_pos w)
        (hsmall _)]
      exact eq_comm.trans (displacement_eq_zero_iff hpos)

/-- A G2D buffer whose two addresses are equally far from a multiple of 16 shows the
CPU the bytes that the device uses. -/
theorem aligned_g2d_same_bytes :
    Backs (shift (0x70000008 : BitVec 64) 0x80000008) 0x70000010 0x80000010 4096 := by
  have hdisplaces : (Allocator.g2d : Allocator 64).Displaces := trivial
  have halloc : Runs (imxDmaBufferAllocate recentKernelConfig .g2d 4096 16 0 cleanAmbient true)
      [⟨.g2dAlloc 4112 false, some ⟨0x70000008, 0x80000008⟩⟩]
      (.done (some alignedG2dBuffer, 0)) := .call _ (.ret _)
  have hmap : (bufferMachine 64).Steps (fun _ _ _ => True) (some alignedG2dBuffer)
      ([] ++ [mapReturned 1 true [] 0x70000010]) _ := .single trivial (.ret _)
  refine (same_bytes_iff (by decide) hdisplaces halloc hmap (by decide)
    (List.mem_singleton.mpr rfl) ?_ ?_).mpr ?_
  · refine ⟨by decide, by decide, fun v hv => ?_⟩
    obtain rfl := Option.some.inj hv
    decide
  · refine ⟨fun v hv => ?_, fun _ _ _ _ _ _ hmem => by cases hmem⟩
    obtain rfl := Option.some.inj hv
    exact backs_shift _ _ _
  · show 0x70000008 % 16 = 0x80000008 % 16
    decide

/-- An IPU buffer of 4096 bytes with an alignment of 8192, in memory that is not
aligned: unmapped, or mapped once. -/
def displacedIpuBuffer (mappedVirtualAddress : BitVec 64) (mapFlags : BitVec 32)
    (mappingRefcount : Int) : DmaBuffer 64 :=
  .ipu ipuDevice {
    mappedVirtualAddress := mappedVirtualAddress
    mapFlags := mapFlags
    mappingRefcount := mappingRefcount
    physicalAddress := 0x80001000
    actualSize := 12288
    size := 4096
    alignedPhysicalAddress := 0x80002000
    physicalAddress_ne_zero := by decide }

/-- The bytes behind the pointer of such a buffer are not those that the device
uses. -/
theorem displaced_ipu_other_bytes :
    Runs (imxDmaBufferAllocate recentKernelConfig (.ipu ipuDevice) 4096 8192 0 cleanAmbient true)
      [⟨.ipuAlloc 5 12288, .ok 0x80001000⟩] (.done (some (displacedIpuBuffer 0 0 0), 0)) ∧
    Runs (bufferStep (some (displacedIpuBuffer 0 0 0)) (.map 3 true))
      [⟨.mmap 4096 3 5 0x80001000, .ok ⟨0x10000, by decide⟩⟩]
      (.done (some 0x10000, some (displacedIpuBuffer 0x10000 3 1))) ∧
    Backs (shift (0x10000 : BitVec 64) 0x80001000) 0x10000 0x80001000 4096 ∧
    ¬ Backs (shift (0x10000 : BitVec 64) 0x80001000) 0x10000
      (imxDmaBufferGetPhysicalAddress (displacedIpuBuffer 0x10000 3 1))
      (imxDmaBufferGetSize (displacedIpuBuffer 0x10000 3 1)).toNat := by
  refine ⟨.call _ (.ret _), .call _ (.ret _), backs_shift _ _ _, ?_⟩
  intro hbacks
  exact absurd (hbacks.unique (backs_shift _ _ _) (by decide)) (by decide)

end ImxDmaBuffer
