import ImxDmaBuffer.BufferLives
import ImxDmaBuffer.ResourceOwnership

/-!
# Owners share nothing

A DMA-BUF must not belong to two buffers, the mappings of two buffers must not overlap,
and no buffer's descriptor is the device of an allocator: else closing or unmapping one
takes the other's memory away.  The kernel does its part when it hands out nothing that
the library still holds, and places a mapping only where nothing is mapped.  The library
does its part by giving nothing back that it still uses, and by keeping what it was given
in one place only.

`owners_apart` says so for every history, also one in which a resource is lost.
-/

namespace ImxDmaBuffer

open CallProgram ResourceLedger

variable {w : Nat} {config : BuildConfig}

/-- Two resources that have nothing in common. Mappings are ranges of addresses. -/
def Resource.Apart : Resource w → Resource w → Prop
  | .mapping address length, .mapping address' length' =>
      address.toNat + length.toNat ≤ address'.toNat ∨ address'.toNat + length'.toNat ≤ address.toNat
  | r, r' => r ≠ r'

instance : DecidableRel (Resource.Apart (w := w)) := fun r r' => by
  unfold Resource.Apart
  split <;> infer_instance

theorem Resource.Apart.symm {r r' : Resource w} (h : r.Apart r') : r'.Apart r := by
  cases r with
  | mapping address length =>
      cases r' with
      | mapping address' length' => exact Or.symm h
      | _ => exact Ne.symm h
  | _ =>
      cases r' with
      | mapping address' length' => exact Ne.symm h
      | _ => exact Ne.symm h

/-- Who can own a resource. -/
inductive Owner where
  | allocator (i : Nat)
  | buffer (j : Nat)
  deriving DecidableEq

/-- What an owner holds: its device while the allocator is there, its memory and its
mapping while the buffer is. -/
def LibraryState.holds (L : LibraryState w) : Owner → Multiset (Resource w)
  | .allocator i => (L.allocators.map fun a => a.elim 0 Allocator.device)[i]?.getD 0
  | .buffer j => (L.buffers.map fun slot => resourcesLeft slot.buffer)[j]?.getD 0

/-- What two owners hold is held side by side. -/
theorem LibraryState.resources_two_owners {L : LibraryState w} {o o' : Owner} (hne : o ≠ o') :
    ∃ rest, L.resources = L.holds o + (L.holds o' + rest) := by
  cases o with
  | allocator i =>
      cases o' with
      | allocator i' =>
          have hii : i ≠ i' := fun h => hne (congrArg Owner.allocator h)
          obtain ⟨rest, hsum⟩ := sum_two_entries
            (L.allocators.map fun a => a.elim 0 Allocator.device) hii
          exact ⟨rest + _, by rw [resources, hsum, add_assoc, add_assoc]; rfl⟩
      | buffer j =>
          obtain ⟨rest, hsum⟩ := sum_one_entry
            (L.allocators.map fun a => a.elim 0 Allocator.device) i
          obtain ⟨rest', hsum'⟩ := sum_one_entry
            (L.buffers.map fun slot => resourcesLeft slot.buffer) j
          refine ⟨rest + rest', ?_⟩
          rw [resources, hsum, hsum', add_assoc, add_left_comm rest]
          rfl
  | buffer j =>
      cases o' with
      | allocator i =>
          obtain ⟨rest, hsum⟩ := sum_one_entry
            (L.allocators.map fun a => a.elim 0 Allocator.device) i
          obtain ⟨rest', hsum'⟩ := sum_one_entry
            (L.buffers.map fun slot => resourcesLeft slot.buffer) j
          refine ⟨rest + rest', ?_⟩
          rw [resources, hsum, hsum', add_assoc, add_left_comm rest, add_left_comm]
          rfl
      | buffer j' =>
          have hjj : j ≠ j' := fun h => hne (congrArg Owner.buffer h)
          obtain ⟨rest, hsum⟩ := sum_two_entries
            (L.buffers.map fun slot => resourcesLeft slot.buffer) hjj
          refine ⟨(L.allocators.map fun a => a.elim 0 Allocator.device).sum + rest, ?_⟩
          rw [resources, hsum, add_left_comm, add_left_comm _ _ rest]
          rfl

/-- The kernel hands out nothing in this step that the library holds, and maps nothing over
a mapping. -/
def HandsOutApart (L : LibraryState w) (_ : LibraryCall w) (t : List (KEvent w)) : Prop :=
  AcquiresApart Resource.Apart resourceEffect L.resources t

/-- One call keeps apart what the owners hold. A destruction that closes nothing only
makes the library forget a device. -/
theorem libraryStep_separate {L L' : LibraryState w} {op : LibraryCall w} {t : List (KEvent w)}
    {ret : LibraryReturn w} (hapart : HandsOutApart L op t)
    (hsep : Separate Resource.Apart L.resources)
    (h : Runs (libraryStep config L op) t (.done (ret, L'))) :
    Separate Resource.Apart L'.resources := by
  have hbelieved : AcquiresApart Resource.Apart libraryEffect L.resources t :=
    hapart.believed
      (fun _ _ hlost => ⟨resourceEffect_of_abandons hlost, libraryEffect_of_abandons hlost⟩)
      (fun _ => libraryEffect_of_none) (le_refl _)
  by_cases hcloses : DestroysClose L op
  · exact (libraryStep_turns hcloses h).separate (fun _ _ => Resource.Apart.symm) hbelieved hsep
  · simp only [DestroysClose, not_forall] at hcloses
    obtain ⟨i, a, rfl, hlive, -⟩ := hcloses
    obtain ⟨a', -, -, rfl⟩ := library_destroy_done h
    obtain ⟨rest, hsum, hleft⟩ := LibraryState.resources_liveAllocator hlive
    rw [hleft]
    apply hsep.of_le
    rw [hsum]
    exact Multiset.le_add_left rest a.device

/-- **Owners share nothing.**  While the kernel hands out nothing that is held, the
devices of the allocators, the memory of the buffers and their mappings are all apart
from each other, after every history. -/
theorem owners_apart {h : List (LibraryRecord w)} {L : LibraryState w}
    (hs : (libraryMachine w config).Steps HandsOutApart LibraryState.empty h L)
    {o o' : Owner} (hne : o ≠ o') {r r' : Resource w} (hr : r ∈ L.holds o) (hr' : r' ∈ L.holds o') :
    r.Apart r' := by
  have hsep : Separate Resource.Apart L.resources := by
    refine hs.track_history
      (R := fun _ (L : LibraryState w) => Separate Resource.Apart L.resources) ?_ ?_
    · intro _ L r L' hsep hguard hrun
      exact libraryStep_separate hguard hsep hrun
    · intro r r' hpair
      have hmem : r ∈ (0 : Multiset (Resource w)) :=
        Multiset.mem_of_le hpair (Multiset.mem_cons_self r _)
      exact absurd hmem (Multiset.notMem_zero r)
  obtain ⟨rest, hsum⟩ := LibraryState.resources_two_owners (L := L) hne
  rw [hsum] at hsep
  exact hsep.parts hr hr'

/-- A page of memory of the IPU driver, mapped at `mapped` unless that is 0. -/
def ipuPage (phys mapped : BitVec 64) (hne : phys ≠ 0) (mapFlags : BitVec 32)
    (mappingRefcount : Int) : DmaBuffer 64 :=
  .ipu ipuDevice {
    mappedVirtualAddress := mapped
    mapFlags := mapFlags
    mappingRefcount := mappingRefcount
    physicalAddress := phys
    actualSize := 4096
    size := 4096
    alignedPhysicalAddress := phys
    physicalAddress_ne_zero := hne }

theorem first_page_ne_zero : (0x80000000 : BitVec 64) ≠ 0 := by decide

theorem second_page_ne_zero : (0x80001000 : BitVec 64) ≠ 0 := by decide

theorem second_mapping_ne_null : (0x20000 : BitVec 64) ≠ 0 := by decide

/-- Two pages are allocated and mapped. -/
def ipuPages : List (LibraryRecord 64) :=
  [⟨.newIpu (-1) true, [⟨.openDevice "/dev/mxc_ipu" .rdwr, .ok 5⟩], .created (some 0)⟩,
   ⟨.allocate 0 4096 0 cleanAmbient true, [⟨.ipuAlloc 5 4096, .ok 0x80000000⟩],
     .created (some 0)⟩,
   ⟨.allocate 0 4096 0 cleanAmbient true, [⟨.ipuAlloc 5 4096, .ok 0x80001000⟩],
     .created (some 1)⟩,
   ⟨.buffer 0 (.map 3 true), [⟨.mmap 4096 3 5 0x80000000, .ok ⟨0x10000, sample_address_ne_null⟩⟩],
     .returned (some 0x10000)⟩,
   ⟨.buffer 1 (.map 3 true), [⟨.mmap 4096 3 5 0x80001000, .ok ⟨0x20000, second_mapping_ne_null⟩⟩],
     .returned (some 0x20000)⟩]

/-- The library then. -/
def ipuPagesMapped : LibraryState 64 where
  allocators := [some (.ipu ipuDevice)]
  buffers := [⟨0, some (ipuPage 0x80000000 0x10000 first_page_ne_zero 3 1)⟩,
    ⟨0, some (ipuPage 0x80001000 0x20000 second_page_ne_zero 3 1)⟩]
  heapIdMask := 0

/-- The mappings of the two pages are apart. -/
theorem ipu_pages_apart :
    (Resource.mapping (w := 64) 0x10000 4096).Apart (.mapping 0x20000 4096) := by
  have hs : (libraryMachine 64 recentKernelConfig).Steps HandsOutApart LibraryState.empty ipuPages
      ipuPagesMapped := by
    refine .cons (.acquire rfl (by decide)) (.call _ (.ret _)) ?_
    refine .cons (.acquire rfl (by decide)) (.call _ (.ret _)) ?_
    refine .cons (.acquire rfl (by decide)) (.call _ (.ret _)) ?_
    refine .cons (.acquire rfl (by decide)) (.call _ (.ret _)) ?_
    exact .single (.acquire rfl (by decide)) (.call _ (.ret _))
  have hne : Owner.buffer 0 ≠ .buffer 1 := by decide
  exact owners_apart hs hne (by decide) (by decide)

end ImxDmaBuffer
