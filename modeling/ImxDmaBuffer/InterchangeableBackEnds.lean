import ImxDmaBuffer.Library.TraceRenaming
import ImxDmaBuffer.AcceptedValues
import ImxDmaBuffer.UncachedHeaps

/-!
# The back ends are interchangeable

A client notices how its address space and its error variable change, and that the memory
of a buffer is given back (`noticed`); it does not notice which descriptor is mapped at
which offset, which call releases the memory, or that a cache is synced.  To such a client
all buffers of one size that are mapped with `mmap` are alike, whether they come from a
cached or an uncached dma-heap, from ION, the IPU or the PxP, and so are the DWL and G2D
buffers at one address: the same calls return the same, fail the same and stop at the same
assertions (`back_ends_interchangeable`).

Two comparisons lead there.  A buffer is like the one without caching, which is `Erases`;
and two buffers without caching only name their calls differently, which is `Renames`.
-/

namespace ImxDmaBuffer

open CallProgram

variable {w : Nat}

/-- What a client notices of the library's calls. -/
inductive ClientEvent (w : Nat) where
  | mapped (length : BitVec w) (prot : BitVec 32) (answer : Except Errno (MappedAddress w))
  | unmapped (address length : BitVec w)
  | released
  | stored (code : Int)

/-- What a client notices of a call, if anything. -/
def noticed : KEvent w → Option (ClientEvent w)
  | ⟨.mmap length prot _ _, answer⟩ => some (.mapped length prot answer)
  | ⟨.munmap address length, _⟩ => some (.unmapped address length)
  | ⟨.close _, _⟩ => some .released
  | ⟨.ipuFree _ _, _⟩ => some .released
  | ⟨.pxpIocPutPhymem _ _, _⟩ => some .released
  | ⟨.dwlFreeLinear _ _, _⟩ => some .released
  | ⟨.g2dFree _, _⟩ => some .released
  | ⟨.storeError code, _⟩ => some (.stored code)
  | _ => none

/-- The flags say which access is asked for. -/
def NamesAccess (flags : BitVec 32) : Prop := reads flags = true ∨ writes flags = true

/-- The client starts and stops sessions only while the buffer is mapped, and says with
each map which access it asks for. -/
def NamedAccessClient : (bufferMachine w).Guard := fun c op t =>
  SessionsWhileMapped c op t ∧ ∀ flags errorNonNull, op = .map flags errorNonNull → NamesAccess flags

/-- The same client of a modelled buffer. -/
def NamedModelClient : (modelMachine w).Guard := fun (c : Option (BufferModel w)) op _ =>
  (op = .startSyncSession ∨ op = .stopSyncSession → ∃ m, c = some m ∧ m.mapping.IsMapped) ∧
    ∀ flags errorNonNull, op = .map flags errorNonNull → NamesAccess flags

/-- The call gives memory back, whatever it answers. -/
structure GivesBack (release : Call w) : Prop where
  notices : ∀ answer, noticed ⟨release, answer⟩ = some .released
  answer : Nonempty ((kernel w).Answer release)

/-- What the mmap-based back ends have in common. -/
structure MmapParams.Ordinary (p : MmapParams w) : Prop where
  mapAsserts : p.mapAsserts = true
  unmapAsserts : p.unmapAsserts = true
  deallocateAsserts : p.deallocateAsserts = true
  named : ∀ flags, NamesAccess flags → p.normalise flags = flags
  givesBack : GivesBack p.release
  releaseSync : p.release.isSync = false

/-- What the always mapped back ends have in common. -/
structure AlwaysParams.Ordinary (p : AlwaysParams w) : Prop where
  deallocateAsserts : p.deallocateAsserts = true
  givesBack : GivesBack p.release

section Renaming

/-- Every normalisation leaves flags alone that name an access. -/
theorem named_readwriteAbsent {flags : BitVec 32} (h : NamesAccess flags) :
    normaliseReadwriteAbsent flags = flags := by
  refine if_neg (fun hnone => ?_)
  obtain ⟨hread, hwrite⟩ := (and_mask_eq_zero_iff flags).mp hnone
  rcases h with h | h
  · rw [hread] at h
    cases h
  · rw [hwrite] at h
    cases h

theorem named_zero {flags : BitVec 32} (h : NamesAccess flags) : normaliseZero flags = flags := by
  refine if_neg (fun hzero => ?_)
  subst hzero
  unfold NamesAccess at h
  revert h
  decide

/-- Two mapped buffers in the same mapping state have the same fields. -/
theorem MapState.Same.eq_of_mapped {s s' : MapState w} (h : s.Same s')
    (hmapped : s.mappedVirtualAddress ≠ 0) : s = s' := by
  have hflags := h.flags hmapped
  obtain ⟨haddress, hrefcount, -⟩ := h
  cases s
  cases s'
  subst haddress
  subst hrefcount
  subst hflags
  rfl

theorem MapState.Same.refl (s : MapState w) : s.Same s := ⟨rfl, rfl, fun _ => rfl⟩

/-- Mapping through another descriptor, at another offset. -/
theorem MapState.map_renames {s s' : MapState w} {args args' : MmapArgs w} {flags : BitVec 32}
    {errorNonNull : Bool} (h : s.Same s') (hlength : args.length = args'.length) :
    Renames noticed MapState.Same (s.map args flags errorNonNull)
      (s'.map args' flags errorNonNull) := by
  unfold MapState.map
  rw [← h.address]
  by_cases hmapped : s.mappedVirtualAddress = 0
  · simp only [hmapped, ne_eq, not_true_eq_false, if_false]
    unfold freshMap
    rw [← hlength]
    refine .call_bind (Equiv.refl _) (fun _ => rfl) (fun answer => ?_)
    cases answer with
    | error errno =>
        refine (Renames.same (R := Eq) (fun _ => rfl) (storeError errorNonNull errno.code)).bind ?_
        exact fun _ _ _ => .ret ⟨h.address, h.refcount, fun _ => rfl⟩
    | ok mapped => exact .ret ⟨rfl, rfl, fun _ => rfl⟩
  · simp only [ne_eq, hmapped, not_false_eq_true, if_true]
    rw [← h.eq_of_mapped hmapped]
    exact .same .refl _

/-- Unmapping does not depend on the back end. -/
theorem MapState.unmap_renames {s s' : MapState w} {length : BitVec w} (h : s.Same s') :
    Renames noticed MapState.Same (s.unmap length) (s'.unmap length) := by
  by_cases hmapped : s.mappedVirtualAddress = 0
  · have hmapped' : s'.mappedVirtualAddress = 0 := h.address ▸ hmapped
    unfold MapState.unmap
    rw [if_pos hmapped, if_pos hmapped']
    exact .ret h
  · rw [← h.eq_of_mapped hmapped]
    exact .same .refl _

/-- Giving memory back by other calls. -/
theorem release_renames {α β : Type} {R : α → β → Prop} {release release' : Call w}
    (h : GivesBack release) (h' : GivesBack release') {a : α} {b : β} (hR : R a b) :
    Renames noticed R (perform (S := kernel w) release >>= fun _ => pure a)
      (perform (S := kernel w) release' >>= fun _ => pure b) :=
  .blind_bind h.notices h'.notices h.answer h'.answer (fun _ _ => .ret hR)

/-- The same mapping, without any session. -/
structure SyncState.SameUnsynced (s s' : SyncState w) : Prop where
  mapState : s.toMapState.Same s'.toMapState
  notStarted : s.syncStarted = false
  notStarted' : s'.syncStarted = false

namespace MmapParams

variable {p p' : MmapParams w} {s s' : SyncState w}

/-- Maps without caching. -/
theorem map_renames {flags : BitVec 32} {errorNonNull : Bool} (hp : p.Ordinary) (hp' : p'.Ordinary)
    (hlength : p.args.length = p'.args.length) (h : s.SameUnsynced s') (hnamed : NamesAccess flags) :
    Renames noticed (fun x y => x.1 = y.1 ∧ x.2.SameUnsynced y.2)
      (p.uncached.map s flags errorNonNull) (p'.uncached.map s' flags errorNonNull) := by
  rw [map_uncached rfl, map_uncached rfl]
  refine .require_bind (iff_of_true hp.mapAsserts hp'.mapAsserts) (fun _ => ?_)
  have hflags : p.uncached.normalise flags = p'.uncached.normalise flags :=
    (hp.named flags hnamed).trans (hp'.named flags hnamed).symm
  rw [hflags]
  refine (MapState.map_renames h.mapState hlength).bind (fun r r' hr => ?_)
  exact .ret ⟨hr.address, hr, h.notStarted, h.notStarted'⟩

/-- Unmaps without caching. -/
theorem unmap_renames (hp : p.Ordinary) (hp' : p'.Ordinary)
    (hlength : p.args.length = p'.args.length) (h : s.SameUnsynced s') :
    Renames noticed SyncState.SameUnsynced (p.uncached.unmap s) (p'.uncached.unmap s') := by
  rw [unmap_uncached rfl, unmap_uncached rfl]
  refine .require_bind (iff_of_true hp.unmapAsserts hp'.unmapAsserts) (fun _ => ?_)
  have hargs : p.uncached.args.length = p'.uncached.args.length := hlength
  rw [hargs]
  refine (MapState.unmap_renames h.mapState).bind (fun r r' hr => ?_)
  exact .ret ⟨hr, h.notStarted, h.notStarted'⟩

/-- Deallocations without caching. -/
theorem deallocate_renames (hp : p.Ordinary) (hp' : p'.Ordinary)
    (hlength : p.args.length = p'.args.length) (h : s.SameUnsynced s') :
    Renames noticed Eq (p.uncached.deallocate s) (p'.uncached.deallocate s') := by
  rw [deallocate_of_not_started h.notStarted, deallocate_of_not_started h.notStarted']
  refine .require_bind (iff_of_true hp.deallocateAsserts hp'.deallocateAsserts) (fun _ => ?_)
  have hrelease := release_renames hp.givesBack hp'.givesBack (rfl : () = ())
  by_cases hmapped : s.mappedVirtualAddress = 0
  · have hmapped' : s'.mappedVirtualAddress = 0 := h.mapState.address ▸ hmapped
    simp only [hmapped, hmapped', ne_eq, not_true_eq_false, if_false]
    exact hrelease
  · have hmapped' : ¬ s'.mappedVirtualAddress = 0 := h.mapState.address ▸ hmapped
    simp only [ne_eq, hmapped, hmapped', not_false_eq_true, if_true]
    have hforced : SyncState.SameUnsynced { s with mappingRefcount := 1 }
        { s' with mappingRefcount := 1 } :=
      ⟨⟨h.mapState.address, rfl, h.mapState.flags⟩, h.notStarted, h.notStarted'⟩
    exact (unmap_renames hp hp' hlength hforced).bind (fun _ _ _ => hrelease)

/-- **One call** without caching. -/
theorem step_renames (hp : p.Ordinary) (hp' : p'.Ordinary)
    (hlength : p.args.length = p'.args.length) {op : BufferCall} (h : s.SameUnsynced s')
    (hnamed : ∀ flags errorNonNull, op = .map flags errorNonNull → NamesAccess flags) :
    Renames noticed (fun x y => x.1 = y.1 ∧ Option.Rel SyncState.SameUnsynced x.2 y.2)
      (p.uncached.step (some s) op) (p'.uncached.step (some s') op) := by
  cases op with
  | map flags errorNonNull =>
      refine (map_renames hp hp' hlength h (hnamed _ _ rfl)).map ?_
      exact fun _ _ hxy => ⟨congrArg some hxy.1, .some hxy.2⟩
  | unmap =>
      exact (unmap_renames hp hp' hlength h).map (fun _ _ hxy => ⟨rfl, .some hxy⟩)
  | startSyncSession => exact .ret ⟨rfl, .some h⟩
  | stopSyncSession => exact .ret ⟨rfl, .some h⟩
  | deallocate => exact (deallocate_renames hp hp' hlength h).map (fun _ _ _ => ⟨rfl, .none⟩)

end MmapParams

/-- The same count. The flags of a buffer that is not mapped do not matter. -/
structure CountState.Same (s s' : CountState) : Prop where
  refcount : s.mappingRefcount = s'.mappingRefcount
  flags : 0 < s.mappingRefcount → s.mapFlags = s'.mapFlags

theorem CountState.Same.eq_of_mapped {s s' : CountState} (h : s.Same s')
    (hmapped : 0 < s.mappingRefcount) : s = s' := by
  have hflags := h.flags hmapped
  obtain ⟨hrefcount, -⟩ := h
  cases s
  cases s'
  subst hrefcount
  subst hflags
  rfl

theorem CountState.Same.refl (s : CountState) : s.Same s := ⟨rfl, fun _ => rfl⟩

/-- Maps of always mapped buffers. -/
theorem CountState.map_renames {s s' : CountState} {flags : BitVec 32} (h : s.Same s') :
    Renames (noticed (w := w)) CountState.Same (s.map flags) (s'.map flags) := by
  by_cases hmapped : 0 < s.mappingRefcount
  · rw [← h.eq_of_mapped hmapped]
    exact .same .refl _
  · have hmapped' : ¬ 0 < s'.mappingRefcount := h.refcount ▸ hmapped
    unfold CountState.map
    rw [if_neg hmapped, if_neg hmapped']
    exact .ret (.refl _)

/-- Unmaps of always mapped buffers. -/
theorem CountState.unmap_renames {s s' : CountState} (h : s.Same s') :
    Renames (noticed (w := w)) CountState.Same s.unmap s'.unmap := by
  by_cases hmapped : 0 < s.mappingRefcount
  · rw [← h.eq_of_mapped hmapped]
    exact .same .refl _
  · have hmapped' : ¬ 0 < s'.mappingRefcount := h.refcount ▸ hmapped
    unfold CountState.unmap
    rw [if_neg hmapped, if_neg hmapped']
    exact .ret h

/-- **One call** on an always mapped buffer. -/
theorem AlwaysParams.step_renames {p p' : AlwaysParams w} (hp : p.Ordinary) (hp' : p'.Ordinary)
    (haddress : p.virtualAddress = p'.virtualAddress) {s s' : CountState} (h : s.Same s')
    {op : BufferCall} :
    Renames noticed (fun x y => x.1 = y.1 ∧ Option.Rel CountState.Same x.2 y.2)
      (p.step (some s) op) (p'.step (some s') op) := by
  cases op with
  | map flags errorNonNull =>
      exact (CountState.map_renames h).map (fun _ _ hxy => ⟨congrArg some haddress, .some hxy⟩)
  | unmap => exact (CountState.unmap_renames h).map (fun _ _ hxy => ⟨rfl, .some hxy⟩)
  | startSyncSession => exact .ret ⟨rfl, .some h⟩
  | stopSyncSession => exact .ret ⟨rfl, .some h⟩
  | deallocate =>
      refine .require_bind (iff_of_true hp.deallocateAsserts hp'.deallocateAsserts) (fun _ => ?_)
      exact release_renames hp.givesBack hp'.givesBack ⟨rfl, .none⟩

end Renaming

section Models

/-- The second model is the first one, were its memory not cached. -/
inductive BufferModel.SameButSync : BufferModel w → BufferModel w → Prop
  | mmapBacked {m : BufferModel w} {p : MmapParams w} {s s' : SyncState w}
      (hrelease : p.release.isSync = false) (h : s.SameButSync s') :
      SameButSync (m.mmapBacked p s) (m.mmapBacked p.uncached s')

/-- The two models name their calls differently. -/
inductive BufferModel.Renamed : BufferModel w → BufferModel w → Prop
  | mmapBacked {m m' : BufferModel w} {p p' : MmapParams w} {s s' : SyncState w}
      (hp : p.Ordinary) (hp' : p'.Ordinary) (hlength : p.args.length = p'.args.length)
      (h : s.SameUnsynced s') :
      Renamed (m.mmapBacked p.uncached s) (m'.mmapBacked p'.uncached s')
  | alwaysMapped {m m' : BufferModel w} {p p' : AlwaysParams w} {s s' : CountState}
      (hp : p.Ordinary) (hp' : p'.Ordinary) (haddress : p.virtualAddress = p'.virtualAddress)
      (h : s.Same s') :
      Renamed (m.alwaysMapped p s) (m'.alwaysMapped p' s')

theorem BufferModel.SameButSync.isMapped {m m' : BufferModel w} (h : m.SameButSync m') :
    m.mapping.IsMapped ↔ m'.mapping.IsMapped := by
  cases h with
  | mmapBacked _ h =>
      change _ ≠ _ ↔ _ ≠ _
      rw [h.mapState.address]

theorem BufferModel.Renamed.isMapped {m m' : BufferModel w} (h : m.Renamed m') :
    m.mapping.IsMapped ↔ m'.mapping.IsMapped := by
  cases h with
  | mmapBacked _ _ _ h =>
      change _ ≠ _ ↔ _ ≠ _
      rw [h.mapState.address]
  | alwaysMapped _ _ _ h =>
      change 0 < _ ↔ 0 < _
      rw [h.refcount]

/-- Related models are used by the same clients. -/
theorem namedModelClient_iff {R : BufferModel w → BufferModel w → Prop}
    (hmapped : ∀ {m m'}, R m m' → (m.mapping.IsMapped ↔ m'.mapping.IsMapped))
    {c c' : Option (BufferModel w)} (h : Option.Rel R c c') {op : BufferCall}
    {t t' : List (KEvent w)} : NamedModelClient c op t ↔ NamedModelClient c' op t' := by
  refine and_congr_left (fun _ => imp_congr_right (fun _ => ?_))
  cases h with
  | none => exact Iff.rfl
  | some h => simp [hmapped h]

/-- Calls on the model of a buffer are those on the model without caching, but for the
sync calls. -/
theorem model_erasure :
    (modelMachine w).Erasure Call.isSync NamedModelClient
      (Option.Rel BufferModel.SameButSync) where
  answer c hsync := by
    cases c with
    | dmaBufIoctlPhys => exact ⟨.ok 0⟩
    | syncSessionStarts => exact ⟨()⟩
    | syncSessionStops => exact ⟨()⟩
    | _ => cases hsync
  guard _ _ h := namedModelClient_iff BufferModel.SameButSync.isMapped h
  step t h hclient := by
    cases h with
    | none => exact .halt _
    | some h =>
        cases h with
        | @mmapBacked m p s s' hrelease h =>
            change Erases _ _ (modelStep ((some s).map (m.mmapBacked p)) _)
              (modelStep ((some s').map (m.mmapBacked p.uncached)) _)
            rw [modelStep_mmapBacked, modelStep_mmapBacked]
            refine (MmapParams.step_erases (t := t) hrelease (.some h) ?_).map ?_
            · intro hop
              obtain ⟨_, heq, hmapped⟩ := hclient.1 hop
              obtain rfl := Option.some.inj heq
              exact ⟨s, rfl, hmapped⟩
            · rintro ⟨ret, u⟩ ⟨ret', u'⟩ ⟨hret, hu⟩
              refine ⟨hret, ?_⟩
              cases hu with
              | none => exact .none
              | some hu => exact .some (.mmapBacked hrelease hu)

/-- Calls on models without caching only name the library's calls differently. -/
theorem model_renaming :
    (modelMachine w).Renaming noticed NamedModelClient (Option.Rel BufferModel.Renamed) where
  guard _ _ h := namedModelClient_iff BufferModel.Renamed.isMapped h
  step t h hclient := by
    cases h with
    | none => exact .halt _
    | some h =>
        cases h with
        | @mmapBacked m m' p p' s s' hp hp' hlength h =>
            change Renames _ _ (modelStep ((some s).map (m.mmapBacked p.uncached)) _)
              (modelStep ((some s').map (m'.mmapBacked p'.uncached)) _)
            rw [modelStep_mmapBacked, modelStep_mmapBacked]
            refine (MmapParams.step_renames hp hp' hlength h hclient.2).map ?_
            rintro ⟨ret, u⟩ ⟨ret', u'⟩ ⟨hret, hu⟩
            refine ⟨hret, ?_⟩
            cases hu with
            | none => exact .none
            | some hu => exact .some (.mmapBacked hp hp' hlength hu)
        | @alwaysMapped m m' p p' s s' hp hp' haddress h =>
            change Renames _ _ (modelStep ((some s).map (m.alwaysMapped p)) _)
              (modelStep ((some s').map (m'.alwaysMapped p')) _)
            rw [modelStep_alwaysMapped, modelStep_alwaysMapped]
            refine (AlwaysParams.step_renames hp hp' haddress h).map ?_
            rintro ⟨ret, u⟩ ⟨ret', u'⟩ ⟨hret, hu⟩
            refine ⟨hret, ?_⟩
            cases hu with
            | none => exact .none
            | some hu => exact .some (.alwaysMapped hp hp' haddress hu)

/-- A client does not notice the sync calls. -/
theorem noticed_of_isSync (e : KEvent w) (h : e.call.isSync = true) : noticed e = none := by
  obtain ⟨c, answer⟩ := e
  cases c with
  | dmaBufIoctlPhys => rfl
  | syncSessionStarts => rfl
  | syncSessionStops => rfl
  | _ => cases h

/-- A client cannot tell a model from the one without caching. -/
theorem model_uncached_obsEq {m : BufferModel w} {p : MmapParams w} {s s' : SyncState w}
    (hp : p.Ordinary) (h : s.SameButSync s') :
    (modelMachine w).ObsEq NamedModelClient (List.filterMap noticed)
      (some (m.mmapBacked p s)) (some (m.mmapBacked p.uncached s')) := by
  have herased := model_erasure.obsEq
    (.some (BufferModel.SameButSync.mmapBacked (m := m) hp.releaseSync h))
  have hlook : List.filterMap (noticed (w := w)) ∘ erase Call.isSync = List.filterMap noticed :=
    funext (filterMap_erase noticed_of_isSync)
  have hcoarse := herased.coarsen (List.filterMap noticed)
  rwa [hlook] at hcoarse

/-- A client cannot tell two mmap-based models of one length apart. -/
theorem model_mmapBacked_obsEq {m m' : BufferModel w} {p p' : MmapParams w} {s s' : SyncState w}
    (hp : p.Ordinary) (hp' : p'.Ordinary) (hlength : p.args.length = p'.args.length)
    (h : s.toMapState.Same s'.toMapState) :
    (modelMachine w).ObsEq NamedModelClient (List.filterMap noticed)
      (some (m.mmapBacked p s)) (some (m'.mmapBacked p' s')) := by
  have hs : s.SameButSync ⟨s.toMapState, false⟩ := ⟨.refl _, rfl⟩
  have hs' : s'.SameButSync ⟨s'.toMapState, false⟩ := ⟨.refl _, rfl⟩
  refine (model_uncached_obsEq hp hs).trans (.trans ?_ (model_uncached_obsEq hp' hs').symm)
  exact model_renaming.obsEq (.some (.mmapBacked hp hp' hlength ⟨h, rfl, rfl⟩))

end Models

section Buffers

/-- Two buffers of one size that are mapped alike: both by `mmap` at one address or not at
all, or both at one fixed address. -/
structure DmaBuffer.MappedAlike (b b' : DmaBuffer w) : Prop where
  size : imxDmaBufferGetSize b = imxDmaBufferGetSize b'
  mapped : b.mappedVirtualAddress = b'.mappedVirtualAddress
  aligned : b.alignedVirtualAddress = b'.alignedVirtualAddress
  refcount : b.mappingRefcount = b'.mappingRefcount
  flags : b.IsMapped → b.mapFlags = b'.mapFlags

/-- Newly allocated buffers of one size are mapped alike when both are mapped by `mmap`. -/
theorem DmaBuffer.MappedAlike.of_fresh {b b' : DmaBuffer w} {address address' : BitVec w}
    (hb : b.mappedVirtualAddress = some address) (hb' : b'.mappedVirtualAddress = some address')
    (hfresh : b.Fresh) (hfresh' : b'.Fresh)
    (hsize : imxDmaBufferGetSize b = imxDmaBufferGetSize b') : b.MappedAlike b' := by
  obtain rfl := hfresh.mappedVirtualAddress address hb
  obtain rfl := hfresh'.mappedVirtualAddress address' hb'
  obtain ⟨p, s, hview⟩ := view_mmapBacked hb
  refine ⟨hsize, hb.trans hb'.symm, ?_, ?_, fun hmapped => ?_⟩
  · have hnone : ∀ {c : DmaBuffer w}, c.mappedVirtualAddress = some 0 →
        c.alignedVirtualAddress = none := by
      intro c hc
      cases haligned : c.alignedVirtualAddress with
      | none => rfl
      | some aligned => cases hc.symm.trans (mappedVirtualAddress_of_aligned haligned)
    exact (hnone hb).trans (hnone hb').symm
  · exact hfresh.mappingRefcount.trans hfresh'.mappingRefcount.symm
  · refine absurd ?_ ((isMapped_of_view hview).mp hmapped)
    exact Option.some.inj ((mappedVirtualAddress_of_view hview).symm.trans hb)

/-- The parameters of every buffer that accepts its address are ordinary. -/
theorem ordinary_of_view {b : DmaBuffer w} {m : BufferModel w} {p : MmapParams w}
    {s : SyncState w} (hb : b.view = m.mmapBacked p s) (haddress : b.HasAddress) : p.Ordinary := by
  have hmap := mapAsserts_of_hasAddress hb haddress
  obtain ⟨hunmap, hdeallocate⟩ := assertsTogether_of_view hb hmap
  have hmapping := congrArg BufferModel.mapping hb
  cases b with
  | dmaHeap allocator buffer =>
      obtain ⟨rfl, -⟩ := Mapping.mmapBacked.inj hmapping
      exact ⟨hmap, hunmap, hdeallocate, fun _ => named_readwriteAbsent, ⟨fun _ => rfl, ⟨()⟩⟩, rfl⟩
  | ion allocator buffer =>
      obtain ⟨rfl, -⟩ := Mapping.mmapBacked.inj hmapping
      exact ⟨hmap, hunmap, hdeallocate, fun _ => named_zero, ⟨fun _ => rfl, ⟨()⟩⟩, rfl⟩
  | dwl => cases hmapping
  | ipu allocator buffer =>
      obtain ⟨rfl, -⟩ := Mapping.mmapBacked.inj hmapping
      exact ⟨hmap, hunmap, hdeallocate, fun _ _ => rfl, ⟨fun _ => rfl, ⟨()⟩⟩, rfl⟩
  | g2d => cases hmapping
  | pxp allocator buffer =>
      obtain ⟨rfl, -⟩ := Mapping.mmapBacked.inj hmapping
      exact ⟨hmap, hunmap, hdeallocate, fun _ _ => rfl, ⟨fun _ => rfl, ⟨()⟩⟩, rfl⟩

theorem ordinary_of_always {b : DmaBuffer w} {m : BufferModel w} {p : AlwaysParams w}
    {c : CountState} (hb : b.view = m.alwaysMapped p c) : p.Ordinary := by
  have hdeallocate := deallocateAsserts_of_always hb
  have hmapping := congrArg BufferModel.mapping hb
  cases b with
  | dwl allocator buffer =>
      obtain ⟨rfl, -⟩ := Mapping.alwaysMapped.inj hmapping
      exact ⟨hdeallocate, ⟨fun _ => rfl, ⟨()⟩⟩⟩
  | g2d buffer =>
      obtain ⟨rfl, -⟩ := Mapping.alwaysMapped.inj hmapping
      exact ⟨hdeallocate, ⟨fun _ => rfl, ⟨()⟩⟩⟩
  | dmaHeap => cases hmapping
  | ion => cases hmapping
  | ipu => cases hmapping
  | pxp => cases hmapping

/-- The clients of a buffer are those of its model. -/
theorem namedAccessClient_iff {c : Option (DmaBuffer w)} {op : BufferCall} {t : List (KEvent w)} :
    NamedAccessClient c op t ↔ NamedModelClient (c.map DmaBuffer.view) op t := by
  refine and_congr_left (fun _ => imp_congr_right (fun _ => ?_))
  cases c with
  | none => simp
  | some b => simp [view_isMapped]

/-- **The back ends are interchangeable.**  Take two buffers of one size, of any back ends,
that are mapped alike and accept their addresses.  A client that names the access with each
map, and starts and stops sessions only while the buffer is mapped, cannot tell them apart,
whatever the kernel answers: neither by what its calls return, nor by what they map, unmap,
release and store, nor by where they stop. -/
theorem back_ends_interchangeable {b b' : DmaBuffer w} (halike : b.MappedAlike b')
    (haddress : b.HasAddress) (haddress' : b'.HasAddress) :
    (bufferMachine w).ObsEq NamedAccessClient (List.filterMap noticed) (some b) (some b') := by
  have hclients : ∀ (s : Option (DmaBuffer w)) op t,
      NamedAccessClient s op t ↔ NamedModelClient (s.map DmaBuffer.view) op t :=
    fun _ _ _ => namedAccessClient_iff
  refine (@Machine.obsEq_view _ _ _ (bufferMachine w) NamedAccessClient (modelMachine w)
    NamedModelClient (Option.map DmaBuffer.view) _ (List.filterMap noticed) view_step hclients
    (some b) (some b')).mp ?_
  rw [Option.map_some, Option.map_some]
  cases hmapped : b.mappedVirtualAddress with
  | some address =>
      have hmapped' := halike.mapped.symm.trans hmapped
      obtain ⟨p, s, hb⟩ := view_mmapBacked hmapped
      obtain ⟨p', s', hb'⟩ := view_mmapBacked hmapped'
      have hsame : s.mappedVirtualAddress = s'.mappedVirtualAddress := by
        rw [mappedVirtualAddress_of_view hb] at hmapped
        rw [mappedVirtualAddress_of_view hb'] at hmapped'
        exact Option.some.inj (hmapped.trans hmapped'.symm)
      have hstate : s.toMapState.Same s'.toMapState := by
        refine ⟨hsame, ?_, fun hne => ?_⟩
        · rw [← mappingRefcount_of_view hb, ← mappingRefcount_of_view hb', halike.refcount]
        · rw [← mapFlags_of_view hb, ← mapFlags_of_view hb',
            halike.flags ((isMapped_of_view hb).mpr hne)]
      have hlength : p.args.length = p'.args.length := by
        rw [length_of_view hb, length_of_view hb', halike.size]
      rw [hb, hb']
      exact model_mmapBacked_obsEq (ordinary_of_view hb haddress) (ordinary_of_view hb' haddress')
        hlength hstate
  | none =>
      have hmapped' := halike.mapped.symm.trans hmapped
      obtain ⟨p, c, hb⟩ := view_alwaysMapped hmapped
      obtain ⟨p', c', hb'⟩ := view_alwaysMapped hmapped'
      have hfixed : p.virtualAddress = p'.virtualAddress := by
        have haligned := halike.aligned
        rw [alignedVirtualAddress_of_always hb, alignedVirtualAddress_of_always hb'] at haligned
        exact Option.some.inj haligned
      have hstate : c.Same c' := by
        refine ⟨?_, fun hpos => ?_⟩
        · rw [← mappingRefcount_of_always hb, ← mappingRefcount_of_always hb', halike.refcount]
        · rw [← mapFlags_of_always hb, ← mapFlags_of_always hb',
            halike.flags ((isMapped_of_always hb).mpr hpos)]
      rw [hb, hb']
      exact model_renaming.obsEq
        (.some (.alwaysMapped (ordinary_of_always hb) (ordinary_of_always hb') hfixed hstate))

/-- A newly allocated IPU buffer of the size of the cached sample buffer. -/
def plainIpuBuffer : DmaBuffer 64 :=
  .ipu ipuDevice {
    mappedVirtualAddress := 0
    mapFlags := 0
    mappingRefcount := 0
    physicalAddress := 0x90000000
    actualSize := 4096
    size := 4096
    alignedPhysicalAddress := 0x90000000
    physicalAddress_ne_zero := by decide }

/-- A buffer of the IPU and one of a cached dma-heap cannot be told apart. -/
theorem ipu_like_cached_heap :
    (bufferMachine 64).ObsEq NamedAccessClient (List.filterMap noticed) (some cachedBuffer)
      (some plainIpuBuffer) := by
  have hcached : cachedBuffer.Fresh := (allocate_fresh cachedBuffer_allocated).1
  have hplain : plainIpuBuffer.Fresh := ⟨rfl, fun _ h => (Option.some.inj h).symm, rfl⟩
  exact back_ends_interchangeable (.of_fresh rfl rfl hcached hplain rfl) trivial trivial

end Buffers

end ImxDmaBuffer
