import ImxDmaBuffer.BufferSteps

/-!
# What the calls on a buffer promise

One contract lemma for each function: which calls it issues, what it asserts, and
where the count of outstanding maps has to fit an `int`.  The contract is any; an
assertion, or room for the count, is asked for only where the contract does not let
the program stop.  So the same lemma says which calls a buffer issues, that a call
fails no assertion, and that its count does not overflow.
-/

namespace ImxDmaBuffer

open CallProgram

variable {w : Nat}

/-- The calls by which buffers are mapped and synced. -/
def Call.isMapping : Call w → Bool
  | .mmap _ _ _ _ => true
  | .munmap _ _ => true
  | .dmaBufIoctlPhys _ => true
  | .storeError _ => true
  | .syncSessionStarts _ => true
  | .syncSessionStops _ => true
  | _ => false

/-- What a buffer issues: mapping calls, and the release of its memory. -/
def IssuesMapping (K : Contract (kernel w)) (release : Call w) : Prop :=
  ∀ call : Call w, call.isMapping = true ∨ call = release → K.issues call

/-- The value fits an `int`. -/
def FitsInt (n : Int) : Prop := INT_MIN ≤ n ∧ n ≤ INT_MAX

namespace MmapParams

/-- What a call on an mmap-based buffer asserts. -/
def Asserts (p : MmapParams w) (s : SyncState w) : BufferCall → Prop
  | .map flags _ => p.mapAsserts = true ∧
      (s.mappedVirtualAddress ≠ 0 → Compatible s.mapFlags (p.normalise flags))
  | .unmap => p.unmapAsserts = true
  | .startSyncSession => True
  | .stopSyncSession => p.isCached = true → s.mappedVirtualAddress ≠ 0
  | .deallocate => p.deallocateAsserts = true ∧
      (s.mappedVirtualAddress ≠ 0 → p.unmapAsserts = true)

/-- The count of outstanding maps fits after the call. -/
def CountFits (p : MmapParams w) (s : SyncState w) : BufferCall → Prop
  | .map flags _ => s.mappedVirtualAddress ≠ 0 → Compatible s.mapFlags (p.normalise flags) →
      FitsInt (s.mappingRefcount + 1)
  | .unmap => s.mappedVirtualAddress ≠ 0 → FitsInt (s.mappingRefcount - 1)
  | _ => True

variable {p : MmapParams w} {s : SyncState w} {K : Contract (kernel w)}

section Functions

variable (hissues : IssuesMapping K p.release)
include hissues

theorem startImpl_meets : (p.startImpl s).Meets K fun _ => True := by
  unfold startImpl
  refine .call_bind (hissues _ (Or.inl rfl)) (fun _ _ => .ite (fun _ => ?_) (fun _ => trivial))
  exact .call_bind (hissues _ (Or.inl rfl)) (fun _ _ => trivial)

theorem stopImpl_meets : (p.stopImpl s).Meets K fun _ => True := by
  unfold stopImpl
  refine .call_bind (hissues _ (Or.inl rfl)) (fun _ _ => .ite (fun _ => ?_) (fun _ => trivial))
  exact .call_bind (hissues _ (Or.inl rfl)) (fun _ _ => trivial)

/-- Stopping a session that was started explicitly. -/
theorem stopExplicit_meets
    (hmapped : ¬ s.mappedVirtualAddress ≠ 0 → K.mayStop Fault.assertionFailed) :
    (p.stopExplicit s).Meets K fun _ => True := by
  unfold stopExplicit
  refine .require_bind_unless hmapped (fun _ => .ite (fun _ => trivial) (fun _ => ?_))
  exact .ite (fun _ => trivial) (fun _ => stopImpl_meets hissues)

/-- Maps. -/
theorem map_meets {flags : BitVec 32} {errorNonNull : Bool}
    (hasserts : ¬ p.Asserts s (.map flags errorNonNull) → K.mayStop Fault.assertionFailed)
    (hcount : ¬ p.CountFits s (.map flags errorNonNull) → K.mayStop Fault.undefinedBehaviour) :
    (p.map s flags errorNonNull).Meets K fun _ => True := by
  unfold map MapState.redundantMap MapState.freshMap
  refine .require_bind_unless (fun hno => hasserts fun h => hno h.1) (fun _ => ?_)
  refine .ite (fun hmapped => ?_) (fun _ => ?_)
  · refine Prog.Meets.bind (Q := fun _ => True) ?_ (fun _ _ => trivial)
    refine .require_bind_unless (fun hno => hasserts fun h => hno (h.2 hmapped)) ?_
    intro hcompatible
    exact (intResult_meets fun hno => hcount fun h => hno (h hmapped hcompatible)).bind
      (fun _ _ => trivial)
  · refine Prog.Meets.bind (Q := fun _ => True) ?_ (fun r _ => ?_)
    · refine .call_bind (hissues _ (Or.inl rfl)) (fun answer _ => ?_)
      cases answer with
      | error errno => exact storeError_return_meets (hissues _ (Or.inl rfl)) trivial
      | ok mapped => trivial
    · refine Prog.Meets.bind (Q := fun _ => True) ?_ (fun _ _ => trivial)
      exact .ite (fun _ => startImpl_meets hissues) (fun _ => trivial)

/-- Unmaps. -/
theorem unmap_meets (hasserts : ¬ p.unmapAsserts = true → K.mayStop Fault.assertionFailed)
    (hcount : ¬ p.CountFits s .unmap → K.mayStop Fault.undefinedBehaviour) :
    (p.unmap s).Meets K fun _ => True := by
  unfold unmap
  refine .require_bind_unless hasserts (fun _ => .ite (fun _ => trivial) (fun hmapped => ?_))
  refine (intResult_meets fun hno => hcount fun h => hno (h hmapped)).bind (fun n _ => ?_)
  refine .ite (fun _ => trivial) (fun _ => Prog.Meets.bind (Q := fun _ => True) ?_ (fun r _ => ?_))
  · exact .ite (fun _ => stopImpl_meets hissues) (fun _ => trivial)
  · exact .call_bind (hissues _ (Or.inl rfl)) (fun _ _ => trivial)

/-- Deallocations. The unmap finds the count 1. -/
theorem deallocate_meets
    (hasserts : ¬ p.Asserts s .deallocate → K.mayStop Fault.assertionFailed) :
    (p.deallocate s).Meets K fun _ => True := by
  have hrelease : (perform (S := kernel w) p.release >>= fun _ => pure ()).Meets K fun _ => True :=
    .call_bind (hissues _ (Or.inr rfl)) (fun _ _ => trivial)
  have hone : FitsInt (1 - 1) := by unfold FitsInt; decide
  unfold deallocate
  refine .require_bind_unless (fun hno => hasserts fun h => hno h.1) (fun _ => ?_)
  refine .ite (fun hmapped => ?_) (fun _ => hrelease)
  refine (stopExplicit_meets hissues fun hno => absurd hmapped hno).bind (fun r _ => ?_)
  refine (unmap_meets hissues ?_ ?_).bind (fun _ _ => hrelease)
  · exact fun hno => hasserts fun h => hno (h.2 hmapped)
  · exact fun hno => absurd (fun _ => hone) hno

/-- **One call** on an mmap-based buffer. -/
theorem step_meets {op : BufferCall}
    (hasserts : ¬ p.Asserts s op → K.mayStop Fault.assertionFailed)
    (hcount : ¬ p.CountFits s op → K.mayStop Fault.undefinedBehaviour) :
    (p.step (some s) op).Meets K fun _ => True := by
  cases op with
  | map flags errorNonNull => exact .map (map_meets hissues hasserts hcount)
  | unmap => exact .map (unmap_meets hissues hasserts hcount)
  | startSyncSession => exact .map (.ite (fun _ => startImpl_meets hissues) (fun _ => trivial))
  | stopSyncSession =>
      refine .map (.ite (fun hcached => stopExplicit_meets hissues ?_) (fun _ => trivial))
      exact fun hno => hasserts fun h => hno (h hcached)
  | deallocate => exact .map (deallocate_meets hissues hasserts)

end Functions

end MmapParams

namespace AlwaysParams

/-- What a call on an always mapped buffer asserts. -/
def Asserts (p : AlwaysParams w) (c : CountState) : BufferCall → Prop
  | .map flags _ => 0 < c.mappingRefcount → Compatible c.mapFlags (normaliseZero flags)
  | .deallocate => p.deallocateAsserts = true
  | _ => True

/-- The count of outstanding maps fits after the call. -/
def CountFits (c : CountState) : BufferCall → Prop
  | .map flags _ => 0 < c.mappingRefcount → Compatible c.mapFlags (normaliseZero flags) →
      FitsInt (c.mappingRefcount + 1)
  | .unmap => 0 < c.mappingRefcount → FitsInt (c.mappingRefcount - 1)
  | _ => True

/-- **One call** on an always mapped buffer. -/
theorem step_meets {p : AlwaysParams w} {c : CountState} {K : Contract (kernel w)} {op : BufferCall}
    (hissues : IssuesMapping K p.release)
    (hasserts : ¬ p.Asserts c op → K.mayStop Fault.assertionFailed)
    (hcount : ¬ CountFits c op → K.mayStop Fault.undefinedBehaviour) :
    (p.step (some c) op).Meets K fun _ => True := by
  cases op with
  | map flags errorNonNull =>
      refine .map ?_
      unfold CountState.map
      refine .ite (fun hmapped => ?_) (fun _ => trivial)
      refine .require_bind_unless (fun hno => hasserts fun h => hno (h hmapped)) ?_
      intro hcompatible
      exact (intResult_meets fun hno => hcount fun h => hno (h hmapped hcompatible)).bind
        (fun _ _ => trivial)
  | unmap =>
      refine .map ?_
      unfold CountState.unmap
      refine .ite (fun hmapped => ?_) (fun _ => trivial)
      exact (intResult_meets fun hno => hcount fun h => hno (h hmapped)).bind (fun _ _ => trivial)
  | startSyncSession => trivial
  | stopSyncSession => trivial
  | deallocate =>
      exact .require_bind_unless hasserts (fun _ => .call_bind (hissues _ (Or.inr rfl))
        (fun _ _ => trivial))

end AlwaysParams

end ImxDmaBuffer
