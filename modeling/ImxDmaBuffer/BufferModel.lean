import ImxDmaBuffer.DmaBufferApi

/-!
# One model for the six kinds of buffers

What a client can do with a buffer does not depend on which allocator created
it, only on a few parameters: whether the buffer is backed by an `mmap`, which
flags normalisation and which `mmap` arguments are used, whether cache syncing
takes part, and which call gives the memory back.  `BufferModel` is a buffer in
these terms, with one map, unmap, start, stop and deallocate operation.
-/

namespace ImxDmaBuffer

open CallProgram

variable {w : Nat}

/-- What distinguishes the mmap-based buffers from each other: which of the
allocator's own assertions hold, how flags are normalised, what is mapped,
whether cache syncing takes part, and which call releases the memory. -/
structure MmapParams (w : Nat) where
  mapAsserts : Bool
  unmapAsserts : Bool
  deallocateAsserts : Bool
  normalise : BitVec 32 → BitVec 32
  args : MmapArgs w
  isCached : Bool
  release : Call w

/-- The mutable part of an mmap-based buffer. Only a cached one ever starts a
sync session. -/
structure SyncState (w : Nat) extends MapState w where
  syncStarted : Bool

namespace MmapParams

variable (p : MmapParams w)

/-- Whether mapping with these (normalised) flags comes with a sync session of
its own. -/
def autoSync (flags : BitVec 32) : Bool := p.isCached && !manualSync flags

/-- Begin a sync session. -/
def startImpl (s : SyncState w) : Code w (SyncState w) := do
  perform (S := kernel w) (.syncSessionStarts p.args.fd)
  if reads s.mapFlags then
    let _ ← perform (S := kernel w) (.dmaBufIoctlPhys p.args.fd)
  return { s with syncStarted := true }

/-- End a sync session. -/
def stopImpl (s : SyncState w) : Code w (SyncState w) := do
  perform (S := kernel w) (.syncSessionStops p.args.fd)
  if writes s.mapFlags then
    let _ ← perform (S := kernel w) (.dmaBufIoctlPhys p.args.fd)
  return { s with syncStarted := false }

/-- What mapping with `flags` adds to the `mmap`. -/
def autoStart (flags : BitVec 32) (s : SyncState w) : Code w (SyncState w) :=
  if p.autoSync flags then p.startImpl s else pure s

/-- What unmapping adds to the `munmap`. -/
def autoStop (s : SyncState w) : Code w (SyncState w) :=
  if p.autoSync s.mapFlags then p.stopImpl s else pure s

/-- Stop a session that was started explicitly. -/
def stopExplicit (s : SyncState w) : Code w (SyncState w) := do
  assertThat (s.mappedVirtualAddress ≠ 0)
  if ¬ s.syncStarted then
    return s
  if ¬ manualSync s.mapFlags then
    return s
  p.stopImpl s

/-- Map the buffer. -/
def map (s : SyncState w) (flags : BitVec 32) (errorNonNull : Bool) :
    Code w (BitVec w × SyncState w) := do
  assertThat (p.mapAsserts = true)
  if s.mappedVirtualAddress ≠ 0 then
    let mapState ← s.toMapState.redundantMap (p.normalise flags)
    return (mapState.mappedVirtualAddress, { s with toMapState := mapState })
  else
    let mapState ← s.toMapState.freshMap p.args (p.normalise flags) errorNonNull
    let s ← p.autoStart (p.normalise flags) { s with toMapState := mapState }
    return (s.mappedVirtualAddress, s)

/-- Unmap the buffer. -/
def unmap (s : SyncState w) : Code w (SyncState w) := do
  assertThat (p.unmapAsserts = true)
  if s.mappedVirtualAddress = 0 then
    return s
  let mappingRefcount ← intResult (s.mappingRefcount - 1)
  let s := { s with mappingRefcount := mappingRefcount }
  if mappingRefcount ≠ 0 then
    return s
  let s ← p.autoStop s
  perform (S := kernel w) (.munmap s.mappedVirtualAddress p.args.length)
  return { s with mappedVirtualAddress := 0 }

/-- The client asks for a session to start. -/
def start (s : SyncState w) : Code w (SyncState w) :=
  if p.isCached && !s.syncStarted && manualSync s.mapFlags then p.startImpl s else pure s

/-- The client asks for the session to stop. -/
def stop (s : SyncState w) : Code w (SyncState w) :=
  if p.isCached then p.stopExplicit s else pure s

/-- Unmap the buffer if need be, and give its memory back. -/
def deallocate (s : SyncState w) : Code w Unit := do
  assertThat (p.deallocateAsserts = true)
  if s.mappedVirtualAddress ≠ 0 then
    let s ← p.stopExplicit s
    let _ ← p.unmap { s with mappingRefcount := 1 }
  let _ ← perform (S := kernel w) p.release

end MmapParams

/-- What distinguishes the buffers that are always mapped. -/
structure AlwaysParams (w : Nat) where
  virtualAddress : BitVec w
  deallocateAsserts : Bool
  release : Call w

/-- How a buffer is mapped, with the parameters and the mutable part. -/
inductive Mapping (w : Nat) where
  | mmapBacked (p : MmapParams w) (s : SyncState w)
  | alwaysMapped (p : AlwaysParams w) (s : CountState)

/-- A buffer of any kind: what the getters report, and the mapping. -/
structure BufferModel (w : Nat) where
  size : BitVec w
  fd : Int
  physicalAddress : BitVec w
  mapping : Mapping w

namespace BufferModel

/-- `m` with another mutable part. -/
def withMapping (m : BufferModel w) (mapping : Mapping w) : BufferModel w :=
  { m with mapping := mapping }

/-- Map the buffer. -/
def map (m : BufferModel w) (flags : BitVec 32) (errorNonNull : Bool) :
    Code w (BitVec w × BufferModel w) :=
  match m.mapping with
  | .mmapBacked p s =>
      Prod.map id (fun s => m.withMapping (.mmapBacked p s)) <$> p.map s flags errorNonNull
  | .alwaysMapped p s =>
      (fun s => (p.virtualAddress, m.withMapping (.alwaysMapped p s))) <$>
        s.map (normaliseZero flags)

/-- Unmap the buffer. -/
def unmap (m : BufferModel w) : Code w (BufferModel w) :=
  match m.mapping with
  | .mmapBacked p s => (fun s => m.withMapping (.mmapBacked p s)) <$> p.unmap s
  | .alwaysMapped p s => (fun s => m.withMapping (.alwaysMapped p s)) <$> s.unmap

/-- The client asks for a session to start. -/
def start (m : BufferModel w) : Code w (BufferModel w) :=
  match m.mapping with
  | .mmapBacked p s => (fun s => m.withMapping (.mmapBacked p s)) <$> p.start s
  | .alwaysMapped _ _ => pure m

/-- The client asks for the session to stop. -/
def stop (m : BufferModel w) : Code w (BufferModel w) :=
  match m.mapping with
  | .mmapBacked p s => (fun s => m.withMapping (.mmapBacked p s)) <$> p.stop s
  | .alwaysMapped _ _ => pure m

/-- Give the buffer back. -/
def deallocate (m : BufferModel w) : Code w Unit :=
  match m.mapping with
  | .mmapBacked p s => p.deallocate s
  | .alwaysMapped p _ => do
      assertThat (p.deallocateAsserts = true)
      let _ ← perform (S := kernel w) p.release

end BufferModel

/-- Serve one call on a modelled buffer. -/
def modelStep : Option (BufferModel w) → BufferCall →
    Code w (Option (BitVec w) × Option (BufferModel w))
  | none, _ => .halt Fault.undefinedBehaviour
  | some m, .map flags errorNonNull => Prod.map some some <$> m.map flags errorNonNull
  | some m, .unmap => (fun m => (none, some m)) <$> m.unmap
  | some m, .startSyncSession => (fun m => (none, some m)) <$> m.start
  | some m, .stopSyncSession => (fun m => (none, some m)) <$> m.stop
  | some m, .deallocate => (fun _ => (none, none)) <$> m.deallocate

/-- The modelled buffer as a machine. -/
def modelMachine (w : Nat) : Machine (kernel w) BufferCall (Option (BitVec w)) where
  State := Option (BufferModel w)
  step := modelStep

end ImxDmaBuffer
