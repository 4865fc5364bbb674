import ImxDmaBuffer.MappingFlags

/-!
# The mapping state of a buffer, and the code the allocators share

The ION, IPU and PxP allocators map and unmap a buffer with the same code; the
dma-heap allocator wraps cache syncing around it.  DWL and G2D memory is always
mapped, so these two only count.  The shared bodies are stated once here, over
the fields they use, and every allocator's own function applies them to its own
values.
-/

namespace ImxDmaBuffer

open CallProgram

variable {w : Nat}

/-- The fields of an mmap-based buffer that mapping reads and writes. The
address is 0 (`NULL`) while the buffer is not mapped. -/
structure MapState (w : Nat) where
  mappedVirtualAddress : BitVec w
  mapFlags : BitVec 32
  mappingRefcount : Int

/-- The mapping fields as `allocate` initialises them. `map_flags` is not
among the fields it sets. -/
def MapState.initial (ambient : Ambient) : MapState w where
  mappedVirtualAddress := 0
  mapFlags := ambient.mallocMapFlags
  mappingRefcount := 0

/-- What an allocator passes to `mmap` besides the protection. -/
structure MmapArgs (w : Nat) where
  length : BitVec w
  fd : Int
  offset : BitVec w

/-- The branch of the map functions for a buffer that is mapped already. -/
def MapState.redundantMap (s : MapState w) (flags : BitVec 32) : Code w (MapState w) := do
  assertThat (Compatible s.mapFlags flags)
  let mappingRefcount ← intResult (s.mappingRefcount + 1)
  return { s with mappingRefcount := mappingRefcount }

/-- The branch of the map functions for a buffer that is not mapped yet. -/
def MapState.freshMap (args : MmapArgs w) (s : MapState w) (flags : BitVec 32)
    (errorNonNull : Bool) : Code w (MapState w) := do
  let s := { s with mapFlags := flags }
  match ← perform (S := kernel w) (.mmap args.length (mmapProt flags) args.fd args.offset) with
  | .error errno =>
      storeError errorNonNull errno.code
      return s
  | .ok mapped =>
      return { s with mappingRefcount := 1, mappedVirtualAddress := mapped.address }

/-- The map functions of ION, IPU and PxP after their assertions and their
normalisation of the flags. -/
def MapState.map (args : MmapArgs w) (s : MapState w) (flags : BitVec 32)
    (errorNonNull : Bool) : Code w (MapState w) :=
  if s.mappedVirtualAddress ≠ 0 then s.redundantMap flags
  else s.freshMap args flags errorNonNull

/-- The unmap functions of ION, IPU and PxP after their assertions. -/
def MapState.unmap (length : BitVec w) (s : MapState w) : Code w (MapState w) := do
  if s.mappedVirtualAddress = 0 then
    return s
  let mappingRefcount ← intResult (s.mappingRefcount - 1)
  let s := { s with mappingRefcount := mappingRefcount }
  if mappingRefcount ≠ 0 then
    return s
  perform (S := kernel w) (.munmap s.mappedVirtualAddress length)
  return { s with mappedVirtualAddress := 0 }

/-- The fields of a DWL or G2D buffer that catch invalid redundant maps. -/
structure CountState where
  mapFlags : BitVec 32
  mappingRefcount : Int

/-- The counting fields as `allocate` initialises them. -/
def CountState.initial (ambient : Ambient) : CountState where
  mapFlags := ambient.mallocMapFlags
  mappingRefcount := 0

/-- The map functions of DWL and G2D after their normalisation of the flags. -/
def CountState.map (s : CountState) (flags : BitVec 32) : Code w CountState := do
  if s.mappingRefcount > 0 then
    assertThat (Compatible s.mapFlags flags)
    let mappingRefcount ← intResult (s.mappingRefcount + 1)
    return { s with mappingRefcount := mappingRefcount }
  else
    return { s with mapFlags := flags, mappingRefcount := 1 }

/-- The unmap functions of DWL and G2D. -/
def CountState.unmap (s : CountState) : Code w CountState := do
  if s.mappingRefcount > 0 then
    let mappingRefcount ← intResult (s.mappingRefcount - 1)
    return { s with mappingRefcount := mappingRefcount }
  else
    return s

/-- The synchronisation entries of an allocator's vtable: the no-op functions
of the private header, or the dma-heap allocator's own. -/
inductive SyncVfuncs where
  | noop
  | dmaHeap
  deriving DecidableEq

end ImxDmaBuffer
