import Mathlib.Logic.Function.Basic

/-!
# Memory behind a cache

A CPU and a device share memory, but only the CPU looks at it through a cache.  What the
CPU stores stays in the cache until its line is written back, and what the cache holds
may be older than what the device has written.  The cache fetches lines and gives them up
whenever it likes.

The two stay in agreement if the memory has one owner at a time, the device or the CPU,
and if the cache is cleaned and invalidated where it has to be when the owner changes.
`Agrees` is the invariant: what holds of memory and cache while somebody owns the memory.
`Agrees.after` says that accesses of the owner keep it and read what was written last,
`Agrees.handover` what a change of owner asks for.  How the cache is cleaned is left open:
`CleansAndInvalidates` is what is needed of it.

A location is what the cache transfers as a whole, that is, one cache line.
-/

/-- The copy of a location in the cache. A dirty one has not been written back. -/
structure CacheLine (V : Type) where
  value : V
  dirty : Bool

/-- Memory, and the lines of it that the cache holds. -/
structure CachedMemory (Loc V : Type) where
  memory : Loc → V
  cache : Loc → Option (CacheLine V)

/-- What happens to memory and cache: accesses by the CPU and by the device, and what the
cache does by itself. -/
inductive Access (Loc V : Type) where
  | load (l : Loc) (v : V)
  | store (l : Loc) (v : V)
  | deviceRead (l : Loc) (v : V)
  | deviceWrite (l : Loc) (v : V)
  | evict (l : Loc)
  | fill (l : Loc)

/-- Who may access the memory: the device, or the CPU with the permissions it was given. -/
inductive MemoryOwner where
  | device
  | cpu (reads writes : Bool)
  deriving DecidableEq

namespace CachedMemory

variable {Loc V : Type} [DecidableEq Loc]

/-- What the CPU finds at a location. -/
def lookup (m : CachedMemory Loc V) (l : Loc) : V :=
  match m.cache l with
  | some line => line.value
  | none => m.memory l

/-- Memory and cache after an access. A load that misses may be followed by a `fill`. -/
def after (m : CachedMemory Loc V) : Access Loc V → CachedMemory Loc V
  | .load _ _ => m
  | .store l v => { m with cache := Function.update m.cache l (some ⟨v, true⟩) }
  | .deviceRead _ _ => m
  | .deviceWrite l v => { m with memory := Function.update m.memory l v }
  | .evict l =>
      match m.cache l with
      | some ⟨v, true⟩ =>
          ⟨Function.update m.memory l v, Function.update m.cache l none⟩
      | _ => { m with cache := Function.update m.cache l none }
  | .fill l =>
      match m.cache l with
      | some _ => m
      | none => { m with cache := Function.update m.cache l (some ⟨m.memory l, false⟩) }

/-- The operation cleans and invalidates the cache: dirty lines are written back, the rest
of the memory stays, and all lines are given up. -/
structure CleansAndInvalidates (op : CachedMemory Loc V → CachedMemory Loc V) : Prop where
  writtenBack : ∀ m l x, m.cache l = some ⟨x, true⟩ → (op m).memory l = x
  stays : ∀ m l, (∀ x, m.cache l ≠ some ⟨x, true⟩) → (op m).memory l = m.memory l
  givenUp : ∀ m l, (op m).cache l = none

/-- Such an operation. -/
def flush (m : CachedMemory Loc V) : CachedMemory Loc V where
  memory l :=
    match m.cache l with
    | some ⟨v, true⟩ => v
    | _ => m.memory l
  cache _ := none

end CachedMemory

namespace Access

variable {Loc V : Type}

/-- The values that an access returns are those that the hardware holds. -/
def ReturnedBy (m : CachedMemory Loc V) : Access Loc V → Prop
  | .load l v => v = m.lookup l
  | .deviceRead l v => v = m.memory l
  | _ => True

/-- The values that an access returns are those that were written last. -/
def ReadsLatest (latest : Loc → V) : Access Loc V → Prop
  | .load l v => v = latest l
  | .deviceRead l v => v = latest l
  | _ => True

/-- What was written last to each location, after an access. -/
def written [DecidableEq Loc] (latest : Loc → V) : Access Loc V → Loc → V
  | .store l v => Function.update latest l v
  | .deviceWrite l v => Function.update latest l v
  | _ => latest

/-- Only the owner accesses the memory, within its permissions. The cache fetches lines
and gives them up at any time. -/
def AllowedBy : MemoryOwner → Access Loc V → Prop
  | .cpu reads _, .load _ _ => reads = true
  | .cpu _ writes, .store _ _ => writes = true
  | .device, .deviceRead _ _ => True
  | .device, .deviceWrite _ _ => True
  | _, .evict _ => True
  | _, .fill _ => True
  | _, _ => False

end Access

namespace CachedMemory

variable {Loc V : Type}

/-- What holds of one location: `v` was written last, `mem` is in memory, and `line` in the
cache.  While the device owns the memory, `mem` is up to date, and the line, however old,
will not be written back.  While the CPU owns it, a dirty line is up to date, and `mem` is
where there is none; a CPU that may read finds no old value in the cache, and one that may
not write leaves no line dirty. -/
def LineAgrees (v mem : V) : MemoryOwner → Option (CacheLine V) → Prop
  | _, none => mem = v
  | .device, some line => line.dirty = false ∧ mem = v
  | .cpu _ writes, some ⟨x, true⟩ => writes = true ∧ x = v
  | .cpu reads _, some ⟨x, false⟩ => mem = v ∧ (reads = true → x = v)

/-- **The invariant** of whoever owns the memory. -/
def Agrees (m : CachedMemory Loc V) (latest : Loc → V) (o : MemoryOwner) : Prop :=
  ∀ l, LineAgrees (latest l) (m.memory l) o (m.cache l)

/-- Changing the owner asks for a flush, if the CPU is to read what a device may have
written, or a device what the CPU may have written. -/
def needsFlush : MemoryOwner → MemoryOwner → Bool
  | .device, .cpu reads _ => reads
  | .cpu _ writes, .device => writes
  | o, o' => decide (o ≠ o')

theorem needsFlush_self (o : MemoryOwner) : needsFlush o o = false := by
  cases o with
  | device => rfl
  | cpu reads writes => exact decide_eq_false (not_not.mpr rfl)

variable {m : CachedMemory Loc V} {latest : Loc → V} {o o' : MemoryOwner}

/-- Memory that nothing is cached of holds what was written last. -/
theorem agrees_uncached (h : ∀ l, m.cache l = none) : m.Agrees m.memory o := by
  intro l
  rw [h l]
  rfl

theorem flush_cleansAndInvalidates : CleansAndInvalidates (@flush Loc V) where
  writtenBack m l x hline := by simp only [flush, hline]
  stays m l hclean := by
    cases hline : m.cache l with
    | none => simp only [flush, hline]
    | some line =>
        obtain ⟨x, dirty⟩ := line
        cases dirty with
        | true => exact absurd hline (hclean x)
        | false => simp only [flush, hline]
  givenUp _ _ := rfl

/-- A dirty line holds what was written last, whoever owns the memory. -/
theorem LineAgrees.dirty {v mem x : V} (h : LineAgrees v mem o (some ⟨x, true⟩)) : x = v := by
  cases o with
  | device => cases h.1
  | cpu reads writes => exact h.2

/-- Where no line is dirty, the memory does. -/
theorem LineAgrees.clean {v mem : V} {line : Option (CacheLine V)} (h : LineAgrees v mem o line)
    (hclean : ∀ x, line ≠ some ⟨x, true⟩) : mem = v := by
  cases line with
  | none => exact h
  | some line =>
      obtain ⟨x, dirty⟩ := line
      cases dirty with
      | true => exact absurd rfl (hclean x)
      | false =>
          cases o with
          | device => exact h.2
          | cpu reads writes => exact h.1

/-- Once the cache is cleaned and invalidated, the memory is up to date and nothing is
cached, so anybody may own it. -/
theorem CleansAndInvalidates.agrees {op : CachedMemory Loc V → CachedMemory Loc V}
    (hop : CleansAndInvalidates op) (h : m.Agrees latest o) : (op m).Agrees latest o' := by
  intro l
  have hl := h l
  rw [hop.givenUp]
  change (op m).memory l = latest l
  by_cases hdirty : ∃ x, m.cache l = some ⟨x, true⟩
  · obtain ⟨x, hline⟩ := hdirty
    rw [hline] at hl
    rw [hop.writtenBack m l x hline]
    exact hl.dirty
  · have hclean : ∀ x, m.cache l ≠ some ⟨x, true⟩ := fun x hx => hdirty ⟨x, hx⟩
    rw [hop.stays m l hclean]
    exact hl.clean hclean

/-- **Handing the memory over.**  The new owner finds what it needs if the cache was
flushed where that is asked for. -/
theorem Agrees.handover (h : m.Agrees latest o) (hkeep : needsFlush o o' = false) :
    m.Agrees latest o' := by
  cases o with
  | device =>
      cases o' with
      | device => exact h
      | cpu reads writes =>
          have hreads : reads = false := hkeep
          intro l
          have hl := h l
          cases hline : m.cache l with
          | none =>
              rw [hline] at hl
              exact hl
          | some line =>
              rw [hline] at hl
              obtain ⟨x, dirty⟩ := line
              obtain ⟨rfl, hmemory⟩ : dirty = false ∧ m.memory l = latest l := hl
              refine ⟨hmemory, fun htrue => ?_⟩
              rw [hreads] at htrue
              cases htrue
  | cpu reads writes =>
      cases o' with
      | cpu reads' writes' =>
          have heq : MemoryOwner.cpu reads writes = .cpu reads' writes' := by
            simpa [needsFlush] using hkeep
          rwa [← heq]
      | device =>
          have hwrites : writes = false := hkeep
          intro l
          have hl := h l
          cases hline : m.cache l with
          | none =>
              rw [hline] at hl
              exact hl
          | some line =>
              rw [hline] at hl
              obtain ⟨x, dirty⟩ := line
              cases dirty with
              | true =>
                  rw [hwrites] at hl
                  cases hl.1
              | false => exact ⟨rfl, hl.1⟩

/-- The CPU reads what was written last, if it owns the memory for reading. -/
theorem Agrees.lookup {writes : Bool} (h : m.Agrees latest (.cpu true writes)) (l : Loc) :
    m.lookup l = latest l := by
  have hl := h l
  unfold CachedMemory.lookup
  cases hline : m.cache l with
  | none =>
      rw [hline] at hl
      exact hl
  | some line =>
      rw [hline] at hl
      obtain ⟨x, dirty⟩ := line
      cases dirty with
      | true => exact hl.2
      | false => exact hl.2 rfl

/-- So does the device, if it owns the memory. -/
theorem Agrees.memory (h : m.Agrees latest .device) (l : Loc) : m.memory l = latest l := by
  have hl := h l
  cases hline : m.cache l with
  | none =>
      rw [hline] at hl
      exact hl
  | some line =>
      rw [hline] at hl
      exact hl.2

variable {a : Access Loc V}

/-- An owner that is allowed an access reads the latest value. -/
theorem Agrees.readsLatest (h : m.Agrees latest o) (hallowed : a.AllowedBy o)
    (hreturned : a.ReturnedBy m) : a.ReadsLatest latest := by
  cases a with
  | load l v =>
      cases o with
      | device => cases hallowed
      | cpu reads writes =>
          obtain rfl : reads = true := hallowed
          exact Eq.trans hreturned (h.lookup l)
  | deviceRead l v =>
      cases o with
      | device => exact Eq.trans hreturned (h.memory l)
      | cpu reads writes => cases hallowed
  | _ => trivial

variable [DecidableEq Loc]

/-- A dirty line that the cache gives up is written back. -/
theorem after_evict_dirty {l : Loc} {x : V} (h : m.cache l = some ⟨x, true⟩) :
    m.after (.evict l) = ⟨Function.update m.memory l x, Function.update m.cache l none⟩ := by
  simp only [CachedMemory.after, h]

/-- Others are dropped. -/
theorem after_evict_clean {l : Loc} (h : ∀ x, m.cache l ≠ some ⟨x, true⟩) :
    m.after (.evict l) = ⟨m.memory, Function.update m.cache l none⟩ := by
  cases hline : m.cache l with
  | none => simp only [CachedMemory.after, hline]
  | some line =>
      obtain ⟨x, dirty⟩ := line
      cases dirty with
      | true => exact absurd hline (h x)
      | false => simp only [CachedMemory.after, hline]

theorem after_fill_cached {l : Loc} {line : CacheLine V} (h : m.cache l = some line) :
    m.after (.fill l) = m := by
  simp only [CachedMemory.after, h]

theorem after_fill_uncached {l : Loc} (h : m.cache l = none) :
    m.after (.fill l) =
      ⟨m.memory, Function.update m.cache l (some ⟨m.memory l, false⟩)⟩ := by
  simp only [CachedMemory.after, h]

/-- Changing what is written, in memory and in the cache at one location. -/
theorem Agrees.update (h : m.Agrees latest o) (l : Loc) {v mem : V} {line : Option (CacheLine V)}
    (hline : LineAgrees v mem o line) :
    (CachedMemory.mk (Function.update m.memory l mem) (Function.update m.cache l line)).Agrees
      (Function.update latest l v) o := by
  intro l'
  by_cases hl : l' = l
  · subst hl
    simpa using hline
  · simpa [hl] using h l'

/-- The cache gives up a line: a dirty one goes to memory, which a clean one agrees with. -/
theorem Agrees.evict (h : m.Agrees latest o) (l : Loc) : (m.after (.evict l)).Agrees latest o := by
  have hl := h l
  by_cases hdirty : ∃ x, m.cache l = some ⟨x, true⟩
  · obtain ⟨x, hline⟩ := hdirty
    rw [hline] at hl
    have hx : LineAgrees (latest l) x o none := hl.dirty
    have hupdate := h.update l hx
    rw [Function.update_eq_self] at hupdate
    rw [after_evict_dirty hline]
    exact hupdate
  · have hclean : ∀ x, m.cache l ≠ some ⟨x, true⟩ := fun x hx => hdirty ⟨x, hx⟩
    have hmemory : LineAgrees (latest l) (m.memory l) o none := hl.clean hclean
    have hupdate := h.update l hmemory
    rw [Function.update_eq_self, Function.update_eq_self] at hupdate
    rw [after_evict_clean hclean]
    exact hupdate

/-- The cache fetches a line: memory has the latest value where nothing is cached. -/
theorem Agrees.fill (h : m.Agrees latest o) (l : Loc) : (m.after (.fill l)).Agrees latest o := by
  have hl := h l
  cases hline : m.cache l with
  | some line =>
      rw [after_fill_cached hline]
      exact h
  | none =>
      rw [hline] at hl
      have hmemory : m.memory l = latest l := hl
      have hclean : LineAgrees (latest l) (m.memory l) o (some ⟨m.memory l, false⟩) := by
        cases o with
        | device => exact ⟨rfl, hmemory⟩
        | cpu reads writes => exact ⟨hmemory, fun _ => hmemory⟩
      have hupdate := h.update l hclean
      rw [Function.update_eq_self, Function.update_eq_self] at hupdate
      rw [after_fill_uncached hline]
      exact hupdate

/-- **Accesses of the owner** keep the invariant. -/
theorem Agrees.after (h : m.Agrees latest o) (hallowed : a.AllowedBy o) :
    (m.after a).Agrees (a.written latest) o := by
  cases a with
  | load l v => exact h
  | deviceRead l v => exact h
  | store l v =>
      cases o with
      | device => cases hallowed
      | cpu reads writes =>
          have hdirty : LineAgrees v (m.memory l) (.cpu reads writes) (some ⟨v, true⟩) :=
            ⟨hallowed, rfl⟩
          have hupdate := h.update l hdirty
          rwa [Function.update_eq_self] at hupdate
  | deviceWrite l v =>
      cases o with
      | cpu reads writes => cases hallowed
      | device =>
          have hclean : LineAgrees v v .device (m.cache l) := by
            have hl := h l
            cases hline : m.cache l with
            | none => rfl
            | some line =>
                rw [hline] at hl
                exact ⟨hl.1, rfl⟩
          have hupdate := h.update l hclean
          rwa [Function.update_eq_self] at hupdate
  | evict l => exact h.evict l
  | fill l => exact h.fill l

end CachedMemory
