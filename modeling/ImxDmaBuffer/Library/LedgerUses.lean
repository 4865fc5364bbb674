import ImxDmaBuffer.Library.ResourceLedger

/-!
# Working with what is held

An event may work with resources besides acquiring or releasing one.  `Works uses effect t
before after` is the triple of a ledger that also asks for these to be held when the event
happens.  So nothing is used before it is acquired, or after it has been released.

Where only resources are used that stay in the ledger all the time, `Works.of_turns` has
it from the plain triple.
-/

namespace ResourceLedger

variable {R E : Type} [DecidableEq R]

/-- With `before` in the ledger, `t` can be replayed, works with what is held only, and
leaves `after`. -/
def Works (uses : E → List R) (effect : E → Effect R) : List E → Multiset R → Multiset R → Prop
  | [], before, after => before = after
  | e :: t, before, after => (∀ r ∈ uses e, r ∈ before) ∧
      ∃ middle, (effect e).apply before = some middle ∧ Works uses effect t middle after

variable {uses : E → List R} {effect : E → Effect R} {e : E} {t t' : List E} {r : R}
  {before middle after rest : Multiset R}

theorem Works.nil (before : Multiset R) : Works uses effect [] before before := rfl

/-- An event that concerns no resource. -/
theorem Works.keep (he : effect e = .keep) (huses : ∀ r ∈ uses e, r ∈ before)
    (h : Works uses effect t before after) : Works uses effect (e :: t) before after := by
  refine ⟨huses, before, ?_, h⟩
  rw [he]
  rfl

/-- An event that acquires a resource. -/
theorem Works.acquire (he : effect e = .acquire r) (huses : ∀ r ∈ uses e, r ∈ before)
    (h : Works uses effect t (r ::ₘ before) after) : Works uses effect (e :: t) before after := by
  refine ⟨huses, r ::ₘ before, ?_, h⟩
  rw [he]
  rfl

/-- An event that releases a resource. -/
theorem Works.release (he : effect e = .release r) (huses : ∀ r' ∈ uses e, r' ∈ r ::ₘ before)
    (h : Works uses effect t before after) : Works uses effect (e :: t) (r ::ₘ before) after := by
  refine ⟨huses, before, ?_, h⟩
  rw [he, Effect.apply, if_pos (Multiset.mem_cons_self r before), Multiset.erase_cons_head]

/-- Traces compose. -/
theorem Works.append (h : Works uses effect t before middle)
    (h' : Works uses effect t' middle after) : Works uses effect (t ++ t') before after := by
  induction t generalizing before with
  | nil =>
      obtain rfl := h
      exact h'
  | cons e t ih =>
      obtain ⟨huses, next, happly, hrest⟩ := h
      exact ⟨huses, next, happly, ih hrest⟩

/-- **Frame rule.**  What else is in the ledger stays there. -/
theorem Works.frame (h : Works uses effect t before after) (rest : Multiset R) :
    Works uses effect t (before + rest) (after + rest) := by
  induction t generalizing before with
  | nil =>
      obtain rfl := h
      exact .nil _
  | cons e t ih =>
      obtain ⟨huses, next, happly, hrest⟩ := h
      refine ⟨fun r hr => ?_, next + rest, Effect.apply_frame happly, ih hrest⟩
      exact Multiset.mem_add.mpr (Or.inl (huses r hr))

/-- A trace that can be replayed works with what is held, if it uses only what it releases
and what stays in the ledger. -/
theorem Works.of_turns (h : Turns effect t before after)
    (huses : ∀ e ∈ t, ∀ r ∈ uses e, effect e = .release r ∨ r ∈ rest) :
    Works uses effect t (before + rest) (after + rest) := by
  induction t generalizing before with
  | nil =>
      obtain rfl := Option.some.inj h
      exact .nil _
  | cons e t ih =>
      obtain ⟨next, happly, htail⟩ := Option.bind_eq_some_iff.mp h
      obtain ⟨he, ht⟩ := List.forall_mem_cons.mp huses
      refine ⟨fun r hr => ?_, next + rest, Effect.apply_frame happly, ih htail ht⟩
      rcases he r hr with hreleases | hrest
      · rw [hreleases] at happly
        by_cases hmem : r ∈ before
        · exact Multiset.mem_add.mpr (Or.inl hmem)
        · rw [Effect.apply, if_neg hmem] at happly
          cases happly
      · exact Multiset.mem_add.mpr (Or.inr hrest)

/-- **At any moment** of the trace, what the next event works with is held. -/
theorem Works.at {first : List E} (h : Works uses effect (first ++ e :: t) before after) :
    ∃ held, Turns effect first before held ∧ ∀ r ∈ uses e, r ∈ held := by
  induction first generalizing before with
  | nil => exact ⟨before, .nil before, h.1⟩
  | cons e' first ih =>
      obtain ⟨-, next, happly, hrest⟩ := h
      obtain ⟨held, hturns, huses⟩ := ih hrest
      exact ⟨held, Option.bind_eq_some_iff.mpr ⟨next, happly, hturns⟩, huses⟩

end ResourceLedger
