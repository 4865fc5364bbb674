import ImxDmaBuffer.Library.MachineRuns

/-!
# Machines that serve several components

A machine may keep the states of several components, each operation working on one
of them.  Where operations on different components commute, the order in which they
were served does not matter (`Steps.reorder`): two histories with the same operations
on every component, in the same order for each, end in the same state.
-/

namespace CallProgram

namespace Machine

variable {S : Signature} {Op Ret : Type} {M : Machine S Op Ret} {G : M.Guard}

section Reorder

variable {I : Type} {key : Record S Op Ret → I}

/-- Histories of length two with records on different components can be swapped. -/
def Commutes (M : Machine S Op Ret) (G : M.Guard) (key : Record S Op Ret → I) : Prop :=
  ∀ {s s' : M.State} {a b : Record S Op Ret}, key a ≠ key b → M.Steps G s [a, b] s' →
    M.Steps G s [b, a] s'

/-- A record can be moved past records on other components. -/
theorem Steps.move_back (hcomm : Commutes M G key) {r : Record S Op Ret}
    {first rest : List (Record S Op Ret)} (hother : ∀ q ∈ first, key q ≠ key r)
    {s s' : M.State} (hs : M.Steps G s (r :: (first ++ rest)) s') :
    M.Steps G s (first ++ r :: rest) s' := by
  induction first generalizing s with
  | nil => exact hs
  | cons q first ih =>
      obtain ⟨hq, hfirst⟩ := List.forall_mem_cons.mp hother
      have hpairs : M.Steps G s ([r, q] ++ (first ++ rest)) s' := hs
      obtain ⟨middle, hpair, htail⟩ := hpairs.split
      have hswapped := hcomm (Ne.symm hq) hpair
      obtain ⟨next, hguard, hrun, hsingle⟩ := steps_cons_iff.mp hswapped
      exact .cons hguard hrun (ih hfirst (hsingle.append htail))

variable [DecidableEq I]

variable (key) in
/-- The records of a history on one component. -/
def recordsOf (i : I) (h : List (Record S Op Ret)) : List (Record S Op Ret) :=
  h.filter fun r => key r = i

variable (key) in
/-- Two histories have the same records on every component, in the same order. -/
def SameRecords (h h' : List (Record S Op Ret)) : Prop :=
  ∀ i, recordsOf key i h = recordsOf key i h'

theorem recordsOf_cons_same {r : Record S Op Ret} {h : List (Record S Op Ret)} :
    recordsOf key (key r) (r :: h) = r :: recordsOf key (key r) h :=
  List.filter_cons_of_pos (by simp)

theorem recordsOf_cons_other {r : Record S Op Ret} {h : List (Record S Op Ret)} {i : I}
    (hne : key r ≠ i) : recordsOf key i (r :: h) = recordsOf key i h :=
  List.filter_cons_of_neg (by simpa using hne)

/-- The first record of one history stands in the other behind records on other
components only. -/
theorem SameRecords.find {r : Record S Op Ret} {h h' : List (Record S Op Ret)}
    (hsame : SameRecords key (r :: h) h') :
    ∃ first rest, h' = first ++ r :: rest ∧ (∀ q ∈ first, key q ≠ key r) ∧
      SameRecords key h (first ++ rest) := by
  have hrecords := (hsame (key r)).symm
  rw [recordsOf_cons_same, recordsOf, List.filter_eq_cons_iff] at hrecords
  obtain ⟨first, rest, rfl, hfirst, -, hrest⟩ := hrecords
  have hother : ∀ q ∈ first, key q ≠ key r := fun q hq => by simpa using hfirst q hq
  have hnone : recordsOf key (key r) first = [] :=
    List.filter_eq_nil_iff.mpr fun q hq => by simpa using hother q hq
  refine ⟨first, rest, rfl, hother, fun i => ?_⟩
  have happend : recordsOf key i (first ++ rest) = recordsOf key i first ++ recordsOf key i rest :=
    List.filter_append first rest
  rw [happend]
  by_cases hi : key r = i
  · rw [← hi, hnone, List.nil_append]
    exact hrest.symm
  · have hsplit := hsame i
    rw [recordsOf_cons_other hi] at hsplit
    rw [hsplit, recordsOf, List.filter_append]
    exact congrArg _ (recordsOf_cons_other hi)

/-- A history whose records all have a property is one within the guard that asks for
it. -/
theorem Steps.guarded {P : M.Guard} {s s' : M.State} {h : List (Record S Op Ret)}
    (hs : M.Steps G s h s') (hP : ∀ r ∈ h, ∀ s, P s r.op r.events) : M.Steps P s h s' := by
  induction hs with
  | nil s => exact .nil s
  | cons _ hrun _ ih =>
      obtain ⟨hr, hh⟩ := List.forall_mem_cons.mp hP
      exact .cons (hr _) hrun (ih hh)

/-- **The order between components does not matter.** -/
theorem Steps.reorder (hcomm : Commutes M G key) {h h' : List (Record S Op Ret)}
    (hsame : SameRecords key h h') {s s' : M.State} (hs : M.Steps G s h s') :
    M.Steps G s h' s' := by
  induction h generalizing s h' with
  | nil =>
      cases h' with
      | nil => exact hs
      | cons r h' =>
          have hrecords := hsame (key r)
          rw [recordsOf_cons_same] at hrecords
          cases hrecords
  | cons r h ih =>
      obtain ⟨first, rest, rfl, hother, hrest⟩ := hsame.find
      obtain ⟨middle, hguard, hrun, htail⟩ := steps_cons_iff.mp hs
      exact Steps.move_back hcomm hother (.cons hguard hrun (ih hrest htail))

end Reorder

end Machine

end CallProgram
