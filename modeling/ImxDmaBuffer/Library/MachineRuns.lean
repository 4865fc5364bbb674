import ImxDmaBuffer.Library.CallProgram

/-!
# Machines whose steps are programs, and their runs

A machine answers each operation by running a program over its state.  A run is
recorded as a history: one record for each operation, with the events the
operation's program issued and the value it returned.  A guard says which
operations the client may use in which state, and which answers of the
environment a statement is about.

* `Steps.track`: what every step preserves holds after every run, also when it
  relates the state to what the history says.  `Steps.track_events` is about all
  events so far, `Steps.track_history` about the history itself, and
  `Steps.track_along` about clients that keep to what the history says.
* `Steps.project` and `Steps.lift`: two machines whose steps agree along a view
  of the state have the same histories.
* `ObsEq` compares two states by everything a client can observe from then on;
  `ObsEq.of_simulation` proves it from a symmetric relation that every step
  keeps, and `obsEq_view` carries it over along a view.
-/

namespace CallProgram

variable {S : Signature} {Op Ret : Type}

/-- A state type and, for each operation, the program that serves it. -/
structure Machine (S : Signature) (Op Ret : Type) where
  State : Type
  step : State → Op → Prog S (Ret × State)

/-- One served operation: what was asked, what was issued, what was returned. -/
structure Record (S : Signature) (Op Ret : Type) where
  op : Op
  events : List (Event S)
  ret : Ret

/-- The events of all operations of a history. -/
def historyEvents (h : List (Record S Op Ret)) : List (Event S) := h.flatMap Record.events

namespace Machine

variable (M : Machine S Op Ret)

/-- Which operations may be used in a state, with which events. -/
abbrev Guard := M.State → Op → List (Event S) → Prop

/-- `Steps G s h s'`: from `s`, the machine serves the operations of `h` as
recorded there, each within the guard, and is then in state `s'`. -/
inductive Steps (G : M.Guard) : M.State → List (Record S Op Ret) → M.State → Prop
  | nil (s : M.State) : Steps G s [] s
  | cons {s middle finish : M.State} {r : Record S Op Ret} {h : List (Record S Op Ret)}
      (hguard : G s r.op r.events)
      (hrun : Runs (M.step s r.op) r.events (.done (r.ret, middle)))
      (tail : Steps G middle h finish) :
      Steps G s (r :: h) finish

variable {M} {G : M.Guard}

/-- The empty history leads nowhere. -/
theorem steps_nil_iff {s finish : M.State} : M.Steps G s [] finish ↔ finish = s := by
  constructor
  · intro hs
    cases hs
    rfl
  · intro heq
    rw [heq]
    exact .nil s

/-- A history of at least one record is one step and the rest. -/
theorem steps_cons_iff {s finish : M.State} {r : Record S Op Ret} {h : List (Record S Op Ret)} :
    M.Steps G s (r :: h) finish ↔
      ∃ middle, G s r.op r.events ∧ Runs (M.step s r.op) r.events (.done (r.ret, middle)) ∧
        M.Steps G middle h finish := by
  constructor
  · intro hs
    cases hs with
    | cons hguard hrun tail => exact ⟨_, hguard, hrun, tail⟩
  · intro hs
    obtain ⟨middle, hguard, hrun, tail⟩ := hs
    exact .cons hguard hrun tail

/-- Histories compose at a reached state. -/
theorem Steps.append {s middle finish : M.State} {before after : List (Record S Op Ret)}
    (hbefore : M.Steps G s before middle) (hafter : M.Steps G middle after finish) :
    M.Steps G s (before ++ after) finish := by
  induction hbefore with
  | nil => exact hafter
  | cons hguard hrun _ ih => exact .cons hguard hrun (ih hafter)

/-- A history can be split at every point. -/
theorem Steps.split {s finish : M.State} {before after : List (Record S Op Ret)}
    (h : M.Steps G s (before ++ after) finish) :
    ∃ middle, M.Steps G s before middle ∧ M.Steps G middle after finish := by
  induction before generalizing s with
  | nil => exact ⟨s, .nil s, h⟩
  | cons r before ih =>
      cases h with
      | cons hguard hrun tail =>
          obtain ⟨middle, hleft, hright⟩ := ih tail
          exact ⟨middle, .cons hguard hrun hleft, hright⟩

/-- Every record of a history is one step from the state reached before it. -/
theorem Steps.at {s finish : M.State} {before after : List (Record S Op Ret)}
    {r : Record S Op Ret} (h : M.Steps G s (before ++ r :: after) finish) :
    ∃ middle next, M.Steps G s before middle ∧ G middle r.op r.events ∧
      Runs (M.step middle r.op) r.events (.done (r.ret, next)) := by
  obtain ⟨middle, hbefore, hrest⟩ := h.split
  obtain ⟨next, hguard, hrun, -⟩ := steps_cons_iff.mp hrest
  exact ⟨middle, next, hbefore, hguard, hrun⟩

/-- The last record of a history is one step from the state reached before it. -/
theorem Steps.last {s finish : M.State} {before : List (Record S Op Ret)} {r : Record S Op Ret}
    (h : M.Steps G s (before ++ [r]) finish) :
    ∃ middle, M.Steps G s before middle ∧ G middle r.op r.events ∧
      Runs (M.step middle r.op) r.events (.done (r.ret, finish)) := by
  obtain ⟨middle, hbefore, hlast⟩ := h.split
  cases hlast with
  | cons hguard hrun tail =>
      cases tail
      exact ⟨middle, hbefore, hguard, hrun⟩

/-- A single step is a history of one record. -/
theorem Steps.single {s finish : M.State} {r : Record S Op Ret} (hguard : G s r.op r.events)
    (hrun : Runs (M.step s r.op) r.events (.done (r.ret, finish))) :
    M.Steps G s [r] finish :=
  .cons hguard hrun (.nil finish)

/-- A history determines the state it leads to. -/
theorem Steps.finish_unique {G' : M.Guard} {s finish finish' : M.State}
    {h : List (Record S Op Ret)} (hs : M.Steps G s h finish) (hs' : M.Steps G' s h finish') :
    finish = finish' := by
  induction hs with
  | nil =>
      cases hs'
      rfl
  | cons _ hrun _ ih =>
      obtain ⟨middle, _, hrun', htail⟩ := steps_cons_iff.mp hs'
      obtain ⟨-, rfl⟩ := Prod.mk.inj (Outcome.done.inj (hrun.outcome_unique hrun'))
      exact ih htail

/-- **Tracking.**  A summary `f` folded over the history stays related to the
state when every step keeps the two related. -/
theorem Steps.track {A : Type} (f : A → Record S Op Ret → A) {R : A → M.State → Prop}
    (hstep : ∀ a s r s', R a s → G s r.op r.events →
      Runs (M.step s r.op) r.events (.done (r.ret, s')) → R (f a r) s')
    {a : A} {s finish : M.State} {h : List (Record S Op Ret)}
    (hs : M.Steps G s h finish) (hR : R a s) : R (h.foldl f a) finish := by
  induction hs generalizing a with
  | nil => exact hR
  | cons hguard hrun _ ih => exact ih (hstep _ _ _ _ hR hguard hrun)

/-- Tracking against the events so far. -/
theorem Steps.track_events {R : List (Event S) → M.State → Prop}
    (hstep : ∀ events s (r : Record S Op Ret) s', R events s → G s r.op r.events →
      Runs (M.step s r.op) r.events (.done (r.ret, s')) → R (events ++ r.events) s')
    {s finish : M.State} {h : List (Record S Op Ret)} (hs : M.Steps G s h finish) (hR : R [] s) :
    R (historyEvents h) finish := by
  unfold historyEvents
  rw [List.flatMap_eq_foldl]
  exact hs.track (fun events r => events ++ r.events) hstep hR

/-- Tracking against the history so far. -/
theorem Steps.track_history {R : List (Record S Op Ret) → M.State → Prop}
    (hstep : ∀ h s (r : Record S Op Ret) s', R h s → G s r.op r.events →
      Runs (M.step s r.op) r.events (.done (r.ret, s')) → R (h ++ [r]) s')
    {s finish : M.State} {h : List (Record S Op Ret)} (hs : M.Steps G s h finish) (hR : R [] s) :
    R h finish := by
  have htrack := hs.track (fun h r => h ++ [r]) hstep hR
  rwa [← List.flatMap_eq_foldl, List.flatMap_singleton'] at htrack

/-- Every record of a history meets `C` at the summary of the records before it. -/
def Along {A : Type} (f : A → Record S Op Ret → A) (C : A → Record S Op Ret → Prop) :
    A → List (Record S Op Ret) → Prop
  | _, [] => True
  | a, r :: h => C a r ∧ Along f C (f a r) h

/-- Tracking along histories whose client also keeps to what the summary says. -/
theorem Steps.track_along {A : Type} (f : A → Record S Op Ret → A)
    (C : A → Record S Op Ret → Prop) {R : A → M.State → Prop}
    (hstep : ∀ a s r s', R a s → C a r → G s r.op r.events →
      Runs (M.step s r.op) r.events (.done (r.ret, s')) → R (f a r) s')
    {a : A} {s finish : M.State} {h : List (Record S Op Ret)}
    (hs : M.Steps G s h finish) (hC : Along f C a h) (hR : R a s) : R (h.foldl f a) finish := by
  induction hs generalizing a with
  | nil => exact hR
  | cons hguard hrun _ ih => exact ih hC.2 (hstep _ _ _ _ hR hC.1 hguard hrun)

section View

variable {N : Machine S Op Ret} {H : N.Guard} {view : M.State → N.State}

/-- Along a view that the steps respect, every history of the first machine is
one of the second. -/
theorem Steps.project
    (hview : ∀ s op, N.step (view s) op = Prod.map id view <$> M.step s op)
    (hguard : ∀ s op t, G s op t → H (view s) op t)
    {s finish : M.State} {h : List (Record S Op Ret)} (hs : M.Steps G s h finish) :
    N.Steps H (view s) h (view finish) := by
  induction hs with
  | nil s => exact .nil _
  | @cons s middle _ r _ hg hrun _ ih =>
      refine .cons (hguard _ _ _ hg) ?_ ih
      rw [hview, runs_map_done_iff]
      exact ⟨(r.ret, middle), hrun, rfl⟩

/-- Conversely, every history of the second machine from a viewed state is one
of the first. -/
theorem Steps.lift
    (hview : ∀ s op, N.step (view s) op = Prod.map id view <$> M.step s op)
    (hguard : ∀ s op t, H (view s) op t → G s op t)
    {h : List (Record S Op Ret)} :
    ∀ {s : M.State} {finish : N.State}, N.Steps H (view s) h finish →
      ∃ s', M.Steps G s h s' ∧ view s' = finish := by
  induction h with
  | nil =>
      intro s finish hs
      cases hs
      exact ⟨s, .nil s, rfl⟩
  | cons r h ih =>
      intro s finish hs
      cases hs with
      | cons hg hrun tail =>
          rw [hview, runs_map_done_iff] at hrun
          obtain ⟨⟨ret, middle⟩, hrun, heq⟩ := hrun
          obtain ⟨rfl, rfl⟩ := Prod.mk.inj heq
          obtain ⟨s', hs', rfl⟩ := ih tail
          exact ⟨s', .cons (hguard _ _ _ hg) hrun hs', rfl⟩

end View

section Observation

/-- How a client's use of a machine ends: after the last record, or in an
operation that stopped at a fault. -/
inductive Ending (S : Signature) (Op Obs : Type) where
  | running
  | stopped (op : Op) (seen : Obs) (fault : S.Fault)

/-- Using the machine from `s` within the guard, a client that sees of each
operation's events only `look` may observe this log and this ending. -/
def Shows {Obs : Type} (G : M.Guard) (look : List (Event S) → Obs) (s : M.State)
    (log : List (Op × Obs × Ret)) (ending : Ending S Op Obs) : Prop :=
  ∃ h s', M.Steps G s h s' ∧ log = h.map (fun r => (r.op, look r.events, r.ret)) ∧
    (ending = .running ∨ ∃ op t fault, ending = .stopped op (look t) fault ∧ G s' op t ∧
      Runs (M.step s' op) t (.halted fault))

/-- Two states are observationally equal when no client can tell them apart. -/
def ObsEq {Obs : Type} (G : M.Guard) (look : List (Event S) → Obs) (s s' : M.State) : Prop :=
  ∀ log ending, M.Shows G look s log ending ↔ M.Shows G look s' log ending

/-- `R` is a simulation: from related states the same guarded operation with the
same events ends the same way, in related states. -/
structure Simulation (G : M.Guard) (R : M.State → M.State → Prop) : Prop where
  guard : ∀ {s s' op t}, R s s' → G s op t → G s' op t
  done : ∀ {s s' op t ret u}, R s s' → G s op t → Runs (M.step s op) t (.done (ret, u)) →
    ∃ u', Runs (M.step s' op) t (.done (ret, u')) ∧ R u u'
  halted : ∀ {s s' op t fault}, R s s' → G s op t → Runs (M.step s op) t (.halted fault) →
    Runs (M.step s' op) t (.halted fault)

/-- A simulation carries whole histories over. -/
theorem Simulation.steps {R : M.State → M.State → Prop} (hR : M.Simulation G R)
    {s s' finish : M.State} {h : List (Record S Op Ret)} (hs : M.Steps G s h finish)
    (hrel : R s s') : ∃ finish', M.Steps G s' h finish' ∧ R finish finish' := by
  induction hs generalizing s' with
  | nil => exact ⟨s', .nil s', hrel⟩
  | cons hguard hrun _ ih =>
      obtain ⟨u', hrun', hu⟩ := hR.done hrel hguard hrun
      obtain ⟨finish', htail, hfinish⟩ := ih hu
      exact ⟨finish', .cons (hR.guard hrel hguard) hrun' htail, hfinish⟩

/-- What can be observed from a state can be observed from every state that
simulates it. -/
theorem Simulation.shows {Obs : Type} {look : List (Event S) → Obs}
    {R : M.State → M.State → Prop} (hR : M.Simulation G R) {s s' : M.State} (hrel : R s s')
    {log : List (Op × Obs × Ret)} {ending : Ending S Op Obs}
    (hshow : M.Shows G look s log ending) : M.Shows G look s' log ending := by
  obtain ⟨h, finish, hsteps, rfl, hend⟩ := hshow
  obtain ⟨finish', hsteps', hrel'⟩ := hR.steps hsteps hrel
  refine ⟨h, finish', hsteps', rfl, ?_⟩
  rcases hend with hrunning | ⟨op, t, fault, hstop, hguard, hhalt⟩
  · exact Or.inl hrunning
  · exact Or.inr ⟨op, t, fault, hstop, hR.guard hrel' hguard, hR.halted hrel' hguard hhalt⟩

/-- **Observational equality from a symmetric simulation.** -/
theorem ObsEq.of_simulation {Obs : Type} {look : List (Event S) → Obs}
    {R : M.State → M.State → Prop} (hR : M.Simulation G R)
    (hsymm : ∀ {s s'}, R s s' → R s' s) {s s' : M.State} (hrel : R s s') :
    M.ObsEq G look s s' :=
  fun _ _ => ⟨hR.shows hrel, hR.shows (hsymm hrel)⟩

variable {N : Machine S Op Ret} {H : N.Guard} {view : M.State → N.State}

/-- Along a view that the steps respect, what can be observed is the same. -/
theorem shows_view {Obs : Type} {look : List (Event S) → Obs}
    (hview : ∀ s op, N.step (view s) op = Prod.map id view <$> M.step s op)
    (hguard : ∀ s op t, G s op t ↔ H (view s) op t)
    {s : M.State} {log : List (Op × Obs × Ret)} {ending : Ending S Op Obs} :
    N.Shows H look (view s) log ending ↔ M.Shows G look s log ending := by
  constructor
  · intro hshow
    obtain ⟨h, finish, hsteps, rfl, hend⟩ := hshow
    obtain ⟨s', hsteps', rfl⟩ := hsteps.lift hview (fun s op t => (hguard s op t).mpr)
    refine ⟨h, s', hsteps', rfl, hend.imp_right (fun hstop => ?_)⟩
    obtain ⟨op, t, fault, hstop, hH, hhalt⟩ := hstop
    rw [hview, runs_map_halted_iff] at hhalt
    exact ⟨op, t, fault, hstop, (hguard s' op t).mpr hH, hhalt⟩
  · intro hshow
    obtain ⟨h, s', hsteps, rfl, hend⟩ := hshow
    have hsteps' := hsteps.project hview (fun s op t => (hguard s op t).mp)
    refine ⟨h, view s', hsteps', rfl, hend.imp_right (fun hstop => ?_)⟩
    obtain ⟨op, t, fault, hstop, hG, hhalt⟩ := hstop
    refine ⟨op, t, fault, hstop, (hguard s' op t).mp hG, ?_⟩
    rw [hview, runs_map_halted_iff]
    exact hhalt

/-- Along such a view, two states are observationally equal exactly when their
views are. -/
theorem obsEq_view {Obs : Type} {look : List (Event S) → Obs}
    (hview : ∀ s op, N.step (view s) op = Prod.map id view <$> M.step s op)
    (hguard : ∀ s op t, G s op t ↔ H (view s) op t) {s s' : M.State} :
    N.ObsEq H look (view s) (view s') ↔ M.ObsEq G look s s' := by
  unfold ObsEq
  simp only [shows_view hview hguard]

end Observation

end Machine

end CallProgram
