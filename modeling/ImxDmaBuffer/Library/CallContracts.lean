import ImxDmaBuffer.Library.MachineRuns

/-!
# Contracts of programs

A contract says which calls a program may issue, which answers of the
environment it relies on, and at which faults it may stop.  `p.Meets K Q` says
that `p` keeps the contract `K`, and that `Q` holds of every result.  It is
computed along the tree, so it is proved along the code: one rule for each way
programs are built (`Meets.bind`, `Meets.map`, `Meets.require_bind`,
`Meets.call_bind`).

`Meets.done` and `Meets.halted` say what this means for a run, and
`Steps.meets` what it means for the histories of a machine: an invariant that
every step's contract has as its result holds after every history, and all calls
of the history are ones that the contract allows.
-/

namespace CallProgram

variable {S : Signature} {α β : Type}

/-- What a program promises about its calls and its faults, and what it relies on
in the answers. -/
structure Contract (S : Signature) where
  issues : S.Call → Prop
  relies : Event S → Prop
  mayStop : S.Fault → Prop

/-- The contract that only bounds the calls. -/
def Contract.ofCalls (C : S.Call → Prop) : Contract S := ⟨C, fun _ => True, fun _ => True⟩

/-- The contract that only bounds the faults, relying on the answers in `A`. -/
def Contract.ofFaults (A : Event S → Prop) (F : S.Fault → Prop) : Contract S :=
  ⟨fun _ => True, A, F⟩

/-- The program keeps the contract, and `Q` holds of its results. -/
def Prog.Meets (K : Contract S) (Q : α → Prop) : Prog S α → Prop
  | .ret a => Q a
  | .halt fault => K.mayStop fault
  | .call c next => K.issues c ∧ ∀ answer, K.relies ⟨c, answer⟩ → (next answer).Meets K Q

namespace Prog.Meets

variable {K : Contract S} {Q Q' : α → Prop} {P : β → Prop} {p : Prog S α}

/-- A weaker postcondition. -/
theorem mono (h : p.Meets K Q) (himp : ∀ a, Q a → Q' a) : p.Meets K Q' := by
  induction p with
  | ret a => exact himp a h
  | halt fault => exact h
  | call c next ih => exact ⟨h.1, fun answer hanswer => ih answer (h.2 answer hanswer)⟩

/-- What follows may rely on the postcondition. -/
theorem bind {f : α → Prog S β} (h : p.Meets K Q) (hcont : ∀ a, Q a → (f a).Meets K P) :
    (p >>= f).Meets K P := by
  induction p with
  | ret a => exact hcont a h
  | halt fault => exact h
  | call c next ih => exact ⟨h.1, fun answer hanswer => ih answer (h.2 answer hanswer)⟩

theorem map {f : α → β} (h : p.Meets K fun a => P (f a)) : (f <$> p).Meets K P := by
  rw [map_eq_pure_bind]
  exact h.bind (fun _ ha => ha)

/-- A call, and what follows for every answer relied on. -/
theorem call_bind {c : S.Call} {f : S.Answer c → Prog S β} (hissues : K.issues c)
    (h : ∀ answer, K.relies ⟨c, answer⟩ → (f answer).Meets K P) :
    (perform c >>= f).Meets K P :=
  ⟨hissues, h⟩

/-- A requirement that holds. -/
theorem require_bind {a : Prop} [Decidable a] {fault : S.Fault} {f : Unit → Prog S β}
    (ha : a) (h : (f ()).Meets K P) : (CallProgram.require a fault >>= f).Meets K P := by
  rw [require_bind_of ha]
  exact h

/-- A requirement at whose fault the program may stop, if it does not hold. -/
theorem require_bind_unless {a : Prop} [Decidable a] {fault : S.Fault} {f : Unit → Prog S β}
    (hstop : ¬ a → K.mayStop fault) (h : a → (f ()).Meets K P) :
    (CallProgram.require a fault >>= f).Meets K P := by
  unfold CallProgram.require
  by_cases ha : a
  · rw [if_pos ha]
    exact h ha
  · rw [if_neg ha]
    exact hstop ha

/-- A requirement at whose fault the program may stop. -/
theorem require_bind_mayStop {a : Prop} [Decidable a] {fault : S.Fault} {f : Unit → Prog S β}
    (hstop : K.mayStop fault) (h : a → (f ()).Meets K P) :
    (CallProgram.require a fault >>= f).Meets K P :=
  require_bind_unless (fun _ => hstop) h

theorem ite {c : Prop} [Decidable c] {q : Prog S α} (hp : c → p.Meets K Q)
    (hq : ¬ c → q.Meets K Q) : (if c then p else q).Meets K Q := by
  by_cases hc : c
  · rw [if_pos hc]
    exact hp hc
  · rw [if_neg hc]
    exact hq hc

theorem dite {c : Prop} [Decidable c] {p : c → Prog S α} {q : ¬ c → Prog S α}
    (hp : ∀ hc, (p hc).Meets K Q) (hq : ∀ hc, (q hc).Meets K Q) :
    (if hc : c then p hc else q hc).Meets K Q := by
  by_cases hc : c
  · rw [dif_pos hc]
    exact hp hc
  · rw [dif_neg hc]
    exact hq hc

/-- A completed run issues allowed calls only, and `Q` holds of its result. -/
theorem done (h : p.Meets K Q) {t : List (Event S)} {a : α} (hrun : Runs p t (.done a))
    (hrelies : ∀ e ∈ t, K.relies e) : (∀ e ∈ t, K.issues e.call) ∧ Q a := by
  induction p generalizing t with
  | ret a' =>
      obtain ⟨rfl, rfl⟩ := runs_ret_done_iff.mp hrun
      exact ⟨List.forall_mem_nil _, h⟩
  | halt fault => cases (runs_halt_iff.mp hrun).2
  | call c next ih =>
      obtain ⟨answer, rest, rfl, hrest⟩ := runs_call_iff.mp hrun
      obtain ⟨hanswer, hrelies⟩ := List.forall_mem_cons.mp hrelies
      obtain ⟨hissues, hQ⟩ := ih answer (h.2 answer hanswer) hrest hrelies
      exact ⟨List.forall_mem_cons.mpr ⟨h.1, hissues⟩, hQ⟩

/-- A run that stops does so at an allowed fault. -/
theorem halted (h : p.Meets K Q) {t : List (Event S)} {fault : S.Fault}
    (hrun : Runs p t (.halted fault)) (hrelies : ∀ e ∈ t, K.relies e) : K.mayStop fault := by
  induction p generalizing t with
  | ret a => cases (runs_ret_iff.mp hrun).2
  | halt fault' =>
      obtain ⟨-, heq⟩ := runs_halt_iff.mp hrun
      cases heq
      exact h
  | call c next ih =>
      obtain ⟨answer, rest, rfl, hrest⟩ := runs_call_iff.mp hrun
      obtain ⟨hanswer, hrelies⟩ := List.forall_mem_cons.mp hrelies
      exact ih answer (h.2 answer hanswer) hrest hrelies

/-- A run ends with a result for which `Q` holds, or at an allowed fault. -/
theorem ends (h : p.Meets K Q) {t : List (Event S)} {o : Outcome S α} (hrun : Runs p t o)
    (hrelies : ∀ e ∈ t, K.relies e) :
    (∃ a, o = .done a ∧ Q a) ∨ ∃ fault, o = .halted fault ∧ K.mayStop fault := by
  cases o with
  | done a => exact Or.inl ⟨a, rfl, (h.done hrun hrelies).2⟩
  | halted fault => exact Or.inr ⟨fault, rfl, h.halted hrun hrelies⟩

end Prog.Meets

namespace Machine

variable {Op Ret : Type} {M : Machine S Op Ret} {G : M.Guard} {K : Contract S}

/-- **An invariant kept under a contract** holds after every history whose answers
are the ones relied on, and the history's calls are allowed. -/
theorem Steps.meets {I : M.State → Prop}
    (hstep : ∀ s op t, I s → G s op t → (M.step s op).Meets K fun r => I r.2)
    (hrelies : ∀ s op t, G s op t → ∀ e ∈ t, K.relies e)
    {s finish : M.State} {h : List (Record S Op Ret)} (hs : M.Steps G s h finish) (hI : I s) :
    (∀ e ∈ historyEvents h, K.issues e.call) ∧ I finish := by
  refine hs.track_events (R := fun events s => (∀ e ∈ events, K.issues e.call) ∧ I s) ?_
    ⟨List.forall_mem_nil _, hI⟩
  intro events s r s' hbefore hguard hrun
  obtain ⟨hissues, hafter⟩ := (hstep _ _ _ hbefore.2 hguard).done hrun (hrelies _ _ _ hguard)
  exact ⟨List.forall_mem_append.mpr ⟨hbefore.1, hissues⟩, hafter⟩

end Machine

end CallProgram
