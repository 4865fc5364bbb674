import ImxDmaBuffer.Library.CallProgram

/-!
# Programs that stop exactly at bad answers

`p.StopsExactly fault bad` says that `p` stops at `fault` right after every bad event, and
nowhere else.  It is computed along the tree like a contract, so there is one rule for each
way programs are built, and no rule asks for a postcondition.  `stops_iff` is what it means
for a run: the run ends at the fault if and only if its trace has a bad event.  With no bad
events at all, the program never stops at the fault.
-/

namespace CallProgram

variable {S : Signature} {α β : Type} {fault : S.Fault} {bad : Event S → Prop}

/-- The program stops at the fault right after a bad event, and only there. -/
def Prog.StopsExactly (fault : S.Fault) (bad : Event S → Prop) : Prog S α → Prop
  | .ret _ => True
  | .halt fault' => fault' ≠ fault
  | .call c next => ∀ answer, (bad ⟨c, answer⟩ ∧ next answer = .halt fault) ∨
      (¬ bad ⟨c, answer⟩ ∧ (next answer).StopsExactly fault bad)

/-- A program that stops before any call is the stop itself. -/
theorem eq_halt_of_runs_nil {p : Prog S α} (h : Runs p [] (.halted fault)) : p = .halt fault := by
  cases h
  rfl

namespace Prog.StopsExactly

variable {p : Prog S α}

/-- What follows only matters where the program returns. -/
theorem bind {f : α → Prog S β} (h : p.StopsExactly fault bad)
    (hcont : ∀ a, (f a).StopsExactly fault bad) : (p >>= f).StopsExactly fault bad := by
  induction p with
  | ret a => exact hcont a
  | halt fault' => exact h
  | call c next ih =>
      intro answer
      rcases h answer with ⟨hbad, hstop⟩ | ⟨hgood, hnext⟩
      · exact Or.inl ⟨hbad, congrArg (· >>= f) hstop⟩
      · exact Or.inr ⟨hgood, ih answer hnext⟩

theorem map {f : α → β} (h : p.StopsExactly fault bad) : (f <$> p).StopsExactly fault bad := by
  rw [map_eq_pure_bind]
  exact h.bind (fun _ => trivial)

/-- A call, by its answers. -/
theorem answer_bind {c : S.Call} {f : S.Answer c → Prog S β}
    (h : ∀ answer, (bad ⟨c, answer⟩ ∧ f answer = .halt fault) ∨
      (¬ bad ⟨c, answer⟩ ∧ (f answer).StopsExactly fault bad)) :
    (perform c >>= f).StopsExactly fault bad :=
  h

/-- A call with no bad answer. -/
theorem call_bind {c : S.Call} {f : S.Answer c → Prog S β} (hgood : ∀ answer, ¬ bad ⟨c, answer⟩)
    (h : ∀ answer, (f answer).StopsExactly fault bad) :
    (perform c >>= f).StopsExactly fault bad :=
  fun answer => Or.inr ⟨hgood answer, h answer⟩

/-- A requirement that stops elsewhere. -/
theorem require_bind {a : Prop} [Decidable a] {fault' : S.Fault} {f : Unit → Prog S β}
    (hne : fault' ≠ fault) (h : a → (f ()).StopsExactly fault bad) :
    (CallProgram.require a fault' >>= f).StopsExactly fault bad := by
  unfold CallProgram.require
  by_cases ha : a
  · rw [if_pos ha]
    exact h ha
  · rw [if_neg ha]
    exact hne

theorem ite {c : Prop} [Decidable c] {q : Prog S α} (hp : c → p.StopsExactly fault bad)
    (hq : ¬ c → q.StopsExactly fault bad) : (if c then p else q).StopsExactly fault bad := by
  by_cases hc : c
  · rw [if_pos hc]
    exact hp hc
  · rw [if_neg hc]
    exact hq hc

theorem dite {c : Prop} [Decidable c] {p : c → Prog S α} {q : ¬ c → Prog S α}
    (hp : ∀ hc, (p hc).StopsExactly fault bad) (hq : ∀ hc, (q hc).StopsExactly fault bad) :
    (if hc : c then p hc else q hc).StopsExactly fault bad := by
  by_cases hc : c
  · rw [dif_pos hc]
    exact hp hc
  · rw [dif_neg hc]
    exact hq hc

/-- **A run ends at the fault exactly when its trace has a bad event.** -/
theorem stops_iff (h : p.StopsExactly fault bad) {t : List (Event S)} {o : Outcome S α}
    (hrun : Runs p t o) : o = .halted fault ↔ ∃ e ∈ t, bad e := by
  induction hrun with
  | ret a => simp
  | halt fault' =>
      have hne : fault' ≠ fault := h
      simpa using hne
  | call answer rest ih =>
      rcases h answer with ⟨hbad, hstop⟩ | ⟨hgood, hnext⟩
      · rw [hstop] at rest
        obtain ⟨rfl, rfl⟩ := runs_halt_iff.mp rest
        simp [hbad]
      · simp [ih hnext, hgood]

/-- Without bad events, a program never stops at the fault. -/
theorem never (h : p.StopsExactly fault fun _ => False) {t : List (Event S)} :
    ¬ Runs p t (.halted fault) := by
  intro hrun
  obtain ⟨_, -, hbad⟩ := (h.stops_iff hrun).mp rfl
  exact hbad

end Prog.StopsExactly

end CallProgram
