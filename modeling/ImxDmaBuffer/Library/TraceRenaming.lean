import Mathlib.Logic.Equiv.Defs
import ImxDmaBuffer.Library.TraceErasure

/-!
# Programs that name their calls differently

Two implementations of one interface may issue different calls for the same purpose,
and a client may see the same of either: `seen` is what it sees of an event.
`Renames seen R p q` says that `p` and `q` are one tree up to such calls and up to
results related by `R`.  It is symmetric (`Renames.symm`), it is proved along the code
(`Renames.bind`, `Renames.call_bind`, `Renames.require_bind`), and every run of `p` looks
like one of `q` (`Renames.forth`).

* `Machine.Matching` says that the steps from related states look the same, whatever the
  reason; a client cannot tell related states apart (`ObsEq.of_matching`).
* `Machine.Renaming.obsEq` is the case of programs that name their calls differently.
* `ObsEq.symm` and `ObsEq.trans` compose such results, and `ObsEq.coarsen` is about a
  client that sees less.
-/

namespace CallProgram

variable {S : Signature} {α β γ δ A : Type} {seen : Event S → Option A}

/-- The two programs do the same, through calls that look the same. The answers of a call
are matched by answers of the other one that look the same, in both directions. -/
inductive Renames (seen : Event S → Option A) (R : α → β → Prop) : Prog S α → Prog S β → Prop
  | ret {a : α} {b : β} (h : R a b) : Renames seen R (.ret a) (.ret b)
  | halt (fault : S.Fault) : Renames seen R (.halt fault) (.halt fault)
  | call {c c' : S.Call} {next : S.Answer c → Prog S α} {next' : S.Answer c' → Prog S β}
      (forth : S.Answer c → S.Answer c') (back : S.Answer c' → S.Answer c)
      (hforth : ∀ answer, seen ⟨c, answer⟩ = seen ⟨c', forth answer⟩)
      (hback : ∀ answer, seen ⟨c, back answer⟩ = seen ⟨c', answer⟩)
      (h : ∀ answer, Renames seen R (next answer) (next' (forth answer)))
      (h' : ∀ answer, Renames seen R (next (back answer)) (next' answer)) :
      Renames seen R (.call c next) (.call c' next')

namespace Renames

variable {R : α → β → Prop} {R' : γ → δ → Prop} {p : Prog S α} {q : Prog S β}

/-- A program and itself. -/
theorem same {R : α → α → Prop} (hR : ∀ a, R a a) (p : Prog S α) : Renames seen R p p := by
  induction p with
  | ret a => exact .ret (hR a)
  | halt fault => exact .halt fault
  | call c next ih => exact .call id id (fun _ => rfl) (fun _ => rfl) ih ih

/-- Related continuations of related programs. -/
theorem bind {f : α → Prog S γ} {g : β → Prog S δ} (h : Renames seen R p q)
    (hcont : ∀ a b, R a b → Renames seen R' (f a) (g b)) :
    Renames seen R' (p >>= f) (q >>= g) := by
  induction h with
  | ret hR => exact hcont _ _ hR
  | halt fault => exact .halt fault
  | call forth back hforth hback _ _ ih ih' => exact .call forth back hforth hback ih ih'

/-- Related results of related programs. -/
theorem map {f : α → γ} {g : β → δ} (h : Renames seen R p q)
    (hresult : ∀ a b, R a b → R' (f a) (g b)) : Renames seen R' (f <$> p) (g <$> q) := by
  rw [map_eq_pure_bind, map_eq_pure_bind]
  exact h.bind (fun a b hR => .ret (hresult a b hR))

/-- Two calls with the same answers that look the same. -/
theorem call_bind {c c' : S.Call} {f : S.Answer c → Prog S γ} {g : S.Answer c' → Prog S δ}
    (e : S.Answer c ≃ S.Answer c') (hseen : ∀ answer, seen ⟨c, answer⟩ = seen ⟨c', e answer⟩)
    (h : ∀ answer, Renames seen R' (f answer) (g (e answer))) :
    Renames seen R' (perform c >>= f) (perform c' >>= g) := by
  refine .call e e.symm hseen (fun answer => ?_) h (fun answer => ?_)
  · rw [hseen, e.apply_symm_apply]
  · have hanswer := h (e.symm answer)
    rwa [e.apply_symm_apply] at hanswer

/-- Two calls that look the same whatever is answered, when the answers do not matter. -/
theorem blind_bind {c c' : S.Call} {f : S.Answer c → Prog S γ} {g : S.Answer c' → Prog S δ}
    {look : Option A} (hc : ∀ answer, seen ⟨c, answer⟩ = look)
    (hc' : ∀ answer, seen ⟨c', answer⟩ = look) (hanswer : Nonempty (S.Answer c))
    (hanswer' : Nonempty (S.Answer c'))
    (h : ∀ answer answer', Renames seen R' (f answer) (g answer')) :
    Renames seen R' (perform c >>= f) (perform c' >>= g) := by
  obtain ⟨some_answer⟩ := hanswer
  obtain ⟨some_answer'⟩ := hanswer'
  refine .call (fun _ => some_answer') (fun _ => some_answer) ?_ ?_ ?_ ?_
  · exact fun answer => (hc answer).trans (hc' some_answer').symm
  · exact fun answer => (hc some_answer).trans (hc' answer).symm
  · exact fun answer => h answer some_answer'
  · exact fun answer => h some_answer answer

/-- The same requirement in both; what follows may rely on it. -/
theorem require_bind {a b : Prop} [Decidable a] [Decidable b] {fault : S.Fault}
    {f : Unit → Prog S γ} {g : Unit → Prog S δ} (hiff : a ↔ b)
    (h : a → Renames seen R' (f ()) (g ())) :
    Renames seen R' (require a fault >>= f) (require b fault >>= g) := by
  unfold require
  by_cases ha : a
  · rw [if_pos ha, if_pos (hiff.mp ha)]
    exact h ha
  · rw [if_neg ha, if_neg (fun hb => ha (hiff.mpr hb))]
    exact .halt fault

theorem symm (h : Renames seen R p q) : Renames seen (fun b a => R a b) q p := by
  induction h with
  | ret hR => exact .ret hR
  | halt fault => exact .halt fault
  | call forth back hforth hback _ _ ih ih' =>
      exact .call back forth (fun answer => (hback answer).symm)
        (fun answer => (hforth answer).symm) ih' ih

/-- Every run of the first program looks like a run of the second. -/
theorem forth (h : Renames seen R p q) {t : List (Event S)} {o : Outcome S α}
    (hrun : Runs p t o) :
    ∃ t' o', Runs q t' o' ∧ t'.filterMap seen = t.filterMap seen ∧ Outcome.Rel R o o' := by
  induction h generalizing t with
  | ret hR =>
      obtain ⟨rfl, rfl⟩ := runs_ret_iff.mp hrun
      exact ⟨[], _, .ret _, rfl, .done hR⟩
  | halt fault =>
      obtain ⟨rfl, rfl⟩ := runs_halt_iff.mp hrun
      exact ⟨[], _, .halt fault, rfl, .halted fault⟩
  | @call c c' _ _ forth _ hforth _ _ _ ih _ =>
      obtain ⟨answer, rest, rfl, hrest⟩ := runs_call_iff.mp hrun
      obtain ⟨t', o', hrun', hlook, hrel⟩ := ih answer hrest
      refine ⟨⟨c', forth answer⟩ :: t', o', .call _ hrun', ?_, hrel⟩
      rw [List.filterMap_cons, List.filterMap_cons, hforth answer, hlook]

end Renames

namespace Machine

variable {Op Ret Obs : Type} {M : Machine S Op Ret} {G : M.Guard}
  {look : List (Event S) → Obs} {R : M.State → M.State → Prop}

/-- `R` relates states from which the steps look the same. The guard does not depend on
the events. -/
structure Matching (G : M.Guard) (look : List (Event S) → Obs) (R : M.State → M.State → Prop) :
    Prop where
  guard : ∀ {s u op} t t', R s u → G s op t → G u op t'
  step : ∀ {s u op t o}, R s u → G s op t → Runs (M.step s op) t o →
    ∃ t' o', Runs (M.step u op) t' o' ∧ look t' = look t ∧
      Outcome.Rel (fun x y => x.1 = y.1 ∧ R x.2 y.2) o o'

namespace Matching

/-- Every history looks like one from every related state. -/
theorem steps (hR : M.Matching G look R) {s s' u : M.State} {h : List (Record S Op Ret)}
    (hs : M.Steps G s h s') (hrel : R s u) :
    ∃ h' u', M.Steps G u h' u' ∧
      h'.map (fun r => (r.op, look r.events, r.ret)) =
        h.map (fun r => (r.op, look r.events, r.ret)) ∧ R s' u' := by
  induction hs generalizing u with
  | nil => exact ⟨[], u, .nil u, rfl, hrel⟩
  | @cons s middle _ r h hguard hrun _ ih =>
      obtain ⟨t, o, hrun', hlook, hend⟩ := hR.step hrel hguard hrun
      obtain ⟨⟨ret, middle'⟩, rfl, rfl, hrel'⟩ := Outcome.rel_done_iff.mp hend
      obtain ⟨h', u', htail, hlog, hfinish⟩ := ih hrel'
      refine ⟨⟨r.op, t, r.ret⟩ :: h', u', .cons (hR.guard _ _ hrel hguard) hrun' htail, ?_,
        hfinish⟩
      rw [List.map_cons, List.map_cons, hlook, hlog]

/-- What can be observed from a state can be observed from every related one. -/
theorem shows (hR : M.Matching G look R) {s u : M.State} (hrel : R s u)
    {log : List (Op × Obs × Ret)} {ending : Ending S Op Obs}
    (hshow : M.Shows G look s log ending) : M.Shows G look u log ending := by
  obtain ⟨h, s', hsteps, rfl, hend⟩ := hshow
  obtain ⟨h', u', hsteps', hlog, hrel'⟩ := hR.steps hsteps hrel
  refine ⟨h', u', hsteps', hlog.symm, ?_⟩
  rcases hend with hrunning | ⟨op, t, fault, rfl, hguard, hhalt⟩
  · exact Or.inl hrunning
  · obtain ⟨t', o, hhalt', hlook, hend⟩ := hR.step hrel' hguard hhalt
    cases hend
    exact Or.inr ⟨op, t', fault, by rw [hlook], hR.guard _ _ hrel' hguard, hhalt'⟩

end Matching

/-- **Matched steps cannot be told apart.** -/
theorem ObsEq.of_matching (hR : M.Matching G look R) (hback : M.Matching G look fun u s => R s u)
    {s u : M.State} (hrel : R s u) : M.ObsEq G look s u :=
  fun _ _ => ⟨hR.shows hrel, hback.shows hrel⟩

theorem ObsEq.symm {s u : M.State} (h : M.ObsEq G look s u) : M.ObsEq G look u s :=
  fun log ending => (h log ending).symm

theorem ObsEq.trans {s u v : M.State} (h : M.ObsEq G look s u) (h' : M.ObsEq G look u v) :
    M.ObsEq G look s v :=
  fun log ending => (h log ending).trans (h' log ending)

/-- What a client that only sees the image under `f` observes. -/
theorem ObsEq.shows_coarsen {Obs' : Type} {f : Obs → Obs'} {s u : M.State}
    (h : M.ObsEq G look s u) {log : List (Op × Obs' × Ret)} {ending : Ending S Op Obs'}
    (hshow : M.Shows G (f ∘ look) s log ending) : M.Shows G (f ∘ look) u log ending := by
  obtain ⟨hist, s', hsteps, rfl, hend⟩ := hshow
  -- The finer log and ending are observed from `u` too, along some other history.
  have hfiner : ∃ ending', M.Shows G look u (hist.map fun r => (r.op, look r.events, r.ret)) ending' ∧
      ((ending = .running ∧ ending' = .running) ∨ ∃ op t fault,
        ending = .stopped op (f (look t)) fault ∧ ending' = .stopped op (look t) fault) := by
    rcases hend with rfl | ⟨op, t, fault, rfl, hguard, hhalt⟩
    · exact ⟨.running, (h _ _).mp ⟨hist, s', hsteps, rfl, Or.inl rfl⟩, Or.inl ⟨rfl, rfl⟩⟩
    · refine ⟨.stopped op (look t) fault, (h _ _).mp ⟨hist, s', hsteps, rfl, ?_⟩, ?_⟩
      · exact Or.inr ⟨op, t, fault, rfl, hguard, hhalt⟩
      · exact Or.inr ⟨op, t, fault, rfl, rfl⟩
  obtain ⟨ending', ⟨hist', u', hsteps', hlog, hend'⟩, hsame⟩ := hfiner
  refine ⟨hist', u', hsteps', ?_, ?_⟩
  · have hmapped := congrArg (List.map fun x => (x.1, f x.2.1, x.2.2)) hlog
    rw [List.map_map, List.map_map] at hmapped
    exact hmapped
  · rcases hsame with ⟨rfl, rfl⟩ | ⟨op, t, fault, rfl, rfl⟩
    · exact Or.inl rfl
    · rcases hend' with hrunning | ⟨op', t', fault', heq, hguard', hhalt'⟩
      · cases hrunning
      · obtain ⟨rfl, hlook, rfl⟩ := Ending.stopped.inj heq
        exact Or.inr ⟨op, t', fault, by rw [hlook]; rfl, hguard', hhalt'⟩

/-- A client that sees less cannot tell more apart. -/
theorem ObsEq.coarsen {Obs' : Type} {s u : M.State} (h : M.ObsEq G look s u) (f : Obs → Obs') :
    M.ObsEq G (f ∘ look) s u :=
  fun _ _ => ⟨h.shows_coarsen, h.symm.shows_coarsen⟩

/-- `R` relates states from which the steps only name their calls differently. -/
structure Renaming (seen : Event S → Option A) (G : M.Guard) (R : M.State → M.State → Prop) :
    Prop where
  guard : ∀ {s u op} t t', R s u → (G s op t ↔ G u op t')
  step : ∀ {s u op} t, R s u → G s op t →
    Renames seen (fun x y => x.1 = y.1 ∧ R x.2 y.2) (M.step s op) (M.step u op)

/-- **A client that sees the same of the calls cannot tell related states apart.** -/
theorem Renaming.obsEq (hR : M.Renaming seen G R) {s u : M.State} (hrel : R s u) :
    M.ObsEq G (List.filterMap seen) s u := by
  refine ObsEq.of_matching ⟨?_, ?_⟩ ⟨?_, ?_⟩ hrel
  · exact fun t t' hrel => (hR.guard t t' hrel).mp
  · exact fun hrel hguard hrun => (hR.step _ hrel hguard).forth hrun
  · exact fun t t' hrel => (hR.guard t' t hrel).mpr
  · intro u s op t o hrel hguard hrun
    have hsymm := (hR.step t hrel ((hR.guard t t hrel).mpr hguard)).symm
    obtain ⟨t', o', hrun', hlook, hend⟩ := hsymm.forth hrun
    refine ⟨t', o', hrun', hlook, ?_⟩
    cases hend with
    | done h => exact .done ⟨h.1.symm, h.2⟩
    | halted fault => exact .halted fault

end Machine

end CallProgram
