import ImxDmaBuffer.Library.CallContracts

/-!
# Programs that differ in hidden calls

Some calls of a program may be of no interest to the reader of its trace:
`erase hidden t` is the trace `t` without them.  `Erases hidden R p q` says that
program `q` is program `p` with its hidden calls left out, up to results related
by `R`.  It is a relation of the two trees, so it is proved along the code:
`Erases.bind`, `Erases.map` and `Erases.require` compose it.

* `Erases.forth` and `Erases.back`: the runs of `q` are the runs of `p` with the
  hidden calls erased.
* `Machine.Erasure` is the same for machines.  Their histories correspond
  (`Erasure.steps_forth`, `Erasure.steps_back`), and a client that does not see the
  hidden calls cannot tell related states apart (`Erasure.obsEq`).
* Where every call whose answer is not seen can only be answered in one way, the
  seen answers determine the whole history (`Steps.eq_of_seen`), and from related
  states the same history but for the hidden calls (`Erasure.eq_of_seen`).
-/

namespace CallProgram

variable {S : Signature} {α β γ δ A : Type} {hidden : S.Call → Bool}

/-- A trace without the hidden calls. -/
def erase (hidden : S.Call → Bool) (t : List (Event S)) : List (Event S) :=
  t.filter (fun e => !hidden e.call)

@[simp] theorem erase_nil : erase hidden [] = [] := rfl

@[simp] theorem erase_append (t t' : List (Event S)) :
    erase hidden (t ++ t') = erase hidden t ++ erase hidden t' :=
  List.filter_append t t'

@[simp] theorem erase_erase (t : List (Event S)) : erase hidden (erase hidden t) = erase hidden t := by
  simp [erase]

theorem erase_cons_hidden {e : Event S} (h : hidden e.call = true) (t : List (Event S)) :
    erase hidden (e :: t) = erase hidden t := by
  simp [erase, h]

theorem erase_cons_visible {e : Event S} (h : hidden e.call = false) (t : List (Event S)) :
    erase hidden (e :: t) = e :: erase hidden t := by
  simp [erase, h]

/-- Erasing what is not seen anyway. -/
theorem filterMap_erase {seen : Event S → Option A}
    (hunseen : ∀ e, hidden e.call = true → seen e = none) (t : List (Event S)) :
    (erase hidden t).filterMap seen = t.filterMap seen := by
  induction t with
  | nil => rfl
  | cons e t ih =>
      cases hcall : hidden e.call with
      | true => rw [erase_cons_hidden hcall, List.filterMap_cons_none (hunseen e hcall), ih]
      | false => rw [erase_cons_visible hcall, List.filterMap_cons, List.filterMap_cons, ih]

/-- Two programs end alike: with related results, or at the same fault. -/
inductive Outcome.Rel (R : α → β → Prop) : Outcome S α → Outcome S β → Prop
  | done {a : α} {b : β} (h : R a b) : Rel R (.done a) (.done b)
  | halted (fault : S.Fault) : Rel R (.halted fault) (.halted fault)

theorem Outcome.rel_done_iff {R : α → β → Prop} {a : α} {o : Outcome S β} :
    Outcome.Rel R (.done a) o ↔ ∃ b, o = .done b ∧ R a b := by
  constructor
  · intro h
    cases h with
    | done h => exact ⟨_, rfl, h⟩
  · intro h
    obtain ⟨b, rfl, h⟩ := h
    exact .done h

theorem Outcome.rel_done_right_iff {R : α → β → Prop} {b : β} {o : Outcome S α} :
    Outcome.Rel R o (.done b) ↔ ∃ a, o = .done a ∧ R a b := by
  constructor
  · intro h
    cases h with
    | done h => exact ⟨_, rfl, h⟩
  · intro h
    obtain ⟨a, rfl, h⟩ := h
    exact .done h

/-- The second program is the first one with the hidden calls left out. -/
inductive Erases (hidden : S.Call → Bool) (R : α → β → Prop) : Prog S α → Prog S β → Prop
  | ret {a : α} {b : β} (h : R a b) : Erases hidden R (.ret a) (.ret b)
  | halt (fault : S.Fault) : Erases hidden R (.halt fault) (.halt fault)
  | call {c : S.Call} {next : S.Answer c → Prog S α} {next' : S.Answer c → Prog S β}
      (hvisible : hidden c = false) (h : ∀ answer, Erases hidden R (next answer) (next' answer)) :
      Erases hidden R (.call c next) (.call c next')
  | skip {c : S.Call} {next : S.Answer c → Prog S α} {q : Prog S β}
      (hhidden : hidden c = true) (h : ∀ answer, Erases hidden R (next answer) q) :
      Erases hidden R (.call c next) q

namespace Erases

variable {R : α → β → Prop} {R' : γ → δ → Prop} {p : Prog S α} {q : Prog S β}

/-- Related continuations of related programs. -/
theorem bind {f : α → Prog S γ} {g : β → Prog S δ} (h : Erases hidden R p q)
    (hcont : ∀ a b, R a b → Erases hidden R' (f a) (g b)) :
    Erases hidden R' (p >>= f) (q >>= g) := by
  induction h with
  | ret hR => exact hcont _ _ hR
  | halt fault => exact .halt fault
  | call hvisible _ ih => exact .call hvisible ih
  | skip hhidden _ ih => exact .skip hhidden ih

/-- Related results of related programs. -/
theorem map {f : α → γ} {g : β → δ} (h : Erases hidden R p q)
    (hresult : ∀ a b, R a b → R' (f a) (g b)) : Erases hidden R' (f <$> p) (g <$> q) := by
  rw [map_eq_pure_bind, map_eq_pure_bind]
  exact h.bind (fun a b hR => .ret (hresult a b hR))

/-- A call that is visible in both. -/
theorem perform_bind {c : S.Call} {f : S.Answer c → Prog S γ} {g : S.Answer c → Prog S δ}
    (hvisible : hidden c = false) (h : ∀ answer, Erases hidden R' (f answer) (g answer)) :
    Erases hidden R' (perform c >>= f) (perform c >>= g) :=
  .call hvisible h

/-- A hidden call of the first program. -/
theorem skip_bind {c : S.Call} {f : S.Answer c → Prog S γ} {r : Prog S δ}
    (hhidden : hidden c = true) (h : ∀ answer, Erases hidden R' (f answer) r) :
    Erases hidden R' (perform c >>= f) r :=
  .skip hhidden h

/-- The same requirement in both; what follows may rely on it. -/
theorem require_bind {a b : Prop} [Decidable a] [Decidable b] {fault : S.Fault}
    {f : Unit → Prog S γ} {g : Unit → Prog S δ} (hiff : a ↔ b)
    (h : a → Erases hidden R' (f ()) (g ())) :
    Erases hidden R' (require a fault >>= f) (require b fault >>= g) := by
  unfold require
  by_cases ha : a
  · rw [if_pos ha, if_pos (hiff.mp ha)]
    exact h ha
  · rw [if_neg ha, if_neg (fun hb => ha (hiff.mpr hb))]
    exact .halt fault

/-- A run of the first program is, without the hidden calls, one of the second. -/
theorem forth (h : Erases hidden R p q) {t : List (Event S)} {o : Outcome S α}
    (hrun : Runs p t o) : ∃ o', Runs q (erase hidden t) o' ∧ Outcome.Rel R o o' := by
  induction h generalizing t with
  | ret hR =>
      obtain ⟨rfl, rfl⟩ := runs_ret_iff.mp hrun
      exact ⟨_, .ret _, .done hR⟩
  | halt fault =>
      obtain ⟨rfl, rfl⟩ := runs_halt_iff.mp hrun
      exact ⟨_, .halt fault, .halted fault⟩
  | call hvisible _ ih =>
      obtain ⟨answer, rest, rfl, hrest⟩ := runs_call_iff.mp hrun
      obtain ⟨o', hrun', hrel⟩ := ih answer hrest
      rw [erase_cons_visible hvisible]
      exact ⟨o', .call answer hrun', hrel⟩
  | skip hhidden _ ih =>
      obtain ⟨answer, rest, rfl, hrest⟩ := runs_call_iff.mp hrun
      rw [erase_cons_hidden hhidden]
      exact ih answer hrest

/-- A run of the second program comes from one of the first, if the hidden calls
have answers. -/
theorem back (hanswer : ∀ c, hidden c = true → Nonempty (S.Answer c))
    (h : Erases hidden R p q) {t : List (Event S)} {o : Outcome S β} (hrun : Runs q t o) :
    ∃ t' o', Runs p t' o' ∧ erase hidden t' = t ∧ Outcome.Rel R o' o := by
  induction h generalizing t with
  | ret hR =>
      obtain ⟨rfl, rfl⟩ := runs_ret_iff.mp hrun
      exact ⟨[], _, .ret _, rfl, .done hR⟩
  | halt fault =>
      obtain ⟨rfl, rfl⟩ := runs_halt_iff.mp hrun
      exact ⟨[], _, .halt fault, rfl, .halted fault⟩
  | call hvisible _ ih =>
      obtain ⟨answer, rest, rfl, hrest⟩ := runs_call_iff.mp hrun
      obtain ⟨t', o', hrun', rfl, hrel⟩ := ih answer hrest
      exact ⟨⟨_, answer⟩ :: t', o', .call answer hrun', erase_cons_visible hvisible t', hrel⟩
  | @skip c _ _ hhidden _ ih =>
      obtain ⟨answer⟩ := hanswer c hhidden
      obtain ⟨t', o', hrun', rfl, hrel⟩ := ih answer hrun
      exact ⟨⟨c, answer⟩ :: t', o', .call answer hrun', erase_cons_hidden hhidden t', hrel⟩

end Erases

/-- What is seen of the call's answer tells the answer: either the answer can be
read off, or it is the only one and is not shown. -/
def Settles (seen : Event S → Option A) (c : S.Call) : Prop :=
  (∃ code : S.Answer c → A, code.Injective ∧ ∀ answer, seen ⟨c, answer⟩ = some (code answer)) ∨
    (Subsingleton (S.Answer c) ∧ ∀ answer, seen ⟨c, answer⟩ = none)

/-- **The seen answers determine the run**, also when more of them follow. -/
theorem Runs.eq_of_seen {seen : Event S → Option A} {p : Prog S α} {t t' : List (Event S)}
    {o o' : Outcome S α} {x y : List A} {C : S.Call → Prop} {Q : α → Prop}
    (hsettles : ∀ c, C c → Settles seen c) (hp : p.Meets (.ofCalls C) Q) (h : Runs p t o)
    (h' : Runs p t' o') (heq : t.filterMap seen ++ x = t'.filterMap seen ++ y) :
    t = t' ∧ o = o' ∧ x = y := by
  induction h generalizing t' with
  | ret a =>
      obtain ⟨rfl, rfl⟩ := runs_ret_iff.mp h'
      exact ⟨rfl, rfl, heq⟩
  | halt fault =>
      obtain ⟨rfl, rfl⟩ := runs_halt_iff.mp h'
      exact ⟨rfl, rfl, heq⟩
  | @call c _ t _ answer _ ih =>
      obtain ⟨answer', rest, rfl, hrest⟩ := runs_call_iff.mp h'
      rcases hsettles c hp.1 with ⟨code, hinj, hcode⟩ | ⟨hone, hnone⟩
      · rw [List.filterMap_cons_some (hcode answer), List.filterMap_cons_some (hcode answer'),
          List.cons_append, List.cons_append] at heq
        obtain ⟨hhead, htail⟩ := List.cons.inj heq
        obtain rfl := hinj hhead
        obtain ⟨rfl, rfl, rfl⟩ := ih (hp.2 answer trivial) hrest htail
        exact ⟨rfl, rfl, rfl⟩
      · obtain rfl := hone.elim answer answer'
        rw [List.filterMap_cons_none (hnone answer), List.filterMap_cons_none (hnone answer)] at heq
        obtain ⟨rfl, rfl, rfl⟩ := ih (hp.2 answer trivial) hrest heq
        exact ⟨rfl, rfl, rfl⟩

/-- A served operation without its hidden calls. -/
def Record.erase {Op Ret : Type} (hidden : S.Call → Bool) (r : Record S Op Ret) :
    Record S Op Ret :=
  { r with events := CallProgram.erase hidden r.events }

theorem historyEvents_erase {Op Ret : Type} (h : List (Record S Op Ret)) :
    historyEvents (h.map (Record.erase hidden)) = erase hidden (historyEvents h) := by
  induction h with
  | nil => rfl
  | cons r h ih =>
      unfold historyEvents at ih ⊢
      rw [List.map_cons, List.flatMap_cons, List.flatMap_cons, erase_append, ih, Record.erase]

namespace Machine

variable {Op Ret : Type} {M : Machine S Op Ret} {G : M.Guard}

/-- `R` relates states from which the steps are the same but for hidden calls.
The guard does not depend on the events. -/
structure Erasure (hidden : S.Call → Bool) (G : M.Guard) (R : M.State → M.State → Prop) :
    Prop where
  answer : ∀ c, hidden c = true → Nonempty (S.Answer c)
  guard : ∀ {s u op} t t', R s u → (G s op t ↔ G u op t')
  step : ∀ {s u op} t, R s u → G s op t →
    Erases hidden (fun x y => x.1 = y.1 ∧ R x.2 y.2) (M.step s op) (M.step u op)

namespace Erasure

variable {R : M.State → M.State → Prop} {s u s' u' : M.State} {h : List (Record S Op Ret)}

/-- A history is, without the hidden calls, one from every related state. -/
theorem steps_forth (hR : M.Erasure hidden G R) (hs : M.Steps G s h s') (hrel : R s u) :
    ∃ u', M.Steps G u (h.map (Record.erase hidden)) u' ∧ R s' u' := by
  induction hs generalizing u with
  | nil => exact ⟨u, .nil u, hrel⟩
  | @cons s middle _ r _ hguard hrun _ ih =>
      obtain ⟨o', hrun', hend⟩ := (hR.step _ hrel hguard).forth hrun
      obtain ⟨⟨ret, middle'⟩, rfl, rfl, hrel'⟩ := Outcome.rel_done_iff.mp hend
      obtain ⟨u', htail, hfinish⟩ := ih hrel'
      exact ⟨u', .cons ((hR.guard _ _ hrel).mp hguard) hrun' htail, hfinish⟩

/-- Conversely, a history from a related state comes from one with hidden calls. -/
theorem steps_back (hR : M.Erasure hidden G R) (hs : M.Steps G u h u') (hrel : R s u) :
    ∃ h' s', M.Steps G s h' s' ∧ h'.map (Record.erase hidden) = h ∧ R s' u' := by
  induction hs generalizing s with
  | nil => exact ⟨[], s, .nil s, rfl, hrel⟩
  | @cons u middle _ r _ hguard hrun _ ih =>
      have hguard' := (hR.guard r.events r.events hrel).mpr hguard
      obtain ⟨t, o, hrun', ht, hend⟩ := (hR.step _ hrel hguard').back hR.answer hrun
      obtain ⟨⟨ret, middle'⟩, rfl, rfl, hrel'⟩ := Outcome.rel_done_right_iff.mp hend
      obtain ⟨h', s', htail, rfl, hfinish⟩ := ih hrel'
      refine ⟨⟨r.op, t, r.ret⟩ :: h', s',
        .cons ((hR.guard _ _ hrel).mpr hguard) hrun' htail, ?_, hfinish⟩
      rw [List.map_cons, Record.erase, ht]

/-- **A client that does not see the hidden calls cannot tell related states
apart.** -/
theorem obsEq (hR : M.Erasure hidden G R) (hrel : R s u) :
    M.ObsEq G (CallProgram.erase hidden) s u := by
  intro log ending
  constructor
  · intro hshow
    obtain ⟨h, s', hsteps, rfl, hend⟩ := hshow
    obtain ⟨u', hsteps', hrel'⟩ := hR.steps_forth hsteps hrel
    refine ⟨_, u', hsteps', ?_, ?_⟩
    · simp [Record.erase, Function.comp_def]
    · rcases hend with hrunning | ⟨op, t, fault, rfl, hguard, hhalt⟩
      · exact Or.inl hrunning
      · obtain ⟨o', hhalt', hrel''⟩ := (hR.step _ hrel' hguard).forth hhalt
        cases hrel''
        refine Or.inr ⟨op, _, fault, ?_, (hR.guard _ _ hrel').mp hguard, hhalt'⟩
        rw [erase_erase]
  · intro hshow
    obtain ⟨h, u', hsteps, rfl, hend⟩ := hshow
    obtain ⟨h', s', hsteps', rfl, hrel'⟩ := hR.steps_back hsteps hrel
    refine ⟨h', s', hsteps', ?_, ?_⟩
    · simp [Record.erase, Function.comp_def]
    · rcases hend with hrunning | ⟨op, t, fault, rfl, hguard, hhalt⟩
      · exact Or.inl hrunning
      · have hguard' := (hR.guard t t hrel').mpr hguard
        obtain ⟨t', o, hhalt', rfl, hrel''⟩ := (hR.step _ hrel' hguard').back hR.answer hhalt
        cases hrel''
        refine Or.inr ⟨op, t', fault, ?_, (hR.guard _ _ hrel').mpr hguard, hhalt'⟩
        rw [erase_erase]

end Erasure

/-- **The seen answers determine the history** and the state reached, while an
invariant bounds the calls that are issued. -/
theorem Steps.eq_of_seen {seen : Event S → Option A} {C : S.Call → Prop} {I : M.State → Prop}
    {G' : M.Guard} (hsettles : ∀ c, C c → Settles seen c)
    (hstep : ∀ s op, I s → (M.step s op).Meets (.ofCalls C) fun r => I r.2)
    {s s' u' : M.State} {h h' : List (Record S Op Ret)} (hs : M.Steps G s h s')
    (hu : M.Steps G' s h' u') (hI : I s) (hops : h.map Record.op = h'.map Record.op)
    (hseen : (historyEvents h).filterMap seen = (historyEvents h').filterMap seen) :
    h = h' ∧ s' = u' := by
  induction hs generalizing h' with
  | nil =>
      obtain rfl := List.map_eq_nil_iff.mp hops.symm
      cases hu
      exact ⟨rfl, rfl⟩
  | @cons s middle _ r h _ hrun _ ih =>
      cases hu with
      | nil => cases hops
      | @cons _ middle' _ r' h' _ hrun' tail =>
          obtain ⟨hop, hops⟩ := List.cons.inj hops
          rw [← hop] at hrun'
          simp only [historyEvents, List.flatMap_cons, List.filterMap_append] at hseen
          obtain ⟨hevents, houtcome, hrest⟩ :=
            hrun.eq_of_seen hsettles (hstep _ _ hI) hrun' hseen
          obtain ⟨hret, rfl⟩ := Prod.mk.inj (Outcome.done.inj houtcome)
          have hmiddle := ((hstep _ _ hI).done hrun (fun _ _ => trivial)).2
          obtain ⟨rfl, rfl⟩ := ih tail hmiddle hops hrest
          have hrecord : r = r' := by
            rw [Record.mk.injEq]
            exact ⟨hop, hevents, hret⟩
          exact ⟨congrArg (· :: h) hrecord, rfl⟩

/-- From related states, the same operations with the same seen answers give the
same history but for the hidden calls, and end in related states. -/
theorem Erasure.eq_of_seen {R : M.State → M.State → Prop} (hR : M.Erasure hidden G R)
    {seen : Event S → Option A} (hunseen : ∀ e, hidden e.call = true → seen e = none)
    {C : S.Call → Prop} {I : M.State → Prop} (hsettles : ∀ c, C c → Settles seen c)
    (hstep : ∀ s op, I s → (M.step s op).Meets (.ofCalls C) fun r => I r.2)
    {s u s' u' : M.State} {h h' : List (Record S Op Ret)} (hs : M.Steps G s h s')
    (hu : M.Steps G u h' u') (hrel : R s u) (hI : I u) (hops : h.map Record.op = h'.map Record.op)
    (hseen : (historyEvents h).filterMap seen = (historyEvents h').filterMap seen) :
    h' = h.map (Record.erase hidden) ∧ R s' u' := by
  obtain ⟨v, hv, hrel'⟩ := hR.steps_forth hs hrel
  have hops' : (h.map (Record.erase hidden)).map Record.op = h'.map Record.op := by
    rw [← hops, List.map_map]
    rfl
  have hseen' : (historyEvents (h.map (Record.erase hidden))).filterMap seen =
      (historyEvents h').filterMap seen := by
    rw [historyEvents_erase, filterMap_erase hunseen, hseen]
  obtain ⟨rfl, rfl⟩ := hv.eq_of_seen hsettles hstep hu hI hops' hseen'
  exact ⟨rfl, hrel'⟩

end Machine

end CallProgram
