import Mathlib.Logic.Basic

/-!
# Programs that call an answering environment

A program is a finite tree: it returns, it stops at a fault, or it issues a
call and continues with whatever the environment answers.  Nothing is assumed
about the environment, so a property proved of every run of the tree holds for
every combination of answers.

`Runs p t o` says that program `p` can issue exactly the calls recorded in the
trace `t`, each with the recorded answer, and then ends with outcome `o`.  The
trace determines the outcome (`Runs.outcome_unique`), and the rules
`runs_ret_iff`, `runs_call_iff`, `runs_bind_iff` take the runs of a concrete
program apart.
-/

namespace CallProgram

/-- What programs may ask of their environment: the calls, the type of each
call's answer, and the faults that stop a program. -/
structure Signature where
  Call : Type
  Answer : Call → Type
  Fault : Type

variable {S : Signature} {α β γ : Type}

/-- A program over the calls of `S` with a result in `α`. -/
inductive Prog (S : Signature) (α : Type) where
  | ret (a : α)
  | halt (fault : S.Fault)
  | call (c : S.Call) (next : S.Answer c → Prog S α)

namespace Prog

/-- Continue with `f` where the program returns. -/
protected def bind : Prog S α → (α → Prog S β) → Prog S β
  | .ret a, f => f a
  | .halt fault, _ => .halt fault
  | .call c next, f => .call c (fun answer => (next answer).bind f)

instance : Monad (Prog S) where
  pure := .ret
  bind := Prog.bind

@[simp] theorem pure_eq_ret (a : α) : (pure a : Prog S α) = .ret a := rfl

@[simp] theorem ret_bind (a : α) (f : α → Prog S β) : (Prog.ret a >>= f) = f a := rfl

@[simp] theorem halt_bind (fault : S.Fault) (f : α → Prog S β) :
    (Prog.halt fault >>= f) = .halt fault := rfl

@[simp] theorem call_bind (c : S.Call) (next : S.Answer c → Prog S α) (f : α → Prog S β) :
    (Prog.call c next >>= f) = .call c (fun answer => next answer >>= f) := rfl

@[simp] theorem map_ret (f : α → β) (a : α) : f <$> (Prog.ret a : Prog S α) = .ret (f a) := rfl

@[simp] theorem map_halt (f : α → β) (fault : S.Fault) :
    f <$> (Prog.halt fault : Prog S α) = .halt fault := rfl

@[simp] theorem map_call (f : α → β) (c : S.Call) (next : S.Answer c → Prog S α) :
    f <$> Prog.call c next = .call c (fun answer => f <$> next answer) := rfl

theorem map_ite (f : α → β) (c : Prop) [Decidable c] (p q : Prog S α) :
    f <$> (if c then p else q) = if c then f <$> p else f <$> q :=
  apply_ite (f <$> ·) c p q

theorem ite_bind (f : α → Prog S β) (c : Prop) [Decidable c] (p q : Prog S α) :
    (if c then p else q) >>= f = if c then p >>= f else q >>= f :=
  apply_ite (· >>= f) c p q

theorem bind_ret (p : Prog S α) : (p >>= Prog.ret) = p := by
  induction p with
  | ret a => rfl
  | halt fault => rfl
  | call c next ih => exact congrArg (Prog.call c) (funext ih)

theorem bind_assoc (p : Prog S α) (f : α → Prog S β) (g : β → Prog S γ) :
    (p >>= f >>= g) = p >>= fun a => f a >>= g := by
  induction p with
  | ret a => rfl
  | halt fault => rfl
  | call c next ih => exact congrArg (Prog.call c) (funext ih)

instance : LawfulMonad (Prog S) := LawfulMonad.mk' (Prog S) bind_ret (fun _ _ => rfl) bind_assoc

end Prog

/-- Issue one call and return its answer. -/
def perform (c : S.Call) : Prog S (S.Answer c) := .call c .ret

@[simp] theorem perform_bind (c : S.Call) (f : S.Answer c → Prog S β) :
    (perform c >>= f) = .call c f := rfl

/-- Go on when `p` holds, stop at `fault` when it does not. -/
def require (p : Prop) [Decidable p] (fault : S.Fault) : Prog S Unit :=
  if p then .ret () else .halt fault

/-- Run `f` on a value, on the result of that, and so on, `n` times. -/
def times (f : α → Prog S α) : Nat → α → Prog S α
  | 0, a => .ret a
  | n + 1, a => f a >>= times f n

/-- Along a view that `f` and `g` respect, repeating one is repeating the other. -/
theorem times_view {view : α → β} {f : α → Prog S α} {g : β → Prog S β}
    (h : ∀ a, g (view a) = view <$> f a) (n : Nat) (a : α) :
    times g n (view a) = view <$> times f n a := by
  induction n generalizing a with
  | zero => rfl
  | succ n ih => simp only [times, h, map_bind, bind_map_left, ih]

/-- One call together with the answer the environment gave. -/
structure Event (S : Signature) where
  call : S.Call
  answer : S.Answer call

/-- How a run of a program ends. -/
inductive Outcome (S : Signature) (α : Type) where
  | done (a : α)
  | halted (fault : S.Fault)

/-- `Runs p t o`: program `p` issues exactly the calls of `t`, is answered as
recorded there, and ends with outcome `o`. -/
inductive Runs : Prog S α → List (Event S) → Outcome S α → Prop
  | ret (a : α) : Runs (.ret a) [] (.done a)
  | halt (fault : S.Fault) : Runs (.halt fault) [] (.halted fault)
  | call {c : S.Call} {next : S.Answer c → Prog S α} {t : List (Event S)} {o : Outcome S α}
      (answer : S.Answer c) (rest : Runs (next answer) t o) :
      Runs (.call c next) (⟨c, answer⟩ :: t) o

section Rules

variable {t : List (Event S)} {o : Outcome S α}

@[simp] theorem runs_ret_iff {a : α} : Runs (.ret a) t o ↔ t = [] ∧ o = .done a := by
  constructor
  · rintro ⟨⟩
    exact ⟨rfl, rfl⟩
  · rintro ⟨rfl, rfl⟩
    exact .ret a

@[simp] theorem runs_halt_iff {fault : S.Fault} :
    Runs (α := α) (.halt fault) t o ↔ t = [] ∧ o = .halted fault := by
  constructor
  · rintro ⟨⟩
    exact ⟨rfl, rfl⟩
  · rintro ⟨rfl, rfl⟩
    exact .halt fault

@[simp] theorem runs_call_iff {c : S.Call} {next : S.Answer c → Prog S α} :
    Runs (.call c next) t o ↔
      ∃ answer rest, t = ⟨c, answer⟩ :: rest ∧ Runs (next answer) rest o := by
  constructor
  · rintro ⟨⟩
    exact ⟨_, _, rfl, by assumption⟩
  · rintro ⟨answer, rest, rfl, hrest⟩
    exact .call answer hrest

/-- A run of `p >>= f` that completes splits into completed runs of both parts. -/
theorem runs_bind_done_iff {p : Prog S α} {f : α → Prog S β} {t : List (Event S)} {b : β} :
    Runs (p >>= f) t (.done b) ↔
      ∃ first second a, t = first ++ second ∧ Runs p first (.done a) ∧
        Runs (f a) second (.done b) := by
  induction p generalizing t with
  | ret a =>
      constructor
      · exact fun h => ⟨[], t, a, rfl, .ret a, h⟩
      · rintro ⟨_, _, _, rfl, ⟨⟩, h⟩
        exact h
  | halt fault => simp
  | call c next ih =>
      simp only [Prog.call_bind, runs_call_iff, ih]
      constructor
      · rintro ⟨answer, _, rfl, first, second, a, rfl, hfirst, hsecond⟩
        exact ⟨_, second, a, rfl, ⟨answer, first, rfl, hfirst⟩, hsecond⟩
      · rintro ⟨_, second, a, rfl, ⟨answer, first, rfl, hfirst⟩, hsecond⟩
        exact ⟨answer, _, rfl, first, second, a, rfl, hfirst, hsecond⟩

/-- A run of `p >>= f` that stops at a fault stops in the first part, or in the
second after the first part completed. -/
theorem runs_bind_halted_iff {p : Prog S α} {f : α → Prog S β} {t : List (Event S)}
    {fault : S.Fault} :
    Runs (p >>= f) t (.halted fault) ↔
      Runs p t (.halted fault) ∨ ∃ first second a, t = first ++ second ∧
        Runs p first (.done a) ∧ Runs (f a) second (.halted fault) := by
  induction p generalizing t with
  | ret a =>
      constructor
      · exact fun h => Or.inr ⟨[], t, a, rfl, .ret a, h⟩
      · rintro (⟨⟨⟩⟩ | ⟨_, _, _, rfl, ⟨⟩, h⟩)
        exact h
  | halt fault => simp
  | call c next ih =>
      simp only [Prog.call_bind, runs_call_iff, ih]
      constructor
      · rintro ⟨answer, _, rfl, hstop | ⟨first, second, a, rfl, hfirst, hsecond⟩⟩
        · exact Or.inl ⟨answer, _, rfl, hstop⟩
        · exact Or.inr ⟨_, second, a, rfl, ⟨answer, first, rfl, hfirst⟩, hsecond⟩
      · rintro (⟨answer, rest, rfl, hstop⟩ | ⟨_, second, a, rfl, ⟨answer, first, rfl, hfirst⟩, hsecond⟩)
        · exact ⟨answer, rest, rfl, Or.inl hstop⟩
        · exact ⟨answer, _, rfl, Or.inr ⟨first, second, a, rfl, hfirst, hsecond⟩⟩

/-- Apply a function to a completed outcome. -/
def Outcome.map (f : α → β) : Outcome S α → Outcome S β
  | .done a => .done (f a)
  | .halted fault => .halted fault

theorem Outcome.map_eq_halted_iff {f : α → β} {o : Outcome S α} {fault : S.Fault} :
    o.map f = .halted fault ↔ o = .halted fault := by
  cases o with
  | done a => exact ⟨fun h => (by cases h), fun h => (by cases h)⟩
  | halted fault' => simp only [Outcome.map, Outcome.halted.injEq]

/-- The runs of `f <$> p` are the runs of `p` with `f` applied to the result. -/
theorem runs_map_iff {f : α → β} {p : Prog S α} {t : List (Event S)} {o : Outcome S β} :
    Runs (f <$> p) t o ↔ ∃ o', Runs p t o' ∧ o = o'.map f := by
  induction p generalizing t with
  | ret a => simp [Outcome.map, and_assoc]
  | halt fault => simp [Outcome.map, and_assoc]
  | call c next ih =>
      simp only [Prog.map_call, runs_call_iff, ih]
      constructor
      · rintro ⟨answer, rest, rfl, o', hrest, rfl⟩
        exact ⟨o', ⟨answer, rest, rfl, hrest⟩, rfl⟩
      · rintro ⟨o', ⟨answer, rest, rfl, hrest⟩, rfl⟩
        exact ⟨answer, rest, rfl, o', hrest, rfl⟩

/-- A completed run of `f <$> p` comes from a completed run of `p`. -/
theorem runs_map_done_iff {f : α → β} {p : Prog S α} {t : List (Event S)} {b : β} :
    Runs (f <$> p) t (.done b) ↔ ∃ a, Runs p t (.done a) ∧ f a = b := by
  rw [runs_map_iff]
  constructor
  · rintro ⟨o' | _, hrun, heq⟩
    · exact ⟨_, hrun, (Outcome.done.inj heq).symm⟩
    · cases heq
  · rintro ⟨a, hrun, rfl⟩
    exact ⟨_, hrun, rfl⟩

/-- A faulting run of `f <$> p` is a faulting run of `p`. -/
theorem runs_map_halted_iff {f : α → β} {p : Prog S α} {t : List (Event S)} {fault : S.Fault} :
    Runs (f <$> p) t (.halted fault) ↔ Runs p t (.halted fault) := by
  rw [runs_map_iff]
  constructor
  · rintro ⟨_ | _, hrun, heq⟩
    · cases heq
    · cases heq
      exact hrun
  · intro hrun
    exact ⟨_, hrun, rfl⟩

@[simp] theorem runs_require_done_iff {p : Prop} [Decidable p] {fault : S.Fault} {u : Unit} :
    Runs (require p fault) t (.done u) ↔ p ∧ t = [] := by
  unfold require
  by_cases hp : p <;> simp [hp]

theorem runs_ret_done_iff {a b : α} : Runs (S := S) (.ret a) t (.done b) ↔ t = [] ∧ a = b := by
  rw [runs_ret_iff]
  constructor
  · intro h
    exact ⟨h.1, (Outcome.done.inj h.2).symm⟩
  · intro h
    rw [h.2]
    exact ⟨h.1, rfl⟩

/-- A program that starts with a requirement completes only if it is met. -/
theorem runs_require_bind_iff {p : Prop} [Decidable p] {fault : S.Fault} {f : Unit → Prog S β}
    {b : β} :
    Runs (require p fault >>= f) t (.done b) ↔ p ∧ Runs (f ()) t (.done b) := by
  unfold require
  by_cases hp : p <;> simp [hp]

/-- It stops there if it is not met, and otherwise where the rest stops. -/
theorem runs_require_bind_halted_iff {p : Prop} [Decidable p] {fault fault' : S.Fault}
    {f : Unit → Prog S β} :
    Runs (require p fault >>= f) t (.halted fault') ↔
      (¬ p ∧ t = [] ∧ fault' = fault) ∨ (p ∧ Runs (f ()) t (.halted fault')) := by
  unfold require
  by_cases hp : p <;> simp [hp]

/-- A program that starts with a call issues it and continues with the answer. -/
theorem runs_perform_bind_iff {c : S.Call} {f : S.Answer c → Prog S α} :
    Runs (perform c >>= f) t o ↔
      ∃ answer rest, t = ⟨c, answer⟩ :: rest ∧ Runs (f answer) rest o :=
  runs_call_iff

/-- A requirement that holds changes nothing. -/
theorem require_bind_of {p : Prop} [Decidable p] {fault : S.Fault} (hp : p)
    (f : Unit → Prog S α) : (require p fault >>= f) = f () := by
  unfold require
  rw [if_pos hp]
  rfl

/-- Two requirements with one fault are one requirement. -/
theorem require_bind_require {p q : Prop} [Decidable p] [Decidable q] {fault : S.Fault}
    (k : Unit → Prog S α) :
    (require p fault >>= fun _ => require q fault >>= k) = require (p ∧ q) fault >>= k := by
  unfold require
  by_cases hp : p <;> by_cases hq : q <;> simp [hp, hq]

/-- Two continuations that agree on all results a program can have are the same
continuation of it. -/
theorem bind_congr_of_runs {p : Prog S α} {f g : α → Prog S β}
    (h : ∀ t a, Runs p t (.done a) → f a = g a) : (p >>= f) = p >>= g := by
  induction p with
  | ret a => exact h [] a (.ret a)
  | halt fault => rfl
  | call c next ih =>
      have hnext : (fun answer => next answer >>= f) = fun answer => next answer >>= g :=
        funext fun answer => ih answer fun t a hrun => h _ a (.call answer hrun)
      rw [Prog.call_bind, Prog.call_bind, hnext]

/-- **The trace determines the outcome.** -/
theorem Runs.outcome_unique {p : Prog S α} {o' : Outcome S α}
    (h : Runs p t o) (h' : Runs p t o') : o = o' := by
  induction h with
  | ret a => exact (runs_ret_iff.mp h').2.symm
  | halt fault => exact (runs_halt_iff.mp h').2.symm
  | call answer rest ih =>
      obtain ⟨_, _, heq, hrest⟩ := runs_call_iff.mp h'
      cases heq
      exact ih hrest

/-- Of the beginnings of one trace, at most one is the trace of a completed run. -/
theorem Runs.prefix_unique {p : Prog S α} {t t' u : List (Event S)} {a a' : α}
    (h : Runs p t (.done a)) (h' : Runs p t' (.done a')) (ht : t <+: u) (ht' : t' <+: u) :
    t = t' ∧ a = a' := by
  induction p generalizing t t' u with
  | ret b =>
      obtain ⟨rfl, rfl⟩ := runs_ret_done_iff.mp h
      obtain ⟨rfl, rfl⟩ := runs_ret_done_iff.mp h'
      exact ⟨rfl, rfl⟩
  | halt fault => cases (runs_halt_iff.mp h).2
  | call c next ih =>
      obtain ⟨answer, rest, rfl, hrest⟩ := runs_call_iff.mp h
      obtain ⟨answer', rest', rfl, hrest'⟩ := runs_call_iff.mp h'
      obtain ⟨u, rfl, hu⟩ := List.cons_prefix_iff.mp ht
      obtain ⟨heq, hu'⟩ := List.cons_prefix_cons.mp ht'
      cases heq
      obtain ⟨rfl, rfl⟩ := ih answer hrest hrest' hu hu'
      exact ⟨rfl, rfl⟩

end Rules

end CallProgram
