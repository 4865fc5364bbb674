import ImxDmaBuffer.Library.CallProgram
import ImxDmaBuffer.Library.ResourceLedger

/-!
# Programs that keep a ledger

`Leaves effect before p after` is a triple about a program: with `before` in the ledger,
the trace of every completed run of `p` can be replayed, and leaves what `after` says of
its result.  There is one rule for each way programs are built, and the frame rule, so a
client program is accounted for from the triples of the functions it calls, on all of
its exits.
-/

namespace ResourceLedger

open CallProgram

variable {S : Signature} {R α β : Type} [DecidableEq R] {effect : Event S → Effect R}
  {before : Multiset R} {after : α → Multiset R} {final : β → Multiset R}

/-- With `before` in the ledger, every completed run of `p` can be replayed, and leaves
`after` of its result. -/
def Leaves (effect : Event S → Effect R) (before : Multiset R) (p : Prog S α)
    (after : α → Multiset R) : Prop :=
  ∀ t a, Runs p t (.done a) → Turns effect t before (after a)

theorem Leaves.ret {a : α} (h : before = after a) : Leaves effect before (.ret a) after := by
  intro t a' hrun
  obtain ⟨rfl, rfl⟩ := runs_ret_done_iff.mp hrun
  rw [h]
  exact .nil _

/-- One program after the other. What follows may rely on the first having completed. -/
theorem Leaves.bind {p : Prog S α} {f : α → Prog S β} (h : Leaves effect before p after)
    (hcont : ∀ a, (∃ t, Runs p t (.done a)) → Leaves effect (after a) (f a) final) :
    Leaves effect before (p >>= f) final := by
  intro t b hrun
  obtain ⟨first, second, a, rfl, hfirst, hsecond⟩ := runs_bind_done_iff.mp hrun
  exact (h first a hfirst).append (hcont a ⟨first, hfirst⟩ second b hsecond)

theorem Leaves.map {p : Prog S α} {f : α → β} (h : Leaves effect before p fun a => final (f a)) :
    Leaves effect before (f <$> p) final := by
  intro t b hrun
  obtain ⟨a, hp, rfl⟩ := runs_map_done_iff.mp hrun
  exact h t a hp

theorem Leaves.ite {c : Prop} [Decidable c] {p q : Prog S α} (hp : c → Leaves effect before p after)
    (hq : ¬ c → Leaves effect before q after) :
    Leaves effect before (if c then p else q) after := by
  by_cases hc : c
  · rw [if_pos hc]
    exact hp hc
  · rw [if_neg hc]
    exact hq hc

/-- A requirement stops the program or holds in what follows. -/
theorem Leaves.require_bind {c : Prop} [Decidable c] {fault : S.Fault} {f : Unit → Prog S β}
    (h : c → Leaves effect before (f ()) final) :
    Leaves effect before (require c fault >>= f) final := by
  intro t b hrun
  obtain ⟨hc, hrest⟩ := runs_require_bind_iff.mp hrun
  exact h hc t b hrest

/-- **Frame rule.**  What else is in the ledger stays there. -/
theorem Leaves.frame {p : Prog S α} (h : Leaves effect before p after) (rest : Multiset R) :
    Leaves effect (before + rest) p fun a => after a + rest :=
  fun t a hrun => (h t a hrun).frame rest

end ResourceLedger
