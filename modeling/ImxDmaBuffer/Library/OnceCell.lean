import ImxDmaBuffer.Library.MachineRuns

/-!
# Values that are found once and then kept

A program that searches for a value only while it has none, and remembers what it found,
works with one value for as long as it runs.  `c.Keeps v t v'` says this of a stretch of
events: which value was remembered before it and which after it, that no call carries any
other, and that no search comes after a call that carries the value.  It says also where a
new value came from: the last search of the stretch.

Such stretches compose (`Keeps.append`), so it is enough to look at what a single step can
do (`Steps.keeps`).
-/

namespace CallProgram

variable {S : Signature} {V : Type}

/-- A remembered value: what stands for none, which calls carry a value, which calls belong
to the search, and which events answer a value to it. -/
structure OnceCell (S : Signature) (V : Type) where
  unset : V
  carries : S.Call → Option V
  seeks : S.Call → Prop
  yields : Event S → V → Prop

namespace OnceCell

variable {c : OnceCell S V} {v v' v'' : V} {t t' : List (Event S)}

/-- The call has nothing to do with the value. -/
def Quiet (c : OnceCell S V) (call : S.Call) : Prop := c.carries call = none ∧ ¬ c.seeks call

/-- The value was `v` before these events, and is `v'` after them. -/
structure Keeps (c : OnceCell S V) (v : V) (t : List (Event S)) (v' : V) : Prop where
  frozen : v ≠ c.unset → v' = v ∧ ∀ e ∈ t, ¬ c.seeks e.call
  carried : ∀ e ∈ t, ∀ u, c.carries e.call = some u → u = v' ∧ v' ≠ c.unset
  settled : t.Pairwise fun e e' => (c.carries e.call).isSome → ¬ c.seeks e'.call
  found : v' ≠ v → ∃ before e after, t = before ++ e :: after ∧ c.yields e v' ∧
    ∀ e' ∈ after, ¬ c.seeks e'.call

namespace Keeps

/-- Events that have nothing to do with the value. -/
theorem quiet (hquiet : ∀ e ∈ t, c.Quiet e.call) : c.Keeps v t v where
  frozen _ := ⟨rfl, fun e he => (hquiet e he).2⟩
  carried e he u hu := by
    rw [(hquiet e he).1] at hu
    cases hu
  settled := List.pairwise_of_forall_mem_list (fun _ _ e' he' _ => (hquiet e' he').2)
  found hne := absurd rfl hne

/-- A search that fails. -/
theorem fruitless (hnone : ∀ e ∈ t, c.carries e.call = none) : c.Keeps c.unset t c.unset where
  frozen hne := absurd rfl hne
  carried e he u hu := by
    rw [hnone e he] at hu
    cases hu
  settled := by
    refine List.pairwise_of_forall_mem_list (fun e he _ _ hcarries => ?_)
    rw [hnone e he] at hcarries
    cases hcarries
  found hne := absurd rfl hne

/-- A search whose last event answers the value. -/
theorem search {e : Event S} (hnone : ∀ e' ∈ t ++ [e], c.carries e'.call = none)
    (hyields : c.yields e v') : c.Keeps c.unset (t ++ [e]) v' where
  frozen hne := absurd rfl hne
  carried e' he' u hu := by
    rw [hnone e' he'] at hu
    cases hu
  settled := by
    refine List.pairwise_of_forall_mem_list (fun e' he' _ _ hcarries => ?_)
    rw [hnone e' he'] at hcarries
    cases hcarries
  found _ := ⟨t, e, [], rfl, hyields, List.forall_mem_nil _⟩

/-- A call that carries the value. -/
theorem use {e : Event S} (hcarries : c.carries e.call = some v) (hseeks : ¬ c.seeks e.call)
    (hne : v ≠ c.unset) : c.Keeps v [e] v where
  frozen _ := ⟨rfl, List.forall_mem_singleton.mpr hseeks⟩
  carried := by
    refine List.forall_mem_singleton.mpr (fun u hu => ⟨?_, hne⟩)
    rw [hcarries] at hu
    exact (Option.some.inj hu).symm
  settled := List.pairwise_singleton _ _
  found hchanged := absurd rfl hchanged

/-- **Stretches compose.** -/
theorem append (h : c.Keeps v t v') (h' : c.Keeps v' t' v'') : c.Keeps v (t ++ t') v'' where
  frozen hne := by
    obtain ⟨rfl, hnone⟩ := h.frozen hne
    obtain ⟨rfl, hnone'⟩ := h'.frozen hne
    exact ⟨rfl, List.forall_mem_append.mpr ⟨hnone, hnone'⟩⟩
  carried := by
    refine List.forall_mem_append.mpr ⟨fun e he u hu => ?_, h'.carried⟩
    obtain ⟨rfl, hset⟩ := h.carried e he u hu
    obtain ⟨rfl, -⟩ := h'.frozen hset
    exact ⟨rfl, hset⟩
  settled := by
    refine List.pairwise_append.mpr ⟨h.settled, h'.settled, fun e he e' he' hcarries => ?_⟩
    obtain ⟨u, hu⟩ := Option.isSome_iff_exists.mp hcarries
    exact (h'.frozen (h.carried e he u hu).2).2 e' he'
  found hne := by
    by_cases hchanged : v' = v
    · obtain ⟨before, e, after, rfl, hyields, hafter⟩ := h'.found (hchanged ▸ hne)
      exact ⟨t ++ before, e, after, (List.append_assoc _ _ _).symm, hyields, hafter⟩
    · have hset : v' ≠ c.unset := by
        -- A remembered value does not change, so there was none before.
        rintro rfl
        by_cases hunset : v = c.unset
        · exact hchanged hunset.symm
        · exact hchanged (h.frozen hunset).1
      obtain ⟨rfl, hnone⟩ := h'.frozen hset
      obtain ⟨before, e, after, rfl, hyields, hafter⟩ := h.found hchanged
      refine ⟨before, e, after ++ t', ?_, hyields, List.forall_mem_append.mpr ⟨hafter, hnone⟩⟩
      rw [List.append_assoc, List.cons_append]

end Keeps

end OnceCell

namespace Machine

variable {Op Ret : Type} {M : Machine S Op Ret} {G : M.Guard} {V : Type}

/-- **One value for a whole run**, when every step keeps it. -/
theorem Steps.keeps {c : OnceCell S V} (cell : M.State → V)
    (hstep : ∀ s op t ret s', Runs (M.step s op) t (.done (ret, s')) → c.Keeps (cell s) t (cell s'))
    {s finish : M.State} {h : List (Record S Op Ret)} (hs : M.Steps G s h finish) :
    c.Keeps (cell s) (historyEvents h) (cell finish) := by
  refine hs.track_events (R := fun events s' => c.Keeps (cell s) events (cell s')) ?_
    (.quiet (List.forall_mem_nil _))
  intro events middle r s' hkeeps _ hrun
  exact hkeeps.append (hstep _ _ _ _ _ hrun)

end Machine

end CallProgram
