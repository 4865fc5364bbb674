import Mathlib.Algebra.BigOperators.Group.Multiset.Basic

/-!
# A ledger of resources

Each event of a trace may acquire a resource or release one.  The ledger is the
multiset of the resources held; `replay` goes through a trace and fails at the
first release of a resource that is not held.  So a trace that can be replayed
releases nothing twice and nothing foreign, and what is left in the ledger at its
end is exactly what was acquired and not released.

`Turns effect t before after` is the triple of this discipline: with `before` in
the ledger, `t` can be replayed and leaves `after`.  Triples compose along
traces (`Turns.append`) and hold next to any other resources (`Turns.frame`).
-/

namespace ResourceLedger

/-- What an event does to the ledger. -/
inductive Effect (R : Type) where
  | keep
  | acquire (r : R)
  | release (r : R)

variable {R E : Type} [DecidableEq R]

/-- The ledger after an event; a resource that is not held cannot be released. -/
def Effect.apply (held : Multiset R) : Effect R → Option (Multiset R)
  | .keep => some held
  | .acquire r => some (r ::ₘ held)
  | .release r => if r ∈ held then some (held.erase r) else none

/-- The ledger after a trace. -/
def replay (effect : E → Effect R) : Multiset R → List E → Option (Multiset R)
  | held, [] => some held
  | held, e :: t => ((effect e).apply held).bind fun held => replay effect held t

/-- With `before` in the ledger, `t` can be replayed and leaves `after`. -/
def Turns (effect : E → Effect R) (t : List E) (before after : Multiset R) : Prop :=
  replay effect before t = some after

variable {effect : E → Effect R} {e : E} {t t' : List E} {r : R}
  {before middle after rest : Multiset R}

theorem replay_append (effect : E → Effect R) (held : Multiset R) (t t' : List E) :
    replay effect held (t ++ t') =
      (replay effect held t).bind fun held => replay effect held t' := by
  induction t generalizing held with
  | nil => rfl
  | cons e t ih =>
      simp only [List.cons_append, replay, Option.bind_assoc]
      exact congrArg _ (funext ih)

/-- A ledger that grows alongside does not matter to an event. -/
theorem Effect.apply_frame {effect : Effect R} (h : effect.apply before = some after) :
    effect.apply (before + rest) = some (after + rest) := by
  cases effect with
  | keep =>
      obtain rfl := Option.some.inj h
      rfl
  | acquire r =>
      obtain rfl := Option.some.inj h
      rw [Effect.apply, Multiset.cons_add]
  | release r =>
      simp only [Effect.apply] at h ⊢
      by_cases hmem : r ∈ before
      · rw [if_pos hmem] at h
        obtain rfl := Option.some.inj h
        rw [if_pos (Multiset.mem_add.mpr (Or.inl hmem)), Multiset.erase_add_left_pos rest hmem]
      · rw [if_neg hmem] at h
        cases h

/-- The empty trace changes nothing. -/
theorem Turns.nil (before : Multiset R) : Turns effect [] before before := rfl

/-- Traces compose. -/
theorem Turns.append (h : Turns effect t before middle) (h' : Turns effect t' middle after) :
    Turns effect (t ++ t') before after := by
  unfold Turns at h h' ⊢
  rw [replay_append, h]
  exact h'

/-- A trace that can be replayed can be replayed in two parts. -/
theorem Turns.split (h : Turns effect (t ++ t') before after) :
    ∃ middle, Turns effect t before middle ∧ Turns effect t' middle after := by
  unfold Turns at h
  rw [replay_append] at h
  exact Option.bind_eq_some_iff.mp h

/-- **Frame rule.**  What else is in the ledger stays there. -/
theorem Turns.frame (h : Turns effect t before after) (rest : Multiset R) :
    Turns effect t (before + rest) (after + rest) := by
  induction t generalizing before with
  | nil =>
      obtain rfl := Option.some.inj h
      rfl
  | cons e t ih =>
      obtain ⟨middle, hfirst, htail⟩ := Option.bind_eq_some_iff.mp h
      exact Option.bind_eq_some_iff.mpr ⟨middle + rest, Effect.apply_frame hfirst, ih htail⟩

/-- The frame rule for one more resource. -/
theorem Turns.frame_cons (h : Turns effect t before after) (r : R) :
    Turns effect t (r ::ₘ before) (r ::ₘ after) := by
  have hframe := h.frame {r}
  rwa [Multiset.add_comm before, Multiset.add_comm after, Multiset.singleton_add,
    Multiset.singleton_add] at hframe

/-- An event that concerns no resource. -/
theorem Turns.keep (he : effect e = .keep) (h : Turns effect t before after) :
    Turns effect (e :: t) before after := by
  unfold Turns replay
  rw [he]
  exact h

/-- An event that acquires a resource. -/
theorem Turns.acquire (he : effect e = .acquire r) (h : Turns effect t (r ::ₘ before) after) :
    Turns effect (e :: t) before after := by
  unfold Turns replay
  rw [he]
  exact h

/-- An event that releases a resource. -/
theorem Turns.release (he : effect e = .release r) (h : Turns effect t before after) :
    Turns effect (e :: t) (r ::ₘ before) after := by
  unfold Turns replay
  rw [he, Effect.apply, if_pos (Multiset.mem_cons_self r before), Multiset.erase_cons_head]
  exact h

/-- A trace of which no event concerns a resource. -/
theorem Turns.of_keep (h : ∀ e ∈ t, effect e = .keep) (before : Multiset R) :
    Turns effect t before before := by
  induction t with
  | nil => exact .nil before
  | cons e t ih =>
      obtain ⟨he, ht⟩ := List.forall_mem_cons.mp h
      exact .keep he (ih ht)

section Lost

variable {believed : E → Effect R} {lost : E → Option R}

/-- The resources that a trace acquires without anybody noticing. -/
def lostOf (lost : E → Option R) (t : List E) : Multiset R := ↑(t.filterMap lost)

/-- Where `believed` overlooks that some events acquire a resource, the ledger is
what it says and what it overlooked. -/
theorem Turns.with_lost (hlost : ∀ e r, lost e = some r → effect e = .acquire r)
    (hbelieved : ∀ e r, lost e = some r → believed e = .keep)
    (hsame : ∀ e, lost e = none → believed e = effect e) (h : Turns believed t before after) :
    Turns effect t before (after + lostOf lost t) := by
  induction t generalizing before with
  | nil =>
      obtain rfl := Option.some.inj h
      show some before = some (before + 0)
      rw [Multiset.add_zero]
  | cons e t ih =>
      obtain ⟨middle, hfirst, htail⟩ := Option.bind_eq_some_iff.mp h
      have hrest := ih htail
      cases he : lost e with
      | none =>
          rw [hsame e he] at hfirst
          unfold lostOf at hrest ⊢
          rw [List.filterMap_cons_none he]
          exact Option.bind_eq_some_iff.mpr ⟨middle, hfirst, hrest⟩
      | some r =>
          rw [hbelieved e r he] at hfirst
          obtain rfl := Option.some.inj hfirst
          unfold lostOf at hrest ⊢
          rw [List.filterMap_cons_some he, ← Multiset.cons_coe, Multiset.add_cons]
          exact .acquire (hlost e r he) (Turns.frame_cons hrest r)

end Lost

section Separate

variable {apart : R → R → Prop}

/-- Any two resources in the ledger are apart. -/
def Separate (apart : R → R → Prop) (held : Multiset R) : Prop :=
  ∀ r r', {r, r'} ≤ held → apart r r'

/-- Along the trace, whatever is acquired is apart from all that is held then. -/
def AcquiresApart (apart : R → R → Prop) (effect : E → Effect R) : Multiset R → List E → Prop
  | _, [] => True
  | held, e :: t => (∀ r, effect e = .acquire r → ∀ r' ∈ held, apart r r') ∧
      ∀ held', (effect e).apply held = some held' → AcquiresApart apart effect held' t

/-- The trace of one event that acquires a resource. -/
theorem AcquiresApart.acquire (he : effect e = .acquire r) (h : ∀ r' ∈ before, apart r r') :
    AcquiresApart apart effect before [e] := by
  refine ⟨fun r' hr' => ?_, fun _ _ => trivial⟩
  rw [he] at hr'
  obtain rfl := Effect.acquire.inj hr'
  exact h

omit [DecidableEq R] in
/-- A part of a separate ledger is separate. -/
theorem Separate.of_le (h : Separate apart after) (hle : before ≤ after) : Separate apart before :=
  fun r r' hpair => h r r' (hpair.trans hle)

omit [DecidableEq R] in
/-- Resources in different parts of a separate ledger are apart. -/
theorem Separate.parts (h : Separate apart (before + (after + rest))) {r' : R} (hr : r ∈ before)
    (hr' : r' ∈ after) : apart r r' := by
  apply h r r'
  have hright : {r'} ≤ after + rest :=
    (Multiset.singleton_le.mpr hr').trans (Multiset.le_add_right after rest)
  calc ({r, r'} : Multiset R)
      = {r} + {r'} := rfl
    _ ≤ before + {r'} := Multiset.add_le_add_right (Multiset.singleton_le.mpr hr)
    _ ≤ before + (after + rest) := Multiset.add_le_add_left hright

/-- What is acquired apart from all the rest keeps the ledger separate. -/
theorem Separate.acquire (hsymm : ∀ r r', apart r r' → apart r' r) (h : Separate apart before)
    (hapart : ∀ r' ∈ before, apart r r') : Separate apart (r ::ₘ before) := by
  intro x y hpair
  have hxy : x ::ₘ {y} ≤ r ::ₘ before := hpair
  by_cases hx : x = r
  · rw [hx] at hxy ⊢
    have hy : {y} ≤ before := (Multiset.cons_le_cons_iff r).mp hxy
    exact hapart y (Multiset.singleton_le.mp hy)
  · by_cases hy : y = r
    · rw [hy, ← Multiset.cons_zero, Multiset.cons_swap] at hxy
      have hx' : {x} ≤ before := (Multiset.cons_le_cons_iff r).mp hxy
      rw [hy]
      exact hsymm r x (hapart x (Multiset.singleton_le.mp hx'))
    · have hnot : r ∉ x ::ₘ ({y} : Multiset R) := by
        intro hmem
        rcases Multiset.mem_cons.mp hmem with hrx | hry
        · exact hx hrx.symm
        · exact hy (Multiset.mem_singleton.mp hry).symm
      exact h x y ((Multiset.le_cons_of_notMem hnot).mp hxy)

/-- **Separate ledgers.**  A trace that acquires only what is apart from all that is held
keeps the ledger separate. -/
theorem Turns.separate (hsymm : ∀ r r', apart r r' → apart r' r)
    (h : Turns effect t before after) (hapart : AcquiresApart apart effect before t)
    (hsep : Separate apart before) : Separate apart after := by
  induction t generalizing before with
  | nil =>
      obtain rfl := Option.some.inj h
      exact hsep
  | cons e t ih =>
      obtain ⟨middle, hfirst, htail⟩ := Option.bind_eq_some_iff.mp h
      apply ih htail (hapart.2 middle hfirst)
      have hacquires := hapart.1
      cases heffect : effect e with
      | keep =>
          rw [heffect] at hfirst
          obtain rfl := Option.some.inj hfirst
          exact hsep
      | acquire r =>
          rw [heffect] at hfirst
          obtain rfl := Option.some.inj hfirst
          exact hsep.acquire hsymm (hacquires r heffect)
      | release r =>
          rw [heffect] at hfirst
          by_cases hmem : r ∈ before
          · rw [Effect.apply, if_pos hmem] at hfirst
            obtain rfl := Option.some.inj hfirst
            exact hsep.of_le (Multiset.erase_le r before)
          · rw [Effect.apply, if_neg hmem] at hfirst
            cases hfirst

/-- What is acquired apart from a ledger is acquired apart from any part of it, also where
some of it goes unnoticed. -/
theorem AcquiresApart.believed {believed : E → Effect R} {lost : E → Option R}
    (hlost : ∀ e r, lost e = some r → effect e = .acquire r ∧ believed e = .keep)
    (hsame : ∀ e, lost e = none → believed e = effect e) {held : Multiset R} (hle : before ≤ held)
    (h : AcquiresApart apart effect held t) : AcquiresApart apart believed before t := by
  induction t generalizing before held with
  | nil => trivial
  | cons e t ih =>
      obtain ⟨hacquires, hrest⟩ := h
      cases he : lost e with
      | some r =>
          obtain ⟨heffect, hbelieved⟩ := hlost e r he
          have htail := hrest (r ::ₘ held) (by rw [heffect]; rfl)
          refine ⟨fun r' hr' => ?_, fun before' hbefore => ?_⟩
          · rw [hbelieved] at hr'
            cases hr'
          · rw [hbelieved] at hbefore
            obtain rfl := Option.some.inj hbefore
            exact ih (hle.trans (Multiset.le_cons_self held r)) htail
      | none =>
          have heffect := hsame e he
          refine ⟨fun r hr r' hr' => ?_, fun before' hbefore => ?_⟩
          · rw [heffect] at hr
            exact hacquires r hr r' (Multiset.mem_of_le hle hr')
          · rw [heffect] at hbefore
            cases hkind : effect e with
            | keep =>
                rw [hkind] at hbefore
                obtain rfl := Option.some.inj hbefore
                exact ih hle (hrest held (by rw [hkind]; rfl))
            | acquire r =>
                rw [hkind] at hbefore
                obtain rfl := Option.some.inj hbefore
                have hcons : r ::ₘ before ≤ r ::ₘ held := (Multiset.cons_le_cons_iff r).mpr hle
                exact ih hcons (hrest (r ::ₘ held) (by rw [hkind]; rfl))
            | release r =>
                rw [hkind, Effect.apply] at hbefore
                by_cases hmem : r ∈ before
                · rw [if_pos hmem] at hbefore
                  obtain rfl := Option.some.inj hbefore
                  have hheld : r ∈ held := Multiset.mem_of_le hle hmem
                  have herase : before.erase r ≤ held.erase r := Multiset.erase_le_erase r hle
                  exact ih herase (hrest _ (by rw [hkind, Effect.apply, if_pos hheld]))
                · rw [if_neg hmem] at hbefore
                  cases hbefore

/-- An entry of a list stands in the sum of all entries. -/
theorem sum_one_entry {M : Type} [AddCommMonoid M] (l : List M) (i : Nat) :
    ∃ rest, l.sum = l[i]?.getD 0 + rest := by
  induction l generalizing i with
  | nil => exact ⟨0, by simp⟩
  | cons a l ih =>
      cases i with
      | zero => exact ⟨l.sum, by simp⟩
      | succ i =>
          obtain ⟨rest, hsum⟩ := ih i
          refine ⟨a + rest, ?_⟩
          rw [List.sum_cons, hsum, List.getElem?_cons_succ, add_left_comm]

/-- Two entries stand there next to each other. -/
theorem sum_two_entries {M : Type} [AddCommMonoid M] (l : List M) {i j : Nat} (hne : i ≠ j) :
    ∃ rest, l.sum = l[i]?.getD 0 + (l[j]?.getD 0 + rest) := by
  induction l generalizing i j with
  | nil => exact ⟨0, by simp⟩
  | cons a l ih =>
      cases i with
      | zero =>
          cases j with
          | zero => exact absurd rfl hne
          | succ j =>
              obtain ⟨rest, hsum⟩ := sum_one_entry l j
              exact ⟨rest, by simp [hsum]⟩
      | succ i =>
          cases j with
          | zero =>
              obtain ⟨rest, hsum⟩ := sum_one_entry l i
              refine ⟨rest, ?_⟩
              rw [List.sum_cons, hsum, List.getElem?_cons_succ, add_left_comm]
              rfl
          | succ j =>
              obtain ⟨rest, hsum⟩ := ih (fun h => hne (congrArg Nat.succ h))
              refine ⟨a + rest, ?_⟩
              rw [List.sum_cons, hsum, List.getElem?_cons_succ, List.getElem?_cons_succ,
                add_left_comm, add_left_comm a]

end Separate

/-- Changing one entry of a list changes its part of the sum of all entries. -/
theorem sum_map_modify {A M : Type} [AddCommMonoid M] (part : A → M) {l : List A} {i : Nat}
    {x : A} (hx : l[i]? = some x) :
    ∃ rest, (l.map part).sum = part x + rest ∧
      ∀ f, ((l.modify i f).map part).sum = part (f x) + rest := by
  induction l generalizing i with
  | nil => cases hx
  | cons a l ih =>
      cases i with
      | zero =>
          obtain rfl := Option.some.inj hx
          exact ⟨(l.map part).sum, rfl, fun f => rfl⟩
      | succ i =>
          obtain ⟨rest, hsum, hmodify⟩ := ih hx
          refine ⟨part a + rest, ?_, fun f => ?_⟩
          · rw [List.map_cons, List.sum_cons, hsum, add_left_comm]
          · rw [List.modify_succ_cons, List.map_cons, List.sum_cons, hmodify, add_left_comm]

end ResourceLedger
