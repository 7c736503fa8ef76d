import Mathlib.Order.Basic
import Mathlib.Data.List.Pairwise

namespace Run

variable {σ α ω : Type} (step : σ → α → Option (ω × σ))

/-- The inputs handled in order, each with its output, and the state left; `none` when a step
    fails. -/
def run : σ → List α → Option (List (α × ω) × σ)
  | s, [] => some ([], s)
  | s, a :: as =>
    match step s a with
    | none => none
    | some (o, s') =>
      match run s' as with
      | none => none
      | some (trace, s'') => some ((a, o) :: trace, s'')

variable {step}

theorem run_nil {s s' : σ} {trace : List (α × ω)} :
    run step s [] = some (trace, s') ↔ trace = [] ∧ s = s' := by
  simp only [run, Option.some.injEq, Prod.mk.injEq]
  exact ⟨fun ⟨htrace, hs⟩ => ⟨htrace.symm, hs⟩, fun ⟨htrace, hs⟩ => ⟨htrace.symm, hs⟩⟩

theorem run_cons {s s'' : σ} {a : α} {as : List α} {trace : List (α × ω)} :
    run step s (a :: as) = some (trace, s'') ↔
      ∃ o s' rest, step s a = some (o, s') ∧ run step s' as = some (rest, s'') ∧
        trace = (a, o) :: rest := by
  simp only [run]
  constructor
  · intro h
    split at h
    · simp at h
    rename_i o s' hstep
    split at h
    · simp at h
    rename_i rest s''' hrest
    simp only [Option.some.injEq, Prod.mk.injEq] at h
    obtain ⟨rfl, rfl⟩ := h
    exact ⟨o, s', rest, hstep, hrest, rfl⟩
  · rintro ⟨o, s', rest, hstep, hrest, rfl⟩
    simp [hstep, hrest]

/-- A run records every input, in order. -/
theorem run_map_fst :
    ∀ {as : List α} {s s' : σ} {trace : List (α × ω)},
      run step s as = some (trace, s') → trace.map Prod.fst = as
  | [], _, _, _, hrun => by
    obtain ⟨rfl, -⟩ := run_nil.mp hrun
    rfl
  | a :: _, _, _, _, hrun => by
    obtain ⟨o, t, rest, -, hrest, rfl⟩ := run_cons.mp hrun
    rw [List.map_cons, run_map_fst hrest]

/-- What every step of a run keeps, the run keeps. -/
theorem run_invariant (P : σ → Prop) :
    ∀ {as : List α} {s s' : σ} {trace : List (α × ω)},
      (∀ a ∈ as, ∀ t o t', step t a = some (o, t') → P t → P t') →
      run step s as = some (trace, s') → P s → P s'
  | [], _, _, _, _, hrun, hs => (run_nil.mp hrun).2 ▸ hs
  | a :: _, s, _, _, hstep, hrun, hs => by
    obtain ⟨o, t, rest, hfirst, hrest, -⟩ := run_cons.mp hrun
    exact run_invariant P (fun b hb => hstep b (List.mem_cons_of_mem a hb)) hrest
      (hstep a List.mem_cons_self s o t hfirst hs)

/-- What a step establishes about its output, on a state of the invariant, and every later
    step keeps, holds of every output of the run at its end. -/
theorem run_outputs (P : σ → Prop) (Q : α → ω → σ → Prop) :
    ∀ {as : List α} {s s' : σ} {trace : List (α × ω)},
      (∀ a ∈ as, ∀ t o t', step t a = some (o, t') → P t → P t') →
      (∀ a ∈ as, ∀ t o t', step t a = some (o, t') → P t → Q a o t') →
      (∀ b ∈ as, ∀ a o t o' t', step t b = some (o', t') → P t → Q a o t → Q a o t') →
      run step s as = some (trace, s') → P s → ∀ p ∈ trace, Q p.1 p.2 s'
  | [], _, _, _, _, _, _, hrun, _ => by
    obtain ⟨rfl, -⟩ := run_nil.mp hrun
    simp
  | a :: as, s, s', _, hP, hQ, hkeep, hrun, hs => by
    obtain ⟨o, t, rest, hfirst, hrest, rfl⟩ := run_cons.mp hrun
    have hP' : ∀ b ∈ as, ∀ t o t', step t b = some (o, t') → P t → P t' :=
      fun b hb => hP b (List.mem_cons_of_mem a hb)
    have hkeep' : ∀ b ∈ as, ∀ a o t o' t', step t b = some (o', t') → P t → Q a o t → Q a o t' :=
      fun b hb => hkeep b (List.mem_cons_of_mem a hb)
    have ht : P t := hP a List.mem_cons_self s o t hfirst hs
    intro p hp
    rcases List.mem_cons.mp hp with rfl | hp
    · have hfirst_output : Q a o t := hQ a List.mem_cons_self s o t hfirst hs
      exact (run_invariant (fun u => P u ∧ Q a o u)
        (fun b hb u o' u' hstep hu =>
          ⟨hP' b hb u o' u' hstep hu.1, hkeep' b hb a o u o' u' hstep hu.1 hu.2⟩)
        hrest ⟨ht, hfirst_output⟩).2
    · exact run_outputs P Q hP'
        (fun b hb => hQ b (List.mem_cons_of_mem a hb)) hkeep' hrest ht p hp

/-- What every step keeps of the inputs handled so far and the state, a run keeps: the
    invariant may speak of the whole history of the run, not only of its state. -/
theorem run_invariant_prefix (P : List α → σ → Prop) :
    ∀ {as pre : List α} {s s' : σ} {trace : List (α × ω)},
      (∀ a ∈ as, ∀ pre t o t', step t a = some (o, t') → P pre t → P (pre ++ [a]) t') →
      run step s as = some (trace, s') → P pre s → P (pre ++ as) s'
  | [], pre, _, _, _, _, hrun, hs => by
    obtain ⟨-, rfl⟩ := run_nil.mp hrun
    rwa [List.append_nil]
  | a :: _, pre, s, _, _, hstep, hrun, hs => by
    obtain ⟨o, t, rest, hfirst, hrest, -⟩ := run_cons.mp hrun
    have ht : P (pre ++ [a]) t := hstep a List.mem_cons_self pre s o t hfirst hs
    have hlast := run_invariant_prefix P (fun b hb => hstep b (List.mem_cons_of_mem a hb)) hrest ht
    rwa [List.append_assoc, List.singleton_append] at hlast

/-- Every output of a run was produced by a step on the state the inputs before it led to. -/
theorem run_mem_trace :
    ∀ {as : List α} {s s' : σ} {trace : List (α × ω)} {p : α × ω},
      run step s as = some (trace, s') → p ∈ trace →
      ∃ pre post t t' trace₁, as = pre ++ p.1 :: post ∧ run step s pre = some (trace₁, t) ∧
        step t p.1 = some (p.2, t')
  | [], _, _, _, _, hrun, hp => by
    obtain ⟨rfl, -⟩ := run_nil.mp hrun
    cases hp
  | a :: as, s, _, _, p, hrun, hp => by
    obtain ⟨o, t, rest, hfirst, hrest, rfl⟩ := run_cons.mp hrun
    rcases List.mem_cons.mp hp with rfl | hp
    · exact ⟨[], as, s, t, [], rfl, run_nil.mpr ⟨rfl, rfl⟩, hfirst⟩
    · obtain ⟨pre, post, u, u', trace₁, rfl, hpre, hstep⟩ := run_mem_trace hrest hp
      exact ⟨a :: pre, post, u, u', (a, o) :: trace₁, rfl,
        run_cons.mpr ⟨o, t, trace₁, hfirst, hpre, rfl⟩, hstep⟩

/-- A run that fails has a step that fails, on the state the inputs before it led to. -/
theorem run_eq_none :
    ∀ {as : List α} {s : σ}, run step s as = none →
      ∃ pre a post t trace₁, as = pre ++ a :: post ∧ run step s pre = some (trace₁, t) ∧
        step t a = none
  | [], _, hrun => by cases hrun
  | a :: as, s, hrun => by
    cases hfirst : step s a with
    | none => exact ⟨[], a, as, s, [], rfl, run_nil.mpr ⟨rfl, rfl⟩, hfirst⟩
    | some first =>
      obtain ⟨o, t⟩ := first
      cases hrest : run step t as with
      | some last =>
        obtain ⟨rest, t'⟩ := last
        rw [run_cons.mpr ⟨o, t, rest, hfirst, hrest, rfl⟩] at hrun
        cases hrun
      | none =>
        obtain ⟨pre, b, post, u, trace₁, rfl, hpre, hstep⟩ := run_eq_none hrest
        exact ⟨a :: pre, b, post, u, (a, o) :: trace₁, rfl,
          run_cons.mpr ⟨o, t, trace₁, hfirst, hpre, rfl⟩, hstep⟩

/-- A step that fails after a run of inputs fails the run of those inputs and any after it. -/
theorem run_eq_none_of_step {a : α} {post : List α} {t : σ} (hstep : step t a = none) :
    ∀ {pre : List α} {s : σ} {trace : List (α × ω)},
      run step s pre = some (trace, t) → run step s (pre ++ a :: post) = none
  | [], _, _, hrun => by
    obtain ⟨-, rfl⟩ := run_nil.mp hrun
    simp [run, hstep]
  | b :: _, s, _, hrun => by
    obtain ⟨o, u, rest, hfirst, hrest, -⟩ := run_cons.mp hrun
    simp [run, hfirst, run_eq_none_of_step hstep hrest]

/-- A run from a state of an invariant that every step keeps, and on which no step fails, does
    not fail. -/
theorem run_isSome (P : σ → Prop) :
    ∀ {as : List α} {s : σ},
      (∀ a ∈ as, ∀ t o t', step t a = some (o, t') → P t → P t') →
      (∀ a ∈ as, ∀ t, P t → (step t a).isSome) →
      P s → (run step s as).isSome
  | [], _, _, _, _ => rfl
  | a :: as, s, hP, hprogress, hs => by
    obtain ⟨⟨o, t⟩, hfirst⟩ := Option.isSome_iff_exists.mp (hprogress a List.mem_cons_self s hs)
    have ht : P t := hP a List.mem_cons_self s o t hfirst hs
    have hrest := run_isSome P (fun b hb => hP b (List.mem_cons_of_mem a hb))
      (fun b hb => hprogress b (List.mem_cons_of_mem a hb)) ht
    obtain ⟨⟨rest, s'⟩, hrun⟩ := Option.isSome_iff_exists.mp hrest
    simp [run, hfirst, hrun]

/-- When every step outputs the state it leaves, the states of a run in order, from the first,
    form a chain of what every step relates. -/
theorem run_isChain {step : σ → α → Option (σ × σ)} (P : σ → Prop) (R : σ → σ → Prop) :
    ∀ {as : List α} {s s' : σ} {trace : List (α × σ)},
      (∀ a ∈ as, ∀ t o t', step t a = some (o, t') → P t → P t' ∧ o = t' ∧ R t t') →
      run step s as = some (trace, s') → P s → (s :: trace.map Prod.snd).IsChain R
  | [], _, _, _, _, hrun, _ => by
    obtain ⟨rfl, -⟩ := run_nil.mp hrun
    exact List.IsChain.singleton _
  | a :: _, s, _, _, hstep, hrun, hs => by
    obtain ⟨o, t, rest, hfirst, hrest, rfl⟩ := run_cons.mp hrun
    obtain ⟨ht, rfl, hrel⟩ := hstep a List.mem_cons_self s o t hfirst hs
    have hchain := run_isChain P R (fun b hb => hstep b (List.mem_cons_of_mem a hb)) hrest ht
    rw [List.map_cons]
    exact List.isChain_cons_cons.mpr ⟨hrel, hchain⟩

section HighWaterMark

variable {β : Type} (mark : σ → β) (stamp : α → ω → Option β)

/-- The stamps of a run's outputs, in order. -/
def stamps (trace : List (α × ω)) : List β := trace.filterMap fun p => stamp p.1 p.2

variable {stamp} in
theorem stamps_cons (a : α) (o : ω) (trace : List (α × ω)) :
    stamps stamp ((a, o) :: trace) =
      match stamp a o with
      | some b => b :: stamps stamp trace
      | none => stamps stamp trace := by
  simp only [stamps, List.filterMap_cons]
  cases stamp a o <;> rfl

variable [Preorder β] (step)

/-- A mark that no step lowers, and a stamp on an output that is above the mark before its
    step and at most the mark after it. -/
structure HighWaterMark : Prop where
  mono : ∀ {s a o s'}, step s a = some (o, s') → mark s ≤ mark s'
  stamp : ∀ {s a o s' b}, step s a = some (o, s') → stamp a o = some b → mark s < b ∧ b ≤ mark s'

variable {step mark stamp}

/-- Over a run, the mark does not go down, every stamp lies between the marks at the run's ends,
    and the stamps strictly increase. -/
theorem HighWaterMark.run (hmark : HighWaterMark step mark stamp) :
    ∀ {as : List α} {s s' : σ} {trace : List (α × ω)}, run step s as = some (trace, s') →
      mark s ≤ mark s' ∧ (∀ b ∈ stamps stamp trace, mark s < b ∧ b ≤ mark s') ∧
        (stamps stamp trace).Pairwise (· < ·)
  | [], _, _, _, hrun => by
    obtain ⟨rfl, rfl⟩ := run_nil.mp hrun
    simp [stamps]
  | _ :: _, s, s', _, hrun => by
    obtain ⟨o, t, rest, hfirst, hrest, rfl⟩ := run_cons.mp hrun
    obtain ⟨hle, hbetween, hpairwise⟩ := hmark.run hrest
    have hst : mark s ≤ mark t := hmark.mono hfirst
    refine ⟨hst.trans hle, ?_, ?_⟩ <;> rw [stamps_cons] <;> split
    · rename_i b hb
      obtain ⟨hsb, hbt⟩ := hmark.stamp hfirst hb
      intro c hc
      rcases List.mem_cons.mp hc with rfl | hc
      · exact ⟨hsb, hbt.trans hle⟩
      · exact ⟨hst.trans_lt (hbetween c hc).1, (hbetween c hc).2⟩
    · intro c hc
      exact ⟨hst.trans_lt (hbetween c hc).1, (hbetween c hc).2⟩
    · rename_i b hb
      obtain ⟨-, hbt⟩ := hmark.stamp hfirst hb
      exact List.pairwise_cons.mpr ⟨fun c hc => hbt.trans_lt (hbetween c hc).1, hpairwise⟩
    · exact hpairwise

end HighWaterMark

end Run
