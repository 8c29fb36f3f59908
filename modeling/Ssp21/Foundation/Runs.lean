import Mathlib.Data.List.Basic

/-!
# Runs of a partial step function

A step function takes a state along a label, if the label is possible in the
state.  `run` follows a list of labels.  `Along` says that a condition holds at
every step of a run, in the state that the step is taken in; it is how a run is
restricted to the inputs that a result is about.  `collect` follows a step function
that is total and has outputs.
-/

namespace Ssp21.Runs

variable {σ α : Type*} {step : σ → α → Option σ} {condition : σ → α → Prop}

def run (step : σ → α → Option σ) : σ → List α → Option σ
  | state, [] => some state
  | state, label :: labels =>
      match step state label with
      | none => none
      | some next => run step next labels

/-- Every step meets the condition. -/
def Along (step : σ → α → Option σ) (condition : σ → α → Prop) : σ → List α → Prop
  | _, [] => True
  | state, label :: labels =>
      condition state label ∧ ∀ next, step state label = some next →
        Along step condition next labels

instance decidableAlong [∀ state label, Decidable (condition state label)] :
    ∀ state labels, Decidable (Along step condition state labels)
  | _, [] => isTrue trivial
  | state, label :: labels =>
      match h : step state label with
      | none =>
          decidable_of_iff (condition state label)
            ⟨fun hcondition => ⟨hcondition, by simp [h]⟩, fun halong => halong.1⟩
      | some next =>
          have := decidableAlong next labels
          decidable_of_iff (condition state label ∧ Along step condition next labels)
            ⟨fun ⟨hcondition, hrest⟩ => ⟨hcondition, by simpa [h] using hrest⟩,
              fun halong => ⟨halong.1, halong.2 next h⟩⟩

theorem run_cons {state state' : σ} {label : α} {labels : List α}
    (hrun : run step state (label :: labels) = some state') :
    ∃ next, step state label = some next ∧ run step next labels = some state' := by
  simp only [run] at hrun
  split at hrun
  · cases hrun
  · rename_i next hstep
    exact ⟨next, hstep, hrun⟩

/-- A run that goes on. -/
theorem run_append {state state' state'' : σ} {labels labels' : List α}
    (hrun : run step state labels = some state') (hrest : run step state' labels' = some state'') :
    run step state (labels ++ labels') = some state'' := by
  induction labels generalizing state with
  | nil =>
      cases hrun
      exact hrest
  | cons first labels ih =>
      obtain ⟨next, hnext, hrun⟩ := run_cons hrun
      simp only [List.cons_append, run, hnext]
      exact ih hrun

theorem run_concat {state state' state'' : σ} {labels : List α} {label : α}
    (hrun : run step state labels = some state') (hstep : step state' label = some state'') :
    run step state (labels ++ [label]) = some state'' :=
  run_append hrun (by simp [run, hstep])

/-- A run through a list is one through each part of it. -/
theorem run_of_append {state state' : σ} {labels labels' : List α}
    (hrun : run step state (labels ++ labels') = some state') :
    ∃ middle, run step state labels = some middle ∧ run step middle labels' = some state' := by
  induction labels generalizing state with
  | nil => exact ⟨state, rfl, hrun⟩
  | cons first labels ih =>
      obtain ⟨next, hnext, hrest⟩ := run_cons hrun
      obtain ⟨middle, hfirst, hlast⟩ := ih hrest
      exact ⟨middle, by simpa only [run, hnext] using hfirst, hlast⟩

/-- What every step keeps, a run keeps. -/
theorem run_invariant (P : σ → Prop)
    (hstep : ∀ state label next, P state → condition state label → step state label = some next →
      P next)
    {labels : List α} {state state' : σ} (hrun : run step state labels = some state')
    (halong : Along step condition state labels) (hstart : P state) : P state' := by
  induction labels generalizing state with
  | nil =>
      cases hrun
      exact hstart
  | cons label labels ih =>
      obtain ⟨next, hnext, hrest⟩ := run_cons hrun
      exact ih hrest (halong.2 next hnext) (hstep state label next hstart halong.1 hnext)

/-- If the condition makes a step possible, then there is a run. -/
theorem exists_run_of_along
    (hpossible : ∀ state label, condition state label → ∃ next, step state label = some next)
    {labels : List α} {state : σ} (halong : Along step condition state labels) :
    ∃ state', run step state labels = some state' := by
  induction labels generalizing state with
  | nil => exact ⟨state, rfl⟩
  | cons label labels ih =>
      obtain ⟨next, hnext⟩ := hpossible state label halong.1
      obtain ⟨state', hrun⟩ := ih (halong.2 next hnext)
      exact ⟨state', by rw [run, hnext]; exact hrun⟩

/-- A condition that no step can fail is met along every run. -/
theorem along_of_forall (hall : ∀ state label, condition state label) (state : σ)
    (labels : List α) : Along step condition state labels := by
  induction labels generalizing state with
  | nil => exact trivial
  | cons label labels ih => exact ⟨hall state label, fun next _ => ih next⟩

/-- The same for a condition on the labels. -/
theorem along_of_mem {admits : α → Prop} {labels : List α} (hall : ∀ label ∈ labels, admits label)
    (state : σ) : Along step (fun _ label => admits label) state labels := by
  induction labels generalizing state with
  | nil => exact trivial
  | cons label labels ih =>
      exact ⟨hall label List.mem_cons_self,
        fun next _ => ih (fun other hmem => hall other (List.mem_cons_of_mem _ hmem)) next⟩

theorem Along.and {condition' : σ → α → Prop} {labels : List α} {state : σ}
    (hfirst : Along step condition state labels) (hsecond : Along step condition' state labels) :
    Along step (fun state label => condition state label ∧ condition' state label)
      state labels := by
  induction labels generalizing state with
  | nil => exact trivial
  | cons label labels ih =>
      exact ⟨⟨hfirst.1, hsecond.1⟩, fun next hstep =>
        ih (hfirst.2 next hstep) (hsecond.2 next hstep)⟩

theorem Along.mono {condition' : σ → α → Prop} {labels : List α} {state : σ}
    (halong : Along step condition state labels)
    (himp : ∀ state label, condition state label → condition' state label) :
    Along step condition' state labels := by
  induction labels generalizing state with
  | nil => exact trivial
  | cons label labels ih =>
      exact ⟨himp state label halong.1, fun next hstep => ih (halong.2 next hstep)⟩

/-- A condition is met along a run that goes on. -/
theorem Along.append {labels labels' : List α} {state : σ}
    (hfirst : Along step condition state labels)
    (hrest : ∀ state', run step state labels = some state' → Along step condition state' labels') :
    Along step condition state (labels ++ labels') := by
  induction labels generalizing state with
  | nil => exact hrest state rfl
  | cons label labels ih =>
      refine ⟨hfirst.1, fun next hstep => ih (hfirst.2 next hstep) fun state' hrun => ?_⟩
      exact hrest state' (by rw [run, hstep]; exact hrun)

/-! ## Steps with outputs -/

section Outputs

variable {β : Type*} {act : σ → α → σ × List β}

/-- The last state, and everything that was put out. -/
def collect (act : σ → α → σ × List β) : σ → List α → σ × List β
  | state, [] => (state, [])
  | state, label :: labels =>
      let (next, output) := act state label
      let (last, more) := collect act next labels
      (last, output ++ more)

theorem collect_append (state : σ) (front back : List α) :
    collect act state (front ++ back) =
      ((collect act (collect act state front).1 back).1,
        (collect act state front).2 ++ (collect act (collect act state front).1 back).2) := by
  induction front generalizing state with
  | nil => simp [collect]
  | cons label front ih => simp [collect, ih]

/-- Related states that put out the same at every step do so in every run. -/
theorem collect_related {R : σ → σ → Prop}
    (hact : ∀ state state' label, R state state' →
      (act state label).2 = (act state' label).2 ∧ R (act state label).1 (act state' label).1)
    {state state' : σ} (hrelated : R state state') (labels : List α) :
    (collect act state labels).2 = (collect act state' labels).2 ∧
      R (collect act state labels).1 (collect act state' labels).1 := by
  induction labels generalizing state state' with
  | nil => exact ⟨rfl, hrelated⟩
  | cons label labels ih =>
      obtain ⟨houtput, hnext⟩ := hact state state' label hrelated
      obtain ⟨hmore, hlast⟩ := ih hnext
      exact ⟨by simp only [collect, houtput, hmore], hlast⟩

end Outputs

end Ssp21.Runs
