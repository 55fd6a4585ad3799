import PendingCalls.Proofs.Handles
import PendingCalls.Proofs.Replays

-- The handles of a counter are a circle, and where a session enters it shows nowhere: with
-- another first handle everything is the same, under handles that are shifted so far.

namespace PendingCalls

namespace Handle

end Handle

namespace HandleCounter

end HandleCounter

namespace Session

-- The same bridge but for where the handles start. Only a registry of its own starts there.
structure BridgePlan.Alike (f g : Int32) (plan other : BridgePlan) : Prop where
  config : plan.config.aside = other.config.aside
  registry : plan.registry = other.registry
  hook : plan.hook = other.hook
  here : plan.registry = none → plan.config.firstHandle = f
  there : plan.registry = none → other.config.firstHandle = g

namespace State

variable {s t : State} {σ τ : Renaming}

end State

theorem Action.renamed_same {σ : Renaming} (same : ∀ h, σ.handle h = h) (a : Action) : a.renamed σ = a := by
  have ref (h : HandleRef) : h.renamed σ = h := by
    cases h with
    | given h => exact congrArg HandleRef.given (same h)
    | own => rfl
  cases a with
  | native b call other decoder =>
    cases other with
    | none => rfl
    | some h => simp only [renamed,Option.map_some,ref]
  | _ => simp only [renamed,ref]

mutual

theorem Step.renamed_same {σ : Renaming} (same : ∀ h, σ.handle h = h) (step : Step) : step.renamed σ = step := by
  cases step with
  | act a => rw [Step.renamed,a.renamed_same same]
  | submit b decoder ending during => rw [Step.renamed,renamedSteps_same same during]
  | call b decoder ending during => rw [Step.renamed,renamedSteps_same same during]

theorem renamedSteps_same {σ : Renaming} (same : ∀ h, σ.handle h = h) (steps : List Step) : renamedSteps σ steps = steps := by
  cases steps with
  | nil => rfl
  | cons step rest => rw [renamedSteps,Step.renamed_same same step,renamedSteps_same same rest]

end

theorem run_renamed (σ : Renaming) (s : State) (steps : List Step) :
    run (s.renamed σ) (steps.map (Step.renamed σ)) =
      ((run s steps).1.map (Answer.renamed σ),(run s steps).2.renamed σ) := by
  have ran := runSteps_renamed σ ⟨0⟩ s steps
  rw [σ.outside,renamedSteps_map,renamedAnswers_map] at ran
  exact ran

-- Two calls, of which the second one is answered. With the greatest handle first the counter
-- starts over between them.
def lone (f : Int32) : List BridgePlan := [⟨⟨f,none⟩,none,none⟩]

end Session

end PendingCalls
