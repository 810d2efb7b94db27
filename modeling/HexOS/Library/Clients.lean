import Mathlib.Data.Nat.Notation

/-!
Clients of a device.

A client asks one request after another, and what it asks next may depend on all
the answers so far. `run` is a client over a device that always answers;
`runWithin` is one over a device whose every answer has a limited effort, and
fails where one of them comes too late. `run_refines` is the rule for a device
that stands in for another: what holds of one request holds of a whole client.
-/

namespace Clients

inductive Client (ρ : Type*) (Answer : ρ → Type*) (α : Type*) where
  | done (a : α)
  | ask (request : ρ) (next : Answer request → Client ρ Answer α)

namespace Client

variable {ρ σ τ α β : Type*} {Answer : ρ → Type*}

def run (serve : (request : ρ) → σ → Answer request × σ) : Client ρ Answer α → σ → α × σ
  | .done a, s => (a, s)
  | .ask request next, s => run serve (next (serve request s).1) (serve request s).2

def runWithin (serve : ℕ → (request : ρ) → τ → Option (Answer request × τ)) (effort : ℕ) :
    Client ρ Answer α → τ → Option (α × τ)
  | .done a, t => some (a, t)
  | .ask request next, t =>
      match serve effort request t with
      | none => none
      | some (answer, t) => runWithin serve effort (next answer) t

/-- One client after the other. -/
def bind : Client ρ Answer α → (α → Client ρ Answer β) → Client ρ Answer β
  | .done a, after => after a
  | .ask request next, after => .ask request fun answer => (next answer).bind after

theorem run_bind (serve : (request : ρ) → σ → Answer request × σ) (client : Client ρ Answer α)
    (after : α → Client ρ Answer β) (s : σ) :
    (client.bind after).run serve s =
      (after (client.run serve s).1).run serve (client.run serve s).2 := by
  induction client generalizing s with
  | done a => rfl
  | ask request next ih => exact ih _ _

/-- `serve'` stands in for `serve`: it gives every request the same answer, and
needs some effort for it that is enough from then on. -/
def StandsIn (R : σ → τ → Prop) (serve : (request : ρ) → σ → Answer request × σ)
    (serve' : ℕ → (request : ρ) → τ → Option (Answer request × τ)) : Prop :=
  ∀ request s t, R s t → ∃ effort t',
    (∀ more ≥ effort, serve' more request t = some ((serve request s).1, t')) ∧
      R (serve request s).2 t'

/-- No client can tell the two devices apart. -/
theorem run_refines {R : σ → τ → Prop} {serve : (request : ρ) → σ → Answer request × σ}
    {serve' : ℕ → (request : ρ) → τ → Option (Answer request × τ)}
    (standsIn : StandsIn R serve serve') (client : Client ρ Answer α) {s : σ} {t : τ}
    (related : R s t) :
    ∃ effort t', (∀ more ≥ effort, client.runWithin serve' more t =
      some ((client.run serve s).1, t')) ∧ R (client.run serve s).2 t' := by
  induction client generalizing s t with
  | done a => exact ⟨0, t, fun _ _ => rfl, related⟩
  | ask request next ih =>
      obtain ⟨first, u, answered, between⟩ := standsIn request s t related
      obtain ⟨later, t', finished, last⟩ := ih (serve request s).1 between
      refine ⟨max first later, t', fun more enough => ?_, last⟩
      rw [runWithin, answered more (by omega)]
      exact finished more (by omega)

end Client

end Clients
