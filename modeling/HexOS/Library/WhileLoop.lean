import Mathlib.Order.Basic

/-!
Loops that need not terminate.

`iterate body fuel` runs a loop body that either continues from a new state or
leaves with a result; running out of fuel gives `none`. A loop is reasoned about
by an invariant (`iterate_invariant`), shown to return by a variant
(`iterate_terminates`), and shown never to return by an invariant whose states
always continue (`iterate_diverges`).
-/

namespace WhileLoop

variable {σ ρ : Type*} {body : σ → σ ⊕ ρ}

def iterate (body : σ → σ ⊕ ρ) : Nat → σ → Option ρ
  | 0, _ => none
  | fuel + 1, s =>
      match body s with
      | .inl t => iterate body fuel t
      | .inr r => some r

/-- More fuel does not change a result. -/
theorem iterate_mono {fuel more : Nat} {s : σ} {r : ρ} (enough : fuel ≤ more)
    (done : iterate body fuel s = some r) : iterate body more s = some r := by
  induction fuel generalizing s more with
  | zero => simp [iterate] at done
  | succ fuel ih =>
      obtain ⟨more, rfl⟩ : ∃ m, more = m + 1 := ⟨more - 1, by omega⟩
      cases h : body s with
      | inl t =>
          simp only [iterate, h] at done ⊢
          exact ih (by omega) done
      | inr r' => simpa only [iterate, h] using done

/-- Partial correctness: what holds on entry and is kept by every round holds
where the loop leaves. -/
theorem iterate_invariant {I : σ → Prop} {Q : ρ → Prop}
    (keep : ∀ s t, I s → body s = .inl t → I t)
    (leave : ∀ s r, I s → body s = .inr r → Q r)
    {fuel : Nat} {s : σ} {r : ρ} (start : I s) (done : iterate body fuel s = some r) : Q r := by
  induction fuel generalizing s with
  | zero => simp [iterate] at done
  | succ fuel ih =>
      cases h : body s with
      | inl t =>
          simp only [iterate, h] at done
          exact ih (keep s t start h) done
      | inr r' =>
          simp only [iterate, h, Option.some.injEq] at done
          exact done ▸ leave s r' start h

/-- Total correctness: a variant that every round lowers bounds the rounds. -/
theorem iterate_terminates {I : σ → Prop} (variant : σ → Nat)
    (lower : ∀ s t, I s → body s = .inl t → I t ∧ variant t < variant s)
    {s : σ} (start : I s) : ∃ r, iterate body (variant s + 1) s = some r := by
  induction hv : variant s using Nat.strongRecOn generalizing s with
  | ind v ih =>
      cases h : body s with
      | inr r => exact ⟨r, by simp [iterate, h]⟩
      | inl t =>
          obtain ⟨next, less⟩ := lower s t start h
          obtain ⟨r, done⟩ := ih (variant t) (hv ▸ less) next rfl
          refine ⟨r, ?_⟩
          simp only [iterate, h]
          exact iterate_mono (by omega) done

/-- An invariant under which every round continues: the loop never returns. -/
theorem iterate_diverges {I : σ → Prop} (continues : ∀ s, I s → ∃ t, body s = .inl t ∧ I t)
    {s : σ} (start : I s) (fuel : Nat) : iterate body fuel s = none := by
  induction fuel generalizing s with
  | zero => rfl
  | succ fuel ih =>
      obtain ⟨t, round, next⟩ := continues s start
      simp only [iterate, round]
      exact ih next

/-- Two loops whose related states continue alike and leave alike. -/
theorem iterate_simulation {τ ρ' : Type*} {body' : τ → τ ⊕ ρ'} {R : σ → τ → Prop}
    {S : ρ → ρ' → Prop}
    (sim : ∀ s t, R s t →
      (∃ s' t', body s = .inl s' ∧ body' t = .inl t' ∧ R s' t') ∨
        ∃ r r', body s = .inr r ∧ body' t = .inr r' ∧ S r r')
    (fuel : Nat) {s : σ} {t : τ} (start : R s t) :
    (∃ r r', iterate body fuel s = some r ∧ iterate body' fuel t = some r' ∧ S r r') ∨
      iterate body fuel s = none ∧ iterate body' fuel t = none := by
  induction fuel generalizing s t with
  | zero => exact .inr ⟨rfl, rfl⟩
  | succ fuel ih =>
      rcases sim s t start with ⟨s', t', left, right, next⟩ | ⟨r, r', left, right, same⟩
      · simp only [iterate, left, right]
        exact ih next
      · simp only [iterate, left, right]
        exact .inl ⟨r, r', rfl, rfl, same⟩

end WhileLoop
