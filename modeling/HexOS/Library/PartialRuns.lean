import Mathlib.Data.List.Basic

/-!
Runs of a machine whose steps may fail.

`step s i` takes input `i` in state `s`; it fails or gives an output and the
next state. `run` takes a list of inputs. `Along step Q s is` says that every
step the run takes satisfies `Q`, a property of the state before, the input, the
output and the state after; a failing step ends the run. The rules below turn
facts about one step into facts about whole runs.
-/

namespace PartialRuns

variable {σ τ ι ο ε : Type*} {step : σ → ι → Except ε (ο × σ)}

def run (step : σ → ι → Except ε (ο × σ)) : σ → List ι → Except ε (List ο × σ)
  | s, [] => .ok ([], s)
  | s, i :: is =>
      match step s i with
      | .error e => .error e
      | .ok (o, t) =>
          match run step t is with
          | .error e => .error e
          | .ok (os, u) => .ok (o :: os, u)

def Along (step : σ → ι → Except ε (ο × σ)) (Q : σ → ι → ο → σ → Prop) : σ → List ι → Prop
  | _, [] => True
  | s, i :: is => ∀ o t, step s i = .ok (o, t) → Q s i o t ∧ Along step Q t is

/-- `G` is asked of the state and the input before each step that is taken. -/
abbrev Guarded (step : σ → ι → Except ε (ο × σ)) (G : σ → ι → Prop) : σ → List ι → Prop :=
  Along step fun s i _ _ => G s i

theorem run_cons_ok {s u : σ} {i : ι} {is : List ι} {out : List ο}
    (done : run step s (i :: is) = .ok (out, u)) :
    ∃ o t os, step s i = .ok (o, t) ∧ run step t is = .ok (os, u) ∧ out = o :: os := by
  simp only [run] at done
  cases h : step s i with
  | error e => simp [h] at done
  | ok pair =>
      obtain ⟨o, t⟩ := pair
      cases rest : run step t is with
      | error e => simp [h, rest] at done
      | ok tail =>
          obtain ⟨os, v⟩ := tail
          simp only [h, rest, Except.ok.injEq, Prod.mk.injEq] at done
          obtain ⟨rfl, rfl⟩ := done
          exact ⟨o, t, os, rfl, rest, rfl⟩

theorem run_snoc {s t u : σ} {is : List ι} {i : ι} {os : List ο} {o : ο}
    (done : run step s is = .ok (os, t)) (last : step t i = .ok (o, u)) :
    run step s (is ++ [i]) = .ok (os ++ [o], u) := by
  induction is generalizing s os with
  | nil =>
      simp only [run, Except.ok.injEq, Prod.mk.injEq] at done
      obtain ⟨rfl, rfl⟩ := done
      simp only [List.nil_append, run, last]
  | cons j is ih =>
      obtain ⟨o', v, os', first, rest, rfl⟩ := run_cons_ok done
      simp only [List.cons_append, run, first, ih rest]

/-- An invariant kept by every step holds wherever a run ends. -/
theorem run_invariant {I : σ → Prop} (keep : ∀ s i o t, I s → step s i = .ok (o, t) → I t)
    {s t : σ} {is : List ι} {os : List ο} (start : I s) (done : run step s is = .ok (os, t)) :
    I t := by
  induction is generalizing s os with
  | nil =>
      simp only [run, Except.ok.injEq, Prod.mk.injEq] at done
      exact done.2 ▸ start
  | cons i is ih =>
      obtain ⟨o, u, os', first, rest, -⟩ := run_cons_ok done
      exact ih (keep s i o u start first) rest

/-- An invariant kept by every step that meets a guard. -/
theorem run_guarded {I : σ → Prop} {G : σ → ι → Prop}
    (keep : ∀ s i o t, I s → G s i → step s i = .ok (o, t) → I t)
    {s t : σ} {is : List ι} {os : List ο} (start : I s) (guard : Guarded step G s is)
    (done : run step s is = .ok (os, t)) : I t := by
  induction is generalizing s os with
  | nil =>
      simp only [run, Except.ok.injEq, Prod.mk.injEq] at done
      exact done.2 ▸ start
  | cons i is ih =>
      obtain ⟨o, u, os', first, rest, -⟩ := run_cons_ok done
      obtain ⟨here, later⟩ := guard o u first
      exact ih (keep s i o u start here first) later rest

/-- When one admitted step has `Q` exactly under the guard `G`, an admitted run
has `Q` in all its steps exactly when all its steps meet `G`. -/
theorem along_iff_guarded_of {I : σ → Prop} {A G : σ → ι → Prop} {Q : σ → ι → ο → σ → Prop}
    (exactly : ∀ s i o t, I s → A s i → step s i = .ok (o, t) → (Q s i o t ↔ G s i))
    (keep : ∀ s i o t, I s → A s i → G s i → step s i = .ok (o, t) → I t)
    {s : σ} {is : List ι} (start : I s) (admitted : Guarded step A s is) :
    Along step Q s is ↔ Guarded step G s is := by
  induction is generalizing s with
  | nil => exact ⟨fun _ => trivial, fun _ => trivial⟩
  | cons i is ih =>
      constructor
      · intro along o t first
        obtain ⟨allowed, rest⟩ := admitted o t first
        obtain ⟨here, later⟩ := along o t first
        have guard := (exactly s i o t start allowed first).mp here
        exact ⟨guard, (ih (keep s i o t start allowed guard first) rest).mp later⟩
      · intro guarded o t first
        obtain ⟨allowed, rest⟩ := admitted o t first
        obtain ⟨guard, later⟩ := guarded o t first
        exact ⟨(exactly s i o t start allowed first).mpr guard,
          (ih (keep s i o t start allowed guard first) rest).mpr later⟩

/-- What one step makes of a property of it holds of a run in which every step has
the property. -/
theorem along_imp {I : σ → Prop} {Q Q' : σ → ι → ο → σ → Prop}
    (keep : ∀ s i o t, I s → step s i = .ok (o, t) → Q s i o t → Q' s i o t ∧ I t)
    {s : σ} {is : List ι} (start : I s) (along : Along step Q s is) : Along step Q' s is := by
  induction is generalizing s with
  | nil => trivial
  | cons i is ih =>
      intro o t first
      obtain ⟨here, later⟩ := along o t first
      obtain ⟨kept, next⟩ := keep s i o t start first here
      exact ⟨kept, ih next later⟩

theorem along_and {Q Q' : σ → ι → ο → σ → Prop} {s : σ} {is : List ι} (left : Along step Q s is)
    (right : Along step Q' s is) : Along step (fun s i o t => Q s i o t ∧ Q' s i o t) s is := by
  induction is generalizing s with
  | nil => trivial
  | cons i is ih =>
      intro o t first
      obtain ⟨one, ones⟩ := left o t first
      obtain ⟨other, others⟩ := right o t first
      exact ⟨⟨one, other⟩, ih ones others⟩

theorem guarded_of_forall {G : ι → Prop} {is : List ι} (all : ∀ i ∈ is, G i) {s : σ} :
    Guarded step (fun _ i => G i) s is := by
  induction is generalizing s with
  | nil => trivial
  | cons i is ih =>
      exact fun _ _ _ => ⟨all i List.mem_cons_self, ih fun j member =>
        all j (List.mem_cons_of_mem i member)⟩

theorem guarded_trivial {s : σ} {is : List ι} : Guarded step (fun _ _ => True) s is := by
  induction is generalizing s with
  | nil => trivial
  | cons i is ih => exact fun _ _ _ => ⟨trivial, ih⟩

theorem along_iff_guarded {I : σ → Prop} {G : σ → ι → Prop} {Q : σ → ι → ο → σ → Prop}
    (exactly : ∀ s i o t, I s → step s i = .ok (o, t) → (Q s i o t ↔ G s i))
    (keep : ∀ s i o t, I s → G s i → step s i = .ok (o, t) → I t)
    {s : σ} {is : List ι} (start : I s) : Along step Q s is ↔ Guarded step G s is :=
  along_iff_guarded_of (A := fun _ _ => True) (fun s i o t inv _ => exactly s i o t inv)
    (fun s i o t inv _ => keep s i o t inv) start guarded_trivial

/-- Two machines whose related states take equal inputs to equal outputs and
related states, and fail alike, give the same outputs over whole runs. -/
theorem run_simulation {step' : τ → ι → Except ε (ο × τ)} {R : σ → τ → Prop}
    (sim : ∀ s s' i, R s s' →
      (∃ o t t', step s i = .ok (o, t) ∧ step' s' i = .ok (o, t') ∧ R t t') ∨
        ∃ e, step s i = .error e ∧ step' s' i = .error e)
    {s : σ} {s' : τ} (is : List ι) (start : R s s') :
    (∃ os t t', run step s is = .ok (os, t) ∧ run step' s' is = .ok (os, t') ∧ R t t') ∨
      ∃ e, run step s is = .error e ∧ run step' s' is = .error e := by
  induction is generalizing s s' with
  | nil => exact .inl ⟨[], s, s', rfl, rfl, start⟩
  | cons i is ih =>
      rcases sim s s' i start with ⟨o, t, t', left, right, next⟩ | ⟨e, left, right⟩
      · rcases ih next with ⟨os, u, u', done, done', rel⟩ | ⟨e, fail, fail'⟩
        · exact .inl ⟨o :: os, u, u', by simp [run, left, done], by simp [run, right, done'], rel⟩
        · exact .inr ⟨e, by simp [run, left, fail], by simp [run, right, fail']⟩
      · exact .inr ⟨e, by simp [run, left], by simp [run, right]⟩

/-- A machine refines another when it can follow every step that the other takes: it
then gives the outputs of every run that the other completes. -/
theorem run_refines {ε' : Type*} {step' : τ → ι → Except ε' (ο × τ)} {R : σ → τ → Prop}
    (sim : ∀ s s' i o t, R s s' → step s i = .ok (o, t) → ∃ t', step' s' i = .ok (o, t') ∧ R t t')
    {s t : σ} {s' : τ} {is : List ι} {os : List ο} (start : R s s')
    (done : run step s is = .ok (os, t)) : ∃ t', run step' s' is = .ok (os, t') ∧ R t t' := by
  induction is generalizing s s' os with
  | nil =>
      simp only [run, Except.ok.injEq, Prod.mk.injEq] at done
      obtain ⟨rfl, rfl⟩ := done
      exact ⟨s', rfl, start⟩
  | cons i is ih =>
      obtain ⟨o, u, os', first, rest, rfl⟩ := run_cons_ok done
      obtain ⟨u', first', related⟩ := sim s s' i o u start first
      obtain ⟨t', rest', ends⟩ := ih related rest
      exact ⟨t', by simp only [run, first', rest'], ends⟩

/-! ### Total machines -/

variable {f : σ → ι → σ} {g : τ → ι → τ}

/-- `G` is asked of the state and the input before every step. -/
def Throughout (g : τ → ι → τ) (G : τ → ι → Prop) : τ → List ι → Prop
  | _, [] => True
  | t, i :: is => G t i ∧ Throughout g G (g t i) is

/-- A total machine refines another when related states step to related states
wherever the other machine allows the input. -/
theorem foldl_refines {R : τ → σ → Prop} {G : τ → ι → Prop}
    (sim : ∀ t s i, R t s → G t i → R (g t i) (f s i)) {t : τ} {s : σ} {is : List ι}
    (start : R t s) (allowed : Throughout g G t is) : R (is.foldl g t) (is.foldl f s) := by
  induction is generalizing t s with
  | nil => exact start
  | cons i is ih =>
      obtain ⟨here, later⟩ := allowed
      exact ih (sim t s i start here) later

/-- When one admitted step has `Q` exactly under the guard `G`, all steps of an
admitted run have `Q` exactly when all meet `G`. -/
theorem throughout_iff {I : τ → Prop} {A G Q : τ → ι → Prop}
    (exactly : ∀ t i, I t → A t i → (Q t i ↔ G t i))
    (keep : ∀ t i, I t → A t i → G t i → I (g t i))
    {t : τ} {is : List ι} (start : I t) (admitted : Throughout g A t is) :
    Throughout g Q t is ↔ Throughout g G t is := by
  induction is generalizing t with
  | nil => exact Iff.rfl
  | cons i is ih =>
      obtain ⟨allowed, rest⟩ := admitted
      constructor
      · rintro ⟨here, later⟩
        have guard := (exactly t i start allowed).mp here
        exact ⟨guard, (ih (keep t i start allowed guard) rest).mp later⟩
      · rintro ⟨guard, later⟩
        exact ⟨(exactly t i start allowed).mpr guard,
          (ih (keep t i start allowed guard) rest).mpr later⟩

end PartialRuns
