import Mathlib.Data.List.Basic
/-!
Invariants of programs with exceptions.

`Keeps P x` says that `x`, run from a state satisfying `P`, ends in a state satisfying `P`,
whether it returns or throws: in `EStateM` a throw carries the state it happened in, and a
`catch` block goes on from there. A frame property ("`x` does not change field `f`") is the
family of invariants `f s = v`.

The lemmas below are one per way of building a program, so that an invariant of a large
`do` block follows from the invariants of the calls it makes, with no unfolding of the
monad.
-/

set_option autoImplicit false

namespace Methcla

variable {ε σ β γ : Type} {P : σ → Prop}

/-- The state a run ends in, whether it returned or threw. -/
def endState : EStateM.Result ε σ β → σ
  | .ok _ s => s
  | .error _ s => s

@[simp] theorem endState_ok (b : β) (s : σ) : endState (.ok b s : EStateM.Result ε σ β) = s := rfl
@[simp] theorem endState_error (e : ε) (s : σ) :
    endState (.error e s : EStateM.Result ε σ β) = s := rfl

/-- The exception a run threw, `none` if it returned. -/
def errorOf : EStateM.Result ε σ β → Option ε
  | .ok _ _ => none
  | .error e _ => some e

/-! ## Running a program one step at a time -/

/-- \`x.run s\` is \`x\` applied to \`s\`; the lemmas below unfold it by this, not by its
equation lemma. -/
theorem run_def (x : EStateM ε σ β) (s : σ) : x.run s = x s := rfl

section Run

variable {x : EStateM ε σ β} {s s' : σ}

theorem run_bind_ok {b : β} (h : x.run s = .ok b s') (f : β → EStateM ε σ γ) :
    (x >>= f).run s = (f b).run s' := by
  simp only [run_def] at h
  simp only [run_def, bind, EStateM.bind, h]

theorem run_bind_error {e : ε} (h : x.run s = .error e s') (f : β → EStateM ε σ γ) :
    (x >>= f).run s = .error e s' := by
  simp only [run_def] at h
  simp only [run_def, bind, EStateM.bind, h]

theorem run_tryCatch_ok {b : β} (h : x.run s = .ok b s') (handler : ε → EStateM ε σ β) :
    (tryCatch x handler).run s = .ok b s' := by
  simp only [run_def] at h
  simp only [run_def, tryCatch, tryCatchThe, MonadExceptOf.tryCatch, EStateM.tryCatch, h]

theorem run_tryCatch_error {e : ε} (h : x.run s = .error e s') (handler : ε → EStateM ε σ β) :
    (tryCatch x handler).run s = (handler e).run s' := by
  simp only [run_def] at h
  simp only [run_def, tryCatch, tryCatchThe, MonadExceptOf.tryCatch, EStateM.tryCatch, h]
  rfl

/-- Inside a `try` block, a call that returns hands on to the rest of the block. -/
theorem run_tryCatch_bind_ok {b : β} (h : x.run s = .ok b s') (f : β → EStateM ε σ γ)
    (handler : ε → EStateM ε σ γ) :
    (tryCatch (x >>= f) handler).run s = (tryCatch (f b) handler).run s' := by
  simp only [run_def] at h
  simp only [run_def, tryCatch, tryCatchThe, MonadExceptOf.tryCatch, EStateM.tryCatch, bind,
    EStateM.bind, h]

theorem run_bind_eq_ok {c : γ} {s'' : σ} {f : β → EStateM ε σ γ} (h : (x >>= f).run s = .ok c s'') :
    ∃ b s', x.run s = .ok b s' ∧ (f b).run s' = .ok c s'' := by
  rcases hx : x.run s with ⟨b, s'⟩ | ⟨e, s'⟩
  · exact ⟨b, s', rfl, by rwa [run_bind_ok hx] at h⟩
  · rw [run_bind_error hx] at h
    cases h

/-- A loop whose body always returns, with an invariant that depends on the elements still
to come: each call takes it from `a :: l` to `l`. -/
theorem run_forM_pending {I : List γ → σ → Prop} {f : γ → EStateM ε σ PUnit}
    (hok : ∀ a s, ∃ s', (f a).run s = .ok ⟨⟩ s')
    (h : ∀ a l s, I (a :: l) s → I l (endState ((f a).run s))) :
    ∀ (l : List γ) (s : σ), I l s → ∃ s', (l.forM f).run s = .ok ⟨⟩ s' ∧ I [] s'
  | [], s, hs => ⟨s, rfl, hs⟩
  | a :: l, s, hs => by
    obtain ⟨s₁, h₁⟩ := hok a s
    have hs₁ := h a l s hs
    rw [h₁, endState_ok] at hs₁
    obtain ⟨s', h', hI⟩ := run_forM_pending hok h l s₁ hs₁
    exact ⟨s', (run_bind_ok h₁ _).trans h', hI⟩

end Run

/-- `x` keeps `P`: from a state satisfying `P` it ends in one, returning or throwing. -/
def Keeps (P : σ → Prop) (x : EStateM ε σ β) : Prop := ∀ s, P s → P (endState (x.run s))

namespace Keeps

/-- Read an invariant off a run whose result is known. -/
theorem run_state {x : EStateM ε σ β} (hx : Keeps P x) {s : σ} {r : EStateM.Result ε σ β}
    (hs : P s) (h : x.run s = r) : P (endState r) :=
  h ▸ hx s hs

theorem pure (b : β) : Keeps P (Pure.pure b : EStateM ε σ β) := fun _ h => h

theorem throw (e : ε) : Keeps P (MonadExcept.throw e : EStateM ε σ β) := fun _ h => h

theorem get : Keeps P (MonadState.get : EStateM ε σ σ) := fun _ h => h

/-- A program that first reads the state keeps `P` when the rest keeps it from the state
it read. -/
theorem get_bind {f : σ → EStateM ε σ β} (hf : ∀ s, P s → P (endState ((f s).run s))) :
    Keeps P (MonadState.get >>= f) := hf

theorem modifyGet {f : σ → β × σ} (hf : ∀ s, P s → P (f s).2) :
    Keeps P (MonadState.modifyGet f : EStateM ε σ β) := hf

theorem modify {f : σ → σ} (hf : ∀ s, P s → P (f s)) :
    Keeps P (MonadState.modifyGet fun s => (PUnit.unit, f s) : EStateM ε σ PUnit) := hf

/-- A bind ends in `P` from `s` when its first program does and the rest keeps `P`. -/
theorem bind_at {x : EStateM ε σ β} {f : β → EStateM ε σ γ} {s : σ} (hx : P (endState (x.run s)))
    (hf : ∀ b, Keeps P (f b)) : P (endState ((x >>= f).run s)) := by
  show P (endState (EStateM.bind x f s))
  unfold EStateM.bind
  rcases hrun : x s with ⟨b, s'⟩ | ⟨e, s'⟩ <;> rw [run_def, hrun] at hx
  · exact hf b s' hx
  · exact hx

theorem bind {x : EStateM ε σ β} {f : β → EStateM ε σ γ} (hx : Keeps P x)
    (hf : ∀ b, Keeps P (f b)) : Keeps P (x >>= f) :=
  fun s hs => bind_at (hx s hs) hf

theorem tryCatch {x : EStateM ε σ β} {h : ε → EStateM ε σ β} (hx : Keeps P x)
    (hh : ∀ e, Keeps P (h e)) : Keeps P (MonadExcept.tryCatch x h) := by
  intro s hs
  have hxs : P (endState (x s)) := hx s hs
  show P (endState (EStateM.tryCatch x h s))
  unfold EStateM.tryCatch
  rcases hrun : x s with ⟨b, s'⟩ | ⟨e, s'⟩ <;> rw [hrun] at hxs
  · exact hxs
  · exact hh e s' hxs

/-- A `try` block ends in `P` from `s` when its first call does from `s`, and the rest of
the block and the handler keep `P`. -/
theorem tryCatch_bind_at {x : EStateM ε σ β} {f : β → EStateM ε σ γ} {h : ε → EStateM ε σ γ} {s : σ}
    (hx : P (endState (x.run s))) (hf : ∀ b, Keeps P (f b)) (hh : ∀ e, Keeps P (h e)) :
    P (endState ((MonadExcept.tryCatch (x >>= f) h).run s)) := by
  rcases hrun : x.run s with ⟨b, s'⟩ | ⟨e, s'⟩ <;> rw [hrun] at hx
  · rw [run_tryCatch_bind_ok hrun]
    exact tryCatch (hf b) hh s' hx
  · rw [run_tryCatch_error (run_bind_error hrun f)]
    exact hh e s' hx

theorem ite {c : Prop} [Decidable c] {x y : EStateM ε σ β} (hx : Keeps P x) (hy : Keeps P y) :
    Keeps P (if c then x else y) := by
  split <;> assumption

theorem forM {l : List γ} {f : γ → EStateM ε σ PUnit} (h : ∀ a ∈ l, Keeps P (f a)) :
    Keeps P (l.forM f) := by
  induction l with
  | nil => exact pure _
  | cons a l ih =>
    exact bind (h a (.head _)) fun _ => ih fun b hb => h b (.tail _ hb)

end Keeps

end Methcla
