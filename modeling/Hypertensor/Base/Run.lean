import Mathlib

/-!
# Hypertensor.Base.Run — runs of a labelled machine

A machine is a step function on a state and a label. A run is a list of labels;
`Along` states what every step of the run satisfies, seen from the state the
step starts in. `run_invariant` is the induction every safety proof goes
through: what one step keeps, a whole run keeps. `Always` is about all states of a run;
where a step keeps a property exactly when it satisfies a condition, `always_iff_along`
says the same of runs. `Trace` is for steps that emit something as well.
-/

namespace Hypertensor.Base

variable {σ α : Type}

/-- The state after a list of labels. -/
def run (step : σ → α → σ) (s : σ) (ls : List α) : σ := ls.foldl step s

/-- Every step of the run satisfies `P`, from the state it is taken in. -/
def Along (step : σ → α → σ) (P : σ → α → Prop) : σ → List α → Prop
  | _, [] => True
  | s, l :: ls => P s l ∧ Along step P (step s l) ls

variable {step : σ → α → σ} {P : σ → α → Prop}

instance decidableAlong [∀ s l, Decidable (P s l)] :
    (s : σ) → (ls : List α) → Decidable (Along step P s ls)
  | _, [] => .isTrue trivial
  | s, l :: ls =>
      have : Decidable (Along step P (step s l) ls) := decidableAlong (step s l) ls
      inferInstanceAs (Decidable (_ ∧ _))

@[simp] theorem run_nil (s : σ) : run step s [] = s := rfl

@[simp] theorem run_cons (s : σ) (l : α) (ls : List α) :
    run step s (l :: ls) = run step (step s l) ls := rfl

theorem run_append (s : σ) (ls ms : List α) :
    run step s (ls ++ ms) = run step (run step s ls) ms := by
  simp [run, List.foldl_append]

theorem along_append {s : σ} {ls ms : List α} :
    Along step P s (ls ++ ms) ↔ Along step P s ls ∧ Along step P (run step s ls) ms := by
  induction ls generalizing s with
  | nil => simp [Along]
  | cons l ls ih =>
      simp only [List.cons_append, Along, run_cons, ih]
      exact and_assoc.symm

theorem Along.imp {Q : σ → α → Prop} (himp : ∀ s l, P s l → Q s l) {s : σ} {ls : List α}
    (h : Along step P s ls) : Along step Q s ls := by
  induction ls generalizing s with
  | nil => trivial
  | cons l ls ih => exact ⟨himp s l h.1, ih h.2⟩

theorem along_and {Q : σ → α → Prop} {s : σ} {ls : List α} (h : Along step P s ls)
    (h' : Along step Q s ls) : Along step (fun s l => P s l ∧ Q s l) s ls := by
  induction ls generalizing s with
  | nil => trivial
  | cons l ls ih => exact ⟨⟨h.1, h'.1⟩, ih h.2 h'.2⟩

/-- What every label satisfies from any state, every step satisfies. -/
theorem along_of_forall {s : σ} {ls : List α} (h : ∀ s, ∀ l ∈ ls, P s l) : Along step P s ls := by
  induction ls generalizing s with
  | nil => trivial
  | cons l ls ih =>
      exact ⟨h s l List.mem_cons_self, ih fun s m hm => h s m (List.mem_cons_of_mem l hm)⟩

/-- Invariant induction: an invariant kept by every step that satisfies `P`
holds after every run along which `P` holds. -/
theorem run_invariant {I : σ → Prop}
    (hstep : ∀ s l, P s l → I s → I (step s l))
    {s : σ} {ls : List α} (hrun : Along step P s ls) (hinit : I s) :
    I (run step s ls) := by
  induction ls generalizing s with
  | nil => exact hinit
  | cons l ls ih => exact ih hrun.2 (hstep s l hrun.1 hinit)

/-- The same for an invariant of a state and the labels that led to it. -/
theorem run_invariant_history {I : List α → σ → Prop}
    (hstep : ∀ pre s l, P s l → I pre s → I (pre ++ [l]) (step s l))
    {s : σ} {ls : List α} (hrun : Along step P s ls) (hinit : I [] s) :
    I ls (run step s ls) := by
  suffices hgen : ∀ pre, I pre s → I (pre ++ ls) (run step s ls) from hgen [] hinit
  clear hinit
  induction ls generalizing s with
  | nil =>
      intro pre h
      rwa [List.append_nil]
  | cons l ls ih =>
      intro pre h
      have hrest := ih hrun.2 (pre ++ [l]) (hstep pre s l hrun.1 h)
      rwa [List.append_assoc] at hrest

/-- What comes to hold in a run comes to hold in one of its steps. -/
theorem exists_first_step {Q : σ → Prop} {s : σ} {ls : List α} (hinit : ¬ Q s)
    (h : Q (run step s ls)) :
    ∃ pre l post, ls = pre ++ l :: post ∧ ¬ Q (run step s pre) ∧ Q (step (run step s pre) l) := by
  induction ls generalizing s with
  | nil => exact absurd h hinit
  | cons l ls ih =>
      by_cases hl : Q (step s l)
      · exact ⟨[], l, ls, rfl, hinit, hl⟩
      · rcases ih hl h with ⟨pre, m, post, rfl, hpre, hm⟩
        exact ⟨l :: pre, m, post, rfl, hpre, hm⟩

/-- What holds after a run and not before it has come to hold in one of its steps for the last
time. -/
theorem exists_last_step {Q : σ → Prop} {s : σ} {ls : List α} (hinit : ¬ Q s)
    (h : Q (run step s ls)) :
    ∃ pre l post, ls = pre ++ l :: post ∧ ¬ Q (run step s pre) ∧
      ∀ mid, mid <+: post → Q (run step s (pre ++ l :: mid)) := by
  induction ls using List.reverseRecOn with
  | nil => exact absurd h hinit
  | append_singleton ls l ih =>
      by_cases hbefore : Q (run step s ls)
      · -- it held before the last step already
        rcases ih hbefore with ⟨pre, m, post, rfl, hpre, hpost⟩
        refine ⟨pre, m, post ++ [l], by simp, hpre, ?_⟩
        intro mid hmid
        rcases List.prefix_concat_iff.mp hmid with rfl | hmid
        · rwa [List.append_assoc, List.cons_append] at h
        · exact hpost mid hmid
      · refine ⟨ls, l, [], rfl, hbefore, ?_⟩
        intro mid hmid
        rw [List.prefix_nil.mp hmid]
        exact h

/-- Two properties of steps agree along a run when they agree from every state of
an invariant that the first one keeps. -/
theorem along_iff {V Q : σ → α → Prop} {I : σ → Prop}
    (hiff : ∀ s l, V s l → I s → (P s l ↔ Q s l))
    (hkeep : ∀ s l, V s l → I s → P s l → I (step s l))
    {s : σ} {ls : List α} (hvalid : Along step V s ls) (hinit : I s) :
    Along step P s ls ↔ Along step Q s ls := by
  induction ls generalizing s with
  | nil => exact Iff.rfl
  | cons l ls ih =>
      have hhead := hiff s l hvalid.1 hinit
      constructor
      · intro h
        exact ⟨hhead.mp h.1, (ih hvalid.2 (hkeep s l hvalid.1 hinit h.1)).mp h.2⟩
      · intro h
        have hP := hhead.mpr h.1
        exact ⟨hP, (ih hvalid.2 (hkeep s l hvalid.1 hinit hP)).mpr h.2⟩

/-! ## All states of a run -/

/-- Every state of the run satisfies `I`, the first and the last one included. -/
def Always (step : σ → α → σ) (I : σ → Prop) : σ → List α → Prop
  | s, [] => I s
  | s, l :: ls => I s ∧ Always step I (step s l) ls

section Always

variable {I J : σ → Prop} {s : σ} {ls : List α}

theorem Always.init (h : Always step I s ls) : I s := by
  cases ls with
  | nil => exact h
  | cons l ls => exact h.1

/-- The states of a run are those after the first labels of it. -/
theorem always_iff_prefix : Always step I s ls ↔ ∀ pre, pre <+: ls → I (run step s pre) := by
  induction ls generalizing s with
  | nil =>
      constructor
      · intro h pre hpre
        rw [List.prefix_nil.mp hpre]
        exact h
      · intro h
        exact h [] (List.prefix_refl [])
  | cons l ls ih =>
      constructor
      · rintro ⟨hs, hrest⟩ pre hpre
        cases pre with
        | nil => exact hs
        | cons m pre =>
            rcases List.cons_prefix_cons.mp hpre with ⟨rfl, htail⟩
            exact ih.mp hrest pre htail
      · intro h
        refine ⟨h [] List.nil_prefix, ih.mpr ?_⟩
        intro pre hpre
        exact h (l :: pre) (List.cons_prefix_cons.mpr ⟨rfl, hpre⟩)

/-- Exact invariant induction. From a state of the invariant `I` a step leads to a state of
`Q` exactly when it satisfies `C`, and then to one of `I`: the runs within `Q` are those
along which `C` holds. `P` is what every step satisfies. -/
theorem always_iff_along_of {Q : σ → Prop} {C : σ → α → Prop} (himp : ∀ s, I s → Q s)
    (hiff : ∀ s l, P s l → I s → (Q (step s l) ↔ C s l))
    (hkeep : ∀ s l, P s l → I s → C s l → I (step s l)) (hrun : Along step P s ls) (hinit : I s) :
    Always step Q s ls ↔ Along step C s ls := by
  induction ls generalizing s with
  | nil =>
      constructor
      · intro _
        trivial
      · intro _
        exact himp s hinit
  | cons l ls ih =>
      constructor
      · rintro ⟨_, hrest⟩
        have hl : C s l := (hiff s l hrun.1 hinit).mp hrest.init
        exact ⟨hl, (ih hrun.2 (hkeep s l hrun.1 hinit hl)).mp hrest⟩
      · rintro ⟨hl, hrest⟩
        exact ⟨himp s hinit, (ih hrun.2 (hkeep s l hrun.1 hinit hl)).mpr hrest⟩

/-- The same where the property is the invariant, apart from a `J` that every step keeps. -/
theorem always_iff_along (hkeep : ∀ s l, J s → J (step s l))
    (hiff : ∀ s l, J s → I s → (I (step s l) ↔ P s l)) (hJ : J s) (hI : I s) :
    Always step I s ls ↔ Along step P s ls :=
  always_iff_along_of (I := fun s => J s ∧ I s) (P := fun _ _ => True) (fun _ h => h.2)
    (fun s l _ h => hiff s l h.1 h.2)
    (fun s l _ h hl => ⟨hkeep s l h.1, (hiff s l h.1 h.2).mpr hl⟩)
    (along_of_forall fun _ _ _ => trivial) ⟨hJ, hI⟩

end Always

/-! ## Steps that emit -/

variable {β : Type} {R : σ → List β → σ → Prop}

/-- Steps of a relation, and all they emit, in order. -/
inductive Trace (R : σ → List β → σ → Prop) : σ → List β → σ → Prop
  | nil (s : σ) : Trace R s [] s
  | cons {s s₁ s₂ : σ} {es es' : List β} (hstep : R s es s₁) (hrest : Trace R s₁ es' s₂) :
      Trace R s (es ++ es') s₂

theorem Trace.single {s s' : σ} {es : List β} (h : R s es s') : Trace R s es s' := by
  have hcons := Trace.cons h (.nil s')
  rwa [List.append_nil] at hcons

theorem Trace.trans {s s₁ s₂ : σ} {es es' : List β} (h : Trace R s es s₁)
    (h' : Trace R s₁ es' s₂) : Trace R s (es ++ es') s₂ := by
  induction h with
  | nil _ => exact h'
  | cons hstep _ ih =>
      rw [List.append_assoc]
      exact .cons hstep (ih h')

end Hypertensor.Base
