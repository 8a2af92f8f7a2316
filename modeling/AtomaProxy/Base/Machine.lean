/-
Labelled machines: a partial step per label, the runs it gives, and the two
rules every run result rests on — the invariant rule and the simulation rule.

A run may be *guarded*: each of its steps meets a condition on the state
before it and its label. A result about a condition under which a program
keeps a property is a result about guarded runs, so both rules are stated for
them; the unguarded forms take the condition that always holds.
-/
import Mathlib.Data.List.Basic

namespace Base

/-- A machine: `step s a` is the state the label `a` leads to, `none` where it cannot happen. -/
structure Machine (σ : Type _) (α : Type _) where
  step : σ → α → Option σ

namespace Machine

variable {σ τ α β : Type _}

/-- The state a list of labels leads to. -/
def run (m : Machine σ α) : σ → List α → Option σ
  | s, [] => .some s
  | s, a :: as => (m.step s a).bind fun s' => run m s' as

/-- Every step of the run is taken in a state where its label meets `C`. -/
def Guarded (m : Machine σ α) (C : σ → α → Prop) : σ → List α → Prop
  | _, [] => True
  | s, a :: as => C s a ∧ ∀ s', m.step s a = .some s' → Guarded m C s' as

@[simp] theorem run_nil (m : Machine σ α) (s : σ) : m.run s [] = .some s := rfl

@[simp] theorem guarded_nil (m : Machine σ α) (C : σ → α → Prop) (s : σ) : m.Guarded C s [] := trivial

theorem run_cons {m : Machine σ α} {s s' : σ} {a as} :
    m.run s (a :: as) = .some s' ↔ ∃ s₁, m.step s a = .some s₁ ∧ m.run s₁ as = .some s' := by
  simp only [run, Option.bind_eq_some_iff]

theorem run_append {m : Machine σ α} : ∀ {as bs : List α} {s s' : σ},
    m.run s (as ++ bs) = .some s' ↔ ∃ s₁, m.run s as = .some s₁ ∧ m.run s₁ bs = .some s'
  | [], bs, s, s' => by simp
  | a :: as, bs, s, s' => by
    simp only [List.cons_append, run_cons, @run_append m as]
    constructor
    · rintro ⟨s₁, h₁, s₂, h₂, h₃⟩
      exact ⟨s₂, ⟨s₁, h₁, h₂⟩, h₃⟩
    · rintro ⟨s₂, ⟨s₁, h₁, h₂⟩, h₃⟩
      exact ⟨s₁, h₁, s₂, h₂, h₃⟩

theorem guarded_cons {m : Machine σ α} {C : σ → α → Prop} {s s₁ : σ} {a as} (h : m.step s a = .some s₁) :
    m.Guarded C s (a :: as) ↔ C s a ∧ m.Guarded C s₁ as := by
  simp only [Guarded, h, Option.some.injEq, forall_eq']

/-- A guard that every label meets everywhere guards every run. -/
theorem guarded_of_forall {m : Machine σ α} {C : σ → α → Prop} (h : ∀ s a, C s a) :
    ∀ (as : List α) (s : σ), m.Guarded C s as
  | [], _ => trivial
  | a :: as, s => ⟨h s a, fun s' _ => guarded_of_forall h as s'⟩

/-- A guard on the labels alone guards a run whose labels all meet it. -/
theorem guarded_of_mem {m : Machine σ α} {C : α → Prop} : ∀ {as : List α} (s : σ), (∀ a ∈ as, C a) →
    m.Guarded (fun _ a => C a) s as
  | [], _, _ => trivial
  | a :: _, _, h =>
    ⟨h a List.mem_cons_self, fun s' _ => guarded_of_mem s' fun b hb => h b (List.mem_cons_of_mem a hb)⟩

/-- **The invariant rule.** What each guarded step preserves, each guarded run preserves. -/
theorem run_invariant {m : Machine σ α} {Inv : σ → Prop} {C : σ → α → Prop}
    (hstep : ∀ {s a s'}, Inv s → C s a → m.step s a = .some s' → Inv s') :
    ∀ {as : List α} {s s' : σ}, Inv s → m.Guarded C s as → m.run s as = .some s' → Inv s'
  | [], s, s', hi, _, h => by
    simp only [run_nil, Option.some.injEq] at h
    exact h ▸ hi
  | a :: as, s, s', hi, hg, h => by
    obtain ⟨s₁, h₁, h₂⟩ := run_cons.1 h
    exact run_invariant hstep (hstep hi hg.1 h₁) (hg.2 s₁ h₁) h₂

/-- **The guard rule.** Where each step keeps `P` exactly if it meets `C`, a run keeps it exactly if it is guarded. -/
theorem run_iff_guarded {m : Machine σ α} {Inv P : σ → Prop} {C : σ → α → Prop}
    (hinv : ∀ {s a s'}, Inv s → m.step s a = .some s' → Inv s')
    (hstep : ∀ {s a s'}, Inv s → m.step s a = .some s' → (P s' ↔ P s ∧ C s a)) :
    ∀ {as : List α} {s s' : σ}, Inv s → m.run s as = .some s' → (P s' ↔ P s ∧ m.Guarded C s as)
  | [], s, s', _, h => by
    simp only [run_nil, Option.some.injEq] at h
    simp only [h, guarded_nil, and_true]
  | a :: as, s, s', hi, h => by
    obtain ⟨s₁, h₁, h₂⟩ := run_cons.1 h
    rw [run_iff_guarded hinv hstep (hinv hi h₁) h₂, hstep hi h₁, guarded_cons h₁, and_assoc]

/-- **The history rule.** What each step keeps of the labels so far and the state holds of a run's labels and its last
state. -/
theorem run_history {m : Machine σ α} {R : List α → σ → Prop}
    (hstep : ∀ {as s a s'}, R as s → m.step s a = .some s' → R (as ++ [a]) s') :
    ∀ {bs as : List α} {s s' : σ}, R as s → m.run s bs = .some s' → R (as ++ bs) s'
  | [], as, s, s', hr, h => by
    simp only [run_nil, Option.some.injEq] at h
    rw [List.append_nil, ← h]
    exact hr
  | b :: bs, as, s, s', hr, h => by
    obtain ⟨s₁, h₁, h₂⟩ := run_cons.1 h
    rw [List.append_cons]
    exact run_history hstep (hstep hr h₁) h₂

/-- Every state the run comes to is as `P` says, its first and its last included. -/
def Always (m : Machine σ α) (P : σ → Prop) : σ → List α → Prop
  | s, [] => P s
  | s, a :: as => P s ∧ ∀ s', m.step s a = .some s' → Always m P s' as

theorem always_cons {m : Machine σ α} {P : σ → Prop} {s s₁ : σ} {a as} (h : m.step s a = .some s₁) :
    m.Always P s (a :: as) ↔ P s ∧ m.Always P s₁ as := by
  simp only [Always, h, Option.some.injEq, forall_eq']

theorem Always.head {m : Machine σ α} {P : σ → Prop} {s : σ} {as} (h : m.Always P s as) : P s := by
  cases as with
  | nil => exact h
  | cons a as => exact h.1

/-- What each guarded step keeps holds in every state that a guarded run comes to. -/
theorem always_of_guarded {m : Machine σ α} {Inv P : σ → Prop} {C : σ → α → Prop} (hP : ∀ {s}, Inv s → P s)
    (hkeep : ∀ {s a s'}, Inv s → C s a → m.step s a = .some s' → Inv s') :
    ∀ {as : List α} {s : σ}, Inv s → m.Guarded C s as → m.Always P s as
  | [], _, hi, _ => hP hi
  | _ :: _, _, hi, hg => ⟨hP hi, fun s' h => always_of_guarded hP hkeep (hkeep hi hg.1 h) (hg.2 s' h)⟩

/-- **The guard rule, for a property that a later step can restore.** Where the invariant holds, a step that meets `D`
meets `C` if it comes to a state as `P` says, and keeps the invariant if it meets `C`: such a run stays within `P`
exactly if it is guarded. -/
theorem always_iff_guarded {m : Machine σ α} {Inv P : σ → Prop} {C D : σ → α → Prop} (hP : ∀ {s}, Inv s → P s)
    (hneed : ∀ {s a s'}, Inv s → D s a → m.step s a = .some s' → P s' → C s a)
    (hkeep : ∀ {s a s'}, Inv s → D s a → C s a → m.step s a = .some s' → Inv s') :
    ∀ {as : List α} {s s' : σ}, Inv s → m.Guarded D s as → m.run s as = .some s' →
      (m.Always P s as ↔ m.Guarded C s as)
  | [], _, _, hi, _, _ => iff_of_true (hP hi) trivial
  | a :: as, s, s', hi, hd, h => by
    obtain ⟨s₁, h₁, h₂⟩ := run_cons.1 h
    obtain ⟨hda, hd₁⟩ := (guarded_cons h₁).1 hd
    rw [always_cons h₁, guarded_cons h₁]
    constructor
    · rintro ⟨_, hrest⟩
      have hc := hneed hi hda h₁ hrest.head
      exact ⟨hc, (always_iff_guarded hP hneed hkeep (hkeep hi hda hc h₁) hd₁ h₂).1 hrest⟩
    · rintro ⟨hc, hrest⟩
      exact ⟨hP hi, (always_iff_guarded hP hneed hkeep (hkeep hi hda hc h₁) hd₁ h₂).2 hrest⟩

/-- What the steps of a run come to, each measured in the state that it is taken in. -/
def total (m : Machine σ α) (f : σ → α → Int) : σ → List α → Int
  | _, [] => 0
  | s, a :: as => f s a + ((m.step s a).map fun s' => total m f s' as).getD 0

/-- **The balance rule.** Where each guarded step moves `M` by `f`, a guarded run moves it by what its steps come to. -/
theorem run_total {m : Machine σ α} {Inv : σ → Prop} {C : σ → α → Prop} {M : σ → Int} {f : σ → α → Int}
    (hinv : ∀ {s a s'}, Inv s → C s a → m.step s a = .some s' → Inv s')
    (hstep : ∀ {s a s'}, Inv s → C s a → m.step s a = .some s' → M s' = M s + f s a) :
    ∀ {as : List α} {s s' : σ}, Inv s → m.Guarded C s as → m.run s as = .some s' → M s' = M s + m.total f s as
  | [], s, s', _, _, h => by
    simp only [run_nil, Option.some.injEq] at h
    rw [total, Int.add_zero, h]
  | a :: as, s, s', hi, hg, h => by
    obtain ⟨s₁, h₁, h₂⟩ := run_cons.1 h
    rw [run_total hinv hstep (hinv hi hg.1 h₁) (hg.2 s₁ h₁) h₂, hstep hi hg.1 h₁, total, h₁, Option.map_some,
      Option.getD_some, Int.add_assoc]

/-- `m` refines `n` along `R`: each guarded step of `m` is matched by a run of `n`. -/
def Refines (m : Machine σ α) (n : Machine τ β) (R : σ → τ → Prop) (C : σ → α → Prop) : Prop :=
  ∀ {s t a s'}, R s t → C s a → m.step s a = .some s' → ∃ bs t', n.run t bs = .some t' ∧ R s' t'

/-- **The simulation rule.** Each guarded run of a refining machine is matched by a run of the abstract one. -/
theorem Refines.run {m : Machine σ α} {n : Machine τ β} {R : σ → τ → Prop} {C : σ → α → Prop}
    (h : Refines m n R C) : ∀ {as : List α} {s s' : σ} {t : τ}, R s t → m.Guarded C s as →
      m.run s as = .some s' → ∃ bs t', n.run t bs = .some t' ∧ R s' t'
  | [], s, s', t, hr, _, hrun => by
    simp only [run_nil, Option.some.injEq] at hrun
    exact ⟨[], t, rfl, hrun ▸ hr⟩
  | a :: as, s, s', t, hr, hg, hrun => by
    obtain ⟨s₁, h₁, h₂⟩ := run_cons.1 hrun
    obtain ⟨bs₁, t₁, hb₁, hr₁⟩ := h hr hg.1 h₁
    obtain ⟨bs₂, t₂, hb₂, hr₂⟩ := Refines.run h hr₁ (hg.2 s₁ h₁) h₂
    exact ⟨bs₁ ++ bs₂, t₂, run_append.2 ⟨t₁, hb₁, hb₂⟩, hr₂⟩

end Machine

end Base
