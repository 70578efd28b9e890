import Mathlib.Data.List.Basic
import Mathlib.Order.Basic

/-!
Runs of a machine whose inputs are chosen by an environment.

A machine is a step function. Two kinds are used: a machine every step of which succeeds,
and one whose steps may fault. A run is a list of inputs; what holds of every run is shown
by an invariant that each step keeps.
-/

namespace Sfrpg.Lib.Run

variable {σ ι ε : Type*}

/-! ### Steps that cannot fail -/

section Total

variable (step : σ → ι → σ)

def run (s : σ) (l : List ι) : σ := l.foldl step s

lemma run_append (s : σ) (l m : List ι) : run step s (l ++ m) = run step (run step s l) m := by
  simp [run, List.foldl_append]

/-- Every step of the run satisfies `P`, read at the state the step starts from. -/
def Along (P : σ → ι → Prop) : σ → List ι → Prop
  | _, [] => True
  | s, i :: l => P s i ∧ Along P (step s i) l

@[simp] lemma along_nil (P : σ → ι → Prop) (s : σ) : Along step P s [] := trivial

@[simp] lemma along_cons (P : σ → ι → Prop) (s : σ) (i : ι) (l : List ι) :
    Along step P s (i :: l) ↔ P s i ∧ Along step P (step s i) l := Iff.rfl

instance decidableAlong (P : σ → ι → Prop) [∀ s i, Decidable (P s i)] :
    ∀ s l, Decidable (Along step P s l)
  | _, [] => isTrue trivial
  | s, i :: l =>
    have := decidableAlong P (step s i) l
    inferInstanceAs (Decidable (P s i ∧ Along step P (step s i) l))

variable {step}

lemma along_of_forall {P : σ → ι → Prop} (h : ∀ s i, P s i) (s : σ) (l : List ι) :
    Along step P s l := by
  induction l generalizing s with
  | nil => trivial
  | cons i l ih => exact ⟨h s i, ih _⟩

lemma along_imp {P Q : σ → ι → Prop} (h : ∀ s i, P s i → Q s i) {s : σ} {l : List ι}
    (hl : Along step P s l) : Along step Q s l := by
  induction l generalizing s with
  | nil => trivial
  | cons i l ih => exact ⟨h s i hl.1, ih hl.2⟩

/-- **The invariant rule.** What the start satisfies and every admitted step keeps holds at
the end of every admitted run. -/
theorem run_inv {I : σ → Prop} {P : σ → ι → Prop}
    (hstep : ∀ s i, I s → P s i → I (step s i)) {s : σ} {l : List ι}
    (hs : I s) (hl : Along step P s l) : I (run step s l) := by
  induction l generalizing s with
  | nil => exact hs
  | cons i l ih => exact ih (hstep s i hs hl.1) hl.2

/-- The invariant rule where every step is admitted. -/
theorem run_inv_all {I : σ → Prop} (hstep : ∀ s i, I s → I (step s i)) {s : σ} (l : List ι)
    (hs : I s) : I (run step s l) :=
  run_inv (P := fun _ _ => True) (fun s i h _ => hstep s i h) hs
    (along_of_forall (fun _ _ => trivial) s l)

/-- **The rule of a whole run.** Where a step out of a good state leads to a good one exactly when
it is in `P`, all states a run passes are good exactly when all its steps are in `P`. -/
theorem prefixes_iff {I J : σ → Prop} {P : σ → ι → Prop} (hJ : ∀ s i, J s → J (step s i))
    (hI : ∀ s i, J s → I s → (I (step s i) ↔ P s i)) {s : σ} {l : List ι} (hj : J s) (hs : I s) :
    (∀ m, m <+: l → I (run step s m)) ↔ Along step P s l := by
  induction l generalizing s with
  | nil =>
    refine iff_of_true (fun m hm => ?_) trivial
    rw [List.prefix_nil.mp hm]
    exact hs
  | cons i l ih =>
    rw [along_cons, ← hI s i hj hs]
    constructor
    · intro h
      have hi : I (step s i) := h [i] ⟨l, rfl⟩
      refine ⟨hi, (ih (hJ s i hj) hi).mp fun m hm => ?_⟩
      exact h (i :: m) ((List.prefix_cons_inj i).mpr hm)
    · rintro ⟨hi, hl⟩ m hm
      cases m with
      | nil => exact hs
      | cons j m =>
        obtain ⟨rfl, hrest⟩ := List.cons_prefix_cons.mp hm
        exact (ih (hJ s j hj) hi).mpr hl m hrest

variable (step) in
/-- The machine with a record `γ` of its past, which the steps do not read. -/
def noted {γ : Type*} (record : γ → σ → ι → γ) (p : σ × γ) (i : ι) : σ × γ :=
  (step p.1 i, record p.2 p.1 i)

lemma Along.noted {γ : Type*} {record : γ → σ → ι → γ} {P : σ → ι → Prop} {p : σ × γ}
    {l : List ι} (h : Along step P p.1 l) : Along (noted step record) (fun q => P q.1) p l := by
  induction l generalizing p with
  | nil => trivial
  | cons i l ih => exact ⟨h.1, ih h.2⟩

end Total

/-! ### Steps that may fault -/

section Partial

variable (step : σ → ι → Except ε σ)

def runE : σ → List ι → Except ε σ
  | s, [] => .ok s
  | s, i :: l => match step s i with
    | .error e => .error e
    | .ok t => runE t l

@[simp] lemma runE_nil (s : σ) : runE step s [] = .ok s := rfl

variable {step}

lemma runE_cons_ok {s t : σ} {i : ι} {l : List ι} :
    runE step s (i :: l) = .ok t ↔ ∃ u, step s i = .ok u ∧ runE step u l = .ok t := by
  cases h : step s i <;> simp [runE, h]

lemma foldlM_cons_ok {s t : σ} {i : ι} {l : List ι} :
    (i :: l).foldlM step s = .ok t ↔ ∃ u, step s i = .ok u ∧ l.foldlM step u = .ok t := by
  rw [List.foldlM_cons]
  cases step s i with
  | error e => exact ⟨fun h => (nomatch h), fun ⟨u, hu, _⟩ => (nomatch hu)⟩
  | ok u => exact ⟨fun h => ⟨u, rfl, h⟩, fun ⟨v, hv, h⟩ => by cases hv; exact h⟩

lemma foldlM_append_ok {s t : σ} {l l' : List ι} :
    (l ++ l').foldlM step s = .ok t ↔ ∃ u, l.foldlM step s = .ok u ∧ l'.foldlM step u = .ok t := by
  rw [List.foldlM_append]
  cases l.foldlM step s with
  | error e => exact ⟨fun h => (nomatch h), fun ⟨u, hu, _⟩ => (nomatch hu)⟩
  | ok u => exact ⟨fun h => ⟨u, rfl, h⟩, fun ⟨v, hv, h⟩ => by cases hv; exact h⟩

lemma foldlM_exists_step {P : σ → Prop} {s t : σ} {l : List ι} (h : l.foldlM step s = .ok t)
    (hs : ¬ P s) (ht : P t) :
    ∃ before i after u v, l = before ++ i :: after ∧ before.foldlM step s = .ok u ∧
      step u i = .ok v ∧ ¬ P u ∧ P v := by
  induction l generalizing s with
  | nil =>
    cases h
    exact absurd ht hs
  | cons i l ih =>
    obtain ⟨u, hu, hrest⟩ := foldlM_cons_ok.mp h
    by_cases hPu : P u
    · exact ⟨[], i, l, s, u, rfl, rfl, hu, hs, hPu⟩
    · obtain ⟨before, j, after, v, w, hl, hv, hw, hPv, hPw⟩ := ih hrest hPu
      exact ⟨i :: before, j, after, v, w, by rw [hl]; rfl, foldlM_cons_ok.mpr ⟨u, hu, hv⟩, hw, hPv,
        hPw⟩

/-- The invariant rule for runs of admitted inputs without a fault. -/
theorem runE_inv {I : σ → Prop} {P : ι → Prop}
    (hstep : ∀ s i t, I s → P i → step s i = .ok t → I t) {s t : σ} {l : List ι}
    (hs : I s) (hl : ∀ i ∈ l, P i) (hr : runE step s l = .ok t) : I t := by
  induction l generalizing s with
  | nil => cases hr; exact hs
  | cons i l ih =>
    obtain ⟨hi, hl⟩ := List.forall_mem_cons.mp hl
    obtain ⟨u, hu, hr⟩ := runE_cons_ok.mp hr
    exact ih (hstep s i u hs hi hu) hl hr

variable (step) in
/-- Where a run ends, if it has no fault. -/
def reached (s : σ) (l : List ι) : σ := (runE step s l).toOption.getD s

lemma runE_reached {s : σ} {l : List ι} (h : (runE step s l).toBool = true) :
    runE step s l = .ok (reached step s l) := by
  unfold reached
  cases hr : runE step s l with
  | ok t => rfl
  | error e => rw [hr] at h; cases h

lemma runE_append_ok {s t : σ} {l m : List ι} :
    runE step s (l ++ m) = .ok t ↔ ∃ u, runE step s l = .ok u ∧ runE step u m = .ok t := by
  induction l generalizing s with
  | nil => simp
  | cons k l ih =>
    rw [List.cons_append, runE_cons_ok]
    constructor
    · rintro ⟨u, hu, hrest⟩
      obtain ⟨v, hv, ht⟩ := ih.mp hrest
      exact ⟨v, runE_cons_ok.mpr ⟨u, hu, hv⟩, ht⟩
    · rintro ⟨v, hv, ht⟩
      obtain ⟨u, hu, hrest⟩ := runE_cons_ok.mp hv
      exact ⟨u, hu, ih.mpr ⟨v, hrest, ht⟩⟩

lemma runE_snoc_ok {s t : σ} {l : List ι} {i : ι} :
    runE step s (l ++ [i]) = .ok t ↔ ∃ u, runE step s l = .ok u ∧ step u i = .ok t := by
  induction l generalizing s with
  | nil => simp [runE_cons_ok]
  | cons k l ih =>
    rw [List.cons_append, runE_cons_ok]
    constructor
    · rintro ⟨u, hu, hrest⟩
      obtain ⟨v, hv, ht⟩ := ih.mp hrest
      exact ⟨v, runE_cons_ok.mpr ⟨u, hu, hv⟩, ht⟩
    · rintro ⟨v, hv, ht⟩
      obtain ⟨u, hu, hrest⟩ := runE_cons_ok.mp hv
      exact ⟨u, hu, ih.mpr ⟨v, hrest, ht⟩⟩

lemma step_reached {s : σ} {l : List ι} {i : ι} (h : (runE step s (l ++ [i])).toBool = true) :
    step (reached step s l) i = .ok (reached step s (l ++ [i])) := by
  obtain ⟨u, hu, ht⟩ := runE_snoc_ok.mp (runE_reached h)
  have hreached : reached step s l = u := by
    rw [reached, hu]
    rfl
  rw [hreached, ht]

/-- Where an invariant rules faults out, every run of admitted inputs ends, and in the
invariant. -/
theorem runE_total {I : σ → Prop} {P : ι → Prop}
    (hstep : ∀ s i, I s → P i → ∃ t, step s i = .ok t ∧ I t) {s : σ} {l : List ι}
    (hs : I s) (hl : ∀ i ∈ l, P i) : ∃ t, runE step s l = .ok t ∧ I t := by
  induction l generalizing s with
  | nil => exact ⟨s, rfl, hs⟩
  | cons i l ih =>
    obtain ⟨hi, hl⟩ := List.forall_mem_cons.mp hl
    obtain ⟨u, hu, hI⟩ := hstep s i hs hi
    obtain ⟨t, ht, hJ⟩ := ih hI hl
    exact ⟨t, runE_cons_ok.mpr ⟨u, hu, ht⟩, hJ⟩

/-- **Refinement of runs**: where `abs` takes each step to a step of another machine, it takes each
run to a run of it. -/
theorem runE_refines {τ : Type*} {abs : σ → τ} {step' : τ → ι → τ} {I : σ → Prop}
    (hstep : ∀ s i, I s → ∃ t, step s i = .ok t ∧ I t ∧ abs t = step' (abs s) i) {s : σ} (hs : I s)
    (l : List ι) : ∃ t, runE step s l = .ok t ∧ I t ∧ abs t = run step' (abs s) l := by
  induction l generalizing s with
  | nil => exact ⟨s, rfl, hs, rfl⟩
  | cons i l ih =>
    obtain ⟨u, hu, hI, habs⟩ := hstep s i hs
    obtain ⟨t, ht, hJ, hrun⟩ := ih hI
    refine ⟨t, runE_cons_ok.mpr ⟨u, hu, ht⟩, hJ, ?_⟩
    rw [hrun, habs]
    rfl

variable (step) in
/-- Every step the run takes satisfies `P`, read at the state it starts from. -/
def AlongE (P : σ → ι → Prop) : σ → List ι → Prop
  | _, [] => True
  | s, i :: l => P s i ∧ ∀ t, step s i = .ok t → AlongE P t l

lemma alongE_cons_ok {P : σ → ι → Prop} {s t : σ} {i : ι} {l : List ι} (h : step s i = .ok t) :
    AlongE step P s (i :: l) ↔ P s i ∧ AlongE step P t l := by
  refine and_congr_right fun _ => ⟨fun hall => hall t h, fun ht u hu => ?_⟩
  obtain rfl : t = u := Except.ok.inj (h.symm.trans hu)
  exact ht

lemma runE_cons_error {s : σ} {i : ι} {l : List ι} {e : ε} :
    runE step s (i :: l) = .error e ↔
      step s i = .error e ∨ ∃ t, step s i = .ok t ∧ runE step t l = .error e := by
  cases h : step s i <;> simp [runE, h]

/-- **The rule of a fault.** Where a step out of a state in `I` has the fault `e` exactly when it is
not in `P`, a run has it exactly when one of the steps it takes is not in `P`. -/
theorem runE_error_iff {I : σ → Prop} {P : σ → ι → Prop} {e : ε}
    (hstep : ∀ s i t, I s → step s i = .ok t → I t)
    (hfault : ∀ s i, I s → (step s i = .error e ↔ ¬ P s i)) {s : σ} {l : List ι} (hs : I s) :
    runE step s l ≠ .error e ↔ AlongE step P s l := by
  induction l generalizing s with
  | nil => simp [AlongE]
  | cons i l ih =>
    rw [ne_eq, runE_cons_error, not_or, hfault s i hs, not_not, AlongE]
    refine and_congr_right fun _ => ?_
    constructor
    · intro h t ht
      exact (ih (hstep s i t hs ht)).mp fun he => h ⟨t, ht, he⟩
    · rintro h ⟨t, ht, he⟩
      exact (ih (hstep s i t hs ht)).mpr (h t ht) he

/-- Along a run whose steps satisfy `P`, they satisfy whatever `P` brings about in the invariant. -/
theorem AlongE.imp {I : σ → Prop} {P Q : σ → ι → Prop}
    (hstep : ∀ s i t, I s → P s i → step s i = .ok t → I t) (hPQ : ∀ s i, I s → P s i → Q s i)
    {s : σ} {l : List ι} (hs : I s) (h : AlongE step P s l) : AlongE step Q s l := by
  induction l generalizing s with
  | nil => trivial
  | cons i l ih =>
    obtain ⟨hi, hl⟩ := h
    exact ⟨hPQ s i hs hi, fun t ht => ih (hstep s i t hs hi ht) (hl t ht)⟩

/-- Two conditions on the steps that agree in the invariant agree along a run of admitted inputs. -/
theorem alongE_congr {I : σ → Prop} {A : ι → Prop} {P Q : σ → ι → Prop}
    (hstep : ∀ s i t, I s → A i → step s i = .ok t → I t)
    (hPQ : ∀ s i, I s → A i → (P s i ↔ Q s i)) {s : σ} {l : List ι} (hs : I s)
    (hl : ∀ i ∈ l, A i) : AlongE step P s l ↔ AlongE step Q s l := by
  induction l generalizing s with
  | nil => rfl
  | cons i l ih =>
    obtain ⟨hi, hl⟩ := List.forall_mem_cons.mp hl
    refine and_congr (hPQ s i hs hi) (forall₂_congr fun t ht => ?_)
    exact ih (hstep s i t hs hi ht) hl

/-- **The rule of a measure.** Where no step lowers a measure, and a step keeps it exactly when it
is in `P`, a run keeps it exactly when all its steps are in `P`. -/
theorem runE_rises {β : Type*} [PartialOrder β] {m : σ → β} {P : σ → ι → Prop}
    (hstep : ∀ s i t, step s i = .ok t → m s ≤ m t ∧ (m t = m s ↔ P s i)) {s t : σ} {l : List ι}
    (hr : runE step s l = .ok t) : m s ≤ m t ∧ (m t = m s ↔ AlongE step P s l) := by
  induction l generalizing s with
  | nil =>
    cases hr
    exact ⟨le_rfl, iff_of_true rfl trivial⟩
  | cons i l ih =>
    obtain ⟨u, hu, hr⟩ := runE_cons_ok.mp hr
    obtain ⟨hle, hiff⟩ := hstep s i u hu
    obtain ⟨hle', hiff'⟩ := ih hr
    rw [alongE_cons_ok hu]
    refine ⟨hle.trans hle', ?_, ?_⟩
    · intro hm
      have hfirst : m u = m s := le_antisymm (hm ▸ hle') hle
      exact ⟨hiff.mp hfirst, hiff'.mp (hm.trans hfirst.symm)⟩
    · rintro ⟨hi, hl⟩
      exact (hiff'.mpr hl).trans (hiff.mpr hi)

lemma AlongE.first {Q : σ → Prop} {s : σ} {l : List ι} {i : ι}
    (h : AlongE step (fun s _ => Q s) s (l ++ [i])) : Q s := by
  cases l with
  | nil => exact h.1
  | cons j l => exact h.1

lemma AlongE.snoc {P : σ → ι → Prop} {s t : σ} {l : List ι} {i : ι} (h : AlongE step P s l)
    (hr : runE step s l = .ok t) (hi : P t i) : AlongE step P s (l ++ [i]) := by
  induction l generalizing s with
  | nil =>
    cases hr
    exact ⟨hi, fun _ _ => trivial⟩
  | cons k l ih =>
    obtain ⟨u, hu, hr⟩ := runE_cons_ok.mp hr
    rw [alongE_cons_ok hu] at h
    exact (alongE_cons_ok hu).mpr ⟨h.1, ih h.2 hr⟩

lemma AlongE.rest {P : σ → ι → Prop} {s t : σ} {l m : List ι} (h : AlongE step P s (l ++ m))
    (hr : runE step s l = .ok t) : AlongE step P t m := by
  induction l generalizing s with
  | nil =>
    cases hr
    exact h
  | cons k l ih =>
    obtain ⟨u, hu, hr⟩ := runE_cons_ok.mp hr
    exact ih (h.2 u hu) hr

lemma AlongE.last {P : σ → ι → Prop} {s t : σ} {l : List ι} {i : ι}
    (h : AlongE step P s (l ++ [i])) (hr : runE step s l = .ok t) : P t i := (h.rest hr).1

lemma AlongE.reaches {I : σ → Prop} {P : σ → ι → Prop}
    (hstep : ∀ s i t, I s → P s i → step s i = .ok t → I t) {s t : σ} {l m : List ι}
    (h : AlongE step P s (l ++ m)) (hs : I s) (hr : runE step s l = .ok t) : I t := by
  induction l generalizing s with
  | nil =>
    cases hr
    exact hs
  | cons k l ih =>
    obtain ⟨u, hu, hr⟩ := runE_cons_ok.mp hr
    exact ih (h.2 u hu) (hstep s k u hs h.1 hu) hr

/-! ### What admitted steps lead to -/

variable (step) in
/-- Some run of steps in `P` leads from `s` to `t`. -/
def Leads (P : σ → ι → Prop) (s t : σ) : Prop := ∃ l, runE step s l = .ok t ∧ AlongE step P s l

lemma Leads.refl {P : σ → ι → Prop} (s : σ) : Leads step P s s := ⟨[], rfl, trivial⟩

lemma Leads.cons {P : σ → ι → Prop} {s t u : σ} {i : ι} (hi : P s i) (hs : step s i = .ok t)
    (h : Leads step P t u) : Leads step P s u := by
  obtain ⟨l, hl, hP⟩ := h
  refine ⟨i :: l, runE_cons_ok.mpr ⟨t, hs, hl⟩, hi, fun v hv => ?_⟩
  rw [hs] at hv
  cases hv
  exact hP

lemma Leads.single {P : σ → ι → Prop} {s t : σ} {i : ι} (hi : P s i) (hs : step s i = .ok t) :
    Leads step P s t := .cons hi hs (.refl t)

lemma Leads.trans {P : σ → ι → Prop} {s t u : σ} (h : Leads step P s t) (h' : Leads step P t u) :
    Leads step P s u := by
  obtain ⟨l, hl, hP⟩ := h
  induction l generalizing s with
  | nil =>
    cases hl
    exact h'
  | cons i l ih =>
    obtain ⟨v, hv, hl⟩ := runE_cons_ok.mp hl
    exact .cons hP.1 hv (ih hl (hP.2 v hv))

/-- The machine with a record `γ` of its past, which the steps do not read. -/
def recorded {γ : Type*} (step : σ → ι → Except ε σ) (record : γ → σ → ι → σ → γ) (p : σ × γ)
    (i : ι) : Except ε (σ × γ) :=
  (step p.1 i).map fun t => (t, record p.2 p.1 i t)

lemma recorded_ok {γ : Type*} {record : γ → σ → ι → σ → γ} {p q : σ × γ} {i : ι} :
    recorded step record p i = .ok q ↔ step p.1 i = .ok q.1 ∧ q.2 = record p.2 p.1 i q.1 := by
  unfold recorded
  cases step p.1 i with
  | error e => simp [Except.map]
  | ok t =>
    obtain ⟨u, g⟩ := q
    simp only [Except.map, Except.ok.injEq, Prod.mk.injEq]
    constructor
    · rintro ⟨rfl, rfl⟩
      exact ⟨rfl, rfl⟩
    · rintro ⟨rfl, rfl⟩
      exact ⟨rfl, rfl⟩

lemma AlongE.recorded {γ : Type*} {record : γ → σ → ι → σ → γ} {P : σ → ι → Prop} {p : σ × γ}
    {l : List ι} (h : AlongE step P p.1 l) :
    AlongE (Run.recorded step record) (fun q => P q.1) p l := by
  induction l generalizing p with
  | nil => trivial
  | cons i l ih =>
    obtain ⟨hi, hl⟩ := h
    exact ⟨hi, fun q hq => ih (hl q.1 (recorded_ok.mp hq).1)⟩

end Partial

end Sfrpg.Lib.Run
