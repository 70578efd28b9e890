import Mathlib.Data.List.AList

/-!
Dictionaries: finite maps with distinct keys, and the loops over them.

`AList` carries the proof that its keys are distinct. Added here are the update in place of
one or of all values, the search for a value, and the rule for a loop whose body touches
only the entry of its own key: such a loop acts on each entry as its body does, whatever
the order of the keys.
-/

namespace Sfrpg.Lib

universe u v

/-- A finite map; `entries` is its order of iteration. -/
abbrev Dict (κ : Type u) (α : Type v) := AList (fun _ : κ => α)

namespace Dict

variable {κ : Type u} {α : Type v}

/-! ### Updates in place -/

def mapVals (f : κ → α → α) (m : Dict κ α) : Dict κ α where
  entries := m.entries.map fun e => ⟨e.1, f e.1 e.2⟩
  nodupKeys := by
    have h : (m.entries.map fun e => (⟨e.1, f e.1 e.2⟩ : (_ : κ) × α)).keys = m.entries.keys := by
      simp [List.keys, Function.comp_def]
    rw [List.NodupKeys, h]
    exact m.nodupKeys

variable [DecidableEq κ]

lemma lookup_mapVals (f : κ → α → α) (m : Dict κ α) (k : κ) :
    (mapVals f m).lookup k = (m.lookup k).map (f k) := by
  obtain ⟨l, hl⟩ := m
  simp only [AList.lookup, mapVals]
  clear hl
  induction l with
  | nil => simp
  | cons e l ih =>
    obtain ⟨k', a⟩ := e
    by_cases h : k = k'
    · subst h; simp
    · have hl := List.dlookup_cons_ne (β := fun _ => α) l ⟨k', a⟩ h
      have hr := List.dlookup_cons_ne (β := fun _ => α) (l.map fun e => ⟨e.1, f e.1 e.2⟩)
        ⟨k', f k' a⟩ h
      rw [List.map_cons, hl, hr, ih]

/-- The value at `k`, if there is one, replaced in place. -/
def modify (k : κ) (f : α → α) (m : Dict κ α) : Dict κ α :=
  mapVals (fun k' a => if k' = k then f a else a) m

@[simp] lemma lookup_modify (k : κ) (f : α → α) (m : Dict κ α) :
    (modify k f m).lookup k = (m.lookup k).map f := by
  simp [modify, lookup_mapVals]

lemma lookup_modify_ne {k k' : κ} (h : k' ≠ k) (f : α → α) (m : Dict κ α) :
    (modify k f m).lookup k' = m.lookup k' := by
  simp [modify, lookup_mapVals, h]

@[simp] lemma keys_modify (k : κ) (f : α → α) (m : Dict κ α) : (modify k f m).keys = m.keys := by
  simp [modify, mapVals, AList.keys, List.keys, Function.comp_def]

lemma modify_eq_self {k : κ} {a : α} {f : α → α} {m : Dict κ α} (hk : m.lookup k = some a)
    (hf : f a = a) : modify k f m = m := by
  refine AList.ext ?_
  have hmap : ∀ e ∈ m.entries, (⟨e.1, if e.1 = k then f e.2 else e.2⟩ : (_ : κ) × α) = e := by
    rintro ⟨k', a'⟩ he
    by_cases h : k' = k
    · subst h
      have hlook : m.lookup k' = some a' := AList.mem_lookup_iff.mpr he
      rw [hk] at hlook
      cases hlook
      rw [if_pos rfl, hf]
    · rw [if_neg h]
  exact (List.map_congr_left hmap).trans (List.map_id _)

lemma modify_congr {k : κ} {f g : α → α} {m : Dict κ α} (h : ∀ a, m.lookup k = some a → f a = g a) :
    modify k f m = modify k g m := by
  refine AList.ext (List.map_congr_left ?_)
  rintro ⟨k', a⟩ he
  by_cases hk : k' = k
  · subst hk
    simp [h a (AList.mem_lookup_iff.mpr he)]
  · simp [hk]

lemma modify_modify (k : κ) (f g : α → α) (m : Dict κ α) :
    modify k f (modify k g m) = modify k (f ∘ g) m := by
  refine AList.ext ?_
  simp only [modify, mapVals, List.map_map]
  refine List.map_congr_left fun e _ => ?_
  by_cases hk : e.1 = k <;> simp [hk]

lemma modify_comm {k k' : κ} (h : k ≠ k') (f g : α → α) (m : Dict κ α) :
    modify k f (modify k' g m) = modify k' g (modify k f m) := by
  refine AList.ext ?_
  simp only [modify, mapVals, List.map_map]
  refine List.map_congr_left fun e _ => ?_
  by_cases hk : e.1 = k
  · simp [hk, h]
  · simp [hk]

/-- The map with `a` at `k`, unless `k` is taken. -/
def emplace (k : κ) (a : α) (m : Dict κ α) : Dict κ α :=
  if k ∈ m then m else m.insert k a

lemma mem_emplace {k k' : κ} {a : α} {m : Dict κ α} : k' ∈ emplace k a m ↔ k' = k ∨ k' ∈ m := by
  unfold emplace
  split
  · next h => exact ⟨.inr, by rintro (rfl | h') <;> assumption⟩
  · rw [AList.mem_insert]

lemma lookup_emplace_ne {k k' : κ} (h : k' ≠ k) (a : α) (m : Dict κ α) :
    (emplace k a m).lookup k' = m.lookup k' := by
  unfold emplace
  split
  · rfl
  · exact AList.lookup_insert_ne h

lemma lookup_emplace {k : κ} {m : Dict κ α} (h : k ∉ m) (a : α) :
    (emplace k a m).lookup k = some a := by
  simp [emplace, h]

lemma lookup_emplace_mem {k : κ} {m : Dict κ α} (h : k ∈ m) (a : α) : emplace k a m = m := by
  simp [emplace, h]

lemma lookup_emplace_some {k k' : κ} {a b : α} {m : Dict κ α}
    (h : (emplace k a m).lookup k' = some b) : m.lookup k' = some b ∨ (k = k' ∧ a = b) := by
  by_cases hmem : k ∈ m
  · rw [lookup_emplace_mem hmem] at h
    exact .inl h
  by_cases hkey : k' = k
  · subst hkey
    rw [lookup_emplace hmem] at h
    exact .inr ⟨rfl, Option.some.inj h⟩
  · rw [lookup_emplace_ne hkey] at h
    exact .inl h

/-- What is found under a key after a loop that emplaces: what was there, or else what the first
element filed under the key brought. -/
lemma lookup_foldl_emplace {ι : Type*} (f : ι → Option (κ × α)) (l : List ι) (m : Dict κ α)
    (k : κ) :
    (l.foldl (fun m i => (f i).elim m fun e => emplace e.1 e.2 m) m).lookup k =
      (m.lookup k).or (l.findSome? fun i => (f i).bind fun e => if e.1 = k then some e.2 else none)
    := by
  induction l generalizing m with
  | nil => simp
  | cons i l ih =>
    rw [List.foldl_cons, ih, List.findSome?_cons]
    cases hf : f i with
    | none => rfl
    | some e =>
      obtain ⟨k', a⟩ := e
      simp only [Option.elim_some, Option.bind_some]
      by_cases hk : k' = k
      · subst hk
        by_cases hmem : k' ∈ m
        · obtain ⟨b, hb⟩ := Option.isSome_iff_exists.mp (AList.lookup_isSome.mpr hmem)
          simp [lookup_emplace_mem hmem, hb]
        · simp [lookup_emplace hmem, AList.lookup_eq_none.mpr hmem]
      · simp [lookup_emplace_ne (Ne.symm hk), hk]

lemma mem_of_lookup {k : κ} {a : α} {m : Dict κ α} (h : m.lookup k = some a) : k ∈ m :=
  AList.lookup_isSome.mp (by rw [h]; rfl)

lemma exists_lookup {k : κ} {m : Dict κ α} (h : k ∈ m) : ∃ a, m.lookup k = some a :=
  Option.isSome_iff_exists.mp (AList.lookup_isSome.mpr h)

lemma lookup_erase_some {k k' : κ} {a : α} {m : Dict κ α}
    (h : (m.erase k).lookup k' = some a) : k' ≠ k ∧ m.lookup k' = some a := by
  have hne : k' ≠ k := by rintro rfl; simp at h
  exact ⟨hne, by rwa [AList.lookup_erase_ne hne] at h⟩

/-! ### Search by value -/

/-- The key of the first entry, in the order of iteration, whose value satisfies `p`. -/
def findKey (p : α → Bool) (m : Dict κ α) : Option κ :=
  (m.entries.find? fun e => p e.2).map Sigma.fst

lemma mem_entries {m : Dict κ α} {k : κ} {a : α} : ⟨k, a⟩ ∈ m.entries ↔ m.lookup k = some a := by
  rw [← Option.mem_def]
  exact (AList.mem_lookup_iff).symm

lemma findKey_some {p : α → Bool} {m : Dict κ α} {k : κ} (h : findKey p m = some k) :
    ∃ a, m.lookup k = some a ∧ p a := by
  obtain ⟨⟨k', a⟩, he, rfl⟩ := Option.map_eq_some_iff.mp h
  exact ⟨a, mem_entries.mp (List.mem_of_find?_eq_some he), by simpa using List.find?_some he⟩

lemma findKey_none {p : α → Bool} {m : Dict κ α} :
    findKey p m = none ↔ ∀ k a, m.lookup k = some a → p a = false := by
  rw [findKey, Option.map_eq_none_iff, List.find?_eq_none]
  constructor
  · intro h k a hk
    simpa using h ⟨k, a⟩ (mem_entries.mpr hk)
  · rintro h ⟨k, a⟩ he
    simpa using h k a (mem_entries.mp he)

lemma findKey_unique {p : α → Bool} {m : Dict κ α} {k : κ} {a : α} (hk : m.lookup k = some a)
    (ha : p a) (huniq : ∀ k' a', m.lookup k' = some a' → p a' → k' = k) :
    findKey p m = some k := by
  cases h : findKey p m with
  | none => simp [findKey_none.mp h k a hk] at ha
  | some k' =>
    obtain ⟨a', hk', ha'⟩ := findKey_some h
    rw [huniq k' a' hk' ha']

/-! ### Loops over distinct keys -/

section Sweep

variable {σ β : Type*} {o : σ → κ → β} {f : σ → κ → σ} {I : σ → Prop} {g : κ → β → β}

/-- **The sweep rule.** In a loop over distinct keys whose body `f` changes what `o` observes at
its own key by `g` and nothing at any other key, every visited key changes by `g`, once. -/
theorem obs_foldl (hI : ∀ s k, I s → I (f s k))
    (own : ∀ s k, I s → o (f s k) k = g k (o s k))
    (other : ∀ s k k', I s → k' ≠ k → o (f s k) k' = o s k')
    {ks : List κ} (hks : ks.Nodup) {s : σ} (hs : I s) (k : κ) :
    o (ks.foldl f s) k = if k ∈ ks then g k (o s k) else o s k := by
  induction ks generalizing s with
  | nil => simp
  | cons k₀ ks ih =>
    obtain ⟨hnot, hks⟩ := List.nodup_cons.mp hks
    rw [List.foldl_cons, ih hks (hI s k₀ hs)]
    by_cases h : k = k₀
    · subst h; simp [hnot, own s k hs]
    · simp [h, other s k₀ k hs h]

omit [DecidableEq κ] in
/-- What every pass of the body keeps, the loop keeps. -/
theorem foldl_inv (hI : ∀ s k, I s → I (f s k)) (ks : List κ) {s : σ} (hs : I s) :
    I (ks.foldl f s) := by
  induction ks generalizing s with
  | nil => exact hs
  | cons k ks ih => exact ih (hI s k hs)

end Sweep

/-! ### First come -/

lemma bind_key_eq_some {κ α : Type*} [DecidableEq κ] {o : Option (κ × α)} {k : κ} {a : α} :
    (o.bind fun e => if e.1 = k then some e.2 else none) = some a ↔ o = some (k, a) := by
  cases o with
  | none => simp
  | some e =>
    obtain ⟨k', a'⟩ := e
    simp

/-- Where `f` finds whatever `g` does, both come to the same in a list exactly if the first find of
`f`, unless it is one of `g`, is what `g` finds next. -/
lemma findSome?_eq_iff {ι β : Type*} {f g : ι → Option β}
    (hgf : ∀ i b, g i = some b → f i = some b) (l : List ι) :
    l.findSome? f = l.findSome? g ↔
      ∀ before i after b, l = before ++ i :: after → (∀ j ∈ before, f j = none) → f i = some b →
        g i = none → after.findSome? g = some b := by
  induction l with
  | nil => simp
  | cons i l ih =>
    cases hf : f i with
    | none =>
      have hg : g i = none := by
        cases hg : g i with
        | none => rfl
        | some b => rw [hgf i b hg] at hf; cases hf
      rw [List.findSome?_cons, List.findSome?_cons, hf, hg, ih]
      constructor
      · intro h before j after b hl hbefore hj
        cases before with
        | nil =>
          obtain ⟨rfl, rfl⟩ := List.cons.inj hl
          rw [hf] at hj
          cases hj
        | cons k before =>
          obtain ⟨rfl, htail⟩ := List.cons.inj hl
          exact h before j after b htail (fun x hx => hbefore x (by simp [hx])) hj
      · intro h before j after b hl hbefore hj
        refine h (i :: before) j after b (by rw [hl]; rfl) (fun x hx => ?_) hj
        rcases List.mem_cons.mp hx with rfl | hx
        · exact hf
        · exact hbefore x hx
    | some b =>
      have hfirst : (i :: l).findSome? g = some b ↔ (g i = none → l.findSome? g = some b) := by
        rw [List.findSome?_cons]
        cases hg : g i with
        | none => simp
        | some c =>
          have hbc : b = c := Option.some.inj (hf.symm.trans (hgf i c hg))
          simp [hbc]
      rw [List.findSome?_cons, hf, eq_comm, hfirst]
      constructor
      · intro h before j after b' hl hbefore hj
        cases before with
        | nil =>
          obtain ⟨rfl, rfl⟩ := List.cons.inj hl
          obtain rfl := Option.some.inj (hf.symm.trans hj)
          exact h
        | cons k before =>
          obtain ⟨rfl, -⟩ := List.cons.inj hl
          rw [hbefore i (by simp)] at hf
          cases hf
      · intro h
        exact h [] i l b rfl (by simp) hf

end Dict

end Sfrpg.Lib
