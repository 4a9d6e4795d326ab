import Mathlib

/-!
# Tables with a key

A table is the list of its rows.  `lookup` finds the row with a key; inserts
append, updates and deletes keep the order.
-/

namespace MovieApi.Sql

variable {ρ κ : Type} [DecidableEq κ]

def lookup (key : ρ → κ) (k : κ) (rows : List ρ) : Option ρ :=
  rows.find? fun r => key r = k

def modify (key : ρ → κ) (k : κ) (f : ρ → ρ) (rows : List ρ) : List ρ :=
  rows.map fun r => if key r = k then f r else r

def remove (key : ρ → κ) (k : κ) (rows : List ρ) : List ρ :=
  rows.filter fun r => key r ≠ k

/-- No two rows have the same key. -/
def Unique (key : ρ → κ) (rows : List ρ) : Prop :=
  (rows.map key).Nodup

section

variable {key : ρ → κ} {k k' : κ} {r : ρ} {rows : List ρ} {f : ρ → ρ}

@[simp] theorem lookup_nil : lookup key k [] = none := rfl

theorem lookup_cons : lookup key k (r :: rows) =
    if key r = k then some r else lookup key k rows := by
  by_cases h : key r = k <;> simp [lookup, h]

theorem key_of_lookup (h : lookup key k rows = some r) : key r = k := by
  simpa using List.find?_some h

theorem mem_of_lookup (h : lookup key k rows = some r) : r ∈ rows :=
  List.mem_of_find?_eq_some h

theorem lookup_eq_none : lookup key k rows = none ↔ ∀ r ∈ rows, key r ≠ k := by
  simp [lookup, List.find?_eq_none]

theorem lookup_isSome_of_mem (h : r ∈ rows) : (lookup key (key r) rows).isSome := by
  rw [Option.isSome_iff_ne_none, Ne, lookup_eq_none]
  exact fun hn => hn r h rfl

/-- With unique keys a row is found under its key. -/
theorem lookup_of_mem (hu : Unique key rows) (h : r ∈ rows) :
    lookup key (key r) rows = some r := by
  induction rows with
  | nil => simp at h
  | cons r' rows ih =>
      simp only [Unique, List.map_cons, List.nodup_cons, List.mem_map, not_exists, not_and] at hu
      rw [lookup_cons]
      rcases List.mem_cons.1 h with rfl | h
      · simp
      · rw [if_neg (fun he => hu.1 r h he.symm)]
        exact ih hu.2 h

/-- The same where one row has the key, whatever the others' keys. -/
theorem lookup_of_count (hone : (rows.map key).count k = 1) (h : r ∈ rows) (hk : key r = k) :
    lookup key k rows = some r := by
  induction rows with
  | nil => simp at h
  | cons r' rows ih =>
      rw [lookup_cons]
      by_cases hr' : key r' = k
      · have hrest : k ∉ rows.map key := by
          rw [List.map_cons, hr', List.count_cons_self] at hone
          exact List.count_eq_zero.1 (by omega)
        rcases List.mem_cons.1 h with rfl | h
        · simp [hk]
        · exact absurd (List.mem_map.2 ⟨r, h, hk⟩) hrest
      · rw [if_neg hr']
        rw [List.map_cons, List.count_cons_of_ne hr'] at hone
        rcases List.mem_cons.1 h with rfl | h
        · exact absurd hk hr'
        · exact ih hone h

theorem lookup_append : lookup key k (rows ++ [r]) =
    (lookup key k rows).or (if key r = k then some r else none) := by
  simp only [lookup, List.find?_append, List.find?_cons, List.find?_nil]
  by_cases h : key r = k <;> simp [h]

/-- An update that leaves the key of the updated row alone. -/
theorem lookup_modify (hf : ∀ r, key r = k → key (f r) = k) :
    lookup key k' (modify key k f rows) =
      if k' = k then (lookup key k' rows).map f else lookup key k' rows := by
  induction rows with
  | nil => simp [modify]
  | cons r rows ih =>
      have hr : key (if key r = k then f r else r) = key r := by
        split
        · next h => rw [hf r h, h]
        · rfl
      simp only [modify, List.map_cons, lookup_cons, hr] at ih ⊢
      by_cases h : key r = k'
      · subst h
        by_cases h' : key r = k <;> simp [h']
      · simp only [h, if_false, ih]

theorem lookup_remove : lookup key k' (remove key k rows) =
    if k' = k then none else lookup key k' rows := by
  induction rows with
  | nil => simp [remove]
  | cons r rows ih =>
      simp only [remove, List.filter_cons, lookup_cons] at ih ⊢
      by_cases h : key r = k
      · subst h
        simp only [ne_eq, not_true_eq_false, decide_false, Bool.false_eq_true, if_false, ih]
        by_cases h' : k' = key r
        · simp [h']
        · simp [h', Ne.symm h']
      · simp only [ne_eq, h, not_false_eq_true, decide_true, if_true, lookup_cons, ih]
        by_cases h' : key r = k'
        · subst h'
          simp [h]
        · simp [h']

theorem mem_modify : r ∈ modify key k f rows ↔
    ∃ r' ∈ rows, r = if key r' = k then f r' else r' := by
  simp [modify, eq_comm]

theorem map_key_modify (hf : ∀ r, key r = k → key (f r) = k) :
    (modify key k f rows).map key = rows.map key := by
  simp only [modify, List.map_map]
  refine List.map_congr_left fun r hr => ?_
  simp only [Function.comp_apply]
  split
  · next h => rw [hf r h, h]
  · rfl

theorem mem_remove : r ∈ remove key k rows ↔ r ∈ rows ∧ key r ≠ k := by
  simp [remove]

/-- An update that brings no row into a selection. -/
theorem countP_modify_le {p : ρ → Bool}
    (hoff : ∀ r ∈ rows, key r = k → p (f r) = true → p r = true) :
    (modify key k f rows).countP p ≤ rows.countP p := by
  unfold Sql.modify
  rw [List.countP_map]
  refine List.countP_mono_left fun r hr h => ?_
  by_cases hk : key r = k
  · exact hoff r hr hk (by simpa [hk] using h)
  · simpa [hk] using h

/-- With unique keys an update brings at most one row into a selection. -/
theorem countP_modify_le_succ {p : ρ → Bool} (hu : Unique key rows) :
    (modify key k f rows).countP p ≤ rows.countP p + 1 := by
  induction rows with
  | nil => simp [Sql.modify]
  | cons head rows ih =>
      have hrest : Unique key rows := (List.nodup_cons.1 hu).2
      have hhead : key head ∉ rows.map key := (List.nodup_cons.1 hu).1
      by_cases hk : key head = k
      · have hrows : (Sql.modify key k f rows).countP p ≤ rows.countP p :=
          countP_modify_le fun r hr hkr _ =>
            absurd (List.mem_map.2 ⟨r, hr, hkr.trans hk.symm⟩) hhead
        simp only [Sql.modify, List.map_cons, hk, if_true, List.countP_cons] at hrows ⊢
        split <;> omega
      · have hle := ih hrest
        simp only [Sql.modify, List.map_cons, hk, if_false, List.countP_cons] at hle ⊢
        omega

/-- An update that takes the rows with a key out of a selection. -/
theorem countP_modify_lt {p : ρ → Bool} (hoff : ∀ r, key r = k → p (f r) = false)
    (hmem : r ∈ rows) (hkey : key r = k) (hp : p r = true) :
    (modify key k f rows).countP p < rows.countP p := by
  have hkeep : ∀ rows : List ρ, (Sql.modify key k f rows).countP p ≤ rows.countP p := fun rows =>
    countP_modify_le fun r _ hr h => by simp [hoff r hr] at h
  induction rows with
  | nil => simp at hmem
  | cons head rows ih =>
      have hrest := hkeep rows
      rcases List.mem_cons.1 hmem with rfl | hmem
      · simp only [Sql.modify, List.map_cons, List.countP_cons, hkey, if_true, hoff r hkey, hp]
          at hrest ⊢
        simpa using Nat.lt_succ_of_le hrest
      · have hlt := ih hmem
        have hhead : p (if key head = k then f head else head) = true → p head = true := by
          intro h
          by_cases hr : key head = k
          · simp [hr, hoff head hr] at h
          · simpa [hr] using h
        simp only [Sql.modify, List.map_cons, List.countP_cons] at hlt ⊢
        by_cases h : p (if key head = k then f head else head) = true
        · rw [if_pos h, if_pos (hhead h)]
          omega
        · rw [if_neg h]
          omega

theorem Unique.modify (hu : Unique key rows) (hf : ∀ r, key r = k → key (f r) = k) :
    Unique key (modify key k f rows) := by
  unfold Unique
  rw [map_key_modify hf]
  exact hu

theorem Unique.append (hu : Unique key rows) (h : lookup key (key r) rows = none) :
    Unique key (rows ++ [r]) := by
  unfold Unique
  rw [List.map_append, List.nodup_append]
  refine ⟨hu, by simp, ?_⟩
  rw [lookup_eq_none] at h
  intro k hk k' hk' heq
  obtain ⟨r', hr', rfl⟩ := List.mem_map.1 hk
  simp only [List.map_cons, List.map_nil, List.mem_singleton] at hk'
  exact h r' hr' (heq.trans hk')

theorem Unique.remove (hu : Unique key rows) : Unique key (remove key k rows) :=
  hu.sublist (List.filter_sublist.map key)

/-- An update that takes no row into a selection or out of it. -/
theorem filter_modify {p : ρ → Bool} (hf : ∀ r, key r = k → p (f r) = p r) (rows : List ρ) :
    (Sql.modify key k f rows).filter p = Sql.modify key k f (rows.filter p) := by
  unfold Sql.modify
  rw [List.filter_map]
  congr 1
  refine List.filter_congr fun r _ => ?_
  by_cases h : key r = k
  · simp [h, hf r h]
  · simp [h]

/-- An update that leaves `g` of the updated row alone. -/
theorem map_modify {γ : Type} {g : ρ → γ} (hf : ∀ r, key r = k → g (f r) = g r)
    (rows : List ρ) : (Sql.modify key k f rows).map g = rows.map g := by
  simp only [Sql.modify, List.map_map]
  refine List.map_congr_left fun r _ => ?_
  by_cases h : key r = k
  · simp [h, hf r h]
  · simp [h]

theorem filter_modify_filter {p : ρ → Bool} (hf : ∀ r, key r = k → p (f r) = p r)
    (rows : List ρ) :
    (Sql.modify key k f rows).filter p = (Sql.modify key k f (rows.filter p)).filter p := by
  rw [filter_modify hf, filter_modify hf, List.filter_filter]
  simp

/-- An update of rows outside a selection. -/
theorem filter_modify_of_off {p : ρ → Bool} (hf : ∀ r, key r = k → p (f r) = p r)
    (hoff : ∀ r, key r = k → p r = false) (rows : List ρ) :
    (Sql.modify key k f rows).filter p = rows.filter p := by
  rw [filter_modify hf]
  refine (List.map_congr_left fun r hr => ?_).trans (List.map_id _)
  rw [if_neg fun h => by simp [hoff r h] at hr]
  rfl

theorem filter_remove_of_off {p : ρ → Bool} (hoff : ∀ r, key r = k → p r = false)
    (rows : List ρ) : (Sql.remove key k rows).filter p = rows.filter p := by
  rw [Sql.remove, List.filter_filter]
  refine List.filter_congr fun r _ => ?_
  by_cases h : key r = k
  · simp [hoff r h]
  · simp [h]

theorem filter_remove (p : ρ → Bool) :
    (Sql.remove key k rows).filter p = Sql.remove key k (rows.filter p) := by
  simp only [Sql.remove, List.filter_filter, Bool.and_comm]

theorem lookup_isSome_eq_any (key : ρ → κ) (k : κ) (rows : List ρ) :
    (lookup key k rows).isSome = rows.any fun r => decide (key r = k) := by
  rw [Bool.eq_iff_iff]
  simp [lookup, List.find?_isSome]

end

/-! ## Bulk updates, row by row -/

section

variable {key : ρ → κ} {k : κ} {ks : List κ} {r : ρ} {rows : List ρ} {p : ρ → Bool} {f : ρ → ρ}

/-- The rows of a selection are updated where their key is listed. -/
def modifyListed (key : ρ → κ) (ks : List κ) (p : ρ → Bool) (f : ρ → ρ) (rows : List ρ) : List ρ :=
  rows.map fun r => if key r ∈ ks ∧ p r = true then f r else r

@[simp] theorem modifyListed_nil : modifyListed key [] p f rows = rows := by
  simp [modifyListed]

theorem mem_modifyListed : r ∈ modifyListed key ks p f rows ↔
    ∃ r' ∈ rows, r = if key r' ∈ ks ∧ p r' = true then f r' else r' := by
  unfold modifyListed
  rw [List.mem_map]
  exact exists_congr fun r' => and_congr_right fun _ => eq_comm

/-- The whole selection, updated. -/
theorem modifyListed_selection : modifyListed key ((rows.filter p).map key) p f rows =
    rows.map fun r => if p r = true then f r else r := by
  refine List.map_congr_left fun r hr => ?_
  by_cases hp : p r = true
  · have hlisted : key r ∈ (rows.filter p).map key :=
      List.mem_map.2 ⟨r, List.mem_filter.2 ⟨hr, hp⟩, rfl⟩
    rw [if_pos ⟨hlisted, hp⟩, if_pos hp]
  · rw [if_neg fun h => hp h.2, if_neg hp]

theorem Unique.modifyListed (hu : Unique key rows) (hf : ∀ r, key (f r) = key r) :
    Unique key (modifyListed key ks p f rows) := by
  have hkeys : (Sql.modifyListed key ks p f rows).map key = rows.map key := by
    simp only [Sql.modifyListed, List.map_map]
    refine List.map_congr_left fun r _ => ?_
    simp only [Function.comp_apply]
    split
    · exact hf r
    · rfl
  unfold Unique
  rw [hkeys]
  exact hu

/-- One more row is listed, and found in the selection: it is updated. -/
theorem modify_modifyListed (hu : Unique key rows) (hf : ∀ r, key (f r) = key r)
    (hp : ∀ r, p (f r) = false)
    (h : (lookup key k (modifyListed key ks p f rows)).filter p = some r) :
    modify key k f (modifyListed key ks p f rows) = modifyListed key (ks ++ [k]) p f rows := by
  obtain ⟨hfound, hsel⟩ := Option.filter_eq_some_iff.1 h
  obtain ⟨r', hr', heq⟩ := mem_modifyListed.1 (mem_of_lookup hfound)
  have hkey : key r = k := key_of_lookup hfound
  have hunlisted : ¬ (key r' ∈ ks ∧ p r' = true) := by
    intro hlisted
    rw [if_pos hlisted] at heq
    rw [heq, hp] at hsel
    cases hsel
  rw [if_neg hunlisted] at heq
  subst heq
  simp only [Sql.modify, Sql.modifyListed, List.map_map]
  refine List.map_congr_left fun r₁ hr₁ => ?_
  simp only [Function.comp_apply]
  by_cases hk : key r₁ = k
  · obtain rfl : r = r₁ := by
      have h₁ := lookup_of_mem hu hr₁
      rw [hk, ← hkey, lookup_of_mem hu hr'] at h₁
      exact Option.some.inj h₁
    rw [if_neg hunlisted, if_pos hk, if_pos ⟨by simp [hk], hsel⟩]
  · have hlisted : key r₁ ∈ ks ++ [k] ↔ key r₁ ∈ ks := by simp [hk]
    have hkept : key (if key r₁ ∈ ks ∧ p r₁ = true then f r₁ else r₁) = key r₁ := by
      split
      · exact hf r₁
      · rfl
    rw [hkept, if_neg hk]
    simp only [hlisted]

/-- One more row is listed, and not found in the selection: nothing changes. -/
theorem modifyListed_append_of_none (hu : Unique key rows) (hf : ∀ r, key (f r) = key r)
    (h : (lookup key k (modifyListed key ks p f rows)).filter p = none) :
    modifyListed key (ks ++ [k]) p f rows = modifyListed key ks p f rows := by
  refine List.map_congr_left fun r hr => ?_
  by_cases hk : key r = k
  · by_cases hlisted : key r ∈ ks ∧ p r = true
    · rw [if_pos hlisted, if_pos ⟨by simp [hk], hlisted.2⟩]
    · rw [if_neg hlisted, if_neg]
      rintro ⟨-, hsel⟩
      have hmem : r ∈ modifyListed key ks p f rows :=
        mem_modifyListed.2 ⟨r, hr, by rw [if_neg hlisted]⟩
      have hfound := lookup_of_mem (hu.modifyListed hf) hmem
      rw [← hk, hfound, Option.filter_some, if_pos hsel] at h
      cases h
  · simp [hk]

end

/-! ## Rows a statement leaves alone -/

/-- The rows that are not `own` are the same ones, in the same order. -/
def SameElsewhere (own : ρ → Prop) [DecidablePred own] (rows rows' : List ρ) : Prop :=
  rows'.filter (fun row => decide (¬ own row)) = rows.filter fun row => decide (¬ own row)

theorem sameElsewhere_filter (own : ρ → Prop) [DecidablePred own] (rows : List ρ) :
    SameElsewhere own rows (rows.filter fun row => decide (¬ own row)) := by
  unfold SameElsewhere
  rw [List.filter_filter]
  exact List.filter_congr fun row _ => by simp

/-- A change to rows that stay among those it may change. -/
theorem sameElsewhere_map (own : ρ → Prop) [DecidablePred own] (f : ρ → ρ) (rows : List ρ)
    (hf : ∀ row, own row → own (f row)) :
    SameElsewhere own rows (rows.map fun row => if own row then f row else row) := by
  unfold SameElsewhere
  induction rows with
  | nil => rfl
  | cons row rows ih =>
      rw [List.map_cons]
      by_cases h : own row
      · rw [if_pos h, List.filter_cons_of_neg (by simpa using hf row h),
          List.filter_cons_of_neg (by simpa using h), ih]
      · rw [if_neg h, List.filter_cons_of_pos (by simpa using h),
          List.filter_cons_of_pos (by simpa using h), ih]

end MovieApi.Sql
