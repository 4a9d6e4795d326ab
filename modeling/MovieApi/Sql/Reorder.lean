import MovieApi.Sql.Pages
import MovieApi.Sql.Table

/-!
# Putting rows in a given order

A list of ids is checked against the rows that were read, and each row named is then given
its place in the list.  Either the check refuses and no row has changed, or every listing
by place shows the rows named in the order given.
-/

namespace MovieApi.Sql

variable {ρ κ : Type} [DecidableEq κ]

inductive ReorderFault where
  /-- the check has refused -/
  | valueError (message : String)
  /-- a row to be placed was not read -/
  | keyError
deriving DecidableEq, Repr

/-- The loop over `enumerate(ids)`; what it has placed before a fault stays placed. -/
def assignPlaces (key : ρ → κ) (place : Int → ρ → ρ) (byId : List κ) :
    List κ → Nat → List ρ → Except ReorderFault Unit × List ρ
  | [], _, rows => (.ok (), rows)
  | id :: ids, index, rows =>
      if id ∈ byId then
        assignPlaces key place byId ids (index + 1) (Sql.modify key id (place index) rows)
      else (.error .keyError, rows)

/-- `byId` are the ids of the rows that were read. -/
def reorder (key : ρ → κ) (place : Int → ρ → ρ) (message : String) (byId ids : List κ)
    (rows : List ρ) : Except ReorderFault Unit × List ρ :=
  if ids.length ≠ ids.toFinset.card ∨ ids.toFinset ≠ byId.toFinset then
    (.error (.valueError message), rows)
  else assignPlaces key place byId ids 0 rows

/-- The rows named are in the order of `ids` in every listing of a part of the rows by
`le`; the other rows are the ones there were, and of those named only the place is new. -/
structure Reordered (key : ρ → κ) (place : Int → ρ → ρ) (le : ρ → ρ → Prop) (ids : List κ)
    (rows rows' : List ρ) : Prop where
  present : ∀ id ∈ ids, ∃ row ∈ rows', key row = id
  elsewhere : SameElsewhere (fun row => key row ∈ ids) rows rows'
  columns : rows'.map (place 0) = rows.map (place 0)
  listed : ∀ (p : ρ → Bool) (l : List ρ), Answer le (rows'.filter p) l →
    (l.map key).filter (fun id => decide (id ∈ ids)) =
      ids.filter fun id => decide (id ∈ l.map key)

section

variable {key : ρ → κ} {place : Int → ρ → ρ} {byId ids : List κ} {rows : List ρ}

/-- What the loop makes of a row. -/
def placed (key : ρ → κ) (place : Int → ρ → ρ) (ids : List κ) (start : Nat) (row : ρ) : ρ :=
  if key row ∈ ids then place (start + ids.idxOf (key row) : Nat) row else row

theorem key_placed (hkey : ∀ i row, key (place i row) = key row) (start : Nat) (row : ρ) :
    key (placed key place ids start row) = key row := by
  unfold placed
  split
  · exact hkey _ row
  · rfl

theorem assignPlaces_eq (hkey : ∀ i row, key (place i row) = key row) (hids : ids.Nodup)
    (hread : ∀ id ∈ ids, id ∈ byId) (start : Nat) (rows : List ρ) :
    assignPlaces key place byId ids start rows = (.ok (), rows.map (placed key place ids start)) := by
  induction ids generalizing start rows with
  | nil =>
      have hsame : placed key place [] start = id := funext fun row => if_neg (List.not_mem_nil)
      rw [assignPlaces, hsame, List.map_id]
  | cons id ids ih =>
      obtain ⟨hnew, hids⟩ := List.nodup_cons.1 hids
      rw [assignPlaces, if_pos (hread id List.mem_cons_self),
        ih hids (fun other hother => hread other (List.mem_cons_of_mem id hother))]
      unfold Sql.modify
      rw [List.map_map]
      congr 1
      refine List.map_congr_left fun row _ => ?_
      simp only [Function.comp_apply]
      by_cases hrow : key row = id
      · subst hrow
        rw [if_pos rfl]
        unfold placed
        rw [hkey, if_neg hnew, if_pos List.mem_cons_self, List.idxOf_cons_self, Nat.add_zero]
      · rw [if_neg hrow]
        unfold placed
        have hmem : key row ∈ id :: ids ↔ key row ∈ ids := by
          rw [List.mem_cons, or_iff_right hrow]
        simp only [hmem, List.idxOf_cons_ne _ (Ne.symm hrow)]
        have hplace : start + 1 + ids.idxOf (key row) = start + (ids.idxOf (key row) + 1) := by omega
        rw [hplace]

theorem pairwise_idxOf (hids : ids.Nodup) :
    ids.Pairwise fun id id' => ids.idxOf id ≤ ids.idxOf id' := by
  refine List.pairwise_iff_getElem.2 fun i j hi hj hij => ?_
  rw [hids.idxOf_getElem i hi, hids.idxOf_getElem j hj]
  exact hij.le

variable {le : ρ → ρ → Prop} {position : ρ → Int}

/-- Rows that have their place in the list are listed in its order. -/
theorem listed_of_places (hids : ids.Nodup) (hle : ∀ a b, le a b → position a ≤ position b)
    {selected l : List ρ} (hunique : (selected.map key).Nodup)
    (hplaces : ∀ row ∈ selected, key row ∈ ids → position row = ids.idxOf (key row))
    (h : Answer le selected l) :
    (l.map key).filter (fun id => decide (id ∈ ids)) =
      ids.filter fun id => decide (id ∈ l.map key) := by
  have hnodup : (l.map key).Nodup := (h.perm.map key).nodup_iff.2 hunique
  have hordered : (l.map key).Pairwise fun id id' =>
      id ∈ ids → id' ∈ ids → ids.idxOf id ≤ ids.idxOf id' := by
    rw [List.pairwise_map]
    refine h.ordered.imp_of_mem fun {a b} ha hb hab ha' hb' => ?_
    have hposition := hle a b hab
    rw [hplaces a (h.perm.mem_iff.1 ha) ha', hplaces b (h.perm.mem_iff.1 hb) hb'] at hposition
    exact Int.ofNat_le.1 hposition
  have hperm : ((l.map key).filter fun id => decide (id ∈ ids)).Perm
      (ids.filter fun id => decide (id ∈ l.map key)) := by
    refine (List.perm_ext_iff_of_nodup (hnodup.filter _) (hids.filter _)).2 fun id => ?_
    simp only [List.mem_filter, decide_eq_true_eq]
    exact and_comm
  have hplaced : ((l.map key).filter fun id => decide (id ∈ ids)).Pairwise fun id id' =>
      ids.idxOf id ≤ ids.idxOf id' := by
    refine (hordered.filter _).imp_of_mem fun {id id'} hid hid' himp => ?_
    exact himp (by simpa using (List.mem_filter.1 hid).2) (by simpa using (List.mem_filter.1 hid').2)
  refine hperm.eq_of_pairwise ?_ hplaced ((pairwise_idxOf hids).filter _)
  intro id id' hid hid' hle hge
  have hmem : id ∈ ids := by simpa using (List.mem_filter.1 hid).2
  have heq : ids.idxOf id = ids.idxOf id' := le_antisymm hle hge
  exact (List.idxOf_inj hmem).1 heq

/-- Every row named is read and placed, so nothing else is changed and the listings follow. -/
theorem reordered_of_placed (hkey : ∀ i row, key (place i row) = key row)
    (hposition : ∀ i row, position (place i row) = i)
    (hplace : ∀ i row, place 0 (place i row) = place 0 row)
    (hle : ∀ a b, le a b → position a ≤ position b) (hunique : Sql.Unique key rows)
    (hids : ids.Nodup) (hpresent : ∀ id ∈ ids, ∃ row ∈ rows, key row = id) :
    Reordered key place le ids rows (rows.map (placed key place ids 0)) where
  present id hid := by
    obtain ⟨row, hrow, hrowid⟩ := hpresent id hid
    refine ⟨placed key place ids 0 row, List.mem_map_of_mem hrow, ?_⟩
    rw [key_placed hkey, hrowid]
  elsewhere := sameElsewhere_map (fun row => key row ∈ ids) _ rows fun row hrow => by
    simpa only [hkey] using hrow
  columns := by
    rw [List.map_map]
    refine List.map_congr_left fun row _ => ?_
    simp only [Function.comp_apply]
    unfold placed
    split
    · exact hplace _ row
    · rfl
  listed p l hl := by
    refine listed_of_places hids hle ?_ ?_ hl
    · have hkeys : ((rows.map (placed key place ids 0)).map key) = rows.map key := by
        rw [List.map_map]
        exact List.map_congr_left fun row _ => key_placed hkey 0 row
      have hall : ((rows.map (placed key place ids 0)).map key).Nodup := hkeys ▸ hunique
      exact hall.sublist (List.filter_sublist.map key)
    · intro row hrow hrowid
      obtain ⟨old, -, rfl⟩ := List.mem_map.1 (List.mem_filter.1 hrow).1
      rw [key_placed hkey] at hrowid ⊢
      unfold placed
      rw [if_pos hrowid, hposition, Nat.zero_add]

/-- All or nothing: the check refuses and no row has changed, or the ids are those of the
rows read, each once, and the rows have their order. -/
theorem reorder_cases (place : Int → ρ → ρ) (le : ρ → ρ → Prop) (position : ρ → Int)
    (message : String) (byId ids : List κ) (hkey : ∀ i row, key (place i row) = key row)
    (hposition : ∀ i row, position (place i row) = i)
    (hplace : ∀ i row, place 0 (place i row) = place 0 row)
    (hle : ∀ a b, le a b → position a ≤ position b) (hunique : Sql.Unique key rows)
    (hread : ∀ id ∈ byId, ∃ row ∈ rows, key row = id) :
    reorder key place message byId ids rows = (.error (.valueError message), rows) ∨
      ∃ rows', reorder key place message byId ids rows = (.ok (), rows') ∧ ids.Nodup ∧
        (∀ id, id ∈ ids ↔ id ∈ byId) ∧ Reordered key place le ids rows rows' := by
  unfold reorder
  by_cases hcheck : ids.length ≠ ids.toFinset.card ∨ ids.toFinset ≠ byId.toFinset
  · rw [if_pos hcheck]
    exact .inl rfl
  · rw [if_neg hcheck]
    push Not at hcheck
    have hids : ids.Nodup := Multiset.coe_nodup.1 <|
      Multiset.toFinset_card_eq_card_iff_nodup.1 hcheck.1.symm
    have hmem (id : κ) : id ∈ ids ↔ id ∈ byId := by
      rw [← List.mem_toFinset, hcheck.2, List.mem_toFinset]
    refine .inr ⟨_, assignPlaces_eq hkey hids (fun id hid => (hmem id).1 hid) 0 rows, hids, hmem, ?_⟩
    exact reordered_of_placed hkey hposition hplace hle hunique hids fun id hid =>
      hread id ((hmem id).1 hid)

/-- Where a listing shows rows that are all named, it shows them in the order given. -/
theorem Reordered.listed_eq {rows' : List ρ} (h : Reordered key place le ids rows rows')
    {p : ρ → Bool} {l : List ρ} (hl : Answer le (rows'.filter p) l)
    (hmem : ∀ id, id ∈ l.map key ↔ id ∈ ids) : l.map key = ids := by
  have hlisted := h.listed p l hl
  rwa [List.filter_eq_self.2 fun id hid => decide_eq_true ((hmem id).1 hid),
    List.filter_eq_self.2 fun id hid => decide_eq_true ((hmem id).2 hid)] at hlisted

end

end MovieApi.Sql
