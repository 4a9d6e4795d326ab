import Mathlib.Data.List.Perm.Basic
import Mathlib.Data.List.Nodup
import Mathlib.Tactic.Common

/-!
# Trees grown from links

Rows with a link to a parent, printed as trees: the replies of a row are grown in
turn, to a depth that is given.  Where the rows can be put into a list in which every
parent comes before its replies, the length of the list is depth enough, and the
trees of the rows without a parent in the list hold each row of it once.
-/

namespace MovieApi.Trees

variable {α κ : Type}

inductive Rose (α : Type) where
  | node (label : α) (children : List (Rose α))

namespace Rose

def label : Rose α → α
  | node label _ => label

def children : Rose α → List (Rose α)
  | node _ children => children

mutual

/-- The tree itself and all below it. -/
def nodes : Rose α → List (Rose α)
  | node label children => node label children :: nodesAll children

def nodesAll : List (Rose α) → List (Rose α)
  | [] => []
  | tree :: trees => tree.nodes ++ nodesAll trees

end

theorem nodesAll_eq_flatMap (trees : List (Rose α)) : nodesAll trees = trees.flatMap nodes := by
  induction trees with
  | nil => rfl
  | cons tree trees ih => rw [nodesAll, ih, List.flatMap_cons]

theorem nodes_node (a : α) (trees : List (Rose α)) :
    (node a trees).nodes = node a trees :: trees.flatMap nodes := by
  rw [nodes, nodesAll_eq_flatMap]

/-- What the nodes of a tree are labelled with. -/
def labels (tree : Rose α) : List α := tree.nodes.map label

theorem labels_node (a : α) (trees : List (Rose α)) :
    (node a trees).labels = a :: trees.flatMap labels := by
  unfold labels
  rw [nodes_node, List.map_cons, List.map_flatMap]
  rfl

end Rose

/-- The tree of a row, so many replies deep. -/
def grow (replies : α → List α) : Nat → α → Rose α
  | 0, a => .node a []
  | n + 1, a => .node a ((replies a).map (grow replies n))

@[simp] theorem label_grow (replies : α → List α) (n : Nat) (a : α) :
    (grow replies n a).label = a := by
  cases n <;> rfl

section

variable [DecidableEq κ] (replies : α → List α) (up : α → Option κ) (key : α → κ)

/-- Parents come before their replies, and the replies of a row are the later rows that
refer to it. -/
def Downward : List α → Prop
  | [] => True
  | a :: rest => (∀ b ∈ a :: rest, up a ≠ some (key b)) ∧
      (replies a).Perm (rest.filter fun b => decide (up b = some (key a))) ∧ Downward rest

/-- The rows without a parent in the list. -/
def heads (l : List α) : List α := l.filter fun a => decide (∀ b ∈ l, up a ≠ some (key b))

variable {replies up key} {l : List α} {a : α} {n : Nat}

theorem mem_rest_of_mem_replies {rest : List α} (h : Downward replies up key (a :: rest)) {b : α}
    (hb : b ∈ replies a) : b ∈ rest :=
  (List.mem_filter.1 (h.2.1.mem_iff.1 hb)).1

theorem downward_of_pairwise (hordered : l.Pairwise fun a b => up a ≠ some (key b))
    (hself : ∀ a ∈ l, up a ≠ some (key a))
    (hreplies : ∀ a ∈ l, (replies a).Perm (l.filter fun b => decide (up b = some (key a)))) :
    Downward replies up key l := by
  induction l with
  | nil => trivial
  | cons head rest ih =>
      obtain ⟨hhead, hrest⟩ := List.pairwise_cons.1 hordered
      have hlater (a : α) (ha : a ∈ head :: rest) :
          (replies a).Perm (rest.filter fun b => decide (up b = some (key a))) := by
        have hne : up head ≠ some (key a) := by
          rcases List.mem_cons.1 ha with rfl | ha
          · exact hself a List.mem_cons_self
          · exact hhead a ha
        have h := hreplies a ha
        rwa [List.filter_cons_of_neg (by simpa using hne)] at h
      refine ⟨fun b hb => ?_, hlater head List.mem_cons_self, ih hrest ?_ ?_⟩
      · rcases List.mem_cons.1 hb with rfl | hb
        · exact hself b List.mem_cons_self
        · exact hhead b hb
      · exact fun a ha => hself a (List.mem_cons_of_mem head ha)
      · exact fun a ha => hlater a (List.mem_cons_of_mem head ha)

/-- Beyond the length of the list the depth does not matter. -/
theorem grow_succ_eq (h : Downward replies up key l) (hn : l.length ≤ n) (ha : a ∈ l) :
    grow replies (n + 1) a = grow replies n a := by
  induction l generalizing n a with
  | nil => cases ha
  | cons head rest ih =>
      obtain ⟨m, rfl⟩ : ∃ m, n = m + 1 := ⟨n - 1, by simp at hn; omega⟩
      have hm : rest.length ≤ m := Nat.le_of_succ_le_succ hn
      rcases List.mem_cons.1 ha with rfl | ha
      · show Rose.node a _ = Rose.node a _
        congr 1
        exact List.map_congr_left fun b hb => ih h.2.2 hm (mem_rest_of_mem_replies h hb)
      · exact ih h.2.2 (Nat.le_trans hm (Nat.le_succ m)) ha

/-- Below every row hang its replies. -/
theorem children_of_mem_grow (h : Downward replies up key l) (hn : l.length ≤ n) (ha : a ∈ l)
    {tree : Rose α} (htree : tree ∈ (grow replies n a).nodes) :
    tree.label ∈ l ∧ tree.children.map Rose.label = replies tree.label := by
  induction l generalizing n a with
  | nil => cases ha
  | cons head rest ih =>
      obtain ⟨m, rfl⟩ : ∃ m, n = m + 1 := ⟨n - 1, by simp at hn; omega⟩
      have hm : rest.length ≤ m := Nat.le_of_succ_le_succ hn
      rcases List.mem_cons.1 ha with rfl | ha
      · rw [grow, Rose.nodes_node, List.mem_cons] at htree
        rcases htree with rfl | htree
        · refine ⟨List.mem_cons_self, ?_⟩
          show ((replies a).map (grow replies m)).map Rose.label = replies a
          rw [List.map_map]
          exact (List.map_congr_left fun b _ => label_grow replies m b).trans (List.map_id _)
        · obtain ⟨child, hchild, htree⟩ := List.mem_flatMap.1 htree
          obtain ⟨b, hb, rfl⟩ := List.mem_map.1 hchild
          obtain ⟨hmem, hchildren⟩ := ih h.2.2 hm (mem_rest_of_mem_replies h hb) htree
          exact ⟨List.mem_cons_of_mem a hmem, hchildren⟩
      · obtain ⟨hmem, hchildren⟩ := ih h.2.2 (Nat.le_trans hm (Nat.le_succ m)) ha htree
        exact ⟨List.mem_cons_of_mem head hmem, hchildren⟩

/-- Without its first row the list has the replies to it among its heads. -/
theorem heads_perm {rest : List α} (h : Downward replies up key (a :: rest))
    (hkeys : ((a :: rest).map key).Nodup) :
    ∃ others, heads up key (a :: rest) = a :: others ∧
      (heads up key rest).Perm (replies a ++ others) := by
  have hhead : decide (∀ b ∈ a :: rest, up a ≠ some (key b)) = true := by simpa using h.1
  refine ⟨rest.filter fun x => decide (∀ b ∈ a :: rest, up x ≠ some (key b)), ?_, ?_⟩
  · exact List.filter_cons_of_pos hhead
  · have hfresh : ∀ b ∈ rest, key b ≠ key a := by
      intro b hb heq
      exact (List.nodup_cons.1 hkeys).1 (heq ▸ List.mem_map_of_mem hb)
    have hsplit := List.filter_append_perm (fun x => decide (up x = some (key a)))
      (heads up key rest)
    refine hsplit.symm.trans (.append ?_ ?_)
    · refine .trans ?_ h.2.1.symm
      unfold heads
      rw [List.filter_filter]
      refine .of_eq (List.filter_congr fun x hx => ?_)
      by_cases hup : up x = some (key a)
      · have hno : ∀ b ∈ rest, ¬key a = key b := fun b hb heq => hfresh b hb heq.symm
        simpa [hup] using hno
      · simp [hup]
    · refine .of_eq ?_
      unfold heads
      rw [List.filter_filter]
      refine List.filter_congr fun x hx => ?_
      simp

/-- The trees of the heads hold each row of the list once. -/
theorem labels_perm (h : Downward replies up key l) (hkeys : (l.map key).Nodup)
    (hn : l.length ≤ n) :
    ((heads up key l).flatMap fun a => (grow replies n a).labels).Perm l := by
  induction l generalizing n with
  | nil => exact .nil
  | cons head rest ih =>
      obtain ⟨m, rfl⟩ : ∃ m, n = m + 1 := ⟨n - 1, by simp at hn; omega⟩
      have hm : rest.length ≤ m := Nat.le_of_succ_le_succ hn
      obtain ⟨others, hheads, hperm⟩ := heads_perm h hkeys
      have hrest := ih h.2.2 (List.nodup_cons.1 hkeys).2 hm
      have hothers : (others.flatMap fun a => (grow replies (m + 1) a).labels) =
          others.flatMap fun a => (grow replies m a).labels := by
        refine List.flatMap_congr fun b hb => ?_
        have hmem : b ∈ rest := by
          have hb' := hperm.mem_iff.2 (List.mem_append_right _ hb)
          exact (List.mem_filter.1 hb').1
        rw [grow_succ_eq h.2.2 hm hmem]
      rw [hheads, List.flatMap_cons, hothers, grow, Rose.labels_node, List.flatMap_map,
        List.cons_append, ← List.flatMap_append]
      exact ((hperm.symm.flatMap_right _).trans hrest).cons head

end

end MovieApi.Trees
