import MovieApi.Sql.OrderBy

/-!
# Listings in pages

Every page is a slice of an answer of its own, and answers may differ in the order of rows
the `ORDER BY` does not tell apart.  The pages together hold each row once, whatever the
answers, exactly when such rows are never on two pages.
-/

namespace MovieApi.Sql

variable {α : Type}

/-- Page `k`, the first being page 0. -/
def pageSlice (size k : Nat) (l : List α) : List α := (l.drop (k * size)).take size

section

variable {size k : Nat} {l : List α} {a : α}

/-- A row is on the page that its place is on. -/
theorem mem_pageSlice (hsize : 0 < size) : a ∈ pageSlice size k l ↔
    ∃ front back, l = front ++ a :: back ∧ front.length / size = k := by
  unfold pageSlice
  rw [List.mem_take_iff_getElem]
  constructor
  · rintro ⟨j, hj, rfl⟩
    rw [List.length_drop] at hj
    have hlt : k * size + j < l.length := by omega
    refine ⟨l.take (k * size + j), l.drop (k * size + j + 1), ?_, ?_⟩
    · rw [List.getElem_drop, List.getElem_cons_drop, List.take_append_drop]
    · rw [List.length_take_of_le hlt.le]
      exact Nat.div_eq_of_lt_le (by omega) (by rw [Nat.succ_mul]; omega)
  · rintro ⟨front, back, rfl, rfl⟩
    have hplace := Nat.div_add_mod front.length size
    have hrest := Nat.mod_lt front.length hsize
    rw [Nat.mul_comm] at hplace
    refine ⟨front.length % size, ?_, ?_⟩
    · rw [List.length_drop, List.length_append, List.length_cons]
      omega
    · rw [List.getElem_drop]
      simp only [hplace, List.getElem_append_right, le_refl, Nat.sub_self, List.getElem_cons_zero]

/-- Two rows next to each other. -/
theorem exists_neighbours {n : Nat} (h : n + 1 < l.length) :
    ∃ front a b back, l = front ++ a :: b :: back ∧ front.length = n := by
  refine ⟨l.take n, l[n], l[n + 1], l.drop (n + 2), ?_, List.length_take_of_le (by omega)⟩
  rw [List.getElem_cons_drop, List.getElem_cons_drop, List.take_append_drop]

theorem nodup_pageSlice (h : l.Nodup) : (pageSlice size k l).Nodup :=
  (h.sublist (List.drop_sublist _ _)).sublist (List.take_sublist _ _)

end

/-- A server that hands out `rows` as `l`. -/
def Scan.handing [DecidableEq α] {rows l : List α} (h : l.Perm rows) : Scan α where
  rows _ found := if found = rows then l else found
  perm _ found := by
    split
    · next heq => exact heq ▸ h
    · exact .refl found

@[simp] theorem Scan.handing_rows [DecidableEq α] {rows l : List α} (h : l.Perm rows) (query : Nat) :
    (Scan.handing h).rows query rows = l := if_pos rfl

variable (le : α → α → Prop) [DecidableRel le]

/-- An answer to a query with an `ORDER BY`. -/
structure Answer (rows l : List α) : Prop where
  perm : l.Perm rows
  ordered : l.Pairwise le

/-- How many rows surely come before a row. -/
def firstPlace (rows : List α) (a : α) : Nat := rows.countP fun b => decide (¬ le a b)

/-- The last place a row can have. -/
def lastPlace (rows : List α) (a : α) : Nat := (rows.countP fun b => decide (le b a)) - 1

/-- Rows the order does not tell apart are on one page. -/
def TiesOnOnePage (size : Nat) (rows : List α) : Prop :=
  ∀ a ∈ rows, firstPlace le rows a / size = lastPlace le rows a / size

variable {le} {rows front back : List α} {a b : α} {size : Nat}

section

variable [Std.Total le]

omit [DecidableRel le] in
theorem le_refl_of_total (a : α) : le a a := (Std.Total.total a a).elim id id

/-- Where a row can be in an answer. -/
theorem Answer.places (h : Answer le rows (front ++ a :: back)) :
    firstPlace le rows a ≤ front.length ∧ front.length + 1 ≤
      rows.countP fun b => decide (le b a) := by
  obtain ⟨-, hback, hcross⟩ := List.pairwise_append.1 h.ordered
  have hrefl : le a a := le_refl_of_total a
  constructor
  · have hrest : (a :: back).countP (fun b => decide (¬ le a b)) = 0 := by
      refine List.countP_eq_zero.2 fun b hb => ?_
      have hle : le a b := by
        rcases List.mem_cons.1 hb with rfl | hb
        · exact hrefl
        · exact (List.pairwise_cons.1 hback).1 b hb
      simpa using hle
    unfold firstPlace
    rw [← h.perm.countP_eq, List.countP_append, hrest, Nat.add_zero]
    exact List.countP_le_length
  · have hfront : front.countP (fun b => decide (le b a)) = front.length := by
      refine List.countP_eq_length.2 fun b hb => ?_
      simpa using hcross b hb a List.mem_cons_self
    rw [← h.perm.countP_eq, List.countP_append, hfront,
      List.countP_cons_of_pos (by simpa using hrefl)]
    omega

theorem Answer.place_le_lastPlace (h : Answer le rows (front ++ a :: back)) :
    front.length ≤ lastPlace le rows a := by
  have hplaces := h.places.2
  unfold lastPlace
  omega

end

section

variable [IsTrans α le] [Std.Total le]

/-- A row on a place that is open to `a` cannot be told apart from it. -/
theorem Answer.tied (h : Answer le rows (front ++ b :: back)) (ha : a ∈ rows)
    (hfirst : firstPlace le rows a ≤ front.length) (hlast : front.length ≤ lastPlace le rows a) :
    le a b ∧ le b a := by
  obtain ⟨hlow, hhigh⟩ := h.places
  constructor
  · by_contra hab
    have hmono : (rows.countP fun c => decide (le c b)) ≤ firstPlace le rows a := by
      refine List.countP_mono_left fun c _ hc => ?_
      have hcb : le c b := by simpa using hc
      simpa using fun hac => hab (IsTrans.trans _ _ _ hac hcb)
    omega
  · by_contra hba
    have hmono : (rows.countP fun c => decide (le c a)) ≤ firstPlace le rows b := by
      refine List.countP_mono_left fun c _ hc => ?_
      have hca : le c a := by simpa using hc
      simpa using fun hbc => hba (IsTrans.trans _ _ _ hbc hca)
    have hpos : 0 < rows.countP fun c => decide (le c a) :=
      List.countP_pos_iff.2 ⟨a, ha, by simpa using (le_refl_of_total a : le a a)⟩
    unfold lastPlace at hlast
    omega

omit [IsTrans α le] in
/-- Without ties across pages the rows of a page do not depend on the answer. -/
theorem mem_pageSlice_iff (hsize : 0 < size) (hties : TiesOnOnePage le size rows) {l : List α}
    (h : Answer le rows l) {k : Nat} :
    a ∈ pageSlice size k l ↔ a ∈ rows ∧ firstPlace le rows a / size = k := by
  have hplace {front back : List α} (hl : l = front ++ a :: back) :
      front.length / size = firstPlace le rows a / size := by
    subst hl
    have hmem : a ∈ rows := h.perm.mem_iff.1 (by simp)
    refine le_antisymm ?_ (Nat.div_le_div_right h.places.1)
    rw [hties a hmem]
    exact Nat.div_le_div_right h.place_le_lastPlace
  rw [mem_pageSlice hsize]
  constructor
  · rintro ⟨front, back, hl, hk⟩
    refine ⟨h.perm.mem_iff.1 (by simp [hl]), ?_⟩
    rw [← hplace hl, hk]
  · rintro ⟨hmem, hk⟩
    obtain ⟨front, back, hl⟩ := List.append_of_mem (h.perm.mem_iff.2 hmem)
    exact ⟨front, back, hl, (hplace hl).trans hk⟩

omit [IsTrans α le] in
theorem firstPlace_lt (ha : a ∈ rows) : firstPlace le rows a < rows.length := by
  refine lt_of_le_of_ne List.countP_le_length fun heq => ?_
  have hall := List.countP_eq_length.1 heq a ha
  simp only [decide_not, Bool.not_eq_true', decide_eq_false_iff_not] at hall
  exact hall (le_refl_of_total a)

omit [IsTrans α le] in
theorem pages_perm (hrows : rows.Nodup) (hsize : 0 < size) (hties : TiesOnOnePage le size rows)
    {pages : Nat} (hpages : rows.length ≤ pages * size) {answers : Nat → List α}
    (h : ∀ k, Answer le rows (answers k)) :
    ((List.range pages).flatMap fun k => pageSlice size k (answers k)).Perm rows := by
  refine (List.perm_ext_iff_of_nodup ?_ hrows).2 fun a => ?_
  · refine List.nodup_flatMap.2 ⟨fun k _ => nodup_pageSlice ((h k).perm.nodup_iff.2 hrows), ?_⟩
    refine List.nodup_range.imp fun {k k'} hne a ha ha' => hne ?_
    exact ((mem_pageSlice_iff hsize hties (h k)).1 ha).2.symm.trans
      ((mem_pageSlice_iff hsize hties (h k')).1 ha').2
  · rw [List.mem_flatMap]
    constructor
    · rintro ⟨k, -, ha⟩
      exact ((mem_pageSlice_iff hsize hties (h k)).1 ha).1
    · intro ha
      refine ⟨firstPlace le rows a / size, List.mem_range.2 ?_,
        (mem_pageSlice_iff hsize hties (h _)).2 ⟨ha, rfl⟩⟩
      rw [Nat.div_lt_iff_lt_mul hsize]
      exact (firstPlace_lt ha).trans_le hpages

theorem answer_orderBy (rows : List α) : Answer le rows (orderBy le rows) :=
  ⟨orderBy_perm le rows, List.pairwise_insertionSort le rows⟩

omit [IsTrans α le] [Std.Total le] in
/-- Rows that come in order are left as they are. -/
theorem Answer.orderBy_eq {l : List α} (h : Answer le rows l) : orderBy le l = l :=
  h.ordered.insertionSort_eq

omit [DecidableRel le] [IsTrans α le] [Std.Total le] in
/-- Two neighbours that cannot be told apart may change places. -/
theorem Answer.swap (h : Answer le rows (front ++ a :: b :: back)) (hba : le b a) :
    Answer le rows (front ++ b :: a :: back) where
  perm := (List.Perm.append_left front (.swap a b back)).trans h.perm
  ordered := by
    obtain ⟨hfront, hrest, hcross⟩ := List.pairwise_append.1 h.ordered
    obtain ⟨ha, hrest⟩ := List.pairwise_cons.1 hrest
    obtain ⟨hb, hback⟩ := List.pairwise_cons.1 hrest
    refine List.pairwise_append.2 ⟨hfront, ?_, fun c hc d hd => hcross c hc d ?_⟩
    · refine List.pairwise_cons.2 ⟨fun c hc => ?_, List.pairwise_cons.2 ⟨fun c hc => ?_, hback⟩⟩
      · rcases List.mem_cons.1 hc with rfl | hc
        · exact hba
        · exact hb c hc
      · exact ha c (List.mem_cons_of_mem b hc)
    · exact ((List.Perm.swap a b back).mem_iff).1 hd

/-- Otherwise two answers may show a row on two pages. -/
theorem tiesOnOnePage_of_pages_perm (hrows : rows.Nodup) (hsize : 0 < size) {pages : Nat}
    (hpages : rows.length ≤ pages * size)
    (h : ∀ answers : Nat → List α, (∀ k, Answer le rows (answers k)) →
      ((List.range pages).flatMap fun k => pageSlice size k (answers k)).Perm rows) :
    TiesOnOnePage le size rows := by
  intro a ha
  by_contra hne
  have hl : Answer le rows (orderBy le rows) := answer_orderBy rows
  generalize orderBy le rows = l at hl
  obtain ⟨before, after, hla⟩ := List.append_of_mem (hl.perm.mem_iff.2 ha)
  have hfirst := (hla ▸ hl).places.1
  have hlast := (hla ▸ hl).place_le_lastPlace
  have hlt : firstPlace le rows a / size < lastPlace le rows a / size :=
    lt_of_le_of_ne (Nat.div_le_div_right (hfirst.trans hlast)) hne
  generalize hk : lastPlace le rows a / size = k at hlt
  -- the boundary before page `k` is between two places that are open to `a`
  have hlow : firstPlace le rows a < k * size := (Nat.div_lt_iff_lt_mul hsize).1 hlt
  have hhigh : k * size ≤ lastPlace le rows a := hk ▸ Nat.div_mul_le_self _ _
  have hbound : lastPlace le rows a < l.length := by
    have hcount := List.countP_le_length (p := fun b => decide (le b a)) (l := rows)
    have hpos : firstPlace le rows a < rows.length := firstPlace_lt ha
    rw [hl.perm.length_eq]
    unfold lastPlace
    omega
  obtain ⟨front, y, z, back, rfl, hlength⟩ :=
    exists_neighbours (l := l) (n := k * size - 1) (by omega)
  have hy := hl.tied ha (by omega) (by omega)
  have hl' : Answer le rows ((front ++ [y]) ++ z :: back) := by simpa using hl
  have hz := hl'.tied ha (by simp; omega) (by simp; omega)
  have hswap := hl.swap (IsTrans.trans _ _ _ hz.2 hy.1)
  have hperm := h (fun j => if j = k then front ++ z :: y :: back else front ++ y :: z :: back) (by
    intro j
    by_cases hj : j = k
    · simpa [hj] using hswap
    · simpa [hj] using hl)
  have hdisjoint := (List.nodup_flatMap.1 (hperm.nodup_iff.2 hrows)).2
  have hpos : 0 < k := Nat.pos_of_ne_zero fun hzero => by simp [hzero] at hlow
  have hlt : k < pages := by
    have hle : k * size < pages * size := by
      rw [hl.perm.length_eq] at hbound
      omega
    exact Nat.lt_of_mul_lt_mul_right hle
  have hpair := List.pairwise_iff_getElem.1 hdisjoint (k - 1) k (by simp; omega) (by simpa) (by omega)
  simp only [List.getElem_range, Function.onFun, if_true] at hpair
  rw [if_neg (by omega)] at hpair
  refine hpair ((mem_pageSlice hsize).2 ⟨front, z :: back, rfl, ?_⟩)
    ((mem_pageSlice hsize).2 ⟨front ++ [z], back, by simp, ?_⟩)
  · refine Nat.div_eq_of_lt_le ?_ ?_
    · rw [Nat.sub_mul]
      omega
    · rw [Nat.sub_add_cancel hpos]
      omega
  · rw [List.length_append, List.length_singleton, hlength, Nat.sub_add_cancel (by omega)]
    exact Nat.mul_div_cancel k hsize

end

end MovieApi.Sql
