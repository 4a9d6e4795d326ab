import MovieApi.Catalog.Search
import MovieApi.Text.Runs

/-!
# Search terms as queries

`prefix_tsquery` makes a query of PostgreSQL's text search of whatever the visitor has
typed: the runs of word characters and Khmer letters, each as a prefix, all required. No
operator and no quote gets into it.
-/

namespace MovieApi.Catalog

open TelegramBot (isSpace strip stripLeft)
open Text (words MaximalRuns)

/-- `[a-zA-Z0-9_]`. -/
def asciiWord (c : Char) : Bool :=
  let n := c.toNat
  (48 ≤ n && n ≤ 57) || (65 ≤ n && n ≤ 90) || n == 95 || (97 ≤ n && n ≤ 122)

/-- `\w` of `re` beyond ASCII: letters, digits and numbers, and no white space. -/
structure WordChars where
  beyondAscii : Char → Bool
  not_space : ∀ c, beyondAscii c = true → isSpace c = false

/-- A character that `_TSQUERY_TOKEN_RE` leaves alone. -/
def WordChars.isToken (w : WordChars) (c : Char) : Bool :=
  (if c.toNat < 128 then asciiWord c else w.beyondAscii c) ||
    (0x1780 ≤ c.toNat && c.toNat ≤ 0x17ff)

/-- `_TSQUERY_TOKEN_RE.sub(" ", …)`: a blank for every run of other characters; the flag
says that the text goes on within one. -/
def substitute (token : Char → Bool) : Bool → List Char → List Char
  | _, [] => []
  | within, c :: rest =>
      if token c then c :: substitute token false rest
      else if within then substitute token true rest
      else ' ' :: substitute token true rest

/-- `" & ".join(f"{part}:*" …)`. -/
def joinPrefixes (parts : List (List Char)) : String :=
  " & ".intercalate (parts.map fun part => String.ofList part ++ ":*")

/-- `prefix_tsquery`. -/
def WordChars.prefixTsquery (w : WordChars) (term : String) : Option String :=
  let cleaned := strip (substitute w.isToken false term.toList)
  if cleaned = [] then none
  else
    let parts := words isSpace cleaned
    if parts = [] then none else some (joinPrefixes parts)

/-- The operators and the quotes of a query. -/
def tsquerySpecial : List Char :=
  ['&', '|', '!', '(', ')', ':', '*', '<', '>', '-', '\'', '\\', '"']

/-! ## Tokens -/

variable {w : WordChars} {token : Char → Bool} {text : List Char} {runs : List (List Char)}

section

-- Their equations are derived here, once, and not by every proof below that unfolds them.
attribute [local simp] substitute tsquerySpecial asciiWord

end

theorem isToken_not_space {c : Char} (h : w.isToken c = true) : isSpace c = false := by
  unfold WordChars.isToken at h
  cases Bool.or_eq_true_iff.1 h with
  | inl hword =>
      split at hword
      · simp only [asciiWord, Bool.or_eq_true, Bool.and_eq_true, decide_eq_true_eq,
          beq_iff_eq] at hword
        simp only [isSpace, Bool.or_eq_false_iff, Bool.and_eq_false_iff, decide_eq_false_iff_not,
          beq_eq_false_iff_ne]
        omega
      · exact w.not_space c hword
  | inr hkhmer =>
      simp only [Bool.and_eq_true, decide_eq_true_eq] at hkhmer
      simp only [isSpace, Bool.or_eq_false_iff, Bool.and_eq_false_iff, decide_eq_false_iff_not,
        beq_eq_false_iff_ne]
      omega

theorem isToken_of_special {c : Char} (h : c ∈ tsquerySpecial) : w.isToken c = false := by
  have hplain : ∀ c ∈ tsquerySpecial, c.toNat < 128 ∧ asciiWord c = false := by
    simp [tsquerySpecial, asciiWord]
  obtain ⟨hascii, hword⟩ := hplain c h
  have hkhmer : ¬ 0x1780 ≤ c.toNat := by omega
  simp [WordChars.isToken, hascii, hword, hkhmer]

theorem not_special_of_isToken {c : Char} (h : w.isToken c = true) : c ∉ tsquerySpecial := by
  intro hspecial
  rw [isToken_of_special hspecial] at h
  cases h

/-! ## The parts -/

theorem words_stripLeft (text : List Char) : words isSpace (stripLeft text) = words isSpace text := by
  have hgap : ∀ c ∈ text.takeWhile isSpace, isSpace c = true := fun _ hc =>
    List.mem_takeWhile_imp hc
  calc
    words isSpace (stripLeft text)
        = words isSpace (text.takeWhile isSpace ++ text.dropWhile isSpace) :=
          (Text.words_gap_append hgap _).symm
    _ = words isSpace text := by rw [List.takeWhile_append_dropWhile]

theorem words_strip (text : List Char) : words isSpace (strip text) = words isSpace text := by
  have hgap : ∀ c ∈ ((stripLeft text).reverse.takeWhile isSpace).reverse, isSpace c = true :=
    fun _ hc => List.mem_takeWhile_imp (List.mem_reverse.1 hc)
  calc
    words isSpace (strip text)
        = words isSpace (strip text ++ ((stripLeft text).reverse.takeWhile isSpace).reverse) :=
          (Text.words_append_gap hgap _).symm
    _ = words isSpace (stripLeft text) := by
        rw [strip, stripLeft, ← List.reverse_append, List.takeWhile_append_dropWhile,
          List.reverse_reverse]
    _ = words isSpace text := words_stripLeft text

theorem substitute_gap_append {gap : List Char} (h : ∀ c ∈ gap, token c = false)
    (rest : List Char) : substitute token true (gap ++ rest) = substitute token true rest := by
  induction gap with
  | nil => rfl
  | cons c gap ih =>
      rw [List.cons_append, substitute, if_neg (by simp [h c List.mem_cons_self]), if_pos rfl]
      exact ih fun c' hc' => h c' (List.mem_cons_of_mem c hc')

theorem substitute_word_append {word : List Char} (hne : word ≠ [])
    (h : ∀ c ∈ word, token c = true) (within : Bool) (rest : List Char) :
    substitute token within (word ++ rest) = word ++ substitute token false rest := by
  induction word generalizing within with
  | nil => exact absurd rfl hne
  | cons c word ih =>
      rw [List.cons_append, substitute, if_pos (h c List.mem_cons_self)]
      cases word with
      | nil => rfl
      | cons d word =>
          rw [ih (List.cons_ne_nil d word) (fun c' hc' => h c' (List.mem_cons_of_mem c hc'))]
          rfl

/-- A blank more or less in front makes no difference to the words. -/
theorem words_substitute_flag (text : List Char) :
    words isSpace (substitute token false text) = words isSpace (substitute token true text) := by
  cases text with
  | nil => rfl
  | cons c rest =>
      rw [substitute, substitute]
      cases hc : token c with
      | true => rfl
      | false => exact Text.words_cons rfl _

/-- What is left of a text falls into its maximal runs. -/
theorem words_substitute (hspace : ∀ c, token c = true → isSpace c = false)
    (h : MaximalRuns token text runs) : words isSpace (substitute token true text) = runs := by
  induction h with
  | @done gap hgap =>
      have hall := substitute_gap_append hgap []
      rw [List.append_nil] at hall
      rw [hall]
      exact Text.words_nil
  | @run gap word rest runs hgap hne hword hrest _ ih =>
      rw [substitute_gap_append hgap, substitute_word_append hne hword,
        Text.words_word_append hne (fun c hc => hspace c (hword c hc)), words_substitute_flag, ih]
      intro c hc
      cases rest with
      | nil => cases hc
      | cons d rest =>
          have hd : token d = false := hrest d rfl
          rw [substitute, if_neg (by simp [hd]), if_neg (by simp)] at hc
          obtain rfl := Option.some.inj hc
          rfl

theorem words_cleaned (h : MaximalRuns w.isToken text runs) :
    words isSpace (strip (substitute w.isToken false text)) = runs := by
  rw [words_strip, words_substitute_flag]
  exact words_substitute (fun _ => isToken_not_space) h

/-! ## The query -/

theorem prefixTsquery_eq {term : String} (h : MaximalRuns w.isToken term.toList runs) :
    w.prefixTsquery term = if runs = [] then none else some (joinPrefixes runs) := by
  have hwords := words_cleaned h
  unfold WordChars.prefixTsquery
  by_cases hcleaned : strip (substitute w.isToken false term.toList) = []
  · rw [hcleaned, Text.words_nil] at hwords
    simp [hcleaned, ← hwords]
  · simp only [hcleaned, hwords, if_false]

/-- The query the catalogue is searched with. -/
theorem prefixTsquery_searched (term : String) :
    w.prefixTsquery term = Catalog.prefixTsquery w.isToken term.toList := by
  obtain ⟨runs, h⟩ := MaximalRuns.exists_runs w.isToken term.toList
  have hwords : (term.toList.splitOnP fun c => !w.isToken c).filter
      (fun word => decide (word ≠ [])) = runs := by
    rw [← h.words_eq]
    refine List.filter_congr fun word _ => ?_
    cases word <;> rfl
  rw [prefixTsquery_eq h, Catalog.prefixTsquery, hwords]
  cases runs with
  | nil => rfl
  | cons run runs => rfl

/-- Whatever is typed, the query is made of exactly its maximal runs, each without white
space, operators and quotes; without a run there is no query. -/
theorem prefixTsquery_valid (w : WordChars) (term : String) :
    ∃ runs, (∀ runs', MaximalRuns w.isToken term.toList runs' ↔ runs' = runs) ∧
      (∀ run ∈ runs, run ≠ [] ∧
        ∀ c ∈ run, w.isToken c = true ∧ isSpace c = false ∧ c ∉ tsquerySpecial) ∧
      w.prefixTsquery term =
        if runs = [] then none
        else some (" & ".intercalate (runs.map fun run => String.ofList run ++ ":*")) := by
  obtain ⟨runs, h⟩ := MaximalRuns.exists_runs w.isToken term.toList
  refine ⟨runs, fun runs' => ?_, fun run hrun => ⟨h.run_ne_nil run hrun, fun c hc => ?_⟩,
    prefixTsquery_eq h⟩
  · rw [Text.maximalRuns_iff, h.words_eq]
  · have hc := h.token_of_mem run hrun c hc
    exact ⟨hc, isToken_not_space hc, not_special_of_isToken hc⟩

/-- ASCII words alone. -/
def WordChars.ascii : WordChars := ⟨fun _ => false, fun _ h => by cases h⟩

example : WordChars.ascii.prefixTsquery "  lock-out!! (ភព) " = some "lock:* & out:* & ភព:*" := by
  decide +kernel

end MovieApi.Catalog
