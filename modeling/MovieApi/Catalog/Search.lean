import MovieApi.Sql.Like
import MovieApi.TelegramBot.Text

/-!
# Searching the catalogue

`apply_catalog_search` and `apply_catalog_genre`.  Both make patterns of what the
visitor has typed; the genre is escaped first, the search term is not.
-/

namespace MovieApi.Catalog

open Sql

/-- The columns of a movie or a series that are searched. -/
structure SearchColumns where
  title : String
  titleKm : Option String
  description : Option String
  genres : List String
deriving DecidableEq, Repr

/-- What is left to the database and to `re`: the case of characters, `\\w` or Khmer, and
`@@` between a document and a query. -/
structure TextSearch where
  folding : Folding
  isWord : Char → Bool
  matchesQuery : String → String → Bool

/-- `search.strip()` where something is left. -/
def searchTerm (search : Option String) : Option (List Char) :=
  (search.map fun text => TelegramBot.strip text.toList).filter fun term => decide (term ≠ [])

/-- `prefix_tsquery`; cutting at each character that is no word keeps the same words. -/
def prefixTsquery (isWord : Char → Bool) (term : List Char) : Option String :=
  match (term.splitOnP fun c => !isWord c).filter fun word => decide (word ≠ []) with
  | [] => none
  | parts => some (" & ".intercalate (parts.map fun part => String.ofList part ++ ":*"))

/-- `search_vector` before it is cut into lexemes. -/
def SearchColumns.document (row : SearchColumns) : String :=
  row.title ++ " " ++ row.titleKm.getD "" ++ " " ++ row.description.getD ""

/-- `f"%{term}%"`. -/
def searchPattern (term : List Char) : List Char := '%' :: (term ++ ['%'])

namespace TextSearch

variable (db : TextSearch)

/-- The clause on one column; `NULL` matches nothing. -/
def columnClause (term : List Char) (column : Option String) : Bool :=
  column.any fun text => ilike db.folding (searchPattern term) text.toList

def queryClause (term : List Char) (row : SearchColumns) : Bool :=
  (prefixTsquery db.isWord term).any fun query => db.matchesQuery row.document query

/-- The clause on the title; without a term there is no clause. -/
def titleClause (search : Option String) (row : SearchColumns) : Bool :=
  (searchTerm search).all fun term => db.columnClause term (some row.title)

def applyCatalogSearch (search : Option String) (row : SearchColumns) : Bool :=
  (searchTerm search).all fun term =>
    db.queryClause term row || db.columnClause term (some row.title) ||
      db.columnClause term row.titleKm || db.columnClause term row.description ||
        db.columnClause term (some (" ".intercalate row.genres))

/-- The first genre against the escaped label. -/
def applyCatalogGenre (genre : Option String) (row : SearchColumns) : Bool :=
  (searchTerm genre).all fun label =>
    row.genres.head?.any fun first => ilike db.folding (likeEscape label) first.toList

/-! ## What is found -/

variable {db}

theorem searchTerm_eq_none {search : String} (h : TelegramBot.strip search.toList = []) :
    searchTerm (some search) = none := by
  simp [searchTerm, Option.filter, h]

theorem searchTerm_eq_some {search : String} (h : TelegramBot.strip search.toList ≠ []) :
    searchTerm (some search) = some (TelegramBot.strip search.toList) := by
  simp [searchTerm, Option.filter, h]

/-- The genre is compared as it is typed, ignoring case. -/
theorem applyCatalogGenre_iff {genre : String} {row : SearchColumns} :
    db.applyCatalogGenre (some genre) row = true ↔
      TelegramBot.strip genre.toList = [] ∨ ∃ first ∈ row.genres.head?,
        first.toList.map db.folding.lower =
          (TelegramBot.strip genre.toList).map db.folding.lower := by
  unfold applyCatalogGenre
  by_cases h : TelegramBot.strip genre.toList = []
  · simp [searchTerm_eq_none h, h]
  · rw [searchTerm_eq_some h, Option.all_some, Option.any_eq_true]
    simp only [ilike_likeEscape, h, false_or]
    rfl

/-- The clause on the title is plain search, ignoring case, for the terms that have none of
`%`, `_` and the backslash, and for no others. -/
theorem titleClause_literal_iff (db : TextSearch) (search : String) :
    (∀ row, db.titleClause (some search) row = true ↔
      db.folding.Contains row.title.toList (TelegramBot.strip search.toList)) ↔
      ∀ c ∈ TelegramBot.strip search.toList, likeSpecial c = false := by
  rw [← ilike_surrounded_iff db.folding]
  unfold titleClause
  by_cases h : TelegramBot.strip search.toList = []
  · rw [searchTerm_eq_none h, h]
    constructor
    · intro _ text
      exact (ilike_surrounded_iff db.folding []).2 (fun c hc => by cases hc) text
    · intro _ row
      simp [Folding.Contains]
  · rw [searchTerm_eq_some h]
    constructor
    · intro hrow text
      have hclause := hrow ⟨String.ofList text, none, none, []⟩
      rw [String.toList_ofList] at hclause
      rw [← hclause]
      simp [columnClause, searchPattern]
    · intro htext row
      rw [← htext]
      rfl

/-- A search for `100%` finds a title without a percent sign. -/
theorem percent_finds_more :
    ¬ ∀ row, TextSearch.titleClause ⟨.ascii, Char.isAlphanum, fun _ _ => false⟩ (some "100%")
      row = true ↔
        Folding.ascii.Contains row.title.toList (TelegramBot.strip "100%".toList) := by
  intro h
  have hfound := (h ⟨"1001 Nights", none, none, []⟩).1 (by decide +kernel)
  have habsent : ¬ Folding.ascii.Contains "1001 Nights".toList
      (TelegramBot.strip "100%".toList) := by
    unfold Folding.Contains
    decide +kernel
  exact habsent hfound

end TextSearch

end MovieApi.Catalog
