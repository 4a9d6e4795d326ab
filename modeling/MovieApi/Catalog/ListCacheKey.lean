import Mathlib
import MovieApi.Text.Delimited
import MovieApi.Catalog.ResponseCache

/-!
# Cache keys of the catalog lists

`list_published_movies` and `list_published_series` build their cache key by
writing the caller's `search` and `genre` between fixed labels, unescaped, with
`None` written as the text `None`.  This module determines which requests share
a key, and what sharing a key does to the answers.
-/

namespace MovieApi.Catalog

open Text

/-! ## Keys as the code writes them -/

structure MovieListQuery where
  page : Int
  pageSize : Int
  search : Option String
  genre : Option String
  free : Option Bool
deriving DecidableEq, Repr

structure SeriesListQuery where
  page : Int
  pageSize : Int
  search : Option String
  genre : Option String
  free : Option Bool
  short : Option Bool
deriving DecidableEq, Repr

/-- `f"{value}"` of an optional text. -/
def formatText : Option String → String
  | none => "None"
  | some s => s

/-- `f"{value}"` of an optional flag. -/
def formatFlag : Option Bool → String
  | none => "None"
  | some true => "True"
  | some false => "False"

def movieCacheKey (q : MovieListQuery) : String :=
  "movies:search=" ++ formatText q.search ++ ":genre=" ++ formatText q.genre ++
    ":free=" ++ formatFlag q.free ++ ":page=" ++ toString q.page ++
    ":page_size=" ++ toString q.pageSize

def seriesCacheKey (q : SeriesListQuery) : String :=
  "series:search=" ++ formatText q.search ++ ":genre=" ++ formatText q.genre ++
    ":free=" ++ formatFlag q.free ++ ":short=" ++ formatFlag q.short ++
    ":page=" ++ toString q.page ++ ":page_size=" ++ toString q.pageSize

/-! ## What a key determines -/

theorem formatFlag_injective : Function.Injective formatFlag := by
  intro a b h
  rcases a with _ | _ | _ <;> rcases b with _ | _ | _ <;> first | rfl | (revert h; decide)

theorem colon_notMem_formatFlag (b : Option Bool) : ':' ∉ (formatFlag b).toList := by
  rcases b with _ | _ | _ <;> decide

theorem colon_notMem_natRepr (n : Nat) : ':' ∉ n.repr.toList := by
  rw [Nat.toList_repr]
  intro h
  have hdigit := Nat.isDigit_of_mem_toDigits (by decide) (by decide) h
  exact absurd hdigit (by decide)

theorem colon_notMem_toString (n : Int) : ':' ∉ (toString n).toList := by
  rw [Int.toString_eq_repr, Int.repr_eq_if]
  split
  · exact colon_notMem_natRepr _
  · rw [String.toList_append, List.mem_append]
    exact not_or.mpr ⟨by decide, colon_notMem_natRepr _⟩

theorem toString_int_injective : Function.Injective (toString : Int → String) := by
  intro a b h
  simpa [Int.toString_eq_repr, Int.repr_inj] using h

/-- The last `:label=value` field of a key, and the text before it. -/
theorem field_inj (label : String) (tail : List Char) {front front' value value' : List Char}
    (hlabel : label.toList = ':' :: tail) (htail : ':' ∉ tail) (hvalue : ':' ∉ value)
    (hvalue' : ':' ∉ value')
    (h : front ++ label.toList ++ value = front' ++ label.toList ++ value') :
    front = front' ∧ value = value' := by
  rw [hlabel, List.append_assoc, List.append_assoc] at h
  obtain ⟨hfront, hback⟩ := append_mark_inj (show ':' ∉ tail ++ value by simp [htail, hvalue])
    (show ':' ∉ tail ++ value' by simp [htail, hvalue']) h
  exact ⟨hfront, List.append_cancel_left hback⟩

/-- The part of a key written from the caller's own text. -/
def textPart (search genre : Option String) : List Char :=
  (formatText search).toList ++ ":genre=".toList ++ (formatText genre).toList

theorem page_fields_inj {front front' : List Char} {page page' pageSize pageSize' : Int}
    (h : front ++ ":page=".toList ++ (toString page).toList ++ ":page_size=".toList ++
        (toString pageSize).toList =
      front' ++ ":page=".toList ++ (toString page').toList ++ ":page_size=".toList ++
        (toString pageSize').toList) :
    front = front' ∧ page = page' ∧ pageSize = pageSize' := by
  obtain ⟨hfront, hsize⟩ := field_inj ":page_size=" "page_size=".toList rfl (by decide)
    (colon_notMem_toString _) (colon_notMem_toString _) h
  obtain ⟨hfront, hpage⟩ := field_inj ":page=" "page=".toList rfl (by decide)
    (colon_notMem_toString _) (colon_notMem_toString _) hfront
  exact ⟨hfront, toString_int_injective (String.toList_inj.mp hpage),
    toString_int_injective (String.toList_inj.mp hsize)⟩

theorem flag_field_inj (label : String) (tail : List Char) {front front' : List Char}
    {flag flag' : Option Bool} (hlabel : label.toList = ':' :: tail) (htail : ':' ∉ tail)
    (h : front ++ label.toList ++ (formatFlag flag).toList =
      front' ++ label.toList ++ (formatFlag flag').toList) :
    front = front' ∧ flag = flag' := by
  obtain ⟨hfront, hflag⟩ := field_inj label tail hlabel htail (colon_notMem_formatFlag _)
    (colon_notMem_formatFlag _) h
  exact ⟨hfront, formatFlag_injective (String.toList_inj.mp hflag)⟩

theorem movieCacheKey_toList (q : MovieListQuery) :
    (movieCacheKey q).toList = "movies:search=".toList ++ textPart q.search q.genre ++
      ":free=".toList ++ (formatFlag q.free).toList ++ ":page=".toList ++
      (toString q.page).toList ++ ":page_size=".toList ++ (toString q.pageSize).toList := by
  unfold movieCacheKey textPart
  simp only [String.toList_append, List.append_assoc]

theorem seriesCacheKey_toList (q : SeriesListQuery) :
    (seriesCacheKey q).toList = "series:search=".toList ++ textPart q.search q.genre ++
      ":free=".toList ++ (formatFlag q.free).toList ++ ":short=".toList ++
      (formatFlag q.short).toList ++ ":page=".toList ++
      (toString q.page).toList ++ ":page_size=".toList ++ (toString q.pageSize).toList := by
  unfold seriesCacheKey textPart
  simp only [String.toList_append, List.append_assoc]

theorem movieCacheKey_eq_iff (p q : MovieListQuery) :
    movieCacheKey p = movieCacheKey q ↔
      p.page = q.page ∧ p.pageSize = q.pageSize ∧ p.free = q.free ∧
        textPart p.search p.genre = textPart q.search q.genre := by
  rw [← String.toList_inj, movieCacheKey_toList, movieCacheKey_toList]
  constructor
  · intro h
    obtain ⟨hfront, hpage, hsize⟩ := page_fields_inj h
    obtain ⟨hfront, hfree⟩ := flag_field_inj ":free=" "free=".toList rfl (by decide) hfront
    exact ⟨hpage, hsize, hfree, List.append_cancel_left hfront⟩
  · rintro ⟨hpage, hsize, hfree, htext⟩
    rw [hpage, hsize, hfree, htext]

theorem seriesCacheKey_eq_iff (p q : SeriesListQuery) :
    seriesCacheKey p = seriesCacheKey q ↔
      p.page = q.page ∧ p.pageSize = q.pageSize ∧ p.free = q.free ∧ p.short = q.short ∧
        textPart p.search p.genre = textPart q.search q.genre := by
  rw [← String.toList_inj, seriesCacheKey_toList, seriesCacheKey_toList]
  constructor
  · intro h
    obtain ⟨hfront, hpage, hsize⟩ := page_fields_inj h
    obtain ⟨hfront, hshort⟩ := flag_field_inj ":short=" "short=".toList rfl (by decide) hfront
    obtain ⟨hfront, hfree⟩ := flag_field_inj ":free=" "free=".toList rfl (by decide) hfront
    exact ⟨hpage, hsize, hfree, hshort, List.append_cancel_left hfront⟩
  · rintro ⟨hpage, hsize, hfree, hshort, htext⟩
    rw [hpage, hsize, hfree, hshort, htext]

/-! ## Requests that share a key -/

/-- Two optional texts are written the same way. -/
def SameText (a b : Option String) : Prop :=
  a = b ∨ (a = none ∧ b = some "None") ∨ (a = some "None" ∧ b = none)

theorem formatText_eq_iff (a b : Option String) : formatText a = formatText b ↔ SameText a b := by
  unfold SameText
  cases a <;> cases b <;> simp [formatText, eq_comm]

/-- The second request's search swallows the `:genre=` label of the first, and
the first request's genre swallows that of the second. -/
def TextShift (search genre search' genre' : Option String) : Prop :=
  ∃ middle : String, formatText search' = formatText search ++ ":genre=" ++ middle ∧
    formatText genre = middle ++ ":genre=" ++ formatText genre'

theorem shifted_iff_textShift (search genre search' genre' : Option String) :
    Shifted ":genre=".toList (formatText search).toList (formatText genre).toList
        (formatText search').toList (formatText genre').toList ↔
      TextShift search genre search' genre' := by
  constructor
  · rintro ⟨middle, hsearch, hgenre⟩
    refine ⟨String.ofList middle, ?_, ?_⟩ <;> apply String.toList_inj.mp
    · simpa only [String.toList_append, String.toList_ofList] using hsearch
    · simpa only [String.toList_append, String.toList_ofList] using hgenre
  · rintro ⟨middle, hsearch, hgenre⟩
    refine ⟨middle.toList, ?_, ?_⟩
    · rw [hsearch, String.toList_append, String.toList_append]
    · rw [hgenre, String.toList_append, String.toList_append]

/-- The two pairs of texts are written as one text, read in two ways. -/
def TextsMeet (search genre search' genre' : Option String) : Prop :=
  (SameText search search' ∧ SameText genre genre') ∨
    TextShift search genre search' genre' ∨ TextShift search' genre' search genre

theorem genreLabel_unbordered : Unbordered ":genre=".toList :=
  ⟨':', "genre=".toList, rfl, by decide⟩

theorem textPart_eq_iff (search genre search' genre' : Option String) :
    textPart search genre = textPart search' genre' ↔ TextsMeet search genre search' genre' := by
  unfold textPart TextsMeet
  rw [genreLabel_unbordered.append_eq_iff, shifted_iff_textShift, shifted_iff_textShift,
    String.toList_inj, String.toList_inj, formatText_eq_iff, formatText_eq_iff]

/-- A request to either list endpoint. -/
inductive ListRequest where
  | movies (q : MovieListQuery)
  | series (q : SeriesListQuery)
deriving DecidableEq, Repr

def ListRequest.cacheKey : ListRequest → String
  | .movies q => movieCacheKey q
  | .series q => seriesCacheKey q

/-- Different requests to one endpoint that agree in everything but the texts,
and whose texts are written as one text. -/
def Confusable : ListRequest → ListRequest → Prop
  | .movies p, .movies q =>
      p ≠ q ∧ p.page = q.page ∧ p.pageSize = q.pageSize ∧ p.free = q.free ∧
        TextsMeet p.search p.genre q.search q.genre
  | .series p, .series q =>
      p ≠ q ∧ p.page = q.page ∧ p.pageSize = q.pageSize ∧ p.free = q.free ∧
        p.short = q.short ∧ TextsMeet p.search p.genre q.search q.genre
  | _, _ => False

theorem movieCacheKey_ne_seriesCacheKey (p : MovieListQuery) (q : SeriesListQuery) :
    movieCacheKey p ≠ seriesCacheKey q := by
  intro h
  have hchars := congrArg String.toList h
  rw [movieCacheKey_toList, seriesCacheKey_toList] at hchars
  have hhead := congrArg List.head? hchars
  revert hhead
  simp

theorem cacheKey_eq_iff_confusable (p q : ListRequest) :
    (p.cacheKey = q.cacheKey ∧ p ≠ q) ↔ Confusable p q := by
  cases p with
  | movies p =>
      cases q with
      | movies q =>
          simp only [ListRequest.cacheKey, Confusable, movieCacheKey_eq_iff, textPart_eq_iff,
            ne_eq, ListRequest.movies.injEq]
          tauto
      | series q =>
          simp [ListRequest.cacheKey, Confusable, movieCacheKey_ne_seriesCacheKey]
  | series p =>
      cases q with
      | movies q =>
          simp [ListRequest.cacheKey, Confusable, (movieCacheKey_ne_seriesCacheKey q p).symm]
      | series q =>
          simp only [ListRequest.cacheKey, Confusable, seriesCacheKey_eq_iff, textPart_eq_iff,
            ne_eq, ListRequest.series.injEq]
          tauto

/-! ## Answers from the cache -/

variable {V : Type}

/-- The two cache calls of a list endpoint: the look-up it starts with and,
after a miss, the store of the response it computed.  Calls of concurrent
requests interleave in any order. -/
inductive CacheCall (V : Type) where
  | lookUp (worker : Nat) (request : ListRequest) (now : Int) (redisUp : Bool)
  | store (worker : Nat) (request : ListRequest) (response : V) (now : Int) (redisUp : Bool)

def CacheCall.request : CacheCall V → ListRequest
  | .lookUp _ request _ _ => request
  | .store _ request _ _ _ => request

/-- One call: the answer it serves from the cache, if any, and the caches after. -/
def CacheCall.run (c : Caches V) : CacheCall V → Option (ListRequest × V) × Caches V
  | .lookUp worker request now redisUp =>
      let (hit, c) := cacheGetAsync c worker request.cacheKey now redisUp
      (hit.map (fun response => (request, response)), c)
  | .store worker request response now redisUp =>
      (none, cacheSetAsync c worker request.cacheKey response catalogTtlSeconds now redisUp)

/-- Answers served from the cache over a run of calls. -/
def cachedAnswers (c : Caches V) : List (CacheCall V) → List (ListRequest × V)
  | [] => []
  | call :: calls => (call.run c).1.toList ++ cachedAnswers (call.run c).2 calls

/-- Responses computed over a run of calls, each for its own request. -/
def computed (calls : List (CacheCall V)) : List (ListRequest × V) :=
  calls.filterMap fun
    | .lookUp .. => none
    | .store _ request response _ _ => some (request, response)

/-- A cached value was computed for some request with that key. -/
def ComputedFor (done : List (ListRequest × V)) (key : String) (v : V) : Prop :=
  ∃ request, (request, v) ∈ done ∧ request.cacheKey = key

theorem CacheCall.run_holds {c : Caches V} {done : List (ListRequest × V)}
    (h : c.Holds (ComputedFor done)) (call : CacheCall V) :
    ((call.run c).2).Holds (ComputedFor (done ++ computed [call])) ∧
      ∀ answer ∈ (call.run c).1, ComputedFor done answer.1.cacheKey answer.2 := by
  cases call with
  | lookUp worker request now redisUp =>
      obtain ⟨hcaches, hhit⟩ := h.cacheGetAsync worker request.cacheKey now redisUp
      refine ⟨by simpa [run, computed] using hcaches, ?_⟩
      intro answer hanswer
      obtain ⟨response, hresponse, rfl⟩ := Option.map_eq_some_iff.mp hanswer
      exact hhit response hresponse
  | store worker request response now redisUp =>
      refine ⟨?_, by simp [run]⟩
      have hmore : c.Holds (ComputedFor (done ++ [(request, response)])) :=
        h.mono fun key v ⟨r, hr, hkey⟩ => ⟨r, List.mem_append_left _ hr, hkey⟩
      exact hmore.cacheSetAsync worker ⟨request, by simp, rfl⟩ catalogTtlSeconds now redisUp

/-- Over any run, a cached answer was computed for a request with the same key. -/
theorem cachedAnswers_computedFor (calls : List (CacheCall V)) (c : Caches V)
    (done : List (ListRequest × V)) (h : c.Holds (ComputedFor done)) :
    ∀ answer ∈ cachedAnswers c calls,
      answer.1 ∈ calls.map CacheCall.request ∧
        ComputedFor (done ++ computed calls) answer.1.cacheKey answer.2 := by
  induction calls generalizing c done with
  | nil => simp [cachedAnswers]
  | cons call calls ih =>
      obtain ⟨hcaches, hhit⟩ := call.run_holds h
      have hcomputed : computed (call :: calls) = computed [call] ++ computed calls := by
        rw [← List.singleton_append]
        exact List.filterMap_append
      intro answer hanswer
      rcases List.mem_append.mp hanswer with hnow | hlater
      · have hnow' : answer ∈ (call.run c).1 := by simpa using hnow
        obtain ⟨request, hrequest, hkey⟩ := hhit answer hnow'
        refine ⟨?_, request, List.mem_append_left _ hrequest, hkey⟩
        cases call with
        | lookUp worker request now redisUp =>
            obtain ⟨response, -, rfl⟩ := Option.map_eq_some_iff.mp hnow'
            simp [CacheCall.request]
        | store => simp [CacheCall.run] at hnow'
      · obtain ⟨hmem, hfor⟩ := ih _ _ hcaches answer hlater
        refine ⟨List.mem_cons_of_mem _ hmem, ?_⟩
        rw [hcomputed, ← List.append_assoc]
        exact hfor

/-- Requests `p` and `q` never share an entry: their keys differ unless they
are the same request, and no run of calls for them answers one from a response
computed for the other. -/
structure Separated (p q : ListRequest) : Prop where
  keys : p.cacheKey = q.cacheKey → p = q
  answers : ∀ (V : Type) (calls : List (CacheCall V)),
    (∀ call ∈ calls, call.request = p ∨ call.request = q) →
      ∀ answer ∈ cachedAnswers Caches.empty calls, answer ∈ computed calls

theorem request_of_mem_computed {calls : List (CacheCall V)} {entry : ListRequest × V}
    (h : entry ∈ computed calls) : ∃ call ∈ calls, call.request = entry.1 := by
  obtain ⟨call, hcall, hentry⟩ := List.mem_filterMap.mp h
  refine ⟨call, hcall, ?_⟩
  cases call with
  | lookUp => simp at hentry
  | store => cases hentry; rfl

/-- Two list requests are kept apart by the cache exactly when they are not
confusable. -/
theorem listRequests_separated_iff (p q : ListRequest) : Separated p q ↔ ¬ Confusable p q := by
  constructor
  · intro h hconfusable
    obtain ⟨hkey, hne⟩ := (cacheKey_eq_iff_confusable p q).mpr hconfusable
    exact hne (h.keys hkey)
  · intro h
    have hkeys : p.cacheKey = q.cacheKey → p = q := by
      intro hkey
      by_contra hne
      exact h ((cacheKey_eq_iff_confusable p q).mp ⟨hkey, hne⟩)
    refine ⟨hkeys, fun V calls hcalls answer hanswer => ?_⟩
    obtain ⟨hmem, request, hrequest, hkey⟩ :=
      cachedAnswers_computedFor calls Caches.empty [] Caches.Holds.empty answer hanswer
    rw [List.nil_append] at hrequest
    obtain ⟨call, hcall, hcallr⟩ := request_of_mem_computed hrequest
    obtain ⟨call', hcall', hcallr'⟩ := List.mem_map.mp hmem
    have hrequest' : request = p ∨ request = q := by
      rw [← show call.request = request from hcallr]
      exact hcalls call hcall
    have hanswer' : answer.1 = p ∨ answer.1 = q := by
      rw [← hcallr']
      exact hcalls call' hcall'
    have hsame : request = answer.1 := by
      rcases hrequest' with rfl | rfl
      · rcases hanswer' with h2 | h2
        · exact h2.symm
        · rw [h2] at hkey ⊢
          exact hkeys hkey
      · rcases hanswer' with h2 | h2
        · rw [h2] at hkey ⊢
          exact (hkeys hkey.symm).symm
        · exact h2.symm
    rw [hsame] at hrequest
    exact hrequest

/-- Searching movies for the word `None`. -/
def searchNone : MovieListQuery := ⟨1, 20, some "None", none, none⟩

/-- Listing movies without a search. -/
def noSearch : MovieListQuery := ⟨1, 20, none, none, none⟩

/-- A search for `None` has the key of no search at all, and is answered from
its cached page. -/
theorem listRequests_not_separated :
    ¬ (∀ p q : MovieListQuery, movieCacheKey p = movieCacheKey q → p = q) ∧
      cachedAnswers Caches.empty
        [.store 0 (.movies noSearch) "the whole catalog" 0 true,
          .lookUp 0 (.movies searchNone) 1 true] =
        [(.movies searchNone, "the whole catalog")] := by
  constructor
  · intro h
    exact absurd (h noSearch searchNone (by decide)) (by decide)
  · decide

end MovieApi.Catalog
