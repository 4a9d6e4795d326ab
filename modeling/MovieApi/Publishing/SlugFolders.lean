import MovieApi.Publishing.MovieUploads

/-!
# The storage folder of a title

`slugify` and `unique_content_slug` make the slug, `r2_keys.py` the keys below
it, and `hls_prefix_for_source_key` reads the slug back from the key of a source
video.  A title without a word character but the underscore has an empty slug,
and its HLS files go to the legacy folder.
-/

namespace MovieApi.Publishing

open TelegramBot (strip stripLeft isSpace)

/-! ## Keys -/

def movieHlsPrefix (slug : String) : String := movieDir slug ++ "/hls"

def episodeHlsPrefix (seriesSlug episodeSlug : String) : String :=
  episodeDir seriesSlug episodeSlug ++ "/hls"

/-- What stands between a front and a back, as a pattern with one group in the
middle matches it. -/
def enclosed (front back key : List Char) : Option (List Char) :=
  let middle := (key.drop front.length).take (key.length - front.length - back.length)
  if key = front ++ middle ++ back then some middle else none

/-- `[^/]+`. -/
def isSegment (text : List Char) : Bool := decide (text ≠ [] ∧ '/' ∉ text)

/-- `([^/]+)/episodes/([^/]+)`. -/
def episodeSegments (text : List Char) : Option (List Char × List Char) :=
  let first := text.takeWhile fun c => decide (c ≠ '/')
  let second := (text.drop first.length).drop "/episodes/".length
  if text = first ++ "/episodes/".toList ++ second ∧ isSegment first ∧ isSegment second then
    some (first, second)
  else none

/-- `hls_prefix_for_source_key`, with the text of the content's id. -/
def hlsPrefixForSourceKey (sourceKey contentId : String) : String :=
  match (enclosed "movies/".toList "/source.mp4".toList sourceKey.toList).filter isSegment with
  | some slug => movieHlsPrefix (String.ofList slug)
  | none =>
      match (enclosed "series/".toList "/source.mp4".toList sourceKey.toList).bind
          episodeSegments with
      | some (seriesSlug, episodeSlug) =>
          episodeHlsPrefix (String.ofList seriesSlug) (String.ofList episodeSlug)
      | none => "hls/" ++ contentId

/-- `hls_master_key_for_source_key`. -/
def hlsMasterKeyForSourceKey (sourceKey contentId : String) : String :=
  hlsPrefixForSourceKey sourceKey contentId ++ "/master.m3u8"

/-- The keys that are built for a movie. -/
inductive MovieKey (slug : String) : String → Prop
  | source : MovieKey slug (movieSourceKey slug)
  | image (stem token contentType : String) :
      MovieKey slug (movieImageKey stem slug token contentType)
  | hls (name : String) : MovieKey slug (movieHlsPrefix slug ++ "/" ++ name)

/-! ## Slugs -/

/-- `unique_series_slug`. -/
def uniqueSeriesSlug (letters : Letters) (base hex : String) (d : Db) : String :=
  let slug := slugify letters base
  if d.series.any fun row => decide (row.slug = slug) then slug ++ "-" ++ hex else slug

/-- `{n:02d}`. -/
def twoDigits (n : ℤ) : String := if 0 ≤ n ∧ n < 10 then "0" ++ toString n else toString n

/-- What `start_episode_upload` makes the slug of an episode from. -/
def episodeBase (seriesSlug : String) (season episode : ℤ) : String :=
  seriesSlug ++ "-s" ++ twoDigits season ++ "e" ++ twoDigits episode

/-- The title has, in lower case, a word character that is no underscore. -/
def Readable (letters : Letters) (title : String) : Prop :=
  ∃ c ∈ (letters.lower title).toList,
    letters.isWord c = true ∧ isSpace c = false ∧ c ≠ '_' ∧ c ≠ '-'

section Slugify

variable {letters : Letters} {text : List Char} {c : Char}

theorem mem_stripLeft (hc : isSpace c = false) : c ∈ stripLeft text ↔ c ∈ text := by
  rw [stripLeft]
  constructor
  · exact fun h => (List.dropWhile_sublist _).mem h
  · intro h
    have hsplit := List.takeWhile_append_dropWhile (p := isSpace) (l := text)
    rw [← hsplit] at h
    rcases List.mem_append.1 h with hfront | hback
    · have hspace := List.mem_takeWhile_imp hfront
      rw [hc] at hspace
      cases hspace
    · exact hback

theorem mem_strip (hc : isSpace c = false) : c ∈ strip text ↔ c ∈ text := by
  rw [strip, List.mem_reverse, mem_stripLeft hc, List.mem_reverse, mem_stripLeft hc]

/-- Runs become dashes, everything else stays. -/
theorem mem_dashRuns {isRun : Char → Bool} {inRun : Bool} (hc : c ≠ '-') :
    c ∈ dashRuns isRun inRun text ↔ c ∈ text ∧ isRun c = false := by
  induction text generalizing inRun with
  | nil => simp [dashRuns]
  | cons x text ih =>
      cases hrun : isRun x with
      | true =>
          have hne (h : isRun c = false) : c ≠ x := by
            rintro rfl
            rw [hrun] at h
            cases h
          cases inRun <;> grind [dashRuns]
      | false => grind [dashRuns]

theorem stripDashes_ne_nil : stripDashes text ≠ [] ↔ ∃ c ∈ text, c ≠ '-' := by
  have hdrop (text : List Char) :
      (text.dropWhile fun c => decide (c = '-')) ≠ [] ↔ ∃ c ∈ text, c ≠ '-' := by
    rw [Ne, List.dropWhile_eq_nil_iff]
    simp
  rw [stripDashes, Ne, List.reverse_eq_nil_iff, ← Ne, hdrop]
  constructor
  · rintro ⟨c, hc, hne⟩
    exact ⟨c, (List.dropWhile_sublist _).mem (List.mem_reverse.1 hc), hne⟩
  · rintro ⟨c, hc, hne⟩
    refine ⟨c, List.mem_reverse.2 ?_, hne⟩
    have hsplit := List.takeWhile_append_dropWhile (p := fun c => decide (c = '-')) (l := text)
    rw [← hsplit] at hc
    rcases List.mem_append.1 hc with hfront | hback
    · have hdash := List.mem_takeWhile_imp hfront
      exact absurd (by simpa using hdash) hne
    · exact hback

theorem mem_of_mem_stripDashes (h : c ∈ stripDashes text) : c ∈ text := by
  rw [stripDashes, List.mem_reverse] at h
  exact (List.dropWhile_sublist _).mem (List.mem_reverse.1 ((List.dropWhile_sublist _).mem h))

/-- **Which titles have a slug.** -/
theorem slugify_ne_empty {title : String} : slugify letters title ≠ "" ↔ Readable letters title := by
  rw [slugify, Ne, ← String.toList_inj, String.toList_ofList]
  change stripDashes _ ≠ [] ↔ _
  rw [stripDashes_ne_nil]
  constructor
  · rintro ⟨c, hc, hdash⟩
    rw [mem_dashRuns hdash, mem_dashRuns hdash, List.mem_filter] at hc
    obtain ⟨⟨⟨hmem, hkept⟩, hrun⟩, -⟩ := hc
    simp only [Bool.or_eq_false_iff, decide_eq_false_iff_not] at hrun
    have hword : letters.isWord c = true := by simpa [hrun.1, hdash] using hkept
    exact ⟨c, (mem_strip hrun.1).1 hmem, hword, hrun.1, hrun.2, hdash⟩
  · rintro ⟨c, hc, hword, hspace, hunder, hdash⟩
    refine ⟨c, ?_, hdash⟩
    rw [mem_dashRuns hdash, mem_dashRuns hdash, List.mem_filter, mem_strip hspace]
    simp [hc, hword, hspace, hunder, hdash]

/-- A slug has no slash. -/
theorem slash_not_mem_slugify (hslash : letters.isWord '/' = false) (title : String) :
    '/' ∉ (slugify letters title).toList := by
  rw [slugify, String.toList_ofList]
  intro h
  have hmem := mem_of_mem_stripDashes h
  rw [mem_dashRuns (by decide), mem_dashRuns (by decide), List.mem_filter] at hmem
  have hkept := hmem.1.1.2
  rw [hslash] at hkept
  exact absurd hkept (by decide)

end Slugify

/-! ## The slug that is chosen -/

/-- Digits of `uuid.uuid4().hex`. -/
structure HexText where
  text : String
  digits : ∀ c ∈ text.toList, c ∈ "0123456789abcdef".toList

theorem HexText.slash_not_mem (hex : HexText) : '/' ∉ hex.text.toList := by
  intro h
  have hdigit := hex.digits '/' h
  revert hdigit
  decide

section Chosen

variable {slug hex : String} {taken : Bool}

theorem chosen_ne_empty : (if taken then slug ++ "-" ++ hex else slug) ≠ "" ↔
    slug ≠ "" ∨ taken = true := by
  cases taken with
  | false => simp
  | true =>
      have hne : slug ++ "-" ++ hex ≠ "" := by
        intro h
        have hlist := congrArg String.toList h
        simp at hlist
      simp [hne]

theorem slash_not_mem_chosen (hslug : '/' ∉ slug.toList) (hhex : '/' ∉ hex.toList) :
    '/' ∉ (if taken then slug ++ "-" ++ hex else slug).toList := by
  cases taken with
  | false => exact hslug
  | true => simp [String.toList_append, hslug, hhex]

end Chosen

/-! ## Reading the slug back -/

section Parse

variable {slug seriesSlug episodeSlug contentId : String}

theorem enclosed_append (front middle back : List Char) :
    enclosed front back (front ++ middle ++ back) = some middle := by
  have hlen : (front ++ middle ++ back).length - front.length - back.length = middle.length := by
    simp only [List.length_append]
    omega
  rw [enclosed, hlen, List.append_assoc, List.drop_left, List.take_left, if_pos]
  rw [List.append_assoc]

theorem enclosed_eq_some {front middle back key : List Char}
    (h : enclosed front back key = some middle) : key = front ++ middle ++ back := by
  rw [enclosed] at h
  split at h
  · next hkey => rwa [← Option.some.inj h]
  · cases h

theorem movieSourceKey_toList : (movieSourceKey slug).toList =
    "movies/".toList ++ slug.toList ++ "/source.mp4".toList := by
  rw [movieSourceKey, movieDir, String.toList_append, String.toList_append]

theorem episodeSourceKey_toList : (episodeSourceKey seriesSlug episodeSlug).toList =
    "series/".toList ++ (seriesSlug.toList ++ "/episodes/".toList ++ episodeSlug.toList) ++
      "/source.mp4".toList := by
  simp only [episodeSourceKey, episodeDir, String.toList_append, List.append_assoc]

theorem hlsPrefix_movieSourceKey :
    hlsPrefixForSourceKey (movieSourceKey slug) contentId =
      if isSegment slug.toList then movieHlsPrefix slug else "hls/" ++ contentId := by
  have hseries : enclosed "series/".toList "/source.mp4".toList (movieSourceKey slug).toList =
      none := by
    rw [Option.eq_none_iff_forall_ne_some]
    intro middle h
    have hkey := enclosed_eq_some h
    rw [movieSourceKey_toList] at hkey
    have hhead := congrArg List.head? hkey
    revert hhead
    simp
  rw [hlsPrefixForSourceKey, hseries, movieSourceKey_toList, enclosed_append]
  by_cases hsegment : isSegment slug.toList = true
  · rw [Option.filter_some, if_pos hsegment, if_pos hsegment]
    simp
  · rw [Option.filter_some, if_neg hsegment, if_neg hsegment]
    rfl

theorem takeWhile_segment {first rest : List Char} (h : '/' ∉ first) :
    ((first ++ '/' :: rest).takeWhile fun c => decide (c ≠ '/')) = first := by
  rw [List.takeWhile_append_of_pos, List.takeWhile_cons_of_neg (by simp), List.append_nil]
  intro c hc
  exact decide_eq_true fun heq => h (heq ▸ hc)

theorem episodeSegments_append {first second : List Char} (h : '/' ∉ first) :
    episodeSegments (first ++ "/episodes/".toList ++ second) =
      if isSegment first ∧ isSegment second then some (first, second) else none := by
  have hfirst : ((first ++ "/episodes/".toList ++ second).takeWhile fun c => decide (c ≠ '/')) =
      first := by
    rw [List.append_assoc]
    exact takeWhile_segment h
  have hsecond : ((first ++ "/episodes/".toList ++ second).drop first.length).drop
      "/episodes/".length = second := by
    rw [List.append_assoc, List.drop_left]
    exact List.drop_left
  rw [episodeSegments, hfirst, hsecond]
  simp

theorem hlsPrefix_episodeSourceKey (hseries : '/' ∉ seriesSlug.toList) :
    hlsPrefixForSourceKey (episodeSourceKey seriesSlug episodeSlug) contentId =
      if isSegment seriesSlug.toList ∧ isSegment episodeSlug.toList then
        episodeHlsPrefix seriesSlug episodeSlug
      else "hls/" ++ contentId := by
  have hmovie : enclosed "movies/".toList "/source.mp4".toList
      (episodeSourceKey seriesSlug episodeSlug).toList = none := by
    rw [Option.eq_none_iff_forall_ne_some]
    intro middle h
    have hkey := enclosed_eq_some h
    rw [episodeSourceKey_toList] at hkey
    have hhead := congrArg List.head? hkey
    revert hhead
    simp
  rw [hlsPrefixForSourceKey, hmovie, episodeSourceKey_toList, enclosed_append, Option.filter_none,
    Option.bind_some, episodeSegments_append hseries]
  by_cases hsegments : isSegment seriesSlug.toList = true ∧ isSegment episodeSlug.toList = true
  · rw [if_pos hsegments, if_pos hsegments]
    simp
  · rw [if_neg hsegments, if_neg hsegments]

theorem isSegment_iff (h : '/' ∉ slug.toList) : isSegment slug.toList = true ↔ slug ≠ "" := by
  rw [isSegment, decide_eq_true_iff, and_iff_left h, Ne, Ne, ← String.toList_inj]
  simp

theorem legacy_ne_episodeHlsPrefix :
    "hls/" ++ contentId ≠ episodeHlsPrefix seriesSlug episodeSlug := by
  intro h
  have hhead := congrArg (fun text => text.toList.head?) h
  revert hhead
  simp [episodeHlsPrefix, episodeDir]

end Parse

/-! ## Folders -/

section Folders

variable {slug slug' key : String}

/-- The movie of a slug has a folder of its own. -/
structure OwnFolder (slug : String) : Prop where
  nonempty : slug ≠ ""
  flat : '/' ∉ slug.toList
  hls : ∀ contentId, hlsPrefixForSourceKey (movieSourceKey slug) contentId = movieHlsPrefix slug

/-- No key built for one slug is accepted for the other. -/
def Apart (slug slug' : String) : Prop :=
  slug ≠ slug' → ∀ key, MovieKey slug key → isMovieAssetKey slug' key = false

def EpisodeFolder (seriesSlug episodeSlug : String) : Prop :=
  ∀ contentId, hlsPrefixForSourceKey (episodeSourceKey seriesSlug episodeSlug) contentId =
    episodeHlsPrefix seriesSlug episodeSlug

theorem ownFolder_iff (h : '/' ∉ slug.toList) : OwnFolder slug ↔ slug ≠ "" := by
  constructor
  · exact fun hown => hown.nonempty
  · intro hne
    refine ⟨hne, h, fun contentId => ?_⟩
    rw [hlsPrefix_movieSourceKey, if_pos ((isSegment_iff h).2 hne)]

theorem episodeFolder_iff {seriesSlug episodeSlug : String} (hseries : '/' ∉ seriesSlug.toList)
    (hepisode : '/' ∉ episodeSlug.toList) :
    EpisodeFolder seriesSlug episodeSlug ↔ seriesSlug ≠ "" ∧ episodeSlug ≠ "" := by
  rw [← isSegment_iff hseries, ← isSegment_iff hepisode]
  constructor
  · intro h
    by_contra hsegments
    have hlegacy := h ""
    rw [hlsPrefix_episodeSourceKey hseries, if_neg hsegments] at hlegacy
    exact legacy_ne_episodeHlsPrefix hlegacy
  · intro hsegments contentId
    rw [hlsPrefix_episodeSourceKey hseries, if_pos hsegments]

theorem isMovieAssetKey_iff : isMovieAssetKey slug key = true ↔
    "movies/".toList ++ slug.toList ++ ['/'] <+: key.toList := by
  rw [isMovieAssetKey, movieDir, String.isPrefixOf]
  simp

theorem MovieKey.isMovieAssetKey (h : MovieKey slug key) : isMovieAssetKey slug key = true := by
  rw [isMovieAssetKey_iff]
  cases h with
  | source =>
      exact ⟨"source.mp4".toList, by simp [movieSourceKey, movieDir]⟩
  | image stem token contentType =>
      exact ⟨(stem ++ "-" ++ token ++ "." ++ posterExtension contentType).toList,
        by simp [movieImageKey, movieDir]⟩
  | hls name =>
      exact ⟨("hls/" ++ name).toList, by simp [movieHlsPrefix, movieDir]⟩

/-- A key lies in the folder of one slug only. -/
theorem apart_of_flat (h : '/' ∉ slug.toList) (h' : '/' ∉ slug'.toList) : Apart slug slug' := by
  intro hne key hkey
  rw [Bool.eq_false_iff]
  intro hother
  obtain ⟨rest, hrest⟩ := isMovieAssetKey_iff.1 hkey.isMovieAssetKey
  obtain ⟨rest', hrest'⟩ := isMovieAssetKey_iff.1 hother
  rw [← hrest', List.append_assoc, List.append_assoc, List.append_assoc, List.append_assoc] at hrest
  have hnames := List.append_cancel_left hrest
  have hfirst := congrArg (List.takeWhile fun c => decide (c ≠ '/')) hnames
  rw [List.singleton_append, List.singleton_append, takeWhile_segment h, takeWhile_segment h']
    at hfirst
  exact hne (String.toList_inj.1 hfirst)

end Folders

/-! ## Titles -/

/-- What is known of `str.lower` and of `\w` here. -/
structure Letters.Usual (letters : Letters) : Prop where
  slash : letters.isWord '/' = false
  word : letters.isWord 's' = true
  lower : ∀ text, 's' ∈ text.toList → 's' ∈ (letters.lower text).toList

/-- A title, and the rows and the digits that its slug is made with. -/
structure Draft where
  title : String
  hex : HexText
  db : Db

variable {letters : Letters}

def Draft.movieSlug (letters : Letters) (draft : Draft) : String :=
  uniqueContentSlug letters draft.title draft.hex.text draft.db

def Draft.seriesSlug (letters : Letters) (draft : Draft) : String :=
  uniqueSeriesSlug letters draft.title draft.hex.text draft.db

/-- An episode, with the rows and the digits that its slug is made with. -/
structure EpisodeDraft where
  season : ℤ
  episode : ℤ
  hex : HexText
  db : Db

def EpisodeDraft.slug (letters : Letters) (seriesSlug : String) (draft : EpisodeDraft) : String :=
  uniqueContentSlug letters (episodeBase seriesSlug draft.season draft.episode) draft.hex.text
    draft.db

/-- The empty slug is taken, so that a second one gets digits. -/
def Draft.movieTaken (draft : Draft) : Prop := ∃ row ∈ draft.db.contents, row.slug = ""

def Draft.seriesTaken (draft : Draft) : Prop := ∃ row ∈ draft.db.series, row.slug = ""

theorem slash_not_mem_uniqueContentSlug (h : letters.Usual) (base : String) (hex : HexText)
    (d : Db) : '/' ∉ (uniqueContentSlug letters base hex.text d).toList :=
  slash_not_mem_chosen (slash_not_mem_slugify h.slash base) hex.slash_not_mem

theorem movieSlug_ne_empty (draft : Draft) : draft.movieSlug letters ≠ "" ↔
    Readable letters draft.title ∨ draft.movieTaken := by
  rw [← slugify_ne_empty, Draft.movieSlug, uniqueContentSlug, chosen_ne_empty, Draft.movieTaken]
  by_cases hslug : slugify letters draft.title = ""
  · simp [hslug]
  · simp [hslug]

theorem seriesSlug_ne_empty (draft : Draft) : draft.seriesSlug letters ≠ "" ↔
    Readable letters draft.title ∨ draft.seriesTaken := by
  rw [← slugify_ne_empty, Draft.seriesSlug, uniqueSeriesSlug, chosen_ne_empty, Draft.seriesTaken]
  by_cases hslug : slugify letters draft.title = ""
  · simp [hslug]
  · simp [hslug]

/-- The season and the episode give every episode a slug. -/
theorem episodeSlug_ne_empty (h : letters.Usual) (seriesSlug : String) (draft : EpisodeDraft) :
    draft.slug letters seriesSlug ≠ "" := by
  rw [EpisodeDraft.slug, uniqueContentSlug, chosen_ne_empty]
  refine Or.inl (slugify_ne_empty.2 ⟨'s', h.lower _ ?_, h.word, by decide, by decide, by decide⟩)
  simp [episodeBase]

/-- **Titles map to their own storage folder** exactly when the title of the movie
and that of the series are readable, or the empty slug is taken already. -/
theorem titleFolders_iff (h : letters.Usual) (movie other series : Draft)
    (episode : EpisodeDraft) :
    (OwnFolder (movie.movieSlug letters) ∧
      Apart (movie.movieSlug letters) (other.movieSlug letters) ∧
      EpisodeFolder (series.seriesSlug letters)
        (episode.slug letters (series.seriesSlug letters))) ↔
    (Readable letters movie.title ∨ movie.movieTaken) ∧
      (Readable letters series.title ∨ series.seriesTaken) := by
  have hmovie : '/' ∉ (movie.movieSlug letters).toList := slash_not_mem_uniqueContentSlug h _ _ _
  have hother : '/' ∉ (other.movieSlug letters).toList := slash_not_mem_uniqueContentSlug h _ _ _
  have hseries : '/' ∉ (series.seriesSlug letters).toList :=
    slash_not_mem_chosen (slash_not_mem_slugify h.slash _) series.hex.slash_not_mem
  have hepisode : '/' ∉ (episode.slug letters (series.seriesSlug letters)).toList :=
    slash_not_mem_uniqueContentSlug h _ _ _
  rw [ownFolder_iff hmovie, episodeFolder_iff hseries hepisode,
    and_iff_right (apart_of_flat hmovie hother),
    and_iff_left (episodeSlug_ne_empty h _ episode), movieSlug_ne_empty, seriesSlug_ne_empty]

/-- Letters as Python has them for ASCII titles. -/
def asciiLetters : Letters :=
  ⟨fun text => String.ofList (text.toList.map Char.toLower),
    fun c => c.isAlphanum || decide (c = '_')⟩

theorem asciiLetters_usual : asciiLetters.Usual where
  slash := by decide
  word := by decide
  lower text hmem := by
    rw [asciiLetters, String.toList_ofList]
    exact List.mem_map.2 ⟨'s', hmem, by decide⟩

def sixDigits : HexText := ⟨"0a1b2c", by simp⟩

def draftOf (title : String) : Draft := ⟨title, sixDigits, ⟨[], [], []⟩⟩

def pilot : EpisodeDraft := ⟨1, 1, sixDigits, ⟨[], [], []⟩⟩

theorem dune_folders :
    asciiLetters.Usual ∧
      ((OwnFolder ((draftOf "Dune: Part 2").movieSlug asciiLetters) ∧
        Apart ((draftOf "Dune: Part 2").movieSlug asciiLetters)
          ((draftOf "Arrival").movieSlug asciiLetters) ∧
        EpisodeFolder ((draftOf "Severance").seriesSlug asciiLetters)
          (pilot.slug asciiLetters ((draftOf "Severance").seriesSlug asciiLetters))) ↔
      (Readable asciiLetters "Dune: Part 2" ∨ (draftOf "Dune: Part 2").movieTaken) ∧
        (Readable asciiLetters "Severance" ∨ (draftOf "Severance").seriesTaken)) :=
  ⟨asciiLetters_usual, titleFolders_iff asciiLetters_usual _ _ _ _⟩

/-- The slug of `!!!` is empty, and the HLS files of the movie go to the legacy
folder. -/
theorem exclamations_no_folder : ¬ OwnFolder ((draftOf "!!!").movieSlug asciiLetters) := by
  intro h
  rcases (movieSlug_ne_empty (draftOf "!!!")).1 h.nonempty with ⟨c, hc, hword, -⟩ | ⟨row, hrow, -⟩
  · have hmark : c = '!' := by simpa [draftOf, asciiLetters] using hc
    rw [hmark] at hword
    revert hword
    decide
  · cases hrow

end MovieApi.Publishing
