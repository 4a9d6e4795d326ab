import MovieApi.Playback.Access

/-!
# The episodes of a series

`list_episodes` works out once whether the viewer has unlocked the series and
masks the master keys by that; `can_access_content` decides about each episode.
-/

namespace MovieApi.Playback

open Sql
open Accounts (Uuid Instant Err User)

/-! ## The listing -/

/-- Ascending, rows without a number last. -/
def nullsLast : Option Int → Option Int → Prop
  | some a, some b => a ≤ b
  | none, some _ => False
  | _, none => True

instance : DecidableRel nullsLast
  | some a, some b => inferInstanceAs (Decidable (a ≤ b))
  | none, some _ => inferInstanceAs (Decidable False)
  | some _, none => inferInstanceAs (Decidable True)
  | none, none => inferInstanceAs (Decidable True)

/-- `season_number ASC, episode_number ASC`. -/
def Content.le (ep ep' : Content) : Prop :=
  (ep.seasonNumber ≠ ep'.seasonNumber ∧ nullsLast ep.seasonNumber ep'.seasonNumber) ∨
    (ep.seasonNumber = ep'.seasonNumber ∧ nullsLast ep.episodeNumber ep'.episodeNumber)

instance : DecidableRel Content.le := fun _ _ => inferInstanceAs (Decidable (_ ∨ _))

/-- `ContentRead`: a row as clients see it. -/
structure ContentRead extends Content where
  isFreeToday : Bool
deriving DecidableEq, Repr

/-- `ContentRead.model_validate`. -/
def Content.read (row : Content) : ContentRead := { row with isFreeToday := false }

def ContentRead.masked (data : ContentRead) : ContentRead := { data with hlsMasterKey := none }

/-- `get_series_or_404(…, published_only=True)`. -/
def Db.publishedSeries (d : Db) (slug : String) : Except Err Series :=
  match d.series.find? fun row => decide (row.slug = slug) && row.isPublished with
  | none => .error (.notFound "Series not found")
  | some series => .ok series

/-- The query of `list_episodes`. -/
def Db.episodes (d : Db) (seriesId : Uuid) : List Content :=
  orderBy Content.le (d.contents.filter fun row =>
    decide (row.seriesId = some seriesId) && row.isPublished)

/-- `paginate_query`; pages count from 1. -/
def paginateQuery {ρ : Type} (rows : List ρ) (page pageSize : Nat) : List ρ × Nat :=
  ((rows.drop ((page - 1) * pageSize)).take pageSize, rows.length)

/-- Whether the viewer has unlocked the series. -/
def Db.entitled (d : Db) (now : Instant) (currentUser : Option User) (guestId : Option String)
    (series : Series) : Bool :=
  match currentUser with
  | some user =>
      d.userHasActiveSubscription now user.id || d.hasSeriesPurchase series.id (some user.id) none
  | none =>
      match guestToken guestId with
      | some guestId => d.hasSeriesPurchase series.id none (some guestId)
      | none => false

/-- `list_episodes`: the rows of a page and the number of all episodes. -/
def Db.listEpisodes (d : Db) (now : Instant) (currentUser : Option User)
    (guestId : Option String) (slug : String) (page pageSize : Nat) :
    Except Err (List ContentRead × Nat) :=
  match d.publishedSeries slug with
  | .error err => .error err
  | .ok series =>
      let (episodes, total) := paginateQuery (d.episodes series.id) page pageSize
      let isAdmin := currentUser.any fun user => decide (user.role = "admin")
      let entitled := d.entitled now currentUser guestId series
      .ok (episodes.map fun ep =>
        if isAdmin || ep.isFree || entitled then ep.read else ep.read.masked, total)

section

variable {d : Db} {now : Instant} {user : Option User} {guestId : Option String} {slug : String}
  {series : Series} {ep : Content} {page pageSize : Nat}

/-! ## Pages -/

theorem mem_paginateQuery {ρ : Type} {rows : List ρ} {row : ρ}
    (h : row ∈ (paginateQuery rows page pageSize).1) : row ∈ rows :=
  List.mem_of_mem_drop (List.mem_of_mem_take h)

/-- Every row is on some page. -/
theorem exists_page {ρ : Type} {rows : List ρ} {row : ρ} (h : row ∈ rows)
    (hsize : 0 < pageSize) :
    ∃ page, 1 ≤ page ∧ row ∈ (paginateQuery rows page pageSize).1 := by
  obtain ⟨i, hi, hrow⟩ := List.getElem_of_mem h
  have hdiv : i / pageSize * pageSize + i % pageSize = i := Nat.div_add_mod' i pageSize
  have hmod : i % pageSize < pageSize := Nat.mod_lt i hsize
  refine ⟨i / pageSize + 1, Nat.le_add_left 1 _, ?_⟩
  show row ∈ (rows.drop ((i / pageSize + 1 - 1) * pageSize)).take pageSize
  rw [Nat.add_sub_cancel]
  refine List.mem_iff_getElem.2 ⟨i % pageSize, ?_, ?_⟩
  · rw [List.length_take, List.length_drop]
    omega
  · rw [List.getElem_take, List.getElem_drop, ← hrow]
    exact getElem_congr_idx hdiv

theorem mem_episodes {seriesId : Uuid} :
    ep ∈ d.episodes seriesId ↔
      ep ∈ d.contents ∧ ep.seriesId = some seriesId ∧ ep.isPublished = true := by
  simp [Db.episodes, List.mem_filter]

/-! ## The two decisions -/

/-- One decision for the series stands for the decisions about its episodes. -/
theorem canAccessContent_eq (hepisode : ep.type = .episode) (hseries : ep.seriesId = some series.id)
    (hpublished : ep.isPublished = true) :
    d.canAccessContent now user guestId ep none =
      ((user.any fun user => decide (user.role = "admin")) || ep.isFree ||
        d.entitled now user guestId series) := by
  unfold Db.canAccessContent
  by_cases hadmin : (user.any fun user => decide (user.role = "admin")) = true
  · rw [if_pos hadmin, hadmin, Bool.true_or, Bool.true_or]
  rw [if_neg hadmin, if_neg (by simp [hpublished])]
  by_cases hfree : ep.isFree = true
  · rw [if_pos hfree, hfree, Bool.or_true, Bool.true_or]
  rw [if_neg hfree, hepisode, eq_false_of_ne_true hadmin, eq_false_of_ne_true hfree, Bool.or_self,
    Bool.false_or]
  simp only [Db.canAccessEpisode, Db.entitled, hseries]
  cases user with
  | some user =>
      show (if _ then true else _) = (_ || _)
      cases d.userHasActiveSubscription now user.id <;> rfl
  | none => rfl

theorem listEpisodes_ok {items : List ContentRead} {total : Nat}
    (h : d.listEpisodes now user guestId slug page pageSize = .ok (items, total))
    (hseries : d.publishedSeries slug = .ok series) :
    items = (paginateQuery (d.episodes series.id) page pageSize).1.map fun ep =>
      if (user.any fun user => decide (user.role = "admin")) || ep.isFree ||
          d.entitled now user guestId series then ep.read else ep.read.masked := by
  unfold Db.listEpisodes at h
  rw [hseries] at h
  simp only [Except.ok.injEq, Prod.mk.injEq] at h
  exact h.1.symm

/-- Every page answers with what playback would decide about its episodes: the
master key is on it exactly when playback is granted. -/
theorem listEpisodes_key_iff {key : String} (hids : Unique Content.id d.contents)
    (hseries : d.publishedSeries slug = .ok series) (hep : ep ∈ d.contents)
    (hepisode : ep.type = .episode) (howner : ep.seriesId = some series.id)
    (hpublished : ep.isPublished = true) (hkey : ep.hlsMasterKey = some key) :
    (∀ pageSize, 0 < pageSize → ∃ page items total, 1 ≤ page ∧
      d.listEpisodes now user guestId slug page pageSize = .ok (items, total) ∧
        ∃ item ∈ items, item.id = ep.id) ∧
    ∀ page pageSize items total,
      d.listEpisodes now user guestId slug page pageSize = .ok (items, total) →
        ∀ item ∈ items, item.id = ep.id →
          (item.hlsMasterKey = some key ↔ d.canAccessContent now user guestId ep none = true) ∧
            (item.hlsMasterKey = none ↔ d.canAccessContent now user guestId ep none = false) := by
  constructor
  · intro pageSize hsize
    have hrow : ep ∈ d.episodes series.id := mem_episodes.2 ⟨hep, howner, hpublished⟩
    obtain ⟨page, hpage, hmem⟩ := exists_page hrow hsize
    unfold Db.listEpisodes
    rw [hseries]
    refine ⟨page, _, _, hpage, rfl, _, List.mem_map.2 ⟨ep, hmem, rfl⟩, ?_⟩
    split <;> rfl
  · intro page pageSize items total h item hitem hid
    rw [listEpisodes_ok h hseries] at hitem
    obtain ⟨row, hrow, rfl⟩ := List.mem_map.1 hitem
    have hrowid : row.id = ep.id := by
      rw [← hid]
      split <;> rfl
    have hcontent : row ∈ d.contents := (mem_episodes.1 (mem_paginateQuery hrow)).1
    have hsame : row = ep := by
      have hfound := lookup_of_mem hids hcontent
      rw [hrowid, lookup_of_mem hids hep] at hfound
      exact (Option.some.inj hfound).symm
    subst hsame
    rw [canAccessContent_eq hepisode howner hpublished]
    cases (user.any fun user => decide (user.role = "admin")) || row.isFree ||
      d.entitled now user guestId series
    · simp [ContentRead.masked]
    · simp [Content.read, hkey]

end

/-! ## A guest who bought the series -/

def pilot : Content where
  id := 5
  type := .episode
  seriesId := some 1
  seasonNumber := some 1
  episodeNumber := some 1
  slug := "pilot"
  title := "Pilot"
  hlsMasterKey := some "series/pilot/hls/master.m3u8"
  priceUsd := none
  isPublished := true
  isFree := false

/-- One series with one episode, bought by the guest `g`. -/
def soldSeries : Db where
  accounts := { users := [], sessions := [], resetTokens := [] }
  contents := [pilot]
  series := [⟨1, "show", true⟩]
  channels := []
  subscriptions := []
  purchases := []
  seriesPurchases := [⟨none, some "g", 1⟩]
  rails := .empty

/-- The guest finds the key on the page that lists the episode. -/
theorem soldSeries_shows_key : ∃ items total,
    soldSeries.listEpisodes 0 none (some "g") "show" 1 20 = .ok (items, total) ∧
      ∀ item ∈ items, item.id = 5 →
        item.hlsMasterKey = some "series/pilot/hls/master.m3u8" := by
  have hids : Unique Content.id soldSeries.contents := List.nodup_singleton _
  have hep : pilot ∈ soldSeries.contents := List.mem_singleton.2 rfl
  have hgranted : soldSeries.canAccessContent 0 none (some "g") pilot none = true := by decide
  have hseries : soldSeries.publishedSeries "show" = .ok ⟨1, "show", true⟩ := rfl
  have hpage : ∃ items total,
      soldSeries.listEpisodes 0 none (some "g") "show" 1 20 = .ok (items, total) := ⟨_, _, rfl⟩
  obtain ⟨items, total, hpage⟩ := hpage
  have hlisted :=
    (listEpisodes_key_iff hids hseries hep rfl rfl rfl rfl).2 1 20 items total hpage
  exact ⟨items, total, hpage, fun item hitem hid => (hlisted item hitem hid).1.2 hgranted⟩

end MovieApi.Playback
