import MovieApi.TelegramBot.Text

/-!
# Playlists and their caches

`services/playback.py`.  A rendition's playlist is read from storage and rewritten:
every segment becomes a URL that the player can fetch.  Raw and rewritten texts are
cached twice, by each worker for itself and by all of them in Redis.
-/

namespace MovieApi.Playback

open TelegramBot (strip)

/-- A point in time, in microseconds. -/
abbrev Time := Int

def micros (seconds : Int) : Int := seconds * 1000000

/-! ## Keys -/

def stripText (text : String) : String := String.ofList (strip text.toList)

def lowerText (text : String) : String := String.ofList (text.toList.map Char.toLower)

/-- `posixpath.dirname`. -/
def dirname (path : List Char) : List Char :=
  let head := (path.reverse.dropWhile fun c => c ≠ '/').reverse
  if head.all fun c => c = '/' then head else (head.reverse.dropWhile fun c => c = '/').reverse

/-- The key of a file beside the master playlist. -/
def besideMaster (hlsMasterKey name : String) : String :=
  String.ofList (dirname hlsMasterKey.toList ++ '/' :: name.toList)

/-! ## Rewriting -/

inductive SegmentUrl where
  | cdn (key : String)
  | presigned (key : String) (signedAt : Time) (expiresIn : Int)
deriving DecidableEq, Repr

inductive PlaylistLine where
  | tag (line : String)
  | segment (url : SegmentUrl)
deriving DecidableEq, Repr

abbrev Playlist := List PlaylistLine

structure HlsSettings where
  playbackSegmentMode : String
  r2PublicUrl : String
  playbackTokenExpirySeconds : Int
deriving DecidableEq, Repr

def HlsSettings.mode (cfg : HlsSettings) : String :=
  lowerText (stripText (if cfg.playbackSegmentMode = "" then "cdn" else cfg.playbackSegmentMode))

/-- `generate_playback_segment_url`. -/
def generatePlaybackSegmentUrl (cfg : HlsSettings) (key : String) (expiresIn : Int) (now : Time) :
    SegmentUrl :=
  if cfg.mode = "presign" ∨ stripText cfg.r2PublicUrl = "" then .presigned key now expiresIn
  else .cdn key

/-- `_is_uri_line`. -/
def isUriLine (line : String) : Bool :=
  match strip line.toList with
  | [] => false
  | c :: _ => decide (c ≠ '#')

/-- `_rewrite_variant_text` of a text given by its lines. -/
def rewriteVariantText (cfg : HlsSettings) (lines : List String) (hlsMasterKey : String)
    (expiresIn : Int) (now : Time) : Playlist :=
  lines.map fun line =>
    if isUriLine line then
      .segment (generatePlaybackSegmentUrl cfg (besideMaster hlsMasterKey (stripText line))
        expiresIn now)
    else .tag line

/-! ## Caches -/

/-- `_PLAYLIST_CACHE_TTL`. -/
def playlistCacheTtl : Int := 60

/-- Values with the times until which they are fresh. -/
abbrev TtlCache (V : Type) := String → Option (V × Time)

namespace TtlCache

variable {V : Type}

def get (cache : TtlCache V) (key : String) (now : Time) : Option V :=
  ((cache key).filter fun entry => decide (now < entry.2)).map Prod.fst

def put (cache : TtlCache V) (key : String) (value : V) (expires : Time) : TtlCache V :=
  Function.update cache key (some (value, expires))

theorem get_eq_some {cache : TtlCache V} {key : String} {now : Time} {value : V} :
    cache.get key now = some value ↔ ∃ expires, cache key = some (value, expires) ∧ now < expires := by
  unfold get
  cases hentry : cache key with
  | none => simp
  | some entry =>
      obtain ⟨value', expires⟩ := entry
      by_cases hfresh : now < expires
      · simp [hfresh]
      · simp [hfresh]

theorem put_eq_some {cache : TtlCache V} {key key' : String} {value value' : V}
    {expires expires' : Time} (h : cache.put key value expires key' = some (value', expires')) :
    (value' = value ∧ expires' = expires) ∨ cache key' = some (value', expires') := by
  by_cases hkey : key' = key
  · subst hkey
    simp only [put, Function.update_self, Option.some.injEq, Prod.mk.injEq] at h
    exact .inl ⟨h.1.symm, h.2.symm⟩
  · rw [put, Function.update_of_ne hkey] at h
    exact .inr h

end TtlCache

/-- The workers with their own caches, Redis, storage, and the playlists that calls have
returned, with the times they did. -/
structure HlsSite where
  now : Time
  storage : String → Option (List String)
  raw : Nat → TtlCache (List String)
  variants : Nat → TtlCache Playlist
  sharedRaw : TtlCache (List String)
  sharedVariants : TtlCache Playlist
  served : List (Time × Playlist)

/-- Which commands of a call Redis answers. -/
structure Up where
  get : Bool
  set : Bool
deriving DecidableEq, Repr

/-- `max(1, int(ttl_seconds))` seconds from now. -/
def redisDeadline (now : Time) (ttl : Int) : Time := now + micros (max 1 ttl)

namespace HlsSite

-- when each worker's monotonic clock stood at zero
variable (boot : Nat → Time)

def monotonic (s : HlsSite) (w : Nat) : Time := s.now - boot w

def keepRaw (s : HlsSite) (w : Nat) (key : String) (lines : List String) : HlsSite :=
  { s with
    raw := Function.update s.raw w
      ((s.raw w).put key lines (s.monotonic boot w + micros playlistCacheTtl)) }

/-- `_get_object_text`; nothing when storage raises. -/
def getObjectText (s : HlsSite) (w : Nat) (key : String) (up : Up) :
    Option (List String) × HlsSite :=
  let sharedKey := "hls:raw:" ++ key
  match (s.raw w).get key (s.monotonic boot w) with
  | some lines => (some lines, s)
  | none =>
      match (s.sharedRaw.get sharedKey s.now).filter fun _ => up.get with
      | some lines => (some lines, s.keepRaw boot w key lines)
      | none =>
          match s.storage key with
          | none => (none, s)
          | some lines =>
              let s := s.keepRaw boot w key lines
              (some lines,
                { s with
                  sharedRaw :=
                    if up.set then
                      s.sharedRaw.put sharedKey lines (redisDeadline s.now playlistCacheTtl)
                    else s.sharedRaw })

def keepVariant (s : HlsSite) (w : Nat) (key : String) (body : Playlist) (ttl : Int) : HlsSite :=
  { s with
    variants := Function.update s.variants w
      ((s.variants w).put key body (s.monotonic boot w + micros ttl)) }

def shareVariant (s : HlsSite) (key : String) (body : Playlist) (ttl : Int) (up : Bool) : HlsSite :=
  { s with
    sharedVariants :=
      if up then s.sharedVariants.put key body (redisDeadline s.now ttl) else s.sharedVariants }

/-- `build_variant_playlist`.  A hit in Redis is kept for the full minute. -/
def buildVariantPlaylist (cfg : HlsSettings) (s : HlsSite) (w : Nat)
    (hlsMasterKey variantName : String) (expiresIn : Int) (up : Up) : Option Playlist × HlsSite :=
  let variantKey := besideMaster hlsMasterKey variantName
  let sharedKey := "hls:variant:" ++ cfg.mode ++ ":" ++ variantKey
  match (s.variants w).get variantKey (s.monotonic boot w) with
  | some body => (some body, s)
  | none =>
      match (s.sharedVariants.get sharedKey s.now).filter fun _ => up.get with
      | some body => (some body, s.keepVariant boot w variantKey body playlistCacheTtl)
      | none =>
          match s.getObjectText boot w variantKey up with
          | (none, s) => (none, s)
          | (some lines, s) =>
              let body := rewriteVariantText cfg lines hlsMasterKey expiresIn s.now
              let ttl := min playlistCacheTtl expiresIn
              (some body,
                (s.keepVariant boot w variantKey body ttl).shareVariant sharedKey body ttl up.set)

end HlsSite

inductive HlsAction where
  | wait (d : Nat)
  /-- An object of storage is written or deleted. -/
  | upload (key : String) (lines : Option (List String))
  | serve (w : Nat) (hlsMasterKey variantName : String) (up : Up)
deriving DecidableEq, Repr

namespace HlsSite

def serve (boot : Nat → Time) (cfg : HlsSettings) (s : HlsSite) (w : Nat)
    (hlsMasterKey variantName : String) (up : Up) : HlsSite :=
  let answer := s.buildVariantPlaylist boot cfg w hlsMasterKey variantName
    cfg.playbackTokenExpirySeconds up
  { answer.2 with served := s.served ++ answer.1.toList.map fun body => (s.now, body) }

def next (boot : Nat → Time) (cfg : HlsSettings) (s : HlsSite) : HlsAction → HlsSite
  | .wait d => { s with now := s.now + d }
  | .upload key lines => { s with storage := Function.update s.storage key lines }
  | .serve w hlsMasterKey variantName up => s.serve boot cfg w hlsMasterKey variantName up

def run (boot : Nat → Time) (cfg : HlsSettings) (s : HlsSite) (actions : List HlsAction) : HlsSite :=
  actions.foldl (next boot cfg) s

/-- Nothing is cached yet. -/
def fresh (now : Time) (storage : String → Option (List String)) : HlsSite where
  now := now
  storage := storage
  raw := fun _ _ => none
  variants := fun _ _ => none
  sharedRaw := fun _ => none
  sharedVariants := fun _ => none
  served := []

end HlsSite

end MovieApi.Playback
