import MovieApi.Playback.Playlists

/-!
# How old a segment URL gets

A rewritten playlist is cached for a minute in Redis, and a worker that finds it there
keeps it for another minute.  So a presigned URL is served until it is two minutes old,
whatever the time for which it was signed.
-/

namespace MovieApi.Playback

/-! ## Ages -/

/-- Is the URL still valid? -/
def SegmentUrl.ValidAt (now : Time) : SegmentUrl → Prop
  | .cdn _ => True
  | .presigned _ signedAt expiresIn => now ≤ signedAt + micros expiresIn

/-- Every URL was signed for this long, and not before that time. -/
def SignedSince (expiresIn : Int) (since : Time) (body : Playlist) : Prop :=
  ∀ key signedAt expires, .segment (.presigned key signedAt expires) ∈ body →
    expires = expiresIn ∧ since ≤ signedAt

section

variable {expiresIn : Int} {since since' now : Time} {body : Playlist}

theorem SignedSince.mono (h : SignedSince expiresIn since body) (hle : since' ≤ since) :
    SignedSince expiresIn since' body := by
  intro key signedAt expires hmem
  obtain ⟨hexpires, hsince⟩ := h key signedAt expires hmem
  exact ⟨hexpires, le_trans hle hsince⟩

theorem SignedSince.validAt (h : SignedSince expiresIn since body)
    (hage : now ≤ since + micros expiresIn) :
    ∀ url, .segment url ∈ body → url.ValidAt now := by
  intro url hmem
  cases url with
  | cdn key => trivial
  | presigned key signedAt expires =>
      obtain ⟨rfl, hsince⟩ := h key signedAt expires hmem
      simp only [SegmentUrl.ValidAt]
      linarith

theorem rewriteVariantText_signedSince (cfg : HlsSettings) (lines : List String)
    (hlsMasterKey : String) (expiresIn : Int) (now : Time) :
    SignedSince expiresIn now (rewriteVariantText cfg lines hlsMasterKey expiresIn now) := by
  intro key signedAt expires hmem
  obtain ⟨line, -, hline⟩ := List.mem_map.1 hmem
  by_cases huri : isUriLine line = true
  · rw [if_pos huri] at hline
    simp only [PlaylistLine.segment.injEq, generatePlaybackSegmentUrl] at hline
    split at hline
    · obtain ⟨-, rfl, rfl⟩ := SegmentUrl.presigned.inj hline
      exact ⟨rfl, le_refl _⟩
    · cases hline
  · rw [if_neg huri] at hline
    cases hline

end

/-! ## What the caches hold -/

namespace HlsSite

inductive Reached (boot : Nat → Time) (cfg : HlsSettings) (s₀ : HlsSite) : HlsSite → Prop
  | refl : Reached boot cfg s₀ s₀
  | step {s : HlsSite} (action : HlsAction) (h : Reached boot cfg s₀ s) :
      Reached boot cfg s₀ (s.next boot cfg action)

/-- A copy in Redis is fresh for a minute after it was signed, one of a worker for two. -/
structure Aged (boot : Nat → Time) (cfg : HlsSettings) (s : HlsSite) : Prop where
  shared : ∀ key body expires, s.sharedVariants key = some (body, expires) →
    SignedSince cfg.playbackTokenExpirySeconds (expires - micros 60) body
  own : ∀ w key body expires, s.variants w key = some (body, expires) →
    SignedSince cfg.playbackTokenExpirySeconds (expires + boot w - micros 120) body
  served : ∀ time body, (time, body) ∈ s.served →
    SignedSince cfg.playbackTokenExpirySeconds (time - micros 120) body

variable {boot : Nat → Time} {cfg : HlsSettings} {s : HlsSite}

theorem Aged.keepVariant (h : s.Aged boot cfg) {w : Nat} {key : String} {body : Playlist}
    {ttl : Int} (hbody : SignedSince cfg.playbackTokenExpirySeconds
      (s.now + micros ttl - micros 120) body) :
    (s.keepVariant boot w key body ttl).Aged boot cfg where
  shared := h.shared
  own w' key' body' expires hentry := by
    by_cases hw : w' = w
    · subst hw
      simp only [HlsSite.keepVariant, Function.update_self] at hentry
      rcases TtlCache.put_eq_some hentry with ⟨rfl, rfl⟩ | hold
      · refine hbody.mono ?_
        simp only [monotonic]
        linarith
      · exact h.own w' key' body' expires hold
    · simp only [HlsSite.keepVariant, Function.update_of_ne hw] at hentry
      exact h.own w' key' body' expires hentry
  served := h.served

theorem Aged.shareVariant (h : s.Aged boot cfg) {key : String} {body : Playlist} {ttl : Int}
    {up : Bool} (hbody : SignedSince cfg.playbackTokenExpirySeconds
      (redisDeadline s.now ttl - micros 60) body) :
    (s.shareVariant key body ttl up).Aged boot cfg where
  shared key' body' expires hentry := by
    cases up with
    | true =>
        rcases TtlCache.put_eq_some hentry with ⟨rfl, rfl⟩ | hold
        · exact hbody
        · exact h.shared key' body' expires hold
    | false => exact h.shared key' body' expires hentry
  own := h.own
  served := h.served

/-- Raw texts carry no URLs. -/
theorem Aged.getObjectText (h : s.Aged boot cfg) (w : Nat) (key : String) (up : Up) :
    (s.getObjectText boot w key up).2.Aged boot cfg ∧
      (s.getObjectText boot w key up).2.now = s.now := by
  unfold HlsSite.getObjectText
  cases (s.raw w).get key (s.monotonic boot w) with
  | some lines => exact ⟨h, rfl⟩
  | none =>
      simp only
      cases (s.sharedRaw.get ("hls:raw:" ++ key) s.now).filter fun _ => up.get with
      | some lines => exact ⟨⟨h.shared, h.own, h.served⟩, rfl⟩
      | none =>
          simp only
          cases s.storage key with
          | none => exact ⟨h, rfl⟩
          | some lines => exact ⟨⟨h.shared, h.own, h.served⟩, rfl⟩

/-- A call returns a playlist that was signed less than two minutes ago. -/
theorem Aged.buildVariantPlaylist (h : s.Aged boot cfg)
    (hpos : 1 ≤ cfg.playbackTokenExpirySeconds) (w : Nat) (hlsMasterKey variantName : String)
    (up : Up) :
    let answer := s.buildVariantPlaylist boot cfg w hlsMasterKey variantName
      cfg.playbackTokenExpirySeconds up
    answer.2.Aged boot cfg ∧ answer.2.now = s.now ∧ ∀ body, answer.1 = some body →
      SignedSince cfg.playbackTokenExpirySeconds (s.now - micros 120) body := by
  unfold HlsSite.buildVariantPlaylist
  cases hown : (s.variants w).get (besideMaster hlsMasterKey variantName) (s.monotonic boot w) with
  | some body =>
      simp only [hown]
      obtain ⟨expires, hentry, hfresh⟩ := TtlCache.get_eq_some.1 hown
      refine ⟨h, trivial, fun body' hbody => ?_⟩
      obtain rfl := Option.some.inj hbody
      refine (h.own w _ body expires hentry).mono ?_
      simp only [monotonic] at hfresh
      linarith
  | none =>
      simp only [hown]
      cases hshared : (s.sharedVariants.get ("hls:variant:" ++ cfg.mode ++ ":" ++
          besideMaster hlsMasterKey variantName) s.now).filter fun _ => up.get with
      | some body =>
          simp only
          obtain ⟨hget, -⟩ := Option.filter_eq_some_iff.1 hshared
          obtain ⟨expires, hentry, hfresh⟩ := TtlCache.get_eq_some.1 hget
          have hbody := h.shared _ body expires hentry
          have hage : expires - micros 60 ≥ s.now - micros 60 := by linarith
          refine ⟨h.keepVariant (hbody.mono ?_), rfl, fun body' hsome => ?_⟩
          · simp only [playlistCacheTtl, micros] at *
            linarith
          · obtain rfl := Option.some.inj hsome
            refine hbody.mono ?_
            simp only [micros] at *
            linarith
      | none =>
          simp only
          obtain ⟨htext, hnow⟩ := h.getObjectText w (besideMaster hlsMasterKey variantName) up
          cases hlines : s.getObjectText boot w (besideMaster hlsMasterKey variantName) up with
          | mk lines s' =>
              rw [hlines] at htext hnow
              cases lines with
              | none => exact ⟨htext, hnow, fun body hbody => by cases hbody⟩
              | some lines =>
                  have hsigned := rewriteVariantText_signedSince cfg lines hlsMasterKey
                    cfg.playbackTokenExpirySeconds s'.now
                  have hle : min playlistCacheTtl cfg.playbackTokenExpirySeconds ≤ 60 :=
                    min_le_left _ _
                  have hge : 1 ≤ min playlistCacheTtl cfg.playbackTokenExpirySeconds :=
                    le_min (by decide) hpos
                  refine ⟨(htext.keepVariant (hsigned.mono ?_)).shareVariant (hsigned.mono ?_),
                    hnow, fun body hbody => ?_⟩
                  · simp only [micros]
                    linarith
                  · simp only [redisDeadline, HlsSite.keepVariant, micros, max_eq_right hge]
                    linarith
                  · obtain rfl := Option.some.inj hbody
                    refine hsigned.mono ?_
                    simp only [micros]
                    linarith

theorem Aged.next (h : s.Aged boot cfg) (hpos : 1 ≤ cfg.playbackTokenExpirySeconds)
    (action : HlsAction) : (s.next boot cfg action).Aged boot cfg := by
  cases action with
  | wait d => exact ⟨h.shared, h.own, h.served⟩
  | upload key lines => exact ⟨h.shared, h.own, h.served⟩
  | serve w hlsMasterKey variantName up =>
      obtain ⟨hanswer, -, hbody⟩ := h.buildVariantPlaylist hpos w hlsMasterKey variantName up
      refine ⟨hanswer.shared, hanswer.own, fun time body hmem => ?_⟩
      rcases List.mem_append.1 hmem with hold | hnew
      · exact h.served time body hold
      · obtain ⟨body', hsome, heq⟩ := List.mem_map.1 hnew
        obtain ⟨rfl, rfl⟩ := Prod.mk.inj heq
        exact hbody body' (by simpa using hsome)

theorem aged_of_reached (hpos : 1 ≤ cfg.playbackTokenExpirySeconds) {now : Time}
    {storage : String → Option (List String)} (h : Reached boot cfg (fresh now storage) s) :
    s.Aged boot cfg := by
  induction h with
  | refl =>
      exact ⟨fun _ _ _ hentry => (by cases hentry), fun _ _ _ _ hentry => (by cases hentry),
        fun _ _ hmem => (by cases hmem)⟩
  | step action _ ih => exact ih.next hpos action

theorem valid_of_reached (hlong : 120 ≤ cfg.playbackTokenExpirySeconds) {now : Time}
    {storage : String → Option (List String)} (h : Reached boot cfg (fresh now storage) s)
    {time : Time} {body : Playlist} (hserved : (time, body) ∈ s.served) :
    ∀ url, .segment url ∈ body → url.ValidAt time := by
  refine ((aged_of_reached (by linarith) h).served time body hserved).validAt ?_
  simp only [micros]
  linarith

/-! ## Two minutes -/

theorem next_serve {w : Nat} {hlsMasterKey variantName : String} {up : Up} {body : Playlist}
    {s' : HlsSite} (h : s.buildVariantPlaylist boot cfg w hlsMasterKey variantName
      cfg.playbackTokenExpirySeconds up = (some body, s')) :
    s.next boot cfg (.serve w hlsMasterKey variantName up) =
      { s' with served := s.served ++ [(s.now, body)] } := by
  simp [HlsSite.next, HlsSite.serve, h]

theorem build_own_hit {w : Nat} {hlsMasterKey variantName : String} {expiresIn : Int} {up : Up}
    {body : Playlist} (hown : (s.variants w).get (besideMaster hlsMasterKey variantName)
      (s.monotonic boot w) = some body) :
    s.buildVariantPlaylist boot cfg w hlsMasterKey variantName expiresIn up = (some body, s) := by
  simp only [HlsSite.buildVariantPlaylist, hown]

theorem build_shared_hit {w : Nat} {hlsMasterKey variantName : String} {expiresIn : Int} {up : Up}
    {body : Playlist} (hown : (s.variants w).get (besideMaster hlsMasterKey variantName)
      (s.monotonic boot w) = none) (hup : up.get = true)
    (hshared : s.sharedVariants.get ("hls:variant:" ++ cfg.mode ++ ":" ++
      besideMaster hlsMasterKey variantName) s.now = some body) :
    s.buildVariantPlaylist boot cfg w hlsMasterKey variantName expiresIn up =
      (some body, s.keepVariant boot w (besideMaster hlsMasterKey variantName) body
        playlistCacheTtl) := by
  simp only [HlsSite.buildVariantPlaylist, hown, hshared, hup, Option.filter_some, if_true]

section

variable (boot cfg)

def movieKey : String := "movies/a/hls/master.m3u8"

def renditionKey (cfg : HlsSettings) : String :=
  "hls:variant:" ++ cfg.mode ++ ":" ++ besideMaster movieKey "720p.m3u8"

def segmentBody (expiresIn : Int) (now : Time) : Playlist :=
  [.segment (.presigned (besideMaster movieKey "0.ts") now expiresIn)]

/-- One worker has signed the segment, and another one has found the playlist in Redis
just before it lapsed there. -/
def copied (now : Time) : HlsSite :=
  run boot cfg (fresh now fun _ => some ["0.ts"])
    [.serve 0 movieKey "720p.m3u8" ⟨true, true⟩,
      .wait (micros (min 60 cfg.playbackTokenExpirySeconds) - 1).toNat,
      .serve 1 movieKey "720p.m3u8" ⟨true, true⟩]

variable {boot cfg}

theorem rewrite_segment (hmode : cfg.mode = "presign") (expiresIn : Int) (now : Time) :
    rewriteVariantText cfg ["0.ts"] movieKey expiresIn now = segmentBody expiresIn now := by
  have huri : isUriLine "0.ts" = true := by decide +kernel
  have hstrip : stripText "0.ts" = "0.ts" := by decide +kernel
  simp [rewriteVariantText, generatePlaybackSegmentUrl, segmentBody, huri, hstrip, hmode]

/-- The first call signs the segment and stores the playlist in Redis. -/
theorem serve_first (boot : Nat → Time) (hmode : cfg.mode = "presign") (now : Time) :
    let s := (fresh now fun _ => some ["0.ts"]).next boot cfg
      (.serve 0 movieKey "720p.m3u8" ⟨true, true⟩)
    s.now = now ∧ s.variants 1 = (fun _ => none) ∧ s.sharedVariants (renditionKey cfg) =
      some (segmentBody cfg.playbackTokenExpirySeconds now,
        redisDeadline now (min playlistCacheTtl cfg.playbackTokenExpirySeconds)) := by
  simp [next, serve, buildVariantPlaylist, getObjectText, fresh, TtlCache.get, TtlCache.put,
    HlsSite.keepVariant, HlsSite.shareVariant, keepRaw, rewrite_segment hmode, renditionKey]

/-- The other worker keeps its copy for another minute. -/
theorem copied_variants (boot : Nat → Time) (hmode : cfg.mode = "presign")
    (hpos : 1 ≤ cfg.playbackTokenExpirySeconds) (now : Time) :
    let copiedAt := now + micros (min 60 cfg.playbackTokenExpirySeconds) - 1
    (copied boot cfg now).now = copiedAt ∧
      (copied boot cfg now).variants 1 (besideMaster movieKey "720p.m3u8") =
        some (segmentBody cfg.playbackTokenExpirySeconds now,
          copiedAt - boot 1 + micros playlistCacheTtl) := by
  obtain ⟨hnow, hown, hshared⟩ := serve_first boot hmode now
  have hge : 1 ≤ min 60 cfg.playbackTokenExpirySeconds := le_min (by decide) hpos
  have hwait : ((micros (min 60 cfg.playbackTokenExpirySeconds) - 1).toNat : Int) =
      micros (min 60 cfg.playbackTokenExpirySeconds) - 1 := by
    refine Int.toNat_of_nonneg ?_
    simp only [micros]
    linarith
  have hfresh : now + (micros (min 60 cfg.playbackTokenExpirySeconds) - 1) <
      redisDeadline now (min playlistCacheTtl cfg.playbackTokenExpirySeconds) := by
    have hmax : max 1 (min playlistCacheTtl cfg.playbackTokenExpirySeconds) =
        min 60 cfg.playbackTokenExpirySeconds := max_eq_right hge
    rw [redisDeadline, hmax]
    linarith
  have hcopied : copied boot cfg now = (((fresh now fun _ => some ["0.ts"]).next boot cfg
      (.serve 0 movieKey "720p.m3u8" ⟨true, true⟩)).next boot cfg
        (.wait (micros (min 60 cfg.playbackTokenExpirySeconds) - 1).toNat)).next boot cfg
          (.serve 1 movieKey "720p.m3u8" ⟨true, true⟩) := rfl
  generalize (fresh now fun _ => some ["0.ts"]).next boot cfg
    (.serve 0 movieKey "720p.m3u8" ⟨true, true⟩) = s at hnow hown hshared hcopied
  generalize (micros (min 60 cfg.playbackTokenExpirySeconds) - 1).toNat = d at hwait hcopied
  have hbuild : (s.next boot cfg (.wait d)).buildVariantPlaylist boot cfg 1 movieKey "720p.m3u8"
      cfg.playbackTokenExpirySeconds ⟨true, true⟩ =
        (some (segmentBody cfg.playbackTokenExpirySeconds now),
          (s.next boot cfg (.wait d)).keepVariant boot 1 (besideMaster movieKey "720p.m3u8")
            (segmentBody cfg.playbackTokenExpirySeconds now) playlistCacheTtl) := by
    refine build_shared_hit ?_ rfl (TtlCache.get_eq_some.2 ⟨_, hshared, ?_⟩)
    · simp [HlsSite.next, hown, TtlCache.get]
    · simp only [HlsSite.next, hnow, hwait]
      exact hfresh
  rw [hcopied, next_serve hbuild]
  simp only [HlsSite.keepVariant, HlsSite.next, monotonic, hnow, hwait, Function.update_self,
    TtlCache.put]
  exact ⟨by ring, by ring_nf⟩

theorem copied_reached (boot : Nat → Time) (cfg : HlsSettings) (now : Time) :
    Reached boot cfg (fresh now fun _ => some ["0.ts"]) (copied boot cfg now) := by
  simp only [copied, run, List.foldl_cons, List.foldl_nil]
  exact .step _ (.step _ (.step _ .refl))

/-- A segment is served that was signed almost two minutes ago. -/
theorem served_after_two_minutes (boot : Nat → Time) (hmode : cfg.mode = "presign")
    (hpos : 1 ≤ cfg.playbackTokenExpirySeconds) (now : Time) :
    ∃ s, Reached boot cfg (fresh now fun _ => some ["0.ts"]) s ∧
      (now + micros (min 60 cfg.playbackTokenExpirySeconds) - 1 + (micros 60 - 1),
        segmentBody cfg.playbackTokenExpirySeconds now) ∈ s.served := by
  obtain ⟨hnow, hown⟩ := copied_variants boot hmode hpos now
  have hreached := copied_reached boot cfg now
  generalize copied boot cfg now = s at hnow hown hreached
  have hwait : ((micros 60 - 1).toNat : Int) = micros 60 - 1 := Int.toNat_of_nonneg (by decide)
  generalize (micros 60 - 1).toNat = d at hwait
  have hlive : (s.next boot cfg (.wait d)).monotonic boot 1 <
      now + micros (min 60 cfg.playbackTokenExpirySeconds) - 1 - boot 1 +
        micros playlistCacheTtl := by
    simp only [HlsSite.next, monotonic, hnow, hwait, playlistCacheTtl]
    linarith
  have hbuild : (s.next boot cfg (.wait d)).buildVariantPlaylist boot cfg 1 movieKey "720p.m3u8"
      cfg.playbackTokenExpirySeconds ⟨true, true⟩ =
        (some (segmentBody cfg.playbackTokenExpirySeconds now), s.next boot cfg (.wait d)) :=
    build_own_hit (TtlCache.get_eq_some.2 ⟨_, hown, hlive⟩)
  refine ⟨_, .step (.serve 1 movieKey "720p.m3u8" ⟨true, true⟩) (.step (.wait d) hreached), ?_⟩
  rw [next_serve hbuild]
  simp [HlsSite.next, hnow, hwait]

/-- In presign mode every segment URL that is served is still valid, in every run, if and
only if URLs are signed for two minutes or more. -/
theorem segments_valid_iff (boot : Nat → Time) (cfg : HlsSettings) (now : Time)
    (hmode : cfg.mode = "presign") (hpos : 1 ≤ cfg.playbackTokenExpirySeconds) :
    (∀ storage s, Reached boot cfg (fresh now storage) s → ∀ time body, (time, body) ∈ s.served →
      ∀ url, .segment url ∈ body → url.ValidAt time) ↔ 120 ≤ cfg.playbackTokenExpirySeconds := by
  constructor
  · intro h
    obtain ⟨s, hreached, hserved⟩ := served_after_two_minutes boot hmode hpos now
    have hvalid := h _ s hreached _ _ hserved _ (List.mem_singleton.2 rfl)
    by_contra hlong
    have hshort : cfg.playbackTokenExpirySeconds ≤ 119 := by omega
    simp only [SegmentUrl.ValidAt, micros] at hvalid
    rcases le_total cfg.playbackTokenExpirySeconds 60 with hle | hge
    · rw [min_eq_right hle] at hvalid
      linarith
    · rw [min_eq_left hge] at hvalid
      linarith
  · intro hlong storage s hreached time body hserved
    exact valid_of_reached hlong hreached hserved

def presigned (expiresIn : Int) : HlsSettings := ⟨"presign", "https://cdn", expiresIn⟩

/-- The default of six hours is long enough. -/
theorem six_hours_valid :
    (∀ storage s, Reached (fun _ => 0) (presigned 21600) (fresh 0 storage) s →
      ∀ time body, (time, body) ∈ s.served → ∀ url, .segment url ∈ body → url.ValidAt time) ↔
        (120 : Int) ≤ 21600 :=
  segments_valid_iff (fun _ => 0) (presigned 21600) 0 (by decide +kernel) (by decide)

/-- One minute is not: a URL is served that has expired 58 seconds ago. -/
theorem expired_segment_served :
    (run (fun _ => 0) (presigned 60) (fresh 0 fun _ => some ["0.ts"])
      [.serve 0 movieKey "720p.m3u8" ⟨true, true⟩, .wait 59000000,
        .serve 1 movieKey "720p.m3u8" ⟨true, true⟩, .wait 59000000,
        .serve 1 movieKey "720p.m3u8" ⟨true, true⟩]).served.getLast? =
      some (micros 118, [.segment (.presigned (besideMaster movieKey "0.ts") 0 60)]) ∧
    ¬ (SegmentUrl.presigned (besideMaster movieKey "0.ts") 0 60).ValidAt (micros 118) := by
  refine ⟨by decide +kernel, ?_⟩
  simp [SegmentUrl.ValidAt, micros]

end

end HlsSite

end MovieApi.Playback
