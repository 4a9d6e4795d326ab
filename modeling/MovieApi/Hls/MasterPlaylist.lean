import MovieApi.Hls.Attributes
import MovieApi.Sorting.Stable

/-!
# The order of a master playlist

`order_master_playlist_for_startup` lists the renditions by the number it finds after
the first `BANDWIDTH=` of their tags.  They come in the order of their `BANDWIDTH`
attributes exactly when that number calls the same pairs out of order.
-/

namespace MovieApi.Hls

open Text Sorting
open TelegramBot (strip)

-- the value of a decimal digit, in any script
variable (digit? : Char → Option Nat)

/-! ## Bandwidths -/

/-- `int` refuses longer texts: `sys.int_info.default_max_str_digits`. -/
def intMaxStrDigits : Nat := 4300

def bandwidthMark : List Char := "BANDWIDTH=".toList

/-- The digits that `_BANDWIDTH_RE` finds, none when it finds nothing. -/
def bandwidthDigits : Line → List Nat
  | [] => []
  | c :: line =>
      if bandwidthMark.isPrefixOf (c :: line) then
        match leadingDigits digit? ((c :: line).drop bandwidthMark.length) with
        | [] => bandwidthDigits line
        | d :: digits => d :: digits
      else bandwidthDigits line

/-- `_stream_inf_bandwidth`, if `int` can read the digits. -/
def streamInfBandwidth (inf : Line) : Nat := number (bandwidthDigits digit? inf)

/-- `int` raises. -/
def tooLong (inf : Line) : Bool :=
  decide (intMaxStrDigits < (bandwidthDigits digit? inf).length)

/-- The `BANDWIDTH` attribute of a tag, zero when it has none. -/
def bandwidth (inf : Line) : Nat := number (leadingDigits digit? (attributeValue "BANDWIDTH" inf))

/-! ## The scanner -/

def isStreamInf (line : Line) : Bool := "#EXT-X-STREAM-INF".toList.isPrefixOf line

/-- The loop over the lines; inside, the first argument is the tag whose URI is looked
for. -/
def scan : Option Line → List Line → List Line × List (Line × Line)
  | _, [] => ([], [])
  | none, line :: lines =>
      if isStreamInf line then scan (some line) lines
      else (line :: (scan none lines).1, (scan none lines).2)
  | some inf, candidate :: lines =>
      if isUriLine candidate then
        ((scan none lines).1, (inf, strip candidate) :: (scan none lines).2)
      else scan (some inf) lines

/-- The lines of the playlist written out. -/
def playlistLines (others : List Line) (pairs : List (Line × Line)) : List Line :=
  others ++ pairs.flatMap fun pair => [pair.1, pair.2]

/-- `order_master_playlist_for_startup`; nothing when it raises. -/
def orderMasterPlaylistForStartup (text : List Char) : Option (List Char) :=
  let (header, variants) := scan none (splitLines text)
  if variants.any fun variant => tooLong digit? variant.1 then none
  else some (joinLines (playlistLines header
    (sortOn (fun variant : Line × Line => streamInfBandwidth digit? variant.1) variants)))

/-! ## Playlists -/

/-- The lines are these other lines and these pairs of a tag and its URI, each URI on the
line after its tag. -/
inductive Layout : List Line → List Line → List (Line × Line) → Prop
  | nil : Layout [] [] []
  | other {line : Line} {lines others : List Line} {pairs : List (Line × Line)} :
      isStreamInf line = false → Layout lines others pairs →
        Layout (line :: lines) (line :: others) pairs
  | pair {inf uri : Line} {lines others : List Line} {pairs : List (Line × Line)} :
      isStreamInf inf = true → isUriLine uri = true → Layout lines others pairs →
        Layout (inf :: uri :: lines) others ((inf, strip uri) :: pairs)

/-- The playlist keeps its other lines in front, then lists every pair once, by
bandwidth and as before among equals, and ordering it again changes nothing. -/
def StartupOrder (text : List Char) (others : List Line) (pairs : List (Line × Line)) : Prop :=
  ∃ pairs' ordered, orderMasterPlaylistForStartup digit? text = some ordered ∧
    ordered = joinLines (playlistLines others pairs') ∧
    StableSort (fun pair : Line × Line => bandwidth digit? pair.1) pairs pairs' ∧
    orderMasterPlaylistForStartup digit? ordered = some ordered

variable {digit?} {text : List Char} {lines others : List Line} {pairs pairs' : List (Line × Line)}

theorem Layout.scan_eq (h : Layout lines others pairs) : scan none lines = (others, pairs) := by
  induction h with
  | nil => rfl
  | other hline _ ih => simp [scan, hline, ih]
  | pair hinf huri _ ih => simp [scan, hinf, huri, ih]

theorem Layout.others_spec (h : Layout lines others pairs) :
    ∀ line ∈ others, isStreamInf line = false ∧ line ∈ lines := by
  induction h with
  | nil => simp
  | other hline _ ih =>
      intro line hmem
      rcases List.mem_cons.1 hmem with rfl | hmem
      · exact ⟨hline, by simp⟩
      · exact ⟨(ih line hmem).1, List.mem_cons_of_mem _ (ih line hmem).2⟩
  | pair _ _ _ ih =>
      intro line hmem
      exact ⟨(ih line hmem).1, by simp [(ih line hmem).2]⟩

theorem Layout.pairs_spec (h : Layout lines others pairs) :
    ∀ pair ∈ pairs, isStreamInf pair.1 = true ∧ isUriLine pair.2 = true ∧
      strip pair.2 = pair.2 ∧ pair.1 ∈ lines ∧ ∃ uri ∈ lines, pair.2 = strip uri := by
  induction h with
  | nil => simp
  | other _ _ ih =>
      intro pair hmem
      obtain ⟨hinf, huri, hstrip, hline, uri, hin, heq⟩ := ih pair hmem
      exact ⟨hinf, huri, hstrip, by simp [hline], uri, by simp [hin], heq⟩
  | @pair inf uri _ _ _ hinf huri _ ih =>
      intro pair hmem
      rcases List.mem_cons.1 hmem with rfl | hmem
      · exact ⟨hinf, by rw [isUriLine_strip, huri], strip_strip uri, by simp, uri, by simp, rfl⟩
      · obtain ⟨hinf', huri', hstrip, hline, uri', hin, heq⟩ := ih pair hmem
        exact ⟨hinf', huri', hstrip, by simp [hline], uri', by simp [hin], heq⟩

theorem layout_playlistLines (hothers : ∀ line ∈ others, isStreamInf line = false)
    (hpairs : ∀ pair ∈ pairs, isStreamInf pair.1 = true ∧ isUriLine pair.2 = true ∧
      strip pair.2 = pair.2) : Layout (playlistLines others pairs) others pairs := by
  induction others with
  | nil =>
      induction pairs with
      | nil => exact .nil
      | cons pair pairs ih =>
          obtain ⟨hinf, huri, hstrip⟩ := hpairs pair (by simp)
          have hrest := Layout.pair hinf huri (ih fun pair' hmem => hpairs pair' (by simp [hmem]))
          rwa [hstrip] at hrest
  | cons line others ih =>
      exact .other (hothers line (by simp)) (ih fun line' hmem => hothers line' (by simp [hmem]))

theorem length_playlistLines (others : List Line) (pairs : List (Line × Line)) :
    (playlistLines others pairs).length = others.length + 2 * pairs.length := by
  simp [playlistLines, List.length_flatMap, Nat.mul_comm]

/-- The other lines and the pairs can be read off the lines. -/
theorem playlistLines_inj (h : playlistLines others pairs = playlistLines others pairs') :
    pairs = pairs' := by
  have hpairs := List.append_cancel_left h
  clear h
  induction pairs generalizing pairs' with
  | nil =>
      cases pairs' with
      | nil => rfl
      | cons pair' pairs' => simp at hpairs
  | cons pair pairs ih =>
      cases pairs' with
      | nil => simp at hpairs
      | cons pair' pairs' =>
          simp only [List.flatMap_cons, List.cons_append, List.nil_append, List.cons.injEq]
            at hpairs
          obtain ⟨hinf, huri, hrest⟩ := hpairs
          rw [ih hrest, Prod.ext hinf huri]

/-! ## What the function does -/

/-- The playlist it makes of lines that can be told apart. -/
theorem Layout.order_eq (h : Layout (splitLines text) others pairs) :
    orderMasterPlaylistForStartup digit? text =
      if pairs.any fun pair => tooLong digit? pair.1 then none
      else some (joinLines (playlistLines others
        (sortOn (fun pair : Line × Line => streamInfBandwidth digit? pair.1) pairs))) := by
  unfold orderMasterPlaylistForStartup
  rw [h.scan_eq]

/-- Reordered pairs make a playlist of the same layout, of unbroken lines. -/
theorem Layout.reordered (h : Layout (splitLines text) others pairs) (hperm : pairs'.Perm pairs) :
    Layout (playlistLines others pairs') others pairs' ∧
      ∀ line ∈ playlistLines others pairs', Unbroken line := by
  have hpairs (pair : Line × Line) (hmem : pair ∈ pairs') := h.pairs_spec pair (hperm.mem_iff.1 hmem)
  refine ⟨layout_playlistLines (fun line hmem => (h.others_spec line hmem).1) fun pair hmem =>
    ⟨(hpairs pair hmem).1, (hpairs pair hmem).2.1, (hpairs pair hmem).2.2.1⟩, fun line hmem => ?_⟩
  rcases List.mem_append.1 hmem with hmem | hmem
  · exact unbroken_of_splitLines (h.others_spec line hmem).2
  · obtain ⟨pair, hpair, hline⟩ := List.mem_flatMap.1 hmem
    obtain ⟨-, -, -, hinf, uri, huri, heq⟩ := hpairs pair hpair
    rcases List.mem_pair.1 hline with rfl | rfl
    · exact unbroken_of_splitLines hinf
    · exact heq ▸ unbroken_strip (unbroken_of_splitLines huri)

/-- The layout of a reordered playlist read back; without lines one empty line is left. -/
theorem Layout.again (h : Layout (splitLines text) others pairs) (hperm : pairs'.Perm pairs) :
    ∃ others', Layout (splitLines (joinLines (playlistLines others pairs'))) others' pairs' ∧
      joinLines (playlistLines others' pairs') = joinLines (playlistLines others pairs') := by
  obtain ⟨hlayout, hunbroken⟩ := h.reordered hperm
  by_cases hne : playlistLines others pairs' = []
  · have hlength := congrArg List.length hne
    rw [length_playlistLines, List.length_nil] at hlength
    have hothers : others = [] := List.length_eq_zero_iff.1 (by omega)
    have hpairs : pairs' = [] := List.length_eq_zero_iff.1 (by omega)
    subst hothers hpairs
    exact ⟨[[]], .other rfl .nil, rfl⟩
  · exact ⟨others, by rwa [splitLines_joinLines hne hunbroken], rfl⟩

/-- Which pairs a startup order lists. -/
theorem StartupOrder.pairs_eq (hlayout : Layout (splitLines text) others pairs)
    (h : StartupOrder digit? text others pairs) :
    (∀ pair ∈ pairs, tooLong digit? pair.1 = false) ∧
      StableSort (fun pair : Line × Line => bandwidth digit? pair.1) pairs
        (sortOn (fun pair : Line × Line => streamInfBandwidth digit? pair.1) pairs) := by
  obtain ⟨pairs', ordered, hordered, rfl, hsort, -⟩ := h
  rw [hlayout.order_eq] at hordered
  split at hordered
  · cases hordered
  · next hshort =>
      have hcode := (sortOn_stable (fun pair : Line × Line => streamInfBandwidth digit? pair.1)
        pairs).perm
      have hlines := joinLines_inj
        (by simp only [length_playlistLines, hcode.length_eq, hsort.perm.length_eq])
        (hlayout.reordered hcode).2 (hlayout.reordered hsort.perm).2 (Option.some.inj hordered)
      rw [playlistLines_inj hlines]
      exact ⟨fun pair hmem => by simpa using fun hlong => hshort (List.any_eq_true.2
        ⟨pair, hmem, hlong⟩), hsort⟩

/-- For every playlist in which each tag is followed by its URI: the renditions come out
in the order of their bandwidths exactly when `int` can read every number that is found
and these numbers call the same pairs out of order as the attributes. -/
theorem orders_by_bandwidth_iff (digit? : Char → Option Nat)
    (hlayout : Layout (splitLines text) others pairs) :
    StartupOrder digit? text others pairs ↔
      (∀ pair ∈ pairs, tooLong digit? pair.1 = false) ∧
      pairs.Pairwise fun pair pair' =>
        (streamInfBandwidth digit? pair'.1 < streamInfBandwidth digit? pair.1 ↔
          bandwidth digit? pair'.1 < bandwidth digit? pair.1) := by
  have hcode := sortOn_stable (fun pair : Line × Line => streamInfBandwidth digit? pair.1) pairs
  rw [← stableSort_iff hcode]
  constructor
  · exact StartupOrder.pairs_eq hlayout
  · rintro ⟨hshort, hsort⟩
    have hnone : (pairs.any fun pair => tooLong digit? pair.1) = false :=
      List.any_eq_false.2 fun pair hmem => by simp [hshort pair hmem]
    obtain ⟨others', hagain, hsame⟩ := hlayout.again hcode.perm
    refine ⟨_, _, by rw [hlayout.order_eq, hnone, if_neg (by simp)], rfl, hsort, ?_⟩
    -- the pairs are in order already
    have hnone' : ((sortOn (fun pair : Line × Line => streamInfBandwidth digit? pair.1) pairs).any
        fun pair => tooLong digit? pair.1) = false :=
      List.any_eq_false.2 fun pair hmem => by simp [hshort pair (hcode.perm.mem_iff.1 hmem)]
    have hfixed := (sortOn_stable (fun pair : Line × Line => streamInfBandwidth digit? pair.1)
      _).unique (.of_sorted hcode.sorted)
    rw [hagain.order_eq, hnone', if_neg (by simp), hfixed, hsame]

/-- A master playlist with two renditions, by their tags. -/
def Desk.master (first second : String) : List Line :=
  ["#EXTM3U".toList, first.toList, "4k.m3u8".toList, second.toList, "360p.m3u8".toList]

theorem Desk.layout {first second : String}
    (hsplit : splitLines (joinLines (Desk.master first second)) = Desk.master first second)
    (hfirst : isStreamInf first.toList = true) (hsecond : isStreamInf second.toList = true) :
    Layout (splitLines (joinLines (Desk.master first second))) ["#EXTM3U".toList]
      [(first.toList, "4k.m3u8".toList), (second.toList, "360p.m3u8".toList)] := by
  rw [hsplit]
  exact .other (by decide +kernel) (.pair hfirst (by decide +kernel)
    (.pair hsecond (by decide +kernel) .nil))

/-- The cheapest rendition comes first. -/
theorem cheapest_first : StartupOrder asciiDigit?
    (joinLines (Desk.master "#EXT-X-STREAM-INF:BANDWIDTH=900" "#EXT-X-STREAM-INF:BANDWIDTH=80"))
    ["#EXTM3U".toList] [("#EXT-X-STREAM-INF:BANDWIDTH=900".toList, "4k.m3u8".toList),
      ("#EXT-X-STREAM-INF:BANDWIDTH=80".toList, "360p.m3u8".toList)] :=
  (orders_by_bandwidth_iff asciiDigit? (Desk.layout (by decide +kernel) (by decide +kernel)
    (by decide +kernel))).2 (by decide +kernel)

/-- The average of the first tag hides its peak. -/
theorem average_hides_peak : ∃ text others pairs, Layout (splitLines text) others pairs ∧
    ¬ StartupOrder asciiDigit? text others pairs := by
  have hlayout := @Desk.layout "#EXT-X-STREAM-INF:AVERAGE-BANDWIDTH=70,BANDWIDTH=900"
    "#EXT-X-STREAM-INF:BANDWIDTH=80" (by decide +kernel) (by decide +kernel) (by decide +kernel)
  refine ⟨_, _, _, hlayout, fun horder => ?_⟩
  have hsorted := (horder.pairs_eq hlayout).2.sorted
  revert hsorted
  decide +kernel

end MovieApi.Hls
