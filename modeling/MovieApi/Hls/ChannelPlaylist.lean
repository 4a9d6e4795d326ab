import MovieApi.Hls.Attributes
import MovieApi.Text.Url

/-!
# Playlists of live channels

`services/live_playback.py`.  The lines that are references become URLs of the origin;
the quoted `URI` attributes of tags are references too, and stay as they are.
-/

namespace MovieApi.Hls

open Text
open TelegramBot (strip)

/-! ## The rewrite -/

inductive Err where
  | badGateway (detail : String)
  /-- `urljoin` raises -/
  | value
deriving DecidableEq, Repr

def isHttps (url : Line) : Bool := "https://".toList.isPrefixOf url

/-- `_secure_media_url`. -/
def secureMediaUrl (allowInsecure : Bool) (url : Line) : Except Err Line :=
  if isHttps url then .ok url
  else if allowInsecure && "http://".toList.isPrefixOf url then .ok url
  else .error (.badGateway "Live channel media must use HTTPS")

-- the network locations that `urlsplit` does not refuse
variable (validNetloc : List Char → Bool)

/-- One line of the channel's playlist. -/
def channelLine (allowInsecure : Bool) (hlsUrl line : Line) : Except Err Line :=
  if isUriLine line then
    match urlJoin validNetloc hlsUrl (strip line) with
    | none => .error .value
    | some resolved => secureMediaUrl allowInsecure resolved
  else .ok line

/-- The loop over the lines. -/
def channelLines (allowInsecure : Bool) (hlsUrl : Line) : List Line → Except Err (List Line)
  | [] => .ok []
  | line :: lines => do
      let first ← channelLine validNetloc allowInsecure hlsUrl line
      let rest ← channelLines allowInsecure hlsUrl lines
      return first :: rest

/-- `build_channel_playlist`; `fetch` is `_fetch_playlist_text`. -/
def buildChannelPlaylist (fetch : Line → Except Err (List Char)) (allowInsecure : Bool)
    (hlsUrl : Line) : Except Err (List Char) := do
  let hlsUrl ← secureMediaUrl allowInsecure hlsUrl
  let text ← fetch hlsUrl
  let out ← channelLines validNetloc allowInsecure hlsUrl (splitLines text)
  return joinLines out

/-! ## References of a line -/

/-- The text between the quotes of a quoted string. -/
def quoted : List Char → Option (List Char)
  | '"' :: text => if '"' ∈ text then some (cut '"' text).1 else none
  | _ => none

def isTag (line : Line) : Bool := "#EXT".toList.isPrefixOf line

/-- What the quoted `URI` attributes of a tag refer to. -/
def uriAttributes (line : Line) : List Line :=
  if isTag line then
    (attributes line).filterMap fun field => if field.1 = "URI".toList then quoted field.2 else none
  else []

/-- A tag without the values of its quoted `URI` attributes, and any other line whole. -/
def otherText (line : Line) : Line × List (List Char × List Char) :=
  if isTag line then
    (line.takeWhile fun c => c ≠ ':', (attributes line).map fun field =>
      if field.1 = "URI".toList ∧ (quoted field.2).isSome then (field.1, []) else field)
  else (line, [])

/-- The reference resolves to this URL, which is an absolute `https` URL. -/
def Resolves (hlsUrl reference url : Line) : Prop :=
  urlJoin validNetloc hlsUrl reference = some url ∧ isHttps url = true

/-- The references of a line are resolved, and everything else stays. -/
def Secured (hlsUrl line out : Line) : Prop :=
  if isUriLine line then Resolves validNetloc hlsUrl (strip line) out
  else otherText out = otherText line ∧
    List.Forall₂ (Resolves validNetloc hlsUrl) (uriAttributes line) (uriAttributes out)

variable {validNetloc} {fetch : Line → Except Err (List Char)} {hlsUrl line out : Line}
  {text : List Char} {lines outs : List Line}

theorem secureMediaUrl_eq_ok {url url' : Line} :
    secureMediaUrl false url = .ok url' ↔ isHttps url = true ∧ url' = url := by
  unfold secureMediaUrl
  cases isHttps url <;> simp [eq_comm]

theorem channelLine_of_uri (h : isUriLine line = true) :
    channelLine validNetloc false hlsUrl line = .ok out ↔
      Resolves validNetloc hlsUrl (strip line) out := by
  unfold channelLine Resolves
  rw [if_pos h]
  cases urlJoin validNetloc hlsUrl (strip line) with
  | none => simp
  | some resolved =>
      show secureMediaUrl false resolved = _ ↔ _
      rw [secureMediaUrl_eq_ok, Option.some.injEq]
      constructor
      · rintro ⟨hhttps, rfl⟩
        exact ⟨rfl, hhttps⟩
      · rintro ⟨rfl, hhttps⟩
        exact ⟨hhttps, rfl⟩

theorem channelLine_of_other (h : isUriLine line = false) :
    channelLine validNetloc false hlsUrl line = .ok out ↔ out = line := by
  unfold channelLine
  rw [h, if_neg (by simp), Except.ok.injEq, eq_comm]

theorem channelLines_eq_ok : channelLines validNetloc false hlsUrl lines = .ok outs ↔
    List.Forall₂ (fun line out => channelLine validNetloc false hlsUrl line = .ok out) lines outs := by
  induction lines generalizing outs with
  | nil => simp [channelLines, eq_comm]
  | cons line lines ih =>
      rw [channelLines]
      cases hfirst : channelLine validNetloc false hlsUrl line with
      | error e => simp [bind, Except.bind, List.forall₂_cons_left_iff, hfirst]
      | ok first =>
          cases hrest : channelLines validNetloc false hlsUrl lines with
          | error e =>
              simp only [bind, Except.bind, reduceCtorEq, List.forall₂_cons_left_iff, hfirst, false_iff]
              rintro ⟨-, rest, -, hforall, -⟩
              rw [hrest] at ih
              exact absurd (ih.2 hforall) (by simp)
          | ok rest =>
              simp only [bind, Except.bind, pure, Except.pure, Except.ok.injEq,
                List.forall₂_cons_left_iff, hfirst, ← ih, hrest]
              constructor
              · rintro rfl
                exact ⟨first, rest, rfl, rfl, rfl⟩
              · rintro ⟨first', rest', rfl, rfl, rfl⟩
                rfl

/-- The loop goes through when every reference on a line of its own can be secured. -/
theorem exists_channelLines : (∃ outs, channelLines validNetloc false hlsUrl lines = .ok outs) ↔
    ∀ line ∈ lines, isUriLine line = true → ∃ url, Resolves validNetloc hlsUrl (strip line) url := by
  simp only [channelLines_eq_ok]
  induction lines with
  | nil => simp
  | cons line lines ih =>
      simp only [List.forall₂_cons_left_iff, List.forall_mem_cons, ← ih]
      have hline : (∃ out, channelLine validNetloc false hlsUrl line = .ok out) ↔
          (isUriLine line = true → ∃ url, Resolves validNetloc hlsUrl (strip line) url) := by
        cases huri : isUriLine line with
        | true => simp [channelLine_of_uri huri]
        | false => simp [channelLine_of_other huri]
      rw [← hline]
      constructor
      · rintro ⟨-, out, outs, hout, houts, -⟩
        exact ⟨⟨out, hout⟩, outs, houts⟩
      · rintro ⟨⟨out, hout⟩, outs, houts⟩
        exact ⟨_, out, outs, hout, houts, rfl⟩

theorem buildChannelPlaylist_eq (hhttps : isHttps hlsUrl = true) (hfetch : fetch hlsUrl = .ok text) :
    buildChannelPlaylist validNetloc fetch false hlsUrl =
      (channelLines validNetloc false hlsUrl (splitLines text)).map joinLines := by
  simp only [buildChannelPlaylist, secureMediaUrl, hhttps, if_true, bind, Except.bind, hfetch]
  cases channelLines validNetloc false hlsUrl (splitLines text) <;> rfl

/-! ## Every playlist -/

variable (validNetloc) in
/-- The call raises, or its lines are those of the playlist with every reference made an
absolute `https` URL. -/
def SecuresEveryReference (fetch : Line → Except Err (List Char)) (hlsUrl : Line)
    (text : List Char) : Prop :=
  (∃ e, buildChannelPlaylist validNetloc fetch false hlsUrl = .error e) ∨
    ∃ outs, buildChannelPlaylist validNetloc fetch false hlsUrl = .ok (joinLines outs) ∧
      channelLines validNetloc false hlsUrl (splitLines text) = .ok outs ∧
      List.Forall₂ (Secured validNetloc hlsUrl) (splitLines text) outs

theorem secured_of_channelLine (h : channelLine validNetloc false hlsUrl line = .ok out) :
    Secured validNetloc hlsUrl line out ↔ (isUriLine line = false →
      ∀ reference ∈ uriAttributes line, Resolves validNetloc hlsUrl reference reference) := by
  unfold Secured
  cases huri : isUriLine line with
  | true => simpa using (channelLine_of_uri huri).1 h
  | false =>
      obtain rfl := (channelLine_of_other huri).1 h
      simp [List.forall₂_same]

theorem forall₂_secured
    (h : List.Forall₂ (fun line out => channelLine validNetloc false hlsUrl line = .ok out)
      lines outs) :
    List.Forall₂ (Secured validNetloc hlsUrl) lines outs ↔ ∀ line ∈ lines, isUriLine line = false →
      ∀ reference ∈ uriAttributes line, Resolves validNetloc hlsUrl reference reference := by
  induction h with
  | nil => simp
  | cons hfirst _ ih =>
      rw [List.forall₂_cons, ih, secured_of_channelLine hfirst, List.forall_mem_cons]

/-- For every playlist fetched for a channel: every reference is secured or the call raises
exactly when the channel's own URL or a reference on a line of its own cannot be secured,
or every quoted `URI` attribute is already the `https` URL it resolves to. -/
theorem secures_every_reference_iff (validNetloc : List Char → Bool)
    (hfetch : fetch hlsUrl = .ok text) :
    SecuresEveryReference validNetloc fetch hlsUrl text ↔
      isHttps hlsUrl = false ∨
      (∃ line ∈ splitLines text, isUriLine line = true ∧
        ∀ url, ¬ Resolves validNetloc hlsUrl (strip line) url) ∨
      ∀ line ∈ splitLines text, isUriLine line = false →
        ∀ reference ∈ uriAttributes line, Resolves validNetloc hlsUrl reference reference := by
  unfold SecuresEveryReference
  cases hhttps : isHttps hlsUrl with
  | false =>
      simp [buildChannelPlaylist, secureMediaUrl, hhttps, bind, Except.bind]
  | true =>
      rw [buildChannelPlaylist_eq hhttps hfetch]
      cases hlines : channelLines validNetloc false hlsUrl (splitLines text) with
      | error e =>
          have hnone : ¬ ∃ outs, channelLines validNetloc false hlsUrl (splitLines text) =
              .ok outs := by simp [hlines]
          rw [exists_channelLines] at hnone
          push Not at hnone
          exact ⟨fun _ => .inr (.inl hnone), fun _ => .inl ⟨e, rfl⟩⟩
      | ok outs =>
          have hall := exists_channelLines.1 ⟨outs, hlines⟩
          have hsecured := forall₂_secured (channelLines_eq_ok.1 hlines)
          constructor
          · rintro (⟨e, he⟩ | ⟨outs', -, houts', hsec⟩)
            · cases he
            · obtain rfl := Except.ok.inj houts'
              exact .inr (.inr (hsecured.1 hsec))
          · rintro (hfalse | ⟨line, hmem, huri, hunresolved⟩ | hattributes)
            · cases hfalse
            · obtain ⟨url, hurl⟩ := hall line hmem huri
              exact absurd hurl (hunresolved url)
            · exact .inr ⟨outs, rfl, rfl, hsecured.2 hattributes⟩

def Desk.channel : Line := "https://tv.example/live/index.m3u8".toList

def Desk.header : Line := "#EXTM3U".toList

def Desk.initialization : Line := "#EXT-X-MAP:URI=\"init.mp4\"".toList

def Desk.segment : Line := "seg1.ts".toList

/-- The text of two lines, fetched. -/
def Desk.answer (first : Line) : Line → Except Err (List Char) :=
  fun _ => .ok (joinLines [first, Desk.segment])

/-- A playlist of segments only is secured. -/
theorem segments_secured : SecuresEveryReference (fun _ => true) (Desk.answer Desk.header)
    Desk.channel (joinLines [Desk.header, Desk.segment]) := by
  have hlines : splitLines (joinLines [Desk.header, Desk.segment]) =
      [Desk.header, Desk.segment] := by decide +kernel
  have hheader : uriAttributes Desk.header = [] := by decide +kernel
  have hsegment : isUriLine Desk.segment = true := by decide +kernel
  have hattributes : ∀ line ∈ splitLines (joinLines [Desk.header, Desk.segment]),
      isUriLine line = false → ∀ reference ∈ uriAttributes line,
        Resolves (fun _ => true) Desk.channel reference reference := by
    rw [hlines]
    simp [hheader, hsegment]
  exact (secures_every_reference_iff (fun _ => true) (rfl : Desk.answer Desk.header Desk.channel =
    .ok (joinLines [Desk.header, Desk.segment]))).2 (.inr (.inr hattributes))

/-- The initialization segment stays a relative reference. -/
theorem initialization_left_relative : ¬ SecuresEveryReference (fun _ => true)
    (Desk.answer Desk.initialization) Desk.channel
      (joinLines [Desk.initialization, Desk.segment]) := by
  rintro (⟨e, he⟩ | ⟨outs, -, houts, hsecured⟩)
  · have hok : (buildChannelPlaylist (fun _ => true) (Desk.answer Desk.initialization) false
        Desk.channel).toOption.isSome = true := by decide +kernel
    rw [he] at hok
    cases hok
  · have hlines : splitLines (joinLines [Desk.initialization, Desk.segment]) =
        [Desk.initialization, Desk.segment] := by decide +kernel
    rw [hlines] at houts hsecured
    obtain ⟨first, rest, hfirst, -, rfl⟩ :=
      List.forall₂_cons_left_iff.1 (channelLines_eq_ok.1 houts)
    have htag : isUriLine Desk.initialization = false := by decide +kernel
    have hattribute : uriAttributes Desk.initialization = ["init.mp4".toList] := by decide +kernel
    have hself := (secured_of_channelLine hfirst).1 (List.forall₂_cons.1 hsecured).1 htag
      "init.mp4".toList (by rw [hattribute, List.mem_singleton])
    have hrelative : isHttps "init.mp4".toList = false := by decide +kernel
    rw [hself.2] at hrelative
    cases hrelative

end MovieApi.Hls
