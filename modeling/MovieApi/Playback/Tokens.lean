import MovieApi.Playback.Access
import MovieApi.Playback.Playlists
import MovieApi.Publishing.SlugFolders

/-!
# Tokens and what they open

One secret signs access tokens and playback tokens of titles and of channels.  A token
stands here for its payload; one that was never issued is any other text, whose
signature is wrong.
-/

namespace MovieApi.Playback

open Sql
open Accounts (Uuid Instant Err User Claims)
open Catalog (isFreeToday)

/-! ## Stored titles -/

/-- A key that the transcoder stores for a title. -/
def LaidOut (key : String) : Prop :=
  ∃ sourceKey contentId : String, contentId ≠ "" ∧ '/' ∉ contentId.toList ∧
    key = Publishing.hlsMasterKeyForSourceKey sourceKey contentId

/-- Tables whose titles are stored where the service stores them. -/
structure Library where
  db : Db
  laidOut : ∀ content ∈ db.contents, ∀ key, content.hlsMasterKey = some key → key ≠ "" →
    LaidOut key

/-! ## Payloads -/

/-- `exp` is in microseconds like the clock. -/
structure Payload where
  sub : Uuid
  scope : Option String
  role : Option String
  sid : Option Uuid
  ver : Option Nat
  exp : Time
deriving DecidableEq, Repr

/-- The payload of an access token. -/
def accessPayload (claims : Claims) : Payload :=
  ⟨claims.sub, none, some claims.role, some claims.sid, claims.ver, claims.exp⟩

/-- Whole seconds, as `exp` is written. -/
def wholeSeconds (t : Time) : Time := t / 1000000 * 1000000

def scopedPayload (scope : String) (id : Uuid) (now : Time) (expiresIn : Int) : Payload :=
  ⟨id, some scope, none, none, none, wholeSeconds (now + micros expiresIn)⟩

/-- `create_playback_token`. -/
def createPlaybackToken (contentId : Uuid) (now : Time) (expiresIn : Int) : Payload :=
  scopedPayload "playback" contentId now expiresIn

/-- `create_channel_playback_token`. -/
def createChannelPlaybackToken (channelId : Uuid) (now : Time) (expiresIn : Int) : Payload :=
  scopedPayload "tv_playback" channelId now expiresIn

/-! ## The service -/

structure TokenSettings where
  accounts : Accounts.Settings
  playbackTokenExpirySeconds : Int
  tvPlaybackTokenExpirySeconds : Int

/-- An authorize call that handed out a token: what it was asked for, when, by whom, and
the tables that it decided on. -/
inductive Grant where
  | title (contentId : Uuid) (now : Time) (user : Option User) (guestId : Option String) (db : Db)
  | preview (contentId : Uuid) (now : Time) (admin : User) (db : Db)
  | channel (channelId : Uuid) (now : Time) (user : Option User) (db : Db)

/-- `issued` are the tokens that were ever signed, `grants` the authorize calls behind the
playback tokens among them. -/
structure Service where
  now : Time
  library : Library
  issued : List Payload
  grants : List Grant

inductive Refusal where
  | badRequest (detail : String)
  | err (err : Err)
deriving DecidableEq, Repr

namespace Service

variable (cfg : TokenSettings) (s : Service)

/-- `jwt.decode`. -/
def decode (token : Payload) : Option Payload :=
  if token ∈ s.issued ∧ s.now < token.exp then some token else none

/-- `jwt.decode` without the check of `exp`. -/
def decodeExpired (token : Payload) : Option Payload :=
  if token ∈ s.issued then some token else none

def invalidPayload : Err := .unauthorized "Invalid token payload"

/-- The claims of a payload that names a session. -/
def claimsOf (payload : Payload) : Except Err Claims :=
  match payload.sid with
  | none => .error invalidPayload
  | some sid => .ok ⟨payload.sub, payload.role.getD "", sid, payload.ver, payload.exp⟩

/-! ## Accounts -/

/-- `get_current_user`. -/
def getCurrentUser (token : Payload) : Except Err User := do
  match s.decode token with
  | none => .error (.unauthorized "Could not validate credentials")
  | some payload =>
      let claims ← claimsOf payload
      Accounts.getCurrentUser s.now claims s.library.db.accounts

/-- `get_current_user_optional`. -/
def getCurrentUserOptional (credentials : Option Payload) : Option User :=
  credentials.bind fun token => (s.getCurrentUser token).toOption

/-- `require_admin`. -/
def requireAdmin (token : Payload) : Except Err User := do
  let user ← s.getCurrentUser token
  if user.role = "admin" then .ok user else .error (.forbidden "Admin access required")

/-- `refresh_session`. -/
def refreshSession (token : Payload) : Except Err Claims := do
  match s.decodeExpired token with
  | none => .error (.unauthorized "Could not validate credentials")
  | some payload =>
      let claims ← claimsOf payload
      (Accounts.refreshSession cfg.accounts s.now claims s.library.db.accounts).1

/-! ## Authorize calls -/

/-- What `authorize_playback` resolves once for both checks. -/
def freeTodayFlag (d : Db) (content : Content) : Option Bool :=
  if content.type = .single ∧ content.isFree = false then some (isFreeToday d.rails content.id)
  else none

/-- The tables on which the entitlement was found: those of the call, or those that hold
the purchases of a payment it has settled. -/
def entitledOn (user : Option User) (guestId : Option String) (content : Content)
    (settled : Option (List Purchase)) : Option Db :=
  let d := s.library.db
  let flag := freeTodayFlag d content
  if d.canAccessContent s.now user guestId content flag then some d
  else
    match settled.filter fun _ => decide (content.type = .single) with
    | none => none
    | some purchases =>
        let paid := { d with purchases := purchases }
        if paid.canAccessContent s.now user guestId content flag then some paid else none

def notReady : Err := .conflict "This title is not ready to stream yet"

/-- `if not content.hls_master_key`. -/
def readyKey (content : Content) : Except Err String :=
  match content.hlsMasterKey.filter fun key => decide (key ≠ "") with
  | none => .error notReady
  | some key => .ok key

/-- `authorize_playback`; `settled` are the purchases when the call settles a payment. -/
def authorizePlayback (contentId : Uuid) (credentials : Option Payload) (guestId : Option String)
    (settled : Option (List Purchase)) : Except Err Grant := do
  let user := s.getCurrentUserOptional credentials
  let content ← s.library.db.publishedContent contentId user
  let guestId := if user.isSome then none else guestId
  match s.entitledOn user guestId content settled with
  | none => .error (.forbidden "You do not have access to this title")
  | some d =>
      let _ ← readyKey content
      .ok (.title contentId s.now user guestId d)

/-- `admin_authorize_playback`. -/
def adminAuthorizePlayback (contentId : Uuid) (token : Payload) : Except Err Grant := do
  let admin ← s.requireAdmin token
  match s.library.db.content? contentId with
  | none => .error (.notFound "Content not found")
  | some content =>
      let _ ← readyKey content
      .ok (.preview contentId s.now admin s.library.db)

/-- `_published_channel_or_404`. -/
def publishedChannel (d : Db) (channelId : Uuid) : Except Err TVChannel :=
  match (lookup TVChannel.id channelId d.channels).filter TVChannel.isPublished with
  | none => .error (.notFound "Channel not found")
  | some channel => .ok channel

def notLive : Err := .conflict "This channel is not live right now"

/-- The address of a channel in one of these states. -/
def liveUrl (states : List String) (channel : TVChannel) : Except Err String :=
  match channel.hlsPlaybackUrl.filter fun url => decide (url ≠ "") with
  | none => .error notLive
  | some url => if channel.status ∈ states then .ok url else .error notLive

/-- `authorize_channel_playback`. -/
def authorizeChannelPlayback (channelId : Uuid) (credentials : Option Payload) :
    Except Err Grant := do
  let user := s.getCurrentUserOptional credentials
  let channel ← publishedChannel s.library.db channelId
  if s.library.db.canAccessChannel s.now user channel then
    let _ ← liveUrl ["live", "starting"] channel
    .ok (.channel channelId s.now user s.library.db)
  else
    .error (.forbidden "You do not have access to this channel")

end Service

/-- The token that an authorize call hands out. -/
def Grant.token (cfg : TokenSettings) : Grant → Payload
  | title contentId now _ _ _ => createPlaybackToken contentId now cfg.playbackTokenExpirySeconds
  | preview contentId now _ _ => createPlaybackToken contentId now cfg.playbackTokenExpirySeconds
  | channel channelId now _ _ =>
      createChannelPlaybackToken channelId now cfg.tvPlaybackTokenExpirySeconds

/-! ## Playlists -/

def isNameChar (c : Char) : Bool :=
  c.isAlphanum || decide (c = '_' ∨ c = '.' ∨ c = '-')

/-- `[A-Za-z0-9_.-]+\.m3u8`. -/
def isRenditionFile (name : List Char) : Bool :=
  let stem := name.take (name.length - ".m3u8".length)
  decide (name = stem ++ ".m3u8".toList ∧ stem ≠ []) && stem.all isNameChar

/-- `_VARIANT_NAME_RE.match`: `$` also matches before a newline at the end. -/
def isRendition (name : List Char) : Bool :=
  isRenditionFile name || decide (name.getLast? = some '\n') && isRenditionFile name.dropLast

namespace Service

variable (s : Service)

/-- The payload of a token for this scope and id. -/
def verifyScoped (scope detail : String) (token : Payload) (id : Uuid) : Except Err Unit :=
  match s.decode token with
  | none => .error (.unauthorized "Invalid or expired playback token")
  | some payload =>
      if payload.scope = some scope ∧ payload.sub = id then .ok () else .error (.forbidden detail)

/-- `verify_playback_token`. -/
def verifyPlaybackToken (token : Payload) (contentId : Uuid) : Except Err Unit :=
  s.verifyScoped "playback" "Playback token does not grant access to this content" token contentId

/-- `verify_channel_playback_token`. -/
def verifyChannelPlaybackToken (token : Payload) (channelId : Uuid) : Except Err Unit :=
  s.verifyScoped "tv_playback" "Playback token does not grant access to this channel" token
    channelId

/-- `_content_or_404`, with the key of the master playlist. -/
def contentOr404 (contentId : Uuid) : Except Err String :=
  match s.library.db.content? contentId with
  | none => .error (.notFound "Content not found")
  | some content => readyKey content

/-- `master_playlist`: the object whose text is rewritten. -/
def masterPlaylist (contentId : Uuid) (token : Payload) : Except Refusal String :=
  (do
    s.verifyPlaybackToken token contentId
    s.contentOr404 contentId).mapError .err

/-- `variant_playlist`: the object whose text is rewritten. -/
def variantPlaylist (contentId : Uuid) (name : String) (token : Payload) :
    Except Refusal String :=
  if isRendition name.toList then
    (do
      s.verifyPlaybackToken token contentId
      let hlsMasterKey ← s.contentOr404 contentId
      return besideMaster hlsMasterKey name).mapError .err
  else .error (.badRequest "Invalid rendition")

/-- `channel_live_playlist`: the address whose playlist is rewritten. -/
def channelLivePlaylist (channelId : Uuid) (token : Payload) : Except Refusal String :=
  (do
    s.verifyChannelPlaybackToken token channelId
    let channel ← publishedChannel s.library.db channelId
    liveUrl ["live"] channel).mapError .err

end Service

/-! ## Runs -/

inductive Action where
  | wait (d : Nat)
  /-- Requests that are not listed here change the tables. -/
  | change (library : Library)
  /-- A sign-in or a refresh signs an access token. -/
  | signAccess (claims : Claims)
  | authorize (contentId : Uuid) (credentials : Option Payload) (guestId : Option String)
      (settled : Option (List Purchase))
  | adminAuthorize (contentId : Uuid) (token : Payload)
  | authorizeChannel (channelId : Uuid) (credentials : Option Payload)

namespace Service

variable (cfg : TokenSettings)

/-- A call that has passed hands out its token. -/
def handOut (s : Service) : Except Err Grant → Service
  | .error _ => s
  | .ok grant => { s with issued := grant.token cfg :: s.issued, grants := grant :: s.grants }

def next (s : Service) : Action → Service
  | .wait d => { s with now := s.now + d }
  | .change library => { s with library := library }
  | .signAccess claims => { s with issued := accessPayload claims :: s.issued }
  | .authorize contentId credentials guestId settled =>
      s.handOut cfg (s.authorizePlayback contentId credentials guestId settled)
  | .adminAuthorize contentId token => s.handOut cfg (s.adminAuthorizePlayback contentId token)
  | .authorizeChannel channelId credentials =>
      s.handOut cfg (s.authorizeChannelPlayback channelId credentials)

def run (s : Service) (actions : List Action) : Service := actions.foldl (next cfg) s

/-- No token has been signed yet. -/
def fresh (now : Time) (library : Library) : Service := ⟨now, library, [], []⟩

end Service

end MovieApi.Playback
