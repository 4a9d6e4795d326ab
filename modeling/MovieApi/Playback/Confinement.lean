import MovieApi.Playback.Tokens

/-!
# Playback tokens open one title

Every signed token is an access token or comes from an authorize call that has passed.
A playlist is read for the id of that call only, from the folder of the title, and
neither kind of token passes for the other.
-/

namespace MovieApi.Playback

open Accounts (Uuid Instant Err User Claims)
open Service (publishedChannel)

variable {cfg : TokenSettings} {s : Service} {token : Payload} {id : Uuid} {grant : Grant}

/-! ## Folders -/

/-- The object lies directly in the folder of a master playlist. -/
def InFolderOf (hlsMasterKey key : String) : Prop :=
  dirname key.toList = dirname hlsMasterKey.toList ∧
    ∃ name : List Char, '/' ∉ name ∧ key.toList = dirname hlsMasterKey.toList ++ '/' :: name

theorem dirname_append {folder name : List Char} {c : Char} (hc : c ≠ '/') (hname : '/' ∉ name) :
    dirname ((folder ++ [c]) ++ '/' :: name) = folder ++ [c] := by
  have hdrop : ((folder ++ [c]) ++ '/' :: name).reverse.dropWhile (fun c => decide (c ≠ '/')) =
      '/' :: c :: folder.reverse := by
    rw [show ((folder ++ [c]) ++ '/' :: name).reverse =
      name.reverse ++ '/' :: c :: folder.reverse by simp]
    rw [List.dropWhile_append_of_pos]
    · simp
    · intro d hd
      have hne : d ≠ '/' := fun heq => hname (heq ▸ List.mem_reverse.1 hd)
      simp [hne]
  have hhead : (((folder ++ [c]) ++ '/' :: name).reverse.dropWhile
      (fun c => decide (c ≠ '/'))).reverse = (folder ++ [c]) ++ ['/'] := by
    rw [hdrop]
    simp
  simp only [dirname, hhead]
  rw [if_neg (by simp [hc])]
  simp [hc]

/-- The folder that a stored master playlist lies in. -/
theorem LaidOut.folder {key : String} (h : LaidOut key) :
    ∃ folder c, c ≠ '/' ∧ key.toList = (folder ++ [c]) ++ '/' :: "master.m3u8".toList := by
  obtain ⟨sourceKey, contentId, hne, hslash, rfl⟩ := h
  have hprefix : ∃ folder c, c ≠ '/' ∧
      (Publishing.hlsPrefixForSourceKey sourceKey contentId).toList = folder ++ [c] := by
    rw [Publishing.hlsPrefixForSourceKey]
    split
    · next slug _ =>
        exact ⟨(Publishing.movieDir (String.ofList slug)).toList ++ "/hl".toList, 's', by decide,
          by simp [Publishing.movieHlsPrefix]⟩
    · split
      · next seriesSlug episodeSlug _ =>
          exact ⟨(Publishing.episodeDir (String.ofList seriesSlug)
            (String.ofList episodeSlug)).toList ++ "/hl".toList, 's', by decide,
              by simp [Publishing.episodeHlsPrefix]⟩
      · have hchars : contentId.toList ≠ [] := by simpa using hne
        refine ⟨"hls/".toList ++ contentId.toList.dropLast, contentId.toList.getLast hchars,
          fun heq => hslash (heq ▸ List.getLast_mem hchars), ?_⟩
        rw [String.toList_append, List.append_assoc, List.dropLast_append_getLast]
  obtain ⟨folder, c, hc, hkey⟩ := hprefix
  refine ⟨folder, c, hc, ?_⟩
  rw [Publishing.hlsMasterKeyForSourceKey, String.toList_append, hkey]
  simp

theorem LaidOut.inFolderOf_self {key : String} (h : LaidOut key) : InFolderOf key key := by
  obtain ⟨folder, c, hc, hkey⟩ := h.folder
  refine ⟨rfl, "master.m3u8".toList, by decide, ?_⟩
  rw [hkey, dirname_append hc (by decide)]

theorem LaidOut.inFolderOf_besideMaster {key name : String} (h : LaidOut key)
    (hname : '/' ∉ name.toList) : InFolderOf key (besideMaster key name) := by
  obtain ⟨folder, c, hc, hkey⟩ := h.folder
  have hfolder : dirname key.toList = folder ++ [c] := by
    rw [hkey, dirname_append hc (by decide)]
  have hbeside : (besideMaster key name).toList = dirname key.toList ++ '/' :: name.toList := by
    simp [besideMaster]
  exact ⟨by rw [hbeside, hfolder, dirname_append hc hname], name.toList, hname, hbeside⟩

theorem slash_notMem_of_isRenditionFile {name : List Char} (h : isRenditionFile name = true) :
    '/' ∉ name := by
  simp only [isRenditionFile, Bool.and_eq_true, decide_eq_true_eq, List.all_eq_true] at h
  obtain ⟨⟨hname, -⟩, hchars⟩ := h
  rw [hname, List.mem_append]
  intro hmem
  rcases hmem with hstem | hsuffix
  · have hslash := hchars _ hstem
    revert hslash
    decide
  · revert hsuffix
    decide

theorem slash_notMem_of_isRendition {name : List Char} (h : isRendition name = true) :
    '/' ∉ name := by
  rw [isRendition, Bool.or_eq_true, Bool.and_eq_true, decide_eq_true_eq] at h
  rcases h with hfile | ⟨hnewline, hfile⟩
  · exact slash_notMem_of_isRenditionFile hfile
  · have hsplit : name.dropLast ++ ['\n'] = name := List.dropLast_append_getLast? _ hnewline
    intro hmem
    rw [← hsplit, List.mem_append, List.mem_singleton] at hmem
    rcases hmem with hstem | hnl
    · exact slash_notMem_of_isRenditionFile hfile hstem
    · cases hnl

/-! ## Objects that are read -/

/-! ## Grants -/

/-- An active account of the tables, if anybody is signed in. -/
def Known (d : Db) (user : Option User) : Prop :=
  ∀ u, user = some u → d.accounts.user? u.id = some u ∧ u.isActive = true

/-- The call has passed its check of entitlement, or of an administrator. -/
def Grant.Passed : Grant → Prop
  | title contentId now user guestId d => Known d user ∧ ∃ content,
      d.publishedContent contentId user = .ok content ∧
        d.canAccessContent now user guestId content none = true
  | preview contentId _ admin d => Known d (some admin) ∧ admin.role = "admin" ∧
      (d.content? contentId).isSome = true
  | channel channelId now user d => Known d user ∧ ∃ channel,
      publishedChannel d channelId = .ok channel ∧ d.canAccessChannel now user channel = true

/-- The call was about this title. -/
def Grant.ForTitle (contentId : Uuid) : Grant → Prop
  | title contentId' _ _ _ _ => contentId' = contentId
  | preview contentId' _ _ _ => contentId' = contentId
  | channel _ _ _ _ => False

/-- The call was about this channel. -/
def Grant.ForChannel (channelId : Uuid) : Grant → Prop
  | channel channelId' _ _ _ => channelId' = channelId
  | _ => False

/-- When the permission of a call ends. -/
def Grant.deadline (cfg : TokenSettings) : Grant → Time
  | title _ now _ _ _ => now + micros cfg.playbackTokenExpirySeconds
  | preview _ now _ _ => now + micros cfg.playbackTokenExpirySeconds
  | channel _ now _ _ => now + micros cfg.tvPlaybackTokenExpirySeconds

theorem wholeSeconds_le (t : Time) : wholeSeconds t ≤ t := Int.ediv_mul_le t (by decide)

theorem Grant.exp_le_deadline (grant : Grant) : (grant.token cfg).exp ≤ grant.deadline cfg := by
  cases grant with
  | title | preview | channel => exact wholeSeconds_le _

theorem Grant.sid_token (grant : Grant) : (grant.token cfg).sid = none := by
  cases grant <;> rfl

theorem Grant.forTitle_of_scope (h : (grant.token cfg).scope = some "playback")
    (hsub : (grant.token cfg).sub = id) : grant.ForTitle id := by
  cases grant with
  | title | preview => exact hsub
  | channel => exact absurd h (by simp [Grant.token, createChannelPlaybackToken, scopedPayload])

theorem Grant.forChannel_of_scope (h : (grant.token cfg).scope = some "tv_playback")
    (hsub : (grant.token cfg).sub = id) : grant.ForChannel id := by
  cases grant with
  | channel => exact hsub
  | title | preview => exact absurd h (by simp [Grant.token, createPlaybackToken, scopedPayload])

namespace Service

/-! ## Calls that hand out tokens -/

theorem known_of_accounts {now : Instant} {claims : Claims} {user : User} {d : Db}
    (h : Accounts.getCurrentUser now claims d.accounts = .ok user) : Known d (some user) := by
  intro u hu
  obtain rfl := Option.some.inj hu
  simp only [Accounts.getCurrentUser] at h
  split at h
  · cases h
  · split at h
    · cases h
    · split at h
      · cases h
      · next found hfound =>
          obtain rfl := Except.ok.inj h
          obtain ⟨hlookup, hactive⟩ := Option.filter_eq_some_iff.1 hfound
          have hid : found.id = claims.sub := Sql.key_of_lookup hlookup
          rw [hid]
          exact ⟨hlookup, hactive⟩

theorem known_getCurrentUser {user : User} (h : s.getCurrentUser token = .ok user) :
    Known s.library.db (some user) := by
  rw [getCurrentUser] at h
  split at h
  · cases h
  · next payload _ =>
      cases hclaims : claimsOf payload with
      | error err =>
          rw [hclaims] at h
          cases h
      | ok claims =>
          rw [hclaims] at h
          exact known_of_accounts h

theorem known_getCurrentUserOptional (credentials : Option Payload) :
    Known s.library.db (s.getCurrentUserOptional credentials) := by
  intro u hu
  obtain ⟨token, -, htoken⟩ := Option.bind_eq_some_iff.1 hu
  cases huser : s.getCurrentUser token with
  | error err =>
      rw [huser] at htoken
      cases htoken
  | ok user =>
      rw [huser] at htoken
      obtain rfl : user = u := Option.some.inj htoken
      exact known_getCurrentUser huser user rfl

/-- The flag that the call resolves is the answer that the check would find. -/
theorem canAccessContent_flag (d : Db) (now : Instant) (user : Option User)
    (guestId : Option String) (content : Content) :
    d.canAccessContent now user guestId content (freeTodayFlag d content) =
      d.canAccessContent now user guestId content none := by
  have hmovie : d.canAccessMovie now user guestId content (freeTodayFlag d content) =
      d.canAccessMovie now user guestId content none := by
    rw [freeTodayFlag]
    split <;> rfl
  simp only [Db.canAccessContent, hmovie]

/-- The tables on which an entitlement was found. -/
theorem entitledOn_eq_some {user : Option User} {guestId : Option String} {content : Content}
    {settled : Option (List Purchase)} {d : Db}
    (h : s.entitledOn user guestId content settled = some d) :
    (∃ purchases, d = { s.library.db with purchases := purchases }) ∧
      d.canAccessContent s.now user guestId content none = true := by
  simp only [entitledOn] at h
  split at h
  · next haccess =>
      obtain rfl := Option.some.inj h
      exact ⟨⟨s.library.db.purchases, rfl⟩, (canAccessContent_flag ..).symm.trans haccess⟩
  · split at h
    · cases h
    · next purchases _ =>
        split at h
        · next haccess =>
            obtain rfl := Option.some.inj h
            exact ⟨⟨purchases, rfl⟩, (canAccessContent_flag ..).symm.trans haccess⟩
        · cases h

theorem authorizePlayback_passed {credentials : Option Payload} {guestId : Option String}
    {settled : Option (List Purchase)}
    (h : s.authorizePlayback id credentials guestId settled = .ok grant) : grant.Passed := by
  simp only [authorizePlayback] at h
  cases hcontent : s.library.db.publishedContent id (s.getCurrentUserOptional credentials) with
  | error err =>
      rw [hcontent] at h
      cases h
  | ok content =>
      simp only [hcontent, bind, Except.bind] at h
      split at h
      · cases h
      · next d hentitled =>
          cases hkey : readyKey content with
          | error err =>
              rw [hkey] at h
              cases h
          | ok key =>
              rw [hkey] at h
              obtain rfl := Except.ok.inj h
              obtain ⟨⟨purchases, rfl⟩, haccess⟩ := entitledOn_eq_some hentitled
              exact ⟨known_getCurrentUserOptional credentials, content, hcontent, haccess⟩

theorem adminAuthorizePlayback_passed (h : s.adminAuthorizePlayback id token = .ok grant) :
    grant.Passed := by
  simp only [adminAuthorizePlayback, requireAdmin] at h
  cases huser : s.getCurrentUser token with
  | error err =>
      rw [huser] at h
      cases h
  | ok admin =>
      simp only [huser, bind, Except.bind] at h
      by_cases hrole : admin.role = "admin"
      · simp only [hrole, if_true] at h
        split at h
        · cases h
        · next content hcontent =>
            cases hkey : readyKey content with
            | error err =>
                rw [hkey] at h
                cases h
            | ok key =>
                rw [hkey] at h
                obtain rfl := Except.ok.inj h
                exact ⟨known_getCurrentUser huser, hrole, Option.isSome_iff_exists.2 ⟨_, hcontent⟩⟩
      · simp only [hrole, if_false] at h
        cases h

theorem authorizeChannelPlayback_passed {credentials : Option Payload}
    (h : s.authorizeChannelPlayback id credentials = .ok grant) : grant.Passed := by
  simp only [authorizeChannelPlayback] at h
  cases hchannel : publishedChannel s.library.db id with
  | error err =>
      rw [hchannel] at h
      cases h
  | ok channel =>
      simp only [hchannel, bind, Except.bind] at h
      split at h
      · next haccess =>
          cases hurl : liveUrl ["live", "starting"] channel with
          | error err =>
              rw [hurl] at h
              cases h
          | ok url =>
              rw [hurl] at h
              obtain rfl := Except.ok.inj h
              exact ⟨known_getCurrentUserOptional credentials, channel, hchannel, haccess⟩
      · cases h

/-! ## Every run -/

/-- Every signed token is an access token or was handed out by a call that has passed. -/
structure Honest (cfg : TokenSettings) (s : Service) : Prop where
  issued : ∀ token ∈ s.issued, (token.scope = none ∧ token.sid.isSome = true) ∨
    ∃ grant ∈ s.grants, grant.token cfg = token
  grants : ∀ grant ∈ s.grants, grant.Passed

theorem Honest.handOut (h : Honest cfg s) {answer : Except Err Grant}
    (hpassed : ∀ grant, answer = .ok grant → grant.Passed) : Honest cfg (s.handOut cfg answer) := by
  cases answer with
  | error err => exact h
  | ok grant =>
      refine ⟨fun token htoken => ?_, fun grant' hgrant => ?_⟩
      · rcases List.mem_cons.1 htoken with rfl | hold
        · exact .inr ⟨grant, by simp [Service.handOut], rfl⟩
        · rcases h.issued token hold with haccess | ⟨grant', hgrant', heq⟩
          · exact .inl haccess
          · exact .inr ⟨grant', List.mem_cons_of_mem _ hgrant', heq⟩
      · rcases List.mem_cons.1 hgrant with rfl | hold
        · exact hpassed _ rfl
        · exact h.grants grant' hold

theorem Honest.next (h : Honest cfg s) (action : Action) : Honest cfg (s.next cfg action) := by
  cases action with
  | wait d => exact ⟨h.issued, h.grants⟩
  | change library => exact ⟨h.issued, h.grants⟩
  | signAccess claims =>
      refine ⟨fun token htoken => ?_, h.grants⟩
      rcases List.mem_cons.1 htoken with rfl | hold
      · exact .inl ⟨rfl, rfl⟩
      · exact h.issued token hold
  | authorize contentId credentials guestId settled =>
      exact h.handOut fun _ => authorizePlayback_passed
  | adminAuthorize contentId token => exact h.handOut fun _ => adminAuthorizePlayback_passed
  | authorizeChannel channelId credentials =>
      exact h.handOut fun _ => authorizeChannelPlayback_passed

theorem honest_run (now : Time) (library : Library) (actions : List Action) :
    Honest cfg ((fresh now library).run cfg actions) := by
  have hstart : Honest cfg (fresh now library) := ⟨by simp [fresh], by simp [fresh]⟩
  generalize fresh now library = s at hstart
  induction actions generalizing s with
  | nil => exact hstart
  | cons action actions ih => exact ih _ (hstart.next action)

/-! ## Requests for playlists -/

/-- The token was handed out by this call, which has passed and still stands. -/
structure Opens (cfg : TokenSettings) (s : Service) (token : Payload) (grant : Grant) : Prop where
  mem : grant ∈ s.grants
  handedOut : grant.token cfg = token
  passed : grant.Passed
  live : s.now < token.exp
  deadline : token.exp ≤ grant.deadline cfg

/-- A token that is verified for a scope was handed out. -/
theorem Honest.opens (h : Honest cfg s) {scope detail : String}
    (hok : s.verifyScoped scope detail token id = .ok ()) :
    ∃ grant, Opens cfg s token grant ∧ token.scope = some scope ∧ token.sub = id := by
  simp only [verifyScoped, decode] at hok
  by_cases hdecoded : token ∈ s.issued ∧ s.now < token.exp
  · rw [if_pos hdecoded] at hok
    simp only at hok
    split at hok
    · next hscoped =>
        rcases h.issued token hdecoded.1 with ⟨hnone, -⟩ | ⟨grant, hgrant, heq⟩
        · rw [hnone] at hscoped
          cases hscoped.1
        · refine ⟨grant, ⟨hgrant, heq, h.grants grant hgrant, hdecoded.2, ?_⟩, hscoped⟩
          rw [← heq]
          exact grant.exp_le_deadline
    · cases hok
  · rw [if_neg hdecoded] at hok
    cases hok

theorem contentOr404_eq_ok {key : String} (h : s.contentOr404 id = .ok key) :
    ∃ content, s.library.db.content? id = some content ∧ content.hlsMasterKey = some key ∧
      LaidOut key := by
  simp only [contentOr404, readyKey] at h
  split at h
  · cases h
  · next content hcontent =>
      split at h
      · cases h
      · next found hfound =>
          obtain rfl := Except.ok.inj h
          obtain ⟨hstored, hne⟩ := Option.filter_eq_some_iff.1 hfound
          exact ⟨content, hcontent, hstored, s.library.laidOut content (Sql.mem_of_lookup hcontent)
            found hstored (by simpa using hne)⟩

theorem masterPlaylist_eq_ok {key : String} (h : s.masterPlaylist id token = .ok key) :
    s.verifyPlaybackToken token id = .ok () ∧ s.contentOr404 id = .ok key := by
  simp only [masterPlaylist, bind, Except.bind] at h
  cases hverified : s.verifyPlaybackToken token id with
  | error err =>
      rw [hverified] at h
      cases h
  | ok _ =>
      cases hcontent : s.contentOr404 id with
      | error err =>
          simp only [hverified, hcontent] at h
          cases h
      | ok found =>
          simp only [hverified, hcontent] at h
          obtain rfl : found = key := Except.ok.inj h
          exact ⟨rfl, rfl⟩

theorem variantPlaylist_eq_ok {name key : String} (h : s.variantPlaylist id name token = .ok key) :
    isRendition name.toList = true ∧ s.verifyPlaybackToken token id = .ok () ∧
      ∃ hlsMasterKey, s.contentOr404 id = .ok hlsMasterKey ∧
        key = besideMaster hlsMasterKey name := by
  simp only [variantPlaylist, bind, Except.bind] at h
  by_cases hname : isRendition name.toList = true
  · rw [if_pos hname] at h
    cases hverified : s.verifyPlaybackToken token id with
    | error err =>
        rw [hverified] at h
        cases h
    | ok _ =>
        cases hcontent : s.contentOr404 id with
        | error err =>
            simp only [hverified, hcontent] at h
            cases h
        | ok found =>
            simp only [hverified, hcontent] at h
            exact ⟨hname, rfl, found, rfl, (Except.ok.inj h).symm⟩
  · rw [if_neg hname] at h
    cases h

theorem channelLivePlaylist_eq_ok {url : String} (h : s.channelLivePlaylist id token = .ok url) :
    s.verifyChannelPlaybackToken token id = .ok () ∧ ∃ channel,
      publishedChannel s.library.db id = .ok channel ∧ channel.hlsPlaybackUrl = some url := by
  simp only [channelLivePlaylist, bind, Except.bind] at h
  cases hverified : s.verifyChannelPlaybackToken token id with
  | error err =>
      rw [hverified] at h
      cases h
  | ok _ =>
      cases hchannel : publishedChannel s.library.db id with
      | error err =>
          simp only [hverified, hchannel] at h
          cases h
      | ok channel =>
          simp only [hverified, hchannel, liveUrl] at h
          refine ⟨rfl, channel, rfl, ?_⟩
          cases hurl : channel.hlsPlaybackUrl.filter fun url => decide (url ≠ "") with
          | none =>
              rw [hurl] at h
              cases h
          | some found =>
              rw [hurl] at h
              simp only at h
              split at h
              · obtain rfl : found = url := Except.ok.inj h
                exact (Option.filter_eq_some_iff.1 hurl).1
              · cases h

/-- A playback token names no session. -/
theorem Honest.sid_of_scope (h : Honest cfg s) (htoken : token ∈ s.issued)
    (hscope : token.scope.isSome = true) : token.sid = none := by
  rcases h.issued token htoken with ⟨hnone, -⟩ | ⟨grant, -, rfl⟩
  · rw [hnone] at hscope
    cases hscope
  · exact grant.sid_token

theorem getCurrentUser_of_sid_none (h : token.sid = none) (user : User) :
    s.getCurrentUser token ≠ .ok user := by
  intro hok
  simp only [getCurrentUser, decode] at hok
  by_cases hdecoded : token ∈ s.issued ∧ s.now < token.exp
  · simp only [if_pos hdecoded, claimsOf, h] at hok
    cases hok
  · rw [if_neg hdecoded] at hok
    cases hok

theorem refreshSession_of_sid_none (h : token.sid = none) (claims : Claims) :
    s.refreshSession cfg token ≠ .ok claims := by
  intro hok
  simp only [refreshSession, decodeExpired] at hok
  by_cases hdecoded : token ∈ s.issued
  · simp only [if_pos hdecoded, claimsOf, h] at hok
    cases hok
  · rw [if_neg hdecoded] at hok
    cases hok

end Service

/-- The playlists of a title are read for a token of an authorize call for it, and from its
folder. -/
def ReadsOnly (cfg : TokenSettings) (s : Service) (contentId : Uuid) (token : Payload)
    (key : String) : Prop :=
  ∃ grant content hlsMasterKey, Service.Opens cfg s token grant ∧ grant.ForTitle contentId ∧
    s.library.db.content? contentId = some content ∧ content.hlsMasterKey = some hlsMasterKey ∧
      InFolderOf hlsMasterKey key

/-- What playback tokens open, and that they sign nobody in. -/
structure Confined (cfg : TokenSettings) (s : Service) : Prop where
  master : ∀ contentId token key, s.masterPlaylist contentId token = .ok key →
    ReadsOnly cfg s contentId token key
  variant : ∀ contentId name token key, s.variantPlaylist contentId name token = .ok key →
    ReadsOnly cfg s contentId token key
  channel : ∀ channelId token url, s.channelLivePlaylist channelId token = .ok url →
    ∃ grant channel, Service.Opens cfg s token grant ∧ grant.ForChannel channelId ∧
      publishedChannel s.library.db channelId = .ok channel ∧ channel.hlsPlaybackUrl = some url
  accounts : ∀ token ∈ s.issued, token.scope.isSome = true →
    (∀ user, s.getCurrentUser token ≠ .ok user) ∧ ∀ claims, s.refreshSession cfg token ≠ .ok claims

/-- After every run of sign-ins, authorize calls and changes of the tables: a playlist is
answered only to a token of an authorize call for this very title or channel that has
passed and not expired, from an object of the folder of the title's master playlist or
from the channel's own address; and playback tokens sign nobody in. -/
theorem playback_tokens_confined (cfg : TokenSettings) (start : Time) (library : Library)
    (actions : List Action) : Confined cfg ((Service.fresh start library).run cfg actions) := by
  have honest : Service.Honest cfg ((Service.fresh start library).run cfg actions) :=
    Service.honest_run start library actions
  generalize (Service.fresh start library).run cfg actions = s at honest
  constructor
  case master =>
    intro contentId token key hok
    obtain ⟨hverified, hcontent⟩ := Service.masterPlaylist_eq_ok hok
    obtain ⟨grant, hopens, hscope, hsub⟩ := honest.opens hverified
    obtain ⟨content, hfound, hstored, hlaid⟩ := Service.contentOr404_eq_ok hcontent
    rw [← hopens.handedOut] at hscope hsub
    exact ⟨grant, content, key, hopens, Grant.forTitle_of_scope hscope hsub, hfound, hstored,
      hlaid.inFolderOf_self⟩
  case variant =>
    intro contentId name token key hok
    obtain ⟨hname, hverified, hlsMasterKey, hcontent, rfl⟩ := Service.variantPlaylist_eq_ok hok
    obtain ⟨grant, hopens, hscope, hsub⟩ := honest.opens hverified
    obtain ⟨content, hfound, hstored, hlaid⟩ := Service.contentOr404_eq_ok hcontent
    rw [← hopens.handedOut] at hscope hsub
    exact ⟨grant, content, hlsMasterKey, hopens, Grant.forTitle_of_scope hscope hsub, hfound,
      hstored, hlaid.inFolderOf_besideMaster (slash_notMem_of_isRendition hname)⟩
  case channel =>
    intro channelId token url hok
    obtain ⟨hverified, channel, hchannel, hurl⟩ := Service.channelLivePlaylist_eq_ok hok
    obtain ⟨grant, hopens, hscope, hsub⟩ := honest.opens hverified
    rw [← hopens.handedOut] at hscope hsub
    exact ⟨grant, channel, hopens, Grant.forChannel_of_scope hscope hsub, hchannel, hurl⟩
  case accounts =>
    intro token htoken hscope
    have hsid := honest.sid_of_scope htoken hscope
    exact ⟨Service.getCurrentUser_of_sid_none hsid, Service.refreshSession_of_sid_none hsid⟩

namespace Screening

/-- A free movie and a visitor without an account. -/
def movie : Content :=
  ⟨7, .single, none, none, none, "dune", "Dune",
    some (Publishing.hlsMasterKeyForSourceKey "movies/dune/source.mp4" "7"), none, true, true⟩

theorem movie_laidOut : ∀ content ∈ [movie], ∀ key, content.hlsMasterKey = some key → key ≠ "" →
    LaidOut key := by
  intro content hcontent key hkey _
  obtain rfl := List.mem_singleton.1 hcontent
  obtain rfl := Option.some.inj hkey
  exact ⟨"movies/dune/source.mp4", "7", by decide, by decide, rfl⟩

def library : Library where
  db := {
    accounts := { users := [], sessions := [], resetTokens := [] }
    contents := [movie]
    series := []
    channels := []
    subscriptions := []
    purchases := []
    seriesPurchases := []
    rails := .empty }
  laidOut := movie_laidOut

def settings : TokenSettings := ⟨.default, 21600, 3600⟩

/-- The visitor authorizes, and asks for a rendition after this many microseconds. -/
def served (later : Nat) : Option String :=
  (((Service.fresh 5 library).run settings [.authorize 7 none none none, .wait later]).variantPlaylist 7
    "720p.m3u8" (createPlaybackToken 7 5 21600)).toOption

example : served 1000000 = some "movies/dune/hls/720p.m3u8" ∧ served 21600000000 = none := by
  decide +kernel

end Screening

end MovieApi.Playback
