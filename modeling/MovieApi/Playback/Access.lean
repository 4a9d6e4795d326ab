import MovieApi.Accounts.Sessions
import MovieApi.Catalog.FreeToday

/-!
# Who may watch what

`can_access_content` decides about movies, episodes and podcasts,
`can_access_channel` about live channels.  Both read subscriptions and
purchases; visitors without an account are known by the token in their cookie.
-/

namespace MovieApi.Playback

open Sql
open Accounts (Uuid Instant Err User)
open Catalog (ContentType RailDb isFreeToday)

/-! ## Rows -/

/-- A row of `content`; the price is in cents. -/
structure Content where
  id : Uuid
  type : ContentType
  seriesId : Option Uuid
  seasonNumber : Option Int
  episodeNumber : Option Int
  slug : String
  title : String
  hlsMasterKey : Option String
  priceUsd : Option Int
  isPublished : Bool
  isFree : Bool
deriving DecidableEq, Repr

structure Series where
  id : Uuid
  slug : String
  isPublished : Bool
deriving DecidableEq, Repr

structure TVChannel where
  id : Uuid
  status : String
  hlsPlaybackUrl : Option String
  isPublished : Bool
  isFree : Bool
deriving DecidableEq, Repr

structure Subscription where
  userId : Uuid
  status : String
  currentPeriodEnd : Instant
deriving DecidableEq, Repr

structure Purchase where
  userId : Option Uuid
  guestId : Option String
  contentId : Uuid
deriving DecidableEq, Repr

structure SeriesPurchase where
  userId : Option Uuid
  guestId : Option String
  seriesId : Uuid
deriving DecidableEq, Repr

/-- `rails` are the tables behind the free movies of the day. -/
structure Db where
  accounts : Accounts.Db
  contents : List Content
  series : List Series
  channels : List TVChannel
  subscriptions : List Subscription
  purchases : List Purchase
  seriesPurchases : List SeriesPurchase
  rails : RailDb

def Db.content? (d : Db) (id : Uuid) : Option Content := lookup Content.id id d.contents

/-! ## Entitlements -/

/-- A cookie that is there and not empty. -/
def guestToken (guestId : Option String) : Option String :=
  guestId.filter fun token => decide (token ≠ "")

/-- `user_has_active_subscription`. -/
def Db.userHasActiveSubscription (d : Db) (now : Instant) (userId : Uuid) : Bool :=
  d.subscriptions.any fun row =>
    decide (row.userId = userId ∧ row.status = "active" ∧ now < row.currentPeriodEnd)

/-- `has_series_purchase`. -/
def Db.hasSeriesPurchase (d : Db) (seriesId : Uuid) (userId : Option Uuid)
    (guestId : Option String) : Bool :=
  match userId, guestToken guestId with
  | some userId, _ => d.seriesPurchases.any fun row =>
      decide (row.userId = some userId ∧ row.seriesId = seriesId)
  | none, some guestId => d.seriesPurchases.any fun row =>
      decide (row.guestId = some guestId ∧ row.seriesId = seriesId)
  | none, none => false

/-- `_movie_is_free`. -/
def Content.movieIsFree (content : Content) : Bool :=
  content.isFree || content.priceUsd.all fun cents => decide (cents ≤ 0)

/-- The branch for a single movie. -/
def Db.canAccessMovie (d : Db) (now : Instant) (user : Option User) (guestId : Option String)
    (content : Content) (freeToday : Option Bool) : Bool :=
  if content.movieIsFree then true
  else if freeToday.getD (isFreeToday d.rails content.id) then true
  else
    match user, guestToken guestId with
    | some user, _ => d.userHasActiveSubscription now user.id || d.purchases.any fun row =>
        decide (row.userId = some user.id ∧ row.contentId = content.id)
    | none, some guestId => d.purchases.any fun row =>
        decide (row.guestId = some guestId ∧ row.contentId = content.id)
    | none, none => false

/-- The branch for an episode. -/
def Db.canAccessEpisode (d : Db) (now : Instant) (user : Option User) (guestId : Option String)
    (content : Content) : Bool :=
  match content.seriesId with
  | none => false
  | some seriesId =>
      match user with
      | some user =>
          if d.userHasActiveSubscription now user.id then true
          else d.hasSeriesPurchase seriesId (some user.id) none
      | none =>
          match guestToken guestId with
          | some guestId => d.hasSeriesPurchase seriesId none (some guestId)
          | none => false

/-- `can_access_content`; `freeToday` is the answer the caller may have already. -/
def Db.canAccessContent (d : Db) (now : Instant) (user : Option User) (guestId : Option String)
    (content : Content) (freeToday : Option Bool) : Bool :=
  if user.any fun user => decide (user.role = "admin") then true
  else if content.isPublished = false then false
  else if content.isFree then true
  else
    match content.type with
    | .single => d.canAccessMovie now user guestId content freeToday
    | .episode => d.canAccessEpisode now user guestId content
    | .podcast => user.any fun user => d.userHasActiveSubscription now user.id

/-- `can_access_channel`. -/
def Db.canAccessChannel (d : Db) (now : Instant) (user : Option User) (channel : TVChannel) :
    Bool :=
  if user.any fun user => decide (user.role = "admin") then true
  else if channel.isFree then true
  else user.any fun user => d.userHasActiveSubscription now user.id

/-- `get_published_content_or_404`. -/
def Db.publishedContent (d : Db) (id : Uuid) (user : Option User) : Except Err Content :=
  match d.content? id with
  | none => .error (.notFound "Content not found")
  | some content =>
      if user.any fun user => decide (user.role = "admin") then .ok content
      else if content.isPublished = false then .error (.notFound "Content not found")
      else .ok content

end MovieApi.Playback
