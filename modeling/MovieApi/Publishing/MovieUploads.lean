import MovieApi.Publishing.Requests
import MovieApi.Sql.OrderBy
import MovieApi.TelegramBot.Text

/-!
# Uploading a movie

An upload is started, its parts go straight to the bucket, and its completion
assembles the object before it inserts the row.  The object's key is made from
the slug, which is looked up at the start and inserted at the end.
-/

namespace MovieApi.Publishing

open Sql
open TelegramBot (strip isSpace)

/-! ## Slugs -/

/-- Python's view of Unicode: `str.lower` and the letters `\w` matches. -/
structure Letters where
  lower : String → String
  isWord : Char → Bool

/-- `re.sub` of every run of characters of a class by one `-`. -/
def dashRuns (isRun : Char → Bool) : Bool → List Char → List Char
  | _, [] => []
  | inRun, c :: text =>
      if isRun c then
        if inRun then dashRuns isRun true text else '-' :: dashRuns isRun true text
      else c :: dashRuns isRun false text

def stripDashes (text : List Char) : List Char :=
  let left := text.dropWhile fun c => decide (c = '-')
  (left.reverse.dropWhile fun c => decide (c = '-')).reverse

def slugify (letters : Letters) (text : String) : String :=
  let text := strip (letters.lower text).toList
  let text := text.filter fun c => letters.isWord c || isSpace c || decide (c = '-')
  let text := dashRuns (fun c => isSpace c || decide (c = '_')) false text
  let text := dashRuns (fun c => decide (c = '-')) false text
  String.ofList (stripDashes text)

/-- `unique_content_slug`; `hex` are the six digits drawn for a slug that is taken. -/
def uniqueContentSlug (letters : Letters) (base hex : String) (d : Db) : String :=
  let slug := slugify letters base
  if d.contents.any fun row => decide (row.slug = slug) then slug ++ "-" ++ hex else slug

/-! ## The bucket -/

/-- A multipart upload under way; the parts that are there, by number. -/
structure Multipart where
  key : String
  parts : Nat → Option String

/-- An object and the upload it was assembled by. -/
structure Object where
  uploadId : String
  chunks : List String
deriving DecidableEq, Repr

structure Bucket where
  objects : String → Option Object
  uploads : String → Option Multipart
  issued : List String

structure Part where
  partNumber : Nat
  etag : String
deriving DecidableEq, Repr

namespace Bucket

/-- `CreateMultipartUpload`, answered with an id never used before. -/
def createMultipartUpload (key uploadId : String) (bucket : Bucket) : Bucket :=
  { bucket with
    uploads := Function.update bucket.uploads uploadId (some ⟨key, fun _ => none⟩)
    issued := uploadId :: bucket.issued }

/-- A `PUT` to the presigned URL of a part. -/
def uploadPart (uploadId : String) (number : Nat) (bytes : String) (bucket : Bucket) : Bucket :=
  { bucket with
    uploads := Function.update bucket.uploads uploadId
      ((bucket.uploads uploadId).map fun upload =>
        { upload with parts := Function.update upload.parts number (some bytes) }) }

def abortMultipartUpload (key uploadId : String) (bucket : Bucket) : Bucket :=
  if (bucket.uploads uploadId).any fun upload => decide (upload.key = key) then
    { bucket with uploads := Function.update bucket.uploads uploadId none }
  else bucket

/-- The listed parts in order, when all of them are there. -/
def chunks (etag : String → String) (upload : Multipart) (parts : List Part) :
    Option (List String) :=
  (orderBy (fun part part' : Part => part.partNumber ≤ part'.partNumber) parts).mapM fun part =>
    (upload.parts part.partNumber).filter fun bytes => decide (etag bytes = part.etag)

/-- `CompleteMultipartUpload`. -/
def completeMultipartUpload (etag : String → String) (key uploadId : String) (parts : List Part)
    (bucket : Bucket) : Option Bucket :=
  match (bucket.uploads uploadId).filter fun upload => decide (upload.key = key) with
  | none => none
  | some upload =>
      match chunks etag upload parts with
      | none => none
      | some chunks => some { bucket with
          objects := Function.update bucket.objects key (some ⟨uploadId, chunks⟩)
          uploads := Function.update bucket.uploads uploadId none }

end Bucket

/-! ## Starting -/

def posterExtension : String → String
  | "image/jpeg" => "jpg"
  | "image/jpg" => "jpg"
  | "image/png" => "png"
  | "image/webp" => "webp"
  | _ => "jpg"

/-- `movie_poster_key` and `movie_banner_key`. -/
def movieImageKey (stem slug token contentType : String) : String :=
  movieDir slug ++ "/" ++ stem ++ "-" ++ token ++ "." ++ posterExtension contentType

/-- `MULTIPART_PART_SIZE`. -/
def multipartPartSize : Nat := 50 * 1024 * 1024

def multipartPartCount (fileSizeBytes : Nat) : Nat :=
  max 1 ((fileSizeBytes + multipartPartSize - 1) / multipartPartSize)

structure MovieUploadStart where
  title : String
  fileSizeBytes : Nat
  posterContentType : Option String
  bannerContentType : Option String
deriving DecidableEq, Repr

structure MovieUploadStartRead where
  contentId : Uuid
  slug : String
  sourceKey : String
  posterKey : Option String
  bannerKey : Option String
  uploadId : String
  partCount : Nat
deriving DecidableEq, Repr

/-- What a request draws at random. -/
structure Drawn where
  contentId : Uuid
  hex : String
  posterToken : String
  bannerToken : String
  uploadId : String
deriving DecidableEq, Repr

/-- `start_movie_upload`: the answer, or an error, and the bucket. -/
def startMovieUpload (letters : Letters) (drawn : Drawn) (data : MovieUploadStart) (d : Db)
    (bucket : Bucket) : Except Err MovieUploadStartRead × Bucket :=
  let title := String.ofList (strip data.title.toList)
  if title = "" then (.error (unprocessable "title is required"), bucket)
  else
    let slug := uniqueContentSlug letters title drawn.hex d
    let sourceKey := movieSourceKey slug
    let posterKey := (data.posterContentType.filter fun type => decide (type ≠ "")).map
      (movieImageKey "poster" slug drawn.posterToken)
    let bannerKey := (data.bannerContentType.filter fun type => decide (type ≠ "")).map
      (movieImageKey "banner" slug drawn.bannerToken)
    let bucket := bucket.createMultipartUpload sourceKey drawn.uploadId
    let partCount := multipartPartCount data.fileSizeBytes
    if partCount < 1 ∨ 10000 < partCount then
      (.error (.http 500 "part_count must be between 1 and 10000"), bucket)
    else (.ok ⟨drawn.contentId, slug, sourceKey, posterKey, bannerKey, drawn.uploadId, partCount⟩,
      bucket)

/-! ## Completing -/

/-- The body of a completion with the parts it lists. -/
structure Completion extends MovieUploadComplete where
  parts : List Part
deriving DecidableEq, Repr

/-- The checks of `complete_movie_upload` before it touches the bucket. -/
def checkCompletion (body : MovieUploadComplete) : Except Err ContentStatus := do
  let status ← validateContentStatus (some body.status)
  check (decide (body.sourceKey = movieSourceKey body.slug))
    (unprocessable "source_key does not match slug")
  check (!present body.posterKey || body.posterKey.all (isMovieAssetKey body.slug))
    (unprocessable "poster_key does not match slug")
  check (!present body.bannerKey || body.bannerKey.all (isMovieAssetKey body.slug))
    (unprocessable "banner_key does not match slug")
  check (!(decide (status = .published) && !present body.posterKey)) posterRequired
  .ok status

/-- The rest of `complete_movie_upload` once the object is assembled. -/
def createMovie (storage : Storage) (body : MovieUploadComplete) (status : ContentStatus) (d : Db) :
    Except Err Db := do
  verifyStorageObjectExists storage body.posterKey "Poster upload is not available in storage yet"
  verifyStorageObjectExists storage body.bannerKey "Banner upload is not available in storage yet"
  let movie ← applyMoviePublishState (uploadedMovie storage body status) (some body.status)
    body.publishAt true
  let jobs := d.jobs ++ [body.contentId]
  whenPublished movie.status (ensureMoviePublishable jobs movie)
  let d ← d.addContent movie
  .ok { d with jobs := jobs }

/-- The two parts make up the whole request. -/
theorem completeMovieUpload_eq (storage : Storage) (body : MovieUploadComplete) (d : Db) :
    completeMovieUpload storage body d = (do
      let status ← checkCompletion body
      storage.completeMultipartUpload body.sourceKey body.uploadId
      createMovie storage body status d) := by
  simp only [completeMovieUpload, checkCompletion, createMovie, bind_assoc]
  rfl

/-! ## Uploads side by side -/

/-- The database, the bucket, the completions that have assembled their object
and go on, and for each movie that a completion created its upload. -/
structure World where
  db : Db
  bucket : Bucket
  assembled : Nat → Option (MovieUploadComplete × ContentStatus)
  created : List (Uuid × String)

/-- One thing that happens.  A request that completes an upload asks the bucket to
assemble the object first; the answer may get lost.  Later it inserts the row, or
it ends without. -/
inductive Event where
  | start (drawn : Drawn) (data : MovieUploadStart)
  | uploadPart (uploadId : String) (number : Nat) (bytes : String)
  | abort (key uploadId : String)
  | assemble (request : Nat) (body : Completion) (answered : Bool)
  | create (request : Nat) (storage : Storage)
  | giveUp (request : Nat)

namespace World

/-- The first half of `complete_movie_upload`. -/
def assemble (etag : String → String) (request : Nat) (body : Completion) (answered : Bool)
    (w : World) : Option World :=
  match checkCompletion body.toMovieUploadComplete with
  | .error _ => none
  | .ok status =>
      if body.parts = [] then none
      else
        match w.bucket.completeMultipartUpload etag body.sourceKey body.uploadId body.parts with
        | none => none
        | some bucket => some { w with
            bucket := bucket
            assembled := if answered then
                Function.update w.assembled request (some (body.toMovieUploadComplete, status))
              else w.assembled }

/-- The second half of `complete_movie_upload`. -/
def create (request : Nat) (storage : Storage) (w : World) : Option World :=
  match w.assembled request with
  | none => none
  | some (body, status) =>
      match createMovie storage body status w.db with
      | .error _ => none
      | .ok d => some { w with
          db := d
          assembled := Function.update w.assembled request none
          created := (body.contentId, body.uploadId) :: w.created }

/-- The world after an event; `none` when it cannot happen or changes nothing. -/
def next (letters : Letters) (etag : String → String) (w : World) : Event → Option World
  | .start drawn data =>
      if drawn.uploadId ∈ w.bucket.issued then none
      else some { w with bucket := (startMovieUpload letters drawn data w.db w.bucket).2 }
  | .uploadPart uploadId number bytes =>
      some { w with bucket := w.bucket.uploadPart uploadId number bytes }
  | .abort key uploadId => some { w with bucket := w.bucket.abortMultipartUpload key uploadId }
  | .assemble request body answered =>
      if (w.assembled request).isSome then none else w.assemble etag request body answered
  | .create request storage => w.create request storage
  | .giveUp request => some { w with assembled := Function.update w.assembled request none }

/-- Before any completion. -/
structure Fresh (w : World) : Prop where
  assembled : ∀ request, w.assembled request = none
  created : w.created = []

end World

/-- Runs of events of a kind. -/
inductive Run (letters : Letters) (etag : String → String) (Allowed : World → Event → Prop) :
    World → World → Prop
  | refl (w : World) : Run letters etag Allowed w w
  | step {w w' w'' : World} (event : Event) : Run letters etag Allowed w w' →
      Allowed w' event → w'.next letters etag event = some w'' → Run letters etag Allowed w w''

/-- The events one after the other. -/
def World.play (letters : Letters) (etag : String → String) (w : World) : List Event → Option World
  | [] => some w
  | event :: events => (w.next letters etag event).bind fun w => w.play letters etag events

end MovieApi.Publishing
