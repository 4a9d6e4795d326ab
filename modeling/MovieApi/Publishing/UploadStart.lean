import MovieApi.Publishing.MovieUploads

/-!
# Starting a multipart upload

`start_multipart_upload` of `content_upload.py`.  It opens the upload first and
signs the URLs of its parts afterwards, and the bound on the number of parts is
checked while they are signed: where the file is too large, or signing raises,
the upload stays open.
-/

namespace MovieApi.Publishing

/-! ## Signing -/

/-- What a URL is signed for. -/
inductive Signed where
  | object (key contentType : String)
  | part (key uploadId : String) (partNumber : ℕ)
deriving DecidableEq, Repr

structure PartUrl where
  partNumber : ℕ
  url : String
deriving DecidableEq, Repr

/-- The answer of `start_multipart_upload`. -/
structure UploadStart where
  uploadId : String
  partSize : ℕ
  partCount : ℕ
  partUrls : List PartUrl
  posterUploadUrl : Option String
  bannerUploadUrl : Option String
deriving DecidableEq, Repr

/-- The arguments of `start_multipart_upload`. -/
structure UploadRequest where
  sourceKey : String
  videoContentType : String
  fileSizeBytes : ℕ
  posterKey : Option String
  posterContentType : Option String
  bannerKey : Option String
  bannerContentType : Option String
deriving DecidableEq, Repr

section

-- `generate_presigned_url`, none where it raises
variable (sign : Signed → Option String)

/-- `generate_presigned_part_urls`. -/
def generatePresignedPartUrls (key uploadId : String) (partCount : ℕ) : Option (List PartUrl) :=
  if partCount < 1 ∨ 10000 < partCount then none
  else (List.range' 1 partCount).mapM fun number =>
    (sign (.part key uploadId number)).map fun url => ⟨number, url⟩

/-- The URL of an image, where a key and a content type are given. -/
def imageUpload (key contentType : Option String) : Option Signed :=
  match key.filter (fun k => k ≠ ""), contentType.filter (fun c => c ≠ "") with
  | some key, some contentType => some (.object key contentType)
  | _, _ => none

def signImage (key contentType : Option String) : Option (Option String) :=
  match imageUpload key contentType with
  | some signed => (sign signed).map some
  | none => some none

/-- What follows the opening of the upload. -/
def signUpload (request : UploadRequest) (uploadId : String) : Option UploadStart :=
  (signImage sign request.posterKey request.posterContentType).bind fun poster =>
    (signImage sign request.bannerKey request.bannerContentType).bind fun banner =>
      if request.fileSizeBytes < 1 then none
      else
        let partCount := multipartPartCount request.fileSizeBytes
        (generatePresignedPartUrls sign request.sourceKey uploadId partCount).map fun urls =>
          ⟨uploadId, multipartPartSize, partCount, urls, poster, banner⟩

/-- `start_multipart_upload`: the answer, none where it raises, and the bucket.
`opened` is the id under which the bucket opens the upload, none where that call
fails. -/
def startMultipartUpload (opened : Option String) (request : UploadRequest) (bucket : Bucket) :
    Option UploadStart × Bucket :=
  match opened with
  | none => (none, bucket)
  | some uploadId =>
      (signUpload sign request uploadId, bucket.createMultipartUpload request.sourceKey uploadId)

end

/-! ## Covering the file -/

/-- The parts of an answer cover the file, and no part is empty. -/
structure Covers (size : ℕ) (start : UploadStart) : Prop where
  numbered : start.partUrls.map PartUrl.partNumber = List.range' 1 start.partCount
  lower : (start.partCount - 1) * start.partSize < size
  upper : size ≤ start.partCount * start.partSize
  bounded : start.partCount ≤ 10000

/-- No upload is open that was not open before. -/
def NothingLeft (before after : Bucket) : Prop :=
  ∀ uploadId, after.uploads uploadId ≠ none → before.uploads uploadId ≠ none

/-- The answer covers the file, or nothing is left behind. -/
def CleanStart (size : ℕ) (before : Bucket) (outcome : Option UploadStart × Bucket) : Prop :=
  match outcome with
  | (some start, _) => Covers size start
  | (none, after) => NothingLeft before after

variable {sign : Signed → Option String} {request : UploadRequest} {bucket : Bucket}
  {size : ℕ} {uploadId : String} {opened : Option String}

theorem multipartPartSize_pos : 0 < multipartPartSize := by decide

theorem multipartPartCount_eq (h : 0 < size) :
    multipartPartCount size = (size + multipartPartSize - 1) / multipartPartSize := by
  have hone : 1 ≤ (size + multipartPartSize - 1) / multipartPartSize := by
    rw [Nat.le_div_iff_mul_le multipartPartSize_pos]
    omega
  rw [multipartPartCount, max_eq_right hone]

theorem le_partCount_mul (h : 0 < size) : size ≤ multipartPartCount size * multipartPartSize := by
  rw [multipartPartCount_eq h]
  have hmod := Nat.div_add_mod' (size + multipartPartSize - 1) multipartPartSize
  have hlt := Nat.mod_lt (size + multipartPartSize - 1) multipartPartSize_pos
  omega

theorem partCount_pred_mul_lt (h : 0 < size) :
    (multipartPartCount size - 1) * multipartPartSize < size := by
  rw [multipartPartCount_eq h, Nat.sub_mul, Nat.one_mul]
  have hmul := Nat.div_mul_le_self (size + multipartPartSize - 1) multipartPartSize
  have hpos := multipartPartSize_pos
  omega

/-- The bound on the parts is a bound on the file. -/
theorem partCount_le_iff (h : 0 < size) (n : ℕ) :
    multipartPartCount size ≤ n ↔ size ≤ n * multipartPartSize := by
  constructor
  · intro hle
    exact (le_partCount_mul h).trans (Nat.mul_le_mul_right _ hle)
  · intro hle
    by_contra hlt
    have hpred : n ≤ multipartPartCount size - 1 := by omega
    have hmul := Nat.mul_le_mul_right multipartPartSize hpred
    have hbound := partCount_pred_mul_lt h
    omega

/-! ## Signing every part -/

theorem partNumbers_of_mapM {numbers : List ℕ} {urls : List PartUrl} {key : String}
    (h : (numbers.mapM fun number =>
      (sign (.part key uploadId number)).map fun url => (⟨number, url⟩ : PartUrl)) = some urls) :
    urls.map PartUrl.partNumber = numbers := by
  induction numbers generalizing urls with
  | nil =>
      cases h
      rfl
  | cons number numbers ih =>
      rw [List.mapM_cons] at h
      obtain ⟨first, hfirst, hrest⟩ := Option.bind_eq_some_iff.1 h
      obtain ⟨rest, hmapM, hurls⟩ := Option.bind_eq_some_iff.1 hrest
      obtain ⟨url, -, rfl⟩ := Option.map_eq_some_iff.1 hfirst
      cases hurls
      rw [List.map_cons, ih hmapM]

theorem mapM_isSome_iff {α β : Type} {f : α → Option β} {xs : List α} :
    (xs.mapM f).isSome ↔ ∀ x ∈ xs, (f x).isSome := by
  induction xs with
  | nil => simp
  | cons x xs ih =>
      rw [List.mapM_cons, List.forall_mem_cons, ← ih]
      cases f x with
      | none => simp
      | some y => cases xs.mapM f <;> simp

theorem generatePresignedPartUrls_isSome {key : String} {partCount : ℕ} :
    (generatePresignedPartUrls sign key uploadId partCount).isSome ↔
      (1 ≤ partCount ∧ partCount ≤ 10000) ∧
        ∀ number, 1 ≤ number → number ≤ partCount → (sign (.part key uploadId number)).isSome := by
  rw [generatePresignedPartUrls]
  split
  · next hbounds =>
      constructor
      · intro h
        cases h
      · rintro ⟨⟨hone, hmany⟩, -⟩
        omega
  · next hbounds =>
      rw [mapM_isSome_iff]
      constructor
      · intro h
        refine ⟨by omega, fun number hone hle => ?_⟩
        have hsigned := h number (by rw [List.mem_range'_1]; omega)
        simpa using hsigned
      · rintro ⟨-, h⟩ number hnumber
        rw [List.mem_range'_1] at hnumber
        simpa using h number hnumber.1 (by omega)

theorem signImage_isSome {key contentType : Option String} :
    (signImage sign key contentType).isSome ↔
      ∀ signed, imageUpload key contentType = some signed → (sign signed).isSome := by
  rw [signImage]
  cases imageUpload key contentType <;> simp

/-- Every URL of the request can be signed. -/
def AllSigned (sign : Signed → Option String) (request : UploadRequest) (uploadId : String) : Prop :=
  (∀ signed, imageUpload request.posterKey request.posterContentType = some signed →
    (sign signed).isSome) ∧
  (∀ signed, imageUpload request.bannerKey request.bannerContentType = some signed →
    (sign signed).isSome) ∧
  ∀ number, 1 ≤ number → number ≤ multipartPartCount request.fileSizeBytes →
    (sign (.part request.sourceKey uploadId number)).isSome

theorem signUpload_isSome (hsize : 0 < request.fileSizeBytes) :
    (signUpload sign request uploadId).isSome ↔
      request.fileSizeBytes ≤ 10000 * multipartPartSize ∧ AllSigned sign request uploadId := by
  have hcount : 1 ≤ multipartPartCount request.fileSizeBytes := le_max_left _ _
  have hnot : ¬ request.fileSizeBytes < 1 := by omega
  rw [AllSigned, ← signImage_isSome, ← signImage_isSome, ← partCount_le_iff hsize, signUpload]
  cases signImage sign request.posterKey request.posterContentType with
  | none => exact iff_of_false Bool.false_ne_true fun h => Bool.false_ne_true h.2.1
  | some poster =>
      cases signImage sign request.bannerKey request.bannerContentType with
      | none => exact iff_of_false Bool.false_ne_true fun h => Bool.false_ne_true h.2.2.1
      | some banner =>
          rw [Option.bind_some, Option.bind_some, if_neg hnot, Option.isSome_map,
            generatePresignedPartUrls_isSome, and_iff_right hcount]
          exact ⟨fun h => ⟨h.1, rfl, rfl, h.2⟩, fun h => ⟨h.1, h.2.2.2⟩⟩

theorem signUpload_covers {start : UploadStart}
    (h : signUpload sign request uploadId = some start) : Covers request.fileSizeBytes start := by
  rw [signUpload] at h
  obtain ⟨poster, -, h⟩ := Option.bind_eq_some_iff.1 h
  obtain ⟨banner, -, h⟩ := Option.bind_eq_some_iff.1 h
  split at h
  · cases h
  next hsize =>
  have hpos : 0 < request.fileSizeBytes := by omega
  obtain ⟨urls, hurls, rfl⟩ := Option.map_eq_some_iff.1 h
  rw [generatePresignedPartUrls] at hurls
  split at hurls
  · cases hurls
  next hbounds =>
  have hbounded : multipartPartCount request.fileSizeBytes ≤ 10000 := by omega
  exact ⟨partNumbers_of_mapM hurls, partCount_pred_mul_lt hpos, le_partCount_mul hpos, hbounded⟩

/-- **Starting an upload covers the file or leaves nothing behind** exactly when
the upload is not opened at all, or the file fits into 10,000 parts and every
URL can be signed. -/
theorem startMultipartUpload_clean_iff (hsize : 0 < request.fileSizeBytes)
    (hfresh : ∀ uploadId, opened = some uploadId → bucket.uploads uploadId = none) :
    CleanStart request.fileSizeBytes bucket (startMultipartUpload sign opened request bucket) ↔
      ∀ uploadId, opened = some uploadId →
        request.fileSizeBytes ≤ 10000 * multipartPartSize ∧ AllSigned sign request uploadId := by
  cases opened with
  | none =>
      constructor
      · intro _ uploadId hopened
        cases hopened
      · exact fun _ uploadId hopen => hopen
  | some uploadId =>
      simp only [Option.some.injEq, forall_eq', startMultipartUpload]
      rw [← signUpload_isSome hsize]
      cases hsigned : signUpload sign request uploadId with
      | some start =>
          constructor
          · exact fun _ => rfl
          · exact fun _ => signUpload_covers hsigned
      | none =>
          constructor
          · intro hleft
            have hopen : (bucket.createMultipartUpload request.sourceKey uploadId).uploads
                uploadId ≠ none := by simp [Bucket.createMultipartUpload]
            exact absurd (hfresh uploadId rfl) (hleft uploadId hopen)
          · intro h
            cases h

/-! ## Sizes -/

def emptyBucket : Bucket := ⟨fun _ => none, fun _ => none, []⟩

def videoOf (fileSizeBytes : ℕ) : UploadRequest :=
  ⟨"movies/dune/source.mp4", "video/mp4", fileSizeBytes, none, none, none, none⟩

def signAll (_ : Signed) : Option String := some "https://r2/signed"

theorem smallVideo_clean :
    0 < (videoOf 60000000).fileSizeBytes ∧
      (∀ uploadId, some "u1" = some uploadId → emptyBucket.uploads uploadId = none) ∧
      (CleanStart (videoOf 60000000).fileSizeBytes emptyBucket
          (startMultipartUpload signAll (some "u1") (videoOf 60000000) emptyBucket) ↔
        ∀ uploadId, some "u1" = some uploadId →
          (videoOf 60000000).fileSizeBytes ≤ 10000 * multipartPartSize ∧
            AllSigned signAll (videoOf 60000000) uploadId) := by
  have hsize : 0 < (videoOf 60000000).fileSizeBytes := by decide
  have hfresh : ∀ uploadId, some "u1" = some uploadId → emptyBucket.uploads uploadId = none :=
    fun _ _ => rfl
  exact ⟨hsize, hfresh, startMultipartUpload_clean_iff hsize hfresh⟩

/-- One byte more than ten thousand parts hold: the upload stays open. -/
theorem hugeVideo_left_open :
    ¬ CleanStart (videoOf 524288000001).fileSizeBytes emptyBucket
      (startMultipartUpload signAll (some "u1") (videoOf 524288000001) emptyBucket) := by
  have hsize : 0 < (videoOf 524288000001).fileSizeBytes := by decide
  have hnone : signUpload signAll (videoOf 524288000001) "u1" = none := by
    rw [← Option.not_isSome_iff_eq_none, signUpload_isSome hsize]
    rintro ⟨hle, -⟩
    exact absurd hle (by decide)
  intro h
  rw [startMultipartUpload, hnone] at h
  have hopen : (emptyBucket.createMultipartUpload "movies/dune/source.mp4" "u1").uploads "u1" ≠
      none := by simp [Bucket.createMultipartUpload]
  exact h "u1" hopen rfl

end MovieApi.Publishing
