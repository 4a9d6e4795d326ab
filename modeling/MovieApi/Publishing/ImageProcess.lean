import Mathlib.Data.List.Basic
import Mathlib.Logic.Function.Basic

/-!
# Optimising an uploaded image

`optimize_r2_image` of `image_process.py` reads an image, writes it again as
WebP, deletes the original where the key changes, and writes a thumb.  Any of
these calls may raise, which has no effect on the bucket; the caller then gets
the original key back.
-/

namespace MovieApi.Publishing.Images

/-! ## Keys -/

/-- `posixpath.splitext`. -/
def splitext (path : List Char) : List Char × List Char :=
  let name := (path.reverse.takeWhile fun c => decide (c ≠ '/')).reverse
  let dir := path.take (path.length - name.length)
  let ext := (name.reverse.takeWhile fun c => decide (c ≠ '.')).reverse
  let stem := name.take (name.length - (ext.length + 1))
  if '.' ∈ name ∧ stem.any (fun c => decide (c ≠ '.')) then (dir ++ stem, '.' :: ext)
  else (path, [])

def webpKeyFor (key : String) : String :=
  String.ofList ((splitext key.toList).1 ++ ".webp".toList)

/-- Whether a text ends with another one. -/
def endsWith (text ending : String) : Bool := ending.toList.isSuffixOf text.toList

/-- `poster_thumb_key_for`, with Python's `str.lower` as a parameter. -/
def posterThumbKeyFor (lower : String → String) (key : String) (width : ℕ) : String :=
  let base := String.ofList (splitext key.toList).1
  if endsWith base ("-w" ++ toString width) then
    if lower (String.ofList (splitext key.toList).2) = ".webp" then key else base ++ ".webp"
  else base ++ "-w" ++ toString width ++ ".webp"

def imageSuffixes : List String := [".jpg", ".jpeg", ".png", ".webp"]

def isImageObjectKey (lower : String → String) (key : String) : Bool :=
  imageSuffixes.any fun suffix => endsWith (lower key) suffix

example : splitext "movies/x/poster.tar.jpg".toList = ("movies/x/poster.tar".toList, ".jpg".toList) :=
  by decide

example : splitext "movies.d/.webp".toList = ("movies.d/.webp".toList, []) := by decide

/-! ## The bucket -/

abbrev Bytes := List UInt8

/-- The objects of the bucket. -/
abbrev Store := String → Option Bytes

def Store.put (store : Store) (key : String) (data : Bytes) : Store :=
  Function.update store key (some data)

def Store.delete (store : Store) (key : String) : Store := Function.update store key none

/-- Which of the calls to the bucket fail. -/
structure Faults where
  get : Bool
  put : Bool
  delete : Bool
  putThumb : Bool
deriving DecidableEq, Repr

inductive ImageKind where
  | poster | banner
deriving DecidableEq, Repr

/-- Pillow: the optimised image and its thumb, none where it raises. -/
structure Codec where
  optimizeImageBytes : ImageKind → Bytes → Option Bytes
  thumbBytes : ImageKind → Bytes → Option Bytes

/-- `SKIP_IF_BYTES`. -/
def skipIfBytes : ℕ := 250000

def thumbWidth : ImageKind → ℕ
  | .poster => 400
  | .banner => 480

/-! ## Optimising -/

section

variable (lower : String → String) (codec : Codec) (faults : Faults)

/-- The thumb, whose failures are swallowed, and the key that is returned. -/
def writeThumb (kind : ImageKind) (targetKey : String) (source : Bytes) (store : Store) :
    Option String × Store :=
  match codec.thumbBytes kind source with
  | none => (some targetKey, store)
  | some thumb =>
      if faults.putThumb then (some targetKey, store)
      else (some targetKey, store.put (posterThumbKeyFor lower targetKey (thumbWidth kind)) thumb)

/-- `_optimize_r2_image_sync`: the key, none where it raises, and the bucket. -/
def optimizeR2ImageSync (key : String) (kind : ImageKind) (store : Store) :
    Option String × Store :=
  match if faults.get then none else store key with
  | none => (none, store)
  | some original =>
      if endsWith (lower key) ".webp" ∧ original.length ≤ skipIfBytes then
        if faults.put then (none, store)
        else writeThumb lower codec faults kind key original (store.put key original)
      else
        match codec.optimizeImageBytes kind original with
        | none => (none, store)
        | some optimized =>
            let targetKey := webpKeyFor key
            if targetKey = key ∧ original.length ≤ optimized.length then
              if faults.put then (none, store)
              else writeThumb lower codec faults kind key original (store.put key original)
            else if faults.put then (none, store)
            else if targetKey = key then
              writeThumb lower codec faults kind targetKey optimized
                (store.put targetKey optimized)
            else if faults.delete then (none, store.put targetKey optimized)
            else
              writeThumb lower codec faults kind targetKey optimized
                ((store.put targetKey optimized).delete key)

/-- `optimize_r2_image`: the key that is returned, and the bucket. -/
def optimizeR2Image (key : Option String) (kind : ImageKind) (store : Store) :
    Option String × Store :=
  match key.filter fun k => k ≠ "" with
  | none => (key, store)
  | some name =>
      if isImageObjectKey lower name then
        match optimizeR2ImageSync lower codec faults name kind store with
        | (some targetKey, store) => (some targetKey, store)
        | (none, store) => (key, store)
      else (key, store)

end

/-! ## What is there afterwards -/

/-- The key returned names an object, and no object is gone but the one of the
input key, where another key is returned. -/
structure Preserves (key returned : String) (before after : Store) : Prop where
  there : after returned ≠ none
  removed : ∀ k, before k ≠ none → after k = none → k = key ∧ returned ≠ key

variable {key target : String} {store before : Store} {data : Bytes}

theorem put_ne_none {k : String} (h : store k ≠ none) : store.put key data k ≠ none := by
  by_cases heq : k = key
  · rw [heq, Store.put, Function.update_self]
    exact Option.some_ne_none data
  · rw [Store.put, Function.update_of_ne heq]
    exact h

/-- Writing one more object preserves what was preserved. -/
theorem Preserves.put (h : Preserves key target before store) (k : String) :
    Preserves key target before (store.put k data) where
  there := put_ne_none h.there
  removed k' hbefore hafter := by
    refine h.removed k' hbefore ?_
    by_contra hthere
    exact put_ne_none hthere hafter

theorem Preserves.unchanged (h : store key ≠ none) : Preserves key key store store :=
  ⟨h, fun _ hbefore hafter => absurd hafter hbefore⟩

theorem Preserves.writeThumb (h : Preserves key target before store)
    (lower : String → String) (codec : Codec) (faults : Faults) (kind : ImageKind) (data : Bytes) :
    (Images.writeThumb lower codec faults kind target data store).1 = some target ∧
      Preserves key target before
        (Images.writeThumb lower codec faults kind target data store).2 := by
  rw [Images.writeThumb]
  split
  · exact ⟨rfl, h⟩
  · split
    · exact ⟨rfl, h⟩
    · exact ⟨rfl, h.put _⟩

/-- The original is deleted once its replacement is there. -/
theorem Preserves.replace (hne : target ≠ key) :
    Preserves key target store ((store.put target data).delete key) where
  there := by
    rw [Store.delete, Function.update_of_ne hne, Store.put, Function.update_self]
    exact Option.some_ne_none data
  removed k hbefore hafter := by
    by_cases heq : k = key
    · exact ⟨heq, hne⟩
    · rw [Store.delete, Function.update_of_ne heq] at hafter
      exact absurd hafter (put_ne_none hbefore)

/-- What `_optimize_r2_image_sync` returns, or the original where it raises. -/
theorem optimizeR2ImageSync_preserves (lower : String → String) (codec : Codec)
    (faults : Faults) (kind : ImageKind) (h : store key ≠ none) :
    Preserves key ((optimizeR2ImageSync lower codec faults key kind store).1.getD key) store
      (optimizeR2ImageSync lower codec faults key kind store).2 := by
  have hsame : Preserves key key store store := Preserves.unchanged h
  have hthumb {target : String} {store' : Store} {data : Bytes}
      (h : Preserves key target store store') :
      Preserves key ((writeThumb lower codec faults kind target data store').1.getD key) store
        (writeThumb lower codec faults kind target data store').2 := by
    obtain ⟨hreturned, hpreserves⟩ := h.writeThumb lower codec faults kind data
    rw [hreturned]
    exact hpreserves
  rw [optimizeR2ImageSync]
  split
  · exact hsame
  next original _ =>
  split
  · split
    · exact hsame
    · exact hthumb (hsame.put key)
  split
  · exact hsame
  next optimized _ =>
  dsimp only
  split
  · split
    · exact hsame
    · exact hthumb (hsame.put key)
  split
  · exact hsame
  split
  · next htarget =>
      rw [htarget]
      exact hthumb (hsame.put key)
  next hne =>
  split
  · exact hsame.put _
  · exact hthumb (Preserves.replace hne)

/-- **Optimising an image never returns a missing object.** -/
theorem optimizeR2Image_preserves (lower : String → String) (codec : Codec) (faults : Faults)
    (key : String) (kind : ImageKind) (store : Store) (h : store key ≠ none) :
    ∃ returned, (optimizeR2Image lower codec faults (some key) kind store).1 = some returned ∧
      Preserves key returned store
        (optimizeR2Image lower codec faults (some key) kind store).2 := by
  have hsame : Preserves key key store store := Preserves.unchanged h
  rw [optimizeR2Image]
  split
  · exact ⟨key, rfl, hsame⟩
  next name hname =>
  obtain ⟨hkey, -⟩ := Option.filter_eq_some_iff.1 hname
  obtain rfl : key = name := Option.some.inj hkey
  split
  · have hsync := optimizeR2ImageSync_preserves lower codec faults kind h
    cases hrun : optimizeR2ImageSync lower codec faults key kind store with
    | mk answer after =>
        rw [hrun] at hsync
        cases answer with
        | some target => exact ⟨target, rfl, hsync⟩
        | none => exact ⟨key, rfl, hsync⟩
  · exact ⟨key, rfl, hsame⟩

/-- A poster whose delete fails after the WebP is written. -/
theorem posterDelete_fails :
    let store : Store := fun k => if k = "movies/x/p.png" then some [1, 2, 3] else none
    let codec : Codec := ⟨fun _ data => some (data.take 2), fun _ data => some (data.take 1)⟩
    store "movies/x/p.png" ≠ none ∧
      ∃ returned, (optimizeR2Image id codec ⟨false, false, true, false⟩ (some "movies/x/p.png")
          .poster store).1 = some returned ∧
        Preserves "movies/x/p.png" returned store
          (optimizeR2Image id codec ⟨false, false, true, false⟩ (some "movies/x/p.png")
            .poster store).2 := by
  intro store codec
  have hthere : store "movies/x/p.png" ≠ none := by simp [store]
  exact ⟨hthere, optimizeR2Image_preserves id codec _ _ _ store hthere⟩

end MovieApi.Publishing.Images
