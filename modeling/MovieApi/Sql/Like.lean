import Mathlib.Data.List.Infix
import Mathlib.Tactic.Common

/-!
# `LIKE` and `ILIKE`

Patterns with `%` for any run, `_` for any character and a backslash that takes the
next character literally.  A text between two `%` is searched for as it is exactly when
it has none of the three.
-/

namespace MovieApi.Sql

/-! ## Patterns -/

inductive LikeToken where
  | anyRun
  | anyChar
  | char (c : Char)
  /-- a backslash at the end, which the server rejects -/
  | dangling
deriving DecidableEq, Repr

def likeTokens : List Char → List LikeToken
  | [] => []
  | '%' :: pattern => .anyRun :: likeTokens pattern
  | '_' :: pattern => .anyChar :: likeTokens pattern
  | ['\\'] => [.dangling]
  | '\\' :: c :: pattern => .char c :: likeTokens pattern
  | c :: pattern => .char c :: likeTokens pattern

def likeMatches : List LikeToken → List Char → Bool
  | [], text => text.isEmpty
  | .anyRun :: tokens, text => text.tails.any (likeMatches tokens)
  | .anyChar :: tokens, text => text.head?.isSome && likeMatches tokens text.tail
  | .char c :: tokens, text => decide (text.head? = some c) && likeMatches tokens text.tail
  | .dangling :: _, _ => false

def like (pattern text : List Char) : Bool := likeMatches (likeTokens pattern) text

section

-- Their equations are derived here, once, and not by every proof below that unfolds them.
attribute [local simp] likeTokens likeMatches

end

/-- The characters a pattern gives a meaning of its own. -/
def likeSpecial (c : Char) : Bool := c = '%' || c = '_' || c = '\\'

/-- `lower` of the database, character by character.  The special characters have no case. -/
structure Folding where
  lower : Char → Char
  lower_special : ∀ c, likeSpecial c = true → lower c = c
  special_of_lower : ∀ c, likeSpecial (lower c) = true → likeSpecial c = true

/-- The case of ASCII letters. -/
def Folding.ascii : Folding where
  lower := Char.toLower
  lower_special := by
    intro c hc
    simp only [likeSpecial, Bool.or_eq_true, decide_eq_true_eq] at hc
    rcases hc with (rfl | rfl) | rfl <;> decide
  special_of_lower := by
    intro c h
    unfold Char.toLower at h
    split at h
    · next hupper =>
        have hlow : 65 ≤ c.val.toNat := hupper.1
        have hhigh : c.val.toNat ≤ 90 := hupper.2
        have hval : (c.val + 32).toNat = c.val.toNat + 32 := by
          rw [UInt32.toNat_add]
          have hshift : (32 : UInt32).toNat = 32 := rfl
          omega
        simp only [likeSpecial, Bool.or_eq_true, decide_eq_true_eq] at h
        rcases h with (h | h) | h
        · have hnat : (c.val + 32).toNat = 37 := congrArg (fun d : Char => d.val.toNat) h
          omega
        · have hnat : (c.val + 32).toNat = 95 := congrArg (fun d : Char => d.val.toNat) h
          omega
        · have hnat : (c.val + 32).toNat = 92 := congrArg (fun d : Char => d.val.toNat) h
          omega
    · exact h

/-- Both sides are lowered before the pattern is read. -/
def ilike (folding : Folding) (pattern text : List Char) : Bool :=
  like (pattern.map folding.lower) (text.map folding.lower)

/-- `term` occurs in `text`, ignoring case. -/
def Folding.Contains (folding : Folding) (text term : List Char) : Prop :=
  term.map folding.lower <:+: text.map folding.lower

/-! ## Literal text -/

section

variable {c : Char} {term text pattern : List Char} {tokens : List LikeToken}

theorem ordinary_of_ne (hrun : c ≠ '%') (hany : c ≠ '_') (hdangling : c = '\\' → text = [] → False)
    (hescape : ∀ d rest, c = '\\' → text = d :: rest → False) : likeSpecial c = false := by
  simp only [likeSpecial, Bool.or_eq_false_iff, decide_eq_false_iff_not]
  refine ⟨⟨hrun, hany⟩, fun hc => ?_⟩
  cases text with
  | nil => exact hdangling hc rfl
  | cons d rest => exact hescape d rest hc rfl

theorem likeTokens_cons (h : likeSpecial c = false) :
    likeTokens (c :: pattern) = .char c :: likeTokens pattern := by
  simp only [likeSpecial, Bool.or_eq_false_iff, decide_eq_false_iff_not] at h
  rw [likeTokens]
  · exact h.1.1
  · exact h.1.2
  · intro hc
    exact absurd hc h.2
  · intro d rest hc
    exact absurd hc h.2

theorem likeTokens_append (h : ∀ c ∈ term, likeSpecial c = false) :
    likeTokens (term ++ pattern) = term.map .char ++ likeTokens pattern := by
  induction term with
  | nil => rfl
  | cons c term ih =>
      rw [List.cons_append, likeTokens_cons (h c (by simp)), ih fun d hd => h d (by simp [hd])]
      rfl

theorem likeMatches_anyRun : likeMatches (.anyRun :: tokens) text = true ↔
    ∃ rest, rest <:+ text ∧ likeMatches tokens rest = true := by
  rw [likeMatches, List.any_eq_true]
  simp only [List.mem_tails]

theorem likeMatches_chars : likeMatches (term.map .char ++ tokens) text = true ↔
    ∃ rest, text = term ++ rest ∧ likeMatches tokens rest = true := by
  induction term generalizing text with
  | nil => simp
  | cons c term ih =>
      rw [List.map_cons, List.cons_append, likeMatches]
      cases text with
      | nil => simp
      | cons d text =>
          simp only [List.head?_cons, Option.some.injEq, List.tail_cons, Bool.and_eq_true,
            decide_eq_true_eq, ih, List.cons_append, List.cons.injEq]
          constructor
          · rintro ⟨rfl, rest, rfl, hrest⟩
            exact ⟨rest, ⟨rfl, rfl⟩, hrest⟩
          · rintro ⟨rest, ⟨rfl, rfl⟩, hrest⟩
            exact ⟨rfl, rest, rfl, hrest⟩

/-- Between two `%` ordinary text is searched for as it is. -/
theorem like_surrounded (h : ∀ c ∈ term, likeSpecial c = false) :
    like ('%' :: (term ++ ['%'])) text = true ↔ term <:+: text := by
  unfold like
  rw [likeTokens, likeTokens_append h, likeMatches_anyRun]
  constructor
  · rintro ⟨rest, ⟨front, rfl⟩, hrest⟩
    obtain ⟨back, rfl, -⟩ := likeMatches_chars.1 hrest
    exact ⟨front, back, by simp⟩
  · rintro ⟨front, back, rfl⟩
    refine ⟨term ++ back, ⟨front, by simp⟩, likeMatches_chars.2 ⟨back, rfl, ?_⟩⟩
    exact likeMatches_anyRun.2 ⟨[], List.nil_suffix, rfl⟩

end

/-! ## Text with special characters -/

/-- The shortest text that the pattern `term%` matches, with `filler` for `_`. -/
def bareText (filler : Char) : List Char → List Char
  | [] => []
  | '%' :: term => bareText filler term
  | '_' :: term => filler :: bareText filler term
  | ['\\'] => ['%']
  | '\\' :: c :: term => c :: bareText filler term
  | c :: term => c :: bareText filler term

variable {filler : Char} {term : List Char}

section

-- Its equations are derived here, once, and not by every proof below that unfolds it.
attribute [local simp] bareText

end

theorem bareText_cons {c : Char} (h : likeSpecial c = false) :
    bareText filler (c :: term) = c :: bareText filler term := by
  simp only [likeSpecial, Bool.or_eq_false_iff, decide_eq_false_iff_not] at h
  rw [bareText]
  · exact h.1.1
  · exact h.1.2
  · intro hc
    exact absurd hc h.2
  · intro d rest hc
    exact absurd hc h.2

theorem likeMatches_bareText :
    likeMatches (likeTokens (term ++ ['%'])) (bareText filler term) = true := by
  fun_induction bareText filler term with
  | case1 => rfl
  | case2 term ih =>
      rw [List.cons_append, likeTokens, likeMatches_anyRun]
      exact ⟨_, List.suffix_rfl, ih⟩
  | case3 term ih =>
      rw [List.cons_append, likeTokens, likeMatches]
      simpa using ih
  | case4 => rfl
  | case5 c term ih =>
      rw [List.cons_append, List.cons_append, likeTokens, likeMatches]
      simpa using ih
  | case6 c term hrun hany hdangling hescape ih =>
      have hc := ordinary_of_ne hrun hany hdangling hescape
      rw [List.cons_append, likeTokens_cons hc, likeMatches]
      simpa using ih

theorem length_bareText_le : (bareText filler term).length ≤ term.length := by
  fun_induction bareText filler term with
  | case1 => exact le_refl _
  | case4 => exact le_refl _
  | case2 | case3 | case5 | case6 =>
      simp only [List.length_cons]
      omega

/-- The shortest text is the searched text itself only where nothing is special. -/
theorem ordinary_of_map_bareText (folding : Folding) (hfiller : likeSpecial filler = false)
    (h : (bareText filler term).map folding.lower = term.map folding.lower) :
    ∀ c ∈ term, likeSpecial c = false := by
  fun_induction bareText filler term with
  | case1 => exact fun c hc => by cases hc
  | case2 term ih =>
      have hlength := congrArg List.length h
      have hle : (bareText filler term).length ≤ term.length := length_bareText_le
      simp only [List.length_map, List.length_cons] at hlength
      omega
  | case3 term ih =>
      have hhead : folding.lower filler = folding.lower '_' := (List.cons.inj h).1
      rw [folding.lower_special '_' rfl] at hhead
      have hspecial := folding.special_of_lower filler (by rw [hhead]; rfl)
      rw [hfiller] at hspecial
      cases hspecial
  | case4 =>
      have hhead : folding.lower '%' = folding.lower '\\' := (List.cons.inj h).1
      rw [folding.lower_special '%' rfl, folding.lower_special '\\' rfl] at hhead
      cases hhead
  | case5 c term ih =>
      have hlength := congrArg List.length h
      have hle : (bareText filler term).length ≤ term.length := length_bareText_le
      simp only [List.length_map, List.length_cons] at hlength
      omega
  | case6 c term hrun hany hdangling hescape ih =>
      have hc := ordinary_of_ne hrun hany hdangling hescape
      intro d hd
      rcases List.mem_cons.1 hd with rfl | hd
      · exact hc
      · exact ih (List.cons.inj h).2 d hd

/-! ## Ignoring case -/

section

variable (folding : Folding)

theorem Folding.special_lower (c : Char) : likeSpecial (folding.lower c) = likeSpecial c := by
  cases h : likeSpecial c with
  | true => rw [folding.lower_special c h, h]
  | false =>
      cases hlower : likeSpecial (folding.lower c) with
      | true => rw [folding.special_of_lower c hlower] at h; exact h
      | false => rfl

theorem map_bareText (filler : Char) (term : List Char) :
    (bareText filler term).map folding.lower =
      bareText (folding.lower filler) (term.map folding.lower) := by
  fun_induction bareText filler term with
  | case1 => rfl
  | case2 term ih =>
      rw [List.map_cons, folding.lower_special '%' rfl, bareText, ih]
  | case3 term ih =>
      rw [List.map_cons, List.map_cons, folding.lower_special '_' rfl, bareText, ih]
  | case4 =>
      rw [List.map_cons, List.map_cons, folding.lower_special '%' rfl,
        folding.lower_special '\\' rfl]
      rfl
  | case5 c term ih =>
      rw [List.map_cons, List.map_cons, List.map_cons, folding.lower_special '\\' rfl, bareText, ih]
  | case6 c term hrun hany hdangling hescape ih =>
      have hc := (folding.special_lower c).trans (ordinary_of_ne hrun hany hdangling hescape)
      rw [List.map_cons, List.map_cons, bareText_cons hc, ih]

theorem map_surrounded (term : List Char) :
    ('%' :: (term ++ ['%'])).map folding.lower = '%' :: (term.map folding.lower ++ ['%']) := by
  rw [List.map_cons, List.map_append, List.map_cons, List.map_nil, folding.lower_special '%' rfl]

/-- Text between two `%` is searched for as it is exactly when it has no special character. -/
theorem ilike_surrounded_iff (term : List Char) :
    (∀ text, ilike folding ('%' :: (term ++ ['%'])) text = true ↔ folding.Contains text term) ↔
      ∀ c ∈ term, likeSpecial c = false := by
  constructor
  · intro h
    have hmatch : ilike folding ('%' :: (term ++ ['%'])) (bareText 'a' term) = true := by
      unfold ilike like
      rw [map_surrounded, map_bareText, likeTokens, likeMatches_anyRun]
      exact ⟨_, List.suffix_rfl, likeMatches_bareText⟩
    have hwithin : folding.Contains (bareText 'a' term) term := (h _).1 hmatch
    have hle : (bareText 'a' term).length ≤ term.length := length_bareText_le
    have hlength : (term.map folding.lower).length =
        ((bareText 'a' term).map folding.lower).length := by
      refine le_antisymm hwithin.length_le ?_
      rw [List.length_map, List.length_map]
      exact hle
    exact ordinary_of_map_bareText folding (by decide)
      (hwithin.eq_of_length hlength).symm
  · intro h text
    have hlower : ∀ c ∈ term.map folding.lower, likeSpecial c = false := by
      intro c hc
      obtain ⟨d, hd, rfl⟩ := List.mem_map.1 hc
      rw [folding.special_lower, h d hd]
    unfold ilike
    rw [map_surrounded, like_surrounded hlower]
    rfl

/-! ## Escaped text -/

/-- A backslash before each special character. -/
def likeEscape (text : List Char) : List Char :=
  text.flatMap fun c => if likeSpecial c then ['\\', c] else [c]

theorem likeTokens_likeEscape (text : List Char) : likeTokens (likeEscape text) = text.map .char := by
  unfold likeEscape
  induction text with
  | nil => rfl
  | cons c text ih =>
      rw [List.flatMap_cons, List.map_cons, ← ih]
      by_cases hc : likeSpecial c = true
      · rw [if_pos hc]
        rfl
      · rw [if_neg hc, List.singleton_append, likeTokens_cons (by simpa using hc)]

theorem map_likeEscape (text : List Char) :
    (likeEscape text).map folding.lower = likeEscape (text.map folding.lower) := by
  unfold likeEscape
  rw [List.map_flatMap, List.flatMap_map]
  refine List.flatMap_congr fun c _ => ?_
  rw [folding.special_lower]
  split
  · next hc =>
      rw [List.map_cons, List.map_cons, List.map_nil, folding.lower_special '\\' rfl]
  · rfl

/-- Escaped text matches itself, ignoring case, and nothing else. -/
theorem ilike_likeEscape {pattern text : List Char} :
    ilike folding (likeEscape pattern) text = true ↔
      text.map folding.lower = pattern.map folding.lower := by
  unfold ilike like
  have hchars : likeMatches ((pattern.map folding.lower).map .char ++ []) (text.map folding.lower) =
      true ↔ ∃ rest, text.map folding.lower = pattern.map folding.lower ++ rest ∧
        likeMatches [] rest = true := likeMatches_chars
  rw [List.append_nil] at hchars
  rw [map_likeEscape, likeTokens_likeEscape, hchars]
  constructor
  · rintro ⟨rest, htext, hrest⟩
    obtain rfl : rest = [] := by simpa [likeMatches] using hrest
    rw [htext, List.append_nil]
  · intro h
    exact ⟨[], by rw [h, List.append_nil], rfl⟩

end

end MovieApi.Sql
