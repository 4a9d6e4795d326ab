import MovieApi.HomePage.Builder

/-!
# One section of a kind, one section of a genre

`validate_section_create` keeps a second section of a singleton type and a
second section of a genre out.  An update renames a genre section without that
check, and the check of a create finds a stored name only when the database
lowers it to the new name, white space included.
-/

namespace MovieApi.HomePage

open Catalog (SectionType ItemKind)
open Publishing (Uuid Err notFound unprocessable)
open Sql

/-! ## The rule -/

/-- The same name but for case and surrounding or repeated white space. -/
def SameName (text : Lowering) (name name' : String) : Prop :=
  text.lower (normalizeGenre name) = text.lower (normalizeGenre name')

instance (text : Lowering) (name name' : String) : Decidable (SameName text name name') :=
  inferInstanceAs (Decidable (_ = _))

/-- The genre of a genre section. -/
def HomeSection.genre? (row : HomeSection) : Option String :=
  if row.type = .genre then row.genreName else none

/-- Both are genre sections, and of one genre. -/
def HomeSection.SameGenre (text : Lowering) (row row' : HomeSection) : Prop :=
  ∃ name ∈ row.genre?, ∃ name' ∈ row'.genre?, SameName text name name'

instance (text : Lowering) (row row' : HomeSection) : Decidable (row.SameGenre text row') :=
  inferInstanceAs (Decidable (∃ name ∈ row.genre?, ∃ name' ∈ row'.genre?, SameName text name name'))

structure Db.UniqueSections (text : Lowering) (d : Db) : Prop where
  singletons : ∀ type, singleton type = true →
    d.sections.countP (fun row => decide (row.type = type)) ≤ 1
  genres : d.sections.Pairwise fun row row' => ¬ row.SameGenre text row'

/-- No other section is of this genre. -/
def Db.NoOther (text : Lowering) (d : Db) (id : Uuid) (name : String) : Prop :=
  ∀ row ∈ d.sections, row.id ≠ id → ∀ other ∈ row.genre?, ¬ SameName text other name

/-- A create whose check finds no section of the genre is right about it, and a
rename takes the name of no other section. -/
def Operation.Distinct (text : Lowering) (d : Db) : Operation → Prop
  | .createSection id _ data => data.type = .genre →
      let name := normalizeGenre (data.genreName.getD "")
      d.genreSections text (text.lower name) = [] → d.NoOther text id name
  | .updateSection id data => ∀ row, d.section? id = some row → row.type = .genre →
      ∀ name ∈ data.genreName, ∀ new ∈ nonempty (normalizeGenre name), d.NoOther text id new
  | _ => True

/-- Admin operations one after the other, each allowed where it starts. -/
inductive Run (text : Lowering) (allowed : Db → Operation → Prop) (d : Db) : Db → Prop
  | refl : Run text allowed d d
  | step {d' : Db} (op : Operation) :
      Run text allowed d d' → allowed d' op → Run text allowed d (op.run text d')

/-! ## Sections after an operation -/

section

variable {text : Lowering} {d d' : Db} {id : Uuid} {f : HomeSection → HomeSection}

theorem HomeSection.SameGenre.symm {row row' : HomeSection} (h : row.SameGenre text row') :
    row'.SameGenre text row := by
  obtain ⟨name, hname, name', hname', heq⟩ := h
  exact ⟨name', hname', name, hname, Eq.symm heq⟩

/-- An update of one section that leaves its id and type alone. -/
theorem Db.UniqueSections.update (hd : d.UniqueSections text)
    (hkeys : Unique HomeSection.id d.sections) (htype : ∀ row, (f row).type = row.type)
    (hgenre : ∀ row ∈ d.sections, row.id = id → (f row).genre? = row.genre? ∨
      ∀ name ∈ (f row).genre?, d.NoOther text id name) :
    (d.updateSection id f).UniqueSections text where
  singletons type hsingleton := by
    have hcount := hd.singletons type hsingleton
    simp only [Db.updateSection, Sql.modify, List.countP_map] at hcount ⊢
    refine le_trans (le_of_eq (List.countP_congr fun row _ => ?_)) hcount
    by_cases h : row.id = id <;> simp [h, htype]
  genres := by
    have hne : d.sections.Pairwise fun row row' => row.id ≠ row'.id := List.pairwise_map.1 hkeys
    -- the updated section against one that stays
    have hother : ∀ {row row' : HomeSection}, row ∈ d.sections → row' ∈ d.sections →
        row.id = id → row'.id ≠ id → ¬ row.SameGenre text row' → ¬ (f row).SameGenre text row' := by
      intro row row' hrow hrow' hrowId hrowId' hsep hsame
      rcases hgenre row hrow hrowId with hkept | hfree
      · simp only [HomeSection.SameGenre, hkept] at hsame
        exact hsep hsame
      · obtain ⟨name, hname, name', hname', heq⟩ := hsame
        exact hfree name hname row' hrow' hrowId' name' hname' (Eq.symm heq)
    simp only [Db.updateSection, Sql.modify]
    rw [List.pairwise_map]
    refine (hd.genres.and hne).imp_of_mem fun {row row'} hrow hrow' h => ?_
    obtain ⟨hsep, hids⟩ := h
    by_cases hrowId : row.id = id
    · have hrowId' : row'.id ≠ id := fun h => hids (hrowId.trans h.symm)
      rw [if_pos hrowId, if_neg hrowId']
      exact hother hrow hrow' hrowId hrowId' hsep
    · rw [if_neg hrowId]
      by_cases hrowId' : row'.id = id
      · rw [if_pos hrowId']
        intro hsame
        exact hother hrow' hrow hrowId' hrowId (fun h => hsep h.symm) hsame.symm
      · rw [if_neg hrowId']
        exact hsep

theorem Db.UniqueSections.create (hd : d.UniqueSections text) {now : Instant}
    {data : HomeSectionCreate} (hdistinct : (Operation.createSection id now data).Distinct text d)
    (h : createHomeSection text id now data d = .ok d') : d'.UniqueSections text := by
  simp only [createHomeSection, bind, Except.bind] at h
  split at h
  · cases h
  split at h
  · cases h
  next genreName hvalid =>
  split at h
  · cases h
  next hfree =>
  cases h
  have hnew : ∀ row ∈ d.sections, row.id ≠ id := by
    intro row hrow hrowId
    exact hfree (hrowId ▸ lookup_isSome_of_mem hrow)
  unfold validateSectionCreate at hvalid
  split at hvalid
  · cases hvalid
  next hsingle =>
  constructor
  · intro type hsingleton
    have hcount := hd.singletons type hsingleton
    rw [List.countP_append, List.countP_singleton]
    split
    · next htype =>
        -- the first section of this type
        have htype : data.type = type := by simpa using htype
        have hnone : d.sections.countP (fun row => decide (row.type = type)) = 0 := by
          rw [List.countP_eq_zero]
          intro row hrow hrowType
          refine hsingle ⟨htype ▸ hsingleton, List.any_eq_true.2 ⟨row, hrow, ?_⟩⟩
          rw [htype]
          exact hrowType
        omega
    · omega
  · rw [List.pairwise_append]
    refine ⟨hd.genres, List.pairwise_singleton _ _, fun row hrow new hmem hsame => ?_⟩
    rw [List.mem_singleton] at hmem
    subst hmem
    obtain ⟨name, hname, new, hnew', heq⟩ := hsame
    simp only [HomeSection.genre?] at hnew'
    split at hnew'
    · next htype =>
        have htype : data.type = .genre := htype
        rw [if_pos htype] at hvalid
        dsimp only at hvalid
        split at hvalid
        · cases hvalid
        split at hvalid
        · next hfound =>
            cases hvalid
            obtain rfl : normalizeGenre (data.genreName.getD "") = new := by simpa using hnew'
            exact hdistinct htype hfound row hrow (hnew row hrow) name hname heq
        · cases hvalid
        · cases hvalid
    · simp at hnew'

theorem edited_genre? {data : HomeSectionUpdate} {row : HomeSection} {name : String}
    (hname : name ∈ (row.edited data).genre?) : name ∈ row.genre? ∨
      (row.type = .genre ∧ ∃ sent ∈ data.genreName, name ∈ nonempty (normalizeGenre sent)) := by
  by_cases htype : row.type = .genre
  · cases hsent : data.genreName with
    | none => exact .inl (by simpa [HomeSection.genre?, HomeSection.edited, htype, hsent] using hname)
    | some sent =>
        cases hnew : nonempty (normalizeGenre sent) with
        | none =>
            left
            simpa [HomeSection.genre?, HomeSection.edited, htype, hsent, hnew] using hname
        | some new =>
            right
            refine ⟨htype, sent, rfl, ?_⟩
            simpa [HomeSection.genre?, HomeSection.edited, htype, hsent, hnew] using hname
  · simp [HomeSection.genre?, HomeSection.edited, htype] at hname

/-- An update changes the section as edited, with the limit left or replaced. -/
theorem updateHomeSection_cases {data : HomeSectionUpdate}
    (h : updateHomeSection id data d = .ok d') : ∃ row limit, d.section? id = some row ∧
      (d' = d.updateSection id (fun row => row.edited data) ∨
        (LegalLimit limit ∧ validateItemLimit d (row.edited data) limit = .ok () ∧
          d' = d.updateSection id fun row => { row.edited data with itemLimit := limit })) := by
  simp only [updateHomeSection, bind, Except.bind] at h
  split at h
  · cases h
  next hcheck =>
  split at h
  · cases h
  next row hrow =>
  split at h
  · cases h
    exact ⟨row, none, hrow, .inl rfl⟩
  next limit hlimit =>
  split at h
  · cases h
  next hvalid =>
  cases h
  refine ⟨row, limit, hrow, .inr ⟨?_, hvalid, rfl⟩⟩
  unfold HomeSectionUpdate.check at hcheck
  repeat' split at hcheck
  all_goals first
    | cases hcheck; done
    | skip
  next hlegal => exact hlegal limit (by rw [hlimit]; rfl)

theorem Db.UniqueSections.edit (hd : d.UniqueSections text)
    (hkeys : Unique HomeSection.id d.sections) {data : HomeSectionUpdate}
    (hdistinct : (Operation.updateSection id data).Distinct text d)
    (h : updateHomeSection id data d = .ok d') : d'.UniqueSections text := by
  have hgenre : ∀ row ∈ d.sections, row.id = id → (row.edited data).genre? = row.genre? ∨
      ∀ name ∈ (row.edited data).genre?, d.NoOther text id name := by
    intro row hrow hrowId
    by_cases hkept : (row.edited data).genre? = row.genre?
    · exact .inl hkept
    refine .inr fun name hname => ?_
    rcases edited_genre? hname with hold | ⟨htype, sent, hsent, hnew⟩
    · exact absurd ((Option.mem_def.1 hname).trans (Option.mem_def.1 hold).symm) hkept
    · have hfound : d.section? id = some row := hrowId ▸ lookup_of_mem hkeys hrow
      exact hdistinct row hfound htype sent hsent name hnew
  obtain ⟨row, limit, -, rfl | ⟨-, -, rfl⟩⟩ := updateHomeSection_cases h
  · exact hd.update hkeys (fun _ => rfl) hgenre
  · exact hd.update hkeys (fun _ => rfl) hgenre

/-! ## Keys -/

theorem Db.updateSection_keys (hkeys : Unique HomeSection.id d.sections) (id : Uuid)
    (f : HomeSection → HomeSection) (hid : ∀ row, (f row).id = row.id) :
    Unique HomeSection.id (d.updateSection id f).sections :=
  hkeys.modify fun row h => (hid row).trans h

/-- What every placement of a section keeps, a reordering keeps. -/
theorem reorderSections_induction {P : Db → Prop} {ids : List Uuid}
    (hstep : ∀ d id place, P d →
      P (d.updateSection id fun row => { row with sortOrder := place }))
    (h : reorderSections ids d = .ok d') (hd : P d) : P d' := by
  unfold reorderSections at h
  split at h
  · cases h
  split at h
  · next hfound =>
      cases h
      clear hfound
      generalize ids.zipIdx = places
      induction places generalizing d with
      | nil => exact hd
      | cons place places ih => exact ih (hstep d place.1 place.2 hd)
  · cases h

/-- What every placement of an item keeps, a reordering of a rail keeps. -/
theorem reorderHomeSectionItems_induction {P : Db → Prop} {sectionId : Uuid} {ids : List Uuid}
    (hstep : ∀ d id place, P d → P (d.placeItem id place))
    (h : reorderHomeSectionItems sectionId ids d = .ok d') (hd : P d) : P d' := by
  unfold reorderHomeSectionItems at h
  split at h
  · cases h
  split at h
  · cases h
  next hsection =>
  dsimp only at h
  split at h
  · next hpresent =>
      cases h
      clear hsection hpresent
      generalize ids.zipIdx = places
      induction places generalizing d with
      | nil => exact hd
      | cons place places ih => exact ih (hstep d place.1 place.2 hd)
  · cases h

/-- Operations on items leave the sections alone. -/
theorem reorderHomeSectionItems_sections {sectionId : Uuid} {ids : List Uuid}
    (h : reorderHomeSectionItems sectionId ids d = .ok d') : d'.sections = d.sections :=
  reorderHomeSectionItems_induction (P := fun d' => d'.sections = d.sections)
    (fun _ _ _ => id) h rfl

theorem createHomeSectionItem_eq {item : HomeSectionItem}
    (h : createHomeSectionItem item d = .ok d') : ∃ row, d.section? item.sectionId = some row ∧
      validateItemAdd d row item.itemKind item.refId = .ok () ∧
        d' = { d with items := d.items ++ [item] } := by
  unfold createHomeSectionItem at h
  split at h
  · cases h
  next row hrow =>
  split at h
  · cases h
  next hvalid =>
  split at h
  · cases h
  · cases h
    exact ⟨row, hrow, hvalid, rfl⟩

theorem deleteHomeSection_eq (h : deleteHomeSection id d = .ok d') : d' = { d with
    sections := remove HomeSection.id id d.sections
    items := d.items.filter fun item => decide (item.sectionId ≠ id) } := by
  unfold deleteHomeSection at h
  split at h
  · cases h
  split at h
  · cases h
  · cases h
    rfl

theorem createHomeSection_eq {now : Instant} {data : HomeSectionCreate}
    (h : createHomeSection text id now data d = .ok d') : d.section? id = none ∧
      ∃ row : HomeSection, row.id = id ∧ row.itemLimit = none ∧
        d' = { d with sections := d.sections ++ [row] } := by
  simp only [createHomeSection, bind, Except.bind] at h
  split at h
  · cases h
  split at h
  · cases h
  split at h
  · cases h
  next hfree =>
  cases h
  exact ⟨by simpa using hfree, _, rfl, rfl, rfl⟩

/-! ## Runs -/

/-- What the rule needs of a state besides itself. -/
structure Db.Sound (text : Lowering) (d : Db) : Prop extends d.UniqueSections text where
  keys : Unique HomeSection.id d.sections

theorem Db.Sound.of_sections (hd : d.Sound text) (h : d'.sections = d.sections) :
    d'.Sound text where
  singletons := by
    rw [h]
    exact hd.singletons
  genres := by
    rw [h]
    exact hd.genres
  keys := by
    rw [h]
    exact hd.keys

/-- One operation. -/
theorem Operation.sound {op : Operation} (hd : d.Sound text) (hdistinct : op.Distinct text d) :
    (op.run text d).Sound text := by
  unfold Operation.run
  cases h : op.handle text d with
  | error err => exact hd
  | ok d' =>
      cases op with
      | createSection id now data =>
          have hrule := hd.toUniqueSections.create hdistinct h
          obtain ⟨hfree, row, hid, -, rfl⟩ := createHomeSection_eq h
          exact ⟨hrule, hd.keys.append (hid.symm ▸ hfree)⟩
      | updateSection id data =>
          have hrule := hd.toUniqueSections.edit hd.keys hdistinct h
          refine ⟨hrule, ?_⟩
          obtain ⟨row, limit, -, rfl | ⟨-, -, rfl⟩⟩ := updateHomeSection_cases h
          · exact Db.updateSection_keys hd.keys id _ fun _ => rfl
          · exact Db.updateSection_keys hd.keys id _ fun _ => rfl
      | reorderSections ids =>
          refine reorderSections_induction (P := fun d => d.Sound text) (fun d id place hd => ?_)
            h hd
          exact ⟨hd.toUniqueSections.update hd.keys (fun _ => rfl) fun _ _ _ => .inl rfl,
            Db.updateSection_keys hd.keys id _ fun _ => rfl⟩
      | deleteSection id =>
          rw [deleteHomeSection_eq h]
          have hsub : (remove HomeSection.id id d.sections).Sublist d.sections :=
            List.filter_sublist
          exact ⟨⟨fun type hsingleton => (hsub.countP_le).trans (hd.singletons type hsingleton),
            hd.genres.sublist hsub⟩, hd.keys.remove⟩
      | createItem item =>
          obtain ⟨row, -, -, rfl⟩ := createHomeSectionItem_eq h
          exact hd.of_sections rfl
      | updateItem id sortOrder =>
          have h : updateHomeSectionItem id sortOrder d = .ok d' := h
          unfold updateHomeSectionItem at h
          split at h
          · cases h
            exact hd.of_sections rfl
          · cases h
      | reorderItems sectionId ids => exact hd.of_sections (reorderHomeSectionItems_sections h)
      | deleteItem id =>
          have h : deleteHomeSectionItem id d = .ok d' := h
          unfold deleteHomeSectionItem at h
          split at h
          · cases h
            exact hd.of_sections rfl
          · cases h

end

/-- As long as no rename takes the genre of another section, and every create
whose check finds no section of its genre is right about it, admin operations
leave at most one section of each singleton type and of each genre. -/
theorem sections_stay_unique (text : Lowering) (d : Db) (hkeys : Unique HomeSection.id d.sections)
    (hd : d.UniqueSections text) {d' : Db}
    (h : Run text (fun d op => op.Distinct text d) d d') : d'.UniqueSections text := by
  have hsound : d'.Sound text := by
    induction h with
    | refl => exact ⟨hd, hkeys⟩
    | step op _ hdistinct ih => exact op.sound ih hdistinct
  exact hsound.toUniqueSections

/-! ## Two rails -/

namespace Rails

def lower (name : String) : String := String.ofList (name.toList.map Char.toLower)

def text : Lowering := ⟨lower, lower⟩

def rail (id : Uuid) (name : String) : HomeSection :=
  ⟨id, .genre, none, some name, true, 0, none, 0⟩

def db : Db := ⟨⟨[], [], [], [], [], [], []⟩, [rail 1 "Action", rail 2 "Drama"], []⟩

def rename (name : String) : Operation := .updateSection 2 ⟨none, some name, none, none, none⟩

theorem db_keys : Unique HomeSection.id db.sections :=
  show (db.sections.map HomeSection.id).Nodup by decide

theorem db_uniqueSections : db.UniqueSections text where
  singletons type h := by cases type <;> first | decide | simp [singleton] at h
  genres := by decide

end Rails

/-- Renaming the second rail to a genre of its own. -/
theorem renamed_rails_unique :
    ((Rails.rename " Sci  Fi").run Rails.text Rails.db).UniqueSections Rails.text := by
  refine sections_stay_unique Rails.text Rails.db Rails.db_keys Rails.db_uniqueSections
    (.step (Rails.rename " Sci  Fi") .refl ?_)
  rintro row hrow htype name ⟨⟩ new hnew other hother hne genre hgenre
  obtain rfl : "Sci Fi" = new := by
    have hnormal : nonempty (normalizeGenre " Sci  Fi") = some "Sci Fi" := by decide
    exact Option.some.inj (hnormal.symm.trans hnew)
  simp only [Rails.db, List.mem_cons, List.not_mem_nil, or_false] at hother
  rcases hother with rfl | rfl
  · obtain rfl : "Action" = genre := Option.some.inj hgenre
    decide
  · exact absurd rfl hne

/-- Renaming it to the genre of the first. -/
theorem renamed_rails_alike : Unique HomeSection.id Rails.db.sections ∧
    Rails.db.UniqueSections Rails.text ∧
      ∃ d, Run Rails.text (fun _ _ => True) Rails.db d ∧ ¬ d.UniqueSections Rails.text := by
  refine ⟨Rails.db_keys, Rails.db_uniqueSections, _,
    .step (Rails.rename " action") .refl trivial, fun h => ?_⟩
  have hsame : ¬ ((Rails.rename " action").run Rails.text Rails.db).sections.Pairwise
      fun row row' => ¬ row.SameGenre Rails.text row' := by decide +kernel
  exact hsame h.genres

end MovieApi.HomePage
