import MovieApi.HomeSections.Requests
import MovieApi.TelegramBot.Text
import MovieApi.Sql.Table

/-!
# The builder of the home page

The sections of the landing page and the titles picked for them, with every
admin operation of `routers/admin/home_sections.py`.
-/

namespace MovieApi.HomePage

open Catalog (SectionType ItemKind ContentType)
open HomeSections (SlideType effectiveItemLimit itemKindsByType limitEditable typeText kindText
  missing itemRefused)
open Publishing (Uuid Err notFound unprocessable)
open Sql

abbrev Instant := Int

/-! ## Rows -/

structure Movie where
  id : Uuid
  type : ContentType
  isPublished : Bool
  posterKey : Option String
  createdAt : Instant
deriving DecidableEq, Repr

structure Series where
  id : Uuid
  isPublished : Bool
  createdAt : Instant
deriving DecidableEq, Repr

structure TVChannel where
  id : Uuid
  name : String
  status : String
  isPublished : Bool
  sortOrder : Int
deriving DecidableEq, Repr

structure HeroFeaturedItem where
  id : Uuid
  contentType : SlideType
  contentId : Option Uuid
  placement : String
  isActive : Bool
  startsAt : Option Instant
  endsAt : Option Instant
  sortOrder : Int
  createdAt : Instant
deriving DecidableEq, Repr

structure PromotionBanner where
  id : Uuid
  placement : String
  isActive : Bool
  startsAt : Option Instant
  endsAt : Option Instant
  sortOrder : Int
  createdAt : Instant
deriving DecidableEq, Repr

/-- A row of `free_today_items` or `coming_soon_items`. -/
structure RailItem where
  contentId : Uuid
  sortOrder : Int
  createdAt : Instant
deriving DecidableEq, Repr

structure HomeSection where
  id : Uuid
  type : SectionType
  title : Option String
  genreName : Option String
  isVisible : Bool
  sortOrder : Int
  itemLimit : Option Int
  createdAt : Instant
deriving DecidableEq, Repr

structure HomeSectionItem where
  id : Uuid
  sectionId : Uuid
  itemKind : ItemKind
  refId : Uuid
  sortOrder : Int
  createdAt : Instant
deriving DecidableEq, Repr

/-- The tables the catalogue is read from. -/
structure Titles where
  contents : List Movie
  series : List Series
  channels : List TVChannel
  heroItems : List HeroFeaturedItem
  banners : List PromotionBanner
  freeTodayItems : List RailItem
  comingSoonItems : List RailItem
deriving DecidableEq, Repr

structure Db extends Titles where
  sections : List HomeSection
  items : List HomeSectionItem
deriving DecidableEq, Repr

namespace Db

def section? (d : Db) (id : Uuid) : Option HomeSection := lookup HomeSection.id id d.sections

/-- `_count_section_items`. -/
def countSectionItems (d : Db) (sectionId : Uuid) : Nat :=
  d.items.countP fun item => decide (item.sectionId = sectionId)

end Db

/-- `section.item_limit` under the rules of its type. -/
def HomeSection.limit (row : HomeSection) : Option Int := effectiveItemLimit row.type row.itemLimit

/-! ## Texts -/

/-- `str.lower` and the `lower` of the database, which need not agree outside
ASCII. -/
structure Lowering where
  lower : String → String
  sqlLower : String → String

def strip (text : String) : String := String.ofList (TelegramBot.strip text.toList)

/-- `str.split()`. -/
def splitWords (text : String) : List String :=
  ((text.toList.splitOnP TelegramBot.isSpace).filter fun word => decide (word ≠ [])).map
    String.ofList

/-- `_normalize_genre`. -/
def normalizeGenre (name : String) : String := " ".intercalate (splitWords (strip name))

/-- A text that Python counts as true. -/
def nonempty (text : String) : Option String := if text = "" then none else some text

/-! ## Sections -/

structure HomeSectionCreate where
  type : SectionType
  title : Option String
  genreName : Option String
  isVisible : Bool
  sortOrder : Int
deriving DecidableEq, Repr

/-- The checks of the request body. -/
def HomeSectionCreate.check (data : HomeSectionCreate) : Except Err Unit :=
  if data.title.any fun title => decide (120 < title.length) then
    .error (unprocessable "String should have at most 120 characters")
  else if data.genreName.any fun name => decide (80 < name.length) then
    .error (unprocessable "String should have at most 80 characters")
  else if data.type = .genre ∧ ¬ data.genreName.any fun name => decide (strip name ≠ "") then
    .error (unprocessable "genre_name is required for genre sections")
  else if data.type = .custom ∧ ¬ data.title.any fun title => decide (strip title ≠ "") then
    .error (unprocessable "title is required for custom sections")
  else .ok ()

/-- The outer option of `item_limit` says whether the field was sent. -/
structure HomeSectionUpdate where
  title : Option String
  genreName : Option String
  isVisible : Option Bool
  sortOrder : Option Int
  itemLimit : Option (Option Int)
deriving DecidableEq, Repr

/-- `MAX_SECTION_ITEM_LIMIT`. -/
def maxSectionItemLimit : Int := 50

/-- A limit an admin can set. -/
def LegalLimit (limit : Option Int) : Prop := ∀ n ∈ limit, 1 ≤ n ∧ n ≤ maxSectionItemLimit

instance (limit : Option Int) : Decidable (LegalLimit limit) :=
  inferInstanceAs (Decidable (∀ n ∈ limit, _))

def HomeSectionUpdate.check (data : HomeSectionUpdate) : Except Err Unit :=
  if data.title.any fun title => decide (120 < title.length) then
    .error (unprocessable "String should have at most 120 characters")
  else if data.genreName.any fun name => decide (80 < name.length) then
    .error (unprocessable "String should have at most 80 characters")
  else if ∀ limit ∈ data.itemLimit, LegalLimit limit then .ok ()
  else .error (unprocessable "Input should be between 1 and 50")

/-- `SINGLETON_TYPES`. -/
def singleton (type : SectionType) : Bool := decide (type ≠ .genre ∧ type ≠ .custom)

def conflict (detail : String) : Err := .http 409 detail

/-- What a query for one row does when it finds several. -/
def multipleResults : Err := .http 500 "Internal Server Error"

/-- The genre sections whose name, lowered by the database, is this one. -/
def Db.genreSections (text : Lowering) (d : Db) (lowered : String) : List HomeSection :=
  d.sections.filter fun row =>
    decide (row.type = .genre) && row.genreName.any fun name => decide (text.sqlLower name = lowered)

/-- `validate_section_create`: the genre name to store. -/
def validateSectionCreate (text : Lowering) (d : Db) (type : SectionType)
    (genreName : Option String) : Except Err (Option String) :=
  if singleton type ∧ d.sections.any fun row => decide (row.type = type) then
    .error (conflict ("A " ++ typeText type ++ " section already exists — edit it instead"))
  else if type = .genre then
    let normalized := normalizeGenre (genreName.getD "")
    if normalized = "" then .error (conflict "genre_name is required for genre sections")
    else match d.genreSections text (text.lower normalized) with
      | [] => .ok (some normalized)
      | [_] => .error (conflict "A rail for that genre already exists")
      | _ => .error multipleResults
  else .ok none

/-- `admin_create_home_section`; `id` and `now` are drawn for the row. -/
def createHomeSection (text : Lowering) (id : Uuid) (now : Instant) (data : HomeSectionCreate)
    (d : Db) : Except Err Db := do
  data.check
  let genreName ← validateSectionCreate text d data.type data.genreName
  let row : HomeSection :=
    { id := id, type := data.type, title := (data.title.bind nonempty).map strip,
      genreName := genreName, isVisible := data.isVisible, sortOrder := data.sortOrder,
      itemLimit := none, createdAt := now }
  if (d.section? id).isSome then .error .integrity
  else .ok { d with sections := d.sections ++ [row] }

/-- `validate_item_limit`. -/
def validateItemLimit (d : Db) (row : HomeSection) (limit : Option Int) : Except Err Unit :=
  if limitEditable row.type = false then .error (conflict "This section's limit can't be changed")
  else match effectiveItemLimit row.type limit with
    | none => .ok ()
    | some wanted =>
        let count := d.countSectionItems row.id
        if wanted < count then
          .error (conflict ("This section has " ++ toString count ++ " items. Remove " ++
            toString (count - wanted) ++ " first."))
        else .ok ()

/-- The fields of `admin_update_home_section` that need no check. -/
def HomeSection.edited (data : HomeSectionUpdate) (row : HomeSection) : HomeSection :=
  { row with
    title := match data.title with
      | none => row.title
      | some title => nonempty (strip title)
    genreName := match data.genreName with
      | none => row.genreName
      | some name =>
          if row.type = .genre then (nonempty (normalizeGenre name)).or row.genreName
          else row.genreName
    isVisible := data.isVisible.getD row.isVisible
    sortOrder := data.sortOrder.getD row.sortOrder }

def Db.updateSection (d : Db) (id : Uuid) (f : HomeSection → HomeSection) : Db :=
  { d with sections := modify HomeSection.id id f d.sections }

/-- `admin_update_home_section`. -/
def updateHomeSection (id : Uuid) (data : HomeSectionUpdate) (d : Db) : Except Err Db := do
  data.check
  match d.section? id with
  | none => .error (notFound "Home section not found")
  | some row =>
      match data.itemLimit with
      | none => .ok (d.updateSection id fun row => row.edited data)
      | some limit =>
          validateItemLimit d (row.edited data) limit
          .ok (d.updateSection id fun row => { row.edited data with itemLimit := limit })

/-- `reorder_sections`: an id given twice gets its last place. -/
def reorderSections (ids : List Uuid) (d : Db) : Except Err Db :=
  if ids = [] then .error (unprocessable "List should have at least 1 item after validation")
  else if ∀ id ∈ ids, (d.section? id).isSome then
    .ok (ids.zipIdx.foldl (fun d place =>
      d.updateSection place.1 fun row => { row with sortOrder := place.2 }) d)
  else .error (notFound "One or more sections were not found")

/-- `admin_delete_home_section`; the items go with the section. -/
def deleteHomeSection (id : Uuid) (d : Db) : Except Err Db :=
  match d.section? id with
  | none => .error (notFound "Home section not found")
  | some row =>
      if row.type ≠ .genre ∧ row.type ≠ .custom then
        .error (conflict "Hide this section instead of deleting it")
      else .ok { d with
        sections := remove HomeSection.id id d.sections
        items := d.items.filter fun item => decide (item.sectionId ≠ id) }

/-! ## Items -/

/-- The row an item names, as `validate_item_add` looks for it. -/
def Titles.hasReference (d : Titles) (kind : ItemKind) (refId : Uuid) : Bool :=
  match kind with
  | .movie => d.contents.any fun row => decide (row.id = refId ∧ row.type = .single)
  | .series => d.series.any fun row => decide (row.id = refId)
  | .tvChannel => d.channels.any fun row => decide (row.id = refId)
  | .heroSlide => d.heroItems.any fun row => decide (row.id = refId)
  | .banner => d.banners.any fun row => decide (row.id = refId)

/-- `validate_item_add`, which raises a `ValueError` with a message. -/
def validateItemAdd (d : Db) (row : HomeSection) (kind : ItemKind) (refId : Uuid) :
    Except String Unit :=
  if kind ∉ itemKindsByType row.type then
    .error (typeText row.type ++ " sections do not accept " ++ kindText kind ++ " items")
  else if d.hasReference kind refId = false then .error (missing kind)
  else if d.items.any fun item =>
      decide (item.sectionId = row.id ∧ item.itemKind = kind ∧ item.refId = refId) then
    .error "Already on this section"
  else match row.limit with
    | none => .ok ()
    | some cap =>
        if cap ≤ d.countSectionItems row.id then
          .error ("This section is limited to " ++ toString cap ++ " items")
        else .ok ()

/-- `admin_create_home_section_item`; `item` carries the id and the time drawn
for the row and the fields of the body. -/
def createHomeSectionItem (item : HomeSectionItem) (d : Db) : Except Err Db :=
  match d.section? item.sectionId with
  | none => .error (notFound "Home section not found")
  | some row =>
      match validateItemAdd d row item.itemKind item.refId with
      | .error message => .error (itemRefused message)
      | .ok () =>
          if d.items.any fun other => decide (other.id = item.id) then .error .integrity
          else .ok { d with items := d.items ++ [item] }

def Db.placeItem (d : Db) (id : Uuid) (sortOrder : Int) : Db :=
  { d with
    items := modify HomeSectionItem.id id (fun item => { item with sortOrder := sortOrder }) d.items }

/-- `admin_update_home_section_item`. -/
def updateHomeSectionItem (id : Uuid) (sortOrder : Int) (d : Db) : Except Err Db :=
  if d.items.any fun item => decide (item.id = id) then .ok (d.placeItem id sortOrder)
  else .error (notFound "Home section item not found")

/-- `admin_reorder_home_section_items`: the full order of the rail, or nothing. -/
def reorderHomeSectionItems (sectionId : Uuid) (ids : List Uuid) (d : Db) : Except Err Db :=
  if ids = [] then .error (unprocessable "List should have at least 1 item after validation")
  else match d.section? sectionId with
  | none => .error (notFound "Home section not found")
  | some _ =>
      let present := (d.items.filter fun item => decide (item.sectionId = sectionId)).map (·.id)
      if ids.Nodup ∧ (∀ id ∈ ids, id ∈ present) ∧ ∀ id ∈ present, id ∈ ids then
        .ok (ids.zipIdx.foldl (fun d place => d.placeItem place.1 place.2) d)
      else .error (conflict "This rail changed. Refresh and try again.")

/-- `admin_delete_home_section_item`. -/
def deleteHomeSectionItem (id : Uuid) (d : Db) : Except Err Db :=
  if d.items.any fun item => decide (item.id = id) then
    .ok { d with items := remove HomeSectionItem.id id d.items }
  else .error (notFound "Home section item not found")

/-! ## All operations -/

inductive Operation where
  | createSection (id : Uuid) (now : Instant) (data : HomeSectionCreate)
  | updateSection (id : Uuid) (data : HomeSectionUpdate)
  | reorderSections (ids : List Uuid)
  | deleteSection (id : Uuid)
  | createItem (item : HomeSectionItem)
  | updateItem (id : Uuid) (sortOrder : Int)
  | reorderItems (sectionId : Uuid) (ids : List Uuid)
  | deleteItem (id : Uuid)
deriving DecidableEq, Repr

def Operation.handle (text : Lowering) : Operation → Db → Except Err Db
  | .createSection id now data => createHomeSection text id now data
  | .updateSection id data => updateHomeSection id data
  | .reorderSections ids => HomePage.reorderSections ids
  | .deleteSection id => deleteHomeSection id
  | .createItem item => createHomeSectionItem item
  | .updateItem id sortOrder => updateHomeSectionItem id sortOrder
  | .reorderItems sectionId ids => reorderHomeSectionItems sectionId ids
  | .deleteItem id => deleteHomeSectionItem id

/-- An operation that fails commits nothing. -/
def Operation.run (text : Lowering) (op : Operation) (d : Db) : Db :=
  match op.handle text d with
  | .ok d' => d'
  | .error _ => d

end MovieApi.HomePage
