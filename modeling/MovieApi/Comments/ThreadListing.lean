import MovieApi.Comments.Threads

/-!
# A page shows its threads and nothing else

The search finds the comments below the roots of a page, parents before their replies,
so the linked rows are trees that hold each comment found once.
-/

namespace MovieApi.Comments.Tables

open Catalog (PaginationParams)
open Publishing (Uuid)
open Sorting (sortOn)
open Sql
open Trees

variable {t : Tables} {scan : Scan Comment} {hidden done frontier : List Uuid}
  {page : List Comment} {query : Nat} {id : Uuid} {comment : Comment}

/-- A root of the page, or a visible reply to a comment that is shown. -/
inductive Shown (t : Tables) (hidden : List Uuid) (page : List Comment) : Comment → Prop
  | root {comment : Comment} : comment ∈ page → Shown t hidden page comment
  | reply {parent comment : Comment} : Shown t hidden page parent → comment ∈ t.comments →
      visible hidden comment = true → comment.parentId = some parent.id →
        Shown t hidden page comment

/-- Roots of a page: visible comments without a parent. -/
structure IsPage (t : Tables) (hidden : List Uuid) (page : List Comment) : Prop where
  mem : ∀ comment ∈ page, comment ∈ t.comments
  visible : ∀ comment ∈ page, visible hidden comment = true
  parentless : ∀ comment ∈ page, comment.parentId = none
  nodup : (page.map Comment.id).Nodup

theorem eq_of_id {comment' : Comment} (h : comment ∈ t.comments) (h' : comment' ∈ t.comments)
    (hid : comment.id = comment'.id) : comment = comment' :=
  List.inj_on_of_nodup_map t.uniqueComments h h' hid

theorem Shown.visible (hpage : t.IsPage hidden page) (h : t.Shown hidden page comment) :
    comment ∈ t.comments ∧ Tables.visible hidden comment = true := by
  cases h with
  | root hmem => exact ⟨hpage.mem comment hmem, hpage.visible comment hmem⟩
  | reply _ hmem hvisible _ => exact ⟨hmem, hvisible⟩

/-! ## The search -/

/-- What a search knows whose replies to `done` have all been read. -/
structure Search (t : Tables) (hidden : List Uuid) (page : List Comment)
    (done frontier : List Uuid) : Prop where
  nodup : (done ++ frontier).Nodup
  roots : ∀ comment ∈ page, comment.id ∈ done ++ frontier
  shown : ∀ id ∈ done ++ frontier, ∃ comment, t.Shown hidden page comment ∧ comment.id = id
  known : ∀ comment ∈ t.comments, comment.id ∈ done ++ frontier →
    comment ∈ page ∨ ∃ parentId ∈ done, comment.parentId = some parentId
  closed : ∀ comment ∈ t.comments, visible hidden comment = true → ∀ parentId ∈ done,
    comment.parentId = some parentId → comment.id ∈ done ++ frontier
  foreign : ∀ comment ∈ t.comments, comment.id ∈ done ++ frontier →
    comment.parentId ≠ some comment.id
  /-- parents come first -/
  ordered : (done ++ frontier).Pairwise fun i j =>
    ∀ comment ∈ t.comments, comment.id = i → comment.parentId ≠ some j

theorem mem_replies : comment ∈ t.replies hidden frontier ↔
    comment ∈ t.comments ∧ visible hidden comment = true ∧
      ∃ parentId ∈ frontier, comment.parentId = some parentId := by
  unfold replies
  rw [List.mem_filter, Bool.and_eq_true, Option.any_eq_true]
  constructor
  · rintro ⟨hmem, ⟨parentId, hparent, hfrontier⟩, hvisible⟩
    exact ⟨hmem, hvisible, parentId, by simpa using hfrontier, hparent⟩
  · rintro ⟨hmem, hvisible, parentId, hfrontier, hparent⟩
    exact ⟨hmem, ⟨parentId, hparent, by simpa using hfrontier⟩, hvisible⟩

theorem mem_nextFrontier {allIds : List Uuid} :
    id ∈ t.nextFrontier scan hidden query allIds frontier ↔
      (∃ comment ∈ t.replies hidden frontier, comment.id = id) ∧ id ∉ allIds := by
  unfold nextFrontier
  rw [List.mem_filter, List.mem_map, decide_eq_true_eq]
  simp only [scan.mem_rows]

theorem nodup_nextFrontier {allIds : List Uuid} :
    (t.nextFrontier scan hidden query allIds frontier).Nodup := by
  have hrows : ((t.replies hidden frontier).map Comment.id).Nodup :=
    t.uniqueComments.sublist (List.filter_sublist.map Comment.id)
  exact (((scan.perm query _).map Comment.id).nodup_iff.2 hrows).filter _

theorem Search.start (hpage : t.IsPage hidden page) :
    t.Search hidden page [] (page.map Comment.id) where
  nodup := hpage.nodup
  roots comment hmem := List.mem_map_of_mem hmem
  shown id hid := by
    obtain ⟨comment, hmem, rfl⟩ := List.mem_map.1 hid
    exact ⟨comment, .root hmem, rfl⟩
  known comment hmem hid := by
    obtain ⟨root, hroot, hsame⟩ := List.mem_map.1 hid
    exact .inl (eq_of_id (hpage.mem root hroot) hmem hsame ▸ hroot)
  closed comment _ _ parentId hparent _ := by cases hparent
  foreign comment hmem hid hup := by
    obtain ⟨root, hroot, hsame⟩ := List.mem_map.1 hid
    obtain rfl := eq_of_id (hpage.mem root hroot) hmem hsame
    rw [hpage.parentless root hroot] at hup
    cases hup
  ordered := by
    refine List.pairwise_of_forall_mem_list fun i hi j _ comment hmem hid => ?_
    obtain ⟨root, hroot, rfl⟩ := List.mem_map.1 hi
    obtain rfl := eq_of_id (hpage.mem root hroot) hmem hid.symm
    rw [hpage.parentless root hroot]
    exact fun h => by cases h

/-- One more level. -/
theorem Search.step (h : t.Search hidden page done frontier) (hpage : t.IsPage hidden page)
    (query : Nat) : t.Search hidden page (done ++ frontier)
      (t.nextFrontier scan hidden query (done ++ frontier) frontier) where
  nodup := by
    refine List.nodup_append.2 ⟨h.nodup, nodup_nextFrontier, fun i hi j hj heq => ?_⟩
    exact (mem_nextFrontier.1 hj).2 (heq ▸ hi)
  roots comment hmem := List.mem_append_left _ (h.roots comment hmem)
  shown id hid := by
    rcases List.mem_append.1 hid with hid | hid
    · exact h.shown id hid
    · obtain ⟨⟨comment, hreply, rfl⟩, -⟩ := mem_nextFrontier.1 hid
      obtain ⟨hmem, hvisible, parentId, hparent, hup⟩ := mem_replies.1 hreply
      obtain ⟨parent, hshown, rfl⟩ := h.shown parentId (List.mem_append_right _ hparent)
      exact ⟨comment, .reply hshown hmem hvisible hup, rfl⟩
  known comment hmem hid := by
    rcases List.mem_append.1 hid with hid | hid
    · rcases h.known comment hmem hid with hroot | ⟨parentId, hparent, hup⟩
      · exact .inl hroot
      · exact .inr ⟨parentId, List.mem_append_left _ hparent, hup⟩
    · obtain ⟨⟨reply, hreply, hsame⟩, -⟩ := mem_nextFrontier.1 hid
      obtain ⟨hreplyMem, -, parentId, hparent, hup⟩ := mem_replies.1 hreply
      obtain rfl := eq_of_id hreplyMem hmem hsame
      exact .inr ⟨parentId, List.mem_append_right _ hparent, hup⟩
  closed comment hmem hvisible parentId hparent hup := by
    rcases List.mem_append.1 hparent with hparent | hparent
    · exact List.mem_append_left _ (h.closed comment hmem hvisible parentId hparent hup)
    · by_cases hknown : comment.id ∈ done ++ frontier
      · exact List.mem_append_left _ hknown
      · refine List.mem_append_right _ (mem_nextFrontier.2 ⟨⟨comment, ?_, rfl⟩, hknown⟩)
        exact mem_replies.2 ⟨hmem, hvisible, parentId, hparent, hup⟩
  foreign comment hmem hid hup := by
    rcases List.mem_append.1 hid with hid | hid
    · exact h.foreign comment hmem hid hup
    · obtain ⟨⟨reply, hreply, hsame⟩, hnew⟩ := mem_nextFrontier.1 hid
      obtain ⟨hreplyMem, -, parentId, hparent, hupReply⟩ := mem_replies.1 hreply
      obtain rfl := eq_of_id hreplyMem hmem hsame
      obtain rfl : parentId = reply.id := Option.some.inj (hupReply.symm.trans hup)
      exact hnew (List.mem_append_right _ hparent)
  ordered := by
    refine List.pairwise_append.2 ⟨h.ordered, ?_, fun i hi j hj comment hmem hid hup => ?_⟩
    · refine List.pairwise_of_forall_mem_list fun i hi j hj comment hmem hid hup => ?_
      obtain ⟨⟨reply, hreply, rfl⟩, -⟩ := mem_nextFrontier.1 hi
      obtain ⟨hreplyMem, -, parentId, hparent, hupReply⟩ := mem_replies.1 hreply
      obtain rfl := eq_of_id hmem hreplyMem hid
      obtain rfl : parentId = j := Option.some.inj (hupReply.symm.trans hup)
      exact (mem_nextFrontier.1 hj).2 (List.mem_append_right _ hparent)
    · have hnew := (mem_nextFrontier.1 hj).2
      rcases h.known comment hmem (hid ▸ hi) with hroot | ⟨parentId, hparent, hupKnown⟩
      · rw [hpage.parentless comment hroot] at hup
        cases hup
      · obtain rfl : parentId = j := Option.some.inj (hupKnown.symm.trans hup)
        exact hnew (List.mem_append_left _ hparent)

theorem Search.expand (h : t.Search hidden page done frontier) (hpage : t.IsPage hidden page)
    (query : Nat) :
    t.Search hidden page (t.expand scan hidden query (done ++ frontier) frontier) [] := by
  generalize hall : done ++ frontier = allIds
  revert done
  fun_induction t.expand scan hidden query allIds frontier with
  | case1 =>
      intro done h hall
      subst hall
      simpa using h
  | case2 query allIds frontier hne found =>
      rename_i ih
      intro done h hall
      subst hall
      exact ih (h.step hpage query) rfl

/-- The search has found the comments that are shown. -/
theorem Search.mem_iff (h : t.Search hidden page done []) (hpage : t.IsPage hidden page)
    (hmem : comment ∈ t.comments) : comment.id ∈ done ↔ t.Shown hidden page comment := by
  constructor
  · intro hid
    obtain ⟨other, hshown, hsame⟩ := h.shown comment.id (by simpa using hid)
    exact eq_of_id (hshown.visible hpage).1 hmem hsame ▸ hshown
  · intro hshown
    clear hmem
    induction hshown with
    | root hroot => simpa using h.roots _ hroot
    | reply hparent hmem hvisible hup ih => simpa using h.closed _ hmem hvisible _ ih hup

/-! ## The dictionaries -/

variable {nodes : List CommentRead} {node : CommentRead}

theorem byId_append (nodes : List CommentRead) (node : CommentRead) :
    byId (nodes ++ [node]) = Function.update (byId nodes) node.id (some node) := by
  unfold byId
  rw [List.foldl_append]
  rfl

theorem mem_of_byId (h : byId nodes id = some node) : node ∈ nodes ∧ node.id = id := by
  induction nodes using List.reverseRecOn with
  | nil => cases h
  | append_singleton nodes last ih =>
      rw [byId_append, Function.update_apply] at h
      split at h
      · next hid =>
          obtain rfl := Option.some.inj h
          exact ⟨List.mem_append_right _ (List.mem_singleton_self last), hid.symm⟩
      · exact ⟨List.mem_append_left _ (ih h).1, (ih h).2⟩

theorem byId_of_mem (hnodup : (nodes.map CommentRead.id).Nodup) (h : node ∈ nodes) :
    byId nodes node.id = some node := by
  induction nodes using List.reverseRecOn with
  | nil => cases h
  | append_singleton nodes last ih =>
      rw [List.map_append, List.nodup_append] at hnodup
      rw [byId_append, Function.update_apply]
      rcases List.mem_append.1 h with h | h
      · have hne : node.id ≠ last.id :=
          hnodup.2.2 node.id (List.mem_map_of_mem h) last.id (by simp)
        rw [if_neg hne]
        exact ih hnodup.1 h
      · obtain rfl := List.mem_singleton.1 h
        rw [if_pos rfl]

theorem childIds_eq (nodes : List CommentRead) (parentId : Option Uuid) :
    childIds nodes parentId =
      (nodes.filter fun node => decide (node.parentId = parentId)).map CommentRead.id := by
  induction nodes using List.reverseRecOn with
  | nil => rfl
  | append_singleton nodes last ih =>
      unfold childIds at ih ⊢
      rw [List.foldl_append, List.foldl_cons, List.foldl_nil, Function.update_apply,
        List.filter_append, List.map_append, ← ih]
      by_cases hparent : last.parentId = parentId
      · subst hparent
        simp
      · simp [hparent, Ne.symm hparent]

theorem repliesOf_eq (hnodup : (nodes.map CommentRead.id).Nodup) (parent : CommentRead) :
    repliesOf nodes parent = sortOn CommentRead.createdAt
      (nodes.filter fun node => decide (node.parentId = some parent.id)) := by
  unfold repliesOf
  rw [childIds_eq, List.filterMap_map]
  congr 1
  refine (List.filterMap_congr fun node hnode => ?_).trans (List.filterMap_some ..)
  exact byId_of_mem hnodup (List.mem_filter.1 hnode).1

theorem map_id_filterMap_byId {ids : List Uuid} (h : ∀ id ∈ ids, ∃ node ∈ nodes, node.id = id)
    (hnodup : (nodes.map CommentRead.id).Nodup) :
    (ids.filterMap (byId nodes)).map CommentRead.id = ids := by
  induction ids with
  | nil => rfl
  | cons id ids ih =>
      obtain ⟨node, hnode, rfl⟩ := h id List.mem_cons_self
      rw [List.filterMap_cons_some (byId_of_mem hnodup hnode), List.map_cons,
        ih fun id hid => h id (List.mem_cons_of_mem _ hid)]

theorem mem_filterMap_byId {ids : List Uuid} (hnodup : (nodes.map CommentRead.id).Nodup) :
    node ∈ ids.filterMap (byId nodes) ↔ node ∈ nodes ∧ node.id ∈ ids := by
  rw [List.mem_filterMap]
  constructor
  · rintro ⟨id, hid, hnode⟩
    obtain ⟨hmem, rfl⟩ := mem_of_byId hnode
    exact ⟨hmem, hid⟩
  · rintro ⟨hmem, hid⟩
    exact ⟨node.id, hid, byId_of_mem hnodup hmem⟩

/-! ## The rows -/

/-- What a viewer reads of a comment. -/
def read (t : Tables) (currentUserId : Option Uuid) (comment : Comment) : CommentRead :=
  toCommentRead comment (lookup User.id comment.userId t.users)
    (t.loadVoteAndReportMaps (t.comments.map Comment.id) currentUserId)

@[simp] theorem read_id (t : Tables) (currentUserId : Option Uuid) (comment : Comment) :
    (t.read currentUserId comment).id = comment.id := rfl

@[simp] theorem read_parentId (t : Tables) (currentUserId : Option Uuid) (comment : Comment) :
    (t.read currentUserId comment).parentId = comment.parentId := rfl

/-- The maps say the same of a comment whatever others they were loaded with. -/
theorem read_eq {commentIds : List Uuid} {currentUserId : Option Uuid} {author : User}
    (hmem : comment ∈ t.comments) (hid : comment.id ∈ commentIds) (hauthor : author ∈ t.users)
    (huser : author.id = comment.userId) :
    toCommentRead comment (some author) (t.loadVoteAndReportMaps commentIds currentUserId) =
      t.read currentUserId comment := by
  have hlookup : lookup User.id comment.userId t.users = some author :=
    huser ▸ lookup_of_mem t.uniqueUsers hauthor
  have hall : comment.id ∈ t.comments.map Comment.id := List.mem_map_of_mem hmem
  have hvote (ids : List Uuid) (hids : comment.id ∈ ids) (userId : Uuid) (vote : CommentVote) :
      (vote.userId = userId ∧ vote.commentId ∈ ids ∧ vote.commentId = comment.id) ↔
        (vote.userId = userId ∧ vote.commentId = comment.id) :=
    ⟨fun h => ⟨h.1, h.2.2⟩, fun h => ⟨h.1, h.2 ▸ hids, h.2⟩⟩
  have hreport (ids : List Uuid) (hids : comment.id ∈ ids) (userId : Uuid) :
      comment.id ∈ (t.reports.filter fun report => decide
        (report.userId = userId ∧ report.commentId ∈ ids)).map CommentReport.commentId ↔
          ∃ report ∈ t.reports, report.userId = userId ∧ report.commentId = comment.id := by
    simp only [List.mem_map, List.mem_filter, decide_eq_true_eq]
    constructor
    · rintro ⟨report, ⟨hmem, hreporter, -⟩, hcomment⟩
      exact ⟨report, hmem, hreporter, hcomment⟩
    · rintro ⟨report, hmem, hreporter, hcomment⟩
      exact ⟨report, ⟨hmem, hreporter, hcomment ▸ hids⟩, hcomment⟩
  unfold read
  rw [hlookup]
  cases currentUserId with
  | none =>
      simp only [toCommentRead, loadVoteAndReportMaps, hid, hall, if_true, Option.bind_none,
        Option.elim_none]
      rfl
  | some userId =>
      simp only [toCommentRead, loadVoteAndReportMaps, hid, hall, if_true, Option.bind_some,
        Option.elim_some, hvote commentIds hid, hvote _ hall, hreport commentIds hid,
        hreport _ hall]

theorem withAuthors_eq {comments : List Comment} (h : ∀ comment ∈ comments, comment ∈ t.comments) :
    (t.withAuthors comments).map Prod.fst = comments ∧
      ∀ row ∈ t.withAuthors comments, row.2 ∈ t.users ∧ row.2.id = row.1.userId := by
  have hone (comment : Comment) (hmem : comment ∈ t.comments) :
      ∃ user ∈ t.users, user.id = comment.userId ∧
        (t.users.filter fun user => decide (user.id = comment.userId)) = [user] := by
    obtain ⟨user, huser, hid⟩ := t.authors comment hmem
    have hnodup : t.users.Nodup := .of_map _ t.uniqueUsers
    refine ⟨user, huser, hid, List.perm_singleton.1 ?_⟩
    refine (List.perm_ext_iff_of_nodup (hnodup.filter _) (List.nodup_singleton user)).2 ?_
    intro other
    rw [List.mem_filter, List.mem_singleton, decide_eq_true_eq]
    constructor
    · rintro ⟨hother, hsame⟩
      exact List.inj_on_of_nodup_map t.uniqueUsers hother huser (hsame.trans hid.symm)
    · rintro rfl
      exact ⟨huser, hid⟩
  induction comments with
  | nil => exact ⟨rfl, fun row hrow => by cases hrow⟩
  | cons comment comments ih =>
      obtain ⟨user, huser, hid, hfilter⟩ := hone comment (h comment List.mem_cons_self)
      obtain ⟨hfst, hrows⟩ := ih fun other hother => h other (List.mem_cons_of_mem comment hother)
      have hcons : t.withAuthors (comment :: comments) =
          (comment, user) :: t.withAuthors comments := by
        unfold withAuthors
        rw [List.flatMap_cons, hfilter]
        rfl
      rw [hcons]
      refine ⟨by rw [List.map_cons, hfst], fun row hrow => ?_⟩
      rcases List.mem_cons.1 hrow with rfl | hrow
      · exact ⟨huser, hid⟩
      · exact hrows row hrow

/-- The rows found are those of the comments shown, each with its author. -/
theorem fetchThreadRowsForRoots_eq (scan : Scan Comment) (hpage : t.IsPage hidden page) :
    ∃ ids, t.Search hidden page ids [] ∧
      t.fetchThreadRowsForRoots scan hidden (page.map Comment.id) =
        t.withAuthors (scan.rows 1 (t.comments.filter fun comment =>
          decide (comment.id ∈ ids) && visible hidden comment)) := by
  have hsearch : t.Search hidden page
      (t.expand scan hidden 2 (page.map Comment.id) (page.map Comment.id)) [] :=
    (Search.start hpage).expand hpage 2
  refine ⟨_, hsearch, ?_⟩
  unfold fetchThreadRowsForRoots
  split
  · next hempty =>
      have hnone : t.expand scan hidden 2 (page.map Comment.id) (page.map Comment.id) = [] := by
        rw [hempty, expand, if_pos rfl]
      have hrows : scan.rows 1 [] = [] := List.perm_nil.1 (scan.perm 1 [])
      simp [hnone, hrows, withAuthors]
  · rfl

/-! ## The trees -/

/-- The nodes are those of the comments shown. -/
structure Nodes (t : Tables) (hidden : List Uuid) (page : List Comment)
    (currentUserId : Option Uuid) (nodes : List CommentRead) : Prop where
  nodup : (nodes.map CommentRead.id).Nodup
  mem_iff : ∀ node, node ∈ nodes ↔
    ∃ comment, t.Shown hidden page comment ∧ node = t.read currentUserId comment

section

variable {currentUserId : Option Uuid} {ids : List Uuid}

theorem nodes_of_rows (currentUserId : Option Uuid) (hpage : t.IsPage hidden page) (hsearch : t.Search hidden page ids [])
    {rows : List (Comment × User)}
    (hrows : rows = t.withAuthors (scan.rows 1 (t.comments.filter fun comment =>
      decide (comment.id ∈ ids) && visible hidden comment))) :
    t.Nodes hidden page currentUserId (rows.map fun row => toCommentRead row.1 (some row.2)
      (t.loadVoteAndReportMaps (rows.map fun row => row.1.id) currentUserId)) := by
  generalize hcomments : scan.rows 1 (t.comments.filter fun comment =>
    decide (comment.id ∈ ids) && visible hidden comment) = comments at hrows
  have hperm : comments.Perm (t.comments.filter fun comment =>
      decide (comment.id ∈ ids) && visible hidden comment) := hcomments ▸ scan.perm 1 _
  have hmem (comment : Comment) (h : comment ∈ comments) : comment ∈ t.comments :=
    (List.mem_filter.1 (hperm.mem_iff.1 h)).1
  have hshown (comment : Comment) : comment ∈ comments ↔ t.Shown hidden page comment := by
    rw [hperm.mem_iff, List.mem_filter, Bool.and_eq_true, decide_eq_true_eq]
    constructor
    · rintro ⟨hrow, hid, -⟩
      exact (hsearch.mem_iff hpage hrow).1 hid
    · intro h
      obtain ⟨hrow, hvisible⟩ := h.visible hpage
      exact ⟨hrow, (hsearch.mem_iff hpage hrow).2 h, hvisible⟩
  obtain ⟨hfst, hauthors⟩ := withAuthors_eq hmem
  rw [← hrows] at hfst hauthors
  have hnodes : (rows.map fun row => toCommentRead row.1 (some row.2)
      (t.loadVoteAndReportMaps (rows.map fun row => row.1.id) currentUserId)) =
        comments.map (t.read currentUserId) := by
    rw [← hfst, List.map_map]
    refine List.map_congr_left fun row hrow => ?_
    have hrowMem : row.1 ∈ comments := hfst ▸ List.mem_map_of_mem hrow
    exact read_eq (hmem row.1 hrowMem) (List.mem_map_of_mem hrow) (hauthors row hrow).1
      (hauthors row hrow).2
  rw [hnodes]
  refine ⟨?_, fun node => ?_⟩
  · rw [List.map_map]
    exact (hperm.map Comment.id).nodup_iff.2
      (t.uniqueComments.sublist (List.filter_sublist.map Comment.id))
  · rw [List.mem_map]
    constructor
    · rintro ⟨comment, hcomment, rfl⟩
      exact ⟨comment, (hshown comment).1 hcomment, rfl⟩
    · rintro ⟨comment, hcomment, rfl⟩
      exact ⟨comment, (hshown comment).2 hcomment, rfl⟩

namespace Nodes

variable (h : t.Nodes hidden page currentUserId nodes) (hsearch : t.Search hidden page ids [])

include h hsearch

theorem map_id : (ids.filterMap (byId nodes)).map CommentRead.id = ids := by
  refine map_id_filterMap_byId (fun id hid => ?_) h.nodup
  obtain ⟨comment, hshown, rfl⟩ := hsearch.shown id (by simpa using hid)
  exact ⟨t.read currentUserId comment, (h.mem_iff _).2 ⟨comment, hshown, rfl⟩, rfl⟩

variable (hpage : t.IsPage hidden page)

include hpage

theorem perm : (ids.filterMap (byId nodes)).Perm nodes := by
  have hids : ((ids.filterMap (byId nodes)).map CommentRead.id).Nodup := by
    rw [h.map_id hsearch]
    simpa using hsearch.nodup
  refine (List.perm_ext_iff_of_nodup (.of_map _ hids) (.of_map _ h.nodup)).2 fun node => ?_
  rw [mem_filterMap_byId h.nodup]
  refine ⟨fun hnode => hnode.1, fun hnode => ⟨hnode, ?_⟩⟩
  obtain ⟨comment, hshown, rfl⟩ := (h.mem_iff node).1 hnode
  exact (hsearch.mem_iff hpage (hshown.visible hpage).1).2 hshown

/-- In the order of the search every parent comes before its replies. -/
theorem downward : Downward (repliesOf nodes) CommentRead.parentId CommentRead.id
    (ids.filterMap (byId nodes)) := by
  have hcomment (node : CommentRead) (hnode : node ∈ ids.filterMap (byId nodes)) :
      ∃ comment ∈ t.comments, comment.id ∈ ids ∧ node = t.read currentUserId comment := by
    obtain ⟨hmem, hid⟩ := (mem_filterMap_byId h.nodup).1 hnode
    obtain ⟨comment, hshown, rfl⟩ := (h.mem_iff node).1 hmem
    exact ⟨comment, (hshown.visible hpage).1, hid, rfl⟩
  refine downward_of_pairwise ?_ ?_ ?_
  · have hordered : ((ids.filterMap (byId nodes)).map CommentRead.id).Pairwise fun i j =>
        ∀ comment ∈ t.comments, comment.id = i → comment.parentId ≠ some j := by
      rw [h.map_id hsearch]
      simpa using hsearch.ordered
    rw [List.pairwise_map] at hordered
    refine hordered.imp_of_mem fun {node reply} hnode _ hne => ?_
    obtain ⟨comment, hmem, -, rfl⟩ := hcomment node hnode
    exact hne comment hmem rfl
  · intro node hnode
    obtain ⟨comment, hmem, hid, rfl⟩ := hcomment node hnode
    exact hsearch.foreign comment hmem (by simpa using hid)
  · intro node _
    rw [repliesOf_eq h.nodup]
    exact (Sorting.sortOn_stable _ _).perm.trans ((h.perm hsearch hpage).symm.filter _)

theorem heads_perm : (heads CommentRead.parentId CommentRead.id (ids.filterMap (byId nodes))).Perm
    ((page.map Comment.id).filterMap (byId nodes)) := by
  have hids : ((ids.filterMap (byId nodes)).map CommentRead.id).Nodup := by
    rw [h.map_id hsearch]
    simpa using hsearch.nodup
  have hroots : (((page.map Comment.id).filterMap (byId nodes)).map CommentRead.id).Nodup := by
    rw [map_id_filterMap_byId _ h.nodup]
    · exact hpage.nodup
    · intro id hid
      obtain ⟨root, hroot, rfl⟩ := List.mem_map.1 hid
      exact ⟨t.read currentUserId root, (h.mem_iff _).2 ⟨root, .root hroot, rfl⟩, rfl⟩
  refine (List.perm_ext_iff_of_nodup ((List.Nodup.of_map _ hids).filter _)
    (.of_map _ hroots)).2 fun node => ?_
  rw [List.mem_filter, decide_eq_true_eq, mem_filterMap_byId h.nodup, mem_filterMap_byId h.nodup]
  constructor
  · rintro ⟨⟨hmem, hid⟩, hhead⟩
    refine ⟨hmem, ?_⟩
    obtain ⟨comment, hshown, rfl⟩ := (h.mem_iff node).1 hmem
    rcases hsearch.known comment (hshown.visible hpage).1 (by simpa using hid) with
      hroot | ⟨parentId, hparent, hup⟩
    · exact List.mem_map_of_mem hroot
    · rw [← h.map_id hsearch] at hparent
      obtain ⟨parent, hparentMem, rfl⟩ := List.mem_map.1 hparent
      exact absurd hup (hhead parent hparentMem)
  · rintro ⟨hmem, hroot⟩
    obtain ⟨comment, hshown, rfl⟩ := (h.mem_iff node).1 hmem
    obtain ⟨root, hrootMem, hsame⟩ := List.mem_map.1 hroot
    obtain rfl := eq_of_id (hpage.mem root hrootMem) (hshown.visible hpage).1 hsame
    refine ⟨⟨hmem, by simpa using hsearch.roots root hrootMem⟩, fun node _ hup => ?_⟩
    have hnone : (t.read currentUserId root).parentId = none := hpage.parentless root hrootMem
    rw [hnone] at hup
    cases hup

end Nodes

end

/-! ## The listing -/

theorem pairwise_orderBy_createdAt (comments : List Comment) :
    (orderBy (fun a b => b.createdAt ≤ a.createdAt) comments).Pairwise fun a b =>
      b.createdAt ≤ a.createdAt := by
  have : IsTrans Comment fun a b => b.createdAt ≤ a.createdAt := ⟨fun _ _ _ h h' => h'.trans h⟩
  have : Std.Total fun a b : Comment => b.createdAt ≤ a.createdAt :=
    ⟨fun a b => le_total b.createdAt a.createdAt⟩
  exact List.pairwise_insertionSort _ comments

theorem isPage_slice (t : Tables) (scan : Scan Comment) (hidden : List Uuid) (contentId : Uuid)
    (params : PaginationParams) :
    t.IsPage hidden (params.slice (orderBy (fun a b => b.createdAt ≤ a.createdAt)
      (scan.rows 0 (t.roots hidden contentId)))) := by
  have hsub := params.slice_sublist (orderBy (fun a b => b.createdAt ≤ a.createdAt)
    (scan.rows 0 (t.roots hidden contentId)))
  have hmem (comment : Comment) (h : comment ∈ params.slice
      (orderBy (fun a b => b.createdAt ≤ a.createdAt) (scan.rows 0 (t.roots hidden contentId)))) :
      comment ∈ t.comments ∧ comment.parentId = none ∧ visible hidden comment = true := by
    have hroot := scan.mem_rows.1 ((mem_orderBy _).1 (hsub.mem h))
    unfold roots at hroot
    rw [List.mem_filter, Bool.and_eq_true, decide_eq_true_eq] at hroot
    exact ⟨hroot.1, hroot.2.1.2, hroot.2.2⟩
  refine ⟨fun comment h => (hmem comment h).1, fun comment h => (hmem comment h).2.2,
    fun comment h => (hmem comment h).2.1, ?_⟩
  have hperm := (orderBy_perm (fun a b : Comment => b.createdAt ≤ a.createdAt)
    (scan.rows 0 (t.roots hidden contentId))).trans (scan.perm 0 _)
  exact ((hperm.map Comment.id).nodup_iff.2
    (t.uniqueComments.sublist (List.filter_sublist.map Comment.id))).sublist (hsub.map Comment.id)

end MovieApi.Comments.Tables
