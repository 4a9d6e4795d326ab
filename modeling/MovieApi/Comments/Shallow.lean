import MovieApi.Comments.Replies

/-!
# Comment trees stay shallow

A comment keeps its parent for life, and a deletion takes the replies with it, so what a
call has climbed stays true of the rows that are left while others write.
-/

namespace MovieApi.Comments

open Publishing (Uuid Instant Err Content)
open Sql

/-! ## Well formed trees -/

namespace Db

/-- From a comment so many links at most lead to a root. -/
def RootWithin (d : Db) (n : Nat) (id : Uuid) : Prop :=
  ∃ m ≤ n, ∃ root ∈ d.comments, climb d.parentOf m id = some root.id ∧ root.parentId = none

/-- No row with the id is marked as deleted. -/
def Undeleted (d : Db) (id : Uuid) : Prop :=
  ∀ comment ∈ d.comments, comment.id = id → comment.deletedAt = none

structure Linked (d : Db) : Prop where
  unique : Unique Comment.id d.comments
  parents : ∀ comment ∈ d.comments, ∀ parentId, comment.parentId = some parentId →
    ∃ parent ∈ d.comments, parent.id = parentId ∧ parent.contentId = comment.contentId

structure Sound (d : Db) (nextId : Uuid) : Prop extends Linked d where
  drawn : ∀ comment ∈ d.comments, comment.id < nextId
  shallow : ∀ comment ∈ d.comments, d.RootWithin maxReplyDepth comment.id

end Db

variable {d d' : Db} {nextId nextId' id parentId : Uuid} {comment : Comment} {depth : Nat}

theorem mem_of_comment? (h : d.comment? id = some comment) :
    comment ∈ d.comments ∧ comment.id = id :=
  ⟨mem_of_lookup h, key_of_lookup h⟩

namespace Db.Linked

theorem eq_of_id (hd : d.Linked) {comment' : Comment} (h : comment ∈ d.comments)
    (h' : comment' ∈ d.comments) (hid : comment.id = comment'.id) : comment = comment' :=
  List.inj_on_of_nodup_map hd.unique h h' hid

theorem parentOf (hd : d.Linked) (h : comment ∈ d.comments) :
    d.parentOf comment.id = comment.parentId := by
  unfold Db.parentOf Db.comment?
  rw [lookup_of_mem hd.unique h, Option.bind_some]

/-- The parents of rows are rows. -/
theorem closed (hd : d.Linked) (i j : Uuid) (hi : ∃ comment ∈ d.comments, comment.id = i)
    (hup : d.parentOf i = some j) : ∃ comment ∈ d.comments, comment.id = j := by
  obtain ⟨comment, hmem, rfl⟩ := hi
  rw [hd.parentOf hmem] at hup
  obtain ⟨parent, hparent, hid, -⟩ := hd.parents comment hmem j hup
  exact ⟨parent, hparent, hid⟩

end Db.Linked

/-! ## What other writers leave of a comment -/

structure Comment.Became (comment comment' : Comment) : Prop where
  id : comment'.id = comment.id
  contentId : comment'.contentId = comment.contentId
  parentId : comment'.parentId = comment.parentId
  deletedAt : comment.deletedAt.isSome = true → comment'.deletedAt.isSome = true

/-- The rows of `d'` that are no newer than `nextId` come from rows of `d`. -/
def Db.Later (nextId : Uuid) (d d' : Db) : Prop :=
  ∀ comment' ∈ d'.comments, comment'.id < nextId →
    ∃ comment ∈ d.comments, comment.Became comment'

theorem Comment.Became.refl (comment : Comment) : comment.Became comment :=
  ⟨rfl, rfl, rfl, fun h => h⟩

theorem Comment.Became.trans {comment' comment'' : Comment} (h : comment.Became comment')
    (h' : comment'.Became comment'') : comment.Became comment'' where
  id := h'.id.trans h.id
  contentId := h'.contentId.trans h.contentId
  parentId := h'.parentId.trans h.parentId
  deletedAt hdeleted := h'.deletedAt (h.deletedAt hdeleted)

namespace Db.Later

theorem of_subset (h : ∀ comment ∈ d'.comments, comment.id < nextId → comment ∈ d.comments) :
    d.Later nextId d' :=
  fun comment hmem hlt => ⟨comment, h comment hmem hlt, .refl comment⟩

theorem trans {d'' : Db} (h : d.Later nextId d') (h' : d'.Later nextId' d'')
    (hle : nextId ≤ nextId') : d.Later nextId d'' := by
  intro comment'' hmem hlt
  obtain ⟨comment', hmem', hbecame'⟩ := h' comment'' hmem (Nat.lt_of_lt_of_le hlt hle)
  obtain ⟨comment, hmem, hbecame⟩ := h comment' hmem' (hbecame'.id ▸ hlt)
  exact ⟨comment, hmem, hbecame.trans hbecame'⟩

/-- A row that is left has the way up it had. -/
theorem climb_eq (h : d.Later nextId d') (hd : d.Linked)
    (hdrawn : ∀ comment ∈ d.comments, comment.id < nextId) (hd' : d'.Linked)
    (hmem : ∃ comment ∈ d'.comments, comment.id = id) (hlt : id < nextId) (n : Nat) :
    climb d'.parentOf n id = climb d.parentOf n id := by
  have hsame (i : Uuid) (hi : (∃ comment ∈ d'.comments, comment.id = i) ∧ i < nextId) :
      d'.parentOf i = d.parentOf i := by
    obtain ⟨⟨comment', hmem', rfl⟩, hlt⟩ := hi
    obtain ⟨comment, hmem, hbecame⟩ := h comment' hmem' hlt
    rw [hd'.parentOf hmem', hbecame.parentId, hbecame.id, hd.parentOf hmem]
  refine climb_congr (fun i => (∃ comment ∈ d'.comments, comment.id = i) ∧ i < nextId)
    (fun i j hi hup => ?_) hsame ⟨hmem, hlt⟩ n
  have hup' : d'.parentOf i = some j := (hsame i hi).trans hup
  obtain ⟨⟨comment', hmem', rfl⟩, hlt⟩ := hi
  obtain ⟨comment, hcomment, hbecame⟩ := h comment' hmem' hlt
  obtain ⟨parent, hparent, rfl⟩ := hd.closed _ j ⟨comment, hcomment, hbecame.id.symm⟩ hup
  exact ⟨hd'.closed _ _ ⟨comment', hmem', rfl⟩ hup', hdrawn parent hparent⟩

theorem rootWithin (h : d.Later nextId d') (hd : d.Linked)
    (hdrawn : ∀ comment ∈ d.comments, comment.id < nextId) (hd' : d'.Linked)
    (hmem : ∃ comment ∈ d'.comments, comment.id = id) (hlt : id < nextId) {n : Nat}
    (hroot : d.RootWithin n id) : d'.RootWithin n id := by
  obtain ⟨m, hm, root, hroot, hclimb, hnone⟩ := hroot
  have hclimb' : climb d'.parentOf m id = some root.id :=
    (h.climb_eq hd hdrawn hd' hmem hlt m).trans hclimb
  obtain ⟨root', hroot', hid⟩ := climb_mem hd'.closed hmem hclimb'
  obtain ⟨comment, hcomment, hbecame⟩ := h root' hroot' (hid ▸ hdrawn root hroot)
  have hsame : comment = root := hd.eq_of_id hcomment hroot (hbecame.id.symm.trans hid)
  exact ⟨m, hm, root', hroot', hid ▸ hclimb', by rw [hbecame.parentId, hsame, hnone]⟩

end Db.Later

/-- Changes that leave the links alone, and deletions that leave no reply behind. -/
theorem Db.Sound.later (hd : d.Sound nextId) (hd' : d'.Linked)
    (h : ∀ comment' ∈ d'.comments, ∃ comment ∈ d.comments, comment.Became comment') :
    d'.Sound nextId := by
  have hlater : d.Later nextId d' := fun comment' hmem _ => h comment' hmem
  have hdrawn : ∀ comment' ∈ d'.comments, comment'.id < nextId := by
    intro comment' hmem
    obtain ⟨comment, hcomment, hbecame⟩ := h comment' hmem
    exact hbecame.id ▸ hd.drawn comment hcomment
  refine { hd' with drawn := hdrawn, shallow := fun comment' hmem => ?_ }
  obtain ⟨comment, hcomment, hbecame⟩ := h comment' hmem
  exact hlater.rootWithin hd.toLinked hd.drawn hd' ⟨comment', hmem, rfl⟩ (hdrawn comment' hmem)
    (hbecame.id ▸ hd.shallow comment hcomment)

/-! ## Updates and deletions -/

theorem Comment.became_softDelete (id : Uuid) (now updatedAt : Instant) (comment : Comment) :
    comment.Became (comment.softDelete id now updatedAt) := by
  unfold Comment.softDelete
  split
  · exact ⟨rfl, rfl, rfl, fun _ => rfl⟩
  · exact .refl comment

theorem Comment.became_updateBody (id : Uuid) (body : String) (now : Instant)
    (comment : Comment) : comment.Became (comment.updateBody id body now) := by
  unfold Comment.updateBody
  split
  · exact ⟨rfl, rfl, rfl, fun h => h⟩
  · exact .refl comment

theorem Comment.became_deleteAccount (userId : Uuid) (now updatedAt : Instant)
    (comment : Comment) : comment.Became (comment.deleteAccount userId now updatedAt) := by
  unfold Comment.deleteAccount
  split
  · exact ⟨rfl, rfl, rfl, fun _ => by simp⟩
  · exact .refl comment

theorem Db.Linked.map (hd : d.Linked) {f : Comment → Comment}
    (hf : ∀ comment : Comment, comment.Became (f comment)) :
    ({ d with comments := d.comments.map f } : Db).Linked where
  unique := by
    have hids : (d.comments.map f).map Comment.id = d.comments.map Comment.id := by
      rw [List.map_map]
      exact List.map_congr_left fun comment _ => (hf comment).id
    show ((d.comments.map f).map Comment.id).Nodup
    rw [hids]
    exact hd.unique
  parents comment' hmem' parentId hparentId := by
    obtain ⟨comment, hmem, rfl⟩ := List.mem_map.1 hmem'
    rw [(hf comment).parentId] at hparentId
    obtain ⟨parent, hparent, hid, hcontent⟩ := hd.parents comment hmem parentId hparentId
    refine ⟨f parent, List.mem_map.2 ⟨parent, hparent, rfl⟩, ?_, ?_⟩
    · rw [(hf parent).id, hid]
    · rw [(hf parent).contentId, hcontent, (hf comment).contentId]

theorem cascade_sublist (n : Nat) (rows : List Comment) : (cascade n rows).Sublist rows := by
  induction n generalizing rows with
  | zero => exact .refl rows
  | succ n ih => exact (ih _).trans List.filter_sublist

/-- Enough rounds leave no reply without its parent. -/
theorem cascade_attached (n : Nat) (rows : List Comment) (hn : rows.length ≤ n) :
    ∀ comment ∈ cascade n rows, comment.attached (cascade n rows) = true := by
  induction n generalizing rows with
  | zero =>
      obtain rfl := List.length_eq_zero_iff.1 (Nat.le_zero.1 hn)
      intro comment hmem
      cases hmem
  | succ n ih =>
      by_cases hall : rows.filter (Comment.attached rows) = rows
      · have hrows (m : Nat) : cascade m rows = rows := by
          induction m with
          | zero => rfl
          | succ m ih => rw [cascade, hall, ih]
        rw [hrows]
        exact List.filter_eq_self.1 hall
      · have hlt : (rows.filter (Comment.attached rows)).length < rows.length := by
          refine Nat.lt_of_le_of_ne (List.length_filter_le _ _) fun heq => hall ?_
          exact List.filter_sublist.eq_of_length heq
        exact ih _ (by omega)

theorem deleteComments_sublist (ids : List Uuid) (rows : List Comment) :
    (deleteComments ids rows).Sublist rows :=
  (cascade_sublist _ _).trans List.filter_sublist

theorem Db.Linked.deleteComments (hd : d.Linked) (ids : List Uuid) :
    ({ d with comments := deleteComments ids d.comments } : Db).Linked where
  unique := hd.unique.sublist ((deleteComments_sublist ids d.comments).map Comment.id)
  parents comment hmem parentId hparentId := by
    have hsub := deleteComments_sublist ids d.comments
    have hattached := cascade_attached d.comments.length
      (d.comments.filter fun comment => decide (comment.id ∉ ids)) (List.length_filter_le _ _)
      comment hmem
    unfold Comment.attached at hattached
    rw [hparentId, Option.all_some, Option.isSome_iff_exists] at hattached
    obtain ⟨parent, hlookup⟩ := hattached
    have hparent : parent ∈ Comments.deleteComments ids d.comments := mem_of_lookup hlookup
    obtain ⟨parent', hparent', hid, hcontent⟩ :=
      hd.parents comment (hsub.mem hmem) parentId hparentId
    have hsame : parent = parent' :=
      hd.eq_of_id (hsub.mem hparent) hparent' ((key_of_lookup hlookup).trans hid.symm)
    exact ⟨parent, hparent, key_of_lookup hlookup, hsame ▸ hcontent⟩

/-! ## What a call has climbed -/

/-- While the parent is there: it is about the same movie, and so many links above it is
`top`, with nothing in between that was deleted as the call came in. -/
def Call.Climbed (call : Call) (d : Db) (parentId : Uuid) (depth : Nat) (top : Option Uuid) :
    Prop :=
  ∀ parent ∈ d.comments, parent.id = parentId →
    parent.contentId = call.data.contentId ∧ climb d.parentOf depth parentId = top ∧
      ∀ m < depth, ∀ ancestor, climb d.parentOf m parentId = some ancestor →
        call.began.Undeleted ancestor

/-- Neither the comment nor anything above it is deleted. -/
def Db.NoneDeletedAbove (d : Db) (id : Uuid) : Prop :=
  ∀ n ancestor, climb d.parentOf n id = some ancestor → d.Undeleted ancestor

def Call.PhaseSound (call : Call) (d : Db) (nextId : Uuid) : Phase → Prop
  | .begun => True
  | .parentToRead parentId => call.data.parentId = some parentId
  | .climbing next depth => ∃ parentId < nextId, call.data.parentId = some parentId ∧
      call.Climbed d parentId depth (some next)
  | .validated => ∀ parentId, call.data.parentId = some parentId →
      parentId < nextId ∧ ∃ depth ≤ maxReplyDepth, call.Climbed d parentId depth none
  | .done (.ok _) => ∀ parentId, call.data.parentId = some parentId →
      call.began.NoneDeletedAbove parentId
  | .done (.error _) => True

structure Call.Sound (call : Call) (d : Db) (nextId : Uuid) : Prop where
  began : ∃ nextId' ≤ nextId, call.began.Sound nextId' ∧ call.began.Later nextId' d
  phase : call.PhaseSound d nextId call.phase

variable {call : Call} {top : Option Uuid}

theorem Call.Climbed.later (h : call.Climbed d parentId depth top) (hd : d.Sound nextId)
    (hd' : d'.Linked) (hlater : d.Later nextId d') (hlt : parentId < nextId) :
    call.Climbed d' parentId depth top := by
  intro parent' hparent' hid
  have hclimb (n : Nat) : climb d'.parentOf n parentId = climb d.parentOf n parentId :=
    hlater.climb_eq hd.toLinked hd.drawn hd' ⟨parent', hparent', hid⟩ hlt n
  obtain ⟨parent, hparent, hbecame⟩ := hlater parent' hparent' (hid ▸ hlt)
  obtain ⟨hcontent, htop, hbelow⟩ := h parent hparent (hbecame.id.symm.trans hid)
  refine ⟨hbecame.contentId.trans hcontent, (hclimb depth).trans htop, fun m hm ancestor => ?_⟩
  rw [hclimb m]
  exact hbelow m hm ancestor

/-- What others commit takes nothing from a call. -/
theorem Call.Sound.later (h : call.Sound d nextId) (hd : d.Sound nextId) (hd' : d'.Linked)
    (hlater : d.Later nextId d') (hle : nextId ≤ nextId') : call.Sound d' nextId' := by
  obtain ⟨began, hbegan, hsound, hsince⟩ := h.began
  refine ⟨⟨began, hbegan.trans hle, hsound, hsince.trans hlater hbegan⟩, ?_⟩
  have hphase := h.phase
  cases hcase : call.phase with
  | begun => trivial
  | parentToRead parentId =>
      rw [hcase] at hphase
      exact hphase
  | climbing next depth =>
      rw [hcase] at hphase
      obtain ⟨parentId, hlt, hdata, hclimbed⟩ := hphase
      exact ⟨parentId, hlt.trans_le hle, hdata, hclimbed.later hd hd' hlater hlt⟩
  | validated =>
      rw [hcase] at hphase
      intro parentId hdata
      obtain ⟨hlt, depth, hdepth, hclimbed⟩ := hphase parentId hdata
      exact ⟨hlt.trans_le hle, depth, hdepth, hclimbed.later hd hd' hlater hlt⟩
  | done result =>
      rw [hcase] at hphase
      cases result with
      | ok comment => exact hphase
      | error err => trivial

/-! ## One statement of a call -/

/-- What is not deleted now was not deleted before. -/
theorem Call.Sound.undeleted (h : call.Sound d nextId) (hmem : comment ∈ d.comments)
    (hnone : comment.deletedAt = none) : call.began.Undeleted comment.id := by
  intro earlier hearlier hid
  obtain ⟨began, -, hsound, hsince⟩ := h.began
  obtain ⟨comment', hcomment', hbecame⟩ :=
    hsince comment hmem (hid ▸ hsound.drawn earlier hearlier)
  obtain rfl : comment' = earlier :=
    hsound.eq_of_id hcomment' hearlier (hbecame.id.symm.trans hid.symm)
  cases hdeleted : comment'.deletedAt with
  | none => rfl
  | some now =>
      have hsome := hbecame.deletedAt (by simp [hdeleted])
      simp [hnone] at hsome

theorem Call.Climbed.climbFrom (h : call.Climbed d parentId depth (some comment.id))
    (hd : d.Linked) (hmem : comment ∈ d.comments) (hundeleted : call.began.Undeleted comment.id)
    (hlt : parentId < nextId) (hdata : call.data.parentId = some parentId) :
    call.PhaseSound d nextId (climbFrom comment depth) := by
  have hnext : call.Climbed d parentId (depth + 1) comment.parentId := by
    intro parent hparent hid
    obtain ⟨hcontent, htop, hbelow⟩ := h parent hparent hid
    refine ⟨hcontent, ?_, fun m hm ancestor hancestor => ?_⟩
    · rw [climb_succ, htop, Option.bind_some, hd.parentOf hmem]
    · rcases Nat.lt_succ_iff_lt_or_eq.1 hm with hm | rfl
      · exact hbelow m hm ancestor hancestor
      · exact Option.some.inj (htop.symm.trans hancestor) ▸ hundeleted
  unfold Comments.climbFrom
  cases hup : comment.parentId with
  | none =>
      unfold checkDepth
      dsimp only
      split
      · trivial
      · next hdepth =>
          intro other hother
          obtain rfl : parentId = other := Option.some.inj (hdata.symm.trans hother)
          exact ⟨hlt, depth + 1, by omega, hup ▸ hnext⟩
  | some next =>
      dsimp only
      split
      · next hdepth =>
          unfold checkDepth
          rw [if_pos (by omega)]
          trivial
      · exact ⟨parentId, hlt, hdata, hup ▸ hnext⟩

theorem getCommentOr404_eq_ok : getCommentOr404 d id = .ok comment ↔
    d.comment? id = some comment ∧ comment.deletedAt = none := by
  unfold getCommentOr404
  cases d.comment? id with
  | none => simp
  | some found =>
      cases hdeleted : found.deletedAt with
      | none =>
          simp only [hdeleted, Option.isSome_none, Bool.false_eq_true, if_false, Except.ok.injEq,
            Option.some.injEq]
          exact ⟨fun h => ⟨h, h ▸ hdeleted⟩, fun h => h.1⟩
      | some now =>
          simp only [hdeleted, Option.isSome_some, if_true, reduceCtorEq, Option.some.injEq,
            false_iff, not_and]
          rintro rfl
          simp [hdeleted]

/-- Every `SELECT` of the call keeps what it knows true. -/
theorem Call.Sound.read (h : call.Sound d nextId) (hd : d.Sound nextId) :
    call.PhaseSound d nextId (call.data.read d call.phase) := by
  have hphase := h.phase
  cases hcase : call.phase with
  | begun =>
      unfold CommentCreate.read
      dsimp only
      cases ensureCommentableMovie d call.data.contentId with
      | error err => trivial
      | ok content =>
          dsimp only
          cases hdata : call.data.parentId with
          | none =>
              intro parentId hparentId
              simp [hdata] at hparentId
          | some parentId => exact hdata
  | parentToRead parentId =>
      rw [hcase] at hphase
      unfold CommentCreate.read
      dsimp only
      cases hget : getCommentOr404 d parentId with
      | error err => trivial
      | ok parent =>
          obtain ⟨hfound, hnone⟩ := getCommentOr404_eq_ok.1 hget
          obtain ⟨hmem, rfl⟩ := mem_of_comment? hfound
          dsimp only
          split
          · trivial
          · next hcontent =>
              have hstart : call.Climbed d parent.id 0 (some parent.id) := by
                intro other hother hid
                obtain rfl : other = parent := hd.eq_of_id hother hmem hid
                exact ⟨not_not.1 hcontent, rfl, fun m hm => absurd hm (Nat.not_lt_zero m)⟩
              exact hstart.climbFrom hd.toLinked hmem (h.undeleted hmem hnone)
                (hd.drawn parent hmem) hphase
  | climbing next depth =>
      rw [hcase] at hphase
      obtain ⟨parentId, hlt, hdata, hclimbed⟩ := hphase
      unfold CommentCreate.read
      dsimp only
      cases hfound : d.comment? next with
      | none => trivial
      | some current =>
          obtain ⟨hmem, rfl⟩ := mem_of_comment? hfound
          cases hdeleted : current.deletedAt with
          | some now =>
              simp only [hdeleted, Option.isSome_some, if_true]
              trivial
          | none =>
              simp only [hdeleted, Option.isSome_none, Bool.false_eq_true, if_false]
              exact hclimbed.climbFrom hd.toLinked hmem (h.undeleted hmem hdeleted) hlt hdata
  | validated =>
      rw [hcase] at hphase
      exact hphase
  | done result =>
      rw [hcase] at hphase
      exact hphase

/-! ## The insert -/

theorem Call.Climbed.rootWithin (h : call.Climbed d parentId depth none) (hd : d.Linked)
    (hmem : ∃ comment ∈ d.comments, comment.id = parentId) :
    ∃ m < depth, d.RootWithin m parentId := by
  obtain ⟨parent, hparent, hid⟩ := hmem
  obtain ⟨m, hm, root, hclimb, hnone⟩ := exists_root_of_climb_eq_none (h parent hparent hid).2.1
  obtain ⟨row, hrow, rfl⟩ := climb_mem hd.closed ⟨parent, hparent, hid⟩ hclimb
  rw [hd.parentOf hrow] at hnone
  exact ⟨m, hm, m, le_refl m, row, hrow, hclimb, hnone⟩

/-- The call came in while nothing above the parent was deleted. -/
theorem Call.Sound.noneDeletedAbove (h : call.Sound d nextId) (hd : d.Linked)
    (hclimbed : call.Climbed d parentId depth none)
    (hmem : ∃ comment ∈ d.comments, comment.id = parentId) :
    call.began.NoneDeletedAbove parentId := by
  intro n ancestor hancestor
  obtain ⟨began, -, hsound, hsince⟩ := h.began
  by_cases hfound : ∃ comment ∈ call.began.comments, comment.id = parentId
  · have hlt : parentId < began := by
      obtain ⟨comment, hcomment, rfl⟩ := hfound
      exact hsound.drawn comment hcomment
    rw [← hsince.climb_eq hsound.toLinked hsound.drawn hd hmem hlt] at hancestor
    obtain ⟨parent, hparent, hid⟩ := hmem
    obtain ⟨-, htop, hbelow⟩ := hclimbed parent hparent hid
    by_cases hn : n < depth
    · exact hbelow n hn ancestor hancestor
    · rw [climb_eq_none_of_le htop (not_lt.1 hn)] at hancestor
      cases hancestor
  · have hno : call.began.parentOf parentId = none := by
      unfold Db.parentOf Db.comment?
      rw [lookup_eq_none.2 fun comment hcomment hid => hfound ⟨comment, hcomment, hid⟩]
      rfl
    cases n with
    | zero =>
        obtain rfl : parentId = ancestor := Option.some.inj hancestor
        exact fun comment hcomment hid => absurd ⟨comment, hcomment, hid⟩ hfound
    | succ n =>
        have hone : climb call.began.parentOf 1 parentId = none := hno
        rw [climb_eq_none_of_le hone (Nat.succ_le_succ (Nat.zero_le n))] at hancestor
        cases hancestor

/-- A comment under a parent that is less deep than the greatest depth. -/
theorem Db.Sound.append (hd : d.Sound nextId) (hid : comment.id = nextId)
    (hparent : ∀ parentId, comment.parentId = some parentId →
      ∃ parent ∈ d.comments, parent.id = parentId ∧ parent.contentId = comment.contentId ∧
        ∃ m < maxReplyDepth, d.RootWithin m parentId) :
    ({ d with comments := d.comments ++ [comment] } : Db).Sound (nextId + 1) := by
  have hlinked : ({ d with comments := d.comments ++ [comment] } : Db).Linked := by
    refine ⟨hd.unique.append ?_, fun row hrow parentId hup => ?_⟩
    · exact lookup_eq_none.2 fun row hrow => hid ▸ (hd.drawn row hrow).ne
    · rcases List.mem_append.1 hrow with hrow | hrow
      · obtain ⟨parent, hmem, hfound⟩ := hd.parents row hrow parentId hup
        exact ⟨parent, List.mem_append_left _ hmem, hfound⟩
      · obtain rfl := List.mem_singleton.1 hrow
        obtain ⟨parent, hmem, hparentId, hcontent, -⟩ := hparent parentId hup
        exact ⟨parent, List.mem_append_left _ hmem, hparentId, hcontent⟩
  have hlater : d.Later nextId { d with comments := d.comments ++ [comment] } := by
    refine .of_subset fun row hrow hlt => ?_
    rcases List.mem_append.1 hrow with hrow | hrow
    · exact hrow
    · obtain rfl := List.mem_singleton.1 hrow
      exact absurd (hid ▸ hlt) (lt_irrefl _)
  have hkept (id : Uuid) (hmem : ∃ row ∈ d.comments, row.id = id) {m : Nat}
      (hroot : d.RootWithin m id) :
      ({ d with comments := d.comments ++ [comment] } : Db).RootWithin m id := by
    obtain ⟨row, hrow, rfl⟩ := hmem
    exact hlater.rootWithin hd.toLinked hd.drawn hlinked ⟨row, List.mem_append_left _ hrow, rfl⟩
      (hd.drawn row hrow) hroot
  refine { hlinked with drawn := fun row hrow => ?_, shallow := fun row hrow => ?_ }
  · rcases List.mem_append.1 hrow with hrow | hrow
    · exact Nat.lt_succ_of_lt (hd.drawn row hrow)
    · obtain rfl := List.mem_singleton.1 hrow
      exact hid ▸ Nat.lt_succ_self _
  · rcases List.mem_append.1 hrow with hrow | hrow
    · exact hkept row.id ⟨row, hrow, rfl⟩ (hd.shallow row hrow)
    · obtain rfl := List.mem_singleton.1 hrow
      have hself := hlinked.parentOf (List.mem_append_right _ (List.mem_singleton_self row))
      cases hup : row.parentId with
      | none => exact ⟨0, Nat.zero_le _, row, List.mem_append_right _ hrow, rfl, hup⟩
      | some parentId =>
          obtain ⟨parent, hmem, hparentId, -, m, hm, hroot⟩ := hparent parentId hup
          obtain ⟨m', hm', root, hrootRow, hclimb, hnone⟩ :=
            hkept parentId ⟨parent, hmem, hparentId⟩ hroot
          refine ⟨m' + 1, by omega, root, hrootRow, ?_, hnone⟩
          rw [climb_succ_of_up (hself.trans hup), hclimb]

/-! ## The site -/

structure Site.Sound (s : Site) : Prop where
  db : s.db.Sound s.nextId
  calls : ∀ i call, s.calls i = some call → call.Sound s.db s.nextId

namespace Site

variable {s : Site} {i : Nat}

theorem Sound.setPhase (h : s.Sound) {phase : Phase}
    (hbegan : ∃ nextId ≤ s.nextId, call.began.Sound nextId ∧ call.began.Later nextId s.db)
    (hphase : call.PhaseSound s.db s.nextId phase) : (s.setPhase i call phase).Sound := by
  refine ⟨h.db, fun j other hother => ?_⟩
  by_cases hj : j = i
  · subst hj
    have hcall : some { call with phase := phase } = some other := by
      simpa [Site.setPhase] using hother
    obtain rfl := Option.some.inj hcall
    refine ⟨hbegan, ?_⟩
    show Call.PhaseSound _ s.db s.nextId phase
    cases phase with
    | done result => cases result <;> exact hphase
    | begun | parentToRead | climbing | validated => exact hphase
  · exact h.calls j other (by simpa [Site.setPhase, hj] using hother)

/-- New data that comes from the old. -/
theorem Sound.later (h : s.Sound) (hd : d.Sound nextId) (hlater : s.db.Later s.nextId d)
    (hle : s.nextId ≤ nextId) : (⟨d, nextId, s.calls⟩ : Site).Sound :=
  ⟨hd, fun i call hcall => (h.calls i call hcall).later h.db hd.toLinked hlater hle⟩

theorem Sound.insertComment (h : s.Sound) (hcall : s.calls i = some call)
    (hphase : call.phase = .validated) (createdAt updatedAt : Instant) :
    (s.insertComment i call createdAt updatedAt).Sound := by
  have hsound := h.calls i call hcall
  have hchecked := hsound.phase
  rw [hphase] at hchecked
  have hnow (nextId : Uuid) (hle : s.nextId ≤ nextId) (d : Db)
      (hlater : s.db.Later s.nextId d) : ∃ nextId' ≤ nextId, call.began.Sound nextId' ∧
        call.began.Later nextId' d := by
    obtain ⟨began, hbegan, hbeganSound, hsince⟩ := hsound.began
    exact ⟨began, hbegan.trans hle, hbeganSound, hsince.trans hlater hbegan⟩
  have hdrawn : s.nextId ≤ s.nextId + 1 := Nat.le_succ _
  unfold Site.insertComment
  dsimp only
  split
  · next hrefers =>
      have hparent (parentId : Uuid) (hdata : call.data.parentId = some parentId) :
          ∃ parent ∈ s.db.comments, parent.id = parentId := by
        simp only [Db.refers, Call.comment, hdata, Option.all_some, Bool.and_eq_true,
          Option.isSome_iff_exists] at hrefers
        obtain ⟨-, parent, hfound⟩ := hrefers
        exact ⟨parent, mem_of_comment? hfound⟩
      generalize hcomment : call.comment s.nextId createdAt updatedAt = comment
      have hid : comment.id = s.nextId := hcomment ▸ rfl
      have hlater : s.db.Later s.nextId { s.db with comments := s.db.comments ++ [comment] } := by
        refine .of_subset fun row hrow hlt => ?_
        rcases List.mem_append.1 hrow with hrow | hrow
        · exact hrow
        · obtain rfl := List.mem_singleton.1 hrow
          exact absurd (hid ▸ hlt) (lt_irrefl _)
      have hd : ({ s.db with comments := s.db.comments ++ [comment] } : Db).Sound
          (s.nextId + 1) := by
        refine h.db.append hid fun parentId hup => ?_
        have hdata : call.data.parentId = some parentId := by rw [← hup, ← hcomment]; rfl
        obtain ⟨hlt, depth, hdepth, hclimbed⟩ := hchecked parentId hdata
        obtain ⟨parent, hmem, hid⟩ := hparent parentId hdata
        obtain ⟨m, hm, hroot⟩ := hclimbed.rootWithin h.db.toLinked ⟨parent, hmem, hid⟩
        refine ⟨parent, hmem, hid, ?_, m, hm.trans_le hdepth, hroot⟩
        exact (hclimbed parent hmem hid).1.trans (hcomment ▸ rfl)
      refine (h.later hd hlater hdrawn).setPhase (hnow _ hdrawn _ hlater) ?_
      intro parentId hdata
      obtain ⟨hlt, depth, hdepth, hclimbed⟩ := hchecked parentId hdata
      exact hsound.noneDeletedAbove h.db.toLinked hclimbed (hparent parentId hdata)
  · have hlater : s.db.Later s.nextId s.db := .of_subset fun row hrow _ => hrow
    have hd : s.db.Sound (s.nextId + 1) :=
      { h.db with drawn := fun row hrow => Nat.lt_succ_of_lt (h.db.drawn row hrow) }
    exact (h.later hd hlater hdrawn).setPhase (hnow _ hdrawn _ hlater) trivial

theorem Sound.statement (h : s.Sound) (i : Nat) (createdAt updatedAt : Instant) :
    (s.statement i createdAt updatedAt).Sound := by
  unfold Site.statement
  cases hcall : s.calls i with
  | none => exact h
  | some call =>
      have hsound := h.calls i call hcall
      dsimp only
      split
      · next hphase => exact h.insertComment hcall hphase createdAt updatedAt
      · exact h.setPhase hsound.began (hsound.read h.db)

/-- A change of the comments that leaves what is kept of them as it was. -/
theorem Sound.changed (h : s.Sound) {comments : List Comment}
    (hlinked : ({ s.db with comments := comments } : Db).Linked)
    (hbecame : ∀ comment' ∈ comments, ∃ comment ∈ s.db.comments, comment.Became comment') :
    ({ s with db := { s.db with comments := comments } } : Site).Sound :=
  h.later (h.db.later hlinked hbecame) (fun comment' hmem _ => hbecame comment' hmem) (le_refl _)

theorem Sound.mapComments (h : s.Sound) {f : Comment → Comment}
    (hf : ∀ comment : Comment, comment.Became (f comment)) : (s.mapComments f).Sound := by
  refine h.changed (h.db.toLinked.map hf) fun comment' hmem => ?_
  obtain ⟨comment, hcomment, rfl⟩ := List.mem_map.1 hmem
  exact ⟨comment, hcomment, hf comment⟩

theorem Sound.next (h : s.Sound) (event : Event) : (s.next event).Sound := by
  cases event with
  | request i userId data =>
      unfold Site.next
      dsimp only
      split
      · exact h
      · refine ⟨h.db, fun j call hcall => ?_⟩
        by_cases hj : j = i
        · subst hj
          obtain rfl : (⟨userId, data, s.db, .begun⟩ : Call) = call := by simpa using hcall
          exact ⟨⟨s.nextId, le_refl _, h.db, .of_subset fun row hrow _ => hrow⟩, trivial⟩
        · exact h.calls j call (by simpa [hj] using hcall)
  | statement i createdAt updatedAt => exact h.statement i createdAt updatedAt
  | softDelete id now updatedAt => exact h.mapComments (Comment.became_softDelete id now updatedAt)
  | updateBody id body now => exact h.mapComments (Comment.became_updateBody id body now)
  | deleteAccount userId now updatedAt =>
      exact h.mapComments (Comment.became_deleteAccount userId now updatedAt)
  | deleteRows ids =>
      refine h.changed (h.db.toLinked.deleteComments ids) fun comment hmem => ?_
      exact ⟨comment, (deleteComments_sublist ids s.db.comments).mem hmem, .refl comment⟩
  | catalogue contents =>
      have hd : ({ s.db with contents := contents } : Db).Sound s.nextId :=
        ⟨⟨h.db.unique, h.db.parents⟩, h.db.drawn, h.db.shallow⟩
      exact h.later hd (.of_subset fun row hrow _ => hrow) (le_refl _)

theorem sound_run (contents : List Content) (events : List Event) :
    ((fresh contents).run events).Sound := by
  have hfresh : (fresh contents).Sound := by
    refine ⟨⟨⟨List.nodup_nil, ?_⟩, ?_, ?_⟩, ?_⟩
    · exact fun comment hmem => absurd hmem (List.not_mem_nil)
    · exact fun comment hmem => absurd hmem (List.not_mem_nil)
    · exact fun comment hmem => absurd hmem (List.not_mem_nil)
    · intro i call hcall
      cases hcall
  unfold run
  generalize fresh contents = s at hfresh
  induction events generalizing s with
  | nil => exact hfresh
  | cons event events ih => exact ih (s.next event) (hfresh.next event)

/-- In every run each comment has a way up to a root of `maxReplyDepth` links at most, is on
no cycle and is about the movie its parent is about; and a reply is created only if nothing
above it was deleted as its call came in. -/
theorem replies_shallow (contents : List Content) (events : List Event) :
    (∀ comment ∈ ((fresh contents).run events).db.comments,
      ((fresh contents).run events).db.RootWithin maxReplyDepth comment.id ∧
      (∀ n, climb ((fresh contents).run events).db.parentOf (n + 1) comment.id ≠
        some comment.id) ∧
      ∀ parentId, comment.parentId = some parentId →
        ∃ parent ∈ ((fresh contents).run events).db.comments,
          parent.id = parentId ∧ parent.contentId = comment.contentId) ∧
    ∀ i call comment, ((fresh contents).run events).calls i = some call →
      call.phase = .done (.ok comment) → ∀ parentId, call.data.parentId = some parentId →
        call.began.NoneDeletedAbove parentId := by
  have h := sound_run contents events
  refine ⟨fun comment hmem => ⟨h.db.shallow comment hmem, ?_, h.db.parents comment hmem⟩, ?_⟩
  · obtain ⟨m, -, root, hroot, hclimb, hnone⟩ := h.db.shallow comment hmem
    exact climb_ne_self hclimb ((h.db.parentOf hroot).trans hnone)
  · intro i call comment hcall hphase
    have hsound := (h.calls i call hcall).phase
    rw [hphase] at hsound
    exact hsound

end Site

end MovieApi.Comments
