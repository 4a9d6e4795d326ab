import MovieApi.Sql.Table

/-!
# Reading a row and then writing it

A call reads the row of a key, decides what to do about it, and writes in a later
statement.  Other calls write in between.  The calls that succeed have done what they
would have done one at a time, each at one point between its start and its end.
-/

namespace MovieApi.Sql

/-! ## Services -/

inductive RowWrite (ρ : Type) where
  | insert (row : ρ)
  | update (row : ρ)
  | delete

/-- What a call does about the row it has read. -/
inductive Plan (ρ ε : Type) where
  | keep
  | refuse (err : ε)
  | write (write : RowWrite ρ)

/-- Operations on a table with a unique key.  An answer is read from the table after
the write. -/
structure Service (ο ρ κ ε α : Type) where
  keyOf : ρ → κ
  key : ο → κ
  plan : ο → Option ρ → Plan ρ ε
  answer : ο → List ρ → α

/-- Why a write fails: something else was quicker. -/
inductive Fault where
  | uniqueViolation
  | foreignKeyViolation
  | staleData

inductive Outcome (ε α : Type) where
  | answered (answer : α)
  | refused (err : ε)
  | failed (fault : Fault)

inductive Phase (ρ ε α : Type) where
  | begun
  | planned (write : RowWrite ρ)
  | settled
  | done (outcome : Outcome ε α)

structure Call (ο ρ ε α : Type) where
  op : ο
  phase : Phase ρ ε α

/-- The table and the calls on it. -/
structure Desk (ο ρ ε α : Type) where
  rows : List ρ
  calls : Nat → Option (Call ο ρ ε α)

inductive DeskEvent (ο ρ : Type) where
  | request (i : Nat) (op : ο)
  /-- a call goes on; `referenced` says if the rows are there that its row refers to -/
  | statement (i : Nat) (referenced : Bool)
  /-- rows go with the rows they refer to -/
  | purge (gone : ρ → Bool)

variable {ο ρ κ ε α : Type} [DecidableEq κ]

namespace Service

/-- The write of a call, which commits at once. -/
def apply (S : Service ο ρ κ ε α) (referenced : Bool) (op : ο) (rows : List ρ) :
    RowWrite ρ → Except Fault (List ρ)
  | .insert row =>
      if (lookup S.keyOf (S.key op) rows).isSome then .error .uniqueViolation
      else if referenced then .ok (rows ++ [row])
      else .error .foreignKeyViolation
  | .update row =>
      if (lookup S.keyOf (S.key op) rows).isSome then
        .ok (modify S.keyOf (S.key op) (fun _ => row) rows)
      else .error .staleData
  | .delete => .ok (remove S.keyOf (S.key op) rows)

/-- The phase after the row was read. -/
def decide (S : Service ο ρ κ ε α) (op : ο) (rows : List ρ) : Phase ρ ε α :=
  match S.plan op (lookup S.keyOf (S.key op) rows) with
  | .keep => .settled
  | .refuse err => .done (.refused err)
  | .write write => .planned write

/-- The next statement of a call. -/
def proceed (S : Service ο ρ κ ε α) (referenced : Bool) (call : Call ο ρ ε α)
    (rows : List ρ) : Phase ρ ε α × List ρ :=
  match call.phase with
  | .begun => (S.decide call.op rows, rows)
  | .planned write =>
      match S.apply referenced call.op rows write with
      | .ok rows' => (.settled, rows')
      | .error fault => (.done (.failed fault), rows)
  | .settled => (.done (.answered (S.answer call.op rows)), rows)
  | .done outcome => (.done outcome, rows)

def next (S : Service ο ρ κ ε α) (s : Desk ο ρ ε α) : DeskEvent ο ρ → Desk ο ρ ε α
  | .request i op =>
      if (s.calls i).isSome then s
      else { s with calls := Function.update s.calls i (some ⟨op, .begun⟩) }
  | .statement i referenced =>
      match s.calls i with
      | none => s
      | some call =>
          let (phase, rows) := S.proceed referenced call s.rows
          { rows := rows, calls := Function.update s.calls i (some { call with phase := phase }) }
  | .purge gone => { s with rows := s.rows.filter fun row => !gone row }

def run (S : Service ο ρ κ ε α) (s : Desk ο ρ ε α) (events : List (DeskEvent ο ρ)) :
    Desk ο ρ ε α :=
  events.foldl S.next s

end Service

/-! ## One at a time -/

/-- What happens in a history without overlaps. -/
inductive Entry (ο ρ ε : Type) where
  | call (i : Nat) (op : ο) (outcome : Except ε Unit)
  | purge (gone : ρ → Bool)

/-- A history without overlaps: each call finds the row that the ones before it left,
and comes out as `effect` says. -/
inductive Replays (key : ο → κ) (effect : ο → Option ρ → Except ε (Option ρ)) :
    (κ → Option ρ) → List (Entry ο ρ ε) → (κ → Option ρ) → Prop
  | nil (cells : κ → Option ρ) : Replays key effect cells [] cells
  | call {cells cells' : κ → Option ρ} {i : Nat} {op : ο} {cell : Option ρ}
      {rest : List (Entry ο ρ ε)} (h : effect op (cells (key op)) = .ok cell)
      (hrest : Replays key effect (Function.update cells (key op) cell) rest cells') :
      Replays key effect cells (.call i op (.ok ()) :: rest) cells'
  | refused {cells cells' : κ → Option ρ} {i : Nat} {op : ο} {err : ε}
      {rest : List (Entry ο ρ ε)} (h : effect op (cells (key op)) = .error err)
      (hrest : Replays key effect cells rest cells') :
      Replays key effect cells (.call i op (.error err) :: rest) cells'
  | purge {cells cells' : κ → Option ρ} {gone : ρ → Bool} {rest : List (Entry ο ρ ε)}
      (hrest : Replays key effect (fun k => (cells k).filter fun row => !gone row) rest cells') :
      Replays key effect cells (.purge gone :: rest) cells'

/-- The plans of a service do what its operations are for. -/
structure Service.Implements (S : Service ο ρ κ ε α)
    (effect : ο → Option ρ → Except ε (Option ρ)) : Prop where
  keep : ∀ {op : ο} {found : Option ρ}, (∀ row ∈ found, S.keyOf row = S.key op) →
    S.plan op found = .keep → effect op found = .ok found
  refuse : ∀ {op : ο} {found : Option ρ} {err : ε}, S.plan op found = .refuse err →
    effect op found = .error err
  insert : ∀ {op : ο} {found : Option ρ} {row : ρ}, S.plan op found = .write (.insert row) →
    S.keyOf row = S.key op ∧ effect op none = .ok (some row)
  update : ∀ {op : ο} {found : Option ρ} {row : ρ}, S.plan op found = .write (.update row) →
    S.keyOf row = S.key op ∧
      ∀ old, S.keyOf old = S.key op → effect op (some old) = .ok (some row)
  delete : ∀ {op : ο} {found : Option ρ}, S.plan op found = .write .delete →
    ∀ found', effect op found' = .ok none

namespace Service

/-- What an event comes to in a history without overlaps: a call counts where it
settles. -/
def entry (S : Service ο ρ κ ε α) (s : Desk ο ρ ε α) : DeskEvent ο ρ → List (Entry ο ρ ε)
  | .request _ _ => []
  | .statement i referenced =>
      match s.calls i with
      | none => []
      | some call =>
          match call.phase, (S.proceed referenced call s.rows).1 with
          | .begun, .settled => [.call i call.op (.ok ())]
          | .planned _, .settled => [.call i call.op (.ok ())]
          | .begun, .done (.refused err) => [.call i call.op (.error err)]
          | _, _ => []
  | .purge gone => [.purge gone]

def history (S : Service ο ρ κ ε α) :
    Desk ο ρ ε α → List (DeskEvent ο ρ) → List (Entry ο ρ ε)
  | _, [] => []
  | s, event :: events => S.entry s event ++ S.history (S.next s event) events

end Service

/-- How a call stands in the history: once if it has settled or refused, not at all
while it is under way or when another call was quicker. -/
def Call.entries (i : Nat) (call : Call ο ρ ε α) : List (Entry ο ρ ε) :=
  match call.phase with
  | .settled => [.call i call.op (.ok ())]
  | .done (.answered _) => [.call i call.op (.ok ())]
  | .done (.refused err) => [.call i call.op (.error err)]
  | _ => []

def Entry.isOf (i : Nat) : Entry ο ρ ε → Bool
  | .call j _ _ => Decidable.decide (j = i)
  | .purge _ => false

/-! ## Every run has such a history -/

variable {S : Service ο ρ κ ε α} {effect : ο → Option ρ → Except ε (Option ρ)}
  {s : Desk ο ρ ε α} {rows : List ρ} {k : κ}

theorem lookup_filter {key : ρ → κ} (hunique : Unique key rows) (p : ρ → Bool) :
    lookup key k (rows.filter p) = (lookup key k rows).filter p := by
  cases hrow : lookup key k rows with
  | none =>
      rw [lookup_eq_none] at hrow
      rw [Option.filter_none, lookup_eq_none]
      exact fun row hmem => hrow row (List.mem_of_mem_filter hmem)
  | some row =>
      have hmem := mem_of_lookup hrow
      have hkey := key_of_lookup hrow
      cases hp : p row with
      | true =>
          rw [Option.filter_some, if_pos hp, ← hkey]
          exact lookup_of_mem (hunique.sublist (List.filter_sublist.map key))
            (List.mem_filter.2 ⟨hmem, hp⟩)
      | false =>
          rw [Option.filter_some, if_neg (by simp [hp]), lookup_eq_none]
          intro other hother hsame
          obtain ⟨hother, hpass⟩ := List.mem_filter.1 hother
          obtain rfl := List.inj_on_of_nodup_map hunique hother hmem (hsame.trans hkey.symm)
          rw [hp] at hpass
          cases hpass

/-- The rows of a table by their keys. -/
def Service.cells (S : Service ο ρ κ ε α) (rows : List ρ) : κ → Option ρ :=
  fun k => lookup S.keyOf k rows

theorem Replays.append {key : ο → κ} {cells cells' cells'' : κ → Option ρ}
    {front back : List (Entry ο ρ ε)} (h : Replays key effect cells front cells')
    (h' : Replays key effect cells' back cells'') :
    Replays key effect cells (front ++ back) cells'' := by
  induction h with
  | nil => exact h'
  | call hop _ ih => exact .call hop (ih h')
  | refused hop _ ih => exact .refused hop (ih h')
  | purge _ ih => exact .purge (ih h')

/-- The keys are unique, and a call that is about to write has planned it. -/
structure Desk.Sound (S : Service ο ρ κ ε α) (s : Desk ο ρ ε α) : Prop where
  unique : Unique S.keyOf s.rows
  planned : ∀ i call write, s.calls i = some call → call.phase = .planned write →
    ∃ found, S.plan call.op found = .write write

/-- A write that succeeds is the operation, whatever was written since the row was read. -/
theorem Service.Implements.apply (h : S.Implements effect) (hunique : Unique S.keyOf rows)
    {op : ο} {found : Option ρ} {write : RowWrite ρ} {rows' : List ρ}
    {referenced : Bool} (hplan : S.plan op found = .write write)
    (hok : S.apply referenced op rows write = .ok rows') :
    Unique S.keyOf rows' ∧ ∃ cell, effect op (S.cells rows (S.key op)) = .ok cell ∧
      S.cells rows' = Function.update (S.cells rows) (S.key op) cell := by
  unfold Service.apply at hok
  cases write with
  | insert row =>
      obtain ⟨hkey, heffect⟩ := h.insert hplan
      simp only at hok
      split at hok
      · cases hok
      · next hnone =>
          rw [Bool.not_eq_true, Option.isSome_eq_false_iff, Option.isNone_iff_eq_none] at hnone
          cases referenced with
          | false => cases hok
          | true =>
          obtain rfl := Except.ok.inj hok
          refine ⟨hunique.append (hkey ▸ hnone), some row, ?_, funext fun k => ?_⟩
          · rw [cells, hnone]
            exact heffect
          · rw [cells, lookup_append, hkey]
            by_cases hk : k = S.key op
            · rw [hk, Function.update_self, hnone, Option.none_or, if_pos rfl]
            · rw [Function.update_of_ne hk, if_neg (Ne.symm hk), Option.or_none]
              rfl
  | update row =>
      obtain ⟨hkey, heffect⟩ := h.update hplan
      simp only at hok
      split at hok
      · next hsome =>
          obtain rfl := Except.ok.inj hok
          obtain ⟨old, hold⟩ := Option.isSome_iff_exists.1 hsome
          refine ⟨hunique.modify fun _ _ => hkey, some row, ?_, funext fun k => ?_⟩
          · rw [cells, hold]
            exact heffect old (key_of_lookup hold)
          · rw [cells, lookup_modify fun _ _ => hkey]
            by_cases hk : k = S.key op
            · rw [hk, Function.update_self, if_pos rfl, hold, Option.map_some]
            · rw [Function.update_of_ne hk, if_neg hk]
              rfl
      · cases hok
  | delete =>
      obtain rfl := Except.ok.inj hok
      refine ⟨hunique.remove, none, h.delete hplan _, funext fun k => ?_⟩
      rw [cells, lookup_remove]
      by_cases hk : k = S.key op
      · rw [hk, Function.update_self, if_pos rfl]
      · rw [Function.update_of_ne hk, if_neg hk]
        rfl

/-- What one statement of a call does: where it leaves the call and the table, and
whether the call settles with it. -/
inductive Service.Moves (S : Service ο ρ κ ε α) (referenced : Bool) (i : Nat)
    (call : Call ο ρ ε α) (rows : List ρ) : Phase ρ ε α → List ρ → List (Entry ο ρ ε) → Prop
  | keep (hphase : call.phase = .begun)
      (hplan : S.plan call.op (lookup S.keyOf (S.key call.op) rows) = .keep) :
      Moves S referenced i call rows .settled rows [.call i call.op (.ok ())]
  | refuse {err : ε} (hphase : call.phase = .begun)
      (hplan : S.plan call.op (lookup S.keyOf (S.key call.op) rows) = .refuse err) :
      Moves S referenced i call rows (.done (.refused err)) rows [.call i call.op (.error err)]
  | plan {write : RowWrite ρ} (hphase : call.phase = .begun)
      (hplan : S.plan call.op (lookup S.keyOf (S.key call.op) rows) = .write write) :
      Moves S referenced i call rows (.planned write) rows []
  | write {write : RowWrite ρ} {rows' : List ρ} (hphase : call.phase = .planned write)
      (hok : S.apply referenced call.op rows write = .ok rows') :
      Moves S referenced i call rows .settled rows' [.call i call.op (.ok ())]
  | fail {write : RowWrite ρ} {fault : Fault} (hphase : call.phase = .planned write)
      (herror : S.apply referenced call.op rows write = .error fault) :
      Moves S referenced i call rows (.done (.failed fault)) rows []
  | answer (hphase : call.phase = .settled) :
      Moves S referenced i call rows (.done (.answered (S.answer call.op rows))) rows []
  | finished {outcome : Outcome ε α} (hphase : call.phase = .done outcome) :
      Moves S referenced i call rows (.done outcome) rows []

theorem Service.next_statement (S : Service ο ρ κ ε α) {i : Nat} {call : Call ο ρ ε α}
    (hcall : s.calls i = some call) (referenced : Bool) :
    ∃ phase rows, S.next s (.statement i referenced) =
        { rows := rows, calls := Function.update s.calls i (some { call with phase := phase }) } ∧
      S.Moves referenced i call s.rows phase rows (S.entry s (.statement i referenced)) := by
  refine ⟨(S.proceed referenced call s.rows).1, (S.proceed referenced call s.rows).2,
    by simp only [next, hcall], ?_⟩
  cases hphase : call.phase with
  | begun =>
      cases hplan : S.plan call.op (lookup S.keyOf (S.key call.op) s.rows) with
      | keep =>
          simp only [entry, hcall, proceed, hphase, decide, hplan]
          exact .keep hphase hplan
      | refuse err =>
          simp only [entry, hcall, proceed, hphase, decide, hplan]
          exact .refuse hphase hplan
      | write write =>
          simp only [entry, hcall, proceed, hphase, decide, hplan]
          exact .plan hphase hplan
  | planned write =>
      cases hresult : S.apply referenced call.op s.rows write with
      | ok rows' =>
          simp only [entry, hcall, proceed, hphase, hresult]
          exact .write hphase hresult
      | error fault =>
          simp only [entry, hcall, proceed, hphase, hresult]
          exact .fail hphase hresult
  | settled =>
      simp only [entry, hcall, proceed, hphase]
      exact .answer hphase
  | done outcome =>
      simp only [entry, hcall, proceed, hphase]
      exact .finished hphase

namespace Desk.Sound

/-- A statement keeps the table and is a step of the history, or none. -/
theorem move (h : s.Sound S) (himpl : S.Implements effect) {i : Nat} {call : Call ο ρ ε α}
    (hcall : s.calls i = some call) {phase : Phase ρ ε α} {entries : List (Entry ο ρ ε)}
    {referenced : Bool} (hmoves : S.Moves referenced i call s.rows phase rows entries) :
    Unique S.keyOf rows ∧
      (∀ write, phase = .planned write → ∃ found, S.plan call.op found = .write write) ∧
      Replays S.key effect (S.cells s.rows) entries (S.cells rows) := by
  cases hmoves with
  | keep hphase hplan =>
      have heffect := himpl.keep (fun _ hrow => key_of_lookup hrow) hplan
      refine ⟨h.unique, fun _ hwrite => (by cases hwrite), .call heffect ?_⟩
      have hsame : Function.update (S.cells s.rows) (S.key call.op)
          (lookup S.keyOf (S.key call.op) s.rows) = S.cells s.rows := Function.update_eq_self _ _
      rw [hsame]
      exact .nil _
  | refuse hphase hplan =>
      exact ⟨h.unique, fun _ hwrite => (by cases hwrite), .refused (himpl.refuse hplan) (.nil _)⟩
  | plan hphase hplan =>
      refine ⟨h.unique, fun write hwrite => ?_, .nil _⟩
      cases hwrite
      exact ⟨_, hplan⟩
  | write hphase hok =>
      obtain ⟨found, hplan⟩ := h.planned i call _ hcall hphase
      obtain ⟨hunique, cell, heffect, hcells⟩ := himpl.apply h.unique hplan hok
      refine ⟨hunique, fun _ hwrite => (by cases hwrite), .call heffect ?_⟩
      rw [hcells]
      exact .nil _
  | fail hphase herror => exact ⟨h.unique, fun _ hwrite => (by cases hwrite), .nil _⟩
  | answer hphase => exact ⟨h.unique, fun _ hwrite => (by cases hwrite), .nil _⟩
  | finished hphase => exact ⟨h.unique, fun _ hwrite => (by cases hwrite), .nil _⟩

theorem next (h : s.Sound S) (himpl : S.Implements effect) (event : DeskEvent ο ρ) :
    (S.next s event).Sound S ∧
      Replays S.key effect (S.cells s.rows) (S.entry s event) (S.cells (S.next s event).rows) := by
  cases event with
  | request i op =>
      simp only [Service.next, Service.entry]
      by_cases hsome : (s.calls i).isSome
      · rw [if_pos hsome]
        exact ⟨h, .nil _⟩
      · rw [if_neg hsome]
        refine ⟨⟨h.unique, fun j call write hcall hphase => ?_⟩, .nil _⟩
        by_cases hj : j = i
        · subst hj
          simp only [Function.update_self, Option.some.injEq] at hcall
          subst hcall
          cases hphase
        · simp only [Function.update_of_ne hj] at hcall
          exact h.planned j call write hcall hphase
  | statement i referenced =>
      cases hcall : s.calls i with
      | none =>
          simp only [Service.next, Service.entry, hcall]
          exact ⟨h, .nil _⟩
      | some call =>
          obtain ⟨phase, rows, hnext, hmoves⟩ := S.next_statement hcall referenced
          obtain ⟨hunique, hplanned, hreplays⟩ := h.move himpl hcall hmoves
          rw [hnext]
          refine ⟨⟨hunique, fun j other write hother hphase => ?_⟩, hreplays⟩
          by_cases hj : j = i
          · subst hj
            simp only [Function.update_self, Option.some.injEq] at hother
            subst hother
            exact hplanned write hphase
          · simp only [Function.update_of_ne hj] at hother
            exact h.planned j other write hother hphase
  | purge gone =>
      refine ⟨⟨h.unique.sublist (List.filter_sublist.map S.keyOf), h.planned⟩, .purge ?_⟩
      have hcells : (fun k => (S.cells s.rows k).filter fun row => !gone row) =
          S.cells (S.next s (.purge gone)).rows :=
        funext fun k => (lookup_filter h.unique _).symm
      rw [hcells]
      exact .nil _

theorem run (h : s.Sound S) (himpl : S.Implements effect) (events : List (DeskEvent ο ρ)) :
    (S.run s events).Sound S ∧ Replays S.key effect (S.cells s.rows) (S.history s events)
      (S.cells (S.run s events).rows) := by
  induction events generalizing s with
  | nil => exact ⟨h, .nil _⟩
  | cons event events ih =>
      obtain ⟨hnext, hstep⟩ := h.next himpl event
      obtain ⟨hrun, hrest⟩ := ih hnext
      exact ⟨hrun, hstep.append hrest⟩

end Desk.Sound

theorem Service.history_append (S : Service ο ρ κ ε α) (s : Desk ο ρ ε α)
    (front back : List (DeskEvent ο ρ)) :
    S.history s (front ++ back) = S.history s front ++ S.history (S.run s front) back := by
  induction front generalizing s with
  | nil => rfl
  | cons event front ih =>
      rw [List.cons_append, history, history, ih, List.append_assoc]
      rfl

/-- How call `i` stands in the history that has led to a state. -/
def Desk.entries (i : Nat) (s : Desk ο ρ ε α) : List (Entry ο ρ ε) :=
  (s.calls i).elim [] (Call.entries i)

/-- A call gets into the history when it settles, and never again. -/
theorem Service.Moves.entries {i : Nat} {call : Call ο ρ ε α} {phase : Phase ρ ε α}
    {rows' : List ρ} {entries : List (Entry ο ρ ε)} {referenced : Bool}
    (h : S.Moves referenced i call rows phase rows' entries) :
    Call.entries i { call with phase := phase } = Call.entries i call ++ entries ∧
      ∀ entry ∈ entries, entry.isOf i = true := by
  obtain ⟨op, _⟩ := call
  cases h <;> rename_i hphase <;> simp_all [Call.entries, Entry.isOf]

theorem Service.entries_next (S : Service ο ρ κ ε α) (s : Desk ο ρ ε α)
    (event : DeskEvent ο ρ) (i : Nat) :
    (S.next s event).entries i = s.entries i ++ (S.entry s event).filter (Entry.isOf i) := by
  cases event with
  | request j op =>
      simp only [next, entry, List.filter_nil, List.append_nil]
      by_cases hsome : (s.calls j).isSome
      · rw [if_pos hsome]
      · rw [if_neg hsome]
        rw [Bool.not_eq_true, Option.isSome_eq_false_iff, Option.isNone_iff_eq_none] at hsome
        by_cases hi : i = j
        · subst hi
          simp [Desk.entries, hsome, Call.entries]
        · simp [Desk.entries, Function.update_of_ne hi]
  | statement j referenced =>
      cases hcall : s.calls j with
      | none => simp [next, entry, hcall]
      | some call =>
          obtain ⟨phase, rows, hnext, hmoves⟩ := S.next_statement hcall referenced
          obtain ⟨hentries, hown⟩ := hmoves.entries
          rw [hnext]
          by_cases hi : i = j
          · subst hi
            rw [List.filter_eq_self.2 hown]
            simpa [Desk.entries, hcall] using hentries
          · have hforeign : (S.entry s (.statement j referenced)).filter (Entry.isOf i) = [] := by
              rw [List.filter_eq_nil_iff]
              intro entry hentry
              have hj := hown entry hentry
              cases entry with
              | call j' op outcome =>
                  obtain rfl : j' = j := by simpa [Entry.isOf] using hj
                  simpa [Entry.isOf] using Ne.symm hi
              | purge gone => cases hj
            simp [Desk.entries, Function.update_of_ne hi, hforeign]
  | purge gone => simp [next, entry, Desk.entries, Entry.isOf]

theorem Service.entries_run (S : Service ο ρ κ ε α) (s : Desk ο ρ ε α)
    (events : List (DeskEvent ο ρ)) (i : Nat) : (S.run s events).entries i =
      s.entries i ++ (S.history s events).filter (Entry.isOf i) := by
  induction events generalizing s with
  | nil => simp [run, history]
  | cons event events ih =>
      have hcons : S.run s (event :: events) = S.run (S.next s event) events := rfl
      rw [hcons, ih, S.entries_next, history, List.filter_append, List.append_assoc]

/-- A history in which the calls of a run come one at a time: each call that settled or
refused stands in it once, with its outcome, after the calls that were over when it came
in; one that failed does not stand in it. -/
structure Service.Serial (S : Service ο ρ κ ε α) (effect : ο → Option ρ → Except ε (Option ρ))
    (s : Desk ο ρ ε α) (events : List (DeskEvent ο ρ)) (history : List (Entry ο ρ ε)) :
    Prop where
  replays : Replays S.key effect (S.cells s.rows) history (S.cells (S.run s events).rows)
  once : ∀ i, history.filter (Entry.isOf i) = (S.run s events).entries i
  ordered : ∀ before after, events = before ++ after → ∃ first second,
    history = first ++ second ∧
      Replays S.key effect (S.cells s.rows) first (S.cells (S.run s before).rows) ∧
      ∀ i, first.filter (Entry.isOf i) = (S.run s before).entries i

/-- However the calls overlap, they have done what they would have done one at a time. -/
theorem Service.one_at_a_time (himpl : S.Implements effect) (h : s.Sound S)
    (hfresh : ∀ i, s.calls i = none) (events : List (DeskEvent ο ρ)) :
    S.Serial effect s events (S.history s events) := by
  have hentries : ∀ events i,
      (S.history s events).filter (Entry.isOf i) = (S.run s events).entries i := by
    intro events i
    rw [S.entries_run, Desk.entries, hfresh i, Option.elim_none, List.nil_append]
  refine ⟨(h.run himpl events).2, hentries events, ?_⟩
  rintro before after rfl
  exact ⟨S.history s before, S.history (S.run s before) after, S.history_append s before after,
    (h.run himpl before).2, hentries before⟩

/-- A desk at the start: an empty table, no calls. -/
def Desk.empty : Desk ο ρ ε α := ⟨[], fun _ => none⟩

omit [DecidableEq κ] in
theorem Desk.Sound.empty (S : Service ο ρ κ ε α) : (Desk.empty : Desk ο ρ ε α).Sound S :=
  ⟨List.nodup_nil, fun _ _ _ hcall => by cases hcall⟩

end MovieApi.Sql
