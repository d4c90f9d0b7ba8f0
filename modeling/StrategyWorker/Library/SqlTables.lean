import Mathlib.Data.List.Forall2
import Mathlib.Data.List.GetD
import Mathlib.Logic.Function.Basic
import StrategyWorker.Library.PyValue

/-!
# Tables whose definition evolves

A table has a form (columns, constraints and indexes) and rows.  Statements
create tables and indexes when they are not there yet, add and rename columns,
and update one column of the rows.  What a statement does to the form does not
depend on the rows; an update may fail at a row.

Main results:

- Theorem {lit}`runStatements_eq_ok`: statements on several tables are the
  statements on each of them.
- Theorem {lit}`form_of_runTable`: the form after a run.
- Theorem {lit}`runTable_invariant`, theorem {lit}`exists_runTable`: what every
  statement keeps of the rows, and when none of them fails.
-/

namespace StrategyWorker
namespace Library

/-! ## Forms -/

/-- A column with its declared type and its constraints. -/
structure SqlColumn where
  name : String
  type : String
  deriving DecidableEq

structure SqlIndex where
  name : String
  columns : List String
  deriving DecidableEq

structure TableForm where
  columns : List SqlColumn
  constraints : List String
  indexes : List SqlIndex
  deriving DecidableEq

inductive SqlError where
  | noSuchTable
  | noSuchColumn
  | duplicateColumn
  | malformedJson
  deriving DecidableEq

/-- What a statement does to the form of its table. -/
inductive FormAction where
  /-- {lit}`CREATE TABLE IF NOT EXISTS`. -/
  | createTable (columns : List SqlColumn) (constraints : List String)
  /-- {lit}`CREATE INDEX IF NOT EXISTS`. -/
  | createIndex (index : SqlIndex)
  /-- {lit}`DROP INDEX IF EXISTS`. -/
  | dropIndex (name : String)
  | addColumn (column : SqlColumn)
  | renameColumn (old new : String)
  | update (column : String) (reads : List String)
  deriving DecidableEq

namespace TableForm

def names (form : TableForm) : List String :=
  form.columns.map SqlColumn.name

/-- A column under its new name, also in the indexes. -/
def rename (form : TableForm) (old new : String) : TableForm :=
  { form with
    columns := form.columns.map fun c => if c.name = old then { c with name := new } else c
    indexes := form.indexes.map fun index =>
      { index with columns := index.columns.map fun c => if c = old then new else c } }

/-- The form after a statement. -/
def act (form : TableForm) : FormAction → Except SqlError TableForm
  | .createTable _ _ => .ok form
  | .createIndex index =>
      if index.name ∈ form.indexes.map SqlIndex.name then .ok form
      else if index.columns ⊆ form.names then .ok { form with indexes := form.indexes ++ [index] }
      else .error .noSuchColumn
  | .dropIndex name =>
      .ok { form with indexes := form.indexes.filter fun index => index.name ≠ name }
  | .addColumn column =>
      if column.name ∈ form.names then .error .duplicateColumn
      else .ok { form with columns := form.columns ++ [column] }
  | .renameColumn old new =>
      if old ∉ form.names then .error .noSuchColumn
      else if new ∈ form.names then .error .duplicateColumn
      else .ok (form.rename old new)
  | .update column reads =>
      if column :: reads ⊆ form.names then .ok form else .error .noSuchColumn

end TableForm

/-- The form after a statement, when the table is there and when it is not. -/
def actForm : Option TableForm → FormAction → Except SqlError (Option TableForm)
  | some form, action => (form.act action).map some
  | none, .createTable columns constraints => .ok (some ⟨columns, constraints, []⟩)
  | none, .dropIndex _ => .ok none
  | none, _ => .error .noSuchTable

def runForm (actions : List FormAction) (form : Option TableForm) :
    Except SqlError (Option TableForm) :=
  actions.foldlM actForm form

/-! ## Rows -/

variable {V : Type}

/-- A statement on a table; an update computes the new value of its column from a row, or leaves the
row alone. -/
inductive TableAction (V : Type) where
  | form (action : FormAction)
  | update (column : String) (reads : List String)
      (value : (String → V) → Except SqlError (Option V))

structure SqlTable (V : Type) where
  form : TableForm
  rows : List (List V)

namespace TableAction

/-- What a statement does to the form. -/
def formAction : TableAction V → FormAction
  | form action => action
  | update column reads _ => .update column reads

end TableAction

/-- The value of a row under a column. -/
def TableForm.read (form : TableForm) (null : V) (row : List V) (name : String) : V :=
  row.getD (form.names.idxOf name) null

/-- The row after an update. -/
def updateRow (null : V) (form : TableForm) (column : String)
    (value : (String → V) → Except SqlError (Option V)) (row : List V) :
    Except SqlError (List V) := do
  match ← value (form.read null row) with
  | none => return row
  | some v => return row.set (form.names.idxOf column) v

/-- The rows after a statement. -/
def actRows (null : V) (form : TableForm) : TableAction V → List (List V) →
    Except SqlError (List (List V))
  | .form (.addColumn _), rows => .ok (rows.map fun row => row ++ [null])
  | .form _, rows => .ok rows
  | .update column _ value, rows => rows.mapM (updateRow null form column value)

/-- The table after a statement. -/
def actTable (null : V) (t : Option (SqlTable V)) (action : TableAction V) :
    Except SqlError (Option (SqlTable V)) := do
  match t, ← actForm (t.map SqlTable.form) action.formAction with
  | _, none => return none
  | none, some form => return some ⟨form, []⟩
  | some t, some form => return some ⟨form, ← actRows null t.form action t.rows⟩

def runTable (null : V) (actions : List (TableAction V)) (t : Option (SqlTable V)) :
    Except SqlError (Option (SqlTable V)) :=
  actions.foldlM (actTable null) t

/-- The rows of a table; a table that is not there has none. -/
def rowsOf (t : Option (SqlTable V)) : List (List V) :=
  t.elim [] SqlTable.rows

/-! ## The form after a run -/

/-- No statement drops a table. -/
theorem act_of_actForm {before : TableForm} {form : Option TableForm} {action : FormAction}
    (h : actForm (some before) action = .ok form) :
    ∃ f, form = some f ∧ before.act action = .ok f := by
  simp only [actForm] at h
  cases hact : before.act action with
  | error e => simp [hact, Except.map] at h
  | ok f =>
      rw [hact] at h
      exact ⟨f, (Except.ok.inj h).symm, rfl⟩

/-- What a statement leaves, when it succeeds. -/
theorem actTable_eq_ok {null : V} {t t' : Option (SqlTable V)} {action : TableAction V} :
    actTable null t action = .ok t' ↔ ∃ form,
      actForm (t.map SqlTable.form) action.formAction = .ok form ∧
        ((form = none ∧ t' = none) ∨
          (∃ f, form = some f ∧ t = none ∧ t' = some ⟨f, []⟩) ∨
            ∃ f before rows, form = some f ∧ t = some before ∧
              actRows null before.form action before.rows = .ok rows ∧ t' = some ⟨f, rows⟩) := by
  unfold actTable
  rw [bind_eq_ok]
  refine exists_congr fun form => and_congr_right fun _ => ?_
  cases form with
  | none =>
      cases t <;> simp [pure, Except.pure, eq_comm]
  | some f =>
      cases t with
      | none => simp [pure, Except.pure, eq_comm]
      | some before =>
          simp only [bind_eq_ok, pure, Except.pure, Except.ok.injEq, reduceCtorEq, false_and,
            Option.some.injEq, false_or, and_false, exists_false]
          constructor
          · rintro ⟨rows, hrows, rfl⟩
            exact ⟨f, before, rows, rfl, rfl, hrows, rfl⟩
          · rintro ⟨f', before', rows, rfl, rfl, hrows, rfl⟩
            exact ⟨rows, hrows, rfl⟩

theorem form_of_actTable {null : V} {t t' : Option (SqlTable V)} {action : TableAction V}
    (h : actTable null t action = .ok t') :
    actForm (t.map SqlTable.form) action.formAction = .ok (t'.map SqlTable.form) := by
  rcases actTable_eq_ok.1 h with ⟨form, hform, ⟨rfl, rfl⟩ | ⟨f, rfl, rfl, rfl⟩ |
    ⟨f, before, rows, rfl, rfl, -, rfl⟩⟩ <;> exact hform

/-- The form after a run does not depend on the rows. -/
theorem form_of_runTable {null : V} {actions : List (TableAction V)} {t t' : Option (SqlTable V)}
    (h : runTable null actions t = .ok t') :
    runForm (actions.map TableAction.formAction) (t.map SqlTable.form) =
      .ok (t'.map SqlTable.form) := by
  unfold runTable runForm at *
  induction actions generalizing t with
  | nil =>
      obtain rfl := Except.ok.inj h
      rfl
  | cons action actions ih =>
      rcases bind_eq_ok.1 h with ⟨u, hu, h⟩
      exact bind_eq_ok.2 ⟨_, form_of_actTable hu, ih h⟩

theorem runTable_append {null : V} {actions actions' : List (TableAction V)}
    {t t' : Option (SqlTable V)} :
    runTable null (actions ++ actions') t = .ok t' ↔
      ∃ u, runTable null actions t = .ok u ∧ runTable null actions' u = .ok t' := by
  unfold runTable
  rw [List.foldlM_append, bind_eq_ok]

theorem runForm_append {actions actions' : List FormAction} {form form' : Option TableForm} :
    runForm (actions ++ actions') form = .ok form' ↔
      ∃ u, runForm actions form = .ok u ∧ runForm actions' u = .ok form' := by
  unfold runForm
  rw [List.foldlM_append, bind_eq_ok]

/-! ## What a run keeps of the rows -/

/-- Every statement of a run meets a condition on the form that it finds. -/
def Along (Q : TableForm → FormAction → Bool) : Option TableForm → List FormAction → Bool
  | _, [] => true
  | form, action :: actions =>
      (match form with
        | some f => Q f action
        | none => true) &&
      match actForm form action with
      | .ok form' => Along Q form' actions
      | .error _ => true

/-- What every statement keeps of the rows holds after a run. -/
theorem runTable_invariant {null : V} (Q : TableForm → FormAction → Bool)
    (I : List (List V) → Prop)
    {actions : List (TableAction V)} {t t' : Option (SqlTable V)}
    (hstep : ∀ form, ∀ action ∈ actions, ∀ rows rows', Q form action.formAction = true → I rows →
      actRows null form action rows = .ok rows' → I rows')
    (halong : Along Q (t.map SqlTable.form) (actions.map TableAction.formAction) = true)
    (hI : I (rowsOf t)) (hnil : t = none → I [])
    (h : runTable null actions t = .ok t') : I (rowsOf t') := by
  unfold runTable at h
  induction actions generalizing t with
  | nil =>
      obtain rfl := Except.ok.inj h
      exact hI
  | cons action actions ih =>
      rcases bind_eq_ok.1 h with ⟨u, hu, hrest⟩
      have hlater : ∀ form, ∀ action ∈ actions, ∀ rows rows', Q form action.formAction = true →
          I rows → actRows null form action rows = .ok rows' → I rows' :=
        fun form action hmem => hstep form action (List.mem_cons_of_mem _ hmem)
      have hform := form_of_actTable hu
      simp only [List.map_cons, Along, hform, Bool.and_eq_true] at halong
      rcases halong with ⟨hQ, halong⟩
      rcases actTable_eq_ok.1 hu with ⟨form, hact, ⟨rfl, rfl⟩ | ⟨f, rfl, rfl, rfl⟩ |
        ⟨f, before, rows, rfl, rfl, hrows, rfl⟩⟩
      · cases t with
        | none => exact ih hlater halong (hnil rfl) (fun _ => hnil rfl) hrest
        | some before =>
            rcases act_of_actForm hact with ⟨f, hnone, -⟩
            cases hnone
      · exact ih hlater halong (hnil rfl) (fun hnone => by cases hnone) hrest
      · exact ih hlater halong
          (hstep before.form action List.mem_cons_self before.rows rows hQ hI hrows)
          (fun hnone => by cases hnone) hrest

/-- New columns read as empty values, and so do columns that a row does not have. -/
theorem getD_grown {null : V} (row : List V) (m p : Nat) :
    (row ++ List.replicate m null).getD p null = row.getD p null := by
  rcases Nat.lt_or_ge p row.length with hlt | hge
  · exact List.getD_append _ _ _ _ hlt
  · rw [List.getD_append_right _ _ _ _ hge, List.getD_eq_default _ _ hge]
    rcases Nat.lt_or_ge (p - row.length) m with hlt | hge
    · exact List.getD_replicate _ hlt
    · exact List.getD_eq_default _ _ (by simpa using hge)

theorem along_true (form : Option TableForm) (actions : List FormAction) :
    Along (fun _ _ => true) form actions = true := by
  induction actions generalizing form with
  | nil => rfl
  | cons action actions ih =>
      cases hform : actForm form action <;> cases form <;> simp [Along, hform, ih]

/-- Without updates, rows only grow by empty values. -/
theorem rows_of_forms {null : V} {actions : List FormAction} {t t' : Option (SqlTable V)}
    (h : runTable null (actions.map TableAction.form) t = .ok t') :
    List.Forall₂ (fun row row' => ∃ m, row' = row ++ List.replicate m null)
      (rowsOf t) (rowsOf t') := by
  have hself : List.Forall₂ (fun row row' => ∃ m, row' = row ++ List.replicate m null)
      (rowsOf t) (rowsOf t) :=
    List.forall₂_same.2 fun row _ => ⟨0, (List.append_nil row).symm⟩
  refine runTable_invariant (fun _ _ => true) _ ?_ (along_true _ _) hself
    (fun hnone => by subst hnone; exact hself) h
  intro form action hmem rows rows' _ hI hrows
  rcases List.mem_map.1 hmem with ⟨a, -, rfl⟩
  cases a with
  | addColumn column =>
      obtain rfl := Except.ok.inj hrows
      refine List.forall₂_map_right_iff.2 (hI.imp fun row row' hgrown => ?_)
      rcases hgrown with ⟨m, rfl⟩
      exact ⟨m + 1, by rw [List.append_assoc, List.replicate_succ']⟩
  | _ =>
      obtain rfl := Except.ok.inj hrows
      exact hI

/-- A run whose forms fit and none of whose statements fails at a row. -/
theorem exists_runTable {null : V} (Q : TableForm → FormAction → Bool)
    (I : List (List V) → Prop)
    {actions : List (TableAction V)} {t : Option (SqlTable V)} {form : Option TableForm}
    (hstep : ∀ form, ∀ action ∈ actions, ∀ rows, Q form action.formAction = true → I rows →
      ∃ rows', actRows null form action rows = .ok rows' ∧ I rows')
    (halong : Along Q (t.map SqlTable.form) (actions.map TableAction.formAction) = true)
    (hI : I (rowsOf t)) (hnil : t = none → I [])
    (hform : runForm (actions.map TableAction.formAction) (t.map SqlTable.form) = .ok form) :
    ∃ t', runTable null actions t = .ok t' ∧ I (rowsOf t') := by
  unfold runTable
  unfold runForm at hform
  induction actions generalizing t with
  | nil => exact ⟨t, rfl, hI⟩
  | cons action actions ih =>
      rcases bind_eq_ok.1 hform with ⟨u, hu, hform⟩
      simp only [List.map_cons, Along, hu, Bool.and_eq_true] at halong
      rcases halong with ⟨hQ, halong⟩
      have hnext : ∃ t', actTable null t action = .ok t' ∧ t'.map SqlTable.form = u ∧
          I (rowsOf t') ∧ (t' = none → I []) := by
        cases u with
        | none =>
            cases t with
            | none =>
                exact ⟨none, actTable_eq_ok.2 ⟨none, hu, .inl ⟨rfl, rfl⟩⟩, rfl, hnil rfl, hnil⟩
            | some before =>
                rcases act_of_actForm hu with ⟨f, hnone, -⟩
                cases hnone
        | some f =>
            cases t with
            | none =>
                exact ⟨some ⟨f, []⟩, actTable_eq_ok.2 ⟨some f, hu, .inr (.inl ⟨f, rfl, rfl, rfl⟩)⟩,
                  rfl, hnil rfl, fun hnone => by cases hnone⟩
            | some before =>
                rcases hstep before.form action List.mem_cons_self before.rows hQ hI with
                  ⟨rows, hrows, hI'⟩
                exact ⟨some ⟨f, rows⟩, actTable_eq_ok.2
                  ⟨some f, hu, .inr (.inr ⟨f, before, rows, rfl, rfl, hrows, rfl⟩)⟩, rfl, hI',
                  fun hnone => by cases hnone⟩
      rcases hnext with ⟨t', ht', rfl, hI', hnil'⟩
      have hlater : ∀ form, ∀ action ∈ actions, ∀ rows, Q form action.formAction = true →
          I rows → ∃ rows', actRows null form action rows = .ok rows' ∧ I rows' :=
        fun form action hmem => hstep form action (List.mem_cons_of_mem _ hmem)
      rcases ih hlater halong hI' hnil' hform with ⟨t'', ht'', hI''⟩
      exact ⟨t'', bind_eq_ok.2 ⟨t', ht', ht''⟩, hI''⟩

/-! ## Widths -/

/-- Every row has a value for each column. -/
def Wide (t : Option (SqlTable V)) : Prop :=
  ∀ table, t = some table → ∀ row ∈ table.rows, row.length = table.form.columns.length

/-- What a list of rows becomes one by one. -/
theorem forall₂_of_mapM {α β ε : Type} {f : α → Except ε β} {xs : List α} {ys : List β}
    (h : xs.mapM f = .ok ys) : List.Forall₂ (fun x y => f x = .ok y) xs ys := by
  induction xs generalizing ys with
  | nil =>
      obtain rfl := Except.ok.inj (show (Except.ok [] : Except ε (List β)) = .ok ys from h)
      exact .nil
  | cons x xs ih =>
      rw [List.mapM_cons, bind_eq_ok] at h
      rcases h with ⟨y, hy, h⟩
      rcases bind_eq_ok.1 h with ⟨ys', hys, h⟩
      obtain rfl := Except.ok.inj h
      exact .cons hy (ih hys)

theorem updateRow_of_error {null : V} {form : TableForm} {column : String}
    {value : (String → V) → Except SqlError (Option V)} {row : List V} {e : SqlError}
    (h : value (form.read null row) = .error e) :
    updateRow null form column value row = .error e := by
  unfold updateRow
  rw [h]
  rfl

theorem mapM_of_error {α β ε : Type} {f : α → Except ε β} {xs : List α} {x : α} {e : ε}
    (hmem : x ∈ xs) (h : f x = .error e) {ys : List β} : xs.mapM f ≠ .ok ys := by
  intro hrun
  rcases List.forall₂_iff_get.1 (forall₂_of_mapM hrun) with ⟨hlen, hget⟩
  rcases List.mem_iff_get.1 hmem with ⟨i, rfl⟩
  have hok := hget i.1 i.2 (hlen ▸ i.2)
  cases h.symm.trans hok

/-- Rows none of which fails, each in its relation to what it was at first. -/
theorem exists_mapM_forall₂ {α β ε : Type} {f : β → Except ε β} {R : α → β → Prop} {xs : List α}
    {ys : List β} (hf : ∀ x y, R x y → ∃ z, f y = .ok z ∧ R x z) (h : List.Forall₂ R xs ys) :
    ∃ zs, ys.mapM f = .ok zs ∧ List.Forall₂ R xs zs := by
  induction h with
  | nil => exact ⟨[], rfl, .nil⟩
  | cons hxy _ ih =>
      rcases hf _ _ hxy with ⟨z, hz, hR⟩
      rcases ih with ⟨zs, hzs, hRs⟩
      refine ⟨z :: zs, ?_, .cons hR hRs⟩
      rw [List.mapM_cons, hz, hzs]
      rfl

/-! ## Several tables -/

section

variable {K : Type} [DecidableEq K]

/-- A statement on one of several tables. -/
structure SqlStatement (K V : Type) where
  table : K
  action : TableAction V

/-- The tables after a statement. -/
def execute (null : V) (tables : K → Option (SqlTable V)) (statement : SqlStatement K V) :
    Except SqlError (K → Option (SqlTable V)) := do
  return Function.update tables statement.table
    (← actTable null (tables statement.table) statement.action)

def runStatementList (null : V) (statements : List (SqlStatement K V))
    (tables : K → Option (SqlTable V)) : Except SqlError (K → Option (SqlTable V)) :=
  statements.foldlM (execute null) tables

theorem runStatementList_append {null : V} {statements statements' : List (SqlStatement K V)}
    {tables tables' : K → Option (SqlTable V)} :
    runStatementList null (statements ++ statements') tables = .ok tables' ↔
      ∃ u, runStatementList null statements tables = .ok u ∧
        runStatementList null statements' u = .ok tables' := by
  unfold runStatementList
  rw [List.foldlM_append, bind_eq_ok]

/-- The statements on one table. -/
def actionsOn (k : K) (statements : List (SqlStatement K V)) : List (TableAction V) :=
  (statements.filter fun statement => statement.table = k).map SqlStatement.action

/-- A run of statements is a run on each table. -/
theorem runStatements_eq_ok {null : V} {statements : List (SqlStatement K V)}
    {tables tables' : K → Option (SqlTable V)} :
    runStatementList null statements tables = .ok tables' ↔
      ∀ k, runTable null (actionsOn k statements) (tables k) = .ok (tables' k) := by
  unfold runStatementList
  induction statements generalizing tables with
  | nil =>
      constructor
      · intro h k
        obtain rfl := Except.ok.inj h
        rfl
      · intro h
        exact congrArg Except.ok (funext fun k => Except.ok.inj (h k))
  | cons statement statements ih =>
      have hothers : ∀ k ≠ statement.table,
          actionsOn k (statement :: statements) = actionsOn k statements := by
        intro k hk
        unfold actionsOn
        rw [List.filter_cons_of_neg (by simpa using hk.symm)]
      have hself : actionsOn statement.table (statement :: statements) =
          statement.action :: actionsOn statement.table statements := by
        unfold actionsOn
        rw [List.filter_cons_of_pos (by simp), List.map_cons]
      rw [List.foldlM_cons, bind_eq_ok]
      constructor
      · rintro ⟨u, hu, h⟩ k
        simp only [execute, bind_eq_ok] at hu
        rcases hu with ⟨t, ht, hu⟩
        obtain rfl := Except.ok.inj hu
        have hrest := ih.1 h k
        by_cases hk : k = statement.table
        · subst hk
          rw [Function.update_self] at hrest
          rw [hself]
          exact bind_eq_ok.2 ⟨t, ht, hrest⟩
        · rw [Function.update_of_ne hk] at hrest
          rw [hothers k hk]
          exact hrest
      · intro h
        have hfirst := h statement.table
        rw [hself] at hfirst
        rcases bind_eq_ok.1 hfirst with ⟨t, ht, hrest⟩
        refine ⟨Function.update tables statement.table t, ?_, ih.2 fun k => ?_⟩
        · simp only [execute, bind_eq_ok]
          exact ⟨t, ht, rfl⟩
        · by_cases hk : k = statement.table
          · subst hk
            rw [Function.update_self]
            exact hrest
          · rw [Function.update_of_ne hk, ← hothers k hk]
            exact h k

end

end Library
end StrategyWorker
