import Mathlib.Algebra.Order.Ring.Rat
import Mathlib.Data.List.Induction
import Mathlib.Data.List.Perm.Basic
import Polyfast.Lib.Table

/-!
# Records kept in a table

A table is a list of rows with a primary key, and `INSERT OR REPLACE` puts a row in the place of the one with
its key. A `Mapper` writes the records of a type into the rows of a table, a value for each listed column, and
reads them back.

* `Schema.newRow`, `Schema.insertOrReplace`: what the statement does, defaults and constraints included;
* `Mapper.saveAll`, `Mapper.fetch`: saves one after the other, and a `SELECT`;
* `Mapper.Faithful`: each record is accepted, and read back from its row;
* `Faithful.roundTrips`: then a load gives under each key the record saved last;
* `records_put`: to a `Table` of records a save does the same.
-/

namespace Lib.Sql

/-- A value of a cell. -/
inductive Value
  | null
  | integer (n : ℤ)
  | real (x : ℚ)
  | text (s : String)
  deriving DecidableEq

namespace Value

/-- The order of `ORDER BY`: NULL, then numbers, then texts. -/
def le : Value → Value → Bool
  | null, _ => true
  | _, null => false
  | text s, text t => decide (s ≤ t)
  | text _, _ => false
  | _, text _ => true
  | integer m, integer n => decide (m ≤ n)
  | integer m, real y => decide ((m : ℚ) ≤ y)
  | real x, integer n => decide (x ≤ n)
  | real x, real y => decide (x ≤ y)

/-- `v = 'text'`. -/
def isText (v : Value) (s : String) : Bool := v = text s

/-- `v NOT IN ('text', …)`, which does not hold of NULL. -/
def notIn (v : Value) (texts : List String) : Bool := v ≠ null && !texts.any v.isText

end Value

/-- A row: a value for each column. -/
abbrev Row (κ : Type*) := κ → Value

/-- What `CREATE TABLE` says. A column without default has the default NULL. -/
structure Schema (κ : Type*) where
  columns : List κ
  primaryKey : κ
  notNull : κ → Bool
  default : κ → Value

namespace Schema

variable {κ : Type*} [DecidableEq κ] (s : Schema κ)

/-- The cell of a new row, from the values that the statement gives. Where no NULL may stand, `REPLACE` takes
the default for it. -/
def cell (given : κ → Option Value) (c : κ) : Value :=
  let v := (given c).getD (s.default c)
  if s.notNull c ∧ v = .null then s.default c else v

/-- The row of `INSERT OR REPLACE INTO … (names) VALUES (values)`. -/
def newRow (names : List κ) (values : List Value) : Option (Row κ) :=
  let row := s.cell ((names.zip values).lookup ·)
  if names.length = values.length ∧ ∀ c ∈ s.columns, s.notNull c → row c ≠ .null then some row else none

/-- A row is new if each of its cells is, and none is NULL that may not be. -/
theorem newRow_eq {s : Schema κ} {names : List κ} {values : List Value} {row : Row κ}
    (hlength : names.length = values.length) (hcell : ∀ c, s.cell ((names.zip values).lookup ·) c = row c)
    (hnull : ∀ c ∈ s.columns, s.notNull c → row c ≠ .null) : s.newRow names values = some row := by
  have hrow : s.cell ((names.zip values).lookup ·) = row := funext hcell
  rw [newRow, hrow]
  exact if_pos ⟨hlength, hnull⟩

/-- The row replaces the one with its key. -/
def replace (rows : List (Row κ)) (row : Row κ) : List (Row κ) :=
  rows.filter (fun r => ¬(r s.primaryKey = row s.primaryKey ∧ row s.primaryKey ≠ .null)) ++ [row]

def insertOrReplace (names : List κ) (values : List Value) (rows : List (Row κ)) : Option (List (Row κ)) :=
  (s.newRow names values).map (s.replace rows)

end Schema

/-- How records are kept in a table: the columns of the INSERT, the values of a record and of a time stamp in
their order, and what is made of a row. -/
structure Mapper (κ α : Type*) where
  schema : Schema κ
  columns : List κ
  values : α → String → List Value
  read : Row κ → Option α

/-- The record saved last under a key. -/
def lastSaved {α : Type*} (key : α → String) (history : List (α × String)) (k : String) : Option α :=
  (history.reverse.map Prod.fst).find? (key · = k)

namespace Mapper

variable {κ α : Type*} [DecidableEq κ] (m : Mapper κ α)

def save (rows : List (Row κ)) (e : α × String) : Option (List (Row κ)) :=
  m.schema.insertOrReplace m.columns (m.values e.1 e.2) rows

/-- Saves, one after the other, in an empty table. -/
def saveAll (history : List (α × String)) : Option (List (Row κ)) := history.foldlM m.save []

/-- `SELECT * FROM … WHERE … ORDER BY …`, and the records of the rows. -/
def fetch (keep : Row κ → Bool) (order : Row κ → Row κ → Bool) (rows : List (Row κ)) : Option (List α) :=
  ((rows.filter keep).mergeSort order).mapM m.read

/-- **Round trip.** Saves go through, and then the load gives under each key the record saved last, if that is
one of the records it is for, and no other. -/
def RoundTrips (key : α → String) (ok : α → Prop) (kept : α → Bool) (load : List (Row κ) → List α) : Prop :=
  ∀ history : List (α × String), (∀ e ∈ history, ok e.1) → ∃ rows, m.saveAll history = some rows ∧
    ∀ k, (load rows).filter (key · = k) = ((lastSaved key history k).filter kept).toList

/-- Of two saves under one key the second one counts. -/
theorem RoundTrips.twice {m : Mapper κ α} {key : α → String} {ok : α → Prop} {kept : α → Bool}
    {load : List (Row κ) → List α} (h : m.RoundTrips key ok kept load) {a b : α} (ha : ok a) (hb : ok b)
    (stamp stamp' : String) : ∃ rows, m.saveAll [(a, stamp), (b, stamp')] = some rows ∧
      (load rows).filter (key · = key b) = if kept b then [b] else [] := by
  obtain ⟨rows, hsaves, hload⟩ := h [(a, stamp), (b, stamp')] (by simp [ha, hb])
  refine ⟨rows, hsaves, (hload (key b)).trans ?_⟩
  have hlast : lastSaved key [(a, stamp), (b, stamp')] (key b) = some b := by
    simp [lastSaved]
  rw [hlast]
  cases hk : kept b <;> simp [hk]

/-- The table accepts every record, as the row `row` of it, and the record is read back from the row. -/
structure Faithful (row : α → String → Row κ) (key : α → String) (ok : α → Prop) : Prop where
  accepted : ∀ a stamp, m.schema.newRow m.columns (m.values a stamp) = some (row a stamp)
  read : ∀ a stamp, ok a → m.read (row a stamp) = some a
  key : ∀ a stamp, row a stamp m.schema.primaryKey = .text (key a)

/-! ### The records of a table -/

/-- What a save does to the records. -/
def put {ι : Type*} [DecidableEq ι] (key : α → ι) (records : List α) (a : α) : List α :=
  records.filter (key · ≠ key a) ++ [a]

/-- The rows are those of the records. -/
def Holds (row : α → String → Row κ) (ok : α → Prop) (rows : List (Row κ)) (records : List α) : Prop :=
  List.Forall₂ (fun r a => ok a ∧ ∃ stamp, r = row a stamp) rows records

variable {m} {row : α → String → Row κ} {key : α → String} {ok : α → Prop} {rows : List (Row κ)} {records : List α}

section Put

variable {ι : Type*} [DecidableEq ι] {id : α → ι} {records' : List α}

theorem put_perm (h : records.Perm records') (a : α) : (put id records a).Perm (put id records' a) :=
  (h.filter _).append_right [a]

theorem map_put {β : Type*} {j : β → String} {g : α → β} (h : ∀ a b, j (g a) = j (g b) ↔ id a = id b)
    (a : α) : (put id records a).map g = put j (records.map g) (g a) := by
  unfold put
  rw [List.map_append, List.map_singleton, List.filter_map]
  congr 2
  refine List.filter_congr fun b _ => ?_
  simp [h b a]

/-- To a table of records a save does the same. -/
theorem records_put (t : Table id) (a : α) : (t.put a).records.Perm (put id t.records a) := by
  have hnodup : ∀ t : Table id, t.records.Nodup := fun t =>
    List.Nodup.of_map id t.nodup_map_key
  refine (List.perm_ext_iff_of_nodup (hnodup _) ?_).mpr fun b => ?_
  · refine List.Nodup.append ((hnodup t).filter _) (List.nodup_singleton a) ?_
    intro b hb ha
    rw [List.mem_singleton.mp ha] at hb
    simp at hb
  · rw [Table.mem_records, Table.get?_put, put, List.mem_append, List.mem_filter, List.mem_singleton]
    by_cases hk : id a = id b
    · simp [hk, eq_comm]
    · have hne : b ≠ a := fun h => hk (h ▸ rfl)
      simp [hk, Ne.symm hk, hne, Table.mem_records]

end Put

theorem put_filter (k : String) (a : α) :
    (put key records a).filter (key · = k) = if key a = k then [a] else records.filter (key · = k) := by
  unfold put
  rw [List.filter_append, List.filter_filter]
  by_cases hk : key a = k
  · subst hk
    rw [if_pos rfl, List.filter_eq_nil_iff.mpr]
    · simp
    · simp
  · rw [if_neg hk, List.filter_congr (q := (key · = k))]
    · simp [hk]
    · intro b _
      by_cases hb : key b = k
      · simp [hb, Ne.symm hk]
      · simp [hb]

/-- Under each key there is the record saved last. -/
theorem foldl_put_filter (history : List (α × String)) (k : String) :
    ((history.map Prod.fst).foldl (put key) []).filter (key · = k) = (lastSaved key history k).toList := by
  induction history using List.reverseRecOn with
  | nil => rfl
  | append_singleton history e ih =>
    rw [List.map_append, List.foldl_append, List.map_singleton, List.foldl_cons, List.foldl_nil, put_filter, ih]
    unfold lastSaved
    rw [List.reverse_append, List.reverse_singleton, List.map_append, List.map_singleton, List.singleton_append,
      List.find?_cons]
    by_cases hk : key e.1 = k
    · simp [hk]
    · simp [hk]

namespace Faithful

variable (h : m.Faithful row key ok)
include h

/-- **One save.** -/
theorem save (hr : Holds row ok rows records) {e : α × String} (he : ok e.1) :
    ∃ rows', m.save rows e = some rows' ∧ Holds row ok rows' (put key records e.1) := by
  refine ⟨m.schema.replace rows (row e.1 e.2), ?_, ?_⟩
  · rw [Mapper.save, Schema.insertOrReplace, h.accepted, Option.map_some]
  · refine List.rel_append (List.rel_filter ?_ hr) (.cons ⟨he, e.2, rfl⟩ .nil)
    rintro _ a ⟨-, stamp, rfl⟩
    simp [h.key]

/-- **A run of saves.** -/
theorem saves (history : List (α × String)) (he : ∀ e ∈ history, ok e.1) :
    ∀ rows records, Holds row ok rows records → ∃ rows', history.foldlM m.save rows = some rows' ∧
      Holds row ok rows' ((history.map Prod.fst).foldl (put key) records) := by
  induction history with
  | nil => exact fun rows records hr => ⟨rows, rfl, hr⟩
  | cons e history ih =>
    intro rows records hr
    obtain ⟨he, hrest⟩ := List.forall_mem_cons.mp he
    obtain ⟨rows', hsave, hr'⟩ := h.save hr he
    obtain ⟨rows'', hsaves, hr''⟩ := ih hrest rows' _ hr'
    refine ⟨rows'', ?_, hr''⟩
    rw [List.foldlM_cons, hsave]
    exact hsaves

theorem mapM_read (hr : Holds row ok rows records) : rows.mapM m.read = some records := by
  induction hr with
  | nil => rfl
  | cons ha _ ih =>
    obtain ⟨ha, stamp, rfl⟩ := ha
    rw [List.mapM_cons, h.read _ stamp ha, ih]
    rfl

/-- **A load** gives the records that its condition selects, in some order. -/
theorem fetch (keep : Row κ → Bool) (kept : α → Bool) (hkeep : ∀ a stamp, keep (row a stamp) = kept a)
    (order : Row κ → Row κ → Bool) (hr : Holds row ok rows records) :
    ∃ loaded, m.fetch keep order rows = some loaded ∧ loaded.Perm (records.filter kept) := by
  have hselect : Holds row ok (rows.filter keep) (records.filter kept) := by
    refine List.rel_filter ?_ hr
    rintro _ a ⟨-, stamp, rfl⟩
    exact (congrArg (· = true) (hkeep a stamp)).to_iff
  obtain ⟨loaded, hload, hperm⟩ := List.perm_comp_forall₂ (List.mergeSort_perm _ order) hselect
  exact ⟨loaded, h.mapM_read hload, hperm⟩

theorem roundTrips {keep : Row κ → Bool} {kept : α → Bool} (hkeep : ∀ a stamp, keep (row a stamp) = kept a)
    (order : Row κ → Row κ → Bool) : m.RoundTrips key ok kept fun rows => (m.fetch keep order rows).getD [] := by
  intro history hok
  obtain ⟨rows, hsaves, hr⟩ := h.saves history hok [] [] .nil
  refine ⟨rows, hsaves, fun k => ?_⟩
  obtain ⟨loaded, hload, hperm⟩ := h.fetch keep kept hkeep order hr
  have hk : (loaded.filter (key · = k)).Perm ((lastSaved key history k).filter kept).toList := by
    rw [Option.toList_filter, ← foldl_put_filter, List.filter_comm]
    exact hperm.filter _
  dsimp only
  rw [hload, Option.getD_some]
  cases hlast : (lastSaved key history k).filter kept with
  | none =>
    rw [hlast] at hk
    exact List.perm_nil.mp hk
  | some a =>
    rw [hlast] at hk
    exact List.perm_singleton.mp hk

end Faithful

end Mapper

end Lib.Sql
