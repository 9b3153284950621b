import Mathlib.Data.List.MinMax
import Mathlib.Data.List.Nodup

set_option autoImplicit false

namespace Yaaos.Base

-- A table is the list of its rows under a primary key. An UPDATE rewrites every
-- row its WHERE clause selects; an ordered SELECT with LIMIT 1 reads the first
-- row by a column.
structure Table (ρ : Type) (κ : Type) (key : ρ → κ) where
  rows : List ρ
  unique : (rows.map key).Nodup

namespace Table

variable {ρ κ : Type} {key : ρ → κ}

def empty : Table ρ κ key := { rows := [], unique := List.nodup_nil }

def find? [DecidableEq κ] (table : Table ρ κ key) (k : κ) : Option ρ :=
  table.rows.find? fun row => decide (key row = k)

def update (table : Table ρ κ key) (selected : ρ → Bool) (change : ρ → ρ) (kept : ∀ row, key (change row) = key row) :
    Table ρ κ key where
  rows := table.rows.map fun row => if selected row then change row else row
  unique := by
    rw [List.map_map]
    have same : (key ∘ fun row => if selected row then change row else row) = key := by
      funext row
      simp only [Function.comp]
      split
      · exact kept row
      · rfl
    rw [same]
    exact table.unique

variable (table : Table ρ κ key)

theorem append_unique (row : ρ) (fresh : key row ∉ table.rows.map key) :
    ((table.rows ++ [row]).map key).Nodup := by
  rw [List.map_append, List.nodup_append]
  refine ⟨table.unique, List.nodup_singleton (key row), ?_⟩
  intro present member other otherMember same
  rw [List.map_singleton, List.mem_singleton] at otherMember
  rw [same, otherMember] at member
  exact fresh member

def insert? [DecidableEq κ] (table : Table ρ κ key) (row : ρ) : Option (Table ρ κ key) :=
  if taken : key row ∈ table.rows.map key then none
  else some { rows := table.rows ++ [row], unique := append_unique table row taken }

def upsert [DecidableEq κ] (table : Table ρ κ key) (row : ρ) (change : ρ → ρ) (kept : ∀ row, key (change row) = key row) :
    Table ρ κ key :=
  match table.insert? row with
  | some after => after
  | none => table.update (fun other => decide (key other = key row)) change kept

def delete (table : Table ρ κ key) (selected : ρ → Bool) : Table ρ κ key where
  rows := table.rows.filter fun row => !selected row
  unique := table.unique.sublist (List.filter_sublist.map key)

def Rewrites (R : ρ → ρ → Prop) (before after : Table ρ κ key) : Prop :=
  ∃ change : ρ → ρ, after.rows = before.rows.map change ∧ ∀ row ∈ before.rows, R row (change row)

theorem ext_rows (left right : Table ρ κ key) (same : left.rows = right.rows) : left = right := by
  cases left
  cases right
  simp only at same
  subst same
  rfl

theorem update_update (selected : ρ → Bool) (first second : ρ → ρ)
    (keptFirst : ∀ row, key (first row) = key row) (keptSecond : ∀ row, key (second row) = key row)
    (still : ∀ row, selected (first row) = selected row) :
    (table.update selected first keptFirst).update selected second keptSecond =
      table.update selected (fun row => second (first row)) fun row => (keptSecond (first row)).trans (keptFirst row) := by
  apply ext_rows
  simp only [update, List.map_map]
  apply List.map_congr_left
  intro row _
  cases hit : selected row with
  | true => simp [hit, still]
  | false => simp [hit]

theorem eq_of_key (row other : ρ) (member : row ∈ table.rows) (otherMember : other ∈ table.rows)
    (same : key row = key other) : row = other :=
  List.inj_on_of_nodup_map table.unique member otherMember same

section Find

variable [DecidableEq κ]

variable (table : Table ρ κ key)

theorem find?_some (k : κ) (row : ρ) (found : table.find? k = some row) :
    row ∈ table.rows ∧ key row = k := by
  refine ⟨List.mem_of_find?_eq_some found, ?_⟩
  simpa using List.find?_some found

theorem find?_of_mem (row : ρ) (member : row ∈ table.rows) :
    table.find? (key row) = some row := by
  cases found : table.find? (key row) with
  | none =>
      have missed := List.find?_eq_none.mp found row member
      simp at missed
  | some other =>
      obtain ⟨otherMember, same⟩ := find?_some table (key row) other found
      rw [eq_of_key table other row otherMember member same]

theorem find?_isNone (k : κ) : table.find? k = none ↔ ∀ row ∈ table.rows, key row ≠ k := by
  simp [find?, List.find?_eq_none]

theorem find?_update (selected : ρ → Bool) (change : ρ → ρ)
    (kept : ∀ row, key (change row) = key row) (k : κ) :
    (table.update selected change kept).find? k =
      (table.find? k).map fun row => if selected row then change row else row := by
  have sameKey : (fun row => decide (key row = k)) ∘ (fun row => if selected row then change row else row) =
      fun row => decide (key row = k) := by
    funext row
    by_cases chosen : selected row <;> simp [chosen, kept]
  simp only [find?, update, List.find?_map, sameKey]

theorem insert?_some (table after : Table ρ κ key) (row : ρ) (inserted : table.insert? row = some after) :
    after.rows = table.rows ++ [row] ∧ ∀ other ∈ table.rows, key other ≠ key row := by
  unfold insert? at inserted
  split at inserted
  · cases inserted
  · rename_i fresh
    cases inserted
    refine ⟨rfl, ?_⟩
    intro other member same
    exact fresh (List.mem_map.mpr ⟨other, member, same⟩)

theorem insert?_fresh (row : ρ) (fresh : ∀ other ∈ table.rows, key other ≠ key row) :
    ∃ after, table.insert? row = some after := by
  have absent : key row ∉ table.rows.map key := by
    intro member
    obtain ⟨other, held, same⟩ := List.mem_map.mp member
    exact fresh other held same
  rw [insert?, dif_neg absent]
  exact ⟨_, rfl⟩

theorem find?_eq (row : ρ) (k : κ) (member : row ∈ table.rows) (same : key row = k) :
    table.find? k = some row := by
  rw [← same]
  exact find?_of_mem table row member

theorem find?_delete (k other : κ) :
    (table.delete fun row => decide (key row = k)).find? other = if other = k then none else table.find? other := by
  rw [find?, delete, List.find?_filter]
  by_cases same : other = k
  · rw [if_pos same, List.find?_eq_none]
    intro row _
    by_cases here : key row = k <;> simp [same, here]
  · rw [if_neg same, find?]
    congr 1
    funext row
    by_cases here : key row = other
    · simp [here, same]
    · simp [here]

theorem find?_insert (table after : Table ρ κ key) (row : ρ) (k : κ) (inserted : table.insert? row = some after) :
    after.find? k = (table.find? k).or (if key row = k then some row else none) := by
  obtain ⟨rows, _⟩ := insert?_some table after row inserted
  rw [find?, rows, List.find?_append]
  by_cases same : key row = k <;> simp [find?, same]

theorem find?_change (k other : κ) (change : ρ → ρ) (kept : ∀ row, key (change row) = key row) :
    (table.update (fun row => decide (key row = k)) change kept).find? other =
      if other = k then (table.find? k).map change else table.find? other := by
  rw [find?_update]
  by_cases same : other = k
  · rw [if_pos same, same]
    cases found : table.find? k with
    | none => rfl
    | some row => simp [(find?_some table k row found).2]
  · rw [if_neg same]
    cases found : table.find? other with
    | none => rfl
    | some row => simp [(find?_some table other row found).2, same]

theorem find?_upsert (row : ρ) (change : ρ → ρ) (kept : ∀ row, key (change row) = key row)
    (k : κ) : (table.upsert row change kept).find? k =
      if k = key row then some (((table.find? (key row)).map change).getD row) else table.find? k := by
  unfold upsert
  cases inserted : table.insert? row with
  | some after =>
      have absent : table.find? (key row) = none :=
        (find?_isNone table (key row)).mpr (insert?_some table after row inserted).2
      rw [find?_insert table after row k inserted]
      by_cases same : k = key row
      · simp [same, absent]
      · simp [same, Ne.symm same]
  | none =>
      rw [find?_change]
      by_cases same : k = key row
      · rw [if_pos same, if_pos same]
        cases found : table.find? (key row) with
        | some other => rfl
        | none =>
            obtain ⟨after, success⟩ := insert?_fresh table row ((find?_isNone table (key row)).mp found)
            rw [inserted] at success
            cases success
      · rw [if_neg same, if_neg same]

end Find

section Rewrites

variable (R S : ρ → ρ → Prop)

theorem rewrites_refl (table : Table ρ κ key) (same : ∀ row ∈ table.rows, R row row) : Rewrites R table table :=
  ⟨id, by simp, same⟩

theorem rewrites_update (table : Table ρ κ key) (selected : ρ → Bool) (change : ρ → ρ)
    (kept : ∀ row, key (change row) = key row) (missed : ∀ row ∈ table.rows, selected row = false → R row row)
    (hit : ∀ row ∈ table.rows, selected row = true → R row (change row)) :
    Rewrites R table (table.update selected change kept) := by
  refine ⟨fun row => if selected row then change row else row, rfl, ?_⟩
  intro row member
  cases chosen : selected row with
  | true => simpa [chosen] using hit row member chosen
  | false => simpa [chosen] using missed row member chosen

theorem rewrites_trans (T : ρ → ρ → Prop) (first middle last : Table ρ κ key)
    (compose : ∀ row ∈ first.rows, ∀ next later, R row next → next ∈ middle.rows → S next later → T row later)
    (left : Rewrites R first middle) (right : Rewrites S middle last) : Rewrites T first last := by
  obtain ⟨change, same, related⟩ := left
  obtain ⟨again, sameAgain, relatedAgain⟩ := right
  refine ⟨again ∘ change, by rw [sameAgain, same, List.map_map], ?_⟩
  intro row member
  have present : change row ∈ middle.rows := by
    rw [same]
    exact List.mem_map_of_mem member
  exact compose row member (change row) _ (related row member) present (relatedAgain (change row) present)

variable (before after : Table ρ κ key)

theorem rewrites_forward (rewrites : Rewrites R before after) (row : ρ)
    (member : row ∈ before.rows) : ∃ next ∈ after.rows, R row next := by
  obtain ⟨change, same, related⟩ := rewrites
  refine ⟨change row, ?_, related row member⟩
  rw [same]
  exact List.mem_map_of_mem member

theorem rewrites_backward (rewrites : Rewrites R before after) (next : ρ)
    (member : next ∈ after.rows) : ∃ row ∈ before.rows, R row next := by
  obtain ⟨change, same, related⟩ := rewrites
  rw [same] at member
  obtain ⟨row, present, rfl⟩ := List.mem_map.mp member
  exact ⟨row, present, related row present⟩

theorem rewrites_row (rewrites : Rewrites R before after)
    (keeps : ∀ row next, R row next → key next = key row) (row next : ρ) (member : row ∈ before.rows)
    (nextMember : next ∈ after.rows) (same : key next = key row) : R row next := by
  obtain ⟨source, sourceMember, related⟩ := rewrites_backward R before after rewrites next nextMember
  have matched : source = row :=
    eq_of_key before source row sourceMember member ((keeps source next related).symm.trans same)
  rw [← matched]
  exact related

end Rewrites

end Table

section Ordered

variable {ρ κ : Type} [LinearOrder κ]

def firstWhere (rows : List ρ) (selected : ρ → Bool) (column : ρ → κ) : Option ρ :=
  (rows.filter selected).argmin column

theorem firstWhere_some (rows : List ρ) (selected : ρ → Bool) (column : ρ → κ) (row : ρ)
    (found : firstWhere rows selected column = some row) :
    row ∈ rows ∧ selected row = true ∧ ∀ other ∈ rows, selected other = true → column row ≤ column other := by
  have member : row ∈ rows.filter selected := List.argmin_mem found
  obtain ⟨present, hit⟩ := List.mem_filter.mp member
  refine ⟨present, hit, ?_⟩
  intro other otherPresent otherHit
  exact List.le_of_mem_argmin (List.mem_filter.mpr ⟨otherPresent, otherHit⟩) found

theorem firstWhere_none (rows : List ρ) (selected : ρ → Bool) (column : ρ → κ) :
    firstWhere rows selected column = none ↔ ∀ row ∈ rows, selected row = false := by
  rw [firstWhere, List.argmin_eq_none, List.filter_eq_nil_iff]
  simp

theorem firstWhere_eq (rows : List ρ) (selected : ρ → Bool) (column : ρ → κ) (row : ρ) (member : row ∈ rows)
    (hit : selected row = true)
    (first : ∀ other ∈ rows, selected other = true → other = row ∨ column row < column other) :
    firstWhere rows selected column = some row := by
  cases found : firstWhere rows selected column with
  | none =>
      have missed := (firstWhere_none rows selected column).mp found row member
      rw [hit] at missed
      cases missed
  | some other =>
      obtain ⟨present, otherHit, least⟩ := firstWhere_some rows selected column other found
      rcases first other present otherHit with same | later
      · rw [same]
      · exact absurd (least row member hit) (not_le.mpr later)

end Ordered

end Yaaos.Base
