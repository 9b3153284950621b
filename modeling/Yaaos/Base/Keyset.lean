import Mathlib.Data.List.MinMax

set_option autoImplicit false

namespace Yaaos.Base.Keyset

variable {α : Type} (key : α → Int) (size : Nat)

-- A reader pages through rows that stand in falling order of a key: each page begins
-- below the key of the last row of the one before, and an empty page is the end.
def walk : Nat → List α → List α
  | 0, _ => []
  | fuel + 1, rows =>
      match (rows.take size).getLast? with
      | none => []
      | some last => rows.take size ++ walk fuel (rows.filter fun row => decide (key row < key last))

def Falling (rows : List α) : Prop := rows.Pairwise fun newer older => key older ≤ key newer

variable {key size} {rows : List α} {last : α}

theorem below_page (falling : Falling key rows) (ends : (rows.take size).getLast? = some last) :
    (rows.filter fun row => decide (key row < key last)) =
      (rows.drop size).filter fun row => decide (key row < key last) := by
  obtain ⟨front, page⟩ := List.getLast?_eq_some_iff.mp ends
  have above : (rows.take size).filter (fun row => decide (key row < key last)) = [] := by
    have ordered : Falling key (rows.take size) := falling.sublist (List.take_sublist size rows)
    rw [Falling, page, List.pairwise_append] at ordered
    refine List.filter_eq_nil_iff.mpr fun row member => ?_
    rw [decide_eq_true_eq]
    rw [page, List.mem_append, List.mem_singleton] at member
    rcases member with early | rfl
    · have bound := ordered.2.2 row early last (List.mem_singleton_self last)
      omega
    · omega
  conv_lhs => rw [← List.take_append_drop size rows, List.filter_append, above, List.nil_append]

theorem tail_bound (falling : Falling key rows) (ends : (rows.take size).getLast? = some last) (row : α)
    (member : row ∈ rows.drop size) : key row ≤ key last := by
  rw [Falling, ← List.take_append_drop size rows, List.pairwise_append] at falling
  exact falling.2.2 last (List.mem_of_getLast? ends) row member

theorem walk_sublist (fuel : Nat) (rows : List α) (falling : Falling key rows) :
    (walk key size fuel rows).Sublist rows := by
  induction fuel generalizing rows with
  | zero => exact List.nil_sublist rows
  | succ fuel ih =>
      cases ends : (rows.take size).getLast? with
      | none =>
          simp only [walk, ends]
          exact List.nil_sublist rows
      | some last =>
          have rest := ih _ (falling.sublist (List.filter_sublist (p := fun row => decide (key row < key last))))
          simp only [walk, ends]
          rw [below_page falling ends] at rest ⊢
          conv_rhs => rw [← List.take_append_drop size rows]
          exact (List.Sublist.refl _).append (rest.trans List.filter_sublist)

theorem fewer_rows (ends : (rows.take size).getLast? = some last) :
    (rows.filter fun row => decide (key row < key last)).length < rows.length := by
  refine List.length_filter_lt_length_iff_exists.mpr ⟨last, List.mem_of_mem_take (List.mem_of_getLast? ends), ?_⟩
  simp

theorem page_some (positive : 0 < size) (row : α) (member : row ∈ rows) : ∃ last, (rows.take size).getLast? = some last := by
  cases ends : (rows.take size).getLast? with
  | some last => exact ⟨last, rfl⟩
  | none =>
      rw [List.getLast?_eq_none_iff, List.take_eq_nil_iff] at ends
      rcases ends with none_ | rfl
      · omega
      · cases member

-- A row that is passed over ties with one that is read.
theorem walk_misses (fuel : Nat) (rows : List α) (positive : 0 < size) (falling : Falling key rows)
    (enough : rows.length ≤ fuel) (row : α) (member : row ∈ rows) :
    row ∈ walk key size fuel rows ∨ ∃ seen ∈ walk key size fuel rows, key seen = key row := by
  induction fuel generalizing rows with
  | zero =>
      rw [List.length_eq_zero_iff.mp (Nat.le_zero.mp enough)] at member
      cases member
  | succ fuel ih =>
      obtain ⟨last, ends⟩ := page_some positive row member
      simp only [walk, ends]
      by_cases older : key row < key last
      · have fewer : (rows.filter fun row => decide (key row < key last)).length < rows.length := fewer_rows ends
        rcases ih _ (falling.sublist List.filter_sublist) (Nat.le_of_lt_succ (fewer.trans_le enough))
          (List.mem_filter.mpr ⟨member, decide_eq_true older⟩) with read | ⟨seen, read, ties⟩
        · exact .inl (List.mem_append_right _ read)
        · exact .inr ⟨seen, List.mem_append_right _ read, ties⟩
      · rw [← List.take_append_drop size rows, List.mem_append] at member
        rcases member with page | later
        · exact .inl (List.mem_append_left _ page)
        · have bound := tail_bound falling ends row later
          exact .inr ⟨last, List.mem_append_left _ (List.mem_of_getLast? ends), by omega⟩

theorem page_parted (positive : 0 < size) (falling : Falling key rows) (ends : (rows.take size).getLast? = some last) :
    ((rows.drop size).filter fun row => decide (key row < key last)) = rows.drop size ↔
      ∀ newer older, rows[size - 1]? = some newer → rows[size]? = some older → key older < key newer := by
  have split : rows[size]? = (rows.drop size)[0]? := by rw [List.getElem?_drop, Nat.add_zero]
  cases tail : rows.drop size with
  | nil =>
      rw [tail] at split
      simp [split]
  | cons head others =>
      have ordered : Falling key (rows.drop size) := falling.sublist (List.drop_sublist size rows)
      rw [tail] at split ordered
      have long := (List.getElem?_eq_some_iff.mp split).1
      have newest : rows[size - 1]? = some last := by
        rw [← ends, List.getLast?_eq_getElem?, List.length_take, Nat.min_eq_left long.le, List.getElem?_take_of_lt (by omega)]
      constructor
      · intro all newer older before next
        cases newest.symm.trans before
        cases split.symm.trans next
        exact of_decide_eq_true (List.filter_eq_self.mp all head List.mem_cons_self)
      · intro parted
        have first := parted last head newest split
        refine List.filter_eq_self.mpr fun row member => decide_eq_true ?_
        rcases List.mem_cons.mp member with rfl | inside
        · exact first
        · exact ((List.pairwise_cons.mp ordered).1 row inside).trans_lt first

theorem walk_filter_iff (fuel : Nat) (kept : List α) (passed : α → Bool) (falling : Falling key kept) :
    walk key size fuel (kept.filter passed) = kept ↔ kept.filter passed = kept ∧ walk key size fuel kept = kept := by
  constructor
  · intro same
    have inside : (walk key size fuel (kept.filter passed)).Sublist (kept.filter passed) :=
      walk_sublist fuel _ (falling.sublist List.filter_sublist)
    rw [same] at inside
    have all := List.filter_sublist.antisymm inside
    rw [all] at same
    exact ⟨all, same⟩
  · rintro ⟨all, same⟩
    rw [all, same]

-- Nothing is passed over exactly if no page ends between two rows of one key.
theorem walk_whole_iff (fuel : Nat) (rows : List α) (positive : 0 < size) (falling : Falling key rows)
    (enough : rows.length ≤ fuel) :
    walk key size fuel rows = rows ↔ ∀ count newer older, rows[(count + 1) * size - 1]? = some newer →
      rows[(count + 1) * size]? = some older → key older < key newer := by
  induction fuel generalizing rows with
  | zero =>
      rw [List.length_eq_zero_iff.mp (Nat.le_zero.mp enough)]
      simp [walk]
  | succ fuel ih =>
      cases ends : (rows.take size).getLast? with
      | none =>
          rw [List.getLast?_eq_none_iff, List.take_eq_nil_iff] at ends
          rcases ends with none_ | rfl
          · omega
          · simp [walk]
      | some last =>
          have shorter : (rows.drop size).length ≤ fuel := by
            rw [List.length_drop]
            omega
          have rest := ih (rows.drop size) (falling.sublist (List.drop_sublist size rows)) shorter
          have whole : walk key size (fuel + 1) rows = rows ↔
              walk key size fuel ((rows.drop size).filter fun row => decide (key row < key last)) = rows.drop size := by
            simp only [walk, ends, below_page falling ends]
            conv_lhs => rhs; rw [← List.take_append_drop size rows]
            exact List.append_right_inj _
          have pages := Nat.and_forall_add_one (p := fun count => ∀ newer older, rows[(count + 1) * size - 1]? = some newer →
            rows[(count + 1) * size]? = some older → key older < key newer)
          rw [whole, walk_filter_iff fuel _ _ (falling.sublist (List.drop_sublist size rows)), page_parted positive falling ends, rest, ← pages, Nat.zero_add, Nat.one_mul]
          refine and_congr Iff.rfl (forall_congr' fun count => ?_)
          have later : 0 < (count + 1) * size := Nat.mul_pos (Nat.succ_pos count) positive
          rw [List.getElem?_drop, List.getElem?_drop, show size + ((count + 1) * size - 1) = (count + 1 + 1) * size - 1 by
            rw [Nat.succ_mul (count + 1)]; omega, show size + (count + 1) * size = (count + 1 + 1) * size by
            rw [Nat.succ_mul (count + 1)]; omega]

end Yaaos.Base.Keyset
