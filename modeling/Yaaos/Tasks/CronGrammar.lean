import Mathlib.Data.Set.Basic
import Yaaos.Tasks.Cron

set_option autoImplicit false

namespace Yaaos.Tasks

open Yaaos.Base

section Texts

variable (mark : Nat)

theorem splitOn_core (letters : PyText) : splitOn mark letters = letters.splitOn mark := by
  induction letters with
  | nil => rfl
  | cons letter rest ih =>
      rw [List.splitOn_cons_eq_if_modifyHead, ← ih]
      by_cases same : letter = mark
      · rw [if_pos (by rw [same]; exact beq_self_eq_true mark)]
        exact if_pos same
      · rw [if_neg (by simpa using same)]
        refine (if_neg same).trans ?_
        rw [← splitOn]
        cases parts : splitOn mark rest with
        | nil =>
            rw [ih] at parts
            exact absurd parts (List.splitOn_ne_nil mark rest)
        | cons part others => rfl

theorem splitOn_whole (letters : PyText) (whole : mark ∉ letters) : splitOn mark letters = [letters] := by
  rw [splitOn_core, List.splitOn_eq_singleton whole]

theorem splitOn_parts (part rest : PyText) (whole : mark ∉ part) :
    splitOn mark (part ++ mark :: rest) = part :: splitOn mark rest := by
  rw [splitOn_core, splitOn_core, List.splitOn_append_cons_self_of_not_mem whole]

theorem splitOnce_cons (mark letter : Nat) (rest : PyText) :
    splitOnce mark (letter :: rest) =
      if letter = mark then some ([], rest)
      else (splitOnce mark rest).map fun parts => (letter :: parts.1, parts.2) := by
  unfold splitOnce
  by_cases same : letter = mark
  · rw [if_pos same, List.dropWhile_cons_of_neg (by simpa using same), List.takeWhile_cons_of_neg (by simpa using same)]
  · rw [if_neg same, List.dropWhile_cons_of_pos (by simpa using same), List.takeWhile_cons_of_pos (by simpa using same)]
    cases rest.dropWhile fun letter => letter ≠ mark with
    | nil => rfl
    | cons other others => rfl

theorem splitOnce_none (letters : PyText) : splitOnce mark letters = none ↔ mark ∉ letters := by
  induction letters with
  | nil => simp [splitOnce]
  | cons letter rest ih =>
      rw [splitOnce_cons]
      by_cases same : letter = mark
      · simp [same]
      · simp [same, Ne.symm same, ih]

theorem splitOnce_parts (part rest : PyText) (whole : mark ∉ part) :
    splitOnce mark (part ++ mark :: rest) = some (part, rest) := by
  induction part with
  | nil => rw [List.nil_append, splitOnce_cons, if_pos rfl]
  | cons letter others ih =>
      rw [List.cons_append, splitOnce_cons, if_neg fun same => whole (by rw [same]; exact List.mem_cons_self),
        ih fun member => whole (List.mem_cons_of_mem _ member)]
      rfl

theorem splitOnce_some (letters part rest : PyText) (split : splitOnce mark letters = some (part, rest)) :
    letters = part ++ mark :: rest ∧ mark ∉ part := by
  induction letters generalizing part with
  | nil => cases split
  | cons letter others ih =>
      rw [splitOnce_cons] at split
      by_cases same : letter = mark
      · rw [if_pos same] at split
        cases split
        exact ⟨by rw [same]; rfl, List.not_mem_nil⟩
      · rw [if_neg same] at split
        obtain ⟨⟨front, back⟩, found, shaped⟩ := Option.map_eq_some_iff.mp split
        cases shaped
        obtain ⟨whole, absent⟩ := ih front found
        refine ⟨by rw [whole]; rfl, ?_⟩
        intro member
        rcases List.mem_cons.mp member with isMark | later
        · exact same isMark.symm
        · exact absent later

theorem mem_rangeOf (start stop step value : Int) :
    value ∈ rangeOf start stop step ↔ start ≤ value ∧ value ≤ stop ∧ (value - start) % step = 0 := by
  have offsets (offset : Int) : (offset ∈ do
      let count ← List.range (stop - start + 1).toNat
      pure (count : Int)) ↔ 0 ≤ offset ∧ offset ≤ stop - start := by
    simp only [List.bind_eq_flatMap, List.mem_flatMap, List.mem_range, List.pure_def, List.mem_singleton]
    constructor
    · rintro ⟨count, inside, rfl⟩
      omega
    · rintro ⟨low, high⟩
      exact ⟨offset.toNat, by omega, by omega⟩
  unfold rangeOf
  rw [List.mem_filterMap]
  constructor
  · rintro ⟨offset, inside, kept⟩
    obtain ⟨low, high⟩ := (offsets offset).mp inside
    split at kept
    · next even =>
        cases kept
        refine ⟨by omega, by omega, ?_⟩
        have same : start + offset - start = offset := by omega
        rwa [same]
    · cases kept
  · rintro ⟨low, high, even⟩
    refine ⟨value - start, (offsets _).mpr ⟨by omega, by omega⟩, ?_⟩
    rw [if_pos even]
    congr 1
    omega

end Texts

section Grammar

-- How the numbers of an expression are written: a first number stands alone or begins a
-- range, the later ones end a range or give a step.
@[ext] structure Numerals where
  first : PyText → Option Int
  later : PyText → Option Int
  firstWhole : ∀ text value, first text = some value → text ≠ [42] ∧ 44 ∉ text ∧ 45 ∉ text ∧ 47 ∉ text
  laterWhole : ∀ text value, later text = some value → 44 ∉ text ∧ 47 ∉ text

variable (numerals : Numerals) (lo hi : Int)

inductive BaseSpells : PyText → Int → Int → Prop where
  | every : BaseSpells [42] lo hi
  | value (text : PyText) (value : Int) (written : numerals.first text = some value) (above : lo ≤ value)
      (below : value ≤ hi) : BaseSpells text value value
  | range (startText stopText : PyText) (start stop : Int) (begins : numerals.first startText = some start)
      (ends : numerals.later stopText = some stop) (above : lo ≤ start) (ordered : start ≤ stop) (below : stop ≤ hi) :
      BaseSpells (startText ++ 45 :: stopText) start stop

inductive PartSpells : PyText → Set Int → Prop where
  | whole (base : PyText) (start stop : Int) (spelled : BaseSpells numerals lo hi base start stop) :
      PartSpells base {value | start ≤ value ∧ value ≤ stop ∧ (value - start) % 1 = 0}
  | stepped (base stepText : PyText) (start stop step : Int) (spelled : BaseSpells numerals lo hi base start stop)
      (written : numerals.later stepText = some step) (positive : 1 ≤ step) :
      PartSpells (base ++ 47 :: stepText) {value | start ≤ value ∧ value ≤ stop ∧ (value - start) % step = 0}

inductive FieldSpells : PyText → Set Int → Prop where
  | one (part : PyText) (values : Set Int) (spelled : PartSpells numerals lo hi part values) : FieldSpells part values
  | more (part rest : PyText) (values others : Set Int) (spelled : PartSpells numerals lo hi part values)
      (follows : FieldSpells rest others) : FieldSpells (part ++ 44 :: rest) (values ∪ others)

structure CronSets where
  minute : Set Int
  hour : Set Int
  dom : Set Int
  month : Set Int
  dow : Set Int

def CronExpr.sets (cron : CronExpr) : CronSets where
  minute := {value | value ∈ cron.minute}
  hour := {value | value ∈ cron.hour}
  dom := {value | value ∈ cron.dom}
  month := {value | value ∈ cron.month}
  dow := {value | value ∈ cron.dow}

def ExprSpells (expr : PyText) (sets : CronSets) : Prop :=
  ∃ minute hour dom month dow, fieldsOf expr = [minute, hour, dom, month, dow] ∧
    FieldSpells numerals 0 59 minute sets.minute ∧ FieldSpells numerals 0 23 hour sets.hour ∧
    FieldSpells numerals 1 31 dom sets.dom ∧ FieldSpells numerals 1 12 month sets.month ∧
    FieldSpells numerals 0 6 dow sets.dow

def baseWith (base : PyText) (step : Int) : Option (List Int) :=
  if base = [42] then some (rangeOf lo hi step)
  else match splitOnce 45 base with
    | some (startText, stopText) => match numerals.first startText, numerals.later stopText with
        | some start, some stop => if start < lo ∨ stop > hi ∨ start > stop then none else some (rangeOf start stop step)
        | _, _ => none
    | none => match numerals.first base with
        | some value => if value < lo ∨ value > hi then none else some [value]
        | none => none

def partWith (part : PyText) : Option (List Int) :=
  match splitOnce 47 part with
  | none => baseWith numerals lo hi part 1
  | some (base, stepText) => match numerals.later stepText with
      | some step => if step ≤ 0 then none else baseWith numerals lo hi base step
      | none => none

def fieldWith (field : PyText) : Option (List Int) :=
  ((splitOn 44 field).mapM fun part => partWith numerals lo hi part).map List.flatten

theorem value_bounds (value step other : Int) :
    other ∈ [value] ↔ value ≤ other ∧ other ≤ value ∧ (other - value) % step = 0 := by
  rw [List.mem_singleton]
  constructor
  · rintro rfl
    rw [Int.sub_self, Int.zero_emod]
    exact ⟨le_rfl, le_rfl, rfl⟩
  · rintro ⟨low, high, _⟩
    omega

theorem base_read (base : PyText) (start stop step : Int) (spelled : BaseSpells numerals lo hi base start stop) :
    ∃ values, baseWith numerals lo hi base step = some values ∧
      ∀ value, value ∈ values ↔ start ≤ value ∧ value ≤ stop ∧ (value - start) % step = 0 := by
  cases spelled with
  | every => exact ⟨_, if_pos rfl, mem_rangeOf lo hi step⟩
  | value _ _ written above below =>
      obtain ⟨notStar, _, single, _⟩ := numerals.firstWhole base start written
      refine ⟨[start], ?_, value_bounds start step⟩
      unfold baseWith
      rw [if_neg notStar, (splitOnce_none 45 base).mpr single]
      simp only [written]
      exact if_neg (by omega)
  | range startText stopText start stop begins ends above ordered below =>
      obtain ⟨notStar, _, single, _⟩ := numerals.firstWhole startText start begins
      refine ⟨_, ?_, mem_rangeOf start stop step⟩
      unfold baseWith
      have ranged : startText ++ 45 :: stopText ≠ [42] := by
        intro same
        have member : 45 ∈ [42] := same ▸ List.mem_append_right startText List.mem_cons_self
        exact absurd member (by decide)
      rw [if_neg ranged, splitOnce_parts 45 startText stopText single]
      simp only [begins, ends]
      exact if_neg (by omega)

theorem base_spells (base : PyText) (step : Int) (values : List Int)
    (read : baseWith numerals lo hi base step = some values) :
    ∃ start stop, BaseSpells numerals lo hi base start stop := by
  unfold baseWith at read
  by_cases star : base = [42]
  · rw [star]
    exact ⟨lo, hi, .every⟩
  · rw [if_neg star] at read
    cases split : splitOnce 45 base with
    | none =>
        rw [split] at read
        dsimp only at read
        cases written : numerals.first base with
        | none =>
            rw [written] at read
            cases read
        | some value =>
            rw [written] at read
            dsimp only at read
            by_cases outside : value < lo ∨ value > hi
            · rw [if_pos outside] at read
              cases read
            · exact ⟨value, value, .value base value written (by omega) (by omega)⟩
    | some parts =>
        obtain ⟨startText, stopText⟩ := parts
        obtain ⟨rfl, _⟩ := splitOnce_some 45 base startText stopText split
        rw [split] at read
        dsimp only at read
        cases begins : numerals.first startText with
        | none =>
            rw [begins] at read
            cases read
        | some start =>
            cases ends : numerals.later stopText with
            | none =>
                rw [begins, ends] at read
                cases read
            | some stop =>
                rw [begins, ends] at read
                dsimp only at read
                by_cases outside : start < lo ∨ stop > hi ∨ start > stop
                · rw [if_pos outside] at read
                  cases read
                · exact ⟨start, stop, .range startText stopText start stop begins ends (by omega) (by omega) (by omega)⟩

theorem base_whole (base : PyText) (start stop : Int) (spelled : BaseSpells numerals lo hi base start stop) :
    44 ∉ base ∧ 47 ∉ base := by
  cases spelled with
  | every => exact ⟨by decide, by decide⟩
  | value _ _ written above below =>
      obtain ⟨_, comma, _, slash⟩ := numerals.firstWhole base start written
      exact ⟨comma, slash⟩
  | range startText stopText start stop begins ends above ordered below =>
      obtain ⟨_, comma, _, slash⟩ := numerals.firstWhole startText start begins
      obtain ⟨comma', slash'⟩ := numerals.laterWhole stopText stop ends
      simp [comma, slash, comma', slash']

theorem part_whole (part : PyText) (values : Set Int) (spelled : PartSpells numerals lo hi part values) : 44 ∉ part := by
  cases spelled with
  | whole _ start stop spelled => exact (base_whole numerals lo hi part start stop spelled).1
  | stepped base stepText start stop step spelled written positive =>
      have comma := (base_whole numerals lo hi base start stop spelled).1
      have comma' := (numerals.laterWhole stepText step written).1
      simp [comma, comma']

theorem part_iff (part : PyText) (values : Set Int) :
    PartSpells numerals lo hi part values ↔
      ∃ read, partWith numerals lo hi part = some read ∧ values = {value | value ∈ read} := by
  constructor
  · intro spelled
    cases spelled with
    | whole _ start stop spelled =>
        obtain ⟨read, same, members⟩ := base_read numerals lo hi part start stop 1 spelled
        have unstepped := (splitOnce_none 47 part).mpr (base_whole numerals lo hi part start stop spelled).2
        refine ⟨read, ?_, Set.ext fun value => (members value).symm⟩
        rw [partWith, unstepped]
        exact same
    | stepped base stepText start stop step spelled written positive =>
        obtain ⟨read, same, members⟩ := base_read numerals lo hi base start stop step spelled
        have split := splitOnce_parts 47 base stepText (base_whole numerals lo hi base start stop spelled).2
        refine ⟨read, ?_, Set.ext fun value => (members value).symm⟩
        rw [partWith, split]
        simp only [written]
        rw [if_neg (by omega)]
        exact same
  · rintro ⟨read, same, rfl⟩
    unfold partWith at same
    cases split : splitOnce 47 part with
    | none =>
        rw [split] at same
        dsimp only at same
        obtain ⟨start, stop, spelled⟩ := base_spells numerals lo hi part 1 read same
        obtain ⟨other, again, members⟩ := base_read numerals lo hi part start stop 1 spelled
        rw [same] at again
        cases again
        have denoted : {value | value ∈ read} = _ := Set.ext members
        rw [denoted]
        exact .whole part start stop spelled
    | some parts =>
        obtain ⟨base, stepText⟩ := parts
        obtain ⟨rfl, _⟩ := splitOnce_some 47 part base stepText split
        rw [split] at same
        dsimp only at same
        cases written : numerals.later stepText with
        | none =>
            rw [written] at same
            cases same
        | some step =>
            rw [written] at same
            dsimp only at same
            by_cases negative : step ≤ 0
            · rw [if_pos negative] at same
              cases same
            · rw [if_neg negative] at same
              obtain ⟨start, stop, spelled⟩ := base_spells numerals lo hi base step read same
              obtain ⟨other, again, members⟩ := base_read numerals lo hi base start stop step spelled
              rw [same] at again
              cases again
              have denoted : {value | value ∈ read} = _ := Set.ext members
              rw [denoted]
              exact .stepped base stepText start stop step spelled written (by omega)

theorem fieldWith_one (part : PyText) (whole : 44 ∉ part) :
    fieldWith numerals lo hi part = partWith numerals lo hi part := by
  rw [fieldWith, splitOn_whole 44 part whole, List.mapM_cons, List.mapM_nil]
  cases partWith numerals lo hi part with
  | none => rfl
  | some values => exact congrArg some (List.append_nil values)

theorem fieldWith_more (part rest : PyText) (whole : 44 ∉ part) :
    fieldWith numerals lo hi (part ++ 44 :: rest) =
      (partWith numerals lo hi part).bind fun values => (fieldWith numerals lo hi rest).map fun others => values ++ others := by
  rw [fieldWith, splitOn_parts 44 part rest whole, List.mapM_cons]
  cases partWith numerals lo hi part with
  | none => rfl
  | some values =>
      rw [fieldWith]
      cases (splitOn 44 rest).mapM fun part => partWith numerals lo hi part with
      | none => rfl
      | some others => rfl

variable (field : PyText)

theorem field_read (values : Set Int) (spelled : FieldSpells numerals lo hi field values) :
    ∃ read, fieldWith numerals lo hi field = some read ∧ values = {value | value ∈ read} := by
  induction spelled with
  | one part values spelled =>
      rw [fieldWith_one numerals lo hi part (part_whole numerals lo hi part values spelled)]
      exact (part_iff numerals lo hi part values).mp spelled
  | more part rest values others spelled _ ih =>
      rw [fieldWith_more numerals lo hi part rest (part_whole numerals lo hi part values spelled)]
      obtain ⟨mine, same, rfl⟩ := (part_iff numerals lo hi part values).mp spelled
      obtain ⟨behind, more, rfl⟩ := ih
      refine ⟨mine ++ behind, by rw [same, more]; rfl, ?_⟩
      ext value
      exact List.mem_append.symm

theorem field_spells (read : List Int) (same : fieldWith numerals lo hi field = some read) :
    FieldSpells numerals lo hi field {value | value ∈ read} := by
  induction length : field.length using Nat.strong_induction_on generalizing field read with
  | _ size ih =>
      cases split : splitOnce 44 field with
      | none =>
          have whole := (splitOnce_none 44 field).mp split
          rw [fieldWith_one numerals lo hi field whole] at same
          exact .one field _ ((part_iff numerals lo hi field _).mpr ⟨read, same, rfl⟩)
      | some parts =>
          obtain ⟨part, rest⟩ := parts
          obtain ⟨rfl, whole⟩ := splitOnce_some 44 field part rest split
          rw [fieldWith_more numerals lo hi part rest whole] at same
          obtain ⟨values, mine, joined⟩ := Option.bind_eq_some_iff.mp same
          obtain ⟨others, behind, rfl⟩ := Option.map_eq_some_iff.mp joined
          have shorter : rest.length < size := by
            rw [← length, List.length_append, List.length_cons]
            omega
          have spelled := (part_iff numerals lo hi part _).mpr ⟨values, mine, rfl⟩
          have follows := ih rest.length shorter rest others behind rfl
          have joined : {value | value ∈ values ++ others} = {value | value ∈ values} ∪ {value | value ∈ others} := by
            ext value
            exact List.mem_append
          rw [joined]
          exact .more part rest _ _ spelled follows

theorem field_iff (values : Set Int) :
    FieldSpells numerals lo hi field values ↔
      ∃ read, fieldWith numerals lo hi field = some read ∧ values = {value | value ∈ read} := by
  constructor
  · exact field_read numerals lo hi field values
  · rintro ⟨read, same, rfl⟩
    exact field_spells numerals lo hi field read same

theorem part_bounded (part : PyText) (values : Set Int) (wide : lo ≤ hi) (spelled : PartSpells numerals lo hi part values) :
    values.Nonempty ∧ ∀ value ∈ values, lo ≤ value ∧ value ≤ hi := by
  have based (base : PyText) (start stop : Int) (spelled : BaseSpells numerals lo hi base start stop) :
      lo ≤ start ∧ start ≤ stop ∧ stop ≤ hi := by
    cases spelled with
    | every => exact ⟨le_rfl, wide, le_rfl⟩
    | value _ _ written above below => exact ⟨above, le_rfl, below⟩
    | range _ _ _ _ begins ends above ordered below => exact ⟨above, ordered, below⟩
  cases spelled with
  | whole _ start stop spelled =>
      obtain ⟨above, ordered, below⟩ := based part start stop spelled
      refine ⟨⟨start, le_rfl, ordered, by rw [Int.sub_self, Int.zero_emod]⟩, ?_⟩
      rintro value ⟨low, high, _⟩
      exact ⟨by omega, by omega⟩
  | stepped base stepText start stop step spelled written positive =>
      obtain ⟨above, ordered, below⟩ := based base start stop spelled
      refine ⟨⟨start, le_rfl, ordered, by rw [Int.sub_self, Int.zero_emod]⟩, ?_⟩
      rintro value ⟨low, high, _⟩
      exact ⟨by omega, by omega⟩

theorem field_bounded (values : Set Int) (wide : lo ≤ hi) (spelled : FieldSpells numerals lo hi field values) :
    values.Nonempty ∧ ∀ value ∈ values, lo ≤ value ∧ value ≤ hi := by
  induction spelled with
  | one part values spelled => exact part_bounded numerals lo hi part values wide spelled
  | more part rest values others spelled _ ih =>
      obtain ⟨filled, inside⟩ := part_bounded numerals lo hi part values wide spelled
      refine ⟨filled.inl, ?_⟩
      rintro value (mine | behind)
      · exact inside value mine
      · exact ih.2 value behind

end Grammar

section Reading

variable (numerals : Numerals)

def exprWith (expr : PyText) : Option CronExpr :=
  match fieldsOf expr with
  | [minute, hour, dom, month, dow] => do
      let minute ← fieldWith numerals 0 59 minute
      let hour ← fieldWith numerals 0 23 hour
      let dom ← fieldWith numerals 1 31 dom
      let month ← fieldWith numerals 1 12 month
      let dow ← fieldWith numerals 0 6 dow
      some { minute := minute, hour := hour, dom := dom, month := month, dow := dow }
  | _ => none

theorem exprWith_some (expr : PyText) (cron : CronExpr) :
    exprWith numerals expr = some cron ↔
      ∃ minute hour dom month dow, fieldsOf expr = [minute, hour, dom, month, dow] ∧
        fieldWith numerals 0 59 minute = some cron.minute ∧ fieldWith numerals 0 23 hour = some cron.hour ∧
        fieldWith numerals 1 31 dom = some cron.dom ∧ fieldWith numerals 1 12 month = some cron.month ∧
        fieldWith numerals 0 6 dow = some cron.dow := by
  constructor
  · intro read
    unfold exprWith at read
    split at read
    · next minute hour dom month dow fields =>
        obtain ⟨_, first, read⟩ := Option.bind_eq_some_iff.mp read
        obtain ⟨_, second, read⟩ := Option.bind_eq_some_iff.mp read
        obtain ⟨_, third, read⟩ := Option.bind_eq_some_iff.mp read
        obtain ⟨_, fourth, read⟩ := Option.bind_eq_some_iff.mp read
        obtain ⟨_, fifth, read⟩ := Option.bind_eq_some_iff.mp read
        cases read
        exact ⟨minute, hour, dom, month, dow, fields, first, second, third, fourth, fifth⟩
    · cases read
  · rintro ⟨minute, hour, dom, month, dow, fields, first, second, third, fourth, fifth⟩
    rw [exprWith, fields]
    simp only [first, second, third, fourth, fifth]
    rfl

theorem expr_iff (expr : PyText) (sets : CronSets) :
    ExprSpells numerals expr sets ↔ ∃ cron, exprWith numerals expr = some cron ∧ sets = cron.sets := by
  constructor
  · rintro ⟨minute, hour, dom, month, dow, fields, first, second, third, fourth, fifth⟩
    obtain ⟨minutes, readFirst, sameFirst⟩ := (field_iff numerals 0 59 minute _).mp first
    obtain ⟨hours, readSecond, sameSecond⟩ := (field_iff numerals 0 23 hour _).mp second
    obtain ⟨doms, readThird, sameThird⟩ := (field_iff numerals 1 31 dom _).mp third
    obtain ⟨months, readFourth, sameFourth⟩ := (field_iff numerals 1 12 month _).mp fourth
    obtain ⟨dows, readFifth, sameFifth⟩ := (field_iff numerals 0 6 dow _).mp fifth
    refine ⟨⟨minutes, hours, doms, months, dows⟩, ?_, ?_⟩
    · apply (exprWith_some numerals expr _).mpr
      exact ⟨minute, hour, dom, month, dow, fields, readFirst, readSecond, readThird, readFourth, readFifth⟩
    · cases sets
      dsimp only at sameFirst sameSecond sameThird sameFourth sameFifth
      rw [sameFirst, sameSecond, sameThird, sameFourth, sameFifth]
      rfl
  · rintro ⟨cron, read, rfl⟩
    obtain ⟨minute, hour, dom, month, dow, fields, first, second, third, fourth, fifth⟩ :=
      (exprWith_some numerals expr cron).mp read
    exact ⟨minute, hour, dom, month, dow, fields, field_spells numerals 0 59 minute _ first,
      field_spells numerals 0 23 hour _ second, field_spells numerals 1 31 dom _ third,
      field_spells numerals 1 12 month _ fourth, field_spells numerals 0 6 dow _ fifth⟩

end Reading

section Numbers

def numbersOfBase (base : PyText) : List PyText :=
  if base = [42] then []
  else match splitOnce 45 base with
    | some (startText, stopText) => [startText, stopText]
    | none => [base]

def numbersOfPart (part : PyText) : List PyText :=
  match splitOnce 47 part with
  | none => numbersOfBase part
  | some (base, stepText) => numbersOfBase base ++ [stepText]

def numbersOfField (field : PyText) : List PyText := (splitOn 44 field).flatMap numbersOfPart

def numberTexts (expr : PyText) : List PyText := (fieldsOf expr).flatMap numbersOfField

variable (numerals : Numerals) (keep : PyText → Bool) (lo hi : Int)

def Numerals.restrict : Numerals where
  first text := if keep text then numerals.first text else none
  later text := if keep text then numerals.later text else none
  firstWhole text value written := by
    by_cases kept : keep text = true
    · rw [if_pos kept] at written
      exact numerals.firstWhole text value written
    · rw [if_neg kept] at written
      cases written
  laterWhole text value written := by
    by_cases kept : keep text = true
    · rw [if_pos kept] at written
      exact numerals.laterWhole text value written
    · rw [if_neg kept] at written
      cases written

theorem base_restrict (base : PyText) (step : Int) :
    baseWith (numerals.restrict keep) lo hi base step =
      if (numbersOfBase base).all keep then baseWith numerals lo hi base step else none := by
  unfold baseWith numbersOfBase
  by_cases star : base = [42]
  · rw [if_pos star, if_pos star, if_pos star]
    rfl
  · rw [if_neg star, if_neg star, if_neg star]
    cases splitOnce 45 base with
    | none =>
        by_cases kept : keep base = true
        · simp [Numerals.restrict, kept]
        · simp [Numerals.restrict, kept]
    | some parts =>
        obtain ⟨startText, stopText⟩ := parts
        by_cases first : keep startText = true
        · by_cases later : keep stopText = true
          · simp [Numerals.restrict, first, later]
          · simp [Numerals.restrict, later]
        · simp [Numerals.restrict, first]

theorem part_restrict (part : PyText) :
    partWith (numerals.restrict keep) lo hi part =
      if (numbersOfPart part).all keep then partWith numerals lo hi part else none := by
  unfold partWith numbersOfPart
  cases splitOnce 47 part with
  | none => exact base_restrict numerals keep lo hi part 1
  | some parts =>
      obtain ⟨base, stepText⟩ := parts
      dsimp only
      rw [List.all_append, List.all_cons, List.all_nil, Bool.and_true]
      by_cases kept : keep stepText = true
      · rw [kept, Bool.and_true]
        simp only [Numerals.restrict, kept, if_true]
        cases numerals.later stepText with
        | none => simp
        | some step =>
            by_cases negative : step ≤ 0
            · simp [negative]
            · simp only [if_neg negative]
              exact base_restrict numerals keep lo hi base step
      · simp [Numerals.restrict, kept]

theorem mapM_restrict {α β : Type} (kept : α → Bool) (narrow wide : α → Option β) (items : List α)
    (same : ∀ item, narrow item = if kept item then wide item else none) :
    items.mapM narrow = if items.all kept then items.mapM wide else none := by
  induction items with
  | nil => rfl
  | cons item rest ih =>
      rw [List.mapM_cons, List.mapM_cons, ih, same, List.all_cons]
      by_cases mine : kept item = true
      · by_cases others : rest.all kept = true
        · rw [if_pos mine, if_pos others, mine, others]
          rfl
        · rw [if_neg others, mine, Bool.true_and, if_neg others]
          cases wide item with
          | none => simp
          | some value => simp
      · simp [mine]

theorem field_restrict (field : PyText) :
    fieldWith (numerals.restrict keep) lo hi field =
      if (numbersOfField field).all keep then fieldWith numerals lo hi field else none := by
  unfold fieldWith numbersOfField
  rw [mapM_restrict (fun part => (numbersOfPart part).all keep) _ _ _ (part_restrict numerals keep lo hi), List.all_flatMap]
  by_cases kept : (splitOn 44 field).all (fun part => (numbersOfPart part).all keep) = true
  · rw [if_pos kept, if_pos kept]
  · rw [if_neg kept, if_neg kept]
    rfl

theorem field_kept (field : PyText) (values : List Int) :
    fieldWith (numerals.restrict keep) lo hi field = some values ↔
      (∀ text ∈ numbersOfField field, keep text = true) ∧ fieldWith numerals lo hi field = some values := by
  rw [field_restrict, ← List.all_eq_true]
  by_cases kept : (numbersOfField field).all keep = true
  · simp [kept]
  · simp [kept]

theorem expr_kept (expr : PyText) (cron : CronExpr) :
    exprWith (numerals.restrict keep) expr = some cron ↔
      (∀ text ∈ numberTexts expr, keep text = true) ∧ exprWith numerals expr = some cron := by
  rw [exprWith_some, exprWith_some]
  simp only [field_kept]
  constructor
  · rintro ⟨minute, hour, dom, month, dow, fields, ⟨keepFirst, first⟩, ⟨keepSecond, second⟩, ⟨keepThird, third⟩,
      ⟨keepFourth, fourth⟩, ⟨keepFifth, fifth⟩⟩
    refine ⟨?_, minute, hour, dom, month, dow, fields, first, second, third, fourth, fifth⟩
    intro text member
    rw [numberTexts, fields] at member
    simp only [List.flatMap_cons, List.flatMap_nil, List.append_nil, List.mem_append] at member
    rcases member with one | two | three | four | five
    · exact keepFirst text one
    · exact keepSecond text two
    · exact keepThird text three
    · exact keepFourth text four
    · exact keepFifth text five
  · rintro ⟨kept, minute, hour, dom, month, dow, fields, first, second, third, fourth, fifth⟩
    have inside (field : PyText) (member : field ∈ fieldsOf expr) : ∀ text ∈ numbersOfField field, keep text = true :=
      fun text inner => kept text (List.mem_flatMap.mpr ⟨field, member, inner⟩)
    rw [fields] at inside
    refine ⟨minute, hour, dom, month, dow, fields, ⟨?_, first⟩, ⟨?_, second⟩, ⟨?_, third⟩, ⟨?_, fourth⟩, ⟨?_, fifth⟩⟩
    · exact inside minute (by simp)
    · exact inside hour (by simp)
    · exact inside dom (by simp)
    · exact inside month (by simp)
    · exact inside dow (by simp)

end Numbers

theorem mem_dropWhile (skipped : Nat → Bool) (letters : PyText) (letter : Nat) (member : letter ∈ letters) :
    skipped letter = true ∨ letter ∈ letters.dropWhile skipped := by
  induction letters with
  | nil => cases member
  | cons head rest ih =>
      by_cases skip : skipped head = true
      · rw [List.dropWhile_cons_of_pos skip]
        rcases List.mem_cons.mp member with same | later
        · rw [same]
          exact .inl skip
        · exact ih later
      · rw [List.dropWhile_cons_of_neg skip]
        exact .inr member

theorem mem_stripInt (letters : PyText) (letter : Nat) (member : letter ∈ letters) :
    isIntSpace letter = true ∨ letter ∈ stripInt letters := by
  rcases mem_dropWhile isIntSpace letters letter member with space | kept
  · exact .inl space
  · rcases mem_dropWhile isIntSpace _ letter (List.mem_reverse.mpr kept) with space | inner
    · exact .inl space
    · exact .inr (List.mem_reverse.mpr inner)

theorem digitsValue_letters (value : Nat) (digitBefore : Bool) (letters : PyText) (result : Nat)
    (read : digitsValue value digitBefore letters = some result) :
    ∀ letter ∈ letters, (decimalValue letter).isSome = true ∨ letter = 95 := by
  induction letters generalizing value digitBefore with
  | nil => exact fun _ => nofun
  | cons letter rest ih =>
      intro other member
      rw [digitsValue] at read
      cases digit : decimalValue letter with
      | some amount =>
          rw [digit] at read
          rcases List.mem_cons.mp member with same | later
          · rw [same, digit]
            exact .inl rfl
          · exact ih _ _ read other later
      | none =>
          rw [digit] at read
          dsimp only at read
          by_cases joins : letter = 95 ∧ digitBefore = true
          · rw [if_pos joins] at read
            rcases List.mem_cons.mp member with same | later
            · exact .inr (same.trans joins.1)
            · exact ih _ _ read other later
          · rw [if_neg joins] at read
            cases read

def InNumber (letter : Nat) : Prop :=
  isIntSpace letter = true ∨ letter = 45 ∨ letter = 43 ∨ letter = 95 ∨ (decimalValue letter).isSome = true

theorem signed_letters (text : PyText) (value : Int) (read : signedValue text = some value) :
    ∀ letter ∈ text, InNumber letter := by
  have body (rest : PyText) (number : Nat) (read : digitsValue 0 false rest = some number) :
      ∀ letter ∈ rest, InNumber letter := by
    intro letter member
    rcases digitsValue_letters 0 false rest number read letter member with digit | joint
    · exact .inr (.inr (.inr (.inr digit)))
    · exact .inr (.inr (.inr (.inl joint)))
  intro letter member
  rcases mem_stripInt text letter member with space | inner
  · exact .inl space
  · unfold signedValue at read
    split at read
    · next rest stripped =>
        obtain ⟨number, digits, _⟩ := Option.map_eq_some_iff.mp read
        rw [stripped] at inner
        rcases List.mem_cons.mp inner with sign | digit
        · exact .inr (.inl sign)
        · exact body rest number digits letter digit
    · next rest stripped =>
        obtain ⟨number, digits, _⟩ := Option.map_eq_some_iff.mp read
        rw [stripped] at inner
        rcases List.mem_cons.mp inner with sign | digit
        · exact .inr (.inr (.inl sign))
        · exact body rest number digits letter digit
    · obtain ⟨number, digits, _⟩ := Option.map_eq_some_iff.mp read
      exact body _ number digits letter inner

theorem signed_whole (text : PyText) (value : Int) (read : signedValue text = some value) :
    text ≠ [42] ∧ 44 ∉ text ∧ 47 ∉ text := by
  have foreign (letter : Nat) (absent : ¬ InNumber letter) : letter ∉ text :=
    fun member => absent (signed_letters text value read letter member)
  have star : ¬ InNumber 42 := by
    unfold InNumber
    decide
  have comma : ¬ InNumber 44 := by
    unfold InNumber
    decide
  have slash : ¬ InNumber 47 := by
    unfold InNumber
    decide
  refine ⟨?_, foreign 44 comma, foreign 47 slash⟩
  rintro rfl
  exact foreign 42 star List.mem_cons_self

-- Numbers as `int` reads them, of any length.
def signedNumerals : Numerals where
  first text := if 45 ∈ text then none else signedValue text
  later := signedValue
  firstWhole text value written := by
    by_cases minus : 45 ∈ text
    · rw [if_pos minus] at written
      cases written
    · rw [if_neg minus] at written
      obtain ⟨star, comma, slash⟩ := signed_whole text value written
      exact ⟨star, comma, minus, slash⟩
  laterWhole text value written := (signed_whole text value written).2

def isShort (text : PyText) : Bool := digitCount text ≤ 4300

theorem parsePart_with (part : PyText) (lo hi : Int) :
    parsePart part lo hi = partWith (signedNumerals.restrict isShort) lo hi part := by
  have later (text : PyText) : (signedNumerals.restrict isShort).later text = toInt text := by
    simp [Numerals.restrict, signedNumerals, isShort, toInt]
  have first (text : PyText) (single : 45 ∉ text) : (signedNumerals.restrict isShort).first text = toInt text := by
    simp [Numerals.restrict, signedNumerals, isShort, toInt, single]
  have based (base : PyText) (step : Int) :
      (if base = pyText "*" then some (rangeOf lo hi step)
        else match splitOnce 45 base with
          | some (startText, stopText) => do
              let start ← toInt startText
              let stop ← toInt stopText
              if start < lo ∨ stop > hi ∨ start > stop then none else some (rangeOf start stop step)
          | none => do
              let value ← toInt base
              if value < lo ∨ value > hi then none else some [value]) =
        baseWith (signedNumerals.restrict isShort) lo hi base step := by
    unfold baseWith
    have star : pyText "*" = [42] := by decide
    rw [star]
    by_cases every : base = [42]
    · rw [if_pos every, if_pos every]
    · rw [if_neg every, if_neg every]
      cases split : splitOnce 45 base with
      | none =>
          dsimp only
          rw [first base ((splitOnce_none 45 base).mp split)]
          cases toInt base with
          | none => rfl
          | some value => rfl
      | some parts =>
          obtain ⟨startText, stopText⟩ := parts
          dsimp only
          rw [first startText (splitOnce_some 45 base startText stopText split).2, later]
          cases toInt startText with
          | none => rfl
          | some start =>
              cases toInt stopText with
              | none => rfl
              | some stop => rfl
  unfold parsePart partWith
  cases splitOnce 47 part with
  | none => exact based part 1
  | some parts =>
      obtain ⟨base, stepText⟩ := parts
      dsimp only
      rw [later]
      cases toInt stepText with
      | none => rfl
      | some step =>
          by_cases negative : step ≤ 0
          · simp [negative]
          · simp only [Option.bind_eq_bind, Option.bind_some, if_neg negative]
            exact based base step

theorem parse_with (expr : PyText) : CronExpr.parse expr = exprWith (signedNumerals.restrict isShort) expr := by
  have fields (field : PyText) (lo hi : Int) :
      parseField field lo hi = fieldWith (signedNumerals.restrict isShort) lo hi field := by
    unfold parseField fieldWith
    simp only [parsePart_with]
  unfold CronExpr.parse
  simp only [fields]
  rfl

def isPlain (text : PyText) : Bool := !text.isEmpty && text.all fun letter => 48 ≤ letter && letter ≤ 57

def plainValue (value : Nat) (letters : PyText) : Nat := letters.foldl (fun value letter => value * 10 + (letter - 48)) value

def decimalInt (text : PyText) : Option Int := if isPlain text then some (plainValue 0 text : Int) else none

theorem plain_letters (text : PyText) (plain : isPlain text = true) :
    text ≠ [] ∧ ∀ letter ∈ text, 48 ≤ letter ∧ letter ≤ 57 := by
  unfold isPlain at plain
  simpa using plain

theorem decimalValue_plain (letter : Nat) (low : 48 ≤ letter) (high : letter ≤ 57) :
    decimalValue letter = some (letter - 48) := by
  unfold decimalValue decimalZeros
  rw [List.find?_cons_of_pos (by simp; omega)]
  rfl

theorem digitsValue_plain (value : Nat) (letters : PyText) (plain : ∀ letter ∈ letters, 48 ≤ letter ∧ letter ≤ 57) :
    digitsValue value true letters = some (plainValue value letters) := by
  induction letters generalizing value with
  | nil => rfl
  | cons letter rest ih =>
      obtain ⟨low, high⟩ := plain letter List.mem_cons_self
      rw [digitsValue, decimalValue_plain letter low high]
      exact ih _ fun other member => plain other (List.mem_cons_of_mem _ member)

theorem stripInt_bare (letters : PyText) (bare : ∀ letter ∈ letters, isIntSpace letter = false) :
    stripInt letters = letters := by
  have kept (letters : PyText) (bare : ∀ letter ∈ letters, isIntSpace letter = false) :
      letters.dropWhile isIntSpace = letters := by
    cases letters with
    | nil => rfl
    | cons letter rest =>
        apply List.dropWhile_cons_of_neg
        rw [bare letter List.mem_cons_self]
        exact Bool.false_ne_true
  unfold stripInt
  rw [kept letters bare, kept letters.reverse fun letter member => bare letter (List.mem_reverse.mp member),
    List.reverse_reverse]

theorem signed_plain (text : PyText) (plain : isPlain text = true) :
    45 ∉ text ∧ signedValue text = some (plainValue 0 text : Int) := by
  obtain ⟨filled, digits⟩ := plain_letters text plain
  refine ⟨fun member => absurd (digits 45 member).1 (by decide), ?_⟩
  have bare : stripInt text = text := by
    apply stripInt_bare
    intro letter member
    obtain ⟨low, high⟩ := digits letter member
    simp only [isIntSpace, Bool.or_eq_false_iff, Bool.and_eq_false_iff, decide_eq_false_iff_not, beq_eq_false_iff_ne]
    omega
  unfold signedValue
  rw [bare]
  cases text with
  | nil => exact absurd rfl filled
  | cons letter rest =>
      obtain ⟨low, high⟩ := digits letter List.mem_cons_self
      have read : digitsValue 0 false (letter :: rest) = digitsValue 0 true (letter :: rest) := by
        rw [digitsValue, digitsValue, decimalValue_plain letter low high]
      split
      · next minus =>
          cases minus
          omega
      · next plus =>
          cases plus
          omega
      · rw [read, digitsValue_plain 0 _ digits]
        rfl

-- The numbers of the grammar in the documentation.
def decimalNumerals : Numerals where
  first := decimalInt
  later := decimalInt
  firstWhole text value written := by
    by_cases plain : isPlain text = true
    · obtain ⟨minus, read⟩ := signed_plain text plain
      obtain ⟨star, comma, slash⟩ := signed_whole text _ read
      exact ⟨star, comma, minus, slash⟩
    · rw [decimalInt, if_neg plain] at written
      cases written
  laterWhole text value written := by
    by_cases plain : isPlain text = true
    · exact (signed_whole text _ (signed_plain text plain).2).2
    · rw [decimalInt, if_neg plain] at written
      cases written

theorem decimal_restrict : decimalNumerals = signedNumerals.restrict isPlain := by
  ext1
  · funext text
    change decimalInt text = if isPlain text then (if 45 ∈ text then none else signedValue text) else none
    by_cases plain : isPlain text = true
    · obtain ⟨minus, read⟩ := signed_plain text plain
      rw [decimalInt, if_pos plain, if_pos plain, if_neg minus, read]
    · rw [decimalInt, if_neg plain, if_neg plain]
  · funext text
    change decimalInt text = if isPlain text then signedValue text else none
    by_cases plain : isPlain text = true
    · rw [decimalInt, if_pos plain, if_pos plain, (signed_plain text plain).2]
    · rw [decimalInt, if_neg plain, if_neg plain]

structure Ranged (values : Set Int) (lo hi : Int) : Prop where
  filled : values.Nonempty
  inside : ∀ value ∈ values, lo ≤ value ∧ value ≤ hi

structure CronSets.InRange (sets : CronSets) : Prop where
  minute : Ranged sets.minute 0 59
  hour : Ranged sets.hour 0 23
  dom : Ranged sets.dom 1 31
  month : Ranged sets.month 1 12
  dow : Ranged sets.dow 0 6

theorem spelled_inRange (numerals : Numerals) (expr : PyText) (sets : CronSets) (spelled : ExprSpells numerals expr sets) :
    sets.InRange := by
  obtain ⟨minute, hour, dom, month, dow, _, first, second, third, fourth, fifth⟩ := spelled
  have ranged (lo hi : Int) (wide : lo ≤ hi) (field : PyText) (values : Set Int)
      (spelled : FieldSpells numerals lo hi field values) : Ranged values lo hi := by
    obtain ⟨filled, inside⟩ := field_bounded numerals lo hi field values wide spelled
    exact ⟨filled, inside⟩
  exact ⟨ranged 0 59 (by decide) minute _ first, ranged 0 23 (by decide) hour _ second,
    ranged 1 31 (by decide) dom _ third, ranged 1 12 (by decide) month _ fourth, ranged 0 6 (by decide) dow _ fifth⟩

theorem parse_inRange (expr : PyText) (cron : CronExpr) (parsed : CronExpr.parse expr = some cron) : cron.sets.InRange := by
  rw [parse_with] at parsed
  exact spelled_inRange _ expr cron.sets ((expr_iff _ expr cron.sets).mpr ⟨cron, parsed, rfl⟩)

theorem parse_iff (expr : PyText) (cron : CronExpr) :
    CronExpr.parse expr = some cron ↔
      (∀ text ∈ numberTexts expr, isShort text = true) ∧ exprWith signedNumerals expr = some cron := by
  rw [parse_with, expr_kept]

theorem documented_iff (expr : PyText) (sets : CronSets) :
    ExprSpells decimalNumerals expr sets ↔
      (∀ text ∈ numberTexts expr, isPlain text = true) ∧ ExprSpells signedNumerals expr sets := by
  rw [decimal_restrict, expr_iff, expr_iff]
  simp only [expr_kept]
  constructor
  · rintro ⟨cron, ⟨plain, read⟩, same⟩
    exact ⟨plain, cron, read, same⟩
  · rintro ⟨plain, cron, read, same⟩
    exact ⟨cron, ⟨plain, read⟩, same⟩

theorem hits_iff (cron : CronExpr) (slot : Minute) :
    cron.hits slot = true ↔
      (slot.minute : Int) ∈ cron.sets.minute ∧ (slot.hour : Int) ∈ cron.sets.hour ∧ (slot.day : Int) ∈ cron.sets.dom ∧
        (slot.month : Int) ∈ cron.sets.month ∧ (((slot.weekday + 1) % 7 : Nat) : Int) ∈ cron.sets.dow := by
  simp [CronExpr.hits, CronExpr.sets, and_assoc]

end Yaaos.Tasks
