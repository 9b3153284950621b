import Yaaos.Base.JsonText
import Yaaos.Base.Paths

set_option autoImplicit false

namespace Yaaos.Agent

open Base (Bytes PathMarks)

def unix : PathMarks UInt8 where
  slash := 47
  dot := 46
  apart := by decide

-- A path a workspace can be at: from the root and in normal form.
structure Directory where
  path : Bytes
  rooted : unix.isRooted path = true
  cleaned : unix.clean path = path

structure WriteFilesEntry where
  path : Bytes
  content : Bytes

inductive WriteError where
  | unknownWorkspace
  | unsafePath (path : Bytes) (why : String)
  | mkdirParent (path : Bytes) (why : String)
  | write (path : Bytes) (why : String)

inductive FileCall where
  | mkdirAll (path : Bytes)
  | writeFile (path content : Bytes)

def FileCall.path : FileCall → Bytes
  | .mkdirAll path => path
  | .writeFile path _ => path

abbrev Disk : Type := List FileCall → FileCall → Option String

def safeJoin (base : Directory) (rel : Bytes) : Except String Bytes :=
  if rel = [] then .error "empty path"
  else if unix.isRooted rel then .error "absolute path not allowed"
  else
    let cleaned := unix.clean rel
    if unix.up <+: cleaned ∨ unix.slash :: unix.up <:+: cleaned then .error "parent-directory traversal not allowed"
    else
      let full := unix.join base.path cleaned
      -- a second look at the way from the base to the result
      match unix.relative base.path full with
      | none => .error "path escapes workspace root"
      | some rel2 => if unix.up <+: rel2 then .error "path escapes workspace root" else .ok full

def writeEntries (disk : Disk) (base : Directory) (written : Nat) (calls : List (Bytes × FileCall)) :
    List WriteFilesEntry → List (Bytes × FileCall) × Except WriteError Nat
  | [] => (calls, .ok written)
  | entry :: rest => match safeJoin base entry.path with
    | .error why => (calls, .error (.unsafePath entry.path why))
    | .ok full =>
      let mkdir := FileCall.mkdirAll (unix.parent full)
      let made := calls ++ [(entry.path, mkdir)]
      match disk (calls.map Prod.snd) mkdir with
      | some why => (made, .error (.mkdirParent entry.path why))
      | none =>
        let write := FileCall.writeFile full entry.content
        let wrote := made ++ [(entry.path, write)]
        match disk (made.map Prod.snd) write with
        | some why => (wrote, .error (.write entry.path why))
        | none => writeEntries disk base (written + 1) wrote rest

def writeFiles (disk : Disk) (slot : Option Directory) (files : List WriteFilesEntry) :
    List (Bytes × FileCall) × Except WriteError Nat :=
  match slot with
  | none => ([], .error .unknownWorkspace)
  | some base => writeEntries disk base 0 [] files

variable (base : Directory) (rel full : Bytes)

theorem directory_filled : base.path ≠ [] := by
  intro empty
  have rooted := base.rooted
  rw [empty] at rooted
  exact absurd rooted (by decide)

theorem traversal_iff (rel : Bytes) (open_ : unix.isRooted rel = false) :
    (unix.up <+: unix.clean rel ∨ unix.slash :: unix.up <:+: unix.clean rel) ↔
      ∃ name ∈ unix.normal rel, unix.up <+: name := by
  rw [PathMarks.clean, open_]
  by_cases empty : unix.normal rel = []
  · rw [empty]
    constructor
    · intro found
      exact absurd found (by decide)
    · rintro ⟨name, member, _⟩
      exact absurd member List.not_mem_nil
  · rw [PathMarks.render, if_neg Bool.false_ne_true, if_neg empty]
    apply unix.begins_iff _ _ unix.up_whole empty
    intro name member
    exact (unix.stacked_whole _ _ (unix.stacked_normal rel) name member).2

theorem undotted_plain (rel : Bytes) (undotted : ¬ ∃ name ∈ unix.normal rel, unix.up <+: name) :
    ∀ name ∈ unix.normal rel, unix.Plain name := by
  intro name member
  rcases unix.stacked_element _ _ (unix.stacked_normal rel) name (List.mem_reverse.mpr member) with plain | isUp
  · exact plain
  · exact absurd ⟨name, member, by rw [isUp]⟩ undotted

theorem relative_undotted (rel : Bytes) (open_ : unix.isRooted rel = false)
    (undotted : ¬ ∃ name ∈ unix.normal rel, unix.up <+: name) :
    unix.relative base.path (unix.join base.path rel) = some (unix.clean rel) := by
  have filled := directory_filled base
  have plain := undotted_plain rel undotted
  have within := unix.within_join base.path rel filled base.rooted open_ plain
  have names := unix.normal_below base.path rel filled open_ plain
  rw [unix.relative_below base.path _ _ within.rooted names, PathMarks.clean, open_]

theorem safeJoin_eq (rel : Bytes) :
    safeJoin base rel =
      if rel = [] then .error "empty path"
      else if unix.isRooted rel then .error "absolute path not allowed"
      else if ∃ name ∈ unix.normal rel, unix.up <+: name then .error "parent-directory traversal not allowed"
      else .ok (unix.join base.path rel) := by
  unfold safeJoin
  by_cases empty : rel = []
  · rw [if_pos empty, if_pos empty]
  · by_cases rooted : unix.isRooted rel = true
    · rw [if_neg empty, if_neg empty, if_pos rooted, if_pos rooted]
    · have open_ := Bool.eq_false_iff.mpr rooted
      have same := traversal_iff rel open_
      simp only [if_neg empty, if_neg rooted]
      by_cases dotted : ∃ name ∈ unix.normal rel, unix.up <+: name
      · rw [if_pos (same.mpr dotted), if_pos dotted]
      · have first : ¬ unix.up <+: unix.clean rel := fun found => dotted (same.mp (.inl found))
        rw [if_neg (mt same.mp dotted), if_neg dotted, unix.join_clean base.path rel (directory_filled base) open_,
          relative_undotted base rel open_ dotted]
        exact if_neg first

theorem safeJoin_ok (joined : safeJoin base rel = .ok full) :
    (rel ≠ [] ∧ unix.isRooted rel = false ∧ ¬ ∃ name ∈ unix.normal rel, unix.up <+: name) ∧
      full = unix.join base.path rel := by
  rw [safeJoin_eq] at joined
  by_cases empty : rel = []
  · rw [if_pos empty] at joined
    cases joined
  · by_cases rooted : unix.isRooted rel = true
    · rw [if_neg empty, if_pos rooted] at joined
      cases joined
    · by_cases dotted : ∃ name ∈ unix.normal rel, unix.up <+: name
      · rw [if_neg empty, if_neg rooted, if_pos dotted] at joined
        cases joined
      · rw [if_neg empty, if_neg rooted, if_neg dotted] at joined
        cases joined
        exact ⟨⟨empty, Bool.eq_false_iff.mpr rooted, dotted⟩, rfl⟩

def CallFor (base : Directory) (path : Bytes) (call : FileCall) : Prop :=
  ∃ full, safeJoin base path = .ok full ∧
    (call = .mkdirAll (unix.parent full) ∨ ∃ content, call = .writeFile full content)

theorem writeEntries_calls (disk : Disk) (base : Directory) (written : Nat) (calls : List (Bytes × FileCall))
    (files : List WriteFilesEntry) (known : ∀ path call, (path, call) ∈ calls → CallFor base path call) :
    ∀ path call, (path, call) ∈ (writeEntries disk base written calls files).1 → CallFor base path call := by
  induction files generalizing written calls with
  | nil => exact known
  | cons entry rest ih =>
      unfold writeEntries
      cases joined : safeJoin base entry.path with
      | error why => exact known
      | ok full =>
          have grows (calls : List (Bytes × FileCall)) (call : FileCall)
              (known : ∀ path call, (path, call) ∈ calls → CallFor base path call)
              (mine : call = .mkdirAll (unix.parent full) ∨ ∃ content, call = .writeFile full content) :
              ∀ path other, (path, other) ∈ calls ++ [(entry.path, call)] → CallFor base path other := by
            intro path other member
            rcases List.mem_append.mp member with earlier | own
            · exact known path other earlier
            · obtain ⟨rfl, rfl⟩ := Prod.mk.inj (List.mem_singleton.mp own)
              exact ⟨full, joined, mine⟩
          have made := grows calls _ known (.inl rfl)
          have wrote := grows _ (.writeFile full entry.content) made (.inr ⟨_, rfl⟩)
          dsimp only
          split
          · exact made
          · split
            · exact wrote
            · exact ih _ _ wrote

theorem writeFiles_calls (disk : Disk) (base : Directory) (files : List WriteFilesEntry) :
    ∀ path call, (path, call) ∈ (writeFiles disk (some base) files).1 → CallFor base path call :=
  writeEntries_calls disk base 0 [] files fun _ _ => nofun

theorem writeFiles_makes (disk : Disk) (base : Directory) (entry : WriteFilesEntry) (full : Bytes)
    (joined : safeJoin base entry.path = .ok full) :
    (entry.path, FileCall.mkdirAll (unix.parent full)) ∈ (writeFiles disk (some base) [entry]).1 := by
  unfold writeFiles
  dsimp only
  unfold writeEntries
  rw [joined]
  dsimp only
  split
  · exact List.mem_singleton_self _
  · split
    · exact List.mem_cons_self
    · exact List.mem_cons_self

structure JoinsSafely (base : Directory) (rel : Bytes) : Prop where
  sound : ∀ full, safeJoin base rel = .ok full → unix.Within base.path full ∧ full = unix.join base.path rel
  inside : ∀ disk files call, (rel, call) ∈ (writeFiles disk (some base) files).1 → unix.Within base.path call.path
  complete : ∀ why, safeJoin base rel = .error why →
    rel = [] ∨ unix.isRooted rel = true ∨ (unix.normal rel).head? = some unix.up

structure Ordinary (base : Directory) (rel : Bytes) : Prop where
  undotted : ¬ ∃ name ∈ unix.normal rel, unix.up <+: name
  below : unix.normal rel = [] → unix.normal base.path = []

theorem joined_within (joined : safeJoin base rel = .ok full) :
    unix.Within base.path full := by
  obtain ⟨⟨_, open_, undotted⟩, rfl⟩ := safeJoin_ok base rel full joined
  exact unix.within_join base.path rel (directory_filled base) base.rooted open_ (undotted_plain rel undotted)

theorem joined_names (joined : safeJoin base rel = .ok full) :
    unix.normal full = unix.normal base.path ++ unix.normal rel := by
  obtain ⟨⟨_, open_, undotted⟩, rfl⟩ := safeJoin_ok base rel full joined
  exact unix.normal_below base.path rel (directory_filled base) open_ (undotted_plain rel undotted)

theorem parent_within_iff (joined : safeJoin base rel = .ok full) :
    unix.Within base.path (unix.parent full) ↔ (unix.normal rel = [] → unix.normal base.path = []) := by
  have within := joined_within base rel full joined
  have names := joined_names base rel full joined
  obtain ⟨rooted, shorter⟩ := unix.within_parent full within.rooted within.cleaned
  rw [names] at shorter
  constructor
  · intro inside empty
    have starts := inside.names.length_le
    rw [shorter, empty, List.append_nil, List.length_dropLast] at starts
    apply List.eq_nil_of_length_eq_zero
    omega
  · intro below
    refine ⟨rooted, unix.clean_parent full, ?_⟩
    rw [shorter]
    by_cases empty : unix.normal rel = []
    · rw [empty, below empty]
      exact List.prefix_rfl
    · rw [List.dropLast_append_of_ne_nil empty]
      exact List.prefix_append _ _

-- A relative path is joined as promised exactly where it is one to refuse or an ordinary one.
theorem joinsSafely_iff (rel : Bytes) :
    JoinsSafely base rel ↔
      rel = [] ∨ unix.isRooted rel = true ∨ (unix.normal rel).head? = some unix.up ∨ Ordinary base rel := by
  constructor
  · rintro ⟨_, inside, complete⟩
    cases joined : safeJoin base rel with
    | error why =>
        rcases complete why joined with empty | rooted | climbs
        · exact .inl empty
        · exact .inr (.inl rooted)
        · exact .inr (.inr (.inl climbs))
    | ok full =>
        have undotted := (safeJoin_ok base rel full joined).1.2.2
        have made := writeFiles_makes (fun _ _ => none) base ⟨rel, []⟩ full joined
        have parent := inside _ _ _ made
        exact .inr (.inr (.inr ⟨undotted, (parent_within_iff base rel full joined).mp parent⟩))
  · intro kind
    refine ⟨?_, ?_, ?_⟩
    · intro full joined
      exact ⟨joined_within base rel full joined, (safeJoin_ok base rel full joined).2⟩
    · intro disk files call member
      obtain ⟨full, joined, made⟩ := writeFiles_calls disk base files rel call member
      have within := joined_within base rel full joined
      obtain ⟨filled, open_, undotted⟩ := (safeJoin_ok base rel full joined).1
      rcases made with rfl | ⟨content, rfl⟩
      · apply (parent_within_iff base rel full joined).mpr
        rcases kind with empty | rooted | climbs | ordinary
        · exact absurd empty filled
        · exact absurd rooted (Bool.eq_false_iff.mp open_)
        · intro none
          rw [none] at climbs
          cases climbs
        · exact ordinary.below
      · exact within
    · intro why refused
      rcases kind with empty | rooted | climbs | ordinary
      · exact .inl empty
      · exact .inr (.inl rooted)
      · exact .inr (.inr climbs)
      · rw [safeJoin_eq, if_neg ordinary.undotted] at refused
        by_cases empty : rel = []
        · exact .inl empty
        · by_cases rooted : unix.isRooted rel = true
          · exact .inr (.inl rooted)
          · rw [if_neg empty, if_neg rooted] at refused
            cases refused

theorem dotted_name_refused :
    ¬ JoinsSafely ⟨[47, 119], by decide, by decide⟩ [46, 46, 101, 110, 118] := by
  intro safe
  have refused : safeJoin ⟨[47, 119], by decide, by decide⟩ [46, 46, 101, 110, 118] =
      .error "parent-directory traversal not allowed" := by decide
  rcases safe.complete _ refused with empty | rooted | climbs
  · exact absurd empty (by decide)
  · exact absurd rooted (by decide)
  · exact absurd climbs (by decide)

end Yaaos.Agent
