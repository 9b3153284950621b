import Mathlib.Data.List.DropRight
import Yaaos.Base.Toml

set_option autoImplicit false

namespace Yaaos.CodingAgent

open Yaaos.Base Yaaos.Base.Toml

-- The entries of the frontmatter that the bundle reads, where they are texts.
structure AgentFrontmatter where
  name : Option PyText
  description : Option PyText

structure AgentSource where
  name : PyText
  frontmatter : AgentFrontmatter
  body : PyText

def defensiveRestatement : PyText :=
  pyText "> **Before taking any action, restate the specific deliverable from the task you received.**"

def replaceLetter (old : Nat) (new text : PyText) : PyText := text.flatMap fun letter => if letter = old then new else [letter]

def tomlStr (value : PyText) : PyText :=
  let escaped := replaceLetter 9 [92, 116] (replaceLetter 13 [92, 114] (replaceLetter 10 [92, 110]
    (replaceLetter 34 [92, 34] (replaceLetter 92 [92, 92] value))))
  [34] ++ escaped ++ [34]

def escapeTomlMultilineBasic (value : PyText) : PyText := replaceLetter 34 [92, 34] (replaceLetter 92 [92, 92] value)

def AgentSource.tomlName (agent : AgentSource) : PyText := (agent.frontmatter.name.filter (· ≠ [])).getD agent.name

def AgentSource.tomlDescription (agent : AgentSource) : PyText := (agent.frontmatter.description.filter (· ≠ [])).getD []

def AgentSource.prompt (agent : AgentSource) : PyText := strip (defensiveRestatement ++ [10, 10] ++ agent.body)

def buildAgentToml (agent : AgentSource) : PyText :=
  List.intercalate [10]
    [pyText "name = " ++ tomlStr agent.tomlName, pyText "description = " ++ tomlStr agent.tomlDescription, [],
     pyText "[prompt]", pyText "content = " ++ [34, 34, 34], escapeTomlMultilineBasic agent.prompt, [34, 34, 34], []]

def Holds (agent : AgentSource) (document : Document) : Prop := ∃ content, strip content = agent.prompt ∧
  document =
    { root := [(pyText "name", agent.tomlName), (pyText "description", agent.tomlDescription)]
      tables := [(pyText "prompt", [(pyText "content", content)])] }

def isNameable (letter : Nat) : Bool :=
  isScalar letter && (!isControl letter || letter == 9 || letter == 10 || letter == 13)

def isPromptable (letter : Nat) : Bool := isScalar letter && (!isControl letter || letter == 9 || letter == 10)

def Writable (agent : AgentSource) : Prop :=
  agent.tomlName.all isNameable = true ∧ agent.tomlDescription.all isNameable = true ∧ agent.prompt.all isPromptable = true

variable (letter : Nat) (letters : PyText) (agent : AgentSource)

def isSpelled (letter : Nat) : Bool := isLegal false letter || letter == 10 || letter == 13

def spelling (letter : Nat) : PyText :=
  if letter = 92 then [92, 92] else if letter = 34 then [92, 34] else if letter = 10 then [92, 110]
  else if letter = 13 then [92, 114] else if letter = 9 then [92, 116] else [letter]

def promptSpelling (letter : Nat) : PyText :=
  if letter = 92 then [92, 92] else if letter = 34 then [92, 34] else [letter]

theorem escape_spelling (value : PyText) : escapeTomlMultilineBasic value = value.flatMap promptSpelling := by
  rw [escapeTomlMultilineBasic, replaceLetter, replaceLetter, List.flatMap_assoc]
  refine congrArg value.flatMap (funext fun letter => ?_)
  rw [promptSpelling]
  by_cases slash : letter = 92
  · rw [if_pos slash, if_pos slash]
    rfl
  · rw [if_neg slash, if_neg slash, List.flatMap_singleton]

theorem tomlStr_spelling (value : PyText) : tomlStr value = 34 :: (value.flatMap spelling ++ [34]) := by
  have escaped := escape_spelling value
  rw [escapeTomlMultilineBasic] at escaped
  rw [tomlStr, escaped, replaceLetter, replaceLetter, replaceLetter, List.flatMap_assoc, List.flatMap_assoc,
    List.flatMap_assoc]
  refine congrArg (fun text => 34 :: (text ++ [34])) (congrArg value.flatMap (funext fun letter => ?_))
  rw [promptSpelling, spelling]
  by_cases slash : letter = 92
  · rw [if_pos slash, if_pos slash]
    rfl
  · rw [if_neg slash, if_neg slash]
    by_cases quote : letter = 34
    · rw [if_pos quote, if_pos quote]
      rfl
    · rw [if_neg quote, if_neg quote, List.flatMap_singleton]
      by_cases feed : letter = 10
      · rw [if_pos feed, if_pos feed]
        rfl
      · rw [if_neg feed, if_neg feed, List.flatMap_singleton]
        by_cases carriage : letter = 13
        · rw [if_pos carriage, if_pos carriage]
          rfl
        · rw [if_neg carriage, if_neg carriage, List.flatMap_singleton]

theorem promptSpelling_reads : if isLegal true letter then Spells true letter (promptSpelling letter)
    else Spoils true (promptSpelling letter) := by
  rw [promptSpelling]
  by_cases slash : letter = 92
  · subst slash
    exact escape_spells true 92 92 fun rest => rfl
  · by_cases quote : letter = 34
    · subst quote
      exact escape_spells true 34 34 fun rest => rfl
    · rw [if_neg slash, if_neg quote]
      split
      · rename_i legal
        exact plain_spells true letter legal quote slash
      · rename_i illegal
        exact illegal_spoils true letter illegal quote slash

theorem spelling_reads : if isSpelled letter then Spells false letter (spelling letter)
    else Spoils false (spelling letter) := by
  rw [isSpelled, spelling]
  by_cases slash : letter = 92
  · subst slash
    exact escape_spells false 92 92 fun rest => rfl
  · by_cases quote : letter = 34
    · subst quote
      exact escape_spells false 34 34 fun rest => rfl
    · by_cases feed : letter = 10
      · subst feed
        exact escape_spells false 10 110 fun rest => rfl
      · by_cases carriage : letter = 13
        · subst carriage
          exact escape_spells false 13 114 fun rest => rfl
        · by_cases tab : letter = 9
          · subst tab
            exact escape_spells false 9 116 fun rest => rfl
          · rw [if_neg slash, if_neg quote, if_neg feed, if_neg carriage, if_neg tab]
            split
            · rename_i legal
              exact plain_spells false letter (by simpa [feed, carriage] using legal) quote slash
            · rename_i illegal
              exact illegal_spoils false letter (by simpa [feed, carriage] using illegal) quote slash

theorem spelled_reads (multiline : Bool) (spell : Nat → PyText) (good : Nat → Bool) (letters rest : PyText) (fuel : Nat)
    (reads : ∀ letter, if good letter then Spells multiline letter (spell letter) else Spoils multiline (spell letter)) :
    readBasic multiline (fuel + letters.length) (letters.flatMap spell ++ rest) =
      if letters.all good then (readBasic multiline fuel rest).map fun read => (letters ++ read.1, read.2) else none := by
  by_cases all : letters.all good = true
  · rw [if_pos all]
    refine readBasic_spelled multiline spell letters rest fuel fun letter member => ?_
    have read := reads letter
    rwa [if_pos (List.all_eq_true.mp all letter member)] at read
  · rw [if_neg all]
    refine readBasic_spoiled multiline spell letters rest _ (fun letter _ => ?_) ?_
    · have read := reads letter
      split at read
      · exact .inl read
      · exact .inr read
    · rw [List.all_eq_true] at all
      push Not at all
      obtain ⟨letter, member, bad⟩ := all
      have read := reads letter
      rw [if_neg bad] at read
      exact ⟨letter, member, read⟩

theorem spell_length (spell : Nat → PyText) (filled : ∀ letter, spell letter ≠ []) (letters : PyText) :
    letters.length ≤ (letters.flatMap spell).length := by
  induction letters with
  | nil => exact Nat.le_refl 0
  | cons letter letters ih =>
      have one := List.length_pos_of_ne_nil (filled letter)
      rw [List.flatMap_cons, List.length_append, List.length_cons]
      omega

theorem spelling_filled : spelling letter ≠ [] := by
  rw [spelling]
  repeat' split
  all_goals exact List.cons_ne_nil _ _

theorem promptSpelling_filled : promptSpelling letter ≠ [] := by
  rw [promptSpelling]
  repeat' split
  all_goals exact List.cons_ne_nil _ _

theorem spelling_head (rest : PyText) : (spelling letter ++ rest).head? ≠ some 34 := by
  rw [spelling]
  repeat' split
  · simp
  · simp
  · simp
  · simp
  · simp
  · rename_i quote _ _ _
    simpa using quote

theorem tomlStr_reads (value rest : PyText) : Toml.readValue (tomlStr value ++ 10 :: rest) =
    if value.all isSpelled then some (value, 10 :: rest) else none := by
  have single : (34 :: (value.flatMap spelling ++ [34] ++ 10 :: rest)).take 3 ≠ [34, 34, 34] := by
    cases value with
    | nil => exact fun same => absurd same (by simp)
    | cons letter value =>
        intro same
        have head := spelling_head letter (value.flatMap spelling ++ [34] ++ 10 :: rest)
        rw [List.flatMap_cons, List.append_assoc, List.append_assoc, List.take_succ_cons, List.cons.injEq] at same
        rw [← List.append_assoc _ [34]] at same
        cases text : spelling letter ++ (value.flatMap spelling ++ [34] ++ 10 :: rest) with
        | nil =>
            rw [text] at same
            exact absurd same.2 (by simp)
        | cons first others =>
            rw [text] at same head
            rw [List.take_succ_cons, List.cons.injEq] at same
            exact head (congrArg some same.2.1)
  rw [tomlStr_spelling, List.cons_append, Toml.readValue, if_neg single, List.append_assoc]
  have long := spell_length spelling spelling_filled value
  obtain ⟨fuel, enough⟩ : ∃ fuel, (value.flatMap spelling ++ ([34] ++ 10 :: rest)).length = fuel + 1 + value.length := by
    refine ⟨(value.flatMap spelling).length - value.length + rest.length + 1, ?_⟩
    simp only [List.length_append, List.length_cons, List.length_nil]
    omega
  rw [enough, spelled_reads false spelling _ value _ _ spelling_reads]
  split
  · rw [List.singleton_append, readBasic]
    simp
  · rfl

theorem content_reads : Toml.readValue (34 :: 34 :: 34 :: 10 :: (letters.flatMap promptSpelling ++ [34, 34, 34, 10])) =
    if letters.all (isLegal true) then some (letters, [10]) else none := by
  have long := spell_length promptSpelling promptSpelling_filled letters
  obtain ⟨fuel, enough⟩ : ∃ fuel, (letters.flatMap promptSpelling ++ [34, 34, 34, 10]).length = fuel + 1 + letters.length := by
    refine ⟨(letters.flatMap promptSpelling).length - letters.length + 3, ?_⟩
    simp only [List.length_append, List.length_cons, List.length_nil]
    omega
  have opened : Toml.readValue (34 :: 34 :: 34 :: 10 :: (letters.flatMap promptSpelling ++ [34, 34, 34, 10])) =
      (readBasic true (letters.flatMap promptSpelling ++ [34, 34, 34, 10]).length
        (letters.flatMap promptSpelling ++ [34, 34, 34, 10])).map closing := rfl
  rw [opened, enough, spelled_reads true promptSpelling _ letters _ _ promptSpelling_reads]
  split
  · rw [readBasic]
    simp [closing]
  · rfl

def promptHeader : PyText := 10 :: 10 :: (pyText "[prompt]" ++ 10 :: (pyText "content" ++ [32, 61, 32, 34, 34, 34, 10]))

def opening (name description : PyText) : PyText :=
  (pyText "name" ++ [32, 61, 32]) ++ (tomlStr name ++
    ((10 :: (pyText "description" ++ [32, 61, 32])) ++ (tomlStr description ++ promptHeader)))

theorem build_text : buildAgentToml agent =
    opening agent.tomlName agent.tomlDescription ++ ((agent.prompt ++ [10]).flatMap promptSpelling ++ [34, 34, 34, 10]) := by
  have feed : promptSpelling 10 = [10] := rfl
  have name : pyText "name = " = pyText "name" ++ [32, 61, 32] := rfl
  have description : pyText "description = " = pyText "description" ++ [32, 61, 32] := rfl
  have content : pyText "content = " = pyText "content" ++ [32, 61, 32] := rfl
  rw [buildAgentToml, escape_spelling, name, description, content, List.flatMap_append, List.flatMap_singleton, feed, opening,
    promptHeader]
  simp [List.intercalate, List.append_assoc]

theorem readLines_text (fuel : Nat) (name description content : PyText) :
    readLines (fuel + 6) { root := [], tables := [] }
        (opening name description ++ (content.flatMap promptSpelling ++ [34, 34, 34, 10])) =
      if name.all isSpelled && description.all isSpelled && content.all (isLegal true) then
        some { root := [(pyText "name", name), (pyText "description", description)]
               tables := [(pyText "prompt", [(pyText "content", content)])] }
      else none := by
  have text : opening name description ++ (content.flatMap promptSpelling ++ [34, 34, 34, 10]) =
      pyText "name" ++ 32 :: 61 :: 32 :: (tomlStr name ++ 10 :: (pyText "description" ++ 32 :: 61 :: 32 ::
        (tomlStr description ++ 10 :: 10 :: (pyText "[prompt]" ++ 10 :: (pyText "content" ++ 32 :: 61 :: 32 :: 34 :: 34 :: 34 ::
          10 :: (content.flatMap promptSpelling ++ [34, 34, 34, 10])))))) := by
    simp [opening, promptHeader, List.append_assoc]
  have quoted (value rest : PyText) : (tomlStr value ++ rest).dropWhile isBlank = tomlStr value ++ rest := rfl
  have ended (rest : PyText) : endLine (10 :: rest) = some rest := rfl
  have put : ({ root := [], tables := [] } : Document).put (pyText "name", name) =
      some { root := [(pyText "name", name)], tables := [] } := rfl
  have grown : ({ root := [(pyText "name", name)], tables := [] } : Document).put (pyText "description", description) =
      some { root := [(pyText "name", name), (pyText "description", description)], tables := [] } := rfl
  have opened (rest : PyText) : readLines (fuel + 4)
        { root := [(pyText "name", name), (pyText "description", description)], tables := [] }
        (10 :: (pyText "[prompt]" ++ 10 :: rest)) =
      readLines (fuel + 2)
        { root := [(pyText "name", name), (pyText "description", description)], tables := [(pyText "prompt", [])] } rest := rfl
  have filled : ({ root := [(pyText "name", name), (pyText "description", description)]
                   tables := [(pyText "prompt", [])] } : Document).put (pyText "content", content) =
      some { root := [(pyText "name", name), (pyText "description", description)]
             tables := [(pyText "prompt", [(pyText "content", content)])] } := rfl
  rw [text, readLines_pair _ _ (pyText "name") _ (by decide) (by decide) (quoted _ _), tomlStr_reads]
  by_cases named : name.all isSpelled = true
  · rw [if_pos named, Option.bind_some, put, Option.bind_some, ended, Option.bind_some,
      readLines_pair _ _ (pyText "description") _ (by decide) (by decide) (quoted _ _), tomlStr_reads]
    by_cases described : description.all isSpelled = true
    · rw [if_pos described, Option.bind_some, grown, Option.bind_some, ended, Option.bind_some, opened,
        readLines_pair _ _ (pyText "content") _ (by decide) (by decide) rfl, content_reads]
      by_cases prompted : content.all (isLegal true) = true
      · rw [if_pos prompted, Option.bind_some, filled, named, described, prompted]
        rfl
      · rw [if_neg prompted, named, described]
        simp [prompted]
    · rw [if_neg described]
      simp [described]
  · rw [if_neg named]
    simp [named]

theorem promptSpelling_plain (plain : letter ≠ 13) : ∀ other ∈ promptSpelling letter, other ≠ 13 := by
  rw [promptSpelling]
  split
  · decide
  · split
    · decide
    · intro other member
      rw [List.mem_singleton.mp member]
      exact plain

theorem tomlStr_plain (value : PyText) : ∀ letter ∈ tomlStr value, letter ≠ 13 := by
  have one (letter : Nat) : ∀ other ∈ spelling letter, other ≠ 13 := by
    rw [spelling]
    repeat' split
    all_goals first | decide | skip
    rename_i carriage _
    intro other member
    rw [List.mem_singleton.mp member]
    exact carriage
  intro letter member
  rw [tomlStr_spelling, List.mem_cons, List.mem_append, List.mem_flatMap, List.mem_singleton] at member
  rcases member with rfl | ⟨source, _, spelled⟩ | rfl
  · decide
  · exact one source letter spelled
  · decide

theorem foldBreaks_spelled (letters rest : PyText) (apart : rest.head? ≠ some 10) :
    foldBreaks (letters.flatMap promptSpelling ++ rest) = (foldBreaks letters).flatMap promptSpelling ++ foldBreaks rest := by
  have carriage : promptSpelling 13 = [13] := rfl
  induction letters using foldBreaks.induct with
  | case1 => rfl
  | case2 letter =>
      by_cases isCarriage : letter = 13
      · subst isCarriage
        rw [List.flatMap_singleton, foldBreaks, List.flatMap_singleton, carriage, List.singleton_append, List.singleton_append]
        cases rest with
        | nil => rfl
        | cons next rest => exact foldBreaks_carriage next rest fun same => apart (congrArg some same)
      · rw [List.flatMap_singleton, foldBreaks, List.flatMap_singleton,
          foldBreaks_plain _ rest (promptSpelling_plain letter isCarriage)]
  | case3 letter next letters crlf ih =>
      obtain ⟨isCarriage, isFeed⟩ := crlf
      subst isCarriage isFeed
      have feed : promptSpelling 10 = [10] := rfl
      rw [foldBreaks, if_pos ⟨rfl, rfl⟩, List.flatMap_cons, List.flatMap_cons, List.flatMap_cons, carriage, feed, List.append_assoc,
        List.append_assoc, List.append_assoc, ← ih]
      rw [List.singleton_append, List.singleton_append, foldBreaks, if_pos ⟨rfl, rfl⟩, List.singleton_append]
  | case4 letter next letters apart_ ih =>
      have text : (letter :: next :: letters).flatMap promptSpelling = promptSpelling letter ++ (next :: letters).flatMap promptSpelling :=
        List.flatMap_cons
      have folded : (letter :: foldBreaks (next :: letters)).flatMap promptSpelling =
          promptSpelling letter ++ (foldBreaks (next :: letters)).flatMap promptSpelling := List.flatMap_cons
      rw [foldBreaks, if_neg apart_, text, folded, List.append_assoc, List.append_assoc, ← ih]
      by_cases isCarriage : letter = 13
      · subst isCarriage
        have other : next ≠ 10 := fun same => apart_ ⟨rfl, same⟩
        rw [carriage, List.singleton_append, List.singleton_append, List.flatMap_cons, promptSpelling]
        split
        · exact foldBreaks_carriage 92 _ (by decide)
        · split
          · exact foldBreaks_carriage 92 _ (by decide)
          · exact foldBreaks_carriage next _ other
      · exact foldBreaks_plain _ _ (promptSpelling_plain letter isCarriage)

theorem opening_plain (name description : PyText) : ∀ letter ∈ opening name description, letter ≠ 13 := by
  have last : ∀ letter ∈ tomlStr description ++ promptHeader, letter ≠ 13 :=
    List.forall_mem_append.mpr ⟨tomlStr_plain description, by decide⟩
  have middle := List.forall_mem_append.mpr ⟨tomlStr_plain name, List.forall_mem_append.mpr
    ⟨(by decide : ∀ letter ∈ 10 :: (pyText "description" ++ [32, 61, 32]), letter ≠ 13), last⟩⟩
  exact List.forall_mem_append.mpr ⟨by decide, middle⟩

theorem spelled_scalar : (letters.flatMap promptSpelling).all isScalar = letters.all isScalar := by
  rw [List.all_flatMap]
  refine congrArg letters.all (funext fun letter => ?_)
  rw [promptSpelling]
  repeat' split
  all_goals simp_all [isScalar, isSurrogate]

theorem tomlStr_scalar (value : PyText) : (tomlStr value).all isScalar = value.all isScalar := by
  have spelled : (value.flatMap spelling).all isScalar = value.all isScalar := by
    rw [List.all_flatMap]
    refine congrArg value.all (funext fun letter => ?_)
    rw [spelling]
    repeat' split
    all_goals simp_all [isScalar, isSurrogate]
  rw [tomlStr_spelling, List.all_cons, List.all_append, spelled]
  simp [isScalar, isSurrogate]

theorem text_scalar (name description content : PyText) :
    (opening name description ++ (content.flatMap promptSpelling ++ [34, 34, 34, 10])).all isScalar =
      (name.all isScalar && description.all isScalar && content.all isScalar) := by
  have first : (pyText "name").all isScalar = true := by decide
  have equals : ([32, 61, 32] : PyText).all isScalar = true := by decide
  have second : (10 :: (pyText "description" ++ [32, 61, 32])).all isScalar = true := by decide
  have third : promptHeader.all isScalar = true := by decide
  have last : ([34, 34, 34, 10] : PyText).all isScalar = true := by decide
  simp only [opening, List.all_append, tomlStr_scalar, spelled_scalar, first, equals, second, third, last, Bool.true_and,
    Bool.and_true, Bool.and_assoc]

theorem loads_text : loads (buildAgentToml agent) =
    if agent.tomlName.all isScalar && agent.tomlDescription.all isScalar && agent.prompt.all isScalar then
      if agent.tomlName.all isSpelled && agent.tomlDescription.all isSpelled &&
          (foldBreaks (agent.prompt ++ [10])).all (isLegal true) then
        some { root := [(pyText "name", agent.tomlName), (pyText "description", agent.tomlDescription)]
               tables := [(pyText "prompt", [(pyText "content", foldBreaks (agent.prompt ++ [10]))])] }
      else none
    else none := by
  have folded : foldBreaks (buildAgentToml agent) = opening agent.tomlName agent.tomlDescription ++
      ((foldBreaks (agent.prompt ++ [10])).flatMap promptSpelling ++ [34, 34, 34, 10]) := by
    rw [build_text, foldBreaks_plain _ _ (opening_plain _ _), foldBreaks_spelled _ _ (by decide),
      foldBreaks_same [34, 34, 34, 10] (by decide)]
  have scalars : (buildAgentToml agent).all isScalar =
      (agent.tomlName.all isScalar && agent.tomlDescription.all isScalar && agent.prompt.all isScalar) := by
    rw [build_text, text_scalar, List.all_append]
    simp [isScalar, isSurrogate]
  obtain ⟨fuel, enough⟩ : ∃ fuel, (foldBreaks (buildAgentToml agent)).length + 1 = fuel + 6 := by
    have long : 5 ≤ (foldBreaks (buildAgentToml agent)).length := by
      rw [folded, opening]
      simp only [List.length_append, List.length_cons]
      omega
    exact ⟨_, (Nat.sub_add_cancel (Nat.succ_le_succ long)).symm⟩
  rw [loads, scalars]
  dsimp only
  rw [enough, folded, readLines_text]

theorem strip_line : strip (strip letters ++ [10]) = strip letters := by
  have whole : strip letters = (letters.dropWhile isSpace).rdropWhile isSpace := rfl
  have again := List.rdropWhile_idempotent isSpace (letters.dropWhile isSpace)
  rw [← whole] at again
  cases shape : strip letters with
  | nil => rfl
  | cons first rest =>
      have dark : ¬ isSpace first = true := by
        obtain ⟨others, split⟩ := List.rdropWhile_prefix isSpace (letters.dropWhile isSpace)
        rw [← whole, shape, List.cons_append] at split
        intro light
        have fixed := List.dropWhile_idempotent isSpace letters
        rw [← split, List.dropWhile_cons_of_pos light] at fixed
        have shorter := (List.dropWhile_sublist isSpace (l := rest ++ others)).length_le
        rw [fixed, List.length_cons] at shorter
        omega
      rw [shape] at again
      change ((first :: rest ++ [10]).dropWhile isSpace).rdropWhile isSpace = first :: rest
      rw [List.cons_append, List.dropWhile_cons_of_neg dark, ← List.cons_append, List.rdropWhile_concat_pos _ _ _ rfl, again]

theorem strip_mem (letter : Nat) (member : letter ∈ strip letters) : letter ∈ letters := by
  rw [strip, List.mem_reverse] at member
  have kept := (List.dropWhile_sublist isSpace).subset member
  rw [List.mem_reverse] at kept
  exact (List.dropWhile_sublist isSpace).subset kept

theorem agent_toml_round_trips_iff :
    (∃ document, loads (buildAgentToml agent) = some document ∧ Holds agent document) ↔ Writable agent := by
  have nameable (letter : Nat) : isNameable letter = (isScalar letter && isSpelled letter) := by
    rw [isNameable, isSpelled, isLegal]
    simp [Bool.or_assoc]
  have promptable (letter : Nat) : isPromptable letter = (isScalar letter && isLegal true letter) := by
    rw [isPromptable, isLegal]
    rfl
  have named (text : PyText) : text.all isNameable = true ↔ text.all isScalar = true ∧ text.all isSpelled = true := by
    simp only [List.all_eq_true, nameable, Bool.and_eq_true]
    exact forall₂_and
  rw [loads_text, Writable, named, named]
  constructor
  · rintro ⟨document, loaded, content, stripped, isDocument⟩
    split at loaded
    · rename_i scalars
      split at loaded
      · rename_i legal
        simp only [Bool.and_eq_true] at scalars legal
        rw [isDocument] at loaded
        simp only [Option.some.injEq, Document.mk.injEq, true_and, List.cons.injEq, Prod.mk.injEq, and_true] at loaded
        refine ⟨⟨scalars.1.1, legal.1.1⟩, ⟨scalars.1.2, legal.1.2⟩, List.all_eq_true.mpr fun letter member => ?_⟩
        rw [promptable, Bool.and_eq_true]
        refine ⟨List.all_eq_true.mp scalars.2 letter member, ?_⟩
        have all := List.all_eq_true.mp legal.2
        by_cases carriage : letter = 13
        · have inside := strip_mem content letter (stripped ▸ member)
          exact all letter (loaded ▸ inside)
        · exact all letter (foldBreaks_keeps _ letter (List.mem_append_left _ member) carriage)
      · cases loaded
    · cases loaded
  · rintro ⟨⟨nameScalar, nameSpelled⟩, ⟨describedScalar, describedSpelled⟩, prompted⟩
    have both (letter : Nat) (member : letter ∈ agent.prompt) : isScalar letter = true ∧ isLegal true letter = true := by
      have one := List.all_eq_true.mp prompted letter member
      rwa [promptable, Bool.and_eq_true] at one
    have scalars : agent.prompt.all isScalar = true := List.all_eq_true.mpr fun letter member => (both letter member).1
    have plain : ∀ letter ∈ agent.prompt ++ [10], letter ≠ 13 := by
      intro letter member
      cases List.mem_append.mp member with
      | inl inside =>
          rintro rfl
          cases (both 13 inside).2
      | inr last =>
          rw [List.mem_singleton.mp last]
          decide
    have legal : (agent.prompt ++ [10]).all (isLegal true) = true := by
      rw [List.all_append, List.all_eq_true.mpr fun letter member => (both letter member).2]
      rfl
    rw [foldBreaks_same _ plain, nameScalar, nameSpelled, describedScalar, describedSpelled, scalars, legal]
    exact ⟨_, rfl, agent.prompt ++ [10], strip_line _, rfl⟩

def ringing : AgentSource where
  name := pyText "pipeline-reviewer"
  frontmatter := { name := some (pyText "reviewer" ++ [7]), description := none }
  body := pyText "Do a code review."

-- A bell in the name goes into the text as it is.
theorem bell_unreadable : ¬ ∃ document, loads (buildAgentToml ringing) = some document ∧ Holds ringing document := by
  have refused : loads (buildAgentToml ringing) = none := by decide +kernel
  rw [refused]
  rintro ⟨document, loaded, _⟩
  cases loaded

end Yaaos.CodingAgent
