import ApiToolkit.Proofs.Naming.Identifier
import ApiToolkit.Proofs.Schema.NormalForm
import ApiToolkit.Proofs.Text.Lines
import ApiToolkit.Schema.Declaration
import Mathlib.Tactic.Choose
/-!
# Types say what schemas are

A type is read back, so a text cannot stand for two schemas that differ in more than what types
leave out.  The reader does not count blanks, and it gives the alternatives one by one as they stand
in the text; a union may list an alternative again that one of its members has.

## What is inside

- `TypeReader.arms?`, `TypeReader.arm?`, `TypeReader.members?`: the reader.
- `TypeReader.Gives`: what the reader comes to, with a rule for each way of going on.
- `TypeReader.ReadsAs`: a text is read as these alternatives, whatever comes after it.
- `TypeReader.readable`: every type is read as the alternatives of the normal form.
- `Schema.normalForm_eq_of_typeText_eq`: types that are the same text have one normal form.
-/

namespace ApiToolkit

open Schema

namespace TypeReader

/-! ## The reader -/

/-- Puts as many arrays around a schema as there are brackets after it. -/
def brackets (item : Schema) : List Char → Schema × List Char
  | '[' :: ']' :: rest => brackets (.array (some item)) rest
  | rest => (item, rest)

/-- Reads a type that is a word. -/
def word? (text : List Char) : Option (Schema × List Char) :=
  [("unknown", Schema.any), ("string", .primitive .string), ("number", .primitive .number),
    ("boolean", .primitive .boolean), ("null", .primitive .null)].findSome? fun word =>
      (Text.stripStart? word.1.toList text).map fun rest => (word.2, rest)

/-- What is between the braces of an object type. -/
structure Members where
  properties : List (String × Schema)
  required : List String
  isOpen : Bool

/-- One more property before the others. -/
def Members.add (members : Members) (name : String) (isOptional : Bool) (schema : Schema) :
    Members where
  properties := (name, schema) :: members.properties
  required := if isOptional then members.required else name :: members.required
  isOpen := members.isOpen

/-- The object that has these members. -/
def Members.toSchema (members : Members) : Schema :=
  .object members.properties members.required members.isOpen

/-- Whether a property is optional. -/
def optionalMark : List Char → Bool × List Char
  | '?' :: rest => (true, rest)
  | rest => (false, rest)

mutual

/-- Reads the alternatives of a type, of which there is at least one. -/
def arms? : Nat → List Char → Option (List Schema × List Char)
  | 0, _ => none
  | fuel + 1, text => do
    let (first, rest) ← arm? fuel text
    let (others, rest) ← more? fuel rest
    some (first :: others, rest)

/-- Reads further alternatives if there are any. -/
def more? : Nat → List Char → Option (List Schema × List Char)
  | 0, _ => none
  | fuel + 1, text =>
    match Text.stripStart? [' ', '|', ' '] text with
    | none => some ([], text)
    | some rest => arms? fuel rest

/-- Reads an alternative. -/
def arm? : Nat → List Char → Option (Schema × List Char)
  | 0, _ => none
  | fuel + 1, text => (base? fuel text).map fun found => brackets found.1 found.2

/-- Reads an alternative without the brackets after it. -/
def base? : Nat → List Char → Option (Schema × List Char)
  | 0, _ => none
  | fuel + 1, text =>
    match text with
    | '(' :: rest => do
      let (arms, rest) ← arms? fuel rest
      let rest ← Text.stripStart? [')'] rest
      some (oneOf arms.eraseDups, rest)
    | '{' :: '}' :: rest => some (.object [] [] false, rest)
    | '{' :: '\n' :: rest => do
      let (members, rest) ← members? fuel rest
      some (members.toSchema, rest)
    | text => word? text

/-- Reads the members of an object type and the brace after them, one member in each line. -/
def members? : Nat → List Char → Option (Members × List Char)
  | 0, _ => none
  | fuel + 1, text =>
    match text.dropWhile (· == ' ') with
    | '}' :: rest => some (⟨[], [], false⟩, rest)
    | '[' :: rest => do
      let rest ← Text.stripStart? "k: string]: unknown\n".toList rest
      let (members, rest) ← members? fuel rest
      some ({ members with isOpen := true }, rest)
    | text => do
      let (name, rest) ← Naming.readKey? text
      let (isOptional, rest) := optionalMark rest
      let rest ← Text.stripStart? [':', ' '] rest
      let (arms, rest) ← arms? fuel rest
      let rest ← Text.stripStart? ['\n'] rest
      let (members, rest) ← members? fuel rest
      some (members.add (String.ofList name) isOptional (oneOf arms.eraseDups), rest)

end

/-- What is read from a text and what is left of it, if there is enough fuel. -/
def Gives {α : Type} (read : Nat → List Char → Option (α × List Char)) (text : List Char)
    (found : α) (rest : List Char) : Prop :=
  ∃ enough, ∀ fuel, enough ≤ fuel → read fuel text = some (found, rest)

section Gives

variable {α β : Type} {read : Nat → List Char → Option (α × List Char)}
  {read' : Nat → List Char → Option (β × List Char)} {text text' rest rest' : List Char}
  {found found' : α} {other : β}

/-- A text is read in one way. -/
theorem Gives.unique (h : Gives read text found rest) (h' : Gives read text found' rest') :
    found = found' ∧ rest = rest' := by
  obtain ⟨enough, hread⟩ := h
  obtain ⟨enough', hread'⟩ := h'
  have heq := (hread (max enough enough') (by omega)).symm.trans
    (hread' (max enough enough') (by omega))
  rw [Option.some.injEq, Prod.mk.injEq] at heq
  exact heq

theorem gives_of_succ (h : ∀ fuel, read (fuel + 1) text = some (found, rest)) :
    Gives read text found rest := by
  refine ⟨1, fun fuel hfuel => ?_⟩
  obtain ⟨before, rfl⟩ : ∃ before, fuel = before + 1 := ⟨fuel - 1, by omega⟩
  exact h before

/-- One more step is taken after what was read before. -/
theorem Gives.step (h : Gives read' text' other rest')
    (hstep : ∀ fuel, read' fuel text' = some (other, rest') →
      read (fuel + 1) text = some (found, rest)) : Gives read text found rest := by
  obtain ⟨enough, hread⟩ := h
  refine ⟨enough + 1, fun fuel hfuel => ?_⟩
  obtain ⟨before, rfl⟩ : ∃ before, fuel = before + 1 := ⟨fuel - 1, by omega⟩
  exact hstep before (hread before (by omega))

theorem Gives.step₂ {γ : Type} {read'' : Nat → List Char → Option (γ × List Char)} {third : γ}
    {text'' rest'' : List Char} (h : Gives read' text' other rest')
    (h' : Gives read'' text'' third rest'')
    (hstep : ∀ fuel, read' fuel text' = some (other, rest') →
      read'' fuel text'' = some (third, rest'') → read (fuel + 1) text = some (found, rest)) :
    Gives read text found rest := by
  obtain ⟨enough, hread⟩ := h
  obtain ⟨enough', hread'⟩ := h'
  refine ⟨max enough enough' + 1, fun fuel hfuel => ?_⟩
  obtain ⟨before, rfl⟩ : ∃ before, fuel = before + 1 := ⟨fuel - 1, by omega⟩
  exact hstep before (hread before (by omega)) (hread' before (by omega))

end Gives

/-! ## Alternatives -/

section Arms

variable {text rest after : List Char} {item : Schema} {arms others : List Schema}

theorem gives_arms (h : Gives arm? text item rest) (hmore : Gives more? rest others after) :
    Gives arms? text (item :: others) after := by
  refine h.step₂ hmore fun fuel hitem hothers => ?_
  rw [arms?, hitem]
  simp only [Option.bind_eq_bind, Option.bind_some, hothers]

theorem gives_more_nil (h : rest.head? ≠ some ' ') : Gives more? rest [] rest := by
  have hnone : Text.stripStart? [' ', '|', ' '] rest = none := by
    rw [Option.eq_none_iff_forall_ne_some]
    intro after hafter
    rw [Text.stripStart?_eq_some_iff] at hafter
    exact h (by rw [hafter]; rfl)
  refine gives_of_succ fun fuel => ?_
  rw [more?, hnone]

theorem gives_more_bar (h : Gives arms? text arms rest) :
    Gives more? ([' ', '|', ' '] ++ text) arms rest := by
  refine h.step fun fuel harms => ?_
  rw [more?, Text.stripStart?_eq_some_iff.mpr rfl]
  exact harms

theorem gives_arm (h : Gives base? text item rest) :
    Gives arm? text (brackets item rest).1 (brackets item rest).2 := by
  refine h.step fun fuel hbase => ?_
  rw [arm?, hbase]
  rfl

theorem gives_parentheses (h : Gives arms? text arms (')' :: rest)) :
    Gives base? ('(' :: text) (oneOf arms.eraseDups) rest := by
  have hclose : Text.stripStart? [')'] (')' :: rest) = some rest := rfl
  refine h.step fun fuel harms => ?_
  rw [base?, harms]
  simp only [Option.bind_eq_bind, Option.bind_some, hclose]

end Arms

/-! ## Brackets and words -/

theorem brackets_of_head?_ne {rest : List Char} (h : rest.head? ≠ some '[') (item : Schema) :
    brackets item rest = (item, rest) := by
  unfold brackets
  split
  · exact absurd rfl h
  · rfl

theorem word?_unknown (rest : List Char) :
    word? ("unknown".toList ++ rest) = some (.any, rest) := rfl

theorem word?_primitiveText (type : Primitive) (rest : List Char) :
    word? (primitiveText type ++ rest) = some (normalForm (.primitive type), rest) := by
  cases type <;> rfl

/-- A type that begins with a letter is a word. -/
theorem gives_word {text rest after : List Char} {c : Char} {item : Schema}
    (htext : text = c :: rest) (h : Naming.isIdentifierStart c = true)
    (hword : word? text = some (item, after)) : Gives base? text item after := by
  refine gives_of_succ fun fuel => ?_
  rw [← hword, base?]
  -- The three other cases of the reader begin with a parenthesis or a brace.
  all_goals
    intro after heq
    have hfirst := (List.cons.inj (htext.symm.trans heq)).1
    exact Naming.ne_of_isPart h (by decide) hfirst

/-! ## Members -/

theorem dropWhile_indentation (depth : Nat) {c : Char} (h : c ≠ ' ') (rest : List Char) :
    (indentation depth ++ c :: rest).dropWhile (· == ' ') = c :: rest := by
  have hblank : ∀ c ∈ indentation depth, (c == ' ') = true := by
    intro c hc
    rw [List.eq_of_mem_replicate hc]
    rfl
  rw [List.dropWhile_append_of_pos hblank, List.dropWhile_cons_of_neg (by simpa using h)]

section Members

variable {members : Members} {arms : List Schema} {type text rest : List Char}

theorem gives_close (depth : Nat) (rest : List Char) :
    Gives members? (indentation depth ++ '}' :: rest) ⟨[], [], false⟩ rest := by
  refine gives_of_succ fun fuel => ?_
  rw [members?, dropWhile_indentation depth (by decide)]
  rfl

theorem gives_index (depth : Nat) (h : Gives members? text members rest) :
    Gives members? (indexSignature depth ++ '\n' :: text) { members with isOpen := true } rest := by
  have hsignature : indexSignature depth ++ '\n' :: text =
      indentation (depth + 1) ++ '[' :: ("k: string]: unknown\n".toList ++ text) := by
    rw [indexSignature, List.append_assoc]
    rfl
  have hstrip : Text.stripStart? "k: string]: unknown\n".toList
      ("k: string]: unknown\n".toList ++ text) = some text := Text.stripStart?_eq_some_iff.mpr rfl
  refine h.step fun fuel hmembers => ?_
  rw [hsignature, members?, dropWhile_indentation (depth + 1) (by decide)]
  simp only [hstrip, hmembers, Option.bind_eq_bind, Option.bind_some]

/-- A key begins with neither a blank nor a bracket nor a brace. -/
theorem exists_propertyKey_eq_cons (name : List Char) : ∃ c rest,
    Naming.propertyKey name = c :: rest ∧ c ≠ ' ' ∧ c ≠ '}' ∧ c ≠ '[' := by
  unfold Naming.propertyKey
  split
  next hname =>
    cases name with
    | nil => cases hname
    | cons c rest =>
      have hpart := Naming.isIdentifierPart_of_mem hname c (List.mem_cons_self ..)
      exact ⟨c, rest, rfl, Naming.ne_of_isPart hpart (by decide),
        Naming.ne_of_isPart hpart (by decide), Naming.ne_of_isPart hpart (by decide)⟩
  next => exact ⟨'"', _, rfl, by decide, by decide, by decide⟩

/-- A key ends before the mark of an optional property, and before the colon if there is no mark. -/
theorem readKey?_marked (name : List Char) (isOptional : Bool) (rest : List Char) :
    Naming.readKey?
        (Naming.propertyKey name ++ ((if isOptional then ['?'] else []) ++ ':' :: rest)) =
      some (name, (if isOptional then ['?'] else []) ++ ':' :: rest) := by
  cases isOptional with
  | true => exact Naming.readKey?_propertyKey name (by decide) (':' :: rest)
  | false => exact Naming.readKey?_propertyKey name (by decide) rest

theorem optionalMark_marked (isOptional : Bool) (rest : List Char) :
    optionalMark ((if isOptional then ['?'] else []) ++ ':' :: rest) =
      (isOptional, ':' :: rest) := by
  cases isOptional <;> rfl

/-- A property is read with its type, and then the members after it. -/
theorem gives_member (depth : Nat) (name : String) (isOptional : Bool)
    (htype : Gives arms? (type ++ '\n' :: text) arms ('\n' :: text))
    (htext : Gives members? text members rest) :
    Gives members? (indentation depth ++ (Naming.propertyKey name.toList ++
        ((if isOptional then ['?'] else []) ++ ':' :: ' ' :: (type ++ '\n' :: text))))
      (members.add name isOptional (oneOf arms.eraseDups)) rest := by
  obtain ⟨c, more, hkey, hblank, hbrace, hbracket⟩ := exists_propertyKey_eq_cons name.toList
  have hread := readKey?_marked name.toList isOptional (' ' :: (type ++ '\n' :: text))
  have hmark := optionalMark_marked isOptional (' ' :: (type ++ '\n' :: text))
  have hcolon : ∀ after, Text.stripStart? [':', ' '] (':' :: ' ' :: after) = some after :=
    fun _ => rfl
  have hfeed : Text.stripStart? ['\n'] ('\n' :: text) = some text := rfl
  generalize (if isOptional then ['?'] else []) ++ ':' :: ' ' :: (type ++ '\n' :: text) = marked
    at hread hmark
  rw [hkey, List.cons_append] at hread ⊢
  refine htype.step₂ htext fun fuel harms hmembers => ?_
  rw [members?, dropWhile_indentation depth hblank]
  -- The line is neither the end of the object nor its index signature.
  split
  next heq => exact absurd (List.cons.inj heq).1 hbrace
  next heq => exact absurd (List.cons.inj heq).1 hbracket
  next =>
    simp only [hread, hmark, hcolon, harms, hfeed, hmembers, Option.bind_eq_bind,
      Option.bind_some, String.ofList_toList]

end Members

/-! ## Reading types -/

/-- A text is read as these alternatives, whatever comes after it. -/
def ReadsAs (text : List Char) (arms : List Schema) : Prop :=
  ∀ rest others after, rest.head? ≠ some '[' → Gives more? rest others after →
    Gives arms? (text ++ rest) (arms ++ others) after

theorem ReadsAs.gives {text : List Char} {arms : List Schema} (h : ReadsAs text arms)
    {rest : List Char} (hbracket : rest.head? ≠ some '[') (hblank : rest.head? ≠ some ' ') :
    Gives arms? (text ++ rest) arms rest := by
  have hread := h rest [] rest hbracket (gives_more_nil hblank)
  rwa [List.append_nil] at hread

theorem ReadsAs.unique {text : List Char} {arms arms' : List Schema} (h : ReadsAs text arms)
    (h' : ReadsAs text arms') : arms = arms' := by
  have hread : Gives arms? (text ++ []) arms [] := h.gives nofun nofun
  have hread' : Gives arms? (text ++ []) arms' [] := h'.gives nofun nofun
  exact (hread.unique hread').1

/-- An alternative is read as one. -/
theorem readsAs_of_arm {text : List Char} {schema : Schema}
    (h : ∀ rest, Gives arm? (text ++ rest) (brackets schema rest).1 (brackets schema rest).2) :
    ReadsAs text [schema] := by
  intro rest others after hbracket hmore
  have harm := h rest
  rw [brackets_of_head?_ne hbracket] at harm
  exact gives_arms harm hmore

/-- Alternatives are read one after another. -/
theorem readsAs_joinWith {arms : List Char → List Schema} {texts : List (List Char)}
    (hne : texts ≠ []) (h : ∀ text ∈ texts, ReadsAs text (arms text)) :
    ReadsAs (Text.joinWith [' ', '|', ' '] texts) (texts.flatMap arms) := by
  induction texts with
  | nil => exact absurd rfl hne
  | cons text rest ih =>
    rw [List.forall_mem_cons] at h
    cases rest with
    | nil =>
      rw [List.flatMap_singleton]
      exact h.1
    | cons next rest =>
      have hothers := ih (List.cons_ne_nil _ _) h.2
      intro after others left hafter hmore
      -- The first text is followed by a bar, so reading goes on with the others.
      have hbar := gives_more_bar (hothers after others left hafter hmore)
      rw [Text.joinWith, List.append_assoc, List.append_assoc, List.flatMap_cons,
        List.append_assoc]
      exact h.1 _ _ _ (by simp) hbar

/-! ## Object types -/

/-- A type is read as the alternatives of the normal form, though some may come twice. -/
def ReadsAsNormalForm (text : List Char) (schema : Schema) : Prop :=
  ∃ arms, ReadsAs text arms ∧ arms.eraseDups = alternatives (normalForm schema)

/-- The members of an object are read one after another, with what is read after them. -/
theorem gives_memberTexts (depth : Nat) (required : List String) (isOpen : Bool)
    {properties : List (String × Schema)}
    (h : ∀ entry ∈ properties, ReadsAsNormalForm (typeText (depth + 1) entry.2) entry.2)
    {text rest : List Char} (htext : Gives members? text ⟨[], [], isOpen⟩ rest) :
    Gives members? ((memberTexts depth required properties).flatMap (· ++ ['\n']) ++ text)
      ⟨normalProperties properties, (properties.map (·.1)).filter required.contains, isOpen⟩
      rest := by
  induction properties with
  | nil => exact htext
  | cons entry others ih =>
    obtain ⟨name, schema⟩ := entry
    obtain ⟨⟨arms, hread, harms⟩, hothers⟩ := List.forall_mem_cons.mp h
    have hmore := ih hothers
    have hform : oneOf arms.eraseDups = normalForm schema := by
      rw [harms, oneOf_alternatives_normalForm]
    have hmark : (if required.contains name then [] else ['?']) =
        if !required.contains name then ['?'] else [] := by
      cases required.contains name <;> rfl
    have hmember := gives_member (depth + 1) name (!required.contains name)
      (hread.gives (by simp) (by simp)) hmore
    rw [hform] at hmember
    rw [memberTexts, List.flatMap_cons, hmark, List.map_cons, List.filter_cons]
    simp only [List.append_assoc, List.cons_append, List.nil_append] at hmember ⊢
    -- A property without a mark is the one that is required.
    cases hcontains : required.contains name with
    | true =>
      rw [hcontains] at hmember
      exact hmember
    | false =>
      rw [hcontains] at hmember
      exact hmember

/-- The member for undeclared properties, if there is one. -/
def indexTexts (depth : Nat) (isOpen : Bool) : List (List Char) :=
  if isOpen then [indexSignature depth] else []

theorem gives_indexTexts (depth : Nat) (isOpen : Bool) (rest : List Char) :
    Gives members? ((indexTexts depth isOpen).flatMap (· ++ ['\n']) ++
        (indentation depth ++ '}' :: rest)) ⟨[], [], isOpen⟩ rest := by
  have hclose := gives_close depth rest
  cases isOpen with
  | false =>
    have hnone : indexTexts depth false = [] := rfl
    rw [hnone, List.flatMap_nil, List.nil_append]
    exact hclose
  | true =>
    have hsome : indexTexts depth true = [indexSignature depth] := rfl
    rw [hsome, List.flatMap_singleton, List.append_assoc, List.singleton_append]
    exact gives_index depth hclose

theorem gives_braces {members : Members} {text rest : List Char}
    (h : Gives members? text members rest) :
    Gives base? ('{' :: '\n' :: text) members.toSchema rest := by
  refine h.step fun fuel hmembers => ?_
  rw [base?, hmembers]
  rfl

/-- **Objects**: an object type is read as the normal form of its object. -/
theorem gives_object (depth : Nat) (required : List String) (isOpen : Bool)
    {properties : List (String × Schema)}
    (h : ∀ entry ∈ properties, ReadsAsNormalForm (typeText (depth + 1) entry.2) entry.2)
    (rest : List Char) :
    Gives base? (typeText depth (.object properties required isOpen) ++ rest)
      (normalForm (.object properties required isOpen)) rest := by
  have hindex := gives_indexTexts depth isOpen rest
  have hmembers := gives_memberTexts depth required isOpen h hindex
  rw [← List.append_assoc, ← List.flatMap_append] at hmembers
  have htext : typeText depth (.object properties required isOpen) =
      braced depth (memberTexts depth required properties ++ indexTexts depth isOpen) := rfl
  rw [htext, braced]
  split
  next hnone =>
    -- Nothing is declared and nothing else is allowed.
    obtain ⟨htexts, hclosed⟩ := List.append_eq_nil_iff.mp (List.isEmpty_iff.mp hnone)
    have hproperties : properties = [] := by
      cases properties with
      | nil => rfl
      | cons entry rest => cases htexts
    have hopen : isOpen = false := by
      cases isOpen with
      | false => rfl
      | true => cases hclosed
    rw [hproperties, hopen]
    exact gives_of_succ fun fuel => by rw [List.cons_append, List.cons_append, base?]; rfl
  next hsome =>
    have hne : memberTexts depth required properties ++ indexTexts depth isOpen ≠ [] := fun heq =>
      hsome (List.isEmpty_iff.mpr heq)
    rw [← Text.joinWith_append_newline hne] at hmembers
    generalize Text.joinWith ['\n'] (memberTexts depth required properties ++
      indexTexts depth isOpen) = lines at hmembers
    have hlines : ['{', '\n'] ++ lines ++ ['\n'] ++ indentation depth ++ ['}'] ++ rest =
        '{' :: '\n' :: (lines ++ ['\n'] ++ (indentation depth ++ '}' :: rest)) := by
      simp only [List.append_assoc, List.cons_append, List.nil_append]
    rw [hlines]
    exact gives_braces hmembers

/-! ## All types -/

/-- How a type is read: it gives the alternatives of the normal form, and if it is no union, it can
be read before brackets. -/
structure Readable (schema : Schema) : Prop where
  arms : ∀ depth, ReadsAsNormalForm (typeText depth schema) schema
  arm : (∀ members, schema ≠ .union members) → ∀ depth rest,
    Gives arm? (typeText depth schema ++ rest) (brackets (normalForm schema) rest).1
      (brackets (normalForm schema) rest).2

/-- An alternative is read alone and before brackets in the same way. -/
theorem readable_of_arm {schema : Schema} (hne : ∀ members, schema ≠ .union members)
    (h : ∀ depth rest, Gives arm? (typeText depth schema ++ rest)
      (brackets (normalForm schema) rest).1 (brackets (normalForm schema) rest).2) :
    Readable schema where
  arms depth := by
    refine ⟨[normalForm schema], readsAs_of_arm (h depth), ?_⟩
    rw [alternatives_of_ne_union (normalForm_ne_union hne)]
    rfl
  arm _ := h

theorem readable_of_base {schema : Schema} (hne : ∀ members, schema ≠ .union members)
    (h : ∀ depth rest, Gives base? (typeText depth schema ++ rest) (normalForm schema) rest) :
    Readable schema :=
  readable_of_arm hne fun depth rest => gives_arm (h depth rest)

theorem readable_any : Readable .any := by
  refine readable_of_base nofun fun depth rest => ?_
  have hhead : "unknown".toList ++ rest = 'u' :: ("nknown".toList ++ rest) := rfl
  exact gives_word hhead (by decide) (word?_unknown rest)

theorem readable_primitive (type : Primitive) : Readable (.primitive type) := by
  refine readable_of_base nofun fun depth rest => ?_
  have hhead : ∃ c more, primitiveText type ++ rest = c :: more ∧
      Naming.isIdentifierStart c = true := by
    cases type <;> exact ⟨_, _, rfl, by decide⟩
  obtain ⟨c, more, hhead, hc⟩ := hhead
  exact gives_word hhead hc (word?_primitiveText type rest)

theorem readable_array_none : Readable (.array none) := by
  refine readable_of_arm nofun fun depth rest => ?_
  have htext : typeText depth (.array none) ++ rest = "unknown".toList ++ '[' :: ']' :: rest := rfl
  have hhead : "unknown".toList ++ '[' :: ']' :: rest =
      'u' :: ("nknown".toList ++ '[' :: ']' :: rest) := rfl
  have hbase : Gives base? ("unknown".toList ++ '[' :: ']' :: rest) .any ('[' :: ']' :: rest) :=
    gives_word hhead (by decide) (word?_unknown _)
  -- The brackets after the word are taken in.
  have harm := gives_arm hbase
  rw [htext]
  exact harm

/-- **Arrays**: a union before brackets stands between parentheses, and nothing else does. -/
theorem readable_array {items : Schema} (h : Readable items) : Readable (.array (some items)) := by
  refine readable_of_arm nofun fun depth rest => ?_
  rw [typeText_array]
  cases items with
  | union members =>
    obtain ⟨arms, hread, harms⟩ := h.arms depth
    have hinside : Gives arms? (typeText depth (.union members) ++ ')' :: '[' :: ']' :: rest) arms
        (')' :: '[' :: ']' :: rest) := hread.gives nofun nofun
    have hbase := gives_parentheses hinside
    rw [harms, oneOf_alternatives_normalForm] at hbase
    have htext : '(' :: typeText depth (.union members) ++ [')', '[', ']'] ++ rest =
        '(' :: (typeText depth (.union members) ++ ')' :: '[' :: ']' :: rest) := by
      simp only [List.append_assoc, List.cons_append, List.nil_append]
    show Gives arm? ('(' :: typeText depth (.union members) ++ [')', '[', ']'] ++ rest) _ _
    have harm := gives_arm hbase
    rw [htext]
    exact harm
  | _ =>
    show Gives arm? (typeText depth _ ++ ['[', ']'] ++ rest) _ _
    rw [List.append_assoc]
    exact h.arm nofun depth ('[' :: ']' :: rest)

/-- **Unions**: members that are the same text are read as the same alternatives, so nothing is lost
when the text is written once. -/
theorem readable_union {members : List Schema} (hne : members ≠ [])
    (h : ∀ member ∈ members, Readable member) : Readable (.union members) where
  arm hunion := absurd rfl (hunion members)
  arms depth := by
    have hread : ∀ text ∈ typeTexts depth members, ∃ arms, ReadsAs text arms := by
      intro text htext
      rw [typeTexts_eq_map] at htext
      obtain ⟨member, hmember, rfl⟩ := List.mem_map.mp htext
      obtain ⟨arms, hread, -⟩ := (h member hmember).arms depth
      exact ⟨arms, hread⟩
    -- The alternatives belong to the text, so members with one text have them in common.
    choose! arms harms using hread
    have hsome : (typeTexts depth members).eraseDups ≠ [] := by
      obtain ⟨first, rest, rfl⟩ := List.exists_cons_of_ne_nil hne
      rw [typeTexts, List.eraseDups_cons]
      exact List.cons_ne_nil _ _
    have hforms : ∀ member ∈ members, (arms (typeText depth member)).eraseDups =
        (alternatives (normalForm member)).eraseDups := by
      intro member hmember
      obtain ⟨others, hothers, hform⟩ := (h member hmember).arms depth
      have htext : typeText depth member ∈ typeTexts depth members := by
        rw [typeTexts_eq_map]
        exact List.mem_map_of_mem hmember
      rw [(harms _ htext).unique hothers, ← hform, eraseDups_of_nodup (nodup_eraseDups others)]
    have hdistinct := fun text htext => harms text (List.mem_eraseDups.mp htext)
    refine ⟨_, readsAs_joinWith hsome hdistinct, ?_⟩
    rw [eraseDups_flatMap_eraseDups, typeTexts_eq_map, List.flatMap_map,
      eraseDups_flatMap_congr hforms, alternatives_normalForm_union]

/-- **Types**: every type is read as the normal form of its schema. -/
theorem readable {schema : Schema} (h : Everywhere (· ≠ .union []) schema) : Readable schema := by
  -- The induction is on the schema; everything below a node is readable at every depth.
  induction h with
  | @node schema here below ih =>
    cases schema with
    | any => exact readable_any
    | primitive type => exact readable_primitive type
    | object properties required isOpen =>
      refine readable_of_base nofun fun depth rest => ?_
      refine gives_object depth required isOpen (fun entry hentry => ?_) rest
      exact (ih entry.2 (List.mem_map_of_mem hentry)).arms (depth + 1)
    | array items =>
      cases items with
      | none => exact readable_array_none
      | some items => exact readable_array (ih items (List.mem_singleton_self items))
    | union members =>
      have hne : members ≠ [] := fun heq => here (congrArg Schema.union heq)
      exact readable_union hne ih

end TypeReader

namespace Schema

open TypeReader

/-- **Types**: schemas whose types are the same text have one normal form.  When a union is written,
an alternative that is left out has the normal form of one that is kept. -/
theorem normalForm_eq_of_typeText_eq (depth : Nat) (first second : Schema)
    (hfirst : Everywhere (· ≠ .union []) first) (hsecond : Everywhere (· ≠ .union []) second) :
    (typeText depth first = typeText depth second → normalForm first = normalForm second) ∧
    ∀ members, first = .union members → ∃ kept : List Schema, kept.Sublist members ∧
      typeText depth first = Text.joinWith " | ".toList (kept.map (typeText depth)) ∧
      ∀ member ∈ members, ∃ other ∈ kept, normalForm other = normalForm member := by
  have hread : ∀ {schema other : Schema}, Everywhere (· ≠ .union []) schema →
      Everywhere (· ≠ .union []) other → typeText depth schema = typeText depth other →
        normalForm schema = normalForm other := by
    intro schema other hschema hother htext
    obtain ⟨arms, hreads, harms⟩ := (readable hschema).arms depth
    obtain ⟨arms', hreads', harms'⟩ := (readable hother).arms depth
    rw [htext] at hreads
    rw [← oneOf_alternatives_normalForm schema, ← harms, hreads.unique hreads', harms',
      oneOf_alternatives_normalForm]
  refine ⟨hread hfirst hsecond, ?_⟩
  rintro members rfl
  have hmembers : ∀ member ∈ members, Everywhere (· ≠ .union []) member := hfirst.child
  obtain ⟨kept, hsublist, hkept, hfound⟩ :=
    exists_sublist_map_eq_eraseDups (typeText depth) members
  refine ⟨kept, hsublist, ?_, ?_⟩
  · rw [typeText_union, typeTexts_eq_map, hkept]
    rfl
  · intro member hmember
    obtain ⟨other, hother, htext⟩ := hfound member hmember
    have hsame := hread (hmembers other (hsublist.mem hother)) (hmembers member hmember) htext
    exact ⟨other, hother, hsame⟩

/-- An object with a key in quotes, a union of equal types, and a required name that is not
declared. -/
def sampleType : Schema :=
  .object [("a | \"b\"", .union [.primitive .integer, .primitive .number])] ["c"] false

/-- The same type without what types leave out. -/
def sampleType' : Schema := .object [("a | \"b\"", .primitive .number)] [] false

theorem normalForm_sampleType :
    Everywhere (· ≠ .union []) sampleType ∧ Everywhere (· ≠ .union []) sampleType' ∧
    typeText 0 sampleType = typeText 0 sampleType' ∧
    normalForm sampleType = normalForm sampleType' := by
  have hprimitive : ∀ type, Everywhere (· ≠ .union []) (.primitive type) := fun type =>
    .node nofun (List.forall_mem_nil _)
  have hunion : Everywhere (· ≠ .union []) (.union [.primitive .integer, .primitive .number]) :=
    .node nofun (List.forall_mem_cons.mpr
      ⟨hprimitive _, List.forall_mem_singleton.mpr (hprimitive _)⟩)
  have hfirst : Everywhere (· ≠ .union []) sampleType :=
    .node nofun (List.forall_mem_singleton.mpr hunion)
  have hsecond : Everywhere (· ≠ .union []) sampleType' :=
    .node nofun (List.forall_mem_singleton.mpr (hprimitive _))
  have htext : typeText 0 sampleType = typeText 0 sampleType' := rfl
  exact ⟨hfirst, hsecond, htext,
    (normalForm_eq_of_typeText_eq 0 sampleType sampleType' hfirst hsecond).1 htext⟩

end Schema

end ApiToolkit
