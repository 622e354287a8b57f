import ApiToolkit.Proofs.Service.Blocks
import Mathlib.Data.List.Nodup
/-!
# The names in the hub module

The hub imports types from the modules of all services and declares types of its own.  The names are
prefixes of services with suffixes after them.  Prefixes are only known to differ, so one name could
be put together in two ways; it is not because no suffix is the end of another one.

## What is inside

- `Declarations.statement?`: reading a line of the hub, with `Declarations.Reads` for several lines.
- `Declarations.repositoryKeys?`: reading the keys of the repository.
- `Declarations.hubNames`, `Declarations.nodup_hubNames`: the names, and that they are distinct.
- `Declarations.names_of_hub`: what is read from the hub of registered services.
-/

namespace ApiToolkit.Declarations

/-! ## Reading lines -/

/-- What a line of the hub says. -/
inductive Statement where
  /-- The line imports types of a module under these names. -/
  | imported (names : List (List Char)) (moduleName : List Char)
  /-- The line begins the declaration of this name. -/
  | declared (name : List Char)
  /-- The line goes on with a declaration, or is empty. -/
  | continued

/-- The names that a line introduces. -/
def Statement.names : Statement → List (List Char)
  | .imported names _ => names
  | .declared name => [name]
  | .continued => []

/-- The module that a line imports. -/
def Statement.module? : Statement → Option (List Char)
  | .imported _ moduleName => some moduleName
  | _ => none

/-- The name that a declaration begins with. -/
def declaredName (text : List Char) : List Char := text.takeWhile fun c => c != ' ' && c != '<'

/-- The parts of a text between its blanks. -/
def words (text : List Char) : List (List Char) :=
  (Text.splitBy (· == ' ') text).filter fun word => !word.isEmpty

/-- The name after `as` in an import. -/
def localName? (text : List Char) : Option (List Char) :=
  match words text with
  | [_, keyword, name] => if keyword = ['a', 's'] then some name else none
  | _ => none

/-- The names and the module of an import. -/
def importOf? (text : List Char) : Option Statement :=
  let bindings := text.takeWhile (· != '}')
  let source := text.dropWhile (· != '}')
  ((Text.splitBy (· == ',') bindings).mapM localName?).bind fun names =>
    ((Text.stripStart? "\x7d from '".toList source).bind (Text.stripEnd? ['\''])).map
      fun moduleName => .imported names moduleName

/-- Whether a line has nothing in the column of declarations but a closing character. -/
def isContinued (line : List Char) : Bool :=
  (line.drop 2).head?.all fun c => c == ' ' || c == '>' || c == '}'

/-- Reads a line of the hub. -/
def statement? (line : List Char) : Option Statement :=
  if isContinued line then some .continued
  else match Text.stripStart? "  export type ".toList line with
    | some rest => some (.declared (declaredName rest))
    | none =>
      match Text.stripStart? "  interface ".toList line with
      | some rest => some (.declared (declaredName rest))
      | none => (Text.stripStart? "  import \x7b ".toList line).bind importOf?

/-- Lines that can be read introduce these names and import these modules. -/
def Reads (lines : List (List Char)) (names modules : List (List Char)) : Prop :=
  ∃ statements, lines.mapM statement? = some statements ∧
    statements.flatMap Statement.names = names ∧ statements.filterMap Statement.module? = modules

theorem reads_nil : Reads [] [] [] := ⟨[], rfl, rfl, rfl⟩

theorem reads_cons {line : List Char} {statement : Statement} {lines names modules}
    (hline : statement? line = some statement) (hlines : Reads lines names modules) :
    Reads (line :: lines) (statement.names ++ names) (statement.module?.toList ++ modules) := by
  obtain ⟨statements, hread, rfl, rfl⟩ := hlines
  refine ⟨statement :: statements, ?_, List.flatMap_cons, ?_⟩
  · rw [List.mapM_cons, hline, hread]
    rfl
  · cases hmodule : statement.module? with
    | none => rw [List.filterMap_cons_none hmodule]; rfl
    | some moduleName => rw [List.filterMap_cons_some hmodule]; rfl

theorem reads_append {first second names names' modules modules'}
    (hfirst : Reads first names modules) (hsecond : Reads second names' modules') :
    Reads (first ++ second) (names ++ names') (modules ++ modules') := by
  obtain ⟨statements, hread, rfl, rfl⟩ := hfirst
  obtain ⟨statements', hread', rfl, rfl⟩ := hsecond
  refine ⟨statements ++ statements', ?_, List.flatMap_append, List.filterMap_append⟩
  rw [List.mapM_append, hread, hread']
  rfl

theorem reads_flatMap {α : Type} {items : List α} {lines names modules : α → List (List Char)}
    (h : ∀ item ∈ items, Reads (lines item) (names item) (modules item)) :
    Reads (items.flatMap lines) (items.flatMap names) (items.flatMap modules) := by
  induction items with
  | nil => exact reads_nil
  | cons item rest ih =>
    rw [List.forall_mem_cons] at h
    exact reads_append h.1 (ih h.2)

/-- Several declarations import nothing if each of them imports nothing. -/
theorem reads_flatMap_declarations {α : Type} {items : List α} {lines names : α → List (List Char)}
    (h : ∀ item ∈ items, Reads (lines item) (names item) []) :
    Reads (items.flatMap lines) (items.flatMap names) [] := by
  have hreads := reads_flatMap h
  have hnone : items.flatMap (fun _ => ([] : List (List Char))) = [] :=
    List.flatMap_eq_nil_iff.mpr fun _ _ => rfl
  rwa [hnone] at hreads

theorem statement?_of_isContinued {line : List Char} (h : isContinued line = true) :
    statement? line = some .continued := if_pos h

theorem reads_continued {lines : List (List Char)} (h : ∀ line ∈ lines, isContinued line = true) :
    Reads lines [] [] := by
  induction lines with
  | nil => exact reads_nil
  | cons line rest ih =>
    rw [List.forall_mem_cons] at h
    exact reads_cons (statement?_of_isContinued h.1) (ih h.2)

/-! ## Declarations -/

theorem declaredName_append {name : List Char}
    (hname : ∀ c ∈ name, Naming.isIdentifierPart c = true) {rest : List Char}
    (hrest : ∀ c ∈ rest.head?, c = ' ' ∨ c = '<') : declaredName (name ++ rest) = name := by
  have hpart : ∀ c ∈ name, (c != ' ' && c != '<') = true := by
    intro c hc
    rw [Bool.and_eq_true, bne_iff_ne, bne_iff_ne]
    exact ⟨Naming.ne_of_isPart (hname c hc) (by decide),
      Naming.ne_of_isPart (hname c hc) (by decide)⟩
  unfold declaredName
  rw [List.takeWhile_append_of_pos hpart]
  cases rest with
  | nil => rw [List.takeWhile_nil, List.append_nil]
  | cons c more =>
    have hc := hrest c rfl
    rw [List.takeWhile_cons_of_neg (by rcases hc with rfl | rfl <;> decide), List.append_nil]

theorem statement?_export (rest : List Char) :
    statement? ("  export type ".toList ++ rest) = some (.declared (declaredName rest)) := by
  have hstrip : Text.stripStart? "  export type ".toList ("  export type ".toList ++ rest) =
      some rest := Text.stripStart?_eq_some_iff.mpr rfl
  have hcontinued : isContinued ("  export type ".toList ++ rest) = false := rfl
  rw [statement?, hcontinued, hstrip]
  rfl

/-- The name of the interface that lists the paths of all services. -/
def repositoryName : String := "OpenAPISchemaRepository"

theorem reads_repositoryLines (services : List Service) :
    Reads (repositoryLines services) [repositoryName.toList] [] := by
  have hhead : statement? "  interface OpenAPISchemaRepository \x7b".toList =
      some (.declared repositoryName.toList) := rfl
  have hmembers : ∀ line ∈ services.map repositoryLine ++ ["  \x7d".toList],
      isContinued line = true := by
    intro line hline
    rcases List.mem_append.mp hline with hmember | hclose
    · obtain ⟨service, -, rfl⟩ := List.mem_map.mp hmember
      rfl
    · rw [List.mem_singleton.mp hclose]
      rfl
  exact reads_cons hhead (reads_continued hmembers)

theorem isContinued_of_continues {line : List Char} (h : continues line = true) :
    isContinued line = true := by
  obtain ⟨c, rest, rfl, rfl | rfl⟩ := exists_of_continues h <;> rfl

/-- What stands after the name of a helper does not belong to the name. -/
theorem suffix_and_tail (p : String) : ∀ helper ∈ helpers p,
    helper.suffix.toList.all Naming.isIdentifierPart = true ∧
      ∀ c ∈ helper.tail.toList.head?, c = ' ' ∨ c = '<' := by
  have hblank : ∀ text more : String, text.toList.head? = some ' ' →
      ∀ c ∈ (text ++ more).toList.head?, c = ' ' ∨ c = '<' := by
    intro text more htext c hc
    rw [String.toList_append, List.head?_append, htext] at hc
    exact .inl (Option.mem_some.mp hc).symm
  have hangle : ∀ text more : String, text.toList.head? = some '<' →
      ∀ c ∈ (text ++ more).toList.head?, c = ' ' ∨ c = '<' := by
    intro text more htext c hc
    rw [String.toList_append, List.head?_append, htext] at hc
    exact .inr (Option.mem_some.mp hc).symm
  have hopen : ∀ c ∈ "<".toList.head?, c = ' ' ∨ c = '<' := by
    have hhead : "<".toList.head? = some '<' := rfl
    rw [hhead]
    intro c hc
    exact .inr (Option.mem_some.mp hc).symm
  simp only [helpers, List.forall_mem_cons, String.append_assoc]
  and_intros
  all_goals first
    | exact List.forall_mem_nil _
    | exact hblank _ _ rfl
    | exact hangle _ _ rfl
    | exact hopen
    | exact Naming.all_ofList (by decide)

theorem reads_helper {p : String} (hp : Naming.isIdentifier p.toList = true) :
    ∀ helper ∈ helpers p, Reads (Helper.lines p helper) [(p ++ helper.suffix).toList] [] := by
  intro helper hhelper
  obtain ⟨hsuffix, htail⟩ := suffix_and_tail p helper hhelper
  have hname : ∀ c ∈ (p ++ helper.suffix).toList, Naming.isIdentifierPart c = true := by
    rw [String.toList_append]
    exact Naming.isIdentifierPart_of_mem (Naming.isIdentifier_append hp hsuffix)
  have hline : ("  export type " ++ p ++ helper.suffix ++ helper.tail).toList =
      "  export type ".toList ++ ((p ++ helper.suffix).toList ++ helper.tail.toList) := by
    simp only [String.toList_append, List.append_assoc]
  have hfirst : statement? ("  export type " ++ p ++ helper.suffix ++ helper.tail).toList =
      some (.declared (p ++ helper.suffix).toList) := by
    rw [hline, statement?_export, declaredName_append hname htail]
  have hmore : ∀ line ∈ helper.more.map String.toList, isContinued line = true := by
    intro line hmem
    obtain ⟨text, htext, rfl⟩ := List.mem_map.mp hmem
    exact isContinued_of_continues (continues_more p helper hhelper text htext)
  exact reads_cons hfirst (reads_continued hmore)

/-! ## Imports -/

theorem beq_eq_false_of_isIdentifierPart {text : List Char} {d : Char}
    (h : ∀ c ∈ text, Naming.isIdentifierPart c = true) (hd : Naming.isIdentifierPart d = false) :
    ∀ c ∈ text, (c == d) = false := by
  intro c hc
  rw [beq_eq_false_iff_ne]
  exact Naming.ne_of_isPart (h c hc) hd

theorem words_append_blank (before after : List Char) :
    words (before ++ ' ' :: after) = words before ++ words after := by
  unfold words
  rw [Text.splitBy_append_cut before (by decide), List.filter_append]

theorem words_of_isIdentifierPart {text : List Char} (hne : text ≠ [])
    (h : ∀ c ∈ text, Naming.isIdentifierPart c = true) : words text = [text] := by
  unfold words
  rw [Text.splitBy_of_forall (beq_eq_false_of_isIdentifierPart h (by decide))]
  cases text with
  | nil => exact absurd rfl hne
  | cons c rest => rfl

/-- One of the types that are imported, and the name that it gets. -/
def binding (original name : List Char) : List Char :=
  original ++ ' ' :: (['a', 's'] ++ ' ' :: name)

/-- Characters that bindings consist of. -/
def isBindingPart (c : Char) : Bool := Naming.isIdentifierPart c || c == ' '

section Binding

variable {original name : List Char}

theorem words_binding (horiginal : Naming.isIdentifier original = true)
    (hname : Naming.isIdentifier name = true) :
    words (binding original name) = [original, ['a', 's'], name] := by
  have hword : ∀ {text}, Naming.isIdentifier text = true → words text = [text] := by
    intro text htext
    refine words_of_isIdentifierPart ?_ (Naming.isIdentifierPart_of_mem htext)
    rintro rfl
    cases htext
  rw [binding, words_append_blank, words_append_blank, hword horiginal, hword hname]
  rfl

theorem localName?_binding (horiginal : Naming.isIdentifier original = true)
    (hname : Naming.isIdentifier name = true) : localName? (binding original name) = some name := by
  rw [localName?, words_binding horiginal hname]
  rfl

/-- Blanks around it do not matter. -/
theorem localName?_binding_blanks (horiginal : Naming.isIdentifier original = true)
    (hname : Naming.isIdentifier name = true) :
    localName? (' ' :: (binding original name ++ [' '])) = some name := by
  have hwords : words (' ' :: (binding original name ++ [' '])) = [original, ['a', 's'], name] := by
    have hbefore := words_append_blank [] (binding original name ++ [' '])
    rw [List.nil_append] at hbefore
    rw [hbefore, words_append_blank, words_binding horiginal hname]
    rfl
  rw [localName?, hwords]
  rfl

/-- In a binding there are no commas and no braces. -/
theorem isBindingPart_of_mem (horiginal : Naming.isIdentifier original = true)
    (hname : Naming.isIdentifier name = true) :
    ∀ c ∈ binding original name, isBindingPart c = true := by
  have hpart : ∀ {text}, Naming.isIdentifier text = true → ∀ c ∈ text, isBindingPart c = true := by
    intro text htext c hc
    rw [isBindingPart, Naming.isIdentifierPart_of_mem htext c hc]
    rfl
  have hspace : isBindingPart ' ' = true := by decide
  have hkeyword : ∀ c ∈ ['a', 's'], isBindingPart c = true := hpart (by decide)
  have hafter : ∀ c ∈ ['a', 's'] ++ ' ' :: name, isBindingPart c = true :=
    List.forall_mem_append.mpr ⟨hkeyword, List.forall_mem_cons.mpr ⟨hspace, hpart hname⟩⟩
  exact List.forall_mem_append.mpr ⟨hpart horiginal, List.forall_mem_cons.mpr ⟨hspace, hafter⟩⟩

end Binding

/-- The import of the paths of a service. -/
def pathsBinding (service : Service) : List Char :=
  binding ['p', 'a', 't', 'h', 's'] (service.identifier ++ "Paths").toList

/-- The import of the operations of a service, with the blanks around it. -/
def operationsBinding (service : Service) : List Char :=
  ' ' :: (binding ['o', 'p', 'e', 'r', 'a', 't', 'i', 'o', 'n', 's']
    (service.identifier ++ "Operations").toList ++ [' '])

theorem importLine_eq (service : Service) :
    importLine service = "  import \x7b ".toList ++
      ((pathsBinding service ++ ',' :: operationsBinding service) ++
        ("\x7d from '".toList ++ ((Naming.serviceModule service.id).toList ++ ['\'']))) := by
  have hopen : "  import \x7b paths as ".toList =
      "  import \x7b ".toList ++ ['p', 'a', 't', 'h', 's', ' ', 'a', 's', ' '] := rfl
  have hmiddle : "Paths, operations as ".toList = "Paths".toList ++
      [',', ' ', 'o', 'p', 'e', 'r', 'a', 't', 'i', 'o', 'n', 's', ' ', 'a', 's', ' '] := rfl
  have hclose : "Operations \x7d from '".toList =
      "Operations".toList ++ ' ' :: "\x7d from '".toList := rfl
  have hquote : "'".toList = ['\''] := rfl
  unfold importLine pathsBinding operationsBinding binding
  simp only [String.toList_append, hopen, hmiddle, hclose, hquote, List.append_assoc,
    List.cons_append, List.nil_append]

theorem statement?_import (rest : List Char) :
    statement? ("  import \x7b ".toList ++ rest) = importOf? rest := by
  have hstrip : Text.stripStart? "  import \x7b ".toList ("  import \x7b ".toList ++ rest) =
      some rest := Text.stripStart?_eq_some_iff.mpr rfl
  have hcontinued : isContinued ("  import \x7b ".toList ++ rest) = false := rfl
  have hexport :
      Text.stripStart? "  export type ".toList ("  import \x7b ".toList ++ rest) = none := rfl
  have hinterface :
      Text.stripStart? "  interface ".toList ("  import \x7b ".toList ++ rest) = none := rfl
  rw [statement?, hcontinued, hexport, hinterface, hstrip]
  rfl

/-- Names after a prefix that is an identifier are identifiers. -/
theorem isIdentifier_suffix {service : Service} (h : Named service) {suffix : String}
    (hsuffix : suffix.toList.all Naming.isIdentifierPart = true) :
    Naming.isIdentifier (service.identifier ++ suffix).toList = true := by
  rw [String.toList_append]
  exact Naming.isIdentifier_append (Naming.isIdentifier_of_serviceIdentifier h) hsuffix

/-- Bindings are read up to the comma between them and the brace after them. -/
theorem importOf?_bindings {first second name name' : List Char}
    (hname : localName? first = some name) (hname' : localName? second = some name')
    (hfirst : ∀ c ∈ first, isBindingPart c = true)
    (hsecond : ∀ c ∈ second, isBindingPart c = true) (moduleName : List Char) :
    importOf? ((first ++ ',' :: second) ++ ("\x7d from '".toList ++ (moduleName ++ ['\'']))) =
      some (.imported [name, name'] moduleName) := by
  have hnot : ∀ {d c : Char}, isBindingPart d = false → isBindingPart c = true →
      (c == d) = false := by
    intro d c hd hc
    rw [beq_eq_false_iff_ne]
    exact Naming.ne_of_isPart hc hd
  have hbrace : ∀ c ∈ first ++ ',' :: second, (c != '}') = true := by
    intro c hc
    rw [bne, Bool.not_eq_true']
    rcases List.mem_append.mp hc with hc | hc
    · exact hnot (by decide) (hfirst c hc)
    · rcases List.mem_cons.mp hc with rfl | hc
      · decide
      · exact hnot (by decide) (hsecond c hc)
  -- The brace ends the bindings, and the only comma stands between them.
  have hsplit : Text.splitBy (· == ',') (first ++ ',' :: second) = [first, second] := by
    rw [Text.splitBy_append_cut first (by decide),
      Text.splitBy_of_forall fun c hc => hnot (by decide) (hfirst c hc),
      Text.splitBy_of_forall fun c hc => hnot (by decide) (hsecond c hc)]
    rfl
  have hbraced : "\x7d from '".toList ++ (moduleName ++ ['\'']) =
      '}' :: (" from '".toList ++ (moduleName ++ ['\''])) := rfl
  have hsource : Text.stripStart? "\x7d from '".toList
      ("\x7d from '".toList ++ (moduleName ++ ['\''])) = some (moduleName ++ ['\'']) :=
    Text.stripStart?_eq_some_iff.mpr rfl
  have hend : Text.stripEnd? ['\''] (moduleName ++ ['\'']) = some moduleName :=
    Text.stripEnd?_eq_some_iff.mpr rfl
  unfold importOf?
  simp only []
  rw [List.takeWhile_append_of_pos hbrace, List.dropWhile_append_of_pos hbrace, hbraced,
    List.takeWhile_cons_of_neg (by decide), List.dropWhile_cons_of_neg (by decide), ← hbraced,
    List.append_nil, hsplit, List.mapM_cons, hname, List.mapM_cons, hname', hsource,
    Option.bind_some, hend]
  rfl

theorem statement?_importLine {service : Service} (h : Named service) :
    statement? (importLine service) = some (.imported [(service.identifier ++ "Paths").toList,
      (service.identifier ++ "Operations").toList] (Naming.serviceModule service.id).toList) := by
  have hpaths : Naming.isIdentifier (service.identifier ++ "Paths").toList = true :=
    isIdentifier_suffix h (Naming.all_ofList (by decide))
  have hoperations : Naming.isIdentifier (service.identifier ++ "Operations").toList = true :=
    isIdentifier_suffix h (Naming.all_ofList (by decide))
  have hblank : ∀ c ∈ [' '], isBindingPart c = true := List.forall_mem_singleton.mpr rfl
  rw [importLine_eq, statement?_import]
  refine importOf?_bindings (localName?_binding (by decide) hpaths)
    (localName?_binding_blanks (by decide) hoperations)
    (isBindingPart_of_mem (by decide) hpaths) ?_ _
  rw [List.forall_mem_cons, List.forall_mem_append]
  exact ⟨by decide, isBindingPart_of_mem (by decide) hoperations, hblank⟩

/-! ## The names -/

/-- The names that are imported for a service, without its prefix. -/
def importedSuffixes : List String := ["Paths", "Operations"]

/-- The names of the helpers of a service, without its prefix. -/
def helperSuffixes : List String :=
  ["Path", "Method", "Operation", "OperationById", "PathParams", "Query", "RequestBody",
    "Responses", "Response"]

/-- Prefixes of services with these suffixes. -/
def suffixed (services : List Service) (suffixes : List String) : List (List Char) :=
  services.flatMap fun service => suffixes.map fun suffix => (service.identifier ++ suffix).toList

/-- The names in the hub. -/
def hubNames (services : List Service) : List (List Char) :=
  suffixed services importedSuffixes ++ repositoryName.toList :: suffixed services helperSuffixes

theorem reads_imports {services : List Service} (h : ∀ service ∈ services, Named service) :
    Reads (services.map importLine) (suffixed services importedSuffixes)
      (services.map fun service => (Naming.serviceModule service.id).toList) := by
  rw [List.map_eq_flatMap, List.map_eq_flatMap]
  refine reads_flatMap fun service hservice => ?_
  exact reads_cons (statement?_importLine (h service hservice)) reads_nil

theorem reads_service {service : Service} (h : Named service) :
    Reads (helperLines.lines service)
      (helperSuffixes.map fun suffix => (service.identifier ++ suffix).toList) [] := by
  have hlines := reads_flatMap_declarations
    (reads_helper (Naming.isIdentifier_of_serviceIdentifier h))
  rwa [← List.map_eq_flatMap] at hlines

theorem reads_helperLines {services : List Service} (h : ∀ service ∈ services, Named service) :
    Reads (helperLines services) (suffixed services helperSuffixes) [] := by
  cases services with
  | nil => exact reads_nil
  | cons first rest =>
    rw [List.forall_mem_cons] at h
    have hrest : Reads (rest.flatMap fun service => [] :: helperLines.lines service)
        (suffixed rest helperSuffixes) [] :=
      reads_flatMap_declarations fun service hservice =>
        reads_cons (statement?_of_isContinued rfl) (reads_service (h.2 service hservice))
    exact reads_append (reads_service h.1) hrest

/-- **Hub**: every line of it can be read. -/
theorem reads_hubLines {services : List Service} (h : ∀ service ∈ services, Named service) :
    Reads (hubLines services) (hubNames services)
      (services.map fun service => (Naming.serviceModule service.id).toList) := by
  have hempty : statement? [] = some .continued := statement?_of_isContinued rfl
  unfold hubLines
  split
  next hnone =>
    rw [List.isEmpty_iff] at hnone
    subst hnone
    exact reads_repositoryLines []
  next =>
    have hhelpers := reads_cons hempty (reads_helperLines h)
    have hrepository := reads_cons hempty (reads_repositoryLines services)
    have hread := reads_append (reads_append (reads_imports h) hrepository) hhelpers
    have hnames : suffixed services importedSuffixes ++
        (Statement.continued.names ++ [repositoryName.toList]) ++
          (Statement.continued.names ++ suffixed services helperSuffixes) = hubNames services :=
      List.append_assoc ..
    have hmodules : ∀ modules : List (List Char),
        modules ++ (Statement.continued.module?.toList ++ []) ++
          (Statement.continued.module?.toList ++ []) = modules := fun modules => by
      simp [Statement.module?]
    rwa [hnames, hmodules] at hread

/-! ## No two names are the same -/

/-- A suffix that is the end of another one is that one. -/
theorem eq_of_isSuffix : ∀ first ∈ importedSuffixes ++ helperSuffixes,
    ∀ second ∈ importedSuffixes ++ helperSuffixes,
      first.toList <:+ second.toList → first = second := by
  decide

theorem not_isSuffix_repositoryName : ∀ suffix ∈ importedSuffixes ++ helperSuffixes,
    ¬ suffix.toList <:+ repositoryName.toList := by
  decide

/-- A name is put together in one way only. -/
theorem append_suffix_inj {p q first second : String}
    (hfirst : first ∈ importedSuffixes ++ helperSuffixes)
    (hsecond : second ∈ importedSuffixes ++ helperSuffixes)
    (h : (p ++ first).toList = (q ++ second).toList) :
    p = q ∧ first = second := by
  rw [String.toList_append, String.toList_append] at h
  -- Both suffixes end one text, so the shorter one ends the longer one.
  have hends : first.toList <:+ p.toList ++ first.toList := List.suffix_append _ _
  have hends' : second.toList <:+ p.toList ++ first.toList := h ▸ List.suffix_append _ _
  have heq : first = second := by
    rcases List.suffix_or_suffix_of_suffix hends hends' with hsuffix | hsuffix
    · exact eq_of_isSuffix first hfirst second hsecond hsuffix
    · exact (eq_of_isSuffix second hsecond first hfirst hsuffix).symm
  subst heq
  exact ⟨String.toList_inj.mp (List.append_cancel_right h), rfl⟩

theorem mem_suffixed {services : List Service} {suffixes : List String} {name : List Char} :
    name ∈ suffixed services suffixes ↔
      ∃ service ∈ services, ∃ suffix ∈ suffixes, (service.identifier ++ suffix).toList = name := by
  simp only [suffixed, List.mem_flatMap, List.mem_map]

theorem nodup_suffixed {services : List Service} {suffixes : List String}
    (hservices : (services.map (·.identifier)).Nodup) (hsuffixes : suffixes.Nodup)
    (hknown : ∀ suffix ∈ suffixes, suffix ∈ importedSuffixes ++ helperSuffixes) :
    (suffixed services suffixes).Nodup := by
  rw [List.Nodup, List.pairwise_map] at hservices
  refine List.nodup_flatMap.mpr ⟨?_, ?_⟩
  · -- Within a service the prefix is the same.
    intro service _
    refine List.Nodup.map_on ?_ hsuffixes
    intro first hfirst second hsecond heq
    exact (append_suffix_inj (hknown first hfirst) (hknown second hsecond) heq).2
  · -- A common name of two services would make their prefixes equal.
    refine hservices.imp fun {service other} hne => ?_
    intro name hname hother
    obtain ⟨first, hfirst, rfl⟩ := List.mem_map.mp hname
    obtain ⟨second, hsecond, heq⟩ := List.mem_map.mp hother
    exact hne (append_suffix_inj (hknown second hsecond) (hknown first hfirst) heq).1.symm

theorem repositoryName_not_mem_suffixed {services : List Service} {suffixes : List String}
    (hknown : ∀ suffix ∈ suffixes, suffix ∈ importedSuffixes ++ helperSuffixes) :
    repositoryName.toList ∉ suffixed services suffixes := by
  intro hmem
  obtain ⟨service, -, suffix, hsuffix, heq⟩ := mem_suffixed.mp hmem
  rw [String.toList_append] at heq
  exact not_isSuffix_repositoryName suffix (hknown suffix hsuffix) ⟨_, heq⟩

/-- **Names**: services with distinct prefixes never share a name. -/
theorem nodup_hubNames {services : List Service}
    (h : (services.map (·.identifier)).Nodup) : (hubNames services).Nodup := by
  have himported : ∀ suffix ∈ importedSuffixes, suffix ∈ importedSuffixes ++ helperSuffixes :=
    fun _ => List.mem_append_left _
  have hhelper : ∀ suffix ∈ helperSuffixes, suffix ∈ importedSuffixes ++ helperSuffixes :=
    fun _ => List.mem_append_right _
  have hdistinct : ∀ suffix ∈ importedSuffixes, suffix ∉ helperSuffixes := by decide
  refine List.nodup_append'.mpr ⟨nodup_suffixed h (by decide) himported, ?_, ?_⟩
  · exact List.nodup_cons.mpr ⟨repositoryName_not_mem_suffixed hhelper,
      nodup_suffixed h (by decide) hhelper⟩
  · refine List.disjoint_cons_right.mpr ⟨repositoryName_not_mem_suffixed himported, ?_⟩
    -- An imported name and a helper differ in the suffix, whatever the prefixes are.
    intro name hname hother
    obtain ⟨service, -, first, hfirst, rfl⟩ := mem_suffixed.mp hname
    obtain ⟨other, -, second, hsecond, heq⟩ := mem_suffixed.mp hother
    have hsame := append_suffix_inj (hhelper second hsecond) (himported first hfirst) heq
    exact hdistinct first hfirst (hsame.2 ▸ hsecond)

theorem isIdentifier_of_mem_hubNames {services : List Service}
    (h : ∀ service ∈ services, Named service) :
    ∀ name ∈ hubNames services, Naming.isIdentifier name = true := by
  have hsuffixes : ∀ suffix ∈ importedSuffixes ++ helperSuffixes,
      suffix.toList.all Naming.isIdentifierPart = true := by decide
  have hsuffixed : ∀ suffixes : List String,
      (∀ suffix ∈ suffixes, suffix ∈ importedSuffixes ++ helperSuffixes) →
      ∀ name ∈ suffixed services suffixes, Naming.isIdentifier name = true := by
    intro suffixes hknown name hname
    obtain ⟨service, hservice, suffix, hsuffix, rfl⟩ := mem_suffixed.mp hname
    exact isIdentifier_suffix (h service hservice) (hsuffixes suffix (hknown suffix hsuffix))
  refine List.forall_mem_append.mpr ⟨?_, List.forall_mem_cons.mpr ⟨by decide, ?_⟩⟩
  · exact hsuffixed _ fun _ => List.mem_append_left _
  · exact hsuffixed _ fun _ => List.mem_append_right _

/-! ## The keys of the repository -/

/-- Whether the interface of the repository begins in a line. -/
def isInterface (line : List Char) : Bool := Text.startsWith "  interface ".toList line

/-- The key in a line of the repository. -/
def memberKey? (line : List Char) : Option (List Char) :=
  ((Text.stripStart? "    ".toList line).bind Naming.readKey?).map (·.1)

/-- The keys of the repository in the hub. -/
def repositoryKeys? (lines : List (List Char)) : Option (List (List Char)) :=
  (((lines.dropWhile fun line => !isInterface line).tail).takeWhile
    (· != "  \x7d".toList)).mapM memberKey?

theorem memberKey?_repositoryLine (service : Service) :
    memberKey? (repositoryLine service) = some service.id.toList := by
  have hline : repositoryLine service = "    ".toList ++ (Naming.propertyKey service.id.toList ++
      ':' :: (" " ++ service.identifier ++ "Paths").toList) := by
    have hcolon : ": ".toList = ':' :: " ".toList := rfl
    simp only [repositoryLine, String.toList_append, hcolon, List.append_assoc, List.cons_append]
  have hstrip := Text.stripStart?_eq_some_iff.mpr hline
  rw [memberKey?, hstrip, Option.bind_some, Naming.readKey?_propertyKey _ (by decide)]
  rfl

/-- The keys are read from the lines between the first line of the interface and its closing one,
whatever stands above and below. -/
theorem repositoryKeys?_append {above : List (List Char)}
    (habove : ∀ line ∈ above, isInterface line = false) (services : List Service)
    (below : List (List Char)) :
    repositoryKeys? (above ++ (repositoryLines services ++ below)) =
      some (services.map fun service => service.id.toList) := by
  have hskip : ∀ line ∈ above, (!isInterface line) = true := fun line hline => by
    rw [habove line hline]
    rfl
  have hhead : isInterface "  interface OpenAPISchemaRepository \x7b".toList = true := rfl
  have hmember : ∀ line ∈ services.map repositoryLine, (line != "  \x7d".toList) = true := by
    intro line hline
    obtain ⟨service, -, rfl⟩ := List.mem_map.mp hline
    rw [bne_iff_ne]
    intro heq
    -- Keys are indented more than the closing brace.
    have hthird : (repositoryLine service)[2]? = some ' ' := rfl
    rw [heq] at hthird
    exact absurd hthird (by decide)
  have hkeys : (services.map repositoryLine).mapM memberKey? =
      some (services.map fun service => service.id.toList) := by
    have hread : memberKey? ∘ repositoryLine = fun service => some service.id.toList :=
      funext memberKey?_repositoryLine
    rw [List.mapM_map, hread]
    exact List.mapM_pure
  unfold repositoryKeys? repositoryLines
  rw [List.dropWhile_append_of_pos hskip, List.cons_append, List.cons_append,
    List.dropWhile_cons_of_neg (by rw [hhead]; decide), List.tail_cons, List.append_assoc,
    List.takeWhile_append_of_pos hmember, List.singleton_append,
    List.takeWhile_cons_of_neg (by simp), List.append_nil, hkeys]

theorem isInterface_importLine (service : Service) : isInterface (importLine service) = false := by
  rw [importLine_eq]
  rfl

theorem repositoryKeys?_hubLines (services : List Service) :
    repositoryKeys? (hubLines services) = some (services.map fun service => service.id.toList) := by
  unfold hubLines
  split
  next hnone =>
    rw [List.isEmpty_iff] at hnone
    subst hnone
    have hkeys := repositoryKeys?_append (List.forall_mem_nil _) [] []
    rwa [List.append_nil, List.nil_append] at hkeys
  next =>
    have himports : ∀ line ∈ services.map importLine ++ [[]], isInterface line = false := by
      intro line hline
      rcases List.mem_append.mp hline with himport | hempty
      · obtain ⟨service, -, rfl⟩ := List.mem_map.mp himport
        exact isInterface_importLine service
      · rw [List.mem_singleton.mp hempty]
        rfl
    have hkeys := repositoryKeys?_append himports services ([] :: helperLines services)
    simpa only [List.append_assoc, List.cons_append, List.nil_append] using hkeys

/-! ## The hub of registered services -/

theorem serviceModule_inj {id other : String}
    (h : (Naming.serviceModule id).toList = (Naming.serviceModule other).toList) : id = other := by
  simp only [Naming.serviceModule, String.toList_append] at h
  exact String.toList_inj.mp (List.append_cancel_left (List.append_cancel_right h))

theorem serviceModule_ne_hubModule (id : String) :
    (Naming.serviceModule id).toList ≠ hubModule.toList := by
  intro heq
  have hmark : (Naming.serviceModule id).toList[7]? = some '_' := by
    simp only [Naming.serviceModule, String.toList_append, List.append_assoc]
    rfl
  rw [heq] at hmark
  exact absurd hmark (by decide)

/-- The modules of services are distinct, and none is the hub. -/
theorem nodup_moduleNames {services : List Service} (h : (services.map (·.id)).Nodup) :
    (hubModule.toList ::
      services.map fun service => (Naming.serviceModule service.id).toList).Nodup := by
  refine List.nodup_cons.mpr ⟨?_, ?_⟩
  · intro hmem
    obtain ⟨service, -, heq⟩ := List.mem_map.mp hmem
    exact serviceModule_ne_hubModule service.id heq
  · have hinjective : Function.Injective fun id => (Naming.serviceModule id).toList :=
      fun _ _ => serviceModule_inj
    have hmap := h.map hinjective
    rwa [List.map_map] at hmap

/-- **Hub**: all names in it are distinct identifiers, the keys of the repository are the ids, and
each import is of the module of one service. -/
theorem names_of_hub (calls : List (String × ServiceOptions)) (outcomes : List ServiceTypes)
    (h : outcomes.map (·.service) = (Registry.Run.ofCalls calls).registry.withSchemas) :
    let services := (Registry.Run.ofCalls calls).registry.withSchemas
    ∃ hub modules statements keys,
      blocks (Text.lines (text outcomes).toList) = hub :: modules ∧
      hub.lines.mapM statement? = some statements ∧
      statements.flatMap Statement.names = hubNames services ∧
      (hubNames services).Nodup ∧
      (∀ name ∈ hubNames services, Naming.isIdentifier name = true) ∧
      repositoryKeys? hub.lines = some keys ∧
      keys = services.map (fun service => service.id.toList) ∧ keys.Nodup ∧
      statements.filterMap Statement.module? = modules.map (·.name) ∧
      (∀ name ∈ statements.filterMap Statement.module?,
        name ≠ hub.name ∧ (modules.map (·.name)).count name = 1) ∧
      (hub.name :: modules.map (·.name)).Nodup := by
  intro services
  have hservices : outcomes.map (·.service) = services := h
  have hconsistent := Registry.Run.consistent_ofCalls calls
  have hnamed : ∀ service ∈ services, Named service := fun _ => named_of_mem_withSchemas hconsistent
  have hids : (services.map (·.id)).Nodup := hconsistent.nodup_withSchemas
  have hidentifiers : (services.map (·.identifier)).Nodup :=
    hconsistent.nodup_identifiers.sublist (List.filter_sublist.map _)
  have houtcomes : ∀ outcome ∈ outcomes, Named outcome.service := fun outcome houtcome =>
    hnamed _ (hservices ▸ List.mem_map_of_mem houtcome)
  -- The first module of the file is the hub, and its lines are known.
  obtain ⟨statements, hread, hnames, himports⟩ := reads_hubLines hnamed
  have hmodules : services.map (fun service => (Naming.serviceModule service.id).toList) =
      outcomes.map fun outcome => (Naming.serviceModule outcome.service.id).toList := by
    rw [← hservices, List.map_map]
    rfl
  have hkeys : (services.map fun service => service.id.toList).Nodup := by
    have hinjective : Function.Injective String.toList := fun _ _ => String.toList_inj.mp
    have hmap := hids.map hinjective
    rwa [List.map_map] at hmap
  have hdistinct := nodup_moduleNames hids
  rw [hmodules] at hdistinct
  refine ⟨_, _, statements, _, blocks_text houtcomes, ?_, hnames, nodup_hubNames hidentifiers,
    isIdentifier_of_mem_hubNames hnamed, ?_, rfl, hkeys, ?_, ?_, ?_⟩
  · rw [hservices]
    exact hread
  · rw [hservices]
    exact repositoryKeys?_hubLines services
  · rw [himports, hmodules, List.map_map]
    rfl
  · intro name hname
    rw [himports, hmodules] at hname
    rw [List.map_map]
    refine ⟨?_, List.count_eq_one_of_mem (List.nodup_cons.mp hdistinct).2 hname⟩
    rintro rfl
    exact (List.nodup_cons.mp hdistinct).1 hname
  · rw [List.map_map]
    exact hdistinct

/-- The prefix of the second service is the prefix of the first one with a suffix. -/
def petCalls : List (String × ServiceOptions) :=
  [("pet", ⟨none, some (.file "pet.json"), none⟩),
    ("pet-path", ⟨none, some (.file "path.json"), none⟩)]

/-- Types of these services. -/
def petOutcomes : List ServiceTypes :=
  [⟨⟨"pet", "Pet", ⟨none, some (.file "pet.json"), none⟩⟩, .ok "export type paths = unknown"⟩,
    ⟨⟨"pet-path", "PetPath", ⟨none, some (.file "path.json"), none⟩⟩,
      .error (.resolution "pet-path" .notFetched)⟩]

theorem names_of_petOutcomes :
    petOutcomes.map (·.service) = (Registry.Run.ofCalls petCalls).registry.withSchemas ∧
    (hubNames (Registry.Run.ofCalls petCalls).registry.withSchemas).Nodup ∧
    "PetPath".toList ∈ hubNames (Registry.Run.ofCalls petCalls).registry.withSchemas ∧
    "PetPathPath".toList ∈ hubNames (Registry.Run.ofCalls petCalls).registry.withSchemas ∧
    ∃ hub modules, blocks (Text.lines (text petOutcomes).toList) = hub :: modules ∧
      repositoryKeys? hub.lines = some ["pet".toList, "pet-path".toList] := by
  have hservices : petOutcomes.map (·.service) =
      (Registry.Run.ofCalls petCalls).registry.withSchemas := rfl
  obtain ⟨hub, modules, _, keys, hblocks, -, -, hnodup, -, hread, rfl, -⟩ :=
    names_of_hub petCalls petOutcomes hservices
  refine ⟨hservices, hnodup, ?_, ?_, hub, modules, hblocks, hread⟩
  · rw [← hservices]
    decide
  · rw [← hservices]
    decide

end ApiToolkit.Declarations
