import ApiToolkit.Proofs.Naming.Identifier
import ApiToolkit.Proofs.Text.Lines
import ApiToolkit.Service.Declarations
/-!
# The lines of the hub module

The hub module is put together from texts of one line and of several lines.  Whoever reads the file
of declarations sees lines, so the hub is given line by line here.

## What is inside

- `Declarations.rows_moduleBlock`: the first line of a module, its body, and its last line.
- `Declarations.hubLines`, `Declarations.rows_hub`: the lines of the hub.
- `Declarations.isTopLevel_hubLines`: all of them are indented or empty.
-/

namespace ApiToolkit.Declarations

/-! ## Modules -/

/-- The first line of a module. -/
def moduleHead (name : String) : List Char := ("declare module '" ++ name ++ "' \x7b").toList

theorem moduleHead_eq (name : String) :
    moduleHead name = "declare module '".toList ++ (name.toList ++ "' \x7b".toList) := by
  rw [moduleHead, String.toList_append, String.toList_append, List.append_assoc]

theorem isLine_moduleHead {name : String} (hname : Text.isLine name.toList = true) :
    Text.isLine (moduleHead name) = true := by
  rw [moduleHead_eq, Text.isLine_append, Text.isLine_append, hname,
    Text.isLine_ofList (by decide), Text.isLine_ofList (by decide)]
  rfl

theorem rows_moduleBlock {name : String} (hname : Text.isLine name.toList = true)
    (body : List Char) :
    Text.rows (moduleBlock name body) = moduleHead name :: Text.rows body ++ [['}']] := by
  have hblock : moduleBlock name body = moduleHead name ++ '\n' :: (body ++ '\n' :: ['}']) := by
    have hopen : "' \x7b\n".toList = "' \x7b".toList ++ ['\n'] := rfl
    have hclose : "\n\x7d".toList = ['\n', '}'] := rfl
    simp only [moduleBlock, moduleHead, String.toList_append, hopen, hclose, List.append_assoc,
      List.cons_append, List.nil_append]
  have hlast : Text.rows ['}'] = [['}']] := Text.rows_of_isLine (by decide)
  rw [hblock, Text.rows_append_newline, Text.rows_append_newline, 
    Text.rows_of_isLine (isLine_moduleHead hname), hlast]
  rfl

/-! ## Services with a name -/

/-- The prefix of the type names is the one that is made from the id. -/
def Named (service : Service) : Prop :=
  Naming.serviceIdentifier service.id = .ok service.identifier

section Named

variable {service : Service}

theorem isLine_identifier (h : Named service) : Text.isLine service.identifier.toList = true :=
  Text.isLine_of_forall
    (Naming.isIdentifierPart_of_mem (Naming.isIdentifier_of_serviceIdentifier h))
    (by decide) (by decide)

theorem isLine_id (h : Named service) : Text.isLine service.id.toList = true :=
  Text.isLine_of_forall (Naming.isIdChar_of_serviceIdentifier h) (by decide) (by decide)

theorem isLine_serviceModule (h : Named service) :
    Text.isLine (Naming.serviceModule service.id).toList = true := by
  rw [Naming.serviceModule, String.toList_append, String.toList_append, Text.isLine_append,
    Text.isLine_append, isLine_id h, Text.isLine_ofList (by decide),
    Text.isLine_ofList (by decide)]
  rfl

theorem isLine_importLine (h : Named service) : Text.isLine (importLine service) = true := by
  simp only [importLine, String.toList_append, Text.isLine_append, isLine_identifier h,
    isLine_serviceModule h, Bool.and_true, Bool.and_eq_true]
  and_intros <;> exact Text.isLine_ofList (by decide)

end Named

/-! ## Property keys -/

theorem isLine_escapeChar (c : Char) : Text.isLine (Json.escapeChar c) = true := by
  by_cases hletter : c ∈ Json.Reader.letterEscaped
  · simp only [Json.Reader.letterEscaped, List.mem_cons, List.not_mem_nil, or_false] at hletter
    rcases hletter with rfl | rfl | rfl | rfl | rfl | rfl | rfl <;> decide
  · rw [Json.Reader.escapeChar_of_not_mem hletter]
    split
    next hcontrol =>
      have hdigit : ∀ n < 16, Text.isLine [Json.hexDigit n] = true := by decide
      have hhigh := hdigit (c.toNat / 16) (by omega)
      have hlow := hdigit (c.toNat % 16) (by omega)
      have hsplit : ['\\', 'u', '0', '0', Json.hexDigit (c.toNat / 16),
          Json.hexDigit (c.toNat % 16)] = ['\\', 'u', '0', '0'] ++
            ([Json.hexDigit (c.toNat / 16)] ++ [Json.hexDigit (c.toNat % 16)]) := rfl
      rw [hsplit, Text.isLine_append, Text.isLine_append, hhigh, hlow]
      decide
    next =>
      -- The two characters that end a line are escaped by letters.
      have hfeed : c ≠ '\n' := fun h => hletter (by simp [Json.Reader.letterEscaped, h])
      have hreturn : c ≠ '\r' := fun h => hletter (by simp [Json.Reader.letterEscaped, h])
      simp [Text.isLine, hfeed, hreturn]

/-- A key stays in its line, whatever the name is. -/
theorem isLine_propertyKey (name : List Char) : Text.isLine (Naming.propertyKey name) = true := by
  unfold Naming.propertyKey
  split
  next hname =>
    exact Text.isLine_of_forall (Naming.isIdentifierPart_of_mem hname) (by decide) (by decide)
  next =>
    have hquoted : Text.isLine (name.flatMap Json.escapeChar) = true := by
      rw [Text.isLine, List.all_flatMap, List.all_eq_true]
      intro c _
      exact isLine_escapeChar c
    have hquote : Json.quote name = ['"'] ++ (name.flatMap Json.escapeChar ++ ['"']) := rfl
    rw [hquote, Text.isLine_append, Text.isLine_append, hquoted]
    decide

theorem isLine_repositoryLine {service : Service} (h : Named service) :
    Text.isLine (repositoryLine service) = true := by
  simp only [repositoryLine, String.toList_append, Text.isLine_append, isLine_propertyKey,
    isLine_identifier h, Bool.and_true, Bool.and_eq_true]
  and_intros <;> exact Text.isLine_ofList (by decide)

/-! ## The lines of the hub -/

/-- Whether a line begins in the first column. -/
def isTopLevel (line : List Char) : Bool := line.head?.any (· != ' ')

theorem isTopLevel_of_indented {line more : List Char} (h : line.head? = some ' ') :
    isTopLevel (line ++ more) = false := by
  rw [isTopLevel, List.head?_append, h]
  rfl

/-- The lines of the helpers of all services, with empty lines between the services. -/
def helperLines : List Service → List (List Char)
  | [] => []
  | first :: rest => lines first ++ rest.flatMap fun service => [] :: lines service
where
  lines (service : Service) : List (List Char) :=
    (helpers service.identifier).flatMap (Helper.lines service.identifier)

/-- The lines of the hub between its first one and its last one. -/
def hubLines (services : List Service) : List (List Char) :=
  if services.isEmpty then repositoryLines []
  else services.map importLine ++ [] :: repositoryLines services ++ [] :: helperLines services

theorem isLine_helperLines {p : String} (hp : Text.isLine p.toList = true) :
    ∀ line ∈ (helpers p).flatMap (Helper.lines p), Text.isLine line = true := by
  simp only [helpers, Helper.lines, methodUnion, List.flatMap_cons, List.flatMap_nil, List.map_cons,
    List.map_nil, List.forall_mem_append, List.forall_mem_cons, String.toList_append,
    Text.isLine_append, hp, Bool.and_true, Bool.and_eq_true, true_and]
  and_intros
  all_goals first | exact List.forall_mem_nil _ | exact Text.isLine_ofList (by decide)

theorem rows_helperAliases {p : String} (hp : Text.isLine p.toList = true) :
    Text.rows (helperAliases p) = (helpers p).flatMap (Helper.lines p) := by
  have hlines : ∀ line ∈ (helpers p).flatMap (Helper.lines p), '\n' ∉ line := by
    intro line hline
    exact Text.newline_not_mem_of_isLine (isLine_helperLines hp line hline)
  refine Text.rows_joinWith_of_not_mem ?_ hlines
  rw [helpers, List.flatMap_cons, Helper.lines, List.cons_append]
  exact List.cons_ne_nil _ _

theorem isLine_repositoryLines {services : List Service} (h : ∀ service ∈ services, Named service) :
    ∀ line ∈ repositoryLines services, Text.isLine line = true := by
  intro line hline
  rw [repositoryLines, List.mem_append, List.mem_cons, List.mem_singleton] at hline
  rcases hline with (rfl | hline) | rfl
  · exact Text.isLine_ofList (by decide)
  · obtain ⟨service, hservice, rfl⟩ := List.mem_map.mp hline
    exact isLine_repositoryLine (h service hservice)
  · exact Text.isLine_ofList (by decide)

theorem rows_repository {services : List Service} (h : ∀ service ∈ services, Named service) :
    Text.rows (repository services) = repositoryLines services :=
  Text.rows_joinWith_of_not_mem (by simp [repositoryLines]) fun line hline =>
    Text.newline_not_mem_of_isLine (isLine_repositoryLines h line hline)

/-- **Hub**: its lines are the imports, the repository and the helpers, with empty lines between
them. -/
theorem rows_hub {services : List Service} (h : ∀ service ∈ services, Named service) :
    Text.rows (hub services) = moduleHead hubModule :: hubLines services ++ [['}']] := by
  have hname : Text.isLine hubModule.toList = true := Text.isLine_ofList (by decide)
  have hrepository := rows_repository h
  unfold hub hubLines
  rw [rows_moduleBlock hname]
  cases services with
  | nil =>
    have hjoin : Text.joinWith ['\n', '\n'] [repository []] = repository [] := rfl
    simp only [List.isEmpty_nil, if_true]
    rw [hjoin, hrepository]
  | cons first rest =>
    have himports : Text.rows (Text.joinWith ['\n'] ((first :: rest).map importLine)) =
        (first :: rest).map importLine := by
      refine Text.rows_joinWith_of_not_mem (by simp) fun line hline => ?_
      obtain ⟨service, hservice, rfl⟩ := List.mem_map.mp hline
      exact Text.newline_not_mem_of_isLine (isLine_importLine (h service hservice))
    have hhelpers : Text.rows (Text.joinWith ['\n', '\n']
        ((first :: rest).map fun s => helperAliases s.identifier)) =
          helperLines (first :: rest) := by
      have hservice : ∀ service ∈ first :: rest, Text.rows (helperAliases service.identifier) =
          helperLines.lines service := fun service hservice =>
        rows_helperAliases (isLine_identifier (h service hservice))
      have hrest : ∀ service ∈ rest, [] :: Text.rows (helperAliases service.identifier) =
          [] :: helperLines.lines service := fun service hmem =>
        congrArg _ (hservice service (List.mem_cons_of_mem _ hmem))
      rw [List.map_cons, Text.rows_joinWith_blank, List.flatMap_map,
        hservice first (List.mem_cons_self ..), List.flatMap_congr hrest, helperLines]
    simp only [List.isEmpty_cons, Bool.false_eq_true, if_false]
    rw [Text.rows_joinWith_blank, himports]
    simp only [List.flatMap_cons, List.flatMap_nil, List.append_nil, hrepository, hhelpers,
      List.cons_append, List.append_assoc]

/-! ## What the lines of the hub look like -/

theorem mem_hubLines {services : List Service} {line : List Char} (h : line ∈ hubLines services) :
    line = [] ∨ line ∈ services.map importLine ∨ line ∈ repositoryLines services ∨
      ∃ service ∈ services, line ∈ helperLines.lines service := by
  unfold hubLines at h
  cases services with
  | nil => exact .inr (.inr (.inl h))
  | cons first rest =>
    simp only [List.isEmpty_cons, Bool.false_eq_true, if_false, helperLines, List.mem_append,
      List.mem_cons, List.mem_flatMap] at h
    rcases h with (himport | hempty | hrepository) | hempty | hfirst | ⟨service, hservice, h⟩
    · exact .inr (.inl himport)
    · exact .inl hempty
    · exact .inr (.inr (.inl hrepository))
    · exact .inl hempty
    · exact .inr (.inr (.inr ⟨first, List.mem_cons_self .., hfirst⟩))
    · rcases h with hempty | hline
      · exact .inl hempty
      · exact .inr (.inr (.inr ⟨service, List.mem_cons_of_mem _ hservice, hline⟩))

theorem isLine_hubLines {services : List Service} (h : ∀ service ∈ services, Named service) :
    ∀ line ∈ hubLines services, Text.isLine line = true := by
  intro line hline
  rcases mem_hubLines hline with rfl | himport | hrepository | ⟨service, hservice, hhelper⟩
  · rfl
  · obtain ⟨service, hservice, rfl⟩ := List.mem_map.mp himport
    exact isLine_importLine (h service hservice)
  · exact isLine_repositoryLines h line hrepository
  · exact isLine_helperLines (isLine_identifier (h service hservice)) line hhelper

/-- Whether a line goes on with a declaration: it is indented more, or closes what was opened. -/
def continues : List Char → Bool
  | ' ' :: ' ' :: c :: _ => c == ' ' || c == '>'
  | _ => false

theorem exists_of_continues {line : List Char} (h : continues line = true) :
    ∃ c rest, line = ' ' :: ' ' :: c :: rest ∧ (c = ' ' ∨ c = '>') := by
  unfold continues at h
  split at h
  next c rest => exact ⟨c, rest, rfl, by simpa using h⟩
  next => cases h

theorem continues_append {line : List Char} (h : continues line = true) (more : List Char) :
    continues (line ++ more) = true := by
  obtain ⟨c, rest, rfl, hc⟩ := exists_of_continues h
  rcases hc with rfl | rfl <;> rfl

theorem continues_ofList {line : List Char} (h : continues line = true) :
    continues (String.ofList line).toList = true := by
  rwa [String.toList_ofList]

theorem isTopLevel_of_continues {line : List Char} (h : continues line = true) :
    isTopLevel line = false := by
  obtain ⟨c, rest, rfl, -⟩ := exists_of_continues h
  rfl

/-- After its first line, a helper declares nothing more. -/
theorem continues_more (p : String) :
    ∀ helper ∈ helpers p, ∀ line ∈ helper.more, continues line.toList = true := by
  simp only [helpers, List.forall_mem_cons, String.toList_append, List.append_assoc]
  and_intros
  all_goals first
    | exact List.forall_mem_nil _
    | exact continues_append (continues_ofList (by decide)) _
    | exact continues_ofList (by decide)

theorem isTopLevel_helperLines (p : String) :
    ∀ line ∈ (helpers p).flatMap (Helper.lines p), isTopLevel line = false := by
  intro line hline
  obtain ⟨helper, hhelper, hline⟩ := List.mem_flatMap.mp hline
  rw [Helper.lines, List.mem_cons] at hline
  rcases hline with rfl | hmore
  · simp only [String.toList_append, List.append_assoc]
    exact isTopLevel_of_indented (by decide)
  · obtain ⟨text, htext, rfl⟩ := List.mem_map.mp hmore
    exact isTopLevel_of_continues (continues_more p helper hhelper text htext)

/-- No line of the hub begins in the first column. -/
theorem isTopLevel_hubLines (services : List Service) :
    ∀ line ∈ hubLines services, isTopLevel line = false := by
  intro line hline
  rcases mem_hubLines hline with rfl | himport | hrepository | ⟨service, hservice, hhelper⟩
  · rfl
  · obtain ⟨service, hservice, rfl⟩ := List.mem_map.mp himport
    simp only [importLine, String.toList_append, List.append_assoc]
    exact isTopLevel_of_indented (by decide)
  · rw [repositoryLines, List.mem_append, List.mem_cons, List.mem_singleton] at hrepository
    rcases hrepository with (rfl | hmember) | rfl
    · decide
    · obtain ⟨service, hservice, rfl⟩ := List.mem_map.mp hmember
      simp only [repositoryLine, List.append_assoc]
      exact isTopLevel_of_indented (by decide)
    · decide
  · exact isTopLevel_helperLines service.identifier line hhelper

end ApiToolkit.Declarations
