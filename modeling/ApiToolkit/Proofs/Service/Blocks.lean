import ApiToolkit.Files.Tree
import ApiToolkit.Proofs.Service.HubLines
import ApiToolkit.Proofs.Service.Outcomes
import ApiToolkit.Proofs.Service.Registry
/-!
# Reading the modules out of the file of declarations

Types come from compilers, so they are arbitrary texts.  They are indented when they are put into a
module; therefore the lines in the first column show where modules begin and end, whatever the types
are.

## What is inside

- `Declarations.sections`, `Declarations.blocks`: the file, cut at the lines in the first column.
- `Declarations.content`: what lines say, up to blanks at both ends and empty lines at the end.
- `Declarations.lines_text`: the lines of the file.
- `Declarations.DifferInside`, `Declarations.differInside_outcomes`: what changes with one service.
- `Declarations.blocks_of_text`: every module has the types of its service, and no other lines.
-/

namespace ApiToolkit.Declarations

/-! ## Cutting a file -/

/-- A line in the first column, and the lines below it up to the next one. -/
structure Section where
  head : List Char
  body : List (List Char)

/-- The sections of a file. -/
def sections : List (List Char) → List Section
  | [] => []
  | line :: rest =>
    if isTopLevel line then ⟨line, rest.takeWhile fun l => !isTopLevel l⟩ :: sections rest
    else sections rest

/-- The name of the module that a line begins. -/
def moduleName? (line : List Char) : Option (List Char) :=
  (Text.stripStart? "declare module '".toList line).bind (Text.stripEnd? "' \x7b".toList)

/-- A module of a file. -/
structure Block where
  name : List Char
  lines : List (List Char)

/-- The modules of a file. -/
def blocks (lines : List (List Char)) : List Block :=
  (sections lines).filterMap fun part => (moduleName? part.head).map fun name => ⟨name, part.body⟩

/-- A line without the blanks before it and after it. -/
def bare (line : List Char) : List Char :=
  Text.trimEndBy Letter.isBlank (line.dropWhile (· == ' '))

/-- What lines say, up to blanks before and after each line, and empty lines at the end. -/
def content (lines : List (List Char)) : List (List Char) :=
  (lines.map bare).rdropWhile List.isEmpty

/-! ## Sections -/

theorem sections_append_of_not {lines : List (List Char)}
    (h : ∀ line ∈ lines, isTopLevel line = false) (rest : List (List Char)) :
    sections (lines ++ rest) = sections rest := by
  induction lines with
  | nil => rfl
  | cons line lines ih =>
    have hline : isTopLevel line = false := h line (List.mem_cons_self ..)
    rw [List.cons_append, sections, hline]
    exact ih fun l hl => h l (List.mem_cons_of_mem _ hl)

/-- A section ends where the next line in the first column stands. -/
theorem sections_cons {head next : List Char} {body : List (List Char)}
    (hhead : isTopLevel head = true) (hbody : ∀ line ∈ body, isTopLevel line = false)
    (hnext : isTopLevel next = true) (rest : List (List Char)) :
    sections (head :: (body ++ next :: rest)) = ⟨head, body⟩ :: sections (next :: rest) := by
  -- The body is taken up to the next line in the first column, and then passed over.
  have htake : (body ++ next :: rest).takeWhile (fun l => !isTopLevel l) = body := by
    rw [List.takeWhile_append_of_pos (fun line hline => by simp [hbody line hline]),
      List.takeWhile_cons_of_neg (by simp [hnext]), List.append_nil]
  rw [sections, if_pos hhead, htake, sections_append_of_not hbody]

theorem head?_of_moduleName? {line name : List Char} (h : moduleName? line = some name) :
    line.head? = some 'd' := by
  obtain ⟨rest, hstart, -⟩ := Option.bind_eq_some_iff.mp h
  rw [Text.stripStart?_eq_some_iff] at hstart
  have hfirst : ("declare module '".toList).head? = some 'd' := by decide
  rw [hstart, List.head?_append, hfirst]
  rfl

theorem moduleName?_moduleHead (name : String) :
    moduleName? (moduleHead name) = some name.toList := by
  have hstart : Text.stripStart? "declare module '".toList (moduleHead name) =
      some (name.toList ++ "' \x7b".toList) :=
    Text.stripStart?_eq_some_iff.mpr (moduleHead_eq name)
  have hend : Text.stripEnd? "' \x7b".toList (name.toList ++ "' \x7b".toList) = some name.toList :=
    Text.stripEnd?_eq_some_iff.mpr rfl
  rw [moduleName?, hstart, Option.bind_some, hend]

/-! ## Modules -/

/-- Lines that begin no module are passed over. -/
theorem blocks_append_of_not {lines : List (List Char)}
    (h : ∀ line ∈ lines, moduleName? line = none) (rest : List (List Char)) :
    blocks (lines ++ rest) = blocks rest := by
  induction lines with
  | nil => rfl
  | cons line lines ih =>
    have hline : moduleName? line = none := h line (List.mem_cons_self ..)
    have hlines := ih fun l hl => h l (List.mem_cons_of_mem _ hl)
    rw [List.cons_append, ← hlines]
    unfold blocks
    rw [sections]
    split
    · rw [List.filterMap_cons, hline]
      rfl
    · rfl

theorem moduleName?_of_head? {line : List Char} (h : line.head? ≠ some 'd') :
    moduleName? line = none := by
  rw [Option.eq_none_iff_forall_ne_some]
  intro name hname
  exact h (head?_of_moduleName? hname)

theorem isTopLevel_moduleHead (name : String) : isTopLevel (moduleHead name) = true := by
  rw [isTopLevel, head?_of_moduleName? (moduleName?_moduleHead name)]
  rfl

theorem isTopLevel_close : isTopLevel ['}'] = true := by decide

/-- A module reaches up to its closing line. -/
theorem blocks_module (name : String) {body : List (List Char)}
    (hbody : ∀ line ∈ body, isTopLevel line = false) (rest : List (List Char)) :
    blocks (moduleHead name :: (body ++ ['}'] :: rest)) =
      ⟨name.toList, body⟩ :: blocks rest := by
  have hsections := sections_cons (isTopLevel_moduleHead name) hbody isTopLevel_close rest
  have hclose : blocks (['}'] :: rest) = blocks rest :=
    blocks_append_of_not (List.forall_mem_singleton.mpr (moduleName?_of_head? (by decide))) rest
  -- The closing line begins a section of its own, which is no module.
  rw [← hclose]
  unfold blocks
  rw [hsections, List.filterMap_cons, moduleName?_moduleHead]
  rfl

/-! ## Indented types -/

theorem bare_of_blanks (count : Nat) {line : List Char} (h : line.head? ≠ some ' ')
    (htrim : Text.trimEndBy Letter.isBlank line = line) :
    bare (List.replicate count ' ' ++ line) = line := by
  have hdrop : (List.replicate count ' ' ++ line).dropWhile (· == ' ') = line := by
    rw [List.dropWhile_append_of_pos (by simp)]
    cases line with
    | nil => rfl
    | cons c rest =>
      have hc : c ≠ ' ' := fun heq => h (by rw [heq]; rfl)
      exact List.dropWhile_cons_of_neg (by simp [hc])
  rw [bare, hdrop, htrim]

theorem head?_bare_ne (line : List Char) : (bare line).head? ≠ some ' ' := by
  intro hhead
  have hprefix : bare line <+: line.dropWhile (· == ' ') := List.rdropWhile_prefix _ _
  obtain ⟨rest, hrest⟩ := hprefix
  have hfirst : (line.dropWhile (· == ' ')).head? = some ' ' := by
    rw [← hrest, List.head?_append, hhead]
    rfl
  have hnot := List.head?_dropWhile_not (· == ' ') line
  rw [hfirst] at hnot
  simp at hnot

/-- An indented line is empty if nothing was in it; otherwise it is the line as it was between its
blanks, after two blanks or more. -/
theorem reindentLine_eq (line : List Char) :
    ∃ count, reindentLine line =
      if bare line = [] then [] else ' ' :: ' ' :: (List.replicate count ' ' ++ bare line) := by
  refine ⟨2 * ((line.length - (line.dropWhile (· == ' ')).length) / 4) +
    (line.length - (line.dropWhile (· == ' ')).length) % 4, ?_⟩
  have hblanks : ∀ count, Text.trimEndBy Letter.isBlank (List.replicate count ' ') = [] := by
    intro count
    rw [Text.trimEndBy_eq_rdropWhile, List.rdropWhile_eq_nil_iff]
    intro c hc
    rw [List.eq_of_mem_replicate hc]
    decide
  unfold reindentLine
  simp only []
  rw [Text.trimEndBy_append, hblanks]
  show (if bare line = [] then [] else _ ++ bare line) = _
  congr 1
  rw [show ∀ leading, 2 * (leading / 4 + 1) + leading % 4 = 2 * (leading / 4) + leading % 4 + 1 + 1
    from fun leading => by omega]
  rfl

/-- Indentation changes nothing but blanks. -/
theorem bare_reindentLine (line : List Char) : bare (reindentLine line) = bare line := by
  obtain ⟨count, hline⟩ := reindentLine_eq line
  rw [hline]
  split
  next hempty => rw [hempty]; rfl
  next =>
    have htrim : Text.trimEndBy Letter.isBlank (bare line) = bare line :=
      Text.trimEndBy_idempotent _
    exact bare_of_blanks (count + 2) (head?_bare_ne line) htrim

theorem isTopLevel_reindentLine (line : List Char) : isTopLevel (reindentLine line) = false := by
  obtain ⟨count, hline⟩ := reindentLine_eq line
  rw [hline]
  split <;> rfl

theorem trimEndBy_reindentLine (line : List Char) :
    Text.trimEndBy Letter.isBlank (reindentLine line) = reindentLine line :=
  Text.trimEndBy_idempotent _

theorem newline_not_mem_reindentLine {line : List Char} (h : '\n' ∉ line) :
    '\n' ∉ reindentLine line := by
  intro hmem
  -- What trimming leaves is either one of the new blanks or a part of the line.
  have hkept := (List.rdropWhile_prefix Letter.isBlank _).mem hmem
  rcases List.mem_append.mp hkept with hblank | hrest
  · exact absurd (List.eq_of_mem_replicate hblank) (by decide)
  · exact h (List.dropWhile_subset _ hrest)

/-! ## The types of a service -/

/-- The lines that types have in their module. -/
def typeRows (types : String) : List (List Char) :=
  Text.rows (Text.trimEndBy Letter.isBlank (reindent types.toList))

/-- They are the indented lines up to the last one that is not empty, or one empty line. -/
theorem typeRows_eq (types : String) :
    let kept := ((Text.lines types.toList).map reindentLine).rdropWhile List.isEmpty
    typeRows types = if kept = [] then [[]] else kept := by
  intro kept
  have htrim : ∀ line ∈ (Text.lines types.toList).map reindentLine,
      Text.trimEndBy Letter.isBlank line = line := by
    intro line hline
    obtain ⟨original, -, rfl⟩ := List.mem_map.mp hline
    exact trimEndBy_reindentLine original
  unfold typeRows reindent
  rw [Text.trimEndBy_joinWith (by decide) htrim]
  show Text.rows (Text.joinWith ['\n'] kept) = _
  split
  next hnone =>
    rw [hnone]
    rfl
  next hsome =>
    refine Text.rows_joinWith_of_not_mem hsome fun line hline => ?_
    obtain ⟨original, horiginal, rfl⟩ := List.mem_map.mp ((List.rdropWhile_prefix _ _).mem hline)
    exact newline_not_mem_reindentLine (Text.newline_not_mem_of_mem_lines horiginal)

/-- Every line of types is an indented line, whatever the compiler wrote. -/
theorem exists_of_mem_typeRows {types : String} {line : List Char} (h : line ∈ typeRows types) :
    ∃ original, line = reindentLine original := by
  rw [typeRows_eq types] at h
  split at h
  · rw [List.mem_singleton] at h
    exact ⟨[], h⟩
  · obtain ⟨original, -, rfl⟩ := List.mem_map.mp ((List.rdropWhile_prefix _ _).mem h)
    exact ⟨original, rfl⟩

theorem isTopLevel_typeRows (types : String) :
    ∀ line ∈ typeRows types, isTopLevel line = false := by
  intro line hline
  obtain ⟨original, rfl⟩ := exists_of_mem_typeRows hline
  exact isTopLevel_reindentLine original

/-- Empty lines at the end say nothing. -/
theorem content_append_of_empty (lines : List (List Char)) {more : List (List Char)}
    (h : ∀ line ∈ more, line = []) : content (lines ++ more) = content lines := by
  have hempty : ∀ line ∈ (more.map bare).reverse, List.isEmpty line = true := by
    intro line hline
    obtain ⟨original, horiginal, rfl⟩ := List.mem_map.mp (List.mem_reverse.mp hline)
    rw [h original horiginal]
    rfl
  unfold content List.rdropWhile
  rw [List.map_append, List.reverse_append, List.dropWhile_append_of_pos hempty]

theorem content_rdropWhile (lines : List (List Char)) :
    content (lines.rdropWhile List.isEmpty) = content lines := by
  have hdropped : ∀ line ∈ lines.rtakeWhile List.isEmpty, line = [] := fun line hline =>
    List.isEmpty_iff.mp (List.mem_rtakeWhile_imp hline)
  rw [← content_append_of_empty _ hdropped, List.rdropWhile_append_rtakeWhile]

/-- **Types**: they can be read from their module line by line. -/
theorem content_typeRows (types : String) :
    content (typeRows types) = content (Text.lines types.toList) := by
  have hlines : content ((Text.lines types.toList).map reindentLine) =
      content (Text.lines types.toList) := by
    have hbare : bare ∘ reindentLine = bare := funext bare_reindentLine
    unfold content
    rw [List.map_map, hbare]
  rw [← hlines, ← content_rdropWhile ((Text.lines types.toList).map reindentLine)]
  rw [typeRows_eq types]
  split
  next hnone =>
    rw [hnone]
    rfl
  next => rfl

/-! ## The file -/

theorem isLine_bannerLines : ∀ line ∈ bannerLines.map String.toList, Text.isLine line = true := by
  simp only [bannerLines, List.map_cons, List.map_nil, List.forall_mem_cons]
  and_intros
  all_goals first | exact List.forall_mem_nil _ | exact Text.isLine_ofList (by decide)

theorem head?_bannerLines : ∀ line ∈ bannerLines.map String.toList, line.head? = some '/' := by
  have hfirst : ∀ rest, (String.ofList ('/' :: rest)).toList.head? = some '/' := by
    intro rest
    rw [String.toList_ofList, List.head?_cons]
  simp only [bannerLines, List.map_cons, List.map_nil, List.forall_mem_cons]
  exact ⟨hfirst _, hfirst _, hfirst _, hfirst _, List.forall_mem_nil _⟩

/-- The lines of the module of a service. -/
def moduleRows (outcome : ServiceTypes) : List (List Char) :=
  moduleHead (Naming.serviceModule outcome.service.id) ::
    (typeRows (shownTypes outcome.types) ++ [['}']])

/-- The lines of the hub module. -/
def hubRows (services : List Service) : List (List Char) :=
  moduleHead hubModule :: (hubLines services ++ [['}']])

theorem rows_serviceBlock {outcome : ServiceTypes} (h : Named outcome.service) :
    Text.rows (serviceBlock outcome.service.id (shownTypes outcome.types)) = moduleRows outcome :=
  rows_moduleBlock (isLine_serviceModule h) _

/-- No line of a module ends in a carriage return. -/
theorem getLast?_ne_of_mem_moduleRows {outcome : ServiceTypes} (h : Named outcome.service) :
    ∀ line ∈ moduleRows outcome, line.getLast? ≠ some '\r' := by
  intro line hline
  rw [moduleRows, List.mem_cons, List.mem_append, List.mem_singleton] at hline
  rcases hline with rfl | htypes | rfl
  · exact Text.getLast?_ne_of_isLine (isLine_moduleHead (isLine_serviceModule h))
  · obtain ⟨original, rfl⟩ := exists_of_mem_typeRows htypes
    exact Text.getLast?_trimEndBy_ne (by decide)
  · decide

theorem isLine_hubRows {services : List Service} (h : ∀ service ∈ services, Named service) :
    ∀ line ∈ hubRows services, Text.isLine line = true := by
  intro line hline
  rw [hubRows, List.mem_cons, List.mem_append, List.mem_singleton] at hline
  rcases hline with rfl | hhub | rfl
  · exact isLine_moduleHead (Text.isLine_ofList (by decide))
  · exact isLine_hubLines h line hhub
  · decide

/-- **File**: its lines are the banner, the hub, and the modules, with empty lines between them. -/
theorem lines_text {outcomes : List ServiceTypes}
    (h : ∀ outcome ∈ outcomes, Named outcome.service) :
    Text.lines (text outcomes).toList =
      bannerLines.map String.toList ++ [] :: (hubRows (outcomes.map (·.service)) ++
        outcomes.flatMap fun outcome => [] :: moduleRows outcome) := by
  have hservices : ∀ service ∈ outcomes.map (·.service), Named service :=
    List.forall_mem_map.mpr h
  have hbanner : Text.rows banner = bannerLines.map String.toList :=
    Text.rows_joinWith_of_not_mem (by simp [bannerLines]) fun line hline =>
      Text.newline_not_mem_of_isLine (isLine_bannerLines line hline)
  have hhub : Text.rows (hub (outcomes.map (·.service))) = hubRows (outcomes.map (·.service)) :=
    rows_hub hservices
  have hmodules : (outcomes.map fun s => serviceBlock s.service.id (shownTypes s.types)).flatMap
      (fun block => [] :: Text.rows block) = outcomes.flatMap fun s => [] :: moduleRows s := by
    rw [List.flatMap_map]
    exact List.flatMap_congr fun outcome houtcome =>
      congrArg _ (rows_serviceBlock (h outcome houtcome))
  have hrows : Text.rows (Text.joinWith ['\n', '\n'] (banner :: hub (outcomes.map (·.service)) ::
      outcomes.map fun s => serviceBlock s.service.id (shownTypes s.types))) =
        bannerLines.map String.toList ++ [] :: (hubRows (outcomes.map (·.service)) ++
          outcomes.flatMap fun outcome => [] :: moduleRows outcome) := by
    rw [Text.rows_joinWith_blank, hbanner, List.flatMap_cons, hhub, hmodules, List.cons_append]
  unfold text
  rw [String.toList_ofList, Text.lines_append_newline, hrows]
  -- A carriage return at the end of a row would be lost, but no row ends in one.
  rw [hrows]
  intro line hline
  simp only [List.mem_append, List.mem_cons, List.mem_flatMap] at hline
  rcases hline with hline | rfl | hline | ⟨outcome, houtcome, rfl | hline⟩
  · exact Text.getLast?_ne_of_isLine (isLine_bannerLines line hline)
  · decide
  · exact Text.getLast?_ne_of_isLine (isLine_hubRows hservices line hline)
  · decide
  · exact getLast?_ne_of_mem_moduleRows (h outcome houtcome) line hline

/-! ## Reading the file -/

theorem filter_isTopLevel_module (name : String) {body : List (List Char)}
    (hbody : ∀ line ∈ body, isTopLevel line = false) :
    (moduleHead name :: (body ++ [['}']])).filter isTopLevel = [moduleHead name, ['}']] := by
  have hnone : body.filter isTopLevel = [] :=
    List.filter_eq_nil_iff.mpr fun line hline => by rw [hbody line hline]; decide
  rw [List.filter_cons_of_pos (isTopLevel_moduleHead name), List.filter_append, hnone]
  rfl

theorem filter_isTopLevel_text {outcomes : List ServiceTypes}
    (h : ∀ outcome ∈ outcomes, Named outcome.service) :
    (Text.lines (text outcomes).toList).filter isTopLevel =
      bannerLines.map String.toList ++ moduleHead hubModule :: ['}'] ::
        outcomes.flatMap fun outcome =>
          [moduleHead (Naming.serviceModule outcome.service.id), ['}']] := by
  have hbanner : (bannerLines.map String.toList).filter isTopLevel =
      bannerLines.map String.toList :=
    List.filter_eq_self.mpr fun line hline => by
      rw [isTopLevel, head?_bannerLines line hline]
      rfl
  have hhub : (hubRows (outcomes.map (·.service))).filter isTopLevel =
      [moduleHead hubModule, ['}']] :=
    filter_isTopLevel_module hubModule (isTopLevel_hubLines _)
  have hempty : ∀ rest : List (List Char), ([] :: rest).filter isTopLevel =
      rest.filter isTopLevel := fun _ => rfl
  have hmodule : ∀ outcome : ServiceTypes, ([] :: moduleRows outcome).filter isTopLevel =
      [moduleHead (Naming.serviceModule outcome.service.id), ['}']] := fun outcome =>
    filter_isTopLevel_module _ (isTopLevel_typeRows _)
  rw [lines_text h, List.filter_append, hbanner, hempty, List.filter_append, hhub,
    List.filter_flatMap, List.flatMap_congr fun outcome _ => hmodule outcome]
  rfl

theorem blocks_modules (outcomes : List ServiceTypes) :
    blocks (outcomes.flatMap fun outcome => [] :: moduleRows outcome) =
      outcomes.map fun outcome => ⟨(Naming.serviceModule outcome.service.id).toList,
        typeRows (shownTypes outcome.types)⟩ := by
  induction outcomes with
  | nil => rfl
  | cons outcome rest ih =>
    have hempty : ∀ lines : List (List Char), blocks ([] :: lines) = blocks lines :=
      blocks_append_of_not (List.forall_mem_singleton.mpr (moduleName?_of_head? (by decide)))
    rw [List.flatMap_cons, List.cons_append, hempty, moduleRows, List.cons_append,
      List.append_assoc, List.singleton_append, blocks_module _ (isTopLevel_typeRows _), ih,
      List.map_cons]

/-- The modules of the file are the hub and those of the services. -/
theorem blocks_text {outcomes : List ServiceTypes}
    (h : ∀ outcome ∈ outcomes, Named outcome.service) :
    blocks (Text.lines (text outcomes).toList) =
      ⟨hubModule.toList, hubLines (outcomes.map (·.service))⟩ ::
        outcomes.map fun outcome => ⟨(Naming.serviceModule outcome.service.id).toList,
          typeRows (shownTypes outcome.types)⟩ := by
  have habove : ∀ line ∈ bannerLines.map String.toList ++ [[]], moduleName? line = none := by
    intro line hline
    refine moduleName?_of_head? ?_
    rcases List.mem_append.mp hline with hbanner | hempty
    · rw [head?_bannerLines line hbanner]
      decide
    · rw [List.mem_singleton.mp hempty]
      decide
  rw [lines_text h, List.append_cons, blocks_append_of_not habove, hubRows, List.cons_append,
    List.append_assoc, List.singleton_append, blocks_module _ (isTopLevel_hubLines _),
    blocks_modules]

/-! ## Changing a service -/

/-- The hub tells nothing about the options of a service. -/
theorem hubLines_options (before after : List Service) (service : Service)
    (options : ServiceOptions) :
    hubLines (before ++ { service with options := options } :: after) =
      hubLines (before ++ service :: after) := by
  have himport : importLine { service with options := options } = importLine service := rfl
  have hmember : repositoryLine { service with options := options } = repositoryLine service := rfl
  have hhelpers : helperLines (before ++ { service with options := options } :: after) =
      helperLines (before ++ service :: after) := by
    cases before with
    | nil => rfl
    | cons first rest =>
      simp only [List.cons_append, helperLines, List.flatMap_append, List.flatMap_cons]
      rfl
  have hsome : ∀ some, (before ++ some :: after).isEmpty = false := by
    intro some
    cases before <;> rfl
  unfold hubLines repositoryLines
  rw [hhelpers, hsome, hsome]
  simp only [List.map_append, List.map_cons, himport, hmember]

/-- What stands above the types of a service in the file, and what stands below them. -/
theorem lines_text_split {before after : List ServiceTypes} {outcome : ServiceTypes}
    (h : ∀ other ∈ before ++ outcome :: after, Named other.service) :
    Text.lines (text (before ++ outcome :: after)).toList =
      bannerLines.map String.toList ++
        [] :: (hubRows ((before ++ outcome :: after).map (·.service)) ++
          before.flatMap fun other => [] :: moduleRows other) ++
      [[], moduleHead (Naming.serviceModule outcome.service.id)] ++
      typeRows (shownTypes outcome.types) ++
      ['}'] :: after.flatMap fun other => [] :: moduleRows other := by
  rw [lines_text h, List.flatMap_append, List.flatMap_cons]
  generalize hubRows _ = hubs
  unfold moduleRows
  simp only [List.append_assoc, List.cons_append, List.nil_append]

/-- Two files that differ inside the module of one service only. -/
def DifferInside (id : String) (first second : List (List Char)) : Prop :=
  ∃ above inside inside' below : List (List Char),
    above.getLast? = some (moduleHead (Naming.serviceModule id)) ∧ below.head? = some ['}'] ∧
    (∀ line ∈ inside ++ inside', isTopLevel line = false) ∧
    first = above ++ inside ++ below ∧ second = above ++ inside' ++ below

/-- Other options, or other types, change lines between the first line of the module and its closing
line. -/
theorem differInside_text {before after : List ServiceTypes} {service : Service}
    {options : ServiceOptions} {types types' : Except GeneratorError String}
    (h : ∀ other ∈ before ++ ⟨service, types⟩ :: after, Named other.service) :
    DifferInside service.id
      (Text.lines (text (before ++ ⟨service, types⟩ :: after)).toList)
      (Text.lines (text (before ++
        ⟨{ service with options := options }, types'⟩ :: after)).toList) := by
  have hchanged : ∀ other ∈ before ++
      ⟨{ service with options := options }, types'⟩ :: after, Named other.service := by
    rw [List.forall_mem_append, List.forall_mem_cons] at h ⊢
    exact h
  -- The hub is made from the services, but not from their options.
  have hhub : hubRows ((before ++
      ⟨{ service with options := options }, types'⟩ :: after).map (·.service)) =
        hubRows ((before ++ ⟨service, types⟩ :: after).map (·.service)) := by
    unfold hubRows
    rw [List.map_append, List.map_cons, List.map_append, List.map_cons, hubLines_options]
  -- What stands above and below is the same text in both files.
  refine ⟨_, typeRows (shownTypes types), typeRows (shownTypes types'), _, ?_, ?_, ?_,
    lines_text_split h, ?_⟩
  · rw [List.getLast?_append_cons]
    rfl
  · rfl
  · exact List.forall_mem_append.mpr ⟨isTopLevel_typeRows _, isTopLevel_typeRows _⟩
  · rw [lines_text_split hchanged, hhub]

/-! ## Services that were registered -/

theorem named_of_mem_withSchemas {run : Registry.Run} (hrun : run.Consistent) {service : Service}
    (h : service ∈ run.registry.withSchemas) : Named service := by
  have hmem := Registry.Run.mem_services_iff.mp (List.mem_of_mem_filter h)
  have hname := hrun.identifier _ hmem
  exact hname

/-! ## The file of a run -/

section Run

variable {σ : Type} (files : Files.Host (StateM σ)) (fetch : Url → StateM σ (Option String))
  (compiler : Compiler (StateM σ))

/-- What is made of the services other than one. -/
def outcomesBeside (id : String) (registry : Registry) (start : σ) : List ServiceTypes :=
  ((outcomes files fetch compiler registry).run start).1.filter (·.service.id != id)

theorem map_service_outcomes (registry : Registry) (start : σ) :
    ((outcomes files fetch compiler registry).run start).1.map (·.service) =
      registry.withSchemas :=
  (madeAll_outcomes registry start).map_service

theorem named_of_mem_outcomes {run : Registry.Run} (hrun : run.Consistent) (start : σ) :
    ∀ outcome ∈ ((outcomes files fetch compiler run.registry).run start).1,
      Named outcome.service := by
  intro outcome houtcome
  apply named_of_mem_withSchemas hrun
  rw [← map_service_outcomes files fetch compiler run.registry start]
  exact List.mem_map_of_mem houtcome

variable {files fetch compiler}

/-- The outcomes around the one of a service are those of the other services. -/
theorem exists_outcomes_eq {registry : Registry} {before after : List Service} {service : Service}
    (h : registry.withSchemas = before ++ service :: after)
    (hnodup : (registry.withSchemas.map (·.id)).Nodup) (start : σ) :
    ∃ first types last,
      ((outcomes files fetch compiler registry).run start).1 =
        first ++ ⟨service, types⟩ :: last ∧
      first.length = before.length ∧
      outcomesBeside files fetch compiler service.id registry start = first ++ last := by
  have hservices := map_service_outcomes files fetch compiler registry start
  rw [h] at hservices hnodup
  obtain ⟨first, middle, houtcomes, hfirst, hmiddle⟩ := List.map_eq_append_iff.mp hservices
  obtain ⟨⟨other, types⟩, last, rfl, hother, hlast⟩ := List.map_eq_cons_iff.mp hmiddle
  obtain rfl : service = other := hother.symm
  refine ⟨first, types, last, houtcomes, by rw [← hfirst, List.length_map], ?_⟩
  rw [List.map_append, List.map_cons, List.nodup_middle, List.nodup_cons, ← List.map_append,
    ← hfirst, ← hlast, ← List.map_append] at hnodup
  have hothers : ∀ outcome ∈ first ++ last, (outcome.service.id != service.id) = true := by
    intro outcome houtcome
    rw [bne_iff_ne]
    intro hid
    exact hnodup.1 (hid ▸ List.mem_map_of_mem (List.mem_map_of_mem houtcome))
  obtain ⟨hbefore, hafter⟩ := List.forall_mem_append.mp hothers
  rw [outcomesBeside, houtcomes, List.filter_append, List.filter_cons_of_neg (by simp),
    List.filter_eq_self.mpr hbefore, List.filter_eq_self.mpr hafter]

/-- A service that is registered again changes the lines inside its module, if the same is made of
the others. -/
theorem differInside_outcomes {run : Registry.Run} (hrun : run.Consistent)
    {before after : List Service} {service : Service}
    (hservices : run.registry.withSchemas = before ++ service :: after)
    {options : ServiceOptions} (hschema : options.schema.isSome = true)
    {files' : Files.Host (StateM σ)} {fetch' : Url → StateM σ (Option String)}
    {compiler' : Compiler (StateM σ)} {start start' : σ}
    (hsame : outcomesBeside files' fetch' compiler' service.id
        (run.step (service.id, options)).registry start' =
      outcomesBeside files fetch compiler service.id run.registry start) :
    DifferInside service.id
      (Text.lines (text ((outcomes files fetch compiler run.registry).run start).1).toList)
      (Text.lines (text ((outcomes files' fetch' compiler'
        (run.step (service.id, options)).registry).run start').1).toList) := by
  have hnamed := named_of_mem_outcomes files fetch compiler hrun start
  obtain ⟨first, types, last, hmade, hlength, hbeside⟩ :=
    exists_outcomes_eq hservices hrun.nodup_withSchemas start
  obtain ⟨first', types', last', hmade', hlength', hbeside'⟩ :=
    exists_outcomes_eq (hrun.withSchemas_step hservices hschema)
      (Registry.Run.consistent_step hrun _).nodup_withSchemas start'
  -- The other outcomes are the same, and there are as many of them before the service.
  rw [hbeside] at hsame
  obtain ⟨rfl, rfl⟩ := List.append_inj (hbeside'.symm.trans hsame) (hlength'.trans hlength.symm)
  rw [hmade] at hnamed
  rw [hmade, hmade']
  exact differInside_text hnamed

/-- If the surroundings are only looked at, nothing else is made of the other services, whatever the
one is. -/
theorem outcomesBeside_of_onlyReads (h : OnlyReads files fetch compiler) {registry other : Registry}
    {id : String} (hsame : other.withSchemas.filter (·.id != id) =
      registry.withSchemas.filter (·.id != id)) (start : σ) :
    outcomesBeside files fetch compiler id other start =
      outcomesBeside files fetch compiler id registry start := by
  rw [outcomesBeside, outcomesBeside, outcomes_of_onlyReads h, outcomes_of_onlyReads h,
    List.filter_map, List.filter_map]
  exact congrArg _ hsame

end Run

/-- **Modules**: the lines in the first column are the banner and the first and last lines of the
modules, those of the services in order.  Between them stand the types that come about from the
service's own document and options.  When a service is registered again with other options, or other
types are made of it, only these lines change, as long as the same is made of the other services; so
it is if the surroundings are only looked at. -/
theorem blocks_of_text {σ : Type} (files : Files.Host (StateM σ))
    (fetch : Url → StateM σ (Option String)) (compiler : Compiler (StateM σ))
    (calls : List (String × ServiceOptions)) (start : σ) :
    let run := Registry.Run.ofCalls calls
    let services := run.registry.withSchemas
    let made := (outcomes files fetch compiler run.registry).run start
    let lines := Text.lines (text made.1).toList
    MadeAll files fetch compiler services start made.1 made.2 ∧
    lines.filter isTopLevel = bannerLines.map String.toList ++ moduleHead hubModule :: ['}'] ::
      services.flatMap (fun service =>
        [moduleHead (Naming.serviceModule service.id), ['}']]) ∧
    (blocks lines).map (·.name) = hubModule.toList ::
      services.map (fun service => (Naming.serviceModule service.id).toList) ∧
    (blocks lines).tail.map (fun block => content block.lines) =
      made.1.map (fun outcome => content (Text.lines (shownTypes outcome.types).toList)) ∧
    ∀ before service after, services = before ++ service :: after →
      ∀ options : ServiceOptions, options.schema.isSome = true →
        let changed := (run.step (service.id, options)).registry
        (∀ (files' : Files.Host (StateM σ)) (fetch' : Url → StateM σ (Option String))
          (compiler' : Compiler (StateM σ)) (start' : σ),
          outcomesBeside files' fetch' compiler' service.id changed start' =
            outcomesBeside files fetch compiler service.id run.registry start →
          DifferInside service.id lines
            (Text.lines (text ((outcomes files' fetch' compiler' changed).run start').1).toList)) ∧
        (OnlyReads files fetch compiler →
          DifferInside service.id lines
            (Text.lines (text ((outcomes files fetch compiler changed).run start).1).toList)) := by
  intro run services made lines
  have hconsistent := Registry.Run.consistent_ofCalls calls
  have hservices : made.1.map (·.service) = services := map_service_outcomes ..
  have hnamed : ∀ outcome ∈ made.1, Named outcome.service :=
    named_of_mem_outcomes _ _ _ hconsistent _
  have hblocks := blocks_text hnamed
  refine ⟨madeAll_outcomes _ _, ?_, ?_, ?_, ?_⟩
  · rw [← hservices, List.flatMap_map]
    exact filter_isTopLevel_text hnamed
  · rw [hblocks, ← hservices, List.map_cons, List.map_map, List.map_map]
    rfl
  · rw [hblocks, List.tail_cons, List.map_map, ← funext fun outcome : ServiceTypes =>
      content_typeRows (shownTypes outcome.types)]
    rfl
  · intro before service after hsplit options hschema changed
    have hsplit' : run.registry.withSchemas = before ++ service :: after := hsplit
    constructor
    · intro files' fetch' compiler' start' hsame
      exact differInside_outcomes hconsistent hsplit hschema hsame
    · intro hreads
      apply differInside_outcomes hconsistent hsplit hschema
      apply outcomesBeside_of_onlyReads hreads
      rw [hconsistent.withSchemas_step hsplit hschema, hsplit', List.filter_append,
        List.filter_append, List.filter_cons_of_neg (by simp), List.filter_cons_of_neg (by simp)]

/-- Two services.  The document of the first one is given when it is registered again, and the
document of the second one cannot be had. -/
def sampleCalls : List (String × ServiceOptions) :=
  [("pets", ⟨none, some (.file "pets.json"), none⟩),
    ("zoo", ⟨none, some (.resolver (.error "offline")), none⟩),
    ("pets", ⟨none, some (.inline (.str "\x7d\r\n    declare \n\n")), none⟩)]

/-- A compiler that takes texts for types, even if they look like modules themselves. -/
def sampleCompiler : Compiler (StateM Files.Tree) := fun document _ =>
  return .ok (document.asString?.getD "")

/-- Another document for the first one. -/
def sampleOptions : ServiceOptions := ⟨none, some (.inline (.str "export type paths = never")), none⟩

theorem blocks_of_sampleCalls :
    let run := Registry.Run.ofCalls sampleCalls
    let changed := (run.step ("pets", sampleOptions)).registry
    let fetch (_ : Url) : StateM Files.Tree (Option String) := return none
    let made := (outcomes Files.Tree.host fetch sampleCompiler run.registry).run ⟨[], []⟩
    let remade := (outcomes Files.Tree.host fetch sampleCompiler changed).run ⟨[], []⟩
    let lines := Text.lines (text made.1).toList
    (blocks lines).map (·.name) =
      ["apiful/schema".toList, "apiful/__pets__".toList, "apiful/__zoo__".toList] ∧
    (blocks lines).tail.map (fun block => content block.lines) =
      [["\x7d".toList, "declare".toList], content (Text.lines placeholder.toList)] ∧
    DifferInside "pets" lines (Text.lines (text remade.1).toList) := by
  intro run changed fetch made remade lines
  obtain ⟨-, -, hnames, hcontents, hdiffer⟩ :=
    blocks_of_text Files.Tree.host fetch sampleCompiler sampleCalls ⟨[], []⟩
  refine ⟨hnames.trans rfl, hcontents.trans ?_, ?_⟩
  · have hpets : content (Text.lines "\x7d\r\n    declare \n\n".toList) =
        ["\x7d".toList, "declare".toList] := by
      decide
    rw [← hpets]
    rfl
  · exact (hdiffer [] ⟨"pets", "Pets", _⟩ [⟨"zoo", "Zoo", _⟩] rfl sampleOptions rfl).1
      Files.Tree.host fetch sampleCompiler ⟨[], []⟩ rfl

end ApiToolkit.Declarations
