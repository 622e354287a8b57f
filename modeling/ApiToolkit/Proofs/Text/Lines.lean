import ApiToolkit.Text.Letter
import ApiToolkit.Text.Search
import Mathlib.Data.List.DropRight
/-!
# Lines of a text

Texts are put together from lines and cut into lines again.  Only line feeds cut; a carriage return
before one is dropped by `Text.lines`.

## What is inside

- `Text.splitBy_append_cut`, `Text.splitBy_of_forall`: cutting piece by piece.
- `Text.rows`: the parts between line feeds, with `Text.rows_joinWith`.
- `Text.isLine`: texts that are one line.
- `Text.lines_append_newline`: the lines of a text that ends in a line feed.
- `Text.trimEndBy_joinWith`: trimming lines that are trimmed drops the empty ones at the end.
-/

namespace ApiToolkit.Text

/-! ## Cutting -/

section Cutting

variable {isCut : Char → Bool}

theorem splitBy_ne_nil (isCut : Char → Bool) (text : List Char) : splitBy isCut text ≠ [] := by
  cases text with
  | nil => simp [splitBy]
  | cons c rest =>
    unfold splitBy
    split
    · simp
    · split <;> simp

/-- A character that does not cut belongs to the first part. -/
theorem splitBy_cons_of_not {c : Char} (h : isCut c = false) {rest part : List Char}
    {parts : List (List Char)} (hrest : splitBy isCut rest = part :: parts) :
    splitBy isCut (c :: rest) = (c :: part) :: parts := by
  rw [splitBy, hrest]
  simp [h]

theorem splitBy_of_forall {text : List Char} (h : ∀ c ∈ text, isCut c = false) :
    splitBy isCut text = [text] := by
  induction text with
  | nil => rfl
  | cons c rest ih =>
    have hc : isCut c = false := h c (List.mem_cons_self ..)
    have hrest : splitBy isCut rest = [rest] := ih fun d hd => h d (List.mem_cons_of_mem _ hd)
    exact splitBy_cons_of_not hc hrest

/-- A character that cuts separates the parts before it from those after it. -/
theorem splitBy_append_cut (before : List Char) {c : Char} (h : isCut c = true)
    (after : List Char) :
    splitBy isCut (before ++ c :: after) = splitBy isCut before ++ splitBy isCut after := by
  induction before with
  | nil => simp [splitBy, h]
  | cons d before ih =>
    rw [List.cons_append]
    by_cases hd : isCut d = true
    · simp [splitBy, hd, ih]
    · have hd : isCut d = false := Bool.eq_false_iff.mpr hd
      obtain ⟨part, parts, hparts⟩ := List.exists_cons_of_ne_nil (splitBy_ne_nil isCut before)
      rw [splitBy_cons_of_not hd hparts, List.cons_append]
      refine splitBy_cons_of_not hd ?_
      rw [ih, hparts, List.cons_append]

theorem not_cut_of_mem_splitBy {text part : List Char} (h : part ∈ splitBy isCut text) :
    ∀ c ∈ part, isCut c = false := by
  induction text generalizing part with
  | nil =>
    rw [splitBy, List.mem_singleton] at h
    subst h
    exact List.forall_mem_nil _
  | cons d rest ih =>
    by_cases hd : isCut d = true
    · simp only [splitBy, hd, if_true, List.mem_cons] at h
      rcases h with rfl | h
      · exact List.forall_mem_nil _
      · exact ih h
    · have hd : isCut d = false := Bool.eq_false_iff.mpr hd
      obtain ⟨first, parts, hparts⟩ := List.exists_cons_of_ne_nil (splitBy_ne_nil isCut rest)
      rw [splitBy_cons_of_not hd hparts, List.mem_cons] at h
      rcases h with rfl | h
      · have hfirst : ∀ c ∈ first, isCut c = false := ih (by simp [hparts])
        exact List.forall_mem_cons.mpr ⟨hd, hfirst⟩
      · exact ih (by simp [hparts, h])

end Cutting

/-! ## Rows -/

/-- The parts of a text between its line feeds. -/
def rows (text : List Char) : List (List Char) := splitBy (· == '\n') text

theorem rows_of_not_mem {text : List Char} (h : '\n' ∉ text) : rows text = [text] := by
  refine splitBy_of_forall fun c hc => ?_
  rw [beq_eq_false_iff_ne]
  rintro rfl
  exact h hc

theorem rows_append_newline (before after : List Char) :
    rows (before ++ '\n' :: after) = rows before ++ rows after :=
  splitBy_append_cut before (by decide) after

theorem newline_not_mem_of_mem_rows {text row : List Char} (h : row ∈ rows text) : '\n' ∉ row := by
  intro hmem
  have hcut := not_cut_of_mem_splitBy h '\n' hmem
  simp at hcut

/-- Joined texts have the rows of each of them. -/
theorem rows_joinWith {parts : List (List Char)} (h : parts ≠ []) :
    rows (joinWith ['\n'] parts) = parts.flatMap rows := by
  induction parts with
  | nil => exact absurd rfl h
  | cons part rest ih =>
    cases rest with
    | nil => simp [joinWith]
    | cons next rest =>
      have hrest : rows (joinWith ['\n'] (next :: rest)) = (next :: rest).flatMap rows :=
        ih (by simp)
      rw [joinWith, List.append_assoc, List.singleton_append, rows_append_newline, hrest]
      rfl

/-- Lines are the rows again that they were joined from. -/
theorem rows_joinWith_of_not_mem {parts : List (List Char)} (h : parts ≠ [])
    (hrow : ∀ part ∈ parts, '\n' ∉ part) : rows (joinWith ['\n'] parts) = parts := by
  have hsingle : ∀ part ∈ parts, rows part = [part] := fun part hpart =>
    rows_of_not_mem (hrow part hpart)
  rw [rows_joinWith h, List.flatMap_congr hsingle, List.flatMap_singleton']

/-- Where an empty line stands between the texts, an empty row stands between their rows. -/
theorem rows_joinWith_blank (first : List Char) (rest : List (List Char)) :
    rows (joinWith ['\n', '\n'] (first :: rest)) =
      rows first ++ rest.flatMap fun part => [] :: rows part := by
  induction rest generalizing first with
  | nil => simp [joinWith]
  | cons next rest ih =>
    have hjoin : joinWith ['\n', '\n'] (first :: next :: rest) =
        first ++ '\n' :: ([] ++ '\n' :: joinWith ['\n', '\n'] (next :: rest)) := by
      simp [joinWith]
    rw [hjoin, rows_append_newline, rows_append_newline, ih, List.flatMap_cons]
    rfl

/-! ## Single lines -/

/-- Whether a text is one line without a carriage return. -/
def isLine (text : List Char) : Bool := text.all fun c => c != '\n' && c != '\r'

theorem isLine_append (first second : List Char) :
    isLine (first ++ second) = (isLine first && isLine second) := List.all_append

/-- Letters of a literal need not be decoded to be looked at. -/
theorem isLine_ofList {text : List Char} (h : isLine text = true) :
    isLine (String.ofList text).toList = true := by
  rwa [String.toList_ofList]

theorem isLine_of_forall {text : List Char} {isPart : Char → Bool}
    (h : ∀ c ∈ text, isPart c = true) (hfeed : isPart '\n' = false)
    (hreturn : isPart '\r' = false) : isLine text = true := by
  rw [isLine, List.all_eq_true]
  intro c hc
  have hpart := h c hc
  rw [Bool.and_eq_true, bne_iff_ne, bne_iff_ne]
  constructor
  · rintro rfl
    exact Bool.false_ne_true (hfeed.symm.trans hpart)
  · rintro rfl
    exact Bool.false_ne_true (hreturn.symm.trans hpart)

theorem newline_not_mem_of_isLine {text : List Char} (h : isLine text = true) : '\n' ∉ text := by
  intro hmem
  have hfeed := List.all_eq_true.mp h '\n' hmem
  simp at hfeed

theorem rows_of_isLine {text : List Char} (h : isLine text = true) : rows text = [text] :=
  rows_of_not_mem (newline_not_mem_of_isLine h)

theorem getLast?_ne_of_isLine {text : List Char} (h : isLine text = true) :
    text.getLast? ≠ some '\r' := by
  intro hlast
  have hreturn := List.all_eq_true.mp h '\r' (List.mem_of_getLast? hlast)
  simp at hreturn

/-! ## Lines -/

theorem stripEnd?_eq_some_iff {ending text rest : List Char} :
    stripEnd? ending text = some rest ↔ text = rest ++ ending := by
  unfold stripEnd?
  rw [Option.map_eq_some_iff]
  constructor
  · rintro ⟨reversed, hstrip, rfl⟩
    rw [stripStart?_eq_some_iff] at hstrip
    rw [← List.reverse_reverse text, hstrip]
    simp
  · rintro rfl
    exact ⟨rest.reverse, by simp [stripStart?_eq_some_iff], List.reverse_reverse rest⟩

/-- A line feed ends the last line.  Without carriage returns before line feeds, the lines are the
rows. -/
theorem lines_append_newline {text : List Char}
    (h : ∀ row ∈ rows text, row.getLast? ≠ some '\r') : lines (text ++ ['\n']) = rows text := by
  have hparts : splitBy (· == '\n') (text ++ ['\n']) = rows text ++ [[]] :=
    rows_append_newline text []
  have hkeep : ∀ row ∈ rows text, (stripEnd? ['\r'] row).getD row = row := by
    intro row hrow
    have hnone : stripEnd? ['\r'] row = none := by
      rw [Option.eq_none_iff_forall_ne_some]
      intro rest hrest
      rw [stripEnd?_eq_some_iff] at hrest
      exact h row hrow (by simp [hrest])
    rw [hnone, Option.getD_none]
  unfold lines
  simp only [hparts, List.dropLast_concat, List.getLast?_concat]
  rw [List.map_congr_left hkeep, List.map_id']

theorem newline_not_mem_of_mem_lines {text line : List Char} (h : line ∈ lines text) :
    '\n' ∉ line := by
  unfold lines at h
  have hended : ∀ line ∈ (rows text).dropLast.map fun part => (stripEnd? ['\r'] part).getD part,
      '\n' ∉ line := by
    intro line hline
    obtain ⟨part, hpart, rfl⟩ := List.mem_map.mp hline
    have hnot := newline_not_mem_of_mem_rows (List.dropLast_subset _ hpart)
    -- Dropping a carriage return adds no characters.
    cases hstrip : stripEnd? ['\r'] part with
    | none => exact hnot
    | some rest =>
      rw [stripEnd?_eq_some_iff.mp hstrip] at hnot
      exact fun hmem => hnot (List.mem_append_left _ hmem)
  simp only at h
  split at h
  · exact hended line h
  · exact hended line h
  · rename_i last _ hlast
    rcases List.mem_append.mp h with h | h
    · exact hended line h
    · rw [List.mem_singleton] at h
      subst h
      exact newline_not_mem_of_mem_rows (List.mem_of_getLast? hlast)

/-! ## Trimming -/

section Trimming

variable {isBlank : Char → Bool}

theorem trimEndBy_eq_rdropWhile (text : List Char) :
    trimEndBy isBlank text = text.rdropWhile isBlank := rfl

/-- Characters at the end that are all blank are dropped, and then those before them. -/
theorem trimEndBy_append (before after : List Char) :
    trimEndBy isBlank (before ++ after) =
      if trimEndBy isBlank after = [] then trimEndBy isBlank before
      else before ++ trimEndBy isBlank after := by
  unfold trimEndBy
  rw [List.reverse_append, List.dropWhile_append]
  by_cases h : after.reverse.dropWhile isBlank = []
  · simp [h]
  · simp [h]

theorem trimEndBy_cons {c : Char} (h : isBlank c = false) (text : List Char) :
    trimEndBy isBlank (c :: text) = c :: trimEndBy isBlank text := by
  have hself : trimEndBy isBlank [c] = [c] := by
    rw [trimEndBy_eq_rdropWhile, List.rdropWhile_singleton, h]
    rfl
  rw [← List.singleton_append, trimEndBy_append, hself]
  split
  next hnil => rw [hnil]
  next => rfl

theorem exists_trimEndBy_append (isBlank : Char → Bool) (text : List Char) :
    ∃ blanks, (∀ c ∈ blanks, isBlank c = true) ∧ trimEndBy isBlank text ++ blanks = text := by
  refine ⟨text.rtakeWhile isBlank, fun c hc => List.mem_rtakeWhile_imp hc, ?_⟩
  rw [trimEndBy, List.rtakeWhile, ← List.reverse_append, List.takeWhile_append_dropWhile,
    List.reverse_reverse]

theorem trimEndBy_idempotent (text : List Char) :
    trimEndBy isBlank (trimEndBy isBlank text) = trimEndBy isBlank text :=
  List.rdropWhile_idempotent isBlank text

/-- What is trimmed does not end in a blank. -/
theorem getLast?_trimEndBy_ne {text : List Char} {c : Char} (h : isBlank c = true) :
    (trimEndBy isBlank text).getLast? ≠ some c := by
  intro hlast
  have hne : text.rdropWhile isBlank ≠ [] := by
    intro hnil
    rw [trimEndBy_eq_rdropWhile, hnil] at hlast
    cases hlast
  have hnot := List.rdropWhile_last_not isBlank text hne
  rw [trimEndBy_eq_rdropWhile, List.getLast?_eq_some_getLast hne, Option.some.injEq] at hlast
  exact hnot (hlast ▸ h)

/-- A line feed after the last part ends it as the others are ended. -/
theorem joinWith_append_newline {parts : List (List Char)} (h : parts ≠ []) :
    joinWith ['\n'] parts ++ ['\n'] = parts.flatMap (· ++ ['\n']) := by
  induction parts with
  | nil => exact absurd rfl h
  | cons part rest ih =>
    cases rest with
    | nil => rw [List.flatMap_singleton, joinWith]
    | cons next rest =>
      have hrest := ih (List.cons_ne_nil next rest)
      rw [joinWith, List.append_assoc, hrest]
      rfl

theorem joinWith_concat (separator : List Char) {parts : List (List Char)} (h : parts ≠ [])
    (last : List Char) :
    joinWith separator (parts ++ [last]) = joinWith separator parts ++ separator ++ last := by
  induction parts with
  | nil => exact absurd rfl h
  | cons part rest ih =>
    cases rest with
    | nil => rfl
    | cons next rest =>
      have hrest := ih (by simp)
      simp only [List.cons_append] at hrest ⊢
      rw [joinWith, hrest, joinWith]
      simp only [List.append_assoc]

/-- If every line is trimmed, trimming the whole drops the empty lines at the end. -/
theorem trimEndBy_joinWith (hnewline : isBlank '\n' = true) {parts : List (List Char)}
    (h : ∀ part ∈ parts, trimEndBy isBlank part = part) :
    trimEndBy isBlank (joinWith ['\n'] parts) =
      joinWith ['\n'] (parts.rdropWhile List.isEmpty) := by
  induction parts using List.reverseRecOn with
  | nil => rfl
  | append_singleton parts last ih =>
    have hlast : trimEndBy isBlank last = last := h last (by simp)
    have hparts := ih fun part hpart => h part (List.mem_append_left _ hpart)
    by_cases hnil : parts = []
    · subst hnil
      cases last with
      | nil => rfl
      | cons c rest =>
        rw [List.nil_append, List.rdropWhile_singleton]
        exact hlast
    · rw [joinWith_concat _ hnil, trimEndBy_append, hlast]
      cases last with
      | nil =>
        -- Nothing comes after the line feed, so it is dropped too.
        have hfeed : trimEndBy isBlank ['\n'] = [] := by
          rw [trimEndBy_eq_rdropWhile, List.rdropWhile_singleton, if_pos hnewline]
        rw [if_pos rfl, trimEndBy_append, if_pos hfeed, hparts,
          List.rdropWhile_concat_pos _ _ _ (by rfl)]
      | cons c rest =>
        rw [if_neg (List.cons_ne_nil c rest), List.rdropWhile_concat_neg _ _ _ (by simp),
          joinWith_concat _ hnil]

end Trimming

end ApiToolkit.Text
