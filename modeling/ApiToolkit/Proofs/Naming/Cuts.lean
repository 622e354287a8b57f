import ApiToolkit.Proofs.Naming.Words
/-!
# Where a text is cut into words

Separators cut, and so do some capital letters: one that follows a small letter, and the last one of
several before a small letter.  Nothing else does, and nothing but the separators is lost.

## What is inside

- `Naming.CutBetween`: words that are cut between two texts.
- `Naming.cutBetween_humps_iff`: the cuts of a text without separators.
- `Naming.IsRun`, `Naming.words_run`: the stretches between separators are cut on their own.
- `Naming.words_of_text`: what the words of a text are.
-/

namespace ApiToolkit.Naming

open Letter

/-! ## Cuts -/

/-- The words are cut between two texts: some words make up the one and all others the other. -/
def CutBetween (words : List (List Char)) (front back : List Char) : Prop :=
  ∃ before after, words = before ++ after ∧ before.flatten = front ∧ after.flatten = back

section CutBetween

variable {words : List (List Char)} {front back : List Char}

/-- A word in front of others leaves the cuts between their letters as they are. -/
theorem cutBetween_cons_iff (hfront : front ≠ []) (word : List Char) :
    CutBetween (word :: words) (word ++ front) back ↔ CutBetween words front back := by
  constructor
  · rintro ⟨before, after, heq, hbefore, hback⟩
    cases before with
    | nil => exact absurd (List.append_eq_nil_iff.mp hbefore.symm).2 hfront
    | cons first before =>
      obtain ⟨rfl, rfl⟩ := List.cons.inj heq
      exact ⟨before, after, rfl, List.append_cancel_left hbefore, hback⟩
  · rintro ⟨before, after, rfl, rfl, rfl⟩
    exact ⟨word :: before, after, rfl, rfl, rfl⟩

/-- So does a word behind them. -/
theorem cutBetween_concat_iff (hback : back ≠ []) (word : List Char) :
    CutBetween (words ++ [word]) front (back ++ word) ↔ CutBetween words front back := by
  constructor
  · rintro ⟨before, after, heq, hbefore, hafter⟩
    rcases List.eq_nil_or_concat' after with rfl | ⟨after, last, rfl⟩
    · exact absurd (List.append_eq_nil_iff.mp hafter.symm).1 hback
    · rw [← List.append_assoc] at heq
      obtain ⟨rfl, hlast⟩ := List.append_inj' heq rfl
      obtain rfl := List.singleton_inj.mp hlast
      rw [List.flatten_append, List.flatten_singleton] at hafter
      exact ⟨before, after, rfl, hbefore, List.append_cancel_right hafter⟩
  · rintro ⟨before, after, rfl, rfl, rfl⟩
    exact ⟨before, after ++ [word], by simp, rfl, by simp⟩

theorem cutBetween_append_left_iff (hfront : front ≠ []) (earlier : List (List Char)) :
    CutBetween (earlier ++ words) (earlier.flatten ++ front) back ↔
      CutBetween words front back := by
  induction earlier with
  | nil => rfl
  | cons word earlier ih =>
    have hbehind : earlier.flatten ++ front ≠ [] := by simp [hfront]
    rw [List.cons_append, List.flatten_cons, List.append_assoc, cutBetween_cons_iff hbehind, ih]

theorem cutBetween_append_right_iff (hback : back ≠ []) (later : List (List Char)) :
    CutBetween (words ++ later) front (back ++ later.flatten) ↔ CutBetween words front back := by
  induction later using List.reverseRecOn with
  | nil => rw [List.append_nil, List.flatten_nil, List.append_nil]
  | append_singleton later word ih =>
    have hbefore : back ++ later.flatten ≠ [] := by simp [hback]
    rw [← List.append_assoc, List.flatten_append, List.flatten_singleton, ← List.append_assoc,
      cutBetween_concat_iff hbefore, ih]

/-- One more character of the first word leaves the cuts after the others as they are. -/
theorem cutBetween_longer_iff (hfront : front ≠ []) (c : Char) (word : List Char) :
    CutBetween ((c :: word) :: words) (c :: front) back ↔
      CutBetween (word :: words) front back := by
  constructor
  · rintro ⟨before, after, heq, hbefore, hback⟩
    cases before with
    | nil => cases hbefore
    | cons first before =>
      obtain ⟨rfl, rfl⟩ := List.cons.inj heq
      exact ⟨word :: before, after, rfl, (List.cons.inj hbefore).2, hback⟩
  · rintro ⟨before, after, heq, rfl, hback⟩
    cases before with
    | nil => exact absurd rfl hfront
    | cons first before =>
      obtain ⟨rfl, rfl⟩ := List.cons.inj heq
      exact ⟨(c :: word) :: before, after, rfl, rfl, hback⟩

/-- There is no cut after the first character of a longer word. -/
theorem not_cutBetween_longer (c d : Char) (word : List Char) :
    ¬ CutBetween ((c :: d :: word) :: words) [c] back := by
  rintro ⟨before, after, heq, hbefore, -⟩
  cases before with
  | nil => cases hbefore
  | cons first before =>
    obtain ⟨rfl, -⟩ := List.cons.inj heq
    cases hbefore

end CutBetween

/-! ## Texts without separators -/

/-- The first character matters only for the cut right after it. -/
theorem cutBetween_humps_cons (c d : Char) (rest : List Char) {front back : List Char}
    (hfront : front ≠ []) :
    CutBetween (humps (c :: d :: rest)) (c :: front) back ↔
      CutBetween (humps (d :: rest)) front back := by
  obtain ⟨word, more, hhumps⟩ := exists_humps_cons d rest
  rw [humps]
  split
  · exact cutBetween_cons_iff hfront [c]
  · rw [hhumps]
    exact cutBetween_longer_iff hfront c (d :: word)

theorem cutBetween_humps_pair (p c : Char) (right : List Char) :
    CutBetween (humps (p :: c :: right)) [p] (c :: right) ↔
      beginsWord p c right.head? = true := by
  obtain ⟨word, more, hhumps⟩ := exists_humps_cons c right
  rw [humps]
  split
  next hbegins =>
    exact iff_of_true ⟨[[p]], humps (c :: right), rfl, rfl, flatten_humps _⟩ hbegins
  next hbegins =>
    rw [hhumps]
    exact iff_of_false (not_cutBetween_longer p c word) hbegins

/-- Without separators, a text is cut where words begin. -/
theorem cutBetween_humps_iff (left : List Char) (p c : Char) (right : List Char) :
    CutBetween (humps (left ++ p :: c :: right)) (left ++ [p]) (c :: right) ↔
      beginsWord p c right.head? = true := by
  -- The induction is on what stands before the place, so the characters around it stay as they are.
  induction left with
  | nil => exact cutBetween_humps_pair p c right
  | cons d left ih =>
    obtain ⟨e, rest, hrest⟩ : ∃ e rest, left ++ p :: c :: right = e :: rest :=
      List.exists_cons_of_ne_nil (by simp)
    rw [hrest] at ih
    rw [List.cons_append, List.cons_append, hrest, cutBetween_humps_cons _ _ _ (by simp), ih]

theorem beginsWord_iff {p c : Char} {next : Option Char} :
    beginsWord p c next = true ↔
      isUppercase c = true ∧ (isLowercase p = true ∨
        (isUppercase p = true ∧ ∃ d, next = some d ∧ isLowercase d = true)) := by
  cases next <;> simp [beginsWord]

/-! ## Separators -/

theorem isWordChar_iff {c : Char} : isWordChar c = true ↔ isAlphanumeric c = true ∨ c = '$' := by
  rw [isWordChar, Bool.or_eq_true, beq_iff_eq]

/-- A separator cuts, and belongs to no word. -/
theorem words_append_separator (before : List Char) {c : Char} (hc : isWordChar c = false)
    (after : List Char) : words (before ++ c :: after) = words before ++ words after := by
  rw [words, Text.splitBy_append_cut before (by simp [hc]), List.flatMap_append, words, words]

theorem words_of_forall {text : List Char} (h : ∀ c ∈ text, isWordChar c = true) :
    words text = humps text := by
  rw [words, Text.splitBy_of_forall fun c hc => by simp [h c hc], List.flatMap_singleton]

/-- A stretch of a text without separators that goes as far as it can. -/
structure IsRun (before run after : List Char) : Prop where
  /-- It has no separators. -/
  letters : ∀ c ∈ run, isWordChar c = true
  /-- It begins the text, or comes after a separator. -/
  starts : ∀ c ∈ before.getLast?, isWordChar c = false
  /-- It ends the text, or comes before a separator. -/
  stops : ∀ c ∈ after.head?, isWordChar c = false

/-- The words of a text are those of a stretch, and those before and after it. -/
theorem words_run {before run after : List Char} (h : IsRun before run after) :
    words (before ++ run ++ after) = words before ++ humps run ++ words after := by
  have hbefore : words (before ++ run) = words before ++ words run := by
    cases hlast : before.getLast? with
    | none =>
      rw [List.getLast?_eq_none_iff.mp hlast]
      rfl
    | some c =>
      obtain ⟨front, rfl⟩ := List.getLast?_eq_some_iff.mp hlast
      have hc := h.starts c hlast
      rw [List.append_assoc, List.singleton_append, words_append_separator front hc,
        words_append_separator front hc]
      exact congrArg (· ++ words run) (List.append_nil _).symm
  have hafter : words (before ++ run ++ after) = words (before ++ run) ++ words after := by
    cases after with
    | nil =>
      rw [List.append_nil]
      exact (List.append_nil _).symm
    | cons c after =>
      have hc := h.stops c rfl
      have hrest : words (c :: after) = words after := words_append_separator [] hc after
      rw [words_append_separator _ hc, hrest]
  rw [hafter, hbefore, words_of_forall h.letters]

/-! ## The words of a text -/

/-- **Words**: the words of a text are not empty and have no separators, and put together they are
the text without its separators.  Every separator cuts.  Between two other characters there is a cut
if and only if the second one is a capital letter, and the first one is a small letter, or a capital
letter while the next character of the stretch is a small one. -/
theorem words_of_text (text : List Char) :
    (∀ word ∈ words text, word ≠ [] ∧ ∀ c ∈ word, isAlphanumeric c = true ∨ c = '$') ∧
    (words text).flatten = text.filter isWordChar ∧
    (∀ before c after, text = before ++ c :: after → isWordChar c = false →
      words text = words before ++ words after) ∧
    ∀ before left p c right after, text = before ++ (left ++ p :: c :: right) ++ after →
      IsRun before (left ++ p :: c :: right) after →
      (CutBetween (words text) ((before ++ (left ++ [p])).filter isWordChar)
          ((c :: right ++ after).filter isWordChar) ↔
        isUppercase c = true ∧ (isLowercase p = true ∨
          (isUppercase p = true ∧ ∃ d, right.head? = some d ∧ isLowercase d = true))) := by
  refine ⟨?_, flatten_words text, ?_, ?_⟩
  · intro word hword
    exact ⟨ne_nil_of_mem_words hword, fun c hc => isWordChar_iff.mp (mem_of_mem_word hword hc).2⟩
  · rintro before c after rfl hc
    exact words_append_separator before hc after
  · rintro before left p c right after rfl hrun
    -- The letters on both sides are those of the other words and those of the stretch.
    have hletters := hrun.letters
    rw [← List.singleton_append, ← List.append_assoc, List.forall_mem_append] at hletters
    have hfront : (before ++ (left ++ [p])).filter isWordChar =
        (words before).flatten ++ (left ++ [p]) := by
      rw [List.filter_append, ← flatten_words, List.filter_eq_self.mpr hletters.1]
    have hback : (c :: right ++ after).filter isWordChar =
        (c :: right) ++ (words after).flatten := by
      rw [List.filter_append, ← flatten_words after, List.filter_eq_self.mpr hletters.2]
    rw [words_run hrun, hfront, hback, cutBetween_append_right_iff (List.cons_ne_nil _ _),
      cutBetween_append_left_iff (by simp), cutBetween_humps_iff, beginsWord_iff]

/-- The cut before the last capital letter of an acronym. -/
theorem words_of_acronym :
    IsRun "my-".toList "HTTPClient".toList ".v2".toList ∧
    CutBetween (words "my-HTTPClient.v2".toList) "myHTTP".toList "Clientv2".toList := by
  have hlast : "my-".toList.getLast? = some '-' := by decide
  have hhead : ".v2".toList.head? = some '.' := by decide
  have hrun : IsRun "my-".toList "HTTPClient".toList ".v2".toList := by
    refine ⟨List.all_eq_true.mp (by decide), ?_, ?_⟩
    · rw [hlast]
      rintro c ⟨⟩
      decide
    · rw [hhead]
      rintro c ⟨⟩
      decide
  obtain ⟨-, -, -, hcuts⟩ := words_of_text "my-HTTPClient.v2".toList
  have hcut := hcuts "my-".toList "HTT".toList 'P' 'C' "lient".toList ".v2".toList rfl hrun
  exact ⟨hrun, hcut.mpr ⟨by decide, .inr ⟨by decide, 'l', by decide, by decide⟩⟩⟩

end ApiToolkit.Naming
