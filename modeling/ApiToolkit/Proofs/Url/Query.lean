import ApiToolkit.Proofs.Text.Lines
import ApiToolkit.Proofs.Text.Octets
import ApiToolkit.Url.Query
/-!
# Queries are read back

The names and values of a query are escaped so that neither an ampersand nor an equals sign is left
in them.  Whatever query a URL has, pairs that are appended to it are read back after its own ones.

## What is inside

- `Url.formDecode_formEncode`: a name or value is read back.
- `Url.pairs_append_ampersand`: an ampersand separates the pairs before it from those after it.
- `Url.pairs_appendPair`, `Url.pairs_withPairs`: one pair and several pairs appended.
-/

namespace ApiToolkit.Url

/-! ## Names and values -/

/-- What is written for a character has characters that stand for themselves and percent signs. -/
theorem kept_of_mem_encodeChar {c d : Char} (h : d ∈ Percent.encodeChar keptInForm c) :
    keptInForm d = true ∨ d = '%' := by
  have hmem : d ∈ Percent.encode keptInForm [c] := by
    rwa [Percent.encode, List.flatMap_singleton]
  have halphanumeric : ∀ c, Letter.isAsciiAlphanumeric c = true → keptInForm c = true := by
    intro c hc
    rw [keptInForm, hc, Bool.true_or]
  exact (Percent.kept_of_mem_encode halphanumeric hmem).2

/-- A form is an escaped text with plus signs for its blanks. -/
theorem map_plus_formEncode (text : List Char) :
    (formEncode text).map (fun c => if c = '+' then ' ' else c) =
      Percent.encode (fun c => keptInForm c || c == ' ') text := by
  rw [formEncode, List.map_flatMap, Percent.encode]
  refine List.flatMap_congr fun c _ => ?_
  by_cases hblank : c = ' '
  · subst hblank
    rfl
  have hkeeps : Percent.encodeChar (fun d => keptInForm d || d == ' ') c =
      Percent.encodeChar keptInForm c := by
    simp [Percent.encodeChar, hblank]
  rw [if_neg hblank, hkeeps]
  -- A plus sign that the text has by itself is escaped.
  refine (List.map_congr_left fun d hd => if_neg ?_).trans (List.map_id _)
  rintro rfl
  exact absurd (kept_of_mem_encodeChar hd) (by decide)

/-- **A name or value is read back** as it was written. -/
theorem formDecode_formEncode (text : List Char) : formDecode (formEncode text) = text := by
  rw [formDecode, map_plus_formEncode, Percent.decode_encode (by decide),
    Utf8.decodeLossy_encodeChars, String.toList_ofList]

/-- The separators of a query do not occur in its names and values. -/
theorem ne_separator_of_mem_formEncode {text : List Char} {d : Char} (h : d ∈ formEncode text) :
    d ≠ '&' ∧ d ≠ '=' := by
  obtain ⟨c, -, hd⟩ := List.mem_flatMap.mp h
  split at hd
  next =>
    rw [List.mem_singleton.mp hd]
    decide
  next =>
    constructor
    · rintro rfl
      exact absurd (kept_of_mem_encodeChar hd) (by decide)
    · rintro rfl
      exact absurd (kept_of_mem_encodeChar hd) (by decide)

/-! ## Pairs -/

theorem pairs_nil : pairs [] = [] := rfl

/-- An ampersand separates the pairs before it from those after it. -/
theorem pairs_append_ampersand (before after : List Char) :
    pairs (before ++ '&' :: after) = pairs before ++ pairs after := by
  rw [pairs, Text.splitBy_append_cut before (by decide), List.filter_append, List.map_append,
    ← pairs, ← pairs]

/-- One pair is read back. -/
theorem pairs_pair (name value : List Char) :
    pairs (formEncode name ++ '=' :: formEncode value) = [(name, value)] := by
  -- No ampersand cuts the pair, and the first equals sign is the one between its two texts.
  have hwhole : ∀ c ∈ formEncode name ++ '=' :: formEncode value, (c == '&') = false := by
    intro c hc
    rw [beq_eq_false_iff_ne]
    rcases List.mem_append.mp hc with hc | hc
    · exact (ne_separator_of_mem_formEncode hc).1
    · rcases List.mem_cons.mp hc with rfl | hc
      · decide
      · exact (ne_separator_of_mem_formEncode hc).1
  have hname : ∀ c ∈ formEncode name, (c != '=') = true := fun c hc =>
    bne_iff_ne.mpr (ne_separator_of_mem_formEncode hc).2
  have htake : (formEncode name ++ '=' :: formEncode value).takeWhile (· != '=') =
      formEncode name := by
    rw [List.takeWhile_append_of_pos hname, List.takeWhile_cons_of_neg (by decide), List.append_nil]
  have hdrop : (formEncode name ++ '=' :: formEncode value).dropWhile (· != '=') =
      '=' :: formEncode value := by
    rw [List.dropWhile_append_of_pos hname, List.dropWhile_cons_of_neg (by decide)]
  rw [pairs, Text.splitBy_of_forall hwhole, List.filter_cons_of_pos (by simp), List.filter_nil,
    List.map_singleton, htake, hdrop, List.drop_one, List.tail_cons, formDecode_formEncode,
    formDecode_formEncode]

/-- A pair that is appended is read back after the others, also if the query has a separator at its
end already. -/
theorem pairs_appendPair (query : List Char) (pair : List Char × List Char) :
    pairs (appendPair query pair) = pairs query ++ [pair] := by
  rw [appendPair]
  cases query with
  | nil =>
    rw [List.isEmpty_nil, if_pos rfl, List.nil_append, pairs_pair, pairs_nil, List.nil_append]
  | cons c query =>
    rw [List.isEmpty_cons, if_neg Bool.false_ne_true, List.append_assoc, List.append_assoc,
      List.singleton_append, pairs_append_ampersand, pairs_pair]

theorem pairs_foldl_appendPair (query : List Char) (asked : List (List Char × List Char)) :
    pairs (asked.foldl appendPair query) = pairs query ++ asked := by
  induction asked generalizing query with
  | nil => rw [List.foldl_nil, List.append_nil]
  | cons pair asked ih =>
    rw [List.foldl_cons, ih, pairs_appendPair, List.append_assoc, List.singleton_append]

/-- **Pairs are read back** after those that the URL had. -/
theorem pairs_withPairs (url : Url) (asked : List (List Char × List Char)) :
    pairs ((url.withPairs asked).query.getD []) = pairs (url.query.getD []) ++ asked :=
  pairs_foldl_appendPair _ asked

end ApiToolkit.Url
