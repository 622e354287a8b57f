import ApiToolkit.Naming
import ApiToolkit.Proofs.Json.Quote
/-!
# Identifiers and property keys

## What is inside

- `Naming.isIdentifier_append`: what may be put after an identifier.
- `Naming.readKey?`, `Naming.readKey?_propertyKey`: a property key is read back, in quotes or not.
- `Naming.serviceIdentifier_eq_ok_iff_isIdentifier`: when the id of a service has a name.
- `Naming.isIdentifier_of_serviceIdentifier`, `Naming.isIdChar_of_serviceIdentifier`: what is known
  about a service that has a name.
-/

namespace ApiToolkit.Naming

open Letter

/-! ## Identifiers -/

/-- A character of some kind is not one that is of another kind. -/
theorem ne_of_isPart {isPart : Char → Bool} {c d : Char} (hc : isPart c = true)
    (hd : isPart d = false) : c ≠ d := by
  rintro rfl
  rw [hc] at hd
  cases hd

theorem isIdentifierPart_of_start {c : Char} (h : isIdentifierStart c = true) :
    isIdentifierPart c = true := by
  simp only [isIdentifierStart, isIdentifierPart, isAsciiAlphanumeric, Bool.or_eq_true] at h ⊢
  rcases h with (hletter | hscore) | hdollar
  · exact .inl (.inl (.inl hletter))
  · exact .inl (.inr hscore)
  · exact .inr hdollar

theorem isIdentifierPart_of_mem {text : List Char} (h : isIdentifier text = true) :
    ∀ c ∈ text, isIdentifierPart c = true := by
  cases text with
  | nil => exact List.forall_mem_nil _
  | cons c rest =>
    rw [isIdentifier, Bool.and_eq_true, List.all_eq_true] at h
    exact List.forall_mem_cons.mpr ⟨isIdentifierPart_of_start h.1, h.2⟩

/-- Letters of a literal need not be decoded to be looked at. -/
theorem all_ofList {isPart : Char → Bool} {text : List Char} (h : text.all isPart = true) :
    (String.ofList text).toList.all isPart = true := by
  rwa [String.toList_ofList]

theorem isIdentifier_append {text more : List Char} (h : isIdentifier text = true)
    (hmore : more.all isIdentifierPart = true) : isIdentifier (text ++ more) = true := by
  cases text with
  | nil => cases h
  | cons c rest =>
    rw [isIdentifier, Bool.and_eq_true] at h
    rw [List.cons_append, isIdentifier, List.all_append, h.1, h.2, hmore]
    rfl

/-! ## Property keys -/

/-- Reads a key and leaves what follows it. -/
def readKey? (text : List Char) : Option (List Char × List Char) :=
  match text with
  | '"' :: rest => (Json.Reader.string? rest).map fun found => (found.1.toList, found.2)
  | _ => some (text.takeWhile isIdentifierPart, text.dropWhile isIdentifierPart)

/-- **Keys**: a key is read back before any character that identifiers do not have. -/
theorem readKey?_propertyKey (name : List Char) {c : Char} (hc : isIdentifierPart c = false)
    (rest : List Char) : readKey? (propertyKey name ++ c :: rest) = some (name, c :: rest) := by
  unfold propertyKey
  split
  next hname =>
    have hparts := isIdentifierPart_of_mem hname
    have htake : (name ++ c :: rest).takeWhile isIdentifierPart = name := by
      rw [List.takeWhile_append_of_pos hparts, List.takeWhile_cons_of_neg (by simp [hc]),
        List.append_nil]
    have hdrop : (name ++ c :: rest).dropWhile isIdentifierPart = c :: rest := by
      rw [List.dropWhile_append_of_pos hparts, List.dropWhile_cons_of_neg (by simp [hc])]
    -- An identifier does not begin with a quote.
    have hread : readKey? (name ++ c :: rest) =
        some ((name ++ c :: rest).takeWhile isIdentifierPart,
          (name ++ c :: rest).dropWhile isIdentifierPart) := by
      cases name with
      | nil => cases hname
      | cons first more =>
        have hfirst : first ≠ '"' := ne_of_isPart (hparts _ (List.mem_cons_self ..)) (by decide)
        unfold readKey?
        split
        next heq => exact absurd (List.cons.inj heq).1 hfirst
        next => rfl
    rw [hread, htake, hdrop]
  next =>
    have hread : readKey? (Json.quote name ++ c :: rest) =
        (Json.Reader.string? (name.flatMap Json.escapeChar ++ '"' :: c :: rest)).map
          fun found => (found.1.toList, found.2) := by
      rw [Json.quote, List.cons_append, List.cons_append, List.append_assoc]
      rfl
    rw [hread, Json.Reader.string?_quote, Option.map_some, String.toList_ofList]

/-! ## Services -/

section ServiceIdentifier

variable {id name : String}

/-- An id has a name if its characters are allowed and its words make an identifier. -/
theorem serviceIdentifier_eq_ok_iff_isIdentifier :
    serviceIdentifier id = .ok name ↔
      (∀ c ∈ id.toList, isIdChar c = true) ∧ isIdentifier (pascal id.toList) = true ∧
        name = String.ofList (pascal id.toList) := by
  unfold serviceIdentifier
  by_cases hempty : id.toList = []
  · simp [hempty, pascal, words, Text.splitBy, humps, isIdentifier]
  have hnonempty : id.toList.isEmpty = false := by simp [hempty]
  simp only [hnonempty, Bool.false_eq_true, if_false]
  split
  next c hfind =>
    -- The first character that is not allowed.
    have hbad : isIdChar c = false := by simpa using List.find?_some hfind
    have hmem : c ∈ id.toList := List.mem_of_find?_eq_some hfind
    refine iff_of_false (by simp) fun h => ?_
    rw [h.1 c hmem] at hbad
    cases hbad
  next hfind =>
    have hchars : ∀ c ∈ id.toList, isIdChar c = true := by
      simpa [List.find?_eq_none] using hfind
    split
    next hidentifier =>
      rw [Except.ok.injEq]
      exact ⟨fun h => ⟨hchars, hidentifier, h.symm⟩, fun h => h.2.2.symm⟩
    next hidentifier => exact iff_of_false (by simp) fun h => hidentifier h.2.1

theorem serviceIdentifier_eq_ok (h : serviceIdentifier id = .ok name) :
    (∀ c ∈ id.toList, isIdChar c = true) ∧ isIdentifier name.toList = true := by
  obtain ⟨hchars, hidentifier, rfl⟩ := serviceIdentifier_eq_ok_iff_isIdentifier.mp h
  rw [String.toList_ofList]
  exact ⟨hchars, hidentifier⟩

/-- An id with a name has only characters that ids may have. -/
theorem isIdChar_of_serviceIdentifier (h : serviceIdentifier id = .ok name) :
    ∀ c ∈ id.toList, isIdChar c = true := (serviceIdentifier_eq_ok h).1

/-- The name of a service is an identifier. -/
theorem isIdentifier_of_serviceIdentifier (h : serviceIdentifier id = .ok name) :
    isIdentifier name.toList = true := (serviceIdentifier_eq_ok h).2

end ServiceIdentifier

end ApiToolkit.Naming
