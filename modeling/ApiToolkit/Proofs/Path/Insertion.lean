import ApiToolkit.Proofs.Path.Component
import ApiToolkit.Proofs.Path.Substitution
import ApiToolkit.Proofs.Text.Escapes
/-!
# What parameters bring into a path

A value is written as one component, so it brings letters, digits, a few marks and escapes.  This
holds of every template and of all names, braces or not: what is taken away with a name in braces
only makes characters fewer.

## What is inside

- `Path.not_mem_encodeComponent`, `Path.escaped_encodeComponent`: what a component consists of.
- `Path.count_resolve_le`, `Path.escaped_resolve`: what all parameters leave as it was.
- `Path.resolve_eq_self_iff`: when a template has no place for any parameter.
- `Path.count_resolve_le_and_escaped`: no character of the URL syntax is brought in.
-/

namespace ApiToolkit.Path

/-! ## Components -/

/-- A component has no character that is reserved and no percent sign. -/
theorem not_mem_encodeComponent {c : Char} (hreserved : isUnreserved c = false) (hc : c ≠ '%')
    (text : List Char) : c ∉ encodeComponent text := by
  intro hmem
  rcases (isUnreserved_of_mem_encodeComponent hmem).2 with h | h
  · rw [hreserved] at h
    cases h
  · exact hc h

theorem escaped_encodeComponent (text : List Char) : Percent.Escaped (encodeComponent text) :=
  Percent.escaped_encode (by decide) text

theorem placeholder_ne_nil (name : List Char) : placeholder name ≠ [] := List.cons_ne_nil _ _

/-! ## One parameter -/

theorem count_substitute_le {c : Char} (hreserved : isUnreserved c = false) (hc : c ≠ '%')
    (template name : List Char) (value : Json) :
    (substitute template name value).count c ≤ template.count c :=
  Text.count_replaceAll_le (placeholder_ne_nil name) (not_mem_encodeComponent hreserved hc _)
    template

/-- A parameter with a place takes a brace away. -/
theorem count_substitute_lt {template name : List Char} (value : Json)
    (h : placeholder name <:+: template) :
    (substitute template name value).count '{' < template.count '{' :=
  Text.count_replaceAll_lt (placeholder_ne_nil name)
    (not_mem_encodeComponent (by decide) (by decide) _) List.mem_cons_self h

theorem substitute_of_not_occurs {template name : List Char} (value : Json)
    (h : ¬ placeholder name <:+: template) : substitute template name value = template :=
  Text.replaceAll_of_not_occurs (placeholder_ne_nil name) _ h

theorem escaped_substitute {template : List Char} (h : Percent.Escaped template)
    (name : List Char) (value : Json) : Percent.Escaped (substitute template name value) :=
  -- A brace is no digit, so a name in braces never begins within an escape.
  Percent.Escaped.replaceAll (by decide) _ (escaped_encodeComponent _) h

/-! ## All parameters -/

theorem resolve_cons (template : List Char) (name : String) (value : Json)
    (parameters : Entries Json) :
    resolve template ((name, value) :: parameters) =
      resolve (substitute template name.toList value) parameters := rfl

theorem count_resolve_le {c : Char} (hreserved : isUnreserved c = false) (hc : c ≠ '%')
    (template : List Char) (parameters : Entries Json) :
    (resolve template parameters).count c ≤ template.count c := by
  induction parameters generalizing template with
  | nil => exact Nat.le_refl _
  | cons parameter rest ih =>
    obtain ⟨name, value⟩ := parameter
    rw [resolve_cons]
    exact (ih _).trans (count_substitute_le hreserved hc template _ value)

theorem escaped_resolve {template : List Char} (h : Percent.Escaped template)
    (parameters : Entries Json) : Percent.Escaped (resolve template parameters) := by
  induction parameters generalizing template with
  | nil => exact h
  | cons parameter rest ih =>
    obtain ⟨name, value⟩ := parameter
    rw [resolve_cons]
    exact ih (escaped_substitute h _ value)

/-- A template is kept if and only if no name of a parameter stands in braces in it.  A parameter
with a place would take a brace away, and no later one brings a brace back. -/
theorem resolve_eq_self_iff {template : List Char} {parameters : Entries Json} :
    resolve template parameters = template ↔
      ∀ name ∈ parameters.keys, ¬ placeholder name.toList <:+: template := by
  induction parameters with
  | nil => simp [resolve]
  | cons parameter rest ih =>
    obtain ⟨name, value⟩ := parameter
    rw [resolve_cons, Entries.keys_cons, List.forall_mem_cons]
    by_cases hplace : placeholder name.toList <:+: template
    · have hless := count_substitute_lt value hplace
      have hle := count_resolve_le (c := '{') (by decide) (by decide)
        (substitute template name.toList value) rest
      refine iff_of_false ?_ fun h => h.1 hplace
      intro heq
      rw [heq] at hle
      omega
    · rw [substitute_of_not_occurs value hplace, ih]
      exact ⟨fun h => ⟨hplace, h⟩, fun h => h.2⟩

/-! ## The syntax of URLs -/

/-- What a component consists of is visible ASCII. -/
theorem visible_of_isUnreserved {c : Char} (h : isUnreserved c = true ∨ c = '%') :
    0x20 < c.toNat ∧ c.toNat < 0x7F := by
  rcases h with h | rfl
  · rcases isUnreserved_iff.mp h with hletter | hmark
    · obtain ⟨hlow, hhigh⟩ := Letter.bounds_of_isAsciiAlphanumeric hletter
      exact ⟨Nat.lt_of_lt_of_le (by decide) hlow, Nat.lt_of_le_of_lt hhigh (by decide)⟩
    · have hmarks : ∀ d ∈ ['-', '_', '.', '!', '~', '*', '\'', '(', ')'],
          0x20 < d.toNat ∧ d.toNat < 0x7F := by simp
      exact hmarks c hmark
  · decide

/-- **Insertion**: parameters bring nothing but unreserved characters and percent signs into a
template, whatever braces it has and whatever the names and the values are.  So they bring no
syntax of URLs, no braces, blanks or control characters, and nothing outside ASCII, and every
percent sign still begins an escape if this was so before. -/
theorem count_resolve_le_and_escaped (template : List Char) (parameters : Entries Json) :
    (∀ c, Letter.isAsciiAlphanumeric c = false →
      c ∉ ['-', '_', '.', '!', '~', '*', '\'', '(', ')', '%'] →
      (resolve template parameters).count c ≤ template.count c) ∧
    (∀ c, c ∈ ['/', '?', '#', '&', ':', '\\', '{', '}', ' '] ∨ c.toNat < 0x20 ∨ 0x7F ≤ c.toNat →
      (resolve template parameters).count c ≤ template.count c) ∧
    (Percent.Escaped template → Percent.Escaped (resolve template parameters)) := by
  refine ⟨?_, ?_, fun h => escaped_resolve h parameters⟩
  · intro c hletter hmark
    have hreserved : isUnreserved c = false := by
      rw [← Bool.not_eq_true, isUnreserved_iff]
      rintro (h | h)
      · rw [hletter] at h
        cases h
      · exact hmark (List.mem_append_left ['%'] h)
    have hpercent : c ≠ '%' := by
      rintro rfl
      exact hmark (by decide)
    exact count_resolve_le hreserved hpercent template parameters
  · intro c hc
    have hforeign : ¬ (isUnreserved c = true ∨ c = '%') := by
      intro h
      have hvisible := visible_of_isUnreserved h
      rcases hc with hsyntax | hlow | hhigh
      · have hreserved : ['/', '?', '#', '&', ':', '\\', '{', '}', ' '].all
            (fun d => !(isUnreserved d || d == '%')) = true := by decide
        have hforeign := List.all_eq_true.mp hreserved c hsyntax
        rw [Bool.not_eq_true', Bool.or_eq_false_iff, beq_eq_false_iff_ne] at hforeign
        rcases h with h | h
        · rw [hforeign.1] at h
          cases h
        · exact hforeign.2 h
      · omega
      · omega
    rw [not_or, Bool.not_eq_true] at hforeign
    exact count_resolve_le hforeign.1 hforeign.2 template parameters

/-- A template with braces within braces. -/
def nestedTemplate : List Char :=
  "/%2F\x7ba\x7bb\x7d\x7d?x=\x7bb\x7d#\x7ba/\x7bb\x7d".toList

/-- Names with braces and with marks of the URL syntax; the values look like URLs. -/
def nestedParameters : Entries Json :=
  [("a\x7bb\x7d", .str "../?x=1#\\"), ("a/\x7bb", .arr [.str "\x7bb\x7d", .null]),
    ("b", .str "%zz é&")]

theorem count_resolve_nestedTemplate :
    let path := resolve nestedTemplate nestedParameters
    path = "/%2F..%2F%3Fx%3D1%23%5C?x=%25zz%20%C3%A9%26#%7Bb%7D%2Cnull".toList ∧
    Letter.isAsciiAlphanumeric '=' = false ∧ path.count '=' ≤ nestedTemplate.count '=' ∧
    path.count '/' ≤ nestedTemplate.count '/' ∧
    Percent.Escaped nestedTemplate ∧ Percent.Escaped path := by
  intro path
  obtain ⟨hother, hsyntax, hescaped⟩ :=
    count_resolve_le_and_escaped nestedTemplate nestedParameters
  have hbefore : Percent.Escaped nestedTemplate := by decide
  exact ⟨by rfl, by decide, hother '=' (by decide) (by decide), hsyntax '/' (.inl (by decide)),
    hbefore, hescaped hbefore⟩

end ApiToolkit.Path
