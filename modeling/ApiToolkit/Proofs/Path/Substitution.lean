import ApiToolkit.Proofs.Entries
import ApiToolkit.Proofs.Path.Braces
import ApiToolkit.Proofs.Text.Occurrences
import ApiToolkit.Proofs.Text.Octets
/-!
# Parameters are written all at once

`Path.resolve` writes one parameter after another into a running text.  Where the braces of a
template are not nested, this is one pass over the template: what is written has no braces, so no
later parameter meets it.

## What is inside

- `Path.resolveAtOnce`: the pass that writes all parameters.
- `Path.unnested_substitute`, `Path.resolveAtOnce_substitute`: writing one parameter.
- `Path.resolve_eq_resolveAtOnce`: the two ways of writing agree.
-/

namespace ApiToolkit

namespace Path

/-! ## One pass -/

/-- What stands in the place of a name in braces: the value of the parameter, if there is one. -/
def written (parameters : Entries Json) (name : List Char) : List Char :=
  match parameters.find? (String.ofList name) with
  | some value => encodeComponent (parameterText value)
  | none => placeholder name

/-- Writes all parameters in one pass from left to right.  Names in braces are replaced by the
values of their parameters, and everything else is kept. -/
def resolveAtOnce (template : List Char) (parameters : Entries Json) : List Char :=
  match template with
  | [] => []
  | c :: rest =>
    if c = '{' then
      match h : closing? rest with
      | some (name, after) =>
        have := length_lt_of_closing? h
        written parameters name ++ resolveAtOnce after parameters
      | none => c :: resolveAtOnce rest parameters
    else c :: resolveAtOnce rest parameters
termination_by template.length
decreasing_by
  · exact Nat.lt_succ_of_lt this
  · exact Nat.lt_succ_self _
  · exact Nat.lt_succ_self _

section OnePass

variable (parameters : Entries Json)

@[simp] theorem resolveAtOnce_nil : resolveAtOnce [] parameters = [] := by
  rw [resolveAtOnce]

theorem resolveAtOnce_cons {c : Char} (h : c ≠ '{') (rest : List Char) :
    resolveAtOnce (c :: rest) parameters = c :: resolveAtOnce rest parameters := by
  rw [resolveAtOnce, if_neg h]

theorem resolveAtOnce_open {rest : List Char} (h : closing? rest = none) :
    resolveAtOnce ('{' :: rest) parameters = '{' :: resolveAtOnce rest parameters := by
  rw [resolveAtOnce, if_pos rfl]
  split
  next heq => rw [h] at heq; cases heq
  next => rfl

theorem resolveAtOnce_placeholder {name : List Char} (h : BraceFree name) (after : List Char) :
    resolveAtOnce (placeholder name ++ after) parameters =
      written parameters name ++ resolveAtOnce after parameters := by
  have hclosing : closing? (name ++ '}' :: after) = some (name, after) :=
    closing?_eq_some_iff.mpr ⟨rfl, h⟩
  have hstart : placeholder name ++ after = '{' :: (name ++ '}' :: after) := by
    simp [placeholder]
  rw [hstart, resolveAtOnce, if_pos rfl]
  split
  next heq => rw [hclosing] at heq; cases heq; rfl
  next heq => rw [hclosing] at heq; cases heq

/-- Characters without braces are kept. -/
theorem resolveAtOnce_append_of_braceFree {front : List Char} (h : BraceFree front)
    (text : List Char) :
    resolveAtOnce (front ++ text) parameters = front ++ resolveAtOnce text parameters := by
  induction front with
  | nil => rfl
  | cons c front ih =>
    obtain ⟨⟨hopen, -⟩, hfront⟩ := braceFree_cons.mp h
    rw [List.cons_append, resolveAtOnce_cons _ hopen, ih hfront, List.cons_append]

end OnePass

/-! ## Writing one parameter -/

/-- A component has unreserved characters and percent signs only. -/
theorem isUnreserved_of_mem_encodeComponent {text : List Char} {c : Char}
    (h : c ∈ encodeComponent text) : c.toNat < 0x80 ∧ (isUnreserved c = true ∨ c = '%') :=
  Percent.kept_of_mem_encode (fun _ hc => by rw [isUnreserved, hc, Bool.true_or]) h

theorem braceFree_encodeComponent (text : List Char) : BraceFree (encodeComponent text) := by
  constructor
  · intro hmem
    rcases (isUnreserved_of_mem_encodeComponent hmem).2 with h | h
    · exact absurd h (by decide)
    · exact absurd h (by decide)
  · intro hmem
    rcases (isUnreserved_of_mem_encodeComponent hmem).2 with h | h
    · exact absurd h (by decide)
    · exact absurd h (by decide)

section OneParameter

variable {name : List Char} (value : Json)

theorem substitute_nil : substitute [] name value = [] := rfl

theorem substitute_cons {c : Char} (h : c ≠ '{') (rest : List Char) :
    substitute (c :: rest) name value = c :: substitute rest name value := by
  refine Text.replaceAll_cons _ fun after heq => ?_
  rw [placeholder_append, List.cons.injEq] at heq
  exact h heq.1

theorem substitute_append_of_braceFree {front : List Char} (h : BraceFree front)
    (text : List Char) :
    substitute (front ++ text) name value = front ++ substitute text name value := by
  induction front with
  | nil => rfl
  | cons c front ih =>
    obtain ⟨⟨hopen, -⟩, hfront⟩ := braceFree_cons.mp h
    rw [List.cons_append, substitute_cons _ hopen, ih hfront, List.cons_append]

theorem substitute_open (hname : BraceFree name) {rest : List Char} (h : closing? rest = none) :
    substitute ('{' :: rest) name value = '{' :: substitute rest name value := by
  refine Text.replaceAll_cons _ fun after heq => ?_
  rw [placeholder_append, List.cons.injEq] at heq
  exact closing?_eq_none_iff.mp h name after hname heq.2

theorem substitute_placeholder_self (name after : List Char) :
    substitute (placeholder name ++ after) name value =
      encodeComponent (parameterText value) ++ substitute after name value :=
  Text.replaceAll_append (List.cons_ne_nil _ _) _ _

theorem substitute_placeholder_of_ne {other : List Char} (hname : BraceFree name)
    (hother : BraceFree other) (h : other ≠ name) (after : List Char) :
    substitute (placeholder other ++ after) name value =
      placeholder other ++ substitute after name value := by
  have hopen : substitute (placeholder other ++ after) name value =
      '{' :: substitute (other ++ '}' :: after) name value := by
    rw [placeholder_append]
    refine Text.replaceAll_cons _ fun rest heq => ?_
    rw [← placeholder_append] at heq
    exact h (placeholder_append_inj hother hname heq)
  rw [hopen, substitute_append_of_braceFree _ hother, substitute_cons _ (by decide),
    placeholder_append]

/-- A template stays without nested braces when a parameter is written. -/
theorem isUnnested_substitute (hname : BraceFree name) {opened : List Bool} {template : List Char}
    (h : isUnnested opened template = true) :
    isUnnested opened (substitute template name value) = true := by
  induction template using template_induction generalizing opened with
  | nil => exact h
  | name other after hother ih =>
    rw [isUnnested_placeholder hother] at h
    by_cases heq : other = name
    · -- With the braces their mark goes as well.
      subst heq
      rw [substitute_placeholder_self, isUnnested_append_of_braceFree (braceFree_encodeComponent _)]
      exact isUnnested_of_markAll (ih h)
    · rw [substitute_placeholder_of_ne value hname hother heq, isUnnested_placeholder hother]
      exact ih h
  | open' rest hrest ih =>
    rw [isUnnested_open] at h
    rw [substitute_open value hname hrest, isUnnested_open]
    exact ih h
  | other c rest hopen ih =>
    rw [substitute_cons value hopen]
    by_cases hclose : c = '}'
    · subst hclose
      cases opened with
      | nil =>
        rw [isUnnested_close_nil] at h ⊢
        exact ih h
      | cons mark outer =>
        rw [isUnnested_close, Bool.and_eq_true] at h ⊢
        exact ⟨h.1, ih h.2⟩
    · rw [isUnnested_char hopen hclose] at h ⊢
      exact ih h

theorem unnested_substitute (hname : BraceFree name) {template : List Char}
    (h : Unnested template) : Unnested (substitute template name value) :=
  unnested_iff.mpr (isUnnested_substitute value hname (unnested_iff.mp h))

/-- Behind a brace that opens no name none comes about when a parameter is written.  Past the next
brace this one has a mark, and that is what the induction is about. -/
theorem closing?_substitute (hname : BraceFree name) {mark : Bool} {outer : List Bool}
    {rest : List Char} (h : isUnnested (mark :: outer) rest = true)
    (hmark : mark = true ∨ closing? rest = none) :
    closing? (substitute rest name value) = none := by
  induction rest using template_induction generalizing mark outer with
  | nil => rfl
  | name other after hother ih =>
    rw [isUnnested_placeholder hother] at h
    by_cases heq : other = name
    · subst heq
      rw [substitute_placeholder_self, closing?_append (braceFree_encodeComponent _),
        ih h (.inl rfl), Option.map_none]
    · rw [substitute_placeholder_of_ne value hname hother heq, placeholder_append, closing?,
        if_neg (by decide), if_pos rfl]
  | open' rest hrest ih =>
    rw [substitute_open value hname hrest, closing?, if_neg (by decide), if_pos rfl]
  | other c rest hopen ih =>
    -- Neither a brace with a mark nor one that opens no name is closed here.
    have hclose : c ≠ '}' := by
      rintro rfl
      rcases hmark with rfl | hmark
      · rw [isUnnested_close] at h
        cases h
      · rw [closing?, if_pos rfl] at hmark
        cases hmark
    rw [isUnnested_char hopen hclose] at h
    rw [closing?, if_neg hclose, if_neg hopen, Option.map_eq_none_iff] at hmark
    rw [substitute_cons value hopen, closing?, if_neg hclose, if_neg hopen, ih h hmark,
      Option.map_none]

end OneParameter

/-! ## Writing all parameters -/

theorem written_cons_self (name : String) (value : Json) (parameters : Entries Json) :
    written ((name, value) :: parameters) name.toList = encodeComponent (parameterText value) := by
  rw [written, String.ofList_toList, Entries.find?_cons, if_pos rfl]

theorem written_cons_of_ne {name : String} {other : List Char} (h : other ≠ name.toList)
    (value : Json) (parameters : Entries Json) :
    written ((name, value) :: parameters) other = written parameters other := by
  have hne : name ≠ String.ofList other := by
    rintro rfl
    exact h (String.toList_ofList).symm
  rw [written, Entries.find?_cons, if_neg hne]
  rfl

/-- Without parameters, everything is kept. -/
theorem resolveAtOnce_nil_right (template : List Char) : resolveAtOnce template [] = template := by
  induction template using template_induction with
  | nil => exact resolveAtOnce_nil []
  | name name after hname ih => rw [resolveAtOnce_placeholder _ hname, ih]; rfl
  | open' rest hrest ih => rw [resolveAtOnce_open _ hrest, ih]
  | other c rest hopen ih => rw [resolveAtOnce_cons _ hopen, ih]

/-- Writing one parameter first makes no difference: neither does the pass meet it again, nor does
it come between a brace and its partner. -/
theorem resolveAtOnce_substitute {name : String} (hname : BraceFree name.toList) (value : Json)
    (parameters : Entries Json) {opened : List Bool} {template : List Char}
    (h : isUnnested opened template = true) :
    resolveAtOnce (substitute template name.toList value) parameters =
      resolveAtOnce template ((name, value) :: parameters) := by
  induction template using template_induction generalizing opened with
  | nil => rw [substitute_nil, resolveAtOnce_nil, resolveAtOnce_nil]
  | name other after hother ih =>
    rw [isUnnested_placeholder hother] at h
    by_cases heq : other = name.toList
    · subst heq
      rw [substitute_placeholder_self,
        -- The pass keeps the value that was written.
        resolveAtOnce_append_of_braceFree _ (braceFree_encodeComponent _),
        resolveAtOnce_placeholder _ hother, written_cons_self, ih h]
    · rw [substitute_placeholder_of_ne value hname hother heq, resolveAtOnce_placeholder _ hother,
        resolveAtOnce_placeholder _ hother, written_cons_of_ne heq, ih h]
  | open' rest hrest ih =>
    rw [isUnnested_open] at h
    have hstill : closing? (substitute rest name.toList value) = none :=
      closing?_substitute value hname h (.inr hrest)
    rw [substitute_open value hname hrest, resolveAtOnce_open _ hstill,
      resolveAtOnce_open _ hrest, ih h]
  | other c rest hopen ih =>
    have happ : isUnnested opened ([c] ++ rest) = true := h
    obtain ⟨marks, hmarks⟩ := exists_isUnnested_of_append happ
    rw [substitute_cons value hopen, resolveAtOnce_cons _ hopen, resolveAtOnce_cons _ hopen,
      ih hmarks]

/-- Parameters written one after another are written all at once. -/
theorem resolve_eq_atOnce {template : List Char} (h : Unnested template)
    {parameters : Entries Json} (hkeys : ∀ name ∈ parameters.keys, BraceFree name.toList) :
    resolve template parameters = resolveAtOnce template parameters := by
  -- By induction on the parameters: each one changes the template, and braces stay unnested.
  induction parameters generalizing template with
  | nil => exact (resolveAtOnce_nil_right template).symm
  | cons parameter rest ih =>
    obtain ⟨name, value⟩ := parameter
    obtain ⟨hname, hrest⟩ := List.forall_mem_cons.mp hkeys
    have hstep : resolve template ((name, value) :: rest) =
        resolve (substitute template name.toList value) rest := rfl
    rw [hstep, ih (unnested_substitute value hname h) hrest]
    exact resolveAtOnce_substitute hname value rest (unnested_iff.mp h)

/-- The pass depends on what is found under the names only. -/
theorem resolveAtOnce_congr {parameters others : Entries Json}
    (h : ∀ name, others.find? name = parameters.find? name) (template : List Char) :
    resolveAtOnce template others = resolveAtOnce template parameters := by
  have hwritten : ∀ name, written others name = written parameters name := by
    intro name
    rw [written, written, h]
  induction template using template_induction with
  | nil => rw [resolveAtOnce_nil, resolveAtOnce_nil]
  | name name after hname ih =>
    rw [resolveAtOnce_placeholder _ hname, resolveAtOnce_placeholder _ hname, hwritten, ih]
  | open' rest hrest ih => rw [resolveAtOnce_open _ hrest, resolveAtOnce_open _ hrest, ih]
  | other c rest hopen ih => rw [resolveAtOnce_cons _ hopen, resolveAtOnce_cons _ hopen, ih]

/-- A name in braces is passed whatever stands before and after it. -/
theorem resolveAtOnce_split (parameters : Entries Json) (before : List Char) {name : List Char}
    (hname : BraceFree name) (after : List Char) :
    resolveAtOnce (before ++ (placeholder name ++ after)) parameters =
      resolveAtOnce before parameters ++
        (written parameters name ++ resolveAtOnce after parameters) := by
  induction before using template_induction with
  | nil =>
    rw [resolveAtOnce_nil, List.nil_append, List.nil_append,
      resolveAtOnce_placeholder _ hname]
  | name other rest hother ih =>
    rw [List.append_assoc, resolveAtOnce_placeholder _ hother, resolveAtOnce_placeholder _ hother,
      ih, List.append_assoc]
  | open' rest hrest ih =>
    -- A brace that opens no name does not open this one either.
    have hstill : closing? (rest ++ (placeholder name ++ after)) = none := by
      rw [placeholder_append, closing?_append_open, hrest, Option.map_none]
    rw [List.cons_append, resolveAtOnce_open _ hstill, resolveAtOnce_open _ hrest, ih,
      List.cons_append]
  | other c rest hopen ih =>
    rw [List.cons_append, resolveAtOnce_cons _ hopen, resolveAtOnce_cons _ hopen, ih,
      List.cons_append]

/-- **Substitution**: where braces are not nested, parameters written one after another are written
in one pass.  So their order does not matter, and every name in braces is replaced by the value of
its parameter or kept, whatever is written before and after it. -/
theorem resolve_eq_resolveAtOnce {template : List Char} (h : Unnested template)
    {parameters : Entries Json} (hkeys : ∀ name ∈ parameters.keys, BraceFree name.toList) :
    resolve template parameters = resolveAtOnce template parameters ∧
    (∀ others : Entries Json, others.Perm parameters → parameters.keys.Nodup →
      resolve template others = resolve template parameters) ∧
    (∀ before name after, BraceFree name → template = before ++ (placeholder name ++ after) →
      resolve template parameters =
        resolve before parameters ++ (written parameters name ++ resolve after parameters)) := by
  refine ⟨resolve_eq_atOnce h hkeys, ?_, ?_⟩
  · intro others hperm hnodup
    have hothers : ∀ name ∈ others.keys, BraceFree name.toList := fun name hname =>
      hkeys name ((hperm.map _).subset hname)
    rw [resolve_eq_atOnce h hkeys, resolve_eq_atOnce h hothers]
    exact resolveAtOnce_congr (Entries.find?_of_perm hperm hnodup) template
  · intro before name after hname heq
    subst heq
    obtain ⟨hbefore, hrest⟩ := h.of_append
    rw [resolve_eq_atOnce h hkeys, resolve_eq_atOnce hbefore hkeys,
      resolve_eq_atOnce hrest.of_append.2 hkeys, resolveAtOnce_split _ _ hname]

/-- A template with a name twice, a name without a parameter and a brace that stays open. -/
def sampleTemplate : List Char := "/{x}/{y}{x}/{none}/\x7by{x}".toList

/-- The value of one parameter looks like the name of the other one in braces. -/
def sampleParameters : Entries Json := [("x", .str "{y}"), ("y", .arr [.bool true, .null])]

theorem resolve_sampleTemplate :
    Unnested sampleTemplate ∧ (∀ name ∈ sampleParameters.keys, BraceFree name.toList) ∧
    resolve sampleTemplate sampleParameters = resolveAtOnce sampleTemplate sampleParameters ∧
    resolve sampleTemplate sampleParameters =
      "/%7By%7D/true%2Cnull%7By%7D/{none}/\x7by%7By%7D".toList ∧
    resolve sampleTemplate sampleParameters.reverse = resolve sampleTemplate sampleParameters := by
  have hflat : Unnested sampleTemplate := by decide
  have hkeys : ∀ name ∈ sampleParameters.keys, BraceFree name.toList := by decide
  obtain ⟨honce, horder, -⟩ := resolve_eq_resolveAtOnce hflat hkeys
  exact ⟨hflat, hkeys, honce, by rfl, horder _ (List.reverse_perm _) (by decide)⟩

end Path

end ApiToolkit
