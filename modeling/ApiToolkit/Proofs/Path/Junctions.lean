import ApiToolkit.Path.Join
import Mathlib.Data.List.DropRight
/-!
# Slashes where segments are joined

Joining puts a slash before each segment, unless the address ends in one, and takes one slash or a
`./` away from the front of the segment.  This makes one slash where two texts meet, as long as the
segments bring no slashes in pairs.

## What is inside

- `Path.slashesBetween`, `Path.MeetsOnce`: the slashes where a text meets what precedes it.
- `Path.Assembled`: an address that is put together from texts.
- `Path.PlainSegments`: segments that bring no slashes in pairs.
- `Path.length_le_of_assembled`: joining puts in as many slashes as any other way that makes one
  slash at every place.
- `Path.assembled_join_iff`, `Path.slashes_of_join`: when joining makes one slash at every place.
-/

namespace ApiToolkit.Path

/-! ## Slashes -/

/-- The slashes where a text meets what precedes it: those that end the one and those that begin
the other. -/
def slashesBetween (front text : List Char) : Nat :=
  (front.rtakeWhile (· == '/')).length + (text.takeWhile (· == '/')).length

/-- There is exactly one slash where the text begins. -/
def MeetsOnce (front text : List Char) : Prop := slashesBetween front text = 1

instance (front text : List Char) : Decidable (MeetsOnce front text) :=
  inferInstanceAs (Decidable (_ = _))

/-- There is a slash right before the text. -/
def FollowsSlash (front _text : List Char) : Prop := front.getLast? = some '/'

/-- A text that ends in two slashes. -/
def EndsTwice (text : List Char) : Prop := ['/', '/'] <:+ text

instance (text : List Char) : Decidable (EndsTwice text) :=
  inferInstanceAs (Decidable (_ <:+ _))

theorem slashesBetween_concat (front text : List Char) :
    slashesBetween (front ++ ['/']) text = slashesBetween front text + 1 := by
  rw [slashesBetween, List.rtakeWhile_concat_pos _ _ _ (by decide), List.length_append,
    List.length_singleton, Nat.add_right_comm, slashesBetween]

theorem slashesBetween_eq_zero_iff {front text : List Char} :
    slashesBetween front text = 0 ↔ front.getLast? ≠ some '/' ∧ text.head? ≠ some '/' := by
  rw [slashesBetween, Nat.add_eq_zero_iff, List.length_eq_zero_iff, List.length_eq_zero_iff]
  refine and_congr ?_ ?_
  · rw [List.rtakeWhile_eq_nil_iff]
    cases hlast : front.getLast? with
    | none => simp [List.getLast?_eq_none_iff.mp hlast]
    | some c =>
      obtain ⟨before, rfl⟩ := List.getLast?_eq_some_iff.mp hlast
      simp
  · rw [List.takeWhile_eq_nil_iff]
    cases text with
    | nil => simp
    | cons c text => simp

/-- A slash makes two of it only after another one. -/
theorem endsTwice_concat_iff {front : List Char} :
    EndsTwice (front ++ ['/']) ↔ front.getLast? = some '/' := by
  rw [List.getLast?_eq_some_iff]
  constructor
  · rintro ⟨before, heq⟩
    have hfront : (before ++ ['/']) ++ ['/'] = front ++ ['/'] := by simpa using heq
    exact ⟨before, (List.append_cancel_right hfront).symm⟩
  · rintro ⟨before, rfl⟩
    exact ⟨before, by simp⟩

/-- If no slash is in front, it is the text that brings the slash. -/
theorem head?_of_meetsOnce {front text : List Char} (h : MeetsOnce front text)
    (hfront : front.getLast? ≠ some '/') : text.head? = some '/' := by
  by_contra htext
  rw [MeetsOnce, slashesBetween_eq_zero_iff.mpr ⟨hfront, htext⟩] at h
  cases h

/-- After two slashes there is never just one. -/
theorem not_meetsOnce_concat {front : List Char} (h : front.getLast? = some '/')
    (text : List Char) : ¬ MeetsOnce (front ++ ['/']) text := by
  rw [MeetsOnce, slashesBetween_concat, Nat.add_eq_right, slashesBetween_eq_zero_iff]
  exact fun hzero => hzero.1 h

/-! ## Putting an address together -/

/-- An address that is put together from a first one and texts.  Each text stands behind what there
is before it, with or without one more slash, and `meets` says how the two meet. -/
inductive Assembled (meets : List Char → List Char → Prop) :
    List Char → List (List Char) → List Char → Prop
  | nil (address : List Char) : Assembled meets address [] address
  | cons {address front text result : List Char} {texts : List (List Char)}
      (hfront : front = address ∨ front = address ++ ['/']) (hmeets : meets front text)
      (hrest : Assembled meets (front ++ text) texts result) :
      Assembled meets address (text :: texts) result

/-- With one text there is only one place. -/
theorem assembled_singleton_iff {meets : List Char → List Char → Prop}
    {address text result : List Char} :
    Assembled meets address [text] result ↔
      ∃ front, (front = address ∨ front = address ++ ['/']) ∧ meets front text ∧
        result = front ++ text := by
  constructor
  · intro h
    cases h with
    | cons hfront hmeets hrest =>
      cases hrest
      exact ⟨_, hfront, hmeets, rfl⟩
  · rintro ⟨front, hfront, hmeets, rfl⟩
    exact .cons hfront hmeets (.nil _)

/-- Whether a segment is appended: it is neither empty nor a lone slash. -/
def isAppended (segment : List Char) : Bool := segment ≠ [] && segment ≠ ['/']

/-- The texts that segments bring, in order. -/
def appendedTexts (segments : List (List Char)) : List (List Char) :=
  (segments.filter isAppended).map stripLead

/-- An address with a slash at its end. -/
def closed (address : List Char) : List Char :=
  if address.getLast? = some '/' then address else address ++ ['/']

theorem closed_of_slash {address : List Char} (h : address.getLast? = some '/') :
    closed address = address := if_pos h

theorem closed_of_not_slash {address : List Char} (h : address.getLast? ≠ some '/') :
    closed address = address ++ ['/'] := if_neg h

theorem closed_cases (address : List Char) :
    closed address = address ∨ closed address = address ++ ['/'] := by
  by_cases h : address.getLast? = some '/'
  · exact .inl (closed_of_slash h)
  · exact .inr (closed_of_not_slash h)

theorem length_le_closed (address : List Char) : address.length ≤ (closed address).length := by
  rcases closed_cases address with h | h
  · rw [h]
  · rw [h, List.length_append]
    exact Nat.le_add_right _ _

theorem getLast?_closed (address : List Char) : (closed address).getLast? = some '/' := by
  by_cases h : address.getLast? = some '/'
  · rwa [closed_of_slash h]
  · rw [closed_of_not_slash h, List.getLast?_concat]

/-- The slash that ends a closed address is the only one there, unless the address had two. -/
theorem exists_closed_eq_concat {address : List Char} (h : ¬ EndsTwice address) :
    ∃ front, closed address = front ++ ['/'] ∧ front.getLast? ≠ some '/' := by
  by_cases hslash : address.getLast? = some '/'
  · obtain ⟨front, rfl⟩ := List.getLast?_eq_some_iff.mp hslash
    exact ⟨front, closed_of_slash hslash, fun hlast => h (endsTwice_concat_iff.mpr hlast)⟩
  · exact ⟨address, closed_of_not_slash hslash, hslash⟩

theorem not_endsTwice_closed {address : List Char} (h : ¬ EndsTwice address) :
    ¬ EndsTwice (closed address) := by
  obtain ⟨front, heq, hlast⟩ := exists_closed_eq_concat h
  rw [heq, endsTwice_concat_iff]
  exact hlast

/-- The slash at the end of the address is the one, unless the text brings another. -/
theorem meetsOnce_closed_iff {address text : List Char} (h : ¬ EndsTwice address) :
    MeetsOnce (closed address) text ↔ text.head? ≠ some '/' := by
  obtain ⟨front, heq, hlast⟩ := exists_closed_eq_concat h
  rw [heq, MeetsOnce, slashesBetween_concat, Nat.add_eq_right, slashesBetween_eq_zero_iff]
  exact and_iff_right hlast

/-! ## Joining -/

theorem joinSegment_of_not_appended {segment : List Char} (h : isAppended segment = false)
    (address : List Char) : joinSegment address segment = address := by
  have hskip : segment = [] ∨ segment = ['/'] := by simpa [isAppended, or_iff_not_imp_left] using h
  simp [joinSegment, hskip]

theorem joinSegment_of_appended {address segment : List Char} (haddress : address ≠ [])
    (h : isAppended segment = true) :
    joinSegment address segment = closed address ++ stripLead segment := by
  have happended : segment ≠ [] ∧ segment ≠ ['/'] := by simpa [isAppended] using h
  have hskip : (segment = [] || segment = ['/']) = false := by simp [happended]
  unfold joinSegment closed
  rw [hskip, if_neg haddress, if_neg Bool.false_ne_true]
  split
  · rfl
  · rw [List.append_assoc, List.singleton_append]

/-- Segments that are not appended may be left out. -/
theorem join_filter_isAppended (address : List Char) (segments : List (List Char)) :
    join address (segments.filter isAppended) = join address segments := by
  induction segments generalizing address with
  | nil => rfl
  | cons segment rest ih =>
    by_cases h : isAppended segment = true
    · rw [List.filter_cons_of_pos h]
      exact ih _
    · have hjoin : join address (segment :: rest) = join (joinSegment address segment) rest := rfl
      rw [List.filter_cons_of_neg h, ih, hjoin,
        joinSegment_of_not_appended (Bool.eq_false_iff.mpr h)]

section Appended

variable {address : List Char} {segment : List Char} {segments : List (List Char)}

theorem join_cons_of_appended (haddress : address ≠ []) (h : isAppended segment = true) :
    join address (segment :: segments) = join (closed address ++ stripLead segment) segments := by
  rw [← joinSegment_of_appended haddress h]
  rfl

theorem closed_append_ne_nil (address text : List Char) : closed address ++ text ≠ [] := by
  intro hnil
  have hlast := getLast?_closed address
  rw [(List.append_eq_nil_iff.mp hnil).1] at hlast
  cases hlast

/-- Every segment that is appended stands behind a slash. -/
theorem assembled_join (haddress : address ≠ [])
    (happended : ∀ segment ∈ segments, isAppended segment = true) :
    Assembled FollowsSlash address (segments.map stripLead) (join address segments) := by
  induction segments generalizing address with
  | nil => exact .nil address
  | cons segment rest ih =>
    obtain ⟨hsegment, hrest⟩ := List.forall_mem_cons.mp happended
    rw [join_cons_of_appended haddress hsegment, List.map_cons]
    exact .cons (closed_cases address) (getLast?_closed address)
      (ih (closed_append_ne_nil _ _) hrest)

end Appended

/-! ## One slash at every place -/

/-- Segments that bring no slashes in pairs.  After the last one nothing is put. -/
structure PlainSegments (segments : List (List Char)) : Prop where
  /-- No segment begins with two slashes, or with two slashes after a dot. -/
  begins : ∀ segment ∈ segments, ¬ ['/', '/'] <+: segment ∧ ¬ ['.', '/', '/'] <+: segment
  /-- Only the last segment may end in two slashes. -/
  ends : ∀ segment ∈ segments.dropLast, ¬ EndsTwice segment

theorem plainSegments_nil : PlainSegments [] where
  begins := List.forall_mem_nil _
  ends := List.forall_mem_nil _

theorem plainSegments_cons_iff {segment : List Char} {rest : List (List Char)} :
    PlainSegments (segment :: rest) ↔
      (¬ ['/', '/'] <+: segment ∧ ¬ ['.', '/', '/'] <+: segment) ∧
        (rest ≠ [] → ¬ EndsTwice segment) ∧ PlainSegments rest := by
  constructor
  · rintro ⟨hbegins, hends⟩
    obtain ⟨hsegment, hrest⟩ := List.forall_mem_cons.mp hbegins
    cases rest with
    | nil => exact ⟨hsegment, fun hne => absurd rfl hne, plainSegments_nil⟩
    | cons next more =>
      obtain ⟨hfirst, hmore⟩ := List.forall_mem_cons.mp hends
      exact ⟨hsegment, fun _ => hfirst, hrest, hmore⟩
  · rintro ⟨hsegment, hfirst, hrest⟩
    refine ⟨List.forall_mem_cons.mpr ⟨hsegment, hrest.begins⟩, ?_⟩
    cases rest with
    | nil => exact List.forall_mem_nil _
    | cons next more =>
      exact List.forall_mem_cons.mpr ⟨hfirst (List.cons_ne_nil _ _), hrest.ends⟩

/-! ### The front of a segment -/

theorem stripLead_slash (rest : List Char) : stripLead ('/' :: rest) = rest := rfl

theorem stripLead_dot (rest : List Char) : stripLead ('.' :: '/' :: rest) = rest := rfl

theorem stripLead_eq_self {segment : List Char} (hdot : ¬ ['.', '/'] <+: segment)
    (hslash : ¬ ['/'] <+: segment) : stripLead segment = segment := by
  have hnone : ∀ start, ¬ start <+: segment → Text.stripStart? start segment = none := by
    intro start hstart
    rw [Option.eq_none_iff_forall_ne_some]
    exact fun after heq => hstart ⟨after, (Text.stripStart?_eq_some_iff.mp heq).symm⟩
  rw [stripLead, hnone _ hdot, hnone _ hslash]
  rfl

/-- What is taken away. -/
theorem exists_lead (segment : List Char) :
    ∃ lead ∈ [[], ['/'], ['.', '/']], segment = lead ++ stripLead segment := by
  by_cases hdot : ['.', '/'] <+: segment
  · obtain ⟨rest, rfl⟩ := hdot
    exact ⟨['.', '/'], by simp, rfl⟩
  by_cases hslash : ['/'] <+: segment
  · obtain ⟨rest, rfl⟩ := hslash
    exact ⟨['/'], by simp, rfl⟩
  · exact ⟨[], by simp, (stripLead_eq_self hdot hslash).symm⟩

theorem slash_prefix_iff {text : List Char} : ['/'] <+: text ↔ text.head? = some '/' := by
  cases text with
  | nil => simp
  | cons c rest => simp [List.cons_prefix_cons, eq_comm]

/-- What is left begins with a slash if there were two, or two after a dot. -/
theorem head?_stripLead_iff {segment : List Char} :
    (stripLead segment).head? = some '/' ↔
      ['/', '/'] <+: segment ∨ ['.', '/', '/'] <+: segment := by
  by_cases hdot : ['.', '/'] <+: segment
  · obtain ⟨rest, rfl⟩ := hdot
    simp [stripLead_dot, List.cons_prefix_cons, slash_prefix_iff]
  by_cases hslash : ['/'] <+: segment
  · obtain ⟨rest, rfl⟩ := hslash
    simp [stripLead_slash, List.cons_prefix_cons, slash_prefix_iff]
  · rw [stripLead_eq_self hdot hslash, ← slash_prefix_iff]
    refine iff_of_false hslash ?_
    rintro (h | h)
    · exact hslash ((List.prefix_append ['/'] ['/']).trans h)
    · exact hdot ((List.prefix_append ['.', '/'] ['/']).trans h)

/-! ### The end of an address -/

theorem endsTwice_append_iff {front text : List Char} (hfront : ¬ EndsTwice front)
    (htext : text.head? ≠ some '/') : EndsTwice (front ++ text) ↔ EndsTwice text := by
  refine ⟨?_, fun h => h.trans (List.suffix_append front text)⟩
  rintro ⟨before, heq⟩
  rcases List.append_eq_append_iff.mp heq with ⟨middle, rfl, hpair⟩ | ⟨middle, rfl, rfl⟩
  · -- The two slashes are not both in front, and none of them begins the text.
    match middle, hpair with
    | [], hpair => exact ⟨[], hpair⟩
    | [_], hpair =>
      obtain ⟨-, rfl⟩ := List.cons.inj hpair
      exact absurd rfl htext
    | _ :: _ :: more, hpair =>
      obtain ⟨rfl, rfl, hmore⟩ : _ ∧ _ ∧ [] = more ++ text := by simpa using hpair
      obtain rfl : more = [] := (List.append_eq_nil_iff.mp hmore.symm).1
      exact absurd ⟨before, rfl⟩ hfront
  · exact ⟨middle, rfl⟩

theorem endsTwice_stripLead_iff {segment : List Char} (h : (stripLead segment).head? ≠ some '/') :
    EndsTwice (stripLead segment) ↔ EndsTwice segment := by
  obtain ⟨lead, hlead, heq⟩ := exists_lead segment
  have hends : ∀ lead ∈ [[], ['/'], ['.', '/']], ¬ EndsTwice lead := by decide
  conv_rhs => rw [heq]
  exact (endsTwice_append_iff (hends lead hlead) h).symm

theorem exists_of_endsTwice {text : List Char} (h : EndsTwice text) :
    ∃ front, text = front ++ ['/'] ∧ front.getLast? = some '/' := by
  obtain ⟨before, rfl⟩ := h
  exact ⟨before ++ ['/'], by simp, List.getLast?_concat⟩

theorem not_meetsOnce_of_endsTwice {front : List Char} (h : EndsTwice front) (text : List Char) :
    ¬ MeetsOnce front text := by
  obtain ⟨before, rfl, hlast⟩ := exists_of_endsTwice h
  exact not_meetsOnce_concat hlast text

/-- Before a text that is met once there are no two slashes. -/
theorem not_endsTwice_of_assembled {address result : List Char} {texts : List (List Char)}
    (h : Assembled MeetsOnce address texts result) (htexts : texts ≠ []) :
    ¬ EndsTwice address := by
  intro hends
  cases h with
  | nil => exact htexts rfl
  | cons hfront hmeets hrest =>
    rcases hfront with rfl | rfl
    · exact not_meetsOnce_of_endsTwice hends _ hmeets
    · obtain ⟨before, rfl, -⟩ := exists_of_endsTwice hends
      exact not_meetsOnce_concat List.getLast?_concat _ hmeets

/-! ### The places -/

/-- Joining puts in as many slashes as any other way that makes one slash at every place, if the
addresses in front end alike. -/
theorem length_le_of_assembled {segments : List (List Char)} {address other result : List Char}
    (happended : ∀ segment ∈ segments, isAppended segment = true)
    (h : Assembled MeetsOnce address (segments.map stripLead) result)
    (hends : address.getLast? = some '/' ↔ other.getLast? = some '/') (hother : other ≠ []) :
    result.length + other.length ≤ (join other segments).length + address.length := by
  -- Segment by segment, both addresses keep ending alike, so what is put in on the left was not
  -- there on the right either.
  induction segments generalizing address other with
  | nil =>
    cases h
    exact Nat.le_of_eq (Nat.add_comm _ _)
  | cons segment rest ih =>
    obtain ⟨hsegment, hrest⟩ := List.forall_mem_cons.mp happended
    cases h with
    | @cons _ front _ _ _ hfront hmeets hassembled =>
      have halike : (front ++ stripLead segment).getLast? = some '/' ↔
          (closed other ++ stripLead segment).getLast? = some '/' := by
        rw [List.getLast?_append, List.getLast?_append, getLast?_closed]
        cases htext : (stripLead segment).getLast? with
        | some c => rfl
        | none =>
          -- With no text, the slash is one of those before it.
          have hnil : stripLead segment = [] := List.getLast?_eq_none_iff.mp htext
          have hslash : front.getLast? = some '/' := by
            by_contra hno
            have hfirst := head?_of_meetsOnce hmeets hno
            rw [hnil] at hfirst
            cases hfirst
          simp [hslash]
      have hlength := ih hrest hassembled halike (closed_append_ne_nil _ _)
      have hadded : front.length + other.length ≤ (closed other).length + address.length := by
        rcases hfront with rfl | rfl
        · rw [Nat.add_comm]
          exact Nat.add_le_add_right (length_le_closed other) _
        · -- The slash that is put in here was not there before, so it is put in there as well.
          have hno : address.getLast? ≠ some '/' := fun hslash =>
            not_meetsOnce_concat hslash _ hmeets
          rw [closed_of_not_slash fun hslash => hno (hends.mpr hslash), List.length_append,
            List.length_append]
          omega
      rw [join_cons_of_appended hother hsegment]
      simp only [List.length_append] at hlength ⊢
      omega

/-- If there is one slash at every place, then each text stands where joining puts it. -/
theorem closed_of_assembled {address text : List Char} {rest : List (List Char)}
    (happended : ∀ segment ∈ rest, isAppended segment = true)
    (h : Assembled MeetsOnce address (text :: rest.map stripLead)
      (join (closed address ++ text) rest)) :
    MeetsOnce (closed address) text ∧
      Assembled MeetsOnce (closed address ++ text) (rest.map stripLead)
        (join (closed address ++ text) rest) := by
  cases h with
  | @cons _ front _ _ _ hfront hmeets hassembled =>
    have hclosed : front = closed address := by
      rcases hfront with rfl | rfl
      · by_contra hne
        have hno : front.getLast? ≠ some '/' := fun hslash => hne (closed_of_slash hslash).symm
        -- The slash would be the first one of the text, and the address would be too short.
        have hfirst := head?_of_meetsOnce hmeets hno
        have htext : text ≠ [] := by
          rintro rfl
          cases hfirst
        have halike : (front ++ text).getLast? = some '/' ↔
            (closed front ++ text).getLast? = some '/' := by
          rw [List.getLast?_append_of_ne_nil _ htext, List.getLast?_append_of_ne_nil _ htext]
        have hlength := length_le_of_assembled happended hassembled halike
          (closed_append_ne_nil _ _)
        rw [closed_of_not_slash hno] at hlength
        simp only [List.length_append, List.length_singleton] at hlength
        omega
      · exact (closed_of_not_slash fun hslash => not_meetsOnce_concat hslash _ hmeets).symm
    subst hclosed
    exact ⟨hmeets, hassembled⟩

/-- Segments that are appended make one slash at every place if and only if they are plain. -/
theorem assembled_join_iff {address : List Char} {segments : List (List Char)}
    (haddress : address ≠ []) (hends : ¬ EndsTwice address)
    (happended : ∀ segment ∈ segments, isAppended segment = true) :
    Assembled MeetsOnce address (segments.map stripLead) (join address segments) ↔
      PlainSegments segments := by
  -- The address that the rest is joined to must not end in two slashes either, so this is known only
  -- from what the first segment and the next place say.
  induction segments generalizing address with
  | nil => exact iff_of_true (.nil address) plainSegments_nil
  | cons segment rest ih =>
    obtain ⟨hsegment, hrest⟩ := List.forall_mem_cons.mp happended
    have hmeets : MeetsOnce (closed address) (stripLead segment) ↔
        (stripLead segment).head? ≠ some '/' := meetsOnce_closed_iff hends
    -- The rest is joined to an address that ends as the segment does.
    have hfollows (hhead : (stripLead segment).head? ≠ some '/') :
        EndsTwice (closed address ++ stripLead segment) ↔ EndsTwice segment := by
      rw [endsTwice_append_iff (not_endsTwice_closed hends) hhead, endsTwice_stripLead_iff hhead]
    have hrestPlain (hhead : (stripLead segment).head? ≠ some '/')
        (hlast : rest ≠ [] → ¬ EndsTwice segment) :
        Assembled MeetsOnce (closed address ++ stripLead segment) (rest.map stripLead)
          (join (closed address ++ stripLead segment) rest) ↔ PlainSegments rest := by
      by_cases hempty : rest = []
      · rw [hempty]
        exact iff_of_true (.nil _) plainSegments_nil
      · exact ih (closed_append_ne_nil _ _) (mt (hfollows hhead).mp (hlast hempty)) hrest
    rw [join_cons_of_appended haddress hsegment, List.map_cons, plainSegments_cons_iff,
      ← not_or, ← head?_stripLead_iff]
    constructor
    · intro h
      obtain ⟨honce, hassembled⟩ := closed_of_assembled hrest h
      have hhead := hmeets.mp honce
      have hlast : rest ≠ [] → ¬ EndsTwice segment := by
        rw [← hfollows hhead]
        exact fun hne => not_endsTwice_of_assembled hassembled (by simpa using hne)
      exact ⟨hhead, hlast, (hrestPlain hhead hlast).mp hassembled⟩
    · rintro ⟨hhead, hlast, hplain⟩
      exact .cons (closed_cases address) (hmeets.mpr hhead) ((hrestPlain hhead hlast).mpr hplain)

/-- **One slash**: joining appends the texts of the segments in order, each behind a slash.  There
is exactly one slash at every place if and only if the segments are plain: none begins with two
slashes, or with two after a dot, and only the last one may end in two. -/
theorem slashes_of_join {base : List Char} (hbase : base ≠ []) (hends : ¬ EndsTwice base)
    (segments : List (List Char)) :
    Assembled FollowsSlash base (appendedTexts segments) (join base segments) ∧
    (Assembled MeetsOnce base (appendedTexts segments) (join base segments) ↔
      PlainSegments (segments.filter isAppended)) := by
  have happended : ∀ segment ∈ segments.filter isAppended, isAppended segment = true :=
    fun segment hsegment => (List.mem_filter.mp hsegment).2
  rw [← join_filter_isAppended base segments, appendedTexts]
  exact ⟨assembled_join hbase happended, assembled_join_iff hbase hends happended⟩

/-- Segments in all the forms that are joined well: empty ones, and such with slashes and dots in
front and slashes at the end. -/
def mixedSegments : List (List Char) :=
  ["".toList, "./v1/".toList, "/".toList, "/pets".toList, "./".toList, "42//".toList]

theorem slashes_of_mixedSegments :
    join "/api/".toList mixedSegments = "/api/v1/pets/42//".toList ∧
    PlainSegments (mixedSegments.filter isAppended) ∧
    Assembled MeetsOnce "/api/".toList (appendedTexts mixedSegments)
      (join "/api/".toList mixedSegments) := by
  have hplain : PlainSegments (mixedSegments.filter isAppended) := ⟨by decide, by decide⟩
  exact ⟨by decide, hplain,
    (slashes_of_join (by decide) (by decide) mixedSegments).2.mpr hplain⟩

/-- A segment with two slashes in front keeps one of them behind the slash that is put in.  Whatever
is taken as the text of the segment, it is not appended with one slash. -/
theorem not_assembled_doubleSlash :
    "/base".toList ≠ [] ∧ ¬ EndsTwice "/base".toList ∧
    join "/base".toList ["//x".toList] = "/base//x".toList ∧
    ¬ ∃ text, Assembled MeetsOnce "/base".toList [text] (join "/base".toList ["//x".toList]) := by
  refine ⟨by decide, by decide, by decide, ?_⟩
  rintro ⟨text, h⟩
  obtain ⟨front, hfront, hmeets, heq⟩ := assembled_singleton_iff.mp h
  have hjoin : join "/base".toList ["//x".toList] = "/base//x".toList := by decide
  rw [hjoin] at heq
  -- The text is what stands behind the address, with one slash less or as it is.
  rcases hfront with rfl | rfl
  · have htext : text = "//x".toList := List.append_cancel_left heq.symm
    subst htext
    exact absurd hmeets (by decide)
  · have htext : text = "/x".toList := List.append_cancel_left heq.symm
    subst htext
    exact absurd hmeets (by decide)

end ApiToolkit.Path
