import ApiToolkit.Path.Component
/-!
# Path templates

A template names its parameters in braces.

## What is inside

- `Path.resolve`: writes parameter values in place of their names.
- `Path.parameterNames`: the names in a template.
-/

namespace ApiToolkit.Path

/-- A name in braces. -/
def placeholder (name : List Char) : List Char := '{' :: name ++ ['}']

/-- Writes one parameter wherever its name stands in braces. -/
def substitute (template name : List Char) (value : Json) : List Char :=
  Text.replaceAll (placeholder name) (encodeComponent (parameterText value)) template

/-- Writes the parameters into a template, one after another. -/
def resolve (template : List Char) (parameters : Entries Json) : List Char :=
  parameters.foldl (fun path parameter => substitute path parameter.1.toList parameter.2) template

/-- Collects names between braces.  `current` holds the characters since the last opening brace,
the last one first, if no closing brace came after it. -/
def namesFrom (current : Option (List Char)) (template : List Char) : List (List Char) :=
  match template with
  | [] => []
  | c :: rest =>
    if c = '{' then namesFrom (some []) rest
    else if c = '}' then
      match current with
      | some (last :: before) => (last :: before).reverse :: namesFrom none rest
      | _ => namesFrom none rest
    else namesFrom (current.map (c :: ·)) rest

/-- The names in a template, from left to right. -/
def parameterNames (template : List Char) : List (List Char) := namesFrom none template

end ApiToolkit.Path
