import ApiToolkit.Text.Search
import ApiToolkit.Yaml.Document
/-!
# Documents of services

## What is inside

- `Service.readDocument?`: a text as JSON or YAML, by the name that it goes by.
-/

namespace ApiToolkit.Service

/-- Reads a document.  Texts whose name ends in `.json` are JSON, all others are YAML. -/
def readDocument? (text name : String) : Option Json :=
  if Text.endsWith ".json".toList name.toList then Json.parse? text else Yaml.parse? text

end ApiToolkit.Service
