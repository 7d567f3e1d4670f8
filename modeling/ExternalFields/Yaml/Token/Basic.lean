import ExternalFields.Text.Basic
import ExternalFields.Yaml.Value

/-!
# Tokens

The text of a document taken apart. Indentation shows in the tokens that start and end block
collections.

* **`Directive`**: what a line starting with `%` says
* **`Token`**: the tokens
* **`TokenStream`**: the tokens of a text
-/

namespace ExternalFields.Yaml

/-- What a line starting with `%` says. -/
inductive Directive where
  /-- The version of YAML, by its major number. -/
  | version (major : Nat)
  /-- A shorthand for the start of tags. -/
  | handle (handle uri : String)
  /-- Anything else, which has no effect. -/
  | other
  deriving DecidableEq, Repr

/-- The tokens of a document. -/
inductive Token where
  | directive (directive : Directive)
  | documentStart
  | documentEnd
  | blockListStart
  | blockMappingStart
  | blockEnd
  | flowListStart
  | flowListEnd
  | flowMappingStart
  | flowMappingEnd
  | blockEntry
  | flowEntry
  | key
  | value
  | alias (name : String)
  | anchor (name : String)
  /-- A tag as a shorthand, if it uses one, and the rest of it. -/
  | tag (handle : Option String) (suffix : String)
  | scalar (text : Text) (isPlain : Bool)
  | streamEnd
  deriving DecidableEq, Repr

/-- The tokens of a text as far as they can be told, and the fault that stops them there. A text
without a fault ends in `streamEnd`. -/
structure TokenStream where
  tokens : List Token
  fault : Option ReadError := none
  deriving DecidableEq, Repr

end ExternalFields.Yaml
