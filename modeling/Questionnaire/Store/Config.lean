/-!
# Configuration of a store

A store keeps its document under a key, and looks for a document of the first schema under another.
Both keys begin with the scope of the store, unless that is empty.
-/

namespace Questionnaire

/-- What a store is set to. -/
structure StoreConfig where
  /-- The workspace that the store belongs to. -/
  scope : String := "gbi"
  /-- The key of the document, without the scope. -/
  documentKey : String := "questionnaires:v3"
  /-- The key of the document of the first schema, without the scope. -/
  firstSchemaKey : String := "questionnaires:v1"
  /-- Whether a new document gets the templates and assignments that a store starts with. -/
  seedOnEmpty : Bool := true
deriving DecidableEq, Repr

/-- The key with the scope in front; an empty scope leaves the key as it is. -/
def scopedKey (scope key : String) : String :=
  if scope.isEmpty then key else scope ++ ":" ++ key

namespace StoreConfig

/-- The full key of the document. -/
def documentPlace (config : StoreConfig) : String :=
  scopedKey config.scope config.documentKey

/-- The full key of the document of the first schema. -/
def firstSchemaPlace (config : StoreConfig) : String :=
  scopedKey config.scope config.firstSchemaKey

end StoreConfig

end Questionnaire
