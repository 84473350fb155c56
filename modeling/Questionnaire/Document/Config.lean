import Questionnaire.Json.Fields
import Questionnaire.Store.Config

/-!
# Configurations in documents

How the configuration of a store is written as JSON and read back. Every field has a default.
-/

namespace Questionnaire

open Json (member ofMembers)

namespace StoreConfig

/-- The record of a configuration. -/
def toJson (config : StoreConfig) : Json :=
  ofMembers
    [member "scope" (.text config.scope),
      member "documentKey" (.text config.documentKey),
      member "legacyKey" (.text config.firstSchemaKey),
      member "seedOnEmpty" (.bool config.seedOnEmpty)]

/-- Reads a configuration; fields that are left out have their defaults. -/
def ofJson? (tree : Json) : Option StoreConfig := do
  let standard : StoreConfig := {}
  let fields ← tree.fields? ["scope", "documentKey", "legacyKey", "seedOnEmpty"]
  return {
    scope := ← fields.withDefault "scope" standard.scope Json.asText?
    documentKey := ← fields.withDefault "documentKey" standard.documentKey Json.asText?
    firstSchemaKey := ← fields.withDefault "legacyKey" standard.firstSchemaKey Json.asText?
    seedOnEmpty := ← fields.withDefault "seedOnEmpty" standard.seedOnEmpty Json.asBool? }

end StoreConfig

end Questionnaire
