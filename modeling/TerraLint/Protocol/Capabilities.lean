import TerraLint.Json.Basic
import TerraLint.Rule.Registry

/-!
# What the rules can do

The answers about the rules themselves: how each one is configured unless something else is said,
and which files, annotations and settings there are.
-/

namespace TerraLint

/-- The configuration of a rule that is used unless something else is said. -/
def Rule.defaultSetting (rule : Rule) : Json := .string rule.defaultConfig

/-- A rule as an entry of the capabilities. -/
def Rule.entry (rule : Rule) : Json :=
  .object [("id", .string rule.name), ("description", .string rule.description)]

/-- The setting by which a rule is switched. -/
def Rule.setting (rule : Rule) : Json :=
  .object
    [("name", .string rule.name),
     ("description", .string ("Enable or disable the " ++ rule.name ++ " rule")),
     ("type", .string "enum"), ("default", rule.defaultSetting), ("required", .bool false),
     ("allowed_values", .array [.string "off", .string "warn", .string "error"])]

/-- The default configuration of all rules. -/
def defaultConfig : Json := .object (Rule.all.map fun rule => (rule.name, rule.defaultSetting))

/-- The largest file that is worth checking, in bytes. -/
def maxFileSize : Nat := 5 * 1024 * 1024

/-- What the rules can do. -/
def capabilities : Json :=
  .object
    [("ruleset_id", .string rulesetId), ("version", .string rulesetVersion),
     ("file_patterns", .array [.string "*.tf"]), ("max_file_size", .integer maxFileSize),
     ("annotation_prefixes", .array [.string "#", .string "//"]),
     ("rules", .array (Rule.all.map Rule.entry)), ("default_config", defaultConfig),
     ("config_settings", .array (Rule.all.map Rule.setting))]

end TerraLint
