import TerraLint.Rule.ArgumentLayout
import TerraLint.Rule.CountIndex
import TerraLint.Rule.DeclarationOrder
import TerraLint.Rule.Heredoc
import TerraLint.Rule.SeparateFile
import TerraLint.Rule.TerraformBlock
import TerraLint.Rule.VariableDeclaration
import TerraLint.Rule.VariableName

/-!
# All rules

The rules in the order in which they run, and what is published about each of them.
-/

namespace TerraLint

/-- The name of this set of rules. -/
def rulesetId : String := "basic-ext"

/-- The version of this set of rules. -/
def rulesetVersion : String := "0.6.0"

namespace Rule

/-- All rules. -/
def all : List Rule :=
  [variableOrder, variableSeparate, outputOrder, outputSeparate, localsOrder, argumentLayout,
    countIndexUsage, heredocUsage, sensitiveVariableNoDefault, variableNullableFalse, versionsFile,
    requiredVersionDeclaration, requiredProvidersDeclaration, moduleProviderDeclaration,
    variableNameConvention]

/-- The names of all rules, sorted. -/
def names : List String := sortOn id (all.map Rule.name)

/-- The rule with a name. -/
def find? (name : String) : Option Rule := all.find? fun rule => rule.name == name

/-- Where the documentation of a rule is. -/
def link (rule : Rule) : String :=
  "https://github.com/forseti-linter/forseti-ruleset-basic-ext/blob/v" ++ rulesetVersion ++
    "/docs/rules/" ++ rule.name ++ ".md"

/-- How a rule is configured unless something else is said: its severity, or off. -/
def defaultConfig (rule : Rule) : String := if rule.enabled then rule.severity.word else "off"

end Rule

end TerraLint
