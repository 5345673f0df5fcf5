import TerraLint.Rule.Basic
import TerraLint.Source.MapText

/-!
# Versions and providers

A `terraform` block starts with the required version and declares the required providers in order,
each with its parameters in order. The file `versions.tf` holds one such block and no other. A
module declares a provider only to give it an alias.
-/

namespace TerraLint

open Text Hcl

namespace TerraformBlock

/-- Whether something other than the required version stands before a position. -/
def precededBy (file : SourceFile) (b : Block) (start : Pos) : Bool :=
  let others := b.attributes.filter fun a => a.key != "required_version"
  let spans := others.map Attribute.span ++ b.blocks.map Block.span
  spans.any fun span => (file.rangeOf span).start.before start

/-- Reports a block that does not start with the required version: at its key, or at the block when
there is none. -/
def checkVersion (file : SourceFile) (b : Block) : List Finding :=
  let message :=
    "The `required_version` field should be declared at the beginning of `terraform` block"
  match b.attribute? "required_version" with
  | none => [.issue message (file.defRange b)]
  | some version =>
    if precededBy file b (file.rangeOf version.span).start then
      [.issue message (file.keyRange version)]
    else []

/-- A block of required providers, in normal layout. -/
def renderProviders (kind : String) (providers : List MapText) : String :=
  String.ofList (format (SourceFile.enclose (kind.toList ++ [' ']) (providers.map MapText.text)))

/-- Reports required providers that are out of order, or else each provider with parameters out of
order. -/
def checkProviders (file : SourceFile) (b : Block) : List Finding :=
  let providers := b.attributesByOffset.map fun a => (a, file.mapText a)
  let key (p : Attribute × MapText) := p.1.key
  if inOrderOn key providers then
    (providers.filter fun p => !p.2.isSorted).map fun p =>
      .issue ("Parameters of provider `" ++ p.1.key ++ "` are expected to be sorted as follows:\n" ++
        String.ofList p.2.text) (file.keyRange p.1)
  else
    [.issue ("The arguments of `required_providers` are expected to be sorted as follows:\n" ++
      renderProviders b.kind ((sortOn key providers).map (·.2))) (file.defRange b)]

/-- Reports a block without required providers, or what is wrong with them. -/
def checkRequiredProviders (file : SourceFile) (b : Block) : List Finding :=
  match b.blocksOf "required_providers" with
  | [] =>
    [.issue "The `required_providers` field should be declared in `terraform` block"
      (file.defRange b)]
  | declared => declared.flatMap (checkProviders file)

/-- Whether an alias is all that a block holds. -/
def onlyAlias (b : Block) : Bool :=
  match b.attributes with
  | [a] => a.key == "alias" && b.blocks.isEmpty
  | _ => false

/-- Whether a body holds one `terraform` block and no other. -/
def isVersions (body : Body) : Bool :=
  match body.blocks with
  | [b] => b.kind == "terraform"
  | _ => false

end TerraformBlock

namespace Rule

open TerraformBlock

/-- `versions.tf` holds one `terraform` block and no other. -/
def versionsFile : Rule where
  name := "terraform_versions_file"
  description := "`versions.tf` should hold exactly one `terraform` block"
  scope := .fileNamed "versions.tf"
  findings _ body :=
    if isVersions body then []
    else [.issue "`versions.tf` should have and only have 1 `terraform` block" .null]

/-- A `terraform` block starts with the required version. -/
def requiredVersionDeclaration : Rule where
  name := "terraform_required_version_declaration"
  description := "`required_version` should be the first argument of the terraform block"
  findings file body := (body.blocksOf "terraform").flatMap (checkVersion file)

/-- A `terraform` block declares the required providers in order. -/
def requiredProvidersDeclaration : Rule where
  name := "terraform_required_providers_declaration"
  description :=
    "The terraform block should declare required_providers, sorted by provider and by parameter"
  findings file body := (body.blocksOf "terraform").flatMap (checkRequiredProviders file)

/-- A provider block in a module declares an alias only. -/
def moduleProviderDeclaration : Rule where
  name := "terraform_module_provider_declaration"
  description := "Provider blocks in a module should only declare `alias`"
  severity := .warning
  findings file body :=
    ((body.blocksOf "provider").filter fun b => !onlyAlias b).map fun b =>
      .issue
        "Provider block in terraform module is expected to have and only have `alias` declared"
        (file.defRange b)

end Rule

end TerraLint
