import TerraLint.Toml.Plain

/-!
# The settings file to begin with

A settings file that says what holds by default, with a word on each key.
-/

namespace TerraLint.Settings

open TerraLint.Toml PlainLine

/-- The part of the file on how directories are looked at. -/
def scanLines : List PlainLine :=
  [header [] "analyzer",
    remark "Root module directory (default: current directory)",
    remark "root = \"./infra\"",
    empty,
    remark "Glob patterns to exclude from analysis",
    entry "exclude" (.column ["**/.terraform/**"]),
    empty,
    remark "Also lint child module directories below the root",
    entry "recursive" (.boolean false),
    empty,
    remark "Skip child modules when running rules",
    entry "root_module_only" (.boolean true),
    empty,
    remark "Respect .gitignore files when discovering child modules",
    entry "respect_gitignore" (.boolean true),
    empty,
    remark "Maximum number of issues a single rule may report per module",
    remark "max_issues = 500",
    empty]

/-- The part of the file on rules. -/
def ruleLines : List PlainLine :=
  [remark "Rule configurations",
    remark "Each rule can be enabled/disabled and have its severity overridden",
    empty,
    header ["rules"] "tfstyle_comments",
    entry "enabled" (.boolean true),
    empty,
    header ["rules"] "tfstyle_file_content",
    entry "enabled" (.boolean true),
    empty,
    header ["rules"] "tfstyle_resource_name",
    entry "enabled" (.boolean true),
    entry "pattern" (.string "^[a-z0-9_]*$"),
    empty,
    header ["rules"] "tfstyle_module_structure",
    entry "enabled" (.boolean true),
    entry "files" (.table [("variable", "variables.tf"), ("output", "outputs.tf")]),
    empty,
    header ["rules"] "tfstyle_backend_type",
    entry "enabled" (.boolean true),
    remark "severity = \"warning\"  # Override default severity",
    entry "allowed_types" (.row ["azurerm", "s3"]),
    empty,
    header ["rules"] "tfstyle_foreach_count",
    entry "enabled" (.boolean true),
    empty,
    remark "Case-only name check, covered by tfstyle_resource_name; off by default",
    header ["rules"] "tfstyle_resource_name_lowercased",
    entry "enabled" (.boolean false)]

/-- The lines of the settings file to begin with. -/
def templateLines : List PlainLine :=
  [remark "tfstyle configuration", empty] ++ scanLines ++ ruleLines

/-- The settings file to begin with. -/
def template : String := writeLines templateLines

end TerraLint.Settings
