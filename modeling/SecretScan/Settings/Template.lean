import SecretScan.Text.Basic

/-!
# Settings to begin with

The settings file that a new project is given. It holds the usual settings and tells what else could
be set.
-/

namespace SecretScan

/-- The lines of the settings file of a new project. -/
def templateLines : List String :=
  ["# secretlens configuration",
   "version = \"1.0\"",
   "",
   "[scan]",
   "check_requirements = true   # enforce per-rule pattern_requirements",
   "# min_entropy_override = 3.0 # global entropy floor on top of per-rule min_entropy",
   "timeout_ms = 1000           # budget per (rule, file) pair; overruns count as no match",
   "max_workers = 4",
   "keep_ignored = false        # report ignore_if_contains hits instead of dropping them",
   "",
   "[scoring]",
   "min_confidence = 60         # findings scored below this are dropped",
   "",
   "[rules]",
   "builtin = true",
   "# paths = [\"rules/\"]        # Kingfisher-style YAML files or directories",
   "# enable = [\"secretlens.aws.1\"]   # empty = all enabled",
   "# disable = [\"secretlens.jwt.1\"]",
   "",
   "[output]",
   "format = \"terminal\"         # terminal | json | sarif",
   "show_summary = true",
   "redact = true",
   "",
   "[logging]",
   "level = \"WARNING\"",
   "json = false"]

/-- The settings file of a new project. -/
def template : Text :=
  templateLines.flatMap fun line => line.toList ++ ['\n']

end SecretScan
