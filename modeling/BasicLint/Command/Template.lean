/-!
# The file that `init` writes
-/
namespace BasicLint.Command

def template : String :=
"# infobasic-lint configuration

# \"recommended\" (default), \"strict\" or \"minimal\"
preset = \"recommended\"

# Enable INFO-level and stricter checks (same as --strict)
strict = false

[analyzer]
# Glob patterns to exclude from directory scans
exclude = [
    \"**/backup/**\",
    \"**/generated/**\",
]

# Source file extensions, matched case-insensitively
extensions = [\"b\"]

# Maximum number of files checked in parallel (default: all cores)
# parallelism = 4

# Rule configurations
# Entries are keyed by rule name or rule code. Each can be disabled and
# have its severity overridden (\"error\", \"warning\", \"info\").

[rules.hardcoded-position]
# Highest literal field position tolerated in R.REC<N>
max_index = 10

[rules.error-handling]
# Lines searched for an ERR/ETEXT check after a service call
lookahead_lines = 5

[rules.nesting-depth]
max_depth = 3
# \"balanced\" closes on ')' and '\x7d'; \"legacy\" closes on '\x7d' only
paren_mode = \"balanced\"

# [rules.naming]
# prefixes = [\"CU.\", \"LOC.\"]

# [rules.A003]
# severity = \"error\"

# [rules.includes]
# enabled = false
"

end BasicLint.Command
