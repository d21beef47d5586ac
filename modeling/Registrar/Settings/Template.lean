/-!
# A document to start from

A new user gets a settings document that names every setting with its usual value and says what it
is for.

## Main definitions

* `Settings.template` — the document.
-/

namespace Registrar

namespace Settings

/-- The lines of the document. -/
def templateLines : List String :=
  [
    "# Campus Insight Configuration",
    "#",
    "# Environment variables override these settings:",
    "# - INSIGHT_DATA_DIR",
    "# - INSIGHT_API_HOST",
    "# - INSIGHT_API_PORT",
    "# - INSIGHT_MAX_RESULTS",
    "# - INSIGHT_LOG_LEVEL",
    "# - INSIGHT_LOG_FORMAT",
    "",
    "[storage]",
    "# Directory holding one JSON file per dataset",
    "data_dir = \"~/.local/share/campus-insight\"",
    "",
    "# Room review file (relative to data_dir unless absolute)",
    "reviews_file = \"room_reviews.json\"",
    "",
    "[api]",
    "# API server host",
    "host = \"0.0.0.0\"",
    "",
    "# API server port",
    "port = 4321",
    "",
    "# Allowed CORS origins (empty allows any origin)",
    "cors_origins = [\"http://localhost:3000\", \"http://127.0.0.1:3000\"]",
    "",
    "# Largest accepted request body in bytes (dataset uploads)",
    "max_body_size = 67108864",
    "",
    "[query]",
    "# Queries whose filtered records (or groups) exceed this fail",
    "max_results = 5000",
    "",
    "[logging]",
    "# Log level: trace, debug, info, warn, error",
    "level = \"info\"",
    "",
    "# Log format: pretty (for development) or json (for production)",
    "format = \"pretty\""]

/-- The document. -/
def template : String :=
  String.join (templateLines.map (· ++ "\n"))

end Settings

end Registrar
