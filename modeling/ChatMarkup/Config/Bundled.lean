import ChatMarkup.Config.OfToml

/-!
# The Bundled Configuration

The default configuration as a document.

The document is meant to be copied and changed. It names every setting with its
default and says in comments which values the options with named values take.
Read as a configuration, it is the default configuration.

## Main definitions

* `Config.bundled`: The text of the document.
-/

namespace ChatMarkup.Config

/-- The default configuration as a document. -/
def bundled : String :=
  "# Default md2mrkdwn configuration.
# Copy to md2mrkdwn.toml and change what you need; missing keys keep these values.

[headings]
# bold-only | bold-with-marker | plain | prefix
style = \"bold-only\"
# Repeated once per heading level when style = \"bold-with-marker\"
marker = \"=\"

[lists]
bullet = \"•\"
checkbox-checked = \"☑\"
checkbox-unchecked = \"☐\"

[rules]
char = \"─\"
length = 10

[links]
# slack | url-only | text-only
format = \"slack\"

[tables]
# code-block | preserve
mode = \"code-block\"

[convert]
bold = true
italic = true
strikethrough = true
links = true
images = true
lists = true
task-lists = true
headings = true
rules = true
tables = true
"

end ChatMarkup.Config
