import ComponentLikeness.Tsx.Lexicon

/-!
# Literals

Grammar rules: strings, templates, regular expressions, numbers and names.
-/

namespace ComponentLikeness.Tsx

open Grammar Grammar.Rule

/-- Strings, templates, regular expressions, numbers and names. -/
def literalsRules : List (String × Rule) := [
  ("string",
    choice [
      seq [
        "\"",
        many (
          choice [
            shown (ref "unescaped_double_string_fragment") "string_fragment",
            ref "escape_sequence"]),
        "\""],
      seq [
        "'",
        many (
          choice [
            shown (ref "unescaped_single_string_fragment") "string_fragment",
            ref "escape_sequence"]),
        "'"]]),
  ("unescaped_double_string_fragment", .token doubleQuotedText),
  ("unescaped_single_string_fragment", .token singleQuotedText),
  ("escape_sequence", .token escapeSequence),
  ("comment", .token comment),
  ("template_string",
    seq [
      "`",
      many (
        choice [
          shown (ref "_template_chars") "string_fragment", ref "escape_sequence",
          ref "template_substitution"]),
      "`"]),
  ("template_substitution", seq ["$\x7b", ref "_expressions", "\x7d"]),
  ("regex",
    seq [
      "/", field "pattern" (ref "regex_pattern"), .token regexClose,
      opt (field "flags" (ref "regex_flags"))]),
  ("regex_pattern", .token regexBody),
  ("regex_flags", .token regexFlags),
  ("number", .token number),
  ("_identifier", choice [ref "undefined", ref "identifier"]),
  ("identifier", .token identifier),
  ("private_property_identifier", .token privateIdentifier),
  ("meta_property", choice [seq ["new", ".", "target"], seq ["import", ".", "meta"]]),
  ("this", text "this"),
  ("super", text "super"),
  ("true", text "true"),
  ("false", text "false"),
  ("null", text "null"),
  ("undefined", text "undefined"),
  ("arguments",
    seq ["(", commaSep (opt (choice [ref "expression", ref "spread_element"])), ")"])]

end ComponentLikeness.Tsx
