import ComponentLikeness.Tsx.Lexicon

/-!
# Markup

Grammar rules: elements, attributes and the text between tags.
-/

namespace ComponentLikeness.Tsx

open Grammar Grammar.Rule

/-- Elements, attributes and the text between tags. -/
def markupRules : List (String × Rule) := [
  ("_jsx_element", choice [ref "jsx_element", ref "jsx_self_closing_element"]),
  ("jsx_element",
    seq [
      field "open_tag" (ref "jsx_opening_element"), many (ref "_jsx_child"),
      field "close_tag" (ref "jsx_closing_element")]),
  ("html_character_reference", .token characterReference),
  ("jsx_expression",
    seq [
      "\x7b",
      opt (choice [ref "expression", ref "sequence_expression", ref "spread_element"]),
      "\x7d"]),
  ("_jsx_child",
    choice [
      ref "jsx_text", ref "html_character_reference", ref "_jsx_element",
      ref "jsx_expression"]),
  ("jsx_opening_element", dynamic (-1) (seq [ref "_jsx_start_opening_element", ">"])),
  ("jsx_identifier", .token dashedIdentifier),
  ("_jsx_identifier", choice [shown (ref "jsx_identifier") "identifier", ref "identifier"]),
  ("nested_identifier",
    prec "member" (
      seq [
        field "object" (
          choice [ref "identifier", shown (ref "nested_identifier") "member_expression"]),
        ".", field "property" (shown (ref "identifier") "property_identifier")])),
  ("jsx_namespace_name", seq [ref "_jsx_identifier", ":", ref "_jsx_identifier"]),
  ("_jsx_element_name",
    choice [
      ref "_jsx_identifier", shown (ref "nested_identifier") "member_expression",
      ref "jsx_namespace_name"]),
  ("jsx_closing_element", seq ["</", opt (field "name" (ref "_jsx_element_name")), ">"]),
  ("jsx_self_closing_element", dynamic (-1) (seq [ref "_jsx_start_opening_element", "/>"])),
  ("_jsx_attribute", choice [ref "jsx_attribute", ref "jsx_expression"]),
  ("_jsx_attribute_name",
    choice [shown (ref "_jsx_identifier") "property_identifier", ref "jsx_namespace_name"]),
  ("jsx_attribute",
    seq [ref "_jsx_attribute_name", opt (seq ["=", ref "_jsx_attribute_value"])]),
  ("_jsx_string",
    choice [
      seq [
        "\"",
        many (
          choice [
            shown (ref "unescaped_double_jsx_string_fragment") "string_fragment",
            ref "html_character_reference"]),
        "\""],
      seq [
        "'",
        many (
          choice [
            shown (ref "unescaped_single_jsx_string_fragment") "string_fragment",
            ref "html_character_reference"]),
        "'"]]),
  ("unescaped_double_jsx_string_fragment", .token doubleQuotedAttributeText),
  ("unescaped_single_jsx_string_fragment", .token singleQuotedAttributeText),
  ("_jsx_attribute_value",
    choice [shown (ref "_jsx_string") "string", ref "jsx_expression", ref "_jsx_element"])]

end ComponentLikeness.Tsx
