import ComponentLikeness.Grammar.Rule

/-!
# Operands

Grammar rules: primary expressions, object and array literals, and the patterns of the same shapes.
-/

namespace ComponentLikeness.Tsx

open Grammar Grammar.Rule

/-- Primary expressions, object and array literals, and the patterns of the same shapes. -/
def operandsRules : List (String × Rule) := [
  ("parenthesized_expression",
    seq [
      "(",
      choice [
        seq [ref "expression", opt (field "type" (ref "type_annotation"))],
        ref "sequence_expression"],
      ")"]),
  ("_expressions", choice [ref "expression", ref "sequence_expression"]),
  ("expression",
    choice [
      ref "as_expression", ref "satisfies_expression", ref "instantiation_expression",
      ref "internal_module", ref "primary_expression", ref "_jsx_element",
      ref "assignment_expression", ref "augmented_assignment_expression",
      ref "await_expression", ref "unary_expression", ref "binary_expression",
      ref "ternary_expression", ref "update_expression", ref "new_expression",
      ref "yield_expression"]),
  ("primary_expression",
    choice [
      choice [
        ref "subscript_expression", ref "member_expression", ref "parenthesized_expression",
        ref "_identifier", shown (ref "_reserved_identifier") "identifier", ref "this",
        ref "super", ref "number", ref "string", ref "template_string", ref "regex",
        ref "true", ref "false", ref "null", ref "object", ref "array",
        ref "function_expression", ref "arrow_function", ref "generator_function",
        ref "class", ref "meta_property", ref "call_expression"],
      ref "non_null_expression"]),
  ("yield_expression",
    levelRight 0 (
      seq ["yield", choice [seq ["*", ref "expression"], opt (ref "expression")]])),
  ("object",
    prec "object" (
      seq [
        "\x7b",
        commaSep (
          opt (
            choice [
              ref "pair", ref "spread_element", ref "method_definition",
              shown (choice [ref "identifier", ref "_reserved_identifier"])
                "shorthand_property_identifier"])),
        "\x7d"])),
  ("object_pattern",
    prec "object" (
      seq [
        "\x7b",
        commaSep (
          opt (
            choice [
              ref "pair_pattern", ref "rest_pattern", ref "object_assignment_pattern",
              shown (choice [ref "identifier", ref "_reserved_identifier"])
                "shorthand_property_identifier_pattern"])),
        "\x7d"])),
  ("assignment_pattern",
    seq [field "left" (ref "pattern"), "=", field "right" (ref "expression")]),
  ("object_assignment_pattern",
    seq [
      field "left" (
        choice [
          shown (choice [ref "_reserved_identifier", ref "identifier"])
            "shorthand_property_identifier_pattern",
          ref "_destructuring_pattern"]),
      "=", field "right" (ref "expression")]),
  ("array",
    seq ["[", commaSep (opt (choice [ref "expression", ref "spread_element"])), "]"]),
  ("array_pattern",
    seq ["[", commaSep (opt (choice [ref "pattern", ref "assignment_pattern"])), "]"])]

end ComponentLikeness.Tsx
