import ComponentLikeness.Grammar.Rule

/-!
# Decorators and class members

Grammar rules: what may stand in a class body, a parameter list or an object literal.
-/

namespace ComponentLikeness.Tsx

open Grammar Grammar.Rule

/-- What may stand in a class body, a parameter list or an object literal. -/
def membersRules : List (String × Rule) := [
  ("decorator",
    seq [
      "@",
      choice [
        ref "identifier", shown (ref "decorator_member_expression") "member_expression",
        shown (ref "decorator_call_expression") "call_expression",
        shown (ref "decorator_parenthesized_expression") "parenthesized_expression"]]),
  ("decorator_member_expression",
    prec "member" (
      seq [
        field "object" (
          choice [
            ref "identifier", shown (ref "decorator_member_expression") "member_expression"]),
        ".", field "property" (shown (ref "identifier") "property_identifier")])),
  ("decorator_call_expression",
    prec "call" (
      seq [
        field "function" (
          choice [
            ref "identifier", shown (ref "decorator_member_expression") "member_expression"]),
        opt (field "type_arguments" (ref "type_arguments")),
        field "arguments" (ref "arguments")])),
  ("class_body",
    seq [
      "\x7b",
      many (
        choice [
          seq [
            many (field "decorator" (ref "decorator")), ref "method_definition",
            opt (ref "_semicolon")],
          seq [
            ref "method_signature",
            choice [ref "_function_signature_automatic_semicolon", ","]],
          ref "class_static_block",
          seq [
            choice [
              ref "abstract_method_signature", ref "index_signature",
              ref "method_signature", ref "public_field_definition"],
            choice [ref "_semicolon", ","]],
          ";"]),
      "\x7d"]),
  ("field_definition",
    seq [
      many (field "decorator" (ref "decorator")), opt "static",
      field "property" (ref "_property_name"), opt (ref "_initializer")]),
  ("formal_parameters",
    seq ["(", opt (seq [commaSep1 (ref "_formal_parameter"), opt ","]), ")"]),
  ("class_static_block",
    seq ["static", opt (ref "_automatic_semicolon"), field "body" (ref "statement_block")]),
  ("pattern", dynamic (-1) (choice [ref "_lhs_expression", ref "rest_pattern"])),
  ("rest_pattern", levelRight 0 (seq ["...", ref "_lhs_expression"])),
  ("method_definition",
    levelLeft 0 (
      seq [
        opt (ref "accessibility_modifier"), opt "static", opt (ref "override_modifier"),
        opt "readonly", opt "async", opt (choice ["get", "set", "*"]),
        field "name" (ref "_property_name"), opt "?", ref "_call_signature",
        field "body" (ref "statement_block")])),
  ("pair", seq [field "key" (ref "_property_name"), ":", field "value" (ref "expression")]),
  ("pair_pattern",
    seq [
      field "key" (ref "_property_name"), ":",
      field "value" (choice [ref "pattern", ref "assignment_pattern"])]),
  ("_property_name",
    choice [
      shown (choice [ref "identifier", ref "_reserved_identifier"]) "property_identifier",
      ref "private_property_identifier", ref "string", ref "number",
      ref "computed_property_name"]),
  ("computed_property_name", seq ["[", ref "expression", "]"]),
  ("_reserved_identifier",
    choice [
      "declare", "namespace", "type", "public", "private", "protected", "override",
      "readonly", "module", "any", "number", "boolean", "string", "symbol", "export",
      "object", "new", "readonly",
      choice ["get", "set", "async", "static", "export", "let"]]),
  ("_semicolon", choice [ref "_automatic_semicolon", ";"]),
  ("public_field_definition",
    seq [
      many (field "decorator" (ref "decorator")),
      opt (
        choice [
          seq ["declare", opt (ref "accessibility_modifier")],
          seq [ref "accessibility_modifier", opt "declare"]]),
      choice [
        seq [opt "static", opt (ref "override_modifier"), opt "readonly"],
        seq [opt "abstract", opt "readonly"], seq [opt "readonly", opt "abstract"],
        opt "accessor"],
      field "name" (ref "_property_name"), opt (choice ["?", "!"]),
      opt (field "type" (ref "type_annotation")), opt (ref "_initializer")]),
  ("_jsx_start_opening_element",
    seq [
      "<",
      opt (
        seq [
          choice [
            field "name" (choice [ref "_jsx_identifier", ref "jsx_namespace_name"]),
            seq [
              field "name" (
                choice [
                  ref "identifier", shown (ref "nested_identifier") "member_expression"]),
              opt (field "type_arguments" (ref "type_arguments"))]],
          many (field "attribute" (ref "_jsx_attribute"))])])]

end ComponentLikeness.Tsx
