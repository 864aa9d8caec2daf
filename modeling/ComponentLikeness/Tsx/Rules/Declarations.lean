import ComponentLikeness.Grammar.Rule

/-!
# Typed declarations

Grammar rules: interfaces, enums, namespaces, type aliases and typed parameters.
-/

namespace ComponentLikeness.Tsx

open Grammar Grammar.Rule

/-- Interfaces, enums, namespaces, type aliases and typed parameters. -/
def declarationsRules : List (String × Rule) := [
  ("_import_identifier", choice [ref "identifier", shown "type" "identifier"]),
  ("non_null_expression", precLeft "unary" (seq [ref "expression", "!"])),
  ("method_signature",
    seq [
      opt (ref "accessibility_modifier"), opt "static", opt (ref "override_modifier"),
      opt "readonly", opt "async", opt (choice ["get", "set", "*"]),
      field "name" (ref "_property_name"), opt "?", ref "_call_signature"]),
  ("abstract_method_signature",
    seq [
      opt (ref "accessibility_modifier"), "abstract", opt (ref "override_modifier"),
      opt (choice ["get", "set", "*"]), field "name" (ref "_property_name"), opt "?",
      ref "_call_signature"]),
  ("function_signature",
    seq [
      opt "async", "function", field "name" (ref "identifier"), ref "_call_signature",
      choice [ref "_semicolon", ref "_function_signature_automatic_semicolon"]]),
  ("decorator_parenthesized_expression",
    seq [
      "(",
      choice [
        ref "identifier", shown (ref "decorator_member_expression") "member_expression",
        shown (ref "decorator_call_expression") "call_expression"],
      ")"]),
  ("type_assertion", precLeft "unary" (seq [ref "type_arguments", ref "expression"])),
  ("as_expression",
    precLeft "binary" (seq [ref "expression", "as", choice ["const", ref "type"]])),
  ("satisfies_expression",
    precLeft "binary" (seq [ref "expression", "satisfies", ref "type"])),
  ("instantiation_expression",
    prec "instantiation" (
      seq [ref "expression", field "type_arguments" (ref "type_arguments")])),
  ("import_require_clause",
    seq [ref "identifier", "=", "require", "(", field "source" (ref "string"), ")"]),
  ("extends_clause", seq ["extends", commaSep1 (ref "_extends_clause_single")]),
  ("_extends_clause_single",
    prec "extends" (
      seq [
        field "value" (ref "expression"),
        opt (field "type_arguments" (ref "type_arguments"))])),
  ("implements_clause", seq ["implements", commaSep1 (ref "type")]),
  ("ambient_declaration",
    seq [
      "declare",
      choice [
        ref "declaration", seq ["global", ref "statement_block"],
        seq [
          "module", ".", shown (ref "identifier") "property_identifier", ":", ref "type",
          ref "_semicolon"]]]),
  ("abstract_class_declaration",
    prec "declaration" (
      seq [
        many (field "decorator" (ref "decorator")), "abstract", "class",
        field "name" (ref "_type_identifier"),
        opt (field "type_parameters" (ref "type_parameters")), opt (ref "class_heritage"),
        field "body" (ref "class_body")])),
  ("module", seq ["module", ref "_module"]),
  ("internal_module", seq ["namespace", ref "_module"]),
  ("_module",
    levelRight 0 (
      seq [
        field "name" (choice [ref "string", ref "identifier", ref "nested_identifier"]),
        opt (field "body" (ref "statement_block"))])),
  ("import_alias",
    seq [
      "import", ref "identifier", "=", choice [ref "identifier", ref "nested_identifier"],
      ref "_semicolon"]),
  ("nested_type_identifier",
    prec "member" (
      seq [
        field "module" (choice [ref "identifier", ref "nested_identifier"]), ".",
        field "name" (ref "_type_identifier")])),
  ("interface_declaration",
    seq [
      "interface", field "name" (ref "_type_identifier"),
      opt (field "type_parameters" (ref "type_parameters")),
      opt (ref "extends_type_clause"),
      field "body" (shown (ref "object_type") "interface_body")]),
  ("extends_type_clause",
    seq [
      "extends",
      commaSep1 (
        field "type" (
          choice [
            ref "_type_identifier", ref "nested_type_identifier", ref "generic_type"]))]),
  ("enum_declaration",
    seq [
      opt "const", "enum", field "name" (ref "identifier"), field "body" (ref "enum_body")]),
  ("enum_body",
    seq [
      "\x7b",
      opt (
        seq [
          commaSep1 (choice [field "name" (ref "_property_name"), ref "enum_assignment"]),
          opt ","]),
      "\x7d"]),
  ("enum_assignment", seq [field "name" (ref "_property_name"), ref "_initializer"]),
  ("type_alias_declaration",
    seq [
      "type", field "name" (ref "_type_identifier"),
      opt (field "type_parameters" (ref "type_parameters")), "=",
      field "value" (ref "type"), ref "_semicolon"]),
  ("accessibility_modifier", choice ["public", "private", "protected"]),
  ("override_modifier", text "override"),
  ("required_parameter",
    seq [
      ref "_parameter_name", opt (field "type" (ref "type_annotation")),
      opt (ref "_initializer")]),
  ("optional_parameter",
    seq [
      ref "_parameter_name", "?", opt (field "type" (ref "type_annotation")),
      opt (ref "_initializer")]),
  ("_parameter_name",
    seq [
      many (field "decorator" (ref "decorator")), opt (ref "accessibility_modifier"),
      opt (ref "override_modifier"), opt "readonly",
      field "pattern" (choice [ref "pattern", ref "this"])])]

end ComponentLikeness.Tsx
