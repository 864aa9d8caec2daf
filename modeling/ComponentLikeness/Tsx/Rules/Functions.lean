import ComponentLikeness.Grammar.Rule

/-!
# Classes, functions and calls

Grammar rules: declarations and expressions of classes and functions, calls and member access.
-/

namespace ComponentLikeness.Tsx

open Grammar Grammar.Rule

/-- Declarations and expressions of classes and functions, calls and member access. -/
def functionsRules : List (String × Rule) := [
  ("class",
    prec "literal" (
      seq [
        many (field "decorator" (ref "decorator")), "class",
        opt (field "name" (ref "_type_identifier")),
        opt (field "type_parameters" (ref "type_parameters")), opt (ref "class_heritage"),
        field "body" (ref "class_body")])),
  ("class_declaration",
    precLeft "declaration" (
      seq [
        many (field "decorator" (ref "decorator")), "class",
        field "name" (ref "_type_identifier"),
        opt (field "type_parameters" (ref "type_parameters")), opt (ref "class_heritage"),
        field "body" (ref "class_body"), opt (ref "_automatic_semicolon")])),
  ("class_heritage",
    choice [
      seq [ref "extends_clause", opt (ref "implements_clause")], ref "implements_clause"]),
  ("function_expression",
    prec "literal" (
      seq [
        opt "async", "function", opt (field "name" (ref "identifier")),
        ref "_call_signature", field "body" (ref "statement_block")])),
  ("function_declaration",
    precRight "declaration" (
      seq [
        opt "async", "function", field "name" (ref "identifier"), ref "_call_signature",
        field "body" (ref "statement_block"), opt (ref "_automatic_semicolon")])),
  ("generator_function",
    prec "literal" (
      seq [
        opt "async", "function", "*", opt (field "name" (ref "identifier")),
        ref "_call_signature", field "body" (ref "statement_block")])),
  ("generator_function_declaration",
    precRight "declaration" (
      seq [
        opt "async", "function", "*", field "name" (ref "identifier"),
        ref "_call_signature", field "body" (ref "statement_block"),
        opt (ref "_automatic_semicolon")])),
  ("arrow_function",
    seq [
      opt "async",
      choice [
        field "parameter" (
          choice [shown (ref "_reserved_identifier") "identifier", ref "identifier"]),
        ref "_call_signature"],
      "=>", field "body" (choice [ref "expression", ref "statement_block"])]),
  ("_call_signature",
    seq [
      opt (field "type_parameters" (ref "type_parameters")),
      field "parameters" (ref "formal_parameters"),
      opt (
        field "return_type" (
          choice [
            ref "type_annotation", ref "asserts_annotation",
            ref "type_predicate_annotation"]))]),
  ("_formal_parameter", choice [ref "required_parameter", ref "optional_parameter"]),
  ("optional_chain", text "?."),
  ("call_expression",
    choice [
      prec "call" (
        seq [
          field "function" (choice [ref "expression", ref "import"]),
          opt (field "type_arguments" (ref "type_arguments")),
          field "arguments" (ref "arguments")]),
      prec "template_call" (
        seq [
          field "function" (choice [ref "primary_expression", ref "new_expression"]),
          field "arguments" (ref "template_string")]),
      prec "member" (
        seq [
          field "function" (ref "primary_expression"), "?.",
          opt (field "type_arguments" (ref "type_arguments")),
          field "arguments" (ref "arguments")])]),
  ("new_expression",
    precRight "new" (
      seq [
        "new", field "constructor" (ref "primary_expression"),
        opt (field "type_arguments" (ref "type_arguments")),
        opt (field "arguments" (ref "arguments"))])),
  ("await_expression", prec "unary_void" (seq ["await", ref "expression"])),
  ("member_expression",
    prec "member" (
      seq [
        field "object" (choice [ref "expression", ref "primary_expression", ref "import"]),
        choice [".", field "optional_chain" (ref "optional_chain")],
        field "property" (
          choice [
            ref "private_property_identifier",
            shown (ref "identifier") "property_identifier"])])),
  ("subscript_expression",
    precRight "member" (
      seq [
        field "object" (choice [ref "expression", ref "primary_expression"]),
        opt (field "optional_chain" (ref "optional_chain")), "[",
        field "index" (ref "_expressions"), "]"])),
  ("_lhs_expression",
    choice [
      choice [
        ref "member_expression", ref "subscript_expression", ref "_identifier",
        shown (ref "_reserved_identifier") "identifier", ref "_destructuring_pattern"],
      ref "non_null_expression"])]

end ComponentLikeness.Tsx
