import ComponentLikeness.Grammar.Rule

/-!
# Types

Grammar rules: annotations and the type expressions they hold.
-/

namespace ComponentLikeness.Tsx

open Grammar Grammar.Rule

/-- Annotations and the type expressions they hold. -/
def typesRules : List (String × Rule) := [
  ("omitting_type_annotation", seq ["-?:", ref "type"]),
  ("adding_type_annotation", seq ["+?:", ref "type"]),
  ("opting_type_annotation", seq ["?:", ref "type"]),
  ("type_annotation", seq [":", ref "type"]),
  ("_type_query_member_expression_in_type_annotation",
    seq [
      field "object" (
        choice [
          ref "import",
          shown (ref (
                   "_type_query_member_expression_in_type_annotation")) "member_expression",
          shown (ref "_type_query_call_expression_in_type_annotation") "call_expression"]),
      ".",
      field "property" (
        choice [
          ref "private_property_identifier", shown (ref "identifier") "property_identifier"])]),
  ("_type_query_call_expression_in_type_annotation",
    seq [
      field "function" (
        choice [
          ref "import",
          shown (ref (
                   "_type_query_member_expression_in_type_annotation")) "member_expression"]),
      field "arguments" (ref "arguments")]),
  ("asserts", seq ["asserts", choice [ref "type_predicate", ref "identifier", ref "this"]]),
  ("asserts_annotation", seq [":", ref "asserts"]),
  ("type",
    choice [
      ref "primary_type", ref "function_type", ref "readonly_type", ref "constructor_type",
      ref "infer_type",
      level (-1) (
        shown (ref "_type_query_member_expression_in_type_annotation") "member_expression"),
      level (-1) (
        shown (ref "_type_query_call_expression_in_type_annotation") "call_expression")]),
  ("tuple_parameter",
    seq [
      field "name" (choice [ref "identifier", ref "rest_pattern"]),
      field "type" (ref "type_annotation")]),
  ("optional_tuple_parameter",
    seq [field "name" (ref "identifier"), "?", field "type" (ref "type_annotation")]),
  ("optional_type", seq [ref "type", "?"]),
  ("rest_type", seq ["...", ref "type"]),
  ("_tuple_type_member",
    choice [
      shown (ref "tuple_parameter") "required_parameter",
      shown (ref "optional_tuple_parameter") "optional_parameter", ref "optional_type",
      ref "rest_type", ref "type"]),
  ("constructor_type",
    levelLeft 0 (
      seq [
        opt "abstract", "new", opt (field "type_parameters" (ref "type_parameters")),
        field "parameters" (ref "formal_parameters"), "=>", field "type" (ref "type")])),
  ("primary_type",
    choice [
      ref "parenthesized_type", ref "predefined_type", ref "_type_identifier",
      ref "nested_type_identifier", ref "generic_type", ref "object_type", ref "array_type",
      ref "tuple_type", ref "flow_maybe_type", ref "type_query", ref "index_type_query",
      shown (ref "this") "this_type", ref "existential_type", ref "literal_type",
      ref "lookup_type", ref "conditional_type", ref "template_literal_type",
      ref "intersection_type", ref "union_type", "const"]),
  ("template_type", seq ["$\x7b", choice [ref "primary_type", ref "infer_type"], "\x7d"]),
  ("template_literal_type",
    seq [
      "`",
      many (choice [shown (ref "_template_chars") "string_fragment", ref "template_type"]),
      "`"]),
  ("infer_type",
    levelRight 0 (
      seq ["infer", ref "_type_identifier", opt (seq ["extends", ref "type"])])),
  ("conditional_type",
    levelRight 0 (
      seq [
        field "left" (ref "type"), "extends", field "right" (ref "type"), "?",
        field "consequence" (ref "type"), ":", field "alternative" (ref "type")])),
  ("generic_type",
    prec "call" (
      seq [
        field "name" (choice [ref "_type_identifier", ref "nested_type_identifier"]),
        field "type_arguments" (ref "type_arguments")])),
  ("type_predicate",
    seq [
      field "name" (
        choice [ref "identifier", ref "this", shown (ref "predefined_type") "identifier"]),
      "is", field "type" (ref "type")]),
  ("type_predicate_annotation", seq [":", ref "type_predicate"]),
  ("_type_query_member_expression",
    seq [
      field "object" (
        choice [
          ref "identifier", ref "this",
          shown (ref "_type_query_subscript_expression") "subscript_expression",
          shown (ref "_type_query_member_expression") "member_expression",
          shown (ref "_type_query_call_expression") "call_expression"]),
      choice [".", "?."],
      field "property" (
        choice [
          ref "private_property_identifier", shown (ref "identifier") "property_identifier"])]),
  ("_type_query_subscript_expression",
    seq [
      field "object" (
        choice [
          ref "identifier", ref "this",
          shown (ref "_type_query_subscript_expression") "subscript_expression",
          shown (ref "_type_query_member_expression") "member_expression",
          shown (ref "_type_query_call_expression") "call_expression"]),
      opt "?.", "[",
      field "index" (choice [ref "predefined_type", ref "string", ref "number"]), "]"]),
  ("_type_query_call_expression",
    seq [
      field "function" (
        choice [
          ref "import", ref "identifier",
          shown (ref "_type_query_member_expression") "member_expression",
          shown (ref "_type_query_subscript_expression") "subscript_expression"]),
      field "arguments" (ref "arguments")]),
  ("_type_query_instantiation_expression",
    seq [
      field "function" (
        choice [
          ref "import", ref "identifier",
          shown (ref "_type_query_member_expression") "member_expression",
          shown (ref "_type_query_subscript_expression") "subscript_expression"]),
      field "type_arguments" (ref "type_arguments")]),
  ("type_query",
    levelRight 0 (
      seq [
        "typeof",
        choice [
          shown (ref "_type_query_subscript_expression") "subscript_expression",
          shown (ref "_type_query_member_expression") "member_expression",
          shown (ref "_type_query_call_expression") "call_expression",
          shown (ref "_type_query_instantiation_expression") "instantiation_expression",
          ref "identifier", ref "this"]])),
  ("index_type_query", seq ["keyof", ref "primary_type"]),
  ("lookup_type", seq [ref "primary_type", "[", ref "type", "]"]),
  ("mapped_type_clause",
    seq [
      field "name" (ref "_type_identifier"), "in", field "type" (ref "type"),
      opt (seq ["as", field "alias" (ref "type")])]),
  ("literal_type",
    choice [
      shown (ref "_number") "unary_expression", ref "number", ref "string", ref "true",
      ref "false", ref "null", ref "undefined"]),
  ("_number",
    levelLeft 1 (
      seq [field "operator" (choice ["-", "+"]), field "argument" (ref "number")])),
  ("existential_type", text "*"),
  ("flow_maybe_type", levelRight 0 (seq ["?", ref "primary_type"])),
  ("parenthesized_type", seq ["(", ref "type", ")"]),
  ("predefined_type",
    choice [
      "any", "number", "boolean", "string", "symbol",
      shownText (seq ["unique", "symbol"]) "unique symbol", "void", "unknown", "string",
      "never", "object"]),
  ("type_arguments", seq ["<", commaSep1 (ref "type"), opt ",", ">"]),
  ("object_type",
    seq [
      choice ["\x7b", "\x7b|"],
      opt (
        seq [
          opt (choice [",", ";"]),
          seq [
            choice [
              ref "export_statement", ref "property_signature", ref "call_signature",
              ref "construct_signature", ref "index_signature", ref "method_signature"],
            many (
              seq [
                choice [",", ref "_semicolon"],
                choice [
                  ref "export_statement", ref "property_signature", ref "call_signature",
                  ref "construct_signature", ref "index_signature", ref "method_signature"]])],
          opt (choice [",", ref "_semicolon"])]),
      choice ["\x7d", "|\x7d"]]),
  ("call_signature", ref "_call_signature"),
  ("property_signature",
    seq [
      opt (ref "accessibility_modifier"), opt "static", opt (ref "override_modifier"),
      opt "readonly", field "name" (ref "_property_name"), opt "?",
      opt (field "type" (ref "type_annotation"))]),
  ("type_parameters", seq ["<", commaSep1 (ref "type_parameter"), opt ",", ">"]),
  ("type_parameter",
    seq [
      opt "const", field "name" (ref "_type_identifier"),
      opt (field "constraint" (ref "constraint")), opt (field "value" (ref "default_type"))]),
  ("default_type", seq ["=", ref "type"]),
  ("constraint", seq [choice ["extends", ":"], ref "type"]),
  ("construct_signature",
    seq [
      opt "abstract", "new", opt (field "type_parameters" (ref "type_parameters")),
      field "parameters" (ref "formal_parameters"),
      opt (field "type" (ref "type_annotation"))]),
  ("index_signature",
    seq [
      opt (seq [opt (field "sign" (choice ["-", "+"])), "readonly"]), "[",
      choice [
        seq [
          field "name" (
            choice [ref "identifier", shown (ref "_reserved_identifier") "identifier"]),
          ":", field "index_type" (ref "type")],
        ref "mapped_type_clause"],
      "]",
      field "type" (
        choice [
          ref "type_annotation", ref "omitting_type_annotation",
          ref "adding_type_annotation", ref "opting_type_annotation"])]),
  ("array_type", seq [ref "primary_type", "[", "]"]),
  ("tuple_type", seq ["[", commaSep (ref "_tuple_type_member"), opt ",", "]"]),
  ("readonly_type", seq ["readonly", ref "type"]),
  ("union_type", levelLeft 0 (seq [opt (ref "type"), "|", ref "type"])),
  ("intersection_type", levelLeft 0 (seq [opt (ref "type"), "&", ref "type"])),
  ("function_type",
    levelLeft 0 (
      seq [
        opt (field "type_parameters" (ref "type_parameters")),
        field "parameters" (ref "formal_parameters"), "=>",
        field "return_type" (choice [ref "type", ref "asserts", ref "type_predicate"])])),
  ("_type_identifier", shown (ref "identifier") "type_identifier")]

end ComponentLikeness.Tsx
