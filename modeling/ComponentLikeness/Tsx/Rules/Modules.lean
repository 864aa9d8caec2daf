import ComponentLikeness.Tsx.Lexicon

/-!
# Modules

Grammar rules: what a file exports and imports.
-/

namespace ComponentLikeness.Tsx

open Grammar Grammar.Rule

/-- What a file exports and imports. -/
def modulesRules : List (String × Rule) := [
  ("program", seq [opt (ref "hash_bang_line"), many (ref "statement")]),
  ("hash_bang_line", .token hashBangLine),
  ("export_statement",
    choice [
      choice [
        seq [
          "export",
          choice [
            seq ["*", ref "_from_clause"], seq [ref "namespace_export", ref "_from_clause"],
            seq [ref "export_clause", ref "_from_clause"], ref "export_clause"],
          ref "_semicolon"],
        seq [
          many (field "decorator" (ref "decorator")), "export",
          choice [
            field "declaration" (ref "declaration"),
            seq [
              "default",
              choice [
                field "declaration" (ref "declaration"),
                seq [field "value" (ref "expression"), ref "_semicolon"]]]]]],
      seq [
        "export", "type", ref "export_clause", opt (ref "_from_clause"), ref "_semicolon"],
      seq ["export", "=", ref "expression", ref "_semicolon"],
      seq ["export", "as", "namespace", ref "identifier", ref "_semicolon"]]),
  ("namespace_export", seq ["*", "as", ref "_module_export_name"]),
  ("export_clause", seq ["\x7b", commaSep (ref "export_specifier"), opt ",", "\x7d"]),
  ("export_specifier",
    seq [
      opt (choice ["type", "typeof"]),
      seq [
        field "name" (ref "_module_export_name"),
        opt (seq ["as", field "alias" (ref "_module_export_name")])]]),
  ("_module_export_name", choice [ref "identifier", ref "string"]),
  ("declaration",
    choice [
      choice [
        ref "function_declaration", ref "generator_function_declaration",
        ref "class_declaration", ref "lexical_declaration", ref "variable_declaration"],
      ref "function_signature", ref "abstract_class_declaration", ref "module",
      prec "declaration" (ref "internal_module"), ref "type_alias_declaration",
      ref "enum_declaration", ref "interface_declaration", ref "import_alias",
      ref "ambient_declaration"]),
  ("import", text "import"),
  ("import_statement",
    seq [
      "import", opt (choice ["type", "typeof"]),
      choice [
        seq [ref "import_clause", ref "_from_clause"], ref "import_require_clause",
        field "source" (ref "string")],
      opt (ref "import_attribute"), ref "_semicolon"]),
  ("import_clause",
    choice [
      ref "namespace_import", ref "named_imports",
      seq [
        ref "_import_identifier",
        opt (seq [",", choice [ref "namespace_import", ref "named_imports"]])]]),
  ("_from_clause", seq ["from", field "source" (ref "string")]),
  ("namespace_import", seq ["*", "as", ref "identifier"]),
  ("named_imports", seq ["\x7b", commaSep (ref "import_specifier"), opt ",", "\x7d"]),
  ("import_specifier",
    seq [
      opt (choice ["type", "typeof"]),
      choice [
        field "name" (ref "_import_identifier"),
        seq [
          field "name" (choice [ref "_module_export_name", shown "type" "identifier"]),
          "as", field "alias" (ref "_import_identifier")]]]),
  ("import_attribute", seq [choice ["with", "assert"], ref "object"])]

end ComponentLikeness.Tsx
