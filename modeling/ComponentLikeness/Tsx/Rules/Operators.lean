import ComponentLikeness.Grammar.Rule

/-!
# Operators

Grammar rules: assignment, unary, binary and conditional expressions.
-/

namespace ComponentLikeness.Tsx

open Grammar Grammar.Rule

/-- Assignment, unary, binary and conditional expressions. -/
def operatorsRules : List (String × Rule) := [
  ("assignment_expression",
    precRight "assign" (
      seq [
        opt "using",
        field "left" (choice [ref "parenthesized_expression", ref "_lhs_expression"]), "=",
        field "right" (ref "expression")])),
  ("_augmented_assignment_lhs",
    choice [
      choice [
        ref "member_expression", ref "subscript_expression",
        shown (ref "_reserved_identifier") "identifier", ref "identifier",
        ref "parenthesized_expression"],
      ref "non_null_expression"]),
  ("augmented_assignment_expression",
    precRight "assign" (
      seq [
        field "left" (ref "_augmented_assignment_lhs"),
        field "operator" (
          choice [
            "+=", "-=", "*=", "/=", "%=", "^=", "&=", "|=", ">>=", ">>>=", "<<=", "**=",
            "&&=", "||=", "??="]),
        field "right" (ref "expression")])),
  ("_initializer", seq ["=", field "value" (ref "expression")]),
  ("_destructuring_pattern", choice [ref "object_pattern", ref "array_pattern"]),
  ("spread_element", seq ["...", ref "expression"]),
  ("ternary_expression",
    precRight "ternary" (
      seq [
        field "condition" (ref "expression"), shownText (ref "_ternary_qmark") "?",
        field "consequence" (ref "expression"), ":", field "alternative" (ref "expression")])),
  ("binary_expression",
    choice [
      precLeft "logical_and" (
        seq [
          field "left" (ref "expression"), field "operator" "&&",
          field "right" (ref "expression")]),
      precLeft "logical_or" (
        seq [
          field "left" (ref "expression"), field "operator" "||",
          field "right" (ref "expression")]),
      precLeft "binary_shift" (
        seq [
          field "left" (ref "expression"), field "operator" ">>",
          field "right" (ref "expression")]),
      precLeft "binary_shift" (
        seq [
          field "left" (ref "expression"), field "operator" ">>>",
          field "right" (ref "expression")]),
      precLeft "binary_shift" (
        seq [
          field "left" (ref "expression"), field "operator" "<<",
          field "right" (ref "expression")]),
      precLeft "bitwise_and" (
        seq [
          field "left" (ref "expression"), field "operator" "&",
          field "right" (ref "expression")]),
      precLeft "bitwise_xor" (
        seq [
          field "left" (ref "expression"), field "operator" "^",
          field "right" (ref "expression")]),
      precLeft "bitwise_or" (
        seq [
          field "left" (ref "expression"), field "operator" "|",
          field "right" (ref "expression")]),
      precLeft "binary_plus" (
        seq [
          field "left" (ref "expression"), field "operator" "+",
          field "right" (ref "expression")]),
      precLeft "binary_plus" (
        seq [
          field "left" (ref "expression"), field "operator" "-",
          field "right" (ref "expression")]),
      precLeft "binary_times" (
        seq [
          field "left" (ref "expression"), field "operator" "*",
          field "right" (ref "expression")]),
      precLeft "binary_times" (
        seq [
          field "left" (ref "expression"), field "operator" "/",
          field "right" (ref "expression")]),
      precLeft "binary_times" (
        seq [
          field "left" (ref "expression"), field "operator" "%",
          field "right" (ref "expression")]),
      precRight "binary_exp" (
        seq [
          field "left" (ref "expression"), field "operator" "**",
          field "right" (ref "expression")]),
      precLeft "binary_relation" (
        seq [
          field "left" (ref "expression"), field "operator" "<",
          field "right" (ref "expression")]),
      precLeft "binary_relation" (
        seq [
          field "left" (ref "expression"), field "operator" "<=",
          field "right" (ref "expression")]),
      precLeft "binary_equality" (
        seq [
          field "left" (ref "expression"), field "operator" "==",
          field "right" (ref "expression")]),
      precLeft "binary_equality" (
        seq [
          field "left" (ref "expression"), field "operator" "===",
          field "right" (ref "expression")]),
      precLeft "binary_equality" (
        seq [
          field "left" (ref "expression"), field "operator" "!=",
          field "right" (ref "expression")]),
      precLeft "binary_equality" (
        seq [
          field "left" (ref "expression"), field "operator" "!==",
          field "right" (ref "expression")]),
      precLeft "binary_relation" (
        seq [
          field "left" (ref "expression"), field "operator" ">=",
          field "right" (ref "expression")]),
      precLeft "binary_relation" (
        seq [
          field "left" (ref "expression"), field "operator" ">",
          field "right" (ref "expression")]),
      precLeft "ternary" (
        seq [
          field "left" (ref "expression"), field "operator" "??",
          field "right" (ref "expression")]),
      precLeft "binary_relation" (
        seq [
          field "left" (ref "expression"), field "operator" "instanceof",
          field "right" (ref "expression")]),
      precLeft "binary_relation" (
        seq [
          field "left" (choice [ref "expression", ref "private_property_identifier"]),
          field "operator" "in", field "right" (ref "expression")])]),
  ("unary_expression",
    precLeft "unary_void" (
      seq [
        field "operator" (choice ["!", "~", "-", "+", "typeof", "void", "delete"]),
        field "argument" (ref "expression")])),
  ("update_expression",
    levelLeft 0 (
      choice [
        seq [field "argument" (ref "expression"), field "operator" (choice ["++", "--"])],
        seq [field "operator" (choice ["++", "--"]), field "argument" (ref "expression")]])),
  ("sequence_expression", levelRight 0 (commaSep1 (ref "expression")))]

end ComponentLikeness.Tsx
