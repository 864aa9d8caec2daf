import ComponentLikeness.Tsx.Rules.Modules
import ComponentLikeness.Tsx.Rules.Statements
import ComponentLikeness.Tsx.Rules.Operands
import ComponentLikeness.Tsx.Rules.Markup
import ComponentLikeness.Tsx.Rules.Functions
import ComponentLikeness.Tsx.Rules.Operators
import ComponentLikeness.Tsx.Rules.Literals
import ComponentLikeness.Tsx.Rules.Members
import ComponentLikeness.Tsx.Rules.Declarations
import ComponentLikeness.Tsx.Rules.Types
import ComponentLikeness.Grammar.Production

/-!
# The TSX grammar

The rules gathered into one grammar, with the lists of precedences that
settle its conflicts.
-/

namespace ComponentLikeness.Tsx

open Grammar

/-- A list of precedences: a name with a leading `=` is a rule's own name. -/
def precedenceList (entries : List String) : List PrecedenceEntry :=
  entries.map fun entry =>
    if entry.startsWith "=" then .rule (entry.drop 1).toString else .level entry

/-- Precedences, each list from the strongest to the weakest. -/
def precedences : List (List PrecedenceEntry) := List.map precedenceList [
  ["member", "template_call", "call", "=update_expression", "unary_void", "binary_exp",
    "binary_times", "binary_plus", "binary_shift", "binary_compare", "binary_relation",
    "binary_equality", "bitwise_and", "bitwise_xor", "bitwise_or", "logical_and",
    "logical_or", "ternary", "=sequence_expression", "=arrow_function"],
  ["assign", "=primary_expression"],
  ["member", "template_call", "new", "call", "=expression"],
  ["declaration", "literal"],
  ["=primary_expression", "=statement_block", "object"],
  ["=meta_property", "=import"],
  ["=import_statement", "=import"],
  ["=export_statement", "=primary_expression"],
  ["=lexical_declaration", "=primary_expression"],
  ["call", "instantiation", "unary", "binary", "=await_expression", "=arrow_function"],
  ["extends", "instantiation"],
  ["=intersection_type", "=union_type", "=conditional_type", "=function_type",
    "binary", "=type_predicate", "=readonly_type"],
  ["=mapped_type_clause", "=primary_expression"],
  ["=accessibility_modifier", "=primary_expression"],
  ["unary_void", "=expression"],
  ["=extends_clause", "=primary_expression"],
  ["unary", "assign"],
  ["declaration", "=expression"],
  ["=predefined_type", "=unary_expression"],
  ["=type", "=flow_maybe_type"],
  ["=tuple_type", "=array_type", "=pattern", "=type"],
  ["=readonly_type", "=pattern"],
  ["=readonly_type", "=primary_expression"],
  ["=type_query", "=subscript_expression", "=expression"],
  ["=type_query", "=_type_query_subscript_expression"],
  ["=nested_type_identifier", "=generic_type", "=primary_type", "=lookup_type",
    "=index_type_query", "=type"],
  ["=as_expression", "=satisfies_expression", "=primary_type"],
  ["=_type_query_member_expression", "=member_expression"],
  ["=member_expression", "=_type_query_member_expression_in_type_annotation"],
  ["=_type_query_member_expression", "=primary_expression"],
  ["=_type_query_subscript_expression", "=subscript_expression"],
  ["=_type_query_subscript_expression", "=primary_expression"],
  ["=_type_query_call_expression", "=primary_expression"],
  ["=_type_query_instantiation_expression", "=primary_expression"],
  ["=type_query", "=primary_expression"],
  ["=override_modifier", "=primary_expression"],
  ["=decorator_call_expression", "=decorator"],
  ["=literal_type", "=pattern"],
  ["=predefined_type", "=pattern"],
  ["=call_expression", "=_type_query_call_expression"],
  ["=call_expression", "=_type_query_call_expression_in_type_annotation"],
  ["=new_expression", "=primary_expression"],
  ["=meta_property", "=primary_expression"],
  ["=construct_signature", "=_property_name"]]

/-- The tokens that depend on more than the characters ahead, in the order in
which the context scanner numbers them. -/
def contextualTokens : List String := [
  "_automatic_semicolon", "_template_chars", "_ternary_qmark", "html_comment", "||",
  "escape_sequence", "regex_pattern", "jsx_text", "_function_signature_automatic_semicolon",
  "__error_recovery"]

/-- The grammar of TSX sources. -/
def grammar : Definition where
  rules := modulesRules ++ statementsRules ++ operandsRules ++ markupRules ++ functionsRules ++
    operatorsRules ++ literalsRules ++ membersRules ++ declarationsRules ++ typesRules
  blanks := blanks
  extras := ["comment", "html_comment"]
  word := "identifier"
  contextual := contextualTokens
  inline := [
    "_expressions", "_semicolon", "_identifier", "_reserved_identifier", "_jsx_attribute",
    "_jsx_element_name", "_jsx_child", "_jsx_element", "_jsx_attribute_name",
    "_jsx_attribute_value", "_jsx_identifier", "_lhs_expression", "_type_identifier",
    "_jsx_start_opening_element"]
  supertypes := [
    "statement", "declaration", "expression", "primary_expression", "pattern", "type",
    "primary_type"]
  precedences := precedences

/-- The grammar with its terminals and nonterminals numbered. -/
def numberedGrammar : NumberedGrammar := grammar.numbered

end ComponentLikeness.Tsx
