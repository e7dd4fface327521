import BuildScan.Go.Terminal
import BuildScan.Parsing.Phrase

/-!
The grammar of Go files, as phrases.  Statements and declarations stand at the top level in any
order and any mixture, so that a file without its package clause, or half of a file, still has a
tree.  Every statement there needs its terminator; only a declaration that is none of a constant, a
variable or a type may be the last thing in a file without one.

The weights decide between readings that the text leaves open: `a[b]` is an index rather than a type
with arguments unless a type must stand there.
-/

namespace BuildScan.Go.Syntax

open BuildScan.Parsing BuildScan.Parsing.Phrase

/-- The phrases of the grammar. -/
abbrev GoPhrase := Phrase Terminal

/-- A keyword, an operator or a mark. -/
def word (text : String) : GoPhrase := .token (.fixed text)

instance : Coe String GoPhrase := ⟨word⟩

instance : Coe Terminal GoPhrase := ⟨Phrase.token⟩

def all (ps : List GoPhrase) : GoPhrase := .seq ps

def any (ps : List GoPhrase) : GoPhrase := .choice ps

/-- One of some operators or keywords. -/
def oneOf (texts : List String) : GoPhrase := .choice (texts.map word)

def commaList (p : GoPhrase) : GoPhrase := sepBy "," p

def terminator : GoPhrase := any [Terminal.lineEnd, ";", "\x00"]

/-- Some items, each with its terminator. -/
def eachTerminated (p : GoPhrase) : GoPhrase := many (all [p, terminator])

/-- No items, or some with terminators between them and perhaps one behind the last. -/
def terminated (p : GoPhrase) : GoPhrase :=
  opt (all [p, many (all [terminator, p]), opt terminator])

/-- A rule for a node. -/
def node (name : String) (phrase : GoPhrase) (rank : Rank := {}) (weight : Int := 0) :
    Rule Terminal :=
  ⟨name, true, [⟨phrase, rank, weight⟩]⟩

/-- A rule for a class of nodes. -/
def group (name : String) (parts : List String) : Rule Terminal :=
  ⟨name, false, parts.map fun p => ⟨.part p, {}, 0⟩⟩

def leftward : Rank := ⟨0, some .left⟩

def rightward : Rank := ⟨0, some .right⟩

/-- Calls, selections and indices bind closest. -/
def suffixRank : Rank := ⟨7, none⟩

def prefixRank : Rank := ⟨6, none⟩

def literalRank : Rank := ⟨-1, none⟩

/-! Names by their use -/

def name : GoPhrase := Terminal.name

def packageName : GoPhrase := .called "package_identifier" name

def typeName : GoPhrase := .called "type_identifier" name

def fieldName : GoPhrase := .called "field_identifier" name

def labelName : GoPhrase := .called "label_name" name

/-! Parts that other rules mention often -/

def expression : GoPhrase := .part "expression"

def expressions : GoPhrase := .part "expression_list"

def simpleType : GoPhrase := .part "simple_type"

def type : GoPhrase := any [simpleType, .part "parenthesized_type"]

def statement : GoPhrase := .part "statement"

def simpleStatement : GoPhrase := .part "simple_statement"

def block : GoPhrase := .part "block"

def string : GoPhrase := any [.part "raw_string_literal", .part "interpreted_string_literal"]

def parameters : GoPhrase := .part "parameter_list"

def typeParameters : GoPhrase := opt (.part "type_parameter_list")

def result : GoPhrase := opt (any [parameters, simpleType])

def topLevelDeclaration : GoPhrase :=
  any (["package_clause", "function_declaration", "method_declaration", "import_declaration"].map
    .part)

/-! Files and declarations -/

def fileRules : List (Rule Terminal) :=
  [node "source_file" (all
     [many (any [all [statement, terminator], all [topLevelDeclaration, terminator]]),
      opt topLevelDeclaration]),
   node "package_clause" (all ["package", packageName]),
   node "import_declaration" (all
     ["import", any [.part "import_spec", .part "import_spec_list"]]),
   node "dot" ".",
   node "import_spec" (all [opt (any [.part "dot", "_", packageName]), string]),
   node "import_spec_list" (all ["(", terminated (.part "import_spec"), ")"])]

def typeSpecs : GoPhrase := any [.part "type_spec", .part "type_alias"]

def values : GoPhrase := all ["=", expressions]

def declarationRules : List (Rule Terminal) :=
  [node "const_declaration" (all
     ["const", any [.part "const_spec", all ["(", eachTerminated (.part "const_spec"), ")"]]]),
   node "const_spec" (all [commaList name, opt (all [opt type, values])]) leftward,
   node "var_declaration" (all ["var", any [.part "var_spec", .part "var_spec_list"]]),
   node "var_spec" (all [commaList name, any [all [type, opt values], values]]),
   node "var_spec_list" (all ["(", eachTerminated (.part "var_spec"), ")"]),
   node "function_declaration"
     (all ["func", name, typeParameters, parameters, result, opt block]) ⟨1, some .right⟩,
   node "method_declaration"
     (all ["func", parameters, fieldName, parameters, result, opt block]) ⟨1, some .right⟩,
   node "type_parameter_list" (all
     ["[", commaList (.part "type_parameter_declaration"), opt ",", "]"]),
   node "type_parameter_declaration" (all [commaList name, .part "type_elem"]),
   node "parameter_list" (all
     ["(",
      opt (all
        [opt (commaList (any
          [.part "parameter_declaration", .part "variadic_parameter_declaration"])),
         opt ","]),
      ")"]),
   node "parameter_declaration" (all [opt (commaList name), type]),
   node "variadic_parameter_declaration" (all [opt name, "...", type]),
   node "type_alias" (all [typeName, typeParameters, "=", type]),
   node "type_declaration" (all
     ["type", any [.part "type_spec", .part "type_alias", all ["(", terminated typeSpecs, ")"]]]),
   node "type_spec" (all [typeName, typeParameters, type]),
   node "expression_list" (commaList expression)]

/-! Types -/

def namedType : GoPhrase := any [typeName, .part "qualified_type", .part "generic_type"]

def typeRules : List (Rule Terminal) :=
  [node "parenthesized_type" (all ["(", type, ")"]),
   ⟨"simple_type", false,
     ⟨typeName, {}, -1⟩ ::
       (["generic_type", "qualified_type", "pointer_type", "struct_type", "interface_type",
         "array_type", "slice_type", "map_type", "channel_type", "function_type",
         "negated_type"].map fun p => ⟨.part p, {}, 0⟩)⟩,
   node "generic_type" (all
     [any [typeName, .part "qualified_type", .part "negated_type"], .part "type_arguments"])
     {} 1,
   node "type_arguments" (all ["[", commaList (.part "type_elem"), opt ",", "]"]) {} 2,
   node "pointer_type" (all ["*", type]) prefixRank,
   node "array_type" (all ["[", expression, "]", type]) rightward,
   node "implicit_length_array_type" (all ["[", "...", "]", type]),
   node "slice_type" (all ["[", "]", type]) rightward,
   node "struct_type" (all ["struct", .part "field_declaration_list"]),
   node "negated_type" (all ["~", type]) leftward,
   node "field_declaration_list" (all
     ["\x7b", terminated (.part "field_declaration"), "\x7d"]),
   node "field_declaration" (all
     [any [all [commaList fieldName, type], all [opt "*", namedType]], opt string]),
   node "interface_type" (all
     ["interface", "\x7b", terminated (any [.part "method_elem", .part "type_elem"]), "\x7d"]),
   node "method_elem" (all [fieldName, parameters, result]),
   node "type_elem" (sepBy "|" type),
   node "map_type" (all ["map", "[", type, "]", type]) rightward,
   ⟨"channel_type", true,
     [⟨all ["chan", type], leftward, 0⟩,
      ⟨all ["chan", "<-", type], leftward, 0⟩,
      ⟨all ["<-", "chan", type], ⟨6, some .left⟩, 0⟩]⟩,
   node "function_type" (all ["func", parameters, result]) rightward]

/-! Statements -/

def emptyLabeled : GoPhrase := .part "empty_labeled_statement"

/-- What a control statement may start with. -/
def initializer : GoPhrase := opt (all [simpleStatement, ";"])

def assignments : List String :=
  ["*=", "/=", "%=", "<<=", ">>=", "&=", "&^=", "+=", "-=", "|=", "^=", "="]

/-- The values on the left of a definition or an assignment. -/
def assigned : GoPhrase := opt (all [expressions, oneOf ["=", ":="]])

def statements : GoPhrase := opt (.part "statement_list")

def statementRules : List (Rule Terminal) :=
  [node "block" (all ["\x7b", statements, "\x7d"]),
   node "statement_list" (any
     [all
       [statement, many (all [terminator, statement]), opt (all [terminator, opt emptyLabeled])],
      emptyLabeled]),
   group "statement"
     ["const_declaration", "type_declaration", "var_declaration", "simple_statement",
      "return_statement", "go_statement", "defer_statement", "if_statement", "for_statement",
      "expression_switch_statement", "type_switch_statement", "select_statement",
      "labeled_statement", "fallthrough_statement", "break_statement", "continue_statement",
      "goto_statement", "block", "empty_statement"],
   node "empty_statement" ";",
   group "simple_statement"
     ["expression_statement", "send_statement", "inc_statement", "dec_statement",
      "assignment_statement", "short_var_declaration"],
   node "expression_statement" expression,
   node "send_statement" (all [expression, "<-", expression]),
   node "receive_statement" (all [assigned, expression]),
   node "inc_statement" (all [expression, "++"]),
   node "dec_statement" (all [expression, "--"]),
   node "assignment_statement" (all [expressions, oneOf assignments, expressions]),
   node "short_var_declaration" (all [expressions, ":=", expressions]),
   node "labeled_statement" (all [labelName, ":", statement]),
   node "empty_labeled_statement" (all [labelName, ":"]),
   node "fallthrough_statement" "fallthrough" leftward,
   node "break_statement" (all ["break", opt labelName]),
   node "continue_statement" (all ["continue", opt labelName]),
   node "goto_statement" (all ["goto", labelName]),
   node "return_statement" (all ["return", opt expressions]),
   node "go_statement" (all ["go", expression]),
   node "defer_statement" (all ["defer", expression]),
   node "if_statement" (all
     ["if", initializer, expression, block,
      opt (all ["else", any [block, .part "if_statement"]])]),
   node "for_statement" (all
     ["for", opt (any [expression, .part "for_clause", .part "range_clause"]), block]),
   node "for_clause" (all
     [opt simpleStatement, ";", opt expression, ";", opt simpleStatement]),
   node "range_clause" (all [assigned, "range", expression]),
   node "expression_switch_statement" (all
     ["switch", initializer, opt expression, "\x7b",
      many (any [.part "expression_case", .part "default_case"]), "\x7d"]),
   node "expression_case" (all ["case", expressions, ":", statements]),
   node "default_case" (all ["default", ":", statements]),
   node "type_switch_statement" (all
     ["switch", .part "type_switch_header", "\x7b",
      many (any [.part "type_case", .part "default_case"]), "\x7d"]),
   ⟨"type_switch_header", false,
     [⟨all
        [initializer, opt (all [expressions, ":="]), expression, ".", "(", "type", ")"],
       {}, 0⟩]⟩,
   node "type_case" (all ["case", commaList type, ":", statements]),
   node "select_statement" (all
     ["select", "\x7b", many (any [.part "communication_case", .part "default_case"]),
      "\x7d"]),
   node "communication_case" (all
     ["case", any [.part "send_statement", .part "receive_statement"], ":", statements])]

/-! Expressions -/

/-- The functions whose first argument is a type. -/
def makers : GoPhrase := oneOf ["new", "make"]

def argument : GoPhrase := any [expression, .part "variadic_argument"]

def binary (precedence : Int) (operators : List String) : Alternative Terminal :=
  ⟨all [expression, oneOf operators, expression], ⟨precedence, some .left⟩, 0⟩

def products : List String := ["*", "/", "%", "<<", ">>", "&", "&^"]

def sums : List String := ["+", "-", "|", "^"]

def comparisons : List String := ["==", "!=", "<", "<=", ">", ">="]

def expressionRules : List (Rule Terminal) :=
  [⟨"expression", false,
     ([.part "unary_expression", .part "binary_expression", .part "selector_expression",
       .part "index_expression", .part "slice_expression", .part "call_expression",
       .part "type_assertion_expression", .part "type_conversion_expression",
       .part "type_instantiation_expression", name, makers, .part "composite_literal",
       .part "func_literal", string, Terminal.integer, Terminal.fraction, Terminal.imaginary,
       Terminal.rune, "nil", "true", "false", "iota",
       .part "parenthesized_expression"] : List GoPhrase).map fun p => ⟨p, {}, 0⟩⟩,
   node "parenthesized_expression" (all ["(", expression, ")"]),
   node "call_expression" (any
     [all [makers, .part "special_argument_list"],
      all [expression, opt (.part "type_arguments"), .part "argument_list"]]) suffixRank,
   node "variadic_argument" (all [expression, "..."]) rightward,
   node "special_argument_list" (all
     ["(", opt (all [type, many (all [",", expression]), opt ","]), ")"]),
   node "argument_list" (all
     ["(", opt (all [argument, many (all [",", argument]), opt ","]), ")"]),
   node "selector_expression" (all [expression, ".", fieldName]) suffixRank,
   node "index_expression" (all [expression, "[", expression, "]"]) suffixRank,
   node "slice_expression" (all
     [expression, "[",
      any
        [all [opt expression, ":", opt expression],
         all [opt expression, ":", expression, ":", expression]],
      "]"]) suffixRank,
   node "type_assertion_expression" (all [expression, ".", "(", type, ")"]) suffixRank,
   node "type_conversion_expression" (all [type, "(", expression, opt ",", ")"]) {} (-1),
   node "type_instantiation_expression" (all
     [type, "[", commaList type, opt ",", "]"]) {} (-1),
   node "composite_literal" (all
     [any
        [.part "map_type", .part "slice_type", .part "array_type",
         .part "implicit_length_array_type", .part "struct_type", typeName,
         .part "generic_type", .part "qualified_type"],
      .part "literal_value"]) literalRank,
   node "literal_value" (all
     ["\x7b",
      opt (all
        [opt (commaList (any [.part "literal_element", .part "keyed_element"])), opt ","]),
      "\x7d"]),
   node "literal_element" (any [expression, .part "literal_value"]),
   node "keyed_element" (all [.part "literal_element", ":", .part "literal_element"]),
   node "func_literal" (all ["func", parameters, result, block]),
   node "unary_expression" (all
     [oneOf ["+", "-", "!", "^", "*", "&", "<-"], expression]) prefixRank,
   ⟨"binary_expression", true,
     [binary 5 products, binary 4 sums, binary 3 comparisons, binary 2 ["&&"],
      binary 1 ["||"]]⟩,
   node "qualified_type" (all [packageName, ".", typeName]),
   node "raw_string_literal" (all ["\x60", Terminal.rawInside, "\x60"]),
   node "interpreted_string_literal" (all
     ["\"", many (any [Terminal.inside, Terminal.escape]), Terminal.closingQuote])]

/-- The grammar.  The first rule is that of a file. -/
def rules : List (Rule Terminal) :=
  fileRules ++ declarationRules ++ typeRules ++ statementRules ++ expressionRules

end BuildScan.Go.Syntax
