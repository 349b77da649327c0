import Emission.Files

/-!
# Shipped templates

The templates that come with the library, and the directory they are found in.
-/

namespace Emission.Template.Shipped

open Files (Base Place)

/-- The head of a file: a comment with the grammar it comes from, and a namespace if one is given. -/
def header : String :=
  "<?php\n" ++
    "\n" ++
    "/*\n" ++
    " * Generated from \x7b\x7b grammar_file_name | fmt(escape_mode) \x7d\x7d by targetkit \x7b\x7b target_version \x7d\x7d\n" ++
    " */\n" ++
    "\x7b% if php_namespace %\x7d\n" ++
    "\n" ++
    "namespace \x7b\x7b php_namespace \x7d\x7d;\n" ++
    "\x7b% endif %\x7d\n"

/-- The table of literal names, where a missing one is null. -/
def literalNames : String :=
  "\x7b# Literals arrive already quoted by the target's string escape #\x7d\n" ++
    "    /**\n" ++
    "     * @var array<string|null>\n" ++
    "     */\n" ++
    "    protected const LITERAL_NAMES = [\n" ++
    "\x7b% for literal in literal_names %\x7d\n" ++
    "        \x7b\x7b literal if literal is not none else \"null\" \x7d\x7d,\n" ++
    "\x7b% endfor %\x7d\n" ++
    "    ];\n"

/-- The table of rule names. -/
def ruleNames : String :=
  "    public const RULE_NAMES = [\n" ++
    "\x7b% for name in rule_names %\x7d\n" ++
    "        '\x7b\x7b name \x7d\x7d',\n" ++
    "\x7b% endfor %\x7d\n" ++
    "    ];\n"

/-- The serialized automaton, one array for each of its segments. -/
def serializedAtn : String :=
  "\x7b# One array literal per segment, merged when the recognizer loads #\x7d\n" ++
    "    private static function serializedAtn(): array\n" ++
    "    \x7b\n" ++
    "        return \\array_merge(\n" ++
    "\x7b% for segment in segments %\x7d\n" ++
    "            [\x7b\x7b segment | join_commas \x7d\x7d]\x7b\x7b \",\" if not loop.last else \"\" \x7d\x7d\n" ++
    "\x7b% endfor %\x7d\n" ++
    "        );\n" ++
    "    \x7d\n"

/-- The files of each target: their names and texts. -/
def groups : List (String × List (String × String)) :=
  [("Php",
    [("Header.j2", header), ("LiteralNames.j2", literalNames), ("RuleNames.j2", ruleNames),
     ("SerializedATN.j2", serializedAtn)])]

/-- A place below the directory of shipped templates. -/
def place (names : List String) : Place :=
  { Base.shipped.place with names := Base.shipped.place.names ++ names }

/-- The files that are there from the start, with the device that is always full. -/
def files : Files where
  nodes :=
    let names := Base.shipped.place.names
    ((List.range names.length).map fun n => (⟨.shipped, names.take (n + 1)⟩, .directory)) ++
      (groups.flatMap fun (target, texts) =>
        (place [target], .directory) :: texts.map fun (name, s) => (place [target, name], .file (.text s))) ++
      [(⟨.root, ["dev"]⟩, .directory), (⟨.root, ["dev", "full"]⟩, .full)]

end Emission.Template.Shipped
