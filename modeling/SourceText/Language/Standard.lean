import SourceText.Language.Registry

/-!
# The standard languages

The languages that are known from the start, with the identifiers that classifiers, file names and
people use for them.
-/

namespace SourceText

/-- The standard languages: tag, family and aliases. -/
def standardLanguages : List (String × Family × List String) :=
  [("javascript", .web,
      ["js", "jsx", "mjs", "cjs", "node", "nodejs", "ecmascript", "javascript+genshi"]),
    ("typescript", .web, ["ts", "tsx", "mts", "cts"]),
    ("json", .web, ["json-object", "jsonc", "json5", "jsonld", "json-ld"]),
    ("css", .web, ["css3"]),
    ("java", .cStyle, ["jav"]),
    ("kotlin", .cStyle, ["kt", "kts"]),
    ("csharp", .cStyle, ["c#", "cs", "c sharp"]),
    ("c", .cStyle, ["h", "ansi-c"]),
    ("cpp", .cStyle, ["c++", "cc", "cxx", "hpp", "c++ header"]),
    ("rust", .cStyle, ["rs"]),
    ("go", .cStyle, ["golang"]),
    ("php", .cStyle, ["php3", "php4", "php5", "inlinephp", "html+php"]),
    ("swift", .cStyle, []),
    ("scala", .cStyle, ["sc"]),
    ("dart", .cStyle, []),
    ("objc", .cStyle, ["objective-c", "objectivec", "obj-c", "m"]),
    ("python", .indentation,
      ["py", "py3", "python3", "sage", "python 3", "python 2.x", "python2", "py2", "numpy",
        "starlark", "bazel"]),
    ("yaml", .indentation, ["yml"]),
    ("coffeescript", .indentation, ["coffee", "coffee-script"]),
    ("haskell", .indentation, ["hs"]),
    ("fsharp", .indentation, ["f#", "fs"]),
    ("ruby", .other, ["rb", "duby"]),
    ("bash", .other, ["sh", "shell", "zsh", "ksh", "openrc", "bash session", "console"]),
    ("html", .other, ["htm", "xhtml"]),
    ("xml", .other, ["xsd", "xsl"]),
    ("sql", .other, ["mysql", "postgresql", "tsql", "sqlite3"]),
    ("markdown", .other, ["md"]),
    ("lua", .other, []),
    ("perl", .other, ["pl", "pm"]),
    ("r", .other, ["splus", "s"])]

/-- The registry of the standard languages. -/
def Registry.standard : Registry :=
  standardLanguages.foldl
    (fun registry (language, family, aliases) => registry.register language family aliases)
    Registry.empty

/-- The canonical tag of an identifier among the standard languages. -/
def normalizeLanguage (raw : Option String) : String := Registry.standard.normalize raw

end SourceText
