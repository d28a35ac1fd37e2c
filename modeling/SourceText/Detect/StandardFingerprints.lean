import SourceText.Detect.Fingerprint
import SourceText.Detect.Pattern

/-!
# The standard fingerprints

Keywords, idioms and library calls by which languages are told apart.
-/

namespace SourceText.Detect

open Pattern

/-- A fingerprint of patterns one after the other. -/
def mark (weight : Int) (parts : List Pattern) : Fingerprint := ⟨(seq parts).found, weight⟩

/-- Signs of python. -/
def pythonMarks : List Fingerprint := [
  mark 30 [lineStart, blanks, lit "def", gap, name, blanks, lit "(", many anyInLine, lit ")",
    blanks, maybe (seq [lit "->", blanks, some1 (letterOr "[], .")]), blanks, lit ":"],
  mark 25 [lineStart, blanks, lit "class", gap, name, maybe (seq [lit "(", many anyInLine,
    lit ")"]), blanks, lit ":"],
  mark 25 [lineStart, blanks, lit "from", gap, some1 (letterOr "."), gap, lit "import", gap],
  mark 15 [lineStart, blanks, lit "import", gap, latinOrLine, many (letterOr "."), blanks,
    lineEnd],
  mark 40 [lit "if", gap, lit "__name__", blanks, lit "==", blanks, oneOf "'\"", lit "__main__",
    oneOf "'\"", blanks, lit ":"],
  mark 20 [lineStart, blanks, oneWordOf ["elif", "except", "finally", "with"], wordEdge,
    many anyInLine, lit ":", blanks, lineEnd],
  mark 10 [wordEdge, lit "self.", name],
  mark 5 [wordEdge, lit "print", blanks, lit "("],
  mark 5 [lineStart, blanks, lit "@", name, many (seq [lit ".", name]), maybe (seq [lit "(",
    many anyInLine, lit ")"]), blanks, lineEnd],
  mark 5 [wordEdge, oneWordOf ["None", "True", "False"], wordEdge]]

/-- Signs of javascript. -/
def javascriptMarks : List Fingerprint := [
  mark 20 [wordEdge, lit "function", blanks, letters, blanks, lit "(", many (noneOf ")"),
    lit ")", blanks, lit "\x7b"],
  mark 15 [lineStart, blanks, oneWordOf ["const", "let", "var"], gap, name, blanks, lit "="],
  mark 25 [wordEdge, lit "console.", oneWordOf ["log", "warn", "error"], blanks, lit "("],
  mark 10 [lit "=>", blanks, maybe (oneOf "\x7b(")],
  mark 25 [wordEdge, anyOf [lit "module.exports", seq [lit "require", blanks, lit "("]]],
  mark 20 [lineStart, blanks, lit "import", gap, some1 anyInLine, gap, lit "from", gap,
    oneOf "'\"", some1 anyInLine, oneOf "'\""],
  mark 15 [wordEdge, lit "export", gap, oneWordOf ["default", "const", "function", "class"],
    wordEdge],
  mark 20 [wordEdge, oneWordOf ["document", "window"], lit ".", name],
  mark 10 [oneWordOf ["===", "!=="]]]

/-- Signs of typescript. -/
def typescriptMarks : List Fingerprint := [
  mark 45 [lineStart, blanks, maybe (seq [lit "export", gap]), lit "interface", gap, name,
    blanks, lit "\x7b"],
  mark 40 [lineStart, blanks, maybe (seq [lit "export", gap]), lit "type", gap, name, blanks,
    lit "="],
  mark 50 [wordEdge, oneWordOf ["const", "let", "var"], gap, name, blanks, lit ":", blanks,
    oneWordOf ["string", "number", "boolean", "any"], wordEdge],
  mark 40 [lit ")", blanks, lit ":", blanks, oneWordOf ["string", "number", "boolean", "void",
    "Promise<"]],
  mark 25 [wordEdge, oneWordOf ["public", "private", "readonly"], gap, name, blanks, lit ":"]]

/-- Signs of java. -/
def javaMarks : List Fingerprint := [
  mark 30 [wordEdge, lit "public", gap, maybe (seq [lit "final", gap]), lit "class", gap, name],
  mark 40 [wordEdge, lit "public", gap, lit "static", gap, lit "void", gap, lit "main", blanks,
    lit "(", blanks, lit "String"],
  mark 35 [wordEdge, lit "System.out.print", maybe (lit "ln"), blanks, lit "("],
  mark 40 [lineStart, blanks, lit "import", gap, lit "java."],
  mark 25 [lineStart, blanks, lit "package", gap, some1 (letterOr "."), lit ";"],
  mark 20 [lit "@Override", wordEdge],
  mark 15 [wordEdge, oneWordOf ["private", "protected", "public"], gap, maybe (seq [lit "static",
    gap]), maybe (seq [lit "final", gap]), capital, letters, maybe (seq [lit "<", many anyInLine,
    lit ">"]), gap, name, blanks, oneOf ";=("]]

/-- Signs of kotlin. -/
def kotlinMarks : List Fingerprint := [
  mark 35 [lineStart, blanks, lit "fun", gap, name, blanks, lit "("],
  mark 15 [lineStart, blanks, oneWordOf ["val", "var"], gap, name, maybe (seq [blanks, lit ":",
    blanks, name]), blanks, lit "="],
  mark 10 [wordEdge, lit "println", blanks, lit "("],
  mark 35 [lineStart, blanks, oneWordOf ["data", "sealed", "open"], gap, lit "class", gap, name],
  mark 40 [wordEdge, lit "companion", gap, lit "object", wordEdge],
  mark 40 [lineStart, blanks, lit "import", gap, lit "kotlin", maybe (lit "x"), lit "."],
  mark 20 [wordEdge, lit "when", blanks, lit "(", many (noneOf ")"), lit ")", blanks, lit "\x7b"]]

/-- Signs of go. -/
def goMarks : List Fingerprint := [
  mark 25 [lineStart, blanks, lit "package", gap, name, blanks, lineEnd],
  mark 30 [lineStart, blanks, lit "func", gap, maybe (seq [lit "(", name, gap, maybe (lit "*"),
    name, lit ")", blanks]), name, blanks, lit "("],
  mark 35 [wordEdge, lit "fmt.", oneWordOf ["Print", "Printf", "Println", "Sprintf", "Errorf"],
    blanks, lit "("],
  mark 20 [lineStart, blanks, lit "import", blanks, lit "("],
  mark 15 [lit ":="],
  mark 40 [wordEdge, lit "if", gap, lit "err", blanks, lit "!=", blanks, lit "nil", wordEdge]]

/-- Signs of rust. -/
def rustMarks : List Fingerprint := [
  mark 30 [lineStart, blanks, maybe (seq [lit "pub", gap]), lit "fn", gap, name, blanks,
    maybe (seq [lit "<", many anyInLine, lit ">"]), blanks, lit "("],
  mark 35 [wordEdge, lit "let", gap, lit "mut", gap, name],
  mark 40 [wordEdge, lit "println!", blanks, lit "("],
  mark 35 [lineStart, blanks, lit "use", gap, oneWordOf ["std", "crate"], lit "::"],
  mark 25 [wordEdge, lit "impl", maybe (seq [lit "<", many anyInLine, lit ">"]), gap, name],
  mark 20 [lit "&", maybe (seq [lit "mut", gap]), lit "self", wordEdge]]

/-- Signs of c. -/
def cMarks : List Fingerprint := [
  mark 40 [lineStart, blanks, lit "#", blanks, lit "include", blanks, lit "<",
    oneWordOf ["stdio", "stdlib", "string", "unistd"], lit ".h>"],
  mark 15 [wordEdge, lit "printf", blanks, lit "("],
  mark 20 [wordEdge, lit "int", gap, lit "main", blanks, lit "("],
  mark 20 [wordEdge, oneWordOf ["malloc", "free", "sizeof"], blanks, lit "("],
  mark 10 [wordEdge, lit "struct", gap, name, blanks, lit "\x7b"]]

/-- Signs of cpp. -/
def cppMarks : List Fingerprint := [
  mark 45 [lineStart, blanks, lit "#", blanks, lit "include", blanks, lit "<",
    oneWordOf ["iostream", "vector", "string", "map", "memory"], lit ">"],
  mark 45 [wordEdge, lit "using", gap, lit "namespace", gap, lit "std", blanks, lit ";"],
  mark 30 [wordEdge, lit "std::", name],
  mark 30 [wordEdge, oneWordOf ["cout", "cin"], blanks, oneWordOf ["<<", ">>"]],
  mark 25 [wordEdge, lit "template", blanks, lit "<"],
  mark 10 [wordEdge, lit "int", gap, lit "main", blanks, lit "("]]

/-- Signs of csharp. -/
def csharpMarks : List Fingerprint := [
  mark 45 [lineStart, blanks, lit "using", gap, lit "System", maybe (seq [lit ".",
    some1 (letterOr ".")]), blanks, lit ";"],
  mark 40 [wordEdge, lit "Console.Write", maybe (lit "Line"), blanks, lit "("],
  mark 20 [lineStart, blanks, lit "namespace", gap, some1 (letterOr ".")],
  mark 15 [wordEdge, lit "public", gap, maybe (seq [lit "static", gap]), maybe (seq [lit "async",
    gap]), oneWordOf ["void", "Task", "string", "int"], gap, name, blanks, lit "("],
  mark 40 [lit "\x7b", blanks, lit "get;", blanks, maybe (lit "set;"), blanks, lit "\x7d"]]

/-- Signs of php. -/
def phpMarks : List Fingerprint := [
  mark 60 [lit "<?php"],
  mark 20 [lit "$", name, blanks, lit "="],
  mark 15 [wordEdge, lit "echo", gap],
  mark 10 [lit "->", name, blanks, lit "("],
  mark 30 [wordEdge, lit "function", gap, name, blanks, lit "(", blanks, lit "$"]]

/-- Signs of ruby. -/
def rubyMarks : List Fingerprint := [
  mark 25 [lineStart, blanks, lit "def", gap, name, maybe (oneOf "?!"), maybe (seq [lit "(",
    many anyInLine, lit ")"]), blanks, lineEnd],
  mark 20 [lineStart, blanks, lit "end", blanks, lineEnd],
  mark 25 [wordEdge, lit "puts", gap],
  mark 20 [lineStart, blanks, lit "require", gap, oneOf "'\""],
  mark 35 [wordEdge, lit "do", blanks, lit "|", name, many (seq [lit ",", blanks, name]),
    lit "|"],
  mark 15 [lineStart, blanks, oneWordOf ["module", "class"], gap, capital, letters,
    maybe (seq [blanks, lit "<", blanks, capital, letters]), blanks, lineEnd]]

/-- Signs of bash. -/
def bashMarks : List Fingerprint := [
  mark 60 [lineStart, lit "#!", blanks, lit "/", maybe (lit "usr/"), lit "bin/",
    maybe (seq [lit "env", gap]), maybe (oneWordOf ["ba", "z"]), lit "sh", wordEdge],
  mark 30 [lineStart, blanks, oneWordOf ["if", "while"], gap, lit "[", maybe (lit "["), blank],
  mark 30 [lineStart, blanks, oneWordOf ["fi", "done", "esac"], blanks, lineEnd],
  mark 10 [wordEdge, lit "echo", gap, oneOf "\"$"],
  mark 5 [lit "$", maybe (lit "\x7b"), name, maybe (lit "\x7d")],
  mark 25 [lineStart, blanks, lit "export", gap, some1 capitalOrLine, lit "="]]

/-- Signs of css. -/
def cssMarks : List Fingerprint := [
  mark 30 [lineStart, blanks, maybe (oneOf ".#"), some1 (letterOr "-"), many (seq [blanks,
    oneOf ",>+~", blanks, maybe (oneOf ".#"), some1 (letterOr "-")]), blanks, lit "\x7b",
    many (noneOf "\x7d"), lit ":", many (noneOf "\x7d"), lit ";"],
  mark 20 [wordEdge, oneWordOf ["color", "margin", "padding", "display", "font-size",
    "background"], blanks, lit ":"],
  mark 35 [lit "@media", blank],
  mark 10 [wordEdge, some1 digit, oneWordOf ["px", "em", "rem", "vh", "vw"], wordEdge]]

/-- Signs of html. -/
def htmlMarks : List Fingerprint := [
  mark 60 [caseless "<!DOCTYPE", gap, caseless "html>"],
  mark 30 [caseless "<", anyOf [caseless "html", caseless "head", caseless "body",
    caseless "div", caseless "span", caseless "p", caseless "a"], maybe (seq [blank,
    many (noneOf ">")]), caseless ">"],
  mark 10 [lit "</", name, lit ">"]]

/-- Signs of json. -/
def jsonMarks : List Fingerprint := [
  mark 40 [textStart, blanks, oneOf "[\x7b", blanks, lit "\"", some1 (noneOf "\""), lit "\"",
    blanks, lit ":"],
  mark 15 [lit "\"", some1 (noneOf "\""), lit "\"", blanks, lit ":", blanks, anyOf [lit "\"",
    digit, lit "true", lit "false", lit "null", lit "\x7b", lit "["]]]

/-- Signs of sql. -/
def sqlMarks : List Fingerprint := [
  mark 40 [wordEdge, caseless "SELECT", wordEdge, some1 anyChar, wordEdge, caseless "FROM",
    wordEdge],
  mark 40 [wordEdge, anyOf [seq [caseless "INSERT", gap, caseless "INTO"],
    seq [caseless "UPDATE", gap, name, gap, caseless "SET"], seq [caseless "DELETE", gap,
    caseless "FROM"]], wordEdge],
  mark 45 [wordEdge, caseless "CREATE", gap, caseless "TABLE", wordEdge],
  mark 10 [wordEdge, anyOf [caseless "WHERE", caseless "JOIN", seq [caseless "GROUP", gap,
    caseless "BY"], seq [caseless "ORDER", gap, caseless "BY"]], wordEdge]]

/-- The languages with their signs. Of two languages with equal relevance the first one wins. -/
def standardFingerprints : FingerprintTable := [
  ("python", pythonMarks),
  ("javascript", javascriptMarks),
  ("typescript", typescriptMarks),
  ("java", javaMarks),
  ("kotlin", kotlinMarks),
  ("go", goMarks),
  ("rust", rustMarks),
  ("c", cMarks),
  ("cpp", cppMarks),
  ("csharp", csharpMarks),
  ("php", phpMarks),
  ("ruby", rubyMarks),
  ("bash", bashMarks),
  ("css", cssMarks),
  ("html", htmlMarks),
  ("json", jsonMarks),
  ("sql", sqlMarks)]

end SourceText.Detect
