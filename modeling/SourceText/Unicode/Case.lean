import SourceText.Unicode.CaseTables

/-!
# Letter case

Lower and upper case of whole texts. Lower case depends on the neighbours in one place: a capital
sigma that ends a word takes the final form.
-/

namespace SourceText.Unicode

/-- A table look-up with the character itself as the answer outside the table. -/
def mapByRuns (runs : List CaseRun) (c : Char) : Char :=
  match runs.find? (·.contains c.toNat) with
  | some run => Char.ofNat (run.map c.toNat)
  | none => c

/-- The lower-case form of a character by itself. -/
def lowerChar (c : Char) : List Char :=
  if c.toNat < 128 then [c.toLower]
  else if c = 'İ' then ['i', '\u0307']
  else [mapByRuns lowerRuns c]

/-- The upper-case form of a character. -/
def upperChar (c : Char) : List Char :=
  if c.toNat < 128 then [c.toUpper]
  else
    match upperSequences.lookup c.toNat with
    | some codes => codes.map Char.ofNat
    | none => [mapByRuns upperRuns c]

/-- Characters that do not take part when a sigma looks for its neighbours. -/
def isCaseIgnorable (c : Char) : Bool := caseIgnorableSet.contains c.toNat

/-- Letters that make a neighbouring sigma part of their word. -/
def isCased (c : Char) : Bool := casedSet.contains c.toNat

/-- Whether the first character that counts is a cased letter. -/
def startsCased : List Char → Bool
  | [] => false
  | c :: rest => if isCaseIgnorable c then startsCased rest else isCased c

/-- Lower case of a text; `afterCased` tells whether a cased letter comes before it. -/
def lowerFrom (afterCased : Bool) : List Char → List Char
  | [] => []
  | c :: rest =>
    let form :=
      if c = 'Σ' then [if afterCased && !startsCased rest then 'ς' else 'σ'] else lowerChar c
    form ++ lowerFrom (if isCaseIgnorable c then afterCased else isCased c) rest

/-- Lower case of a text. -/
def lower (text : List Char) : List Char := lowerFrom false text

/-- Upper case of a text. -/
def upper (text : List Char) : List Char := text.flatMap upperChar

@[simp] theorem lower_nil : lower [] = [] := rfl

@[simp] theorem upper_nil : upper [] = [] := rfl

end SourceText.Unicode
