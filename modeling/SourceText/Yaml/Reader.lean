import SourceText.Yaml.Node
import SourceText.Yaml.Scalar

/-!
# Reading YAML

The value of a YAML document: the values of its nodes under their tags. A mapping takes over the
entries of the mappings that it names under the merging key, unless it gives the key itself, and of
a key that comes twice the last value counts.
-/

namespace SourceText.Yaml

/-- The tag of a node. -/
def Node.tag : Node → Tag
  | .scalar tag _ => tag
  | .sequence tag _ => tag
  | .mapping tag _ => tag

mutual

/-- The entries of a mapping with those of merged mappings in front. `fuel` bounds the nesting. -/
def mergedEntries : (fuel : Nat) → List (Node × Node) → Except Fault (List (Node × Node))
  | 0, _ => .error .grammar
  | fuel + 1, entries => do
    let merged ← (entries.filter (·.1.tag == .merge)).mapM fun (_, node) => mergeSource fuel node
    let own := (entries.filter (·.1.tag != .merge)).map fun (key, value) =>
      match key with
      | .scalar .value text => (.scalar .str text, value)
      | _ => (key, value)
    .ok (merged.flatten ++ own)

/-- The entries that a node gives to a mapping that it is merged into: its own, or those of its
items, the last item first. -/
def mergeSource : (fuel : Nat) → Node → Except Fault (List (Node × Node))
  | 0, _ => .error .grammar
  | fuel + 1, node =>
    match node with
    | .mapping _ entries => mergedEntries fuel entries
    | .sequence _ items => do
      let all ← items.mapM fun item =>
        match item with
        | .mapping _ entries => mergedEntries fuel entries
        | _ => .error .tag
      .ok all.reverse.flatten
    | .scalar .. => .error .tag

end

/-- The text of a scalar; a mapping with a value of its own stands for that. `fuel` bounds the
nesting. -/
def scalarText : (fuel : Nat) → Node → Except Fault RawText
  | _, .scalar _ text => .ok text
  | 0, _ => .error .tag
  | fuel + 1, .mapping _ entries =>
    match entries.find? (·.1.tag == .value) with
    | some (_, node) => scalarText fuel node
    | none => .error .tag
  | _, .sequence .. => .error .tag

mutual

/-- The value of a node. `fuel` bounds the nesting. -/
def nodeValue : (fuel : Nat) → Node → Except Fault Value
  | 0, _ => .error .grammar
  | fuel + 1, node =>
    match node.tag with
    | .seq =>
      match node with
      | .sequence _ items => do .ok (.list (← items.mapM (nodeValue fuel)))
      | _ => .error .tag
    | .map => do .ok (.mapping (← mappingEntries fuel node))
    | .set => do .ok (.set ((← mappingEntries fuel node).map (·.1)))
    | .omap => pairList fuel node
    | .pairs => pairList fuel node
    | tag => do readScalar tag (← scalarText (fuel + 1) node)

/-- The entries of a mapping. -/
def mappingEntries : (fuel : Nat) → Node → Except Fault (List (Value × Value))
  | 0, _ => .error .grammar
  | fuel + 1, node =>
    match node with
    | .mapping _ entries => do
      let all ← mergedEntries (fuel + 1) entries
      all.foldlM
        (fun read (key, value) => do
          let key ← nodeValue fuel key
          if key.isKey then
            let value ← nodeValue fuel value
            .ok (Value.insertEntry key value read)
          else .error .key)
        []
    | _ => .error .tag

/-- A list of pairs, each written as a mapping with one entry. -/
def pairList : (fuel : Nat) → Node → Except Fault Value
  | 0, _ => .error .grammar
  | fuel + 1, node =>
    match node with
    | .sequence _ items => do
      let pairs ← items.mapM fun item =>
        match item with
        | .mapping _ [(key, value)] => do
          .ok (Value.pair (← nodeValue fuel key) (← nodeValue fuel value))
        | _ => .error .tag
      .ok (.list pairs)
    | _ => .error .tag

end

/-- The value of a YAML text; nothing stands for an empty one. -/
def read (text : Text) : Except Fault Value := do
  match ← Node.ofText text with
  | none => .ok .null
  | some node => nodeValue (2 * text.length + 8) node

end SourceText.Yaml
