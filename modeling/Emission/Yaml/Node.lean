import Emission.Text.Search
import Emission.Value.Equal
import Emission.Yaml.Tag
import Emission.Yaml.Token

/-!
# YAML nodes

The tree that a list of tokens spells, and the value of a tree.
-/

namespace Emission.Yaml

/-- The tag written before a node: none, the one that leaves the type open, or a type. -/
inductive Mark
  | none
  | open_
  | typed (t : Tag)
  deriving DecidableEq, Repr

inductive Node
  | scalar (mark : Mark) (text : String) (plain : Bool)
  | sequence (mark : Mark) (items : List Node)
  | mapping (mark : Mark) (entries : List (Node × Node))
  | anchored (name : String) (node : Node)
  | alias (name : String)
  deriving Inhabited, Repr

/-- What stands where nothing is written. -/
def Node.blank : Node := .scalar .none "" true

/-! ## From tokens to a tree -/

namespace Node

/-- What may be written before a node: an anchor, a tag or both. -/
structure Properties where
  anchor : Option String := none
  tag : Option (Option String × String) := none

/-- The properties at the start of a list of tokens. -/
def properties : List Token → Properties × List Token
  | .anchor a :: .tag h s :: rest => (⟨some a, some (h, s)⟩, rest)
  | .tag h s :: .anchor a :: rest => (⟨some a, some (h, s)⟩, rest)
  | .anchor a :: rest => (⟨some a, none⟩, rest)
  | .tag h s :: rest => (⟨none, some (h, s)⟩, rest)
  | ts => ({}, ts)

/-- The beginning of the tags of the standard. -/
def standardStart : String := "tag:yaml.org,2002:"

/-- The short forms that are known without a directive. -/
def knownForms : List (String × String) := [("!", "!"), ("!!", standardStart)]

/-- The mark that a written tag is, if its short form is known. -/
def mark? (forms : List (String × String)) : Option (Option String × String) → Option Mark
  | none => some .none
  | some (short, suffix) =>
    let full := match short with
      | none => some suffix
      | some short => (forms.lookup short).map (· ++ suffix)
    full.map fun tag =>
      if tag = "!" then .open_
      else
        match Text.dropPrefix? standardStart.toList tag.toList with
        | some name => .typed (.standard (.ofList name))
        | none => .typed .unknown

def withAnchor (name : Option String) (n : Node) : Node :=
  match name with
  | some a => .anchored a n
  | none => n

/-- Where a node stands. -/
inductive Context
  | flow
  /-- In a block, where a sequence may follow without indentation if `loose`. -/
  | block (loose : Bool)
  deriving DecidableEq, Repr

/-- No node is written before these tokens. -/
def endsEntry (ts : List Token) : Bool :=
  match ts with
  | .key :: _ | .value :: _ | .blockEnd :: _ => true
  | _ => false

def endsItem (loose : Bool) (ts : List Token) : Bool :=
  match ts with
  | .item :: _ | .blockEnd :: _ => true
  | .key :: _ | .value :: _ => loose
  | _ => false

def endsFlow (close : Token) (ts : List Token) : Bool :=
  match ts with
  | .comma :: _ => true
  | t :: _ => t = close
  | [] => false

mutual

/-- A node and the tokens after it. The first argument bounds the number of steps, here and below. -/
def read? (forms : List (String × String)) : Nat → Context → List Token →
    Option (Node × List Token)
  | 0, _, _ => none
  | fuel + 1, context, ts =>
    match ts with
    | .alias a :: rest => some (.alias a, rest)
    | ts =>
      let (p, rest) := properties ts
      match mark? forms p.tag with
      | none => none
      | some mark => (content? forms fuel context p mark rest).map fun (n, rest) =>
          (withAnchor p.anchor n, rest)

/-- What follows the properties of a node. -/
def content? (forms : List (String × String)) : Nat → Context → Properties → Mark → List Token →
    Option (Node × List Token)
  | 0, _, _, _, _ => none
  | fuel + 1, context, p, mark, ts =>
    match context, ts with
    | .block true, .item :: _ =>
      (items? forms fuel true ts).map fun (ns, rest) => (.sequence mark ns, rest)
    | _, .scalar text plain :: rest => some (.scalar mark text plain, rest)
    | _, .flowSequenceStart :: rest =>
      (flowItems? forms fuel true rest).map fun (ns, rest) => (.sequence mark ns, rest)
    | _, .flowMappingStart :: rest =>
      (flowEntries? forms fuel true rest).map fun (es, rest) => (.mapping mark es, rest)
    | .block _, .sequenceStart :: rest =>
      match items? forms fuel false rest with
      | some (ns, .blockEnd :: rest) => some (.sequence mark ns, rest)
      | _ => none
    | .block _, .mappingStart :: rest =>
      (entries? forms fuel rest).map fun (es, rest) => (.mapping mark es, rest)
    | _, ts =>
      if p.anchor.isSome || p.tag.isSome then some (.scalar mark "" true, ts) else none

/-- The items of a block sequence. -/
def items? (forms : List (String × String)) : Nat → Bool → List Token →
    Option (List Node × List Token)
  | 0, _, _ => none
  | fuel + 1, loose, .item :: ts =>
    let item := if endsItem loose ts then some (blank, ts) else read? forms fuel (.block false) ts
    match item with
    | none => none
    | some (n, rest) => (items? forms fuel loose rest).map fun (ns, rest) => (n :: ns, rest)
  | _ + 1, _, ts => some ([], ts)

/-- The entries of a block mapping up to the end of the block. -/
def entries? (forms : List (String × String)) : Nat → List Token →
    Option (List (Node × Node) × List Token)
  | 0, _ => none
  | fuel + 1, ts =>
    match ts with
    | .blockEnd :: rest => some ([], rest)
    | .key :: rest =>
      let key := if endsEntry rest then some (blank, rest) else read? forms fuel (.block true) rest
      match key with
      | none => none
      | some (k, rest) => entryAfter? forms fuel k rest
    | _ => none

/-- The rest of an entry of a block mapping after its key, and the entries after it. -/
def entryAfter? (forms : List (String × String)) : Nat → Node → List Token →
    Option (List (Node × Node) × List Token)
  | 0, _, _ => none
  | fuel + 1, k, ts =>
    let value := match ts with
      | .value :: rest =>
        if endsEntry rest then some (blank, rest) else read? forms fuel (.block true) rest
      | ts => some (blank, ts)
    match value with
    | none => none
    | some (v, rest) => (entries? forms fuel rest).map fun (es, rest) => ((k, v) :: es, rest)

/-- The items of a sequence in brackets. -/
def flowItems? (forms : List (String × String)) : Nat → Bool → List Token →
    Option (List Node × List Token)
  | 0, _, _ => none
  | fuel + 1, atStart, ts =>
    match ts with
    | .flowSequenceEnd :: rest => some ([], rest)
    | ts =>
      let next := match atStart, ts with
        | true, ts => some ts
        | false, .comma :: rest => some rest
        | false, _ => none
      match next with
      | none => none
      | some (.flowSequenceEnd :: rest) => some ([], rest)
      | some (.key :: rest) =>
        match flowPair? forms fuel .flowSequenceEnd rest with
        | none => none
        | some (e, rest) =>
          (flowItems? forms fuel false rest).map fun (ns, rest) => (.mapping .none [e] :: ns, rest)
      | some ts =>
        match read? forms fuel .flow ts with
        | none => none
        | some (n, rest) => (flowItems? forms fuel false rest).map fun (ns, rest) => (n :: ns, rest)

/-- The entries of a mapping in braces. -/
def flowEntries? (forms : List (String × String)) : Nat → Bool → List Token →
    Option (List (Node × Node) × List Token)
  | 0, _, _ => none
  | fuel + 1, atStart, ts =>
    match ts with
    | .flowMappingEnd :: rest => some ([], rest)
    | ts =>
      let next := match atStart, ts with
        | true, ts => some ts
        | false, .comma :: rest => some rest
        | false, _ => none
      match next with
      | none => none
      | some (.flowMappingEnd :: rest) => some ([], rest)
      | some ts =>
        let entry := match ts with
          | .key :: rest => flowPair? forms fuel .flowMappingEnd rest
          | ts => (read? forms fuel .flow ts).map fun (k, rest) => ((k, blank), rest)
        match entry with
        | none => none
        | some (e, rest) => (flowEntries? forms fuel false rest).map fun (es, rest) => (e :: es, rest)

/-- A key and its value inside brackets or braces, which `close` ends. -/
def flowPair? (forms : List (String × String)) : Nat → Token → List Token →
    Option ((Node × Node) × List Token)
  | 0, _, _ => none
  | fuel + 1, close, ts =>
    let key := match ts with
      | .value :: _ => some (blank, ts)
      | ts => if endsFlow close ts then some (blank, ts) else read? forms fuel .flow ts
    match key with
    | none => none
    | some (k, .value :: rest) =>
      let value := if endsFlow close rest then some (blank, rest) else read? forms fuel .flow rest
      value.map fun (v, rest) => ((k, v), rest)
    | some (k, rest) => some ((k, blank), rest)

end

/-! ## Documents -/

/-- The directives before a document: at most one version, and each short form once. -/
def directives? (version : Bool) (forms : List (String × String)) :
    List Token → Option (List (String × String) × List Token)
  | .version major :: rest => if version ∨ major ≠ 1 then none else directives? true forms rest
  | .shorthand short meaning :: rest =>
    if (forms.lookup short).isSome then none
    else directives? version (forms ++ [(short, meaning)]) rest
  | .directive :: rest => directives? version forms rest
  | ts => some (forms ++ knownForms, ts)

def isDirective : Token → Bool
  | .version _ | .shorthand .. | .directive => true
  | _ => false

/-- The document after its start, and the tokens after it. -/
def documentBody? (forms : List (String × String)) (ts : List Token) : Option (Node × List Token) :=
  match ts with
  | [] | .documentStart :: _ | .documentEnd :: _ => some (blank, ts)
  | t :: _ => if isDirective t then some (blank, ts)
    else read? forms (8 * ts.length + 8) (.block false) ts

/-- The only document that tokens spell; nothing if they spell none. -/
def ofTokens? (ts : List Token) : Option (Option Node) :=
  let atEnd (found : Option (Node × List Token)) : Option (Option Node) :=
    match found with
    | some (n, rest) => if (rest.dropWhile (· = .documentEnd)).isEmpty then some (some n) else none
    | none => none
  match ts with
  | [] => some none
  | t :: _ =>
    if t = .documentStart ∨ isDirective t then
      match directives? false [] ts with
      | some (forms, .documentStart :: rest) => atEnd (documentBody? forms rest)
      | _ => none
    else atEnd (read? knownForms (8 * ts.length + 8) (.block false) ts)

end Node

/-! ## Values -/

namespace Node

/-- Nodes by the anchors before them. -/
abbrev Anchors := List (String × Node)

mutual

/-- The tree with every alias replaced by the node it names, and the anchors up to its end. A name is
given once, before it is used. -/
def resolved? (seen : Anchors) : Node → Option (Node × Anchors)
  | .scalar m s p => some (.scalar m s p, seen)
  | .sequence m ns => (allResolved? seen ns).map fun (ns, seen) => (.sequence m ns, seen)
  | .mapping m es => (entriesResolved? seen es).map fun (es, seen) => (.mapping m es, seen)
  | .anchored a n =>
    if (seen.lookup a).isSome then none
    else (n.resolved? seen).map fun (n, seen) => (n, (a, n) :: seen)
  | .alias a => (seen.lookup a).map (·, seen)

def allResolved? (seen : Anchors) : List Node → Option (List Node × Anchors)
  | [] => some ([], seen)
  | n :: rest =>
    match n.resolved? seen with
    | none => none
    | some (n, seen) => (allResolved? seen rest).map fun (ns, seen) => (n :: ns, seen)

def entriesResolved? (seen : Anchors) : List (Node × Node) → Option (List (Node × Node) × Anchors)
  | [] => some ([], seen)
  | (k, v) :: rest =>
    match k.resolved? seen with
    | none => none
    | some (k, seen) =>
      match v.resolved? seen with
      | none => none
      | some (v, seen) => (entriesResolved? seen rest).map fun (es, seen) => ((k, v) :: es, seen)

end

/-- The type of a scalar. -/
def scalarTag (mark : Mark) (text : String) (plain : Bool) : Tag :=
  match mark with
  | .typed t => t
  | .open_ => .ofPlain text.toList
  | .none => if plain then .ofPlain text.toList else .text

/-- A key that takes over the entries of other mappings. -/
def isMergeKey : Node → Bool
  | .scalar m s p => scalarTag m s p = .merge
  | _ => false

/-- The type that a mapping or sequence has unless a tag says otherwise. -/
def hasTag (mark : Mark) (tag : Tag) : Bool :=
  match mark with
  | .typed t => t = tag
  | _ => true

/-- An equals sign, which is a text where it is a key. -/
def equalsKey? : Node → Option Value
  | .scalar m s p => if scalarTag m s p = .value then some (.text s) else none
  | _ => none

/-- The dictionary of pairs of values, a later pair replacing the value of an earlier one, if all keys can
be keys. -/
def dictOf? (pairs : List (Value × Value)) : Option Value :=
  if pairs.all fun p => p.1.unkeyable?.isNone then some (Value.dictOf pairs) else none

mutual

/-- The value of a tree without aliases. -/
def value? : Node → Option Value
  | .scalar m s p => (scalarTag m s p).scalar? s
  | .sequence m ns => if hasTag m .sequence then (values? ns).map .list else none
  | .mapping m es =>
    if hasTag m .mapping then
      match pairs? es with
      | some (merged, own) => dictOf? (merged ++ own)
      | none => none
    else none
  | .anchored _ n => n.value?
  | .alias _ => none

def values? : List Node → Option (List Value)
  | [] => some []
  | n :: rest =>
    match n.value?, values? rest with
    | some v, some vs => some (v :: vs)
    | _, _ => none

/-- The pairs of a mapping: those it takes over from others, and its own. -/
def pairs? : List (Node × Node) → Option (List (Value × Value) × List (Value × Value))
  | [] => some ([], [])
  | (k, v) :: rest =>
    if isMergeKey k then
      match mergedPairs? v, pairs? rest with
      | some ps, some (merged, own) => some (ps ++ merged, own)
      | _, _ => none
    else
      match (equalsKey? k).or k.value?, v.value?, pairs? rest with
      | some k, some v, some (merged, own) => some (merged, (k, v) :: own)
      | _, _, _ => none

/-- The pairs of a mapping, or of several of which an earlier one counts more. -/
def mergedPairs? : Node → Option (List (Value × Value))
  | .mapping _ es => (pairs? es).map fun (merged, own) => merged ++ own
  | .sequence _ ns => mergedLists? ns
  | _ => none

def mergedLists? : List Node → Option (List (Value × Value))
  | [] => some []
  | .mapping _ es :: rest =>
    match pairs? es, mergedLists? rest with
    | some (merged, own), some ps => some (ps ++ merged ++ own)
    | _, _ => none
  | _ :: _ => none

end

end Node

/-- The value that a text spells, if it is YAML with one document. -/
def read? (s : String) : Option Value :=
  match (scan? s).bind Node.ofTokens? with
  | none => none
  | some none => some .none
  | some (some n) => (n.resolved? []).bind fun (n, _) => n.value?

end Emission.Yaml
