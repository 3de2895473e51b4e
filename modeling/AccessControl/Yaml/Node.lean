/-
  AccessControl/Yaml/Node.lean
  ============================
  **From tokens to nodes.**

  A document is one node.  A node is an alias, a scalar, a list or a table, with a name
  and a tag in front of it, in any order, where it has them.  What is left out is an empty
  plain scalar: the value of a key, the key of a value, the item behind its mark, a node
  with nothing but a name or a tag.  Blocks stand only in blocks; within brackets an item
  with a colon is a table of one entry.  Right under its key a list may stand without a
  block of its own.

  ## Main definitions

  * `Node`: the nodes, with their aliases;
  * `Handles`, `handles?`: what the handles of tags stand for;
  * `node?`: the node at the start of a row of tokens;
  * `document?`: the node of a text.

  The recursion of the reader is bounded by a count of steps.  Of two steps into each other
  one at least uses up a token, so two steps for each token and a few more are enough.
-/
import AccessControl.Yaml.Token

namespace AccessControl.Yaml

/-! ## 1. Nodes -/

/-- A node of a document.  `ν` is what names nodes, and the name of a node is written in
    front of it. -/
inductive Node (ν : Type) where
  | alias (name : ν)
  | scalar (name : Option ν) (value : YamlScalar)
  | list (name : Option ν) (items : List (Node ν))
  | table (name : Option ν) (entries : List (Node ν × Node ν))
deriving Repr, Inhabited

def Node.void {ν : Type} : Node ν := .scalar none ⟨"", .plain, none⟩

/-! ## 2. Tags -/

/-- The starts of addresses that the handles of tags stand for. -/
abbrev Handles := List (String × Address)

def usualHandles : Handles := [("!", some "!"), ("!!", some (YamlScalar.coreTag ""))]

/-- The handles of a document by its directives.  It has one version at most, which is
    1.1 or 1.2, and explains no handle twice. -/
def handles? (directives : List Directive) : Option Handles :=
  let versions := directives.filterMap fun d => match d with
    | .version major minor => some (major, minor)
    | .start _ _ => none
  let handles := directives.filterMap fun d => match d with
    | .version _ _ => none
    | .start handle address => some (handle, address)
  if versions.length ≤ 1 && versions.all (fun v => v == (1, 1) || v == (1, 2))
      && (handles.map Prod.fst).Nodup then
    some (handles ++ usualHandles)
  else none

/-- The address of a tag; one that is no text names nothing, and is empty.  A handle has to
    be known. -/
def TagMark.address? (handles : Handles) (tag : TagMark) : Option String :=
  if tag.handle.isEmpty then some (tag.rest.getD "")
  else (handles.lookup tag.handle).map fun start =>
    match start, tag.rest with
    | some start, some rest => start ++ rest
    | _, _ => ""

/-- What stands in front of a node: a name and a tag, each at most once, and what follows
    them. -/
def labels : List Token → Option String × Option TagMark × List Token
  | .anchor name :: .tag tag :: rest => (some name, some tag, rest)
  | .tag tag :: .anchor name :: rest => (some name, some tag, rest)
  | .anchor name :: rest => (some name, none, rest)
  | .tag tag :: rest => (none, some tag, rest)
  | rest => (none, none, rest)

/-! ## 3. Nodes from tokens -/

def itemLeftOut : List Token → Bool
  | .item :: _ | .blockEnd :: _ => true
  | _ => false

/-- No item follows its mark in a list without a block of its own. -/
def bareItemLeftOut : List Token → Bool
  | .item :: _ | .key :: _ | .value :: _ | .blockEnd :: _ => true
  | _ => false

def partLeftOut : List Token → Bool
  | .key :: _ | .value :: _ | .blockEnd :: _ => true
  | _ => false

/-- No value follows its mark within brackets, or no key follows it within braces. -/
def flowPartLeftOut : List Token → Bool
  | .comma :: _ | .listClose :: _ | .tableClose :: _ => true
  | _ => false

mutual

/-- The node at the start of a row of tokens, and what follows it.  `block` says that it
    may be a block, `bare` that it may be a list without a block of its own. -/
def node? (handles : Handles) :
    (fuel : Nat) → (block bare : Bool) → List Token → Option (Node String × List Token)
  | 0, _, _, _ => none
  | _ + 1, _, _, .alias name :: rest => some (.alias name, rest)
  | fuel + 1, block, bare, tokens => do
    let (name, mark, rest) := labels tokens
    let tag ← match mark with
      | some mark => (mark.address? handles).map some
      | none => some none
    match rest with
    | .scalar text style :: rest =>
      return (.scalar name ⟨text, style, tag⟩, rest)
    | .listOpen :: rest => flowItems? handles fuel name [] true rest
    | .tableOpen :: rest => flowEntries? handles fuel name [] true rest
    | rest =>
      match bare, block, rest with
      | true, _, .item :: _ => bareItems? handles fuel name [] rest
      | _, true, .listStart :: rest => blockItems? handles fuel name [] rest
      | _, true, .tableStart :: rest => blockEntries? handles fuel name [] rest
      | _, _, rest =>
        if name.isSome || mark.isSome then return (.scalar name ⟨"", .plain, tag⟩, rest) else none

def blockItems? (handles : Handles) :
    (fuel : Nat) → Option String → List (Node String) → List Token →
      Option (Node String × List Token)
  | 0, _, _, _ => none
  | fuel + 1, name, items, tokens =>
    match tokens with
    | .item :: rest =>
      if itemLeftOut rest then blockItems? handles fuel name (.void :: items) rest
      else
        match node? handles fuel true false rest with
        | some (item, rest) => blockItems? handles fuel name (item :: items) rest
        | none => none
    | .blockEnd :: rest => some (.list name items.reverse, rest)
    | _ => none

/-- A list without a block of its own after some of its items, the last first. -/
def bareItems? (handles : Handles) :
    (fuel : Nat) → Option String → List (Node String) → List Token →
      Option (Node String × List Token)
  | 0, _, _, _ => none
  | fuel + 1, name, items, tokens =>
    match tokens with
    | .item :: rest =>
      if bareItemLeftOut rest then bareItems? handles fuel name (.void :: items) rest
      else
        match node? handles fuel true false rest with
        | some (item, rest) => bareItems? handles fuel name (item :: items) rest
        | none => none
    | rest => some (.list name items.reverse, rest)

def blockEntries? (handles : Handles) :
    (fuel : Nat) → Option String → List (Node String × Node String) → List Token →
      Option (Node String × List Token)
  | 0, _, _, _ => none
  | fuel + 1, name, entries, tokens =>
    match tokens with
    | .key :: rest =>
      let key :=
        if partLeftOut rest then some (Node.void, rest) else node? handles fuel true true rest
      match key with
      | some (key, rest) =>
        let value := match rest with
          | .value :: rest =>
            if partLeftOut rest then some (Node.void, rest) else node? handles fuel true true rest
          | rest => some (Node.void, rest)
        match value with
        | some (value, rest) => blockEntries? handles fuel name ((key, value) :: entries) rest
        | none => none
      | none => none
    | .blockEnd :: rest => some (.table name entries.reverse, rest)
    | _ => none

/-- A list in brackets after some of its items, the last first; `first` says that no comma
    has to follow.  An item may be a table of one entry, whose parts may be left out; the
    token behind a key that is left out is passed over. -/
def flowItems? (handles : Handles) :
    (fuel : Nat) → Option String → List (Node String) → (first : Bool) → List Token →
      Option (Node String × List Token)
  | 0, _, _, _, _ => none
  | fuel + 1, name, items, first, tokens =>
    match first, tokens with
    | _, .listClose :: rest => some (.list name items.reverse, rest)
    | false, .comma :: rest => flowItems? handles fuel name items true rest
    | false, _ => none
    | true, .key :: rest =>
      let key :=
        match rest with
        | .value :: after | .comma :: after | .listClose :: after => some (Node.void, after)
        | rest => node? handles fuel false false rest
      match key with
      | some (key, rest) =>
        let value := match rest with
          | .value :: rest =>
            if flowPartLeftOut rest then some (Node.void, rest)
            else node? handles fuel false false rest
          | rest => some (Node.void, rest)
        match value with
        | some (value, rest) =>
          flowItems? handles fuel name (.table none [(key, value)] :: items) false rest
        | none => none
      | none => none
    | true, rest =>
      match node? handles fuel false false rest with
      | some (item, rest) => flowItems? handles fuel name (item :: items) false rest
      | none => none

/-- A table in braces after some of its entries, the last first; `first` says that no comma
    has to follow. -/
def flowEntries? (handles : Handles) :
    (fuel : Nat) → Option String → List (Node String × Node String) → (first : Bool) →
      List Token → Option (Node String × List Token)
  | 0, _, _, _, _ => none
  | fuel + 1, name, entries, first, tokens =>
    match first, tokens with
    | _, .tableClose :: rest => some (.table name entries.reverse, rest)
    | false, .comma :: rest => flowEntries? handles fuel name entries true rest
    | false, _ => none
    | true, .key :: rest =>
      let key :=
        match rest with
        | .value :: _ => some (Node.void, rest)
        | rest =>
          if flowPartLeftOut rest then some (Node.void, rest)
          else node? handles fuel false false rest
      match key with
      | some (key, rest) =>
        let value := match rest with
          | .value :: rest =>
            if flowPartLeftOut rest then some (Node.void, rest)
            else node? handles fuel false false rest
          | rest => some (Node.void, rest)
        match value with
        | some (value, rest) =>
          flowEntries? handles fuel name ((key, value) :: entries) false rest
        | none => none
      | none => none
    | true, rest =>
      match node? handles fuel false false rest with
      | some (key, rest) => flowEntries? handles fuel name ((key, .void) :: entries) false rest
      | none => none

end

/-! ## 4. Documents -/

/-- The directives at the start of a row of tokens, and what follows them. -/
def directives : List Token → List Directive × List Token
  | .directive d :: rest => (d :: (directives rest).1, (directives rest).2)
  | rest => ([], rest)

/-- The node of a document after its marker, and what follows it; it may be left out. -/
def content? (handles : Handles) (tokens : List Token) : Option (Node String × List Token) :=
  let leftOut := match tokens with
    | [] | .directive _ :: _ | .documentStart :: _ | .documentEnd :: _ => true
    | _ => false
  if leftOut then some (Node.void, tokens)
  else node? handles (2 * tokens.length + 4) true false tokens

/-- The node of a text, which is one document at most.  A text that is one without a marker
    starts with its node; behind a document there may be any number of end markers. -/
def document? (tokens : List Token) : Option (Option (Node String)) := do
  match tokens with
  | [] => return none
  | tokens =>
    let (node, rest) ←
      match directives tokens with
      | (ds, .documentStart :: rest) => (handles? ds).bind fun handles => content? handles rest
      | ([], tokens) => node? usualHandles (2 * tokens.length + 4) true false tokens
      | _ => none
    if rest.all (· == .documentEnd) then return some node else none

end AccessControl.Yaml
