/-
  AccessControl/Yaml/Lexer.lean
  =============================
  **From characters to tokens.**

  Tokens are read one after another, and the first character of each says what it is.
  What that character may be, and what a token changes, depends on what is open: outside
  brackets, items, keys and values open blocks, and can stand only where a key may start;
  within brackets, they do not need white space behind them.

  ## Main definitions

  * `readMark`, `readNamed`, `readScalar`: the tokens, by kind;
  * `readToken`: the next token, and what follows it;
  * `tokens?`: the tokens of a text.
-/
import AccessControl.Yaml.BlockText
import AccessControl.Yaml.Folding
import AccessControl.Yaml.Token

namespace AccessControl.Yaml

/-! ## 1. Marks -/

/-- An item, a key or a value of a block at a place.  It opens a block, unless it stands
    within brackets or in a block that is open there; a key may start behind it. -/
def readBlockMark (o : Outline) (s : Spot) (opening mark : Token) : Option Outline :=
  if o.flow then some (o.add mark)
  else if o.fresh then some ((o.openBlock s.column o.count opening).add mark)
  else none

/-- A colon.  If it ends a key, the marks of the key are put in front of it. -/
def readColon (o : Outline) (s : Spot) : Option Outline :=
  match o.starts with
  | some k :: outer =>
    let o := (o.insert k.before .key).openBlock k.column k.before .tableStart
    some { o.add .value with starts := none :: outer, fresh := false }
  | _ => (readBlockMark o s .tableStart .value).map fun o => { o with fresh := !o.flow }

/-- What a mark changes that is a character of its own, if there is one; the mark can be a
    fault where it stands. -/
def readMark (o : Outline) (s : Spot) (rest : List Spot) : Option (Option Outline) :=
  match s.char with
  | '[' => some (o.expectKey s |>.map (·.openFlow .listOpen))
  | '\x7b' => some (o.expectKey s |>.map (·.openFlow .tableOpen))
  | ']' => some (o.closeFlow .listClose)
  | '\x7d' => some (o.closeFlow .tableClose)
  | ',' => some (o.forgetKey.map fun o => { o.add .comma with fresh := true })
  | '-' =>
    if startsGap rest then
      some do
        let o ← (← readBlockMark o s .listStart .item).forgetKey
        return { o with fresh := true }
    else none
  | '?' =>
    if o.flow || startsGap rest then
      some do
        let o ← (← readBlockMark o s .tableStart .key).forgetKey
        return { o with fresh := !o.flow }
    else none
  | ':' => if o.flow || startsGap rest then some (readColon o s) else none
  | _ => none

/-! ## 2. Names -/

/-- The token of a name or a tag, if there is one, and what follows it; the token can be a
    fault. -/
def readNamed (o : Outline) (s : Spot) (rest : List Spot) :
    Option (Option (Outline × List Spot)) :=
  let named (read : Option (Token × List Spot)) : Option (Outline × List Spot) := do
    let o ← o.expectKey s
    let (token, rest) ← read
    return ({ o.add token with fresh := false }, rest)
  match s.char with
  | '*' => some (named ((name? rest).map fun r => (.alias r.1, r.2)))
  | '&' => some (named ((name? rest).map fun r => (.anchor r.1, r.2)))
  | '!' => some (named ((tagMark? o.flow rest).map fun r => (.tag r.1, r.2)))
  | _ => none

/-! ## 3. Scalars -/

/-- A scalar, and what follows it. -/
def readScalar (o : Outline) (s : Spot) (rest : List Spot) : Option (Outline × List Spot) :=
  if !o.flow && (s.char = '|' || s.char = '>') then do
    let o ← o.forgetKey
    let (text, rest) ← blockText (s.char == '>') o.columns.head? rest
    let style := if s.char = '|' then ScalarStyle.literal else .marked
    return ({ o.add (.scalar (String.ofList text) style) with fresh := true }, rest)
  else if s.char = '\'' || s.char = '"' then do
    let o ← o.expectKey s
    let (text, rest) ←
      if s.char = '"' then doubleText Fold.none rest else singleText Fold.none rest
    return ({ o.add (.scalar (String.ofList text) .marked) with fresh := false }, rest)
  else if startsPlain o.flow s rest then do
    let o ← o.expectKey s
    let indent := (o.columns.head?.map (· + 1)).getD 0
    let p ← plainScalar o.flow indent Fold.none (s :: rest)
    return ({ o.add (.scalar (String.ofList p.text) .plain) with fresh := p.ended }, p.rest)
  else none

/-! ## 4. Texts -/

/-- The token of a directive or a marker of documents, if there is one, and what follows it:
    it ends all blocks, and can be a fault. -/
def readBorder (o : Outline) (s : Spot) (rest : List Spot) :
    Option (Option (Outline × List Spot)) :=
  let border (read : Option (Token × List Spot)) : Option (Outline × List Spot) := do
    let o ← (o.closeBlocks fun _ => false).forgetKey
    let (token, rest) ← read
    return ({ o.add token with fresh := false }, rest)
  if s.column = 0 && s.char = '%' then
    some (border ((directive? rest).map fun r => (.directive r.1, r.2)))
  else if startsMarker (s :: rest) then
    some (border (some (if s.char = '-' then .documentStart else .documentEnd, rest.drop 2)))
  else none

/-- The token at a place, and what follows it. -/
def readToken (o : Outline) (s : Spot) (rest : List Spot) : Option (Outline × List Spot) := do
  let o ← o.expireKeys s
  let o := o.closeBlocks fun column => column ≤ s.column
  match readBorder o s rest with
  | some read => read
  | none =>
    match readMark o s rest with
    | some read => read.map fun o => (o, rest)
    | none =>
      match readNamed o s rest with
      | some read => read
      | none => readScalar o s rest

/-- The tokens of a text, after those that were read already.  Each step uses up a
    character, so as many steps as characters are enough. -/
def tokensFrom : Nat → Outline → List Spot → Option (List Token)
  | 0, _, _ => none
  | fuel + 1, o, spots =>
    match toToken o.flow o.fresh false spots with
    | (_, []) => do
      let o ← (o.closeBlocks fun _ => false).forgetKey
      return o.tokens.reverse
    | (fresh, s :: rest) =>
      match readToken { o with fresh := fresh } s rest with
      | some (o, rest) => tokensFrom fuel o rest
      | none => none

/-- The tokens of a text. -/
def tokens? (cs : List Char) : Option (List Token) :=
  if cs.all isReadable then
    let spots := spots cs
    tokensFrom (spots.length + 1) Outline.empty spots
  else none

end AccessControl.Yaml
