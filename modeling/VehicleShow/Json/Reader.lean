import VehicleShow.Json.Lexer
import VehicleShow.Json.Value

/-! # Reading JSON

A reader takes a value off the front of a token list.  `elements` and `members` turn readers of
items into readers of arrays and objects, `record` reads known fields from an object or from a list
of the values in order, and `parse` reads a whole text as one value.  Reading is a single pass from
left to right, so the first fault on the way is the one reported.

A value that nothing depends on is passed over by `skip` without being kept.  Its brackets and
punctuation have to be in order, but its numbers may be of any size, its strings may hold unpaired
surrogates, and it may nest to any depth. -/
set_option autoImplicit false
namespace VehicleShow.Json

abbrev Reader (α : Type) : Type := List Token → Except Fault (α × List Token)

/-! ## Faults by place -/

def punctuationFault : List Token → Fault
  | [] => .truncated
  | _ :: _ => .malformed

def keyFault : List Token → Fault
  | [] => .truncated
  | .broken true fault _ :: _ => fault
  | _ :: _ => .malformed

def valueFault : List Token → Fault
  | [] => .truncated
  | .broken _ fault _ :: _ => fault
  | _ :: _ => .malformed

/-- Where a value of a certain type has to stand. A value of another type is a mismatch, known from
its first token, which must be in order itself. -/
def typeFault : List Token → Fault
  | .null :: _ | .bool _ :: _ | .str (some _) :: _ | .opening _ :: _ => .mismatch
  | .num n :: _ => if n.inRange then .mismatch else .malformed
  | tokens => valueFault tokens

namespace Reader

/-! ## Scalars -/

def string : Reader String
  | .str (some content) :: rest => .ok (content, rest)
  | tokens => .error (typeFault tokens)

def key : Reader String
  | .str (some content) :: rest => .ok (content, rest)
  | tokens => .error (keyFault tokens)

def uint64 : Reader UInt64
  | .num n :: rest => match n.toUInt64? with
      | some value => .ok (value, rest)
      | none => .error (typeFault (.num n :: rest))
  | tokens => .error (typeFault tokens)

def nullable {α : Type} (item : Reader α) : Reader (Option α)
  | .null :: rest => .ok (none, rest)
  | tokens => (item tokens).map fun (value, rest) => (some value, rest)

def colon : Reader Unit
  | .colon :: rest => .ok ((), rest)
  | tokens => .error (punctuationFault tokens)

def field {α : Type} (item : Reader α) : Reader α := fun tokens => do
  let ((), tokens) ← colon tokens
  item tokens

/-! ## Arrays and objects

The loops take a bound that has at least as many tokens as are left to read; every item takes one
token or more, so a loop that starts from the tokens themselves runs out of its bound only where the
text ends. -/

def elementsLoop {α : Type} (item : Reader α) : List Token → Reader (List α)
  | [], _ => .error .truncated
  | _ :: bound, tokens => do
      let (value, tokens) ← item tokens
      match tokens with
      | .closing .square :: rest => .ok ([value], rest)
      | .comma :: rest =>
          let (values, rest) ← elementsLoop item bound rest
          .ok (value :: values, rest)
      | rest => .error (punctuationFault rest)

/-- The items of an array, after its opening bracket. -/
def elements {α : Type} (item : Reader α) : Reader (List α)
  | .closing .square :: rest => .ok ([], rest)
  | tokens => elementsLoop item tokens tokens

def membersLoop {σ : Type} (step : σ → String → Reader σ) : List Token → σ → Reader σ
  | [], _, _ => .error .truncated
  | _ :: bound, state, .str (some key) :: tokens => do
      let (state, tokens) ← step state key tokens
      match tokens with
      | .closing .curly :: rest => .ok (state, rest)
      | .comma :: rest => membersLoop step bound state rest
      | rest => .error (punctuationFault rest)
  | _, _, tokens => .error (keyFault tokens)

/-- The members of an object, after its opening bracket: `step` takes what follows a key, colon
included, and adds it to the state. -/
def members {σ : Type} (step : σ → String → Reader σ) (state : σ) : Reader σ
  | .closing .curly :: rest => .ok (state, rest)
  | tokens => membersLoop step tokens state tokens

/-! ## Any value -/

/-- A member of any type, kept in front of those before it. -/
def anyMember (item : Reader Json) (before : List (String × Json)) (key : String) :
    Reader (List (String × Json)) := fun tokens => do
  let (value, rest) ← field item tokens
  .ok ((key, value) :: before, rest)

/-- A value whose items are read by `inner`; without `inner` no bracket may open. -/
def valueWith (inner : Option (Reader Json)) : Reader Json
  | .null :: rest => .ok (.null, rest)
  | .bool value :: rest => .ok (.bool value, rest)
  | .num n :: rest => if n.inRange then .ok (.num n, rest) else .error .malformed
  | .str (some content) :: rest => .ok (.str content, rest)
  | .opening bracket :: rest =>
      match inner, bracket with
      | none, _ => .error .malformed
      | some item, .square => do
          let (items, rest) ← elements item rest
          .ok (.arr items, rest)
      | some item, .curly => do
          let (reversed, rest) ← members (anyMember item) [] rest
          .ok (.obj reversed.reverse, rest)
  | tokens => .error (valueFault tokens)

def value : Nat → Reader Json
  | 0 => valueWith none
  | depth + 1 => valueWith (some (value depth))

def complete {α : Type} (item : Reader α) (tokens : List Token) : Except Fault α := do
  let (value, rest) ← item tokens
  if rest.isEmpty then .ok value else .error .malformed

/-! ## Records -/

def positionalRest {σ : Type} : List (σ → Reader σ) → σ → Reader σ
  | _, state, .closing .square :: rest => .ok (state, rest)
  | item :: items, state, .comma :: tokens => do
      let (state, rest) ← item state tokens
      positionalRest items state rest
  | [], _, .comma :: _ => .error .malformed
  | _, _, tokens => .error (punctuationFault tokens)

/-- A list of values in order, after its opening bracket. It may be shorter than the readers, and
not longer. -/
def positional {σ : Type} : List (σ → Reader σ) → σ → Reader σ
  | _, state, .closing .square :: rest => .ok (state, rest)
  | item :: items, state, tokens => do
      let (state, rest) ← item state tokens
      positionalRest items state rest
  | [], _, tokens => .error (punctuationFault tokens)

def record {σ : Type} (step : σ → String → Reader σ) (items : List (σ → Reader σ)) (state : σ) :
    Reader σ
  | .opening .square :: tokens => positional items state tokens
  | .opening .curly :: tokens => members step state tokens
  | tokens => .error (typeFault tokens)

end Reader

/-! ## Whole texts -/

def maxDepth : Nat := 127

def parse (text : String) : Except Fault Json :=
  Reader.complete (Reader.value maxDepth) (lex text.toList)

/-! ## Skipping a value -/

/-- What may come next while a value is skipped: a value, the first item of a bracket or its end, a
comma or the end of a bracket, the key of a member, or the colon after one. -/
inductive Skip where
  | value
  | first
  | after
  | key
  | colon
  deriving DecidableEq, Repr

namespace Skip

abbrev Step : Type := Except Fault (Skip × List Bracket)

def valueStep (enclosing : List Bracket) : Token → Step
  | .null | .bool _ | .num _ | .str _ => .ok (.after, enclosing)
  | .opening bracket => .ok (.first, bracket :: enclosing)
  | .broken _ _ fault => .error fault
  | _ => .error .malformed

def keyStep (enclosing : List Bracket) : Token → Step
  | .str _ => .ok (.colon, enclosing)
  | .broken true _ fault => .error fault
  | _ => .error .malformed

def closeStep (bracket : Bracket) (enclosing : List Bracket) (closing : Bracket) : Step :=
  if closing = bracket then .ok (.after, enclosing) else .error .malformed

def step : Skip → List Bracket → Token → Step
  | .value, enclosing, token => valueStep enclosing token
  | .key, enclosing, token => keyStep enclosing token
  | .colon, enclosing, .colon => .ok (.value, enclosing)
  | .first, bracket :: enclosing, .closing closing => closeStep bracket enclosing closing
  | .first, .square :: enclosing, token => valueStep (.square :: enclosing) token
  | .first, .curly :: enclosing, token => keyStep (.curly :: enclosing) token
  | .after, bracket :: enclosing, .closing closing => closeStep bracket enclosing closing
  | .after, .square :: enclosing, .comma => .ok (.value, .square :: enclosing)
  | .after, .curly :: enclosing, .comma => .ok (.key, .curly :: enclosing)
  | _, _, _ => .error .malformed

def run : Skip → List Bracket → Reader Unit
  | _, _, [] => .error .truncated
  | state, enclosing, token :: tokens =>
      match step state enclosing token with
      | .error fault => .error fault
      | .ok (.after, []) => .ok ((), tokens)
      | .ok (state, enclosing) => run state enclosing tokens

end Skip

def Reader.skip : Reader Unit := Skip.run .value []

end VehicleShow.Json
